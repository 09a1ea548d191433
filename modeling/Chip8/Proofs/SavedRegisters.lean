/-
# Registers saved in memory

An instruction saves the first registers in memory at the index register, and another one loads
them from there. What lies between the two may be any instructions, timer periods and keys, some
of them refused. As long as none of them writes one of the saved cells and the index register ends
where it was, loading restores what was saved.

The induction is on the commands in between. What it carries is that each saved cell keeps its
byte, and its step says that a command changes no cell that it does not store to.
-/

import Chip8.Proofs.Loading
import Chip8.Proofs.Machine.Host
import Chip8.Proofs.Machine.Instruction
import Chip8.Proofs.Machine.Writes

namespace Chip8

/-- A command that does an instruction, or tells of a timer period or a key. -/
def Command.Intervenes : Command → Prop
  | step | exec _ _ | tickTimers | setKey _ _ => True
  | _ => False

theorem Operation.eq_code_of_ofCode? {code : Int} {operation : Operation}
    (found : ofCode? code = some operation) : code = operation.code.toNat := by
  rw [ofCode?] at found
  have same := List.find?_some found
  exact (beq_iff_eq.mp same).symm

namespace Memory

variable (memory : Memory) {start count : Nat}

theorem getElem?_bytesFrom {place : Nat} (inside : place < count) :
    (memory.bytesFrom start count)[place]? = some (memory.byteAt (start + place)) := by
  simp [bytesFrom, inside]

/-- Bytes put where they were read change nothing. -/
theorem overwrite_bytesFrom : memory.overwrite start (memory.bytesFrom start count) = memory := by
  apply Vector.ext
  intro address inside
  rw [← byteAt_of_lt _ inside, ← byteAt_of_lt _ inside, byteAt_overwrite]
  split
  case isTrue covered =>
    rw [List.getD_eq_getElem?_getD]
    by_cases there : address - start < count
    · rw [getElem?_bytesFrom memory there, Option.getD_some, Nat.add_sub_cancel' covered.1]
    · have short : (memory.bytesFrom start count).length ≤ address - start := by
        rw [length_bytesFrom]
        exact Nat.le_of_not_lt there
      rw [List.getElem?_eq_none short, Option.getD_none]
  case isFalse => rfl

end Memory

namespace Machine

variable {machine : Machine} {command : Command} {operation : Operation} {word : Word}
  {address : Nat}

/-! ## Commands that spare cells -/

/-- Obeying a command writes a cell: it does an instruction that goes through and writes it. -/
def Stores (machine : Machine) (command : Command) (address : Nat) : Prop :=
  ∃ operation word status, machine.Does command operation word ∧
    machine.Answers command status ∧ operation.WritesCell word machine.index address

/-- None of several commands, obeyed one after another, writes one of some cells. -/
def Spares (machine : Machine) (cells : Set Nat) : List Command → Prop
  | [] => True
  | command :: rest => (∀ address ∈ cells, ¬ machine.Stores command address) ∧
    (perform command machine).machine.Spares cells rest

theorem Does.byteAt (does : machine.Does command operation word)
    (unstored : ¬ machine.Stores command address) :
    (perform command machine).machine.memory.byteAt address = machine.memory.byteAt address := by
  obtain ⟨start, ⟨counter, tick, last, rfl⟩, answer, _, _, _, _, left⟩ := does.exists_exec
  rw [left]
  cases result : (Machine.exec operation word
      { machine with counter := counter, tick := tick, last := last }).result with
  | error fault =>
    -- an operation that is refused writes nothing, whatever is listed for it
    rw [atomic_exec _ _ fault result]
  | ok status =>
    exact byteAt_exec _ _ fun writes =>
      unstored ⟨operation, word, status, does, answer status result, writes⟩

/-- What is done directly is what the code and the word say. -/
theorem Does.eq_of_exec {other : Operation} {otherWord : Word}
    (does : machine.Does (.exec operation.code.toNat word) other otherWord) :
    other = operation ∧ otherWord = word := by
  generalize told : Command.exec operation.code.toNat word = command at does
  cases does with
  | directly _ _ =>
    injection told with code same
    have found := Operation.ofCode?_code operation
    rw [code, Operation.ofCode?_code] at found
    exact ⟨Option.some.inj found, same.symm⟩
  | step => cases told

theorem not_stores_exec (unwritten : ¬ operation.WritesCell word machine.index address) :
    ¬ machine.Stores (.exec operation.code.toNat word) address := by
  rintro ⟨other, otherWord, reply, does, _, writes⟩
  obtain ⟨rfl, rfl⟩ := does.eq_of_exec
  exact unwritten writes

/-- A cell changes only by a command that writes it. -/
theorem byteAt_perform (intervenes : command.Intervenes)
    (unstored : ¬ machine.Stores command address) :
    (perform command machine).machine.memory.byteAt address = machine.memory.byteAt address := by
  cases command with
  | step =>
    rcases step_beginnings machine with past | ⟨inside, unknown⟩ | ⟨operation, next⟩
    · show machine.step.machine.memory.byteAt address = _
      rw [step_of_past machine past]
      rfl
    · show machine.step.machine.memory.byteAt address = _
      rw [step_of_unknown machine inside unknown]
      rfl
    · exact (Does.step next).byteAt unstored
  | exec code word =>
    cases found : Operation.ofCode? code with
    | none =>
      show (machine.execCode code word).machine.memory.byteAt address = _
      rw [execCode, found]
      rfl
    | some operation =>
      obtain rfl := Operation.eq_code_of_ofCode? found
      exact (Does.directly operation word).byteAt unstored
  | tickTimers => rfl
  | setKey key pressed =>
    show (machine.setKey key pressed).machine.memory.byteAt address = _
    rw [machine_setKey]
  | _ => exact intervenes.elim

theorem Spares.byteAt {cells : Set Nat} {between : List Command}
    (spares : machine.Spares cells between) (intervene : ∀ command ∈ between, command.Intervenes)
    (inside : address ∈ cells) :
    (machine.after between).memory.byteAt address = machine.memory.byteAt address := by
  induction between generalizing machine with
  | nil => rfl
  | cons command rest ih =>
    obtain ⟨first, later⟩ := List.forall_mem_cons.mp intervene
    exact (ih spares.2 later).trans (byteAt_perform first (spares.1 address inside))

/-! ## Storing and loading -/

theorem storeAtIndex_of_le {bytes : List Byte} (fits : machine.index.toNat + bytes.length ≤ 4096) :
    machine.storeAtIndex bytes =
      goOn { machine with memory := machine.memory.overwrite machine.index.toNat bytes } [] := by
  have inside : InMemory machine.index.toNat bytes.length := by
    unfold InMemory
    omega
  rw [storeAtIndex, Memory.writeBlock, if_pos inside, Int.toNat_natCast]

theorem loadAtIndex_of_le {count : Nat} (fits : machine.index.toNat + count ≤ 4096) :
    machine.loadAtIndex count =
      goOn
        { machine with
          registers :=
            replaceFirst machine.registers (machine.memory.bytesFrom machine.index.toNat count) }
        [] := by
  rw [loadAtIndex, Memory.readBlock_of_le machine.memory fits]

/-- An instruction that stores bytes puts them into memory and does nothing else. -/
theorem Does.stored {bytes : List Byte} (does : machine.Does command operation word)
    (fits : machine.index.toNat + bytes.length ≤ 4096)
    (done : ∀ start, machine.Elsewhere start →
      Machine.exec operation word start = start.storeAtIndex bytes) :
    machine.Answers command .running ∧
      Elsewhere { machine with memory := machine.memory.overwrite machine.index.toNat bytes }
        (perform command machine).machine := by
  refine does.of_goOn
    (fun start => { start with memory := start.memory.overwrite start.index.toNat bytes }) ?_ ?_
  · intro start stands
    rw [done start stands]
    obtain ⟨_, _, _, rfl⟩ := stands
    exact storeAtIndex_of_le fits
  · rintro start ⟨_, _, _, rfl⟩
    exact ⟨_, _, _, rfl⟩

theorem Does.saved (does : machine.Does command .storeRegisters word)
    (fits : machine.index.toNat + word.x.val + 1 ≤ 4096) :
    machine.Answers command .running ∧
      Elsewhere
        { machine with
          memory := machine.memory.overwrite machine.index.toNat
            (machine.registers.toList.take (word.x.val + 1)) }
        (perform command machine).machine := by
  apply does.stored
  · rw [List.length_take]
    omega
  · rintro start ⟨_, _, _, rfl⟩
    rfl

theorem Does.loaded (does : machine.Does command .loadRegisters word)
    (fits : machine.index.toNat + word.x.val + 1 ≤ 4096) :
    machine.Answers command .running ∧
      Elsewhere
        { machine with
          registers := replaceFirst machine.registers
            (machine.memory.bytesFrom machine.index.toNat (word.x.val + 1)) }
        (perform command machine).machine := by
  refine does.of_goOn
    (fun start => { start with
      registers := replaceFirst start.registers
        (start.memory.bytesFrom start.index.toNat (word.x.val + 1)) }) ?_ ?_
  · rintro start ⟨_, _, _, rfl⟩
    exact loadAtIndex_of_le fits
  · rintro start ⟨_, _, _, rfl⟩
    exact ⟨_, _, _, rfl⟩

/-! ## Saving and restoring -/

/-- The first registers are what they were when they were saved. The others, the index register
and memory are what they were just before. -/
structure Restores (x : Fin 16) (saved before after : Machine) : Prop where
  lower : ∀ register ≤ x, after.registers.get register = saved.registers.get register
  upper : ∀ register > x, after.registers.get register = before.registers.get register
  index : after.index = before.index
  memory : after.memory = before.memory

theorem Does.holds_saved (does : machine.Does command .storeRegisters word)
    (fits : machine.index.toNat + word.x.val + 1 ≤ 4096) {register : Fin 16}
    (low : register ≤ word.x) :
    (perform command machine).machine.memory.byteAt (machine.index.toNat + register.val) =
      machine.registers.get register := by
  obtain ⟨_, _, _, _, left⟩ := does.saved fits
  rw [left]
  apply Memory.holds_overwrite
  · rw [List.length_take]
    omega
  · have place : register.val < word.x.val + 1 := Nat.lt_succ_of_le low
    have inside : register.val < machine.registers.toList.length := by
      rw [Vector.length_toList]
      exact register.isLt
    rw [List.getElem?_take_of_lt place, List.getElem?_eq_getElem inside, Vector.getElem_toList]
    rfl

/-- Loading takes the first registers from memory and leaves the others. -/
theorem get_replaceFirst (registers : Vector Byte 16) (memory : Memory) (start count : Nat)
    (register : Fin 16) :
    (replaceFirst registers (memory.bytesFrom start count)).get register =
      if register.val < count then memory.byteAt (start + register.val)
      else registers.get register := by
  show (replaceFirst registers _)[register.val] = _
  rw [replaceFirst, Vector.getElem_ofFn, List.getD_eq_getElem?_getD]
  split
  case isTrue covered =>
    rw [Memory.getElem?_bytesFrom memory covered]
    rfl
  case isFalse beyond =>
    have short : (memory.bytesFrom start count).length ≤ register.val := by
      rw [Memory.length_bytesFrom]
      exact Nat.le_of_not_lt beyond
    rw [List.getElem?_eq_none short]
    rfl

theorem Does.restores {saved : Machine} (does : machine.Does command .loadRegisters word)
    (fits : machine.index.toNat + word.x.val + 1 ≤ 4096)
    (held : ∀ register ≤ word.x,
      machine.memory.byteAt (machine.index.toNat + register.val) = saved.registers.get register) :
    saved.Restores word.x machine (perform command machine).machine := by
  obtain ⟨_, _, _, _, left⟩ := does.loaded fits
  rw [left]
  refine ⟨?_, ?_, rfl, rfl⟩
  · intro register low
    refine (get_replaceFirst machine.registers _ _ _ register).trans ?_
    rw [if_pos (Nat.lt_succ_of_le low)]
    exact held register low
  · intro register high
    refine (get_replaceFirst machine.registers _ _ _ register).trans ?_
    rw [if_neg (Nat.not_lt.mpr high)]

/-- What was saved is restored after commands that spare it. -/
theorem Does.restores_after {save : Command} (saves : machine.Does save .storeRegisters word)
    (fits : machine.index.toNat + word.x.val + 1 ≤ 4096) {between : List Command}
    (intervene : ∀ command ∈ between, command.Intervenes)
    (spares : (perform save machine).machine.Spares
      (Set.Icc machine.index.toNat (machine.index.toNat + word.x.val)) between)
    (same : (machine.after (save :: between)).index = machine.index) {other : Word}
    (loads : (machine.after (save :: between)).Does command .loadRegisters other)
    (sameX : other.x = word.x) :
    (machine.after (save :: between)).Answers command .running ∧
      machine.Restores word.x (machine.after (save :: between))
        (perform command (machine.after (save :: between))).machine := by
  have reaches : (machine.after (save :: between)).index.toNat + other.x.val + 1 ≤ 4096 := by
    rw [same, sameX]
    exact fits
  refine ⟨(loads.loaded reaches).1, ?_⟩
  rw [← sameX]
  apply loads.restores reaches
  intro register low
  rw [sameX] at low
  rw [same]
  have inside : machine.index.toNat + register.val ∈
      Set.Icc machine.index.toNat (machine.index.toNat + word.x.val) :=
    ⟨Nat.le_add_right _ _, Nat.add_le_add_left low _⟩
  exact (spares.byteAt intervene inside).trans (saves.holds_saved fits low)

/-- Registers that were loaded are stored where they came from. -/
theorem Does.stores_loaded {load : Command} (loads : machine.Does load .loadRegisters word)
    (fits : machine.index.toNat + word.x.val + 1 ≤ 4096) {other : Word}
    (stores : (perform load machine).machine.Does command .storeRegisters other)
    (sameX : other.x = word.x) :
    machine.Answers load .running ∧
      (perform load machine).machine.Answers command .running ∧
      (perform command (perform load machine).machine).machine.memory = machine.memory := by
  obtain ⟨ran, _, _, _, left⟩ := loads.loaded fits
  have again : (perform load machine).machine.index.toNat + other.x.val + 1 ≤ 4096 := by
    rw [left, sameX]
    exact fits
  obtain ⟨also, _, _, _, last⟩ := stores.saved again
  have length := Memory.length_bytesFrom machine.memory machine.index.toNat (word.x.val + 1)
  have few : (machine.memory.bytesFrom machine.index.toNat (word.x.val + 1)).length ≤ 16 := by
    omega
  refine ⟨ran, also, ?_⟩
  rw [last, left, sameX]
  -- the registers stored are the block that was loaded, without those behind it
  dsimp only
  rw [toList_replaceFirst machine.registers few, List.take_left' length,
    Memory.overwrite_bytesFrom]

/-! ## Digits -/

/-- A byte lies in memory as three decimal digits, and nothing else has changed there. -/
structure WroteDigits (value : Byte) (before after : Machine) : Prop where
  hundreds : (after.memory.byteAt before.index.toNat).toNat ≤ 9
  tens : (after.memory.byteAt (before.index.toNat + 1)).toNat ≤ 9
  units : (after.memory.byteAt (before.index.toNat + 2)).toNat ≤ 9
  value : 100 * (after.memory.byteAt before.index.toNat).toNat +
      10 * (after.memory.byteAt (before.index.toNat + 1)).toNat +
      (after.memory.byteAt (before.index.toNat + 2)).toNat = value.toNat
  others : ∀ address : Nat,
    address < before.index.toNat ∨ before.index.toNat + 3 ≤ address →
      after.memory.byteAt address = before.memory.byteAt address

theorem toNat_decimalDigits (value : Byte) :
    (value / 100).toNat ≤ 9 ∧ (value / 10 % 10).toNat ≤ 9 ∧ (value % 10).toNat ≤ 9 ∧
      100 * (value / 100).toNat + 10 * (value / 10 % 10).toNat + (value % 10).toNat =
        value.toNat := by
  have bound := value.toNat_lt
  have hundreds : (value.toNat : Int) / 100 = (value / 100).toNat := uncut_div value 100
  have rest : (value.toNat : Int) / 10 = (value / 10).toNat := uncut_div value 10
  have tens : ((value / 10).toNat : Int) % 10 = (value / 10 % 10).toNat := uncut_mod _ 10
  have units : (value.toNat : Int) % 10 = (value % 10).toNat := uncut_mod value 10
  omega

theorem Does.wroteDigits (does : machine.Does command .storeDigits word)
    (fits : machine.index.toNat + 3 ≤ 4096) :
    machine.Answers command .running ∧
      machine.WroteDigits (machine.registers.get word.x) (perform command machine).machine := by
  have digits :
      machine.index.toNat + (decimalDigits (machine.registers.get word.x)).length ≤ 4096 := fits
  have done : ∀ start, machine.Elsewhere start →
      Machine.exec .storeDigits word start =
        start.storeAtIndex (decimalDigits (machine.registers.get word.x)) := by
    rintro start ⟨_, _, _, rfl⟩
    rfl
  obtain ⟨ran, _, _, _, left⟩ := does.stored digits done
  have held := Memory.holds_overwrite machine.memory digits
  obtain ⟨hundreds, tens, units, sum⟩ := toNat_decimalDigits (machine.registers.get word.x)
  rw [← held 0 _ rfl] at hundreds sum
  rw [← held 1 _ rfl] at tens sum
  rw [← held 2 _ rfl] at units sum
  refine ⟨ran, ?_⟩
  rw [left]
  exact
    { hundreds := hundreds
      tens := tens
      units := units
      value := sum
      others := fun _ outside => Memory.byteAt_overwrite_outside machine.memory outside }

/-! ## The index register -/

theorem Does.index_eq (does : machine.Does command operation word)
    (unwritten : Part.index ∉ operation.writes) :
    (perform command machine).machine.index = machine.index := by
  obtain ⟨start, ⟨_, _, _, rfl⟩, _, _, _, _, _, left⟩ := does.exists_exec
  rw [left]
  exact same_exec _ word unwritten

/-- Registers saved in memory are restored from there after any instructions, timer periods and
keys that spare the saved cells and bring the index register back, whatever they do to the
registers. Loading leaves the other registers, and storing what was loaded leaves memory. Three
decimal digits of a register are stored with nothing else changed, and none of this changes the
index register. A machine of plain integers does the same. -/
theorem saved_registers_restored {machine : Machine} (wellFormed : machine.WellFormed) :
    (∀ (save restore : Command) (between : List Command) (word other : Word),
      machine.Does save .storeRegisters word → machine.index.toNat + word.x.val + 1 ≤ 4096 →
      (∀ command ∈ between, command.Intervenes) →
      (perform save machine).machine.Spares
        (Set.Icc machine.index.toNat (machine.index.toNat + word.x.val)) between →
      let reached := machine.after (save :: between)
      reached.index = machine.index → reached.Does restore .loadRegisters other →
      other.x = word.x →
      machine.Answers save .running ∧
        reached.Answers restore .running ∧
        machine.Restores word.x reached (perform restore reached).machine) ∧
    (∀ (load store : Command) (word other : Word),
      machine.Does load .loadRegisters word → machine.index.toNat + word.x.val + 1 ≤ 4096 →
      let loaded := (perform load machine).machine
      loaded.Does store .storeRegisters other → other.x = word.x →
      machine.Answers load .running ∧
        loaded.Answers store .running ∧
        (perform store loaded).machine.memory = machine.memory) ∧
    (∀ (command : Command) (word : Word),
      machine.Does command .storeDigits word → machine.index.toNat + 3 ≤ 4096 →
      machine.Answers command .running ∧
        machine.WroteDigits (machine.registers.get word.x) (perform command machine).machine) ∧
    (∀ (command : Command) (operation : Operation) (word : Word),
      machine.Does command operation word →
      operation ∈ [.storeRegisters, .loadRegisters, .storeDigits] →
      (perform command machine).machine.index = machine.index) ∧
    (∀ (commands : List Command) (command : Command),
      let reached := machine.after commands
      machine.toRaw.after commands = reached.toRaw ∧
        (RawMachine.obey command).run reached.toRaw =
          (perform command reached).toRaw fun _ => ()) := by
  refine ⟨?_, ?_, fun command word does fits => does.wroteDigits fits, ?_, ?_⟩
  · intro save restore between word other saves fits intervene spares reached same loads sameX
    exact ⟨(saves.saved fits).1, saves.restores_after fits intervene spares same loads sameX⟩
  · intro load store word other loads fits loaded stores sameX
    exact loads.stores_loaded fits stores sameX
  · intro command operation word does listed
    apply does.index_eq
    cases operation with
    | storeRegisters | loadRegisters | storeDigits => decide
    | _ => exact absurd listed (by decide)
  · intro commands command reached
    exact ⟨after_toRaw wellFormed commands, run_obey reached (wellFormed.after commands) command⟩

/-- Three registers are saved in the last three cells of memory. Before they are restored, one of
them is changed, two registers are saved elsewhere, and a key is refused. -/
theorem saved_registers_restored_at_end_of_memory :
    let machine := (bare []).after
      [.exec Operation.loadByte.code.toNat 0x6007, .exec Operation.loadByte.code.toNat 0x6209,
        .exec Operation.loadIndex.code.toNat 0xAFFD]
    let save := Command.exec Operation.storeRegisters.code.toNat 0xF255
    let between : List Command :=
      [.exec Operation.loadIndex.code.toNat 0xA300,
        .exec Operation.storeRegisters.code.toNat 0xF155, .setKey 16 true,
        .exec Operation.loadByte.code.toNat 0x6263, .tickTimers,
        .exec Operation.loadIndex.code.toNat 0xAFFD]
    let reached := machine.after (save :: between)
    let restored :=
      (perform (.exec Operation.loadRegisters.code.toNat 0xF265) reached).machine
    machine.WellFormed ∧ machine.Does save .storeRegisters 0xF255 ∧
      machine.index.toNat + (0xF255 : Word).x.val + 1 ≤ 4096 ∧
      (∀ command ∈ between, command.Intervenes) ∧
      (perform save machine).machine.Spares (Set.Icc 0xFFD 0xFFF) between ∧
      reached.index = machine.index ∧ reached.registers.get 2 = 0x63 ∧
      restored.registers.get 2 = 9 := by
  intro machine save between reached restored
  have wellFormed : machine.WellFormed := (wellFormed_bare _).after _
  have saves : machine.Does save .storeRegisters 0xF255 := .directly .storeRegisters 0xF255
  have intervene : ∀ command ∈ between, command.Intervenes := by
    simp [between, Command.Intervenes]
  have spares : (perform save machine).machine.Spares (Set.Icc 0xFFD 0xFFF) between := by
    refine ⟨fun _ _ => not_stores_exec id, ?_, ?_, fun _ _ => not_stores_exec id, ?_,
      fun _ _ => not_stores_exec id, trivial⟩
    · rintro address ⟨least, _⟩
      apply not_stores_exec
      rintro ⟨_, most⟩
      exact absurd (Nat.le_trans least most) (by decide +kernel)
    · rintro _ _ ⟨_, _, _, does, _⟩
      cases does
    · rintro _ _ ⟨_, _, _, does, _⟩
      cases does
  have back : reached.index = machine.index := by decide +kernel
  obtain ⟨restores, _⟩ := saved_registers_restored wellFormed
  obtain ⟨_, _, left⟩ := restores save (.exec Operation.loadRegisters.code.toNat 0xF265) between
    0xF255 0xF265 saves (by decide) intervene spares back (.directly .loadRegisters 0xF265) rfl
  refine ⟨wellFormed, saves, by decide, intervene, spares, back, by decide +kernel, ?_⟩
  exact (left.lower 2 (by decide)).trans rfl

end Machine

end Chip8
