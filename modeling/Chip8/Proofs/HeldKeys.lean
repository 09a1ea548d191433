/-
# Which keys are held

A host presses and releases keys one by one, and whatever else it has the machine do in between,
nothing but another call that names a key changes whether that key is held. Only going back to
power-on releases them all. So the held keys can be read off the history of commands: a key is held
if the last command that says something of it has pressed it, and where none does, it stays as it
was.

Keys are integers here, and a call may name any. One that names no key of the keypad is refused and
counts for nothing, in the history as on the machine.
-/

import Chip8.Proofs.Machine.Host
import Chip8.Proofs.NextCounter

namespace Chip8

/-- A command that is about keys: a call that names one, or going back to power-on. -/
def Command.SetsKeys : Command → Prop
  | setKey _ _ | reset => True
  | _ => False

/-- What a command says of a key: that it is pressed, that it is released, or nothing. -/
def Command.says? (key : Int) : Command → Option Bool
  | setKey named pressed => if named = key then some pressed else none
  | reset => some false
  | _ => none

/-- What the last of these commands that says something of a key says of it. -/
def lastSaid? (key : Int) : List Command → Option Bool
  | [] => none
  | command :: rest => (lastSaid? key rest).or (command.says? key)

namespace Keypad

variable {keypad : Keypad} {key : Int}

/-- No key has a number outside the keypad. -/
theorem real_of_mem_numbers (held : key ∈ keypad.numbers) : 0 ≤ key ∧ key < 16 := by
  obtain ⟨place, inside, _, rfl⟩ := mem_numbers.mp held
  omega

theorem natCast_mem_numbers_iff {keypad : Keypad} {key : Fin 16} :
    (key.val : Int) ∈ keypad.numbers ↔ keypad.get key = true :=
  natCast_mem_numbers key.isLt

theorem forall_mem_numbers {holds : Int → Prop} :
    (∀ number ∈ keypad.numbers, holds number) ↔
      ∀ key : Fin 16, keypad.get key = true → holds key.val := by
  constructor
  · intro all key held
    exact all key.val (natCast_mem_numbers_iff.mpr held)
  · intro all number member
    obtain ⟨key, inside, held, rfl⟩ := mem_numbers.mp member
    exact all ⟨key, inside⟩ held

/-- A byte names a held key if its number is one. -/
theorem names_iff_mem_numbers {value : Byte} :
    keypad.Names value ↔ (value.toNat : Int) ∈ keypad.numbers := by
  rw [mem_numbers]
  constructor
  · rintro ⟨key, number, held⟩
    exact ⟨key.val, key.isLt, held, congrArg Int.ofNat number⟩
  · rintro ⟨key, inside, held, number⟩
    exact ⟨⟨key, inside⟩, Int.ofNat_inj.mp number, held⟩

end Keypad

namespace Machine

variable (machine : Machine)

/-! ## One call -/

theorem setKey_of_real {key : Int} (real : 0 ≤ key ∧ key < 16) (pressed : Bool) :
    machine.setKey key pressed =
      ⟨.ok (),
        { machine with
          keypad := machine.keypad.set key.toNat pressed ((Int.toNat_lt real.1).mpr real.2) },
        []⟩ := by
  rw [setKey, Keypad.put, dif_pos real]

theorem setKey_of_missing {key : Int} (missing : ¬ (0 ≤ key ∧ key < 16)) (pressed : Bool) :
    machine.setKey key pressed = ⟨.error (.noSuchKey key), machine, []⟩ := by
  rw [setKey, Keypad.put, dif_neg missing]

theorem result_setKey (key : Int) (pressed : Bool) :
    (machine.setKey key pressed).result =
      if 0 ≤ key ∧ key < 16 then .ok () else .error (.noSuchKey key) := by
  by_cases real : 0 ≤ key ∧ key < 16
  · rw [setKey_of_real machine real, if_pos real]
  · rw [setKey_of_missing machine real, if_neg real]

theorem setKey_error_iff (key : Int) (pressed : Bool) :
    (∃ fault, (machine.setKey key pressed).result = .error fault) ↔ ¬ (0 ≤ key ∧ key < 16) := by
  rw [result_setKey]
  by_cases real : 0 ≤ key ∧ key < 16
  · rw [if_pos real]
    exact iff_of_false nofun (not_not.mpr real)
  · rw [if_neg real]
    exact iff_of_true ⟨_, rfl⟩ real

theorem setKey_of_error {key : Int} {pressed : Bool} {fault : Fault}
    (failed : (machine.setKey key pressed).result = .error fault) :
    fault = .noSuchKey key ∧ (machine.setKey key pressed).machine = machine := by
  have missing := (setKey_error_iff machine key pressed).mp ⟨fault, failed⟩
  rw [setKey_of_missing machine missing] at failed ⊢
  cases failed
  exact ⟨rfl, rfl⟩

/-- Calls that name different keys can change places. -/
theorem setKey_comm {one other : Int} (apart : one ≠ other) (pressed also : Bool) :
    ((machine.setKey one pressed).machine.setKey other also).machine =
      ((machine.setKey other also).machine.setKey one pressed).machine := by
  by_cases real : 0 ≤ one ∧ one < 16
  · by_cases real_too : 0 ≤ other ∧ other < 16
    · have places : one.toNat ≠ other.toNat := by omega
      simp only [setKey_of_real _ real, setKey_of_real _ real_too,
        Vector.set_comm _ _ places]
    · simp only [setKey_of_missing _ real_too]
  · simp only [setKey_of_missing _ real]

/-! ## Any commands -/

/-- The key is held. -/
def holdsKey (key : Int) : Bool :=
  decide (key ∈ machine.keypad.numbers)

theorem holdsKey_setKey (named : Int) (pressed : Bool) {key : Int} (real : 0 ≤ key ∧ key < 16) :
    (machine.setKey named pressed).machine.holdsKey key =
      (if named = key then some pressed else none).getD (machine.holdsKey key) := by
  by_cases same : named = key
  · subst same
    obtain ⟨place, rfl⟩ := Int.eq_ofNat_of_zero_le real.1
    have inside : place < 16 := Int.ofNat_lt.mp real.2
    have changed := Keypad.numbers_set machine.keypad inside pressed
    rw [setKey_of_real machine real, if_pos rfl]
    show decide ((place : Int) ∈ Keypad.numbers (machine.keypad.set place pressed)) = pressed
    rw [changed]
    cases pressed with
    | _ => simp
  · rw [if_neg same]
    by_cases real_too : 0 ≤ named ∧ named < 16
    · obtain ⟨place, rfl⟩ := Int.eq_ofNat_of_zero_le real_too.1
      have inside : place < 16 := Int.ofNat_lt.mp real_too.2
      have changed := Keypad.numbers_set machine.keypad inside pressed
      rw [setKey_of_real machine real_too]
      show decide (key ∈ Keypad.numbers (machine.keypad.set place pressed)) = machine.holdsKey key
      rw [changed, holdsKey]
      cases pressed with
      | _ => simp [Ne.symm same]
    · rw [setKey_of_missing machine real_too]
      rfl

/-- Commands that say nothing of keys. -/
theorem keypad_step : machine.step.machine.keypad = machine.keypad := by
  rcases machine_step machine with same | moved | ⟨operation, _, done⟩
  · rw [same]
  · rw [moved]
    rfl
  · rw [done]
    exact congrArg HostPart.keypad (hostPart_exec machine.movedOn machine.nextWord)

theorem keypad_run (limit : Int) (pace : Pace) :
    (machine.run limit pace).machine.keypad = machine.keypad :=
  run_preserves (fun left => left.keypad = machine.keypad)
    (fun left same => (keypad_step left).trans same) (fun _ same => same) limit pace rfl

theorem keypad_execCode (code : Int) (word : Word) :
    (machine.execCode code word).machine.keypad = machine.keypad := by
  rw [execCode]
  cases Operation.ofCode? code with
  | none => rfl
  | some operation => exact congrArg HostPart.keypad (hostPart_exec machine word)

/-- Nothing but a call that names a key, and going back to power-on, touches the keypad. -/
theorem keypad_perform {command : Command} (apart : ¬ command.SetsKeys) :
    (perform command machine).machine.keypad = machine.keypad := by
  cases command with
  | setKey | reset => exact absurd trivial apart
  | step => exact keypad_step machine
  | run limit pace => exact keypad_run machine limit pace
  | exec code word => exact keypad_execCode machine code word
  | load program => exact (congrArg Machine.keypad (machine_load machine program) :)
  | writeByte | writeBlock => exact (congrArg Machine.keypad (machine_takeMemory machine _) :)
  | push value => exact (congrArg Machine.keypad (machine_push machine value) :)
  | pop => exact (congrArg Machine.keypad (machine_pop machine) :)
  | _ => rfl

theorem holdsKey_perform (command : Command) {key : Int} (real : 0 ≤ key ∧ key < 16) :
    (perform command machine).machine.holdsKey key =
      (command.says? key).getD (machine.holdsKey key) := by
  cases command with
  | setKey named pressed => exact holdsKey_setKey machine named pressed real
  | reset =>
    show decide (key ∈ Keypad.released.numbers) = false
    simp
  | _ =>
    rw [holdsKey, keypad_perform machine id]
    rfl

/-- What is held after commands is what the last that says something of it says. -/
theorem holdsKey_after (commands : List Command) {key : Int} (real : 0 ≤ key ∧ key < 16) :
    (machine.after commands).holdsKey key =
      (lastSaid? key commands).getD (machine.holdsKey key) := by
  induction commands generalizing machine with
  | nil => rfl
  | cons command rest ih =>
    have later := ih (perform command machine).machine
    rw [holdsKey_perform machine command real] at later
    rw [lastSaid?, Option.getD_or]
    exact later

theorem mem_numbers_after (commands : List Command) (key : Int) :
    key ∈ (machine.after commands).keypad.numbers ↔
      (0 ≤ key ∧ key < 16) ∧ (lastSaid? key commands = some true ∨
        (lastSaid? key commands = none ∧ key ∈ machine.keypad.numbers)) := by
  constructor
  · intro held
    have real := Keypad.real_of_mem_numbers held
    have known := holdsKey_after machine commands real
    rw [holdsKey, decide_eq_true held] at known
    refine ⟨real, ?_⟩
    cases said : lastSaid? key commands with
    | none =>
      rw [said] at known
      exact .inr ⟨rfl, of_decide_eq_true known.symm⟩
    | some pressed =>
      rw [said] at known
      exact .inl (congrArg some known.symm)
  · rintro ⟨real, said⟩
    apply of_decide_eq_true
    refine (holdsKey_after machine commands real).trans ?_
    rcases said with said | ⟨said, held⟩
    · rw [said]
      rfl
    · rw [said]
      exact decide_eq_true held

theorem keypad_build (settings : Settings) (random : Twister) (program : List Byte) :
    (build settings random program).machine.keypad = .released := by
  rw [build]
  split
  · rfl
  · exact (congrArg Machine.keypad (machine_load (powerOn settings random) program) :)

/-! ## The lowest held key, and the skip on a held key -/

theorem lowest?_eq_some_iff_numbers {key : Fin 16} :
    machine.keypad.lowest? = some key ↔
      (key.val : Int) ∈ machine.keypad.numbers ∧
        ∀ number ∈ machine.keypad.numbers, (key.val : Int) ≤ number := by
  rw [Keypad.lowest?_eq_some_iff, Keypad.natCast_mem_numbers_iff, Keypad.forall_mem_numbers]
  simp only [Int.ofNat_le, Fin.le_def]

theorem lowest?_eq_none_iff_numbers :
    machine.keypad.lowest? = none ↔ machine.keypad.numbers = ∅ := by
  rw [Keypad.lowest?_eq_none_iff, Finset.eq_empty_iff_forall_notMem]
  simp only [← Bool.not_eq_true]
  exact (@Keypad.forall_mem_numbers machine.keypad fun _ => False).symm

/-- The skip on a held key goes by the full byte of the register. -/
theorem stepsBy_skipIfHeld (next : machine.Next .skipIfHeld) :
    machine.StepsBy
      (if ((machine.registers.get machine.nextWord.x).toNat : Int) ∈ machine.keypad.numbers
        then 4 else 2) := by
  obtain ⟨skips, moves⟩ := next.stepsBy (by decide)
  have tests : machine.SkipCondition machine.nextWord .skipIfHeld ↔
      ((machine.registers.get machine.nextWord.x).toNat : Int) ∈ machine.keypad.numbers :=
    Keypad.names_iff_mem_numbers
  rw [tests] at skips moves
  split
  case isTrue held => exact skips held
  case isFalse away => exact moves away

/-- Of all the calls that name a key the last one decides whether it is held. A call is refused
exactly if there is no such key, and then nothing has changed; calls for different keys can change
places. The lowest held key is the answer to a host that asks for one, and the skip on a held key
skips exactly if the whole byte is the number of one. Nothing but calls and going back to power-on
changes what is held. A machine of plain integers holds the same keys. -/
theorem last_call_decides {machine : Machine} (wellFormed : machine.WellFormed) :
    (∀ key pressed,
      ((∃ fault, (machine.setKey key pressed).result = .error fault) ↔ ¬ (0 ≤ key ∧ key < 16)) ∧
      ∀ fault, (machine.setKey key pressed).result = .error fault →
        fault = .noSuchKey key ∧ (machine.setKey key pressed).machine = machine) ∧
    (∀ commands key, key ∈ (machine.after commands).keypad.numbers ↔
      (0 ≤ key ∧ key < 16) ∧ (lastSaid? key commands = some true ∨
        (lastSaid? key commands = none ∧ key ∈ machine.keypad.numbers))) ∧
    (∀ settings random program commands key,
      key ∈ ((build settings random program).machine.after commands).keypad.numbers ↔
        (0 ≤ key ∧ key < 16) ∧ lastSaid? key commands = some true) ∧
    (∀ one other pressed also, one ≠ other →
      ((machine.setKey one pressed).machine.setKey other also).machine =
        ((machine.setKey other also).machine.setKey one pressed).machine ∧
      ((machine.setKey one pressed).machine.setKey other also).result =
        (machine.setKey other also).result) ∧
    (∀ key : Fin 16, (perform .heldKey machine).result = .ok (.key (some key)) ↔
      (key.val : Int) ∈ machine.keypad.numbers ∧
        ∀ number ∈ machine.keypad.numbers, (key.val : Int) ≤ number) ∧
    ((perform .heldKey machine).result = .ok (.key none) ↔ machine.keypad.numbers = ∅) ∧
    (machine.Next .skipIfHeld →
      machine.StepsBy
        (if ((machine.registers.get machine.nextWord.x).toNat : Int) ∈ machine.keypad.numbers
          then 4 else 2)) ∧
    (∀ command : Command, ¬ command.SetsKeys →
      (perform command machine).machine.keypad = machine.keypad) ∧
    machine.reset.keypad.numbers = ∅ ∧
    ∀ commands, machine.toRaw.after commands = (machine.after commands).toRaw ∧
      (machine.toRaw.after commands).keys = (machine.after commands).keypad.numbers := by
  have asked (found : Option (Fin 16)) :
      (perform .heldKey machine).result = .ok (.key found) ↔ machine.keypad.lowest? = found := by
    show (Except.ok (Reply.key machine.keypad.lowest?) : Except Fault Reply) = _ ↔ _
    rw [Except.ok.injEq, Reply.key.injEq]
  refine ⟨?_, mem_numbers_after machine, ?_, ?_, ?_, ?_, stepsBy_skipIfHeld machine,
    fun _ => keypad_perform machine, Keypad.numbers_released, ?_⟩
  · intro key pressed
    exact ⟨setKey_error_iff machine key pressed, fun _ => setKey_of_error machine⟩
  · intro settings random program commands key
    rw [mem_numbers_after, keypad_build, Keypad.numbers_released]
    simp only [Finset.notMem_empty, and_false, or_false]
  · intro one other pressed also apart
    refine ⟨setKey_comm machine apart pressed also, ?_⟩
    rw [result_setKey, result_setKey]
  · intro key
    rw [asked, lowest?_eq_some_iff_numbers]
  · rw [asked, lowest?_eq_none_iff_numbers]
  · intro commands
    have same := after_toRaw wellFormed commands
    exact ⟨same, congrArg RawMachine.keys same⟩

/-- Keys 5 and 9 are pressed while the machine goes on, and 5 is released before it skips on 9 and
takes the lowest key. So 9 is held in the end and 5 is not, and 25 never was. -/
theorem last_call_decides_between_steps :
    let machine := bare [0x63, 0x09, 0xE3, 0x9E, 0x00, 0x00, 0xF4, 0x0A]
    let commands : List Command :=
      [.setKey 5 true, .step, .setKey 9 true, .setKey 25 true, .setKey 5 false, .step,
        .run 10 {}, .tickTimers]
    machine.WellFormed ∧
      9 ∈ (machine.after commands).keypad.numbers ∧
      5 ∉ (machine.after commands).keypad.numbers ∧
      25 ∉ (machine.after commands).keypad.numbers := by
  intro machine commands
  have wellFormed := wellFormed_bare [0x63, 0x09, 0xE3, 0x9E, 0x00, 0x00, 0xF4, 0x0A]
  obtain ⟨_, held_iff, _⟩ := last_call_decides wellFormed
  have nine : lastSaid? 9 commands = some true := by decide
  have five : lastSaid? 5 commands = some false := by decide
  refine ⟨wellFormed, (held_iff commands 9).mpr ⟨by decide, .inl nine⟩, fun held => ?_,
    fun held => ?_⟩
  · rcases ((held_iff commands 5).mp held).2 with said | ⟨said, _⟩
    · cases five.symm.trans said
    · cases five.symm.trans said
  · exact absurd ((held_iff commands 25).mp held).1 (by decide)

end Machine

end Chip8
