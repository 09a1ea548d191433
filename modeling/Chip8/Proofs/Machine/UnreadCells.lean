/-
# Which cells a step reads

A step reads memory in two places: the two cells of its instruction, and the block behind the
index register that a sprite or the registers are loaded from. A block that does not lie in
memory is refused before any cell of it is read, and whether it does is a matter of the index
register alone.

Two machines agree outside a set of cells if they are equal but for the bytes in these cells.
The main statement is that a step which reads none of the cells answers the same on both, and
that afterwards they agree outside those of the cells that the step has not written.
-/

import Mathlib.Data.Set.Basic
import Chip8.Proofs.Machine.Reads
import Chip8.Proofs.Machine.Writes

namespace Chip8

namespace Operation

/-- How many cells at the index register an operation reads. -/
def blockRead (word : Word) : Operation → Nat
  | draw => word.nibble
  | loadRegisters => word.x.val + 1
  | _ => 0

/-- The operation reads a cell. A block that does not lie in memory is not read. -/
def ReadsCell (word index : Word) (address : Nat) (operation : Operation) : Prop :=
  index.toNat + operation.blockRead word ≤ 4096 ∧ index.toNat ≤ address ∧
    address < index.toNat + operation.blockRead word

instance (word index : Word) (address : Nat) (operation : Operation) :
    Decidable (operation.ReadsCell word index address) :=
  inferInstanceAs (Decidable (_ ∧ _ ∧ _))

instance (word index : Word) (address : Nat) (operation : Operation) :
    Decidable (operation.WritesCell word index address) := by
  unfold WritesCell
  split <;> infer_instance

end Operation

/-- A block read from two memories that agree in its cells is the same. -/
theorem Memory.readBlock_eq {first second : Memory} {start count : Nat}
    (same : ∀ address, start + count ≤ 4096 → start ≤ address → address < start + count →
      second.byteAt address = first.byteAt address) :
    second.readBlock start count = first.readBlock start count := by
  rw [readBlock, readBlock]
  by_cases inside : InMemory start count
  · have fits : start + count ≤ 4096 := by
      have last := inside.2
      omega
    have length : blockEnd start count - (start : Int).toNat = count := by
      simp only [blockEnd]
      split
      · omega
      · omega
    rw [if_pos inside, if_pos inside, length, bytesFrom, bytesFrom]
    congr 1
    apply List.map_congr_left
    intro offset there
    have below := List.mem_range.mp there
    exact same _ fits (by omega) (by omega)
  · rw [if_neg inside, if_neg inside]

/-- Bytes that are put over two memories are the same in both. -/
theorem Memory.byteAt_overwrite_eq {first second : Memory} {start address : Nat}
    {bytes : List Byte} (covered : start ≤ address ∧ address < start + bytes.length)
    (fits : (start : Int) + bytes.length ≤ 4096) :
    (second.overwrite start bytes).byteAt address =
      (first.overwrite start bytes).byteAt address := by
  have inside : start ≤ address ∧ address < 4096 := by omega
  have there : address - start < bytes.length := by omega
  rw [byteAt_overwrite, byteAt_overwrite, if_pos inside, if_pos inside,
    List.getD_eq_getElem bytes _ there, List.getD_eq_getElem bytes _ there]

namespace Machine

/-- The next step reads a cell: as part of its instruction or through its operation. -/
def ReadsCell (machine : Machine) (address : Nat) : Prop :=
  (machine.counter.toNat ≤ 0xFFE ∧
    (address = machine.counter.toNat ∨ address = machine.counter.toNat + 1)) ∨
  ∃ operation, machine.Next operation ∧
    operation.ReadsCell machine.nextWord machine.index address

instance (machine : Machine) (address : Nat) : Decidable (machine.ReadsCell address) :=
  decidable_of_iff
    ((machine.counter.toNat ≤ 0xFFE ∧
        (address = machine.counter.toNat ∨ address = machine.counter.toNat + 1)) ∨
      ∃ operation ∈ decode machine.nextWord, machine.counter.toNat ≤ 0xFFE ∧
        operation.ReadsCell machine.nextWord machine.index address)
    (or_congr_right
      ⟨fun ⟨operation, decoded, inside, reads⟩ => ⟨operation, ⟨inside, decoded⟩, reads⟩,
        fun ⟨operation, next, reads⟩ => ⟨operation, next.decoded, next.inside, reads⟩⟩)

theorem isOk_iff {result : Except Fault Status} :
    result.isOk = true ↔ ∃ status, result = .ok status := by
  cases result with
  | _ => simp [Except.isOk, Except.toBool]

/-- The operation of the next step goes through and writes a cell. -/
def WritesCell (machine : Machine) (address : Nat) : Prop :=
  ∃ operation, machine.Next operation ∧
    (∃ status, (exec operation machine.nextWord machine.movedOn).result = .ok status) ∧
    operation.WritesCell machine.nextWord machine.index address

instance (machine : Machine) (address : Nat) : Decidable (machine.WritesCell address) :=
  decidable_of_iff
    (∃ operation ∈ decode machine.nextWord, machine.counter.toNat ≤ 0xFFE ∧
      (exec operation machine.nextWord machine.movedOn).result.isOk = true ∧
        operation.WritesCell machine.nextWord machine.index address)
    (exists_congr fun operation => by
      rw [isOk_iff]
      exact ⟨fun ⟨decoded, inside, writes⟩ => ⟨⟨inside, decoded⟩, writes⟩,
        fun ⟨next, writes⟩ => ⟨next.decoded, next.inside, writes⟩⟩)

/-- Two machines are equal but for the bytes in a set of cells. -/
structure AgreeOutside (hidden : Set Nat) (first second : Machine) : Prop where
  alike : Alike .memory first second
  bytes : ∀ address, address ∉ hidden →
    second.memory.byteAt address = first.memory.byteAt address

/-- A machine agrees with itself outside the cells that bytes are put over. -/
theorem agreeOutside_overwrite (machine : Machine) (start : Nat) (bytes : List Byte) :
    AgreeOutside { address | start ≤ address ∧ address < start + bytes.length } machine
      { machine with memory := machine.memory.overwrite start bytes } := by
  refine ⟨rfl, ?_⟩
  intro address outside
  apply Memory.byteAt_overwrite_outside
  by_contra inside
  apply outside
  constructor
  · omega
  · omega

namespace AgreeOutside

variable {hidden : Set Nat} {first second : Machine}

theorem mono {more : Set Nat} (agree : AgreeOutside hidden first second)
    (subset : hidden ⊆ more) : AgreeOutside more first second :=
  ⟨agree.alike, fun address outside => agree.bytes address fun inside => outside (subset inside)⟩

variable (agree : AgreeOutside hidden first second)

include agree

theorem movedOn : AgreeOutside hidden first.movedOn second.movedOn :=
  ⟨agree.alike.movedOn, agree.bytes⟩

/-! ## Operations -/

variable {operation : Operation} {word : Word}

/-- A block of which no cell is hidden is read the same. -/
theorem readBlock_eq {count : Nat}
    (unread : ∀ address ∈ hidden, ¬ (first.index.toNat + count ≤ 4096 ∧
      first.index.toNat ≤ address ∧ address < first.index.toNat + count)) :
    second.memory.readBlock second.index.toNat count =
      first.memory.readBlock first.index.toNat count := by
  rw [agree.alike.index]
  apply Memory.readBlock_eq
  intro address fits least most
  exact agree.bytes address fun inside => unread address inside ⟨fits, least, most⟩

theorem loadAtIndex_without_memory {count : Nat}
    (same : second.memory.readBlock second.index.toNat count =
      first.memory.readBlock first.index.toNat count) :
    (second.loadAtIndex count).without .memory = (first.loadAtIndex count).without .memory := by
  rw [loadAtIndex, loadAtIndex, same]
  cases first.memory.readBlock first.index.toNat count with
  | error fault => exact congrArg (fun machine => machine.refuse fault) agree.alike
  | ok bytes =>
    exact congrArg
      (fun machine =>
        goOn { machine with registers := replaceFirst machine.registers bytes } [])
      agree.alike

theorem drawSprite_without_memory {x y : Byte} {rows : Nat}
    (same : second.memory.readBlock second.index.toNat rows =
      first.memory.readBlock first.index.toNat rows) :
    (second.drawSprite x y rows).without .memory =
      (first.drawSprite x y rows).without .memory := by
  rw [drawSprite, drawSprite, same, agree.alike.screen]
  cases first.memory.readBlock first.index.toNat rows with
  | error fault => exact congrArg (fun machine => machine.refuse fault) agree.alike
  | ok sprite =>
    simp only
    generalize first.screen.blit _ x.toNat y.toNat sprite = drawing
    exact congrArg
      (fun machine =>
        goOn
          { machine with
            screen := drawing.display
            registers := machine.registers.set 15 (flagOf drawing.collision) } [])
      agree.alike

/-- An operation that reads no hidden cell answers the same on both machines. -/
theorem exec_without_memory
    (unread : ∀ address ∈ hidden, ¬ operation.ReadsCell word first.index address) :
    (exec operation word second).without .memory =
      (exec operation word first).without .memory := by
  cases operation with
  | loadRegisters => exact agree.loadAtIndex_without_memory (agree.readBlock_eq unread)
  | draw =>
    rw [exec, exec, agree.alike.registers]
    exact agree.drawSprite_without_memory (agree.readBlock_eq unread)
  | _ => exact agree.alike.exec id

/-- A block that goes through is the same in both memories afterwards. -/
theorem byteAt_storeAtIndex_eq {bytes : List Byte} {address : Nat}
    (visible : address ∈ hidden → (∃ status, (first.storeAtIndex bytes).result = .ok status) ∧
      first.index.toNat ≤ address ∧ address < first.index.toNat + bytes.length) :
    (second.storeAtIndex bytes).machine.memory.byteAt address =
      (first.storeAtIndex bytes).machine.memory.byteAt address := by
  have index := agree.alike.index
  by_cases covered :
      first.index.toNat ≤ address ∧ address < first.index.toNat + bytes.length
  · by_cases inside : InMemory first.index.toNat bytes.length
    · rw [storeAtIndex, storeAtIndex, index, Memory.writeBlock, Memory.writeBlock,
        if_pos inside, if_pos inside]
      exact Memory.byteAt_overwrite_eq covered inside.2
    · have outside : address ∉ hidden := by
        intro member
        obtain ⟨⟨status, went⟩, _⟩ := visible member
        rw [storeAtIndex, Memory.writeBlock, if_neg inside] at went
        cases went
      rw [storeAtIndex, storeAtIndex, index, Memory.writeBlock, Memory.writeBlock,
        if_neg inside, if_neg inside]
      exact agree.bytes address outside
  · have covered_too :
        ¬ (second.index.toNat ≤ address ∧ address < second.index.toNat + bytes.length) := by
      rw [index]
      exact covered
    rw [byteAt_storeAtIndex first covered, byteAt_storeAtIndex second covered_too]
    exact agree.bytes address fun member => covered (visible member).2

/-- After an operation the bytes are the same in all cells but hidden ones that it has not
written. -/
theorem byteAt_exec_eq {address : Nat}
    (visible : address ∈ hidden → (∃ status, (exec operation word first).result = .ok status) ∧
      operation.WritesCell word first.index address) :
    (exec operation word second).machine.memory.byteAt address =
      (exec operation word first).machine.memory.byteAt address := by
  cases operation with
  | storeDigits =>
    rw [exec, exec, agree.alike.registers]
    apply agree.byteAt_storeAtIndex_eq
    intro member
    obtain ⟨went, least, most⟩ := visible member
    exact ⟨went, least, Nat.lt_succ_of_le most⟩
  | storeRegisters =>
    rw [exec, exec, agree.alike.registers]
    apply agree.byteAt_storeAtIndex_eq
    intro member
    obtain ⟨went, least, most⟩ := visible member
    refine ⟨went, least, ?_⟩
    rw [List.length_take, Vector.length_toList]
    omega
  | _ =>
    rw [byteAt_exec first word id, byteAt_exec second word id]
    exact agree.bytes address fun member => (visible member).2

/-! ## Steps -/

section Step

variable (unread : ∀ address ∈ hidden, ¬ first.ReadsCell address)

include unread

theorem nextWord (inside : first.counter.toNat ≤ 0xFFE) : second.nextWord = first.nextWord := by
  have high := agree.bytes first.counter.toNat fun member =>
    unread _ member (.inl ⟨inside, .inl rfl⟩)
  have low := agree.bytes (first.counter.toNat + 1) fun member =>
    unread _ member (.inl ⟨inside, .inr rfl⟩)
  rw [Machine.nextWord, Machine.nextWord, agree.alike.counter, high, low]

theorem exec_unread (operation : Operation) (next : first.Next operation) :
    (exec operation first.nextWord second.movedOn).without .memory =
      (exec operation first.nextWord first.movedOn).without .memory :=
  agree.movedOn.exec_without_memory fun address member reads =>
    unread address member (.inr ⟨operation, next, reads⟩)

theorem result_step :
    second.step.result = first.step.result ∧
      Alike .memory first.step.machine second.step.machine := by
  have word := agree.nextWord unread
  have done := agree.exec_unread unread
  exact ⟨agree.alike.result_step_of_exec word done (agree.alike.reportable_iff nofun),
    agree.alike.machine_step_of_exec word done⟩

/-- What a step writes is the same in both memories. -/
theorem byteAt_step_eq {address : Nat} (visible : address ∈ hidden → first.WritesCell address) :
    second.step.machine.memory.byteAt address = first.step.machine.memory.byteAt address := by
  have counter := agree.alike.counter
  rcases step_beginnings first with past | ⟨inside, unknown⟩ | ⟨operation, next⟩
  · have past_too : 0xFFE < second.counter.toNat := counter.symm ▸ past
    rw [step_of_past first past, step_of_past second past_too]
    apply agree.bytes
    intro member
    obtain ⟨operation, next, _⟩ := visible member
    exact absurd next.inside (Nat.not_le.mpr past)
  · have word := agree.nextWord unread inside
    have inside_too : second.counter.toNat ≤ 0xFFE := counter.symm ▸ inside
    have unknown_too : decode second.nextWord = none := word.symm ▸ unknown
    rw [step_of_unknown first inside unknown, step_of_unknown second inside_too unknown_too]
    apply agree.bytes
    intro member
    obtain ⟨operation, next, _⟩ := visible member
    cases unknown.symm.trans next.decoded
  · have word := agree.nextWord unread
    obtain ⟨next_too, answer⟩ :=
      agree.alike.next_of_exec word (agree.exec_unread unread) next
    cases result : (exec operation first.nextWord first.movedOn).result with
    | error fault =>
      rw [step_of_stopped next result, step_of_stopped next_too (answer.trans result)]
      apply agree.bytes
      intro member
      obtain ⟨other, also, ⟨status, went⟩, _⟩ := visible member
      cases next.unique also
      cases result.symm.trans went
    | ok status =>
      rw [machine_step_of_done next result, machine_step_of_done next_too (answer.trans result),
        word next.inside]
      apply agree.movedOn.byteAt_exec_eq
      intro member
      obtain ⟨other, also, _, writes⟩ := visible member
      cases next.unique also
      exact ⟨⟨status, result⟩, writes⟩

end Step

/-- A step that reads no hidden cell answers the same on both machines, and afterwards they
agree outside the hidden cells that it has not written. -/
theorem step (unread : ∀ address ∈ hidden, ¬ first.ReadsCell address) :
    second.step.result = first.step.result ∧
      AgreeOutside { address ∈ hidden | ¬ first.WritesCell address } first.step.machine
        second.step.machine := by
  obtain ⟨answer, alike⟩ := agree.result_step unread
  refine ⟨answer, alike, ?_⟩
  intro address outside
  apply agree.byteAt_step_eq unread
  intro member
  by_contra unwritten
  exact outside ⟨member, unwritten⟩

end AgreeOutside

end Machine

end Chip8
