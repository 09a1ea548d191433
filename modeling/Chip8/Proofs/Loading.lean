/-
# Programs in memory

Loading puts the bytes of a program into memory from the start of programs on, whatever lay
there before, and power-on puts the program loaded last there again. So after either the
program is read back byte by byte. A program that was assembled from words has two bytes for
each of them, in the order in which fetching puts them together; so it is fetched back word
by word, each cut to its sixteen bits.

What does not fit is refused as a whole and changes nothing.
-/

import Chip8.Operation.Encode
import Chip8.Proofs.Machine.WellFormed
import Chip8.Proofs.Memory
import Chip8.Proofs.Raw.Simulation.Host

namespace Chip8

/-! ## Assembled words -/

theorem Word.ofBytes_highByte_lowByte (word : Word) :
    Word.ofBytes word.highByte word.lowByte = word := by
  apply UInt16.toNat_inj.mp
  have small := word.toNat_lt
  rw [Word.toNat_ofBytes, Word.highByte, Word.lowByte, UInt8.toNat_ofNat', UInt8.toNat_ofNat']
  omega

theorem length_assemble (words : List Int) : (assemble words).length = 2 * words.length := by
  induction words with
  | nil => rfl
  | cons value rest ih =>
    show (assemble rest).length + 1 + 1 = 2 * (rest.length + 1)
    omega

/-- The two bytes of a word stand at twice its place. -/
theorem getElem?_assemble {words : List Int} {place : Nat} (inside : place < words.length) :
    (assemble words)[2 * place]? = some (Word.ofInt words[place]).highByte ∧
      (assemble words)[2 * place + 1]? = some (Word.ofInt words[place]).lowByte := by
  induction words generalizing place with
  | nil => exact absurd inside (Nat.not_lt_zero place)
  | cons value rest ih =>
    cases place with
    | zero => exact ⟨rfl, rfl⟩
    | succ place => exact ih (Nat.lt_of_succ_lt_succ inside)

/-! ## Bytes that lie in memory -/

namespace Memory

/-- Bytes lie in memory one after another from a start on. -/
def Holds (memory : Memory) (start : Nat) (bytes : List Byte) : Prop :=
  ∀ place byte, bytes[place]? = some byte → memory.byteAt (start + place) = byte

variable {memory : Memory} {start : Nat} {bytes : List Byte}

theorem holds_overwrite (memory : Memory) (fits : start + bytes.length ≤ 4096) :
    (memory.overwrite start bytes).Holds start bytes := by
  intro place byte found
  obtain ⟨inside, same⟩ := List.getElem?_eq_some_iff.mp found
  have covered : start ≤ start + place ∧ start + place < 4096 := by omega
  rw [byteAt_overwrite, if_pos covered, Nat.add_sub_cancel_left, List.getD_eq_getElem?_getD, found]
  rfl

theorem Holds.read (held : memory.Holds start bytes) (fits : start + bytes.length ≤ 4096)
    {place : Nat} (inside : place < bytes.length) :
    memory.read (start + place) = .ok bytes[place] := by
  have cell : InMemory (start + place) 1 := by
    unfold InMemory
    omega
  have here : ((start : Int) + place).toNat = start + place := by omega
  rw [Memory.read, if_pos cell, here, held place _ (List.getElem?_eq_getElem inside)]

/-- Words lie in memory as the bytes they are assembled to. -/
theorem Holds.fetch {words : List Int} (held : memory.Holds start (assemble words))
    (fits : start + 2 * words.length ≤ 4096) {place : Nat} (inside : place < words.length) :
    memory.fetch (start + 2 * place) = .ok (Word.ofInt words[place]) := by
  have cells : InMemory (start + 2 * place) 2 := by
    unfold InMemory
    omega
  have here : ((start : Int) + 2 * place).toNat = start + 2 * place := by omega
  obtain ⟨high, low⟩ := getElem?_assemble inside
  rw [Memory.fetch, if_pos cells, here, Nat.add_assoc, held _ _ high, held _ _ low,
    Word.ofBytes_highByte_lowByte]

end Memory

namespace Machine

/-! ## Loading -/

/-- What loading a program leaves: the program in memory, now and after every power-on, and
nothing else changed but that it is remembered. -/
structure Loaded (before : Machine) (program : List Byte) (after : Machine) : Prop where
  others : after = { before with memory := after.memory, program := program }
  outside : ∀ address : Nat,
    address < programStart ∨ programStart + program.length ≤ address →
      after.memory.byteAt address = before.memory.byteAt address
  holds : after.memory.Holds programStart program
  holds_reset : after.reset.memory.Holds programStart program

variable {machine : Machine} {program : List Byte}

theorem load_of_fits (machine : Machine) (fits : program.length ≤ programLimit) :
    (machine.load program).result = .ok () ∧
      machine.Loaded program (machine.load program).machine := by
  have inside := programLimit_fits fits
  rw [load, if_pos fits]
  exact ⟨rfl,
    { others := rfl
      outside := fun _ outside => Memory.byteAt_overwrite_outside machine.memory outside
      holds := Memory.holds_overwrite machine.memory inside
      holds_reset := Memory.holds_overwrite _ inside }⟩

theorem load_of_too_large (large : programLimit < program.length) :
    machine.load program = ⟨.error (.programTooLarge program.length), machine, []⟩ := by
  rw [load, if_neg (Nat.not_le.mpr large)]

/-- A fetch on integers that comes to a given word. -/
theorem run_fetchWord_of_fetch {address value : Int}
    (fetched : machine.memory.fetch address = .ok (Word.ofInt value)) :
    (RawMachine.fetchWord address).run machine.toRaw = .ok (value % 65536) machine.toRaw := by
  have low : ((Word.ofInt value).toNat : Int) = value % 65536 := by
    rw [Word.toNat_ofInt]
    omega
  rw [run_fetchWord, fetched, Outcome.toRaw_ok, low]

/-- A program that fits is loaded, and then and after power-on it is read back byte by byte
from the start of programs on, or word by word if it was assembled from words. All other
bytes and everything else but the remembered program are as they were. A program that does
not fit is refused, and then nothing has changed at all. The same becomes of a machine of
plain integers. -/
theorem load_agrees_with_fetch (machine : Machine) :
    (∀ program : List Byte,
      let outcome := machine.load program
      let loaded := outcome.machine
      (RawMachine.load program).run machine.toRaw = outcome.toRaw id ∧
      (program.length ≤ programLimit →
        outcome.result = .ok () ∧ machine.Loaded program loaded ∧
        RawMachine.reset.run loaded.toRaw = .ok () loaded.reset.toRaw ∧
        ∀ (place : Nat) (inside : place < program.length),
          loaded.memory.read (programStart + place) = .ok program[place] ∧
          loaded.reset.memory.read (programStart + place) = .ok program[place]) ∧
      (programLimit < program.length →
        outcome = ⟨.error (.programTooLarge program.length), machine, []⟩)) ∧
    ∀ words : List Int,
      let outcome := machine.load (assemble words)
      let loaded := outcome.machine
      (2 * words.length ≤ programLimit →
        outcome.result = .ok () ∧ machine.Loaded (assemble words) loaded ∧
        (assemble words).length = 2 * words.length ∧
        ∀ (place : Nat) (inside : place < words.length),
          let address : Int := programStart + 2 * place
          loaded.memory.fetch address = .ok (Word.ofInt words[place]) ∧
          loaded.reset.memory.fetch address = .ok (Word.ofInt words[place]) ∧
          (RawMachine.fetchWord address).run loaded.toRaw =
            .ok (words[place] % 65536) loaded.toRaw ∧
          (RawMachine.fetchWord address).run loaded.reset.toRaw =
            .ok (words[place] % 65536) loaded.reset.toRaw) ∧
      (programLimit < 2 * words.length →
        outcome = ⟨.error (.programTooLarge (2 * words.length)), machine, []⟩) := by
  constructor
  · intro program outcome loaded
    refine ⟨run_load machine program, ?_, load_of_too_large⟩
    intro fits
    have inside := programLimit_fits fits
    obtain ⟨went, left⟩ := load_of_fits machine fits
    have remembered : loaded.program = program := congrArg Machine.program left.others
    have bounded : loaded.program.length ≤ programLimit := by rwa [remembered]
    refine ⟨went, left, run_reset loaded bounded rfl rfl rfl rfl rfl, ?_⟩
    intro place there
    exact ⟨left.holds.read inside there, left.holds_reset.read inside there⟩
  · intro words outcome loaded
    have twice := length_assemble words
    constructor
    · intro fits
      rw [← twice] at fits
      have inside := programLimit_fits fits
      rw [twice] at inside
      obtain ⟨went, left⟩ := load_of_fits machine fits
      refine ⟨went, left, twice, ?_⟩
      intro place there address
      have fetched := left.holds.fetch inside there
      have fetched_reset := left.holds_reset.fetch inside there
      exact ⟨fetched, fetched_reset, run_fetchWord_of_fetch fetched,
        run_fetchWord_of_fetch fetched_reset⟩
    · intro large
      rw [← twice] at large ⊢
      exact load_of_too_large large

/-- Words below zero and beyond sixteen bits, loaded over other bytes: they are fetched back
cut, the byte behind them is untouched, and one word more than fits is refused. -/
theorem load_agrees_with_fetch_at_wide_words :
    let machine := { bare [1, 2, 3] with memory := Vector.replicate 4096 0xAA }
    let loaded := (machine.load (assemble [-1, 0x12345, 7])).machine
    loaded.memory.fetch 0x200 = .ok 0xFFFF ∧ loaded.reset.memory.fetch 0x202 = .ok 0x2345 ∧
      loaded.memory.byteAt 0x206 = 0xAA ∧
      machine.load (assemble (List.replicate 1793 0)) =
        ⟨.error (.programTooLarge 3586), machine, []⟩ := by
  intro machine loaded
  obtain ⟨_, onWords⟩ := load_agrees_with_fetch machine
  obtain ⟨_, left, length, fetched⟩ := (onWords [-1, 0x12345, 7]).1 (by decide)
  have behind : programStart + (assemble [-1, 0x12345, 7]).length ≤ 0x206 := by
    rw [length]
    decide
  have refused := (onWords (List.replicate 1793 0)).2
  rw [List.length_replicate] at refused
  refine ⟨(fetched 0 (by decide)).1, (fetched 1 (by decide)).2.1, ?_, refused (by decide)⟩
  rw [left.outside 0x206 (.inr behind)]
  decide +kernel

end Machine

end Chip8
