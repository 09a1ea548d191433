/-
# What a line of the trace tells

A snapshot is written as one line of ten fields with tags between them. Numbers are read back from
their texts, and every tag has a letter that the field in front of it cannot have, so the fields of
a line are told apart from the left to the right. The last of them is the text of the instruction,
which tells the instruction. So a line tells the whole snapshot, and with it the word that was done.
-/

import Chip8.Proofs.Machine.Trace
import Chip8.Proofs.Operation.Mnemonic
import Mathlib.Data.Int.ModEq

namespace Chip8

open Operation

/-! ## Registers and status -/

/-- The registers as the trace shows them. -/
def registersText (registers : Vector Byte 16) : String :=
  " ".intercalate (registers.toList.map fun byte => Numeral.hex 2 byte.toNat)

theorem mem_of_mem_registersText {registers : Vector Byte 16} {character : Char}
    (member : character ∈ (registersText registers).toList) :
    character ∈ ' ' :: '-' :: Numeral.hexadecimals := by
  rw [registersText, String.toList_intercalate, List.map_map] at member
  rcases Text.mem_intercalate member with blank | ⟨text, listed, inside⟩
  · exact List.mem_singleton.mp blank ▸ List.mem_cons_self
  · obtain ⟨byte, _, rfl⟩ := List.mem_map.mp listed
    exact List.mem_cons_of_mem ' ' (Numeral.mem_of_mem_hex inside)

theorem registersText_inj {left right : Vector Byte 16} :
    registersText left = registersText right ↔ left = right := by
  constructor
  · intro same
    have split (registers : Vector Byte 16) : (registersText registers).toList.splitOn ' ' =
        registers.toList.map fun byte => (Numeral.hex 2 byte.toNat).toList := by
      rw [registersText, String.toList_intercalate, List.map_map]
      refine List.splitOn_intercalate ' ' ?_ ?_
      · rintro _ listed blank
        obtain ⟨byte, _, rfl⟩ := List.mem_map.mp listed
        exact absurd (Numeral.mem_of_mem_hex blank) (by decide)
      · simp
    have texts := congrArg (fun text => text.toList.splitOn ' ') same
    simp only [split] at texts
    have injective : Function.Injective fun byte : Byte => (Numeral.hex 2 byte.toNat).toList :=
      fun first second same =>
        UInt8.toNat_inj.mp (Numeral.hex_inj.mp (String.toList_inj.mp same))
    exact Vector.toList_inj.mp (injective.list_map texts)
  · rintro rfl
    rfl

theorem tab_notMem_padRight (status : Status) :
    '\t' ∉ (Numeral.padRight 8 status.name).toList := by
  cases status with
  | _ => decide

theorem padRight_name_inj {left right : Status}
    (same : Numeral.padRight 8 left.name = Numeral.padRight 8 right.name) : left = right := by
  cases left with
  | _ =>
    cases right with
    | _ => first | rfl | exact absurd same (by decide)

/-! ## Lines -/

theorem Snapshot.line_eq (snapshot : Snapshot) : snapshot.line =
    "TICK: " ++ (Numeral.decimal 5 snapshot.tick ++ (" PC: " ++
      (Numeral.hex 3 snapshot.origin.toNat ++ (" I: " ++ (Numeral.hex 3 snapshot.index.toNat ++
      (" SP: " ++ (Numeral.decimal 2 snapshot.depth ++ (" DT: " ++
      (Numeral.decimal 3 snapshot.delay.toNat ++ (" ST: " ++
      (Numeral.decimal 3 snapshot.sound.toNat ++ (" V: " ++ (registersText snapshot.registers ++
      (" STATE: " ++ (Numeral.padRight 8 snapshot.status.name ++ ("\tINSTR: " ++
      mnemonic snapshot.operation snapshot.word)))))))))))))))) := by
  unfold line registersText
  simp only [String.append_assoc]

/-- A line tells its snapshot. -/
theorem Snapshot.line_inj {first second : Snapshot} (row : first.operation.Matches first.word)
    (other_row : second.operation.Matches second.word) :
    first.line = second.line ↔ first = second := by
  constructor
  · intro same
    rw [line_eq, line_eq, String.append_right_inj] at same
    obtain ⟨tick, same⟩ := Numeral.decimal_append_inj 'P' (by decide) (by decide) same
    obtain ⟨origin, same⟩ := Numeral.hex_append_inj 'I' (by decide) (by decide) same
    obtain ⟨index, same⟩ := Numeral.hex_append_inj 'S' (by decide) (by decide) same
    obtain ⟨depth, same⟩ := Numeral.decimal_append_inj 'D' (by decide) (by decide) same
    obtain ⟨delay, same⟩ := Numeral.decimal_append_inj 'S' (by decide) (by decide) same
    obtain ⟨sound, same⟩ := Numeral.decimal_append_inj 'V' (by decide) (by decide) same
    have foreign (registers : Vector Byte 16) : 'S' ∉ (registersText registers).toList :=
      fun member => absurd (mem_of_mem_registersText member) (by decide)
    obtain ⟨registers, same⟩ := append_tag_inj 'S' (by decide) (foreign _) (foreign _) same
    obtain ⟨status, same⟩ := append_tag_inj '\t' (by decide) (tab_notMem_padRight _)
      (tab_notMem_padRight _) same
    obtain ⟨operation, word⟩ := (mnemonic_inj row other_row).mp same
    rcases first with ⟨⟩
    rcases second with ⟨⟩
    simp only [Snapshot.mk.injEq]
    exact ⟨tick, UInt16.toNat_inj.mp origin, UInt16.toNat_inj.mp index, Int.ofNat_inj.mp depth,
      UInt8.toNat_inj.mp (Int.ofNat_inj.mp delay), UInt8.toNat_inj.mp (Int.ofNat_inj.mp sound),
      registersText_inj.mp registers, padRight_name_inj status, operation, word⟩
  · rintro rfl
    rfl

/-! ## The word that was done -/

theorem Word.ofInt_eq_ofInt_iff {left right : Int} :
    Word.ofInt left = Word.ofInt right ↔ left ≡ right [ZMOD 65536] := by
  rw [← UInt16.toNat_inj, Word.toNat_ofInt, Word.toNat_ofInt, Int.ModEq]
  omega

/-- Integers that are read as instructions have one text exactly if they agree in their low
sixteen bits. In particular the text of an operation shows every operand that its row leaves free,
cut to the width of its field. So a line of the trace tells its snapshot, wherever it comes from,
and with it the word that the step fetched. -/
theorem mnemonics_lose_nothing :
    (∀ (left right : Int) (first second : Operation),
      decode (Word.ofInt left) = some first → decode (Word.ofInt right) = some second →
      (mnemonic first (Word.ofInt left) = mnemonic second (Word.ofInt right) ↔
        left ≡ right [ZMOD 65536])) ∧
    (∀ (operation : Operation) (first second : Operands),
      let shape := operation.shape
      mnemonic operation (encode operation (shape.keep first)) =
          mnemonic operation (encode operation (shape.keep second)) ↔
        shape.keep first.cut = shape.keep second.cut) ∧
    ∀ (machine other : Machine) (first second : Snapshot),
      .stepped first ∈ machine.step.events → .stepped second ∈ other.step.events →
      first.line = second.line →
      first = second ∧
        machine.memory.fetch machine.counter.toNat = .ok first.word ∧
        other.memory.fetch other.counter.toNat = .ok first.word := by
  refine ⟨?_, ?_, ?_⟩
  · intro left right first second decoded also
    rw [mnemonic_inj (selects_of_decode decoded).row (selects_of_decode also).row,
      Word.ofInt_eq_ofInt_iff]
    constructor
    · exact And.right
    · intro congruent
      refine ⟨?_, congruent⟩
      rw [Word.ofInt_eq_ofInt_iff.mpr congruent, also] at decoded
      exact (Option.some.inj decoded).symm
  · intro operation first second shape
    rw [mnemonic_inj (matches_encode operation first) (matches_encode operation second),
      encode_keep_inj]
    exact and_iff_right rfl
  · intro machine other first second reported also same
    have traces := Machine.traces_of_mem reported
    have also_traces := Machine.traces_of_mem also
    have equal := (Snapshot.line_inj (selects_of_decode traces.decoded).row
      (selects_of_decode also_traces.decoded).row).mp same
    subst equal
    exact ⟨rfl, traces.fetched, also_traces.fetched⟩

/-- A drawing that is read from a negative number; copies of two registers that differ in the
second alone; and a step, whose line tells the word that it fetched. -/
theorem mnemonics_lose_nothing_below_zero :
    let machine := Machine.bare [0x60, 0x01]
    let snapshot := machine.step.machine.snapshot machine.counter .running .loadByte 0x6001
    mnemonic .draw (Word.ofInt (0xD12A - 3 * 65536)) = mnemonic .draw (Word.ofInt 0xD12A) ∧
      mnemonic .copy (encode .copy { x := 1, y := 2 }) ≠
        mnemonic .copy (encode .copy { x := 1, y := -3 }) ∧
      machine.memory.fetch machine.counter.toNat = .ok snapshot.word := by
  intro machine snapshot
  have reported : .stepped snapshot ∈ machine.step.events := by decide +kernel
  obtain ⟨texts, operands, lines⟩ := mnemonics_lose_nothing
  refine ⟨?_, ?_, (lines machine machine snapshot snapshot reported reported rfl).2.1⟩
  · exact (texts _ _ .draw .draw (by decide +kernel) (by decide +kernel)).mpr (by decide)
  · intro same
    exact absurd ((operands .copy { x := 1, y := 2 } { x := 1, y := -3 }).mp same) (by decide)

end Chip8
