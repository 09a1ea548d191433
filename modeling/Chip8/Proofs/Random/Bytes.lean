/-
# The bytes of the generator

A byte is the nine leading bits of a word, and words in which they exceed a byte are passed over.
How many are passed over in a row is bounded, because words without the leading bit are never far
away; so the search for one always ends by finding it, and the bytes are told from the words.
-/

import Chip8.Proofs.Random.Recurrence

namespace Chip8.Twister

variable {twister : Twister}

/-- The nine leading bits of a word. -/
def leading (word : UInt32) : Nat :=
  word.toNat / 2 ^ 23

/-- The number of words that are passed over before one without its leading bit. -/
def PassesOver (twister : Twister) (skipped : Nat) : Prop :=
  (∀ earlier < skipped, 256 ≤ leading (twister.wordNumber earlier)) ∧
    leading (twister.wordNumber skipped) < 256

theorem exists_leading_lt (begun : twister.IsBegun) :
    ∃ ahead ≤ 19937, leading (twister.wordNumber ahead) < 256 := by
  obtain ⟨before, used⟩ := Nat.exists_eq_succ_of_ne_zero begun.1.ne'
  obtain ⟨ahead, within, unset⟩ := exists_leadingBits_eq_zero twister.words before
  refine ⟨ahead, within, ?_⟩
  have place : twister.used + ahead = before + ahead + 1 := by omega
  rw [wordNumber_eq begun, place]
  exact (bit_leading_eq_zero_iff _).mp unset

/-- Never more than 19937 words are passed over. -/
theorem exists_passesOver (begun : twister.IsBegun) :
    ∃ skipped ≤ 19937, twister.PassesOver skipped := by
  obtain ⟨ahead, within, short⟩ := exists_leading_lt begun
  have found : ∃ ahead, leading (twister.wordNumber ahead) < 256 := ⟨ahead, short⟩
  refine ⟨Nat.find found, (Nat.find_min' found short).trans within, ?_, Nat.find_spec found⟩
  exact fun earlier before => Nat.not_lt.mp (Nat.find_min found before)

theorem nextByteWithin_succ (patience : Nat) (twister : Twister) :
    nextByteWithin (patience + 1) twister =
      if leading twister.next.1 < 256 then (UInt8.ofNat (leading twister.next.1), twister.next.2)
      else nextByteWithin patience twister.next.2 :=
  rfl

theorem nextByteWithin_eq {patience skipped : Nat} (few : skipped ≤ patience)
    (passes : twister.PassesOver skipped) :
    nextByteWithin patience twister =
      (UInt8.ofNat (leading (twister.wordNumber skipped)), twister.afterWords (skipped + 1)) := by
  obtain ⟨passed, taken⟩ := passes
  induction skipped generalizing patience twister with
  | zero =>
    cases patience with
    | zero => rfl
    | succ patience =>
      rw [nextByteWithin_succ]
      exact if_pos taken
  | succ skipped ih =>
    cases patience with
    | zero => omega
    | succ patience =>
      have large : ¬ leading twister.next.1 < 256 := Nat.not_lt.mpr (passed 0 (by omega))
      rw [nextByteWithin_succ, if_neg large]
      exact ih (by omega) (fun earlier before => passed (earlier + 1) (by omega)) taken

theorem nextByte_of_passesOver {skipped : Nat} (few : skipped ≤ 19937)
    (passes : twister.PassesOver skipped) :
    twister.nextByte =
      (UInt8.ofNat (leading (twister.wordNumber skipped)), twister.afterWords (skipped + 1)) := by
  rw [nextByte]
  exact nextByteWithin_eq few passes

/-- A random byte is the nine leading bits of the first word in which they are one, and there
always is such a word. -/
theorem nextByte_eq (begun : twister.IsBegun) :
    ∃ skipped, twister.PassesOver skipped ∧ twister.nextByte =
      (UInt8.ofNat (leading (twister.wordNumber skipped)), twister.afterWords (skipped + 1)) := by
  obtain ⟨skipped, few, passes⟩ := exists_passesOver begun
  exact ⟨skipped, passes, nextByte_of_passesOver few passes⟩

/-- A word that is passed over makes no difference to the byte. -/
theorem nextByte_of_passed (begun : twister.IsBegun) (large : 256 ≤ leading twister.next.1) :
    twister.nextByte = twister.next.2.nextByte := by
  obtain ⟨skipped, few, passed, taken⟩ := exists_passesOver begun
  cases skipped with
  | zero => exact absurd taken (Nat.not_lt.mpr large)
  | succ skipped =>
    have passes : twister.next.2.PassesOver skipped :=
      ⟨fun earlier before => passed (earlier + 1) (by omega), taken⟩
    rw [nextByte_of_passesOver few ⟨passed, taken⟩, nextByte_of_passesOver (by omega) passes]
    rfl

/-! ## One byte after the other -/

/-- The generator after so many bytes. -/
def afterBytes (twister : Twister) : Nat → Twister
  | 0 => twister
  | count + 1 => afterBytes twister.nextByte.2 count

/-- The byte that comes after so many others. -/
def byteNumber (twister : Twister) (count : Nat) : Byte :=
  (twister.afterBytes count).nextByte.1

theorem afterBytes_succ (twister : Twister) (count : Nat) :
    twister.afterBytes (count + 1) = (twister.afterBytes count).nextByte.2 := by
  induction count generalizing twister with
  | zero => rfl
  | succ count ih => exact ih twister.nextByte.2

theorem IsBegun.nextByte (begun : twister.IsBegun) : twister.nextByte.2.IsBegun := by
  obtain ⟨skipped, -, next⟩ := nextByte_eq begun
  rw [next]
  exact begun.afterWords (skipped + 1)

theorem IsBegun.afterBytes (begun : twister.IsBegun) (count : Nat) :
    (twister.afterBytes count).IsBegun := by
  induction count generalizing twister with
  | zero => exact begun
  | succ count ih => exact ih begun.nextByte

/-- The first bytes are the leading bits of the first words, but for those that are too large. -/
theorem byteNumber_of_leading {leads : List Nat} (begun : twister.IsBegun)
    (known : ∀ (position lead : Nat), leads[position]? = some lead →
      leading (twister.wordNumber position) = lead)
    {drawn lead : Nat} (found : (leads.filter (· < 256))[drawn]? = some lead) :
    twister.byteNumber drawn = UInt8.ofNat lead := by
  induction leads generalizing twister drawn with
  | nil => cases found
  | cons first rest ih =>
    have here : leading twister.next.1 = first := known 0 first rfl
    have later (position lead : Nat) (at_place : rest[position]? = some lead) :
        leading (twister.next.2.wordNumber position) = lead := known (position + 1) lead at_place
    by_cases small : first < 256
    · rw [List.filter_cons_of_pos (by simpa using small)] at found
      have taken : twister.PassesOver 0 := ⟨nofun, here ▸ small⟩
      have next := nextByte_of_passesOver (Nat.zero_le 19937) taken
      cases drawn with
      | zero =>
        cases found
        exact (congrArg Prod.fst next).trans (congrArg UInt8.ofNat here)
      | succ drawn =>
        have moved : twister.nextByte.2 = twister.next.2 := congrArg Prod.snd next
        rw [byteNumber, afterBytes, moved]
        exact ih begun.next later found
    · rw [List.filter_cons_of_neg (by simpa using small)] at found
      have same := nextByte_of_passed begun (here ▸ Nat.not_lt.mp small)
      have passed : twister.byteNumber drawn = twister.next.2.byteNumber drawn := by
        cases drawn with
        | zero => exact congrArg Prod.fst same
        | succ drawn => rw [byteNumber, byteNumber, afterBytes, afterBytes, same]
      rw [passed]
      exact ih begun.next later found

/-- The sign of a seed makes no difference. -/
theorem ofSeed_natAbs (seed : Int) : ofSeed seed.natAbs = ofSeed seed := by
  rw [ofSeed, ofSeed, Int.natAbs_natCast]

end Chip8.Twister
