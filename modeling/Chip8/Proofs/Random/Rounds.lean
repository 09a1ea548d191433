/-
# The words of the generator as one sequence

The generator renews its 624 words together and in place, each out of itself, the next word and
the word 397 places on, some of which have been renewed already. Laid out one round after the
other, the words form a sequence in which nothing is left of the rounds: every word comes out of
the words 624, 623 and 227 places before it in one and the same way. What the generator gives
out is this sequence, each word tempered.
-/

import Chip8.Random.Twister
import Mathlib.Logic.Function.Iterate

namespace Chip8.Twister

variable (words : Vector UInt32 624)

/-! ## Words of a state -/

theorem wordAt_setWord_self (position : Nat) (word : UInt32) :
    wordAt (setWord words position word) position = word := by
  exact Vector.getElem_set_self (Nat.mod_lt _ (by decide))

theorem wordAt_setWord_of_ne {position other : Nat} (apart : position % 624 ≠ other % 624)
    (word : UInt32) : wordAt (setWord words position word) other = wordAt words other := by
  exact Vector.getElem_set_ne _ (Nat.mod_lt _ (by decide)) apart

theorem wordAt_of_mod_eq {position other : Nat} (same : position % 624 = other % 624) :
    wordAt words position = wordAt words other := by
  simp only [wordAt, same]

/-! ## A round -/

/-- The leading bit of a word and the others of the next. -/
def joined (word next : UInt32) : UInt32 :=
  (word &&& 0x80000000) ||| (next &&& 0x7FFFFFFF)

/-- The word that a word is replaced by, out of itself, the next and one further on. -/
def renewal (word next further : UInt32) : UInt32 :=
  further ^^^ (joined word next >>> 1) ^^^
    (if joined word next &&& 1 = 1 then 0x9908B0DF else 0)

theorem renewWord_eq (position : Nat) :
    renewWord words position = setWord words position
      (renewal (wordAt words position) (wordAt words (position + 1))
        (wordAt words (position + 397))) :=
  rfl

/-- The words when only the first of them have been renewed. -/
def renewedTo (count : Nat) : Vector UInt32 624 :=
  (List.range count).foldl renewWord words

theorem renewedTo_succ (count : Nat) :
    renewedTo words (count + 1) = renewWord (renewedTo words count) count := by
  rw [renewedTo, List.range_succ, List.foldl_append]
  rfl

/-- A word that it is not the turn of yet is the old one. -/
theorem wordAt_renewedTo_of_le {count position : Nat} (below : position < 624)
    (later : count ≤ position) :
    wordAt (renewedTo words count) position = wordAt words position := by
  induction count with
  | zero => rfl
  | succ count ih =>
    rw [renewedTo_succ, renewWord_eq, wordAt_setWord_of_ne _ (by omega)]
    exact ih (by omega)

/-- A word that has been renewed stays for the round. -/
theorem wordAt_renewedTo_of_lt {count position : Nat} (within : count ≤ 624)
    (earlier : position < count) :
    wordAt (renewedTo words count) position = wordAt (renewedTo words (position + 1)) position := by
  induction count with
  | zero => omega
  | succ count ih =>
    by_cases own : position = count
    · rw [own]
    · rw [renewedTo_succ, renewWord_eq, wordAt_setWord_of_ne _ (by omega)]
      exact ih (by omega) (by omega)

theorem wordAt_renew {count position : Nat} (within : count ≤ 624) (earlier : position < count) :
    wordAt (renew words) position = wordAt (renewedTo words count) position := by
  rw [wordAt_renewedTo_of_lt words within earlier]
  exact wordAt_renewedTo_of_lt words (Nat.le_refl 624) (by omega)

/-! ## All rounds -/

/-- The words of this round and all later ones, one after the other. -/
def wordOf (position : Nat) : UInt32 :=
  wordAt (renew^[position / 624] words) position

theorem wordOf_of_lt {position : Nat} (below : position < 624) :
    wordOf words position = wordAt words position := by
  rw [wordOf, Nat.div_eq_of_lt below]
  rfl

/-- The words of the next round come after those of this one. -/
theorem wordOf_renew (position : Nat) :
    wordOf (renew words) position = wordOf words (position + 624) := by
  have later : (position + 624) / 624 = position / 624 + 1 := by omega
  rw [wordOf, wordOf, later, Function.iterate_succ_apply]
  exact wordAt_of_mod_eq _ (by omega)

/-- While a word is renewed, the words up to one round on stand where it finds them. -/
theorem wordAt_renewedTo {place ahead : Nat} (below : place < 624) (close : ahead < 624) :
    wordAt (renewedTo words place) (place + ahead) = wordOf words (place + ahead) := by
  by_cases inside : place + ahead < 624
  · rw [wordAt_renewedTo_of_le words inside (by omega), wordOf_of_lt words inside]
  · obtain ⟨earlier, wrapped⟩ : ∃ earlier, place + ahead = earlier + 624 :=
      ⟨place + ahead - 624, by omega⟩
    rw [wrapped, ← wordOf_renew, wordOf_of_lt _ (by omega),
      wordAt_renew words (Nat.le_of_lt below) (by omega)]
    exact wordAt_of_mod_eq _ (by omega)

/-- Every word comes out of three before it, across the rounds. -/
theorem wordOf_add_round (position : Nat) :
    wordOf words (position + 624) =
      renewal (wordOf words position) (wordOf words (position + 1))
        (wordOf words (position + 397)) := by
  induction rounds : position / 624 generalizing position words with
  | zero =>
    have below : position < 624 := by omega
    rw [← wordOf_renew, wordOf_of_lt _ below, wordAt_renew words below (Nat.lt_succ_self position),
      renewedTo_succ, renewWord_eq, wordAt_setWord_self]
    have found (ahead : Nat) (close : ahead < 624) :
        wordAt (renewedTo words position) (position + ahead) = wordOf words (position + ahead) :=
      wordAt_renewedTo words below close
    rw [found 1 (by omega), found 397 (by omega)]
    exact congrArg (renewal · _ _) (found 0 (by omega))
  | succ rounds ih =>
    obtain ⟨earlier, later⟩ : ∃ earlier, position = earlier + 624 :=
      ⟨position - 624, by omega⟩
    have same := ih (renew words) earlier (by omega)
    simp only [wordOf_renew] at same
    rw [later, same]

/-! ## Giving words out -/

variable (twister : Twister)

/-- The generator after so many words. -/
def afterWords (twister : Twister) : Nat → Twister
  | 0 => twister
  | count + 1 => afterWords twister.next.2 count

/-- The word that comes after so many others. -/
def wordNumber (count : Nat) : UInt32 :=
  (twister.afterWords count).next.1

/-- Some of the round has been given out, and no more than there is. -/
def IsBegun : Prop :=
  0 < twister.used ∧ twister.used ≤ 624

variable {twister}

theorem IsBegun.next (begun : twister.IsBegun) : twister.next.2.IsBegun := by
  obtain ⟨some, within⟩ := begun
  rw [Twister.next]
  split
  next below => exact ⟨Nat.succ_pos _, below⟩
  next => exact ⟨Nat.one_pos, Nat.le_of_ble_eq_true rfl⟩

theorem IsBegun.afterWords (begun : twister.IsBegun) (count : Nat) :
    (twister.afterWords count).IsBegun := by
  induction count generalizing twister with
  | zero => exact begun
  | succ count ih => exact ih begun.next

theorem isBegun_ofSeed (seed : Int) : (ofSeed seed).IsBegun :=
  ⟨Nat.succ_pos 623, Nat.le_refl 624⟩

/-- A word that is given out is the tempered word of the sequence. -/
theorem word_next (within : twister.used ≤ 624) :
    twister.next.1 = temper (wordOf twister.words twister.used) := by
  rw [next]
  split
  next below => rw [wordOf_of_lt _ below]
  next spent =>
    have all : twister.used = 0 + 624 := by omega
    rw [all, ← wordOf_renew, wordOf_of_lt _ (by decide)]

theorem wordOf_next (within : twister.used ≤ 624) (count : Nat) :
    wordOf twister.next.2.words (twister.next.2.used + count) =
      wordOf twister.words (twister.used + (count + 1)) := by
  rw [next]
  split
  next below =>
    have place : twister.used + 1 + count = twister.used + (count + 1) := by omega
    rw [place]
  next spent =>
    have place : twister.used + (count + 1) = 1 + count + 624 := by omega
    rw [place, ← wordOf_renew]

/-- The words that come out of a generator are the sequence from its place on, tempered. -/
theorem wordNumber_eq (begun : twister.IsBegun) (count : Nat) :
    twister.wordNumber count = temper (wordOf twister.words (twister.used + count)) := by
  induction count generalizing twister with
  | zero => exact word_next begun.2
  | succ count ih => exact (ih begun.next).trans (congrArg temper (wordOf_next begun.2 count))

end Chip8.Twister
