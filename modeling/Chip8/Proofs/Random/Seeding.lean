/-
# Seeding as passes over a list

Seeding goes round the words of the state twice, each time in place: a word is mixed with the one
before it, which has been mixed already, and after the last word the first one takes its value. As
a list, the words that have been written are in front of those that are still to come, so a round
is one pass that moves words from the one part to the other. `sweep` is this pass; it keeps the
written words in reverse, and works out each word before it goes on.

The passes can be run. What they come to for the seed zero are the leading bits of the first words
that it gives out.
-/

import Chip8.Proofs.Random.Bytes

namespace Chip8.Twister

/-! ## Words of a state as a list -/

section Lists

variable {words : Vector UInt32 624} {before after : List UInt32} {word : UInt32}

theorem getElem?_toList (words : Vector UInt32 624) {position : Nat} (below : position < 624) :
    words.toList[position]? = some (wordAt words position) := by
  have inside : position < words.toList.length := by rwa [Vector.length_toList]
  rw [List.getElem?_eq_getElem inside, Vector.getElem_toList]
  simp only [wordAt, Nat.mod_eq_of_lt below]
  rfl

theorem length_lt_of_toList (list : words.toList = before ++ word :: after) :
    before.length < 624 := by
  have counted := congrArg List.length list
  rw [Vector.length_toList, List.length_append, List.length_cons] at counted
  omega

/-- A word of the state stands behind as many others as its position says. -/
theorem wordAt_of_toList (list : words.toList = before ++ word :: after) :
    wordAt words before.length = word := by
  have found := getElem?_toList words (length_lt_of_toList list)
  rw [list, List.getElem?_append_right (Nat.le_refl _), Nat.sub_self] at found
  exact (Option.some.inj found).symm

theorem toList_setWord (list : words.toList = before ++ word :: after) (other : UInt32) :
    (setWord words before.length other).toList = before ++ other :: after := by
  have place : before.length % 624 = before.length := Nat.mod_eq_of_lt (length_lt_of_toList list)
  rw [setWord, Vector.toList_set, list, place, List.set_append_right _ _ (Nat.le_refl _),
    Nat.sub_self, List.set_cons_zero]

end Lists

/-! ## A pass -/

/-- Go on with a word once it has been worked out. -/
def worked {α : Type} (word : UInt32) (more : UInt32 → α) : α :=
  match word.toNat with
  | 0 => more 0
  | value + 1 => more (UInt32.ofNat (value + 1))

theorem worked_eq {α : Type} (word : UInt32) (more : UInt32 → α) :
    worked word more = more word := by
  have same : UInt32.ofNat word.toNat = word := UInt32.ofNat_toNat
  rw [worked]
  split
  next zero =>
    rw [zero] at same
    exact congrArg more same
  next value positive =>
    rw [positive] at same
    exact congrArg more same

/-- A mixture makes a word out of its position, the word there and the one before it. -/
abbrev Mixture := Nat → UInt32 → UInt32 → UInt32

/-- Mix the words to come, one after the other, behind those that are written. -/
def sweep (mix : Mixture) : Nat → UInt32 → List UInt32 → List UInt32 → List UInt32
  | _, previous, written, [] => previous :: written
  | position, previous, written, word :: rest =>
    worked (mix position word previous) fun mixed =>
      sweep mix (position + 1) mixed (previous :: written) rest

theorem sweep_cons (mix : Mixture) (position : Nat) (previous word : UInt32)
    (written rest : List UInt32) :
    sweep mix position previous written (word :: rest) =
      sweep mix (position + 1) (mix position word previous) (previous :: written) rest := by
  rw [sweep, worked_eq]

/-- The words of a round that is over, from those written: the first word takes the last one. -/
def closed : List UInt32 → List UInt32
  | [] => []
  | last :: others => last :: (last :: others).reverse.tail

/-- The words after the first turn of a round. -/
def opened (mix : Mixture) : List UInt32 → List UInt32
  | first :: second :: rest => worked (mix 1 second first) fun mixed => first :: mixed :: rest
  | words => words

/-- The words after the other turns of a round. -/
def finished (mix : Mixture) : List UInt32 → List UInt32
  | first :: second :: rest => closed (sweep mix 2 second [first] rest)
  | words => words

/-! ## Mixing -/

namespace Mixing

/-- One turn of mixing. -/
def mixed (mix : Mixture) (mixing : Mixing) : Mixing :=
  mixing.write (mix mixing.position (wordAt mixing.words mixing.position)
    (wordAt mixing.words (mixing.position - 1)))

/-- The words that have been written, the last one first, and those that are to come. -/
structure Stands (mixing : Mixing) (previous : UInt32) (written upcoming : List UInt32) : Prop where
  words : mixing.words.toList = (previous :: written).reverse ++ upcoming
  position : mixing.position = (previous :: written).reverse.length

variable {mixing : Mixing} (mix : Mixture) {previous word : UInt32} {written rest : List UInt32}

theorem Stands.position_eq (stands : mixing.Stands previous written rest) :
    mixing.position = written.length + 1 := by
  rw [stands.position, List.length_reverse, List.length_cons]

/-- A turn writes the mixture of the next word. -/
theorem Stands.mixed_eq (stands : mixing.Stands previous written (word :: rest)) :
    mixing.mixed mix = mixing.write (mix (written.length + 1) word previous) := by
  have here := wordAt_of_toList stands.words
  have list := stands.words
  rw [List.reverse_cons, List.append_assoc] at list
  have behind := wordAt_of_toList list
  rw [List.length_reverse] at behind
  rw [← stands.position] at here
  rw [mixed, here, stands.position_eq, Nat.add_sub_cancel, behind]

theorem Stands.next {following : UInt32}
    (stands : mixing.Stands previous written (word :: following :: rest)) :
    (mixing.mixed mix).Stands (mix (written.length + 1) word previous) (previous :: written)
      (following :: rest) := by
  have list := toList_setWord stands.words (mix (written.length + 1) word previous)
  have more : mixing.position + 1 < 624 := by
    have counted := congrArg List.length stands.words
    rw [Vector.length_toList, List.length_append, ← stands.position] at counted
    simp only [List.length_cons] at counted
    omega
  rw [stands.mixed_eq, write]
  simp only [if_pos more]
  constructor
  · rw [stands.position, list]
    simp only [List.reverse_cons, List.append_assoc, List.cons_append, List.nil_append]
  · rw [stands.position_eq, List.length_reverse, List.length_cons, List.length_cons]

/-- The last turn of a round lets the next one begin. -/
theorem Stands.last (stands : mixing.Stands previous written [word]) :
    (mixing.mixed mix).words.toList =
        closed (mix (written.length + 1) word previous :: previous :: written) ∧
      (mixing.mixed mix).position = 1 := by
  generalize made : mix (written.length + 1) word previous = new
  have list := toList_setWord stands.words new
  rw [← stands.position] at list
  have counted := congrArg List.length list
  rw [Vector.length_toList, List.length_append, ← stands.position, List.length_singleton] at counted
  have complete : ¬ mixing.position + 1 < 624 := by omega
  have at_end : mixing.position = 623 := by omega
  have all : (previous :: written).reverse ++ [new] = (new :: previous :: written).reverse :=
    List.reverse_cons.symm
  have last_word : wordAt (setWord mixing.words mixing.position new) 623 = new := by
    have found := wordAt_of_toList list
    rw [← stands.position] at found
    rw [← at_end]
    exact found
  rw [stands.mixed_eq, write]
  simp only [if_neg complete, made, last_word, and_true]
  rw [all] at list
  cases reversed : (new :: previous :: written).reverse with
  | nil => cases List.reverse_eq_nil_iff.mp reversed
  | cons first others =>
    rw [reversed] at list
    have front : (setWord mixing.words mixing.position new).toList = [] ++ first :: others := list
    rw [closed, reversed]
    exact toList_setWord front new

/-- What is to come of a round is one pass. -/
theorem Stands.iterate_mixed (stands : mixing.Stands previous written (word :: rest)) :
    ((mixed mix)^[rest.length + 1] mixing).words.toList =
        closed (sweep mix (written.length + 1) previous written (word :: rest)) ∧
      ((mixed mix)^[rest.length + 1] mixing).position = 1 := by
  induction rest generalizing mixing previous written word with
  | nil =>
    rw [sweep_cons]
    exact stands.last mix
  | cons following rest ih =>
    rw [sweep_cons, Function.iterate_succ_apply]
    exact ih (stands.next mix)

/-- A state has two words and 622 more. -/
theorem exists_toList (words : Vector UInt32 624) :
    ∃ first second rest, words.toList = first :: second :: rest ∧ rest.length = 622 := by
  have counted : words.toList.length = 624 := Vector.length_toList
  rcases list : words.toList with _ | ⟨first, _ | ⟨second, rest⟩⟩
  · rw [list] at counted
    cases counted
  · rw [list] at counted
    cases counted
  · rw [list] at counted
    exact ⟨first, second, rest, rfl, by simpa using counted⟩

theorem toList_mixed (begins : mixing.position = 1) :
    (mixing.mixed mix).words.toList = opened mix mixing.words.toList ∧
      (mixing.mixed mix).position = 2 := by
  obtain ⟨first, second, rest, list, many⟩ := exists_toList mixing.words
  cases rest with
  | nil => cases many
  | cons third rest =>
    have stands : mixing.Stands first [] (second :: third :: rest) := ⟨list, begins⟩
    have went := stands.next mix
    rw [went.words, list, opened, worked_eq]
    exact ⟨rfl, went.position⟩

theorem toList_iterate_mixed (begun : mixing.position = 2) :
    ((mixed mix)^[622] mixing).words.toList = finished mix mixing.words.toList ∧
      ((mixed mix)^[622] mixing).position = 1 := by
  obtain ⟨first, second, rest, list, many⟩ := exists_toList mixing.words
  cases rest with
  | nil => cases many
  | cons third rest =>
    have stands : mixing.Stands second [first] (third :: rest) := ⟨list, begun⟩
    have came := stands.iterate_mixed mix
    rw [← List.length_cons, many] at came
    rw [list]
    exact came

end Mixing

/-! ## Seeding -/

/-- How the first words spread. -/
def spreading : Mixture := fun position _ previous =>
  1812433253 * folded previous + UInt32.ofNat position

/-- How the one word of a key is mixed in. -/
def absorbing (key : UInt32) : Mixture := fun _ word previous =>
  (word ^^^ (folded previous * 1664525)) + key + UInt32.ofNat 0

/-- How the words are mixed among themselves. -/
def settling : Mixture := fun position word previous =>
  (word ^^^ (folded previous * 1566083941)) - UInt32.ofNat position

/-- The words after so many turns of the loop that spreads a seed. -/
def spreadTo (seed : UInt32) (count : Nat) : Vector UInt32 624 :=
  (List.range count).foldl
    (fun words position => setWord words (position + 1)
      (1812433253 * folded (wordAt words position) + UInt32.ofNat (position + 1)))
    (Vector.replicate 624 seed)

theorem spread_eq_spreadTo (seed : UInt32) : spread seed = spreadTo seed 623 :=
  rfl

theorem spreadTo_succ (seed : UInt32) (count : Nat) :
    spreadTo seed (count + 1) = setWord (spreadTo seed count) (count + 1)
      (spreading (count + 1) seed (wordAt (spreadTo seed count) count)) := by
  rw [spreadTo, List.range_succ, List.foldl_append]
  rfl

/-- After so many turns, the pass has as many words behind it. -/
theorem exists_toList_spreadTo (seed : UInt32) {count left : Nat} (total : count + left = 623) :
    ∃ previous written, written.length = count ∧
      (spreadTo seed count).toList = (previous :: written).reverse ++ List.replicate left seed ∧
      sweep spreading 1 seed [] (List.replicate 623 seed) =
        sweep spreading (count + 1) previous written (List.replicate left seed) := by
  induction count generalizing left with
  | zero =>
    obtain rfl : left = 623 := by omega
    exact ⟨seed, [], rfl, Vector.toList_replicate, rfl⟩
  | succ count ih =>
    obtain ⟨previous, written, many, list, same⟩ :=
      ih (by omega : count + (left + 1) = 623)
    rw [List.replicate_succ] at list same
    have front := list
    rw [List.reverse_cons, List.append_assoc] at front
    have behind := wordAt_of_toList front
    have wrote := toList_setWord list (spreading (count + 1) seed previous)
    rw [List.length_reverse, many] at behind
    rw [List.length_reverse, List.length_cons, many] at wrote
    refine ⟨spreading (count + 1) seed previous, previous :: written, congrArg (· + 1) many, ?_,
      same.trans (sweep_cons ..)⟩
    rw [spreadTo_succ, behind, wrote]
    simp only [List.reverse_cons, List.append_assoc, List.cons_append, List.nil_append]

theorem toList_spread (seed : UInt32) :
    (spread seed).toList = (sweep spreading 1 seed [] (List.replicate 623 seed)).reverse := by
  obtain ⟨previous, written, _, list, same⟩ := exists_toList_spreadTo seed (Nat.add_zero 623)
  rw [same, spread_eq_spreadTo, list]
  exact List.append_nil _

/-- What mixing with a key of one word makes of words. -/
def mixedWords (key : UInt32) (words : List UInt32) : List UInt32 :=
  opened settling (finished settling
    (opened (absorbing key) (finished (absorbing key) (opened (absorbing key) words))))

/-- The words that a key of one word spreads to, but for the first. -/
def seededWords (key : UInt32) : List UInt32 :=
  mixedWords key (sweep spreading 1 19650218 [] (List.replicate 623 19650218)).reverse

theorem absorb_singleton (key : UInt32) (mixing : Mixing) (turn : Nat) :
    Mixing.absorb [key] mixing turn = mixing.mixed (absorbing key) := by
  rw [Mixing.absorb, List.length_singleton, Nat.mod_one]
  rfl

/-- Turns of a loop that is as long as a round and does not begin with one. -/
theorem iterate_add_two {α : Type} (turn : α → α) (count : Nat) (start : α) :
    turn^[count + 2] start = turn (turn^[count] (turn start)) := by
  rw [Function.iterate_succ_apply, Function.iterate_succ_apply']

/-- The turns of the two loops, from any words: the first loop ends one turn into the second round,
and so does the other into the third. -/
theorem toList_mixings (key : UInt32) (start : Mixing) (begins : start.position = 1) :
    ((Mixing.mixed settling)^[622 + 1]
        ((Mixing.mixed (absorbing key))^[622 + 2] start)).words.toList =
      mixedWords key start.words.toList := by
  obtain ⟨list_one, at_one⟩ := Mixing.toList_mixed (absorbing key) begins
  obtain ⟨list_two, at_two⟩ := Mixing.toList_iterate_mixed (absorbing key) at_one
  obtain ⟨list_three, at_three⟩ := Mixing.toList_mixed (absorbing key) at_two
  obtain ⟨list_four, at_four⟩ := Mixing.toList_iterate_mixed settling at_three
  obtain ⟨list_five, _⟩ := Mixing.toList_mixed settling at_four
  rw [iterate_add_two (Mixing.mixed (absorbing key)) 622,
    Function.iterate_succ_apply' (Mixing.mixed settling) 622, list_five, list_four, list_three,
    list_two, list_one, mixedWords]

/-- The words of a key are those that its two loops come to, but for the first. -/
theorem words_ofKey_singleton (key : UInt32) :
    (ofKey [key]).words =
      setWord ((Mixing.mixed settling)^[622 + 1]
        ((Mixing.mixed (absorbing key))^[622 + 2] ⟨spread 19650218, 1⟩)).words 0 0x80000000 := by
  have turns : Mixing.absorb [key] = fun mixing _ => mixing.mixed (absorbing key) := by
    funext mixing turn
    exact absorb_singleton key mixing turn
  have settles : Mixing.settle = Mixing.mixed settling := rfl
  have most : max 624 [key].length = 622 + 2 := rfl
  rw [ofKey, most, turns, settles]
  simp only [List.foldl_const, List.length_range]

theorem toList_ofKey_singleton (key : UInt32) :
    (ofKey [key]).words.toList = 0x80000000 :: (seededWords key).tail := by
  have seeded := toList_mixings key ⟨spread 19650218, 1⟩ rfl
  dsimp only at seeded
  rw [words_ofKey_singleton]
  generalize (Mixing.mixed settling)^[622 + 1] _ = settled at seeded ⊢
  obtain ⟨first, second, rest, list, _⟩ := Mixing.exists_toList settled.words
  have front : settled.words.toList = [] ++ first :: second :: rest := list
  rw [seededWords, ← toList_spread, ← seeded, list]
  exact toList_setWord front 0x80000000

/-- A seed of one word is a key of one word. -/
theorem ofSeed_of_lt {seed : Int} (small : seed.natAbs < 2 ^ 32) :
    ofSeed seed = ofKey [UInt32.ofNat seed.natAbs] := by
  have short : seed.natAbs.log2 / 32 = 0 := by
    apply Nat.div_eq_of_lt
    by_cases zero : seed.natAbs = 0
    · rw [zero]
      decide
    · exact (Nat.log2_lt zero).mpr small
  have single : keyWords (0 + 1) seed.natAbs = [UInt32.ofNat (seed.natAbs % 2 ^ 32)] := rfl
  rw [ofSeed, short, single, Nat.mod_eq_of_lt small]

/-! ## The first words of a seed -/

/-- The leading bits of the first words that a generator gives out, from the words of its state. -/
def firstLeading (count : Nat) (words : List UInt32) : List Nat :=
  (List.range count).map fun position =>
    leading (temper (renewal (words.getD position 0) (words.getD (position + 1) 0)
      (words.getD (position + 397) 0)))

theorem leading_wordNumber_of_key {key : UInt32} {count : Nat} (few : count ≤ 227) :
    (List.range count).map (fun position => leading ((ofKey [key]).wordNumber position)) =
      firstLeading count (0x80000000 :: (seededWords key).tail) := by
  have begun : (ofKey [key]).IsBegun := ⟨Nat.succ_pos 623, Nat.le_refl 624⟩
  have spent : (ofKey [key]).used = 624 := rfl
  have found (position : Nat) (below : position < 624) :
      wordOf (ofKey [key]).words position =
        (0x80000000 :: (seededWords key).tail).getD position 0 := by
    rw [wordOf_of_lt _ below, ← toList_ofKey_singleton, List.getD_eq_getElem?_getD,
      getElem?_toList _ below, Option.getD_some]
  apply List.map_congr_left
  intro position member
  have below := List.mem_range.mp member
  rw [wordNumber_eq begun, spent, Nat.add_comm, wordOf_add_round, found _ (by omega),
    found _ (by omega), found _ (by omega)]

theorem firstLeading_seededWords_zero :
    firstLeading 6 (0x80000000 :: (seededWords 0).tail) = [432, 197, 388, 455, 215, 20] := by
  decide +kernel

/-- The leading bits of the first words of the seed zero. -/
theorem leading_wordNumber_ofSeed_zero :
    (List.range 6).map (fun position => leading ((ofSeed 0).wordNumber position)) =
      [432, 197, 388, 455, 215, 20] := by
  have zero : UInt32.ofNat (Int.natAbs 0) = 0 := by decide
  rw [ofSeed_of_lt (by decide), zero, leading_wordNumber_of_key (by decide),
    firstLeading_seededWords_zero]

/-- The first bytes of the seed zero. -/
theorem byteNumber_ofSeed_zero {drawn lead : Nat} (found : [197, 215, 20][drawn]? = some lead) :
    (ofSeed 0).byteNumber drawn = UInt8.ofNat lead := by
  have known (position lead : Nat)
      (place : [432, 197, 388, 455, 215, 20][position]? = some lead) :
      leading ((ofSeed 0).wordNumber position) = lead := by
    have few : position < 6 := (List.getElem?_eq_some_iff.mp place).1
    rw [← leading_wordNumber_ofSeed_zero, List.getElem?_map, List.getElem?_range few] at place
    exact Option.some.inj place
  have taken : [432, 197, 388, 455, 215, 20].filter (· < 256) = [197, 215, 20] := by decide
  rw [← taken] at found
  exact byteNumber_of_leading (isBegun_ofSeed 0) known found

end Chip8.Twister
