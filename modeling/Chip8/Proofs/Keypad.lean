/-
# Held keys

The held keys of a keypad are listed in ascending order, so the first of them is
the lowest. The main statements describe that list, and the lowest key, by the keys
that are held.
-/

import Chip8.Keypad

namespace Chip8.Keypad

variable {keypad : Keypad} {key : Fin 16}

theorem mem_heldKeys : key ∈ keypad.heldKeys ↔ keypad.get key = true := by
  rw [heldKeys, List.mem_filter]
  exact and_iff_right (List.mem_finRange key)

theorem heldKeys_ascending (keypad : Keypad) : keypad.heldKeys.Pairwise (· < ·) :=
  (List.pairwise_lt_finRange 16).filter _

/-- There is no lowest held key exactly if no key is held. -/
theorem lowest?_eq_none_iff : keypad.lowest? = none ↔ ∀ key : Fin 16, keypad.get key = false := by
  rw [lowest?, List.head?_eq_none_iff, List.eq_nil_iff_forall_not_mem]
  simp only [mem_heldKeys, Bool.not_eq_true]

/-- The lowest held key is held, and no key below it is. -/
theorem lowest?_eq_some_iff :
    keypad.lowest? = some key ↔
      keypad.get key = true ∧ ∀ other : Fin 16, keypad.get other = true → key ≤ other := by
  have ascending := heldKeys_ascending keypad
  have members : ∀ other : Fin 16, keypad.get other = true ↔ other ∈ keypad.heldKeys :=
    fun _ => mem_heldKeys.symm
  simp only [members, lowest?]
  cases listed : keypad.heldKeys with
  | nil => simp
  | cons first rest =>
    rw [listed, List.pairwise_cons] at ascending
    simp only [List.head?_cons, Option.some.injEq, List.mem_cons]
    constructor
    · rintro rfl
      refine ⟨.inl rfl, ?_⟩
      rintro other (rfl | later)
      · exact Fin.le_refl _
      · exact Fin.le_of_lt (ascending.1 other later)
    · rintro ⟨rfl | later, least⟩
      · rfl
      · have above := ascending.1 key later
        have below := least first (.inl rfl)
        omega

end Chip8.Keypad
