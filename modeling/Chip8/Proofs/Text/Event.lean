/-
# How the texts of events begin

A log holds texts, and whoever reads it knows an event by how its text begins. The second
letter already tells the end of the sound from every other event, and the trace of a step too.
-/

import Chip8.Machine.Event
import Chip8.Proofs.Text.Writable
import Mathlib.Data.List.Basic
import Mathlib.Tactic.ByContra

namespace Chip8

/-- The event is the trace of a step. -/
def Event.isTrace : Event → Bool
  | stepped _ => true
  | _ => false

/-- The second letter of a text stays when more is written behind. -/
theorem second_append {text more : String} {letter : Char}
    (second : text.toList[1]? = some letter) : (text ++ more).toList[1]? = some letter := by
  obtain ⟨inside, _⟩ := List.getElem?_eq_some_iff.mp second
  rw [String.toList_append, List.getElem?_append_left inside, second]

/-- What a text begins with stays when more is written behind. -/
theorem prefix_append {start text more : String} (begins : start.toList <+: text.toList) :
    start.toList <+: (text ++ more).toList := by
  rw [String.toList_append]
  exact begins.trans (List.prefix_append text.toList more.toList)

namespace Event

/-- The second letter of the text of an event. -/
def secondLetter : Event → Char
  | loaded _ => 'a'
  | pushed _ _ | popped _ _ => 't'
  | soundExpired => 'o'
  | systemCallIgnored _ => 'Y'
  | keyTaken _ _ => 'D'
  | stepped _ => 'I'
  | faulted _ _ _ | paused _ | keyWaitEnded _ | selfJump _ _ => 't'
  | runFaulted _ _ => 'u'

theorem second_message (event : Event) :
    event.message.toList[1]? = some event.secondLetter := by
  cases event with
  | soundExpired => rfl
  | _ =>
    repeat apply second_append
    rfl

theorem eq_soundExpired_of_secondLetter {event : Event} (letter : event.secondLetter = 'o') :
    event = .soundExpired := by
  cases event with
  | soundExpired => rfl
  | _ => simp [secondLetter] at letter

theorem isTrace_of_secondLetter {event : Event} (letter : event.secondLetter = 'I') :
    event.isTrace = true := by
  cases event with
  | stepped => rfl
  | _ => simp [secondLetter] at letter

theorem message_eq_soundExpired_iff {event : Event} :
    event.message = "sound timer expired" ↔ event = .soundExpired := by
  constructor
  · intro same
    have second := event.second_message
    rw [same] at second
    have letter : some 'o' = some event.secondLetter := second
    exact eq_soundExpired_of_secondLetter (Option.some.inj letter).symm
  · rintro rfl
    rfl

/-- Of all events the end of the sound alone leaves the line that tells it. -/
theorem line?_eq_soundExpired_iff {event : Event} :
    event.line? = some "sound timer expired" ↔ event = .soundExpired := by
  constructor
  · intro told
    rw [line?, Option.ite_none_right_eq_some] at told
    exact message_eq_soundExpired_iff.mp (Option.some.inj told.2)
  · rintro rfl
    exact if_pos isWritable_zero

/-- The text of an event begins like a trace exactly if the event is one. -/
theorem isPrefixOf_message (event : Event) :
    "TICK:".toList.isPrefixOf event.message.toList = event.isTrace := by
  rw [Bool.eq_iff_iff, List.isPrefixOf_iff_prefix]
  constructor
  · rintro ⟨rest, same⟩
    have second := event.second_message
    rw [← same] at second
    have letter : some 'I' = some event.secondLetter := second
    exact isTrace_of_secondLetter (Option.some.inj letter).symm
  · intro traced
    cases event with
    | stepped snapshot =>
      show _ <+: snapshot.line.toList
      repeat apply prefix_append
      exact ⟨[' '], rfl⟩
    | _ => cases traced

end Event

end Chip8
