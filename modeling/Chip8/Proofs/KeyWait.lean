/-
# Waiting for a key

An instruction that asks for a key while none is held moves the counter back to itself and
says that it waits. So a wait is no state of its own: the machine stands where it stood, and
the next step asks again. Nothing but the tick and the note of the operation shows that it
has asked at all.

The main statement says when a step waits, that steps and timer periods leave a waiting
machine waiting with everything but the tick, the note and the timers as it was, and that
the first step with a key held takes the lowest one and moves on. Waiting raises the tick, so
that a machine which reports its steps can wait up to a tick that has too many digits: that
step is refused, but leaves what a wait leaves, and the machine goes on waiting after it.
-/

import Chip8.Proofs.Keypad
import Chip8.Proofs.Machine.WellFormed
import Mathlib.Control.Monad.Basic

namespace Chip8

/-- A command that neither touches keys nor writes for the host. -/
def Command.Idles : Command → Prop
  | step | tickTimers => True
  | _ => False

/-- A command that changes keys or timers and nothing else. -/
def Command.TouchesKeys : Command → Prop
  | setKey _ _ | tickTimers => True
  | _ => False

namespace Machine

/-- The next step asks for a key, and none is held. -/
structure Waits (machine : Machine) : Prop where
  asks : machine.Next .awaitKey
  released : machine.keypad.lowest? = none

/-- All but the tick, the note of the operation and the timers is as it was. -/
def Frozen (before after : Machine) : Prop :=
  ∃ tick last delay sound,
    after = { before with tick := tick, last := last, delay := delay, sound := sound }

variable {machine after last : Machine}

/-! ## Operations that wait -/

theorem goOn_ne_waiting (machine : Machine) (events : List Event) :
    (machine.goOn events).result ≠ .ok .waiting := by
  intro waiting
  cases waiting

theorem refuse_ne_waiting (machine : Machine) (fault : Fault) :
    (machine.refuse fault).result ≠ .ok .waiting := by
  intro waiting
  cases waiting

/-- Only the operation that asks for a key ever waits. -/
theorem exec_ne_waiting (machine : Machine) {operation : Operation} (word : Word)
    (other : operation ≠ .awaitKey) : (exec operation word machine).result ≠ .ok .waiting := by
  cases operation with
  | awaitKey => exact absurd rfl other
  | ret =>
    show machine.goBack.result ≠ _
    rw [goBack]
    rcases machine.stack.pop with fault | ⟨target, stack⟩
    · exact refuse_ne_waiting machine fault
    · exact goOn_ne_waiting _ _
  | call =>
    show (machine.goAndRemember word.address).result ≠ _
    rw [goAndRemember]
    cases machine.stack.push machine.counter.toNat with
    | error fault => exact refuse_ne_waiting machine fault
    | ok stack => exact goOn_ne_waiting _ _
  | storeDigits | storeRegisters =>
    show (machine.storeAtIndex _).result ≠ _
    rw [storeAtIndex]
    cases machine.memory.writeBlock machine.index.toNat _ with
    | error fault => exact refuse_ne_waiting machine fault
    | ok memory => exact goOn_ne_waiting _ _
  | loadRegisters =>
    show (machine.loadAtIndex _).result ≠ _
    rw [loadAtIndex]
    cases machine.memory.readBlock machine.index.toNat _ with
    | error fault => exact refuse_ne_waiting machine fault
    | ok bytes => exact goOn_ne_waiting _ _
  | draw =>
    show (machine.drawSprite _ _ _).result ≠ _
    rw [drawSprite]
    cases machine.memory.readBlock machine.index.toNat _ with
    | error fault => exact refuse_ne_waiting machine fault
    | ok sprite => exact goOn_ne_waiting _ _
  | _ => exact goOn_ne_waiting _ _

theorem takeKey_of_released (machine : Machine) (released : machine.keypad.lowest? = none)
    (register : Fin 16) :
    machine.takeKey register =
      ⟨.ok .waiting, { machine with counter := machine.counter - 2 }, []⟩ := by
  rw [takeKey, released]

theorem takeKey_of_held (machine : Machine) {key : Fin 16}
    (lowest : machine.keypad.lowest? = some key) (register : Fin 16) :
    machine.takeKey register =
      goOn (machine.setRegister register (UInt8.ofNat key.val)) [.keyTaken register key] := by
  rw [takeKey, lowest]

/-! ## Steps that wait -/

theorem Waits.done (waits : machine.Waits) :
    exec .awaitKey machine.nextWord machine.movedOn =
      ⟨.ok .waiting, { machine.movedOn with counter := machine.movedOn.counter - 2 }, []⟩ :=
  takeKey_of_released machine.movedOn waits.released machine.nextWord.x

theorem Waits.result_step (waits : machine.Waits) :
    machine.step.result = machine.stepAnswer .waiting :=
  result_step_of_done waits.asks (congrArg Outcome.result waits.done)

theorem waits_of_result (waiting : machine.step.result = .ok .waiting) : machine.Waits := by
  rcases step_beginnings machine with past | ⟨inside, unknown⟩ | ⟨operation, next⟩
  · rw [step_of_past machine past] at waiting
    cases waiting
  · rw [step_of_unknown machine inside unknown] at waiting
    cases waiting
  · have done := ((result_step_ok_iff next).mp waiting).2
    by_cases asks : operation = .awaitKey
    · subst asks
      refine ⟨next, ?_⟩
      cases lowest : machine.keypad.lowest? with
      | none => rfl
      | some key =>
        change (machine.movedOn.takeKey machine.nextWord.x).result = _ at done
        rw [takeKey_of_held machine.movedOn lowest] at done
        cases done
    · exact absurd done (exec_ne_waiting machine.movedOn machine.nextWord asks)

theorem result_step_waiting_iff :
    machine.step.result = .ok .waiting ↔ machine.Reportable ∧ machine.Waits := by
  constructor
  · intro waiting
    exact ⟨reportable_of_ok waiting, waits_of_result waiting⟩
  · rintro ⟨reportable, waits⟩
    rw [waits.result_step, stepAnswer, if_pos reportable]

/-- The word asks for a key exactly if it matches the row that does. -/
theorem waits_iff : machine.Waits ↔
    machine.counter.toNat ≤ 0xFFE ∧ Operation.awaitKey.Matches machine.nextWord ∧
      ∀ key : Fin 16, machine.keypad.get key = false := by
  rw [← Keypad.lowest?_eq_none_iff]
  constructor
  · intro waits
    exact ⟨waits.asks.inside, waits.asks.row, waits.released⟩
  · rintro ⟨inside, row, released⟩
    exact ⟨⟨inside, decode_of_selects ⟨row, nofun⟩⟩, released⟩

/-- The counter moves on and back again. -/
theorem Waits.machine_step (waits : machine.Waits) :
    machine.step.machine =
      { machine with tick := machine.tick + 1, last := some .awaitKey } := by
  have still : machine.counter + 2 - 2 = machine.counter := UInt16.add_sub_cancel machine.counter 2
  rw [machine_step_of_done waits.asks (congrArg Outcome.result waits.done), waits.done]
  show { machine with
    counter := machine.counter + 2 - 2, tick := machine.tick + 1, last := some .awaitKey } = _
  rw [still]

section Held

variable {key : Fin 16} (lowest : machine.keypad.lowest? = some key)

include lowest

theorem exec_of_held :
    exec .awaitKey machine.nextWord machine.movedOn =
      goOn (machine.movedOn.setRegister machine.nextWord.x (UInt8.ofNat key.val))
        [.keyTaken machine.nextWord.x key] :=
  takeKey_of_held machine.movedOn lowest machine.nextWord.x

variable (asks : machine.Next .awaitKey)

include asks

theorem result_step_of_held : machine.step.result = machine.stepAnswer .running :=
  result_step_of_done asks (congrArg Outcome.result (exec_of_held lowest))

theorem machine_step_of_held :
    machine.step.machine =
      { machine with
        registers := machine.registers.set machine.nextWord.x (UInt8.ofNat key.val)
        counter := machine.counter + 2
        tick := machine.tick + 1
        last := some .awaitKey } := by
  have done := exec_of_held lowest
  rw [machine_step_of_done asks (congrArg Outcome.result done), done]
  rfl

end Held

/-! ## While a machine waits -/

theorem frozen_refl (machine : Machine) : machine.Frozen machine :=
  ⟨_, _, _, _, rfl⟩

theorem Frozen.trans (first : machine.Frozen after) (second : after.Frozen last) :
    machine.Frozen last := by
  obtain ⟨_, _, _, _, rfl⟩ := first
  obtain ⟨_, _, _, _, rfl⟩ := second
  exact ⟨_, _, _, _, rfl⟩

theorem Frozen.samePlace (frozen : machine.Frozen after) : machine.SamePlace after := by
  obtain ⟨_, _, _, _, rfl⟩ := frozen
  exact ⟨rfl, rfl⟩

theorem Waits.of_frozen (waits : machine.Waits) (frozen : machine.Frozen after) :
    after.Waits where
  asks := frozen.samePlace.next waits.asks
  released := by
    obtain ⟨_, _, _, _, rfl⟩ := frozen
    exact waits.released

theorem Waits.frozen_perform (waits : machine.Waits) {command : Command}
    (idles : command.Idles) : machine.Frozen (perform command machine).machine := by
  cases command with
  | step =>
    show machine.Frozen machine.step.machine
    rw [waits.machine_step]
    exact ⟨_, _, _, _, rfl⟩
  | tickTimers => exact ⟨_, _, _, _, rfl⟩
  | _ => exact idles.elim

theorem Waits.frozen_after (waits : machine.Waits) {commands : List Command}
    (idle : ∀ command ∈ commands, command.Idles) : machine.Frozen (machine.after commands) := by
  induction commands generalizing machine with
  | nil => exact frozen_refl machine
  | cons command rest ih =>
    obtain ⟨first, later⟩ := List.forall_mem_cons.mp idle
    have frozen := waits.frozen_perform first
    exact frozen.trans (ih (waits.of_frozen frozen) later)

/-! ## Keys while a machine waits -/

/-- Keys and timers may change, and nothing else. -/
def KeysTouched (before after : Machine) : Prop :=
  ∃ keypad delay sound,
    after = { before with keypad := keypad, delay := delay, sound := sound }

theorem KeysTouched.trans (first : machine.KeysTouched after) (second : after.KeysTouched last) :
    machine.KeysTouched last := by
  obtain ⟨_, _, _, rfl⟩ := first
  obtain ⟨_, _, _, rfl⟩ := second
  exact ⟨_, _, _, rfl⟩

theorem keysTouched_setKey (machine : Machine) (key : Int) (pressed : Bool) :
    machine.KeysTouched (machine.setKey key pressed).machine := by
  rw [setKey]
  cases machine.keypad.put key pressed with
  | error fault => exact ⟨_, _, _, rfl⟩
  | ok keypad => exact ⟨keypad, _, _, rfl⟩

theorem keysTouched_after (machine : Machine) {commands : List Command}
    (touch : ∀ command ∈ commands, command.TouchesKeys) :
    machine.KeysTouched (machine.after commands) := by
  induction commands generalizing machine with
  | nil => exact ⟨_, _, _, rfl⟩
  | cons command rest ih =>
    obtain ⟨first, later⟩ := List.forall_mem_cons.mp touch
    have touched : machine.KeysTouched (perform command machine).machine := by
      cases command with
      | setKey key pressed => exact keysTouched_setKey machine key pressed
      | tickTimers => exact ⟨machine.keypad, _, _, rfl⟩
      | _ => exact first.elim
    exact touched.trans (ih (perform command machine).machine later)

/-! ## The wait -/

/-- A step waits exactly if its word asks for a key, none is held, and the step can be
reported. The first two alone settle what it leaves: it shows in nothing but the tick and the
note of the operation. Any steps and timer periods after it leave all but these and the timers
as they were, and every such step waits too, if it can be reported. When the keys have changed
after that, the next step waits again if none is held, and otherwise puts the lowest held key
into the register that the word names and goes on behind it. -/
theorem key_wait (machine : Machine) :
    (machine.step.result = .ok .waiting ↔
      machine.Reportable ∧ machine.counter.toNat ≤ 0xFFE ∧
        Operation.awaitKey.Matches machine.nextWord ∧
        ∀ key : Fin 16, machine.keypad.get key = false) ∧
    (machine.counter.toNat ≤ 0xFFE → Operation.awaitKey.Matches machine.nextWord →
      (∀ key : Fin 16, machine.keypad.get key = false) →
      machine.step.machine =
        { machine with tick := machine.tick + 1, last := some .awaitKey } ∧
      ∀ idle : List Command, (∀ command ∈ idle, command.Idles) →
        let parked := machine.after idle
        parked.step.result = parked.stepAnswer .waiting ∧ machine.Frozen parked ∧
        ∀ events : List Command, (∀ command ∈ events, command.TouchesKeys) →
          let ready := parked.after events
          ((∀ key : Fin 16, ready.keypad.get key = false) →
            ready.step.result = ready.stepAnswer .waiting) ∧
          ((∃ key : Fin 16, ready.keypad.get key = true) →
            ∃ key : Fin 16, ready.keypad.get key = true ∧
              (∀ other : Fin 16, ready.keypad.get other = true → key ≤ other) ∧
              ready.step.result = ready.stepAnswer .running ∧
              ready.step.machine =
                { ready with
                  registers := machine.registers.set machine.nextWord.x (UInt8.ofNat key.val)
                  counter := machine.counter + 2
                  tick := ready.tick + 1
                  last := some .awaitKey } ∧
              ready.step.machine.counter.toNat = machine.counter.toNat + 2)) := by
  constructor
  · rw [result_step_waiting_iff, waits_iff]
  intro inside row released
  have waits := waits_iff.mpr ⟨inside, row, released⟩
  refine ⟨waits.machine_step, ?_⟩
  intro idle idles parked
  have frozen : machine.Frozen parked := waits.frozen_after idles
  have still := waits.of_frozen frozen
  refine ⟨still.result_step, frozen, ?_⟩
  intro events touch ready
  have touched : parked.KeysTouched ready := keysTouched_after parked touch
  have same : machine.SamePlace ready := by
    obtain ⟨_, _, _, ready_eq⟩ := touched
    rw [ready_eq]
    exact frozen.samePlace.trans ⟨rfl, rfl⟩
  have registers : ready.registers = machine.registers := by
    obtain ⟨_, _, _, ready_eq⟩ := touched
    obtain ⟨_, _, _, _, parked_eq⟩ := frozen
    rw [ready_eq, parked_eq]
  have asks := same.next waits.asks
  constructor
  · intro none_held
    exact Waits.result_step ⟨asks, Keypad.lowest?_eq_none_iff.mpr none_held⟩
  · rintro ⟨some_key, held⟩
    cases lowest : ready.keypad.lowest? with
    | none =>
      rw [Keypad.lowest?_eq_none_iff.mp lowest some_key] at held
      cases held
    | some key =>
      have done := machine_step_of_held lowest asks
      simp only [registers, same.counter, same.nextWord] at done
      obtain ⟨pressed, least⟩ := Keypad.lowest?_eq_some_iff.mp lowest
      refine ⟨key, pressed, least, result_step_of_held lowest asks, done, ?_⟩
      rw [done]
      exact counter_movedOn machine waits.asks.inside

/-- Two steps and a timer period wait; then three keys are pressed and the lowest of them is
released again, so that the middle one goes to VF. -/
theorem key_wait_takes_middle_key :
    let machine := { bare [0xFF, 0x0A] with delay := 5 }
    let parked := machine.after [.step, .tickTimers, .step]
    let ready := parked.after [.setKey 12 true, .setKey 3 true, .setKey 16 true, .setKey 9 true,
      .setKey 3 false]
    machine.Frozen parked ∧ ready.step.result = .ok .running ∧
      ready.step.machine.registers = machine.registers.set 15 9 ∧
      ready.step.machine.counter.toNat = 0x202 := by
  intro machine parked ready
  have inside : machine.counter.toNat ≤ 0xFFE := by decide +kernel
  have row : Operation.awaitKey.Matches machine.nextWord := by decide +kernel
  have released : ∀ key : Fin 16, machine.keypad.get key = false := by decide +kernel
  have idle : ∀ command ∈ [Command.step, .tickTimers, .step], command.Idles := by
    simp [Command.Idles]
  have touch : ∀ command ∈ [Command.setKey 12 true, .setKey 3 true, .setKey 16 true,
      .setKey 9 true, .setKey 3 false], command.TouchesKeys := by
    simp [Command.TouchesKeys]
  have pressed : ready.keypad.get 9 = true := by decide +kernel
  have lower : ∀ key : Fin 16, ready.keypad.get key = true → 9 ≤ key := by decide +kernel
  have reportable : ready.Reportable := by decide +kernel
  obtain ⟨_, onward⟩ := key_wait machine
  obtain ⟨_, frozen, taken⟩ := (onward inside row released).2 _ idle
  obtain ⟨key, held, least, runs, done, behind⟩ := (taken _ touch).2 ⟨9, pressed⟩
  have nine : key = 9 := Fin.le_antisymm (least 9 pressed) (lower key held)
  have register : machine.nextWord.x = 15 := by decide +kernel
  subst nine
  refine ⟨frozen, runs.trans (if_pos reportable), ?_, behind⟩
  rw [done]
  simp only [register]
  rfl

/-- At the widest tick a machine that reports asks for a key with none held, and does not say
that it waits. -/
theorem wait_unreported_at_widest_tick :
    let machine := { bare [0xFF, 0x0A] with tick := widest }
    machine.WellFormed ∧ machine.counter.toNat ≤ 0xFFE ∧
      Operation.awaitKey.Matches machine.nextWord ∧
      (∀ key : Fin 16, machine.keypad.get key = false) ∧
      machine.step.result ≠ .ok .waiting := by
  intro machine
  refine ⟨⟨Nat.zero_le 16, by decide⟩, by decide +kernel, by decide +kernel, by decide +kernel,
    ?_⟩
  intro waiting
  exact not_reportable_of_widest machine rfl rfl (reportable_of_ok waiting)

end Machine

end Chip8
