/-
# Runs in parts

A run carries nothing from one turn to the next but the machine. So a run that was cut
off, by an earlier limit or by a pause, can be taken up where it was left, and the two
parts together are the run that was not cut off. A run that ended for a reason of its own
has already ended as any longer one would.

On loops this is plain: the turns of the first part pass for the longer run as well, and
its loop begins with them.
-/

import Chip8.Proofs.Run.Loop
import Mathlib.Control.Monad.Basic

namespace Chip8

/-- Two outcomes give the same answer and leave the same machine. -/
structure Outcome.Agrees {α : Type} (first second : Outcome α) : Prop where
  result : first.result = second.result
  machine : first.machine = second.machine

namespace Machine

variable {early late ratio : Int} {pause : Option Int} {machine left last : Machine}
  {steps more turns : Nat} {result : Except Fault RunEnd}

/-! ## Turns of the longer run -/

/-- A turn that begins below an early limit begins below a late one, with no tick to
pause at. -/
theorem Begins.later (begins : machine.Begins early ⟨ratio, pause⟩) (order : early ≤ late) :
    machine.Begins late ⟨ratio, none⟩ :=
  ⟨Int.lt_of_lt_of_le begins.below order, nofun⟩

theorem Passes.later (passes : Passes early ⟨ratio, pause⟩ machine turns) (order : early ≤ late) :
    Passes late ⟨ratio, none⟩ machine turns :=
  fun turn less => ⟨(passes turn less).1.later order, (passes turn less).2⟩

namespace Loop

/-- A loop that was cut off goes on as the longer loop from where it was left. -/
theorem resume {ending : RunEnd} (first : Loop early ⟨ratio, pause⟩ machine steps (.ok ending) left)
    (cut : ending = .stopped ∨ ending = .paused) (order : early ≤ late)
    (rest : Loop late ⟨ratio, none⟩ left more result last) :
    Loop late ⟨ratio, none⟩ machine (steps + more) result last := by
  obtain ⟨passed, _, rfl, passes, ends⟩ := loop_iff.mp first
  cases ends with
  | limitReached | pauses => exact (passes.later order).loop rest
  | waits | halts => simp at cut

/-- A loop that was not cut off is the longer loop. -/
theorem later (loop : Loop early ⟨ratio, none⟩ machine steps result left)
    (uncut : result ≠ .ok .stopped) (order : early ≤ late) :
    Loop late ⟨ratio, none⟩ machine steps result left := by
  obtain ⟨passed, more, rfl, passes, ends⟩ := loop_iff.mp loop
  have later := passes.later order
  refine loop_iff.mpr ⟨passed, more, rfl, later, ?_⟩
  cases ends with
  | limitReached => exact absurd rfl uncut
  | pauses _ here => cases here
  | fails begins failed => exact .fails (begins.later order) failed
  | waits begins waits => exact .waits (begins.later order) waits
  | halts begins runs jumps => exact .halts (begins.later order) runs jumps

/-- A loop that paused pauses again where it was left. -/
theorem pauses_again {limit : Int} {pace : Pace}
    (loop : Loop limit pace machine steps (.ok .paused) left) :
    Loop limit pace left 0 (.ok .paused) left := by
  obtain ⟨passed, more, _, _, ends⟩ := loop_iff.mp loop
  cases ends with
  | pauses below here => exact .ends (.pauses below here)

end Loop

/-! ## Taking up a run -/

theorem agrees_of_loop {limit : Int} {pace : Pace} (nonzero : pace.stepsPerTimerTick ≠ 0)
    {outcome : Outcome RunEnd}
    (loop : Loop limit pace machine steps outcome.result outcome.machine) :
    (machine.run limit pace).Agrees outcome :=
  ⟨(run_of_loop nonzero loop).1, (run_of_loop nonzero loop).2⟩

/-- A run that was cut off, taken up again to a limit no earlier, ends as the whole run
does. -/
theorem agrees_of_cut (nonzero : ratio ≠ 0) (order : early ≤ late) {ending : RunEnd}
    (cut : ending = .stopped ∨ ending = .paused)
    (first : (machine.run early ⟨ratio, pause⟩).result = .ok ending) :
    (machine.run late ⟨ratio, none⟩).Agrees
      ((machine.run early ⟨ratio, pause⟩).machine.run late ⟨ratio, none⟩) := by
  obtain ⟨steps, loop⟩ := loop_run early ⟨ratio, pause⟩ nonzero machine
  obtain ⟨more, rest⟩ := loop_run late ⟨ratio, none⟩ nonzero
    (machine.run early ⟨ratio, pause⟩).machine
  rw [first] at loop
  exact agrees_of_loop nonzero (loop.resume cut order rest)

/-- A run in two parts, cut off by a pause or by an earlier limit, ends as the whole run
does, with the same machine left. A run that ended by itself before the earlier limit is
the whole run, and a run that paused pauses again on the spot. -/
theorem run_split (machine : Machine) {ratio : Int} (positive : 1 ≤ ratio) (pause : Option Int)
    {early late : Int} (order : early ≤ late) :
    let whole := machine.run late ⟨ratio, none⟩
    let pausing := machine.run late ⟨ratio, pause⟩
    let first := machine.run early ⟨ratio, none⟩
    (pausing.result = .ok .paused →
      whole.Agrees (pausing.machine.run late ⟨ratio, none⟩)) ∧
    (first.result = .ok .stopped →
      whole.Agrees (first.machine.run late ⟨ratio, none⟩)) ∧
    (first.result = .ok .waiting ∨ first.result = .ok .halted ∨
        (∃ fault, first.result = .error fault) →
      whole.Agrees first) ∧
    (pausing.result = .ok .paused →
      pausing.Agrees (pausing.machine.run late ⟨ratio, pause⟩)) := by
  intro whole pausing first
  have nonzero : ratio ≠ 0 := by omega
  refine ⟨agrees_of_cut nonzero (Int.le_refl late) (.inr rfl),
    agrees_of_cut nonzero order (.inl rfl), ?_, ?_⟩
  · intro ended
    have uncut : first.result ≠ .ok .stopped := by
      intro stopped
      rw [stopped] at ended
      simp at ended
    obtain ⟨steps, loop⟩ := loop_run early ⟨ratio, none⟩ nonzero machine
    exact agrees_of_loop nonzero (loop.later uncut order)
  · intro paused
    obtain ⟨steps, loop⟩ := loop_run late ⟨ratio, pause⟩ nonzero machine
    rw [paused] at loop
    have again : Loop late ⟨ratio, pause⟩ pausing.machine 0 (.ok .paused) pausing.machine :=
      loop.pauses_again
    obtain ⟨result, left⟩ := run_of_loop nonzero again
    exact ⟨paused.trans result.symm, left.symm⟩

/-- A byte is loaded, the delay timer set, and then the program jumps to itself: paused
after two steps, stopped after two, and halted below a limit of five. -/
theorem run_split_before_self_jump :
    let machine := bare [0x60, 0x05, 0xF0, 0x15, 0x12, 0x04]
    let whole := machine.run 9 ⟨1, none⟩
    whole.Agrees ((machine.run 9 ⟨1, some 2⟩).machine.run 9 ⟨1, none⟩) ∧
      whole.Agrees ((machine.run 2 ⟨1, none⟩).machine.run 9 ⟨1, none⟩) ∧
      whole.Agrees (machine.run 5 ⟨1, none⟩) ∧
      (machine.run 9 ⟨1, some 2⟩).Agrees
        ((machine.run 9 ⟨1, some 2⟩).machine.run 9 ⟨1, some 2⟩) := by
  intro machine whole
  have paused : (machine.run 9 ⟨1, some 2⟩).result = .ok .paused := by decide +kernel
  have stopped : (machine.run 2 ⟨1, none⟩).result = .ok .stopped := by decide +kernel
  have halted : (machine.run 5 ⟨1, none⟩).result = .ok .halted := by decide +kernel
  have positive : (1 : Int) ≤ 1 := by decide
  obtain ⟨resumes, goes_on, _, again⟩ :=
    run_split machine positive (some 2) (by decide : (2 : Int) ≤ 9)
  obtain ⟨_, _, ended, _⟩ := run_split machine positive none (by decide : (5 : Int) ≤ 9)
  exact ⟨resumes paused, goes_on stopped, ended (.inr (.inl halted)), again paused⟩

end Machine

end Chip8
