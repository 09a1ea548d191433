/-
# Where a run takes its steps

`Loop` tells how a run with a ratio that is not zero comes to its end. Some questions about a
run do not ask for its end but for every machine on its way: which operations it does, which
cells it reads, which bytes it draws. `trail` lists the machines at which a run takes a step,
the last one whether or not its step goes through, for any ratio whatever.

The main statements are an induction on the turns of a run, and from it that two runs stay
related if their turns do: where a relation passes from the machines before a turn to those
after it, and related machines give their turns the same answer, the runs give the same answer
and leave related machines. The relation may carry a mark that changes with every step.
-/

import Chip8.Proofs.Run.Turn

namespace Chip8.Machine

/-- The machines at which a run of at most so many turns takes a step. -/
def trailFor (pace : Pace) : Nat → Machine → List Machine
  | 0, _ => []
  | turns + 1, machine =>
    if pace.pauseTick = some machine.tick then []
    else
      machine ::
        match machine.turn pace.stepsPerTimerTick with
        | ⟨.ok none, left, _⟩ => trailFor pace turns left
        | _ => []

/-- The machines at which a run takes a step, in order. -/
def trail (limit : Int) (pace : Pace) (machine : Machine) : List Machine :=
  trailFor pace (limit - machine.tick).toNat machine

variable {machine : Machine} {limit : Int} {pace : Pace} {ratio : Int}

/-! ## Turns -/

/-- A ratio of zero is met after the first step. -/
theorem turn_of_zero_ratio {status : Status} (went : machine.step.result = .ok status) :
    machine.turn 0 = ⟨.error .zeroTimerRatio, machine.step.machine, machine.step.events⟩ := by
  rw [turn]
  generalize machine.step = outcome at went ⊢
  rcases outcome with ⟨result, left, events⟩
  cases went
  simp only [tickTimersEvery, ↓reduceIte, List.append_nil]

/-- Whether a turn ends the run is settled by its step alone. -/
theorem result_turn_of_ok (nonzero : ratio ≠ 0) {status : Status}
    (went : machine.step.result = .ok status) :
    (machine.turn ratio).result =
      .ok ((machine.step.machine.ending? machine.counter status).map Prod.fst) := by
  have same : ((machine.turned ratio).ending? machine.counter status).map Prod.fst =
      (machine.step.machine.ending? machine.counter status).map Prod.fst := by
    rw [ending?, ending?, last_turned, counter_turned]
    split_ifs
    · rfl
    · rfl
    · rfl
  rw [turn_of_ok nonzero went, ← same]
  cases (machine.turned ratio).ending? machine.counter status with
  | _ => rfl

theorem machine_turn_of_ok (nonzero : ratio ≠ 0) {status : Status}
    (went : machine.step.result = .ok status) :
    (machine.turn ratio).machine = machine.turned ratio := by
  rw [turn_of_ok nonzero went]
  cases (machine.turned ratio).ending? machine.counter status with
  | _ => rfl

/-! ## The run and its first turn -/

section Begins

variable (begins : machine.Begins limit pace)

include begins

theorem run_of_turn_error {fault : Fault}
    (failed : (machine.turn pace.stepsPerTimerTick).result = .error fault) :
    machine.run limit pace =
      ⟨.error fault, (machine.turn pace.stepsPerTimerTick).machine,
        (machine.turn pace.stepsPerTimerTick).events⟩ := by
  rw [run_of_begins begins]
  rcases turned : machine.turn pace.stepsPerTimerTick with ⟨result, left, events⟩
  rw [turned] at failed
  cases failed
  rfl

theorem run_of_turn_ended {ending : RunEnd}
    (ended : (machine.turn pace.stepsPerTimerTick).result = .ok (some ending)) :
    machine.run limit pace =
      ⟨.ok ending, (machine.turn pace.stepsPerTimerTick).machine,
        (machine.turn pace.stepsPerTimerTick).events⟩ := by
  rw [run_of_begins begins]
  rcases turned : machine.turn pace.stepsPerTimerTick with ⟨result, left, events⟩
  rw [turned] at ended
  cases ended
  rfl

theorem machine_run_of_turn_ended
    (ended : (machine.turn pace.stepsPerTimerTick).result ≠ .ok none) :
    (machine.run limit pace).machine = (machine.turn pace.stepsPerTimerTick).machine := by
  cases result : (machine.turn pace.stepsPerTimerTick).result with
  | error fault => rw [run_of_turn_error begins result]
  | ok ending =>
    cases ending with
    | none => exact absurd result ended
    | some ending => rw [run_of_turn_ended begins result]

theorem run_of_turn_on (on : (machine.turn pace.stepsPerTimerTick).result = .ok none) :
    machine.run limit pace =
      let left := (machine.turn pace.stepsPerTimerTick).machine
      { left.run limit pace with
        events :=
          (machine.turn pace.stepsPerTimerTick).events ++ (left.run limit pace).events } := by
  rw [run_of_begins begins]
  rcases turned : machine.turn pace.stepsPerTimerTick with ⟨result, left, events⟩
  rw [turned] at on
  cases on
  rfl

end Begins

/-- What holds where a run stops, pauses or ends in a turn, and holds before a turn that goes
on if it holds after it, holds everywhere. -/
theorem run_induction (limit : Int) (pace : Pace) {motive : Machine → Prop}
    (reached : ∀ machine : Machine, limit ≤ machine.tick → motive machine)
    (pauses : ∀ machine : Machine, machine.tick < limit → pace.pauseTick = some machine.tick →
      motive machine)
    (ends : ∀ machine : Machine, machine.Begins limit pace →
      (machine.turn pace.stepsPerTimerTick).result ≠ .ok none → motive machine)
    (goesOn : ∀ machine : Machine, machine.Begins limit pace →
      (machine.turn pace.stepsPerTimerTick).result = .ok none →
      motive (machine.turn pace.stepsPerTimerTick).machine → motive machine)
    (machine : Machine) : motive machine := by
  generalize distance : (limit - machine.tick).toNat = most
  induction most generalizing machine with
  | zero => exact reached machine (by omega)
  | succ most ih =>
    by_cases here : pace.pauseTick = some machine.tick
    · exact pauses machine (by omega) here
    · have begins : machine.Begins limit pace := ⟨by omega, here⟩
      by_cases on : (machine.turn pace.stepsPerTimerTick).result = .ok none
      · have later := tick_turn on
        exact goesOn machine begins on (ih _ (by omega))
      · exact ends machine begins on

/-! ## The trail and its first step -/

theorem trail_of_limit_le (reached : limit ≤ machine.tick) : machine.trail limit pace = [] := by
  have none_left : (limit - machine.tick).toNat = 0 := by omega
  rw [trail, none_left, trailFor]

theorem trail_of_pause (below : machine.tick < limit)
    (here : pace.pauseTick = some machine.tick) : machine.trail limit pace = [] := by
  obtain ⟨turns, some_left⟩ : ∃ turns, (limit - machine.tick).toNat = turns + 1 :=
    ⟨(limit - machine.tick).toNat - 1, by omega⟩
  rw [trail, some_left, trailFor, if_pos here]

section Begins

variable (begins : machine.Begins limit pace)

include begins

theorem trail_of_turn_ended (ended : (machine.turn pace.stepsPerTimerTick).result ≠ .ok none) :
    machine.trail limit pace = [machine] := by
  have below := begins.below
  obtain ⟨turns, some_left⟩ : ∃ turns, (limit - machine.tick).toNat = turns + 1 :=
    ⟨(limit - machine.tick).toNat - 1, by omega⟩
  rw [trail, some_left, trailFor, if_neg begins.unpaused]
  rcases turned : machine.turn pace.stepsPerTimerTick with ⟨fault | ⟨⟩ | ending, left, events⟩
  · rfl
  · rw [turned] at ended
    exact absurd rfl ended
  · rfl

theorem trail_of_turn_on (on : (machine.turn pace.stepsPerTimerTick).result = .ok none) :
    machine.trail limit pace =
      machine :: (machine.turn pace.stepsPerTimerTick).machine.trail limit pace := by
  have below := begins.below
  obtain ⟨turns, some_left⟩ : ∃ turns, (limit - machine.tick).toNat = turns + 1 :=
    ⟨(limit - machine.tick).toNat - 1, by omega⟩
  have later := tick_turn on
  have rest : (limit - (machine.turn pace.stepsPerTimerTick).machine.tick).toNat = turns := by
    omega
  rw [trail, some_left, trailFor, if_neg begins.unpaused, trail, rest]
  rcases turned : machine.turn pace.stepsPerTimerTick with ⟨result, left, events⟩
  rw [turned] at on
  cases on
  rfl

end Begins

/-! ## Two runs at a time -/

section Pair

variable {Mark : Type} (related : Mark → Machine → Machine → Prop) (next : Mark → Machine → Mark)
  {allowed : Machine → Prop} {other : Pace}

/-- Two runs to the same limit and with the same tick to pause at give the same answer and
leave related machines, if turns do so wherever the first run takes a step. -/
theorem run_pair (mark : Mark) (pause : other.pauseTick = pace.pauseTick)
    (same_tick : ∀ {mark : Mark} {first second : Machine}, related mark first second →
      second.tick = first.tick)
    (turn : ∀ {mark : Mark} {first second : Machine}, related mark first second →
      allowed first →
      (second.turn other.stepsPerTimerTick).result =
          (first.turn pace.stepsPerTimerTick).result ∧
        related (next mark first) (first.turn pace.stepsPerTimerTick).machine
          (second.turn other.stepsPerTimerTick).machine)
    {first second : Machine} (start : related mark first second)
    (along : ∀ before ∈ first.trail limit pace, allowed before) :
    (second.run limit other).result = (first.run limit pace).result ∧
      related ((first.trail limit pace).foldl next mark) (first.run limit pace).machine
        (second.run limit other).machine := by
  induction first using run_induction limit pace generalizing mark second with
  | reached first reached =>
    have reached_too : limit ≤ second.tick := same_tick start ▸ reached
    rw [trail_of_limit_le reached, run_of_limit_le reached, run_of_limit_le reached_too]
    exact ⟨rfl, start⟩
  | pauses first below here =>
    have below_too : second.tick < limit := same_tick start ▸ below
    have here_too : other.pauseTick = some second.tick := by
      rw [pause, same_tick start, here]
    rw [trail_of_pause below here, run_of_pause below here, run_of_pause below_too here_too]
    exact ⟨rfl, start⟩
  | ends first begins ended =>
    have begins_too : second.Begins limit other := by
      refine ⟨same_tick start ▸ begins.below, ?_⟩
      rw [pause, same_tick start]
      exact begins.unpaused
    rw [trail_of_turn_ended begins ended] at along ⊢
    obtain ⟨answer, left⟩ := turn start (along first List.mem_cons_self)
    cases result : (first.turn pace.stepsPerTimerTick).result with
    | error fault =>
      rw [run_of_turn_error begins result, run_of_turn_error begins_too (answer.trans result)]
      exact ⟨rfl, left⟩
    | ok ending =>
      cases ending with
      | none => exact absurd result ended
      | some ending =>
        rw [run_of_turn_ended begins result, run_of_turn_ended begins_too (answer.trans result)]
        exact ⟨rfl, left⟩
  | goesOn first begins on ih =>
    have begins_too : second.Begins limit other := by
      refine ⟨same_tick start ▸ begins.below, ?_⟩
      rw [pause, same_tick start]
      exact begins.unpaused
    rw [trail_of_turn_on begins on] at along ⊢
    obtain ⟨answer, left⟩ := turn start (along first List.mem_cons_self)
    rw [run_of_turn_on begins on, run_of_turn_on begins_too (answer.trans on)]
    exact ih (next mark first) left fun before later =>
      along before (List.mem_cons_of_mem first later)

end Pair

end Chip8.Machine
