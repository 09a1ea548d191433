/-
# Cutting the counter

A raw machine cuts the counter to sixteen bits in four places: when it moves on, when an
operation skips, when it jumps ahead by a register, and when it goes back to wait for a
key. This module does the same with a cut that is left open. With the cut to sixteen bits
it is the raw machine again.

A word is only fetched below the end of memory, so a step never hands its cut a number
below zero or above 0x10FE. Hence every cut that leaves these numbers alone makes the
same steps and the same runs, and the cut that does nothing is one of them.
-/

import Chip8.Proofs.Raw.Simulation.Run

namespace Chip8

namespace RawMachine

section Cut

variable (cut : Int → Int)

def skipIfWith (condition : Bool) : RawAction Unit := do
  if condition then jump (cut ((← get).counter + 2))

def takeKeyWith (position : Int) : RawAction Status := do
  match (← get).heldKey with
  | some key =>
    setRegister position key
    return .running
  | none =>
    jump (cut ((← get).counter - 2))
    return .waiting

/-- Do one operation; those that cut no counter are done as always. -/
def performWith (operation : Operation) (fields : RawFields) (vx vy : Int) : RawAction Unit := do
  match operation with
  | .jumpOffset => jump (cut (fields.address + (← register 0)))
  | .skipIfByte => skipIfWith cut (vx == fields.immediate)
  | .skipUnlessByte => skipIfWith cut (vx != fields.immediate)
  | .skipIfSame => skipIfWith cut (vx == vy)
  | .skipUnlessSame => skipIfWith cut (vx != vy)
  | .skipIfHeld => skipIfWith cut (vx ∈ (← get).keys)
  | .skipUnlessHeld => skipIfWith cut (vx ∉ (← get).keys)
  | other => perform other fields vx vy

def execWith (code : Int) (fields : RawFields) : RawAction Status := do
  let vx ← register fields.x
  let vy ← register fields.y
  match Operation.ofCode? code with
  | none => fail (.refused (.ofUnhandledCode code))
  | some .awaitKey => takeKeyWith cut fields.x
  | some operation =>
    performWith cut operation fields vx vy
    return .running

def stepWith : RawAction Status := do
  let origin := (← get).counter
  let value ← fetchWord origin
  match decode (Word.ofInt value) with
  | none => fail (.refused (.unknownWord (Word.ofInt value)))
  | some operation =>
    jump (cut (origin + 2))
    let status ← execWith cut operation.code.toNat (RawFields.ofInt value)
    modify fun machine => { machine with last := some operation }
    modify fun machine => { machine with tick := machine.tick + 1 }
    report
    return status

def turnWith (ratio : Int) : RawAction (Option RunEnd) := do
  let origin := (← get).counter
  let status ← stepWith cut
  if ratio = 0 then fail (.refused .zeroTimerRatio)
  else
    if (← get).tick.fmod ratio = 0 then tickTimers
    return (← get).ending? origin status

def runWhileWith (limit : Int) (pace : Pace) : Nat → RawAction RunEnd
  | 0 => return .stopped
  | turns + 1 => do
    if (← get).tick < limit then
      if pace.pauseTick = some (← get).tick then return .paused
      else
        match ← turnWith cut pace.stepsPerTimerTick with
        | some ending => return ending
        | none => runWhileWith limit pace turns
    else return .stopped

def runWith (limit : Int) (pace : Pace) : RawAction RunEnd := do
  runWhileWith cut limit pace (limit - (← get).tick).toNat

end Cut

/-! ## The cut to sixteen bits -/

/-- The low sixteen bits of a number. -/
def lowBits (value : Int) : Int :=
  value % 65536

theorem performWith_lowBits (operation : Operation) (fields : RawFields) (vx vy : Int) :
    performWith lowBits operation fields vx vy = perform operation fields vx vy := by
  cases operation with
  | _ => rfl

theorem execWith_lowBits (code : Int) (fields : RawFields) :
    execWith lowBits code fields = exec code fields := by
  simp only [execWith, exec, performWith_lowBits]
  rfl

theorem stepWith_lowBits : stepWith lowBits = step := by
  simp only [stepWith, execWith_lowBits]
  rfl

theorem turnWith_lowBits (ratio : Int) : turnWith lowBits ratio = turn ratio := by
  simp only [turnWith, stepWith_lowBits]
  rfl

theorem runWhileWith_lowBits (limit : Int) (pace : Pace) (turns : Nat) :
    runWhileWith lowBits limit pace turns = runWhile limit pace turns := by
  induction turns with
  | zero => rfl
  | succ turns ih =>
    simp only [runWhileWith, turnWith_lowBits, ih]
    rfl

theorem runWith_lowBits (limit : Int) (pace : Pace) :
    runWith lowBits limit pace = run limit pace := by
  simp only [runWith, runWhileWith_lowBits]
  rfl

end RawMachine

open RawMachine

/-! ## Cuts that cut nothing -/

/-- A cut leaves alone all numbers that a counter can come to. -/
def LeavesCounters (cut : Int → Int) : Prop :=
  ∀ value, 0 ≤ value → value ≤ 0x10FE → cut value = value

theorem leavesCounters_id : LeavesCounters id :=
  fun _ _ _ => rfl

theorem leavesCounters_lowBits : LeavesCounters lowBits := by
  intro value low high
  unfold lowBits
  omega

variable {cut : Int → Int} (leaves : LeavesCounters cut) (machine : Machine)

include leaves

theorem LeavesCounters.eq_lowBits {value : Int} (low : 0 ≤ value) (high : value ≤ 0x10FE) :
    cut value = lowBits value := by
  rw [leaves value low high, leavesCounters_lowBits value low high]

/-! ## Operations -/

theorem run_skipIfWith (inside : machine.counter.toNat ≤ 0x1000) (condition : Bool) :
    (skipIfWith cut condition).run machine.toRaw = (skipIf condition).run machine.toRaw := by
  cases condition with
  | false => rfl
  | true =>
    have ahead : cut (machine.counter.toNat + 2) = lowBits (machine.counter.toNat + 2) :=
      leaves.eq_lowBits (by omega) (by omega)
    show (jump (cut (machine.counter.toNat + 2))).run machine.toRaw = _
    rw [ahead]
    rfl

theorem run_takeKeyWith (behind : 2 ≤ machine.counter.toNat)
    (inside : machine.counter.toNat ≤ 0x1000) (position : Int) :
    (takeKeyWith cut position).run machine.toRaw = (takeKey position).run machine.toRaw := by
  have back : cut (machine.counter.toNat - 2) = lowBits (machine.counter.toNat - 2) :=
    leaves.eq_lowBits (by omega) (by omega)
  simp only [takeKeyWith, takeKey, EStateM.run_bind, EStateM.run_get]
  cases machine.toRaw.heldKey with
  | some key => rfl
  | none =>
    simp only [EStateM.run_bind, EStateM.run_get]
    rw [show machine.toRaw.counter = machine.counter.toNat from rfl, back]
    rfl

theorem run_jumpOffsetWith (word : Word) (vx vy : Int) :
    (performWith cut .jumpOffset (RawFields.ofInt word.toNat) vx vy).run machine.toRaw =
      (perform .jumpOffset (RawFields.ofInt word.toNat) vx vy).run machine.toRaw := by
  have first : (register 0).run machine.toRaw =
      .ok (machine.registers[0].toNat : Int) machine.toRaw := run_register machine 0
  have address : word.address.toNat = word.toNat % 4096 := word.toNat_address
  have offset := machine.registers[0].toNat_lt
  have sum : cut (word.address.toNat + machine.registers[0].toNat) =
      lowBits (word.address.toNat + machine.registers[0].toNat) :=
    leaves.eq_lowBits (by omega) (by omega)
  simp only [performWith, perform, EStateM.run_bind, first, RawFields.ofInt_toNat, sum]
  rfl

/-- On a counter behind an instruction no operation sees a difference between cuts. -/
theorem run_performWith (inside : machine.counter.toNat ≤ 0x1000) (operation : Operation)
    (word : Word) (vx vy : Int) :
    (performWith cut operation (RawFields.ofInt word.toNat) vx vy).run machine.toRaw =
      (perform operation (RawFields.ofInt word.toNat) vx vy).run machine.toRaw := by
  cases operation with
  | jumpOffset => exact run_jumpOffsetWith leaves machine word vx vy
  | skipIfByte | skipUnlessByte | skipIfSame | skipUnlessSame | skipIfHeld | skipUnlessHeld =>
    exact run_skipIfWith leaves machine inside _
  | _ => rfl

theorem run_execWith (behind : 2 ≤ machine.counter.toNat)
    (inside : machine.counter.toNat ≤ 0x1000) (code : Int) (word : Word) :
    (execWith cut code (RawFields.ofInt word.toNat)).run machine.toRaw =
      (RawMachine.exec code (RawFields.ofInt word.toNat)).run machine.toRaw := by
  have x_field : (RawFields.ofInt word.toNat).x = word.x.val := by rw [RawFields.ofInt_toNat]
  have y_field : (RawFields.ofInt word.toNat).y = word.y.val := by rw [RawFields.ofInt_toNat]
  simp only [execWith, RawMachine.exec, EStateM.run_bind, x_field, y_field, run_register]
  cases Operation.ofCode? code with
  | none => rfl
  | some operation =>
    by_cases waits : operation = .awaitKey
    · subst waits
      exact run_takeKeyWith leaves machine behind inside word.x.val
    · have performed := run_performWith leaves machine inside operation word
      cases operation with
      | awaitKey => exact absurd rfl waits
      | _ => simp only [EStateM.run_bind, performed]

/-! ## Steps and runs -/

theorem run_stepWith :
    (stepWith cut).run machine.toRaw = RawMachine.step.run machine.toRaw := by
  have fetched := run_fetchWord machine machine.counter.toNat
  simp only [stepWith, RawMachine.step, EStateM.run_bind, EStateM.run_get]
  rw [show machine.toRaw.counter = machine.counter.toNat from rfl, fetched]
  rcases Nat.lt_or_ge 0xFFE machine.counter.toNat with past | inside
  · have outside : ¬ InMemory machine.counter.toNat 2 := by
      unfold InMemory
      omega
    rw [Memory.fetch, if_neg outside]
    rfl
  · rw [Machine.fetch_of_le machine inside]
    simp only [Outcome.toRaw_ok, Word.ofInt_toNat]
    cases decode machine.nextWord with
    | none => rfl
    | some operation =>
      have ahead : cut (machine.counter.toNat + 2) = (machine.counter.toNat + 2) % 65536 :=
        leaves.eq_lowBits (by omega) (by omega)
      have moved := Machine.counter_movedOn machine inside
      have done := run_execWith leaves machine.movedOn (by omega) (by omega)
        operation.code.toNat machine.nextWord
      simp only [EStateM.run_bind, ahead, run_moveOn, done]

theorem run_turnWith (ratio : Int) :
    (turnWith cut ratio).run machine.toRaw = (RawMachine.turn ratio).run machine.toRaw := by
  simp only [turnWith, RawMachine.turn, EStateM.run_bind, EStateM.run_get,
    run_stepWith leaves machine]

theorem run_runWhileWith (limit : Int) (pace : Pace) (turns : Nat) {machine : Machine}
    (bounded : machine.stack.depth ≤ 16) :
    (runWhileWith cut limit pace turns).run machine.toRaw =
      (RawMachine.runWhile limit pace turns).run machine.toRaw := by
  induction turns generalizing machine with
  | zero => rfl
  | succ turns ih =>
    -- a turn leaves a machine written out, so the rest of the run starts from one too
    have turned := run_turn machine bounded pace.stepsPerTimerTick
    have deep := Machine.turn_preserves (fun machine => machine.stack.depth ≤ 16)
      Machine.depth_step (fun _ kept => kept) pace.stepsPerTimerTick bounded
    simp only [runWhileWith, RawMachine.runWhile, EStateM.run_bind, EStateM.run_get]
    split
    · simp only [EStateM.run_bind, EStateM.run_get]
      split
      · rfl
      · simp only [EStateM.run_bind, run_turnWith leaves machine, turned]
        rcases answered : machine.turn pace.stepsPerTimerTick with
          ⟨fault | ⟨⟩ | ending, left, events⟩
        · rfl
        · rw [answered] at deep
          exact ih deep
        · rfl
    · rfl

theorem run_runWith (bounded : machine.stack.depth ≤ 16) (limit : Int) (pace : Pace) :
    (runWith cut limit pace).run machine.toRaw =
      (RawMachine.run limit pace).run machine.toRaw :=
  run_runWhileWith leaves limit pace _ bounded

end Chip8
