/-
# Slots above the live ones

A pop leaves its word in the slot, so the slots at or above the depth hold whatever was pushed
there once. Nothing ever reads them: a push writes the lowest of them before it is live again.
Two machines that differ in nothing but such slots are therefore the same machine to a host.
Every command gives both the same answer and the same events, and leaves machines of which the
same is true.

Only the operations that call and go back look at the stack. All others commute with putting
another stack in its place, and that settles them at once.
-/

import Chip8.Proofs.Calls
import Chip8.Proofs.Run.Trail

namespace Chip8

namespace ReturnStack

/-- Two stacks hold the same live entries, whatever the slots above them hold. -/
structure SameLive (first second : ReturnStack) : Prop where
  depth : second.depth = first.depth
  entries : second.toList = first.toList

theorem sameLive_refl (stack : ReturnStack) : stack.SameLive stack :=
  ⟨rfl, rfl⟩

namespace SameLive

variable {first second : ReturnStack} (same : first.SameLive second)

include same

/-- A push onto both goes through on both or on neither. -/
theorem push (value : Int) :
    (∃ fault, first.push value = .error fault ∧ second.push value = .error fault) ∨
      ∃ next other, first.push value = .ok next ∧ second.push value = .ok other ∧
        next.SameLive other := by
  rcases Nat.lt_or_ge first.depth 16 with free | full
  · have free_too : second.depth < 16 := same.depth ▸ free
    have pushed : first.push value = _ := push_of_lt free
    have pushed_too : second.push value = _ := push_of_lt free_too
    refine .inr ⟨_, _, pushed, pushed_too, congrArg Nat.succ same.depth, ?_⟩
    rw [toList_push pushed, toList_push pushed_too, same.entries]
  · have full_too : 16 ≤ second.depth := same.depth ▸ full
    exact .inl ⟨_, push_of_le full, push_of_le full_too⟩

/-- A pop off both takes the same word off both or goes through on neither. -/
theorem pop :
    (∃ fault, first.pop = .error fault ∧ second.pop = .error fault) ∨
      ∃ word next other, first.pop = .ok (word, next) ∧ second.pop = .ok (word, other) ∧
        next.SameLive other := by
  have depth := same.depth
  cases popped : first.pop with
  | error fault =>
    refine .inl ⟨fault, rfl, ?_⟩
    unfold ReturnStack.pop at popped ⊢
    split at popped
    case isTrue => cases popped
    case isFalse dead =>
      rw [dif_neg (depth.symm ▸ dead)]
      exact popped
  | ok answer =>
    obtain ⟨word, next⟩ := answer
    obtain ⟨_, deeper, inside, _⟩ := pop_eq_ok popped
    have popped_too : second.pop = _ := pop_of_live (by omega) (by omega)
    -- the words are the last of the same list
    have last := (toList_pop popped).symm.trans (same.entries.symm.trans (toList_pop popped_too))
    obtain ⟨rest, word_eq⟩ := List.append_inj' last rfl
    cases word_eq
    refine .inr ⟨_, next, _, rfl, popped_too, ?_, rest.symm⟩
    show second.depth - 1 = next.depth
    omega

end SameLive

end ReturnStack

/-- The machine with another return stack. -/
def Machine.onStack (machine : Machine) (stack : ReturnStack) : Machine :=
  { machine with stack := stack }

/-- The outcome with another return stack in its machine. -/
def Outcome.onStack {α : Type} (outcome : Outcome α) (stack : ReturnStack) : Outcome α :=
  { outcome with machine := outcome.machine.onStack stack }

/-- Two machines differ in nothing but slots above the live ones. -/
structure Machine.SameLive (first second : Machine) : Prop where
  stack : first.stack.SameLive second.stack
  elsewhere : second = first.onStack second.stack

/-- Two outcomes answer and report the same and leave machines that differ in nothing but slots
above the live ones. -/
structure Outcome.SameLive {α : Type} (first second : Outcome α) : Prop where
  result : second.result = first.result
  events : second.events = first.events
  machine : first.machine.SameLive second.machine

theorem Machine.sameLive_refl (machine : Machine) : machine.SameLive machine :=
  ⟨machine.stack.sameLive_refl, rfl⟩

theorem Outcome.sameLive_refl {α : Type} (outcome : Outcome α) : outcome.SameLive outcome :=
  ⟨rfl, rfl, outcome.machine.sameLive_refl⟩

theorem Machine.sameLive_onStack {machine : Machine} {stack : ReturnStack}
    (same : machine.stack.SameLive stack) : machine.SameLive (machine.onStack stack) :=
  ⟨same, rfl⟩

/-- What leaves the stack alone may as well be done with another one. -/
theorem Outcome.sameLive_onStack {α : Type} {outcome : Outcome α} {stack : ReturnStack}
    (same : outcome.machine.stack.SameLive stack) : outcome.SameLive (outcome.onStack stack) :=
  ⟨rfl, rfl, Machine.sameLive_onStack same⟩

theorem Outcome.SameLive.eq_mk {α : Type} {first second : Outcome α}
    (same : first.SameLive second) : second = ⟨first.result, second.machine, first.events⟩ := by
  rw [← same.result, ← same.events]

theorem Outcome.SameLive.map {α β : Type} {first second : Outcome α}
    (same : first.SameLive second) (written : α → β) :
    (first.map written).SameLive (second.map written) :=
  ⟨congrArg (Except.map written) same.result, same.events, same.machine⟩

namespace Machine

/-! ## Operations -/

section OnStack

variable (machine : Machine) (stack : ReturnStack)

theorem skipIf_onStack (condition : Bool) :
    (machine.onStack stack).skipIf condition = (machine.skipIf condition).onStack stack := by
  cases condition with
  | _ => rfl

theorem storeAtIndex_onStack (bytes : List Byte) :
    (machine.onStack stack).storeAtIndex bytes = (machine.storeAtIndex bytes).onStack stack := by
  simp only [storeAtIndex, onStack]
  cases machine.memory.writeBlock machine.index.toNat bytes with
  | _ => rfl

theorem loadAtIndex_onStack (count : Nat) :
    (machine.onStack stack).loadAtIndex count = (machine.loadAtIndex count).onStack stack := by
  simp only [loadAtIndex, onStack]
  cases machine.memory.readBlock machine.index.toNat count with
  | _ => rfl

theorem drawSprite_onStack (x y : Byte) (rows : Nat) :
    (machine.onStack stack).drawSprite x y rows = (machine.drawSprite x y rows).onStack stack := by
  simp only [drawSprite, onStack]
  cases machine.memory.readBlock machine.index.toNat rows with
  | _ => rfl

theorem takeKey_onStack (register : Fin 16) :
    (machine.onStack stack).takeKey register = (machine.takeKey register).onStack stack := by
  simp only [takeKey, onStack]
  cases machine.keypad.lowest? with
  | _ => rfl

theorem exec_onStack {operation : Operation} (word : Word) (notCall : operation ≠ .call)
    (notRet : operation ≠ .ret) :
    exec operation word (machine.onStack stack) =
      (exec operation word machine).onStack stack := by
  cases operation with
  | call => exact absurd rfl notCall
  | ret => exact absurd rfl notRet
  | skipIfByte | skipUnlessByte | skipIfSame | skipUnlessSame | skipIfHeld | skipUnlessHeld =>
    exact congrArg (fun machine => goOn machine []) (skipIf_onStack machine stack _)
  | storeDigits | storeRegisters => exact storeAtIndex_onStack machine stack _
  | loadRegisters => exact loadAtIndex_onStack machine stack _
  | draw => exact drawSprite_onStack machine stack _ _ _
  | awaitKey => exact takeKey_onStack machine stack _
  | _ => rfl

theorem tickTimersEvery_onStack (ratio : Int) :
    (machine.onStack stack).tickTimersEvery ratio =
      (machine.tickTimersEvery ratio).onStack stack := by
  have tick : (machine.onStack stack).tick = machine.tick := rfl
  rw [tickTimersEvery, tickTimersEvery, tick]
  split_ifs
  · rfl
  · rfl
  · rfl

theorem setKey_onStack (key : Int) (pressed : Bool) :
    (machine.onStack stack).setKey key pressed = (machine.setKey key pressed).onStack stack := by
  simp only [setKey, onStack]
  cases machine.keypad.put key pressed with
  | _ => rfl

theorem load_onStack (program : List Byte) :
    (machine.onStack stack).load program = (machine.load program).onStack stack := by
  simp only [load, onStack]
  split
  · rfl
  · rfl

theorem takeMemory_onStack (memory : Except Fault Memory) :
    (machine.onStack stack).takeMemory memory = (machine.takeMemory memory).onStack stack := by
  cases memory with
  | _ => rfl

theorem stack_tickTimersEvery (ratio : Int) :
    (machine.tickTimersEvery ratio).machine.stack = machine.stack := by
  rw [tickTimersEvery]
  split_ifs
  · rfl
  · rfl
  · rfl

theorem stack_takeMemory (memory : Except Fault Memory) :
    (machine.takeMemory memory).machine.stack = machine.stack := by
  cases memory with
  | _ => rfl

end OnStack

namespace SameLive

variable {first second : Machine} (same : first.SameLive second)

include same

theorem counter : second.counter = first.counter := by
  rw [same.elsewhere]
  rfl

theorem tick : second.tick = first.tick := by
  rw [same.elsewhere]
  rfl

theorem samePlace : first.SamePlace second where
  memory := by
    rw [same.elsewhere]
    rfl
  counter := same.counter

/-- A change that commutes with putting another stack in its place. -/
theorem of_onStack {α : Type} (change : Machine → Outcome α)
    (commutes : ∀ stack, change (first.onStack stack) = (change first).onStack stack)
    (kept : (change first).machine.stack = first.stack) :
    (change first).SameLive (change second) := by
  have live := same.stack
  rw [← kept] at live
  rw [same.elsewhere, commutes]
  exact Outcome.sameLive_onStack live

theorem push (value : Int) : (first.push value).SameLive (second.push value) := by
  rw [Machine.push, Machine.push]
  rcases same.stack.push value with ⟨fault, failed, failed_too⟩ |
    ⟨next, other, pushed, pushed_too, live⟩
  · rw [failed, failed_too]
    exact ⟨rfl, rfl, same⟩
  · rw [pushed, pushed_too, same.elsewhere]
    simp only [live.depth]
    exact ⟨rfl, rfl, live, rfl⟩

theorem pop : first.pop.SameLive second.pop := by
  rw [Machine.pop, Machine.pop]
  rcases same.stack.pop with ⟨fault, failed, failed_too⟩ |
    ⟨word, next, other, popped, popped_too, live⟩
  · rw [failed, failed_too]
    exact ⟨rfl, rfl, same⟩
  · rw [popped, popped_too, same.elsewhere]
    simp only [live.depth]
    exact ⟨rfl, rfl, live, rfl⟩

theorem goAndRemember (target : Word) :
    (first.goAndRemember target).SameLive (second.goAndRemember target) := by
  rw [Machine.goAndRemember, Machine.goAndRemember, same.counter]
  rcases same.stack.push first.counter.toNat with ⟨fault, failed, failed_too⟩ |
    ⟨next, other, pushed, pushed_too, live⟩
  · rw [failed, failed_too]
    exact ⟨rfl, rfl, same⟩
  · rw [pushed, pushed_too, same.elsewhere]
    simp only [live.depth]
    exact ⟨rfl, rfl, live, rfl⟩

theorem goBack : first.goBack.SameLive second.goBack := by
  rw [Machine.goBack, Machine.goBack]
  rcases same.stack.pop with ⟨fault, failed, failed_too⟩ |
    ⟨word, next, other, popped, popped_too, live⟩
  · rw [failed, failed_too]
    exact ⟨rfl, rfl, same⟩
  · rw [popped, popped_too, same.elsewhere]
    simp only [live.depth]
    exact ⟨rfl, rfl, live, rfl⟩

theorem exec (operation : Operation) (word : Word) :
    (Machine.exec operation word first).SameLive (Machine.exec operation word second) := by
  by_cases call : operation = .call
  · subst call
    exact same.goAndRemember word.address
  · by_cases ret : operation = .ret
    · subst ret
      exact same.goBack
    · exact same.of_onStack (Machine.exec operation word)
        (fun stack => exec_onStack first stack word call ret)
        (sameStack_exec first word call ret).stack

theorem execCode (code : Int) (word : Word) :
    (first.execCode code word).SameLive (second.execCode code word) := by
  rw [Machine.execCode, Machine.execCode]
  cases Operation.ofCode? code with
  | none => exact ⟨rfl, rfl, same⟩
  | some operation => exact same.exec operation word

/-! ## Steps and runs -/

theorem movedOn : first.movedOn.SameLive second.movedOn := by
  rw [same.elsewhere]
  exact sameLive_onStack same.stack

theorem advance (operation : Operation) :
    (first.advance operation).SameLive (second.advance operation) := by
  rw [same.elsewhere]
  exact sameLive_onStack same.stack

/-- A report tells of the stack how deep it is and nothing else. -/
theorem stepReport (origin : Word) (status : Status) (operation : Operation) (word : Word) :
    second.stepReport origin status operation word =
      first.stepReport origin status operation word := by
  have depth := same.stack.depth
  rw [same.elsewhere]
  simp only [Machine.stepReport, snapshot, onStack, depth]

theorem conclude (origin : Word) (status : Status) (operation : Operation) (word : Word)
    (events : List Event) :
    (first.conclude origin status operation word events).SameLive
      (second.conclude origin status operation word events) := by
  have left := same.advance operation
  have report := left.stepReport origin status operation word
  have tells : (second.advance operation).CanReport ↔ (first.advance operation).CanReport := by
    rw [left.elsewhere]
    rfl
  rw [Machine.conclude, Machine.conclude]
  by_cases told : (first.advance operation).CanReport
  · rw [if_pos told, if_pos (tells.mpr told)]
    exact ⟨rfl, congrArg (events ++ ·) report, left⟩
  · rw [if_neg told, if_neg (mt tells.mp told), left.tick]
    exact ⟨rfl, rfl, left⟩

theorem step : first.step.SameLive second.step := by
  have place := same.samePlace
  rcases step_beginnings first with past | ⟨inside, unknown⟩ | ⟨operation, next⟩
  · have past_too : 0xFFE < second.counter.toNat := same.counter.symm ▸ past
    rw [step_of_past first past, step_of_past second past_too, same.tick, same.counter]
    exact ⟨rfl, rfl, same⟩
  · have inside_too : second.counter.toNat ≤ 0xFFE := same.counter.symm ▸ inside
    have unknown_too : decode second.nextWord = none := place.nextWord.symm ▸ unknown
    rw [step_of_unknown first inside unknown, step_of_unknown second inside_too unknown_too,
      same.tick, same.counter, place.nextWord]
    exact ⟨rfl, rfl, same⟩
  · have done := same.movedOn.exec operation first.nextWord
    rw [step_of_next next, step_of_next (place.next next), place.nextWord, same.tick, same.counter]
    generalize Machine.exec operation first.nextWord first.movedOn = outcome at done
    rw [done.eq_mk]
    rcases outcome with ⟨fault | status, left, events⟩
    · exact ⟨rfl, rfl, done.machine⟩
    · exact done.machine.conclude first.counter status operation first.nextWord events

theorem tickTimersEvery (ratio : Int) :
    (first.tickTimersEvery ratio).SameLive (second.tickTimersEvery ratio) :=
  same.of_onStack (fun machine => machine.tickTimersEvery ratio)
    (fun stack => tickTimersEvery_onStack first stack ratio) (stack_tickTimersEvery first ratio)

theorem ending? (origin : Word) (status : Status) :
    second.ending? origin status = first.ending? origin status := by
  rw [same.elsewhere]
  rfl

theorem turn (ratio : Int) : (first.turn ratio).SameLive (second.turn ratio) := by
  have stepped := same.step
  rw [Machine.turn, Machine.turn, same.counter]
  rw [stepped.eq_mk]
  generalize first.step = outcome at stepped
  rcases outcome with ⟨fault | status, left, events⟩
  · exact ⟨rfl, rfl, stepped.machine⟩
  · have ticked := stepped.machine.tickTimersEvery ratio
    simp only
    rw [ticked.eq_mk]
    generalize left.tickTimersEvery ratio = outcome at ticked
    rcases outcome with ⟨fault | _, ticked_left, more⟩
    · exact ⟨rfl, rfl, ticked.machine⟩
    · simp only [ticked.machine.ending? first.counter status]
      cases ticked_left.ending? first.counter status with
      | _ => exact ⟨rfl, rfl, ticked.machine⟩

theorem begins {limit : Int} {pace : Pace} (begins : first.Begins limit pace) :
    second.Begins limit pace := by
  refine ⟨?_, ?_⟩
  · rw [same.tick]
    exact begins.below
  · rw [same.tick]
    exact begins.unpaused

omit same in
theorem run {limit : Int} {pace : Pace} (same : first.SameLive second) :
    (first.run limit pace).SameLive (second.run limit pace) := by
  induction first using run_induction limit pace generalizing second with
  | reached first reached =>
    have reached_too : limit ≤ second.tick := same.tick ▸ reached
    rw [run_of_limit_le reached, run_of_limit_le reached_too]
    exact ⟨rfl, rfl, same⟩
  | pauses first below here =>
    have below_too : second.tick < limit := same.tick ▸ below
    have here_too : pace.pauseTick = some second.tick := by
      rw [same.tick, here]
    rw [run_of_pause below here, run_of_pause below_too here_too, same.tick]
    exact ⟨rfl, rfl, same⟩
  | ends first begins ended =>
    have turned := same.turn pace.stepsPerTimerTick
    cases result : (first.turn pace.stepsPerTimerTick).result with
    | error fault =>
      rw [run_of_turn_error begins result,
        run_of_turn_error (same.begins begins) (turned.result.trans result)]
      exact ⟨rfl, turned.events, turned.machine⟩
    | ok ending =>
      cases ending with
      | none => exact absurd result ended
      | some ending =>
        rw [run_of_turn_ended begins result,
          run_of_turn_ended (same.begins begins) (turned.result.trans result)]
        exact ⟨rfl, turned.events, turned.machine⟩
  | goesOn first begins on ih =>
    have turned := same.turn pace.stepsPerTimerTick
    have later := ih turned.machine
    rw [run_of_turn_on begins on,
      run_of_turn_on (same.begins begins) (turned.result.trans on)]
    refine ⟨later.result, ?_, later.machine⟩
    simp only [turned.events, later.events]

/-! ## Commands -/

/-- Whatever a host commands, slots above the live ones make no difference. -/
theorem perform (command : Command) :
    (Machine.perform command first).SameLive (Machine.perform command second) := by
  cases command with
  | step => exact same.step.map _
  | run limit pace => exact same.run.map _
  | exec code word => exact (same.execCode code word).map _
  | push value => exact (same.push value).map _
  | pop => exact same.pop.map _
  | setKey key pressed =>
    have set := same.of_onStack (fun machine => machine.setKey key pressed)
      (fun stack => setKey_onStack first stack key pressed) (stack_setKey key pressed)
    exact set.map _
  | load program =>
    have loaded := same.of_onStack (fun machine => machine.load program)
      (fun stack => load_onStack first stack program) (stack_load program)
    exact loaded.map _
  | writeByte | writeBlock =>
    exact same.of_onStack (Machine.perform _) (fun stack => takeMemory_onStack first stack _)
      (stack_takeMemory first _)
  | reset =>
    rw [same.elsewhere]
    exact Outcome.sameLive_refl _
  | tickTimers | clearRedraw =>
    rw [same.elsewhere]
    exact ⟨rfl, rfl, same.stack, rfl⟩
  | readByte | readBlock | fetchWord | heldKey | soundOn | render =>
    rw [same.elsewhere]
    exact ⟨rfl, rfl, same.stack, rfl⟩

/-- And so for any number of commands. -/
theorem after (commands : List Command) :
    (first.after commands).SameLive (second.after commands) := by
  induction commands generalizing first second with
  | nil => exact same
  | cons command rest ih => exact ih (same.perform command).machine

end SameLive

end Machine

end Chip8
