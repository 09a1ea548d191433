/-
# Where the counter can go

A step moves the counter on, and its operation may then move it further. `Target` lists
all places where an operation can leave it: behind the instruction or two further, back at
it, at an address that the word gives, that address moved ahead by a register, or a live
return address.

A return address was once the counter behind a call. So the bound on the counter and the
bound on live return addresses hold only together, and `InReach` is both. It holds at
power-on and is kept by every command of a host that leaves the counter and the return
stack to the program. Hence the counter never comes near its sixteen bits: without cutting
it a raw machine does the same. A counter behind the last word of memory is not brought
back to the first one either. It stands until power-on, and every step fails at it.
-/

import Chip8.Proofs.Machine.Footprint
import Chip8.Proofs.Raw.Cut
import Chip8.Proofs.Run.Split

namespace Chip8

/-- The host does no operation of its own choice and pushes no return address. -/
def Command.LeavesFlow : Command → Prop
  | exec _ _ | push _ => False
  | _ => True

/-- Besides, no instruction is done and the machine is not brought back to power-on. -/
def Command.RunsNothing : Command → Prop
  | step | run _ _ | reset | exec _ _ | push _ => False
  | _ => True

namespace Machine

variable (machine : Machine)

/-! ## Where an operation leaves the counter -/

section Target

variable (word : Word)

/-- An operation may leave the counter here. -/
inductive Target : Operation → Word → Prop
  | stays {operation : Operation} : Target operation machine.counter
  | skips {operation : Operation} : Target operation (machine.counter + 2)
  | jumps : Target .jump word.address
  | calls : Target .call word.address
  | jumpsAhead :
    Target .jumpOffset (word.address + UInt16.ofNat (machine.registers.get ⟨0, by decide⟩).toNat)
  | returns {target : Word} (live : target ∈ machine.stack.toList) : Target .ret target
  | triesAgain : Target .awaitKey (machine.counter - 2)

theorem target_skipIf (operation : Operation) (condition : Bool) :
    machine.Target word operation (machine.skipIf condition).counter := by
  cases condition with
  | false => exact .stays
  | true => exact .skips

theorem target_goBack : machine.Target word .ret machine.goBack.machine.counter := by
  rw [goBack]
  rcases popped : machine.stack.pop with fault | ⟨target, stack⟩
  · exact .stays
  · have live : target ∈ machine.stack.toList := by
      rw [ReturnStack.toList_pop popped]
      exact List.mem_append_right stack.toList (List.mem_singleton_self target)
    exact .returns live

theorem target_goAndRemember :
    machine.Target word .call (machine.goAndRemember word.address).machine.counter := by
  rw [goAndRemember]
  cases machine.stack.push machine.counter.toNat with
  | error fault => exact .stays
  | ok stack => exact .calls

theorem target_takeKey (register : Fin 16) :
    machine.Target word .awaitKey (machine.takeKey register).machine.counter := by
  rw [takeKey]
  cases machine.keypad.lowest? with
  | none => exact .triesAgain
  | some key => exact .stays

theorem target_exec (operation : Operation) :
    machine.Target word operation (exec operation word machine).machine.counter := by
  by_cases written : Part.counter ∈ operation.writes
  · cases operation with
    | jump => exact .jumps
    | jumpOffset => exact .jumpsAhead
    | ret => exact target_goBack machine word
    | call => exact target_goAndRemember machine word
    | awaitKey => exact target_takeKey machine word word.x
    | skipIfByte | skipUnlessByte | skipIfSame | skipUnlessSame | skipIfHeld | skipUnlessHeld =>
      exact target_skipIf machine word _ _
    | _ => exact absurd written (by decide)
  · have same : (exec operation word machine).machine.counter = machine.counter :=
      same_exec machine word written
    rw [same]
    exact .stays

/-- Only a call adds a return address, the counter behind it. -/
theorem mem_stack_exec {operation : Operation} {entry : Word}
    (live : entry ∈ (exec operation word machine).machine.stack.toList) :
    entry ∈ machine.stack.toList ∨ entry = machine.counter := by
  by_cases call : operation = .call
  · subst call
    change entry ∈ (machine.goAndRemember word.address).machine.stack.toList at live
    rw [goAndRemember] at live
    cases pushed : machine.stack.push machine.counter.toNat with
    | error fault =>
      rw [pushed] at live
      exact .inl live
    | ok stack =>
      rw [pushed] at live
      change entry ∈ stack.toList at live
      rwa [ReturnStack.toList_push pushed, Word.ofInt_toNat, List.mem_append,
        List.mem_singleton] at live
  · by_cases ret : operation = .ret
    · subst ret
      change entry ∈ machine.goBack.machine.stack.toList at live
      rw [goBack] at live
      rcases popped : machine.stack.pop with fault | ⟨target, stack⟩
      · rw [popped] at live
        exact .inl live
      · rw [popped] at live
        rw [ReturnStack.toList_pop popped]
        exact .inl (List.mem_append_left [target] live)
    · rw [(sameStack_exec machine word call ret).stack] at live
      exact .inl live

end Target

/-! ## The bounds -/

/-- Live return addresses lie behind words in memory. -/
def Remembers : Prop :=
  ∀ entry ∈ machine.stack.toList, 2 ≤ entry.toNat ∧ entry.toNat ≤ 0x1000

/-- The counter and the live return addresses are where a program can bring them. -/
structure InReach : Prop where
  counter_le : machine.counter.toNat ≤ 0x10FE
  remembers : machine.Remembers

/-- The counter stands behind a word in memory. -/
structure Behind : Prop where
  two_le : 2 ≤ machine.counter.toNat
  le_end : machine.counter.toNat ≤ 0x1000

variable {machine} {word : Word} {operation : Operation}

theorem behind_movedOn (inside : machine.counter.toNat ≤ 0xFFE) : machine.movedOn.Behind := by
  have moved := counter_movedOn machine inside
  exact ⟨by omega, by omega⟩

/-- An address moved ahead by a byte keeps clear of sixteen bits. -/
theorem toNat_jumpAhead (word : Word) (offset : Byte) :
    (word.address + UInt16.ofNat offset.toNat).toNat = word.toNat % 4096 + offset.toNat := by
  have address := word.toNat_address
  have small := offset.toNat_lt
  rw [UInt16.toNat_add, UInt16.toNat_ofNat']
  omega

namespace Behind

variable (behind : machine.Behind)

include behind

theorem toNat_skip : (machine.counter + 2).toNat = machine.counter.toNat + 2 :=
  Word.toNat_add_two (Nat.lt_of_le_of_lt behind.le_end (by decide))

theorem toNat_back : (machine.counter - 2).toNat = machine.counter.toNat - 2 :=
  UInt16.toNat_sub_of_le _ _ behind.two_le

variable (remembers : machine.Remembers)

include remembers

/-- The farthest jump is from the last address by the largest byte. -/
theorem target_le {target : Word} (reached : machine.Target word operation target) :
    target.toNat ≤ 0x10FE := by
  have le_end := behind.le_end
  have address := word.toNat_address
  cases reached with
  | stays => omega
  | skips =>
    rw [behind.toNat_skip]
    omega
  | jumps | calls => omega
  | jumpsAhead =>
    have small := (machine.registers.get ⟨0, by decide⟩).toNat_lt
    rw [toNat_jumpAhead]
    omega
  | returns live =>
    have bound := (remembers target live).2
    omega
  | triesAgain =>
    rw [behind.toNat_back]
    omega

/-- No operation leads to address zero but a jump to it, or a wait that stands there. -/
theorem target_eq_zero {target : Word} (reached : machine.Target word operation target)
    (zero : target.toNat = 0) :
    (word.address.toNat = 0 ∧
        (operation = .jump ∨ operation = .call ∨ operation = .jumpOffset)) ∨
      machine.counter.toNat = 2 := by
  have two_le := behind.two_le
  have address := word.toNat_address
  cases reached with
  | stays => omega
  | skips =>
    rw [behind.toNat_skip] at zero
    omega
  | jumps => exact .inl ⟨zero, .inl rfl⟩
  | calls => exact .inl ⟨zero, .inr (.inl rfl)⟩
  | jumpsAhead =>
    rw [toNat_jumpAhead] at zero
    exact .inl ⟨by omega, .inr (.inr rfl)⟩
  | returns live =>
    have bound := (remembers target live).1
    omega
  | triesAgain =>
    rw [behind.toNat_back] at zero
    omega

theorem exec (operation : Operation) (word : Word) :
    (exec operation word machine).machine.InReach where
  counter_le := behind.target_le remembers (target_exec machine word operation)
  remembers := by
    intro entry live
    rcases mem_stack_exec machine word live with old | rfl
    · exact remembers entry old
    · exact ⟨behind.two_le, behind.le_end⟩

end Behind

/-! ## Commands that run nothing -/

/-- The counter stands where it stood and no return address has come to be live. -/
structure KeepsFlow (before after : Machine) : Prop where
  counter : after.counter = before.counter
  live : ∀ entry ∈ after.stack.toList, entry ∈ before.stack.toList

section KeepsFlow

variable (machine)

theorem keepsFlow_refl : machine.KeepsFlow machine :=
  ⟨rfl, fun _ live => live⟩

theorem keepsFlow_takeMemory (memory : Except Fault Memory) :
    machine.KeepsFlow (machine.takeMemory memory).machine := by
  cases memory with
  | error fault => exact keepsFlow_refl machine
  | ok memory => exact ⟨rfl, fun _ live => live⟩

theorem keepsFlow_setKey (key : Int) (pressed : Bool) :
    machine.KeepsFlow (machine.setKey key pressed).machine := by
  rw [setKey]
  cases machine.keypad.put key pressed with
  | error fault => exact keepsFlow_refl machine
  | ok keypad => exact ⟨rfl, fun _ live => live⟩

theorem keepsFlow_load (program : List Byte) :
    machine.KeepsFlow (machine.load program).machine := by
  rw [load]
  split
  · exact ⟨rfl, fun _ live => live⟩
  · exact keepsFlow_refl machine

theorem keepsFlow_pop : machine.KeepsFlow machine.pop.machine := by
  rw [pop]
  rcases popped : machine.stack.pop with fault | ⟨value, stack⟩
  · exact keepsFlow_refl machine
  · refine ⟨rfl, ?_⟩
    intro entry live
    rw [ReturnStack.toList_pop popped]
    exact List.mem_append_left [value] live

theorem keepsFlow_perform {command : Command} (quiet : command.RunsNothing) :
    machine.KeepsFlow (perform command machine).machine := by
  cases command with
  | step | run | reset | exec | push => exact quiet.elim
  | setKey key pressed => exact keepsFlow_setKey machine key pressed
  | load program => exact keepsFlow_load machine program
  | writeByte | writeBlock => exact keepsFlow_takeMemory machine _
  | pop => exact keepsFlow_pop machine
  | _ => exact ⟨rfl, fun _ live => live⟩

end KeepsFlow

/-! ## Commands keep the bounds -/

theorem KeepsFlow.inReach {left : Machine} (kept : machine.KeepsFlow left)
    (reach : machine.InReach) : left.InReach where
  counter_le := by
    rw [kept.counter]
    exact reach.counter_le
  remembers := fun entry live => reach.remembers entry (kept.live entry live)

namespace InReach

variable (reach : machine.InReach)

include reach

theorem step : machine.step.machine.InReach := by
  rcases Nat.lt_or_ge 0xFFE machine.counter.toNat with past | inside
  · rw [step_of_past machine past]
    exact reach
  · have behind := behind_movedOn inside
    rcases machine_step machine with same | moved | ⟨operation, _, done⟩
    · rw [same]
      exact reach
    · rw [moved]
      exact ⟨Nat.le_trans behind.le_end (by decide), reach.remembers⟩
    · have left := behind.exec reach.remembers operation machine.nextWord
      rw [done]
      exact ⟨left.counter_le, left.remembers⟩

theorem tickTimers : machine.tickTimers.machine.InReach :=
  ⟨reach.counter_le, reach.remembers⟩

theorem run (limit : Int) (pace : Pace) : (machine.run limit pace).machine.InReach :=
  run_preserves InReach (fun _ kept => kept.step) (fun _ kept => kept.tickTimers) limit pace reach

end InReach

/-- At power-on the counter stands at the start of programs and no call was made. -/
theorem inReach_reset (machine : Machine) : machine.reset.InReach where
  counter_le := (by decide : programStart ≤ 0x10FE)
  remembers := nofun

theorem inReach_build (settings : Settings) (random : Twister) (program : List Byte) :
    (build settings random program).machine.InReach := by
  have on : (powerOn settings random).InReach := ⟨(by decide : programStart ≤ 0x10FE), nofun⟩
  rw [build]
  split
  · exact on
  · exact (keepsFlow_load _ program).inReach on

theorem InReach.perform (reach : machine.InReach) {command : Command}
    (leaves : command.LeavesFlow) : (perform command machine).machine.InReach := by
  cases command with
  | exec | push => exact leaves.elim
  | step => exact reach.step
  | run limit pace => exact reach.run limit pace
  | reset => exact inReach_reset machine
  | _ => exact KeepsFlow.inReach (keepsFlow_perform machine trivial) reach

theorem InReach.after (reach : machine.InReach) {commands : List Command}
    (leaves : ∀ command ∈ commands, command.LeavesFlow) : (machine.after commands).InReach := by
  induction commands generalizing machine with
  | nil => exact reach
  | cons command rest ih =>
    obtain ⟨first, later⟩ := List.forall_mem_cons.mp leaves
    exact ih (reach.perform first) later

/-- A step that leaves the counter at address zero has found it there, or has jumped. -/
theorem InReach.counter_step_eq_zero (reach : machine.InReach)
    (zero : machine.step.machine.counter = 0) :
    machine.counter = 0 ∨
      (machine.nextWord.address = 0 ∧
        (machine.Next .jump ∨ machine.Next .call ∨ machine.Next .jumpOffset)) := by
  rcases Nat.lt_or_ge 0xFFE machine.counter.toNat with past | inside
  · rw [step_of_past machine past] at zero
    exact .inl zero
  · have behind := behind_movedOn inside
    have moved_by := counter_movedOn machine inside
    rcases machine_step machine with same | moved | ⟨operation, next, done⟩
    · rw [same] at zero
      exact .inl zero
    · have two_le := behind.two_le
      rw [moved] at zero
      rw [zero] at two_le
      exact absurd two_le (by decide)
    · rw [done] at zero
      have reached := target_exec machine.movedOn machine.nextWord operation
      rcases behind.target_eq_zero reach.remembers reached (congrArg UInt16.toNat zero) with
        ⟨address, jump | call | jumpOffset⟩ | waits
      · cases jump
        exact .inr ⟨UInt16.toNat_inj.mp address, .inl next⟩
      · cases call
        exact .inr ⟨UInt16.toNat_inj.mp address, .inr (.inl next)⟩
      · cases jumpOffset
        exact .inr ⟨UInt16.toNat_inj.mp address, .inr (.inr next)⟩
      · -- a wait goes back to the address that the step was read from
        have zero : machine.counter.toNat = 0 := by omega
        exact .inl (UInt16.toNat_inj.mp zero)

/-! ## Past the end of memory -/

section Past

variable (past : 0xFFE < machine.counter.toNat)

include past

theorem result_step_of_past :
    machine.step.result = .error (.outsideMemory machine.counter.toNat 2) := by
  rw [step_of_past machine past]
  rfl

theorem machine_step_of_past : machine.step.machine = machine := by
  rw [step_of_past machine past]
  rfl

theorem run_of_past {limit : Int} {pace : Pace} (begins : machine.Begins limit pace) :
    (machine.run limit pace).result = .error (.outsideMemory machine.counter.toNat 2) ∧
      (machine.run limit pace).machine = machine := by
  rw [run_of_error begins (result_step_of_past past)]
  exact ⟨rfl, machine_step_of_past past⟩

theorem counter_run_of_past (limit : Int) (pace : Pace) :
    (machine.run limit pace).machine.counter = machine.counter := by
  have kept : ∀ left : Machine, left.counter = machine.counter →
      left.step.machine.counter = machine.counter := by
    intro left same
    have still : 0xFFE < left.counter.toNat := by
      rw [same]
      exact past
    rw [machine_step_of_past still]
    exact same
  exact run_preserves (fun left => left.counter = machine.counter) kept (fun _ same => same) limit
    pace rfl

theorem counter_perform_of_past {command : Command} (leaves : command.LeavesFlow)
    (on : command ≠ .reset) : (perform command machine).machine.counter = machine.counter := by
  cases command with
  | exec | push => exact leaves.elim
  | reset => exact absurd rfl on
  | step => exact congrArg Machine.counter (machine_step_of_past past)
  | run limit pace => exact counter_run_of_past past limit pace
  | _ => exact KeepsFlow.counter (keepsFlow_perform machine trivial)

/-- Nothing but power-on or the host's own hand brings the counter back. -/
theorem counter_after_of_past {commands : List Command}
    (leaves : ∀ command ∈ commands, command.LeavesFlow ∧ command ≠ .reset) :
    (machine.after commands).counter = machine.counter := by
  induction commands generalizing machine with
  | nil => rfl
  | cons command rest ih =>
    obtain ⟨⟨first, on⟩, later⟩ := List.forall_mem_cons.mp leaves
    have stands := counter_perform_of_past past first on
    have still : 0xFFE < (perform command machine).machine.counter.toNat := by
      rw [stands]
      exact past
    exact (ih still later).trans stands

/-- What has run past the end stays there, and every step and every run fails at it. -/
theorem stuck_of_past {commands : List Command}
    (leaves : ∀ command ∈ commands, command.LeavesFlow ∧ command ≠ .reset) :
    let last := machine.after commands
    last.counter = machine.counter ∧
      last.step.result = .error (.outsideMemory machine.counter.toNat 2) ∧
      last.step.machine = last ∧
      ∀ limit pace, last.Begins limit pace →
        (last.run limit pace).result = .error (.outsideMemory machine.counter.toNat 2) ∧
          (last.run limit pace).machine = last := by
  intro last
  have stands : last.counter = machine.counter := counter_after_of_past past leaves
  have still : 0xFFE < last.counter.toNat := by
    rw [stands]
    exact past
  rw [← stands]
  exact ⟨rfl, result_step_of_past still, machine_step_of_past still,
    fun limit pace begins => run_of_past still begins⟩

end Past

/-- A run that brings the counter past the end of memory fails there, unless it is cut off
at just that tick. -/
theorem run_ends_past {ratio early late : Int} {pause : Option Int} {ending : RunEnd}
    (nonzero : ratio ≠ 0) (order : early ≤ late)
    (first : (machine.run early ⟨ratio, pause⟩).result = .ok ending)
    (cut : ending = .stopped ∨ ending = .paused)
    (past : 0xFFE < (machine.run early ⟨ratio, pause⟩).machine.counter.toNat)
    (below : (machine.run early ⟨ratio, pause⟩).machine.tick < late) :
    (machine.run late ⟨ratio, none⟩).result =
        .error (.outsideMemory (machine.run early ⟨ratio, pause⟩).machine.counter.toNat 2) ∧
      (machine.run late ⟨ratio, none⟩).machine = (machine.run early ⟨ratio, pause⟩).machine := by
  have agrees := agrees_of_cut nonzero order cut first
  have begins : (machine.run early ⟨ratio, pause⟩).machine.Begins late ⟨ratio, none⟩ :=
    ⟨below, nofun⟩
  rw [agrees.result, agrees.machine]
  exact run_of_past past begins

/-! ## The counter never wraps -/

/-- However a host drives a machine without a hand in the counter or the return stack, the
counter stays below 0x10FF and live return addresses within memory. So no cut of the
counter cuts anything. Only jumps lead to address zero, and a program that runs past the
end of memory fails there, for as long as the machine is not brought back to power-on. -/
theorem counter_never_wraps (settings : Settings) (random : Twister) (program : List Byte)
    {commands : List Command} (leaves : ∀ command ∈ commands, command.LeavesFlow) :
    let machine := (build settings random program).machine.after commands
    (machine.counter.toNat ≤ 0x10FE ∧ ∀ entry ∈ machine.stack.toList, entry.toNat ≤ 0x1000) ∧
    (∀ cut, LeavesCounters cut →
      (RawMachine.stepWith cut).run machine.toRaw = RawMachine.step.run machine.toRaw ∧
      ∀ limit pace, (RawMachine.runWith cut limit pace).run machine.toRaw =
        (RawMachine.run limit pace).run machine.toRaw) ∧
    (machine.step.machine.counter = 0 →
      machine.counter = 0 ∨
        (machine.nextWord.address = 0 ∧
          (machine.Next .jump ∨ machine.Next .call ∨ machine.Next .jumpOffset))) ∧
    (∀ ratio early late pause ending, ratio ≠ 0 → early ≤ late →
      let first := machine.run early ⟨ratio, pause⟩
      let whole := machine.run late ⟨ratio, none⟩
      first.result = .ok ending → ending = .stopped ∨ ending = .paused →
      0xFFE < first.machine.counter.toNat → first.machine.tick < late →
      whole.result = .error (.outsideMemory first.machine.counter.toNat 2) ∧
        whole.machine = first.machine) ∧
    (0xFFE < machine.counter.toNat →
      ∀ later : List Command, (∀ command ∈ later, command.LeavesFlow ∧ command ≠ .reset) →
      let last := machine.after later
      last.counter = machine.counter ∧
        last.step.result = .error (.outsideMemory machine.counter.toNat 2) ∧
        last.step.machine = last ∧
        ∀ limit pace, last.Begins limit pace →
          (last.run limit pace).result = .error (.outsideMemory machine.counter.toNat 2) ∧
            (last.run limit pace).machine = last) := by
  intro machine
  have wellFormed : machine.WellFormed := (wellFormed_build settings random program).after commands
  have reach : machine.InReach := (inReach_build settings random program).after leaves
  refine ⟨⟨reach.counter_le, fun entry live => (reach.remembers entry live).2⟩, ?_,
    reach.counter_step_eq_zero, ?_, ?_⟩
  · intro cut same
    exact ⟨run_stepWith same machine, run_runWith same machine wellFormed.depth_le⟩
  · intro ratio early late pause ending nonzero order first whole answer cut past below
    exact run_ends_past nonzero order answer cut past below
  · intro past later leaves
    exact stuck_of_past past leaves

/-- The farthest jump there is: to the last address, moved ahead by the largest byte. -/
theorem counter_never_wraps_at_farthest_jump :
    let machine := (bare [0x60, 0xFF, 0xBF, 0xFF]).after [.step, .step]
    machine.counter = 0x10FE ∧
      (RawMachine.stepWith id).run machine.toRaw = RawMachine.step.run machine.toRaw ∧
      (machine.after [.tickTimers, .run 9 {}, .pop]).step.result =
        .error (.outsideMemory 0x10FE 2) := by
  intro machine
  have leaves : ∀ command ∈ [Command.step, Command.step], command.LeavesFlow := by
    simp [Command.LeavesFlow]
  have later : ∀ command ∈ [Command.tickTimers, .run 9 {}, .pop],
      command.LeavesFlow ∧ command ≠ .reset := by
    simp [Command.LeavesFlow]
  have reached : machine.counter = 0x10FE := by decide +kernel
  have number : machine.counter.toNat = 0x10FE := congrArg UInt16.toNat reached
  obtain ⟨_, uncut, _, _, stuck⟩ := counter_never_wraps { loadFont := false }
    ⟨Vector.replicate 624 0, 624⟩ [0x60, 0xFF, 0xBF, 0xFF] leaves
  have past : 0xFFE < machine.counter.toNat := by omega
  have failed : (machine.after [.tickTimers, .run 9 {}, .pop]).step.result =
      .error (.outsideMemory machine.counter.toNat 2) := (stuck past _ later).2.1
  rw [number] at failed
  exact ⟨reached, (uncut id leavesCounters_id).1, failed⟩

end Machine

end Chip8
