/-
# A reset machine is a new one

Whatever a host has done to a machine, a reset brings it back to what a new machine with the
same settings and the program loaded last would be. Two things a reset leaves alone: the
random stream goes on where it is, and the operation noted last stays noted.

So the argument has two halves. What a host does never changes the settings, and changes the
remembered program only by loading one that fits; everything else a reset writes anew. And
since the note makes no difference to any answer, no later conversation with the host tells
the two machines apart, if only their random streams are the same.
-/

import Chip8.Proofs.Machine.Note
import Chip8.Proofs.Raw.Simulation.Host
import Mathlib.Control.Monad.Basic

namespace Chip8

/-- Something that a host does to a machine. -/
inductive HostAction where
  /-- It gives a command. -/
  | command (command : Command)
  /-- It assigns a field. -/
  | assign (assignment : Assignment)

/-- The program remembered after an action: a load that fits replaces it, nothing else does. -/
def HostAction.remembered (program : List Byte) : HostAction → List Byte
  | .command (.load next) => if next.length ≤ programLimit then next else program
  | _ => program

/-- The program loaded last, by a load that went through. -/
def lastLoaded (program : List Byte) (actions : List HostAction) : List Byte :=
  actions.foldl HostAction.remembered program

namespace Machine

/-- Do to the machine what a host does. There is nothing to answer to an assignment. -/
def act (action : HostAction) (machine : Machine) : Outcome Reply :=
  match action with
  | .command command => perform command machine
  | .assign assignment => ⟨.ok .done, machine.assign assignment, []⟩

/-- The machine after actions of a host, whether or not they went through. -/
def afterAll (machine : Machine) (actions : List HostAction) : Machine :=
  actions.foldl (fun machine action => (act action machine).machine) machine

/-- What a host gets to know by actions: the answer or the fault of each, and its events. -/
def conversation (machine : Machine) : List HostAction → List (Except Fault Reply × List Event)
  | [] => []
  | action :: rest =>
    ((act action machine).result, (act action machine).events) ::
      conversation (act action machine).machine rest

/-- What is decided about a machine: these settings, and this program to come back to. -/
structure HasSetup (machine : Machine) (settings : Settings) (program : List Byte) : Prop where
  settings : machine.settings = settings
  program : machine.program = program

/-! ## The setup after a history -/

namespace HasSetup

variable {machine : Machine} {settings : Settings} {program : List Byte}
  (setup : machine.HasSetup settings program)

include setup

theorem exec (operation : Operation) (word : Word) :
    (exec operation word machine).machine.HasSetup settings program where
  settings := (congrArg HostPart.settings (hostPart_exec machine word)).trans setup.settings
  program := (congrArg HostPart.program (hostPart_exec machine word)).trans setup.program

theorem step : machine.step.machine.HasSetup settings program := by
  rcases machine_step machine with same | moved | ⟨operation, _, done⟩
  · rw [same]
    exact setup
  · rw [moved]
    exact ⟨setup.settings, setup.program⟩
  · have moved : machine.movedOn.HasSetup settings program := ⟨setup.settings, setup.program⟩
    have kept := moved.exec operation machine.nextWord
    rw [done]
    exact ⟨kept.settings, kept.program⟩

theorem run (limit : Int) (pace : Pace) :
    (machine.run limit pace).machine.HasSetup settings program :=
  run_preserves (HasSetup · settings program) (fun _ kept => kept.step)
    (fun _ kept => ⟨kept.settings, kept.program⟩) limit pace setup

theorem execCode (code : Int) (word : Word) :
    (machine.execCode code word).machine.HasSetup settings program := by
  rw [Machine.execCode]
  cases Operation.ofCode? code with
  | none => exact setup
  | some operation => exact setup.exec operation word

theorem setKey (key : Int) (pressed : Bool) :
    (machine.setKey key pressed).machine.HasSetup settings program := by
  rw [Machine.setKey]
  cases machine.keypad.put key pressed with
  | _ => exact ⟨setup.settings, setup.program⟩

theorem takeMemory (memory : Except Fault Memory) :
    (machine.takeMemory memory).machine.HasSetup settings program := by
  cases memory with
  | _ => exact ⟨setup.settings, setup.program⟩

theorem push (value : Int) : (machine.push value).machine.HasSetup settings program := by
  rw [Machine.push]
  cases machine.stack.push value with
  | _ => exact ⟨setup.settings, setup.program⟩

theorem pop : machine.pop.machine.HasSetup settings program := by
  rw [Machine.pop]
  rcases machine.stack.pop with fault | ⟨value, stack⟩
  · exact setup
  · exact ⟨setup.settings, setup.program⟩

/-- A program that does not fit is not remembered in the place of the one before. -/
theorem load (next : List Byte) :
    (machine.load next).machine.HasSetup settings
      (if next.length ≤ programLimit then next else program) := by
  rw [Machine.load]
  split
  · exact ⟨setup.settings, rfl⟩
  · exact setup

/-- Nothing a host does changes the settings, and only loading changes the program. -/
theorem act (action : HostAction) :
    (act action machine).machine.HasSetup settings (action.remembered program) := by
  cases action with
  | assign assignment =>
    cases assignment with
    | _ => exact ⟨setup.settings, setup.program⟩
  | command command =>
    cases command with
    | load next => exact setup.load next
    | step => exact setup.step
    | run limit pace => exact setup.run limit pace
    | exec code word => exact setup.execCode code word
    | setKey key pressed => exact setup.setKey key pressed
    | writeByte | writeBlock => exact setup.takeMemory _
    | push value => exact setup.push value
    | pop => exact setup.pop
    | _ => exact ⟨setup.settings, setup.program⟩

theorem afterAll (actions : List HostAction) :
    (machine.afterAll actions).HasSetup settings (lastLoaded program actions) := by
  induction actions generalizing machine program with
  | nil => exact setup
  | cons action rest ih => exact ih (setup.act action)

end HasSetup

theorem load_ok_iff {machine : Machine} {program : List Byte} :
    (machine.load program).result = .ok () ↔ program.length ≤ programLimit := by
  rw [load]
  split
  case isTrue fits => exact ⟨fun _ => fits, fun _ => rfl⟩
  case isFalse large =>
    constructor
    · intro went
      cases went
    · intro fits
      exact absurd fits large

theorem build_ok_iff {settings : Settings} {random : Twister} {program : List Byte} :
    (build settings random program).result = .ok () ↔ program.length ≤ programLimit := by
  rw [build]
  split
  case isTrue empty =>
    rw [List.isEmpty_iff.mp empty]
    exact ⟨fun _ => Nat.zero_le _, fun _ => rfl⟩
  case isFalse => exact load_ok_iff

theorem hasSetup_build (settings : Settings) (random : Twister) {program : List Byte}
    (fits : program.length ≤ programLimit) :
    (build settings random program).machine.HasSetup settings program := by
  rw [build]
  split
  case isTrue empty =>
    rw [List.isEmpty_iff.mp empty]
    exact ⟨rfl, rfl⟩
  case isFalse =>
    have on : (powerOn settings random).HasSetup settings [] := ⟨rfl, rfl⟩
    have loaded := on.load program
    rwa [if_pos fits] at loaded

theorem length_lastLoaded {program : List Byte} (fits : program.length ≤ programLimit)
    (actions : List HostAction) : (lastLoaded program actions).length ≤ programLimit := by
  induction actions generalizing program with
  | nil => exact fits
  | cons action rest ih =>
    apply ih
    fun_cases HostAction.remembered program action with
    | case1 next small => exact small
    | case2 next large => exact fits
    | case3 => exact fits

/-! ## Power-on -/

/-- A new machine has noted nothing, and its random stream is the one it was given. -/
theorem new_build (settings : Settings) (random : Twister) (program : List Byte) :
    (build settings random program).machine.random = random ∧
      (build settings random program).machine.last = none := by
  rw [build]
  split
  · exact ⟨rfl, rfl⟩
  · rw [load]
    split
    · exact ⟨rfl, rfl⟩
    · exact ⟨rfl, rfl⟩

/-- A reset writes anew all but the setup, the random stream and the note. -/
theorem reset_eq_build (machine : Machine) (fits : machine.program.length ≤ programLimit)
    (random : Twister) :
    machine.reset =
      { (build machine.settings random machine.program).machine with
        random := machine.random, last := machine.last } := by
  rw [build]
  split
  case isTrue empty =>
    rw [reset, List.isEmpty_iff.mp empty]
    rfl
  case isFalse =>
    rw [load, if_pos fits]
    rfl

/-! ## Conversations -/

theorem act_unnoted (action : HostAction) (machine : Machine) :
    (act action machine.unnoted).unnoted = (act action machine).unnoted := by
  cases action with
  | command command => exact perform_unnoted machine command
  | assign assignment =>
    cases assignment with
    | _ => rfl

/-- Machines that differ in their notes alone answer alike, and go on so. -/
theorem same_conversation {machine other : Machine} (same : machine.unnoted = other.unnoted)
    (actions : List HostAction) :
    machine.conversation actions = other.conversation actions ∧
      (machine.afterAll actions).unnoted = (other.afterAll actions).unnoted := by
  induction actions generalizing machine other with
  | nil => exact ⟨rfl, same⟩
  | cons action rest ih =>
    have alike : (act action machine).unnoted = (act action other).unnoted := by
      rw [← act_unnoted, same, act_unnoted]
    obtain ⟨answer, left, events⟩ := Outcome.mk.inj alike
    obtain ⟨later, final⟩ := ih left
    refine ⟨?_, final⟩
    rw [conversation, conversation, answer, events, later]

/-! ## A reset machine is a new one -/

/-- After any history, a reset leaves the machine that is newly built with the same settings
and the program loaded last, but for the random stream and the note, and it would leave it
whatever numbers stood in the cells. Given the same random stream, neither the answers, the
faults and the events of any later conversation nor the machines after it tell the reset
machine from the new one, the note apart. -/
theorem reset_renews {settings : Settings} {random : Twister} {program : List Byte}
    (built : (build settings random program).result = .ok ()) (history : List HostAction) :
    let worn := (build settings random program).machine.afterAll history
    let fresh := fun stream : Twister => build settings stream (lastLoaded program history)
    (∀ stream : Twister,
      (fresh stream).result = .ok () ∧
      worn.reset = { (fresh stream).machine with random := worn.random, last := worn.last }) ∧
    (∀ raw : RawMachine,
      raw.settings = settings → raw.program = lastLoaded program history →
      raw.screen = worn.screen.toRaw → raw.random = worn.random → raw.last = worn.last →
      RawMachine.reset.run raw = .ok () worn.reset.toRaw) ∧
    (let new := (fresh worn.random).machine
    new.last = none ∧
      ∀ later : List HostAction,
        worn.reset.conversation later = new.conversation later ∧
        (worn.reset.afterAll later).unnoted = (new.afterAll later).unnoted) := by
  intro worn fresh
  have fits := build_ok_iff.mp built
  have setup : worn.HasSetup settings (lastLoaded program history) :=
    (hasSetup_build settings random fits).afterAll history
  have still_fits := length_lastLoaded fits history
  have bounded : worn.program.length ≤ programLimit := by
    rw [setup.program]
    exact still_fits
  have renewed : ∀ stream : Twister,
      worn.reset = { (fresh stream).machine with random := worn.random, last := worn.last } := by
    intro stream
    rw [reset_eq_build worn bounded stream, setup.settings, setup.program]
  refine ⟨fun stream => ⟨build_ok_iff.mpr still_fits, renewed stream⟩, ?_, ?_⟩
  · intro raw decided remembered shown stream noted
    exact run_reset worn bounded (decided.trans setup.settings.symm)
      (remembered.trans setup.program.symm) shown stream noted
  · intro new
    obtain ⟨stream, unnoted⟩ : new.random = worn.random ∧ new.last = none :=
      new_build settings worn.random (lastLoaded program history)
    refine ⟨unnoted, ?_⟩
    intro later
    apply same_conversation
    rw [renewed worn.random]
    show { new with random := worn.random, last := none } = new.unnoted
    rw [← stream]
    rfl

/-- A run to a halt, a load that does not fit and one that does, a random byte drawn, a glyph
overwritten, a held key and a tick below zero. The reset machine is the one built with the
second program, and a conversation goes the same way with both. -/
theorem reset_renews_after_halt :
    let settings : Settings := { shiftFlagFromLowBit := true }
    let stream : Twister := ⟨Vector.replicate 624 0, 624⟩
    let history : List HostAction :=
      [.command (.run 9 {}), .command (.load (List.replicate 3585 0)),
        .command (.load [0xC0, 0xFF]), .command .step, .command (.writeBlock 0 [300, -1]),
        .command (.setKey 7 true), .assign (.register 15 9), .assign (.tick (-4))]
    let later : List HostAction := [.command (.run 3 {}), .command .render]
    let worn := (build settings stream [0x12, 0x00, 0xFF]).machine.afterAll history
    let new := (build settings worn.random [0xC0, 0xFF]).machine
    worn.last = some .random ∧ new.last = none ∧
      worn.reset = { new with random := worn.random, last := worn.last } ∧
      worn.reset.conversation later = new.conversation later := by
  intro settings stream history later worn new
  have built : (build settings stream [0x12, 0x00, 0xFF]).result = .ok () := by decide +kernel
  have loaded : lastLoaded [0x12, 0x00, 0xFF] history = [0xC0, 0xFF] := by decide +kernel
  have noted : worn.last = some .random := by decide +kernel
  obtain ⟨renewed, _, unnoted, alike⟩ := reset_renews built history
  rw [loaded] at renewed unnoted alike
  exact ⟨noted, unnoted, (renewed worn.random).2, (alike later).1⟩

end Machine

end Chip8
