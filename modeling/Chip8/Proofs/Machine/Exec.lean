/-
# What an operation touches and what stops it

No operation touches what belongs to the host: keys, the tick, the remembered
program, the settings, and the note of the last operation. All but `call` and `ret`
leave the return stack alone too, and those two keep the slots below the live ones
as they are.

Only six operations can meet a fault, and `Obstacle` lists why. An operation that
meets one has touched nothing at all.
-/

import Chip8.Machine.Exec
import Chip8.Proofs.ReturnStack
import Mathlib.Tactic.SplitIfs

namespace Chip8.Machine

/-! ## Frames -/

/-- What belongs to the host. -/
structure HostPart where
  keypad : Keypad
  tick : Int
  program : List Byte
  settings : Settings
  last : Option Operation

/-- What belongs to the host of a machine. -/
def hostPart (machine : Machine) : HostPart :=
  { keypad := machine.keypad
    tick := machine.tick
    program := machine.program
    settings := machine.settings
    last := machine.last }

/-- What belongs to the host is the same, and so is the return stack. -/
structure SameStack (before after : Machine) : Prop where
  host : after.hostPart = before.hostPart
  stack : after.stack = before.stack

variable (machine : Machine)

theorem sameStack_skipIf (condition : Bool) : SameStack machine (machine.skipIf condition) := by
  cases condition with
  | false => exact ⟨rfl, rfl⟩
  | true => exact ⟨rfl, rfl⟩

theorem sameStack_takeKey (register : Fin 16) :
    SameStack machine (machine.takeKey register).machine := by
  unfold takeKey
  cases machine.keypad.lowest? with
  | none => exact ⟨rfl, rfl⟩
  | some key => exact ⟨rfl, rfl⟩

theorem sameStack_storeAtIndex (bytes : List Byte) :
    SameStack machine (machine.storeAtIndex bytes).machine := by
  unfold storeAtIndex
  cases machine.memory.writeBlock machine.index.toNat bytes with
  | error fault => exact ⟨rfl, rfl⟩
  | ok memory => exact ⟨rfl, rfl⟩

theorem sameStack_registers (registers : Vector Byte 16) :
    SameStack machine { machine with registers := registers } := ⟨rfl, rfl⟩

theorem sameStack_loadAtIndex (count : Nat) :
    SameStack machine (machine.loadAtIndex count).machine := by
  unfold loadAtIndex
  cases machine.memory.readBlock machine.index.toNat count with
  | error fault => exact ⟨rfl, rfl⟩
  | ok bytes => exact sameStack_registers machine (replaceFirst machine.registers bytes)

theorem sameStack_drawSprite (x y : Byte) (rows : Nat) :
    SameStack machine (machine.drawSprite x y rows).machine := by
  unfold drawSprite
  cases machine.memory.readBlock machine.index.toNat rows with
  | error fault => exact ⟨rfl, rfl⟩
  | ok sprite => exact ⟨rfl, rfl⟩

theorem hostPart_goBack : machine.goBack.machine.hostPart = machine.hostPart := by
  unfold goBack
  rcases machine.stack.pop with fault | ⟨target, stack⟩
  · rfl
  · rfl

theorem hostPart_goAndRemember (target : Word) :
    (machine.goAndRemember target).machine.hostPart = machine.hostPart := by
  unfold goAndRemember
  cases machine.stack.push machine.counter.toNat with
  | error fault => rfl
  | ok stack => rfl

variable {operation : Operation} (word : Word)

/-- Only calling and going back use the return stack. -/
theorem sameStack_exec (notCall : operation ≠ .call) (notRet : operation ≠ .ret) :
    SameStack machine (exec operation word machine).machine := by
  cases operation with
  | call => exact absurd rfl notCall
  | ret => exact absurd rfl notRet
  | skipIfByte | skipUnlessByte | skipIfSame | skipUnlessSame | skipIfHeld | skipUnlessHeld =>
    exact sameStack_skipIf machine _
  | storeDigits | storeRegisters => exact sameStack_storeAtIndex machine _
  | loadRegisters => exact sameStack_loadAtIndex machine _
  | draw => exact sameStack_drawSprite machine _ _ _
  | awaitKey => exact sameStack_takeKey machine _
  | _ => exact ⟨rfl, rfl⟩

theorem hostPart_exec :
    (exec operation word machine).machine.hostPart = machine.hostPart := by
  by_cases call : operation = .call
  · subst call
    exact hostPart_goAndRemember machine word.address
  · by_cases ret : operation = .ret
    · subst ret
      exact hostPart_goBack machine
    · exact (sameStack_exec machine word call ret).host

/-- Slots that are live before an operation keep their words, whether or not they are
still live after it. -/
theorem lowest_exec {count : Nat} (live : count ≤ machine.stack.depth) :
    (exec operation word machine).machine.stack.lowest count = machine.stack.lowest count := by
  by_cases call : operation = .call
  · subst call
    show (machine.goAndRemember word.address).machine.stack.lowest count = _
    unfold goAndRemember
    cases pushed : machine.stack.push machine.counter.toNat with
    | error fault => rfl
    | ok stack => exact ReturnStack.lowest_push pushed live
  · by_cases ret : operation = .ret
    · subst ret
      show machine.goBack.machine.stack.lowest count = _
      unfold goBack
      rcases popped : machine.stack.pop with fault | ⟨target, stack⟩
      · rfl
      · exact ReturnStack.lowest_pop popped count
    · rw [(sameStack_exec machine word call ret).stack]

theorem depth_exec (bounded : machine.stack.depth ≤ 16) :
    (exec operation word machine).machine.stack.depth ≤ 16 := by
  by_cases call : operation = .call
  · subst call
    show (machine.goAndRemember word.address).machine.stack.depth ≤ 16
    unfold goAndRemember
    cases pushed : machine.stack.push machine.counter.toNat with
    | error fault => exact bounded
    | ok stack =>
      obtain ⟨free, deeper⟩ := ReturnStack.depth_push pushed
      exact Nat.le_trans (Nat.le_of_eq deeper) free
  · by_cases ret : operation = .ret
    · subst ret
      show machine.goBack.machine.stack.depth ≤ 16
      unfold goBack
      rcases popped : machine.stack.pop with fault | ⟨target, stack⟩
      · exact bounded
      · obtain ⟨_, shallower, _⟩ := ReturnStack.pop_eq_ok popped
        exact Nat.le_trans (shallower ▸ Nat.le_succ stack.depth) bounded
    · rw [(sameStack_exec machine word call ret).stack]
      exact bounded

/-! ## Faults -/

/-- Why an operation cannot be done, and the fault it meets. -/
inductive Obstacle (machine : Machine) (word : Word) : Operation → Fault → Prop
  | nowhereToGoBack (empty : machine.stack.depth = 0) :
    Obstacle machine word .ret .stackEmpty
  | noRoomToRemember (full : machine.stack.depth = 16) :
    Obstacle machine word .call (.stackFull machine.counter.toNat)
  | noRoomForDigits (outside : 4096 < machine.index.toNat + 3) :
    Obstacle machine word .storeDigits (.outsideMemory machine.index.toNat 3)
  | noRoomForRegisters (outside : 4096 < machine.index.toNat + (word.x.val + 1)) :
    Obstacle machine word .storeRegisters
      (.outsideMemory machine.index.toNat (word.x.val + 1 : Nat))
  | registersMissing (outside : 4096 < machine.index.toNat + (word.x.val + 1)) :
    Obstacle machine word .loadRegisters
      (.outsideMemory machine.index.toNat (word.x.val + 1 : Nat))
  | spriteMissing (outside : 4096 < machine.index.toNat + word.nibble) :
    Obstacle machine word .draw (.outsideMemory machine.index.toNat word.nibble)

theorem not_inMemory_natCast (address length : Nat) :
    ¬ InMemory address length ↔ 4096 < address + length := by
  unfold InMemory
  omega

section Faults

variable {fault : Fault}

theorem storeAtIndex_error_iff (bytes : List Byte) :
    (machine.storeAtIndex bytes).result = .error fault ↔
      4096 < machine.index.toNat + bytes.length ∧
        fault = .outsideMemory machine.index.toNat bytes.length := by
  rw [← not_inMemory_natCast, storeAtIndex, Memory.writeBlock]
  split_ifs with inside
  · simp [goOn, inside]
  · simp [refuse, inside, eq_comm]

theorem loadAtIndex_error_iff (count : Nat) :
    (machine.loadAtIndex count).result = .error fault ↔
      4096 < machine.index.toNat + count ∧ fault = .outsideMemory machine.index.toNat count := by
  rw [← not_inMemory_natCast, loadAtIndex, Memory.readBlock]
  split_ifs with inside
  · simp [goOn, inside]
  · simp [refuse, inside, eq_comm]

theorem drawSprite_error_iff (x y : Byte) (rows : Nat) :
    (machine.drawSprite x y rows).result = .error fault ↔
      4096 < machine.index.toNat + rows ∧ fault = .outsideMemory machine.index.toNat rows := by
  rw [← not_inMemory_natCast, drawSprite, Memory.readBlock]
  split_ifs with inside
  · simp [goOn, inside]
  · simp [refuse, inside, eq_comm]

theorem takeKey_ne_error (register : Fin 16) :
    (machine.takeKey register).result ≠ .error fault := by
  unfold takeKey
  cases machine.keypad.lowest? with
  | none => nofun
  | some key => nofun

theorem goBack_error_iff (bounded : machine.stack.depth ≤ 16) :
    machine.goBack.result = .error fault ↔ machine.stack.depth = 0 ∧ fault = .stackEmpty := by
  rw [goBack]
  by_cases empty : machine.stack.depth = 0
  · rw [ReturnStack.pop_of_empty empty]
    simp [refuse, empty, eq_comm]
  · rw [ReturnStack.pop_of_live (Nat.pos_of_ne_zero empty) bounded]
    simp [goOn, empty]

theorem goAndRemember_error_iff (bounded : machine.stack.depth ≤ 16) (target : Word) :
    (machine.goAndRemember target).result = .error fault ↔
      machine.stack.depth = 16 ∧ fault = .stackFull machine.counter.toNat := by
  rw [goAndRemember]
  rcases Nat.lt_or_eq_of_le bounded with free | full
  · rw [ReturnStack.push_of_lt free]
    simp [goOn, Nat.ne_of_lt free]
  · rw [ReturnStack.push_of_le (Nat.le_of_eq full.symm)]
    simp [refuse, full, eq_comm]

/-- The obstacles are exactly what operations fail at. -/
theorem exec_error_iff (bounded : machine.stack.depth ≤ 16) :
    (exec operation word machine).result = .error fault ↔
      machine.Obstacle word operation fault := by
  have registers : (machine.registers.toList.take (word.x.val + 1)).length = word.x.val + 1 := by
    have inside := word.x.isLt
    rw [List.length_take, Vector.length_toList]
    omega
  cases operation with
  | ret =>
    refine (goBack_error_iff machine bounded).trans ⟨?_, ?_⟩
    · rintro ⟨empty, rfl⟩
      exact .nowhereToGoBack empty
    · rintro ⟨⟩
      exact ⟨‹_›, rfl⟩
  | call =>
    refine (goAndRemember_error_iff machine bounded word.address).trans ⟨?_, ?_⟩
    · rintro ⟨full, rfl⟩
      exact .noRoomToRemember full
    · rintro ⟨⟩
      exact ⟨‹_›, rfl⟩
  | storeDigits =>
    refine (storeAtIndex_error_iff machine _).trans ⟨?_, ?_⟩
    · rintro ⟨outside, rfl⟩
      exact .noRoomForDigits outside
    · rintro ⟨⟩
      exact ⟨‹_›, rfl⟩
  | storeRegisters =>
    refine (storeAtIndex_error_iff machine _).trans ?_
    rw [registers]
    refine ⟨?_, ?_⟩
    · rintro ⟨outside, rfl⟩
      exact .noRoomForRegisters outside
    · rintro ⟨⟩
      exact ⟨‹_›, rfl⟩
  | loadRegisters =>
    refine (loadAtIndex_error_iff machine _).trans ⟨?_, ?_⟩
    · rintro ⟨outside, rfl⟩
      exact .registersMissing outside
    · rintro ⟨⟩
      exact ⟨‹_›, rfl⟩
  | draw =>
    refine (drawSprite_error_iff machine _ _ _).trans ⟨?_, ?_⟩
    · rintro ⟨outside, rfl⟩
      exact .spriteMissing outside
    · rintro ⟨⟩
      exact ⟨‹_›, rfl⟩
  | awaitKey => exact ⟨fun failed => absurd failed (takeKey_ne_error machine _), nofun⟩
  | _ => exact ⟨nofun, nofun⟩

theorem isMachineFault_goBack (failed : machine.goBack.result = .error fault) :
    fault.isMachineFault = true := by
  rw [goBack, ReturnStack.pop] at failed
  split_ifs at failed
  · cases failed
  · cases failed
    rfl

theorem isMachineFault_goAndRemember {target : Word}
    (failed : (machine.goAndRemember target).result = .error fault) :
    fault.isMachineFault = true := by
  rw [goAndRemember, ReturnStack.push] at failed
  split_ifs at failed
  · cases failed
  · cases failed
    rfl

/-- What operations fail at are faults of the machine, whatever its state. -/
theorem isMachineFault_exec (failed : (exec operation word machine).result = .error fault) :
    fault.isMachineFault = true := by
  cases operation with
  | ret => exact isMachineFault_goBack machine failed
  | call => exact isMachineFault_goAndRemember machine failed
  | storeDigits | storeRegisters =>
    obtain ⟨_, rfl⟩ := (storeAtIndex_error_iff machine _).mp failed
    rfl
  | loadRegisters =>
    obtain ⟨_, rfl⟩ := (loadAtIndex_error_iff machine _).mp failed
    rfl
  | draw =>
    obtain ⟨_, rfl⟩ := (drawSprite_error_iff machine _ _ _).mp failed
    rfl
  | awaitKey => exact absurd failed (takeKey_ne_error machine word.x)
  | _ => cases failed

end Faults

/-! ## Nothing half done -/

/-- If an outcome is a fault, it leaves a machine as it was. -/
def Atomic (machine : Machine) (outcome : Outcome Status) : Prop :=
  ∀ fault, outcome.result = .error fault → outcome.machine = machine

theorem atomic_goOn (left : Machine) (events : List Event) :
    machine.Atomic (left.goOn events) := by
  intro fault failed
  cases failed

theorem atomic_refuse (fault : Fault) : machine.Atomic (machine.refuse fault) := by
  intro _ _
  rfl

/-- Whatever an operation checks, it checks before it touches anything. -/
theorem atomic_exec : machine.Atomic (exec operation word machine) := by
  cases operation with
  | ret =>
    show machine.Atomic machine.goBack
    rw [goBack]
    rcases machine.stack.pop with fault | ⟨target, stack⟩
    · exact atomic_refuse machine fault
    · exact atomic_goOn machine _ _
  | call =>
    show machine.Atomic (machine.goAndRemember word.address)
    rw [goAndRemember]
    cases machine.stack.push machine.counter.toNat with
    | error fault => exact atomic_refuse machine fault
    | ok stack => exact atomic_goOn machine _ _
  | storeDigits | storeRegisters =>
    show machine.Atomic (machine.storeAtIndex _)
    rw [storeAtIndex]
    cases machine.memory.writeBlock machine.index.toNat _ with
    | error fault => exact atomic_refuse machine fault
    | ok memory => exact atomic_goOn machine _ _
  | loadRegisters =>
    show machine.Atomic (machine.loadAtIndex _)
    rw [loadAtIndex]
    cases machine.memory.readBlock machine.index.toNat _ with
    | error fault => exact atomic_refuse machine fault
    | ok bytes => exact atomic_goOn machine _ _
  | draw =>
    show machine.Atomic (machine.drawSprite _ _ _)
    rw [drawSprite]
    cases machine.memory.readBlock machine.index.toNat _ with
    | error fault => exact atomic_refuse machine fault
    | ok sprite => exact atomic_goOn machine _ _
  | awaitKey => exact fun fault failed => absurd failed (takeKey_ne_error machine word.x)
  | _ => exact atomic_goOn machine _ _

/-! ## Reports -/

/-- The event is one that operations report. -/
def OfOperation : Event → Prop
  | .systemCallIgnored _ | .pushed _ _ | .popped _ _ | .keyTaken _ _ => True
  | _ => False

/-- Operations report nothing that is left to steps, timers and runs. -/
theorem ofOperation_exec :
    ∀ event ∈ (exec operation word machine).events, OfOperation event := by
  cases operation with
  | systemCall => exact List.forall_mem_singleton.mpr trivial
  | ret =>
    show ∀ event ∈ machine.goBack.events, OfOperation event
    rw [goBack]
    rcases machine.stack.pop with fault | ⟨target, stack⟩
    · exact List.forall_mem_nil OfOperation
    · exact List.forall_mem_singleton.mpr trivial
  | call =>
    show ∀ event ∈ (machine.goAndRemember word.address).events, OfOperation event
    rw [goAndRemember]
    cases machine.stack.push machine.counter.toNat with
    | error fault => exact List.forall_mem_nil OfOperation
    | ok stack => exact List.forall_mem_singleton.mpr trivial
  | awaitKey =>
    show ∀ event ∈ (machine.takeKey word.x).events, OfOperation event
    rw [takeKey]
    cases machine.keypad.lowest? with
    | none => exact List.forall_mem_nil OfOperation
    | some key => exact List.forall_mem_singleton.mpr trivial
  | storeDigits | storeRegisters =>
    show ∀ event ∈ (machine.storeAtIndex _).events, OfOperation event
    rw [storeAtIndex]
    cases machine.memory.writeBlock machine.index.toNat _ with
    | _ => exact List.forall_mem_nil OfOperation
  | loadRegisters =>
    show ∀ event ∈ (machine.loadAtIndex _).events, OfOperation event
    rw [loadAtIndex]
    cases machine.memory.readBlock machine.index.toNat _ with
    | _ => exact List.forall_mem_nil OfOperation
  | draw =>
    show ∀ event ∈ (machine.drawSprite _ _ _).events, OfOperation event
    rw [drawSprite]
    cases machine.memory.readBlock machine.index.toNat _ with
    | _ => exact List.forall_mem_nil OfOperation
  | _ => exact List.forall_mem_nil OfOperation

end Chip8.Machine
