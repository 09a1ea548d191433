/-
# The return stack as a list

Sixteen slots and a depth are one way to keep a list of at most sixteen words, the oldest first.
Whoever uses the return stack, a host that pushes and pops or an instruction that calls or goes
back, asks one of two things of it: to hold a value or to give back the latest one. `StackDemand`
names them, and `meet` tells what is left of the list when one is met.

Every use of the stack of a machine is one demand on its stack, and one that is refused leaves the
machine where the use began. So whatever uses follow one another, the live entries are the list
that one gets from the demands that were met and from nothing else; this is an induction on the
uses, whose step is the one demand. That the slots above the live ones take no part is `SameLive`.

An instruction that is done by a step and cannot be reported has used the stack all the same. Its
fault is none of the machine and no refusal.
-/

import Chip8.Proofs.Machine.DeadSlots
import Chip8.Proofs.Raw.Simulation.Run

namespace Chip8

/-- What can be asked of a return stack. -/
inductive StackDemand where
  /-- To hold a value. -/
  | push (value : Int)
  /-- To give back the latest value. -/
  | pop
  deriving DecidableEq

namespace StackDemand

/-- What is left of a list of entries when a demand on it is met. -/
def meet (entries : List Int) : StackDemand → List Int
  | push value => entries ++ [value % 65536]
  | pop => entries.dropLast

/-- A list that holds at most sixteen entries cannot meet the demand. -/
def Exceeds (entries : List Int) : StackDemand → Prop
  | push _ => entries.length = 16
  | pop => entries = []

/-- The fault of a demand that is not met. -/
def fault : StackDemand → Fault
  | push value => .stackFull value
  | pop => .stackEmpty

theorem isMachineFault_fault (demand : StackDemand) : demand.fault.isMachineFault = true := by
  cases demand with
  | push value => rfl
  | pop => rfl

end StackDemand

namespace ReturnStack

/-- The live entries as integers, the oldest first. -/
def entries (stack : ReturnStack) : List Int :=
  stack.toList.map fun word => (word.toNat : Int)

/-- What a stack makes of a demand: the word that it gives back, if it has to, and what it is
afterwards. -/
def serve (stack : ReturnStack) : StackDemand → Except Fault (Option Word × ReturnStack)
  | .push value => (stack.push value).map fun next => (none, next)
  | .pop => stack.pop.map fun (word, next) => (some word, next)

variable {stack next : ReturnStack} {demand : StackDemand} {word : Option Word}

theorem length_entries (bounded : stack.depth ≤ 16) : stack.entries.length = stack.depth := by
  rw [entries, List.length_map, toList, List.length_take, Vector.length_toList]
  exact Nat.min_eq_left bounded

theorem fault_of_serve {fault : Fault} (refused : stack.serve demand = .error fault) :
    fault = demand.fault := by
  cases demand with
  | push value =>
    rw [serve] at refused
    by_cases free : stack.depth < 16
    · rw [push_of_lt free] at refused
      cases refused
    · rw [push_of_le (Nat.le_of_not_lt free)] at refused
      cases refused
      rfl
  | pop =>
    rw [serve, pop] at refused
    split at refused
    · cases refused
    · cases refused
      rfl

/-- A push is refused exactly by a list of sixteen entries, a pop exactly by one of none, and
either with its own fault. -/
theorem serve_error_iff (bounded : stack.depth ≤ 16) {fault : Fault} :
    stack.serve demand = .error fault ↔
      fault = demand.fault ∧ demand.Exceeds stack.entries := by
  have length := length_entries bounded
  cases demand with
  | push value =>
    rcases Nat.lt_or_eq_of_le bounded with free | full
    · have apart : stack.entries.length ≠ 16 := by omega
      simp [serve, push_of_lt free, Except.map, StackDemand.Exceeds, apart]
    · have all : stack.entries.length = 16 := by omega
      simp [serve, push_of_le (Nat.le_of_eq full.symm), Except.map, StackDemand.Exceeds, all,
        StackDemand.fault, eq_comm]
  | pop =>
    rcases Nat.eq_zero_or_pos stack.depth with empty | live
    · have none_left : stack.entries = [] := List.length_eq_zero_iff.mp (length.trans empty)
      simp [serve, pop_of_empty empty, Except.map, StackDemand.Exceeds, none_left,
        StackDemand.fault, eq_comm]
    · have some_left : stack.entries ≠ [] := List.ne_nil_of_length_pos (by omega)
      simp [serve, pop_of_live live bounded, Except.map, StackDemand.Exceeds, some_left]

/-- A demand that is met does to the entries what it does to a list. -/
theorem entries_serve (served : stack.serve demand = .ok (word, next)) :
    next.entries = demand.meet stack.entries := by
  cases demand with
  | push value =>
    rw [serve] at served
    cases pushed : stack.push value with
    | error fault =>
      rw [pushed] at served
      cases served
    | ok reached =>
      rw [pushed] at served
      cases served
      have low : ((Word.ofInt value).toNat : Int) = value % 65536 := by
        rw [Word.toNat_ofInt]
        omega
      rw [entries, toList_push pushed, List.map_append, List.map_singleton, low]
      rfl
  | pop =>
    rw [serve] at served
    rcases popped : stack.pop with fault | ⟨value, reached⟩
    · rw [popped] at served
      cases served
    · rw [popped] at served
      cases served
      rw [StackDemand.meet, entries, entries, toList_pop popped, List.map_append,
        List.map_singleton, List.dropLast_concat]

/-- A pop gives back the last entry. -/
theorem getLast?_entries (served : stack.serve .pop = .ok (word, next)) :
    ∃ last, word = some last ∧ stack.entries.getLast? = some (last.toNat : Int) := by
  rw [serve] at served
  rcases popped : stack.pop with fault | ⟨value, reached⟩
  · rw [popped] at served
    cases served
  · rw [popped] at served
    cases served
    refine ⟨value, rfl, ?_⟩
    rw [entries, toList_pop popped, List.map_append, List.map_singleton, List.getLast?_concat]

end ReturnStack

/-- A use of the return stack. -/
inductive StackMove where
  /-- The host pushes a value. -/
  | push (value : Int)
  /-- The host pops a value. -/
  | pop
  /-- The operation that calls is done with the operands of a word. -/
  | call (word : Word)
  /-- The operation that goes back is done. -/
  | ret (word : Word)
  /-- The next instruction is done, which may call, go back, or leave the stack alone. -/
  | step

/-- The command of a use. -/
def StackMove.command : StackMove → Command
  | push value => .push value
  | pop => .pop
  | call word => .exec Operation.call.code.toNat word
  | ret word => .exec Operation.ret.code.toNat word
  | step => .step

/-- The word that a pop gave back: the host gets it as the reply, and an instruction goes there. -/
def StackMove.taken (outcome : Outcome Reply) : StackMove → Option Word
  | pop =>
    match outcome.result with
    | .ok (.word word) => some word
    | _ => none
  | _ => some outcome.machine.counter

/-- The machine refuses what it was told. To be left without a report is no refusal. -/
def Outcome.IsRefused (outcome : Outcome Reply) : Prop :=
  ∃ fault, outcome.result = .error fault ∧ fault.isMachineFault = true

/-- The live entries of a raw machine. -/
def RawMachine.live (raw : RawMachine) : List Int :=
  raw.slots.take raw.depth.toNat

namespace Machine

/-- Where a use of the stack begins: an instruction finds the counter moved on. -/
def begun (machine : Machine) : StackMove → Machine
  | .step => machine.movedOn
  | _ => machine

/-- What a use asks of the stack, if it asks anything. -/
def demand? (machine : Machine) : StackMove → Option StackDemand
  | .push value => some (.push value)
  | .pop => some .pop
  | .call _ => some (.push machine.counter.toNat)
  | .ret _ => some .pop
  | .step =>
    if machine.Next .call then some (.push machine.movedOn.counter.toNat)
    else if machine.Next .ret then some .pop
    else none

/-- The machine after uses of its stack, those that are refused among them. -/
def afterMoves (machine : Machine) (moves : List StackMove) : Machine :=
  machine.after (moves.map StackMove.command)

/-- The demand that a use meets, if it asks anything and is not refused. -/
def met? (machine : Machine) (move : StackMove) : Option StackDemand :=
  match (perform move.command machine).result with
  | .ok _ => machine.demand? move
  | .error fault => if fault.isMachineFault then none else machine.demand? move

/-- The demands that were met in the course of uses, one after another. -/
def ledger (machine : Machine) : List StackMove → List StackDemand
  | [] => []
  | move :: rest =>
    (machine.met? move).toList ++ ledger (perform move.command machine).machine rest

variable {machine : Machine} {move : StackMove} {demand : StackDemand}

/-! ## A use is one demand -/

/-- A use is done: it is answered, or it is a step that cannot be reported. -/
def IsDone (machine : Machine) (move : StackMove) : Prop :=
  (∃ reply, (perform move.command machine).result = .ok reply) ∨
    (move = .step ∧ machine.Unreported)

/-- A use has served its demand: it has the fault of the stack and leaves the machine where it
began, or it is done and leaves the stack that the demand leaves. -/
def Serves (machine : Machine) (move : StackMove) (demand : StackDemand) : Prop :=
  let outcome := perform move.command machine
  match machine.stack.serve demand with
  | .error fault => outcome.result = .error fault ∧ outcome.machine = machine.begun move
  | .ok (word, next) => machine.IsDone move ∧ outcome.machine.stack = next ∧
      ∀ last ∈ word, move.taken outcome = some last

/-- What is done is not refused. -/
theorem IsDone.not_machineFault (done : machine.IsDone move) {fault : Fault}
    (failed : (perform move.command machine).result = .error fault) :
    fault.isMachineFault = false ∧ move = .step ∧ machine.Unreported := by
  rcases done with ⟨reply, went⟩ | ⟨rfl, unreported⟩
  · cases went.symm.trans failed
  · have answer : (perform .step machine).result = .error (.unwritable (machine.tick + 1)) :=
      congrArg (Except.map Reply.status) unreported.result_step
    cases answer.symm.trans failed
    exact ⟨rfl, rfl, unreported⟩

theorem serves_push (machine : Machine) (value : Int) :
    machine.Serves (.push value) (.push value) := by
  unfold Serves IsDone
  simp only [StackMove.command, perform, push, ReturnStack.serve]
  cases machine.stack.push value with
  | error fault => exact ⟨rfl, rfl⟩
  | ok next => exact ⟨.inl ⟨_, rfl⟩, rfl, by rintro _ ⟨⟩⟩

theorem serves_pop (machine : Machine) : machine.Serves .pop .pop := by
  unfold Serves IsDone
  simp only [StackMove.command, perform, pop, ReturnStack.serve]
  rcases machine.stack.pop with fault | ⟨word, next⟩
  · exact ⟨rfl, rfl⟩
  · refine ⟨.inl ⟨_, rfl⟩, rfl, ?_⟩
    rintro last ⟨⟩
    rfl

theorem serves_call (machine : Machine) (word : Word) :
    machine.Serves (.call word) (.push machine.counter.toNat) := by
  have done : perform (StackMove.call word).command machine =
      (machine.goAndRemember word.address).map .status := by
    simp only [StackMove.command, perform, execCode, Operation.ofCode?_code]
    rfl
  unfold Serves IsDone
  simp only [done, goAndRemember, ReturnStack.serve]
  cases machine.stack.push machine.counter.toNat with
  | error fault => exact ⟨rfl, rfl⟩
  | ok next => exact ⟨.inl ⟨_, rfl⟩, rfl, by rintro _ ⟨⟩⟩

theorem serves_ret (machine : Machine) (word : Word) : machine.Serves (.ret word) .pop := by
  have done : perform (StackMove.ret word).command machine = machine.goBack.map .status := by
    simp only [StackMove.command, perform, execCode, Operation.ofCode?_code]
    rfl
  unfold Serves IsDone
  simp only [done, goBack, ReturnStack.serve]
  rcases machine.stack.pop with fault | ⟨target, next⟩
  · exact ⟨rfl, rfl⟩
  · refine ⟨.inl ⟨_, rfl⟩, rfl, ?_⟩
    rintro last ⟨⟩
    rfl

/-- A step serves the demand of its operation, whether it can be reported or not. -/
theorem serves_step {operation : Operation} (next : machine.Next operation)
    (refused : ∀ fault, machine.stack.serve demand = .error fault →
      (exec operation machine.nextWord machine.movedOn).result = .error fault)
    (met : ∀ word stack, machine.stack.serve demand = .ok (word, stack) →
      (∃ status, (exec operation machine.nextWord machine.movedOn).result = .ok status) ∧
      (exec operation machine.nextWord machine.movedOn).machine.stack = stack ∧
      ∀ last ∈ word, (exec operation machine.nextWord machine.movedOn).machine.counter = last) :
    machine.Serves .step demand := by
  unfold Serves
  cases answer : machine.stack.serve demand with
  | error fault =>
    have stopped := step_of_stopped next (refused fault answer)
    constructor
    · show machine.step.result.map Reply.status = _
      rw [stopped]
      rfl
    · show machine.step.machine = _
      rw [stopped]
      rfl
  | ok reached =>
    obtain ⟨word, stack⟩ := reached
    obtain ⟨⟨status, done⟩, left, taken⟩ := met word stack answer
    have counted := machine_step_of_done next done
    refine ⟨?_, ?_, ?_⟩
    · by_cases reportable : machine.Reportable
      · exact .inl ⟨.status status,
          congrArg (Except.map Reply.status) ((result_step next reportable).trans done)⟩
      · exact .inr ⟨rfl, reportable, operation, status, next, done⟩
    · exact (congrArg Machine.stack counted).trans left
    · intro last given
      have reached := (congrArg Machine.counter counted).trans (taken last given)
      exact congrArg some reached

theorem serves_step_call (calls : machine.Next .call) :
    machine.Serves .step (.push machine.movedOn.counter.toNat) := by
  have done : exec .call machine.nextWord machine.movedOn =
      machine.movedOn.goAndRemember machine.nextWord.address := rfl
  have same : machine.movedOn.stack = machine.stack := rfl
  apply serves_step calls
  · intro fault answer
    rw [ReturnStack.serve] at answer
    rw [done, goAndRemember, same]
    cases pushed : machine.stack.push machine.movedOn.counter.toNat with
    | error known =>
      rw [pushed] at answer
      cases answer
      rfl
    | ok next =>
      rw [pushed] at answer
      cases answer
  · intro word stack answer
    rw [ReturnStack.serve] at answer
    rw [done, goAndRemember, same]
    cases pushed : machine.stack.push machine.movedOn.counter.toNat with
    | error known =>
      rw [pushed] at answer
      cases answer
    | ok next =>
      rw [pushed] at answer
      cases answer
      exact ⟨⟨_, rfl⟩, rfl, by rintro _ ⟨⟩⟩

theorem serves_step_ret (returns : machine.Next .ret) : machine.Serves .step .pop := by
  have done : exec .ret machine.nextWord machine.movedOn = machine.movedOn.goBack := rfl
  have same : machine.movedOn.stack = machine.stack := rfl
  apply serves_step returns
  · intro fault answer
    rw [ReturnStack.serve] at answer
    rw [done, goBack, same]
    rcases popped : machine.stack.pop with known | ⟨target, next⟩
    · rw [popped] at answer
      cases answer
      rfl
    · rw [popped] at answer
      cases answer
  · intro word stack answer
    rw [ReturnStack.serve] at answer
    rw [done, goBack, same]
    rcases popped : machine.stack.pop with known | ⟨target, next⟩
    · rw [popped] at answer
      cases answer
    · rw [popped] at answer
      cases answer
      refine ⟨⟨_, rfl⟩, rfl, ?_⟩
      rintro last ⟨⟩
      rfl

/-- Whoever uses the stack, it is the one demand that is served. -/
theorem serves_of_demand (asked : machine.demand? move = some demand) :
    machine.Serves move demand := by
  cases move with
  | push value =>
    cases asked
    exact serves_push machine value
  | pop =>
    cases asked
    exact serves_pop machine
  | call word =>
    cases asked
    exact serves_call machine word
  | ret word =>
    cases asked
    exact serves_ret machine word
  | step =>
    rw [demand?] at asked
    split_ifs at asked with calls returns
    · cases asked
      exact serves_step_call calls
    · cases asked
      exact serves_step_ret returns

/-- An instruction that asks nothing of the stack leaves it as it is. -/
theorem stack_of_no_demand (idle : machine.demand? move = none) :
    (perform move.command machine).machine.stack = machine.stack := by
  cases move with
  | push value => cases idle
  | pop => cases idle
  | call word => cases idle
  | ret word => cases idle
  | step =>
    rw [demand?] at idle
    split_ifs at idle with calls returns
    exact stack_step machine calls returns

/-- A use is refused exactly if its demand exceeds what a list of at most sixteen entries can meet.
It has then the fault of the demand and leaves the machine where it began. No other use fails,
unless it is a step that is done and cannot be reported. -/
theorem refuses_iff (wellFormed : machine.WellFormed)
    (asked : machine.demand? move = some demand) :
    let outcome := perform move.command machine
    (outcome.IsRefused ↔ demand.Exceeds machine.stack.entries) ∧
      ∀ fault, outcome.result = .error fault →
        (fault = demand.fault ∧ outcome.machine = machine.begun move) ∨
          (move = .step ∧ machine.Unreported) := by
  intro outcome
  have served := serves_of_demand asked
  unfold Serves at served
  have exceeds_iff (fault : Fault) :
      machine.stack.serve demand = .error fault ↔ _ :=
    ReturnStack.serve_error_iff wellFormed.depth_le
  cases answer : machine.stack.serve demand with
  | error known =>
    rw [answer] at served
    obtain ⟨failed, left⟩ := served
    obtain ⟨rfl, exceeds⟩ := (exceeds_iff known).mp answer
    refine ⟨iff_of_true ⟨_, failed, demand.isMachineFault_fault⟩ exceeds, ?_⟩
    intro fault failed_too
    cases failed.symm.trans failed_too
    exact .inl ⟨rfl, left⟩
  | ok reached =>
    rw [answer] at served
    obtain ⟨done, _⟩ := served
    constructor
    · refine iff_of_false ?_ ?_
      · rintro ⟨fault, failed, machineFault⟩
        cases machineFault.symm.trans (done.not_machineFault failed).1
      · intro exceeds
        cases answer.symm.trans ((exceeds_iff _).mpr ⟨rfl, exceeds⟩)
    · intro fault failed
      exact .inr (done.not_machineFault failed).2

/-- A pop that is not refused gives back the last entry. -/
theorem taken_of_pop (asked : machine.demand? move = some .pop)
    (met : ¬ (perform move.command machine).IsRefused) :
    ∃ word, move.taken (perform move.command machine) = some word ∧
      machine.stack.entries.getLast? = some (word.toNat : Int) := by
  have served := serves_of_demand asked
  unfold Serves at served
  cases answer : machine.stack.serve .pop with
  | error known =>
    rw [answer] at served
    cases ReturnStack.fault_of_serve answer
    exact absurd ⟨_, served.1, StackDemand.isMachineFault_fault .pop⟩ met
  | ok reached =>
    obtain ⟨word, next⟩ := reached
    rw [answer] at served
    obtain ⟨last, rfl, found⟩ := ReturnStack.getLast?_entries answer
    exact ⟨last, served.2.2 last rfl, found⟩

/-! ## Uses one after another -/

/-- What one use makes of the entries: what its demand makes of a list, if it meets one. -/
theorem entries_perform (machine : Machine) (move : StackMove) :
    (perform move.command machine).machine.stack.entries =
      (machine.met? move).toList.foldl StackDemand.meet machine.stack.entries := by
  cases asked : machine.demand? move with
  | none =>
    have meets : machine.met? move = none := by
      rw [met?, asked]
      split
      · rfl
      · exact ite_self none
    rw [meets, stack_of_no_demand asked]
    rfl
  | some demand =>
    have served := serves_of_demand asked
    unfold Serves at served
    cases answer : machine.stack.serve demand with
    | error fault =>
      rw [answer] at served
      obtain ⟨failed, left⟩ := served
      cases ReturnStack.fault_of_serve answer
      have meets : machine.met? move = none := by
        simp only [met?, failed, demand.isMachineFault_fault, if_true]
      rw [meets, left]
      cases move with
      | _ => rfl
    | ok reached =>
      obtain ⟨word, next⟩ := reached
      rw [answer] at served
      obtain ⟨done, left, _⟩ := served
      have meets : machine.met? move = some demand := by
        rw [met?, ← asked]
        cases result : (perform move.command machine).result with
        | ok reply => rfl
        | error fault => exact if_neg (by rw [(done.not_machineFault result).1]; decide)
      rw [meets, left, ReturnStack.entries_serve answer]
      rfl

theorem entries_afterMoves (machine : Machine) (moves : List StackMove) :
    (machine.afterMoves moves).stack.entries =
      (machine.ledger moves).foldl StackDemand.meet machine.stack.entries := by
  induction moves generalizing machine with
  | nil => rfl
  | cons move rest ih =>
    have later := ih (perform move.command machine).machine
    rw [entries_perform] at later
    rw [ledger, List.foldl_append, ← later]
    rfl

theorem live_toRaw (machine : Machine) : machine.toRaw.live = machine.stack.entries := by
  rw [RawMachine.live, Machine.toRaw, wordsOf, Int.toNat_natCast, ← List.map_take]
  rfl

/-- A return stack is a list of at most sixteen entries. After any uses of it, whether they went
through or not, the live entries are those before with the values of the pushes that were met
appended, cut to sixteen bits, and one taken off the end for each pop that was met. A push is
refused exactly on sixteen entries and a pop exactly on none; either then changes nothing, and a
pop that is not refused gives back the last entry. Nothing else fails but a step that has met its
demand and cannot be reported. Slots above the live ones make no difference to any command, then
or later. A raw machine goes the same way and holds the same entries. -/
theorem return_stack_is_bounded_list (wellFormed : machine.WellFormed) (moves : List StackMove) :
    let later := machine.afterMoves moves
    let entries := later.stack.entries
    entries = (machine.ledger moves).foldl StackDemand.meet machine.stack.entries ∧
    entries.length ≤ 16 ∧
    (∀ (move : StackMove) (value : Int), later.demand? move = some (.push value) →
      let outcome := perform move.command later
      (outcome.IsRefused ↔ entries.length = 16) ∧
      ∀ fault, outcome.result = .error fault →
        (fault = .stackFull value ∧ outcome.machine = later.begun move) ∨
          (move = .step ∧ later.Unreported)) ∧
    (∀ move : StackMove, later.demand? move = some .pop →
      let outcome := perform move.command later
      (outcome.IsRefused ↔ entries = []) ∧
      (∀ fault, outcome.result = .error fault →
        (fault = .stackEmpty ∧ outcome.machine = later.begun move) ∨
          (move = .step ∧ later.Unreported)) ∧
      (¬ outcome.IsRefused → ∃ word,
        move.taken outcome = some word ∧ entries.getLast? = some (word.toNat : Int))) ∧
    (∀ other, machine.SameLive other → ∀ command,
      (perform command later).SameLive (perform command (other.afterMoves moves))) ∧
    machine.toRaw.after (moves.map StackMove.command) = later.toRaw ∧
    later.toRaw.live = entries ∧
    ∀ move : StackMove, (RawMachine.obey move.command).run later.toRaw =
      (perform move.command later).toRaw fun _ => () := by
  intro later entries
  have kept : later.WellFormed := wellFormed.after (moves.map StackMove.command)
  have length : entries.length = later.stack.depth := ReturnStack.length_entries kept.depth_le
  have bounded := kept.depth_le
  refine ⟨entries_afterMoves machine moves, by omega, ?_, ?_,
    fun other same command => (same.after _).perform command, after_toRaw wellFormed _,
    live_toRaw later, fun move => run_obey later kept move.command⟩
  · intro move value asked
    exact refuses_iff kept asked
  · intro move asked
    obtain ⟨failed_iff, refused⟩ := refuses_iff kept asked
    exact ⟨failed_iff, refused, taken_of_pop asked⟩

/-- A pop too early, a value of seventeen bits, a call by the program and one by the host, its
return, and a negative value; then as many pushes as make one too many. -/
theorem return_stack_is_bounded_list_through_failures :
    let machine := bare [0x22, 0x00]
    let moves : List StackMove := [.pop, .push 70000, .step, .call 0x2ABC, .ret 0x00EE, .push (-1)]
    let full := machine.afterMoves (List.replicate 16 (.push 5))
    (machine.afterMoves moves).stack.entries = [4464, 0x202, 65535] ∧
      (perform (.push 70000) full).IsRefused := by
  intro machine moves full
  have evaluated : machine.ledger moves =
      [.push 70000, .push 0x202, .push 0x200, .pop, .push (-1)] ∧
      full.stack.entries.length = 16 := by decide +kernel
  obtain ⟨ledger, sixteen⟩ := evaluated
  have wellFormed := wellFormed_bare [0x22, 0x00]
  constructor
  · have entries := (return_stack_is_bounded_list wellFormed moves).1
    rw [ledger] at entries
    exact entries
  · obtain ⟨_, _, pushes, _⟩ :=
      return_stack_is_bounded_list wellFormed (List.replicate 16 (.push 5))
    exact (pushes (.push 70000) 70000 rfl).1.mpr sixteen

end Machine

end Chip8
