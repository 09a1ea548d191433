/-
# The random stream

A machine draws its random bytes from one stream that is fixed when the machine is built. The
only thing that draws from it is the instruction for a random byte, and each that is executed
draws one byte, whatever its mask keeps of it. So the bytes that a machine has drawn are told
from the list of instructions it has executed, over steps, runs and instructions told by the
host, across faults, loads and resets.

`Feeds` relates a stream, a list of executed instructions and the rest of the stream: each
random byte in the list is the next of the stream, and nothing else takes any. It holds of a
step; it holds of lists put together, and so it holds of a run and of a whole history. What a
reader wants to know, the byte of a given number, is then read off the relation.
-/

import Chip8.Proofs.Machine.Footprint
import Chip8.Proofs.Machine.Host
import Chip8.Proofs.Random.Seeding
import Chip8.Proofs.Reset
import Chip8.Proofs.Run.Unread

namespace Chip8

/-! ## Instructions that were executed -/

/-- An instruction that went through, with the machine that it left. -/
structure Executed where
  /-- The operation. -/
  operation : Operation
  /-- The word with its operands. -/
  word : Word
  /-- The machine afterwards. -/
  left : Machine

/-- The instructions for a random byte among executed ones. -/
def draws (executed : List Executed) : List Executed :=
  executed.filter fun done => done.operation = .random

theorem draws_cons_of_random {done : Executed} (random : done.operation = .random)
    (rest : List Executed) : draws (done :: rest) = done :: draws rest := by
  apply List.filter_cons_of_pos
  exact decide_eq_true random

theorem draws_cons_of_other {done : Executed} (other : done.operation ≠ .random)
    (rest : List Executed) : draws (done :: rest) = draws rest := by
  apply List.filter_cons_of_neg
  simpa using other

namespace Machine

/-- The instruction that a step executes, if it meets no fault of the machine. One that is
executed and then cannot be reported is among them. -/
def executedByStep (machine : Machine) : List Executed :=
  match machine.step.result, decode machine.nextWord with
  | .ok _, some operation | .error (.unwritable _), some operation =>
    [⟨operation, machine.nextWord, machine.step.machine⟩]
  | _, _ => []

/-- The instruction that is executed because the host tells its operation by a code. -/
def executedByCode (machine : Machine) (code : Int) (word : Word) : List Executed :=
  match (machine.execCode code word).result, Operation.ofCode? code with
  | .ok _, some operation => [⟨operation, word, (machine.execCode code word).machine⟩]
  | _, _ => []

/-- The instructions that an action of a host makes the machine execute. -/
def executedBy (action : HostAction) (machine : Machine) : List Executed :=
  match action with
  | .command .step => machine.executedByStep
  | .command (.run limit pace) => (machine.trail limit pace).flatMap executedByStep
  | .command (.exec code word) => machine.executedByCode code word
  | _ => []

/-- The instructions that a machine executes over a history of actions. -/
def executedByAll (machine : Machine) : List HostAction → List Executed
  | [] => []
  | action :: rest =>
    executedBy action machine ++ executedByAll (act action machine).machine rest

end Machine

/-! ## Streams that feed instructions -/

/-- A stream feeds executed instructions: each random byte among them is the next of the stream,
and what is left of the stream is left by the last. -/
inductive Feeds : Twister → List Executed → Twister → Prop
  | none (stream : Twister) : Feeds stream [] stream
  | draw {stream left : Twister} {done : Executed} {rest : List Executed}
    (random : done.operation = .random)
    (value : done.left.registers.get done.word.x = stream.nextByte.1 &&& done.word.immediate)
    (more : Feeds stream.nextByte.2 rest left) : Feeds stream (done :: rest) left
  | pass {stream left : Twister} {done : Executed} {rest : List Executed}
    (other : done.operation ≠ .random) (more : Feeds stream rest left) :
    Feeds stream (done :: rest) left

namespace Feeds

variable {stream left : Twister} {executed : List Executed}

theorem append {between : Twister} {more : List Executed} (feeds : Feeds stream executed between)
    (feeds_more : Feeds between more left) : Feeds stream (executed ++ more) left := by
  induction feeds with
  | none => exact feeds_more
  | draw random value _ ih => exact .draw random value (ih feeds_more)
  | pass other _ ih => exact .pass other (ih feeds_more)

theorem of_eq (same : left = stream) : Feeds stream [] left := by
  rw [same]
  exact .none stream

variable (feeds : Feeds stream executed left)

include feeds

/-- The stream goes on by one byte for each instruction that draws one. -/
theorem left_eq : left = stream.afterBytes (draws executed).length := by
  induction feeds with
  | none => rfl
  | draw random _ _ ih =>
    rw [draws_cons_of_random random, List.length_cons]
    exact ih
  | pass other _ ih =>
    rw [draws_cons_of_other other]
    exact ih

/-- The instruction that draws after so many others puts the byte of this number into its
register, masked. -/
theorem value_eq {drawn : Nat} {done : Executed} (found : (draws executed)[drawn]? = some done) :
    done.left.registers.get done.word.x = stream.byteNumber drawn &&& done.word.immediate := by
  induction feeds generalizing drawn with
  | none => cases found
  | draw random value _ ih =>
    rw [draws_cons_of_random random] at found
    cases drawn with
    | zero =>
      cases found
      exact value
    | succ drawn => exact ih found
  | pass other _ ih =>
    rw [draws_cons_of_other other] at found
    exact ih found

end Feeds

namespace Machine

variable {machine : Machine} {operation : Operation} {word : Word}

/-! ## One instruction -/

theorem random_exec (other : operation ≠ .random) :
    (exec operation word machine).machine.random = machine.random := by
  have unwritten : Part.random ∉ operation.writes := by
    cases operation with
    | random => exact absurd rfl other
    | _ => decide
  exact same_exec machine word unwritten

theorem drawByte_feeds (machine : Machine) (register : Fin 16) (mask : Byte) :
    (machine.drawByte register mask).machine.registers.get register =
        machine.random.nextByte.1 &&& mask ∧
      (machine.drawByte register mask).machine.random = machine.random.nextByte.2 := by
  rw [drawByte]
  rcases machine.random.nextByte with ⟨byte, rest⟩
  refine ⟨?_, rfl⟩
  exact Vector.getElem_set_self register.isLt

/-- One executed instruction is fed by the stream that it finds. -/
theorem feeds_exec (machine : Machine) {left : Machine}
    (registers : left.registers = (exec operation word machine).machine.registers)
    (random : left.random = (exec operation word machine).machine.random) :
    Feeds machine.random [⟨operation, word, left⟩] left.random := by
  by_cases drawing : operation = .random
  · subst drawing
    obtain ⟨value, rest⟩ := drawByte_feeds machine word.x word.immediate
    have drawn : left.registers.get word.x = machine.random.nextByte.1 &&& word.immediate := by
      rw [registers]
      exact value
    have gone_on : left.random = machine.random.nextByte.2 := random.trans rest
    rw [gone_on]
    exact .draw rfl drawn (.none machine.random.nextByte.2)
  · rw [random, random_exec drawing]
    exact .pass drawing (.none machine.random)

theorem feeds_execCode (machine : Machine) (code : Int) (word : Word) :
    Feeds machine.random (machine.executedByCode code word)
      (machine.execCode code word).machine.random := by
  rw [executedByCode, execCode]
  cases Operation.ofCode? code with
  | none => exact .none machine.random
  | some operation =>
    cases result : (exec operation word machine).result with
    | error fault =>
      simp only
      rw [atomic_exec machine word fault result]
      exact .none machine.random
    | ok status =>
      simp only
      exact feeds_exec machine rfl rfl

/-- An instruction for a random byte is executed whenever the host tells it by its code. -/
theorem executedByCode_random (machine : Machine) (word : Word) :
    machine.executedByCode Operation.random.code.toNat word =
      [⟨.random, word, (machine.execCode Operation.random.code.toNat word).machine⟩] := by
  rw [executedByCode, execCode, Operation.ofCode?_code]
  rfl

theorem random_step_of_machineFault {fault : Fault} (failed : machine.step.result = .error fault)
    (machineFault : fault.isMachineFault = true) :
    machine.step.machine.random = machine.random := by
  rcases step_beginnings machine with past | ⟨inside, unknown⟩ | ⟨operation, next⟩
  · rw [step_of_past machine past]
    rfl
  · rw [step_of_unknown machine inside unknown]
    rfl
  · rw [machine_step_of_machineFault next failed machineFault]
    rfl

theorem executedByStep_of_machineFault {fault : Fault}
    (failed : machine.step.result = .error fault) (machineFault : fault.isMachineFault = true) :
    machine.executedByStep = [] := by
  rw [executedByStep, failed]
  cases fault with
  | unwritable => cases machineFault
  | _ => rfl

theorem executedByStep_of_done (next : machine.Next operation) {status : Status}
    (done : (exec operation machine.nextWord machine.movedOn).result = .ok status) :
    machine.executedByStep = [⟨operation, machine.nextWord, machine.step.machine⟩] := by
  rw [executedByStep, next.decoded, result_step_of_done next done, stepAnswer]
  by_cases reportable : machine.Reportable
  · rw [if_pos reportable]
  · rw [if_neg reportable]

theorem feeds_step_of_done (next : machine.Next operation) {status : Status}
    (done : (exec operation machine.nextWord machine.movedOn).result = .ok status) :
    Feeds machine.random machine.executedByStep machine.step.machine.random := by
  have left := machine_step_of_done next done
  have registers : machine.step.machine.registers =
      (exec operation machine.nextWord machine.movedOn).machine.registers := by
    rw [left]
    rfl
  have random : machine.step.machine.random =
      (exec operation machine.nextWord machine.movedOn).machine.random := by
    rw [left]
    rfl
  rw [executedByStep_of_done next done]
  exact feeds_exec machine.movedOn registers random

/-- A step that meets a fault of the machine executes nothing, and any other one instruction. -/
theorem feeds_step (machine : Machine) :
    Feeds machine.random machine.executedByStep machine.step.machine.random := by
  cases result : machine.step.result with
  | error fault =>
    cases machineFault : fault.isMachineFault with
    | true =>
      rw [executedByStep_of_machineFault result machineFault,
        random_step_of_machineFault result machineFault]
      exact .none machine.random
    | false =>
      obtain ⟨operation, status, next, done⟩ := (unreported_of_error result machineFault).1.done
      exact feeds_step_of_done next done
  | ok status =>
    obtain ⟨operation, next⟩ := exists_next result
    exact feeds_step_of_done next ((result_step_ok_iff next).mp result).2

/-! ## Runs and histories -/

theorem feeds_run (machine : Machine) (limit : Int) (pace : Pace) :
    Feeds machine.random ((machine.trail limit pace).flatMap executedByStep)
      (machine.run limit pace).machine.random := by
  induction machine using run_induction limit pace with
  | reached machine reached =>
    rw [trail_of_limit_le reached, run_of_limit_le reached]
    exact .none machine.random
  | pauses machine below here =>
    rw [trail_of_pause below here, run_of_pause below here]
    exact .none machine.random
  | ends machine begins ended =>
    have stepped := feeds_step machine
    rw [← (alike_turn machine pace.stepsPerTimerTick).random nofun] at stepped
    rw [trail_of_turn_ended begins ended, List.flatMap_singleton,
      machine_run_of_turn_ended begins ended]
    exact stepped
  | goesOn machine begins on ih =>
    have stepped := feeds_step machine
    rw [← (alike_turn machine pace.stepsPerTimerTick).random nofun] at stepped
    rw [trail_of_turn_on begins on, List.flatMap_cons, run_of_turn_on begins on]
    exact stepped.append ih

theorem random_takeMemory (machine : Machine) (memory : Except Fault Memory) :
    (machine.takeMemory memory).machine.random = machine.random := by
  rw [machine_takeMemory]

/-- Whatever a host does, the stream feeds the instructions that it makes the machine execute. -/
theorem feeds_act (action : HostAction) (machine : Machine) :
    Feeds machine.random (executedBy action machine) (act action machine).machine.random := by
  cases action with
  | assign assignment =>
    cases assignment with
    | _ => exact .none machine.random
  | command command =>
    cases command with
    | step => exact feeds_step machine
    | run limit pace => exact feeds_run machine limit pace
    | exec code word => exact feeds_execCode machine code word
    | setKey key pressed =>
      have kept : (machine.setKey key pressed).machine.random = machine.random := by
        rw [machine_setKey]
      exact .of_eq kept
    | load program =>
      have kept : (machine.load program).machine.random = machine.random := by
        rw [machine_load]
      exact .of_eq kept
    | push value =>
      have kept : (machine.push value).machine.random = machine.random := by
        rw [machine_push]
      exact .of_eq kept
    | pop =>
      have kept : machine.pop.machine.random = machine.random := by
        rw [machine_pop]
      exact .of_eq kept
    | writeByte | writeBlock => exact .of_eq (random_takeMemory machine _)
    | _ => exact .none machine.random

/-- The words of instructions for random bytes are executed in the order of the host's calls. -/
theorem words_executedByAll_random (machine : Machine) (words : List Word) :
    (draws (machine.executedByAll (words.map fun word =>
      .command (.exec Operation.random.code.toNat word)))).map Executed.word = words := by
  induction words generalizing machine with
  | nil => rfl
  | cons word rest ih =>
    rw [List.map_cons, executedByAll, executedBy, executedByCode_random, List.singleton_append,
      draws_cons_of_random rfl, List.map_cons, ih]

theorem feeds_afterAll (machine : Machine) (actions : List HostAction) :
    Feeds machine.random (machine.executedByAll actions) (machine.afterAll actions).random := by
  induction actions generalizing machine with
  | nil => exact .none machine.random
  | cons action rest ih => exact (feeds_act action machine).append (ih (act action machine).machine)

end Machine

/-- Random bytes are drawn one for each instruction that draws one, in the order in which the
instructions are executed, from a stream that only the seed decides. Whatever a host does with a
machine from the time it is built, the instruction that draws after so many others puts the byte
of this number into its register, masked; nothing else and no fault of the machine takes any of
the stream. A byte is the nine leading bits of the first word in which they are one. -/
theorem random_stream_is_drawn_in_order (settings : Settings) (seed : Int) (program : List Byte)
    (actions : List HostAction) :
    let stream := Twister.ofSeed seed
    let built := (Machine.build settings stream program).machine
    let drawing := draws (built.executedByAll actions)
    (∀ (drawn : Nat) (done : Executed), drawing[drawn]? = some done →
      done.left.registers.get done.word.x = stream.byteNumber drawn &&& done.word.immediate) ∧
    (built.afterAll actions).random = stream.afterBytes drawing.length ∧
    (∀ (machine : Machine) (action : HostAction),
      (∀ done ∈ Machine.executedBy action machine, done.operation ≠ .random) →
      (Machine.act action machine).machine.random = machine.random) ∧
    (∀ (machine : Machine) (fault : Fault), machine.step.result = .error fault →
      fault.isMachineFault = true → machine.step.machine.random = machine.random) ∧
    Twister.ofSeed seed.natAbs = stream ∧
    ∀ drawn : Nat, ∃ skipped : Nat,
      let twister := stream.afterBytes drawn
      (∀ earlier < skipped, 256 ≤ Twister.leading (twister.wordNumber earlier)) ∧
      Twister.leading (twister.wordNumber skipped) < 256 ∧
      stream.byteNumber drawn = UInt8.ofNat (Twister.leading (twister.wordNumber skipped)) ∧
      stream.afterBytes (drawn + 1) = twister.afterWords (skipped + 1) := by
  intro stream built drawing
  have fed : Feeds stream (built.executedByAll actions) (built.afterAll actions).random := by
    have feeds := Machine.feeds_afterAll built actions
    rw [(Machine.new_build settings stream program).1] at feeds
    exact feeds
  refine ⟨fun drawn done => fed.value_eq, fed.left_eq, ?_, ?_, Twister.ofSeed_natAbs seed, ?_⟩
  · intro machine action others
    have none_drawn : draws (Machine.executedBy action machine) = [] := by
      apply List.filter_eq_nil_iff.mpr
      intro done member
      simpa using others done member
    have left := (Machine.feeds_act action machine).left_eq
    rw [none_drawn] at left
    exact left
  · intro machine fault failed machineFault
    exact Machine.random_step_of_machineFault failed machineFault
  · intro drawn
    have begun := (Twister.isBegun_ofSeed seed).afterBytes drawn
    obtain ⟨skipped, ⟨passed, taken⟩, next⟩ := Twister.nextByte_eq begun
    refine ⟨skipped, passed, taken, congrArg Prod.fst next, ?_⟩
    rw [Twister.afterBytes_succ]
    exact congrArg Prod.snd next

/-- From the seed zero, three random bytes under two masks. The words before the first and those
before the second begin with a set bit and are passed over. -/
theorem random_stream_is_drawn_in_order_from_seed_zero :
    let stream := Twister.ofSeed 0
    let built := (Machine.build {} stream []).machine
    let draw (word : Word) := HostAction.command (.exec Operation.random.code.toNat word)
    let drawing := draws (built.executedByAll [draw 0xC0FF, draw 0xC1FF, draw 0xC20F])
    drawing.map (fun done => done.left.registers.get done.word.x) = [197, 215, 4] := by
  intro stream built draw drawing
  have words : drawing.map Executed.word = [0xC0FF, 0xC1FF, 0xC20F] :=
    Machine.words_executedByAll_random built [0xC0FF, 0xC1FF, 0xC20F]
  obtain ⟨values, _⟩ :=
    random_stream_is_drawn_in_order {} 0 [] [draw 0xC0FF, draw 0xC1FF, draw 0xC20F]
  have masked : drawing.map (fun done => done.left.registers.get done.word.x) =
      (drawing.map Executed.word).mapIdx fun drawn word =>
        stream.byteNumber drawn &&& word.immediate := by
    apply List.ext_getElem?
    intro drawn
    rw [List.getElem?_map, List.getElem?_mapIdx, List.getElem?_map]
    cases found : drawing[drawn]? with
    | none => rfl
    | some done => exact congrArg some (values drawn done found)
  have first : stream.byteNumber 0 = 197 := Twister.byteNumber_ofSeed_zero rfl
  have second : stream.byteNumber 1 = 215 := Twister.byteNumber_ofSeed_zero rfl
  have third : stream.byteNumber 2 = 20 := Twister.byteNumber_ofSeed_zero rfl
  rw [masked, words, List.mapIdx_cons, List.mapIdx_cons, List.mapIdx_cons, List.mapIdx_nil,
    first, second, third]
  decide

end Chip8
