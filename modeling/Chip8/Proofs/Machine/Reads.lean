/-
# What operations read

Besides the registers and its place in the program a machine holds things that only few
operations look at: the timers, the keys, the random stream, the settings, the note of the
last operation, and the memory behind the instruction. `Input` names them, and
`Operation.Consults` tells which operation looks at which. A left shift looks at its setting
only where the two bits that the setting chooses between differ.

Two machines are alike but for an input if they are equal once it is put to a fixed value in
both. The main statements are that an operation which does not look at the input answers and
reports the same on both and leaves machines alike again, and that the same is true of a step,
as long as the input is not the memory that the instruction itself is fetched from.
-/

import Chip8.Machine.Command
import Chip8.Proofs.Machine.Step

namespace Chip8

/-- Something in a machine that only some operations look at. -/
inductive Input where
  /-- Both timers. -/
  | timers
  /-- The held keys. -/
  | keys
  /-- The random stream. -/
  | random
  /-- The bit that is the flag of a left shift. -/
  | shiftFlag
  /-- Whether a reset puts the font into memory. -/
  | loadFont
  /-- Whether steps are reported. -/
  | quiet
  /-- The operation done last. -/
  | note
  /-- The memory cells. -/
  | memory
  deriving DecidableEq

/-- The input belongs to the host: no operation changes it. -/
def Input.IsHosted : Input → Prop
  | .keys | .shiftFlag | .loadFont | .quiet | .note => True
  | .timers | .random | .memory => False

/-- The operations that look at an input. -/
def Operation.Consults (registers : Vector Byte 16) (word : Word) : Operation → Input → Prop
  | .readDelay, .timers => True
  | .skipIfHeld, .keys | .skipUnlessHeld, .keys | .awaitKey, .keys => True
  | .random, .random => True
  | .shiftLeft, .shiftFlag =>
    (registers.get word.x).toNat.testBit 0 ≠ (registers.get word.x).toNat.testBit 7
  | .loadRegisters, .memory | .draw, .memory => True
  | _, _ => False

/-- The machine with an input put to a fixed value. -/
def Machine.without (machine : Machine) : Input → Machine
  | .timers => { machine with delay := 0, sound := 0 }
  | .keys => { machine with keypad := .released }
  | .random => { machine with random := ⟨Vector.replicate 624 0, 0⟩ }
  | .shiftFlag =>
    { machine with settings := { machine.settings with shiftFlagFromLowBit := false } }
  | .loadFont => { machine with settings := { machine.settings with loadFont := false } }
  | .quiet => { machine with settings := { machine.settings with quiet := true } }
  | .note => { machine with last := none }
  | .memory => { machine with memory := .zero }

/-- The outcome with an input of its machine put to a fixed value. -/
def Outcome.without {α : Type} (outcome : Outcome α) (input : Input) : Outcome α :=
  { outcome with machine := outcome.machine.without input }

@[simp] theorem Machine.without_without (machine : Machine) (input : Input) :
    (machine.without input).without input = machine.without input := by
  cases input with
  | _ => rfl

theorem Outcome.without_without {α : Type} (outcome : Outcome α) (input : Input) :
    (outcome.without input).without input = outcome.without input := by
  rw [without, without, Machine.without_without]

namespace Machine

section Operations

variable (machine : Machine) (input : Input)

@[simp] theorem index_without : (machine.without input).index = machine.index := by
  cases input with
  | _ => rfl

@[simp] theorem counter_without : (machine.without input).counter = machine.counter := by
  cases input with
  | _ => rfl

@[simp] theorem registers_without : (machine.without input).registers = machine.registers := by
  cases input with
  | _ => rfl

@[simp] theorem screen_without : (machine.without input).screen = machine.screen := by
  cases input with
  | _ => rfl

@[simp] theorem stack_without : (machine.without input).stack = machine.stack := by
  cases input with
  | _ => rfl

variable {input}

theorem keypad_without (apart : input ≠ .keys) :
    (machine.without input).keypad = machine.keypad := by
  cases input with
  | keys => exact absurd rfl apart
  | _ => rfl

theorem random_without (apart : input ≠ .random) :
    (machine.without input).random = machine.random := by
  cases input with
  | random => exact absurd rfl apart
  | _ => rfl

theorem memory_without (apart : input ≠ .memory) :
    (machine.without input).memory = machine.memory := by
  cases input with
  | memory => exact absurd rfl apart
  | _ => rfl

/-! ## Building blocks -/

variable (input)

theorem skipIf_without (condition : Bool) :
    (machine.without input).skipIf condition = (machine.skipIf condition).without input := by
  cases condition with
  | false => rfl
  | true =>
    cases input with
    | _ => rfl

theorem goBack_without : (machine.without input).goBack = machine.goBack.without input := by
  rw [goBack, goBack, stack_without]
  rcases machine.stack.pop with fault | ⟨target, stack⟩
  · rfl
  · cases input with
    | _ => rfl

theorem goAndRemember_without (target : Word) :
    (machine.without input).goAndRemember target =
      (machine.goAndRemember target).without input := by
  rw [goAndRemember, goAndRemember, stack_without, counter_without]
  cases machine.stack.push machine.counter.toNat with
  | error fault => rfl
  | ok stack =>
    cases input with
    | _ => rfl

/-- Whether a block fits does not depend on what is in memory. -/
theorem storeAtIndex_without (bytes : List Byte) :
    ((machine.without input).storeAtIndex bytes).without input =
      (machine.storeAtIndex bytes).without input := by
  rw [storeAtIndex, storeAtIndex, index_without, Memory.writeBlock, Memory.writeBlock]
  by_cases inside : InMemory machine.index.toNat bytes.length
  · rw [if_pos inside, if_pos inside]
    cases input with
    | _ => rfl
  · rw [if_neg inside, if_neg inside]
    cases input with
    | _ => rfl

variable {input}

theorem takeKey_without (apart : input ≠ .keys) (register : Fin 16) :
    (machine.without input).takeKey register = (machine.takeKey register).without input := by
  rw [takeKey, takeKey, keypad_without machine apart]
  cases machine.keypad.lowest? with
  | _ =>
    cases input with
    | keys => exact absurd rfl apart
    | _ => rfl

theorem drawByte_without (apart : input ≠ .random) (register : Fin 16) (mask : Byte) :
    (machine.without input).drawByte register mask =
      (machine.drawByte register mask).without input := by
  rw [drawByte, drawByte, random_without machine apart]
  rcases machine.random.nextByte with ⟨byte, rest⟩
  cases input with
  | random => exact absurd rfl apart
  | _ => rfl

theorem loadAtIndex_without (apart : input ≠ .memory) (count : Nat) :
    (machine.without input).loadAtIndex count = (machine.loadAtIndex count).without input := by
  rw [loadAtIndex, loadAtIndex, memory_without machine apart, index_without, registers_without]
  cases machine.memory.readBlock machine.index.toNat count with
  | error fault => rfl
  | ok bytes =>
    simp only
    -- what is loaded is the same on both sides and need not be computed
    generalize replaceFirst machine.registers bytes = registers
    cases input with
    | memory => exact absurd rfl apart
    | _ => rfl

theorem drawSprite_without (apart : input ≠ .memory) (x y : Byte) (rows : Nat) :
    (machine.without input).drawSprite x y rows =
      (machine.drawSprite x y rows).without input := by
  rw [drawSprite, drawSprite, memory_without machine apart, index_without, registers_without,
    screen_without]
  cases machine.memory.readBlock machine.index.toNat rows with
  | error fault => rfl
  | ok sprite =>
    simp only
    generalize machine.screen.blit _ x.toNat y.toNat sprite = drawing
    cases input with
    | memory => exact absurd rfl apart
    | _ => rfl

/-- The flag of a left shift is the same for both bits where they are the same. -/
theorem lowBit_eq_highBit {value : Byte}
    (same : value.toNat.testBit 0 = value.toNat.testBit 7) : value % 2 = value / 128 := by
  have bound := value.toNat_lt
  rw [Nat.testBit_eq_decide_div_mod_eq, Nat.testBit_eq_decide_div_mod_eq] at same
  apply UInt8.toNat_inj.mp
  rw [UInt8.toNat_mod, UInt8.toNat_div]
  simp only [decide_eq_decide] at same
  show value.toNat % 2 = value.toNat / 128
  omega

/-- An operation that does not look at an input does the same without it. -/
theorem exec_without {operation : Operation} {word : Word}
    (unread : ¬ operation.Consults machine.registers word input) :
    (exec operation word (machine.without input)).without input =
      (exec operation word machine).without input := by
  have plain (same : exec operation word (machine.without input) =
      (exec operation word machine).without input) :
      (exec operation word (machine.without input)).without input =
        (exec operation word machine).without input := by
    rw [same, Outcome.without_without]
  cases operation with
  | ret => exact plain (goBack_without machine input)
  | call => exact plain (goAndRemember_without machine input word.address)
  | storeDigits | storeRegisters =>
    rw [exec, exec, registers_without]
    exact storeAtIndex_without machine input _
  | loadRegisters =>
    have apart : input ≠ .memory := by
      rintro rfl
      exact unread trivial
    exact plain (loadAtIndex_without machine apart _)
  | draw =>
    have apart : input ≠ .memory := by
      rintro rfl
      exact unread trivial
    apply plain
    rw [exec, exec, registers_without]
    exact drawSprite_without machine apart _ _ _
  | random =>
    have apart : input ≠ .random := by
      rintro rfl
      exact unread trivial
    exact plain (drawByte_without machine apart _ _)
  | awaitKey =>
    have apart : input ≠ .keys := by
      rintro rfl
      exact unread trivial
    exact plain (takeKey_without machine apart _)
  | skipIfHeld | skipUnlessHeld =>
    have apart : input ≠ .keys := by
      rintro rfl
      exact unread trivial
    apply plain
    rw [exec, exec, registers_without, keypad_without machine apart, skipIf_without]
    rfl
  | skipIfByte | skipUnlessByte | skipIfSame | skipUnlessSame =>
    apply plain
    rw [exec, exec, registers_without, skipIf_without]
    rfl
  | shiftLeft =>
    cases input with
    | shiftFlag =>
      have same : machine.registers[word.x] % 2 = machine.registers[word.x] / 128 :=
        lowBit_eq_highBit (Classical.not_not.mp unread)
      apply plain
      simp only [exec, registers_without, same, ite_self]
      rfl
    | _ => rfl
  | readDelay =>
    cases input with
    | timers => exact absurd trivial unread
    | _ => rfl
  | _ =>
    cases input with
    | _ => rfl

/-! ## What belongs to the host -/

/-- An input of the host that was put to a fixed value has it for good. -/
theorem without_of_hostPart (hosted : input.IsHosted)
    {after : Machine} (kept : after.hostPart = (machine.without input).hostPart) :
    after.without input = after := by
  have keypad := congrArg HostPart.keypad kept
  have settings := congrArg HostPart.settings kept
  have last := congrArg HostPart.last kept
  rcases after with ⟨⟩
  cases input with
  | keys =>
    cases keypad
    rfl
  | shiftFlag | loadFont | quiet =>
    cases settings
    rfl
  | note =>
    cases last
    rfl
  | timers | random | memory => exact hosted.elim

variable (input)

/-- An operation that does not look at an input of the host leaves it as it is. -/
theorem exec_without_of_isHosted (hosted : input.IsHosted) {operation : Operation} {word : Word}
    (unread : ¬ operation.Consults machine.registers word input) :
    exec operation word (machine.without input) =
      (exec operation word machine).without input := by
  have kept : (exec operation word (machine.without input)).machine.hostPart =
      (machine.without input).hostPart := hostPart_exec (machine.without input) word
  have same := exec_without machine unread
  rw [Outcome.without, without_of_hostPart machine hosted kept] at same
  exact same

theorem setKey_without (apart : input ≠ .keys) (key : Int) (pressed : Bool) :
    (machine.without input).setKey key pressed = (machine.setKey key pressed).without input := by
  rw [setKey, setKey, keypad_without machine apart]
  cases machine.keypad.put key pressed with
  | _ =>
    cases input with
    | keys => exact absurd rfl apart
    | _ => rfl

theorem load_without (apart : input ≠ .memory) (program : List Byte) :
    (machine.without input).load program = (machine.load program).without input := by
  rw [load, load]
  by_cases fits : program.length ≤ programLimit
  · rw [if_pos fits, if_pos fits]
    cases input with
    | memory => exact absurd rfl apart
    | _ => rfl
  · rw [if_neg fits, if_neg fits]
    rfl

theorem push_without (value : Int) :
    (machine.without input).push value = (machine.push value).without input := by
  rw [push, push, stack_without]
  cases machine.stack.push value with
  | error fault => rfl
  | ok stack =>
    cases input with
    | _ => rfl

theorem pop_without : (machine.without input).pop = machine.pop.without input := by
  rw [pop, pop, stack_without]
  rcases machine.stack.pop with fault | ⟨value, stack⟩
  · rfl
  · cases input with
    | _ => rfl

end Operations

/-! ## Machines that are alike -/

/-- The next step looks at an input. -/
def Consults (machine : Machine) (input : Input) : Prop :=
  ∃ operation, machine.Next operation ∧
    operation.Consults machine.registers machine.nextWord input

section Consults

variable {machine : Machine}

theorem consults_timers_iff : machine.Consults .timers ↔ machine.Next .readDelay := by
  constructor
  · rintro ⟨operation, next, reads⟩
    cases operation with
    | readDelay => exact next
    | _ => exact reads.elim
  · intro next
    exact ⟨.readDelay, next, trivial⟩

theorem consults_keys_iff : machine.Consults .keys ↔
    machine.Next .skipIfHeld ∨ machine.Next .skipUnlessHeld ∨ machine.Next .awaitKey := by
  constructor
  · rintro ⟨operation, next, reads⟩
    cases operation with
    | skipIfHeld => exact .inl next
    | skipUnlessHeld => exact .inr (.inl next)
    | awaitKey => exact .inr (.inr next)
    | _ => exact reads.elim
  · rintro (next | next | next)
    · exact ⟨.skipIfHeld, next, trivial⟩
    · exact ⟨.skipUnlessHeld, next, trivial⟩
    · exact ⟨.awaitKey, next, trivial⟩

theorem consults_random_iff : machine.Consults .random ↔ machine.Next .random := by
  constructor
  · rintro ⟨operation, next, reads⟩
    cases operation with
    | random => exact next
    | _ => exact reads.elim
  · intro next
    exact ⟨.random, next, trivial⟩

theorem consults_shiftFlag_iff : machine.Consults .shiftFlag ↔
    machine.Next .shiftLeft ∧
      let operand := (machine.registers.get machine.nextWord.x).toNat
      operand.testBit 0 ≠ operand.testBit 7 := by
  constructor
  · rintro ⟨operation, next, reads⟩
    cases operation with
    | shiftLeft => exact ⟨next, reads⟩
    | _ => exact reads.elim
  · rintro ⟨next, reads⟩
    exact ⟨.shiftLeft, next, reads⟩

theorem not_consults_loadFont : ¬ machine.Consults .loadFont := by
  rintro ⟨operation, _, reads⟩
  cases operation with
  | _ => exact reads.elim

end Consults

/-- Two machines are equal but for an input. -/
def Alike (input : Input) (first second : Machine) : Prop :=
  second.without input = first.without input

namespace Alike

theorem refl (input : Input) (machine : Machine) : Alike input machine machine :=
  rfl

variable {input : Input} {first second : Machine} (alike : Alike input first second)

include alike

theorem registers : second.registers = first.registers := by
  rw [← registers_without second input, alike, registers_without]

theorem counter : second.counter = first.counter := by
  rw [← counter_without second input, alike, counter_without]

theorem memory (apart : input ≠ .memory) : second.memory = first.memory := by
  rw [← memory_without second apart, alike, memory_without first apart]

theorem random (apart : input ≠ .random) : second.random = first.random := by
  rw [← random_without second apart, alike, random_without first apart]

theorem index : second.index = first.index := by
  rw [← index_without second input, alike, index_without]

theorem stack : second.stack = first.stack := by
  rw [← stack_without second input, alike, stack_without]

theorem screen : second.screen = first.screen := by
  rw [← screen_without second input, alike, screen_without]

theorem tick : second.tick = first.tick := by
  have same := congrArg Machine.tick alike
  cases input with
  | _ => exact same

theorem last (apart : input ≠ .note) : second.last = first.last := by
  have same := congrArg Machine.last alike
  cases input with
  | note => exact absurd rfl apart
  | _ => exact same

/-- A change that looks at no input keeps machines alike. -/
theorem map (change : Machine → Machine)
    (plain : ∀ machine : Machine,
      (change (machine.without input)).without input = (change machine).without input) :
    Alike input (change first) (change second) := by
  rw [Alike, ← plain second, alike, plain first]

theorem samePlace (apart : input ≠ .memory) : first.SamePlace second :=
  ⟨alike.memory apart, alike.counter⟩

theorem movedOn : Alike input first.movedOn second.movedOn := by
  apply alike.map Machine.movedOn
  intro machine
  cases input with
  | _ => rfl

theorem advance (operation : Operation) :
    Alike input (first.advance operation) (second.advance operation) := by
  apply alike.map fun machine => machine.advance operation
  intro machine
  cases input with
  | _ => rfl

theorem tickTimers : Alike input first.tickTimers.machine second.tickTimers.machine := by
  apply alike.map fun machine => machine.tickTimers.machine
  intro machine
  cases input with
  | _ => rfl

/-- An operation that does not look at the input does the same on both machines. -/
theorem exec {operation : Operation} {word : Word}
    (unread : ¬ operation.Consults first.registers word input) :
    (exec operation word second).without input = (exec operation word first).without input := by
  have unread_second : ¬ operation.Consults second.registers word input := by
    rw [alike.registers]
    exact unread
  rw [← exec_without second unread_second, alike, exec_without first unread]

/-! ## Steps -/

theorem reportable_iff (apart : input ≠ .quiet) : second.Reportable ↔ first.Reportable := by
  have quiet : second.settings.quiet = first.settings.quiet := by
    have same := congrArg (fun machine => machine.settings.quiet) alike
    cases input with
    | quiet => exact absurd rfl apart
    | _ => exact same
  rw [Reportable, Reportable, quiet, alike.tick]

section Exec

variable (word : first.counter.toNat ≤ 0xFFE → second.nextWord = first.nextWord)
  (done : ∀ operation, first.Next operation →
    (Machine.exec operation first.nextWord second.movedOn).without input =
      (Machine.exec operation first.nextWord first.movedOn).without input)

include word done

/-- The second machine does the operation that the first does, and it ends alike. -/
theorem next_of_exec {operation : Operation} (next : first.Next operation) :
    second.Next operation ∧
      (Machine.exec operation second.nextWord second.movedOn).result =
        (Machine.exec operation first.nextWord first.movedOn).result := by
  have same_word := word next.inside
  refine ⟨⟨alike.counter.symm ▸ next.inside, same_word.symm ▸ next.decoded⟩, ?_⟩
  rw [same_word]
  exact (congrArg Outcome.result (done operation next) :)

/-- Steps that do the same operation to the same end leave machines alike. -/
theorem machine_step_of_exec : Alike input first.step.machine second.step.machine := by
  have counter := alike.counter
  rcases step_beginnings first with past | ⟨inside, unknown⟩ | ⟨operation, next⟩
  · have past_too : 0xFFE < second.counter.toNat := counter.symm ▸ past
    rw [step_of_past first past, step_of_past second past_too]
    exact alike
  · have inside_too : second.counter.toNat ≤ 0xFFE := counter.symm ▸ inside
    have unknown_too : decode second.nextWord = none := (word inside).symm ▸ unknown
    rw [step_of_unknown first inside unknown, step_of_unknown second inside_too unknown_too]
    exact alike
  · obtain ⟨next_too, answer⟩ := alike.next_of_exec word done next
    cases result : (Machine.exec operation first.nextWord first.movedOn).result with
    | error fault =>
      rw [step_of_stopped next result, step_of_stopped next_too (answer.trans result)]
      exact alike.movedOn
    | ok status =>
      rw [machine_step_of_done next result, machine_step_of_done next_too (answer.trans result),
        word next.inside]
      have left : Alike input (Machine.exec operation first.nextWord first.movedOn).machine
          (Machine.exec operation first.nextWord second.movedOn).machine :=
        congrArg Outcome.machine (done operation next)
      exact left.advance operation

/-- If both can be reported they answer the same, and also if neither can. -/
theorem result_step_of_exec (reportable : second.Reportable ↔ first.Reportable) :
    second.step.result = first.step.result := by
  have counter := alike.counter
  rcases step_beginnings first with past | ⟨inside, unknown⟩ | ⟨operation, next⟩
  · have past_too : 0xFFE < second.counter.toNat := counter.symm ▸ past
    rw [step_of_past first past, step_of_past second past_too, counter]
    rfl
  · have inside_too : second.counter.toNat ≤ 0xFFE := counter.symm ▸ inside
    have unknown_too : decode second.nextWord = none := (word inside).symm ▸ unknown
    rw [step_of_unknown first inside unknown, step_of_unknown second inside_too unknown_too,
      word inside]
    rfl
  · obtain ⟨next_too, answer⟩ := alike.next_of_exec word done next
    cases result : (Machine.exec operation first.nextWord first.movedOn).result with
    | error fault =>
      rw [step_of_stopped next result, step_of_stopped next_too (answer.trans result)]
      rfl
    | ok status =>
      rw [result_step_of_done next result, result_step_of_done next_too (answer.trans result),
        stepAnswer, stepAnswer, alike.tick]
      simp only [reportable]

end Exec

/-- A step that does not look at the input leaves machines alike. -/
theorem machine_step (apart : input ≠ .memory) (unread : ¬ first.Consults input) :
    Alike input first.step.machine second.step.machine :=
  alike.machine_step_of_exec (fun _ => (alike.samePlace apart).nextWord) fun operation next =>
    alike.movedOn.exec fun reads => unread ⟨operation, next, reads⟩

/-- A step that does not look at the input answers the same on both machines. -/
theorem step (apart : input ≠ .memory) (loud : input ≠ .quiet) (unread : ¬ first.Consults input) :
    second.step.result = first.step.result ∧
      Alike input first.step.machine second.step.machine := by
  refine ⟨?_, alike.machine_step apart unread⟩
  apply alike.result_step_of_exec (fun _ => (alike.samePlace apart).nextWord)
  · exact fun operation next => alike.movedOn.exec fun reads => unread ⟨operation, next, reads⟩
  · exact alike.reportable_iff loud

end Alike

end Machine

end Chip8
