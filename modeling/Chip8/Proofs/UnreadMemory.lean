/-
# Memory that a run does not read

Memory that a run never reads cannot influence it. Two machines that agree outside some cells,
of which no step of the run reads any, come to the same answer and agree outside the cells
again; and of the cells themselves, those that are written on the way hold the same byte in
both. The cells that still may differ get fewer from step to step, and so the relation between
the two runs carries the set of those that are left.

The font is such memory for a program that reads none of it. Whether it is loaded is told by a
setting, and a machine keeps its settings. So there are two comparisons: with a machine that has
the setting but not the font, and from there to one without either, since no operation looks at
the setting.
-/

import Chip8.Proofs.Inputs
import Chip8.Proofs.Machine.UnreadCells
import Chip8.Yaml.Document

namespace Chip8

open Machine (Alike AgreeOutside Comparable)

namespace Machine

/-! ## Runs -/

/-- The cells of a set that a step does not write. -/
def unwritten (cells : Set Nat) (before : Machine) : Set Nat :=
  { address ∈ cells | ¬ before.WritesCell address }

theorem foldl_unwritten (cells : Set Nat) (steps : List Machine) :
    steps.foldl unwritten cells =
      { address ∈ cells | ∀ before ∈ steps, ¬ before.WritesCell address } := by
  induction steps generalizing cells with
  | nil =>
    ext address
    simp
  | cons before rest ih =>
    rw [List.foldl_cons, ih]
    ext address
    simp only [unwritten, Set.mem_ofPred_eq, List.mem_cons, forall_eq_or_imp, and_assoc]

namespace AgreeOutside

variable {hidden : Set Nat} {first second : Machine}

theorem turn (ratio : Int) (agree : AgreeOutside hidden first second)
    (unread : ∀ address ∈ hidden, ¬ first.ReadsCell address) :
    (second.turn ratio).result = (first.turn ratio).result ∧
      AgreeOutside (unwritten hidden first) (first.turn ratio).machine
        (second.turn ratio).machine := by
  obtain ⟨answer, stepped⟩ := agree.step unread
  obtain ⟨result, left⟩ := agree.alike.turn_of_step (.inl rfl) answer stepped.alike nofun
  refine ⟨result, left, ?_⟩
  intro address outside
  rw [(alike_turn first ratio).memory nofun, (alike_turn second ratio).memory nofun]
  exact stepped.bytes address outside

/-- A run on whose way no step reads a hidden cell answers the same on both machines, and
afterwards they agree outside the hidden cells that no step has written. -/
theorem run {limit : Int} {pace : Pace} (agree : AgreeOutside hidden first second)
    (unread : ∀ before ∈ first.trail limit pace, ∀ address ∈ hidden,
      ¬ before.ReadsCell address) :
    (second.run limit pace).result = (first.run limit pace).result ∧
      AgreeOutside
        { address ∈ hidden | ∀ before ∈ first.trail limit pace, ¬ before.WritesCell address }
        (first.run limit pace).machine (second.run limit pace).machine := by
  -- the cells that are left to differ are always among those that the run does not read
  let related (left : Set Nat) (first second : Machine) : Prop :=
    left ⊆ hidden ∧ AgreeOutside left first second
  have turns {left : Set Nat} {before other : Machine} (both : related left before other)
      (unread : ∀ address ∈ hidden, ¬ before.ReadsCell address) :
      (other.turn pace.stepsPerTimerTick).result = (before.turn pace.stepsPerTimerTick).result ∧
        related (unwritten left before) (before.turn pace.stepsPerTimerTick).machine
          (other.turn pace.stepsPerTimerTick).machine := by
    obtain ⟨within, agree⟩ := both
    obtain ⟨result, after⟩ := agree.turn pace.stepsPerTimerTick fun address member =>
      unread address (within member)
    exact ⟨result, fun address member => within member.1, after⟩
  have runs := run_pair related unwritten hidden rfl (fun both => both.2.alike.tick) turns
    ⟨subset_rfl, agree⟩ unread
  rw [foldl_unwritten] at runs
  exact ⟨runs.1, runs.2.2⟩

end AgreeOutside

/-! ## Machines with the font and without -/

theorem AgreeOutside.load {hidden : Set Nat} {first second : Machine}
    (agree : AgreeOutside hidden first second) (program : List Byte) :
    AgreeOutside hidden (first.load program).machine (second.load program).machine := by
  by_cases fits : program.length ≤ programLimit
  · rw [Machine.load, Machine.load, if_pos fits, if_pos fits]
    have remembered : Alike .memory { first with program := program }
        { second with program := program } :=
      agree.alike.map (fun machine => { machine with program := program }) fun _ => rfl
    refine ⟨remembered, ?_⟩
    intro address outside
    show (second.memory.overwrite programStart program).byteAt address =
      (first.memory.overwrite programStart program).byteAt address
    rw [Memory.byteAt_overwrite, Memory.byteAt_overwrite, agree.bytes address outside]
  · rw [Machine.load, Machine.load, if_neg fits, if_neg fits]
    exact agree

theorem memory_holding (machine : Machine) (keys : List Int) :
    (machine.holding keys).memory = machine.memory := by
  rw [Machine.holding]

theorem AgreeOutside.holding {hidden : Set Nat} {first second : Machine}
    (agree : AgreeOutside hidden first second) (keys : List Int) :
    AgreeOutside hidden (first.holding keys) (second.holding keys) := by
  refine ⟨agree.alike.holding keys, ?_⟩
  rw [memory_holding, memory_holding]
  exact agree.bytes

/-- A machine at power-on with the setting for the font, but without the font. -/
def fontless (settings : Settings) (random : Twister) : Machine :=
  { powerOn settings random with memory := .zero }

theorem agreeOutside_fontless (settings : Settings) (random : Twister) :
    AgreeOutside { address | address < 0x50 } (powerOn settings random)
      (fontless settings random) := by
  refine ⟨rfl, ?_⟩
  intro address outside
  have behind : 0 + Font.glyphs.length ≤ address := by
    rw [Set.mem_ofPred_eq] at outside
    exact Nat.not_lt.mp outside
  show Memory.zero.byteAt address = (initialMemory settings []).byteAt address
  rw [initialMemory, Memory.overwrite]
  cases settings.loadFont with
  | false => rfl
  | true => exact (Memory.byteAt_overwrite_outside .zero (.inr behind)).symm

theorem alike_fontless (settings : Settings) (random : Twister) :
    Alike .loadFont (fontless settings random)
      (powerOn { settings with loadFont := false } random) :=
  rfl

end Machine

section Font

variable {config : Config} {entropy : Nat} {program : List Byte} {keys : List Int}

/-- A headless run that reads no cell of the font comes to the same report without it. -/
theorem runHeadless_without_font {parser : Parser} {directory elsewhere : Directory}
    {given changed : Option Entries}
    (unread : ∀ before ∈ stepsOf config entropy program keys, ∀ address < 0x50,
      ¬ before.ReadsCell address)
    (loaded : Config.load parser directory (Config.given given) = .ok config)
    (loaded_too : Config.load parser elsewhere (Config.given changed) =
      .ok { config with loadFont := false }) :
    (runHeadless parser elsewhere entropy program changed keys).result =
      (runHeadless parser directory entropy program given keys).result := by
  apply result_runHeadless_of_same loaded loaded_too rfl
  intro fits real
  rw [stepsOf, if_pos ⟨fits, real⟩] at unread
  let middle :=
    ((Machine.fontless config.settings (config.random entropy)).load program).machine.holding keys
  have agree : AgreeOutside { address | address < 0x50 }
      (startOf config entropy program keys) middle := by
    rw [startOf_eq]
    exact ((Machine.agreeOutside_fontless config.settings _).load program).holding keys
  have alike : Alike .loadFont middle
      (startOf { config with loadFont := false } entropy program keys) := by
    rw [startOf_eq]
    exact ((Machine.alike_fontless config.settings _).load (by decide) program).holding keys
  obtain ⟨answer, agree_after⟩ := agree.run unread
  have unread_setting : ∀ before ∈ middle.trail config.tickLimit config.pace,
      ¬ before.Consults .loadFont := fun _ _ => Machine.not_consults_loadFont
  have comparable : Comparable .loadFont config.pace.stepsPerTimerTick
      (Config.pace { config with loadFont := false }).stepsPerTimerTick := .inl rfl
  obtain ⟨answer_too, alike_after⟩ :=
    alike.run (by decide) (by decide) (by decide) rfl comparable unread_setting
  exact ⟨answer_too.trans answer, alike_after.screen.trans agree_after.alike.screen,
    alike_after.tick.trans agree_after.alike.tick⟩

end Font

/-! ## Memory that is never read -/

/-- Cells that a run does not read make no difference to it. From machines that agree outside
these cells it comes to the same answer, to machines that agree outside them, and to the same
byte in each of them that it writes. A headless run that reads nothing below address 0x50 comes
to the same report with the font and without. -/
theorem unread_memory_is_irrelevant :
    (∀ (cells : Set Nat) (first second : Machine) (limit : Int) (pace : Pace),
      first.AgreeOutside cells second →
      (∀ before ∈ first.trail limit pace, ∀ address ∈ cells, ¬ before.ReadsCell address) →
      let one := first.run limit pace
      let other := second.run limit pace
      other.result = one.result ∧ one.machine.AgreeOutside cells other.machine ∧
        ∀ before ∈ first.trail limit pace, ∀ address ∈ cells, before.WritesCell address →
          other.machine.memory.byteAt address = one.machine.memory.byteAt address) ∧
    (∀ (config : Config) (entropy : Nat) (program : List Byte) (keys : List Int),
      config.loadFont = true →
      (∀ before ∈ stepsOf config entropy program keys, ∀ address < 0x50,
        ¬ before.ReadsCell address) →
      ∀ (parser : Parser) (directory elsewhere : Directory) (given changed : Option Entries),
        Config.load parser directory (Config.given given) = .ok config →
        Config.load parser elsewhere (Config.given changed) =
          .ok { config with loadFont := false } →
        (runHeadless parser elsewhere entropy program changed keys).result =
          (runHeadless parser directory entropy program given keys).result) := by
  constructor
  · intro cells first second limit pace agree unread one other
    obtain ⟨answer, after⟩ := agree.run unread
    refine ⟨answer, after.mono fun address member => member.1, ?_⟩
    intro before along address _ writes
    exact after.bytes address fun unwritten => unwritten.2 before along writes
  · intro config entropy program keys _ unread parser directory elsewhere given changed loaded
      loaded_too
    exact runHeadless_without_font unread loaded loaded_too

/-- A program that stores a register at address 0x300 and then halts. Of two bytes there the
first is written and the second makes no difference, and neither does the font. -/
theorem unread_memory_is_irrelevant_at_stored_byte :
    let config : Config := { seed := some 7 }
    let program : List Byte := [0xA3, 0x00, 0x60, 0x05, 0xF0, 0x55, 0x12, 0x06]
    let given (font : Bool) : Entries :=
      [(.text "rng_seed", .integer 7), (.text "load_font", .boolean font)]
    let first := startOf config 0 program []
    let second := { first with memory := first.memory.overwrite 0x300 [9, 9] }
    let one := first.run config.tickLimit config.pace
    let other := second.run config.tickLimit config.pace
    other.result = one.result ∧
    other.machine.memory.byteAt 0x300 = one.machine.memory.byteAt 0x300 ∧
    (runHeadless Yaml.parse (fun _ => .missing) 0 program (some (given false)) []).result =
      (runHeadless Yaml.parse (fun _ => .missing) 0 program (some (given true)) []).result := by
  intro config program given first second one other
  have agree := Machine.agreeOutside_overwrite first 0x300 [9, 9]
  obtain ⟨runs, reports⟩ := unread_memory_is_irrelevant
  have along_the_run : (∀ before ∈ first.trail config.tickLimit config.pace,
      ¬ before.ReadsCell 0x300 ∧ ¬ before.ReadsCell 0x301) ∧
      (∃ before ∈ first.trail config.tickLimit config.pace, before.WritesCell 0x300) ∧
      ∀ before ∈ stepsOf config 0 program [], ∀ address < 0x50, ¬ before.ReadsCell address := by
    decide +kernel
  obtain ⟨unread, writes, no_font⟩ := along_the_run
  obtain ⟨answer, _, written⟩ := runs _ first second config.tickLimit config.pace agree (by
    rintro before along address ⟨least, most⟩
    obtain rfl | rfl : address = 0x300 ∨ address = 0x301 := by
      simp only [List.length_cons, List.length_nil] at most
      omega
    · exact (unread before along).1
    · exact (unread before along).2)
  obtain ⟨before, along, stores⟩ := writes
  refine ⟨answer, written before along 0x300 ⟨by decide, by decide⟩ stores, ?_⟩
  exact reports config 0 program [] rfl no_font _ _ _ _ _ (by rfl) (by rfl)

end Chip8
