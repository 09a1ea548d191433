/-
# Nothing is left unshown

A host that shows the screen takes the redraw flag down, and so does a reset, which begins
with a dark screen. Nothing else takes it down, and whatever changes a pixel leaves it up. So
as long as the flag is down the screen is the one that was there when it was last taken down,
or the first one if it never was.

The argument is one relation between a display and a later one: the flag is up in the later
one, or the two are the same. Each cell of a sprite keeps to it, although the flag also goes
up for cells that change nothing; and it passes through drawings, operations, steps and runs,
since it is transitive.
-/

import Chip8.Proofs.Machine.Footprint
import Chip8.Proofs.Machine.Host
import Chip8.Proofs.Reset
import Mathlib.Data.List.DropRight

namespace Chip8

variable {width height : Int}

namespace Display

/-! ## What the host is told of -/

/-- The flag is up afterwards, or nothing has changed at all. -/
def Told (before after : Display width height) : Prop :=
  after.redraw = true ∨ after = before

theorem told_refl (display : Display width height) : display.Told display :=
  .inr rfl

theorem told_clear (display : Display width height) : display.Told display.clear :=
  .inl rfl

section Told

variable {first second third : Display width height} (told : first.Told second)

include told

theorem Told.trans (more : second.Told third) : first.Told third := by
  rcases more with up | same
  · exact .inl up
  · rw [same]
    exact told

theorem Told.eq_of_down (down : second.redraw = false) : second = first := by
  rcases told with up | same
  · exact absurd up (Bool.eq_false_iff.mp down)
  · exact same

theorem Told.stays_up (up : first.redraw = true) : second.redraw = true := by
  by_contra lowered
  have down : second.redraw = false := Bool.eq_false_of_not_eq_true lowered
  rw [told.eq_of_down down] at down
  exact absurd up (Bool.eq_false_iff.mp down)

theorem Told.up_of_changed (changed : second.pixels ≠ first.pixels) : second.redraw = true := by
  by_contra lowered
  have same := told.eq_of_down (Bool.eq_false_of_not_eq_true lowered)
  exact changed (congrArg pixels same)

end Told

/-! ## Drawings -/

/-- A cell that is not set over a pixel that is dark writes back what was there; any other
raises the flag. -/
theorem told_lay (area : 0 < width ∧ 0 < height) (x y : Int) (drawing : Drawing width height)
    (cell : SpriteCell) : drawing.display.Told (drawing.lay area x y cell).display := by
  let before := drawing.display
  let after := (drawing.lay area x y cell).display
  let row := wrap area.2 (y + cell.row)
  let column := wrap area.1 (x + cell.column)
  have flag : after.redraw = (before.redraw || (cell.set || before.pixels[row][column])) :=
    Bool.or_assoc _ _ _
  cases touched : cell.set || before.pixels[row][column] with
  | true =>
    left
    rw [flag, touched, Bool.or_true]
  | false =>
    right
    obtain ⟨unset, _⟩ := Bool.or_eq_false_iff.mp touched
    have written : after.pixels = before.pixels := by
      show before.pixels.set row (before.pixels[row].set column
        (before.pixels[row][column] ^^ cell.set)) = before.pixels
      rw [unset, Bool.xor_false]
      show before.pixels.set row (before.pixels[row.val].set column
        before.pixels[row.val][column.val]) = before.pixels
      rw [Vector.set_getElem_self, Vector.set_getElem_self]
    rw [touched, Bool.or_false] at flag
    show (⟨after.pixels, after.redraw⟩ : Display width height) = before
    rw [written, flag]

theorem told_blit (display : Display width height) (area : 0 < width ∧ 0 < height) (x y : Int)
    (rows : List Byte) : display.Told (display.blit area x y rows).display := by
  rw [blit]
  generalize spriteCells rows = cells
  suffices laid : ∀ drawing : Drawing width height,
      drawing.display.Told (cells.foldl (Drawing.lay area x y) drawing).display from
    laid ⟨display, false⟩
  induction cells with
  | nil => exact fun drawing => told_refl drawing.display
  | cons cell rest ih =>
    intro drawing
    exact (told_lay area x y drawing cell).trans (ih (drawing.lay area x y cell))

theorem told_draw {display : Display width height} {x y : Int} {rows : List Byte}
    {drawing : Drawing width height} (drawn : display.draw x y rows = .ok drawing) :
    display.Told drawing.display := by
  unfold draw at drawn
  split at drawn
  · cases drawn
    exact told_refl display
  · split at drawn
    · cases drawn
      exact told_blit display _ x y rows
    · cases drawn

/-! ## Calls -/

/-- What a host calls on a display to change it. -/
inductive Call where
  /-- Draw a sprite. -/
  | draw (x y : Int) (rows : List Byte)
  /-- Switch every pixel off. -/
  | clear
  /-- Note that the display was shown. -/
  | clearRedraw

/-- The host has seen the display. -/
def Call.shows : Call → Bool
  | clearRedraw => true
  | _ => false

/-- The display after a call. A sprite that has no place is not drawn. -/
def call (display : Display width height) : Call → Display width height
  | .draw x y rows =>
    match display.draw x y rows with
    | .ok drawing => drawing.display
    | .error _ => display
  | .clear => display.clear
  | .clearRedraw => display.clearRedraw

theorem told_call (display : Display width height) {call : Call} (unshown : call.shows = false) :
    display.Told (display.call call) := by
  cases call with
  | draw x y rows =>
    rw [Display.call]
    cases drawn : display.draw x y rows with
    | error fault => exact told_refl display
    | ok drawing => exact told_draw drawn
  | clear => exact told_clear display
  | clearRedraw => cases unshown

end Display

/-! ## Machines -/

/-- Something that a host does to a machine or to its screen. -/
inductive ScreenAction where
  /-- It does something to the machine. -/
  | host (action : HostAction)
  /-- It calls something on the screen. -/
  | screen (call : Display.Call)

/-- The host has seen the screen, or has put a dark one in its place. -/
def ScreenAction.shows : ScreenAction → Bool
  | host (.command .clearRedraw) | host (.command .reset) => true
  | host _ => false
  | screen call => call.shows

namespace Machine

/-- The machine after an action, whether or not it went through. -/
def actOnScreen (machine : Machine) : ScreenAction → Machine
  | .host action => (act action machine).machine
  | .screen call => { machine with screen := machine.screen.call call }

variable (machine : Machine)

theorem told_drawSprite (x y : Byte) (rows : Nat) :
    machine.screen.Told (machine.drawSprite x y rows).machine.screen := by
  rw [drawSprite]
  cases machine.memory.readBlock machine.index.toNat rows with
  | error fault => exact Display.told_refl machine.screen
  | ok sprite => exact Display.told_blit machine.screen _ _ _ sprite

theorem told_exec (operation : Operation) (word : Word) :
    machine.screen.Told (exec operation word machine).machine.screen := by
  cases operation with
  | clearScreen => exact Display.told_clear machine.screen
  | draw => exact told_drawSprite machine _ _ _
  | _ =>
    right
    show machine.Same (exec _ word machine).machine .screen
    exact same_exec machine word (by decide)

theorem told_step : machine.screen.Told machine.step.machine.screen := by
  rcases machine_step machine with same | moved | ⟨operation, _, done⟩
  · rw [same]
    exact Display.told_refl machine.screen
  · rw [moved]
    exact Display.told_refl machine.screen
  · rw [done]
    exact told_exec machine.movedOn operation machine.nextWord

theorem told_run (limit : Int) (pace : Pace) :
    machine.screen.Told (machine.run limit pace).machine.screen :=
  run_preserves (fun later => machine.screen.Told later.screen)
    (fun later told => told.trans (told_step later)) (fun _ told => told) limit pace
    (Display.told_refl machine.screen)

theorem told_execCode (code : Int) (word : Word) :
    machine.screen.Told (machine.execCode code word).machine.screen := by
  rw [execCode]
  cases Operation.ofCode? code with
  | none => exact Display.told_refl machine.screen
  | some operation => exact told_exec machine operation word

/-- Whatever a host does, if it does not take the flag down, it is told of every change. -/
theorem told_actOnScreen {action : ScreenAction} (unshown : action.shows = false) :
    machine.screen.Told (machine.actOnScreen action).screen := by
  cases action with
  | screen call => exact Display.told_call machine.screen unshown
  | host action =>
    cases action with
    | assign assignment =>
      cases assignment with
      | _ => exact Display.told_refl machine.screen
    | command command =>
      cases command with
      | step => exact told_step machine
      | run limit pace => exact told_run machine limit pace
      | exec code word => exact told_execCode machine code word
      | setKey key pressed => exact .inr (congrArg screen (machine_setKey machine key pressed) :)
      | load program => exact .inr (congrArg screen (machine_load machine program) :)
      | push value => exact .inr (congrArg screen (machine_push machine value) :)
      | pop => exact .inr (congrArg screen (machine_pop machine) :)
      | writeByte | writeBlock => exact .inr (congrArg screen (machine_takeMemory machine _) :)
      | reset | clearRedraw => cases unshown
      | _ => exact Display.told_refl machine.screen

end Machine

/-! ## Histories -/

/-- What an action makes of a display. If it shows the display it takes the flag down;
otherwise the flag stays up where it was up, and goes up where a pixel changes. -/
structure Reports (before after : Display width height) (shows : Bool) : Prop where
  down : shows = true → after.redraw = false
  stays_up : shows = false → before.redraw = true → after.redraw = true
  up_of_changed : shows = false → after.pixels ≠ before.pixels → after.redraw = true

section History

variable {State Action : Type} (screen : State → Display width height)
  (act : State → Action → State) (shows : Action → Bool)

/-- The actions up to the last that shows the screen. -/
def lastShown (shows : Action → Bool) (actions : List Action) : List Action :=
  actions.rdropWhile fun action => !shows action

/-- If the host is told of every change between showings, then what it is not told of is as
it was last shown. -/
theorem pixels_eq_of_down
    (told : ∀ state action, shows action = false → (screen state).Told (screen (act state action)))
    (start : State) (actions : List Action)
    (down : (screen (actions.foldl act start)).redraw = false) :
    (screen (actions.foldl act start)).pixels =
      (screen ((lastShown shows actions).foldl act start)).pixels := by
  induction actions using List.reverseRecOn with
  | nil => rfl
  | append_singleton actions action ih =>
    unfold lastShown at ih ⊢
    cases shown : shows action with
    | true => rw [List.rdropWhile_concat_neg _ _ _ (by simp [shown])]
    | false =>
      rw [List.rdropWhile_concat_pos _ _ _ (by simp [shown])]
      rw [List.foldl_append, List.foldl_cons, List.foldl_nil] at down ⊢
      have same := (told (actions.foldl act start) action shown).eq_of_down down
      rw [same] at down ⊢
      exact ih down

end History

theorem reports_of_told {before after : Display width height} {shows : Bool}
    (down : shows = true → after.redraw = false) (told : shows = false → before.Told after) :
    Reports before after shows where
  down := down
  stays_up := fun unshown => (told unshown).stays_up
  up_of_changed := fun unshown => (told unshown).up_of_changed

theorem reports_call (display : Display width height) (call : Display.Call) :
    Reports display (display.call call) call.shows := by
  apply reports_of_told
  · intro shown
    cases call with
    | clearRedraw => rfl
    | _ => cases shown
  · exact Display.told_call display

theorem reports_actOnScreen (machine : Machine) (action : ScreenAction) :
    Reports machine.screen (machine.actOnScreen action).screen action.shows := by
  apply reports_of_told
  · intro shown
    cases action with
    | screen call => exact (reports_call machine.screen call).down shown
    | host action =>
      cases action with
      | assign assignment => cases shown
      | command command =>
        cases command with
        | reset | clearRedraw => rfl
        | _ => cases shown
  · exact machine.told_actOnScreen

/-- As long as the flag is down, the pixels are those at the last showing or reset, or those
at the start if there was none. Only a showing or a reset takes the flag down, and every
other action that changes a pixel leaves it up. So it is with a machine and with a display of
its own. -/
theorem unshown_changes_raise_redraw :
    (∀ (start : Machine) (actions : List ScreenAction),
      let left := actions.foldl Machine.actOnScreen start
      let shown := (lastShown ScreenAction.shows actions).foldl Machine.actOnScreen start
      left.screen.redraw = false → left.screen.pixels = shown.screen.pixels) ∧
    (∀ (machine : Machine) (action : ScreenAction),
      Reports machine.screen (machine.actOnScreen action).screen action.shows) ∧
    ∀ width height : Int,
      (∀ (start : Display width height) (calls : List Display.Call),
        let left := calls.foldl Display.call start
        let shown := (lastShown Display.Call.shows calls).foldl Display.call start
        left.redraw = false → left.pixels = shown.pixels) ∧
      ∀ (display : Display width height) (call : Display.Call),
        Reports display (display.call call) call.shows := by
  refine ⟨?_, reports_actOnScreen, ?_⟩
  · exact pixels_eq_of_down Machine.screen Machine.actOnScreen ScreenAction.shows
      fun machine _ => machine.told_actOnScreen
  · intro width height
    refine ⟨?_, reports_call⟩
    exact pixels_eq_of_down id Display.call Display.Call.shows fun display _ => display.told_call

/-- A sprite is drawn by a program and shown; then a key is pressed and an empty row is drawn
over dark pixels, and the flag stays down. Drawing the sprite again only erases, and the flag
goes up. -/
theorem unshown_changes_raise_redraw_at_erased_sprite :
    let start := Machine.bare [0xA2, 0x00, 0xD0, 0x01]
    let shown : List ScreenAction := [.host (.command (.run 2 {})), .host (.command .clearRedraw)]
    let later : List ScreenAction :=
      [.host (.command (.setKey 5 true)), .screen (.draw 32 16 [0x00])]
    let left := (shown ++ later).foldl Machine.actOnScreen start
    let erased := left.actOnScreen (.screen (.draw 0 0 [0xA2]))
    left.screen.litCount = 3 ∧
      left.screen.pixels = (shown.foldl Machine.actOnScreen start).screen.pixels ∧
      erased.screen.litCount = 0 ∧ erased.screen.redraw = true := by
  intro start shown later left erased
  obtain ⟨history, each, _⟩ := unshown_changes_raise_redraw
  have down : left.screen.redraw = false := by decide +kernel
  have drawn : left.screen.litCount = 3 := by decide +kernel
  have dark : erased.screen.litCount = 0 := by decide +kernel
  have changed : erased.screen.pixels ≠ left.screen.pixels := by
    intro same
    have count : erased.screen.litCount = left.screen.litCount := by
      unfold Display.litCount
      rw [same]
    rw [drawn, dark] at count
    cases count
  exact ⟨drawn, history start (shown ++ later) down, dark, (each left _).up_of_changed rfl changed⟩

end Chip8
