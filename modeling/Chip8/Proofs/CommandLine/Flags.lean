/-
# Switches in front of a command line

The switches for debugging and for the console take no value. Put in front of a command line
that makes sense, each sets its own flag and changes nothing else of what the command line asks
for, however often it stands there.
-/

import Chip8.CommandLine.Arguments

namespace Chip8.CommandLine

/-- What a command line comes to with one more flag set. -/
def Reading.setFlag (reading : Reading) (switch : Switch) : Reading :=
  match reading with
  | .run arguments => .run (arguments.setFlag switch)
  | other => other

/-- The progress with one more flag set. -/
def Progress.setFlag (progress : Progress) (switch : Switch) : Progress :=
  { progress with arguments := progress.arguments.setFlag switch }

namespace Arguments

variable (arguments : Arguments)

theorem setFlag_comm (one other : Switch) :
    (arguments.setFlag one).setFlag other = (arguments.setFlag other).setFlag one := by
  cases one with
  | _ =>
    cases other with
    | _ => rfl

theorem setValue_setFlag (switch other : Switch) (value : String) :
    (arguments.setFlag switch).setValue other value =
      (arguments.setValue other value).setFlag switch := by
  cases switch with
  | _ =>
    cases other with
    | _ => rfl

end Arguments

theorem finish_setFlag (progress : Progress) (switch : Switch) :
    (progress.setFlag switch).finish = progress.finish.setFlag switch := by
  rcases progress with ⟨program, arguments, leftOver⟩
  cases program with
  | none => rfl
  | some program =>
    cases leftOver with
    | true => rfl
    | false =>
      cases switch with
      | _ => rfl

theorem readFrom_flag {switch : Switch} (flag : ¬ switch.takesValue = true)
    (not_help : switch ≠ .help) (progress : Progress) (argument : String)
    (rest : List (String × ArgumentClass)) :
    readFrom progress ((argument, .switch switch none) :: rest) =
      readFrom (progress.setFlag switch) rest := by
  cases switch with
  | debug | console =>
    rw [readFrom.eq_def]
    rfl
  | help => exact absurd rfl not_help
  | config | keys | logfile => exact absurd rfl flag

/-- A flag that is set before reading is set after it. -/
theorem readFrom_setFlag (progress : Progress) (entries : List (String × ArgumentClass))
    (switch : Switch) :
    readFrom (progress.setFlag switch) entries = (readFrom progress entries).setFlag switch := by
  induction progress, entries using readFrom.induct with
  | case1 progress => exact finish_setFlag progress switch
  -- the program is named, or something is left over
  | case2 progress _ value rest unnamed ih | case7 progress value rest _ unnamed ih =>
    simp only [readFrom, Progress.setFlag, unnamed] at ih ⊢
    exact ih
  | case5 progress value _ unnamed =>
    simp only [readFrom, Progress.setFlag, unnamed]
    exact finish_setFlag { progress with program := some value } switch
  | case8 progress value rest _ program named ih =>
    simp only [readFrom, Progress.setFlag, named] at ih ⊢
    exact ih
  | case18 progress _ rest ih =>
    rw [readFrom, readFrom]
    exact ih
  -- a switch is set
  | case13 progress argument other rest value takes _ ih
  | case15 progress argument other takes value more _ ih =>
    simp only [readFrom, takes, ↓reduceIte, Progress.setFlag, Arguments.setValue_setFlag] at ih ⊢
    exact ih
  | case17 progress argument other rest flag not_help ih =>
    have reordered : (progress.setFlag switch).setFlag other =
        (progress.setFlag other).setFlag switch :=
      congrArg (fun arguments => { progress with arguments := arguments })
        (Arguments.setFlag_comm progress.arguments switch other)
    rw [readFrom_flag flag not_help, readFrom_flag flag not_help, reordered]
    exact ih
  -- help, or nothing that makes sense
  | _ => simp only [readFrom, Progress.setFlag, Reading.setFlag, Bool.false_eq_true, ↓reduceIte, *]

/-- A flag in front of a command line is set, whatever else the command line comes to. -/
theorem read_flag {argument : String} {switch : Switch}
    (named : classOf argument = .switch switch none) (flag : ¬ switch.takesValue = true)
    (not_help : switch ≠ .help) (texts : List String) :
    read (argument :: texts) = (read texts).setFlag switch := by
  have classes : classify (argument :: texts) =
      (argument, .switch switch none) :: classify texts := by
    rw [classify, named]
  have plain : ((argument, ArgumentClass.switch switch none).2 == .ambiguous) = false := rfl
  rw [read, read, classes, List.any_cons, plain, Bool.false_or]
  by_cases unclear : ((classify texts).any fun entry => entry.2 == .ambiguous) = true
  · rw [if_pos unclear, if_pos unclear]
    rfl
  · rw [if_neg unclear, if_neg unclear, readFrom_flag flag not_help]
    exact readFrom_setFlag {} (classify texts) switch

theorem read_debug (texts : List String) :
    read ("--debug" :: texts) = (read texts).setFlag .debug :=
  read_flag (by decide) (by decide) (by decide) texts

theorem read_console (texts : List String) :
    read ("--console" :: texts) = (read texts).setFlag .console :=
  read_flag (by decide) (by decide) (by decide) texts

end Chip8.CommandLine
