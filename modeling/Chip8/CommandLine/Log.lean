/-
# Log files

With debugging on, the lines that events leave go to the log file. The lines after
the first are indented. The console shows the same lines without indentation.
-/

import Chip8.Machine.Event

namespace Chip8.CommandLine

/-- What stands before every message in a log file. -/
def logOrigin : String := "DEBUG root:processor.py:# "

/-- The first line of a log file. -/
def firstLogLine (line : String) : String :=
  logOrigin ++ line ++ "\n"

/-- A later line of a log file. -/
def laterLogLine (line : String) : String :=
  "    " ++ firstLogLine line

/-- The text of a log file. -/
def logText (events : List Event) : String :=
  match loggedLines events with
  | [] => ""
  | first :: rest => firstLogLine first ++ String.join (rest.map laterLogLine)

/-- The log as the console shows it. -/
def consoleText (events : List Event) : String :=
  String.join ((loggedLines events).map fun line => "DEBUG " ++ line ++ "\n")

end Chip8.CommandLine
