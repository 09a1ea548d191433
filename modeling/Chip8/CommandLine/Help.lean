/-
# Help

The text that explains the command line.
-/

namespace Chip8.CommandLine

/-- The lines that show how a command line is made up. -/
def usageLines : List String :=
  ["usage: processor.py [-h] [--config CONFIG] [--keys KEYS] [--debug]",
    "                    [--logfile LOGFILE] [--console]",
    "                    program"]

/-- The lines of the help text. -/
def helpLines : List String :=
  usageLines ++
  ["",
    "Headless VM runner. Loads a binary program at 0x200, runs it and prints the",
    "framebuffer.",
    "",
    "positional arguments:",
    "  program            program binary (.ch8)",
    "",
    "options:",
    "  -h, --help         show this help message and exit",
    "  --config CONFIG    path to yaml config",
    "  --keys KEYS        comma separated hex keys held during the run, e.g. 1,A",
    "  --debug            enable debug logging to logfile (detailed per-step",
    "                     state).",
    "  --logfile LOGFILE  path to processor log",
    "  --console          also echo logs to console (only when --debug)"]

/-- The help text. -/
def helpText : String :=
  String.join (helpLines.map (· ++ "\n"))

/-- What is told when a command line makes no sense. -/
def usageText : String :=
  String.join (usageLines.map (· ++ "\n"))

end Chip8.CommandLine
