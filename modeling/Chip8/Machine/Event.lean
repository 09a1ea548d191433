/-
# What a machine reports

Working machines report events. An event says what happened in the machine's own
terms; its text is made here and nowhere else, so that nobody has to look at
text to know what happened.

An event is a line of a log if its text can be written. An event that tells a number
of too many digits leaves no line.
-/

import Chip8.Fault
import Chip8.Operation.Mnemonic

namespace Chip8

/-- How a step left the machine. -/
inductive Status where
  /-- The machine goes on. -/
  | running
  /-- The instruction waits for a key and will run again. -/
  | waiting
  deriving DecidableEq, Repr

/-- The name of a status. -/
def Status.name : Status → String
  | running => "running"
  | waiting => "waiting"

/-- What the machine looked like after one step. -/
structure Snapshot where
  /-- The tick after the step. -/
  tick : Int
  /-- The address the instruction came from. -/
  origin : Word
  /-- The index register. -/
  index : Word
  /-- The number of live return addresses. -/
  depth : Nat
  /-- The delay timer. -/
  delay : Byte
  /-- The sound timer. -/
  sound : Byte
  /-- The sixteen registers. -/
  registers : Vector Byte 16
  /-- How the step ended. -/
  status : Status
  /-- The operation done. -/
  operation : Operation
  /-- The word it was read from. -/
  word : Word
  deriving DecidableEq

/-- A snapshot as one line, for a tick that can be written. -/
def Snapshot.line (snapshot : Snapshot) : String :=
  "TICK: " ++ Numeral.decimal 5 snapshot.tick ++
    " PC: " ++ Numeral.hex 3 snapshot.origin.toNat ++
    " I: " ++ Numeral.hex 3 snapshot.index.toNat ++
    " SP: " ++ Numeral.decimal 2 snapshot.depth ++
    " DT: " ++ Numeral.decimal 3 snapshot.delay.toNat ++
    " ST: " ++ Numeral.decimal 3 snapshot.sound.toNat ++
    " V: " ++ " ".intercalate (snapshot.registers.toList.map fun byte =>
      Numeral.hex 2 byte.toNat) ++
    " STATE: " ++ Numeral.padRight 8 snapshot.status.name ++
    "\tINSTR: " ++ mnemonic snapshot.operation snapshot.word

/-- Something that happened in a machine. -/
inductive Event where
  /-- A program of this size was loaded. -/
  | loaded (size : Nat)
  /-- A value was pushed; the stack is now this deep. -/
  | pushed (value : Int) (depth : Nat)
  /-- A value was popped; the stack is now this deep. -/
  | popped (value : Word) (depth : Nat)
  /-- The sound timer reached zero. -/
  | soundExpired
  /-- A call to the host's own processor was passed over. -/
  | systemCallIgnored (address : Word)
  /-- A held key was put into a register. -/
  | keyTaken (register key : Fin 16)
  /-- A step was done. -/
  | stepped (snapshot : Snapshot)
  /-- A step at this tick and address met a fault. -/
  | faulted (tick : Int) (origin : Word) (fault : Fault)
  /-- A run paused at this tick. -/
  | paused (tick : Int)
  /-- A run ended because no key can come. -/
  | keyWaitEnded (tick : Int)
  /-- A run ended in a jump to itself. -/
  | selfJump (tick : Int) (origin : Word)
  /-- A headless run ended in a fault after so many ticks. -/
  | runFaulted (tick : Int) (fault : Fault)
  deriving DecidableEq

/-- The text of an event, for numbers that can be written. -/
def Event.message : Event → String
  | loaded size =>
    "Datapath: loaded " ++ Numeral.decimal 1 size ++ " program bytes at 200"
  | pushed value depth =>
    "stack_push: " ++ Numeral.hex 3 value ++ " (SP=" ++ Numeral.decimal 1 depth ++ ")"
  | popped value depth =>
    "stack_pop: " ++ Numeral.hex 3 value.toNat ++ " (SP=" ++ Numeral.decimal 1 depth ++ ")"
  | soundExpired => "sound timer expired"
  | systemCallIgnored address => "SYS " ++ Numeral.hex 3 address.toNat ++ " ignored"
  | keyTaken register key =>
    "LD_KEY: " ++ registerText register ++ " <- key " ++ Numeral.hex 1 key.val
  | stepped snapshot => snapshot.line
  | faulted tick origin fault =>
    "[tick " ++ Numeral.decimal 1 tick ++ "] fault at PC " ++ Numeral.hex 3 origin.toNat ++
      ": " ++ fault.message
  | paused tick => "[tick " ++ Numeral.decimal 1 tick ++ "] paused"
  | keyWaitEnded tick =>
    "[tick " ++ Numeral.decimal 1 tick ++ "] waiting for a key with none held -> stop"
  | selfJump tick origin =>
    "[tick " ++ Numeral.decimal 1 tick ++ "] jump to self at " ++
      Numeral.hex 3 origin.toNat ++ " -> halt"
  | runFaulted tick fault =>
    "run_bytes: machine fault after " ++ Numeral.decimal 1 tick ++ " ticks: " ++ fault.message

/-- The number that an event tells in decimal; zero for one that tells none. -/
def Event.number : Event → Int
  | loaded size => size
  | pushed _ depth | popped _ depth => depth
  | stepped snapshot => snapshot.tick
  | faulted tick _ _ | paused tick | keyWaitEnded tick | selfJump tick _ | runFaulted tick _ => tick
  | soundExpired | systemCallIgnored _ | keyTaken _ _ => 0

/-- The line that an event leaves in a log. -/
def Event.line? (event : Event) : Option String :=
  if IsWritable event.number then some event.message else none

/-- The lines that events leave in a log, in order. -/
def loggedLines (events : List Event) : List String :=
  events.filterMap Event.line?

end Chip8
