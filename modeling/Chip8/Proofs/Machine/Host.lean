/-
# What a host's calls change

Pressing a key changes the keypad, loading changes memory and the remembered program, pushing
and popping change the return stack, and writing changes memory, whether or not they go
through. Each statement is an equation of whole machines, so that it speaks of every other
part at once.
-/

import Chip8.Machine.Command

namespace Chip8.Machine

variable (machine : Machine)

theorem machine_setKey (key : Int) (pressed : Bool) :
    (machine.setKey key pressed).machine =
      { machine with keypad := (machine.setKey key pressed).machine.keypad } := by
  rw [setKey]
  cases machine.keypad.put key pressed with
  | _ => rfl

theorem machine_load (program : List Byte) :
    (machine.load program).machine =
      { machine with
        memory := (machine.load program).machine.memory
        program := (machine.load program).machine.program } := by
  rw [load]
  split
  · rfl
  · rfl

theorem machine_push (value : Int) :
    (machine.push value).machine =
      { machine with stack := (machine.push value).machine.stack } := by
  rw [push]
  cases machine.stack.push value with
  | _ => rfl

theorem machine_pop :
    machine.pop.machine = { machine with stack := machine.pop.machine.stack } := by
  rw [pop]
  rcases machine.stack.pop with fault | ⟨value, stack⟩
  · rfl
  · rfl

theorem machine_takeMemory (memory : Except Fault Memory) :
    (machine.takeMemory memory).machine =
      { machine with memory := (machine.takeMemory memory).machine.memory } := by
  cases memory with
  | _ => rfl

end Chip8.Machine
