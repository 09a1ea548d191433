/-
# Memory as a map of bytes

A host reads and writes memory at any addresses, byte by byte or in blocks. All of it comes down
to one map from the addresses in memory to bytes. A write that goes through changes the map at
the addresses it covers, a write that is refused changes it nowhere, and every way of reading
agrees with reading byte by byte.

The main statement speaks of any sequence of writes, some of which may be refused. The byte that
is then read at an address is cut from the value of the last write that went through and covered
it, or was there before all of them. The induction is on the sequence, and its step says what a
single write makes of a single cell.
-/

import Chip8.Proofs.Memory
import Chip8.Proofs.Raw.Simulation.Run

namespace Chip8

/-- A write by a host: one value at an address, or several from an address on. -/
inductive Write where
  | byte (address value : Int)
  | block (address : Int) (values : List Int)

namespace Write

/-- The command that writes. -/
def command : Write → Command
  | byte address value => .writeByte address value
  | block address values => .writeBlock address values

/-- The first address written. -/
def start : Write → Int
  | byte address _ => address
  | block address _ => address

/-- The values written, one behind another. -/
def values : Write → List Int
  | byte _ value => [value]
  | block _ values => values

/-- The value for an address, if there is one. -/
def valueAt? (write : Write) (address : Int) : Option Int :=
  if write.start ≤ address then write.values[(address - write.start).toNat]? else none

/-- One of the values is for the address. -/
def Covers (write : Write) (address : Int) : Prop :=
  ∃ value, write.valueAt? address = some value

theorem covers_iff {write : Write} {address : Int} :
    write.Covers address ↔
      write.start ≤ address ∧ address < write.start + write.values.length := by
  unfold Covers valueAt?
  split
  case isTrue behind =>
    constructor
    · rintro ⟨value, found⟩
      have place := (List.getElem?_eq_some_iff.mp found).1
      omega
    · rintro ⟨_, before⟩
      have place : (address - write.start).toNat < write.values.length := by omega
      exact ⟨_, List.getElem?_eq_getElem place⟩
  case isFalse before =>
    constructor
    · rintro ⟨value, found⟩
      cases found
    · rintro ⟨behind, _⟩
      exact absurd behind before

/-- A write of at least one value lies in memory exactly if all addresses that it covers do. -/
theorem inMemory_iff {write : Write} (nonempty : write.values ≠ []) :
    InMemory write.start write.values.length ↔
      ∀ address, write.Covers address → 0 ≤ address ∧ address ≤ 4095 := by
  have some_value := List.length_pos_iff.mpr nonempty
  simp only [covers_iff]
  unfold InMemory
  constructor
  · rintro ⟨least, most⟩ address ⟨behind, before⟩
    omega
  · intro inside
    have first := inside write.start (by omega)
    have last := inside (write.start + write.values.length - 1) (by omega)
    omega

end Write

namespace Memory

variable {memory : Memory}

/-! ## Reading -/

theorem read_eq_ok_iff {address : Int} {byte : Byte} :
    memory.read address = .ok byte ↔
      (0 ≤ address ∧ address ≤ 4095) ∧ memory.byteAt address.toNat = byte := by
  have cell : InMemory address 1 ↔ 0 ≤ address ∧ address ≤ 4095 := by
    unfold InMemory
    omega
  rw [← cell, read]
  by_cases inside : InMemory address 1
  · rw [if_pos inside, Except.ok.injEq]
    exact (and_iff_right inside).symm
  · rw [if_neg inside]
    constructor
    · intro read
      cases read
    · intro read
      exact absurd read.1 inside

/-- A byte is read exactly at the addresses in memory. -/
theorem exists_read_iff {address : Int} :
    (∃ byte, memory.read address = .ok byte) ↔ 0 ≤ address ∧ address ≤ 4095 := by
  constructor
  · rintro ⟨byte, read⟩
    exact (read_eq_ok_iff.mp read).1
  · intro inside
    exact ⟨_, read_eq_ok_iff.mpr ⟨inside, rfl⟩⟩

/-- A block of at least one byte lies in memory exactly if each of its bytes can be read. -/
theorem inMemory_iff_read (memory : Memory) {address length : Int} (nonempty : 1 ≤ length) :
    InMemory address length ↔
      ∀ place : Nat, (place : Int) < length → ∃ byte, memory.read (address + place) = .ok byte := by
  simp only [exists_read_iff]
  unfold InMemory
  constructor
  · rintro ⟨least, most⟩ place there
    omega
  · intro each
    have first := each 0 (by omega)
    have last := each (length - 1).toNat (by omega)
    omega

theorem read_of_inMemory (memory : Memory) {address length : Int}
    (inside : InMemory address length) {place : Nat} (there : (place : Int) < length) :
    memory.read (address + place) = .ok (memory.byteAt (address.toNat + place)) := by
  obtain ⟨least, most⟩ := inside
  refine read_eq_ok_iff.mpr ⟨by omega, ?_⟩
  congr 1
  omega

/-- A block of at least one byte is read as what is read byte by byte. -/
theorem readBlock_eq_ok_iff {address length : Int} (nonempty : 1 ≤ length) {bytes : List Byte} :
    memory.readBlock address length = .ok bytes ↔
      bytes.length = length ∧ ∀ (place : Nat) (inside : place < bytes.length),
        memory.read (address + place) = .ok bytes[place] := by
  have stop : 0 ≤ address → blockEnd address length - address.toNat = length.toNat := by
    intro least
    simp only [blockEnd]
    split
    · omega
    · omega
  constructor
  · intro read
    rw [readBlock] at read
    split at read
    case isTrue inside =>
      cases read
      rw [stop inside.1]
      refine ⟨by rw [length_bytesFrom]; omega, ?_⟩
      intro place there
      rw [length_bytesFrom] at there
      rw [read_of_inMemory memory inside (by omega)]
      simp [bytesFrom]
    case isFalse => cases read
  · rintro ⟨long, each⟩
    have inside : InMemory address length := by
      refine (inMemory_iff_read memory nonempty).mpr ?_
      intro place there
      exact ⟨_, each place (by omega)⟩
    rw [readBlock, if_pos inside, stop inside.1]
    congr 1
    apply List.ext_getElem
    · rw [length_bytesFrom]
      omega
    · intro place there here
      have same := (read_of_inMemory memory inside (by omega)).symm.trans (each place here)
      simpa [bytesFrom] using same

theorem exists_readBlock_iff {address length : Int} (nonempty : 1 ≤ length) :
    (∃ bytes, memory.readBlock address length = .ok bytes) ↔
      ∀ place : Nat, (place : Int) < length →
        ∃ byte, memory.read (address + place) = .ok byte := by
  rw [← inMemory_iff_read memory nonempty, readBlock]
  split
  case isTrue inside => exact iff_of_true ⟨_, rfl⟩ inside
  case isFalse outside =>
    refine iff_of_false ?_ outside
    rintro ⟨bytes, read⟩
    cases read

/-- A word is made of the two bytes read at its address and behind it. -/
theorem fetch_eq_ok_iff {address : Int} {word : Word} :
    memory.fetch address = .ok word ↔
      ∃ high low, memory.read address = .ok high ∧ memory.read (address + 1) = .ok low ∧
        word.toNat = 256 * high.toNat + low.toNat := by
  have reads : InMemory address 2 →
      memory.read address = .ok (memory.byteAt address.toNat) ∧
        memory.read (address + 1) = .ok (memory.byteAt (address.toNat + 1)) := by
    intro inside
    have first := read_of_inMemory memory inside (by decide : ((0 : Nat) : Int) < 2)
    have second := read_of_inMemory memory inside (by decide : ((1 : Nat) : Int) < 2)
    exact ⟨by simpa using first, second⟩
  rw [fetch]
  constructor
  · intro fetched
    split at fetched
    case isTrue inside =>
      cases fetched
      exact ⟨_, _, (reads inside).1, (reads inside).2, Word.toNat_ofBytes _ _⟩
    case isFalse => cases fetched
  · rintro ⟨high, low, first, second, made⟩
    have inside : InMemory address 2 := by
      have least := (read_eq_ok_iff.mp first).1
      have most := (read_eq_ok_iff.mp second).1
      unfold InMemory
      omega
    obtain ⟨high_eq, low_eq⟩ := reads inside
    cases high_eq.symm.trans first
    cases low_eq.symm.trans second
    rw [if_pos inside, ← UInt16.ofNat_toNat (x := word), made]
    rfl

theorem exists_fetch_iff {address : Int} :
    (∃ word, memory.fetch address = .ok word) ↔
      (∃ byte, memory.read address = .ok byte) ∧
        ∃ byte, memory.read (address + 1) = .ok byte := by
  have cells : InMemory address 2 ↔ (0 ≤ address ∧ address ≤ 4095) ∧
      0 ≤ address + 1 ∧ address + 1 ≤ 4095 := by
    unfold InMemory
    omega
  rw [exists_read_iff, exists_read_iff, ← cells, fetch]
  split
  case isTrue inside => exact iff_of_true ⟨_, rfl⟩ inside
  case isFalse outside =>
    refine iff_of_false ?_ outside
    rintro ⟨word, fetched⟩
    cases fetched

end Memory

/-! ## Writing -/

namespace Machine

variable (machine : Machine)

theorem perform_write (write : Write) :
    perform write.command machine =
      machine.takeMemory
        (machine.memory.writeBlock write.start (write.values.map Byte.ofInt)) := by
  cases write with
  | _ => rfl

section Perform

variable {machine} {write : Write}

theorem perform_write_of_inside (inside : InMemory write.start write.values.length) :
    perform write.command machine =
      ⟨.ok .done,
        { machine with
          memory := machine.memory.overwrite write.start.toNat (write.values.map Byte.ofInt) },
        []⟩ := by
  rw [← List.length_map Byte.ofInt] at inside
  rw [perform_write, Memory.writeBlock, if_pos inside]
  rfl

theorem perform_write_of_outside (outside : ¬ InMemory write.start write.values.length) :
    perform write.command machine =
      ⟨.error (.outsideMemory write.start write.values.length), machine, []⟩ := by
  have refused := outside
  rw [← List.length_map Byte.ofInt] at refused
  rw [perform_write, Memory.writeBlock, if_neg refused, List.length_map]
  rfl

end Perform

/-- The value that a write puts at an address, if it goes through and covers it. -/
def put? (write : Write) (address : Int) : Option Int :=
  match (perform write.command machine).result with
  | .ok _ => write.valueAt? address
  | .error _ => none

/-- The value that the last of several writes puts at an address, among those that go through
and cover it. -/
def lastPut? (machine : Machine) (address : Int) : List Write → Option Int
  | [] => none
  | write :: rest =>
    (lastPut? (perform write.command machine).machine address rest).or (machine.put? write address)

/-- The machine after writes, those that are refused among them. -/
def afterWrites (writes : List Write) : Machine :=
  machine.after (writes.map Write.command)

/-- What a write makes of one cell: the value that it puts there, cut to a byte, or what was
there. -/
theorem byteAt_write (write : Write) {address : Nat} (inside : address < 4096) :
    (perform write.command machine).machine.memory.byteAt address =
      ((machine.put? write address).map Byte.ofInt).getD (machine.memory.byteAt address) := by
  by_cases fits : InMemory write.start write.values.length
  · obtain ⟨start, start_eq⟩ := Int.eq_ofNat_of_zero_le fits.1
    rw [put?, perform_write_of_inside fits, Memory.byteAt_overwrite, Write.valueAt?, start_eq]
    rw [Int.toNat_natCast]
    by_cases behind : start ≤ address
    · have place : ((address : Int) - start).toNat = address - start := by omega
      have ordered : (start : Int) ≤ address := Int.ofNat_le.mpr behind
      rw [if_pos ⟨behind, inside⟩, if_pos ordered, place, List.getD_eq_getElem?_getD,
        List.getElem?_map]
    · have unordered : ¬ (start : Int) ≤ address := fun le => behind (Int.ofNat_le.mp le)
      rw [if_neg fun covered => behind covered.1, if_neg unordered]
      rfl
  · rw [put?, perform_write_of_outside fits]
    rfl

/-- What any number of writes make of one cell. -/
theorem byteAt_afterWrites (writes : List Write) {address : Nat} (inside : address < 4096) :
    (machine.afterWrites writes).memory.byteAt address =
      ((machine.lastPut? address writes).map Byte.ofInt).getD
        (machine.memory.byteAt address) := by
  induction writes generalizing machine with
  | nil => rfl
  | cons write rest ih =>
    have later := ih (perform write.command machine).machine
    rw [byteAt_write machine write inside] at later
    show ((perform write.command machine).machine.afterWrites rest).memory.byteAt address = _
    rw [later, lastPut?]
    cases lastPut? (perform write.command machine).machine address rest with
    | some value => rfl
    | none => rfl

/-- A machine of plain integers writes and reads the same, and so it does after any writes. -/
structure WritesAndReadsRaw : Prop where
  write : ∀ write : Write,
    (RawMachine.obey write.command).run machine.toRaw =
      (perform write.command machine).toRaw fun _ => ()
  readByte : ∀ address,
    (RawMachine.readByte address).run machine.toRaw =
      Outcome.toRaw (fun byte => (byte.toNat : Int)) ⟨machine.memory.read address, machine, []⟩
  readBlock : ∀ address length,
    (RawMachine.readBlock address length).run machine.toRaw =
      Outcome.toRaw (fun bytes => bytes.map fun byte => (byte.toNat : Int))
        ⟨machine.memory.readBlock address length, machine, []⟩
  fetchWord : ∀ address,
    (RawMachine.fetchWord address).run machine.toRaw =
      Outcome.toRaw (fun word => (word.toNat : Int)) ⟨machine.memory.fetch address, machine, []⟩

theorem writesAndReadsRaw : machine.WritesAndReadsRaw where
  write
    | .byte address value => run_writeByte machine address value
    | .block address values => run_writeBlock machine address values
  readByte := run_readByte machine
  readBlock := run_readBlock machine
  fetchWord := run_fetchWord machine

theorem afterWrites_toRaw (writes : List Write) :
    machine.toRaw.after (writes.map Write.command) = (machine.afterWrites writes).toRaw := by
  induction writes generalizing machine with
  | nil => rfl
  | cons write rest ih =>
    have written : RawMachine.left ((RawMachine.obey write.command).run machine.toRaw) =
        (perform write.command machine).machine.toRaw := by
      rw [machine.writesAndReadsRaw.write]
      rcases perform write.command machine with ⟨fault | reply, left, events⟩
      · rfl
      · rfl
    have later := ih (perform write.command machine).machine
    rw [← written] at later
    exact later

/-! ## The map -/

theorem read_afterWrites (writes : List Write) {address : Int} (least : 0 ≤ address)
    (most : address ≤ 4095) :
    ∃ byte, (machine.afterWrites writes).memory.read address = .ok byte ∧
      (∀ value, machine.lastPut? address writes = some value →
        (byte.toNat : Int) = value % 256) ∧
      (machine.lastPut? address writes = none → machine.memory.read address = .ok byte) := by
  obtain ⟨place, rfl⟩ := Int.eq_ofNat_of_zero_le least
  have inside : place < 4096 := by omega
  have cell := byteAt_afterWrites machine writes inside
  refine ⟨_, Memory.read_eq_ok_iff.mpr ⟨⟨least, most⟩, rfl⟩, ?_, ?_⟩
  · intro value last
    rw [Int.toNat_natCast, cell, last]
    show ((Byte.ofInt value).toNat : Int) = value % 256
    rw [Byte.toNat_ofInt]
    omega
  · intro never
    refine Memory.read_eq_ok_iff.mpr ⟨⟨least, most⟩, ?_⟩
    rw [Int.toNat_natCast, cell, never]
    rfl

theorem exists_write_error_iff {write : Write} (nonempty : write.values ≠ []) :
    (∃ fault, (perform write.command machine).result = .error fault) ↔
      ∃ address, write.Covers address ∧ ¬ (0 ≤ address ∧ address ≤ 4095) := by
  have inside := Write.inMemory_iff nonempty
  by_cases fits : InMemory write.start write.values.length
  · rw [perform_write_of_inside fits]
    constructor
    · rintro ⟨fault, failed⟩
      cases failed
    · rintro ⟨address, covered, outside⟩
      exact absurd (inside.mp fits address covered) outside
  · rw [perform_write_of_outside fits]
    refine iff_of_true ⟨_, rfl⟩ ?_
    rw [inside] at fits
    push Not at fits
    obtain ⟨address, covered, outside⟩ := fits
    exact ⟨address, covered, fun both => absurd (outside both.1) (by omega)⟩

theorem perform_write_of_error {write : Write} {fault : Fault}
    (failed : (perform write.command machine).result = .error fault) :
    perform write.command machine =
      ⟨.error (.outsideMemory write.start write.values.length), machine, []⟩ := by
  by_cases fits : InMemory write.start write.values.length
  · rw [perform_write_of_inside fits] at failed
    cases failed
  · exact perform_write_of_outside fits

/-- Memory is a map from the addresses in it to bytes. After any writes, refused ones among them,
a byte that is read was put there by the last write that went through and covered its address, or
lay there before. A write is refused exactly if it covers an address outside memory, and then
nothing has changed. Blocks and words are what is read byte by byte, where all of their bytes
can be read, and a machine of plain integers does the same. -/
theorem memory_is_byte_map (machine : Machine) :
    (∀ (writes : List Write) (address : Int), 0 ≤ address → address ≤ 4095 →
      ∃ byte, (machine.afterWrites writes).memory.read address = .ok byte ∧
        (∀ value, machine.lastPut? address writes = some value →
          (byte.toNat : Int) = value % 256) ∧
        (machine.lastPut? address writes = none → machine.memory.read address = .ok byte)) ∧
    (∀ address : Int,
      (∃ byte, machine.memory.read address = .ok byte) ↔ 0 ≤ address ∧ address ≤ 4095) ∧
    (∀ write : Write,
      (write.values ≠ [] →
        ((∃ fault, (perform write.command machine).result = .error fault) ↔
          ∃ address, write.Covers address ∧ ¬ (0 ≤ address ∧ address ≤ 4095))) ∧
      ∀ fault, (perform write.command machine).result = .error fault →
        fault = .outsideMemory write.start write.values.length ∧
          (perform write.command machine).machine = machine) ∧
    (∀ address length : Int, 1 ≤ length →
      ((∃ bytes, machine.memory.readBlock address length = .ok bytes) ↔
        ∀ place : Nat, (place : Int) < length →
          ∃ byte, machine.memory.read (address + place) = .ok byte) ∧
      ∀ bytes, machine.memory.readBlock address length = .ok bytes ↔
        bytes.length = length ∧ ∀ (place : Nat) (inside : place < bytes.length),
          machine.memory.read (address + place) = .ok bytes[place]) ∧
    (∀ address : Int,
      ((∃ word, machine.memory.fetch address = .ok word) ↔
        (∃ byte, machine.memory.read address = .ok byte) ∧
          ∃ byte, machine.memory.read (address + 1) = .ok byte) ∧
      ∀ word, machine.memory.fetch address = .ok word ↔
        ∃ high low, machine.memory.read address = .ok high ∧
          machine.memory.read (address + 1) = .ok low ∧
          word.toNat = 256 * high.toNat + low.toNat) ∧
    ∀ writes : List Write,
      machine.toRaw.after (writes.map Write.command) = (machine.afterWrites writes).toRaw ∧
        (machine.afterWrites writes).WritesAndReadsRaw := by
  refine ⟨fun writes address => read_afterWrites machine writes, fun _ => Memory.exists_read_iff,
    ?_, ?_, ?_, fun writes => ⟨afterWrites_toRaw machine writes, writesAndReadsRaw _⟩⟩
  · intro write
    refine ⟨exists_write_error_iff machine, ?_⟩
    intro fault failed
    have refused := perform_write_of_error machine failed
    rw [refused] at failed ⊢
    cases failed
    exact ⟨rfl, rfl⟩
  · intro address length nonempty
    exact ⟨Memory.exists_readBlock_iff nonempty, fun _ => Memory.readBlock_eq_ok_iff nonempty⟩
  · intro address
    exact ⟨Memory.exists_fetch_iff, fun _ => Memory.fetch_eq_ok_iff⟩

/-- Five writes, of which the third and fourth reach beyond memory and are refused. The last one
covers a cell that the second has written, and the first one a cell that the third has not. -/
theorem memory_is_byte_map_after_refused_writes :
    let machine := bare [0xAB]
    let writes : List Write :=
      [.byte 0xFFF (-1), .block 0x1FF [1, 2, 300], .block 0xFFE [7, 8, 9], .byte (-1) 5,
        .block 0x201 [6, 256]]
    let memory := (machine.afterWrites writes).memory
    (∃ byte, memory.read 0x200 = .ok byte ∧ (byte.toNat : Int) = 2) ∧
      (∃ byte, memory.read 0x201 = .ok byte ∧ (byte.toNat : Int) = 6) ∧
      (∃ byte, memory.read 0xFFF = .ok byte ∧ (byte.toNat : Int) = 255) ∧
      ∃ byte, memory.read 0xFFE = .ok byte ∧ machine.memory.read 0xFFE = .ok byte := by
  intro machine writes memory
  have evaluated : machine.lastPut? 0x200 writes = some 2 ∧
      machine.lastPut? 0x201 writes = some 6 ∧ machine.lastPut? 0xFFF writes = some (-1) ∧
      machine.lastPut? 0xFFE writes = none := by decide +kernel
  obtain ⟨second, last, first, never⟩ := evaluated
  obtain ⟨reads, _⟩ := memory_is_byte_map machine
  refine ⟨?_, ?_, ?_, ?_⟩
  · obtain ⟨byte, read, put, _⟩ := reads writes 0x200 (by decide) (by decide)
    exact ⟨byte, read, put 2 second⟩
  · obtain ⟨byte, read, put, _⟩ := reads writes 0x201 (by decide) (by decide)
    exact ⟨byte, read, put 6 last⟩
  · obtain ⟨byte, read, put, _⟩ := reads writes 0xFFF (by decide) (by decide)
    exact ⟨byte, read, put (-1) first⟩
  · obtain ⟨byte, read, _, kept⟩ := reads writes 0xFFE (by decide) (by decide)
    exact ⟨byte, read, kept never⟩

end Machine

end Chip8
