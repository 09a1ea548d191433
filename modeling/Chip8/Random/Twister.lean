/-
# A random byte stream

The generator is the Mersenne twister on 32-bit words: 624 words of state, which
are renewed together when all have been given out, and a tempering of each word
on its way out. A seed of any size fills the state through its 32-bit words.

Random bytes take the nine leading bits of a word and pass over words whose nine
bits exceed 255, that is, words whose leading bit is set. The leading bits of
successive words follow a linear recurrence of order 19937 and largest period,
so at most 19937 words in a row are passed over.
-/

import Chip8.Word

namespace Chip8

/-- The state of the generator. -/
structure Twister where
  /-- The words of the current round. -/
  words : Vector UInt32 624
  /-- How many words of the round have been given out. -/
  used : Nat

namespace Twister

/-- A word of the state; positions count modulo the size. -/
def wordAt (words : Vector UInt32 624) (position : Nat) : UInt32 :=
  words.get ⟨position % 624, Nat.mod_lt _ (by decide)⟩

/-- Replace a word of the state; positions count modulo the size. -/
def setWord (words : Vector UInt32 624) (position : Nat) (word : UInt32) : Vector UInt32 624 :=
  words.set (position % 624) word (Nat.mod_lt _ (by decide))

/-! ## Seeding -/

/-- A word with its two leading bits folded in at the end. -/
def folded (word : UInt32) : UInt32 :=
  word ^^^ (word >>> 30)

/-- The state that a single word spreads to. -/
def spread (seed : UInt32) : Vector UInt32 624 :=
  (List.range 623).foldl
    (fun words position =>
      setWord words (position + 1)
        (1812433253 * folded (wordAt words position) + UInt32.ofNat (position + 1)))
    (Vector.replicate 624 seed)

/-- A state that is being mixed, with the next position to mix, from 1 to 623. -/
structure Mixing where
  /-- The words so far. -/
  words : Vector UInt32 624
  /-- The position that is mixed next. -/
  position : Nat

/-- Write the mixed word and go on; after the last position the first word takes
the last one and mixing starts over behind it. -/
def Mixing.write (mixing : Mixing) (word : UInt32) : Mixing :=
  let words := setWord mixing.words mixing.position word
  if mixing.position + 1 < 624 then ⟨words, mixing.position + 1⟩
  else ⟨setWord words 0 (wordAt words 623), 1⟩

/-- The word before the one that is mixed next, folded. -/
def Mixing.previous (mixing : Mixing) : UInt32 :=
  folded (wordAt mixing.words (mixing.position - 1))

/-- Mix one word of the key in. -/
def Mixing.absorb (key : List UInt32) (mixing : Mixing) (turn : Nat) : Mixing :=
  let place := turn % key.length
  mixing.write ((wordAt mixing.words mixing.position ^^^ (mixing.previous * 1664525))
    + key.getD place 0 + UInt32.ofNat place)

/-- Mix the words among themselves. -/
def Mixing.settle (mixing : Mixing) : Mixing :=
  mixing.write ((wordAt mixing.words mixing.position ^^^ (mixing.previous * 1566083941))
    - UInt32.ofNat mixing.position)

/-- The state that a key spreads to. -/
def ofKey (key : List UInt32) : Twister :=
  let start : Mixing := ⟨spread 19650218, 1⟩
  let absorbed := (List.range (max 624 key.length)).foldl (Mixing.absorb key) start
  let settled := (List.range 623).foldl (fun mixing _ => mixing.settle) absorbed
  ⟨setWord settled.words 0 0x80000000, 624⟩

/-- The 32-bit words of a natural, the least significant first, `count` of them. -/
def keyWords : Nat → Nat → List UInt32
  | 0, _ => []
  | count + 1, value => UInt32.ofNat (value % 2 ^ 32) :: keyWords count (value / 2 ^ 32)

/-- The generator of a seed. Only the size of the seed counts, not its sign. -/
def ofSeed (seed : Int) : Twister :=
  ofKey (keyWords (seed.natAbs.log2 / 32 + 1) seed.natAbs)

/-! ## Drawing -/

/-- One word of the next round. -/
def renewWord (words : Vector UInt32 624) (position : Nat) : Vector UInt32 624 :=
  let joined := (wordAt words position &&& 0x80000000) |||
    (wordAt words (position + 1) &&& 0x7FFFFFFF)
  let twist : UInt32 := if joined &&& 1 = 1 then 0x9908B0DF else 0
  setWord words position (wordAt words (position + 397) ^^^ (joined >>> 1) ^^^ twist)

/-- The words of the next round. -/
def renew (words : Vector UInt32 624) : Vector UInt32 624 :=
  (List.range 624).foldl renewWord words

/-- What a word of the state looks like from outside. -/
def temper (word : UInt32) : UInt32 :=
  let a := word ^^^ (word >>> 11)
  let b := a ^^^ ((a <<< 7) &&& 0x9D2C5680)
  let c := b ^^^ ((b <<< 15) &&& 0xEFC60000)
  c ^^^ (c >>> 18)

/-- The next random word. -/
def next (twister : Twister) : UInt32 × Twister :=
  if twister.used < 624 then
    (temper (wordAt twister.words twister.used), ⟨twister.words, twister.used + 1⟩)
  else
    let words := renew twister.words
    (temper (wordAt words 0), ⟨words, 1⟩)

/-- The byte of the first word without its leading bit set, passing over at most
`patience` words. -/
def nextByteWithin : Nat → Twister → Byte × Twister
  | 0, twister =>
    let (word, rest) := twister.next
    (UInt8.ofNat (word.toNat / 2 ^ 23), rest)
  | patience + 1, twister =>
    let (word, rest) := twister.next
    if word.toNat / 2 ^ 23 < 256 then (UInt8.ofNat (word.toNat / 2 ^ 23), rest)
    else nextByteWithin patience rest

/-- The next random byte. -/
@[irreducible] def nextByte (twister : Twister) : Byte × Twister :=
  nextByteWithin 19937 twister

end Twister

end Chip8
