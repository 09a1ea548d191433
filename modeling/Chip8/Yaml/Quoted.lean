/-
# Quoted scalars

Between single quotes everything stands for itself, and two quotes stand for one.
Between double quotes a backslash starts an escape; at the end of a line it joins
the line with the next. In both, white space around a line end folds away.
-/

import Chip8.Yaml.Cursor

namespace Chip8.Yaml

/-- The two ways to quote. -/
inductive QuoteStyle where
  | single
  | double
  deriving DecidableEq, Repr

/-- The character that quotes. -/
def QuoteStyle.mark : QuoteStyle → Char
  | single => Char.ofNat 0x27
  | double => Char.ofNat 0x22

/-- The style that a character opens. -/
def QuoteStyle.ofMark? (character : Char) : Option QuoteStyle :=
  if character = single.mark then some single
  else if character = double.mark then some double
  else none

/-- What a one-letter escape stands for. -/
def simpleEscape? (letter : Char) : Option Char :=
  let table : List (Char × Nat) :=
    [('0', 0), ('a', 7), ('b', 8), ('t', 9), ('\t', 9), ('n', 10), ('v', 11), ('f', 12),
      ('r', 13), ('e', 27), (' ', 32), (Char.ofNat 0x22, 0x22), ('\\', 0x5C), ('/', 0x2F),
      ('N', 0x85), ('_', 0xA0), ('L', 0x2028), ('P', 0x2029)]
  (table.lookup letter).map Char.ofNat

/-- The number of hexadecimal digits behind the letter of a code escape. -/
def codeEscapeWidth? (letter : Char) : Option Nat :=
  [('x', 2), ('u', 4), ('U', 8)].lookup letter

/-- The value of a hexadecimal digit. -/
def hexDigit? (character : Char) : Option Nat :=
  if '0' ≤ character ∧ character ≤ '9' then some (character.toNat - '0'.toNat)
  else if 'a' ≤ character ∧ character ≤ 'f' then some (character.toNat - 'a'.toNat + 10)
  else if 'A' ≤ character ∧ character ≤ 'F' then some (character.toNat - 'A'.toNat + 10)
  else none

/-- The character of a hexadecimal code, if there is one. A surrogate is none: texts
here are made of whole characters. -/
def codePoint? (digits : List Char) : Option Char := do
  let values ← digits.mapM hexDigit?
  let point := values.foldl (fun value digit => 16 * value + digit) 0
  if point < 0xD800 ∨ (0xDFFF < point ∧ point < 0x110000) then some (Char.ofNat point) else none

/-- White space inside quotes. -/
def isQuoteBlank (character : Char) : Bool :=
  character == ' ' || character == '\t'

/-- Read to the closing quote in at most so many turns. `text` holds what was read
so far, the latest first; the flag tells that a line ended inside. -/
def quotedWithin (style : QuoteStyle) : Nat → List Char → Bool → Cursor →
    Option (List Char × Bool × Cursor)
  | 0, _, _, _ => none
  | turns + 1, text, crossed, cursor =>
    match cursor.rest with
    | [] => none
    | character :: rest =>
      if character = style.mark then
        if style = .single ∧ rest.head? = some style.mark then
          quotedWithin style turns (character :: text) crossed (cursor.drop 2)
        else some (text, crossed, cursor.drop 1)
      else if style = .double ∧ character = '\\' then
        match rest with
        | [] => none
        | letter :: more =>
          if isBreak letter then
            match skipBreaksFrom isQuoteBlank cursor.column [] rest with
            | some (_ :: breaks, next) =>
              quotedWithin style turns (breaks.reverse ++ text) true next
            | _ => none
          else
            match simpleEscape? letter, codeEscapeWidth? letter with
            | some plain, _ => quotedWithin style turns (plain :: text) crossed (cursor.drop 2)
            | none, some width =>
              if more.length < width then none
              else
                match codePoint? (more.take width) with
                | some point =>
                  quotedWithin style turns (point :: text) crossed (cursor.drop (2 + width))
                | none => none
            | none, none => none
      else if isQuoteBlank character || isBreak character then
        let blanks := cursor.rest.takeWhile isQuoteBlank
        let after := cursor.drop blanks.length
        if (after.rest.head?.map isBreak).getD false then
          match skipBreaksFrom isQuoteBlank after.column [] after.rest with
          | some (breaks, next) =>
            quotedWithin style turns ((foldBreaks breaks).reverse ++ text) true next
          | none => none
        else quotedWithin style turns (blanks.reverse ++ text) crossed after
      else quotedWithin style turns (character :: text) crossed (cursor.drop 1)

/-- Read a quoted scalar whose opening quote stands here. -/
def quoted (style : QuoteStyle) (cursor : Cursor) : Option (List Char × Bool × Cursor) :=
  (quotedWithin style (cursor.rest.length + 1) [] false (cursor.drop 1)).map
    fun (text, crossed, last) => (text.reverse, crossed, last)

end Chip8.Yaml
