import TexFlat.Encoding.Index.JisX0208
import TexFlat.Encoding.Index.JisX0212
import TexFlat.Encoding.Stepwise

/-!
# Japanese encodings

Shift_JIS, EUC-JP and ISO-2022-JP lay out the same index, 188 or 94 cells to a row. Writing is
more lenient than reading: the yen sign and the overline are written as the ASCII bytes that stand
in their places, and a minus sign as its full-width form.
-/

namespace TexFlat.Encoding

/-- The byte at `base` and `offset` beyond it. -/
def byteAt (base offset : Nat) : UInt8 := UInt8.ofNat (base + offset)

def isWithin (low high : Nat) (byte : UInt8) : Bool := low ≤ byte.toNat && byte.toNat ≤ high

/-- The half-width katakana that stand for the bytes from A1 to DF. -/
def katakana? (byte : UInt8) : Option Char :=
  if isWithin 0xA1 0xDF byte then some (Char.ofNat (0xFF61 + (byte.toNat - 0xA1))) else none

def katakanaByte? (c : Char) : Option UInt8 :=
  if 0xFF61 ≤ c.toNat ∧ c.toNat ≤ 0xFF9F then some (byteAt 0xA1 (c.toNat - 0xFF61)) else none

/-- The character that is written for a minus sign. -/
def fullWidthMinus (c : Char) : Char := if c = '\u2212' then '\uff0d' else c

/-- The ASCII byte in whose place a character stands in the Roman set. -/
def romanByte? (c : Char) : Option UInt8 :=
  if c = '\u00a5' then some 0x5C else if c = '\u203e' then some 0x7E else none

/-- The two bytes of a pointer, 94 cells to a row, with the rows and the cells from `base` on. -/
def rowAndCell (base pointer : Nat) : Bytes :=
  [byteAt base (pointer / 94), byteAt base (pointer % 94)]

namespace ShiftJis

/-- The pointer of two bytes. -/
def pointer? (lead trail : UInt8) : Option Nat :=
  if (isWithin 0x40 0x7E trail || isWithin 0x80 0xFC trail) = true then
    let row := lead.toNat - (if lead < 0xA0 then 0x81 else 0xC1)
    some (row * 188 + (trail.toNat - (if trail < 0x7F then 0x40 else 0x41)))
  else none

/-- Pointers from 8836 to 10715 are for private characters. -/
def charAt? (pointer : Nat) : Option Char :=
  if 8836 ≤ pointer ∧ pointer ≤ 10715 then some (Char.ofNat (0xE000 + (pointer - 8836)))
  else Index.jisX0208.charAt? pointer

def front? : Bytes → Option Front
  | [] => none
  | byte :: others =>
    if byte ≤ 0x80 then some ⟨[Char.ofNat byte.toNat], 0⟩
    else
      match katakana? byte, others with
      | some c, _ => some ⟨[c], 0⟩
      | none, [] => none
      | none, trail :: _ =>
        if isWithin 0x81 0x9F byte || isWithin 0xE0 0xFC byte then
          ((pointer? byte trail).bind charAt?).map fun c => ⟨[c], 1⟩
        else none

def bytesAt (pointer : Nat) : Bytes :=
  let row := pointer / 188
  let cell := pointer % 188
  [byteAt (if row < 0x1F then 0x81 else 0xC1) row, byteAt (if cell < 0x3F then 0x40 else 0x41) cell]

/-- A character is not written at the second place that the extensions gave to some. -/
def bytesOf? (c : Char) : Option Bytes :=
  if c.toNat ≤ 0x80 then some [UInt8.ofNat c.toNat]
  else
    match romanByte? c, katakanaByte? c with
    | some byte, _ => some [byte]
    | none, some byte => some [byte]
    | none, none =>
      ((Index.jisX0208.pointersOf (fullWidthMinus c)).find? fun pointer =>
        pointer < 8272 || 8836 ≤ pointer).map bytesAt

end ShiftJis

namespace EucJp

/-- The character of a row and a cell, both from A1 to FE. -/
def charAt? (index : Index) (row cell : UInt8) : Option Char :=
  if isWithin 0xA1 0xFE row && isWithin 0xA1 0xFE cell then
    index.charAt? ((row.toNat - 0xA1) * 94 + (cell.toNat - 0xA1))
  else none

def front? : Bytes → Option Front
  | [] => none
  | byte :: others =>
    if byte < 0x80 then some ⟨[Char.ofNat byte.toNat], 0⟩
    else if byte = 0x8E then
      match others with
      | [] => none
      | kana :: _ => (katakana? kana).map fun c => ⟨[c], 1⟩
    else if byte = 0x8F then
      match others with
      | row :: cell :: _ => (charAt? Index.jisX0212 row cell).map fun c => ⟨[c], 2⟩
      | _ => none
    else
      match others with
      | [] => none
      | cell :: _ => (charAt? Index.jisX0208 byte cell).map fun c => ⟨[c], 1⟩

def bytesOf? (c : Char) : Option Bytes :=
  if c.toNat < 0x80 then some [UInt8.ofNat c.toNat]
  else
    match romanByte? c, katakanaByte? c with
    | some byte, _ => some [byte]
    | none, some byte => some [0x8E, byte]
    | none, none => (Index.jisX0208.pointerOf? (fullWidthMinus c)).map (rowAndCell 0xA1)

end EucJp

namespace Iso2022Jp

/-- The character sets between which the escape sequences switch. -/
inductive Charset
  | ascii
  | roman
  | katakana
  | jisX0208
deriving DecidableEq, Repr

namespace Charset

def ofEscape? : UInt8 → UInt8 → Option Charset
  | 0x28, 0x42 => some ascii
  | 0x28, 0x4A => some roman
  | 0x28, 0x49 => some katakana
  | 0x24, 0x40 => some jisX0208
  | 0x24, 0x42 => some jisX0208
  | _, _ => none

def escape : Charset → Bytes
  | ascii => [0x1B, 0x28, 0x42]
  | roman => [0x1B, 0x28, 0x4A]
  | katakana => [0x1B, 0x28, 0x49]
  | jisX0208 => [0x1B, 0x24, 0x42]

end Charset

/-- The bytes that switch sets in other forms of the standard. -/
def isControl (n : Nat) : Bool := n = 0x0E || n = 0x0F || n = 0x1B

/-- The character of one byte in a single-byte set. -/
def single? (charset : Charset) (byte : UInt8) : Option Char :=
  match charset with
  | .ascii => if byte < 0x80 && !isControl byte.toNat then some (Char.ofNat byte.toNat) else none
  | .roman =>
    if byte = 0x5C then some '\u00a5'
    else if byte = 0x7E then some '\u203e'
    else if byte < 0x80 && !isControl byte.toNat then some (Char.ofNat byte.toNat)
    else none
  | .katakana =>
    if isWithin 0x21 0x5F byte then some (Char.ofNat (0xFF61 + (byte.toNat - 0x21))) else none
  | .jisX0208 => none

def pair? (row cell : UInt8) : Option Char :=
  if isWithin 0x21 0x7E row && isWithin 0x21 0x7E cell then
    Index.jisX0208.charAt? ((row.toNat - 0x21) * 94 + (cell.toNat - 0x21))
  else none

/-- Decoding in a character set, with the characters so far last first. `idle` says that an escape
sequence was read and no character since: another escape sequence would be malformed there. -/
def decodeFrom? (done : Text) (charset : Charset) (idle : Bool) : Bytes → Option Text
  | [] => some done.reverse
  | [byte] => (single? charset byte).map fun c => (c :: done).reverse
  | [a, b] =>
    if charset = .jisX0208 then (pair? a b).map fun c => (c :: done).reverse
    else
      match single? charset a with
      | none => none
      | some c => decodeFrom? (c :: done) charset false [b]
  | a :: b :: c :: bytes =>
    if a = 0x1B then
      match Charset.ofEscape? b c with
      | none => none
      | some next => if idle then none else decodeFrom? done next true bytes
    else if charset = .jisX0208 then
      match pair? a b with
      | none => none
      | some char => decodeFrom? (char :: done) charset false (c :: bytes)
    else
      match single? charset a with
      | none => none
      | some char => decodeFrom? (char :: done) charset false (b :: c :: bytes)

def decode? (bytes : Bytes) : Option Text := decodeFrom? [] .ascii false bytes

/-- The full-width forms of the half-width katakana, in the order of these. -/
def fullWidthKatakana : Text :=
  ("。「」、・ヲァィゥェォャュョッーアイウエオカキクケコサシスセソタチツテト" ++
    "ナニヌネノハヒフヘホマミムメモヤユヨラリルレロワン゛゜").toList

/-- The character that is written for a half-width one. -/
def fullWidth (c : Char) : Char :=
  match katakanaByte? c with
  | none => fullWidthMinus c
  | some byte => (fullWidthKatakana[byte.toNat - 0xA1]?).getD c

/-- The character set in which a character is written when the set in force is `current`, and its
bytes in that set. -/
def written? (current : Charset) (c : Char) : Option (Charset × Bytes) :=
  if c.toNat < 0x80 then
    if isControl c.toNat then none
    else
      let stays := current = .roman ∧ c ≠ '\\' ∧ c ≠ '~'
      some (if stays then .roman else .ascii, [UInt8.ofNat c.toNat])
  else
    match romanByte? c with
    | some byte => some (.roman, [byte])
    | none => (Index.jisX0208.pointerOf? (fullWidth c)).map fun p => (.jisX0208, rowAndCell 0x21 p)

/-- Encoding from where `current` is in force, with the bytes so far last first. The end of a text
is in ASCII. -/
def encodeFrom? (done : Bytes) (current : Charset) : Text → Option Bytes
  | [] => some (done.reverse ++ if current = .ascii then [] else Charset.escape .ascii)
  | c :: text =>
    match written? current c with
    | none => none
    | some (charset, bytes) =>
      let bytes := if charset = current then bytes else charset.escape ++ bytes
      encodeFrom? (bytes.reverse ++ done) charset text

def encode? (text : Text) : Option Bytes := encodeFrom? [] .ascii text

end Iso2022Jp
end TexFlat.Encoding
