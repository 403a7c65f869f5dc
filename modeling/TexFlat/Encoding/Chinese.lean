import TexFlat.Encoding.Index.Big5
import TexFlat.Encoding.Index.Gb18030
import TexFlat.Encoding.Japanese

/-!
# Chinese encodings

GB 18030 writes every character, in one, two or four bytes. GBK is read in the same way and written
without the four-byte form. Big5 has bytes for a few pairs of characters.
-/

namespace TexFlat.Encoding

/-- The pointer of two bytes with 190 cells to a row. -/
def pairPointer? (lead trail : UInt8) : Option Nat :=
  if isWithin 0x40 0x7E trail || isWithin 0x80 0xFE trail then
    let cell := trail.toNat - (if trail < 0x7F then 0x40 else 0x41)
    some ((lead.toNat - 0x81) * 190 + cell)
  else none

namespace Gb18030

/-- The last stretch of four-byte characters to begin at or before a place, as `start` finds it. -/
def range? (start : Nat × Nat → Nat) (place : Nat) : Option (Nat × Nat) :=
  (Index.gb18030Ranges.reverse).find? fun range => start range ≤ place

/-- The character of a four-byte pointer. -/
def longChar? (pointer : Nat) : Option Char :=
  if 39419 < pointer ∧ pointer < 189000 ∨ 1237575 < pointer then none
  else if pointer = 7457 then some '\ue7c7'
  else (range? Prod.fst pointer).map fun (start, first) => Char.ofNat (first + (pointer - start))

def longPointer? (c : Char) : Option Nat :=
  if c = '\ue7c7' then some 7457
  else (range? Prod.snd c.toNat).map fun (start, first) => start + (c.toNat - first)

def front? : Bytes → Option Front
  | [] => none
  | byte :: others =>
    if byte < 0x80 then some ⟨[Char.ofNat byte.toNat], 0⟩
    else if byte = 0x80 then some ⟨['€'], 0⟩
    else if byte = 0xFF then none
    else
      match others with
      | [] => none
      | second :: others =>
        if isWithin 0x30 0x39 second then
          match others with
          | third :: fourth :: _ =>
            if isWithin 0x81 0xFE third && isWithin 0x30 0x39 fourth then
              let pointer := (((byte.toNat - 0x81) * 10 + (second.toNat - 0x30)) * 126 +
                (third.toNat - 0x81)) * 10 + (fourth.toNat - 0x30)
              (longChar? pointer).map fun c => ⟨[c], 3⟩
            else none
          | _ => none
        else
          ((pairPointer? byte second).bind Index.gb18030Pairs.charAt?).map fun c => ⟨[c], 1⟩

/-- Private characters that have bytes of their own, from before their signs had code points. -/
def privatePairs : List (Nat × Bytes) :=
  [(0xE81E, [0xFE, 0x59]), (0xE826, [0xFE, 0x61]), (0xE82B, [0xFE, 0x66]), (0xE82C, [0xFE, 0x67]),
    (0xE832, [0xFE, 0x6D]), (0xE843, [0xFE, 0x7E]), (0xE854, [0xFE, 0x90]), (0xE864, [0xFE, 0xA0]),
    (0xE78D, [0xA6, 0xD9]), (0xE78E, [0xA6, 0xDA]), (0xE78F, [0xA6, 0xDB]), (0xE790, [0xA6, 0xDC]),
    (0xE791, [0xA6, 0xDD]), (0xE792, [0xA6, 0xDE]), (0xE793, [0xA6, 0xDF]), (0xE794, [0xA6, 0xEC]),
    (0xE795, [0xA6, 0xED]), (0xE796, [0xA6, 0xF3])]

def pairAt (pointer : Nat) : Bytes :=
  let cell := pointer % 190
  [byteAt 0x81 (pointer / 190), byteAt (if cell < 0x3F then 0x40 else 0x41) cell]

def longAt (pointer : Nat) : Bytes :=
  [byteAt 0x81 (pointer / 12600), byteAt 0x30 (pointer / 1260 % 10),
    byteAt 0x81 (pointer / 10 % 126), byteAt 0x30 (pointer % 10)]

/-- The bytes of a character in one or two bytes. -/
def shortBytes? (c : Char) : Option Bytes :=
  if c.toNat < 0x80 then some [UInt8.ofNat c.toNat]
  else
    match privatePairs.lookup c.toNat with
    | some bytes => some bytes
    | none => (Index.gb18030Pairs.pointerOf? c).map pairAt

/-- One private character is left without bytes: its place belongs to the ideographic space. -/
def bytesOf? (c : Char) : Option Bytes :=
  if c = '\ue5e5' then none
  else
    match shortBytes? c with
    | some bytes => some bytes
    | none => (longPointer? c).map longAt

end Gb18030

namespace Gbk

def bytesOf? (c : Char) : Option Bytes :=
  if c = '€' then some [0x80] else Gb18030.shortBytes? c

end Gbk

namespace Big5

/-- The pointers that stand for a letter and an accent. -/
def accented : List (Nat × Text) :=
  [(1133, ['\u00ca', '\u0304']), (1135, ['\u00ca', '\u030c']), (1164, ['\u00ea', '\u0304']),
    (1166, ['\u00ea', '\u030c'])]

def pointer? (lead trail : UInt8) : Option Nat :=
  if isWithin 0x40 0x7E trail || isWithin 0xA1 0xFE trail then
    let cell := trail.toNat - (if trail < 0x7F then 0x40 else 0x62)
    some ((lead.toNat - 0x81) * 157 + cell)
  else none

def charsAt? (pointer : Nat) : Option Text :=
  match accented.lookup pointer with
  | some chars => some chars
  | none => (Index.big5Pairs.charAt? pointer).map ([·])

def front? : Bytes → Option Front
  | [] => none
  | byte :: others =>
    if byte < 0x80 then some ⟨[Char.ofNat byte.toNat], 0⟩
    else
      match others with
      | [] => none
      | trail :: _ =>
        if isWithin 0x81 0xFE byte then
          ((pointer? byte trail).bind charsAt?).map fun chars => ⟨chars, 1⟩
        else none

/-- The characters that are written at the last of their pointers. -/
def writtenLast : Text := ['═', '╞', '╡', '╪', '十', '卅']

def bytesAt (pointer : Nat) : Bytes :=
  let cell := pointer % 157
  [byteAt 0x81 (pointer / 157), byteAt (if cell < 0x3F then 0x40 else 0x62) cell]

/-- The Hong Kong pointers before 5024 are only read. -/
def bytesOf? (c : Char) : Option Bytes :=
  if c.toNat < 0x80 then some [UInt8.ofNat c.toNat]
  else
    let pointers := (Index.big5Pairs.pointersOf c).filter (5024 ≤ ·)
    (if c ∈ writtenLast then pointers.getLast? else pointers.head?).map bytesAt

end Big5
end TexFlat.Encoding
