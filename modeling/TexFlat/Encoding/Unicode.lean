import TexFlat.Encoding.Basic
import TexFlat.Encoding.Stepwise

/-!
# UTF-8 and UTF-16

Strict decoding: no byte sequence stands for a surrogate, and none has a second spelling. A byte
order mark is a character like any other.
-/

namespace TexFlat.Encoding

def decodeUtf8? (bytes : Bytes) : Option Text :=
  (String.fromUTF8? ⟨bytes.toArray⟩).map String.toList

def encodeUtf8 (text : Text) : Bytes := (String.ofList text).toUTF8.data.toList

/-- The code unit that two bytes make. -/
def ByteOrder.unit : ByteOrder → UInt8 → UInt8 → Nat
  | .little, a, b => b.toNat * 256 + a.toNat
  | .big, a, b => a.toNat * 256 + b.toNat

/-- The character at the front of a UTF-16 text: one code unit, or two surrogates in order. -/
def utf16Front? (order : ByteOrder) : Bytes → Option Front
  | a :: b :: others =>
    let high := ByteOrder.unit order a b
    if high < 0xD800 ∨ 0xE000 ≤ high then some ⟨[Char.ofNat high], 1⟩
    else if 0xDC00 ≤ high then none
    else
      match others with
      | c :: d :: _ =>
        let low := ByteOrder.unit order c d
        if 0xDC00 ≤ low ∧ low < 0xE000 then
          some ⟨[Char.ofNat (0x10000 + (high - 0xD800) * 0x400 + (low - 0xDC00))], 3⟩
        else none
      | _ => none
  | _ => none

def decodeUtf16? (order : ByteOrder) : Bytes → Option Text := decodeBy (utf16Front? order)

end TexFlat.Encoding
