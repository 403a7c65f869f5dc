import TexFlat.Text

/-!
# Stepwise decoding

A decoder says what stands at the front of a byte sequence and how many bytes it takes. `decodeBy`
goes on until the bytes are used up and fails where the decoder does; `encodeBy` writes character
by character.
-/

namespace TexFlat

abbrev Bytes := List UInt8

namespace Encoding

/-- The characters at the front of a byte sequence and the number of bytes behind the first one
that belong to them. -/
structure Front where
  chars : Text
  more : Nat

/-- Decoding from where `pending` bytes still belong to the characters in `done`, which stand last
first. -/
def decodeFrom (front? : Bytes → Option Front) (done : Text) : (pending : Nat) → Bytes → Option Text
  | _, [] => some done.reverse
  | pending + 1, _ :: bytes => decodeFrom front? done pending bytes
  | 0, byte :: bytes =>
    match front? (byte :: bytes) with
    | none => none
    | some front => decodeFrom front? (front.chars.reverse ++ done) front.more bytes

def decodeBy (front? : Bytes → Option Front) (bytes : Bytes) : Option Text :=
  decodeFrom front? [] 0 bytes

def encodeBy (bytesOf? : Char → Option Bytes) (text : Text) : Option Bytes :=
  (text.mapM bytesOf?).map List.flatten

end Encoding
end TexFlat
