import TexFlat.Encoding.Index.Ks
import TexFlat.Encoding.Japanese

/-!
# The Korean encoding

EUC-KR with the unified Hangul extension, 190 cells to a row.
-/

namespace TexFlat.Encoding.EucKr

def front? : Bytes → Option Front
  | [] => none
  | byte :: others =>
    if byte < 0x80 then some ⟨[Char.ofNat byte.toNat], 0⟩
    else
      match others with
      | [] => none
      | trail :: _ =>
        if isWithin 0x81 0xFE byte && isWithin 0x41 0xFE trail then
          let pointer := (byte.toNat - 0x81) * 190 + (trail.toNat - 0x41)
          (Index.ksPairs.charAt? pointer).map fun c => ⟨[c], 1⟩
        else none

def bytesOf? (c : Char) : Option Bytes :=
  if c.toNat < 0x80 then some [UInt8.ofNat c.toNat]
  else
    (Index.ksPairs.pointerOf? c).map fun pointer =>
      [byteAt 0x81 (pointer / 190), byteAt 0x41 (pointer % 190)]

end TexFlat.Encoding.EucKr
