import TexFlat.Encoding.Chinese
import TexFlat.Encoding.Korean
import TexFlat.Encoding.Unicode

/-!
# Decoding and encoding

`Encoding.decode?` is strict: bytes that are malformed in the encoding stand for no text.
`Encoding.encode?` fails on a character that the encoding cannot write. An encoding that is only
read (UTF-16 and the replacement encoding) is written as UTF-8.
-/

namespace TexFlat.Encoding

def single (c : Char) : Front := ⟨[c], 0⟩

def codePageFront? (page : CodePage) : Bytes → Option Front
  | [] => none
  | byte :: _ => (page.charOf? byte).map single

/-- The bytes from 80 to FF stand for the private characters from U+F780 to U+F7FF. -/
def userDefinedFront? : Bytes → Option Front
  | [] => none
  | byte :: _ =>
    some (single (Char.ofNat (if byte < 128 then byte.toNat else 0xF700 + byte.toNat)))

def userDefinedByte? (c : Char) : Option Bytes :=
  if c.toNat < 128 then some [UInt8.ofNat c.toNat]
  else if 0xF780 ≤ c.toNat ∧ c.toNat ≤ 0xF7FF then some [UInt8.ofNat (c.toNat - 0xF700)]
  else none

def decode? : Encoding → Bytes → Option Text
  | utf8, bytes => decodeUtf8? bytes
  | utf16 order, bytes => decodeUtf16? order bytes
  | replacement, bytes => if bytes = [] then some [] else none
  | userDefined, bytes => decodeBy userDefinedFront? bytes
  | singleByte page, bytes => decodeBy (codePageFront? page) bytes
  | gbk, bytes => decodeBy Gb18030.front? bytes
  | gb18030, bytes => decodeBy Gb18030.front? bytes
  | big5, bytes => decodeBy Big5.front? bytes
  | eucJp, bytes => decodeBy EucJp.front? bytes
  | iso2022Jp, bytes => Iso2022Jp.decode? bytes
  | shiftJis, bytes => decodeBy ShiftJis.front? bytes
  | eucKr, bytes => decodeBy EucKr.front? bytes

def encode? : Encoding → Text → Option Bytes
  | userDefined, text => encodeBy userDefinedByte? text
  | singleByte page, text => encodeBy (fun c => (page.byteOf? c).map ([·])) text
  | gbk, text => encodeBy Gbk.bytesOf? text
  | gb18030, text => encodeBy Gb18030.bytesOf? text
  | big5, text => encodeBy Big5.bytesOf? text
  | eucJp, text => encodeBy EucJp.bytesOf? text
  | iso2022Jp, text => Iso2022Jp.encode? text
  | shiftJis, text => encodeBy ShiftJis.bytesOf? text
  | eucKr, text => encodeBy EucKr.bytesOf? text
  | utf8, text => some (encodeUtf8 text)
  | utf16 _, text => some (encodeUtf8 text)
  | replacement, text => some (encodeUtf8 text)

end TexFlat.Encoding
