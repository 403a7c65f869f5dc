import TexFlat.Encoding.CodePage

/-!
# Encodings

The encodings of the web, each with its canonical name and the labels that it answers to. A label
is looked up without the blanks around it and without regard to ASCII case.
-/

namespace TexFlat

inductive ByteOrder
  | little
  | big
deriving DecidableEq, Repr

inductive Encoding
  | utf8
  | utf16 (order : ByteOrder)
  | replacement
  | userDefined
  | singleByte (page : CodePage)
  | gbk
  | gb18030
  | big5
  | eucJp
  | iso2022Jp
  | shiftJis
  | eucKr
deriving DecidableEq, Repr

namespace Encoding

def all : List Encoding :=
  [.utf8, .utf16 .little, .utf16 .big, .replacement, .userDefined, .gbk, .gb18030, .big5, .eucJp,
    .iso2022Jp, .shiftJis, .eucKr] ++ CodePage.all.map .singleByte

def name : Encoding → Text
  | .utf8 => "UTF-8".toList
  | .utf16 .little => "UTF-16LE".toList
  | .utf16 .big => "UTF-16BE".toList
  | .replacement => "replacement".toList
  | .userDefined => "x-user-defined".toList
  | .gbk => "GBK".toList
  | .gb18030 => "gb18030".toList
  | .big5 => "Big5".toList
  | .eucJp => "EUC-JP".toList
  | .iso2022Jp => "ISO-2022-JP".toList
  | .shiftJis => "Shift_JIS".toList
  | .eucKr => "EUC-KR".toList
  | .singleByte page => page.name

/-- The labels of an encoding, in lower case. -/
def labels : Encoding → List String
  | .utf8 =>
    ["utf8", "utf-8", "unicode20utf8", "unicode11utf8", "x-unicode20utf8", "unicode-1-1-utf-8"]
  | .utf16 .little =>
    ["ucs-2", "utf-16", "unicode", "utf-16le", "csunicode", "unicodefeff", "iso-10646-ucs-2"]
  | .utf16 .big =>
    ["utf-16be", "unicodefffe"]
  | .replacement =>
    ["hz-gb-2312", "iso-2022-cn", "iso-2022-kr", "csiso2022kr", "replacement", "iso-2022-cn-ext"]
  | .userDefined =>
    ["x-user-defined"]
  | .gbk =>
    ["gbk", "x-gbk", "gb2312", "gb_2312", "chinese", "csgb2312", "iso-ir-58", "gb_2312-80",
      "csiso58gb231280"]
  | .gb18030 =>
    ["gb18030"]
  | .big5 =>
    ["big5", "csbig5", "cn-big5", "x-x-big5", "big5-hkscs"]
  | .eucJp =>
    ["euc-jp", "x-euc-jp", "cseucpkdfmtjapanese"]
  | .iso2022Jp =>
    ["iso-2022-jp", "csiso2022jp"]
  | .shiftJis =>
    ["sjis", "ms932", "x-sjis", "ms_kanji", "shift-jis", "shift_jis", "csshiftjis", "windows-31j"]
  | .eucKr =>
    ["korean", "euc-kr", "ksc5601", "cseuckr", "ksc_5601", "iso-ir-149", "windows-949",
      "csksc56011987", "ks_c_5601-1987", "ks_c_5601-1989"]
  | .singleByte page => page.labels

/-- The encoding that a label names. -/
def ofLabel? (label : Text) : Option Encoding :=
  let key := (Text.trim label).map Char.toLower
  all.find? fun encoding => encoding.labels.any fun known => known.toList == key

end Encoding
end TexFlat
