import TexFlat.Text

/-!
# Code pages

A code page gives a meaning to the bytes from 80 to FF, each a character or none; the bytes below
are ASCII. `upper` lists the 128 meanings in order, with U+FFFD for a byte that has none.
-/

namespace TexFlat

inductive CodePage
  | ibm866
  | iso8859x2
  | iso8859x3
  | iso8859x4
  | iso8859x5
  | iso8859x6
  | iso8859x7
  | iso8859x8
  | iso8859x8Logical
  | iso8859x10
  | iso8859x13
  | iso8859x14
  | iso8859x15
  | iso8859x16
  | koi8r
  | koi8u
  | macintosh
  | windows874
  | windows1250
  | windows1251
  | windows1252
  | windows1253
  | windows1254
  | windows1255
  | windows1256
  | windows1257
  | windows1258
  | macCyrillic
deriving DecidableEq, Repr

namespace CodePage

def all : List CodePage :=
  [.ibm866, .iso8859x2, .iso8859x3, .iso8859x4, .iso8859x5, .iso8859x6, .iso8859x7, .iso8859x8,
    .iso8859x8Logical, .iso8859x10, .iso8859x13, .iso8859x14, .iso8859x15, .iso8859x16, .koi8r,
    .koi8u, .macintosh, .windows874, .windows1250, .windows1251, .windows1252, .windows1253,
    .windows1254, .windows1255, .windows1256, .windows1257, .windows1258, .macCyrillic]

def name : CodePage → Text
  | .ibm866 => "IBM866".toList
  | .iso8859x2 => "ISO-8859-2".toList
  | .iso8859x3 => "ISO-8859-3".toList
  | .iso8859x4 => "ISO-8859-4".toList
  | .iso8859x5 => "ISO-8859-5".toList
  | .iso8859x6 => "ISO-8859-6".toList
  | .iso8859x7 => "ISO-8859-7".toList
  | .iso8859x8 => "ISO-8859-8".toList
  | .iso8859x8Logical => "ISO-8859-8-I".toList
  | .iso8859x10 => "ISO-8859-10".toList
  | .iso8859x13 => "ISO-8859-13".toList
  | .iso8859x14 => "ISO-8859-14".toList
  | .iso8859x15 => "ISO-8859-15".toList
  | .iso8859x16 => "ISO-8859-16".toList
  | .koi8r => "KOI8-R".toList
  | .koi8u => "KOI8-U".toList
  | .macintosh => "macintosh".toList
  | .windows874 => "windows-874".toList
  | .windows1250 => "windows-1250".toList
  | .windows1251 => "windows-1251".toList
  | .windows1252 => "windows-1252".toList
  | .windows1253 => "windows-1253".toList
  | .windows1254 => "windows-1254".toList
  | .windows1255 => "windows-1255".toList
  | .windows1256 => "windows-1256".toList
  | .windows1257 => "windows-1257".toList
  | .windows1258 => "windows-1258".toList
  | .macCyrillic => "x-mac-cyrillic".toList

/-- The labels of a code page, in lower case. -/
def labels : CodePage → List String
  | .ibm866 =>
    ["866", "cp866", "ibm866", "csibm866"]
  | .iso8859x2 =>
    ["l2", "latin2", "iso88592", "iso8859-2", "iso-ir-101", "iso-8859-2", "iso_8859-2",
      "csisolatin2", "iso_8859-2:1987"]
  | .iso8859x3 =>
    ["l3", "latin3", "iso88593", "iso8859-3", "iso-8859-3", "iso_8859-3", "iso-ir-109",
      "csisolatin3", "iso_8859-3:1988"]
  | .iso8859x4 =>
    ["l4", "latin4", "iso88594", "iso8859-4", "iso-ir-110", "iso-8859-4", "iso_8859-4",
      "csisolatin4", "iso_8859-4:1988"]
  | .iso8859x5 =>
    ["iso88595", "cyrillic", "iso8859-5", "iso-ir-144", "iso-8859-5", "iso_8859-5",
      "iso_8859-5:1988", "csisolatincyrillic"]
  | .iso8859x6 =>
    ["arabic", "ecma-114", "iso88596", "asmo-708", "iso8859-6", "iso-8859-6", "iso_8859-6",
      "iso-ir-127", "csiso88596e", "csiso88596i", "iso-8859-6-e", "iso-8859-6-i",
      "iso_8859-6:1987", "csisolatinarabic"]
  | .iso8859x7 =>
    ["greek", "greek8", "iso88597", "ecma-118", "elot_928", "iso8859-7", "iso-ir-126",
      "iso-8859-7", "iso_8859-7", "sun_eu_greek", "iso_8859-7:1987", "csisolatingreek"]
  | .iso8859x8 =>
    ["visual", "hebrew", "iso88598", "iso8859-8", "iso-8859-8", "iso_8859-8", "iso-ir-138",
      "csiso88598e", "iso-8859-8-e", "iso_8859-8:1988", "csisolatinhebrew"]
  | .iso8859x8Logical =>
    ["logical", "csiso88598i", "iso-8859-8-i"]
  | .iso8859x10 =>
    ["l6", "latin6", "iso885910", "iso8859-10", "iso-ir-157", "iso-8859-10", "csisolatin6"]
  | .iso8859x13 =>
    ["iso885913", "iso8859-13", "iso-8859-13"]
  | .iso8859x14 =>
    ["iso885914", "iso8859-14", "iso-8859-14"]
  | .iso8859x15 =>
    ["l9", "iso885915", "iso8859-15", "iso-8859-15", "iso_8859-15", "csisolatin9"]
  | .iso8859x16 =>
    ["iso-8859-16"]
  | .koi8r =>
    ["koi", "koi8", "koi8-r", "koi8_r", "cskoi8r"]
  | .koi8u =>
    ["koi8-u", "koi8-ru"]
  | .macintosh =>
    ["mac", "macintosh", "csmacintosh", "x-mac-roman"]
  | .windows874 =>
    ["tis-620", "dos-874", "iso885911", "iso8859-11", "iso-8859-11", "windows-874"]
  | .windows1250 =>
    ["cp1250", "x-cp1250", "windows-1250"]
  | .windows1251 =>
    ["cp1251", "x-cp1251", "windows-1251"]
  | .windows1252 =>
    ["l1", "cp819", "ascii", "latin1", "cp1252", "ibm819", "iso88591", "x-cp1252", "us-ascii",
      "iso8859-1", "iso-ir-100", "iso-8859-1", "iso_8859-1", "csisolatin1", "windows-1252",
      "ansi_x3.4-1968", "iso_8859-1:1987"]
  | .windows1253 =>
    ["cp1253", "x-cp1253", "windows-1253"]
  | .windows1254 =>
    ["l5", "cp1254", "latin5", "x-cp1254", "iso88599", "iso8859-9", "iso-ir-148", "iso-8859-9",
      "iso_8859-9", "csisolatin5", "windows-1254", "iso_8859-9:1989"]
  | .windows1255 =>
    ["cp1255", "x-cp1255", "windows-1255"]
  | .windows1256 =>
    ["cp1256", "x-cp1256", "windows-1256"]
  | .windows1257 =>
    ["cp1257", "x-cp1257", "windows-1257"]
  | .windows1258 =>
    ["cp1258", "x-cp1258", "windows-1258"]
  | .macCyrillic =>
    ["x-mac-cyrillic", "x-mac-ukrainian"]

/-- The controls from U+0080 to U+009F. -/
def controls : String :=
  "\u0080\u0081\u0082\u0083\u0084\u0085\u0086\u0087\u0088\u0089\u008a\u008b" ++
    "\u008c\u008d\u008e\u008f\u0090\u0091\u0092\u0093\u0094\u0095\u0096\u0097" ++
    "\u0098\u0099\u009a\u009b\u009c\u009d\u009e\u009f"

/-- The meanings of the bytes from 80 to FF. -/
def upper : CodePage → Text
  | .ibm866 =>
    ("АБВГДЕЖЗИЙКЛМНОПРСТУФХЦЧШЩЪЫЬЭЮЯабвгдежзийклмноп░▒▓│┤╡╢╖╕╣║╗╝╜╛┐" ++
      "└┴┬├─┼╞╟╚╔╩╦╠═╬╧╨╤╥╙╘╒╓╫╪┘┌█▄▌▐▀рстуфхцчшщъыьэюяЁёЄєЇїЎў°∙·√№¤■\u00a0").toList
  | .iso8859x2 =>
    (controls ++
      "\u00a0Ą˘Ł¤ĽŚ§¨ŠŞŤŹ\u00adŽŻ°ą˛ł´ľśˇ¸šşťź˝žżŔÁÂĂÄĹĆÇČÉĘËĚÍÎĎĐŃŇÓÔŐÖ×ŘŮÚŰÜÝŢßŕáâăäĺ" ++
      "ćçčéęëěíîďđńňóôőö÷řůúűüýţ˙").toList
  | .iso8859x3 =>
    (controls ++
      "\u00a0Ħ˘£¤\ufffdĤ§¨İŞĞĴ\u00ad\ufffdŻ°ħ²³´µĥ·¸ışğĵ½\ufffdżÀÁÂ\ufffdÄĊĈÇÈÉÊËÌÍÎÏ" ++
      "\ufffdÑÒÓÔĠÖ×ĜÙÚÛÜŬŜßàáâ\ufffdäċĉçèéêëìíîï\ufffdñòóôġö÷ĝùúûüŭŝ˙").toList
  | .iso8859x4 =>
    (controls ++
      "\u00a0ĄĸŖ¤ĨĻ§¨ŠĒĢŦ\u00adŽ¯°ą˛ŗ´ĩļˇ¸šēģŧŊžŋĀÁÂÃÄÅÆĮČÉĘËĖÍÎĪĐŅŌĶÔÕÖ×ØŲÚÛÜŨŪßāáâãäå" ++
      "æįčéęëėíîīđņōķôõö÷øųúûüũū˙").toList
  | .iso8859x5 =>
    (controls ++
      "\u00a0ЁЂЃЄЅІЇЈЉЊЋЌ\u00adЎЏАБВГДЕЖЗИЙКЛМНОПРСТУФХЦЧШЩЪЫЬЭЮЯабвгдежзийклмнопрстуфх" ++
      "цчшщъыьэюя№ёђѓєѕіїјљњћќ§ўџ").toList
  | .iso8859x6 =>
    (controls ++
      "\u00a0\ufffd\ufffd\ufffd¤\ufffd\ufffd\ufffd\ufffd\ufffd\ufffd\ufffd،\u00ad\ufffd" ++
      "\ufffd\ufffd\ufffd\ufffd\ufffd\ufffd\ufffd\ufffd\ufffd\ufffd\ufffd\ufffd\u061b" ++
      "\ufffd\ufffd\ufffd\u061f\ufffd\u0621\u0622\u0623\u0624\u0625\u0626\u0627\u0628" ++
      "\u0629\u062a\u062b\u062c\u062d\u062e\u062f\u0630\u0631\u0632\u0633\u0634\u0635" ++
      "\u0636\u0637\u0638\u0639\u063a\ufffd\ufffd\ufffd\ufffd\ufffd\u0640\u0641\u0642" ++
      "\u0643\u0644\u0645\u0646\u0647\u0648\u0649\u064a\u064b\u064c\u064d\u064e\u064f" ++
      "\u0650\u0651\u0652\ufffd\ufffd\ufffd\ufffd\ufffd\ufffd\ufffd\ufffd\ufffd\ufffd" ++
      "\ufffd\ufffd\ufffd").toList
  | .iso8859x7 =>
    (controls ++
      "\u00a0‘’£€₯¦§¨©ͺ«¬\u00ad\ufffd―°±²³΄΅Ά·ΈΉΊ»Ό½ΎΏΐΑΒΓΔΕΖΗΘΙΚΛΜΝΞΟΠΡ\ufffdΣΤΥΦΧΨΩΪΫ" ++
      "άέήίΰαβγδεζηθικλμνξοπρςστυφχψωϊϋόύώ\ufffd").toList
  | .iso8859x8 | .iso8859x8Logical =>
    (controls ++
      "\u00a0\ufffd¢£¤¥¦§¨©×«¬\u00ad®¯°±²³´µ¶·¸¹÷»¼½¾\ufffd\ufffd\ufffd\ufffd\ufffd" ++
      "\ufffd\ufffd\ufffd\ufffd\ufffd\ufffd\ufffd\ufffd\ufffd\ufffd\ufffd\ufffd\ufffd" ++
      "\ufffd\ufffd\ufffd\ufffd\ufffd\ufffd\ufffd\ufffd\ufffd\ufffd\ufffd\ufffd\ufffd" ++
      "\ufffd‗\u05d0\u05d1\u05d2\u05d3\u05d4\u05d5\u05d6\u05d7\u05d8\u05d9\u05da\u05db" ++
      "\u05dc\u05dd\u05de\u05df\u05e0\u05e1\u05e2\u05e3\u05e4\u05e5\u05e6\u05e7\u05e8" ++
      "\u05e9\u05ea\ufffd\ufffd\u200e\u200f\ufffd").toList
  | .iso8859x10 =>
    (controls ++
      "\u00a0ĄĒĢĪĨĶ§ĻĐŠŦŽ\u00adŪŊ°ąēģīĩķ·ļđšŧž―ūŋĀÁÂÃÄÅÆĮČÉĘËĖÍÎÏÐŅŌÓÔÕÖŨØŲÚÛÜÝÞßāáâãäå" ++
      "æįčéęëėíîïðņōóôõöũøųúûüýþĸ").toList
  | .iso8859x13 =>
    (controls ++
      "\u00a0”¢£¤„¦§Ø©Ŗ«¬\u00ad®Æ°±²³“µ¶·ø¹ŗ»¼½¾æĄĮĀĆÄÅĘĒČÉŹĖĢĶĪĻŠŃŅÓŌÕÖ×ŲŁŚŪÜŻŽßąįāćäå" ++
      "ęēčéźėģķīļšńņóōõö÷ųłśūüżž’").toList
  | .iso8859x14 =>
    (controls ++
      "\u00a0Ḃḃ£ĊċḊ§Ẁ©ẂḋỲ\u00ad®ŸḞḟĠġṀṁ¶ṖẁṗẃṠỳẄẅṡÀÁÂÃÄÅÆÇÈÉÊËÌÍÎÏŴÑÒÓÔÕÖṪØÙÚÛÜÝŶßàáâãäå" ++
      "æçèéêëìíîïŵñòóôõöṫøùúûüýŷÿ").toList
  | .iso8859x15 =>
    (controls ++
      "\u00a0¡¢£€¥Š§š©ª«¬\u00ad®¯°±²³Žµ¶·ž¹º»ŒœŸ¿ÀÁÂÃÄÅÆÇÈÉÊËÌÍÎÏÐÑÒÓÔÕÖ×ØÙÚÛÜÝÞßàáâãäå" ++
      "æçèéêëìíîïðñòóôõö÷øùúûüýþÿ").toList
  | .iso8859x16 =>
    (controls ++
      "\u00a0ĄąŁ€„Š§š©Ș«Ź\u00adźŻ°±ČłŽ”¶·žčș»ŒœŸżÀÁÂĂÄĆÆÇÈÉÊËÌÍÎÏĐŃÒÓÔŐÖŚŰÙÚÛÜĘȚßàáâăäć" ++
      "æçèéêëìíîïđńòóôőöśűùúûüęțÿ").toList
  | .koi8r =>
    ("─│┌┐└┘├┤┬┴┼▀▄█▌▐░▒▓⌠■∙√≈≤≥\u00a0⌡°²·÷═║╒ё╓╔╕╖╗╘╙╚╛╜╝╞╟╠╡Ё╢╣╤╥╦╧╨╩╪╫╬©юабцдефгхий" ++
      "клмнопярстужвьызшэщчъЮАБЦДЕФГХИЙКЛМНОПЯРСТУЖВЬЫЗШЭЩЧЪ").toList
  | .koi8u =>
    ("─│┌┐└┘├┤┬┴┼▀▄█▌▐░▒▓⌠■∙√≈≤≥\u00a0⌡°²·÷═║╒ёє╔ії╗╘╙╚╛ґў╞╟╠╡ЁЄ╣ІЇ╦╧╨╩╪ҐЎ©юабцдефгхий" ++
      "клмнопярстужвьызшэщчъЮАБЦДЕФГХИЙКЛМНОПЯРСТУЖВЬЫЗШЭЩЧЪ").toList
  | .macintosh =>
    ("ÄÅÇÉÑÖÜáàâäãåçéèêëíìîïñóòôöõúùûü†°¢£§•¶ß®©™´¨≠ÆØ∞±≤≥¥µ∂∑∏π∫ªºΩæø" ++
      "¿¡¬√ƒ≈∆«»…\u00a0ÀÃÕŒœ–—“”‘’÷◊ÿŸ⁄€‹›ﬁﬂ‡·‚„‰ÂÊÁËÈÍÎÏÌÓÔ\uf8ffÒÚÛÙıˆ˜¯˘˙˚¸˝˛ˇ").toList
  | .windows874 =>
    ("€\u0081\u0082\u0083\u0084…\u0086\u0087\u0088\u0089\u008a\u008b\u008c\u008d\u008e" ++
      "\u008f\u0090‘’“”•–—\u0098\u0099\u009a\u009b\u009c\u009d\u009e\u009f\u00a0กขฃคฅฆง" ++
      "จฉชซฌญฎฏฐฑฒณดตถทธนบปผฝพฟภมยรฤลฦวศษสหฬอฮฯะ\u0e31าำ\u0e34\u0e35\u0e36\u0e37\u0e38" ++
      "\u0e39\u0e3a\ufffd\ufffd\ufffd\ufffd฿เแโใไๅๆ\u0e47\u0e48\u0e49\u0e4a\u0e4b\u0e4c" ++
      "\u0e4d\u0e4e๏๐๑๒๓๔๕๖๗๘๙๚๛\ufffd\ufffd\ufffd\ufffd").toList
  | .windows1250 =>
    ("€\u0081‚\u0083„…†‡\u0088‰Š‹ŚŤŽŹ\u0090‘’“”•–—\u0098™š›śťžź\u00a0ˇ˘Ł¤Ą¦§¨©Ş«¬" ++
      "\u00ad®Ż°±˛ł´µ¶·¸ąş»Ľ˝ľżŔÁÂĂÄĹĆÇČÉĘËĚÍÎĎĐŃŇÓÔŐÖ×ŘŮÚŰÜÝŢßŕáâăäĺćçčéęëěíîďđńňóôőö÷" ++
      "řůúűüýţ˙").toList
  | .windows1251 =>
    ("ЂЃ‚ѓ„…†‡€‰Љ‹ЊЌЋЏђ‘’“”•–—\u0098™љ›њќћџ\u00a0ЎўЈ¤Ґ¦§Ё©Є«¬\u00ad®Ї°±Ііґµ¶·ё№є»јЅѕїА" ++
      "БВГДЕЖЗИЙКЛМНОПРСТУФХЦЧШЩЪЫЬЭЮЯабвгдежзийклмнопрстуфхцчшщъыьэюя").toList
  | .windows1252 =>
    ("€\u0081‚ƒ„…†‡ˆ‰Š‹Œ\u008dŽ\u008f\u0090‘’“”•–—˜™š›œ\u009džŸ\u00a0¡¢£¤¥¦§¨©ª«¬" ++
      "\u00ad®¯°±²³´µ¶·¸¹º»¼½¾¿ÀÁÂÃÄÅÆÇÈÉÊËÌÍÎÏÐÑÒÓÔÕÖ×ØÙÚÛÜÝÞßàáâãäåæçèéêëìíîïðñòóôõö÷" ++
      "øùúûüýþÿ").toList
  | .windows1253 =>
    ("€\u0081‚ƒ„…†‡\u0088‰\u008a‹\u008c\u008d\u008e\u008f\u0090‘’“”•–—\u0098™\u009a›" ++
      "\u009c\u009d\u009e\u009f\u00a0΅Ά£¤¥¦§¨©\ufffd«¬\u00ad®―°±²³΄µ¶·ΈΉΊ»Ό½ΎΏΐΑΒΓΔΕΖΗΘ" ++
      "ΙΚΛΜΝΞΟΠΡ\ufffdΣΤΥΦΧΨΩΪΫάέήίΰαβγδεζηθικλμνξοπρςστυφχψωϊϋόύώ\ufffd").toList
  | .windows1254 =>
    ("€\u0081‚ƒ„…†‡ˆ‰Š‹Œ\u008d\u008e\u008f\u0090‘’“”•–—˜™š›œ\u009d\u009eŸ\u00a0¡¢£¤¥¦§" ++
      "¨©ª«¬\u00ad®¯°±²³´µ¶·¸¹º»¼½¾¿ÀÁÂÃÄÅÆÇÈÉÊËÌÍÎÏĞÑÒÓÔÕÖ×ØÙÚÛÜİŞßàáâãäåæçèéêëìíîïğñò" ++
      "óôõö÷øùúûüışÿ").toList
  | .windows1255 =>
    ("€\u0081‚ƒ„…†‡ˆ‰\u008a‹\u008c\u008d\u008e\u008f\u0090‘’“”•–—˜™\u009a›\u009c\u009d" ++
      "\u009e\u009f\u00a0¡¢£₪¥¦§¨©×«¬\u00ad®¯°±²³´µ¶·¸¹÷»¼½¾¿\u05b0\u05b1\u05b2\u05b3" ++
      "\u05b4\u05b5\u05b6\u05b7\u05b8\u05b9\u05ba\u05bb\u05bc\u05bd\u05be\u05bf\u05c0" ++
      "\u05c1\u05c2\u05c3\u05f0\u05f1\u05f2\u05f3\u05f4\ufffd\ufffd\ufffd\ufffd\ufffd" ++
      "\ufffd\ufffd\u05d0\u05d1\u05d2\u05d3\u05d4\u05d5\u05d6\u05d7\u05d8\u05d9\u05da" ++
      "\u05db\u05dc\u05dd\u05de\u05df\u05e0\u05e1\u05e2\u05e3\u05e4\u05e5\u05e6\u05e7" ++
      "\u05e8\u05e9\u05ea\ufffd\ufffd\u200e\u200f\ufffd").toList
  | .windows1256 =>
    ("€\u067e‚ƒ„…†‡ˆ‰\u0679‹Œ\u0686\u0698\u0688\u06af‘’“”•–—\u06a9™\u0691›œ\u200c" ++
      "\u200d\u06ba\u00a0،¢£¤¥¦§¨©\u06be«¬\u00ad®¯°±²³´µ¶·¸¹\u061b»¼½¾\u061f\u06c1" ++
      "\u0621\u0622\u0623\u0624\u0625\u0626\u0627\u0628\u0629\u062a\u062b\u062c\u062d" ++
      "\u062e\u062f\u0630\u0631\u0632\u0633\u0634\u0635\u0636×\u0637\u0638\u0639\u063a" ++
      "\u0640\u0641\u0642\u0643à\u0644â\u0645\u0646\u0647\u0648çèéêë\u0649\u064aîï" ++
      "\u064b\u064c\u064d\u064eô\u064f\u0650÷\u0651ù\u0652ûü\u200e\u200f\u06d2").toList
  | .windows1257 =>
    ("€\u0081‚\u0083„…†‡\u0088‰\u008a‹\u008c¨ˇ¸\u0090‘’“”•–—\u0098™\u009a›\u009c¯˛" ++
      "\u009f\u00a0\ufffd¢£¤\ufffd¦§Ø©Ŗ«¬\u00ad®Æ°±²³´µ¶·ø¹ŗ»¼½¾æĄĮĀĆÄÅĘĒČÉŹĖĢĶĪĻŠŃŅÓŌÕ" ++
      "Ö×ŲŁŚŪÜŻŽßąįāćäåęēčéźėģķīļšńņóōõö÷ųłśūüżž˙").toList
  | .windows1258 =>
    ("€\u0081‚ƒ„…†‡ˆ‰\u008a‹Œ\u008d\u008e\u008f\u0090‘’“”•–—˜™\u009a›œ\u009d\u009eŸ" ++
      "\u00a0¡¢£¤¥¦§¨©ª«¬\u00ad®¯°±²³´µ¶·¸¹º»¼½¾¿ÀÁÂĂÄÅÆÇÈÉÊË\u0300ÍÎÏĐÑ\u0309ÓÔƠÖ×ØÙÚÛ" ++
      "ÜƯ\u0303ßàáâăäåæçèéêë\u0301íîïđñ\u0323óôơö÷øùúûüư₫ÿ").toList
  | .macCyrillic =>
    ("АБВГДЕЖЗИЙКЛМНОПРСТУФХЦЧШЩЪЫЬЭЮЯ†°Ґ£§•¶І®©™Ђђ≠Ѓѓ∞±≤≥іµґЈЄєЇїЉљЊњ" ++
      "јЅ¬√ƒ≈∆«»…\u00a0ЋћЌќѕ–—“”‘’÷„ЎўЏџ№Ёёяабвгдежзийклмнопрстуфхцчшщъыьэю€").toList

/-- The character of a byte. -/
def charOf? (page : CodePage) (byte : UInt8) : Option Char :=
  if byte < 128 then some (Char.ofNat byte.toNat)
  else (page.upper[byte.toNat - 128]?).filter (· ≠ '\ufffd')

/-- The byte of a character. -/
def byteOf? (page : CodePage) (c : Char) : Option UInt8 :=
  if c.toNat < 128 then some (UInt8.ofNat c.toNat)
  else if c = '\ufffd' then none
  else (page.upper.findIdx? (· == c)).map fun index => UInt8.ofNat (128 + index)

end CodePage
end TexFlat
