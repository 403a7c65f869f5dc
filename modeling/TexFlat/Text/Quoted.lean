import TexFlat.Text.Unseen

/-!
# Quoted text

A text between double quotes, on one line: a quote and a backslash get a backslash in front, and a
character that would not be seen for itself (a control, a blank other than the space, a mark that
joins the letter before it) is written by its number.
-/

namespace TexFlat.Text

def quotedChar (c : Char) : Text :=
  if c = '"' ∨ c = '\\' then ['\\', c]
  else if c = '\t' then ['\\', 't']
  else if c = '\n' then ['\\', 'n']
  else if c = '\r' then ['\\', 'r']
  else if c = '\x00' then ['\\', '0']
  else if isUnseen c then "\\u\x7b".toList ++ Nat.toDigits 16 c.toNat ++ ['\x7d']
  else [c]

def quoted (text : Text) : Text := '"' :: text.flatMap quotedChar ++ ['"']

end TexFlat.Text
