import TexFlat.Text

/-!
# Reading expressions

A regular expression is read from the left, under a mode that its switches set. What is asked of it
is only whether it can be read, and for that its parts are known by how deep they are nested.
-/

namespace TexFlat.Pattern

/-- What the switches say at a place of an expression. -/
structure Mode where
  /-- Blanks between the parts do not count, nor does what follows a number sign on its line. -/
  spaced : Bool := false
  /-- Characters are those of all scripts. Otherwise they are bytes, and what an expression finds
  has to be made of whole characters all the same. -/
  unicode : Bool := true
deriving DecidableEq, Repr

/-- The text from the next part on, if blanks and remarks do not count. -/
def skipBlanks (inRemark : Bool) : Text → Text
  | [] => []
  | c :: text =>
    if inRemark then skipBlanks (c ≠ '\n') text
    else if c = '#' then skipBlanks true text
    else if Text.isBlank c then skipBlanks false text
    else c :: text

namespace Mode

/-- The text from the next part on. -/
def skip (mode : Mode) (text : Text) : Text := if mode.spaced then skipBlanks false text else text

/-- What the next part begins with. A number sign is passed over here, but not the line behind
it. -/
def peek? (mode : Mode) (text : Text) : Option Char :=
  if mode.spaced then
    match text.dropWhile Text.isBlank with
    | '#' :: text => (text.dropWhile Text.isBlank).head?
    | text => text.head?
  else text.head?

/-- Whether a class can hold a character as such. -/
def holds (mode : Mode) (c : Char) : Bool := mode.unicode || c.toNat < 0x80

end Mode

/-- The height of several parts that make up one. -/
def joinedHeight : List Nat → Nat
  | [] => 0
  | [height] => height
  | heights => heights.foldr max 0 + 1

end TexFlat.Pattern
