import TexFlat.Pattern.Basic

/-!
# Escapes

What follows a backslash: a sign for itself, a control, a character by its number, a kind of
characters or a kind of place.
-/

namespace TexFlat.Pattern

/-- A part of an expression that has no parts. -/
inductive Atom
  | char (c : Char)
  | kind
  | place
deriving DecidableEq, Repr

def hexValue? (c : Char) : Option Nat :=
  if c.isDigit then some (c.toNat - '0'.toNat)
  else if 'a' ≤ c ∧ c ≤ 'f' then some (c.toNat - 'a'.toNat + 10)
  else if 'A' ≤ c ∧ c ≤ 'F' then some (c.toNat - 'A'.toNat + 10)
  else none

/-- The number of so many hexadecimal digits behind those that give `value`. -/
def hexNumber? (mode : Mode) (value : Nat) : (digits : Nat) → Text → Option (Nat × Text)
  | 0, text => some (value, text)
  | digits + 1, text =>
    match mode.skip text with
    | [] => none
    | c :: text => do hexNumber? mode (value * 16 + (← hexValue? c)) digits text

/-- A character by a number of `digits` digits. In bytes two digits are one byte, which is a
character only within ASCII. -/
def numbered? (mode : Mode) (digits : Nat) (text : Text) : Option (Atom × Text) := do
  let (value, text) ← hexNumber? mode 0 digits text
  if value.isValidChar ∧ (mode.unicode ∨ digits ≠ 2 ∨ value < 0x80) then
    some (.char (Char.ofNat value), text)
  else none

/-- The initials of the general categories. -/
def categoryInitials : Text := "clmnpsz".toList

def category? (mode : Mode) (text : Text) : Option (Atom × Text) :=
  match mode.skip text with
  | [] => none
  | c :: text =>
    if mode.unicode && categoryInitials.contains c.toLower then some (.kind, text) else none

/-- What a backslash and the text behind it stand for. The edges of words need all scripts to be
known for a single byte, so they can be had in bytes only; there a kind of all characters but some
is no kind of whole characters. -/
def escape? (mode : Mode) : Text → Option (Atom × Text)
  | [] => none
  | c :: text =>
    match c with
    | 'x' => numbered? mode 2 text
    | 'u' => numbered? mode 4 text
    | 'U' => numbered? mode 8 text
    | 'p' | 'P' => category? mode text
    | 'd' | 's' | 'w' => some (.kind, text)
    | 'D' | 'S' | 'W' => if mode.unicode then some (.kind, text) else none
    | 'a' => some (.char '\x07', text)
    | 'f' => some (.char '\x0c', text)
    | 't' => some (.char '\t', text)
    | 'n' => some (.char '\n', text)
    | 'r' => some (.char '\r', text)
    | 'v' => some (.char '\x0b', text)
    | 'A' | 'z' => some (.place, text)
    | 'b' | 'B' | '<' | '>' => if mode.unicode then none else some (.place, text)
    | _ => if c.toNat < 0x80 && !c.isAlphanum then some (.char c, text) else none

end TexFlat.Pattern
