import TexFlat.Pattern.CharClass
import TexFlat.Pattern.Group

/-!
# Expressions

An expression is a row of parts, or several rows between bars. A part is a character, a class, a
group or a repetition of the part before. Counted repetitions are not among them, since the braces
of a count end the text that an expression is read from.
-/

namespace TexFlat.Pattern

structure Part where
  height : Nat := 0
  /-- Switches are a part that cannot be repeated. -/
  repeatable : Bool := true
deriving DecidableEq, Repr

/-- A group that is still open, or the whole expression. -/
structure Level where
  /-- The mode to come back to behind the group. -/
  outside : Mode := {}
  /-- The greatest height of the rows before the last bar, if there is one. -/
  rows? : Option Nat := none
  /-- The parts of the last row, the last one first. -/
  parts : List Part := []
deriving DecidableEq, Repr

namespace Level

def add (level : Level) (part : Part) : Level := { level with parts := part :: level.parts }

def rowHeight (level : Level) : Nat := joinedHeight (level.parts.map (·.height))

def height (level : Level) : Nat :=
  match level.rows? with
  | none => level.rowHeight
  | some rows => max rows level.rowHeight + 1

/-- The level behind a bar. -/
def nextRow (level : Level) : Level :=
  { level with rows? := some (max (level.rows?.getD 0) level.rowHeight), parts := [] }

/-- The level with its last part repeated. -/
def repeat? (level : Level) : Option Level :=
  match level.parts with
  | [] => none
  | part :: parts =>
    if part.repeatable then some { level with parts := ⟨part.height + 1, true⟩ :: parts } else none

end Level

/-- How far the reading of an expression has come. -/
structure Reading where
  mode : Mode := {}
  /-- The names of the groups so far. -/
  names : List Text := []
  level : Level := {}
  around : List Level := []
deriving DecidableEq, Repr

namespace Reading

def add (reading : Reading) (part : Part) : Reading :=
  { reading with level := reading.level.add part }

/-- The reading behind an opening parenthesis. A name is given to one group only. -/
def enter? (reading : Reading) : GroupHead → Option Reading
  | .switches mode => some { reading.add ⟨0, false⟩ with mode }
  | .group mode name? =>
    if name?.any reading.names.contains then none
    else some { mode, names := name?.toList ++ reading.names, level := { outside := reading.mode },
                around := reading.level :: reading.around }

def leave? (reading : Reading) : Option Reading :=
  match reading.around with
  | [] => none
  | level :: around =>
    some { reading with mode := reading.level.outside, around,
                        level := level.add { height := reading.level.height + 1 } }

/-- A question mark behind the sign of a repetition belongs to it. -/
def pastLazy : Text → Text
  | '?' :: text => text
  | text => text

/-- The reading behind the part that a character begins. A dot among bytes is not confined to whole
characters. -/
def step? (reading : Reading) (c : Char) (text : Text) : Option (Reading × Text) :=
  match c with
  | '(' => do
    let (head, text) ← groupHead? reading.mode text
    return (← reading.enter? head, text)
  | ')' => do return (← reading.leave?, text)
  | '|' => some ({ reading with level := reading.level.nextRow }, text)
  | '[' => do
    let (set, text) ← charClass? reading.mode text
    return (reading.add { height := set.height }, text)
  | '?' | '*' | '+' => do
    return ({ reading with level := ← reading.level.repeat? }, pastLazy text)
  | '\x7b' => none
  | '\\' => do
    let (_, text) ← escape? reading.mode text
    return (reading.add {}, text)
  | '.' => if reading.mode.unicode then some (reading.add {}, text) else none
  | _ => some (reading.add {}, text)

/-- The reading of a whole text. Each step takes a character at least. -/
def run? : (fuel : Nat) → Reading → Text → Option Reading
  | 0, _, _ => none
  | fuel + 1, reading, text =>
    match reading.mode.skip text with
    | [] => some reading
    | c :: text => do
      let (reading, text) ← reading.step? c text
      run? fuel reading text

end Reading

/-- How deep the parts of an expression may be nested. -/
def maxHeight : Nat := 250

def isExpression (text : Text) : Bool :=
  match Reading.run? (text.length + 1) {} text with
  | none => false
  | some reading => reading.around = [] && reading.level.height ≤ maxHeight

end TexFlat.Pattern
