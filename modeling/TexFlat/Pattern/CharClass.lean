import TexFlat.Pattern.Escape

/-!
# Classes

A class of characters stands between brackets: characters, ranges, named kinds and classes inside
it, and operations on what stands to the left and to the right of them.
-/

namespace TexFlat.Pattern

/-- A set of characters. -/
structure CharSet where
  height : Nat := 0
  /-- The bytes beyond ASCII are in it, all of them or none. -/
  wide : Bool := false
deriving DecidableEq, Repr

inductive Operation
  | intersection
  | difference
  | symmetricDifference
deriving DecidableEq, Repr

def Operation.apply (operation : Operation) (left right : CharSet) : CharSet :=
  ⟨max left.height right.height + 1,
    match operation with
    | intersection => left.wide && right.wide
    | difference => left.wide && !right.wide
    | symmetricDifference => left.wide != right.wide⟩

/-- A class before its closing bracket. -/
structure OpenClass where
  negated : Bool
  /-- What stands to the left of the last operation. -/
  left? : Option (CharSet × Operation) := none
  /-- The members behind it, the last one first. -/
  members : List CharSet := []
deriving DecidableEq, Repr

namespace OpenClass

def add (cls : OpenClass) (member : CharSet) : OpenClass :=
  { cls with members := member :: cls.members }

def set (cls : OpenClass) : CharSet :=
  let right := ⟨joinedHeight (cls.members.map (·.height)), cls.members.any (·.wide)⟩
  match cls.left? with
  | none => right
  | some (left, operation) => operation.apply left right

def operate (cls : OpenClass) (operation : Operation) : OpenClass :=
  { cls with left? := some (cls.set, operation), members := [] }

/-- The class as a whole. In bytes it may not reach beyond ASCII. -/
def close? (mode : Mode) (cls : OpenClass) : Option CharSet :=
  let wide := cls.set.wide != cls.negated
  if wide && !mode.unicode then none else some ⟨cls.set.height + 1, wide⟩

end OpenClass

def className (word : Text) : Bool :=
  ["alnum", "alpha", "ascii", "blank", "cntrl", "digit", "graph", "lower", "print", "punct",
    "space", "upper", "word", "xdigit"].contains (String.ofList word)

/-- A named kind behind its opening bracket, as in `[:alpha:]`, and whether it is negated. -/
def named? : Text → Option (Bool × Text)
  | ':' :: text =>
    let (negated, text) := match text with
      | '^' :: text => (true, text)
      | text => (false, text)
    match text.dropWhile (· ≠ ':') with
    | ':' :: ']' :: rest =>
      if className (text.takeWhile (· ≠ ':')) then some (negated, rest) else none
    | _ => none
  | _ => none

/-- The number of dashes at the front, and what follows them. -/
def leadingDashes (mode : Mode) (inRemark : Bool) : Text → Nat × Text
  | [] => (0, [])
  | c :: text =>
    if inRemark then leadingDashes mode (c ≠ '\n') text
    else if mode.spaced && c = '#' then leadingDashes mode true text
    else if mode.spaced && Text.isBlank c then leadingDashes mode false text
    else if c = '-' then
      let (count, text) := leadingDashes mode false text
      (count + 1, text)
    else (0, c :: text)

/-- A class behind its opening bracket, with the members that may stand only there: dashes, or else
a closing bracket. -/
def openClass (mode : Mode) (text : Text) : OpenClass × Text :=
  let (negated, text) := match mode.skip text with
    | '^' :: text => (true, text)
    | text => (false, text)
  let (dashes, text) := leadingDashes mode false text
  match dashes, text with
  | 0, ']' :: text => ({ negated, members := [{}] }, text)
  | _, text => ({ negated, members := List.replicate dashes {} }, text)

def member? (mode : Mode) : Text → Option (Atom × Text)
  | [] => none
  | '\\' :: text => escape? mode text
  | c :: text => some (.char c, text)

def isMember (mode : Mode) : Atom → Bool
  | .char c => mode.holds c
  | .kind => true
  | .place => false

def isRange (mode : Mode) : Atom → Atom → Bool
  | .char first, .char last => first.toNat ≤ last.toNat && mode.holds first && mode.holds last
  | _, _ => false

/-- What follows a member or a range. A dash makes no range if another dash or the closing bracket
comes next. -/
def pastMember? (mode : Mode) (text : Text) : Option Text := do
  let (first, text) ← member? mode text
  match mode.skip text with
  | [] => none
  | '-' :: rest =>
    if mode.peek? rest = some ']' ∨ mode.peek? rest = some '-' then
      if isMember mode first then some ('-' :: rest) else none
    else
      let (last, text) ← member? mode (mode.skip rest)
      if isRange mode first last then some text else none
  | text => if isMember mode first then some text else none

/-- The innermost of the open classes and those around it, read to the end of the outermost. Each
step takes a character at least, so that the length of the text is fuel enough. -/
def classes? (mode : Mode) :
    (fuel : Nat) → OpenClass → List OpenClass → Text → Option (CharSet × Text)
  | 0, _, _, _ => none
  | fuel + 1, cls, around, text =>
    match mode.skip text with
    | [] => none
    | '[' :: text =>
      match named? text with
      | some (negated, text) => classes? mode fuel (cls.add { wide := negated }) around text
      | none =>
        let (inner, text) := openClass mode text
        classes? mode fuel inner (cls :: around) text
    | ']' :: text => do
      let set ← cls.close? mode
      match around with
      | [] => some (set, text)
      | outer :: around => classes? mode fuel (outer.add set) around text
    | '&' :: '&' :: text => classes? mode fuel (cls.operate .intersection) around text
    | '-' :: '-' :: text => classes? mode fuel (cls.operate .difference) around text
    | '~' :: '~' :: text => classes? mode fuel (cls.operate .symmetricDifference) around text
    | text => do classes? mode fuel (cls.add {}) around (← pastMember? mode text)

/-- The class behind an opening bracket. -/
def charClass? (mode : Mode) (text : Text) : Option (CharSet × Text) :=
  let (cls, rest) := openClass mode text
  classes? mode (text.length + 1) cls [] rest

end TexFlat.Pattern
