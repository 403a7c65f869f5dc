import TexFlat.Text

/-!
# Indexes

An index numbers the characters of a double-byte encoding. Some numbers stand for no character,
and a character may have more than one number, called its pointers.
-/

namespace TexFlat.Encoding

/-- The characters by pointer, with U+FFFD where a pointer has none. -/
structure Index where
  cells : Array Char

namespace Index

/-- Code points in order from `first` on, at pointers in order from `pointer` on. -/
structure Span where
  pointer : Nat
  first : Nat
  count : Nat

def Span.chars (span : Span) : Text :=
  (List.range span.count).map fun i => Char.ofNat (span.first + i)

def put (cells : Array Char) (pointer : Nat) (chars : Text) : Array Char :=
  (chars.zipIdx pointer).foldl (fun cells (c, i) => cells.setIfInBounds i c) cells

/-- The index of runs of characters, each given with the pointer of its first one, and of spans. -/
def ofRuns (size : Nat) (runs : List (Nat × String)) (spans : List Span) : Index :=
  let cells := runs.foldl (fun cells (pointer, chars) => put cells pointer chars.toList)
    (Array.replicate size '\ufffd')
  ⟨spans.foldl (fun cells span => put cells span.pointer span.chars) cells⟩

def charAt? (index : Index) (pointer : Nat) : Option Char :=
  index.cells[pointer]?.filter (· ≠ '\ufffd')

/-- The first pointer of a character. -/
def pointerOf? (index : Index) (c : Char) : Option Nat :=
  if c = '\ufffd' then none else index.cells.findIdx? (· == c)

/-- All pointers of a character, in order. -/
def pointersOf (index : Index) (c : Char) : List Nat :=
  if c = '\ufffd' then []
  else (List.range index.cells.size).filter fun pointer => index.cells[pointer]? == some c

end Index
end TexFlat.Encoding
