import TexFlat.Fault

/-!
# Options

What a run is told: how deep to follow references, how to name its output and in which encoding
to read and write.
-/

namespace TexFlat

structure Options where
  /-- The deepest level that is still expanded; the root document is at level 0. -/
  maxDepth : Nat := 50
  outputSuffix : Text := "_merged".toList
  encoding : Encoding := .utf8
deriving DecidableEq, Repr

/-- The encoding that a label names, for a run that cannot do without one. -/
def Encoding.ofLabel (label : Text) : Except Failure Encoding :=
  match Encoding.ofLabel? label with
  | some encoding => .ok encoding
  | none => .error (.unknownEncoding label)

end TexFlat
