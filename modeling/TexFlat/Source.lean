import TexFlat.Fault

/-!
# Sources

A source is where documents come from: it says whether something is at a path, which path is the
canonical one of a place, and what text stands there. `Source.resolve?` finds the target of a
reference: the first of its candidates at which something is.
-/

namespace TexFlat

structure Source where
  /-- Whether a file or a directory is at the path. -/
  present : Path → Bool
  canonical : Path → Except Fault Path
  read : Encoding → Path → Except Fault Text

/-- The paths at which a reference may be found, first choice first. -/
def candidates (name : Text) (dir : Path) : List Path :=
  (if Path.isAbsolute ⟨name⟩ then [⟨name⟩] else []) ++
    [dir.join ⟨name ++ ".tex".toList⟩, dir.join ⟨name⟩]

namespace Source

/-- The canonical path, or the path as it is where there is none. -/
def settle (source : Source) (path : Path) : Path :=
  match source.canonical path with
  | .ok path => path
  | .error _ => path

def resolve? (source : Source) (name : Text) (dir : Path) : Option Path :=
  ((candidates name dir).find? source.present).map source.settle

/-- The canonical path of the document that a run starts from. -/
def rootDocument (source : Source) (root : Path) : Except Failure Path :=
  if source.present root then
    match source.canonical root with
    | .ok path => .ok path
    | .error _ => .error (.missingRoot root)
  else .error (.missingRoot root)

end Source
end TexFlat
