import TexFlat.Path.Basic

/-!
# Relative paths

`Path.relativeTo` says how to get from a directory to a path: a climb for each component of the
directory that the path does not share, then the path's own components.
-/

namespace TexFlat.Path

/-- The two lists without their common front. -/
def dropCommon : List Component → List Component → List Component × List Component
  | a :: as, b :: bs => if a = b then dropCommon as bs else (a :: as, b :: bs)
  | as, bs => (as, bs)

def relativeTo (path base : Path) : Path :=
  let (below, above) := dropCommon path.components base.components
  let relative := ofComponents (above.map (fun _ => .up) ++ below)
  if relative.text = [] then ⟨['.']⟩ else relative

end TexFlat.Path
