import TexFlat.Path.Basic

/-!
# Normal paths

`Path.normalize` removes dots and takes back a name for each climb, without looking at any disk.
A climb at the root, or where no name is left, is lost.
-/

namespace TexFlat.Path

/-- The components walked so far, last first, after one more. -/
def Component.follow (trail : List Component) : Component → List Component
  | here => trail
  | up =>
    match trail with
    | name _ :: above => above
    | _ => trail
  | component => component :: trail

def normalComponents (components : List Component) : List Component :=
  (components.foldl Component.follow []).reverse

def normalize (path : Path) : Path := ofComponents (normalComponents path.components)

end TexFlat.Path
