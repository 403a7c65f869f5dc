import TexFlat.Text

/-!
# Paths

A path is a text cut by slashes. Repeated slashes, a trailing slash and a dot after the first
piece stand for nothing, so one place has many spellings; `Path.components` is what they share.
`join` works on the spelling and keeps it.
-/

namespace TexFlat

structure Path where
  text : Text
deriving DecidableEq, Repr

namespace Path

inductive Component
  | root
  | here
  | up
  | name (text : Text)
deriving DecidableEq, Repr

namespace Component

def text : Component → Text
  | root => ['/']
  | here => ['.']
  | up => ['.', '.']
  | name text => text

/-- What a piece between slashes stands for: an empty piece and a dot stand for nothing. -/
def ofPiece? (piece : Text) : Option Component :=
  if piece = [] ∨ piece = ['.'] then none
  else if piece = ['.', '.'] then some up
  else some (name piece)

end Component

def ofString (s : String) : Path := ⟨s.toList⟩

def isAbsolute (path : Path) : Bool := path.text.head? == some '/'

/-- The component in front of the named ones: the root, or a leading dot. -/
def lead (path : Path) : List Component :=
  if path.isAbsolute then [.root]
  else if (Text.pieces '/' path.text).head? = some ['.'] then [.here]
  else []

def components (path : Path) : List Component :=
  path.lead ++ (Text.pieces '/' path.text).filterMap Component.ofPiece?

/-- Two spellings of one path. -/
def Same (p q : Path) : Prop := p.components = q.components

instance (p q : Path) : Decidable (Same p q) := inferInstanceAs (Decidable (_ = _))

/-- The path `other` seen from `path`: an absolute `other` stays what it is. -/
def join (path other : Path) : Path :=
  if other.isAbsolute then other
  else if path.text = [] ∨ path.text.getLast? = some '/' then ⟨path.text ++ other.text⟩
  else ⟨path.text ++ '/' :: other.text⟩

def ofComponents (components : List Component) : Path :=
  components.foldl (fun path component => path.join ⟨component.text⟩) ⟨[]⟩

/-- The pieces without those at the end that stand for nothing. -/
def trimPieces (pieces : List Text) : List Text :=
  (pieces.reverse.dropWhile fun piece => (Component.ofPiece? piece).isNone).reverse

/-- The path without its last component, spelled as it was. The root and the empty path have no
such path. -/
def parent? (path : Path) : Option Path :=
  match Text.pieces '/' path.text with
  | [] => none
  | first :: others =>
    let body := trimPieces others
    if body = [] then
      if first = [] then none else some ⟨[]⟩
    else
      let rest := trimPieces body.dropLast
      if first = [] ∧ rest = [] then some ⟨['/']⟩ else some ⟨Text.join '/' (first :: rest)⟩

/-- The directory that a file's own references start from. -/
def directory (path : Path) : Path := path.parent?.getD ⟨['.']⟩

/-- The last component, if it is a name. -/
def fileName? (path : Path) : Option Text :=
  match path.components.getLast? with
  | some (.name text) => some text
  | _ => none

/-- Whether `base` is `path` or a directory above it, by components. -/
def StartsWith (path base : Path) : Prop := base.components <+: path.components

instance (path base : Path) : Decidable (StartsWith path base) :=
  inferInstanceAs (Decidable (_ <+: _))

end Path
end TexFlat
