import TexFlat.Path.Normal
import TexFlat.Source

/-!
# Stores

A store keeps documents in memory under normal paths, the newest first. A directory is there as
long as a document is below it.
-/

namespace TexFlat

structure Store where
  files : List (Path × Text) := []

namespace Store

/-- A document at a path takes the place of one that was there. -/
def add (store : Store) (path : Path) (content : Text) : Store :=
  ⟨(path.normalize, content) :: store.files⟩

def ofList (files : List (Path × Text)) : Store :=
  files.foldl (fun store (path, content) => store.add path content) {}

def content? (store : Store) (path : Path) : Option Text :=
  let place := path.normalize
  (store.files.find? fun file => file.1 == place).map (·.2)

def present (store : Store) (path : Path) : Bool :=
  let place := path.normalize
  store.files.any fun file => decide (file.1.StartsWith place)

def canonical (store : Store) (path : Path) : Except Fault Path :=
  if store.present path then .ok path.normalize else .error (.noSuchFile path)

def read (store : Store) (path : Path) : Except Fault Text :=
  match store.content? path with
  | some content => .ok content
  | none => .error (.noSuchFile path)

/-- The documents are text already, so the encoding asked for does not matter. -/
def source (store : Store) : Source where
  present := store.present
  canonical := store.canonical
  read _ := store.read

end Store
end TexFlat
