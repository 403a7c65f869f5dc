import TexFlat.Path.Basic

/-!
# File names

A file name has a stem and perhaps an extension: they part at its last dot, unless the name begins
there. `Path.withFileName` replaces the name and keeps the directory's spelling.
-/

namespace TexFlat.Path

/-- A name cut at its last dot, if it has one. -/
def splitLastDot? (name : Text) : Option (Text × Text) :=
  let after := (name.reverse.takeWhile (· ≠ '.')).reverse
  match name.reverse.dropWhile (· ≠ '.') with
  | [] => none
  | _ :: before => some (before.reverse, after)

/-- The stem of a file name and its extension. -/
def stemAndExtension (name : Text) : Text × Option Text :=
  match splitLastDot? name with
  | none => (name, none)
  | some ([], _) => (name, none)
  | some (stem, extension) => (stem, some extension)

/-- The path beside this one with another file name; below it, if this one ends in no name. -/
def withFileName (path : Path) (name : Text) : Path :=
  let place := if path.fileName?.isSome then path.parent?.getD path else path
  place.join ⟨name⟩

/-- The path beside this one with `suffix` behind the stem of its file name. -/
def suffixed (path : Path) (suffix : Text) : Path :=
  match path.fileName?.map stemAndExtension with
  | none => path.withFileName suffix
  | some (stem, none) => path.withFileName (stem ++ suffix)
  | some (stem, some extension) => path.withFileName (stem ++ suffix ++ '.' :: extension)

end TexFlat.Path
