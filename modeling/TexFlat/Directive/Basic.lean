import TexFlat.Path.Basic

/-!
# Inclusion directives

The commands by which a document asks for another file: `\input`, `\import`, and `\include` with
its twin `\includeonly`. An import names a directory besides the file, and what it brings in looks
for its own files there.
-/

namespace TexFlat

namespace Directive

inductive Kind
  | inputFile
  | importFile
  | includeFile
deriving DecidableEq, Repr

namespace Kind

/-- The order in which a file's directives are followed. -/
def passes : List Kind := [inputFile, importFile, includeFile]

/-- The word behind the backslash. -/
def word : Kind → Text
  | inputFile => "input".toList
  | importFile => "import".toList
  | includeFile => "include".toList

def title : Kind → Text
  | inputFile => "Input".toList
  | importFile => "Import".toList
  | includeFile => "Include".toList

end Kind
end Directive

/-- A directive in a text: `source` is the stretch of text that it takes. -/
structure Directive where
  kind : Directive.Kind
  source : Text
  directory : Option Text
  name : Text
deriving DecidableEq, Repr

namespace Directive

/-- The reference as it is shown to the reader. -/
def reference (d : Directive) : Text :=
  match d.directory with
  | some directory => directory ++ '/' :: d.name
  | none => d.name

/-- The directory in which the target is looked for, and its own references in turn. -/
def searchDir (d : Directive) (base : Path) : Path :=
  match d.directory with
  | some directory => base.join ⟨directory⟩
  | none => base

end Directive
end TexFlat
