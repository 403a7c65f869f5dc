import TexFlat.Directive.Basic

/-!
# Markers

The comment lines by which a merged document says where its parts come from and what could not be
brought in.
-/

namespace TexFlat.Marker

open Directive (Kind)

def startLine (kind : Kind) (reference : Text) : Text :=
  "% ====== Start ".toList ++ kind.word ++ ": ".toList ++ reference ++ " ======\n".toList

def endLine (kind : Kind) (reference : Text) : Text :=
  "% ====== End ".toList ++ kind.word ++ ": ".toList ++ reference ++ " ======\n".toList

/-- What stands before the body of a block. -/
def header (kind : Kind) (reference : Text) (file base : Path) : Text :=
  '\n' :: startLine kind reference ++
    (if kind = .includeFile then
      "% Note: \\include forces page breaks, may need adjustment\n".toList
    else []) ++
    "% Original file: ".toList ++ file.text ++ '\n' ::
    "% Base directory: ".toList ++ base.text ++ ['\n']

/-- What stands behind the body of a block. -/
def footer (kind : Kind) (reference : Text) : Text := '\n' :: endLine kind reference

/-- The merged content of one target between its start and end lines. -/
def block (kind : Kind) (reference : Text) (file base : Path) (body : Text) : Text :=
  header kind reference file base ++ body ++ footer kind reference

/-- A directive whose target does not exist. -/
def notFound (kind : Kind) (reference : Text) : Text :=
  "% Error: ".toList ++ kind.title ++ " file not found: ".toList ++ reference ++ ['\n']

/-- A file that was already expanded earlier in the run. -/
def alreadyIncluded (file : Path) : Text :=
  "% Warning: File ".toList ++ file.text ++ " already included, skipping\n".toList

/-- A file that exists and could not be read. -/
def unreadable (file : Path) (cause : Text) : Text :=
  "% Error: Cannot read file ".toList ++ file.text ++ ": ".toList ++ cause ++ ['\n']

/-- A file below the deepest level that is expanded. -/
def depthExceeded (maxDepth : Nat) (file : Path) : Text :=
  "% Error: Maximum inclusion depth ".toList ++ Nat.toDigits 10 maxDepth ++
    " exceeded, not expanding ".toList ++ file.text ++ ['\n']

end TexFlat.Marker
