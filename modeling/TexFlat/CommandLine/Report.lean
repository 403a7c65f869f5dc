import TexFlat.CommandLine.Arguments
import TexFlat.Inventory.Basic
import TexFlat.Path.Relative

/-!
# Reports

What the commands print: the inventory with paths relative to the root document's directory, the
line about a written file, and a failure with its causes.
-/

namespace TexFlat.CommandLine

/-- A number at the right end of `width` columns. -/
def padded (width n : Nat) : Text :=
  let digits := Nat.toDigits 10 n
  List.replicate (width - digits.length) ' ' ++ digits

/-- The lines about the entry with a number. -/
def entryLines (top : Path) (n : Nat) (entry : Inventory.Entry) : Text :=
  "  ".toList ++ padded 3 n ++ ". ".toList ++ (entry.path.relativeTo top).text ++
    "\n       Base directory: ".toList ++ (entry.base.relativeTo top).text ++
    "\n       Import method: ".toList ++ entry.origin.word ++ ['\n']

def inventoryText : List Inventory.Entry → Text
  | [] => "Found 0 related files\n".toList
  | root :: others =>
    let entries := root :: others
    "Found ".toList ++ Nat.toDigits 10 entries.length ++ " related files:\n".toList ++
      (entries.zipIdx 1).flatMap fun (entry, n) => entryLines root.base n entry

def mergeText (output : Path) (files : Nat) : Text :=
  "Merge completed! Processed ".toList ++ Nat.toDigits 10 files ++ " files\n".toList ++
    "Output file: ".toList ++ output.text ++ ['\n']

/-- What went wrong, and the causes one behind another. -/
structure Trouble where
  summary : Text
  causes : List Text

/-- A cause with `first` in front of its first line and `margin` in front of the others. -/
def indented (first margin cause : Text) : Text :=
  first ++ Text.join '\n' (match Text.pieces '\n' cause with
    | [] => []
    | line :: lines => line :: lines.map (margin ++ ·))

def blank (width : Nat) : Text := List.replicate width ' '

namespace Trouble

/-- Causes are numbered if there is more than one. -/
def causeLines : List Text → List Text
  | [] => []
  | [cause] => [indented (blank 4) (blank 4) cause]
  | causes =>
    causes.zipIdx.map fun (cause, n) => indented (padded 5 n ++ ": ".toList) (blank 7) cause

def text (trouble : Trouble) : Text :=
  "Error: ".toList ++ trouble.summary ++
    (if trouble.causes = [] then []
    else "\n\nCaused by:\n".toList ++ Text.join '\n' (causeLines trouble.causes)) ++ ['\n']

/-- A failure on its own, or behind the line that says what was being done. -/
def ofFailure (doing : Text) : Failure → Trouble
  | .unknownEncoding label => ⟨Failure.message (.unknownEncoding label), []⟩
  | .missingRoot path => ⟨doing, [Failure.message (.missingRoot path)]⟩
  | .notWritten path cause => ⟨doing, [Failure.message (.notWritten path cause), cause.message]⟩

end Trouble
end TexFlat.CommandLine
