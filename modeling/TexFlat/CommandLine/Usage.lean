import TexFlat.CommandLine.Run

/-!
# Usage

What the program says about itself, and why it refuses a command line.
-/

namespace TexFlat.CommandLine

def versionText : Text := "texmerge 0.1.0\n".toList

def usageText : Text :=
  ("Flatten a LaTeX document by expanding \\input, \\import and \\include\n\n" ++
    "Usage: texmerge [-v | -q] merge [-o PATH] [--suffix TEXT] [--max-depth N] " ++
    "[--encoding LABEL] INPUT\n" ++
    "       texmerge [-v | -q] discover [--max-depth N] [--encoding LABEL] INPUT\n" ++
    "       texmerge --help | --version\n").toList

def Refusal.message : Refusal → Text
  | unknown word => "unexpected argument: ".toList ++ word
  | repeated word => "given more than once: ".toList ++ word
  | valueMissing word => "a value is missing for ".toList ++ word
  | valueUnwanted word => "no value is taken by ".toList ++ word
  | valueInvalid word value => "invalid value for ".toList ++ word ++ ": ".toList ++ value
  | conflict => "verbose and quiet exclude each other".toList
  | documentMissing => "no input document".toList
  | commandMissing => "no command".toList

/-- The outcome of a command line that is not run. -/
def Halt.outcome : Halt → Outcome
  | help => ⟨0, usageText, []⟩
  | version => ⟨0, versionText, []⟩
  | refused why => ⟨2, [], "error: ".toList ++ why.message ++ "\n\n".toList ++ usageText⟩

/-- What a command line does to a disk, with relative paths seen from `start`. -/
def run (words : List Text) (environment : Option Text) (disk : Disk) (start : Disk.Place) :
    Outcome × Disk :=
  match Invocation.ofArguments words with
  | .error halt => (halt.outcome, disk)
  | .ok invocation => invocation.run environment disk start

end TexFlat.CommandLine
