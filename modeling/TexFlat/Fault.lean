import TexFlat.Encoding.Codec
import TexFlat.Path.Basic

/-!
# Faults

Why a file could not be found, read or written.
-/

namespace TexFlat

inductive Fault
  | missing
  | notDirectory
  | isDirectory
  | nameTooLong
  | tooManyLinks
  | nulInPath
  | noSuchFile (path : Path)
  | undecodable (encoding : Encoding)
  | unrepresentable (encoding : Encoding)
  /-- Any other cause, in the words of the system. -/
  | other (words : Text)
deriving DecidableEq, Repr

namespace Fault

def message : Fault → Text
  | missing => "No such file or directory (os error 2)".toList
  | notDirectory => "Not a directory (os error 20)".toList
  | isDirectory => "Is a directory (os error 21)".toList
  | nameTooLong => "File name too long (os error 36)".toList
  | tooManyLinks => "Too many levels of symbolic links (os error 40)".toList
  | nulInPath => "file name contained an unexpected NUL byte".toList
  | noSuchFile path => "no such file: ".toList ++ path.text
  | undecodable encoding => "stream did not contain valid ".toList ++ encoding.name
  | unrepresentable encoding => "merged text is not representable in ".toList ++ encoding.name
  | other words => words

end Fault

/-- The text that bytes stand for, for a reader that cannot do without one. -/
def Encoding.decodeStrict (encoding : Encoding) (bytes : Bytes) : Except Fault Text :=
  match encoding.decode? bytes with
  | some text => .ok text
  | none => .error (.undecodable encoding)

/-- Why a whole run failed. -/
inductive Failure
  | missingRoot (path : Path)
  | notWritten (path : Path) (cause : Fault)
  | unknownEncoding (label : Text)
deriving DecidableEq, Repr

namespace Failure

def message : Failure → Text
  | missingRoot path => "Main file not found: ".toList ++ path.text
  | notWritten path cause =>
    "Cannot write merged output to ".toList ++ path.text ++ ": ".toList ++ cause.message
  | unknownEncoding label => "Unknown encoding: ".toList ++ label

end Failure
end TexFlat
