import TexFlat.Text

/-!
# Log entries

What a run says about itself besides its result: a level, the part of the program that speaks, a
message and named values.
-/

namespace TexFlat.Log

inductive Level
  | error
  | warn
  | info
  | debug
deriving DecidableEq, Repr

namespace Level

def name : Level → Text
  | error => "ERROR".toList
  | warn => "WARN".toList
  | info => "INFO".toList
  | debug => "DEBUG".toList

/-- How much a log shows that goes down to this level. -/
def rank : Level → Nat
  | error => 1
  | warn => 2
  | info => 3
  | debug => 4

end Level

structure Entry where
  level : Level
  target : Text
  message : Text
  fields : List (Text × Text)
deriving DecidableEq, Repr

/-- A number as it is written in an entry. -/
def number (n : Nat) : Text := Nat.toDigits 10 n

/-- The entry on one line. -/
def Entry.line (entry : Entry) : Text :=
  entry.level.name ++ ' ' :: entry.target ++ ": ".toList ++ entry.message ++
    (entry.fields.flatMap fun (name, value) => ' ' :: name ++ '=' :: value)

end TexFlat.Log
