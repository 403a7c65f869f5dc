import TexFlat.Pattern.Basic
import TexFlat.Text.Alphanumeric

/-!
# Groups

What may follow an opening parenthesis: a name for the group, switches for it, or switches for all
that follows.
-/

namespace TexFlat.Pattern

inductive GroupHead
  | group (mode : Mode) (name? : Option Text)
  | switches (mode : Mode)
deriving DecidableEq, Repr

def beginsName (c : Char) : Bool := c = '_' || Text.isLetter c

def continuesName (c : Char) : Bool := "_.[]".toList.contains c || Text.isAlphanumeric c

def isName : Text → Bool
  | [] => false
  | c :: name => beginsName c && name.all continuesName

/-- A group whose name ends at the next closing angle. -/
def namedGroup? (mode : Mode) (text : Text) : Option (GroupHead × Text) :=
  match text.dropWhile (· ≠ '>') with
  | [] => none
  | _ :: rest =>
    let name := text.takeWhile (· ≠ '>')
    if isName name then some (.group mode (some name), rest) else none

/-- Each letter at most once, at most one dash, and none at the end. -/
def areSwitches (word : Text) : Bool :=
  word.all "imsUuRx-".toList.contains && decide word.Nodup && word.getLast? ≠ some '-'

/-- Whether a switch is on: those before the dash are switched on, those behind it off. -/
def switched (word : Text) (switch : Char) (before : Bool) : Bool :=
  if word.contains switch then (word.takeWhile (· ≠ '-')).contains switch else before

def Mode.switch (mode : Mode) (word : Text) : Mode :=
  ⟨switched word 'x' mode.spaced, switched word 'u' mode.unicode⟩

def switches? (mode : Mode) (text : Text) : Option (GroupHead × Text) :=
  let word := text.takeWhile fun c => c ≠ ':' && c ≠ ')'
  if areSwitches word then
    match text.drop word.length with
    | ':' :: rest => some (.group (mode.switch word) none, rest)
    | _ :: rest => if word = [] then none else some (.switches (mode.switch word), rest)
    | [] => none
  else none

/-- What stands behind an opening parenthesis. -/
def groupHead? (mode : Mode) (text : Text) : Option (GroupHead × Text) :=
  match mode.skip text with
  | '?' :: 'P' :: '<' :: text => namedGroup? mode text
  | '?' :: '<' :: text => namedGroup? mode text
  | '?' :: text => switches? mode text
  | text => some (.group mode none, text)

end TexFlat.Pattern
