import TexFlat.Path.Basic

/-!
# Arguments

The words of a command line are read from the left. Switches and settings may stand before or
behind the document; a setting's value follows it as the next word or, behind an equals sign, in
the same one. Reading stops at the first word that is refused or that asks for help.
-/

namespace TexFlat.CommandLine

inductive Switch
  | verbose
  | quiet
  | help
  | version
deriving DecidableEq, Repr

inductive Setting
  | output
  | suffix
  | maxDepth
  | encoding
deriving DecidableEq, Repr

/-- Why a command line is refused. -/
inductive Refusal
  | unknown (word : Text)
  | repeated (word : Text)
  | valueMissing (word : Text)
  | valueUnwanted (word : Text)
  | valueInvalid (word value : Text)
  | conflict
  | documentMissing
  | commandMissing
deriving DecidableEq, Repr

/-- Why reading stops before the last word. -/
inductive Halt
  | help
  | version
  | refused (why : Refusal)
deriving DecidableEq, Repr

namespace Switch

def long : Switch → Text
  | verbose => "verbose".toList
  | quiet => "quiet".toList
  | help => "help".toList
  | version => "version".toList

def short : Switch → Char
  | verbose => 'v'
  | quiet => 'q'
  | help => 'h'
  | version => 'V'

end Switch

namespace Setting

def long : Setting → Text
  | output => "output".toList
  | suffix => "suffix".toList
  | maxDepth => "max-depth".toList
  | encoding => "encoding".toList

def short? : Setting → Option Char
  | output => some 'o'
  | _ => none

end Setting

/-- What may be said at a place of the command line. -/
structure Scope where
  switches : List Switch
  settings : List Setting

namespace Scope

/-- Before the command. -/
def top : Scope := ⟨[.verbose, .quiet, .help, .version], []⟩

def merge : Scope := ⟨[.verbose, .quiet, .help], [.output, .suffix, .maxDepth, .encoding]⟩

def discover : Scope := ⟨[.verbose, .quiet, .help], [.maxDepth, .encoding]⟩

end Scope

/-- What the words read so far say. -/
structure Given where
  verbose : Bool := false
  quiet : Bool := false
  document : Option Path := none
  output : Option Path := none
  suffix : Option Text := none
  maxDepth : Option Nat := none
  encoding : Option Text := none
deriving DecidableEq, Repr

/-- A number of at most 64 bits in decimal digits, perhaps with a plus sign. -/
def number? (text : Text) : Option Nat :=
  let digits := if text.head? = some '+' then text.tail else text
  if digits = [] ∨ ¬digits.all Char.isDigit then none
  else
    let n := digits.foldl (fun n c => n * 10 + (c.toNat - '0'.toNat)) 0
    if n < UInt64.size then some n else none

namespace Given

/-- A value that was not given before. -/
def fresh {α : Type} (old : Option α) (word : Text) (value : Option α) (text : Text) :
    Except Halt (Option α) :=
  match old, value with
  | some _, _ => .error (.refused (.repeated word))
  | none, none => .error (.refused (.valueInvalid word text))
  | none, some value => .ok (some value)

def path? (text : Text) : Option Path := if text = [] then none else some ⟨text⟩

def addSwitch (given : Given) : Switch → Except Halt Given
  | .help => .error .help
  | .version => .error .version
  | .verbose =>
    if given.verbose then .error (.refused (.repeated (Switch.long .verbose)))
    else .ok { given with verbose := true }
  | .quiet =>
    if given.quiet then .error (.refused (.repeated (Switch.long .quiet)))
    else .ok { given with quiet := true }

def addSetting (given : Given) (setting : Setting) (value : Text) : Except Halt Given :=
  match setting with
  | .output => do
    return { given with output := ← fresh given.output setting.long (path? value) value }
  | .suffix => do
    return { given with suffix := ← fresh given.suffix setting.long (some value) value }
  | .maxDepth => do
    return { given with maxDepth := ← fresh given.maxDepth setting.long (number? value) value }
  | .encoding => do
    return { given with encoding := ← fresh given.encoding setting.long (some value) value }

def addDocument (given : Given) (word : Text) : Except Halt Given :=
  match given.document, path? word with
  | some _, _ => .error (.refused (.unknown word))
  | none, none => .error (.refused (.valueInvalid "document".toList word))
  | none, some path => .ok { given with document := some path }

end Given

/-- The letters behind a dash: switches, and perhaps a setting with the rest as its value, or with
its value still to come. -/
def readLetters (scope : Scope) (given : Given) : Text → Except Halt (Given × Option Setting)
  | [] => .ok (given, none)
  | letter :: letters =>
    match scope.switches.find? (·.short = letter) with
    | some switch => do readLetters scope (← given.addSwitch switch) letters
    | none =>
      match scope.settings.find? (·.short? = some letter), letters with
      | none, _ => .error (.refused (.unknown ['-', letter]))
      | some setting, [] => .ok (given, some setting)
      | some setting, '=' :: value => do return (← given.addSetting setting value, none)
      | some setting, value => do return (← given.addSetting setting value, none)

/-- The word behind two dashes: a switch, or a setting with its value in the same word or still to
come. -/
def readLong (scope : Scope) (given : Given) (word : Text) : Except Halt (Given × Option Setting) :=
  let name := word.takeWhile (· ≠ '=')
  let value? := (word.dropWhile (· ≠ '=')).tail?
  match scope.switches.find? (·.long = name), scope.settings.find? (·.long = name), value? with
  | some switch, _, none => do return (← given.addSwitch switch, none)
  | some _, _, some _ => .error (.refused (.valueUnwanted name))
  | none, some setting, none => .ok (given, some setting)
  | none, some setting, some value => do return (← given.addSetting setting value, none)
  | none, none, _ => .error (.refused (.unknown ("--".toList ++ word)))

/-- A word that begins with a dash and is more than that. -/
def isOption : Text → Bool
  | '-' :: _ :: _ => true
  | _ => false

def readOption (scope : Scope) (given : Given) : Text → Except Halt (Given × Option Setting)
  | '-' :: '-' :: word => readLong scope given word
  | word => readLetters scope given word.tail

/-- The words of a command, where `pending` is a setting that waits for its value. Behind a lone
double dash every word is a document. -/
def readWords (scope : Scope) (given : Given) (pending : Option Setting) :
    List Text → Except Halt Given
  | [] =>
    match pending with
    | some setting => .error (.refused (.valueMissing setting.long))
    | none => .ok given
  | word :: words =>
    match pending with
    | some setting =>
      if isOption word then .error (.refused (.valueMissing setting.long))
      else do readWords scope (← given.addSetting setting word) none words
    | none =>
      if word = "--".toList then words.foldlM Given.addDocument given
      else if isOption word then do
        let (given, pending) ← readOption scope given word
        readWords scope given pending words
      else do readWords scope (← given.addDocument word) none words

/-- The words before the command, and what follows them: the command's name and its own words. -/
def readTop (given : Given) : List Text → Except Halt (Given × Text × List Text)
  | [] => .error (.refused .commandMissing)
  | word :: words =>
    if word = "--".toList then .error (.refused .commandMissing)
    else if isOption word then do
      let (given, _) ← readOption .top given word
      readTop given words
    else .ok (given, word, words)

inductive Command
  | merge (document : Path) (output : Option Path) (suffix : Text) (maxDepth : Nat)
      (encoding : Text)
  | discover (document : Path) (maxDepth : Nat) (encoding : Text)
deriving DecidableEq, Repr

inductive Verbosity
  | normal
  | verbose
  | quiet
deriving DecidableEq, Repr

structure Invocation where
  verbosity : Verbosity
  command : Command
deriving DecidableEq, Repr

/-- Verbose and quiet exclude each other where they stand together; where one stands before the
command and one behind it, verbose wins. -/
def verbosity (before behind : Given) : Verbosity :=
  if before.verbose || behind.verbose then .verbose
  else if before.quiet || behind.quiet then .quiet
  else .normal

/-- The command that the words behind its name give. -/
def invocation (before : Given) (scope : Scope) (words : List Text)
    (command : Given → Path → Command) : Except Halt Invocation := do
  let behind ← readWords scope {} none words
  if behind.verbose && behind.quiet then .error (.refused .conflict)
  else
    match behind.document with
    | none => .error (.refused .documentMissing)
    | some document =>
      if before.verbose && before.quiet then .error (.refused .conflict)
      else .ok ⟨verbosity before behind, command behind document⟩

/-- What `help` is asked for: the whole program, or one of its commands. -/
def readHelp : List Text → Halt
  | [] => .help
  | [word] =>
    if word ∈ ["merge".toList, "discover".toList, "help".toList] then .help
    else .refused (.unknown word)
  | _ :: word :: _ => .refused (.unknown word)

def Given.mergeCommand (given : Given) (document : Path) : Command :=
  .merge document given.output (given.suffix.getD "_merged".toList) (given.maxDepth.getD 50)
    (given.encoding.getD "utf-8".toList)

def Given.discoverCommand (given : Given) (document : Path) : Command :=
  .discover document (given.maxDepth.getD 50) (given.encoding.getD "utf-8".toList)

/-- What a command line asks for. -/
def Invocation.ofArguments (words : List Text) : Except Halt Invocation := do
  let (before, name, words) ← readTop {} words
  if name = "merge".toList then invocation before .merge words Given.mergeCommand
  else if name = "discover".toList then invocation before .discover words Given.discoverCommand
  else if name = "help".toList then .error (readHelp words)
  else .error (.refused (.unknown name))

end TexFlat.CommandLine
