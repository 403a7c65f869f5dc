import TexFlat.CommandLine.Arguments
import TexFlat.Log
import TexFlat.Pattern.Value
import TexFlat.Text.Alphanumeric

/-!
# Log rules

A rule of a log filter reads `front[span{field=value}]=level`, with most parts left out if not
needed. It says how deep the entries go whose target begins with the front and that have the field.
A rule without a level shows all of them.
-/

namespace TexFlat.CommandLine

structure LogRule where
  /-- The front of the targets that the rule is for: all of them if it is empty. -/
  front : Text
  span? : Option Text
  /-- A field with the value that it is to have, if one is asked for. -/
  field? : Option (Text × Option Text)
  /-- The rank of the deepest level shown: 0 shows nothing. -/
  rank : Nat
deriving DecidableEq, Repr

namespace LogRule

def hasField (entry : Log.Entry) (name : Text) : Bool :=
  name = "message".toList || (entry.fields.lookup name).isSome

/-- Whether a rule decides about an entry. Entries stand in no span, and values are asked of spans
only. -/
def isFor (rule : LogRule) (entry : Log.Entry) : Bool :=
  rule.front.isPrefixOf entry.target && rule.span?.isNone &&
    (match rule.field? with
    | none => true
    | some (name, none) => hasField entry name
    | some (_, some _) => false)

/-- Of two rules for one entry the one with the longer front goes first, then the one that asks for
a field, and of two fields the later in the alphabet. -/
def yieldsTo (rule other : LogRule) : Bool :=
  rule.front.length < other.front.length ||
    (rule.front.length = other.front.length &&
      (match rule.field?, other.field? with
      | none, _ => true
      | some _, none => false
      | some (name, _), some (otherName, _) => !otherName.lex name fun a b => a.toNat < b.toNat))

/-- The rank that a level's name or number gives. -/
def rank? (word : Text) : Option Nat :=
  match String.ofList (word.map Char.toLower) with
  | "off" => some 0
  | "error" => some 1
  | "warn" => some 2
  | "info" => some 3
  | "debug" => some 4
  | "trace" => some 5
  | _ => (number? word).filter (· ≤ 5)

/-- The rank behind an equals sign, where no level at all stands for the deepest. -/
def givenRank? (word : Text) : Option Nat := if word = [] then some 5 else rank? word

def beginsFront (c : Char) : Bool := "-:_".toList.contains c || Text.isAlphanumeric c

/-- A text by the places of its bytes in UTF-8. A character stands at the first of its places. -/
abbrev Places := List (Option Char)

def placesOf (text : Text) : Places :=
  text.flatMap fun c => some c :: List.replicate (c.utf8Size - 1) none

/-- The characters from `start` on and before `stop`. -/
def cut (places : Places) (start stop : Nat) : Text := ((places.take stop).drop start).filterMap id

theorem cut_placesOf (text : Text) : cut (placesOf text) 0 (placesOf text).length = text := by
  simp only [cut, placesOf, List.take_length, List.drop_zero]
  induction text with
  | nil => rfl
  | cons c text ih => simpa [List.filterMap_append, List.filterMap_replicate] using ih

/-- The first place from `start` on with one of the stops, and the stop there. -/
def stopFrom? (stops : Text) (places : Places) (start : Nat) : Option (Nat × Char) :=
  ((places.zipIdx).drop start).findSome? fun (c?, place) =>
    (c?.filter stops.contains).map fun c => (place, c)

def fieldOf? (text : Text) : Option (Text × Option Text) :=
  match text, Text.pieces '=' text with
  | _ :: _, [name] => some (name, none)
  | _ :: _, name :: value :: _ => if Pattern.isValue value then some (name, some value) else none
  | _, _ => none

/-- A word, and the word without the blanks at its ends. The parts of a rule are looked for in the
second and cut from the first: a blank in front moves each of them. -/
structure RuleText where
  whole : Places
  trimmed : Places

namespace RuleText

def ofWord (word : Text) : RuleText := ⟨placesOf word, placesOf (Text.trim word)⟩

/-- The part between two places. -/
def part (text : RuleText) (start stop : Nat) : Text := cut text.whole start stop

/-- The rank behind the equals sign at a place. -/
def rankBehind? (text : RuleText) (place : Nat) : Option Nat :=
  givenRank? (text.part (place + 1) text.whole.length)

/-- The rest of a rule at the end of its brackets: nothing, or a level. -/
def finish? (text : RuleText) (rule : LogRule) (place : Nat) : Option LogRule :=
  match text.trimmed.drop place with
  | [] => some rule
  | some '=' :: _ => (text.rankBehind? place).map fun rank => { rule with rank }
  | _ :: _ => none

/-- The rest of a rule behind its front and the bracket that opens at `place`. -/
def bracketed? (text : RuleText) (place : Nat) : Option LogRule := do
  let front := text.part 0 place
  let (stop, c) ← stopFrom? [']', '\x7b'] text.trimmed (place + 1)
  let span := text.part (place + 1) stop
  if c = ']' then text.finish? ⟨front, some span, none, 5⟩ (stop + 1)
  else
    let (close, _) ← stopFrom? ['\x7d'] text.trimmed (stop + 1)
    let field ← fieldOf? (text.part (stop + 1) close)
    if text.trimmed[close + 1]? = some (some ']') then
      text.finish? ⟨front, if span = [] then none else some span, some field, 5⟩ (close + 2)
    else none

/-- A rule that begins with its front, or a level alone. -/
def plain? (text : RuleText) : Option LogRule :=
  match stopFrom? ['=', '['] text.trimmed 0 with
  | none =>
    let word := text.part 0 text.whole.length
    match rank? word with
    | some rank => some ⟨[], none, none, rank⟩
    | none => some ⟨word, none, none, 5⟩
  | some (place, '[') => text.bracketed? place
  | some (place, _) =>
    (text.rankBehind? place).map fun rank => ⟨text.part 0 place, none, none, rank⟩

end RuleText

/-- The rule that a word gives. -/
def ofWord? (word : Text) : Option LogRule :=
  match Text.trim word with
  | [] => none
  | '[' :: _ => (RuleText.ofWord word).bracketed? 0
  | c :: _ => if beginsFront c then (RuleText.ofWord word).plain? else none

end LogRule
end TexFlat.CommandLine
