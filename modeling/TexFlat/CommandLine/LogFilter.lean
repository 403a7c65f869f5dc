import TexFlat.CommandLine.LogRule

/-!
# Log filters

A filter is a list of rules. Of the rules for an entry the most particular one decides whether it is
shown; an entry that no rule is for stays silent.
-/

namespace TexFlat.CommandLine

structure LogFilter where
  rules : List LogRule
deriving DecidableEq, Repr

namespace LogFilter

/-- The rule that decides about an entry: of two alike the later one. -/
def ruleFor? (filter : LogFilter) (entry : Log.Entry) : Option LogRule :=
  (filter.rules.filter (·.isFor entry)).foldl (fun best rule =>
    match best with
    | none => some rule
    | some other => some (if other.yieldsTo rule then rule else other)) none

def shows (filter : LogFilter) (entry : Log.Entry) : Bool :=
  match filter.ruleFor? entry with
  | none => false
  | some rule => entry.level.rank ≤ rule.rank

/-- The filter that a list of rules with commas between them gives, if each of them can be read. -/
def ofText? (text : Text) : Option LogFilter :=
  (((Text.pieces ',' text).filter (· ≠ [])).mapM LogRule.ofWord?).map LogFilter.mk

def upTo (level : Log.Level) : LogFilter :=
  ⟨["texmerge".toList, "texmerge_core".toList].map fun front => ⟨front, none, none, level.rank⟩⟩

def ofVerbosity : Verbosity → LogFilter
  | .verbose => upTo .debug
  | .quiet => upTo .warn
  | .normal => upTo .info

/-- The filter in force: that of the environment, if there is one and it can be read. -/
def choose (verbosity : Verbosity) (environment : Option Text) : LogFilter :=
  (environment.bind ofText?).getD (ofVerbosity verbosity)

end LogFilter
end TexFlat.CommandLine
