import TexFlat.Directive.Scan
import TexFlat.Inventory.Event
import TexFlat.Options
import TexFlat.Source

/-!
# Inventories

The files that a document refers to, directly or through others, in the order in which they are
first met. A file is listed once for each base directory that it is reached with.
-/

namespace TexFlat.Inventory

open Directive (Kind)

/-- How a file came into the inventory. -/
inductive Origin
  | root
  | reference (kind : Kind)
deriving DecidableEq, Repr

def Origin.word : Origin → Text
  | root => "root".toList
  | reference kind => kind.word

structure Entry where
  path : Path
  /-- The directory that the file's own references start from. -/
  base : Path
  origin : Origin
deriving DecidableEq, Repr

/-- How far an inventory has come: its entries in order, and what has happened, the last first. -/
structure Survey where
  entries : List Entry := []
  events : List Event := []

namespace Survey

def note (survey : Survey) (event : Event) : Survey :=
  { survey with events := event :: survey.events }

def add (survey : Survey) (entry : Entry) : Survey :=
  { survey with entries := survey.entries ++ [entry] }

def Lists (survey : Survey) (path base : Path) : Prop :=
  ∃ entry ∈ survey.entries, entry.path.Same path ∧ entry.base.Same base

instance (survey : Survey) (path base : Path) : Decidable (survey.Lists path base) :=
  inferInstanceAs (Decidable (∃ entry ∈ survey.entries, _ ∧ _))

end Survey

/-- The survey after a directive in a file whose references start from `base`. -/
def follow (source : Source) (visit : Survey → (file base : Path) → Origin → Survey) (base : Path)
    (survey : Survey) (d : Directive) : Survey :=
  let dir := d.searchDir base
  match source.resolve? d.name dir with
  | some target => visit (survey.note (.resolved d dir target)) target dir (.reference d.kind)
  | none => survey.note (.skipped d dir)

/-- The directives of a text: its inputs, then its imports, then its includes. -/
def references (text : Text) : List Directive :=
  Kind.passes.flatMap fun kind => Directive.ofText kind text

/-- The survey after a file with `levels` levels left, its own included. -/
def visit (source : Source) (options : Options) :
    (levels : Nat) → Survey → (file base : Path) → Origin → Survey
  | 0, survey, file, base, _ =>
    let path := source.settle file
    if survey.Lists path base then survey
    else survey.note (.tooDeep path options.maxDepth)
  | levels + 1, survey, file, base, origin =>
    let path := source.settle file
    if survey.Lists path base then survey
    else
      let survey := survey.add ⟨path, base, origin⟩
      match source.read options.encoding path with
      | .error cause => survey.note (.unreadable path cause)
      | .ok text =>
        (references text).foldl (follow source (visit source options levels) base) survey

/-- The inventory of a document, with what happened on the way. It fails only where there is no
such document. -/
def discover (source : Source) (options : Options) (root : Path) :
    Except Failure (List Entry) × List Event :=
  match source.rootDocument root with
  | .error failure => (.error failure, [])
  | .ok root =>
    let survey := visit source options (options.maxDepth + 1) {} root root.directory .root
    let survey := survey.note (.completed root survey.entries.length)
    (.ok survey.entries, survey.events.reverse)

end TexFlat.Inventory
