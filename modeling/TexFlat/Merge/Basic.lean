import TexFlat.Directive.Scan
import TexFlat.Marker
import TexFlat.Merge.Event
import TexFlat.Options
import TexFlat.Source

/-!
# Merging

A merge expands a document: each directive gives way to the merged text of its target between
markers, or to a marker that says why not. A file is expanded at most once in a run, and the inputs
of a file are expanded before its imports, these before its includes; each pass reads what the
pass before it left.

`visit` recurses on the levels that are left below a file, so no bound on the files is needed.
-/

namespace TexFlat.Merge

open Directive (Kind Segment)

/-- How far a run has come: the canonical paths it has expanded, and what has happened. Both lists
have the last one first. -/
structure Run where
  visited : List Path := []
  events : List Event := []

namespace Run

def note (run : Run) (event : Event) : Run := { run with events := event :: run.events }

def enter (run : Run) (key : Path) : Run := { run with visited := key :: run.visited }

def HasVisited (run : Run) (key : Path) : Prop := ∃ path ∈ run.visited, path.Same key

instance (run : Run) (key : Path) : Decidable (run.HasVisited key) :=
  inferInstanceAs (Decidable (∃ path ∈ run.visited, path.Same key))

end Run

/-- The text of the segments with each directive replaced, behind the text `done`, which stands
last character first. -/
def splice (replace : Run → Directive → Text × Run) (done : Text) (run : Run) :
    List Segment → Text × Run
  | [] => (done.reverse, run)
  | .char c :: others => splice replace (c :: done) run others
  | .directive d :: others =>
    let (text, run) := replace run d
    splice replace (text.reverse ++ done) run others

/-- What takes the place of a directive in a file whose references start from `base`. -/
def replacement (source : Source) (visit : Run → (file base : Path) → Text × Run) (base : Path)
    (run : Run) (d : Directive) : Text × Run :=
  let dir := d.searchDir base
  match source.resolve? d.name dir with
  | some target =>
    let (body, run) := visit (run.note (.resolved d dir target)) target dir
    (Marker.block d.kind d.reference target dir body, run)
  | none => (Marker.notFound d.kind d.reference, run.note (.notFound d dir))

/-- One pass over a text: all directives of one kind are replaced. -/
def pass (replace : Run → Directive → Text × Run) (state : Text × Run) (kind : Kind) : Text × Run :=
  splice replace [] state.2 (Directive.segments kind state.1)

/-- The merged text of a file with `levels` levels left, its own included. -/
def visit (source : Source) (options : Options) :
    (levels : Nat) → Run → (file base : Path) → Text × Run
  | 0, run, file, _ =>
    if run.HasVisited (source.settle file) then
      (Marker.alreadyIncluded file, run.note (.alreadyProcessed file))
    else
      (Marker.depthExceeded options.maxDepth file, run.note (.tooDeep file options.maxDepth))
  | levels + 1, run, file, base =>
    if run.HasVisited (source.settle file) then
      (Marker.alreadyIncluded file, run.note (.alreadyProcessed file))
    else
      let run := run.enter (source.settle file)
      let run := run.note (.processing file base (options.maxDepth - levels))
      match source.read options.encoding file with
      | .error cause => (Marker.unreadable file cause.message, run.note (.unreadable file cause))
      | .ok text =>
        Kind.passes.foldl (pass (replacement source (visit source options levels) base)) (text, run)

end Merge

structure Merged where
  content : Text
  /-- The number of files expanded, the root included. -/
  filesProcessed : Nat
deriving DecidableEq, Repr

namespace Merge

/-- The merge of a document and all that it refers to, with what happened on the way. It fails only
where there is no such document. -/
def merge (source : Source) (options : Options) (root : Path) :
    Except Failure Merged × List Event :=
  match source.rootDocument root with
  | .error failure => (.error failure, [])
  | .ok root =>
    let (content, run) := visit source options (options.maxDepth + 1)
      { events := [.started root] } root root.directory
    (.ok ⟨content, run.visited.length⟩, run.events.reverse)

end TexFlat.Merge
