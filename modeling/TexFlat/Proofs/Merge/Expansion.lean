import TexFlat.Merge.Basic

/-!
# Merging by one substitution

A merge goes over a text once for each kind of directive, and each pass reads what the pass before
it left. `expansion` is the merge as one would have it: the text is scanned as it was read, every
directive in it is replaced in its place, and nothing that was put in is looked at again. The two
are one walk, `visitBy`, with two ways to fill a text.
-/

namespace TexFlat.Merge

open Directive (Kind Occurrence)

/-- A way to fill a text, when it is known what takes the place of a directive. -/
abbrev Fill := (Run → Directive → Text × Run) → Run → Text → Text × Run

/-- Pass after pass, each over what the one before it left. -/
def rescan : Fill := fun replace run text => Kind.passes.foldl (pass replace) (text, run)

/-- A stretch of a text, in bytes, and what is to stand there. -/
structure Edit where
  start : Nat
  stop : Nat
  text : Text

/-- A text, which begins at the byte `place`, after all the edits. A stretch gives way as a whole:
what is to stand there comes where it begins, and its characters go. -/
def rewrite (edits : List Edit) : (place : Nat) → Text → Text
  | _, [] => []
  | place, c :: text =>
    let behind := rewrite edits (place + c.utf8Size) text
    match edits.find? fun edit => edit.start ≤ place ∧ place < edit.stop with
    | some edit => if edit.start = place then edit.text ++ behind else behind
    | none => c :: behind

/-- The edits for directives that are replaced one after the other. -/
def substitutions (replace : Run → Directive → Text × Run) (run : Run) :
    List Occurrence → List Edit × Run
  | [] => ([], run)
  | o :: others =>
    let (text, run) := replace run o.directive
    let (edits, run) := substitutions replace run others
    (⟨o.start, o.stop, text⟩ :: edits, run)

/-- All directives of the text as it is: first its inputs are replaced, then its imports, then its
includes, and what takes their place is put where they stand. -/
def atOnce : Fill := fun replace run text =>
  let (edits, run) := substitutions replace run (Kind.passes.flatMap (Directive.scan text))
  (rewrite edits 0 text, run)

def visitBy (fill : Fill) (source : Source) (options : Options) :
    (levels : Nat) → Run → (file base : Path) → Text × Run
  | 0, run, file, _ =>
    if run.HasVisited (source.settle file) then
      (Marker.alreadyIncluded file, run.note (.alreadyProcessed file))
    else
      (Marker.depthExceeded options.maxDepth file, run.note (.tooDeep file options.maxDepth))
  | levels + 1, run, file, base =>
    if run.HasVisited (source.settle file) then
      (Marker.alreadyIncluded file, run.note (.alreadyProcessed file))
    else
      let run := run.enter (source.settle file)
      let run := run.note (.processing file base (options.maxDepth - levels))
      match source.read options.encoding file with
      | .error cause => (Marker.unreadable file cause.message, run.note (.unreadable file cause))
      | .ok text => fill (replacement source (visitBy fill source options levels) base) run text

def Run.begin (run : Run) (source : Source) (file base : Path) (depth : Nat) : Run :=
  (run.enter (source.settle file)).note (.processing file base depth)

def mergeBy (fill : Fill) (source : Source) (options : Options) (root : Path) :
    Except Failure Merged × List Event :=
  match source.rootDocument root with
  | .error failure => (.error failure, [])
  | .ok root =>
    let (content, run) := visitBy fill source options (options.maxDepth + 1)
      { events := [.started root] } root root.directory
    (.ok ⟨content, run.visited.length⟩, run.events.reverse)

/-- The merge that scans each text once, as it was read. -/
def expansion (source : Source) (options : Options) (root : Path) :
    Except Failure Merged × List Event :=
  mergeBy atOnce source options root

theorem visit_eq_visitBy (source : Source) (options : Options) :
    visit source options = visitBy rescan source options := by
  funext levels
  induction levels with
  | zero => rfl
  | succ levels ih =>
    funext run file base
    rw [visit, visitBy, ih]
    rfl

theorem merge_eq_mergeBy (source : Source) (options : Options) (root : Path) :
    merge source options root = mergeBy rescan source options root := by
  cases found : source.rootDocument root with
  | error failure => simp only [merge, mergeBy, found]
  | ok path => simp only [merge, mergeBy, found, visit_eq_visitBy]

/-! ### What a call does -/

section Calls

variable {fill : Fill} {source : Source} {options : Options} {levels : Nat} {run : Run}
  {file base : Path}

theorem visitBy_of_visited (visited : run.HasVisited (source.settle file)) :
    visitBy fill source options levels run file base =
      (Marker.alreadyIncluded file, run.note (.alreadyProcessed file)) := by
  cases levels with
  | zero => rw [visitBy, if_pos visited]
  | succ levels => rw [visitBy, if_pos visited]

theorem visitBy_zero (new : ¬ run.HasVisited (source.settle file)) :
    visitBy fill source options 0 run file base =
      (Marker.depthExceeded options.maxDepth file, run.note (.tooDeep file options.maxDepth)) := by
  rw [visitBy, if_neg new]

theorem visitBy_of_error {cause : Fault} (new : ¬ run.HasVisited (source.settle file))
    (read : source.read options.encoding file = .error cause) :
    visitBy fill source options (levels + 1) run file base =
      (Marker.unreadable file cause.message,
        (run.begin source file base (options.maxDepth - levels)).note (.unreadable file cause)) := by
  rw [visitBy, if_neg new, read]
  rfl

theorem visitBy_of_ok {text : Text} (new : ¬ run.HasVisited (source.settle file))
    (read : source.read options.encoding file = .ok text) :
    visitBy fill source options (levels + 1) run file base =
      fill (replacement source (visitBy fill source options levels) base)
        (run.begin source file base (options.maxDepth - levels)) text := by
  rw [visitBy, if_neg new, read]
  rfl

/-- What holds of a marker that is left at once, and of a filled text if it holds of the calls that
are made for it, holds of every call. -/
theorem visitBy_induction {motive : (levels : Nat) → Run → (file base : Path) → Text × Run → Prop}
    (again : ∀ levels run file base, run.HasVisited (source.settle file) → motive levels run file base
      (Marker.alreadyIncluded file, run.note (.alreadyProcessed file)))
    (tooDeep : ∀ run file base, ¬ run.HasVisited (source.settle file) → motive 0 run file base
      (Marker.depthExceeded options.maxDepth file, run.note (.tooDeep file options.maxDepth)))
    (unreadable : ∀ levels run file base cause, ¬ run.HasVisited (source.settle file) →
      source.read options.encoding file = .error cause → motive (levels + 1) run file base
        (Marker.unreadable file cause.message,
          (run.begin source file base (options.maxDepth - levels)).note (.unreadable file cause)))
    (filled : ∀ levels run file base text, ¬ run.HasVisited (source.settle file) →
      source.read options.encoding file = .ok text →
      (∀ run file base, motive levels run file base (visitBy fill source options levels run file base)) →
      motive (levels + 1) run file base (fill (replacement source (visitBy fill source options levels) base)
        (run.begin source file base (options.maxDepth - levels)) text))
    (levels : Nat) (run : Run) (file base : Path) :
    motive levels run file base (visitBy fill source options levels run file base) := by
  induction levels generalizing run file base with
  | zero =>
    by_cases visited : run.HasVisited (source.settle file)
    · rw [visitBy_of_visited visited]
      exact again 0 run file base visited
    · rw [visitBy_zero visited]
      exact tooDeep run file base visited
  | succ levels ih =>
    by_cases visited : run.HasVisited (source.settle file)
    · rw [visitBy_of_visited visited]
      exact again (levels + 1) run file base visited
    · cases read : source.read options.encoding file with
      | error cause =>
        rw [visitBy_of_error visited read]
        exact unreadable levels run file base cause visited read
      | ok text =>
        rw [visitBy_of_ok visited read]
        exact filled levels run file base text visited read ih

variable {visit : Run → (file base : Path) → Text × Run} {d : Directive}

theorem replacement_of_none (missing : source.resolve? d.name (d.searchDir base) = none) :
    replacement source visit base run d =
      (Marker.notFound d.kind d.reference, run.note (.notFound d (d.searchDir base))) := by
  simp only [replacement, missing]

theorem replacement_of_some {target : Path}
    (found : source.resolve? d.name (d.searchDir base) = some target) :
    replacement source visit base run d =
      let inner := visit (run.note (.resolved d (d.searchDir base) target)) target (d.searchDir base)
      (Marker.block d.kind d.reference target (d.searchDir base) inner.1, inner.2) := by
  simp only [replacement, found]

end Calls

end TexFlat.Merge
