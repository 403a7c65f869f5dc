import Mathlib.Logic.Relation
import TexFlat.Inventory.Basic
import TexFlat.Proofs.Store

/-!
# The steps of an inventory

An inventory is made by steps: an event is noted, or a file that something leads to is listed with
its base, if it was not listed with that base before. `steps_visit` says so, and that an inventory
starts with its root.
-/

namespace TexFlat.Inventory

variable {source : Source} {options : Options} {start : Path} {survey survey' : Survey}

/-- A directive in the text of a file leads to a target, which is looked for from its base. -/
def Leads (source : Source) (options : Options) (file base target base' : Path) : Prop :=
  ∃ text, source.read options.encoding file = .ok text ∧ ∃ d ∈ references text,
    base' = d.searchDir base ∧ source.resolve? d.name base' = some target

/-- A file that an inventory may go to, and why: it starts there, or a directive in a file that it
lists leads there. -/
inductive Near (source : Source) (options : Options) (start : Path) (survey : Survey) :
    (file base : Path) → Origin → Prop
  | start : Near source options start survey start start.directory .root
  | reference {entry : Entry} {text : Text} {d : Directive} {target : Path} : entry ∈ survey.entries →
    source.read options.encoding entry.path = .ok text → d ∈ references text →
    source.resolve? d.name (d.searchDir entry.base) = some target →
    Near source options start survey target (d.searchDir entry.base) (.reference d.kind)

inductive Step (source : Source) (options : Options) (start : Path) (survey : Survey) : Survey → Prop
  | note (event : Event) : Step source options start survey (survey.note event)
  | list {file base : Path} {origin : Origin} : Near source options start survey file base origin →
    ¬ survey.Lists (source.settle file) base →
    Step source options start survey (survey.add ⟨source.settle file, base, origin⟩)

abbrev Steps (source : Source) (options : Options) (start : Path) : Survey → Survey → Prop :=
  Relation.ReflTransGen (Step source options start)

theorem Step.entries_prefix (step : Step source options start survey survey') :
    survey.entries <+: survey'.entries := by
  cases step with
  | note => exact List.prefix_refl _
  | list => exact List.prefix_append _ _

theorem Steps.entries_prefix (steps : Steps source options start survey survey') :
    survey.entries <+: survey'.entries := by
  induction steps with
  | refl => exact List.prefix_refl _
  | tail _ step ih => exact ih.trans step.entries_prefix

/-! ### What a call does -/

section Calls

variable {levels : Nat} {file base : Path} {origin : Origin}

theorem visit_of_listed (listed : survey.Lists (source.settle file) base) :
    visit source options levels survey file base origin = survey := by
  cases levels with
  | zero => exact if_pos listed
  | succ levels => exact if_pos listed

theorem visit_zero (new : ¬ survey.Lists (source.settle file) base) :
    visit source options 0 survey file base origin =
      survey.note (.tooDeep (source.settle file) options.maxDepth) := if_neg new

theorem visit_of_error {cause : Fault} (new : ¬ survey.Lists (source.settle file) base)
    (read : source.read options.encoding (source.settle file) = .error cause) :
    visit source options (levels + 1) survey file base origin =
      (survey.add ⟨source.settle file, base, origin⟩).note (.unreadable (source.settle file) cause) := by
  simp only [visit, if_neg new, read]

theorem visit_of_ok {text : Text} (new : ¬ survey.Lists (source.settle file) base)
    (read : source.read options.encoding (source.settle file) = .ok text) :
    visit source options (levels + 1) survey file base origin =
      (references text).foldl (follow source (visit source options levels) base)
        (survey.add ⟨source.settle file, base, origin⟩) := by
  simp only [visit, if_neg new, read]

variable {call : Survey → (file base : Path) → Origin → Survey} {d : Directive}

theorem follow_of_none (missing : source.resolve? d.name (d.searchDir base) = none) :
    follow source call base survey d = survey.note (.skipped d (d.searchDir base)) := by
  simp only [follow, missing]

theorem follow_of_some {target : Path}
    (found : source.resolve? d.name (d.searchDir base) = some target) :
    follow source call base survey d = call (survey.note (.resolved d (d.searchDir base) target)) target
      (d.searchDir base) (.reference d.kind) := by
  simp only [follow, found]

end Calls

/-! ### A call is a series of steps -/

theorem steps_visit {levels : Nat} {file base : Path} {origin : Origin}
    (near : Near source options start survey file base origin) :
    Steps source options start survey (visit source options levels survey file base origin) := by
  induction levels generalizing survey file base origin with
  | zero =>
    by_cases listed : survey.Lists (source.settle file) base
    · rw [visit_of_listed listed]
    · rw [visit_zero listed]
      exact .single (.note _)
  | succ levels ih =>
    by_cases listed : survey.Lists (source.settle file) base
    · rw [visit_of_listed listed]
    · have first : Step source options start survey (survey.add ⟨source.settle file, base, origin⟩) :=
        .list near listed
      cases read : source.read options.encoding (source.settle file) with
      | error cause =>
        rw [visit_of_error listed read]
        exact .head first (.single (.note _))
      | ok text =>
        rw [visit_of_ok listed read]
        refine .head first ?_
        have entered : ⟨source.settle file, base, origin⟩ ∈
            (survey.add ⟨source.settle file, base, origin⟩).entries :=
          List.mem_append_right _ List.mem_cons_self
        -- The survey grows from directive to directive, and the file stays listed in it.
        generalize survey.add ⟨source.settle file, base, origin⟩ = survey at entered
        have each (ds : List Directive) (inside : ∀ d ∈ ds, d ∈ references text) :
            Steps source options start survey
              (ds.foldl (follow source (visit source options levels) base) survey) := by
          induction ds generalizing survey with
          | nil => exact .refl
          | cons d ds inner =>
            have next : Steps source options start survey
                (follow source (visit source options levels) base survey d) := by
              cases found : source.resolve? d.name (d.searchDir base) with
              | none =>
                rw [follow_of_none found]
                exact .single (.note _)
              | some target =>
                have noted : _ ∈ (survey.note (.resolved d (d.searchDir base) target)).entries := entered
                rw [follow_of_some found]
                exact .head (.note _) (ih (.reference noted read (inside d List.mem_cons_self) found))
            exact next.trans (inner _ (next.entries_prefix.subset entered) fun d member =>
              inside d (List.mem_cons_of_mem _ member))
        exact each _ fun _ member => member

def fromRoot (store : Store) (options : Options) (root : Path) : Survey :=
  visit store.source options (options.maxDepth + 1) {} root.normalize root.normalize.directory .root

theorem discover_of_present (options : Options) {store : Store} {root : Path}
    (present : store.present root = true) :
    discover store.source options root = (.ok (fromRoot store options root).entries,
      ((fromRoot store options root).note
        (.completed root.normalize (fromRoot store options root).entries.length)).events.reverse) := by
  simp only [discover, Store.rootDocument_of_present present]
  rfl

theorem steps_fromRoot (store : Store) (options : Options) (root : Path) :
    Steps store.source options root.normalize {} (fromRoot store options root) :=
  steps_visit .start

end TexFlat.Inventory
