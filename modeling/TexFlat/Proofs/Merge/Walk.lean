import Mathlib.Logic.Relation
import TexFlat.Inventory.Basic
import TexFlat.Proofs.Merge.Expansion
import TexFlat.Proofs.Store

/-!
# The steps of a run

Whatever a run of a merge does is a series of steps: a reference is resolved or not, and a file that
is called for was expanded before, is too deep, or is expanded. `steps_visitBy` says so for every way
to fill a text that replaces directives one after the other, as `rescan` and `atOnce` do. What a step
keeps, a run keeps.
-/

namespace TexFlat.Merge

open Directive (Kind Occurrence Segment)

variable {source : Source} {options : Options} {follows : Text → Directive → Prop} {start : Path}
  {fill : Fill} {replace : Run → Directive → Text × Run} {run run' : Run}

/-- A directive that `follows` allows in the text of a file that was expanded at a depth. -/
def Asks (source : Source) (options : Options) (follows : Text → Directive → Prop) (run : Run)
    (d : Directive) (dir : Path) (depth : Nat) : Prop :=
  ∃ file base text, .processing file base depth ∈ run.events ∧
    source.read options.encoding file = .ok text ∧ follows text d ∧ dir = d.searchDir base

/-- A file that is called for at a depth: where the run starts, or the target of a directive one
level above. -/
def Called (source : Source) (options : Options) (follows : Text → Directive → Prop) (start : Path)
    (run : Run) (file base : Path) : (depth : Nat) → Prop
  | 0 => file = start ∧ base = start.directory
  | depth + 1 => ∃ d, Asks source options follows run d base depth ∧
      source.resolve? d.name base = some file

/-- What a run can do next. -/
inductive Step (source : Source) (options : Options) (follows : Text → Directive → Prop)
    (start : Path) (run : Run) : Run → Prop
  | resolved {d : Directive} {dir target : Path} {depth : Nat} :
    Asks source options follows run d dir depth → source.resolve? d.name dir = some target →
    Step source options follows start run (run.note (.resolved d dir target))
  | notFound {d : Directive} {dir : Path} {depth : Nat} :
    Asks source options follows run d dir depth → source.resolve? d.name dir = none →
    Step source options follows start run (run.note (.notFound d dir))
  | again {file base : Path} {depth : Nat} :
    Called source options follows start run file base depth → run.HasVisited (source.settle file) →
    Step source options follows start run (run.note (.alreadyProcessed file))
  | tooDeep {file base : Path} {depth : Nat} :
    Called source options follows start run file base depth → ¬ run.HasVisited (source.settle file) →
    options.maxDepth < depth →
    Step source options follows start run (run.note (.tooDeep file options.maxDepth))
  | expand {file base : Path} {depth : Nat} :
    Called source options follows start run file base depth → ¬ run.HasVisited (source.settle file) →
    depth ≤ options.maxDepth →
    Step source options follows start run (run.begin source file base depth)
  | unreadable {file base : Path} {depth : Nat} {cause : Fault} :
    .processing file base depth ∈ run.events → source.read options.encoding file = .error cause →
    Step source options follows start run (run.note (.unreadable file cause))

abbrev Steps (source : Source) (options : Options) (follows : Text → Directive → Prop)
    (start : Path) : Run → Run → Prop :=
  Relation.ReflTransGen (Step source options follows start)

/-! ### Nothing that happened is taken back -/

theorem mem_of_mem_note {event other : Event} (h : event ∈ (run.note other).events)
    (apart : event ≠ other) : event ∈ run.events :=
  (List.mem_cons.mp h).resolve_left apart

theorem Step.events_suffix (step : Step source options follows start run run') :
    run.events <:+ run'.events := by
  cases step with
  | _ => exact List.suffix_cons _ _

theorem Steps.events_suffix (steps : Steps source options follows start run run') :
    run.events <:+ run'.events := by
  induction steps with
  | refl => exact List.suffix_refl _
  | tail _ step ih => exact ih.trans step.events_suffix

theorem Asks.of_suffix {d : Directive} {dir : Path} {depth : Nat}
    (asks : Asks source options follows run d dir depth) (behind : run.events <:+ run'.events) :
    Asks source options follows run' d dir depth := by
  obtain ⟨file, base, text, member, rest⟩ := asks
  exact ⟨file, base, text, behind.subset member, rest⟩

theorem Called.of_suffix {file base : Path} {depth : Nat}
    (called : Called source options follows start run file base depth)
    (behind : run.events <:+ run'.events) :
    Called source options follows start run' file base depth := by
  cases depth with
  | zero => exact called
  | succ depth =>
    obtain ⟨d, asks, found⟩ := called
    exact ⟨d, asks.of_suffix behind, found⟩

/-! ### Fills that go from directive to directive -/

/-- The run of a fill is that of its directives, replaced one after the other. -/
def Fill.Threads (fill : Fill) (follows : Text → Directive → Prop) : Prop :=
  ∀ replace run text, ∃ ds : List Directive, (∀ d ∈ ds, follows text d) ∧
    (fill replace run text).2 = ds.foldl (fun run d => (replace run d).2) run

theorem splice_run (done : Text) (run : Run) (segments : List Segment) :
    (splice replace done run segments).2 =
      (segments.filterMap Segment.directive?).foldl (fun run d => (replace run d).2) run := by
  induction segments generalizing done run with
  | nil => rfl
  | cons s others ih =>
    cases s with
    | char c => exact ih (c :: done) run
    | directive d => exact ih _ _

theorem exists_foldl_pass (replace : Run → Directive → Text × Run) (kinds : List Kind)
    (state : Text × Run) : ∃ ds : List Directive,
    (kinds.foldl (pass replace) state).2 = ds.foldl (fun run d => (replace run d).2) state.2 := by
  induction kinds generalizing state with
  | nil => exact ⟨[], rfl⟩
  | cons kind kinds ih =>
    obtain ⟨ds, same⟩ := ih (pass replace state kind)
    have first : (pass replace state kind).2 = _ := splice_run [] state.2 _
    exact ⟨_ ++ ds, by rw [List.foldl_cons, same, first, List.foldl_append]⟩

theorem threads_rescan : rescan.Threads fun _ _ => True := by
  intro replace run text
  obtain ⟨ds, same⟩ := exists_foldl_pass replace Kind.passes (text, run)
  exact ⟨ds, fun _ _ => trivial, same⟩

theorem substitutions_run (run : Run) (found : List Occurrence) :
    (substitutions replace run found).2 =
      (found.map (·.directive)).foldl (fun run d => (replace run d).2) run := by
  induction found generalizing run with
  | nil => rfl
  | cons o found ih => exact ih _

theorem map_directive_occurrencesFrom (place : Nat) (segments : List Segment) :
    (Directive.occurrencesFrom place segments).map (·.directive) =
      segments.filterMap Segment.directive? := by
  induction segments generalizing place with
  | nil => rfl
  | cons s others ih =>
    cases s with
    | char c => exact ih _
    | directive d => exact congrArg (d :: ·) (ih _)

theorem map_directive_scan (text : Text) :
    (Kind.passes.flatMap (Directive.scan text)).map (·.directive) = Inventory.references text := by
  rw [List.map_flatMap]
  exact congrArg Kind.passes.flatMap
    (funext fun kind => map_directive_occurrencesFrom 0 (Directive.segments kind text))

theorem atOnce_run (replace : Run → Directive → Text × Run) (run : Run) (text : Text) :
    (atOnce replace run text).2 =
      (Inventory.references text).foldl (fun run d => (replace run d).2) run :=
  (substitutions_run run _).trans (by rw [map_directive_scan])

theorem threads_atOnce : atOnce.Threads fun text d => d ∈ Inventory.references text :=
  fun replace run text => ⟨Inventory.references text, fun _ member => member, atOnce_run replace run text⟩

/-! ### A call is a series of steps -/

theorem steps_replacement {visit : Run → (file base : Path) → Text × Run} {base : Path}
    {d : Directive} {depth : Nat} (asks : Asks source options follows run d (d.searchDir base) depth)
    (calls : ∀ run file base, Called source options follows start run file base (depth + 1) →
      Steps source options follows start run (visit run file base).2) :
    Steps source options follows start run (replacement source visit base run d).2 := by
  cases found : source.resolve? d.name (d.searchDir base) with
  | none =>
    rw [replacement_of_none found]
    exact .single (.notFound asks found)
  | some target =>
    have first : Step source options follows start run _ := .resolved asks found
    rw [replacement_of_some found]
    exact .head first (calls _ _ _ ⟨d, asks.of_suffix first.events_suffix, found⟩)

theorem steps_foldl {visit : Run → (file base : Path) → Text × Run} {file base : Path} {depth : Nat}
    {text : Text} (read : source.read options.encoding file = .ok text)
    (calls : ∀ run file base, Called source options follows start run file base (depth + 1) →
      Steps source options follows start run (visit run file base).2)
    (ds : List Directive) (allowed : ∀ d ∈ ds, follows text d) (run : Run)
    (begun : .processing file base depth ∈ run.events) :
    Steps source options follows start run
      (ds.foldl (fun run d => (replacement source visit base run d).2) run) := by
  induction ds generalizing run with
  | nil => exact .refl
  | cons d ds ih =>
    have asks : Asks source options follows run d (d.searchDir base) depth :=
      ⟨file, base, text, begun, read, allowed d List.mem_cons_self, rfl⟩
    have next := steps_replacement asks calls
    exact next.trans (ih (fun d member => allowed d (List.mem_cons_of_mem _ member)) _
      (next.events_suffix.subset begun))

theorem steps_visitBy (threads : fill.Threads follows) {levels depth : Nat} {file base : Path}
    (called : Called source options follows start run file base depth)
    (total : depth + levels = options.maxDepth + 1) :
    Steps source options follows start run (visitBy fill source options levels run file base).2 := by
  have begins {levels depth : Nat} {run : Run} {file base : Path}
      (called : Called source options follows start run file base depth)
      (new : ¬ run.HasVisited (source.settle file)) (total : depth + (levels + 1) = options.maxDepth + 1) :
      options.maxDepth - levels = depth ∧
        Step source options follows start run (run.begin source file base depth) :=
    ⟨by omega, .expand called new (by omega)⟩
  refine visitBy_induction (motive := fun levels run file base result => ∀ depth,
    Called source options follows start run file base depth → depth + levels = options.maxDepth + 1 →
      Steps source options follows start run result.2) ?_ ?_ ?_ ?_ levels run file base depth called total
  · intro levels run file base visited depth called total
    exact .single (.again called visited)
  · intro run file base new depth called total
    exact .single (.tooDeep called new (by omega))
  · intro levels run file base cause new read depth called total
    obtain ⟨here, first⟩ := begins called new total
    rw [here]
    exact .head first (.single (.unreadable List.mem_cons_self read))
  · intro levels run file base text new read calls depth called total
    obtain ⟨here, first⟩ := begins called new total
    obtain ⟨ds, allowed, same⟩ := threads (replacement source (visitBy fill source options levels) base)
      (run.begin source file base depth) text
    rw [here, same]
    refine .head first (steps_foldl read (fun run file base called => ?_) ds allowed _ List.mem_cons_self)
    exact calls run file base (depth + 1) called (by omega)

/-! ### What the events of a run go back to -/

/-- A directive that was looked up stands in a file that was expanded, and a file that was expanded
was called for at its depth, which is not beyond the deepest. -/
def Grounded (source : Source) (options : Options) (follows : Text → Directive → Prop) (start : Path)
    (run : Run) : Event → Prop
  | .resolved d dir _ | .notFound d dir => ∃ depth, Asks source options follows run d dir depth
  | .processing file base depth =>
    depth ≤ options.maxDepth ∧ Called source options follows start run file base depth
  | _ => True

theorem Grounded.of_suffix {event : Event} (grounded : Grounded source options follows start run event)
    (behind : run.events <:+ run'.events) : Grounded source options follows start run' event := by
  cases event with
  | resolved | notFound =>
    obtain ⟨depth, asks⟩ := grounded
    exact ⟨depth, asks.of_suffix behind⟩
  | processing => exact ⟨grounded.1, grounded.2.of_suffix behind⟩
  | _ => trivial

theorem Step.exists_event (step : Step source options follows start run run') :
    ∃ event, run'.events = event :: run.events ∧ Grounded source options follows start run event := by
  cases step with
  | resolved asks => exact ⟨_, rfl, _, asks⟩
  | notFound asks => exact ⟨_, rfl, _, asks⟩
  | again => exact ⟨_, rfl, trivial⟩
  | tooDeep => exact ⟨_, rfl, trivial⟩
  | expand called _ shallow => exact ⟨_, rfl, shallow, called⟩
  | unreadable => exact ⟨_, rfl, trivial⟩

theorem Steps.grounded (steps : Steps source options follows start { events := [.started start] } run)
    {event : Event} (h : event ∈ run.events) : Grounded source options follows start run event := by
  induction steps with
  | refl =>
    obtain rfl := List.mem_singleton.mp h
    trivial
  | tail _ step ih =>
    have behind := step.events_suffix
    obtain ⟨last, added, grounded⟩ := step.exists_event
    rw [added] at h
    rcases List.mem_cons.mp h with rfl | h
    · exact grounded.of_suffix behind
    · exact (ih h).of_suffix behind

theorem Steps.called (steps : Steps source options follows start { events := [.started start] } run)
    {file base : Path} {depth : Nat} (h : .processing file base depth ∈ run.events) :
    Called source options follows start run file base depth := by
  have grounded : Grounded source options follows start run (.processing file base depth) := steps.grounded h
  exact grounded.2

theorem Called.place {store : Store} {file base : Path} {depth : Nat}
    (called : Called store.source options follows start run file base depth)
    (first : store.Place start) : store.Place file := by
  cases depth with
  | zero =>
    obtain ⟨rfl, -⟩ := called
    exact first
  | succ depth =>
    obtain ⟨d, -, found⟩ := called
    exact Store.place_of_resolve? found

def fromRoot (fill : Fill) (store : Store) (options : Options) (root : Path) : Text × Run :=
  visitBy fill store.source options (options.maxDepth + 1) { events := [.started root.normalize] }
    root.normalize root.normalize.directory

theorem mergeBy_of_present (fill : Fill) (options : Options) {store : Store} {root : Path}
    (present : store.present root = true) :
    mergeBy fill store.source options root =
      (.ok ⟨(fromRoot fill store options root).1, (fromRoot fill store options root).2.visited.length⟩,
        (fromRoot fill store options root).2.events.reverse) := by
  simp only [mergeBy, Store.rootDocument_of_present present, fromRoot]

theorem merge_of_present (options : Options) {store : Store} {root : Path}
    (present : store.present root = true) :
    merge store.source options root =
      (.ok ⟨(fromRoot rescan store options root).1,
          (fromRoot rescan store options root).2.visited.length⟩,
        (fromRoot rescan store options root).2.events.reverse) :=
  (merge_eq_mergeBy store.source options root).trans (mergeBy_of_present rescan options present)

theorem steps_fromRoot (threads : fill.Threads follows) (store : Store) (options : Options) (root : Path) :
    Steps store.source options follows root.normalize { events := [.started root.normalize] }
      (fromRoot fill store options root).2 := by
  have called : Called store.source options follows root.normalize
      { events := [.started root.normalize] } root.normalize root.normalize.directory 0 := ⟨rfl, rfl⟩
  exact steps_visitBy threads called (Nat.zero_add (options.maxDepth + 1))

end TexFlat.Merge
