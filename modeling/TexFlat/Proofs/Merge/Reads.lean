import Mathlib.Data.List.Nodup
import TexFlat.Proofs.Merge.Walk

/-!
# What a merge reads

A file is read where it is expanded, and the event for this is noted just before. In one merge no
file is read twice, what was read is what was visited, and the depths at which files are read are
those of nested calls. A call that leaves a marker changes nothing but the events.
-/

namespace TexFlat.Merge

open Directive (Segment)

variable {store : Store} {source : Source} {options : Options} {fill : Fill} {run run' : Run}
  {replace replace' : Run → Directive → Text × Run}

/-- The file that is read, and the depth: the event is noted right before the reading. -/
def Event.read? : Event → Option (Path × Nat)
  | processing file _ depth => some (file, depth)
  | _ => none

def reads (events : List Event) : List (Path × Nat) := events.filterMap Event.read?

theorem reads_append (a b : List Event) : reads (a ++ b) = reads a ++ reads b := List.filterMap_append

theorem reads_reverse (events : List Event) : reads events.reverse = (reads events).reverse :=
  List.filterMap_reverse

/-! ### One read for each file -/

/-- What was visited is what was read, and each of it is a place of the store, read once. -/
structure Ledger (store : Store) (run : Run) : Prop where
  visited : run.visited = (reads run.events).map (·.1)
  distinct : run.visited.Nodup
  places : ∀ path ∈ run.visited, store.Place path

theorem Ledger.note {event : Event} (ledger : Ledger store run) (silent : event.read? = none) :
    Ledger store (run.note event) := by
  obtain ⟨visited, distinct, places⟩ := ledger
  have same : reads (run.note event).events = reads run.events := List.filterMap_cons_none silent
  exact ⟨visited.trans (by rw [same]), distinct, places⟩

theorem Ledger.begin {file base : Path} {depth : Nat} (ledger : Ledger store run)
    (place : store.Place file) (new : ¬ run.HasVisited (store.source.settle file)) :
    Ledger store (run.begin store.source file base depth) := by
  obtain ⟨visited, distinct, places⟩ := ledger
  rw [place.settle] at new
  have entered : (run.begin store.source file base depth).visited = file :: run.visited := by
    show store.source.settle file :: run.visited = _
    rw [place.settle]
  refine ⟨?_, ?_, ?_⟩
  · rw [entered, visited]
    rfl
  · rw [entered]
    exact List.nodup_cons.mpr ⟨fun member => new ⟨file, member, rfl⟩, distinct⟩
  · rw [entered]
    intro path member
    rcases List.mem_cons.mp member with rfl | member
    · exact place
    · exact places path member

theorem Ledger.step {follows : Text → Directive → Prop} {start : Path} (ledger : Ledger store run)
    (first : store.Place start) (step : Step store.source options follows start run run') :
    Ledger store run' := by
  cases step with
  | resolved => exact ledger.note rfl
  | notFound => exact ledger.note rfl
  | again => exact ledger.note rfl
  | tooDeep => exact ledger.note rfl
  | expand called new => exact ledger.begin (called.place first) new
  | unreadable => exact ledger.note rfl

theorem Ledger.steps {follows : Text → Directive → Prop} {start : Path} (ledger : Ledger store run)
    (first : store.Place start) (steps : Steps store.source options follows start run run') :
    Ledger store run' := by
  induction steps with
  | refl => exact ledger
  | tail _ step ih => exact ih.step first step

theorem ledger_started (store : Store) (root : Path) : Ledger store { events := [.started root] } :=
  ⟨rfl, List.nodup_nil, List.forall_mem_nil _⟩

/-! ### The depths are those of nested calls -/

/-- The depths of calls that begin at `depth`, each with those of the calls in it behind it. -/
inductive Nested : (depth : Nat) → List Nat → Prop
  | none {depth : Nat} : Nested depth []
  | call {depth : Nat} {inner others : List Nat} :
    Nested (depth + 1) inner → Nested depth others → Nested depth (depth :: inner ++ others)

theorem Nested.append {depth : Nat} {a b : List Nat} (first : Nested depth a) (second : Nested depth b) :
    Nested depth (a ++ b) := by
  induction first with
  | none => exact second
  | call inner _ _ ih =>
    rw [List.append_assoc]
    exact .call inner (ih second)

/-- Events and visited files are added, and the reads among the events are nested. -/
def Adds (depth : Nat) (run run' : Run) : Prop :=
  run.visited <:+ run'.visited ∧
    ∃ added, run'.events = added ++ run.events ∧ Nested depth ((reads added).reverse.map (·.2))

theorem Adds.refl (depth : Nat) (run : Run) : Adds depth run run :=
  ⟨List.suffix_refl _, [], rfl, .none⟩

theorem Adds.trans {depth : Nat} {run'' : Run} (first : Adds depth run run') (second : Adds depth run' run'') :
    Adds depth run run'' := by
  obtain ⟨kept, early, same, nested⟩ := first
  obtain ⟨kept', late, same', nested'⟩ := second
  refine ⟨kept.trans kept', late ++ early, by rw [same', same, List.append_assoc], ?_⟩
  rw [reads_append, List.reverse_append, List.map_append]
  exact nested.append nested'

theorem adds_note {depth : Nat} {event : Event} (silent : event.read? = none) :
    Adds depth run (run.note event) := by
  refine ⟨List.suffix_refl _, [event], rfl, ?_⟩
  rw [reads, List.filterMap_cons_none silent]
  exact .none

theorem Adds.begin {depth : Nat} {file base : Path}
    (inner : Adds (depth + 1) (run.begin source file base depth) run') : Adds depth run run' := by
  obtain ⟨kept, added, same, nested⟩ := inner
  have entered : run.visited <:+ (run.begin source file base depth).visited := List.suffix_cons _ _
  refine ⟨entered.trans kept, added ++ [.processing file base depth], by
    rw [same, List.append_assoc]
    rfl, ?_⟩
  have first : reads [.processing file base depth] = [(file, depth)] := rfl
  have call := nested.call .none
  rw [List.append_nil] at call
  rw [reads_append, List.reverse_append, first]
  exact call

theorem Adds.events_suffix {depth : Nat} (adds : Adds depth run run') : run.events <:+ run'.events := by
  obtain ⟨-, added, same, -⟩ := adds
  exact ⟨added, same.symm⟩

theorem adds_foldl {depth : Nat} (each : ∀ run d, Adds depth run (replace run d).2) (ds : List Directive)
    (run : Run) : Adds depth run (ds.foldl (fun run d => (replace run d).2) run) := by
  induction ds generalizing run with
  | nil => exact .refl depth run
  | cons d ds ih => exact (each run d).trans (ih _)

theorem adds_replacement (source : Source) {visit : Run → (file base : Path) → Text × Run} {depth : Nat}
    (calls : ∀ run file base, Adds depth run (visit run file base).2) (base : Path) (run : Run)
    (d : Directive) : Adds depth run (replacement source visit base run d).2 := by
  cases found : source.resolve? d.name (d.searchDir base) with
  | none =>
    rw [replacement_of_none found]
    exact adds_note rfl
  | some target =>
    rw [replacement_of_some found]
    exact Adds.trans (adds_note rfl) (calls _ _ _)

theorem adds_begin_visitBy {follows : Text → Directive → Prop} (threads : fill.Threads follows)
    {levels depth : Nat} (total : depth + levels = options.maxDepth)
    (calls : ∀ run file base, Adds (depth + 1) run (visitBy fill source options levels run file base).2)
    {file : Path} (new : ¬ run.HasVisited (source.settle file)) (base : Path) :
    Adds (depth + 1) (run.begin source file base depth)
      (visitBy fill source options (levels + 1) run file base).2 := by
  have here : options.maxDepth - levels = depth := by omega
  cases read : source.read options.encoding file with
  | error cause =>
    rw [visitBy_of_error new read, here]
    exact adds_note rfl
  | ok text =>
    obtain ⟨ds, -, same⟩ := threads (replacement source (visitBy fill source options levels) base)
      (run.begin source file base depth) text
    rw [visitBy_of_ok new read, here, same]
    exact adds_foldl (adds_replacement source calls base) ds _

theorem adds_visitBy {follows : Text → Directive → Prop} (threads : fill.Threads follows)
    {levels depth : Nat} (total : depth + levels = options.maxDepth + 1) (run : Run) (file base : Path) :
    Adds depth run (visitBy fill source options levels run file base).2 := by
  induction levels generalizing run file base depth with
  | zero =>
    by_cases visited : run.HasVisited (source.settle file)
    · rw [visitBy_of_visited visited]
      exact adds_note rfl
    · rw [visitBy_zero visited]
      exact adds_note rfl
  | succ levels ih =>
    by_cases visited : run.HasVisited (source.settle file)
    · rw [visitBy_of_visited visited]
      exact adds_note rfl
    · have below : depth + 1 + levels = options.maxDepth + 1 := by omega
      exact (adds_begin_visitBy threads (by omega) (ih below) visited base).begin

/-! ### Nothing else is read -/

theorem events_suffix_foldl (onward : ∀ run d, run.events <:+ (replace run d).2.events)
    (ds : List Directive) (run : Run) :
    run.events <:+ (ds.foldl (fun run d => (replace run d).2) run).events := by
  induction ds generalizing run with
  | nil => exact List.suffix_refl _
  | cons d ds ih => exact (onward run d).trans (ih _)

theorem events_suffix_splice (onward : ∀ run d, run.events <:+ (replace run d).2.events) (done : Text)
    (run : Run) (segments : List Segment) : run.events <:+ (splice replace done run segments).2.events := by
  rw [splice_run]
  exact events_suffix_foldl onward _ run

theorem events_suffix_foldl_pass (onward : ∀ run d, run.events <:+ (replace run d).2.events)
    (kinds : List Directive.Kind) (state : Text × Run) :
    state.2.events <:+ (kinds.foldl (pass replace) state).2.events := by
  obtain ⟨ds, same⟩ := exists_foldl_pass replace kinds state
  rw [same]
  exact events_suffix_foldl onward ds _

theorem events_suffix_replacement (source : Source) {visit : Run → (file base : Path) → Text × Run}
    (calls : ∀ run file base, run.events <:+ (visit run file base).2.events) (base : Path) (run : Run)
    (d : Directive) : run.events <:+ (replacement source visit base run d).2.events := by
  cases found : source.resolve? d.name (d.searchDir base) with
  | none =>
    rw [replacement_of_none found]
    exact List.suffix_cons _ _
  | some target =>
    rw [replacement_of_some found]
    have noted : run.events <:+ (run.note (.resolved d (d.searchDir base) target)).events :=
      List.suffix_cons _ _
    exact noted.trans (calls _ _ _)

theorem events_suffix_visitBy {follows : Text → Directive → Prop} (threads : fill.Threads follows)
    (levels : Nat) (run : Run) (file base : Path) :
    run.events <:+ (visitBy fill source options levels run file base).2.events := by
  refine visitBy_induction (motive := fun _ run _ _ result => run.events <:+ result.2.events)
    ?_ ?_ ?_ ?_ levels run file base
  · intro levels run file base _
    exact List.suffix_cons _ _
  · intro run file base _
    exact List.suffix_cons _ _
  · intro levels run file base cause _ _
    exact (List.suffix_cons _ _).trans (List.suffix_cons _ _)
  · intro levels run file base text _ _ calls
    have begun : run.events <:+ (run.begin source file base (options.maxDepth - levels)).events :=
      List.suffix_cons _ _
    obtain ⟨ds, -, same⟩ := threads (replacement source (visitBy fill source options levels) base)
      (run.begin source file base (options.maxDepth - levels)) text
    rw [same]
    exact begun.trans (events_suffix_foldl (events_suffix_replacement source calls base) ds _)

theorem splice_congr (onward : ∀ run d, run.events <:+ (replace run d).2.events)
    (done : Text) (run : Run) (segments : List Segment)
    (alike : ∀ now d, (replace now d).2.events <:+ (splice replace done run segments).2.events →
      replace' now d = replace now d) :
    splice replace' done run segments = splice replace done run segments := by
  induction segments generalizing done run with
  | nil => rfl
  | cons s others ih =>
    cases s with
    | char c => exact ih (c :: done) run alike
    | directive d =>
      -- Nothing that happened is taken back, so this call is one of those that count.
      have later : (replace run d).2.events <:+ (splice replace done run (.directive d :: others)).2.events :=
        events_suffix_splice onward _ _ others
      have first := alike run d later
      rw [splice, first]
      exact ih _ _ alike

theorem foldl_pass_congr (onward : ∀ run d, run.events <:+ (replace run d).2.events)
    (kinds : List Directive.Kind) (state : Text × Run)
    (alike : ∀ now d, (replace now d).2.events <:+ (kinds.foldl (pass replace) state).2.events →
      replace' now d = replace now d) :
    kinds.foldl (pass replace') state = kinds.foldl (pass replace) state := by
  induction kinds generalizing state with
  | nil => rfl
  | cons kind kinds ih =>
    rw [List.foldl_cons] at alike
    have later := events_suffix_foldl_pass onward kinds (pass replace state kind)
    have first : pass replace' state kind = pass replace state kind :=
      splice_congr onward [] state.2 _ fun now d before => alike now d (before.trans later)
    rw [List.foldl_cons, List.foldl_cons, first]
    exact ih _ alike

theorem mem_reads_of_mem {file base : Path} {depth : Nat} {events : List Event}
    (h : .processing file base depth ∈ events) : file ∈ (reads events).map (·.1) :=
  List.mem_map.mpr ⟨(file, depth), List.mem_filterMap.mpr ⟨_, h, rfl⟩, rfl⟩

theorem exists_of_mem_reads {events : List Event} {file : Path}
    (h : file ∈ (reads events).map (·.1)) : ∃ base depth, .processing file base depth ∈ events := by
  obtain ⟨⟨file, depth⟩, member, rfl⟩ := List.mem_map.mp h
  obtain ⟨event, inside, same⟩ := List.mem_filterMap.mp member
  cases event with
  | processing file base depth =>
    obtain ⟨rfl, rfl⟩ := Prod.mk.inj (Option.some.inj same)
    exact ⟨base, depth, inside⟩
  | _ => exact absurd same nofun

/-- Where a source gave the answer that the event shows, another one gives the same. -/
def Event.Agrees (encoding : Encoding) (source source' : Source) : Event → Prop
  | processing file _ _ => source'.read encoding file = source.read encoding file
  | resolved d dir target => source.resolve? d.name dir = some target →
    source'.resolve? d.name dir = some target ∧ source'.settle target = source.settle target
  | notFound d dir => source.resolve? d.name dir = none → source'.resolve? d.name dir = none
  | _ => True

/-- What a call comes to depends on the answers only that its events show. -/
theorem visitBy_congr {source' : Source} {levels depth : Nat} (total : depth + levels = options.maxDepth + 1)
    (run : Run) (file base : Path) (settle : source'.settle file = source.settle file)
    (agree : ∀ event ∈ (visitBy rescan source options levels run file base).2.events,
      event.Agrees options.encoding source source') :
    visitBy rescan source' options levels run file base =
      visitBy rescan source options levels run file base := by
  induction levels generalizing run file base depth with
  | zero => rw [visitBy, visitBy, settle]
  | succ levels ih =>
    by_cases visited : run.HasVisited (source.settle file)
    · rw [visitBy_of_visited visited, visitBy_of_visited (settle ▸ visited)]
    · have begun : run.begin source' file base (options.maxDepth - levels) =
          run.begin source file base (options.maxDepth - levels) := by rw [Run.begin, Run.begin, settle]
      have below : options.maxDepth - levels + 1 + levels = options.maxDepth + 1 := by omega
      have rest := adds_begin_visitBy threads_rescan (by omega) (adds_visitBy threads_rescan below)
        visited base
      -- The reading of this file is noted before any call is made for it, so the two agree on it.
      have here : source'.read options.encoding file = source.read options.encoding file :=
        agree (.processing file base _) (rest.events_suffix.subset List.mem_cons_self)
      cases read : source.read options.encoding file with
      | error cause =>
        rw [visitBy_of_error visited read, visitBy_of_error (settle ▸ visited) (here.trans read), begun]
      | ok text =>
        rw [visitBy_of_ok visited read] at agree
        rw [visitBy_of_ok visited read, visitBy_of_ok (settle ▸ visited) (here.trans read), begun]
        have onward (run : Run) (d : Directive) : run.events <:+
            (replacement source (visitBy rescan source options levels) base run d).2.events :=
          (adds_replacement source (adds_visitBy threads_rescan below) base run d).events_suffix
        refine foldl_pass_congr onward _ _ fun now d before => ?_
        cases found : source.resolve? d.name (d.searchDir base) with
        | none =>
          rw [replacement_of_none found] at before
          have found' := agree (.notFound d _) (before.subset List.mem_cons_self) found
          rw [replacement_of_none found, replacement_of_none found']
        | some target =>
          rw [replacement_of_some found] at before
          let begun := now.note (.resolved d (d.searchDir base) target)
          have noted : begun.events <:+
              (visitBy rescan source options levels begun target (d.searchDir base)).2.events :=
            (adds_visitBy threads_rescan below _ _ _).events_suffix
          obtain ⟨found', settled⟩ :=
            agree (.resolved d _ target) (before.subset (noted.subset List.mem_cons_self)) found
          have inner := ih below begun target (d.searchDir base) settled fun event member =>
            agree event (before.subset member)
          rw [replacement_of_some found, replacement_of_some found', inner]

/-- A merge comes to the same from any source that answers alike what its events show. -/
theorem merge_eq_of_agrees {source' : Source} {root : Path}
    (rootDocument : source'.rootDocument root = source.rootDocument root)
    (settle : ∀ document, source.rootDocument root = .ok document →
      source'.settle document = source.settle document)
    (agree : ∀ event ∈ (merge source options root).2, event.Agrees options.encoding source source') :
    merge source' options root = merge source options root := by
  rw [merge_eq_mergeBy] at agree
  rw [merge_eq_mergeBy, merge_eq_mergeBy]
  unfold mergeBy at agree ⊢
  rw [rootDocument]
  cases found : source.rootDocument root with
  | error failure => rfl
  | ok document =>
    simp only [found, List.mem_reverse] at agree
    have visits := visitBy_congr (Nat.zero_add _) _ _ _ (settle document found) agree
    simp only [visits]

theorem merge_congr {source' : Source} (options : Options) {root : Path}
    (samePresent : source'.present = source.present) (sameCanonical : source'.canonical = source.canonical)
    (same : ∀ path ∈ (reads (merge source options root).2).map (·.1),
      source'.read options.encoding path = source.read options.encoding path) :
    merge source' options root = merge source options root := by
  have settle : source'.settle = source.settle := by
    funext path
    rw [Source.settle, Source.settle, sameCanonical]
  have resolve : source'.resolve? = source.resolve? := by
    funext name dir
    rw [Source.resolve?, Source.resolve?, samePresent, settle]
  have rootDocument : source'.rootDocument root = source.rootDocument root := by
    rw [Source.rootDocument, Source.rootDocument, samePresent, sameCanonical]
  refine merge_eq_of_agrees rootDocument (fun document _ => congrFun settle document) fun event member => ?_
  cases event with
  | processing => exact same _ (mem_reads_of_mem member)
  | resolved d dir => exact fun found => ⟨(congrFun (congrFun resolve d.name) dir).trans found, congrFun settle _⟩
  | notFound d dir => exact (congrFun (congrFun resolve d.name) dir).trans
  | started | alreadyProcessed | tooDeep | unreadable | completed => trivial

/-! ### The whole merge -/

/-- What a call for a file at a depth comes to. -/
structure Answers (source : Source) (options : Options) (depth : Nat) (run : Run) (file base : Path)
    (after : Text × Run) : Prop where
  again : run.HasVisited (source.settle file) → after.1 = Marker.alreadyIncluded file ∧
    after.2.visited = run.visited ∧ reads after.2.events = reads run.events
  tooDeep : ¬ run.HasVisited (source.settle file) → options.maxDepth < depth →
    after.1 = Marker.depthExceeded options.maxDepth file ∧
      after.2.visited = run.visited ∧ reads after.2.events = reads run.events
  expanded : ¬ run.HasVisited (source.settle file) → depth ≤ options.maxDepth →
    (file, depth) ∈ reads after.2.events ∧ after.2.HasVisited (source.settle file)

theorem answers_visit {depth levels : Nat} (total : depth + levels = options.maxDepth + 1) (run : Run)
    (file base : Path) :
    Answers source options depth run file base (visit source options levels run file base) := by
  rw [visit_eq_visitBy]
  refine ⟨fun visited => ?_, fun new deep => ?_, fun new shallow => ?_⟩
  · rw [visitBy_of_visited visited]
    exact ⟨rfl, rfl, rfl⟩
  · obtain rfl : levels = 0 := by omega
    rw [visitBy_zero new]
    exact ⟨rfl, rfl, rfl⟩
  · obtain ⟨below, rfl⟩ : ∃ below, levels = below + 1 := ⟨levels - 1, by omega⟩
    have inner : depth + 1 + below = options.maxDepth + 1 := by omega
    have rest := adds_begin_visitBy threads_rescan (by omega) (adds_visitBy threads_rescan inner) new base
    refine ⟨List.mem_filterMap.mpr ⟨_, rest.events_suffix.subset List.mem_cons_self, rfl⟩, ?_⟩
    exact ⟨_, rest.1.subset List.mem_cons_self, rfl⟩

/-- What a merge that ended with a run has read. -/
structure ReadsOnce (store : Store) (options : Options) (root : Path) (run : Run) : Prop where
  root : (reads run.events.reverse).head? = some (root.normalize, 0)
  nested : Nested 0 ((reads run.events.reverse).map (·.2))
  shallow : ∀ read ∈ reads run.events.reverse, read.2 ≤ options.maxDepth
  canonical : ∀ read ∈ reads run.events.reverse, store.canonical read.1 = .ok read.1
  once : ((reads run.events.reverse).map (·.1)).Nodup
  visited : (reads run.events.reverse).map (·.1) = run.visited.reverse

theorem readsOnce_fromRoot (store : Store) (options : Options) {root : Path}
    (present : store.present root = true) :
    ReadsOnce store options root (fromRoot rescan store options root).2 := by
  have place := Store.place_normalize present
  have steps := steps_fromRoot threads_rescan store options root
  obtain ⟨visited, distinct, places⟩ := (ledger_started store root.normalize).steps place steps
  have inner : 0 + 1 + options.maxDepth = options.maxDepth + 1 := by omega
  have new : ¬ ({ events := [.started root.normalize] } : Run).HasVisited
      (store.source.settle root.normalize) := fun ⟨_, member, _⟩ => absurd member List.not_mem_nil
  obtain ⟨-, added, same, nested⟩ := adds_begin_visitBy threads_rescan (Nat.zero_add _)
    (adds_visitBy threads_rescan inner) new root.normalize.directory
  have made : reads (fromRoot rescan store options root).2.events.reverse =
      (root.normalize, 0) :: (reads added).reverse := by
    have whole : (fromRoot rescan store options root).2.events = added ++ _ := same
    rw [reads_reverse, whole, reads_append, List.reverse_append]
    rfl
  have files : (reads (fromRoot rescan store options root).2.events.reverse).map (·.1) =
      (fromRoot rescan store options root).2.visited.reverse := by
    rw [visited, reads_reverse, List.map_reverse]
  refine ⟨?_, ?_, ?_, ?_, ?_, files⟩
  · rw [made]
    rfl
  · have call := nested.call .none
    rw [List.append_nil] at call
    rw [made]
    exact call
  · intro read member
    obtain ⟨event, happened, same⟩ := List.mem_filterMap.mp member
    cases event with
    | processing file base depth =>
      obtain rfl := Option.some.inj same
      exact (steps.grounded (List.mem_reverse.mp happened)).1
    | _ => exact absurd same nofun
  · intro read member
    have found : read.1 ∈ (fromRoot rescan store options root).2.visited := by
      rw [← List.mem_reverse, ← files]
      exact List.mem_map_of_mem member
    obtain ⟨here, normal⟩ := places read.1 found
    exact (if_pos here).trans (congrArg Except.ok normal)
  · rw [files]
    exact List.nodup_reverse.mpr distinct

/-- A merge reads each file at most once, by its canonical path, the root first and none too deep;
the files that it reads are those that it has visited and counts, and it depends on no other. A call
that leaves a marker reads nothing and visits nothing, whatever has happened before it, and any other
call reads its file. -/
theorem merge_reads_once (store : Store) (options : Options) {root : Path}
    (present : store.present root = true) :
    ∃ merged run, merge store.source options root = (.ok merged, run.events.reverse) ∧
      run = (visit store.source options (options.maxDepth + 1) { events := [.started root.normalize] }
        root.normalize root.normalize.directory).2 ∧
      merged.filesProcessed = run.visited.length ∧ ReadsOnce store options root run ∧
      (∀ source' : Source, source'.present = store.source.present →
        source'.canonical = store.source.canonical →
        (∀ path ∈ run.visited,
          source'.read options.encoding path = store.source.read options.encoding path) →
        merge source' options root = merge store.source options root) ∧
      ∀ depth levels now file base, depth + levels = options.maxDepth + 1 →
        Answers store.source options depth now file base
          (visit store.source options levels now file base) := by
  have once := readsOnce_fromRoot store options present
  have whole := (merge_eq_mergeBy store.source options root).trans (mergeBy_of_present rescan options present)
  refine ⟨_, _, whole, ?_, rfl, once, fun source' samePresent sameCanonical same => ?_,
    fun depth levels now file base total => answers_visit total now file base⟩
  · rw [visit_eq_visitBy]
    rfl
  · refine merge_congr options samePresent sameCanonical fun path member => same path ?_
    rw [whole, once.visited] at member
    exact List.mem_reverse.mp member

/-- A file that is met below the deepest level first and at an allowed level later. -/
theorem merge_reads_once_late :
    let store : Store := ⟨[(.ofString "/m.tex", "\\input\x7ba\x7d\\input\x7bb\x7d".toList),
      (.ofString "/a.tex", "\\input\x7bb\x7d".toList), (.ofString "/b.tex", "B".toList)]⟩
    store.present (.ofString "/m.tex") = true ∧
      ∃ merged run, merge store.source { maxDepth := 1 } (.ofString "/m.tex") = (.ok merged, run.events.reverse) ∧
        merged.filesProcessed = run.visited.length ∧
        ReadsOnce store { maxDepth := 1 } (.ofString "/m.tex") run := by
  intro store
  have present : store.present (.ofString "/m.tex") = true := by decide +kernel
  obtain ⟨merged, run, whole, -, counted, once, -⟩ := merge_reads_once store { maxDepth := 1 } present
  exact ⟨present, merged, run, whole, counted, once⟩

end TexFlat.Merge
