import TexFlat.Proofs.Inventory.Coverage
import TexFlat.Proofs.Merge.Flat
import TexFlat.Proofs.Merge.Limit

/-!
# What a higher limit loses

A file that a merge meets is expanded, or it is met too deep. A merge that expands a file above its
deepest level expands all that this file refers to. So a higher limit loses only what stands below a
file that it moves down to the deepest level, or to another base.
-/

namespace TexFlat.Merge

open Inventory (Expanded Leads Onward)

variable {store : Store} {source : Source} {options options' : Options} {fill : Fill}
  {asks : Text → List Directive} {run run' run'' : Run}

theorem Run.HasVisited.of_suffix {path : Path} (visited : run.HasVisited path)
    (later : run.visited <:+ run'.visited) : run'.HasVisited path := by
  obtain ⟨key, member, same⟩ := visited
  exact ⟨key, later.subset member, same⟩

/-- A file was expanded, or it was met too deep. -/
def Met (source : Source) (options : Options) (run : Run) (file : Path) : Prop :=
  run.HasVisited (source.settle file) ∨ .tooDeep file options.maxDepth ∈ run.events

/-- All that a text asks for was expanded, unless it is the text of a file at the deepest level. -/
def Followed (source : Source) (options : Options) (asks : Text → List Directive) (run : Run)
    (file base : Path) (depth : Nat) : Prop :=
  depth = options.maxDepth ∨ ∀ text, source.read options.encoding file = .ok text → ∀ d ∈ asks text,
    ∀ target, source.resolve? d.name (d.searchDir base) = some target →
      run.HasVisited (source.settle target)

/-- A later run, in which what was asked for since is met, and what was expanded since is followed. -/
structure Completes (source : Source) (options : Options) (asks : Text → List Directive)
    (run run' : Run) : Prop where
  visited : run.visited <:+ run'.visited
  events : run.events <:+ run'.events
  met : ∀ d dir target, .resolved d dir target ∈ run'.events →
    .resolved d dir target ∈ run.events ∨ Met source options run' target
  followed : ∀ file base depth, .processing file base depth ∈ run'.events →
    .processing file base depth ∈ run.events ∨ Followed source options asks run' file base depth

theorem completes_refl (run : Run) : Completes source options asks run run :=
  ⟨List.suffix_refl _, List.suffix_refl _, fun _ _ _ member => .inl member, fun _ _ _ member => .inl member⟩

theorem Met.later {file : Path} (met : Met source options run file)
    (completes : Completes source options asks run run') : Met source options run' file := by
  rcases met with visited | deep
  · exact .inl (visited.of_suffix completes.visited)
  · exact .inr (completes.events.subset deep)

theorem Followed.later {file base : Path} {depth : Nat}
    (followed : Followed source options asks run file base depth)
    (later : run.visited <:+ run'.visited) : Followed source options asks run' file base depth := by
  rcases followed with deepest | each
  · exact .inl deepest
  · exact .inr fun text read d member target found => (each text read d member target found).of_suffix later

theorem Completes.trans (first : Completes source options asks run run')
    (second : Completes source options asks run' run'') : Completes source options asks run run'' := by
  refine ⟨first.visited.trans second.visited, first.events.trans second.events, ?_, ?_⟩
  · intro d dir target resolved
    rcases second.met d dir target resolved with old | met
    · rcases first.met d dir target old with old | met
      · exact .inl old
      · exact .inr (met.later second)
    · exact .inr met
  · intro file base depth processing
    rcases second.followed file base depth processing with old | followed
    · rcases first.followed file base depth old with old | followed
      · exact .inl old
      · exact .inr (followed.later second.visited)
    · exact .inr followed

/-- No file is expanded and no reference resolved. -/
def Event.Idle : Event → Prop
  | resolved .. | processing .. => False
  | _ => True

theorem completes_note {event : Event} (idle : event.Idle) :
    Completes source options asks run (run.note event) := by
  refine ⟨List.suffix_refl _, List.suffix_cons _ _, ?_, ?_⟩
  · intro d dir target resolved
    rcases List.mem_cons.mp resolved with rfl | old
    · exact idle.elim
    · exact .inl old
  · intro file base depth processing
    rcases List.mem_cons.mp processing with rfl | old
    · exact idle.elim
    · exact .inl old

/-- What a call does completes the run before the reference that it is made for was resolved. -/
theorem Completes.of_resolved {d : Directive} {dir target : Path}
    (inner : Completes source options asks (run.note (.resolved d dir target)) run')
    (met : Met source options run' target) : Completes source options asks run run' := by
  have noted : run.events <:+ (run.note (.resolved d dir target)).events := List.suffix_cons _ _
  refine ⟨inner.visited, noted.trans inner.events, ?_, ?_⟩
  · intro d' dir' target' resolved
    rcases inner.met d' dir' target' resolved with old | met'
    · rcases List.mem_cons.mp old with same | old
      · obtain ⟨-, -, rfl⟩ := Event.resolved.inj same
        exact .inr met
      · exact .inl old
    · exact .inr met'
  · intro file base depth processing
    rcases inner.followed file base depth processing with old | followed
    · exact .inl (mem_of_mem_note old nofun)
    · exact .inr followed

/-- What is done for a file completes the run before the file was begun. -/
theorem Completes.of_begin {file base : Path} {depth : Nat}
    (inner : Completes source options asks (run.begin source file base depth) run')
    (followed : Followed source options asks run' file base depth) :
    Completes source options asks run run' := by
  have entered : run.visited <:+ (run.begin source file base depth).visited := List.suffix_cons _ _
  have noted : run.events <:+ (run.begin source file base depth).events := List.suffix_cons _ _
  refine ⟨entered.trans inner.visited, noted.trans inner.events, ?_, ?_⟩
  · intro d dir target resolved
    rcases inner.met d dir target resolved with old | met
    · exact .inl (mem_of_mem_note old nofun)
    · exact .inr met
  · intro file' base' depth' processing
    rcases inner.followed file' base' depth' processing with old | followed'
    · rcases List.mem_cons.mp old with same | old
      · obtain ⟨rfl, rfl, rfl⟩ := Event.processing.inj same
        exact .inr followed
      · exact .inl old
    · exact .inr followed'

/-! ### A call completes -/

/-- All that `asks` has for a text is among the directives that a fill goes through. -/
def Fill.Exhausts (fill : Fill) (asks : Text → List Directive) : Prop :=
  ∀ replace run text, ∃ ds : List Directive, asks text ⊆ ds ∧
    (fill replace run text).2 = ds.foldl (fun run d => (replace run d).2) run

/-- The inputs of a text are replaced before anything was put into it. -/
theorem exhausts_rescan : rescan.Exhausts (Directive.ofText .inputFile) := by
  intro replace run text
  obtain ⟨ds, same⟩ := exists_foldl_pass replace [.importFile, .includeFile]
    (pass replace (text, run) .inputFile)
  have first : (pass replace (text, run) .inputFile).2 =
      (Directive.ofText .inputFile text).foldl (fun run d => (replace run d).2) run := splice_run [] run _
  refine ⟨Directive.ofText .inputFile text ++ ds, List.subset_append_left _ ds, ?_⟩
  rw [List.foldl_append, ← first]
  exact same

theorem exhausts_atOnce : atOnce.Exhausts Inventory.references :=
  fun replace run text => ⟨Inventory.references text, List.Subset.refl _, atOnce_run replace run text⟩

/-- What a call for a file with `levels` levels left does. -/
structure Visits (source : Source) (options : Options) (asks : Text → List Directive) (levels : Nat)
    (run : Run) (file : Path) (run' : Run) : Prop where
  completes : Completes source options asks run run'
  met : Met source options run' file
  visited : 0 < levels → run'.HasVisited (source.settle file)

section Calls

variable {visit : Run → (file base : Path) → Text × Run} {levels : Nat}
  (calls : ∀ run file base, Visits source options asks levels run file (visit run file base).2)

include calls

theorem visits_replacement (base : Path) (run : Run) (d : Directive) :
    Completes source options asks run (replacement source visit base run d).2 ∧
      (0 < levels → ∀ target, source.resolve? d.name (d.searchDir base) = some target →
        (replacement source visit base run d).2.HasVisited (source.settle target)) := by
  cases found : source.resolve? d.name (d.searchDir base) with
  | none =>
    rw [replacement_of_none found]
    exact ⟨completes_note trivial, fun _ _ => nofun⟩
  | some target =>
    rw [replacement_of_some found]
    obtain ⟨completes, met, visited⟩ :=
      calls (run.note (.resolved d (d.searchDir base) target)) target (d.searchDir base)
    refine ⟨completes.of_resolved met, fun left other same => ?_⟩
    obtain rfl := Option.some.inj same
    exact visited left

theorem visits_foldl (base : Path) (ds : List Directive) (run : Run) :
    Completes source options asks run (ds.foldl (fun run d => (replacement source visit base run d).2) run) ∧
      (0 < levels → ∀ d ∈ ds, ∀ target, source.resolve? d.name (d.searchDir base) = some target →
        (ds.foldl (fun run d => (replacement source visit base run d).2) run).HasVisited
          (source.settle target)) := by
  induction ds generalizing run with
  | nil => exact ⟨completes_refl run, fun _ => List.forall_mem_nil _⟩
  | cons d ds ih =>
    obtain ⟨first, visited⟩ := visits_replacement calls base run d
    obtain ⟨rest, visited'⟩ := ih (replacement source visit base run d).2
    refine ⟨first.trans rest, fun left other member target found => ?_⟩
    rcases List.mem_cons.mp member with rfl | member
    · exact (visited left target found).of_suffix rest.visited
    · exact visited' left other member target found

end Calls

theorem visits_visitBy (exhausts : fill.Exhausts asks) (levels : Nat) (run : Run) (file base : Path)
    (small : levels ≤ options.maxDepth + 1) :
    Visits source options asks levels run file (visitBy fill source options levels run file base).2 := by
  refine visitBy_induction (motive := fun levels run file _ result => levels ≤ options.maxDepth + 1 →
    Visits source options asks levels run file result.2) ?_ ?_ ?_ ?_ levels run file base small
  · intro levels run file base visited _
    exact ⟨completes_note trivial, .inl visited, fun _ => visited⟩
  · intro run file base _ _
    refine ⟨completes_note trivial, .inr List.mem_cons_self, fun left => ?_⟩
    exact absurd left (Nat.lt_irrefl 0)
  · intro levels run file base cause _ failed _
    have begun : (run.begin source file base (options.maxDepth - levels)).HasVisited (source.settle file) :=
      ⟨_, List.mem_cons_self, rfl⟩
    have completes : Completes source options asks (run.begin source file base (options.maxDepth - levels))
        ((run.begin source file base (options.maxDepth - levels)).note (.unreadable file cause)) :=
      completes_note trivial
    refine ⟨completes.of_begin (.inr fun text read => ?_), .inl begun, fun _ => begun⟩
    exact absurd (failed.symm.trans read) nofun
  · intro levels run file base text _ opened calls small
    obtain ⟨ds, inside, same⟩ := exhausts (replacement source (visitBy fill source options levels) base)
      (run.begin source file base (options.maxDepth - levels)) text
    have inner (run : Run) (file base : Path) := calls run file base (by omega)
    obtain ⟨completes, visited⟩ := visits_foldl inner base ds
      (run.begin source file base (options.maxDepth - levels))
    rw [← same] at completes visited
    have begun : (run.begin source file base (options.maxDepth - levels)).HasVisited (source.settle file) :=
      ⟨_, List.mem_cons_self, rfl⟩
    have visited' := begun.of_suffix completes.visited
    refine ⟨completes.of_begin ?_, .inl visited', fun _ => visited'⟩
    by_cases left : 0 < levels
    · refine .inr fun text' read d member target found => ?_
      obtain rfl := Except.ok.inj (opened.symm.trans read)
      exact visited left d (inside member) target found
    · exact .inl (by omega)

theorem visits_fromRoot (exhausts : fill.Exhausts asks) (store : Store) (options : Options) (root : Path) :
    Visits store.source options asks (options.maxDepth + 1) { events := [.started root.normalize] }
      root.normalize (fromRoot fill store options root).2 :=
  visits_visitBy exhausts (options.maxDepth + 1) _ root.normalize root.normalize.directory (Nat.le_refl _)

/-! ### Two limits -/

theorem exists_expanded_of_visited {events : List Event} {file : Path} (ledger : Ledger store run)
    (place : store.Place file) (visited : run.HasVisited (store.source.settle file))
    (whole : events = run.events.reverse) : ∃ base, Expanded events file base := by
  obtain ⟨path, member, same⟩ := visited
  rw [place.settle] at same
  obtain rfl := Path.eq_of_same_of_normal same (ledger.places path member).2 place.2
  rw [ledger.visited] at member
  obtain ⟨base, depth, happened⟩ := exists_of_mem_reads member
  exact ⟨base, depth, whole ▸ List.mem_reverse.mpr happened⟩

theorem visited_of_expanded {events : List Event} {file base : Path} (ledger : Ledger store run)
    (whole : events = run.events.reverse) (expanded : Expanded events file base) : file ∈ run.visited := by
  obtain ⟨depth, happened⟩ := expanded
  rw [ledger.visited]
  exact mem_reads_of_mem (List.mem_reverse.mp (whole ▸ happened))

theorem place_of_expanded {follows : Text → Directive → Prop} (threads : fill.Threads follows) {root : Path}
    (present : store.present root = true) {events : List Event} {file base : Path}
    (whole : events = (fromRoot fill store options root).2.events.reverse)
    (expanded : Expanded events file base) : store.Place file := by
  obtain ⟨depth, happened⟩ := expanded
  have called := (steps_fromRoot threads store options root).called (List.mem_reverse.mp (whole ▸ happened))
  exact called.place (Store.place_normalize present)

/-- Every file that is expanded in the first run is expanded in the second. -/
def Keeps (events events' : List Event) : Prop :=
  ∀ file base, Expanded events file base → ∃ base', Expanded events' file base'

/-- A file that both runs expand, the second one at its deepest level or with another base. -/
def Moved (limit : Nat) (events events' : List Event) (file base : Path) : Prop :=
  Expanded events file base ∧ ∃ base' depth, .processing file base' depth ∈ events' ∧
    (depth = limit ∨ ¬ base'.Same base)

theorem ledger_fromRoot {follows : Text → Directive → Prop} (threads : fill.Threads follows)
    (options : Options) {root : Path} (present : store.present root = true) :
    Ledger store (fromRoot fill store options root).2 :=
  (ledger_started store root.normalize).steps (Store.place_normalize present)
    (steps_fromRoot threads store options root)

/-- What a file that was not moved refers to is expanded, since it is met where it was. -/
theorem exists_expanded_of_moved (encoding : options'.encoding = options.encoding) {root : Path}
    (present : store.present root = true) {events events' : List Event}
    (whole : events = (fromRoot atOnce store options root).2.events.reverse)
    (whole' : events' = (fromRoot atOnce store options' root).2.events.reverse)
    (below : ∀ file base, Moved options'.maxDepth events events' file base →
      ∀ q, Onward store.source options events (file, base) q → ∃ base', Expanded events' q.1 base')
    {depth : Nat} {file base : Path} (h : .processing file base depth ∈ events) :
    ∃ base', Expanded events' file base' := by
  have start := Store.place_normalize present
  have ledger := ledger_fromRoot threads_atOnce options' present
  obtain ⟨completes, -, first⟩ := visits_fromRoot exhausts_atOnce store options' root
  have grounded {depth : Nat} {file base : Path} (h : .processing file base depth ∈ events) :
      Called store.source options (fun text d => d ∈ Inventory.references text) root.normalize
        (fromRoot atOnce store options root).2 file base depth :=
    (steps_fromRoot threads_atOnce store options root).called (List.mem_reverse.mp (whole ▸ h))
  -- The file that called for this one was expanded one level above it, and by both runs.
  induction depth generalizing file base with
  | zero =>
    obtain ⟨rfl, -⟩ := grounded h
    exact exists_expanded_of_visited ledger start (first (Nat.succ_pos _)) whole'
  | succ depth ih =>
    have place := (grounded h).place start
    obtain ⟨d, ⟨parent, from', text, member, read, stands, dirs⟩, found⟩ := grounded h
    have begun : .processing parent from' depth ∈ events := whole ▸ List.mem_reverse.mpr member
    have leads : Leads store.source options parent from' file base := ⟨text, read, d, stands, dirs, found⟩
    obtain ⟨base', depth', happened⟩ := ih begun
    by_cases moved : depth' = options'.maxDepth ∨ ¬ base'.Same from'
    · have both : Moved options'.maxDepth events events' parent from' :=
        ⟨⟨depth, begun⟩, base', depth', happened, moved⟩
      exact below parent from' both (file, base) ⟨⟨_, h⟩, leads⟩
    · obtain ⟨shallow, same⟩ := not_or.mp moved
      obtain ⟨dir', -, again⟩ := leads.of_same (Eq.symm (not_not.mp same))
      obtain ⟨text', read', d', stands', rfl, found'⟩ := again
      have followed := completes.followed parent base' depth' (List.mem_reverse.mp (whole' ▸ happened))
      rcases followed with old | followed
      · exact absurd (List.mem_singleton.mp old) nofun
      · rcases followed with deepest | each
        · exact absurd deepest shallow
        · have visited := each text' (encoding ▸ read') d' stands' file found'
          exact exists_expanded_of_visited ledger place visited whole'

/-- What a merge with a higher limit has of one with a lower limit, whatever the texts are. -/
structure Deepens (store : Store) (options options' : Options) (merged merged' : Merged)
    (events events' : List Event) : Prop where
  agrees : events.takeWhile (fun event => !event.isTooDeep) <+: events'
  same : Clear events → merged' = merged ∧ events' = events
  turned : ∀ file base, Expanded events file base → (∀ base', ¬ Expanded events' file base') →
    ∀ d dir, .resolved d dir file ∈ events' → .tooDeep file options'.maxDepth ∈ events'
  inputs : ∀ file base depth text, .processing file base depth ∈ events' → depth ≠ options'.maxDepth →
    store.content? file = some text → ∀ d ∈ Directive.ofText .inputFile text, ∀ target,
      store.source.resolve? d.name (d.searchDir base) = some target → ∃ base', Expanded events' target base'
  counted : Keeps events events' → merged.filesProcessed ≤ merged'.filesProcessed

theorem deepens_fromRoot (encoding : options'.encoding = options.encoding)
    (deeper : options.maxDepth ≤ options'.maxDepth) {root : Path} (present : store.present root = true) :
    Deepens store options options'
      ⟨(fromRoot rescan store options root).1, (fromRoot rescan store options root).2.visited.length⟩
      ⟨(fromRoot rescan store options' root).1, (fromRoot rescan store options' root).2.visited.length⟩
      (fromRoot rescan store options root).2.events.reverse
      (fromRoot rescan store options' root).2.events.reverse := by
  have agree := agree_fromRoot encoding deeper store root
  have ledger := ledger_fromRoot threads_rescan options present
  have ledger' := ledger_fromRoot threads_rescan options' present
  obtain ⟨completes, -, -⟩ := visits_fromRoot exhausts_rescan store options' root
  refine ⟨agree.takeWhile_prefix, ?_, ?_, ?_, ?_⟩
  · intro clear
    have equal := agree.eq_of_clear fun event member => clear event (List.mem_reverse.mpr member)
    rw [equal]
    exact ⟨rfl, rfl⟩
  · intro file base expanded lost d dir resolved
    have place := place_of_expanded threads_rescan present rfl expanded
    rcases completes.met d dir file (List.mem_reverse.mp resolved) with old | met
    · exact absurd (List.mem_singleton.mp old) nofun
    · rcases met with visited | deep
      · obtain ⟨base', again⟩ := exists_expanded_of_visited ledger' place visited rfl
        exact absurd again (lost base')
      · exact List.mem_reverse.mpr deep
  · intro file base depth text happened shallow content d stands target found
    rcases completes.followed file base depth (List.mem_reverse.mp happened) with old | followed
    · exact absurd (List.mem_singleton.mp old) nofun
    · rcases followed with deepest | each
      · exact absurd deepest shallow
      · have visited := each text (Store.read_eq_ok_iff.mpr content) d stands target found
        exact exists_expanded_of_visited ledger' (Store.place_of_resolve? found) visited rfl
  · intro keeps
    have inside : (fromRoot rescan store options root).2.visited ⊆
        (fromRoot rescan store options' root).2.visited := by
      intro file member
      have visited : (fromRoot rescan store options root).2.HasVisited (store.source.settle file) :=
        ⟨file, member, by rw [(ledger.places file member).settle]; rfl⟩
      obtain ⟨base, expanded⟩ := exists_expanded_of_visited ledger (ledger.places file member) visited rfl
      obtain ⟨base', again⟩ := keeps file base expanded
      exact visited_of_expanded ledger' rfl again
    exact (ledger.distinct.subperm inside).length_le

/-- A merge with a higher limit does the same as one with a lower limit up to where this one turns
back first, and all of it if it never does. A file that is lost was turned back from wherever it was
met. If no pass makes or breaks a directive, as in a tidy project, nothing is lost exactly when nothing
is lost directly below the files that are moved down to the deepest level or to another base. -/
theorem merge_deeper (options : Options) {limit limit' : Nat} (deeper : limit ≤ limit') {store : Store}
    {root : Path} (present : store.present root = true) :
    let lower : Options := { options with maxDepth := limit }
    let higher : Options := { options with maxDepth := limit' }
    ∃ merged merged' events events', merge store.source lower root = (.ok merged, events) ∧
      merge store.source higher root = (.ok merged', events') ∧
      Deepens store lower higher merged merged' events events' ∧
      (TidyProject store root ∨
        (merge store.source lower root = expansion store.source lower root ∧
          merge store.source higher root = expansion store.source higher root) →
        (Keeps events events' ↔ ∀ file base, Moved limit' events events' file base →
          ∀ q, Onward store.source options events (file, base) q → ∃ base', Expanded events' q.1 base')) := by
  intro lower higher
  have whole (options : Options) := merge_of_present options present
  have encoding : higher.encoding = lower.encoding := rfl
  refine ⟨_, _, _, _, whole lower, whole higher, deepens_fromRoot encoding deeper present, fun clean => ?_⟩
  have once : (fromRoot rescan store lower root).2.events = (fromRoot atOnce store lower root).2.events ∧
      (fromRoot rescan store higher root).2.events = (fromRoot atOnce store higher root).2.events := by
    rcases clean with tidy | ⟨same, same'⟩
    · rw [(fromRoot_rescan_eq lower tidy).1, (fromRoot_rescan_eq higher tidy).1]
      exact ⟨rfl, rfl⟩
    · rw [whole, expansion, mergeBy_of_present atOnce _ present] at same same'
      exact ⟨List.reverse_inj.mp (Prod.mk.inj same).2, List.reverse_inj.mp (Prod.mk.inj same').2⟩
  constructor
  · intro keeps file base _ q onward
    exact keeps q.1 q.2 onward.1
  · rintro below file base ⟨depth, happened⟩
    rw [once.1] at below happened
    rw [once.2] at below ⊢
    exact exists_expanded_of_moved encoding present rfl rfl below happened

/-- The file `x` is met first behind `a` and `b`, and then at once. -/
def roundabout : Store where
  files := [
    (.ofString "/m.tex", "\\input\x7ba\x7d\\input\x7bx\x7d".toList),
    (.ofString "/a.tex", "\\input\x7bb\x7d".toList),
    (.ofString "/b.tex", "\\input\x7bx\x7d".toList),
    (.ofString "/x.tex", "\\input\x7by\x7d".toList),
    (.ofString "/y.tex", "Y".toList)]

theorem tidy_roundabout : TidyProject roundabout (.ofString "/m.tex") := by
  have empty : Directive.Complete [] := Directive.commands_of_not_mem List.not_mem_nil
  have single (name : Char) (plain : Directive.Plain [name]) := empty.input plain
  refine ⟨fun path text found => Directive.Complete.tidy ?_, by decide +kernel⟩
  obtain ⟨file, member, rfl⟩ := Store.exists_of_content? found
  simp only [roundabout, List.mem_cons, List.not_mem_nil, or_false] at member
  rcases member with rfl | rfl | rfl | rfl | rfl
  · exact (single 'x' (by decide)).input (show Directive.Plain "a".toList by decide)
  · exact single 'b' (by decide)
  · exact single 'x' (by decide)
  · exact single 'y' (by decide)
  · exact Directive.commands_of_not_mem (by decide)

theorem present_roundabout : roundabout.present (.ofString "/m.tex") = true := by decide +kernel

theorem merge_deeper_roundabout :
    2 ≤ 3 ∧ roundabout.present (.ofString "/m.tex") = true ∧ TidyProject roundabout (.ofString "/m.tex") ∧
      ∃ merged merged' events events',
        merge roundabout.source { maxDepth := 2 } (.ofString "/m.tex") = (.ok merged, events) ∧
        merge roundabout.source { maxDepth := 3 } (.ofString "/m.tex") = (.ok merged', events') ∧
        Deepens roundabout { maxDepth := 2 } { maxDepth := 3 } merged merged' events events' ∧
        (Keeps events events' ↔ ∀ file base, Moved 3 events events' file base →
          ∀ q, Onward roundabout.source {} events (file, base) q → ∃ base', Expanded events' q.1 base') := by
  have deeper : 2 ≤ 3 := by decide
  obtain ⟨merged, merged', events, events', lower, higher, deepens, kept⟩ :=
    merge_deeper {} deeper present_roundabout
  exact ⟨deeper, present_roundabout, tidy_roundabout, merged, merged', events, events', lower, higher,
    deepens, kept (.inl tidy_roundabout)⟩

/-- A file that is expanded with a limit is not expanded with a higher one. -/
theorem merge_deeper_loses :
    ¬ ∀ (store : Store) (options : Options) (limit limit' : Nat) (root : Path), limit ≤ limit' →
      store.present root = true → ∀ merged merged' events events',
        merge store.source { options with maxDepth := limit } root = (.ok merged, events) →
        merge store.source { options with maxDepth := limit' } root = (.ok merged', events') →
          Keeps events events' := by
  intro claim
  have ends (options : Options) : ∃ merged events,
      merge roundabout.source options (.ofString "/m.tex") = (.ok merged, events) :=
    ⟨_, _, merge_of_present options present_roundabout⟩
  have expanded : .processing (.ofString "/y.tex") (.ofString "/") 2 ∈
      (merge roundabout.source { maxDepth := 2 } (.ofString "/m.tex")).2 := by decide +kernel
  have lost : Path.ofString "/y.tex" ∉
      (reads (merge roundabout.source { maxDepth := 3 } (.ofString "/m.tex")).2).map (·.1) := by decide +kernel
  obtain ⟨merged, events, lower⟩ := ends { maxDepth := 2 }
  obtain ⟨merged', events', higher⟩ := ends { maxDepth := 3 }
  rw [lower] at expanded
  rw [higher] at lost
  have keeps := claim roundabout {} 2 3 _ (by decide) present_roundabout _ _ _ _ lower higher
  obtain ⟨base, depth, happened⟩ := keeps _ _ ⟨2, expanded⟩
  exact lost (mem_reads_of_mem happened)

end TexFlat.Merge
