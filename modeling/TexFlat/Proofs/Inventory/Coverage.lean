import TexFlat.Proofs.Inventory.Listing
import TexFlat.Proofs.Merge.Project
import TexFlat.Proofs.Store.Resolution

/-!
# What an inventory has of a merge

A merge tells files apart by their paths, an inventory by their paths and bases. So the inventory may
meet a file with a base on a longer way than the merge took to it, and turn back where the merge went
on. `discover_covers_iff` says that nothing else is lost.
-/

namespace TexFlat

namespace Inventory

variable {store : Store} {source : Source} {options : Options} {survey survey' survey'' : Survey}

theorem Leads.of_same {file base base' target dir : Path}
    (leads : Leads store.source options file base target dir) (same : base.Same base') :
    ∃ dir', dir.Same dir' ∧ Leads store.source options file base' target dir' := by
  obtain ⟨text, read, d, member, rfl, found⟩ := leads
  have dirs : (d.searchDir base).Same (d.searchDir base') := by
    unfold Directive.searchDir
    split
    · exact same.join _
    · exact same
  exact ⟨d.searchDir base', dirs, text, read, d, member, rfl,
    (Store.resolve?_eq_of_normalize_eq d.name (Path.normalize_eq_of_same dirs)).symm.trans found⟩

/-! ### Every entry is followed up -/

/-- A file was listed with a base, or was turned back from because it was too deep. -/
def Met (source : Source) (options : Options) (survey : Survey) (file base : Path) : Prop :=
  survey.Lists (source.settle file) base ∨
    .tooDeep (source.settle file) options.maxDepth ∈ survey.events

def Done (source : Source) (options : Options) (survey : Survey) (entry : Entry) : Prop :=
  ∀ target dir, Leads source options entry.path entry.base target dir → Met source options survey target dir

/-- A later survey, in which what is new is done. -/
structure Completes (source : Source) (options : Options) (survey survey' : Survey) : Prop where
  entries : survey.entries <+: survey'.entries
  events : survey.events <:+ survey'.events
  done : ∀ entry ∈ survey'.entries, entry ∈ survey.entries ∨ Done source options survey' entry

theorem Met.later {file base : Path} (met : Met source options survey file base)
    (completes : Completes source options survey survey') : Met source options survey' file base := by
  rcases met with ⟨entry, member, same⟩ | deep
  · exact .inl ⟨entry, completes.entries.subset member, same⟩
  · exact .inr (completes.events.subset deep)

theorem completes_refl (survey : Survey) : Completes source options survey survey :=
  ⟨List.prefix_refl _, List.suffix_refl _, fun _ member => .inl member⟩

theorem completes_note (survey : Survey) (event : Event) :
    Completes source options survey (survey.note event) :=
  ⟨List.prefix_refl _, List.suffix_cons _ _, fun _ member => .inl member⟩

theorem Completes.trans (first : Completes source options survey survey')
    (second : Completes source options survey' survey'') : Completes source options survey survey'' := by
  refine ⟨first.entries.trans second.entries, first.events.trans second.events, fun entry member => ?_⟩
  rcases second.done entry member with old | done
  · rcases first.done entry old with old | done
    · exact .inl old
    · exact .inr fun target dir leads => (done target dir leads).later second
  · exact .inr done

theorem completes_foldl {call : Survey → (file base : Path) → Origin → Survey} {base : Path}
    (calls : ∀ survey file base origin, Completes source options survey (call survey file base origin) ∧
      Met source options (call survey file base origin) file base) (ds : List Directive) (survey : Survey) :
    Completes source options survey (ds.foldl (follow source call base) survey) ∧
      ∀ d ∈ ds, ∀ target, source.resolve? d.name (d.searchDir base) = some target →
        Met source options (ds.foldl (follow source call base) survey) target (d.searchDir base) := by
  induction ds generalizing survey with
  | nil => exact ⟨completes_refl survey, List.forall_mem_nil _⟩
  | cons d ds ih =>
    obtain ⟨rest, met⟩ := ih (follow source call base survey d)
    cases found : source.resolve? d.name (d.searchDir base) with
    | none =>
      rw [follow_of_none found] at rest met
      rw [List.foldl_cons, follow_of_none found]
      refine ⟨(completes_note _ _).trans rest, fun other member target resolved => ?_⟩
      rcases List.mem_cons.mp member with rfl | member
      · exact absurd (found.symm.trans resolved) nofun
      · exact met other member target resolved
    | some target =>
      obtain ⟨inner, here⟩ := calls (survey.note (.resolved d (d.searchDir base) target)) target
        (d.searchDir base) (.reference d.kind)
      rw [follow_of_some found] at rest met
      rw [List.foldl_cons, follow_of_some found]
      refine ⟨(completes_note _ _).trans (inner.trans rest), fun other member target' resolved => ?_⟩
      rcases List.mem_cons.mp member with rfl | member
      · obtain rfl := Option.some.inj (found.symm.trans resolved)
        exact here.later rest
      · exact met other member target' resolved

theorem Completes.of_add {entry : Entry} (rest : Completes source options (survey.add entry) survey')
    (done : Done source options survey' entry) : Completes source options survey survey' := by
  refine ⟨(List.prefix_append _ _).trans rest.entries, rest.events, fun other member => ?_⟩
  rcases rest.done other member with old | finished
  · rcases List.mem_append.mp old with old | here
    · exact .inl old
    · exact .inr (List.mem_singleton.mp here ▸ done)
  · exact .inr finished

theorem Completes.lists_of_add {file base : Path} {origin : Origin}
    (rest : Completes source options (survey.add ⟨source.settle file, base, origin⟩) survey') :
    survey'.Lists (source.settle file) base :=
  ⟨_, rest.entries.subset (List.mem_append_right _ List.mem_cons_self), rfl, rfl⟩

/-- A call with levels left lists its file, and any call does what it lists to the end. -/
theorem completes_visit {levels : Nat} (survey : Survey) (file base : Path) (origin : Origin) :
    Completes source options survey (visit source options levels survey file base origin) ∧
      ((visit source options levels survey file base origin).Lists (source.settle file) base ∨
        levels = 0 ∧ .tooDeep (source.settle file) options.maxDepth ∈
          (visit source options levels survey file base origin).events) := by
  induction levels generalizing survey file base origin with
  | zero =>
    by_cases listed : survey.Lists (source.settle file) base
    · rw [visit_of_listed listed]
      exact ⟨completes_refl survey, .inl listed⟩
    · rw [visit_zero listed]
      exact ⟨completes_note _ _, .inr ⟨rfl, List.mem_cons_self⟩⟩
  | succ levels ih =>
    by_cases listed : survey.Lists (source.settle file) base
    · rw [visit_of_listed listed]
      exact ⟨completes_refl survey, .inl listed⟩
    · cases read : source.read options.encoding (source.settle file) with
      | error cause =>
        have rest : Completes source options (survey.add ⟨source.settle file, base, origin⟩) _ :=
          completes_note _ (.unreadable (source.settle file) cause)
        rw [visit_of_error listed read]
        refine ⟨rest.of_add fun target dir leads => ?_, .inl rest.lists_of_add⟩
        obtain ⟨text, readable, -⟩ := leads
        exact absurd (read.symm.trans readable) nofun
      | ok text =>
        have calls (survey : Survey) (file base : Path) (origin : Origin) :
            Completes source options survey (visit source options levels survey file base origin) ∧
              Met source options (visit source options levels survey file base origin) file base :=
          ⟨(ih survey file base origin).1, (ih survey file base origin).2.imp_right And.right⟩
        obtain ⟨rest, met⟩ := completes_foldl calls (references text)
          (survey.add ⟨source.settle file, base, origin⟩)
        rw [visit_of_ok listed read]
        refine ⟨rest.of_add fun target dir leads => ?_, .inl rest.lists_of_add⟩
        obtain ⟨text', readable, d, member, rfl, found⟩ := leads
        obtain rfl := Except.ok.inj (read.symm.trans readable)
        exact met d member target found

theorem lists_fromRoot (options : Options) {root : Path} (place : store.Place root.normalize) :
    (fromRoot store options root).Lists root.normalize root.normalize.directory := by
  have listed : (fromRoot store options root).Lists (store.source.settle root.normalize) _ :=
    (completes_visit {} root.normalize root.normalize.directory .root).2.resolve_right
      fun deep => absurd deep.1 (Nat.succ_ne_zero _)
  rwa [place.settle] at listed

theorem done_fromRoot (store : Store) (options : Options) (root : Path) :
    ∀ entry ∈ (fromRoot store options root).entries,
      Done store.source options (fromRoot store options root) entry := by
  intro entry member
  obtain ⟨completes, -⟩ : Completes store.source options {} (fromRoot store options root) ∧ _ :=
    completes_visit {} root.normalize root.normalize.directory .root
  rcases completes.done entry member with old | done
  · exact absurd old List.not_mem_nil
  · exact done

theorem exists_entry_of_lists (options : Options) {root : Path} (present : store.present root = true)
    {file base : Path} (place : store.Place file) (lists : (fromRoot store options root).Lists file base) :
    ∃ entry ∈ (fromRoot store options root).entries, entry.path = file ∧ entry.base.Same base := by
  obtain ⟨entry, member, path, base⟩ := lists
  have normal := ((distinct_fromRoot options present).places entry member).2
  exact ⟨entry, member, Path.eq_of_same_of_normal path normal place.2, base⟩

/-! ### What a merge expands -/

def Expanded (events : List Merge.Event) (file base : Path) : Prop :=
  ∃ depth, .processing file base depth ∈ events

def Onward (source : Source) (options : Options) (events : List Merge.Event) (p q : Path × Path) : Prop :=
  Expanded events q.1 q.2 ∧ Leads source options p.1 p.2 q.1 q.2

def Covered (entries : List Entry) (file : Path) : Prop := ∃ entry ∈ entries, entry.path = file

/-- An expanded file that an inventory turned back from, and that it does not list with its base. -/
def Cut (options : Options) (entries : List Entry) (notes : List Event) (events : List Merge.Event)
    (file base : Path) : Prop :=
  Expanded events file base ∧ .tooDeep file options.maxDepth ∈ notes ∧
    ∀ entry ∈ entries, ¬ (entry.path = file ∧ entry.base.Same base)

theorem listed_or_cut (options : Options) {root : Path} (present : store.present root = true)
    {events : List Merge.Event}
    (whole : events = (Merge.fromRoot Merge.atOnce store options root).2.events.reverse)
    {depth : Nat} {file base : Path} (h : .processing file base depth ∈ events) :
    (∃ entry ∈ (fromRoot store options root).entries, entry.path = file ∧ entry.base.Same base) ∨
      ∃ p : Path × Path, Cut options (fromRoot store options root).entries
          (fromRoot store options root).events events p.1 p.2 ∧
        Relation.ReflTransGen (Onward store.source options events) p (file, base) := by
  have start := Store.place_normalize present
  have steps := Merge.steps_fromRoot Merge.threads_atOnce store options root
  have called {depth : Nat} {file base : Path} (h : .processing file base depth ∈ events) :
      Merge.Called store.source options (fun text d => d ∈ references text) root.normalize
        (Merge.fromRoot Merge.atOnce store options root).2 file base depth := by
    have grounded : Merge.Grounded _ _ _ _ _ (.processing file base depth) :=
      steps.grounded (List.mem_reverse.mp (whole ▸ h))
    exact grounded.2
  have listed {file base : Path} (place : store.Place file) :=
    @exists_entry_of_lists store options root present file base place
  -- The file that called for this one was expanded one level above it.
  induction depth generalizing file base with
  | zero =>
    obtain ⟨rfl, rfl⟩ := called h
    exact .inl (listed start (lists_fromRoot options start))
  | succ depth ih =>
    have place := (called h).place start
    obtain ⟨d, ⟨parent, from', text, member, read, stands, dirs⟩, found⟩ := called h
    have leads : Leads store.source options parent from' file base := ⟨text, read, d, stands, dirs, found⟩
    rcases ih (whole ▸ List.mem_reverse.mpr member) with ⟨entry, inside, rfl, same⟩ | ⟨p, cut, chain⟩
    · -- The inventory may spell the parent's base in another way, and then this one too.
      obtain ⟨dir, alike, leads'⟩ := leads.of_same (Eq.symm same)
      have met := done_fromRoot store options root entry inside file dir leads'
      rw [Met, place.settle] at met
      by_cases lists : (fromRoot store options root).Lists file base
      · exact .inl (listed place lists)
      · rcases met with ⟨other, member', path, base'⟩ | deep
        · exact absurd ⟨other, member', path, Eq.trans base' (Eq.symm alike)⟩ lists
        · refine .inr ⟨(file, base), ⟨⟨_, h⟩, deep, ?_⟩, .refl⟩
          rintro other member' ⟨path, base'⟩
          exact lists ⟨other, member', congrArg Path.components path, base'⟩
    · exact .inr ⟨p, cut, chain.tail ⟨⟨_, h⟩, leads⟩⟩

/-! ### Projects whose directives are all written in full -/

structure CompleteProject (store : Store) (root : Path) : Prop where
  texts : ∀ path text, store.content? path = some text → Directive.Complete text
  root : Directive.Mute root.text

/-- Every file that a merge expands is in the inventory exactly when this holds of the files that a
merge comes to from those that the inventory turned back from, at the deepest level, and does not
list with the base that the merge has them with. -/
theorem discover_covers_iff (options : Options) {store : Store} {root : Path}
    (complete : CompleteProject store root) (present : store.present root = true) :
    ∃ merged events entries notes, Merge.merge store.source options root = (.ok merged, events) ∧
      discover store.source options root = (.ok entries, notes) ∧
      ((∀ file base, Expanded events file base → Covered entries file) ↔
        ∀ file base, Cut options entries notes events file base → ∀ later,
          Relation.ReflTransGen (Onward store.source options events) (file, base) later →
            Covered entries later.1) := by
  have tidy : Merge.TidyTexts store := fun path text found => (complete.texts path text found).tidy
  have merges := (Merge.merge_eq_mergeBy store.source options root).trans
    ((Merge.mergeBy_rescan_eq tidy complete.root present).trans
      (Merge.mergeBy_of_present Merge.atOnce options present))
  refine ⟨_, _, _, _, merges, discover_of_present options present, fun covers file base cut later chain => ?_,
    fun below file base expanded => ?_⟩
  · cases chain with
    | refl => exact covers file base cut.1
    | tail _ onward => exact covers _ _ onward.1
  · obtain ⟨depth, happened⟩ := expanded
    rcases listed_or_cut options present rfl happened with ⟨entry, member, path, -⟩ | ⟨p, cut, chain⟩
    · exact ⟨entry, member, path⟩
    · obtain ⟨expanded, deep, unlisted⟩ := cut
      have noted := List.mem_reverse.mpr (List.mem_cons_of_mem
        (.completed root.normalize (fromRoot store options root).entries.length) deep)
      exact below p.1 p.2 ⟨expanded, noted, unlisted⟩ _ chain

/-- The file `a` has nothing to input from where it stands, and `s/g` from where it is imported to. So
an inventory comes to `s/g` one level deeper than a merge does. -/
def detour : Store where
  files := [
    (.ofString "/doc/main.tex", "\\input\x7ba\x7d\\import\x7bs\x7d\x7b../a\x7d\\import\x7bs\x7d\x7bg\x7d".toList),
    (.ofString "/doc/a.tex", "\\input\x7bg\x7d".toList),
    (.ofString "/doc/s/g.tex", "\\input\x7bh\x7d".toList),
    (.ofString "/doc/s/h.tex", "H".toList)]

theorem complete_detour : CompleteProject detour (.ofString "/doc/main.tex") := by
  have empty : Directive.Complete [] := Directive.commands_of_not_mem List.not_mem_nil
  have last := empty.imported (show Directive.Plain "s".toList by decide) (show Directive.Plain "g".toList by decide)
  have before := last.imported (show Directive.Plain "s".toList by decide)
    (show Directive.Plain "../a".toList by decide)
  refine ⟨fun path text found => ?_, Directive.mute_of_not_mem (by decide +kernel)⟩
  obtain ⟨file, member, rfl⟩ := Store.exists_of_content? found
  simp only [detour, List.mem_cons, List.not_mem_nil, or_false] at member
  rcases member with rfl | rfl | rfl | rfl
  · exact before.input (show Directive.Plain "a".toList by decide)
  · exact empty.input (show Directive.Plain "g".toList by decide)
  · exact empty.input (show Directive.Plain "h".toList by decide)
  · exact Directive.commands_of_not_mem (by decide)

theorem present_detour : detour.present (.ofString "/doc/main.tex") = true := by decide +kernel

theorem discover_covers_iff_detour :
    CompleteProject detour (.ofString "/doc/main.tex") ∧ detour.present (.ofString "/doc/main.tex") = true ∧
      ∃ merged events entries notes,
        Merge.merge detour.source { maxDepth := 2 } (.ofString "/doc/main.tex") = (.ok merged, events) ∧
        discover detour.source { maxDepth := 2 } (.ofString "/doc/main.tex") = (.ok entries, notes) ∧
        ((∀ file base, Expanded events file base → Covered entries file) ↔
          ∀ file base, Cut { maxDepth := 2 } entries notes events file base → ∀ later,
            Relation.ReflTransGen (Onward detour.source { maxDepth := 2 } events) (file, base) later →
              Covered entries later.1) :=
  ⟨complete_detour, present_detour, discover_covers_iff { maxDepth := 2 } complete_detour present_detour⟩

/-- A merge expands a file that the inventory with the same options does not have. -/
theorem discover_misses :
    ¬ ∀ (store : Store) (options : Options) (root : Path), CompleteProject store root →
      store.present root = true → ∀ merged events entries notes,
        Merge.merge store.source options root = (.ok merged, events) →
        discover store.source options root = (.ok entries, notes) →
        ∀ file base, Expanded events file base → Covered entries file := by
  intro claim
  have entries : (discover detour.source { maxDepth := 2 } (.ofString "/doc/main.tex")).1 =
      .ok [⟨.ofString "/doc/main.tex", .ofString "/doc", .root⟩,
        ⟨.ofString "/doc/a.tex", .ofString "/doc", .reference .inputFile⟩,
        ⟨.ofString "/doc/a.tex", .ofString "/doc/s", .reference .importFile⟩,
        ⟨.ofString "/doc/s/g.tex", .ofString "/doc/s", .reference .inputFile⟩] := by
    decide +kernel
  have expands : .processing (.ofString "/doc/s/h.tex") (.ofString "/doc/s") 2 ∈
      (Merge.merge detour.source { maxDepth := 2 } (.ofString "/doc/main.tex")).2 := by
    decide +kernel
  obtain ⟨merged, events, merges⟩ : ∃ merged events, Merge.merge detour.source { maxDepth := 2 }
      (.ofString "/doc/main.tex") = (.ok merged, events) :=
    ⟨_, _, (Merge.merge_eq_mergeBy _ _ _).trans (Merge.mergeBy_of_present _ _ present_detour)⟩
  rw [merges] at expands
  have covers := claim detour { maxDepth := 2 } _ complete_detour present_detour merged events _ _ merges
    (Prod.ext entries rfl)
  exact absurd (covers _ _ ⟨2, expands⟩) (by unfold Covered; decide +kernel)

end Inventory
end TexFlat
