import TexFlat.Proofs.Directive.Finding
import TexFlat.Proofs.Inventory.Coverage
import TexFlat.Proofs.Merge.Reads

/-!
# A merge and an inventory in step

Without imports every file is reached with one base, and then a merge and an inventory tell files apart
in the same way. Each call of the one does what the matching call of the other does: `inStep_visit`. So
a merge expands the files that the inventory lists, in the order of the list.
-/

namespace TexFlat

namespace Inventory

variable {store : Store} {options : Options} {base : Path} {run : Merge.Run} {survey : Survey}

/-- The files that are expanded so far are those listed so far, and all of them have one base. -/
structure InStep (base : Path) (run : Merge.Run) (survey : Survey) : Prop where
  files : run.visited.reverse = survey.entries.map (·.path)
  bases : ∀ entry ∈ survey.entries, entry.base = base

theorem InStep.hasVisited_iff (inStep : InStep base run survey) (path : Path) :
    run.HasVisited path ↔ survey.Lists path base := by
  constructor
  · rintro ⟨key, member, same⟩
    rw [← List.mem_reverse, inStep.files] at member
    obtain ⟨entry, listed, rfl⟩ := List.mem_map.mp member
    exact ⟨entry, listed, same, by rw [inStep.bases entry listed]; rfl⟩
  · rintro ⟨entry, listed, same, -⟩
    refine ⟨entry.path, ?_, same⟩
    rw [← List.mem_reverse, inStep.files]
    exact List.mem_map_of_mem listed

theorem InStep.note (inStep : InStep base run survey) (event : Merge.Event) (event' : Event) :
    InStep base (run.note event) (survey.note event') :=
  ⟨inStep.files, inStep.bases⟩

theorem InStep.begin {source : Source} (inStep : InStep base run survey) (file : Path) (depth : Nat)
    (origin : Origin) : InStep base (run.begin source file base depth)
      (survey.add ⟨source.settle file, base, origin⟩) := by
  constructor
  · show (source.settle file :: run.visited).reverse = _
    rw [List.reverse_cons, inStep.files, Survey.add, List.map_append]
    rfl
  · intro entry member
    rcases List.mem_append.mp member with member | member
    · exact inStep.bases entry member
    · rw [List.mem_singleton.mp member]

/-! ### Texts without imports -/

theorem directory_eq_none {text : Text} {d : Directive}
    (importless : ¬ Directive.command .importFile <:+: text) (h : d ∈ references text) :
    d.directory = none := by
  obtain ⟨kind, -, found⟩ := List.mem_flatMap.mp h
  obtain ⟨rest, behind, read⟩ := Directive.exists_at?_of_mem_ofText found
  obtain ⟨same, imports⟩ := Directive.kind_of_at? read
  rw [← Option.not_isSome_iff_eq_none, imports, same]
  rintro rfl
  have begins : Directive.command .importFile <+: rest := by
    by_contra other
    rw [Directive.at?_eq_none_of_not_prefix other] at read
    exact absurd read nofun
  exact importless (begins.isInfix.trans behind.isInfix)

/-- No text of the store has the command of an import in it. -/
def Importless (store : Store) : Prop :=
  ∀ path text, store.content? path = some text → ¬ Directive.command .importFile <:+: text

/-! ### Calls in step -/

section Calls

variable {visit : Merge.Run → (file base : Path) → Text × Merge.Run}
  {visit' : Survey → (file base : Path) → Origin → Survey}
  (calls : ∀ run survey file origin, store.Place file → InStep base run survey →
    InStep base (visit run file base).2 (visit' survey file base origin))

include calls

theorem inStep_foldl (ds : List Directive) (flat : ∀ d ∈ ds, d.directory = none)
    (inStep : InStep base run survey) :
    InStep base (ds.foldl (fun run d => (Merge.replacement store.source visit base run d).2) run)
      (ds.foldl (follow store.source visit' base) survey) := by
  induction ds generalizing run survey with
  | nil => exact inStep
  | cons d ds ih =>
    rw [List.foldl_cons, List.foldl_cons]
    refine ih (fun d member => flat d (List.mem_cons_of_mem _ member)) ?_
    have dir : d.searchDir base = base := by
      rw [Directive.searchDir, flat d List.mem_cons_self]
    cases found : store.source.resolve? d.name (d.searchDir base) with
    | none =>
      rw [Merge.replacement_of_none found, follow_of_none found]
      exact inStep.note _ _
    | some target =>
      have place := Store.place_of_resolve? found
      rw [Merge.replacement_of_some found, follow_of_some found, dir]
      exact calls _ _ target (.reference d.kind) place (inStep.note _ _)

end Calls

/-- A call of the merge and one of the inventory for the same file leave the two in step: the base is
the same, so both have met the file before or neither has. -/
theorem inStep_visit (importless : Importless store) (levels : Nat) (run : Merge.Run) (survey : Survey)
    (file : Path) (origin : Origin) (place : store.Place file) (inStep : InStep base run survey) :
    InStep base (Merge.visitBy Merge.atOnce store.source options levels run file base).2
      (visit store.source options levels survey file base origin) := by
  induction levels generalizing run survey file origin with
  | zero =>
    by_cases visited : run.HasVisited (store.source.settle file)
    · rw [Merge.visitBy_of_visited visited, visit_of_listed ((inStep.hasVisited_iff _).mp visited)]
      exact ⟨inStep.files, inStep.bases⟩
    · rw [Merge.visitBy_zero visited, visit_zero (mt (inStep.hasVisited_iff _).mpr visited)]
      exact inStep.note _ _
  | succ levels ih =>
    by_cases visited : run.HasVisited (store.source.settle file)
    · rw [Merge.visitBy_of_visited visited, visit_of_listed ((inStep.hasVisited_iff _).mp visited)]
      exact ⟨inStep.files, inStep.bases⟩
    · have new : ¬ survey.Lists (store.source.settle file) base := mt (inStep.hasVisited_iff _).mpr visited
      have begun : InStep base (run.begin store.source file base (options.maxDepth - levels))
          (survey.add ⟨store.source.settle file, base, origin⟩) := inStep.begin file _ origin
      cases read : store.source.read options.encoding file with
      | error cause =>
        rw [Merge.visitBy_of_error visited read, visit_of_error new (by rwa [place.settle])]
        exact begun.note _ _
      | ok text =>
        -- Both follow the references of the text as it was read, one after the other.
        have flat := importless file text (Store.read_eq_ok_iff.mp read)
        rw [Merge.visitBy_of_ok visited read, visit_of_ok new (by rwa [place.settle]), Merge.atOnce_run]
        exact inStep_foldl (fun run survey file origin => ih run survey file origin) (references text)
          (fun d member => directory_eq_none flat member) begun

/-- A merge of a project whose directives are all written in full and that has no imports expands the
files that the inventory lists, one after the other. -/
theorem merge_expands_inventory (options : Options) {store : Store} {root : Path}
    (complete : CompleteProject store root) (importless : Importless store)
    (present : store.present root = true) :
    ∃ merged events entries notes, Merge.merge store.source options root = (.ok merged, events) ∧
      discover store.source options root = (.ok entries, notes) ∧
      (Merge.reads events).map (·.1) = entries.map (·.path) ∧
      merged.filesProcessed = entries.length := by
  have tidy : Merge.TidyTexts store := fun path text found => (complete.texts path text found).tidy
  have once : Merge.fromRoot Merge.rescan store options root =
      Merge.fromRoot Merge.atOnce store options root :=
    (Merge.visitBy_rescan_eq tidy { events := [.started root.normalize] } _ _
      complete.root.normalize complete.root.normalize.directory).1
  have inStep : InStep root.normalize.directory (Merge.fromRoot Merge.rescan store options root).2
      (fromRoot store options root) := by
    rw [once]
    exact inStep_visit importless (options.maxDepth + 1) _ {} root.normalize .root
      (Store.place_normalize present) ⟨rfl, List.forall_mem_nil _⟩
  refine ⟨_, _, _, _, Merge.merge_of_present options present, discover_of_present options present,
    (Merge.readsOnce_fromRoot store options present).visited.trans inStep.files, ?_⟩
  calc (Merge.fromRoot Merge.rescan store options root).2.visited.length
      = (Merge.fromRoot Merge.rescan store options root).2.visited.reverse.length := List.length_reverse.symm
    _ = ((fromRoot store options root).entries.map (·.path)).length := by rw [inStep.files]
    _ = (fromRoot store options root).entries.length := List.length_map _

/-- A cycle, a directory in the place of a file, and a file too deep for a limit of one. -/
def crossing : Store where
  files := [
    (.ofString "/doc/main.tex", "\\input\x7ba\x7d\\include\x7bb\x7d\\input\x7bparts\x7d".toList),
    (.ofString "/doc/a.tex", "\\input\x7bmain\x7d".toList),
    (.ofString "/doc/b.tex", "\\include\x7bparts/c\x7d".toList),
    (.ofString "/doc/parts/c.tex", "C".toList)]

theorem complete_crossing : CompleteProject crossing (.ofString "/doc/main.tex") := by
  have empty : Directive.Complete [] := Directive.commands_of_not_mem List.not_mem_nil
  have last := empty.input (show Directive.Plain "parts".toList by decide)
  have before := last.included (show Directive.Plain "b".toList by decide)
  refine ⟨fun path text found => ?_, Directive.mute_of_not_mem (by decide +kernel)⟩
  obtain ⟨file, member, rfl⟩ := Store.exists_of_content? found
  simp only [crossing, List.mem_cons, List.not_mem_nil, or_false] at member
  rcases member with rfl | rfl | rfl | rfl
  · exact before.input (show Directive.Plain "a".toList by decide)
  · exact empty.input (show Directive.Plain "main".toList by decide)
  · exact empty.included (show Directive.Plain "parts/c".toList by decide)
  · exact Directive.commands_of_not_mem (by decide)

theorem importless_crossing : Importless crossing := by
  intro path text found
  obtain ⟨file, member, rfl⟩ := Store.exists_of_content? found
  simp only [crossing, List.mem_cons, List.not_mem_nil, or_false] at member
  rcases member with rfl | rfl | rfl | rfl <;> decide +kernel

theorem merge_expands_inventory_crossing :
    CompleteProject crossing (.ofString "/doc/main.tex") ∧ Importless crossing ∧
      crossing.present (.ofString "/doc/main.tex") = true ∧
      ∃ merged events entries notes,
        Merge.merge crossing.source { maxDepth := 1 } (.ofString "/doc/main.tex") = (.ok merged, events) ∧
        discover crossing.source { maxDepth := 1 } (.ofString "/doc/main.tex") = (.ok entries, notes) ∧
        (Merge.reads events).map (·.1) = entries.map (·.path) ∧
        merged.filesProcessed = entries.length :=
  have present : crossing.present (.ofString "/doc/main.tex") = true := by decide +kernel
  ⟨complete_crossing, importless_crossing, present,
    merge_expands_inventory { maxDepth := 1 } complete_crossing importless_crossing present⟩

end Inventory
end TexFlat
