import TexFlat.Proofs.Merge.Rescan
import TexFlat.Proofs.Merge.Walk
import TexFlat.Proofs.Path.Mute
import TexFlat.Proofs.Store

/-!
# Merging a tidy project

The merge of a tidy project is its expansion: no marker and no merged text that a pass puts in has
anything in it for the passes behind it. The induction is on the levels that are left, and carries
that the merged text of a file is quiet.
-/

namespace TexFlat.Merge

open Directive (Mute Quiet Inert Spelled Tidy Plain Occurrence Kind)

variable {store : Store} {options : Options}

def TidyTexts (store : Store) : Prop := ∀ path text, store.content? path = some text → Tidy text

theorem atOnce_congr {replace replace' : Run → Directive → Text × Run} {text : Text}
    (alike : ∀ run, ∀ d ∈ Inventory.references text, replace run d = replace' run d) (run : Run) :
    atOnce replace run text = atOnce replace' run text := by
  have made (run : Run) (found : List Occurrence)
      (alike : ∀ run, ∀ d ∈ found.map (·.directive), replace run d = replace' run d) :
      substitutions replace run found = substitutions replace' run found := by
    induction found generalizing run with
    | nil => rfl
    | cons o found ih =>
      have rest := fun run => ih run fun run d member => alike run d (List.mem_cons_of_mem _ member)
      simp only [substitutions, alike run o.directive List.mem_cons_self, rest]
  rw [atOnce, atOnce, made run _ (by rwa [map_directive_scan])]

theorem spelled_of_mem_references {text : Text} {d : Directive} (tidy : Tidy text)
    (h : d ∈ Inventory.references text) : Spelled d := by
  obtain ⟨segments, settled, rfl⟩ := tidy.exists_settled
  rw [← map_directive_scan] at h
  obtain ⟨o, member, rfl⟩ := List.mem_map.mp h
  exact spelled_of_mem_occurrencesFrom settled ((mem_flatMap_scan settled).mp member)

/-! ### Paths that a run meets -/

section Paths

variable {P : Text → Prop} (hereditary : Path.Hereditary P) {d : Directive} {base dir target : Path}

include hereditary

theorem searchDir_of_hereditary (named : ∀ directory, d.directory = some directory → P directory)
    (start : P base.text) : P (d.searchDir base).text := by
  unfold Directive.searchDir
  split
  · rename_i directory same
    exact hereditary.join start (q := ⟨directory⟩) (named directory same)
  · exact start

theorem target_of_hereditary (name : P d.name) (longer : P (d.name ++ ".tex".toList)) (start : P dir.text)
    (found : store.source.resolve? d.name dir = some target) : P target.text := by
  obtain ⟨candidate, member, -, rfl⟩ := Store.exists_of_resolve? found
  refine hereditary.normalize ?_
  rcases List.mem_append.mp member with member | member
  · split at member
    · exact List.mem_singleton.mp member ▸ name
    · exact absurd member List.not_mem_nil
  · rcases List.mem_cons.mp member with rfl | member
    · exact hereditary.join (q := ⟨d.name ++ ".tex".toList⟩) start longer
    · exact List.mem_singleton.mp member ▸ hereditary.join (q := ⟨d.name⟩) start name

end Paths

theorem mute_searchDir {d : Directive} {base : Path} (spelled : Spelled d) (mute : Mute base.text) :
    Mute (d.searchDir base).text :=
  searchDir_of_hereditary Directive.hereditary_mute
    (fun directory named => Directive.mute_of_not_mem (spelled.backslash_not_mem.2 directory named)) mute

theorem mute_target {d : Directive} {dir target : Path} (spelled : Spelled d) (mute : Mute dir.text)
    (found : store.source.resolve? d.name dir = some target) : Mute target.text := by
  have plain := spelled.backslash_not_mem.1
  exact target_of_hereditary Directive.hereditary_mute (Directive.mute_of_not_mem plain)
    (Directive.mute_of_not_mem (List.not_mem_append plain (by decide))) mute found

/-! ### The induction -/

theorem mute_message {encoding : Encoding} {file : Path} {cause : Fault} (mute : Mute file.text)
    (read : store.source.read encoding file = .error cause) : Mute cause.message := by
  obtain rfl := Store.eq_noSuchFile_of_read read
  exact mute.prepend (by decide +kernel)

/-- Two ways to visit that agree where no command stands in the paths replace a directive alike. -/
theorem replacement_eq (store : Store) {visit visit' : Run → (file base : Path) → Text × Run} {base : Path}
    (alike : ∀ run file base, Mute file.text → Mute base.text →
      visit run file base = visit' run file base ∧ Quiet (visit' run file base).1)
    (mute : Mute base.text) (run : Run) {d : Directive} (spelled : Spelled d) :
    replacement store.source visit base run d = replacement store.source visit' base run d ∧
      Inert (replacement store.source visit base run d).1 := by
  have plain := spelled.backslash_not_mem_reference
  have dir := mute_searchDir spelled mute
  cases found : store.source.resolve? d.name (d.searchDir base) with
  | none =>
    rw [replacement_of_none found, replacement_of_none found]
    exact ⟨rfl, Marker.inert_notFound plain⟩
  | some target =>
    have file := mute_target spelled dir found
    obtain ⟨same, quiet⟩ :=
      alike (run.note (.resolved d (d.searchDir base) target)) target (d.searchDir base) file dir
    rw [replacement_of_some found, replacement_of_some found, same]
    exact ⟨rfl, Marker.inert_block plain file dir quiet⟩

theorem visitBy_rescan_eq (tidy : TidyTexts store) {levels : Nat} (run : Run) (file base : Path)
    (mute : Mute file.text) (mute' : Mute base.text) :
    visitBy rescan store.source options levels run file base =
        visitBy atOnce store.source options levels run file base ∧
      Quiet (visitBy atOnce store.source options levels run file base).1 := by
  refine visitBy_induction (motive := fun levels run file base result => Mute file.text → Mute base.text →
    visitBy rescan store.source options levels run file base = result ∧ Quiet result.1)
    ?_ ?_ ?_ ?_ levels run file base mute mute'
  · intro levels run file base visited mute _
    exact ⟨visitBy_of_visited visited, Marker.quiet_alreadyIncluded mute⟩
  · intro run file base new mute _
    exact ⟨visitBy_zero new, Marker.quiet_depthExceeded options.maxDepth mute⟩
  · intro levels run file base cause new read mute _
    exact ⟨visitBy_of_error new read, Marker.quiet_unreadable mute (mute_message mute read)⟩
  · intro levels run file base text new read calls _ mute
    have tidy := tidy file text (Store.read_eq_ok_iff.mp read)
    have alike (run : Run) {d : Directive} (spelled : Spelled d) :=
      replacement_eq store calls mute run spelled
    -- The passes replace by `visitBy rescan`, and only at the directives of the text this is the other.
    have passes (run : Run) := rescan_eq_atOnce tidy (fun run _ spelled => (alike run spelled).2) run
    have once (run : Run) : atOnce _ run text = atOnce _ run text := atOnce_congr
      (fun run _ member => (alike run (spelled_of_mem_references tidy member)).1) run
    rw [visitBy_of_ok new read, ← once]
    exact passes _

theorem mergeBy_rescan_eq (tidy : TidyTexts store) {root : Path} (mute : Mute root.text)
    (present : store.present root = true) :
    mergeBy rescan store.source options root = mergeBy atOnce store.source options root := by
  have place : Mute root.normalize.text := mute.normalize
  unfold mergeBy
  rw [Store.rootDocument_of_present present]
  simp only [(visitBy_rescan_eq tidy _ _ _ place place.directory).1]

/-! ### Tidy projects -/

/-- A project that is tidy: its texts, and the path of its root. -/
structure TidyProject (store : Store) (root : Path) : Prop where
  texts : TidyTexts store
  root : Directive.Flat root.text

theorem TidyProject.mute {store : Store} {root : Path} (tidy : TidyProject store root) :
    Mute root.text :=
  Directive.mute_of_not_mem fun member => (tidy.root _ member).1 rfl

theorem fromRoot_rescan_eq {store : Store} {root : Path} (options : Options) (tidy : TidyProject store root) :
    fromRoot rescan store options root = fromRoot atOnce store options root ∧
      Quiet (fromRoot atOnce store options root).1 := by
  have place : Mute root.normalize.text := tidy.mute.normalize
  exact visitBy_rescan_eq tidy.texts { events := [.started root.normalize] } _ _ place place.directory

/-- The merge of a tidy project from a root that exists is its expansion: the same content, the same
number of files, and the same things happen on the way. Every directive that is looked up in it stands
in the text of a file as that was read, so none was made by what an earlier pass put in. -/
theorem merge_eq_expansion {store : Store} {root : Path} (options : Options)
    (tidy : TidyProject store root) (present : store.present root = true) :
    ∃ merged events, merge store.source options root = (.ok merged, events) ∧
      expansion store.source options root = (.ok merged, events) ∧
      ∀ d dir, (.notFound d dir ∈ events ∨ ∃ target, .resolved d dir target ∈ events) →
        ∃ file base depth text, .processing file base depth ∈ events ∧
          store.content? file = some text ∧ d ∈ Inventory.references text ∧ dir = d.searchDir base := by
  have same := mergeBy_of_present atOnce options present
  have steps := steps_fromRoot threads_atOnce store options root
  have passes := (merge_eq_mergeBy store.source options root).trans
    (mergeBy_rescan_eq tidy.texts tidy.mute present)
  refine ⟨_, _, passes.trans same, same, fun d dir asked => ?_⟩
  obtain ⟨depth, file, base, text, member, read, stands, dirs⟩ : ∃ depth, Asks store.source options
      (fun text d => d ∈ Inventory.references text) (fromRoot atOnce store options root).2 d dir depth := by
    rcases asked with missing | ⟨target, found⟩
    · exact steps.grounded (List.mem_reverse.mp missing)
    · exact steps.grounded (List.mem_reverse.mp found)
  exact ⟨file, base, depth, text, List.mem_reverse.mpr member, Store.read_eq_ok_iff.mp read, stands, dirs⟩

/-- Two files that include each other, and a longer command. -/
theorem merge_eq_expansion_cycle :
    let store : Store := ⟨[(.ofString "/m.tex", "\\input\x7ba\x7d \\includegraphics\x7bp\x7d".toList),
      (.ofString "/a.tex", "\\include\x7bm\x7d".toList)]⟩
    TidyProject store (.ofString "/m.tex") ∧ store.present (.ofString "/m.tex") = true ∧
      merge store.source {} (.ofString "/m.tex") = expansion store.source {} (.ofString "/m.tex") := by
  intro store
  have longer : Tidy ('\\' :: "includegraphics\x7bp\x7d".toList) := by
    have rest : Tidy "includegraphics\x7bp\x7d".toList := Directive.commands_of_not_mem (by decide +kernel)
    refine rest.cons fun kind begins => .inr ?_
    cases kind with
    | inputFile => exact absurd begins (by decide +kernel)
    | importFile => exact absurd begins (by decide +kernel)
    | includeFile => exact ⟨by decide, by decide +kernel, 'g', by decide +kernel, by decide +kernel⟩
  have first : Tidy "\\input\x7ba\x7d \\includegraphics\x7bp\x7d".toList := by
    have behind : Tidy ([' '] ++ '\\' :: "includegraphics\x7bp\x7d".toList) := longer.append (by decide)
    have spelled : Spelled _ := .inputFile (List.forall_mem_nil _) (show Plain ['a'] by decide)
    have whole := behind.directive spelled fun _ _ => .inl
    exact whole
  have second : Tidy "\\include\x7bm\x7d".toList := by
    have spelled : Spelled _ :=
      .includeFile (.inl rfl) (List.forall_mem_nil _) (show Plain ['m'] by decide)
    have rest : Tidy [] := Directive.commands_of_not_mem List.not_mem_nil
    have whole := rest.directive spelled fun _ _ => .inl
    exact whole
  have tidy : TidyProject store (.ofString "/m.tex") := by
    refine ⟨fun path text found => ?_, by decide +kernel⟩
    obtain ⟨file, member, rfl⟩ := Store.exists_of_content? found
    rcases List.mem_cons.mp member with rfl | member
    · exact first
    · rw [List.mem_singleton.mp member]
      exact second
  have present : store.present (.ofString "/m.tex") = true := by decide +kernel
  obtain ⟨merged, events, merges, expands, -⟩ := merge_eq_expansion {} tidy present
  exact ⟨tidy, present, merges.trans expands.symm⟩

end TexFlat.Merge
