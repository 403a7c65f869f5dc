import TexFlat.Proofs.Directive.Finding
import TexFlat.Proofs.Merge.Project

/-!
# Merging what was merged

A document in which no scan finds a directive is its own merge. The merged text of a tidy project is
such a document: what replaces the directives is quiet, and so is the text between them.
-/

namespace TexFlat

namespace Store

theorem present_of_content? {store : Store} {path : Path} {text : Text}
    (h : store.content? path = some text) : store.present path = true := by
  unfold content? at h
  obtain ⟨file, found, rfl⟩ := Option.map_eq_some_iff.mp h
  have here : file.1 = path.normalize := by simpa using List.find?_some found
  refine List.any_eq_true.mpr ⟨file, List.mem_of_find?_eq_some found, decide_eq_true ?_⟩
  rw [here]
  exact List.prefix_refl _

theorem content?_add (store : Store) (path : Path) (content : Text) :
    (store.add path content).content? path = some content := by
  simp [content?, add]

end Store

namespace Directive

variable {kind : Kind} {text : Text}

theorem segments_of_silent {next : Text → Prop} (silent : Silent kind next text) (last : next []) :
    segments kind text = text.map .char := by
  have whole := segments_append_of_silent silent last
  rwa [List.append_nil, segments_nil, List.append_nil] at whole

theorem segments_of_ofText_eq_nil (nothing : ofText kind text = []) :
    segments kind text = text.map .char := by
  have silent : Silent kind (fun more => more = []) text := by
    rintro rest behind _ more rfl
    rw [List.append_nil]
    exact at?_eq_none_of_ofText_eq_nil nothing rest behind
  exact segments_of_silent silent rfl

theorem scan_eq_nil_iff : scan text kind = [] ↔ ofText kind text = [] := by
  have named : (scan text kind).map (·.directive) = ofText kind text :=
    Merge.map_directive_occurrencesFrom 0 (segments kind text)
  rw [← named, List.map_eq_nil_iff]

theorem Quiet.ofText_eq_nil (quiet : Quiet text) (kind : Kind) : ofText kind text = [] := by
  unfold ofText
  rw [segments_of_silent (quiet kind) nofun, List.filterMap_map]
  exact List.filterMap_eq_nil_iff.mpr fun _ _ => rfl

end Directive

namespace Merge

open Directive (Kind Quiet)

/-- A text in which a scan for no kind finds anything. -/
def Bare (text : Text) : Prop := ∀ kind, Directive.ofText kind text = []

variable {text : Text}

theorem Bare.pass_eq (bare : Bare text) (replace : Run → Directive → Text × Run) (run : Run)
    (kind : Kind) : pass replace (text, run) kind = (text, run) := by
  have chars := @splice_map_char replace [] text run []
  rw [List.append_nil] at chars
  rw [pass, Directive.segments_of_ofText_eq_nil (bare kind), chars]
  simp [splice]

theorem Bare.rescan_eq (bare : Bare text) (replace : Run → Directive → Text × Run) (run : Run) :
    rescan replace run text = (text, run) := by
  unfold rescan
  induction Kind.passes with
  | nil => rfl
  | cons kind kinds ih => rw [List.foldl_cons, bare.pass_eq, ih]

/-- A document in which there is nothing to replace is its own merge. -/
theorem Bare.merge_eq (bare : Bare text) {store : Store} {root : Path} (options : Options)
    (found : store.content? root = some text) :
    (merge store.source options root).1 = .ok ⟨text, 1⟩ := by
  have read : store.source.read options.encoding root.normalize = .ok text := by
    rw [Store.read_eq_ok_iff, Store.content?_eq_of_normalize_eq (Path.normalize_normalize _), found]
  have new : ¬ ({ events := [.started root.normalize] } : Run).HasVisited
      (store.source.settle root.normalize) := fun ⟨_, member, _⟩ => absurd member List.not_mem_nil
  rw [merge_of_present options (Store.present_of_content? found), fromRoot, visitBy_of_ok new read,
    bare.rescan_eq]
  rfl

/-- In what a tidy project is merged to no scan finds anything. So it is a document that, wherever it
is stored, is its own merge. -/
theorem merge_flat {store : Store} {root : Path} (options : Options) (tidy : TidyProject store root)
    (present : store.present root = true) :
    ∃ merged events, merge store.source options root = (.ok merged, events) ∧
      (∀ kind, Directive.scan merged.content kind = []) ∧
      ∀ (other : Store) (options' : Options) (root' : Path),
        (merge (other.add root' merged.content).source options' root').1 = .ok ⟨merged.content, 1⟩ := by
  obtain ⟨same, quiet⟩ := fromRoot_rescan_eq options tidy
  have bare : Bare (fromRoot rescan store options root).1 := by
    rw [same]
    exact quiet.ofText_eq_nil
  refine ⟨_, _, merge_of_present options present, ?_, ?_⟩
  · intro kind
    exact Directive.scan_eq_nil_iff.mpr (bare kind)
  · intro other options' root'
    exact bare.merge_eq options' (Store.content?_add other root' _)

/-- Two files that ask for each other, and for one that is not there. -/
def ring : Store where
  files := [(.ofString "/m.tex", "\\input\x7ba\x7d\\include\x7bb\x7d".toList),
    (.ofString "/a.tex", "\\include\x7bm\x7d".toList)]

theorem tidy_ring : TidyProject ring (.ofString "/m.tex") := by
  have empty : Directive.Complete [] := Directive.commands_of_not_mem List.not_mem_nil
  have last := empty.included (show Directive.Plain "b".toList by decide)
  refine ⟨fun path text found => Directive.Complete.tidy ?_, by decide +kernel⟩
  obtain ⟨file, member, rfl⟩ := Store.exists_of_content? found
  simp only [ring, List.mem_cons, List.not_mem_nil, or_false] at member
  rcases member with rfl | rfl
  · exact last.input (show Directive.Plain "a".toList by decide)
  · exact empty.included (show Directive.Plain "m".toList by decide)

theorem merge_flat_ring :
    TidyProject ring (.ofString "/m.tex") ∧ ring.present (.ofString "/m.tex") = true ∧
      ∃ merged events, merge ring.source {} (.ofString "/m.tex") = (.ok merged, events) ∧
        (∀ kind, Directive.scan merged.content kind = []) ∧
        (merge (ring.add (.ofString "/m.tex") merged.content).source {} (.ofString "/m.tex")).1 =
          .ok ⟨merged.content, 1⟩ := by
  have present : ring.present (.ofString "/m.tex") = true := by decide +kernel
  obtain ⟨merged, events, merges, bare, again⟩ := merge_flat {} tidy_ring present
  exact ⟨tidy_ring, present, merged, events, merges, bare, again ring {} _⟩

end Merge
end TexFlat
