import Mathlib.Data.List.Induction
import TexFlat.Inventory.Basic
import TexFlat.Merge.Basic
import TexFlat.Proofs.Store.Resolution

/-!
# What a store has of what was added

An add takes the place of those before it under the same normal path, and leaves the other places alone. So a
store that is filled by a series of adds reads at each place what was added there last, has the directories
above it, and does not tell apart two paths with one normal form.
-/

namespace TexFlat.Store

variable {store : Store} {options : Options} {path other place : Path} {content text : Text}
  {adds : List (Path × Text)}

/-! ### One add -/

theorem content?_add_eq_ite (store : Store) (path : Path) (content : Text) (other : Path) :
    (store.add path content).content? other =
      if path.normalize = other.normalize then some content else store.content? other := by
  unfold content? add
  by_cases same : path.normalize = other.normalize
  · rw [if_pos same]
    simp [same]
  · rw [if_neg same]
    simp [same]

theorem present_add_iff :
    (store.add path content).present other = true ↔
      path.normalize.StartsWith other.normalize ∨ store.present other = true := by
  simp [present, add]

/-! ### A series of adds -/

theorem ofList_concat (adds : List (Path × Text)) (path : Path) (content : Text) :
    ofList (adds ++ [(path, content)]) = (ofList adds).add path content := by
  unfold ofList
  rw [List.foldl_append]
  rfl

/-- The text was added under a path with this normal form, and no other one after it. -/
def LastAdded (adds : List (Path × Text)) (place : Path) (text : Text) : Prop :=
  ∃ before path after, adds = before ++ (path, text) :: after ∧ path.normalize = place ∧
    ∀ later ∈ after, later.1.normalize ≠ place

theorem lastAdded_concat_iff :
    LastAdded (adds ++ [(path, content)]) place text ↔
      (path.normalize = place ∧ content = text) ∨ (path.normalize ≠ place ∧ LastAdded adds place text) := by
  constructor
  · rintro ⟨before, added, after, split, there, last⟩
    cases after using List.reverseRecOn with
    | nil =>
      obtain ⟨rfl, rfl⟩ := Prod.mk.inj (List.singleton_inj.mp (List.append_inj_right' split rfl))
      exact .inl ⟨there, rfl⟩
    | append_singleton after later =>
      rw [← List.cons_append, ← List.append_assoc] at split
      obtain rfl := List.singleton_inj.mp (List.append_inj_right' split rfl)
      rw [List.forall_mem_append] at last
      exact .inr ⟨last.2 _ List.mem_cons_self,
        before, added, after, List.append_inj_left' split rfl, there, last.1⟩
  · rintro (⟨here, rfl⟩ | ⟨elsewhere, before, added, after, rfl, there, last⟩)
    · exact ⟨adds, path, [], rfl, here, List.forall_mem_nil _⟩
    · refine ⟨before, added, after ++ [(path, content)], by simp, there, ?_⟩
      rw [List.forall_mem_append]
      exact ⟨last, List.forall_mem_singleton.mpr elsewhere⟩

theorem not_lastAdded_nil : ¬ LastAdded [] place text := by
  rintro ⟨before, added, after, split, -⟩
  simp at split

theorem content?_ofList_eq_some_iff :
    (ofList adds).content? path = some text ↔ LastAdded adds path.normalize text := by
  -- From the end of the series: an add decides for its own place and leaves the others to those before it.
  induction adds using List.reverseRecOn with
  | nil => exact iff_of_false nofun not_lastAdded_nil
  | append_singleton adds add ih =>
    obtain ⟨added, content⟩ := add
    rw [ofList_concat, content?_add_eq_ite, lastAdded_concat_iff, ← ih]
    by_cases here : added.normalize = path.normalize
    · simp [here]
    · simp [here]

theorem exists_lastAdded_iff :
    (∃ text, LastAdded adds place text) ↔ ∃ add ∈ adds, add.1.normalize = place := by
  constructor
  · rintro ⟨text, before, path, after, rfl, here, -⟩
    exact ⟨(path, text), List.mem_append_right _ List.mem_cons_self, here⟩
  · induction adds using List.reverseRecOn with
    | nil => simp
    | append_singleton adds add ih =>
      obtain ⟨added, content⟩ := add
      rintro ⟨other, member, here⟩
      by_cases last : added.normalize = place
      · exact ⟨content, lastAdded_concat_iff.mpr (.inl ⟨last, rfl⟩)⟩
      · rcases List.mem_append.mp member with member | member
        · obtain ⟨text, added⟩ := ih ⟨other, member, here⟩
          exact ⟨text, lastAdded_concat_iff.mpr (.inr ⟨last, added⟩)⟩
        · obtain rfl := List.mem_singleton.mp member
          exact absurd here last

theorem present_ofList_iff :
    (ofList adds).present path = true ↔ ∃ add ∈ adds, add.1.normalize.StartsWith path.normalize := by
  induction adds using List.reverseRecOn with
  | nil => exact iff_of_false nofun (by simp)
  | append_singleton adds add ih =>
    obtain ⟨added, content⟩ := add
    rw [ofList_concat, present_add_iff, ih]
    simp [or_comm, or_and_right, exists_or]

/-! ### Paths with one normal form -/

theorem rootDocument_of_absent (absent : ¬ store.present path = true) :
    store.source.rootDocument path = .error (.missingRoot path) := if_neg absent

theorem merge_of_normalize_eq (same : path.normalize = other.normalize) {merged : Merged}
    {events : List Merge.Event} (h : Merge.merge store.source options path = (.ok merged, events)) :
    Merge.merge store.source options other = (.ok merged, events) := by
  by_cases there : store.present path = true
  · have there' : store.present other = true := (present_eq_of_normalize_eq same).symm.trans there
    simp only [Merge.merge, rootDocument_of_present there, rootDocument_of_present there', same] at h ⊢
    exact h
  · simp only [Merge.merge, rootDocument_of_absent there] at h
    exact absurd (congrArg Prod.fst h) nofun

theorem discover_of_normalize_eq (same : path.normalize = other.normalize) {entries : List Inventory.Entry}
    {events : List Inventory.Event}
    (h : Inventory.discover store.source options path = (.ok entries, events)) :
    Inventory.discover store.source options other = (.ok entries, events) := by
  by_cases there : store.present path = true
  · have there' : store.present other = true := (present_eq_of_normalize_eq same).symm.trans there
    simp only [Inventory.discover, rootDocument_of_present there, rootDocument_of_present there', same] at h ⊢
    exact h
  · simp only [Inventory.discover, rootDocument_of_absent there] at h
    exact absurd (congrArg Prod.fst h) nofun

/-- The store has the same answers for the two paths, as far as it has any, also where they are the roots of
a merge or an inventory. -/
structure Interchangeable (store : Store) (path other : Path) : Prop where
  present : store.source.present path = store.source.present other
  canonical : ∀ place, store.source.canonical path = .ok place ↔ store.source.canonical other = .ok place
  read : ∀ encoding text, store.source.read encoding path = .ok text ↔
    store.source.read encoding other = .ok text
  merge : ∀ options merged events, Merge.merge store.source options path = (.ok merged, events) ↔
    Merge.merge store.source options other = (.ok merged, events)
  discover : ∀ options entries events, Inventory.discover store.source options path = (.ok entries, events) ↔
    Inventory.discover store.source options other = (.ok entries, events)

theorem interchangeable_of_normalize_eq (same : path.normalize = other.normalize) :
    store.Interchangeable path other where
  present := present_eq_of_normalize_eq same
  canonical place := by
    show store.canonical path = .ok place ↔ store.canonical other = .ok place
    rw [canonical_eq_ok_iff, canonical_eq_ok_iff, present_eq_of_normalize_eq same, same]
  read encoding text := by
    rw [read_eq_ok_iff, read_eq_ok_iff, content?_eq_of_normalize_eq same]
  merge options merged events := ⟨merge_of_normalize_eq same, merge_of_normalize_eq same.symm⟩
  discover options entries events := ⟨discover_of_normalize_eq same, discover_of_normalize_eq same.symm⟩

theorem startsWith_iff_eq_or_below {file place : Path} (normal : file.normalize = file)
    (normal' : place.normalize = place) :
    file.StartsWith place ↔ file = place ∨
      (place.components <+: file.components ∧ place.components ≠ file.components) := by
  constructor
  · intro above
    by_cases same : place.components = file.components
    · exact .inl (Path.eq_of_same_of_normal same normal' normal).symm
    · exact .inr ⟨above, same⟩
  · rintro (rfl | below)
    · exact List.prefix_refl _
    · exact below.1

/-- A store that was filled by adds reads a path exactly if something was added under its normal form, and
reads what was added there last. A path is there exactly if something was added at its normal form or below
it, by components. A path that is there has a canonical one, which is there too, is its own canonical path and
reads the same. Of a path only the normal form counts. -/
theorem ofList_answers (adds : List (Path × Text)) (path : Path) :
    (∀ encoding text, (ofList adds).source.read encoding path = .ok text ↔
        LastAdded adds path.normalize text) ∧
      (∀ encoding, (∃ text, (ofList adds).source.read encoding path = .ok text) ↔
        ∃ add ∈ adds, add.1.normalize = path.normalize) ∧
      ((ofList adds).source.present path = true ↔ ∃ add ∈ adds, add.1.normalize = path.normalize ∨
        (path.normalize.components <+: add.1.normalize.components ∧
          path.normalize.components ≠ add.1.normalize.components)) ∧
      ((∃ place, (ofList adds).source.canonical path = .ok place) ↔
        (ofList adds).source.present path = true) ∧
      (∀ place, (ofList adds).source.canonical path = .ok place →
        (ofList adds).source.present place = true ∧ (ofList adds).source.canonical place = .ok place ∧
          ∀ encoding text, (ofList adds).source.read encoding place = .ok text ↔
            (ofList adds).source.read encoding path = .ok text) ∧
      ∀ other, path.normalize = other.normalize → (ofList adds).Interchangeable path other := by
  have reads (encoding : Encoding) (text : Text) : (ofList adds).source.read encoding path = .ok text ↔
      LastAdded adds path.normalize text := read_eq_ok_iff.trans content?_ofList_eq_some_iff
  refine ⟨reads, fun encoding => ?_, ?_, ?_, fun place found => ?_, fun other =>
    interchangeable_of_normalize_eq⟩
  · rw [← exists_lastAdded_iff]
    exact exists_congr (reads encoding)
  · refine present_ofList_iff.trans (exists_congr fun add => and_congr_right fun _ => ?_)
    exact startsWith_iff_eq_or_below (Path.normalize_normalize _) (Path.normalize_normalize _)
  · constructor
    · rintro ⟨place, found⟩
      exact (canonical_eq_ok_iff.mp found).1
    · intro there
      exact ⟨_, canonical_eq_ok_iff.mpr ⟨there, rfl⟩⟩
  · obtain ⟨there, rfl⟩ := canonical_eq_ok_iff.mp found
    have place := place_normalize there
    exact ⟨place.1, place.canonical,
      (interchangeable_of_normalize_eq (Path.normalize_normalize path)).read⟩

/-- A document that is added again under another spelling, and one that is below no root. -/
def drafts : List (Path × Text) := [
  (.ofString "/doc/a.tex", "old".toList),
  (.ofString "/doc/b/../a.tex", "new".toList),
  (.ofString "notes/n.tex", "note".toList)]

theorem ofList_answers_drafts :
    LastAdded drafts (Path.ofString "/doc/./a.tex").normalize "new".toList ∧
      (ofList drafts).source.read .utf8 (.ofString "/doc/./a.tex") = .ok "new".toList ∧
      (ofList drafts).source.present (.ofString "") = true ∧
      (ofList drafts).source.present (.ofString "/do") = false ∧
      (ofList drafts).source.canonical (.ofString "/doc/..") = .ok (.ofString "/") ∧
      (ofList drafts).source.canonical (.ofString "/") = .ok (.ofString "/") ∧
      (Path.ofString "/doc/./a.tex").normalize = (Path.ofString "//doc/a.tex").normalize ∧
      (ofList drafts).Interchangeable (.ofString "/doc/./a.tex") (.ofString "//doc/a.tex") := by
  have last : LastAdded drafts (Path.ofString "/doc/./a.tex").normalize "new".toList :=
    ⟨[(.ofString "/doc/a.tex", "old".toList)], .ofString "/doc/b/../a.tex",
      [(.ofString "notes/n.tex", "note".toList)], rfl, by decide +kernel, by decide +kernel⟩
  have same : (Path.ofString "/doc/./a.tex").normalize = (Path.ofString "//doc/a.tex").normalize := by
    decide +kernel
  have above : (ofList drafts).canonical (.ofString "/doc/..") = .ok (.ofString "/") :=
    canonical_eq_ok_iff.mpr ⟨by decide +kernel, by decide +kernel⟩
  obtain ⟨reads, -, -, -, -, alike⟩ := ofList_answers drafts (.ofString "/doc/./a.tex")
  obtain ⟨-, -, empty, -⟩ := ofList_answers drafts (.ofString "")
  obtain ⟨-, -, partOfName, -⟩ := ofList_answers drafts (.ofString "/do")
  obtain ⟨-, -, -, -, kept, -⟩ := ofList_answers drafts (.ofString "/doc/..")
  have nowhere : (ofList drafts).source.present (.ofString "/do") = false := by
    rw [Bool.eq_false_iff, Ne, partOfName]
    decide +kernel
  exact ⟨last, (reads _ _).mpr last, empty.mpr (by decide +kernel), nowhere, above, (kept _ above).2.1, same,
    alike _ same⟩

end TexFlat.Store
