import TexFlat.Proofs.Path.Joining
import TexFlat.Proofs.Store

/-!
# Where a reference leads

A reference is looked for at no more than three places, one after the other, and leads to the canonical path
of the first at which something is. `Found` and `Missing` say so without a list of places. Of the directory only
the normal form counts.
-/

namespace TexFlat.Store

variable {store : Store} {name : Text} {dir dir' place target : Path}

/-- The name stands by itself: it is absolute, and something is there. -/
def StandsAlone (store : Store) (name : Text) : Prop :=
  Path.isAbsolute ⟨name⟩ = true ∧ store.present ⟨name⟩ = true

instance (store : Store) (name : Text) : Decidable (store.StandsAlone name) :=
  inferInstanceAs (Decidable (_ ∧ _))

/-- Where a reference is found: at the name itself, if it is absolute; else in the directory, with `.tex`
behind the name sooner than without. -/
inductive Found (store : Store) (name : Text) (dir : Path) : Path → Prop
  | alone : store.StandsAlone name → Found store name dir ⟨name⟩
  | extended : ¬ store.StandsAlone name → store.present (dir.join ⟨name ++ ".tex".toList⟩) = true →
    Found store name dir (dir.join ⟨name ++ ".tex".toList⟩)
  | bare : ¬ store.StandsAlone name → store.present (dir.join ⟨name ++ ".tex".toList⟩) = false →
    store.present (dir.join ⟨name⟩) = true → Found store name dir (dir.join ⟨name⟩)

theorem Found.present (found : store.Found name dir place) : store.present place = true := by
  cases found with
  | alone alone => exact alone.2
  | extended _ there => exact there
  | bare _ _ there => exact there

theorem isAbsolute_append {text : Text} (absolute : Path.isAbsolute ⟨name⟩ = true) :
    Path.isAbsolute ⟨name ++ text⟩ = true := by
  cases name with
  | nil => exact absurd absolute nofun
  | cons c name => exact absolute

/-! ### The candidates -/

theorem find?_candidates_of_alone (alone : store.StandsAlone name) (dir : Path) :
    (candidates name dir).find? store.present = some ⟨name⟩ := by
  unfold candidates
  rw [if_pos alone.1, List.singleton_append, List.find?_cons_of_pos alone.2]

theorem find?_candidates_of_not_alone (other : ¬ store.StandsAlone name) (dir : Path) :
    (candidates name dir).find? store.present =
      [dir.join ⟨name ++ ".tex".toList⟩, dir.join ⟨name⟩].find? store.present := by
  unfold candidates
  by_cases absolute : Path.isAbsolute ⟨name⟩ = true
  · have absent : ¬ store.present ⟨name⟩ = true := fun there => other ⟨absolute, there⟩
    rw [if_pos absolute, List.singleton_append, List.find?_cons_of_neg absent]
  · rw [if_neg absolute, List.nil_append]

theorem Found.find?_candidates (found : store.Found name dir place) :
    (candidates name dir).find? store.present = some place := by
  cases found with
  | alone alone => exact find?_candidates_of_alone alone dir
  | extended other there => rw [find?_candidates_of_not_alone other, List.find?_cons_of_pos there]
  | bare other absent there =>
    rw [find?_candidates_of_not_alone other, List.find?_cons_of_neg (Bool.eq_false_iff.mp absent),
      List.find?_cons_of_pos there]

/-- Nothing is at any place where the reference is looked for. -/
structure Missing (store : Store) (name : Text) (dir : Path) : Prop where
  alone : ¬ store.StandsAlone name
  extended : store.present (dir.join ⟨name ++ ".tex".toList⟩) = false
  bare : store.present (dir.join ⟨name⟩) = false

theorem Missing.find?_candidates (missing : store.Missing name dir) :
    (candidates name dir).find? store.present = none := by
  rw [find?_candidates_of_not_alone missing.alone,
    List.find?_cons_of_neg (Bool.eq_false_iff.mp missing.extended),
    List.find?_cons_of_neg (Bool.eq_false_iff.mp missing.bare), List.find?_nil]

theorem exists_found_or_missing (store : Store) (name : Text) (dir : Path) :
    (∃ place, store.Found name dir place) ∨ store.Missing name dir := by
  by_cases alone : store.StandsAlone name
  · exact .inl ⟨_, .alone alone⟩
  · cases extended : store.present (dir.join ⟨name ++ ".tex".toList⟩) with
    | true => exact .inl ⟨_, .extended alone extended⟩
    | false =>
      cases bare : store.present (dir.join ⟨name⟩) with
      | true => exact .inl ⟨_, .bare alone extended bare⟩
      | false => exact .inr ⟨alone, extended, bare⟩

theorem find?_candidates_eq_some_iff :
    (candidates name dir).find? store.present = some place ↔ store.Found name dir place := by
  constructor
  · intro first
    rcases exists_found_or_missing store name dir with ⟨other, found⟩ | missing
    · obtain rfl : place = other := Option.some.inj (first.symm.trans found.find?_candidates)
      exact found
    · exact absurd (first.symm.trans missing.find?_candidates) nofun
  · exact Found.find?_candidates

theorem resolve?_eq_none_iff : store.source.resolve? name dir = none ↔ store.Missing name dir := by
  have mapped : store.source.resolve? name dir = none ↔
      (candidates name dir).find? store.present = none := Option.map_eq_none_iff
  rw [mapped]
  constructor
  · intro none
    rcases exists_found_or_missing store name dir with ⟨place, found⟩ | missing
    · exact absurd (none.symm.trans found.find?_candidates) nofun
    · exact missing
  · exact Missing.find?_candidates

/-! ### What the directory has to say -/

theorem canonical_eq_ok_iff :
    store.canonical place = .ok target ↔ store.present place = true ∧ place.normalize = target := by
  unfold canonical
  by_cases there : store.present place = true
  · rw [if_pos there, Except.ok.injEq, and_iff_right there]
  · rw [if_neg there]
    exact iff_of_false nofun fun found => there found.1

theorem Place.canonical (place : store.Place target) : store.canonical target = .ok target :=
  canonical_eq_ok_iff.mpr place

/-- A name that is found in one directory is found in another one with the same normal form, and at a place
with the same normal form. -/
theorem Found.of_normalize_eq (found : store.Found name dir place) (same : dir.normalize = dir'.normalize) :
    ∃ place', store.Found name dir' place' ∧ place.normalize = place'.normalize := by
  have joined (text : Text) := Path.normalize_join_congr same ⟨text⟩
  have there (text : Text) : store.present (dir.join ⟨text⟩) = store.present (dir'.join ⟨text⟩) :=
    present_eq_of_normalize_eq (joined text)
  cases found with
  | alone alone => exact ⟨_, .alone alone, rfl⟩
  | extended other extended =>
    rw [there] at extended
    exact ⟨_, .extended other extended, joined _⟩
  | bare other absent bare =>
    rw [there] at absent bare
    exact ⟨_, .bare other absent bare, joined _⟩

theorem resolve?_eq_some_iff :
    store.source.resolve? name dir = some target ↔
      ∃ place, store.Found name dir place ∧ store.canonical place = .ok target := by
  have mapped : store.source.resolve? name dir = some target ↔
      ∃ place, (candidates name dir).find? store.present = some place ∧ store.source.settle place = target :=
    Option.map_eq_some_iff
  rw [mapped]
  refine exists_congr fun place => ?_
  rw [find?_candidates_eq_some_iff]
  refine and_congr_right fun found => ?_
  rw [settle_of_present found.present, canonical_eq_ok_iff, and_iff_right found.present]

theorem resolve?_of_normalize_eq (same : dir.normalize = dir'.normalize)
    (resolved : store.source.resolve? name dir = some target) :
    store.source.resolve? name dir' = some target := by
  obtain ⟨place, found, canonical⟩ := resolve?_eq_some_iff.mp resolved
  obtain ⟨place', found', places⟩ := found.of_normalize_eq same
  obtain ⟨-, rfl⟩ := canonical_eq_ok_iff.mp canonical
  exact resolve?_eq_some_iff.mpr ⟨place', found', canonical_eq_ok_iff.mpr ⟨found'.present, places.symm⟩⟩

theorem resolve?_eq_of_normalize_eq (name : Text) (same : dir.normalize = dir'.normalize) :
    store.source.resolve? name dir = store.source.resolve? name dir' := by
  apply Option.ext
  intro target
  exact ⟨resolve?_of_normalize_eq same, resolve?_of_normalize_eq same.symm⟩

theorem candidates_of_isAbsolute (absolute : Path.isAbsolute ⟨name⟩ = true) (dir dir' : Path) :
    candidates name dir = candidates name dir' := by
  have extended : Path.isAbsolute ⟨name ++ ".tex".toList⟩ = true := isAbsolute_append absolute
  simp only [candidates, Path.join_of_isAbsolute _ absolute, Path.join_of_isAbsolute _ extended]

/-- A reference leads to the canonical path of the place where it is found, and nowhere exactly if it is
missing. Where it leads, something is, and the path is its own canonical one. To an absolute name the
directory does not matter, and else its normal form is all that does. -/
theorem resolves_where_found (store : Store) (name : Text) (dir : Path) :
    (∀ target, store.source.resolve? name dir = some target ↔
        ∃ place, store.Found name dir place ∧ store.canonical place = .ok target) ∧
      (store.source.resolve? name dir = none ↔ store.Missing name dir) ∧
      (∀ target, store.source.resolve? name dir = some target →
        store.present target = true ∧ store.canonical target = .ok target) ∧
      (Path.isAbsolute ⟨name⟩ = true →
        ∀ dir', store.source.resolve? name dir = store.source.resolve? name dir') ∧
      (∀ dir', dir.normalize = dir'.normalize →
        store.source.resolve? name dir = store.source.resolve? name dir') := by
  refine ⟨fun target => resolve?_eq_some_iff, resolve?_eq_none_iff, fun target resolved => ?_,
    fun absolute dir' => ?_, fun dir' => resolve?_eq_of_normalize_eq name⟩
  · have place := place_of_resolve? resolved
    exact ⟨place.1, place.canonical⟩
  · rw [Source.resolve?, Source.resolve?, candidates_of_isAbsolute absolute dir dir']

/-- A document and its twin without an extension, and a file in a directory beside them. -/
def twins : Store where
  files := [
    (.ofString "/doc/part.tex", "one".toList),
    (.ofString "/doc/part", "two".toList),
    (.ofString "/doc/figures/plot", "three".toList)]

theorem resolves_where_found_twins :
    twins.Found "../part".toList (.ofString "/doc/figures") (.ofString "/doc/figures/../part.tex") ∧
      twins.source.resolve? "../part".toList (.ofString "/doc/figures") = some (.ofString "/doc/part.tex") ∧
      twins.source.resolve? "../part".toList (.ofString "/doc/figures") =
        twins.source.resolve? "../part".toList (.ofString "/doc/./old/../figures/") ∧
      twins.Missing "plots".toList (.ofString "/doc/figures") ∧
      twins.source.resolve? "plots".toList (.ofString "/doc/figures") = none ∧
      twins.source.resolve? "/doc/figures".toList (.ofString "/doc/figures") =
        twins.source.resolve? "/doc/figures".toList (.ofString "") := by
  have found : twins.Found "../part".toList (.ofString "/doc/figures")
      (.ofString "/doc/figures/../part.tex") := .extended (by decide) (by decide +kernel)
  have missing : twins.Missing "plots".toList (.ofString "/doc/figures") :=
    ⟨by decide, by decide +kernel, by decide +kernel⟩
  have canonical : twins.canonical (.ofString "/doc/figures/../part.tex") = .ok (.ofString "/doc/part.tex") :=
    canonical_eq_ok_iff.mpr ⟨found.present, by decide +kernel⟩
  obtain ⟨leads, -, -, -, spelled⟩ :=
    resolves_where_found twins "../part".toList (.ofString "/doc/figures")
  obtain ⟨-, nowhere, -⟩ := resolves_where_found twins "plots".toList (.ofString "/doc/figures")
  obtain ⟨-, -, -, alone, -⟩ :=
    resolves_where_found twins "/doc/figures".toList (.ofString "/doc/figures")
  exact ⟨found, (leads _).mpr ⟨_, found, canonical⟩, spelled _ (by decide +kernel), missing,
    nowhere.mpr missing, alone (by decide) _⟩

end TexFlat.Store
