import Mathlib.Data.List.Dedup
import Mathlib.Data.List.Infix
import Mathlib.Data.List.Perm.Subperm
import Mathlib.Data.List.ProdSigma
import TexFlat.Proofs.Inventory.Walk

/-!
# How often a file is listed

An inventory lists a place of the store once for each base, where bases are told apart by their
components. A base is the root's directory with the directories of imports joined to it, and is
never made normal. So a directory that is reached over a climb or behind a leading dot is a base of its own.
-/

namespace TexFlat

namespace Path

/-- A climb or a leading dot is in the path. -/
def Winds (path : Path) : Prop := .up ∈ path.components ∨ .here ∈ path.components

instance (path : Path) : Decidable path.Winds := inferInstanceAs (Decidable (_ ∨ _))

/-- Directions that do not wind are one directory only if they are spelled by the same components. -/
theorem same_of_normalize_eq {p q : Path} (straight : ¬ p.Winds) (straight' : ¬ q.Winds)
    (h : p.normalize = q.normalize) : p.Same q := by
  have kept {path : Path} (straight : ¬ path.Winds) : path.normalize.components = path.components := by
    rw [components_normalize]
    refine normalComponents_eq_self fun c member => ⟨?_, ?_⟩
    · rintro rfl
      exact straight (.inr member)
    · rintro rfl
      exact straight (.inl member)
  show p.components = q.components
  rw [← kept straight, ← kept straight', h]

end Path

namespace Store

instance (store : Store) (path : Path) : Decidable (store.Place path) :=
  inferInstanceAs (Decidable (_ ∧ _))

/-- The places of a store, each once: its documents and the directories above them. -/
def places (store : Store) : List Path :=
  ((store.files.flatMap fun file => file.1.components.inits.map Path.ofComponents).filter
    fun path => store.Place path).dedup

theorem mem_places {store : Store} {path : Path} : path ∈ store.places ↔ store.Place path := by
  unfold places
  rw [List.mem_dedup, List.mem_filter, decide_eq_true_eq]
  refine ⟨fun member => member.2, fun place => ⟨?_, place⟩⟩
  obtain ⟨file, member, above⟩ := List.any_eq_true.mp place.1
  have above : path.components <+: file.1.components := by
    rw [place.2] at above
    exact of_decide_eq_true above
  refine List.mem_flatMap.mpr ⟨file, member, List.mem_map.mpr ⟨path.components, ?_, ?_⟩⟩
  · exact (List.mem_inits _ _).mpr above
  · exact Path.ofComponents_components place.2

end Store

namespace Inventory

variable {store : Store} {options : Options} {start : Path} {survey survey' : Survey}

/-- What is listed is a place, and no place is listed twice with one base. -/
structure Distinct (store : Store) (survey : Survey) : Prop where
  places : ∀ entry ∈ survey.entries, store.Place entry.path
  once : survey.entries.Pairwise fun a b => ¬ (a.path = b.path ∧ a.base.Same b.base)

theorem Near.place {file base : Path} {origin : Origin}
    (near : Near store.source options start survey file base origin) (first : store.Place start) :
    store.Place file := by
  cases near with
  | start => exact first
  | reference _ _ _ found => exact Store.place_of_resolve? found

theorem Distinct.step (distinct : Distinct store survey) (first : store.Place start)
    (step : Step store.source options start survey survey') : Distinct store survey' := by
  cases step with
  | note event => exact ⟨distinct.places, distinct.once⟩
  | @list file base origin near new =>
    have place := near.place first
    rw [place.settle] at new ⊢
    refine ⟨fun entry member => ?_, List.pairwise_append.mpr ⟨distinct.once, List.pairwise_singleton _ _, ?_⟩⟩
    · rcases List.mem_append.mp member with member | member
      · exact distinct.places entry member
      · exact List.mem_singleton.mp member ▸ place
    · intro entry member last here
      obtain rfl := List.mem_singleton.mp here
      rintro ⟨path, base⟩
      exact new ⟨entry, member, congrArg Path.components path, base⟩

theorem Distinct.steps (distinct : Distinct store survey) (first : store.Place start)
    (steps : Steps store.source options start survey survey') : Distinct store survey' := by
  induction steps with
  | refl => exact distinct
  | tail _ step ih => exact ih.step first step

theorem distinct_fromRoot (options : Options) {root : Path} (present : store.present root = true) :
    Distinct store (fromRoot store options root) :=
  Distinct.steps ⟨List.forall_mem_nil _, .nil⟩ (Store.place_normalize present)
    (steps_fromRoot store options root)

theorem length_entries_le {α : Type} [DecidableEq α] {key : Entry → α} {entries : List Entry}
    (places : ∀ entry ∈ entries, store.Place entry.path)
    (once : entries.Pairwise fun a b => ¬ (a.path = b.path ∧ key a = key b)) :
    entries.length ≤ store.places.length * (entries.map key).dedup.length := by
  have nodup : (entries.map fun entry => (entry.path, key entry)).Nodup := by
    refine List.pairwise_map.mpr (once.imp fun apart same => apart ?_)
    exact Prod.mk.inj same
  have inside : (entries.map fun entry => (entry.path, key entry)) ⊆
      store.places ×ˢ (entries.map key).dedup := by
    intro pair member
    obtain ⟨entry, listed, rfl⟩ := List.mem_map.mp member
    refine List.mem_product.mpr ⟨Store.mem_places.mpr (places entry listed), ?_⟩
    exact List.mem_dedup.mpr (List.mem_map_of_mem listed)
  have short := (nodup.subperm inside).length_le
  rwa [List.length_map, List.length_product] at short

/-- A file is listed once for each base as it is spelled by its components. Where one file is listed
with two spellings of one directory, a spelling winds; if none does, the inventory is no longer than
there are places and normal bases, and it is never longer than there are places and spelled bases. -/
theorem discover_lists_once (store : Store) (options : Options) {root : Path}
    (present : store.present root = true) :
    ∃ entries events, discover store.source options root = (.ok entries, events) ∧
      (∀ entry ∈ entries, entry.path ∈ store.places) ∧
      (entries.Pairwise fun a b => ¬ (a.path = b.path ∧ a.base.Same b.base)) ∧
      (entries.Pairwise fun a b => a.path = b.path → a.base.normalize = b.base.normalize →
        a.base.Winds ∨ b.base.Winds) ∧
      entries.length ≤ store.places.length * (entries.map (·.base.components)).dedup.length ∧
      ((∀ entry ∈ entries, ¬ entry.base.Winds) →
        entries.length ≤ store.places.length * (entries.map (·.base.normalize)).dedup.length) := by
  obtain ⟨places, once⟩ := distinct_fromRoot options present
  have winding : (fromRoot store options root).entries.Pairwise fun a b =>
      a.path = b.path → a.base.normalize = b.base.normalize → a.base.Winds ∨ b.base.Winds := by
    refine once.imp fun apart path base => Classical.byContradiction fun straight => ?_
    obtain ⟨left, right⟩ := not_or.mp straight
    exact apart ⟨path, Path.same_of_normalize_eq left right base⟩
  refine ⟨_, _, discover_of_present options present, fun entry member =>
    Store.mem_places.mpr (places entry member), once, winding, ?_, fun straight => ?_⟩
  · exact length_entries_le places once
  · refine length_entries_le places (winding.imp_of_mem fun left right winds same => ?_)
    exact (winds same.1 same.2).elim (straight _ left) (straight _ right)

theorem discover_lists_once_cycle :
    let store : Store := ⟨[(.ofString "/m.tex", "\\input\x7bm\x7d\\import\x7bx\x7d\x7b../m\x7d".toList)]⟩
    store.present (.ofString "/m.tex") = true ∧
      ∃ entries events, discover store.source {} (.ofString "/m.tex") = (.ok entries, events) ∧
        entries.Pairwise fun a b => ¬ (a.path = b.path ∧ a.base.Same b.base) := by
  intro store
  have present : store.present (.ofString "/m.tex") = true := by decide +kernel
  obtain ⟨entries, events, whole, -, once, -⟩ := discover_lists_once store {} present
  exact ⟨present, entries, events, whole, once⟩

/-- An import that goes down and up again lists its file a second time, with the same directory. -/
theorem discover_lists_twice :
    ¬ ∀ (store : Store) (options : Options) (root : Path), store.present root = true →
      ∀ entries events, discover store.source options root = (.ok entries, events) →
        entries.Pairwise fun a b => ¬ (a.path = b.path ∧ a.base.normalize = b.base.normalize) := by
  intro claim
  have twice : (discover (Store.source ⟨[(.ofString "/doc/main.tex",
      "\\import\x7bx/..\x7d\x7bmain\x7d".toList)]⟩) { maxDepth := 1 } (.ofString "/doc/main.tex")).1 =
      .ok [⟨.ofString "/doc/main.tex", .ofString "/doc", .root⟩,
        ⟨.ofString "/doc/main.tex", .ofString "/doc/x/..", .reference .importFile⟩] := by
    decide +kernel
  have once := claim _ _ _ (by decide +kernel) _ _ (Prod.ext twice rfl)
  exact absurd once (by decide +kernel)

end Inventory
end TexFlat
