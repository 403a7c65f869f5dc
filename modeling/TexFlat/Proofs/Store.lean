import TexFlat.Proofs.Path.Normal
import TexFlat.Store

/-!
# What a store finds

A store answers by the normal form of a path. So what it resolves a reference to is normal and
present, and is its own canonical path.
-/

namespace TexFlat.Store

variable {store : Store} {path other : Path}

theorem present_eq_of_normalize_eq (same : path.normalize = other.normalize) :
    store.present path = store.present other := by
  unfold present
  rw [same]

theorem content?_eq_of_normalize_eq (same : path.normalize = other.normalize) :
    store.content? path = store.content? other := by
  unfold content?
  rw [same]

theorem present_normalize (store : Store) (path : Path) :
    store.present path.normalize = store.present path :=
  present_eq_of_normalize_eq (Path.normalize_normalize path)

theorem settle_of_present (present : store.present path = true) :
    store.source.settle path = path.normalize := by
  have found : store.source.canonical path = .ok path.normalize := if_pos present
  rw [Source.settle, found]

/-- What a run may expand: a place of the store, by its canonical path. -/
def Place (store : Store) (path : Path) : Prop := store.present path = true ∧ path.normalize = path

theorem place_normalize (present : store.present path = true) : store.Place path.normalize :=
  ⟨(present_normalize store path).trans present, Path.normalize_normalize path⟩

theorem Place.settle (place : store.Place path) : store.source.settle path = path :=
  (settle_of_present place.1).trans place.2

theorem exists_of_resolve? {name : Text} {dir target : Path}
    (h : store.source.resolve? name dir = some target) :
    ∃ candidate ∈ candidates name dir, store.present candidate = true ∧ target = candidate.normalize := by
  obtain ⟨candidate, found, rfl⟩ := Option.map_eq_some_iff.mp h
  have present : store.present candidate = true := List.find?_some found
  exact ⟨candidate, List.mem_of_find?_eq_some found, present, settle_of_present present⟩

theorem place_of_resolve? {name : Text} {dir target : Path}
    (h : store.source.resolve? name dir = some target) : store.Place target := by
  obtain ⟨candidate, -, present, rfl⟩ := exists_of_resolve? h
  exact place_normalize present

theorem rootDocument_of_present (present : store.present path = true) :
    store.source.rootDocument path = .ok path.normalize := by
  have found : store.source.canonical path = .ok path.normalize := if_pos present
  have here : store.source.present path = true := present
  rw [Source.rootDocument, if_pos here, found]

theorem read_eq_ok_iff {encoding : Encoding} {text : Text} :
    store.source.read encoding path = .ok text ↔ store.content? path = some text := by
  show store.read path = .ok text ↔ _
  unfold read
  cases store.content? path with
  | none => exact ⟨nofun, nofun⟩
  | some content => exact ⟨fun same => congrArg some (Except.ok.inj same), fun same => congrArg _ (Option.some.inj same)⟩

theorem exists_of_content? {text : Text} (h : store.content? path = some text) :
    ∃ file ∈ store.files, file.2 = text := by
  obtain ⟨file, found, rfl⟩ := Option.map_eq_some_iff.mp h
  exact ⟨file, List.mem_of_find?_eq_some found, rfl⟩

theorem eq_noSuchFile_of_read {encoding : Encoding} {cause : Fault}
    (h : store.source.read encoding path = .error cause) : cause = .noSuchFile path := by
  have h : store.read path = .error cause := h
  unfold read at h
  split at h
  · exact absurd h nofun
  · exact (Except.error.inj h).symm

end TexFlat.Store
