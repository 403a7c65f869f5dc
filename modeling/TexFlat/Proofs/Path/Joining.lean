import TexFlat.Proofs.Path.Normal

/-!
# Normal forms of joined paths

The walk that makes a path normal goes on behind a join where it stood at the end of the first path. So a
join leads where the normal form of its first path says, however that path is spelled, and a climb for each
name takes the names back.
-/

namespace TexFlat.Path

variable {p p' q : Path} {names trail : List Component}

theorem lead_of_relative (relative : q.isAbsolute = false) : q.lead = [] ∨ q.lead = [.here] := by
  unfold lead
  rw [relative, if_neg Bool.false_ne_true]
  split
  · exact .inr rfl
  · exact .inl rfl

/-- A leading dot leads nowhere. -/
theorem foldl_follow_steps (relative : q.isAbsolute = false) (trail : List Component) :
    q.steps.foldl Component.follow trail = q.components.foldl Component.follow trail := by
  rw [components_eq, List.foldl_append]
  rcases lead_of_relative relative with none | here
  · rw [none]
    rfl
  · rw [here]
    rfl

theorem normalComponents_join (relative : q.isAbsolute = false) (p : Path) :
    normalComponents (p.join q).components =
      (q.components.foldl Component.follow (normalComponents p.components).reverse).reverse := by
  by_cases empty : p.text = []
  · have start : normalComponents p.components = [] := by
      obtain ⟨text⟩ := p
      obtain rfl : text = [] := empty
      rfl
    rw [join_of_empty empty, start]
    rfl
  · rw [components_join relative empty, normalComponents, normalComponents, List.foldl_append,
      List.reverse_reverse, foldl_follow_steps relative]

theorem normalize_eq_iff :
    p.normalize = p'.normalize ↔ normalComponents p.components = normalComponents p'.components := by
  constructor
  · intro same
    rw [← components_normalize, ← components_normalize, same]
  · intro walked
    rw [normalize, normalize, walked]

/-- Directories with one normal form lead to one place. -/
theorem normalize_join_congr (same : p.normalize = p'.normalize) (q : Path) :
    (p.join q).normalize = (p'.join q).normalize := by
  by_cases absolute : q.isAbsolute = true
  · rw [join_of_isAbsolute p absolute, join_of_isAbsolute p' absolute]
  · have relative : q.isAbsolute = false := Bool.eq_false_iff.mpr absolute
    rw [normalize_eq_iff, normalComponents_join relative, normalComponents_join relative,
      normalize_eq_iff.mp same]

theorem foldl_follow_climbs (named : ∀ c ∈ names, c.IsName) (trail : List Component) :
    (List.replicate names.length .up).foldl Component.follow (names ++ trail) = trail := by
  induction names with
  | nil => rfl
  | cons c names ih =>
    rw [List.forall_mem_cons] at named
    obtain ⟨-, text, rfl⟩ := named.1
    exact ih named.2

end TexFlat.Path
