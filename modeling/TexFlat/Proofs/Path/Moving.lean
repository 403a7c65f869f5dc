import TexFlat.Proofs.Path.Joining
import TexFlat.Proofs.Path.Parent

/-!
# Paths below a directory that moves

A path below a directory goes on from it by names. When the directory is moved, the names stay, and with
them whatever is said about two such paths by their components. Joining, normalising and taking the directory
of a file lead from such a path to another one, as long as nothing climbs.
-/

namespace TexFlat

namespace Path

variable {old new path path' other other' file file' : Path} {rest : List Component}

/-! ### Absolute paths -/

theorem lead_of_isAbsolute (absolute : path.isAbsolute = true) : path.lead = [.root] := if_pos absolute

theorem components_of_isAbsolute (absolute : path.isAbsolute = true) :
    path.components = .root :: path.steps := by
  rw [components_eq, lead_of_isAbsolute absolute]
  rfl

theorem root_not_mem_steps (path : Path) : .root ∉ path.steps :=
  fun member => (isStep_of_mem_steps member).2 List.mem_cons_self

theorem isAbsolute_of_components {steps : List Component} (cut : path.components = .root :: steps) :
    path.isAbsolute = true := by
  cases absolute : path.isAbsolute with
  | true => rfl
  | false =>
    exfalso
    rw [components_eq] at cut
    rcases lead_of_relative absolute with none | here
    · rw [none, List.nil_append] at cut
      exact root_not_mem_steps path (cut ▸ List.mem_cons_self)
    · rw [here] at cut
      exact absurd (List.cons.inj cut).1 nofun

theorem isName_of_mem_steps (absolute : path.isAbsolute = true) (normal : path.normalize = path) :
    ∀ c ∈ path.steps, c.IsName := by
  obtain ⟨top, names, split, front, all⟩ := normal_normalComponents (orderly_components path)
  rw [← components_normalize, normal, components_of_isAbsolute absolute] at split
  rcases front with rfl | rfl
  · intro c member
    exact all c (by rw [List.nil_append] at split; exact split ▸ List.mem_cons_of_mem _ member)
  · rw [(List.cons.inj split).2]
    exact all

/-- Names behind the root make a path that is normal. -/
theorem components_ofNames (all : ∀ c ∈ rest, c.IsName) :
    (ofComponents (.root :: rest)).components = .root :: rest ∧
      (ofComponents (.root :: rest)).normalize = ofComponents (.root :: rest) := by
  have normal : Normal (.root :: rest) := ⟨[.root], rest, rfl, .inr rfl, all⟩
  have same := components_ofComponents normal.orderly
  refine ⟨same, ?_⟩
  rw [normalize, same, normalComponents_eq_self normal.direct]

theorem components_normalize_of_names (cut : path.components = .root :: rest) (all : ∀ c ∈ rest, c.IsName) :
    path.normalize.components = path.components := by
  have normal : Normal path.components := ⟨[.root], rest, cut, .inr rfl, all⟩
  rw [components_normalize, normalComponents_eq_self normal.direct]

/-! ### The directory of a path -/

/-- The directory of an absolute path is the path without its last component. -/
theorem components_directory (absolute : path.isAbsolute = true) (below : path.steps ≠ []) :
    path.directory.components = .root :: path.steps.dropLast := by
  have cut := components_of_isAbsolute absolute
  cases parent : path.parent? with
  | none =>
    rcases components_eq_of_parent?_eq_none parent with empty | root
    · exact absurd (cut.symm.trans empty) (List.cons_ne_nil _ _)
    · exact absurd (List.cons.inj (cut.symm.trans root)).2 below
  | some place =>
    obtain ⟨last, split⟩ := components_of_parent? parent
    have front := congrArg List.dropLast (cut.symm.trans split)
    rw [List.dropLast_concat, List.dropLast_cons_of_ne_nil below] at front
    rw [directory, parent]
    exact front.symm

/-! ### Going on by names -/

/-- A directory that a project can be below: absolute and normal. -/
structure IsTop (path : Path) : Prop where
  absolute : path.isAbsolute = true
  normal : path.normalize = path

theorem IsTop.isName (top : IsTop path) : ∀ c ∈ path.steps, c.IsName :=
  isName_of_mem_steps top.absolute top.normal

/-- The path goes on from `top` by names. -/
def GoesOn (top path : Path) (rest : List Component) : Prop :=
  path.components = top.components ++ rest ∧ ∀ c ∈ rest, c.IsName

/-- The two paths go on in the same way, the one from `old` and the other one from `new`. -/
def Moves (old new path path' : Path) : Prop := ∃ rest, GoesOn old path rest ∧ GoesOn new path' rest

theorem GoesOn.components_eq (top : IsTop old) (on : GoesOn old path rest) :
    path.components = .root :: (old.steps ++ rest) ∧ ∀ c ∈ old.steps ++ rest, c.IsName := by
  rw [on.1, components_of_isAbsolute top.absolute, List.forall_mem_append]
  exact ⟨rfl, top.isName, on.2⟩

theorem GoesOn.normalize (top : IsTop old) (on : GoesOn old path rest) : GoesOn old path.normalize rest := by
  obtain ⟨cut, all⟩ := on.components_eq top
  exact ⟨(components_normalize_of_names cut all).trans on.1, on.2⟩

theorem GoesOn.isAbsolute (top : IsTop old) (on : GoesOn old path rest) : path.isAbsolute = true :=
  isAbsolute_of_components (on.components_eq top).1

theorem GoesOn.text_ne_nil (top : IsTop old) (on : GoesOn old path rest) : path.text ≠ [] := by
  intro empty
  have absolute := on.isAbsolute top
  unfold Path.isAbsolute at absolute
  rw [empty] at absolute
  exact absurd absolute nofun

theorem GoesOn.join (top : IsTop old) (on : GoesOn old path rest) (relative : other.isAbsolute = false)
    (names : ∀ c ∈ other.steps, c.IsName) : GoesOn old (path.join other) (rest ++ other.steps) := by
  constructor
  · rw [components_join relative (on.text_ne_nil top), on.1, List.append_assoc]
  · rw [List.forall_mem_append]
    exact ⟨on.2, names⟩

theorem GoesOn.directory (top : IsTop old) (on : GoesOn old path rest) (below : rest ≠ []) :
    GoesOn old path.directory rest.dropLast := by
  have absolute := on.isAbsolute top
  have cut := (on.components_eq top).1
  rw [components_of_isAbsolute absolute] at cut
  have steps_eq : path.steps = old.steps ++ rest := (List.cons.inj cut).2
  constructor
  · rw [components_directory absolute (by rw [steps_eq]; exact List.append_ne_nil_of_right_ne_nil _ below),
      steps_eq, List.dropLast_append_of_ne_nil below, components_of_isAbsolute top.absolute]
    rfl
  · exact fun c member => on.2 c (List.dropLast_subset _ member)

namespace Moves

theorem normalize (top : IsTop old) (top' : IsTop new) (moves : Moves old new path path') :
    Moves old new path.normalize path'.normalize := by
  obtain ⟨rest, on, on'⟩ := moves
  exact ⟨rest, on.normalize top, on'.normalize top'⟩

theorem join (top : IsTop old) (top' : IsTop new) (moves : Moves old new path path')
    (relative : other.isAbsolute = false) (names : ∀ c ∈ other.steps, c.IsName) :
    Moves old new (path.join other) (path'.join other) := by
  obtain ⟨rest, on, on'⟩ := moves
  exact ⟨_, on.join top relative names, on'.join top' relative names⟩

theorem same_iff (moves : Moves old new path path') (moves' : Moves old new other other') :
    path.Same other ↔ path'.Same other' := by
  obtain ⟨rest, on, on'⟩ := moves
  obtain ⟨rest', along, along'⟩ := moves'
  unfold Same
  rw [on.1, along.1, on'.1, along'.1, List.append_right_inj, List.append_right_inj]

theorem startsWith_iff (moves : Moves old new path path') (moves' : Moves old new other other') :
    path.StartsWith other ↔ path'.StartsWith other' := by
  obtain ⟨rest, on, on'⟩ := moves
  obtain ⟨rest', along, along'⟩ := moves'
  unfold StartsWith
  rw [on.1, along.1, on'.1, along'.1, List.prefix_append_right_inj, List.prefix_append_right_inj]

theorem eq_iff (moves : Moves old new path path') (moves' : Moves old new other other')
    (normal : path.normalize = path ∧ path'.normalize = path')
    (normal' : other.normalize = other ∧ other'.normalize = other') : path = other ↔ path' = other' := by
  constructor
  · rintro rfl
    exact eq_of_same_of_normal ((moves.same_iff moves').mp rfl) normal.2 normal'.2
  · rintro rfl
    exact eq_of_same_of_normal ((moves.same_iff moves').mpr rfl) normal.1 normal'.1

end Moves

/-! ### The path that is moved -/

/-- The path with `new` in the place of `old` in front. -/
def moved (path old new : Path) : Path :=
  ofComponents (new.components ++ path.components.drop old.components.length)

theorem GoesOn.moved (top' : IsTop new) (on : GoesOn old path rest) :
    GoesOn new (path.moved old new) rest ∧ (path.moved old new).normalize = path.moved old new := by
  have all : ∀ c ∈ new.steps ++ rest, c.IsName := by
    rw [List.forall_mem_append]
    exact ⟨top'.isName, on.2⟩
  have spelled : path.moved old new = ofComponents (.root :: (new.steps ++ rest)) := by
    rw [Path.moved, on.1, List.drop_left, components_of_isAbsolute top'.absolute]
    rfl
  obtain ⟨components, normal⟩ := components_ofNames all
  rw [spelled]
  refine ⟨⟨?_, on.2⟩, normal⟩
  rw [components, components_of_isAbsolute top'.absolute]
  rfl

theorem Moves.eq_moved (top' : IsTop new) (moves : Moves old new path path')
    (normal : path'.normalize = path') : path' = path.moved old new := by
  obtain ⟨rest, on, on'⟩ := moves
  obtain ⟨along, normal'⟩ := on.moved top'
  exact eq_of_same_of_normal (on'.1.trans along.1.symm) normal normal'

theorem Moves.same_moved (top' : IsTop new) (moves : Moves old new path path') :
    path'.Same (path.moved old new) := by
  obtain ⟨rest, on, on'⟩ := moves
  exact on'.1.trans (on.moved top').1.1.symm

end Path
end TexFlat
