import Mathlib.Data.List.Induction
import TexFlat.Proofs.Path.FileName
import TexFlat.Proofs.Path.Moving

/-!
# The spelling of normal paths

A normal path is spelled by file names with a slash between each two, behind one more slash if it is absolute.
Joining a name to such a path and taking its parent lead to such paths again, to the letter. So a path is made
normal by a walk along its components that never leaves them, `Path.advance` being its step, and they are the
paths that are normal already.
-/

namespace TexFlat

namespace Text

theorem suffix_join_concat (separator : Char) (parts : List Text) (last : Text) :
    last <:+ join separator (parts ++ [last]) := by
  by_cases none : parts = []
  · rw [none]
    exact List.suffix_refl last
  · rw [join_concat none]
    exact (List.suffix_cons separator last).trans (List.suffix_append _ _)

end Text

namespace Path

variable {place : Path} {absolute : Bool} {name : Text} {names : List Text} {c : Component}
  {steps trail : List Component}

/-- A text that can be the name of a file: a single piece, and not one that stands for nothing or for a
climb. -/
structure IsFileName (name : Text) : Prop where
  filled : name ≠ []
  not_here : name ≠ ['.']
  not_up : name ≠ ['.', '.']
  flat : '/' ∉ name

theorem isFileName_iff : IsFileName name ↔ Component.IsStep (.name name) := by
  rw [isStep_name_iff]
  constructor
  · intro proper
    refine ⟨fun n small => ?_, proper.flat⟩
    rcases (by omega : n = 0 ∨ n = 1 ∨ n = 2) with rfl | rfl | rfl
    · exact proper.filled
    · exact proper.not_here
    · exact proper.not_up
  · rintro ⟨dots, flat⟩
    exact ⟨dots 0 (by omega), dots 1 (by omega), dots 2 (by omega), flat⟩

/-- The path that these names spell, behind the root or not. -/
def spelled (absolute : Bool) (names : List Text) : Path :=
  ⟨(if absolute then ['/'] else []) ++ Text.join '/' names⟩

/-- The components that such a path has. -/
def namedComponents (absolute : Bool) (names : List Text) : List Component :=
  (if absolute then [.root] else []) ++ names.map .name

theorem namedComponents_concat (absolute : Bool) (names : List Text) (name : Text) :
    namedComponents absolute (names ++ [name]) = namedComponents absolute names ++ [.name name] := by
  rw [namedComponents, List.map_append, ← List.append_assoc]
  rfl

theorem normal_namedComponents (proper : ∀ name ∈ names, IsFileName name) :
    Normal (namedComponents absolute names) := by
  refine ⟨if absolute then [.root] else [], names.map .name, rfl, ?_, ?_⟩
  · cases absolute with
    | false => exact .inl rfl
    | true => exact .inr rfl
  · rw [List.forall_mem_map]
    exact fun name member => ⟨isFileName_iff.mp (proper name member), name, rfl⟩

/-! ### Joining a name -/

theorem spelled_ends (last : IsFileName name) (absolute : Bool) (names : List Text) :
    (spelled absolute (names ++ [name])).text ≠ [] ∧
      (spelled absolute (names ++ [name])).text.getLast? ≠ some '/' := by
  obtain ⟨front, whole⟩ : name <:+ (spelled absolute (names ++ [name])).text :=
    (Text.suffix_join_concat '/' names name).trans (List.suffix_append _ _)
  rw [← whole]
  exact ⟨List.append_ne_nil_of_right_ne_nil _ last.filled, getLast?_append_clear last.filled last.flat⟩

theorem spelled_concat (proper : ∀ name ∈ names, IsFileName name) (last : IsFileName name) :
    spelled absolute (names ++ [name]) = (spelled absolute names).join ⟨name⟩ := by
  have relative : Path.isAbsolute ⟨name⟩ = false := (isFileName_iff.mp last).isAbsolute_eq_false
  cases names using List.reverseRecOn with
  | nil =>
    cases absolute with
    | false => exact (join_of_empty rfl).symm
    | true =>
      have joined : (join ⟨['/']⟩ ⟨name⟩).text = ['/'] ++ name := text_join_of_closed relative rfl
      exact congrArg Path.mk joined.symm
  | append_singleton front before =>
    have filled : front ++ [before] ≠ [] := List.append_ne_nil_of_right_ne_nil _ (List.cons_ne_nil _ _)
    obtain ⟨nonempty, ends⟩ := spelled_ends (proper before (by simp)) absolute front
    have joined := text_join_of_open relative nonempty ends
    have spelling : (spelled absolute (front ++ [before] ++ [name])).text =
        (spelled absolute (front ++ [before])).text ++ '/' :: name := by
      rw [spelled, Text.join_concat filled, ← List.append_assoc]
      rfl
    exact congrArg Path.mk (spelling.trans joined.symm)

theorem ofComponents_concat (components : List Component) (c : Component) :
    ofComponents (components ++ [c]) = (ofComponents components).join ⟨c.text⟩ := by
  rw [ofComponents, List.foldl_append]
  rfl

theorem ofComponents_namedComponents (proper : ∀ name ∈ names, IsFileName name) :
    ofComponents (namedComponents absolute names) = spelled absolute names := by
  induction names using List.reverseRecOn with
  | nil =>
    cases absolute with
    | false => rfl
    | true => rfl
  | append_singleton front last ih =>
    rw [List.forall_mem_append, List.forall_mem_singleton] at proper
    rw [namedComponents_concat, ofComponents_concat, ih proper.1, spelled_concat proper.1 proper.2]
    rfl

theorem components_spelled (proper : ∀ name ∈ names, IsFileName name) :
    (spelled absolute names).components = namedComponents absolute names := by
  rw [← ofComponents_namedComponents proper, components_ofComponents (normal_namedComponents proper).orderly]

theorem normalize_spelled (proper : ∀ name ∈ names, IsFileName name) :
    (spelled absolute names).normalize = spelled absolute names := by
  rw [normalize, components_spelled proper, normalComponents_eq_self (normal_namedComponents proper).direct,
    ofComponents_namedComponents proper]

theorem isAbsolute_spelled (proper : ∀ name ∈ names, IsFileName name) :
    (spelled absolute names).isAbsolute = absolute := by
  cases absolute with
  | true => rfl
  | false =>
    refine Bool.eq_false_iff.mpr fun begins => ?_
    have split := components_of_isAbsolute begins
    rw [components_spelled proper] at split
    have member : .root ∈ namedComponents false names := split ▸ List.mem_cons_self
    obtain ⟨name, -, same⟩ := List.mem_map.mp member
    exact absurd same nofun

/-! ### The parent -/

theorem parent?_spelled_nil (absolute : Bool) : (spelled absolute []).parent? = none := by
  cases absolute with
  | false => rfl
  | true => rfl

theorem trimPieces_of_names (proper : ∀ name ∈ names, IsFileName name) : trimPieces names = names := by
  cases names using List.reverseRecOn with
  | nil => rfl
  | append_singleton front last =>
    exact trimPieces_concat (isFileName_iff.mp (proper last (by simp))).1 front

theorem parent?_spelled_concat (proper : ∀ name ∈ names, IsFileName name) (last : IsFileName name) :
    (spelled absolute (names ++ [name])).parent? = some (spelled absolute names) := by
  have clear : ∀ piece ∈ names ++ [name], '/' ∉ piece := by
    rw [List.forall_mem_append, List.forall_mem_singleton]
    exact ⟨fun piece member => (proper piece member).flat, last.flat⟩
  have filled : names ++ [name] ≠ [] := List.append_ne_nil_of_right_ne_nil _ (List.cons_ne_nil _ _)
  have cut := Text.pieces_join filled clear
  have kept (front : List Text) : trimPieces (front ++ [name]) = front ++ [name] :=
    trimPieces_concat (isFileName_iff.mp last).1 front
  unfold parent?
  -- The first piece is the empty one in front of the root's slash, or else the first name.
  cases absolute with
  | true =>
    have spelling : (spelled true (names ++ [name])).text = '/' :: Text.join '/' (names ++ [name]) := rfl
    rw [spelling, Text.pieces_cons_separator, cut]
    dsimp only
    rw [kept, if_neg filled, List.dropLast_concat, trimPieces_of_names proper]
    cases names with
    | nil => rfl
    | cons first others => exact if_neg fun both => absurd both.2 (List.cons_ne_nil _ _)
  | false =>
    have spelling : (spelled false (names ++ [name])).text = Text.join '/' (names ++ [name]) := rfl
    rw [spelling, cut]
    cases names with
    | nil => exact if_neg last.filled
    | cons first others =>
      rw [List.forall_mem_cons] at proper
      dsimp only [List.cons_append]
      rw [kept, if_neg (List.append_ne_nil_of_right_ne_nil _ (List.cons_ne_nil _ _)), List.dropLast_concat,
        trimPieces_of_names proper.2]
      exact if_neg fun both => proper.1.filled both.1

/-! ### The walk -/

/-- The path that one more component leads to: a climb leads to the parent, if there is one, and the root or a
name is joined. -/
def advance (place : Path) : Component → Path
  | .here => place
  | .up => place.parent?.getD place
  | c => place.join ⟨c.text⟩

/-- A walk on paths and a walk on components stand at the same names. -/
def Stands (absolute : Bool) (place : Path) (trail : List Component) : Prop :=
  ∃ names, (∀ name ∈ names, IsFileName name) ∧ place = spelled absolute names ∧
    trail = (namedComponents absolute names).reverse

theorem Stands.advance (stands : Stands absolute place trail) (step : c.IsStep) :
    Stands absolute (place.advance c) (c.follow trail) := by
  obtain ⟨names, proper, rfl, rfl⟩ := stands
  cases c with
  | root => exact absurd step.2 (by decide)
  | here => exact ⟨names, proper, rfl, rfl⟩
  | name text =>
    have last : IsFileName text := isFileName_iff.mpr step
    refine ⟨names ++ [text], ?_, (spelled_concat proper last).symm, ?_⟩
    · rw [List.forall_mem_append, List.forall_mem_singleton]
      exact ⟨proper, last⟩
    · rw [namedComponents_concat, List.reverse_concat]
      rfl
  | up =>
    cases names using List.reverseRecOn with
    | nil =>
      -- The climb is lost on both sides: there is no parent, and no name on the trail.
      refine ⟨[], proper, ?_, ?_⟩
      · rw [Path.advance, parent?_spelled_nil]
        rfl
      · cases absolute with
        | false => rfl
        | true => rfl
    | append_singleton front last =>
      rw [List.forall_mem_append, List.forall_mem_singleton] at proper
      refine ⟨front, proper.1, ?_, ?_⟩
      · rw [Path.advance, parent?_spelled_concat proper.1 proper.2]
        rfl
      · rw [namedComponents_concat, List.reverse_concat]
        rfl

theorem Stands.foldl_advance (stands : Stands absolute place trail) (all : ∀ c ∈ steps, c.IsStep) :
    Stands absolute (steps.foldl Path.advance place) (steps.foldl Component.follow trail) := by
  induction steps generalizing place trail with
  | nil => exact stands
  | cons c steps ih =>
    rw [List.forall_mem_cons] at all
    exact ih (stands.advance all.1) all.2

theorem stands_lead (path : Path) :
    Stands path.isAbsolute (path.lead.foldl advance ⟨[]⟩) (path.lead.foldl Component.follow []) := by
  cases absolute : path.isAbsolute with
  | true =>
    rw [lead_of_isAbsolute absolute]
    exact ⟨[], List.forall_mem_nil _, rfl, rfl⟩
  | false =>
    have start : Stands false ⟨[]⟩ [] := ⟨[], List.forall_mem_nil _, rfl, rfl⟩
    rcases lead_of_relative absolute with none | here
    · rw [none]
      exact start
    · rw [here]
      exact start

theorem stands_components (path : Path) :
    Stands path.isAbsolute (path.components.foldl advance ⟨[]⟩)
      (path.components.foldl Component.follow []) := by
  rw [components_eq, List.foldl_append, List.foldl_append]
  exact (stands_lead path).foldl_advance fun _ => isStep_of_mem_steps

theorem exists_spelled (path : Path) :
    ∃ names, (∀ name ∈ names, IsFileName name) ∧ path.normalize = spelled path.isAbsolute names ∧
      path.components.foldl advance ⟨[]⟩ = spelled path.isAbsolute names := by
  obtain ⟨names, proper, place, trail⟩ := stands_components path
  refine ⟨names, proper, ?_, place⟩
  rw [normalize, normalComponents, trail, List.reverse_reverse, ofComponents_namedComponents proper]

/-- The normal form of a path is spelled by file names with a slash between each two, so that no piece of it is
empty, a dot or a climb, and it is absolute exactly if the path is. It is its own normal form, and so are just
the paths that are spelled in this way. A join to it has the same normal form as a join to the path. The walk
along the components, with a join for each name and the parent for each climb, leads to it. -/
theorem normalize_canonical (a b : Path) :
    (∃ names, (∀ name ∈ names, IsFileName name) ∧ a.normalize = spelled a.isAbsolute names) ∧
      a.normalize.isAbsolute = a.isAbsolute ∧
      a.normalize.normalize = a.normalize ∧
      (a.join b).normalize = (a.normalize.join b).normalize ∧
      a.normalize = a.components.foldl advance ⟨[]⟩ ∧
      (a.normalize = a ↔ ∃ absolute names, (∀ name ∈ names, IsFileName name) ∧ a = spelled absolute names) := by
  obtain ⟨names, proper, normal, walked⟩ := exists_spelled a
  refine ⟨⟨names, proper, normal⟩, ?_, normalize_normalize a, ?_, normal.trans walked.symm, ?_⟩
  · rw [normal, isAbsolute_spelled proper]
  · exact normalize_join_congr (normalize_normalize a).symm b
  · constructor
    · intro same
      exact ⟨a.isAbsolute, names, proper, same.symm.trans normal⟩
    · rintro ⟨absolute, names, proper, rfl⟩
      exact normalize_spelled proper

example : (Path.ofString "./a//../../b/./").normalize = .ofString "b" := by decide +kernel

end Path
end TexFlat
