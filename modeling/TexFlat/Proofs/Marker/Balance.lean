import TexFlat.Proofs.Marker.Lines

/-!
# Balanced marks

Marks are balanced if each block ends after those that begin in it, with the kind and the reference
it began with. `balanced_iff_closes` says that this is what one finds who reads the marks in order and
keeps a stack of the blocks that are open.
-/

namespace TexFlat.Marker

open Directive (Kind)

/-- Marks in pairs that agree, one pair behind the other or inside it, with at most so many levels. -/
inductive Balanced : (levels : Nat) → List Mark → Prop
  | none {levels : Nat} : Balanced levels []
  | pair {levels : Nat} (kind : Kind) (reference : Text) {inner others : List Mark} :
    Balanced levels inner → Balanced (levels + 1) others →
    Balanced (levels + 1) (⟨.start, kind, reference⟩ :: inner ++ ⟨.stop, kind, reference⟩ :: others)

variable {levels room : Nat} {opened : List (Kind × Text)} {first second rest : List Mark}

theorem Balanced.append (balanced : Balanced levels first) (balanced' : Balanced levels second) :
    Balanced levels (first ++ second) := by
  induction balanced with
  | none => exact balanced'
  | pair kind reference inside _ _ ih =>
    rw [List.append_assoc, List.cons_append]
    exact .pair kind reference inside (ih balanced')

/-- Whether the marks close the blocks that are open, the innermost first, and all that they open. -/
def closes (levels : Nat) : (opened : List (Kind × Text)) → List Mark → Bool
  | opened, [] => opened.isEmpty
  | opened, ⟨.start, kind, reference⟩ :: rest =>
    opened.length < levels && closes levels ((kind, reference) :: opened) rest
  | opened, ⟨.stop, kind, reference⟩ :: rest =>
    opened.head? = some (kind, reference) && closes levels opened.tail rest

theorem Balanced.closes_append (balanced : Balanced room first) (fits : opened.length + room ≤ levels)
    (rest : List Mark) : closes levels opened (first ++ rest) = closes levels opened rest := by
  induction balanced generalizing opened rest with
  | none => rfl
  | @pair room kind reference _ _ _ _ ih ih' =>
    have free : opened.length < levels := by omega
    have deeper : ((kind, reference) :: opened).length + room ≤ levels := by
      rw [List.length_cons]
      omega
    rw [List.append_assoc, List.cons_append, List.cons_append, closes, ih deeper, closes, List.tail_cons,
      ih' fits]
    simp [free]

/-- Marks that close what is open are balanced up to the one that closes the innermost block. -/
theorem exists_balanced_of_closes {marks : List Mark} (h : closes levels opened marks = true) :
    ∃ inner rest, marks = inner ++ rest ∧ Balanced (levels - opened.length) inner ∧
      (opened = [] ∧ rest = [] ∨ ∃ kind reference outer behind, opened = (kind, reference) :: outer ∧
        rest = ⟨.stop, kind, reference⟩ :: behind ∧ closes levels outer behind = true) := by
  obtain ⟨size, bound⟩ : ∃ size, marks.length ≤ size := ⟨_, Nat.le_refl _⟩
  -- Behind a block the induction goes on with what is left, which is no tail of the marks.
  induction size generalizing marks opened with
  | zero =>
    obtain rfl := List.length_eq_zero_iff.mp (Nat.le_zero.mp bound)
    exact ⟨[], [], rfl, .none, .inl ⟨List.isEmpty_iff.mp h, rfl⟩⟩
  | succ size ih =>
    cases marks with
    | nil => exact ⟨[], [], rfl, .none, .inl ⟨List.isEmpty_iff.mp h, rfl⟩⟩
    | cons mark marks =>
      obtain ⟨side, kind, reference⟩ := mark
      rw [List.length_cons] at bound
      cases side with
      | start =>
        rw [closes, Bool.and_eq_true, decide_eq_true_eq] at h
        obtain ⟨free, h⟩ := h
        obtain ⟨inner, _, rfl, inside, ⟨open', -⟩ | ⟨_, _, _, behind, open', rfl, h⟩⟩ := ih h (by omega)
        · exact absurd open' nofun
        obtain ⟨⟨rfl, rfl⟩, rfl⟩ : (kind = _ ∧ reference = _) ∧ opened = _ := by simpa using open'
        rw [List.length_append, List.length_cons] at bound
        obtain ⟨others, rest, rfl, after, closed⟩ := ih h (by omega)
        have room : levels - opened.length = levels - (opened.length + 1) + 1 := by omega
        rw [room] at after ⊢
        refine ⟨⟨.start, kind, reference⟩ :: inner ++ ⟨.stop, kind, reference⟩ :: others, rest, by simp,
          .pair kind reference inside after, closed⟩
      | stop =>
        rw [closes, Bool.and_eq_true, decide_eq_true_eq] at h
        obtain ⟨outer, rfl⟩ := List.head?_eq_some_iff.mp h.1
        exact ⟨[], _, rfl, .none, .inr ⟨kind, reference, outer, marks, rfl, rfl, h.2⟩⟩

theorem balanced_iff_closes {marks : List Mark} : Balanced levels marks ↔ closes levels [] marks = true := by
  constructor
  · intro balanced
    have fits : ([] : List (Kind × Text)).length + levels ≤ levels := by simp
    have whole : closes levels [] (marks ++ []) = true := balanced.closes_append fits []
    rwa [List.append_nil] at whole
  · intro h
    obtain ⟨inner, rest, rfl, balanced, ⟨-, rfl⟩ | ⟨_, _, _, _, open', -⟩⟩ := exists_balanced_of_closes h
    · rwa [List.append_nil]
    · exact absurd open' nofun

instance (levels : Nat) (marks : List Mark) : Decidable (Balanced levels marks) :=
  decidable_of_iff _ balanced_iff_closes.symm

end TexFlat.Marker
