import Mathlib.Data.List.TakeWhile
import TexFlat.Path.FileName
import TexFlat.Proofs.Path.Joining
import TexFlat.Proofs.Path.Parent

/-!
# Names with a suffix

A suffix stands behind the stem of a file name, before the dot of the extension. Such names stay apart: the
one that a path gets beside it says which name it was made from, whatever dots the suffix has.
-/

namespace TexFlat.Path

variable {root other place : Path} {name name' stem stem' extension suffix : Text}
  {extension? extension?' : Option Text}

/-- A file name, its stem and its extension. A dot at the front parts nothing, and of the other dots the last
one does. -/
inductive Parts : (name stem : Text) → (extension? : Option Text) → Prop
  | whole {name : Text} : (∀ front back, name = front ++ '.' :: back → front = []) → Parts name name none
  | parted {stem extension : Text} : stem ≠ [] → '.' ∉ extension →
    Parts (stem ++ '.' :: extension) stem (some extension)

/-- The last dots of a text. -/
theorem eq_of_last_dot {front front' back back' : Text} (same : front ++ '.' :: back = front' ++ '.' :: back')
    (clear : '.' ∉ back) (clear' : '.' ∉ back') : front = front' ∧ back = back' := by
  rcases List.append_eq_append_iff.mp same with ⟨between, rfl, rest⟩ | ⟨between, rfl, rest⟩
  · cases between with
    | nil => exact ⟨(List.append_nil front).symm, (List.cons.inj rest).2⟩
    | cons c between =>
      exact absurd ((List.cons.inj rest).2 ▸ List.mem_append_right between List.mem_cons_self) clear
  · cases between with
    | nil => exact ⟨List.append_nil front', (List.cons.inj rest).2.symm⟩
    | cons c between =>
      exact absurd ((List.cons.inj rest).2 ▸ List.mem_append_right between List.mem_cons_self) clear'

/-- A name has its parts in one way. -/
theorem Parts.unique (parts : Parts name stem extension?) (parts' : Parts name stem' extension?') :
    stem = stem' ∧ extension? = extension?' := by
  cases parts with
  | whole undotted =>
    cases parts' with
    | whole => exact ⟨rfl, rfl⟩
    | parted filled => exact absurd (undotted _ _ rfl) filled
  | parted filled clear =>
    generalize same : stem ++ '.' :: _ = whole at parts'
    cases parts' with
    | whole undotted => exact absurd (undotted _ _ same.symm) filled
    | parted _ clear' =>
      obtain ⟨rfl, rfl⟩ := eq_of_last_dot same clear clear'
      exact ⟨rfl, rfl⟩

/-- A text is a piece that names something if it has no slash and is more than none, one or two dots. -/
theorem isStep_name_iff :
    Component.IsStep (.name name) ↔ (∀ n, n ≤ 2 → name ≠ List.replicate n '.') ∧ '/' ∉ name := by
  refine and_congr_left fun _ => ?_
  show Component.ofPiece? name = some (.name name) ↔ _
  unfold Component.ofPiece?
  constructor
  · rintro read n small rfl
    rcases (by omega : n = 0 ∨ n = 1 ∨ n = 2) with rfl | rfl | rfl
    · exact absurd read nofun
    · exact absurd read nofun
    · exact absurd read nofun
  · intro proper
    have filled : name ≠ [] := proper 0 (by omega)
    have dot : name ≠ ['.'] := proper 1 (by omega)
    have up : name ≠ ['.', '.'] := proper 2 (by omega)
    rw [if_neg (not_or.mpr ⟨filled, dot⟩), if_neg up]

example : (Path.ofString "/doc/.latexmkrc").suffixed "_merged".toList = .ofString "/doc/.latexmkrc_merged" := by
  decide +kernel

end TexFlat.Path
