import TexFlat.Text

/-!
# Slices of a text

A text can be cut at a byte at which a character begins or the text ends. `slice?` is what stands
between two bytes, and `isSome_slice?_iff` says when there is such a thing: the bytes are boundaries,
in order. Boundaries are the valid positions of the text as a string.
-/

namespace TexFlat.Text

variable {text front rest part : Text} {place start stop : Nat}

/-- The byte is a valid position of the text: a character begins there, or the text ends. -/
def IsBoundary (text : Text) (place : Nat) : Prop :=
  (String.Pos.Raw.mk place).IsValid (String.ofList text)

/-- What stands before a byte and what stands behind it. -/
def cut? : (place : Nat) → Text → Option (Text × Text)
  | 0, text => some ([], text)
  | _ + 1, [] => none
  | place + 1, c :: text =>
    if c.utf8Size ≤ place + 1 then
      (cut? (place + 1 - c.utf8Size) text).map fun (front, rest) => (c :: front, rest)
    else none

/-- What stands from one byte up to another. -/
def slice? (text : Text) (start stop : Nat) : Option Text :=
  if start ≤ stop then do
    let (_, rest) ← cut? start text
    let (part, _) ← cut? (stop - start) rest
    some part
  else none

/-! ### Bytes of a text -/

theorem utf8Length_cons (c : Char) (text : Text) :
    utf8Length (c :: text) = c.utf8Size + utf8Length text := rfl

theorem utf8Length_eq_zero_iff : utf8Length text = 0 ↔ text = [] := by
  cases text with
  | nil => simp [utf8Length]
  | cons c text =>
    have filled := Char.utf8Size_pos c
    simp only [utf8Length_cons, reduceCtorEq, iff_false]
    omega

/-- Of two cuts of one text, the later one goes on from where the other one is. -/
theorem exists_append_of_utf8Length_le {a b c d : Text} (whole : a ++ b = c ++ d)
    (sooner : utf8Length a ≤ utf8Length c) : ∃ between, c = a ++ between ∧ b = between ++ d := by
  rcases List.append_eq_append_iff.mp whole with ⟨between, later, behind⟩ | ⟨between, later, behind⟩
  · exact ⟨between, later, behind⟩
  · rw [later, utf8Length_append] at sooner
    obtain rfl : between = [] := utf8Length_eq_zero_iff.mp (by omega)
    exact ⟨[], by simpa using later.symm, by simpa using behind.symm⟩

theorem append_inj_of_utf8Length_eq {a b c d : Text} (whole : a ++ b = c ++ d)
    (same : utf8Length a = utf8Length c) : a = c ∧ b = d := by
  obtain ⟨between, rfl, rfl⟩ := exists_append_of_utf8Length_le whole (Nat.le_of_eq same)
  rw [utf8Length_append] at same
  obtain rfl : between = [] := utf8Length_eq_zero_iff.mp (by omega)
  exact ⟨(List.append_nil a).symm, rfl⟩

theorem utf8ByteSize_ofList (text : Text) : (String.ofList text).utf8ByteSize = utf8Length text := by
  induction text with
  | nil => rfl
  | cons c text ih =>
    rw [show c :: text = [c] ++ text from rfl, String.ofList_append, String.utf8ByteSize_append, ih,
      utf8Length_append]
    simp [utf8Length]

theorem isBoundary_iff :
    IsBoundary text place ↔ ∃ front rest, text = front ++ rest ∧ utf8Length front = place := by
  rw [IsBoundary, String.Pos.Raw.isValid_iff_exists_append]
  constructor
  · rintro ⟨front, rest, whole, same⟩
    refine ⟨front.toList, rest.toList, ?_, ?_⟩
    · rw [← String.toList_append, ← whole, String.toList_ofList]
    · rw [← utf8ByteSize_ofList, String.ofList_toList]
      exact (congrArg String.Pos.Raw.byteIdx same).symm
  · rintro ⟨front, rest, rfl, rfl⟩
    refine ⟨String.ofList front, String.ofList rest, String.ofList_append, ?_⟩
    rw [String.rawEndPos, utf8ByteSize_ofList]

/-! ### Cuts -/

theorem cut?_append (front rest : Text) : cut? (utf8Length front) (front ++ rest) = some (front, rest) := by
  induction front with
  | nil => cases rest <;> rfl
  | cons c front ih =>
    have filled := Char.utf8Size_pos c
    obtain ⟨bytes, size⟩ : ∃ bytes, utf8Length (c :: front) = bytes + 1 :=
      ⟨utf8Length (c :: front) - 1, by rw [utf8Length_cons]; omega⟩
    have fits : c.utf8Size ≤ bytes + 1 := by rw [← size, utf8Length_cons]; omega
    have left : bytes + 1 - c.utf8Size = utf8Length front := by rw [← size, utf8Length_cons]; omega
    rw [size, List.cons_append, cut?, if_pos fits, left, ih]
    rfl

theorem append_of_cut? (h : cut? place text = some (front, rest)) :
    text = front ++ rest ∧ utf8Length front = place := by
  induction text generalizing place front with
  | nil =>
    cases place with
    | zero =>
      obtain ⟨rfl, rfl⟩ := Prod.mk.inj (Option.some.inj h)
      exact ⟨rfl, rfl⟩
    | succ place => exact absurd h nofun
  | cons c text ih =>
    cases place with
    | zero =>
      obtain ⟨rfl, rfl⟩ := Prod.mk.inj (Option.some.inj h)
      exact ⟨rfl, rfl⟩
    | succ place =>
      rw [cut?] at h
      split at h
      · rename_i fits
        obtain ⟨⟨front, rest⟩, inner, same⟩ := Option.map_eq_some_iff.mp h
        obtain ⟨rfl, rfl⟩ := Prod.mk.inj same
        obtain ⟨rfl, size⟩ := ih inner
        refine ⟨rfl, ?_⟩
        rw [utf8Length_cons]
        omega
      · exact absurd h nofun

theorem cut?_eq_some_iff :
    cut? place text = some (front, rest) ↔ text = front ++ rest ∧ utf8Length front = place := by
  constructor
  · exact append_of_cut?
  · rintro ⟨rfl, rfl⟩
    exact cut?_append front rest

/-! ### Slices -/

theorem slice?_eq_some_iff : slice? text start stop = some part ↔ ∃ before behind,
    text = before ++ (part ++ behind) ∧ utf8Length before = start ∧ start + utf8Length part = stop := by
  rw [slice?]
  split
  · rename_i order
    simp only [Option.bind_eq_bind, Option.bind_eq_some_iff, Prod.exists, cut?_eq_some_iff,
      Option.some.injEq]
    constructor
    · rintro ⟨before, rest, ⟨rfl, start⟩, part, behind, ⟨rfl, size⟩, rfl⟩
      exact ⟨before, behind, rfl, start, by omega⟩
    · rintro ⟨before, behind, rfl, first, size⟩
      exact ⟨before, part ++ behind, ⟨rfl, first⟩, part, behind, ⟨rfl, by omega⟩, rfl⟩
  · rename_i disorder
    simp only [reduceCtorEq, false_iff]
    rintro ⟨-, -, -, -, size⟩
    omega

/-- There is a slice exactly where the two bytes are boundaries of the text, in order. -/
theorem isSome_slice?_iff : (slice? text start stop).isSome ↔
    start ≤ stop ∧ IsBoundary text start ∧ IsBoundary text stop := by
  simp only [Option.isSome_iff_exists, slice?_eq_some_iff, isBoundary_iff]
  constructor
  · rintro ⟨part, before, behind, rfl, rfl, rfl⟩
    refine ⟨Nat.le_add_right _ _, ⟨before, _, rfl, rfl⟩, before ++ part, behind, ?_, ?_⟩
    · rw [List.append_assoc]
    · rw [utf8Length_append]
  · rintro ⟨order, ⟨before, rest, rfl, rfl⟩, front, behind, whole, rfl⟩
    obtain ⟨part, rfl, rfl⟩ := exists_append_of_utf8Length_le whole order
    exact ⟨part, before, behind, rfl, rfl, (utf8Length_append before part).symm⟩

theorem IsBoundary.le (boundary : IsBoundary text place) : place ≤ utf8Length text := by
  obtain ⟨front, rest, rfl, rfl⟩ := isBoundary_iff.mp boundary
  rw [utf8Length_append]
  exact Nat.le_add_right _ _

/-- A byte within a character is no place to cut. -/
example : slice? "éab".toList 0 2 = some ['é'] ∧ slice? "éab".toList 1 3 = none := by decide +kernel

end TexFlat.Text
