import Mathlib.Data.List.TakeWhile
import TexFlat.Proofs.Directive.Tidy

/-!
# What a scan finds

A scan finds a directive where `at?` reads one at the front of what is left. An import or an include
ends with the brace that closes its last argument, and is read whatever stands behind it.
-/

namespace TexFlat.Directive

variable {kind : Kind} {text : Text} {d : Directive}

theorem segments_induction (kind : Kind) {motive : Text → Prop} (nil : motive [])
    (char : ∀ c text, at? kind (c :: text) = none → motive text → motive (c :: text))
    (directive : ∀ d rest, at? kind (d.source ++ rest) = some d → motive rest →
      motive (d.source ++ rest)) (text : Text) : motive text := by
  generalize size : text.length = n
  induction n using Nat.strongRecOn generalizing text with
  | ind n ih =>
    cases text with
    | nil => exact nil
    | cons c text =>
      cases found : at? kind (c :: text) with
      | none => exact char c text found (ih text.length (by simp [← size]) text rfl)
      | some d =>
        obtain ⟨rest, whole⟩ := source_append_of_at? found
        have filled := List.length_pos_iff.mpr (source_ne_nil_of_at? found)
        have shorter : rest.length < n := by
          rw [← size, ← whole, List.length_append]
          omega
        rw [← whole] at found ⊢
        exact directive d rest found (ih rest.length shorter rest rfl)

theorem ofText_cons {c : Char} (none : at? kind (c :: text) = none) :
    ofText kind (c :: text) = ofText kind text := by
  unfold ofText
  rw [segments_cons none]
  rfl

theorem ofText_append {rest : Text} (found : at? kind (d.source ++ rest) = some d) :
    ofText kind (d.source ++ rest) = d :: ofText kind rest := by
  unfold ofText
  rw [segments_of_at? found rfl]
  rfl

theorem exists_at?_of_mem_ofText (h : d ∈ ofText kind text) :
    ∃ rest, rest <:+ text ∧ at? kind rest = some d := by
  induction text using segments_induction kind with
  | nil => exact absurd h List.not_mem_nil
  | char c text none ih =>
    rw [ofText_cons none] at h
    obtain ⟨rest, behind, found⟩ := ih h
    exact ⟨rest, behind.trans (List.suffix_cons c text), found⟩
  | directive other rest found ih =>
    rw [ofText_append found] at h
    rcases List.mem_cons.mp h with rfl | h
    · exact ⟨_, List.suffix_refl _, found⟩
    · obtain ⟨later, behind, found⟩ := ih h
      exact ⟨later, behind.trans (List.suffix_append _ _), found⟩

/-- If nothing is found in a text, nothing is read anywhere in it. -/
theorem at?_eq_none_of_ofText_eq_nil (nothing : ofText kind text = []) :
    ∀ rest, rest <:+ text → at? kind rest = none := by
  induction text with
  | nil =>
    intro rest behind
    rw [List.suffix_nil.mp behind]
    cases kind <;> rfl
  | cons c text ih =>
    intro rest behind
    have first : at? kind (c :: text) = none := by
      cases found : at? kind (c :: text) with
      | none => rfl
      | some d =>
        obtain ⟨more, whole⟩ := source_append_of_at? found
        rw [← whole] at found nothing
        rw [ofText_append found] at nothing
        exact absurd nothing (List.cons_ne_nil _ _)
    rcases suffix_cons_cases behind with rfl | behind
    · exact first
    · rw [ofText_cons first] at nothing
      exact ih nothing rest behind

/-! ### What is read -/

theorem kind_of_at? (h : at? kind text = some d) :
    d.kind = kind ∧ (d.directory.isSome ↔ d.kind = .importFile) := by
  cases kind with
  | inputFile =>
    simp only [at?, inputAt?, Option.bind_eq_bind, Option.bind_eq_some_iff, Option.some.injEq] at h
    obtain ⟨_, _, _, _, rfl⟩ := h
    simp
  | importFile =>
    simp only [at?, importAt?, Option.bind_eq_bind, Option.bind_eq_some_iff, Option.some.injEq] at h
    obtain ⟨_, _, _, _, _, _, rfl⟩ := h
    simp
  | includeFile =>
    simp only [at?, includeAt?, Option.bind_eq_bind, Option.bind_eq_some_iff, Option.some.injEq] at h
    obtain ⟨_, _, _, _, rfl⟩ := h
    simp

theorem braced?_eq_some {s : Stretch} (h : braced? text = some s) :
    Argument s.value ∧ s.source = braced s.value := by
  cases text with
  | nil => simp [braced?] at h
  | cons c text =>
    simp only [braced?] at h
    split at h
    · simp at h
    · rename_i close rest found
      split at h
      · rename_i opened
        obtain ⟨rfl, filled⟩ := opened
        obtain rfl := Option.some.inj h
        have closed : close = '}' := by
          have first := List.head?_dropWhile_not (· ≠ '}') text
          rw [found] at first
          simpa using first
        refine ⟨⟨filled, fun member => ?_⟩, by rw [closed]; rfl⟩
        have apart := List.mem_takeWhile_imp member
        simp at apart
      · simp at h

theorem spaced?_braced?_eq_some {s : Stretch} (h : spaced? braced? text = some s) :
    Argument s.value ∧ ∃ blanks, Blank blanks ∧ s.source = blanks ++ braced s.value := by
  obtain ⟨found, read, rfl⟩ := Option.map_eq_some_iff.mp h
  obtain ⟨argument, source⟩ := braced?_eq_some read
  refine ⟨argument, text.takeWhile Text.isBlank, fun c member => List.mem_takeWhile_imp member, ?_⟩
  simp only [source]

theorem bracketed_of_at? (notInput : kind ≠ .inputFile) (h : at? kind text = some d) : Bracketed d := by
  cases kind with
  | inputFile => exact absurd rfl notInput
  | importFile =>
    simp only [at?, importAt?, Option.bind_eq_bind, Option.bind_eq_some_iff, Option.some.injEq] at h
    obtain ⟨rest, -, directory, first, name, second, rfl⟩ := h
    obtain ⟨argument, blanks, blank, source⟩ := spaced?_braced?_eq_some first
    obtain ⟨argument', between, blank', source'⟩ := spaced?_braced?_eq_some second
    rw [source, source']
    exact .importFile blank argument blank' argument'
  | includeFile =>
    simp only [at?, includeAt?, Option.bind_eq_bind, Option.bind_eq_some_iff, Option.some.injEq] at h
    obtain ⟨rest, -, name, read, rfl⟩ := h
    obtain ⟨argument, blanks, blank, source⟩ := spaced?_braced?_eq_some read
    have spelling : onlyWord rest = [] ∨ onlyWord rest = "only".toList := by
      unfold onlyWord
      split
      · exact .inr rfl
      · exact .inl rfl
    rw [source]
    exact .includeFile spelling blank argument

theorem Bracketed.source_eq (bracketed : Bracketed d) : ∃ front, d.source = front ++ ['}'] := by
  cases bracketed with
  | importFile blank argument blank' argument' =>
    rename_i blanks between directory name
    exact ⟨command .importFile ++ (blanks ++ braced directory ++ (between ++ '{' :: name)), by simp [braced]⟩
  | includeFile spelling blank argument =>
    rename_i only blanks name
    exact ⟨command .includeFile ++ (only ++ (blanks ++ '{' :: name)), by simp [braced]⟩

end TexFlat.Directive
