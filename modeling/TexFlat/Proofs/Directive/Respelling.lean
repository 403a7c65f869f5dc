import Mathlib.Data.List.Forall2
import TexFlat.Proofs.Directive.Reading

/-!
# Texts that differ in spelling

Two spellings of a directive have the same kind and name the same: blanks before an argument, what is
cleaned from it, and the longer of the two commands for an include are all that may differ. If texts that
differ in nothing else are tidy, they have readings that go together segment by segment.
-/

namespace TexFlat.Directive

/-- Two spellings of one directive. -/
structure Same (d d' : Directive) : Prop where
  kind : d.kind = d'.kind
  directory : d.directory = d'.directory
  name : d.name = d'.name

variable {d d' : Directive} {text text' front rest : Text} {c : Char} {kind : Kind}

theorem Same.symm (same : d.Same d') : d'.Same d := ⟨same.kind.symm, same.directory.symm, same.name.symm⟩

theorem same_refl (d : Directive) : d.Same d := ⟨rfl, rfl, rfl⟩

theorem Same.reference_eq (same : d.Same d') : d.reference = d'.reference := by
  rw [reference, reference, same.directory, same.name]

theorem Same.searchDir_eq (same : d.Same d') (base : Path) : d.searchDir base = d'.searchDir base := by
  rw [searchDir, searchDir, same.directory]

/-- The texts are one text but for the spelling of directives. -/
inductive Respelled : Text → Text → Prop
  | nil : Respelled [] []
  | char {text text' : Text} (c : Char) : Respelled text text' → Respelled (c :: text) (c :: text')
  | directive {d d' : Directive} {text text' : Text} : Spelled d → Spelled d' → d.Same d' →
    Respelled text text' → Respelled (d.source ++ text) (d'.source ++ text')

theorem respelled_refl (text : Text) : Respelled text text := by
  induction text with
  | nil => exact .nil
  | cons c text ih => exact .char c ih

theorem Respelled.prepend (respelled : Respelled text text') (front : Text) :
    Respelled (front ++ text) (front ++ text') := by
  induction front with
  | nil => exact respelled
  | cons c front ih => exact .char c ih

theorem Respelled.symm (respelled : Respelled text text') : Respelled text' text := by
  induction respelled with
  | nil => exact .nil
  | char c _ ih => exact .char c ih
  | directive spelled spelled' same _ ih => exact .directive spelled' spelled same.symm ih

/-! ### One reading for both -/

/-- A text without a backslash has no other spelling. -/
theorem Respelled.of_append (respelled : Respelled (front ++ text) text') (absent : '\\' ∉ front) :
    ∃ rest, text' = front ++ rest ∧ Respelled text rest := by
  induction front generalizing text' with
  | nil => exact ⟨text', rfl, respelled⟩
  | cons c front ih =>
    generalize whole : c :: front ++ text = both at respelled
    cases respelled with
    | nil => exact absurd whole nofun
    | char c' respelled =>
      obtain ⟨rfl, rfl⟩ := List.cons.inj whole
      obtain ⟨rest, rfl, behind⟩ := ih respelled (List.not_mem_of_not_mem_cons absent)
      exact ⟨rest, rfl, behind⟩
    | directive spelled =>
      obtain ⟨tail, source, -⟩ := spelled.source_eq
      rw [source] at whole
      have first : c = '\\' := (List.cons.inj whole).1
      exact absurd (first ▸ List.mem_cons_self) absent

/-- A directive of which the first character is common to both texts is common to both. -/
theorem Respelled.of_char (respelled : Respelled text text') (spelled : Spelled d)
    (whole : c :: text = d.source ++ rest) :
    ∃ rest', c :: text' = d.source ++ rest' ∧ Respelled rest rest' := by
  obtain ⟨tail, source, absent⟩ := spelled.source_eq
  have plain : '\\' ∉ d.kind.word ++ tail :=
    List.not_mem_append (fun member => absurd (isAlpha_of_mem_word member) (by decide)) absent
  rw [source] at whole ⊢
  obtain ⟨rfl, rfl⟩ := List.cons.inj whole
  obtain ⟨rest', rfl, behind⟩ := respelled.of_append plain
  exact ⟨rest', rfl, behind⟩

theorem Respelled.not_begins (respelled : Respelled text text') (single : ∀ kind, ¬ Begins kind (c :: text)) :
    ∀ kind, ¬ Begins kind (c :: text') := by
  rintro kind ⟨d, rest, spelled, same, whole⟩
  obtain ⟨rest', whole', -⟩ := respelled.symm.of_char spelled whole
  exact single kind ⟨d, rest', spelled, same, whole'⟩

/-- Segments that go together. -/
inductive Matches : Segment → Segment → Prop
  | char (c : Char) : Matches (.char c) (.char c)
  | directive {d d' : Directive} : d.Same d' → Matches (.directive d) (.directive d')

theorem Respelled.exists_settled (respelled : Respelled text text') (tidy : Tidy text) (tidy' : Tidy text') :
    ∃ segments segments', Settled segments ∧ Settled segments' ∧ lexemes segments = text ∧
      lexemes segments' = text' ∧ List.Forall₂ Matches segments segments' := by
  generalize size : text.length = n
  induction n using Nat.strongRecOn generalizing text text' with
  | ind n ih =>
    have step {d d' : Directive} {rest rest' : Text} (spelled : Spelled d) (spelled' : Spelled d')
        (same : d.Same d') (whole : text = d.source ++ rest) (whole' : text' = d'.source ++ rest')
        (behind : Respelled rest rest') : ∃ segments segments', Settled segments ∧ Settled segments' ∧
          lexemes segments = text ∧ lexemes segments' = text' ∧ List.Forall₂ Matches segments segments' := by
      subst whole whole'
      obtain ⟨segments, segments', settled, settled', read, read', pairs⟩ :=
        ih rest.length (size ▸ spelled.length_lt rest) behind
          (tidy.of_suffix (List.suffix_append _ _)) (tidy'.of_suffix (List.suffix_append _ _)) rfl
      refine ⟨.directive d :: segments, .directive d' :: segments', ⟨spelled, settled⟩, ⟨spelled', settled'⟩,
        ?_, ?_, .cons (.directive same) pairs⟩
      · rw [lexemes_cons, read]
        rfl
      · rw [lexemes_cons, read']
        rfl
    cases respelled with
    | nil => exact ⟨[], [], trivial, trivial, rfl, rfl, .nil⟩
    | directive spelled spelled' same behind => exact step spelled spelled' same rfl rfl behind
    | @char text text' c respelled =>
      by_cases begins : ∃ kind, Begins kind (c :: text)
      · obtain ⟨kind, d, rest, spelled, -, whole⟩ := begins
        obtain ⟨rest', whole', behind⟩ := respelled.of_char spelled whole
        exact step spelled spelled (same_refl d) whole whole' behind
      · have single : ∀ kind, ¬ Begins kind (c :: text) := fun kind here => begins ⟨kind, here⟩
        have shorter : text.length < n := by rw [← size]; exact Nat.lt_succ_self _
        obtain ⟨segments, segments', settled, settled', rfl, rfl, pairs⟩ := ih _ shorter respelled
          (tidy.of_suffix (List.suffix_cons c text)) (tidy'.of_suffix (List.suffix_cons c text')) rfl
        exact ⟨.char c :: segments, .char c :: segments', tidy.settled_char single settled rfl,
          tidy'.settled_char (respelled.not_begins single) settled' rfl, rfl, rfl, .cons (.char c) pairs⟩

/-! ### Occurrences that go together -/

theorem forall₂_occurrencesFrom {segments segments' : List Segment}
    (pairs : List.Forall₂ Matches segments segments') (place place' : Nat) :
    List.Forall₂ (fun o o' => o.directive.Same o'.directive) (occurrencesFrom place segments)
      (occurrencesFrom place' segments') := by
  induction pairs generalizing place place' with
  | nil => exact .nil
  | cons first _ ih =>
    cases first with
    | char c => exact ih _ _
    | directive same => exact .cons same (ih _ _)

end TexFlat.Directive
