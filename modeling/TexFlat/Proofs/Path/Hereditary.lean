import TexFlat.Proofs.Path.Normal

/-!
# What paths hand on

A hereditary property holds of two texts with a slash between them exactly if it holds of both. If the
paths that a path is made of have it, then so do their join, the normal form and the directory: these add
nothing but slashes and dots.
-/

namespace TexFlat

namespace Text

theorem infix_join_of_mem {separator : Char} {pieces : List Text} {piece : Text}
    (h : piece ∈ pieces) : piece <:+: join separator pieces := by
  induction pieces with
  | nil => exact absurd h List.not_mem_nil
  | cons first others ih =>
    cases others with
    | nil => exact List.mem_singleton.mp h ▸ List.infix_refl piece
    | cons next others =>
      rcases List.mem_cons.mp h with rfl | h
      · exact (List.prefix_append _ _).isInfix
      · have later : join separator (next :: others) <:+
            first ++ separator :: join separator (next :: others) :=
          ⟨first ++ [separator], by simp⟩
        exact (ih h).trans later.isInfix

theorem infix_of_mem_pieces {separator : Char} {text piece : Text}
    (h : piece ∈ pieces separator text) : piece <:+: text := by
  have inside := @infix_join_of_mem separator _ _ h
  rwa [join_pieces] at inside

end Text

namespace Path

theorem Component.mem_of_mem_follow {trail : List Component} {c other : Component}
    (h : other ∈ c.follow trail) : other = c ∨ other ∈ trail := by
  cases c with
  | root | name => exact List.mem_cons.mp h
  | here => exact .inr h
  | up =>
    cases trail with
    | nil => exact .inr h
    | cons last above =>
      cases last with
      | name => exact .inr (List.mem_cons_of_mem _ h)
      | _ => exact .inr h

theorem mem_of_mem_normalComponents {components : List Component} {c : Component}
    (h : c ∈ normalComponents components) : c ∈ components := by
  have walked (steps trail : List Component) (member : c ∈ steps.foldl Component.follow trail) :
      c ∈ steps ∨ c ∈ trail := by
    induction steps generalizing trail with
    | nil => exact .inr member
    | cons step steps ih =>
      rcases ih _ member with member | member
      · exact .inl (List.mem_cons_of_mem step member)
      · rcases Component.mem_of_mem_follow member with rfl | member
        · exact .inl List.mem_cons_self
        · exact .inr member
  rcases walked components [] (List.mem_reverse.mp h) with member | member
  · exact member
  · exact absurd member List.not_mem_nil

theorem mem_of_mem_trimPieces {pieces : List Text} {piece : Text} (h : piece ∈ trimPieces pieces) :
    piece ∈ pieces := by
  have inner := (List.dropWhile_suffix _).subset (List.mem_reverse.mp h)
  exact List.mem_reverse.mp inner

structure Hereditary (P : Text → Prop) : Prop where
  cut : ∀ {a b : Text}, P (a ++ '/' :: b) → P a ∧ P b
  slash : ∀ {a b : Text}, P a → P b → P (a ++ '/' :: b)
  dot : P ['.']
  empty : P []

namespace Hereditary

variable {P : Text → Prop}

/-- A property that passes to all parts of a text. -/
theorem of_parts (part : ∀ {a b : Text}, P b → a <:+: b → P a)
    (slash : ∀ {a b : Text}, P a → P b → P (a ++ '/' :: b)) (dot : P ['.']) : Hereditary P where
  cut whole := ⟨part whole (List.prefix_append _ _).isInfix,
    part whole ((List.suffix_cons _ _).trans (List.suffix_append _ _)).isInfix⟩
  slash := slash
  dot := dot
  empty := part dot List.nil_prefix.isInfix

variable (hereditary : Hereditary P)

include hereditary

theorem root : P ['/'] := hereditary.slash hereditary.empty hereditary.empty

theorem piece {text piece : Text} (whole : P text) (h : piece ∈ Text.pieces '/' text) : P piece := by
  rw [← Text.join_pieces '/' text] at whole
  generalize Text.pieces '/' text = pieces at whole h
  induction pieces with
  | nil => exact absurd h List.not_mem_nil
  | cons first others ih =>
    cases others with
    | nil => exact List.mem_singleton.mp h ▸ whole
    | cons next others =>
      obtain ⟨front, rest⟩ := hereditary.cut whole
      rcases List.mem_cons.mp h with rfl | h
      · exact front
      · exact ih rest h

theorem joinSlash {pieces : List Text} (all : ∀ piece ∈ pieces, P piece) : P (Text.join '/' pieces) := by
  induction pieces with
  | nil => exact hereditary.empty
  | cons piece others ih =>
    cases others with
    | nil => exact all piece List.mem_cons_self
    | cons next others =>
      exact hereditary.slash (all piece List.mem_cons_self)
        (ih fun piece member => all piece (List.mem_cons_of_mem _ member))

theorem join {p q : Path} (first : P p.text) (second : P q.text) : P (p.join q).text := by
  by_cases absolute : q.isAbsolute = true
  · rw [join_of_isAbsolute p absolute]
    exact second
  · rw [Bool.not_eq_true] at absolute
    by_cases empty : p.text = []
    · rw [join_of_empty empty]
      exact second
    · obtain ⟨front, cut, joined⟩ := join_of_relative absolute empty
      have before : P front := by
        rcases cut with cut | cut
        · exact cut ▸ first
        · exact (hereditary.cut (cut ▸ first)).1
      rw [joined]
      exact hereditary.slash before second

theorem component {path : Path} (whole : P path.text) {c : Component} (h : c ∈ path.components) :
    P c.text := by
  rcases List.mem_append.mp h with h | h
  · rcases lead_cases path with lead | lead | lead
    · exact absurd (lead ▸ h) List.not_mem_nil
    · rw [lead] at h
      rw [List.mem_singleton.mp h]
      exact hereditary.root
    · rw [lead] at h
      rw [List.mem_singleton.mp h]
      exact hereditary.dot
  · obtain ⟨piece, member, read⟩ := List.mem_filterMap.mp h
    rw [Component.text_of_ofPiece? read]
    exact hereditary.piece whole member

theorem normalize {path : Path} (whole : P path.text) : P path.normalize.text := by
  have joined (components : List Component) (all : ∀ c ∈ components, P c.text) (start : Path)
      (first : P start.text) :
      P (components.foldl (fun path component => path.join ⟨component.text⟩) start).text := by
    induction components generalizing start with
    | nil => exact first
    | cons c components ih =>
      exact ih (fun c member => all c (List.mem_cons_of_mem _ member)) _
        (hereditary.join (q := ⟨c.text⟩) first (all c List.mem_cons_self))
  exact joined _ (fun c member => hereditary.component whole (mem_of_mem_normalComponents member)) ⟨[]⟩
    hereditary.empty

theorem directory {path : Path} (whole : P path.text) : P path.directory.text := by
  unfold Path.directory parent?
  have pieces : ∀ piece ∈ Text.pieces '/' path.text, P piece :=
    fun piece member => hereditary.piece whole member
  cases cut : Text.pieces '/' path.text with
  | nil => exact hereditary.dot
  | cons first others =>
    rw [cut] at pieces
    have joined : P (Text.join '/' (first :: trimPieces (trimPieces others).dropLast)) := by
      refine hereditary.joinSlash fun piece member => pieces piece ?_
      rcases List.mem_cons.mp member with rfl | member
      · exact List.mem_cons_self
      · exact List.mem_cons_of_mem _ (mem_of_mem_trimPieces
          (List.dropLast_subset _ (mem_of_mem_trimPieces member)))
    dsimp only
    repeat' split
    · exact hereditary.dot
    · exact hereditary.empty
    · exact hereditary.root
    · exact joined

end Hereditary

theorem hereditary_not_mem {c : Char} (slash : c ≠ '/') (dot : c ≠ '.') : Hereditary (c ∉ ·) :=
  .of_parts (fun absent inside member => absent (inside.subset member))
    (fun first second => List.not_mem_append first (List.not_mem_cons_of_ne_of_not_mem slash second))
    (List.not_mem_cons_of_ne_of_not_mem dot List.not_mem_nil)

end Path
end TexFlat
