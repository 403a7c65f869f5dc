import TexFlat.Proofs.Path.Hereditary

/-!
# Parents

A path that has a parent has one component more than it. A parent is spelled without a slash or a dot at its
end, so the parent of a name that is joined to it is this parent again, to the letter.
-/

namespace TexFlat

namespace Text

theorem join_concat {separator : Char} {parts : List Text} (filled : parts ≠ []) (last : Text) :
    join separator (parts ++ [last]) = join separator parts ++ separator :: last := by
  induction parts with
  | nil => exact absurd rfl filled
  | cons part parts ih =>
    cases parts with
    | nil => rfl
    | cons next parts =>
      have behind := ih (List.cons_ne_nil _ _)
      show part ++ separator :: join separator (next :: parts ++ [last]) =
        part ++ separator :: join separator (next :: parts) ++ separator :: last
      rw [behind, List.append_assoc]
      rfl

theorem pieces_join {separator : Char} {parts : List Text} (filled : parts ≠ [])
    (clear : ∀ part ∈ parts, separator ∉ part) : pieces separator (join separator parts) = parts := by
  induction parts with
  | nil => exact absurd rfl filled
  | cons part parts ih =>
    rw [List.forall_mem_cons] at clear
    cases parts with
    | nil => exact pieces_of_not_mem clear.1
    | cons next parts =>
      rw [join, pieces_append, ih (List.cons_ne_nil _ _) clear.2, pieces_of_not_mem clear.1]
      · rfl
      · exact List.cons_ne_nil _ _

end Text

namespace Path

variable {path place other : Path} {first last name : Text} {others front pieces : List Text} {c : Component}

/-! ### The letters of a join -/

theorem getLast?_append_clear {name text : Text} (filled : name ≠ []) (clear : '/' ∉ name) :
    (text ++ name).getLast? ≠ some '/' := by
  intro last
  rw [List.getLast?_append, List.getLast?_eq_some_getLast filled, Option.some_or] at last
  exact clear (Option.some.inj last ▸ List.getLast_mem filled)

theorem getLast?_behind_slash {name text : Text} (filled : name ≠ []) (clear : '/' ∉ name) :
    (text ++ '/' :: name).getLast? ≠ some '/' := by
  rw [← List.singleton_append, ← List.append_assoc]
  exact getLast?_append_clear filled clear

theorem text_join_of_open (relative : other.isAbsolute = false) (filled : path.text ≠ [])
    (ends : path.text.getLast? ≠ some '/') : (path.join other).text = path.text ++ '/' :: other.text := by
  have continues : ¬ (path.text = [] ∨ path.text.getLast? = some '/') := fun either => either.elim filled ends
  rw [join, if_neg (Bool.eq_false_iff.mp relative), if_neg continues]

theorem text_join_of_closed (relative : other.isAbsolute = false) (ends : path.text.getLast? = some '/') :
    (path.join other).text = path.text ++ other.text := by
  rw [join, if_neg (Bool.eq_false_iff.mp relative), if_pos (.inr ends)]

/-! ### Components from pieces -/

/-- The component in front, by the first piece and by whether there are others. -/
def leadOf (first : Text) (others : List Text) : List Component :=
  if first = [] then if others = [] then [] else [.root]
  else if first = ['.'] then [.here] else []

theorem isAbsolute_iff_of_pieces (cut : Text.pieces '/' path.text = first :: others) :
    path.isAbsolute = true ↔ first = [] ∧ others ≠ [] := by
  have whole := Text.join_pieces '/' path.text
  have clear : '/' ∉ first := Text.separator_not_mem_of_mem_pieces (cut ▸ List.mem_cons_self)
  rw [cut] at whole
  unfold isAbsolute
  rw [← whole]
  cases others with
  | nil =>
    rw [Text.join]
    cases first with
    | nil => simp
    | cons c first => simp [Ne.symm (List.ne_of_not_mem_cons clear)]
  | cons next others =>
    rw [Text.join]
    · cases first with
      | nil => simp
      | cons c first => simp [Ne.symm (List.ne_of_not_mem_cons clear)]
    · exact List.cons_ne_nil _ _

theorem components_of_pieces (cut : Text.pieces '/' path.text = first :: others) :
    path.components =
      leadOf first others ++ (first :: others).filterMap Component.ofPiece? := by
  have absolute := isAbsolute_iff_of_pieces cut
  have lead : path.lead = leadOf first others := by
    unfold lead leadOf
    rw [cut, List.head?_cons]
    by_cases none : first = []
    · by_cases alone : others = []
      · simp [absolute, none, alone]
      · simp [absolute, none, alone]
    · simp [absolute, none]
  rw [components_eq, lead, steps, cut]

/-! ### Pieces at the end that stand for nothing -/

theorem filterMap_trimPieces (pieces : List Text) :
    (trimPieces pieces).filterMap Component.ofPiece? = pieces.filterMap Component.ofPiece? := by
  have dropped (pieces : List Text) :
      (pieces.dropWhile fun piece => (Component.ofPiece? piece).isNone).filterMap Component.ofPiece? =
        pieces.filterMap Component.ofPiece? := by
    induction pieces with
    | nil => rfl
    | cons piece pieces ih =>
      rw [List.dropWhile_cons]
      split
      · rename_i blank
        rw [ih, List.filterMap_cons_none (Option.isNone_iff_eq_none.mp blank)]
      · rfl
  rw [trimPieces, List.filterMap_reverse, dropped, List.filterMap_reverse, List.reverse_reverse]

theorem trimPieces_concat (read : Component.ofPiece? last = some c) (front : List Text) :
    trimPieces (front ++ [last]) = front ++ [last] := by
  simp [trimPieces, read]

/-- Trimmed pieces end in one that stands for a component. -/
theorem trimPieces_cases (pieces : List Text) :
    trimPieces pieces = [] ∨
      ∃ front last c, trimPieces pieces = front ++ [last] ∧ Component.ofPiece? last = some c := by
  cases back : pieces.reverse.dropWhile fun piece => (Component.ofPiece? piece).isNone with
  | nil => exact .inl (by rw [trimPieces, back]; rfl)
  | cons last front =>
    have stays := List.head?_dropWhile_not (fun piece => (Component.ofPiece? piece).isNone) pieces.reverse
    rw [back] at stays
    obtain ⟨c, read⟩ := Option.isSome_iff_exists.mp (by simpa using stays)
    exact .inr ⟨front.reverse, last, c, by rw [trimPieces, back, List.reverse_cons], read⟩

/-- How a parent comes about: from a single piece it is the empty path; else it is what is before the last
piece that counts. -/
theorem parent?_cases (h : path.parent? = some place) :
    ∃ first others, Text.pieces '/' path.text = first :: others ∧
      ((trimPieces others = [] ∧ first ≠ [] ∧ place = ⟨[]⟩) ∨
        ∃ front last c, trimPieces others = front ++ [last] ∧ Component.ofPiece? last = some c ∧
          place = if first = [] ∧ trimPieces front = [] then ⟨['/']⟩
            else ⟨Text.join '/' (first :: trimPieces front)⟩) := by
  unfold parent? at h
  cases cut : Text.pieces '/' path.text with
  | nil => exact absurd cut (Text.pieces_ne_nil '/' path.text)
  | cons first others =>
    rw [cut] at h
    dsimp only at h
    refine ⟨first, others, rfl, ?_⟩
    rcases trimPieces_cases others with none | ⟨front, last, c, body, read⟩
    · rw [if_pos none] at h
      by_cases empty : first = []
      · rw [if_pos empty] at h
        exact absurd h nofun
      · rw [if_neg empty] at h
        exact .inl ⟨none, empty, (Option.some.inj h).symm⟩
    · rw [body, if_neg (List.append_ne_nil_of_right_ne_nil _ (List.cons_ne_nil _ _)), List.dropLast_concat] at h
      refine .inr ⟨front, last, c, body, read, ?_⟩
      split at h
      · rename_i none
        rw [if_pos none]
        exact (Option.some.inj h).symm
      · rename_i more
        rw [if_neg more]
        exact (Option.some.inj h).symm

theorem leadOf_congr {others' : List Text} (h : first = [] → others ≠ [] ∧ others' ≠ []) :
    leadOf first others = leadOf first others' := by
  unfold leadOf
  by_cases empty : first = []
  · obtain ⟨filled, filled'⟩ := h empty
    simp [empty, filled, filled']
  · simp [empty]

/-- The pieces of a parent that is neither empty nor the root. -/
theorem pieces_join_parent (cut : Text.pieces '/' path.text = first :: others)
    (body : trimPieces others = front ++ [last]) :
    Text.pieces '/' (Text.join '/' (first :: trimPieces front)) = first :: trimPieces front := by
  apply Text.pieces_join (List.cons_ne_nil _ _)
  intro piece member
  apply Text.separator_not_mem_of_mem_pieces
  rw [cut]
  rcases List.mem_cons.mp member with rfl | member
  · exact List.mem_cons_self
  · have inside : piece ∈ trimPieces others := by
      rw [body]
      exact List.mem_append_left _ (mem_of_mem_trimPieces member)
    exact List.mem_cons_of_mem _ (mem_of_mem_trimPieces inside)

theorem components_of_parent? (h : path.parent? = some place) :
    ∃ last, path.components = place.components ++ [last] := by
  obtain ⟨first, others, cut, ⟨none, filled, rfl⟩ | ⟨front, last, c, body, read, rfl⟩⟩ := parent?_cases h
  -- A single piece counts, and it is the last component whether it is a dot, two dots or a name.
  · have nothing : others.filterMap Component.ofPiece? = [] := by
      rw [← filterMap_trimPieces, none]
      rfl
    rw [components_of_pieces cut, components_nil]
    by_cases dot : first = ['.']
    · subst dot
      refine ⟨.here, ?_⟩
      rw [List.filterMap_cons_none rfl, nothing]
      rfl
    · have named : Component.ofPiece? first = some (if first = ['.', '.'] then .up else .name first) := by
        simp only [Component.ofPiece?, filled, dot, or_self, if_false]
        split
        · rfl
        · rfl
      refine ⟨if first = ['.', '.'] then .up else .name first, ?_⟩
      rw [List.filterMap_cons_some named, nothing, leadOf, if_neg filled, if_neg dot]
  · have more : others ≠ [] := by
      rintro rfl
      exact absurd body.symm (List.append_ne_nil_of_right_ne_nil _ (List.cons_ne_nil _ _))
    have split : others.filterMap Component.ofPiece? = (trimPieces front).filterMap Component.ofPiece? ++ [c] := by
      rw [← filterMap_trimPieces, body, List.filterMap_append, List.filterMap_cons_some read,
        filterMap_trimPieces]
      rfl
    refine ⟨c, ?_⟩
    rw [components_of_pieces cut]
    by_cases atRoot : first = [] ∧ trimPieces front = []
    · obtain ⟨rfl, none⟩ := atRoot
      rw [if_pos ⟨rfl, none⟩, List.filterMap_cons_none rfl, split, none, leadOf, if_pos rfl, if_neg more]
      rfl
    · have lead : leadOf first others = leadOf first (trimPieces front) :=
        leadOf_congr fun empty => ⟨more, fun none => atRoot ⟨empty, none⟩⟩
      rw [if_neg atRoot, components_of_pieces (pieces_join_parent cut body), lead, List.append_assoc]
      cases here : Component.ofPiece? first with
      | none => rw [List.filterMap_cons_none here, List.filterMap_cons_none here, split]
      | some d => rw [List.filterMap_cons_some here, List.filterMap_cons_some here, split, List.cons_append]

theorem components_eq_of_parent?_eq_none (h : path.parent? = none) :
    path.components = [] ∨ path.components = [.root] := by
  unfold parent? at h
  cases cut : Text.pieces '/' path.text with
  | nil => exact absurd cut (Text.pieces_ne_nil '/' path.text)
  | cons first others =>
    rw [cut] at h
    dsimp only at h
    by_cases none : trimPieces others = []
    · by_cases empty : first = []
      · subst empty
        have nothing : others.filterMap Component.ofPiece? = [] := by
          rw [← filterMap_trimPieces, none]
          rfl
        rw [components_of_pieces cut, List.filterMap_cons_none rfl, nothing, leadOf, if_pos rfl]
        split
        · exact .inl rfl
        · exact .inr rfl
      · rw [if_pos none, if_neg empty] at h
        exact absurd h nofun
    · rw [if_neg none] at h
      split at h
      · exact absurd h nofun
      · exact absurd h nofun

end Path
end TexFlat
