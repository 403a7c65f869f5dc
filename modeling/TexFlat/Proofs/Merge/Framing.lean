import Mathlib.Data.List.Basic
import TexFlat.Proofs.Directive.Finding
import TexFlat.Proofs.Merge.Insertion

/-!
# Bodies in blocks

A body stands between the last line of a header and the first one of a footer. If no scan finds
anything in the body, then a scan for imports or includes of a text around it leaves it in one piece,
or finds a directive that takes the line before the body or the one behind it. No directive that is
written in full does so.
-/

namespace TexFlat

namespace Marker

/-- The beginning of the line before the body of a block. -/
def baseTitle : Text := "\n% Base directory: ".toList

/-- The beginning of the line behind the body of a block. -/
def endTitle : Text := "\n% ====== End ".toList

/-- The last line of a header, a body, and the beginning of a footer. -/
def framed (base : Path) (body : Text) : Text := baseTitle ++ base.text ++ ('\n' :: body ++ endTitle)

theorem infix_framed (base : Path) (body : Text) : body <:+: framed base body := by
  refine ⟨baseTitle ++ base.text ++ ['\n'], endTitle, ?_⟩
  simp only [framed, List.append_assoc, List.cons_append, List.nil_append]

theorem exists_header_eq (kind : Directive.Kind) (reference : Text) (file base : Path) :
    ∃ front, header kind reference file base = front ++ (baseTitle ++ base.text ++ ['\n']) := by
  have title : baseTitle = '\n' :: "% Base directory: ".toList := by decide +kernel
  rw [title]
  unfold header
  exact ⟨_, by rw [← List.append_assoc, ← List.append_assoc]⟩

theorem exists_footer_eq (kind : Directive.Kind) (reference : Text) :
    ∃ behind, footer kind reference = endTitle ++ behind := by
  have title : endTitle = '\n' :: "% ====== End ".toList := by decide +kernel
  refine ⟨kind.word ++ ": ".toList ++ reference ++ " ======\n".toList, ?_⟩
  rw [title]
  unfold footer endLine
  simp only [List.append_assoc, List.cons_append]

theorem framed_infix_block (kind : Directive.Kind) (reference : Text) (file base : Path) (body : Text) :
    framed base body <:+: block kind reference file base body := by
  obtain ⟨front, first⟩ := exists_header_eq kind reference file base
  obtain ⟨behind, last⟩ := exists_footer_eq kind reference
  refine ⟨front, behind, ?_⟩
  rw [block, first, last]
  simp only [framed, List.append_assoc, List.cons_append, List.nil_append]

theorem infix_block (kind : Directive.Kind) (reference : Text) (file base : Path) (body : Text) :
    body <:+: block kind reference file base body :=
  ⟨header kind reference file base, footer kind reference, rfl⟩

end Marker

namespace Directive

variable {kind : Kind} {d : Directive} {base : Path} {front behind body text : Text}

/-- The line before a body, or the one behind it, begins in what the directive takes. -/
def CrossesMarker (d : Directive) : Prop :=
  Marker.baseTitle <:+: d.source ∨ Marker.endTitle <:+: d.source

instance (d : Directive) : Decidable d.CrossesMarker := inferInstanceAs (Decidable (_ ∨ _))

theorem mem_ofText_of_at? (found : at? kind text = some d) : d ∈ ofText kind text := by
  obtain ⟨rest, rfl⟩ := source_append_of_at? found
  rw [ofText_append found]
  exact List.mem_cons_self

/-- An import or an include ends before a line without a closing brace, or takes the whole line. -/
theorem Bracketed.before_or_across (bracketed : Bracketed d) {line rest : Text} (absent : '}' ∉ line)
    (whole : d.source ++ rest = front ++ (line ++ behind)) :
    (∃ more, front = d.source ++ more) ∨ line <:+: d.source := by
  obtain ⟨start, source⟩ := bracketed.source_eq
  rcases List.append_eq_append_iff.mp whole with ⟨more, cut, -⟩ | ⟨reach, cut, same⟩
  · exact .inl ⟨more, cut⟩
  · rcases List.append_eq_append_iff.mp same with ⟨tail, across, -⟩ | ⟨tail, inside, -⟩
    · exact .inr ⟨front, tail, by rw [cut, across, List.append_assoc]⟩
    · by_cases empty : reach = []
      · exact .inl ⟨[], by rw [cut, empty, List.append_nil, List.append_nil]⟩
      · have closes : reach.getLast empty = '}' := by
          have both := congrArg List.getLast? (source.symm.trans cut)
          rw [List.getLast?_append_of_ne_nil _ empty, List.getLast?_concat,
            List.getLast?_eq_some_getLast empty] at both
          exact (Option.some.inj both).symm
        have member : '}' ∈ line := by
          rw [inside, ← closes]
          exact List.mem_append_left tail (List.getLast_mem empty)
        exact absurd member absent

theorem segments_append_of_uncrossed
    (each : ∀ rest, rest <:+ front → rest ≠ [] → ∀ d, at? kind (rest ++ behind) = some d →
      d.CrossesMarker)
    (uncrossed : ∀ d ∈ ofText kind (front ++ behind), ¬ d.CrossesMarker) :
    segments kind (front ++ behind) = front.map .char ++ segments kind behind := by
  induction front with
  | nil => rfl
  | cons c front ih =>
    have none : at? kind (c :: (front ++ behind)) = none := by
      rw [Option.eq_none_iff_forall_ne_some]
      intro d found
      exact uncrossed d (mem_ofText_of_at? found)
        (each _ (List.suffix_refl _) (List.cons_ne_nil c front) d found)
    rw [List.cons_append] at uncrossed ⊢
    rw [ofText_cons none] at uncrossed
    rw [segments_cons none, ih (fun rest inside => each rest (inside.trans (List.suffix_cons c front)))
      uncrossed]
    rfl

open Marker (framed baseTitle endTitle)

/-- Where an import or an include is read in a frame, it goes on over the frame's end. -/
theorem crosses_of_at?_framed (notInput : kind ≠ .inputFile) (mute : Mute base.text)
    (nothing : ofText kind body = []) {rest : Text} (inside : rest <:+ framed base body) (filled : rest ≠ [])
    (found : at? kind (rest ++ behind) = some d) : d.CrossesMarker := by
  rcases suffix_append_cases inside with late | ⟨front, early, filled', rfl⟩
  · rcases suffix_append_cases late with last | ⟨front, middle, filled', rfl⟩
    · have closed : Closed kind endTitle := closed_of_not_mem (by decide +kernel)
      rw [closed rest last filled behind trivial] at found
      exact absurd found nofun
    · rcases suffix_cons_cases middle with rfl | middle
      · rw [List.cons_append, List.cons_append, at?_eq_none_of_ne (by decide)] at found
        exact absurd found nofun
      · -- The body alone has no directive here, so this one is longer than the rest of the body.
        have bracketed := bracketed_of_at? notInput found
        obtain ⟨more, whole⟩ := source_append_of_at? found
        rw [List.append_assoc] at whole
        rcases bracketed.before_or_across (by decide +kernel) whole with ⟨later, cut⟩ | across
        · have read := bracketed.at?_eq later
          rw [(kind_of_at? found).1, ← cut, at?_eq_none_of_ofText_eq_nil nothing front middle] at read
          exact absurd read nofun
        · exact .inr across
  · have line : Mute (baseTitle ++ base.text) := mute.prepend (by decide +kernel)
    have parted : Parted ('\n' :: body ++ endTitle ++ behind) := parted_cons (by decide)
    rw [List.append_assoc, line.silent front early filled' _ parted] at found
    exact absurd found nofun

theorem exists_segments_framed (notInput : kind ≠ .inputFile) (mute : Mute base.text)
    (nothing : ofText kind body = []) (inside : framed base body <:+: text)
    (uncrossed : ∀ d ∈ ofText kind text, ¬ d.CrossesMarker) :
    ∃ before after, segments kind text = before ++ ((framed base body).map .char ++ after) := by
  obtain ⟨front, behind, whole⟩ := inside
  rw [List.append_assoc] at whole
  induction text using segments_induction kind generalizing front with
  | nil => exact absurd whole (by simp [framed])
  | char c text none ih =>
    cases front with
    | nil =>
      rw [← whole, List.nil_append] at uncrossed ⊢
      refine ⟨[], segments kind behind, segments_append_of_uncrossed ?_ uncrossed⟩
      intro rest inside filled d
      exact crosses_of_at?_framed notInput mute nothing inside filled
    | cons _ front =>
      obtain ⟨rfl, tail⟩ := List.cons.inj whole
      rw [ofText_cons none] at uncrossed
      obtain ⟨before, after, same⟩ := ih uncrossed front tail
      exact ⟨.char _ :: before, after, by rw [segments_cons none, same]; rfl⟩
  | directive d rest found ih =>
    have bracketed := bracketed_of_at? notInput found
    have cut : d.source ++ rest = front ++ (baseTitle ++
        (base.text ++ ('\n' :: body ++ endTitle) ++ behind)) := by
      rw [← whole]
      simp only [framed, List.append_assoc, List.cons_append]
    rcases bracketed.before_or_across (by decide +kernel) cut with ⟨later, rfl⟩ | across
    · rw [List.append_assoc] at whole
      rw [ofText_append found] at uncrossed
      obtain ⟨before, after, same⟩ := ih (fun d member => uncrossed d (List.mem_cons_of_mem _ member))
        later (List.append_cancel_left whole)
      exact ⟨.directive d :: before, after, by rw [segments_of_at? found rfl, same]; rfl⟩
    · exact absurd (.inl across) (uncrossed d (mem_ofText_of_at? found))

/-! ### Directives in full -/

/-- No line of the text begins with a percent sign, except perhaps the first. -/
def Uncommented (text : Text) : Prop := ∀ rest, '\n' :: rest <:+ text → rest.head? ≠ some '%'

variable {a b : Text}

theorem uncommented_of_not_mem {sign : Char} (which : sign = '\n' ∨ sign = '%') (absent : sign ∉ a) :
    Uncommented a := by
  intro rest behind first
  rcases which with rfl | rfl
  · exact absent (behind.subset List.mem_cons_self)
  · exact absent (behind.subset (List.mem_cons_of_mem _ (List.mem_of_head? first)))

theorem Uncommented.append (first : Uncommented a) (second : Uncommented b) (next : b.head? ≠ some '%') :
    Uncommented (a ++ b) := by
  intro rest behind
  rcases suffix_append_cases behind with behind | ⟨front, inside, filled, same⟩
  · exact second rest behind
  · cases front with
    | nil => exact absurd rfl filled
    | cons c front =>
      obtain ⟨rfl, rfl⟩ := List.cons.inj same
      cases front with
      | nil => exact next
      | cons c front => exact first (c :: front) inside

theorem Spelled.uncommented {d : Directive} (spelled : Spelled d) : Uncommented d.source := by
  have word (kind : Kind) : Uncommented (command kind) :=
    uncommented_of_not_mem (.inl rfl) (by cases kind <;> decide)
  have argument {written : Text} (plain : Plain written) : Uncommented (braced written) := by
    refine uncommented_of_not_mem (.inl rfl) ?_
    have flat : '\n' ∉ written := fun member => (plain.2 _ member).2.2.2 rfl
    simp [braced, flat]
  have spaced {blanks written : Text} (blank : Blank blanks) (plain : Plain written) :
      Uncommented (blanks ++ braced written) ∧ (blanks ++ braced written).head? ≠ some '%' := by
    have absent : '%' ∉ blanks := fun member => absurd (blank _ member) (by decide)
    refine ⟨(uncommented_of_not_mem (.inr rfl) absent).append (argument plain) (by simp [braced]), ?_⟩
    cases blanks with
    | nil => simp [braced]
    | cons c blanks =>
      intro same
      exact absent (Option.some.inj same ▸ List.mem_cons_self)
  cases spelled with
  | inputFile blank plain => exact (word _).append (spaced blank plain).1 (spaced blank plain).2
  | importFile blank plain blank' plain' =>
    have both := (spaced blank plain).1.append (spaced blank' plain').1 (spaced blank' plain').2
    refine (word _).append both ?_
    rw [List.head?_append_of_ne_nil _ (by simp [braced])]
    exact (spaced blank plain).2
  | includeFile spelling blank plain =>
    rcases spelling with rfl | rfl
    · exact (word _).append (spaced blank plain).1 (spaced blank plain).2
    · have only : Uncommented "only".toList := uncommented_of_not_mem (.inl rfl) (by decide)
      exact (word _).append (only.append (spaced blank plain).1 (spaced blank plain).2) (by simp)

theorem Spelled.not_crossesMarker {d : Directive} (spelled : Spelled d) : ¬ d.CrossesMarker := by
  have comments {line : Text} (more : Text) (starts : line = '\n' :: '%' :: more) : ¬ line <:+: d.source := by
    rintro ⟨before, behind, whole⟩
    refine spelled.uncommented ('%' :: (more ++ behind)) ⟨before, ?_⟩ rfl
    rw [← whole, starts, List.append_assoc]
    rfl
  rintro (across | across)
  · exact comments " Base directory: ".toList (by decide +kernel) across
  · exact comments " ====== End ".toList (by decide +kernel) across

end Directive
end TexFlat
