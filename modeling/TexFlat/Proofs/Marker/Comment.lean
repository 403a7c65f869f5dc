import Mathlib.Data.List.Chain
import TexFlat.Proofs.Marker.Notices

/-!
# Comments

A marker is a comment as long as the names in it are: it shows them as they were written, and a line
break in a name begins a line of the document. `Secure` is what such a name must be. It is said of
two characters that follow each other, so it passes to what a text is put together from.
-/

namespace TexFlat.Marker

open Directive (Kind)

/-- Each line is empty or begins with a percent sign. -/
def Commented (text : Text) : Prop := ∀ line ∈ Text.pieces '\n' text, line = [] ∨ line.head? = some '%'

instance (text : Text) : Decidable (Commented text) :=
  inferInstanceAs (Decidable (∀ line ∈ Text.pieces '\n' text, _))

/-- Behind a line break there is another one or a percent sign. -/
def Guards (a b : Char) : Prop := a = '\n' → b = '\n' ∨ b = '%'

instance : DecidableRel Guards := fun _ _ => inferInstanceAs (Decidable (_ → _))

def Guarded (text : Text) : Prop := text.IsChain Guards

instance (text : Text) : Decidable (Guarded text) := inferInstanceAs (Decidable (text.IsChain Guards))

/-- No line of the text but the first needs a percent sign, whatever it is that the last one goes on with. -/
def Secure (text : Text) : Prop := Guarded text ∧ text.getLast? ≠ some '\n'

instance (text : Text) : Decidable (Secure text) := inferInstanceAs (Decidable (_ ∧ _))

variable {a b text front rest : Text} {c : Char} {kind : Kind}

/-! ### Guarded texts -/

theorem guarded_cons : Guarded (c :: text) ↔ (∀ b ∈ text.head?, Guards c b) ∧ Guarded text :=
  List.isChain_cons

theorem guarded_append :
    Guarded (a ++ b) ↔ Guarded a ∧ Guarded b ∧ ∀ x ∈ a.getLast?, ∀ y ∈ b.head?, Guards x y :=
  List.isChain_append

theorem first_line_commented_iff :
    (∀ line ∈ (Text.pieces '\n' text).head?, line = [] ∨ line.head? = some '%') ↔
      ∀ c ∈ text.head?, Guards '\n' c := by
  cases text with
  | nil => simp [Text.pieces]
  | cons c text =>
    by_cases same : c = '\n'
    · subst same
      rw [Text.pieces_cons_separator]
      simp [Guards]
    · obtain ⟨piece, others, cut⟩ := List.exists_cons_of_ne_nil (Text.pieces_ne_nil '\n' text)
      rw [Text.pieces_cons_of_ne same cut]
      simp [Guards, same]

/-- A text is guarded if its lines behind the first are comments. -/
theorem guarded_iff_lines :
    Guarded text ↔ ∀ line ∈ (Text.pieces '\n' text).tail, line = [] ∨ line.head? = some '%' := by
  induction text with
  | nil => simp [Guarded, Text.pieces]
  | cons c text ih =>
    obtain ⟨piece, others, cut⟩ := List.exists_cons_of_ne_nil (Text.pieces_ne_nil '\n' text)
    have first := @first_line_commented_iff text
    rw [cut] at ih first
    rw [guarded_cons, ih]
    by_cases same : c = '\n'
    · subst same
      rw [Text.pieces_cons_separator, cut, ← first]
      simp
    · rw [Text.pieces_cons_of_ne same cut]
      simp [Guards, same]

theorem commented_iff_guarded : Commented text ↔ Guarded ('\n' :: text) := by
  rw [guarded_iff_lines, Text.pieces_cons_separator, List.tail_cons]
  rfl

theorem guarded_of_not_mem (absent : '\n' ∉ text) : Guarded text := by
  rw [guarded_iff_lines, Text.pieces_of_not_mem absent]
  simp

theorem secure_of_not_mem (absent : '\n' ∉ text) : Secure text :=
  ⟨guarded_of_not_mem absent, fun last => absent (List.mem_of_getLast? last)⟩

theorem guarded_front (absent : '\n' ∉ front) : Guarded (front ++ text) ↔ Guarded text := by
  rw [guarded_append]
  constructor
  · exact fun parts => parts.2.1
  · intro guarded
    refine ⟨guarded_of_not_mem absent, guarded, ?_⟩
    rintro x last y - rfl
    exact absurd (List.mem_of_getLast? last) absent

theorem guarded_cons_of_ne (newline : c ≠ '\n') : Guarded (c :: text) ↔ Guarded text := by
  have absent : '\n' ∉ [c] := fun member => newline (List.mem_singleton.mp member).symm
  exact guarded_front absent

/-- A text that goes on in the same line has to be secure. -/
theorem guarded_append_cons (newline : c ≠ '\n') (percent : c ≠ '%') :
    Guarded (text ++ c :: rest) ↔ Secure text ∧ Guarded (c :: rest) := by
  have meets : (∀ x ∈ text.getLast?, ∀ y ∈ (c :: rest).head?, Guards x y) ↔ text.getLast? ≠ some '\n' := by
    constructor
    · intro apart last
      exact (apart '\n' last c rfl rfl).elim newline percent
    · rintro apart x last y - rfl
      exact absurd last apart
  rw [guarded_append, meets, Secure]
  tauto

/-! ### Lines -/

theorem commented_append : Commented (a ++ '\n' :: b) ↔ Commented a ∧ Commented b := by
  rw [Commented, Text.pieces_append]
  simp only [List.mem_append, or_imp, forall_and]
  rfl

theorem commented_nil : Commented [] := by simp [Commented, Text.pieces]

theorem commented_lines {lines : List Text} :
    Commented (lines.flatMap (· ++ ['\n'])) ↔ ∀ line ∈ lines, Commented line := by
  induction lines with
  | nil => exact iff_of_true commented_nil (List.forall_mem_nil _)
  | cons line lines ih =>
    rw [List.flatMap_cons, List.append_assoc, List.singleton_append, commented_append, ih,
      List.forall_mem_cons]

theorem commented_line_iff (begins : front.head? = some '%') (absent : '\n' ∉ front) :
    Commented (front ++ text) ↔ Guarded text := by
  have opens : ∀ c ∈ (front ++ text).head?, Guards '\n' c := by
    rw [List.head?_append, begins]
    simp [Guards]
  rw [commented_iff_guarded, guarded_cons, guarded_front absent]
  exact and_iff_right opens

/-! ### Markers -/

theorem commented_mark_iff (mark : Mark) : Commented mark.line ↔ Secure mark.reference := by
  have begins : (title mark.side mark.kind).head? = some '%' := by
    cases mark.side <;> cases mark.kind <;> decide +kernel
  have behind : Guarded (' ' :: "======".toList) := by decide +kernel
  have word : " ======".toList = ' ' :: "======".toList := by decide +kernel
  rw [Mark.line, List.append_assoc, commented_line_iff begins (newline_not_mem_title _ _), word,
    guarded_append_cons (by decide) (by decide)]
  exact and_iff_left behind

theorem commented_footer_iff {reference : Text} : Commented (footer kind reference) ↔ Secure reference := by
  rw [footer, endLine_eq, ← List.nil_append ('\n' :: _), commented_append, commented_append, commented_mark_iff]
  simp [commented_nil]

theorem commented_header_iff {reference : Text} {file base : Path} :
    Commented (header kind reference file base) ↔
      Secure reference ∧ Guarded file.text ∧ Guarded base.text := by
  have note : Commented "% Note: \\include forces page breaks, may need adjustment".toList := by
    decide +kernel
  have original : Commented ("% Original file: ".toList ++ file.text) ↔ Guarded file.text :=
    commented_line_iff (by decide +kernel) (by decide +kernel)
  have directory : Commented ("% Base directory: ".toList ++ base.text) ↔ Guarded base.text :=
    commented_line_iff (by decide +kernel) (by decide +kernel)
  rw [header_eq, ← List.nil_append ('\n' :: _), commented_append, commented_lines, headerLines,
    List.forall_mem_cons, List.forall_mem_append, List.forall_mem_cons, List.forall_mem_singleton,
    commented_mark_iff, original, directory]
  split <;> simp [commented_nil, note, -String.reduceToList]

/-- A notice stands in one line unless its words break it. -/
theorem commented_notice_iff (notice : Notice) :
    Commented (notice.line ++ ['\n']) ↔ Guarded (notice.words ++ notice.topic.behind) := by
  obtain ⟨more, front, -⟩ := exists_front_eq notice.topic
  have begins : notice.topic.front.head? = some '%' := by rw [front, List.head?_cons]
  rw [commented_append, Notice.line, commented_line_iff begins (newline_not_mem_front _)]
  exact and_iff_left commented_nil

theorem commented_notFound_iff {reference : Text} : Commented (notFound kind reference) ↔ Guarded reference := by
  rw [notFound_eq, commented_notice_iff]
  exact iff_of_eq (congrArg Guarded (List.append_nil reference))

theorem commented_alreadyIncluded_iff {file : Path} : Commented (alreadyIncluded file) ↔ Secure file.text := by
  have behind : Guarded (' ' :: "already included, skipping".toList) := by decide +kernel
  have word : Topic.alreadyIncluded.behind = ' ' :: "already included, skipping".toList := by decide +kernel
  rw [alreadyIncluded_eq, commented_notice_iff, word, guarded_append_cons (by decide) (by decide)]
  exact and_iff_left behind

theorem commented_unreadable_iff {file : Path} {cause : Text} :
    Commented (unreadable file cause) ↔ Secure file.text ∧ Guarded cause := by
  have between : ": ".toList ++ cause = ':' :: ([' '] ++ cause) := rfl
  have colon : Guarded (':' :: ([' '] ++ cause)) ↔ Guarded cause :=
    (guarded_cons_of_ne (by decide)).trans (guarded_cons_of_ne (by decide))
  rw [unreadable_eq, commented_notice_iff]
  dsimp only [Topic.behind]
  rw [List.append_nil, between, guarded_append_cons (by decide) (by decide), colon]

theorem commented_depthExceeded_iff {maxDepth : Nat} {file : Path} :
    Commented (depthExceeded maxDepth file) ↔ Guarded file.text := by
  have digits : '\n' ∉ Nat.toDigits 10 maxDepth := by
    intro member
    have digit := Nat.isDigit_of_mem_toDigits (by decide) (by decide) member
    exact absurd digit (by decide)
  rw [depthExceeded_eq, commented_notice_iff]
  dsimp only [Topic.behind]
  rw [List.append_nil, guarded_front digits, guarded_front (by decide +kernel)]

/-! ### Names put together -/

theorem secure_append_cons (newline : c ≠ '\n') (percent : c ≠ '%') :
    Secure (a ++ c :: b) ↔ Secure a ∧ Secure b := by
  have last : (a ++ c :: b).getLast? = some '\n' ↔ b.getLast? = some '\n' := by
    rw [List.getLast?_append_cons]
    cases b with
    | nil => simp [newline]
    | cons c' b => rw [List.getLast?_cons_cons]
  rw [Secure, guarded_append_cons newline percent, guarded_cons_of_ne newline, ne_eq, last, and_assoc]
  rfl

theorem hereditary_secure : Path.Hereditary Secure where
  cut := (secure_append_cons (by decide) (by decide)).mp
  slash first second := (secure_append_cons (by decide) (by decide)).mpr ⟨first, second⟩
  dot := by decide
  empty := by decide

end TexFlat.Marker
