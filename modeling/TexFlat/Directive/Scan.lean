import TexFlat.Directive.Spelling

/-!
# Scanning

A text is read from the left as a list of segments, each a directive of one kind or a character
that belongs to none; `lexemes_segments` says that the segments spell the text. A directive is
found wherever it is spelled, in a comment as well.
-/

namespace TexFlat.Directive

inductive Segment
  | char (c : Char)
  | directive (d : Directive)
deriving DecidableEq, Repr

namespace Segment

/-- The text that the segment takes. -/
def lexeme : Segment → Text
  | char c => [c]
  | directive d => d.source

def directive? : Segment → Option Directive
  | char _ => none
  | directive d => some d

end Segment

/-- The segments found so far, last first, and those of a text whose first `covered` characters
belong to the last of them. -/
def segmentsFrom (kind : Kind) (found : List Segment) : (covered : Nat) → Text → List Segment
  | _, [] => found.reverse
  | covered + 1, _ :: text => segmentsFrom kind found covered text
  | 0, c :: text =>
    match at? kind (c :: text) with
    | some d => segmentsFrom kind (.directive d :: found) (d.source.length - 1) text
    | none => segmentsFrom kind (.char c :: found) 0 text

def segments (kind : Kind) (text : Text) : List Segment := segmentsFrom kind [] 0 text

/-- The directives of one kind in text order. -/
def ofText (kind : Kind) (text : Text) : List Directive :=
  (segments kind text).filterMap Segment.directive?

/-- A directive and where it stands, in bytes of the text's UTF-8 form. -/
structure Occurrence where
  directive : Directive
  start : Nat
  stop : Nat
deriving DecidableEq, Repr

/-- The directives among segments that begin at the byte `start`. -/
def occurrencesFrom (start : Nat) : List Segment → List Occurrence
  | [] => []
  | .char c :: others => occurrencesFrom (start + c.utf8Size) others
  | .directive d :: others =>
    let stop := start + Text.utf8Length d.source
    ⟨d, start, stop⟩ :: occurrencesFrom stop others

/-- The directives of one kind with their places in the text. -/
def scan (text : Text) (kind : Kind) : List Occurrence :=
  occurrencesFrom 0 (segments kind text)

/-! ### The segments of a text -/

theorem segmentsFrom_eq (kind : Kind) (found : List Segment) (covered : Nat) (text : Text) :
    segmentsFrom kind found covered text =
      found.reverse ++ segmentsFrom kind [] covered text := by
  induction text generalizing found covered with
  | nil => cases covered <;> simp [segmentsFrom]
  | cons c text ih =>
    cases covered with
    | succ covered => simp only [segmentsFrom]; exact ih found covered
    | zero =>
      simp only [segmentsFrom]
      split
      · rename_i d _
        rw [ih, ih [.directive d]]
        simp
      · rw [ih, ih [.char c]]
        simp

theorem segmentsFrom_covered (kind : Kind) (covered : Nat) (text : Text) :
    segmentsFrom kind [] covered text = segments kind (text.drop covered) := by
  induction text generalizing covered with
  | nil => cases covered <;> simp [segmentsFrom, segments]
  | cons c text ih =>
    cases covered with
    | zero => simp [segments]
    | succ covered => simp only [segmentsFrom, List.drop_succ_cons]; exact ih covered

@[simp]
theorem segments_nil (kind : Kind) : segments kind [] = [] := rfl

/-- A directive is taken where one begins, and the text behind it is read on its own. -/
theorem segments_of_at? {kind : Kind} {text rest : Text} {d : Directive}
    (h : at? kind text = some d) (whole : d.source ++ rest = text) :
    segments kind text = .directive d :: segments kind rest := by
  cases source : d.source with
  | nil => exact absurd source (source_ne_nil_of_at? h)
  | cons c more =>
    subst whole
    simp only [source, List.cons_append] at h ⊢
    rw [segments, segmentsFrom, h]
    simp only
    rw [segmentsFrom_eq, source, segmentsFrom_covered]
    simp

theorem segments_cons {kind : Kind} {c : Char} {text : Text} (h : at? kind (c :: text) = none) :
    segments kind (c :: text) = .char c :: segments kind text := by
  rw [segments, segmentsFrom, h]
  simp only
  rw [segmentsFrom_eq, segmentsFrom_covered]
  simp

/-- The segments spell the text. -/
theorem lexemes_segments (kind : Kind) (text : Text) :
    (segments kind text).flatMap Segment.lexeme = text := by
  generalize size : text.length = n
  induction n using Nat.strongRecOn generalizing text with
  | ind n ih =>
    cases text with
    | nil => rfl
    | cons c text =>
      cases found : at? kind (c :: text) with
      | none =>
        rw [segments_cons found, List.flatMap_cons, ih text.length (by simp [← size]) text rfl]
        rfl
      | some d =>
        obtain ⟨rest, whole⟩ := source_append_of_at? found
        have shorter : rest.length < n := by
          have := List.length_pos_iff.mpr (source_ne_nil_of_at? found)
          rw [← size, ← whole, List.length_append]
          omega
        rw [segments_of_at? found whole, List.flatMap_cons, ih _ shorter rest rfl]
        exact whole

end TexFlat.Directive
