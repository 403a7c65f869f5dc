import Mathlib.Data.List.Infix
import TexFlat.Marker
import TexFlat.Proofs.Directive.Silence
import TexFlat.Proofs.Path.Hereditary

/-!
# The lines that begin and end a block

`mark?` reads back the lines that a block is written with (`mark?_eq_some_iff`), and `marks` are those
of a text, in order. A text without the sign that all of them begin with has none. `marks_block` says
what a block brings into the text around it.
-/

namespace TexFlat.Marker

open Directive (Kind suffix_append_cases cons_prefix_of_prefix_append)

inductive Side
  | start
  | stop
deriving DecidableEq, Repr

def Side.word : Side → Text
  | start => "Start ".toList
  | stop => "End ".toList

/-- The line before a block or behind it. -/
structure Mark where
  side : Side
  kind : Kind
  reference : Text
deriving DecidableEq, Repr

def sign : Text := "% ======".toList

def title (side : Side) (kind : Kind) : Text := sign ++ ' ' :: side.word ++ kind.word ++ ": ".toList

def Mark.line (mark : Mark) : Text := title mark.side mark.kind ++ mark.reference ++ " ======".toList

theorem line_eq {side : Side} {front : Text} (same : front = sign ++ ' ' :: side.word) (kind : Kind)
    (reference : Text) : front ++ kind.word ++ ": ".toList ++ reference ++ " ======\n".toList =
      (Mark.mk side kind reference).line ++ ['\n'] := by
  have last : " ======\n".toList = " ======".toList ++ ['\n'] := by decide +kernel
  subst same
  calc title side kind ++ reference ++ " ======\n".toList
      = title side kind ++ reference ++ (" ======".toList ++ ['\n']) :=
        congrArg (title side kind ++ reference ++ ·) last
    _ = (Mark.mk side kind reference).line ++ ['\n'] := (List.append_assoc _ _ _).symm

theorem startLine_eq (kind : Kind) (reference : Text) :
    startLine kind reference = (Mark.mk .start kind reference).line ++ ['\n'] :=
  line_eq (by decide +kernel) kind reference

theorem endLine_eq (kind : Kind) (reference : Text) :
    endLine kind reference = (Mark.mk .stop kind reference).line ++ ['\n'] :=
  line_eq (by decide +kernel) kind reference

/-! ### Reading a line -/

/-- What stands between the front of a line and its end. -/
def within? (front behind line : Text) : Option Text :=
  (Text.after? front line).bind fun rest => (Text.after? behind.reverse rest.reverse).map List.reverse

theorem within?_eq_some_iff {front behind line inner : Text} :
    within? front behind line = some inner ↔ line = front ++ inner ++ behind := by
  simp only [within?, Option.bind_eq_some_iff, Option.map_eq_some_iff, Text.after?_eq_some_iff]
  constructor
  · rintro ⟨rest, rfl, last, same, rfl⟩
    rw [List.append_assoc, List.append_cancel_left_eq, ← List.reverse_reverse rest, same]
    simp
  · rintro rfl
    exact ⟨inner ++ behind, List.append_assoc _ _ _, inner.reverse, by simp, List.reverse_reverse _⟩

def titles : List (Side × Kind) := [Side.start, .stop].flatMap fun side => Kind.passes.map (side, ·)

def mark? (line : Text) : Option Mark :=
  titles.findSome? fun (side, kind) =>
    (within? (title side kind) " ======".toList line).map (Mark.mk side kind)

theorem mem_titles (side : Side) (kind : Kind) : (side, kind) ∈ titles := by
  cases side <;> cases kind <;> decide

theorem eq_of_title_prefix {side side' : Side} {kind kind' : Kind}
    (h : title side kind <+: title side' kind') : side = side' ∧ kind = kind' := by
  revert h
  cases side <;> cases side' <;> cases kind <;> cases kind' <;> decide +kernel

theorem line_injective {mark mark' : Mark} (same : mark.line = mark'.line) : mark = mark' := by
  obtain ⟨side, kind, reference⟩ := mark
  obtain ⟨side', kind', reference'⟩ := mark'
  have front (side : Side) (kind : Kind) (reference : Text) :
      title side kind <+: (Mark.mk side kind reference).line := by
    rw [Mark.line, List.append_assoc]
    exact List.prefix_append _ _
  obtain ⟨rfl, rfl⟩ : side = side' ∧ kind = kind' := by
    rcases List.prefix_or_prefix_of_prefix (same ▸ front side kind reference) (front side' kind' reference')
      with short | short
    · exact eq_of_title_prefix short
    · obtain ⟨rfl, rfl⟩ := eq_of_title_prefix short
      exact ⟨rfl, rfl⟩
  obtain rfl : reference = reference' := List.append_cancel_left (List.append_cancel_right same)
  rfl

/-- The lines that are read as marks are those that a block is written with. -/
theorem mark?_eq_some_iff {line : Text} {mark : Mark} : mark? line = some mark ↔ line = mark.line := by
  have sound {mark : Mark} (read : mark? line = some mark) : line = mark.line := by
    obtain ⟨⟨side, kind⟩, -, found⟩ := List.exists_of_findSome?_eq_some read
    obtain ⟨reference, inside, rfl⟩ := Option.map_eq_some_iff.mp found
    exact within?_eq_some_iff.mp inside
  refine ⟨sound, fun same => ?_⟩
  cases read : mark? line with
  | some mark' => rw [line_injective ((sound read).symm.trans same)]
  | none =>
    have missed := List.findSome?_eq_none_iff.mp read _ (mem_titles mark.side mark.kind)
    rw [Option.map_eq_none_iff, within?_eq_some_iff.mpr same] at missed
    exact absurd missed nofun

theorem sign_prefix_of_mark? {line : Text} {mark : Mark} (read : mark? line = some mark) : sign <+: line := by
  rw [mark?_eq_some_iff.mp read, Mark.line, title]
  simp only [List.append_assoc]
  exact List.prefix_append _ _

theorem mark?_eq_none {line : Text} (h : ¬ sign <+: line) : mark? line = none := by
  cases read : mark? line with
  | none => rfl
  | some mark => exact absurd (sign_prefix_of_mark? read) h

/-- The text goes another way than the sign, before either of them ends. -/
def Strays (text : Text) : Prop := ¬ sign <+: text ∧ ¬ text <+: sign

instance (text : Text) : Decidable (Strays text) := inferInstanceAs (Decidable (_ ∧ _))

theorem Strays.not_prefix_append {front : Text} (strays : Strays front) (more : Text) :
    ¬ sign <+: front ++ more := fun begins =>
  (List.prefix_or_prefix_of_prefix begins (List.prefix_append front more)).elim strays.1 strays.2

/-! ### The marks of a text -/

def marks (text : Text) : List Mark := (Text.pieces '\n' text).filterMap mark?

theorem marks_append (a b : Text) : marks (a ++ '\n' :: b) = marks a ++ marks b := by
  rw [marks, Text.pieces_append, List.filterMap_append]
  rfl

theorem marks_of_line {line : Text} (one : '\n' ∉ line) : marks line = (mark? line).toList := by
  rw [marks, Text.pieces_of_not_mem one, List.filterMap_cons, List.filterMap_nil]
  cases mark? line <;> rfl

/-! ### Texts without the sign -/

def Unsigned (text : Text) : Prop := ¬ sign <:+: text

instance (text : Text) : Decidable (Unsigned text) := inferInstanceAs (Decidable (¬ _))

theorem Unsigned.of_infix {part text : Text} (unsigned : Unsigned text) (h : part <:+: text) :
    Unsigned part :=
  fun inside => unsigned (inside.trans h)

theorem marks_of_unsigned {text : Text} (unsigned : Unsigned text) : marks text = [] :=
  List.filterMap_eq_nil_iff.mpr fun _ member => mark?_eq_none fun begins =>
    unsigned (begins.isInfix.trans (Text.infix_of_mem_pieces member))

theorem infix_append_cases {word a b : Text} (h : word <:+: a ++ b) :
    word <:+: b ∨ ∃ front, front <:+ a ∧ front ≠ [] ∧ word <+: front ++ b := by
  obtain ⟨rest, begins, behind⟩ := List.infix_iff_prefix_suffix.mp h
  rcases suffix_append_cases behind with behind | ⟨front, inside, filled, rfl⟩
  · exact .inl (begins.isInfix.trans behind.isInfix)
  · exact .inr ⟨front, inside, filled, begins⟩

/-- Two texts without the sign where the second one does not go on with it. -/
theorem Unsigned.append {a b : Text} (first : Unsigned a) (second : Unsigned b)
    (apart : ∀ c ∈ sign.tail, b.head? ≠ some c) : Unsigned (a ++ b) := by
  intro stands
  rcases infix_append_cases stands with stands | ⟨front, inside, filled, begins⟩
  · exact second stands
  · exact first ((cons_prefix_of_prefix_append apart filled begins).isInfix.trans inside.isInfix)

/-- Two texts without the sign where the first one does not end in the beginning of it. -/
theorem Unsigned.prepend {a b : Text} (strays : ∀ rest ∈ a.tails, rest ≠ [] → Strays rest)
    (unsigned : Unsigned b) : Unsigned (a ++ b) := by
  intro stands
  rcases infix_append_cases stands with stands | ⟨front, inside, filled, begins⟩
  · exact unsigned stands
  · have apart := strays front ((List.mem_tails _ _).mpr inside) filled
    exact apart.not_prefix_append b begins

/-! ### What a merge writes -/

theorem newline_not_mem_title (side : Side) (kind : Kind) : '\n' ∉ title side kind := by
  cases side <;> cases kind <;> decide +kernel

theorem marks_line_append {line : Text} (one : '\n' ∉ line) (behind : Text) :
    marks (line ++ '\n' :: behind) = (mark? line).toList ++ marks behind := by
  rw [marks_append, marks_of_line one]

theorem marks_mark_append {mark : Mark} (one : '\n' ∉ mark.reference) (behind : Text) :
    marks (mark.line ++ '\n' :: behind) = mark :: marks behind := by
  have line : '\n' ∉ mark.line :=
    List.not_mem_append (List.not_mem_append (newline_not_mem_title _ _) one) (by decide +kernel)
  rw [marks_line_append line, mark?_eq_some_iff.mpr rfl]
  rfl

/-- A line that begins otherwise than with the sign is no mark. -/
theorem marks_other_append {front more : Text} (strays : Strays front) (one : '\n' ∉ front)
    (one' : '\n' ∉ more) (behind : Text) : marks (front ++ (more ++ '\n' :: behind)) = marks behind := by
  rw [← List.append_assoc, marks_line_append (List.not_mem_append one one'),
    mark?_eq_none (strays.not_prefix_append more)]
  rfl

section Block

variable {kind : Kind} {reference : Text} {file base : Path}

theorem marks_header (one : '\n' ∉ reference) (one' : '\n' ∉ file.text) (one'' : '\n' ∉ base.text)
    (front behind : Text) : marks (front ++ (header kind reference file base ++ behind)) =
      marks front ++ ⟨.start, kind, reference⟩ :: marks behind := by
  have note (rest : Text) : marks ((if kind = .includeFile then
      "% Note: \\include forces page breaks, may need adjustment\n".toList else []) ++ rest) = marks rest := by
    split
    · have cut : "% Note: \\include forces page breaks, may need adjustment\n".toList =
          "% Note: ".toList ++ ("\\include forces page breaks, may need adjustment".toList ++ ['\n']) := by
        decide +kernel
      rw [cut, List.append_assoc, List.append_assoc]
      exact marks_other_append (by decide +kernel) (by decide +kernel) (by decide +kernel) rest
    · rfl
  have original (rest : Text) :
      marks ("% Original file: ".toList ++ (file.text ++ '\n' :: rest)) = marks rest :=
    marks_other_append (by decide +kernel) (by decide +kernel) one' rest
  have directory (rest : Text) :
      marks ("% Base directory: ".toList ++ (base.text ++ '\n' :: rest)) = marks rest :=
    marks_other_append (by decide +kernel) (by decide +kernel) one'' rest
  simp only [header, startLine_eq, List.append_assoc, List.cons_append, List.nil_append]
  rw [marks_append, marks_mark_append one, note, original, directory]

theorem marks_footer (one : '\n' ∉ reference) (front behind : Text) :
    marks (front ++ (footer kind reference ++ behind)) =
      marks front ++ ⟨.stop, kind, reference⟩ :: marks behind := by
  simp only [footer, endLine_eq, List.append_assoc, List.cons_append, List.nil_append]
  rw [marks_append, marks_mark_append one]

/-- A block brings its two marks and those of its body, whatever it is put between. -/
theorem marks_block (one : '\n' ∉ reference) (one' : '\n' ∉ file.text) (one'' : '\n' ∉ base.text)
    (front body behind : Text) :
    marks (front ++ (block kind reference file base body ++ behind)) =
      marks front ++ ⟨.start, kind, reference⟩ :: marks body ++ ⟨.stop, kind, reference⟩ :: marks behind := by
  rw [block, List.append_assoc, List.append_assoc, marks_header one one' one'', marks_footer one]
  simp

theorem exists_notFound_eq (kind : Kind) (unsigned : Unsigned reference) : ∃ message : Text,
    notFound kind reference = message ++ ['\n'] ∧ Unsigned message ∧ message.head? = some '%' := by
  refine ⟨_, rfl, Unsigned.prepend ?_ unsigned, rfl⟩
  cases kind <;> decide +kernel

/-- The message goes on the line on which the text before it ends, and the sign is not made there. -/
theorem marks_notFound (unsigned : Unsigned reference) {front : Text} (before : Unsigned front)
    (behind : Text) : marks (front ++ (notFound kind reference ++ behind)) = marks behind := by
  obtain ⟨message, same, signless, begins⟩ := exists_notFound_eq kind unsigned
  have whole : Unsigned (front ++ message) := by
    refine before.append signless fun c member first => ?_
    obtain rfl : '%' = c := Option.some.inj (begins.symm.trans first)
    exact absurd member (by decide +kernel)
  calc marks (front ++ (notFound kind reference ++ behind))
      = marks (front ++ message ++ '\n' :: behind) := by
        rw [same, List.append_assoc, List.append_assoc]
        rfl
    _ = marks behind := by
        rw [marks_append, marks_of_unsigned whole]
        rfl

end Block

section Notice

variable {file : Path}

theorem marks_notice {front more : Text} (strays : Strays front) (one : '\n' ∉ front)
    (one' : '\n' ∉ more) : marks (front ++ (more ++ ['\n'])) = [] := by
  rw [marks_other_append strays one one']
  rfl

theorem marks_alreadyIncluded (one : '\n' ∉ file.text) : marks (alreadyIncluded file) = [] := by
  have last : " already included, skipping\n".toList = " already included, skipping".toList ++ ['\n'] := by
    decide +kernel
  unfold alreadyIncluded
  rw [last, List.append_assoc, ← List.append_assoc file.text]
  exact marks_notice (by decide +kernel) (by decide +kernel) (List.not_mem_append one (by decide +kernel))

theorem marks_unreadable {cause : Text} (one : '\n' ∉ file.text) (one' : '\n' ∉ cause) :
    marks (unreadable file cause) = [] := by
  unfold unreadable
  rw [List.append_assoc, List.append_assoc, List.append_assoc, ← List.append_assoc ": ".toList,
    ← List.append_assoc file.text]
  have named : '\n' ∉ file.text ++ (": ".toList ++ cause) :=
    List.not_mem_append one (List.not_mem_append (by decide +kernel) one')
  exact marks_notice (by decide +kernel) (by decide +kernel) named

theorem marks_depthExceeded (maxDepth : Nat) (one : '\n' ∉ file.text) :
    marks (depthExceeded maxDepth file) = [] := by
  have digits : '\n' ∉ Nat.toDigits 10 maxDepth := fun member =>
    absurd (Nat.isDigit_of_mem_toDigits (by decide) (by decide) member) (by decide)
  have named : '\n' ∉ Nat.toDigits 10 maxDepth ++ (" exceeded, not expanding ".toList ++ file.text) :=
    List.not_mem_append digits (List.not_mem_append (by decide +kernel) one)
  unfold depthExceeded
  rw [List.append_assoc, List.append_assoc, List.append_assoc,
    ← List.append_assoc " exceeded, not expanding ".toList, ← List.append_assoc (Nat.toDigits 10 maxDepth)]
  exact marks_notice (by decide +kernel) (by decide +kernel) named

end Notice

end TexFlat.Marker
