import TexFlat.Marker
import TexFlat.Proofs.Directive.Tidy

/-!
# What a merge inserts

A marker, and a block around a body that is quiet, has no directive begin in it, not even with the
help of the text behind it. So later passes leave it alone.
-/

namespace TexFlat

namespace Directive

theorem closed_of_not_mem {kind : Kind} {text : Text} (absent : '\\' ∉ text) : Closed kind text := by
  intro rest behind filled more _
  cases rest with
  | nil => exact absurd rfl filled
  | cons c rest =>
    refine at?_eq_none_of_ne fun same => absent ?_
    exact same ▸ behind.subset List.mem_cons_self

theorem backslash_not_mem_word (kind : Kind) : '\\' ∉ kind.word := by
  cases kind <;> decide

theorem backslash_not_mem_title (kind : Kind) : '\\' ∉ kind.title := by
  cases kind <;> decide

theorem Spelled.backslash_not_mem_reference {d : Directive} (spelled : Spelled d) :
    '\\' ∉ d.reference := by
  obtain ⟨name, directory⟩ := spelled.backslash_not_mem
  unfold reference
  split
  · rename_i found
    simp [name, directory _ found]
  · exact name

/-- No directive begins in the text before a text that starts with no letter. -/
def Quiet (text : Text) : Prop := ∀ kind, Silent kind Parted text

/-- A text that may take the place of a directive: no directive begins in it, and it goes on no word
that stands before it. -/
structure Inert (text : Text) : Prop where
  closed : ∀ kind, Closed kind text
  starts : ∃ c rest, text = c :: rest ∧ c.isAlpha = false

theorem Inert.parted {text : Text} (inert : Inert text) (more : Text) : Parted (text ++ more) := by
  obtain ⟨c, rest, rfl, sign⟩ := inert.starts
  exact parted_cons sign

end Directive

namespace Marker

open Directive

variable {kind : Kind} {reference : Text} {file base : Path}

theorem inert_notFound (plain : '\\' ∉ reference) : Inert (notFound kind reference) := by
  have front : '\\' ∉ "% Error: ".toList ++ kind.title ++ " file not found: ".toList :=
    List.not_mem_append (List.not_mem_append (by decide +kernel) (backslash_not_mem_title kind))
      (by decide +kernel)
  have whole : '\\' ∉ notFound kind reference :=
    List.not_mem_append (List.not_mem_append front plain) (by decide +kernel)
  exact ⟨fun _ => closed_of_not_mem whole, '%', _, rfl, by decide⟩

theorem closed_idle {c : Char} {behind : Text} (word : Text.isBlank c = false) (bare : c ≠ '{')
    (absent : '\\' ∉ ' ' :: c :: behind) (kind : Kind) :
    Closed kind (command .includeFile ++ ' ' :: c :: behind) := by
  intro rest suffix filled more _
  rcases suffix_cons_cases suffix with rfl | suffix
  · have note : command .includeFile <+: command .includeFile ++ ' ' :: c :: behind ++ more :=
      ⟨' ' :: c :: behind ++ more, by rw [List.append_assoc]⟩
    cases kind with
    | inputFile =>
      exact at?_eq_none_of_not_prefix fun begins => absurd (kind_eq_of_begins begins note) nofun
    | importFile =>
      exact at?_eq_none_of_not_prefix fun begins => absurd (kind_eq_of_begins begins note) nofun
    | includeFile =>
      -- Behind the blank comes a word, and an include takes its argument in braces only.
      have read : spaced? braced? (' ' :: c :: (behind ++ more)) = none := by
        rw [spaced?, List.dropWhile_cons_of_pos (by decide), List.dropWhile_cons_of_neg (by simp [word]),
          braced?_eq_none_of_ne bare]
        rfl
      exact congrArg (Option.bind · _) read
  · cases rest with
    | nil => exact absurd rfl filled
    | cons first rest =>
      refine at?_eq_none_of_ne fun same => ?_
      rcases List.mem_append.mp (suffix.subset List.mem_cons_self) with inside | inside
      · exact absurd (isAlpha_of_mem_word inside) (by rw [same]; decide)
      · exact absent (same ▸ inside)

/-- The command that stands in the note on page breaks takes no argument there. -/
theorem closed_note (kind : Kind) :
    Closed kind "% Note: \\include forces page breaks, may need adjustment\n".toList := by
  have cut : "% Note: \\include forces page breaks, may need adjustment\n".toList =
      "% Note: ".toList ++ (command .includeFile ++
        ' ' :: 'f' :: "orces page breaks, may need adjustment\n".toList) := by decide +kernel
  have front : '\\' ∉ "% Note: ".toList := by decide +kernel
  have behind : '\\' ∉ ' ' :: 'f' :: "orces page breaks, may need adjustment\n".toList := by
    decide +kernel
  rw [cut]
  exact Closed.append (closed_of_not_mem front) (closed_idle (by decide) (by decide) behind kind)

theorem backslash_not_mem_line {front : Text} (absent : '\\' ∉ front) (kind : Kind)
    (plain : '\\' ∉ reference) :
    '\\' ∉ front ++ kind.word ++ ": ".toList ++ reference ++ " ======\n".toList := by
  have titled : '\\' ∉ front ++ kind.word ++ ": ".toList :=
    List.not_mem_append (List.not_mem_append absent (backslash_not_mem_word kind)) (by decide +kernel)
  exact List.not_mem_append (List.not_mem_append titled plain) (by decide +kernel)

theorem closed_header (plain : '\\' ∉ reference) (mute : Mute file.text) (mute' : Mute base.text)
    (other : Kind) : Closed other (header kind reference file base) := by
  have start : '\\' ∉ '\n' :: startLine kind reference :=
    List.not_mem_cons_of_ne_of_not_mem (by decide) (backslash_not_mem_line (by decide +kernel) kind plain)
  have note : Closed other (if kind = .includeFile then
      "% Note: \\include forces page breaks, may need adjustment\n".toList else []) := by
    split
    · exact closed_note other
    · exact closed_of_not_mem List.not_mem_nil
  have line {title : Text} {path : Path} (absent : '\\' ∉ title) (mute : Mute path.text) :
      Closed other (title ++ path.text ++ ['\n']) := (mute.prepend absent).silent.closed_line
  have original := line (show '\\' ∉ "% Original file: ".toList by decide +kernel) mute
  have directory := line (show '\\' ∉ "% Base directory: ".toList by decide +kernel) mute'
  have whole := (closed_of_not_mem start).append (note.append (original.append directory))
  simpa only [header, List.append_assoc, List.cons_append, List.nil_append] using whole

theorem inert_block (plain : '\\' ∉ reference) (mute : Mute file.text) (mute' : Mute base.text)
    {body : Text} (quiet : Quiet body) : Inert (block kind reference file base body) := by
  have last : '\\' ∉ footer kind reference :=
    List.not_mem_cons_of_ne_of_not_mem (by decide) (backslash_not_mem_line (by decide +kernel) kind plain)
  refine ⟨fun other => ?_, '\n', _, rfl, by decide⟩
  rw [block, List.append_assoc]
  exact (closed_header plain mute mute' other).append
    (Silent.append (quiet other) (closed_of_not_mem last) fun _ _ => parted_cons rfl)

theorem quiet_alreadyIncluded (mute : Mute file.text) : Quiet (alreadyIncluded file) := by
  have front : '\\' ∉ "% Warning: File ".toList := by decide +kernel
  have behind : Mute " already included, skipping\n".toList := mute_of_not_mem (by decide +kernel)
  have last : Mute (file.text ++ " already included, skipping\n".toList) :=
    mute.append behind (parted_of_head? (by decide +kernel))
  intro kind
  unfold alreadyIncluded
  rw [List.append_assoc]
  exact (last.prepend front).silent

theorem quiet_unreadable {cause : Text} (mute : Mute file.text) (mute' : Mute cause) :
    Quiet (unreadable file cause) := by
  have front : '\\' ∉ "% Error: Cannot read file ".toList := by decide +kernel
  have colon : '\\' ∉ ": ".toList := by decide +kernel
  have line : Mute (cause ++ ['\n']) :=
    mute'.append (mute_of_not_mem (by decide +kernel)) (parted_cons rfl)
  have last : Mute (file.text ++ (": ".toList ++ (cause ++ ['\n']))) :=
    mute.append (line.prepend colon) (parted_of_head? rfl)
  intro kind
  unfold unreadable
  rw [List.append_assoc, List.append_assoc, List.append_assoc]
  exact (last.prepend front).silent

theorem quiet_depthExceeded (maxDepth : Nat) (mute : Mute file.text) :
    Quiet (depthExceeded maxDepth file) := by
  have digits : '\\' ∉ Nat.toDigits 10 maxDepth := fun member =>
    absurd (Nat.isDigit_of_mem_toDigits (by decide) (by decide) member) (by decide)
  have front : '\\' ∉ "% Error: Maximum inclusion depth ".toList ++ Nat.toDigits 10 maxDepth ++
      " exceeded, not expanding ".toList :=
    List.not_mem_append (List.not_mem_append (by decide +kernel) digits) (by decide +kernel)
  have last : Mute (file.text ++ ['\n']) :=
    mute.append (mute_of_not_mem (by decide +kernel)) (parted_cons rfl)
  intro kind
  unfold depthExceeded
  rw [List.append_assoc]
  exact (last.prepend front).silent

end Marker
end TexFlat
