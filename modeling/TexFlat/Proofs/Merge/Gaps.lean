import TexFlat.Proofs.Directive.Grammar
import TexFlat.Proofs.Directive.Reading
import TexFlat.Proofs.Merge.Walk

/-!
# What a pass copies

A pass cuts its text at the directives that it finds, and copies what is between them. `paste?` does so
by bytes, with a cursor, and fails where a cut would be within a character or a cursor would have to go
back. `pass_copies_gaps` says that it never fails, and that between the texts that are put in all of the
rest of the text stands, each part once.
-/

namespace TexFlat

namespace Directive

variable {text : Text} {kind : Kind} {place : Nat} {found : List Occurrence} {o : Occurrence}

theorem Leftmost.start_le (leftmost : Leftmost text kind place found) (h : o ∈ found) : place ≤ o.start := by
  induction leftmost with
  | none => exact absurd h List.not_mem_nil
  | next behind _ stop _ _ ih =>
    rcases List.mem_cons.mp h with rfl | h
    · exact behind
    · have later := ih h
      omega

theorem Leftmost.stop_eq (leftmost : Leftmost text kind place found) (h : o ∈ found) :
    o.stop = o.start + Text.utf8Length o.directive.source := by
  induction leftmost with
  | none => exact absurd h List.not_mem_nil
  | next _ _ stop _ _ ih =>
    rcases List.mem_cons.mp h with rfl | h
    · exact stop
    · exact ih h

theorem Leftmost.pairwise (leftmost : Leftmost text kind place found) :
    found.Pairwise fun o later => o.stop ≤ later.start := by
  induction leftmost with
  | none => exact .nil
  | next _ _ _ _ others ih => exact List.pairwise_cons.mpr ⟨fun _ member => others.start_le member, ih⟩

/-- A directive that was found is what stands between its two bytes, and is not empty. -/
theorem slice?_of_mem_scan (h : o ∈ scan text kind) :
    text.slice? o.start o.stop = some o.directive.source ∧ o.start < o.stop := by
  have leftmost := leftmost_scan text kind
  obtain ⟨before, rest, whole, place, -, formed⟩ := leftmost.beginsAt h
  have stop := leftmost.stop_eq h
  have filled : Text.utf8Length o.directive.source ≠ 0 := by
    rw [ne_eq, Text.utf8Length_eq_zero_iff]
    exact source_ne_nil_of_at? formed.at?_eq
  exact ⟨Text.slice?_eq_some_iff.mpr ⟨before, rest, whole, place, stop.symm⟩, by omega⟩

end Directive

namespace Merge

open Directive (Kind Occurrence Segment occurrencesFrom scan lexemes)

variable {text before behind : Text} {found : List Occurrence} {kind : Kind} {o : Occurrence}

/-- The text from the byte `cursor` on after the edits, which are made from left to right: what is copied
is cut out between them. -/
def paste? (text : Text) : (cursor : Nat) → List Edit → Option Text
  | cursor, [] => text.slice? cursor (Text.utf8Length text)
  | cursor, edit :: others => do
    let gap ← text.slice? cursor edit.start
    let behind ← paste? text edit.stop others
    some (gap ++ (edit.text ++ behind))

/-- The edits that put a text in the place of each directive. -/
def editsWith (found : List Occurrence) (texts : List Text) : List Edit :=
  List.zipWith (fun o text => ⟨o.start, o.stop, text⟩) found texts

theorem slice?_append (before gap behind : Text) :
    (before ++ (gap ++ behind)).slice? (Text.utf8Length before) (Text.utf8Length (before ++ gap)) =
      some gap :=
  Text.slice?_eq_some_iff.mpr ⟨before, behind, rfl, rfl, (Text.utf8Length_append before gap).symm⟩

theorem slice?_rest (before behind : Text) :
    (before ++ behind).slice? (Text.utf8Length before) (Text.utf8Length (before ++ behind)) = some behind := by
  have whole := slice?_append before behind []
  rwa [List.append_nil] at whole

theorem paste?_cons {cursor : Nat} {edit : Edit} {gap : Text} (copied : text.slice? cursor edit.start = some gap)
    (others : List Edit) : paste? text cursor (edit :: others) =
      (paste? text edit.stop others).map fun behind => gap ++ (edit.text ++ behind) := by
  rw [paste?, copied]
  cases paste? text edit.stop others <;> rfl

/-- The gaps are the same whatever is put between them. -/
theorem exists_gaps (slices : ∀ o ∈ found, text.slice? o.start o.stop = some o.directive.source)
    (order : found.Pairwise fun o later => o.stop ≤ later.start)
    (later : ∀ o ∈ found, Text.utf8Length before ≤ o.start) (whole : text = before ++ behind) :
    ∃ first gaps, gaps.length = found.length ∧
      behind = first ++ (List.zipWith (· ++ ·) (found.map (·.directive.source)) gaps).flatten ∧
      ∀ texts : List Text, texts.length = found.length →
        paste? text (Text.utf8Length before) (editsWith found texts) =
          some (first ++ (List.zipWith (· ++ ·) texts gaps).flatten) := by
  induction found generalizing before behind with
  | nil =>
    refine ⟨behind, [], rfl, by simp, fun texts none => ?_⟩
    obtain rfl := List.length_eq_zero_iff.mp none
    subst whole
    simpa [editsWith, paste?] using slice?_rest before behind
  | cons o found ih =>
    obtain ⟨apart, order⟩ := List.pairwise_cons.mp order
    -- The cursor has not passed the directive, so what is before it is cut where the gap begins.
    obtain ⟨upTo, rest, cut, start, stop⟩ := Text.slice?_eq_some_iff.mp (slices o List.mem_cons_self)
    obtain ⟨gap, rfl, same⟩ := Text.exists_append_of_utf8Length_le (whole.symm.trans cut)
      (by rw [start]; exact later o List.mem_cons_self)
    have reached : Text.utf8Length (before ++ gap ++ o.directive.source) = o.stop := by
      rw [Text.utf8Length_append, start, stop]
    obtain ⟨first, gaps, size, whole', pasted⟩ := @ih (before ++ gap ++ o.directive.source) rest
      (fun o' member => slices o' (List.mem_cons_of_mem o member)) order
      (fun o' member => by rw [reached]; exact apart o' member) (by rw [cut, ← List.append_assoc])
    refine ⟨gap, first :: gaps, by simp [size], ?_, fun texts many => ?_⟩
    · rw [same, whole']
      simp
    · obtain ⟨new, texts, rfl⟩ := List.exists_cons_of_length_eq_add_one many
      have copied : text.slice? (Text.utf8Length before) o.start = some gap := by
        rw [cut, ← start, List.append_assoc]
        exact slice?_append before gap _
      have onward := pasted texts (by simpa using many)
      rw [reached] at onward
      rw [editsWith, List.zipWith_cons_cons, paste?_cons copied]
      show (paste? text o.stop (editsWith found texts)).map _ = _
      rw [onward]
      simp

/-- A pass is the pasting of what takes the place of its directives. The induction carries what was
copied since the cursor. -/
theorem splice_eq_paste? (replace : Run → Directive → Text × Run) (done before copied : Text) (run : Run)
    (segments : List Segment) :
    (paste? (before ++ (copied ++ lexemes segments)) (Text.utf8Length before)
        (substitutions replace run (occurrencesFrom (Text.utf8Length (before ++ copied)) segments)).1).map
          (done.reverse ++ ·) =
      some (splice replace (copied.reverse ++ done) run segments).1 := by
  induction segments generalizing done before copied run with
  | nil =>
    have rest := slice?_rest before copied
    simp [occurrencesFrom, substitutions, paste?, splice, rest]
  | cons s others ih =>
    cases s with
    | char c =>
      have step := ih done before (copied ++ [c]) run
      have place : Text.utf8Length (before ++ (copied ++ [c])) =
          Text.utf8Length (before ++ copied) + c.utf8Size := by
        rw [← List.append_assoc, Text.utf8Length_append]
        rfl
      rw [place] at step
      simpa [occurrencesFrom, splice, Segment.lexeme] using step
    | directive d =>
      have place : Text.utf8Length (before ++ copied ++ d.source) =
          Text.utf8Length (before ++ copied) + Text.utf8Length d.source := Text.utf8Length_append _ _
      have gap := slice?_append before copied (d.source ++ lexemes others)
      have step := ih ((replace run d).1.reverse ++ (copied.reverse ++ done)) (before ++ copied ++ d.source) []
        (replace run d).2
      rw [List.append_nil, place] at step
      simp only [List.append_assoc, List.nil_append, List.reverse_nil] at step
      rw [splice, ← step, Directive.lexemes_cons, occurrencesFrom, substitutions, paste?_cons gap,
        Option.map_map]
      simp [Function.comp_def, Segment.lexeme]

theorem editsWith_substitutions (replace : Run → Directive → Text × Run) (run : Run)
    (found : List Occurrence) : editsWith found ((substitutions replace run found).1.map (·.text)) =
      (substitutions replace run found).1 := by
  induction found generalizing run with
  | nil => rfl
  | cons o found ih => exact congrArg (_ :: ·) (ih _)

theorem length_substitutions (replace : Run → Directive → Text × Run) (run : Run) (found : List Occurrence) :
    (substitutions replace run found).1.length = found.length := by
  induction found generalizing run with
  | nil => rfl
  | cons o found ih => simp [substitutions, ih]

/-- The directives that a scan finds are stretches of the text between boundaries, in order and apart. To
cut the text at them never fails, whatever is put in: between the texts that are put in there are always
the same gaps, and with the directives themselves in their places this is the text. A pass is such a
pasting, of what its directives are replaced by one after the other. -/
theorem pass_copies_gaps (text : Text) (kind : Kind) :
    (scan text kind).Pairwise (fun o later => o.stop ≤ later.start) ∧
    (∀ o ∈ scan text kind, o.start < o.stop ∧ o.stop ≤ Text.utf8Length text ∧
      Text.IsBoundary text o.start ∧ Text.IsBoundary text o.stop ∧
      text.slice? o.start o.stop = some o.directive.source) ∧
    ∃ first gaps, gaps.length = (scan text kind).length ∧
      text = first ++ (List.zipWith (· ++ ·) ((scan text kind).map (·.directive.source)) gaps).flatten ∧
      (∀ texts : List Text, texts.length = (scan text kind).length →
        paste? text 0 (editsWith (scan text kind) texts) =
          some (first ++ (List.zipWith (· ++ ·) texts gaps).flatten)) ∧
      ∀ (replace : Run → Directive → Text × Run) (run : Run),
        let made := substitutions replace run (scan text kind)
        paste? text 0 made.1 = some (pass replace (text, run) kind).1 ∧
          pass replace (text, run) kind =
            (first ++ (List.zipWith (· ++ ·) (made.1.map (·.text)) gaps).flatten, made.2) := by
  have slices := fun o member => (@Directive.slice?_of_mem_scan text kind o member).1
  have order := (Directive.leftmost_scan text kind).pairwise
  obtain ⟨first, gaps, size, whole, pasted⟩ := @exists_gaps text [] text (scan text kind) slices order
    (fun _ _ => Nat.zero_le _) rfl
  refine ⟨order, fun o member => ?_, first, gaps, size, whole, pasted, fun replace run => ?_⟩
  · have cut : (text.slice? o.start o.stop).isSome := by
      rw [slices o member]
      rfl
    obtain ⟨-, start, stop⟩ := Text.isSome_slice?_iff.mp cut
    exact ⟨(Directive.slice?_of_mem_scan member).2, stop.le, start, stop, slices o member⟩
  · have once : paste? text 0 (substitutions replace run (scan text kind)).1 =
        some (pass replace (text, run) kind).1 := by
      have copied := splice_eq_paste? replace [] [] [] run (Directive.segments kind text)
      have spelt : lexemes (Directive.segments kind text) = text := Directive.lexemes_segments kind text
      simp only [spelt, List.nil_append, List.reverse_nil, Option.map_id'] at copied
      exact copied
    have after : (pass replace (text, run) kind).2 = (substitutions replace run (scan text kind)).2 := by
      rw [substitutions_run, scan, map_directive_occurrencesFrom]
      exact splice_run [] run _
    have many := pasted ((substitutions replace run (scan text kind)).1.map (·.text))
      (by rw [List.length_map, length_substitutions])
    rw [editsWith_substitutions] at many
    exact ⟨once, Prod.ext (Option.some.inj (once.symm.trans many)) after⟩

/-- Two inputs between characters of two and of three bytes, the second one behind a wide blank. -/
theorem pass_copies_gaps_wide :
    let text : Text := "é\\input\x7ba\x7d…\\input\u2003\x7bb\x7dé".toList
    (∃ o ∈ scan text .inputFile, (o.start, o.stop) = (2, 11) ∧ Text.IsBoundary text o.start ∧
      text.slice? o.start o.stop = some o.directive.source) ∧
      (scan text .inputFile).length = 2 ∧
      ∃ first gaps, gaps.length = 2 ∧ paste? text 0 (editsWith (scan text .inputFile) [['A'], ['B']]) =
        some (first ++ (List.zipWith (· ++ ·) [['A'], ['B']] gaps).flatten) := by
  intro text
  have two : (scan text .inputFile).length = 2 := by decide +kernel
  have found : ∃ o ∈ scan text .inputFile, (o.start, o.stop) = (2, 11) := by decide +kernel
  obtain ⟨-, spans, first, gaps, size, -, pasted, -⟩ := pass_copies_gaps text .inputFile
  obtain ⟨o, member, places⟩ := found
  obtain ⟨-, -, start, -, slice⟩ := spans o member
  exact ⟨⟨o, member, places, start, slice⟩, two, first, gaps, size.trans two, pasted _ two.symm⟩

end Merge
end TexFlat
