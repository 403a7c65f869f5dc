import TexFlat.Proofs.Marker.Balance
import TexFlat.Proofs.Merge.Project

/-!
# Markers are nested

In what a tidy project is merged to, the lines that begin and end the blocks are nested, each end
agrees with its start, and no more blocks stand in one another than there are levels. If the texts of
the files are without the sign, they bring no such line, not even with what is put in beside them: a
block begins on a new line, and what is behind it or behind a message does so too.
-/

namespace TexFlat.Merge

open Directive (Kind Spelled Tidy Occurrence Segment lexemes)
open Marker (Balanced Unsigned marks)

variable {store : Store} {options : Options} {levels : Nat} {edits : List Edit} {segments : List Segment}
  {place : Nat}

/-- Whatever it is put between, the text brings blocks that are whole, and what is behind it begins
on a new line. -/
def Sealed (levels : Nat) (text : Text) : Prop :=
  ∃ inner, Balanced levels inner ∧ ∀ front behind, Unsigned front →
    marks (front ++ (text ++ behind)) = inner ++ marks behind

/-! ### One substitution -/

theorem source_infix_of_mem_occurrencesFrom {o : Occurrence}
    (h : o ∈ Directive.occurrencesFrom place segments) : o.directive.source <:+: lexemes segments := by
  induction segments generalizing place with
  | nil => exact absurd h List.not_mem_nil
  | cons s others ih =>
    have behind : lexemes others <:+: lexemes (s :: others) := (List.suffix_append _ _).isInfix
    cases s with
    | char c => exact (ih h).trans behind
    | directive d =>
      rcases List.mem_cons.mp h with rfl | h
      · exact (List.prefix_append _ _).isInfix
      · exact (ih h).trans behind

/-- The induction carries what stands between the last directive and the place. -/
theorem balanced_fillFrom (wholes : ∀ edit ∈ edits, Sealed levels edit.text) {front : Text}
    (unsigned : Unsigned (front ++ lexemes segments))
    (filled : ∀ o ∈ Directive.occurrencesFrom place segments, ∃ edit ∈ edits, edit.start = o.start) :
    Balanced levels (marks (front ++ lexemes (fillFrom edits place segments))) := by
  induction segments generalizing place front with
  | nil =>
    have same : marks (front ++ lexemes (fillFrom edits place [])) = [] := Marker.marks_of_unsigned unsigned
    rw [same]
    exact .none
  | cons s others ih =>
    cases s with
    | char c =>
      -- The character joins what stands before the place.
      have step (text : Text) : front ++ c :: text = front ++ [c] ++ text := by simp
      have rest := @ih (place + c.utf8Size) (front ++ [c]) (by rwa [← step]) filled
      rwa [← step] at rest
    | directive d =>
      obtain ⟨edit, found⟩ := exists_find?_start (filled _ List.mem_cons_self)
      obtain ⟨inner, balanced, whole⟩ := wholes edit (List.mem_of_find?_eq_some found)
      have before : Unsigned front := unsigned.of_infix (List.prefix_append _ _).isInfix
      have behind : Unsigned (lexemes others) :=
        unsigned.of_infix (((List.suffix_append _ _).trans (List.suffix_append _ _)).isInfix)
      have rest := @ih (place + Text.utf8Length d.source) [] behind fun o member =>
        filled o (List.mem_cons_of_mem _ member)
      rw [fillFrom_of_some found, Directive.lexemes_append, Directive.lexemes_map_char, whole _ _ before]
      exact balanced.append rest

theorem balanced_atOnce {replace : Run → Directive → Text × Run} {text : Text} (tidy : Tidy text)
    (unsigned : Unsigned text)
    (wholes : ∀ run d, Spelled d → Unsigned d.source → Sealed levels (replace run d).1) (run : Run) :
    Balanced levels (marks (atOnce replace run text).1) := by
  obtain ⟨segments, settled, rfl⟩ := tidy.exists_settled
  rw [atOnce_lexemes settled]
  rw [← List.nil_append (lexemes segments)] at unsigned
  refine balanced_fillFrom (fun edit member => ?_) unsigned fun o => exists_edit_of_mem settled replace run
  obtain ⟨o, inside, -, -, run, same⟩ := exists_of_mem_substitutions member
  have stands := (mem_flatMap_scan settled).mp inside
  rw [same]
  exact wholes run o.directive (spelled_of_mem_occurrencesFrom settled stands)
    (unsigned.of_infix (source_infix_of_mem_occurrencesFrom stands))

/-! ### What stands for a directive -/

theorem sealed_notFound {kind : Kind} {reference : Text} (unsigned : Unsigned reference) :
    Sealed levels (Marker.notFound kind reference) :=
  ⟨[], .none, fun _ behind before => Marker.marks_notFound unsigned before behind⟩

theorem sealed_block {kind : Kind} {reference body : Text} {file base : Path} (one : '\n' ∉ reference)
    (one' : '\n' ∉ file.text) (one'' : '\n' ∉ base.text) (balanced : Balanced levels (marks body)) :
    Sealed (levels + 1) (Marker.block kind reference file base body) := by
  refine ⟨_, .pair kind reference balanced .none, fun front behind before => ?_⟩
  rw [Marker.marks_block one one' one'', Marker.marks_of_unsigned before]
  simp

theorem newline_not_mem_of_flat {text : Text} (flat : Directive.Flat text) : '\n' ∉ text :=
  fun member => (flat _ member).2.2.2 rfl

theorem unsigned_reference {d : Directive} (spelled : Spelled d) (unsigned : Unsigned d.source) :
    Unsigned d.reference := by
  obtain ⟨⟨name, -⟩, directory⟩ := spelled.named
  unfold Directive.reference
  split
  · rename_i found
    have slash : ∀ rest ∈ List.tails ['/'], rest ≠ [] → Marker.Strays rest := by decide +kernel
    have last : Unsigned ('/' :: d.name) := Unsigned.prepend slash (unsigned.of_infix name)
    refine (unsigned.of_infix (directory _ found).1).append last fun c member same => ?_
    obtain rfl : '/' = c := Option.some.inj same
    exact absurd member (by decide +kernel)
  · exact unsigned.of_infix name

theorem newline_not_mem_reference {d : Directive} (spelled : Spelled d) : '\n' ∉ d.reference := by
  obtain ⟨⟨-, name⟩, directory⟩ := spelled.named
  unfold Directive.reference
  split
  · rename_i found
    simp [newline_not_mem_of_flat name, newline_not_mem_of_flat (directory _ found).2]
  · exact newline_not_mem_of_flat name

theorem hereditary_one_line : Path.Hereditary ('\n' ∉ ·) := Path.hereditary_not_mem (by decide) (by decide)

theorem sealed_replacement {visit : Run → (file base : Path) → Text × Run} {base : Path}
    (calls : ∀ run file base, '\n' ∉ file.text → '\n' ∉ base.text →
      Balanced levels (marks (visit run file base).1))
    (one : '\n' ∉ base.text) (run : Run) {d : Directive} (spelled : Spelled d) (unsigned : Unsigned d.source) :
    Sealed (levels + 1) (replacement store.source visit base run d).1 := by
  have name := newline_not_mem_of_flat spelled.named.1.2
  have dir : '\n' ∉ (d.searchDir base).text := searchDir_of_hereditary hereditary_one_line
    (fun directory named => newline_not_mem_of_flat (spelled.named.2 directory named).2) one
  cases found : store.source.resolve? d.name (d.searchDir base) with
  | none =>
    rw [replacement_of_none found]
    exact sealed_notFound (unsigned_reference spelled unsigned)
  | some target =>
    have file : '\n' ∉ target.text := target_of_hereditary hereditary_one_line name
      (List.not_mem_append name (by decide)) dir found
    rw [replacement_of_some found]
    exact sealed_block (newline_not_mem_reference spelled) file dir (calls _ target _ file dir)

/-! ### The induction -/

theorem balanced_visitBy (tidy : TidyTexts store)
    (unsigned : ∀ path text, store.content? path = some text → Unsigned text) (run : Run) (file base : Path)
    (one : '\n' ∉ file.text) (one' : '\n' ∉ base.text) :
    Balanced levels (marks (visitBy atOnce store.source options levels run file base).1) := by
  refine visitBy_induction (motive := fun levels run file base result => '\n' ∉ file.text →
    '\n' ∉ base.text → Balanced levels (marks result.1)) ?_ ?_ ?_ ?_ levels run file base one one'
  · intro levels run file base _ one _
    rw [Marker.marks_alreadyIncluded one]
    exact .none
  · intro run file base _ one _
    rw [Marker.marks_depthExceeded options.maxDepth one]
    exact .none
  · intro levels run file base cause _ read one _
    obtain rfl := Store.eq_noSuchFile_of_read read
    have message : '\n' ∉ (Fault.noSuchFile file).message := List.not_mem_append (by decide +kernel) one
    rw [Marker.marks_unreadable one message]
    exact .none
  · intro levels run file base text _ read calls _ one
    have found := Store.read_eq_ok_iff.mp read
    exact balanced_atOnce (tidy file text found) (unsigned file text found)
      (fun run _ spelled unsigned => sealed_replacement calls one run spelled unsigned) _

/-- The lines of a merged tidy project that begin and end the blocks are nested. -/
theorem merge_nests_markers {store : Store} {root : Path} (options : Options) (tidy : TidyProject store root)
    (unsigned : ∀ path text, store.content? path = some text → Unsigned text)
    (present : store.present root = true) :
    ∃ merged events, merge store.source options root = (.ok merged, events) ∧
      Balanced (options.maxDepth + 1) (marks merged.content) := by
  have one : '\n' ∉ root.normalize.text := hereditary_one_line.normalize (newline_not_mem_of_flat tidy.root)
  refine ⟨_, _, merge_of_present options present, ?_⟩
  show Balanced _ (marks (fromRoot rescan store options root).1)
  rw [(fromRoot_rescan_eq options tidy).1]
  exact balanced_visitBy tidy.texts unsigned _ _ _ one (hereditary_one_line.directory one)

/-- A cycle, a file that is not there and one too deep for a limit of one, beside parts of the sign. -/
def bramble : Store where
  files := [
    (.ofString "/m.tex",
      "% =====\\input\x7ba\x7d\\include\x7bgone\x7d\\import\x7bs\x7d\x7bb\x7d======".toList),
    (.ofString "/a.tex", "\\input\x7bm\x7d".toList),
    (.ofString "/s/b.tex", "\\include\x7bc\x7d".toList),
    (.ofString "/s/c.tex", "C".toList)]

theorem tidy_bramble : TidyProject bramble (.ofString "/m.tex") := by
  have empty : Directive.Complete [] := Directive.commands_of_not_mem List.not_mem_nil
  have tail : Directive.Complete "======".toList := Directive.commands_of_not_mem (by decide)
  have last := tail.imported (show Directive.Plain "s".toList by decide)
    (show Directive.Plain "b".toList by decide)
  have before := last.included (show Directive.Plain "gone".toList by decide)
  have first := before.input (show Directive.Plain "a".toList by decide)
  have whole := first.append (show '\\' ∉ "% =====".toList by decide)
  refine ⟨fun path text found => Directive.Complete.tidy ?_, by decide +kernel⟩
  obtain ⟨file, member, rfl⟩ := Store.exists_of_content? found
  simp only [bramble, List.mem_cons, List.not_mem_nil, or_false] at member
  rcases member with rfl | rfl | rfl | rfl
  · exact whole
  · exact empty.input (show Directive.Plain "m".toList by decide)
  · exact empty.included (show Directive.Plain "c".toList by decide)
  · exact Directive.commands_of_not_mem (by decide)

theorem unsigned_bramble (path : Path) (text : Text) (found : bramble.content? path = some text) :
    Unsigned text := by
  obtain ⟨file, member, rfl⟩ := Store.exists_of_content? found
  simp only [bramble, List.mem_cons, List.not_mem_nil, or_false] at member
  rcases member with rfl | rfl | rfl | rfl <;> decide +kernel

/-- The bound is met: one level would not do. -/
theorem merge_nests_markers_bramble :
    TidyProject bramble (.ofString "/m.tex") ∧
      (∀ path text, bramble.content? path = some text → Unsigned text) ∧
      bramble.present (.ofString "/m.tex") = true ∧
      (∃ merged events, merge bramble.source { maxDepth := 1 } (.ofString "/m.tex") = (.ok merged, events) ∧
        Balanced 2 (marks merged.content)) ∧
      (merge bramble.source { maxDepth := 1 } (.ofString "/m.tex")).1.map (fun merged =>
          (marks merged.content, decide (Balanced 1 (marks merged.content)))) = .ok
        ([⟨.start, .inputFile, "a".toList⟩, ⟨.start, .inputFile, "m".toList⟩,
          ⟨.stop, .inputFile, "m".toList⟩, ⟨.stop, .inputFile, "a".toList⟩,
          ⟨.start, .importFile, "s/b".toList⟩, ⟨.start, .includeFile, "c".toList⟩,
          ⟨.stop, .includeFile, "c".toList⟩, ⟨.stop, .importFile, "s/b".toList⟩], false) :=
  have present : bramble.present (.ofString "/m.tex") = true := by decide +kernel
  ⟨tidy_bramble, unsigned_bramble, present,
    merge_nests_markers { maxDepth := 1 } tidy_bramble unsigned_bramble present, by decide +kernel⟩

end TexFlat.Merge
