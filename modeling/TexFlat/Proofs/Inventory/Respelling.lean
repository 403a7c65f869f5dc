import TexFlat.Proofs.Inventory.Walk
import TexFlat.Proofs.Merge.Respelling

/-!
# Two spellings of a project

An inventory follows the references of a text, and in two spellings of a tidy text these go together one by
one. So neither what a merge writes nor what an inventory lists depends on the spelling.
-/

namespace TexFlat

namespace Inventory

open Directive (Respelled Tidy Kind)

variable {store store' : Store} {options : Options} {text text' : Text}

theorem forall₂_references (respelled : Respelled text text') (tidy : Tidy text) (tidy' : Tidy text') :
    List.Forall₂ Directive.Same (references text) (references text') := by
  obtain ⟨segments, segments', settled, settled', rfl, rfl, pairs⟩ := respelled.exists_settled tidy tidy'
  have length := (Directive.forall₂_occurrencesFrom pairs 0 0).length_eq
  have links := Merge.links_paired settled settled' pairs
  rw [← Merge.map_directive_scan, ← Merge.map_directive_scan, List.forall₂_map_left_iff,
    List.forall₂_map_right_iff]
  exact (links.forall₂_scan settled settled' (Merge.forall₂_paired length)).imp fun _ _ => links.same

theorem entries_foldl_follow_eq (respelling : Respelling store store')
    {visit visit' : Survey → (file base : Path) → Origin → Survey}
    (calls : ∀ {survey survey'} file base origin, survey.entries = survey'.entries →
      (visit survey file base origin).entries = (visit' survey' file base origin).entries)
    {ds ds' : List Directive} (pairs : List.Forall₂ Directive.Same ds ds') (base : Path) {survey survey' : Survey}
    (listed : survey.entries = survey'.entries) :
    (ds.foldl (follow store.source visit base) survey).entries =
      (ds'.foldl (follow store'.source visit' base) survey').entries := by
  induction pairs generalizing survey survey' with
  | nil => exact listed
  | @cons d d' ds ds' same _ ih =>
    have resolved : store.source.resolve? d.name (d.searchDir base) =
        store'.source.resolve? d'.name (d'.searchDir base) := by
      rw [same.name, same.searchDir_eq, respelling.resolve?_eq]
    apply ih
    cases found : store'.source.resolve? d'.name (d'.searchDir base) with
    | none =>
      rw [follow_of_none (resolved.trans found), follow_of_none found]
      exact listed
    | some target =>
      rw [follow_of_some (resolved.trans found), follow_of_some found, same.kind, same.searchDir_eq]
      exact calls target _ _ listed

theorem lists_settle_iff (respelling : Respelling store store') {survey survey' : Survey}
    (listed : survey.entries = survey'.entries) (file base : Path) :
    survey.Lists (store.source.settle file) base ↔ survey'.Lists (store'.source.settle file) base := by
  rw [Survey.Lists, Survey.Lists, listed, respelling.settle_eq]

/-- The surveys of two spellings of a tidy project list the same. -/
theorem entries_visit_eq (respelling : Respelling store store') (tidy : Merge.TidyTexts store)
    (tidy' : Merge.TidyTexts store') (levels : Nat) {survey survey' : Survey} (file base : Path)
    (origin : Origin) (listed : survey.entries = survey'.entries) :
    (visit store.source options levels survey file base origin).entries =
      (visit store'.source options levels survey' file base origin).entries := by
  induction levels generalizing survey survey' file base origin with
  | zero =>
    have met := lists_settle_iff respelling listed file base
    by_cases again : survey.Lists (store.source.settle file) base
    · rw [visit_of_listed again, visit_of_listed (met.mp again), listed]
    · rw [visit_zero again, visit_zero (mt met.mpr again)]
      exact listed
  | succ levels ih =>
    have met := lists_settle_iff respelling listed file base
    have settle := respelling.settle_eq file
    by_cases again : survey.Lists (store.source.settle file) base
    · rw [visit_of_listed again, visit_of_listed (met.mp again), listed]
    · have new := mt met.mpr again
      have added : (survey.add ⟨store.source.settle file, base, origin⟩).entries =
          (survey'.add ⟨store'.source.settle file, base, origin⟩).entries := by
        rw [settle, Survey.add, Survey.add, listed]
      rcases respelling.read_cases options.encoding (store.source.settle file) with
        ⟨cause, read, read'⟩ | ⟨text, text', read, read', respelled⟩
      · rw [settle] at read'
        rw [visit_of_error again read, visit_of_error new read']
        exact added
      · have each := tidy _ text (Store.read_eq_ok_iff.mp read)
        have each' := tidy' _ text' (Store.read_eq_ok_iff.mp read')
        rw [settle] at read'
        rw [visit_of_ok again read, visit_of_ok new read']
        exact entries_foldl_follow_eq respelling ih (forall₂_references respelled each each') base added

theorem discover_eq_of_respelling (options : Options) (respelling : Respelling store store')
    (tidy : Merge.TidyTexts store) (tidy' : Merge.TidyTexts store') (root : Path) :
    (discover store.source options root).1 = (discover store'.source options root).1 := by
  by_cases present : store.present root = true
  · have present' : store'.present root = true := (respelling.present_eq root).symm.trans present
    have entries : (fromRoot store options root).entries = (fromRoot store' options root).entries :=
      entries_visit_eq respelling tidy tidy' _ _ _ _ rfl
    rw [discover_of_present options present, discover_of_present options present', entries]
  · have missing : store.source.rootDocument root = .error (.missingRoot root) := if_neg present
    have missing' := (respelling.rootDocument_eq root).symm.trans missing
    simp only [discover, missing, missing']

/-- How directives are spelled in a tidy project shows neither in its merge nor in its inventory: the merged
text and the number of files are the same, and so are the entries. -/
theorem merge_and_discover_eq_of_respelling {root : Path} (options : Options)
    (tidy : Merge.TidyProject store root) (tidy' : Merge.TidyProject store' root)
    (respelling : Respelling store store') :
    (Merge.merge store.source options root).1 = (Merge.merge store'.source options root).1 ∧
      (discover store.source options root).1 = (discover store'.source options root).1 :=
  ⟨Merge.merge_eq_of_respelling options respelling tidy tidy',
    discover_eq_of_respelling options respelling tidy.texts tidy'.texts root⟩

def terse : Store where
  files := [
    (.ofString "/doc/main.tex", "A \\input\x7bsub/a\x7d B\\include\x7bb\x7d".toList),
    (.ofString "/doc/sub/a.tex", "\\import\x7bsub\x7d\x7bc\x7d".toList),
    (.ofString "/doc/sub/c.tex", "C".toList)]

/-- The same project with blanks, quotes and the other command for an include. -/
def loose : Store where
  files := [
    (.ofString "/doc/main.tex", "A \\input\n \x7b 'sub/a'\x7d B\\includeonly\x7b\"b\" \x7d".toList),
    (.ofString "/doc/sub/a.tex", "\\import\t\x7b sub\x7d\u3000\x7bc \x7d".toList),
    (.ofString "/doc/sub/c.tex", "C".toList)]

section Spellings

open Directive (Spelled Plain Blank)

/-- Texts that differ in spelling, both tidy. -/
def Counterparts (text text' : Text) : Prop := Tidy text ∧ Tidy text' ∧ Respelled text text'

theorem counterparts_self {text : Text} (absent : '\\' ∉ text) : Counterparts text text :=
  ⟨Directive.commands_of_not_mem absent, Directive.commands_of_not_mem absent, Directive.respelled_refl text⟩

theorem Counterparts.prepend (both : Counterparts text text') {front : Text} (absent : '\\' ∉ front) :
    Counterparts (front ++ text) (front ++ text') :=
  ⟨both.1.append absent, both.2.1.append absent, both.2.2.prepend front⟩

theorem Counterparts.directive {d d' : Directive} (both : Counterparts text text') (spelled : Spelled d)
    (spelled' : Spelled d') (same : d.Same d') : Counterparts (d.source ++ text) (d'.source ++ text') :=
  ⟨both.1.directive spelled fun _ _ => .inl, both.2.1.directive spelled' fun _ _ => .inl,
    .directive spelled spelled' same both.2.2⟩

theorem blank_of_all {blanks : Text} (all : blanks.all Text.isBlank = true) : Blank blanks :=
  List.all_eq_true.mp all

theorem counterparts_main : Counterparts "A \\input\x7bsub/a\x7d B\\include\x7bb\x7d".toList
    "A \\input\n \x7b 'sub/a'\x7d B\\includeonly\x7b\"b\" \x7d".toList := by
  have input : Spelled _ := .inputFile (blank_of_all (show List.all [] _ = true by decide))
    (show Plain "sub/a".toList by decide)
  have input' : Spelled _ := .inputFile (blank_of_all (show List.all "\n ".toList _ = true by decide))
    (show Plain " 'sub/a'".toList by decide)
  have included : Spelled _ := .includeFile (.inl rfl)
    (blank_of_all (show List.all [] _ = true by decide)) (show Plain "b".toList by decide)
  have included' : Spelled _ := .includeFile (.inr rfl)
    (blank_of_all (show List.all [] _ = true by decide)) (show Plain "\"b\" ".toList by decide)
  have last := (counterparts_self List.not_mem_nil).directive included included'
    ⟨rfl, rfl, by decide +kernel⟩
  have middle := (last.prepend (show '\\' ∉ " B".toList by decide)).directive input input'
    ⟨rfl, rfl, by decide +kernel⟩
  exact middle.prepend (show '\\' ∉ "A ".toList by decide)

theorem counterparts_part : Counterparts "\\import\x7bsub\x7d\x7bc\x7d".toList
    "\\import\t\x7b sub\x7d\u3000\x7bc \x7d".toList := by
  have imported : Spelled _ := .importFile (blank_of_all (show List.all [] _ = true by decide))
    (show Plain "sub".toList by decide) (blank_of_all (show List.all [] _ = true by decide))
    (show Plain "c".toList by decide)
  have imported' : Spelled _ := .importFile (blank_of_all (show List.all "\t".toList _ = true by decide))
    (show Plain " sub".toList by decide) (blank_of_all (show List.all "\u3000".toList _ = true by decide))
    (show Plain "c ".toList by decide)
  exact (counterparts_self List.not_mem_nil).directive imported imported'
    ⟨rfl, by decide +kernel, by decide +kernel⟩

theorem counterparts_last : Counterparts "C".toList "C".toList := counterparts_self (by decide)

theorem tidyProject_terse : Merge.TidyProject terse (.ofString "/doc/main.tex") := by
  refine ⟨fun path text found => ?_, by decide +kernel⟩
  obtain ⟨file, member, rfl⟩ := Store.exists_of_content? found
  simp only [terse, List.mem_cons, List.not_mem_nil, or_false] at member
  rcases member with rfl | rfl | rfl
  · exact counterparts_main.1
  · exact counterparts_part.1
  · exact counterparts_last.1

theorem tidyProject_loose : Merge.TidyProject loose (.ofString "/doc/main.tex") := by
  refine ⟨fun path text found => ?_, by decide +kernel⟩
  obtain ⟨file, member, rfl⟩ := Store.exists_of_content? found
  simp only [loose, List.mem_cons, List.not_mem_nil, or_false] at member
  rcases member with rfl | rfl | rfl
  · exact counterparts_main.2.1
  · exact counterparts_part.2.1
  · exact counterparts_last.2.1

/-- Every directive is written in another way, and the include has no target. -/
theorem merge_and_discover_eq_of_respelling_loose :
    Merge.TidyProject terse (.ofString "/doc/main.tex") ∧ Merge.TidyProject loose (.ofString "/doc/main.tex") ∧
      Respelling terse loose ∧
      (Merge.merge terse.source {} (.ofString "/doc/main.tex")).1 =
        (Merge.merge loose.source {} (.ofString "/doc/main.tex")).1 ∧
      (discover terse.source {} (.ofString "/doc/main.tex")).1 =
        (discover loose.source {} (.ofString "/doc/main.tex")).1 := by
  have respelling : Respelling terse loose := respelling_of_forall₂
    (.cons ⟨rfl, counterparts_main.2.2⟩ (.cons ⟨rfl, counterparts_part.2.2⟩
      (.cons ⟨rfl, counterparts_last.2.2⟩ .nil)))
  have same := merge_and_discover_eq_of_respelling {} tidyProject_terse tidyProject_loose respelling
  exact ⟨tidyProject_terse, tidyProject_loose, respelling, same⟩

end Spellings

end Inventory
end TexFlat
