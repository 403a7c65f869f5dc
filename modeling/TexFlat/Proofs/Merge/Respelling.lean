import TexFlat.Proofs.Directive.Respelling
import TexFlat.Proofs.Merge.Logging

/-!
# Merging two spellings of a project

How directives are spelled does not show in what is made of a tidy project. Two runs over two spellings go
side by side: directive by directive they resolve to the same target and have visited the same files, and
what they put in the place of a directive is the same text. Only the places differ at which they put it, so
the edits are compared by the directives they stand for.
-/

namespace TexFlat

namespace Merge

open Directive (Segment Occurrence Settled Respelled Matches Tidy Kind occurrencesFrom lexemes scan)

variable {store store' : Store} {options : Options} {run run' : Run} {text text' : Text}
  {replace replace' : Run → Directive → Text × Run} {edits edits' : List Edit}
  {found found' : List Occurrence} {o o' e e' : Occurrence} {segments segments' : List Segment}

/-! ### Occurrences that go together -/

/-- The occurrences have the same position in two lists. -/
def Paired (found found' : List Occurrence) (o o' : Occurrence) : Prop :=
  ∃ i : Nat, found[i]? = some o ∧ found'[i]? = some o'

theorem forall₂_paired (length : found.length = found'.length) :
    List.Forall₂ (Paired found found') found found' := by
  refine List.forall₂_iff_get.mpr ⟨length, fun i inside inside' => ⟨i, ?_, ?_⟩⟩
  · exact List.getElem?_eq_getElem inside
  · exact List.getElem?_eq_getElem inside'

theorem Paired.of_forall₂ {R : Occurrence → Occurrence → Prop} (pairs : List.Forall₂ R found found')
    (paired : Paired found found' o o') : R o o' := by
  obtain ⟨i, here, here'⟩ := paired
  obtain ⟨inside, rfl⟩ := List.getElem?_eq_some_iff.mp here
  obtain ⟨inside', rfl⟩ := List.getElem?_eq_some_iff.mp here'
  exact (List.forall₂_iff_get.mp pairs).2 i inside inside'

theorem Paired.start_eq (distinct : (found.map (·.start)).Nodup) (paired : Paired found found' o o')
    (other : Paired found found' e e') (same : o.start = e.start) : o'.start = e'.start := by
  obtain ⟨i, here, here'⟩ := paired
  obtain ⟨j, there, there'⟩ := other
  have inside : i < (found.map (·.start)).length := by
    rw [List.length_map]
    exact (List.getElem?_eq_some_iff.mp here).1
  have both : (found.map (·.start))[i]? = (found.map (·.start))[j]? := by
    rw [List.getElem?_map, List.getElem?_map, here, there, Option.map_some, Option.map_some, same]
  obtain rfl := (List.getElem?_inj inside distinct).mp both
  rw [here'] at there'
  rw [Option.some.inj there']

theorem Paired.symm (paired : Paired found found' o o') : Paired found' found o' o := by
  obtain ⟨i, here, here'⟩ := paired
  exact ⟨i, here', here⟩

/-- Occurrences of one directive each, which begin at one place in the one text exactly if they do so in the
other. -/
structure Links (M : Occurrence → Occurrence → Prop) : Prop where
  same : ∀ {o o'}, M o o' → o.directive.Same o'.directive
  start_iff : ∀ {o o' e e'}, M o o' → M e e' → (o.start = e.start ↔ o'.start = e'.start)

theorem nodup_starts (settled : Settled segments) : ((occurrencesFrom 0 segments).map (·.start)).Nodup :=
  List.pairwise_map.mpr (pairwise_start settled)

theorem links_paired (settled : Settled segments) (settled' : Settled segments')
    (pairs : List.Forall₂ Matches segments segments') :
    Links (Paired (occurrencesFrom 0 segments) (occurrencesFrom 0 segments')) where
  same paired := paired.of_forall₂ (Directive.forall₂_occurrencesFrom pairs 0 0)
  start_iff paired other :=
    ⟨paired.start_eq (nodup_starts settled) other, paired.symm.start_eq (nodup_starts settled') other.symm⟩

theorem Links.forall₂_scan {M : Occurrence → Occurrence → Prop} (links : Links M) (settled : Settled segments)
    (settled' : Settled segments')
    (pairs : List.Forall₂ M (occurrencesFrom 0 segments) (occurrencesFrom 0 segments')) :
    List.Forall₂ M (Kind.passes.flatMap (scan (lexemes segments)))
      (Kind.passes.flatMap (scan (lexemes segments'))) := by
  have each (kind : Kind) : List.Forall₂ M (scan (lexemes segments) kind) (scan (lexemes segments') kind) := by
    rw [Directive.scan_lexemes settled, Directive.scan_lexemes settled']
    refine List.rel_filter (fun o o' linked => ?_) pairs
    show decide (o.directive.kind = kind) = true ↔ decide (o'.directive.kind = kind) = true
    rw [(links.same linked).kind]
  induction Kind.passes with
  | nil => exact .nil
  | cons kind kinds ih =>
    rw [List.flatMap_cons, List.flatMap_cons]
    exact List.rel_append (each kind) ih

/-! ### What is put in their place -/

/-- The same text, and the same files visited. -/
structure Abreast (after after' : Text × Run) : Prop where
  text : after.1 = after'.1
  visited : after.2.visited = after'.2.visited

theorem standing_cons (edit : Edit) (edits : List Edit) (o : Occurrence) :
    standing (edit :: edits) o = if edit.start = o.start then edit.text else standing edits o := by
  by_cases same : edit.start = o.start
  · simp [standing, same]
  · simp [standing, same]

theorem abreast_substitutions {M : Occurrence → Occurrence → Prop} (links : Links M)
    (answers : ∀ {run run' d d'}, run.visited = run'.visited → d.Same d' →
      Abreast (replace run d) (replace' run' d'))
    (pairs : List.Forall₂ M found found') (visited : run.visited = run'.visited) :
    (substitutions replace run found).2.visited = (substitutions replace' run' found').2.visited ∧
      ∀ o o', M o o' → standing (substitutions replace run found).1 o =
        standing (substitutions replace' run' found').1 o' := by
  induction pairs generalizing run run' with
  | nil => exact ⟨visited, fun _ _ _ => rfl⟩
  | cons first _ ih =>
    have answer := answers visited (links.same first)
    obtain ⟨after, rest⟩ := ih answer.visited
    refine ⟨after, fun o o' linked => ?_⟩
    simp only [substitutions, standing_cons, links.start_iff first linked, answer.text, rest o o' linked]

theorem lexemes_fillFrom_directive {d : Directive} {place : Nat} (filled : ∃ edit ∈ edits, edit.start = place) :
    lexemes (fillFrom edits place (.directive d :: segments)) =
      standing edits ⟨d, place, place + Text.utf8Length d.source⟩ ++
        lexemes (fillFrom edits (place + Text.utf8Length d.source) segments) := by
  obtain ⟨edit, found⟩ := exists_find?_start filled
  rw [fillFrom_of_some found, Directive.lexemes_append, Directive.lexemes_map_char, standing, found]

/-- Texts that match come to the same once the same stands in the place of each directive. -/
theorem lexemes_fillFrom_eq {place place' : Nat} (pairs : List.Forall₂ Matches segments segments')
    (filled : ∀ o ∈ occurrencesFrom place segments, ∃ edit ∈ edits, edit.start = o.start)
    (filled' : ∀ o ∈ occurrencesFrom place' segments', ∃ edit ∈ edits', edit.start = o.start)
    (alike : List.Forall₂ (fun o o' => standing edits o = standing edits' o')
      (occurrencesFrom place segments) (occurrencesFrom place' segments')) :
    lexemes (fillFrom edits place segments) = lexemes (fillFrom edits' place' segments') := by
  induction pairs generalizing place place' with
  | nil => rfl
  | cons first _ ih =>
    cases first with
    | char c => exact congrArg (c :: ·) (ih filled filled' alike)
    | directive same =>
      obtain ⟨here, behind⟩ := List.forall₂_cons.mp alike
      have rest := ih (fun o member => filled o (List.mem_cons_of_mem _ member))
        (fun o member => filled' o (List.mem_cons_of_mem _ member)) behind
      rw [lexemes_fillFrom_directive (filled _ List.mem_cons_self),
        lexemes_fillFrom_directive (filled' _ List.mem_cons_self), rest]
      exact congrArg (· ++ _) here

theorem abreast_atOnce (respelled : Respelled text text') (tidy : Tidy text) (tidy' : Tidy text')
    (answers : ∀ {run run' d d'}, run.visited = run'.visited → d.Same d' →
      Abreast (replace run d) (replace' run' d')) (visited : run.visited = run'.visited) :
    Abreast (atOnce replace run text) (atOnce replace' run' text') := by
  obtain ⟨segments, segments', settled, settled', rfl, rfl, pairs⟩ := respelled.exists_settled tidy tidy'
  have length := (Directive.forall₂_occurrencesFrom pairs 0 0).length_eq
  have links := links_paired settled settled' pairs
  have linked := forall₂_paired length
  obtain ⟨after, alike⟩ := abreast_substitutions links answers (links.forall₂_scan settled settled' linked) visited
  rw [atOnce_lexemes settled, atOnce_lexemes settled']
  refine ⟨?_, after⟩
  exact lexemes_fillFrom_eq pairs (fun o => exists_edit_of_mem settled replace run)
    (fun o => exists_edit_of_mem settled' replace' run') (linked.imp alike)

/-! ### Two spellings of a project -/

end Merge

/-- Stores with the same files, of which the texts differ only in how directives are spelled. -/
structure Respelling (store store' : Store) : Prop where
  paths : ∀ path, path ∈ store.files.map (·.1) ↔ path ∈ store'.files.map (·.1)
  texts : ∀ {path text text'}, store.content? path = some text → store'.content? path = some text' →
    Directive.Respelled text text'

/-- Stores that list their files in one order. -/
theorem respelling_of_forall₂ {store store' : Store}
    (pairs : List.Forall₂ (fun file file' => file.1 = file'.1 ∧ Directive.Respelled file.2 file'.2)
      store.files store'.files) : Respelling store store' := by
  obtain ⟨files⟩ := store
  obtain ⟨files'⟩ := store'
  change List.Forall₂ _ files files' at pairs
  have paths : files.map (·.1) = files'.map (·.1) := by
    induction pairs with
    | nil => rfl
    | cons first _ ih => rw [List.map_cons, List.map_cons, first.1, ih]
  refine ⟨fun path => by rw [paths], fun {path text text'} found found' => ?_⟩
  clear paths
  unfold Store.content? at found found'
  induction pairs with
  | nil => exact absurd found nofun
  | @cons file file' files files' first _ ih =>
    simp only [List.find?_cons, first.1] at found found' ih
    cases same : file'.1 == path.normalize with
    | true =>
      simp only [same, Option.map_some, Option.some.injEq] at found found'
      exact found ▸ found' ▸ first.2
    | false =>
      simp only [same] at found found'
      exact ih found found'

namespace Respelling

variable {store store' : Store} (respelling : Respelling store store')

include respelling

theorem present_eq (path : Path) : store.present path = store'.present path := by
  have there (store : Store) : store.present path = true ↔
      ∃ file ∈ store.files.map (·.1), file.StartsWith path.normalize := by
    simp [Store.present]
  rw [Bool.eq_iff_iff, there, there]
  simp only [respelling.paths]

theorem canonical_eq (path : Path) : store.canonical path = store'.canonical path := by
  rw [Store.canonical, Store.canonical, respelling.present_eq]

theorem settle_eq (path : Path) : store.source.settle path = store'.source.settle path := by
  have same : store.source.canonical path = store'.source.canonical path := respelling.canonical_eq path
  rw [Source.settle, Source.settle, same]

theorem resolve?_eq (name : Text) (dir : Path) :
    store.source.resolve? name dir = store'.source.resolve? name dir := by
  have present : store.source.present = store'.source.present := funext respelling.present_eq
  have settle : store.source.settle = store'.source.settle := funext respelling.settle_eq
  rw [Source.resolve?, Source.resolve?, present, settle]

theorem rootDocument_eq (root : Path) :
    store.source.rootDocument root = store'.source.rootDocument root := by
  have present : store.source.present root = store'.source.present root := respelling.present_eq root
  have canonical : store.source.canonical root = store'.source.canonical root := respelling.canonical_eq root
  rw [Source.rootDocument, Source.rootDocument, present, canonical]

/-- A file is there for both or for neither. -/
theorem content_cases (path : Path) : (store.content? path = none ∧ store'.content? path = none) ∨
    ∃ text text', store.content? path = some text ∧ store'.content? path = some text' ∧
      Directive.Respelled text text' := by
  have there (store : Store) : (store.content? path).isSome = true ↔
      path.normalize ∈ store.files.map (·.1) := by
    simp [Store.content?]
  have both : (store.content? path).isSome = true ↔ (store'.content? path).isSome = true := by
    rw [there, there]
    exact respelling.paths path.normalize
  cases found : store.content? path with
  | none =>
    rw [found] at both
    cases found' : store'.content? path with
    | none => exact .inl ⟨rfl, rfl⟩
    | some text' => simp [found'] at both
  | some text =>
    rw [found] at both
    obtain ⟨text', found'⟩ := Option.isSome_iff_exists.mp (both.mp rfl)
    exact .inr ⟨text, text', rfl, found', respelling.texts found found'⟩

/-- What a reading comes to: the same failure, or texts that differ in spelling. -/
theorem read_cases (encoding : Encoding) (path : Path) :
    (∃ cause, store.source.read encoding path = .error cause ∧ store'.source.read encoding path = .error cause) ∨
      ∃ text text', store.source.read encoding path = .ok text ∧ store'.source.read encoding path = .ok text' ∧
        Directive.Respelled text text' := by
  rcases respelling.content_cases path with ⟨missing, missing'⟩ | ⟨text, text', found, found', respelled⟩
  · refine .inl ⟨.noSuchFile path, ?_, ?_⟩
    · show store.read path = _
      rw [Store.read, missing]
    · show store'.read path = _
      rw [Store.read, missing']
  · exact .inr ⟨text, text', Store.read_eq_ok_iff.mpr found, Store.read_eq_ok_iff.mpr found', respelled⟩

end Respelling

namespace Merge

variable {store store' : Store} {options : Options}

theorem hasVisited_settle_iff (respelling : Respelling store store') {run run' : Run}
    (visited : run.visited = run'.visited) (file : Path) :
    run.HasVisited (store.source.settle file) ↔ run'.HasVisited (store'.source.settle file) := by
  rw [Run.HasVisited, Run.HasVisited, visited, respelling.settle_eq]

theorem abreast_replacement (respelling : Respelling store store')
    {visit visit' : Run → (file base : Path) → Text × Run}
    (calls : ∀ {run run'} file base, run.visited = run'.visited →
      Abreast (visit run file base) (visit' run' file base)) (base : Path) {run run' : Run} {d d' : Directive}
    (visited : run.visited = run'.visited) (same : d.Same d') :
    Abreast (replacement store.source visit base run d) (replacement store'.source visit' base run' d') := by
  have resolved : store.source.resolve? d.name (d.searchDir base) =
      store'.source.resolve? d'.name (d'.searchDir base) := by
    rw [same.name, same.searchDir_eq, respelling.resolve?_eq]
  cases found : store'.source.resolve? d'.name (d'.searchDir base) with
  | none =>
    rw [replacement_of_none (resolved.trans found), replacement_of_none found, same.kind, same.reference_eq]
    exact ⟨rfl, visited⟩
  | some target =>
    rw [replacement_of_some (resolved.trans found), replacement_of_some found, same.kind, same.reference_eq,
      same.searchDir_eq]
    have inner : Abreast (visit (run.note (.resolved d (d'.searchDir base) target)) target (d'.searchDir base))
        (visit' (run'.note (.resolved d' (d'.searchDir base) target)) target (d'.searchDir base)) :=
      calls target (d'.searchDir base) visited
    exact ⟨congrArg (Marker.block d'.kind d'.reference target (d'.searchDir base)) inner.text, inner.visited⟩

/-- The runs over two spellings of a tidy project go side by side. -/
theorem abreast_visitBy (respelling : Respelling store store') (tidy : TidyTexts store)
    (tidy' : TidyTexts store') (levels : Nat) {run run' : Run} (file base : Path)
    (visited : run.visited = run'.visited) :
    Abreast (visitBy atOnce store.source options levels run file base)
      (visitBy atOnce store'.source options levels run' file base) := by
  induction levels generalizing run run' file base with
  | zero =>
    have met := hasVisited_settle_iff respelling visited file
    by_cases again : run.HasVisited (store.source.settle file)
    · rw [visitBy_of_visited again, visitBy_of_visited (met.mp again)]
      exact ⟨rfl, visited⟩
    · rw [visitBy_zero again, visitBy_zero (mt met.mpr again)]
      exact ⟨rfl, visited⟩
  | succ levels ih =>
    have met := hasVisited_settle_iff respelling visited file
    by_cases again : run.HasVisited (store.source.settle file)
    · rw [visitBy_of_visited again, visitBy_of_visited (met.mp again)]
      exact ⟨rfl, visited⟩
    · have new := mt met.mpr again
      have begun : (run.begin store.source file base (options.maxDepth - levels)).visited =
          (run'.begin store'.source file base (options.maxDepth - levels)).visited :=
        congrArg₂ List.cons (respelling.settle_eq file) visited
      rcases respelling.read_cases options.encoding file with
        ⟨cause, read, read'⟩ | ⟨text, text', read, read', respelled⟩
      · rw [visitBy_of_error again read, visitBy_of_error new read']
        exact ⟨rfl, begun⟩
      · rw [visitBy_of_ok again read, visitBy_of_ok new read']
        have each := tidy file text (Store.read_eq_ok_iff.mp read)
        have each' := tidy' file text' (Store.read_eq_ok_iff.mp read')
        refine abreast_atOnce respelled each each' (fun visited same => ?_) begun
        exact abreast_replacement respelling ih base visited same

theorem merge_eq_of_respelling (options : Options) (respelling : Respelling store store') {root : Path}
    (tidy : TidyProject store root) (tidy' : TidyProject store' root) :
    (merge store.source options root).1 = (merge store'.source options root).1 := by
  by_cases present : store.present root = true
  · have present' : store'.present root = true := (respelling.present_eq root).symm.trans present
    have abreast : Abreast (fromRoot atOnce store options root) (fromRoot atOnce store' options root) :=
      abreast_visitBy respelling tidy.texts tidy'.texts _ _ _ rfl
    rw [merge_of_present options present, merge_of_present options present',
      (fromRoot_rescan_eq options tidy).1, (fromRoot_rescan_eq options tidy').1, abreast.text, abreast.visited]
  · have missing : store.source.rootDocument root = .error (.missingRoot root) := if_neg present
    have missing' := (respelling.rootDocument_eq root).symm.trans missing
    simp only [merge, missing, missing']

end Merge

end TexFlat
