import Mathlib.Algebra.BigOperators.Group.List.Basic
import Mathlib.Algebra.Order.Group.Multiset
import TexFlat.Proofs.Marker.Notices
import TexFlat.Proofs.Merge.Nesting
import TexFlat.Proofs.Merge.Reads

/-!
# What a merge writes and what it logs

Every event of a merge leaves its trace in the merged text, and nothing else leaves one: the notices
of the text are those of the events, and there is a block for each target that was found. The texts
that are read must be without the signs of markers, and so must the paths.
-/

namespace TexFlat.Merge

open Directive (Kind Spelled Tidy Occurrence Segment occurrencesFrom scan lexemes)
open Marker (Clean Unmarked Notice Topic notices marks)

variable {store : Store} {options : Options} {levels : Nat} {edits : List Edit} {segments : List Segment}
  {place : Nat} {fill : Fill}

/-! ### Readings of a merged text -/

section Readings

variable {M : Type} [AddCommMonoid M] {read : Text → M} {shown : Event → M}

/-- What is read in a text adds up from what a merge puts into it, and this is what its events show. A
text without signs shows nothing, nor does the event that a file is expanded. -/
structure Faithful (read : Text → M) (shown : Event → M) : Prop where
  plain : ∀ {text}, Unmarked text → read text = 0
  notFound : ∀ d dir {front} behind, Clean d.reference → Unmarked front →
    read (front ++ (Marker.notFound d.kind d.reference ++ behind)) = shown (.notFound d dir) + read behind
  block : ∀ d dir target {front} body behind, Clean d.reference → Clean target.text → Clean dir.text →
    Unmarked front → read (front ++ (Marker.block d.kind d.reference target dir body ++ behind)) =
      shown (.resolved d dir target) + read body + read behind
  again : ∀ file, Clean file.text → read (Marker.alreadyIncluded file) = shown (.alreadyProcessed file)
  tooDeep : ∀ file maxDepth, Clean file.text →
    read (Marker.depthExceeded maxDepth file) = shown (.tooDeep file maxDepth)
  unreadable : ∀ file, Clean file.text →
    read (Marker.unreadable file (Fault.noSuchFile file).message) = shown (.unreadable file (.noSuchFile file))
  started : ∀ root, shown (.started root) = 0
  processing : ∀ file base depth, shown (.processing file base depth) = 0

def shownBy (shown : Event → M) (run : Run) : M := (run.events.map shown).sum

theorem shownBy_note (shown : Event → M) (run : Run) (event : Event) :
    shownBy shown (run.note event) = shown event + shownBy shown run := List.sum_cons

/-- The text shows what the run has added to the events. -/
def Told (read : Text → M) (shown : Event → M) (run : Run) (after : Text × Run) : Prop :=
  shownBy shown after.2 = read after.1 + shownBy shown run

/-- Whatever it is put between, the text brings what is read in it. -/
def Separate (read : Text → M) (text : Text) : Prop :=
  ∀ {front} behind, Unmarked front → read (front ++ (text ++ behind)) = read text + read behind

theorem Faithful.empty (faithful : Faithful read shown) : read [] = 0 := faithful.plain (by decide)

/-! ### One substitution -/

/-- What the edits put in the place of a directive. -/
def standing (edits : List Edit) (o : Occurrence) : Text :=
  match edits.find? (·.start = o.start) with
  | some edit => edit.text
  | none => []

/-- The induction carries what stands between the last directive and the place. -/
theorem Faithful.read_fillFrom (faithful : Faithful read shown)
    (separate : ∀ edit ∈ edits, Separate read edit.text) {front : Text}
    (unmarked : Unmarked (front ++ lexemes segments))
    (filled : ∀ o ∈ occurrencesFrom place segments, ∃ edit ∈ edits, edit.start = o.start) :
    read (front ++ lexemes (fillFrom edits place segments)) =
      ((occurrencesFrom place segments).map fun o => read (standing edits o)).sum := by
  induction segments generalizing place front with
  | nil => exact faithful.plain unmarked
  | cons s others ih =>
    cases s with
    | char c =>
      -- The character joins what stands before the place.
      have step (text : Text) : front ++ c :: text = front ++ [c] ++ text := by simp
      have rest := @ih (place + c.utf8Size) (front ++ [c]) (by rwa [← step]) filled
      rwa [← step] at rest
    | directive d =>
      obtain ⟨edit, found⟩ := exists_find?_start (filled _ List.mem_cons_self)
      have before : Unmarked front := unmarked.of_infix (List.prefix_append _ _).isInfix
      have behind : Unmarked (lexemes others) :=
        unmarked.of_infix (((List.suffix_append _ _).trans (List.suffix_append _ _)).isInfix)
      have rest := @ih (place + Text.utf8Length d.source) [] behind fun o member =>
        filled o (List.mem_cons_of_mem _ member)
      have here : standing edits ⟨d, place, place + Text.utf8Length d.source⟩ = edit.text := by
        rw [standing, found]
      rw [fillFrom_of_some found, Directive.lexemes_append, Directive.lexemes_map_char,
        separate edit (List.mem_of_find?_eq_some found) _ before]
      rw [List.nil_append] at rest
      rw [rest, Directive.occurrencesFrom, List.map_cons, List.sum_cons, here]

theorem sum_standing {replace : Run → Directive → Text × Run} (read : Text → M) (run : Run)
    {found : List Occurrence} (apart : found.Pairwise (·.start ≠ ·.start)) :
    (found.map fun o => read (standing (substitutions replace run found).1 o)).sum =
      ((substitutions replace run found).1.map fun edit => read edit.text).sum := by
  induction found generalizing run with
  | nil => rfl
  | cons o found ih =>
    obtain ⟨differ, apart⟩ := List.pairwise_cons.mp apart
    have rest := ih (replace run o.directive).2 apart
    have later : ∀ o' ∈ found, standing (substitutions replace run (o :: found)).1 o' =
        standing (substitutions replace (replace run o.directive).2 found).1 o' := by
      intro o' member
      simp only [standing, substitutions, List.find?_cons, decide_eq_false (differ o' member)]
    have first : standing (substitutions replace run (o :: found)).1 o = (replace run o.directive).1 := by
      simp only [standing, substitutions, List.find?_cons, decide_true]
    have others : (found.map fun o' => read (standing (substitutions replace run (o :: found)).1 o')).sum = _ :=
      congrArg List.sum (List.map_congr_left fun o' member => congrArg read (later o' member))
    rw [List.map_cons, List.sum_cons, first, others, rest]
    rfl

theorem pairwise_start (settled : Directive.Settled segments) :
    (occurrencesFrom place segments).Pairwise (·.start ≠ ·.start) := by
  induction segments generalizing place with
  | nil => exact .nil
  | cons s others ih =>
    cases s with
    | char c => exact ih settled.2
    | directive d =>
      refine List.pairwise_cons.mpr ⟨fun o member same => ?_, ih settled.2⟩
      have filled := utf8Length_source_pos settled.1
      have later := le_start_of_mem_occurrencesFrom member
      have same : place = o.start := same
      omega

/-- The scans for the three kinds find the directives in another order. -/
theorem perm_flatMap_scan (settled : Directive.Settled segments) :
    (Kind.passes.flatMap (scan (lexemes segments))).Perm (occurrencesFrom 0 segments) := by
  have kinds (found : List Occurrence) :
      (Kind.passes.flatMap fun kind => found.filter (·.directive.kind = kind)).Perm found := by
    induction found with
    | nil => exact .refl _
    | cons o found ih =>
      refine List.Perm.trans ?_ (ih.cons o)
      simp only [Kind.passes, List.flatMap_cons, List.flatMap_nil, List.append_nil, List.filter_cons]
      cases kind : o.directive.kind with
      | inputFile => simp
      | importFile => simp [List.perm_middle]
      | includeFile =>
        simp only [reduceCtorEq, decide_false, decide_true, Bool.false_eq_true, if_false, if_true]
        rw [← List.append_assoc, ← List.append_assoc]
        exact List.perm_middle
  have same : scan (lexemes segments) = fun kind =>
      (occurrencesFrom 0 segments).filter (·.directive.kind = kind) := funext (Directive.scan_lexemes settled)
  rw [same]
  exact kinds _

theorem Faithful.read_atOnce (faithful : Faithful read shown) {replace : Run → Directive → Text × Run}
    (settled : Directive.Settled segments) (unmarked : Unmarked (lexemes segments))
    (separate : ∀ run, ∀ o ∈ occurrencesFrom 0 segments, Separate read (replace run o.directive).1)
    (run : Run) : read (atOnce replace run (lexemes segments)).1 =
      ((editsOf replace run (lexemes segments)).1.map fun edit => read edit.text).sum := by
  have order := perm_flatMap_scan settled
  have apart := (order.pairwise_iff fun differ => Ne.symm differ).mpr (pairwise_start settled)
  have each : ∀ edit ∈ (editsOf replace run (lexemes segments)).1, Separate read edit.text := by
    intro edit member
    obtain ⟨o, inside, -, -, run, same⟩ := exists_of_mem_substitutions member
    rw [same]
    exact separate run o (order.mem_iff.mp inside)
  have filled := fun o => @exists_edit_of_mem segments settled replace run o
  rw [atOnce_lexemes settled, ← List.nil_append (lexemes (fillFrom _ _ _)),
    faithful.read_fillFrom each unmarked filled, ← sum_standing read run apart]
  exact ((order.map _).sum_eq).symm

theorem shownBy_substitutions {replace : Run → Directive → Text × Run} {found : List Occurrence}
    (told : ∀ run, ∀ o ∈ found, Told read shown run (replace run o.directive)) (run : Run) :
    shownBy shown (substitutions replace run found).2 =
      ((substitutions replace run found).1.map fun edit => read edit.text).sum + shownBy shown run := by
  induction found generalizing run with
  | nil => exact (zero_add _).symm
  | cons o found ih =>
    have first : shownBy shown (replace run o.directive).2 = _ := told run o List.mem_cons_self
    have rest := ih (fun run o' member => told run o' (List.mem_cons_of_mem o member))
      (replace run o.directive).2
    simp only [substitutions, rest, first, List.map_cons, List.sum_cons]
    rw [← add_assoc, add_comm (List.sum _)]

theorem Faithful.told_atOnce (faithful : Faithful read shown) {replace : Run → Directive → Text × Run}
    {text : Text} (tidy : Tidy text) (unmarked : Unmarked text)
    (answers : ∀ run d, Spelled d → Unmarked d.source →
      Separate read (replace run d).1 ∧ Told read shown run (replace run d)) (run : Run) :
    Told read shown run (atOnce replace run text) := by
  obtain ⟨segments, settled, rfl⟩ := tidy.exists_settled
  have each (run : Run) {o : Occurrence} (inside : o ∈ occurrencesFrom 0 segments) :=
    answers run o.directive (spelled_of_mem_occurrencesFrom settled inside)
      (unmarked.of_infix (source_infix_of_mem_occurrencesFrom inside))
  have told := shownBy_substitutions
    (fun run o member => (each run ((mem_flatMap_scan settled).mp member)).2) run
  have text := faithful.read_atOnce settled unmarked (fun run o inside => (each run inside).1) run
  rw [Told, text]
  exact told

/-! ### What stands for a directive -/

theorem reference_of_hereditary {P : Text → Prop} (hereditary : Path.Hereditary P) {d : Directive}
    (name : P d.name) (named : ∀ directory, d.directory = some directory → P directory) : P d.reference := by
  unfold Directive.reference
  split
  · rename_i directory same
    exact hereditary.slash (named directory same) name
  · exact name

/-- The texts that a directive brings into markers. -/
theorem clean_of_spelled {d : Directive} (spelled : Spelled d) (unmarked : Unmarked d.source) :
    Clean d.name ∧ ∀ directory, d.directory = some directory → Clean directory := by
  obtain ⟨⟨name, flat⟩, directory⟩ := spelled.named
  refine ⟨⟨unmarked.of_infix name, newline_not_mem_of_flat flat⟩, fun part same => ?_⟩
  obtain ⟨inside, flat'⟩ := directory part same
  exact ⟨unmarked.of_infix inside, newline_not_mem_of_flat flat'⟩

theorem clean_tex {name : Text} (clean : Clean name) : Clean (name ++ ".tex".toList) := by
  have rest : Unmarked "tex".toList := by decide +kernel
  exact ⟨clean.1.append_cons rest (by decide +kernel), List.not_mem_append clean.2 (by decide)⟩

theorem Faithful.answers (faithful : Faithful read shown) (store : Store)
    {visit : Run → (file base : Path) → Text × Run} {base : Path}
    (calls : ∀ run file base, Clean file.text → Clean base.text →
      Told read shown run (visit run file base))
    (clean : Clean base.text) (run : Run) {d : Directive} (spelled : Spelled d)
    (unmarked : Unmarked d.source) :
    Separate read (replacement store.source visit base run d).1 ∧
      Told read shown run (replacement store.source visit base run d) := by
  obtain ⟨name, directory⟩ := clean_of_spelled spelled unmarked
  have reference := reference_of_hereditary Marker.hereditary_clean name directory
  have dir := searchDir_of_hereditary Marker.hereditary_clean directory clean
  have nothing : Unmarked [] := by decide
  cases found : store.source.resolve? d.name (d.searchDir base) with
  | none =>
    have notice {front : Text} (behind : Text) (before : Unmarked front) :=
      faithful.notFound d (d.searchDir base) behind reference before
    have alone := notice [] nothing
    rw [List.nil_append, List.append_nil, faithful.empty, add_zero] at alone
    rw [replacement_of_none found]
    refine ⟨fun behind before => ?_, ?_⟩
    · rw [notice behind before, alone]
    · rw [Told, alone]
      exact shownBy_note shown run _
  | some target =>
    have file := target_of_hereditary Marker.hereditary_clean name (clean_tex name) dir found
    have inner := calls (run.note (.resolved d (d.searchDir base) target)) target (d.searchDir base) file dir
    rw [replacement_of_some found]
    generalize visit (run.note (.resolved d (d.searchDir base) target)) target (d.searchDir base) =
      after at inner
    have block {front : Text} (behind : Text) (before : Unmarked front) :=
      faithful.block d (d.searchDir base) target after.1 behind reference file dir before
    have alone := block [] nothing
    rw [List.nil_append, List.append_nil, faithful.empty, add_zero] at alone
    refine ⟨fun behind before => ?_, ?_⟩
    · rw [block behind before, alone]
    · rw [Told] at inner ⊢
      rw [inner, shownBy_note, alone, add_left_comm, ← add_assoc]

theorem Faithful.shownBy_begin (faithful : Faithful read shown) (run : Run) (source : Source)
    (file base : Path) (depth : Nat) :
    shownBy shown (run.begin source file base depth) = shownBy shown run := by
  have first := shownBy_note shown (run.enter (source.settle file)) (.processing file base depth)
  rw [faithful.processing, zero_add] at first
  exact first

/-- The text of a call shows what the call has added to the events. -/
theorem Faithful.told_visitBy (faithful : Faithful read shown) (tidy : TidyTexts store)
    (unmarked : ∀ path text, store.content? path = some text → Unmarked text) (run : Run) (file base : Path)
    (clean : Clean file.text) (clean' : Clean base.text) :
    Told read shown run (visitBy atOnce store.source options levels run file base) := by
  refine visitBy_induction (motive := fun _ run file base after => Clean file.text → Clean base.text →
    Told read shown run after) ?_ ?_ ?_ ?_ levels run file base clean clean'
  · intro levels run file base _ clean _
    rw [Told, faithful.again file clean]
    exact shownBy_note shown run _
  · intro run file base _ clean _
    rw [Told, faithful.tooDeep file options.maxDepth clean]
    exact shownBy_note shown run _
  · intro levels run file base cause _ read clean _
    obtain rfl := Store.eq_noSuchFile_of_read read
    rw [Told, faithful.unreadable file clean, shownBy_note, faithful.shownBy_begin]
  · intro levels run file base text _ content calls _ clean
    have found := Store.read_eq_ok_iff.mp content
    have told : Told read shown (run.begin store.source file base (options.maxDepth - levels)) _ :=
      faithful.told_atOnce (tidy file text found) (unmarked file text found)
        (fun run _ spelled unmarked => faithful.answers store calls clean run spelled unmarked) _
    rwa [Told, faithful.shownBy_begin] at told

/-- What is read in a merged tidy project is what its events show. -/
theorem Faithful.read_content (faithful : Faithful read shown) {root : Path} (options : Options)
    (tidy : TidyProject store root)
    (unmarked : ∀ path text, store.content? path = some text → Unmarked text)
    (unmarked' : Unmarked root.text) :
    read (fromRoot rescan store options root).1 = shownBy shown (fromRoot rescan store options root).2 := by
  have clean : Clean root.normalize.text :=
    Marker.hereditary_clean.normalize ⟨unmarked', newline_not_mem_of_flat tidy.root⟩
  have told : Told read shown { events := [.started root.normalize] } (fromRoot atOnce store options root) :=
    faithful.told_visitBy tidy.texts unmarked _ _ _ clean (Marker.hereditary_clean.directory clean)
  have first : shownBy shown { events := [.started root.normalize] } = 0 := by
    simp [shownBy, faithful.started]
  rw [(fromRoot_rescan_eq options tidy).1]
  rw [Told, first, add_zero] at told
  exact told.symm

end Readings

/-! ### Notices -/

/-- The notice that an event leaves in the text. -/
def Event.notice? : Event → Option Notice
  | notFound d _ => some ⟨.notFound d.kind, d.reference⟩
  | unreadable file cause => some ⟨.unreadable, file.text ++ (": ".toList ++ cause.message)⟩
  | alreadyProcessed file => some ⟨.alreadyIncluded, file.text⟩
  | tooDeep file maxDepth => some ⟨.depthExceeded,
      Nat.toDigits 10 maxDepth ++ (" exceeded, not expanding ".toList ++ file.text)⟩
  | _ => none

theorem faithful_notices : Faithful (fun text => (notices text : Multiset Notice))
    fun event => (event.notice?.toList : Multiset Notice) where
  plain unmarked := congrArg _ (Marker.notices_of_noticeless unmarked.noticeless)
  notFound d _ front behind clean before := by
    have brings := Marker.notices_notice_append (Marker.single_notFound clean d.kind) before behind
    rw [Marker.notFound_eq, List.append_assoc]
    exact congrArg _ brings
  block d dir target front body behind reference file base before := by
    rw [Marker.notices_block reference.1 file.1 base.1 before, ← Multiset.coe_add]
    exact (congrArg (· + _) (zero_add _)).symm
  again file clean := by
    rw [Marker.alreadyIncluded_eq, Marker.notices_notice (Marker.single_alreadyIncluded clean)]
    rfl
  tooDeep file maxDepth clean := by
    rw [Marker.depthExceeded_eq, Marker.notices_notice (Marker.single_depthExceeded clean maxDepth)]
    rfl
  unreadable file clean := by
    rw [Marker.unreadable_eq, Marker.notices_notice (Marker.single_unreadable clean)]
    rfl
  started _ := rfl
  processing _ _ _ := rfl

theorem shownBy_notice (run : Run) : shownBy (fun event => (event.notice?.toList : Multiset Notice)) run =
    (run.events.filterMap Event.notice? : Multiset Notice) := by
  obtain ⟨visited, events⟩ := run
  rw [shownBy]
  induction events with
  | nil => rfl
  | cons event events ih =>
    rw [List.map_cons, List.sum_cons, ih, Multiset.coe_add]
    cases event <;> rfl

/-! ### Blocks -/

def Event.isResolved : Event → Bool
  | resolved .. => true
  | _ => false

/-- The number of lines that begin a block. -/
def starts (text : Text) : Nat := (marks text).countP (·.side = .start)

theorem faithful_starts : Faithful starts fun event => event.isResolved.toNat where
  plain unmarked := by
    rw [starts, Marker.marks_of_unsigned unmarked.unsigned]
    rfl
  notFound d _ front behind clean before := by
    rw [starts, Marker.marks_notFound clean.1.unsigned before.unsigned]
    exact (zero_add _).symm
  block d dir target front body behind reference file base before := by
    rw [starts, Marker.marks_block reference.2 file.2 base.2, Marker.marks_of_unsigned before.unsigned]
    simp [starts, Event.isResolved, List.countP_append]
    omega
  again file clean := by
    rw [starts, Marker.marks_alreadyIncluded clean.2]
    rfl
  tooDeep file maxDepth clean := by
    rw [starts, Marker.marks_depthExceeded maxDepth clean.2]
    rfl
  unreadable file clean := by
    have message : '\n' ∉ (Fault.noSuchFile file).message := List.not_mem_append (by decide +kernel) clean.2
    rw [starts, Marker.marks_unreadable clean.2 message]
    rfl
  started _ := rfl
  processing _ _ _ := rfl

theorem shownBy_isResolved (run : Run) :
    shownBy (fun event => event.isResolved.toNat) run = run.events.countP Event.isResolved := by
  obtain ⟨visited, events⟩ := run
  rw [shownBy]
  induction events with
  | nil => rfl
  | cons event events ih =>
    rw [List.map_cons, List.sum_cons, ih, List.countP_cons, add_comm]
    cases event <;> rfl

/-! ### Calls and targets -/

/-- A file that is called for counts for one, and a target that was found takes it back. -/
def Event.surplus : Event → Int
  | processing .. | alreadyProcessed _ | tooDeep .. => 1
  | resolved .. => -1
  | _ => 0

theorem surplus_replacement {visit : Run → (file base : Path) → Text × Run}
    (calls : ∀ run file base, shownBy Event.surplus (visit run file base).2 = 1 + shownBy Event.surplus run)
    (source : Source) (base : Path) (run : Run) (d : Directive) :
    shownBy Event.surplus (replacement source visit base run d).2 = shownBy Event.surplus run := by
  cases found : source.resolve? d.name (d.searchDir base) with
  | none =>
    rw [replacement_of_none found]
    exact (shownBy_note _ _ _).trans (zero_add _)
  | some target =>
    have noted := shownBy_note Event.surplus run (.resolved d (d.searchDir base) target)
    have inner := calls (run.note (.resolved d (d.searchDir base) target)) target (d.searchDir base)
    rw [replacement_of_some found]
    exact inner.trans (by rw [noted, Event.surplus]; omega)

/-- Each call but the first is made for a target that was found. -/
theorem surplus_visitBy {follows : Text → Directive → Prop} (threads : fill.Threads follows) (source : Source)
    (run : Run) (file base : Path) :
    shownBy Event.surplus (visitBy fill source options levels run file base).2 =
      1 + shownBy Event.surplus run := by
  have begun (run : Run) (file base : Path) (depth : Nat) :
      shownBy Event.surplus (run.begin source file base depth) = 1 + shownBy Event.surplus run :=
    shownBy_note _ (run.enter (source.settle file)) _
  refine visitBy_induction (motive := fun _ run _ _ after => shownBy Event.surplus after.2 =
    1 + shownBy Event.surplus run) ?_ ?_ ?_ ?_ levels run file base
  · intro levels run file base _
    exact shownBy_note _ _ _
  · intro run file base _
    exact shownBy_note _ _ _
  · intro levels run file base cause _ _
    rw [← begun run file base (options.maxDepth - levels)]
    exact (shownBy_note _ _ _).trans (zero_add _)
  · intro levels run file base text _ _ calls
    obtain ⟨ds, -, same⟩ := threads (replacement source (visitBy fill source options levels) base)
      (run.begin source file base (options.maxDepth - levels)) text
    have each (run : Run) : shownBy Event.surplus (ds.foldl (fun run d => (replacement source
        (visitBy fill source options levels) base run d).2) run) = shownBy Event.surplus run := by
      clear same
      induction ds generalizing run with
      | nil => rfl
      | cons d ds ih => exact (ih _).trans (surplus_replacement calls source base run d)
    rw [same, each, begun]

/-! ### What is logged -/

/-- The log entry is one of those for the notices on a topic. -/
def Reports (topic : Topic) (entry : Log.Entry) : Prop :=
  match topic with
  | .notFound kind => entry.level = .error ∧ entry.message = "File not found".toList ∧
      entry.fields.lookup "kind".toList = some kind.word
  | .unreadable => entry.level = .error ∧ entry.message = "Cannot read file".toList
  | .alreadyIncluded => entry.level = .warn ∧ entry.message = "File already processed, skipping".toList
  | .depthExceeded => entry.level = .warn ∧ entry.message = "Maximum inclusion depth exceeded".toList

instance (topic : Topic) (entry : Log.Entry) : Decidable (Reports topic entry) :=
  match topic with
  | .notFound _ => inferInstanceAs (Decidable (_ ∧ _ ∧ _))
  | .unreadable | .alreadyIncluded | .depthExceeded => inferInstanceAs (Decidable (_ ∧ _))

def ReportsFile (entry : Log.Entry) : Prop := entry.level = .debug ∧ entry.message = "Processing".toList

instance (entry : Log.Entry) : Decidable (ReportsFile entry) := inferInstanceAs (Decidable (_ ∧ _))

theorem word_eq_iff {kind kind' : Kind} : kind.word = kind'.word ↔ kind = kind' := by
  cases kind <;> cases kind' <;> decide

/-- An event is logged as the notice on its topic says. -/
theorem reports_iff (topic : Topic) (event : Event) :
    (∃ entry, event.logged? = some entry ∧ Reports topic entry) ↔
      ∃ notice, event.notice? = some notice ∧ notice.topic = topic := by
  cases event <;> cases topic <;> simp [Event.logged?, Event.notice?, Reports, word_eq_iff]

theorem reportsFile_iff (event : Event) :
    (∃ entry, event.logged? = some entry ∧ ReportsFile entry) ↔ event.read?.isSome = true := by
  cases event <;> simp [Event.logged?, Event.read?, ReportsFile]

theorem getD_map_eq_true_iff {α : Type} {o : Option α} {p : α → Prop} [DecidablePred p] :
    (o.map fun x => decide (p x)).getD false = true ↔ ∃ x, o = some x ∧ p x := by
  cases o <;> simp

theorem countP_reports (topic : Topic) (events : List Event) :
    (events.filterMap Event.logged?).countP (Reports topic ·) =
      (events.filterMap Event.notice?).countP (·.topic = topic) := by
  rw [List.countP_filterMap, List.countP_filterMap]
  refine List.countP_congr fun event _ => ?_
  rw [getD_map_eq_true_iff, getD_map_eq_true_iff]
  exact reports_iff topic event

theorem countP_reportsFile (events : List Event) :
    (events.filterMap Event.logged?).countP (ReportsFile ·) = (reads events).length := by
  rw [reads, List.length_filterMap_eq_countP, List.countP_filterMap]
  refine List.countP_congr fun event _ => ?_
  rw [getD_map_eq_true_iff]
  exact reportsFile_iff event

theorem shownBy_surplus (run : Run) :
    shownBy Event.surplus run + run.events.countP Event.isResolved = (reads run.events).length +
      (run.events.filterMap Event.notice?).countP (·.topic = .alreadyIncluded) +
      (run.events.filterMap Event.notice?).countP (·.topic = .depthExceeded) := by
  obtain ⟨visited, events⟩ := run
  rw [shownBy, reads, List.length_filterMap_eq_countP, List.countP_filterMap, List.countP_filterMap]
  induction events with
  | nil => rfl
  | cons event events ih =>
    rw [List.map_cons, List.sum_cons]
    simp only [List.countP_cons]
    cases event <;> simp [Event.surplus, Event.isResolved, Event.read?, Event.notice?] at ih ⊢ <;> omega

/-! ### The whole merge -/

/-- The notices in a merged tidy project are those of the events, and for each topic the log has as many
entries. It has an entry for each file that was expanded, and in the text a block begins for each of these
but the root, and for each file that was met again or too deep. -/
theorem merge_logs_notices {store : Store} {root : Path} (options : Options) (tidy : TidyProject store root)
    (unmarked : ∀ path text, store.content? path = some text → Unmarked text) (unmarked' : Unmarked root.text)
    (present : store.present root = true) :
    ∃ merged events, merge store.source options root = (.ok merged, events) ∧
      (notices merged.content).Perm (events.filterMap Event.notice?) ∧
      (∀ topic, (notices merged.content).countP (·.topic = topic) =
        (events.filterMap Event.logged?).countP (Reports topic ·)) ∧
      (events.filterMap Event.logged?).countP (ReportsFile ·) = merged.filesProcessed ∧
      starts merged.content + 1 = merged.filesProcessed +
        (notices merged.content).countP (·.topic = .alreadyIncluded) +
        (notices merged.content).countP (·.topic = .depthExceeded) := by
  have shows := faithful_notices.read_content options tidy unmarked unmarked'
  rw [shownBy_notice, Multiset.coe_eq_coe] at shows
  have count (topic : Topic) := shows.countP_eq (·.topic = topic)
  have once := readsOnce_fromRoot store options present
  have files : (reads (fromRoot rescan store options root).2.events).length =
      (fromRoot rescan store options root).2.visited.length := by
    have same := congrArg List.length once.visited
    simpa [reads_reverse] using same
  refine ⟨_, _, merge_of_present options present, ?_, fun topic => ?_, ?_, ?_⟩
  · rw [List.filterMap_reverse]
    exact shows.trans (List.reverse_perm _).symm
  · rw [count topic, ← countP_reports, List.filterMap_reverse, List.countP_reverse]
  · rw [countP_reportsFile, reads_reverse, List.length_reverse, files]
  · have blocks := faithful_starts.read_content options tidy unmarked unmarked'
    rw [shownBy_isResolved] at blocks
    have calls : shownBy Event.surplus (fromRoot rescan store options root).2 = 1 + 0 :=
      surplus_visitBy threads_rescan store.source _ _ _
    have total := shownBy_surplus (fromRoot rescan store options root).2
    simp only [count, blocks]
    omega

/-- A cycle, a file that is not there, a directory, and a file too deep for a limit of one, beside parts of
the signs. -/
def thicket : Store where
  files := [
    (.ofString "/m.tex", "% Error:\\input\x7ba\x7d% Warn\\include\x7bgone\x7d\\input\x7bs\x7ding: ".toList),
    (.ofString "/a.tex", "\\input\x7bm\x7d\\import\x7bs\x7d\x7bb\x7d".toList),
    (.ofString "/s/b.tex", "B".toList)]

theorem tidy_thicket : TidyProject thicket (.ofString "/m.tex") := by
  have last : Directive.Complete "ing: ".toList := Directive.commands_of_not_mem (by decide)
  have inputs := last.input (show Directive.Plain "s".toList by decide)
  have includes := inputs.included (show Directive.Plain "gone".toList by decide)
  have between : Directive.Complete ("% Warn".toList ++ _) := includes.append (by decide)
  have first := between.input (show Directive.Plain "a".toList by decide)
  have main := first.append (show '\\' ∉ "% Error:".toList by decide)
  have empty : Directive.Complete [] := Directive.commands_of_not_mem List.not_mem_nil
  have imports := empty.imported (show Directive.Plain "s".toList by decide)
    (show Directive.Plain "b".toList by decide)
  refine ⟨fun path text found => Directive.Complete.tidy ?_, by decide +kernel⟩
  obtain ⟨file, member, rfl⟩ := Store.exists_of_content? found
  simp only [thicket, List.mem_cons, List.not_mem_nil, or_false] at member
  rcases member with rfl | rfl | rfl
  · exact main
  · exact imports.input (show Directive.Plain "m".toList by decide)
  · exact Directive.commands_of_not_mem (by decide)

theorem unmarked_thicket (path : Path) (text : Text) (found : thicket.content? path = some text) :
    Unmarked text := by
  have each : ∀ file ∈ thicket.files, Unmarked file.2 := by decide +kernel
  obtain ⟨file, member, rfl⟩ := Store.exists_of_content? found
  exact each file member

/-- Every topic is met, and each notice has its entry in the log. -/
theorem merge_logs_notices_thicket :
    TidyProject thicket (.ofString "/m.tex") ∧
      (∀ path text, thicket.content? path = some text → Unmarked text) ∧
      Unmarked (Path.ofString "/m.tex").text ∧ thicket.present (.ofString "/m.tex") = true ∧
      ∃ merged events, merge thicket.source { maxDepth := 1 } (.ofString "/m.tex") = (.ok merged, events) ∧
        (notices merged.content).map (·.topic) =
          [.alreadyIncluded, .depthExceeded, .notFound .includeFile, .unreadable] ∧
        (events.filterMap Event.logged?).countP (Reports .unreadable ·) = 1 ∧
        (events.filterMap Event.logged?).countP (ReportsFile ·) = 3 ∧ starts merged.content = 4 := by
  have root : Unmarked (Path.ofString "/m.tex").text := by decide +kernel
  have present : thicket.present (.ofString "/m.tex") = true := by decide +kernel
  obtain ⟨merged, events, merges, -, topics, files, blocks⟩ :=
    merge_logs_notices { maxDepth := 1 } tidy_thicket unmarked_thicket root present
  have written : (merge thicket.source { maxDepth := 1 } (.ofString "/m.tex")).1.map (fun merged =>
      ((notices merged.content).map (·.topic), merged.filesProcessed)) = .ok
        ([.alreadyIncluded, .depthExceeded, .notFound .includeFile, .unreadable], 3) := by decide +kernel
  rw [merges] at written
  obtain ⟨notes, expanded⟩ := Prod.mk.inj (Except.ok.inj written)
  have count (topic : Topic) : (notices merged.content).countP (·.topic = topic) =
      [Topic.alreadyIncluded, .depthExceeded, .notFound .includeFile, .unreadable].countP (· = topic) := by
    rw [← notes, List.countP_map]
    rfl
  refine ⟨tidy_thicket, unmarked_thicket, root, present, merged, events, merges, notes, ?_, ?_, ?_⟩
  · rw [← topics, count]
    rfl
  · rw [files, expanded]
  · rw [count, count, expanded] at blocks
    exact Nat.add_right_cancel blocks

end TexFlat.Merge
