import TexFlat.Proofs.Merge.Reads

/-!
# What already included means

A file is entered among the visited ones before it is read, and stays there if it cannot be read, as is
the case with a directory. So a file that is called already included is one that was tried, and the count of
a merge is that of the files that were read and of those that could not be. A turn is what one call does to
a run by itself; the failure to read is one turn with the expansion that it ends.
-/

namespace TexFlat.Merge

variable {store : Store} {options : Options} {fill : Fill} {run run' : Run} {start file base : Path}

/-- What a call does to a run, apart from the calls that are made for it. -/
inductive Turn (store : Store) (options : Options) (run : Run) : Run → Prop
  | resolved (d : Directive) (dir target : Path) : Turn store options run (run.note (.resolved d dir target))
  | notFound (d : Directive) (dir : Path) : Turn store options run (run.note (.notFound d dir))
  | again {file : Path} : store.Place file → run.HasVisited file →
    Turn store options run (run.note (.alreadyProcessed file))
  | tooDeep (file : Path) : Turn store options run (run.note (.tooDeep file options.maxDepth))
  | expand {file : Path} (base : Path) (depth : Nat) {text : Text} : store.Place file →
    ¬ run.HasVisited file → store.content? file = some text →
    Turn store options run (run.begin store.source file base depth)
  | fail {file : Path} (base : Path) (depth : Nat) : store.Place file → ¬ run.HasVisited file →
    store.content? file = none → Turn store options run
      ((run.begin store.source file base depth).note (.unreadable file (.noSuchFile file)))

abbrev Turns (store : Store) (options : Options) : Run → Run → Prop :=
  Relation.ReflTransGen (Turn store options)

/-! ### A call is a series of turns -/

theorem turns_replacement {visit : Run → (file base : Path) → Text × Run}
    (calls : ∀ run file base, store.Place file → Turns store options run (visit run file base).2)
    (base : Path) (run : Run) (d : Directive) :
    Turns store options run (replacement store.source visit base run d).2 := by
  cases found : store.source.resolve? d.name (d.searchDir base) with
  | none =>
    rw [replacement_of_none found]
    exact .single (.notFound d _)
  | some target =>
    rw [replacement_of_some found]
    exact .head (.resolved d _ target) (calls _ _ _ (Store.place_of_resolve? found))

theorem turns_visitBy {follows : Text → Directive → Prop} (threads : fill.Threads follows) (levels : Nat)
    (run : Run) (place : store.Place file) (base : Path) :
    Turns store options run (visitBy fill store.source options levels run file base).2 := by
  refine visitBy_induction (motive := fun _ run file _ after => store.Place file →
    Turns store options run after.2) ?_ ?_ ?_ ?_ levels run file base place
  · intro levels run file base visited place
    rw [place.settle] at visited
    exact .single (.again place visited)
  · intro run file base _ _
    exact .single (.tooDeep file)
  · intro levels run file base cause new read place
    rw [place.settle] at new
    obtain rfl := Store.eq_noSuchFile_of_read read
    have missing : store.content? file = none := by
      rw [Option.eq_none_iff_forall_ne_some]
      intro text found
      rw [Store.read_eq_ok_iff.mpr found] at read
      exact absurd read nofun
    exact .single (.fail base _ place new missing)
  · intro levels run file base text new read calls place
    rw [place.settle] at new
    obtain ⟨ds, -, same⟩ := threads (replacement store.source (visitBy fill store.source options levels) base)
      (run.begin store.source file base (options.maxDepth - levels)) text
    rw [same]
    have first : Turn store options run (run.begin store.source file base (options.maxDepth - levels)) :=
      .expand base _ place new (Store.read_eq_ok_iff.mp read)
    refine .head first (List.foldlRecOn ds _ .refl fun now turns d _ => ?_)
    exact turns.trans (turns_replacement calls base now d)

/-! ### What the events tell of the visited files -/

def Event.failed? : Event → Option Path
  | unreadable file _ => some file
  | _ => none

/-- The files that could not be read. -/
def failures (events : List Event) : List Path := events.filterMap Event.failed?

/-- The files of which the text was read. -/
def textsRead (store : Store) (events : List Event) : List Path :=
  ((reads events).map (·.1)).filter fun file => (store.content? file).isSome

/-- Among the visited files, those without a text are the ones that could not be read. -/
structure Accounted (store : Store) (run : Run) : Prop where
  ledger : Ledger store run
  failed : ∀ file, file ∈ failures run.events ↔ file ∈ run.visited ∧ store.content? file = none
  once : (failures run.events).Nodup

/-- Before a file is called already included, it was read or could not be. -/
def Foretold (store : Store) (events : List Event) : Prop :=
  ∀ file before, .alreadyProcessed file :: before <:+ events →
    file ∈ (reads before).map (·.1) ∧ (file ∈ failures before ↔ store.content? file = none)

theorem Accounted.note {event : Event} (accounted : Accounted store run) (silent : event.read? = none)
    (succeeds : event.failed? = none) : Accounted store (run.note event) := by
  have same : failures (run.note event).events = failures run.events := List.filterMap_cons_none succeeds
  refine ⟨accounted.ledger.note silent, ?_, ?_⟩
  · rw [same]
    exact accounted.failed
  · rw [same]
    exact accounted.once

theorem visited_begin (run : Run) (place : store.Place file) (base : Path) (depth : Nat) :
    (run.begin store.source file base depth).visited = file :: run.visited :=
  congrArg (· :: run.visited) place.settle

theorem Accounted.expand (accounted : Accounted store run) (place : store.Place file)
    (new : ¬ run.HasVisited file) {text : Text} (found : store.content? file = some text) (base : Path)
    (depth : Nat) : Accounted store (run.begin store.source file base depth) := by
  have entered := visited_begin run place base depth
  refine ⟨accounted.ledger.begin place (by rwa [place.settle]), fun other => ?_, accounted.once⟩
  rw [entered, List.mem_cons]
  constructor
  · intro member
    obtain ⟨before, missing⟩ := (accounted.failed other).mp member
    exact ⟨.inr before, missing⟩
  · rintro ⟨rfl | before, missing⟩
    · rw [found] at missing
      exact absurd missing nofun
    · exact (accounted.failed other).mpr ⟨before, missing⟩

theorem Accounted.fail (accounted : Accounted store run) (place : store.Place file)
    (new : ¬ run.HasVisited file) (missing : store.content? file = none) (base : Path) (depth : Nat) :
    Accounted store ((run.begin store.source file base depth).note (.unreadable file (.noSuchFile file))) := by
  have entered := visited_begin run place base depth
  have ledger : Ledger store (run.begin store.source file base depth) :=
    accounted.ledger.begin place (by rwa [place.settle])
  have added : failures ((run.begin store.source file base depth).note
      (.unreadable file (.noSuchFile file))).events = file :: failures run.events := rfl
  refine ⟨ledger.note rfl, fun other => ?_, ?_⟩
  · have visited : ((run.begin store.source file base depth).note
        (.unreadable file (.noSuchFile file))).visited = file :: run.visited := entered
    rw [added, visited, List.mem_cons, List.mem_cons, accounted.failed]
    constructor
    · rintro (rfl | ⟨before, none⟩)
      · exact ⟨.inl rfl, missing⟩
      · exact ⟨.inr before, none⟩
    · rintro ⟨rfl | before, none⟩
      · exact .inl rfl
      · exact .inr ⟨before, none⟩
  · rw [added, List.nodup_cons]
    refine ⟨fun member => ?_, accounted.once⟩
    have before := ((accounted.failed file).mp member).1
    exact new ⟨file, before, rfl⟩

theorem Accounted.turn (accounted : Accounted store run) (turn : Turn store options run run') :
    Accounted store run' := by
  cases turn with
  | resolved | notFound | again | tooDeep => exact accounted.note rfl rfl
  | expand base depth place new found => exact accounted.expand place new found base depth
  | fail base depth place new missing => exact accounted.fail place new missing base depth

theorem Foretold.cons {events : List Event} {event : Event} (foretold : Foretold store events)
    (other : ∀ file, event ≠ .alreadyProcessed file) : Foretold store (event :: events) := by
  intro file before inside
  rcases List.suffix_cons_iff.mp inside with same | inside
  · exact absurd (List.cons.inj same).1.symm (other file)
  · exact foretold file before inside

/-- What was visited can be told from the events. -/
theorem Accounted.foretold (accounted : Accounted store run) (foretold : Foretold store run.events)
    (place : store.Place file) (visited : run.HasVisited file) :
    Foretold store (run.note (.alreadyProcessed file)).events := by
  obtain ⟨path, member, same⟩ := visited
  have normal := (accounted.ledger.places path member).2
  obtain rfl : path = file := Path.eq_of_same_of_normal same normal place.2
  intro other before inside
  rcases List.suffix_cons_iff.mp inside with now | inside
  · obtain ⟨event, rfl⟩ := List.cons.inj now
    obtain rfl := Event.alreadyProcessed.inj event
    refine ⟨accounted.ledger.visited ▸ member, ?_⟩
    rw [accounted.failed]
    exact and_iff_right member
  · exact foretold other before inside

theorem Foretold.turn (foretold : Foretold store run.events) (accounted : Accounted store run)
    (turn : Turn store options run run') : Foretold store run'.events := by
  cases turn with
  | resolved | notFound | tooDeep | expand => exact foretold.cons fun _ => nofun
  | again place visited => exact accounted.foretold foretold place visited
  | @fail file base depth =>
    have begun : Foretold store (run.begin store.source file base depth).events :=
      foretold.cons fun _ => nofun
    exact begun.cons fun _ => nofun

theorem accounted_turns (turns : Turns store options { events := [.started start] } run) :
    Accounted store run ∧ Foretold store run.events := by
  induction turns with
  | refl =>
    refine ⟨⟨ledger_started store start, fun file => ?_, List.nodup_nil⟩, fun file before inside => ?_⟩
    · exact iff_of_false List.not_mem_nil fun both => List.not_mem_nil both.1
    · have member := inside.subset List.mem_cons_self
      exact absurd (List.mem_singleton.mp member) nofun
  | tail _ turn ih =>
    obtain ⟨accounted, foretold⟩ := ih
    exact ⟨accounted.turn turn, foretold.turn accounted turn⟩

/-! ### The whole merge -/

theorem visit_eq_again_iff {source : Source} {depth levels : Nat} (total : depth + levels = options.maxDepth + 1)
    (run : Run) (file base : Path) :
    visit source options levels run file base =
        (Marker.alreadyIncluded file, run.note (.alreadyProcessed file)) ↔
      run.HasVisited (source.settle file) := by
  constructor
  · intro same
    by_contra new
    rcases Nat.lt_or_ge options.maxDepth depth with deep | shallow
    · obtain rfl : levels = 0 := by omega
      rw [visit_eq_visitBy, visitBy_zero new] at same
      have events := congrArg (·.2.events) same
      exact absurd (List.cons.inj events).1 nofun
    · have answers : Answers source options depth run file base _ := answers_visit total run file base
      rw [same] at answers
      exact new (answers.expanded new shallow).2
  · intro visited
    rw [visit_eq_visitBy, visitBy_of_visited visited]

theorem perm_reads_failures (accounted : Accounted store run) :
    (textsRead store run.events ++ failures run.events).Perm run.visited := by
  have missed : (failures run.events).Perm
      (run.visited.filter fun file => !(store.content? file).isSome) := by
    rw [List.perm_ext_iff_of_nodup accounted.once (accounted.ledger.distinct.filter _)]
    intro file
    rw [accounted.failed, List.mem_filter]
    cases store.content? file <;> simp
  have read : textsRead store run.events = run.visited.filter fun file => (store.content? file).isSome := by
    rw [accounted.ledger.visited]
    rfl
  rw [read]
  exact (missed.append_left _).trans (List.filter_append_perm _ _)

theorem textsRead_reverse (store : Store) (events : List Event) :
    textsRead store events.reverse = (textsRead store events).reverse := by
  rw [textsRead, reads_reverse, List.map_reverse, List.filter_reverse]
  rfl

theorem failures_reverse (events : List Event) : failures events.reverse = (failures events).reverse :=
  List.filterMap_reverse

/-- A call leaves the marker for a file that is already included, and notes that it does, exactly if the file
was visited. Such a file was tried before, and its text was read exactly if no failure to read it was noted
until then. Only what is there without being a document, as a directory is, fails. The files that a merge
counts are those of which the text was read, and those that failed, each of them once. -/
theorem merge_accounts (options : Options) {root : Path} (present : store.present root = true) :
    ∃ merged events, merge store.source options root = (.ok merged, events) ∧
      (∀ depth levels now file base, depth + levels = options.maxDepth + 1 →
        (visit store.source options levels now file base =
            (Marker.alreadyIncluded file, now.note (.alreadyProcessed file)) ↔
          now.HasVisited (store.source.settle file))) ∧
      (∀ before file after, events = before ++ .alreadyProcessed file :: after →
        (∃ base depth, .processing file base depth ∈ before) ∧
        ((∃ text, store.content? file = some text) ↔ file ∉ failures before)) ∧
      (∀ file ∈ failures events, store.present file = true ∧ store.content? file = none) ∧
      (textsRead store events ++ failures events).Nodup ∧
      merged.filesProcessed = (textsRead store events).length + (failures events).length := by
  have place := Store.place_normalize present
  have turns : Turns store options { events := [.started root.normalize] } (fromRoot rescan store options root).2 :=
    turns_visitBy threads_rescan (options.maxDepth + 1) _ place root.normalize.directory
  obtain ⟨accounted, foretold⟩ := accounted_turns turns
  have whole := perm_reads_failures accounted
  refine ⟨_, _, merge_of_present options present,
    fun depth levels now file base total => visit_eq_again_iff total now file base,
    fun before file after cut => ?_, fun file member => ?_, ?_, ?_⟩
  · have inside : .alreadyProcessed file :: before.reverse <:+ (fromRoot rescan store options root).2.events := by
      refine ⟨after.reverse, ?_⟩
      rw [← List.reverse_reverse (fromRoot rescan store options root).2.events, cut]
      simp
    obtain ⟨tried, failed⟩ := foretold file _ inside
    rw [reads_reverse, List.map_reverse, List.mem_reverse] at tried
    rw [failures_reverse] at failed
    refine ⟨exists_of_mem_reads tried, ?_⟩
    rw [← List.mem_reverse, failed, ← Option.isSome_iff_exists, ← Option.ne_none_iff_isSome]
  · rw [failures_reverse, List.mem_reverse, accounted.failed] at member
    exact ⟨(accounted.ledger.places file member.1).1, member.2⟩
  · rw [textsRead_reverse, failures_reverse]
    have distinct := whole.nodup_iff.mpr accounted.ledger.distinct
    exact ((List.reverse_perm _).append (List.reverse_perm _)).nodup_iff.mpr distinct
  · rw [textsRead_reverse, failures_reverse, List.length_reverse, List.length_reverse, ← List.length_append]
    exact whole.length_eq.symm

/-- A directory that is referred to twice. -/
def chapters : Store where
  files := [
    (.ofString "/doc/main.tex", "\\input\x7bsections\x7d\\input\x7bsections\x7d".toList),
    (.ofString "/doc/sections/intro.tex", "intro".toList)]

theorem merge_accounts_chapters :
    chapters.present (.ofString "/doc/main.tex") = true ∧
      ∃ merged events, merge chapters.source {} (.ofString "/doc/main.tex") = (.ok merged, events) ∧
        merged.filesProcessed = (textsRead chapters events).length + (failures events).length ∧
        textsRead chapters events = [.ofString "/doc/main.tex"] ∧
        failures events = [.ofString "/doc/sections"] := by
  have present : chapters.present (.ofString "/doc/main.tex") = true := by decide +kernel
  obtain ⟨merged, events, whole, -, -, -, -, counted⟩ := merge_accounts {} present
  have noted : textsRead chapters (merge chapters.source {} (.ofString "/doc/main.tex")).2 =
        [.ofString "/doc/main.tex"] ∧
      failures (merge chapters.source {} (.ofString "/doc/main.tex")).2 = [.ofString "/doc/sections"] := by
    decide +kernel
  rw [whole] at noted
  exact ⟨present, merged, events, whole, counted, noted⟩

/-- The directory cannot be read. It is called already included all the same, and it is counted. -/
theorem merge_includes_directory :
    ∃ merged events, merge chapters.source {} (.ofString "/doc/main.tex") = (.ok merged, events) ∧
      .alreadyProcessed (.ofString "/doc/sections") ∈ events ∧
      Marker.alreadyIncluded (.ofString "/doc/sections") <:+: merged.content ∧
      chapters.content? (.ofString "/doc/sections") = none ∧
      merged.filesProcessed ≠ (textsRead chapters events).length := by
  have present : chapters.present (.ofString "/doc/main.tex") = true := by decide +kernel
  refine ⟨_, _, merge_of_present {} present, ?_, ?_, by decide +kernel, ?_⟩
  all_goals decide +kernel

end TexFlat.Merge
