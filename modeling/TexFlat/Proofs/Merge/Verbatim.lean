import TexFlat.Proofs.Merge.Flat
import TexFlat.Proofs.Merge.Framing
import TexFlat.Proofs.Merge.Reads

/-!
# What is carried over

The text of a file in which no scan finds anything goes into a block, and the passes of the files
around it read that block again. It stays in one piece as long as none of them takes a directive that
reaches over the line before the text, or over the line behind it.
-/

namespace TexFlat.Merge

open Directive (Kind Mute Segment)
open Marker (framed)

variable {source : Source} {options : Options} {replace : Run → Directive → Text × Run} {run run' : Run}

/-! ### What a pass keeps and what it puts in -/

theorem splice_append (done : Text) (run : Run) (a b : List Segment) :
    splice replace done run (a ++ b) =
      splice replace (splice replace done run a).1.reverse (splice replace done run a).2 b := by
  induction a generalizing done run with
  | nil => rw [List.nil_append, splice, List.reverse_reverse]
  | cons s a ih =>
    cases s with
    | char c => exact ih _ _
    | directive d => exact ih _ _

theorem reverse_prefix_splice (done : Text) (run : Run) (segments : List Segment) :
    done.reverse <+: (splice replace done run segments).1 := by
  induction segments generalizing done run with
  | nil => exact List.prefix_refl _
  | cons s others ih =>
    cases s with
    | char c =>
      have rest := ih (c :: done) run
      rw [List.reverse_cons] at rest
      exact (List.prefix_append _ _).trans rest
    | directive d =>
      have rest := ih ((replace run d).1.reverse ++ done) (replace run d).2
      rw [List.reverse_append] at rest
      exact (List.prefix_append _ _).trans rest

/-- A stretch of characters without a directive stays as it is. -/
theorem infix_splice (done : Text) (run : Run) (before after : List Segment) (text : Text) :
    text <:+: (splice replace done run (before ++ (text.map .char ++ after))).1 := by
  rw [splice_append, splice_map_char]
  have kept := @reverse_prefix_splice replace (text.reverse ++ (splice replace done run before).1.reverse)
    (splice replace done run before).2 after
  rw [List.reverse_append, List.reverse_reverse, List.reverse_reverse] at kept
  exact (List.suffix_append _ text).isInfix.trans kept.isInfix

/-- What is new after a pass happened for one of the directives, and what replaced it is there. -/
theorem exists_of_mem_splice (onward : ∀ run d, run.events <:+ (replace run d).2.events) {event : Event}
    (done : Text) (run : Run) (segments : List Segment) (old : event ∉ run.events)
    (new : event ∈ (splice replace done run segments).2.events) :
    ∃ now d, event ∉ now.events ∧ event ∈ (replace now d).2.events ∧
      (replace now d).2.events <:+ (splice replace done run segments).2.events ∧
      (replace now d).1 <:+: (splice replace done run segments).1 := by
  induction segments generalizing done run with
  | nil => exact absurd new old
  | cons s others ih =>
    cases s with
    | char c => exact ih (c :: done) run old new
    | directive d =>
      by_cases here : event ∈ (replace run d).2.events
      · have kept := @reverse_prefix_splice replace ((replace run d).1.reverse ++ done)
          (replace run d).2 others
        rw [List.reverse_append, List.reverse_reverse] at kept
        exact ⟨run, d, old, here, events_suffix_splice onward _ _ others,
          (List.suffix_append done.reverse _).isInfix.trans kept.isInfix⟩
      · exact ih _ _ here new

/-- The directive for whose target the merge has looked. -/
def Event.lookedUp? : Event → Option Directive
  | resolved d _ _ | notFound d _ => some d
  | _ => none

def lookedUp (events : List Event) : List Directive := events.filterMap Event.lookedUp?

/-- No import and no include that was looked up takes the line before or behind a body. -/
def Uncrossed (events : List Event) : Prop :=
  ∀ d ∈ lookedUp events, d.kind ≠ .inputFile → ¬ d.CrossesMarker

instance (events : List Event) : Decidable (Uncrossed events) :=
  inferInstanceAs (Decidable (∀ d ∈ lookedUp events, _))

theorem Uncrossed.of_subset {events events' : List Event} (uncrossed : Uncrossed events')
    (inside : events ⊆ events') : Uncrossed events := by
  intro d asked
  obtain ⟨event, member, same⟩ := List.mem_filterMap.mp asked
  exact uncrossed d (List.mem_filterMap.mpr ⟨event, inside member, same⟩)

section Replacement

variable {visit : Run → (file base : Path) → Text × Run}

theorem lookedUp_replacement (calls : ∀ run file base, run.events <:+ (visit run file base).2.events)
    (base : Path) (run : Run) (d : Directive) :
    d ∈ lookedUp (replacement source visit base run d).2.events := by
  cases found : source.resolve? d.name (d.searchDir base) with
  | none =>
    rw [replacement_of_none found]
    exact List.mem_cons_self
  | some target =>
    rw [replacement_of_some found]
    exact ((calls _ _ _).filterMap Event.lookedUp?).subset List.mem_cons_self

theorem lookedUp_foldl (calls : ∀ run file base, run.events <:+ (visit run file base).2.events)
    (base : Path) (run : Run) {ds : List Directive} {d : Directive} (h : d ∈ ds) :
    d ∈ lookedUp (ds.foldl (fun run d => (replacement source visit base run d).2) run).events := by
  have onward := events_suffix_replacement source calls base
  induction ds generalizing run with
  | nil => exact absurd h List.not_mem_nil
  | cons first ds ih =>
    rcases List.mem_cons.mp h with rfl | h
    · have later := events_suffix_foldl onward ds (replacement source visit base run d).2
      exact (later.filterMap Event.lookedUp?).subset (lookedUp_replacement calls base run d)
    · exact ih _ h

end Replacement

/-! ### A block that is read again -/

section Frame

variable {visit : Run → (file base : Path) → Text × Run} {event : Event} {base place : Path} {text : Text}
  (calls : ∀ run file base, run.events <:+ (visit run file base).2.events)
  (mute : Mute place.text) (bare : Bare text)
  (made : ∀ now d, event ∉ now.events → event ∈ (replacement source visit base now d).2.events →
    Uncrossed (replacement source visit base now d).2.events →
      framed place text <:+: (replacement source visit base now d).1)

include calls mute bare made

theorem framed_pass {state : Text × Run} {kind : Kind}
    (kept : event ∈ state.2.events → kind ≠ .inputFile ∧ framed place text <:+: state.1)
    (uncrossed : Uncrossed (pass (replacement source visit base) state kind).2.events)
    (happened : event ∈ (pass (replacement source visit base) state kind).2.events) :
    framed place text <:+: (pass (replacement source visit base) state kind).1 := by
  have onward := events_suffix_replacement source calls base
  unfold pass at uncrossed happened ⊢
  by_cases old : event ∈ state.2.events
  · obtain ⟨notInput, inside⟩ := kept old
    have each : ∀ d ∈ Directive.ofText kind state.1, ¬ d.CrossesMarker := by
      intro d member
      obtain ⟨rest, -, read⟩ := Directive.exists_at?_of_mem_ofText member
      obtain ⟨rfl, -⟩ := Directive.kind_of_at? read
      rw [splice_run] at uncrossed
      exact uncrossed d (lookedUp_foldl calls base state.2 member) notInput
    obtain ⟨before, after, same⟩ := Directive.exists_segments_framed notInput mute (bare kind) inside each
    rw [same]
    exact infix_splice [] state.2 before after _
  · obtain ⟨now, d, before, here, later, inside⟩ := exists_of_mem_splice onward [] state.2 _ old happened
    exact (made now d before here (uncrossed.of_subset later.subset)).trans inside

theorem framed_foldl_pass (kinds : List Kind) (notInput : ∀ kind ∈ kinds, kind ≠ .inputFile)
    {state : Text × Run} (kept : event ∈ state.2.events → framed place text <:+: state.1)
    (uncrossed : Uncrossed (kinds.foldl (pass (replacement source visit base)) state).2.events)
    (happened : event ∈ (kinds.foldl (pass (replacement source visit base)) state).2.events) :
    framed place text <:+: (kinds.foldl (pass (replacement source visit base)) state).1 := by
  induction kinds generalizing state with
  | nil => exact kept happened
  | cons kind kinds ih =>
    have later := events_suffix_foldl_pass (events_suffix_replacement source calls base) kinds
      (pass (replacement source visit base) state kind)
    refine ih (fun kind member => notInput kind (List.mem_cons_of_mem _ member)) ?_ uncrossed happened
    exact framed_pass calls mute bare made (fun old => ⟨notInput kind List.mem_cons_self, kept old⟩)
      (uncrossed.of_subset later.subset)

/-- Inputs are replaced first, so no pass for inputs reads what was put in. -/
theorem framed_rescan {body : Text} (old : event ∉ run.events)
    (uncrossed : Uncrossed (rescan (replacement source visit base) run body).2.events)
    (happened : event ∈ (rescan (replacement source visit base) run body).2.events) :
    framed place text <:+: (rescan (replacement source visit base) run body).1 := by
  have later : (pass (replacement source visit base) (body, run) .inputFile).2.events <:+
      (rescan (replacement source visit base) run body).2.events :=
    events_suffix_foldl_pass (events_suffix_replacement source calls base) [.importFile, .includeFile] _
  refine framed_foldl_pass calls mute bare made [.importFile, .includeFile] (by decide) ?_
    uncrossed happened
  exact framed_pass calls mute bare made (fun before => absurd before old) (uncrossed.of_subset later.subset)

end Frame

/-! ### A file that is expanded -/

theorem carried_visitBy {kept place : Path} {depth : Nat} {text : Text}
    (read : source.read options.encoding kept = .ok text) (mute : Mute place.text) (bare : Bare text)
    (levels : Nat) (run : Run) (file base : Path) (old : .processing kept place depth ∉ run.events)
    (new : .processing kept place depth ∈ (visitBy rescan source options levels run file base).2.events)
    (uncrossed : Uncrossed (visitBy rescan source options levels run file base).2.events) :
    (file = kept ∧ base = place ∧ (visitBy rescan source options levels run file base).1 = text) ∨
      framed place text <:+: (visitBy rescan source options levels run file base).1 := by
  refine visitBy_induction (motive := fun _ run file base result =>
    .processing kept place depth ∉ run.events → .processing kept place depth ∈ result.2.events →
      Uncrossed result.2.events →
        (file = kept ∧ base = place ∧ result.1 = text) ∨ framed place text <:+: result.1)
    ?_ ?_ ?_ ?_ levels run file base old new uncrossed
  · intro levels run file base _ old new _
    exact absurd (mem_of_mem_note new nofun) old
  · intro run file base _ old new _
    exact absurd (mem_of_mem_note new nofun) old
  · intro levels run file base cause _ failed old new _
    rcases List.mem_cons.mp (mem_of_mem_note new nofun) with same | before
    · obtain ⟨rfl, -, -⟩ := Event.processing.inj same
      exact absurd (read.symm.trans failed) nofun
    · exact absurd before old
  · intro levels run file base body _ opened calls old new uncrossed
    by_cases own : Event.processing kept place depth = .processing file base (options.maxDepth - levels)
    · obtain ⟨rfl, rfl, -⟩ := Event.processing.inj own
      obtain rfl := Except.ok.inj (read.symm.trans opened)
      exact .inl ⟨rfl, rfl, by rw [bare.rescan_eq]⟩
    · have before : Event.processing kept place depth ∉
          (run.begin source file base (options.maxDepth - levels)).events :=
        fun member => old (mem_of_mem_note member own)
      right
      refine framed_rescan (events_suffix_visitBy threads_rescan levels) mute bare ?_ before uncrossed new
      intro now d earlier here uncrossed
      cases found : source.resolve? d.name (d.searchDir base) with
      | none =>
        rw [replacement_of_none found] at here
        exact absurd (mem_of_mem_note here nofun) earlier
      | some target =>
        rw [replacement_of_some found] at here uncrossed ⊢
        have silent : Event.processing kept place depth ∉
            (now.note (.resolved d (d.searchDir base) target)).events :=
          fun member => earlier (mem_of_mem_note member nofun)
        have inner := Marker.framed_infix_block d.kind d.reference target (d.searchDir base)
        rcases calls _ target (d.searchDir base) silent here uncrossed with ⟨rfl, rfl, same⟩ | inside
        · simp only [same]
          exact inner text
        · exact inside.trans (Marker.infix_block ..)

/-! ### Tidy projects -/

variable {store : Store} {root : Path}

theorem TidyProject.uncrossed (options : Options) (tidy : TidyProject store root) :
    Uncrossed (fromRoot rescan store options root).2.events := by
  have steps := steps_fromRoot threads_atOnce store options root
  rw [(fromRoot_rescan_eq options tidy).1]
  intro d asked _
  obtain ⟨event, member, same⟩ := List.mem_filterMap.mp asked
  have grounded := steps.grounded member
  obtain ⟨dir, depth, file, base, text, -, read, stands, -⟩ : ∃ dir depth, Asks store.source options
      (fun text d => d ∈ Inventory.references text) (fromRoot atOnce store options root).2 d dir depth := by
    cases event with
    | resolved | notFound =>
      obtain rfl := Option.some.inj same
      exact ⟨_, grounded⟩
    | _ => exact absurd same nofun
  have spelled := spelled_of_mem_references (tidy.texts file text (Store.read_eq_ok_iff.mp read)) stands
  exact spelled.not_crossesMarker

theorem TidyProject.mute_base (options : Options) (tidy : TidyProject store root) {file base : Path}
    {depth : Nat} (h : .processing file base depth ∈ (fromRoot rescan store options root).2.events) : Mute base.text := by
  have steps := steps_fromRoot threads_atOnce store options root
  rw [(fromRoot_rescan_eq options tidy).1] at h
  induction depth generalizing file base with
  | zero =>
    obtain ⟨-, rfl⟩ := steps.called h
    exact tidy.mute.normalize.directory
  | succ depth ih =>
    obtain ⟨d, ⟨parent, from', text, begun, read, stands, rfl⟩, -⟩ := steps.called h
    have spelled := spelled_of_mem_references (tidy.texts parent text (Store.read_eq_ok_iff.mp read)) stands
    exact mute_searchDir spelled (ih begun)

/-- The text of an expanded file in which no scan finds anything stands in what was merged, if its base
has no command in its name and no import or include that was looked up, in whatever pass, takes the
line before or behind a body. In a tidy project this is so. -/
theorem merge_keeps_bare (options : Options) (present : store.present root = true) :
    ∃ merged events, merge store.source options root = (.ok merged, events) ∧
      ∀ file base depth text, .processing file base depth ∈ events → store.content? file = some text →
        (∀ kind, Directive.scan text kind = []) →
        (Mute base.text ∧ Uncrossed events) ∨ TidyProject store root → text <:+: merged.content := by
  refine ⟨_, _, merge_of_present options present, fun file base depth text happened found nothing clear => ?_⟩
  have happened := List.mem_reverse.mp happened
  have bare : Bare text := fun kind => Directive.scan_eq_nil_iff.mp (nothing kind)
  have read : store.source.read options.encoding file = .ok text := Store.read_eq_ok_iff.mpr found
  obtain ⟨mute, uncrossed⟩ :
      Mute base.text ∧ Uncrossed (fromRoot rescan store options root).2.events := by
    rcases clear with ⟨mute, uncrossed⟩ | tidy
    · exact ⟨mute, uncrossed.of_subset fun _ => List.mem_reverse.mpr⟩
    · exact ⟨tidy.mute_base options happened, tidy.uncrossed options⟩
  have old : .processing file base depth ∉ [Event.started root.normalize] := by simp
  rcases carried_visitBy read mute bare (options.maxDepth + 1) { events := [.started root.normalize] }
    root.normalize root.normalize.directory old happened uncrossed with ⟨-, -, same⟩ | inside
  · refine ⟨[], [], ?_⟩
    rw [List.nil_append, List.append_nil]
    exact same.symm
  · exact (Marker.infix_framed base text).trans inside

/-- The text of `f` is no directive by itself, and with the brace behind its block it is one. -/
def spill (more : Text) : Store where
  files := [(.ofString "/doc/main.tex", "\\input\x7bf\x7d".toList ++ more),
    (.ofString "/doc/f.tex", "\\include\x7bx".toList)]

theorem scan_spill (kind : Kind) : Directive.scan "\\include\x7bx".toList kind = [] := by
  cases kind <;> decide +kernel

theorem merge_keeps_bare_unclosed :
    (spill []).present (.ofString "/doc/main.tex") = true ∧
      ∃ merged events, merge (spill []).source {} (.ofString "/doc/main.tex") = (.ok merged, events) ∧
        "\\include\x7bx".toList <:+: merged.content := by
  have present : (spill []).present (.ofString "/doc/main.tex") = true := by decide +kernel
  obtain ⟨merged, events, merges, keeps⟩ := merge_keeps_bare {} present
  have same : events = (merge (spill []).source {} (.ofString "/doc/main.tex")).2 := by rw [merges]
  have happened : .processing (.ofString "/doc/f.tex") (.ofString "/doc") 1 ∈ events := by
    rw [same]
    decide +kernel
  have uncrossed : Uncrossed events := by
    rw [same]
    decide +kernel
  have mute : Mute (Path.ofString "/doc").text := Directive.mute_of_not_mem (by decide +kernel)
  refine ⟨present, merged, events, merges, ?_⟩
  exact keeps _ _ 1 _ happened (by decide +kernel) scan_spill (.inl ⟨mute, uncrossed⟩)

/-- A text in which no scan finds anything does not stand in what was merged. -/
theorem merge_breaks_bare :
    ¬ ∀ (store : Store) (options : Options) (root : Path), store.present root = true →
      ∀ merged events, merge store.source options root = (.ok merged, events) →
        ∀ file base depth text, .processing file base depth ∈ events → store.content? file = some text →
          (∀ kind, Directive.scan text kind = []) → text <:+: merged.content := by
  intro claim
  have present : (spill ['\x7d']).present (.ofString "/doc/main.tex") = true := by decide +kernel
  have whole := merge_of_present {} present
  have happened : .processing (.ofString "/doc/f.tex") (.ofString "/doc") 1 ∈
      (merge (spill ['\x7d']).source {} (.ofString "/doc/main.tex")).2 := by decide +kernel
  rw [whole] at happened
  have inside := claim (spill ['\x7d']) {} _ present _ _ whole _ _ 1 "\\include\x7bx".toList happened
    (by decide +kernel) scan_spill
  exact absurd inside (by decide +kernel)

end TexFlat.Merge
