import TexFlat.Proofs.Directive.Grammar
import TexFlat.Proofs.Marker.Comment
import TexFlat.Proofs.Merge.Logging

/-!
# What a merge inserts

Besides the texts of files a merge inserts markers. `markers_commented_iff` says for one directive when
they are comments: a line break that its reference has must be guarded. `merge_commented_iff` says it for
all that a run inserts. Paths that are made of secure names are secure, so the references alone decide.
-/

namespace TexFlat

open Marker (Commented Guarded Secure)

/-! ### References -/

namespace Directive

variable {d : Directive} {rest : Text}

theorem secure_reference_iff : Secure d.reference ↔
    Secure d.name ∧ ∀ directory, d.directory = some directory → Secure directory := by
  unfold reference
  cases d.directory with
  | none => simp
  | some directory =>
    rw [Marker.secure_append_cons (by decide) (by decide), and_comm]
    simp

/-- A bare name ends at the first blank. -/
theorem Formed.secure_reference (formed : Formed rest d) (unbraced : '{' ∉ d.source) :
    Secure d.reference := by
  have brace (front written behind : Text) : '{' ∈ front ++ (braced written ++ behind) := by simp [braced]
  cases formed with
  | @bareInput blanks name _ _ bare =>
    refine Marker.secure_of_not_mem fun member => ?_
    have blank := isBlank_eq_false_of_isBare (bare _ ((clean_isInfix name).subset member))
    exact absurd blank (by decide)
  | @bracedInput blanks name =>
    refine absurd ?_ unbraced
    simpa using brace (command .inputFile ++ blanks) name []
  | bracketed bracketed =>
    refine absurd ?_ unbraced
    cases bracketed with
    | @importFile blanks between directory name =>
      simpa using brace (command .importFile ++ blanks) directory (between ++ braced name)
    | @includeFile only blanks name =>
      simpa using brace (command .includeFile ++ (only ++ blanks)) name []

theorem secure_of_mem_scan {text : Text} {kind : Kind} {o : Occurrence} (h : o ∈ scan text kind)
    (unbraced : '{' ∉ o.directive.source) : Secure o.directive.reference := by
  obtain ⟨_, rest, -, -, -, formed⟩ := (leftmost_scan text kind).beginsAt h
  exact formed.secure_reference unbraced

end Directive

namespace Merge

open Directive (Kind Occurrence scan)

variable {store : Store} {options : Options} {d : Directive} {base target : Path} {fill : Fill}
  {run : Run} {visit : Run → (file base : Path) → Text × Run}

theorem secure_searchDir (reference : Secure d.reference) (start : Secure base.text) :
    Secure (d.searchDir base).text :=
  searchDir_of_hereditary Marker.hereditary_secure (Directive.secure_reference_iff.mp reference).2 start

theorem secure_target (reference : Secure d.reference) (start : Secure base.text)
    (found : store.source.resolve? d.name (d.searchDir base) = some target) : Secure target.text := by
  have name := (Directive.secure_reference_iff.mp reference).1
  have ending : ".tex".toList = '.' :: "tex".toList := by decide +kernel
  have longer : Secure (d.name ++ ".tex".toList) := by
    rw [ending, Marker.secure_append_cons (by decide) (by decide)]
    exact ⟨name, by decide +kernel⟩
  exact target_of_hereditary Marker.hereditary_secure name longer (secure_searchDir reference start) found

/-! ### One directive -/

theorem commented_block_iff : Commented (Marker.header d.kind d.reference target (d.searchDir base)) ∧
      Commented (Marker.footer d.kind d.reference) ↔
    Secure d.reference ∧ Guarded target.text ∧ Guarded (d.searchDir base).text := by
  rw [Marker.commented_header_iff, Marker.commented_footer_iff]
  tauto

/-- Among secure names it is the reference that counts. -/
theorem commented_block_iff_of_secure (start : Secure base.text)
    (found : store.source.resolve? d.name (d.searchDir base) = some target) :
    Commented (Marker.header d.kind d.reference target (d.searchDir base)) ∧
      Commented (Marker.footer d.kind d.reference) ↔ Secure d.reference := by
  rw [commented_block_iff]
  refine ⟨fun parts => parts.1, fun reference => ⟨reference, ?_, ?_⟩⟩
  · exact (secure_target reference start found).1
  · exact (secure_searchDir reference start).1

/-- The marker of a directive without a target is a comment exactly if its reference is guarded. So are the
lines around the body if the directive has a target, exactly if the reference is secure, the paths being
guarded; and these are where the run comes from a secure directory. A name that is bare or in one line is
secure. -/
theorem markers_commented_iff (text : Text) (kind : Kind) {o : Occurrence} (h : o ∈ scan text kind) (base : Path) :
    (Commented (Marker.notFound o.directive.kind o.directive.reference) ↔ Guarded o.directive.reference) ∧
      (∀ (store : Store) (target : Path),
        store.source.resolve? o.directive.name (o.directive.searchDir base) = some target →
        (Commented (Marker.header o.directive.kind o.directive.reference target (o.directive.searchDir base)) ∧
            Commented (Marker.footer o.directive.kind o.directive.reference) ↔
          Secure o.directive.reference ∧ Guarded target.text ∧ Guarded (o.directive.searchDir base).text) ∧
        (Secure base.text →
          (Commented (Marker.header o.directive.kind o.directive.reference target (o.directive.searchDir base)) ∧
            Commented (Marker.footer o.directive.kind o.directive.reference) ↔ Secure o.directive.reference))) ∧
      ('{' ∉ o.directive.source ∨ '\n' ∉ o.directive.reference → Secure o.directive.reference) := by
  refine ⟨Marker.commented_notFound_iff, fun store target found => ⟨commented_block_iff, ?_⟩, ?_⟩
  · intro start
    exact commented_block_iff_of_secure start found
  · rintro (bare | line)
    · exact Directive.secure_of_mem_scan h bare
    · exact Marker.secure_of_not_mem line

/-- Two line breaks that a percent sign guards, in the directory of an import. -/
theorem markers_commented_iff_guarded :
    let store : Store := ⟨[(.ofString "/doc/s\n\n%/x.tex", [])]⟩
    ∃ o ∈ scan "é\\import\x7bs\n\n%\x7d \x7bx\n\x7d".toList .importFile,
      store.source.resolve? o.directive.name (o.directive.searchDir (.ofString "/doc")) =
          some (.ofString "/doc/s\n\n%/x.tex") ∧
        Secure (Path.ofString "/doc").text ∧
        Commented (Marker.header .importFile "s\n\n%/x".toList (.ofString "/doc/s\n\n%/x.tex")
          (.ofString "/doc/s\n\n%")) ∧
        Commented (Marker.footer .importFile "s\n\n%/x".toList) := by
  intro store
  let o : Occurrence :=
    ⟨⟨.importFile, "\\import\x7bs\n\n%\x7d \x7bx\n\x7d".toList, some "s\n\n%".toList, "x".toList⟩, 2, 20⟩
  have member : o ∈ scan "é\\import\x7bs\n\n%\x7d \x7bx\n\x7d".toList .importFile := by decide +kernel
  have found : store.source.resolve? o.directive.name (o.directive.searchDir (.ofString "/doc")) =
      some (.ofString "/doc/s\n\n%/x.tex") := by decide +kernel
  have start : Secure (Path.ofString "/doc").text := by decide +kernel
  obtain ⟨-, targets, -⟩ := markers_commented_iff _ .importFile member (.ofString "/doc")
  have comments := ((targets store _ found).2 start).mpr (by decide +kernel)
  exact ⟨o, member, found, start, comments⟩

/-- What a line break is followed by in an input's name becomes a line of the document. -/
theorem markers_uncommented :
    let store : Store := ⟨[(.ofString "/doc/a\nb.tex", [])]⟩
    ∃ o ∈ scan "\\input\x7ba\nb\x7d".toList .inputFile,
      store.source.resolve? o.directive.name (o.directive.searchDir (.ofString "/doc")) =
          some (.ofString "/doc/a\nb.tex") ∧
        ¬ Commented (Marker.notFound o.directive.kind o.directive.reference) ∧
        ¬ Commented (Marker.header o.directive.kind o.directive.reference (.ofString "/doc/a\nb.tex")
          (o.directive.searchDir (.ofString "/doc"))) ∧
        ¬ Commented (Marker.footer o.directive.kind o.directive.reference) := by
  intro store
  let o : Occurrence :=
    ⟨⟨.inputFile, "\\input\x7ba\nb\x7d".toList, none, "a\nb".toList⟩, 0, 11⟩
  refine ⟨o, by decide +kernel, by decide +kernel, ?_, ?_, ?_⟩
  all_goals decide +kernel

/-! ### A whole run -/

/-- The markers that an event brings into the merged text. -/
def Event.inserted : Event → List Text
  | resolved d dir target => [Marker.header d.kind d.reference target dir, Marker.footer d.kind d.reference]
  | notFound d _ => [Marker.notFound d.kind d.reference]
  | alreadyProcessed file => [Marker.alreadyIncluded file]
  | tooDeep file maxDepth => [Marker.depthExceeded maxDepth file]
  | unreadable file cause => [Marker.unreadable file cause.message]
  | _ => []

def Event.Silent (event : Event) : Prop := ∀ text ∈ event.inserted, Commented text

/-- The reference of a directive that was looked up does not break out of the marker. -/
def Event.Tame : Event → Prop
  | resolved d _ _ => Secure d.reference
  | notFound d _ => Guarded d.reference
  | _ => True

theorem silent_resolved_iff {dir : Path} : Event.Silent (.resolved d dir target) ↔
    Commented (Marker.header d.kind d.reference target dir) ∧ Commented (Marker.footer d.kind d.reference) := by
  simp [Event.Silent, Event.inserted]

theorem silent_notFound_iff {dir : Path} : Event.Silent (.notFound d dir) ↔ Guarded d.reference := by
  rw [← @Marker.commented_notFound_iff d.kind]
  simp [Event.Silent, Event.inserted]

theorem Event.Silent.tame {event : Event} (silent : event.Silent) : event.Tame := by
  cases event with
  | resolved d dir target => exact Marker.commented_footer_iff.mp (silent_resolved_iff.mp silent).2
  | notFound d dir => exact silent_notFound_iff.mp silent
  | _ => trivial

/-- If all references that the run has met are tame, then what it has inserted since is in comments. -/
def Hushed (run after : Run) : Prop :=
  (∀ event ∈ after.events, event.Tame) → (∀ event ∈ run.events, event.Silent) →
    ∀ event ∈ after.events, event.Silent

theorem hushed_note {event : Event} (silent : event.Tame → event.Silent) : Hushed run (run.note event) := by
  intro tame before other member
  rcases List.mem_cons.mp member with rfl | member
  · exact silent (tame _ List.mem_cons_self)
  · exact before other member

theorem hushed_replacement (onward : ∀ run file base, run.events <:+ (visit run file base).2.events)
    (calls : ∀ run file base, Secure file.text → Secure base.text → Hushed run (visit run file base).2)
    (start : Secure base.text) (run : Run) (d : Directive) :
    Hushed run (replacement store.source visit base run d).2 := by
  cases found : store.source.resolve? d.name (d.searchDir base) with
  | none =>
    rw [replacement_of_none found]
    exact hushed_note silent_notFound_iff.mpr
  | some target =>
    rw [replacement_of_some found]
    intro tame before
    have reference : Secure d.reference := tame (.resolved d (d.searchDir base) target)
      ((onward _ _ _).subset List.mem_cons_self)
    have file := secure_target reference start found
    have dir := secure_searchDir reference start
    have block : Event.Silent (.resolved d (d.searchDir base) target) :=
      silent_resolved_iff.mpr ((commented_block_iff_of_secure start found).mpr reference)
    refine calls _ target _ file dir tame fun event member => ?_
    rcases List.mem_cons.mp member with rfl | member
    · exact block
    · exact before event member

theorem hushed_foldl {replace : Run → Directive → Text × Run}
    (onward : ∀ run d, run.events <:+ (replace run d).2.events)
    (each : ∀ run d, Hushed run (replace run d).2) (ds : List Directive) (run : Run) :
    Hushed run (ds.foldl (fun run d => (replace run d).2) run) := by
  induction ds generalizing run with
  | nil => exact fun _ before => before
  | cons d ds ih =>
    intro tame before
    have behind := events_suffix_foldl onward ds (replace run d).2
    apply ih (replace run d).2 tame
    exact each run d (fun event member => tame event (behind.subset member)) before

theorem silent_begin (before : ∀ event ∈ run.events, event.Silent) (source : Source) (file base : Path)
    (depth : Nat) : ∀ event ∈ (run.begin source file base depth).events, event.Silent := by
  intro event member
  rcases List.mem_cons.mp member with rfl | member
  · exact List.forall_mem_nil _
  · exact before event member

theorem hushed_visitBy {follows : Text → Directive → Prop} (threads : fill.Threads follows) (levels : Nat)
    (run : Run) (file base : Path) (secure : Secure file.text) (start : Secure base.text) :
    Hushed run (visitBy fill store.source options levels run file base).2 := by
  refine visitBy_induction (motive := fun _ run file base after => Secure file.text → Secure base.text →
    Hushed run after.2) ?_ ?_ ?_ ?_ levels run file base secure start
  · intro levels run file base _ secure _
    apply hushed_note
    intro _ text member
    obtain rfl := List.mem_singleton.mp member
    exact Marker.commented_alreadyIncluded_iff.mpr secure
  · intro run file base _ secure _
    apply hushed_note
    intro _ text member
    obtain rfl := List.mem_singleton.mp member
    exact Marker.commented_depthExceeded_iff.mpr secure.1
  · intro levels run file base cause _ read secure _ tame before
    obtain rfl := Store.eq_noSuchFile_of_read read
    have message : Guarded (Fault.noSuchFile file).message :=
      (Marker.guarded_front (by decide +kernel)).mpr secure.1
    have notice : Event.Silent (.unreadable file (.noSuchFile file)) := by
      intro text member
      obtain rfl := List.mem_singleton.mp member
      exact Marker.commented_unreadable_iff.mpr ⟨secure, message⟩
    exact hushed_note (fun _ => notice) tame (silent_begin before _ _ _ _)
  · intro levels run file base text _ _ calls _ start tame before
    obtain ⟨ds, -, same⟩ := threads (replacement store.source (visitBy fill store.source options levels) base)
      (run.begin store.source file base (options.maxDepth - levels)) text
    have later (run : Run) (file base : Path) :
        run.events <:+ (visitBy fill store.source options levels run file base).2.events :=
      events_suffix_visitBy threads levels run file base
    rw [same] at tame ⊢
    exact hushed_foldl (events_suffix_replacement _ later base) (hushed_replacement later calls start) ds _
      tame (silent_begin before _ _ _ _)

/-- All that a merge inserts is in comments exactly if every reference that it finds is secure and every one
that it does not find is guarded. The path of the root must be secure. -/
theorem merge_commented_iff {root : Path} (options : Options) (secure : Secure root.text)
    (present : store.present root = true) : ∃ merged events,
    merge store.source options root = (.ok merged, events) ∧
      ((∀ event ∈ events, event.Silent) ↔ ∀ event ∈ events, event.Tame) := by
  refine ⟨_, _, merge_of_present options present, ?_, ?_⟩
  · intro silent event member
    exact (silent event member).tame
  · intro tame event member
    have place : Secure root.normalize.text := Marker.hereditary_secure.normalize secure
    have hushed : Hushed { events := [.started root.normalize] } (fromRoot rescan store options root).2 :=
      hushed_visitBy threads_rescan _ _ _ _ place (Marker.hereditary_secure.directory place)
    refine hushed (fun event member => tame event (List.mem_reverse.mpr member)) ?_ event
      (List.mem_reverse.mp member)
    intro event member
    obtain rfl := List.mem_singleton.mp member
    exact List.forall_mem_nil _

end Merge
end TexFlat
