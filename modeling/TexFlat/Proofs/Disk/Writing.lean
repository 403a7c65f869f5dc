import TexFlat.Disk.Source
import TexFlat.Proofs.Merge.Walk

/-!
# What a disk holds after a merge

A merge that is written to a disk leaves the disk as it was, or changes one place of it, and the path
that it reports leads there: `mergeFile_all_or_nothing`. A walk to a file that is to be created comes to
the same place as a walk to the file that was created, because no walk goes on from a file.
-/

namespace TexFlat

namespace Disk

variable {disk : Disk} {file start place : Place} {path : Path} {bytes : Bytes} {step : Text}
  {steps : List Text} {links : Nat} {purpose : Purpose}
  {follow : Place → List Text → Except Fault Place}

/-! ### Walks that arrive -/

/-- The step goes down by a name that a directory may have. -/
def Names (step : Text) : Prop :=
  ¬ (step = [] ∨ step = ['.']) ∧ step ≠ ['.', '.'] ∧ ¬ 255 < Text.utf8Length step

/-- A walk from a place along `steps` arrives at `file` and follows at most `links` links. -/
inductive Arrives (disk : Disk) (file : Place) : (links : Nat) → Place → (steps : List Text) → Prop
  | here {links : Nat} : Arrives disk file links file []
  | stay {links : Nat} {place : Place} {step : Text} {steps : List Text} :
    disk.get? place = some .directory → step = [] ∨ step = ['.'] →
    Arrives disk file links place steps → Arrives disk file links place (step :: steps)
  | up {links : Nat} {place : Place} {steps : List Text} : disk.get? place = some .directory →
    Arrives disk file links place.tail steps → Arrives disk file links place (['.', '.'] :: steps)
  | absent {links : Nat} {place : Place} {step : Text} : disk.get? place = some .directory →
    Names step → disk.get? (step :: place) = none → step :: place = file →
    Arrives disk file links place [step]
  | link {links : Nat} {place : Place} {step target : Text} {steps : List Text} :
    disk.get? place = some .directory → Names step → disk.get? (step :: place) = some (.link target) →
    Arrives disk file links (route place target).1 ((route place target).2 ++ steps) →
    Arrives disk file (links + 1) place (step :: steps)
  | into {links : Nat} {place : Place} {step : Text} {steps : List Text} {entry : Entry} :
    disk.get? place = some .directory → Names step → disk.get? (step :: place) = some entry →
    (∀ target, entry ≠ .link target) → Arrives disk file links (step :: place) steps →
    Arrives disk file links place (step :: steps)

theorem arrives_of_walkWith
    (onward : ∀ place steps, follow place steps = .ok file →
      ∃ fewer, links = fewer + 1 ∧ Arrives disk file fewer place steps)
    (found : disk.walkWith purpose follow place steps = .ok file) : Arrives disk file links place steps := by
  induction steps generalizing place with
  | nil =>
    obtain rfl := Except.ok.inj found
    exact .here
  | cons step steps ih =>
    rw [walkWith] at found
    split at found
    · exact absurd found nofun
    rename_i directory
    have directory := Classical.not_not.mp directory
    split at found
    · rename_i stay
      exact .stay directory stay (ih found)
    rename_i moves
    split at found
    · rename_i climbs
      exact climbs ▸ .up directory (ih found)
    rename_i down
    split at found
    · exact absurd found nofun
    split at found
    · exact absurd found nofun
    rename_i short
    have names : Names step := ⟨moves, down, short⟩
    split at found
    · rename_i missing
      split at found
      · rename_i last
        exact last ▸ .absent directory names missing (Except.ok.inj found)
      · exact absurd found nofun
    · rename_i target linked
      obtain ⟨fewer, rfl, rest⟩ := onward _ _ found
      exact .link directory names linked rest
    · rename_i entry plain here
      exact .into directory names here plain (ih found)

/-- How a walk goes on after a link. -/
def afterLink (disk : Disk) (purpose : Purpose) : (links : Nat) → Place → List Text → Except Fault Place
  | 0 => fun _ _ => .error .tooManyLinks
  | links + 1 => disk.walk purpose links

theorem walk_eq_walkWith (disk : Disk) (purpose : Purpose) (links : Nat) :
    disk.walk purpose links = disk.walkWith purpose (disk.afterLink purpose links) := by
  cases links <;> rfl

theorem arrives_of_walk (found : disk.walk purpose links place steps = .ok file) :
    Arrives disk file links place steps := by
  induction links generalizing place steps with
  | zero =>
    rw [walk_eq_walkWith] at found
    refine arrives_of_walkWith (fun _ _ further => ?_) found
    cases further
  | succ links ih =>
    rw [walk_eq_walkWith] at found
    exact arrives_of_walkWith (fun _ _ further => ⟨links, rfl, ih further⟩) found

/-- From a directory by a name: to the entry, or on after a link, or to where an entry may come. -/
theorem walkWith_name (directory : disk.get? place = some .directory) (names : Names step) :
    disk.walkWith .find follow place (step :: steps) =
      match disk.get? (step :: place) with
      | none => if steps = [] then .ok (step :: place) else .error .missing
      | some (.link target) => follow (route place target).1 ((route place target).2 ++ steps)
      | some _ => disk.walkWith .find follow (step :: place) steps := by
  obtain ⟨moves, down, short⟩ := names
  rw [walkWith, if_neg (not_not_intro directory), if_neg moves, if_neg down]
  exact (if_neg nofun).trans (if_neg short)

theorem Arrives.walk_eq (arrives : Arrives disk file links place steps) :
    disk.walk .find links place steps = .ok file := by
  induction arrives with
  | here => rw [walk_eq_walkWith, walkWith]
  | stay directory stay _ ih =>
    rw [walk_eq_walkWith, walkWith, if_neg (not_not_intro directory), if_pos stay, ← walk_eq_walkWith]
    exact ih
  | up directory _ ih =>
    rw [walk_eq_walkWith, walkWith, if_neg (not_not_intro directory), if_neg (by decide), if_pos rfl,
      ← walk_eq_walkWith]
    exact ih
  | absent directory names missing last =>
    rw [walk_eq_walkWith, walkWith_name directory names, missing, last]
    rfl
  | link directory names linked _ ih =>
    rw [walk_eq_walkWith, walkWith_name directory names, linked]
    exact ih
  | @into links place step steps entry directory names here plain _ ih =>
    rw [walk_eq_walkWith] at ih ⊢
    rw [walkWith_name directory names, here]
    cases entry with
    | link target => exact absurd rfl (plain target)
    | file | directory => exact ih

/-! ### Walks to a file that is created -/

/-- A walk from a place that is not below the file comes to it from the directory above it. -/
theorem Arrives.not_link (arrives : Arrives disk file links place steps) (outside : ¬ file <:+ place)
    (below : file ≠ []) (target : Text) : disk.get? file ≠ some (.link target) := by
  induction arrives with
  | here => exact absurd (List.suffix_refl _) outside
  | stay _ _ _ ih => exact ih outside
  | up _ _ ih => exact ih fun inside => outside (inside.trans (List.tail_suffix _))
  | absent _ _ missing last =>
    rw [← last, missing]
    exact nofun
  | @link _ place _ target' _ _ _ _ _ ih =>
    refine ih ?_
    unfold route
    split
    · exact fun inside => below (List.suffix_nil.mp inside)
    · exact outside
  | @into _ place step _ entry _ _ here plain _ ih =>
    by_cases last : file = step :: place
    · rw [last, here]
      exact fun same => plain target (Option.some.inj same)
    · refine ih fun inside => ?_
      exact (List.suffix_cons_iff.mp inside).elim last outside

/-- Once the file is there, the walk still arrives at it. -/
theorem Arrives.set (arrives : Arrives disk file links place steps)
    (free : disk.get? file ≠ some .directory) (bytes : Bytes) :
    Arrives (disk.set file (.file bytes)) file links place steps := by
  have below : file ≠ [] := by
    rintro rfl
    exact free rfl
  have kept {other : Place} {entry : Entry} (apart : other ≠ file) (found : disk.get? other = some entry) :
      (disk.set file (.file bytes)).get? other = some entry := by
    rw [get?_set_of_ne disk _ apart, found]
  have passed {other : Place} (found : disk.get? other = some .directory) :
      (disk.set file (.file bytes)).get? other = some .directory := by
    refine kept ?_ found
    rintro rfl
    exact free found
  induction arrives with
  | here => exact .here
  | stay directory stay _ ih => exact .stay (passed directory) stay ih
  | up directory _ ih => exact .up (passed directory) ih
  | absent directory names missing last =>
    subst last
    exact .into (passed directory) names (get?_set_self disk _ below) nofun .here
  | @link _ place step target _ directory names linked rest ih =>
    refine .link (passed directory) names (kept ?_ linked) ih
    -- A link in the place of the file is not passed: it would have to be found once more.
    rintro rfl
    have outside : ¬ step :: place <:+ (route place target).1 := by
      unfold route
      split
      · exact fun inside => absurd (List.suffix_nil.mp inside) below
      · exact fun inside => absurd inside.length_le (by simp)
    exact rest.not_link outside below target linked
  | @into _ place step _ entry directory names here plain _ ih =>
    by_cases last : step :: place = file
    · have written : (disk.set file (.file bytes)).get? (step :: place) = some (.file bytes) := by
        rw [last]
        exact get?_set_self disk _ below
      exact .into (passed directory) names written nofun ih
    · exact .into (passed directory) names (kept last here) plain ih

/-! ### What is written -/

/-- The disk `after` has a file with the bytes at the path, and at all other places what `disk` has. -/
structure Holds (disk after : Disk) (start : Place) (path : Path) (bytes : Bytes) : Prop where
  read : after.bytesAt start path = .ok bytes
  others : ∃ file, after.locateShort .find start path = .ok file ∧
    ∀ other, other ≠ file → after.get? other = disk.get? other

theorem locate_set (found : disk.locate .create start path = .ok file)
    (free : disk.get? file ≠ some .directory) (bytes : Bytes) :
    (disk.set file (.file bytes)).locate .find start path = .ok file := by
  unfold locate at found ⊢
  split at found
  · exact absurd found nofun
  · split at found
    · exact absurd found nofun
    · rename_i plain filled
      rw [if_neg plain, if_neg filled]
      exact ((arrives_of_walk found).set free bytes).walk_eq

theorem locateShort_set (found : disk.locateShort .create start path = .ok file)
    (free : disk.get? file ≠ some .directory) (bytes : Bytes) :
    (disk.set file (.file bytes)).locateShort .find start path = .ok file := by
  unfold locateShort at found ⊢
  split at found
  · exact absurd found nofun
  · rename_i short
    rw [if_neg short]
    exact locate_set found free bytes

theorem bytesAt_of_file (found : disk.locateShort .find start path = .ok file)
    (here : disk.get? file = some (.file bytes)) : disk.bytesAt start path = .ok bytes := by
  simp only [bytesAt, found, here, bind, Except.bind]

theorem eq_set_of_write {after : Disk} (written : disk.write start path bytes = .ok after) :
    ∃ file, disk.locateShort .create start path = .ok file ∧ disk.get? file ≠ some .directory ∧
      after = disk.set file (.file bytes) := by
  unfold write at written
  cases found : disk.locateShort .create start path with
  | error cause =>
    rw [found] at written
    exact absurd written nofun
  | ok file =>
    simp only [found, bind, Except.bind] at written
    split at written
    · exact absurd written nofun
    · rename_i free
      exact ⟨file, rfl, free, (Except.ok.inj written).symm⟩

theorem holds_of_write {after : Disk} (written : disk.write start path bytes = .ok after) :
    Holds disk after start path bytes := by
  obtain ⟨file, found, free, rfl⟩ := eq_set_of_write written
  have below : file ≠ [] := by
    rintro rfl
    exact free rfl
  have there := locateShort_set found free bytes
  exact ⟨bytesAt_of_file there (get?_set_self disk _ below), file, there,
    fun other apart => get?_set_of_ne disk _ apart⟩

theorem commit_of_error {draft : Merge.Draft} {cause : Fault}
    (written : disk.write start draft.output draft.bytes = .error cause) :
    disk.commit start draft = ((.error (.notWritten draft.output cause), []), disk) := by
  rw [commit, written]
  rfl

theorem commit_of_ok {draft : Merge.Draft} {after : Disk}
    (written : disk.write start draft.output draft.bytes = .ok after) :
    disk.commit start draft = ((.ok ⟨draft.output, draft.filesProcessed⟩,
      [.completed draft.filesProcessed draft.output]), after) := by
  rw [commit, written]
  rfl

variable {source : Source} {options : Options} {root : Path} {output? : Option Path}
  {events : List Merge.Event}

theorem mergeFile_of_error {failure : Failure}
    (drafted : Merge.draft source options root output? = (.error failure, events)) :
    disk.mergeFile start source options root output? = ((.error failure, events), disk) := by
  rw [mergeFile, drafted]

theorem mergeFile_of_ok {draft : Merge.Draft} {result : Except Failure Merge.Report}
    {later : List Merge.Event} {after : Disk}
    (drafted : Merge.draft source options root output? = (.ok draft, events))
    (committed : disk.commit start draft = ((result, later), after)) :
    disk.mergeFile start source options root output? = ((result, events ++ later), after) := by
  rw [mergeFile, drafted]
  simp only [committed]

end Disk

namespace Merge

variable {store : Store} {options : Options} {root : Path} {output? : Option Path} {disk : Disk}
  {start : Disk.Place} {merged : Merged} {bytes : Bytes} {events : List Event}

theorem merge_normalize (options : Options) (present : store.present root = true) :
    merge store.source options root.normalize = merge store.source options root := by
  have again : store.present root.normalize = true := (Store.place_normalize present).1
  rw [merge_of_present options again, merge_of_present options present, fromRoot, fromRoot,
    Path.normalize_normalize]

/-- Where the merge of a document goes: to the given path, or beside the document. -/
def outputPath (options : Options) (root : Path) (output? : Option Path) : Path :=
  output?.getD (root.normalize.suffixed options.outputSuffix)

theorem draft_of_absent (absent : store.present root = false) :
    draft store.source options root output? = (.error (.missingRoot root), []) := by
  have missing : store.source.rootDocument root = .error (.missingRoot root) := by
    rw [Source.rootDocument, if_neg]
    rw [show store.source.present root = false from absent]
    exact Bool.false_ne_true
  simp only [draft, missing]

theorem draft_of_none (present : store.present root = true)
    (merges : merge store.source options root = (.ok merged, events))
    (encoded : options.encoding.encode? merged.content = none) :
    draft store.source options root output? = (.error (.notWritten (outputPath options root output?)
      (.unrepresentable options.encoding)), events) := by
  simp only [draft, Store.rootDocument_of_present present, merge_normalize options present, merges, encoded]
  rfl

theorem draft_of_some (present : store.present root = true)
    (merges : merge store.source options root = (.ok merged, events))
    (encoded : options.encoding.encode? merged.content = some bytes) :
    draft store.source options root output? =
      (.ok ⟨outputPath options root output?, bytes, merged.filesProcessed⟩, events) := by
  simp only [draft, Store.rootDocument_of_present present, merge_normalize options present, merges, encoded]
  rfl

/-- Why a merge is not written: its document is not there, its text cannot be encoded, or the disk does
not take the file. -/
inductive Refused (disk : Disk) (start : Disk.Place) (store : Store) (options : Options)
    (root output : Path) : Failure → Prop
  | absent : store.present root = false →
    Refused disk start store options root output (.missingRoot root)
  | unrepresentable {merged : Merged} {events : List Event} :
    merge store.source options root = (.ok merged, events) →
    options.encoding.encode? merged.content = none →
    Refused disk start store options root output (.notWritten output (.unrepresentable options.encoding))
  | unwritten {merged : Merged} {events : List Event} {bytes : Bytes} {cause : Fault} :
    merge store.source options root = (.ok merged, events) →
    options.encoding.encode? merged.content = some bytes → disk.write start output bytes = .error cause →
    Refused disk start store options root output (.notWritten output cause)

/-- A merge that fails leaves the disk as it was. One that succeeds leaves the encoded merge of the
document at the output path, which is the given one or stands beside the document, and changes nothing
else. -/
theorem mergeFile_all_or_nothing (disk : Disk) (start : Disk.Place) (store : Store) (options : Options)
    (root : Path) (output? : Option Path) :
    ∃ result events after, disk.mergeFile start store.source options root output? = ((result, events), after) ∧
      (∀ failure, result = .error failure →
        after = disk ∧ Refused disk start store options root (outputPath options root output?) failure) ∧
      ∀ report, result = .ok report → ∃ merged events bytes,
        merge store.source options root = (.ok merged, events) ∧
        options.encoding.encode? merged.content = some bytes ∧
        report = ⟨outputPath options root output?, merged.filesProcessed⟩ ∧
        disk.Holds after start report.output bytes := by
  cases present : store.present root with
  | false =>
    refine ⟨_, _, _, Disk.mergeFile_of_error (draft_of_absent present), fun failure failed => ?_, nofun⟩
    obtain rfl := Except.error.inj failed
    exact ⟨rfl, .absent present⟩
  | true =>
    have merges := merge_of_present options present
    cases encoded : options.encoding.encode? (fromRoot rescan store options root).1 with
    | none =>
      refine ⟨_, _, _, Disk.mergeFile_of_error (draft_of_none present merges encoded),
        fun failure failed => ?_, nofun⟩
      obtain rfl := Except.error.inj failed
      exact ⟨rfl, .unrepresentable merges encoded⟩
    | some bytes =>
      have drafted : draft store.source options root output? = _ := draft_of_some present merges encoded
      cases written : disk.write start (outputPath options root output?) bytes with
      | error cause =>
        refine ⟨_, _, _, Disk.mergeFile_of_ok drafted (Disk.commit_of_error written),
          fun failure failed => ?_, nofun⟩
        obtain rfl := Except.error.inj failed
        exact ⟨rfl, .unwritten merges encoded written⟩
      | ok after =>
        refine ⟨_, _, _, Disk.mergeFile_of_ok drafted (Disk.commit_of_ok written),
          nofun, fun report succeeded => ?_⟩
        obtain rfl := Except.ok.inj succeeded
        exact ⟨_, _, bytes, merges, encoded, rfl, Disk.holds_of_write written⟩

end Merge
end TexFlat
