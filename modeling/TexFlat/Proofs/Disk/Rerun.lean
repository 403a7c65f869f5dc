import TexFlat.Proofs.Disk.ReadBack
import TexFlat.Proofs.Disk.Tree
import TexFlat.Proofs.Merge.Reads

/-!
# A merge done again

A merge writes to the disk that it reads, so a second run may find another disk than the first one did. It comes
to the same, event by event, and leaves the disk as it is, unless the output has become another text for a file
that was expanded, or stands where a reference was looked for in vain: `mergeFile_again`.
-/

namespace TexFlat

namespace Source

variable {source : Source} {root document : Path}

theorem rootDocument_eq_ok_iff :
    source.rootDocument root = .ok document ↔
      source.present root = true ∧ source.canonical root = .ok document := by
  unfold rootDocument
  by_cases there : source.present root = true
  · rw [if_pos there, and_iff_right there]
    cases source.canonical root with
    | error cause => exact iff_of_false nofun nofun
    | ok path => simp only [Except.ok.injEq]
  · rw [if_neg there]
    exact iff_of_false nofun fun found => there found.1

theorem settle_of_canonical (found : source.canonical root = .ok document) :
    source.settle root = document := by
  rw [settle, found]

end Source

namespace Merge

variable {disk after : Disk} {start file : Disk.Place} {options : Options} {root path : Path}
  {output? : Option Path} {report : Report} {events : List Event} {bytes : Bytes}

/-! ### What the first run asked the disk -/

/-- Afterwards the file that was expanded still reads the same, and there is still nothing at the paths where the
reference was looked for in vain. -/
def Event.Unchanged (disk after : Disk) (start : Disk.Place) (encoding : Encoding) : Event → Prop
  | processing file _ _ =>
    (after.source start).read encoding file = (disk.source start).read encoding file
  | resolved d dir _ | notFound d dir =>
    ∀ path ∈ (candidates d.name dir).takeWhile fun path => !disk.present start path,
      after.present start path = false
  | _ => True

instance (disk after : Disk) (start : Disk.Place) (encoding : Encoding) :
    (event : Event) → Decidable (event.Unchanged disk after start encoding)
  | .processing .. => inferInstanceAs (Decidable (_ = _))
  | .resolved d dir _ | .notFound d dir => inferInstanceAs
    (Decidable (∀ path ∈ (candidates d.name dir).takeWhile fun path => !disk.present start path,
      after.present start path = false))
  | .started _ | .alreadyProcessed _ | .tooDeep .. | .unreadable .. | .completed .. =>
    inferInstanceAs (Decidable True)

theorem find?_eq_of_takeWhile {paths : List Path} {present present' : Path → Bool}
    (kept : ∀ path, present path = true → present' path = true)
    (missed : ∀ path ∈ paths.takeWhile fun path => !present path, present' path = false) :
    paths.find? present' = paths.find? present := by
  induction paths with
  | nil => rfl
  | cons path paths ih =>
    by_cases there : present path = true
    · rw [List.find?_cons_of_pos there, List.find?_cons_of_pos (kept path there)]
    · have skipped : (path :: paths).takeWhile (fun path => !present path) =
          path :: paths.takeWhile fun path => !present path :=
        List.takeWhile_cons_of_pos (Bool.not_eq_true' _ ▸ Bool.eq_false_iff.mpr there)
      rw [skipped, List.forall_mem_cons] at missed
      rw [List.find?_cons_of_neg there, List.find?_cons_of_neg (Bool.eq_false_iff.mp missed.1)]
      exact ih missed.2

theorem Event.Unchanged.agrees {event : Event} {encoding : Encoding} (tree : disk.IsTree)
    (here : disk.get? start = some .directory) (takes : disk.Takes file)
    (unchanged : event.Unchanged disk (disk.set file (.file bytes)) start encoding) :
    event.Agrees encoding (disk.source start) ((disk.set file (.file bytes)).source start) := by
  have lookup {name : Text} {dir : Path}
      (missed : ∀ path ∈ (candidates name dir).takeWhile fun path => !disk.present start path,
        (disk.set file (.file bytes)).present start path = false) :
      (candidates name dir).find? ((disk.set file (.file bytes)).present start) =
        (candidates name dir).find? (disk.present start) :=
    find?_eq_of_takeWhile (fun _ => takes.present_set bytes) missed
  cases event with
  | processing => exact unchanged
  | resolved d dir target =>
    intro found
    obtain ⟨candidate, first, settled⟩ := Option.map_eq_some_iff.mp found
    have there : disk.present start candidate = true := List.find?_some first
    obtain ⟨other, canonical⟩ := Disk.exists_canonical_of_present there
    obtain rfl : other = target := (Source.settle_of_canonical canonical).symm.trans settled
    have again := tree.canonical_canonical here canonical
    refine ⟨?_, ?_⟩
    · have first' := (lookup unchanged).trans first
      exact Option.map_eq_some_iff.mpr
        ⟨candidate, first', Source.settle_of_canonical (takes.canonical_set bytes canonical)⟩
    · have before : (disk.source start).settle other = other := Source.settle_of_canonical again
      rw [before]
      exact Source.settle_of_canonical (takes.canonical_set bytes again)
  | notFound d dir =>
    intro missing
    have first : (candidates d.name dir).find? (disk.present start) = none := Option.map_eq_none_iff.mp missing
    exact Option.map_eq_none_iff.mpr ((lookup unchanged).trans first)
  | started | alreadyProcessed | tooDeep | unreadable | completed => trivial

/-! ### The second run -/

theorem exists_rootDocument_of_merge {source : Source} {merged : Merged}
    (merges : merge source options root = (.ok merged, events)) :
    ∃ document, source.rootDocument root = .ok document := by
  unfold merge at merges
  split at merges
  · exact absurd (congrArg Prod.fst merges) nofun
  · rename_i document found
    exact ⟨document, found⟩

/-- Where nothing that the first run asked about has changed, the second run comes to the same and leaves the
disk as it finds it. -/
theorem mergeFile_again (tree : disk.IsTree) (here : disk.get? start = some .directory)
    (wrote : disk.mergeFile start (disk.source start) options root output? = ((.ok report, events), after))
    (unchanged : ∀ event ∈ events, event.Unchanged disk after start options.encoding) :
    after.mergeFile start (after.source start) options root output? = ((.ok report, events), after) := by
  obtain ⟨document, merged, processed, bytes, found, merges, encoded, written, reported, happened⟩ :=
    mergeFile_eq_ok wrote
  obtain ⟨file, located, takes, rfl⟩ := tree.exists_takes here written
  have kept {path other : Path} (found : (disk.source start).rootDocument path = .ok other) :
      ((disk.set file (.file bytes)).source start).rootDocument path = .ok other := by
    rw [Source.rootDocument_eq_ok_iff] at found ⊢
    exact ⟨takes.present_set bytes found.1, takes.canonical_set bytes found.2⟩
  -- The canonical path of the document is what the merge itself starts from.
  have again : (disk.source start).rootDocument document = .ok document := by
    obtain ⟨-, canonical⟩ := Source.rootDocument_eq_ok_iff.mp found
    obtain ⟨document', found'⟩ := exists_rootDocument_of_merge merges
    obtain ⟨present', canonical'⟩ := Source.rootDocument_eq_ok_iff.mp found'
    exact Source.rootDocument_eq_ok_iff.mpr ⟨present', tree.canonical_canonical here canonical⟩
  have merges' : merge ((disk.set file (.file bytes)).source start) options document = (.ok merged, processed) := by
    rw [← merges]
    refine merge_eq_of_agrees ((kept again).trans again.symm) (fun path start_at => ?_) fun event member => ?_
    · obtain rfl := Except.ok.inj (again.symm.trans start_at)
      have canonical := Source.rootDocument_eq_ok_iff.mp again
      have canonical' := Source.rootDocument_eq_ok_iff.mp (kept again)
      rw [Source.settle_of_canonical canonical.2, Source.settle_of_canonical canonical'.2]
    · rw [merges] at member
      exact (unchanged event (happened ▸ List.mem_append_left _ member)).agrees tree here takes
  have drafted : draft ((disk.set file (.file bytes)).source start) options root output? =
      (.ok ⟨report.output, bytes, merged.filesProcessed⟩, processed) := by
    simp only [draft, kept found, merges', encoded, reported]
  rw [Disk.mergeFile_of_ok drafted (Disk.commit_of_ok (takes.write_set located)), happened, reported]

/-- A merged document beside its own, with one reference through a link and one to no file. -/
theorem mergeFile_again_link :
    let disk : Disk := ⟨[(["m.tex".toList], .file (Encoding.encodeUtf8 "\\input\x7ba\x7d\\input\x7bb\x7d".toList)),
      (["a.tex".toList], .link "c".toList), (["c".toList], .file [0x41])]⟩
    disk.IsTree ∧ disk.get? [] = some .directory ∧
    ∃ report events after, disk.mergeFile [] (disk.source []) {} ⟨"m.tex".toList⟩ none =
        ((.ok report, events), after) ∧
      report = ⟨⟨"/m_merged.tex".toList⟩, 2⟩ ∧
      (∀ event ∈ events, event.Unchanged disk after [] .utf8) ∧
      after.mergeFile [] (after.source []) {} ⟨"m.tex".toList⟩ none = ((.ok report, events), after) := by
  intro disk
  have tree : disk.IsTree := by decide +kernel
  have ran : (disk.mergeFile [] (disk.source []) {} ⟨"m.tex".toList⟩ none).1.1.toOption =
      some ⟨⟨"/m_merged.tex".toList⟩, 2⟩ := by decide +kernel
  have wrote := mergeFile_eq_of_toOption ran
  have unchanged : ∀ event ∈ (disk.mergeFile [] (disk.source []) {} ⟨"m.tex".toList⟩ none).1.2,
      event.Unchanged disk (disk.mergeFile [] (disk.source []) {} ⟨"m.tex".toList⟩ none).2 [] .utf8 := by
    decide +kernel
  exact ⟨tree, rfl, _, _, _, wrote, rfl, unchanged, mergeFile_again tree rfl wrote unchanged⟩

/-- A document that asks for its own output: the first run does not find it, the second one merges it. -/
theorem mergeFile_merges_output :
    let disk : Disk := ⟨[(["m.tex".toList], .file (Encoding.encodeUtf8 "\\input\x7bm_merged\x7d".toList))]⟩
    disk.IsTree ∧ ∃ report events after report' events' after',
      disk.mergeFile [] (disk.source []) {} ⟨"/m.tex".toList⟩ none = ((.ok report, events), after) ∧
      after.mergeFile [] (after.source []) {} ⟨"/m.tex".toList⟩ none = ((.ok report', events'), after') ∧
      report'.filesProcessed ≠ report.filesProcessed ∧
      after'.bytesAt [] report.output ≠ after.bytesAt [] report.output := by
  intro disk
  have tree : disk.IsTree := by decide +kernel
  have ran : (disk.mergeFile [] (disk.source []) {} ⟨"/m.tex".toList⟩ none).1.1.toOption =
      some ⟨⟨"/m_merged.tex".toList⟩, 1⟩ := by decide +kernel
  have wrote := mergeFile_eq_of_toOption ran
  let after := (disk.mergeFile [] (disk.source []) {} ⟨"/m.tex".toList⟩ none).2
  have ran' : (after.mergeFile [] (after.source []) {} ⟨"/m.tex".toList⟩ none).1.1.toOption =
      some ⟨⟨"/m_merged.tex".toList⟩, 2⟩ := by decide +kernel
  have wrote' := mergeFile_eq_of_toOption ran'
  have changed : (after.mergeFile [] (after.source []) {} ⟨"/m.tex".toList⟩ none).2.bytesAt []
      ⟨"/m_merged.tex".toList⟩ ≠ after.bytesAt [] ⟨"/m_merged.tex".toList⟩ := by decide +kernel
  exact ⟨tree, _, _, _, _, _, _, wrote, wrote', by decide, changed⟩

end Merge
end TexFlat
