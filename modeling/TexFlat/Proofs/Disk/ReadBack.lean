import TexFlat.Proofs.Disk.Writing
import TexFlat.Proofs.Encoding.Codec

/-!
# The output read back

A merge that succeeds has written its text in the encoding that it read in. Read in that encoding, the
output is the merged text unless the encoding is one that is only read, or writes some character of the text
as another one: `mergeFile_read_back`.
-/

namespace TexFlat.Merge

variable {disk after : Disk} {start : Disk.Place} {source : Source} {options : Options} {root path : Path}
  {output? : Option Path} {report : Report} {events : List Event} {bytes : Bytes}

/-! ### What a success is -/

theorem draft_eq_ok {made : Draft} (drafted : draft source options root output? = (.ok made, events)) :
    ∃ document merged bytes, source.rootDocument root = .ok document ∧
      merge source options document = (.ok merged, events) ∧
      options.encoding.encode? merged.content = some bytes ∧
      made = ⟨output?.getD (document.suffixed options.outputSuffix), bytes, merged.filesProcessed⟩ := by
  unfold draft at drafted
  split at drafted
  · exact absurd (congrArg Prod.fst drafted) nofun
  · rename_i document found
    dsimp only at drafted
    split at drafted
    · exact absurd (congrArg Prod.fst drafted) nofun
    · rename_i merged processed merges
      split at drafted
      · exact absurd (congrArg Prod.fst drafted) nofun
      · rename_i bytes encoded
        obtain ⟨same, rfl⟩ := Prod.mk.inj drafted
        exact ⟨document, merged, bytes, found, merges, encoded, (Except.ok.inj same).symm⟩

/-- A merge that succeeds has found its document, merged and encoded it, and written it to the disk. -/
theorem mergeFile_eq_ok
    (wrote : disk.mergeFile start source options root output? = ((.ok report, events), after)) :
    ∃ document merged processed bytes, source.rootDocument root = .ok document ∧
      merge source options document = (.ok merged, processed) ∧
      options.encoding.encode? merged.content = some bytes ∧
      disk.write start report.output bytes = .ok after ∧
      report = ⟨output?.getD (document.suffixed options.outputSuffix), merged.filesProcessed⟩ ∧
      events = processed ++ [.completed report.filesProcessed report.output] := by
  rcases drafted : draft source options root output? with ⟨result, processed⟩
  cases result with
  | error failure =>
    rw [Disk.mergeFile_of_error drafted] at wrote
    exact absurd (congrArg (·.1.1) wrote) nofun
  | ok made =>
    obtain ⟨document, merged, bytes, found, merges, encoded, rfl⟩ := draft_eq_ok drafted
    cases written : disk.write start (output?.getD (document.suffixed options.outputSuffix)) bytes with
    | error cause =>
      rw [Disk.mergeFile_of_ok drafted (Disk.commit_of_error written)] at wrote
      exact absurd (congrArg (·.1.1) wrote) nofun
    | ok after' =>
      rw [Disk.mergeFile_of_ok drafted (Disk.commit_of_ok written)] at wrote
      obtain ⟨both, rfl⟩ := Prod.mk.inj wrote
      obtain ⟨same, rfl⟩ := Prod.mk.inj both
      obtain rfl := Except.ok.inj same
      exact ⟨document, merged, processed, bytes, found, merges, encoded, written, rfl, rfl⟩

theorem read_of_write {encoding : Encoding} (written : disk.write start path bytes = .ok after) :
    (after.source start).read encoding path = encoding.decodeStrict bytes := by
  have read := (Disk.holds_of_write written).read
  unfold Disk.source
  dsimp only
  rw [read]
  rfl

theorem decodeStrict_eq_ok_iff {encoding : Encoding} {text : Text} :
    encoding.decodeStrict bytes = .ok text ↔ encoding.decode? bytes = some text := by
  unfold Encoding.decodeStrict
  split
  · rename_i found
    rw [found, Except.ok.injEq, Option.some.injEq]
  · rename_i failed
    rw [failed]
    exact iff_of_false nofun nofun

/-! ### Reading it back -/

/-- The output is read back as the merged text exactly if its encoding is written at all, or the text is
empty, and the encoding writes every character of the text as itself. -/
theorem mergeFile_read_back
    (wrote : disk.mergeFile start source options root output? = ((.ok report, events), after)) :
    ∃ document merged processed, source.rootDocument root = .ok document ∧
      merge source options document = (.ok merged, processed) ∧
      ((after.source start).read options.encoding report.output = .ok merged.content ↔
        (options.encoding.IsWritten ∨ merged.content = []) ∧
          ∀ c ∈ merged.content, ¬ options.encoding.Alters c) := by
  obtain ⟨document, merged, processed, bytes, found, merges, encoded, written, -, -⟩ := mergeFile_eq_ok wrote
  refine ⟨document, merged, processed, found, merges, ?_⟩
  rw [read_of_write written, decodeStrict_eq_ok_iff]
  exact Encoding.decode?_eq_some_iff_of_encode? encoded

theorem eq_ok_of_toOption {ε α β : Type} {outcome : Except ε α × β} {value : α}
    (ran : outcome.1.toOption = some value) : outcome = (.ok value, outcome.2) := by
  obtain ⟨result, more⟩ := outcome
  cases result with
  | error failure => exact absurd ran nofun
  | ok other =>
    obtain rfl := Option.some.inj ran
    rfl

theorem mergeFile_eq_of_toOption
    (ran : (disk.mergeFile start source options root output?).1.1.toOption = some report) :
    disk.mergeFile start source options root output? =
      ((.ok report, (disk.mergeFile start source options root output?).1.2),
        (disk.mergeFile start source options root output?).2) :=
  Prod.ext (eq_ok_of_toOption ran) rfl

/-- Half-width katakana and a reference in Shift_JIS. -/
theorem mergeFile_read_back_katakana :
    let disk : Disk := ⟨[(["m.tex".toList], .file [0xB1, 0x5C, 0x69, 0x6E, 0x70, 0x75, 0x74, 0x7B, 0x61, 0x7D]),
      (["a.tex".toList], .file [0xB2])]⟩
    let options : Options := { encoding := .shiftJis }
    ∃ report events after, disk.mergeFile [] (disk.source []) options ⟨"m.tex".toList⟩ none =
        ((.ok report, events), after) ∧
      report = ⟨⟨"/m_merged.tex".toList⟩, 2⟩ ∧
      ∃ document merged processed, (disk.source []).rootDocument ⟨"m.tex".toList⟩ = .ok document ∧
        merge (disk.source []) options document = (.ok merged, processed) ∧
        ((after.source []).read .shiftJis report.output = .ok merged.content ↔
          (Encoding.IsWritten .shiftJis ∨ merged.content = []) ∧
            ∀ c ∈ merged.content, ¬ Encoding.Alters .shiftJis c) := by
  intro disk options
  have ran : (disk.mergeFile [] (disk.source []) options ⟨"m.tex".toList⟩ none).1.1.toOption =
      some ⟨⟨"/m_merged.tex".toList⟩, 2⟩ := by decide +kernel
  have wrote := mergeFile_eq_of_toOption ran
  exact ⟨_, _, _, wrote, rfl, mergeFile_read_back wrote⟩

/-- Of two letters in UTF-16 the output has the bytes of UTF-8, and they make one other letter. -/
theorem mergeFile_misread :
    let disk : Disk := ⟨[(["m.tex".toList], .file [0x41, 0x00, 0x42, 0x00])]⟩
    let options : Options := { encoding := .utf16 .little }
    Encoding.ofLabel? "utf-16le".toList = some options.encoding ∧
    ∃ report events after, disk.mergeFile [] (disk.source []) options ⟨"/m.tex".toList⟩ none =
        ((.ok report, events), after) ∧
      ∃ merged processed, merge (disk.source []) options ⟨"/m.tex".toList⟩ = (.ok merged, processed) ∧
        (after.source []).read options.encoding report.output ≠ .ok merged.content := by
  intro disk options
  have ran : (disk.mergeFile [] (disk.source []) options ⟨"/m.tex".toList⟩ none).1.1.toOption =
      some ⟨⟨"/m_merged.tex".toList⟩, 1⟩ := by decide +kernel
  have merges : (merge (disk.source []) options ⟨"/m.tex".toList⟩).1.toOption = some ⟨['A', 'B'], 1⟩ := by
    decide +kernel
  have read : (((disk.mergeFile [] (disk.source []) options ⟨"/m.tex".toList⟩ none).2.source []).read
      options.encoding ⟨"/m_merged.tex".toList⟩).toOption = some [Char.ofNat 0x4241] := by decide +kernel
  have label : Encoding.ofLabel? "utf-16le".toList = some options.encoding := by decide +kernel
  have wrote := mergeFile_eq_of_toOption ran
  refine ⟨label, _, _, _, wrote, _, _, eq_ok_of_toOption merges, fun same => ?_⟩
  rw [same] at read
  exact absurd read (by decide)

end TexFlat.Merge
