import TexFlat.Proofs.Disk.ReadBack
import TexFlat.Proofs.Merge.Flat
import TexFlat.Proofs.Merge.Origin

/-!
# Bytes that survive a merge

Where the bytes of a text are those that stand for it, a merge never has to do with bytes: what it copies
from a document reaches the output in the bytes that it had there, and a document without a directive is written
as it was read. `mergeFile_keeps_bytes` says so for each character, in the ink of its origin.
-/

namespace TexFlat

namespace Encoding

variable {encoding : Encoding} {bytes chunk : Bytes} {c : Char} {text : Text}

/-- The bytes of a text are those of its characters, one behind the other. -/
theorem Exact.exists_chunks (exact : encoding.Exact) (written : encoding.encode? text = some bytes) :
    ∃ chunks, chunks.flatten = bytes ∧
      List.Forall₂ (fun c chunk => encoding.encode? [c] = some chunk) text chunks := by
  induction text generalizing bytes with
  | nil =>
    rw [encode?_nil] at written
    exact ⟨[], Option.some.inj written, .nil⟩
  | cons c text ih =>
    obtain ⟨front, rest, here, behind, rfl⟩ :=
      (exact.encode?_append_eq_some_iff (x := [c]) (y := text)).mp written
    obtain ⟨chunks, rfl, each⟩ := ih behind
    exact ⟨front :: chunks, rfl, .cons here each⟩

theorem Exact.isSome_encode? (exact : encoding.Exact)
    (each : ∀ c ∈ text, (encoding.encode? [c]).isSome) : (encoding.encode? text).isSome := by
  induction text with
  | nil =>
    rw [encode?_nil]
    rfl
  | cons c text ih =>
    rw [List.forall_mem_cons] at each
    obtain ⟨front, here⟩ := Option.isSome_iff_exists.mp each.1
    obtain ⟨rest, behind⟩ := Option.isSome_iff_exists.mp (ih each.2)
    refine Option.isSome_iff_exists.mpr ⟨front ++ rest, ?_⟩
    exact (exact.encode?_append_eq_some_iff (x := [c]) (y := text)).mpr ⟨front, rest, here, behind, rfl⟩

/-- In the bytes of a document, `chunk` stands for the character `c` behind `i` others. -/
def StandsAt (encoding : Encoding) (bytes : Bytes) (i : Nat) (c : Char) (chunk : Bytes) : Prop :=
  ∃ before behind front rest, bytes = before ++ chunk ++ behind ∧ encoding.decode? before = some front ∧
    front.length = i ∧ encoding.decode? chunk = some [c] ∧ encoding.decode? behind = some rest

/-- A character that was read has bytes, and those are the ones in its document. -/
theorem Exact.exists_standsAt (exact : encoding.Exact) {i : Nat} (read : encoding.decode? bytes = some text)
    (there : text[i]? = some c) :
    ∃ chunk, encoding.encode? [c] = some chunk ∧ encoding.StandsAt bytes i c chunk := by
  obtain ⟨short, same⟩ := List.getElem?_eq_some_iff.mp there
  have split : text = text.take i ++ ([c] ++ text.drop (i + 1)) := by
    rw [List.singleton_append, ← same, List.getElem_cons_drop, List.take_append_drop]
  have written := exact.decode?_eq_some_iff.mp read
  rw [split] at written
  obtain ⟨before, more, first, later, rfl⟩ := exact.encode?_append_eq_some_iff.mp written
  obtain ⟨chunk, behind, here, last, rfl⟩ := exact.encode?_append_eq_some_iff.mp later
  refine ⟨chunk, here, before, behind, _, _, (List.append_assoc _ _ _).symm,
    exact.decode?_eq_some_iff.mpr first, ?_, exact.decode?_eq_some_iff.mpr here,
    exact.decode?_eq_some_iff.mpr last⟩
  exact List.length_take_of_le (Nat.le_of_lt short)

end Encoding

namespace Merge

variable {disk after : Disk} {start : Disk.Place} {options : Options} {root document : Path}
  {output? : Option Path} {report : Report} {events : List Event} {merged : Merged} {bytes : Bytes}
  {inks : List Ink} {text : Text}

/-! ### Copied and fresh characters -/

/-- The bytes of a character: those in its document if it was copied, or its own. -/
def Printed (disk : Disk) (start : Disk.Place) (encoding : Encoding) (ink : Ink) (chunk : Bytes) : Prop :=
  encoding.encode? [ink.char] = some chunk ∧ ∀ file i, ink.origin = some (file, i) →
    ∃ bytes, disk.bytesAt start file = .ok bytes ∧ encoding.StandsAt bytes i ink.char chunk

theorem exists_bytesAt_of_read {encoding : Encoding} {file : Path}
    (read : (disk.source start).read encoding file = .ok text) :
    ∃ bytes, disk.bytesAt start file = .ok bytes ∧ encoding.decode? bytes = some text := by
  unfold Disk.source at read
  dsimp only at read
  cases found : disk.bytesAt start file with
  | error cause =>
    rw [found] at read
    exact absurd read nofun
  | ok bytes =>
    rw [found] at read
    exact ⟨bytes, rfl, decodeStrict_eq_ok_iff.mp read⟩

theorem exists_standsAt_of_isTrue (exact : options.encoding.Exact) {ink : Ink} {file : Path} {i : Nat}
    (true_ink : ink.IsTrue (disk.source start) options.encoding) (origin : ink.origin = some (file, i)) :
    ∃ chunk bytes, options.encoding.encode? [ink.char] = some chunk ∧
      disk.bytesAt start file = .ok bytes ∧ options.encoding.StandsAt bytes i ink.char chunk := by
  obtain ⟨text, read, there⟩ := true_ink file i origin
  obtain ⟨bytes, found, decoded⟩ := exists_bytesAt_of_read read
  obtain ⟨chunk, here, stands⟩ := exact.exists_standsAt decoded there
  exact ⟨chunk, bytes, here, found, stands⟩

theorem printed_of_isTrue (exact : options.encoding.Exact) {ink : Ink} {chunk : Bytes}
    (true_ink : ink.IsTrue (disk.source start) options.encoding)
    (here : options.encoding.encode? [ink.char] = some chunk) :
    Printed disk start options.encoding ink chunk := by
  refine ⟨here, fun file i origin => ?_⟩
  obtain ⟨chunk', bytes, here', found, stands⟩ := exists_standsAt_of_isTrue exact true_ink origin
  obtain rfl := Option.some.inj (here.symm.trans here')
  exact ⟨bytes, found, stands⟩

theorem forall₂_printed (exact : options.encoding.Exact)
    (true_inks : ∀ ink ∈ inks, ink.IsTrue (disk.source start) options.encoding) {chunks : List Bytes}
    (each : List.Forall₂ (fun c chunk => options.encoding.encode? [c] = some chunk) (Ink.text inks) chunks) :
    List.Forall₂ (Printed disk start options.encoding) inks chunks := by
  induction inks generalizing chunks with
  | nil =>
    cases each
    exact .nil
  | cons ink inks ih =>
    rw [List.forall_mem_cons] at true_inks
    cases each with
    | cons here behind => exact .cons (printed_of_isTrue exact true_inks.1 here) (ih true_inks.2 behind)

/-- The encoding can fail only at a character that the merge put in. -/
theorem isSome_encode?_of_fresh (exact : options.encoding.Exact)
    (true_inks : ∀ ink ∈ inks, ink.IsTrue (disk.source start) options.encoding)
    (fresh : ∀ ink ∈ inks, ink.origin = none → (options.encoding.encode? [ink.char]).isSome) :
    (options.encoding.encode? (Ink.text inks)).isSome := by
  refine exact.isSome_encode? fun c member => ?_
  obtain ⟨ink, inside, rfl⟩ := List.mem_map.mp member
  cases origin : ink.origin with
  | none => exact fresh ink inside origin
  | some place =>
    obtain ⟨chunk, -, here, -⟩ := exists_standsAt_of_isTrue exact (true_inks ink inside) origin
    rw [here]
    rfl

/-! ### A document without a directive -/

theorem Bare.visit_eq (bare : Bare text) {source : Source}
    (read : source.read options.encoding document = .ok text) (levels : Nat) (base : Path) :
    visit source options (levels + 1) { events := [.started document] } document base =
      (text, (({ events := [.started document] } : Run).enter (source.settle document)).note
        (.processing document base (options.maxDepth - levels))) := by
  have new : ¬ ({ events := [.started document] } : Run).HasVisited (source.settle document) :=
    fun ⟨_, member, _⟩ => absurd member List.not_mem_nil
  unfold visit
  rw [if_neg new]
  dsimp only
  rw [read]
  exact bare.rescan_eq _ _

/-- A document without a directive is drafted in the bytes that it was read in. -/
theorem Bare.draft_eq (bare : Bare text) (exact : options.encoding.Exact) {document' : Path}
    (found : (disk.source start).rootDocument root = .ok document)
    (again : (disk.source start).rootDocument document = .ok document')
    (there : disk.bytesAt start document' = .ok bytes) (read : options.encoding.decode? bytes = some text) :
    ∃ events, draft (disk.source start) options root output? =
      (.ok ⟨output?.getD (document.suffixed options.outputSuffix), bytes, 1⟩, events) := by
  have reading : (disk.source start).read options.encoding document' = .ok text := by
    unfold Disk.source
    dsimp only
    rw [there]
    exact decodeStrict_eq_ok_iff.mpr read
  have merges : ∃ events, merge (disk.source start) options document = (.ok ⟨text, 1⟩, events) := by
    unfold merge
    rw [again]
    dsimp only
    rw [bare.visit_eq reading]
    exact ⟨_, rfl⟩
  obtain ⟨events, merges⟩ := merges
  have written := exact.decode?_eq_some_iff.mp read
  simp only [draft, found, merges, written]
  exact ⟨events, rfl⟩

/-! ### The bytes of the output -/

/-- Where bytes and text determine each other, a merge is written in the bytes that its characters have
where they come from. It can be written if the characters of its markers can, and a document without a directive
is written as it is. -/
theorem mergeFile_keeps_bytes (disk : Disk) (start : Disk.Place) (options : Options) (root : Path)
    (output? : Option Path) (exact : options.encoding.Exact) :
    (∀ x y m a b c, options.encoding.decode? a = some x → options.encoding.decode? b = some y →
      options.encoding.encode? m = some c → options.encoding.encode? (x ++ m ++ y) = some (a ++ c ++ b)) ∧
    (∀ report events after,
      disk.mergeFile start (disk.source start) options root output? = ((.ok report, events), after) →
        ∃ document inks chunks, (disk.source start).rootDocument root = .ok document ∧
          inkMerge (disk.source start) options document = .ok inks ∧
          after.bytesAt start report.output = .ok chunks.flatten ∧
          List.Forall₂ (Printed disk start options.encoding) inks chunks) ∧
    (∀ inks merged events, inkMerge (disk.source start) options root = .ok inks →
      merge (disk.source start) options root = (.ok merged, events) →
      (∀ ink ∈ inks, ink.origin = none → (options.encoding.encode? [ink.char]).isSome) →
        (options.encoding.encode? merged.content).isSome) ∧
    ∀ document document' bytes text, (disk.source start).rootDocument root = .ok document →
      (disk.source start).rootDocument document = .ok document' →
      disk.bytesAt start document' = .ok bytes → options.encoding.decode? bytes = some text → Bare text →
        let output := output?.getD (document.suffixed options.outputSuffix)
        ∃ events, draft (disk.source start) options root output? = (.ok ⟨output, bytes, 1⟩, events) ∧
          ∀ after, disk.write start output bytes = .ok after → after.bytesAt start output = .ok bytes ∧
            ∃ later, disk.mergeFile start (disk.source start) options root output? =
              ((.ok ⟨output, 1⟩, later), after) := by
  refine ⟨fun x y m a b c first last between => ?_, fun report events after wrote => ?_,
    fun inks merged events inked merges fresh => ?_,
    fun document document' bytes text found again there read bare => ?_⟩
  · refine exact.encode?_append_eq_some_iff.mpr ⟨a ++ c, b, ?_, exact.decode?_eq_some_iff.mp last, rfl⟩
    exact exact.encode?_append_eq_some_iff.mpr ⟨a, c, exact.decode?_eq_some_iff.mp first, between, rfl⟩
  · obtain ⟨document, merged, processed, bytes, found, merges, encoded, written, -, -⟩ := mergeFile_eq_ok wrote
    obtain ⟨inks, inked, same⟩ := text_inkMerge merges
    rw [← same] at encoded
    obtain ⟨chunks, rfl, each⟩ := exact.exists_chunks encoded
    exact ⟨document, inks, chunks, found, inked, (Disk.holds_of_write written).read,
      forall₂_printed exact (true_inkMerge inked) each⟩
  · obtain ⟨inks', inked', same⟩ := text_inkMerge merges
    obtain rfl := Except.ok.inj (inked.symm.trans inked')
    rw [← same]
    exact isSome_encode?_of_fresh exact (true_inkMerge inked) fresh
  · obtain ⟨events, drafted⟩ := bare.draft_eq exact found again there read
    exact ⟨events, drafted, fun after written => ⟨(Disk.holds_of_write written).read, _,
      Disk.mergeFile_of_ok drafted (Disk.commit_of_ok written)⟩⟩

/-- Two bytes beyond ASCII, one of them in a file that the other one's asks for. -/
theorem mergeFile_keeps_bytes_private :
    let disk : Disk := ⟨[(["m.tex".toList], .file [0xE9, 0x5C, 0x69, 0x6E, 0x70, 0x75, 0x74, 0x7B, 0x61, 0x7D]),
      (["a.tex".toList], .file [0xE8])]⟩
    let options : Options := { encoding := .userDefined }
    options.encoding.Exact ∧
    ∃ report events after, disk.mergeFile [] (disk.source []) options ⟨"m.tex".toList⟩ none =
        ((.ok report, events), after) ∧
      report = ⟨⟨"/m_merged.tex".toList⟩, 2⟩ ∧
      ∃ document inks chunks, (disk.source []).rootDocument ⟨"m.tex".toList⟩ = .ok document ∧
        inkMerge (disk.source []) options document = .ok inks ∧
        after.bytesAt [] report.output = .ok chunks.flatten ∧
        List.Forall₂ (Printed disk [] options.encoding) inks chunks := by
  intro disk options
  have exact : options.encoding.Exact := trivial
  have ran : (disk.mergeFile [] (disk.source []) options ⟨"m.tex".toList⟩ none).1.1.toOption =
      some ⟨⟨"/m_merged.tex".toList⟩, 2⟩ := by decide +kernel
  have wrote := mergeFile_eq_of_toOption ran
  have kept := (mergeFile_keeps_bytes disk [] options ⟨"m.tex".toList⟩ none exact).2.1 _ _ _ wrote
  exact ⟨exact, _, _, _, wrote, rfl, kept⟩

end Merge
end TexFlat
