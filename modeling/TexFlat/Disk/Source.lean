import TexFlat.Disk.Basic
import TexFlat.Merge.Output

/-!
# Documents on disk

A disk is a source whose documents are bytes, read strictly in the encoding of the run. A merge
that is written changes the disk at one place, and not at all if it fails.
-/

namespace TexFlat.Disk

/-- The documents of a disk, with relative paths seen from `start`. -/
def source (disk : Disk) (start : Place) : Source where
  present := disk.present start
  canonical := disk.canonical start
  read encoding path := do
    encoding.decodeStrict (← disk.bytesAt start path)

/-- What the writing of a draft leaves and has to say. -/
def commit (disk : Disk) (start : Place) (draft : Merge.Draft) :
    (Except Failure Merge.Report × List Merge.Event) × Disk :=
  match disk.write start draft.output draft.bytes with
  | .ok disk => (draft.report (.ok ()), disk)
  | .error cause => (draft.report (.error cause), disk)

/-- The merge of a document of `source`, written to the disk. -/
def mergeFile (disk : Disk) (start : Place) (source : Source) (options : Options) (root : Path)
    (output? : Option Path) : (Except Failure Merge.Report × List Merge.Event) × Disk :=
  match Merge.draft source options root output? with
  | (.error failure, events) => ((.error failure, events), disk)
  | (.ok draft, events) =>
    let ((result, later), disk) := disk.commit start draft
    ((result, events ++ later), disk)

end TexFlat.Disk
