import TexFlat.Encoding.Codec
import TexFlat.Merge.Basic
import TexFlat.Path.FileName

/-!
# The merged file

Before anything is written, a merge is a draft: the bytes and the place they go to. The draft fails
if the merged text has a character that the encoding cannot write.
-/

namespace TexFlat.Merge

structure Draft where
  output : Path
  bytes : Bytes
  filesProcessed : Nat

structure Report where
  output : Path
  filesProcessed : Nat
deriving DecidableEq, Repr

/-- What is to be written for a document: to `output?`, or else beside the document under its name
with the suffix of the options. -/
def draft (source : Source) (options : Options) (root : Path) (output? : Option Path) :
    Except Failure Draft × List Event :=
  match source.rootDocument root with
  | .error failure => (.error failure, [])
  | .ok root =>
    let output := output?.getD (root.suffixed options.outputSuffix)
    match merge source options root with
    | (.error failure, events) => (.error failure, events)
    | (.ok merged, events) =>
      match options.encoding.encode? merged.content with
      | none => (.error (.notWritten output (.unrepresentable options.encoding)), events)
      | some bytes => (.ok ⟨output, bytes, merged.filesProcessed⟩, events)

/-- What a run has to say once the bytes of its draft were written, or were not. -/
def Draft.report (draft : Draft) (written : Except Fault Unit) :
    Except Failure Report × List Event :=
  match written with
  | .error cause => (.error (.notWritten draft.output cause), [])
  | .ok () =>
    (.ok ⟨draft.output, draft.filesProcessed⟩, [.completed draft.filesProcessed draft.output])

end TexFlat.Merge
