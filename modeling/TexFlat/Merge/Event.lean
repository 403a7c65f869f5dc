import TexFlat.Directive.Basic
import TexFlat.Log
import TexFlat.Source

/-!
# What happens in a merge

The events of a merge in the order in which they happen. Each but `resolved` is an entry in the
log.
-/

namespace TexFlat.Merge

inductive Event
  | started (root : Path)
  | processing (file base : Path) (depth : Nat)
  | alreadyProcessed (file : Path)
  | tooDeep (file : Path) (maxDepth : Nat)
  | unreadable (file : Path) (cause : Fault)
  | resolved (d : Directive) (dir target : Path)
  | notFound (d : Directive) (dir : Path)
  | completed (files : Nat) (output : Path)
deriving DecidableEq, Repr

namespace Event

def target : Text := "texmerge_core::merger".toList

def logged? : Event → Option Log.Entry
  | started root => some
    { level := .info, target, message := "Merging main file".toList
      fields := [("root".toList, root.text)] }
  | processing file base _ => some
    { level := .debug, target, message := "Processing".toList
      fields := [("file".toList, file.text), ("base_dir".toList, base.text)] }
  | alreadyProcessed file => some
    { level := .warn, target, message := "File already processed, skipping".toList
      fields := [("file".toList, file.text)] }
  | tooDeep file maxDepth => some
    { level := .warn, target, message := "Maximum inclusion depth exceeded".toList
      fields := [("file".toList, file.text), ("max_depth".toList, Log.number maxDepth)] }
  | unreadable file cause => some
    { level := .error, target, message := "Cannot read file".toList
      fields := [("file".toList, file.text), ("error".toList, cause.message)] }
  | resolved .. => none
  | notFound d dir => some
    { level := .error, target, message := "File not found".toList
      fields := [("kind".toList, d.kind.word), ("reference".toList, d.reference),
        ("search_dir".toList, dir.text)] }
  | completed files output => some
    { level := .info, target, message := "Merge completed".toList
      fields := [("files".toList, Log.number files), ("output".toList, output.text)] }

/-- The paths of which the event shows that something was asked about them. -/
def asked : Event → List Path
  | started root => [root]
  | resolved d dir target => candidates d.name dir ++ [target]
  | notFound d dir => candidates d.name dir
  | _ => []

end Event
end TexFlat.Merge
