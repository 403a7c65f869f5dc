import TexFlat.Directive.Basic
import TexFlat.Log
import TexFlat.Source

/-!
# What happens while an inventory is made

Each event but `resolved` is an entry in the log.
-/

namespace TexFlat.Inventory

inductive Event
  | tooDeep (file : Path) (maxDepth : Nat)
  | unreadable (file : Path) (cause : Fault)
  | resolved (d : Directive) (dir target : Path)
  | skipped (d : Directive) (dir : Path)
  | completed (root : Path) (files : Nat)
deriving DecidableEq, Repr

namespace Event

def target : Text := "texmerge_core::discovery".toList

def logged? : Event → Option Log.Entry
  | tooDeep file maxDepth => some
    { level := .warn, target, message := "Maximum inclusion depth exceeded".toList
      fields := [("file".toList, file.text), ("max_depth".toList, Log.number maxDepth)] }
  | unreadable file cause => some
    { level := .warn, target, message := "Cannot read file".toList
      fields := [("file".toList, file.text), ("error".toList, cause.message)] }
  | resolved .. => none
  | skipped d dir => some
    { level := .debug, target, message := "Skipping unresolved reference".toList
      fields := [("reference".toList, d.reference), ("search_dir".toList, dir.text)] }
  | completed root files => some
    { level := .info, target, message := "Discovery completed".toList
      fields := [("root".toList, root.text), ("files".toList, Log.number files)] }

/-- The paths of which the event shows that something was asked about them. -/
def asked : Event → List Path
  | resolved d dir target => candidates d.name dir ++ [target]
  | skipped d dir => candidates d.name dir
  | completed root _ => [root]
  | _ => []

end Event
end TexFlat.Inventory
