import TexFlat.CommandLine.Run

/-!
# Snapshots

A snapshot holds what was found out about some paths. Seen as a source, it has nothing at the paths
that it does not know. `Command.asked` lists the paths that a command asks about: once the snapshot
knows all of them, the command does with it what it would do with the disk.
-/

namespace TexFlat

namespace Snapshot

/-- What was found at a path. -/
structure Fact where
  canonical : Except Fault Path
  content : Except Fault Bytes

end Snapshot

structure Snapshot where
  facts : List (Path × Snapshot.Fact) := []

namespace Snapshot

def fact? (snapshot : Snapshot) (path : Path) : Option Fact :=
  (snapshot.facts.find? fun known => known.1 == path).map (·.2)

def add (snapshot : Snapshot) (path : Path) (fact : Fact) : Snapshot :=
  ⟨(path, fact) :: snapshot.facts⟩

def canonical (snapshot : Snapshot) (path : Path) : Except Fault Path :=
  match snapshot.fact? path with
  | some fact => fact.canonical
  | none => .error .missing

def source (snapshot : Snapshot) : Source where
  present path := (snapshot.canonical path).isOk
  canonical := snapshot.canonical
  read encoding path :=
    match snapshot.fact? path with
    | some fact => fact.content.bind encoding.decodeStrict
    | none => .error .missing

end Snapshot

namespace CommandLine

/-- The paths that a command asks a source about. -/
def Command.asked (source : Source) : Command → List Path
  | .merge document output suffix maxDepth label =>
    match Encoding.ofLabel label with
    | .error _ => []
    | .ok encoding =>
      let (_, events) := Merge.draft source ⟨maxDepth, suffix, encoding⟩ document output
      document :: source.settle document :: events.flatMap Merge.Event.asked
  | .discover document maxDepth label =>
    match Encoding.ofLabel label with
    | .error _ => []
    | .ok encoding =>
      let (_, events) := Inventory.discover source { maxDepth, encoding } document
      document :: source.settle document :: events.flatMap Inventory.Event.asked

end CommandLine
end TexFlat
