import TexFlat.CommandLine.LogFilter
import TexFlat.CommandLine.Report
import TexFlat.Disk.Source
import TexFlat.Text.Quoted

/-!
# Running a command

A command reads its documents and is done, or it has a draft to be written. Once the writing was
tried, it reports.
-/

namespace TexFlat.CommandLine

/-- What a run leaves on its two streams, and the status that it ends with. -/
structure Outcome where
  status : Nat
  stdout : Text
  stderr : Text
deriving DecidableEq, Repr

namespace Outcome

/-- The log lines that the filter shows, then what the command prints or why it failed. -/
def ofResult (filter : LogFilter) (entries : List Log.Entry) (result : Except Trouble Text) :
    Outcome :=
  let log := (entries.filter filter.shows).flatMap fun entry => entry.line ++ ['\n']
  match result with
  | .ok text => ⟨0, text, log⟩
  | .error trouble => ⟨1, [], log ++ trouble.text⟩

end Outcome

/-- Where a command stands when it has read its documents. -/
inductive Progress
  | done (entries : List Log.Entry) (result : Except Trouble Text)
  | toWrite (entries : List Log.Entry) (draft : Merge.Draft) (doing : Text)

/-- The options as a log line shows them. -/
def optionsText (options : Options) : Text :=
  "MergeOptions \x7b max_depth: ".toList ++ Nat.toDigits 10 options.maxDepth ++
    ", output_suffix: ".toList ++ Text.quoted options.outputSuffix ++
    ", encoding: Encoding \x7b name: ".toList ++ Text.quoted options.encoding.name ++
    ", .. \x7d \x7d".toList

def startEntry (options : Options) (document : Path) : Log.Entry :=
  { level := .debug, target := "texmerge::commands::merge".toList
    message := "Starting merge".toList
    fields := [("options".toList, optionsText options), ("input".toList, document.text)] }

/-- How far a command comes with the documents of a source. -/
def Command.progress (command : Command) (source : Source) : Progress :=
  match command with
  | .merge document output suffix maxDepth label =>
    let doing := "Failed to merge ".toList ++ document.text
    match Encoding.ofLabel label with
    | .error failure => .done [] (.error (Trouble.ofFailure doing failure))
    | .ok encoding =>
      let options : Options := ⟨maxDepth, suffix, encoding⟩
      let (result, events) := Merge.draft source options document output
      let entries := startEntry options document :: events.filterMap Merge.Event.logged?
      match result with
      | .error failure => .done entries (.error (Trouble.ofFailure doing failure))
      | .ok draft => .toWrite entries draft doing
  | .discover document maxDepth label =>
    let doing := "Failed to discover files for ".toList ++ document.text
    match Encoding.ofLabel label with
    | .error failure => .done [] (.error (Trouble.ofFailure doing failure))
    | .ok encoding =>
      let (result, events) :=
        Inventory.discover source { maxDepth := maxDepth, encoding := encoding } document
      let entries := events.filterMap Inventory.Event.logged?
      match result with
      | .error failure => .done entries (.error (Trouble.ofFailure doing failure))
      | .ok found => .done entries (.ok (inventoryText found))

/-- The outcome once the draft was written, or was not. -/
def written (filter : LogFilter) (entries : List Log.Entry) (draft : Merge.Draft) (doing : Text)
    (tried : Except Fault Unit) : Outcome :=
  let (result, events) := draft.report tried
  Outcome.ofResult filter (entries ++ events.filterMap Merge.Event.logged?)
    (match result with
    | .error failure => .error (Trouble.ofFailure doing failure)
    | .ok report => .ok (mergeText report.output report.filesProcessed))

/-- What an invocation does to a disk, with relative paths seen from `start`. -/
def Invocation.run (invocation : Invocation) (environment : Option Text) (disk : Disk)
    (start : Disk.Place) : Outcome × Disk :=
  let filter := LogFilter.choose invocation.verbosity environment
  match invocation.command.progress (disk.source start) with
  | .done entries result => (Outcome.ofResult filter entries result, disk)
  | .toWrite entries draft doing =>
    match disk.write start draft.output draft.bytes with
    | .ok disk => (written filter entries draft doing (.ok ()), disk)
    | .error cause => (written filter entries draft doing (.error cause), disk)

end TexFlat.CommandLine
