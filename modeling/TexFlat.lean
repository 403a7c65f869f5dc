import TexFlat.Path.Normal
import TexFlat.Path.FileName
import TexFlat.Path.Relative
import TexFlat.Directive.Scan
import TexFlat.Encoding.Codec
import TexFlat.Options
import TexFlat.Marker
import TexFlat.Store
import TexFlat.Merge.Output
import TexFlat.Inventory.Basic
import TexFlat.Disk.Source
import TexFlat.CommandLine.Usage
import TexFlat.Main
import TexFlat.Proofs.Inventory.Coverage
import TexFlat.Proofs.Inventory.Reachability
import TexFlat.Proofs.Merge.Flat
import TexFlat.Proofs.Merge.Verbatim
import TexFlat.Proofs.Merge.Loss
import TexFlat.Proofs.Merge.Bound
import TexFlat.Proofs.Disk.Writing
import TexFlat.Proofs.Inventory.Lockstep
import TexFlat.Proofs.Merge.Nesting
import TexFlat.Proofs.Disk.Rerun
import TexFlat.Proofs.Disk.SourceBytes
import TexFlat.Proofs.Inventory.Moving
import TexFlat.Proofs.Merge.ControlWord
import TexFlat.Proofs.Inventory.Unfolding
import TexFlat.Proofs.Merge.Logging
import TexFlat.Proofs.Merge.Gaps
import TexFlat.Proofs.Marker.Comment
import TexFlat.Proofs.Merge.Comments
import TexFlat.Proofs.Merge.Inclusion
import TexFlat.Proofs.Inventory.Respelling
import TexFlat.Proofs.Store.Resolution
import TexFlat.Proofs.Store.Adding
import TexFlat.Proofs.Path.Relative
import TexFlat.Proofs.Path.FileName
import TexFlat.Proofs.Path.Spelling
