import DotPath.Main
import DotPath.Proofs.Path.Mark
import DotPath.Proofs.Path.Tracing
import DotPath.Proofs.Path.RoundTrip
import DotPath.Proofs.Path.Viable
import DotPath.Proofs.Record.Failing
import DotPath.Proofs.Record.Row
import DotPath.Proofs.Record.Target
import DotPath.Proofs.Selection.Joining
import DotPath.Proofs.Selection.Position
import DotPath.Proofs.Json.Growth
import DotPath.Proofs.Selection.Growth
import DotPath.Proofs.Lookup.Ending
import DotPath.Proofs.Lookup.Scalar
import DotPath.Proofs.CommandLine.Run
import DotPath.Proofs.Filter.Chain
import DotPath.Proofs.Filter.Survivors
import DotPath.Proofs.Filter.Algebra
import DotPath.Proofs.Filter.Partition
import DotPath.Proofs.Path.Narrowing
import DotPath.Proofs.Lookup.Element
import DotPath.Proofs.Lookup.Address
import DotPath.Proofs.Binary64.Nearest
import DotPath.Proofs.Binary64.Truncation
import DotPath.Proofs.Filter.Number
import DotPath.Proofs.Lookup.Integer
import DotPath.Proofs.Json.Printing
import DotPath.Proofs.Path.Tree
import DotPath.Proofs.Record.Plain
import DotPath.Proofs.Path.Spacing
import DotPath.Proofs.Token.Tiling
import DotPath.Proofs.Filter.Closing
import DotPath.Proofs.Token.Session
import DotPath.Proofs.Byte.Safety
