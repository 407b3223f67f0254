import ActionLookup.Main
import ActionLookup.Synthetic
import ActionLookup.Proofs.Accessor.Shadowing
import ActionLookup.Proofs.Source.Generated
import ActionLookup.Proofs.Accessor.Labels
import ActionLookup.Proofs.Source.Determined
import ActionLookup.Proofs.Asset.Written
import ActionLookup.Proofs.FileTree.Writing
import ActionLookup.Proofs.Program.Modes
import ActionLookup.Proofs.Source.LineEnding
import ActionLookup.Proofs.Source.Names
import ActionLookup.Proofs.Accessor.Members
import ActionLookup.Proofs.Asset.Decoding
import ActionLookup.Proofs.Generation.Refusal
import ActionLookup.Proofs.Source.Namespace
import ActionLookup.Proofs.Schema.Repeats
import ActionLookup.Proofs.FileTree.Delivery
import ActionLookup.Proofs.Program.AssetKept
import ActionLookup.Proofs.Asset.Synthetic
import ActionLookup.Proofs.Json.Accepted.Strings
import ActionLookup.Proofs.Json.Accepted.Values
import ActionLookup.Proofs.Json.Accepted.Records
import ActionLookup.Proofs.Asset.Accepted
import ActionLookup.Proofs.Schema.Holder
import ActionLookup.Proofs.Source.Reserved
import ActionLookup.Proofs.Script.Acts
import ActionLookup.Proofs.Script.Scopes
import ActionLookup.Proofs.Text.Quotation
import ActionLookup.Proofs.CommandLine.Request
