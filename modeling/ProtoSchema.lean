import ProtoSchema.Main
import ProtoSchema.Proofs.Imports
import ProtoSchema.Proofs.Reserved.Names
import ProtoSchema.Proofs.Schema.Compiling
import ProtoSchema.Proofs.Schema.BuriedNulls
import ProtoSchema.Proofs.Schema.Reordering
import ProtoSchema.Proofs.Text.Utf8
import ProtoSchema.Proofs.Literal
import ProtoSchema.Proofs.Text.Words
import ProtoSchema.Proofs.OptionValue.BareText
import ProtoSchema.Proofs.Layout.Strip
import ProtoSchema.Proofs.OptionValue.Rendering
import ProtoSchema.Proofs.Schema.References
import ProtoSchema.Proofs.Layout.CodeLines
import ProtoSchema.Proofs.Declaration.Comments
import ProtoSchema.Proofs.Bundle.Modes
import ProtoSchema.Proofs.Json.Sorted
import ProtoSchema.Proofs.OptionValue.Codec
import ProtoSchema.Proofs.Schema.RoundTrip
import ProtoSchema.Proofs.Bundle.Writing
import ProtoSchema.Proofs.Run.AllOrNothing
import ProtoSchema.Proofs.Run.Invocation
import ProtoSchema.Proofs.Source.Failing
import ProtoSchema.Proofs.Option.Replay
import ProtoSchema.Proofs.Layout.Sites
import ProtoSchema.Proofs.Layout.Collapsing
import ProtoSchema.Proofs.Layout.Rows
import ProtoSchema.Proofs.Layout.Draft
import ProtoSchema.Proofs.Declaration.Expansion
import ProtoSchema.Proofs.Option.Building
import ProtoSchema.Proofs.Option.Independence
import ProtoSchema.Proofs.Reserved.Faults
import ProtoSchema.Proofs.Schema.Checking
import ProtoSchema.Proofs.Declaration.Placement
import ProtoSchema.Proofs.Json.Pruning
import ProtoSchema.Proofs.Path
import ProtoSchema.Proofs.Schema.NullMembers
import ProtoSchema.Proofs.Bundle.Confinement
import ProtoSchema.Proofs.Bundle.ReadingBack
import ProtoSchema.Option.Building
import ProtoSchema.Proofs.ConstantName
import ProtoSchema.Proofs.Schema.Positions
