import CustomResource.Command.Directory
import CustomResource.Command.Invocation
import CustomResource.Declaration.Mapping
import CustomResource.Declaration.Reachable
import CustomResource.Declaration.Rendering
import CustomResource.Descriptor.Decoding
import CustomResource.Descriptor.Encoding
import CustomResource.Envelope
import CustomResource.Generation
import CustomResource.Main
import CustomResource.Matcher
import CustomResource.Naming
import CustomResource.Registry.Containment
import CustomResource.Registry.Loading
import CustomResource.Source.Identifier
import CustomResource.Source.Layout
import CustomResource.Unicode.Identifier
import CustomResource.Proofs.Command.Failure
import CustomResource.Proofs.Declaration.MappingTable
import CustomResource.Proofs.Generation.ByValue
import CustomResource.Proofs.Generation.Clashes
import CustomResource.Proofs.Generation.ConfiguredAttributes
import CustomResource.Proofs.Generation.Coverage
import CustomResource.Proofs.Generation.EnumConstants
import CustomResource.Proofs.Generation.Extension
import CustomResource.Proofs.Generation.FieldNames
import CustomResource.Proofs.Generation.PlainNames
import CustomResource.Proofs.Generation.Precedence
import CustomResource.Proofs.Generation.Presentation
import CustomResource.Proofs.Generation.StructFields
import CustomResource.Proofs.Matcher
import CustomResource.Proofs.Path
import CustomResource.Proofs.Planner.Failure
import CustomResource.Proofs.Planner.Moments
import CustomResource.Proofs.QualifiedName
import CustomResource.Proofs.Registry.Circles
import CustomResource.Proofs.Registry.Decoding
import CustomResource.Proofs.Registry.Listing
import CustomResource.Proofs.Registry.LoadingOrder
import CustomResource.Proofs.Registry.Lookup
import CustomResource.Proofs.Registry.PackagePath
import CustomResource.Proofs.Registry.Replay
