import ResourceGen.Accessor
import ResourceGen.ApiDocument
import ResourceGen.ApiDocument.Service
import ResourceGen.AttributeRoutes
import ResourceGen.Classification
import ResourceGen.Code.Calls
import ResourceGen.Code.Declaration
import ResourceGen.Code.Rendering
import ResourceGen.Code.Syntax
import ResourceGen.Command
import ResourceGen.CommandLine
import ResourceGen.Config
import ResourceGen.Config.Reading
import ResourceGen.Dict
import ResourceGen.DocumentReader
import ResourceGen.Error
import ResourceGen.FieldType
import ResourceGen.FileTree
import ResourceGen.Format
import ResourceGen.Generation
import ResourceGen.Host
import ResourceGen.Identifier
import ResourceGen.Interchange.Basic
import ResourceGen.Interchange.Config
import ResourceGen.Interchange.Documents
import ResourceGen.Interchange.Model
import ResourceGen.Interchange.Program
import ResourceGen.Interchange.Resource
import ResourceGen.Json.Decode
import ResourceGen.Json.Reader
import ResourceGen.Json.Value
import ResourceGen.Layout
import ResourceGen.Main
import ResourceGen.Naming
import ResourceGen.Naming.Inflection
import ResourceGen.Naming.Words
import ResourceGen.Path
import ResourceGen.Pattern.Basic
import ResourceGen.Pattern.Engine
import ResourceGen.Pattern.Reading
import ResourceGen.Pattern.Search
import ResourceGen.Pattern.Template
import ResourceGen.Program
import ResourceGen.Program.Execution
import ResourceGen.Proofs.Adoption
import ResourceGen.Proofs.Agreement
import ResourceGen.Proofs.ArnSlot
import ResourceGen.Proofs.Assembly
import ResourceGen.Proofs.AttributeValues
import ResourceGen.Proofs.Bindings
import ResourceGen.Proofs.Builds
import ResourceGen.Proofs.Bystanders
import ResourceGen.Proofs.ByteOrder
import ResourceGen.Proofs.CodeTypes
import ResourceGen.Proofs.ContainerTypes
import ResourceGen.Proofs.Containment
import ResourceGen.Proofs.Copying
import ResourceGen.Proofs.Cycles
import ResourceGen.Proofs.Descriptions
import ResourceGen.Proofs.Destinations
import ResourceGen.Proofs.Dictionary
import ResourceGen.Proofs.Discipline
import ResourceGen.Proofs.Environment
import ResourceGen.Proofs.Failures
import ResourceGen.Proofs.Faults
import ResourceGen.Proofs.FieldNames
import ResourceGen.Proofs.FieldTypes
import ResourceGen.Proofs.Files
import ResourceGen.Proofs.Finishing
import ResourceGen.Proofs.FoundServices
import ResourceGen.Proofs.Guards
import ResourceGen.Proofs.Identifiers
import ResourceGen.Proofs.IdleVariables
import ResourceGen.Proofs.Imports
import ResourceGen.Proofs.Letters
import ResourceGen.Proofs.Likeness
import ResourceGen.Proofs.Listing
import ResourceGen.Proofs.Marks
import ResourceGen.Proofs.Neighbours
import ResourceGen.Proofs.NestedTypes
import ResourceGen.Proofs.OperationChoice
import ResourceGen.Proofs.ParsedModels
import ResourceGen.Proofs.PartialOutput
import ResourceGen.Proofs.Partition
import ResourceGen.Proofs.PathWrites
import ResourceGen.Proofs.Plurals
import ResourceGen.Proofs.Properties
import ResourceGen.Proofs.Qualifiers
import ResourceGen.Proofs.Recursion
import ResourceGen.Proofs.RecursiveCopy
import ResourceGen.Proofs.Redirection
import ResourceGen.Proofs.References
import ResourceGen.Proofs.Renaming
import ResourceGen.Proofs.Requests
import ResourceGen.Proofs.Responses
import ResourceGen.Proofs.Result
import ResourceGen.Proofs.RoundTrip
import ResourceGen.Proofs.Scopes
import ResourceGen.Proofs.Singulars
import ResourceGen.Proofs.SourceFiles
import ResourceGen.Proofs.SourcePlaces
import ResourceGen.Proofs.Subtrees
import ResourceGen.Proofs.Suffixes
import ResourceGen.Proofs.Temporary
import ResourceGen.Proofs.Transfers
import ResourceGen.Proofs.TypeNames
import ResourceGen.Proofs.Unfolding
import ResourceGen.Proofs.Unwrapping
import ResourceGen.Proofs.UsedVariables
import ResourceGen.Proofs.Wrapping
import ResourceGen.Proofs.WrittenFiles
import ResourceGen.Resource
import ResourceGen.Resource.Derivation
import ResourceGen.Role
import ResourceGen.Schema
import ResourceGen.ServiceModel
import ResourceGen.ServiceModel.Reading
import ResourceGen.Shape
import ResourceGen.SmithyDocument
import ResourceGen.SmithyDocument.Service
import ResourceGen.Synthesis
import ResourceGen.Synthesis.Request
import ResourceGen.Synthesis.Response
import ResourceGen.Synthesis.Transfer
import ResourceGen.Text.CaseMap
import ResourceGen.Text.Category
import ResourceGen.Text.CodeSet
import ResourceGen.Text.Letter
import ResourceGen.Text.Printable
import ResourceGen.Text.Quoted
import ResourceGen.TypeDef
import ResourceGen.TypeResolver
import ResourceGen.Wrapper
import ResourceGen.Yaml.Cursor
import ResourceGen.Yaml.Decode
import ResourceGen.Yaml.Node
import ResourceGen.Yaml.Token
import ResourceGen.Yaml.Token.Lexer
import ResourceGen.Yaml.Token.Scalar
import ResourceGen.Yaml.Token.Tag
