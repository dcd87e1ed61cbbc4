import Typings.Log
import Typings.Main
import Typings.Proofs.Api.Schema
import Typings.Proofs.Arrays
import Typings.Proofs.Emit.Braces
import Typings.Proofs.Emit.Comments
import Typings.Proofs.Emit.Documentation
import Typings.Proofs.Emit.Emitter
import Typings.Proofs.Emit.EnumFiles
import Typings.Proofs.Emit.Exports
import Typings.Proofs.Emit.Identifiers
import Typings.Proofs.Emit.ImportBlocks
import Typings.Proofs.Emit.Levels
import Typings.Proofs.Emit.Literals
import Typings.Proofs.Emit.MethodComments
import Typings.Proofs.FileTree
import Typings.Proofs.FirstWins
import Typings.Proofs.Hierarchy.Built
import Typings.Proofs.Hierarchy.Carrying
import Typings.Proofs.Hierarchy.Chains
import Typings.Proofs.Hierarchy.ClosedChains
import Typings.Proofs.Hierarchy.Descent
import Typings.Proofs.Hierarchy.Finishing
import Typings.Proofs.Hierarchy.Fluency
import Typings.Proofs.Hierarchy.Frame
import Typings.Proofs.Hierarchy.Intermediate
import Typings.Proofs.Hierarchy.Links
import Typings.Proofs.Hierarchy.MentionedImports
import Typings.Proofs.Hierarchy.Origins
import Typings.Proofs.Hierarchy.Places
import Typings.Proofs.Hierarchy.Reached
import Typings.Proofs.Hierarchy.ReceiverDocs
import Typings.Proofs.Hierarchy.References
import Typings.Proofs.Hierarchy.ReturnTypes
import Typings.Proofs.Hierarchy.Sources
import Typings.Proofs.Hierarchy.TopDown
import Typings.Proofs.Hierarchy.Twins
import Typings.Proofs.Hierarchy.Uncovered
import Typings.Proofs.Hierarchy.Visits
import Typings.Proofs.Json.Codecs
import Typings.Proofs.Json.Forms
import Typings.Proofs.Json.Printing
import Typings.Proofs.Json.Records
import Typings.Proofs.Json.Scanning
import Typings.Proofs.Json.Values
import Typings.Proofs.Method.Generics
import Typings.Proofs.Method.Meeting
import Typings.Proofs.Method.Settling
import Typings.Proofs.Method.Tokens
import Typings.Proofs.Method.Variants
import Typings.Proofs.Method.Widening
import Typings.Proofs.ModelTokens
import Typings.Proofs.ModulePaths
import Typings.Proofs.Naming
import Typings.Proofs.PostProcess.Pieces
import Typings.Proofs.PostProcess.Templates
import Typings.Proofs.Project.Failure
import Typings.Proofs.Project.Output
import Typings.Proofs.Project.Replacements
import Typings.Proofs.Project.Trees
import Typings.Proofs.RenderedTypes
import Typings.Proofs.Requirements
import Typings.Proofs.Resolve
import Typings.Proofs.ResolvedNames
import Typings.Proofs.Resolving
import Typings.Proofs.Run.Accounts
import Typings.Proofs.Run.AddedLibraries
import Typings.Proofs.Run.Colors
import Typings.Proofs.Run.Cycles
import Typings.Proofs.Run.Declared
import Typings.Proofs.Run.DeclaredBases
import Typings.Proofs.Run.DeclaredTypes
import Typings.Proofs.Run.Finished
import Typings.Proofs.Run.ImportNames
import Typings.Proofs.Run.Imports
import Typings.Proofs.Run.Outcomes
import Typings.Proofs.Run.Payloads
import Typings.Proofs.Run.SharedNames
import Typings.Proofs.Run.SourceOrder
import Typings.Proofs.Run.Targets
import Typings.Proofs.Sources.Acquire
import Typings.Proofs.Sources.Cache
import Typings.Proofs.Sources.Origins
import Typings.Proofs.Sources.Outcome
import Typings.Proofs.Sources.Pending
import Typings.Proofs.Sources.Transparency
import Typings.Proofs.Table
import Typings.Proofs.Text.Order
import Typings.Proofs.Text.Pieces
import Typings.Proofs.Unions
