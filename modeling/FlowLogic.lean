import FlowLogic.Host.FileTree
import FlowLogic.Main
import FlowLogic.Proofs.Outcome
import FlowLogic.Proofs.Text.Pieces
import FlowLogic.Proofs.Program.Resolution
import FlowLogic.Proofs.Program.Trace
import FlowLogic.Proofs.Program.Whitelist
import FlowLogic.Proofs.Program.Agreement
import FlowLogic.Proofs.Program.Registration
import FlowLogic.Proofs.Program.Fragments
import FlowLogic.Proofs.Transform.Written
import FlowLogic.Proofs.Transform.Typing
import FlowLogic.Proofs.Definition.Lowering
import FlowLogic.Proofs.Definition.Source
import FlowLogic.Proofs.Definition.ChainKeys
import FlowLogic.Proofs.Definition.Chains
import FlowLogic.Proofs.Definition.BoundFields
import FlowLogic.Proofs.Definition.Coercion
import FlowLogic.Proofs.Definition.Results
import FlowLogic.Proofs.Definition.Paths
import FlowLogic.Proofs.Definition.PathText
import FlowLogic.Proofs.Definition.ErrorPaths
import FlowLogic.Proofs.Definition.Reading
import FlowLogic.Proofs.Definition.WellFormed
import FlowLogic.Proofs.Condition.ErrorPaths
import FlowLogic.Proofs.Condition.Operands
import FlowLogic.Proofs.Condition.ChainKeys
import FlowLogic.Proofs.Condition.Lowering
import FlowLogic.Proofs.Condition.Result
import FlowLogic.Proofs.Condition.WellFormed
import FlowLogic.Proofs.Evaluation.Failures
import FlowLogic.Proofs.Evaluation.Leniency
import FlowLogic.Proofs.Evaluation.Agreement
import FlowLogic.Proofs.Evaluation.Shortcuts
import FlowLogic.Proofs.Evaluation.Context
import FlowLogic.Proofs.Command.Status
import FlowLogic.Proofs.Command.Listing
import FlowLogic.Proofs.Program.Growth
import FlowLogic.Proofs.Program.Sessions
import FlowLogic.Proofs.Transform.Quoting
import FlowLogic.Proofs.Evaluation.Templates
import FlowLogic.Proofs.Dict
import FlowLogic.Proofs.Json.Equality
import FlowLogic.Proofs.Definition.Places
import FlowLogic.Proofs.Condition.IneffectiveChildren
import FlowLogic.Proofs.Condition.TagSuffixes
import FlowLogic.Proofs.Condition.SoleLeaf
import FlowLogic.Proofs.Json.Scalars
import FlowLogic.Proofs.Evaluation.Scalars
import FlowLogic.Proofs.Json.Integers
import FlowLogic.Proofs.Json.ShortNumerals
import FlowLogic.Proofs.Condition.Complements
import FlowLogic.Proofs.Condition.Mirrored
import FlowLogic.Proofs.Condition.Presence
import FlowLogic.Proofs.Definition.NumberText
import FlowLogic.Proofs.Sandbox.Arithmetic
import FlowLogic.Proofs.Config.Verification
import FlowLogic.Proofs.Sandbox.Failures
import FlowLogic.Proofs.Sandbox.Pieces
import FlowLogic.Proofs.Sandbox.Extremes
