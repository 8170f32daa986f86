import ShaderLoom.Bands
import ShaderLoom.Catalog
import ShaderLoom.Compilation
import ShaderLoom.Conversion
import ShaderLoom.Decimal.Fixed
import ShaderLoom.Decimal.Layout
import ShaderLoom.Decimal.Reading
import ShaderLoom.Decimal.Shortest
import ShaderLoom.Diagnostics
import ShaderLoom.Diagnostics.Journal
import ShaderLoom.Emission
import ShaderLoom.Fault
import ShaderLoom.FinalColor
import ShaderLoom.Graph
import ShaderLoom.Helper.Basic
import ShaderLoom.Helper.Rename
import ShaderLoom.Identifier
import ShaderLoom.Listing
import ShaderLoom.Literal
import ShaderLoom.NodeType
import ShaderLoom.Number.Double
import ShaderLoom.Number.Fault
import ShaderLoom.Number.Power
import ShaderLoom.Number.Rounding
import ShaderLoom.Palette
import ShaderLoom.Palette.Arithmetic
import ShaderLoom.Palette.Audio
import ShaderLoom.Palette.Basic
import ShaderLoom.Palette.Color
import ShaderLoom.Palette.Inputs
import ShaderLoom.Palette.Noise
import ShaderLoom.Palette.Output
import ShaderLoom.Palette.Vectors
import ShaderLoom.ParameterType
import ShaderLoom.PortType
import ShaderLoom.Program
import ShaderLoom.Proofs.AddedNodes
import ShaderLoom.Proofs.AllocatedUniforms
import ShaderLoom.Proofs.ArrayConstants
import ShaderLoom.Proofs.ArrayScopes
import ShaderLoom.Proofs.AudioOutputs
import ShaderLoom.Proofs.CallReplacement
import ShaderLoom.Proofs.CharacterClasses
import ShaderLoom.Proofs.ChosenWires
import ShaderLoom.Proofs.CommentedBlocks
import ShaderLoom.Proofs.Compilability
import ShaderLoom.Proofs.ConversionFaults
import ShaderLoom.Proofs.ConvertedLanes
import ShaderLoom.Proofs.DeclaredOutputs
import ShaderLoom.Proofs.DeliveredInputs
import ShaderLoom.Proofs.DenotedLiterals
import ShaderLoom.Proofs.DoubleRounding
import ShaderLoom.Proofs.EmissionAgreement
import ShaderLoom.Proofs.GeneratedNames
import ShaderLoom.Proofs.HelperHeads
import ShaderLoom.Proofs.HelperIsolation
import ShaderLoom.Proofs.HelperPlan
import ShaderLoom.Proofs.HelperTexts
import ShaderLoom.Proofs.InitialValues
import ShaderLoom.Proofs.InsertionOrder
import ShaderLoom.Proofs.KeptHelpers
import ShaderLoom.Proofs.LaneValues
import ShaderLoom.Proofs.LiteralForms
import ShaderLoom.Proofs.MergedDiagnostics
import ShaderLoom.Proofs.Notices
import ShaderLoom.Proofs.Outcomes
import ShaderLoom.Proofs.OutputVariables
import ShaderLoom.Proofs.Placeholders
import ShaderLoom.Proofs.PlannedNames
import ShaderLoom.Proofs.QueryHistory
import ShaderLoom.Proofs.ReadNumbers
import ShaderLoom.Proofs.Refusals
import ShaderLoom.Proofs.Registrations
import ShaderLoom.Proofs.RelabeledNodes
import ShaderLoom.Proofs.RelabeledRequests
import ShaderLoom.Proofs.RenamedHelpers
import ShaderLoom.Proofs.Requests
import ShaderLoom.Proofs.ResolvedTemplates
import ShaderLoom.Proofs.RunOrders
import ShaderLoom.Proofs.SceneAgreement
import ShaderLoom.Proofs.SceneNodes
import ShaderLoom.Proofs.ScopeAgreement
import ShaderLoom.Proofs.ShaderExpressions
import ShaderLoom.Proofs.ShortestDecimals
import ShaderLoom.Proofs.ShownColor
import ShaderLoom.Proofs.SinkChoice
import ShaderLoom.Proofs.SinkWires
import ShaderLoom.Proofs.SwizzledLanes
import ShaderLoom.Proofs.Tables
import ShaderLoom.Proofs.TemplateSegments
import ShaderLoom.Proofs.TextPieces
import ShaderLoom.Proofs.UniformClosure
import ShaderLoom.Proofs.UniformNames
import ShaderLoom.Proofs.WholeWords
import ShaderLoom.Proofs.WireSelection
import ShaderLoom.Proofs.WiredParameters
import ShaderLoom.Proofs.WrittenDecimals
import ShaderLoom.Proofs.WrittenOutputs
import ShaderLoom.Proofs.WrittenValues
import ShaderLoom.Query
import ShaderLoom.Scene
import ShaderLoom.Scope
import ShaderLoom.Session
import ShaderLoom.Settings
import ShaderLoom.Shader
import ShaderLoom.Specialization
import ShaderLoom.Spelling
import ShaderLoom.Swizzle
import ShaderLoom.Table
import ShaderLoom.Template.Basic
import ShaderLoom.Template.References
import ShaderLoom.Template.Render
import ShaderLoom.Text.Blank
import ShaderLoom.Text.Case
import ShaderLoom.Text.Digit
import ShaderLoom.Text.Lines
import ShaderLoom.Text.Name
import ShaderLoom.Text.Printable
import ShaderLoom.Text.Quoted
import ShaderLoom.Text.Ranges
import ShaderLoom.Text.Sorted
import ShaderLoom.Text.Start
import ShaderLoom.Text.Word
import ShaderLoom.Traced
import ShaderLoom.Uniform.Allocation
import ShaderLoom.Uniform.Record
import ShaderLoom.Value
import ShaderLoom.Value.Grid
import ShaderLoom.Value.Numeric
import ShaderLoom.Value.Written
import ShaderLoom.Variables
import ShaderLoom.WireMode
