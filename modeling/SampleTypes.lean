import SampleTypes.Settings
import SampleTypes.Text.Printable
import SampleTypes.Text.Quoted
import SampleTypes.Text.TitleCase
import SampleTypes.TypeExpr.Union
import SampleTypes.TypeName
import SampleTypes.TypeExpr.Draft
import SampleTypes.Session
import SampleTypes.Json.Reader
import SampleTypes.Text.Utf8
import SampleTypes.Sample.Sameness
import SampleTypes.Text.Integer
import SampleTypes.CommandLine.Arguments
import SampleTypes.CommandLine.Outcome
import SampleTypes.Main
import SampleTypes.Number.Notation
import SampleTypes.Typing.Faceted
import SampleTypes.Proofs.Termination
import SampleTypes.Proofs.Layout
import SampleTypes.Proofs.Tokens
import SampleTypes.Proofs.Grammar
import SampleTypes.Proofs.Lexing
import SampleTypes.Proofs.Reading
import SampleTypes.Proofs.FunctionScope
import SampleTypes.Proofs.Unambiguous
import SampleTypes.Proofs.Variants
import SampleTypes.Proofs.Building
import SampleTypes.Proofs.Entries
import SampleTypes.Proofs.InferredTypes
import SampleTypes.Proofs.Failure
import SampleTypes.Proofs.InferredTexts
import SampleTypes.Proofs.Leaves
import SampleTypes.Proofs.BareContainers
import SampleTypes.Proofs.FacetedFailure
import SampleTypes.Proofs.Hereditary
import SampleTypes.Proofs.FacetedTypes
import SampleTypes.Proofs.Circularity
import SampleTypes.Proofs.FacetedCycles
import SampleTypes.Proofs.Indenting
import SampleTypes.Proofs.Deepening
import SampleTypes.Proofs.InferredDepths
import SampleTypes.Proofs.Inhabitation
import SampleTypes.Proofs.FacetedWorlds
import SampleTypes.Proofs.Soundness
import SampleTypes.Proofs.Arrangement
import SampleTypes.Proofs.Widening
import SampleTypes.Proofs.Canonical
import SampleTypes.Proofs.MemberOrder
import SampleTypes.Proofs.Restyling
import SampleTypes.Proofs.Conservation
import SampleTypes.Proofs.Classification
import SampleTypes.Proofs.FacetedClasses
import SampleTypes.Proofs.Placement
import SampleTypes.Proofs.Interchange
import SampleTypes.Proofs.SetOrder
import SampleTypes.Proofs.InferredPlaces
import SampleTypes.Proofs.WellMade
import SampleTypes.Proofs.CollectedSamples
import SampleTypes.Proofs.Literals
import SampleTypes.Proofs.Totality
import SampleTypes.Proofs.Unfolding
import SampleTypes.Proofs.Sharing
import SampleTypes.Proofs.SessionSteps
import SampleTypes.Proofs.WriteOnce
import SampleTypes.Proofs.Overriding
import SampleTypes.Proofs.SessionSettings
import SampleTypes.Proofs.MergedShapes
import SampleTypes.Proofs.AddedSamples
import SampleTypes.Proofs.ModeAgreement
import SampleTypes.Proofs.Contributions
import SampleTypes.Proofs.Rearrangement
import SampleTypes.Proofs.LineBreaks
import SampleTypes.Proofs.PropertyOrder
import SampleTypes.Proofs.DenotedNames
import SampleTypes.Proofs.ObservedVariants
import SampleTypes.Proofs.Refusals
import SampleTypes.Proofs.TypeNames
