import ProtoRules.Json.Printer
import ProtoRules.Number.Reader
import ProtoRules.Plugin.Generate
import ProtoRules.Proofs.Acceptance
import ProtoRules.Proofs.GenerationFaults
import ProtoRules.Proofs.IrrelevantBodies
import ProtoRules.Proofs.JavaAgreement
import ProtoRules.Proofs.JavaClasses
import ProtoRules.Proofs.JavaConstantNames
import ProtoRules.Proofs.KindFit
import ProtoRules.Proofs.LengthBounds
import ProtoRules.Proofs.MergedAlternatives
import ProtoRules.Proofs.NumericOrder
import ProtoRules.Proofs.RenderedFields
import ProtoRules.Proofs.RuleRoundTrip
import ProtoRules.Proofs.Runs
import ProtoRules.Rules.Encode
import ProtoRules.Proofs.ContextChains
import ProtoRules.Proofs.ValueFaults
import ProtoRules.Proofs.Routes
import ProtoRules.Proofs.JsonText
import ProtoRules.Proofs.JsonParts
import ProtoRules.Proofs.DescriptorRoundTrip
import ProtoRules.Proofs.JsonReading
import ProtoRules.Proofs.RequestRoundTrip
import ProtoRules.Proofs.SymbolicPatterns
import ProtoRules.Proofs.SilentFields
import ProtoRules.Proofs.Nanoseconds
import ProtoRules.Proofs.Declarable
import ProtoRules.Proofs.StringLanguage
import ProtoRules.Proofs.MergedBounds
import ProtoRules.Proofs.TimestampLanguage
import ProtoRules.Proofs.DefinedValues
import ProtoRules.Proofs.InjectedErrors
import ProtoRules.Proofs.HeldRules
import ProtoRules.Proofs.NestedDecoding
import ProtoRules.Proofs.DecodedMembers
import ProtoRules.Proofs.EarlyReturns
import ProtoRules.Proofs.NestedPass
import ProtoRules.Proofs.UnknownKinds
import ProtoRules.Proofs.JavaStrings
import ProtoRules.Proofs.Parameters
import ProtoRules.Proofs.JavaUnits
import ProtoRules.Proofs.SnakeCase
import ProtoRules.Proofs.Lookup
import ProtoRules.Proofs.ArtifactPaths
import ProtoRules.Proofs.Declarations
import ProtoRules.Proofs.NameCharacters
import ProtoRules.Proofs.Identifiers
import ProtoRules.Proofs.IdentifierFaults
import ProtoRules.Proofs.BracketedUnits
