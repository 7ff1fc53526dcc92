import MsgBindings.Main
import MsgBindings.Proofs.FieldsOfLines
import MsgBindings.Proofs.EnumerationValues
import MsgBindings.Proofs.Gathering
import MsgBindings.Proofs.Overflow
import MsgBindings.Proofs.FileTrees
import MsgBindings.Proofs.CodeEndings
import MsgBindings.Proofs.ModuleNames
import MsgBindings.Proofs.WrittenFiles
import MsgBindings.Proofs.ErrorLines
import MsgBindings.Proofs.IdentifierClashes
import MsgBindings.Proofs.VariantNames
import MsgBindings.Proofs.SoundMessages
import MsgBindings.Proofs.EmittedNames
import MsgBindings.Proofs.InputOrder
import MsgBindings.Proofs.StandardNames
import MsgBindings.Proofs.TypeReading
import MsgBindings.Proofs.References
import MsgBindings.Proofs.MemberTypes
import MsgBindings.Proofs.SiblingPaths
import MsgBindings.Proofs.LiteralTokens
import MsgBindings.Target.Expression
import MsgBindings.Target.ValueText
import MsgBindings.Proofs.ExpressionReading
import MsgBindings.Proofs.GenerationOutcome
import MsgBindings.Proofs.RunFaults
import MsgBindings.Proofs.TypedMessages
import MsgBindings.Proofs.BareReading
import MsgBindings.Proofs.Uncommented
import MsgBindings.Proofs.EmittedItems
import MsgBindings.Proofs.LineByLine
import MsgBindings.Proofs.JoinedDefinitions
import MsgBindings.Proofs.IntegerLiterals
import MsgBindings.Proofs.PrintedMessages
import MsgBindings.Proofs.TypeSpellings
import MsgBindings.Proofs.QuotedStrings
import MsgBindings.Proofs.BlockEndings
import MsgBindings.Proofs.SharedSegments
import MsgBindings.Proofs.DefaultDerives
import MsgBindings.Proofs.ExternalPaths
import MsgBindings.Proofs.Registrations
import MsgBindings.Proofs.UnboundedTypes
import MsgBindings.Proofs.StringLiterals
import MsgBindings.Proofs.ValidIdentifiers
import MsgBindings.Proofs.LeadingComments
import MsgBindings.Proofs.ReachedGroups
