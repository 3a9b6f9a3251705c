import ApiComponents.Main
import ApiComponents.OpenApi.Reading
import ApiComponents.Proofs.Entries
import ApiComponents.Proofs.Traversal
import ApiComponents.Proofs.DeclarationRuns
import ApiComponents.Proofs.SchemeRuns
import ApiComponents.Proofs.CaseImages
import ApiComponents.Proofs.LetterCases
import ApiComponents.Proofs.SchemaNames
import ApiComponents.Proofs.WordCuts
import ApiComponents.Proofs.NameSegments
import ApiComponents.Proofs.PlainNames
import ApiComponents.Proofs.RequiredKeys
import ApiComponents.Proofs.JsonPointers
import ApiComponents.Proofs.SchemaPointers
import ApiComponents.Proofs.Unrecognized
import ApiComponents.Proofs.Collisions
import ApiComponents.Proofs.EarlierStops
import ApiComponents.Proofs.Warnings
import ApiComponents.Proofs.Erasure
import ApiComponents.Proofs.FirstFailure
import ApiComponents.Proofs.Security
import ApiComponents.Proofs.Summaries
import ApiComponents.Proofs.SchemaIdentity
import ApiComponents.Proofs.Descriptions
import ApiComponents.Proofs.HeldTrees
import ApiComponents.Proofs.NumberTexts
import ApiComponents.Proofs.NumberRanges
import ApiComponents.Proofs.ReaderInvariants
import ApiComponents.Proofs.TreeBounds
import ApiComponents.Proofs.YamlTrees
import ApiComponents.Proofs.TreeReading
import ApiComponents.Proofs.JsonTexts
import ApiComponents.Proofs.LoadedTrees
import ApiComponents.Proofs.Members
import ApiComponents.Proofs.FragmentReading
import ApiComponents.Proofs.NormalForms
import ApiComponents.Proofs.Parts
import ApiComponents.Proofs.TypeNodes
import ApiComponents.Proofs.TaggedObjects
import ApiComponents.Proofs.LocalMismatch
import ApiComponents.Proofs.NormalReading
import ApiComponents.Proofs.DescriptionLayouts
import ApiComponents.Proofs.KeptTags
import ApiComponents.Proofs.KeptValues
import ApiComponents.Proofs.SavedTrees
import ApiComponents.Proofs.Reloading
import ApiComponents.Proofs.FileTrees
import ApiComponents.Proofs.CommandRuns
import ApiComponents.Proofs.Arguments
import ApiComponents.Proofs.Validation
import ApiComponents.Proofs.CommandEffects
import ApiComponents.Proofs.FormatAgreement
