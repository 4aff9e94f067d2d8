import StructSchema.Main
import StructSchema.Proofs.AccountedRun
import StructSchema.Proofs.Accounting
import StructSchema.Proofs.ArtifactFrame
import StructSchema.Proofs.BlockSearch
import StructSchema.Proofs.ConversionAccount
import StructSchema.Proofs.CutBody
import StructSchema.Proofs.DirectoryListing
import StructSchema.Proofs.DistinctKeys
import StructSchema.Proofs.ExitCodes
import StructSchema.Proofs.FewerFiles
import StructSchema.Proofs.FieldReading
import StructSchema.Proofs.FileOutcomes
import StructSchema.Proofs.FoundBlocks
import StructSchema.Proofs.Lexing
import StructSchema.Proofs.LineEnds
import StructSchema.Proofs.LineIndependence
import StructSchema.Proofs.LowerCase
import StructSchema.Proofs.MadeDirectories
import StructSchema.Proofs.MemberLines
import StructSchema.Proofs.NormalForm
import StructSchema.Proofs.Outcome
import StructSchema.Proofs.OutputNames
import StructSchema.Proofs.PlainFields
import StructSchema.Proofs.PrintedBody
import StructSchema.Proofs.PrintedClass
import StructSchema.Proofs.QuotedKeys
import StructSchema.Proofs.ReadableClass
import StructSchema.Proofs.RegistryHistory
import StructSchema.Proofs.RepeatedNames
import StructSchema.Proofs.RepeatedRun
import StructSchema.Proofs.SavedArtifacts
import StructSchema.Proofs.Scanning
import StructSchema.Proofs.SchemaText
import StructSchema.Proofs.SettingsFaults
import StructSchema.Proofs.SettingsPrecedence
import StructSchema.Proofs.Statements
import StructSchema.Proofs.StorePaths
import StructSchema.Proofs.SumOfInputs
import StructSchema.Proofs.TagGrammar
import StructSchema.Proofs.TagNames
import StructSchema.Proofs.TagPairs
import StructSchema.Proofs.TextsApart
import StructSchema.Proofs.TokenPlaces
import StructSchema.TemplateLibrary
import StructSchema.Proofs.SettingsStable
import StructSchema.Proofs.DeclaredNames
import StructSchema.Proofs.OptionLayers
import StructSchema.Proofs.GivenOptions
