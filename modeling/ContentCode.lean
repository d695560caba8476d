import ContentCode.Main
import ContentCode.Bits.Writer
import ContentCode.Proofs.HasherSplit
import ContentCode.Proofs.Assembly
import ContentCode.Proofs.ChunkPartition
import ContentCode.Proofs.CodeCanonical
import ContentCode.Proofs.StreamedSum
import ContentCode.Proofs.TextWhiteSpace
import ContentCode.Proofs.CharacterClasses
import ContentCode.Proofs.FinalSigma
import ContentCode.Proofs.BitMajority
import ContentCode.Proofs.CodePrefix
import ContentCode.Proofs.HasherLifeCycle
import ContentCode.Proofs.Reassembly
import ContentCode.Proofs.UnitSequence
import ContentCode.Proofs.InputErrors
import ContentCode.Proofs.UnitGrammar
import ContentCode.Proofs.AssemblyDomain
import ContentCode.Proofs.GeneratorDomain
import ContentCode.Proofs.CodePointSets
import ContentCode.Proofs.DecompositionTables
import ContentCode.Proofs.CompositeTables
import ContentCode.Proofs.MarkOrder
import ContentCode.Proofs.NormalForm
import ContentCode.Proofs.NormalPrefix
import ContentCode.Proofs.NormalSpaces
import ContentCode.Proofs.TextLines
import ContentCode.Proofs.DisplayedText
import ContentCode.Proofs.Titles
import ContentCode.Proofs.NormalDisplay
import ContentCode.Proofs.NormalCleaning
import ContentCode.Proofs.MetaReproduction
import ContentCode.Proofs.AssemblyInputs
import ContentCode.Proofs.ChunkSizes
import ContentCode.Proofs.ChunkParameters
import ContentCode.Proofs.WriterForm
import ContentCode.Proofs.PieceReading
import ContentCode.Proofs.CodeSpelling
import ContentCode.Proofs.CompositeBody
import ContentCode.Proofs.SimilarCharacters
import ContentCode.Proofs.CollapsedText
import ContentCode.Proofs.JsonNumbers
import ContentCode.Proofs.JsonTokens
import ContentCode.Proofs.JsonValues
import ContentCode.Proofs.JsonForm
import ContentCode.Proofs.MetaDocuments
import ContentCode.Proofs.CosineTransform
import ContentCode.Proofs.MetaUrls
import ContentCode.Proofs.MetaParts
import ContentCode.Proofs.FeatureMinima
import ContentCode.Proofs.TextLimits
import ContentCode.Proofs.VisibleLines
import ContentCode.Proofs.MetaFields
import ContentCode.Proofs.SlidingWindows
import ContentCode.Proofs.FrameSets
import ContentCode.Proofs.EvenParts
import ContentCode.Proofs.BalancedParts
import ContentCode.Proofs.FeatureOrder
import ContentCode.Proofs.UnitMixture
import ContentCode.Proofs.GearHash
import ContentCode.Proofs.FirstTrigger
import ContentCode.Proofs.VarnibbleForm
import ContentCode.Proofs.PlainArguments
import ContentCode.Proofs.PrintedValues
import ContentCode.Proofs.PrintedReports
import ContentCode.Proofs.CommandAgreement
