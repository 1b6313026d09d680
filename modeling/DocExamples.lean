import DocExamples.About
import DocExamples.Evaluator.Table
import DocExamples.Json.Reader
import DocExamples.LogLevel
import DocExamples.Main
import DocExamples.Proofs.BlankLines
import DocExamples.Proofs.CutLines
import DocExamples.Proofs.DeeperLines
import DocExamples.Proofs.DocumentGap
import DocExamples.Proofs.DocumentSources
import DocExamples.Proofs.DocumentTranscript
import DocExamples.Proofs.EncodedText
import DocExamples.Proofs.ExcludedUnits
import DocExamples.Proofs.ExpectationTexts
import DocExamples.Proofs.ExpectedLines
import DocExamples.Proofs.ExtractionFaults
import DocExamples.Proofs.FailureReports
import DocExamples.Proofs.FenceLines
import DocExamples.Proofs.GroupPlaces
import DocExamples.Proofs.HiddenPrompts
import DocExamples.Proofs.JobPayloads
import DocExamples.Proofs.JoinedSources
import DocExamples.Proofs.LineLoops
import DocExamples.Proofs.Listings
import DocExamples.Proofs.MarginCuts
import DocExamples.Proofs.MarginFaults
import DocExamples.Proofs.NumberedPrompts
import DocExamples.Proofs.Promises
import DocExamples.Proofs.PromptsInTurn
import DocExamples.Proofs.RenderedBlocks
import DocExamples.Proofs.RunCalls
import DocExamples.Proofs.RunLines
import DocExamples.Proofs.RunOrder
import DocExamples.Proofs.Selections
import DocExamples.Proofs.TranscriptLoops
import DocExamples.Proofs.UnitRequests
import DocExamples.Tool
