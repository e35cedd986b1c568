import PageScript.Main
import PageScript.Browser.Scripted
import PageScript.Generation.Scripted
import PageScript.Selector.Kind
import PageScript.Toolbox
import PageScript.Proofs.RunContainment
import PageScript.Proofs.CancelledRun
import PageScript.Proofs.SharedFiles
import PageScript.Proofs.PageSessions
import PageScript.Proofs.SortedScenarios
import PageScript.Proofs.SourceEncoding
import PageScript.Proofs.DistinctCalls
import PageScript.Proofs.RemarklessCode
import PageScript.Proofs.ConsistentResults
import PageScript.Proofs.IdleSteps
import PageScript.Proofs.IndependentScenarios
import PageScript.Proofs.AttributeRoundTrip
import PageScript.Proofs.ReadOnlyTools
import PageScript.Proofs.BrowserHandles
import PageScript.Proofs.RecordRoundTrip
import PageScript.Proofs.CandidateLocators
import PageScript.Proofs.CoherentOutcomes
import PageScript.Proofs.SettledTargets
import PageScript.Proofs.SuggestedSelectors
import PageScript.Proofs.AnnotatedSteps
import PageScript.Proofs.CalledMethods
import PageScript.Proofs.EmbeddedJson
import PageScript.Proofs.SuiteFiles
import PageScript.Proofs.SpelledNames
import PageScript.Proofs.NumberedTests
import PageScript.Proofs.ListedDrafts
import PageScript.Proofs.AnsweredCalls
import PageScript.Proofs.NestedBrackets
import PageScript.Proofs.FencedJson
import PageScript.Proofs.EscapedValues
import PageScript.Proofs.SlugRuns
import PageScript.Proofs.FilledLocators
import PageScript.Proofs.FreeNames
