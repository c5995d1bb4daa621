import CodeSurvey.Command.Verbosity
import CodeSurvey.Main
import CodeSurvey.Proofs.Model.Contribution
import CodeSurvey.Proofs.Archive.Stored
import CodeSurvey.Proofs.Intake.Ceilings
import CodeSurvey.Proofs.Intake.Losses
import CodeSurvey.Proofs.Intake.Sandbox
import CodeSurvey.Proofs.Intake.Tally
import CodeSurvey.Proofs.Run
import CodeSurvey.Proofs.Survey.Sequential
import CodeSurvey.Proofs.Intake.Allowance
import CodeSurvey.Proofs.Intake.Outcomes
import CodeSurvey.Proofs.Intake.Truncation
import CodeSurvey.Proofs.Intake.Rejection
import CodeSurvey.Proofs.FileTree.Commuting
import CodeSurvey.Proofs.Intake.Apart
import CodeSurvey.Proofs.Intake.Reordering
import CodeSurvey.Proofs.Analyzer.Designs
import CodeSurvey.Proofs.Survey.Hits
import CodeSurvey.Proofs.Model.Merging
import CodeSurvey.Proofs.Survey.Relevance
import CodeSurvey.Proofs.Intake.Separators
import CodeSurvey.Proofs.Pattern.Search
import CodeSurvey.Proofs.Text.Slices
import CodeSurvey.Proofs.Analyzer.Checked.Compiled
import CodeSurvey.Proofs.Analyzer.Checked.Scripted
import CodeSurvey.Proofs.Analyzer.Unstopped
import CodeSurvey.Proofs.Survey.Frameworks
import CodeSurvey.Proofs.Analyzer.Manifests
import CodeSurvey.Proofs.Survey.Unpacked
import CodeSurvey.Proofs.Command.Repeating
import CodeSurvey.Proofs.Intake.Calls
import CodeSurvey.Proofs.Intake.Chunks
import CodeSurvey.Proofs.Intake.Resolution
import CodeSurvey.Proofs.Analyzer.PackageImports
import CodeSurvey.Proofs.Model.Modules
import CodeSurvey.Proofs.Analyzer.Links
import CodeSurvey.Proofs.Analyzer.Platform
import CodeSurvey.Proofs.Analyzer.CrateManifest
import CodeSurvey.Proofs.Model.Growth
import CodeSurvey.Proofs.Survey.Naming
import CodeSurvey.Proofs.Intake.OutputPath
import CodeSurvey.Proofs.Config.Tightening
import CodeSurvey.Proofs.Analyzer.LineScans
import CodeSurvey.Proofs.Size
import CodeSurvey.Proofs.SnakeCase
import CodeSurvey.Proofs.SourceUnit
