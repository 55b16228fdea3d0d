import ComponentScaffold.Main
import ComponentScaffold.Proofs.CommandLine.Agreement
import ComponentScaffold.Proofs.CommandLine.Runs
import ComponentScaffold.Proofs.Config.RoundTrip
import ComponentScaffold.Proofs.Generator.ForcedRetry
import ComponentScaffold.Proofs.Namespace.DottedPath
import ComponentScaffold.Proofs.Process.ShellWords
import ComponentScaffold.Proofs.Project.StartDirectory
import ComponentScaffold.Proofs.Scaffold.BaseClass
import ComponentScaffold.Proofs.Scaffold.FailedRun
import ComponentScaffold.Proofs.Scaffold.Sequence
import ComponentScaffold.Proofs.Scaffold.WithoutViewModel
import ComponentScaffold.Proofs.Source.FilledNamespace
import ComponentScaffold.Proofs.Source.LeadingComment
import ComponentScaffold.Proofs.Source.LeftmostRegion
import ComponentScaffold.Proofs.Source.ReadableNames
import ComponentScaffold.Proofs.Source.SecondRun
