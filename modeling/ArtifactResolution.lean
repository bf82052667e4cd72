import ArtifactResolution.ArtifactCollector
import ArtifactResolution.FileCollector
import ArtifactResolution.Json.Artifacts
import ArtifactResolution.Json.Settings
import ArtifactResolution.Settings.Loading
import ArtifactResolution.Proofs.Graph.SortedNodes
import ArtifactResolution.Proofs.Graph.StrongComponents
import ArtifactResolution.Proofs.Graph.Construction
import ArtifactResolution.Proofs.Graph.WalkLists
import ArtifactResolution.Proofs.Graph.FrameCalls
import ArtifactResolution.Proofs.Graph.WhitePaths
import ArtifactResolution.Proofs.ArtifactCollector.Buildable
import ArtifactResolution.Proofs.ArtifactCollector.DependencyOrder
import ArtifactResolution.Proofs.ArtifactCollector.Admission
import ArtifactResolution.Proofs.ArtifactCollector.Refusal
import ArtifactResolution.Proofs.ArtifactCollector.Integrity
import ArtifactResolution.Proofs.ArtifactCollector.Arrangement
import ArtifactResolution.Proofs.ArtifactCollector.Redelivery
import ArtifactResolution.Proofs.ArtifactCollector.VisitOrder
import ArtifactResolution.Proofs.ResolvedSet.Equality
import ArtifactResolution.Proofs.ArtifactSet.Snapshot
import ArtifactResolution.Proofs.Selection.SameContent
import ArtifactResolution.Proofs.Selection.Filtering
import ArtifactResolution.Proofs.Selection.WithoutCache
import ArtifactResolution.Proofs.Selection.FilesWithoutCache
import ArtifactResolution.Proofs.Selection.FilesByType
import ArtifactResolution.Proofs.LiveVariants
import ArtifactResolution.Proofs.Fanout
import ArtifactResolution.Proofs.FileCollector.RootVisits
import ArtifactResolution.Proofs.OneWalk
import ArtifactResolution.Proofs.Resolution
import ArtifactResolution.Proofs.Json.RoundTrip
import ArtifactResolution.Proofs.Settings.FieldByField
import ArtifactResolution.Proofs.Selection.SpelledFiles
import ArtifactResolution.Proofs.NameParsers
import ArtifactResolution.Proofs.Json.ArrayForm
import ArtifactResolution.Proofs.Settings.OwnFile
import ArtifactResolution.Proofs.ArtifactCollector.Regrouping
import ArtifactResolution.Proofs.Selection.Requirements
