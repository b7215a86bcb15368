import ActionBridge.Main
import ActionBridge.Proofs.BaseUrls
import ActionBridge.Proofs.DryRuns
import ActionBridge.Proofs.ExpressionPrinting
import ActionBridge.Proofs.FailureEnvelope
import ActionBridge.Proofs.MappingFailures
import ActionBridge.Proofs.ReadAfterWrite
import ActionBridge.Proofs.ReplyFrame
import ActionBridge.Proofs.ReplyProjection
import ActionBridge.Proofs.ReplyReplay
import ActionBridge.Proofs.SandboxIsolation
import ActionBridge.Proofs.StatusSpelling
import ActionBridge.Proofs.EncodedTexts
import ActionBridge.Proofs.AddedSegments
import ActionBridge.Proofs.FormFields
import ActionBridge.Proofs.RequestParts
import ActionBridge.Proofs.RequestPaths
import ActionBridge.Proofs.FilledTemplates
import ActionBridge.Proofs.RequestQueries
import ActionBridge.Proofs.RequestTemplates
import ActionBridge.Proofs.MergedEntries
import ActionBridge.Proofs.NestedWrites
import ActionBridge.Proofs.FanOut
import ActionBridge.Proofs.RepeatedGroups
import ActionBridge.Proofs.RefusedWrites
import ActionBridge.Proofs.FailureLocations
import ActionBridge.Proofs.PathDisplay
import ActionBridge.Proofs.SelectorMeaning
import ActionBridge.Proofs.HeaderCase
import ActionBridge.Proofs.SplitTexts
import ActionBridge.Proofs.Retries
import ActionBridge.Proofs.RuleDirectories
import ActionBridge.Proofs.IntegerSums
import ActionBridge.Proofs.VisitedLeaves
import ActionBridge.Proofs.LocationStacks
import ActionBridge.Proofs.MappedTemplates
import ActionBridge.Proofs.JoinedHeaders
