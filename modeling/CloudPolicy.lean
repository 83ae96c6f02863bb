import CloudPolicy.Main
import CloudPolicy.Pool
import CloudPolicy.Proofs.ActionEffects
import CloudPolicy.Proofs.Attribution
import CloudPolicy.Proofs.Bystanders
import CloudPolicy.Proofs.Compiled
import CloudPolicy.Proofs.DateText
import CloudPolicy.Proofs.Effects
import CloudPolicy.Proofs.Judgement
import CloudPolicy.Proofs.KeptTags
import CloudPolicy.Proofs.Marks
import CloudPolicy.Proofs.RunEffects
import CloudPolicy.Proofs.Selection
import CloudPolicy.Proofs.TagWrites
import CloudPolicy.Proofs.Tampering
import CloudPolicy.Proofs.Documents
import CloudPolicy.Proofs.Placement
import CloudPolicy.Proofs.NumberText
import CloudPolicy.Proofs.Rereading
import CloudPolicy.Proofs.AccessPolicies
import CloudPolicy.Proofs.Revocation
import CloudPolicy.Proofs.Interleaving
import CloudPolicy.Proofs.DryRun
import CloudPolicy.Proofs.InstantText
import CloudPolicy.Proofs.Records
import CloudPolicy.Proofs.Snapshots
import CloudPolicy.Proofs.Findings
import CloudPolicy.Proofs.FilterOrder
import CloudPolicy.Proofs.Remediation
import CloudPolicy.Cloud.Operation
import CloudPolicy.Proofs.Atomicity
import CloudPolicy.Proofs.TagCalls
import CloudPolicy.Proofs.TagLimits
import CloudPolicy.Proofs.LogBindings
import CloudPolicy.Proofs.SealedRuns
import CloudPolicy.Proofs.Reports
import CloudPolicy.Proofs.Complements
import CloudPolicy.Proofs.Failures
import CloudPolicy.Proofs.Batching
import CloudPolicy.Proofs.TagSpellings
import CloudPolicy.Proofs.AttributionReports
import CloudPolicy.Proofs.ReportedTags
import CloudPolicy.Proofs.Redelivery
import CloudPolicy.Proofs.AllowedPlacement
import CloudPolicy.Proofs.IrrelevantGroups
import CloudPolicy.Proofs.Rewrites
import CloudPolicy.Proofs.Trimming
import CloudPolicy.Proofs.Normalizing
import CloudPolicy.Proofs.LooseOrder
import CloudPolicy.Proofs.StrippedPolicies
import CloudPolicy.Proofs.RetainedVersions
import CloudPolicy.Proofs.IntegerOptions
import CloudPolicy.Proofs.ReplacedGroups
import CloudPolicy.Proofs.AttachedResources
import CloudPolicy.Proofs.Deletions
import CloudPolicy.Proofs.LogTransfers
import CloudPolicy.Proofs.AlteredEntries
import CloudPolicy.Proofs.FailingResources
import CloudPolicy.Proofs.EmptyBatches
import CloudPolicy.Proofs.JsonGrammar
import CloudPolicy.Proofs.DocumentPlaceholders
import CloudPolicy.Proofs.StructuredNotices
import CloudPolicy.Proofs.LooseEquality
import CloudPolicy.Proofs.DottedKeys
import CloudPolicy.Proofs.TitleCase
