import PipelineObserver.Config.Environment
import PipelineObserver.Dialogue.Transcript
import PipelineObserver.Main
import PipelineObserver.Proofs.Aggregate.Discovering
import PipelineObserver.Proofs.Aggregate.Interleaving
import PipelineObserver.Proofs.Diagnosis.Completeness
import PipelineObserver.Proofs.Diagnosis.Details
import PipelineObserver.Proofs.Diagnosis.Plugins
import PipelineObserver.Proofs.Logs.Delivery
import PipelineObserver.Proofs.Watch.Course
import PipelineObserver.Rehearsal.Console
import PipelineObserver.Proofs.Runs
import PipelineObserver.Proofs.Watch.Budgets
import PipelineObserver.Proofs.Tracker.Discovery
import PipelineObserver.Proofs.Watch.Items
import PipelineObserver.Proofs.Tracker.Start
import PipelineObserver.Proofs.Transience
import PipelineObserver.Proofs.Tracker.Finish
import PipelineObserver.Proofs.Logs.Attempts
import PipelineObserver.Proofs.Logs.Gates
import PipelineObserver.Proofs.Logs.Following
import PipelineObserver.Proofs.Logs.Ending
import PipelineObserver.Proofs.Logs.Resumption
import PipelineObserver.Proofs.Watch.Triggers
import PipelineObserver.Proofs.Tracker.Agreement
import PipelineObserver.Proofs.Http.Chunks
import PipelineObserver.Proofs.Tracker.Retries
import PipelineObserver.Proofs.Json.RoundTrip
import PipelineObserver.Proofs.Json.Canonical
import PipelineObserver.Proofs.Json.MergePatch
import PipelineObserver.Proofs.Tracker.Patches
import PipelineObserver.Proofs.Logs.Pacing
import PipelineObserver.Proofs.Logs.Collecting
import PipelineObserver.Proofs.Aggregate.Fairness
import PipelineObserver.Proofs.Diagnosis.Fragments
import PipelineObserver.Proofs.Diagnosis.Locality
import PipelineObserver.Proofs.Aggregate.Departures
import PipelineObserver.Proofs.Aggregate.Failures
import PipelineObserver.Proofs.Watch.Exhaustion
import PipelineObserver.Proofs.Logs.Fleeting
import PipelineObserver.Proofs.Diagnosis.Success
import PipelineObserver.Proofs.Resource.Tolerance
import PipelineObserver.Proofs.Tracker.Search
import PipelineObserver.Proofs.Resource.Declarations
import PipelineObserver.Proofs.Aggregate.Results
