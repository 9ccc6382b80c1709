import Rollout.Plan.Dump
import Rollout.Status.Reading
import Rollout.Engine.Run
import Rollout.PlanFile.Reading
import Rollout.PlanFile.Deployment
import Rollout.Rehearsal.Script
import Rollout.Text.Lines
import Rollout.Shell.Directory
import Rollout.Shell.Reading
import Rollout.Shell.Glob
import Rollout.Shell.Run
import Rollout.Program
import Rollout.Main
import Rollout.Proofs.Order.Elements
import Rollout.Proofs.Order.Series
import Rollout.Proofs.Progress.Attention
import Rollout.Proofs.Order.Bodies
import Rollout.Proofs.Order.Finality
import Rollout.Proofs.Progress.Defects
import Rollout.Proofs.Progress.Termination
import Rollout.Proofs.Plan.Operations
import Rollout.Proofs.Relation.Conjunction
import Rollout.Proofs.Order.Deadline
import Rollout.Proofs.Outcome.Summary
import Rollout.Proofs.Plan.Goals
import Rollout.Proofs.PlanFile.Elements
import Rollout.Proofs.Outcome.Fates
import Rollout.Proofs.Order.Mirroring
import Rollout.Proofs.Plan.Calls
import Rollout.Proofs.Plan.Account
import Rollout.Proofs.Plan.Contraction
import Rollout.Proofs.Status.Histogram
import Rollout.Proofs.Progress.Wakeups
import Rollout.Proofs.Progress.Permits
import Rollout.Proofs.Plan.CycleReport
import Rollout.Proofs.Plan.Completion
import Rollout.Proofs.PlanFile.Acceptance
import Rollout.Proofs.Progress.Polls
import Rollout.Proofs.Plan.Grouping
import Rollout.Proofs.Relation.Footprint
import Rollout.Proofs.Relation.Evaluation
import Rollout.Proofs.Relation.Diagnostics
import Rollout.Proofs.Relation.PendingCount
import Rollout.Proofs.Duration
import Rollout.Proofs.Plan.DumpOrder
