import WaterCare.Engine.Executable
import WaterCare.Engine.Unambiguous
import WaterCare.Runtime.Outcomes
import WaterCare.Runtime.History
import WaterCare.Runtime.Updates
import WaterCare.Runtime.Finalization
import WaterCare.Runtime.Retries
import WaterCare.Runtime.Prechecks
import WaterCare.Runtime.Deadlocks
import WaterCare.Runtime.Summary
import WaterCare.Runtime.Pending
import WaterCare.Workflow.Progress
import WaterCare.Machine.Journal
import WaterCare.Runtime.Analyses
import WaterCare.Runtime.Served
import WaterCare.Runtime.ResumeDispatch
import WaterCare.Runtime.Sessions
import WaterCare.Runtime.Routing
import WaterCare.Runtime.Visible
import WaterCare.Runtime.Projection
import WaterCare.Runtime.SingleUse
import WaterCare.Runtime.Enumeration
import WaterCare.Runtime.Administrators
import WaterCare.Runtime.Lockout
import WaterCare.Service.CauseLedger
import WaterCare.Service.RequestHash
import WaterCare.Engine.Conjunction
import WaterCare.Contract.Survival
import WaterCare.Service.GuardAgreement
import WaterCare.Ai.GuidanceMessageGuard
import WaterCare.Ai.ResumeRegistry
import WaterCare.Ai.CounselorBrief
import WaterCare.Ai.SafetyAlignment
import WaterCare.Client.PlainIntake
import WaterCare.Client.TokenAuthenticator
import WaterCare.Client.OperationKeys
import WaterCare.Ai.SymptomGrounds
import WaterCare.Ai.ReliabilityRouting
import WaterCare.Ai.SingleWorkerRuns
import WaterCare.Workflow.Precedence
import WaterCare.Ai.IndexCorrespondence
import WaterCare.Ai.PipelineEquivalence
import WaterCare.Ai.EvidenceRun
import WaterCare.Service.CareScheduleRuns
import WaterCare.Runtime.Lifecycle
