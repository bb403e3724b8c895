import HotspotGovernor.Intervention

namespace HotspotGovernor.Decisions

open Foundation Topology Evidence Detection Detect Intervention

structure Metrics where
  framesReceived : UInt64 := 0
  framesAccepted : UInt64 := 0
  framesRejected : UInt64 := 0
  framesDuplicate : UInt64 := 0
  framesStale : UInt64 := 0
  framesMalformed : UInt64 := 0
  bytesReceived : UInt64 := 0
  publisherDeaths : UInt64 := 0
  epochAdvances : UInt64 := 0
  evaluations : UInt64 := 0
  hotspotsConfirmed : UInt64 := 0
  candidatesObserved : UInt64 := 0
  interventionsPlanned : UInt64 := 0
  interventionsSuppressed : UInt64 := 0
  escalations : UInt64 := 0
  journalAppends : UInt64 := 0
  recoveries : UInt64 := 0
  rejectedStaleEpoch : UInt64 := 0
  rejectedStaleGeneration : UInt64 := 0
  rejectedStaleIncarnation : UInt64 := 0
  deriving DecidableEq

def count (counter : UInt64) (delta : UInt64 := 1) : UInt64 := satAdd counter delta

structure Decision where
  assessment : FabricAssessment := {}
  plan : InterventionPlan := {}
  evaluatedAt : Millis := kNoTime
  binding : EvidenceBinding := {}

structure Engine where
  tracker : SaturationTracker := default
  metrics : Metrics := {}
  evaluations : UInt64 := 0

namespace Engine

/-- The deterministic pass itself, and the state it leaves in the tracker it was given. -/
def evaluate (input : DecisionInput) : Decision × Option SaturationTracker :=
  let outcome := detect input
  ({ assessment := outcome.1
     plan := planInterventions outcome.1 input.topology input.capacity input.policy input.now
     evaluatedAt := input.now
     binding := outcome.1.binding }, outcome.2)

def account (engine : Engine) (decision : Decision) : Engine :=
  let m := engine.metrics
  { engine with
    evaluations := engine.evaluations + 1
    metrics :=
      { m with
        evaluations := count m.evaluations
        hotspotsConfirmed := count m.hotspotsConfirmed (UInt64.ofNat decision.assessment.hotspots.length)
        candidatesObserved :=
          count m.candidatesObserved (UInt64.ofNat decision.assessment.candidates.length)
        interventionsPlanned := count m.interventionsPlanned (UInt64.ofNat decision.plan.intents.length)
        interventionsSuppressed :=
          count m.interventionsSuppressed (UInt64.ofNat decision.plan.suppressed.length)
        escalations := decision.plan.intents.foldl
          (fun n intent ↦ if intent.escalation then count n else n) m.escalations } }

/-- One evaluation on whatever tracker the input points to. -/
def decide (engine : Engine) (input : DecisionInput) : Decision × Option SaturationTracker × Engine :=
  let outcome := evaluate input
  (outcome.1, outcome.2, engine.account outcome.1)

def decideTracked (engine : Engine) (input : DecisionInput) : Decision × Engine :=
  let outcome := engine.decide { input with tracker := some engine.tracker }
  (outcome.1, { outcome.2.2 with tracker := outcome.2.1.getD engine.tracker })

def reset (engine : Engine) : Engine := { engine with tracker := default, evaluations := 0 }

end Engine

end HotspotGovernor.Decisions
