import HotspotGovernor.Intervention
import HotspotGovernor.Lib.Lines

namespace HotspotGovernor.Explanation

open Foundation ByteIo Evidence Authority Detection Intervention Lib

structure ExplanationOptions where
  maxLines : ℕ := Limits.kMaxExplanationLines
  maxBytes : ℕ := 16384
  maxPressures : ℕ := 16
  maxNeighbors : ℕ := 8
  maxContributors : ℕ := 8
  includeAuthority : Bool := true

/-- The whole answer: detection leaves the suppressed actions of an assessment empty. -/
structure Assessment extends FabricAssessment where
  suppressed : List SuppressedAction := []

def newline : UInt8 := 10

def note : Bytes := textBytes "... output truncated at the bound"

def kMaxStringBytes : ℕ := 2 ^ 63 - 1

/-- `std::string::resize`, which throws `std::length_error` where it would grow beyond the longest string. -/
def resize (size : ℕ) (text : Bytes) : Option Bytes :=
  if size ≤ text.length then some (text.take size)
  else if size > kMaxStringBytes then none
  else some (text ++ List.replicate (size - text.length) 0)

def sizeSub (a b : ℕ) : ℕ := if b ≤ a then a - b else 2 ^ 64 - (b - a)

structure LineWriter where
  options : ExplanationOptions
  lines : List Bytes := []
  bytes : ℕ := 0
  truncated : Bool := false

namespace LineWriter

def line (writer : LineWriter) (text : Bytes) : LineWriter :=
  if writer.lines.length ≥ writer.options.maxLines then { writer with truncated := true }
  else
    let bounded := text.take Limits.kMaxTextBytes
    let projected := writer.bytes + bounded.length + 1
    if projected > writer.options.maxBytes then { writer with truncated := true }
    else { writer with bytes := projected, lines := writer.lines ++ [bounded] }

def text (writer : LineWriter) : Bytes := (writer.lines.flatMap (· ++ [newline])).dropLast

def mark (out : Bytes) : Bytes := (if out.isEmpty then out else out ++ [newline]) ++ note

def cutBack (out : Bytes) : Option Bytes :=
  match Lines.findLastOf newline out with
  | some last => resize last out
  | none => some out

def finish (writer : LineWriter) : Option Bytes :=
  let out := writer.text
  if !writer.truncated then some out
  else if note.length > writer.options.maxBytes then some (note.take writer.options.maxBytes)
  else
    let reserve := note.length + if out.isEmpty then 0 else 1
    if out.length + reserve > writer.options.maxBytes then
      ((resize (sizeSub writer.options.maxBytes reserve) out).bind cutBack).map mark
    else some (mark out)

end LineWriter

def qualityText : TelemetryQuality → String
  | .unknown | .unnamed _ _ => "unknown"
  | .missing => "missing"
  | .suspect => "suspect"
  | .degraded => "degraded"
  | .healthy => "healthy"

def severityText : Severity → String
  | .none => "none"
  | .low => "low"
  | .moderate => "moderate"
  | .high => "high"
  | .critical => "critical"

def scopeText : CongestionScope → String
  | .unknown => "unknown"
  | .none => "none"
  | .localized => "localized"
  | .regional => "regional"
  | .global => "global"

def causeText : SaturationCause → String
  | .unknown => "unknown"
  | .capacityExhaustion => "capacity-exhaustion"
  | .queueBuildup => "queue-buildup"
  | .bufferExhaustion => "buffer-exhaustion"
  | .microburst => "microburst"
  | .fanInContention => "fan-in-contention"
  | .structuralConvergence => "structural-convergence"

def kindText : MitigationKind → String
  | .none => "none"
  | .flowRelocation => "flow-relocation"
  | .pathRebalance => "path-rebalance"
  | .admissionReduction => "admission-reduction"
  | .ratePacingChange => "rate-pacing-change"
  | .resourceIsolation => "resource-isolation"
  | .escalateGlobalCongestion => "escalate-global-congestion"

def remediationText : RemediationState → String
  | .unknown => "unknown"
  | .eligible => "eligible"
  | .suppressed => "suppressed"
  | .notApplicable => "not-applicable"

def domainText : AuthorityDomain → String
  | .coordinatorEpoch => "coordinator-epoch"
  | .bootIncarnation => "boot-incarnation"
  | .publisherIncarnation => "publisher-incarnation"
  | .topology => "topology"
  | .capacity => "capacity"
  | .signals => "signals"
  | .paths => "paths"
  | .traffic => "traffic"
  | .policy => "policy"
  | .attribution => "attribution"
  | .persistence => "persistence"
  | .mitigationBudget => "mitigation-budget"

def ppmText (ppm : UInt32) : String :=
  let scaled := ppm / 100
  let fraction := scaled % 100
  toString (scaled / 100) ++ "." ++ (if fraction < 10 then "0" else "") ++ toString fraction ++ "%"

def renderGrant (grant : AuthorityGrant) : Bytes :=
  textBytes (domainText grant.domain ++ "=" ++ (if grant.granted then "granted" else "denied")) ++
    if grant.reason.isEmpty then []
    else textBytes "(" ++ (textBytes grant.reason).take Limits.kMaxReasonBytes ++ textBytes ")"

def renderAuthority (authority : AuthorityVector) : Bytes :=
  authority.grants.foldl
    (fun out grant ↦ (if out.isEmpty then out else out ++ textBytes " ") ++ renderGrant grant) []

def renderBinding (binding : EvidenceBinding) : List Bytes :=
  [textBytes ("binding: topology=" ++ StrongId.hex binding.topology ++
    " gen=" ++ toString binding.topologyGeneration.value ++
    " capacity=" ++ StrongId.hex binding.capacity ++
    " gen=" ++ toString binding.capacityGeneration.value ++
    " signals=" ++ StrongId.hex binding.signals ++
    " gen=" ++ toString binding.signalsGeneration.value ++
    " paths=" ++ StrongId.hex binding.paths ++
    " gen=" ++ toString binding.pathGeneration.value ++
    " traffic=" ++ StrongId.hex binding.traffic ++
    " gen=" ++ toString binding.trafficGeneration.value ++
    " policy=" ++ StrongId.hex binding.policy ++
    " gen=" ++ toString binding.policyGeneration.value)]

def spacedIds {tag : IdTag} (ids : List (StrongId tag)) : String :=
  String.join (ids.map fun id ↦ " " ++ StrongId.hex id)

def contributorText (contributor : Contributor) : String :=
  " flow=" ++ StrongId.hex contributor.flow ++ "/path=" ++ StrongId.hex contributor.path ++ "@" ++
    ppmText contributor.sharePpm

def renderHotspot (hotspot : Hotspot) (confirmed : Bool) (options : ExplanationOptions) : List Bytes :=
  [textBytes ((if confirmed then "hotspot " else "candidate ") ++ hotspot.key ++
      " scope=" ++ scopeText hotspot.scope ++
      " cause=" ++ causeText hotspot.cause ++
      " severity=" ++ severityText hotspot.severity ++
      " persistence_ms=" ++ toString hotspot.persistenceMs ++
      " samples=" ++ toString hotspot.sampleCount ++
      " share=" ++ ppmText hotspot.sharePpm ++
      " regions=" ++ toString hotspot.regions.length ++
      if hotspot.saturatedTruncated then " resources_truncated=yes" else ""),
    textBytes ("  resources(" ++ toString hotspot.saturatedCount ++ "):" ++
      spacedIds (hotspot.saturatedResources.take 8) ++
      if hotspot.saturatedCount > 8 then " ..." else ""),
    textBytes ("  peaks: utilization=" ++ ppmText hotspot.peakUtilizationPpm ++
      " queue=" ++ ppmText hotspot.peakQueuePpm ++
      " buffer=" ++ ppmText hotspot.peakBufferPpm ++
      " pressure=" ++ ppmText hotspot.peakPressurePpm),
    textBytes ("  healthy_neighbours(" ++ toString hotspot.healthyNeighborCount ++ "):" ++
      if hotspot.healthyNeighbors.isEmpty then " none observed"
      else spacedIds (hotspot.healthyNeighbors.take options.maxNeighbors)),
    textBytes ("  contributors(" ++ toString hotspot.contributorCount ++
      ") attribution_confidence=" ++ ppmText hotspot.attributionConfidencePpm ++ ":" ++
      if hotspot.contributors.isEmpty then " none"
      else String.join ((hotspot.contributors.take options.maxContributors).map contributorText)),
    textBytes ("  demand: attributed_bps=" ++ toString hotspot.attributedDemandBps ++
      " stale_bps=" ++ toString hotspot.unattributedDemandBps),
    textBytes ("  remediation=" ++ remediationText hotspot.remediation ++
      if hotspot.suppressionReason.isEmpty then "" else " reason=" ++ hotspot.suppressionReason)] ++
  if options.includeAuthority then [textBytes "  authority: " ++ renderAuthority hotspot.authority] else []

def renderPressure (pressure : ResourcePressure) : Bytes :=
  textBytes ("  " ++ StrongId.hex pressure.resource ++
    " util=" ++ ppmText pressure.utilizationPpm ++
    " queue=" ++ ppmText pressure.queuePpm ++
    " buffer=" ++ ppmText pressure.bufferPpm ++
    " quality=" ++ qualityText pressure.quality ++
    (if pressure.saturated then " saturated" else "") ++
    (if pressure.contradictory then " contradictory" else "") ++
    if !pressure.admissible && !pressure.contradictory then " inadmissible" else "")

def renderSuppressed (suppressed : List SuppressedAction) : List Bytes :=
  if suppressed.isEmpty then []
  else textBytes "suppressed:" :: suppressed.map fun action ↦
    textBytes ("  " ++ kindText action.kind ++ " " ++ StrongId.hex action.hotspot ++ " — " ++ action.reason)

def renderDiagnostics (diagnostics : List Diagnostic) : List Bytes :=
  if diagnostics.isEmpty then []
  else textBytes "diagnostics:" :: diagnostics.map fun diagnostic ↦
    textBytes ("  " ++ diagnostic.code.text ++ " — " ++ diagnostic.detail)

def renderAssessment (assessment : Assessment) (options : ExplanationOptions) : List Bytes :=
  [textBytes ("verdict: " ++ scopeText assessment.scope ++ " — " ++ assessment.scopeReason)] ++
  renderBinding assessment.binding ++
  [textBytes ("coverage: covered=" ++ ppmText assessment.coveragePpm ++
      " admissible=" ++ ppmText assessment.admissibleCoveragePpm ++
      " capacity=" ++ ppmText assessment.capacityCoveragePpm ++
      " resources=" ++ toString assessment.resourceCount ++
      " observed=" ++ toString assessment.observedCount ++
      " admissible=" ++ toString assessment.admissibleCount ++
      " saturated=" ++ toString assessment.saturatedCount ++
      " contradictory=" ++ toString assessment.contradictoryCount ++
      " stale=" ++ toString assessment.staleSignalCount),
    textBytes ("capacity: fabric=" ++ toString assessment.fabricCapacityUnits ++
      " covered=" ++ toString assessment.coveredCapacityUnits ++
      " admissible=" ++ toString assessment.admissibleCapacityUnits ++
      " saturated=" ++ toString assessment.saturatedCapacityUnits ++
      " global_share=" ++ ppmText assessment.globalSharePpm),
    textBytes ("hotspots=" ++ toString assessment.hotspots.length ++
      " candidates=" ++ toString assessment.candidates.length)] ++
  assessment.hotspots.flatMap (fun hotspot ↦ renderHotspot hotspot true options) ++
  assessment.candidates.flatMap (fun candidate ↦ renderHotspot candidate false options) ++
  (if assessment.pressures.isEmpty then []
    else textBytes "pressures:" :: (assessment.pressures.take options.maxPressures).map renderPressure) ++
  [textBytes (if assessment.escalationRequired then "escalation: required — " ++ assessment.escalationReason
    else "escalation: not required")] ++
  renderSuppressed assessment.suppressed ++
  renderDiagnostics assessment.diagnostics ++
  if options.includeAuthority then [textBytes "authority: " ++ renderAuthority assessment.authority] else []

def renderIntent (intent : MitigationIntent) (options : ExplanationOptions) : List Bytes :=
  [textBytes ("intent " ++ StrongId.hex intent.id ++ " kind=" ++ kindText intent.kind ++
      " hotspot=" ++ StrongId.hex intent.hotspot ++
      " scope=" ++ scopeText intent.hotspotScope ++
      " severity=" ++ severityText intent.severity ++
      " scope_share=" ++ ppmText intent.scopeSharePpm ++
      if intent.rateDeltaPpm ≠ 0 then " rate_delta_ppm=" ++ toString intent.rateDeltaPpm else ""),
    textBytes ("  affected: resources=" ++ toString intent.affectedResources.length ++
      " paths=" ++ toString intent.affectedPaths.length ++
      " flows=" ++ toString intent.affectedFlows.length)] ++
  (if intent.rationale.isEmpty then [] else [textBytes ("  rationale: " ++ intent.rationale)]) ++
  if options.includeAuthority then [textBytes "  authority: " ++ renderAuthority intent.authority] else []

def renderPlan (plan : InterventionPlan) (options : ExplanationOptions) : List Bytes :=
  renderBinding plan.binding ++
  [textBytes ("intents=" ++ toString plan.intents.length ++
      " suppressed=" ++ toString plan.suppressed.length ++
      " rejected=" ++ toString plan.rejectedIntentCount ++
      " plan_scope=" ++ ppmText plan.planScopeSharePpm)] ++
  (if plan.escalationRequired then [textBytes ("escalation: required — " ++ plan.escalationReason)] else []) ++
  plan.intents.flatMap (fun intent ↦ renderIntent intent options) ++
  renderSuppressed plan.suppressed ++
  if options.includeAuthority then [textBytes "authority: " ++ renderAuthority plan.authority] else []

inductive Subject
  | ofAssessment (assessment : Assessment)
  | ofPlan (plan : InterventionPlan)
  | ofDecision (assessment : Assessment) (plan : InterventionPlan)

/-- The texts of the lines that are written, in the order in which the writer gets them. -/
def Subject.render (options : ExplanationOptions) : Subject → List Bytes
  | .ofAssessment assessment => renderAssessment assessment options
  | .ofPlan plan => renderPlan plan options
  | .ofDecision assessment plan =>
    renderAssessment assessment options ++ [textBytes "-- plan --"] ++ renderPlan plan options

/-- The explanation, or nothing when a `std::length_error` leaves it. -/
def explain (subject : Subject) (options : ExplanationOptions) : Option Bytes :=
  ((subject.render options).foldl LineWriter.line { options }).finish

end HotspotGovernor.Explanation
