import HotspotGovernor.Detection

namespace HotspotGovernor.Sampling

open Foundation Topology Evidence Detection

structure Cell where
  utilizationPpm : UInt32 := 0
  queuePpm : UInt32 := 0
  bufferPpm : UInt32 := 0
  pressurePpm : UInt32 := 0
  covered : Bool := false
  admissible : Bool := false
  saturated : Bool := false
  contradictory : Bool := false
  stale : Bool := false
  deriving DecidableEq

section Sample

variable (t : Thresholds) (entry : ResourceCapacity) (sample : ResourceSignals)

def utilizationPpm : UInt32 := (ratioPpm sample.utilizedUnits entry.capacityUnits).getD 0

def queuePpm : UInt32 :=
  if entry.queueLimitUnits = 0 then 0
  else (ratioPpm sample.queueDepthUnits entry.queueLimitUnits).getD 0

def bufferPpm : UInt32 :=
  if entry.bufferLimitBytes = 0 then 0
  else (ratioPpm sample.bufferUsedBytes entry.bufferLimitBytes).getD 0

def queuePressured : Bool := entry.queueLimitUnits ≠ 0 && queuePpm entry sample ≥ t.queuePressurePpm

def bufferPressured : Bool := entry.bufferLimitBytes ≠ 0 && bufferPpm entry sample ≥ t.bufferPressurePpm

def pressured : Bool :=
  utilizationPpm entry sample ≥ t.saturationUtilizationPpm || queuePressured t entry sample ||
    bufferPressured t entry sample

/-- Occupancy pressure with no load behind it, or offered load with nothing observed. -/
def contradiction : Bool :=
  (utilizationPpm entry sample < t.contradictionUtilizationPpm &&
    (queuePressured t entry sample || bufferPressured t entry sample)) ||
  (sample.offeredBps > 0 && sample.utilizedUnits = 0 && sample.queueDepthUnits = 0 &&
    sample.dropUnits = 0)

def qualityOk : Bool := sample.quality = .healthy || sample.quality = .degraded

def confidenceOk : Bool := sample.confidencePpm ≥ t.minConfidencePpm

def admissible : Bool :=
  qualityOk sample && confidenceOk t sample && !contradiction t entry sample

def measureCell : Cell :=
  { utilizationPpm := utilizationPpm entry sample
    queuePpm := queuePpm entry sample
    bufferPpm := bufferPpm entry sample
    pressurePpm := max (utilizationPpm entry sample) (max (queuePpm entry sample) (bufferPpm entry sample))
    covered := true
    admissible := admissible t entry sample
    saturated := admissible t entry sample && pressured t entry sample
    contradictory := contradiction t entry sample }

end Sample

inductive Observation
  | unusable
  | silent (entry : ResourceCapacity)
  | stale (entry : ResourceCapacity)
  | measured (entry : ResourceCapacity) (sample : ResourceSignals)

def tooOld (t : Thresholds) (now : Millis) (sample : ResourceSignals) : Bool :=
  ageMs sample.observedAt now > millis t.maxSignalAgeMs

def observe (evidence : BoundEvidence) (t : Thresholds) (now : Millis) (resource : Resource) :
    Observation :=
  match evidence.capacity.find resource.id with
  | none => .unusable
  | some entry =>
    if !entry.usable ∨ entry.capacityUnits = 0 then .unusable
    else match evidence.signals.find resource.id with
      | none => .silent entry
      | some sample =>
        if tooOld t now sample then .stale entry
        else if sample.quality = .missing then .stale entry
        else .measured entry sample

def Observation.cell (t : Thresholds) : Observation → Cell
  | .unusable => {}
  | .silent _ => {}
  | .stale _ => { stale := true }
  | .measured entry sample => measureCell t entry sample

/-- Capacities and counts accumulated over the resources, and the pressures to report. -/
structure Tally where
  fabricCapacity : UInt64 := 0
  coveredCapacity : UInt64 := 0
  admissibleCapacity : UInt64 := 0
  saturatedCapacity : UInt64 := 0
  observedCount : ℕ := 0
  admissibleCount : ℕ := 0
  saturatedCount : ℕ := 0
  contradictoryCount : ℕ := 0
  staleCount : ℕ := 0
  unusableCount : ℕ := 0
  pressures : List ResourcePressure := []

def pressureOf (resource : Resource) (entry : ResourceCapacity) (sample : ResourceSignals)
    (cell : Cell) : ResourcePressure :=
  { resource := resource.id
    region := resource.region
    capacityUnits := entry.capacityUnits
    utilizedUnits := sample.utilizedUnits
    queueDepthUnits := sample.queueDepthUnits
    queueLimitUnits := entry.queueLimitUnits
    bufferUsedBytes := sample.bufferUsedBytes
    bufferLimitBytes := entry.bufferLimitBytes
    dropUnits := sample.dropUnits
    utilizationPpm := cell.utilizationPpm
    queuePpm := cell.queuePpm
    bufferPpm := cell.bufferPpm
    pressurePpm := cell.pressurePpm
    confidencePpm := sample.confidencePpm
    quality := sample.quality
    observedAt := sample.observedAt
    saturated := cell.saturated
    admissible := cell.admissible
    contradictory := cell.contradictory
    stale := false }

def Tally.addIf (condition : Bool) (total amount : UInt64) : UInt64 :=
  if condition then satAdd total amount else total

def Tally.step (t : Thresholds) (tally : Tally) (observed : Resource × Observation) : Tally :=
  match observed.2 with
  | .unusable => { tally with unusableCount := tally.unusableCount + 1 }
  | .silent entry => { tally with fabricCapacity := satAdd tally.fabricCapacity entry.capacityUnits }
  | .stale entry =>
    { tally with
      fabricCapacity := satAdd tally.fabricCapacity entry.capacityUnits
      staleCount := tally.staleCount + 1 }
  | .measured entry sample =>
    let cell := measureCell t entry sample
    let reported := cell.saturated || cell.contradictory || !cell.admissible
    { tally with
      fabricCapacity := satAdd tally.fabricCapacity entry.capacityUnits
      coveredCapacity := satAdd tally.coveredCapacity entry.capacityUnits
      admissibleCapacity := addIf cell.admissible tally.admissibleCapacity entry.capacityUnits
      saturatedCapacity := addIf cell.saturated tally.saturatedCapacity entry.capacityUnits
      observedCount := tally.observedCount + 1
      admissibleCount := tally.admissibleCount + cell.admissible.toNat
      saturatedCount := tally.saturatedCount + cell.saturated.toNat
      contradictoryCount := tally.contradictoryCount + cell.contradictory.toNat
      pressures :=
        if reported ∧ tally.pressures.length < Limits.kMaxPressureEntries then
          tally.pressures ++ [pressureOf observed.1 entry sample cell]
        else tally.pressures }

def observations (evidence : BoundEvidence) (t : Thresholds) (now : Millis) :
    List (Resource × Observation) :=
  evidence.topology.resources.map (fun r ↦ (r, observe evidence t now r))

def cellsOf (evidence : BoundEvidence) (t : Thresholds) (now : Millis) : List Cell :=
  (observations evidence t now).map (fun o ↦ o.2.cell t)

def tallyOf (evidence : BoundEvidence) (t : Thresholds) (now : Millis) : Tally :=
  (observations evidence t now).foldl (Tally.step t) {}

namespace Tally

def coveragePpm (tally : Tally) : UInt32 := (ratioPpm tally.coveredCapacity tally.fabricCapacity).getD 0

def admissibleCoveragePpm (tally : Tally) : UInt32 :=
  (ratioPpm tally.admissibleCapacity tally.fabricCapacity).getD 0

def capacityCoveragePpm (tally : Tally) (n : ℕ) : UInt32 :=
  (ratioPpm (UInt64.ofNat (n - tally.unusableCount)) (UInt64.ofNat n)).getD 0

def globalSharePpm (tally : Tally) : UInt32 :=
  (ratioPpm tally.saturatedCapacity tally.fabricCapacity).getD 0

end Tally

end HotspotGovernor.Sampling
