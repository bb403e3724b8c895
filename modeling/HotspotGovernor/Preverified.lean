import HotspotGovernor.Atomicity
import HotspotGovernor.Effects
import HotspotGovernor.Unknown

namespace HotspotGovernor.Preverified

open Foundation Topology TopologyIndex Evidence Detection Sampling Detect Admissibility Unknown Intervention
open Decisions Durable Framing Registry Governance Admission Operations Atomicity Effects Lib.Trace

variable {σ : Type} {api : StoreApi σ} {config : GovernorConfig} {world : σ} {process : Process}
  {start : Millis} {past : List (Event Op Reply (Governor σ))} {g : Governor σ}

def Stamped (past : List (Event Op Reply (Governor σ))) (g : Governor σ) : Prop :=
  g.verified = {} ∨ ∃ e ∈ past, verifyReferences e.after.snapshots = .ok () ∧
    g.verified = verifiedOf e.after.snapshots

def Restamps (g g' : Governor σ) : Prop :=
  g'.verified = g.verified ∨
    verifyReferences g'.snapshots = .ok () ∧ g'.verified = verifiedOf g'.snapshots

theorem admit_restamps (f : Frame) (now : Millis) : Restamps g (g.admitFrame f now).2 := by
  have h := admits f now g
  generalize g.admitFrame f now = out at h ⊢
  cases h with
  | unauthorized e m hs hb => exact Or.inl rfl
  | heartbeat p m hb => exact Or.inl rfl
  | undecoded p e m hp hd => exact Or.inl rfl
  -- The refused snapshot stays installed here, under the stamp of the snapshots before it.
  | unresolved p s n e m hp hd hv => exact Or.inl rfl
  | applied p s n m hp hd hv => exact Or.inr ⟨hv, rfl⟩

theorem step_restamps (api : StoreApi σ) (g : Governor σ) (op : Op) : Restamps g (step api op g).2 := by
  cases op with
  | installEpoch epoch boot now =>
    obtain ⟨_, _, _, _, _, _, h⟩ := installEpoch_eq api epoch boot now g
    exact Or.inl (congrArg Governor.verified h :)
  | registerPublisher hello now =>
    obtain ⟨_, _, h⟩ := registerPublisher_eq hello now g
    exact Or.inl (congrArg Governor.verified h :)
  | notePublisherDeath publisher now =>
    obtain ⟨_, _, _, _, _, h⟩ := notePublisherDeath_eq api publisher now g
    exact Or.inl (congrArg Governor.verified h :)
  | admitFrame frame now => exact admit_restamps frame now
  | evaluate now => exact Or.inl rfl
  | commitDurable now =>
    obtain ⟨_, _, _, h⟩ := commitDurable_eq api now g
    exact Or.inl (congrArg Governor.verified h :)

theorem stamped_of_run (h : GovernorRun api config world process start past g) : Stamped past g := by
  induction h with
  | start => exact Or.inl (recovered_evidence api config world process start).2.2
  | @snoc past g h op ih =>
    rcases step_restamps api g op with hkept | ⟨hok, hset⟩
    · rcases ih with hnone | ⟨e, he, hok, hstamp⟩
      · exact Or.inl (hkept.trans hnone)
      · exact Or.inr ⟨e, List.mem_append_left _ he, hok, hkept.trans hstamp⟩
    · exact Or.inr ⟨event (step api) op g, by simp, hok, hset⟩

def Installed {α : Type} (past : List (Event Op Reply (Governor σ))) (slot : Snapshots → Option α) : Set α :=
  {x | ∃ e ∈ past, slot e.after.snapshots = some x}

/-- Snapshots of different content have different identities, and none has the identity 0. -/
structure ToldApart {α κ : Type} {tag : IdTag} (installed : Set α) (id : α → StrongId tag)
    (content : α → κ) : Prop where
  distinct : ∀ x ∈ installed, ∀ y ∈ installed, content x ≠ content y → id x ≠ id y
  nonzero : ∀ x ∈ installed, (id x).valid = true

/-- The identities digest the records, and no two snapshots of the run collide. -/
structure NoCollision (past : List (Event Op Reply (Governor σ))) : Prop where
  topology : ToldApart (Installed past Snapshots.topology) TopologySnapshot.id TopologySnapshot.tables
  capacity : ToldApart (Installed past Snapshots.capacity) CapacitySnapshot.id CapacitySnapshot.entries
  signals : ToldApart (Installed past Snapshots.signals) SignalSnapshot.id SignalSnapshot.records
  paths : ToldApart (Installed past Snapshots.paths) PathSnapshot.id PathSnapshot.paths

theorem ToldApart.stamped {α κ : Type} {tag : IdTag} {id : α → StrongId tag} {content : α → κ}
    {slot : Snapshots → Option α} (h : ToldApart (Installed past slot) id content) {x : α}
    (hx : x ∈ Installed past slot) {e : Event Op Reply (Governor σ)} (he : e ∈ past)
    (hid : ((slot e.after.snapshots).map id).getD default = id x) :
    ∃ y, slot e.after.snapshots = some y ∧ content y = content x := by
  cases hy : slot e.after.snapshots with
  | none =>
    rw [hy] at hid
    have hvalid := h.nonzero x hx
    rw [← hid] at hvalid
    cases hvalid
  | some y =>
    rw [hy] at hid
    refine ⟨y, rfl, ?_⟩
    by_contra hne
    exact h.distinct y ⟨e, he, hy⟩ x hx hne hid

theorem installed_of_run {α : Type} {slot : Snapshots → Option α} {x : α} (hslot : slot {} = none)
    (h : GovernorRun api config world process start past g) (hx : slot g.snapshots = some x) :
    x ∈ Installed past slot := by
  cases h with
  | start =>
    rw [(recovered_evidence api config world process start).2.1, hslot] at hx
    cases hx
  | @snoc past g h op => exact ⟨event (step api) op g, by simp, hx⟩

/-- Every resource that the installed capacity, signals and paths name is one the topology defines. -/
structure Resolved (s : Snapshots) (topology : TopologySnapshot) : Prop where
  byCapacity : ∀ capacity, s.capacity = some capacity →
    ∀ entry ∈ capacity.entries, Defines topology entry.resource
  bySignals : ∀ signals, s.signals = some signals →
    ∀ record ∈ signals.records, Defines topology record.resource
  byPaths : ∀ paths, s.paths = some paths →
    ∀ path ∈ paths.paths, ∀ hop ∈ path.hops, Defines topology hop

structure Walked (s : Snapshots) (topology : TopologySnapshot) : Prop where
  capacity : ∀ capacity, s.capacity = some capacity → capacityResolves topology capacity = true
  signals : ∀ signals, s.signals = some signals → signalsResolve topology signals = true
  paths : ∀ paths, s.paths = some paths → pathsResolve topology paths = true

theorem walked_of_verifyReferences {s : Snapshots} {topology : TopologySnapshot}
    (ht : s.topology = some topology) (h : verifyReferences s = .ok ()) : Walked s topology := by
  unfold verifyReferences at h
  rw [ht] at h
  dsimp only at h
  split at h
  · cases h
  · next hc =>
    split at h
    · cases h
    · next hs =>
      split at h
      · cases h
      · next hp =>
        refine ⟨?_, ?_, ?_⟩
        · intro capacity hcap
          simpa [hcap] using hc
        · intro signals hsig
          simpa [hsig] using hs
        · intro paths hpaths
          simpa [hpaths] using hp

theorem Walked.resolved {s : Snapshots} {topology : TopologySnapshot} (h : Walked s topology) :
    Resolved s topology := by
  refine ⟨?_, ?_, ?_⟩
  · intro capacity hc entry he
    exact mem_of_referencesResolve (h.capacity capacity hc) (List.mem_map_of_mem he)
  · intro signals hs record hr
    exact mem_of_referencesResolve (h.signals signals hs) (List.mem_map_of_mem hr)
  · intro paths hp path hpath hop hhop
    have hall := h.paths paths hp
    unfold pathsResolve at hall
    rw [List.all_eq_true] at hall
    exact mem_of_hasResource (List.all_eq_true.mp (hall path hpath) hop hhop)

theorem walked_of_preverified (hrun : GovernorRun api config world process start past g)
    (hids : NoCollision past) {topology : TopologySnapshot} (ht : g.snapshots.topology = some topology)
    (hstamp : g.verified = verifiedOf g.snapshots) : Walked g.snapshots topology := by
  have hlive := installed_of_run rfl hrun ht
  have htopology : g.verified.topology = topology.id := by
    rw [hstamp, verifiedOf, ht]
    rfl
  rcases stamped_of_run hrun with hnone | ⟨e, he, hok, hset⟩
  · have hvalid := hids.topology.nonzero topology hlive
    rw [← htopology, hnone] at hvalid
    cases hvalid
  obtain ⟨verified, hv, hvt⟩ := hids.topology.stamped hlive he (by rw [← htopology, hset]; rfl)
  have hwalked := walked_of_verifyReferences hv hok
  refine ⟨?_, ?_, ?_⟩
  · intro capacity hc
    have hid : verifiedOf e.after.snapshots = verifiedOf g.snapshots := hset.symm.trans hstamp
    obtain ⟨c, hc', hcontent⟩ := hids.capacity.stamped (installed_of_run rfl hrun hc) he
      ((congrArg Verified.capacity hid).trans (by rw [verifiedOf, hc]; rfl))
    have hwalk := hwalked.capacity c hc'
    unfold capacityResolves TopologySnapshot.resources at hwalk ⊢
    rwa [← hvt, ← hcontent]
  · intro signals hs
    have hid : verifiedOf e.after.snapshots = verifiedOf g.snapshots := hset.symm.trans hstamp
    obtain ⟨c, hs', hcontent⟩ := hids.signals.stamped (installed_of_run rfl hrun hs) he
      ((congrArg Verified.signals hid).trans (by rw [verifiedOf, hs]; rfl))
    have hwalk := hwalked.signals c hs'
    unfold signalsResolve TopologySnapshot.resources at hwalk ⊢
    rwa [← hvt, ← hcontent]
  · intro paths hp
    have hid : verifiedOf e.after.snapshots = verifiedOf g.snapshots := hset.symm.trans hstamp
    obtain ⟨c, hp', hcontent⟩ := hids.paths.stamped (installed_of_run rfl hrun hp) he
      ((congrArg Verified.paths hid).trans (by rw [verifiedOf, hp]; rfl))
    have hwalk := hwalked.paths c hp'
    unfold pathsResolve TopologySnapshot.hasResource TopologySnapshot.resources at hwalk ⊢
    rwa [← hvt, ← hcontent]

def checked (input : DecisionInput) : DecisionInput := { input with referencesPreverified := false }

theorem detectBound_checked {input : DecisionInput} {ev : BoundEvidence}
    (h : referenceRefusal (checked input) ev = referenceRefusal input ev) (r : FabricAssessment) :
    detectBound (checked input) ev r = detectBound input ev r := by
  unfold detectBound
  rw [h]
  rfl

theorem detect_checked {input : DecisionInput}
    (h : ∀ topology ev, input.topology = some topology →
      (findingsOf input topology).evidence topology = some ev →
      referenceRefusal (checked input) ev = referenceRefusal input ev) :
    detect (checked input) = detect input := by
  unfold detect
  have htop : (checked input).topology = input.topology := rfl
  rw [htop]
  cases ht : input.topology.filter TopologySnapshot.built with
  | none => rfl
  | some topology =>
    have hfind : (findingsOf (checked input) topology).evidence topology =
      (findingsOf input topology).evidence topology := rfl
    have hnow : (checked input).now = input.now := rfl
    dsimp only
    rw [hfind, hnow]
    cases hev : (findingsOf input topology).evidence topology with
    | none => rfl
    | some ev =>
      have hbound := detectBound_checked (h topology ev (Option.filter_eq_some_iff.mp ht).1 hev)
      dsimp only
      rw [hbound]
      rfl

theorem refusal_of_walked {s : Snapshots} {input : DecisionInput} {topology : TopologySnapshot}
    {ev : BoundEvidence} (h : Walked s topology) (hc : input.capacity = s.capacity)
    (hs : input.signals = s.signals) (hp : input.paths = s.paths)
    (hev : (findingsOf input topology).evidence topology = some ev) : referenceRefusal input ev = none := by
  obtain ⟨hcap, hsig, hpaths⟩ := evidence_eq_some hev
  have htop : ev.topology = topology := evidence_topology hev
  obtain ⟨hcap, -⟩ := capacityFinding_admitted.mp hcap
  obtain ⟨-, -, hsig, -⟩ := signalsFinding_admitted.mp hsig
  have hpathsOk : ev.paths.any (fun paths ↦ !pathsResolve ev.topology paths) = false := by
    cases hpe : ev.paths with
    | none => rfl
    | some paths =>
      rw [hpe] at hpaths
      obtain ⟨hinput, -⟩ := pathsFinding_admitted.mp hpaths
      have hok := h.paths paths (hp.symm.trans hinput)
      simp [htop, hok]
  unfold referenceRefusal
  split
  · rfl
  · rw [htop, h.capacity _ (hc.symm.trans hcap), h.signals _ (hs.symm.trans hsig), ← htop, hpathsOk]
    rfl

/-- Whenever the stamp lets an evaluation skip the walks over the references, the walks would have
succeeded, so the decision and the tracker are those of the full check. -/
theorem preverified_agrees (hrun : GovernorRun api config world process start past g)
    (hids : NoCollision past) (now : Millis)
    (hpre : (g.decisionInput now).referencesPreverified = true) :
    (∃ topology, g.snapshots.topology = some topology ∧ Resolved g.snapshots topology) ∧
      Engine.evaluate (checked (g.decisionInput now)) = Engine.evaluate (g.decisionInput now) ∧
      g.engine.decideTracked (checked (g.decisionInput now)) =
        g.engine.decideTracked (g.decisionInput now) := by
  have hflag : (g.snapshots.topology.isSome && decide (g.verified = verifiedOf g.snapshots)) = true := hpre
  rw [Bool.and_eq_true, decide_eq_true_eq] at hflag
  obtain ⟨topology, ht⟩ := Option.isSome_iff_exists.mp hflag.1
  have hwalked := walked_of_preverified hrun hids ht hflag.2
  have hdetect : detect (checked (g.decisionInput now)) = detect (g.decisionInput now) := by
    apply detect_checked
    intro live ev hlive hev
    obtain rfl : topology = live := Option.some.inj (ht.symm.trans hlive)
    have hfull : referenceRefusal (checked (g.decisionInput now)) ev = none :=
      refusal_of_walked hwalked rfl rfl rfl hev
    rw [hfull, refusal_of_walked hwalked rfl rfl rfl hev]
  have heval : Engine.evaluate (checked (g.decisionInput now)) = Engine.evaluate (g.decisionInput now) := by
    unfold Engine.evaluate
    rw [hdetect]
    rfl
  refine ⟨⟨topology, ht, hwalked.resolved⟩, heval, ?_⟩
  have htracked : ∀ input : DecisionInput, input.tracker = some g.engine.tracker →
      { input with tracker := some g.engine.tracker } = input := by
    intro input h
    rw [← h]
  unfold Engine.decideTracked Engine.decide
  rw [htracked _ rfl, htracked _ rfl, heval]

def switchCapacity : Frame := makeFrame .capacity (sentAs 1 2 1) (capacityPayload 1 1)

def stampedOps : List Op := oneSwitchOps ++ [.admitFrame switchCapacity 0]

def stampedGovernor : Governor Unit := final (step noStore) (recovered noStore {} () ⟨0, 0⟩ 0) stampedOps

theorem stampedGovernor_eq : stampedGovernor =
    (oneSwitchGovernor.countReceived.admitStream switchCapacity 0).2 := by
  have h := admit_makeFrame .capacity (sentAs 1 2 1) (show (capacityPayload 1 1).length ≤ _ by decide) 0
    oneSwitchGovernor
  rw [if_neg (by decide)] at h
  unfold stampedGovernor stampedOps final
  rw [List.foldl_append, List.foldl_cons, List.foldl_nil, step_admitFrame, switchCapacity, ← h]
  rfl

def stampedHistory : List (Event Op Reply (Governor Unit)) :=
  history (step noStore) (recovered noStore {} () ⟨0, 0⟩ 0) stampedOps

theorem after_mem_stampedHistory {e : Event Op Reply (Governor Unit)} (he : e ∈ stampedHistory) :
    e.after.snapshots = {} ∨ e.after = oneSwitchGovernor ∨ e.after = stampedGovernor := by
  rcases after_of_mem_history he with he | hstamped
  · have hops : oneSwitchOps = [.registerPublisher introduction 0] ++ [.admitFrame oneSwitchFrame 0] := rfl
    rw [hops] at he
    rcases after_of_mem_history he with he | hswitch
    · rw [List.mem_singleton.mp he]
      exact Or.inl rfl
    · exact Or.inr (Or.inl hswitch)
  · exact Or.inr (Or.inr hstamped)

theorem mem_installed_stamped {α : Type} {slot : Snapshots → Option α} {x : α} (hempty : slot {} = none)
    (hkept : slot oneSwitchGovernor.snapshots = none ∨
      slot oneSwitchGovernor.snapshots = slot stampedGovernor.snapshots)
    (hx : x ∈ Installed stampedHistory slot) : slot stampedGovernor.snapshots = some x := by
  obtain ⟨e, he, hslot⟩ := hx
  rcases after_mem_stampedHistory he with h | h | h
  · rw [h, hempty] at hslot
    cases hslot
  · rw [h] at hslot
    rcases hkept with hnone | hsame
    · rw [hnone] at hslot
      cases hslot
    · exact hsame.symm.trans hslot
  · rwa [h] at hslot

theorem ToldApart.of_single {α κ : Type} {tag : IdTag} {id : α → StrongId tag} {content : α → κ}
    {installed : Set α} {only : Option α} (hall : ∀ x ∈ installed, only = some x)
    (hvalid : only.all (fun x ↦ (id x).valid) = true) : ToldApart installed id content := by
  refine ⟨?_, ?_⟩
  · intro x hx y hy hne
    rw [Option.some.inj ((hall x hx).symm.trans (hall y hy))] at hne
    exact absurd rfl hne
  · intro x hx
    rw [hall x hx] at hvalid
    exact hvalid

set_option maxRecDepth 4000 in
theorem noCollision_stamped : NoCollision stampedHistory := by
  have htopology : oneSwitchGovernor.snapshots.topology = stampedGovernor.snapshots.topology := by
    rw [stampedGovernor_eq, oneSwitchGovernor_eq]
    rfl
  have hcapacity : oneSwitchGovernor.snapshots.capacity = none := by
    rw [oneSwitchGovernor_eq]
    rfl
  have hsignals : oneSwitchGovernor.snapshots.signals = none ∧ stampedGovernor.snapshots.signals = none := by
    rw [stampedGovernor_eq, oneSwitchGovernor_eq]
    exact ⟨rfl, rfl⟩
  have hpaths : oneSwitchGovernor.snapshots.paths = none ∧ stampedGovernor.snapshots.paths = none := by
    rw [stampedGovernor_eq, oneSwitchGovernor_eq]
    exact ⟨rfl, rfl⟩
  refine ⟨?_, ?_, ?_, ?_⟩
  · refine .of_single (fun x hx ↦ mem_installed_stamped rfl (Or.inr htopology) hx) ?_
    rw [stampedGovernor_eq, oneSwitchGovernor_eq]
    rfl
  · refine .of_single (fun x hx ↦ mem_installed_stamped rfl (Or.inl hcapacity) hx) ?_
    rw [stampedGovernor_eq, oneSwitchGovernor_eq]
    rfl
  · refine .of_single (fun x hx ↦ mem_installed_stamped rfl (Or.inl hsignals.1) hx) ?_
    rw [hsignals.2]
    rfl
  · refine .of_single (fun x hx ↦ mem_installed_stamped rfl (Or.inl hpaths.1) hx) ?_
    rw [hpaths.2]
    rfl

set_option maxRecDepth 4000 in
/-- The capacity of the one switch was verified as it was admitted. -/
theorem stampedGovernor_agrees :
    GovernorRun noStore {} () ⟨0, 0⟩ 0 stampedHistory stampedGovernor ∧ NoCollision stampedHistory ∧
      (stampedGovernor.decisionInput 5).referencesPreverified = true ∧
      Engine.evaluate (checked (stampedGovernor.decisionInput 5)) =
        Engine.evaluate (stampedGovernor.decisionInput 5) := by
  have hrun : GovernorRun noStore {} () ⟨0, 0⟩ 0 stampedHistory stampedGovernor := Run.of_ops stampedOps
  have hpre : (stampedGovernor.decisionInput 5).referencesPreverified = true := by
    rw [stampedGovernor_eq, oneSwitchGovernor_eq]
    rfl
  exact ⟨hrun, noCollision_stamped, hpre, (preverified_agrees hrun noCollision_stamped 5 hpre).2.1⟩

end HotspotGovernor.Preverified
