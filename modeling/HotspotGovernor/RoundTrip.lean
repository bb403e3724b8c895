import HotspotGovernor.Codec

namespace HotspotGovernor.RoundTrip

open Foundation ByteIo Lib Topology Evidence Framing Codec SortedList

theorem resourceKind_ofCode_code (kind : ResourceKind) : ResourceKind.ofCode kind.code = kind := by
  cases kind with
  | unnamed code h => exact dif_pos h
  | _ => rfl

theorem quality_ofCode_code (quality : TelemetryQuality) : TelemetryQuality.ofCode quality.code = quality := by
  cases quality with
  | unnamed code h => exact dif_pos h
  | _ => rfl

def encodeRegion (r : Region) : Bytes := putU64 r.id.value ++ putU64 r.parent.value ++ putText r.name

def encodeResource (r : Resource) : Bytes :=
  putU64 r.id.value ++ putU64 r.region.value ++ putU8 r.kind.code ++ putText r.name

def encodeLink (l : Link) : Bytes :=
  putU64 l.id.value ++ putU64 l.endpointA.value ++ putU64 l.endpointB.value

theorem decodes_region {r : Region} (h : r.name.length ≤ Limits.kMaxRegionNameBytes) :
    Decodes decodeRegion (encodeRegion r) r := by
  intro rest
  unfold decodeRegion encodeRegion
  simp only [List.append_assoc]
  rw [bind_ok (field_u64 _ _ _ _), bind_ok (field_u64 _ _ _ _), bind_ok (field_text _ _ _ h (by decide))]
  rfl

theorem decodes_resource {r : Resource} (h : r.name.length ≤ Limits.kMaxResourceNameBytes) :
    Decodes decodeResource (encodeResource r) r := by
  intro rest
  unfold decodeResource encodeResource
  simp only [List.append_assoc]
  rw [bind_ok (field_u64 _ _ _ _), bind_ok (field_u64 _ _ _ _), bind_ok (field_u8 _ _ _ _),
    bind_ok (field_text _ _ _ h (by decide)), resourceKind_ofCode_code]
  rfl

theorem decodes_link (l : Link) : Decodes decodeLink (encodeLink l) l := by
  intro rest
  unfold decodeLink encodeLink
  simp only [List.append_assoc]
  rw [bind_ok (field_u64 _ _ _ _), bind_ok (field_u64 _ _ _ _), bind_ok (field_u64 _ _ _ _)]
  rfl

theorem decodes_capacity (entry : ResourceCapacity) :
    Decodes decodeCapacityEntry entry.encode entry := by
  intro rest
  unfold decodeCapacityEntry ResourceCapacity.encode
  simp only [List.append_assoc]
  rw [bind_ok (field_u64 _ _ _ _), bind_ok (field_u64 _ _ _ _), bind_ok (field_u64 _ _ _ _),
    bind_ok (field_u64 _ _ _ _), bind_ok (field_bool _ _ _ _), flag_ne_zero]
  rfl

theorem decodes_signals (record : ResourceSignals) : Decodes decodeSignalRecord record.encode record := by
  intro rest
  unfold decodeSignalRecord ResourceSignals.encode
  simp only [List.append_assoc]
  rw [bind_ok (field_u64 _ _ _ _), bind_ok (field_u64 _ _ _ _), bind_ok (field_u64 _ _ _ _),
    bind_ok (field_u64 _ _ _ _), bind_ok (field_u64 _ _ _ _), bind_ok (field_u64 _ _ _ _),
    bind_ok (field_u64 _ _ _ _), bind_ok (field_u32 _ _ _ _), bind_ok (field_u8 _ _ _ _),
    bind_ok (field_i64 _ _ _ _), quality_ofCode_code]
  rfl

theorem decodes_path {path : PathRecord} (h : path.hops.length ≤ Limits.kMaxHopsPerPath) :
    Decodes decodePathRecord path.encode path := by
  intro rest
  have hn : (UInt32.ofNat path.hops.length).toNat = path.hops.length := by
    have hl : Limits.kMaxHopsPerPath < 2 ^ 32 := by decide
    rw [UInt32.toNat_ofNat']
    omega
  have hhops : Decodes (repeatField (field readU64 .truncatedFrame "path hop truncated") path.hops.length)
      (path.hops.flatMap (fun hop ↦ putU64 hop.value)) (path.hops.map StrongId.value) := by
    have hvalues : ∀ v ∈ path.hops.map StrongId.value,
        Decodes (field readU64 .truncatedFrame "path hop truncated") (putU64 v) v :=
      fun v _ rest ↦ field_u64 _ _ _ _
    have hdecodes := Decodes.repeatField hvalues
    rwa [List.length_map, List.flatMap_map] at hdecodes
  have hid : (path.hops.map StrongId.value).map StrongId.mk = path.hops := by
    rw [List.map_map]
    exact List.map_id _
  unfold decodePathRecord PathRecord.encode putCount
  simp only [List.append_assoc]
  rw [bind_ok (field_u64 _ _ _ _), bind_ok (field_u64 _ _ _ _), bind_ok (field_u32 _ _ _ _), hn,
    if_neg (by omega), bind_ok (hhops rest), hid]
  rfl

theorem decodes_traffic (record : TrafficRecord) : Decodes decodeTrafficRecord record.encode record := by
  intro rest
  unfold decodeTrafficRecord TrafficRecord.encode
  simp only [List.append_assoc]
  rw [bind_ok (field_u64 _ _ _ _), bind_ok (field_u64 _ _ _ _), bind_ok (field_u64 _ _ _ _),
    bind_ok (field_u8 _ _ _ _), bind_ok (field_i64 _ _ _ _), quality_ofCode_code]
  rfl

section Rebuild

variable {α κ β γ : Type}

theorem sortBy_sortBy [LinearOrder κ] {key : α → κ} (xs : List α) :
    sortBy key (sortBy key xs) = sortBy key xs := sortBy_eq_self (sortBy_pairwise xs)

theorem sortChecked_again [LinearOrder κ] {key : α → κ} {limit : ℕ} {overflow : String}
    {check : Option α → α → Status} {source entries : List α}
    (h : sortChecked key limit overflow check source = .ok entries) :
    sortChecked key limit overflow check entries = .ok entries := by
  obtain ⟨hlen, rfl, hc⟩ := sortChecked_ok h
  unfold sortChecked
  rw [length_sortBy, if_neg (not_lt.mpr hlen), sortBy_sortBy]
  dsimp only
  rw [hc]
  rfl

theorem length_of_sortChecked [LinearOrder κ] {key : α → κ} {limit : ℕ} {overflow : String}
    {check : Option α → α → Status} {source entries : List α}
    (h : sortChecked key limit overflow check source = .ok entries) : entries.length ≤ limit := by
  obtain ⟨hlen, rfl, -⟩ := sortChecked_ok h
  rwa [length_sortBy]

theorem foldl_kept (step : β → α → β) (view : β → γ) (h : ∀ b x, view (step b x) = view b)
    (xs : List α) (b : β) : view (xs.foldl step b) = view b := by
  induction xs generalizing b with
  | nil => rfl
  | cons x xs ih =>
    rw [List.foldl_cons, ih, h]

theorem foldl_appended (step : β → α → β) (view : β → List γ) (item : α → γ)
    (h : ∀ b x, view (step b x) = view b ++ [item x]) (xs : List α) (b : β) :
    view (xs.foldl step b) = view b ++ xs.map item := by
  induction xs generalizing b with
  | nil => simp
  | cons x xs ih =>
    rw [List.foldl_cons, ih, h, List.map_cons, List.append_assoc, List.singleton_append]

end Rebuild

theorem capacity_rebuild {source s : CapacitySnapshot} (h : source.build = .ok s) (fresh : CapacitySnapshot)
    (he : fresh.entries = s.entries) : fresh.build = .ok { s with
      generation := fresh.generation
      topologyGeneration := fresh.topologyGeneration
      provenance := fresh.provenance
      observedAt := fresh.observedAt } := by
  obtain ⟨built, hb, rfl⟩ := CapacitySnapshot.build_iff.mp h
  have hagain : buildCapacity fresh.entries = .ok built := by
    rw [he]
    exact sortChecked_again hb
  exact CapacitySnapshot.build_iff.mpr ⟨built, hagain, rfl⟩

theorem signals_rebuild {source s : SignalSnapshot} (h : source.build = .ok s) (fresh : SignalSnapshot)
    (he : fresh.records = s.records) : fresh.build = .ok { s with
      generation := fresh.generation
      topologyGeneration := fresh.topologyGeneration
      capacityGeneration := fresh.capacityGeneration
      provenance := fresh.provenance
      windowStart := fresh.windowStart
      windowEnd := fresh.windowEnd } := by
  obtain ⟨built, hb, rfl⟩ := SignalSnapshot.build_iff.mp h
  have hagain : buildSignals fresh.records = .ok built := by
    rw [he]
    exact sortChecked_again hb
  exact SignalSnapshot.build_iff.mpr ⟨built, hagain, rfl⟩

theorem buildPaths_again {source : List PathRecord} {tables : PathTables} (h : buildPaths source = .ok tables) :
    buildPaths tables.paths = .ok tables := by
  obtain ⟨sorted, hs, ht⟩ := TopologyIndex.bind_eq_ok h
  obtain rfl := Except.ok.inj ht
  have hagain := sortChecked_again hs
  unfold buildPaths
  change sortChecked _ _ _ _ sorted >>= _ = _
  rw [hagain]
  rfl

theorem paths_rebuild {source s : PathSnapshot} (h : source.build = .ok s) (fresh : PathSnapshot)
    (he : fresh.tables.paths = s.tables.paths) : fresh.build = .ok { s with
      generation := fresh.generation
      topologyGeneration := fresh.topologyGeneration
      provenance := fresh.provenance
      observedAt := fresh.observedAt } := by
  obtain ⟨built, hb, rfl⟩ := PathSnapshot.build_iff.mp h
  have hagain : buildPaths fresh.tables.paths = .ok built := by
    rw [he]
    exact buildPaths_again hb
  exact PathSnapshot.build_iff.mpr ⟨built, hagain, rfl⟩

theorem traffic_rebuild {source s : TrafficSnapshot} (h : source.build = .ok s) (fresh : TrafficSnapshot)
    (he : fresh.records = s.records) : fresh.build = .ok { s with
      generation := fresh.generation
      pathGeneration := fresh.pathGeneration
      provenance := fresh.provenance } := by
  obtain ⟨built, hb, rfl⟩ := TrafficSnapshot.build_iff.mp h
  have hagain : buildTraffic fresh.records = .ok built := by
    rw [he]
    exact sortChecked_again hb
  exact TrafficSnapshot.build_iff.mpr ⟨built, hagain, rfl⟩

theorem validateAndIndex_sorted (regions : List Region) (resources : List Resource) (links : List Link) :
    validateAndIndex (sortBy Region.id regions) (sortBy Resource.id resources) (sortBy Link.ends links) =
      validateAndIndex regions resources links := by
  unfold validateAndIndex
  rw [sortBy_sortBy, sortBy_sortBy, sortBy_sortBy]

theorem checkRegion_name {prev : Option Region} {r : Region} (h : checkRegion prev r = .ok ()) :
    r.name.length ≤ Limits.kMaxRegionNameBytes := by
  unfold checkRegion at h
  split at h
  · cases h
  · split at h
    · cases h
    · split at h
      · cases h
      · next hn => exact not_lt.mp hn

theorem checkResource_name {regions : List Region} {prev : Option Resource} {r : Resource}
    (h : checkResource regions prev r = .ok ()) : r.name.length ≤ Limits.kMaxResourceNameBytes := by
  unfold checkResource at h
  split at h
  · cases h
  · split at h
    · cases h
    · split at h
      · cases h
      · split at h
        · cases h
        · next hn => exact not_lt.mp hn

/-- The sorted lists of a build and the bounds that they meet. -/
structure Accepted (regions : List Region) (resources : List Resource) (links : List Link)
    (t : Tables) : Prop where
  sortedRegions : t.regions = sortBy Region.id regions
  sortedResources : t.resources = sortBy Resource.id resources
  sortedLinks : t.links = sortBy Link.ends links
  regionCount : t.regions.length ≤ Limits.kMaxRegions
  resourceCount : t.resources.length ≤ Limits.kMaxResources
  linkCount : t.links.length ≤ Limits.kMaxLinks
  regionNames : ∀ r ∈ t.regions, r.name.length ≤ Limits.kMaxRegionNameBytes
  resourceNames : ∀ r ∈ t.resources, r.name.length ≤ Limits.kMaxResourceNameBytes
  indexed : validateAndIndex regions resources links = .ok t

theorem buildTables_accepted {regions : List Region} {resources : List Resource} {links : List Link}
    {t : Tables} (h : buildTables regions resources links = .ok t) : Accepted regions resources links t := by
  unfold buildTables at h
  split at h
  · cases h
  · next hregions =>
    split at h
    · cases h
    · next hresources =>
      split at h
      · cases h
      · next hlinks =>
        have hindexed := h
        unfold validateAndIndex at h
        obtain ⟨_, hr, h⟩ := TopologyIndex.bind_eq_ok h
        obtain ⟨_, -, h⟩ := TopologyIndex.bind_eq_ok h
        obtain ⟨_, -, h⟩ := TopologyIndex.bind_eq_ok h
        obtain ⟨_, hs, h⟩ := TopologyIndex.bind_eq_ok h
        obtain ⟨_, -, h⟩ := TopologyIndex.bind_eq_ok h
        obtain ⟨degree, -, h⟩ := TopologyIndex.bind_eq_ok h
        obtain rfl : indexTables _ _ _ degree = t := Except.ok.inj h
        refine ⟨rfl, rfl, rfl, ?_, ?_, ?_, ?_, ?_, hindexed⟩
        · simpa [indexTables] using hregions
        · simpa [indexTables] using hresources
        · simpa [indexTables] using hlinks
        · intro r hmem
          obtain ⟨p, hp⟩ := TopologyIndex.checkAll_forall hr hmem
          exact checkRegion_name hp
        · intro r hmem
          obtain ⟨p, hp⟩ := TopologyIndex.checkAll_forall hs hmem
          exact checkResource_name hp

theorem buildTables_again {regions : List Region} {resources : List Resource} {links : List Link}
    {t : Tables} (h : buildTables regions resources links = .ok t) :
    buildTables t.regions t.resources t.links = .ok t := by
  have ha := buildTables_accepted h
  unfold buildTables
  rw [if_neg (not_lt.mpr ha.regionCount), if_neg (not_lt.mpr ha.resourceCount),
    if_neg (not_lt.mpr ha.linkCount), ha.sortedRegions, ha.sortedResources, ha.sortedLinks,
    validateAndIndex_sorted]
  exact ha.indexed

theorem topology_rebuild {source s : TopologySnapshot} (h : source.build = .ok s) (fresh : TopologySnapshot)
    (hr : fresh.tables.regions = s.tables.regions) (hs : fresh.tables.resources = s.tables.resources)
    (hl : fresh.tables.links = s.tables.links) : fresh.build = .ok { s with
      generation := fresh.generation
      provenance := fresh.provenance
      validFrom := fresh.validFrom
      validUntil := fresh.validUntil } := by
  obtain ⟨built, hb, rfl⟩ := TopologySnapshot.build_iff.mp h
  have hagain : buildTables fresh.tables.regions fresh.tables.resources fresh.tables.links =
      .ok built := by
    rw [hr, hs, hl]
    exact buildTables_again hb
  exact TopologySnapshot.build_iff.mpr ⟨built, hagain, rfl⟩

theorem decodes_streamHeader (stream : StreamKind) (generation : UInt64) (observedAt : Millis) :
    Decodes (decodeStreamHeader stream) (encodeStreamHeader stream generation observedAt)
      ⟨stream, generation, observedAt⟩ := by
  intro rest
  unfold decodeStreamHeader encodeStreamHeader
  simp only [List.append_assoc]
  rw [bind_ok (field_u16 _ _ _ _), if_neg (not_not.mpr rfl), bind_ok (field_u64 _ _ _ _),
    bind_ok (field_i64 _ _ _ _)]
  rfl

theorem code_injective {a b : StreamKind} (h : a.code = b.code) : a = b := by
  cases a <;> cases b <;> first | rfl | cases h

theorem foreign_stream_refused {α : Type} {stream expected : StreamKind} (h : stream ≠ expected)
    (body : StreamHeader → Decoder α) (generation : UInt64) (observedAt : Millis) (rest : Bytes) :
    decodeAll (decodeStreamHeader expected >>= body)
      (encodeStreamHeader stream generation observedAt ++ rest) =
        Status.failure .malformedFrame "payload stream kind does not match the message type" := by
  have hcode : stream.code ≠ expected.code := fun hc ↦ h (code_injective hc)
  unfold decodeAll encodeStreamHeader
  simp only [List.append_assoc]
  change ((decodeStreamHeader expected >>= body) _).map Prod.fst = _
  unfold decodeStreamHeader
  rw [bind_assoc, bind_ok (field_u16 _ _ _ _), if_pos hcode]
  rfl

theorem requireEnd_nil : requireEnd [] = .ok ((), []) := rfl

theorem capacity_built {source s : CapacitySnapshot} (h : source.build = .ok s) : s.built = true := by
  obtain ⟨_, _, rfl⟩ := CapacitySnapshot.build_iff.mp h
  rfl

theorem capacity_roundTrip {source s : CapacitySnapshot} (h : source.build = .ok s) :
    ∃ rest, encodeCapacityPayload s =
        .ok (encodeStreamHeader .capacity s.generation.value s.observedAt ++ rest) ∧
      decodeCapacityPayload (encodeStreamHeader .capacity s.generation.value s.observedAt ++ rest) =
        .ok { s with provenance := {} } := by
  have hbuilt := capacity_built h
  obtain ⟨sorted, hsorted⟩ := s.checked hbuilt
  have hlist := Decodes.decodeList "capacity entry count truncated" "capacity entry"
    (fun x _ ↦ decodes_capacity x) (length_of_sortChecked hsorted) (by decide) []
  rw [List.append_nil] at hlist
  have hentries : (s.entries.foldl CapacitySnapshot.add default).entries = s.entries := by
    rw [foldl_appended CapacitySnapshot.add CapacitySnapshot.entries id (fun _ _ ↦ rfl), List.map_id]
    rfl
  have hkept : (s.entries.foldl CapacitySnapshot.add default).provenance = {} :=
    foldl_kept CapacitySnapshot.add CapacitySnapshot.provenance (fun _ _ ↦ rfl) s.entries default
  have hfresh := capacity_rebuild h _ hentries
  rw [hkept] at hfresh
  refine ⟨putU64 s.topologyGeneration.value ++
    (putCount s.entries.length ++ s.entries.flatMap ResourceCapacity.encode), ?_, ?_⟩
  · unfold encodeCapacityPayload
    rw [hbuilt]
    simp only [Bool.not_true, Bool.false_eq_true, if_false, List.append_assoc]
  · unfold decodeCapacityPayload decodeAll
    change (capacityDecoder _).map Prod.fst = _
    unfold capacityDecoder
    rw [bind_ok (decodes_streamHeader _ _ _ _), bind_ok (field_u64 _ _ _ _), bind_ok hlist,
      bind_ok requireEnd_nil, hfresh]
    rfl

theorem signals_built {source s : SignalSnapshot} (h : source.build = .ok s) : s.built = true := by
  obtain ⟨_, _, rfl⟩ := SignalSnapshot.build_iff.mp h
  rfl

theorem signals_roundTrip {source s : SignalSnapshot} (h : source.build = .ok s) :
    ∃ rest, encodeSignalsPayload s =
        .ok (encodeStreamHeader .signals s.generation.value s.windowEnd ++ rest) ∧
      decodeSignalsPayload (encodeStreamHeader .signals s.generation.value s.windowEnd ++ rest) =
        .ok { s with provenance := {} } := by
  have hbuilt := signals_built h
  obtain ⟨sorted, hsorted⟩ := s.checked hbuilt
  have hlist := Decodes.decodeList "signal record count truncated" "signal record"
    (fun x _ ↦ decodes_signals x) (length_of_sortChecked hsorted) (by decide) []
  rw [List.append_nil] at hlist
  have hentries : (s.records.foldl SignalSnapshot.add default).records = s.records := by
    rw [foldl_appended SignalSnapshot.add SignalSnapshot.records id (fun _ _ ↦ rfl), List.map_id]
    rfl
  have hkept : (s.records.foldl SignalSnapshot.add default).provenance = {} :=
    foldl_kept SignalSnapshot.add SignalSnapshot.provenance (fun _ _ ↦ rfl) s.records default
  have hfresh := signals_rebuild h _ hentries
  rw [hkept] at hfresh
  refine ⟨putU64 s.topologyGeneration.value ++ (putU64 s.capacityGeneration.value ++ (putI64 s.windowStart ++
    (putCount s.records.length ++ s.records.flatMap ResourceSignals.encode))), ?_, ?_⟩
  · unfold encodeSignalsPayload
    rw [hbuilt]
    simp only [Bool.not_true, Bool.false_eq_true, if_false, List.append_assoc]
  · unfold decodeSignalsPayload decodeAll
    change (signalsDecoder _).map Prod.fst = _
    unfold signalsDecoder
    rw [bind_ok (decodes_streamHeader _ _ _ _), bind_ok (field_u64 _ _ _ _), bind_ok (field_u64 _ _ _ _),
      bind_ok (field_i64 _ _ _ _), bind_ok hlist,
      bind_ok requireEnd_nil, hfresh]
    rfl

theorem traffic_built {source s : TrafficSnapshot} (h : source.build = .ok s) : s.built = true := by
  obtain ⟨_, _, rfl⟩ := TrafficSnapshot.build_iff.mp h
  rfl

theorem traffic_roundTrip {source s : TrafficSnapshot} (h : source.build = .ok s) :
    ∃ rest, encodeTrafficPayload s =
        .ok (encodeStreamHeader .traffic s.generation.value kNoTime ++ rest) ∧
      decodeTrafficPayload (encodeStreamHeader .traffic s.generation.value kNoTime ++ rest) =
        .ok { s with provenance := {} } := by
  have hbuilt := traffic_built h
  obtain ⟨sorted, hsorted⟩ := s.checked hbuilt
  have hlist := Decodes.decodeList "traffic record count truncated" "traffic record"
    (fun x _ ↦ decodes_traffic x) (length_of_sortChecked hsorted) (by decide) []
  rw [List.append_nil] at hlist
  have hentries : (s.records.foldl TrafficSnapshot.add default).records = s.records := by
    rw [foldl_appended TrafficSnapshot.add TrafficSnapshot.records id (fun _ _ ↦ rfl), List.map_id]
    rfl
  have hkept : (s.records.foldl TrafficSnapshot.add default).provenance = {} :=
    foldl_kept TrafficSnapshot.add TrafficSnapshot.provenance (fun _ _ ↦ rfl) s.records default
  have hfresh := traffic_rebuild h _ hentries
  rw [hkept] at hfresh
  refine ⟨putU64 s.pathGeneration.value ++
    (putCount s.records.length ++ s.records.flatMap TrafficRecord.encode), ?_, ?_⟩
  · unfold encodeTrafficPayload
    rw [hbuilt]
    simp only [Bool.not_true, Bool.false_eq_true, if_false, List.append_assoc]
  · unfold decodeTrafficPayload decodeAll
    change (trafficDecoder _).map Prod.fst = _
    unfold trafficDecoder
    rw [bind_ok (decodes_streamHeader _ _ _ _), bind_ok (field_u64 _ _ _ _), bind_ok hlist,
      bind_ok requireEnd_nil, hfresh]
    rfl

theorem paths_built {source s : PathSnapshot} (h : source.build = .ok s) : s.built = true := by
  obtain ⟨_, _, rfl⟩ := PathSnapshot.build_iff.mp h
  rfl

theorem checkPath_hops {prev : Option PathRecord} {path : PathRecord} (h : checkPath prev path = .ok ()) :
    path.hops.length ≤ Limits.kMaxHopsPerPath := by
  unfold checkPath at h
  split at h
  · cases h
  · split at h
    · cases h
    · split at h
      · cases h
      · split at h
        · cases h
        · next hn => exact not_lt.mp hn

theorem buildPaths_bounds {source : List PathRecord} {tables : PathTables}
    (h : buildPaths source = .ok tables) : tables.paths.length ≤ Limits.kMaxPaths ∧
      ∀ path ∈ tables.paths, path.hops.length ≤ Limits.kMaxHopsPerPath := by
  obtain ⟨sorted, hs, ht⟩ := TopologyIndex.bind_eq_ok h
  obtain rfl := Except.ok.inj ht
  refine ⟨length_of_sortChecked hs, ?_⟩
  intro path hpath
  obtain ⟨p, hp⟩ := TopologyIndex.checkAll_forall (sortChecked_ok hs).2.2 hpath
  exact checkPath_hops hp

theorem paths_roundTrip {source s : PathSnapshot} (h : source.build = .ok s) :
    ∃ rest, encodePathsPayload s =
        .ok (encodeStreamHeader .paths s.generation.value s.observedAt ++ rest) ∧
      decodePathsPayload (encodeStreamHeader .paths s.generation.value s.observedAt ++ rest) =
        .ok { s with provenance := {} } := by
  have hbuilt := paths_built h
  obtain ⟨sorted, hsorted⟩ := s.indexed hbuilt
  obtain ⟨hlen, hhops⟩ := buildPaths_bounds hsorted
  have hlist : decodeList "path count truncated" Limits.kMaxPaths "path" decodePathRecord
      (putCount s.paths.length ++ s.paths.flatMap PathRecord.encode) = .ok (s.paths, []) := by
    have hdecodes := Decodes.decodeList "path count truncated" "path"
      (fun x hx ↦ decodes_path (hhops x hx)) hlen (by decide) []
    rwa [List.append_nil] at hdecodes
  have hentries : (s.paths.foldl PathSnapshot.add default).tables.paths = s.tables.paths := by
    rw [foldl_appended PathSnapshot.add (fun s ↦ s.tables.paths) id (fun _ _ ↦ rfl), List.map_id]
    rfl
  have hkept : (s.paths.foldl PathSnapshot.add default).provenance = {} :=
    foldl_kept PathSnapshot.add PathSnapshot.provenance (fun _ _ ↦ rfl) s.paths default
  have hfresh := paths_rebuild h _ hentries
  rw [hkept] at hfresh
  refine ⟨putU64 s.topologyGeneration.value ++
    (putCount s.paths.length ++ s.paths.flatMap PathRecord.encode), ?_, ?_⟩
  · unfold encodePathsPayload
    rw [hbuilt]
    simp only [Bool.not_true, Bool.false_eq_true, if_false, List.append_assoc]
  · unfold decodePathsPayload decodeAll
    change (pathsDecoder _).map Prod.fst = _
    unfold pathsDecoder
    rw [bind_ok (decodes_streamHeader _ _ _ _), bind_ok (field_u64 _ _ _ _), bind_ok hlist,
      bind_ok requireEnd_nil, hfresh]
    rfl

theorem topology_built {source s : TopologySnapshot} (h : source.build = .ok s) : s.built = true := by
  obtain ⟨_, _, rfl⟩ := TopologySnapshot.build_iff.mp h
  rfl

def gatherRegion (s : TopologySnapshot) (r : Region) : TopologySnapshot := s.addRegion r.id r.name r.parent

def gatherResource (s : TopologySnapshot) (r : Resource) : TopologySnapshot :=
  s.addResource r.id r.region r.kind r.name

def gatherLink (s : TopologySnapshot) (l : Link) : TopologySnapshot := s.addLink l.id l.endpointA l.endpointB

/-- The decoder's snapshot before it is built: the lists as they were read, and their validity. -/
def gathered (validFrom validUntil : Millis) (t : Tables) : TopologySnapshot :=
  t.links.foldl gatherLink (t.resources.foldl gatherResource (t.regions.foldl gatherRegion
    (TopologySnapshot.setValidity default validFrom validUntil)))

theorem gathered_kept {γ : Type} (view : TopologySnapshot → γ)
    (hregion : ∀ s r, view (gatherRegion s r) = view s)
    (hresource : ∀ s r, view (gatherResource s r) = view s)
    (hlink : ∀ s l, view (gatherLink s l) = view s) (validFrom validUntil : Millis) (t : Tables) :
    view (gathered validFrom validUntil t) =
      view (TopologySnapshot.setValidity default validFrom validUntil) := by
  unfold gathered
  rw [foldl_kept gatherLink view hlink, foldl_kept gatherResource view hresource,
    foldl_kept gatherRegion view hregion]

theorem map_truncate_region {regions : List Region}
    (h : ∀ r ∈ regions, r.name.length ≤ Limits.kMaxRegionNameBytes) :
    regions.map (fun r ↦ (⟨r.id, r.name.take Limits.kMaxRegionNameBytes, r.parent⟩ : Region)) = regions := by
  refine (List.map_congr_left fun r hr ↦ ?_).trans (List.map_id regions)
  rw [List.take_of_length_le (h r hr)]
  rfl

theorem map_truncate_resource {resources : List Resource}
    (h : ∀ r ∈ resources, r.name.length ≤ Limits.kMaxResourceNameBytes) :
    resources.map (fun r ↦
      (⟨r.id, r.region, r.kind, r.name.take Limits.kMaxResourceNameBytes⟩ : Resource)) = resources := by
  refine (List.map_congr_left fun r hr ↦ ?_).trans (List.map_id resources)
  rw [List.take_of_length_le (h r hr)]
  rfl

theorem gathered_tables {regions : List Region} {resources : List Resource} {links : List Link} {t : Tables}
    (h : Accepted regions resources links t) (validFrom validUntil : Millis) :
    (gathered validFrom validUntil t).tables.regions = t.regions ∧
      (gathered validFrom validUntil t).tables.resources = t.resources ∧
      (gathered validFrom validUntil t).tables.links = t.links := by
  unfold gathered
  refine ⟨?_, ?_, ?_⟩
  · let view := fun s : TopologySnapshot ↦ s.tables.regions
    refine (foldl_kept gatherLink view (fun _ _ ↦ rfl) _ _).trans ?_
    refine (foldl_kept gatherResource view (fun _ _ ↦ rfl) _ _).trans ?_
    exact (foldl_appended gatherRegion view _ (fun _ _ ↦ rfl) _ _).trans (map_truncate_region h.regionNames)
  · let view := fun s : TopologySnapshot ↦ s.tables.resources
    refine (foldl_kept gatherLink view (fun _ _ ↦ rfl) _ _).trans ?_
    refine (foldl_appended gatherResource view _ (fun _ _ ↦ rfl) _ _).trans ?_
    rw [map_truncate_resource h.resourceNames, foldl_kept gatherRegion view (fun _ _ ↦ rfl)]
    rfl
  · let view := fun s : TopologySnapshot ↦ s.tables.links
    refine (foldl_appended gatherLink view id (fun _ _ ↦ rfl) _ _).trans ?_
    rw [List.map_id, foldl_kept gatherResource view (fun _ _ ↦ rfl),
      foldl_kept gatherRegion view (fun _ _ ↦ rfl)]
    rfl

theorem topology_roundTrip {source s : TopologySnapshot} (h : source.build = .ok s) :
    ∃ rest, encodeTopologyPayload s =
        .ok (encodeStreamHeader .topology s.generation.value s.validFrom ++ rest) ∧
      decodeTopologyPayload (encodeStreamHeader .topology s.generation.value s.validFrom ++ rest) =
        .ok { s with provenance := {} } := by
  have hbuilt := topology_built h
  obtain ⟨regions, resources, links, hb⟩ := s.indexed hbuilt
  have ha := buildTables_accepted hb
  have hregions := Decodes.decodeList "topology region count truncated" "region"
    (fun x hx ↦ decodes_region (ha.regionNames x hx)) ha.regionCount (by decide)
  have hresources := Decodes.decodeList "topology resource count truncated" "resource"
    (fun x hx ↦ decodes_resource (ha.resourceNames x hx)) ha.resourceCount (by decide)
  have hlinks := Decodes.decodeList "topology link count truncated" "link"
    (fun x _ ↦ decodes_link x) ha.linkCount (by decide) []
  obtain ⟨hr, hs, hl⟩ := gathered_tables ha s.validFrom s.validUntil
  have hfresh := topology_rebuild h _ hr hs hl
  rw [gathered_kept TopologySnapshot.provenance (fun _ _ ↦ rfl) (fun _ _ ↦ rfl) (fun _ _ ↦ rfl),
    gathered_kept TopologySnapshot.validFrom (fun _ _ ↦ rfl) (fun _ _ ↦ rfl) (fun _ _ ↦ rfl),
    gathered_kept TopologySnapshot.validUntil (fun _ _ ↦ rfl) (fun _ _ ↦ rfl) (fun _ _ ↦ rfl)] at hfresh
  refine ⟨putI64 s.validUntil ++ (putCount s.tables.regions.length ++
    s.tables.regions.flatMap encodeRegion ++ (putCount s.tables.resources.length ++
    s.tables.resources.flatMap encodeResource ++ (putCount s.tables.links.length ++
    s.tables.links.flatMap encodeLink ++ []))), ?_, ?_⟩
  · unfold encodeTopologyPayload Tables.encode
    rw [hbuilt]
    simp only [Bool.not_true, Bool.false_eq_true, if_false, List.append_assoc, List.append_nil]
    rfl
  · unfold decodeTopologyPayload decodeAll
    change (topologyDecoder _).map Prod.fst = _
    unfold topologyDecoder
    rw [bind_ok (decodes_streamHeader _ _ _ _), bind_ok (field_i64 _ _ _ _), bind_ok (hregions _),
      bind_ok (hresources _), bind_ok hlinks, bind_ok requireEnd_nil]
    change ((liftM (gathered s.validFrom s.validUntil s.tables).build >>= _ : Decoder TopologySnapshot) []).map _ = _
    rw [hfresh]
    rfl

theorem decodes_thresholds (t : Thresholds) :
    Decodes decodeThresholds ((Thresholds.words t).flatMap putU32) t := by
  intro rest
  unfold decodeThresholds Thresholds.words
  simp only [List.flatMap_cons, List.flatMap_nil, List.append_assoc, List.nil_append]
  rw [bind_ok (field_u32 _ _ _ _), bind_ok (field_u32 _ _ _ _), bind_ok (field_u32 _ _ _ _),
    bind_ok (field_u32 _ _ _ _), bind_ok (field_u32 _ _ _ _), bind_ok (field_u32 _ _ _ _),
    bind_ok (field_u32 _ _ _ _), bind_ok (field_u32 _ _ _ _), bind_ok (field_u32 _ _ _ _),
    bind_ok (field_u32 _ _ _ _), bind_ok (field_u32 _ _ _ _), bind_ok (field_u32 _ _ _ _),
    bind_ok (field_u32 _ _ _ _), bind_ok (field_u32 _ _ _ _), bind_ok (field_u32 _ _ _ _),
    bind_ok (field_u32 _ _ _ _), bind_ok (field_u32 _ _ _ _), bind_ok (field_u32 _ _ _ _),
    bind_ok (field_u32 _ _ _ _)]
  rfl

theorem decodes_budget (b : MitigationBudget) : Decodes decodeBudget
    ((MitigationBudget.words b).flatMap putU32 ++ (MitigationBudget.flags b).flatMap putBool) b := by
  intro rest
  unfold decodeBudget MitigationBudget.words MitigationBudget.flags
  simp only [List.flatMap_cons, List.flatMap_nil, List.append_assoc, List.nil_append]
  rw [bind_ok (field_u32 _ _ _ _), bind_ok (field_u32 _ _ _ _), bind_ok (field_u32 _ _ _ _),
    bind_ok (field_u32 _ _ _ _), bind_ok (field_u32 _ _ _ _), bind_ok (field_u32 _ _ _ _),
    bind_ok (field_u32 _ _ _ _), bind_ok (field_bool _ _ _ _), bind_ok (field_bool _ _ _ _),
    bind_ok (field_bool _ _ _ _), bind_ok (field_bool _ _ _ _), bind_ok (field_bool _ _ _ _),
    bind_ok (field_bool _ _ _ _), bind_ok (field_bool _ _ _ _)]
  simp only [flag_ne_zero]
  rfl

theorem decodes_bands (b : SeverityBands) : Decodes decodeBands ((SeverityBands.words b).flatMap putU32) b := by
  intro rest
  unfold decodeBands SeverityBands.words
  simp only [List.flatMap_cons, List.flatMap_nil, List.append_assoc, List.nil_append]
  rw [bind_ok (field_u32 _ _ _ _), bind_ok (field_u32 _ _ _ _), bind_ok (field_u32 _ _ _ _),
    bind_ok (field_u32 _ _ _ _)]
  rfl

theorem policy_roundTrip (s : PolicySnapshot) :
    ∃ rest, encodePolicyPayload s = encodeStreamHeader .policy s.generation.value s.issuedAt ++ rest ∧
      decodePolicyPayload (encodeStreamHeader .policy s.generation.value s.issuedAt ++ rest) =
        .ok { s with provenance := {} } := by
  have hbands := decodes_bands s.bands []
  refine ⟨putU64 s.id.value ++ (putI64 s.issuedAt ++ (putU32 s.ttlMs ++
    ((Thresholds.words s.thresholds).flatMap putU32 ++ (((MitigationBudget.words s.budget).flatMap putU32 ++
    (MitigationBudget.flags s.budget).flatMap putBool) ++
    ((SeverityBands.words s.bands).flatMap putU32 ++ []))))), ?_, ?_⟩
  · unfold encodePolicyPayload
    simp only [List.append_assoc, List.append_nil]
  · unfold decodePolicyPayload decodeAll
    change (policyDecoder _).map Prod.fst = _
    unfold policyDecoder
    rw [bind_ok (decodes_streamHeader _ _ _ _), bind_ok (field_u64 _ _ _ _), bind_ok (field_i64 _ _ _ _),
      bind_ok (field_u32 _ _ _ _), bind_ok (decodes_thresholds _ _), bind_ok (decodes_budget _ _),
      bind_ok hbands, bind_ok requireEnd_nil]
    rfl

theorem welcome_roundTrip {welcome : WelcomePayload} (hname : welcome.name.length ≤ Limits.kMaxTextBytes) :
    decodeWelcome (encodeWelcome welcome) = .ok welcome := by
  have htext := field_text .truncatedFrame "welcome payload truncated" [] hname (by decide)
  unfold decodeWelcome decodeAll encodeWelcome
  change (welcomeDecoder _).map Prod.fst = _
  unfold welcomeDecoder
  rw [List.append_nil] at htext
  simp only [List.append_assoc]
  rw [bind_ok (field_u64 _ _ _ _), bind_ok (field_u64 _ _ _ _), bind_ok (field_u32 _ _ _ _),
    bind_ok (field_u32 _ _ _ _), bind_ok htext, bind_ok requireEnd_nil]
  rfl

inductive StreamSnapshot
  | topology (s : TopologySnapshot)
  | capacity (s : CapacitySnapshot)
  | signals (s : SignalSnapshot)
  | paths (s : PathSnapshot)
  | traffic (s : TrafficSnapshot)
  | policy (s : PolicySnapshot)

namespace StreamSnapshot

def kind : StreamSnapshot → StreamKind
  | .topology _ => .topology
  | .capacity _ => .capacity
  | .signals _ => .signals
  | .paths _ => .paths
  | .traffic _ => .traffic
  | .policy _ => .policy

def Built : StreamSnapshot → Prop
  | .topology s => ∃ source : TopologySnapshot, source.build = .ok s
  | .capacity s => ∃ source : CapacitySnapshot, source.build = .ok s
  | .signals s => ∃ source : SignalSnapshot, source.build = .ok s
  | .paths s => ∃ source : PathSnapshot, source.build = .ok s
  | .traffic s => ∃ source : TrafficSnapshot, source.build = .ok s
  | .policy _ => True

def withoutProvenance : StreamSnapshot → StreamSnapshot
  | .topology s => .topology { s with provenance := {} }
  | .capacity s => .capacity { s with provenance := {} }
  | .signals s => .signals { s with provenance := {} }
  | .paths s => .paths { s with provenance := {} }
  | .traffic s => .traffic { s with provenance := {} }
  | .policy s => .policy { s with provenance := {} }

def encodePayload : StreamSnapshot → Result Bytes
  | .topology s => encodeTopologyPayload s
  | .capacity s => encodeCapacityPayload s
  | .signals s => encodeSignalsPayload s
  | .paths s => encodePathsPayload s
  | .traffic s => encodeTrafficPayload s
  | .policy s => .ok (encodePolicyPayload s)

def decodePayload (kind : StreamKind) (payload : Bytes) : Result StreamSnapshot :=
  match kind with
  | .topology => (decodeTopologyPayload payload).map .topology
  | .capacity => (decodeCapacityPayload payload).map .capacity
  | .signals => (decodeSignalsPayload payload).map .signals
  | .paths => (decodePathsPayload payload).map .paths
  | .traffic => (decodeTrafficPayload payload).map .traffic
  | .policy => (decodePolicyPayload payload).map .policy
  | .unknown => Status.failure .malformedFrame "message type is not a stream frame"

end StreamSnapshot

theorem decodePayload_foreign {stream expected : StreamKind} (h : expected ≠ stream) (generation : UInt64)
    (observedAt : Millis) (rest : Bytes) : ∃ e, StreamSnapshot.decodePayload expected
      (encodeStreamHeader stream generation observedAt ++ rest) = .error e := by
  have hrefused := fun {α : Type} (body : StreamHeader → Decoder α) ↦
    foreign_stream_refused h.symm body generation observedAt rest
  cases expected with
  | unknown => exact ⟨_, rfl⟩
  | topology => exact ⟨_, congrArg (Except.map _) (hrefused _)⟩
  | capacity => exact ⟨_, congrArg (Except.map _) (hrefused _)⟩
  | signals => exact ⟨_, congrArg (Except.map _) (hrefused _)⟩
  | paths => exact ⟨_, congrArg (Except.map _) (hrefused _)⟩
  | traffic => exact ⟨_, congrArg (Except.map _) (hrefused _)⟩
  | policy => exact ⟨_, congrArg (Except.map _) (hrefused _)⟩

/-- A payload starts with the header of its own stream, and its decoder gives the snapshot back. -/
def RoundTrips (s : StreamSnapshot) : Prop :=
  ∃ generation observedAt rest,
    s.encodePayload = .ok (encodeStreamHeader s.kind generation observedAt ++ rest) ∧
      StreamSnapshot.decodePayload s.kind (encodeStreamHeader s.kind generation observedAt ++ rest) =
        .ok s.withoutProvenance

theorem roundTrips_of_built {s : StreamSnapshot} (h : s.Built) : RoundTrips s := by
  cases s with
  | topology s =>
    obtain ⟨source, h⟩ := h
    obtain ⟨rest, he, hd⟩ := topology_roundTrip h
    exact ⟨_, _, rest, he, congrArg (Except.map _) hd⟩
  | capacity s =>
    obtain ⟨source, h⟩ := h
    obtain ⟨rest, he, hd⟩ := capacity_roundTrip h
    exact ⟨_, _, rest, he, congrArg (Except.map _) hd⟩
  | signals s =>
    obtain ⟨source, h⟩ := h
    obtain ⟨rest, he, hd⟩ := signals_roundTrip h
    exact ⟨_, _, rest, he, congrArg (Except.map _) hd⟩
  | paths s =>
    obtain ⟨source, h⟩ := h
    obtain ⟨rest, he, hd⟩ := paths_roundTrip h
    exact ⟨_, _, rest, he, congrArg (Except.map _) hd⟩
  | traffic s =>
    obtain ⟨source, h⟩ := h
    obtain ⟨rest, he, hd⟩ := traffic_roundTrip h
    exact ⟨_, _, rest, he, congrArg (Except.map _) hd⟩
  | policy s =>
    obtain ⟨rest, he, hd⟩ := policy_roundTrip s
    exact ⟨_, _, rest, congrArg Except.ok he, congrArg (Except.map _) hd⟩

/-- What a stream encodes its own decoder gives back, and every other decoder refuses. -/
theorem decodePayload_encodePayload (s : StreamSnapshot) (h : s.Built) :
    ∃ payload, s.encodePayload = .ok payload ∧
      StreamSnapshot.decodePayload s.kind payload = .ok s.withoutProvenance ∧
      ∀ kind, kind ≠ s.kind → ∃ e, StreamSnapshot.decodePayload kind payload = .error e := by
  obtain ⟨generation, observedAt, rest, he, hd⟩ := roundTrips_of_built h
  exact ⟨_, he, hd, fun kind hk ↦ decodePayload_foreign hk generation observedAt rest⟩

/-- Two paths over three resources, entered in the wrong order. -/
def twoPaths : PathSnapshot :=
  (PathSnapshot.add default { id := ⟨2⟩, flow := ⟨9⟩, hops := [⟨3⟩, ⟨1⟩] }).add
    { id := ⟨1⟩, flow := ⟨8⟩, hops := [⟨1⟩, ⟨2⟩] }

theorem twoPaths_roundTrip : ∃ s : PathSnapshot, twoPaths.build = .ok s ∧
    ∃ payload, encodePathsPayload s = .ok payload ∧
      StreamSnapshot.decodePayload .paths payload = .ok (.paths { s with provenance := {} }) := by
  have hbuilt : ∃ s, twoPaths.build = .ok s := ⟨_, rfl⟩
  obtain ⟨s, hs⟩ := hbuilt
  obtain ⟨payload, he, hd, -⟩ := decodePayload_encodePayload (.paths s) ⟨twoPaths, hs⟩
  exact ⟨s, hs, payload, he, hd⟩

end HotspotGovernor.RoundTrip
