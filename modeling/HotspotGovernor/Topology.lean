import HotspotGovernor.ByteIo
import HotspotGovernor.Lib.Csr
import Mathlib.Data.Prod.Lex

namespace HotspotGovernor.Topology

open Foundation ByteIo Lib

/-- Run a check over a list, each element seen together with the one before it. -/
def checkAll {α : Type} (check : Option α → α → Status) : Option α → List α → Status
  | _, [] => .ok ()
  | prev, x :: xs =>
    match check prev x with
    | .error e => .error e
    | .ok () => checkAll check (some x) xs

structure StreamGeneration where
  stream : StreamKind := .unknown
  value : UInt64 := 0
  deriving DecidableEq

/-- Who produced a statement, under which authority, at which sequence and generation. -/
structure Provenance where
  publisher : PublisherId := default
  incarnation : Incarnation := default
  boot : BootId := default
  epoch : CoordinatorEpoch := default
  sequence : Sequence := 0
  generation : StreamGeneration := {}
  emittedAt : Millis := kNoTime
  deriving DecidableEq

/-- What kind of fabric resource a topology entry describes. The wire carries any byte. -/
inductive ResourceKind
  | unknown | switch | port | link | queue | buffer | host | optical | other
  | unnamed (code : UInt8) (h : 7 < code ∧ code ≠ 255)
  deriving DecidableEq

def ResourceKind.code : ResourceKind → UInt8
  | .unknown => 0
  | .switch => 1
  | .port => 2
  | .link => 3
  | .queue => 4
  | .buffer => 5
  | .host => 6
  | .optical => 7
  | .other => 255
  | .unnamed code _ => code

def ResourceKind.ofCode (code : UInt8) : ResourceKind :=
  if h : 7 < code ∧ code ≠ 255 then .unnamed code h
  else if code = 1 then .switch
  else if code = 2 then .port
  else if code = 3 then .link
  else if code = 4 then .queue
  else if code = 5 then .buffer
  else if code = 6 then .host
  else if code = 7 then .optical
  else if code = 255 then .other
  else .unknown

structure Region where
  id : RegionId
  name : Bytes
  parent : RegionId
  deriving DecidableEq

structure Resource where
  id : ResourceId
  region : RegionId
  kind : ResourceKind
  name : Bytes
  deriving DecidableEq

/-- An undirected adjacency between two resources. -/
structure Link where
  id : LinkId
  endpointA : ResourceId
  endpointB : ResourceId
  deriving DecidableEq

/-- The lists of a topology together with the index derived from them. -/
structure Tables where
  regions : List Region := []
  resources : List Resource := []
  links : List Link := []
  neighborOffsets : List ℕ := []
  neighborIds : List ResourceId := []
  chainOffsets : List ℕ := []
  chainIds : List RegionId := []

def findRegion (regions : List Region) (id : RegionId) : Option Region :=
  if id.valid then SortedList.find Region.id id regions else none

def findResource (resources : List Resource) (id : ResourceId) : Option Resource :=
  if id.valid then SortedList.find Resource.id id resources else none

def checkRegion (prev : Option Region) (region : Region) : Status :=
  if !region.id.valid then Status.failure .invalidArgument "region id 0 is reserved"
  else if prev.any (fun p ↦ region.id = p.id) then
    Status.failure .invalidArgument ("duplicate region id " ++ StrongId.hex region.id)
  else if region.name.length > Limits.kMaxRegionNameBytes then
    Status.failure .boundExceeded "region name exceeds limit"
  else .ok ()

def checkParent (regions : List Region) (_ : Option Region) (region : Region) : Status :=
  if region.parent.valid ∧ SortedList.find Region.id region.parent regions = none then
    Status.failure .unknownRegion ("region parent " ++ StrongId.hex region.parent ++ " is unknown")
  else if region.parent = region.id then
    Status.failure .invalidArgument "region is its own parent"
  else .ok ()

/-- Follow parents from `cursor` for at most `steps` steps and say whether the walk ended. -/
def parentWalkEnds (regions : List Region) : ℕ → RegionId → Bool
  | 0, cursor => !cursor.valid
  | steps + 1, cursor =>
    if cursor.valid then
      match findRegion regions cursor with
      | none => true
      | some parent => parentWalkEnds regions steps parent.parent
    else true

def checkCycle (regions : List Region) (_ : Option Region) (region : Region) : Status :=
  if parentWalkEnds regions regions.length region.parent then .ok ()
  else Status.failure .invalidArgument "region parent cycle detected"

def checkResource (regions : List Region) (prev : Option Resource) (resource : Resource) : Status :=
  if !resource.id.valid then Status.failure .invalidArgument "resource id 0 is reserved"
  else if prev.any (fun p ↦ resource.id = p.id) then
    Status.failure .invalidArgument ("duplicate resource id " ++ StrongId.hex resource.id)
  else if !resource.region.valid ∨ findRegion regions resource.region = none then
    Status.failure .unknownRegion ("resource " ++ StrongId.hex resource.id ++ " names unknown region")
  else if resource.name.length > Limits.kMaxResourceNameBytes then
    Status.failure .boundExceeded "resource name exceeds limit"
  else .ok ()

/-- The unordered pair a link joins, smaller end first: the order the links are sorted in. -/
def Link.ends (link : Link) : ResourceId ×ₗ ResourceId :=
  if link.endpointA < link.endpointB then toLex (link.endpointA, link.endpointB)
  else toLex (link.endpointB, link.endpointA)

def samePair (prev link : Link) : Bool :=
  (prev.endpointA = link.endpointA && prev.endpointB = link.endpointB) ||
    (prev.endpointA = link.endpointB && prev.endpointB = link.endpointA)

def checkLink (resources : List Resource) (prev : Option Link) (link : Link) : Status :=
  if !link.endpointA.valid ∨ !link.endpointB.valid then
    Status.failure .invalidArgument "link names resource id 0"
  else if link.endpointA = link.endpointB then
    Status.failure .invalidArgument "link is a self loop"
  else if findResource resources link.endpointA = none ∨ findResource resources link.endpointB = none then
    Status.failure .unknownResource "link endpoint is not a known resource"
  else if prev.any (fun p ↦ samePair p link) then
    Status.failure .invalidArgument "duplicate adjacency between two resources"
  else .ok ()

def resourceIndex (resources : List Resource) (id : ResourceId) : ℕ :=
  SortedList.lowerBound Resource.id id resources

def arcs (resources : List Resource) (links : List Link) : List (ℕ × ResourceId) :=
  links.flatMap (fun link ↦
    [(resourceIndex resources link.endpointA, link.endpointB),
      (resourceIndex resources link.endpointB, link.endpointA)])

def bumpDegree (degree : List ℕ) (row : ℕ) : Result (List ℕ) :=
  let degree := degree.modify row (· + 1)
  if degree.getD row 0 > Limits.kMaxNeighborsPerResource then
    Status.failure .boundExceeded "resource degree exceeds limit"
  else .ok degree

def countDegrees (resources : List Resource) (links : List Link) : Result (List ℕ) :=
  (arcs resources links).foldlM (fun degree e ↦ bumpDegree degree e.1)
    (List.replicate resources.length 0)

/-- A region followed by its ancestors, nearest first, for at most `steps` entries. -/
def regionWalk (regions : List Region) : ℕ → RegionId → List RegionId
  | 0, _ => []
  | steps + 1, cursor =>
    if cursor.valid then
      cursor :: match findRegion regions cursor with
        | none => []
        | some entry => regionWalk regions steps entry.parent
    else []

/-- Chain offsets are 32-bit: the running length is narrowed on every store. -/
def narrowOffset (n : ℕ) : ℕ := n % 2 ^ 32

def indexTables (regions : List Region) (resources : List Resource) (links : List Link)
    (degree : List ℕ) : Tables :=
  let offsets := Csr.offsets degree
  let ids := Csr.fill offsets default (arcs resources links)
  let rows := Csr.uniqueRows id resources.length offsets ids
  let neighbors := Csr.compact resources.length rows.1 rows.2
  let chains := resources.map (fun r ↦ regionWalk regions (regions.length + 1) r.region)
  { regions, resources, links
    neighborOffsets := neighbors.1
    neighborIds := neighbors.2
    chainOffsets := ((chains.map List.length).scanl (· + ·) 0).map narrowOffset
    chainIds := chains.flatten }

def validateAndIndex (regions : List Region) (resources : List Resource) (links : List Link) :
    Result Tables := do
  let regions := SortedList.sortBy Region.id regions
  checkAll checkRegion none regions
  checkAll (checkParent regions) none regions
  checkAll (checkCycle regions) none regions
  let resources := SortedList.sortBy Resource.id resources
  checkAll (checkResource regions) none resources
  let links := SortedList.sortBy Link.ends links
  checkAll (checkLink resources) none links
  let degree ← countDegrees resources links
  return indexTables regions resources links degree

def buildTables (regions : List Region) (resources : List Resource) (links : List Link) :
    Result Tables :=
  if regions.length > Limits.kMaxRegions then
    Status.failure .boundExceeded "region count exceeds limit"
  else if resources.length > Limits.kMaxResources then
    Status.failure .boundExceeded "resource count exceeds limit"
  else if links.length > Limits.kMaxLinks then
    Status.failure .boundExceeded "link count exceeds limit"
  else validateAndIndex regions resources links

def Tables.encode (t : Tables) : Bytes :=
  putCount t.regions.length ++
  t.regions.flatMap (fun r ↦ putU64 r.id.value ++ putU64 r.parent.value ++ putText r.name) ++
  putCount t.resources.length ++
  t.resources.flatMap (fun r ↦
    putU64 r.id.value ++ putU64 r.region.value ++ putU8 r.kind.code ++ putText r.name) ++
  putCount t.links.length ++
  t.links.flatMap (fun l ↦ putU64 l.id.value ++ putU64 l.endpointA.value ++ putU64 l.endpointB.value)

/-- A topology snapshot. Once built, its tables are the outcome of a successful build: adding an
entry clears the flag. -/
structure TopologySnapshot where
  tables : Tables := {}
  id : TopologyId := default
  digest : Digest := {}
  generation : TopologyGeneration := default
  provenance : Provenance := {}
  validFrom : Millis := kNoTime
  validUntil : Millis := 0
  built : Bool := false
  indexed : built = true → ∃ regions resources links, buildTables regions resources links = .ok tables
    := by simp

instance : Inhabited TopologySnapshot := ⟨{}⟩

namespace TopologySnapshot

def addRegion (s : TopologySnapshot) (id : RegionId) (name : Bytes) (parent : RegionId) :
    TopologySnapshot :=
  { s with
    tables := { s.tables with
      regions := s.tables.regions ++ [⟨id, name.take Limits.kMaxRegionNameBytes, parent⟩] }
    built := false
    indexed := by simp }

def addResource (s : TopologySnapshot) (id : ResourceId) (region : RegionId) (kind : ResourceKind)
    (name : Bytes) : TopologySnapshot :=
  { s with
    tables := { s.tables with
      resources := s.tables.resources ++ [⟨id, region, kind, name.take Limits.kMaxResourceNameBytes⟩] }
    built := false
    indexed := by simp }

def addLink (s : TopologySnapshot) (id : LinkId) (a b : ResourceId) : TopologySnapshot :=
  { s with
    tables := { s.tables with links := s.tables.links ++ [⟨id, a, b⟩] }
    built := false
    indexed := by simp }

/-- Sorts, validates, builds the adjacency index and derives the content identity. -/
def build (s : TopologySnapshot) : Result TopologySnapshot :=
  match h : buildTables s.tables.regions s.tables.resources s.tables.links with
  | .error e => .error e
  | .ok tables =>
    let digest := digestOf tables.encode
    .ok { s with
      tables, digest
      id := ⟨digest.fnv⟩
      built := true
      indexed := fun _ ↦ ⟨_, _, _, h⟩ }

theorem build_iff {s out : TopologySnapshot} : s.build = .ok out ↔
    ∃ tables, ∃ h : buildTables s.tables.regions s.tables.resources s.tables.links = .ok tables, out = { s with
      tables, digest := digestOf tables.encode
      id := ⟨(digestOf tables.encode).fnv⟩
      built := true
      indexed := fun _ ↦ ⟨_, _, _, h⟩ } := by
  unfold TopologySnapshot.build
  split
  · next e he =>
    refine iff_of_false (fun hok ↦ by cases hok) ?_
    rintro ⟨tables, h, -⟩
    rw [he] at h
    cases h
  · next tables h =>
    constructor
    · intro hok
      exact ⟨tables, h, (Except.ok.inj hok).symm⟩
    · rintro ⟨tables', h', rfl⟩
      obtain rfl := Except.ok.inj (h.symm.trans h')
      rfl

def setGeneration (s : TopologySnapshot) (generation : TopologyGeneration) : TopologySnapshot :=
  { s with generation }

def setProvenance (s : TopologySnapshot) (provenance : Provenance) : TopologySnapshot :=
  { s with provenance }

def setValidity (s : TopologySnapshot) (validFrom validUntil : Millis) : TopologySnapshot :=
  { s with validFrom, validUntil }

def freshAt (s : TopologySnapshot) (now : Millis) : Bool :=
  s.validUntil = 0 || now ≤ s.validUntil

def resources (s : TopologySnapshot) : List Resource := s.tables.resources

def links (s : TopologySnapshot) : List Link := s.tables.links

def hasResource (s : TopologySnapshot) (id : ResourceId) : Bool :=
  (findResource s.resources id).isSome

/-- Sorted, de-duplicated neighbours of a resource. Empty for unknown ids. -/
def neighbors (s : TopologySnapshot) (id : ResourceId) : List ResourceId :=
  if !s.built || !id.valid then []
  else match SortedList.findIndex Resource.id id s.resources with
    | none => []
    | some index => Csr.row s.tables.neighborOffsets s.tables.neighborIds index

/-- The resource's own region followed by its ancestors, nearest first. -/
def regionChain (s : TopologySnapshot) (id : ResourceId) : List RegionId :=
  if !s.built || !id.valid then []
  else match SortedList.findIndex Resource.id id s.resources with
    | none => []
    | some index =>
      let first := s.tables.chainOffsets.getD index 0
      let last := s.tables.chainOffsets.getD (index + 1) 0
      (s.tables.chainIds.drop first).take (narrowOffset (last + 2 ^ 32 - first))

end TopologySnapshot

end HotspotGovernor.Topology
