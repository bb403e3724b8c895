import HotspotGovernor.Framing

namespace HotspotGovernor.Registry

open Foundation Lib Topology Framing SortedList

structure PublisherState where
  id : PublisherId
  incarnation : Incarnation := default
  boot : BootId := default
  epoch : CoordinatorEpoch := default
  lastSequence : Sequence := 0
  generation : StreamGeneration := {}
  streamGenerations : StreamKind → UInt64 := fun _ ↦ 0
  firstSeen : Millis := kNoTime
  lastSeen : Millis := kNoTime
  diedAt : Millis := kNoTime
  alive : Bool := false
  accepted : UInt64 := 0

namespace PublisherState

variable (p : PublisherState)

def enroll (hello : HelloPayload) (epoch : CoordinatorEpoch) (now : Millis) : PublisherState :=
  { id := hello.publisher
    incarnation := hello.incarnation
    boot := hello.boot
    epoch
    firstSeen := now
    lastSeen := now
    alive := true }

def refresh (epoch : CoordinatorEpoch) (now : Millis) : PublisherState :=
  { p with alive := true, epoch, lastSeen := now }

/-- A strictly higher incarnation fences the previous one. -/
def supersede (hello : HelloPayload) (epoch : CoordinatorEpoch) (now : Millis) : PublisherState :=
  { p with
    incarnation := hello.incarnation
    boot := hello.boot
    epoch
    lastSequence := 0
    generation := {}
    streamGenerations := fun _ ↦ 0
    alive := true
    firstSeen := now
    lastSeen := now
    diedAt := kNoTime }

def fence (epoch : CoordinatorEpoch) (now : Millis) : PublisherState :=
  if p.epoch ≠ epoch then
    { p with
      alive := false
      diedAt := now
      generation := {}
      streamGenerations := fun _ ↦ 0
      lastSequence := 0 }
  else p

def die (now : Millis) : PublisherState := { p with alive := false, diedAt := now }

def beat (sequence : Sequence) (now : Millis) : PublisherState :=
  { p with
    lastSequence := if sequence ≠ 0 then sequence else p.lastSequence
    lastSeen := now }

def enter (epoch : CoordinatorEpoch) : PublisherState :=
  if p.epoch ≠ epoch then
    { p with epoch, lastSequence := 0, generation := {}, streamGenerations := fun _ ↦ 0 }
  else p

def apply (stream : StreamKind) (header : FrameHeader) (now : Millis) : PublisherState :=
  { p with
    lastSequence := header.sequence
    generation := ⟨stream, header.generation⟩
    streamGenerations := Function.update p.streamGenerations stream header.generation
    lastSeen := now
    alive := true
    accepted := satAdd p.accepted 1 }

@[simp] theorem fence_id (epoch : CoordinatorEpoch) (now : Millis) : (p.fence epoch now).id = p.id := by
  unfold fence
  split <;> rfl

@[simp] theorem enter_id (epoch : CoordinatorEpoch) : (p.enter epoch).id = p.id := by
  unfold enter
  split <;> rfl

theorem enter_eq_self {epoch : CoordinatorEpoch} (h : p.epoch = epoch) : p.enter epoch = p :=
  if_neg (not_not.mpr h)

end PublisherState

structure Publishers where
  entries : List PublisherState := []
  sorted : Strict PublisherState.id entries := by exact List.Pairwise.nil

instance : Inhabited Publishers := ⟨{}⟩

namespace Publishers

def findPublisher (r : Publishers) (id : PublisherId) : Option PublisherState :=
  SortedList.find PublisherState.id id r.entries

def modify (r : Publishers) (id : PublisherId) (f : PublisherState → PublisherState)
    (hf : ∀ p, (f p).id = p.id) : Publishers :=
  ⟨update PublisherState.id id f r.entries, r.sorted.update hf⟩

def insert (r : Publishers) (p : PublisherState) (h : r.findPublisher p.id = none) : Publishers :=
  ⟨SortedList.insert PublisherState.id p r.entries, r.sorted.insert h⟩

def fenceAll (r : Publishers) (epoch : CoordinatorEpoch) (now : Millis) : Publishers :=
  ⟨r.entries.map (fun p ↦ p.fence epoch now),
    r.sorted.of_map_key (by simp [List.map_map, Function.comp_def])⟩

variable {r : Publishers} {id id' : PublisherId}

theorem findPublisher_modify_self {f : PublisherState → PublisherState} (hf : ∀ p, (f p).id = p.id) :
    (r.modify id f hf).findPublisher id = (r.findPublisher id).map f :=
  (find_update hf r.entries).trans (if_pos rfl)

theorem findPublisher_modify_of_ne {f : PublisherState → PublisherState} (hf : ∀ p, (f p).id = p.id)
    (h : id' ≠ id) : (r.modify id f hf).findPublisher id' = r.findPublisher id' :=
  (find_update hf r.entries).trans (if_neg h)

theorem findPublisher_insert_self {p : PublisherState} (h : r.findPublisher p.id = none) :
    (r.insert p h).findPublisher p.id = some p := (r.sorted.find_insert h p.id).trans (if_pos rfl)

theorem findPublisher_insert_of_ne {p : PublisherState} (h : r.findPublisher p.id = none)
    (hne : id ≠ p.id) : (r.insert p h).findPublisher id = r.findPublisher id :=
  (r.sorted.find_insert h id).trans (if_neg hne)

theorem findPublisher_fenceAll (epoch : CoordinatorEpoch) (now : Millis) :
    (r.fenceAll epoch now).findPublisher id =
      (r.findPublisher id).map (fun p ↦ p.fence epoch now) := by
  apply Option.ext
  intro p
  rw [findPublisher, (r.fenceAll epoch now).sorted.find_eq_some_iff, Option.map_eq_some_iff]
  constructor
  · intro h
    obtain ⟨hp, rfl⟩ := h
    obtain ⟨q, hq, rfl⟩ := List.mem_map.mp hp
    exact ⟨q, r.sorted.find_eq_some_iff.mpr ⟨hq, (q.fence_id epoch now).symm⟩, rfl⟩
  · intro h
    obtain ⟨q, hq, rfl⟩ := h
    obtain ⟨hmem, rfl⟩ := r.sorted.find_eq_some_iff.mp hq
    exact ⟨List.mem_map_of_mem hmem, q.fence_id epoch now⟩

theorem ext {r' : Publishers} (h : r.entries = r'.entries) : r = r' := by
  cases r
  cases r'
  cases h
  rfl

theorem modify_eq_self {f : PublisherState → PublisherState} (hf : ∀ p, (f p).id = p.id)
    {p : PublisherState} (h : r.findPublisher id = some p) (hfp : f p = p) : r.modify id f hf = r := by
  have hentries : (r.modify id f hf).entries = r.entries := by
    apply List.ext_getElem?
    intro j
    refine (getElem?_update _ _ _ j).trans ?_
    split
    · next hj =>
      obtain ⟨q, hq, -, hfind⟩ := findIndex_eq_some hj
      obtain rfl : q = p := Option.some.inj (hfind.symm.trans h)
      rw [hq, Option.map_some, hfp]
    · rfl
  exact ext hentries

end Publishers

end HotspotGovernor.Registry
