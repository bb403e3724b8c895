import HotspotGovernor.Entitlement
import HotspotGovernor.Provenance
import HotspotGovernor.Redelivery
import HotspotGovernor.Synthetic

namespace HotspotGovernor.Publishing

open Foundation ByteIo Topology Evidence Decisions Durable Framing Registry Governance
open Detection Admission Operations Effects Fencing Entitlement Provenance Redelivery RoundTrip Synthetic
open Atomicity Lib.Trace

variable {σ : Type}

/-- What a fabric holds after it was rebuilt, and the policy it issues then. -/
structure Population where
  topology : TopologySnapshot
  capacity : CapacitySnapshot
  signals : SignalSnapshot
  paths : PathSnapshot
  traffic : TrafficSnapshot
  policy : PolicySnapshot

/-- The arguments of the process, and the fabric and the clock it reads. -/
structure Arguments where
  name : String := "hgm-publisher"
  incarnation : Incarnation := ⟨1⟩
  boot : BootId := ⟨1⟩
  rounds : UInt64 := 4
  forcedEpoch : UInt64 := 0
  startGeneration : UInt64 := 1
  fabric : Millis → UInt64 → Population
  clock : ℕ → Millis

/-- The frames handed to the socket so far, and the sequence number of the next one. A payload that does
not encode and a frame that cannot be sent end the process. -/
structure Session where
  sequence : Sequence := 1
  frames : List Frame := []
  failed : Bool := false

/-- The first round announces the fabric, and every round its signals and its traffic. -/
def agenda (round : ℕ) (population : Population) : List (MessageType × StreamSnapshot) :=
  (if round = 0 then
    [(.topology, .topology population.topology), (.capacity, .capacity population.capacity),
      (.paths, .paths population.paths), (.policy, .policy population.policy)]
  else []) ++ [(.signals, .signals population.signals), (.traffic, .traffic population.traffic)]

namespace Arguments

variable (args : Arguments)

def hello : HelloPayload :=
  { publisher := ⟨identityFromBytes args.name⟩
    incarnation := args.incarnation
    boot := args.boot
    name := textBytes args.name }

def epoch (payload : Bytes) : Result CoordinatorEpoch := do
  let welcome ← decodeWelcome payload
  return if args.forcedEpoch ≠ 0 then ⟨args.forcedEpoch⟩ else welcome.epoch

def stamp (epoch : CoordinatorEpoch) (type : MessageType) (sequence : Sequence) (generation : UInt64)
    (emittedAt : Millis) : Provenance :=
  { publisher := args.hello.publisher
    incarnation := args.incarnation
    boot := args.boot
    epoch
    sequence
    generation := ⟨streamOf type, generation⟩
    emittedAt }

def publish (epoch : CoordinatorEpoch) (generation : UInt64) (at' : Millis) (session : Session)
    (item : MessageType × StreamSnapshot) : Session :=
  if session.failed then session
  else match item.2.encodePayload with
    | .error _ => { session with failed := true }
    | .ok body =>
      let frame := makeFrame item.1 (args.stamp epoch item.1 session.sequence generation at') body
      match encodeFrame frame with
      | .error _ => { session with sequence := session.sequence + 1, failed := true }
      | .ok _ => { session with sequence := session.sequence + 1, frames := session.frames ++ [frame] }

def generation (round : ℕ) : UInt64 := args.startGeneration + UInt64.ofNat round

def population (round : ℕ) : Population := args.fabric (args.clock round) (args.generation round)

def publishRound (epoch : CoordinatorEpoch) (session : Session) (round : ℕ) : Session :=
  (agenda round (args.population round)).foldl (args.publish epoch (args.generation round) (args.clock round)) session

def session (epoch : CoordinatorEpoch) : ℕ → Session
  | 0 => {}
  | round + 1 => args.publishRound epoch (session epoch round) round

def frames (epoch : CoordinatorEpoch) : List Frame := (args.session epoch args.rounds.toNat).frames

end Arguments

/-- The frames of a client that stamps each with its credentials and counts sequence and generation up. -/
structure Conforming (hello : HelloPayload) (epoch : CoordinatorEpoch) (frames : List Frame) : Prop where
  credentials : ∀ f ∈ frames, f.header.publisher = hello.publisher ∧ f.header.incarnation = hello.incarnation ∧
    f.header.boot = hello.boot ∧ f.header.epoch = epoch
  kinds : ∀ f ∈ frames, f.header.type = .heartbeat ∨
    streamOf f.header.type ≠ .unknown ∧ f.header.generation ≠ 0
  numbered : ∀ f ∈ frames, f.header.sequence ≠ 0
  ascending : frames.Pairwise fun f f' ↦ f.header.sequence < f'.header.sequence ∧
    (streamOf f'.header.type ≠ .unknown → streamOf f.header.type = streamOf f'.header.type →
      f.header.generation < f'.header.generation)

variable {hello : HelloPayload} {epoch : CoordinatorEpoch} {frames : List Frame} {f : Frame}

theorem Conforming.snoc (h : Conforming hello epoch frames)
    (hcredentials : f.header.publisher = hello.publisher ∧ f.header.incarnation = hello.incarnation ∧
      f.header.boot = hello.boot ∧ f.header.epoch = epoch)
    (hkind : f.header.type = .heartbeat ∨ streamOf f.header.type ≠ .unknown ∧ f.header.generation ≠ 0)
    (hnumbered : f.header.sequence ≠ 0)
    (hlast : ∀ f' ∈ frames, f'.header.sequence < f.header.sequence ∧ (streamOf f.header.type ≠ .unknown →
      streamOf f'.header.type = streamOf f.header.type → f'.header.generation < f.header.generation)) :
    Conforming hello epoch (frames ++ [f]) := by
  have hall : ∀ {kind : Frame → Prop}, (∀ f' ∈ frames, kind f') → kind f →
    ∀ f' ∈ frames ++ [f], kind f' := by
    intro kind hframes hf f' hf'
    rcases List.mem_append.mp hf' with hf' | hf'
    · exact hframes f' hf'
    · rw [List.mem_singleton.mp hf']
      exact hf
  refine ⟨hall h.credentials hcredentials, hall h.kinds hkind, hall h.numbered hnumbered, ?_⟩
  rw [List.pairwise_append]
  refine ⟨h.ascending, List.pairwise_singleton .., ?_⟩
  intro f' hf' g hg
  rw [List.mem_singleton.mp hg]
  exact hlast f' hf'

/-- Where an unfailed session stands in a round, with the streams that the round has yet to publish. -/
structure Ready (args : Arguments) (round : ℕ) (todo : List StreamKind) (session : Session) : Prop where
  sequence : session.sequence.toNat = session.frames.length + 1
  length : session.frames.length + todo.length ≤ 4 + 2 * (round + 1)
  below : ∀ f ∈ session.frames, f.header.sequence < session.sequence
  behind : ∀ f ∈ session.frames, f.header.generation.toNat < args.startGeneration.toNat + round ∨
    f.header.generation.toNat = args.startGeneration.toNat + round ∧ streamOf f.header.type ∉ todo

def Orderly (args : Arguments) (epoch : CoordinatorEpoch) (round : ℕ) (todo : List StreamKind)
    (session : Session) : Prop :=
  Conforming args.hello epoch session.frames ∧ (session.failed = false → Ready args round todo session)

section Process

variable {args : Arguments} {session : Session} {round : ℕ} {todo : List StreamKind}

/-- Neither the sequence numbers nor the generations of the session wrap around. -/
structure Modest (args : Arguments) : Prop where
  generation : args.startGeneration ≠ 0
  generations : args.startGeneration.toNat + args.rounds.toNat ≤ 2 ^ 64
  sequences : 4 + 2 * args.rounds.toNat < 2 ^ 64 - 1

theorem Modest.generation_toNat (h : Modest args) (hround : round < args.rounds.toNat) :
    (args.generation round).toNat = args.startGeneration.toNat + round := by
  have hbound := h.generations
  unfold Arguments.generation
  rw [UInt64.toNat_add, UInt64.toNat_ofNat']
  omega

theorem Orderly.fail (h : Orderly args epoch round todo session) (sequence : Sequence) (todo' : List StreamKind) :
    Orderly args epoch round todo' { session with sequence, failed := true } :=
  ⟨h.1, fun hfailed ↦ absurd hfailed (by simp)⟩

theorem Orderly.publish (hmodest : Modest args) (hround : round < args.rounds.toNat)
    {item : MessageType × StreamSnapshot} (hstream : streamOf item.1 ≠ .unknown) (hnew : streamOf item.1 ∉ todo)
    (h : Orderly args epoch round (streamOf item.1 :: todo) session) (emittedAt : Millis) :
    Orderly args epoch round todo (args.publish epoch (args.generation round) emittedAt session item) := by
  unfold Arguments.publish
  split
  · next hfailed => exact ⟨h.1, fun hlive ↦ absurd hfailed (by simp [hlive])⟩
  · next hlive =>
    have hready := h.2 (by simpa using hlive)
    have hlength := hready.length
    have hsequences := hmodest.sequences
    have hsequence := hready.sequence
    have hgeneration := hmodest.generation_toNat hround
    rw [List.length_cons] at hlength
    have hnext : (session.sequence + 1).toNat = session.frames.length + 2 := by
      rw [UInt64.toNat_add, hsequence]
      change (session.frames.length + 1 + 1) % 2 ^ 64 = _
      omega
    split
    · exact h.fail _ _
    · next body hbody =>
      dsimp only
      split
      · exact h.fail _ _
      · refine ⟨h.1.snoc ⟨rfl, rfl, rfl, rfl⟩ (Or.inr ⟨hstream, ?_⟩) ?_ ?_, fun _ ↦ ⟨?_, ?_, ?_, ?_⟩⟩
        · intro hzero
          have hzero' : (args.generation round).toNat = 0 := congrArg UInt64.toNat hzero
          have hstart : args.startGeneration.toNat ≠ 0 := fun hz ↦ hmodest.generation (UInt64.toNat_inj.mp hz)
          omega
        · intro hzero
          have hzero' : session.sequence.toNat = 0 := congrArg UInt64.toNat hzero
          omega
        · intro f hf
          refine ⟨hready.below f hf, fun _ hsame ↦ ?_⟩
          rw [UInt64.lt_iff_toNat_lt]
          change _ < (args.generation round).toNat
          rw [hgeneration]
          rcases hready.behind f hf with hlt | ⟨-, hdone⟩
          · exact hlt
          · exact absurd (List.mem_cons.mpr (Or.inl hsame)) hdone
        · rw [hnext, List.length_append, List.length_singleton]
        · rw [List.length_append, List.length_singleton]
          omega
        · intro f hf
          rw [UInt64.lt_iff_toNat_lt]
          change _ < (session.sequence + 1).toNat
          rw [hnext]
          rcases List.mem_append.mp hf with hf | hf
          · have hlt := UInt64.lt_iff_toNat_lt.mp (hready.below f hf)
            omega
          · rw [List.mem_singleton.mp hf]
            change session.sequence.toNat < _
            omega
        · intro f hf
          rcases List.mem_append.mp hf with hf | hf
          · rcases hready.behind f hf with hlt | ⟨heq, hdone⟩
            · exact Or.inl hlt
            · exact Or.inr ⟨heq, fun htodo ↦ hdone (List.mem_cons_of_mem _ htodo)⟩
          · rw [List.mem_singleton.mp hf]
            exact Or.inr ⟨hgeneration, hnew⟩

theorem Orderly.publishAll (hmodest : Modest args) (hround : round < args.rounds.toNat) (emittedAt : Millis)
    {items : List (MessageType × StreamSnapshot)} (hnodup : (items.map fun item ↦ streamOf item.1).Nodup)
    (hstreams : ∀ item ∈ items, streamOf item.1 ≠ .unknown)
    (h : Orderly args epoch round (items.map fun item ↦ streamOf item.1) session) :
    Orderly args epoch round [] (items.foldl (args.publish epoch (args.generation round) emittedAt) session) := by
  induction items generalizing session with
  | nil => exact h
  | cons item items ih =>
    rw [List.map_cons, List.nodup_cons] at hnodup
    exact ih hnodup.2 (fun x hx ↦ hstreams x (List.mem_cons_of_mem _ hx))
      (h.publish hmodest hround (hstreams item List.mem_cons_self) hnodup.1 emittedAt)

theorem nodup_agenda (round : ℕ) (population : Population) :
    ((agenda round population).map fun item ↦ streamOf item.1).Nodup := by
  unfold agenda
  split <;> simp [streamOf]

theorem mem_agenda {population : Population} {item : MessageType × StreamSnapshot}
    (h : item ∈ agenda round population) :
    streamOf item.1 = item.2.kind ∧ streamOf item.1 ≠ .unknown := by
  unfold agenda at h
  simp only [List.mem_append, List.mem_ite_nil_right, List.mem_cons, List.not_mem_nil, or_false] at h
  rcases h with ⟨-, rfl | rfl | rfl | rfl⟩ | rfl | rfl <;> exact ⟨rfl, by simp [streamOf]⟩

theorem round_of_topology {population : Population} {item : MessageType × StreamSnapshot}
    (h : item ∈ agenda round population) (hkind : item.2.kind = .topology) : round = 0 := by
  unfold agenda at h
  simp only [List.mem_append, List.mem_ite_nil_right, List.mem_cons, List.not_mem_nil, or_false] at h
  rcases h with ⟨hround, -⟩ | rfl | rfl
  · exact hround
  · cases hkind
  · cases hkind

theorem length_agenda_succ (round : ℕ) (population : Population) : (agenda (round + 1) population).length = 2 := rfl

theorem orderly_session (hmodest : Modest args) (hround : round ≤ args.rounds.toNat) (population : Population) :
    Orderly args epoch round ((agenda round population).map fun item ↦ streamOf item.1)
      (args.session epoch round) := by
  induction round generalizing population with
  | zero =>
    have hnone : ∀ {kind : Frame → Prop}, ∀ f ∈ (args.session epoch 0).frames, kind f :=
      fun f hf ↦ absurd hf List.not_mem_nil
    exact ⟨⟨hnone, hnone, hnone, .nil⟩, fun _ ↦ ⟨rfl, Nat.le_refl 6, hnone, hnone⟩⟩
  | succ round ih =>
    have hlt : round < args.rounds.toNat := hround
    have hafter := (ih hlt.le (args.population round)).publishAll hmodest hlt (args.clock round)
      (nodup_agenda round _) (fun item hitem ↦ (mem_agenda hitem).2)
    refine ⟨hafter.1, fun hlive ↦ ?_⟩
    have hready := hafter.2 hlive
    refine ⟨hready.sequence, ?_, hready.below, fun f hf ↦ Or.inl ?_⟩
    · have hlength := hready.length
      rw [List.length_map, length_agenda_succ]
      rw [List.length_nil] at hlength
      exact Nat.add_le_add_right hlength 2
    · rcases hready.behind f hf with hbehind | ⟨hbehind, -⟩
      · exact Nat.lt_succ_of_lt hbehind
      · rw [hbehind]
        exact Nat.lt_succ_self _

theorem conforming_frames (hmodest : Modest args) : Conforming args.hello epoch (args.frames epoch) :=
  (orderly_session hmodest le_rfl (args.population 0)).1

end Process

/-- The call changes the epoch or the standing of this publisher, or delivers a frame of it. -/
def concerns (publisher : PublisherId) (x : Event Op Reply (Governor σ)) : Bool :=
  match x.op, x.out with
  | .installEpoch .., _ => x.after.epoch ≠ x.before.epoch
  | .registerPublisher hello _, .welcome (.ok _) => hello.publisher = publisher
  | .notePublisherDeath dead _, .status (.ok ()) => dead = publisher
  | .admitFrame f _, _ => f.header.publisher = publisher
  | _, _ => false

section

variable {publisher : PublisherId} {x : Event Op Reply (Governor σ)}

theorem concerns_of_admitFrame {now : Millis} (hop : x.op = .admitFrame f now) (h : f.header.publisher = publisher) :
    concerns publisher x = true := by
  unfold concerns
  rw [hop]
  exact decide_eq_true h

theorem concerns_of_enrolled (h : Enrolled x hello) (hsame : hello.publisher = publisher) :
    concerns publisher x = true := by
  obtain ⟨now, welcome, hop, hout⟩ := h
  unfold concerns
  rw [hop, hout]
  exact decide_eq_true hsame

theorem concerns_of_buried (h : Buried x publisher) : concerns publisher x = true := by
  obtain ⟨now, hop, hout⟩ := h
  unfold concerns
  rw [hop, hout]
  exact decide_eq_true rfl

theorem concerns_of_install {now : Millis} {boot : BootId} (hop : x.op = .installEpoch epoch boot now)
    (h : x.after.epoch ≠ x.before.epoch) : concerns publisher x = true := by
  unfold concerns
  rw [hop]
  exact decide_eq_true h

end

/-- A publisher registered under a new incarnation, and all that concerned it since are the deliveries of
these frames. -/
structure Attends (past : Fencing.History σ) (hello : HelloPayload) (r : Event Op Reply (Governor σ))
    (since : Fencing.History σ) (deliveries : List (Frame × Millis)) : Prop where
  split : ∃ pre, past = pre ++ r :: since ∧ ∀ x ∈ pre, ∀ hello', Enrolled x hello' →
    hello'.publisher = hello.publisher → hello'.incarnation ≠ hello.incarnation
  enrolled : Enrolled r hello
  delivered : (since.filter (concerns hello.publisher)).map Event.op = deliveries.map fun d ↦ .admitFrame d.1 d.2

variable {api : StoreApi σ} {past since : Fencing.History σ} {g : Governor σ} {r x : Event Op Reply (Governor σ)}
  {deliveries : List (Frame × Millis)}

theorem epoch_step (op : Op) (h : ∀ epoch boot now, op ≠ .installEpoch epoch boot now) :
    (Operations.step api op g).2.epoch = g.epoch := by
  cases op with
  | installEpoch epoch boot now => exact absurd rfl (h epoch boot now)
  | registerPublisher hello now =>
    change (g.registerPublisher hello now).2.epoch = g.epoch
    rcases @registerPublisher_cases σ g hello now with ⟨e, g', hout, hsame⟩ | ⟨welcome, g', hout, -, honly, -⟩
    · rw [hout]
      exact hsame.epoch
    · rw [hout]
      exact honly.epoch
  | notePublisherDeath publisher now =>
    change (g.notePublisherDeath api publisher now).2.epoch = g.epoch
    rcases @notePublisherDeath_cases σ api g publisher now with
      ⟨e, g', hout, hsame, -⟩ | ⟨s, g', s', hout, -, honly, -⟩
    · rw [hout]
      exact hsame.epoch
    · rw [hout]
      exact honly.epoch
  | admitFrame f now =>
    have hadmits := admits f now g
    change (g.admitFrame f now).2.epoch = g.epoch
    generalize g.admitFrame f now = out at hadmits ⊢
    cases hadmits <;> rfl
  | evaluate now => exact (evaluate_same now).epoch
  | commitDurable now => exact (commitDurable_same now).epoch

namespace Attends

theorem delivery (h : Attends past hello r since deliveries) (hx : x ∈ since)
    (hconcerns : concerns hello.publisher x = true) : ∃ d ∈ deliveries, x.op = .admitFrame d.1 d.2 := by
  have hmem : x.op ∈ (since.filter (concerns hello.publisher)).map Event.op :=
    List.mem_map_of_mem (List.mem_filter.mpr ⟨hx, hconcerns⟩)
  rw [h.delivered] at hmem
  obtain ⟨d, hd, hop⟩ := List.mem_map.mp hmem
  exact ⟨d, hd, hop.symm⟩

theorem latest (h : Attends past hello r since deliveries) : Latest past hello.publisher hello r since := by
  obtain ⟨pre, hpast, -⟩ := h.split
  refine ⟨⟨pre, hpast⟩, h.enrolled, rfl, ?_⟩
  intro x hx hello' henrolled hsame
  obtain ⟨d, -, hd⟩ := h.delivery hx (concerns_of_enrolled henrolled hsame)
  obtain ⟨now, welcome, hop, -⟩ := henrolled
  cases hd.symm.trans hop

theorem not_buried (h : Attends past hello r since deliveries) (hx : x ∈ since) : ¬ Buried x hello.publisher := by
  intro hburied
  obtain ⟨d, -, hd⟩ := h.delivery hx (concerns_of_buried hburied)
  obtain ⟨now, hop, -⟩ := hburied
  cases hd.symm.trans hop

section Run

variable {config : GovernorConfig} {world : σ} {process : Process} {start : Millis}

theorem epoch_eq (h : Attends past hello r since deliveries)
    (hrun : GovernorRun api config world process start past g) :
    g.epoch = r.before.epoch := by
  obtain ⟨pre, hpast, -⟩ := h.split
  refine hrun.kept_since hpast fun x hx ↦ ?_
  have hevent := hrun.event_eq x (by rw [hpast]; exact List.mem_append_right _ hx)
  have hother : (∀ epoch boot now, x.op ≠ .installEpoch epoch boot now) → x.after.epoch = x.before.epoch := by
    intro hop
    have hstep := @epoch_step σ api x.before x.op hop
    rw [hevent]
    exact hstep
  by_contra hne
  obtain ⟨epoch, boot, now, hop⟩ : ∃ epoch boot now, x.op = .installEpoch epoch boot now := by
    by_contra hnone
    push Not at hnone
    exact hne (hother hnone)
  rcases List.mem_cons.mp hx with rfl | hx
  · obtain ⟨_, _, henrolled, -⟩ := h.enrolled
    cases henrolled.symm.trans hop
  · obtain ⟨d, -, hd⟩ := h.delivery hx (concerns_of_install hop hne)
    cases hd.symm.trans hop

theorem earlier (h : Attends past hello r since deliveries) (hrun : GovernorRun api config world process start past g)
    {f f' : FrameHeader} {epoch : CoordinatorEpoch} (hp : f.publisher = hello.publisher)
    (hi : f.incarnation = hello.incarnation) (hf' : Earlier past epoch f f') :
    ∃ d ∈ deliveries, d.1.header = f' := by
  obtain ⟨e, he, frame, haccepted, rfl, hpub, hinc, -⟩ := hf'
  have haccepted' := haccepted
  obtain ⟨now, report, hop, hout⟩ := haccepted
  obtain ⟨pre, hpast, hfresh⟩ := h.split
  rw [hpast] at he
  rcases List.mem_append.mp he with hpre | hlater
  · obtain ⟨before, after, hsplit⟩ := List.append_of_mem hpre
    have hwhole : past = before ++ e :: (after ++ r :: since) := by
      rw [hpast, hsplit]
      simp
    obtain ⟨hbefore, hevent⟩ := hrun.splitAt hwhole
    obtain ⟨hfenced, hdetermined⟩ := determined_of_run hbefore
    have hok : ∃ report, (e.before.admitFrame frame now).1 = .ok report := by
      refine ⟨report, ?_⟩
      rw [hevent, hop] at hout
      exact Reply.report.inj hout
    obtain ⟨-, ⟨hello', r', since', hlatest, hinc', -⟩, -⟩ :=
      (hdetermined.accepted_iff hfenced frame now).mp hok
    obtain ⟨earlier, hearlier⟩ := hlatest.split
    refine absurd (hinc'.trans (hinc.trans hi)) (hfresh r' ?_ hello' hlatest.enrolled ?_)
    · rw [hsplit, hearlier]
      simp
    · exact hlatest.named.trans (hpub.trans hp)
  · rcases List.mem_cons.mp hlater with rfl | hsince
    · obtain ⟨_, _, henrolled, -⟩ := h.enrolled
      cases henrolled.symm.trans hop
    · obtain ⟨d, hd, hdelivered⟩ := h.delivery hsince (concerns_of_admitFrame hop (hpub.trans hp))
      cases hdelivered.symm.trans hop
      exact ⟨d, hd, rfl⟩

theorem entitled (h : Attends past hello r since deliveries) (hrun : GovernorRun api config world process start past g)
    {rest : List Frame} (hconforming : Conforming hello epoch (deliveries.map Prod.fst ++ f :: rest)) :
    InSession past g.epoch f.header ∧ ∀ f', Earlier past g.epoch f.header f' →
      f'.sequence < f.header.sequence ∧ (streamOf f.header.type ≠ .unknown →
        streamOf f'.type = streamOf f.header.type → f'.generation < f.header.generation) := by
  have hmem : f ∈ deliveries.map Prod.fst ++ f :: rest := by simp
  obtain ⟨hp, hi, hb, -⟩ := hconforming.credentials f hmem
  refine ⟨⟨hello, r, since, hp ▸ h.latest, hi.symm, hb.symm, (h.epoch_eq hrun).symm, ?_⟩, ?_⟩
  · intro x hx
    rw [hp]
    exact h.not_buried hx
  · intro f' hf'
    obtain ⟨d, hd, rfl⟩ := h.earlier hrun hp hi hf'
    exact (List.pairwise_append.mp hconforming.ascending).2.2 d.1 (List.mem_map_of_mem hd) f (by simp)

end Run

end Attends

section Run

variable {config : GovernorConfig} {world : σ} {process : Process} {start : Millis}

theorem accepted_of_session (h : GovernorRun api config world process start past g)
    (hattends : Attends past hello r since deliveries) {rest : List Frame}
    (hconforming : Conforming hello epoch (deliveries.map Prod.fst ++ f :: rest)) (now : Millis) :
    (∃ report, (g.admitFrame f now).1 = .ok report) ↔ verifyPayload f.header f.payload = .ok () ∧
      (f.header.type = .heartbeat ∨ epoch = r.before.epoch ∧
        ∃ s n, decodeInto g.snapshots f = .ok (s, n) ∧ verifyReferences s = .ok ()) := by
  have hmem : f ∈ deliveries.map Prod.fst ++ f :: rest := by simp
  obtain ⟨hfenced, hdetermined⟩ := determined_of_run h
  obtain ⟨hsession, hahead⟩ := hattends.entitled h hconforming
  rw [hdetermined.accepted_iff hfenced f now]
  unfold Admissible
  by_cases htype : f.header.type = .heartbeat
  · rw [if_pos htype]
    exact ⟨fun hadmissible ↦ ⟨hadmissible.1, Or.inl htype⟩,
      fun hintact ↦ ⟨hintact.1, hsession, Or.inr fun f' hf' ↦ (hahead f' hf').1⟩⟩
  · obtain ⟨hstream, hgeneration⟩ := (hconforming.kinds f hmem).resolve_left htype
    obtain ⟨-, -, -, hstamped⟩ := hconforming.credentials f hmem
    have hepoch := hattends.epoch_eq h
    rw [if_neg htype]
    constructor
    · intro hadmissible
      obtain ⟨hintact, -, -, hcurrent, -, hdecodes⟩ := hadmissible
      exact ⟨hintact, Or.inr ⟨hstamped.symm.trans (hcurrent.trans hepoch), hdecodes⟩⟩
    · intro hintact
      obtain ⟨hcurrent, hdecodes⟩ := hintact.2.resolve_left htype
      exact ⟨hintact.1, hsession, hstream, hstamped.trans (hcurrent.trans hepoch.symm),
        ⟨hconforming.numbered f hmem, hgeneration, fun f' hf' ↦
          ⟨(hahead f' hf').1, (hahead f' hf').2 hstream⟩⟩, hdecodes⟩

/-- A client that registers under a new incarnation, stamps its frames in order and delivers each once is
never refused for its standing or its order: its next frame is accepted exactly if it is intact and is a
heartbeat, or is stamped with the epoch of the registration, decodes and leaves no reference dangling. -/
theorem session_accepted_iff (h : GovernorRun api config world process start past g)
    (hattends : Attends past hello r since deliveries) {rest : List Frame}
    (hconforming : Conforming hello epoch (deliveries.map Prod.fst ++ f :: rest)) (now : Millis) :
    (∃ report, (g.admitFrame f now).1 = .ok report) ↔ verifyPayload f.header f.payload = .ok () ∧
      (f.header.type = .heartbeat ∨ epoch = r.before.epoch ∧
        ∃ s n, decodeInto g.snapshots f = .ok (s, n) ∧ verifyReferences s = .ok ()) :=
  accepted_of_session h hattends hconforming now

end Run

def enrolment : Event Op Reply (Governor Unit) :=
  event (step noStore) (.registerPublisher introduction 0) (recovered noStore {} () ⟨0, 0⟩ 0)

def announcement : Event Op Reply (Governor Unit) := event (step noStore) (.admitFrame oneSwitchFrame 0) enrolment.after

theorem announcement_attends :
    Attends [enrolment, announcement] introduction enrolment [announcement] [(oneSwitchFrame, 0)] :=
  ⟨⟨[], rfl, by simp⟩, ⟨0, _, rfl, rfl⟩, rfl⟩

/-- After the fabric its publisher sends a heartbeat, or the capacity of the switch. -/
theorem announced_session_accepted :
    GovernorRun noStore {} () ⟨0, 0⟩ 0 [enrolment, announcement] oneSwitchGovernor ∧
    (∃ report, (oneSwitchGovernor.admitFrame (makeFrame .heartbeat (sentAs 1 2 0) []) 0).1 = .ok report) ∧
    ∃ s n, decodeInto oneSwitchGovernor.snapshots (makeFrame .capacity (sentAs 1 2 1) (capacityPayload 1 1)) =
      .ok (s, n) ∧
      verifyReferences s = .ok () := by
  have hrun : GovernorRun noStore {} () ⟨0, 0⟩ 0 [enrolment, announcement] oneSwitchGovernor :=
    Run.of_ops oneSwitchOps
  refine ⟨hrun, ?_, ?_⟩
  · have hconforming : Conforming introduction ⟨1⟩ [oneSwitchFrame, makeFrame .heartbeat (sentAs 1 2 0) []] := by
      refine ⟨?_, ?_, ?_, ?_⟩ <;> decide
    refine (session_accepted_iff hrun announcement_attends hconforming 0).mpr ⟨?_, Or.inl rfl⟩
    exact verifyPayload_makeFrame _ _ (by decide)
  · have hconforming : Conforming introduction ⟨1⟩
        [oneSwitchFrame, makeFrame .capacity (sentAs 1 2 1) (capacityPayload 1 1)] := by
      refine ⟨?_, ?_, ?_, ?_⟩ <;> decide
    have hadmitted := (admit_makeFrame .capacity (sentAs 1 2 1) (show (capacityPayload 1 1).length ≤ _ by decide) 0
      oneSwitchGovernor).trans (if_neg (by decide))
    have haccepted := (session_accepted_iff hrun announcement_attends hconforming 0).mp
      ⟨reportOf (makeFrame .capacity (sentAs 1 2 1) (capacityPayload 1 1)).header 1, ?_⟩
    · exact (haccepted.2.resolve_left (by decide)).2
    · rw [hadmitted, oneSwitchGovernor_eq]
      rfl

def install (provenance : Provenance) (s : Snapshots) : StreamSnapshot → Snapshots
  | .topology t => { s with topology := some (t.setProvenance provenance) }
  | .capacity c => { s with capacity := some { c with provenance } }
  | .signals e => { s with signals := some { e with provenance } }
  | .paths p => { s with paths := some { p with provenance } }
  | .traffic t => { s with traffic := some { t with provenance } }
  | .policy p => { s with policy := some { p with provenance } }

structure Carries (args : Arguments) (epoch : CoordinatorEpoch) (f : Frame) (round : ℕ)
    (item : MessageType × StreamSnapshot) : Prop where
  due : round < args.rounds.toNat
  listed : item ∈ agenda round (args.population round)
  encoded : item.2.encodePayload = .ok f.payload
  fits : f.payload.length ≤ Limits.kMaxFrameBytes
  made : ∃ sequence emittedAt,
    f = makeFrame item.1 (args.stamp epoch item.1 sequence (args.generation round) emittedAt) f.payload

section Carried

variable {args : Arguments} {round : ℕ} {item : MessageType × StreamSnapshot} {session : Session}

theorem mem_publish {generation : UInt64} {emittedAt : Millis}
    (h : f ∈ (args.publish epoch generation emittedAt session item).frames) : f ∈ session.frames ∨
      item.2.encodePayload = .ok f.payload ∧ f.payload.length ≤ Limits.kMaxFrameBytes ∧ ∃ sequence,
        f = makeFrame item.1 (args.stamp epoch item.1 sequence generation emittedAt) f.payload := by
  unfold Arguments.publish at h
  split at h
  · exact Or.inl h
  · split at h
    · exact Or.inl h
    · next body hbody =>
      dsimp only at h
      split at h
      · exact Or.inl h
      · next bytes hbytes =>
        rcases List.mem_append.mp h with h | h
        · exact Or.inl h
        · rw [List.mem_singleton.mp h]
          refine Or.inr ⟨hbody, ?_, _, rfl⟩
          unfold encodeFrame at hbytes
          split at hbytes
          · cases hbytes
          · next hfits => exact not_lt.mp hfits

theorem carries_session (hround : round ≤ args.rounds.toNat) (h : f ∈ (args.session epoch round).frames) :
    ∃ earlier item, Carries args epoch f earlier item := by
  induction round with
  | zero => cases h
  | succ round ih =>
    have hlt : round < args.rounds.toNat := hround
    have hall : ∀ items session, items ⊆ agenda round (args.population round) →
        f ∈ (items.foldl (args.publish epoch (args.generation round) (args.clock round)) session).frames →
        f ∈ session.frames ∨ ∃ item, Carries args epoch f round item := by
      intro items
      induction items with
      | nil => exact fun session _ hf ↦ Or.inl hf
      | cons item items ihitems =>
        intro session hsub hf
        rcases ihitems _ (fun x hx ↦ hsub (List.mem_cons_of_mem _ hx)) hf with hf | hcarries
        · rcases mem_publish hf with hf | ⟨hencoded, hfits, sequence, hmade⟩
          · exact Or.inl hf
          · exact Or.inr ⟨item, hlt, hsub List.mem_cons_self, hencoded, hfits, sequence, _, hmade⟩
        · exact Or.inr hcarries
    rcases hall _ _ (List.Subset.refl _) h with h | ⟨item, hcarries⟩
    · exact ih hlt.le h
    · exact ⟨round, item, hcarries⟩

theorem Carries.intact (h : Carries args epoch f round item) : verifyPayload f.header f.payload = .ok () := by
  obtain ⟨sequence, emittedAt, hmade⟩ := h.made
  rw [hmade]
  exact Atomicity.verifyPayload_makeFrame _ _ h.fits

theorem Carries.type (h : Carries args epoch f round item) : f.header.type = item.1 := by
  obtain ⟨sequence, emittedAt, hmade⟩ := h.made
  rw [hmade]
  rfl

theorem Carries.generation (h : Carries args epoch f round item) : f.header.generation = args.generation round := by
  obtain ⟨sequence, emittedAt, hmade⟩ := h.made
  rw [hmade]
  rfl

theorem type_of_stream {type : MessageType} {kind : StreamKind} (h : streamOf type = kind) (hkind : kind ≠ .unknown) :
    (kind = .topology → type = .topology) ∧ (kind = .capacity → type = .capacity) ∧
    (kind = .signals → type = .signals) ∧ (kind = .paths → type = .paths) ∧
    (kind = .traffic → type = .traffic) ∧
    (kind = .policy → type = .policy) := by
  subst h
  cases type <;> simp [streamOf] at hkind ⊢

theorem map_eq_ok {α β : Type} {tag : α → β} (htag : Function.Injective tag) {out : Result α} {a : α}
    (h : out.map tag = .ok (tag a)) : out = .ok a := by
  cases out with
  | error e => cases h
  | ok b => exact congrArg Except.ok (htag (Except.ok.inj h))

theorem Carries.decodes (h : Carries args epoch f round item) (hbuilt : item.2.Built) {s : Snapshots}
    (hfirst : item.2.kind = .topology → s.topology = none) :
    ∃ n, decodeInto s f = .ok (install (provenanceOf f.header) s item.2, n) := by
  obtain ⟨generation, observedAt, rest, hencoded, hdecoded⟩ := roundTrips_of_built hbuilt
  rw [← Except.ok.inj (h.encoded.symm.trans hencoded)] at hdecoded
  obtain ⟨hkind, hstream⟩ := mem_agenda h.listed
  have htype := type_of_stream hkind (hkind ▸ hstream)
  rw [← h.type] at htype
  unfold decodeInto
  dsimp only
  obtain ⟨type, snapshot⟩ := item
  cases snapshot with
  | topology t =>
    have hdecode : decodeTopologyPayload f.payload = .ok { t with provenance := {} } :=
      map_eq_ok (fun _ _ ↦ StreamSnapshot.topology.inj) hdecoded
    rw [htype.1 rfl, hdecode, hfirst rfl]
    exact ⟨_, rfl⟩
  | capacity c =>
    have hdecode : decodeCapacityPayload f.payload = .ok { c with provenance := {} } :=
      map_eq_ok (fun _ _ ↦ StreamSnapshot.capacity.inj) hdecoded
    rw [htype.2.1 rfl, hdecode]
    exact ⟨_, rfl⟩
  | signals e =>
    have hdecode : decodeSignalsPayload f.payload = .ok { e with provenance := {} } :=
      map_eq_ok (fun _ _ ↦ StreamSnapshot.signals.inj) hdecoded
    rw [htype.2.2.1 rfl, hdecode]
    exact ⟨_, rfl⟩
  | paths p =>
    have hdecode : decodePathsPayload f.payload = .ok { p with provenance := {} } :=
      map_eq_ok (fun _ _ ↦ StreamSnapshot.paths.inj) hdecoded
    rw [htype.2.2.2.1 rfl, hdecode]
    exact ⟨_, rfl⟩
  | traffic t =>
    have hdecode : decodeTrafficPayload f.payload = .ok { t with provenance := {} } :=
      map_eq_ok (fun _ _ ↦ StreamSnapshot.traffic.inj) hdecoded
    rw [htype.2.2.2.2.1 rfl, hdecode]
    exact ⟨_, rfl⟩
  | policy p =>
    have hdecode : decodePolicyPayload f.payload = .ok { p with provenance := {} } :=
      map_eq_ok (fun _ _ ↦ StreamSnapshot.policy.inj) hdecoded
    rw [htype.2.2.2.2.2 rfl, hdecode]
    exact ⟨_, rfl⟩

end Carried

/-- What encodes was built, and what was built names only what the first topology defines. -/
structure Coherent (args : Arguments) : Prop where
  built : ∀ round < args.rounds.toNat, ∀ item ∈ agenda round (args.population round), ∀ body,
    item.2.encodePayload = .ok body → item.2.Built
  capacity : (args.population 0).topology.built = true → (args.population 0).capacity.built = true →
    capacityResolves (args.population 0).topology (args.population 0).capacity = true
  signals : ∀ round < args.rounds.toNat, (args.population 0).topology.built = true →
    (args.population round).signals.built = true →
    signalsResolve (args.population 0).topology (args.population round).signals = true
  paths : (args.population 0).topology.built = true → (args.population 0).paths.built = true →
    pathsResolve (args.population 0).topology (args.population 0).paths = true

structure Reflects (args : Arguments) (s : Snapshots) : Prop where
  topology : ∀ t, s.topology = some t → (args.population 0).topology.built = true ∧
    ∃ provenance, t = (args.population 0).topology.setProvenance provenance
  capacity : ∀ c, s.capacity = some c → (args.population 0).capacity.built = true ∧
    c.entries = (args.population 0).capacity.entries
  signals : ∀ e, s.signals = some e → ∃ round < args.rounds.toNat,
    (args.population round).signals.built = true ∧
    e.records = (args.population round).signals.records
  paths : ∀ p, s.paths = some p → (args.population 0).paths.built = true ∧
    p.paths = (args.population 0).paths.paths

section Fabric

variable {args : Arguments} {s : Snapshots} {round : ℕ} {item : MessageType × StreamSnapshot}

theorem reflects_nothing : Reflects args {} := ⟨nofun, nofun, nofun, nofun⟩

theorem Reflects.install (h : Reflects args s) (hround : round < args.rounds.toNat)
    (hitem : item ∈ agenda round (args.population round)) (hbuilt : item.2.Built) (provenance : Provenance) :
    Reflects args (install provenance s item.2) := by
  unfold agenda at hitem
  simp only [List.mem_append, List.mem_ite_nil_right, List.mem_cons, List.not_mem_nil, or_false] at hitem
  rcases hitem with ⟨rfl, rfl | rfl | rfl | rfl⟩ | rfl | rfl
  · obtain ⟨source, hsource⟩ := hbuilt
    exact ⟨fun t ht ↦ ⟨topology_built hsource, provenance, (Option.some.inj ht).symm⟩,
      h.capacity, h.signals, h.paths⟩
  · obtain ⟨source, hsource⟩ := hbuilt
    exact ⟨h.topology, fun c hc ↦ ⟨capacity_built hsource, Option.some.inj hc ▸ rfl⟩, h.signals, h.paths⟩
  · obtain ⟨source, hsource⟩ := hbuilt
    exact ⟨h.topology, h.capacity, h.signals, fun p hp ↦ ⟨paths_built hsource, Option.some.inj hp ▸ rfl⟩⟩
  · exact ⟨h.topology, h.capacity, h.signals, h.paths⟩
  · obtain ⟨source, hsource⟩ := hbuilt
    exact ⟨h.topology, h.capacity, fun e he ↦
      ⟨round, hround, signals_built hsource, Option.some.inj he ▸ rfl⟩, h.paths⟩
  · exact ⟨h.topology, h.capacity, h.signals, h.paths⟩

theorem reflects_of_only (h : ∀ stream, ∃ s', Reflects args s' ∧ only stream s = only stream s') :
    Reflects args s := by
  obtain ⟨t, ht, htopology⟩ := h .topology
  obtain ⟨c, hc, hcapacity⟩ := h .capacity
  obtain ⟨e, he, hsignals⟩ := h .signals
  obtain ⟨p, hp, hpaths⟩ := h .paths
  exact ⟨fun x hx ↦ ht.topology x ((congrArg Snapshots.topology htopology).symm.trans hx),
    fun x hx ↦ hc.capacity x ((congrArg Snapshots.capacity hcapacity).symm.trans hx),
    fun x hx ↦ he.signals x ((congrArg Snapshots.signals hsignals).symm.trans hx),
    fun x hx ↦ hp.paths x ((congrArg Snapshots.paths hpaths).symm.trans hx)⟩

theorem Carries.built {epoch : CoordinatorEpoch} {f : Frame} (h : Carries args epoch f round item)
    (hcoherent : Coherent args) :
    item.2.Built := hcoherent.built round h.due item h.listed f.payload h.encoded

theorem not_dangling {α : Type} {snapshot : Option α} {resolves : α → Bool}
    (h : ∀ x, snapshot = some x → resolves x = true) : ¬ snapshot.any (fun x ↦ !resolves x) = true := by
  cases snapshot with
  | none => simp
  | some x => simp [h x rfl]

theorem Reflects.resolves (h : Reflects args s) (hcoherent : Coherent args) : verifyReferences s = .ok () := by
  unfold verifyReferences
  split
  · rfl
  · next topology htopology =>
    obtain ⟨hbuilt, provenance, rfl⟩ := h.topology topology htopology
    rw [if_neg, if_neg, if_neg]
    · refine not_dangling fun p hp ↦ ?_
      obtain ⟨hpaths, hsame⟩ := h.paths p hp
      unfold pathsResolve
      rw [hsame]
      exact hcoherent.paths hbuilt hpaths
    · refine not_dangling fun e he ↦ ?_
      obtain ⟨round, hround, hsignals, hsame⟩ := h.signals e he
      unfold signalsResolve
      rw [hsame]
      exact hcoherent.signals round hround hbuilt hsignals
    · refine not_dangling fun c hc ↦ ?_
      obtain ⟨hcapacity, hsame⟩ := h.capacity c hc
      unfold capacityResolves
      rw [hsame]
      exact hcoherent.capacity hbuilt hcapacity

end Fabric

structure Alone (past : Fencing.History σ) (publisher : PublisherId) (r : Event Op Reply (Governor σ))
    (since : Fencing.History σ) : Prop where
  before : ∀ pre, past = pre ++ r :: since → ∀ x ∈ pre, ∀ f now, x.op = .admitFrame f now →
    f.header.type = .heartbeat
  since : ∀ x ∈ since, ∀ f now, x.op = .admitFrame f now →
    f.header.publisher = publisher ∨ f.header.type = .heartbeat

section Run

variable {args : Arguments} {config : GovernorConfig} {world : σ} {process : Process} {start : Millis}

theorem Alone.delivered (h : GovernorRun api config world process start past g)
    (halone : Alone past hello.publisher r since) (hattends : Attends past hello r since deliveries)
    (stream : StreamKind) :
    only stream g.snapshots = {} ∨ ∃ f ∈ deliveries.map Prod.fst, streamOf f.header.type = stream ∧
      ∃ t n, decodeInto {} f = .ok (t, n) ∧ only stream g.snapshots = only stream t := by
  rcases traced_of_run h stream with
    hnone | ⟨e, f, t, n, hlast, ⟨hstream, ⟨now, hop⟩, hinstalls⟩, hdecode, honly⟩
  · exact Or.inl hnone
  · obtain ⟨p, s, m, hp, -⟩ := hinstalls
    obtain ⟨pre, hpast, -⟩ := hattends.split
    have hmem := hlast.mem
    rw [hpast] at hmem
    rcases List.mem_append.mp hmem with hpre | hlater
    · exact absurd (halone.before pre hpast e hpre f now hop) hp.stream
    · rcases List.mem_cons.mp hlater with rfl | hsince
      · obtain ⟨_, _, henrolled, -⟩ := hattends.enrolled
        cases henrolled.symm.trans hop
      · have hsame := (halone.since e hsince f now hop).resolve_right hp.stream
        obtain ⟨d, hd, hdelivered⟩ := hattends.delivery hsince (concerns_of_admitFrame hop hsame)
        cases hdelivered.symm.trans hop
        exact Or.inr ⟨d.1, List.mem_map_of_mem hd, hstream, t, n, hdecode, honly⟩

theorem next_accepted (h : GovernorRun api config world process start past g) (hcoherent : Coherent args)
    (hmodest : Modest args) (halone : Alone past args.hello.publisher r since)
    (hattends : Attends past args.hello r since deliveries) {rest : List Frame}
    (hframes : args.frames epoch = deliveries.map Prod.fst ++ f :: rest) (now : Millis) :
    (∃ report, (g.admitFrame f now).1 = .ok report) ↔ epoch = r.before.epoch := by
  have hconforming := @conforming_frames epoch args hmodest
  have hcarried : ∀ f' ∈ args.frames epoch, ∃ round item, Carries args epoch f' round item :=
    fun f' hf' ↦ carries_session le_rfl hf'
  rw [hframes] at hconforming hcarried
  have hearlier : ∀ f' ∈ deliveries.map Prod.fst, ∃ round item, Carries args epoch f' round item :=
    fun f' hf' ↦ hcarried f' (List.mem_append_left _ hf')
  obtain ⟨round, item, hcarries⟩ := hcarried f (by simp)
  have hreflects : Reflects args g.snapshots := by
    refine reflects_of_only fun stream ↦ ?_
    rcases halone.delivered h hattends stream with hnone | ⟨f', hf', -, t, n, hdecode, honly⟩
    · exact ⟨{}, reflects_nothing, hnone.trans (by cases stream <;> rfl)⟩
    · obtain ⟨round', item', hcarries'⟩ := hearlier f' hf'
      have hbuilt' := hcarries'.built hcoherent
      obtain ⟨n', hdecode'⟩ := hcarries'.decodes (s := {}) hbuilt' (fun _ ↦ rfl)
      obtain ⟨rfl, -⟩ := Prod.mk.inj (Except.ok.inj (hdecode'.symm.trans hdecode))
      exact ⟨_, reflects_nothing.install hcarries'.due hcarries'.listed hbuilt' _, honly⟩
  have hfirst : item.2.kind = .topology → g.snapshots.topology = none := by
    intro hkind
    rcases halone.delivered h hattends .topology with hnone | ⟨f', hf', hstream', -⟩
    · exact congrArg Snapshots.topology hnone
    · obtain ⟨round', item', hcarries'⟩ := hearlier f' hf'
      have hstream := (congrArg streamOf hcarries.type).trans ((mem_agenda hcarries.listed).1.trans hkind)
      have hkind' := (mem_agenda hcarries'.listed).1.symm.trans ((congrArg streamOf hcarries'.type).symm.trans hstream')
      have hgeneration : f'.header.generation = f.header.generation := by
        rw [hcarries.generation, hcarries'.generation, round_of_topology hcarries.listed hkind,
          round_of_topology hcarries'.listed hkind']
      have hlt := ((List.pairwise_append.mp hconforming.ascending).2.2 f' hf' f (by simp)).2
        (by rw [hstream]; exact StreamKind.noConfusion) (hstream'.trans hstream.symm)
      rw [hgeneration] at hlt
      exact absurd hlt (UInt64.lt_irrefl _)
  have hbuilt := hcarries.built hcoherent
  obtain ⟨n, hdecodes⟩ := hcarries.decodes hbuilt hfirst
  have hresolves := (hreflects.install hcarries.due hcarries.listed hbuilt (provenanceOf f.header)).resolves hcoherent
  rw [accepted_of_session h hattends hconforming now]
  constructor
  · intro haccepted
    refine (haccepted.2.resolve_left ?_).1
    intro htype
    refine (mem_agenda hcarries.listed).2 ?_
    rw [← hcarries.type, htype]
    rfl
  · intro hcurrent
    exact ⟨hcarries.intact, Or.inr ⟨hcurrent, _, n, hdecodes, hresolves⟩⟩

theorem Attends.upTo (h : Attends past hello r since deliveries) {before after : Fencing.History σ}
    (hsince : since = before ++ x :: after) (hconcerns : concerns hello.publisher x = true) :
    ∃ earlier d later, deliveries = earlier ++ d :: later ∧ x.op = .admitFrame d.1 d.2 ∧
      ∃ past', past = past' ++ x :: after ∧ Attends past' hello r before earlier := by
  obtain ⟨pre, hpast, hfresh⟩ := h.split
  have hdelivered := h.delivered
  rw [hsince, List.filter_append, List.filter_cons_of_pos hconcerns, List.map_append, List.map_cons] at hdelivered
  obtain ⟨earlier, others, rfl, hearlier, hothers⟩ := List.map_eq_append_iff.mp hdelivered.symm
  obtain ⟨d, later, rfl, hd, -⟩ := List.map_eq_cons_iff.mp hothers
  refine ⟨earlier, d, later, rfl, hd.symm, pre ++ r :: before, ?_, ⟨pre, rfl, hfresh⟩,
    h.enrolled, hearlier.symm⟩
  rw [hpast, hsince]
  simp

/-- A publisher process on its own: whatever is evaluated, persisted, registered, buried or beaten in between,
a frame that it sends of a coherent fabric is accepted when it arrives exactly if the frames are stamped with
the epoch of the registration. -/
theorem lone_session_accepted (h : GovernorRun api config world process start past g) (hcoherent : Coherent args)
    (hmodest : Modest args) (halone : Alone past args.hello.publisher r since)
    (hattends : Attends past args.hello r since deliveries) (hsent : deliveries.map Prod.fst <+: args.frames epoch) :
    ∀ x ∈ since, concerns args.hello.publisher x = true →
      ((∃ report, x.out = .report (.ok report)) ↔ epoch = r.before.epoch) := by
  intro x hx hconcerns
  obtain ⟨before, after, hsince⟩ := List.append_of_mem hx
  obtain ⟨earlier, d, later, rfl, hop, past', hpast, hattends'⟩ := hattends.upTo hsince hconcerns
  obtain ⟨rest, hrest⟩ := hsent
  obtain ⟨hrun, hevent⟩ := h.splitAt hpast
  have halone' : Alone past' args.hello.publisher r before := by
    constructor
    · intro pre hpre
      refine halone.before pre ?_
      rw [hpast, hpre, hsince]
      simp
    · intro y hy
      refine halone.since y ?_
      rw [hsince]
      exact List.mem_append_left _ hy
  have haccepted := next_accepted hrun hcoherent hmodest halone' hattends' (f := d.1)
    (show _ = _ ++ d.1 :: (later.map Prod.fst ++ rest) by rw [← hrest]; simp) d.2
  rw [← haccepted, hevent, hop]
  exact ⟨fun hout ↦ hout.imp fun _ heq ↦ Reply.report.inj heq,
    fun hout ↦ hout.imp fun _ heq ↦ congrArg Reply.report heq⟩

end Run

def generated (synthetic : SyntheticConfig) (now : Millis) (generation : UInt64) : Population :=
  let fabric := rebuild synthetic now generation
  { topology := fabric.topology
    capacity := fabric.capacity
    signals := fabric.signals
    paths := fabric.paths
    traffic := fabric.traffic
    policy := policy synthetic now generation now }

section Generated

-- all that counts of a rebuild is what it has built
attribute [local irreducible] Synthetic.rebuild

variable {args : Arguments} {synthetic : SyntheticConfig}

theorem encoded_built {snapshot : StreamSnapshot} {body : Bytes} (h : snapshot.encodePayload = .ok body) :
    match snapshot with
    | .topology s => s.built = true
    | .capacity s => s.built = true
    | .signals s => s.built = true
    | .paths s => s.built = true
    | .traffic s => s.built = true
    | .policy _ => True := by
  have hguard : ∀ {built : Bool} {e : Failure} {bytes : Bytes},
    (if !built then .error e else .ok bytes) = Except.ok body →
      built = true := by
    intro built e bytes hok
    cases built with
    | false => cases hok
    | true => rfl
  cases snapshot with
  | topology s => exact hguard h
  | capacity s => exact hguard h
  | signals s => exact hguard h
  | paths s => exact hguard h
  | traffic s => exact hguard h
  | policy s => trivial

theorem coherent_generated (h : args.fabric = generated synthetic) : Coherent args := by
  have hpopulation : ∀ round,
      args.population round = generated synthetic (args.clock round) (args.generation round) := by
    intro round
    unfold Arguments.population
    rw [h]
  constructor
  · intro round hround item hitem body hencoded
    rw [hpopulation] at hitem
    have hbuilt := encoded_built hencoded
    unfold agenda at hitem
    simp only [List.mem_append, List.mem_ite_nil_right, List.mem_cons, List.not_mem_nil, or_false] at hitem
    rcases hitem with ⟨-, rfl | rfl | rfl | rfl⟩ | rfl | rfl
    · exact ⟨_, built_topology hbuilt⟩
    · exact ⟨_, built_capacity hbuilt⟩
    · exact ⟨_, built_paths hbuilt⟩
    · trivial
    · exact ⟨_, built_signals hbuilt⟩
    · exact built_traffic hbuilt
  · rw [hpopulation]
    exact capacity_resolves
  · intro round hround
    rw [hpopulation, hpopulation]
    exact signals_resolve
  · rw [hpopulation]
    exact paths_resolve

end Generated

section Run

variable {args : Arguments} {synthetic : SyntheticConfig} {config : GovernorConfig} {world : σ} {process : Process}
  {start : Millis}

/-- A registration that is not refused is answered by the welcome of the moment. -/
def Welcomes (g : Governor σ) (out : Result WelcomePayload × Governor σ) : Prop :=
  ∀ welcome, out.1 = .ok welcome → welcome = g.welcome

theorem welcomes_error (e : Failure) (g' : Governor σ) : Welcomes g (.error e, g') := by
  intro welcome hwelcome
  cases hwelcome

theorem welcomes_reenlist (hello : HelloPayload) (now : Millis) (existing : PublisherState) :
    Welcomes g (g.reenlist hello now existing) := by
  have hwelcome : ∀ w, Except.ok g.welcome = (.ok w : Result WelcomePayload) → w = g.welcome :=
    fun w hw ↦ (Except.ok.inj hw).symm
  unfold Governor.reenlist
  split
  · exact welcomes_error _ _
  · split
    · split
      · exact welcomes_error _ _
      · exact hwelcome
    · exact hwelcome

theorem welcomes_registerPublisher (hello : HelloPayload) (now : Millis) :
    Welcomes g (g.registerPublisher hello now) := by
  unfold Governor.registerPublisher
  split
  · exact welcomes_error _ _
  · split
    · exact welcomes_error _ _
    · split
      · exact welcomes_error _ _
      · split
        · exact welcomes_error _ _
        · split
          · exact welcomes_reenlist hello now _
          · split
            · exact welcomes_error _ _
            · exact fun w hw ↦ (Except.ok.inj hw).symm

theorem Attends.welcomed (h : GovernorRun api config world process start past g)
    (hattends : Attends past hello r since deliveries) {welcome : WelcomePayload}
    (hwelcome : r.out = .welcome (.ok welcome)) :
    welcome.epoch = r.before.epoch ∧ decodeWelcome (encodeWelcome welcome) = .ok welcome := by
  obtain ⟨pre, hpast, -⟩ := hattends.split
  obtain ⟨now, -, hop, -⟩ := hattends.enrolled
  have hevent := h.event_eq r (by rw [hpast]; simp)
  rw [hevent, hop] at hwelcome
  obtain rfl := @welcomes_registerPublisher σ r.before hello now welcome (Reply.welcome.inj hwelcome)
  exact ⟨rfl, welcome_roundTrip (List.length_take_le _ _)⟩

/-- Whatever the configuration of its fabric: a publisher process that is the only source of evidence, and
whose numbers do not wrap around, has every frame that it sends accepted, unless it is forced to an epoch
other than the one it was welcomed to; then it has every frame refused. -/
theorem generated_session_accepted (h : GovernorRun api config world process start past g)
    (hfabric : args.fabric = generated synthetic) (hmodest : Modest args)
    (halone : Alone past args.hello.publisher r since) (hattends : Attends past args.hello r since deliveries)
    {welcome : WelcomePayload} (hwelcome : r.out = .welcome (.ok welcome))
    (hepoch : args.epoch (encodeWelcome welcome) = .ok epoch) (hsent : deliveries.map Prod.fst <+: args.frames epoch) :
    ∀ x ∈ since, concerns args.hello.publisher x = true →
      ((∃ report, x.out = .report (.ok report)) ↔
        args.forcedEpoch = 0 ∨ args.forcedEpoch = welcome.epoch.value) := by
  intro x hx hconcerns
  obtain ⟨hnamed, hdecoded⟩ := hattends.welcomed h hwelcome
  unfold Arguments.epoch at hepoch
  rw [hdecoded] at hepoch
  obtain rfl := Except.ok.inj hepoch
  rw [lone_session_accepted h (coherent_generated hfabric) hmodest halone hattends hsent x hx hconcerns, ← hnamed]
  by_cases hforced : args.forcedEpoch = 0
  · simp [hforced]
  · rw [if_pos hforced]
    exact ⟨fun heq ↦ Or.inr (congrArg StrongId.value heq),
      fun heq ↦ congrArg StrongId.mk (heq.resolve_left hforced)⟩

end Run

def oneSwitchFabric : SyntheticConfig :=
  { regionCount := 1, resourcesPerRegion := 1, pathFanIn := 1, pathResourceDensityPpm := 1000000 }

def oneRound : Arguments := { rounds := 1, fabric := generated oneSwitchFabric, clock := fun _ ↦ 1000 }

def freshGovernor : Governor Unit := recovered noStore {} () ⟨0, 0⟩ 0

def oneRoundOps : List Op := (oneRound.frames ⟨1⟩).map fun f ↦ .admitFrame f 0

def oneRoundSince : Fencing.History Unit :=
  history (step noStore) (step noStore (.registerPublisher oneRound.hello 0) freshGovernor).2 oneRoundOps

def introduced : Event Op Reply (Governor Unit) :=
  event (step noStore) (.registerPublisher oneRound.hello 0) freshGovernor

theorem oneRound_modest : Modest oneRound := ⟨by decide, by decide, by decide⟩

theorem length_oneRound : (oneRound.frames ⟨1⟩).length = 6 := by decide +kernel

theorem oneRound_enrolled : Enrolled introduced oneRound.hello := by
  have hwelcomed : (freshGovernor.registerPublisher oneRound.hello 0).1.isOk = true := by decide +kernel
  cases hout : (freshGovernor.registerPublisher oneRound.hello 0).1 with
  | error e =>
    rw [hout] at hwelcomed
    cases hwelcomed
  | ok welcome => exact ⟨0, welcome, rfl, congrArg Reply.welcome hout⟩

theorem fresh_epoch : introduced.before.epoch = ⟨1⟩ := by decide +kernel

theorem oneRound_delivery {x : Event Op Reply (Governor Unit)} (hx : x ∈ oneRoundSince) :
    ∃ f, x.op = .admitFrame f 0 ∧ f.header.publisher = oneRound.hello.publisher := by
  obtain ⟨f, hf, hop⟩ := List.mem_map.mp (op_mem_of_history hx)
  exact ⟨f, hop.symm, ((conforming_frames oneRound_modest).credentials f hf).1⟩

theorem oneRound_concerned {x : Event Op Reply (Governor Unit)} (hx : x ∈ oneRoundSince) :
    concerns oneRound.hello.publisher x = true := by
  obtain ⟨f, hop, hpublisher⟩ := oneRound_delivery hx
  exact concerns_of_admitFrame hop hpublisher

theorem oneRound_attends : Attends (introduced :: oneRoundSince) oneRound.hello introduced oneRoundSince
    ((oneRound.frames ⟨1⟩).map fun f ↦ (f, 0)) := by
  refine ⟨⟨[], rfl, by simp⟩, oneRound_enrolled, ?_⟩
  have hops : oneRoundSince.map Event.op = oneRoundOps := map_op_history _
  rw [List.filter_eq_self.mpr fun x hx ↦ oneRound_concerned hx, hops, List.map_map]
  rfl

theorem oneRound_alone : Alone (introduced :: oneRoundSince) oneRound.hello.publisher introduced oneRoundSince := by
  constructor
  · intro pre hpre x hx
    have hlength := congrArg List.length hpre
    rw [List.length_append, List.length_cons] at hlength
    rw [List.length_eq_zero_iff.mp (show pre.length = 0 by omega)] at hx
    cases hx
  · intro x hx f now hop
    obtain ⟨f', hop', hpublisher⟩ := oneRound_delivery hx
    cases hop'.symm.trans hop
    exact Or.inl hpublisher

/-- All six frames of the round are accepted. -/
theorem oneRound_session_accepted : ∃ past g, GovernorRun noStore {} () ⟨0, 0⟩ 0 past g ∧ past.length = 7 ∧
    ∀ x ∈ past.tail, ∃ report, x.out = .report (.ok report) := by
  have hrun : GovernorRun noStore {} () ⟨0, 0⟩ 0 (introduced :: oneRoundSince)
      (final (step noStore) freshGovernor (.registerPublisher oneRound.hello 0 :: oneRoundOps)) :=
    Run.of_ops (.registerPublisher oneRound.hello 0 :: oneRoundOps)
  obtain ⟨-, welcome, -, hwelcome⟩ := oneRound_enrolled
  obtain ⟨hnamed, hdecoded⟩ := oneRound_attends.welcomed hrun hwelcome
  have hepoch : oneRound.epoch (encodeWelcome welcome) = .ok ⟨1⟩ := by
    unfold Arguments.epoch
    rw [hdecoded, ← fresh_epoch, ← hnamed]
    rfl
  have hsent :
      ((oneRound.frames ⟨1⟩).map fun f ↦ (f, (0 : Millis))).map Prod.fst <+: oneRound.frames ⟨1⟩ := by
    rw [List.map_map]
    exact ⟨[], (List.append_nil _).trans (List.map_id _)⟩
  have haccepted := generated_session_accepted hrun rfl oneRound_modest oneRound_alone oneRound_attends hwelcome
    hepoch hsent
  refine ⟨_, _, hrun, ?_, ?_⟩
  · have hops : oneRoundSince.map Event.op = oneRoundOps := map_op_history _
    have hlength := congrArg List.length hops
    rw [List.length_map] at hlength
    rw [List.length_cons, hlength]
    unfold oneRoundOps
    rw [List.length_map, length_oneRound]
  · intro x hx
    rw [List.tail_cons] at hx
    exact (haccepted x hx (oneRound_concerned hx)).mpr (Or.inl rfl)

end HotspotGovernor.Publishing
