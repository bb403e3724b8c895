import HotspotGovernor.Foundation
import HotspotGovernor.Lib.Trace
import Mathlib.Data.List.Nodup
import Mathlib.Logic.Function.Basic

namespace HotspotGovernor.Connections

open Foundation Lib.Trace Function

/-- Where the thread of a connection stands: in its loop, behind the section of `forget` that takes it
off the list, behind the look at its handle, or over, its reference to the connection gone. -/
inductive Stage
  | unstarted
  | serving
  | unlisted (erased : Bool)
  | settled
  | ended
  deriving DecidableEq

/-- A connection as its thread handle goes: whether it is joinable, and how often it was detached or
joined. -/
structure Connection where
  stage : Stage := .unstarted
  joinable : Bool := false
  released : ℕ := 0
  deriving DecidableEq

def Connection.release (connection : Connection) : Connection :=
  { connection with joinable := false, released := connection.released + 1 }

/-- Where the accept loop stands. From `holding` to `stored` it holds a reference to the connection it
last made; `started` has the handle still in a temporary. -/
inductive Acceptor
  | absent
  | checking
  | waiting
  | holding (c : ℕ)
  | listed (c : ℕ)
  | started (c : ℕ)
  | stored (c : ℕ)
  | ended
  deriving DecidableEq

def Acceptor.holds (c : ℕ) : Acceptor → Bool
  | .holding d | .listed d | .started d | .stored d => d = c
  | _ => false

/-- Where `stop` stands: outside, before the join of the accept loop, before the swap, or joining the
handles of the list it swapped out. -/
inductive Stopper
  | idle
  | closing
  | swapping
  | joining (joined rest : List ℕ)

/-- The coordinator with every connection it ever made, numbered in that order. -/
structure Coordinator where
  maxConnections : ℕ := 32
  made : ℕ := 0
  connection : ℕ → Connection := fun _ ↦ {}
  listed : List ℕ := []
  running : Bool := false
  acceptor : Acceptor := .absent
  stopper : Stopper := .idle

namespace Coordinator

variable (s : Coordinator)

def put (c : ℕ) (connection : Connection) : Coordinator :=
  { s with connection := update s.connection c connection }

def moveTo (c : ℕ) (stage : Stage) : Coordinator := s.put c { s.connection c with stage }

def pending : List ℕ :=
  match s.stopper with
  | .joining _ rest => rest
  | _ => []

def swapped : List ℕ :=
  match s.stopper with
  | .joining joined rest => joined ++ rest
  | _ => []

/-- Whether some `shared_ptr` still points to a connection: that of the accept loop, of the list, of
`stop` or of its own thread. Without one it is destroyed. -/
def referenced (c : ℕ) : Bool :=
  s.acceptor.holds c || c ∈ s.listed || c ∈ s.swapped ||
    ((s.connection c).stage ≠ .unstarted && (s.connection c).stage ≠ .ended)

end Coordinator

inductive Accepted
  | timeout
  | failed
  | socket

inductive Act
  | start
  | check
  | accept (accepted : Accepted)
  | list
  | startThread
  | store
  | drop
  | unlist (c : ℕ)
  | settle (c : ℕ)
  | finish (c : ℕ)
  | stop
  | joinAcceptor
  | swap
  | join
  | leave

/-- One step of the accept loop, of a connection thread or of the client that starts and stops the
coordinator. -/
def step (act : Act) (s : Coordinator) : Option Coordinator :=
  match act, s.acceptor, s.stopper with
  | .start, _, .idle => if s.running then none else some { s with running := true, acceptor := .checking }
  | .check, .checking, _ => some { s with acceptor := if s.running then .waiting else .ended }
  | .accept .timeout, .waiting, _ => some { s with acceptor := .checking }
  | .accept .failed, .waiting, _ => some { s with acceptor := .ended }
  | .accept .socket, .waiting, _ =>
    if s.listed.length ≥ min s.maxConnections Limits.kMaxConnections then some { s with acceptor := .checking }
    else some { s.put s.made {} with made := s.made + 1, acceptor := .holding s.made }
  | .list, .holding c, _ => some { s with listed := s.listed ++ [c], acceptor := .listed c }
  | .startThread, .listed c, _ => some { s.moveTo c .serving with acceptor := .started c }
  | .store, .started c, _ =>
    some { s.put c { s.connection c with joinable := true } with acceptor := .stored c }
  | .drop, .stored _, _ => some { s with acceptor := .checking }
  | .unlist c, _, _ =>
    if (s.connection c).stage = .serving then
      some { s.moveTo c (.unlisted (c ∈ s.listed)) with listed := s.listed.erase c }
    else none
  | .settle c, _, _ =>
    match (s.connection c).stage with
    | .unlisted erased =>
      if erased && (s.connection c).joinable then
        some (s.put c { (s.connection c).release with stage := .settled })
      else some (s.moveTo c .settled)
    | _ => none
  | .finish c, _, _ => if (s.connection c).stage = .settled then some (s.moveTo c .ended) else none
  | .stop, acceptor, .idle =>
    if !s.running && acceptor = .absent && s.listed.isEmpty then some s
    else some { s with running := false, stopper := .closing }
  | .joinAcceptor, .ended, .closing => some { s with acceptor := .absent, stopper := .swapping }
  | .joinAcceptor, .absent, .closing => some { s with stopper := .swapping }
  | .swap, _, .swapping => some { s with listed := [], stopper := .joining [] s.listed }
  | .join, _, .joining joined (c :: rest) =>
    if (s.connection c).joinable then
      if (s.connection c).stage = .ended then
        some { s.put c (s.connection c).release with stopper := .joining (joined ++ [c]) rest }
      else none
    else some { s with stopper := .joining (joined ++ [c]) rest }
  | .leave, _, .joining _ [] => some { s with stopper := .idle }
  | _, _, _ => none

abbrev ConnectionRun (maxConnections : ℕ) : List (Event Act Bool Coordinator) → Coordinator → Prop :=
  Run (attempt step) { maxConnections }

/-- No handle is detached or joined twice, and a connection that is destroyed had its handle detached
or joined before. -/
def ReleasedOnce (s : Coordinator) : Prop :=
  ∀ c < s.made, (s.connection c).released ≤ 1 ∧
    (s.referenced c = false → (s.connection c).joinable = false ∧ (s.connection c).released = 1)

/-- The thread of a connection that took itself off the list looks at its handle before the accept
loop stored it. -/
def Early (s : Coordinator) (act : Act) (c : ℕ) : Prop :=
  act = .settle c ∧ (s.connection c).stage = .unlisted true ∧ (s.connection c).joinable = false

def Timely (s : Coordinator) (act : Act) : Prop := ∀ c, ¬ Early s act c

instance (s : Coordinator) (act : Act) : Decidable (Timely s act) :=
  match act with
  | .settle c =>
    decidable_of_iff (¬ ((s.connection c).stage = .unlisted true ∧ (s.connection c).joinable = false))
      ⟨fun h _ hearly ↦ h (Act.settle.inj hearly.1 ▸ hearly.2), fun h hearly ↦ h c ⟨rfl, hearly⟩⟩
  | .start | .check | .accept _ | .list | .startThread | .store | .drop | .unlist _ | .finish _ | .stop
  | .joinAcceptor | .swap | .join | .leave => isTrue fun _ hearly ↦ nomatch hearly.1

/-- The connection ends before its handle is stored. -/
def earlyActs : List Act :=
  [.start, .check, .accept .socket, .list, .startThread, .unlist 0, .settle 0, .finish 0, .store, .drop]

instance (s : Coordinator) : Decidable (ReleasedOnce s) := Nat.decidableBallLT _ _

inductive Moves (s : Coordinator) : Act → Coordinator → Prop
  | start (hidle : s.stopper = .idle) (hrunning : s.running = false) :
      Moves s .start { s with running := true, acceptor := .checking }
  | accepting {act : Act} (acceptor : Acceptor) (hact : ∀ c, act ≠ .settle c)
      (hold : ∀ c, s.acceptor.holds c = false) (hpresent : s.acceptor ≠ .absent)
      (hnew : ∀ c, acceptor.holds c = false) : Moves s act { s with acceptor }
  | create (hwaiting : s.acceptor = .waiting) :
      Moves s (.accept .socket) { s.put s.made {} with made := s.made + 1, acceptor := .holding s.made }
  | list {c : ℕ} (hholding : s.acceptor = .holding c) :
      Moves s .list { s with listed := s.listed ++ [c], acceptor := .listed c }
  | startThread {c : ℕ} (hlisted : s.acceptor = .listed c) :
      Moves s .startThread { s.moveTo c .serving with acceptor := .started c }
  | store {c : ℕ} (hstarted : s.acceptor = .started c) :
      Moves s .store { s.put c { s.connection c with joinable := true } with acceptor := .stored c }
  | drop {c : ℕ} (hstored : s.acceptor = .stored c) : Moves s .drop { s with acceptor := .checking }
  | unlist {c : ℕ} (hstage : (s.connection c).stage = .serving) :
      Moves s (.unlist c) { s.moveTo c (.unlisted (c ∈ s.listed)) with listed := s.listed.erase c }
  | detach {c : ℕ} (hstage : (s.connection c).stage = .unlisted true)
      (hjoinable : (s.connection c).joinable = true) :
      Moves s (.settle c) (s.put c { (s.connection c).release with stage := .settled })
  | keep {c : ℕ} {erased : Bool} (hstage : (s.connection c).stage = .unlisted erased)
      (hkeep : erased = true → (s.connection c).joinable = false) : Moves s (.settle c) (s.moveTo c .settled)
  | finish {c : ℕ} (hstage : (s.connection c).stage = .settled) : Moves s (.finish c) (s.moveTo c .ended)
  | stopped : Moves s .stop s
  | stop (hidle : s.stopper = .idle) : Moves s .stop { s with running := false, stopper := .closing }
  | joinAcceptor (hclosing : s.stopper = .closing) (hended : s.acceptor = .ended ∨ s.acceptor = .absent) :
      Moves s .joinAcceptor { s with acceptor := .absent, stopper := .swapping }
  | swap (hswapping : s.stopper = .swapping) :
      Moves s .swap { s with listed := [], stopper := .joining [] s.listed }
  | join {joined rest : List ℕ} {c : ℕ} (hjoining : s.stopper = .joining joined (c :: rest))
      (hjoinable : (s.connection c).joinable = true) (hended : (s.connection c).stage = .ended) :
      Moves s .join { s.put c (s.connection c).release with stopper := .joining (joined ++ [c]) rest }
  | skip {joined rest : List ℕ} {c : ℕ} (hjoining : s.stopper = .joining joined (c :: rest))
      (hjoinable : (s.connection c).joinable = false) :
      Moves s .join { s with stopper := .joining (joined ++ [c]) rest }
  | leave {joined : List ℕ} (hjoining : s.stopper = .joining joined []) :
      Moves s .leave { s with stopper := .idle }

variable {s s' : Coordinator}

theorem step_moves {act : Act} (h : step act s = some s') : Moves s act s' := by
  unfold step at h
  split at h
  · next hidle =>
    split at h
    · cases h
    · next hrunning =>
      cases h
      exact .start hidle (Bool.eq_false_iff.mpr hrunning)
  · next hchecking =>
    cases h
    refine .accepting _ nofun ?_ ?_ ?_
    · simp [hchecking, Acceptor.holds]
    · simp [hchecking]
    · intro c
      split <;> rfl
  · next hwaiting =>
    cases h
    exact .accepting _ nofun (by simp [hwaiting, Acceptor.holds]) (by simp [hwaiting]) fun _ ↦ rfl
  · next hwaiting =>
    cases h
    exact .accepting _ nofun (by simp [hwaiting, Acceptor.holds]) (by simp [hwaiting]) fun _ ↦ rfl
  · next hwaiting =>
    split at h
    · cases h
      exact .accepting _ nofun (by simp [hwaiting, Acceptor.holds]) (by simp [hwaiting]) fun _ ↦ rfl
    · cases h
      exact .create hwaiting
  · next hholding =>
    cases h
    exact .list hholding
  · next hlisted =>
    cases h
    exact .startThread hlisted
  · next hstarted =>
    cases h
    exact .store hstarted
  · next hstored =>
    cases h
    exact .drop hstored
  · obtain ⟨hstage, h⟩ := Option.ite_none_right_eq_some.mp h
    cases h
    exact .unlist hstage
  · split at h
    · next erased hstage =>
      split at h
      · next hdetach =>
        obtain ⟨rfl, hjoinable⟩ := Bool.and_eq_true_iff.mp hdetach
        cases h
        exact .detach hstage hjoinable
      · next hkeep =>
        cases h
        refine .keep hstage ?_
        rintro rfl
        simpa using hkeep
    · cases h
  · obtain ⟨hstage, h⟩ := Option.ite_none_right_eq_some.mp h
    cases h
    exact .finish hstage
  · next hidle =>
    split at h
    · cases h
      exact .stopped
    · cases h
      exact .stop hidle
  · next hended hclosing =>
    cases h
    exact .joinAcceptor hclosing (Or.inl hended)
  · next habsent hclosing =>
    cases h
    have hmove := Moves.joinAcceptor hclosing (Or.inr habsent)
    rwa [← habsent] at hmove
  · next hswapping =>
    cases h
    exact .swap hswapping
  · next hjoining =>
    split at h
    · next hjoinable =>
      obtain ⟨hended, h⟩ := Option.ite_none_right_eq_some.mp h
      cases h
      exact .join hjoining hjoinable hended
    · next hjoinable =>
      cases h
      exact .skip hjoining (Bool.eq_false_iff.mpr hjoinable)
  · next hjoining =>
    cases h
    exact .leave hjoining
  · cases h

/-- How far the accept loop is with a connection whose handle it has not stored yet. -/
inductive Birth
  | created
  | listed
  | started

def Acceptor.birth (c : ℕ) : Acceptor → Option Birth
  | .holding d => if d = c then some .created else none
  | .listed d => if d = c then some .listed else none
  | .started d => if d = c then some .started else none
  | _ => none

/-- What a connection can look like while it is listed, or swapped out and not joined yet, or neither.
Nobody owns the handle of a `forsaken` connection, even before it is stored and the connection `lost`. -/
inductive Standing : Option Birth → (listed pending : Bool) → Connection → Prop
  | created : Standing (some .created) false false ⟨.unstarted, false, 0⟩
  | listed : Standing (some .listed) true false ⟨.unstarted, false, 0⟩
  | young : Standing (some .started) true false ⟨.serving, false, 0⟩
  | early : Standing (some .started) false false ⟨.unlisted true, false, 0⟩
  | live (listed : Bool) : Standing none listed (!listed) ⟨.serving, true, 0⟩
  | retiring : Standing none false false ⟨.unlisted true, true, 0⟩
  | overtaken {stage : Stage} (hstage : stage = .unlisted false ∨ stage = .settled ∨ stage = .ended) :
      Standing none false true ⟨stage, true, 0⟩
  | released {stage : Stage} (hstage : stage = .settled ∨ stage = .ended) :
      Standing none false false ⟨stage, false, 1⟩
  | forsaken {stage : Stage} (hstage : stage = .settled ∨ stage = .ended) :
      Standing (some .started) false false ⟨stage, false, 0⟩
  | lost {stage : Stage} (hstage : stage = .settled ∨ stage = .ended) :
      Standing none false false ⟨stage, true, 0⟩

namespace Standing

variable {birth : Option Birth} {listed pending : Bool} {connection : Connection}

theorem list (h : Standing (some .created) listed pending connection) :
    Standing (some .listed) true pending connection := by
  cases h
  exact .listed

theorem unstarted (h : Standing (some .listed) listed pending connection) : connection.stage = .unstarted := by
  cases h
  rfl

theorem startThread (h : Standing (some .listed) listed pending connection) :
    Standing (some .started) listed pending { connection with stage := .serving } := by
  cases h
  exact .young

theorem store (h : Standing (some .started) listed pending connection) :
    Standing none listed pending { connection with joinable := true } := by
  cases h with
  | young => exact .live true
  | early => exact .retiring
  | forsaken hover => exact .lost hover

theorem unlist (h : Standing birth listed pending connection) (hstage : connection.stage = .serving) :
    Standing birth false pending { connection with stage := .unlisted listed } := by
  cases h with
  | created | listed | early | retiring => cases hstage
  | young => exact .early
  | live listed =>
    cases listed with
    | true => exact .retiring
    | false => exact .overtaken (Or.inl rfl)
  | overtaken hover => rcases hover with rfl | rfl | rfl <;> cases hstage
  | released hover | forsaken hover | lost hover => rcases hover with rfl | rfl <;> cases hstage

theorem detach (h : Standing birth listed pending connection) (hstage : connection.stage = .unlisted true)
    (hjoinable : connection.joinable = true) :
    Standing birth listed pending { connection.release with stage := .settled } := by
  cases h with
  | created | listed | young | live => cases hstage
  | early => cases hjoinable
  | retiring => exact .released (Or.inl rfl)
  | overtaken hover => rcases hover with rfl | rfl | rfl <;> cases hstage
  | released hover | forsaken hover | lost hover => rcases hover with rfl | rfl <;> cases hstage

theorem keep {erased : Bool} (h : Standing birth listed pending connection)
    (hstage : connection.stage = .unlisted erased) (hkeep : erased = true → connection.joinable = false) :
    Standing birth listed pending { connection with stage := .settled } := by
  cases h with
  | created | listed | young | live => cases hstage
  | early => exact .forsaken (Or.inl rfl)
  | retiring =>
    cases hstage
    cases hkeep rfl
  | overtaken => exact .overtaken (Or.inr (Or.inl rfl))
  | released hover | forsaken hover | lost hover => rcases hover with rfl | rfl <;> cases hstage

theorem untimely {erased : Bool} (h : Standing birth listed pending connection)
    (hstage : connection.stage = .unlisted erased) (hkeep : erased = true → connection.joinable = false) :
    (erased = false ∧ pending = true) ∨
      (erased = true ∧ pending = false ∧ connection.joinable = false ∧ connection.released = 0) := by
  cases h with
  | created | listed | young | live => cases hstage
  | early =>
    cases hstage
    exact Or.inr ⟨rfl, rfl, rfl, rfl⟩
  | retiring =>
    cases hstage
    cases hkeep rfl
  | overtaken hover =>
    rcases hover with rfl | rfl | rfl <;> cases hstage
    exact Or.inl ⟨rfl, rfl⟩
  | released hover | forsaken hover | lost hover => rcases hover with rfl | rfl <;> cases hstage

theorem finish (h : Standing birth listed pending connection) (hstage : connection.stage = .settled) :
    Standing birth listed pending { connection with stage := .ended } := by
  cases h with
  | created | listed | young | early | live | retiring => cases hstage
  | overtaken => exact .overtaken (Or.inr (Or.inr rfl))
  | released => exact .released (Or.inr rfl)
  | forsaken => exact .forsaken (Or.inr rfl)
  | lost => exact .lost (Or.inr rfl)

theorem swap (h : Standing none listed pending connection) (hpending : pending = false) :
    Standing none false listed connection := by
  cases h with
  | live listed =>
    cases listed with
    | true => exact .live false
    | false => cases hpending
  | retiring => exact .retiring
  | overtaken => cases hpending
  | released hover => exact .released hover
  | lost hover => exact .lost hover

theorem joinable (h : Standing birth listed pending connection) (hpending : pending = true) :
    connection.joinable = true := by
  cases h with
  | live | overtaken => rfl
  | created | listed | young | early | retiring | released | forsaken | lost => cases hpending

theorem unlisted (h : Standing birth listed pending connection)
    (hstage : connection.stage = .settled ∨ connection.stage = .ended) : listed = false := by
  cases h with
  | listed | young => rcases hstage with hstage | hstage <;> cases hstage
  | live listed => rcases hstage with hstage | hstage <;> cases hstage
  | created | early | retiring | overtaken | released | forsaken | lost => rfl

theorem join (h : Standing birth listed pending connection) (hpending : pending = true)
    (hstage : connection.stage = .ended) : Standing birth listed false connection.release := by
  cases h with
  | live => cases hstage
  | overtaken hover => exact .released (Or.inr hstage)
  | created | listed | young | early | retiring | released | forsaken | lost => cases hpending

end Standing

structure Tidy (s : Coordinator) : Prop where
  standing : ∀ c < s.made,
    Standing (s.acceptor.birth c) (decide (c ∈ s.listed)) (decide (c ∈ s.pending)) (s.connection c)
  unmade : ∀ c, s.made ≤ c → s.connection c = {}
  held : ∀ c, s.acceptor.holds c = true → c < s.made
  listed : ∀ c ∈ s.listed, c < s.made
  pending : ∀ c ∈ s.pending, c < s.made
  listed_nodup : s.listed.Nodup
  pending_nodup : s.pending.Nodup
  resting : s.stopper = .idle → s.running = false → s.acceptor = .absent
  swapping : s.stopper = .swapping → s.acceptor = .absent
  joining : ∀ joined rest, s.stopper = .joining joined rest → s.acceptor = .absent ∧ s.listed = []

theorem Acceptor.birth_eq_none {c : ℕ} {acceptor : Acceptor} (h : acceptor.holds c = false) :
    acceptor.birth c = none := by
  cases acceptor <;> simp_all [holds, birth]

theorem tidy_start (maxConnections : ℕ) : Tidy { maxConnections } where
  standing _ := nofun
  unmade _ _ := rfl
  held _ := nofun
  listed _ := nofun
  pending _ := nofun
  listed_nodup := List.nodup_nil
  pending_nodup := List.nodup_nil
  resting _ _ := rfl
  swapping := nofun
  joining _ _ := nofun

namespace Tidy

theorem standing_update (h : Tidy s) {c : ℕ} {connection : Connection} (hmade : s'.made = s.made)
    (hconnection : s'.connection = update s.connection c connection)
    (hat : Standing (s'.acceptor.birth c) (decide (c ∈ s'.listed)) (decide (c ∈ s'.pending)) connection)
    (hbirth : ∀ d, d ≠ c → s'.acceptor.birth d = s.acceptor.birth d)
    (hlisted : ∀ d, d ≠ c → (d ∈ s'.listed ↔ d ∈ s.listed))
    (hpending : ∀ d, d ≠ c → (d ∈ s'.pending ↔ d ∈ s.pending)) :
    ∀ d < s'.made, Standing (s'.acceptor.birth d) (decide (d ∈ s'.listed)) (decide (d ∈ s'.pending))
      (s'.connection d) := by
  intro d hd
  rw [hmade] at hd
  rw [hconnection]
  by_cases hdc : d = c
  · rw [hdc, update_self]
    exact hat
  · rw [update_of_ne hdc, hbirth d hdc, decide_eq_decide.mpr (hlisted d hdc),
      decide_eq_decide.mpr (hpending d hdc)]
    exact h.standing d hd

theorem lt_made (h : Tidy s) {c : ℕ} (hstage : (s.connection c).stage ≠ .unstarted) : c < s.made := by
  by_contra hc
  rw [h.unmade c (Nat.le_of_not_lt hc)] at hstage
  exact hstage rfl

theorem unmade_update (h : Tidy s) {c : ℕ} (hc : c < s.made) (connection : Connection) :
    ∀ d, s.made ≤ d → update s.connection c connection d = {} := by
  intro d hd
  rw [update_of_ne (by omega)]
  exact h.unmade d hd

theorem pending_nil (h : Tidy s) (hpresent : s.acceptor ≠ .absent) : s.pending = [] := by
  unfold Coordinator.pending
  split
  · next hjoining => exact absurd (h.joining _ _ hjoining).1 hpresent
  · rfl

theorem start (h : Tidy s) (hidle : s.stopper = .idle) (hrunning : s.running = false) :
    Tidy { s with running := true, acceptor := .checking } where
  standing := by
    have hstanding := h.standing
    rw [h.resting hidle hrunning] at hstanding
    exact hstanding
  unmade := h.unmade
  held _ := nofun
  listed := h.listed
  pending := h.pending
  listed_nodup := h.listed_nodup
  pending_nodup := h.pending_nodup
  resting _ := nofun
  swapping hswapping := by
    rw [hidle] at hswapping
    cases hswapping
  joining joined rest hjoining := by
    rw [hidle] at hjoining
    cases hjoining

theorem accepting {acceptor : Acceptor} (h : Tidy s) (hpresent : s.acceptor ≠ .absent)
    (hbirth : ∀ c, s.acceptor.birth c = none) (hnew : ∀ c, acceptor.holds c = false) :
    Tidy { s with acceptor } where
  standing c hc := by
    have hstanding := h.standing c hc
    rw [hbirth c] at hstanding
    rw [Acceptor.birth_eq_none (hnew c)]
    exact hstanding
  unmade := h.unmade
  held c hc := by
    rw [hnew c] at hc
    cases hc
  listed := h.listed
  pending := h.pending
  listed_nodup := h.listed_nodup
  pending_nodup := h.pending_nodup
  resting hidle hrunning := absurd (h.resting hidle hrunning) hpresent
  swapping hswapping := absurd (h.swapping hswapping) hpresent
  joining joined rest hjoining := absurd (h.joining joined rest hjoining).1 hpresent

theorem put_made (h : Tidy s) : s.put s.made {} = s := by
  rw [Coordinator.put, update_eq_self_iff.mpr (h.unmade s.made (Nat.le_refl _)).symm]

theorem create (h : Tidy s) (hwaiting : s.acceptor = .waiting) :
    Tidy { s.put s.made {} with made := s.made + 1, acceptor := .holding s.made } := by
  have hpresent : s.acceptor ≠ .absent := by simp [hwaiting]
  rw [h.put_made]
  refine ⟨?_, ?_, ?_, ?_, ?_, h.listed_nodup, h.pending_nodup, ?_, ?_, ?_⟩
  · intro c hc
    rcases Nat.lt_succ_iff_lt_or_eq.mp hc with hc | rfl
    · have hbirth : Acceptor.birth c (.holding s.made) = s.acceptor.birth c := by
        rw [hwaiting]
        exact if_neg hc.ne'
      rw [hbirth]
      exact h.standing c hc
    · have hunlisted : s.made ∉ s.listed := fun hmem ↦ Nat.lt_irrefl _ (h.listed _ hmem)
      have hbirth : Acceptor.birth s.made (.holding s.made) = some .created := if_pos rfl
      have hpending : s.made ∉ s.pending := by
        rw [h.pending_nil hpresent]
        exact List.not_mem_nil
      rw [hbirth, h.unmade _ (Nat.le_refl s.made), decide_eq_false hunlisted]
      exact decide_eq_false hpending ▸ .created
  · intro c hc
    exact h.unmade c (Nat.le_of_succ_le hc)
  · intro c hc
    have heq : s.made = c := of_decide_eq_true hc
    exact heq ▸ Nat.lt_succ_self _
  · intro c hc
    exact Nat.lt_succ_of_lt (h.listed c hc)
  · intro c hc
    exact Nat.lt_succ_of_lt (h.pending c hc)
  · intro hidle hrunning
    exact absurd (h.resting hidle hrunning) hpresent
  · intro hswapping
    exact absurd (h.swapping hswapping) hpresent
  · intro joined rest hjoining
    exact absurd (h.joining joined rest hjoining).1 hpresent

theorem list {c : ℕ} (h : Tidy s) (hholding : s.acceptor = .holding c) :
    Tidy { s with listed := s.listed ++ [c], acceptor := .listed c } := by
  have hpresent : s.acceptor ≠ .absent := by simp [hholding]
  have hc : c < s.made := h.held c (by simp [hholding, Acceptor.holds])
  have hstanding := h.standing c hc
  rw [hholding, show Acceptor.birth c (.holding c) = some .created from if_pos rfl] at hstanding
  have hunlisted : c ∉ s.listed := by
    intro hmem
    rw [decide_eq_true hmem] at hstanding
    cases hstanding
  refine ⟨?_, h.unmade, ?_, ?_, h.pending, ?_, h.pending_nodup, ?_, ?_, ?_⟩
  · refine h.standing_update rfl (update_eq_self c s.connection).symm ?_ ?_ ?_ fun _ _ ↦ Iff.rfl
    · rw [show Acceptor.birth c (.listed c) = some .listed from if_pos rfl,
        decide_eq_true (List.mem_append_right _ (List.mem_singleton_self c))]
      exact hstanding.list
    · intro d hdc
      rw [hholding, Acceptor.birth, Acceptor.birth, if_neg hdc.symm, if_neg hdc.symm]
    · intro d hdc
      simp [hdc]
  · intro d hd
    exact (of_decide_eq_true hd : c = d) ▸ hc
  · intro d hd
    rcases List.mem_append.mp hd with hd | hd
    · exact h.listed d hd
    · exact List.mem_singleton.mp hd ▸ hc
  · exact List.nodup_append.mpr ⟨h.listed_nodup, List.nodup_singleton c, by
      rintro d hd _ hc rfl
      exact hunlisted (List.mem_singleton.mp hc ▸ hd)⟩
  · intro hidle hrunning
    exact absurd (h.resting hidle hrunning) hpresent
  · intro hswapping
    exact absurd (h.swapping hswapping) hpresent
  · intro joined rest hjoining
    exact absurd (h.joining joined rest hjoining).1 hpresent

theorem advance {c : ℕ} {acceptor : Acceptor} {connection : Connection} (h : Tidy s)
    (hholds : s.acceptor.holds c = true) (hnew : ∀ d, acceptor.holds d = true → d = c)
    (hbirth : ∀ d, d ≠ c → acceptor.birth d = s.acceptor.birth d)
    (hstanding : Standing (acceptor.birth c) (decide (c ∈ s.listed)) (decide (c ∈ s.pending)) connection) :
    Tidy { s.put c connection with acceptor } := by
  have hpresent : s.acceptor ≠ .absent := by
    rintro habsent
    rw [habsent] at hholds
    cases hholds
  refine ⟨?_, ?_, ?_, h.listed, h.pending, h.listed_nodup, h.pending_nodup, ?_, ?_, ?_⟩
  · exact h.standing_update rfl rfl hstanding hbirth (fun _ _ ↦ Iff.rfl) fun _ _ ↦ Iff.rfl
  · exact h.unmade_update (h.held c hholds) connection
  · intro d hd
    exact hnew d hd ▸ h.held c hholds
  · intro hidle hrunning
    exact absurd (h.resting hidle hrunning) hpresent
  · intro hswapping
    exact absurd (h.swapping hswapping) hpresent
  · intro joined rest hjoining
    exact absurd (h.joining joined rest hjoining).1 hpresent

theorem startThread {c : ℕ} (h : Tidy s) (hlisted : s.acceptor = .listed c) :
    Tidy { s.moveTo c .serving with acceptor := .started c } := by
  have hholds : s.acceptor.holds c = true := by simp [hlisted, Acceptor.holds]
  refine h.advance hholds (fun d hd ↦ (of_decide_eq_true hd : c = d).symm) ?_ ?_
  · intro d hdc
    rw [hlisted, Acceptor.birth, Acceptor.birth, if_neg hdc.symm, if_neg hdc.symm]
  · have hstanding := h.standing c (h.held c hholds)
    rw [hlisted, show Acceptor.birth c (.listed c) = some .listed from if_pos rfl] at hstanding
    rw [show Acceptor.birth c (.started c) = some .started from if_pos rfl]
    exact hstanding.startThread

theorem store {c : ℕ} (h : Tidy s) (hstarted : s.acceptor = .started c) :
    Tidy { s.put c { s.connection c with joinable := true } with acceptor := .stored c } := by
  have hholds : s.acceptor.holds c = true := by simp [hstarted, Acceptor.holds]
  refine h.advance hholds (fun d hd ↦ (of_decide_eq_true hd : c = d).symm) ?_ ?_
  · intro d hdc
    rw [hstarted]
    exact (if_neg hdc.symm).symm
  · have hstanding := h.standing c (h.held c hholds)
    rw [hstarted, show Acceptor.birth c (.started c) = some .started from if_pos rfl] at hstanding
    exact hstanding.store

theorem turn {c : ℕ} {connection : Connection} {listed : List ℕ} (h : Tidy s)
    (hstage : (s.connection c).stage ≠ .unstarted) (hsub : listed.Sublist s.listed)
    (hothers : ∀ d, d ≠ c → (d ∈ listed ↔ d ∈ s.listed))
    (hstanding : Standing (s.acceptor.birth c) (decide (c ∈ listed)) (decide (c ∈ s.pending)) connection) :
    Tidy { s.put c connection with listed } where
  standing := h.standing_update rfl rfl hstanding (fun _ _ ↦ rfl) hothers fun _ _ ↦ Iff.rfl
  unmade := h.unmade_update (h.lt_made hstage) connection
  held := h.held
  listed d hd := h.listed d (hsub.subset hd)
  pending := h.pending
  listed_nodup := h.listed_nodup.sublist hsub
  pending_nodup := h.pending_nodup
  resting := h.resting
  swapping := h.swapping
  joining joined rest hjoining := by
    obtain ⟨habsent, hlisted⟩ := h.joining joined rest hjoining
    refine ⟨habsent, ?_⟩
    rw [hlisted] at hsub
    exact List.sublist_nil.mp hsub

theorem unlist {c : ℕ} (h : Tidy s) (hstage : (s.connection c).stage = .serving) :
    Tidy { s.moveTo c (.unlisted (c ∈ s.listed)) with listed := s.listed.erase c } := by
  have hunstarted : (s.connection c).stage ≠ .unstarted := by simp [hstage]
  refine h.turn hunstarted List.erase_sublist ?_ ?_
  · intro d hdc
    exact List.mem_erase_of_ne hdc
  · have hgone : decide (c ∈ s.listed.erase c) = false := decide_eq_false h.listed_nodup.not_mem_erase
    rw [hgone]
    exact (h.standing c (h.lt_made hunstarted)).unlist hstage

theorem settle {c : ℕ} {connection : Connection} (h : Tidy s) (hstage : (s.connection c).stage ≠ .unstarted)
    (hstanding : Standing (s.acceptor.birth c) (decide (c ∈ s.listed)) (decide (c ∈ s.pending)) connection) :
    Tidy (s.put c connection) :=
  h.turn hstage (List.Sublist.refl _) (fun _ _ ↦ Iff.rfl) hstanding

theorem stop (h : Tidy s) (hidle : s.stopper = .idle) : Tidy { s with running := false, stopper := .closing } := by
  have hpending : s.pending = [] := by rw [Coordinator.pending, hidle]
  refine ⟨?_, h.unmade, h.held, h.listed, fun _ ↦ nofun, h.listed_nodup, List.nodup_nil, nofun, nofun,
    fun _ _ ↦ nofun⟩
  have hstanding := h.standing
  rw [hpending] at hstanding
  exact hstanding

theorem joinAcceptor (h : Tidy s) (hclosing : s.stopper = .closing)
    (hended : s.acceptor = .ended ∨ s.acceptor = .absent) :
    Tidy { s with acceptor := .absent, stopper := .swapping } := by
  have hpending : s.pending = [] := by rw [Coordinator.pending, hclosing]
  have hbirth : ∀ c, s.acceptor.birth c = none := by
    intro c
    rcases hended with hended | hended <;> rw [hended] <;> rfl
  refine ⟨?_, h.unmade, fun _ ↦ nofun, h.listed, fun _ ↦ nofun, h.listed_nodup, List.nodup_nil, nofun,
    fun _ ↦ rfl, fun _ _ ↦ nofun⟩
  intro c hc
  have hstanding := h.standing c hc
  rw [hpending, hbirth c] at hstanding
  exact hstanding

theorem swap (h : Tidy s) (hswapping : s.stopper = .swapping) :
    Tidy { s with listed := [], stopper := .joining [] s.listed } := by
  have habsent := h.swapping hswapping
  have hpending : s.pending = [] := by rw [Coordinator.pending, hswapping]
  refine ⟨?_, h.unmade, h.held, fun _ ↦ nofun, h.listed, List.nodup_nil, h.listed_nodup, nofun, nofun, ?_⟩
  · intro c hc
    have hstanding := h.standing c hc
    rw [hpending, habsent] at hstanding
    have hnone : decide (c ∈ ([] : List ℕ)) = false := decide_eq_false List.not_mem_nil
    rw [show s.acceptor.birth c = none by rw [habsent]; rfl, hnone]
    exact hstanding.swap hnone
  · rintro joined rest hjoining
    exact ⟨habsent, rfl⟩

theorem join {joined rest : List ℕ} {c : ℕ} (h : Tidy s) (hjoining : s.stopper = .joining joined (c :: rest))
    (hended : (s.connection c).stage = .ended) :
    Tidy { s.put c (s.connection c).release with stopper := .joining (joined ++ [c]) rest } := by
  obtain ⟨habsent, hlisted⟩ := h.joining joined (c :: rest) hjoining
  have hpending : s.pending = c :: rest := by rw [Coordinator.pending, hjoining]
  have hnodup := h.pending_nodup
  rw [hpending, List.nodup_cons] at hnodup
  have hwaiting := h.pending
  rw [hpending, List.forall_mem_cons] at hwaiting
  have hc := hwaiting.1
  refine ⟨?_, h.unmade_update hc _, h.held, h.listed, hwaiting.2, h.listed_nodup, hnodup.2, nofun, nofun, ?_⟩
  · refine h.standing_update rfl rfl ?_ (fun _ _ ↦ rfl) (fun _ _ ↦ Iff.rfl) ?_
    · have hstanding := h.standing c hc
      rw [hpending, decide_eq_true (List.mem_cons_self)] at hstanding
      have hjoined : decide (c ∈ rest) = false := decide_eq_false hnodup.1
      exact hjoined.symm ▸ hstanding.join rfl hended
    · intro d hdc
      rw [hpending]
      exact (List.mem_cons.trans (or_iff_right hdc)).symm
  · rintro _ _ hstopper
    exact ⟨habsent, hlisted⟩

theorem not_skip {joined rest : List ℕ} {c : ℕ} (h : Tidy s) (hjoining : s.stopper = .joining joined (c :: rest))
    (hjoinable : (s.connection c).joinable = false) : False := by
  have hpending : c ∈ s.pending := by
    rw [Coordinator.pending, hjoining]
    exact List.mem_cons_self
  have hwaiting := (h.standing c (h.pending c hpending)).joinable (decide_eq_true hpending)
  rw [hjoinable] at hwaiting
  cases hwaiting

theorem leave {joined : List ℕ} (h : Tidy s) (hjoining : s.stopper = .joining joined []) :
    Tidy { s with stopper := .idle } := by
  obtain ⟨habsent, hlisted⟩ := h.joining joined [] hjoining
  have hpending : s.pending = [] := by rw [Coordinator.pending, hjoining]
  refine ⟨?_, h.unmade, h.held, h.listed, fun _ ↦ nofun, h.listed_nodup, List.nodup_nil, fun _ _ ↦ habsent,
    nofun, fun _ _ ↦ nofun⟩
  have hstanding := h.standing
  rw [hpending] at hstanding
  exact hstanding

theorem moves {act : Act} (h : Tidy s) (hmove : Moves s act s') : Tidy s' := by
  cases hmove with
  | start hidle hrunning => exact h.start hidle hrunning
  | accepting acceptor hact hold hpresent hnew =>
    exact h.accepting hpresent (fun c ↦ Acceptor.birth_eq_none (hold c)) hnew
  | create hwaiting => exact h.create hwaiting
  | list hholding => exact h.list hholding
  | startThread hlisted => exact h.startThread hlisted
  | store hstarted => exact h.store hstarted
  | drop hstored => exact h.accepting (by simp [hstored]) (fun c ↦ by rw [hstored]; rfl) fun _ ↦ rfl
  | unlist hstage => exact h.unlist hstage
  | @detach c hstage hjoinable =>
    have hunstarted : (s.connection c).stage ≠ .unstarted := by simp [hstage]
    exact h.settle hunstarted ((h.standing c (h.lt_made hunstarted)).detach hstage hjoinable)
  | @keep c erased hstage hkeep =>
    have hunstarted : (s.connection c).stage ≠ .unstarted := by simp [hstage]
    exact h.settle hunstarted ((h.standing c (h.lt_made hunstarted)).keep hstage hkeep)
  | @finish c hstage =>
    have hunstarted : (s.connection c).stage ≠ .unstarted := by simp [hstage]
    exact h.settle hunstarted ((h.standing c (h.lt_made hunstarted)).finish hstage)
  | stopped => exact h
  | stop hidle => exact h.stop hidle
  | joinAcceptor hclosing hended => exact h.joinAcceptor hclosing hended
  | swap hswapping => exact h.swap hswapping
  | join hjoining hjoinable hended => exact h.join hjoining hended
  | skip hjoining hjoinable => exact (h.not_skip hjoining hjoinable).elim
  | leave hjoining => exact h.leave hjoining

end Tidy

/-- A thread that is past its handle, while nobody released it and nobody will. -/
structure Lost (s : Coordinator) (c : ℕ) : Prop where
  made : c < s.made
  stage : (s.connection c).stage = .settled ∨ (s.connection c).stage = .ended
  released : (s.connection c).released = 0
  unpending : c ∉ s.pending

theorem lost_congr {c : ℕ} (hmade : c < s'.made ↔ c < s.made) (hconnection : s'.connection c = s.connection c)
    (hpending : c ∈ s'.pending ↔ c ∈ s.pending) : Lost s' c ↔ Lost s c := by
  constructor
  · rintro ⟨hc, hstage, hreleased, hunpending⟩
    rw [hconnection] at hstage hreleased
    exact ⟨hmade.mp hc, hstage, hreleased, fun hmem ↦ hunpending (hpending.mpr hmem)⟩
  · rintro ⟨hc, hstage, hreleased, hunpending⟩
    rw [← hconnection] at hstage hreleased
    exact ⟨hmade.mpr hc, hstage, hreleased, fun hmem ↦ hunpending (hpending.mp hmem)⟩

theorem lost_put {c d : ℕ} {connection : Connection} (hmade : s'.made = s.made)
    (hconnection : s'.connection = update s.connection c connection) (hpending : s'.pending = s.pending)
    (hstage : connection.stage = .settled ∨ connection.stage = .ended ↔
      (s.connection c).stage = .settled ∨ (s.connection c).stage = .ended)
    (hreleased : connection.released = (s.connection c).released) : Lost s' d ↔ Lost s d := by
  by_cases hdc : d = c
  · subst hdc
    have hat : s'.connection d = connection := by rw [hconnection, update_self]
    constructor
    · rintro ⟨hc, hover, hzero, hunpending⟩
      rw [hat] at hover hzero
      exact ⟨hmade ▸ hc, hstage.mp hover, hreleased ▸ hzero, hpending ▸ hunpending⟩
    · rintro ⟨hc, hover, hzero, hunpending⟩
      refine ⟨hmade ▸ hc, ?_, ?_, hpending ▸ hunpending⟩
      · rw [hat]
        exact hstage.mpr hover
      · rw [hat, hreleased]
        exact hzero
  · refine lost_congr (by rw [hmade]) ?_ (by rw [hpending])
    rw [hconnection, update_of_ne hdc]

theorem Tidy.releasedOnce (h : Tidy s) (hlost : ∀ c, ¬ Lost s c) : ReleasedOnce s := by
  intro c hc
  have hstanding := h.standing c hc
  generalize hbirth : s.acceptor.birth c = birth, hlisted : decide (c ∈ s.listed) = listed,
    hpending : decide (c ∈ s.pending) = pending, hconnection : s.connection c = connection at hstanding
  refine ⟨by cases hstanding <;> simp, ?_⟩
  intro hgone
  simp only [Coordinator.referenced, Bool.or_eq_false_iff] at hgone
  obtain ⟨⟨⟨hheld, hunlisted⟩, hswapped⟩, hstage⟩ := hgone
  rw [Acceptor.birth_eq_none hheld] at hbirth
  rw [hconnection] at hstage
  cases hstanding with
  | created | listed | young | early | forsaken => cases hbirth
  | live => simp at hstage
  | retiring => simp at hstage
  | overtaken hover =>
    have hmem : c ∈ s.swapped := by
      have hrest := of_decide_eq_true hpending
      unfold Coordinator.pending at hrest
      unfold Coordinator.swapped
      split at hrest
      · exact List.mem_append_right _ hrest
      · cases hrest
    rw [decide_eq_false_iff_not] at hswapped
    exact absurd hmem hswapped
  | released => exact ⟨rfl, rfl⟩
  | lost hover =>
    refine absurd ⟨hc, ?_, ?_, of_decide_eq_false hpending⟩ (hlost c)
    · rw [hconnection]
      exact hover
    · rw [hconnection]

theorem lost_iff {act : Act} {c : ℕ} (htidy : Tidy s) (hmove : Moves s act s') :
    Lost s' c ↔ Lost s c ∨ Early s act c := by
  have hother : (∀ d, act ≠ .settle d) → (Lost s' c ↔ Lost s c) →
      (Lost s' c ↔ Lost s c ∨ Early s act c) := by
    intro hact hlost
    rw [hlost, or_iff_left]
    exact fun hearly ↦ hact c hearly.1
  cases hmove with
  | start hidle hrunning => exact hother nofun (lost_congr Iff.rfl rfl Iff.rfl)
  | accepting acceptor hact hold hpresent hnew => exact hother hact (lost_congr Iff.rfl rfl Iff.rfl)
  | create hwaiting =>
    refine hother nofun ?_
    rw [htidy.put_made]
    constructor
    · rintro ⟨hc, hstage, hreleased, hunpending⟩
      rcases Nat.lt_succ_iff_lt_or_eq.mp hc with hc | rfl
      · exact ⟨hc, hstage, hreleased, hunpending⟩
      · rw [htidy.unmade _ (Nat.le_refl s.made)] at hstage
        rcases hstage with hstage | hstage <;> cases hstage
    · rintro ⟨hc, hstage, hreleased, hunpending⟩
      exact ⟨Nat.lt_succ_of_lt hc, hstage, hreleased, hunpending⟩
  | list hholding => exact hother nofun (lost_congr Iff.rfl rfl Iff.rfl)
  | @startThread d hlisted =>
    have hstanding := htidy.standing d (htidy.held d (by simp [hlisted, Acceptor.holds]))
    rw [hlisted, show Acceptor.birth d (.listed d) = some .listed from if_pos rfl] at hstanding
    exact hother nofun (lost_put rfl rfl rfl (by simp [hstanding.unstarted]) rfl)
  | store hstarted => exact hother nofun (lost_put rfl rfl rfl Iff.rfl rfl)
  | drop hstored => exact hother nofun (lost_congr Iff.rfl rfl Iff.rfl)
  | unlist hstage => exact hother nofun (lost_put rfl rfl rfl (by simp [hstage]) rfl)
  | @detach d hstage hjoinable =>
    by_cases hcd : c = d
    · subst hcd
      refine iff_of_false ?_ ?_
      · rintro ⟨-, -, hreleased, -⟩
        simp [Coordinator.put, Connection.release] at hreleased
      · rintro (⟨-, hover, -, -⟩ | ⟨-, -, hunstored⟩)
        · simp [hstage] at hover
        · simp [hjoinable] at hunstored
    · rw [or_iff_left (fun hearly ↦ hcd (Act.settle.inj hearly.1).symm)]
      exact lost_congr Iff.rfl (update_of_ne hcd _ _) Iff.rfl
  | @keep d erased hstage hkeep =>
    by_cases hcd : c = d
    · subst hcd
      have hc := htidy.lt_made (c := c) (by simp [hstage])
      have hat : ((s.moveTo c .settled).connection c) = { s.connection c with stage := .settled } :=
        update_self c _ s.connection
      rcases (htidy.standing c hc).untimely hstage hkeep with
        ⟨rfl, hpending⟩ | ⟨rfl, hpending, hunstored, hreleased⟩
      · have hwaiting : c ∈ s.pending := of_decide_eq_true hpending
        refine iff_of_false (fun hlost ↦ hlost.unpending hwaiting) ?_
        rintro (hlost | hearly)
        · exact hlost.unpending hwaiting
        · have hunlisted := hearly.2.1
          rw [hstage] at hunlisted
          cases hunlisted
      · refine iff_of_true ⟨hc, ?_, ?_, of_decide_eq_false hpending⟩ (Or.inr ⟨rfl, hstage, hunstored⟩)
        · rw [hat]
          exact Or.inl rfl
        · rw [hat]
          exact hreleased
    · rw [or_iff_left (fun hearly ↦ hcd (Act.settle.inj hearly.1).symm)]
      exact lost_congr Iff.rfl (update_of_ne hcd _ _) Iff.rfl
  | finish hstage => exact hother nofun (lost_put rfl rfl rfl (by simp [hstage]) rfl)
  | stopped => exact hother nofun Iff.rfl
  | stop hidle =>
    refine hother nofun (lost_congr Iff.rfl rfl ?_)
    simp [Coordinator.pending, hidle]
  | joinAcceptor hclosing hended =>
    refine hother nofun (lost_congr Iff.rfl rfl ?_)
    simp [Coordinator.pending, hclosing]
  | swap hswapping =>
    refine hother nofun ?_
    have hpending : s.pending = [] := by rw [Coordinator.pending, hswapping]
    constructor
    · rintro ⟨hc, hstage, hreleased, -⟩
      exact ⟨hc, hstage, hreleased, by rw [hpending]; exact List.not_mem_nil⟩
    · rintro ⟨hc, hstage, hreleased, hunpending⟩
      refine ⟨hc, hstage, hreleased, ?_⟩
      exact of_decide_eq_false ((htidy.standing c hc).unlisted hstage)
  | @join joined rest d hjoining hjoinable hended =>
    refine hother nofun ?_
    have hpending : s.pending = d :: rest := by rw [Coordinator.pending, hjoining]
    by_cases hcd : c = d
    · subst hcd
      refine iff_of_false ?_ ?_
      · rintro ⟨-, -, hreleased, -⟩
        simp [Coordinator.put, Connection.release] at hreleased
      · rintro ⟨-, -, -, hunpending⟩
        rw [hpending] at hunpending
        exact hunpending List.mem_cons_self
    · refine lost_congr Iff.rfl (update_of_ne hcd _ _) ?_
      rw [hpending]
      exact (List.mem_cons.trans (or_iff_right hcd)).symm
  | skip hjoining hjoinable => exact (htidy.not_skip hjoining hjoinable).elim
  | leave hjoining =>
    refine hother nofun (lost_congr Iff.rfl rfl ?_)
    simp [Coordinator.pending, hjoining]

section

variable {maxConnections : ℕ} {past : List (Event Act Bool Coordinator)}

theorem tidy (h : ConnectionRun maxConnections past s) : Tidy s :=
  h.keeps Tidy (tidy_start maxConnections) fun _ _ _ htidy hstep ↦ htidy.moves (step_moves hstep)

theorem not_early_of_none {act : Act} {c : ℕ} (h : step act s = none) : ¬ Early s act c := by
  rintro ⟨rfl, hstage, hunstored⟩
  simp [step, hstage, hunstored] at h

theorem lost_event_iff {act : Act} {c : ℕ} (h : Tidy s) :
    Lost (attempt step act s).2 c ↔ Lost s c ∨ Early s act c := by
  cases hstep : step act s with
  | none => rw [attempt_of_none hstep, or_iff_left (not_early_of_none hstep)]
  | some s' =>
    rw [attempt_of_some hstep]
    exact lost_iff h (step_moves hstep)

theorem lost_iff_early (h : ConnectionRun maxConnections past s) (c : ℕ) :
    Lost s c ↔ ∃ e ∈ past, Early e.before e.op c := by
  induction h with
  | start =>
    refine iff_of_false ?_ ?_
    · rintro ⟨hc, -⟩
      exact absurd hc (Nat.not_lt_zero c)
    · rintro ⟨e, he, -⟩
      exact absurd he List.not_mem_nil
  | snoc h act ih =>
    rw [lost_event_iff (tidy h), ih]
    simp only [List.mem_append, List.mem_singleton, or_and_right, exists_or, exists_eq_left]
    rfl

def Finished (s : Coordinator) : Prop := ∀ c < s.made, s.referenced c = false

instance : Decidable (Finished s) := inferInstanceAs (Decidable (∀ c < s.made, s.referenced c = false))

theorem Lost.not_releasedOnce {c : ℕ} (h : Lost s c) (hfinished : Finished s) : ¬ ReleasedOnce s := by
  intro hreleased
  have hone := ((hreleased c h.made).2 (hfinished c h.made)).2
  rw [h.released] at hone
  cases hone

/-- Handles are released once as long as no thread looks at its handle too early; and in a run at
whose end every connection is destroyed, only then. -/
theorem released_once_iff (h : ConnectionRun maxConnections past s) :
    ((∀ e ∈ past, Timely e.before e.op) → ∀ e ∈ past, ReleasedOnce e.after) ∧
      (Finished s → (∀ e ∈ past, ReleasedOnce e.after) → ∀ e ∈ past, Timely e.before e.op) := by
  constructor
  · intro htimely e he
    obtain ⟨pre, post, rfl⟩ := List.append_of_mem he
    have hrun := h.upTo rfl
    refine (tidy hrun).releasedOnce ?_
    intro c hlost
    obtain ⟨x, hx, hearly⟩ := (lost_iff_early hrun c).mp hlost
    refine htimely x ?_ c hearly
    rw [List.append_cons]
    exact List.mem_append_left _ hx
  · intro hfinished hreleased e he c hearly
    have hlost := (lost_iff_early h c).mpr ⟨e, he, hearly⟩
    cases h with
    | start => cases he
    | snoc hrun act =>
      have hlast := hreleased _ (List.mem_append_right _ (List.mem_singleton_self _))
      exact hlost.not_releasedOnce hfinished hlast

/-- A connection that retires itself, and one that is still live when the coordinator stops. -/
def retiredActs : List Act :=
  [.start, .check, .accept .socket, .list, .startThread, .store, .drop, .unlist 0, .settle 0, .finish 0,
    .check, .accept .socket, .list, .startThread, .store, .drop, .stop, .check, .joinAcceptor, .swap,
    .unlist 1, .settle 1, .finish 1, .join, .leave]

theorem released_once_iff_retired : ∃ past s, ConnectionRun 32 past s ∧ Finished s ∧
    ∀ e ∈ past, ReleasedOnce e.after :=
  ⟨_, _, Run.of_ops retiredActs, by decide, (released_once_iff (Run.of_ops retiredActs)).1 (by decide)⟩

/-- The handle of a connection that ends before it is stored is neither detached nor joined, and
joinable when the connection is destroyed. -/
theorem early_handle_destroyed_joinable : ∃ past s, ConnectionRun 32 past s ∧
    s.referenced 0 = false ∧ (s.connection 0).joinable = true ∧ (s.connection 0).released = 0 ∧
      ¬ ReleasedOnce s :=
  ⟨_, _, Run.of_ops earlyActs, by decide, by decide, by decide, by decide⟩

end

end HotspotGovernor.Connections
