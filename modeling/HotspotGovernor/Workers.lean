import HotspotGovernor.Foundation
import HotspotGovernor.Lib.Trace
import Mathlib.Data.List.Nodup
import Mathlib.Data.List.Perm.Basic

namespace HotspotGovernor.Workers

open Foundation Lib.Trace

/-- Where a thread stands in `worker_loop`: at the top of the loop, inside its task, or behind a task
that threw. -/
inductive Thread (Task : Type)
  | waiting
  | running (task : Task)
  | caught (task : Task)
  | ended
  deriving DecidableEq

namespace Thread

variable {Task : Type}

def task? : Thread Task → Option Task
  | .running task | .caught task => some task
  | .waiting | .ended => none

def isCaught : Thread Task → Bool
  | .caught _ => true
  | _ => false

end Thread

/-- The constructor clamps both bounds to one at least. -/
structure WorkerPool (Task : Type) where
  threadCount : ℕ
  queueCapacity : ℕ
  threadCount_pos : 0 < threadCount
  queue : List Task := []
  threads : List (Thread Task) := []
  started : Bool := false
  accepting : Bool := false
  stopping : Bool := false
  active : ℕ := 0
  completed : ℕ := 0
  rejected : ℕ := 0
  dropped : ℕ := 0
  failed : ℕ := 0

namespace WorkerPool

variable {Task : Type}

def new (threadCount queueCapacity : ℕ) : WorkerPool Task where
  threadCount := max 1 (min threadCount Limits.kMaxWorkerThreads)
  queueCapacity := max 1 (min queueCapacity Limits.kMaxQueueDepth)
  threadCount_pos := Nat.lt_of_lt_of_le Nat.zero_lt_one (Nat.le_max_left _ _)

def start (pool : WorkerPool Task) : Status × WorkerPool Task :=
  if pool.started then (.error ⟨.alreadyStarted, "worker pool is already started"⟩, pool)
  else (.ok (), { pool with
    started := true
    accepting := true
    stopping := false
    threads := pool.threads ++ List.replicate pool.threadCount .waiting })

def submit (task : Option Task) (pool : WorkerPool Task) : Status × WorkerPool Task :=
  match task with
  | none => (.error ⟨.invalidArgument, "task is empty"⟩, pool)
  | some task =>
    if !pool.accepting || pool.stopping then
      (.error ⟨.shuttingDown, "worker pool is not accepting work"⟩, { pool with rejected := pool.rejected + 1 })
    else if pool.queue.length ≥ pool.queueCapacity then
      (.error ⟨.queueFull, "worker queue is full"⟩, { pool with rejected := pool.rejected + 1 })
    else (.ok (), { pool with queue := pool.queue ++ [task] })

def stopAccepting (pool : WorkerPool Task) : WorkerPool Task := { pool with accepting := false }

def dropPending (pool : WorkerPool Task) : ℕ × WorkerPool Task :=
  (pool.queue.length, { pool with dropped := pool.dropped + pool.queue.length, queue := [] })

def beginDrain (pool : WorkerPool Task) : WorkerPool Task :=
  { pool with accepting := false, stopping := true }

def beginCancel (pool : WorkerPool Task) : WorkerPool Task :=
  { pool with
    accepting := false
    stopping := true
    dropped := pool.dropped + pool.queue.length
    queue := [] }

def clearThreads (pool : WorkerPool Task) : WorkerPool Task := { pool with threads := [] }

def endStop (pool : WorkerPool Task) : WorkerPool Task := { pool with started := false }

def put (i : ℕ) (thread : Thread Task) (pool : WorkerPool Task) : WorkerPool Task :=
  { pool with threads := pool.threads.set i thread }

/-- What a waiting worker does once the predicate of its wait holds: it takes the oldest task, or
leaves when there is none and the pool stops. -/
def fetch (i : ℕ) (pool : WorkerPool Task) : Option (WorkerPool Task) :=
  match pool.queue with
  | [] => if pool.stopping then some (pool.put i .ended) else none
  | task :: queue => some { pool.put i (.running task) with queue, active := pool.active + 1 }

def countFailure (i : ℕ) (task : Task) (pool : WorkerPool Task) : WorkerPool Task :=
  { pool.put i (.caught task) with failed := pool.failed + 1 }

def complete (i : ℕ) (pool : WorkerPool Task) : WorkerPool Task :=
  { pool.put i .waiting with
    active := if pool.active > 0 then pool.active - 1 else pool.active
    completed := pool.completed + 1 }

def pending (pool : WorkerPool Task) : ℕ := pool.queue.length

end WorkerPool

inductive Stop
  | drain
  | cancel
  deriving DecidableEq

/-- Where the controlling client stands: outside, joining the threads of a stop one after the other,
or behind the last of them. -/
inductive Control
  | idle
  | joining (kind : Stop) (next : ℕ)
  | closing (kind : Stop)
  deriving DecidableEq

/-- Who calls `submit` and `drop_pending`: any client, or the task that a thread is in. -/
inductive Caller
  | client (i : ℕ)
  | task (thread : ℕ)

inductive Act
  | submit (caller : Caller) (empty : Bool)
  | dropPending (caller : Caller)
  | start
  | stopAccepting
  | stop (kind : Stop)
  | join
  | clear
  | endStop
  | fetch (thread : ℕ)
  | throw (thread : ℕ)
  | complete (thread : ℕ)

/-- A pool with its controlling client and what became of the tasks so far. A task is known by the
number of tasks that were accepted before it. -/
structure PoolState where
  pool : WorkerPool ℕ
  control : Control := .idle
  accepted : ℕ := 0
  executed : List ℕ := []
  completed : List ℕ := []
  dropped : List ℕ := []

namespace PoolState

def new (threadCount queueCapacity : ℕ) : PoolState := { pool := .new threadCount queueCapacity }

def calls (s : PoolState) : Caller → Bool
  | .client _ => true
  | .task thread =>
    match s.pool.threads[thread]? with
    | some (.running _) => true
    | _ => false

def inHand (s : PoolState) : List ℕ := s.pool.threads.filterMap Thread.task?

end PoolState

open PoolState

/-- One mutex-protected section, or one join, of any of the threads. -/
def step (act : Act) (s : PoolState) : Option PoolState :=
  match act with
  | .submit caller empty =>
    if s.calls caller then
      match s.pool.submit (if empty then none else some s.accepted) with
      | (.ok (), pool) => some { s with pool, accepted := s.accepted + 1 }
      | (.error _, pool) => some { s with pool }
    else none
  | .dropPending caller =>
    if s.calls caller then
      some { s with pool := s.pool.dropPending.2, dropped := s.dropped ++ s.pool.queue }
    else none
  | .start => if s.control = .idle then some { s with pool := s.pool.start.2 } else none
  | .stopAccepting => if s.control = .idle then some { s with pool := s.pool.stopAccepting } else none
  | .stop kind =>
    if s.control = .idle then
      match kind with
      | .drain => some { s with pool := s.pool.beginDrain, control := .joining .drain 0 }
      | .cancel => some { s with
        pool := s.pool.beginCancel
        control := .joining .cancel 0
        dropped := s.dropped ++ s.pool.queue }
    else none
  | .join =>
    match s.control with
    | .joining kind next =>
      if s.pool.threads[next]? = some .ended then some { s with control := .joining kind (next + 1) } else none
    | _ => none
  | .clear =>
    match s.control with
    | .joining kind next =>
      if next = s.pool.threads.length then
        some { s with pool := s.pool.clearThreads, control := .closing kind }
      else none
    | _ => none
  | .endStop =>
    match s.control with
    | .closing _ => some { s with pool := s.pool.endStop, control := .idle }
    | _ => none
  | .fetch i =>
    match s.pool.threads[i]? with
    | some .waiting =>
      (s.pool.fetch i).map fun pool ↦ { s with pool, executed := s.executed ++ s.pool.queue.take 1 }
    | _ => none
  | .throw i =>
    match s.pool.threads[i]? with
    | some (.running task) => some { s with pool := s.pool.countFailure i task }
    | _ => none
  | .complete i =>
    match s.pool.threads[i]? with
    | some (.running task) | some (.caught task) =>
      some { s with pool := s.pool.complete i, completed := s.completed ++ [task] }
    | _ => none

abbrev PoolRun (threadCount queueCapacity : ℕ) : List (Event Act Bool PoolState) → PoolState → Prop :=
  Run (attempt step) (.new threadCount queueCapacity)

inductive Moves (s : PoolState) : PoolState → Prop
  | reject (rejected : ℕ) : Moves s { s with pool := { s.pool with rejected } }
  | accept (haccepting : s.pool.accepting = true) (hstopping : s.pool.stopping = false)
      (hroom : s.pool.queue.length < s.pool.queueCapacity) :
      Moves s { s with
        pool := { s.pool with queue := s.pool.queue ++ [s.accepted] }
        accepted := s.accepted + 1 }
  | drop : Moves s { s with pool := s.pool.dropPending.2, dropped := s.dropped ++ s.pool.queue }
  | start (hidle : s.control = .idle) (hstarted : s.pool.started = false) :
      Moves s { s with pool := s.pool.start.2 }
  | stopAccepting (hidle : s.control = .idle) : Moves s { s with pool := s.pool.stopAccepting }
  | drain (hidle : s.control = .idle) :
      Moves s { s with pool := s.pool.beginDrain, control := .joining .drain 0 }
  | cancel (hidle : s.control = .idle) :
      Moves s { s with
        pool := s.pool.beginCancel
        control := .joining .cancel 0
        dropped := s.dropped ++ s.pool.queue }
  | join {kind : Stop} {next : ℕ} (hcontrol : s.control = .joining kind next)
      (hended : s.pool.threads[next]? = some .ended) :
      Moves s { s with control := .joining kind (next + 1) }
  | clear {kind : Stop} (hcontrol : s.control = .joining kind s.pool.threads.length) :
      Moves s { s with pool := s.pool.clearThreads, control := .closing kind }
  | close {kind : Stop} (hcontrol : s.control = .closing kind) :
      Moves s { s with pool := s.pool.endStop, control := .idle }
  | leave {i : ℕ} (hthread : s.pool.threads[i]? = some .waiting) (hqueue : s.pool.queue = [])
      (hstopping : s.pool.stopping = true) : Moves s { s with pool := s.pool.put i .ended }
  | take {i task : ℕ} {queue : List ℕ} (hthread : s.pool.threads[i]? = some .waiting)
      (hqueue : s.pool.queue = task :: queue) :
      Moves s { s with
        pool := { s.pool.put i (.running task) with queue, active := s.pool.active + 1 }
        executed := s.executed ++ [task] }
  | throw {i task : ℕ} (hthread : s.pool.threads[i]? = some (.running task)) :
      Moves s { s with pool := s.pool.countFailure i task }
  | complete {i task : ℕ} {thread : Thread ℕ} (hthread : s.pool.threads[i]? = some thread)
      (htask : thread.task? = some task) :
      Moves s { s with pool := s.pool.complete i, completed := s.completed ++ [task] }

variable {s s' : PoolState}

theorem WorkerPool.submit_cases {Task : Type} (task : Option Task) (pool : WorkerPool Task) :
    (∃ e rejected, pool.submit task = (.error e, { pool with rejected })) ∨
      ∃ accepted, task = some accepted ∧ pool.accepting = true ∧ pool.stopping = false ∧
        pool.queue.length < pool.queueCapacity ∧
        pool.submit task = (.ok (), { pool with queue := pool.queue ++ [accepted] }) := by
  cases task with
  | none => exact Or.inl ⟨_, pool.rejected, rfl⟩
  | some task =>
    rw [submit]
    split
    · exact Or.inl ⟨_, _, rfl⟩
    · next hopen =>
      simp only [Bool.or_eq_true, Bool.not_eq_true', not_or, Bool.not_eq_false, Bool.not_eq_true] at hopen
      split
      · exact Or.inl ⟨_, _, rfl⟩
      · next hroom => exact Or.inr ⟨task, rfl, hopen.1, hopen.2, Nat.lt_of_not_le hroom, rfl⟩

theorem moves_submit {caller : Caller} {empty : Bool} (h : step (.submit caller empty) s = some s') :
    Moves s s' := by
  obtain ⟨-, h⟩ := Option.ite_none_right_eq_some.mp h
  rcases s.pool.submit_cases (if empty then none else some s.accepted) with
    ⟨e, rejected, hsubmit⟩ | ⟨task, htask, haccepting, hstopping, hroom, hsubmit⟩
  · rw [hsubmit] at h
    cases h
    exact .reject rejected
  · rw [hsubmit] at h
    cases h
    cases empty with
    | true => cases htask
    | false =>
      cases htask
      exact .accept haccepting hstopping hroom

theorem step_moves {act : Act} (h : step act s = some s') : Moves s s' := by
  cases act with
  | submit caller empty => exact moves_submit h
  | dropPending caller =>
    obtain ⟨-, h⟩ := Option.ite_none_right_eq_some.mp h
    cases h
    exact .drop
  | start =>
    obtain ⟨hidle, h⟩ := Option.ite_none_right_eq_some.mp h
    cases h
    cases hstarted : s.pool.started with
    | false => exact .start hidle hstarted
    | true =>
      rw [WorkerPool.start, if_pos hstarted]
      exact .reject s.pool.rejected
  | stopAccepting =>
    obtain ⟨hidle, h⟩ := Option.ite_none_right_eq_some.mp h
    cases h
    exact .stopAccepting hidle
  | stop kind =>
    obtain ⟨hidle, h⟩ := Option.ite_none_right_eq_some.mp h
    cases kind with
    | drain =>
      cases h
      exact .drain hidle
    | cancel =>
      cases h
      exact .cancel hidle
  | join =>
    simp only [step] at h
    split at h
    · next hcontrol =>
      obtain ⟨hended, h⟩ := Option.ite_none_right_eq_some.mp h
      cases h
      exact .join hcontrol hended
    · cases h
  | clear =>
    simp only [step] at h
    split at h
    · next hcontrol =>
      obtain ⟨hnext, h⟩ := Option.ite_none_right_eq_some.mp h
      cases h
      exact .clear (hnext ▸ hcontrol)
    · cases h
  | endStop =>
    simp only [step] at h
    split at h
    · next hcontrol =>
      cases h
      exact .close hcontrol
    · cases h
  | fetch i =>
    simp only [step] at h
    split at h
    · next hthread =>
      obtain ⟨pool, hpool, h⟩ := Option.map_eq_some_iff.mp h
      cases hqueue : s.pool.queue with
      | nil =>
        simp only [WorkerPool.fetch, hqueue] at hpool
        obtain ⟨hstopping, hpool⟩ := Option.ite_none_right_eq_some.mp hpool
        cases hpool
        cases h
        simpa [hqueue] using Moves.leave hthread hqueue hstopping
      | cons task queue =>
        simp only [WorkerPool.fetch, hqueue] at hpool
        cases hpool
        cases h
        simpa [hqueue] using Moves.take hthread hqueue
    · cases h
  | throw i =>
    simp only [step] at h
    split at h
    · next hthread =>
      cases h
      exact .throw hthread
    · cases h
  | complete i =>
    simp only [step] at h
    split at h
    · next hthread =>
      cases h
      exact .complete hthread rfl
    · next hthread =>
      cases h
      exact .complete hthread rfl
    · cases h

/-- What holds of a pool while its controlling client stands where it does. -/
structure Orderly (pool : WorkerPool ℕ) (control : Control) : Prop where
  ended : .ended ∈ pool.threads → pool.stopping = true ∧ pool.queue = []
  unstarted : pool.started = false → pool.accepting = false ∧ pool.threads = [] ∧ pool.queue = []
  idle : control = .idle → pool.started = true → pool.threads ≠ []
  joining : ∀ kind next, control = .joining kind next →
    pool.accepting = false ∧ (pool.threads = [] → pool.queue = []) ∧
      ∀ i < next, pool.threads[i]? = some .ended
  closing : ∀ kind, control = .closing kind →
    pool.accepting = false ∧ pool.threads = [] ∧ pool.queue = []

theorem orderly_new (threadCount queueCapacity : ℕ) : Orderly (.new threadCount queueCapacity) .idle where
  ended := nofun
  unstarted _ := ⟨rfl, rfl, rfl⟩
  idle _ := nofun
  joining _ _ := nofun
  closing _ := nofun

namespace Orderly

variable {pool : WorkerPool ℕ} {control : Control}

theorem queue_nil (h : Orderly pool control) (dropped : ℕ) :
    Orderly { pool with queue := [], dropped } control where
  ended hmem := ⟨(h.ended hmem).1, rfl⟩
  unstarted hstarted := ⟨(h.unstarted hstarted).1, (h.unstarted hstarted).2.1, rfl⟩
  idle := h.idle
  joining kind next hcontrol :=
    ⟨(h.joining kind next hcontrol).1, fun _ ↦ rfl, (h.joining kind next hcontrol).2.2⟩
  closing kind hcontrol := ⟨(h.closing kind hcontrol).1, (h.closing kind hcontrol).2.1, rfl⟩

theorem accept (h : Orderly pool control) (haccepting : pool.accepting = true)
    (hstopping : pool.stopping = false) (task : ℕ) :
    Orderly { pool with queue := pool.queue ++ [task] } control where
  ended hmem := by
    have hstop := (h.ended hmem).1
    rw [hstopping] at hstop
    cases hstop
  unstarted hstarted := by
    have hclosed := (h.unstarted hstarted).1
    rw [haccepting] at hclosed
    cases hclosed
  idle := h.idle
  joining kind next hcontrol := by
    have hclosed := (h.joining kind next hcontrol).1
    rw [haccepting] at hclosed
    cases hclosed
  closing kind hcontrol := by
    have hclosed := (h.closing kind hcontrol).1
    rw [haccepting] at hclosed
    cases hclosed

theorem stopAccepting (h : Orderly pool control) : Orderly pool.stopAccepting control where
  ended := h.ended
  unstarted hstarted := ⟨rfl, (h.unstarted hstarted).2⟩
  idle := h.idle
  joining kind next hcontrol := ⟨rfl, (h.joining kind next hcontrol).2⟩
  closing kind hcontrol := ⟨rfl, (h.closing kind hcontrol).2⟩

theorem start (h : Orderly pool .idle) (hstarted : pool.started = false) : Orderly pool.start.2 .idle := by
  have hthreads := (h.unstarted hstarted).2.1
  rw [WorkerPool.start, if_neg (by simp [hstarted]), hthreads]
  refine ⟨?_, nofun, ?_, nofun, nofun⟩
  · intro hmem
    cases List.eq_of_mem_replicate hmem
  · rintro - -
    exact fun hnil ↦ pool.threadCount_pos.ne' ((List.replicate_eq_nil_iff _).mp hnil)

theorem beginDrain (h : Orderly pool .idle) (kind : Stop) : Orderly pool.beginDrain (.joining kind 0) := by
  refine ⟨fun hmem ↦ ⟨rfl, (h.ended hmem).2⟩,
    fun hstarted ↦ ⟨rfl, (h.unstarted hstarted).2⟩, nofun, ?_, nofun⟩
  rintro _ _ hcontrol
  cases hcontrol
  refine ⟨rfl, ?_, nofun⟩
  intro hthreads
  cases hstarted : pool.started with
  | false => exact (h.unstarted hstarted).2.2
  | true => exact absurd hthreads (h.idle rfl hstarted)

theorem join {kind : Stop} {next : ℕ} (h : Orderly pool (.joining kind next))
    (hended : pool.threads[next]? = some .ended) : Orderly pool (.joining kind (next + 1)) := by
  obtain ⟨haccepting, hqueue, hjoined⟩ := h.joining kind next rfl
  refine ⟨h.ended, h.unstarted, nofun, ?_, nofun⟩
  rintro _ _ hcontrol
  cases hcontrol
  refine ⟨haccepting, hqueue, ?_⟩
  intro i hi
  rcases Nat.lt_succ_iff_lt_or_eq.mp hi with hi | rfl
  · exact hjoined i hi
  · exact hended

theorem drained {kind : Stop} (h : Orderly pool (.joining kind pool.threads.length)) :
    pool.queue = [] ∧ ∀ thread ∈ pool.threads, thread = .ended := by
  obtain ⟨-, hqueue, hjoined⟩ := h.joining kind _ rfl
  have hall : ∀ thread ∈ pool.threads, thread = .ended := by
    intro thread hmem
    obtain ⟨i, hi, rfl⟩ := List.getElem_of_mem hmem
    exact Option.some_inj.mp ((List.getElem?_eq_getElem hi).symm.trans (hjoined i hi))
  refine ⟨?_, hall⟩
  cases hthreads : pool.threads with
  | nil => exact hqueue hthreads
  | cons thread threads =>
    have hmem : thread ∈ pool.threads := hthreads ▸ List.mem_cons_self
    exact (h.ended (hall thread hmem ▸ hmem)).2

theorem clear {kind : Stop} (h : Orderly pool (.joining kind pool.threads.length)) :
    Orderly pool.clearThreads (.closing kind) where
  ended := nofun
  unstarted hstarted := ⟨(h.unstarted hstarted).1, rfl, h.drained.1⟩
  idle := nofun
  joining _ _ := nofun
  closing _ _ := ⟨(h.joining kind _ rfl).1, rfl, h.drained.1⟩

theorem close {kind : Stop} (h : Orderly pool (.closing kind)) : Orderly pool.endStop .idle := by
  obtain ⟨haccepting, hthreads, hqueue⟩ := h.closing kind rfl
  exact ⟨h.ended, fun _ ↦ ⟨haccepting, hthreads, hqueue⟩, fun _ ↦ nofun, nofun, nofun⟩

theorem turn {i : ℕ} {old : Thread ℕ} (new : Thread ℕ) {queue : List ℕ} (h : Orderly pool control)
    (hold : pool.threads[i]? = some old) (hrunning : old ≠ .ended) (hqueue : pool.queue = [] → queue = [])
    (hnew : new = .ended → pool.stopping = true ∧ queue = []) (active completed failed : ℕ) :
    Orderly { pool.put i new with queue, active, completed, failed } control := by
  have hnil : pool.threads.set i new = [] → pool.threads = [] := (List.set_eq_nil_iff _ _).mp
  have hsome : pool.threads ≠ [] := by
    rintro hthreads
    rw [hthreads] at hold
    cases hold
  refine ⟨?_, ?_, ?_, ?_, ?_⟩
  · intro hmem
    rcases List.mem_or_eq_of_mem_set hmem with hmem | heq
    · exact ⟨(h.ended hmem).1, hqueue (h.ended hmem).2⟩
    · exact hnew heq.symm
  · intro hstarted
    exact absurd (h.unstarted hstarted).2.1 hsome
  · intro _ _ hthreads
    exact hsome (hnil hthreads)
  · intro kind next hcontrol
    obtain ⟨haccepting, -, hjoined⟩ := h.joining kind next hcontrol
    refine ⟨haccepting, fun hthreads ↦ absurd (hnil hthreads) hsome, ?_⟩
    intro k hk
    have hended := hjoined k hk
    have hne : i ≠ k := by
      rintro rfl
      exact hrunning (Option.some_inj.mp (hold.symm.trans hended))
    exact (List.getElem?_set_ne hne).trans hended
  · intro kind hcontrol
    exact absurd (h.closing kind hcontrol).2.1 hsome

end Orderly

theorem Thread.ne_ended_of_task {thread : Thread ℕ} {task : ℕ} (h : thread.task? = some task) :
    thread ≠ .ended := by
  rintro rfl
  cases h

theorem Orderly.moves (h : Orderly s.pool s.control) (hmove : Moves s s') :
    Orderly s'.pool s'.control := by
  cases hmove with
  | reject rejected => exact ⟨h.ended, h.unstarted, h.idle, h.joining, h.closing⟩
  | accept haccepting hstopping hroom => exact h.accept haccepting hstopping s.accepted
  | drop => exact h.queue_nil _
  | start hidle hstarted =>
    rw [hidle] at h ⊢
    exact h.start hstarted
  | stopAccepting hidle => exact h.stopAccepting
  | drain hidle =>
    rw [hidle] at h
    exact h.beginDrain .drain
  | cancel hidle =>
    rw [hidle] at h
    exact (h.beginDrain .cancel).queue_nil _
  | join hcontrol hended =>
    rw [hcontrol] at h
    exact h.join hended
  | clear hcontrol =>
    rw [hcontrol] at h
    exact h.clear
  | close hcontrol =>
    rw [hcontrol] at h
    exact h.close
  | leave hthread hqueue hstopping =>
    exact h.turn .ended hthread nofun id (fun _ ↦ ⟨hstopping, hqueue⟩)
      s.pool.active s.pool.completed s.pool.failed
  | take hthread hqueue =>
    refine h.turn (.running _) hthread nofun ?_ nofun (s.pool.active + 1) s.pool.completed s.pool.failed
    intro hnil
    rw [hnil] at hqueue
    cases hqueue
  | throw hthread => exact h.turn (.caught _) hthread nofun id nofun s.pool.active s.pool.completed (s.pool.failed + 1)
  | complete hthread htask =>
    exact h.turn .waiting hthread (Thread.ne_ended_of_task htask) id nofun _ (s.pool.completed + 1) s.pool.failed

/-- Every accepted task is in one place, and the counters count what is there. -/
structure Accounted (s : PoolState) : Prop where
  places : ∀ task, s.pool.queue.count task + s.inHand.count task + s.completed.count task +
    s.dropped.count task = (List.range s.accepted).count task
  executed : ∀ task, s.executed.count task = s.inHand.count task + s.completed.count task
  active : s.pool.active = s.inHand.length
  completed : s.pool.completed = s.completed.length
  dropped : s.pool.dropped = s.dropped.length
  failed : s.pool.failed ≤ s.pool.completed + s.pool.threads.countP Thread.isCaught
  bounded : s.pool.queue.length ≤ s.pool.queueCapacity

theorem accounted_new (threadCount queueCapacity : ℕ) : Accounted (.new threadCount queueCapacity) where
  places _ := rfl
  executed _ := rfl
  active := rfl
  completed := rfl
  dropped := rfl
  failed := Nat.le_refl _
  bounded := Nat.zero_le _

theorem set_perm {threads : List (Thread ℕ)} {i : ℕ} {old : Thread ℕ} (h : threads[i]? = some old)
    (new : Thread ℕ) : (old :: threads.set i new).Perm (new :: threads) := by
  obtain ⟨hi, rfl⟩ := List.getElem?_eq_some_iff.mp h
  exact ((List.set_perm_cons_eraseIdx hi new).cons _).trans
    ((List.Perm.swap _ _ _).trans ((List.getElem_cons_eraseIdx_perm hi).cons new))

theorem inHand_perm {pool : WorkerPool ℕ} {i : ℕ} {old : Thread ℕ} (h : pool.threads[i]? = some old)
    (new : Thread ℕ) : (old.task?.toList ++ (pool.threads.set i new).filterMap Thread.task?).Perm
      (new.task?.toList ++ pool.threads.filterMap Thread.task?) := by
  have hperm := (set_perm h new).filterMap Thread.task?
  rw [List.filterMap_cons, List.filterMap_cons] at hperm
  cases hold : old.task? <;> cases hnew : new.task? <;> simpa [hold, hnew] using hperm

theorem caught_count {pool : WorkerPool ℕ} {i : ℕ} {old : Thread ℕ} (h : pool.threads[i]? = some old)
    (new : Thread ℕ) : (pool.threads.set i new).countP Thread.isCaught + old.isCaught.toNat =
      pool.threads.countP Thread.isCaught + new.isCaught.toNat := by
  have hcount := (set_perm h new).countP_eq Thread.isCaught
  rw [List.countP_cons, List.countP_cons] at hcount
  cases hold : old.isCaught <;> cases hnew : new.isCaught <;> simpa [hold, hnew] using hcount

namespace Accounted

theorem accept (h : Accounted s) (hroom : s.pool.queue.length < s.pool.queueCapacity) :
    Accounted { s with
      pool := { s.pool with queue := s.pool.queue ++ [s.accepted] }
      accepted := s.accepted + 1 } where
  places task := by
    have hplaces := h.places task
    simp only [PoolState.inHand, List.range_succ, List.count_append] at hplaces ⊢
    omega
  executed := h.executed
  active := h.active
  completed := h.completed
  dropped := h.dropped
  failed := h.failed
  bounded := by
    rw [List.length_append, List.length_singleton]
    exact hroom

theorem drop (h : Accounted s) (accepting stopping : Bool) (control : Control) :
    Accounted { s with
      pool := { s.pool with accepting, stopping, dropped := s.pool.dropped + s.pool.queue.length, queue := [] }
      control
      dropped := s.dropped ++ s.pool.queue } where
  places task := by
    have hplaces := h.places task
    simp only [PoolState.inHand, List.count_append, List.count_nil] at hplaces ⊢
    omega
  executed := h.executed
  active := h.active
  completed := h.completed
  dropped := by rw [List.length_append, h.dropped]
  failed := h.failed
  bounded := Nat.zero_le _

theorem start (h : Accounted s) : Accounted { s with pool := s.pool.start.2 } := by
  rw [WorkerPool.start]
  split
  · exact h
  · have hhand : (List.replicate s.pool.threadCount Thread.waiting).filterMap Thread.task? = ([] : List ℕ) := by
      rw [List.filterMap_replicate_of_none rfl]
    refine ⟨?_, ?_, ?_, h.completed, h.dropped, ?_, h.bounded⟩
    · simpa only [PoolState.inHand, List.filterMap_append, hhand, List.append_nil] using h.places
    · simpa only [PoolState.inHand, List.filterMap_append, hhand, List.append_nil] using h.executed
    · simpa only [PoolState.inHand, List.filterMap_append, hhand, List.append_nil] using h.active
    · have hfailed := h.failed
      simp only [List.countP_append]
      omega

theorem clear (h : Accounted s) (hended : ∀ thread ∈ s.pool.threads, thread = .ended) (control : Control) :
    Accounted { s with pool := s.pool.clearThreads, control } := by
  have hhand : s.inHand = [] := by
    refine List.filterMap_eq_nil_iff.mpr ?_
    intro thread hmem
    rw [hended thread hmem]
    rfl
  have hcaught : s.pool.threads.countP Thread.isCaught = 0 := by
    refine List.countP_eq_zero.mpr ?_
    intro thread hmem
    rw [hended thread hmem]
    nofun
  refine ⟨?_, ?_, ?_, h.completed, h.dropped, ?_, h.bounded⟩
  · intro task
    have hplaces := h.places task
    rwa [hhand] at hplaces
  · intro task
    have hexecuted := h.executed task
    rwa [hhand] at hexecuted
  · have hactive := h.active
    rwa [hhand] at hactive
  · have hfailed := h.failed
    rwa [hcaught] at hfailed

theorem leave {i : ℕ} (h : Accounted s) (hthread : s.pool.threads[i]? = some .waiting) :
    Accounted { s with pool := s.pool.put i .ended } := by
  have hhand : (PoolState.inHand { s with pool := s.pool.put i .ended }).Perm s.inHand :=
    inHand_perm hthread .ended
  refine ⟨?_, ?_, ?_, h.completed, h.dropped, ?_, h.bounded⟩
  · intro task
    rw [hhand.count_eq]
    exact h.places task
  · intro task
    rw [hhand.count_eq]
    exact h.executed task
  · rw [hhand.length_eq]
    exact h.active
  · have hcaught : (s.pool.threads.set i .ended).countP Thread.isCaught =
        s.pool.threads.countP Thread.isCaught := caught_count hthread .ended
    have hfailed := h.failed
    rwa [← hcaught] at hfailed

theorem take {i task : ℕ} {queue : List ℕ} (h : Accounted s) (hthread : s.pool.threads[i]? = some .waiting)
    (hqueue : s.pool.queue = task :: queue) :
    Accounted { s with
      pool := { s.pool.put i (.running task) with queue, active := s.pool.active + 1 }
      executed := s.executed ++ [task] } := by
  have hhand : ((s.pool.threads.set i (.running task)).filterMap Thread.task?).Perm (task :: s.inHand) :=
    inHand_perm hthread (.running task)
  refine ⟨?_, ?_, ?_, h.completed, h.dropped, ?_, ?_⟩
  · intro x
    have hplaces := h.places x
    have hcount := hhand.count_eq x
    rw [List.count_cons] at hcount
    rw [hqueue, List.count_cons] at hplaces
    simp only [PoolState.inHand, WorkerPool.put] at hplaces hcount ⊢
    omega
  · intro x
    have hexecuted := h.executed x
    have hcount := hhand.count_eq x
    rw [List.count_cons] at hcount
    simp only [PoolState.inHand, WorkerPool.put, List.count_append, List.count_singleton] at hexecuted hcount ⊢
    omega
  · have hlength := hhand.length_eq
    rw [List.length_cons, ← h.active] at hlength
    exact hlength.symm
  · have hcaught : (s.pool.threads.set i (.running task)).countP Thread.isCaught =
        s.pool.threads.countP Thread.isCaught := caught_count hthread (.running task)
    have hfailed := h.failed
    rwa [← hcaught] at hfailed
  · have hbounded := h.bounded
    rw [hqueue, List.length_cons] at hbounded
    exact Nat.le_of_succ_le hbounded

theorem throw {i task : ℕ} (h : Accounted s) (hthread : s.pool.threads[i]? = some (.running task)) :
    Accounted { s with pool := s.pool.countFailure i task } := by
  have hhand : (PoolState.inHand { s with pool := s.pool.countFailure i task }).Perm s.inHand :=
    (inHand_perm hthread (.caught task)).cons_inv
  refine ⟨?_, ?_, ?_, h.completed, h.dropped, ?_, h.bounded⟩
  · intro x
    rw [hhand.count_eq]
    exact h.places x
  · intro x
    rw [hhand.count_eq]
    exact h.executed x
  · rw [hhand.length_eq]
    exact h.active
  · have hcaught : (s.pool.threads.set i (.caught task)).countP Thread.isCaught =
        s.pool.threads.countP Thread.isCaught + 1 := caught_count hthread (.caught task)
    have hfailed := h.failed
    simp only [WorkerPool.countFailure, WorkerPool.put]
    omega

theorem complete {i task : ℕ} {thread : Thread ℕ} (h : Accounted s) (hthread : s.pool.threads[i]? = some thread)
    (htask : thread.task? = some task) :
    Accounted { s with pool := s.pool.complete i, completed := s.completed ++ [task] } := by
  have hhand : (task :: (s.pool.threads.set i .waiting).filterMap Thread.task?).Perm s.inHand := by
    have hperm := inHand_perm hthread .waiting
    rwa [htask] at hperm
  refine ⟨?_, ?_, ?_, ?_, h.dropped, ?_, h.bounded⟩
  · intro x
    have hplaces := h.places x
    have hcount := hhand.count_eq x
    rw [List.count_cons] at hcount
    simp only [PoolState.inHand, WorkerPool.complete, WorkerPool.put, List.count_append, List.count_singleton]
      at hplaces hcount ⊢
    omega
  · intro x
    have hexecuted := h.executed x
    have hcount := hhand.count_eq x
    rw [List.count_cons] at hcount
    simp only [PoolState.inHand, WorkerPool.complete, WorkerPool.put, List.count_append, List.count_singleton]
      at hexecuted hcount ⊢
    omega
  · have hlength := hhand.length_eq
    rw [List.length_cons, ← h.active] at hlength
    simp only [PoolState.inHand, WorkerPool.complete, WorkerPool.put]
    rw [if_pos (by omega), ← hlength, Nat.add_sub_cancel]
  · rw [List.length_append, ← h.completed]
    rfl
  · have hcaught : (s.pool.threads.set i .waiting).countP Thread.isCaught + thread.isCaught.toNat =
        s.pool.threads.countP Thread.isCaught := caught_count hthread .waiting
    have hfailed := h.failed
    have hle := Bool.toNat_le thread.isCaught
    simp only [WorkerPool.complete, WorkerPool.put]
    omega

theorem moves (h : Accounted s) (horderly : Orderly s.pool s.control) (hmove : Moves s s') : Accounted s' := by
  cases hmove with
  | reject rejected => exact ⟨h.places, h.executed, h.active, h.completed, h.dropped, h.failed, h.bounded⟩
  | accept haccepting hstopping hroom => exact h.accept hroom
  | drop => exact h.drop s.pool.accepting s.pool.stopping s.control
  | start hidle hstarted => exact h.start
  | stopAccepting hidle => exact ⟨h.places, h.executed, h.active, h.completed, h.dropped, h.failed, h.bounded⟩
  | drain hidle => exact ⟨h.places, h.executed, h.active, h.completed, h.dropped, h.failed, h.bounded⟩
  | cancel hidle => exact h.drop false true (.joining .cancel 0)
  | @join kind next hcontrol hended =>
    exact ⟨h.places, h.executed, h.active, h.completed, h.dropped, h.failed, h.bounded⟩
  | @clear kind hcontrol =>
    rw [hcontrol] at horderly
    exact h.clear horderly.drained.2 (.closing kind)
  | close hcontrol => exact ⟨h.places, h.executed, h.active, h.completed, h.dropped, h.failed, h.bounded⟩
  | leave hthread hqueue hstopping => exact h.leave hthread
  | take hthread hqueue => exact h.take hthread hqueue
  | throw hthread => exact h.throw hthread
  | complete hthread htask => exact h.complete hthread htask

end Accounted

section

variable {threadCount queueCapacity : ℕ} {past : List (Event Act Bool PoolState)}

theorem reached (h : PoolRun threadCount queueCapacity past s) :
    Orderly s.pool s.control ∧ Accounted s := by
  refine h.keeps (fun s ↦ Orderly s.pool s.control ∧ Accounted s)
    ⟨orderly_new _ _, accounted_new _ _⟩ ?_
  intro s act s' hs hstep
  have hmove := step_moves hstep
  exact ⟨hs.1.moves hmove, hs.2.moves hs.1 hmove⟩

def Returns (kind : Stop) (e : Event Act Bool PoolState) : Prop :=
  e.op = .endStop ∧ e.before.control = .closing kind

namespace Accounted

theorem count_range_le (accepted task : ℕ) : (List.range accepted).count task ≤ 1 :=
  List.nodup_iff_count_le_one.mp List.nodup_range task

theorem executed_nodup (h : Accounted s) : s.executed.Nodup := by
  refine List.nodup_iff_count_le_one.mpr ?_
  intro task
  have hplaces := h.places task
  have hexecuted := h.executed task
  have hle := count_range_le s.accepted task
  omega

theorem not_executed (h : Accounted s) : ∀ task ∈ s.dropped, task ∉ s.executed := by
  intro task hdropped hexecuted
  have hplaces := h.places task
  have hcount := h.executed task
  have hle := count_range_le s.accepted task
  have hpos := List.count_pos_iff.mpr hdropped
  have hpos' := List.count_pos_iff.mpr hexecuted
  omega

theorem accepted_eq (h : Accounted s) :
    s.accepted = s.pool.pending + s.pool.active + s.pool.completed + s.pool.dropped := by
  have hperm : (s.pool.queue ++ s.inHand ++ s.completed ++ s.dropped).Perm (List.range s.accepted) := by
    refine List.perm_iff_count.mpr ?_
    intro task
    simp only [List.count_append]
    exact h.places task
  have hlength := hperm.length_eq
  simp only [List.length_append, List.length_range] at hlength
  rw [WorkerPool.pending, h.active, h.completed, h.dropped, ← hlength]

theorem failed_le (h : Accounted s) : s.pool.failed ≤ s.pool.completed + s.pool.active := by
  have hcaught : s.pool.threads.countP Thread.isCaught ≤ s.inHand.length := by
    rw [PoolState.inHand, List.length_filterMap_eq_countP]
    refine List.countP_mono_left ?_
    intro thread _ hthread
    cases thread <;> simp_all [Thread.isCaught, Thread.task?]
  have hfailed := h.failed
  have hactive := h.active
  omega

theorem mem_completed (h : Accounted s) (hqueue : s.pool.queue = []) (hthreads : s.pool.threads = []) :
    ∀ task < s.accepted, task ∉ s.dropped → task ∈ s.completed := by
  intro task htask hdropped
  have hplaces := h.places task
  have hpos := List.count_pos_iff.mpr (List.mem_range.mpr htask)
  rw [hqueue, PoolState.inHand, hthreads, List.count_eq_zero_of_not_mem hdropped] at hplaces
  refine List.count_pos_iff.mp ?_
  simpa [← hplaces] using hpos

end Accounted

/-- Along every interleaving no task is lost or run twice, and a drain leaves nothing undone. -/
theorem neither_lost_nor_repeated (h : PoolRun threadCount queueCapacity past s) :
    s.accepted = s.pool.pending + s.pool.active + s.pool.completed + s.pool.dropped ∧
      s.pool.pending ≤ s.pool.queueCapacity ∧ s.executed.Nodup ∧ (∀ task ∈ s.dropped, task ∉ s.executed) ∧
      s.pool.failed ≤ s.pool.completed + s.pool.active ∧
      ∀ e ∈ past, Returns .drain e → ∀ task < e.after.accepted, task ∉ e.after.dropped →
        task ∈ e.after.completed := by
  obtain ⟨-, haccounted⟩ := reached h
  refine ⟨haccounted.accepted_eq, haccounted.bounded, haccounted.executed_nodup, haccounted.not_executed,
    haccounted.failed_le, ?_⟩
  rintro e he ⟨hop, hcontrol⟩
  obtain ⟨pre, post, hpast⟩ := List.append_of_mem he
  obtain ⟨hrun, hevent⟩ := h.splitAt hpast
  obtain ⟨horderly, hbefore⟩ := reached hrun
  obtain ⟨-, hthreads, hqueue⟩ := horderly.closing .drain hcontrol
  have hstep : step e.op e.before = some { e.before with pool := e.before.pool.endStop, control := .idle } := by
    rw [hop, step, hcontrol]
  rw [hevent, event, attempt_of_some hstep]
  exact hbefore.mem_completed hqueue hthreads

/-- A task submits another one and throws while the pool drains. -/
def drainedActs : List Act :=
  [.start, .submit (.client 0) false, .fetch 0, .submit (.task 0) false, .stop .drain, .throw 0,
    .complete 0, .fetch 0, .complete 0, .fetch 0, .join, .clear, .endStop]

theorem neither_lost_nor_repeated_drained :
    (final (attempt step) (.new 1 4) drainedActs).pool.completed = 2 ∧
      (final (attempt step) (.new 1 4) drainedActs).executed.Nodup :=
  ⟨by decide, (neither_lost_nor_repeated (Run.of_ops drainedActs)).2.2.1⟩

end

end HotspotGovernor.Workers
