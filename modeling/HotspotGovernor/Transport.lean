import HotspotGovernor.Codec
import Mathlib.Data.List.ReduceOption

namespace HotspotGovernor.Transport

open Foundation ByteIo Framing Codec

/-- What the network hands to the receiver: a non-empty chunk of bytes, or a receive window that
passes without any. After the last arrival the peer has closed. -/
inductive Arrival
  | timeout
  | chunk (first : UInt8) (rest : Bytes)
  deriving DecidableEq

abbrev Socket := List Arrival

def kRecvBytes : ℕ := 2 ^ 20

def closedFailure : Failure := ⟨.connectionClosed, "peer closed the connection"⟩

def timeoutFailure : Failure := ⟨.timeout, "receive timed out"⟩

/-- One `recv` call for at most `amount` bytes. What does not fit stays queued. -/
def recv (amount : ℕ) : Socket → Result Bytes × Socket
  | [] => (.error closedFailure, [])
  | .timeout :: socket => (.error timeoutFailure, socket)
  | .chunk b bs :: socket =>
    match (b :: bs).drop amount with
    | [] => (.ok (b :: bs), socket)
    | c :: cs => (.ok ((b :: bs).take amount), .chunk c cs :: socket)

/-- The loop of `recv_exact`. Every successful `recv` makes progress, so `want` rounds suffice. -/
def recvLoop : ℕ → ℕ → Socket → Result Bytes × Socket
  | 0, _, socket => (.ok [], socket)
  | rounds + 1, want, socket =>
    if want = 0 then (.ok [], socket)
    else
      match recv (min want kRecvBytes) socket with
      | (.error e, socket) => (.error e, socket)
      | (.ok bytes, socket) =>
        match recvLoop rounds (want - bytes.length) socket with
        | (.error e, socket) => (.error e, socket)
        | (.ok more, socket) => (.ok (bytes ++ more), socket)

def recvExact (want : ℕ) (socket : Socket) : Result Bytes × Socket := recvLoop want want socket

def receivePayload (header : FrameHeader) (socket : Socket) : Result Bytes × Socket :=
  if header.payloadLength = 0 then (.ok [], socket) else recvExact header.payloadLength.toNat socket

def receiveFrame (socket : Socket) : Result Frame × Socket :=
  match recvExact kFrameHeaderBytes socket with
  | (.error e, socket) => (.error e, socket)
  | (.ok headerBytes, socket) =>
    match decodeHeader headerBytes with
    | .error e => (.error e, socket)
    | .ok header =>
      match receivePayload header socket with
      | (.error e, socket) => (.error e, socket)
      | (.ok payload, socket) =>
        match verifyPayload header payload with
        | .error e => (.error e, socket)
        | .ok () => (.ok { header, payload }, socket)

/-- Receive frames and retry after a timeout, as the connection loop does: the frames received and
the failure that ended the loop. -/
def receiveLoop : ℕ → Socket → List Frame × Option Failure
  | 0, _ => ([], none)
  | rounds + 1, socket =>
    match receiveFrame socket with
    | (.error e, socket) =>
      if e.code = .timeout then receiveLoop rounds socket else ([], some e)
    | (.ok frame, socket) =>
      let r := receiveLoop rounds socket
      (frame :: r.1, r.2)

/-- The arrivals as one sequence: bytes, and a mark where a receive window passed. -/
def tokens (socket : Socket) : List (Option UInt8) :=
  socket.flatMap (fun
    | .timeout => [none]
    | .chunk b bs => (b :: bs).map some)

def receiveAll (socket : Socket) : List Frame × Option Failure :=
  receiveLoop ((tokens socket).length + 1) socket

def pull : ℕ → List (Option UInt8) → Result Bytes × List (Option UInt8)
  | 0, ts => (.ok [], ts)
  | _ + 1, [] => (.error closedFailure, [])
  | _ + 1, none :: ts => (.error timeoutFailure, ts)
  | want + 1, some b :: ts => ((pull want ts).1.map (b :: ·), (pull want ts).2)

theorem pull_map_some (bs : Bytes) (want : ℕ) (ts : List (Option UInt8)) :
    pull (bs.length + want) (bs.map some ++ ts) =
      ((pull want ts).1.map (bs ++ ·), (pull want ts).2) := by
  induction bs with
  | nil =>
    cases hp : pull want ts with
    | mk r rest => cases r <;> simp [hp, Except.map]
  | cons b bs ih =>
    rw [List.length_cons, Nat.add_right_comm, List.map_cons, List.cons_append, pull, ih]
    cases (pull want ts).1 <;> rfl

@[simp] theorem tokens_nil : tokens [] = [] := rfl

@[simp] theorem tokens_timeout (socket : Socket) : tokens (.timeout :: socket) = none :: tokens socket :=
  rfl

@[simp] theorem tokens_chunk (b : UInt8) (bs : Bytes) (socket : Socket) :
    tokens (.chunk b bs :: socket) = (b :: bs).map some ++ tokens socket := rfl

theorem recv_cases {amount : ℕ} (hpos : 0 < amount) (socket : Socket) :
    (tokens socket = [] ∧ recv amount socket = (.error closedFailure, [])) ∨
    (∃ socket', tokens socket = none :: tokens socket' ∧
      recv amount socket = (.error timeoutFailure, socket')) ∨
    ∃ bytes socket', bytes ≠ [] ∧ bytes.length ≤ amount ∧
      tokens socket = bytes.map some ++ tokens socket' ∧ recv amount socket = (.ok bytes, socket') := by
  cases socket with
  | nil => exact Or.inl ⟨rfl, rfl⟩
  | cons a socket =>
    refine Or.inr ?_
    cases a with
    | timeout => exact Or.inl ⟨socket, rfl, rfl⟩
    | chunk b bs =>
      refine Or.inr ?_
      cases hd : (b :: bs).drop amount with
      | nil =>
        refine ⟨b :: bs, socket, List.cons_ne_nil _ _, List.drop_eq_nil_iff.mp hd, rfl, ?_⟩
        rw [recv, hd]
      | cons c cs =>
        have hsplit : (b :: bs).take amount ++ c :: cs = b :: bs := by
          rw [← hd, List.take_append_drop]
        refine ⟨(b :: bs).take amount, .chunk c cs :: socket, ?_, ?_, ?_, ?_⟩
        · cases amount with
          | zero => omega
          | succ n => simp
        · exact List.length_take_le _ _
        · rw [tokens_chunk, tokens_chunk, ← List.append_assoc, ← List.map_append, hsplit]
        · rw [recv, hd]

theorem recvLoop_eq_pull {rounds want : ℕ} (h : want ≤ rounds) (socket : Socket) :
    ∃ socket', recvLoop rounds want socket = ((pull want (tokens socket)).1, socket') ∧
      tokens socket' = (pull want (tokens socket)).2 := by
  induction rounds generalizing want socket with
  | zero =>
    obtain rfl : want = 0 := by omega
    exact ⟨socket, rfl, rfl⟩
  | succ rounds ih =>
    cases want with
    | zero => exact ⟨socket, rfl, rfl⟩
    | succ want =>
      have hpos : 0 < min (want + 1) kRecvBytes := lt_min (Nat.succ_pos _) (by decide)
      rw [recvLoop, if_neg (Nat.succ_ne_zero want)]
      rcases recv_cases hpos socket with ⟨ht, hr⟩ | ⟨socket', ht, hr⟩ | ⟨bytes, socket', hne, hlen, ht, hr⟩
      · rw [hr, ht]
        exact ⟨[], rfl, rfl⟩
      · rw [hr, ht]
        exact ⟨socket', rfl, rfl⟩
      · have hb : 0 < bytes.length := List.length_pos_of_ne_nil hne
        have hw : bytes.length ≤ want + 1 := hlen.trans (min_le_left _ _)
        have hleft : want + 1 - bytes.length ≤ rounds := by omega
        obtain ⟨socket'', hloop, htok⟩ := ih hleft socket'
        have hp := pull_map_some bytes (want + 1 - bytes.length) (tokens socket')
        rw [Nat.add_sub_cancel' hw] at hp
        rw [hr, ht, hp]
        simp only [hloop]
        refine ⟨socket'', ?_, htok⟩
        cases (pull (want + 1 - bytes.length) (tokens socket')).1 <;> rfl

theorem recvExact_eq_pull (want : ℕ) (socket : Socket) :
    ∃ socket', recvExact want socket = ((pull want (tokens socket)).1, socket') ∧
      tokens socket' = (pull want (tokens socket)).2 := recvLoop_eq_pull le_rfl socket

def bytesOf (ts : List (Option UInt8)) : Bytes := ts.reduceOption

@[simp] theorem bytesOf_nil : bytesOf [] = [] := rfl

@[simp] theorem bytesOf_none (ts : List (Option UInt8)) : bytesOf (none :: ts) = bytesOf ts :=
  List.reduceOption_cons_of_none ts

@[simp] theorem bytesOf_some (bs : Bytes) (ts : List (Option UInt8)) :
    bytesOf (bs.map some ++ ts) = bs ++ bytesOf ts := by
  induction bs with
  | nil => rfl
  | cons b bs ih => exact congrArg (b :: ·) ih

theorem pull_exact (bs : Bytes) (ts : List (Option UInt8)) :
    pull bs.length (bs.map some ++ ts) = (.ok bs, ts) := by
  have h := pull_map_some bs 0 ts
  simpa [pull, Except.map] using h

theorem pull_interrupted {bs : Bytes} {want : ℕ} (h : bs.length < want) (ts : List (Option UInt8)) :
    pull want (bs.map some ++ none :: ts) = (.error timeoutFailure, ts) := by
  obtain ⟨k, rfl⟩ : ∃ k, want = bs.length + (k + 1) := ⟨want - bs.length - 1, by omega⟩
  rw [pull_map_some]
  rfl

theorem pull_spec (want : ℕ) (ts : List (Option UInt8)) :
    (∃ bs, bs.length = want ∧ ts = bs.map some ++ (pull want ts).2 ∧ (pull want ts).1 = .ok bs) ∨
    (∃ e, (pull want ts).1 = .error e ∧ (bytesOf (pull want ts).2).length ≤ (bytesOf ts).length ∧
      (e.code = .timeout → (pull want ts).2.length < ts.length)) := by
  induction want generalizing ts with
  | zero => exact Or.inl ⟨[], rfl, rfl, rfl⟩
  | succ want ih =>
    cases ts with
    | nil => exact Or.inr ⟨closedFailure, rfl, le_rfl, by simp [closedFailure]⟩
    | cons t ts =>
      cases t with
      | none => exact Or.inr ⟨timeoutFailure, rfl, by simp [pull], fun _ ↦ by simp [pull]⟩
      | some b =>
        rcases ih ts with ⟨bs, hlen, hts, hok⟩ | ⟨e, herr, hle, hlt⟩
        · refine Or.inl ⟨b :: bs, by simp [hlen], ?_, ?_⟩
          · rw [List.map_cons, List.cons_append, pull, ← hts]
          · rw [pull, hok]
            rfl
        · refine Or.inr ⟨e, ?_, ?_, ?_⟩
          · rw [pull, herr]
            rfl
          · have hb : bytesOf (some b :: ts) = b :: bytesOf ts := bytesOf_some [b] ts
            rw [pull, hb, List.length_cons]
            exact hle.trans (Nat.le_succ _)
          · intro hc
            rw [pull, List.length_cons]
            exact (hlt hc).trans (Nat.lt_succ_self _)

end HotspotGovernor.Transport
