import SysArmor.GatewayUpload

/-! The sender that drains the telemetry batcher's queue. A batch is taken, offered until it is
committed or finally rejected, and the sender waits between two offers. The batcher, the timer, the
uploads and the cancellation of the context take turns in any order. -/
namespace SysArmor.Telemetry
open Proto Gateway List

def ackCommitted (ack : DataAck) : Bool :=
  match ack.status with
  | .accepted | .duplicate => true
  | .unspecified => ack.accepted
  | _ => false

def ackTerminalRejected (ack : DataAck) : Bool := ack.status = .rejected && !ack.retryable

structure SenderStats where
  (sentBatches sentEvents sentSignals rejectedBatches retriedBatches : UInt64 := 0)
  lastError : String := ""
  drained : Bool := false

/-- Where the sender's loops stand: at the select of `Run` or `DrainUntilIdle`, before an offer of
`sendWithRetry`, at its wait for the next offer, or returned. Durations are in nanoseconds. -/
inductive SenderPhase where
  | ready
  | offering (batch : DataBatch) (backoff : Int)
  | waiting (batch : DataBatch) (backoff delay : Int)
  | returned

structure Sender where
  appender : Bool := true
  (retryInitial retryMax : Int := 0)
  queue : List DataBatch := []
  closed : Bool := false
  phase : SenderPhase := .ready
  stats : SenderStats := {}

/-- `flushed` and `closed` are the batcher's, `offered` is the answer of `SendBatch`, and `started` is
a new call of `Run` or `DrainUntilIdle`. -/
inductive SenderTurn where
  | flushed (batch : DataBatch)
  | closed
  | started
  | received
  | offered (ack : Option DataAck) (err : Option String)
  | elapsed
  | cancelled

namespace Sender

def recordSent (s : Sender) (batch : DataBatch) : Sender :=
  { s with stats := { s.stats with
      sentBatches := s.stats.sentBatches + 1
      sentEvents := s.stats.sentEvents + batch.events.length.toUInt64
      sentSignals := s.stats.sentSignals + batch.signals.length.toUInt64
      lastError := "" } }

def recordRejected (s : Sender) (message : String) : Sender :=
  { s with stats := { s.stats with rejectedBatches := s.stats.rejectedBatches + 1, lastError := message } }

def recordRetry (s : Sender) (message : String) : Sender :=
  { s with stats := { s.stats with retriedBatches := s.stats.retriedBatches + 1, lastError := message } }

def answered (s : Sender) (batch : DataBatch) (backoff : Int) (ack : Option DataAck) (err : Option String) : Sender :=
  if err.isNone && ack.any ackCommitted then { s.recordSent batch with phase := .ready }
  else if ack.any ackTerminalRejected then { s.recordRejected (ack.elim "" (·.message)) with phase := .ready }
  else
    let text := ack.elim "" (·.message)
    let after := ack.elim 0 (·.retryAfterMs)
    { s.recordRetry (if text ≠ "" then text else err.getD "missing data ack") with
      phase := .waiting batch backoff (if 0 < after then after.toNat * 1000000 else backoff) }

def step (s : Sender) : SenderTurn → Sender
  | .flushed batch => { s with queue := s.queue ++ [batch] }
  | .closed => { s with closed := true }
  | .started => match s.phase with
    | .returned => { s with phase := .ready }
    | _ => s
  | .received => match s.phase,s.queue with
    | .ready,batch :: rest =>
      -- without an appender `sendWithRetry` returns at once
      let backoff := if s.retryInitial ≤ 0 then 1000000000 else s.retryInitial
      { s with queue := rest, phase := if s.appender then .offering batch backoff else .ready }
    | .ready,[] =>
      if s.closed then { s with stats := { s.stats with drained := true }, phase := .returned } else s
    | _,_ => s
  | .offered ack err => match s.phase with
    | .offering batch backoff => s.answered batch backoff ack err
    | _ => s
  | .elapsed => match s.phase with
    | .waiting batch backoff _ =>
      { s with phase := .offering batch (min (backoff * 2) (if s.retryMax ≤ 0 then 30000000000 else s.retryMax)) }
    | _ => s
  | .cancelled => match s.phase with
    | .ready => { s with phase := .returned }
    | .waiting _ _ _ => { s with phase := .ready }
    | _ => s

def run (s : Sender) (turns : List SenderTurn) : Sender := turns.foldl step s

/-- The batches that are queued or in hand. -/
@[simp] def held (s : Sender) : Nat :=
  s.queue.length + match s.phase with
    | .offering _ _ | .waiting _ _ _ => 1
    | _ => 0

def accounted (s : Sender) : UInt64 := s.stats.sentBatches + s.stats.rejectedBatches + s.held.toUInt64

/-- A turn that takes a batch out of the sender's hands without an answer to it: the context is
cancelled during a wait, or there is no appender to offer a received batch to. -/
@[simp] def cutsShort (s : Sender) (turn : SenderTurn) : Bool :=
  match turn,s.phase with
  | .cancelled,.waiting _ _ _ => true
  | .received,.ready => !s.appender && !s.queue.isEmpty
  | _,_ => false

def neverCutShort (s : Sender) : List SenderTurn → Bool
  | [] => true
  | turn :: rest => !s.cutsShort turn && (s.step turn).neverCutShort rest

end Sender

@[simp] def SenderTurn.arrivals : SenderTurn → Nat
  | .flushed _ => 1
  | _ => 0

def arrivals (turns : List SenderTurn) : Nat := (turns.map (·.arrivals)).sum

variable {s : Sender}

open Sender

lemma accounted_answered {ack : Option DataAck} {err : Option String} (offering : s.phase = .offering batch backoff) :
    (s.answered batch backoff ack err).accounted = s.accounted := by
  unfold answered
  split
  · simp only [accounted,held,recordSent,offering]
    grind [UInt64.ofNat_add]
  split
  · simp only [accounted,held,recordRejected,offering]
    grind [UInt64.ofNat_add]
  · simp [accounted,recordRetry,offering]

lemma step_accounted (s : Sender) (turn : SenderTurn) :
    (s.step turn).accounted = s.accounted + turn.arrivals.toUInt64 ↔ s.cutsShort turn = false := by
  cases turn with
  | flushed batch =>
    simp [step,accounted]
    grind [UInt64.ofNat_add]
  | closed => simp [step,accounted]
  | offered ack err =>
    cases phase : s.phase with
    | offering batch backoff => simp [step,phase,accounted_answered phase]
    | _ => simp [step,phase]
  | received =>
    cases phase : s.phase with
    | ready =>
      cases queued : s.queue with
      | nil =>
        cases closed : s.closed <;> simp [step,phase,queued,closed,accounted]
      | cons batch rest =>
        cases appender : s.appender <;> simp [step,phase,queued,appender,accounted]
    | _ => simp [step,phase]
  | _ => cases phase : s.phase <;> simp [step,phase,accounted]

/-- Every batch that reaches the queue is counted as sent, counted as rejected, queued or in hand at
every moment of a run, exactly if no turn of the run cuts an offer short. -/
theorem batches_accounted_iff (s : Sender) (turns : List SenderTurn) :
    (∀ front, front <+: turns → (s.run front).accounted = s.accounted + (arrivals front).toUInt64) ↔ s.neverCutShort turns := by
  induction turns generalizing s with
  | nil => simp [run,arrivals,neverCutShort]
  | cons turn rest ih =>
    rw [neverCutShort,Bool.and_eq_true,Bool.not_eq_true',← ih,← step_accounted]
    have shift front (first : (s.step turn).accounted = s.accounted + turn.arrivals.toUInt64) :
        (s.step turn).accounted + (arrivals front).toUInt64 = s.accounted + (arrivals (turn :: front)).toUInt64 := by
      simp only [first,arrivals,map_cons,sum_cons]
      grind [UInt64.ofNat_add]
    constructor
    · intro kept
      have first : (s.step turn).accounted = _ := kept [turn] (by simp)
      simp only [arrivals,map_cons,map_nil,sum_cons,sum_nil,Nat.add_zero] at first
      refine ⟨first,fun front within => ?_⟩
      rw [shift front first]
      exact kept (turn :: front) (by simpa using within)
    · rintro ⟨first,later⟩ front within
      cases front with
      | nil => simp [run,arrivals]
      | cons turn' front =>
        obtain ⟨rfl,tail⟩ := cons_prefix_cons.mp within
        rw [← shift front first]
        exact later front tail

/-- The gateway is unavailable, and the context is cancelled before the batch is offered again. -/
theorem cancelled_batch_lost :
    ((Sender.mk true 0 0 [{}] false .ready {}).run [.received,.offered none (some "unavailable"),.cancelled]).accounted = 0 ∧
      (Sender.mk true 0 0 [{}] false .ready {}).accounted = 1 := by
  decide

end SysArmor.Telemetry
