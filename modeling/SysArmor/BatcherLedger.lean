import SysArmor.Digits
import SysArmor.Proto

/-! The telemetry batcher of the agent: frames are collected in a pending batch, which is flushed
into a bounded queue by count, by size, on a timer, on a change of policy or identity and at shutdown. -/
namespace SysArmor.Telemetry
open Proto

section
open Digits

inductive FlushReason where
  | count
  | bytes
  | interval
  | shutdown
  | policy
  | identity
  deriving DecidableEq

/-- The counters that the batcher keeps itself; `Stats` adds the queue's length and the limits. -/
structure BatcherStats where
  (pendingEvents pendingSignals pendingBytes droppedBatches droppedEvents droppedSignals : UInt64 := 0)
  (flushedBatches flushedEvents flushedSignals flushedByCount flushedByBytes : UInt64 := 0)
  (flushedByInterval flushedByShutdown : UInt64 := 0)
  lastFlushReason : Option FlushReason := none
  lastError : String := ""
  closed : Bool := false

structure Batcher where
  (batchSize maxBytes : Int)
  queueCapacity : Nat
  queue : List DataBatch := []
  pending : Option DataBatch := none
  bytes : Nat := 0
  closed : Bool := false
  stats : BatcherStats := {}

structure BatchSettings where
  (maxItems maxBytes : Int)

def defaultBatchSize : Int := 64
def defaultMaxBytes : Int := 256 * 1024
def defaultQueueCapacity : Nat := 128

def newBatcher (batchSize queueCapacity : Int) (maxBytes : Option Int) : Batcher where
  batchSize := if batchSize ≤ 0 then defaultBatchSize else batchSize
  maxBytes := match maxBytes with
    | some limit => if 0 < limit then limit else defaultMaxBytes
    | none => defaultMaxBytes
  queueCapacity := if queueCapacity ≤ 0 then defaultQueueCapacity else queueCapacity.toNat

/-- What `newDataBatch` reads of the runtime: its identity, the active policy, the labels and the clock. -/
structure BatchOrigin where
  (tenantID agentID hostID policyID : String := "")
  policyVersion : UInt64 := 0
  policyMode : String := ""
  createdAt : Int := 0
  labels : Labels := ∅

def newDataBatch (origin : BatchOrigin) : DataBatch :=
  { header := some
      { tenantId := origin.tenantID, agentId := origin.agentID, hostId := origin.hostID
        policyId := origin.policyID, policyVersion := origin.policyVersion, policyMode := origin.policyMode
        createdAtUnixNano := origin.createdAt, labels := origin.labels } }

def dataPlaneCurrent : String := "sysarmor.dataplane/v1"

def finalizeBatch (now : Nat) (batch : DataBatch) : DataBatch :=
  let header := batch.getHeader
  let header := { header with
    batchId := if header.batchId = "" then padded 20 now else header.batchId
    eventCount := batch.events.length.toUInt32
    signalCount := batch.signals.length.toUInt32 }
  let header := match batch.events.head?,batch.events.getLast? with
    | some first,some last => { header with eventSeqStart := first.sequence, eventSeqEnd := last.sequence }
    | _,_ => header
  let header := match batch.signals.head?,batch.signals.getLast? with
    | some first,some last => { header with signalSeqStart := first.sequence, signalSeqEnd := last.sequence }
    | _,_ => header
  { batch with header := some header, schemaVersion := dataPlaneCurrent }

def hollow (batch : DataBatch) : Bool := batch.events.isEmpty && batch.signals.isEmpty

namespace Batcher

def drop (b : Batcher) (batch : DataBatch) (err : String) : Batcher :=
  { b with stats := { b.stats with
      droppedBatches := b.stats.droppedBatches + 1
      droppedEvents := b.stats.droppedEvents + batch.events.length.toUInt64
      droppedSignals := b.stats.droppedSignals + batch.signals.length.toUInt64
      lastError := err } }

def enqueue (b : Batcher) (reason : FlushReason) (batch : DataBatch) : Batcher :=
  { b with
    queue := b.queue ++ [batch]
    stats := { b.stats with
      flushedBatches := b.stats.flushedBatches + 1
      flushedEvents := b.stats.flushedEvents + batch.events.length.toUInt64
      flushedSignals := b.stats.flushedSignals + batch.signals.length.toUInt64
      lastFlushReason := some reason
      lastError := "" } }

def recordFlushReasonLocked (b : Batcher) : FlushReason → Batcher
  | .count => { b with stats := { b.stats with flushedByCount := b.stats.flushedByCount + 1 } }
  | .bytes => { b with stats := { b.stats with flushedByBytes := b.stats.flushedByBytes + 1 } }
  | .interval => { b with stats := { b.stats with flushedByInterval := b.stats.flushedByInterval + 1 } }
  | .shutdown => { b with stats := { b.stats with flushedByShutdown := b.stats.flushedByShutdown + 1 } }
  | .policy | .identity => b

def cleared (b : Batcher) : Batcher :=
  { b with
    pending := none
    bytes := 0
    stats := { b.stats with pendingEvents := 0, pendingSignals := 0, pendingBytes := 0 } }

def flushLocked (b : Batcher) (reason : FlushReason) (now : Nat) : Batcher :=
  match b.pending with
  | none => b
  | some pending =>
    if hollow pending then b
    else
      let batch := finalizeBatch now pending
      -- the send does not wait: a full queue costs the batch
      let sent := if b.queue.length < b.queueCapacity then b.enqueue reason batch
        else b.drop batch "telemetry batch queue full"
      (sent.recordFlushReasonLocked reason).cleared

def joined (pending batch : DataBatch) : DataBatch :=
  { pending with events := pending.events ++ batch.events, signals := pending.signals ++ batch.signals }

/-- The first half of `Add`: the frames are pending and counted. -/
def collect (b : Batcher) (size : DataBatch → Nat) (origin : BatchOrigin) (batch : DataBatch) : Batcher :=
  let pending := joined (b.pending.getD (newDataBatch origin)) batch
  let bytes := b.bytes + size batch
  { b with
    pending := some pending
    bytes
    stats := { b.stats with
      pendingEvents := pending.events.length.toUInt64
      pendingSignals := pending.signals.length.toUInt64
      pendingBytes := bytes.toUInt64 } }

def pendingFrames (b : Batcher) : Nat :=
  (b.pending.map fun batch => batch.events.length + batch.signals.length).getD 0

def add (b : Batcher) (size : DataBatch → Nat) (origin : BatchOrigin) (now : Nat) : Option DataBatch → Batcher
  | none => b
  | some batch =>
    if b.closed then b.drop batch "telemetry batcher closed"
    else
      let b := b.collect size origin batch
      if b.batchSize ≤ b.pendingFrames then b.flushLocked .count now
      else if b.maxBytes ≤ b.bytes then b.flushLocked .bytes now
      else b

def reconfigure (b : Batcher) (settings : BatchSettings) (now : Nat) : Batcher :=
  { b.flushLocked .policy now with batchSize := settings.maxItems, maxBytes := settings.maxBytes }

def closeAndFlush (b : Batcher) (reason : FlushReason) (now : Nat) : Batcher :=
  if b.closed then b
  else
    let b := b.flushLocked reason now
    { b with closed := true, stats := { b.stats with closed := true } }

def receive (b : Batcher) : Batcher × List DataBatch :=
  match b.queue with
  | [] => (b,[])
  | batch :: rest => ({ b with queue := rest },[batch])

end Batcher

structure Stamped (batch : DataBatch) : Prop where
  eventCount : batch.getHeader.eventCount = batch.events.length.toUInt32
  signalCount : batch.getHeader.signalCount = batch.signals.length.toUInt32
  eventSeqStart : batch.getHeader.eventSeqStart = (batch.events.map (·.sequence)).headD 0
  eventSeqEnd : batch.getHeader.eventSeqEnd = (batch.events.map (·.sequence)).getLastD 0
  signalSeqStart : batch.getHeader.signalSeqStart = (batch.signals.map (·.sequence)).headD 0
  signalSeqEnd : batch.getHeader.signalSeqEnd = (batch.signals.map (·.sequence)).getLastD 0

structure Unranged (batch : DataBatch) : Prop where
  eventSeqStart : batch.getHeader.eventSeqStart = 0
  eventSeqEnd : batch.getHeader.eventSeqEnd = 0
  signalSeqStart : batch.getHeader.signalSeqStart = 0
  signalSeqEnd : batch.getHeader.signalSeqEnd = 0

@[simp] lemma finalizeBatch_events (now : Nat) (batch : DataBatch) : (finalizeBatch now batch).events = batch.events := rfl

@[simp] lemma finalizeBatch_signals (now : Nat) (batch : DataBatch) : (finalizeBatch now batch).signals = batch.signals := rfl

lemma ends_of_frames (frames : List α) (number : α → UInt64) : (frames = [] ∧ frames.head? = none ∧ frames.getLast? = none) ∨
      ∃ first last, frames.head? = some first ∧ frames.getLast? = some last ∧
        (frames.map number).headD 0 = number first ∧ (frames.map number).getLastD 0 = number last := by
  cases frames with
  | nil => exact .inl ⟨rfl,rfl,rfl⟩
  | cons first rest =>
    refine .inr ⟨first,(first :: rest).getLast (by simp),rfl,List.getLast?_eq_some_getLast (by simp),rfl,?_⟩
    rw [List.getLastD_eq_getLast?,List.getLast?_map,List.getLast?_eq_some_getLast (by simp)]
    rfl

lemma finalizeBatch_stamped (now : Nat) (unranged : Unranged batch) : Stamped (finalizeBatch now batch) := by
  obtain ⟨eventStart,eventEnd,signalStart,signalEnd⟩ := unranged
  rcases ends_of_frames batch.events (·.sequence) with ⟨none,head,last⟩ | ⟨first,last,head,final,starts,ends⟩ <;>
    rcases ends_of_frames batch.signals (·.sequence) with
      ⟨none',head',last'⟩ | ⟨first',last',head',final',starts',ends'⟩ <;>
    constructor <;> simp_all [finalizeBatch,DataBatch.getHeader]

lemma newDataBatch_unranged (origin : BatchOrigin) : Unranged (newDataBatch origin) := ⟨rfl,rfl,rfl,rfl⟩

lemma Unranged.joined (unranged : Unranged pending) (batch : DataBatch) : Unranged (Batcher.joined pending batch) :=
  ⟨unranged.eventSeqStart,unranged.eventSeqEnd,unranged.signalSeqStart,unranged.signalSeqEnd⟩
end

/-! What becomes of the frames that are added to the batcher. A ledger of the batches that left the
pending one, queued or dropped, accounts for every frame in the order of addition. -/

inductive Fate where
  | flushed (batch : DataBatch)
  | dropped (batch : DataBatch)

def Fate.batch : Fate → DataBatch
  | .flushed batch | .dropped batch => batch

def Fate.queued : Fate → Option DataBatch
  | .flushed batch => some batch
  | .dropped _ => none

def Fate.lost : Fate → Option DataBatch
  | .flushed _ => none
  | .dropped batch => some batch

def flushedOf (log : List Fate) : List DataBatch := log.filterMap Fate.queued
def droppedOf (log : List Fate) : List DataBatch := log.filterMap Fate.lost
def eventsOf (batches : List DataBatch) : List EventFrame := batches.flatMap (·.events)
def signalsOf (batches : List DataBatch) : List SignalFrame := batches.flatMap (·.signals)

structure Ledger (added received : List DataBatch) (log : List Fate) (b : Batcher) : Prop where
  events : eventsOf added = eventsOf (log.map Fate.batch) ++ eventsOf b.pending.toList
  signals : signalsOf added = signalsOf (log.map Fate.batch) ++ signalsOf b.pending.toList
  queue : flushedOf log = received ++ b.queue
  stamped : ∀ batch ∈ flushedOf log, Stamped batch
  flushedBatches : b.stats.flushedBatches = (flushedOf log).length.toUInt64
  flushedEvents : b.stats.flushedEvents = (eventsOf (flushedOf log)).length.toUInt64
  flushedSignals : b.stats.flushedSignals = (signalsOf (flushedOf log)).length.toUInt64
  droppedBatches : b.stats.droppedBatches = (droppedOf log).length.toUInt64
  droppedEvents : b.stats.droppedEvents = (eventsOf (droppedOf log)).length.toUInt64
  droppedSignals : b.stats.droppedSignals = (signalsOf (droppedOf log)).length.toUInt64

/-- What the pending batch must be for the ledger to be kept: not finalized, and without frames once
the batcher is closed. -/
structure Orderly (b : Batcher) : Prop where
  unranged : ∀ pending ∈ b.pending, Unranged pending
  closed : b.closed = true → ∀ pending ∈ b.pending, hollow pending = true

inductive Operation where
  | add (batch : Option DataBatch) (origin : BatchOrigin) (now : Nat)
  | flush (reason : FlushReason) (now : Nat)
  | reconfigure (settings : BatchSettings) (now : Nat)
  | receive
  | close (reason : FlushReason) (now : Nat)

def Batcher.perform (size : DataBatch → Nat) (b : Batcher) : Operation → Batcher × List DataBatch
  | .add batch origin now => (b.add size origin now batch,[])
  | .flush reason now => (b.flushLocked reason now,[])
  | .reconfigure settings now => (b.reconfigure settings now,[])
  | .receive => b.receive
  | .close reason now => (b.closeAndFlush reason now,[])

def Batcher.run (size : DataBatch → Nat) : List Operation → Batcher → Batcher × List DataBatch
  | [],b => (b,[])
  | operation :: rest,b =>
    let (b,received) := b.perform size operation
    let (b,later) := b.run size rest
    (b,received ++ later)

def Operation.added : Operation → List DataBatch
  | .add batch _ _ => batch.toList
  | _ => []

section Lists
variable {left right : List DataBatch} {log : List Fate} {batch : DataBatch}

@[simp] lemma eventsOf_append : eventsOf (left ++ right) = eventsOf left ++ eventsOf right := List.flatMap_append

@[simp] lemma signalsOf_append : signalsOf (left ++ right) = signalsOf left ++ signalsOf right := List.flatMap_append

@[simp] lemma eventsOf_singleton : eventsOf [batch] = batch.events := by simp [eventsOf]

@[simp] lemma signalsOf_singleton : signalsOf [batch] = batch.signals := by simp [signalsOf]

@[simp] lemma eventsOf_nil : eventsOf [] = [] := rfl

@[simp] lemma signalsOf_nil : signalsOf [] = [] := rfl

@[simp] lemma flushedOf_flushed : flushedOf (log ++ [.flushed batch]) = flushedOf log ++ [batch] := by
  simp [flushedOf,Fate.queued]

@[simp] lemma flushedOf_dropped : flushedOf (log ++ [.dropped batch]) = flushedOf log := by
  simp [flushedOf,Fate.queued]

@[simp] lemma droppedOf_flushed : droppedOf (log ++ [.flushed batch]) = droppedOf log := by
  simp [droppedOf,Fate.lost]

@[simp] lemma droppedOf_dropped : droppedOf (log ++ [.dropped batch]) = droppedOf log ++ [batch] := by
  simp [droppedOf,Fate.lost]

end Lists

lemma events_of_hollow (empty : hollow batch = true) : batch.events = [] ∧ batch.signals = [] := by
  simpa [hollow] using empty

section Steps
variable {added received : List DataBatch} {log : List Fate} {b : Batcher}

lemma Ledger.congr (ledger : Ledger added received log b) (pending : after.pending = b.pending)
    (queue : after.queue = b.queue) (flushedBatches : after.stats.flushedBatches = b.stats.flushedBatches)
    (flushedEvents : after.stats.flushedEvents = b.stats.flushedEvents)
    (flushedSignals : after.stats.flushedSignals = b.stats.flushedSignals)
    (droppedBatches : after.stats.droppedBatches = b.stats.droppedBatches)
    (droppedEvents : after.stats.droppedEvents = b.stats.droppedEvents)
    (droppedSignals : after.stats.droppedSignals = b.stats.droppedSignals) : Ledger added received log after := by
  obtain ⟨events,signals,queue',stamped,batches,frames,signalFrames,lost,lostEvents,lostSignals⟩ := ledger
  constructor <;> simp_all

structure Carries (b : Batcher) (batch : DataBatch) : Prop where
  events : batch.events = eventsOf b.pending.toList
  signals : batch.signals = signalsOf b.pending.toList

variable {reason : FlushReason}

lemma Ledger.enqueued (ledger : Ledger added received log b) (carries : Carries b batch) (stamped : Stamped batch) :
    Ledger added received (log ++ [.flushed batch]) (((b.enqueue reason batch).recordFlushReasonLocked reason).cleared) := by
  have sent : Ledger added received (log ++ [.flushed batch]) (b.enqueue reason batch).cleared := by
    constructor
    · simp [Batcher.cleared,Fate.batch,ledger.events,carries.events]
    · simp [Batcher.cleared,Fate.batch,ledger.signals,carries.signals]
    · simp [Batcher.cleared,Batcher.enqueue,ledger.queue]
    · intro other mem
      rw [flushedOf_flushed,List.mem_append,List.mem_singleton] at mem
      rcases mem with old | rfl
      · exact ledger.stamped other old
      · exact stamped
    all_goals
      simp [Batcher.cleared,Batcher.enqueue,ledger.flushedBatches,ledger.flushedEvents,ledger.flushedSignals,
        ledger.droppedBatches,ledger.droppedEvents,ledger.droppedSignals,UInt64.ofNat_add]
  cases reason <;> exact sent.congr rfl rfl rfl rfl rfl rfl rfl rfl

lemma Ledger.dropped (ledger : Ledger added received log b) (total : List DataBatch) (batch : DataBatch)
    (err : String) (pending : Option DataBatch)
    (events : eventsOf total = eventsOf (log.map Fate.batch) ++ batch.events ++ eventsOf pending.toList)
    (signals : signalsOf total = signalsOf (log.map Fate.batch) ++ batch.signals ++ signalsOf pending.toList) :
    Ledger total received (log ++ [.dropped batch]) { b.drop batch err with pending } := by
  constructor
  · simpa [Fate.batch] using events
  · simpa [Fate.batch] using signals
  · simpa [Batcher.drop] using ledger.queue
  · simpa using ledger.stamped
  all_goals
    simp [Batcher.drop,ledger.flushedBatches,ledger.flushedEvents,ledger.flushedSignals,
      ledger.droppedBatches,ledger.droppedEvents,ledger.droppedSignals,UInt64.ofNat_add]

lemma flushLocked_cases (b : Batcher) (reason : FlushReason) (now : Nat) :
    (b.flushLocked reason now = b ∧ ∀ pending ∈ b.pending, hollow pending = true) ∨
      ∃ pending, b.pending = some pending ∧ hollow pending = false ∧ (b.flushLocked reason now =
            ((b.enqueue reason (finalizeBatch now pending)).recordFlushReasonLocked reason).cleared ∨ b.flushLocked reason now =
            ((b.drop (finalizeBatch now pending) "telemetry batch queue full").recordFlushReasonLocked reason).cleared) := by
  simp only [Batcher.flushLocked]
  cases set : b.pending with
  | none => exact .inl ⟨rfl,by simp⟩
  | some pending =>
    dsimp only
    split
    · rename_i empty
      refine .inl ⟨rfl,?_⟩
      rintro _ ⟨⟩
      exact empty
    · rename_i filled
      refine .inr ⟨pending,rfl,by simpa using filled,?_⟩
      split
      · exact .inl rfl
      · exact .inr rfl

lemma cleared_pending : b.cleared.pending = none := rfl

@[simp] lemma recordFlushReasonLocked_closed (b : Batcher) (reason : FlushReason) :
    (b.recordFlushReasonLocked reason).closed = b.closed := by
  cases reason <;> rfl

lemma flushLocked_hollow {now : Nat} : ∀ pending ∈ (b.flushLocked reason now).pending, hollow pending = true := by
  rcases flushLocked_cases b reason now with ⟨same,empty⟩ | ⟨pending,-,-,same | same⟩
  · rw [same]
    exact empty
  all_goals
    rw [same,cleared_pending]
    simp

lemma Orderly.flushLocked (orderly : Orderly b) (reason : FlushReason) (now : Nat) : Orderly (b.flushLocked reason now) := by
  refine ⟨?_,fun _ => flushLocked_hollow⟩
  rcases flushLocked_cases b reason now with ⟨same,-⟩ | ⟨pending,-,-,same | same⟩
  · rw [same]
    exact orderly.unranged
  all_goals
    rw [same,cleared_pending]
    simp

lemma Ledger.flushLocked (ledger : Ledger added received log b) (orderly : Orderly b) (reason : FlushReason)
    (now : Nat) : ∃ log, Ledger added received log (b.flushLocked reason now) := by
  rcases flushLocked_cases b reason now with ⟨same,-⟩ | ⟨pending,set,-,queued | full⟩
  · rw [same]
    exact ⟨log,ledger⟩
  · have carries : Carries b (finalizeBatch now pending) := ⟨by simp [set],by simp [set]⟩
    rw [queued]
    exact ⟨_,ledger.enqueued carries (finalizeBatch_stamped now (orderly.unranged pending set))⟩
  have lost := ledger.dropped added (finalizeBatch now pending) "telemetry batch queue full" none
    (by simp [ledger.events,set]) (by simp [ledger.signals,set])
  rw [full]
  exact ⟨_,by cases reason <;> exact lost.congr rfl rfl rfl rfl rfl rfl rfl rfl⟩

lemma Ledger.collect (ledger : Ledger added received log b) (size : DataBatch → Nat) (origin : BatchOrigin)
    (batch : DataBatch) : Ledger (added ++ [batch]) received log (b.collect size origin batch) := by
  obtain ⟨events,signals,queue,stamped,batches,frames,signalFrames,lost,lostEvents,lostSignals⟩ := ledger
  refine ⟨?_,?_,queue,stamped,batches,frames,signalFrames,lost,lostEvents,lostSignals⟩
  · cases set : b.pending <;> simp [events,set,Batcher.collect,Batcher.joined,newDataBatch]
  · cases set : b.pending <;> simp [signals,set,Batcher.collect,Batcher.joined,newDataBatch]

lemma Orderly.collect (orderly : Orderly b) (opened : b.closed = false) (size : DataBatch → Nat)
    (origin : BatchOrigin) (batch : DataBatch) : Orderly (b.collect size origin batch) := by
  refine ⟨?_,fun shut => absurd (opened.symm.trans shut) Bool.false_ne_true⟩
  rintro _ ⟨⟩
  refine Unranged.joined ?_ batch
  cases set : b.pending with
  | none => exact newDataBatch_unranged origin
  | some pending => exact orderly.unranged pending set

end Steps

def Accounted (added received : List DataBatch) (b : Batcher) : Prop :=
  Orderly b ∧ ∃ log, Ledger added received log b

section Operations
variable {added received : List DataBatch} {b : Batcher}

section
variable (accounted : Accounted added received b)
include accounted

lemma Accounted.flushLocked (reason : FlushReason) (now : Nat) : Accounted added received (b.flushLocked reason now) := by
  obtain ⟨orderly,log,ledger⟩ := accounted
  exact ⟨orderly.flushLocked reason now,ledger.flushLocked orderly reason now⟩

lemma Accounted.add (size : DataBatch → Nat) (origin : BatchOrigin)
    (now : Nat) (batch : Option DataBatch) : Accounted (added ++ batch.toList) received (b.add size origin now batch) := by
  cases batch with
  | none => simpa [Batcher.add] using accounted
  | some batch =>
    obtain ⟨orderly,log,ledger⟩ := accounted
    simp only [Batcher.add]
    split
    · rename_i shut
      have empty : eventsOf b.pending.toList = [] ∧ signalsOf b.pending.toList = [] := by
        cases set : b.pending with
        | none => exact ⟨rfl,rfl⟩
        | some pending =>
          have frames := events_of_hollow (orderly.closed shut pending set)
          simp [frames]
      have lost := ledger.dropped (added ++ [batch]) batch "telemetry batcher closed" b.pending
        (by simp [ledger.events,empty]) (by simp [ledger.signals,empty])
      exact ⟨⟨orderly.unranged,orderly.closed⟩,_,lost⟩
    · rename_i opened
      have collected : Accounted (added ++ [batch]) received (b.collect size origin batch) :=
        ⟨orderly.collect (by simpa using opened) size origin batch,log,ledger.collect size origin batch⟩
      split
      · exact collected.flushLocked _ now
      split
      · exact collected.flushLocked _ now
      · exact collected

lemma Accounted.perform (size : DataBatch → Nat) (operation : Operation) :
    Accounted (added ++ operation.added) (received ++ (b.perform size operation).2) (b.perform size operation).1 := by
  cases operation with
  | add batch origin now => simpa [Operation.added,Batcher.perform] using accounted.add size origin now batch
  | flush reason now => simpa [Operation.added,Batcher.perform] using accounted.flushLocked reason now
  | reconfigure settings now =>
    obtain ⟨orderly,log,ledger⟩ := accounted.flushLocked .policy now
    simp only [Operation.added,Batcher.perform,List.append_nil]
    exact ⟨⟨orderly.unranged,orderly.closed⟩,log,ledger.congr rfl rfl rfl rfl rfl rfl rfl rfl⟩
  | receive =>
    obtain ⟨orderly,log,ledger⟩ := accounted
    simp only [Operation.added,Batcher.perform,Batcher.receive,List.append_nil]
    split
    · exact ⟨orderly,log,by simpa using ledger⟩
    rename_i batch rest waiting
    refine ⟨⟨orderly.unranged,orderly.closed⟩,log,?_⟩
    obtain ⟨events,signals,queue,stamped,batches,frames,signalFrames,lost,lostEvents,lostSignals⟩ := ledger
    exact ⟨events,signals,by simp [queue,waiting],stamped,batches,frames,signalFrames,lost,lostEvents,lostSignals⟩
  | close reason now =>
    simp only [Operation.added,Batcher.perform,Batcher.closeAndFlush,List.append_nil]
    split
    · exact accounted
    obtain ⟨orderly,log,ledger⟩ := accounted.flushLocked reason now
    refine ⟨⟨orderly.unranged,fun _ => flushLocked_hollow⟩,log,?_⟩
    exact ledger.congr rfl rfl rfl rfl rfl rfl rfl rfl

lemma Accounted.run (size : DataBatch → Nat) (operations : List Operation) :
    Accounted (added ++ operations.flatMap Operation.added) (received ++ (b.run size operations).2)
      (b.run size operations).1 := by
  induction operations generalizing added received b with
  | nil => simpa [Batcher.run] using accounted
  | cons operation rest ih =>
    have later := ih (accounted.perform size operation)
    simpa only [Batcher.run,List.flatMap_cons,List.append_assoc] using later

end

lemma closed_perform (orderly : Orderly b) (shut : b.closed = true) {size : DataBatch → Nat} {operation : Operation} :
    (b.perform size operation).1.closed = true ∧
      (b.perform size operation).2 ++ (b.perform size operation).1.queue = b.queue := by
  have idle (reason : FlushReason) (now : Nat) : b.flushLocked reason now = b := by
    rcases flushLocked_cases b reason now with ⟨same,-⟩ | ⟨pending,set,filled,-⟩
    · exact same
    · rw [orderly.closed shut pending set] at filled
      cases filled
  cases operation with
  | add batch origin now =>
    cases batch with
    | none => exact ⟨shut,rfl⟩
    | some batch =>
      simp only [Batcher.perform,Batcher.add,shut,↓reduceIte]
      exact ⟨shut,rfl⟩
  | flush reason now =>
    rw [Batcher.perform,idle]
    exact ⟨shut,rfl⟩
  | reconfigure settings now =>
    rw [Batcher.perform,Batcher.reconfigure,idle]
    exact ⟨shut,rfl⟩
  | receive =>
    simp only [Batcher.perform,Batcher.receive]
    split
    · exact ⟨shut,rfl⟩
    · rename_i batch rest waiting
      exact ⟨shut,by simp [waiting]⟩
  | close reason now =>
    simp only [Batcher.perform,Batcher.closeAndFlush,shut,↓reduceIte]
    exact ⟨trivial,rfl⟩

lemma closed_run (accounted : Accounted added received b) (shut : b.closed = true) (size : DataBatch → Nat)
    (operations : List Operation) : (b.run size operations).2 ++ (b.run size operations).1.queue = b.queue := by
  induction operations generalizing added received b with
  | nil => rfl
  | cons operation rest ih =>
    obtain ⟨still,queue⟩ := closed_perform accounted.1 shut
    have later := ih (accounted.perform size operation) still
    rw [Batcher.run,← queue,← later]
    simp

end Operations

lemma accounted_initial (batchSize queueCapacity : Int) (maxBytes : Option Int) :
    Accounted [] [] (newBatcher batchSize queueCapacity maxBytes) :=
  ⟨⟨nofun,nofun⟩,[],by constructor <;> simp [flushedOf,droppedOf,newBatcher]⟩

/-- After any operations on a new batcher there is a ledger of queued and dropped batches whose frames,
followed by the pending ones, are the added frames in the order of addition; what was received and what
is queued are the queued batches in that order, each with its counts and ranges; and once the batcher is
closed, further operations add nothing to the queue. -/
theorem batcher_conserves_frames (size : DataBatch → Nat) (batchSize queueCapacity : Int) (maxBytes : Option Int)
    (operations : List Operation) : (∃ log, Ledger (operations.flatMap Operation.added)
        ((newBatcher batchSize queueCapacity maxBytes).run size operations).2 log
        ((newBatcher batchSize queueCapacity maxBytes).run size operations).1) ∧
      (((newBatcher batchSize queueCapacity maxBytes).run size operations).1.closed = true → ∀ more,
        (((newBatcher batchSize queueCapacity maxBytes).run size operations).1.run size more).2 ++
            (((newBatcher batchSize queueCapacity maxBytes).run size operations).1.run size more).1.queue =
          ((newBatcher batchSize queueCapacity maxBytes).run size operations).1.queue) := by
  have accounted := (accounted_initial batchSize queueCapacity maxBytes).run size operations
  exact ⟨accounted.2,fun shut more => closed_run accounted shut size more⟩

def eventBatch (count : Nat) : DataBatch := { events := List.replicate count {} }

lemma single_flush (count : Nat) (pos : 0 < count) :
    ∃ flushed, ((newBatcher 1 1 none).run (fun _ => 0) [.add (some (eventBatch count)) {} 0]).1.queue = [flushed] ∧
      flushed.events.length = count ∧ flushed.getHeader.eventCount = count.toUInt32 := by
  have frames : (Batcher.joined (newDataBatch {}) (eventBatch count)).events.length = count := by
    simp [Batcher.joined,newDataBatch,eventBatch]
  have filled : hollow (Batcher.joined (newDataBatch {}) (eventBatch count)) = false := by
    simp [hollow,← List.length_eq_zero_iff,frames]
    omega
  have full : ((newBatcher 1 1 none).collect (fun _ => 0) {} (eventBatch count)).batchSize ≤
      ((newBatcher 1 1 none).collect (fun _ => 0) {} (eventBatch count)).pendingFrames := by
    simp only [Batcher.collect,newBatcher,Batcher.pendingFrames,Option.getD_none,Option.map_some,Option.getD_some,frames]
    simp
    omega
  have stamped : Stamped (finalizeBatch 0 (Batcher.joined (newDataBatch {}) (eventBatch count))) :=
    finalizeBatch_stamped 0 ((newDataBatch_unranged {}).joined _)
  refine ⟨finalizeBatch 0 (Batcher.joined (newDataBatch {}) (eventBatch count)),?_,frames,?_⟩
  · simp only [Batcher.run,Batcher.perform,Batcher.add,full,↓reduceIte]
    simp only [Batcher.flushLocked,Batcher.collect,newBatcher,Option.getD_none,filled]
    rfl
  · rw [stamped.eventCount,finalizeBatch_events,frames]

/-- A batch of as many events as a 32-bit count has values is flushed with a count of zero. -/
theorem wide_count_wraps :
    ∃ flushed, ((newBatcher 1 1 none).run (fun _ => 0) [.add (some (eventBatch (2 ^ 32))) {} 0]).1.queue = [flushed] ∧
      flushed.events.length = 2 ^ 32 ∧ flushed.getHeader.eventCount.toNat = 0 := by
  obtain ⟨flushed,queue,length,count⟩ := single_flush (2 ^ 32) (by decide)
  exact ⟨flushed,queue,length,by rw [count]; rfl⟩

end SysArmor.Telemetry
