import SysArmor.DaemonTelemetry
import SysArmor.NumberedQueues

/-! The order of the sequence numbers on their way to the store: what is in flight lies between the
store's cursor and the runtime's counter, so every stored batch is ahead of the cursor it met and
behind the cursor it left. -/
namespace SysArmor.Daemon
open ByteWords Proto Digits GoText LocalStore Telemetry Numbering List UInt64
open Detection (Chance Engine EngineState)
open Sensing (Library Normalizer SensorEvent)

def eventNumbers (batch : DataBatch) : List Nat := batch.events.map (·.sequence.toNat)
def signalNumbers (batch : DataBatch) : List Nat := batch.signals.map (·.sequence.toNat)

structure Framed (numbers : DataBatch → List Nat) : Prop where
  joined : ∀ pending batch, numbers (Batcher.joined pending batch) = numbers pending ++ numbers batch
  finalized : ∀ now batch, numbers (finalizeBatch now batch) = numbers batch
  blank : ∀ origin, numbers (newDataBatch origin) = []

lemma eventNumbers_framed : Framed eventNumbers :=
  ⟨fun _ _ => map_append,fun _ _ => rfl,fun _ => rfl⟩

lemma signalNumbers_framed : Framed signalNumbers :=
  ⟨fun _ _ => map_append,fun _ _ => rfl,fun _ => rfl⟩

structure Ready (batch : DataBatch) : Prop where
  stamped : Stamped batch
  filled : hollow batch = false

structure Prepared (b : Batcher) : Prop where
  queue : ∀ batch ∈ b.queue, Ready batch
  pending : ∀ batch ∈ b.pending, Unranged batch

def inBatcher (b : Batcher) : List DataBatch := b.queue ++ b.pending.toList

section Batching
variable {b : Batcher} {numbers : DataBatch → List Nat}
variable {now : Nat} {reason : FlushReason}

@[simp] lemma recordFlushReasonLocked_queue (b : Batcher) (reason : FlushReason) :
    (b.recordFlushReasonLocked reason).queue = b.queue := by
  cases reason <;> rfl

lemma flushLocked_moves : b.flushLocked reason now = b ∨ ∃ pending, b.pending = some pending ∧ hollow pending = false ∧
      (b.flushLocked reason now).pending = none ∧ ((b.flushLocked reason now).queue = b.queue ++ [finalizeBatch now pending] ∨
        (b.flushLocked reason now).queue = b.queue) := by
  rcases flushLocked_cases b reason now with ⟨same,-⟩ | ⟨pending,set,filled,same | same⟩
  · exact .inl same
  · exact .inr ⟨pending,set,filled,by rw [same]; rfl,.inl (by rw [same]; simp [Batcher.cleared,Batcher.enqueue])⟩
  · exact .inr ⟨pending,set,filled,by rw [same]; rfl,.inr (by rw [same]; simp [Batcher.cleared,Batcher.drop])⟩

lemma Prepared.flushLocked (prepared : Prepared b) (reason : FlushReason) (now : UInt64) :
    Prepared (b.flushLocked reason now.toNat) := by
  rcases flushLocked_moves with same | ⟨pending,set,filled,gone,queue⟩
  · rwa [same]
  refine ⟨?_,by simp [gone]⟩
  rcases queue with more | same
  · intro batch mem
    rw [more,mem_append,mem_singleton] at mem
    rcases mem with old | rfl
    · exact prepared.queue batch old
    · exact ⟨finalizeBatch_stamped _ (prepared.pending pending set),filled⟩
  · rw [same]
    exact prepared.queue

lemma flushLocked_numbers (framed : Framed numbers) :
    ((inBatcher (b.flushLocked reason now)).flatMap numbers).Sublist ((inBatcher b).flatMap numbers) := by
  rcases flushLocked_moves with same | ⟨pending,set,filled,gone,more | same⟩
  · rw [same]
  · simp [inBatcher,gone,more,set,framed.finalized]
  · simp [inBatcher,gone,same,set]

lemma Prepared.add (prepared : Prepared b) (size : DataBatch → Nat) (origin : BatchOrigin) (now : UInt64)
    (batch : DataBatch) : Prepared (b.add size origin now.toNat (some batch)) := by
  have collected : Prepared (b.collect size origin batch) := by
    refine ⟨prepared.queue,?_⟩
    rintro _ ⟨⟩
    have unranged : Unranged (b.pending.getD (newDataBatch origin)) := by
      cases set : b.pending with
      | none => exact newDataBatch_unranged origin
      | some pending => exact prepared.pending pending set
    exact unranged.joined batch
  simp only [Batcher.add]
  split
  · exact ⟨prepared.queue,prepared.pending⟩
  split
  · exact collected.flushLocked .count now
  · split
    · exact collected.flushLocked .bytes now
    · exact collected

lemma add_numbers (framed : Framed numbers) (b : Batcher) (size : DataBatch → Nat) (origin : BatchOrigin) (now : Nat)
    (batch : DataBatch) :
    ((inBatcher (b.add size origin now (some batch))).flatMap numbers).Sublist ((inBatcher b).flatMap numbers ++ numbers batch) := by
  have collected : (inBatcher (b.collect size origin batch)).flatMap numbers = (inBatcher b).flatMap numbers ++ numbers batch := by
    cases set : b.pending <;> simp [inBatcher,Batcher.collect,set,framed.joined,framed.blank]
  simp only [Batcher.add]
  split
  · exact sublist_append_left _ _
  rw [← collected]
  split
  · exact flushLocked_numbers framed
  split
  · exact flushLocked_numbers framed
  · exact .refl _

lemma Prepared.reconfigure (prepared : Prepared b) (settings : BatchSettings) (now : UInt64) :
    Prepared (b.reconfigure settings now.toNat) :=
  ⟨(prepared.flushLocked .policy now).queue,(prepared.flushLocked .policy now).pending⟩

lemma Prepared.closeAndFlush (prepared : Prepared b) (reason : FlushReason) (now : UInt64) :
    Prepared (b.closeAndFlush reason now.toNat) := by
  simp only [Batcher.closeAndFlush]
  split
  · exact prepared
  · exact ⟨(prepared.flushLocked reason now).queue,(prepared.flushLocked reason now).pending⟩

lemma closeAndFlush_numbers (framed : Framed numbers) :
    ((inBatcher (b.closeAndFlush reason now)).flatMap numbers).Sublist ((inBatcher b).flatMap numbers) := by
  simp only [Batcher.closeAndFlush]
  split
  · exact .refl _
  · exact flushLocked_numbers framed

end Batching

def AgentRuntime.inFlight (r : AgentRuntime) : List DataBatch := r.sending.toList ++ inBatcher r.batcher

structure Ahead (cursor : SequenceCursor) (batch : DataBatch) : Prop where
  ready : Ready batch
  events : ∀ number ∈ eventNumbers batch, cursor.event.toNat < number
  signals : ∀ number ∈ signalNumbers batch, cursor.signal.toNat < number

structure Behind (cursor : SequenceCursor) (batch : DataBatch) : Prop where
  ready : Ready batch
  positive : ∀ number ∈ eventNumbers batch, 0 < number
  events : ∀ number ∈ eventNumbers batch, number ≤ cursor.event.toNat
  signals : ∀ number ∈ signalNumbers batch, number ≤ cursor.signal.toNat

/-- The runtime's numbers in flight lie between the store's cursor and its counters, and what is stored
lies behind the cursor. -/
structure InOrder (log : List StoredBatch) (r : AgentRuntime) : Prop where
  synced : r.store.disk.cursor = r.store.cursor
  fits : r.store.cursor.event < 2 ^ 63
  events : Between r.store.cursor.event.toNat r.normalizer.seq.toNat (r.inFlight.flatMap eventNumbers)
  signals : Between r.store.cursor.signal.toNat r.signalSeq.toNat (r.inFlight.flatMap signalNumbers)
  sending : ∀ batch ∈ r.sending, Ready batch
  prepared : Prepared r.batcher
  recorded : ∀ b ∈ log, Behind r.store.cursor b.batch ∧ b.position.batchSequence = batchSequence b.batch

structure Stepped (log more : List StoredBatch) (r after : AgentRuntime) : Prop where
  inOrder : InOrder (log ++ more) after
  forward : after.store.cursor.Covers r.store.cursor
  ahead : ∀ b ∈ more, Ahead r.store.cursor b.batch

section Marks
variable {cursor : SequenceCursor} {batch : DataBatch}

lemma Behind.mono (behind : Behind cursor batch) (covers : SequenceCursor.Covers later cursor) : Behind later batch :=
  ⟨behind.ready,behind.positive,
    fun number mem => (behind.events number mem).trans (le_iff_toNat_le.mp covers.event),
    fun number mem => (behind.signals number mem).trans (le_iff_toNat_le.mp covers.signal)⟩

lemma getLastD_toNat {numbers : List UInt64} : (numbers.getLastD 0).toNat = (numbers.map UInt64.toNat).getLastD 0 := by
  rcases eq_nil_or_concat' numbers with rfl | ⟨init,last,rfl⟩
  · rfl
  · rw [map_append,map_singleton,getLastD_concat,getLastD_concat]

lemma largerSequence_last {low : UInt64} {ends : UInt64} {numbers : List Nat} (last : ends.toNat = numbers.getLastD 0)
    (above : ∀ number ∈ numbers, low.toNat < number) : (largerSequence low ends).toNat = numbers.getLastD low.toNat := by
  rcases eq_nil_or_concat' numbers with rfl | ⟨init,final,rfl⟩
  · have zero : ends = 0 := UInt64.toNat_inj.mp last
    subst zero
    simp [largerSequence]
  rw [getLastD_concat] at last ⊢
  have less : low < ends := by
    rw [lt_iff_toNat_lt,last]
    exact above final (by simp)
  rw [largerSequence,if_pos less,last]

lemma Ready.eventEnd (ready : Ready batch) : batch.getHeader.eventSeqEnd.toNat = (eventNumbers batch).getLastD 0 := by
  rw [ready.stamped.eventSeqEnd,getLastD_toNat,map_map]
  rfl

lemma Ready.signalEnd (ready : Ready batch) : batch.getHeader.signalSeqEnd.toNat = (signalNumbers batch).getLastD 0 := by
  rw [ready.stamped.signalSeqEnd,getLastD_toNat,map_map]
  rfl

lemma Ahead.advance (ahead : Ahead cursor batch) :
    (advanceSequenceCursor cursor batch).event.toNat = (eventNumbers batch).getLastD cursor.event.toNat ∧
      (advanceSequenceCursor cursor batch).signal.toNat = (signalNumbers batch).getLastD cursor.signal.toNat :=
  ⟨largerSequence_last ahead.ready.eventEnd ahead.events,largerSequence_last ahead.ready.signalEnd ahead.signals⟩

end Marks

section Cursors
variable {codec : Codec} {segmentSize : Nat} {s after : Store}

lemma appendBatch_fits (fresh : s.batchPositions.lookup batch.getHeader.batchId = none)
    (done : appendBatch codec segmentSize s (some batch) io = (after,.ok position)) :
    after.cursor.event < 2 ^ 63 ∧ position.batchSequence = batchSequence batch := by
  have appended := appendBatch_appended codec segmentSize s batch io
  rw [done] at appended
  cases appended with
  | known found =>
    rw [fresh] at found
    cases found
  | recorded _ encoded _ _ recorded =>
    cases recorded with
    | indexed _ _ _ _ fits =>
      obtain ⟨_,-,-,-,same⟩ := encodeRecord_ok encoded
      exact ⟨fits.event,same⟩

lemma recoverSegments_fits (opened : recoverSegments codec d = .ok s) : s.cursor.event < 2 ^ 63 := by
  simp only [recoverSegments] at opened
  split at opened
  · cases opened
  rename_i middle _
  obtain ⟨_,-,-,fits⟩ := persistSequenceCursor_cases middle.disk middle.cursor .done
  split at opened
  · cases opened
  · rename_i written
    rw [written] at fits
    cases opened
    exact (fits rfl).2.event

end Cursors

section Steps
variable {env : Setting} {log : List StoredBatch} {r after : AgentRuntime}

lemma InOrder.beside (inOrder : InOrder log r) (store : after.store = r.store)
    (prepared : Prepared after.batcher) (sending : ∀ batch ∈ after.sending, Ready batch)
    (events : Between r.store.cursor.event.toNat after.normalizer.seq.toNat (after.inFlight.flatMap eventNumbers))
    (signals : Between r.store.cursor.signal.toNat after.signalSeq.toNat (after.inFlight.flatMap signalNumbers)) :
    Stepped log [] r after := by
  refine ⟨?_,by rw [store]; exact .refl _,nofun⟩
  rw [append_nil]
  constructor
  · rw [store]
    exact inOrder.synced
  · rw [store]
    exact inOrder.fits
  · rw [store]
    exact events
  · rw [store]
    exact signals
  · exact sending
  · exact prepared
  · rw [store]
    exact inOrder.recorded

lemma InOrder.batching (inOrder : InOrder log r) {b : Batcher} (prepared : Prepared b)
    (events : ((inBatcher b).flatMap eventNumbers).Sublist ((inBatcher r.batcher).flatMap eventNumbers))
    (signals : ((inBatcher b).flatMap signalNumbers).Sublist ((inBatcher r.batcher).flatMap signalNumbers)) :
    Stepped log [] r { r with batcher := b } := by
  refine inOrder.beside rfl prepared inOrder.sending (inOrder.events.sublist ?_) (inOrder.signals.sublist ?_)
  · simpa [AgentRuntime.inFlight] using events
  · simpa [AgentRuntime.inFlight] using signals

lemma signalFrames_between (observedAt : String) (label : Signal → UInt64 → Signal) (last : UInt64) (signals : List Signal)
    (room : last.toNat + signals.length < 2 ^ 64) {low : Nat} {numbers : List Nat} (between : Between low last.toNat numbers) :
    Between low (signalFrames observedAt label last signals).2.toNat
      (numbers ++ (signalFrames observedAt label last signals).1.map (·.sequence.toNat)) := by
  induction signals generalizing last numbers with
  | nil => simpa [signalFrames] using between
  | cons signal rest ih =>
    rw [length_cons] at room
    have next : (last + 1).toNat = last.toNat + 1 := by
      rw [UInt64.toNat_add]
      exact Nat.mod_eq_of_lt (by simpa using by omega)
    have pushed : Between low (last + 1).toNat (numbers ++ [(last + 1).toNat]) := between.push (by omega)
    simpa [signalFrames] using ih (last + 1) (by omega) pushed

structure Agrees (r after : AgentRuntime) : Prop where
  store : after.store = r.store
  seq : after.normalizer.seq = r.normalizer.seq
  signalSeq : after.signalSeq = r.signalSeq
  sending : after.sending = r.sending
  batcher : after.batcher = r.batcher

lemma Stepped.agrees (stepped : Stepped log [] r middle) (agrees : Agrees middle after) : Stepped log [] r after := by
  obtain ⟨⟨synced,fits,events,signals,sending,prepared,recorded⟩,forward,-⟩ := stepped
  obtain ⟨store,seq,signalSeq,sent,batcher⟩ := agrees
  have flight : after.inFlight = middle.inFlight := by simp only [AgentRuntime.inFlight,sent,batcher]
  refine ⟨⟨?_,?_,?_,?_,?_,?_,?_⟩,?_,nofun⟩
  all_goals simp only [store,seq,signalSeq,sent,batcher,flight]
  all_goals assumption

lemma InOrder.refl (inOrder : InOrder log r) : Stepped log [] r r :=
  inOrder.beside rfl inOrder.prepared inOrder.sending inOrder.events inOrder.signals

lemma Stepped.order (stepped : Stepped log [] r after) : InOrder log after := by
  simpa using stepped.inOrder

lemma Stepped.andThen (first : Stepped log [] r middle) (second : Stepped log [] middle after) : Stepped log [] r after :=
  ⟨second.inOrder,second.forward.trans first.forward,nofun⟩

lemma InOrder.flushed (inOrder : InOrder log r) (reason : FlushReason) (now : UInt64) :
    Stepped log [] r { r with batcher := r.batcher.flushLocked reason now.toNat } :=
  inOrder.batching (inOrder.prepared.flushLocked reason now) (flushLocked_numbers eventNumbers_framed)
    (flushLocked_numbers signalNumbers_framed)

lemma switch_agrees (r : AgentRuntime) (identity : RuntimeIdentity) (now : UInt64) :
    let flushed : AgentRuntime := { r with batcher := r.batcher.flushLocked .identity now.toNat }
    let switched := (if identity ≠ r.currentIdentity then flushed else r).setRuntimeIdentity identity
    Agrees r switched ∨ Agrees flushed switched := by
  intro flushed switched
  by_cases other : identity ≠ r.currentIdentity
  · refine .inr ?_
    simp only [switched,if_pos other]
    exact ⟨rfl,rfl,rfl,rfl,rfl⟩
  refine .inl ?_
  simp only [switched,if_neg other]
  exact ⟨rfl,rfl,rfl,rfl,rfl⟩

lemma applyEnrollmentIdentity_agrees (r : AgentRuntime) (enrollment : Enrollment) (now : UInt64) :
    Agrees r (r.applyEnrollmentIdentity enrollment now) ∨
      Agrees { r with batcher := r.batcher.flushLocked .identity now.toNat } (r.applyEnrollmentIdentity enrollment now) :=
  switch_agrees r _ now

section
variable (inOrder : InOrder log r)
include inOrder

lemma InOrder.identity (enrollment : Enrollment) (now : UInt64) :
    Stepped log [] r (r.applyEnrollmentIdentity enrollment now) := by
  rcases applyEnrollmentIdentity_agrees r enrollment now with agrees | agrees
  · exact inOrder.refl.agrees agrees
  · exact (inOrder.flushed .identity now).agrees agrees

lemma InOrder.enrolled (request : EnrollRequest) (io : EnrollEffects) : Stepped log [] r (r.enroll request io).1 := by
  simp only [AgentRuntime.enroll]
  split
  · exact inOrder.refl
  · exact inOrder.refl
  · exact inOrder.refl
  · rename_i certificate paths created _ _ _
    split
    · exact inOrder.refl.agrees ⟨rfl,rfl,rfl,rfl,rfl⟩
    rename_i row _
    have changed : Stepped log [] r { r with enrollment := row } :=
      inOrder.refl.agrees ⟨rfl,rfl,rfl,rfl,rfl⟩
    have named := changed.order.identity (enrollmentFor certificate paths request.uploadHistory (storeStats r.store)) io.now
    exact changed.andThen (named.agrees ⟨rfl,rfl,rfl,rfl,rfl⟩)

lemma InOrder.unenrolled {requestID : String} {io : UnenrollEffects} : Stepped log [] r (r.unenroll requestID io).1 := by
  simp only [AgentRuntime.unenroll]
  split
  · exact inOrder.refl
  · exact inOrder.refl.agrees ⟨rfl,rfl,rfl,rfl,rfl⟩
  rename_i row _ _
  have changed : Stepped log [] r { r with enrollment := row, pipeline := none } :=
    inOrder.refl.agrees ⟨rfl,rfl,rfl,rfl,rfl⟩
  exact changed.andThen (changed.order.identity {} io.now)

lemma InOrder.event (chance : Chance) (moment : Moment) (ev : SensorEvent) (room : r.normalizer.seq.toNat + 1 < 2 ^ 64)
    (signalRoom : r.signalSeq.toNat + (r.detected env.go env.lib chance moment ev).2.length < 2 ^ 64) :
    Stepped log [] r (r.processEvent env.go env.lib chance env.size moment ev) := by
  have next : (r.normalizer.seq + 1).toNat = r.normalizer.seq.toNat + 1 := by
    rw [UInt64.toNat_add]
    exact Nat.mod_eq_of_lt (by simpa using room)
  have numbered : Between r.store.cursor.event.toNat (r.normalizer.seq + 1).toNat
      (r.inFlight.flatMap eventNumbers ++ [(r.normalizer.seq + 1).toNat]) := inOrder.events.push (by omega)
  have signalled := signalFrames_between moment.observedAt setEndpointSignalID r.signalSeq
    (r.detected env.go env.lib chance moment ev).2 signalRoom inOrder.signals
  refine inOrder.beside rfl (inOrder.prepared.add _ _ _ _) inOrder.sending (numbered.sublist ?_) (signalled.sublist ?_)
  · simp only [AgentRuntime.inFlight,flatMap_append,append_assoc]
    exact (add_numbers eventNumbers_framed r.batcher env.size (r.origin moment) moment.now.toNat _).append_left _
  · simp only [AgentRuntime.inFlight,flatMap_append,append_assoc]
    exact (add_numbers signalNumbers_framed r.batcher env.size (r.origin moment) moment.now.toNat _).append_left _

lemma InOrder.signalled (moment : Moment) (signals : List Signal)
    (room : r.signalSeq.toNat + signals.length < 2 ^ 64) : Stepped log [] r (r.processSignals env.size moment signals) := by
  have signalled := signalFrames_between moment.observedAt (fun signal _ => signal) r.signalSeq signals room inOrder.signals
  refine inOrder.beside rfl (inOrder.prepared.add _ _ _ _) inOrder.sending (inOrder.events.sublist ?_) (signalled.sublist ?_)
  · simp only [AgentRuntime.inFlight,flatMap_append]
    have added := add_numbers eventNumbers_framed r.batcher env.size (r.origin moment) moment.now.toNat
      { newDataBatch (r.origin moment) with
        signals := (signalFrames moment.observedAt (fun signal _ => signal) r.signalSeq signals).1 }
    exact (added.trans (by simp [eventNumbers,newDataBatch])).append_left _
  · simp only [AgentRuntime.inFlight,flatMap_append,append_assoc]
    exact (add_numbers signalNumbers_framed r.batcher env.size (r.origin moment) moment.now.toNat _).append_left _

end

lemma InOrder.taken (inOrder : InOrder log r) (idle : r.sending = none) (waiting : r.batcher.queue = batch :: rest) :
    Stepped log [] r { r with sending := some batch, batcher := { r.batcher with queue := rest } } := by
  have flight : ({ r with sending := some batch, batcher := { r.batcher with queue := rest } } : AgentRuntime).inFlight =
      r.inFlight := by
    simp [AgentRuntime.inFlight,inBatcher,idle,waiting]
  refine inOrder.beside rfl ⟨fun other mem => inOrder.prepared.queue other (by simp [waiting,mem]),
    inOrder.prepared.pending⟩ ?_ (flight ▸ inOrder.events) (flight ▸ inOrder.signals)
  rintro _ ⟨⟩
  exact inOrder.prepared.queue batch (by simp [waiting])

lemma InOrder.dropped (inOrder : InOrder log r) : Stepped log [] r { r with sending := none } := by
  refine inOrder.beside rfl inOrder.prepared (by simp) (inOrder.events.sublist ?_) (inOrder.signals.sublist ?_)
  · simp [AgentRuntime.inFlight]
  · simp [AgentRuntime.inFlight]

lemma InOrder.appended (inOrder : InOrder log r) (taken : r.sending = some batch)
    (fresh : r.store.batchPositions.lookup batch.getHeader.batchId = none)
    (success : appendBatch env.codec env.segmentSize r.store (some batch) io = (store,.ok position)) :
    Stepped log [⟨position,batch⟩] r { r with store, sending := none } := by
  have ready := inOrder.sending batch taken
  have flight : r.inFlight = batch :: inBatcher r.batcher := by simp [AgentRuntime.inFlight,taken]
  have events := inOrder.events
  have signals := inOrder.signals
  rw [flight,flatMap_cons] at events signals
  have ahead : Ahead r.store.cursor batch :=
    ⟨ready,fun number mem => events.above number (mem_append_left _ mem),
      fun number mem => signals.above number (mem_append_left _ mem)⟩
  have cursors := appendBatch_cursor env.codec env.segmentSize r.store batch fresh io
  rw [success] at cursors
  have memory : store.cursor = advanceSequenceCursor r.store.cursor batch := cursors.memory position rfl
  have covers : store.cursor.Covers r.store.cursor := memory ▸ (advance_covers r.store.cursor batch).1
  have disk : store.disk.cursor = store.cursor := by
    have written : store.disk.cursor = _ := cursors.disk position rfl
    rw [written,inOrder.synced,← memory,largerSequence_of_le covers.event,largerSequence_of_le covers.signal]
  have eventMark := ahead.advance.1
  have signalMark := ahead.advance.2
  rw [← memory] at eventMark signalMark
  have newest : Behind store.cursor batch := by
    refine ⟨ready,fun number mem => Nat.zero_lt_of_lt (ahead.events number mem),?_,?_⟩
    · rw [eventMark]
      exact (events.sublist (sublist_append_left _ _)).le_last.2
    · rw [signalMark]
      exact (signals.sublist (sublist_append_left _ _)).le_last.2
  obtain ⟨fits,placed⟩ := appendBatch_fits fresh success
  refine ⟨⟨disk,fits,?_,?_,by simp,inOrder.prepared,?_⟩,covers,?_⟩
  · rw [eventMark]
    exact events.behind
  · rw [signalMark]
    exact signals.behind
  · intro other mem
    rcases mem_append.mp mem with old | new
    · obtain ⟨behind,same⟩ := inOrder.recorded other old
      exact ⟨behind.mono covers,same⟩
    · rw [mem_singleton.mp new]
      exact ⟨newest,placed⟩
  · intro other mem
    rw [mem_singleton.mp mem]
    exact ahead

lemma InOrder.evicted (inOrder : InOrder log r) (io : CapacityEffects) :
    Stepped log [] r { r with store := { r.store with disk := (enforceCapacity r.store.disk io).1 } } := by
  have shrunk := enforceCapacity_shrunk r.store.disk io
  refine ⟨?_,.refl _,nofun⟩
  rw [append_nil]
  exact ⟨shrunk.cursor.trans inOrder.synced,inOrder.fits,inOrder.events,inOrder.signals,
    inOrder.sending,inOrder.prepared,inOrder.recorded⟩

lemma start_inOrder (startup : Startup) (enrollment : Enrollment) {store : Store} (synced : store.disk.cursor = store.cursor)
    (fits : store.cursor.event < 2 ^ 63)
    (recorded : ∀ b ∈ log, Behind store.cursor b.batch ∧ b.position.batchSequence = batchSequence b.batch) :
    InOrder log (.start startup store enrollment) ∧ (AgentRuntime.start startup store enrollment).store = store := by
  let runtime : AgentRuntime :=
    { config := startup.config, engine := startup.engine, signalSeq := store.cursor.signal, store, enrollment
      normalizer := { startup.normalizer with seq := store.cursor.event }
      batcher := newBatcher startup.batchSize startup.queueCapacity startup.maxBytes }
  have bare : InOrder log (runtime.setRuntimeIdentity startup.config) :=
    ⟨synced,fits,.empty le_rfl,.empty le_rfl,nofun,⟨nofun,nofun⟩,recorded⟩
  have named : Stepped log [] (runtime.setRuntimeIdentity startup.config) (.start startup store enrollment) :=
    (bare.identity enrollment startup.now).agrees ⟨rfl,rfl,rfl,rfl,rfl⟩
  refine ⟨named.order,?_⟩
  rcases applyEnrollmentIdentity_agrees (runtime.setRuntimeIdentity startup.config) enrollment startup.now with agrees | agrees
  · exact agrees.store
  · exact agrees.store

lemma InOrder.restarted (inOrder : InOrder log r) (startup : Startup)
    (opened : recoverSegments env.codec r.store.disk = .ok store) : Stepped log [] r (.start startup store r.enrollment) := by
  obtain ⟨covers,synced⟩ := recoverSegments_cursor opened
  rw [inOrder.synced] at covers
  obtain ⟨started,same⟩ := start_inOrder startup r.enrollment synced (recoverSegments_fits opened)
    fun b mem => (inOrder.recorded b mem).imp (·.mono covers) id
  exact ⟨by simpa using started,by rw [same]; exact covers,nofun⟩

lemma InOrder.step (inOrder : InOrder log r) (next : DaemonStep env r more after) : Stepped log more r after := by
  cases next with
  | event chance moment ev room signalRoom => exact inOrder.event chance moment ev room signalRoom
  | signals moment signals room => exact inOrder.signalled moment signals room
  | detection engine state => exact inOrder.refl.agrees ⟨rfl,rfl,rfl,rfl,rfl⟩
  | flush reason now => exact inOrder.flushed reason now
  | reconfigure settings now =>
    exact inOrder.batching (inOrder.prepared.reconfigure settings now) (flushLocked_numbers eventNumbers_framed)
      (flushLocked_numbers signalNumbers_framed)
  | close reason now =>
    exact inOrder.batching (inOrder.prepared.closeAndFlush reason now) (closeAndFlush_numbers eventNumbers_framed)
      (closeAndFlush_numbers signalNumbers_framed)
  | take idle waiting => exact inOrder.taken idle waiting
  | giveUp => exact inOrder.dropped
  | append taken fresh success => exact inOrder.appended taken fresh success
  | again taken known success =>
    rename_i batch recorded io store position
    have same := appendBatch_known env.codec env.segmentSize known io
    rw [success] at same
    subst same
    exact inOrder.dropped
  | refused taken failed => exact inOrder.refl
  | evict io => exact inOrder.evicted io
  | enroll request io => exact inOrder.enrolled request io
  | unenroll requestID io => exact inOrder.unenrolled
  | restart startup opened => exact inOrder.restarted startup opened

lemma InOrder.run (inOrder : InOrder log r) (run : DaemonRun env r more after) : Stepped log more r after := by
  induction run with
  | refl => exact inOrder.refl
  | step run next ih =>
    obtain ⟨middle,forward,ahead⟩ := ih
    obtain ⟨last,farther,newest⟩ := middle.step next
    refine ⟨by simpa using last,farther.trans forward,fun batch mem => ?_⟩
    rcases mem_append.mp mem with old | new
    · exact ahead batch old
    have here := newest batch new
    exact ⟨here.ready,
      fun number inside => (le_iff_toNat_le.mp forward.event).trans_lt (here.events number inside),
      fun number inside => (le_iff_toNat_le.mp forward.signal).trans_lt (here.signals number inside)⟩

end Steps

end SysArmor.Daemon
