import SysArmor.TelemetryOrder
import SysArmor.ExportSafety

/-! Enrollment without history: the boundary is the event number after the cursor, and the pipeline
compares it with a batch's first event number, or with its first signal number if it has no events.
Which batches that lets through depends on the two cursors at the enrollment. -/
namespace SysArmor.Daemon
open Proto Digits LocalStore

section
open ByteWords GoText Telemetry UInt64
open Detection (Chance Engine EngineState steadyChance)
open Sensing (Library Normalizer SensorEvent plainLibrary)

def EnrollmentCertificate.Names (certificate : EnrollmentCertificate) (batch : DataBatch) : Prop :=
  batch.getHeader.tenantId = certificate.tenantID ∧ batch.getHeader.agentId = certificate.agentID

/-- An applied enrollment has a certificate and complete fields, leaves the store alone and starts the
pipeline of its row. -/
structure Applied (r : AgentRuntime) (request : EnrollRequest) (certificate : EnrollmentCertificate)
    (e : AgentRuntime) : Prop where
  named : certificate.tenantID ≠ ""
  fits : enrollmentBoundary (storeStats r.store) request.uploadHistory < 2 ^ 63
  store : e.store = r.store
  pipeline : e.pipeline = some ⟨enrollmentBoundary (storeStats r.store) request.uploadHistory,
    certificate.tenantID,certificate.agentID⟩

lemma setManaged_ok (done : setManaged row enrollment outcome = (after,.ok ())) :
    validateManaged enrollment = .ok () ∧ enrollment.managedFromSequence < 2 ^ 63 := by
  unfold setManaged at done
  split at done
  · cases done
  rename_i valid
  split at done
  · cases done
  · rename_i small
    exact ⟨valid,UInt64.not_le.mp small⟩

lemma validateManaged_tenant (valid : validateManaged enrollment = .ok ()) : enrollment.tenantID ≠ "" := by
  intro empty
  have blank : trimSpace "" = "" := rfl
  simp [validateManaged,empty,blank] at valid

lemma applyEnrollmentIdentity_store (r : AgentRuntime) (enrollment : Enrollment) (now : UInt64) :
    (r.applyEnrollmentIdentity enrollment now).store = r.store := by
  rcases applyEnrollmentIdentity_agrees r enrollment now with agrees | agrees
  · exact agrees.store
  · exact agrees.store

lemma enroll_applied (enrolled : r.enroll request io = (e,reply)) (applied : reply.status = "applied")
    (issued : io.certificate = .ok certificate) : Applied r request certificate e := by
  have rejected : ∀ message identity, (enrollmentAck request.requestID "rejected" message identity).status ≠ "applied" := by
    intro message identity
    simp [enrollmentAck]
  simp only [AgentRuntime.enroll,issued] at enrolled
  split at enrolled
  · cases enrolled
    exact absurd applied (rejected _ _)
  · cases enrolled
    exact absurd applied (rejected _ _)
  · cases enrolled
    exact absurd applied (rejected _ _)
  · rename_i certificate' paths created same _ _
    cases same
    split at enrolled
    · cases enrolled
      exact absurd applied (rejected _ _)
    rename_i row managed
    cases enrolled
    obtain ⟨valid,small⟩ := setManaged_ok managed
    have kept := applyEnrollmentIdentity_store { r with enrollment := row }
      (enrollmentFor certificate paths request.uploadHistory (storeStats r.store)) io.now
    exact ⟨validateManaged_tenant valid,small,kept,rfl⟩

lemma Ready.batchSequence (ready : Ready batch) (pos : ∀ number ∈ eventNumbers batch, 0 < number) :
    (batch.events ≠ [] ∧ (batchSequence batch).toNat ∈ eventNumbers batch) ∨
      (batch.events = [] ∧ batchSequence batch = batch.getHeader.signalSeqStart ∧
        batch.getHeader.signalSeqStart.toNat ∈ signalNumbers batch) := by
  have eventStart := ready.stamped.eventSeqStart
  have signalStart := ready.stamped.signalSeqStart
  cases events : batch.events with
  | nil =>
    cases signals : batch.signals with
    | nil => simpa [hollow,events,signals] using ready.filled
    | cons first rest =>
      refine .inr ⟨rfl,?_,?_⟩
      · simp [LocalStore.batchSequence,eventStart,events]
      · simp [signalStart,signals,signalNumbers]
  | cons first rest =>
    have some : 0 < first.sequence := lt_iff_toNat_lt.mpr (pos _ (by simp [eventNumbers,events]))
    refine .inl ⟨by simp,?_⟩
    simp [LocalStore.batchSequence,eventStart,events,some,eventNumbers]

lemma eligible_iff {u : Pipeline} {b : StoredBatch} (named : u.tenantID ≠ "")
    (placed : b.position.batchSequence = batchSequence b.batch) : u.eligible b = true ↔ u.fromSequence ≤ batchSequence b.batch ∧
      b.batch.getHeader.tenantId = u.tenantID ∧ b.batch.getHeader.agentId = u.agentID := by
  simp [Pipeline.eligible,Pipeline.foreign,fromOn,placed,named]

lemma stored_since_iff {cursor : SequenceCursor} {b : StoredBatch} {before since : List StoredBatch}
    (origin : b ∈ before ∨ b ∈ since) (behind : ∀ b ∈ before, Behind cursor b.batch) (ahead : ∀ b ∈ since, Ahead cursor b.batch) :
    (b.batch.events ≠ [] ∧ (b ∈ since ↔ cursor.event < batchSequence b.batch)) ∨
      (b.batch.events = [] ∧ batchSequence b.batch = b.batch.getHeader.signalSeqStart ∧
        (b ∈ since ↔ cursor.signal < b.batch.getHeader.signalSeqStart)) := by
  have past (old : b ∈ before) := (behind b old).ready.batchSequence (behind b old).positive
  have fresh (new : b ∈ since) := (ahead b new).ready.batchSequence
    fun number mem => Nat.zero_lt_of_lt ((ahead b new).events number mem)
  have ready := origin.elim past fresh
  refine ready.imp (fun ⟨filled,first⟩ => ⟨filled,?_⟩) fun ⟨empty,same,first⟩ => ⟨empty,same,?_⟩
  · constructor
    · intro new
      exact lt_iff_toNat_lt.mpr ((ahead b new).events _ first)
    · intro above
      refine origin.resolve_left fun old => ?_
      exact absurd (lt_iff_toNat_lt.mp above) (Nat.not_lt.mpr ((behind b old).events _ first))
  · constructor
    · intro new
      exact lt_iff_toNat_lt.mpr ((ahead b new).signals _ first)
    · intro above
      refine origin.resolve_left fun old => ?_
      exact absurd (lt_iff_toNat_lt.mp above) (Nat.not_lt.mpr ((behind b old).signals _ first))

lemma succ_le_iff_lt {low high : UInt64} (fits : low < 2 ^ 63) : low + 1 ≤ high ↔ low < high := by
  have bound : (2 ^ 63 : UInt64).toNat = 2 ^ 63 := by decide +kernel
  have small := lt_iff_toNat_lt.mp fits
  have next : (low + 1).toNat = low.toNat + 1 := by
    rw [UInt64.toNat_add]
    exact Nat.mod_eq_of_lt (by rw [bound] at small; simp only [toNat_one]; omega)
  rw [le_iff_toNat_le,lt_iff_toNat_lt,next]
  exact Nat.succ_le_iff

/-- After a run from an empty store and an enrollment without history, the pipeline lets a stored batch
through exactly when it was stored since then under the enrolled identity, unless the batch is the
enrolled agent's, has no events, and its first signal number lies past one cursor only. -/
theorem enrollment_boundary_iff (env : Setting) (startup : Startup)
    (earlier : DaemonRun env (.start startup {} {}) before r) (enrolled : r.enroll request io = (e,reply))
    (applied : reply.status = "applied") (issued : io.certificate = .ok certificate)
    (recent : request.uploadHistory = false) (later : DaemonRun env e since after) (stored : b ∈ before ∨ b ∈ since) :
    ∃ u, e.pipeline = some u ∧ ((u.eligible b = true ↔ b ∈ since ∧ certificate.Names b.batch) ↔
        (certificate.Names b.batch → b.batch.events = [] → (r.store.cursor.event < b.batch.getHeader.signalSeqStart ↔
            r.store.cursor.signal < b.batch.getHeader.signalSeqStart))) := by
  obtain ⟨named,-,store,pipeline⟩ := enroll_applied enrolled applied issued
  have first : InOrder [] (.start startup {} {}) := (start_inOrder startup {} rfl zero_fits (by simp)).1
  have middle : InOrder before r := (first.run earlier).inOrder
  have entered : InOrder before e := by
    have step := (middle.enrolled request io).order
    rwa [enrolled] at step
  obtain ⟨last,-,ahead⟩ := entered.run later
  rw [store] at ahead
  have placed := (last.recorded b (List.mem_append.mpr stored)).2
  refine ⟨_,pipeline,?_⟩
  rw [eligible_iff named placed]
  simp only [enrollmentBoundary,recent,storeStats,succ_le_iff_lt middle.fits,Bool.false_eq_true,if_false]
  change (_ ∧ certificate.Names b.batch ↔ _) ↔ _
  rcases stored_since_iff stored (fun b mem => (middle.recorded b mem).1) ahead with
    ⟨filled,since⟩ | ⟨empty,same,since⟩
  · rw [since]
    simp [filled]
  rw [since,same]
  simp only [empty,true_implies]
  exact and_congr_left_iff

section Sample

def pairCodec (first second : DataBatch) : Codec where
  marshal batch := if batch = first then .ok [1] else if batch = second then .ok [2] else .error "unsupported message"
  unmarshal raw :=
    if raw = [1] then .ok first else if raw = [2] then .ok second else .error "cannot parse invalid wire-format data"
  encodeAll := storedFrame
  decodeAll := decodeStored

def singleFrames : Startup where
  config := ⟨"h","h","local"⟩
  batchSize := 1
  queueCapacity := 8
  maxBytes := none
  engine := ⟨[],{},{},[],[],[]⟩

def eventSeen : AgentRuntime :=
  (AgentRuntime.start singleFrames {} {}).processEvent asciiStdlib plainLibrary steadyChance (fun _ => 0) {} {}

def eventBatch : DataBatch := eventSeen.batcher.queue.headD {}

def signalBatch : DataBatch :=
  finalizeBatch 1
    { newDataBatch { tenantID := "t", agentID := "a", hostID := "h", createdAt := 1 } with
      signals := [{ sequence := 1, signal := some {} }] }

def pairSetting : Setting := ⟨pairCodec eventBatch signalBatch,1024,asciiStdlib,plainLibrary,fun _ => 0⟩
def storeWith (s : Store) (batch : DataBatch) : Store := (appendBatch pairSetting.codec 1024 s (some batch) {}).1

def sendNext (r : AgentRuntime) (batch : DataBatch) : AgentRuntime :=
  { r with batcher := { r.batcher with queue := [] }, store := storeWith r.store batch, sending := none }

lemma sendNext_run (run : DaemonRun pairSetting r stored middle) (idle : middle.sending = none)
    (waiting : middle.batcher.queue = [batch]) (unknown : middle.store.batchPositions.lookup batch.getHeader.batchId = none)
    (success : (appendBatch pairSetting.codec 1024 middle.store (some batch) {}).2 = .ok position) :
    DaemonRun pairSetting r (stored ++ [⟨position,batch⟩]) (sendNext middle batch) := by
  have taken : DaemonRun pairSetting r stored
      { middle with sending := some batch, batcher := { middle.batcher with queue := [] } } := by
    simpa using run.step (.take idle waiting)
  exact taken.step (.append rfl unknown (Prod.ext rfl success))

def eventSent : AgentRuntime := sendNext eventSeen eventBatch

def asAgent : EnrollEffects where
  certificate := .ok ⟨"t","a","gateway:443",""⟩
  credentials := .ok (⟨"ca.pem","agent.pem","agent.key"⟩,true)

def enrolledRuntime : AgentRuntime := (eventSent.enroll {} asAgent).1
def enrolledAnswer : ControlAck := (eventSent.enroll {} asAgent).2
def signalSeen : AgentRuntime := enrolledRuntime.processSignals (fun _ => 0) { now := 1 } [{}]
def signalSent : AgentRuntime := sendNext signalSeen signalBatch
def storedEvent : StoredBatch := ⟨⟨1,32,1,padded 20 0⟩,eventBatch⟩
def storedSignal : StoredBatch := ⟨⟨1,89,1,padded 20 1⟩,signalBatch⟩

lemma event_run : DaemonRun pairSetting (.start singleFrames {} {}) [storedEvent] eventSent := by
  have success : (appendBatch pairSetting.codec 1024 eventSeen.store (some eventBatch) {}).2 = .ok storedEvent.position := by
    decide +kernel
  exact sendNext_run (.step .refl (.event steadyChance {} {} (by decide +kernel) (by decide +kernel))) rfl rfl rfl success

lemma signal_run : DaemonRun pairSetting enrolledRuntime [storedSignal] signalSent := by
  have seen : DaemonStep pairSetting enrolledRuntime [] signalSeen := .signals { now := 1 } [{}] (by decide +kernel)
  have success : (appendBatch pairSetting.codec 1024 signalSeen.store (some signalBatch) {}).2 = .ok storedSignal.position := by
    decide +kernel
  exact sendNext_run (.step .refl seen) (by decide +kernel) (by decide +kernel) (by decide +kernel) success

lemma enroll_eventSent : eventSent.enroll {} asAgent = (enrolledRuntime,enrolledAnswer) := by
  rw [enrolledRuntime,enrolledAnswer]

lemma enrolledAnswer_applied : enrolledAnswer.status = "applied" := by decide +kernel

/-- An event before the enrollment and a signal after it: the boundary is 2, the signal's batch is number 1,
so it is not let through. -/
theorem signal_stays_behind : DaemonRun pairSetting (.start singleFrames {} {}) [storedEvent] eventSent ∧
    eventSent.enroll {} asAgent = (enrolledRuntime,enrolledAnswer) ∧ enrolledAnswer.status = "applied" ∧
    DaemonRun pairSetting enrolledRuntime [storedSignal] signalSent ∧
    EnrollmentCertificate.Names ⟨"t","a","gateway:443",""⟩ storedSignal.batch ∧
    enrolledRuntime.pipeline.map (·.eligible storedSignal) = some false :=
  ⟨event_run,enroll_eventSent,enrolledAnswer_applied,signal_run,⟨rfl,rfl⟩,by decide +kernel⟩

theorem event_before_enrollment : ∃ u, enrolledRuntime.pipeline = some u ∧ ((u.eligible storedEvent = true ↔
          storedEvent ∈ [storedSignal] ∧ EnrollmentCertificate.Names ⟨"t","a","gateway:443",""⟩ eventBatch) ↔
        (EnrollmentCertificate.Names ⟨"t","a","gateway:443",""⟩ eventBatch → eventBatch.events = [] →
          (eventSent.store.cursor.event < eventBatch.getHeader.signalSeqStart ↔
            eventSent.store.cursor.signal < eventBatch.getHeader.signalSeqStart))) :=
  enrollment_boundary_iff pairSetting singleFrames event_run enroll_eventSent enrolledAnswer_applied rfl rfl signal_run
    (.inl (List.mem_singleton_self _))

end Sample
end

/-! Which batches a call hands to the exporter, and which of them it has handed over before. -/

section
open ByteWords

def exportOffers (u : Pipeline) (exporter : Exporter) (checkpoint : Checkpoint) :
    List StoredBatch → ExportState → List StoredBatch
  | [], _ => []
  | stored :: rest, s =>
    let offered := if !beforeCheckpoint stored.position checkpoint && !u.foreign stored.batch then [stored] else []
    match exportOne u exporter checkpoint stored s with
    | (_,.error _) => offered
    | (s,.ok ()) => offered ++ exportOffers u exporter checkpoint rest s

def callOffers (codec : Codec) (spool : Directory) (u : Pipeline) (exporter : Exporter) (s : ExportState) :
    List StoredBatch :=
  match readBatches codec spool ⟨exportLimit,u.fromSequence⟩ with
  | .error _ => []
  | .ok batches => exportOffers u exporter s.checkpoint batches s

section Loop
variable {u : Pipeline} {exporter : Exporter} {checkpoint : Checkpoint}

@[simp] lemma saveCheckpoint_attempts (s : ExportState) (position : Position) :
    (saveCheckpoint s position).1.attempts = s.attempts := by
  simp only [saveCheckpoint]
  split
  · rfl
  · split <;> rfl

lemma exportOne_offer (u : Pipeline) (exporter : Exporter) (checkpoint : Checkpoint) (stored : StoredBatch) (s : ExportState) :
    let offered := if !beforeCheckpoint stored.position checkpoint && !u.foreign stored.batch then [stored] else []
    (exportOne u exporter checkpoint stored s).1.attempts = s.attempts + offered.length ∧
      ∀ other ∈ (exportOne u exporter checkpoint stored s).1.exported, other ∈ s.exported ∨ other ∈ offered := by
  simp only [exportOne]
  by_cases skipped : beforeCheckpoint stored.position checkpoint
  · simp [skipped]
  by_cases foreign : u.foreign stored.batch
  · simp [skipped,foreign]
  · cases answer : exporter s.attempts stored.batch with
    | error err => simpa [skipped,foreign] using fun other => .inl
    | ok committed =>
      cases committed with
      | false => simpa [skipped,foreign] using fun other => .inl
      | true => simp [skipped,foreign]

lemma exportLoop_offers (page : List StoredBatch) (s : ExportState) :
    (exportLoop u exporter checkpoint page s).1.attempts = s.attempts + (exportOffers u exporter checkpoint page s).length ∧
      ∀ other ∈ (exportLoop u exporter checkpoint page s).1.exported,
        other ∈ s.exported ∨ other ∈ exportOffers u exporter checkpoint page s := by
  induction page generalizing s with
  | nil => exact ⟨rfl,fun _ => .inl⟩
  | cons stored rest ih =>
    obtain ⟨attempts,exported⟩ := exportOne_offer u exporter checkpoint stored s
    simp only [exportLoop,exportOffers]
    generalize exportOne u exporter checkpoint stored s = result at *
    obtain ⟨next,answer⟩ := result
    cases answer with
    | error err => exact ⟨attempts,exported⟩
    | ok =>
      obtain ⟨more,later⟩ := ih next
      refine ⟨?_,fun other mem => ?_⟩
      · have here : next.attempts = _ := attempts
        rw [more,here,List.length_append,Nat.add_assoc]
      rcases later other mem with old | after
      · exact (exported other old).imp id (List.mem_append_left _)
      · exact .inr (List.mem_append_right _ after)

lemma mem_exportOffers (mem : stored ∈ exportOffers u exporter checkpoint page s) :
    stored ∈ page ∧ beforeCheckpoint stored.position checkpoint = false ∧ u.foreign stored.batch = false := by
  induction page generalizing s with
  | nil => cases mem
  | cons head rest ih =>
    have here (found : stored ∈ if !beforeCheckpoint head.position checkpoint && !u.foreign head.batch then [head] else []) :
        stored = head ∧ beforeCheckpoint head.position checkpoint = false ∧ u.foreign head.batch = false := by
      split at found
      · simp_all
      · cases found
    simp only [exportOffers] at mem
    split at mem
    · obtain ⟨rfl,facts⟩ := here mem
      exact ⟨by simp,facts⟩
    rcases List.mem_append.mp mem with first | later
    · obtain ⟨rfl,facts⟩ := here first
      exact ⟨by simp,facts⟩
    · obtain ⟨inside,facts⟩ := ih later
      exact ⟨by simp [inside],facts⟩

lemma mem_exportOffers_of_skipped (skipped : ∀ other ∈ front, beforeCheckpoint other.position checkpoint = true)
    (kept : beforeCheckpoint stored.position checkpoint = false) (own : u.foreign stored.batch = false)
    {s : ExportState} : stored ∈ exportOffers u exporter checkpoint (front ++ stored :: back) s := by
  induction front with
  | nil =>
    simp only [List.nil_append,exportOffers,kept,own]
    split <;> simp
  | cons head front ih =>
    have turn : exportOne u exporter checkpoint head s = (s,.ok ()) := by
      simp [exportOne,skipped head (by simp)]
    simp only [List.cons_append,exportOffers,turn]
    exact List.mem_append_right _ (ih fun other mem => skipped other (by simp [mem]))

end Loop

section Calls
variable {codec : Codec} {spool : Directory} {u : Pipeline} {exporter : Exporter}

lemma exportCalls_add {s : ExportState} : exportCalls codec spool u exporter (calls + more) s =
      exportCalls codec spool u exporter more (exportCalls codec spool u exporter calls s) := by
  induction calls generalizing s with
  | zero => simp [exportCalls]
  | succ calls ih => rw [Nat.add_right_comm,exportCalls,ih,exportCalls]

lemma exportCalls_run (codec : Codec) (spool : Directory) (u : Pipeline) (exporter : Exporter) (calls : Nat)
    (s : ExportState) : ∃ moves, (∀ other ∈ spoolsRead moves, other = spool) ∧
      (⟨s,none⟩ : Running).run codec u exporter moves = ⟨exportCalls codec spool u exporter calls s,none⟩ := by
  induction calls generalizing s with
  | zero => exact ⟨[],by simp [spoolsRead],rfl⟩
  | succ calls ih =>
    obtain ⟨turns,called⟩ := run_call codec u exporter spool s
    obtain ⟨moves,reads,ran⟩ := ih (exportAvailable codec spool u exporter s).1
    refine ⟨(.call spool :: List.replicate turns .turn) ++ moves,?_,?_⟩
    · intro other mem
      simp only [spoolsRead,List.flatMap_append,List.flatMap_cons,List.mem_append] at mem
      rcases mem with (called | turned) | later
      · simpa [ExportMove.reads] using called
      · simp [ExportMove.reads] at turned
      · exact reads other later
    · rw [Running.run,List.foldl_append]
      rw [Running.run] at called
      rw [called]
      exact ran

lemma exportCalls_forward (codec : Codec) (placed : Placed spool) (u : Pipeline) (exporter : Exporter) (calls : Nat) (s : ExportState) :
    ¬ Earlier (exportCalls codec spool u exporter calls s).checkpoint.place s.checkpoint.place := by
  obtain ⟨moves,reads,ran⟩ := exportCalls_run codec spool u exporter calls s
  have forward := ((Safe.init codec u s).run exporter moves fun other mem => reads other mem ▸ placed).2
  rwa [ran] at forward

lemma exportCalls_committed (calls : Nat) (s : ExportState)
    (mem : stored ∈ (exportCalls codec spool u exporter calls s).exported) :
    stored ∈ s.exported ∨ ∃ page, readBatches codec spool ⟨exportLimit,u.fromSequence⟩ = .ok page ∧
      stored ∈ page ∧ u.foreign stored.batch = false := by
  induction calls generalizing s with
  | zero => exact .inl mem
  | succ calls ih =>
    rcases ih _ mem with before | found
    · rw [exportAvailable] at before
      split at before
      · exact .inl before
      rename_i page read
      rcases (exportLoop_offers page s).2 stored before with old | offered
      · exact .inl old
      · obtain ⟨inside,-,own⟩ := mem_exportOffers offered
        exact .inr ⟨page,read,inside,own⟩
    · exact .inr found

end Calls

/-- Once a batch is committed and the checkpoint saved at or past it, a later call hands it to the
exporter again exactly when the stored checkpoint is still on it. -/
theorem offered_again_iff (codec : Codec) (spool : Directory) (u : Pipeline) (exporter : Exporter)
    (checkpoint : Checkpoint) (outcome : Nat → Outcome) (placed : Placed spool) (calls more : Nat) (stored : StoredBatch)
    (reached : (exportCalls codec spool u exporter calls { checkpoint, outcome }).Reached stored) :
    stored ∈ callOffers codec spool u exporter (exportCalls codec spool u exporter (calls + more) { checkpoint, outcome }) ↔
      (exportCalls codec spool u exporter (calls + more) { checkpoint, outcome }).checkpoint.place = stored.position.place := by
  obtain ⟨committed,covered⟩ := reached
  rcases exportCalls_committed calls _ committed with old | ⟨page,read,inside,own⟩
  · cases old
  rw [exportCalls_add]
  have forward := exportCalls_forward codec placed u exporter more
    (exportCalls codec spool u exporter calls { checkpoint, outcome })
  generalize exportCalls codec spool u exporter calls { checkpoint, outcome } = before at *
  generalize exportCalls codec spool u exporter more before = s at *
  have covered : ¬ Earlier s.checkpoint.place stored.position.place := 
    fun back => covered (Earlier.of_not_gt forward back)
  simp only [callOffers,read]
  constructor
  · intro offered
    have kept := (mem_exportOffers offered).2.1
    rw [← Bool.not_eq_true,beforeCheckpoint_iff] at kept
    exact Earlier.eq_of_not covered kept
  · intro here
    have ascending : Ascending page :=
      ((placed.ascending codec).1.sublist List.filter_sublist).sublist (readBatches_page read).sublist
    obtain ⟨front,back,rfl⟩ := List.append_of_mem inside
    refine mem_exportOffers_of_skipped (fun other mem => ?_) ?_ own
    · rw [beforeCheckpoint_iff,here]
      exact (List.pairwise_append.mp ascending).2.2 other mem stored (by simp)
    · rw [← Bool.not_eq_true,beforeCheckpoint_iff,here]
      exact Earlier.irrefl _

lemma readBatches_numbered (bound : count ≤ 1000) :
    readBatches numberedCodec (numberedSpool count) ⟨exportLimit,ownPipeline.fromSequence⟩ =
      .ok (storedFrom numberedCodec 1 segmentHeaderSize (numberedBatches count)) := by
  rw [readBatches_eq (spoolBatches_numbered (by omega)),List.filter_eq_self.mpr (by simp [fromOn,ownPipeline]),
    List.take_of_length_le (by simpa [numberedBatches,pageLimit,exportLimit] using bound)]

lemma exportCalls_numbered (bound : count ≤ 1000) :
    exportCalls numberedCodec (numberedSpool count) ownPipeline (fun _ _ => .ok true) 1 { checkpoint := {} } =
      (exportLoop ownPipeline (fun _ _ => .ok true) {}
        (storedFrom numberedCodec 1 segmentHeaderSize (numberedBatches count)) { checkpoint := {} }).1 := by
  simp only [exportCalls,exportAvailable,readBatches_numbered bound]

/-- The first of two batches is behind the checkpoint and not handed over again. -/
theorem first_not_offered_again :
    storedAt 1 segmentHeaderSize (numbered 0) ∉ callOffers numberedCodec (numberedSpool 2) ownPipeline (fun _ _ => .ok true)
      (exportCalls numberedCodec (numberedSpool 2) ownPipeline (fun _ _ => .ok true) (1 + 0) { checkpoint := {} }) := by
  have ran := exportCalls_numbered (by decide : 2 ≤ 1000)
  have reached : (exportCalls numberedCodec (numberedSpool 2) ownPipeline (fun _ _ => .ok true) 1
      { checkpoint := {} }).Reached (storedAt 1 segmentHeaderSize (numbered 0)) := by
    rw [ran]
    exact ⟨by decide +kernel,by decide +kernel⟩
  rw [offered_again_iff numberedCodec (numberedSpool 2) ownPipeline _ {} _ (layout_numbered 2).placed 1 0 _ reached,
    Nat.add_zero,ran]
  decide +kernel

/-- The only batch of a spool is committed, the checkpoint is saved on it, and the next call hands it
to the exporter again. -/
theorem last_offered_again : (exportCalls numberedCodec (numberedSpool 1) ownPipeline (fun _ _ => .ok true) 1
      { checkpoint := {} }).Reached (storedAt 1 segmentHeaderSize (numbered 0)) ∧
    storedAt 1 segmentHeaderSize (numbered 0) ∈ callOffers numberedCodec (numberedSpool 1) ownPipeline (fun _ _ => .ok true)
      (exportCalls numberedCodec (numberedSpool 1) ownPipeline (fun _ _ => .ok true) 1 { checkpoint := {} }) := by
  simp only [callOffers,readBatches_numbered (by decide : 1 ≤ 1000),exportCalls_numbered (by decide : 1 ≤ 1000)]
  exact ⟨⟨by decide +kernel,by decide +kernel⟩,by decide +kernel⟩
end

/-! Enrollment with history: the pipeline starts at the least first number of the segment rows, and
still compares every batch with the enrolled identity and the stored checkpoint. -/
open GoText Telemetry

lemma foldl_least_le (first : UInt64) (rest : List UInt64) (bound : UInt64) :
    rest.foldl (fun least next => if next < least then next else least) first ≤ bound ↔
      ∃ number ∈ first :: rest, number ≤ bound := by
  induction rest generalizing first with
  | nil => simp
  | cons next rest ih =>
    rw [List.foldl_cons,ih]
    have either : (if next < first then next else first) ≤ bound ↔ first ≤ bound ∨ next ≤ bound := by
      simp only [UInt64.lt_iff_toNat_lt,UInt64.le_iff_toNat_le]
      split <;> omega
    simp [either,or_assoc]

lemma oldestSequence_le_iff (d : Disk) (bound : UInt64) :
    oldestSequence d ≤ bound ↔ d.segments.entries = [] ∨ ∃ row ∈ d.segments.entries, row.2.firstSequence ≤ bound := by
  rw [oldestSequence]
  cases rows : d.segments.entries with
  | nil => simp
  | cons row rest =>
    simp only [List.map_cons,foldl_least_le]
    simp

/-- The pipeline lets a batch through if it passes the sequence, identity and checkpoint tests and its
turn calls the exporter. -/
structure Uploads (u : Pipeline) (checkpoint : Checkpoint) (b : StoredBatch) : Prop where
  eligible : u.eligible b = true
  pending : beforeCheckpoint b.position checkpoint = false
  offered : ∀ (exporter : Exporter) (s : ExportState), (exportOne u exporter checkpoint b s).1.attempts = s.attempts + 1

lemma uploads_iff {u : Pipeline} {checkpoint : Checkpoint} {b : StoredBatch} :
    Uploads u checkpoint b ↔ u.eligible b = true ∧ beforeCheckpoint b.position checkpoint = false := by
  constructor
  · rintro ⟨eligible,pending,-⟩
    exact ⟨eligible,pending⟩
  rintro ⟨eligible,pending⟩
  refine ⟨eligible,pending,fun exporter s => ?_⟩
  have own : u.foreign b.batch = false := by
    simp only [Pipeline.eligible,Bool.and_eq_true,Bool.not_eq_true'] at eligible
    exact eligible.2
  have turn := (exportOne_offer u exporter checkpoint b s).1
  simpa [pending,own] using turn

/-- After an enrollment with history a batch is uploaded exactly when it carries the enrolled identity,
no other row's first number keeps it out, and the checkpoint is not past it. -/
theorem history_upload_iff {r e : AgentRuntime} {request : EnrollRequest} {io : EnrollEffects} {ack : ControlAck}
    {certificate : EnrollmentCertificate} (enrolled : r.enroll request io = (e,ack))
    (applied : ack.status = "applied") (issued : io.certificate = .ok certificate) (history : request.uploadHistory = true)
    (checkpoint : Checkpoint) (b : StoredBatch) : ∃ u, e.pipeline = some u ∧ (Uploads u checkpoint b ↔
        certificate.Names b.batch ∧ (r.store.disk.segments.entries = [] ∨
          ∃ row ∈ r.store.disk.segments.entries, row.2.firstSequence ≤ b.position.batchSequence) ∧
        ¬ Earlier b.position.place checkpoint.place) := by
  obtain ⟨named,-,-,pipeline⟩ := enroll_applied enrolled applied issued
  refine ⟨_,pipeline,?_⟩
  rw [uploads_iff,← oldestSequence_le_iff,← beforeCheckpoint_iff,Bool.not_eq_true]
  simp only [Pipeline.eligible,Pipeline.foreign,fromOn,enrollmentBoundary,history,storeStats,EnrollmentCertificate.Names]
  simp [named,and_assoc,and_left_comm]

def asSelf : EnrollEffects := { asAgent with certificate := .ok ⟨"local","h","gateway:443",""⟩ }

theorem event_uploaded : ∃ u, (eventSent.enroll { uploadHistory := true } asSelf).1.pipeline = some u ∧
      (Uploads u {} storedEvent ↔ EnrollmentCertificate.Names ⟨"local","h","gateway:443",""⟩ eventBatch ∧
        (eventSent.store.disk.segments.entries = [] ∨
          ∃ row ∈ eventSent.store.disk.segments.entries, row.2.firstSequence ≤ 1) ∧ ¬ Earlier (1,32) (0,0)) := by
  have answered : ∀ result : AgentRuntime × ControlAck, result = (result.1,result.2) := fun _ => rfl
  exact history_upload_iff (answered _) (by decide +kernel) rfl rfl {} storedEvent

/-- The event of the time before the enrollment carries the daemon's own identity: the pipeline moves its
checkpoint over the batch and does not call the exporter. -/
theorem history_skipped : DaemonRun pairSetting (.start singleFrames {} {}) [storedEvent] eventSent ∧
    spoolBatches pairSetting.codec eventSent.store.disk.spool = .ok [storedEvent] ∧
    (eventSent.enroll { uploadHistory := true } asAgent).2.status = "applied" ∧
    (eventSent.enroll { uploadHistory := true } asAgent).1.pipeline.map (fun u =>
      let turn := exportOne u (fun _ _ => .ok true) {} storedEvent { checkpoint := {} }
      (u.fromSequence,u.eligible storedEvent,turn.1.attempts,turn.1.checkpoint)) = some (1,false,0,⟨1,32,padded 20 0⟩) :=
  ⟨event_run,by decide +kernel,by decide +kernel,by decide +kernel⟩

end SysArmor.Daemon
