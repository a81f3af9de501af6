import SysArmor.GatewayUpload

/-! What an upload does to the sessions: recording a batch moves the cursor of one session, saving
copies the sessions into the database, and processing leaves them alone. -/
namespace SysArmor.Gateway
open Proto Manager Ingest Rows

section

section
open GoText

def sessionRows (st : Store) : Option (List AgentSession) := st.backend.map (·.agentSessions)
def sessionKey (session : AgentSession) : String × String := (orElse session.tenantID "default",session.sessionID)
def persistable (session : AgentSession) : Bool := session.sessionID ≠ "" && session.agentID ≠ ""

def savedRows (memory rows : List AgentSession) : List AgentSession :=
  project sessionKey (memory.filter persistable) rows

def SameSessions (st st' : Store) : Prop :=
  st'.agentSessions = st.agentSessions ∧ sessionRows st' = sessionRows st

lemma SameSessions.refl (st : Store) : SameSessions st st := ⟨rfl,rfl⟩

lemma SameSessions.trans (first : SameSessions st st') (second : SameSessions st' st'') : SameSessions st st'' :=
  ⟨second.1.trans first.1,second.2.trans first.2⟩

structure KeepsSessions (st st' : Store) : Prop where
  memory : st'.agentSessions = st.agentSessions
  rows : sessionRows st' = sessionRows st ∨ sessionRows st' = (sessionRows st).map (savedRows st.agentSessions)

lemma SameSessions.keeps (same : SameSessions st st') : KeepsSessions st st' := ⟨same.1,.inl same.2⟩

lemma sessionRows_save (st : Store) :
    sessionRows (st.save (none : Option ε)).1 = (sessionRows st).map (savedRows st.agentSessions) := by
  simp only [Store.save,sessionRows,Option.map_map]
  rfl

lemma save_agentSessions (st : Store) (failure : Option ε) : (st.save failure).1.agentSessions = st.agentSessions := by
  cases failure <;> rfl

lemma save_of_some (st : Store) (failure : ε) : st.save (some failure) = (st,some failure) := rfl

lemma keepsSessions_save (st : Store) (failure : Option ε) : KeepsSessions st (st.save failure).1 := by
  cases failure with
  | some failure => exact (SameSessions.refl st).keeps
  | none => exact ⟨rfl,.inr (sessionRows_save st)⟩

lemma SameSessions.keepsSessions (same : SameSessions st st') (keeps : KeepsSessions st' st'') : KeepsSessions st st'' := by
  refine ⟨keeps.memory.trans same.1,?_⟩
  rw [← same.1,← same.2]
  exact keeps.rows

lemma sameSessions_addAgent {st : Store} {agent : AgentIdentity} : SameSessions st (st.addAgent agent) := by
  simp only [Store.addAgent]
  split <;> exact ⟨rfl,rfl⟩

lemma sameSessions_bindPeer (bound : bindPeer st peer hostID version = .ok st') : SameSessions st st' := by
  obtain ⟨agents,rfl⟩ := bindPeer_shape bound
  exact ⟨rfl,rfl⟩

lemma sameSessions_foldl (step : Store → α → Store) (keeps : ∀ st item, SameSessions st (step st item)) (items : List α)
    (st : Store) : SameSessions st (items.foldl step st) := by
  induction items generalizing st with
  | nil => exact SameSessions.refl st
  | cons item items ih => exact (keeps st item).trans (ih (step st item))

variable {p : Processor} {calls : ProcessCalls ε}
variable {batch : DataBatch} {r : Runtime}

lemma sameSessions_addBatch : SameSessions st (p.addBatch st batch) := by
  unfold Processor.addBatch
  split
  · apply (sameSessions_foldl Store.addEvent (fun _ _ => ⟨rfl,rfl⟩) _ st).trans
    exact sameSessions_foldl (Store.addSignal p.digest) (fun _ _ => ⟨rfl,rfl⟩) _ _
  · exact SameSessions.refl st

lemma sameSessions_storeDerived (p : Processor) (st : Store) (scope : TouchedScope) (analysis : Analysis) :
    SameSessions st (p.storeDerived st scope analysis) := by
  unfold Processor.storeDerived
  split <;> exact ⟨rfl,rfl⟩

lemma sameSessions_recomputeTouchedScopes (scopes : List TouchedScope) (st : Store) :
    SameSessions st (p.recomputeTouchedScopes calls batch upper scopes st).1 := by
  induction scopes generalizing st with
  | nil => exact SameSessions.refl st
  | cons scope scopes ih =>
    have stored := sameSessions_storeDerived p st scope (p.analyzeScope st batch upper scope)
    have rest := ih (p.storeDerived st scope (p.analyzeScope st batch upper scope))
    unfold Processor.recomputeTouchedScopes
    split
    · exact SameSessions.refl st
    simp only []
    split
    · rename_i failed
      rw [failed] at rest
      exact stored.trans rest
    rename_i derived
    rw [derived] at rest
    exact stored.trans rest

lemma sameSessions_derive (p : Processor) (calls : ProcessCalls ε) (st : Store) (batch : DataBatch) :
    SameSessions st (p.derive calls st batch).1 :=
  ((sameSessions_addAgent).trans (sameSessions_addBatch)).trans (sameSessions_recomputeTouchedScopes _ _)

lemma keepsSessions_finish : KeepsSessions st (p.finish calls batch st derived).1 := by
  unfold Processor.finish
  split
  · exact (SameSessions.refl st).keeps
  simp only []
  have counted : SameSessions st (st.recordDataBatchIngest batch.events.length batch.signals.length
    derived.cloudSignals derived.incidents calls.latencyMs) := ⟨rfl,rfl⟩
  have saved := counted.keepsSessions (keepsSessions_save _ calls.save)
  split
  · rename_i failed
    rwa [failed] at saved
  rename_i succeeded
  rw [succeeded] at saved
  split <;> exact saved

lemma keepsSessions_process (p : Processor) (calls : ProcessCalls ε) (st : Store) (batch : DataBatch) :
    KeepsSessions st (p.process calls st batch).1 := by
  unfold Processor.process
  split
  · exact (SameSessions.refl st).keeps
  have derived := sameSessions_derive p calls st batch
  split
  · rename_i failed
    rw [failed] at derived
    exact derived.keeps
  rename_i succeeded
  rw [succeeded] at derived
  exact derived.keepsSessions (keepsSessions_finish)

lemma keepsSessions_processLocal (r : Runtime) (st : Store) (upload : Upload) :
    KeepsSessions st (r.processLocal st upload).1 := by
  unfold Runtime.processLocal
  split
  · exact (SameSessions.refl st).keeps
  rename_i p _
  have kept := keepsSessions_process p upload.processing st upload.batch
  split
  · rename_i failed
    rwa [failed] at kept
  · rename_i succeeded
    rwa [succeeded] at kept

lemma sameSessions_admit (r : Runtime) (admitted : r.admit st upload = .ok st') : SameSessions st st' := by
  unfold Runtime.admit at admitted
  split at admitted
  · cases admitted
  split at admitted
  · cases admitted
  · exact sameSessions_bindPeer admitted

def Runtime.sessionOf (r : Runtime) (batch : DataBatch) : Option String :=
  let agent := (agentIdentityFromDataBatch batch).normalized
  if agent.valid then some (agentSessionID r.digest agent.tenantID agent.agentID) else none

structure Identified (r : Runtime) (session : AgentSession) : Prop where
  named : session.sessionID = agentSessionID r.digest session.tenantID session.agentID
  tenantTrimmed : trimSpace session.tenantID = session.tenantID
  tenantPresent : session.tenantID ≠ ""
  agentTrimmed : trimSpace session.agentID = session.agentID
  agentPresent : session.agentID ≠ ""

lemma normalized_agent_trimmed (agent : AgentIdentity) : trimSpace agent.normalized.agentID = agent.normalized.agentID :=
  trimSpace_trimSpace _

lemma normalized_tenant (agent : AgentIdentity) :
    trimSpace agent.normalized.tenantID = agent.normalized.tenantID ∧ agent.normalized.tenantID ≠ "" := by
  simp only [AgentIdentity.normalized]
  split
  · decide
  · rename_i present
    exact ⟨trimSpace_trimSpace _,present⟩

lemma sessionOf_identified {session : AgentSession} (identified : Identified r session)
    (tenant : session.tenantID = batch.getHeader.tenantId) (agent : session.agentID = batch.getHeader.agentId) :
    r.sessionOf batch = some session.sessionID := by
  have tenantTrimmed := identified.tenantTrimmed
  have tenantPresent := identified.tenantPresent
  have agentTrimmed := identified.agentTrimmed
  have agentPresent := identified.agentPresent
  rw [tenant] at tenantTrimmed tenantPresent
  rw [agent] at agentTrimmed agentPresent
  rw [identified.named,tenant,agent]
  simp [Runtime.sessionOf,agentIdentityFromDataBatch,AgentIdentity.normalized,AgentIdentity.valid,tenantTrimmed,
    tenantPresent,agentTrimmed,agentPresent]

lemma sessionRows_recordAppend (r : Runtime) (st : Store) (upload : Upload) :
    sessionRows (r.recordAppend st upload) = sessionRows st := by
  simp only [Runtime.recordAppend,Store.recordDataBatchAppend]
  split <;> rfl

lemma recordAppend_of_blank (blank : r.sessionOf upload.batch = none) : r.recordAppend st upload = st := by
  simp only [Runtime.sessionOf] at blank
  simp only [Runtime.recordAppend,Store.recordDataBatchAppend]
  split at blank
  · cases blank
  · rename_i invalid
    simp [invalid]

lemma recordAppend_agentSessions (st : Store) (session : r.sessionOf upload.batch = some name) :
    ∃ fresh, Identified r fresh ∧ fresh.sessionID = name ∧ fresh.lastAckCursor = upload.batch.getHeader.batchId ∧
      (r.recordAppend st upload).agentSessions = upsert (fun existing => existing.sessionID = name)
        (fun existing => existing.recordBatch upload.batch.getHeader.batchId upload.transport upload.now) fresh
        st.agentSessions := by
  have tenant := normalized_tenant (agentIdentityFromDataBatch upload.batch)
  have trimmed := normalized_agent_trimmed (agentIdentityFromDataBatch upload.batch)
  simp only [Runtime.sessionOf] at session
  simp only [Runtime.recordAppend,Store.recordDataBatchAppend]
  generalize (agentIdentityFromDataBatch upload.batch).normalized = agent at *
  split at session
  · rename_i valid
    obtain rfl := Option.some.inj session
    have present : agent.agentID ≠ "" := by
      rw [AgentIdentity.valid,decide_eq_true_eq,trimmed] at valid
      exact valid
    simp only [valid,Bool.not_true,Bool.false_eq_true,if_false]
    exact ⟨dataSession r.digest agent upload.batch.getHeader.batchId upload.transport upload.now,
      ⟨rfl,tenant.1,tenant.2,trimmed,present⟩,rfl,rfl,rfl⟩
  · cases session
end

/-! Sequences of uploads, with a record of the attempts at processing a batch. The record says which
attempts a session's cursor may still stand for, and from that which uploads are safe to send. -/

/-- One time a batch was taken by the queue and not found to be a duplicate: whether the save that
follows succeeded, and whether the processor then finished. -/
structure Attempt where
  batch : DataBatch
  (saved completed : Bool)
  deriving DecidableEq

structure Uploads where
  store : Store
  attempts : List Attempt := []

namespace Runtime
variable (r : Runtime)

def handsOff (st : Store) (upload : Upload) : Bool :=
  (validateUploadIdentity upload.batch).isNone && !upload.duplicate st && (upload.appendRaw (rawMessage upload.batch)).isNone

def processes (st : Store) (upload : Upload) : Bool :=
  match r.localProcessor with
  | none => false
  | some p => (p.process upload.processing ((r.recordAppend st upload).save upload.save).1 upload.batch).2.isOk

def attempt (st : Store) (upload : Upload) : Option Attempt :=
  match r.admit st upload with
  | .error _ => none
  | .ok st => if handsOff st upload then
      some ⟨upload.batch,upload.save.isNone,upload.save.isNone && r.processes st upload⟩ else none

def step (g : Uploads) (upload : Upload) : Uploads × Except Failure DataAck :=
  let (st,reply) := r.handleBatch g.store upload
  (⟨st,(r.attempt g.store upload).toList ++ g.attempts⟩,reply)

def standing (session batchID : String) : List Attempt → List Attempt
  | [] => []
  | attempt :: earlier =>
    if r.sessionOf attempt.batch = some session && attempt.batch.getHeader.batchId = batchID then
      attempt :: standing session batchID earlier
    else if r.sessionOf attempt.batch = some session && attempt.batch.getHeader.batchId ≠ "" && attempt.saved then []
    else standing session batchID earlier

/-- The condition on an upload with a batch id: the standing attempts under that id on its session
were all of this batch, and all of them were completed. -/
def mayUpload (g : Uploads) (upload : Upload) : Bool :=
  match r.sessionOf upload.batch with
  | none => true
  | some session => upload.batch.getHeader.batchId = "" ||
      (r.standing session upload.batch.getHeader.batchId g.attempts).all fun attempt =>
        attempt.completed && attempt.batch = upload.batch

def mayUploadAll (g : Uploads) : List Upload → Bool
  | [] => true
  | upload :: uploads => r.mayUpload g upload && mayUploadAll (r.step g upload).1 uploads

end Runtime

def acknowledges : Except Failure DataAck → Bool
  | .ok ack => ack.status = .accepted || ack.status = .duplicate
  | .error _ => false

structure Answered where
  upload : Upload
  reply : Except Failure DataAck
  after : Uploads

def Runtime.answers (r : Runtime) (g : Uploads) : List Upload → List Answered
  | [] => []
  | upload :: uploads =>
    ⟨upload,(r.step g upload).2,(r.step g upload).1⟩ :: r.answers (r.step g upload).1 uploads

/-- Whether the last attempt at a batch was completed; `none` when there was none. -/
def Uploads.lastAttempt (g : Uploads) (batch : DataBatch) : Option Bool :=
  (g.attempts.find? (·.batch = batch)).map (·.completed)

structure Fresh (g : Uploads) : Prop where
  attempts : g.attempts = []
  sessions : g.store.agentSessions = []
  rows : ∀ table ∈ sessionRows g.store, table = []

variable {r : Runtime}

lemma mayUpload_iff {g : Uploads} {upload : Upload} (session : r.sessionOf upload.batch = some name)
    (named : upload.batch.getHeader.batchId ≠ "") :
    r.mayUpload g upload ↔ ∀ attempt ∈ r.standing name upload.batch.getHeader.batchId g.attempts,
      attempt.completed ∧ attempt.batch = upload.batch := by
  unfold Runtime.mayUpload
  rw [session]
  dsimp only
  rw [decide_eq_false named,Bool.false_or,List.all_eq_true]
  apply forall₂_congr
  intro attempt _
  rw [Bool.and_eq_true,decide_eq_true_eq]

lemma acknowledges_error (batch : DataBatch) (cause : UploadError) :
    acknowledges (.ok (appendAck batch (.error cause))) = false := by
  cases cause with
  | invalidUpload message => rfl
  | failed failure =>
    simp only [appendAck]
    split <;> rfl

lemma keepsSessions_handOff (r : Runtime) (st : Store) (upload : Upload) :
    KeepsSessions ((r.recordAppend st upload).save upload.save).1 (r.handOff st upload).1 := by
  unfold Runtime.handOff
  split
  · rename_i failed
    rw [failed]
    exact (SameSessions.refl _).keeps
  rename_i succeeded
  rw [succeeded]
  exact keepsSessions_processLocal r _ upload

lemma acknowledges_handOff (mode : r.localProcessor = some p)
    (acknowledged : acknowledges (.ok (appendAck upload.batch (r.handOff st upload).2))) :
    (upload.save.isNone && r.processes st upload) = true := by
  unfold Runtime.handOff at acknowledged
  cases save : upload.save with
  | some failure =>
    rw [save,save_of_some,acknowledges_error] at acknowledged
    cases acknowledged
  | none =>
    simp only [save,Store.save,Runtime.processLocal,mode] at acknowledged
    simp only [Runtime.processes,mode,save,Store.save,Option.isNone_none,Bool.true_and]
    split at acknowledged
    · rw [acknowledges_error] at acknowledged
      cases acknowledged
    rename_i finished
    rw [finished]
    rfl

lemma step_cases (mode : r.localProcessor = some p) (g : Uploads) (upload : Upload) :
    (SameSessions g.store (r.step g upload).1.store ∧ (r.step g upload).1.attempts = g.attempts ∧
      acknowledges (r.step g upload).2 = false) ∨
    (∃ st, SameSessions g.store st ∧ validateUploadIdentity upload.batch = none ∧ upload.duplicate st ∧
      (r.step g upload).1.attempts = g.attempts ∧ (r.step g upload).1.store = ((r.recordAppend st upload).save upload.save).1) ∨
    (∃ st completed, SameSessions g.store st ∧
      (r.step g upload).1.attempts = ⟨upload.batch,upload.save.isNone,completed⟩ :: g.attempts ∧
      KeepsSessions ((r.recordAppend st upload).save upload.save).1 (r.step g upload).1.store ∧
      (acknowledges (r.step g upload).2 → completed)) := by
  cases admitted : r.admit g.store upload with
  | error denied =>
    refine .inl ?_
    simp [Runtime.step,Runtime.handleBatch,Runtime.attempt,admitted,SameSessions.refl,acknowledges]
  | ok st =>
    have same := sameSessions_admit r admitted
    simp only [Runtime.step,Runtime.handleBatch,Runtime.attempt,admitted]
    cases valid : validateUploadIdentity upload.batch with
    | some invalid =>
      refine .inl ⟨?_,?_,?_⟩
      · simpa [Runtime.appendDataBatchWithTransport,valid] using same
      · simp [Runtime.handsOff,valid]
      · simp [Runtime.appendDataBatchWithTransport,valid,acknowledges_error]
    | none =>
      by_cases repeated : upload.duplicate st
      · refine .inr (.inl ⟨st,same,rfl,repeated,by simp [Runtime.handsOff,repeated],?_⟩)
        simp only [Runtime.appendDataBatchWithTransport,valid,repeated,if_true]
        cases upload.save <;> rfl
      cases raw : upload.appendRaw (rawMessage upload.batch) with
      | some failure =>
        refine .inl ⟨?_,?_,?_⟩
        · simpa [Runtime.appendDataBatchWithTransport,valid,repeated,raw] using same
        · simp [Runtime.handsOff,raw]
        · simp [Runtime.appendDataBatchWithTransport,valid,repeated,raw,acknowledges_error]
      | none =>
        have taken : Runtime.handsOff st upload := by simp [Runtime.handsOff,valid,repeated,raw]
        refine .inr (.inr ⟨st,_,same,by simp only [taken,if_true]; rfl,?_,?_⟩)
        all_goals simp only [Runtime.appendDataBatchWithTransport,valid,repeated,raw,Bool.false_eq_true,if_false]
        · exact keepsSessions_handOff r st upload
        · exact acknowledges_handOff mode

section Standing
variable {r : Runtime} {earlier : List Attempt} {session batchID : String}

lemma standing_kept (attempt : Attempt) (harmless : attempt.batch.getHeader.batchId = "" ∨ attempt.saved = false)
    (stands : r.standing session batchID earlier ≠ []) : r.standing session batchID (attempt :: earlier) ≠ [] := by
  rw [Runtime.standing]
  split
  · simp
  split
  · rcases harmless with harmless | harmless <;> simp_all
  · exact stands

lemma find?_of_standing (stands : r.standing session batchID attempts = attempt :: rest) :
    attempts.find? (fun made => r.sessionOf made.batch = some session && made.batch.getHeader.batchId = batchID) =
      some attempt := by
  induction attempts with
  | nil => cases stands
  | cons head earlier ih =>
    rw [Runtime.standing] at stands
    split at stands
    · rename_i hit
      rw [List.find?_cons,hit,(List.cons.inj stands).1]
    rename_i miss
    split at stands
    · cases stands
    rw [List.find?_cons]
    simp only [miss]
    exact ih stands

lemma lastAttempt_of_standing {g : Uploads} {batch : DataBatch} (own : r.sessionOf batch = some session)
    (stands : r.standing session batch.getHeader.batchId g.attempts ≠ [])
    (all : ∀ attempt ∈ r.standing session batch.getHeader.batchId g.attempts, attempt.completed ∧ attempt.batch = batch) :
    g.lastAttempt batch = some true := by
  obtain ⟨last,rest,shape⟩ := List.exists_cons_of_ne_nil stands
  obtain ⟨completed,same⟩ := all last (by simp [shape])
  obtain ⟨_,later,old,split,misses⟩ := List.find?_eq_some_iff_append.mp (find?_of_standing shape)
  have found : g.attempts.find? (·.batch = batch) = some last := by
    rw [List.find?_eq_some_iff_append]
    refine ⟨by simpa using same,later,old,split,?_⟩
    intro made mem
    have missed := misses made mem
    by_contra hit
    obtain rfl : made.batch = batch := by simpa using hit
    simp [own] at missed
  simp [Uploads.lastAttempt,found,completed]

end Standing
end

/-! When an acknowledged batch has been processed. The session's cursor moves to a batch before the
batch is saved and processed, so after a failure there the retry finds its own id on the session and
is acknowledged as a duplicate. As long as no batch is sent again in that situation, every
acknowledged batch has been processed, and its last attempt was the one that succeeded. -/
open List

def Live (r : Runtime) (attempts : List Attempt) (session : AgentSession) : Prop :=
  session.lastAckCursor ≠ "" → r.standing session.sessionID session.lastAckCursor attempts ≠ []

lemma Live.kept (live : Live r earlier session)
    (harmless : attempt.batch.getHeader.batchId = "" ∨ attempt.saved = false) : Live r (attempt :: earlier) session :=
  fun present => standing_kept attempt harmless (live present)

structure MemoryTracked (r : Runtime) (memory : List AgentSession) (attempts : List Attempt) : Prop where
  identified : ∀ session ∈ memory, Identified r session
  distinct : (memory.map (·.sessionID)).Nodup
  live : ∀ session ∈ memory, Live r attempts session

def Covers (memory : List AgentSession) (row : AgentSession) : Prop :=
  ∃ session ∈ memory, persistable session ∧ sessionKey session = sessionKey row

structure RowsTracked (r : Runtime) (memory table : List AgentSession) (attempts : List Attempt) : Prop where
  identified : ∀ row ∈ table, Identified r row
  covered : ∀ row ∈ table, Covers memory row
  live : ∀ row ∈ table, Live r attempts row

structure Tracked (r : Runtime) (st : Store) (attempts : List Attempt) : Prop where
  memory : MemoryTracked r st.agentSessions attempts
  rows : ∀ table ∈ sessionRows st, RowsTracked r st.agentSessions table attempts

lemma mem_savedRows (covered : ∀ row ∈ table, Covers memory row) (mem : row ∈ savedRows memory table) :
    row ∈ memory ∧ persistable row := by
  rcases mem_project mem with written | ⟨old,unwritten⟩
  · exact mem_filter.mp written
  · obtain ⟨session,listed,kept,same⟩ := covered row old
    exact absurd same (unwritten session (mem_filter.mpr ⟨listed,kept⟩))

lemma rowsTracked_saved (tracked : MemoryTracked r memory attempts) (covered : ∀ row ∈ table, Covers memory row) :
    RowsTracked r memory (savedRows memory table) attempts where
  identified row mem := tracked.identified row (mem_savedRows covered mem).1
  covered row mem := ⟨row,(mem_savedRows covered mem).1,(mem_savedRows covered mem).2,rfl⟩
  live row mem := tracked.live row (mem_savedRows covered mem).1

lemma Tracked.same (tracked : Tracked r st attempts) (same : SameSessions st st') : Tracked r st' attempts := by
  refine ⟨same.1 ▸ tracked.memory,?_⟩
  rw [same.1,same.2]
  exact tracked.rows

lemma Tracked.keeps (tracked : Tracked r st attempts) (keeps : KeepsSessions st st') : Tracked r st' attempts := by
  refine ⟨keeps.memory ▸ tracked.memory,?_⟩
  intro table saved
  rw [keeps.memory]
  rcases keeps.rows with same | same
  · exact tracked.rows table (same ▸ saved)
  rw [same] at saved
  obtain ⟨old,listed,rfl⟩ := Option.map_eq_some_iff.mp saved
  exact rowsTracked_saved tracked.memory (tracked.rows old listed).covered

lemma tracked_save {failure : Option ε} (memory : MemoryTracked r st.agentSessions attempts)
    (covered : ∀ table ∈ sessionRows st, ∀ row ∈ table, Covers st.agentSessions row)
    (kept : ∀ cause, failure = some cause → ∀ table ∈ sessionRows st,
      (∀ row ∈ table, Identified r row) ∧ ∀ row ∈ table, Live r attempts row) : Tracked r (st.save failure).1 attempts := by
  refine ⟨(save_agentSessions st failure).symm ▸ memory,?_⟩
  rw [save_agentSessions]
  intro table listed
  cases failure with
  | none =>
    rw [sessionRows_save] at listed
    obtain ⟨old,present,rfl⟩ := Option.map_eq_some_iff.mp listed
    exact rowsTracked_saved memory (covered old present)
  | some cause =>
    obtain ⟨identified,live⟩ := kept cause rfl table listed
    exact ⟨identified,covered table listed,live⟩

variable {r : Runtime} {upload : Upload}

lemma memoryTracked_recordAppend (tracked : MemoryTracked r st.agentSessions attempts)
    (others : ∀ name batchID, r.sessionOf upload.batch ≠ some name →
      r.standing name batchID attempts ≠ [] → r.standing name batchID attempts' ≠ [])
    (own : ∀ name, r.sessionOf upload.batch = some name → upload.batch.getHeader.batchId ≠ "" →
      r.standing name upload.batch.getHeader.batchId attempts' ≠ [])
    (unnamed : upload.batch.getHeader.batchId = "" → ∀ name batchID,
      r.standing name batchID attempts ≠ [] → r.standing name batchID attempts' ≠ []) :
    MemoryTracked r (r.recordAppend st upload).agentSessions attempts' := by
  cases session : r.sessionOf upload.batch with
  | none =>
    rw [recordAppend_of_blank session]
    refine ⟨tracked.identified,tracked.distinct,?_⟩
    intro existing mem cursor
    exact others _ _ (by simp [session]) (tracked.live existing mem cursor)
  | some name =>
    obtain ⟨fresh,identified,named,cursor,updated⟩ := recordAppend_agentSessions st session
    have keeps : ∀ existing ∈ st.agentSessions, existing.sessionID = name →
        (existing.recordBatch upload.batch.getHeader.batchId upload.transport upload.now).sessionID = name :=
      fun _ _ named => named
    rw [updated]
    refine ⟨?_,upsert_map_nodup keeps named tracked.distinct,?_⟩
    · intro existing mem
      rcases mem_upsert_key tracked.distinct mem with ⟨old,_⟩ | ⟨old,listed,_,rfl⟩ | rfl
      · exact tracked.identified existing old
      · obtain ⟨one,two,three,four,five⟩ := tracked.identified old listed
        exact ⟨one,two,three,four,five⟩
      · exact identified
    · intro existing mem present
      rcases mem_upsert_key tracked.distinct mem with ⟨old,ne⟩ | ⟨old,listed,same,rfl⟩ | rfl
      · refine others _ _ ?_ (tracked.live existing old present)
        rw [session]
        exact fun same => ne (Option.some.inj same).symm
      · by_cases empty : upload.batch.getHeader.batchId = ""
        · have unchanged : (old.recordBatch upload.batch.getHeader.batchId upload.transport upload.now).lastAckCursor =
            old.lastAckCursor := by simp [AgentSession.recordBatch,orElse,empty]
          rw [unchanged] at present ⊢
          exact unnamed empty _ _ (tracked.live old listed present)
        · have moved : (old.recordBatch upload.batch.getHeader.batchId upload.transport upload.now).lastAckCursor =
            upload.batch.getHeader.batchId := by simp [AgentSession.recordBatch,orElse,empty]
          rw [moved,keeps old listed same]
          exact own name session empty
      · rw [cursor] at present ⊢
        rw [named]
        exact own name session present

lemma covers_recordAppend (r : Runtime) (upload : Upload) (covered : Covers st.agentSessions row) :
    Covers (r.recordAppend st upload).agentSessions row := by
  cases session : r.sessionOf upload.batch with
  | none => rwa [recordAppend_of_blank session]
  | some name =>
    obtain ⟨fresh,_,_,_,updated⟩ := recordAppend_agentSessions st session
    obtain ⟨existing,listed,kept,same⟩ := covered
    -- the update changes neither the key of a session nor whether it is saved
    obtain ⟨after,mem,stable⟩ : ∃ after ∈ (r.recordAppend st upload).agentSessions,
        (persistable after,sessionKey after) = (persistable existing,sessionKey existing) := by
      rw [updated]
      exact exists_mem_upsert (fun session => (persistable session,sessionKey session)) (fun _ _ _ => rfl) listed
    rw [Prod.mk.injEq] at stable
    exact ⟨after,mem,stable.1 ▸ kept,stable.2.trans same⟩

lemma standing_of_duplicate (tracked : Tracked r st attempts)
    (valid : validateUploadIdentity upload.batch = none) (repeated : upload.duplicate st) :
    upload.batch.getHeader.batchId ≠ "" ∧ ∃ name, r.sessionOf upload.batch = some name ∧
      r.standing name upload.batch.getHeader.batchId attempts ≠ [] := by
  simp only [Upload.duplicate,isDuplicateBatch,Bool.and_eq_true,decide_eq_true_eq,any_eq_true] at repeated
  obtain ⟨named,session,listed,cursor⟩ := repeated
  refine ⟨named,session.sessionID,?_⟩
  obtain ⟨mem,filters⟩ := mem_filter.mp listed
  have facts : Identified r session ∧ Live r attempts session := by
    split at mem
    · rename_i tables _ attached
      have rows : tables.agentSessions ∈ sessionRows st := by simp [sessionRows,attached]
      exact ⟨(tracked.rows _ rows).identified session mem,(tracked.rows _ rows).live session mem⟩
    · exact ⟨tracked.memory.identified session mem,tracked.memory.live session mem⟩
  obtain ⟨identified,live⟩ := facts
  obtain ⟨agentNamed,_,tenantNamed⟩ := validateUploadIdentity_none valid
  simp only [passesFilters,agentNamed,tenantNamed,decide_false,Bool.false_or,Bool.and_eq_true,decide_eq_true_eq] at filters
  refine ⟨sessionOf_identified identified filters.1 filters.2,?_⟩
  rw [← cursor] at named ⊢
  exact live named

lemma tracked_step (mode : r.localProcessor = some p) (tracked : Tracked r g.store g.attempts)
    (upload : Upload) : Tracked r (r.step g upload).1.store (r.step g upload).1.attempts := by
  rcases step_cases mode g upload with ⟨same,attempts,_⟩ | ⟨st,same,valid,repeated,attempts,stored⟩ |
    ⟨st,completed,same,attempts,keeps,_⟩
  · rw [attempts]
    exact tracked.same same
  · have tracked := tracked.same same
    obtain ⟨_,name,session,stands⟩ := standing_of_duplicate tracked valid repeated
    rw [attempts,stored]
    refine Tracked.keeps ⟨?_,?_⟩ (keepsSessions_save _ upload.save)
    · apply memoryTracked_recordAppend tracked.memory
      · exact fun _ _ _ => id
      · intro other owner _
        obtain rfl := Option.some.inj (session.symm.trans owner)
        exact stands
      · exact fun _ _ _ => id
    · intro table listed
      rw [sessionRows_recordAppend] at listed
      have rows := tracked.rows table listed
      exact ⟨rows.identified,fun row mem => covers_recordAppend r upload (rows.covered row mem),rows.live⟩
  · have tracked := tracked.same same
    rw [attempts]
    apply Tracked.keeps _ keeps
    have memory : MemoryTracked r (r.recordAppend st upload).agentSessions
        (⟨upload.batch,upload.save.isNone,completed⟩ :: g.attempts) := by
      apply memoryTracked_recordAppend tracked.memory
      · intro name batchID other stands
        simpa [Runtime.standing,other] using stands
      · exact fun name own _ => by simp [Runtime.standing,own]
      · exact fun unnamed name batchID => standing_kept ⟨upload.batch,_,_⟩ (.inl unnamed)
    have covered : ∀ table ∈ sessionRows st, ∀ row ∈ table, Covers (r.recordAppend st upload).agentSessions row :=
      fun table listed row mem => covers_recordAppend r upload ((tracked.rows table listed).covered row mem)
    apply tracked_save memory
    · intro table listed
      rw [sessionRows_recordAppend] at listed
      exact covered table listed
    intro failure failed table listed
    rw [sessionRows_recordAppend] at listed
    have rows := tracked.rows table listed
    -- an attempt that was not saved ends nothing that stood before
    have unsaved : (⟨upload.batch,upload.save.isNone,completed⟩ : Attempt).saved = false := by simp [failed]
    exact ⟨rows.identified,fun row mem => (rows.live row mem).kept (.inr unsaved)⟩

lemma tracked_fresh (r : Runtime) (fresh : Fresh g) : Tracked r g.store g.attempts := by
  refine ⟨?_,?_⟩
  · rw [fresh.sessions]
    exact ⟨by simp,by simp,by simp⟩
  intro table listed
  rw [fresh.rows table listed]
  exact ⟨by simp,by simp,by simp⟩

lemma lastAttempt_step (mode : r.localProcessor = some p) (tracked : Tracked r g.store g.attempts)
    (allowed : r.mayUpload g upload) (acknowledged : acknowledges (r.step g upload).2) :
    (r.step g upload).1.lastAttempt upload.batch = some true := by
  rcases step_cases mode g upload with ⟨_,_,silent⟩ | ⟨st,same,valid,repeated,attempts,_⟩ |
    ⟨st,completed,_,attempts,_,finished⟩
  · rw [silent] at acknowledged
    cases acknowledged
  · obtain ⟨named,name,session,stands⟩ := standing_of_duplicate (tracked.same same) valid repeated
    have completed := (mayUpload_iff session named).mp allowed
    rw [← attempts] at stands completed
    exact lastAttempt_of_standing session stands completed
  · rw [Uploads.lastAttempt,attempts,find?_cons_of_pos (by simp),Option.map_some,finished acknowledged]

/-- In local mode, over every sequence of uploads to a fresh gateway with any failures, whenever a
batch is acknowledged as accepted or as a duplicate, its last attempt was completed: provided that
no upload comes under a batch id whose standing attempts on its session failed or were for another
batch. -/
theorem acknowledged_batches_completed (r : Runtime) (mode : r.localProcessor = some p) (g : Uploads)
    (fresh : Fresh g) (uploads : List Upload) (allowed : r.mayUploadAll g uploads) :
    ∀ answer ∈ r.answers g uploads, acknowledges answer.reply → answer.after.lastAttempt answer.upload.batch = some true := by
  have tracked := tracked_fresh r fresh
  clear fresh
  induction uploads generalizing g with
  | nil => intro answer mem; cases mem
  | cons upload uploads ih =>
    simp only [Runtime.mayUploadAll,Bool.and_eq_true] at allowed
    intro answer mem acknowledged
    rcases mem_cons.mp mem with rfl | mem
    · exact lastAttempt_step mode tracked allowed.1 acknowledged
    · exact ih (r.step g upload).1 allowed.2 (tracked_step mode tracked upload) answer mem acknowledged

def localGateway : Runtime where
  digest := id
  localProcessor := some oneIncidentProcessor

def uploadOf (batchID : String) : Upload where
  batch := { header := some { batchId := batchID, tenantId := "red", agentId := "agent-1", hostId := "host" } }

def Upload.failing (upload : Upload) : Upload := { upload with processing := { save := some { message := "disk full" } } }

/-- The first batch fails in processing; after the second one went through it is sent again, twice:
it is then processed, and the second time a duplicate. -/
theorem retry_after_another_batch_completed :
    ((localGateway.answers ⟨{},[]⟩ [(uploadOf "b-1").failing,uploadOf "b-2",uploadOf "b-1",uploadOf "b-1"]).map
      (acknowledges ·.reply) = [false,true,true,true]) ∧
    ∀ answer ∈ localGateway.answers ⟨{},[]⟩ [(uploadOf "b-1").failing,uploadOf "b-2",uploadOf "b-1",uploadOf "b-1"],
      acknowledges answer.reply → answer.after.lastAttempt answer.upload.batch = some true :=
  ⟨by decide +kernel,acknowledged_batches_completed localGateway rfl _ ⟨rfl,rfl,by simp [sessionRows]⟩ _ (by decide +kernel)⟩

/-- Sent again at once, it is acknowledged as a duplicate although its only attempt failed. -/
theorem retry_at_once_acknowledged_unprocessed :
    (localGateway.answers ⟨{},[]⟩ [(uploadOf "b-1").failing,uploadOf "b-1"]).map (fun answer =>
      (acknowledges answer.reply,answer.after.lastAttempt (uploadOf "b-1").batch)) = [(false,some false),(true,some false)] := by
  decide +kernel

end SysArmor.Gateway
