import SysArmor.IngestWorker

/-! The gateway's data plane: a data batch is checked against the peer and the last acknowledged
batch of its session, handed to the queue, recorded on the session, and in local mode processed
before it is acknowledged. Every call to the outside may fail. -/
namespace SysArmor.Gateway
open Proto Ingest

section
open GoText Manager

inductive Code where
  | ok | canceled | unknown | invalidArgument | deadlineExceeded | notFound | alreadyExists | permissionDenied
  | resourceExhausted | failedPrecondition | aborted | outOfRange | unimplemented | internal | unavailable
  | dataLoss | unauthenticated
  deriving DecidableEq

/-- An error of an outside call with its gRPC status code; a plain error has the code `unknown`. -/
structure Failure where
  code : Code := .unknown
  message : String
  deriving DecidableEq

/-- The errors of an upload: those that wrap `ErrInvalidUpload`, and all others. -/
inductive UploadError where
  | invalidUpload (message : String)
  | failed (failure : Failure)
  deriving DecidableEq

structure Message where
  (topic key : String)
  value : DataBatch

structure PeerIdentity where
  (tenantID agentID principal : String)
  deriving DecidableEq

structure Runtime where
  digest : String → String
  localProcessor : Option Processor
  agentToken : String := ""

/-- One upload: who sends it, what it carries, and how the calls to the outside end. `readable` says
whether an attached database answers the session query. -/
structure Upload where
  batch : DataBatch
  transport : String := "grpc_stream"
  peer : Option PeerIdentity := none
  (tokens authorizations : List String := [])
  readable : Bool := true
  appendRaw : Message → Option Failure := fun _ => none
  save : Option Failure := none
  processing : ProcessCalls Failure := {}
  now : Int := 0

structure DataAppendResult where
  (acceptedEvents acceptedSignals cloudSignals incidents : Nat := 0)
  duplicate : Bool := false
  deriving DecidableEq

inductive AckStatus where
  | unspecified | accepted | rejected | retryable | duplicate
  deriving DecidableEq

structure DataAck where
  batchId : String := ""
  accepted : Bool := false
  status : AckStatus := .unspecified
  (message reasonCode committedCursor : String := "")
  (acceptedEvents acceptedSignals : Nat := 0)
  retryable : Bool := false
  retryAfterMs : UInt64 := 0
  partialResult : Bool := false
  contractVersion : String := "dataplane.v1"
  deriving DecidableEq

def batchScopeLabels (batch : DataBatch) : List Labels :=
  [batch.getHeader.labels] ++ batch.events.map (fun frame => (frame.event.getD {}).labels) ++
    batch.signals.map (fun frame => (frame.signal.getD {}).labels)

def batchCorrelationKey (batch : DataBatch) : String :=
  let found := (batchScopeLabels batch).findSome? fun labels =>
    ["case_type","scenario","workload"].findSome? fun key =>
      let value := trimSpace (labels.get key)
      if value = "" then none else some (key ++ "=" ++ value)
  found.getD batch.getHeader.agentId

def rawMessage (batch : DataBatch) : Message where
  topic := "sysarmor.agent.databatch.raw"
  key := join [batch.getHeader.tenantId,batchCorrelationKey batch] ":"
  value := batch

def missingIdentity (header : BatchHeader) : List String :=
  (if header.agentId = "" then ["agent_id"] else []) ++ (if header.hostId = "" then ["host_id"] else []) ++
    (if header.tenantId = "" then ["tenant_id"] else [])

def validateUploadIdentity (batch : DataBatch) : Option UploadError :=
  match batch.header with
  | none => some (.invalidUpload "invalid upload: batch header identity is required")
  | some header =>
    if missingIdentity header = [] then none
    else some (.invalidUpload ("invalid upload: agent identity missing " ++ join (missingIdentity header) ", "))

lemma validateUploadIdentity_none (valid : validateUploadIdentity batch = none) :
    batch.getHeader.agentId ≠ "" ∧ batch.getHeader.hostId ≠ "" ∧ batch.getHeader.tenantId ≠ "" := by
  unfold validateUploadIdentity at valid
  split at valid
  · cases valid
  rename_i header present
  rw [DataBatch.getHeader,present,Option.getD_some]
  split at valid
  · rename_i complete
    simpa [missingIdentity,and_assoc] using complete
  · cases valid

def isDuplicateBatch (st : Store) (readable : Bool) (tenantID agentID batchID : String) : Bool :=
  batchID ≠ "" && (st.listAgentSessions readable tenantID agentID).any (·.lastAckCursor = batchID)

def Upload.duplicate (st : Store) (upload : Upload) : Bool :=
  let header := upload.batch.getHeader
  isDuplicateBatch st upload.readable header.tenantId header.agentId header.batchId

def processError : ProcessError Failure → UploadError
  | .identityRequired => .failed { message := "data batch header identity is required" }
  | .failed cause => .failed cause

namespace Runtime
variable (r : Runtime)

def processLocal (st : Store) (upload : Upload) : Store × Except UploadError DataAppendResult :=
  match r.localProcessor with
  | none => (st,.ok {})
  | some p => match p.process upload.processing st upload.batch with
    | (st,.error cause) => (st,.error (processError cause))
    | (st,.ok result) => (st,.ok ⟨result.acceptedEvents,result.acceptedSignals,result.cloudSignals,result.incidents,false⟩)

def recordAppend (st : Store) (upload : Upload) : Store :=
  st.recordDataBatchAppend r.digest (agentIdentityFromDataBatch upload.batch) upload.batch.getHeader.batchId
    upload.transport upload.now

def handOff (st : Store) (upload : Upload) : Store × Except UploadError DataAppendResult :=
  match (r.recordAppend st upload).save upload.save with
  | (st,some failure) => (st,.error (.failed failure))
  | (st,none) => r.processLocal st upload

def appendDataBatchWithTransport (st : Store) (upload : Upload) : Store × Except UploadError DataAppendResult :=
  match validateUploadIdentity upload.batch with
  | some invalid => (st,.error invalid)
  | none =>
    if upload.duplicate st then match (r.recordAppend st upload).save upload.save with
      | (st,some failure) => (st,.error (.failed failure))
      | (st,none) => (st,.ok { duplicate := true })
    else match upload.appendRaw (rawMessage upload.batch) with
      | some failure => (st,.error (.failed failure))
      | none => r.handOff st upload

def authorized (upload : Upload) : Bool :=
  r.agentToken = "" || upload.tokens.contains r.agentToken || upload.authorizations.contains ("Bearer " ++ r.agentToken)

end Runtime

def validatePeerDataIdentity (peer : Option PeerIdentity) (batch : DataBatch) : Option Failure :=
  peer.bind fun peerID =>
    let header := batch.getHeader
    let tenantID := orElse header.tenantId "default"
    if peerID.tenantID ≠ tenantID || peerID.agentID ≠ header.agentId then
      some { code := .permissionDenied
             message := "mTLS identity mismatch: cert=" ++ peerID.tenantID ++ "/" ++ peerID.agentID ++ " batch=" ++
               tenantID ++ "/" ++ header.agentId }
    else none

def agentIdentityFromPeer (peerID : PeerIdentity) (hostID version : String) : AgentIdentity where
  agentID := peerID.agentID
  hostID := hostID
  version := version
  tenantID := peerID.tenantID
  authType := "mtls"
  certIdentity := peerID.principal

def bindErrorMessage : BindError → String
  | .agentRequired => "agent_id is required"
  | .authRequired => "auth_type and cert_identity are required"
  | .identityMismatch registered presented =>
    "agent identity binding mismatch: registered=" ++ registered ++ " presented=" ++ presented
  | .authMismatch registered presented =>
    "agent auth binding mismatch: registered=" ++ registered ++ " presented=" ++ presented

/-- `BindAgentIdentity` for a peer with a certificate; others are not bound. -/
def bindPeer (st : Store) (peer : Option PeerIdentity) (hostID version : String) : Except Failure Store :=
  match peer with
  | none => .ok st
  | some peerID => match st.bindAgentIdentity (agentIdentityFromPeer peerID hostID version) with
    | .error refused => .error { code := .permissionDenied, message := bindErrorMessage refused }
    | .ok st => .ok st

lemma bindPeer_shape {st st' : Store} (bound : bindPeer st peer hostID version = .ok st') :
    ∃ agents, st' = { st with agents } := by
  unfold bindPeer at bound
  split at bound
  · cases bound
    exact ⟨st.agents,rfl⟩
  split at bound
  · cases bound
  · rename_i registered
    obtain rfl := Except.ok.inj bound
    exact ⟨_,bindAgentIdentity_eq registered⟩

def dataAckRetryable : Code → Bool
  | .unavailable | .resourceExhausted | .deadlineExceeded | .aborted | .internal | .unknown => true
  | _ => false

def stringReasonCode : AckStatus → String
  | .accepted => "accepted"
  | .duplicate => "duplicate"
  | .retryable => "retryable"
  | .rejected => "rejected"
  | .unspecified => "unspecified"

def dataAck (batch : DataBatch) (status : AckStatus) (reason message : String) (retryable : Bool) (retryAfterMs : UInt64)
    (result : DataAppendResult) : DataAck where
  batchId := batch.getHeader.batchId
  accepted := status = .accepted || status = .duplicate
  status := status
  message := message
  reasonCode := reason
  committedCursor := batch.getHeader.batchId
  acceptedEvents := result.acceptedEvents
  acceptedSignals := result.acceptedSignals
  retryable := retryable
  retryAfterMs := retryAfterMs

/-- The acknowledgement of an upload by how it ended. An error whose status code is OK counts as
internal and retryable. -/
def appendAck (batch : DataBatch) : Except UploadError DataAppendResult → DataAck
  | .error (.invalidUpload message) => dataAck batch .rejected "invalid_data_batch" message false 0 {}
  | .error (.failed failure) =>
    if failure.code = .ok || dataAckRetryable failure.code then
      dataAck batch .retryable "retryable_server_error" failure.message true 1000 {}
    else dataAck batch .rejected "server_error" failure.message false 0 {}
  | .ok result =>
    let status : AckStatus := if result.duplicate then .duplicate else .accepted
    dataAck batch status (stringReasonCode status) (if result.duplicate then "duplicate" else "accepted") false 0 result

def Runtime.admit (r : Runtime) (st : Store) (upload : Upload) : Except Failure Store :=
  if !r.authorized upload then .error { code := .unauthenticated, message := "unauthorized" }
  else match validatePeerDataIdentity upload.peer upload.batch with
    | some denied => .error denied
    | none => bindPeer st upload.peer upload.batch.getHeader.hostId (upload.batch.getHeader.labels.get "agent_version")

def Runtime.handleBatch (r : Runtime) (st : Store) (upload : Upload) : Store × Except Failure DataAck :=
  match r.admit st upload with
  | .error denied => (st,.error denied)
  | .ok st =>
    let (st,outcome) := r.appendDataBatchWithTransport st upload
    (st,.ok (appendAck upload.batch outcome))
end

/-! The Kafka key of a batch against the scopes its items belong to. The gateway takes the first
scope label it finds, first in the header and then in the items; the worker assigns each item by all
of its own scope labels. The two agree on every batch whose label maps agree in their first scope
label, and no larger class of batches has one key for each scope. -/

section
open GoText List

def scopeLabel (labels : Labels) : Option String :=
  scopeNames.findSome? fun name =>
    if scopeValue labels name = "" then none else some (name ++ "=" ++ scopeValue labels name)

lemma batchCorrelationKey_eq (batch : DataBatch) :
    batchCorrelationKey batch = ((batchScopeLabels batch).findSome? scopeLabel).getD batch.getHeader.agentId := rfl

lemma batchScopeLabels_eq (batch : DataBatch) : batchScopeLabels batch = batch.getHeader.labels :: itemLabels batch := by
  simp [batchScopeLabels,itemLabels]

def SharesScope (batch other : DataBatch) : Prop :=
  ∃ labels ∈ itemLabels batch, ∃ more ∈ itemLabels other,
    analysisSelector labels = analysisSelector more ∧ analysisSelector labels ≠ ∅

def Aligned (batch : DataBatch) : Prop :=
  ∀ labels ∈ batchScopeLabels batch, ∀ more ∈ batchScopeLabels batch, ∀ label other,
    scopeLabel labels = some label → scopeLabel more = some other → label = other

lemma scopeLabel_congr (same : analysisSelector labels = analysisSelector other) : scopeLabel labels = scopeLabel other := by
  have agree := (analysisSelector_eq_iff labels other).mp same
  simp only [scopeNames,forall_mem_cons] at agree
  simp only [scopeLabel,scopeNames,findSome?_cons,findSome?_nil,agree]

lemma scopeLabel_eq_none_iff (labels : Labels) : scopeLabel labels = none ↔ analysisSelector labels = ∅ := by
  rw [scopeLabel,findSome?_eq_none_iff,analysisSelector_eq_empty_iff]
  refine forall₂_congr fun name _ => ?_
  simp

variable {batch : DataBatch}

lemma batchCorrelationKey_of_item (mem : labels ∈ itemLabels batch) (present : scopeLabel labels = some label) :
    ∃ first ∈ batchScopeLabels batch, scopeLabel first = some (batchCorrelationKey batch) := by
  have listed : labels ∈ batchScopeLabels batch := by
    rw [batchScopeLabels_eq]
    exact mem_cons_of_mem _ mem
  rw [batchCorrelationKey_eq]
  cases found : (batchScopeLabels batch).findSome? scopeLabel with
  | none => simp [findSome?_eq_none_iff.mp found labels listed] at present
  | some key =>
    obtain ⟨first,inside,named⟩ := exists_of_findSome?_eq_some found
    exact ⟨first,inside,named⟩

lemma Aligned.correlationKey (aligned : Aligned batch) (mem : labels ∈ itemLabels batch)
    (present : scopeLabel labels = some label) : batchCorrelationKey batch = label := by
  obtain ⟨first,inside,named⟩ := batchCorrelationKey_of_item mem present
  have listed : labels ∈ batchScopeLabels batch := by
    rw [batchScopeLabels_eq]
    exact mem_cons_of_mem _ mem
  exact aligned first inside labels listed _ _ named present

lemma rawMessage_key (batch : DataBatch) :
    (rawMessage batch).key = batch.getHeader.tenantId ++ ":" ++ batchCorrelationKey batch := rfl

lemma rawMessage_key_eq_iff {other : DataBatch} (tenant : other.getHeader.tenantId = batch.getHeader.tenantId) :
    (rawMessage other).key = (rawMessage batch).key ↔ batchCorrelationKey other = batchCorrelationKey batch := by
  rw [rawMessage_key,rawMessage_key,tenant,String.append_right_inj]

def singleEvent (tenantID : String) (labels : Labels) : DataBatch :=
  { header := some { tenantId := tenantID }, events := [{ event := some { labels := labels } }] }

lemma aligned_singleEvent (tenantID : String) (labels : Labels) : Aligned (singleEvent tenantID labels) := by
  have bare : scopeLabel ∅ = none := by decide +kernel
  have listed : batchScopeLabels (singleEvent tenantID labels) = [∅,labels] := rfl
  intro first inside second within label other named called
  simp only [listed,mem_cons,not_mem_nil,or_false] at inside within
  rcases inside with rfl | rfl
  · simp [bare] at named
  rcases within with rfl | rfl
  · simp [bare] at called
  · exact Option.some.inj (named.symm.trans called)

lemma exists_item_of_not_aligned (mixed : ¬ Aligned batch) :
    ∃ labels ∈ itemLabels batch, ∃ label, scopeLabel labels = some label ∧ label ≠ batchCorrelationKey batch := by
  by_contra none
  have every : ∀ labels ∈ batchScopeLabels batch, ∀ label, scopeLabel labels = some label → label = batchCorrelationKey batch := by
    intro labels listed label named
    rw [batchScopeLabels_eq] at listed
    rcases mem_cons.mp listed with rfl | mem
    · -- the header comes first, so its label is the key
      rw [batchCorrelationKey_eq,batchScopeLabels_eq,findSome?_cons,named]
      rfl
    · by_contra differs
      exact none ⟨labels,mem,label,named,differs⟩
  exact mixed fun labels listed more within label other named called =>
    (every labels listed label named).trans (every more within other called).symm

/-- Batches of one tenant that share a scope get one key as long as they are aligned; each other
batch is kept apart from an aligned one. -/
theorem scope_partition_iff_aligned (batch : DataBatch) :
    Aligned batch ↔ ∀ other, Aligned other → other.getHeader.tenantId = batch.getHeader.tenantId →
      SharesScope batch other → (rawMessage other).key = (rawMessage batch).key := by
  constructor
  · rintro aligned other alike tenant ⟨labels,mem,more,within,same,scope⟩
    obtain ⟨label,named⟩ := Option.ne_none_iff_exists'.mp (mt (scopeLabel_eq_none_iff labels).mp scope)
    rw [rawMessage_key_eq_iff tenant,aligned.correlationKey mem named]
    exact alike.correlationKey within ((scopeLabel_congr same).symm.trans named)
  · intro affine
    by_contra mixed
    obtain ⟨labels,mem,label,named,differs⟩ := exists_item_of_not_aligned mixed
    have single : labels ∈ itemLabels (singleEvent batch.getHeader.tenantId labels) := by simp [itemLabels,singleEvent]
    have aligned := aligned_singleEvent batch.getHeader.tenantId labels
    have scope : analysisSelector labels ≠ ∅ := fun empty => by
      simp [(scopeLabel_eq_none_iff labels).mpr empty] at named
    have tenant : (singleEvent batch.getHeader.tenantId labels).getHeader.tenantId = batch.getHeader.tenantId := rfl
    have same := affine _ aligned tenant ⟨labels,mem,labels,single,rfl,scope⟩
    rw [rawMessage_key_eq_iff tenant,aligned.correlationKey single named] at same
    exact differs same

def workloadEvent (value : String) : EventFrame := { event := some { labels := (∅ : Labels).insert "workload" value } }
def mixedBatch : DataBatch := { header := some { tenantId := "red" }, events := [workloadEvent "a",workloadEvent "b"] }
def secondBatch : DataBatch := { header := some { tenantId := "red" }, events := [workloadEvent "b"] }

/-- Two batches with data of the scope `workload=b` go to different keys. -/
theorem one_scope_two_keys : mixedBatch.getHeader.tenantId = secondBatch.getHeader.tenantId ∧ SharesScope mixedBatch secondBatch ∧
    (rawMessage mixedBatch).key = "red:workload=a" ∧ (rawMessage secondBatch).key = "red:workload=b" := by
  refine ⟨rfl,⟨(∅ : Labels).insert "workload" "b",?_,(∅ : Labels).insert "workload" "b",?_,rfl,?_⟩,?_,?_⟩
  · simp [itemLabels,mixedBatch,workloadEvent]
  · simp [itemLabels,secondBatch,workloadEvent]
  · decide +kernel
  · decide +kernel
  · decide +kernel
end

/-! From the gateway to the worker. The gateway asks for agent, host and tenant; the worker asks for batch,
tenant and agent and for the schema version. -/
open Manager

def admits (w : Worker) (value : ByteWords.Bytes) : Bool :=
  match w.decode value with
  | .error _ => false
  | .ok batch => batch.schemaVersion = dataPlaneCurrent && (validateBatchIdentity batch).isNone

def invalidClasses : List String := ["invalid_data_batch","unsupported_schema_version"]

def deadLettered (w : Worker) (turn : Ingest.Turn) (msg : Ingest.Message) (st : Store) : Prop :=
  ∃ topic key envelope err, WorkerEvent.deadLetter topic key envelope err ∈ (w.handle turn msg st).2.1 ∧
    envelope.failureClass ∈ invalidClasses

section
variable {w : Worker} {turn : Ingest.Turn} {msg : Ingest.Message} {st : Store}

lemma envelope_class (turn : Ingest.Turn) (msg : Ingest.Message) («class» : String) (cause : Ingest.Failure) :
    (Worker.envelope turn msg «class» cause).failureClass = «class» := by
  cases cause <;> rfl

lemma mem_reject (mem : WorkerEvent.deadLetter topic key envelope err ∈ (w.reject turn msg «class» cause).1) :
    envelope.failureClass = «class» := by
  simp only [Worker.reject] at mem
  split at mem
  · cases mem
  split at mem <;> simp only [List.mem_cons,List.not_mem_nil,or_false,reduceCtorEq,WorkerEvent.deadLetter.injEq] at mem
  · rw [mem.2.2.1,envelope_class]
  · rw [mem.2.2.1,envelope_class]

lemma reject_deadLetter (producer : w.deadLetters = true) (turn : Ingest.Turn) (msg : Ingest.Message) («class» : String)
    (cause : Ingest.Failure) : ∃ topic key envelope err,
      WorkerEvent.deadLetter topic key envelope err ∈ (w.reject turn msg «class» cause).1 ∧ envelope.failureClass = «class» := by
  refine ⟨msg.topic ++ ".dlq",msg.key,Worker.envelope turn msg «class» cause,turn.append,?_,envelope_class turn msg «class» cause⟩
  simp only [Worker.reject,producer,not_true_eq_false,↓reduceIte]
  split
  · exact List.mem_singleton_self _
  · exact List.mem_cons_self

lemma admits_of_decoded (decoded : w.decode value = .ok batch) :
    admits w value ↔ batch.schemaVersion = dataPlaneCurrent ∧ validateBatchIdentity batch = none := by
  simp [admits,decoded]

lemma class_of_admitted (decoded : w.decode msg.value = .ok batch) (current : batch.schemaVersion = dataPlaneCurrent)
    (valid : validateBatchIdentity batch = none)
    (mem : WorkerEvent.deadLetter topic key envelope err ∈ (w.handle turn msg st).2.1) :
    envelope.failureClass = "permanent_projection" := by
  obtain ⟨attempted,-⟩ := retryLoop_attempted w turn (stabilizeBatchTime w.processor.times batch turn.now) 2 st
  simp only [Worker.handle,decoded,current,ne_eq,not_true_eq_false,↓reduceIte,valid] at mem
  split at mem
  · rename_i ended
    simp only [Worker.processWithRetry] at ended
    rw [ended] at attempted
    rcases List.mem_append.mp mem with mem | mem
    · obtain ⟨_,⟨⟩⟩ := attempted.only _ mem
    · simp at mem
  · rename_i ended
    simp only [Worker.processWithRetry] at ended
    rw [ended] at attempted
    split at mem
    · rcases List.mem_append.mp mem with mem | mem
      · obtain ⟨_,⟨⟩⟩ := attempted.only _ mem
      · exact mem_reject mem
    · obtain ⟨_,⟨⟩⟩ := attempted.only _ mem

lemma deadLettered_iff (producer : w.deadLetters = true) (turn : Ingest.Turn) (msg : Ingest.Message) (st : Store) :
    deadLettered w turn msg st ↔ ¬admits w msg.value := by
  cases decoded : w.decode msg.value with
  | error cause =>
    obtain ⟨topic,key,envelope,err,listed,named⟩ := reject_deadLetter producer turn msg "invalid_data_batch" (.other cause)
    simp only [deadLettered,Worker.handle,decoded,admits,Bool.false_eq_true,not_false_eq_true,iff_true]
    exact ⟨topic,key,envelope,err,listed,by simp [named,invalidClasses]⟩
  | ok batch =>
    rw [admits_of_decoded decoded]
    by_cases current : batch.schemaVersion = dataPlaneCurrent
    · cases valid : validateBatchIdentity batch with
      | none =>
        refine ⟨?_,fun refused => absurd ⟨current,rfl⟩ refused⟩
        rintro ⟨topic,key,envelope,err,listed,invalid⟩
        rw [class_of_admitted decoded current valid listed] at invalid
        simp [invalidClasses] at invalid
      | some cause =>
        obtain ⟨topic,key,envelope,err,listed,named⟩ := reject_deadLetter producer turn msg "invalid_data_batch" (.other cause)
        simp only [deadLettered,Worker.handle,decoded,current,ne_eq,not_true_eq_false,↓reduceIte,valid,reduceCtorEq,and_false,
          not_false_eq_true,iff_true]
        exact ⟨topic,key,envelope,err,listed,by simp [named,invalidClasses]⟩
    · obtain ⟨topic,key,envelope,err,listed,named⟩ := reject_deadLetter producer turn msg "unsupported_schema_version"
        (.other ("unsupported data plane schema version " ++ w.quote batch.schemaVersion))
      simp only [deadLettered,Worker.handle,decoded,current,ne_eq,not_false_eq_true,↓reduceIte,false_and,iff_true]
      exact ⟨topic,key,envelope,err,listed,by simp [named,invalidClasses]⟩

end

lemma appendAck_error (batch : DataBatch) (cause : UploadError) : (appendAck batch (.error cause)).status ≠ .accepted := by
  cases cause with
  | invalidUpload message => nofun
  | failed failure =>
    simp only [appendAck]
    split <;> nofun

lemma accepted_appended {r : Runtime} {upload : Upload} (acked : r.handleBatch st upload = (after,.ok reply))
    (accepted : reply.status = .accepted) :
    validateUploadIdentity upload.batch = none ∧ upload.appendRaw (rawMessage upload.batch) = none := by
  simp only [Runtime.handleBatch] at acked
  split at acked
  · cases acked
  rename_i bound admitted
  simp only [Prod.mk.injEq,Except.ok.injEq] at acked
  rw [← acked.2] at accepted
  simp only [Runtime.appendDataBatchWithTransport] at accepted
  split at accepted
  · exact absurd accepted (appendAck_error _ _)
  rename_i valid
  refine ⟨valid,?_⟩
  split at accepted
  · split at accepted
    · exact absurd accepted (appendAck_error _ _)
    · cases accepted
  split at accepted
  · exact absurd accepted (appendAck_error _ _)
  · rename_i appended
    exact appended

lemma validateBatchIdentity_of_upload {batch : DataBatch} (valid : validateUploadIdentity batch = none) :
    validateBatchIdentity batch = none ↔ batch.getHeader.batchId ≠ "" := by
  obtain ⟨agent,_,tenant⟩ := validateUploadIdentity_none valid
  have present : batch.header.isNone = false := by
    cases header : batch.header with
    | none => simp [validateUploadIdentity,header] at valid
    | some header => rfl
  simp [validateBatchIdentity,present,agent,tenant]

/-- A batch that the gateway accepted and appended passes the worker's checks exactly when it has a batch
id and the current schema version; otherwise it ends among the dead letters. -/
theorem accepted_batch_admitted_iff {r : Runtime} {upload : Upload} (w : Worker) (encode : DataBatch → ByteWords.Bytes)
    (acked : r.handleBatch st upload = (after,.ok reply)) (accepted : reply.status = .accepted)
    (roundTrip : w.decode (encode upload.batch) = .ok upload.batch) : upload.appendRaw (rawMessage upload.batch) = none ∧
    (admits w (encode (rawMessage upload.batch).value) ↔
      upload.batch.schemaVersion = dataPlaneCurrent ∧ upload.batch.getHeader.batchId ≠ "") ∧
    (w.deadLetters = true → ∀ turn msg later, msg.value = encode (rawMessage upload.batch).value →
      (¬deadLettered w turn msg later ↔
        upload.batch.schemaVersion = dataPlaneCurrent ∧ upload.batch.getHeader.batchId ≠ "")) := by
  obtain ⟨valid,appended⟩ := accepted_appended acked accepted
  have admitted : admits w (encode (rawMessage upload.batch).value) ↔
      upload.batch.schemaVersion = dataPlaneCurrent ∧ upload.batch.getHeader.batchId ≠ "" := by
    rw [← validateBatchIdentity_of_upload valid]
    exact admits_of_decoded roundTrip
  refine ⟨appended,admitted,fun producer turn msg later same => ?_⟩
  rw [deadLettered_iff producer,not_not,same,admitted]

/-! Two uploads to a gateway without a processor of its own. -/

def plainUpload (batchID : String) : Upload where
  batch := { header := some { batchId := batchID, tenantId := "red", agentId := "agent-1", hostId := "host" }
             schemaVersion := dataPlaneCurrent }

def plainWorker (batch : DataBatch) : Worker where
  processor := oneIncidentProcessor
  base := "http://index"
  decode := fun _ => .ok batch
  quote := id
  deadLetters := true

def remoteGateway : Runtime where
  digest := id
  localProcessor := none

theorem complete_upload_admitted : admits (plainWorker (plainUpload "b-1").batch) [] := by
  obtain ⟨after,ack,acked,accepted⟩ : ∃ after ack, remoteGateway.handleBatch {} (plainUpload "b-1") = (after,.ok ack) ∧
    ack.status = .accepted := ⟨_,_,rfl,rfl⟩
  have admitted := (accepted_batch_admitted_iff (plainWorker (plainUpload "b-1").batch) (fun _ => []) acked accepted rfl).2.1
  exact admitted.mpr (by decide)

/-- A batch without an id is acknowledged and then moved to the dead letters. -/
theorem unnamed_batch_dead_lettered :
    (∃ after ack, remoteGateway.handleBatch {} (plainUpload "") = (after,.ok ack) ∧ ack.status = .accepted) ∧
      ∀ turn msg st, deadLettered (plainWorker (plainUpload "").batch) turn msg st := by
  refine ⟨⟨_,_,rfl,rfl⟩,fun turn msg st => (deadLettered_iff rfl turn msg st).mpr ?_⟩
  simp [admits,plainWorker,plainUpload,validateBatchIdentity,DataBatch.getHeader]

end SysArmor.Gateway
