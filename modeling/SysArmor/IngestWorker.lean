import SysArmor.Documents

/-! The processing of one data batch: its events and signals enter the store, every analysis
scope they touch is analysed again, and the documents go to the search index. Each call to the
outside may fail; what was written to the store before the failure stays. -/
namespace SysArmor.Ingest
open Proto Manager

section

section
open KeyedMerge

structure Analysis where
  cloudSignals : List Signal := []
  incidents : List Incident := []

/-- `history` reads the events and endpoint signals of a scope in a span of time. `analyze` is the
cloud analysis under the agent's effective policy, which it looks up in the store. -/
structure Processor where
  digest : String → String
  times : TimeText
  isLocal : Bool
  history : Store → String → Labels → Int → Int → List CanonicalEvent × List Signal
  analyze : Store → AgentIdentity → List CanonicalEvent → List Signal → Analysis

def storeHistory (st : Store) (_tenantID : String) (labels : Labels) (_lower _upper : Int) :
    List CanonicalEvent × List Signal :=
  (st.listEvents labels,st.listSignals labels "endpoint")

structure ProcessCalls (ε : Type) where
  history : Labels → Option ε := fun _ => none
  bulkIndex : List Document → Option ε := fun _ => none
  (save saveMetrics : Option ε := none)
  startedAt : Int := 0
  latencyMs : UInt64 := 0

inductive ProcessError (ε : Type) where
  | identityRequired
  | failed (cause : ε)
  deriving DecidableEq

structure Result where
  (acceptedEvents acceptedSignals cloudSignals incidents : Nat := 0)
  deriving DecidableEq

structure TouchedScope where
  labels : Labels
  agent : AgentIdentity

def touchedScope (agent : AgentIdentity) (labels : Labels) : Option TouchedScope :=
  if analysisSelector labels = ∅ then none else some ⟨analysisSelector labels,agent⟩

def touchedScopes (agent : AgentIdentity) (batch : DataBatch) : List TouchedScope :=
  let labels := batch.events.map (fun frame => (frame.event.getD {}).labels) ++
    batch.signals.map (fun frame => (frame.signal.getD {}).labels)
  mergeByKey (fun scope => some (labelSelectorKey scope.labels)) (labels.filterMap (touchedScope agent))

def incidentObservedRange (times : TimeText) (events : List CanonicalEvent) : String × String :=
  let observed := (events.map (·.occurredAtNs)).filter (· != 0)
  let first := observed.foldl (fun first time => if first == 0 || time < first then time else first) 0
  if first == 0 then ("","")
  else (times.format first.toInt64.toInt,times.format (observed.foldl max 0).toInt64.toInt)

def stampIncident (times : TimeText) (scope : TouchedScope) (events : List CanonicalEvent) (inc : Incident) : Incident :=
  let observed := incidentObservedRange times events
  { inc with
    tenantId := scope.agent.normalized.tenantID
    correlationKey := labelSelectorKey scope.labels
    analysisVersion := "incident.v1"
    firstObservedAt := observed.1
    lastObservedAt := observed.2 }

structure Derived where
  (cloudSignals incidents : Nat := 0)
  documents : List Document := []

namespace Processor
variable (p : Processor) {ε : Type}

def analyzeScope (st : Store) (batch : DataBatch) (upper : Int) (scope : TouchedScope) : Analysis :=
  let history := p.history st scope.agent.normalized.tenantID scope.labels (upper - 15 * 60 * 1000000000) upper
  let currentEvents := (batch.events.filterMap (·.event)).filter fun ev => labelSelectorMatches ev.labels scope.labels
  let currentSignals := (batch.signals.filterMap (·.signal)).filter fun sig =>
    sig.where = .endpoint && labelSelectorMatches sig.labels scope.labels
  let events := mergeEvents some history.1 currentEvents
  let analysis := p.analyze st scope.agent events (mergeSignals p.digest some history.2 currentSignals)
  { analysis with incidents := analysis.incidents.map (stampIncident p.times scope events) }

def scopeDocuments (upper : Int) (scope : TouchedScope) (analysis : Analysis) : List Document :=
  (analysis.cloudSignals.map (signalDocument p.digest) ++ analysis.incidents.flatMap (incidentDocuments p.digest)).map
    fun doc => decorateDocument doc scope.agent.normalized.tenantID upper

def storeDerived (st : Store) (scope : TouchedScope) (analysis : Analysis) : Store :=
  if p.isLocal then st.replaceDerivedForLabels scope.labels analysis.cloudSignals analysis.incidents else st

def recomputeTouchedScopes (calls : ProcessCalls ε) (batch : DataBatch) (upper : Int) :
    List TouchedScope → Store → Store × Except (ProcessError ε) Derived
  | [],st => (st,.ok {})
  | scope :: scopes,st =>
    match calls.history scope.labels with
    | some cause => (st,.error (.failed cause))
    | none =>
      let analysis := p.analyzeScope st batch upper scope
      match recomputeTouchedScopes calls batch upper scopes (p.storeDerived st scope analysis) with
      | (st,.error cause) => (st,.error cause)
      | (st,.ok rest) => (st,.ok {
          cloudSignals := analysis.cloudSignals.length + rest.cloudSignals
          incidents := analysis.incidents.length + rest.incidents
          documents := p.scopeDocuments upper scope analysis ++ rest.documents })

def addBatch (st : Store) (batch : DataBatch) : Store :=
  if p.isLocal then
    (batch.signals.filterMap (·.signal)).foldl (Store.addSignal p.digest)
      ((batch.events.filterMap (·.event)).foldl Store.addEvent st)
  else st

def derive (calls : ProcessCalls ε) (st : Store) (batch : DataBatch) : Store × Except (ProcessError ε) Derived :=
  let agent := agentIdentityFromDataBatch batch
  p.recomputeTouchedScopes calls batch (batchUpperTime batch calls.startedAt) (touchedScopes agent batch)
    (p.addBatch (st.addAgent agent) batch)

def documents (calls : ProcessCalls ε) (batch : DataBatch) (derived : Derived) : List Document :=
  batchDocuments p.digest p.times batch (batchUpperTime batch calls.startedAt) ++ derived.documents

def finish (calls : ProcessCalls ε) (batch : DataBatch) (st : Store) (derived : Derived) :
    Store × Except (ProcessError ε) Result :=
  match calls.bulkIndex (p.documents calls batch derived) with
  | some cause => (st,.error (.failed cause))
  | none =>
    let st := st.recordDataBatchIngest batch.events.length batch.signals.length derived.cloudSignals derived.incidents
      calls.latencyMs
    match st.save calls.save with
    | (st,some cause) => (st,.error (.failed cause))
    | (st,none) => match calls.saveMetrics with
      | some cause => (st,.error (.failed cause))
      | none => (st,.ok ⟨batch.events.length,batch.signals.length,derived.cloudSignals,derived.incidents⟩)

def process (calls : ProcessCalls ε) (st : Store) (batch : DataBatch) : Store × Except (ProcessError ε) Result :=
  if batch.header.isNone then (st,.error .identityRequired)
  else match p.derive calls st batch with
    | (st,.error cause) => (st,.error cause)
    | (st,.ok derived) => p.finish calls batch st derived

def projected (calls : ProcessCalls ε) (st : Store) (batch : DataBatch) : List Document :=
  match p.derive calls st batch with
  | (_,.error _) => []
  | (_,.ok derived) => p.documents calls batch derived

end Processor

def oneIncidentProcessor : Processor where
  digest := id
  times := ⟨fun _ => none,fun _ => ""⟩
  isLocal := true
  history := storeHistory
  analyze := fun _ _ _ _ => { incidents := [{ id := "inc-1" }] }
end

/-! The worker between the message queue and the search index: it fetches a message, processes its
batch with up to three attempts, moves what cannot be projected to a dead-letter topic and commits
the offset. Each turn carries how the calls to the outside end, so that a run ranges over every
pattern of failures. -/
open ByteWords

structure Message where
  topic : String := ""
  (partition offset : Int := 0)
  key : String := ""
  value : Bytes := []
  deriving DecidableEq

structure DeadLetterEnvelope where
  sourceTopic : String
  (sourcePartition sourceOffset : Int)
  (sourceKey failureClass failureMessage failureCode : String)
  (documentIndex documentID : String := "")
  observedAt : Int
  payload : Bytes
  deriving DecidableEq

/-- `decode` is the JSON decoder of the batch message and `quote` the verb `%q`; `base` is the
address of the index. A worker without `deadLetters` has no producer for them. -/
structure Worker where
  processor : Processor
  base : String
  decode : Bytes → Except String DataBatch
  quote : String → String
  deadLetters : Bool

structure ProjectCalls where
  history : Labels → Option Failure := fun _ => none
  answer : List Document → BulkAnswer
  (save saveMetrics : Option Failure := none)
  startedAt : Int := 0
  latencyMs : UInt64 := 0

/-- How the calls of one turn of the loop end. `cancelled` is the context's error if it is done
before the timer behind an attempt fires. -/
structure Turn where
  fetch : Except String Message
  now : Int := 0
  attempts : Nat → ProjectCalls
  cancelled : Nat → Option String := fun _ => none
  observedAt : Int := 0
  (append commit : Option String := none)

/-- What the worker does to the outside: an attempt sends the documents derived from the batch, if
deriving them went through, and gets an answer, if a request was made. -/
inductive WorkerEvent where
  | attempt (sent : Option (List Document × Option BulkAnswer))
  | deadLetter (topic key : String) (envelope : DeadLetterEnvelope) (err : Option String)
  | commit (err : Option String)

def dataPlaneCurrent : String := "sysarmor.dataplane/v1"

def validateBatchIdentity (batch : DataBatch) : Option String :=
  if batch.header.isNone then some "data batch header is required"
  else if batch.getHeader.batchId = "" || batch.getHeader.tenantId = "" || batch.getHeader.agentId = "" then
    some "batch_id, tenant_id, and agent_id are required"
  else none

def maxUnixNano (times : TimeText) (current : Int) (observedAt : String) (occurredAt : UInt64) : Int :=
  let current := match times.parse observedAt with
    | some parsed => if current < parsed then parsed else current
    | none => current
  if 0 < occurredAt && current < occurredAt.toInt64.toInt then occurredAt.toInt64.toInt else current

def stabilizeBatchTime (times : TimeText) (batch : DataBatch) (fallback : Int) : DataBatch :=
  let latest := batch.events.foldl
    (fun latest frame => maxUnixNano times latest frame.observedAt (frame.event.getD {}).occurredAtNs)
    batch.getHeader.createdAtUnixNano
  let latest := batch.signals.foldl (fun latest frame => maxUnixNano times latest frame.observedAt 0) latest
  let latest := if latest ≤ 0 then fallback else latest
  { batch with header := some { batch.getHeader with createdAtUnixNano := latest } }

def ProcessError.failure : ProcessError Failure → Failure
  | .identityRequired => .other "data batch header identity is required"
  | .failed cause => cause

namespace Worker
variable (w : Worker)

def calls (project : ProjectCalls) : ProcessCalls Failure where
  history := project.history
  bulkIndex docs := (bulkIndex w.base docs project.answer).2
  save := project.save
  saveMetrics := project.saveMetrics
  startedAt := project.startedAt
  latencyMs := project.latencyMs

def sent (project : ProjectCalls) (st : Store) (batch : DataBatch) : Option (List Document × Option BulkAnswer) :=
  match w.processor.derive (w.calls project) st batch with
  | (_,.error _) => none
  | (_,.ok derived) =>
    let docs := w.processor.documents (w.calls project) batch derived
    some (docs,(bulkIndex w.base docs project.answer).1)

/-- One attempt: what it sends and the error of `Process`. -/
def attempt (project : ProjectCalls) (st : Store) (batch : DataBatch) : Store × WorkerEvent × Option Failure :=
  let event := WorkerEvent.attempt (w.sent project st batch)
  match w.processor.process (w.calls project) st batch with
  | (st,.ok _) => (st,event,none)
  | (st,.error err) => (st,event,some err.failure)

/-- The loop of `processWithRetry` with the given number of attempts left behind this one. -/
def retryLoop (turn : Turn) (batch : DataBatch) : Nat → Store → Store × List WorkerEvent × Option Failure
  | 0, st =>
    let (st,event,failure) := w.attempt (turn.attempts 2) st batch
    (st,[event],failure)
  | left + 1, st =>
    match w.attempt (turn.attempts (1 - left)) st batch with
    | (st,event,none) => (st,[event],none)
    | (st,event,some err) =>
      if errorClassOf err = .permanent then (st,[event],some err)
      else match turn.cancelled (1 - left) with
        | some cause => (st,[event],some (.other cause))
        | none =>
          let rest := retryLoop turn batch left st
          (rest.1,event :: rest.2.1,rest.2.2)

def processWithRetry (turn : Turn) (st : Store) (batch : DataBatch) : Store × List WorkerEvent × Option Failure :=
  w.retryLoop turn batch 2 st

def envelope (turn : Turn) (msg : Message) («class» : String) (cause : Failure) : DeadLetterEnvelope :=
  let plain : DeadLetterEnvelope :=
    { sourceTopic := msg.topic, sourcePartition := msg.partition, sourceOffset := msg.offset, sourceKey := msg.key
      failureClass := «class», failureMessage := cause.text, failureCode := «class», observedAt := turn.observedAt
      payload := msg.value }
  match cause with
  | .projection err =>
    { plain with failureCode := s!"opensearch_{err.status}", documentIndex := err.index, documentID := err.id }
  | .other _ => plain

/-- The calls of `reject` and the error it returns. -/
def reject (turn : Turn) (msg : Message) («class» : String) (cause : Failure) : List WorkerEvent × Option String :=
  if ¬ w.deadLetters then ([],some ("decode raw data batch key=" ++ w.quote msg.key ++ ": " ++ cause.text))
  else
    let record := WorkerEvent.deadLetter (msg.topic ++ ".dlq") msg.key (envelope turn msg «class» cause) turn.append
    match turn.append with
    | some err => ([record],some ("publish dead letter key=" ++ w.quote msg.key ++ ": " ++ err))
    | none => ([record,.commit turn.commit],
        turn.commit.map fun err => "commit rejected data batch key=" ++ w.quote msg.key ++ ": " ++ err)

/-- One turn of the loop of `Run` behind `Fetch`: the store, the calls and the error that ends the run. -/
def handle (turn : Turn) (msg : Message) (st : Store) : Store × List WorkerEvent × Option String :=
  match w.decode msg.value with
  | .error cause => (st,w.reject turn msg "invalid_data_batch" (.other cause))
  | .ok batch =>
    if batch.schemaVersion ≠ dataPlaneCurrent then
      (st,w.reject turn msg "unsupported_schema_version"
        (.other ("unsupported data plane schema version " ++ w.quote batch.schemaVersion)))
    else match validateBatchIdentity batch with
      | some cause => (st,w.reject turn msg "invalid_data_batch" (.other cause))
      | none =>
        match w.processWithRetry turn st (stabilizeBatchTime w.processor.times batch turn.now) with
        | (st,events,none) => (st,events ++ [.commit turn.commit],
            turn.commit.map fun err => "commit raw data batch key=" ++ w.quote msg.key ++ ": " ++ err)
        | (st,events,some err) =>
          if errorClassOf err = .permanent then
            let rejected := w.reject turn msg "permanent_projection" err
            (st,events ++ rejected.1,rejected.2)
          else (st,events,some ("process raw data batch key=" ++ w.quote msg.key ++ ": " ++ err.text))

structure Handled where
  message : Message
  events : List WorkerEvent

def run : List Turn → Store → Store × List Handled × Option String
  | [], st => (st,[],none)
  | turn :: turns, st =>
    match turn.fetch with
    | .error err => (st,[],some err)
    | .ok msg =>
      match w.handle turn msg st with
      | (st,events,some err) => (st,[⟨msg,events⟩],some err)
      | (st,events,none) =>
        let rest := run turns st
        (rest.1,⟨msg,events⟩ :: rest.2.1,rest.2.2)

end Worker

/-- The tenant a batch is processed for: trimmed, and `default` when blank. -/
def batchTenant (batch : DataBatch) : String := (agentIdentityFromDataBatch batch).normalized.tenantID

section
open GoText List

lemma trim_ne_empty {s : String} {letter : Char} (cut : Char) (mem : letter ∈ s.toList) (other : letter ≠ cut) :
    trim s cut ≠ "" := by
  intro empty
  rw [trim,String.ofList_eq_empty_iff,rdropWhile_eq_nil_iff] at empty
  have all : ∀ x ∈ s.toList, x = cut := by
    have dropped : s.toList.dropWhile (· = cut) = [] := by
      rw [← dropWhile_idempotent]
      exact dropWhile_eq_nil_iff.mpr empty
    simpa using dropWhile_eq_nil_iff.mp dropped
  exact other (all letter mem)

/-- The id of an incident carries the tenant of its scope, only as part of a hashed text. -/
lemma incidentDocumentID_stamped (digest : String → String) (times : TimeText) (scope : TouchedScope)
    (events : List CanonicalEvent) (inc : Incident) :
    incidentDocumentID digest (stampIncident times scope events inc) = "incident:" ++
      digest (scope.agent.normalized.tenantID ++ ":" ++ (labelSelectorKey scope.labels ++ ":incident.v1")) := by
  have identity : join [scope.agent.normalized.tenantID,labelSelectorKey scope.labels,"incident.v1"] ":" =
      scope.agent.normalized.tenantID ++ ":" ++ (labelSelectorKey scope.labels ++ ":incident.v1") := by
    have joined : join [scope.agent.normalized.tenantID,labelSelectorKey scope.labels,"incident.v1"] ":" =
        scope.agent.normalized.tenantID ++ ":" ++ labelSelectorKey scope.labels ++ ":" ++ "incident.v1" := rfl
    have version : ":incident.v1" = ":" ++ "incident.v1" := rfl
    rw [joined,version]
    simp only [String.append_assoc]
  have versioned : 'i' ∈ (scope.agent.normalized.tenantID ++ ":" ++
      (labelSelectorKey scope.labels ++ ":incident.v1")).toList := by simp
  have present := trim_ne_empty ':' versioned (by decide)
  simp only [incidentDocumentID,stampIncident,identity,present,if_false,ne_eq,not_false_eq_true,if_true]

end

def scopedBatch (tenantID agentID : String) : DataBatch where
  header := some { batchId := "b-1", tenantId := tenantID, agentId := agentID, hostId := "host" }
  events := [{ event := some { id := "ev-1", labels := (∅ : Labels).insert "scenario" "s" } }]
  signals := [{ signal := some { id := "sig-1", «where» := .endpoint, labels := (∅ : Labels).insert "scenario" "s" } }]
end

/-! Which offsets the ingest worker commits, and which batches it gives up on. -/

def lastAttempt (events : List WorkerEvent) : Option (Option (List Document × Option BulkAnswer)) :=
  (events.filterMap fun event => match event with
    | .attempt sent => some sent
    | _ => none).getLast?

/-- What an attempt at the batch sends, in some state of the store. -/
def Worker.Sends (w : Worker) (batch : DataBatch) (docs : List Document) (answer : Option BulkAnswer) : Prop :=
  ∃ project st, w.sent project st batch = some (docs,answer)

/-- Every document of the message's batch received a success status, or a record of the message was
appended to the dead letters. -/
def Settled (w : Worker) (msg : Message) (events : List WorkerEvent) : Prop :=
  (∃ batch now docs answer, w.decode msg.value = .ok batch ∧ w.Sends (stabilizeBatchTime w.processor.times batch now) docs answer ∧
    .attempt (some (docs,answer)) ∈ events ∧ AllIndexed docs answer) ∨
    ∃ topic key envelope, .deadLetter topic key envelope none ∈ events ∧
      envelope.sourceTopic = msg.topic ∧ envelope.sourcePartition = msg.partition ∧
      envelope.sourceOffset = msg.offset ∧ envelope.payload = msg.value

/-- The offset is committed only for a settled message, and a batch is not dead-lettered after an
attempt in which a document failed with a transient status. -/
structure Worker.Handled.Safe (w : Worker) (handled : Worker.Handled) : Prop where
  commits : ∀ before err after, handled.events = before ++ .commit err :: after → Settled w handled.message before
  deadLetters : ∀ before topic key envelope err after,
    handled.events = before ++ .deadLetter topic key envelope err :: after →
      ∀ docs answer, lastAttempt before = some (some (docs,answer)) → ¬ SomeTransient docs answer

section Attempts
variable {w : Worker} {project : ProjectCalls} {turn : Turn} {st after : Store} {batch : DataBatch}

lemma process_indexed (done : w.processor.process (w.calls project) st batch = (after,.ok result)) :
    ∃ docs answer, w.sent project st batch = some (docs,answer) ∧ AllIndexed docs answer := by
  simp only [Processor.process] at done
  split at done
  · cases done
  split at done
  · cases done
  · rename_i derived derives
    simp only [Processor.finish] at done
    split at done
    · cases done
    · rename_i indexed
      exact ⟨_,_,by simp only [Worker.sent,derives],bulkIndex_none indexed⟩

lemma process_transient (failed : w.processor.process (w.calls project) st batch = (after,.error err))
    (sent : w.sent project st batch = some (docs,answer)) (failing : SomeTransient docs answer) :
    errorClassOf err.failure = .transient := by
  simp only [Worker.sent] at sent
  split at sent
  · cases sent
  rename_i derived derives
  cases sent
  obtain ⟨failure,reported,transient⟩ := bulkIndex_transient failing
  simp only [Processor.process,derives,Processor.finish] at failed
  split at failed
  · cases failed
    rfl
  split at failed
  · rename_i cause indexed
    cases failed
    rw [ProcessError.failure,← transient]
    exact congrArg errorClassOf (Option.some.inj (indexed.symm.trans reported))
  · rename_i indexed
    exact absurd (indexed.symm.trans reported) nofun

/-- What the attempts at a batch leave: only attempts, of which the last one indexed every document
when there is no error, and met no transient status when the error is permanent. -/
structure Attempted (w : Worker) (batch : DataBatch) (events : List WorkerEvent) (err : Option Failure) : Prop where
  only : ∀ event ∈ events, ∃ sent, event = .attempt sent
  indexed : err = none → ∃ docs answer, w.Sends batch docs answer ∧ .attempt (some (docs,answer)) ∈ events ∧ AllIndexed docs answer
  refused : ∀ failure, err = some failure → errorClassOf failure = .permanent →
    ∀ docs answer, lastAttempt events = some (some (docs,answer)) → ¬ SomeTransient docs answer

lemma lastAttempt_cons (rest : ∃ sent events', events = .attempt sent :: events') {first : WorkerEvent} :
    lastAttempt (first :: events) = lastAttempt events := by
  obtain ⟨sent,later,rfl⟩ := rest
  simp only [lastAttempt,List.filterMap_cons]
  split
  · rfl
  · rw [List.getLast?_cons_cons]

lemma Attempted.single (ended : w.attempt project st batch = (after,event,err)) :
    Attempted w batch [event] err ∧ ∃ sent, event = .attempt sent := by
  simp only [Worker.attempt] at ended
  split at ended
  · rename_i done
    cases ended
    obtain ⟨docs,answer,sent,indexed⟩ := process_indexed done
    exact ⟨⟨by simp,fun _ => ⟨docs,answer,⟨project,st,sent⟩,by simp [sent],indexed⟩,nofun⟩,_,rfl⟩
  · rename_i failed
    cases ended
    refine ⟨⟨by simp,nofun,fun failure same permanent docs answer last failing => ?_⟩,_,rfl⟩
    cases same
    rw [process_transient failed (Option.some.inj last) failing] at permanent
    cases permanent

lemma Attempted.cancelled (sent : Option (List Document × Option BulkAnswer)) (cause : String) :
    Attempted w batch [.attempt sent] (some (.other cause)) := by
  refine ⟨by simp,nofun,fun failure same permanent => ?_⟩
  cases same
  cases permanent

lemma Attempted.cons (attempted : Attempted w batch events err) (rest : ∃ sent events', events = .attempt sent :: events')
    (sent : Option (List Document × Option BulkAnswer)) : Attempted w batch (.attempt sent :: events) err where
  only event mem := by
    rcases List.mem_cons.mp mem with rfl | later
    · exact ⟨sent,rfl⟩
    · exact attempted.only event later
  indexed none := by
    obtain ⟨docs,answer,sends,mem,indexed⟩ := attempted.indexed none
    exact ⟨docs,answer,sends,List.mem_cons_of_mem _ mem,indexed⟩
  refused failure same permanent docs answer last :=
    attempted.refused failure same permanent docs answer (lastAttempt_cons rest ▸ last)

lemma retryLoop_attempted (w : Worker) (turn : Turn) (batch : DataBatch) (left : Nat) (st : Store) :
    Attempted w batch (w.retryLoop turn batch left st).2.1 (w.retryLoop turn batch left st).2.2 ∧
      ∃ sent events, (w.retryLoop turn batch left st).2.1 = .attempt sent :: events := by
  induction left generalizing st with
  | zero =>
    generalize ended : w.attempt (turn.attempts 2) st batch = result
    obtain ⟨after,event,err⟩ := result
    obtain ⟨attempted,sent,rfl⟩ := Attempted.single ended
    simp only [Worker.retryLoop,ended]
    exact ⟨attempted,sent,_,rfl⟩
  | succ left ih =>
    simp only [Worker.retryLoop]
    split
    · rename_i ended
      obtain ⟨attempted,sent,rfl⟩ := Attempted.single ended
      exact ⟨attempted,sent,_,rfl⟩
    rename_i ended
    obtain ⟨attempted,sent,rfl⟩ := Attempted.single ended
    split
    · exact ⟨attempted,sent,_,rfl⟩
    split
    · exact ⟨.cancelled sent _,sent,_,rfl⟩
    · obtain ⟨later,rest⟩ := ih _
      exact ⟨later.cons rest sent,sent,_,rfl⟩

end Attempts

lemma split_behind {front rest old after : List WorkerEvent} (absent : event ∉ front)
    (split : front ++ rest = old ++ event :: after) :
    ∃ middle, old = front ++ middle ∧ rest = middle ++ event :: after := by
  rcases List.append_eq_append_iff.mp split with ⟨middle,shape,tail⟩ | ⟨middle,shape,tail⟩
  · exact ⟨middle,shape,tail⟩
  cases middle with
  | nil => exact ⟨[],by simpa using shape.symm,by simpa using tail.symm⟩
  | cons first middle =>
    cases tail
    exact absurd (by simp [shape]) absent

section Runs
variable {w : Worker} {turn : Turn} {msg : Message}

variable {cause : Failure}

lemma reject_settled («class» : String)
    (split : (w.reject turn msg «class» cause).1 = before ++ .commit err :: after) : Settled w msg before := by
  simp only [Worker.reject] at split
  split at split
  · simp at split
  split at split
  · have mem : WorkerEvent.commit err ∈ before ++ .commit err :: after := by simp
    rw [← split] at mem
    simp at mem
  · rename_i appended
    cases before with
    | nil => cases split
    | cons first before =>
      refine .inr ⟨msg.topic ++ ".dlq",msg.key,Worker.envelope turn msg «class» cause,?_,?_⟩
      · rw [← (List.cons.inj split).1,appended]
        exact List.mem_cons_self
      · cases cause <;> exact ⟨rfl,rfl,rfl,rfl⟩

lemma reject_no_attempt («class» : String) : ∀ sent, WorkerEvent.attempt sent ∉ (w.reject turn msg «class» cause).1 := by
  intro sent
  simp only [Worker.reject]
  split
  · simp
  · split <;> simp

lemma Settled.append (settled : Settled w msg later) (front : List WorkerEvent) : Settled w msg (front ++ later) := by
  rcases settled with ⟨batch,now,docs,answer,decoded,sends,mem,indexed⟩ | ⟨topic,key,envelope,mem,source⟩
  · exact .inl ⟨batch,now,docs,answer,decoded,sends,List.mem_append.mpr (.inr mem),indexed⟩
  · exact .inr ⟨topic,key,envelope,List.mem_append.mpr (.inr mem),source⟩

lemma lastAttempt_append (none : ∀ sent, .attempt sent ∉ later) : lastAttempt (front ++ later) = lastAttempt front := by
  have empty : later.filterMap (fun event => match event with
      | .attempt sent => some sent
      | _ => Option.none) = [] := by
    rw [List.filterMap_eq_nil_iff]
    intro event mem
    cases event with
    | attempt sent => exact absurd mem (none sent)
    | deadLetter => rfl
    | commit => rfl
  rw [lastAttempt,List.filterMap_append,empty,List.append_nil]
  rfl

lemma rejected_safe (attempts : List WorkerEvent) (only : ∀ event ∈ attempts, ∃ sent, event = .attempt sent)
    (clean : ∀ docs answer, lastAttempt attempts = some (some (docs,answer)) → ¬ SomeTransient docs answer)
    («class» : String) (cause : Failure) : Worker.Handled.Safe w ⟨msg,attempts ++ (w.reject turn msg «class» cause).1⟩ where
  commits old err after split := by
    have absent : WorkerEvent.commit err ∉ attempts := fun mem => nomatch only _ mem
    obtain ⟨middle,rfl,rest⟩ := split_behind absent split
    exact (reject_settled «class» rest).append attempts
  deadLetters old topic key envelope err after split docs answer last := by
    have absent : WorkerEvent.deadLetter topic key envelope err ∉ attempts := fun mem => nomatch only _ mem
    obtain ⟨middle,rfl,rest⟩ := split_behind absent split
    refine clean docs answer ?_
    rw [← last,lastAttempt_append]
    intro sent mem
    exact reject_no_attempt «class» sent (by rw [rest]; simp [mem])

lemma committed_safe (decoded : w.decode msg.value = .ok batch)
    (attempted : Attempted w (stabilizeBatchTime w.processor.times batch now) attempts none) :
    Worker.Handled.Safe w ⟨msg,attempts ++ [.commit err]⟩ where
  commits old found after split := by
    have absent : WorkerEvent.commit found ∉ attempts := fun mem => nomatch attempted.only _ mem
    obtain ⟨middle,rfl,-⟩ := split_behind absent split
    obtain ⟨docs,answer,sends,mem,indexed⟩ := attempted.indexed rfl
    exact .inl ⟨batch,now,docs,answer,decoded,sends,List.mem_append.mpr (.inl mem),indexed⟩
  deadLetters old topic key envelope found after split := by
    have absent : WorkerEvent.deadLetter topic key envelope found ∉ attempts := fun mem => nomatch attempted.only _ mem
    obtain ⟨middle,-,rest⟩ := split_behind absent split
    have mem : WorkerEvent.deadLetter topic key envelope found ∈ [WorkerEvent.commit err] := by simp [rest]
    simp at mem

lemma attempted_safe (only : ∀ event ∈ attempts, ∃ sent, event = .attempt sent) : Worker.Handled.Safe w ⟨msg,attempts⟩ where
  commits old err after split := by
    have shape : attempts = old ++ .commit err :: after := split
    have mem : WorkerEvent.commit err ∈ attempts := by simp [shape]
    exact nomatch only _ mem
  deadLetters old topic key envelope err after split := by
    have shape : attempts = old ++ .deadLetter topic key envelope err :: after := split
    have mem : WorkerEvent.deadLetter topic key envelope err ∈ attempts := by simp [shape]
    exact nomatch only _ mem

lemma reject_commits («class» : String) (done : (w.reject turn msg «class» cause).2 = none) :
    .commit none ∈ (w.reject turn msg «class» cause).1 := by
  simp only [Worker.reject] at done ⊢
  split at done
  · cases done
  rename_i producer
  rw [if_neg producer]
  split at done
  · cases done
  · simp [Option.map_eq_none_iff.mp done]

lemma handle_safe (turn : Turn) (msg : Message) (st : Store) : Worker.Handled.Safe w ⟨msg,(w.handle turn msg st).2.1⟩ ∧
      ((w.handle turn msg st).2.2 = none → .commit none ∈ (w.handle turn msg st).2.1) := by
  have plain («class» : String) (cause : Failure) : Worker.Handled.Safe w ⟨msg,(w.reject turn msg «class» cause).1⟩ := by
    simpa using rejected_safe [] (by simp) (by simp [lastAttempt]) «class» cause
  simp only [Worker.handle]
  split
  · exact ⟨plain _ _,reject_commits _⟩
  rename_i batch decoded
  split
  · exact ⟨plain _ _,reject_commits _⟩
  split
  · exact ⟨plain _ _,reject_commits _⟩
  · obtain ⟨attempted,-⟩ := retryLoop_attempted w turn (stabilizeBatchTime w.processor.times batch turn.now) 2 st
    split
    · rename_i ended
      simp only [Worker.processWithRetry] at ended
      rw [ended] at attempted
      exact ⟨committed_safe decoded attempted,fun done => by simp [Option.map_eq_none_iff.mp done]⟩
    · rename_i err ended
      simp only [Worker.processWithRetry] at ended
      rw [ended] at attempted
      split
      · rename_i permanent
        exact ⟨rejected_safe _ attempted.only (attempted.refused err rfl permanent) _ _,
          fun done => List.mem_append.mpr (.inr (reject_commits _ done))⟩
      · exact ⟨attempted_safe attempted.only,nofun⟩

/-- For every stream of messages and every pattern of failures: an offset is committed only when
every document of the batch received a success status or a record of the message is among the dead
letters; a batch with a transient status in its last attempt is not dead-lettered; and the worker
takes up another message only behind the commit of the one before. -/
theorem worker_commits_settled (w : Worker) (turns : List Turn) (st : Store) : (∀ handled ∈ (w.run turns st).2.1, handled.Safe w) ∧
      ∀ front handled back, (w.run turns st).2.1 = front ++ handled :: back → back ≠ [] → .commit none ∈ handled.events := by
  induction turns generalizing st with
  | nil => simp [Worker.run]
  | cons turn turns ih =>
    simp only [Worker.run]
    split
    · simp
    rename_i msg fetched
    obtain ⟨safe,commits⟩ := handle_safe (w := w) turn msg st
    split
    · rename_i ended
      rw [ended] at safe
      refine ⟨by simpa using safe,fun front handled back split more => ?_⟩
      have length := congrArg List.length split
      simp only [List.length_cons,List.length_nil,List.length_append] at length
      exact absurd (List.length_eq_zero_iff.mp (by omega)) more
    · rename_i ended
      rw [ended] at safe commits
      obtain ⟨later,behind⟩ := ih _
      refine ⟨by simpa using ⟨safe,later⟩,fun front handled back split more => ?_⟩
      cases front with
      | nil =>
        cases split
        exact commits rfl
      | cons first front =>
        exact behind front handled back (List.cons.inj split).2 more

end Runs

end SysArmor.Ingest
