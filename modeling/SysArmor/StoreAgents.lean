import SysArmor.GoText
import SysArmor.Proto
import Mathlib.Data.List.AList
import SysArmor.Rows

/-! Labels and the keys the store derives from them. A key is the hash of its parts joined by
NUL characters; `digest` stands for the hexadecimal first half of the SHA-256 sum of a text. -/
namespace SysArmor.Manager
open Proto

section
open GoText

/-- The keys of a label map in the order `sort.Strings` puts them. -/
def sortedKeys (labels : Labels) : List String :=
  Quotient.liftOn labels.keys.val sortStrings (fun _ _ perm => sortStrings_eq_of_perm perm)

lemma mem_sortedKeys {labels : Labels} : key ∈ sortedKeys labels ↔ key ∈ labels := by
  rw [← Finmap.mem_keys,← Finset.mem_val,sortedKeys]
  induction labels.keys.val using Quotient.ind with
  | _ keys => exact (sortStrings_perm keys).mem_iff

lemma pairwise_sortedKeys (labels : Labels) : (sortedKeys labels).Pairwise (· < ·) := by
  have once := labels.keys.nodup
  rw [sortedKeys]
  generalize labels.keys.val = names at once
  induction names using Quotient.ind with
  | _ names =>
    have sorted : (sortStrings names).Pairwise (· ≤ ·) := List.pairwise_insertionSort _ names
    have nodup : (sortStrings names).Nodup := (sortStrings_perm names).nodup_iff.mpr once
    exact sorted.imp₂ (fun _ _ le ne => lt_of_le_of_ne le ne) nodup

/-- `labelSelectorMatches`: every named label of the selector has the wanted value. -/
def labelSelectorMatches (labels selector : Labels) : Bool :=
  ∀ key ∈ selector.keys, key ≠ "" → labels.get key = selector.get key

def labelKey (labels : Labels) : String :=
  join ((sortedKeys labels).map fun key => key ++ "=" ++ labels.get key) "\x00"

def boolString (value : Bool) : String := if value then "true" else "false"

def layerName : SignalWhere → String
  | .endpoint => "endpoint"
  | .cloud => "cloud"
  | .unspecified => ""

def sortedEntities (entities : List EntityRef) : List String :=
  sortStrings (entities.map fun entity => join [entity.kind,entity.key,entity.role] "\x00")

section
variable (digest : String → String)

def stableKey (parts : List String) : String := digest (join parts "\x00")

def signalKey (sig : Signal) : String :=
  stableKey digest ([labelKey sig.labels,layerName sig.where,sig.name,sig.lineageId,boolString sig.terminal] ++
    sortStrings sig.eventRefs ++ sortStrings sig.signalRefs ++ sortedEntities sig.entities)

def agentSessionID (tenantID agentID : String) : String := stableKey digest [tenantID,agentID]

end
end

/-! The records of the manager's store, which the gateway in local mode shares. -/

section
open GoText

/-- A time in nanoseconds; the zero time is `none`. -/
abbrev Time := Option Int

structure AgentIdentity where
  (agentID hostID version tenantID authType certIdentity : String := "")
  deriving DecidableEq

def AgentIdentity.normalized (agent : AgentIdentity) : AgentIdentity where
  agentID := trimSpace agent.agentID
  hostID := trimSpace agent.hostID
  version := trimSpace agent.version
  tenantID := if trimSpace agent.tenantID = "" then "default" else trimSpace agent.tenantID
  authType := trimSpace agent.authType
  certIdentity := trimSpace agent.certIdentity

def AgentIdentity.valid (agent : AgentIdentity) : Bool := trimSpace agent.agentID ≠ ""

def agentIdentityFromDataBatch (batch : DataBatch) : AgentIdentity :=
  let header := batch.getHeader
  ({ agentID := header.agentId, hostID := header.hostId, tenantID := header.tenantId,
     version := header.labels.get "agent_version" } : AgentIdentity).normalized

structure AgentSession where
  (sessionID tenantID agentID : String)
  (startedAt lastSeenAt lastDataSeenAt lastControlSeenAt closedAt : Time := none)
  (lastAckCursor dataTransport controlTransport status : String := "")
  deriving DecidableEq

structure SensorCapability where
  (backend version : String := "")
  deriving DecidableEq

structure AgentHealth where
  (agentID hostID tenantID : String := "")
  scope : RuntimeScope := {}
  (status policyID : String := "")
  policyVersion : UInt64 := 0
  policyMode : String := ""
  uptimeSeconds : Int := 0
  capability : SensorCapability := {}
  observedAt : Time := none
  deriving DecidableEq

structure Approval where
  (actor role : String := "")
  approved : Bool := false
  reason : String := ""
  observedAt : Time := none
  deriving DecidableEq

structure Command where
  (responseID tenantID agentID policyID : String := "")
  policyVersion : UInt64 := 0
  signalID : String := ""
  labels : Labels := ∅
  scope : RuntimeScope := {}
  (action mode target reason status actor : String := "")
  approvalRequired : Bool := false
  approvalStatus : String := ""
  approvalThreshold : UInt32 := 0
  approvalRoles : List String := []
  approvals : List Approval := []
  approvedBy : String := ""
  (approvedAt createdAt updatedAt : Time := none)
  deriving DecidableEq

structure Ack where
  (responseID tenantID agentID : String := "")
  (accepted unsupported observeOnly executed : Bool := false)
  message : String := ""
  observedAt : Time := none
  deriving DecidableEq

structure ResponsePolicy where
  (allowedActions allowedModes : List String := [])
  approvalRequired : Bool := false
  approvalThreshold : UInt32 := 0
  approvalRoles : List String := []
  allowDestructive : Bool := false
  deriving DecidableEq

/-- `policy.Policy`. Its rules and its detection, collection, telemetry and convergence settings are
left out: the store only passes them on. -/
structure Policy where
  policyID : String := ""
  version : UInt64 := 0
  tenantID : String := ""
  scope : RuntimeScope := {}
  mode : String := ""
  response : ResponsePolicy := {}
  published : Bool := false
  (createdAt updatedAt : Time := none)
  deriving DecidableEq

structure Assignment where
  (assignmentID tenantID agentID : String := "")
  scope : RuntimeScope := {}
  policyID : String := ""
  policyVersion : UInt64 := 0
  (createdAt updatedAt : Time := none)
  deriving DecidableEq

structure Enrollment where
  (enrollmentID tenantID agentID hostID tokenHash tokenPreview bootstrapTokenHash : String := "")
  bootstrapFetchedAt : Time := none
  (gatewayAddr gatewaySNI status : String := "")
  (createdAt expiresAt usedAt : Time := none)
  (issuedKeySHA256 issuedCertificatePEM issuedCAPEM issuedSerialNumber : String := "")
  (issuedNotAfter issuedAt : Time := none)
  deriving DecidableEq

structure EvidencePullbackRequest where
  (requestID tenantID agentID incidentID : String := "")
  labels : Labels := ∅
  (target reason status : String := "")
  resultOK : Bool := false
  (result actor : String := "")
  (createdAt updatedAt completedAt : Time := none)
  deriving DecidableEq

structure ControlCommand where
  (commandID tenantID agentID type status policyID : String := "")
  policyVersion : UInt64 := 0
  (contentRef contentKind contentVersion payloadJSON actor reason : String := "")
  (createdAt updatedAt sentAt lastSentAt ackedAt canceledAt expiredAt : Time := none)
  attemptCount : UInt32 := 0
  (ackStatus ackMessage ackPolicyID : String := "")
  ackPolicyVer : UInt64 := 0
  (ackReportJSON error : String := "")
  deriving DecidableEq

structure Metrics where
  (dataBatchesAppended eventsIngested endpointSignalsIngested cloudSignalsEmitted : UInt64 := 0)
  (signalsEmitted incidentsCreated lastConvergenceLatencyMs maxConvergenceLatencyMs totalConvergenceLatencyMs : UInt64 := 0)
  deriving DecidableEq
end

/-! The store: its tables in memory, the database it may be backed by, and its operations on
agents, their sessions and their telemetry. -/
open Rows

/-- `response.AuditRecord`: a row of the table of responses. -/
structure ResponseAudit where
  command : Command
  ack : Option Ack := none
  deriving DecidableEq

/-- The tables of an attached database that the modelled operations write. A row is the record in
its data column, which its key columns are computed from. -/
structure Tables where
  agents : List AgentIdentity := []
  agentSessions : List AgentSession := []
  controlCommands : List ControlCommand := []
  health : List AgentHealth := []
  responses : List ResponseAudit := []
  pullbacks : List EvidencePullbackRequest := []
  policies : List Policy := []
  assignments : List Assignment := []
  enrollments : List Enrollment := []
  -- the order that `ORDER BY` sorts texts in
  collation : LinearOrder String := inferInstance

structure Store where
  agents : List AgentIdentity := []
  events : List CanonicalEvent := []
  signals : List Signal := []
  incidents : List Incident := []
  health : AList (fun _ : String => AgentHealth) := ∅
  policies : List Policy := []
  assignments : List Assignment := []
  responses : List Command := []
  responseAcks : List Ack := []
  pullbacks : List EvidencePullbackRequest := []
  controlCommands : List ControlCommand := []
  agentSessions : List AgentSession := []
  enrollments : List Enrollment := []
  metrics : Metrics := {}
  backend : Option Tables := none

def orElse (value fallback : String) : String := if value = "" then fallback else value

/-! The primary keys of the tables. -/

def agentRowKey (agent : AgentIdentity) : String × String := (agent.normalized.tenantID,agent.normalized.agentID)
def healthKey (health : AgentHealth) : String × String := (orElse health.tenantID "default",health.agentID)
def responseKey (row : ResponseAudit) : String × String :=
  (orElse row.command.tenantID "default",row.command.responseID)
def pullbackKey (req : EvidencePullbackRequest) : String × String := (orElse req.tenantID "default",req.requestID)
def commandKey (cmd : ControlCommand) : String × String := (orElse cmd.tenantID "default",cmd.commandID)
def policyKey (policy : Policy) : String × String × UInt64 :=
  (orElse policy.tenantID "default",policy.policyID,policy.version)
def assignmentRowKey (assignment : Assignment) : String × String :=
  (orElse assignment.tenantID "default",assignment.assignmentID)
def enrollmentKey (enrollment : Enrollment) : String × String :=
  (orElse enrollment.tenantID "default",enrollment.enrollmentID)

def sortedHealth (st : Store) : List AgentHealth :=
  (st.health.entries.map (·.2)).insertionSort fun a b =>
    a.tenantID < b.tenantID ∨ a.tenantID = b.tenantID ∧ a.agentID ≤ b.agentID

def responseRows (responses : List Command) (acks : List Ack) : List ResponseAudit :=
  (responses.filter (·.responseID ≠ "")).map fun cmd =>
    ⟨cmd,acks.reverse.find? fun ack => ack.responseID ≠ "" && ack.responseID = cmd.responseID⟩

/-- `saveTables`: the rows in memory are written over those of the same key, in one transaction. -/
def Tables.save (tables : Tables) (st : Store) : Tables where
  agents := project agentRowKey (st.agents.filter (·.valid)) tables.agents
  agentSessions := project (fun session => (orElse session.tenantID "default",session.sessionID))
    (st.agentSessions.filter fun session => session.sessionID ≠ "" && session.agentID ≠ "") tables.agentSessions
  controlCommands := project commandKey (st.controlCommands.filter fun cmd => cmd.commandID ≠ "") tables.controlCommands
  health := project healthKey ((sortedHealth st).filter (·.agentID ≠ "")) tables.health
  responses := project responseKey (responseRows st.responses st.responseAcks) tables.responses
  pullbacks := project pullbackKey (st.pullbacks.filter (·.requestID ≠ "")) tables.pullbacks
  policies := project policyKey (st.policies.filter fun policy => policy.policyID ≠ "" && policy.version ≠ 0) tables.policies
  assignments := project assignmentRowKey
    (st.assignments.filter fun assignment => assignment.assignmentID ≠ "" && assignment.policyID ≠ "") tables.assignments
  enrollments := project enrollmentKey
    (st.enrollments.filter fun enrollment => enrollment.enrollmentID ≠ "" && enrollment.tokenHash ≠ "") tables.enrollments
  collation := tables.collation

def Store.writeThrough (st : Store) (written : Bool) (write : Tables → Tables) : Store :=
  if written then { st with backend := st.backend.map write } else st

/-- `Save`. When it fails nothing is persisted; a state file is never read back while the process
runs, so only a database shows in the state. -/
def Store.save (st : Store) (failure : Option ε) : Store × Option ε :=
  match failure with
  | some failure => (st,some failure)
  | none => ({ st with backend := st.backend.map fun tables => tables.save st },none)

def sameAgent (agent existing : AgentIdentity) : Bool :=
  existing.tenantID = agent.tenantID && existing.agentID = agent.agentID

def AgentIdentity.keeping (agent existing : AgentIdentity) : AgentIdentity :=
  { agent with
    hostID := orElse agent.hostID existing.hostID
    version := orElse agent.version existing.version
    authType := orElse agent.authType existing.authType
    certIdentity := orElse agent.certIdentity existing.certIdentity }

def Store.addAgent (st : Store) (agent : AgentIdentity) : Store :=
  let agent := agent.normalized
  if agent.valid then { st with agents := upsert (sameAgent agent) agent.keeping agent st.agents } else st

inductive BindError where
  | agentRequired
  | authRequired
  | identityMismatch (registered presented : String)
  | authMismatch (registered presented : String)
  deriving DecidableEq

def bindConflict (agent existing : AgentIdentity) : Option BindError :=
  if existing.certIdentity ≠ "" && existing.certIdentity ≠ agent.certIdentity then
    some (.identityMismatch existing.certIdentity agent.certIdentity)
  else if existing.authType ≠ "" && existing.authType ≠ agent.authType then
    some (.authMismatch existing.authType agent.authType)
  else none

def Store.bindAgentIdentity (st : Store) (agent : AgentIdentity) : Except BindError Store :=
  let agent := agent.normalized
  if !agent.valid then .error .agentRequired
  else if agent.authType = "" || agent.certIdentity = "" then .error .authRequired
  else match (st.agents.find? (sameAgent agent)).bind (bindConflict agent) with
    | some conflict => .error conflict
    -- both checks passed, so neither the authentication type nor the certificate is empty
    | none => .ok { st with agents := upsert (sameAgent agent) agent.keeping agent st.agents }

lemma bindAgentIdentity_eq {st st' : Store} (bound : st.bindAgentIdentity agent = .ok st') :
    st' = { st with agents := upsert (sameAgent agent.normalized) agent.normalized.keeping agent.normalized st.agents } := by
  simp only [Store.bindAgentIdentity] at bound
  split at bound
  · cases bound
  split at bound
  · cases bound
  · split at bound
    · cases bound
    · exact (Except.ok.inj bound).symm

def agentHealthKey (tenantID agentID : String) : String := tenantID ++ "/" ++ agentID

def Store.upsertAgentHealth (st : Store) (health : AgentHealth) : Store :=
  if health.agentID = "" then st
  else { st with health := st.health.insert (agentHealthKey health.tenantID health.agentID) health }

def AgentSession.recordBatch (session : AgentSession) (batchID transport : String) (observedAt : Int) : AgentSession :=
  { session with
    lastSeenAt := some observedAt
    lastDataSeenAt := some observedAt
    lastAckCursor := orElse batchID session.lastAckCursor
    dataTransport := orElse transport session.dataTransport
    status := "active"
    closedAt := none }

section
variable (digest : String → String)

def dataSession (agent : AgentIdentity) (batchID transport : String) (observedAt : Int) : AgentSession where
  sessionID := agentSessionID digest agent.tenantID agent.agentID
  tenantID := agent.tenantID
  agentID := agent.agentID
  startedAt := some observedAt
  lastSeenAt := some observedAt
  lastDataSeenAt := some observedAt
  lastAckCursor := batchID
  dataTransport := transport
  status := "active"

def Store.recordDataBatchAppend (st : Store) (agent : AgentIdentity) (batchID transport : String)
    (observedAt : Int) : Store :=
  let agent := agent.normalized
  if !agent.valid then st
  else
    let sessionID := agentSessionID digest agent.tenantID agent.agentID
    let update := fun existing : AgentSession => existing.recordBatch batchID transport observedAt
    { st with agentSessions := upsert (·.sessionID = sessionID) update
                                 (dataSession digest agent batchID transport observedAt) st.agentSessions }

/-- `updateAgentSession` as a control connection opens: it never sets the cursor. -/
def Store.recordControlSessionOpen (st : Store) (tenantID agentID transport : String) (observedAt : Int) : Store :=
  let tenantID := orElse (GoText.trimSpace tenantID) "default"
  let agentID := GoText.trimSpace agentID
  if agentID = "" then st
  else
    let sessionID := agentSessionID digest tenantID agentID
    let session : AgentSession := { sessionID, tenantID, agentID, startedAt := some observedAt
                                    lastSeenAt := some observedAt
                                    lastControlSeenAt := if transport = "" then none else some observedAt
                                    controlTransport := transport, status := "open" }
    let update := fun existing : AgentSession => { existing with
                                    lastSeenAt := some observedAt
                                    lastControlSeenAt := if transport = "" then existing.lastControlSeenAt
                                      else some observedAt
                                    controlTransport := orElse transport existing.controlTransport
                                    status := "open"
                                    closedAt := none }
    { st with agentSessions := upsert (·.sessionID = sessionID) update session st.agentSessions }

def Store.addSignal (st : Store) (sig : Signal) : Store :=
  let key := signalKey digest sig
  { st with signals := upsert (fun existing => key ≠ "" && signalKey digest existing = key) (fun _ => sig) sig st.signals }

end

def Store.addEvent (st : Store) (ev : CanonicalEvent) : Store :=
  { st with events := upsert (fun existing => ev.id ≠ "" && existing.id = ev.id) (fun _ => ev) ev st.events }

def passesFilters (tenantID agentID recordTenant recordAgent : String) : Bool :=
  (tenantID = "" || recordTenant = tenantID) && (agentID = "" || recordAgent = agentID)

/-- `ListAgentSessions`, from the database when one is attached and can be read. The order of the
rows plays no part in what reads them. -/
def Store.listAgentSessions (st : Store) (readable : Bool) (tenantID agentID : String) : List AgentSession :=
  let sessions := match readable,st.backend with
    | true,some tables => tables.agentSessions
    | _,_ => st.agentSessions
  sessions.filter fun session => passesFilters tenantID agentID session.tenantID session.agentID

def Store.listEvents (st : Store) (labels : Labels) : List CanonicalEvent :=
  st.events.filter fun ev => labelSelectorMatches ev.labels labels

def Store.listSignals (st : Store) (labels : Labels) (layer : String) : List Signal :=
  st.signals.filter fun sig => labelSelectorMatches sig.labels labels && (layer = "" || layerName sig.where = layer)

def Store.replaceDerivedForLabels (st : Store) (labels : Labels) (cloudSignals : List Signal)
    (incidents : List Incident) : Store :=
  { st with
    signals := st.signals.filter (fun sig => !(labelSelectorMatches sig.labels labels && layerName sig.where = "cloud")) ++
      cloudSignals
    incidents := st.incidents.filter (fun inc => !labelSelectorMatches inc.labels labels) ++ incidents }

def Store.recordDataBatchIngest (st : Store) (events endpointSignals cloudSignals incidents : Nat)
    (latencyMs : UInt64) : Store :=
  let metrics := st.metrics
  { st with metrics := {
      dataBatchesAppended := metrics.dataBatchesAppended + 1
      eventsIngested := metrics.eventsIngested + events.toUInt64
      endpointSignalsIngested := metrics.endpointSignalsIngested + endpointSignals.toUInt64
      cloudSignalsEmitted := metrics.cloudSignalsEmitted + cloudSignals.toUInt64
      signalsEmitted := metrics.signalsEmitted + (endpointSignals + cloudSignals).toUInt64
      incidentsCreated := metrics.incidentsCreated + incidents.toUInt64
      lastConvergenceLatencyMs := latencyMs
      maxConvergenceLatencyMs := max metrics.maxConvergenceLatencyMs latencyMs
      totalConvergenceLatencyMs := metrics.totalConvergenceLatencyMs + latencyMs } }

end SysArmor.Manager
