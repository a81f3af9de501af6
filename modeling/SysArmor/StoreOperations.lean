import SysArmor.StorePolicies

/-! The store's operations on control commands, evidence pullbacks and the evidence of incidents. An
empty tenant or agent in a lookup stands for any. -/
namespace SysArmor.Manager

section
open GoText Proto Rows

def normalizeEvidencePullback (now : Int) (req : EvidencePullbackRequest) : EvidencePullbackRequest :=
  { req with
    tenantID := orElse req.tenantID "default"
    status := orElse req.status "pending"
    createdAt := req.createdAt.or (some now)
    updatedAt := some now
    requestID := orElse req.requestID ("evpb-" ++ toString now) }

def EvidencePullbackRequest.replacing (req : EvidencePullbackRequest) : Option EvidencePullbackRequest → EvidencePullbackRequest
  | some existing => { req with createdAt := existing.createdAt }
  | none => req

def Store.createEvidencePullback (st : Store) (now : Int) (req : EvidencePullbackRequest) : Store × EvidencePullbackRequest :=
  let req := normalizeEvidencePullback now req
  let hit := fun existing : EvidencePullbackRequest => existing.requestID = req.requestID
  let req := req.replacing (st.pullbacks.find? hit)
  ({ st with pullbacks := upsert hit (fun _ => req) req st.pullbacks },req)

def namesPullback (requestID tenantID agentID : String) (req : EvidencePullbackRequest) : Bool :=
  req.requestID = requestID && passesFilters tenantID agentID req.tenantID req.agentID

def Store.getEvidencePullback (st : Store) (requestID tenantID agentID : String) : Option EvidencePullbackRequest :=
  if requestID = "" then none else st.pullbacks.find? (namesPullback requestID tenantID agentID)

def Store.pendingEvidencePullbacks (st : Store) (tenantID agentID : String) : List EvidencePullbackRequest :=
  ((st.pullbacks.filter fun req => passesFilters tenantID agentID req.tenantID req.agentID).insertionSort
    fun a b => !Time.before b.createdAt a.createdAt).filter (·.status = "pending")

inductive Evidence where
  | none
  | undecodable
  | graph (evidence : EvidenceSubgraph)
  deriving DecidableEq

structure EvidencePullbackResult where
  (requestID tenantID agentID : String := "")
  ok : Bool := false
  message : String := ""
  evidence : Evidence := .none
  observedAt : Time := none
  deriving DecidableEq

def EvidencePullbackRequest.complete (req : EvidencePullbackRequest) (now : Int) (result : EvidencePullbackResult) :
    EvidencePullbackRequest :=
  let observedAt := result.observedAt.or (some now)
  { req with
    resultOK := result.ok
    result := result.message
    updatedAt := observedAt
    completedAt := observedAt
    status := if result.ok then "completed" else "failed" }

def Store.completeEvidencePullback (st : Store) (now : Int) (result : EvidencePullbackResult) :
    Store × Option EvidencePullbackRequest :=
  if result.requestID = "" then (st,none)
  else
    let hit := namesPullback result.requestID result.tenantID result.agentID
    match st.pullbacks.find? hit with
    | none => (st,none)
    | some req =>
      let req := req.complete now result
      ({ st with pullbacks := updateFirst hit (fun _ => req) st.pullbacks },some req)

/-! The evidence of incidents. -/

def graphNodeKey (node : GraphNode) : String := orElse node.id (node.kind ++ "\x00" ++ node.label)
def graphEdgeKey (edge : GraphEdge) : String := orElse edge.id (edge.from ++ "\x00" ++ edge.to ++ "\x00" ++ edge.kind)

def uniqueBy (key : α → String) (items : List α) : List α :=
  items.foldl (fun kept item => if key item = "" || kept.any (key · = key item) then kept else kept ++ [item]) []

def mergeEvidence (base : Option EvidenceSubgraph) (extra : EvidenceSubgraph) : EvidenceSubgraph where
  nodes := uniqueBy graphNodeKey ((base.getD {}).nodes ++ extra.nodes)
  edges := uniqueBy graphEdgeKey ((base.getD {}).edges ++ extra.edges)

def namesIncident (id : String) (labels : Labels) (inc : Incident) : Bool :=
  (id = "" || inc.id = id) && labelSelectorMatches inc.labels labels

def Store.attachIncidentEvidence (st : Store) (id : String) (labels : Labels) (evidence : EvidenceSubgraph) : Store × Bool :=
  if id = "" && labels = ∅ then (st,false)
  else match st.incidents.find? (namesIncident id labels) with
    | none => (st,false)
    | some inc =>
      let inc := { inc with evidence := some (mergeEvidence inc.evidence evidence) }
      ({ st with incidents := updateFirst (namesIncident id labels) (fun _ => inc) st.incidents },true)

/-! Control commands. -/

def normalizeControlCommand (now : Int) (cmd : ControlCommand) : ControlCommand :=
  { cmd with
    type := trimSpace cmd.type
    tenantID := orElse cmd.tenantID "default"
    status := orElse cmd.status "pending"
    createdAt := cmd.createdAt.or (some now)
    updatedAt := some now
    commandID := orElse cmd.commandID ("ctrl-" ++ toString now) }

def controlCommandTerminalStatus (status : String) : Bool :=
  status ∈ ["applied","rejected","failed","canceled","expired"]

def ControlCommand.replacing (cmd : ControlCommand) : Option ControlCommand → ControlCommand
  | some existing => { cmd with createdAt := existing.createdAt, sentAt := cmd.sentAt.or existing.sentAt
                                ackedAt := cmd.ackedAt.or existing.ackedAt }
  | none => cmd

def Store.createControlCommand (st : Store) (now : Int) (cmd : ControlCommand) : Store × ControlCommand :=
  let cmd := normalizeControlCommand now cmd
  let hit := fun existing : ControlCommand => existing.commandID = cmd.commandID
  let cmd := cmd.replacing (st.controlCommands.find? hit)
  ({ st with controlCommands := upsert hit (fun _ => cmd) cmd st.controlCommands },cmd)

def Store.listControlCommands (st : Store) (readable : Bool) (tenantID agentID commandType : String) : List ControlCommand :=
  match readable,st.backend with
  | true,some tables =>
    let order := tables.collation
    (tables.controlCommands.filter fun cmd => passesFilters tenantID agentID (orElse cmd.tenantID "default") cmd.agentID &&
      (commandType = "" || cmd.type = commandType)).insertionSort fun a b =>
        Time.before a.createdAt b.createdAt ∨ a.createdAt = b.createdAt ∧ order.le a.commandID b.commandID
  | _,_ =>
    (st.controlCommands.filter fun cmd => passesFilters tenantID agentID cmd.tenantID cmd.agentID &&
      (commandType = "" || cmd.type = commandType)).insertionSort fun a b => !Time.before b.createdAt a.createdAt

def Store.pendingControlCommands (st : Store) (readable : Bool) (tenantID agentID : String) : List ControlCommand :=
  (st.listControlCommands readable tenantID agentID "").filter fun cmd => !controlCommandTerminalStatus cmd.status

def namesCommand (commandID tenantID agentID : String) (cmd : ControlCommand) : Bool :=
  cmd.commandID = commandID && passesFilters tenantID agentID cmd.tenantID cmd.agentID

def sameSnapshot (cmd existing : ControlCommand) : Bool :=
  existing.commandID = cmd.commandID && existing.tenantID = cmd.tenantID

def upsertControlCommandSnapshot (commands : List ControlCommand) (cmd : ControlCommand) : List ControlCommand :=
  upsert (sameSnapshot cmd) (fun _ => cmd) cmd commands

/-- The pattern of all updates of a command: the first match in memory is changed in place; else the
first match among the listed commands is changed and put into memory. -/
def Store.updateControlCommand (st : Store) (readable : Bool) (commandID tenantID agentID : String)
    (update : ControlCommand → ControlCommand) : Store × Option ControlCommand :=
  if commandID = "" then (st,none)
  else match st.controlCommands.find? (namesCommand commandID tenantID agentID) with
    | some cmd =>
      ({ st with controlCommands := updateFirst (namesCommand commandID tenantID agentID) (fun _ => update cmd)
                                      st.controlCommands },some (update cmd))
    | none =>
      match (st.listControlCommands readable tenantID agentID "").find? (·.commandID = commandID) with
      | some cmd =>
        ({ st with controlCommands := upsertControlCommandSnapshot st.controlCommands (update cmd) },some (update cmd))
      | none => (st,none)

def ControlCommand.markSent (cmd : ControlCommand) (sentAt : Int) : ControlCommand :=
  { cmd with
    status := if controlCommandTerminalStatus cmd.status then cmd.status else "sent"
    sentAt := some sentAt
    lastSentAt := some sentAt
    attemptCount := cmd.attemptCount + 1
    updatedAt := some sentAt }

def Store.markControlCommandSent (st : Store) (readable : Bool) (commandID tenantID agentID : String) (sentAt : Int) :
    Store × Option ControlCommand :=
  st.updateControlCommand readable commandID tenantID agentID (·.markSent sentAt)

def ControlCommand.cancel (cmd : ControlCommand) (now : Int) (actor reason : String) : ControlCommand :=
  if controlCommandTerminalStatus cmd.status then cmd
  else { cmd with status := "canceled", canceledAt := some now, updatedAt := some now
                  actor := orElse actor cmd.actor, error := orElse reason cmd.error }

def Store.cancelControlCommand (st : Store) (now : Int) (readable : Bool) (commandID tenantID agentID actor reason : String) :
    Store × Option ControlCommand :=
  st.updateControlCommand readable commandID tenantID agentID (·.cancel now actor reason)

def ControlCommand.retry (cmd : ControlCommand) (now : Int) (actor reason : String) : ControlCommand :=
  if cmd.status = "applied" then cmd
  else { cmd with status := "pending", updatedAt := some now, ackedAt := none, canceledAt := none, expiredAt := none
                  ackStatus := "", ackMessage := "", ackPolicyID := "", ackPolicyVer := 0, ackReportJSON := ""
                  error := "", actor := orElse actor cmd.actor, reason := orElse reason cmd.reason }

def Store.retryControlCommand (st : Store) (now : Int) (readable : Bool) (commandID tenantID agentID actor reason : String) :
    Store × Option ControlCommand :=
  st.updateControlCommand readable commandID tenantID agentID (·.retry now actor reason)

def ControlCommand.expire (cmd : ControlCommand) (now : Int) (reason : String) : ControlCommand :=
  if controlCommandTerminalStatus cmd.status then cmd
  else { cmd with status := "expired", expiredAt := some now, updatedAt := some now, error := orElse reason cmd.error }

def Store.expireControlCommand (st : Store) (now : Int) (readable : Bool) (commandID tenantID agentID reason : String) :
    Store × Option ControlCommand :=
  st.updateControlCommand readable commandID tenantID agentID (·.expire now reason)

structure ControlCommandAck where
  (commandID tenantID agentID status message policyID : String := "")
  policyVersion : UInt64 := 0
  reportJSON : String := ""
  observedAt : Time := none
  deriving DecidableEq

def applyControlCommandAck (now : Int) (ack : ControlCommandAck) (cmd : ControlCommand) : ControlCommand :=
  let status := orElse ack.status "applied"
  let observedAt := ack.observedAt.or (some now)
  let cmd :=
    if status ∈ ["applied","accepted","validated","degraded"] then { cmd with status := "applied" }
    else if status = "rejected" || status = "failed" then { cmd with status, error := ack.message }
    else { cmd with status }
  { cmd with
    ackStatus := ack.status
    ackMessage := ack.message
    ackPolicyID := ack.policyID
    ackPolicyVer := ack.policyVersion
    ackReportJSON := ack.reportJSON
    ackedAt := observedAt
    updatedAt := observedAt }

def Store.ackControlCommand (st : Store) (now : Int) (readable : Bool) (ack : ControlCommandAck) : Store × Option ControlCommand :=
  st.updateControlCommand readable ack.commandID ack.tenantID ack.agentID (applyControlCommandAck now ack)
end

/-! Enrollments. With a database attached their state changes are made there, in a transaction, and
copied into memory; without one, in memory only. -/

section
open GoText Rows

def normalizeEnrollment (enrollment : Enrollment) : Enrollment :=
  { enrollment with
    enrollmentID := trimSpace enrollment.enrollmentID
    tenantID := orElse (trimSpace enrollment.tenantID) "default"
    agentID := trimSpace enrollment.agentID
    hostID := trimSpace enrollment.hostID
    tokenHash := trimSpace enrollment.tokenHash
    tokenPreview := trimSpace enrollment.tokenPreview
    gatewayAddr := trimSpace enrollment.gatewayAddr
    gatewaySNI := trimSpace enrollment.gatewaySNI
    status := trimSpace enrollment.status }

def sameEnrollment (enrollment existing : Enrollment) : Bool :=
  existing.tenantID = enrollment.tenantID && existing.enrollmentID = enrollment.enrollmentID

def Store.replaceEnrollment (st : Store) (enrollment : Enrollment) : Store :=
  { st with enrollments := upsert (sameEnrollment enrollment) (fun _ => enrollment) enrollment st.enrollments }

def Store.createEnrollment (st : Store) (now : Int) (enrollment : Enrollment) : Store × Enrollment :=
  let enrollment := normalizeEnrollment enrollment
  if enrollment.enrollmentID = "" || enrollment.tokenHash = "" then (st,{})
  else
    let enrollment := { enrollment with createdAt := enrollment.createdAt.or (some now)
                                        status := orElse enrollment.status "active" }
    (st.replaceEnrollment enrollment,enrollment)

def Tables.upsertEnrollment (tables : Tables) (enrollment : Enrollment) : Tables :=
  if enrollment.enrollmentID = "" || enrollment.tokenHash = "" then tables
  else { tables with enrollments := project enrollmentKey [enrollment] tables.enrollments }

/-- The newest of the rows that pass a test (`ORDER BY created_at DESC LIMIT 1`). -/
def Tables.newestEnrollment (tables : Tables) (passes : Enrollment → Bool) : Option Enrollment :=
  ((tables.enrollments.filter passes).insertionSort fun a b => !Time.before a.createdAt b.createdAt).head?

def Store.writeEnrollment (st : Store) (tables : Tables) (enrollment : Enrollment) : Store :=
  ({ st with backend := some (tables.upsertEnrollment enrollment) }).replaceEnrollment enrollment

def Enrollment.use (enrollment : Enrollment) (usedAt : Time) : Enrollment := { enrollment with status := "used", usedAt }

/-- `MarkEnrollmentUsed` on the tables in memory: the first enrollment with the token decides. -/
def Store.markEnrollmentUsedInMemory (st : Store) (tokenHash : String) (usedAt : Time) : Store × Option Enrollment :=
  match st.enrollments.find? (·.tokenHash = tokenHash) with
  | none => (st,none)
  | some enrollment =>
    if enrollment.status ≠ "active" then (st,none)
    else
      let enrollment := enrollment.use usedAt
      ({ st with enrollments := updateFirst (·.tokenHash = tokenHash) (fun _ => enrollment) st.enrollments },some enrollment)

/-- `MarkEnrollmentUsed`: a database that cannot be read or written, or has no active row, leaves it
to memory. -/
def Store.markEnrollmentUsed (st : Store) (now : Int) (readable written : Bool) (tokenHash : String) (usedAt : Time) :
    Store × Option Enrollment :=
  let tokenHash := trimSpace tokenHash
  let usedAt := usedAt.or (some now)
  if tokenHash = "" then (st,none)
  else match st.backend with
    | none => st.markEnrollmentUsedInMemory tokenHash usedAt
    | some tables =>
      match tables.newestEnrollment (·.tokenHash = tokenHash) with
      | none => st.markEnrollmentUsedInMemory tokenHash usedAt
      | some enrollment =>
        if readable && written && enrollment.status = "active" then
          (st.writeEnrollment tables (enrollment.use usedAt),some (enrollment.use usedAt))
        else st.markEnrollmentUsedInMemory tokenHash usedAt

def Enrollment.fetchable (enrollment : Enrollment) (fetchedAt : Time) : Bool :=
  enrollment.status = "active" && enrollment.bootstrapFetchedAt = none &&
    (enrollment.expiresAt = none || !Time.before enrollment.expiresAt fetchedAt)

def Enrollment.fetch (enrollment : Enrollment) (enrollmentHash enrollmentPreview : String) (fetchedAt : Time) : Enrollment :=
  { enrollment with tokenHash := enrollmentHash, tokenPreview := enrollmentPreview, bootstrapFetchedAt := fetchedAt }

/-- `ConsumeEnrollmentBootstrap`. A row without a bootstrap token has no such field in its data, so it
is not found in the database. The transaction of the database either commits or fails as a whole. -/
def Store.consumeEnrollmentBootstrap (st : Store) (now : Int) (written : Bool)
    (bootstrapHash enrollmentHash enrollmentPreview : String) (fetchedAt : Time) : Store × Option Enrollment :=
  match st.backend with
  | some tables =>
    match tables.newestEnrollment fun row => row.bootstrapTokenHash ≠ "" && row.bootstrapTokenHash = bootstrapHash with
    | none => (st,none)
    | some enrollment =>
      if written && enrollment.fetchable fetchedAt then
        let enrollment := enrollment.fetch enrollmentHash enrollmentPreview fetchedAt
        (st.writeEnrollment tables enrollment,some enrollment)
      else (st,none)
  | none =>
    let fetchedAt := fetchedAt.or (some now)
    match st.enrollments.find? (·.bootstrapTokenHash = bootstrapHash) with
    | none => (st,none)
    | some enrollment =>
      if enrollment.fetchable fetchedAt then
        let enrollment := enrollment.fetch enrollmentHash enrollmentPreview fetchedAt
        ({ st with enrollments := updateFirst (·.bootstrapTokenHash = bootstrapHash) (fun _ => enrollment) st.enrollments },
          some enrollment)
      else (st,none)

inductive EnrollmentIssueResult where
  | issued
  | replay
  | conflict
  | missing
  deriving DecidableEq

def Enrollment.issue (proposed current : Enrollment) (keyHash : String) : Enrollment :=
  { proposed with tokenHash := current.tokenHash, status := "issued", issuedKeySHA256 := keyHash }

def Enrollment.issueResult (current : Enrollment) (now : Int) (keyHash : String) : EnrollmentIssueResult :=
  if current.status = "issued" then
    if current.issuedKeySHA256 = keyHash then .replay else .conflict
  else if current.status ≠ "active" || (current.expiresAt ≠ none && Time.before current.expiresAt (some now)) then .conflict
  else .issued

def Store.getEnrollmentByTokenHash (st : Store) (readable : Bool) (tokenHash : String) : Option Enrollment :=
  let tokenHash := trimSpace tokenHash
  if tokenHash = "" then none
  else match readable,st.backend with
    | true,some tables => tables.newestEnrollment (·.tokenHash = tokenHash)
    | _,_ => st.enrollments.find? (·.tokenHash = tokenHash)

def Enrollment.unissued (current : Enrollment) : EnrollmentIssueResult → Enrollment
  | .replay => current
  | _ => {}

/-- `CommitEnrollmentIssue`; the certificate it records beside the enrollment is left out. -/
def Store.commitEnrollmentIssue (st : Store) (now : Int) (written : Bool) (tokenHash keyHash : String)
    (proposed : Enrollment) : Store × Enrollment × EnrollmentIssueResult :=
  let tokenHash := trimSpace tokenHash
  let keyHash := trimSpace keyHash
  if tokenHash = "" || keyHash = "" then (st,{},.missing)
  else match st.backend with
    | some tables =>
      if !written then (st,{},.missing)
      else match tables.newestEnrollment (·.tokenHash = tokenHash) with
        | none => (st,{},.missing)
        | some current =>
          match current.issueResult now keyHash with
          | .issued =>
            let issued := proposed.issue current keyHash
            (st.writeEnrollment tables issued,issued,.issued)
          | result => (st,current.unissued result,result)
    | none =>
      match st.enrollments.find? (·.tokenHash = tokenHash) with
      | none => (st,{},.missing)
      | some current =>
        match current.issueResult now keyHash with
        | .issued =>
          let issued := proposed.issue current keyHash
          ({ st with enrollments := updateFirst (·.tokenHash = tokenHash) (fun _ => issued) st.enrollments },issued,.issued)
        | result => (st,current.unissued result,result)
end

/-! The operations of the store on its records, as one type: sequences of operations, by one instance
or by several, are lists of it. -/
open Proto

structure Calls where
  now : Int := 0
  (readable written : Bool := true)

inductive Operation where
  | addAgent (agent : AgentIdentity)
  | bindAgentIdentity (agent : AgentIdentity)
  | upsertAgentHealth (health : AgentHealth)
  | recordDataBatchAppend (agent : AgentIdentity) (batchID transport : String)
  | recordControlSessionOpen (tenantID agentID transport : String)
  | addEvent (ev : CanonicalEvent)
  | addSignal (sig : Signal)
  | replaceDerivedForLabels (labels : Labels) (cloudSignals : List Signal) (incidents : List Incident)
  | ensureDefaultPolicy (tenantID : String)
  | upsertPolicy (policy : Policy)
  | publishPolicy (tenantID policyID : String) (version : UInt64) (published : Bool)
  | assignPolicy (assignment : Assignment)
  | createResponse (cmd : Command)
  | approveResponse (tenantID agentID responseID : String) (approved : Bool) (actor role reason : String)
  | ackResponse (ack : Ack)
  | createEvidencePullback (req : EvidencePullbackRequest)
  | completeEvidencePullback (result : EvidencePullbackResult)
  | attachIncidentEvidence (id : String) (labels : Labels) (evidence : EvidenceSubgraph)
  | createControlCommand (cmd : ControlCommand)
  | markControlCommandSent (commandID tenantID agentID : String) (sentAt : Int)
  | cancelControlCommand (commandID tenantID agentID actor reason : String)
  | retryControlCommand (commandID tenantID agentID actor reason : String)
  | expireControlCommand (commandID tenantID agentID reason : String)
  | ackControlCommand (ack : ControlCommandAck)
  | createEnrollment (enrollment : Enrollment)
  | markEnrollmentUsed (tokenHash : String) (usedAt : Time)
  | consumeEnrollmentBootstrap (bootstrapHash enrollmentHash enrollmentPreview : String) (fetchedAt : Time)
  | commitEnrollmentIssue (tokenHash keyHash : String) (proposed : Enrollment)
  -- `written` says whether the save goes through
  | save

section
variable (digest : String → String)

def Store.perform (st : Store) (calls : Calls) : Operation → Store
  | .addAgent agent => st.addAgent agent
  | .bindAgentIdentity agent => match st.bindAgentIdentity agent with
    | .error _ => st
    | .ok st => st
  | .upsertAgentHealth health => st.upsertAgentHealth health
  | .recordDataBatchAppend agent batchID transport => st.recordDataBatchAppend digest agent batchID transport calls.now
  | .recordControlSessionOpen tenantID agentID transport =>
    st.recordControlSessionOpen digest tenantID agentID transport calls.now
  | .addEvent ev => st.addEvent ev
  | .addSignal sig => st.addSignal digest sig
  | .replaceDerivedForLabels labels cloudSignals incidents => st.replaceDerivedForLabels labels cloudSignals incidents
  | .ensureDefaultPolicy tenantID => st.ensureDefaultPolicy calls.now tenantID
  | .upsertPolicy policy => (st.upsertPolicy calls.now calls.written policy).1
  | .publishPolicy tenantID policyID version published =>
    (st.publishPolicy calls.now calls.written tenantID policyID version published).1
  | .assignPolicy assignment => (st.assignPolicy digest calls.now calls.written assignment).1
  | .createResponse cmd => (st.createResponse calls.now calls.written cmd).1
  | .approveResponse tenantID agentID responseID approved actor role reason =>
    (st.approveResponse calls.now calls.written tenantID agentID responseID approved actor role reason).1
  | .ackResponse ack => (st.ackResponse calls.now calls.written ack).1
  | .createEvidencePullback req => (st.createEvidencePullback calls.now req).1
  | .completeEvidencePullback result => (st.completeEvidencePullback calls.now result).1
  | .attachIncidentEvidence id labels evidence => (st.attachIncidentEvidence id labels evidence).1
  | .createControlCommand cmd => (st.createControlCommand calls.now cmd).1
  | .markControlCommandSent commandID tenantID agentID sentAt =>
    (st.markControlCommandSent calls.readable commandID tenantID agentID sentAt).1
  | .cancelControlCommand commandID tenantID agentID actor reason =>
    (st.cancelControlCommand calls.now calls.readable commandID tenantID agentID actor reason).1
  | .retryControlCommand commandID tenantID agentID actor reason =>
    (st.retryControlCommand calls.now calls.readable commandID tenantID agentID actor reason).1
  | .expireControlCommand commandID tenantID agentID reason =>
    (st.expireControlCommand calls.now calls.readable commandID tenantID agentID reason).1
  | .ackControlCommand ack => (st.ackControlCommand calls.now calls.readable ack).1
  | .createEnrollment enrollment => (st.createEnrollment calls.now enrollment).1
  | .markEnrollmentUsed tokenHash usedAt =>
    (st.markEnrollmentUsed calls.now calls.readable calls.written tokenHash usedAt).1
  | .consumeEnrollmentBootstrap bootstrapHash enrollmentHash enrollmentPreview fetchedAt =>
    (st.consumeEnrollmentBootstrap calls.now calls.written bootstrapHash enrollmentHash enrollmentPreview fetchedAt).1
  | .commitEnrollmentIssue tokenHash keyHash proposed =>
    (st.commitEnrollmentIssue calls.now calls.written tokenHash keyHash proposed).1
  | .save => (st.save (if calls.written then none else some ())).1

def Store.run (st : Store) : List (Calls × Operation) → Store
  | [] => st
  | (calls,op) :: rest => (st.perform digest calls op).run rest

end

end SysArmor.Manager
