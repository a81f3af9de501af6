import SysArmor.GatewayUpload
import SysArmor.OwnedChanges

/-! The gateway's control plane. A connection takes numbered frames, answers a repeated request from
memory, and hands every other frame to the store under the identifiers its payload carries. -/
namespace SysArmor.Gateway
open GoText Proto Manager

structure RequestContext where
  (tenantID agentID : String := "")
  scope : RuntimeScope := {}

structure CapabilityReport where
  (agentID hostID tenantID sensorVersion : String := "")

/-- `ControlFrame` as an agent sends it, with the payloads in the store's terms. An absent payload
reads as the empty one. -/
structure ControlFrame where
  (type requestID : String := "")
  context : RequestContext := {}
  contractVersion : UInt32 := 0
  sequence : UInt64 := 0
  health : AgentHealth := {}
  capability : CapabilityReport := {}
  ack : Option ControlCommandAck := none
  responseAck : Ack := {}
  evidenceResult : EvidencePullbackResult := {}

/-- How the calls end that a frame leads to: whether an attached database answers and takes the
writes, the save, and which policy payloads decode. -/
structure FrameCalls where
  now : Int := 0
  (readable written : Bool := true)
  save : Option Failure := none
  decodes : ControlCommand → Bool := fun _ => true

inductive ControlReply where
  | policyUpdate (policy : Option Policy)
  | resume (sessionID cursor : String)
  | responseCommand (cmd : Command)
  | evidencePullback (req : EvidencePullbackRequest)
  | command (cmd : ControlCommand)
  | ack (status message : String) (failure : Option Failure)

abbrev FrameResult := Store × Except Failure (List ControlReply)
def accepted (message : String) : List ControlReply := [.ack "accepted" message none]

def saveThen (st : Store) (calls : FrameCalls) (what : String) (replies : List ControlReply) : FrameResult :=
  match st.save calls.save with
  | (st,some failure) => (st,.error { code := .internal, message := what ++ ": " ++ failure.message })
  | (st,none) => (st,.ok replies)

def invalidFrame (message : String) : Except Failure (List ControlReply) := .error { code := .invalidArgument, message }
def frameNotFound (message : String) : Except Failure (List ControlReply) := .error { code := .notFound, message }

def validatePeerControlIdentity (peer : Option PeerIdentity) (context : RequestContext) : Option Failure :=
  peer.bind fun peerID =>
    let tenantID := orElse context.tenantID "default"
    if peerID.tenantID ≠ tenantID || peerID.agentID ≠ context.agentID then
      some { code := .permissionDenied
             message := "mTLS identity mismatch: cert=" ++ peerID.tenantID ++ "/" ++ peerID.agentID ++ " frame=" ++
               tenantID ++ "/" ++ context.agentID }
    else none

def reportedHost (frame : ControlFrame) : String × String :=
  if frame.type = "health_report" then (frame.health.hostID,frame.health.capability.version)
  else if frame.type = "capability_report" then (frame.capability.hostID,frame.capability.sensorVersion)
  else ("","")

/-- `controlCommandFrame`: only policy and content updates can be sent. -/
def sendable (cmd : ControlCommand) : Bool := cmd.type = "policy_update" || cmd.type = "content_update"

def sendCommands (calls : FrameCalls) (tenantID agentID : String) (st : Store) :
    List ControlCommand → Store × Except Failure (List ControlReply)
  | [] => (st,.ok [])
  | cmd :: rest =>
    if cmd.type = "policy_update" && !calls.decodes cmd then
      (st,.error { code := .internal, message := "build control command frame: decode policy update payload for command " ++
        cmd.commandID })
    else if sendable cmd then
      let (st,replies) := sendCommands calls tenantID agentID
        (st.markControlCommandSent calls.readable cmd.commandID tenantID agentID calls.now).1 rest
      (st,replies.map (.command cmd :: ·))
    else sendCommands calls tenantID agentID st rest

def Runtime.hello (r : Runtime) (st : Store) (calls : FrameCalls) (context : RequestContext) : FrameResult :=
  if context.agentID = "" then (st,invalidFrame "hello agent_id is required")
  else
    let tenantID := orElse context.tenantID "default"
    let agentID := context.agentID
    let policy := st.effectivePolicy calls.readable tenantID agentID context.scope
    let st := st.addAgent { agentID, tenantID }
    let st := st.recordControlSessionOpen r.digest tenantID agentID "control" calls.now
    let session := (st.listAgentSessions calls.readable tenantID agentID).head?
    let resume := ControlReply.resume ((session.map (·.sessionID)).getD "") ((session.map (·.lastAckCursor)).getD "")
    let responses := (st.pendingResponses tenantID agentID).map .responseCommand
    let pullbacks := (st.pendingEvidencePullbacks tenantID agentID).map .evidencePullback
    match sendCommands calls tenantID agentID st (st.pendingControlCommands calls.readable tenantID agentID) with
    | (st,.error failure) => (st,.error failure)
    | (st,.ok commands) =>
      saveThen st calls "save control hello state" ([.policyUpdate policy,resume] ++ responses ++ pullbacks ++ commands)

def healthReport (st : Store) (calls : FrameCalls) (health : AgentHealth) : FrameResult :=
  if health.agentID = "" then (st,invalidFrame "health_report agent_id is required")
  else
    let st := st.upsertAgentHealth health
    let st := st.addAgent { agentID := health.agentID, hostID := health.hostID, tenantID := health.tenantID
                            version := health.capability.version }
    saveThen st calls "save health" (accepted "health accepted")

def capabilityReport (st : Store) (calls : FrameCalls) (report : CapabilityReport) : FrameResult :=
  if report.agentID = "" then (st,invalidFrame "capability_report agent_id is required")
  else
    let st := st.addAgent { agentID := report.agentID, hostID := report.hostID, tenantID := report.tenantID
                            version := report.sensorVersion }
    saveThen st calls "save capability" (accepted "capability accepted")

def responseAckFrame (st : Store) (calls : FrameCalls) (ack : Ack) : FrameResult :=
  if ack.responseID = "" then (st,invalidFrame "response_ack response_id is required")
  else match st.ackResponse calls.now calls.written ack with
    | (st,none) => (st,frameNotFound "response command not found")
    | (st,some _) => saveThen st calls "save response ack" (accepted "response ack accepted")

def attachEvidence (st : Store) (req : EvidencePullbackRequest) : Evidence → Except (Except Failure (List ControlReply)) Store
  | .none => .ok st
  | .undecodable => .error (invalidFrame "decode evidence pullback evidence")
  | .graph evidence =>
    match st.attachIncidentEvidence req.incidentID req.labels evidence with
    | (_,false) => .error (frameNotFound "incident for evidence pullback not found")
    | (st,true) => .ok st

def evidenceResult (st : Store) (calls : FrameCalls) (result : EvidencePullbackResult) : FrameResult :=
  if result.requestID = "" then (st,invalidFrame "evidence_pullback_result request_id is required")
  else match st.getEvidencePullback result.requestID result.tenantID result.agentID with
    | none => (st,frameNotFound "evidence pullback request not found")
    | some req =>
      match attachEvidence st req result.evidence with
      | .error refused => (st,refused)
      | .ok st =>
        match st.completeEvidencePullback calls.now result with
        | (st,none) => (st,frameNotFound "evidence pullback request not found")
        | (st,some _) =>
          saveThen st calls "save evidence pullback result" (accepted "evidence pullback result accepted")

def commandAck (st : Store) (calls : FrameCalls) : Option ControlCommandAck → FrameResult
  | none => (st,invalidFrame "ack payload is required")
  | some ack =>
    match st.ackControlCommand calls.now calls.readable { ack with observedAt := some calls.now } with
    | (st,none) => (st,.ok (accepted "ack accepted"))
    | (st,some _) => saveThen st calls "save control command ack" (accepted "ack accepted")

def Runtime.dispatch (r : Runtime) (st : Store) (calls : FrameCalls) (frame : ControlFrame) : FrameResult :=
  if frame.type = "hello" then r.hello st calls frame.context
  else if frame.type = "health_report" then healthReport st calls frame.health
  else if frame.type = "capability_report" then capabilityReport st calls frame.capability
  else if frame.type = "response_ack" then responseAckFrame st calls frame.responseAck
  else if frame.type = "evidence_pullback_result" then evidenceResult st calls frame.evidenceResult
  else if frame.type = "ack" then commandAck st calls frame.ack
  else (st,invalidFrame ("unsupported control frame type " ++ frame.type))

def Runtime.handleFrame (r : Runtime) (peer : Option PeerIdentity) (st : Store) (calls : FrameCalls)
    (frame : ControlFrame) : FrameResult :=
  match validatePeerControlIdentity peer frame.context with
  | some denied => (st,.error denied)
  | none =>
    let bound := if frame.context.agentID = "" then .ok st
      else bindPeer st peer (reportedHost frame).1 (reportedHost frame).2
    match bound with
    | .error denied => (st,.error denied)
    | .ok st => r.dispatch st calls frame

def rejectedReply (failure : Failure) : List ControlReply := [.ack "rejected" failure.message (some failure)]

/-! Whose records a frame may change. Only the context of a frame is compared with the certificate of
the peer; the store operations take the identifiers of the payload, and find records by id with an
empty tenant or agent standing for any. So a condition on the payload is needed, for each kind of
frame against the lookups that it leads to. -/
open Rows List

def PeerIdentity.owns (peer : PeerIdentity) (tenantID agentID : String) : Bool :=
  orElse tenantID "default" = peer.tenantID && agentID = peer.agentID

def PeerIdentity.owner (peer : PeerIdentity) : Owner where
  records := fun tenantID agentID => peer.owns tenantID agentID
  incidents := fun inc => orElse inc.tenantId "default" = peer.tenantID
  defaulted := by
    intro t t' a same owned
    simpa only [PeerIdentity.owns,same] using owned

instance {peer : PeerIdentity} (tenantID agentID : String) : Decidable (peer.owner.records tenantID agentID) :=
  inferInstanceAs (Decidable (peer.owns tenantID agentID = true))

def PeerIdentity.plain (peer : PeerIdentity) : Bool :=
  trimSpace peer.tenantID = peer.tenantID && trimSpace peer.agentID = peer.agentID && peer.tenantID ≠ "" && peer.agentID ≠ ""

def PeerIdentity.ownsPending (peer : PeerIdentity) (st : Store) (pending : List ControlCommand) : Bool :=
  pending.all fun cmd => st.controlCommands.all fun existing =>
    existing.commandID ≠ cmd.commandID || orElse existing.tenantID "default" ≠ peer.tenantID || existing.agentID = peer.agentID

def PeerIdentity.ownsHealth (peer : PeerIdentity) (st : Store) (health : AgentHealth) : Bool :=
  health.agentID = "" || peer.owns health.tenantID health.agentID &&
    (st.health.lookup (agentHealthKey health.tenantID health.agentID)).all fun old => peer.owns old.tenantID old.agentID

def PeerIdentity.ownsCapability (peer : PeerIdentity) (report : CapabilityReport) : Bool :=
  report.agentID = "" || peer.owns report.tenantID report.agentID

def PeerIdentity.ownsResponse (peer : PeerIdentity) (st : Store) (ack : Ack) : Bool :=
  ack.responseID = "" || (st.responses.filter (·.responseID = ack.responseID)).all fun cmd =>
    peer.owns cmd.tenantID cmd.agentID && peer.owns ack.tenantID ack.agentID &&
      (st.responseAcks.find? (·.responseID = ack.responseID)).all fun old => peer.owns old.tenantID old.agentID

def PeerIdentity.ownsEvidence (peer : PeerIdentity) (st : Store) (req : EvidencePullbackRequest) : Evidence → Bool
  | .graph _ => (st.incidents.find? (namesIncident req.incidentID req.labels)).all fun inc =>
      orElse inc.tenantId "default" = peer.tenantID
  | _ => true

def PeerIdentity.ownsPullback (peer : PeerIdentity) (st : Store) (result : EvidencePullbackResult) : Bool :=
  (st.getEvidencePullback result.requestID result.tenantID result.agentID).all fun req =>
    peer.owns req.tenantID req.agentID && peer.ownsEvidence st req result.evidence

def PeerIdentity.ownsCommand (peer : PeerIdentity) (st : Store) (readable : Bool) (ack : ControlCommandAck) : Bool :=
  st.resolvesCommand readable ack.commandID ack.tenantID ack.agentID peer.owns

/-- The condition on the payload of a frame, in the state before it: the peer is the owner of what it
names and of the records that its identifiers resolve to. -/
def PeerIdentity.ownsPayload (peer : PeerIdentity) (st : Store) (calls : FrameCalls) (frame : ControlFrame) : Bool :=
  if frame.type = "hello" then
    peer.ownsPending st (st.pendingControlCommands calls.readable peer.tenantID peer.agentID)
  else if frame.type = "health_report" then peer.ownsHealth st frame.health
  else if frame.type = "capability_report" then peer.ownsCapability frame.capability
  else if frame.type = "response_ack" then peer.ownsResponse st frame.responseAck
  else if frame.type = "evidence_pullback_result" then peer.ownsPullback st frame.evidenceResult
  else if frame.type = "ack" then frame.ack.all fun ack => peer.ownsCommand st calls.readable ack
  else true

/-- A frame ends with a save of all that is in memory. With a database the copies of other agents' records
have to be its rows. -/
def PeerIdentity.ownsFrame (peer : PeerIdentity) (st : Store) (calls : FrameCalls) (frame : ControlFrame) : Bool :=
  (validatePeerControlIdentity (some peer) frame.context).isSome ||
    (st.backend.all fun tables => st.Mirrored peer.owner tables) && peer.ownsPayload st calls frame

section
variable {peer : PeerIdentity} {st : Store}

lemma touches_saveThen (moved : OwnerStep peer.owner start st) (mirrored : ∀ tables ∈ start.backend, start.Mirrored peer.owner tables)
    (calls : FrameCalls) (what : String) (replies : List ControlReply) :
    Touches peer.owner start (saveThen st calls what replies).1 := by
  refine moved.touches.trans ?_
  have saved : Touches peer.owner st (st.save calls.save).1 := touches_save calls.save fun _ => moved.mirrors mirrored
  unfold saveThen
  split <;> (rename_i same; rw [same] at saved; exact saved)

lemma owns_iff : peer.owns tenantID agentID ↔ orElse tenantID "default" = peer.tenantID ∧ agentID = peer.agentID := by
  simp [PeerIdentity.owns]

lemma plain_iff : peer.plain ↔ trimSpace peer.tenantID = peer.tenantID ∧ trimSpace peer.agentID = peer.agentID ∧
    peer.tenantID ≠ "" ∧ peer.agentID ≠ "" := by
  simp [PeerIdentity.plain,and_assoc]

lemma owns_normalized (plain : peer.plain) {agent : AgentIdentity} (owned : peer.owns agent.tenantID agent.agentID) :
    peer.owner.records agent.normalized.tenantID agent.normalized.agentID := by
  obtain ⟨tenantTrimmed,agentTrimmed,tenantNamed,_⟩ := plain_iff.mp plain
  obtain ⟨tenant,name⟩ := owns_iff.mp owned
  refine owns_iff.mpr ⟨?_,?_⟩
  · unfold orElse at tenant
    split at tenant
    · rename_i none
      have blank : trimSpace "" = "" := by decide
      simp [AgentIdentity.normalized,none,blank,orElse,tenant]
    · have trimmed : trimSpace agent.tenantID = peer.tenantID := by rw [tenant,tenantTrimmed]
      simp [AgentIdentity.normalized,trimmed,tenantNamed,orElse]
  · simp [AgentIdentity.normalized,name,agentTrimmed]

lemma owns_self (plain : peer.plain) : peer.owns peer.tenantID peer.agentID := by
  obtain ⟨_,_,tenantNamed,_⟩ := plain_iff.mp plain
  exact owns_iff.mpr ⟨if_neg tenantNamed,rfl⟩

lemma moves_register (plain : peer.plain) {agent : AgentIdentity} (owned : peer.owns agent.tenantID agent.agentID) :
    OwnerStep peer.owner st (st.addAgent agent) :=
  moves_addAgent agent (owns_normalized plain owned) (owns_normalized plain (owns_normalized plain owned))

lemma bindPeer_spec (plain : peer.plain) (bound : bindPeer st (some peer) hostID version = .ok st') :
    OwnerStep peer.owner st st' ∧ ∃ agents, st' = { st with agents } := by
  unfold bindPeer at bound
  dsimp only at bound
  split at bound
  · cases bound
  rename_i registered
  obtain rfl := Except.ok.inj bound
  have same := bindAgentIdentity_eq registered
  refine ⟨same ▸ moves_upsertAgent ?_ ?_,_,same⟩
  · exact owns_normalized plain (owns_self plain)
  · exact owns_normalized plain (owns_normalized plain (owns_self plain))

/-! A hello marks the pending commands as sent. -/

def PeerIdentity.Unshared (peer : PeerIdentity) (st : Store) (commandID : String) : Prop :=
  ∀ existing ∈ st.controlCommands, existing.commandID = commandID → orElse existing.tenantID "default" = peer.tenantID →
    existing.agentID = peer.agentID

lemma ownsPending_iff : peer.ownsPending st pending ↔ ∀ cmd ∈ pending, peer.Unshared st cmd.commandID := by
  simp only [PeerIdentity.ownsPending,PeerIdentity.Unshared,all_eq_true,Bool.or_eq_true,decide_eq_true_eq,ne_eq]
  grind

lemma unshared_touches (unshared : peer.Unshared st commandID) (touched : Touches peer.owner st st') :
    peer.Unshared st' commandID := by
  intro existing mem same tenant
  rcases touched.controlCommands.mem mem with old | owned
  · exact unshared existing old same tenant
  · exact (owns_iff.mp owned).2

section
variable (plain : peer.plain)
include plain

lemma names_owner (passes : passesFilters peer.tenantID peer.agentID tenantID agentID) :
    tenantID = peer.tenantID ∧ agentID = peer.agentID := by
  obtain ⟨_,_,tenantNamed,agentNamed⟩ := plain_iff.mp plain
  simpa [passesFilters,tenantNamed,agentNamed] using passes

lemma listed_owner (mem : cmd ∈ st.listControlCommands readable peer.tenantID peer.agentID "") :
    peer.owns cmd.tenantID cmd.agentID := by
  unfold Store.listControlCommands at mem
  split at mem
  · rw [mem_insertionSort,mem_filter,Bool.and_eq_true] at mem
    exact owns_iff.mpr (names_owner plain mem.2.1)
  rw [mem_insertionSort,mem_filter,Bool.and_eq_true] at mem
  obtain ⟨tenant,name⟩ := names_owner plain mem.2.1
  rw [tenant,name]
  exact owns_self plain

lemma moves_markSent (unshared : peer.Unshared st commandID) (readable : Bool) (now : Int) :
    OwnerStep peer.owner st (st.markControlCommandSent readable commandID peer.tenantID peer.agentID now).1 := by
  refine moves_updateControlCommand readable commandID peer.tenantID peer.agentID (keepsCommand_markSent now)
    fun _ => ⟨fun cmd found => ?_,fun cmd found => ?_⟩
  · have names := find?_some found
    rw [namesCommand,Bool.and_eq_true] at names
    obtain ⟨tenant,name⟩ := names_owner plain names.2
    rw [tenant,name]
    exact owns_self plain
  · have owned : peer.owns cmd.tenantID cmd.agentID := by
      have listed := found
      simp only [Store.listedCommand] at listed
      split at listed
      · cases listed
      · exact listed_owner plain (mem_of_find?_eq_some listed)
    refine ⟨owned,?_⟩
    intro old snapshot
    -- the snapshot is looked up by id and tenant only
    have same : old.commandID = cmd.commandID ∧ old.tenantID = cmd.tenantID := by
      simpa [sameSnapshot] using find?_some snapshot
    have named := (listedCommand_stored _ _ _ _ found).1
    have tenant : orElse old.tenantID "default" = peer.tenantID := by rw [same.2,(owns_iff.mp owned).1]
    exact owns_iff.mpr ⟨tenant,unshared old (mem_of_find?_eq_some snapshot) (same.1.trans named) tenant⟩

lemma moves_sendCommands (calls : FrameCalls) (pending : List ControlCommand)
    (unshared : ∀ cmd ∈ pending, peer.Unshared st cmd.commandID) :
    OwnerStep peer.owner st (sendCommands calls peer.tenantID peer.agentID st pending).1 := by
  induction pending generalizing st with
  | nil => exact .refl st
  | cons cmd rest ih =>
    have others : ∀ cmd ∈ rest, peer.Unshared st cmd.commandID := fun cmd mem => unshared cmd (mem_cons_of_mem _ mem)
    rw [sendCommands]
    split
    · exact .refl st
    split
    · have marked := moves_markSent plain (unshared cmd mem_cons_self) calls.readable calls.now
      exact marked.trans (ih fun cmd mem => unshared_touches (others cmd mem) marked.touches)
    · exact ih others

end

lemma touches_hello (r : Runtime) (plain : peer.plain) (mirrored : ∀ tables ∈ st.backend, st.Mirrored peer.owner tables)
    (calls : FrameCalls) (context : RequestContext)
    (tenant : orElse context.tenantID "default" = peer.tenantID) (name : context.agentID = peer.agentID)
    (owned : peer.ownsPending st (st.pendingControlCommands calls.readable peer.tenantID peer.agentID)) :
    Touches peer.owner st (r.hello st calls context).1 := by
  unfold Runtime.hello
  split
  · exact .refl st
  dsimp only
  rw [tenant,name]
  obtain ⟨agents,added⟩ := addAgent_shape st { agentID := peer.agentID, tenantID := peer.tenantID }
  have registered : OwnerStep peer.owner st { st with agents } := added ▸ moves_register plain (owns_self plain)
  rw [added]
  obtain ⟨agentSessions,opened⟩ :=
    recordControlSessionOpen_shape r.digest { st with agents } peer.tenantID peer.agentID "control" calls.now
  rw [opened]
  have joined : OwnerStep peer.owner st { st with agents, agentSessions } :=
    ⟨{ registered.touches with },fun same tables attached => { registered.mirrors same tables attached with }⟩
  have sent : OwnerStep peer.owner { st with agents, agentSessions } _ :=
    moves_sendCommands plain calls _ (ownsPending_iff.mp owned)
  have both := joined.trans sent
  split
  · rename_i failed
    exact failed ▸ both.touches
  · rename_i completed
    have moved := completed ▸ both
    exact touches_saveThen moved mirrored calls _ _

end

end SysArmor.Gateway
