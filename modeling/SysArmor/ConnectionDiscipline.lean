import SysArmor.AssocCount
import SysArmor.ControlConnection

/-! Whose records a connection changes. Frames whose payloads name the peer of the connection, and
whose ids resolve to the peer's records, change no others. -/
namespace SysArmor.Gateway
open GoText Proto Manager

section
open Rows

section
variable {peer : PeerIdentity} {st : Store}
variable {calls : FrameCalls} {frame : ControlFrame} {r : Runtime}

section
variable (mirrored : ∀ tables ∈ st.backend, st.Mirrored peer.owner tables)
include mirrored

lemma touches_healthReport (plain : peer.plain) {health : AgentHealth} (owned : peer.ownsHealth st health) :
    Touches peer.owner st (healthReport st calls health).1 := by
  unfold healthReport
  split
  · exact .refl st
  rename_i named
  simp only [PeerIdentity.ownsHealth,named,decide_false,Bool.false_or,Bool.and_eq_true] at owned
  obtain ⟨reported,replaced⟩ := owned
  refine touches_saveThen ((moves_upsertAgentHealth health reported ?_).trans (moves_register plain reported)) mirrored calls _ _
  intro old found
  rw [Option.mem_def.mp found] at replaced
  exact replaced

lemma touches_capabilityReport (plain : peer.plain) {report : CapabilityReport}
    (owned : peer.ownsCapability report) : Touches peer.owner st (capabilityReport st calls report).1 := by
  unfold capabilityReport
  split
  · exact .refl st
  rename_i named
  have reported : peer.owns report.tenantID report.agentID := by simpa [PeerIdentity.ownsCapability,named] using owned
  exact touches_saveThen (moves_register plain reported) mirrored calls _ _

lemma touches_responseAckFrame {ack : Ack} (owned : peer.ownsResponse st ack) :
    Touches peer.owner st (responseAckFrame st calls ack).1 := by
  unfold responseAckFrame
  split
  · exact .refl st
  rename_i named
  simp only [PeerIdentity.ownsResponse,named,decide_false,Bool.false_or] at owned
  have acked : OwnerStep peer.owner st (st.ackResponse calls.now calls.written ack).1 := by
    cases found : st.responses.find? (·.responseID = ack.responseID) with
    | none =>
      unfold Store.ackResponse
      simp [named,found,OwnerStep.refl]
    | some cmd =>
      simp only [List.all_eq_true,List.mem_filter,Bool.and_eq_true,decide_eq_true_eq] at owned
      obtain ⟨⟨-,acknowledged⟩,replaced⟩ :=
        owned cmd ⟨List.mem_of_find?_eq_some found,by simpa using List.find?_some found⟩
      refine moves_ackResponse calls.now calls.written ack acknowledged (fun old mem same => (owned old ⟨mem,same⟩).1.1)
        (fun old same => ?_) mirrored
      rw [same] at replaced
      exact replaced
  split
  · rename_i missing
    rw [missing] at acked
    exact acked.touches
  · rename_i completed
    rw [completed] at acked
    exact touches_saveThen acked mirrored calls _ _

omit mirrored in
lemma attachEvidence_spec (owned : peer.ownsEvidence st req evidence) (attached : attachEvidence st req evidence = .ok st') :
    OwnerStep peer.owner st st' ∧ st'.pullbacks = st.pullbacks := by
  cases evidence with
  | none =>
    obtain rfl := Except.ok.inj attached
    exact ⟨.refl st,rfl⟩
  | undecodable => cases attached
  | graph evidence =>
    have touched : OwnerStep peer.owner st (st.attachIncidentEvidence req.incidentID req.labels evidence).1 := by
      apply moves_attachIncidentEvidence
      intro inc found
      have tenant : orElse inc.tenantId "default" = peer.tenantID := by simpa [PeerIdentity.ownsEvidence,found] using owned
      exact ⟨tenant,tenant⟩
    have same : (st.attachIncidentEvidence req.incidentID req.labels evidence).1.pullbacks = st.pullbacks := by
      unfold Store.attachIncidentEvidence
      split
      · rfl
      · split <;> rfl
    unfold attachEvidence at attached
    dsimp only at attached
    split at attached
    · cases attached
    rename_i found
    obtain rfl := Except.ok.inj attached
    rw [found] at touched same
    exact ⟨touched,same⟩

lemma touches_evidenceResult {result : EvidencePullbackResult} (owned : peer.ownsPullback st result) :
    Touches peer.owner st (evidenceResult st calls result).1 := by
  unfold evidenceResult
  split
  · exact .refl st
  rename_i named
  split
  · exact .refl st
  rename_i req found
  rw [PeerIdentity.ownsPullback,found,Option.all_some,Bool.and_eq_true] at owned
  obtain ⟨request,evidence⟩ := owned
  rw [Store.getEvidencePullback,if_neg named] at found
  split
  · exact .refl st
  rename_i attachedStore attached
  obtain ⟨touched,same⟩ := attachEvidence_spec evidence attached
  have completed : OwnerStep peer.owner st (attachedStore.completeEvidencePullback calls.now result).1 := by
    apply touched.trans
    apply moves_completeEvidencePullback
    intro first first_found
    rw [same,found] at first_found
    exact Option.some.inj first_found ▸ request
  split
  · rename_i missing
    rw [missing] at completed
    exact completed.touches
  · rename_i done
    rw [done] at completed
    exact touches_saveThen completed mirrored calls _ _

lemma touches_commandAck {ack : Option ControlCommandAck} (owned : ack.all fun ack => peer.ownsCommand st calls.readable ack) :
    Touches peer.owner st (commandAck st calls ack).1 := by
  cases ack with
  | none => exact .refl st
  | some ack =>
    have acked : OwnerStep peer.owner st
        (st.ackControlCommand calls.now calls.readable { ack with observedAt := some calls.now }).1 :=
      moves_resolvedCommand calls.readable ack.commandID ack.tenantID ack.agentID (keepsCommand_ack calls.now _)
        (fun _ _ => id) owned
    unfold commandAck
    dsimp only
    split
    · rename_i missing
      rw [missing] at acked
      exact acked.touches
    · rename_i done
      rw [done] at acked
      exact touches_saveThen acked mirrored calls _ _

omit mirrored in
lemma admitted_names (admitted : validatePeerControlIdentity (some peer) context = none) :
    orElse context.tenantID "default" = peer.tenantID ∧ context.agentID = peer.agentID := by
  unfold validatePeerControlIdentity at admitted
  simp only [Option.bind_some,ite_eq_right_iff,reduceCtorEq,imp_false,Bool.or_eq_true,decide_eq_true_eq,not_or,not_not] at admitted
  exact ⟨admitted.1.symm,admitted.2.symm⟩

lemma touches_dispatch (plain : peer.plain)
    (admitted : validatePeerControlIdentity (some peer) frame.context = none) (owned : peer.ownsPayload st calls frame) :
    Touches peer.owner st (r.dispatch st calls frame).1 := by
  obtain ⟨tenant,name⟩ := admitted_names admitted
  unfold PeerIdentity.ownsPayload at owned
  unfold Runtime.dispatch
  split
  · rename_i hello
    rw [if_pos hello] at owned
    exact touches_hello r plain mirrored calls frame.context tenant name owned
  rename_i notHello
  rw [if_neg notHello] at owned
  split
  · rename_i health
    rw [if_pos health] at owned
    exact touches_healthReport mirrored plain owned
  rename_i notHealth
  rw [if_neg notHealth] at owned
  split
  · rename_i capability
    rw [if_pos capability] at owned
    exact touches_capabilityReport mirrored plain owned
  rename_i notCapability
  rw [if_neg notCapability] at owned
  split
  · rename_i response
    rw [if_pos response] at owned
    exact touches_responseAckFrame mirrored owned
  rename_i notResponse
  rw [if_neg notResponse] at owned
  split
  · rename_i evidence
    rw [if_pos evidence] at owned
    exact touches_evidenceResult mirrored owned
  rename_i notEvidence
  rw [if_neg notEvidence] at owned
  split
  · rename_i ack
    rw [if_pos ack] at owned
    exact touches_commandAck mirrored owned
  · exact .refl st

end

lemma touches_handleFrame (plain : peer.plain)
    (owned : peer.ownsFrame st calls frame) : Touches peer.owner st (r.handleFrame (some peer) st calls frame).1 := by
  unfold Runtime.handleFrame
  split
  · exact .refl st
  rename_i admitted
  rw [PeerIdentity.ownsFrame,admitted,Option.isSome_none,Bool.false_or,Bool.and_eq_true] at owned
  have mirrored : ∀ tables ∈ st.backend, st.Mirrored peer.owner tables := by
    intro tables attached
    simpa [Option.mem_def.mp attached] using owned.1
  dsimp only
  split
  · exact .refl st
  rename_i bound
  split at bound
  · obtain rfl := Except.ok.inj bound
    exact touches_dispatch mirrored plain admitted owned.2
  obtain ⟨registered,agents,rfl⟩ := bindPeer_spec plain bound
  -- what the payload resolves to does not depend on the registered agents
  exact registered.touches.trans (touches_dispatch (registered.mirrors mirrored) plain admitted owned.2)

end

def Runtime.connect (r : Runtime) (peer : PeerIdentity) (st : Store) (s : ControlConnectionState) :
    List (FrameCalls × ControlFrame) → Store × ControlConnectionState
  | [] => (st,s)
  | (calls,frame) :: rest =>
    let (st,s,_) := r.serve (some peer) st s calls frame
    r.connect peer st s rest

def ControlConnectionState.hands (s : ControlConnectionState) (frame : ControlFrame) : Bool :=
  match s.acceptIncoming frame with
  | .error _ => false
  | .ok s => (s.replay frame.requestID).isNone

def Runtime.ownsFrames (r : Runtime) (peer : PeerIdentity) (st : Store) (s : ControlConnectionState) :
    List (FrameCalls × ControlFrame) → Bool
  | [] => true
  | (calls,frame) :: rest =>
    let after := r.serve (some peer) st s calls frame
    (!s.hands frame || peer.ownsFrame st calls frame) && r.ownsFrames peer after.1 after.2.1 rest

section
variable {peer : PeerIdentity} {st : Store}

lemma touches_serve (r : Runtime) (plain : peer.plain) (s : ControlConnectionState) (calls : FrameCalls) (frame : ControlFrame)
    (owned : !s.hands frame || peer.ownsFrame st calls frame) :
    Touches peer.owner st (r.serve (some peer) st s calls frame).1 := by
  unfold Runtime.serve
  unfold ControlConnectionState.hands at owned
  split
  · exact .refl st
  rename_i inTurn
  split
  · exact .refl st
  rename_i fresh
  rw [inTurn] at owned
  simp only [fresh,Option.isNone_none,Bool.not_true,Bool.false_or] at owned
  exact touches_handleFrame plain owned

end

/-- Over a whole connection, every record that changes, in memory or in the database, belongs to the tenant
and the agent of the certificate. -/
theorem connection_changes_own_records (r : Runtime) (peer : PeerIdentity) (plain : peer.plain) (st : Store)
    (s : ControlConnectionState) (frames : List (FrameCalls × ControlFrame)) (owned : r.ownsFrames peer st s frames) :
    Touches peer.owner st (r.connect peer st s frames).1 := by
  induction frames generalizing st s with
  | nil => exact .refl st
  | cons turn rest ih =>
    obtain ⟨calls,frame⟩ := turn
    rw [Runtime.ownsFrames,Bool.and_eq_true] at owned
    have first := touches_serve r plain s calls frame owned.1
    exact first.trans (ih _ _ owned.2)

def gateway : Runtime where
  digest := id
  localProcessor := none

def redAgent : PeerIdentity where
  tenantID := "red"
  agentID := "agent-1"
  principal := "spiffe://red/agent-1"

def twoTenants : Store where
  responses := [{ responseID := "resp-1", tenantID := "red", agentID := "agent-1", status := "pending" },
    { responseID := "resp-2", tenantID := "blue", agentID := "agent-9", status := "pending" }]
  backend := some { responses := [⟨{ responseID := "resp-2", tenantID := "blue", agentID := "agent-9", status := "pending" },none⟩] }

def frameOf (sequence : UInt64) (frame : ControlFrame) : FrameCalls × ControlFrame :=
  ({},{ frame with sequence, requestID := toString sequence.toNat, contractVersion := 1
                   context := { tenantID := "red", agentID := "agent-1" } })

def ackOf (responseID : String) : ControlFrame where
  type := "response_ack"
  responseAck := { responseID, tenantID := "red", agentID := "agent-1", accepted := true }

def ownSession : List (FrameCalls × ControlFrame) :=
  [frameOf 1 { type := "hello" },
   frameOf 2 { type := "health_report", health := { tenantID := "red", agentID := "agent-1", status := "ok" } },
   frameOf 3 (ackOf "resp-1")]

/-- A connection that acknowledges its own response changes the agent's records, and only those. -/
theorem own_session_changes_own_records :
    (((gateway.connect redAgent twoTenants {} ownSession).1.backend.map fun tables =>
      tables.responses.map fun row => (row.command.responseID,row.command.status)) =
        some [("resp-1","acked"),("resp-2","pending")]) ∧
    Touches redAgent.owner twoTenants (gateway.connect redAgent twoTenants {} ownSession).1 :=
  ⟨by decide +kernel,connection_changes_own_records gateway redAgent (by decide +kernel) twoTenants {} ownSession (by decide +kernel)⟩

/-- The same connection acknowledges the response of the other tenant by its id. -/
theorem foreign_response_acked : ((gateway.connect redAgent twoTenants {} [frameOf 1 (ackOf "resp-2")]).1.responses.map fun cmd =>
      (cmd.tenantID,cmd.agentID,cmd.status)) = [("red","agent-1","pending"),("blue","agent-9","acked")] ∧
    ¬ Touches redAgent.owner twoTenants (gateway.connect redAgent twoTenants {} [frameOf 1 (ackOf "resp-2")]).1 := by
  refine ⟨by decide +kernel,?_⟩
  intro touched
  rcases touched.responses 1 with same | ⟨owned,_⟩
  · exact absurd same (by decide +kernel)
  · have foreign : redAgent.owns "blue" "agent-9" = true := owned _ rfl
    exact absurd foreign (by decide)
end

/-! The discipline of a control connection over every sequence of frames: which numbers come in and go
out, how often a request is handled and what a repeated one is answered. -/
open List

def Turn.accepted (turn : Turn) : Bool := turn.verdict ≠ .refused

/-- A later accepted frame under the request id of an earlier one gets the same frames apart from their
numbers, without another run of the handler. -/
def Repeats (first second : Turn) : Prop :=
  first.accepted → second.accepted → first.frame.requestID = second.frame.requestID →
    second.verdict = .replayed ∧ second.replies.map (·.unnumbered) = first.replies.map (·.unnumbered)

structure Disciplined (turns : List Turn) : Prop where
  incoming : (turns.filter (·.accepted)).map (·.frame.sequence.toNat) = List.range' 1 (turns.filter (·.accepted)).length
  outgoing : (turns.flatMap (·.replies)).map (·.sequence) =
    (List.range' 1 (turns.flatMap (·.replies)).length).map Nat.toUInt64
  once : ((turns.filter (·.verdict = .handled)).map (·.frame.requestID)).Nodup
  repeats : turns.Pairwise Repeats

def Remembers (s : ControlConnectionState) (turn : Turn) : Prop :=
  ∃ addresses, s.repliesByRequestID.lookup turn.frame.requestID = some addresses ∧
    (Arena.contents s.frames addresses).map (·.stamp 0) = turn.replies.map (·.unnumbered)

structure Follows (turns : List Turn) (s : ControlConnectionState) : Prop extends Disciplined turns where
  expected : s.nextIncoming = ((turns.filter (·.accepted)).length + 1).toUInt64
  next : s.nextOutgoing = ((turns.flatMap (·.replies)).length + 1).toUInt64
  inside : ∀ requestID addresses, s.repliesByRequestID.lookup requestID = some addresses →
    ∀ address ∈ addresses, address < s.frames.length
  known : ∀ turn ∈ turns, turn.accepted → Remembers s turn

lemma Follows.initial : Follows [] {} :=
  ⟨⟨rfl,rfl,.nil,.nil⟩,rfl,rfl,by simp,by simp⟩

section Steps
variable {turns : List Turn} {s after : ControlConnectionState} {values : List ReplyFrame}

section
variable (follows : Follows turns s)
include follows

lemma Follows.accepts (pos : number ≠ 0) (inTurn : number = s.nextIncoming) :
    number.toNat = (turns.filter (·.accepted)).length + 1 := by
  have bound : (turns.filter (·.accepted)).length < 2 ^ 64 := by
    rcases eq_nil_or_concat' (turns.filter (·.accepted)) with none | ⟨init,last,shape⟩
    · simp [none]
    have final : (turns.filter (·.accepted)).length ∈ (turns.filter (·.accepted)).map (·.frame.sequence.toNat) := by
      rw [follows.incoming,mem_range'_1]
      simp [shape]
    obtain ⟨turn,-,same⟩ := mem_map.mp final
    rw [← same]
    exact turn.frame.sequence.toNat_lt
  have counted : number.toNat = ((turns.filter (·.accepted)).length + 1) % 2 ^ 64 := by
    rw [inTurn,follows.expected]
    exact UInt64.toNat_ofNat
  have nonzero : number.toNat ≠ 0 := fun zero => pos (UInt64.toNat_inj.mp zero)
  omega

lemma Follows.outgoing_append (turn : Turn)
    (replies : turn.replies = Arena.marked ReplyFrame.stamp (· + 1) values s.nextOutgoing) :
    ((turns ++ [turn]).flatMap (·.replies)).map (·.sequence) =
        (List.range' 1 ((turns ++ [turn]).flatMap (·.replies)).length).map Nat.toUInt64 ∧
      ((turns ++ [turn]).flatMap (·.replies)).length = (turns.flatMap (·.replies)).length + values.length := by
  have length : turn.replies.length = values.length := by rw [replies,marked_length]
  refine ⟨?_,by simp [length]⟩
  simp only [flatMap_append,flatMap_singleton,map_append,follows.outgoing,length_append,length]
  rw [replies,follows.next,marked_sequences,← map_append,Nat.add_comm _ 1,List.range'_append_1]

lemma Follows.incoming_append (turn : Turn) (accepted : turn.accepted)
    (pos : turn.frame.sequence ≠ 0) (inTurn : turn.frame.sequence = s.nextIncoming) :
    ((turns ++ [turn]).filter (·.accepted)).map (·.frame.sequence.toNat) =
        List.range' 1 ((turns ++ [turn]).filter (·.accepted)).length ∧
      s.nextIncoming + 1 = (((turns ++ [turn]).filter (·.accepted)).length + 1).toUInt64 := by
  have number := follows.accepts pos inTurn
  have shape : (turns ++ [turn]).filter (·.accepted) = turns.filter (·.accepted) ++ [turn] := by simp [accepted]
  rw [shape,map_append,follows.incoming,length_append,length_singleton,List.range'_concat,follows.expected,
    toUInt64_succ (_ + 1)]
  exact ⟨by simp [number,Nat.add_comm],rfl⟩

lemma Follows.keeps (extended : Extends s after values) {turn : Turn} (mem : turn ∈ turns) (accepted : turn.accepted)
    (same : after.repliesByRequestID.lookup turn.frame.requestID = s.repliesByRequestID.lookup turn.frame.requestID) :
    Remembers after turn := by
  obtain ⟨addresses,found,replies⟩ := follows.known turn mem accepted
  refine ⟨addresses,same.trans found,?_⟩
  rwa [extended.kept addresses (follows.inside _ _ found)]

lemma Follows.serve {frame : ControlFrame}
    (served : Runtime.serve r peer st s calls frame = (later,after,verdict,out)) (failAt : Option Nat) :
    Follows (turns ++ [⟨frame,verdict,Arena.contents after.frames out,failAt⟩]) after := by
  obtain ⟨values,extended,replies,cases⟩ := serve_cases served
  obtain ⟨outgoing,length⟩ := follows.outgoing_append ⟨frame,verdict,Arena.contents after.frames out,failAt⟩ replies
  have next : after.nextOutgoing =
      (((turns ++ [(⟨frame,verdict,Arena.contents after.frames out,failAt⟩ : Turn)]).flatMap (·.replies)).length + 1).toUInt64 := by
    rw [extended.next,follows.next,iterate_toUInt64,length,Nat.add_right_comm]
  have unnumbered : (Arena.contents after.frames out).map (·.unnumbered) = values.map (·.stamp 0) := by
    rw [replies,marked_unnumbered]
  have older : ∀ requestID addresses, s.repliesByRequestID.lookup requestID = some addresses →
      ∀ address ∈ addresses, address < after.frames.length :=
    fun requestID addresses found address mem => (follows.inside requestID addresses found address mem).trans_le
      extended.grown
  rcases cases with ⟨rfl,expected,same⟩ | ⟨pos,inTurn,expected,⟨rfl,same,addresses,found,rfl⟩ |
      ⟨rfl,unknown,copies,stored,inside,kept⟩⟩
  · refine ⟨⟨?_,outgoing,?_,?_⟩,?_,next,by rwa [same],?_⟩
    · simpa [Turn.accepted] using follows.incoming
    · simpa using follows.once
    · exact pairwise_append.mpr ⟨follows.repeats,by simp,by simp [Repeats,Turn.accepted]⟩
    · simpa [Turn.accepted] using expected.trans follows.expected
    · intro turn mem accepted
      rcases mem_append.mp mem with earlier | here
      · exact follows.keeps extended earlier accepted (by rw [same])
      · rw [mem_singleton.mp here] at accepted
        cases accepted
  · obtain ⟨incoming,expects⟩ :=
      follows.incoming_append ⟨frame,.replayed,Arena.contents after.frames out,failAt⟩ rfl pos inTurn
    refine ⟨⟨incoming,outgoing,by simpa using follows.once,?_⟩,expected.trans expects,next,by rwa [same],?_⟩
    · refine pairwise_append.mpr ⟨follows.repeats,by simp,?_⟩
      intro turn mem second here accepted _ sameID
      cases mem_singleton.mp here
      obtain ⟨known,foundKnown,answered⟩ := follows.known turn mem accepted
      rw [sameID,found] at foundKnown
      cases foundKnown
      exact ⟨rfl,unnumbered.trans answered⟩
    · intro turn mem accepted
      rcases mem_append.mp mem with earlier | here
      · exact follows.keeps extended earlier accepted (by rw [same])
      cases mem_singleton.mp here
      refine ⟨addresses,by rw [same,found],?_⟩
      rw [extended.kept addresses (follows.inside _ _ found),unnumbered]
  · obtain ⟨incoming,expects⟩ :=
      follows.incoming_append ⟨frame,.handled,Arena.contents after.frames out,failAt⟩ rfl pos inTurn
    have new : ∀ turn ∈ turns, turn.accepted → turn.frame.requestID ≠ frame.requestID := by
      intro turn mem accepted sameID
      obtain ⟨known,foundKnown,-⟩ := follows.known turn mem accepted
      rw [sameID,unknown] at foundKnown
      cases foundKnown
    refine ⟨⟨incoming,outgoing,?_,?_⟩,expected.trans expects,next,?_,?_⟩
    · rw [filter_append,map_append]
      refine nodup_append.mpr ⟨follows.once,by simp,?_⟩
      intro first firstMember second secondMember
      obtain ⟨turn,handled,rfl⟩ := mem_map.mp firstMember
      obtain ⟨mem,handled⟩ := mem_filter.mp handled
      rw [show second = frame.requestID by simpa using secondMember]
      exact new turn mem (by simp_all [Turn.accepted])
    · refine pairwise_append.mpr ⟨follows.repeats,by simp,?_⟩
      intro turn mem second here accepted _ sameID
      cases mem_singleton.mp here
      exact absurd sameID (new turn mem accepted)
    · intro requestID addresses found
      rw [stored] at found
      rcases AssocCount.lookup_insert_cases found with ⟨rfl,rfl⟩ | old
      · exact inside
      · exact older requestID addresses old
    · intro turn mem accepted
      rcases mem_append.mp mem with earlier | here
      · refine follows.keeps extended earlier accepted ?_
        rw [stored,AList.lookup_insert_ne (new turn earlier accepted)]
      · cases mem_singleton.mp here
        exact ⟨copies,by rw [stored,AList.lookup_insert],by rw [kept,unnumbered]⟩

end

end Steps

lemma Follows.converse (follows : Follows turns s) (r : Runtime) (peer : Option PeerIdentity) (st : Store)
    (arrivals : List Arrival) : ∃ after, Follows (turns ++ r.converse peer st s arrivals) after := by
  induction arrivals generalizing turns s st with
  | nil => exact ⟨s,by simpa [Runtime.converse] using follows⟩
  | cons arrival rest ih =>
    rcases served : r.serve peer st s arrival.calls arrival.frame with ⟨later,after,verdict,out⟩
    have step := follows.serve served arrival.failAt
    simp only [Runtime.converse,served]
    split
    · exact ⟨after,step⟩
    · simpa using ih step later

lemma converse_sent (r : Runtime) (peer : Option PeerIdentity) (st : Store) (s : ControlConnectionState)
    (arrivals : List Arrival) :
    (r.converse peer st s arrivals).flatMap (·.sent) <+: (r.converse peer st s arrivals).flatMap (·.replies) := by
  induction arrivals generalizing st s with
  | nil => exact prefix_rfl
  | cons arrival rest ih =>
    rcases served : r.serve peer st s arrival.calls arrival.frame with ⟨later,after,verdict,out⟩
    simp only [Runtime.converse,served]
    split
    · simp only [flatMap_singleton,Turn.sent]
      split
      · exact prefix_rfl
      · exact take_prefix _ _
    · rename_i whole
      have all : Turn.sent ⟨arrival.frame,verdict,Arena.contents after.frames out,arrival.failAt⟩ =
          Arena.contents after.frames out := by
        simp only [Turn.sent]
        split
        · rfl
        rename_i index failed
        rw [failed] at whole
        exact take_of_length_le (by simpa [Turn.broken] using whole)
      simp only [flatMap_cons,all]
      exact (prefix_append_right_inj _).mpr (ih later after)

lemma numbered_of_isPrefix {sent all : List ReplyFrame} (cut : sent <+: all)
    (numbers : all.map (·.sequence) = (List.range' 1 all.length).map Nat.toUInt64) :
    sent.map (·.sequence) = (List.range' 1 sent.length).map Nat.toUInt64 := by
  obtain ⟨rest,rfl⟩ := cut
  rw [map_append,length_append,← List.range'_append_1,map_append] at numbers
  exact (append_inj numbers (by simp)).1

lemma converse_numbered {r : Runtime} {peer : Option PeerIdentity} :
    ((r.converse peer st {} arrivals).flatMap (·.sent)).map (·.sequence) =
      (List.range' 1 ((r.converse peer st {} arrivals).flatMap (·.sent)).length).map Nat.toUInt64 := by
  obtain ⟨after,follows⟩ := Follows.initial.converse r peer st arrivals
  exact numbered_of_isPrefix (converse_sent r peer st {} arrivals) follows.outgoing

/-- Over every sequence of frames on a new connection: accepted frames are numbered 1, 2, 3 and so on; the
frames sent are numbered from 1 in 64 bits; no request id is handled twice; and an accepted frame under the
request id of an earlier accepted one is answered as that one, apart from the numbers. -/
theorem control_connection_discipline (r : Runtime) (peer : Option PeerIdentity) (st : Store) (arrivals : List Arrival) :
    let turns := r.converse peer st {} arrivals
    (turns.filter (·.accepted)).map (·.frame.sequence.toNat) = List.range' 1 (turns.filter (·.accepted)).length ∧
    (turns.flatMap (·.sent)).map (·.sequence) = (List.range' 1 (turns.flatMap (·.sent)).length).map Nat.toUInt64 ∧
    ((turns.filter (·.verdict = .handled)).map (·.frame.requestID)).Nodup ∧
    turns.Pairwise fun first second => first.accepted → second.accepted →
      first.frame.requestID = second.frame.requestID →
        second.verdict = .replayed ∧ second.replies.map (·.unnumbered) = first.replies.map (·.unnumbered) := by
  intro turns
  obtain ⟨after,follows⟩ := Follows.initial.converse r peer st arrivals
  exact ⟨follows.incoming,converse_numbered,follows.once,follows.repeats⟩

lemma converse_refused {s : ControlConnectionState} {count : Nat} :
    ((gateway.converse none {} s (List.replicate count { frame := {} })).flatMap (·.sent)).length = count := by
  induction count generalizing s with
  | zero => rfl
  | succ count ih =>
    have refused : ∃ failure, s.acceptIncoming {} = .error failure := ⟨_,rfl⟩
    obtain ⟨failure,refused⟩ := refused
    obtain ⟨-,replies,-⟩ := assignOutgoing_spec s (s.build ((rejectedReply failure).map (replyFrame {}))).1
      ((rejectedReply failure).map (replyFrame {})) (append_nil _).symm rfl
    have one := congrArg List.length replies
    rw [marked_length] at one
    simp only [replicate_succ,Runtime.converse,Runtime.serve,refused,Turn.broken,Option.any_none,Bool.false_eq_true,
      if_false,flatMap_cons,length_append,ih]
    exact (congrArg (· + count) one).trans (Nat.add_comm 1 count)

def helloTwice : List Arrival :=
  List.replicate 2 { calls := (frameOf 1 { type := "hello" }).1, frame := (frameOf 1 { type := "hello" }).2 }

/-- The same frame sent twice is handled and then refused, and after 2^64 - 1 frames sent the next is number 0. -/
theorem repeated_frame_refused :
    ((gateway.converse redAgent {} {} helloTwice).map fun turn => (turn.verdict,turn.sent.map (·.type))) =
      [(.handled,["policy_update","resume"]),(.refused,["ack"])] ∧
    ∃ arrivals, 0 ∈ ((gateway.converse none {} {} arrivals).flatMap (·.sent)).map (·.sequence) := by
  refine ⟨by decide +kernel,List.replicate (2 ^ 64) { frame := {} },?_⟩
  rw [converse_numbered,converse_refused]
  exact mem_map.mpr ⟨2 ^ 64,by rw [mem_range'_1]; omega,by decide +kernel⟩

end SysArmor.Gateway
