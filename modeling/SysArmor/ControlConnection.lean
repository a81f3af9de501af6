import SysArmor.ControlFrames
import SysArmor.RecordArena

/-! One control connection frame by frame. Replies are records behind pointers: a handled request's
replies are copied before they are numbered, and a repeated request gets a copy of the copy, so that
the numbers of one answer never show in another. -/
namespace SysArmor.Gateway
open GoText Proto Manager

/-- A `ControlFrame` as the gateway sends it. -/
structure ReplyFrame where
  (type requestID : String)
  context : RequestContext
  contractVersion : UInt32 := 1
  sequence : UInt64 := 0
  payload : ControlReply

def replyFrame (frame : ControlFrame) (payload : ControlReply) : ReplyFrame :=
  let context := { frame.context with tenantID := orElse frame.context.tenantID "default" }
  match payload with
  | .policyUpdate _ => { type := "policy_update", requestID := "policy-" ++ frame.requestID, context, payload }
  | .resume _ _ => { type := "resume", requestID := frame.requestID, context, payload }
  | .responseCommand _ => { type := "response_command", requestID := frame.requestID, context, payload }
  | .evidencePullback _ => { type := "evidence_pullback", requestID := frame.requestID, context, payload }
  | .command cmd =>
    { type := cmd.type, requestID := cmd.commandID, context := ⟨cmd.tenantID,cmd.agentID,frame.context.scope⟩, payload }
  | .ack _ _ _ => { type := "ack", requestID := frame.requestID, context := frame.context, payload }

/-- The state of a connection; `frames` holds the reply records that pointers refer to. -/
structure ControlConnectionState where
  (nextIncoming nextOutgoing : UInt64 := 1)
  repliesByRequestID : AList (fun _ : String => List Nat) := ∅
  frames : List ReplyFrame := []

def ReplyFrame.stamp (sequence : UInt64) (frame : ReplyFrame) : ReplyFrame := { frame with contractVersion := 1, sequence }
def ReplyFrame.unnumbered (frame : ReplyFrame) : ReplyFrame := { frame with sequence := 0 }

namespace ControlConnectionState

def acceptIncoming (s : ControlConnectionState) (frame : ControlFrame) : Except Failure ControlConnectionState :=
  if frame.contractVersion ≠ 1 then
    .error { code := .invalidArgument
             message := "unsupported control contract_version " ++ toString frame.contractVersion.toNat }
  else if frame.requestID = "" then .error { code := .invalidArgument, message := "control frame request_id is required" }
  else if frame.sequence = 0 then .error { code := .invalidArgument, message := "control frame sequence is required" }
  else if frame.sequence < s.nextIncoming then
    .error { code := .alreadyExists, message := "control frame replay sequence " ++ toString frame.sequence.toNat ++
      "; expected " ++ toString s.nextIncoming.toNat }
  else if frame.sequence > s.nextIncoming then
    .error { code := .failedPrecondition, message := "control frame sequence gap: got " ++ toString frame.sequence.toNat ++
      "; expected " ++ toString s.nextIncoming.toNat }
  else .ok { s with nextIncoming := s.nextIncoming + 1 }

def build (s : ControlConnectionState) (frames : List ReplyFrame) : ControlConnectionState × List Nat :=
  ({ s with frames := (Arena.allocate s.frames frames).1 },(Arena.allocate s.frames frames).2)

def cloneControlFrames (s : ControlConnectionState) (frames : List Nat) : ControlConnectionState × List Nat :=
  s.build (Arena.contents s.frames frames)

def remember (s : ControlConnectionState) (requestID : String) (frames : List Nat) : ControlConnectionState :=
  if requestID = "" then s
  else
    let (s,copies) := s.cloneControlFrames frames
    { s with repliesByRequestID := s.repliesByRequestID.insert requestID copies }

def replay (s : ControlConnectionState) (requestID : String) : Option (ControlConnectionState × List Nat) :=
  if requestID = "" then none else (s.repliesByRequestID.lookup requestID).map s.cloneControlFrames

def assignOutgoing (s : ControlConnectionState) (frames : List Nat) : ControlConnectionState :=
  let (frames,nextOutgoing) := Arena.rewrite ReplyFrame.stamp (· + 1) s.frames frames s.nextOutgoing
  { s with frames, nextOutgoing }

end ControlConnectionState

inductive Verdict where
  | refused
  | replayed
  | handled
  deriving DecidableEq

/-- One turn of the loop of `Connect` up to the sends: the store, the connection, and the pointers to the
numbered replies. -/
def Runtime.serve (r : Runtime) (peer : Option PeerIdentity) (st : Store) (s : ControlConnectionState) (calls : FrameCalls)
    (frame : ControlFrame) : Store × ControlConnectionState × Verdict × List Nat :=
  match s.acceptIncoming frame with
  | .error refused =>
    let (s,out) := s.build ((rejectedReply refused).map (replyFrame frame))
    (st,s.assignOutgoing out,.refused,out)
  | .ok s =>
    match s.replay frame.requestID with
    | some (s,out) => (st,s.assignOutgoing out,.replayed,out)
    | none =>
      let (st,result) := r.handleFrame peer st calls frame
      let replies := match result with
        | .ok replies => replies
        | .error failure => rejectedReply failure
      let (s,out) := s.build (replies.map (replyFrame frame))
      (st,(s.remember frame.requestID out).assignOutgoing out,.handled,out)

/-- A received frame, how its calls end, and the reply whose `Send` fails, if one does. -/
structure Arrival where
  calls : FrameCalls := {}
  frame : ControlFrame
  failAt : Option Nat := none

structure Turn where
  frame : ControlFrame
  verdict : Verdict
  replies : List ReplyFrame
  failAt : Option Nat

def Turn.sent (turn : Turn) : List ReplyFrame :=
  match turn.failAt with
  | none => turn.replies
  | some index => turn.replies.take index

def Turn.broken (turn : Turn) : Bool := turn.failAt.any (· < turn.replies.length)

def Runtime.converse (r : Runtime) (peer : Option PeerIdentity) (st : Store) (s : ControlConnectionState) :
    List Arrival → List Turn
  | [] => []
  | arrival :: rest =>
    let (st,s,verdict,out) := r.serve peer st s arrival.calls arrival.frame
    let turn : Turn := ⟨arrival.frame,verdict,Arena.contents s.frames out,arrival.failAt⟩
    if turn.broken then [turn] else turn :: r.converse peer st s rest

section Marks
variable {values : List ReplyFrame}

lemma marked_length (values : List ReplyFrame) (count : UInt64) :
    (Arena.marked ReplyFrame.stamp (· + 1) values count).length = values.length := by
  induction values generalizing count with
  | nil => rfl
  | cons value rest ih => simp [Arena.marked,ih]

lemma marked_unnumbered (values : List ReplyFrame) (count : UInt64) :
    (Arena.marked ReplyFrame.stamp (· + 1) values count).map ReplyFrame.unnumbered = values.map (ReplyFrame.stamp 0) := by
  induction values generalizing count with
  | nil => rfl
  | cons value rest ih =>
    rw [Arena.marked,List.map_cons,List.map_cons,ih]
    rfl

lemma toUInt64_succ (count : Nat) : (count + 1).toUInt64 = count.toUInt64 + 1 := UInt64.ofNat_add count 1

lemma marked_sequences (values : List ReplyFrame) (count : Nat) :
    (Arena.marked ReplyFrame.stamp (· + 1) values count.toUInt64).map (·.sequence) =
      (List.range' count values.length).map Nat.toUInt64 := by
  induction values generalizing count with
  | nil => rfl
  | cons value rest ih =>
    rw [Arena.marked,List.map_cons,← toUInt64_succ,ih (count + 1)]
    rfl

lemma iterate_toUInt64 (steps count : Nat) : (· + 1)^[steps] count.toUInt64 = (count + steps).toUInt64 := by
  induction steps generalizing count with
  | zero => rfl
  | succ steps ih => rw [Function.iterate_succ_apply,← toUInt64_succ,ih,Nat.add_right_comm,Nat.add_assoc]

end Marks

/-- What every turn does to the connection: the counter goes on by the number of replies, and frames that
were there stay as they were. -/
structure Extends (s after : ControlConnectionState) (values : List ReplyFrame) : Prop where
  next : after.nextOutgoing = (· + 1)^[values.length] s.nextOutgoing
  kept : ∀ addresses, (∀ address ∈ addresses, address < s.frames.length) →
    Arena.contents after.frames addresses = Arena.contents s.frames addresses
  grown : s.frames.length ≤ after.frames.length

section Turns
variable {s : ControlConnectionState}
variable {frame : ControlFrame}

lemma acceptIncoming_ok {after : ControlConnectionState} (ok : s.acceptIncoming frame = .ok after) :
    frame.requestID ≠ "" ∧ frame.sequence ≠ 0 ∧ frame.sequence = s.nextIncoming ∧
      after = { s with nextIncoming := s.nextIncoming + 1 } := by
  simp only [ControlConnectionState.acceptIncoming] at ok
  split at ok
  · cases ok
  split at ok
  · cases ok
  · split at ok
    · cases ok
    · split at ok
      · cases ok
      · split at ok
        · cases ok
        · rename_i named numbered notBefore notAfter
          cases ok
          refine ⟨named,numbered,UInt64.le_antisymm ?_ ?_,rfl⟩
          · exact UInt64.not_lt.mp notAfter
          · exact UInt64.not_lt.mp notBefore

lemma assignOutgoing_spec (s after : ControlConnectionState) (values : List ReplyFrame)
    (shape : after.frames = (s.build values).1.frames ++ more) (same : after.nextOutgoing = s.nextOutgoing) :
    Extends s (after.assignOutgoing (s.build values).2) values ∧
    Arena.contents (after.assignOutgoing (s.build values).2).frames (s.build values).2 =
      Arena.marked ReplyFrame.stamp (· + 1) values s.nextOutgoing ∧
    ∀ addresses, (∀ address ∈ addresses, (s.build values).1.frames.length ≤ address) →
      Arena.contents (after.assignOutgoing (s.build values).2).frames addresses = Arena.contents after.frames addresses := by
  have room : (s.build values).1.frames.length ≤ after.frames.length := by simp [shape]
  have new : ∀ address ∈ (s.build values).2,
      s.frames.length ≤ address ∧ address < (s.build values).1.frames.length :=
    fun address mem => Arena.mem_allocate_iff.mp mem
  have nodup : (s.build values).2.Nodup := Arena.allocate_nodup s.frames values
  have length : (s.build values).2.length = values.length := by simp [ControlConnectionState.build,Arena.allocate]
  have filled : Arena.contents after.frames (s.build values).2 = values := by
    rw [shape,Arena.contents_append fun address mem => (new address mem).2]
    exact Arena.contents_allocate s.frames values
  have start : s.frames.length ≤ (s.build values).1.frames.length := by simp [ControlConnectionState.build,Arena.allocate]
  refine ⟨⟨?_,?_,?_⟩,?_,?_⟩
  · simp only [ControlConnectionState.assignOutgoing,Arena.rewrite_count,length,same]
  · intro addresses old
    have apart : ∀ other ∈ addresses, other ∉ (s.build values).2 :=
      fun other mem inside => absurd (new other inside).1 (Nat.not_le.mpr (old other mem))
    simp only [ControlConnectionState.assignOutgoing]
    rw [Arena.contents_rewrite_other apart,shape,
      Arena.contents_append fun address mem => (old address mem).trans_le start]
    exact Arena.contents_append old
  · simpa [ControlConnectionState.assignOutgoing] using start.trans room
  · simp only [ControlConnectionState.assignOutgoing]
    rw [Arena.contents_rewrite nodup fun address mem => (new address mem).2.trans_le room,filled,same]
  · intro addresses later
    have apart : ∀ other ∈ addresses, other ∉ (s.build values).2 :=
      fun other mem inside => absurd (new other inside).2 (Nat.not_lt.mpr (later other mem))
    simp only [ControlConnectionState.assignOutgoing]
    exact Arena.contents_rewrite_other apart _ _

lemma remember_spec (s : ControlConnectionState) (values : List ReplyFrame) {requestID : String} (named : requestID ≠ "") :
    let after := ((s.build values).1.remember requestID (s.build values).2).assignOutgoing (s.build values).2
    Extends s after values ∧
    Arena.contents after.frames (s.build values).2 = Arena.marked ReplyFrame.stamp (· + 1) values s.nextOutgoing ∧
    ∃ copies, after.repliesByRequestID = s.repliesByRequestID.insert requestID copies ∧
      (∀ address ∈ copies, address < after.frames.length) ∧ Arena.contents after.frames copies = values := by
  intro after
  have filled : Arena.contents (s.build values).1.frames (s.build values).2 = values := Arena.contents_allocate s.frames values
  have remembered : (s.build values).1.remember requestID (s.build values).2 =
      { (s.build values).1 with
        frames := (Arena.allocate (s.build values).1.frames values).1
        repliesByRequestID := s.repliesByRequestID.insert requestID (Arena.allocate (s.build values).1.frames values).2 } := by
    simp only [ControlConnectionState.remember,if_neg named,ControlConnectionState.cloneControlFrames,filled]
    rfl
  obtain ⟨extended,numbered,later⟩ := assignOutgoing_spec s ((s.build values).1.remember requestID (s.build values).2) values
    (by rw [remembered]; rfl) (by rw [remembered]; rfl)
  refine ⟨extended,numbered,(Arena.allocate (s.build values).1.frames values).2,?_,?_,?_⟩
  · simp only [after,ControlConnectionState.assignOutgoing,remembered]
  · intro address mem
    simpa [after,ControlConnectionState.assignOutgoing,remembered] using (Arena.mem_allocate_iff.mp mem).2
  · rw [later _ fun address mem => (Arena.mem_allocate_iff.mp mem).1,remembered]
    exact Arena.contents_allocate _ values

lemma serve_cases {r : Runtime} {peer : Option PeerIdentity} {st : Store} {calls : FrameCalls}
    (served : r.serve peer st s calls frame = (later,after,verdict,out)) : ∃ values, Extends s after values ∧
      Arena.contents after.frames out = Arena.marked ReplyFrame.stamp (· + 1) values s.nextOutgoing ∧
      ((verdict = .refused ∧ after.nextIncoming = s.nextIncoming ∧ after.repliesByRequestID = s.repliesByRequestID) ∨
        (frame.sequence ≠ 0 ∧ frame.sequence = s.nextIncoming ∧ after.nextIncoming = s.nextIncoming + 1 ∧
          ((verdict = .replayed ∧ after.repliesByRequestID = s.repliesByRequestID ∧
              ∃ addresses, s.repliesByRequestID.lookup frame.requestID = some addresses ∧
                values = Arena.contents s.frames addresses) ∨
            (verdict = .handled ∧ s.repliesByRequestID.lookup frame.requestID = none ∧
              ∃ copies, after.repliesByRequestID = s.repliesByRequestID.insert frame.requestID copies ∧
                (∀ address ∈ copies, address < after.frames.length) ∧ Arena.contents after.frames copies = values)))) := by
  have fresh (s : ControlConnectionState) (values : List ReplyFrame) :=
    assignOutgoing_spec s (s.build values).1 values (List.append_nil _).symm rfl
  cases accepted : s.acceptIncoming frame with
  | error refused =>
    simp only [Runtime.serve,accepted] at served
    cases served
    obtain ⟨extended,numbered,-⟩ := fresh s ((rejectedReply refused).map (replyFrame frame))
    exact ⟨_,extended,numbered,.inl ⟨rfl,rfl,rfl⟩⟩
  | ok next =>
    obtain ⟨named,pos,inTurn,rfl⟩ := acceptIncoming_ok accepted
    cases known : s.repliesByRequestID.lookup frame.requestID with
    | some addresses =>
      obtain ⟨extended,numbered,-⟩ := fresh { s with nextIncoming := s.nextIncoming + 1 } (Arena.contents s.frames addresses)
      have replayed : ({ s with nextIncoming := s.nextIncoming + 1 } : ControlConnectionState).replay frame.requestID =
          some (ControlConnectionState.build { s with nextIncoming := s.nextIncoming + 1 }
            (Arena.contents s.frames addresses)) := by
        simp only [ControlConnectionState.replay,if_neg named,known,Option.map_some]
        rfl
      simp only [Runtime.serve,accepted,replayed] at served
      cases served
      exact ⟨_,⟨extended.next,extended.kept,extended.grown⟩,numbered,
        .inr ⟨pos,inTurn,rfl,.inl ⟨rfl,rfl,addresses,rfl,rfl⟩⟩⟩
    | none =>
      have replayed : ({ s with nextIncoming := s.nextIncoming + 1 } : ControlConnectionState).replay frame.requestID =
          none := by
        simp only [ControlConnectionState.replay,if_neg named,known,Option.map_none]
      simp only [Runtime.serve,accepted,replayed] at served
      generalize r.handleFrame peer st calls frame = handled at served
      cases served
      obtain ⟨extended,numbered,copies,stored,inside,kept⟩ := remember_spec { s with nextIncoming := s.nextIncoming + 1 }
        ((match handled.2 with
          | .ok replies => replies
          | .error failure => rejectedReply failure).map (replyFrame frame)) named
      refine ⟨_,⟨extended.next,extended.kept,extended.grown⟩,numbered,
        .inr ⟨pos,inTurn,?_,.inr ⟨rfl,rfl,copies,stored,inside,kept⟩⟩⟩
      simp [ControlConnectionState.remember,named]
      rfl

end Turns

end SysArmor.Gateway
