import SysArmor.StorePolicies

/-! The manager's HTTP handlers for response commands. A handler works on a decoded request; how the
calls it makes end is part of the request. -/
namespace SysArmor.Manager
open GoText Proto

/-- A verified caller: the token check trims the subject, refuses an empty one, and keeps only the
roles it knows. -/
structure Principal where
  subject : String
  roles : List String
  named : trimSpace subject = subject ∧ subject ≠ ""
  recognized : roles ≠ [] ∧ ∀ role ∈ roles, role ∈ ["viewer","operator","admin"]

def Principal.hasRole (principal : Principal) (role : String) : Bool :=
  principal.roles.any fun granted => granted = role || granted = "admin"

def Principal.role (principal : Principal) : String := principal.roles.headD ""

/-- Who makes a request and when; whether an attached database answers and takes the writes, and how
the save at the end ends. -/
structure Call where
  principal : Option Principal
  now : Int := 0
  (readable written : Bool := true)
  save : Option String := none

inductive Reply where
  | refused (status : Nat) (message : String)
  | command (cmd : Command)
  | audit (status : Nat) (record : ResponseAudit)
  | ok
  deriving DecidableEq

/-- `requireOperator` for the handlers of this module, none of which asks for an administrator. -/
def requireOperator (call : Call) : Except Reply Principal :=
  match call.principal with
  | none => .error (.refused 401 "unauthorized")
  | some principal => if principal.hasRole "operator" then .ok principal else .error (.refused 403 "forbidden")

/-- `GetAgentHealth`: a database answers for itself, and only if it holds exactly one report. -/
def Store.getAgentHealth (st : Store) (readable : Bool) (tenantID agentID : String) : Option AgentHealth :=
  match readable,st.backend with
  | true,some tables =>
    match tables.health.filter fun row => passesFilters tenantID agentID (orElse row.tenantID "default") row.agentID with
    | [row] => some row
    | _ => none
  | _,_ =>
    if agentID = "" then none
    else if tenantID ≠ "" then st.health.lookup (agentHealthKey tenantID agentID)
    else match (st.health.entries.map (·.2)).filter (·.agentID = agentID) with
      | [health] => some health
      | _ => none

def Store.getSignal (st : Store) (id : String) : Option Signal := if id = "" then none else st.signals.find? (·.id = id)

def responsePolicyOf (policy : Option Policy) : ResponsePolicy :=
  match policy with
  | none => defaultResponsePolicy
  | some policy =>
    if policy.response.allowedActions = [] && policy.response.allowedModes = [] then defaultResponsePolicy
    else policy.response

structure Prepared where
  command : Command
  policy : ResponsePolicy
  denied : Bool

def deniedCommand (now : Int) (cmd : Command) (decision : Decision) : Command :=
  { (normalizeCommand now cmd).withReason "; denied: " decision.reason with status := "denied" }

def scopeOf (health : Option AgentHealth) (scope : RuntimeScope) : RuntimeScope × Decision :=
  match health with
  | some health =>
    let scope := if scope.type = "" && scope.selector = "" then health.scope else scope
    (scope,scopeDecision scope health.scope true)
  | none => (scope,if scope.type ≠ "" || scope.selector ≠ "" then
      ⟨false,"agent runtime scope is required for scoped response command"⟩ else ⟨true,""⟩)

def Command.underPolicy (cmd : Command) (effective : Option Policy) : Command :=
  if cmd.policyID = "" then
    { cmd with policyID := (effective.getD {}).policyID, policyVersion := (effective.getD {}).version }
  else cmd

/-- The end of `createResponse`: what the policy asks for, and what it refuses. -/
def prepareUnder (now : Int) (policy : ResponsePolicy) (cmd : Command) : Prepared :=
  let cmd := applyPolicyRequirements cmd policy
  let decision := validateCommandWithPolicy cmd policy
  if !decision.allowed then ⟨deniedCommand now cmd decision,policy,true⟩
  else if cmd.approvalRequired then
    ⟨{ normalizeCommand now cmd with status := "pending_approval", approvalStatus := "required" },policy,false⟩
  else ⟨cmd,policy,false⟩

/-- `createResponse` up to the write: nothing is recorded for a request without an agent. -/
def Store.prepareResponse (st : Store) (call : Call) (cmd : Command) : Option Prepared :=
  if cmd.agentID = "" then none
  else
    let cmd := { cmd with tenantID := orElse cmd.tenantID "default" }
    let (scope,decision) := scopeOf (st.getAgentHealth call.readable cmd.tenantID cmd.agentID) cmd.scope
    let cmd := { cmd with scope }
    let effective := st.effectivePolicy call.readable cmd.tenantID cmd.agentID cmd.scope
    let policy := responsePolicyOf effective
    if !decision.allowed then some ⟨deniedCommand call.now cmd decision,policy,true⟩
    else some (prepareUnder call.now policy (cmd.underPolicy effective))

def Store.recordResponse (st : Store) (call : Call) (prepared : Prepared) : Store × Reply :=
  let (st,cmd) := st.createResponse call.now call.written prepared.command
  match st.save call.save with
  | (st,some failure) => (st,.refused 500 ("save store: " ++ failure))
  | (st,none) => (st,if prepared.denied then .audit 403 ⟨cmd,none⟩ else .command cmd)

def Store.postResponse (st : Store) (call : Call) (cmd : Command) : Store × Reply :=
  match st.prepareResponse call cmd with
  | none => (st,.refused 400 "agent_id is required")
  | some prepared => st.recordResponse call prepared

structure DecisionRequest where
  (signalID tenantID agentID : String := "")
  scope : RuntimeScope := {}
  target : String := ""

def signalResponseTarget (sig : Signal) : String :=
  match sig.entities.find? fun entity => entity.kind = "process" && entity.key ≠ "" with
  | some entity => entity.key
  | none => ((sig.entities.find? (·.key ≠ "")).map (·.key)).getD ""

def decidedCommand (req : DecisionRequest) (actor : String) (sig : Signal) (intent : ResponseIntent) : Command where
  responseID := "resp-" ++ sig.id
  tenantID := req.tenantID
  agentID := req.agentID
  signalID := sig.id
  labels := sig.labels
  scope := req.scope
  action := orElse intent.recommendedAction intent.responseIntent
  mode := defaultMode
  target := orElse req.target (signalResponseTarget sig)
  reason := "signal=" ++ sig.id ++ " name=" ++ sig.name ++ " response_intent=" ++ intent.responseIntent ++ " confidence=" ++
    toString intent.confidence ++ (if intent.reason = "" then "" else " reason=" ++ intent.reason)
  actor

def Store.decideResponse (st : Store) (principal : Principal) (req : DecisionRequest) : Except Reply Command :=
  if req.signalID = "" then .error (.refused 400 "signal_id is required")
  else if req.agentID = "" then .error (.refused 400 "agent_id is required")
  else match st.getSignal req.signalID with
    | none => .error (.refused 404 "signal not found")
    | some sig =>
      match sig.responseIntent with
      | none => .error (.refused 400 "signal response intent not found")
      | some intent =>
        if intent.responseIntent = "" then .error (.refused 400 "signal response intent not found")
        else .ok (decidedCommand req principal.subject sig intent)

structure ApprovalRequest where
  (responseID tenantID agentID : String := "")
  approved : Bool := false
  reason : String := ""

inductive Request where
  | create (cmd : Command)
  | decide (req : DecisionRequest)
  | approve (req : ApprovalRequest)
  | acknowledge (ack : Ack)
  -- the acknowledgement an agent sends over its control connection
  | report (ack : Ack)

def Store.requested (st : Store) (call : Call) : Request → Except Reply Command
  | .create cmd => return { cmd with actor := (← requireOperator call).subject }
  | .decide req => do st.decideResponse (← requireOperator call) req
  | _ => .error (.refused 405 "method not allowed")

def Store.responseApprovals (st : Store) (call : Call) (req : ApprovalRequest) : Store × Reply :=
  match requireOperator call with
  | .error refusal => (st,refusal)
  | .ok principal =>
    if req.responseID = "" then (st,.refused 400 "response_id is required")
    else match st.approveResponse call.now call.written req.tenantID req.agentID req.responseID req.approved
        principal.subject principal.role req.reason with
      | (st,none) => (st,.refused 404 "response command not found")
      | (st,some cmd) =>
        match st.save call.save with
        | (st,some failure) => (st,.refused 500 ("save store: " ++ failure))
        | (st,none) => (st,.audit 200 ⟨cmd,none⟩)

def saveAcknowledged (call : Call) : Store × Option Command → Store × Reply
  | (st,none) => (st,.refused 404 "response command not found")
  | (st,some _) =>
    match st.save call.save with
    | (st,some failure) => (st,.refused 500 ("save store: " ++ failure))
    | (st,none) => (st,.ok)

def Store.responseAcknowledgements (st : Store) (call : Call) (ack : Ack) : Store × Reply :=
  match requireOperator call with
  | .error refusal => (st,refusal)
  | .ok _ =>
    if ack.agentID = "" then (st,.refused 400 "agent_id is required")
    else saveAcknowledged call (st.ackResponse call.now call.written ack)

def Store.responseReport (st : Store) (call : Call) (ack : Ack) : Store × Reply :=
  if ack.responseID = "" then (st,.refused 400 "response_ack response_id is required")
  else saveAcknowledged call (st.ackResponse call.now call.written ack)

def Store.handleResponses (st : Store) (call : Call) : Request → Store × Reply
  | .approve req => st.responseApprovals call req
  | .acknowledge ack => st.responseAcknowledgements call ack
  | .report ack => st.responseReport call ack
  | request =>
    match st.requested call request with
    | .error refusal => (st,refusal)
    | .ok cmd => st.postResponse call cmd

/-! Sequences of requests about response commands. Beside the store stand a ledger of the approvals
that were given to the command recorded last under each id, and the ids that were ever denied. -/
open Rows

structure LedgerEntry where
  responseID : String
  policy : ResponsePolicy
  approvals : List Approval := []

structure Gate where
  store : Store
  ledger : List LedgerEntry := []
  denied : List String := []

def Gate.entry (g : Gate) (responseID : String) : Option LedgerEntry := g.ledger.find? (·.responseID = responseID)

def Store.creates (st : Store) (call : Call) (request : Request) : Option Prepared :=
  match st.requested call request with
  | .error _ => none
  | .ok cmd => st.prepareResponse call cmd

def acknowledged (call : Call) : Request → Option Ack
  | .acknowledge ack => if (requireOperator call).isOk && ack.agentID ≠ "" then some ack else none
  | .report ack => some ack
  | _ => none

def Store.approves (st : Store) (call : Call) : Request → Option (Command × Approval)
  | .approve req =>
    match requireOperator call with
    | .error _ => none
    | .ok principal =>
      (st.approveResponse call.now call.written req.tenantID req.agentID req.responseID req.approved
        principal.subject principal.role req.reason).2.map fun cmd =>
          (cmd,{ actor := principal.subject, role := principal.role, approved := req.approved
                 reason := req.reason, observedAt := some call.now })
  | _ => none

def preparedID (call : Call) (prepared : Prepared) : String := (normalizeCommand call.now prepared.command).responseID

def Gate.enter (g : Gate) (call : Call) (request : Request) : List LedgerEntry :=
  match g.store.creates call request,g.store.approves call request with
  | some prepared,_ => ⟨preparedID call prepared,prepared.policy,[]⟩ :: g.ledger
  | none,some (cmd,approval) =>
    updateFirst (·.responseID = cmd.responseID) (fun entry => { entry with approvals := entry.approvals ++ [approval] }) g.ledger
  | none,none => g.ledger

def deniedIDs (responses : List Command) : List String := (responses.filter (·.status = "denied")).map (·.responseID)

def Gate.step (g : Gate) (call : Call) (request : Request) : Gate :=
  let store := (g.store.handleResponses call request).1
  ⟨store,g.enter call request,g.denied ++ deniedIDs store.responses⟩

def Gate.run (g : Gate) : List (Call × Request) → Gate
  | [] => g
  | (call,request) :: rest => (g.step call request).run rest

def LedgerEntry.satisfied (entry : LedgerEntry) : Prop :=
  entry.policy.approvalRequired → (thresholdOf entry.policy.approvalThreshold).toNat ≤
    (approvingActors entry.policy.approvalRoles entry.approvals).length

/-- What the gate is for: a command is pending or acknowledged only with enough approvals, and no
denied command is pending. -/
def Gate.Holds (g : Gate) : Prop :=
  ∀ cmd ∈ g.store.responses,
    (cmd.status = "pending" ∨ cmd.status = "acked" → ∃ entry ∈ g.entry cmd.responseID, entry.satisfied) ∧
    (cmd.status = "pending" → cmd.responseID ∉ g.denied)

instance (entry : LedgerEntry) : Decidable entry.satisfied := inferInstanceAs (Decidable (_ → _))

instance (g : Gate) : Decidable g.Holds := inferInstanceAs (Decidable (∀ cmd ∈ g.store.responses, _ ∧ _))

/-- The condition on a request. A command to be created under a policy that requires approval
carries no approvals that count, and its id is not that of a denied command; an acknowledged
command that requires approval is pending or acknowledged already. -/
def Gate.allows (g : Gate) (call : Call) (request : Request) : Bool :=
  ((g.store.creates call request).all fun prepared =>
    (!prepared.policy.approvalRequired || prepared.command.approvals.all fun approval =>
      !approval.counts prepared.command.approvalRoles) && preparedID call prepared ∉ g.denied) &&
  ((acknowledged call request).all fun ack =>
    (g.store.responses.find? (·.responseID = ack.responseID)).all fun cmd =>
      cmd.status = "pending" || cmd.status = "acked" ||
        (g.entry cmd.responseID).all fun entry => !entry.policy.approvalRequired)

def Gate.allowsAll (g : Gate) : List (Call × Request) → Bool
  | [] => true
  | (call,request) :: rest => g.allows call request && (g.step call request).allowsAll rest

/-! What the operations of the store do to the commands. -/

open Store

@[simp] lemma save_responses (st : Store) (failure : Option ε) : (st.save failure).1.responses = st.responses := by
  cases failure <;> rfl

@[simp] lemma writeThrough_responses (st : Store) (written : Bool) (write : Tables → Tables) :
    (st.writeThrough written write).responses = st.responses := by
  unfold writeThrough
  split <;> rfl

lemma createResponse_responses (st : Store) (now : Int) (written : Bool) (cmd : Command) :
    ∃ created, (st.createResponse now written cmd).1.responses =
        upsert (·.responseID = (normalizeCommand now cmd).responseID) (fun _ => created) created st.responses ∧
      ∃ createdAt, created = { normalizeCommand now cmd with createdAt } := by
  unfold createResponse
  dsimp only
  rw [writeThrough_responses]
  cases st.responses.find? _ with
  | some existing => exact ⟨_,rfl,_,rfl⟩
  | none => exact ⟨_,rfl,_,rfl⟩

variable {st : Store} {written : Bool} {call : Call}

lemma approveResponse_cases {now : Int} {tenantID agentID responseID : String} {approved : Bool} {actor role reason : String} :
    ((st.approveResponse now written tenantID agentID responseID approved actor role reason).2 = none ∧
      (st.approveResponse now written tenantID agentID responseID approved actor role reason).1 = st) ∨
    ∃ cmd, st.responses.find? (namesResponse (orElse tenantID "default") agentID responseID) = some cmd ∧
      cmd.awaitsApproval ∧ roleAllowed cmd.approvalRoles role ∧
      let decided := cmd.decide now { actor, role, approved, reason, observedAt := some now }
      (st.approveResponse now written tenantID agentID responseID approved actor role reason).2 = some decided ∧
      (st.approveResponse now written tenantID agentID responseID approved actor role reason).1.responses =
        updateFirst (namesResponse (orElse tenantID "default") agentID responseID) (fun _ => decided) st.responses := by
  unfold approveResponse
  split
  · exact .inl ⟨rfl,rfl⟩
  dsimp only
  split
  · exact .inl ⟨rfl,rfl⟩
  rename_i cmd found
  split
  · exact .inl ⟨rfl,rfl⟩
  rename_i open_
  simp only [Bool.or_eq_true,Bool.not_eq_true',not_or,Bool.not_eq_false] at open_
  refine .inr ⟨cmd,found,open_.1,open_.2,rfl,?_⟩
  rw [writeThrough_responses]

lemma ackResponse_cases {now : Int} {ack : Ack} :
    ((st.ackResponse now written ack).2 = none ∧ (st.ackResponse now written ack).1 = st) ∨
    ∃ cmd updatedAt, st.responses.find? (·.responseID = ack.responseID) = some cmd ∧
      (st.ackResponse now written ack).1.responses = updateFirst (·.responseID = ack.responseID)
        (fun _ => { cmd with status := "acked", updatedAt }) st.responses := by
  unfold ackResponse
  split
  · exact .inl ⟨rfl,rfl⟩
  dsimp only
  split
  · exact .inl ⟨rfl,rfl⟩
  rename_i cmd found
  refine .inr ⟨cmd,ack.observedAt.or (some now),found,?_⟩
  rw [writeThrough_responses]

lemma saveAcknowledged_responses (result : Store × Option Command) :
    (saveAcknowledged call result).1.responses = result.1.responses := by
  obtain ⟨st,cmd⟩ := result
  cases cmd with
  | none => rfl
  | some cmd =>
    have saved := save_responses st call.save
    unfold saveAcknowledged
    dsimp only
    split <;> (rename_i same; rw [same] at saved; exact saved)

lemma recordResponse_responses (st : Store) (call : Call) (prepared : Prepared) :
    (st.recordResponse call prepared).1.responses = (st.createResponse call.now call.written prepared.command).1.responses := by
  have saved := save_responses (st.createResponse call.now call.written prepared.command).1 call.save
  unfold recordResponse
  dsimp only
  split <;> (rename_i same; rw [same] at saved; exact saved)

lemma responseApprovals_responses {req : ApprovalRequest} (operator : requireOperator call = .ok principal) :
    (st.responseApprovals call req).1.responses = (st.approveResponse call.now call.written req.tenantID req.agentID
      req.responseID req.approved principal.subject principal.role req.reason).1.responses := by
  unfold responseApprovals
  rw [operator]
  dsimp only
  split
  · rename_i unnamed
    simp [approveResponse,unnamed]
  split
  · rename_i same
    rw [same]
  · rename_i approved cmd same
    rw [same]
    have saved := save_responses approved call.save
    split <;> (rename_i same; rw [same] at saved; exact saved)

/-- Everything a request can do to the commands and the ledger: nothing; recording a command;
deciding one that awaits approval; or acknowledging one. -/
inductive Outcome (g : Gate) (call : Call) (request : Request) (responses : List Command) (ledger : List LedgerEntry) : Prop
  | idle (same : responses = g.store.responses) (kept : ledger = g.ledger)
  | created (prepared : Prepared) (createdAt : Time) (recorded : g.store.creates call request = some prepared)
      (stored : responses = upsert (·.responseID = preparedID call prepared)
        (fun _ => { normalizeCommand call.now prepared.command with createdAt })
        { normalizeCommand call.now prepared.command with createdAt } g.store.responses)
      (entered : ledger = ⟨preparedID call prepared,prepared.policy,[]⟩ :: g.ledger)
  | decided (hit : Command → Bool) (cmd : Command) (principal : Principal) (approval : Approval)
      (named : ∀ other, hit other → other.responseID = cmd.responseID) (found : g.store.responses.find? hit = some cmd)
      (awaits : cmd.awaitsApproval) (actor : approval.actor = principal.subject)
      (stored : responses = updateFirst hit (fun _ => cmd.decide call.now approval) g.store.responses)
      (entered : ledger = updateFirst (·.responseID = cmd.responseID)
        (fun entry => { entry with approvals := entry.approvals ++ [approval] }) g.ledger)
  | acknowledged (ack : Ack) (cmd : Command) (updatedAt : Time) (reached : acknowledged call request = some ack)
      (found : g.store.responses.find? (·.responseID = ack.responseID) = some cmd)
      (stored : responses = updateFirst (·.responseID = ack.responseID)
        (fun _ => { cmd with status := "acked", updatedAt }) g.store.responses)
      (kept : ledger = g.ledger)

lemma decide_spec (cmd : Command) (now : Int) (approval : Approval) : (cmd.decide now approval).responseID = cmd.responseID ∧
    (cmd.decide now approval).approvalThreshold = cmd.approvalThreshold ∧
    (cmd.decide now approval).approvalRoles = cmd.approvalRoles ∧
    (cmd.decide now approval).approvals = cmd.approvals ++ [approval] ∧
    ((cmd.decide now approval).status = "denied" ∨ (cmd.decide now approval).status = cmd.status ∨
      (cmd.decide now approval).status = "pending" ∧
        thresholdOf cmd.approvalThreshold ≤ approvalCount cmd.approvalRoles (cmd.approvals ++ [approval])) := by
  have reasoned : ∀ (cmd : Command) separator reason, ∃ reason', cmd.withReason separator reason = { cmd with reason := reason' } := by
    intro cmd separator reason
    unfold Command.withReason
    split
    · exact ⟨cmd.reason,rfl⟩
    · exact ⟨_,rfl⟩
  unfold Command.decide
  dsimp only
  split
  · rename_i enough
    obtain ⟨reason',shape⟩ := reasoned _ "; approval: " approval.reason
    rw [shape]
    simp only [Bool.and_eq_true,decide_eq_true_eq] at enough
    exact ⟨rfl,rfl,rfl,rfl,.inr (.inr ⟨rfl,enough.2⟩)⟩
  · split
    · obtain ⟨reason',shape⟩ := reasoned _ "; approval: " approval.reason
      rw [shape]
      exact ⟨rfl,rfl,rfl,rfl,.inr (.inl rfl)⟩
    · obtain ⟨reason',shape⟩ := reasoned _ "; approval: " approval.reason
      rw [shape]
      exact ⟨rfl,rfl,rfl,rfl,.inl rfl⟩

open Gate

lemma creates_outcome {g : Gate} (noApproval : g.store.approves call request = none)
    (handled : g.store.handleResponses call request = match g.store.requested call request with
      | .error refusal => (g.store,refusal)
      | .ok cmd => g.store.postResponse call cmd) :
    Outcome g call request (g.step call request).store.responses (g.step call request).ledger := by
  simp only [step,enter,noApproval,handled]
  cases wanted : g.store.requested call request with
  | error refusal => exact .idle rfl (by simp [creates,wanted])
  | ok cmd =>
    cases ready : g.store.prepareResponse call cmd with
    | none => exact .idle (by simp [postResponse,ready]) (by simp [creates,wanted,ready])
    | some prepared =>
      have recorded : g.store.creates call request = some prepared := by simp [creates,wanted,ready]
      obtain ⟨created,stored,createdAt,rfl⟩ := createResponse_responses g.store call.now call.written prepared.command
      refine .created prepared createdAt recorded ?_ (by rw [recorded])
      simp only [postResponse,ready,recordResponse_responses,stored]
      rfl

lemma approve_outcome (g : Gate) (call : Call) (req : ApprovalRequest) :
    Outcome g call (.approve req) (g.step call (.approve req)).store.responses (g.step call (.approve req)).ledger := by
  have none : g.store.creates call (.approve req) = none := rfl
  simp only [step,enter,none,approves,handleResponses]
  cases operator : requireOperator call with
  | error refusal => exact .idle (by simp [responseApprovals,operator]) rfl
  | ok principal =>
    dsimp only
    rw [responseApprovals_responses operator]
    rcases approveResponse_cases with ⟨missing,same⟩ | ⟨cmd,found,awaits,_,replied,stored⟩
    · rw [missing,same]
      exact .idle rfl rfl
    have named : cmd.responseID = req.responseID := by
      have hit := List.find?_some found
      simp only [namesResponse,Bool.and_eq_true,decide_eq_true_eq] at hit
      exact hit.1
    rw [replied,stored]
    refine .decided _ cmd principal _ ?_ found awaits rfl rfl ?_
    · intro other hit
      simp only [namesResponse,Bool.and_eq_true,decide_eq_true_eq] at hit
      exact hit.1.trans named.symm
    · simp only [Option.map_some,(decide_spec _ _ _).1]

lemma ack_outcome {g : Gate} (ack : Ack) (reached : acknowledged call request = some ack)
    (noCommand : g.store.creates call request = none) (noApproval : g.store.approves call request = none)
    (handled : (g.store.handleResponses call request).1.responses = (g.store.ackResponse call.now call.written ack).1.responses) :
    Outcome g call request (g.step call request).store.responses (g.step call request).ledger := by
  simp only [step,enter,noCommand,noApproval,handled]
  rcases ackResponse_cases with ⟨_,same⟩ | ⟨cmd,updatedAt,found,stored⟩
  · exact .idle (by rw [same]) rfl
  · exact .acknowledged ack cmd updatedAt reached found stored rfl

lemma step_outcome (g : Gate) (call : Call) (request : Request) :
    Outcome g call request (g.step call request).store.responses (g.step call request).ledger := by
  cases request with
  | create cmd => exact creates_outcome rfl rfl
  | decide req => exact creates_outcome rfl rfl
  | approve req => exact approve_outcome g call req
  | acknowledge ack =>
    by_cases reaches : (requireOperator call).isOk && ack.agentID ≠ ""
    · refine ack_outcome ack (by simp only [acknowledged,reaches,if_true]) rfl rfl ?_
      simp only [handleResponses,responseAcknowledgements]
      simp only [Bool.and_eq_true,decide_eq_true_eq] at reaches
      cases operator : requireOperator call with
      | error refusal => simp [operator,Except.isOk,Except.toBool] at reaches
      | ok principal =>
        dsimp only
        rw [if_neg reaches.2,saveAcknowledged_responses]
    · refine .idle ?_ rfl
      simp only [step,handleResponses,responseAcknowledgements]
      cases operator : requireOperator call with
      | error refusal => rfl
      | ok principal =>
        have unnamed : ack.agentID = "" := by simpa [operator,Except.isOk,Except.toBool] using reaches
        simp [unnamed]
  | report ack =>
    by_cases unnamed : ack.responseID = ""
    · refine .idle ?_ rfl
      simp [step,handleResponses,responseReport,unnamed]
    refine ack_outcome ack rfl rfl rfl ?_
    simp only [handleResponses,responseReport]
    rw [if_neg unnamed,saveAcknowledged_responses]

end SysArmor.Manager
