import SysArmor.StoreOperations

/-! Restarting on a database, and the binding of agents to certificates. The store opens with empty
tables in memory, and the operations on responses, policies, agent identities and pullbacks look only
there: they answer as before exactly where they find nothing anyway. -/
namespace SysArmor.Manager
open Rows List

section
open Proto

def openTableStore (tables : Tables) : Store := { backend := some tables }
def Store.restarted (st : Store) : Store := { backend := st.backend }

inductive Later where
  | approveResponse (tenantID agentID responseID : String) (approved : Bool) (actor role reason : String)
  | ackResponse (ack : Ack)
  | pendingResponses (tenantID agentID : String)
  | publishPolicy (tenantID policyID : String) (version : UInt64) (published : Bool)
  | assignPolicy (assignment : Assignment)
  | bindAgentIdentity (agent : AgentIdentity)
  | completeEvidencePullback (result : EvidencePullbackResult)

inductive Answer where
  | command (cmd : Option Command)
  | commands (pending : List Command)
  | policy (policy : Option Policy)
  | assignment (assignment : Option Assignment)
  | bound (refused : Option BindError)
  | pullback (req : Option EvidencePullbackRequest)
  deriving DecidableEq

section
variable (digest : String → String)

def Store.answer (st : Store) (calls : Calls) : Later → Store × Answer
  | .approveResponse tenantID agentID responseID approved actor role reason =>
    let (st,cmd) := st.approveResponse calls.now calls.written tenantID agentID responseID approved actor role reason
    (st,.command cmd)
  | .ackResponse ack =>
    let (st,cmd) := st.ackResponse calls.now calls.written ack
    (st,.command cmd)
  | .pendingResponses tenantID agentID => (st,.commands (st.pendingResponses tenantID agentID))
  | .publishPolicy tenantID policyID version published =>
    let (st,policy) := st.publishPolicy calls.now calls.written tenantID policyID version published
    (st,.policy policy)
  | .assignPolicy assignment =>
    let (st,assignment) := st.assignPolicy digest calls.now calls.written assignment
    (st,.assignment assignment)
  | .bindAgentIdentity agent => match st.bindAgentIdentity agent with
    | .error refused => (st,.bound (some refused))
    | .ok st => (st,.bound none)
  | .completeEvidencePullback result =>
    let (st,req) := st.completeEvidencePullback calls.now result
    (st,.pullback req)

def Store.answers (st : Store) : List (Calls × Later) → List Answer
  | [] => []
  | (calls,op) :: rest => (st.answer digest calls op).2 :: (st.answer digest calls op).1.answers rest

def AgentIdentity.bindable (agent : AgentIdentity) : Bool :=
  agent.valid && agent.authType ≠ "" && agent.certIdentity ≠ ""

def agentKey (agent : AgentIdentity) : String × String := (agent.tenantID,agent.agentID)

def Later.rebinds : Later → List (String × String)
  | .bindAgentIdentity agent => if agent.normalized.bindable then [agentKey agent.normalized] else []
  | _ => []

/-- The condition on an operation, in the state before it and after the agents in `rebound` were bound
again: it finds nothing in memory to work on, or nothing that stands against it. -/
def Store.findsNothing (st : Store) (rebound : List (String × String)) : Later → Bool
  | .approveResponse tenantID agentID responseID _ _ role _ =>
    responseID = "" || (st.responses.find? (namesResponse (orElse tenantID "default") agentID responseID)).all fun cmd =>
      !cmd.awaitsApproval || !roleAllowed cmd.approvalRoles role
  | .ackResponse ack => ack.responseID = "" || (st.responses.find? (·.responseID = ack.responseID)).isNone
  | .pendingResponses tenantID agentID => st.responses.all fun cmd =>
      !(passesFilters tenantID agentID cmd.tenantID cmd.agentID && cmd.status = "pending" &&
        !st.responseAcks.any (·.responseID = cmd.responseID))
  | .publishPolicy tenantID policyID version _ =>
    policyID = "" || (st.policies.find? (namesPolicy (orElse tenantID "default") policyID version)).isNone
  | .assignPolicy assignment =>
    assignment.policyID = "" ||
      (publishedPolicy st.policies (orElse assignment.tenantID "default") assignment.policyID assignment.policyVersion).isNone
  | .bindAgentIdentity agent =>
    !agent.normalized.bindable || agentKey agent.normalized ∈ rebound ||
      (st.agents.find? (sameAgent agent.normalized)).all fun existing => bindConflict agent.normalized existing = none
  | .completeEvidencePullback result =>
    result.requestID = "" || (st.pullbacks.find? (namesPullback result.requestID result.tenantID result.agentID)).isNone

def Store.findsNothingAll (st : Store) (rebound : List (String × String)) : List (Calls × Later) → Bool
  | [] => true
  | (calls,op) :: rest =>
    st.findsNothing rebound op && (st.answer digest calls op).1.findsNothingAll (op.rebinds ++ rebound) rest

end

variable {st fresh : Store} {digest : String → String}

/-! What an operation that finds nothing answers. -/

def Later.nothing : Later → Answer
  | .approveResponse .. | .ackResponse _ => .command none
  | .pendingResponses .. => .commands []
  | .publishPolicy .. => .policy none
  | .assignPolicy _ => .assignment none
  | .bindAgentIdentity _ => .bound none
  | .completeEvidencePullback _ => .pullback none

structure Store.AnswersBy (digest : String → String) (st : Store) (calls : Calls) (rebound : List (String × String))
    (op : Later) : Prop where
  nothing : st.findsNothing rebound op → st.answer digest calls op = (st,op.nothing)
  something : ¬ st.findsNothing rebound op → (st.answer digest calls op).2 ≠ op.nothing

variable (calls : Calls) (tenantID agentID : String)

lemma approveResponse_answers (responseID : String) (approved : Bool) (actor role reason : String) :
    st.AnswersBy digest calls rebound (.approveResponse tenantID agentID responseID approved actor role reason) := by
  constructor <;> unfold Store.findsNothing Store.answer Store.approveResponse
  all_goals
    by_cases named : responseID = ""
    · simp [named,Later.nothing]
    cases found : st.responses.find? (namesResponse (orElse tenantID "default") agentID responseID) with
    | none => simp [named,found,Later.nothing]
    | some cmd =>
      simp only [named,found,decide_false,Bool.false_or,Option.all_some,↓reduceIte]
      intro undecided
      simp [undecided,Later.nothing]

lemma ackResponse_answers (ack : Ack) : st.AnswersBy digest calls rebound (.ackResponse ack) := by
  constructor <;> unfold Store.findsNothing Store.answer Store.ackResponse
  all_goals
    by_cases named : ack.responseID = ""
    · simp [named,Later.nothing]
    · cases found : st.responses.find? (·.responseID = ack.responseID) <;> simp [named,found,Later.nothing]

lemma pendingResponses_eq_nil :
    st.pendingResponses tenantID agentID = [] ↔ st.findsNothing rebound (.pendingResponses tenantID agentID) := by
  unfold Store.pendingResponses
  rw [← length_eq_zero_iff,length_insertionSort,length_eq_zero_iff,filter_eq_nil_iff]
  simp only [Store.findsNothing,all_eq_true,Bool.not_eq_true',Bool.not_eq_true]

lemma pendingResponses_answers : st.AnswersBy digest calls rebound (.pendingResponses tenantID agentID) where
  nothing := by
    intro none
    exact congrArg (fun pending => (st,Answer.commands pending)) ((pendingResponses_eq_nil tenantID agentID).mpr none)
  something := by
    intro some same
    exact some ((pendingResponses_eq_nil tenantID agentID).mp (Answer.commands.inj same))

lemma publishPolicy_answers (policyID : String) (version : UInt64) (published : Bool) :
    st.AnswersBy digest calls rebound (.publishPolicy tenantID policyID version published) := by
  constructor <;> unfold Store.findsNothing Store.answer Store.publishPolicy
  all_goals
    by_cases named : policyID = ""
    · simp [named,Later.nothing]
    · cases found : st.policies.find? (namesPolicy (orElse tenantID "default") policyID version) <;>
        simp [named,found,Later.nothing]

lemma assignPolicy_answers (assignment : Assignment) : st.AnswersBy digest calls rebound (.assignPolicy assignment) := by
  constructor <;> unfold Store.findsNothing Store.answer Store.assignPolicy
  all_goals
    by_cases named : assignment.policyID = ""
    · simp [named,Later.nothing]
    · cases found : publishedPolicy st.policies (orElse assignment.tenantID "default") assignment.policyID
          assignment.policyVersion <;> simp [named,found,Later.nothing]

lemma completeEvidencePullback_answers (result : EvidencePullbackResult) :
    st.AnswersBy digest calls rebound (.completeEvidencePullback result) := by
  constructor <;> unfold Store.findsNothing Store.answer Store.completeEvidencePullback
  all_goals
    by_cases named : result.requestID = ""
    · simp [named,Later.nothing]
    · cases found : st.pullbacks.find? (namesPullback result.requestID result.tenantID result.agentID) <;>
        simp [named,found,Later.nothing]

lemma answersBy (op : Later) (noBind : ∀ agent, op ≠ .bindAgentIdentity agent) : st.AnswersBy digest calls rebound op := by
  cases op with
  | approveResponse tenantID agentID responseID approved actor role reason =>
    exact approveResponse_answers calls tenantID agentID responseID approved actor role reason
  | ackResponse ack => exact ackResponse_answers calls ack
  | pendingResponses tenantID agentID => exact pendingResponses_answers calls tenantID agentID
  | publishPolicy tenantID policyID version published => exact publishPolicy_answers calls tenantID policyID version published
  | assignPolicy assignment => exact assignPolicy_answers calls assignment
  | bindAgentIdentity agent => exact (noBind agent rfl).elim
  | completeEvidencePullback result => exact completeEvidencePullback_answers calls result

/-! The store without the restart and the one that was opened again. -/

/-- Until something is found, the store that was opened again has no responses, policies or
pullbacks, and of the agents only those that were bound again, with the same certificates. -/
structure Reopened (rebound : List (String × String)) (st fresh : Store) : Prop where
  responses : fresh.responses = []
  policies : fresh.policies = []
  pullbacks : fresh.pullbacks = []
  unbound : ∀ agent, agentKey agent ∉ rebound → fresh.agents.find? (sameAgent agent) = none
  bound : ∀ agent, agentKey agent ∈ rebound → ∃ existing again, st.agents.find? (sameAgent agent) = some existing ∧
    fresh.agents.find? (sameAgent agent) = some again ∧ existing.certIdentity = again.certIdentity ∧
    existing.authType = again.authType

lemma reopened_restarted : Reopened [] st st.restarted where
  responses := rfl
  policies := rfl
  pullbacks := rfl
  unbound := fun _ _ => rfl
  bound := fun _ mem => absurd mem (by simp)

lemma Reopened.findsNothing (reopened : Reopened rebound st fresh) (op : Later)
    (noBind : ∀ agent, op ≠ .bindAgentIdentity agent) : fresh.findsNothing rebound op := by
  obtain ⟨responses,policies,pullbacks,_,_⟩ := reopened
  cases op with
  | bindAgentIdentity agent => exact (noBind agent rfl).elim
  | assignPolicy assignment => simp [Store.findsNothing,policies,publishedPolicy]
  | _ => simp [Store.findsNothing,responses,policies,pullbacks]

lemma Reopened.again (reopened : Reopened rebound st fresh) (mem : key ∈ rebound) : Reopened (key :: rebound) st fresh where
  responses := reopened.responses
  policies := reopened.policies
  pullbacks := reopened.pullbacks
  unbound := fun agent absent => reopened.unbound agent fun bound => absent (mem_cons_of_mem _ bound)
  bound := by
    intro agent bound
    rcases mem_cons.mp bound with same | bound
    · exact reopened.bound agent (same ▸ mem)
    · exact reopened.bound agent bound

variable {agent other : AgentIdentity}

lemma sameAgent_eq : sameAgent agent = fun existing => agentKey existing = agentKey agent := by
  funext existing
  simp [sameAgent,agentKey,Bool.decide_and]

/-! Binding an agent. -/

def Store.register (st : Store) (agent : AgentIdentity) : Store :=
  { st with agents := upsert (sameAgent agent) agent.keeping agent st.agents }

lemma bindAgentIdentity_unbindable (refused : ¬ agent.normalized.bindable) :
    ∃ reason, ∀ st : Store, st.bindAgentIdentity agent = .error reason := by
  unfold Store.bindAgentIdentity
  dsimp only
  by_cases valid : agent.normalized.valid
  · have missing : (agent.normalized.authType = "" || agent.normalized.certIdentity = "") = true := by
      by_contra given
      simp only [Bool.or_eq_true,decide_eq_true_eq,not_or] at given
      exact refused (by simp [AgentIdentity.bindable,valid,given])
    exact ⟨.authRequired,fun st => by rw [if_neg (by simp [valid]),if_pos missing]⟩
  · exact ⟨.agentRequired,fun st => if_pos (by simpa using valid)⟩

lemma bindAgentIdentity_bindable (bindable : agent.normalized.bindable) : st.bindAgentIdentity agent =
      match (st.agents.find? (sameAgent agent.normalized)).bind (bindConflict agent.normalized) with
      | some conflict => .error conflict
      | none => .ok (st.register agent.normalized) := by
  simp only [AgentIdentity.bindable,Bool.and_eq_true,decide_eq_true_eq] at bindable
  unfold Store.bindAgentIdentity Store.register
  cases conflict : (st.agents.find? (sameAgent agent.normalized)).bind (bindConflict agent.normalized) <;>
    simp [bindable,conflict]

lemma find?_register (same : agentKey other = agentKey agent) : (st.register agent).agents.find? (sameAgent other) =
    some (((st.agents.find? (sameAgent agent)).map agent.keeping).getD agent) := by
  unfold Store.register
  rw [sameAgent_eq,sameAgent_eq,same]
  exact find?_upsert_same (fun _ _ => rfl) rfl

lemma find?_register_same (same : agentKey other = agentKey agent)
    (cert : agent.certIdentity ≠ "") (auth : agent.authType ≠ "") :
    ∃ existing, (st.register agent).agents.find? (sameAgent other) = some existing ∧
      existing.certIdentity = agent.certIdentity ∧ existing.authType = agent.authType := by
  refine ⟨_,find?_register same,?_⟩
  cases st.agents.find? (sameAgent agent) with
  | none => exact ⟨rfl,rfl⟩
  | some existing => exact ⟨if_neg cert,if_neg auth⟩

lemma find?_register_other (ne : agentKey other ≠ agentKey agent) :
    (st.register agent).agents.find? (sameAgent other) = st.agents.find? (sameAgent other) := by
  unfold Store.register
  rw [sameAgent_eq,sameAgent_eq]
  exact find?_upsert_other (fun _ _ => rfl) rfl ne

lemma Reopened.register (reopened : Reopened rebound st fresh) (cert : agent.certIdentity ≠ "") (auth : agent.authType ≠ "") :
    Reopened (agentKey agent :: rebound) (st.register agent) (fresh.register agent) where
  responses := reopened.responses
  policies := reopened.policies
  pullbacks := reopened.pullbacks
  unbound := by
    intro other absent
    rw [mem_cons,not_or] at absent
    rw [find?_register_other absent.1]
    exact reopened.unbound other absent.2
  bound := by
    intro other mem
    by_cases same : agentKey other = agentKey agent
    · obtain ⟨existing,found,hasCert,hasAuth⟩ := find?_register_same same cert auth
      obtain ⟨again,foundAgain,sameCert,sameAuth⟩ := find?_register_same same cert auth
      exact ⟨existing,again,found,foundAgain,hasCert.trans sameCert.symm,hasAuth.trans sameAuth.symm⟩
    · rw [find?_register_other same,find?_register_other same]
      exact reopened.bound other ((mem_cons.mp mem).resolve_left same)

lemma Reopened.conflict (reopened : Reopened rebound st fresh) (mem : agentKey agent ∈ rebound) :
    (fresh.agents.find? (sameAgent agent)).bind (bindConflict agent) = (st.agents.find? (sameAgent agent)).bind (bindConflict agent) := by
  obtain ⟨existing,again,found,foundAgain,sameCert,sameAuth⟩ := reopened.bound agent mem
  rw [found,foundAgain,Option.bind_some,Option.bind_some,bindConflict,bindConflict,sameCert,sameAuth]

lemma answer_bindAgentIdentity (bindable : agent.normalized.bindable) (calls : Calls) (st : Store) :
    st.answer digest calls (.bindAgentIdentity agent) =
      match (st.agents.find? (sameAgent agent.normalized)).bind (bindConflict agent.normalized) with
      | some conflict => (st,.bound (some conflict))
      | none => (st.register agent.normalized,.bound none) := by
  unfold Store.answer
  dsimp only
  rw [bindAgentIdentity_bindable bindable]
  cases (st.agents.find? (sameAgent agent.normalized)).bind (bindConflict agent.normalized) <;> rfl

/-- One operation on both stores: the answers agree exactly under the condition, and the relation is
then kept. -/
structure StepAgrees (digest : String → String) (calls : Calls) (rebound : List (String × String)) (op : Later)
    (st fresh : Store) : Prop where
  same : (fresh.answer digest calls op).2 = (st.answer digest calls op).2 ↔ st.findsNothing rebound op
  kept : st.findsNothing rebound op →
    Reopened (op.rebinds ++ rebound) (st.answer digest calls op).1 (fresh.answer digest calls op).1

section
variable (reopened : Reopened rebound st fresh)
include reopened

lemma Reopened.step_unbindable (calls : Calls) (refused : ¬ agent.normalized.bindable) :
    StepAgrees digest calls rebound (.bindAgentIdentity agent) st fresh := by
  obtain ⟨reason,refuses⟩ := bindAgentIdentity_unbindable refused
  have answers : ∀ st : Store, st.answer digest calls (.bindAgentIdentity agent) = (st,.bound (some reason)) := by
    intro st
    unfold Store.answer
    dsimp only
    rw [refuses]
  constructor
  · rw [answers,answers]
    simp [Store.findsNothing,refused]
  · rw [answers,answers]
    simpa [Later.rebinds,refused] using fun _ => reopened

lemma Reopened.step_bind (calls : Calls) (bindable : agent.normalized.bindable) :
    StepAgrees digest calls rebound (.bindAgentIdentity agent) st fresh := by
  have given : agent.normalized.authType ≠ "" ∧ agent.normalized.certIdentity ≠ "" := by
    simp only [AgentIdentity.bindable,Bool.and_eq_true,decide_eq_true_eq] at bindable
    exact ⟨bindable.1.2,bindable.2⟩
  have rebinds : (Later.bindAgentIdentity agent).rebinds = [agentKey agent.normalized] := by
    simp [Later.rebinds,bindable]
  have registered := reopened.register given.2 given.1
  by_cases again : agentKey agent.normalized ∈ rebound
  · -- both stores have the agent, with one certificate
    have conflict := reopened.conflict again
    constructor
    · rw [answer_bindAgentIdentity bindable,answer_bindAgentIdentity bindable,conflict]
      have allowed : st.findsNothing rebound (.bindAgentIdentity agent) := by simp [Store.findsNothing,again]
      simp only [allowed,iff_true]
      cases (st.agents.find? (sameAgent agent.normalized)).bind (bindConflict agent.normalized) <;> rfl
    · intro _
      rw [answer_bindAgentIdentity bindable,answer_bindAgentIdentity bindable,conflict,rebinds,singleton_append]
      cases (st.agents.find? (sameAgent agent.normalized)).bind (bindConflict agent.normalized) with
      | none => exact registered
      | some refused => exact reopened.again again
  · -- the store that was opened again does not know the agent
    have unknown := reopened.unbound _ again
    have free : st.findsNothing rebound (.bindAgentIdentity agent) ↔
        (st.agents.find? (sameAgent agent.normalized)).bind (bindConflict agent.normalized) = none := by
      cases found : st.agents.find? (sameAgent agent.normalized) <;> simp [Store.findsNothing,bindable,again,found]
    constructor
    · rw [answer_bindAgentIdentity bindable,answer_bindAgentIdentity bindable,unknown,free,Option.bind_none]
      cases (st.agents.find? (sameAgent agent.normalized)).bind (bindConflict agent.normalized) <;> simp
    intro allowed
    rw [answer_bindAgentIdentity bindable,answer_bindAgentIdentity bindable,unknown,free.mp allowed,rebinds,
      singleton_append]
    exact registered

lemma Reopened.step_other (calls : Calls) (op : Later)
    (noBind : ∀ agent, op ≠ .bindAgentIdentity agent) : StepAgrees digest calls rebound op st fresh := by
  have answers : st.AnswersBy digest calls rebound op := answersBy calls op noBind
  have again : fresh.answer digest calls op = (fresh,op.nothing) :=
    (answersBy calls op noBind).nothing (reopened.findsNothing op noBind)
  have rebinds : op.rebinds = [] := by
    cases op with
    | bindAgentIdentity agent => exact (noBind agent rfl).elim
    | _ => rfl
  constructor
  · rw [again]
    constructor
    · intro same
      by_contra something
      exact answers.something something same.symm
    · intro nothing
      rw [answers.nothing nothing]
  · intro nothing
    rw [again,answers.nothing nothing,rebinds,nil_append]
    exact reopened

lemma Reopened.step (calls : Calls) (op : Later) : StepAgrees digest calls rebound op st fresh := by
  cases op with
  | bindAgentIdentity agent =>
    by_cases bindable : agent.normalized.bindable
    · exact reopened.step_bind calls bindable
    · exact reopened.step_unbindable calls bindable
  | _ => exact reopened.step_other calls _ (by simp)

lemma Reopened.answers_iff (later : List (Calls × Later)) :
    fresh.answers digest later = st.answers digest later ↔ st.findsNothingAll digest rebound later := by
  induction later generalizing rebound st fresh with
  | nil => simp [Store.answers,Store.findsNothingAll]
  | cons head rest ih =>
    obtain ⟨calls,op⟩ := head
    have agrees : StepAgrees digest calls rebound op st fresh := reopened.step calls op
    obtain ⟨same,kept⟩ := agrees
    rw [Store.answers,Store.answers,Store.findsNothingAll,List.cons.injEq,Bool.and_eq_true,same]
    constructor
    · rintro ⟨nothing,rests⟩
      exact ⟨nothing,(ih (kept nothing)).mp rests⟩
    · rintro ⟨nothing,rests⟩
      exact ⟨nothing,(ih (kept nothing)).mpr rests⟩

end

/-- After any sequence of operations and a save, a restart leaves the answers of later operations as
they would have been exactly if each of them, without the restart, finds nothing to work on: no
response to decide, acknowledge or deliver, no policy to publish or assign, no pullback to complete,
and for the first binding of an agent no registered certificate that stands against it. -/
theorem restart_answers_iff (digest : String → String) (tables : Tables) (ops : List (Calls × Operation))
    (later : List (Calls × Later)) :
    let saved := (((openTableStore tables).run digest ops).save (none : Option Unit)).1
    saved.restarted.answers digest later = saved.answers digest later ↔ saved.findsNothingAll digest [] later :=
  (reopened_restarted).answers_iff later

def waitingResponse : Operation :=
  .createResponse { responseID := "resp-1", tenantID := "red", agentID := "agent-1", status := "pending_approval"
                    approvalRequired := true, approvalStatus := "required", approvalThreshold := 1 }

def approval : Later := .approveResponse "red" "agent-1" "resp-1" true "alice" "operator" ""

/-- A response that waits for approval and was saved can be approved, but not after a restart. -/
theorem approval_lost_by_restart :
    let saved := (((openTableStore {}).run id [({},waitingResponse)]).save (none : Option Unit)).1
    (saved.answers id [({},approval)]).map (fun answer => match answer with
      | .command cmd => cmd.map (·.status)
      | _ => none) = [some "pending"] ∧
    saved.restarted.answers id [({},approval)] = [.command none] := by
  decide +kernel
end

/-! The binding of agents to certificates under every sequence of the two calls that write agents. -/
open GoText

/-- A bind for a certificate, or the agent of an upload or report, which carries no certificate. -/
inductive AgentCall where
  | bind (agent : AgentIdentity)
  | report (agentID hostID version tenantID : String)

def Store.call (st : Store) : AgentCall → Store
  | .bind agent => match st.bindAgentIdentity agent with
    | .ok st => st
    | .error _ => st
  | .report agentID hostID version tenantID => st.addAgent { agentID, hostID, version, tenantID }

def Store.callAll (st : Store) (calls : List AgentCall) : Store := calls.foldl Store.call st

variable {st : Store} {agent other : AgentIdentity}

def Store.Distinct (st : Store) : Prop := (st.agents.map agentKey).Nodup

lemma distinct_register (distinct : st.Distinct) : (st.register agent).Distinct := by
  unfold Store.Distinct Store.register
  rw [sameAgent_eq]
  exact upsert_map_nodup (fun _ _ _ => rfl) rfl distinct

/-- What one call can do to the agents. -/
lemma call_cases (st : Store) (call : AgentCall) : st.call call = st ∨ ∃ other, st.call call = st.register other ∧
    ∀ record, st.agents.find? (sameAgent other) = some record → record.certIdentity ≠ "" → record.authType ≠ "" →
      (other.keeping record).certIdentity = record.certIdentity ∧ (other.keeping record).authType = record.authType := by
  cases call with
  | report agentID hostID version tenantID =>
    simp only [Store.call,Store.addAgent]
    split
    · exact .inr ⟨_,rfl,fun record _ _ _ => ⟨rfl,rfl⟩⟩
    · exact .inl rfl
  | bind agent =>
    by_cases bindable : agent.normalized.bindable
    · unfold Store.call
      dsimp only
      rw [bindAgentIdentity_bindable bindable]
      cases conflict : (st.agents.find? (sameAgent agent.normalized)).bind (bindConflict agent.normalized) with
      | some reason => exact .inl rfl
      | none =>
        refine .inr ⟨_,rfl,fun record found cert auth => ?_⟩
        rw [found,Option.bind_some] at conflict
        simp only [bindConflict] at conflict
        simp only [AgentIdentity.keeping,orElse]
        grind
    · obtain ⟨reason,refused⟩ := bindAgentIdentity_unbindable bindable
      unfold Store.call
      simp [refused]

/-- The table has one record of each agent, and that of the agent has its certificate and type. -/
structure Bound (agent : AgentIdentity) (st : Store) : Prop where
  distinct : st.Distinct
  record : ∃ record, st.agents.find? (sameAgent agent) = some record ∧
    record.certIdentity = agent.certIdentity ∧ record.authType = agent.authType

section
variable (bound : Bound agent st) (cert : agent.certIdentity ≠ "") (auth : agent.authType ≠ "")
include bound cert auth

lemma Bound.call (call : AgentCall) : Bound agent (st.call call) := by
  rcases call_cases st call with same | ⟨other,same,keeps⟩
  · rwa [same]
  rw [same]
  refine ⟨distinct_register bound.distinct,?_⟩
  obtain ⟨record,found,sameCert,sameAuth⟩ := bound.record
  by_cases key : agentKey agent = agentKey other
  · rw [sameAgent_eq,key,← sameAgent_eq] at found
    have kept := keeps record found (sameCert ▸ cert) (sameAuth ▸ auth)
    exact ⟨_,by rw [find?_register key,found]; rfl,kept.1.trans sameCert,kept.2.trans sameAuth⟩
  · exact ⟨record,by rw [find?_register_other key,found],sameCert,sameAuth⟩

lemma Bound.refuses (same : agentKey other.normalized = agentKey agent)
    (differs : other.normalized.certIdentity ≠ agent.certIdentity ∨ other.normalized.authType ≠ agent.authType) :
    ∃ reason, st.bindAgentIdentity other = .error reason := by
  by_cases bindable : other.normalized.bindable
  · obtain ⟨record,found,sameCert,sameAuth⟩ := bound.record
    rw [sameAgent_eq,← same,← sameAgent_eq] at found
    have conflict : (bindConflict other.normalized record).isSome := by
      unfold bindConflict
      grind
    obtain ⟨reason,conflict⟩ := Option.isSome_iff_exists.mp conflict
    rw [bindAgentIdentity_bindable bindable,found,Option.bind_some,conflict]
    exact ⟨reason,rfl⟩
  · obtain ⟨reason,refused⟩ := bindAgentIdentity_unbindable bindable
    exact ⟨reason,refused st⟩

end

lemma calls_keep {holds : Store → Prop} (step : ∀ st call, holds st → holds (st.call call)) (first : holds st)
    (calls : List AgentCall) : holds (st.callAll calls) := by
  induction calls generalizing st with
  | nil => exact first
  | cons call rest ih => exact ih (step st call first)

lemma distinct_call (st : Store) (call : AgentCall) (distinct : st.Distinct) : (st.call call).Distinct := by
  rcases call_cases st call with same | ⟨other,same,-⟩
  · rwa [same]
  · exact same ▸ distinct_register distinct

/-- Once an agent is bound, its record keeps the certificate and the authentication type, every bind
with another of either is refused, and each tenant and agent has one record. -/
theorem binding_permanent (before after : List AgentCall) (agent : AgentIdentity) (st : Store)
    (bound : (({} : Store).callAll before).bindAgentIdentity agent = .ok st) :
    Bound agent.normalized (st.callAll after) ∧ ∀ other, agentKey other.normalized = agentKey agent.normalized →
      (other.normalized.certIdentity ≠ agent.normalized.certIdentity ∨ other.normalized.authType ≠ agent.normalized.authType) →
      ∃ reason, (st.callAll after).bindAgentIdentity other = .error reason := by
  by_cases bindable : agent.normalized.bindable
  · have given := bindable
    simp only [AgentIdentity.bindable,Bool.and_eq_true,decide_eq_true_eq] at given
    rw [bindAgentIdentity_bindable bindable] at bound
    split at bound
    · cases bound
    obtain rfl := Except.ok.inj bound
    have distinct : (({} : Store).callAll before).Distinct := calls_keep distinct_call (show Store.Distinct {} from .nil) before
    have first : Bound agent.normalized _ := ⟨distinct_register distinct,find?_register_same rfl given.2 given.1.2⟩
    have later := calls_keep (fun _ call kept => kept.call given.2 given.1.2 call) first after
    exact ⟨later,fun other => later.refuses given.2 given.1.2⟩
  · obtain ⟨reason,refused⟩ := bindAgentIdentity_unbindable bindable
    rw [refused] at bound
    cases bound

def redAgentA : AgentIdentity := { agentID := "a", authType := "mtls", certIdentity := "red" }

theorem binding_permanent_red : Bound redAgentA.normalized ((({} : Store).call (.bind redAgentA)).callAll [.report "a" "h" "" ""]) :=
  (binding_permanent [] [.report "a" "h" "" ""] redAgentA _ rfl).1

end SysArmor.Manager
