import SysArmor.ConnectionDiscipline
import SysArmor.PolicyWrites

/-! Which policy a hello is answered with. The lookup settles on the best assignment before it asks for
its policy; when that one was unpublished meanwhile there is none, and the frame is built from nothing. -/
namespace SysArmor.Manager
open Proto Rows FirstBest List

structure PolicyView where
  policies : List Policy
  assignments : List Assignment

def Store.policyViews (st : Store) (readable : Bool) (tenantID : String) : List PolicyView :=
  (if readable then st.backend.toList.map fun tables => ⟨tables.policies,tables.policyAssignments tenantID ""⟩ else []) ++
    [⟨st.policies,st.assignments⟩]

def Assignment.obtains (assignment : Assignment) (policy : Policy) : Bool :=
  (assignment.tenantID = "" || policy.tenantID = assignment.tenantID) && policy.policyID = assignment.policyID &&
    policy.published && (assignment.policyVersion = 0 || policy.version = assignment.policyVersion)

namespace PolicyView
variable (view : PolicyView) (tenantID agentID : String) (scope : RuntimeScope)

def resolves (assignment : Assignment) : Bool := view.policies.any assignment.obtains

def Best : Assignment → Prop :=
  IsFirstBest (ofTenant tenantID) (assignmentRank · agentID scope) view.assignments

def BestResolved : Assignment → Prop :=
  IsFirstBest (fun assignment => ofTenant tenantID assignment && view.resolves assignment) (assignmentRank · agentID scope)
    view.assignments

/-- What an agent should get: the published policy of the best assignment that resolves to one, or the
tenant's default policy if none does. -/
def Delivers (policy : Policy) : Prop :=
  (∃ best, view.BestResolved tenantID agentID scope best ∧ policy ∈ view.policies ∧ best.obtains policy) ∨
  ((∀ best, ¬ view.BestResolved tenantID agentID scope best) ∧ policy.policyID = defaultPolicyID ∧ policy.published ∧
    (policy ∈ view.policies ∧ policy.tenantID = orElse tenantID "default" ∨ policy = defaultPolicy (orElse tenantID "default")))

end PolicyView

lemma publishedPolicy_isSome (policies : List Policy) (best : Assignment) :
    (publishedPolicy policies best.tenantID best.policyID best.policyVersion).isSome = policies.any best.obtains := by
  simp only [publishedPolicy]
  split
  · rw [Bool.eq_iff_iff,find?_isSome,any_eq_true]
    rfl
  · rw [foldl_latest]
    exact firstBest_isSome fun policy => Int.natCast_nonneg _

section
variable {view : PolicyView} {tenantID agentID : String} {scope : RuntimeScope} {policy : Policy}

lemma PolicyView.Best.resolved (best : view.Best tenantID agentID scope assignment) (resolves : view.resolves assignment) :
    view.BestResolved tenantID agentID scope assignment := by
  obtain ⟨passing,counts,old,after,shape,lower,upper⟩ := best
  refine ⟨by simp [passing,resolves],counts,old,after,shape,?_,?_⟩
  · intro item mem passes
    exact lower item mem (Bool.and_eq_true_iff.mp passes).1
  · intro item mem passes
    exact upper item mem (Bool.and_eq_true_iff.mp passes).1

lemma PolicyView.answers_iff : (assignedPolicy view.policies view.assignments tenantID agentID scope).isSome ↔
    ∀ best, view.Best tenantID agentID scope best → view.resolves best := by
  simp only [assignedPolicy,bestAssignment_eq,PolicyView.Best,← firstBest_eq_some]
  cases firstBest (ofTenant tenantID) (assignmentRank · agentID scope) view.assignments with
  | none => simp
  | some best => simp [publishedPolicy_isSome,PolicyView.resolves]

lemma PolicyView.delivers (found : assignedPolicy view.policies view.assignments tenantID agentID scope = some policy) :
    view.Delivers tenantID agentID scope policy := by
  have resolves := PolicyView.answers_iff.mp (Option.isSome_of_mem found)
  simp only [assignedPolicy,bestAssignment_eq] at found
  have choice : (∃ best, view.Best tenantID agentID scope best) ∨
    ∀ item ∈ view.assignments, ofTenant tenantID item → assignmentRank item agentID scope < 0 := exists_firstBest view.assignments
  rcases choice with ⟨best,first⟩ | none
  · simp only [first.found] at found
    obtain ⟨mem,tenant,id,published,version⟩ := publishedPolicy_spec found
    exact .inl ⟨best,first.resolved (resolves best first),mem,by simp [Assignment.obtains,tenant,id,published,version]⟩
  simp only [firstBest_none none,Option.some.injEq] at found
  refine .inr ⟨?_,?_⟩
  · rintro best ⟨passing,counts,old,after,shape,-⟩
    exact absurd (none best (by simp [shape]) (Bool.and_eq_true_iff.mp passing).1) (by omega)
  cases stored : publishedPolicy view.policies (orElse tenantID "default") defaultPolicyID 0 with
  | none =>
    rw [stored] at found
    subst found
    exact ⟨rfl,rfl,.inr rfl⟩
  | some policy' =>
    rw [stored] at found
    subst found
    obtain ⟨mem,tenant,id,published,-⟩ := publishedPolicy_spec stored
    exact ⟨id,published,.inl ⟨mem,tenant.resolve_left (by simp [orElse]; split <;> simp_all)⟩⟩

lemma Store.effectivePolicy_eq (st : Store) (readable : Bool) (tenantID agentID : String) (scope : RuntimeScope) :
    st.effectivePolicy readable tenantID agentID scope = (st.policyViews readable tenantID).findSome? fun view =>
      assignedPolicy view.policies view.assignments tenantID agentID scope := by
  simp only [Store.effectivePolicy,Store.policyViews,findSome?_append,findSome?_singleton]
  cases readable <;> cases st.backend <;> simp [Tables.effectivePolicy]

lemma Store.effectivePolicy_delivers_iff (st : Store) (readable : Bool) (tenantID agentID : String) (scope : RuntimeScope) :
    (∃ policy, st.effectivePolicy readable tenantID agentID scope = some policy ∧
      ∃ view ∈ st.policyViews readable tenantID, view.Delivers tenantID agentID scope policy) ↔
    ∃ view ∈ st.policyViews readable tenantID, ∀ best, view.Best tenantID agentID scope best → view.resolves best := by
  rw [Store.effectivePolicy_eq]
  constructor
  · rintro ⟨policy,found,-⟩
    obtain ⟨view,mem,answer⟩ := exists_of_findSome?_eq_some found
    exact ⟨view,mem,PolicyView.answers_iff.mp (Option.isSome_of_mem answer)⟩
  rintro ⟨view,mem,resolves⟩
  have answers : ((st.policyViews readable tenantID).findSome? fun view =>
      assignedPolicy view.policies view.assignments tenantID agentID scope).isSome :=
    findSome?_isSome_iff.mpr ⟨view,mem,PolicyView.answers_iff.mpr resolves⟩
  obtain ⟨policy,found⟩ := Option.isSome_iff_exists.mp answers
  obtain ⟨view,mem,answer⟩ := exists_of_findSome?_eq_some found
  exact ⟨policy,found,view,mem,PolicyView.delivers answer⟩

end
end SysArmor.Manager

namespace SysArmor.Gateway
open GoText Proto Manager

lemma hello_policy {r : Runtime} {peer : Option PeerIdentity} {st : Store} {calls : FrameCalls} {frame : ControlFrame}
    (hello : frame.type = "hello") (answered : (r.handleFrame peer st calls frame).2 = .ok replies) :
    replies.head? = some (.policyUpdate (st.effectivePolicy calls.readable (orElse frame.context.tenantID "default")
      frame.context.agentID frame.context.scope)) := by
  simp only [Runtime.handleFrame] at answered
  split at answered
  · cases answered
  split at answered
  · cases answered
  · rename_i st' bound
    have agents : ∃ agents, st' = { st with agents } := by
      split at bound
      · cases bound
        exact ⟨st.agents,rfl⟩
      · exact bindPeer_shape bound
    obtain ⟨agents,rfl⟩ := agents
    simp only [Runtime.dispatch,hello,if_true,Runtime.hello] at answered
    split at answered
    · cases answered
    split at answered
    · cases answered
    · simp only [saveThen] at answered
      split at answered
      · cases answered
      · cases answered
        rfl

/-- In the answer to a hello, over every store: the policy frame carries the published policy of the best
assignment that still resolves to one, or the default policy, exactly if in one of the places that the lookup
asks the best assignment of all, if there is one, resolves. -/
theorem hello_delivers_published_iff (r : Runtime) (peer : Option PeerIdentity) (st : Store) (calls : FrameCalls)
    (frame : ControlFrame) (hello : frame.type = "hello") (replies : List ControlReply)
    (answered : (r.handleFrame peer st calls frame).2 = .ok replies) :
    let tenantID := orElse frame.context.tenantID "default"
    let views := st.policyViews calls.readable tenantID
    (∃ policy, replies.head? = some (.policyUpdate (some policy)) ∧
      ∃ view ∈ views, view.Delivers tenantID frame.context.agentID frame.context.scope policy) ↔
    ∃ view ∈ views, ∀ best, view.Best tenantID frame.context.agentID frame.context.scope best → view.resolves best := by
  rw [hello_policy hello answered]
  simpa using Store.effectivePolicy_delivers_iff st calls.readable (orElse frame.context.tenantID "default")
    frame.context.agentID frame.context.scope

def bothAssigned : List (Calls × Operation) :=
  [({},.upsertPolicy { policyID := "p-1", tenantID := "red", published := true }),
   ({},.upsertPolicy { policyID := "p-2", tenantID := "red", published := true }),
   ({},.assignPolicy { tenantID := "red", agentID := "agent-1", policyID := "p-1" }),
   ({},.assignPolicy { tenantID := "red", policyID := "p-2" })]

def unpublishFirst : Calls × Operation := ({},.publishPolicy "red" "p-1" 0 false)

def helloAt (ops : List (Calls × Operation)) : Except Failure (List ControlReply) :=
  (gateway.handleFrame redAgent (Store.run id {} ops) {} (frameOf 1 { type := "hello" }).2).2

theorem hello_delivers_assigned :
    ∃ replies policy, helloAt bothAssigned = .ok replies ∧ replies.head? = some (.policyUpdate (some policy)) ∧
      ∃ view ∈ (Store.run id {} bothAssigned).policyViews true "red", view.Delivers "red" "agent-1" {} policy := by
  have ok : (helloAt bothAssigned).toOption.isSome := by decide +kernel
  obtain ⟨replies,answered⟩ : ∃ replies, helloAt bothAssigned = .ok replies := by
    cases answered : helloAt bothAssigned with
    | error failure => simp [answered,Except.toOption] at ok
    | ok replies => exact ⟨replies,rfl⟩
  obtain ⟨policy,first,delivered⟩ := (hello_delivers_published_iff gateway redAgent (Store.run id {} bothAssigned) {}
    (frameOf 1 { type := "hello" }).2 rfl replies answered).mpr
    ⟨⟨(Store.run id {} bothAssigned).policies,(Store.run id {} bothAssigned).assignments⟩,by simp [Store.policyViews],
      PolicyView.answers_iff.mp (by decide +kernel)⟩
  exact ⟨replies,policy,answered,first,delivered⟩

/-- Once the agent's own policy is unpublished, a hello gets an empty policy, although the assignment of the
tenant still resolves. -/
theorem unpublished_policy_empties_hello : ((helloAt (bothAssigned ++ [unpublishFirst])).toOption.bind List.head?).map (fun
      | .policyUpdate policy => policy.map (·.policyID)
      | _ => some "other") = some none := by
  decide +kernel

end SysArmor.Gateway
