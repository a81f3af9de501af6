import SysArmor.StoreAgents

/-! Response commands: their defaults, the policy that allows them, and how their approvals are
counted. -/
namespace SysArmor.Manager
open Proto

section
open GoText List

def defaultMode : String := "observe"

def normalizeCommand (now : Int) (cmd : Command) : Command :=
  { cmd with
    tenantID := orElse cmd.tenantID "default"
    mode := orElse cmd.mode defaultMode
    action := orElse cmd.action "collect"
    status := orElse cmd.status "pending"
    createdAt := cmd.createdAt.or (some now)
    updatedAt := some now
    responseID := orElse cmd.responseID ("resp-" ++ toString now) }

def defaultResponsePolicy : ResponsePolicy where
  allowedActions := ["collect","noop"]
  allowedModes := [defaultMode]

structure Decision where
  allowed : Bool
  reason : String := ""
  deriving DecidableEq

def containsTrimmed (values : List String) (want : String) : Bool :=
  values.any fun value => trimSpace value = trimSpace want

def isDestructiveAction (action : String) : Bool := trimSpace action ∈ ["kill","block","quarantine"]

def validateCommandWithPolicy (cmd : Command) (policy : ResponsePolicy) : Decision :=
  let mode := orElse (trimSpace cmd.mode) defaultMode
  let action := orElse (trimSpace cmd.action) "collect"
  if !containsTrimmed (if policy.allowedModes = [] then [defaultMode] else policy.allowedModes) mode then
    ⟨false,"response mode is not allowed by policy"⟩
  else if isDestructiveAction action && !policy.allowDestructive then
    ⟨false,"destructive response action requires explicit policy approval"⟩
  else if !containsTrimmed (if policy.allowedActions = [] then ["collect","noop"] else policy.allowedActions) action then
    ⟨false,"response action is not allowed by policy"⟩
  else ⟨true,""⟩

def applyPolicyRequirements (cmd : Command) (policy : ResponsePolicy) : Command :=
  if policy.approvalRequired then
    { cmd with
      approvalRequired := true
      approvalThreshold := if policy.approvalThreshold > 0 then policy.approvalThreshold else cmd.approvalThreshold
      approvalRoles := if policy.approvalRoles = [] then cmd.approvalRoles else policy.approvalRoles }
  else cmd

/-- `ApprovalThreshold`: an unset threshold asks for one approval. -/
def thresholdOf (threshold : UInt32) : UInt32 := if threshold = 0 then 1 else threshold

/-- `ApprovalRoleAllowed`: without roles every role may approve, and an administrator always may. -/
def roleAllowed (roles : List String) (role : String) : Bool :=
  roles = [] || trimSpace role = "admin" || containsTrimmed roles role

def approvalKey (count : UInt32) (approval : Approval) : String :=
  orElse (orElse (trimSpace approval.actor) (trimSpace approval.role)) ("approval-" ++ toString (count + 1))

def Approval.counts (roles : List String) (approval : Approval) : Bool := approval.approved && roleAllowed roles approval.role

def countApproval (roles : List String) (state : List String × UInt32) (approval : Approval) : List String × UInt32 :=
  let key := approvalKey state.2 approval
  if !approval.counts roles || key ∈ state.1 then state else (key :: state.1,state.2 + 1)

/-- `ApprovalCount`: each key counts once. -/
def approvalCount (roles : List String) (approvals : List Approval) : UInt32 :=
  (approvals.foldl (countApproval roles) ([],0)).2

def scopeDecision (command runtime : RuntimeScope) (runtimeKnown : Bool) : Decision :=
  let trimmed := fun scope : RuntimeScope => (trimSpace scope.type,trimSpace scope.selector)
  if trimmed command = ("","") then ⟨true,""⟩
  else if !runtimeKnown || (trimmed runtime).1 = "" then
    ⟨false,"agent runtime scope is required for scoped response command"⟩
  else if trimmed command ≠ trimmed runtime then ⟨false,"response command scope does not match agent runtime scope"⟩
  else ⟨true,""⟩

def approvingActors (roles : List String) (approvals : List Approval) : List String :=
  ((approvals.filter (·.counts roles)).map fun approval => trimSpace approval.actor).dedup

structure CountedBy (actors : List String) (state : List String × UInt32) : Prop where
  distinct : state.1.Nodup
  listed : ∀ key ∈ state.1, key ∈ actors
  bounded : state.2.toNat ≤ state.1.length

lemma countedBy_countApproval (counted : CountedBy actors state)
    (known : approval.counts roles → trimSpace approval.actor ≠ "" ∧ trimSpace approval.actor ∈ actors) :
    CountedBy actors (countApproval roles state approval) := by
  unfold countApproval
  dsimp only
  split
  · exact counted
  rename_i fresh
  simp only [Bool.or_eq_true,Bool.not_eq_true',decide_eq_true_eq,not_or,Bool.not_eq_false] at fresh
  obtain ⟨named,actor⟩ := known fresh.1
  have key : approvalKey state.2 approval = trimSpace approval.actor := by simp [approvalKey,orElse,named]
  rw [key] at fresh ⊢
  refine ⟨nodup_cons.mpr ⟨fresh.2,counted.distinct⟩,?_,?_⟩
  · intro other mem
    rcases mem_cons.mp mem with rfl | mem
    · exact actor
    · exact counted.listed other mem
  · -- the counter may wrap around, but never counts more than was seen
    have step : (state.2 + 1).toNat ≤ state.2.toNat + 1 := by
      rw [UInt32.toNat_add]
      exact Nat.mod_le _ _
    exact step.trans (Nat.add_le_add_right counted.bounded 1)

lemma countedBy_foldl (approvals : List Approval) (counted : CountedBy actors state)
    (known : ∀ approval ∈ approvals, approval.counts roles → trimSpace approval.actor ≠ "" ∧ trimSpace approval.actor ∈ actors) :
    CountedBy actors (approvals.foldl (countApproval roles) state) := by
  induction approvals generalizing state with
  | nil => exact counted
  | cons approval approvals ih =>
    apply ih
    · exact countedBy_countApproval counted (known approval mem_cons_self)
    · exact fun other mem => known other (mem_cons_of_mem _ mem)

lemma mem_approvingActors : actor ∈ approvingActors roles approvals ↔
    ∃ approval ∈ approvals, approval.counts roles ∧ trimSpace approval.actor = actor := by
  simp [approvingActors,and_assoc]

lemma approvalCount_le (named : ∀ approval ∈ approvals, approval.counts roles → trimSpace approval.actor ≠ "") :
    (approvalCount roles approvals).toNat ≤ (approvingActors roles approvals).length := by
  have counted : CountedBy (approvingActors roles approvals) (approvals.foldl (countApproval roles) ([],0)) := by
    apply countedBy_foldl
    · exact ⟨nodup_nil,by simp,by simp⟩
    · intro approval mem counts
      exact ⟨named approval mem counts,mem_approvingActors.mpr ⟨approval,mem,counts,rfl⟩⟩
  calc (approvalCount roles approvals).toNat
      ≤ _ := counted.bounded
    _ ≤ (approvingActors roles approvals).length := (counted.distinct.subperm counted.listed).length_le

lemma approvingActors_length_mono (weaker : ∀ role, roleAllowed roles role → roleAllowed roles' role) :
    (approvingActors roles approvals).length ≤ (approvingActors roles' approvals).length := by
  apply List.Subperm.length_le
  apply List.Nodup.subperm (nodup_dedup _)
  intro actor mem
  obtain ⟨approval,listed,counts,rfl⟩ := mem_approvingActors.mp mem
  refine mem_approvingActors.mpr ⟨approval,listed,?_,rfl⟩
  simp only [Approval.counts,Bool.and_eq_true] at counts ⊢
  exact ⟨counts.1,weaker _ counts.2⟩

lemma approvingActors_append (idle : ∀ approval ∈ earlier, approval.counts roles = false) :
    approvingActors roles (earlier ++ approvals) = approvingActors roles approvals := by
  have none : earlier.filter (·.counts roles) = [] := by simpa using idle
  simp [approvingActors,none]
end

/-! Policies and their assignments: in memory an assignment replaces the one of its id or of its
target, in the database it replaces the row of its tenant and id only. -/
open Rows

def defaultPolicyID : String := "default-edr-policy"
def defaultPolicyVersion : UInt64 := 1

def defaultPolicy (tenantID : String) : Policy where
  policyID := defaultPolicyID
  version := defaultPolicyVersion
  tenantID := orElse tenantID "default"
  mode := "observe"
  response := defaultResponsePolicy
  published := true

def normalizePolicy (now : Int) (policy : Policy) : Policy :=
  { policy with
    tenantID := orElse policy.tenantID "default"
    version := if policy.version = 0 then 1 else policy.version
    mode := orElse policy.mode "observe"
    response := if policy.response.allowedActions = [] && policy.response.allowedModes = [] then defaultResponsePolicy
      else policy.response
    createdAt := policy.createdAt.or (some now)
    updatedAt := some now }

def Tables.upsertPolicy (tables : Tables) (policy : Policy) : Tables :=
  if policy.policyID = "" || policy.version = 0 then tables
  else { tables with policies := project policyKey [policy] tables.policies }

def Tables.upsertPolicyAssignment (tables : Tables) (assignment : Assignment) : Tables :=
  if assignment.assignmentID = "" || assignment.policyID = "" then tables
  else { tables with assignments := project assignmentRowKey [assignment] tables.assignments }

def Store.ensureDefaultPolicy (st : Store) (now : Int) (tenantID : String) : Store :=
  if st.policies.any (fun policy => policy.tenantID = tenantID && policy.policyID = defaultPolicyID &&
    policy.version = defaultPolicyVersion) then st
  else { st with policies := st.policies ++ [normalizePolicy now (defaultPolicy tenantID)] }

def samePolicy (policy existing : Policy) : Bool :=
  existing.tenantID = policy.tenantID && existing.policyID = policy.policyID && existing.version = policy.version

def Policy.replacing (policy : Policy) : Option Policy → Policy
  | some existing => { policy with createdAt := existing.createdAt.or policy.createdAt }
  | none => policy

def Store.upsertPolicy (st : Store) (now : Int) (written : Bool) (policy : Policy) : Store × Policy :=
  if policy.policyID = "" then (st,{})
  else
    let policy := normalizePolicy now policy
    let policy := policy.replacing (st.policies.find? (samePolicy policy))
    let st := { st with policies := upsert (samePolicy policy) (fun _ => policy) policy st.policies }
    (st.writeThrough written (·.upsertPolicy policy),policy)

def namesPolicy (tenantID policyID : String) (version : UInt64) (policy : Policy) : Bool :=
  policy.tenantID = tenantID && policy.policyID = policyID && (version = 0 || policy.version = version)

def Store.publishPolicy (st : Store) (now : Int) (written : Bool) (tenantID policyID : String) (version : UInt64)
    (published : Bool) : Store × Option Policy :=
  let tenantID := orElse tenantID "default"
  if policyID = "" then (st,none)
  else match st.policies.find? (namesPolicy tenantID policyID version) with
    | none => (st,none)
    | some policy =>
      let policy := { policy with published, updatedAt := some now }
      let st := { st with policies := updateFirst (namesPolicy tenantID policyID version) (fun _ => policy) st.policies }
      (st.writeThrough written (·.upsertPolicy policy),some policy)

/-- `publishedPolicy`: the first published policy of the given version, or the latest one of all. -/
def publishedPolicy (policies : List Policy) (tenantID policyID : String) (version : UInt64) : Option Policy :=
  let passes := fun policy : Policy => (tenantID = "" || policy.tenantID = tenantID) && policy.policyID = policyID &&
    policy.published && (version = 0 || policy.version = version)
  if version ≠ 0 then policies.find? passes
  else policies.foldl (fun latest policy =>
    if passes policy && latest.all (fun known => policy.version > known.version) then some policy else latest) none

def sameAssignmentTarget (a b : Assignment) : Bool :=
  a.tenantID = b.tenantID && a.agentID = b.agentID && a.scope.type = b.scope.type && a.scope.selector = b.scope.selector

def assignmentRank (assignment : Assignment) (agentID : String) (scope : RuntimeScope) : Int :=
  if assignment.agentID ≠ "" then
    if agentID = "" || assignment.agentID ≠ agentID then -1 else 30
  else if assignment.scope.type ≠ "" then
    if assignment.scope.type ≠ scope.type then -1
    else if assignment.scope.selector ≠ "" && assignment.scope.selector ≠ scope.selector then -1
    else if assignment.scope.selector ≠ "" then 20
    else 10
  else 0

def bestAssignment (assignments : List Assignment) (tenantID agentID : String) (scope : RuntimeScope) : Option Assignment :=
  (assignments.foldl (fun (best,bestRank) assignment =>
    if tenantID ≠ "" && assignment.tenantID ≠ tenantID then (best,bestRank)
    else if assignmentRank assignment agentID scope > bestRank then
      (some assignment,assignmentRank assignment agentID scope)
    else (best,bestRank)) ((none : Option Assignment),(-1 : Int))).1

def Tables.policyAssignments (tables : Tables) (tenantID agentID : String) : List Assignment :=
  let order := tables.collation
  (tables.assignments.filter fun row => (tenantID = "" || orElse row.tenantID "default" = tenantID) &&
    (agentID = "" || row.agentID = agentID)).insertionSort fun a b =>
      order.lt (orElse a.tenantID "default") (orElse b.tenantID "default") ∨
        orElse a.tenantID "default" = orElse b.tenantID "default" ∧ order.le a.assignmentID b.assignmentID

def assignedPolicy (policies : List Policy) (assignments : List Assignment) (tenantID agentID : String)
    (scope : RuntimeScope) : Option Policy :=
  match bestAssignment assignments tenantID agentID scope with
  | some best => publishedPolicy policies best.tenantID best.policyID best.policyVersion
  | none =>
    let tenantID := orElse tenantID "default"
    some ((publishedPolicy policies tenantID defaultPolicyID 0).getD (defaultPolicy tenantID))

def Tables.effectivePolicy (tables : Tables) (tenantID agentID : String) (scope : RuntimeScope) : Option Policy :=
  assignedPolicy tables.policies (tables.policyAssignments tenantID "") tenantID agentID scope

/-- `EffectivePolicy`: the answer of an attached database that can be read and has one, else that of
the tables in memory. -/
def Store.effectivePolicy (st : Store) (readable : Bool) (tenantID agentID : String) (scope : RuntimeScope) : Option Policy :=
  let stored := if readable then st.backend.bind (·.effectivePolicy tenantID agentID scope) else none
  stored.or (assignedPolicy st.policies st.assignments tenantID agentID scope)

section
variable (digest : String → String)

def assignmentKey (assignment : Assignment) : String :=
  stableKey digest [assignment.tenantID,assignment.agentID,assignment.scope.type,assignment.scope.selector,assignment.policyID]

def resolveAssignment (now : Int) (assignment : Assignment) (policy : Policy) : Assignment :=
  let assignment := { assignment with tenantID := orElse assignment.tenantID "default", policyVersion := policy.version }
  { assignment with
    assignmentID := orElse assignment.assignmentID (assignmentKey digest assignment)
    createdAt := assignment.createdAt.or (some now)
    updatedAt := some now }

def replacesAssignment (assignment existing : Assignment) : Bool :=
  existing.assignmentID = assignment.assignmentID || sameAssignmentTarget existing assignment

def Assignment.replacing (assignment : Assignment) : Option Assignment → Assignment
  | some existing => { assignment with createdAt := existing.createdAt }
  | none => assignment

def Store.assignPolicy (st : Store) (now : Int) (written : Bool) (assignment : Assignment) : Store × Option Assignment :=
  if assignment.policyID = "" then (st,none)
  else match publishedPolicy st.policies (orElse assignment.tenantID "default") assignment.policyID assignment.policyVersion with
    | none => (st,none)
    | some policy =>
      let assignment := resolveAssignment digest now assignment policy
      let assignment := assignment.replacing (st.assignments.find? (replacesAssignment assignment))
      let st := { st with assignments :=
                            upsert (replacesAssignment assignment) (fun _ => assignment) assignment st.assignments }
      (st.writeThrough written (·.upsertPolicyAssignment assignment),some assignment)

end

/-! The store's operations on response commands, which find a command by its id. -/

def Time.before (a b : Time) : Bool :=
  match a,b with
  | _,none => false
  | none,some _ => true
  | some a,some b => a < b

def Tables.upsertResponseAudit (tables : Tables) (cmd : Command) (ack : Option Ack) : Tables :=
  if cmd.responseID = "" then tables
  else { tables with responses := project responseKey [⟨cmd,ack⟩] tables.responses }

def Command.replacing (cmd : Command) : Option Command → Command
  | some existing => { cmd with createdAt := existing.createdAt }
  | none => cmd

def Store.createResponse (st : Store) (now : Int) (written : Bool) (cmd : Command) : Store × Command :=
  let cmd := normalizeCommand now cmd
  let hit := fun existing : Command => existing.responseID = cmd.responseID
  let cmd := cmd.replacing (st.responses.find? hit)
  let st := { st with responses := upsert hit (fun _ => cmd) cmd st.responses }
  (st.writeThrough written (·.upsertResponseAudit cmd none),cmd)

/-- `PendingResponses`: what is delivered to an agent. -/
def Store.pendingResponses (st : Store) (tenantID agentID : String) : List Command :=
  (st.responses.filter fun cmd => passesFilters tenantID agentID cmd.tenantID cmd.agentID && cmd.status = "pending" &&
    !st.responseAcks.any (·.responseID = cmd.responseID)).insertionSort fun a b => !Time.before b.createdAt a.createdAt

def Command.awaitsApproval (cmd : Command) : Bool :=
  cmd.approvalRequired && cmd.status = "pending_approval" && (cmd.approvalStatus = "required" || cmd.approvalStatus = "partial")

def Command.withReason (cmd : Command) (separator reason : String) : Command :=
  if reason = "" then cmd
  else { cmd with reason := if cmd.reason = "" then reason else cmd.reason ++ separator ++ reason }

def Command.decide (cmd : Command) (now : Int) (approval : Approval) : Command :=
  let cmd := { cmd with approvals := cmd.approvals ++ [approval] }
  let cmd :=
    if approval.approved && approvalCount cmd.approvalRoles cmd.approvals ≥ thresholdOf cmd.approvalThreshold then
      { cmd with status := "pending", approvalStatus := "approved", approvedBy := approval.actor, approvedAt := some now }
    else if approval.approved then { cmd with approvalStatus := "partial" }
    else { cmd with status := "denied", approvalStatus := "rejected", approvedBy := approval.actor, approvedAt := some now }
  ({ cmd with updatedAt := some now }).withReason "; approval: " approval.reason

def namesResponse (tenantID agentID responseID : String) (cmd : Command) : Bool :=
  cmd.responseID = responseID && passesFilters tenantID agentID cmd.tenantID cmd.agentID

def Store.approveResponse (st : Store) (now : Int) (written : Bool) (tenantID agentID responseID : String)
    (approved : Bool) (actor role reason : String) : Store × Option Command :=
  if responseID = "" then (st,none)
  else
    let hit := namesResponse (orElse tenantID "default") agentID responseID
    match st.responses.find? hit with
    | none => (st,none)
    | some cmd =>
      if !cmd.awaitsApproval || !roleAllowed cmd.approvalRoles role then (st,none)
      else
        let cmd := cmd.decide now { actor, role, approved, reason, observedAt := some now }
        let st := { st with responses := updateFirst hit (fun _ => cmd) st.responses }
        (st.writeThrough written (·.upsertResponseAudit cmd none),some cmd)

def Store.ackResponse (st : Store) (now : Int) (written : Bool) (ack : Ack) : Store × Option Command :=
  if ack.responseID = "" then (st,none)
  else
    let ack := { ack with observedAt := ack.observedAt.or (some now) }
    let hit := fun cmd : Command => cmd.responseID = ack.responseID
    match st.responses.find? hit with
    | none => (st,none)
    | some cmd =>
      let cmd := { cmd with status := "acked", updatedAt := ack.observedAt }
      let st := { st with responses := updateFirst hit (fun _ => cmd) st.responses
                          responseAcks := upsert (·.responseID = ack.responseID) (fun _ => ack) ack st.responseAcks }
      (st.writeThrough written (·.upsertResponseAudit cmd (some ack)),some cmd)

end SysArmor.Manager
