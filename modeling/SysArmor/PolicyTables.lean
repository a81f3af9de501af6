import SysArmor.PolicyWrites
import SysArmor.AgentBinding

/-! Whether a new assignment decides the policy of an agent. In memory it always does, for the agents
that its target ranks best for. The answer of an attached database comes first, though, and there
an older row of the same target with another id may stand before it. -/
namespace SysArmor.Manager
open Proto Rows FirstBest List

section

section
variable (digest : String → String)

def Store.resolved (st : Store) (now : Int) (assignment : Assignment) : Option Assignment :=
  if assignment.policyID = "" then none
  else (publishedPolicy st.policies (orElse assignment.tenantID "default") assignment.policyID assignment.policyVersion).map
    (resolveAssignment digest now assignment)

end

def Assignment.names (assignment : Assignment) (policy : Policy) : Bool :=
  policy.policyID = assignment.policyID && policy.version = assignment.policyVersion

def fallbackPolicy (policies : List Policy) (tenantID : String) : Policy :=
  (publishedPolicy policies (orElse tenantID "default") defaultPolicyID 0).getD (defaultPolicy (orElse tenantID "default"))

/-- The condition on the rows of the database before the assignment. If it gets written, the best of the
rows that stay must rank lower than it, or come after it; else, and if nothing gets written, what the
best row leads to must be no policy or the same one. -/
def Tables.shows (tables : Tables) (written : Bool) (resolved : Assignment) (tenantID agentID : String)
    (scope : RuntimeScope) : Bool :=
  let recorded := written && resolved.assignmentID ≠ ""
  let others := if recorded then tables.withoutAssignment (assignmentRowKey resolved) else tables
  match bestAssignment (others.policyAssignments tenantID "") tenantID agentID scope with
  | none => recorded || resolved.names (fallbackPolicy tables.policies tenantID)
  | some rival =>
    recorded && (assignmentRank rival agentID scope < assignmentRank resolved agentID scope ||
        RowOrder tables.collation resolved rival) ||
      (publishedPolicy tables.policies rival.tenantID rival.policyID rival.policyVersion).all resolved.names

def Store.shows (st : Store) (calls : Calls) (readable : Bool) (resolved : Assignment) (tenantID agentID : String)
    (scope : RuntimeScope) : Bool :=
  !readable || st.backend.all fun tables => tables.shows calls.written resolved tenantID agentID scope

/-- The target of an assignment matches an agent, and ranks higher for it than every other target that
an assignment in memory or in the database has. -/
structure BestTarget (st : Store) (assigned : Assignment) (tenantID agentID : String) (scope : RuntimeScope) : Prop where
  passing : ofTenant tenantID assigned
  counts : 0 ≤ assignmentRank assigned agentID scope
  memory : ∀ other ∈ st.assignments, ofTenant tenantID other → sameAssignmentTarget other assigned ∨
    assignmentRank other agentID scope < assignmentRank assigned agentID scope
  stored : ∀ tables ∈ st.backend, ∀ other ∈ tables.assignments, ofTenant tenantID other →
    sameAssignmentTarget other assigned ∨ assignmentRank other agentID scope < assignmentRank assigned agentID scope

variable {st : Store} {digest : String → String} {assigned : Assignment} {tenantID agentID : String} {scope : RuntimeScope}

lemma rank_le_of_best {other : Assignment} (best : sameAssignmentTarget other assigned ∨
    assignmentRank other agentID scope < assignmentRank assigned agentID scope) :
    assignmentRank other agentID scope ≤ assignmentRank assigned agentID scope := by
  rcases best with same | lower
  · rw [assignmentRank_of_sameTarget same]
  · omega

def Store.withAssignment (st : Store) (assigned : Assignment) : Store :=
  { st with assignments := upsert (replacesAssignment assigned) (fun _ => assigned) assigned st.assignments }

lemma bestAssignment_memory (passing : ofTenant tenantID assigned) (counts : 0 ≤ assignmentRank assigned agentID scope)
    (memory : ∀ other ∈ (st.withAssignment assigned).assignments, ofTenant tenantID other →
      sameAssignmentTarget other assigned ∨ assignmentRank other agentID scope < assignmentRank assigned agentID scope) :
    bestAssignment (st.withAssignment assigned).assignments tenantID agentID scope = some assigned := by
  have others : ∀ other ∈ (st.withAssignment assigned).assignments, replacesAssignment assigned other = false →
      ofTenant tenantID other → assignmentRank other agentID scope < assignmentRank assigned agentID scope := by
    intro other mem misses passing
    apply (memory other mem passing).resolve_left
    intro same
    simp [replacesAssignment,same] at misses
  rw [bestAssignment_eq,firstBest_eq_some]
  refine ⟨passing,counts,?_⟩
  unfold Store.withAssignment at memory others ⊢
  dsimp only at memory others ⊢
  cases found : st.assignments.find? (replacesAssignment assigned) with
  | some old =>
    obtain ⟨before,after,_,misses,_,updated⟩ := updateFirst_of_find? (fun _ => assigned) found
    rw [upsert_of_find? found,updated] at memory others ⊢
    refine ⟨before,after,rfl,?_,?_⟩
    · intro other mem passing
      exact others other (mem_append_left _ mem) (misses other mem) passing
    · intro other mem passing
      exact rank_le_of_best (memory other (mem_append_right _ (mem_cons_of_mem _ mem)) passing)
  | none =>
    rw [upsert_of_find?_none found] at others ⊢
    refine ⟨st.assignments,[],rfl,?_,by simp⟩
    intro other mem passing
    have misses : replacesAssignment assigned other = false := by simpa using find?_eq_none.mp found other mem
    exact others other (mem_append_left _ mem) misses passing

lemma assignedPolicy_eq (policies : List Policy) (assignments : List Assignment) :
    assignedPolicy policies assignments tenantID agentID scope = match bestAssignment assignments tenantID agentID scope with
      | some best => publishedPolicy policies best.tenantID best.policyID best.policyVersion
      | none => some (fallbackPolicy policies tenantID) := rfl

lemma published_named (policies : List Policy) (version : assigned.policyVersion ≠ 0) :
    (publishedPolicy policies assigned.tenantID assigned.policyID assigned.policyVersion).all assigned.names = true := by
  rw [Option.all_eq_true]
  intro policy found
  obtain ⟨_,_,id,_,versions⟩ := publishedPolicy_spec found
  simp [Assignment.names,id,versions.resolve_left version]

lemma effectivePolicy_unwritten (tables : Tables) {written : Bool} (unwritten : (written && assigned.assignmentID ≠ "") = false) :
    (tables.effectivePolicy tenantID agentID scope).all assigned.names = tables.shows written assigned tenantID agentID scope := by
  unfold Tables.effectivePolicy Tables.shows
  rw [assignedPolicy_eq]
  dsimp only
  rw [unwritten,if_neg (by simp)]
  cases bestAssignment (tables.policyAssignments tenantID "") tenantID agentID scope <;> simp

lemma effectivePolicy_written {tables : Tables} (keyed : tables.keyed) (named : assigned.assignmentID ≠ "")
    (policy : assigned.policyID ≠ "") (version : assigned.policyVersion ≠ 0) (passing : ofTenant tenantID assigned)
    (counts : 0 ≤ assignmentRank assigned agentID scope)
    (stored : ∀ other ∈ (tables.upsertPolicyAssignment assigned).assignments, ofTenant tenantID other →
      sameAssignmentTarget other assigned ∨ assignmentRank other agentID scope < assignmentRank assigned agentID scope) :
    ((tables.upsertPolicyAssignment assigned).effectivePolicy tenantID agentID scope).all assigned.names =
      tables.shows true assigned tenantID agentID scope := by
  have policies : (tables.upsertPolicyAssignment assigned).policies = tables.policies := by
    unfold Tables.upsertPolicyAssignment
    split <;> rfl
  have lower : ∀ row ∈ (tables.withoutAssignment (assignmentRowKey assigned)).assignments, ofTenant tenantID row →
      assignmentRank row agentID scope ≤ assignmentRank assigned agentID scope := by
    intro row mem passing
    exact rank_le_of_best (stored row ((mem_upsertPolicyAssignment named policy).mpr (.inl mem)) passing)
  unfold Tables.effectivePolicy Tables.shows
  rw [assignedPolicy_eq,policies,bestAssignment_written named policy keyed passing counts lower]
  dsimp only
  rw [if_pos (by simp [named])]
  cases bestAssignment ((tables.withoutAssignment (assignmentRowKey assigned)).policyAssignments tenantID "") tenantID agentID scope with
  | none =>
    dsimp only
    rw [published_named _ version]
    simp [named]
  | some rival =>
    dsimp only
    by_cases wins : assignmentRank rival agentID scope < assignmentRank assigned agentID scope ∨ RowOrder tables.collation assigned rival
    · rw [if_pos wins]
      dsimp only
      rw [published_named _ version]
      simpa [named] using Or.inl wins
    · rw [if_neg wins]
      simp [not_or.mp wins]

/-! The assignment itself. -/

structure Assigned (digest : String → String) (st : Store) (calls : Calls) (assignment assigned : Assignment) : Prop where
  resolved : ∃ found, ∃ resolved ∈ st.resolved digest calls.now assignment, assigned = resolved.replacing found
  after : (st.assignPolicy digest calls.now calls.written assignment).1 =
    (st.withAssignment assigned).writeThrough calls.written (·.upsertPolicyAssignment assigned)
  named : assigned.policyID ≠ ""
  published : ∃ policy ∈ st.policies, policy.published ∧ policy.tenantID = assigned.tenantID ∧
    policy.policyID = assigned.policyID ∧ policy.version = assigned.policyVersion

variable {assignment : Assignment} {calls : Calls}

lemma assignPolicy_assigned (succeeds : (st.assignPolicy digest calls.now calls.written assignment).2 = some assigned) :
    Assigned digest st calls assignment assigned := by
  cases named : decide (assignment.policyID = "") with
  | true =>
    have missing : assignment.policyID = "" := of_decide_eq_true named
    simp [Store.assignPolicy,missing] at succeeds
  | false =>
    have given : assignment.policyID ≠ "" := of_decide_eq_false named
    cases found : publishedPolicy st.policies (orElse assignment.tenantID "default") assignment.policyID assignment.policyVersion with
    | none => simp [Store.assignPolicy,given,found] at succeeds
    | some policy =>
      obtain ⟨mem,tenant,id,published,_⟩ := publishedPolicy_spec found
      have tenant_named : orElse assignment.tenantID "default" ≠ "" := by
        unfold orElse
        split
        · decide
        · assumption
      have same : assigned = (resolveAssignment digest calls.now assignment policy).replacing
          (st.assignments.find? (replacesAssignment (resolveAssignment digest calls.now assignment policy))) := by
        unfold Store.assignPolicy at succeeds
        rw [if_neg given,found] at succeeds
        exact (Option.some.inj succeeds).symm
      refine ⟨⟨_,_,by simp [Store.resolved,given,found],same⟩,?_,?_,policy,mem,published,?_⟩
      · unfold Store.assignPolicy
        rw [if_neg given,found,same]
        rfl
      · rw [same]
        cases st.assignments.find? _ <;> exact given
      · rw [same]
        cases st.assignments.find? _ <;> exact ⟨tenant.resolve_left tenant_named,id,rfl⟩

lemma or_names_iff {stored memory : Option Policy} {found : Policy} (remembered : memory = some found)
    (named : assigned.names found) :
    (∃ policy, stored.or memory = some policy ∧ assigned.names policy) ↔ stored.all assigned.names = true := by
  subst remembered
  cases stored with
  | none => simpa using named
  | some policy => simp

lemma writeThrough_memory (st : Store) (written : Bool) (write : Tables → Tables) :
    (st.writeThrough written write).assignments = st.assignments ∧ (st.writeThrough written write).policies = st.policies := by
  unfold Store.writeThrough
  split <;> exact ⟨rfl,rfl⟩

lemma stored_names (state : PolicyState st) (named : assigned.policyID ≠ "") (version : assigned.policyVersion ≠ 0)
    (readable : Bool) (best : BestTarget ((st.withAssignment assigned).writeThrough calls.written (·.upsertPolicyAssignment assigned))
      assigned tenantID agentID scope) :
    (if readable then ((st.withAssignment assigned).writeThrough calls.written (·.upsertPolicyAssignment assigned)).backend.bind
        (·.effectivePolicy tenantID agentID scope) else none).all assigned.names =
      st.shows calls readable assigned tenantID agentID scope := by
  obtain ⟨passing,counts,_,stored⟩ := best
  unfold Store.shows
  cases readable with
  | false => rfl
  | true =>
    cases attached : st.backend with
    | none =>
      have none : ((st.withAssignment assigned).writeThrough calls.written (·.upsertPolicyAssignment assigned)).backend = none := by
        unfold Store.writeThrough Store.withAssignment
        split <;> simp [attached]
      rw [none]
      rfl
    | some tables =>
      have keyed := state.keyed tables attached
      rw [if_pos rfl,Bool.not_true,Bool.false_or,Option.all_some]
      cases written : calls.written with
      | false =>
        have same : ((st.withAssignment assigned).writeThrough false (·.upsertPolicyAssignment assigned)).backend = some tables := attached
        rw [same,Option.bind_some]
        exact effectivePolicy_unwritten tables (by simp)
      | true =>
        have same : ((st.withAssignment assigned).writeThrough true (·.upsertPolicyAssignment assigned)).backend =
            some (tables.upsertPolicyAssignment assigned) := by
          unfold Store.writeThrough Store.withAssignment
          simp [attached]
        rw [written] at stored
        rw [same,Option.bind_some]
        by_cases id : assigned.assignmentID = ""
        · have unwritten : tables.upsertPolicyAssignment assigned = tables := by
            unfold Tables.upsertPolicyAssignment
            rw [if_pos (by simp [id])]
          rw [unwritten]
          exact effectivePolicy_unwritten tables (by simp [id])
        · exact effectivePolicy_written keyed id named version passing counts (stored _ same)

lemma effectivePolicy_iff (state : PolicyState st) (readable : Bool)
    (assigns : Assigned digest st calls assignment assigned)
    (best : BestTarget (st.assignPolicy digest calls.now calls.written assignment).1 assigned tenantID agentID scope) :
    (∃ policy, (st.assignPolicy digest calls.now calls.written assignment).1.effectivePolicy readable tenantID agentID scope =
      some policy ∧ assigned.names policy) ↔ st.shows calls readable assigned tenantID agentID scope := by
  obtain ⟨_,after,named,policy,mem,published,tenant,id,version⟩ := assigns
  have versioned : assigned.policyVersion ≠ 0 := version ▸ state.versions policy mem
  rw [after] at best ⊢
  obtain ⟨assignments,policies⟩ := writeThrough_memory (st.withAssignment assigned) calls.written (·.upsertPolicyAssignment assigned)
  have first := bestAssignment_memory best.passing best.counts (by simpa only [assignments] using best.memory)
  obtain ⟨found,remembered⟩ := publishedPolicy_exists mem published (state.versions policy mem)
  rw [tenant,id,version] at remembered
  have names : assigned.names found := by
    have all := published_named st.policies versioned
    rw [remembered] at all
    exact all
  unfold Store.effectivePolicy
  dsimp only
  rw [← stored_names state named versioned readable best]
  apply or_names_iff ?_ names
  rw [assignments,policies,assignedPolicy_eq,first]
  exact remembered

def Opened (st : Store) : Prop := st = {} ∨ ∃ tables : Tables, tables.keyed ∧ st = openTableStore tables

lemma policyState_opened (opened : Opened st) : PolicyState st := by
  rcases opened with rfl | ⟨tables,keyed,rfl⟩
  · exact ⟨by simp,by simp⟩
  refine ⟨by simp [openTableStore],?_⟩
  rintro _ ⟨⟩
  exact keyed

/-- After any writes of policies, publications, assignments and saves, and an assignment that succeeds,
the agents for which its target ranks best get the assigned policy and version exactly if the
database does not answer, or its rows let the new one show. -/
theorem reassignment_shows_iff (digest : String → String) (start : Store) (opened : Opened start)
    (ops : List (Calls × Operation)) (writes : ∀ op ∈ ops, op.2.writesPolicies) (calls : Calls) (assignment assigned : Assignment)
    (succeeds : ((start.run digest ops).assignPolicy digest calls.now calls.written assignment).2 = some assigned)
    (readable : Bool) (tenantID agentID : String) (scope : RuntimeScope)
    (best : BestTarget ((start.run digest ops).assignPolicy digest calls.now calls.written assignment).1 assigned
      tenantID agentID scope) :
    (∃ policy, ((start.run digest ops).assignPolicy digest calls.now calls.written assignment).1.effectivePolicy readable
      tenantID agentID scope = some policy ∧ policy.policyID = assigned.policyID ∧ policy.version = assigned.policyVersion) ↔
    ∀ resolved ∈ (start.run digest ops).resolved digest calls.now assignment,
      (start.run digest ops).shows calls readable resolved tenantID agentID scope := by
  have state : PolicyState (start.run digest ops) := policyState_run (policyState_opened opened) ops writes
  have assigns := assignPolicy_assigned succeeds
  have iff := effectivePolicy_iff state readable assigns best
  obtain ⟨found,resolved,same,rfl⟩ := assigns.resolved
  rw [Option.mem_def.mp same]
  simp only [Assignment.names,Bool.and_eq_true,decide_eq_true_eq] at iff
  simp only [Option.mem_some_iff,forall_eq']
  cases found <;> exact iff

def assignmentOf (assignmentID policyID : String) : Assignment where
  assignmentID := assignmentID
  tenantID := "red"
  agentID := "agent-1"
  policyID := policyID

def firstAssigned : List (Calls × Operation) :=
  [({},.upsertPolicy { policyID := "p-1", tenantID := "red", published := true }),
   ({},.upsertPolicy { policyID := "p-2", tenantID := "red", published := true }),
   ({},.assignPolicy (assignmentOf "a-1" "p-1"))]

def secondAssignment (assignmentID : String) : Assignment :=
  { assignmentOf assignmentID "p-2" with policyVersion := 1, createdAt := some 0, updatedAt := some 0 }

/-- Reassigned under an id that comes before the old one, the second policy shows. -/
theorem earlier_id_shows :
    (∃ policy, (((openTableStore {}).run id firstAssigned).assignPolicy id 0 true (assignmentOf "a-0" "p-2")).1.effectivePolicy true
      "red" "agent-1" {} = some policy ∧ policy.policyID = "p-2" ∧ policy.version = 1) :=
  (reassignment_shows_iff id (openTableStore {}) (.inr ⟨{},nodup_nil,rfl⟩) firstAssigned (by decide +kernel) {}
    (assignmentOf "a-0" "p-2") (secondAssignment "a-0") (by decide +kernel) true "red" "agent-1" {}
    ⟨by decide +kernel,by decide +kernel,by decide +kernel,by decide +kernel⟩).mpr (by decide +kernel)

/-- Reassigned under an id that comes after the old one, the agent still gets the first policy. -/
theorem later_id_hidden :
    ((((openTableStore {}).run id firstAssigned).assignPolicy id 0 true (assignmentOf "a-2" "p-2")).2.map (·.policyID)) = some "p-2" ∧
    ((((openTableStore {}).run id firstAssigned).assignPolicy id 0 true (assignmentOf "a-2" "p-2")).1.effectivePolicy true
      "red" "agent-1" {}).map (·.policyID) = some "p-1" := by
  decide +kernel
end

/-! What assigning and publishing do to the tables in memory. An assignment takes the place of the
first row with its id or its target, whichever row has the other of the two; a policy given without a
version is published in the first row of its id, and read from the row of the highest version. -/

/-! Assignments. -/

def Apart (a b : Assignment) : Prop := a.assignmentID ≠ b.assignmentID ∧ sameAssignmentTarget a b = false

section
variable (digest : String → String)

def Store.assignAll (st : Store) (requests : List (Calls × Assignment)) : Store :=
  requests.foldl (fun st request => (st.assignPolicy digest request.1.now request.1.written request.2).1) st

/-- The rows with the id or the target of the assignment, if it is accepted. -/
def Store.rivals (st : Store) (request : Calls × Assignment) : List Assignment :=
  if request.2.policyID = "" then []
  else match publishedPolicy st.policies (orElse request.2.tenantID "default") request.2.policyID request.2.policyVersion with
    | none => []
    | some policy => st.assignments.filter (replacesAssignment (resolveAssignment digest request.1.now request.2 policy))

end

variable {digest : String → String}

lemma Apart.symm (a b : Assignment) (apart : Apart a b) : Apart b a := by
  simp only [Apart,sameAssignmentTarget] at apart ⊢
  grind

lemma replacesAssignment_eq_false (a b : Assignment) : replacesAssignment b a = false ↔ Apart a b := by
  simp only [replacesAssignment,Apart,Bool.or_eq_false_iff,decide_eq_false_iff_not,ne_eq]

lemma distinct_assignPolicy (st : Store) (request : Calls × Assignment) (distinct : st.assignments.Pairwise Apart) :
    (st.assignAll digest [request]).assignments.Pairwise Apart ↔ (st.rivals digest request).length ≤ 1 := by
  simp only [Store.assignAll,foldl_cons,foldl_nil,Store.assignPolicy,Store.rivals]
  split
  · simpa using distinct
  cases publishedPolicy st.policies (orElse request.2.tenantID "default") request.2.policyID request.2.policyVersion with
  | none => simpa using distinct
  | some policy =>
    simp only [(writeThrough_memory _ _ _).1]
    cases st.assignments.find? _ <;>
      exact pairwise_upsert distinct Apart.symm fun row => replacesAssignment_eq_false row _

/-- Over every sequence of assignments: no two rows ever share their id or their target exactly when
none did before and each assignment finds at most one row with its id or its target. -/
theorem assignments_distinct_iff (digest : String → String) (st : Store) (requests : List (Calls × Assignment)) :
    (∀ done, done <+: requests → (st.assignAll digest done).assignments.Pairwise Apart) ↔
      st.assignments.Pairwise Apart ∧ ∀ done next, done ++ [next] <+: requests →
        ((st.assignAll digest done).rivals digest next).length ≤ 1 := by
  have step (done : List (Calls × Assignment)) (next : Calls × Assignment) :
      st.assignAll digest (done ++ [next]) = (st.assignAll digest done).assignAll digest [next] := by
    simp [Store.assignAll]
  constructor
  · intro all
    refine ⟨all [] nil_prefix,fun done next within => ?_⟩
    rw [← distinct_assignPolicy _ next (all done ((prefix_append _ _).trans within)),← step]
    exact all _ within
  rintro ⟨distinct,single⟩ done
  induction done using List.reverseRecOn with
  | nil => exact fun _ => distinct
  | append_singleton done next ih =>
    intro within
    rw [step,distinct_assignPolicy _ next (ih ((prefix_append _ _).trans within))]
    exact single done next within

def assignTo (assignmentID agentID : String) : Calls × Assignment := ({},{ assignmentID, agentID, policyID := "p-1" })

/-- Moved onto the target of another row, an assignment leaves two rows for that target. -/
theorem two_rows_one_target :
    ((Store.assignAll id { policies := [{ policyID := "p-1", tenantID := "default", version := 1, published := true }] }
      [assignTo "a" "agent-1",assignTo "b" "agent-2",assignTo "a" "agent-2"]).assignments.map
        fun row => (row.assignmentID,row.agentID)) = [("a","agent-2"),("b","agent-2")] := by
  decide +kernel

/-! Publishing. -/

def Policy.identity (policy : Policy) : String × String × UInt64 := (policy.tenantID,policy.policyID,policy.version)

end SysArmor.Manager
