import SysArmor.FirstBest
import SysArmor.StoreOperations

/-! How the best assignment of an agent is chosen, in memory and in the database. In memory a new
assignment is the first one of its target. In the database the rows of one target are told apart by
their ids, and the first id wins. -/
namespace SysArmor.Manager
open Proto Rows FirstBest List

section

def ofTenant (tenantID : String) (assignment : Assignment) : Bool := tenantID = "" || assignment.tenantID = tenantID

lemma bestAssignment_eq (assignments : List Assignment) (tenantID agentID : String) (scope : RuntimeScope) :
    bestAssignment assignments tenantID agentID scope =
      firstBest (ofTenant tenantID) (assignmentRank · agentID scope) assignments := by
  unfold bestAssignment firstBest
  congr 2
  funext found assignment
  obtain ⟨best,bestRank⟩ := found
  unfold turn ofTenant
  by_cases any : tenantID = "" <;> by_cases same : assignment.tenantID = tenantID <;> simp [any,same]

variable {a b row : Assignment} {tables : Tables}

lemma assignmentRank_of_sameTarget (same : sameAssignmentTarget a b) (agentID : String) (scope : RuntimeScope) :
    assignmentRank a agentID scope = assignmentRank b agentID scope := by
  simp only [sameAssignmentTarget,Bool.and_eq_true,decide_eq_true_eq] at same
  obtain ⟨⟨⟨_,agent⟩,type⟩,selector⟩ := same
  simp only [assignmentRank,agent,type,selector]

/-! The rows of the database, in the order of the query. -/

/-- `ORDER BY tenant_id ASC, assignment_id ASC`. -/
def RowOrder (order : LinearOrder String) (a b : Assignment) : Prop :=
  order.lt (orElse a.tenantID "default") (orElse b.tenantID "default") ∨
    orElse a.tenantID "default" = orElse b.tenantID "default" ∧ order.le a.assignmentID b.assignmentID

instance (order : LinearOrder String) : DecidableRel (RowOrder order) := fun a b =>
  inferInstanceAs (Decidable (order.lt (orElse a.tenantID "default") (orElse b.tenantID "default") ∨
    orElse a.tenantID "default" = orElse b.tenantID "default" ∧ order.le a.assignmentID b.assignmentID))

lemma rowOrder_total (order : LinearOrder String) (a b : Assignment) : RowOrder order a b ∨ RowOrder order b a := by
  rcases lt_trichotomy (orElse a.tenantID "default") (orElse b.tenantID "default") with lower | same | higher
  · exact .inl (.inl lower)
  · rcases le_total a.assignmentID b.assignmentID with lower | higher
    · exact .inl (.inr ⟨same,lower⟩)
    · exact .inr (.inr ⟨same.symm,higher⟩)
  · exact .inr (.inl higher)

lemma rowOrder_trans (order : LinearOrder String) {c : Assignment} (first : RowOrder order a b) (second : RowOrder order b c) :
    RowOrder order a c := by
  rcases first with lower | ⟨same,le⟩
  · rcases second with lower' | ⟨same',_⟩
    · exact .inl (lower.trans lower')
    · exact .inl (same' ▸ lower)
  rcases second with lower' | ⟨same',le'⟩
  · exact .inl (same ▸ lower')
  · exact .inr ⟨same.trans same',le.trans le'⟩

lemma rowOrder_antisymm (order : LinearOrder String) (first : RowOrder order a b)
    (second : RowOrder order b a) : assignmentRowKey a = assignmentRowKey b := by
  rcases first with lower | ⟨same,le⟩
  · rcases second with lower' | ⟨same',_⟩
    · exact absurd lower' lower.asymm
    · exact absurd (same' ▸ lower) (lt_irrefl _)
  rcases second with lower' | ⟨_,le'⟩
  · exact absurd (same ▸ lower') (lt_irrefl _)
  · exact Prod.ext same (le.antisymm le')

lemma mem_policyAssignments : row ∈ tables.policyAssignments tenantID "" ↔
      row ∈ tables.assignments ∧ (tenantID = "" ∨ orElse row.tenantID "default" = tenantID) := by
  unfold Tables.policyAssignments
  dsimp only
  rw [mem_insertionSort,mem_filter]
  simp

lemma policyAssignments_sorted (tables : Tables) (tenantID : String) :
    (tables.policyAssignments tenantID "").Pairwise (RowOrder tables.collation) := by
  unfold Tables.policyAssignments
  dsimp only
  have total : Std.Total (RowOrder tables.collation) := ⟨rowOrder_total tables.collation⟩
  have trans : IsTrans Assignment (RowOrder tables.collation) := ⟨fun _ _ _ => rowOrder_trans tables.collation⟩
  exact pairwise_insertionSort (RowOrder tables.collation) _

lemma passing_listed (mem : row ∈ tables.assignments) (passing : ofTenant tenantID row) :
    row ∈ tables.policyAssignments tenantID "" := by
  refine mem_policyAssignments.mpr ⟨mem,?_⟩
  simp only [ofTenant,Bool.or_eq_true,decide_eq_true_eq] at passing
  rcases passing with any | same
  · exact .inl any
  by_cases any : tenantID = ""
  · exact .inl any
  · exact .inr (by rw [same,orElse,if_neg any])

/-! The best row after an assignment was written. -/

def Tables.withoutAssignment (tables : Tables) (key : String × String) : Tables :=
  { tables with assignments := tables.assignments.filter (assignmentRowKey · ≠ key) }

section
variable {tables : Tables} {new : Assignment} {tenantID agentID : String} {scope : RuntimeScope}

lemma mem_upsertPolicyAssignment (named : new.assignmentID ≠ "") (policy : new.policyID ≠ "") {row : Assignment} :
    row ∈ (tables.upsertPolicyAssignment new).assignments ↔
      row ∈ (tables.withoutAssignment (assignmentRowKey new)).assignments ∨ row = new := by
  unfold Tables.upsertPolicyAssignment
  rw [if_neg (by simp [named,policy])]
  simp [project,Tables.withoutAssignment]

lemma upsertPolicyAssignment_nodup (nodup : (tables.assignments.map assignmentRowKey).Nodup) (assignment : Assignment) :
    ((tables.upsertPolicyAssignment assignment).assignments.map assignmentRowKey).Nodup := by
  unfold Tables.upsertPolicyAssignment
  split
  · exact nodup
  · exact project_nodup nodup

lemma bestAssignment_written (named : new.assignmentID ≠ "") (policy : new.policyID ≠ "")
    (nodup : (tables.assignments.map assignmentRowKey).Nodup) (passing : ofTenant tenantID new)
    (counts : 0 ≤ assignmentRank new agentID scope)
    (lower : ∀ row ∈ (tables.withoutAssignment (assignmentRowKey new)).assignments, ofTenant tenantID row →
      assignmentRank row agentID scope ≤ assignmentRank new agentID scope) :
    bestAssignment ((tables.upsertPolicyAssignment new).policyAssignments tenantID "") tenantID agentID scope =
      match bestAssignment ((tables.withoutAssignment (assignmentRowKey new)).policyAssignments tenantID "") tenantID agentID scope with
      | none => some new
      | some rival =>
        if assignmentRank rival agentID scope < assignmentRank new agentID scope ∨ RowOrder tables.collation new rival then some new
        else some rival := by
  have collation : (tables.upsertPolicyAssignment new).collation = tables.collation := by
    unfold Tables.upsertPolicyAssignment
    split <;> rfl
  have sorted := policyAssignments_sorted (tables.upsertPolicyAssignment new) tenantID
  rw [collation] at sorted
  have listed : new ∈ (tables.upsertPolicyAssignment new).policyAssignments tenantID "" :=
    passing_listed ((mem_upsertPolicyAssignment named policy).mpr (.inr rfl)) passing
  rw [bestAssignment_eq,bestAssignment_eq,firstBest_larger
    (policyAssignments_sorted (tables.withoutAssignment (assignmentRowKey new)) tenantID) sorted (fun row => ?_)
    (fun a hasA b hasB first second => ?_) passing (fun row mem => lower row (mem_policyAssignments.mp mem).1)
    (fun _ _ _ => rowOrder_trans tables.collation) (fun a => (rowOrder_total tables.collation a a).elim id id) counts]
  · generalize firstBest _ _ _ = found
    cases found <;> rfl
  · rw [mem_policyAssignments,mem_policyAssignments,mem_upsertPolicyAssignment named policy]
    have kept := (mem_policyAssignments.mp listed).2
    constructor
    · rintro ⟨other | rfl,tenant⟩
      · exact .inl ⟨other,tenant⟩
      · exact .inr rfl
    rintro (⟨other,tenant⟩ | rfl)
    · exact ⟨.inl other,tenant⟩
    · exact ⟨.inr rfl,kept⟩
  · exact inj_on_of_nodup_map (upsertPolicyAssignment_nodup nodup new) (mem_policyAssignments.mp hasA).1
      (mem_policyAssignments.mp hasB).1 (rowOrder_antisymm tables.collation first second)

end
end

/-! What the writes of policies and assignments keep of the store, in memory and in the database. -/

def Operation.writesPolicies : Operation → Bool
  | .ensureDefaultPolicy _ | .upsertPolicy _ | .publishPolicy .. | .assignPolicy _ | .save => true
  | _ => false

def Tables.keyed (tables : Tables) : Prop := (tables.assignments.map assignmentRowKey).Nodup

/-- What the writes keep: a policy in memory has a version, and the rows of the database have one key
each. -/
structure PolicyState (st : Store) : Prop where
  versions : ∀ policy ∈ st.policies, policy.version ≠ 0
  keyed : ∀ tables ∈ st.backend, tables.keyed

variable {st : Store} {digest : String → String}

lemma normalizePolicy_version (now : Int) (policy : Policy) : (normalizePolicy now policy).version ≠ 0 := by
  unfold normalizePolicy
  dsimp only
  split
  · decide
  · assumption

lemma policyState_writeThrough (state : PolicyState st) (written : Bool) {write : Tables → Tables}
    (keeps : ∀ tables : Tables, tables.keyed → (write tables).keyed) : PolicyState (st.writeThrough written write) := by
  unfold Store.writeThrough
  split
  · refine ⟨state.versions,?_⟩
    intro tables attached
    obtain ⟨old,same,rfl⟩ := Option.map_eq_some_iff.mp (Option.mem_def.mp attached)
    exact keeps old (state.keyed old same)
  · exact state

lemma keyed_upsertPolicy (tables : Tables) (policy : Policy) (keyed : tables.keyed) : (tables.upsertPolicy policy).keyed := by
  unfold Tables.upsertPolicy
  split <;> exact keyed

section
variable (state : PolicyState st)
include state

lemma policyState_ensureDefaultPolicy (now : Int) (tenantID : String) :
    PolicyState (st.ensureDefaultPolicy now tenantID) := by
  unfold Store.ensureDefaultPolicy
  split
  · exact state
  refine ⟨?_,state.keyed⟩
  intro policy mem
  rcases mem_append.mp mem with old | new
  · exact state.versions policy old
  · rw [mem_singleton.mp new]
    exact normalizePolicy_version _ _

lemma policyState_upsertPolicy (now : Int) (written : Bool) (policy : Policy) :
    PolicyState (st.upsertPolicy now written policy).1 := by
  unfold Store.upsertPolicy
  split
  · exact state
  dsimp only
  apply policyState_writeThrough ?_ written fun tables => keyed_upsertPolicy tables _
  refine ⟨?_,state.keyed⟩
  have version : ∀ found, ((normalizePolicy now policy).replacing found).version ≠ 0 := by
    intro found
    cases found <;> exact normalizePolicy_version now policy
  intro row mem
  rcases mem_upsert mem with old | ⟨_,_,rfl⟩ | ⟨_,rfl⟩
  · exact state.versions row old
  · exact version _
  · exact version _

lemma policyState_publishPolicy (now : Int) (written : Bool) (tenantID policyID : String)
    (version : UInt64) (published : Bool) : PolicyState (st.publishPolicy now written tenantID policyID version published).1 := by
  unfold Store.publishPolicy
  dsimp only
  split
  · exact state
  split
  · exact state
  · rename_i policy found
    apply policyState_writeThrough ?_ written fun tables => keyed_upsertPolicy tables _
    refine ⟨?_,state.keyed⟩
    intro row mem
    rcases mem_updateFirst mem with old | ⟨_,_,rfl⟩
    · exact state.versions row old
    · exact state.versions policy (mem_of_find?_eq_some found)

lemma policyState_assignPolicy (now : Int) (written : Bool) (assignment : Assignment) :
    PolicyState (st.assignPolicy digest now written assignment).1 := by
  unfold Store.assignPolicy
  split
  · exact state
  split
  · exact state
  · apply policyState_writeThrough ?_ written fun tables keyed => upsertPolicyAssignment_nodup keyed _
    exact ⟨state.versions,state.keyed⟩

lemma policyState_save (failure : Option ε) : PolicyState (st.save failure).1 := by
  cases failure with
  | some failure => exact state
  | none =>
    refine ⟨state.versions,?_⟩
    intro tables attached
    obtain ⟨old,same,rfl⟩ := Option.map_eq_some_iff.mp (Option.mem_def.mp attached)
    exact project_nodup (state.keyed old same)

lemma policyState_run (ops : List (Calls × Operation))
    (writes : ∀ op ∈ ops, op.2.writesPolicies) : PolicyState (st.run digest ops) := by
  induction ops generalizing st with
  | nil => exact state
  | cons head rest ih =>
    obtain ⟨calls,op⟩ := head
    refine ih ?_ fun op mem => writes op (mem_cons_of_mem _ mem)
    have write := writes _ mem_cons_self
    unfold Store.perform
    cases op with
    | ensureDefaultPolicy tenantID => exact policyState_ensureDefaultPolicy state calls.now tenantID
    | upsertPolicy policy => exact policyState_upsertPolicy state calls.now calls.written policy
    | publishPolicy tenantID policyID version published =>
      exact policyState_publishPolicy state calls.now calls.written tenantID policyID version published
    | assignPolicy assignment => exact policyState_assignPolicy state calls.now calls.written assignment
    | save => exact policyState_save state _
    | _ => cases write

end

/-! What `publishedPolicy` finds. -/

lemma foldl_latest (passes : Policy → Bool) (policies : List Policy) (latest : Option Policy) :
    policies.foldl (fun latest policy =>
      if passes policy && latest.all (fun known => policy.version > known.version) then some policy else latest) latest =
    (policies.foldl (turn passes (·.version.toNat)) (latest,latest.elim (-1) (·.version.toNat))).1 := by
  induction policies generalizing latest with
  | nil => rfl
  | cons head policies ih =>
    rw [foldl_cons,foldl_cons,ih]
    cases passed : passes head with
    | false => simp [turn,passed]
    | true =>
      cases latest with
      | none =>
        have counts : (-1 : Int) < head.version.toNat := by omega
        simp [turn,passed,counts]
      | some known =>
        simp only [turn,passed,Option.all_some,Bool.true_and,decide_eq_true_eq,gt_iff_lt,UInt64.lt_iff_toNat_lt,if_true,
          Option.elim_some,Nat.cast_lt]
        split <;> rfl

lemma publishedPolicy_spec (found : publishedPolicy policies tenantID policyID version = some policy) :
    policy ∈ policies ∧ (tenantID = "" ∨ policy.tenantID = tenantID) ∧ policy.policyID = policyID ∧ policy.published ∧
      (version = 0 ∨ policy.version = version) := by
  unfold publishedPolicy at found
  dsimp only at found
  have passed : policy ∈ policies ∧ ((tenantID = "" || policy.tenantID = tenantID) && policy.policyID = policyID &&
      policy.published && (version = 0 || policy.version = version)) = true := by
    split at found
    · have passed := find?_some found
      exact ⟨mem_of_find?_eq_some found,passed⟩
    have best := firstBest_eq_some.mp ((foldl_latest _ _ none).symm.trans found)
    exact ⟨best.mem,best.passing⟩
  simpa [and_assoc] using passed

lemma publishedPolicy_exists {policies : List Policy} {policy : Policy} (mem : policy ∈ policies)
    (published : policy.published) (version : policy.version ≠ 0) :
    ∃ found, publishedPolicy policies policy.tenantID policy.policyID policy.version = some found := by
  unfold publishedPolicy
  dsimp only
  rw [if_pos version]
  apply Option.isSome_iff_exists.mp
  rw [find?_isSome]
  exact ⟨policy,mem,by simp [published]⟩

end SysArmor.Manager
