import SysArmor.OwnedChanges

/-! Records of one tenant and agent under operations that are issued for another. Every operation
finds the record it replaces by its own mix of id, tenant and agent, and the database replaces rows
by tenant and id; records of other pairs are left alone as long as what is found belongs to the pair
that the operation is issued for. -/
namespace SysArmor.Manager
open Proto Rows

section

def pairOf (tenantID agentID : String) : String × String := (orElse tenantID "default",agentID)

def pairOwner (pair : String × String) : Owner where
  records := fun tenantID agentID => pairOf tenantID agentID = pair
  incidents := fun _ => True
  defaulted := by
    intro t t' a same owned
    simpa only [pairOf,same] using owned

def ownsFound (pair : String × String) (found : Option α) (tenantID agentID : α → String) : Bool :=
  found.all fun row => pairOf (tenantID row) (agentID row) = pair

def ReplacesRows (key : α → String × String) (tenantID agentID : α → String) (rows before after : List α) : Prop :=
  ∀ row ∈ before, ∃ kept ∈ after, key kept = key row ∧
    pairOf (tenantID kept) (agentID kept) = pairOf (tenantID row) (agentID row) ∧ (kept = row ∨ kept ∈ rows)

structure TablesSaved (st : Store) (before after : Tables) : Prop where
  responses : ReplacesRows responseKey (·.command.tenantID) (·.command.agentID) (responseRows st.responses st.responseAcks)
    before.responses after.responses
  pullbacks : ReplacesRows pullbackKey (·.tenantID) (·.agentID) st.pullbacks before.pullbacks after.pullbacks
  controlCommands : ReplacesRows commandKey (·.tenantID) (·.agentID) st.controlCommands
    before.controlCommands after.controlCommands
  assignments : ReplacesRows assignmentRowKey (·.tenantID) (·.agentID) st.assignments before.assignments after.assignments

/-- A save changes nothing in memory, and replaces a row of the database by a record of the same pair only. -/
structure RecordsSaved (before after : Store) : Prop where
  memory : after = { before with backend := after.backend }
  stored : ∀ tables ∈ before.backend, ∃ tables' ∈ after.backend, TablesSaved before tables tables'

def Operation.issuedFor : Operation → Option (String × String)
  | .assignPolicy assignment => some (pairOf assignment.tenantID assignment.agentID)
  | .createResponse cmd => some (pairOf cmd.tenantID cmd.agentID)
  | .approveResponse tenantID agentID _ _ _ _ _ => some (pairOf tenantID agentID)
  | .ackResponse ack => some (pairOf ack.tenantID ack.agentID)
  | .createEvidencePullback req => some (pairOf req.tenantID req.agentID)
  | .completeEvidencePullback result => some (pairOf result.tenantID result.agentID)
  | .createControlCommand cmd => some (pairOf cmd.tenantID cmd.agentID)
  | .markControlCommandSent _ tenantID agentID _ => some (pairOf tenantID agentID)
  | .cancelControlCommand _ tenantID agentID _ _ => some (pairOf tenantID agentID)
  | .retryControlCommand _ tenantID agentID _ _ => some (pairOf tenantID agentID)
  | .expireControlCommand _ tenantID agentID _ => some (pairOf tenantID agentID)
  | .ackControlCommand ack => some (pairOf ack.tenantID ack.agentID)
  | _ => none

def Store.ownsStoredResponse (st : Store) (calls : Calls) (pair : String × String) (responseID : String) : Bool :=
  !calls.written || st.backend.all fun tables => tables.responses.all fun row =>
    responseKey row ≠ (pair.1,responseID) || pairOf row.command.tenantID row.command.agentID = pair

def Store.ownsStoredAssignment (st : Store) (calls : Calls) (pair : String × String) (assignmentID : String) : Bool :=
  !calls.written || st.backend.all fun tables => tables.assignments.all fun row =>
    assignmentRowKey row ≠ (pair.1,assignmentID) || pairOf row.tenantID row.agentID = pair

def samePairs (key : α → String × String) (tenantID agentID : α → String) (rows table : List α) : Bool :=
  rows.all fun row => table.all fun stored =>
    key row ≠ key stored || pairOf (tenantID row) (agentID row) = pairOf (tenantID stored) (agentID stored)

/-- The condition on a save: the rows that it replaces belong to the pairs of the records that are written. -/
def Store.savesOwn (st : Store) (tables : Tables) : Bool :=
  samePairs responseKey (·.command.tenantID) (·.command.agentID) (responseRows st.responses st.responseAcks) tables.responses &&
    samePairs pullbackKey (·.tenantID) (·.agentID) st.pullbacks tables.pullbacks &&
    samePairs commandKey (·.tenantID) (·.agentID) st.controlCommands tables.controlCommands &&
    samePairs assignmentRowKey (·.tenantID) (·.agentID) st.assignments tables.assignments

section
variable (digest : String → String)

def Store.ownsAssignment (st : Store) (calls : Calls) (assignment : Assignment) : Bool :=
  (publishedPolicy st.policies (orElse assignment.tenantID "default") assignment.policyID assignment.policyVersion).all
    fun policy =>
      let pair := pairOf assignment.tenantID assignment.agentID
      let resolved := resolveAssignment digest calls.now assignment policy
      ownsFound pair (st.assignments.find? (replacesAssignment resolved)) (·.tenantID) (·.agentID) &&
        st.ownsStoredAssignment calls pair resolved.assignmentID

/-- The condition on an operation, in the state before it: the records that its id resolves to belong
to the tenant and the agent it is issued for. -/
def Store.ownsResolved (st : Store) (calls : Calls) : Operation → Bool
  | .assignPolicy assignment => st.ownsAssignment digest calls assignment
  | .createResponse cmd =>
    let responseID := (normalizeCommand calls.now cmd).responseID
    let pair := pairOf cmd.tenantID cmd.agentID
    ownsFound pair (st.responses.find? (·.responseID = responseID)) (·.tenantID) (·.agentID) &&
      st.ownsStoredResponse calls pair responseID
  | .approveResponse tenantID agentID responseID _ _ _ _ =>
    let pair := pairOf tenantID agentID
    (st.responses.find? (namesResponse pair.1 agentID responseID)).all fun cmd =>
      pairOf cmd.tenantID cmd.agentID = pair && st.ownsStoredResponse calls pair responseID
  | .ackResponse ack =>
    let pair := pairOf ack.tenantID ack.agentID
    (st.responses.find? (·.responseID = ack.responseID)).all fun cmd =>
      pairOf cmd.tenantID cmd.agentID = pair &&
        ownsFound pair (st.responseAcks.find? (·.responseID = ack.responseID)) (·.tenantID) (·.agentID) &&
        st.ownsStoredResponse calls pair ack.responseID
  | .createEvidencePullback req =>
    ownsFound (pairOf req.tenantID req.agentID)
      (st.pullbacks.find? (·.requestID = (normalizeEvidencePullback calls.now req).requestID)) (·.tenantID) (·.agentID)
  | .completeEvidencePullback result =>
    ownsFound (pairOf result.tenantID result.agentID)
      (st.pullbacks.find? (namesPullback result.requestID result.tenantID result.agentID)) (·.tenantID) (·.agentID)
  | .createControlCommand cmd =>
    ownsFound (pairOf cmd.tenantID cmd.agentID)
      (st.controlCommands.find? (·.commandID = (normalizeControlCommand calls.now cmd).commandID)) (·.tenantID) (·.agentID)
  | .markControlCommandSent commandID tenantID agentID _ => ownsCommand commandID tenantID agentID
  | .cancelControlCommand commandID tenantID agentID _ _ => ownsCommand commandID tenantID agentID
  | .retryControlCommand commandID tenantID agentID _ _ => ownsCommand commandID tenantID agentID
  | .expireControlCommand commandID tenantID agentID _ => ownsCommand commandID tenantID agentID
  | .ackControlCommand ack => ownsCommand ack.commandID ack.tenantID ack.agentID
  | .save => !calls.written || st.backend.all st.savesOwn
  | _ => true
where
  ownsCommand (commandID tenantID agentID : String) : Bool :=
    st.resolvesCommand calls.readable commandID tenantID agentID fun t a => pairOf t a = pairOf tenantID agentID

end

variable {pair : String × String} {st : Store}

lemma pairOf_orElse {tenantID agentID : String} : pairOf (orElse tenantID "default") agentID = pairOf tenantID agentID := by
  unfold pairOf orElse
  split <;> simp_all

lemma ownsFound_iff {found : Option α} {tenantID agentID : α → String} :
    ownsFound pair found tenantID agentID ↔ ∀ row, found = some row → pairOf (tenantID row) (agentID row) = pair := by
  cases found <;> simp [ownsFound]

/-! Responses. -/

variable {calls : Calls}

lemma ownsResponse_of_stored {responseID : String} (owned : st.ownsStoredResponse calls pair responseID) (written : calls.written) :
    st.OwnsResponse (pairOwner pair) (pair.1,responseID) := by
  intro tables attached row mem key
  simp only [Store.ownsStoredResponse,written,Bool.not_true,Bool.false_or,Option.mem_def.mp attached,Option.all_some,
    List.all_eq_true,Bool.or_eq_true,decide_eq_true_eq] at owned
  exact (owned row mem).resolve_left (· key)

lemma resolved_createResponse (calls : Calls) (cmd : Command) (owned : st.ownsResolved digest calls (.createResponse cmd)) :
    Touches (pairOwner (pairOf cmd.tenantID cmd.agentID)) st (st.createResponse calls.now calls.written cmd).1 := by
  simp only [Store.ownsResolved,Bool.and_eq_true] at owned
  exact touches_createResponse calls.now calls.written cmd (pairOf_orElse) (ownsFound_iff.mp owned.1) (ownsResponse_of_stored owned.2)

lemma resolved_approveResponse (calls : Calls) (tenantID agentID responseID : String) (approved : Bool)
    (actor role reason : String)
    (owned : st.ownsResolved digest calls (.approveResponse tenantID agentID responseID approved actor role reason)) :
    Touches (pairOwner (pairOf tenantID agentID)) st
      (st.approveResponse calls.now calls.written tenantID agentID responseID approved actor role reason).1 := by
  refine touches_approveResponse calls.now calls.written tenantID agentID responseID approved actor role reason fun cmd first => ?_
  have found : pairOf cmd.tenantID cmd.agentID = pairOf tenantID agentID ∧
      st.ownsStoredResponse calls (pairOf tenantID agentID) responseID := by
    simpa [Store.ownsResolved,pairOf,first] using owned
  refine ⟨found.1,fun written => ?_⟩
  rw [show orElse cmd.tenantID "default" = (pairOf tenantID agentID).1 from congrArg Prod.fst found.1]
  exact ownsResponse_of_stored found.2 written

lemma resolved_ackResponse (calls : Calls) (ack : Ack) (owned : st.ownsResolved digest calls (.ackResponse ack)) :
    Touches (pairOwner (pairOf ack.tenantID ack.agentID)) st (st.ackResponse calls.now calls.written ack).1 := by
  cases first : st.responses.find? (·.responseID = ack.responseID) with
  | none =>
    have unchanged : (st.ackResponse calls.now calls.written ack).1 = st := by
      unfold Store.ackResponse
      split
      · rfl
      · simp [first]
    rw [unchanged]
    exact .refl st
  | some cmd =>
    simp only [Store.ownsResolved,first,Option.all_some,Bool.and_eq_true,decide_eq_true_eq] at owned
    obtain ⟨⟨command,acknowledged⟩,stored⟩ := owned
    refine touches_ackResponse calls.now calls.written ack rfl (fun old same => ?_) (ownsFound_iff.mp acknowledged)
    cases first.symm.trans same
    refine ⟨command,fun written => ?_⟩
    rw [show orElse cmd.tenantID "default" = (pairOf ack.tenantID ack.agentID).1 from congrArg Prod.fst command]
    exact ownsResponse_of_stored stored written

/-! Pullbacks and control commands, which are written to the database only by a save. -/

lemma resolved_updateControlCommand (calls : Calls) (commandID tenantID agentID : String) {update : ControlCommand → ControlCommand}
    (keeps : KeepsCommand update) (owned : Store.ownsResolved.ownsCommand st calls commandID tenantID agentID) :
    Touches (pairOwner (pairOf tenantID agentID)) st
      (st.updateControlCommand calls.readable commandID tenantID agentID update).1 := by
  refine (moves_resolvedCommand calls.readable commandID tenantID agentID keeps ?_ owned).touches
  intro t a same
  exact of_decide_eq_true (p := pairOf t a = pairOf tenantID agentID) same

lemma resolved_assignPolicy (calls : Calls) (assignment : Assignment) (owned : st.ownsAssignment digest calls assignment) :
    Touches (pairOwner (pairOf assignment.tenantID assignment.agentID)) st
      (st.assignPolicy digest calls.now calls.written assignment).1 := by
  have found : ∀ policy, publishedPolicy st.policies (orElse assignment.tenantID "default") assignment.policyID
      assignment.policyVersion = some policy →
      ownsFound (pairOf assignment.tenantID assignment.agentID)
        (st.assignments.find? (replacesAssignment (resolveAssignment digest calls.now assignment policy))) (·.tenantID) (·.agentID) ∧
      st.ownsStoredAssignment calls (pairOf assignment.tenantID assignment.agentID)
        (resolveAssignment digest calls.now assignment policy).assignmentID := by
    intro policy published
    simpa only [Store.ownsAssignment,published,Option.all_some,Bool.and_eq_true] using owned
  refine touches_assignPolicy digest calls.now calls.written assignment (pairOf_orElse)
    (fun policy published => ownsFound_iff.mp (found policy published).1) ?_
  intro written policy published tables attached row mem key
  have stored := (found policy published).2
  simp only [Store.ownsStoredAssignment,written,Bool.not_true,Bool.false_or,Option.mem_def.mp attached,Option.all_some,
    List.all_eq_true,Bool.or_eq_true,decide_eq_true_eq] at stored
  exact (stored row mem).resolve_left (· key)

/-! Saves. -/

lemma replacesRows_of_samePairs {key : α → String × String} {tenantID agentID : α → String} {rows written table : List α}
    (same : samePairs key tenantID agentID rows table) (within : ∀ row ∈ written, row ∈ rows) :
    ReplacesRows key tenantID agentID rows table (project key written table) := by
  intro row mem
  simp only [samePairs,List.all_eq_true,Bool.or_eq_true,decide_eq_true_eq] at same
  obtain ⟨kept,there,name,pair,origin⟩ := project_replaces (fun row => pairOf (tenantID row) (agentID row)) mem
    fun other (here : other ∈ written) named => (same other (within other here) row mem).resolve_left (· named)
  exact ⟨kept,there,name,pair,origin.imp_right (within kept)⟩

lemma recordsSaved_save {failure : Option ε} (owned : failure = none → ∀ tables ∈ st.backend, st.savesOwn tables) :
    RecordsSaved st (st.save failure).1 := by
  cases failure with
  | some =>
    refine ⟨rfl,fun tables attached => ⟨tables,attached,?_⟩⟩
    constructor <;> exact fun row mem => ⟨row,mem,rfl,rfl,.inl rfl⟩
  | none =>
    refine ⟨rfl,fun tables attached => ⟨tables.save st,by simp [Store.save,Option.mem_def.mp attached],?_⟩⟩
    have same := owned rfl tables attached
    simp only [Store.savesOwn,Bool.and_eq_true] at same
    obtain ⟨⟨⟨responses,pullbacks⟩,commands⟩,assignments⟩ := same
    exact ⟨replacesRows_of_samePairs responses fun _ => id,replacesRows_of_samePairs pullbacks fun _ mem => (List.mem_filter.mp mem).1,
      replacesRows_of_samePairs commands fun _ mem => (List.mem_filter.mp mem).1,
      replacesRows_of_samePairs assignments fun _ mem => (List.mem_filter.mp mem).1⟩
end

/-! Runs of operations and the records of other pairs. The operations on agents, telemetry, policies
and enrollments change none of the records; the others change those of the pair they are issued for. -/
variable {st st' : Store}

/-- What memory and the database hold of responses, pullbacks, commands and assignments. -/
def Store.records (st : Store) :=
  (st.responses,st.responseAcks,st.pullbacks,st.controlCommands,st.assignments,
    st.backend.map fun tables => (tables.responses,tables.pullbacks,tables.controlCommands,tables.assignments))

variable {agent : AgentIdentity} {now : Int} {transport tenantID tokenHash : String} {written : Bool}
variable {policy : Policy} {enrollment : Enrollment} {usedAt : Time}
open Store

/-! Agents, sessions and incidents. -/

lemma records_addAgent : (st.addAgent agent).records = st.records := by
  obtain ⟨agents,same⟩ := addAgent_shape st agent
  rw [same]
  rfl

lemma records_bindAgentIdentity (bound : st.bindAgentIdentity agent = .ok st') : st'.records = st.records := by
  rw [bindAgentIdentity_eq bound]
  rfl

lemma records_upsertAgentHealth {health : AgentHealth} : (st.upsertAgentHealth health).records = st.records := by
  unfold upsertAgentHealth
  split <;> rfl

lemma records_recordDataBatchAppend {batchID : String} :
    (st.recordDataBatchAppend digest agent batchID transport now).records = st.records := by
  unfold recordDataBatchAppend
  dsimp only
  split <;> rfl

lemma records_recordControlSessionOpen {agentID : String} :
    (st.recordControlSessionOpen digest tenantID agentID transport now).records = st.records := by
  obtain ⟨agentSessions,same⟩ := recordControlSessionOpen_shape digest st tenantID agentID transport now
  rw [same]
  rfl

lemma records_attachIncidentEvidence {id : String} {labels : Labels} {evidence : EvidenceSubgraph} :
    (st.attachIncidentEvidence id labels evidence).1.records = st.records := by
  unfold attachIncidentEvidence
  split
  · rfl
  · split <;> rfl

/-! Policies. -/

lemma records_ensureDefaultPolicy : (st.ensureDefaultPolicy now tenantID).records = st.records := by
  unfold ensureDefaultPolicy
  split <;> rfl

lemma records_writePolicy : (st.writeThrough written (·.upsertPolicy policy)).records = st.records := by
  unfold writeThrough
  split
  · simp only [records,Prod.mk.injEq,true_and]
    cases st.backend with
    | none => rfl
    | some tables =>
      rw [Option.map_some,Option.map_some,Option.map_some]
      unfold Tables.upsertPolicy
      split <;> rfl
  · rfl

lemma records_upsertPolicy : (st.upsertPolicy now written policy).1.records = st.records := by
  unfold upsertPolicy
  split
  · rfl
  · exact records_writePolicy

lemma records_publishPolicy {policyID : String} {version : UInt64} {published : Bool} :
    (st.publishPolicy now written tenantID policyID version published).1.records = st.records := by
  unfold publishPolicy
  dsimp only
  split
  · rfl
  split
  · rfl
  · exact records_writePolicy

/-! Enrollments. -/

lemma records_writeEnrollment (attached : st.backend = some tables) :
    (st.writeEnrollment tables enrollment).records = st.records := by
  simp only [records,Prod.mk.injEq,attached]
  refine ⟨rfl,rfl,rfl,rfl,rfl,congrArg some ?_⟩
  unfold Tables.upsertEnrollment
  split <;> rfl

lemma records_createEnrollment : (st.createEnrollment now enrollment).1.records = st.records := by
  unfold createEnrollment
  dsimp only
  split <;> rfl

lemma records_markEnrollmentUsedInMemory : (st.markEnrollmentUsedInMemory tokenHash usedAt).1.records = st.records := by
  unfold markEnrollmentUsedInMemory
  split
  · rfl
  · split <;> rfl

lemma records_markEnrollmentUsed {readable : Bool} :
    (st.markEnrollmentUsed now readable written tokenHash usedAt).1.records = st.records := by
  unfold markEnrollmentUsed
  dsimp only
  split
  · rfl
  split
  · exact records_markEnrollmentUsedInMemory
  rename_i attached
  split
  · exact records_markEnrollmentUsedInMemory
  split
  · exact records_writeEnrollment attached
  · exact records_markEnrollmentUsedInMemory

lemma records_consumeEnrollmentBootstrap {fetchedAt : Time} :
    (st.consumeEnrollmentBootstrap now written bootstrapHash enrollmentHash enrollmentPreview fetchedAt).1.records = st.records := by
  unfold consumeEnrollmentBootstrap
  split
  · rename_i attached
    split
    · rfl
    split
    · exact records_writeEnrollment attached
    · rfl
  · dsimp only
    split
    · rfl
    · split <;> rfl

lemma records_commitEnrollmentIssue {keyHash : String} {proposed : Enrollment} :
    (st.commitEnrollmentIssue now written tokenHash keyHash proposed).1.records = st.records := by
  unfold commitEnrollmentIssue
  dsimp only
  split
  · rfl
  split
  · rename_i attached
    split
    · rfl
    split
    · rfl
    · split
      · exact records_writeEnrollment attached
      · rfl
  · split
    · rfl
    · split <;> rfl

section
variable (digest : String → String)

structure Turn where
  before : Store
  calls : Calls
  op : Operation
  after : Store

def Store.turns (st : Store) : List (Calls × Operation) → List Turn
  | [] => []
  | (calls,op) :: rest => ⟨st,calls,op,st.perform digest calls op⟩ :: (st.perform digest calls op).turns rest

def Store.ownsResolvedAll (st : Store) : List (Calls × Operation) → Bool
  | [] => true
  | (calls,op) :: rest => st.ownsResolved digest calls op && (st.perform digest calls op).ownsResolvedAll rest

variable {digest}

/-- An operation on the records changes those of its pair only. -/
lemma touches_perform {calls : Calls} {op : Operation} (owned : st.ownsResolved digest calls op)
    (issued : op.issuedFor = some pair) : Touches (pairOwner pair) st (st.perform digest calls op) := by
  cases op <;> cases issued
  case assignPolicy assignment =>
    exact resolved_assignPolicy calls assignment owned
  case createResponse cmd =>
    exact resolved_createResponse calls cmd owned
  case approveResponse tenantID agentID responseID approved actor role reason =>
    exact resolved_approveResponse calls tenantID agentID responseID approved actor role reason owned
  case ackResponse ack =>
    exact resolved_ackResponse calls ack owned
  case createEvidencePullback req =>
    exact touches_createEvidencePullback calls.now req pairOf_orElse (ownsFound_iff.mp owned)
  case completeEvidencePullback result =>
    exact (moves_completeEvidencePullback calls.now result (ownsFound_iff.mp owned)).touches
  case createControlCommand cmd =>
    exact touches_createControlCommand calls.now cmd pairOf_orElse (ownsFound_iff.mp owned)
  case markControlCommandSent commandID tenantID agentID sentAt =>
    exact resolved_updateControlCommand calls commandID tenantID agentID (keepsCommand_markSent sentAt) owned
  case cancelControlCommand commandID tenantID agentID actor reason =>
    exact resolved_updateControlCommand calls commandID tenantID agentID (keepsCommand_cancel _ actor reason) owned
  case retryControlCommand commandID tenantID agentID actor reason =>
    exact resolved_updateControlCommand calls commandID tenantID agentID (keepsCommand_retry _ actor reason) owned
  case expireControlCommand commandID tenantID agentID reason =>
    exact resolved_updateControlCommand calls commandID tenantID agentID (keepsCommand_expire _ reason) owned
  case ackControlCommand ack =>
    exact resolved_updateControlCommand calls ack.commandID ack.tenantID ack.agentID (keepsCommand_ack _ ack) owned

/-- The other operations change none, a save apart. -/
lemma records_perform {calls : Calls} {op : Operation} (noSave : op ≠ .save) (issued : op.issuedFor = none) :
    (st.perform digest calls op).records = st.records := by
  unfold perform
  cases op with
  | addAgent => exact records_addAgent
  | bindAgentIdentity agent =>
    dsimp only
    split
    · rfl
    · rename_i bound
      exact records_bindAgentIdentity bound
  | upsertAgentHealth => exact records_upsertAgentHealth
  | recordDataBatchAppend => exact records_recordDataBatchAppend
  | recordControlSessionOpen => exact records_recordControlSessionOpen
  | addEvent => rfl
  | addSignal => rfl
  | replaceDerivedForLabels => rfl
  | ensureDefaultPolicy => exact records_ensureDefaultPolicy
  | upsertPolicy => exact records_upsertPolicy
  | publishPolicy => exact records_publishPolicy
  | attachIncidentEvidence => exact records_attachIncidentEvidence
  | createEnrollment => exact records_createEnrollment
  | markEnrollmentUsed => exact records_markEnrollmentUsed
  | consumeEnrollmentBootstrap => exact records_consumeEnrollmentBootstrap
  | commitEnrollmentIssue => exact records_commitEnrollmentIssue
  | save => exact absurd rfl noSave
  | _ => cases issued

lemma recordsSaved_perform {calls : Calls} (owned : st.ownsResolved digest calls .save) :
    RecordsSaved st (st.perform digest calls .save) := by
  refine recordsSaved_save fun done tables attached => ?_
  have written : calls.written = true := by
    by_contra failed
    simp [failed] at done
  simpa [ownsResolved,written,Option.mem_def.mp attached] using owned

end

/-- What an operation does to the records: those that change belong to the pair it is issued for, an operation
that is issued for no pair changes none, and a save replaces rows of a pair by records of that pair. -/
structure Turn.Isolated (turn : Turn) : Prop where
  issued : ∀ pair, turn.op.issuedFor = some pair → Touches (pairOwner pair) turn.before turn.after
  unissued : turn.op.issuedFor = none → turn.op ≠ .save → turn.after.records = turn.before.records
  saved : turn.op = .save → RecordsSaved turn.before turn.after

/-- Over every sequence of operations, an operation that is issued for a tenant and an agent leaves the
records of every other pair as they are, and a save replaces rows of a pair by records of that pair only. -/
theorem records_of_other_pairs_kept (digest : String → String) (st : Store) (ops : List (Calls × Operation))
    (owned : st.ownsResolvedAll digest ops) : ∀ turn ∈ st.turns digest ops, turn.Isolated := by
  induction ops generalizing st with
  | nil =>
    intro turn mem
    cases mem
  | cons head rest ih =>
    obtain ⟨calls,op⟩ := head
    rw [ownsResolvedAll,Bool.and_eq_true] at owned
    intro turn mem
    rw [turns,List.mem_cons] at mem
    rcases mem with rfl | later
    · constructor <;> dsimp only
      · exact fun pair => touches_perform owned.1
      · exact fun none noSave => records_perform noSave none
      · rintro rfl
        exact recordsSaved_perform owned.1
    · exact ih (st.perform digest calls op) owned.2 turn later

def responseFor (tenantID agentID : String) : Operation :=
  .createResponse { responseID := "resp-1", tenantID, agentID, action := "kill", target := agentID }

def ownIds : List (Calls × Operation) :=
  [({},responseFor "red" "agent-1"),({},.createResponse { responseID := "resp-2", tenantID := "red", agentID := "agent-2" }),
   ({},.save),({},.ackResponse { responseID := "resp-1", tenantID := "red", agentID := "agent-1", accepted := true }),({},.save)]

/-- The database of another process, in which a third agent has a response. -/
def sharedTables : Store where
  backend := some { responses := [⟨{ responseID := "resp-9", tenantID := "red", agentID := "agent-3" },none⟩] }

theorem responses_of_own_ids_kept : ((run id sharedTables ownIds).backend.map fun tables =>
      tables.responses.map fun row => (row.command.agentID,row.command.status)) =
      some [("agent-3",""),("agent-1","acked"),("agent-2","pending")] ∧
    ∀ turn ∈ turns id sharedTables ownIds, turn.Isolated :=
  ⟨by decide +kernel,records_of_other_pairs_kept id _ _ (by decide +kernel)⟩

/-- A response that another tenant creates under the same id takes the place of the first one. -/
theorem response_of_same_id_replaced :
    ((run id {} [({},responseFor "red" "agent-1")]).responses.map fun cmd => (cmd.tenantID,cmd.agentID)) =
      [("red","agent-1")] ∧
    ((run id {} [({},responseFor "red" "agent-1"),({},responseFor "blue" "agent-2")]).responses.map fun cmd =>
      (cmd.tenantID,cmd.agentID)) = [("blue","agent-2")] := by
  decide +kernel

end SysArmor.Manager
