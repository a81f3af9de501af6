import SysArmor.StoreOperations

/-! Which records the store's operations change. An owner is a set of tenants and agents; each
operation changes only records of the owner if what it writes is the owner's and what it finds to
replace is too. -/
namespace SysArmor.Manager
open GoText Proto Rows ControlCommand

structure Owner where
  records : String → String → Prop
  incidents : Incident → Prop
  -- an empty tenant is the default one
  defaulted : ∀ {t t' a}, orElse t "default" = orElse t' "default" → records t a → records t' a

structure RowsTouched (own : Owner) (tables tables' : Tables) : Prop where
  agents : ChangesRows (fun agent : AgentIdentity => own.records agent.normalized.tenantID agent.normalized.agentID)
    tables.agents tables'.agents
  health : ChangesRows (fun health : AgentHealth => own.records health.tenantID health.agentID) tables.health tables'.health
  responses : ChangesRows (fun row : ResponseAudit => own.records row.command.tenantID row.command.agentID)
    tables.responses tables'.responses
  pullbacks : ChangesRows (fun req : EvidencePullbackRequest => own.records req.tenantID req.agentID)
    tables.pullbacks tables'.pullbacks
  controlCommands : ChangesRows (fun cmd : ControlCommand => own.records cmd.tenantID cmd.agentID)
    tables.controlCommands tables'.controlCommands
  assignments : ChangesRows (fun assignment : Assignment => own.records assignment.tenantID assignment.agentID)
    tables.assignments tables'.assignments

/-- The records that change, in memory and in the database, are the owner's. -/
structure Touches (own : Owner) (st st' : Store) : Prop where
  agents : ChangesOnly (fun agent : AgentIdentity => own.records agent.tenantID agent.agentID) st.agents st'.agents
  health : ∀ key, st.health.lookup key = st'.health.lookup key ∨
    (∀ health ∈ st.health.lookup key, own.records health.tenantID health.agentID) ∧
      ∀ health ∈ st'.health.lookup key, own.records health.tenantID health.agentID
  responses : ChangesOnly (fun cmd : Command => own.records cmd.tenantID cmd.agentID) st.responses st'.responses
  responseAcks : ChangesOnly (fun ack : Ack => own.records ack.tenantID ack.agentID) st.responseAcks st'.responseAcks
  pullbacks : ChangesOnly (fun req : EvidencePullbackRequest => own.records req.tenantID req.agentID) st.pullbacks st'.pullbacks
  controlCommands : ChangesOnly (fun cmd : ControlCommand => own.records cmd.tenantID cmd.agentID)
    st.controlCommands st'.controlCommands
  assignments : ChangesOnly (fun assignment : Assignment => own.records assignment.tenantID assignment.agentID)
    st.assignments st'.assignments
  incidents : ChangesOnly own.incidents st.incidents st'.incidents
  stored : ∀ tables ∈ st.backend, ∃ tables' ∈ st'.backend, RowsTouched own tables tables'

/-- What a save writes is the owner's or in the database as it is. -/
@[mk_iff]
structure Store.Mirrored (own : Owner) (st : Store) (tables : Tables) : Prop where
  agents : Mirrors (fun agent => own.records agent.normalized.tenantID agent.normalized.agentID) agentRowKey st.agents tables.agents
  health : Mirrors (fun health => own.records health.tenantID health.agentID) healthKey (sortedHealth st) tables.health
  responses : Mirrors (fun row => own.records row.command.tenantID row.command.agentID) responseKey
    (responseRows st.responses st.responseAcks) tables.responses
  pullbacks : Mirrors (fun req => own.records req.tenantID req.agentID) pullbackKey st.pullbacks tables.pullbacks
  controlCommands : Mirrors (fun cmd => own.records cmd.tenantID cmd.agentID) commandKey st.controlCommands tables.controlCommands
  assignments : Mirrors (fun assignment => own.records assignment.tenantID assignment.agentID) assignmentRowKey
    st.assignments tables.assignments

instance {own : Owner} [∀ tenantID agentID, Decidable (own.records tenantID agentID)] {st : Store} {tables : Tables} :
    Decidable (st.Mirrored own tables) := decidable_of_iff' _ (Store.mirrored_iff own st tables)

/-- A step of the owner: it changes the owner's records only, and a save stays possible if it was. -/
structure OwnerStep (own : Owner) (st st' : Store) : Prop where
  touches : Touches own st st'
  mirrors : (∀ tables ∈ st.backend, st.Mirrored own tables) → ∀ tables ∈ st'.backend, st'.Mirrored own tables

variable {own : Owner} {st st' st'' : Store}

lemma RowsTouched.refl (tables : Tables) : RowsTouched own tables tables :=
  ⟨.refl _,.refl _,.refl _,.refl _,.refl _,.refl _⟩

lemma RowsTouched.trans (first : RowsTouched own old between) (second : RowsTouched own between new) : RowsTouched own old new :=
  ⟨first.agents.trans second.agents,first.health.trans second.health,first.responses.trans second.responses,
    first.pullbacks.trans second.pullbacks,first.controlCommands.trans second.controlCommands,
    first.assignments.trans second.assignments⟩

lemma Touches.refl (st : Store) : Touches own st st :=
  ⟨.refl _,fun _ => .inl rfl,.refl _,.refl _,.refl _,.refl _,.refl _,.refl _,fun tables attached => ⟨tables,attached,.refl tables⟩⟩

lemma Touches.trans (first : Touches own st st') (second : Touches own st' st'') : Touches own st st'' := by
  refine ⟨first.agents.trans second.agents,fun key => ?_,first.responses.trans second.responses,
    first.responseAcks.trans second.responseAcks,first.pullbacks.trans second.pullbacks,
    first.controlCommands.trans second.controlCommands,first.assignments.trans second.assignments,
    first.incidents.trans second.incidents,fun tables attached => ?_⟩
  · rcases first.health key with same | ⟨old,new⟩
    · rw [same]
      exact second.health key
    rcases second.health key with same | ⟨_,last⟩
    · exact .inr ⟨old,same ▸ new⟩
    · exact .inr ⟨old,last⟩
  · obtain ⟨between,there,moved⟩ := first.stored tables attached
    obtain ⟨last,here,again⟩ := second.stored between there
    exact ⟨last,here,moved.trans again⟩

lemma OwnerStep.refl (st : Store) : OwnerStep own st st := ⟨.refl st,id⟩

lemma OwnerStep.trans (first : OwnerStep own st st') (second : OwnerStep own st' st'') : OwnerStep own st st'' :=
  ⟨first.touches.trans second.touches,second.mirrors ∘ first.mirrors⟩

lemma saved_of_mirrors [DecidableEq κ] {own : α → Prop} {key : α → κ} {keep : α → Bool} (mirrors : Mirrors own key rows table) :
    ChangesRows own table (project key (rows.filter keep) table) :=
  (mirrors.extend fun _ mem => .inl (List.mem_filter.mp mem).1).save

lemma touches_save (failure : Option ε) (mirrored : failure = none → ∀ tables ∈ st.backend, st.Mirrored own tables) :
    Touches own st (st.save failure).1 := by
  cases failure with
  | some => exact .refl st
  | none =>
    refine { Touches.refl st with stored := fun tables attached => ⟨tables.save st,?_,?_⟩ }
    · simp [Store.save,Option.mem_def.mp attached]
    · have same := mirrored rfl tables attached
      exact { agents := saved_of_mirrors same.agents, health := saved_of_mirrors same.health, responses := same.responses.save
              pullbacks := saved_of_mirrors same.pullbacks, controlCommands := saved_of_mirrors same.controlCommands
              assignments := saved_of_mirrors same.assignments }

open Store

lemma touches_writeThrough {written : Bool} {write : Tables → Tables}
    (rows : written → ∀ tables ∈ st.backend, RowsTouched own tables (write tables)) :
    Touches own st (st.writeThrough written write) := by
  unfold writeThrough
  split
  · rename_i done
    refine { Touches.refl st with stored := fun tables attached => ⟨write tables,?_,rows done tables attached⟩ }
    simp [Option.mem_def.mp attached]
  · exact .refl st

/-! Agents, their sessions and their health. -/

lemma addAgent_shape (st : Store) (agent : AgentIdentity) : ∃ agents, st.addAgent agent = { st with agents } := by
  unfold addAgent
  dsimp only
  split
  · exact ⟨_,rfl⟩
  · exact ⟨st.agents,rfl⟩

variable (digest : String → String) (readable : Bool) (now : Int) (commandID : String) (written : Bool)
variable (tenantID actor agentID reason : String)

lemma recordControlSessionOpen_shape (st : Store) (tenantID agentID transport : String) (now : Int) :
    ∃ agentSessions, st.recordControlSessionOpen digest tenantID agentID transport now = { st with agentSessions } := by
  unfold recordControlSessionOpen
  dsimp only
  split
  · exact ⟨st.agentSessions,rfl⟩
  · exact ⟨_,rfl⟩

lemma sameAgent_iff : sameAgent agent existing ↔ existing.tenantID = agent.tenantID ∧ existing.agentID = agent.agentID := by
  simp [sameAgent]

lemma moves_upsertAgent {agent : AgentIdentity} (owned : own.records agent.tenantID agent.agentID)
    (stored : own.records agent.normalized.tenantID agent.normalized.agentID) :
    OwnerStep own st { st with agents := upsert (sameAgent agent) agent.keeping agent st.agents } := by
  refine ⟨{ Touches.refl st with agents := changesOnly_upsert ?_ fun _ => owned },fun mirrored tables attached => ?_⟩
  · intro old found
    obtain ⟨tenant,name⟩ := sameAgent_iff.mp (List.find?_some found)
    exact ⟨by rwa [tenant,name],owned⟩
  · refine { mirrored tables attached with agents := (mirrored tables attached).agents.extend fun row mem => ?_ }
    have same : row ∈ st.agents ∨ agentRowKey row = agentRowKey agent := by
      rcases mem_upsert mem with kept | ⟨_,_,rfl⟩ | ⟨_,rfl⟩
      · exact .inl kept
      · exact .inr rfl
      · exact .inr rfl
    refine same.imp_right fun same => ?_
    have keyed (other : AgentIdentity) (key : agentRowKey other = agentRowKey agent) :
        own.records other.normalized.tenantID other.normalized.agentID := by
      obtain ⟨tenant,name⟩ := Prod.mk.inj key
      rwa [tenant,name]
    exact ⟨keyed row same,fun other _ key => keyed other (key.trans same)⟩

lemma moves_addAgent (agent : AgentIdentity) (owned : own.records agent.normalized.tenantID agent.normalized.agentID)
    (stored : own.records agent.normalized.normalized.tenantID agent.normalized.normalized.agentID) :
    OwnerStep own st (st.addAgent agent) := by
  unfold addAgent
  dsimp only
  split
  · exact moves_upsertAgent owned stored
  · exact .refl st

lemma mem_sortedHealth {health : AgentHealth} : health ∈ sortedHealth st ↔ ∃ key, ⟨key,health⟩ ∈ st.health.entries := by
  simp [sortedHealth]

lemma moves_upsertAgentHealth (health : AgentHealth) (owned : own.records health.tenantID health.agentID)
    (replaced : ∀ old ∈ st.health.lookup (agentHealthKey health.tenantID health.agentID), own.records old.tenantID old.agentID) :
    OwnerStep own st (st.upsertAgentHealth health) := by
  unfold upsertAgentHealth
  split
  · exact .refl st
  refine ⟨{ Touches.refl st with health := ?_ },fun mirrored tables attached => ?_⟩
  · intro key
    by_cases same : key = agentHealthKey health.tenantID health.agentID
    · subst same
      refine .inr ⟨replaced,?_⟩
      rw [AList.lookup_insert]
      rintro _ ⟨⟩
      exact owned
    · exact .inl (AList.lookup_insert_ne same).symm
  · refine { mirrored tables attached with health := (mirrored tables attached).health.extend fun row mem => ?_ }
    obtain ⟨key,listed⟩ := mem_sortedHealth.mp mem
    rw [AList.entries_insert,List.mem_cons] at listed
    rcases listed with new | old
    · cases new
      refine .inr ⟨owned,fun other _ key => ?_⟩
      obtain ⟨tenant,name⟩ := Prod.mk.inj key
      rw [name]
      exact own.defaulted tenant.symm owned
    · exact .inl (mem_sortedHealth.mpr ⟨key,(List.kerase_sublist _ _).mem old⟩)

/-! Response commands. -/

variable {cmd : Command} {update : ControlCommand → ControlCommand}

/-- The stored responses under a key are the owner's. -/
def Store.OwnsResponse (st : Store) (own : Owner) (key : String × String) : Prop :=
  ∀ tables ∈ st.backend, ∀ row ∈ tables.responses, responseKey row = key → own.records row.command.tenantID row.command.agentID

lemma rowsTouched_upsertResponseAudit {tables : Tables} {ack : Option Ack} (owned : own.records cmd.tenantID cmd.agentID)
    (replaced : ∀ row ∈ tables.responses, responseKey row = (orElse cmd.tenantID "default",cmd.responseID) →
      own.records row.command.tenantID row.command.agentID) : RowsTouched own tables (tables.upsertResponseAudit cmd ack) := by
  unfold Tables.upsertResponseAudit
  split
  · exact .refl tables
  · exact { RowsTouched.refl tables with responses := changesRows_write owned replaced }

lemma touches_createResponse (cmd : Command) (owned : own.records (orElse cmd.tenantID "default") cmd.agentID)
    (replaced : ∀ old, st.responses.find? (·.responseID = (normalizeCommand now cmd).responseID) = some old →
      own.records old.tenantID old.agentID)
    (rows : written → st.OwnsResponse own (orElse cmd.tenantID "default",(normalizeCommand now cmd).responseID)) :
    Touches own st (st.createResponse now written cmd).1 := by
  unfold createResponse
  dsimp only
  refine Touches.trans ?_ (touches_writeThrough fun done tables attached => rowsTouched_upsertResponseAudit ?_ fun row mem key => ?_)
  · refine { Touches.refl st with responses := changesOnly_upsert (fun old found => ⟨replaced old found,?_⟩) fun _ => ?_ }
    all_goals cases st.responses.find? _ <;> exact owned
  · cases st.responses.find? _ <;> exact owned
  · refine rows done tables attached row mem ?_
    have tenant : orElse (orElse cmd.tenantID "default") "default" = orElse cmd.tenantID "default" := by grind [orElse]
    cases found : st.responses.find? _ <;> rw [key,found] <;> exact Prod.ext tenant rfl

lemma withReason_owner {separator reason : String} :
    (cmd.withReason separator reason).tenantID = cmd.tenantID ∧ (cmd.withReason separator reason).agentID = cmd.agentID ∧
      (cmd.withReason separator reason).responseID = cmd.responseID := by
  unfold Command.withReason
  split <;> exact ⟨rfl,rfl,rfl⟩

lemma decide_owner (cmd : Command) (now : Int) (approval : Approval) :
    (cmd.decide now approval).tenantID = cmd.tenantID ∧ (cmd.decide now approval).agentID = cmd.agentID ∧
      (cmd.decide now approval).responseID = cmd.responseID := by
  unfold Command.decide
  dsimp only
  rw [(withReason_owner).1,(withReason_owner).2.1,(withReason_owner).2.2]
  split
  · exact ⟨rfl,rfl,rfl⟩
  · split <;> exact ⟨rfl,rfl,rfl⟩

lemma touches_approveResponse (responseID : String) (approved : Bool) (actor role reason : String)
    (found : ∀ cmd, st.responses.find? (namesResponse (orElse tenantID "default") agentID responseID) = some cmd →
      own.records cmd.tenantID cmd.agentID ∧ (written → st.OwnsResponse own (orElse cmd.tenantID "default",responseID))) :
    Touches own st (st.approveResponse now written tenantID agentID responseID approved actor role reason).1 := by
  unfold approveResponse
  split
  · exact .refl st
  dsimp only
  split
  · exact .refl st
  rename_i cmd names
  split
  · exact .refl st
  obtain ⟨owned,rows⟩ := found cmd names
  have named : cmd.responseID = responseID := by
    have passes := List.find?_some names
    simp only [namesResponse,Bool.and_eq_true,decide_eq_true_eq] at passes
    exact passes.1
  refine Touches.trans ?_ (touches_writeThrough fun done tables attached => rowsTouched_upsertResponseAudit ?_ fun row mem key => ?_)
  · refine { Touches.refl st with responses := changesOnly_updateFirst fun old same => ⟨(found old same).1,?_⟩ }
    rwa [(decide_owner _ _ _).1,(decide_owner _ _ _).2.1]
  · rwa [(decide_owner _ _ _).1,(decide_owner _ _ _).2.1]
  · rw [(decide_owner _ _ _).1,(decide_owner _ _ _).2.2,named] at key
    exact rows done tables attached row mem key

lemma touches_ackResponse (ack : Ack) (owned : own.records ack.tenantID ack.agentID)
    (found : ∀ cmd, st.responses.find? (·.responseID = ack.responseID) = some cmd → own.records cmd.tenantID cmd.agentID ∧
      (written → st.OwnsResponse own (orElse cmd.tenantID "default",ack.responseID)))
    (replaced : ∀ old, st.responseAcks.find? (·.responseID = ack.responseID) = some old → own.records old.tenantID old.agentID) :
    Touches own st (st.ackResponse now written ack).1 := by
  unfold ackResponse
  split
  · exact .refl st
  dsimp only
  split
  · exact .refl st
  rename_i cmd names
  obtain ⟨mine,rows⟩ := found cmd names
  have named : cmd.responseID = ack.responseID := by simpa using List.find?_some names
  refine Touches.trans ?_ (touches_writeThrough fun done tables attached => rowsTouched_upsertResponseAudit mine fun row mem key => ?_)
  · refine { Touches.refl st with responses := changesOnly_updateFirst ?_, responseAcks := changesOnly_upsert ?_ fun _ => owned }
    · exact fun old same => ⟨(found old same).1,mine⟩
    · exact fun old same => ⟨replaced old same,owned⟩
  · dsimp only at key
    rw [named] at key
    exact rows done tables attached row mem key

lemma responseRows_cases {responses : List Command} {row : ResponseAudit} (mem : row ∈ responseRows responses acks) :
    row.command ∈ responses ∧ row.command.responseID ≠ "" ∧
      row.ack = acks.reverse.find? fun ack => ack.responseID ≠ "" && ack.responseID = row.command.responseID := by
  obtain ⟨cmd,listed,rfl⟩ := List.mem_map.mp mem
  obtain ⟨there,named⟩ := List.mem_filter.mp listed
  exact ⟨there,by simpa using named,rfl⟩

lemma mem_responseRows {responses : List Command} (mem : cmd ∈ responses) (named : cmd.responseID ≠ "") (acks : List Ack) :
    ⟨cmd,acks.reverse.find? fun ack => ack.responseID ≠ "" && ack.responseID = cmd.responseID⟩ ∈ responseRows responses acks :=
  List.mem_map.mpr ⟨cmd,List.mem_filter.mpr ⟨mem,by simpa using named⟩,rfl⟩

/-- An acknowledgement changes the rows of its response only. -/
lemma responseRows_acked {ack : Ack} {responses : List Command} {acks : List Ack} {row : ResponseAudit} {id : String}
    (named : cmd.responseID = id) (acknowledged : ack.responseID = id)
    (mem : row ∈ responseRows (updateFirst (·.responseID = id) (fun _ => cmd) responses)
      (upsert (·.responseID = id) (fun _ => ack) ack acks)) :
    row.command.responseID = id ∧ (row.command ∈ responses ∨ row.command = cmd) ∨ row ∈ responseRows responses acks := by
  obtain ⟨listed,filled,acked⟩ := responseRows_cases mem
  have origin : row.command ∈ responses ∨ row.command = cmd := by
    rcases mem_updateFirst listed with kept | ⟨_,_,same⟩
    · exact .inl kept
    · exact .inr same
  by_cases same : row.command.responseID = id
  · exact .inl ⟨same,origin⟩
  have kept : row.command ∈ responses := origin.resolve_right fun equal => same (equal ▸ named)
  have again := mem_responseRows kept filled acks
  rw [← List.head?_filter,List.filter_reverse] at again acked
  rw [filter_upsert (by grind) (by grind) (by grind)] at acked
  exact .inr (by rwa [← acked] at again)

lemma moves_ackResponse (ack : Ack) (owned : own.records ack.tenantID ack.agentID)
    (found : ∀ cmd ∈ st.responses, cmd.responseID = ack.responseID → own.records cmd.tenantID cmd.agentID)
    (replaced : ∀ old, st.responseAcks.find? (·.responseID = ack.responseID) = some old → own.records old.tenantID old.agentID)
    (mirrored : ∀ tables ∈ st.backend, st.Mirrored own tables) : OwnerStep own st (st.ackResponse now written ack).1 := by
  by_cases blank : ack.responseID = ""
  · simp only [ackResponse,blank,if_true]
    exact .refl st
  have rows (cmd : Command) (mem : cmd ∈ st.responses) (named : cmd.responseID = ack.responseID) :
      st.OwnsResponse own (orElse cmd.tenantID "default",ack.responseID) := by
    intro tables attached row stored key
    refine (mirrored tables attached).responses.2 _
      (List.mem_append_left _ (mem_responseRows mem (named ▸ blank) st.responseAcks)) (found cmd mem named) row stored ?_
    rw [key,← named]
    rfl
  refine ⟨touches_ackResponse now written ack owned (fun cmd first => ?_) replaced,fun _ => ?_⟩
  · have mem := List.mem_of_find?_eq_some first
    have named : cmd.responseID = ack.responseID := by simpa using List.find?_some first
    exact ⟨found cmd mem named,fun _ => rows cmd mem named⟩
  unfold ackResponse
  rw [if_neg blank]
  dsimp only
  split
  · exact mirrored
  rename_i cmd first
  have mem := List.mem_of_find?_eq_some first
  have named : cmd.responseID = ack.responseID := by simpa using List.find?_some first
  -- first memory, then the row that is written through
  have memory : ∀ tables ∈ st.backend, Mirrored own { st with
      responses := updateFirst (·.responseID = ack.responseID) (fun _ => { cmd with
        status := "acked", updatedAt := ack.observedAt.or (some now) }) st.responses
      responseAcks := upsert (·.responseID = ack.responseID) (fun _ => { ack with observedAt := ack.observedAt.or (some now) })
        { ack with observedAt := ack.observedAt.or (some now) } st.responseAcks } tables := by
    intro tables attached
    refine { mirrored tables attached with responses := (mirrored tables attached).responses.extend fun row listed => ?_ }
    rcases responseRows_acked (by exact named) (by rfl) listed with ⟨same,origin⟩ | kept
    · refine .inr ?_
      rcases origin with there | here
      · refine ⟨found row.command there same,fun stored listed key => rows row.command there same tables attached stored listed ?_⟩
        exact key.trans (Prod.ext rfl same)
      · refine ⟨?_,fun stored listed key => rows cmd mem named tables attached stored listed ?_⟩
        · rw [here]
          exact found cmd mem named
        · rw [key,responseKey,here]
          exact Prod.ext rfl named
    · exact .inl kept
  unfold writeThrough
  split
  · intro tables' attached'
    obtain ⟨tables,attached,rfl⟩ := Option.map_eq_some_iff.mp attached'
    unfold Tables.upsertResponseAudit
    rw [if_neg (by exact fun empty => blank (named.symm.trans empty))]
    refine { memory tables attached with responses := (memory tables attached).responses.write (found cmd mem named) ?_ }
    exact fun stored listed key => rows cmd mem named tables attached stored listed (key.trans (Prod.ext rfl named))
  · exact memory

/-! Pullbacks and the evidence of incidents. -/

lemma touches_createEvidencePullback (req : EvidencePullbackRequest)
    (owned : own.records (orElse req.tenantID "default") req.agentID)
    (replaced : ∀ old, st.pullbacks.find? (·.requestID = (normalizeEvidencePullback now req).requestID) = some old →
      own.records old.tenantID old.agentID) : Touches own st (st.createEvidencePullback now req).1 := by
  unfold createEvidencePullback
  dsimp only
  have written found : own.records ((normalizeEvidencePullback now req).replacing found).tenantID
      ((normalizeEvidencePullback now req).replacing found).agentID := by
    cases found <;> exact owned
  exact { Touches.refl st with
          pullbacks := changesOnly_upsert (fun old found => ⟨replaced old found,written _⟩) fun _ => written _ }

lemma moves_completeEvidencePullback (result : EvidencePullbackResult)
    (found : ∀ req, st.pullbacks.find? (namesPullback result.requestID result.tenantID result.agentID) = some req →
      own.records req.tenantID req.agentID) : OwnerStep own st (st.completeEvidencePullback now result).1 := by
  unfold completeEvidencePullback
  split
  · exact .refl st
  dsimp only
  split
  · exact .refl st
  rename_i req names
  refine ⟨{ Touches.refl st with pullbacks := changesOnly_updateFirst fun old same => ⟨found old same,found req names⟩ },
    fun mirrored tables attached => ?_⟩
  refine { mirrored tables attached with pullbacks := (mirrored tables attached).pullbacks.extend fun row mem => ?_ }
  refine (mem_updateFirst mem).imp_right ?_
  rintro ⟨_,_,rfl⟩
  exact ⟨found req names,(mirrored tables attached).pullbacks.2 req (List.mem_append_left _ (List.mem_of_find?_eq_some names))
    (found req names)⟩

lemma moves_attachIncidentEvidence (id : String) (labels : Labels) (evidence : EvidenceSubgraph)
    (found : ∀ inc, st.incidents.find? (namesIncident id labels) = some inc →
      own.incidents inc ∧ own.incidents { inc with evidence := some (mergeEvidence inc.evidence evidence) }) :
    OwnerStep own st (st.attachIncidentEvidence id labels evidence).1 := by
  unfold attachIncidentEvidence
  split
  · exact .refl st
  split
  · exact .refl st
  · rename_i inc names
    refine ⟨{ Touches.refl st with incidents := changesOnly_updateFirst fun old same => ⟨(found old same).1,(found inc names).2⟩ },
      fun mirrored tables attached => { mirrored tables attached with }⟩

/-! Control commands. -/

def KeepsCommand (update : ControlCommand → ControlCommand) : Prop :=
  ∀ cmd, (update cmd).tenantID = cmd.tenantID ∧ (update cmd).agentID = cmd.agentID ∧ (update cmd).commandID = cmd.commandID

lemma keepsCommand_markSent (sentAt : Int) : KeepsCommand (·.markSent sentAt) := fun _ => ⟨rfl,rfl,rfl⟩

lemma keepsCommand_ack (ack : ControlCommandAck) : KeepsCommand (applyControlCommandAck now ack) := by
  intro cmd
  unfold applyControlCommandAck
  dsimp only
  split
  · exact ⟨rfl,rfl,rfl⟩
  · split <;> exact ⟨rfl,rfl,rfl⟩

lemma keepsCommand_cancel : KeepsCommand (·.cancel now actor reason) := by
  intro cmd
  unfold cancel
  dsimp only
  split <;> exact ⟨rfl,rfl,rfl⟩

lemma keepsCommand_retry : KeepsCommand (·.retry now actor reason) := by
  intro cmd
  unfold retry
  dsimp only
  split <;> exact ⟨rfl,rfl,rfl⟩

lemma keepsCommand_expire : KeepsCommand (·.expire now reason) := by
  intro cmd
  unfold expire
  dsimp only
  split <;> exact ⟨rfl,rfl,rfl⟩

lemma touches_createControlCommand (cmd : ControlCommand) (owned : own.records (orElse cmd.tenantID "default") cmd.agentID)
    (replaced : ∀ old, st.controlCommands.find? (·.commandID = (normalizeControlCommand now cmd).commandID) = some old →
      own.records old.tenantID old.agentID) : Touches own st (st.createControlCommand now cmd).1 := by
  unfold createControlCommand
  dsimp only
  have written found : own.records ((normalizeControlCommand now cmd).replacing found).tenantID
      ((normalizeControlCommand now cmd).replacing found).agentID := by
    cases found <;> exact owned
  exact { Touches.refl st with
          controlCommands := changesOnly_upsert (fun old found => ⟨replaced old found,written _⟩) fun _ => written _ }

/-- The command that an update takes from the list when memory has none. -/
def Store.listedCommand (st : Store) (readable : Bool) (commandID tenantID agentID : String) : Option ControlCommand :=
  match st.controlCommands.find? (namesCommand commandID tenantID agentID) with
  | some _ => none
  | none => (st.listControlCommands readable tenantID agentID "").find? (·.commandID = commandID)

/-- Whether the commands that an update finds, and those it replaces, are owned: the first match in
memory, or else the listed one and the copy in memory of its id and tenant. -/
def Store.resolvesCommand (st : Store) (readable : Bool) (commandID tenantID agentID : String)
    (owns : String → String → Bool) : Bool :=
  commandID = "" ||
  (st.controlCommands.find? (namesCommand commandID tenantID agentID)).all (fun cmd => owns cmd.tenantID cmd.agentID) &&
    (st.listedCommand readable commandID tenantID agentID).all fun cmd =>
      owns cmd.tenantID cmd.agentID && (st.controlCommands.find? (sameSnapshot cmd)).all fun old => owns old.tenantID old.agentID

lemma KeepsCommand.key (keeps : KeepsCommand update) (cmd : ControlCommand) : commandKey (update cmd) = commandKey cmd := by
  simp only [commandKey,keeps cmd]

lemma KeepsCommand.snapshot (keeps : KeepsCommand update) (cmd : ControlCommand) :
    sameSnapshot (update cmd) = sameSnapshot cmd := by
  funext existing
  simp only [sameSnapshot,keeps cmd]

/-- A listed command is a row of the database: one in memory would have been found there. -/
lemma listedCommand_stored {cmd : ControlCommand} (found : st.listedCommand readable commandID tenantID agentID = some cmd) :
    cmd.commandID = commandID ∧ ∃ tables ∈ st.backend, cmd ∈ tables.controlCommands := by
  simp only [listedCommand] at found
  split at found
  · cases found
  rename_i missing
  have named : cmd.commandID = commandID := by simpa using List.find?_some found
  have listed := List.mem_of_find?_eq_some found
  simp only [listControlCommands] at listed
  split at listed
  · rename_i tables stored
    simp only [List.mem_insertionSort,List.mem_filter] at listed
    exact ⟨named,tables,stored,listed.1⟩
  · simp only [List.mem_insertionSort,List.mem_filter,Bool.and_eq_true] at listed
    refine absurd ?_ (List.find?_eq_none.mp missing cmd listed.1)
    simpa [namesCommand,listed.2.1] using named

lemma updateControlCommand_cases :
    (st.updateControlCommand readable commandID tenantID agentID update).1 = st ∨ commandID ≠ "" ∧
      ((∃ old, st.controlCommands.find? (namesCommand commandID tenantID agentID) = some old ∧
        (st.updateControlCommand readable commandID tenantID agentID update).1 = { st with
          controlCommands := updateFirst (namesCommand commandID tenantID agentID) (fun _ => update old) st.controlCommands }) ∨
      ∃ cmd, st.listedCommand readable commandID tenantID agentID = some cmd ∧
        (st.updateControlCommand readable commandID tenantID agentID update).1 = { st with
          controlCommands := upsert (sameSnapshot (update cmd)) (fun _ => update cmd) (update cmd) st.controlCommands }) := by
  unfold updateControlCommand
  split
  · exact .inl rfl
  rename_i named
  split
  · rename_i old found
    exact .inr ⟨named,.inl ⟨old,found,rfl⟩⟩
  rename_i missing
  split
  · rename_i cmd found
    refine .inr ⟨named,.inr ⟨cmd,?_,rfl⟩⟩
    rw [listedCommand,missing]
    exact found
  · exact .inl rfl

lemma moves_updateControlCommand (keeps : KeepsCommand update)
    (owned : commandID ≠ "" → (∀ cmd, st.controlCommands.find? (namesCommand commandID tenantID agentID) = some cmd →
      own.records cmd.tenantID cmd.agentID) ∧ ∀ cmd, st.listedCommand readable commandID tenantID agentID = some cmd →
        own.records cmd.tenantID cmd.agentID ∧
        ∀ old, st.controlCommands.find? (sameSnapshot cmd) = some old → own.records old.tenantID old.agentID) :
    OwnerStep own st (st.updateControlCommand readable commandID tenantID agentID update).1 := by
  have written (cmd : ControlCommand) (owned : own.records cmd.tenantID cmd.agentID) :
      own.records (update cmd).tenantID (update cmd).agentID := by
    rwa [(keeps cmd).1,(keeps cmd).2.1]
  rcases updateControlCommand_cases readable commandID tenantID agentID with same | ⟨named,⟨cmd,names,same⟩ | ⟨cmd,names,same⟩⟩
  · rw [same]
    exact .refl st
  · rw [same]
    have mine := (owned named).1 cmd names
    refine ⟨{ Touches.refl st with
              controlCommands := changesOnly_updateFirst fun old first => ⟨(owned named).1 old first,written cmd mine⟩ },
      fun mirrored tables attached => ?_⟩
    refine { mirrored tables attached with controlCommands := (mirrored tables attached).controlCommands.extend fun row mem => ?_ }
    refine (mem_updateFirst mem).imp_right ?_
    rintro ⟨_,_,rfl⟩
    rw [keeps.key]
    exact ⟨written cmd mine,(mirrored tables attached).controlCommands.2 cmd
      (List.mem_append_left _ (List.mem_of_find?_eq_some names)) mine⟩
  · rw [same,keeps.snapshot]
    obtain ⟨mine,snapshot⟩ := (owned named).2 cmd names
    refine ⟨{ Touches.refl st with
              controlCommands := changesOnly_upsert (fun old first => ⟨snapshot old first,written cmd mine⟩) fun _ => written cmd mine },
      fun mirrored tables attached => ?_⟩
    obtain ⟨-,tables',attached',listed⟩ := listedCommand_stored readable commandID tenantID agentID names
    cases Option.mem_unique attached attached'
    refine { mirrored tables attached with controlCommands := (mirrored tables attached).controlCommands.extend fun row mem => ?_ }
    refine (mem_upsert_new mem).imp_right ?_
    rintro rfl
    rw [keeps.key]
    exact ⟨written cmd mine,(mirrored tables attached).controlCommands.2 cmd (List.mem_append_right _ listed) mine⟩

lemma moves_resolvedCommand {owns : String → String → Bool}
    (keeps : KeepsCommand update) (same : ∀ tenantID agentID, owns tenantID agentID → own.records tenantID agentID)
    (resolved : st.resolvesCommand readable commandID tenantID agentID owns) :
    OwnerStep own st (st.updateControlCommand readable commandID tenantID agentID update).1 := by
  refine moves_updateControlCommand readable commandID tenantID agentID keeps fun named => ?_
  simp only [resolvesCommand,named,decide_false,Bool.false_or,Bool.and_eq_true] at resolved
  refine ⟨fun cmd found => ?_,fun cmd found => ?_⟩
  · rw [found] at resolved
    exact same _ _ resolved.1
  rw [found] at resolved
  simp only [Option.all_some,Bool.and_eq_true] at resolved
  refine ⟨same _ _ resolved.2.1,fun old snapshot => ?_⟩
  rw [snapshot] at resolved
  exact same _ _ resolved.2.2

/-! Assignments. -/

lemma replacesAssignment_replacing {assignment : Assignment} {found : Option Assignment} :
    replacesAssignment (assignment.replacing found) = replacesAssignment assignment := by
  cases found <;> rfl

lemma touches_assignPolicy (assignment : Assignment)
    (owned : own.records (orElse assignment.tenantID "default") assignment.agentID)
    (replaced : ∀ policy, publishedPolicy st.policies (orElse assignment.tenantID "default") assignment.policyID
      assignment.policyVersion = some policy →
      ∀ old, st.assignments.find? (replacesAssignment (resolveAssignment digest now assignment policy)) = some old →
        own.records old.tenantID old.agentID)
    (rows : written → ∀ policy, publishedPolicy st.policies (orElse assignment.tenantID "default") assignment.policyID
      assignment.policyVersion = some policy → ∀ tables ∈ st.backend, ∀ row ∈ tables.assignments,
        assignmentRowKey row = (orElse assignment.tenantID "default",(resolveAssignment digest now assignment policy).assignmentID) →
          own.records row.tenantID row.agentID) : Touches own st (st.assignPolicy digest now written assignment).1 := by
  unfold assignPolicy
  split
  · exact .refl st
  split
  · exact .refl st
  · rename_i policy published
    dsimp only
    have recorded : ∀ found, own.records ((resolveAssignment digest now assignment policy).replacing found).tenantID
        ((resolveAssignment digest now assignment policy).replacing found).agentID := by
      intro found
      cases found <;> exact owned
    refine Touches.trans ?_ (touches_writeThrough fun done tables attached => ?_)
    · refine { Touches.refl st with assignments := changesOnly_upsert ?_ fun _ => recorded _ }
      rw [replacesAssignment_replacing]
      exact fun old found => ⟨replaced policy published old found,recorded _⟩
    · unfold Tables.upsertPolicyAssignment
      split
      · exact .refl tables
      refine { RowsTouched.refl tables with assignments := changesRows_write (recorded _) fun row mem key => ?_ }
      refine rows done policy published tables attached row mem (key.trans ?_)
      have tenant : orElse (orElse assignment.tenantID "default") "default" = orElse assignment.tenantID "default" := by grind [orElse]
      cases st.assignments.find? _ <;> exact Prod.ext tenant rfl

end SysArmor.Manager
