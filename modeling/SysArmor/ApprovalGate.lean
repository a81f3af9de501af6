import SysArmor.ResponseApi

/-! The approval gate over sequences of requests. Client-supplied approvals, acknowledgements of
commands that are not pending, and creating a denied command again go around it; without those,
nothing does. -/
namespace SysArmor.Manager
open GoText Proto Rows List

structure Covered (cmd : Command) (entry : LedgerEntry) : Prop where
  threshold : (thresholdOf entry.policy.approvalThreshold).toNat ≤ (thresholdOf cmd.approvalThreshold).toNat
  roles : ∀ role, roleAllowed cmd.approvalRoles role → roleAllowed entry.policy.approvalRoles role
  approvals : ∃ supplied, cmd.approvals = supplied ++ entry.approvals ∧
    ∀ approval ∈ supplied, approval.counts cmd.approvalRoles = false
  named : ∀ approval ∈ entry.approvals, trimSpace approval.actor ≠ ""
  delivered : cmd.status = "pending" ∨ cmd.status = "acked" → entry.satisfied

def Command.Settled (cmd : Command) : Prop := cmd.status ≠ "pending" ∧ cmd.awaitsApproval = false

structure Guarded (g : Gate) : Prop where
  distinct : (g.store.responses.map (·.responseID)).Nodup
  covered : ∀ cmd ∈ g.store.responses, ∃ entry ∈ g.entry cmd.responseID,
    entry.policy.approvalRequired → cmd.status = "denied" ∨ Covered cmd entry
  denied : ∀ cmd ∈ g.store.responses, cmd.responseID ∈ g.denied → cmd.Settled

lemma settled_of_denied {cmd : Command} (denied : cmd.status = "denied") : cmd.Settled := by
  simp [Command.Settled,Command.awaitsApproval,denied]

lemma Guarded.holds (guarded : Guarded g) : g.Holds := by
  intro cmd mem
  obtain ⟨entry,found,covered⟩ := guarded.covered cmd mem
  refine ⟨?_,?_⟩
  · intro delivered
    refine ⟨entry,found,?_⟩
    intro required
    rcases covered required with denied | covered
    · rw [denied] at delivered
      simp at delivered
    · exact covered.delivered delivered required
  · intro pending denied
    exact (guarded.denied cmd mem denied).1 pending

lemma settled_step {g : Gate} {call : Call} {request : Request}
    (nodup : ((g.step call request).store.responses.map (·.responseID)).Nodup)
    (earlier : ∀ cmd ∈ (g.step call request).store.responses, cmd.responseID ∈ g.denied → cmd.Settled) :
    ∀ cmd ∈ (g.step call request).store.responses, cmd.responseID ∈ (g.step call request).denied → cmd.Settled := by
  intro cmd mem denied
  rcases mem_append.mp denied with old | now
  · exact earlier cmd mem old
  obtain ⟨other,listed,same⟩ := mem_map.mp now
  obtain ⟨present,status⟩ := mem_filter.mp listed
  obtain rfl := inj_on_of_nodup_map nodup present mem same
  exact settled_of_denied (by simpa using status)

lemma thresholdOf_le (policy : ResponsePolicy) (cmd : Command) (required : policy.approvalRequired) :
    (thresholdOf policy.approvalThreshold).toNat ≤ (thresholdOf (applyPolicyRequirements cmd policy).approvalThreshold).toNat := by
  simp only [applyPolicyRequirements,required,if_true]
  split
  · exact le_rfl
  rename_i unset
  have zero : policy.approvalThreshold = 0 := by
    rw [← UInt32.toNat_inj]
    simpa [UInt32.lt_iff_toNat_lt] using unset
  have pos : ∀ threshold, 1 ≤ (thresholdOf threshold).toNat := by
    intro threshold
    unfold thresholdOf
    split
    · decide
    · rename_i nonzero
      exact Nat.one_le_iff_ne_zero.mpr fun same => nonzero (UInt32.toNat_inj.mp same)
  rw [zero]
  exact pos _

lemma roleAllowed_applied (policy : ResponsePolicy) (cmd : Command) (required : policy.approvalRequired)
    (allowed : roleAllowed (applyPolicyRequirements cmd policy).approvalRoles role) : roleAllowed policy.approvalRoles role := by
  simp only [applyPolicyRequirements,required,if_true] at allowed
  split at allowed
  · rename_i none
    simp [roleAllowed,none]
  · exact allowed

structure Asks (prepared : Prepared) : Prop where
  waits : prepared.command.status = "pending_approval"
  threshold : (thresholdOf prepared.policy.approvalThreshold).toNat ≤ (thresholdOf prepared.command.approvalThreshold).toNat
  roles : ∀ role, roleAllowed prepared.command.approvalRoles role → roleAllowed prepared.policy.approvalRoles role

lemma prepareUnder_asks (now : Int) (cmd : Command) (required : policy.approvalRequired) :
    (prepareUnder now policy cmd).command.status = "denied" ∨ Asks (prepareUnder now policy cmd) := by
  have guarded : (applyPolicyRequirements cmd policy).approvalRequired := by simp [applyPolicyRequirements,required]
  unfold prepareUnder
  dsimp only
  split
  · exact .inl rfl
  · exact .inr ⟨rfl,thresholdOf_le policy cmd required,fun _ allowed => roleAllowed_applied policy cmd required allowed⟩

lemma prepareUnder_policy (now : Int) (policy : ResponsePolicy) (cmd : Command) : (prepareUnder now policy cmd).policy = policy := by
  unfold prepareUnder
  dsimp only
  split
  · rfl
  · split <;> rfl

lemma creates_asks {st : Store} (recorded : st.creates call request = some prepared)
    (required : prepared.policy.approvalRequired) : prepared.command.status = "denied" ∨ Asks prepared := by
  unfold Store.creates at recorded
  split at recorded
  · cases recorded
  unfold Store.prepareResponse at recorded
  split at recorded
  · cases recorded
  dsimp only at recorded
  split at recorded
  · obtain rfl := Option.some.inj recorded
    exact .inl rfl
  obtain rfl := Option.some.inj recorded
  rw [prepareUnder_policy] at required
  exact prepareUnder_asks _ _ required

lemma normalizeCommand_status (now : Int) (cmd : Command) (present : cmd.status ≠ "") :
    (normalizeCommand now cmd).status = cmd.status := by
  simp [normalizeCommand,orElse,present]

lemma covered_created {prepared : Prepared} (asks : Asks prepared) (createdAt : Time)
    (plain : ∀ approval ∈ prepared.command.approvals, approval.counts prepared.command.approvalRoles = false) :
    Covered { normalizeCommand now prepared.command with createdAt } ⟨responseID,prepared.policy,[]⟩ where
  threshold := asks.threshold
  roles := asks.roles
  approvals := ⟨prepared.command.approvals,by simp [normalizeCommand],plain⟩
  named := by simp
  delivered := by
    have status : (normalizeCommand now prepared.command).status = "pending_approval" := by
      rw [normalizeCommand_status now _ (by simp [asks.waits]),asks.waits]
    simp [status]

lemma covered_decide (covered : Covered cmd entry) (awaits : cmd.awaitsApproval) (named : trimSpace approval.actor ≠ "")
    (open_ : (cmd.decide now approval).status ≠ "denied") :
    Covered (cmd.decide now approval) { entry with approvals := entry.approvals ++ [approval] } := by
  obtain ⟨_,threshold,roles,approvals,status⟩ := decide_spec cmd now approval
  obtain ⟨supplied,split,idle⟩ := covered.approvals
  have names : ∀ given ∈ entry.approvals ++ [approval], trimSpace given.actor ≠ "" := by
    intro given mem
    rcases mem_append.mp mem with mem | last
    · exact covered.named given mem
    · rwa [mem_singleton.mp last]
  refine ⟨threshold ▸ covered.threshold,?_,⟨supplied,by rw [approvals,split,append_assoc],by rwa [roles]⟩,names,?_⟩
  · intro role allowed
    exact covered.roles role (roles ▸ allowed)
  intro delivered required
  have waits : cmd.status = "pending_approval" := by
    simp only [Command.awaitsApproval,Bool.and_eq_true,decide_eq_true_eq] at awaits
    exact awaits.1.2
  have enough : thresholdOf cmd.approvalThreshold ≤ approvalCount cmd.approvalRoles (cmd.approvals ++ [approval]) := by
    rcases status with denied | unchanged | ⟨_,enough⟩
    · exact absurd denied open_
    · rw [unchanged,waits] at delivered
      simp at delivered
    · exact enough
  rw [split,append_assoc] at enough
  have counted : (approvalCount cmd.approvalRoles (supplied ++ (entry.approvals ++ [approval]))).toNat ≤
      (approvingActors cmd.approvalRoles (entry.approvals ++ [approval])).length := by
    rw [← approvingActors_append idle]
    apply approvalCount_le
    intro given mem counts
    rcases mem_append.mp mem with mem | mem
    · rw [idle given mem] at counts
      cases counts
    · exact names given mem
  calc (thresholdOf entry.policy.approvalThreshold).toNat
      ≤ (thresholdOf cmd.approvalThreshold).toNat := covered.threshold
    _ ≤ (approvalCount cmd.approvalRoles (supplied ++ (entry.approvals ++ [approval]))).toNat := UInt32.le_iff_toNat_le.mp enough
    _ ≤ (approvingActors cmd.approvalRoles (entry.approvals ++ [approval])).length := counted
    _ ≤ _ := approvingActors_length_mono covered.roles

section
variable (guarded : Guarded g)
include guarded

lemma Guarded.covered_other {ledger : List LedgerEntry} (mem : cmd ∈ g.store.responses)
    (same : ledger.find? (·.responseID = cmd.responseID) = g.ledger.find? (·.responseID = cmd.responseID)) :
    ∃ entry ∈ ledger.find? (·.responseID = cmd.responseID),
      entry.policy.approvalRequired → cmd.status = "denied" ∨ Covered cmd entry := by
  rw [same]
  exact guarded.covered cmd mem

lemma guarded_created (recorded : g.store.creates call request = some prepared) (allowed : g.allows call request)
    (stored : (g.step call request).store.responses = upsert (·.responseID = preparedID call prepared)
      (fun _ => { normalizeCommand call.now prepared.command with createdAt })
      { normalizeCommand call.now prepared.command with createdAt } g.store.responses)
    (entered : (g.step call request).ledger = ⟨preparedID call prepared,prepared.policy,[]⟩ :: g.ledger) :
    Guarded (g.step call request) := by
  simp only [Gate.allows,recorded,Option.all_some,Bool.and_eq_true,Bool.or_eq_true,Bool.not_eq_true',decide_eq_true_eq] at allowed
  obtain ⟨⟨plain,fresh⟩,_⟩ := allowed
  have nodup : ((g.step call request).store.responses.map (·.responseID)).Nodup := by
    rw [stored]
    exact upsert_map_nodup (fun _ _ _ => rfl) rfl guarded.distinct
  have rows : ∀ cmd ∈ (g.step call request).store.responses,
      (cmd ∈ g.store.responses ∧ cmd.responseID ≠ preparedID call prepared) ∨
        cmd = { normalizeCommand call.now prepared.command with createdAt } := by
    intro cmd mem
    rw [stored] at mem
    rcases mem_upsert_key guarded.distinct mem with kept | ⟨_,_,_,rfl⟩ | rfl
    · exact .inl kept
    · exact .inr rfl
    · exact .inr rfl
  refine ⟨nodup,?_,settled_step nodup ?_⟩
  · intro cmd mem
    rw [Gate.entry,entered]
    rcases rows cmd mem with ⟨kept,other⟩ | rfl
    · apply guarded.covered_other kept
      rw [find?_cons_of_neg (by simpa using other.symm)]
    refine ⟨_,find?_cons_of_pos (by simp [preparedID]),?_⟩
    intro required
    rcases creates_asks recorded required with denied | asks
    · refine .inl ?_
      rw [normalizeCommand_status call.now _ (by simp [denied]),denied]
    refine .inr (covered_created asks createdAt ?_)
    rcases plain with unguarded | plain
    · rw [required] at unguarded
      cases unguarded
    · simpa using plain
  · intro cmd mem denied
    rcases rows cmd mem with ⟨kept,_⟩ | rfl
    · exact guarded.denied cmd kept denied
    · exact absurd denied fresh

lemma guarded_decided {principal : Principal} (named : ∀ other, hit other → other.responseID = cmd.responseID)
    (found : g.store.responses.find? hit = some cmd) (awaits : cmd.awaitsApproval) (actor : approval.actor = principal.subject)
    (stored : (g.step call request).store.responses = updateFirst hit (fun _ => cmd.decide call.now approval) g.store.responses)
    (entered : (g.step call request).ledger = updateFirst (·.responseID = cmd.responseID)
      (fun entry => { entry with approvals := entry.approvals ++ [approval] }) g.ledger) : Guarded (g.step call request) := by
  have present := mem_of_find?_eq_some found
  have sameID := (decide_spec cmd call.now approval).1
  have nodup : ((g.step call request).store.responses.map (·.responseID)).Nodup := by
    rw [stored,updateFirst_map (·.responseID) fun other _ hits => sameID.trans (named other hits).symm]
    exact guarded.distinct
  have rows : ∀ other ∈ (g.step call request).store.responses,
      (other ∈ g.store.responses ∧ other.responseID ≠ cmd.responseID) ∨ other = cmd.decide call.now approval := by
    intro other mem
    rw [stored] at mem
    exact mem_updateFirst_key found guarded.distinct mem
  have waits : cmd.status = "pending_approval" := by
    simp only [Command.awaitsApproval,Bool.and_eq_true,decide_eq_true_eq] at awaits
    exact awaits.1.2
  refine ⟨nodup,?_,settled_step nodup ?_⟩
  · intro other mem
    rw [Gate.entry,entered]
    rcases rows other mem with ⟨kept,ne⟩ | rfl
    · apply guarded.covered_other kept
      apply find?_updateFirst_other _ ne
      exact fun _ same => same
    obtain ⟨entry,listed,covered⟩ := guarded.covered cmd present
    rw [sameID]
    refine ⟨_,find?_updateFirst_same listed ?_,?_⟩
    · exact of_decide_eq_true (find?_some listed :)
    intro required
    rcases covered required with denied | covered
    · rw [waits] at denied
      simp at denied
    by_cases denied : (cmd.decide call.now approval).status = "denied"
    · exact .inl denied
    · refine .inr (covered_decide covered awaits ?_ denied)
      rw [actor,principal.named.1]
      exact principal.named.2
  · intro other mem denied
    rcases rows other mem with ⟨kept,_⟩ | rfl
    · exact guarded.denied other kept denied
    -- a command of a denied id does not await approval
    have settled := guarded.denied cmd present (sameID ▸ denied)
    rw [settled.2] at awaits
    cases awaits

lemma guarded_acknowledged {ack : Ack} (allowed : g.allows call request)
    (reached : acknowledged call request = some ack) (found : g.store.responses.find? (·.responseID = ack.responseID) = some cmd)
    (stored : (g.step call request).store.responses = updateFirst (·.responseID = ack.responseID)
      (fun _ => { cmd with status := "acked", updatedAt }) g.store.responses)
    (kept : (g.step call request).ledger = g.ledger) : Guarded (g.step call request) := by
  have named : cmd.responseID = ack.responseID := by simpa using find?_some found
  have present := mem_of_find?_eq_some found
  have nodup : ((g.step call request).store.responses.map (·.responseID)).Nodup := by
    rw [stored,updateFirst_map]
    · exact guarded.distinct
    · exact fun other _ hits => named.trans (of_decide_eq_true hits).symm
  have rows : ∀ other ∈ (g.step call request).store.responses,
      other ∈ g.store.responses ∨ other = { cmd with status := "acked", updatedAt } := by
    intro other mem
    rw [stored] at mem
    rcases mem_updateFirst_key found guarded.distinct mem with ⟨kept,_⟩ | changed
    · exact .inl kept
    · exact .inr changed
  refine ⟨nodup,?_,settled_step nodup ?_⟩
  · intro other mem
    rw [Gate.entry,kept]
    rcases rows other mem with old | rfl
    · exact guarded.covered other old
    obtain ⟨entry,listed,covered⟩ := guarded.covered cmd present
    refine ⟨entry,listed,?_⟩
    intro required
    have delivered : cmd.status = "pending" ∨ cmd.status = "acked" := by
      simp only [Gate.allows,reached,Option.all_some,found,Option.mem_def.mp listed,required,Bool.and_eq_true,
        Bool.or_eq_true,decide_eq_true_eq,Bool.not_true,Bool.false_eq_true,or_false] at allowed
      exact allowed.2
    rcases covered required with denied | covered
    · rw [denied] at delivered
      simp at delivered
    · exact .inr { covered with delivered := fun _ => covered.delivered delivered }
  · intro other mem denied
    rcases rows other mem with old | rfl
    · exact guarded.denied other old denied
    · simp [Command.Settled,Command.awaitsApproval]

lemma guarded_step (allowed : g.allows call request) : Guarded (g.step call request) := by
  cases step_outcome g call request with
  | idle same kept =>
    have nodup : ((g.step call request).store.responses.map (·.responseID)).Nodup := same ▸ guarded.distinct
    refine ⟨nodup,?_,settled_step nodup ?_⟩
    · rw [same]
      intro cmd mem
      rw [Gate.entry,kept]
      exact guarded.covered cmd mem
    · rw [same]
      exact guarded.denied
  | created prepared createdAt recorded stored entered => exact guarded_created guarded recorded allowed stored entered
  | decided hit cmd principal approval named found awaits actor stored entered =>
    exact guarded_decided guarded named found awaits actor stored entered
  | acknowledged ack cmd updatedAt reached found stored kept =>
    exact guarded_acknowledged guarded allowed reached found stored kept

end

/-- From a store without commands, over every sequence of create, decide, approve, deny and
acknowledge requests that all meet the condition, the gate holds in every state reached. -/
theorem commands_delivered_after_approval (st : Store) (empty : st.responses = []) (requests : List (Call × Request))
    (allowed : Gate.allowsAll ⟨st,[],[]⟩ requests) : (Gate.run ⟨st,[],[]⟩ requests).Holds := by
  suffices guarded : ∀ g : Gate, Guarded g → g.allowsAll requests → Guarded (g.run requests) by
    apply (guarded ⟨st,[],[]⟩ _ allowed).holds
    exact ⟨by simp [empty],by simp [empty],by simp⟩
  clear allowed
  induction requests with
  | nil => exact fun g guarded _ => guarded
  | cons head rest ih =>
    intro g guarded allowed
    simp only [Gate.allowsAll,Bool.and_eq_true] at allowed
    exact ih _ (guarded_step guarded allowed.1) allowed.2

def operatorNamed (subject : String) (named : trimSpace subject = subject ∧ subject ≠ "") : Principal where
  subject
  roles := ["operator"]
  named
  recognized := ⟨by simp,by simp⟩

def alice : Call where
  principal := some (operatorNamed "alice" (by decide +kernel))

def bob : Call where
  principal := some (operatorNamed "bob" (by decide +kernel))

def guardedStore : Store where
  policies := [{ policyID := "guarded", version := 1, tenantID := "red", published := true
                 response := { allowedActions := ["collect"], approvalRequired := true, approvalThreshold := 2
                               approvalRoles := ["operator"] } }]
  assignments := [{ assignmentID := "all", tenantID := "red", policyID := "guarded", policyVersion := 1 }]

def collectFrom (approvals : List Approval) : Request :=
  .create { responseID := "resp-1", tenantID := "red", agentID := "agent-1", action := "collect", approvals }

def approveFirst : Request := .approve { responseID := "resp-1", tenantID := "red", approved := true }

theorem approved_by_two_holds :
    ((Gate.run ⟨guardedStore,[],[]⟩ [(alice,collectFrom []),(alice,approveFirst),(alice,approveFirst),(bob,approveFirst),
      (alice,.report { responseID := "resp-1" })]).store.responses.map (·.status) = ["acked"]) ∧
    (Gate.run ⟨guardedStore,[],[]⟩ [(alice,collectFrom []),(alice,approveFirst),(alice,approveFirst),(bob,approveFirst),
      (alice,.report { responseID := "resp-1" })]).Holds :=
  ⟨by decide +kernel,commands_delivered_after_approval guardedStore rfl _ (by decide +kernel)⟩

/-- One operator creates the command with an approval of somebody else on it, and approves it once. -/
theorem approved_by_one_delivered :
    ¬ (Gate.run ⟨guardedStore,[],[]⟩ [(alice,collectFrom [{ actor := "carol", role := "operator", approved := true }]),
      (alice,approveFirst)]).Holds := by
  decide +kernel

end SysArmor.Manager
