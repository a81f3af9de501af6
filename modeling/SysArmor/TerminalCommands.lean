import SysArmor.OwnedChanges

/-! What the operations on control commands do to commands that have reached a terminal status, in memory
or in the database. -/
namespace SysArmor.Manager
open Rows

structure CommandOutcome where
  (status error ackStatus ackMessage ackPolicyID : String)
  ackPolicyVer : UInt64
  ackReportJSON : String
  deriving DecidableEq

def ControlCommand.outcome (cmd : ControlCommand) : CommandOutcome where
  status := cmd.status
  error := cmd.error
  ackStatus := cmd.ackStatus
  ackMessage := cmd.ackMessage
  ackPolicyID := cmd.ackPolicyID
  ackPolicyVer := cmd.ackPolicyVer
  ackReportJSON := cmd.ackReportJSON

def KeepsTerminal (before after : List ControlCommand) : Prop :=
  ∀ (place : Nat) (cmd : ControlCommand), before[place]? = some cmd → controlCommandTerminalStatus cmd.status = true →
    ∃ kept, after[place]? = some kept ∧ kept.outcome = cmd.outcome

lemma KeepsTerminal.refl (rows : List ControlCommand) : KeepsTerminal rows rows :=
  fun _ cmd here _ => ⟨cmd,here,rfl⟩

lemma KeepsTerminal.trans (first : KeepsTerminal old between) (second : KeepsTerminal between after) :
    KeepsTerminal old after := by
  intro place cmd here terminal
  obtain ⟨middle,there,same⟩ := first place cmd here terminal
  have status : middle.status = cmd.status := congrArg CommandOutcome.status same
  obtain ⟨kept,last,equal⟩ := second place middle there (by rw [status]; exact terminal)
  exact ⟨kept,last,equal.trans same⟩

lemma keepsTerminal_append {rows : List ControlCommand} : KeepsTerminal rows (rows ++ [cmd]) := by
  intro place old here _
  have inside : place < rows.length := (List.getElem?_eq_some_iff.mp here).1
  exact ⟨old,by rw [List.getElem?_append_left inside]; exact here,rfl⟩

lemma keepsTerminal_updateFirst {hit : ControlCommand → Bool} (found : rows.find? hit = some old) :
    KeepsTerminal rows (updateFirst hit change rows) ↔
      (controlCommandTerminalStatus old.status = true → (change old).outcome = old.outcome) := by
  obtain ⟨place,-,here,updated⟩ := getElem?_updateFirst found change
  constructor
  · intro keeps terminal
    obtain ⟨kept,there,same⟩ := keeps place old here terminal
    rw [updated,if_pos rfl] at there
    cases there
    exact same
  · intro keeps other cmd listed terminal
    rw [updated]
    split
    · rename_i same
      subst same
      cases here.symm.trans listed
      exact ⟨_,rfl,keeps terminal⟩
    · exact ⟨cmd,listed,rfl⟩

/-- The copies of a stored command have its status and result. -/
def ControlCommand.AgreesWith (row : ControlCommand) (copies : List ControlCommand) : Prop :=
  ∀ copy ∈ copies, commandKey copy = commandKey row → copy.outcome = row.outcome

/-- No copy of a terminal row of the database starts to differ from it. -/
def KeepsStored (stored before after : List ControlCommand) : Prop :=
  ∀ row ∈ stored, controlCommandTerminalStatus row.status = true → row.AgreesWith before → row.AgreesWith after

lemma keepsStored_of_mem {stored before after : List ControlCommand}
    (fresh : ∀ copy ∈ after, copy ∈ before ∨ ∀ row ∈ stored, controlCommandTerminalStatus row.status = true →
      row.AgreesWith before → commandKey copy = commandKey row → copy.outcome = row.outcome) : KeepsStored stored before after := by
  intro row mem terminal agrees copy there same
  rcases fresh copy there with kept | new
  · exact agrees copy kept same
  · exact new row mem terminal agrees same

/-- What is kept of the terminal commands of memory, and of those of the database. -/
def KeepsCommands (backend : Option Tables) (before after : List ControlCommand) : Prop :=
  KeepsTerminal before after ∧ ∀ tables ∈ backend, KeepsStored tables.controlCommands before after

lemma KeepsCommands.trans {backend : Option Tables} (first : KeepsCommands backend old between)
    (second : KeepsCommands backend between after) : KeepsCommands backend old after :=
  And.intro (first.1.trans second.1) fun tables stored row mem terminal agrees =>
    second.2 tables stored row mem terminal (first.2 tables stored row mem terminal agrees)

structure ControlCommandAck.Repeats (ack : ControlCommandAck) (cmd : ControlCommand) : Prop where
  ackStatus : ack.status = cmd.ackStatus
  message : ack.message = cmd.ackMessage
  policyID : ack.policyID = cmd.ackPolicyID
  policyVersion : ack.policyVersion = cmd.ackPolicyVer
  reportJSON : ack.reportJSON = cmd.ackReportJSON
  status : cmd.status =
    if orElse ack.status "applied" ∈ ["applied","accepted","validated","degraded"] then "applied" else orElse ack.status "applied"
  error : cmd.status = "rejected" ∨ cmd.status = "failed" → ack.message = cmd.error

variable {cmd : ControlCommand} {agentID commandID tenantID : String} {readable : Bool} {st : Store}
variable {update : ControlCommand → ControlCommand}

lemma applyControlCommandAck_outcome {now : Int} {ack : ControlCommandAck} :
    (applyControlCommandAck now ack cmd).outcome = cmd.outcome ↔ ack.Repeats cmd := by
  generalize result : orElse ack.status "applied" = status
  have shape : ack.Repeats cmd ↔ ack.status = cmd.ackStatus ∧ ack.message = cmd.ackMessage ∧ ack.policyID = cmd.ackPolicyID ∧
      ack.policyVersion = cmd.ackPolicyVer ∧ ack.reportJSON = cmd.ackReportJSON ∧
      cmd.status = (if status ∈ ["applied","accepted","validated","degraded"] then "applied" else status) ∧
      (cmd.status = "rejected" ∨ cmd.status = "failed" → ack.message = cmd.error) :=
    ⟨fun r => ⟨r.ackStatus,r.message,r.policyID,r.policyVersion,r.reportJSON,result ▸ r.status,r.error⟩,
      fun ⟨a,b,c,d,e,f,g⟩ => ⟨a,b,c,d,e,result ▸ f,g⟩⟩
  rw [shape]
  simp only [applyControlCommandAck,result]
  split
  · simp only [ControlCommand.outcome,CommandOutcome.mk.injEq]
    constructor
    · rintro ⟨same,-,a,b,c,d,e⟩
      exact ⟨a,b,c,d,e,same.symm,by simp [← same]⟩
    · rintro ⟨a,b,c,d,e,same,-⟩
      exact ⟨same.symm,trivial,a,b,c,d,e⟩
  · split
    · rename_i refused
      simp only [ControlCommand.outcome,CommandOutcome.mk.injEq]
      constructor
      · rintro ⟨same,message,a,b,c,d,e⟩
        exact ⟨a,b,c,d,e,same.symm,fun _ => message⟩
      · rintro ⟨a,b,c,d,e,same,message⟩
        exact ⟨same.symm,message (by simpa [same] using refused),a,b,c,d,e⟩
    · rename_i other
      simp only [ControlCommand.outcome,CommandOutcome.mk.injEq]
      constructor
      · rintro ⟨same,-,a,b,c,d,e⟩
        refine ⟨a,b,c,d,e,same.symm,fun refused => ?_⟩
        rw [← same] at refused
        exact absurd (by simpa using refused) other
      · rintro ⟨a,b,c,d,e,same,-⟩
        exact ⟨same.symm,trivial,a,b,c,d,e⟩

inductive CommandStep where
  | create (cmd : ControlCommand)
  | markSent (commandID tenantID agentID : String) (sentAt : Int)
  | acknowledge (ack : ControlCommandAck)
  | cancel (commandID tenantID agentID actor reason : String)
  | expire (commandID tenantID agentID reason : String)

def CommandStep.operation : CommandStep → Operation
  | .create cmd => .createControlCommand cmd
  | .markSent commandID tenantID agentID sentAt => .markControlCommandSent commandID tenantID agentID sentAt
  | .acknowledge ack => .ackControlCommand ack
  | .cancel commandID tenantID agentID actor reason => .cancelControlCommand commandID tenantID agentID actor reason
  | .expire commandID tenantID agentID reason => .expireControlCommand commandID tenantID agentID reason

def Store.ListedOver (st : Store) (readable : Bool) (commandID tenantID agentID : String) : Prop :=
  ∀ cmd, st.listedCommand readable commandID tenantID agentID = some cmd →
    ∀ old, st.controlCommands.find? (sameSnapshot cmd) = some old → controlCommandTerminalStatus old.status = false

def Store.Spares (st : Store) (calls : Calls) : CommandStep → Prop
  | .create cmd =>
    let cmd := normalizeControlCommand calls.now cmd
    (∀ old, st.controlCommands.find? (·.commandID = cmd.commandID) = some old →
      controlCommandTerminalStatus old.status = true → cmd.outcome = old.outcome) ∧
    ∀ tables ∈ st.backend, ∀ row ∈ tables.controlCommands, commandKey row = commandKey cmd →
      controlCommandTerminalStatus row.status = true → cmd.outcome = row.outcome
  | .acknowledge ack => ack.commandID ≠ "" →
    (∀ old, st.controlCommands.find? (namesCommand ack.commandID ack.tenantID ack.agentID) = some old →
      controlCommandTerminalStatus old.status = true → ack.Repeats old) ∧
      (∀ cmd, st.listedCommand calls.readable ack.commandID ack.tenantID ack.agentID = some cmd →
        controlCommandTerminalStatus cmd.status = true → ack.Repeats cmd) ∧
      st.ListedOver calls.readable ack.commandID ack.tenantID ack.agentID
  | .markSent commandID tenantID agentID _ => commandID ≠ "" → st.ListedOver calls.readable commandID tenantID agentID
  | .cancel commandID tenantID agentID _ _ => commandID ≠ "" → st.ListedOver calls.readable commandID tenantID agentID
  | .expire commandID tenantID agentID _ => commandID ≠ "" → st.ListedOver calls.readable commandID tenantID agentID

lemma updateControlCommand_keeps (keeps : KeepsCommand update)
    (keyed : ∀ tables ∈ st.backend, (tables.controlCommands.map commandKey).Nodup)
    (same : ∀ old, commandID ≠ "" → (st.controlCommands.find? (namesCommand commandID tenantID agentID) = some old ∨
        st.listedCommand readable commandID tenantID agentID = some old) →
      controlCommandTerminalStatus old.status = true → (update old).outcome = old.outcome)
    (listed : commandID ≠ "" → st.ListedOver readable commandID tenantID agentID) :
    KeepsCommands st.backend st.controlCommands
      (st.updateControlCommand readable commandID tenantID agentID update).1.controlCommands := by
  rcases updateControlCommand_cases readable commandID tenantID agentID with
    unchanged | ⟨named,⟨old,found,changed⟩ | ⟨cmd,found,changed⟩⟩
  · rw [unchanged]
    exact And.intro (.refl _) fun _ _ _ _ _ agrees => agrees
  · rw [changed]
    refine And.intro ((keepsTerminal_updateFirst found).mpr (same old named (.inl found))) fun tables stored => ?_
    refine keepsStored_of_mem fun copy there => (mem_updateFirst there).imp_right ?_
    rintro ⟨first,here,rfl⟩ row - terminal agrees key
    cases found.symm.trans here
    have equal := agrees old (List.mem_of_find?_eq_some found) ((keeps.key old).symm.trans key)
    have status : old.status = row.status := congrArg CommandOutcome.status equal
    exact (same old named (.inl found) (status ▸ terminal)).trans equal
  rw [changed]
  refine And.intro ?_ fun tables stored => ?_
  · rw [keeps.snapshot]
    dsimp only
    cases snap : st.controlCommands.find? (sameSnapshot cmd) with
    | none =>
      rw [upsert_of_find?_none snap]
      exact keepsTerminal_append
    | some old =>
      rw [upsert_of_find? snap]
      refine (keepsTerminal_updateFirst snap).mpr fun terminal => ?_
      rw [listed named cmd found old snap] at terminal
      cases terminal
  · refine keepsStored_of_mem fun copy there => (mem_upsert_new there).imp_right ?_
    -- the row of the database with the command's key is the listed command itself
    rintro rfl row mem terminal - key
    obtain ⟨-,tables',stored',listedRow⟩ := listedCommand_stored _ _ _ _ found
    cases Option.mem_unique stored stored'
    have one : cmd = row := List.inj_on_of_nodup_map (keyed tables stored) listedRow mem ((keeps.key cmd).symm.trans key)
    subst one
    exact same cmd named (.inr found) terminal

lemma markSent_outcome {sentAt : Int} (terminal : controlCommandTerminalStatus cmd.status = true) :
    (cmd.markSent sentAt).outcome = cmd.outcome := by
  simp [ControlCommand.markSent,ControlCommand.outcome,terminal]

lemma replacing_outcome : (cmd.replacing existing).outcome = cmd.outcome := by
  cases existing <;> rfl

lemma createControlCommand_keeps {now : Int} :
    KeepsTerminal st.controlCommands (st.createControlCommand now cmd).1.controlCommands ↔
      ∀ old, st.controlCommands.find? (·.commandID = (normalizeControlCommand now cmd).commandID) = some old →
        controlCommandTerminalStatus old.status = true → (normalizeControlCommand now cmd).outcome = old.outcome := by
  simp only [Store.createControlCommand]
  generalize normalizeControlCommand now cmd = created
  cases found : st.controlCommands.find? (·.commandID = created.commandID) with
  | none =>
    rw [upsert_of_find?_none found]
    exact ⟨fun _ _ impossible => absurd impossible (by simp),fun _ => keepsTerminal_append⟩
  | some old =>
    rw [upsert_of_find? found,keepsTerminal_updateFirst found,replacing_outcome]
    exact ⟨fun keeps other same => Option.some.inj same ▸ keeps,fun keeps => keeps old rfl⟩

lemma Store.updateControlCommand_backend :
    (st.updateControlCommand readable commandID tenantID agentID update).1.backend = st.backend := by
  rcases updateControlCommand_cases readable commandID tenantID agentID with same | ⟨-,⟨_,-,same⟩ | ⟨_,-,same⟩⟩ <;> rw [same]

lemma createControlCommand_keepsStored {now : Int} {stored : List ControlCommand}
    (same : ∀ row ∈ stored, commandKey row = commandKey (normalizeControlCommand now cmd) →
      controlCommandTerminalStatus row.status = true → (normalizeControlCommand now cmd).outcome = row.outcome) :
    KeepsStored stored st.controlCommands (st.createControlCommand now cmd).1.controlCommands := by
  simp only [Store.createControlCommand]
  generalize normalizeControlCommand now cmd = created at same ⊢
  generalize st.controlCommands.find? (·.commandID = created.commandID) = existing
  refine keepsStored_of_mem fun copy there => ?_
  refine (mem_upsert_new there).imp_right ?_
  rintro rfl row mem terminal - key
  have unchanged : commandKey (created.replacing existing) = commandKey created := by cases existing <;> rfl
  rw [replacing_outcome]
  exact same row mem (key.symm.trans unchanged) terminal

lemma Store.listedCommand_memory (memory : st.backend = none) : st.listedCommand readable commandID tenantID agentID = none := by
  refine Option.eq_none_iff_forall_ne_some.mpr fun cmd found => ?_
  obtain ⟨-,tables,stored,-⟩ := listedCommand_stored _ _ _ _ found
  simp [memory] at stored

lemma Store.listedOver_memory (memory : st.backend = none) : st.ListedOver readable commandID tenantID agentID := by
  intro cmd found
  simp [Store.listedCommand_memory memory] at found

section Runs
variable (digest : String → String)

def Store.runCommands (st : Store) (steps : List (Calls × CommandStep)) : Store :=
  st.run digest (steps.map fun step => (step.1,step.2.operation))

def Store.SparesRun (st : Store) : List (Calls × CommandStep) → Prop
  | [] => True
  | step :: steps => st.Spares step.1 step.2 ∧ (st.perform digest step.1 step.2.operation).SparesRun steps

def Store.TerminalStays (st : Store) (steps : List (Calls × CommandStep)) : Prop :=
  ∀ front middle back, steps = front ++ middle ++ back →
    KeepsCommands st.backend (st.runCommands digest front).controlCommands (st.runCommands digest (front ++ middle)).controlCommands

variable {digest : String → String}
variable {st : Store}

lemma Store.Spares.keeps (spares : st.Spares calls step)
    (keyed : ∀ tables ∈ st.backend, (tables.controlCommands.map commandKey).Nodup) :
    KeepsCommands st.backend st.controlCommands (st.perform digest calls step.operation).controlCommands := by
  cases step with
  | create cmd =>
    exact And.intro ((createControlCommand_keeps).mpr spares.1) fun tables stored =>
      createControlCommand_keepsStored (spares.2 tables stored)
  | markSent commandID tenantID agentID sentAt =>
    exact updateControlCommand_keeps (keepsCommand_markSent sentAt) keyed (fun old _ _ => markSent_outcome) spares
  | acknowledge ack =>
    refine updateControlCommand_keeps (keepsCommand_ack calls.now ack) keyed
      (fun old named found terminal => (applyControlCommandAck_outcome).mpr ?_) fun named => (spares named).2.2
    rcases found with found | found
    · exact (spares named).1 old found terminal
    · exact (spares named).2.1 old found terminal
  | cancel commandID tenantID agentID actor reason =>
    refine updateControlCommand_keeps (keepsCommand_cancel calls.now actor reason) keyed (fun old _ _ terminal => ?_) spares
    simp only [ControlCommand.cancel,terminal,↓reduceIte]
  | expire commandID tenantID agentID reason =>
    refine updateControlCommand_keeps (keepsCommand_expire calls.now reason) keyed (fun old _ _ terminal => ?_) spares
    simp only [ControlCommand.expire,terminal,↓reduceIte]

lemma Store.perform_command_backend {calls : Calls} {step : CommandStep} :
    (st.perform digest calls step.operation).backend = st.backend := by
  cases step with
  | create => rfl
  | _ => exact Store.updateControlCommand_backend ..

lemma Store.runCommands_append (st : Store) (front back : List (Calls × CommandStep)) :
    st.runCommands digest (front ++ back) = (st.runCommands digest front).runCommands digest back := by
  induction front generalizing st with
  | nil => rfl
  | cons step front ih => exact ih (st.perform digest step.1 step.2.operation)

lemma Store.sparesRun_append (st : Store) (front back : List (Calls × CommandStep)) : st.SparesRun digest (front ++ back) ↔
      st.SparesRun digest front ∧ (st.runCommands digest front).SparesRun digest back := by
  induction front generalizing st with
  | nil => simp [Store.SparesRun,Store.runCommands,Store.run]
  | cons step front ih =>
    simp only [List.cons_append,Store.SparesRun,ih,and_assoc]
    rfl

lemma Store.SparesRun.keeps (spares : st.SparesRun digest steps)
    (keyed : ∀ tables ∈ st.backend, (tables.controlCommands.map commandKey).Nodup) :
    KeepsCommands st.backend st.controlCommands (st.runCommands digest steps).controlCommands := by
  induction steps generalizing st with
  | nil => exact And.intro (.refl _) fun _ _ _ _ _ agrees => agrees
  | cons step steps ih =>
    have unchanged : (st.perform digest step.1 step.2.operation).backend = st.backend := Store.perform_command_backend
    have later := ih spares.2 (by rwa [unchanged])
    rw [unchanged] at later
    exact (spares.1.keeps keyed).trans later

lemma Store.runCommands_backend : (st.runCommands digest steps).backend = st.backend := by
  induction steps generalizing st with
  | nil => rfl
  | cons step steps ih =>
    have later : ((st.perform digest step.1 step.2.operation).runCommands digest steps).backend = _ := ih
    exact later.trans Store.perform_command_backend

lemma Store.SparesRun.stays (spares : st.SparesRun digest steps)
    (keyed : ∀ tables ∈ st.backend, (tables.controlCommands.map commandKey).Nodup) : st.TerminalStays digest steps := by
  rintro front middle back rfl
  rw [Store.sparesRun_append,Store.sparesRun_append] at spares
  rw [Store.runCommands_append]
  have keeps := spares.1.2.keeps (by rwa [Store.runCommands_backend])
  rwa [Store.runCommands_backend] at keeps

lemma Store.spares_of_keeps (memory : st.backend = none)
    (keeps : KeepsTerminal st.controlCommands (st.perform digest calls step.operation).controlCommands) :
    st.Spares calls step := by
  cases step with
  | create cmd =>
    exact ⟨(createControlCommand_keeps).mp keeps,by simp [memory]⟩
  | acknowledge ack =>
    refine fun named => ⟨fun old found terminal => ?_,by simp [Store.listedCommand_memory memory],Store.listedOver_memory memory⟩
    change KeepsTerminal _ (st.ackControlCommand calls.now calls.readable ack).1.controlCommands at keeps
    simp only [Store.ackControlCommand,Store.updateControlCommand,named,↓reduceIte,found] at keeps
    have same := (keepsTerminal_updateFirst found).mp keeps terminal
    exact (applyControlCommandAck_outcome).mp same
  | markSent => exact fun _ => Store.listedOver_memory memory
  | cancel => exact fun _ => Store.listedOver_memory memory
  | expire => exact fun _ => Store.listedOver_memory memory

lemma Store.TerminalStays.spares (memory : st.backend = none) (stays : st.TerminalStays digest steps) :
    st.SparesRun digest steps := by
  induction steps generalizing st with
  | nil => trivial
  | cons step steps ih =>
    refine ⟨Store.spares_of_keeps memory (stays [] [step] steps rfl).1,ih ?_ ?_⟩
    · rw [Store.perform_command_backend,memory]
    · rintro front middle back rfl
      refine ⟨(stays (step :: front) middle back rfl).1,fun tables stored => ?_⟩
      rw [Store.perform_command_backend,memory] at stored
      cases stored

/-- A terminal command keeps its status and result in every run whose operations overwrite none, and, without
a database, in no other run. -/
theorem terminal_commands_kept (digest : String → String) (st : Store) (steps : List (Calls × CommandStep))
    (keyed : ∀ tables ∈ st.backend, (tables.controlCommands.map commandKey).Nodup) :
    (st.SparesRun digest steps → st.TerminalStays digest steps) ∧
      (st.backend = none → st.TerminalStays digest steps → st.SparesRun digest steps) :=
  ⟨fun spares => spares.stays keyed,Store.TerminalStays.spares⟩

/-- A command of this process and one that only the database has. -/
def cancelledRun : List (Calls × CommandStep) :=
  [({ now := 1 },.create { commandID := "c1", agentID := "a1" }),({ now := 2 },.cancel "c1" "" "" "op" "stop"),
    ({ now := 3 },.expire "c1" "" "" "late"),({ now := 4 },.markSent "c1" "" "" 4),
    ({ now := 5 },.cancel "c9" "t1" "a1" "op" "again"),({ now := 6 },.markSent "c9" "t1" "a1" 6)]

def expiredRow : Store :=
  { backend := some { controlCommands := [{ commandID := "c9", tenantID := "t1", agentID := "a1", status := "expired" }] } }

instance : Decidable (st.ListedOver readable commandID tenantID agentID) :=
  inferInstanceAs (Decidable (∀ cmd ∈ st.listedCommand readable commandID tenantID agentID,
    ∀ old ∈ st.controlCommands.find? (sameSnapshot cmd), controlCommandTerminalStatus old.status = false))

theorem cancelled_command_stays : expiredRow.SparesRun (fun text => text) cancelledRun ∧
    (expiredRow.runCommands (fun text => text) cancelledRun).controlCommands.map (·.status) = ["canceled","expired"] ∧
    expiredRow.TerminalStays (fun text => text) cancelledRun :=
  have spares : expiredRow.SparesRun (fun text => text) cancelledRun :=
    ⟨And.intro (fun _ absent => by cases absent) (by decide +kernel),fun _ => by decide +kernel,fun _ => by decide +kernel,
      fun _ => by decide +kernel,fun _ => by decide +kernel,fun _ => by decide +kernel,trivial⟩
  ⟨spares,by decide +kernel,(terminal_commands_kept _ expiredRow cancelledRun (by decide +kernel)).1 spares⟩

def lateAck : Calls × CommandStep := ({ now := 3 },.acknowledge { commandID := "c1", agentID := "a1", status := "running" })

/-- A late acknowledgement revives a cancelled command. -/
theorem late_ack_revives :
    ((Store.runCommands (fun text => text) {} (cancelledRun.take 2)).controlCommands.map (·.status) = ["canceled"]) ∧
      (Store.runCommands (fun text => text) {} (cancelledRun.take 2 ++ [lateAck])).controlCommands.map (·.status) = ["running"] ∧
      ¬Store.TerminalStays (fun text => text) {} (cancelledRun.take 2 ++ [lateAck]) := by
  have cancelled : (Store.runCommands (fun text => text) {} (cancelledRun.take 2)).controlCommands.map (·.status) =
      ["canceled"] := by decide +kernel
  have revived : (Store.runCommands (fun text => text) {} (cancelledRun.take 2 ++ [lateAck])).controlCommands.map (·.status) =
      ["running"] := by decide +kernel
  refine ⟨cancelled,revived,fun stays => ?_⟩
  have keeps := stays (cancelledRun.take 2) [lateAck] [] (by simp)
  obtain ⟨cmd,old,status⟩ := List.map_eq_singleton_iff.mp cancelled
  obtain ⟨later,after,changed⟩ := List.map_eq_singleton_iff.mp revived
  obtain ⟨kept,there,same⟩ := keeps.1 0 cmd (by rw [old]; rfl) (by rw [status]; rfl)
  rw [after] at there
  cases there
  have equal : later.status = cmd.status := congrArg CommandOutcome.status same
  rw [changed,status] at equal
  exact absurd equal (by simp)

end Runs

end SysArmor.Manager
