import SysArmor.TenantStores

/-! When the batches of other tenants leave the analysis of a tenant alone. A run is compared with the
tenant's batches alone, processed with the engine's counters as they were in the run. The relation
between the two states is kept by every batch of the run. -/
namespace SysArmor.Ingest
open GoText Proto Manager Analytics KeyedMerge Rows List

/-! The names weighed for the tenant's incidents. -/

def Weighed (own : List DataBatch) (name : String) : Prop := name ∈ cloudRuleNames ∨ ∃ sig ∈ signalsIn own, rarityName sig = name

def Agrees (own : List DataBatch) (b b' : Baseline) : Prop :=
  ∀ workload name, Weighed own name → b.counts workload name = b'.counts workload name

section
variable {own other : List DataBatch} {b b' : Baseline}

lemma Agrees.count (agrees : Agrees own b b') (weighed : Weighed own name) (workload : String) :
    b.count workload name = b'.count workload name := by
  rw [Baseline.count,Baseline.count,agrees workload name weighed,agrees "global" name weighed]

lemma Agrees.add (agrees : Agrees own b b') (workload name : String) : Agrees own (b.add workload name) (b'.add workload name) := by
  intro w n weighed
  simp only [Baseline.add]
  split
  · exact agrees w n weighed
  · simp only [agrees w n weighed]

lemma observe_cons {signals : List Signal} : b.observe (sig :: signals) = (b.observeOne sig).observe signals := by
  rw [Baseline.observe,Baseline.observe,foldl_cons]

lemma Agrees.observe (agrees : Agrees own b b') (signals : List Signal) : Agrees own (b.observe signals) (b'.observe signals) := by
  induction signals generalizing b b' with
  | nil => exact agrees
  | cons sig signals ih =>
    have step : Agrees own (b.observeOne sig) (b'.observeOne sig) := by
      simp only [Baseline.observeOne]
      split
      · exact agrees
      split
      · exact (agrees.add _ _).add _ _
      · exact agrees.add _ _
    rw [observe_cons,observe_cons]
    exact ih step

lemma rarityName_trimmed : trimSpace (rarityName sig) = rarityName sig := by
  simp only [rarityName]
  split <;> exact trimSpace_trimSpace _

lemma Agrees.addOther (agrees : Agrees own b b') (unweighed : ¬ Weighed own (rarityName sig)) :
    Agrees own b (b'.add workload (rarityName sig)) := by
  intro w n weighed
  have differs : n ≠ rarityName sig := by
    rintro rfl
    exact unweighed weighed
  simp only [Baseline.add]
  split
  · exact agrees w n weighed
  · simp [rarityName_trimmed,differs,agrees w n weighed]

lemma Agrees.observeOthers (agrees : Agrees own b b') (separate : Separate digest own other)
    (members : ∀ sig ∈ signals, sig ∈ signalsIn other) : Agrees own b (b'.observe signals) := by
  induction signals generalizing b' with
  | nil => exact agrees
  | cons sig signals ih =>
    have step : Agrees own b (b'.observeOne sig) := by
      simp only [Baseline.observeOne]
      split
      · exact agrees
      rename_i named
      obtain ⟨derived,raised⟩ := separate.names sig (members sig mem_cons_self) named
      have unweighed : ¬ Weighed own (rarityName sig) := by
        rintro (rule | ⟨mine,inside,same⟩)
        · exact derived rule
        · exact raised mine inside same.symm
      split
      · exact (agrees.addOther unweighed).addOther unweighed
      · exact agrees.addOther unweighed
    rw [observe_cons]
    exact ih step fun sig mem => members sig (mem_cons_of_mem _ mem)

end

/-! One batch. -/

lemma mem_touchedScopes (mem : scope ∈ touchedScopes agent batch) (listed : batch ∈ batches) :
    scope.agent = agent ∧ scope.labels ∈ scopesIn batches := by
  have merged : scope ∈ (itemLabels batch).filterMap (touchedScope agent) := mem_of_mem_mergeByKey mem
  obtain ⟨labels,inside,touched⟩ := mem_filterMap.mp merged
  rw [touchedScope] at touched
  split at touched
  · cases touched
  rename_i nonempty
  have scoping := mem_scopesIn.mpr ⟨batch,listed,labels,inside,rfl,nonempty⟩
  rw [← Option.some.inj touched]
  dsimp only
  exact ⟨rfl,scoping⟩

lemma backend_addBatch {p : Processor} {st : Store} {batch : DataBatch} : (p.addBatch st batch).backend = st.backend := by
  have events (evs : List CanonicalEvent) (st : Store) : (evs.foldl Store.addEvent st).backend = st.backend := by
    induction evs generalizing st with
    | nil => rfl
    | cons ev evs ih => exact ih (st.addEvent ev)
  have signals (sigs : List Signal) (st : Store) : (sigs.foldl (Store.addSignal p.digest) st).backend = st.backend := by
    induction sigs generalizing st with
    | nil => rfl
    | cons sig sigs ih => exact ih (st.addSignal p.digest sig)
  rw [Processor.addBatch]
  split
  · rw [signals,events]
  · rfl

lemma rarityName_cloudRule (named : sig.name ∈ cloudRuleNames) : rarityName sig ∈ cloudRuleNames := by
  have trimmed : ∀ name ∈ cloudRuleNames, trimSpace name = name ∧ name ≠ "" := by decide +kernel
  obtain ⟨same,some⟩ := trimmed sig.name named
  rw [rarityName,same,if_neg some]
  exact named

section
variable {p : LocalProcessor} {tenant : String} {own other : List DataBatch} {seen st : Store} {e : Engine} {batch : DataBatch}
  {upper : Int} {scope : TouchedScope} {b b' : Baseline} {ε : Type} {calls : ProcessCalls ε}

lemma raised_of_derived (inside : scope.labels ∈ scopesIn batches)
    (mem : sig ∈ ((p.numbered e).analyzeScope st batch upper scope).cloudSignals) : Raised batches sig := by
  obtain ⟨-,-,source,-,named,nonempty⟩ := mem_scopesIn.mp inside
  refine .inr ⟨(LocalProcessor.mem_analyzeScope_cloud mem).1,scope.labels,inside,?_⟩
  rw [← named] at nonempty
  have here := LocalProcessor.cloud_matches named.symm nonempty mem
  rwa [named] at here

lemma backend_recompute (b : Baseline) (batch : DataBatch) (upper : Int) (scopes : List TouchedScope) (st : Store) (e : Engine) :
    (p.recompute b batch upper scopes st e).1.backend = st.backend := by
  induction scopes generalizing st e with
  | nil => rfl
  | cons scope scopes ih => exact ih _ _

lemma backend_derive (state : LocalState) : (p.derive calls state batch).1.backend = state.store.backend := by
  rw [LocalProcessor.derive,backend_recompute,backend_addBatch]
  exact (sameTelemetry_addAgent _ _).backend.symm

lemma Sees.scoreCounts (sees : Sees tenant own other seen st) (agrees : Agrees own b b') (listed : batch ∈ own)
    (mem : inc ∈ ((p.numbered e).analyzeScope seen batch upper scope).incidents) : b.scoreCounts inc = b'.scoreCounts inc := by
  obtain ⟨-,contributing,-⟩ := LocalProcessor.mem_analyzeScope_incident mem
  refine map_congr_left fun sig inside => agrees.count ?_ _
  rw [contributing] at inside
  rcases mem_append.mp inside with given | derived
  · obtain ⟨-,endpoint,stored | current⟩ := LocalProcessor.mem_scopeSignals given
    · rcases sees.ownSignals sig stored with carried | ⟨cloud,-⟩
      · exact .inr ⟨sig,carried,rfl⟩
      · simp [endpoint] at cloud
    · exact .inr ⟨sig,mem_flatMap.mpr ⟨batch,listed,current⟩,rfl⟩
  · exact .inl (rarityName_cloudRule (LocalProcessor.mem_analyzeScope_cloud derived).2.1)

variable (separate : Separate p.digest own other)
include separate

lemma incident_of_derived (inside : scope.labels ∈ scopesIn own) (tenancy : scope.agent.normalized.tenantID = tenant)
    (mem : inc ∈ ((p.numbered e).analyzeScope st batch upper scope).incidents) :
    inc.tenantId = tenant ∧ ∀ foreign ∈ scopesIn other, labelSelectorMatches inc.labels foreign = false := by
  refine ⟨(LocalProcessor.mem_analyzeScope_incident mem).1.trans tenancy,fun foreign listed => ?_⟩
  have conflict := separate.scopes _ inside _ listed
  obtain ⟨-,-,source,-,named,-⟩ := mem_scopesIn.mp inside
  obtain ⟨-,-,more,-,rfl,nonempty⟩ := mem_scopesIn.mp listed
  rw [← named] at conflict
  exact LocalProcessor.incident_avoids named.symm nonempty conflict mem

section
variable (sees : Sees tenant own other seen st)
include sees

lemma Sees.analyzeScope (mem : scope.labels ∈ scopesIn own) (e : Engine) (batch : DataBatch) (upper : Int) :
    (p.numbered e).analyzeScope st batch upper scope = (p.numbered e).analyzeScope seen batch upper scope ∧
      p.engineAfter e st batch scope = p.engineAfter e seen batch scope := by
  have events : LocalProcessor.scopeEvents st batch scope.labels = LocalProcessor.scopeEvents seen batch scope.labels := by
    rw [LocalProcessor.scopeEvents,LocalProcessor.scopeEvents,sees.listEvents separate mem]
  have signals : p.scopeSignals st batch scope.labels = p.scopeSignals seen batch scope.labels := by
    rw [LocalProcessor.scopeSignals,LocalProcessor.scopeSignals,sees.listSignals separate mem]
  have policy := p.policyOf_eq seen st sees.policies sees.assignments sees.health sees.backend
  rw [p.analyzeScope_eq,p.analyzeScope_eq,LocalProcessor.engineAfter,LocalProcessor.engineAfter,events,signals,policy]
  exact ⟨rfl,rfl⟩

lemma Sees.recompute (agrees : Agrees own b b') (listed : batch ∈ own)
    (scopes : List TouchedScope) (mine : ∀ scope ∈ scopes, scope.labels ∈ scopesIn own ∧ scope.agent.normalized.tenantID = tenant) :
    (p.recompute b' batch upper scopes st e).2 = (p.recompute b batch upper scopes seen e).2 ∧
      Sees tenant own other (p.recompute b batch upper scopes seen e).1 (p.recompute b' batch upper scopes st e).1 := by
  induction scopes generalizing seen st e with
  | nil => exact ⟨rfl,sees⟩
  | cons scope scopes ih =>
    obtain ⟨inside,tenancy⟩ := mine scope mem_cons_self
    obtain ⟨analysis,engine⟩ := sees.analyzeScope separate inside e batch upper
    have counts : ((p.numbered e).analyzeScope seen batch upper scope).incidents.map b'.scoreCounts =
        ((p.numbered e).analyzeScope seen batch upper scope).incidents.map b.scoreCounts :=
      map_congr_left fun inc mem => (sees.scoreCounts agrees listed mem).symm
    have stored : Sees tenant own other ((p.numbered e).storeDerived seen scope ((p.numbered e).analyzeScope seen batch upper scope))
        ((p.numbered e).storeDerived st scope ((p.numbered e).analyzeScope seen batch upper scope)) :=
      sees.replaceDerived scope.labels (fun sig mem => raised_of_derived inside mem)
        fun inc mem => incident_of_derived separate inside tenancy mem
    obtain ⟨results,after⟩ := ih stored fun scope mem => mine scope (mem_cons_of_mem _ mem)
    simp only [LocalProcessor.recompute,analysis,engine,counts]
    exact ⟨by rw [results],after⟩

lemma Sees.recomputeOthers {scopes : List TouchedScope}
    (theirs : ∀ scope ∈ scopes, scope.labels ∈ scopesIn other ∧ scope.agent.normalized.tenantID ≠ tenant) :
    Sees tenant own other seen (p.recompute b batch upper scopes st e).1 := by
  induction scopes generalizing st e with
  | nil => exact sees
  | cons scope scopes ih =>
    obtain ⟨inside,tenancy⟩ := theirs scope mem_cons_self
    refine ih ?_ fun scope mem => theirs scope (mem_cons_of_mem _ mem)
    refine sees.replaceOtherDerived separate inside (fun sig mem => raised_of_derived inside mem) fun inc mem same => ?_
    exact tenancy ((LocalProcessor.mem_analyzeScope_incident mem).1.symm.trans same)

end

end

structure Follows (tenant : String) (own other : List DataBatch) (alone state : LocalState) : Prop where
  sees : Sees tenant own other alone.store state.store
  agrees : Agrees own alone.baseline state.baseline
  memory : state.store.backend = none

lemma signals_addEvents (evs : List CanonicalEvent) (st : Store) : (evs.foldl Store.addEvent st).signals = st.signals := by
  induction evs generalizing st with
  | nil => rfl
  | cons ev evs ih => exact ih (st.addEvent ev)

lemma derive_eq (p : LocalProcessor) (calls : ProcessCalls ε) (state : LocalState) (batch : DataBatch) :
    p.derive calls state batch = p.recompute state.baseline batch (batchUpperTime batch calls.startedAt)
      (touchedScopes (agentIdentityFromDataBatch batch) batch) ((batchSignals batch).foldl (Store.addSignal p.digest)
        ((batchEvents batch).foldl Store.addEvent (state.store.addAgent (agentIdentityFromDataBatch batch)))) state.engine := by
  rw [LocalProcessor.derive,Processor.addBatch,LocalProcessor.numbered,if_pos rfl,batchSignals,batchEvents]

section
variable {p : LocalProcessor} {tenant : String} {own other : List DataBatch} {alone state : LocalState} {batch : DataBatch}
  {ε : Type} (calls : ProcessCalls ε) (separate : Separate p.digest own other)
include separate

lemma Follows.derive (follows : Follows tenant own other alone state) (listed : batch ∈ own) (tenancy : batchTenant batch = tenant)
    (unclaimed : Unclaimed p.digest (scopesIn other) state.store batch) :
    (p.derive calls state batch).2 = (p.derive calls { alone with engine := state.engine } batch).2 ∧
      Sees tenant own other (p.derive calls { alone with engine := state.engine } batch).1 (p.derive calls state batch).1 := by
  have registered := follows.sees.congr (sameTelemetry_addAgent _ (agentIdentityFromDataBatch batch))
    (sameTelemetry_addAgent _ (agentIdentityFromDataBatch batch))
  have events := registered.addEvents separate fun ev (mem : ev ∈ batchEvents batch) => mem_flatMap.mpr ⟨batch,listed,mem⟩
  have carried : ∀ sig ∈ batchSignals batch, sig ∈ signalsIn own := fun sig mem => mem_flatMap.mpr ⟨batch,listed,mem⟩
  have added := events.addSignals separate carried (by
    intro sig mem existing inside raised
    rw [signals_addEvents,← (sameTelemetry_addAgent _ _).signals] at inside
    rcases raised with foreign | ⟨cloud,there⟩
    · exact separate.signals sig (carried sig mem) existing foreign
    · exact unclaimed sig mem existing inside cloud there)
  rw [derive_eq,derive_eq]
  exact added.recompute separate follows.agrees listed _ fun scope mem => by
    obtain ⟨agent,inside⟩ := mem_touchedScopes mem listed
    refine ⟨inside,?_⟩
    rw [agent]
    exact tenancy

lemma Follows.deriveOthers (follows : Follows tenant own other alone state) (listed : batch ∈ other) (tenancy : batchTenant batch ≠ tenant)
    (unclaimed : Unclaimed p.digest (scopesIn own) state.store batch) :
    Sees tenant own other alone.store (p.derive calls state batch).1 := by
  have registered := follows.sees.congr ⟨rfl,rfl,rfl,rfl,rfl,rfl,rfl⟩ (sameTelemetry_addAgent _ (agentIdentityFromDataBatch batch))
  have events := registered.addOtherEvents separate fun ev (mem : ev ∈ batchEvents batch) =>
    mem_flatMap.mpr ⟨batch,listed,mem⟩
  have carried : ∀ sig ∈ batchSignals batch, sig ∈ signalsIn other := fun sig mem => mem_flatMap.mpr ⟨batch,listed,mem⟩
  have clear : ∀ sig ∈ batchSignals batch, ∀ existing ∈ alone.store.signals, signalKey p.digest existing ≠ signalKey p.digest sig := by
    intro sig mem existing inside
    rcases follows.sees.ownSignals existing inside with mine | ⟨cloud,here⟩
    · exact (separate.signals existing mine sig (carried sig mem)).symm
    · exact unclaimed sig mem existing (follows.sees.signals.subset inside) cloud here
  have added := events.addOtherSignals carried clear
  rw [derive_eq]
  exact added.recomputeOthers separate fun scope mem => by
    obtain ⟨agent,inside⟩ := mem_touchedScopes mem listed
    refine ⟨inside,?_⟩
    rw [agent]
    exact tenancy

lemma Follows.process (follows : Follows tenant own other alone state) (mem : batch ∈ own) (tenancy : batchTenant batch = tenant)
    (unclaimed : Unclaimed p.digest (scopesIn other) state.store batch) :
    (p.process calls state batch).2 = (p.process calls { alone with engine := state.engine } batch).2 ∧
      Follows tenant own other (p.process calls { alone with engine := state.engine } batch).1 (p.process calls state batch).1 := by
  obtain ⟨results,sees⟩ := follows.derive calls separate mem tenancy unclaimed
  have memory : (p.derive calls state batch).1.backend = none := (backend_derive state).trans follows.memory
  have lone : (p.derive calls { alone with engine := state.engine } batch).1.backend = none := sees.backend.trans memory
  simp only [LocalProcessor.process]
  split
  · exact ⟨rfl,follows.sees,follows.agrees,follows.memory⟩
  rw [← congrArg Prod.snd results]
  cases calls.bulkIndex (p.documents calls batch (p.derive calls state batch).2.2) with
  | some _ => exact ⟨rfl,sees,follows.agrees,memory⟩
  | none =>
    exact ⟨rfl,sees.congr (sameTelemetry_persist lone ..) (sameTelemetry_persist memory ..),follows.agrees.observe _,
        (sameTelemetry_persist memory ..).backend ▸ memory⟩

lemma Follows.processOthers (follows : Follows tenant own other alone state) (listed : batch ∈ other) (tenancy : batchTenant batch ≠ tenant)
    (unclaimed : Unclaimed p.digest (scopesIn own) state.store batch) :
    Follows tenant own other alone (p.process calls state batch).1 := by
  have sees := follows.deriveOthers calls separate listed tenancy unclaimed
  have memory : (p.derive calls state batch).1.backend = none := (backend_derive state).trans follows.memory
  simp only [LocalProcessor.process]
  split
  · exact follows
  split
  · exact ⟨sees,follows.agrees,memory⟩
  · refine ⟨sees.congr ⟨rfl,rfl,rfl,rfl,rfl,rfl,rfl⟩ (sameTelemetry_persist memory ..),?_,
      (sameTelemetry_persist memory ..).backend ▸ memory⟩
    exact follows.agrees.observeOthers separate fun sig mem => mem_flatMap.mpr ⟨batch,listed,mem⟩

end

/-! Whole runs. -/

def ownBatches (tenant : String) (steps : List (Step ε)) : List DataBatch := (steps.filter (·.of tenant)).map (·.batch)
def otherBatches (tenant : String) (steps : List (Step ε)) : List DataBatch := (steps.filter (!·.of tenant)).map (·.batch)

namespace LocalProcessor
variable (p : LocalProcessor) {ε : Type}

def replay : LocalState → List Engine → List (Step ε) → LocalState × List (List ScopeResult)
  | state,e :: engines,step :: steps =>
    let (next,results) := p.process step.calls { state with engine := e } step.batch
    let rest := replay next engines steps
    (rest.1,results :: rest.2)
  | state,_,_ => (state,[])

def UnclaimedRun (tenant : String) (own other : List DataBatch) : LocalState → List (Step ε) → Prop
  | _,[] => True
  | state,step :: steps =>
    Unclaimed p.digest (scopesIn (if step.of tenant then other else own)) state.store step.batch ∧
      UnclaimedRun tenant own other (p.process step.calls state step.batch).1 steps

structure Isolated (tenant : String) (state : LocalState) (steps : List (Step ε)) : Prop where
  separate : Separate p.digest (ownBatches tenant steps) (otherBatches tenant steps)
  unclaimed : p.UnclaimedRun tenant (ownBatches tenant steps) (otherBatches tenant steps) state steps

variable {p}

lemma run_follows {tenant : String} {own other : List DataBatch} (separate : Separate p.digest own other) {alone state : LocalState}
    (follows : Follows tenant own other alone state) {steps : List (Step ε)}
    (mine : ∀ step ∈ steps, step.of tenant = true → step.batch ∈ own)
    (theirs : ∀ step ∈ steps, step.of tenant = false → step.batch ∈ other)
    (unclaimed : p.UnclaimedRun tenant own other state steps) :
    p.resultsFor tenant state steps = (p.replay alone (p.enginesFor tenant state steps) (steps.filter (·.of tenant))).2 ∧
      Follows tenant own other (p.replay alone (p.enginesFor tenant state steps) (steps.filter (·.of tenant))).1 (p.run state steps) := by
  induction steps generalizing alone state with
  | nil => exact ⟨rfl,follows⟩
  | cons step steps ih =>
    obtain ⟨clear,later⟩ := unclaimed
    have mine' := fun next mem => mine next (mem_cons_of_mem step mem)
    have theirs' := fun next mem => theirs next (mem_cons_of_mem step mem)
    cases side : step.of tenant with
    | true =>
      rw [side,if_pos rfl] at clear
      have tenancy : batchTenant step.batch = tenant := by simpa [Step.of] using side
      obtain ⟨results,after⟩ := follows.process step.calls separate (mine step mem_cons_self side) tenancy clear
      obtain ⟨more,final⟩ := ih after mine' theirs' later
      simp only [resultsFor,enginesFor,side,if_true,filter_cons_of_pos,replay,results,more]
      exact ⟨trivial,final⟩
    | false =>
      rw [side,if_neg Bool.false_ne_true] at clear
      have tenancy : batchTenant step.batch ≠ tenant := by simpa [Step.of] using side
      have after := follows.processOthers step.calls separate (theirs step mem_cons_self side) tenancy clear
      obtain ⟨more,final⟩ := ih after mine' theirs' later
      simp only [resultsFor,enginesFor,side,Bool.false_eq_true,if_false,filter_cons_of_neg,not_false_eq_true]
      exact ⟨more,final⟩

lemma mem_ownBatches {steps : List (Step ε)} (mem : step ∈ steps) (side : step.of tenant = true) :
    step.batch ∈ ownBatches tenant steps :=
  mem_map.mpr ⟨step,mem_filter.mpr ⟨mem,side⟩,rfl⟩

lemma mem_otherBatches {steps : List (Step ε)} (mem : step ∈ steps) (side : step.of tenant = false) :
    step.batch ∈ otherBatches tenant steps :=
  mem_map.mpr ⟨step,mem_filter.mpr ⟨mem,by simp [side]⟩,rfl⟩

end LocalProcessor

structure BlankStore (st : Store) : Prop where
  events : st.events = []
  signals : st.signals = []
  incidents : st.incidents = []
  backend : st.backend = none

lemma follows_start {own other : List DataBatch} {state : LocalState} (blank : BlankStore state.store) :
    Follows tenant own other state state where
  sees := {
    events := .refl _
    ownEvents := by simp [blank.events]
    signals := .refl _
    ownSignals := by simp [blank.signals]
    incidents := .refl _
    ownIncidents := by simp [blank.incidents]
    policies := rfl
    assignments := rfl
    health := rfl
    backend := rfl }
  agrees := fun _ _ _ => rfl
  memory := blank.backend

/-- Two runs with the same batches of a tenant, isolated from those of others, and with the same
counters of the engine before each of them, derive and keep the same for the tenant. -/
theorem tenant_analytics_unaffected (p : LocalProcessor) (tenant : String) (start : LocalState) (blank : BlankStore start.store)
    (steps others : List (Step ε)) (same : steps.filter (·.of tenant) = others.filter (·.of tenant))
    (isolated : p.Isolated tenant start steps) (apart : p.Isolated tenant start others)
    (counters : p.enginesFor tenant start steps = p.enginesFor tenant start others) :
    p.resultsFor tenant start steps = p.resultsFor tenant start others ∧
      keptSignals (ownBatches tenant steps) (p.run start steps).store = keptSignals (ownBatches tenant steps) (p.run start others).store ∧
      keptIncidents tenant (p.run start steps).store = keptIncidents tenant (p.run start others).store := by
  have own : ownBatches tenant steps = ownBatches tenant others := by
    rw [ownBatches,ownBatches,same]
  obtain ⟨results,final⟩ := LocalProcessor.run_follows isolated.separate (follows_start blank)
    (fun _ => LocalProcessor.mem_ownBatches) (fun _ => LocalProcessor.mem_otherBatches) isolated.unclaimed
  obtain ⟨results',final'⟩ := LocalProcessor.run_follows apart.separate (follows_start blank)
    (fun _ => LocalProcessor.mem_ownBatches) (fun _ => LocalProcessor.mem_otherBatches) apart.unclaimed
  rw [same,counters] at results final
  refine ⟨results.trans results'.symm,?_,?_⟩
  · rw [final.sees.keptSignals isolated.separate]
    rw [own,final'.sees.keptSignals apart.separate]
  · rw [final.sees.keptIncidents,final'.sees.keptIncidents]

/-! Two tenants. -/

def plainProcessor : LocalProcessor where
  digest := id
  times := ⟨fun _ => none,fun _ => ""⟩
  go := asciiStdlib
  policyOf := fun _ _ => none
  policyOf_eq := fun _ _ _ _ _ _ => rfl

def tenantStep (tenant workload : String) (events : List String) (signals : List String) : Step String where
  calls := {}
  batch := { header := some { tenantId := tenant, agentId := "agent" }
             events := events.map fun id => { event := some { id, labels := (∅ : Labels).insert "workload" workload } }
             signals := signals.map fun name => { signal := some {
               id := name, name, terminal := true, «where» := .endpoint, labels := (∅ : Labels).insert "workload" workload } } }

def redStep : Step String := tenantStep "red" "a" ["red-1"] ["reverse_shell_pattern"]
def blueStep : Step String := tenantStep "blue" "b" ["blue-1"] []

/-- A batch of another tenant in another workload does not matter. -/
theorem red_unaffected_by_other_workload :
    plainProcessor.resultsFor "red" {} [redStep] = plainProcessor.resultsFor "red" {} [blueStep,redStep] ∧
      keptIncidents "red" (plainProcessor.run {} [redStep]).store =
        keptIncidents "red" (plainProcessor.run {} [blueStep,redStep]).store := by
  have blank : BlankStore ({} : LocalState).store := ⟨rfl,rfl,rfl,rfl⟩
  have unaffected := tenant_analytics_unaffected plainProcessor "red" {} blank [redStep] [blueStep,redStep] (by rfl)
    ⟨⟨by simp only [Conflict]; decide +kernel,by decide +kernel,by decide +kernel,by decide +kernel⟩,
      by simp only [LocalProcessor.UnclaimedRun,Unclaimed]; decide +kernel⟩
    ⟨⟨by simp only [Conflict]; decide +kernel,by decide +kernel,by decide +kernel,by decide +kernel⟩,
      by simp only [LocalProcessor.UnclaimedRun,Unclaimed]; decide +kernel⟩
    (by rfl)
  exact ⟨unaffected.1,unaffected.2.2⟩

/-- A signal of another tenant with the same labels makes the tenant's own signal a chain. -/
theorem blue_payload_completes_red_chain :
    (plainProcessor.resultsFor "red" {} [redStep]).map (·.map (·.analysis.cloudSignals.map (·.name))) = [[[]]] ∧
      (plainProcessor.resultsFor "red" {} [tenantStep "blue" "a" [] ["payload_dropped"],redStep]).map
        (·.map (·.analysis.cloudSignals.map (·.name))) = [[["dropped_payload_executed_and_connects"]]] := by
  constructor
  · decide +kernel
  · decide +kernel

end SysArmor.Ingest
