import SysArmor.AnalysisOrder

/-! The processor of a gateway without a message bus: one store, one analysis engine and one baseline
of signal names for the batches of all agents. The engine numbers what it derives, and the baseline
weighs the signals of an incident; its score is a sum over the contributing signals, each weighed by
how often its name was seen before, so the counts stand for the score. -/
namespace SysArmor.Ingest
open GoText Proto Manager Analytics

/-! The baseline of signal names. -/

/-- `rarity.Baseline`: how often a name was seen in a workload. -/
structure Baseline where
  counts : String → String → UInt64 := fun _ _ => 0

def rarityName (sig : Signal) : String := if trimSpace sig.name = "" then trimSpace sig.id else trimSpace sig.name

def workloadKey (sig : Signal) : String :=
  let entity := ["pod","container","host","user"].findSome? fun kind =>
    (sig.entities.find? fun ent => ent.kind = kind && ent.key ≠ "").map fun ent => kind ++ ":" ++ ent.key
  match entity with
  | some key => key
  | none =>
    if sig.labels.get "workload" ≠ "" then "workload:" ++ sig.labels.get "workload"
    else if sig.labels.get "scenario" ≠ "" then "scenario:" ++ sig.labels.get "scenario"
    else "global"

def Baseline.add (b : Baseline) (workload name : String) : Baseline :=
  let workload := if trimSpace workload = "" then "global" else trimSpace workload
  if trimSpace name = "" then b
  else { counts := fun w n => if w = workload ∧ n = trimSpace name then b.counts w n + 1 else b.counts w n }

def Baseline.observeOne (b : Baseline) (sig : Signal) : Baseline :=
  if rarityName sig = "" then b
  else
    let b := b.add (workloadKey sig) (rarityName sig)
    if workloadKey sig ≠ "global" then b.add "global" (rarityName sig) else b

def Baseline.observe (b : Baseline) (signals : List Signal) : Baseline := signals.foldl Baseline.observeOne b

/-- `Baseline.Count`: a name not seen in the workload counts as in the whole fleet. -/
def Baseline.count (b : Baseline) (workload name : String) : UInt64 :=
  if 0 < b.counts workload name then b.counts workload name else b.counts "global" name

def Baseline.scoreCounts (b : Baseline) (inc : Incident) : List UInt64 :=
  inc.contributingSignals.map fun sig => b.count (workloadKey sig) (rarityName sig)

/-! The processor. -/

structure LocalProcessor where
  digest : String → String
  times : TimeText
  go : Stdlib
  policyOf : Store → AgentIdentity → Option Analytics.DetectionPolicy
  policyOf_eq : ∀ st st' : Store, st.policies = st'.policies → st.assignments = st'.assignments → st.health = st'.health →
    st.backend = st'.backend → policyOf st = policyOf st'

structure LocalState where
  store : Store := {}
  engine : Engine := {}
  baseline : Baseline := {}

structure ScopeResult where
  scope : Labels
  analysis : Analysis
  counts : List (List UInt64)

structure Step (ε : Type) where
  calls : ProcessCalls ε
  batch : DataBatch

namespace LocalProcessor
variable (p : LocalProcessor) {ε : Type}

def numbered (e : Engine) : Processor where
  digest := p.digest
  times := p.times
  isLocal := true
  history := storeHistory
  analyze := fun st agent events signals => (analyzeWithPolicy p.go e events signals (p.policyOf st agent)).2

def scopeEvents (st : Store) (batch : DataBatch) (scope : Labels) : List CanonicalEvent :=
  mergeEvents some (st.listEvents scope) ((batch.events.filterMap (·.event)).filter fun ev => labelSelectorMatches ev.labels scope)

def scopeSignals (st : Store) (batch : DataBatch) (scope : Labels) : List Signal :=
  mergeSignals p.digest some (st.listSignals scope "endpoint") ((batch.signals.filterMap (·.signal)).filter fun sig =>
    sig.where = .endpoint && labelSelectorMatches sig.labels scope)

def engineAfter (e : Engine) (st : Store) (batch : DataBatch) (scope : TouchedScope) : Engine :=
  (analyzeWithPolicy p.go e (scopeEvents st batch scope.labels) (p.scopeSignals st batch scope.labels) (p.policyOf st scope.agent)).1

lemma analyzeScope_eq (e : Engine) (st : Store) (batch : DataBatch) (upper : Int) (scope : TouchedScope) :
    (p.numbered e).analyzeScope st batch upper scope =
      let analysis := (analyzeWithPolicy p.go e (scopeEvents st batch scope.labels) (p.scopeSignals st batch scope.labels)
        (p.policyOf st scope.agent)).2
      { analysis with incidents := analysis.incidents.map (stampIncident p.times scope (scopeEvents st batch scope.labels)) } := rfl

def recompute (baseline : Baseline) (batch : DataBatch) (upper : Int) :
    List TouchedScope → Store → Engine → Store × Engine × List ScopeResult
  | [],st,e => (st,e,[])
  | scope :: scopes,st,e =>
    let analysis := (p.numbered e).analyzeScope st batch upper scope
    let rest := recompute baseline batch upper scopes ((p.numbered e).storeDerived st scope analysis) (p.engineAfter e st batch scope)
    (rest.1,rest.2.1,⟨scope.labels,analysis,analysis.incidents.map baseline.scoreCounts⟩ :: rest.2.2)

def derive (calls : ProcessCalls ε) (state : LocalState) (batch : DataBatch) : Store × Engine × List ScopeResult :=
  let agent := agentIdentityFromDataBatch batch
  p.recompute state.baseline batch (batchUpperTime batch calls.startedAt) (touchedScopes agent batch)
    ((p.numbered state.engine).addBatch (state.store.addAgent agent) batch) state.engine

def documents (calls : ProcessCalls ε) (batch : DataBatch) (results : List ScopeResult) : List Document :=
  let upper := batchUpperTime batch calls.startedAt
  batchDocuments p.digest p.times batch upper ++ results.flatMap fun result =>
    (p.numbered {}).scopeDocuments upper ⟨result.scope,agentIdentityFromDataBatch batch⟩ result.analysis

def persist (calls : ProcessCalls ε) (batch : DataBatch) (results : List ScopeResult) (st : Store) : Store :=
  ((st.recordDataBatchIngest batch.events.length batch.signals.length (results.map (·.analysis.cloudSignals.length)).sum
    (results.map (·.analysis.incidents.length)).sum calls.latencyMs).save calls.save).1

def process (calls : ProcessCalls ε) (state : LocalState) (batch : DataBatch) : LocalState × List ScopeResult :=
  if batch.header.isNone then (state,[])
  else
    let (st,e,results) := p.derive calls state batch
    match calls.bulkIndex (p.documents calls batch results) with
    | some _ => ({ state with store := st, engine := e },results)
    | none => ({ store := persist calls batch results st, engine := e
                 baseline := state.baseline.observe (batch.signals.filterMap (·.signal)) },results)

def run (state : LocalState) (steps : List (Step ε)) : LocalState :=
  steps.foldl (fun state step => (p.process step.calls state step.batch).1) state

end LocalProcessor

def Step.of (tenant : String) (step : Step ε) : Bool := batchTenant step.batch = tenant

namespace LocalProcessor
variable (p : LocalProcessor) {ε : Type}

def resultsFor (tenant : String) : LocalState → List (Step ε) → List (List ScopeResult)
  | _,[] => []
  | state,step :: steps =>
    let (next,results) := p.process step.calls state step.batch
    if step.of tenant then results :: resultsFor tenant next steps else resultsFor tenant next steps

def enginesFor (tenant : String) : LocalState → List (Step ε) → List Engine
  | _,[] => []
  | state,step :: steps =>
    let next := (p.process step.calls state step.batch).1
    if step.of tenant then state.engine :: enginesFor tenant next steps else enginesFor tenant next steps

end LocalProcessor

def scopesIn (batches : List DataBatch) : List Labels := ((batches.flatMap itemLabels).map analysisSelector).filter (· ≠ ∅)

def keptSignals (batches : List DataBatch) (st : Store) : List Signal :=
  st.signals.filter fun sig => sig.where = .cloud && (scopesIn batches).any fun scope => labelSelectorMatches sig.labels scope

def keptIncidents (tenant : String) (st : Store) : List Incident := st.incidents.filter (·.tenantId = tenant)

/-! Scopes that no label map can be in at once. Two scopes conflict when they differ in a label that
both have. What is derived in a scope carries labels that all of its items have, so it is in no scope
that conflicts with it. -/
open KeyedMerge List

def Conflict (scope other : Labels) : Prop :=
  ∃ name ∈ scopeNames, scope.get name ≠ "" ∧ other.get name ≠ "" ∧ scope.get name ≠ other.get name

lemma scopeNames_ne_empty (named : name ∈ scopeNames) : name ≠ "" := by
  rintro rfl
  simp [scopeNames] at named

lemma matches_iff (labels source : Labels) : labelSelectorMatches labels (analysisSelector source) ↔
    ∀ name ∈ scopeNames, scopeValue source name ≠ "" → labels.get name = scopeValue source name := by
  simp only [labelSelectorMatches,decide_eq_true_eq,Finmap.mem_keys]
  have mem (name : String) : name ∈ analysisSelector source ↔ name ∈ scopeNames ∧ scopeValue source name ≠ "" := by
    rw [← mem_sortedKeys,sortedKeys_analysisSelector,mem_presentNames]
  have value := get_analysisSelector source
  generalize analysisSelector source = selector at mem value ⊢
  constructor
  · intro agree name named present
    rw [agree name ((mem name).mpr ⟨named,present⟩) (scopeNames_ne_empty named),value name named]
  intro agree name inside _
  obtain ⟨named,present⟩ := (mem name).mp inside
  rw [agree name named present,value name named]

lemma Conflict.symm (conflict : Conflict scope other) : Conflict other scope := by
  obtain ⟨name,named,one,two,differ⟩ := conflict
  exact ⟨name,named,two,one,differ.symm⟩

lemma Conflict.not_both (conflict : Conflict (analysisSelector source) (analysisSelector more))
    (one : labelSelectorMatches labels (analysisSelector source)) : labelSelectorMatches labels (analysisSelector more) = false := by
  obtain ⟨name,named,first,second,differ⟩ := conflict
  rw [get_analysisSelector _ name named] at first differ
  rw [get_analysisSelector _ name named] at second differ
  refine Bool.eq_false_iff.mpr fun two => differ ?_
  rw [← (matches_iff labels source).mp one name named first,(matches_iff labels more).mp two name named second]

lemma item_avoids (scope : analysisSelector more ≠ ∅)
    (apart : analysisSelector labels ≠ ∅ → Conflict (analysisSelector labels) (analysisSelector more)) :
    labelSelectorMatches labels (analysisSelector more) = false := by
  refine Bool.eq_false_iff.mpr fun inside => ?_
  have agree := (matches_iff labels more).mp inside
  have value (name : String) (named : name ∈ scopeNames) (present : scopeValue more name ≠ "") :
      scopeValue labels name = scopeValue more name := by
    rw [scopeValue,agree name named present]
    exact trimSpace_trimSpace _
  by_cases bare : analysisSelector labels = ∅
  · rw [analysisSelector_eq_empty_iff] at bare
    refine scope ((analysisSelector_eq_empty_iff more).mpr fun name named => ?_)
    by_contra present
    exact present ((value name named present).symm.trans (bare name named))
  · obtain ⟨name,named,-,second,differ⟩ := apart bare
    rw [get_analysisSelector _ name named] at second differ
    rw [get_analysisSelector _ name named] at differ
    exact differ (value name named second)

/-! Common labels. -/

lemma get_commonFrom (first : Labels) (maps : List Labels) (present : (commonFrom first maps).get name ≠ "") :
    (commonFrom first maps).get name = first.get name := by
  rw [Labels.get,lookup_commonFrom] at present ⊢
  by_cases agree : ∀ labels ∈ maps, labels.get name = first.get name
  · rw [if_pos agree]
    rfl
  · rw [if_neg agree] at present
    exact absurd rfl present

lemma first_of_commonFrom (inside : labelSelectorMatches (commonFrom first maps) (analysisSelector source)) :
    labelSelectorMatches first (analysisSelector source) := by
  rw [matches_iff] at inside ⊢
  intro name named present
  have value := inside name named present
  rw [← value,get_commonFrom first maps (by rwa [value])]

lemma commonFrom_matches (inside : ∀ labels ∈ maps, labelSelectorMatches labels (analysisSelector source))
    (here : labelSelectorMatches first (analysisSelector source)) :
    labelSelectorMatches (commonFrom first maps) (analysisSelector source) := by
  rw [matches_iff]
  intro name named present
  have value := (matches_iff first source).mp here name named present
  have agree : ∀ labels ∈ maps, labels.get name = first.get name := fun labels mem => by
    rw [value,(matches_iff labels source).mp (inside labels mem) name named present]
  rw [Labels.get,lookup_commonFrom,if_pos agree]
  exact value

lemma empty_avoids (scope : analysisSelector source ≠ ∅) : labelSelectorMatches ∅ (analysisSelector source) = false :=
  item_avoids scope fun some => absurd (by decide +kernel) some

variable {events : List CanonicalEvent} {signals : List Signal}

section
variable (scope : analysisSelector source ≠ ∅)
include scope

lemma commonLabels_avoids (evs : ∀ ev ∈ events, labelSelectorMatches ev.labels (analysisSelector source) = false)
    (sigs : ∀ sig ∈ signals, labelSelectorMatches sig.labels (analysisSelector source) = false) :
    labelSelectorMatches (commonLabels events signals) (analysisSelector source) = false := by
  cases shape : labelMaps events signals with
  | nil =>
    rw [commonLabels_nil shape]
    exact empty_avoids scope
  | cons first rest =>
    rw [commonLabels_eq shape]
    refine Bool.eq_false_iff.mpr fun inside => ?_
    have listed : first ∈ labelMaps events signals := shape ▸ mem_cons_self
    obtain ⟨item,-⟩ := mem_filter.mp listed
    rcases mem_append.mp item with mem | mem <;> obtain ⟨one,within,rfl⟩ := mem_map.mp mem
    · exact absurd (first_of_commonFrom inside) (by simp [evs one within])
    · exact absurd (first_of_commonFrom inside) (by simp [sigs one within])

lemma commonLabels_matches (evs : ∀ ev ∈ events, labelSelectorMatches ev.labels (analysisSelector source))
    (sigs : ∀ sig ∈ signals, labelSelectorMatches sig.labels (analysisSelector source)) (some : signals ≠ []) :
    labelSelectorMatches (commonLabels events signals) (analysisSelector source) := by
  have every : ∀ labels ∈ labelMaps events signals, labelSelectorMatches labels (analysisSelector source) := by
    intro labels listed
    obtain ⟨item,-⟩ := mem_filter.mp listed
    rcases mem_append.mp item with mem | mem <;> obtain ⟨one,within,rfl⟩ := mem_map.mp mem
    · exact evs one within
    · exact sigs one within
  cases shape : labelMaps events signals with
  | nil =>
    -- a signal of the scope has labels
    obtain ⟨sig,mem⟩ := exists_mem_of_ne_nil signals some
    have labelled : sig.labels ≠ ∅ := by
      intro bare
      have inside := sigs sig mem
      rw [bare,empty_avoids scope] at inside
      cases inside
    have listed : sig.labels ∈ labelMaps events signals := by
      simp only [labelMaps,mem_filter,mem_append]
      exact ⟨.inr (mem_map_of_mem mem),by simpa using labelled⟩
    rw [shape] at listed
    cases listed
  | cons first rest =>
    rw [commonLabels_eq shape]
    exact commonFrom_matches every (every first (shape ▸ mem_cons_self))

lemma incidentLabels_avoids (sigs : ∀ sig ∈ signals, labelSelectorMatches sig.labels (analysisSelector source) = false) :
    labelSelectorMatches (incidentLabels signals) (analysisSelector source) = false := by
  cases signals with
  | nil => exact empty_avoids scope
  | cons first rest =>
    have common : incidentLabels (first :: rest) = commonFrom first.labels (rest.map (·.labels)) := by
      rw [incidentLabels,commonFrom,foldl_map]
    refine Bool.eq_false_iff.mpr fun inside => ?_
    rw [common] at inside
    exact absurd (first_of_commonFrom inside) (by simp [sigs first mem_cons_self])

end

/-! What the analysis of a scope derives. -/

def cloudRuleNames : List String := [droppedPayload,webShellChain]

lemma mem_cloudSignals (mem : sig ∈ (cloudSignals go counter view policy).2) :
    sig.labels = view.labels ∧ sig.name ∈ cloudRuleNames ∧ view.signals ≠ [] := by
  have dropped_some : view.droppedFires policy = true → view.signals ≠ [] := by
    intro fires none
    simp [View.droppedFires,View.has,View.byName,none] at fires
  have web_some : view.webShellFires policy = true → view.signals ≠ [] := by
    intro fires none
    simp [View.webShellFires,View.has,View.byName,none] at fires
  cases dropped : view.droppedFires policy <;> cases web : view.webShellFires policy <;>
    simp [cloudSignals,dropped,web] at mem
  · exact ⟨mem ▸ rfl,by simp [mem,cloudSignal,cloudRuleNames],web_some web⟩
  · exact ⟨mem ▸ rfl,by simp [mem,cloudSignal,cloudRuleNames],dropped_some dropped⟩
  · rcases mem with rfl | rfl
    · exact ⟨rfl,by simp [cloudSignal,cloudRuleNames],web_some web⟩
    · exact ⟨rfl,by simp [cloudSignal,cloudRuleNames],web_some web⟩

namespace LocalProcessor
variable {p : LocalProcessor} {e : Engine} {st : Store} {batch : DataBatch} {upper : Int} {scope : TouchedScope}

lemma mem_scopeEvents (mem : ev ∈ scopeEvents st batch labels) : labelSelectorMatches ev.labels labels := by
  rcases mem_append.mp (mem_of_mem_mergeByKey mem) with stored | current
  · exact (mem_filter.mp stored).2
  · exact (mem_filter.mp current).2

lemma mem_scopeSignals (mem : sig ∈ p.scopeSignals st batch labels) :
    labelSelectorMatches sig.labels labels ∧ sig.where = .endpoint ∧ (sig ∈ st.signals ∨ sig ∈ batch.signals.filterMap (·.signal)) := by
  rcases mem_append.mp (mem_of_mem_mergeByKey mem) with stored | current
  · obtain ⟨inside,passes⟩ := mem_filter.mp stored
    simp only [Bool.and_eq_true] at passes
    refine ⟨passes.1,?_,.inl inside⟩
    cases layer : sig.where <;> simp_all [layerName]
  · obtain ⟨inside,passes⟩ := mem_filter.mp current
    simp only [Bool.and_eq_true,decide_eq_true_eq] at passes
    exact ⟨passes.2,passes.1,.inr inside⟩

lemma mem_analyzeScope_cloud (mem : sig ∈ ((p.numbered e).analyzeScope st batch upper scope).cloudSignals) :
    sig.where = .cloud ∧ sig.name ∈ cloudRuleNames ∧ p.scopeSignals st batch scope.labels ≠ [] ∧
      sig.labels = commonLabels (scopeEvents st batch scope.labels) (p.scopeSignals st batch scope.labels) := by
  rw [analyzeScope_eq] at mem
  simp only [analyzeWithPolicy_cloudSignals] at mem
  obtain ⟨labels,named,some⟩ := mem_cloudSignals mem
  refine ⟨cloudSignals_where mem,named,fun none => some ?_,labels⟩
  simp [build,none]

lemma mem_analyzeScope_incident (mem : inc ∈ ((p.numbered e).analyzeScope st batch upper scope).incidents) :
    inc.tenantId = scope.agent.normalized.tenantID ∧
      inc.contributingSignals = p.scopeSignals st batch scope.labels ++ ((p.numbered e).analyzeScope st batch upper scope).cloudSignals ∧
      inc.labels = incidentLabels inc.contributingSignals := by
  rw [analyzeScope_eq] at mem ⊢
  simp only [analyzeWithPolicy_cloudSignals] at mem ⊢
  obtain ⟨decision,incidents⟩ := analyzeWithPolicy_incidents p.go e (scopeEvents st batch scope.labels)
    (p.scopeSignals st batch scope.labels) (p.policyOf st scope.agent)
  rw [incidents] at mem
  obtain ⟨plain,listed,rfl⟩ := mem_map.mp mem
  split at listed
  · simp only [mem_singleton.mp listed,stampIncident,buildIncident,and_self]
  · cases listed

section
variable {source more : Labels} (named : scope.labels = analysisSelector source)
include named

lemma cloud_matches (nonempty : analysisSelector source ≠ ∅)
    (mem : sig ∈ ((p.numbered e).analyzeScope st batch upper scope).cloudSignals) :
    labelSelectorMatches sig.labels (analysisSelector source) := by
  obtain ⟨-,-,some,labels⟩ := mem_analyzeScope_cloud mem
  rw [labels]
  rw [named] at some ⊢
  exact commonLabels_matches nonempty (fun ev inside => mem_scopeEvents inside) (fun sig inside => (mem_scopeSignals inside).1) some

lemma cloud_avoids (nonempty : analysisSelector more ≠ ∅) (conflict : Conflict (analysisSelector source) (analysisSelector more))
    (mem : sig ∈ ((p.numbered e).analyzeScope st batch upper scope).cloudSignals) :
    labelSelectorMatches sig.labels (analysisSelector more) = false := by
  obtain ⟨-,-,-,labels⟩ := mem_analyzeScope_cloud mem
  rw [labels]
  rw [named]
  exact commonLabels_avoids nonempty (fun ev inside => conflict.not_both (mem_scopeEvents inside))
    (fun sig inside => conflict.not_both (mem_scopeSignals inside).1)

lemma incident_avoids (nonempty : analysisSelector more ≠ ∅) (conflict : Conflict (analysisSelector source) (analysisSelector more))
    (mem : inc ∈ ((p.numbered e).analyzeScope st batch upper scope).incidents) :
    labelSelectorMatches inc.labels (analysisSelector more) = false := by
  obtain ⟨-,contributing,labels⟩ := mem_analyzeScope_incident mem
  rw [labels,contributing]
  refine incidentLabels_avoids nonempty fun sig inside => ?_
  rcases mem_append.mp inside with stored | derived
  · rw [named] at stored
    exact conflict.not_both (mem_scopeSignals stored).1
  · exact cloud_avoids named nonempty conflict derived

end

end LocalProcessor

end SysArmor.Ingest
