import SysArmor.Digits
import SysArmor.SequenceGroups

/-! The detection engine: the state it keeps between events and `Process`, which tries the
expression rules, the sequence candidates and the correlate rules on an event, in this order.
The metrics counters are left out: nothing the engine decides reads them. -/
namespace SysArmor.Detection
open GoText

section
open Proto Digits

structure FactMatch where
  eventID : String
  entities : List EntityRef

structure CorrelateGroup where
  expiresAt : UInt64
  facts : AList fun _ : String => FactMatch := ∅

abbrev CorrelateGroups := AList fun _ : String => CorrelateGroup

structure EngineState where
  nextID : UInt64 := 0
  cep : AList fun _ : String => Groups := ∅
  cepActive : Waits := ∅
  correlate : AList fun _ : String => CorrelateGroups := ∅
  suppression : AList fun _ : String => Int := ∅

def EngineState.groupsOf (s : EngineState) (ruleID : String) : Groups := (s.cep.lookup ruleID).getD ∅

def riskForSeverity (go : Stdlib) (severity : String) : UInt32 :=
  match toLower go severity with
  | "critical" => 80
  | "high" => 55
  | "medium" => 35
  | "low" => 15
  | _ => 30

def confidenceForRule (go : Stdlib) (rule : EffectiveRule) : UInt32 :=
  let given (intent : Option ResponseIntentRef) := (intent.map (·.confidence)).getD 0
  if 0 < given rule.intent then given rule.intent
  else if 0 < given rule.spec.responseIntent then given rule.spec.responseIntent
  else match toLower go rule.severity with
    | "critical" => 80
    | "high" => 70
    | "medium" => 55
    | _ => 40

def cloneLabels (chance : Chance) (labels : Labels) : Labels :=
  (chance.visit labels).foldl
    (fun out entry => if trimSpace entry.1 = "" then out else out.insert (trimSpace entry.1) entry.2) ∅

def signalContentRefs (refs : List String) (resolved : ContentMap) : List ContentRef :=
  (refs.filter (trimSpace · ≠ "")).map fun ref =>
    let item := (resolved.lookup ref).getD {}
    { ref := item.ref, version := item.version, digest := item.digest }

def signalIntent (rule : EffectiveRule) (terminal : Bool) : Option ResponseIntent :=
  if terminal || rule.intent.isSome then
    match rule.intent <|> rule.spec.responseIntent with
    | none => none
    | some intent =>
      if intent.action = "" then none
      else some { responseIntent := intent.action, recommendedAction := intent.action,
                  confidence := intent.confidence, reason := intent.reason }
  else none

section Engine
variable (go : Stdlib) (e : Engine) (chance : Chance)

def signal (s : EngineState) (ev : CanonicalEvent) (rule : EffectiveRule) (refs : List String)
    (terminal : Bool) (entities : List EntityRef) : EngineState × Signal :=
  let refs := if appendRefs [] refs = [] then [ev.id] else appendRefs [] refs
  let nextID := s.nextID + 1
  let id := "sig-" ++ padded 20 nextID.toNat
  let ruleID := rule.spec.ruleID
  let version := rule.spec.version.toNat
  let ruleset := rule.spec.ruleSetRef
  let severity := rule.severity
  ({ s with nextID },
    { id, name := ruleID, ruleId := ruleID, ruleVersion := rule.spec.version, rulesetRef := ruleset
      «where» := .endpoint, baseRisk := riskForSeverity go severity, severity
      confidence := confidenceForRule go rule, mode := rule.mode, lineageId := ev.lineageId, entities
      eventRefs := refs, terminal, labels := cloneLabels chance ev.labels
      contextRefs := signalContentRefs rule.spec.contextRefs e.refs.contextRefs
      iocRefs := signalContentRefs rule.spec.iocRefs e.refs.iocRefs
      responseIntent := signalIntent rule terminal
      evidence :=
        if terminal then
          some { id := "evb-" ++ id, eventRefs := refs, rawRefs := [ev.rawRef], entities
                 summary := s!"rule={ruleID} version={version} ruleset={ruleset} severity={severity}" }
        else none })

def maxSuppressionKeys : Nat := 8192

def eventWallTime (ev : CanonicalEvent) : Int :=
  if 0 < ev.occurredAtNs then ev.occurredAtNs.toInt64.toInt
  else if 0 < ev.monoNs then ev.monoNs.toInt64.toInt
  else chance.clock

def evictSuppressions (now : Int) (table : AList fun _ : String => Int) : AList fun _ : String => Int :=
  if table.keys.length < maxSuppressionKeys then table
  else table.keys.foldl
    (fun out key => if (table.lookup key).any (· ≤ now) then out.erase key else out) table

def evictSuppressionLoop : Nat → (AList fun _ : String => Int) → AList fun _ : String => Int
  | 0, table => table
  | fuel + 1, table =>
    if table.keys.length < maxSuppressionKeys then table
    else match chance.pick table.keys with
      | none => table
      | some key => evictSuppressionLoop fuel (table.erase key)

def suppressSignal (s : EngineState) (key : String) (now window : Int) : EngineState × Bool :=
  if key = "" || window ≤ 0 then (s,false)
  else if (s.suppression.lookup key).any (now < ·) then (s,true)
  else
    let table := evictSuppressions now s.suppression
    let table := evictSuppressionLoop chance table.keys.length table
    ({ s with suppression := table.insert key (now + window) },false)

def suppressCompiledRule (s : EngineState) (view : EventView) (rule : CompiledExprRule) : EngineState × Bool :=
  if rule.suppressWithin ≤ 0 || rule.suppressBy = [] then (s,false)
  else
    let parts := rule.suppressBy.map fun field => fieldName field ++ "=" ++ view.field field
    suppressSignal chance s (join (("rule=" ++ rule.rule.spec.ruleID) :: parts) "|")
      (eventWallTime chance view.ev) rule.suppressWithin

def detectExprRule (view : EventView) (s : EngineState) (rule : CompiledExprRule) :
    EngineState × Option Signal :=
  if rule.rule.enabled && matchCompiledConditions go view rule.conditions none &&
      matchCompiledConditionNode go view rule.conditionGroup none then
    match suppressCompiledRule chance s view rule with
    | (s,true) => (s,none)
    | (s,false) =>
      let (s,sig) := signal go e chance s view.ev rule.rule [view.eventID] (rule.rule.terminal false)
        (eventEntities go view.ev)
      (s,some sig)
  else (s,none)

def detectSequenceCandidate (view : EventView) (s : EngineState) (c : SequenceCandidate) :
    EngineState × Option Signal :=
  if c.rule.rule.enabled && c.rule.sequence.steps ≠ [] then
    let ruleID := c.rule.rule.spec.ruleID
    let (after,done) := offerCandidate go e.limits chance view c ⟨s.groupsOf ruleID,s.cepActive⟩
    let s := { s with cep := s.cep.insert ruleID after.groups, cepActive := after.active }
    match done with
    | none => (s,none)
    | some (refs,entities) =>
      let (s,sig) := signal go e chance s view.ev c.rule.rule refs (c.rule.rule.terminal true) entities
      (s,some sig)
  else (s,none)

end Engine

def CorrelateGroup.expired (group : CorrelateGroup) (now : UInt64) : Bool :=
  0 < group.expiresAt && group.expiresAt < now

def evictCorrelateLoop (limit : Nat) (chance : Chance) : Nat → CorrelateGroups → CorrelateGroups
  | 0, groups => groups
  | fuel + 1, groups =>
    if groups.keys.length < limit then groups
    else match chance.pick groups.keys with
      | none => groups
      | some key => evictCorrelateLoop limit chance fuel (groups.erase key)

def evictCorrelateGroups (limits : EngineLimits) (chance : Chance) (now : UInt64)
    (groups : CorrelateGroups) : CorrelateGroups :=
  if groups.keys.length < limits.maxCEPGroups then groups
  else
    let swept := groups.keys.foldl
      (fun out key => if (groups.lookup key).any (·.expired now) then out.erase key else out) groups
    evictCorrelateLoop limits.maxCEPGroups chance swept.keys.length swept

section Engine
variable (go : Stdlib) (e : Engine) (chance : Chance)

def matchCorrelateFacts (view : EventView) (facts : List CompiledFact) : List CompiledFact :=
  facts.filter fun fact => fact.behaviors.contains view.behavior &&
    matchCompiledConditions go view fact.conditions none &&
    matchCompiledConditionNode go view fact.conditionGroup none

def correlateEvidence (group : CorrelateGroup) (facts : List CompiledFact) : Completion :=
  let found := facts.map fun fact => (group.facts.lookup fact.id).getD ⟨"",[]⟩
  (boundRefs e.limits.maxCEPRefs (appendRefs [] (found.map (·.eventID))),
    found.foldl (fun out fact => appendUniqueEntities out fact.entities) [])

def recordFacts (view : EventView) (s : EngineState) (rule : CompiledCorrelateRule)
    (matched : List CompiledFact) (groups : CorrelateGroups) (group : CorrelateGroup) :
    EngineState × Option Signal :=
  let ruleID := rule.rule.spec.ruleID
  let key := compiledSequenceGroupKey view rule.by_
  let facts := matched.foldl
    (fun out fact => out.insert fact.id ⟨view.eventID,eventEntities go view.ev⟩) group.facts
  let group := { group with facts }
  if facts.keys.length < rule.facts.length then
    ({ s with correlate := s.correlate.insert ruleID (groups.insert key group) },none)
  else
    let (refs,entities) := correlateEvidence e group rule.facts
    let (s,sig) := signal go e chance { s with correlate := s.correlate.insert ruleID (groups.erase key) }
      view.ev rule.rule refs (rule.rule.terminal false) entities
    (s,some sig)

def detectCorrelateRule (view : EventView) (s : EngineState) (rule : CompiledCorrelateRule) :
    EngineState × Option Signal :=
  let ruleID := rule.rule.spec.ruleID
  let key := compiledSequenceGroupKey view rule.by_
  let now := view.eventTime
  let groups := (s.correlate.lookup ruleID).getD ∅
  let groups := if (groups.lookup key).any (·.expired now) then groups.erase key else groups
  match matchCorrelateFacts go view rule.facts,groups.lookup key with
  | [],_ => ({ s with correlate := s.correlate.insert ruleID groups },none)
  | matched,some group => recordFacts go e chance view s rule matched groups group
  | matched,none => recordFacts go e chance view s rule matched
      (evictCorrelateGroups e.limits chance now groups) { expiresAt := now + UInt64.ofInt rule.within }

def detectAll (detect : EngineState → α → EngineState × Option Signal) :
    List α → EngineState → EngineState × List Signal
  | [], s => (s,[])
  | item :: rest, s =>
    let (s,found) := detect s item
    let (s,signals) := detectAll detect rest s
    (s,found.toList ++ signals)

/-- `candidatesForBehavior`: the first steps with the behaviour, the later steps with it of
rules that wait for it, and the steps that name no behaviour. -/
def candidatesForBehavior (behavior : String) (active : Waits) : List SequenceCandidate :=
  e.sequence.filter (fun c => c.firstStep && c.behavior ≠ "" && c.behavior = behavior) ++
  (e.sequence.filter (fun c => !c.firstStep && c.behavior ≠ "" && c.behavior = behavior)).filter
    (fun c => 0 < active.count behavior c.rule.rule.spec.ruleID) ++
  e.sequence.filter (fun c => c.behavior = "")

def detectCEPRules (view : EventView) (s : EngineState) : EngineState × List Signal :=
  let (s,byExpr) := detectAll (detectExprRule go e chance view) (e.rulesForBehavior go view.behavior) s
  let (s,bySequence) := detectAll (detectSequenceCandidate go e chance view)
    (candidatesForBehavior e view.behavior s.cepActive) s
  let (s,byCorrelate) := detectAll (detectCorrelateRule go e chance view)
    (e.correlatedForBehavior view.behavior) s
  (s,byExpr ++ bySequence ++ byCorrelate)

def process (s : EngineState) (ev : CanonicalEvent) : EngineState × List Signal :=
  if ev.subjectProc.isNone then (s,[]) else detectCEPRules go e chance (newEventView go ev) s

end Engine

structure Turn where
  event : CanonicalEvent
  chance : Chance

def processAll (go : Stdlib) (e : Engine) : List Turn → EngineState → EngineState × List (List Signal)
  | [], s => (s,[])
  | turn :: rest, s =>
    let (s,signals) := process go e turn.chance s turn.event
    let (s,others) := processAll go e rest s
    (s,signals :: others)
end

/-! What acceptance gives: in the engine built for a policy the rule ids are distinct, every
step of a sequence names a behaviour, and the candidates under a rule's id are its own. -/
open List

lemma duplicateRules_nil {seen : List String} {rules : List EffectiveRule} (clean : duplicateRules seen rules = []) :
    (rules.map (·.spec.ruleID)).Nodup ∧ ∀ rule ∈ rules, rule.spec.ruleID ∉ seen := by
  induction rules generalizing seen with
  | nil => simp
  | cons rule rules ih =>
    simp only [duplicateRules,append_eq_nil_iff] at clean
    obtain ⟨fresh,rest⟩ := clean
    obtain ⟨nodup,apart⟩ := ih rest
    have unseen : rule.spec.ruleID ∉ seen := by
      intro mem
      simp [mem] at fresh
    constructor
    · rw [map_cons,nodup_cons]
      refine ⟨?_,nodup⟩
      intro mem
      obtain ⟨other,among,same⟩ := mem_map.mp mem
      exact apart other among (by simp [same])
    · intro other mem
      rcases mem_cons.mp mem with rfl | later
      · exact unseen
      · exact fun early => apart other later (mem_cons_of_mem _ early)

variable {go : Stdlib} {strategy : Strategy} {policy : Option DetectionPolicy} {content : ContentSnapshot}
  {limits : EngineLimits} {e : Engine}

lemma accepted_iff : newWithRuntimeLimits go strategy policy content limits = .ok e ↔
    selectionErrors go (policyInForce policy) content = [] ∧
      e = compileEngine go strategy (resolveRules (policyInForce policy) content) content.toContentRefs limits := by
  unfold newWithRuntimeLimits
  simp only []
  cases errors : selectionErrors go (policyInForce policy) content with
  | nil => simp [eq_comm]
  | cons error others => simp

lemma selectionErrors_nil {policy : DetectionPolicy} (clean : selectionErrors go policy content = []) :
    duplicateRules [] (resolveRules policy content) = [] ∧ validateEffectiveRules go (resolveRules policy content) = [] ∧
      ∀ rule ∈ resolveRules policy content, validateRuleSpec go rule.spec = [] := by
  unfold selectionErrors at clean
  split at clean
  · cases clean
  cases selection : validateRuleSelection policy content with
  | cons error others => simp [selection] at clean
  | nil =>
    simp only [selection,append_eq_nil_iff] at clean
    simp only [validateRuleSelection,append_eq_nil_iff] at selection
    exact ⟨selection.2,clean.1.1,flatMap_eq_nil_iff.mp clean.1.2⟩

variable {kind : String} {rule : EffectiveRule}

lemma ruleRuntimeType_eq (runs : rule.runtimeType go = kind) (named : kind ≠ "") : ruleRuntimeType go rule.spec = kind := by
  simp only [EffectiveRule.runtimeType] at runs
  split at runs
  · rename_i typed
    rwa [ruleRuntimeType,if_pos typed]
  rename_i untyped
  rw [ruleRuntimeType,if_neg untyped]
  split at runs
  · exact runs
  · exact absurd runs.symm named

lemma compiledStep_behavior {content : ContentRefs} {step : CompiledStep}
    (mem : step ∈ (compileSequenceRule go strategy content rule).sequence.steps) :
    ∃ given ∈ rule.spec.sequence.steps, step.behavior = normalizeBehavior go given.behavior := by
  simp only [compileSequenceRule,attachSequenceSaveFields,mem_mapIdx,getElem_map] at mem
  obtain ⟨index,bound,rfl⟩ := mem
  exact ⟨_,getElem_mem _,rfl⟩

lemma compiledSteps_length (go : Stdlib) (strategy : Strategy) (rule : EffectiveRule) (content : ContentRefs) :
    (compileSequenceRule go strategy content rule).sequence.steps.length = rule.spec.sequence.steps.length := by
  simp [compileSequenceRule,attachSequenceSaveFields]

lemma candidates_rule {rule : CompiledSequenceRule} {c : SequenceCandidate} (mem : c ∈ rule.candidates) : c.rule = rule := by
  unfold CompiledSequenceRule.candidates at mem
  split at mem
  · cases mem
  rcases mem_cons.mp mem with rfl | later
  · rfl
  · obtain ⟨index,-,rfl⟩ := mem_map.mp later
    rfl

lemma filter_candidates {rules : List CompiledSequenceRule} (nodup : (rules.map (·.rule.spec.ruleID)).Nodup)
    {rule : CompiledSequenceRule} (mem : rule ∈ rules) :
    (rules.flatMap (·.candidates)).filter (fun c => c.rule.rule.spec.ruleID = rule.rule.spec.ruleID) = rule.candidates := by
  have own (other : CompiledSequenceRule) :
      other.candidates.filter (fun c => c.rule.rule.spec.ruleID = rule.rule.spec.ruleID) =
        if other.rule.spec.ruleID = rule.rule.spec.ruleID then other.candidates else [] := by
    split
    · rename_i same
      apply filter_eq_self.mpr
      intro c among
      simp [candidates_rule among,same]
    · rename_i ne
      apply filter_eq_nil_iff.mpr
      intro c among
      simp [candidates_rule among,ne]
  induction rules with
  | nil => cases mem
  | cons first rules ih =>
    rw [map_cons,nodup_cons] at nodup
    rw [flatMap_cons,filter_append,own]
    rcases mem_cons.mp mem with rfl | later
    · have others : (rules.flatMap (·.candidates)).filter
          (fun c => c.rule.rule.spec.ruleID = rule.rule.spec.ruleID) = [] := by
        apply filter_eq_nil_iff.mpr
        intro c among
        obtain ⟨other,there,mine⟩ := mem_flatMap.mp among
        have apart : other.rule.spec.ruleID ≠ rule.rule.spec.ruleID :=
          fun same => nodup.1 (mem_map.mpr ⟨other,there,same⟩)
        simpa [candidates_rule mine] using apart
      simp [others]
    · have apart : first.rule.spec.ruleID ≠ rule.rule.spec.ruleID :=
        fun same => nodup.1 (mem_map.mpr ⟨rule,later,same.symm⟩)
      simp [apart,ih nodup.2 later]

lemma validateEffectiveRule_sequence (kind : rule.runtimeType go = "sequence") (clean : validateEffectiveRule go rule = []) :
    rule.spec.sequence.steps ≠ [] ∧ ∀ step ∈ rule.spec.sequence.steps, trimSpace step.behavior ≠ "" := by
  simp only [validateEffectiveRule,kind,append_eq_nil_iff,if_true] at clean
  obtain ⟨⟨-,filled,texts⟩,-⟩ := clean
  constructor
  · intro empty
    simp [empty] at filled
  intro step mem blank
  have checked := flatMap_eq_nil_iff.mp texts step mem
  simp [validateStepTexts,blank] at checked

structure Runs (e : Engine) (rule : CompiledSequenceRule) : Prop where
  enabled : rule.rule.enabled = true
  steps : rule.sequence.steps ≠ []
  named : ∀ step ∈ rule.sequence.steps, step.behavior ≠ ""
  candidates : e.sequence.filter (fun c => c.rule.rule.spec.ruleID = rule.rule.spec.ruleID) = rule.candidates
  exprs : ∀ other ∈ e.compiled, other.rule.spec.ruleID ≠ rule.rule.spec.ruleID
  correlated : ∀ other ∈ e.correlation, other.rule.spec.ruleID ≠ rule.rule.spec.ruleID

section
variable (ok : newWithRuntimeLimits go strategy policy content limits = .ok e)
include ok

lemma accepted_distinct {first second : EffectiveRule} (one : first ∈ e.rules) (other : second ∈ e.rules)
    (same : first.spec.ruleID = second.spec.ruleID) : first = second := by
  obtain ⟨clean,rfl⟩ := accepted_iff.mp ok
  exact inj_on_of_nodup_map (duplicateRules_nil (selectionErrors_nil clean).1).1 one other same

lemma accepted_apart {other : EffectiveRule} (mem : rule ∈ e.rules) (among : other ∈ ofRuntime go kind e.rules)
    (ne : rule.runtimeType go ≠ kind) : other.spec.ruleID ≠ rule.spec.ruleID := by
  intro same
  obtain ⟨listed,runs⟩ := mem_filter.mp among
  obtain rfl := accepted_distinct ok listed mem same
  simp [ne] at runs

lemma accepted_enabled (mem : rule ∈ e.rules) : rule.enabled = true := by
  obtain ⟨-,rfl⟩ := accepted_iff.mp ok
  simpa using (mem_filter.mp mem).2

lemma accepted_runs (mem : rule ∈ e.rules) (kind : rule.runtimeType go = "sequence") :
    Runs e (compileSequenceRule go strategy content.toContentRefs rule) := by
  have enabled := accepted_enabled ok mem
  have apart {other : EffectiveRule} {runtime : String} (among : other ∈ ofRuntime go runtime e.rules)
      (ne : "sequence" ≠ runtime) : other.spec.ruleID ≠ rule.spec.ruleID :=
    accepted_apart ok mem among (kind ▸ ne)
  obtain ⟨clean,rfl⟩ := accepted_iff.mp ok
  obtain ⟨distinct,valid,-⟩ := selectionErrors_nil clean
  obtain ⟨filled,texts⟩ := validateEffectiveRule_sequence kind (flatMap_eq_nil_iff.mp valid rule mem)
  exact {
    enabled := enabled
    steps := by
      intro empty
      have none := compiledSteps_length go strategy rule content.toContentRefs
      rw [empty] at none
      exact filled (length_eq_zero_iff.mp none.symm)
    named := by
      intro step among
      obtain ⟨given,there,behavior⟩ := compiledStep_behavior among
      rw [behavior,normalizeBehavior]
      exact fun blank => texts given there (trimSpace_toLower_eq_empty.mp blank)
    candidates := by
      apply filter_candidates
      · rw [map_map]
        exact (duplicateRules_nil distinct).1.sublist (filter_sublist.map _)
      · apply mem_map_of_mem
        exact mem_filter.mpr ⟨mem,by simp [enabled,kind]⟩
    exprs := by
      intro other among
      obtain ⟨given,there,rfl⟩ := mem_map.mp among
      exact apart there (by simp)
    correlated := by
      intro other among
      obtain ⟨given,there,rfl⟩ := mem_map.mp among
      exact apart there (by simp) }

end

end SysArmor.Detection
