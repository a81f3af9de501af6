import SysArmor.Conditions

/-! Detection rules as content delivers them, the rules a policy selects from a content
snapshot, and the checks a selection has to pass before an engine runs it. -/
namespace SysArmor.Detection
open GoText

/-- Durations are in nanoseconds, as `time.Duration` is. -/
structure SequenceStep where
  (id behavior : String := "")
  conditions : List ConditionSpec := []
  conditionGroup : Option ConditionNodeSpec := none

structure SequenceSpec where
  within : Int := 0
  by_ : List String := []
  steps : List SequenceStep := []

structure FactSpec where
  (id event : String := "")
  events : List String := []
  conditions : List ConditionSpec := []
  conditionGroup : Option ConditionNodeSpec := none

structure CorrelateSpec where
  within : Int := 0
  withinText : String := ""
  by_ : List String := []
  facts : List FactSpec := []

structure ExprSpec where
  conditions : List ConditionSpec := []
  conditionGroup : Option ConditionNodeSpec := none

structure SuppressionSpec where
  within : Int := 0
  by_ : List String := []

structure RequiredEventSpec where
  behavior : String := ""
  fields : List String := []

structure ResponseIntentRef where
  action : String := ""
  confidence : UInt32 := 0
  reason : String := ""

structure RuleSpec where
  ruleID : String := ""
  version : UInt64 := 0
  (ruleSetRef severity runtime runtimeType : String := "")
  expr : ExprSpec := {}
  sequence : SequenceSpec := {}
  correlate : CorrelateSpec := {}
  suppression : SuppressionSpec := {}
  requiredEvents : List RequiredEventSpec := []
  (requiredBehaviors contextRefs iocRefs : List String := [])
  responseIntent : Option ResponseIntentRef := none
  terminal : Option Bool := none

structure ContentSnapshot extends ContentRefs where
  rules : List RuleSpec := []

structure RuleSetRef where
  ref : String := ""
  enabled : Option Bool := none

structure RuleOverride where
  ruleID : String := ""
  enabled : Option Bool := none
  (mode severity : String := "")
  responseIntent : Option ResponseIntentRef := none

structure DetectionPolicy where
  mode : String := ""
  ruleSets : List RuleSetRef := []
  ruleOverrides : List RuleOverride := []

structure EffectiveRule where
  spec : RuleSpec
  enabled : Bool := true
  (mode severity : String := "")
  intent : Option ResponseIntentRef := none

def normalizeDetectionPolicy (policy : DetectionPolicy) : DetectionPolicy :=
  { policy with mode := if policy.mode = "" then "observe" else policy.mode }

def DetectionPolicy.ruleSetEnabled (policy : DetectionPolicy) (ref : String) : Bool :=
  match policy.ruleSets.reverse.find? fun entry => entry.ref ≠ "" && entry.ref = ref with
  | none => false
  | some entry => entry.enabled.getD true

def DetectionPolicy.overrideOf (policy : DetectionPolicy) (ruleID : String) : Option RuleOverride :=
  policy.ruleOverrides.reverse.find? fun entry => entry.ruleID ≠ "" && entry.ruleID = ruleID

def RuleOverride.apply (entry : RuleOverride) (rule : EffectiveRule) : EffectiveRule :=
  { rule with
    enabled := entry.enabled.getD rule.enabled
    mode := if entry.mode ≠ "" then entry.mode else rule.mode
    severity := if entry.severity ≠ "" then entry.severity else rule.severity
    intent := entry.responseIntent <|> rule.intent }

def effectiveRule (policy : DetectionPolicy) (spec : RuleSpec) : EffectiveRule :=
  let rule : EffectiveRule :=
    { spec, mode := firstNonEmpty [policy.mode,"observe"], severity := spec.severity,
      intent := spec.responseIntent }
  (policy.overrideOf spec.ruleID).elim rule (·.apply rule)

def resolveRules (policy : DetectionPolicy) (content : ContentSnapshot) : List EffectiveRule :=
  ((content.rules.filter fun spec => policy.ruleSetEnabled spec.ruleSetRef).map
    (effectiveRule policy)).filter (·.enabled)

/-- The runtime of a rule; an unknown text in the older `runtime` field reads as none. -/
def EffectiveRule.runtimeType (go : Stdlib) (rule : EffectiveRule) : String :=
  if rule.spec.runtimeType ≠ "" then toLower go (trimSpace rule.spec.runtimeType)
  else
    let runtime := toLower go (trimSpace rule.spec.runtime)
    if ["expr","sequence","correlate"].contains runtime then runtime else ""

def ruleRuntimeType (go : Stdlib) (rule : RuleSpec) : String :=
  if rule.runtimeType ≠ "" then toLower go (trimSpace rule.runtimeType)
  else toLower go (trimSpace rule.runtime)

def EffectiveRule.terminal (rule : EffectiveRule) (defaultValue : Bool) : Bool :=
  rule.spec.terminal.getD defaultValue

def duplicateRules : List String → List EffectiveRule → List String
  | _, [] => []
  | seen, rule :: rest =>
    let id := rule.spec.ruleID
    (if seen.contains id then [s!"duplicate rule id {id}"] else []) ++ duplicateRules (id :: seen) rest

def validateRuleSelection (policy : DetectionPolicy) (content : ContentSnapshot) : List String :=
  let missing := policy.ruleSets.filter fun entry => entry.ref ≠ "" && entry.enabled.getD true &&
    !content.rules.any (·.ruleSetRef = entry.ref)
  missing.map (fun entry => let ref := entry.ref; s!"ruleset {ref} is not available") ++
    duplicateRules [] (resolveRules policy content)

def validateStepTexts (ruleID : String) (step : SequenceStep) : List String :=
  let id := step.id
  (if trimSpace step.id = "" then [s!"rule {ruleID} sequence step id is required"] else []) ++
  (if trimSpace step.behavior = "" then [s!"rule {ruleID} sequence step {id} behavior is required"] else [])

def validateEffectiveRule (go : Stdlib) (rule : EffectiveRule) : List String :=
  let kind := rule.runtimeType go
  let id := rule.spec.ruleID
  let quoted := go.quote kind
  (if ["","expr","sequence","correlate"].contains kind then []
    else [s!"rule {id} has unsupported runtime type {quoted}"]) ++
  (if kind = "expr" && rule.spec.expr.conditions.isEmpty && rule.spec.expr.conditionGroup.isNone then
    [s!"rule {id} expr runtime requires conditions"] else []) ++
  (if kind = "sequence" then
    (if rule.spec.sequence.steps.isEmpty then [s!"rule {id} sequence runtime requires steps"] else []) ++
      rule.spec.sequence.steps.flatMap (validateStepTexts id) else []) ++
  (if kind = "correlate" && rule.spec.correlate.facts.isEmpty then
    [s!"rule {id} correlate runtime requires facts"] else [])

def validateEffectiveRules (go : Stdlib) (rules : List EffectiveRule) : List String :=
  rules.flatMap (validateEffectiveRule go)

/-! The field-by-field checks of a rule: conditions, condition trees, sequences, correlation
and suppression. A rule set is accepted when no check reports an error. -/

def maxSuppressionWindow : Int := 24 * 60 * 60 * 1000000000
def maxConditionTreeDepth : Nat := 8
def maxConditionTreeLeaves : Nat := 256

section
variable (go : Stdlib) (ruleID location : String)

/-- `prior` holds the steps a `same_as` condition may refer to; it is `none` outside sequences. -/
def validateCondition (prior : Option (List String)) (condition : ConditionSpec) : List String :=
  let field := go.quote condition.field
  let op := go.quote condition.op
  let step := trimSpace condition.step
  let quotedStep := go.quote step
  let stepField := go.quote condition.stepField
  (if compileField condition.field = .unknown then
    [s!"rule {ruleID} {location} has unsupported field {field}"] else []) ++
  match compileOp go condition.op with
  | .unsupported => [s!"rule {ruleID} {location} has unsupported operator {op}"]
  | .sameAs =>
    (if step = "" || !(prior.getD []).contains step then
      [s!"rule {ruleID} {location} same_as references unknown prior step {quotedStep}"] else []) ++
    (if compileField (firstNonEmpty [condition.stepField,condition.field]) = .unknown then
      [s!"rule {ruleID} {location} has unsupported step field {stepField}"] else [])
  | _ => []

def validateConditions (conditions : List ConditionSpec) (prior : Option (List String)) : List String :=
  conditions.flatMap (validateCondition go ruleID location prior)

mutual
def validateConditionNode (prior : Option (List String)) (depth leaves : Nat) :
    ConditionNodeSpec → List String × Nat
  | .mk all any negated condition =>
    if maxConditionTreeDepth < depth then
      let maximum := maxConditionTreeDepth
      ([s!"rule {ruleID} {location} condition tree exceeds maximum depth {maximum}"],leaves)
    else match all,any,negated,condition with
      | none,none,none,some condition =>
        if maxConditionTreeLeaves < leaves + 1 then
          let maximum := maxConditionTreeLeaves
          ([s!"rule {ruleID} {location} condition tree exceeds maximum leaves {maximum}"],leaves + 1)
        else (validateConditions go ruleID location [condition] prior,leaves + 1)
      | none,none,some node,none => validateConditionNode prior (depth + 1) leaves node
      | some [],none,none,none => ([s!"rule {ruleID} {location} all requires children"],leaves)
      | none,some [],none,none => ([s!"rule {ruleID} {location} any requires children"],leaves)
      | some children,none,none,none => validateConditionNodes prior (depth + 1) leaves children
      | none,some children,none,none => validateConditionNodes prior (depth + 1) leaves children
      | _,_,_,_ => ([s!"rule {ruleID} {location} condition node must set exactly one kind"],leaves)

def validateConditionNodes (prior : Option (List String)) (depth leaves : Nat) :
    List ConditionNodeSpec → List String × Nat
  | [] => ([],leaves)
  | node :: rest =>
    let first := validateConditionNode prior depth leaves node
    let others := validateConditionNodes prior depth first.2 rest
    (first.1 ++ others.1,others.2)
end

def validateConditionTree (node : Option ConditionNodeSpec) (prior : Option (List String)) : List String :=
  node.elim [] fun node => (validateConditionNode go ruleID location prior 1 0 node).1

end

section
variable (go : Stdlib) (rule : RuleSpec)

def unsupportedFields (fields : List String) (report : String → String) : List String :=
  (fields.filter fun field => compileField field = .unknown).map fun field => report (go.quote field)

def validateSteps : List String → List SequenceStep → List String
  | _, [] => []
  | prior, step :: rest =>
    let ruleID := rule.ruleID
    let id := trimSpace step.id
    let quoted := go.quote id
    (if prior.contains id then [s!"rule {ruleID} sequence has duplicate step {quoted}"] else []) ++
    validateConditions go ruleID ("step " ++ id) step.conditions (some prior) ++
    validateConditionTree go ruleID ("step " ++ id) step.conditionGroup (some prior) ++
    validateSteps (id :: prior) rest

def validateSequence : List String :=
  let ruleID := rule.ruleID
  unsupportedFields go rule.sequence.by_
    (fun field => s!"rule {ruleID} sequence has unsupported by field {field}") ++
  validateSteps go rule [] rule.sequence.steps

def validateCorrelateFacts : List String → List FactSpec → List String
  | _, [] => []
  | seen, fact :: rest =>
    let ruleID := rule.ruleID
    let id := trimSpace fact.id
    let quoted := go.quote id
    (if id = "" then [s!"rule {ruleID} correlate fact id is required"]
      else if seen.contains id then [s!"rule {ruleID} correlate has duplicate fact {quoted}"] else []) ++
    (if decide (trimSpace fact.event ≠ "") = !fact.events.isEmpty then
      [s!"rule {ruleID} correlate fact {id} must set exactly one of event or events"] else []) ++
    ((fact.events.filter (trimSpace · = "")).map
      fun _ => s!"rule {ruleID} correlate fact {id} behavior is required") ++
    validateConditions go ruleID ("fact " ++ id) fact.conditions none ++
    validateConditionTree go ruleID ("fact " ++ id) fact.conditionGroup none ++
    validateCorrelateFacts (id :: seen) rest

def validateCorrelate : List String :=
  let spec := rule.correlate
  let ruleID := rule.ruleID
  let window := go.quote spec.withinText
  (if spec.withinText ≠ "" && !go.validDuration spec.withinText then
    [s!"rule {ruleID} has invalid correlate window {window}"] else []) ++
  (if spec.within ≤ 0 || maxSuppressionWindow < spec.within then
    [s!"rule {ruleID} correlate window must be within (0, 24h0m0s]"] else []) ++
  (if spec.by_.isEmpty then [s!"rule {ruleID} correlate by field is required"] else []) ++
  unsupportedFields go spec.by_
    (fun field => s!"rule {ruleID} has unsupported correlate by field {field}") ++
  (if spec.facts.length < 2 then [s!"rule {ruleID} correlate requires at least two facts"] else []) ++
  validateCorrelateFacts go rule [] spec.facts

def validateSuppression : List String :=
  let suppression := rule.suppression
  let ruleID := rule.ruleID
  if suppression.within = 0 && suppression.by_.isEmpty then []
  else
    (if ruleRuntimeType go rule ≠ "expr" then [s!"rule {ruleID} suppression requires expr runtime"] else []) ++
    (if suppression.within ≤ 0 || maxSuppressionWindow < suppression.within then
      [s!"rule {ruleID} suppression window must be between 0 and 24h0m0s"] else []) ++
    (if suppression.by_.isEmpty then [s!"rule {ruleID} suppression by field is required"] else []) ++
    unsupportedFields go suppression.by_
      (fun field => s!"rule {ruleID} has unsupported suppression by field {field}")

def validateRuleSpec : List String :=
  validateSuppression go rule ++
  match ruleRuntimeType go rule with
  | "expr" =>
    validateConditions go rule.ruleID "expr" rule.expr.conditions none ++
      validateConditionTree go rule.ruleID "expr" rule.expr.conditionGroup none
  | "sequence" => validateSequence go rule
  | "correlate" => validateCorrelate go rule
  | _ => []

end

def validateContentRefs (rule : EffectiveRule) (content : ContentRefs) : List String :=
  let id := rule.spec.ruleID
  ((rule.spec.contextRefs.filter fun ref => content.contextRefs.lookup ref |>.isNone).map
    fun ref => s!"rule {id} requires missing context ref {ref}") ++
  ((rule.spec.iocRefs.filter fun ref => content.iocRefs.lookup ref |>.isNone).map
    fun ref => s!"rule {id} requires missing IOC ref {ref}")

def selectionErrors (go : Stdlib) (policy : DetectionPolicy) (content : ContentSnapshot) : List String :=
  let rules := resolveRules policy content
  if policy.ruleSets.isEmpty then ["detection policy requires at least one explicit ruleset"]
  else match validateRuleSelection policy content with
    | [] => validateEffectiveRules go rules ++ rules.flatMap (fun rule => validateRuleSpec go rule.spec) ++
        rules.flatMap (validateContentRefs · content.toContentRefs)
    | errors => errors

/-! The compiled form of the accepted rules, the tables by behaviour in which the engine looks
them up, and the construction of an engine from a policy and a content snapshot. A table that
the source fills rule by rule is given by what a lookup in it returns. -/

structure CompiledExprRule where
  rule : EffectiveRule
  conditions : List CompiledCondition
  conditionGroup : Option CompiledConditionNode
  suppressWithin : Int
  suppressBy : List FieldID

structure CompiledStep where
  (id behavior : String)
  conditions : List CompiledCondition := []
  conditionGroup : Option CompiledConditionNode := none
  saveFields : List FieldID := []

structure CompiledSequence where
  within : Int
  by_ : List FieldID
  steps : List CompiledStep

structure CompiledSequenceRule where
  rule : EffectiveRule
  sequence : CompiledSequence

structure SequenceCandidate where
  rule : CompiledSequenceRule
  stepIndex : Nat := 0
  firstStep : Bool := false

structure CompiledFact where
  id : String
  behaviors : List String
  conditions : List CompiledCondition
  conditionGroup : Option CompiledConditionNode

structure CompiledCorrelateRule where
  rule : EffectiveRule
  within : Int
  by_ : List FieldID
  facts : List CompiledFact

def CompiledStep.allConditions (step : CompiledStep) : List CompiledCondition :=
  step.conditions ++ step.conditionGroup.elim [] appendCompiledNodeConditions

def stepIndexOf (steps : List CompiledStep) (id : String) : Option Nat :=
  (List.range steps.length).reverse.find? fun i => id ≠ "" && steps[i]?.any (·.id = id)

/-- Every step saves the fields that a `same_as` condition of the rule refers to it for. -/
def attachSequenceSaveFields (steps : List CompiledStep) : List CompiledStep :=
  let references := (steps.flatMap (·.allConditions)).filter fun cond => cond.op = .sameAs && cond.step ≠ ""
  steps.mapIdx fun i step =>
    { step with saveFields := FieldID.all.filter fun field =>
        references.any fun cond => cond.stepField = field && stepIndexOf steps cond.step = some i }

section Compile
variable (go : Stdlib) (strategy : Strategy) (content : ContentRefs)

def compileExprRule (rule : EffectiveRule) : CompiledExprRule where
  rule := rule
  conditions := compileConditions go strategy content rule.spec.expr.conditions
  conditionGroup := rule.spec.expr.conditionGroup.map (compileConditionNode go strategy content)
  suppressWithin := rule.spec.suppression.within
  suppressBy := compileFields rule.spec.suppression.by_

def compileStep (step : SequenceStep) : CompiledStep where
  id := trimSpace step.id
  behavior := normalizeBehavior go step.behavior
  conditions := compileConditions go strategy content step.conditions
  conditionGroup := step.conditionGroup.map (compileConditionNode go strategy content)

def compileSequenceRule (rule : EffectiveRule) : CompiledSequenceRule where
  rule := rule
  sequence :=
    { within := rule.spec.sequence.within
      by_ := compileFields rule.spec.sequence.by_
      steps := attachSequenceSaveFields (rule.spec.sequence.steps.map (compileStep go strategy content)) }

def compileFactBehaviors (fact : FactSpec) : List String :=
  let behaviors := fact.events ++ (if trimSpace fact.event ≠ "" then [fact.event] else [])
  (behaviors.map (normalizeBehavior go)).filter (· ≠ "")

def compileFact (fact : FactSpec) : CompiledFact where
  id := trimSpace fact.id
  behaviors := compileFactBehaviors go fact
  conditions := compileConditions go strategy content fact.conditions
  conditionGroup := fact.conditionGroup.map (compileConditionNode go strategy content)

def compileCorrelateRule (rule : EffectiveRule) : CompiledCorrelateRule where
  rule := rule
  within := rule.spec.correlate.within
  by_ := compileFields rule.spec.correlate.by_
  facts := rule.spec.correlate.facts.map (compileFact go strategy content)

end Compile

def ofRuntime (go : Stdlib) (kind : String) (rules : List EffectiveRule) : List EffectiveRule :=
  rules.filter fun rule => rule.enabled && rule.runtimeType go = kind

def CompiledExprRule.behaviors (go : Stdlib) (r : CompiledExprRule) : List String :=
  ((r.rule.spec.requiredBehaviors ++ r.rule.spec.requiredEvents.map (·.behavior)).map
    (normalizeBehavior go)).filter (· ≠ "")

def CompiledSequenceRule.candidates (rule : CompiledSequenceRule) : List SequenceCandidate :=
  if rule.sequence.steps = [] then []
  else { rule, firstStep := true } ::
    (List.range' 1 (rule.sequence.steps.length - 1)).map fun stepIndex => { rule, stepIndex }

def SequenceCandidate.behavior (c : SequenceCandidate) : String :=
  (c.rule.sequence.steps[c.stepIndex]?.map (·.behavior)).getD ""

structure EngineLimits where
  (maxCEPGroups maxCEPRefs : Nat := 0)

def normalizeLimits (limits : EngineLimits) : EngineLimits where
  maxCEPGroups := if limits.maxCEPGroups = 0 then 4096 else limits.maxCEPGroups
  maxCEPRefs := if limits.maxCEPRefs = 0 then 128 else limits.maxCEPRefs

/-- What the constructor fixes: the rules in force, the limits, the resolved content and the
compiled tables. -/
structure Engine where
  rules : List EffectiveRule
  limits : EngineLimits
  refs : ContentRefs
  compiled : List CompiledExprRule
  sequence : List SequenceCandidate
  correlation : List CompiledCorrelateRule

def Engine.rulesForBehavior (e : Engine) (go : Stdlib) (behavior : String) : List CompiledExprRule :=
  e.compiled.filter (fun rule => (rule.behaviors go).contains behavior) ++
    e.compiled.filter (fun rule => (rule.behaviors go).isEmpty)

def Engine.correlatedForBehavior (e : Engine) (behavior : String) : List CompiledCorrelateRule :=
  e.correlation.filter fun rule => rule.facts.any (·.behaviors.contains behavior)

def policyInForce (policy : Option DetectionPolicy) : DetectionPolicy :=
  policy.elim { mode := "observe" } normalizeDetectionPolicy

def compileEngine (go : Stdlib) (strategy : Strategy) (rules : List EffectiveRule) (refs : ContentRefs)
    (limits : EngineLimits) : Engine where
  rules := rules
  limits := normalizeLimits limits
  refs := refs
  compiled := (ofRuntime go "expr" rules).map (compileExprRule go strategy refs)
  sequence := ((ofRuntime go "sequence" rules).map (compileSequenceRule go strategy refs)).flatMap (·.candidates)
  correlation := (ofRuntime go "correlate" rules).map (compileCorrelateRule go strategy refs)

def newWithRuntimeLimits (go : Stdlib) (strategy : Strategy) (policy : Option DetectionPolicy)
    (content : ContentSnapshot) (limits : EngineLimits) : Except (List String) Engine :=
  let policy := policyInForce policy
  match selectionErrors go policy content with
  | [] => .ok (compileEngine go strategy (resolveRules policy content) content.toContentRefs limits)
  | errors => .error errors

end SysArmor.Detection
