import SysArmor.CollectionPolicy
import SysArmor.DetectionRules

/-! Endpoint policy documents: how the agent reads one, writes one to its local store and reads it
back. A JSON text is described by what it decodes to. Of the response section only its presence
matters here. -/
namespace SysArmor.Agent
open GoText Detection

section
open List

/-- The `behaviors` of a collection document: not there, a list of names, or a list of behaviour
policies. -/
inductive BehaviorList where
  | absent
  | names (ids : List String)
  | specs (specs : List CollectionBehaviorPolicy)

structure CollectionWire where
  policyID : String := ""
  version : Nat := 0
  behaviors : BehaviorList := .absent
  (binaryPrefixes filePrefixes socketFamilies socketAddrs socketPorts : List String := [])
  (scopeType scopeSelector : String := "")
  observeOnly : Bool := false

def decodeCollectionPolicy (wire : CollectionWire) : CollectionPolicy where
  policyID := wire.policyID
  version := wire.version
  behaviors := match wire.behaviors with | .names ids => ids | _ => []
  behaviorSpecs := match wire.behaviors with | .specs specs => specs | _ => []
  binaryPrefixes := wire.binaryPrefixes
  filePrefixes := wire.filePrefixes
  socketFamilies := wire.socketFamilies
  socketAddrs := wire.socketAddrs
  socketPorts := wire.socketPorts
  scopeType := wire.scopeType
  scopeSelector := wire.scopeSelector
  observeOnly := wire.observeOnly

/-- `CollectionPolicy.MarshalJSON`: behaviour policies go before names. -/
def marshalCollectionPolicy (policy : CollectionPolicy) : CollectionWire where
  policyID := policy.policyID
  version := policy.version
  behaviors :=
    if policy.behaviorSpecs ≠ [] then .specs policy.behaviorSpecs
    else if policy.behaviors ≠ [] then .names policy.behaviors
    else .absent
  binaryPrefixes := policy.binaryPrefixes
  filePrefixes := policy.filePrefixes
  socketFamilies := policy.socketFamilies
  socketAddrs := policy.socketAddrs
  socketPorts := policy.socketPorts
  scopeType := policy.scopeType
  scopeSelector := policy.scopeSelector
  observeOnly := policy.observeOnly

structure TelemetryPolicy where
  (maxBatchItems maxBatchBytes : Int := 0)
  flushInterval : String := ""
  deriving DecidableEq

structure EffectiveTelemetry where
  (maxBatchItems maxBatchBytes flushInterval : Int)
  deriving DecidableEq

structure EndpointPolicy where
  policyID : String := ""
  version : UInt64 := 0
  collection : CollectionPolicy := {}
  detection : DetectionPolicy := {}
  telemetry : TelemetryPolicy := {}

structure EndpointDocument where
  policyID : String := ""
  version : UInt64 := 0
  collection : Option (Except String CollectionWire) := none
  detection : Option DetectionPolicy := none
  telemetry : Option TelemetryPolicy := none
  response : Bool := false

section
variable (go : Stdlib)

def parseCollectionPolicyJSON (wire : Except String CollectionWire) (defaultObserveOnly : Bool) :
    Except String CollectionPolicy := do
  let policy := decodeCollectionPolicy (← wire.mapError ("decode collection policy: " ++ ·))
  .ok (normalizeCollectionPolicy go { policy with observeOnly := policy.observeOnly || defaultObserveOnly })

def parseEndpointPolicy (document : Except String EndpointDocument) : Except String EndpointPolicy := do
  let envelope ← document.mapError ("decode endpoint policy: " ++ ·)
  if trimSpace envelope.policyID = "" ∨ envelope.version = 0 then
    .error "endpoint policy id and positive version are required"
  else match envelope.collection,envelope.detection,envelope.telemetry,envelope.response with
    | some wire,some detection,some telemetry,true => do
      let collection ← parseCollectionPolicyJSON go wire true
      .ok
        { policyID := envelope.policyID, version := envelope.version, collection := collection,
          detection := normalizeDetectionPolicy detection, telemetry := telemetry }
    | _,_,_,_ => .error "endpoint policy requires collection, detection, telemetry, and response sections"

def marshalEndpointPolicy (policy : EndpointPolicy) : EndpointDocument where
  policyID := policy.policyID
  version := policy.version
  collection := some (.ok (marshalCollectionPolicy policy.collection))
  detection := some policy.detection
  telemetry := some policy.telemetry
  response := true

/-- `SaveEffectiveEndpointPolicy`, with the error of the database statement if it fails: the
document that the policy row has afterwards. -/
def saveEffectiveEndpointPolicy (policy : EndpointPolicy) (fault : Option String) : Except String EndpointDocument := do
  let _ ← parseEndpointPolicy go (.ok (marshalEndpointPolicy policy))
  match fault with
  | some reason => .error reason
  | none => .ok (marshalEndpointPolicy policy)

def resolveTelemetry (parseDuration : String → Except String Int) (baseline : EffectiveTelemetry)
    (policy : TelemetryPolicy) : Except String EffectiveTelemetry := do
  let interval ← if trimSpace policy.flushInterval = "" then .ok baseline.flushInterval
    else (parseDuration policy.flushInterval).mapError ("telemetry.flush_interval: " ++ ·)
  let items := if policy.maxBatchItems > 0 then policy.maxBatchItems else baseline.maxBatchItems
  let bytes := if policy.maxBatchBytes > 0 then policy.maxBatchBytes else baseline.maxBatchBytes
  if items < 1 ∨ items > 4096 then .error "telemetry.max_batch_items must be between 1 and 4096"
  else if bytes < 64 * 1024 ∨ bytes > 16 * 1024 * 1024 then
    .error "telemetry.max_batch_bytes must be between 64KiB and 16MiB"
  else if interval < 100 * 1000000 ∨ interval > 60 * 1000000000 then
    .error "telemetry.flush_interval must be between 100ms and 1m"
  else .ok { maxBatchItems := items, maxBatchBytes := bytes, flushInterval := interval }

/-! Normal forms. Lower case of lower case is the same text. -/

variable {go}

section
variable (lower : ∀ c, go.toLower (go.toLower c) = go.toLower c)
include lower

lemma normalizeBehavior_idem (name : String) :
    normalizeBehavior go (normalizeBehavior go name) = normalizeBehavior go name := by
  have same : go.toLower ∘ go.toLower = go.toLower := funext lower
  have twice : toLower go (toLower go (trimSpace name)) = toLower go (trimSpace name) := by simp [toLower,same]
  simp only [normalizeBehavior,trimSpace_toLower,trimSpace_trimSpace,twice]

lemma normalizeBehaviorList_idem (names : List String) :
    normalizeBehaviorList go (normalizeBehaviorList go names) = normalizeBehaviorList go names := by
  have normal : ∀ name ∈ normalizeBehaviorList go names, normalizeBehavior go name = name ∧ name ≠ "" := by
    intro name mem
    obtain ⟨listed,_⟩ := mem_distinct.mp mem
    obtain ⟨⟨raw,_,rfl⟩,solid⟩ : (∃ raw ∈ names, normalizeBehavior go raw = name) ∧ name ≠ "" := by
      simpa using listed
    exact ⟨normalizeBehavior_idem lower raw,solid⟩
  have same : ((normalizeBehaviorList go names).map (normalizeBehavior go)).filter (· ≠ "") = normalizeBehaviorList go names := by
    rw [map_congr_left fun name mem => (normal name mem).1,map_id',filter_eq_self]
    exact fun name mem => by simpa using (normal name mem).2
  conv_lhs => rw [normalizeBehaviorList]
  rw [same]
  exact distinct_of_nodup (distinct_nodup _ _) fun _ _ => not_mem_nil

end

lemma normalizeSelectors_idem (selectors : CollectionBehaviorSelectors) :
    normalizeSelectors (normalizeSelectors selectors) = normalizeSelectors selectors := by
  simp [normalizeSelectors,normalizeStringList,uniqueTrimmed_uniqueTrimmed]

section
variable (lower : ∀ c, go.toLower (go.toLower c) = go.toLower c)
include lower

lemma normalizeBehaviorSpecs_idem (specs : List CollectionBehaviorPolicy) :
    normalizeBehaviorSpecs go (normalizeBehaviorSpecs go specs) = normalizeBehaviorSpecs go specs := by
  have normal : ∀ spec ∈ normalizeBehaviorSpecs go specs, normalizeSpec go spec = spec ∧ spec.id ≠ "" := by
    intro spec mem
    obtain ⟨⟨raw,_,rfl⟩,solid⟩ : (∃ raw ∈ specs, normalizeSpec go raw = spec) ∧ spec.id ≠ "" := by
      simpa [normalizeBehaviorSpecs] using mem
    refine ⟨?_,solid⟩
    simp [normalizeSpec,normalizeBehavior_idem lower,normalizeSelectors_idem]
  conv_lhs => rw [normalizeBehaviorSpecs]
  rw [map_congr_left fun spec mem => (normal spec mem).1,map_id',filter_eq_self]
  exact fun spec mem => by simpa using (normal spec mem).2

lemma normalizeCollectionPolicy_idem
    (policy : CollectionPolicy) : normalizeCollectionPolicy go (normalizeCollectionPolicy go policy) =
      normalizeCollectionPolicy go policy := by
  have name : trimSpace "local-collection-policy" = "local-collection-policy" := by decide +kernel
  unfold normalizeCollectionPolicy
  simp only [normalizeBehaviorList_idem lower,normalizeBehaviorSpecs_idem lower,normalizeStringList,
    uniqueTrimmed_uniqueTrimmed,trimSpace_trimSpace,CollectionPolicy.mk.injEq,and_self,and_true]
  constructor
  · by_cases blank : trimSpace policy.policyID = "" <;> simp [blank,name,trimSpace_trimSpace]
  · by_cases zero : policy.version = 0 <;> simp [zero]

end

lemma normalizeDetectionPolicy_idem (policy : DetectionPolicy) :
    normalizeDetectionPolicy (normalizeDetectionPolicy policy) = normalizeDetectionPolicy policy := by
  unfold normalizeDetectionPolicy
  by_cases blank : policy.mode = "" <;> simp [blank]

end
end

/-! The policy requests of the local control server. A request goes through the collection policy,
the detection engine, the telemetry settings and the local store; the runtime record is what is in
force. The health status that is kept beside it is left out. -/

structure AgentEnv where
  go : Stdlib
  strategy : Strategy
  parseDuration : String → Except String Int
  /-- The warnings of the coverage check for rules whose inputs are not collected. -/
  coverage : DetectionPolicy → CollectionIntent → ContentSnapshot → List String
  host : Host
  telemetry : EffectiveTelemetry
  observeOnly : Bool
  (scopeType scopeSelector : String)
  limits : EngineLimits
  /-- Whether there is a local store, as in every mode but the transport ones. -/
  localStore : Bool

structure AgentContent where
  collection : CollectionContentSnapshot
  detection : ContentSnapshot

structure AgentRuntime where
  collection : CollectionIntent := {}
  detectionPolicy : Option DetectionPolicy := none
  /-- An engine that was built from a rejected policy detects nothing. -/
  detection : Except (List String) Engine
  (telemetry batcher : EffectiveTelemetry)
  endpointPolicy : EndpointPolicy := {}
  stored : Option EndpointDocument := none
  sensor : Sensor := {}

structure ControlAck where
  (status message : String)

def rejectedAck (message : String) : ControlAck := ⟨"rejected",message⟩

inductive PolicyUpdate where
  | endpoint (document : Except String EndpointDocument)
  | collection (wire : Except String CollectionWire) (scopeType scopeSelector : String)
  | detection (policy : Except String DetectionPolicy)
  | telemetry (policy : Except String (Option TelemetryPolicy))
  | unsupported (policyType : String)

structure PolicyRequest where
  /-- The error of `validateContext`, if the request is for another tenant or agent. -/
  contextError : Option String := none
  dryRun : Bool := false
  update : PolicyUpdate

/-- How the outside answers while a request is served: the sensor when the new intent is applied, the
database, and the sensor when the old intent is applied again. -/
structure RequestWorld where
  apply : ApplyWorld := {}
  put : Option String := none
  reapply : ApplyWorld := {}

section
variable (env : AgentEnv) (content : AgentContent)

def buildDetection (policy : Option DetectionPolicy) : Except (List String) Engine :=
  newWithRuntimeLimits env.go env.strategy policy content.detection env.limits

def detectionReport (policy : Option DetectionPolicy) (intent : CollectionIntent) : String × List String :=
  match buildDetection env content policy with
  | .error details => ("rejected",details)
  | .ok _ =>
    let warnings := env.coverage (policyInForce policy) intent content.detection
    (if warnings = [] then "applied" else "degraded",warnings)

def AgentRuntime.persistEndpointPolicy (r : AgentRuntime) (policy : EndpointPolicy) (fault : Option String) :
    Except String AgentRuntime :=
  if ¬env.localStore then .ok { r with endpointPolicy := policy }
  else (saveEffectiveEndpointPolicy env.go policy fault).map fun document =>
    { r with stored := some document, endpointPolicy := policy }

structure PreparedEndpointPolicy where
  policy : EndpointPolicy
  intent : CollectionIntent
  engine : Engine
  status : String
  telemetry : EffectiveTelemetry

def prepareEndpointPolicy (document : Except String EndpointDocument) : Except String PreparedEndpointPolicy := do
  let policy ← parseEndpointPolicy env.go document
  let collection ← expandCollectionPolicyRefs env.go content.collection policy.collection
  let policy := { policy with collection := collection }
  let intent ← collectionPolicyIntent env.go collection
  let effective ← resolveTelemetry env.parseDuration env.telemetry policy.telemetry
  match buildDetection env content (some policy.detection) with
  | .error details => .error ("detection policy rejected: " ++ join details "; ")
  | .ok engine =>
    .ok { policy := policy, intent := intent, engine := engine, telemetry := effective,
          status := (detectionReport env content (some policy.detection) intent).1 }

def AgentRuntime.commitEndpointPolicy (r : AgentRuntime) (prepared : PreparedEndpointPolicy) : AgentRuntime :=
  { r with
    collection := prepared.intent
    detectionPolicy := some prepared.policy.detection
    detection := .ok prepared.engine
    telemetry := prepared.telemetry
    batcher := prepared.telemetry }

/-- The sensor is put back to the intent on record, under the context of the request; whether that
works is not looked at. -/
def AgentRuntime.reapply (r : AgentRuntime) (world : ApplyWorld) : AgentRuntime :=
  { r with sensor := (r.sensor.apply env.go env.host world r.collection).1 }

def AgentRuntime.applyEndpointPolicy (r : AgentRuntime) (document : Except String EndpointDocument) (dryRun : Bool)
    (world : RequestWorld) : AgentRuntime × ControlAck :=
  match prepareEndpointPolicy env content document with
  | .error reason => (r,rejectedAck reason)
  | .ok prepared =>
    if dryRun then (r,⟨"validated","endpoint policy accepted in dry-run"⟩)
    else match r.sensor.apply env.go env.host world.apply prepared.intent with
      | (sensor,some reason) => ({ r with sensor := sensor },rejectedAck ("apply collection policy: " ++ reason))
      | (sensor,none) =>
        match { r with sensor := sensor }.persistEndpointPolicy env prepared.policy world.put with
        | .error reason =>
          ({ r with sensor := sensor }.reapply env world.reapply,rejectedAck ("persist endpoint policy: " ++ reason))
        | .ok r => (r.commitEndpointPolicy prepared,⟨prepared.status,"endpoint policy applied"⟩)

/-- The collection policy of a request: a scope that it does not give is taken from the request, then
from the configuration. -/
def scopedCollectionPolicy (policy : CollectionPolicy) (scopeType scopeSelector : String) : CollectionPolicy :=
  let policy :=
    if policy.scopeType = "" ∧ scopeType ≠ "" then { policy with scopeType := scopeType, scopeSelector := scopeSelector }
    else policy
  if policy.scopeType = "" then
    match normalizeScope env.scopeType env.scopeSelector with
    | .ok (type,selector) => { policy with scopeType := type, scopeSelector := selector }
    | .error _ => policy
  else policy

def prepareCollectionPolicy (wire : Except String CollectionWire) (scopeType scopeSelector : String) :
    Except String (CollectionPolicy × CollectionIntent) := do
  let policy ← (parseCollectionPolicyJSON env.go wire env.observeOnly).mapError ("invalid collection policy: " ++ ·)
  let policy ← (expandCollectionPolicyRefs env.go content.collection
    (scopedCollectionPolicy env policy scopeType scopeSelector)).mapError ("resolve collection policy refs: " ++ ·)
  let intent ← (collectionPolicyIntent env.go policy).mapError ("compile collection policy: " ++ ·)
  .ok (policy,intent)

def AgentRuntime.applyCollectionPolicy (r : AgentRuntime) (wire : Except String CollectionWire)
    (scopeType scopeSelector : String) (dryRun : Bool) (world : RequestWorld) : AgentRuntime × ControlAck :=
  match prepareCollectionPolicy env content wire scopeType scopeSelector with
  | .error reason => (r,rejectedAck reason)
  | .ok (policy,intent) =>
    if dryRun then
      let status := (detectionReport env content r.detectionPolicy intent).1
      (r,⟨if status = "degraded" then "degraded" else "validated","collection policy accepted in dry-run"⟩)
    else match r.sensor.apply env.go env.host world.apply intent with
      | (sensor,some reason) => ({ r with sensor := sensor },rejectedAck ("apply collection policy: " ++ reason))
      | (sensor,none) =>
        let next := { r.endpointPolicy with collection := policy, version := r.endpointPolicy.version + 1 }
        let persisted := if ¬env.localStore then .ok { r with sensor := sensor }
          else { r with sensor := sensor }.persistEndpointPolicy env next world.put
        match persisted with
        | .error reason =>
          ({ r with sensor := sensor }.reapply env world.reapply,rejectedAck ("persist collection policy: " ++ reason))
        | .ok r =>
          let status := (detectionReport env content r.detectionPolicy intent).1
          ({ r with collection := intent, detection := buildDetection env content r.detectionPolicy },
            ⟨if status = "degraded" then "degraded" else "applied","collection policy applied"⟩)

def AgentRuntime.applyDetectionPolicy (r : AgentRuntime) (policy : Except String DetectionPolicy) (dryRun : Bool)
    (world : RequestWorld) : AgentRuntime × ControlAck :=
  match policy with
  | .error reason => (r,rejectedAck ("invalid detection policy json: " ++ reason))
  | .ok policy =>
    let next := normalizeDetectionPolicy policy
    let (status,details) := detectionReport env content (some next) r.collection
    if dryRun then (r,⟨status,"detection policy accepted in dry-run"⟩)
    else if status = "rejected" then (r,rejectedAck ("detection policy rejected: " ++ join details "; "))
    else
      let endpoint := { r.endpointPolicy with detection := next, version := r.endpointPolicy.version + 1 }
      let persisted := if ¬env.localStore then .ok r else r.persistEndpointPolicy env endpoint world.put
      match persisted with
      | .error reason => (r,rejectedAck ("persist detection policy: " ++ reason))
      | .ok r =>
        ({ r with detectionPolicy := some next, detection := buildDetection env content (some next) },
          ⟨status,"detection policy applied"⟩)

def defaultTelemetryConfig : EffectiveTelemetry :=
  { maxBatchItems := 256, maxBatchBytes := 256 * 1024, flushInterval := 1000000000 }

def AgentRuntime.persistTelemetryPolicy (r : AgentRuntime) (policy : TelemetryPolicy) (fault : Option String) :
    Except String AgentRuntime := do
  let effective ← resolveTelemetry env.parseDuration env.telemetry policy
  let endpoint := { r.endpointPolicy with telemetry := policy, version := r.endpointPolicy.version + 1 }
  let r ← if ¬env.localStore then .ok r else r.persistEndpointPolicy env endpoint fault
  .ok { r with telemetry := effective }

def AgentRuntime.applyTelemetryPolicy (r : AgentRuntime) (policy : Except String (Option TelemetryPolicy)) (dryRun : Bool)
    (world : RequestWorld) : AgentRuntime × ControlAck :=
  match policy with
  | .error reason => (r,rejectedAck ("invalid telemetry policy json: " ++ reason))
  | .ok none => (r,rejectedAck "telemetry policy is required")
  | .ok (some policy) =>
    match resolveTelemetry env.parseDuration defaultTelemetryConfig policy with
    | .error reason => (r,rejectedAck reason)
    | .ok _ =>
      if dryRun then (r,⟨"validated","telemetry policy accepted in dry-run"⟩)
      else match r.persistTelemetryPolicy env policy world.put with
        | .error reason => (r,rejectedAck reason)
        | .ok r => ({ r with batcher := r.telemetry },⟨"applied","telemetry policy applied"⟩)

def AgentRuntime.applyPolicy (r : AgentRuntime) (req : PolicyRequest) (world : RequestWorld) : AgentRuntime × ControlAck :=
  match req.contextError with
  | some reason => (r,rejectedAck reason)
  | none =>
    match req.update with
    | .endpoint document => r.applyEndpointPolicy env content document req.dryRun world
    | .collection wire scopeType scopeSelector =>
      r.applyCollectionPolicy env content wire scopeType scopeSelector req.dryRun world
    | .detection policy => r.applyDetectionPolicy env content policy req.dryRun world
    | .telemetry policy => r.applyTelemetryPolicy env policy req.dryRun world
    | .unsupported policyType => (r,rejectedAck ("unsupported policy type " ++ env.go.quote policyType))

end

def sampleEnv : AgentEnv where
  go := asciiStdlib
  strategy := .linear
  parseDuration := fun _ => .ok 1000000000
  coverage := fun _ _ _ => []
  host := { policyPath := "/etc/tetragon", tetraPath := "tetra", eventSource := "", selfNamespaces := .ok [], selfContainerID := .ok "" }
  telemetry := defaultTelemetryConfig
  observeOnly := true
  scopeType := "host"
  scopeSelector := ""
  limits := {}
  localStore := true

def emptyContent : AgentContent := { collection := ⟨fun _ => none,fun _ => none⟩, detection := {} }

def sampleDocument (behaviors : List String) (scopeType scopeSelector : String) : EndpointDocument where
  policyID := "endpoint"
  version := 1
  collection := some (.ok { behaviors := .names behaviors, scopeType := scopeType, scopeSelector := scopeSelector })
  detection := some { ruleSets := [{ ref := "base", enabled := some false }] }
  telemetry := some {}
  response := true

end SysArmor.Agent
