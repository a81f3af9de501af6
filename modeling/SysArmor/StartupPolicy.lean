import SysArmor.RejectedPolicy

/-! A restart of the agent on the endpoint policy in its local store. The policy was written after its
content references were expanded, so reading it back gives the intent, the engine and the telemetry
settings of the live apply; only the scope is taken from the configuration instead. Subscribing to
the events afterwards leaves all of these as they are. -/
namespace SysArmor.Agent
open GoText Detection Content

section
variable (env : AgentEnv) (content : AgentContent)

/-- `loadStartupPolicy`, the scope of the configuration and the first apply in `Run`. -/
def startup (stored : EndpointDocument) (boot : ApplyWorld) : Except String AgentRuntime := do
  let endpoint ← parseEndpointPolicy env.go (.ok stored)
  let intent ← collectionPolicyIntent env.go endpoint.collection
  let telemetry ← resolveTelemetry env.parseDuration env.telemetry endpoint.telemetry
  let (scopeType,scopeSelector) ← normalizeScope env.scopeType env.scopeSelector
  let intent := intent.withScope scopeType scopeSelector
  match buildDetection env content (some endpoint.detection) with
  | .error details =>
    .error ((if endpoint.detection.ruleSets.isEmpty then "detection policy rejected: explicit ruleset is required"
      else "detection policy rejected") ++ ": " ++ join details "; ")
  | .ok engine =>
    match Sensor.apply env.go env.host boot intent { backend := { scopeType, scopeSelector } } with
    | (_,some reason) => .error reason
    | (sensor,none) =>
      .ok
        { collection := intent, detectionPolicy := some endpoint.detection, detection := .ok engine,
          telemetry := telemetry, batcher := telemetry, endpointPolicy := endpoint, stored := some stored,
          sensor := sensor }

def ConfiguredScope (document : Except String EndpointDocument) : Prop :=
  ∃ envelope wire, document = .ok envelope ∧ envelope.collection = some (.ok wire) ∧
    normalizeScope env.scopeType env.scopeSelector = normalizeScope wire.scopeType wire.scopeSelector

end

variable {go : Stdlib} {env : AgentEnv} {content : AgentContent} {r : AgentRuntime} {document : Except String EndpointDocument}
  {policy : EndpointPolicy} {prepared : PreparedEndpointPolicy} {host : Host} {sensor next : Sensor} {world boot : ApplyWorld}
  {intent : CollectionIntent}

/-! Scopes. -/

def ValidScope (type selector : String) : Prop :=
  if type = "host" then selector = "" else type ∈ ["container","cgroup","namespace","pod"] ∧ selector ≠ ""

lemma normalizeScope_eq_ok : normalizeScope scopeType scopeSelector = .ok (type,selector) ↔
    type = (if trimSpace scopeType = "" then "host" else trimSpace scopeType) ∧ selector = trimSpace scopeSelector ∧
      ValidScope type selector := by
  unfold normalizeScope ValidScope
  generalize (if trimSpace scopeType = "" then "host" else trimSpace scopeType) = kind
  generalize trimSpace scopeSelector = chosen
  dsimp only
  by_cases isHost : kind = "host"
  · by_cases empty : chosen = "" <;> simp only [isHost,empty] <;> grind
  by_cases mem : kind ∈ ["container","cgroup","namespace","pod"]
  · by_cases empty : chosen = "" <;> simp only [isHost,mem,empty] <;> grind
  · simp only [isHost,mem]
    grind

lemma normalizeScope_trimmed (ok : normalizeScope scopeType scopeSelector = .ok (type,selector)) :
    trimSpace type = type ∧ trimSpace selector = selector := by
  have hostName : trimSpace "host" = "host" := by decide +kernel
  obtain ⟨rfl,rfl,_⟩ := normalizeScope_eq_ok.mp ok
  refine ⟨?_,trimSpace_trimSpace _⟩
  split
  · exact hostName
  · exact trimSpace_trimSpace _

lemma normalizeScope_again (ok : normalizeScope scopeType scopeSelector = .ok (type,selector)) :
    normalizeScope type selector = .ok (type,selector) := by
  obtain ⟨typeTrimmed,selectorTrimmed⟩ := normalizeScope_trimmed ok
  obtain ⟨kind,_,valid⟩ := normalizeScope_eq_ok.mp ok
  refine normalizeScope_eq_ok.mpr ⟨?_,selectorTrimmed.symm,valid⟩
  rw [typeTrimmed]
  split
  · rename_i blank
    -- a blank type has become the host type
    split at kind <;> simp_all
  · rfl

lemma normalizeScope_trimSpace (scopeType scopeSelector : String) :
    normalizeScope (trimSpace scopeType) (trimSpace scopeSelector) = normalizeScope scopeType scopeSelector := by
  unfold normalizeScope
  simp only [trimSpace_trimSpace]

/-! What is written is read back. -/

structure Parsed (go : Stdlib) (envelope : EndpointDocument) (wire : CollectionWire) (policy : EndpointPolicy) : Prop where
  collection : envelope.collection = some (.ok wire)
  read : policy.collection = normalizeCollectionPolicy go { decodeCollectionPolicy wire with observeOnly := true }
  named : trimSpace policy.policyID ≠ "" ∧ policy.version ≠ 0
  normal : normalizeDetectionPolicy policy.detection = policy.detection

lemma parseCollection_ok (ok : parseCollectionPolicyJSON go wire true = .ok collection) :
    ∃ given, wire = .ok given ∧ collection = normalizeCollectionPolicy go { decodeCollectionPolicy given with observeOnly := true } := by
  obtain ⟨given,decoded,last⟩ := bind_eq_ok.mp ok
  refine ⟨given,mapError_eq_ok.mp decoded,?_⟩
  simpa using (Except.ok.inj last).symm

lemma parseEndpointPolicy_ok (ok : parseEndpointPolicy go document = .ok policy) :
    ∃ envelope wire, document = .ok envelope ∧ Parsed go envelope wire policy := by
  obtain ⟨envelope,decoded,rest⟩ := bind_eq_ok.mp ok
  split at rest
  · cases rest
  rename_i named
  simp only [not_or] at named
  split at rest
  · rename_i wire detection telemetry given _ _ _
    obtain ⟨collection,parsed,last⟩ := bind_eq_ok.mp rest
    obtain ⟨plain,rfl,read⟩ := parseCollection_ok parsed
    cases last
    exact ⟨envelope,plain,mapError_eq_ok.mp decoded,given,read,named,normalizeDetectionPolicy_idem _⟩
  · cases rest

def SingleForm (collection : CollectionPolicy) : Prop := collection.behaviors = [] ∨ collection.behaviorSpecs = []

lemma decode_singleForm (wire : CollectionWire) : SingleForm (decodeCollectionPolicy wire) := by
  unfold SingleForm decodeCollectionPolicy
  cases wire.behaviors <;> simp

lemma SingleForm.normalize (single : SingleForm collection) : SingleForm (normalizeCollectionPolicy go collection) := by
  rcases single with names | specs
  · exact .inl (by simp [normalizeCollectionPolicy,names,normalizeBehaviorList,distinct])
  · exact .inr (by simp [normalizeCollectionPolicy,specs,normalizeBehaviorSpecs])

lemma decode_marshal (single : SingleForm collection) :
    decodeCollectionPolicy (marshalCollectionPolicy collection) = collection := by
  obtain ⟨policyID,version,behaviors,specs⟩ := collection
  unfold decodeCollectionPolicy marshalCollectionPolicy
  rcases single with rfl | rfl
  · cases specs <;> simp
  · cases behaviors <;> simp

lemma expanded_form (ok : expandCollectionPolicyRefs go snapshot policy.collection = .ok expanded)
    (single : SingleForm policy.collection) : SingleForm expanded ∧ (∃ raw, expanded = normalizeCollectionPolicy go raw) ∧
      expanded.observeOnly = policy.collection.observeOnly ∧ expanded.scopeType = trimSpace policy.collection.scopeType ∧
      expanded.scopeSelector = trimSpace policy.collection.scopeSelector := by
  obtain ⟨specs,mapped,last⟩ := bind_eq_ok.mp ok
  rw [← Except.ok.inj last]
  refine ⟨SingleForm.normalize ?_,⟨_,rfl⟩,?_⟩
  rotate_left
  · simp only [normalizeCollectionPolicy,trimSpace_trimSpace,and_self]
  have normal : SingleForm (normalizeCollectionPolicy go policy.collection) := single.normalize
  rcases normal with names | none
  · exact .inl names
  rw [none] at mapped
  cases mapped
  exact .inr rfl

structure Prepared (env : AgentEnv) (content : AgentContent) (wire : CollectionWire) (prepared : PreparedEndpointPolicy) : Prop where
  reread : parseEndpointPolicy env.go (.ok (marshalEndpointPolicy prepared.policy)) = .ok prepared.policy
  intent : collectionPolicyIntent env.go prepared.policy.collection = .ok prepared.intent
  telemetry : resolveTelemetry env.parseDuration env.telemetry prepared.policy.telemetry = .ok prepared.telemetry
  engine : buildDetection env content (some prepared.policy.detection) = .ok prepared.engine
  scope : normalizeScope wire.scopeType wire.scopeSelector = .ok (prepared.intent.scopeType,prepared.intent.scopeSelector)

lemma parse_marshal (lower : ∀ c, env.go.toLower (env.go.toLower c) = env.go.toLower c)
    (named : trimSpace policy.policyID ≠ "" ∧ policy.version ≠ 0) (normal : normalizeDetectionPolicy policy.detection = policy.detection)
    (single : SingleForm policy.collection) (canonical : ∃ raw, policy.collection = normalizeCollectionPolicy env.go raw)
    (observes : policy.collection.observeOnly = true) :
    parseEndpointPolicy env.go (.ok (marshalEndpointPolicy policy)) = .ok policy := by
  have collection : parseCollectionPolicyJSON env.go (.ok (marshalCollectionPolicy policy.collection)) true =
      .ok policy.collection := by
    obtain ⟨raw,canonical⟩ := canonical
    have idem := normalizeCollectionPolicy_idem lower raw
    rw [← canonical] at idem
    have same : { policy.collection with observeOnly := true } = policy.collection := by rw [← observes]
    simp only [parseCollectionPolicyJSON,Except.mapError,bind,Except.bind,decode_marshal single,Bool.or_true,same,idem]
  unfold parseEndpointPolicy
  simp only [Except.mapError,bind,Except.bind,marshalEndpointPolicy,named.1,named.2,or_self,if_false,collection,normal]

lemma collectionPolicyIntent_scope (ok : collectionPolicyIntent go collection = .ok intent) :
    normalizeScope collection.scopeType collection.scopeSelector = .ok (intent.scopeType,intent.scopeSelector) := by
  obtain ⟨behaviors,_,rest⟩ := bind_eq_ok.mp ok
  split at rest
  · cases rest
  obtain ⟨⟨type,selector⟩,scope,last⟩ := bind_eq_ok.mp rest
  cases last
  rw [← scope]
  exact (normalizeScope_trimSpace _ _).symm

lemma prepareEndpointPolicy_ok (lower : ∀ c, env.go.toLower (env.go.toLower c) = env.go.toLower c)
    (ok : prepareEndpointPolicy env content document = .ok prepared) :
    ∃ envelope wire, document = .ok envelope ∧ envelope.collection = some (.ok wire) ∧ Prepared env content wire prepared := by
  obtain ⟨policy,parsed,rest⟩ := bind_eq_ok.mp ok
  obtain ⟨expanded,expands,rest⟩ := bind_eq_ok.mp rest
  obtain ⟨intent,compiled,rest⟩ := bind_eq_ok.mp rest
  obtain ⟨telemetry,resolved,rest⟩ := bind_eq_ok.mp rest
  obtain ⟨envelope,wire,decoded,held⟩ := parseEndpointPolicy_ok parsed
  have single : SingleForm policy.collection := by
    rw [held.read]
    exact SingleForm.normalize (decode_singleForm wire)
  obtain ⟨form,canonical,observes,scopeType,scopeSelector⟩ := expanded_form expands single
  split at rest
  · cases rest
  rename_i engine built
  cases rest
  refine ⟨envelope,wire,decoded,held.collection,?_,compiled,resolved,built,?_⟩
  · refine parse_marshal lower held.named held.normal form canonical ?_
    rw [observes,held.read]
    rfl
  · rw [← collectionPolicyIntent_scope compiled,scopeType,scopeSelector,normalizeScope_trimSpace,held.read]
    exact (normalizeScope_trimSpace _ _).symm

/-! The first apply after a restart. -/

lemma prepareApply_again (ok : prepareApply go host world intent = .ok pair) (there : boot.policyFile = none) :
    prepareApply go host boot intent = .ok pair := by
  unfold prepareApply at ok ⊢
  cases missing : world.policyFile with
  | none =>
    rw [missing] at ok
    rw [there]
    exact ok
  | some reason =>
    rw [missing] at ok
    split at ok
    · cases ok
    obtain ⟨normalized,_,rest⟩ := bind_eq_ok.mp ok
    obtain ⟨resolved,_,rest⟩ := bind_eq_ok.mp rest
    obtain ⟨⟨⟩,_,rest⟩ := bind_eq_ok.mp rest
    obtain ⟨container,_,rest⟩ := bind_eq_ok.mp rest
    cases rest

lemma Sensor.apply_unloaded (done : sensor.apply go host world intent = (next,none)) (there : boot.policyFile = none)
    (fresh : Sensor) (unloaded : fresh.backend.policyLoaded = false) :
    ∃ started, fresh.apply go host boot intent = (started,none) := by
  unfold Sensor.apply Backend.apply at done ⊢
  cases one : intent.normalizeScope with
  | error reason => simp [one] at done
  | ok normalized =>
    rw [one] at done
    dsimp only at done ⊢
    cases two : prepareApply go host world normalized with
    | error reason => simp [two] at done
    | ok pair =>
      rw [prepareApply_again two there]
      dsimp only
      rw [if_neg (by simp [Backend.managed,unloaded])]
      exact ⟨_,rfl⟩

lemma applied_endpoint {world : RequestWorld} (accepted : (r.applyEndpointPolicy env content document false world).2.status ≠ "rejected")
    (persists : env.localStore) : ∃ prepared next, prepareEndpointPolicy env content document = .ok prepared ∧
      r.sensor.apply env.go env.host world.apply prepared.intent = (next,none) ∧
      (r.applyEndpointPolicy env content document false world).1 = { r with
          collection := prepared.intent, detectionPolicy := some prepared.policy.detection, detection := .ok prepared.engine
          telemetry := prepared.telemetry, batcher := prepared.telemetry, endpointPolicy := prepared.policy
          stored := some (marshalEndpointPolicy prepared.policy), sensor := next } := by
  unfold AgentRuntime.applyEndpointPolicy at accepted ⊢
  cases parsed : prepareEndpointPolicy env content document with
  | error reason => simp [parsed,rejectedAck] at accepted
  | ok prepared =>
    rw [parsed] at accepted
    simp only [Bool.false_eq_true,if_false] at accepted ⊢
    rcases applied : r.sensor.apply env.go env.host world.apply prepared.intent with ⟨next,_ | reason⟩
    · rw [applied] at accepted
      refine ⟨prepared,next,rfl,applied,?_⟩
      dsimp only at accepted ⊢
      unfold AgentRuntime.persistEndpointPolicy saveEffectiveEndpointPolicy at accepted ⊢
      simp only [persists,not_true_eq_false,if_false] at accepted ⊢
      cases reread : parseEndpointPolicy env.go (.ok (marshalEndpointPolicy prepared.policy)) with
      | error reason => simp [reread,bind,Except.bind,Except.map,rejectedAck] at accepted
      | ok same =>
        cases fault : world.put with
        | some reason => simp [reread,fault,bind,Except.bind,Except.map,rejectedAck] at accepted
        | none => rfl
    · simp [applied,rejectedAck] at accepted

lemma Sensor.Runs.scope (runs : sensor.Runs host intent) :
    normalizeScope intent.scopeType intent.scopeSelector = .ok (sensor.intent.scopeType,sensor.intent.scopeSelector) := by
  obtain ⟨first,one,rest⟩ := bind_eq_ok.mp runs
  obtain ⟨second,_,rest⟩ := bind_eq_ok.mp rest
  obtain ⟨third,_,last⟩ := bind_eq_ok.mp rest
  obtain ⟨scope,chosen,built⟩ := bind_eq_ok.mp one
  have same : first = sensor.intent := (Prod.mk.inj (Except.ok.inj last)).1
  rw [chosen,← same,← Except.ok.inj built]

lemma startup_prepared (facts : Prepared env content wire prepared)
    (scope : normalizeScope env.scopeType env.scopeSelector = .ok (type,selector)) :
    startup env content (marshalEndpointPolicy prepared.policy) boot =
      match Sensor.apply env.go env.host boot (prepared.intent.withScope type selector)
          { backend := { scopeType := type, scopeSelector := selector } } with
      | (_,some reason) => .error reason
      | (started,none) =>
        .ok
          { collection := prepared.intent.withScope type selector, detectionPolicy := some prepared.policy.detection
            detection := .ok prepared.engine, telemetry := prepared.telemetry, batcher := prepared.telemetry
            endpointPolicy := prepared.policy, stored := some (marshalEndpointPolicy prepared.policy), sensor := started } := by
  unfold startup
  simp only [facts.reread,facts.intent,facts.telemetry,scope,facts.engine,bind,Except.bind]

/-- A restart on the policy of a live apply gives the same intent, engine and telemetry settings,
exactly when the document has the configured scope. -/
theorem startup_equals_live_iff (env : AgentEnv) (lower : ∀ c, env.go.toLower (env.go.toLower c) = env.go.toLower c)
    (content : AgentContent) (r : AgentRuntime) (document : Except String EndpointDocument) (world : RequestWorld) (boot : ApplyWorld)
    (persists : env.localStore) (accepted : (r.applyEndpointPolicy env content document false world).2.status ≠ "rejected")
    (stored : EndpointDocument) (held : (r.applyEndpointPolicy env content document false world).1.stored = some stored)
    (there : boot.policyFile = none) : (∃ restarted, startup env content stored boot = .ok restarted ∧
      Unchanged (r.applyEndpointPolicy env content document false world).1 restarted) ↔ ConfiguredScope env document := by
  obtain ⟨prepared,next,parsed,taken,live⟩ := applied_endpoint accepted persists
  obtain ⟨envelope,wire,decoded,given,facts⟩ := prepareEndpointPolicy_ok lower parsed
  have runs := (Sensor.apply_done taken).runs
  rw [live] at held ⊢
  cases held
  have configured : ConfiguredScope env document ↔
      normalizeScope env.scopeType env.scopeSelector = .ok (prepared.intent.scopeType,prepared.intent.scopeSelector) := by
    rw [← facts.scope]
    constructor
    · rintro ⟨envelope',wire',decoded',given',same⟩
      cases decoded.symm.trans decoded'
      cases given.symm.trans given'
      exact same
    · exact fun same => ⟨envelope,wire,decoded,given,same⟩
  rw [configured]
  constructor
  · rintro ⟨restarted,started,same⟩
    cases scope : normalizeScope env.scopeType env.scopeSelector with
    | error reason =>
      unfold startup at started
      simp [facts.reread,facts.intent,facts.telemetry,scope,bind,Except.bind] at started
    | ok pair =>
      rw [startup_prepared facts scope] at started
      split at started
      · cases started
      rename_i sensor applied
      cases started
      have restarts := (Sensor.apply_done applied).runs.scope
      rw [show sensor.intent = next.intent from same.runtime,← runs.scope,normalizeScope_again facts.scope] at restarts
      exact (normalizeScope_again scope).symm.trans ((normalizeScope_trimSpace _ _).symm.trans restarts)
  · intro scope
    obtain ⟨typeTrimmed,selectorTrimmed⟩ := normalizeScope_trimmed scope
    have whole : prepared.intent.withScope prepared.intent.scopeType prepared.intent.scopeSelector = prepared.intent := by
      simp only [CollectionIntent.withScope,typeTrimmed,selectorTrimmed]
    rw [startup_prepared facts scope,whole]
    obtain ⟨started,applied⟩ := Sensor.apply_unloaded taken there
      { backend := { scopeType := prepared.intent.scopeType, scopeSelector := prepared.intent.scopeSelector } } rfl
    rw [applied]
    refine ⟨_,rfl,?_⟩
    obtain ⟨runtime,backend⟩ := (Sensor.apply_done applied).runs.iff_same.mp runs
    exact ⟨runtime,backend,rfl,rfl,rfl,rfl⟩

/-- The configuration has the host scope, and so has the document. -/
theorem host_document_restarts : ∃ stored restarted,
      (execRuntime.applyEndpointPolicy sampleEnv emptyContent (.ok (sampleDocument ["network.connect"] "host" "")) false {}).1.stored =
        some stored ∧ startup sampleEnv emptyContent stored {} = .ok restarted ∧
      Unchanged (execRuntime.applyEndpointPolicy sampleEnv emptyContent (.ok (sampleDocument ["network.connect"] "host" "")) false
        {}).1 restarted := by
  obtain ⟨restarted,started,same⟩ := (startup_equals_live_iff sampleEnv asciiLower_asciiLower emptyContent execRuntime
    (.ok (sampleDocument ["network.connect"] "host" "")) {} {} rfl (by decide +kernel) _ rfl rfl).mpr ⟨_,_,rfl,rfl,rfl⟩
  exact ⟨_,restarted,rfl,started,same⟩

/-- The configuration has the host scope, the document that of a container: the container is
collected until the restart, then the whole host. -/
theorem container_document_widened : ∃ stored restarted,
      (execRuntime.applyEndpointPolicy sampleEnv emptyContent (.ok (sampleDocument ["process.exec"] "container" "c1")) false
        {}).2.status = "applied" ∧
      (execRuntime.applyEndpointPolicy sampleEnv emptyContent (.ok (sampleDocument ["process.exec"] "container" "c1")) false
        {}).1.stored = some stored ∧
      (execRuntime.applyEndpointPolicy sampleEnv emptyContent (.ok (sampleDocument ["process.exec"] "container" "c1")) false
        {}).1.sensor.intent.scopeType = "container" ∧
      startup sampleEnv emptyContent stored {} = .ok restarted ∧ restarted.sensor.intent.scopeType = "host" :=
  ⟨_,_,by decide +kernel,rfl,rfl,rfl,rfl⟩

end SysArmor.Agent
