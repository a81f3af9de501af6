import SysArmor.PolicyControl

/-! Policy requests that are answered with a rejection. Whatever step fails, nothing that is in force
changes, except that a request refused by the local store has already changed the sensor, and the
sensor is put back under the context of the request. -/
namespace SysArmor.Agent
open GoText Detection Content

variable {go : Stdlib} {host : Host} {sensor next : Sensor} {world : ApplyWorld} {intent : CollectionIntent}

/-- The two copies of an intent that the sensor holds once it is applied: the normalised one and the
one with its namespaces resolved. -/
def sensorIntents (host : Host) (intent : CollectionIntent) : Except String (CollectionIntent × CollectionIntent) := do
  let normalized ← intent.normalizeScope
  let again ← normalized.normalizeScope
  let resolved ← resolveNamespaceScope host again
  .ok (normalized,resolved)

def Sensor.Runs (host : Host) (sensor : Sensor) (intent : CollectionIntent) : Prop :=
  sensorIntents host intent = .ok (sensor.intent,sensor.backend.intent)

lemma normalizeScope_behaviors (ok : intent.normalizeScope = .ok normalized) : normalized.behaviors = intent.behaviors := by
  obtain ⟨scope,_,last⟩ := bind_eq_ok.mp ok
  cases last
  rfl

lemma resolveNamespaceScope_selectors (ok : resolveNamespaceScope host intent = .ok resolved) :
    ∃ selectors, resolved = { intent with namespaceSelectors := selectors } ∧
      (selectors = intent.namespaceSelectors ∨ host.selfNamespaces = .ok selectors) := by
  simp only [resolveNamespaceScope] at ok
  split at ok
  · cases ok
    exact ⟨_,rfl,.inl rfl⟩
  · cases names : host.selfNamespaces <;> rw [names] at ok <;> cases ok
    exact ⟨_,rfl,.inr rfl⟩

lemma needs_resolved (one : intent.normalizeScope = .ok first) (two : first.normalizeScope = .ok second)
    (three : resolveNamespaceScope host second = .ok resolved) :
    needsTracingPolicy go resolved = needsTracingPolicy go intent := by
  obtain ⟨selectors,rfl,-⟩ := resolveNamespaceScope_selectors three
  simp only [needsTracingPolicy,normalizeScope_behaviors two,normalizeScope_behaviors one]

lemma sensorIntents_needs (both : sensorIntents host intent = .ok (normalized,resolved)) :
    needsTracingPolicy go resolved = needsTracingPolicy go intent := by
  obtain ⟨first,one,rest⟩ := bind_eq_ok.mp both
  obtain ⟨second,two,rest⟩ := bind_eq_ok.mp rest
  obtain ⟨third,three,last⟩ := bind_eq_ok.mp rest
  cases last
  exact needs_resolved one two three

lemma prepareApply_resolved (ok : prepareApply go host world intent = .ok (resolved,container)) :
    ∃ normalized, intent.normalizeScope = .ok normalized ∧ resolveNamespaceScope host normalized = .ok resolved := by
  unfold prepareApply at ok
  split at ok
  · cases ok
  obtain ⟨normalized,one,rest⟩ := bind_eq_ok.mp ok
  obtain ⟨resolved',two,rest⟩ := bind_eq_ok.mp rest
  obtain ⟨⟨⟩,_,rest⟩ := bind_eq_ok.mp rest
  obtain ⟨container',_,rest⟩ := bind_eq_ok.mp rest
  split at rest
  · cases rest
  · cases rest
    exact ⟨normalized,one,two⟩

lemma Sensor.apply_failed (failed : sensor.apply go host world intent = (next,some reason)) :
    next.intent = sensor.intent ∧ next.backend.intent = sensor.backend.intent := by
  unfold Sensor.apply Backend.apply at failed
  split at failed
  · cases failed
    exact ⟨rfl,rfl⟩
  split at failed
  · rename_i applied
    cases failed
    split at applied
    · cases applied
      exact ⟨rfl,rfl⟩
    dsimp only at applied
    split at applied
    · split at applied
      · cases applied
        exact ⟨rfl,rfl⟩
      · cases applied
    · cases applied
  · cases failed

structure Sensor.Applied (go : Stdlib) (host : Host) (intent : CollectionIntent) (sensor next : Sensor) : Prop where
  runs : next.Runs host intent
  managed : next.backend.managed host = sensor.backend.managed host
  policy : next.backend.managed host → next.backend.runtimePolicyApplied = needsTracingPolicy go intent

lemma Sensor.apply_done (done : sensor.apply go host world intent = (next,none)) : Applied go host intent sensor next := by
  unfold Sensor.apply Backend.apply at done
  split at done
  · cases done
  rename_i normalized one
  split at done
  · cases done
  rename_i applied
  cases done
  split at applied
  · cases applied
  rename_i resolved container prepared
  obtain ⟨again,two,three⟩ := prepareApply_resolved prepared
  have both : sensorIntents host intent = .ok (normalized,resolved) := by
    simp [sensorIntents,one,two,three,bind,Except.bind]
  dsimp only at applied
  split at applied
  · rename_i managed
    split at applied
    · cases applied
    cases applied
    refine ⟨both,?_,fun _ => sensorIntents_needs both⟩
    have parts := managed
    rw [managed]
    simp only [Backend.managed,Bool.and_eq_true] at parts ⊢
    exact ⟨⟨trivial,parts.1.2⟩,parts.2⟩
  · rename_i unmanaged
    cases applied
    refine ⟨both,?_,fun impossible => ?_⟩
    · rw [Bool.not_eq_true] at unmanaged
      rw [unmanaged]
      simp [Backend.managed]
    · simp [Backend.managed] at impossible

def Sensor.runsCommands (go : Stdlib) (host : Host) (sensor : Sensor) (intent : CollectionIntent) : Bool :=
  sensor.backend.managed host &&
    ((sensor.backend.runtimePolicyApplied && needsTracingPolicy go sensor.backend.intent) || needsTracingPolicy go intent)

lemma applyTracingPolicy_cancelled (policy : TracingPolicy) (attempts : List AddAttempt) (tetragon : Tetragon) :
    (applyTracingPolicy false policy attempts tetragon).2 ≠ none := by
  cases attempts <;> simp [applyTracingPolicy]

lemma liveApply_idle (old : oldApplied = false ∨ needsTracingPolicy go before = false) (new : needsTracingPolicy go intent = false)
    (tetragon : Tetragon) : liveApplyTracingPolicy go world before intent oldApplied tetragon = (tetragon,none) := by
  unfold liveApplyTracingPolicy
  rcases old with old | old <;> simp [old,new]

lemma liveApply_cancelled (cancelled : world.live = false)
    (needed : (oldApplied && needsTracingPolicy go before) || needsTracingPolicy go intent) (tetragon : Tetragon) :
    (liveApplyTracingPolicy go world before intent oldApplied tetragon).2 ≠ none := by
  unfold liveApplyTracingPolicy
  dsimp only
  cases old : oldApplied && needsTracingPolicy go before with
  | true =>
    rw [if_neg (by simp)]
    cases world.writeRollback with
    | some reason => simp
    | none => simp [deleteTracingPolicy,cancelled]
  | false =>
    rw [old,Bool.false_or] at needed
    rw [if_pos (by simp),if_neg (by simpa using needed)]
    cases world.writePolicy with
    | some reason => simp
    | none =>
      have failed := applyTracingPolicy_cancelled (buildTracingPolicy go intent) world.attempts tetragon
      dsimp only
      rw [cancelled]
      split
      · rename_i done
        rw [done] at failed
        exact absurd rfl failed
      · simp

lemma Sensor.apply_succeeds (done : (sensor.apply go host { world with live := true } intent).2 = none)
    (free : world.live = true ∨ sensor.runsCommands go host intent = false) : (sensor.apply go host world intent).2 = none := by
  rcases free with live | quiet
  · have same : { world with live := true } = world := by rw [← live]
    rw [same] at done
    exact done
  unfold Sensor.apply Backend.apply at done ⊢
  cases one : intent.normalizeScope with
  | error reason => simp [one] at done
  | ok normalized =>
    rw [one] at done
    dsimp only at done ⊢
    -- the checks do not ask the context
    rw [show prepareApply go host { world with live := true } normalized = prepareApply go host world normalized from rfl] at done
    cases prepared : prepareApply go host world normalized with
    | error reason => simp [prepared] at done
    | ok pair =>
      dsimp only
      by_cases managed : sensor.backend.managed host
      · obtain ⟨again,two,three⟩ := prepareApply_resolved prepared
        have new : needsTracingPolicy go pair.1 = needsTracingPolicy go intent := needs_resolved one two three
        simp only [Sensor.runsCommands,managed,Bool.true_and,Bool.or_eq_false_iff,Bool.and_eq_false_iff] at quiet
        rw [if_pos managed,liveApply_idle quiet.1 (new.trans quiet.2)]
      · rw [if_neg managed]

open Sensor

lemma Sensor.apply_refused (cancelled : world.live = false) (commands : sensor.runsCommands go host intent) :
    (sensor.apply go host world intent).2 ≠ none := by
  simp only [runsCommands,Bool.and_eq_true] at commands
  unfold Sensor.apply Backend.apply
  cases one : intent.normalizeScope with
  | error reason => simp
  | ok normalized =>
    dsimp only
    cases prepared : prepareApply go host world normalized with
    | error reason => simp
    | ok pair =>
      obtain ⟨again,two,three⟩ := prepareApply_resolved prepared
      have new : needsTracingPolicy go pair.1 = needsTracingPolicy go intent := needs_resolved one two three
      have failed : (liveApplyTracingPolicy go world sensor.backend.intent pair.1 sensor.backend.runtimePolicyApplied
          sensor.tetragon).2 ≠ none := by
        refine liveApply_cancelled cancelled ?_ sensor.tetragon
        rw [new]
        exact commands.2
      dsimp only
      rw [if_pos commands.1]
      split
      · simp
      rename_i done
      split at done
      · cases done
      rename_i applied
      rw [applied] at failed
      exact absurd rfl failed

/-! Requests. -/

variable {env : AgentEnv} {content : AgentContent} {r : AgentRuntime}

/-- What is in force stays: the intent of the sensor, the detection engine, the telemetry settings
and the policy in the local store. -/
structure Unchanged (before after : AgentRuntime) : Prop where
  runtime : after.sensor.intent = before.sensor.intent
  backend : after.sensor.backend.intent = before.sensor.backend.intent
  detection : after.detection = before.detection
  telemetry : after.telemetry = before.telemetry
  batcher : after.batcher = before.batcher
  stored : after.stored = before.stored

def refusedBy (env : AgentEnv) (policy : EndpointPolicy) (fault : Option String) : Bool :=
  env.localStore && !(saveEffectiveEndpointPolicy env.go policy fault).isOk

def AgentRuntime.collectionUpdate (env : AgentEnv) (content : AgentContent) (r : AgentRuntime) (req : PolicyRequest) :
    Option (CollectionIntent × EndpointPolicy) :=
  if req.contextError ≠ none ∨ req.dryRun then none
  else match req.update with
    | .endpoint document => (prepareEndpointPolicy env content document).toOption.map fun p => (p.intent,p.policy)
    | .collection wire scopeType scopeSelector =>
      (prepareCollectionPolicy env content wire scopeType scopeSelector).toOption.map fun (policy,intent) =>
        (intent,{ r.endpointPolicy with collection := policy, version := r.endpointPolicy.version + 1 })
    | _ => none

def AgentRuntime.refusedIntent (env : AgentEnv) (content : AgentContent) (r : AgentRuntime) (req : PolicyRequest)
    (world : RequestWorld) : Option CollectionIntent :=
  ((r.collectionUpdate env content req).filter fun (intent,policy) =>
    (r.sensor.apply env.go env.host world.apply intent).2.isNone && refusedBy env policy world.put).map (·.1)

/-- When the local store refuses the policy, the sensor ran the intent on record, and it can be put
back to it: the context of the request is still live, or no command is run. Otherwise the sensor
already ran the new intent. -/
def RollbackSafe (env : AgentEnv) (content : AgentContent) (r : AgentRuntime) (req : PolicyRequest) (world : RequestWorld) : Prop :=
  ∀ new, r.refusedIntent env content req world = some new →
    if world.reapply.live ∨ ¬r.sensor.backend.managed env.host ∨
        ¬(needsTracingPolicy env.go new ∨ needsTracingPolicy env.go r.collection) then r.sensor.Runs env.host r.collection
    else r.sensor.Runs env.host new

variable {first second : ApplyWorld} {new : CollectionIntent}

lemma reapply_intents {old : CollectionIntent} (taken : sensor.apply go host first new = (next,none))
    (reapplies : (next.apply go host { second with live := true } old).2 = none) : (next.apply go host second old).1.Runs host
      (if second.live ∨ ¬sensor.backend.managed host ∨ ¬(needsTracingPolicy go new ∨ needsTracingPolicy go old) then old
        else new) := by
  have applied := apply_done taken
  have commands : next.runsCommands go host old =
      (sensor.backend.managed host && (needsTracingPolicy go new || needsTracingPolicy go old)) := by
    have same : needsTracingPolicy go next.backend.intent = needsTracingPolicy go new := sensorIntents_needs applied.runs
    unfold runsCommands
    rw [applied.managed,same]
    cases managed : sensor.backend.managed host with
    | false => rfl
    | true => rw [applied.policy (applied.managed.trans managed),Bool.and_self]
  split
  · rename_i free
    have done : (next.apply go host second old).2 = none := by
      refine apply_succeeds reapplies ?_
      rw [commands]
      rcases free with live | unmanaged | idle
      · exact .inl live
      · exact .inr (by simp [unmanaged])
      · exact .inr (by simp only [not_or,Bool.not_eq_true] at idle; simp [idle])
    have answer : next.apply go host second old = ((next.apply go host second old).1,none) := by rw [← done]
    exact (Sensor.apply_done answer).runs
  · rename_i bound
    have cancelled : second.live = false := by simpa using fun live => bound (.inl live)
    have managed : sensor.backend.managed host := by_contra fun unmanaged => bound (.inr (.inl unmanaged))
    have needed : needsTracingPolicy go new ∨ needsTracingPolicy go old := by_contra fun idle => bound (.inr (.inr idle))
    have failed : (next.apply go host second old).2 ≠ none := by
      refine apply_refused cancelled ?_
      rw [commands,managed]
      simpa using needed
    obtain ⟨reason,failed⟩ := Option.ne_none_iff_exists'.mp failed
    have answer : next.apply go host second old = ((next.apply go host second old).1,some reason) := by rw [← failed]
    obtain ⟨runtime,backend⟩ := apply_failed answer
    unfold Sensor.Runs
    rw [runtime,backend]
    exact applied.runs

lemma Unchanged.refl (r : AgentRuntime) : Unchanged r r := ⟨rfl,rfl,rfl,rfl,rfl,rfl⟩

lemma unchanged_sensor : Unchanged r { r with sensor := next } ↔
    next.intent = r.sensor.intent ∧ next.backend.intent = r.sensor.backend.intent :=
  ⟨fun same => ⟨same.runtime,same.backend⟩,fun ⟨runtime,backend⟩ => ⟨runtime,backend,rfl,rfl,rfl,rfl⟩⟩

lemma Sensor.Runs.iff_same (runs : next.Runs host intent) :
    sensor.Runs host intent ↔ next.intent = sensor.intent ∧ next.backend.intent = sensor.backend.intent := by
  unfold Sensor.Runs at runs ⊢
  rw [runs,Except.ok.injEq,Prod.mk.injEq]

lemma unchanged_reapply (taken : r.sensor.apply env.go env.host first new = (next,none))
    (reapplies : (next.apply env.go env.host { second with live := true } r.collection).2 = none) :
    Unchanged r { r with sensor := (next.apply env.go env.host second r.collection).1 } ↔
      if second.live ∨ ¬r.sensor.backend.managed env.host ∨
          ¬(needsTracingPolicy env.go new ∨ needsTracingPolicy env.go r.collection) then r.sensor.Runs env.host r.collection
      else r.sensor.Runs env.host new := by
  have ends := reapply_intents taken reapplies
  generalize (next.apply env.go env.host second r.collection).1 = last at ends
  rw [unchanged_sensor,← ends.iff_same,apply_ite (r.sensor.Runs env.host)]

open AgentRuntime

lemma persist_refused (r : AgentRuntime) (env : AgentEnv) (policy : EndpointPolicy) (fault : Option String) :
    (∃ reason, r.persistEndpointPolicy env policy fault = .error reason) ↔ refusedBy env policy fault := by
  unfold persistEndpointPolicy refusedBy
  cases env.localStore with
  | false => simp
  | true => cases saveEffectiveEndpointPolicy env.go policy fault <;> simp [Except.map,Except.isOk,Except.toBool]

lemma detectionReport_built (built : buildDetection env content policy = .ok engine) :
    (detectionReport env content policy intent).1 ≠ "rejected" := by
  unfold detectionReport
  rw [built]
  dsimp only
  split <;> decide

lemma prepareEndpointPolicy_status (ok : prepareEndpointPolicy env content document = .ok prepared) :
    prepared.status ≠ "rejected" := by
  unfold prepareEndpointPolicy at ok
  obtain ⟨policy,_,rest⟩ := bind_eq_ok.mp ok
  obtain ⟨collection,_,rest⟩ := bind_eq_ok.mp rest
  obtain ⟨new,_,rest⟩ := bind_eq_ok.mp rest
  obtain ⟨effective,_,rest⟩ := bind_eq_ok.mp rest
  split at rest
  · cases rest
  rename_i built
  cases rest
  exact detectionReport_built built

/-- How a rejected request ends: before the sensor is touched, with the sensor refusing, or with the
local store refusing and the old intent applied again. -/
inductive RejectedEnd (env : AgentEnv) (r : AgentRuntime) (world : RequestWorld) :
    Option CollectionIntent → AgentRuntime → Prop
  | early : RejectedEnd env r world none r
  | sensor {new : CollectionIntent} {after : Sensor} {reason : String}
      (failed : r.sensor.apply env.go env.host world.apply new = (after,some reason)) :
      RejectedEnd env r world none { r with sensor := after }
  | store {new : CollectionIntent} {after : Sensor} (taken : r.sensor.apply env.go env.host world.apply new = (after,none)) :
      RejectedEnd env r world (some new) { r with sensor := (after.apply env.go env.host world.reapply r.collection).1 }

section
variable {req : PolicyRequest} {world : RequestWorld} {prepared : PreparedEndpointPolicy}

lemma refusedIntent_none (nothing : r.collectionUpdate env content req = none) :
    r.refusedIntent env content req world = none := by
  unfold refusedIntent
  rw [nothing]
  rfl

section
variable (update : r.collectionUpdate env content req = some (intent,policy))
include update

lemma refusedIntent_failed
    (failed : r.sensor.apply env.go env.host world.apply intent = (next,some reason)) :
    r.refusedIntent env content req world = none := by
  unfold refusedIntent
  rw [update]
  simp [Option.filter,failed]

lemma refusedIntent_refused
    (taken : r.sensor.apply env.go env.host world.apply intent = (next,none)) (refused : refusedBy env policy world.put) :
    r.refusedIntent env content req world = some intent := by
  unfold refusedIntent
  rw [update]
  simp [Option.filter,taken,refused]

end

lemma rejected_endpoint (served : req.contextError = none) (update : req.update = .endpoint document)
    (rejected : (r.applyEndpointPolicy env content document req.dryRun world).2.status = "rejected") :
    RejectedEnd env r world (r.refusedIntent env content req world)
      (r.applyEndpointPolicy env content document req.dryRun world).1 := by
  unfold applyEndpointPolicy at rejected ⊢
  cases parsed : prepareEndpointPolicy env content document with
  | error reason =>
    rw [refusedIntent_none (by simp [collectionUpdate,served,update,parsed,Except.toOption])]
    exact .early
  | ok prepared =>
    rw [parsed] at rejected
    cases dry : req.dryRun with
    | true => simp [dry] at rejected
    | false =>
      have going : r.collectionUpdate env content req = some (prepared.intent,prepared.policy) := by
        simp [collectionUpdate,served,update,parsed,dry,Except.toOption]
      simp only [dry,Bool.false_eq_true,if_false] at rejected ⊢
      rcases applied : r.sensor.apply env.go env.host world.apply prepared.intent with ⟨next,_ | reason⟩
      · rw [applied] at rejected
        dsimp only at rejected ⊢
        cases saved : { r with sensor := next }.persistEndpointPolicy env prepared.policy world.put with
        | error reason =>
          rw [refusedIntent_refused going applied ((persist_refused _ env prepared.policy world.put).mp ⟨reason,saved⟩)]
          exact .store applied
        | ok kept =>
          rw [saved] at rejected
          exact absurd rejected (prepareEndpointPolicy_status parsed)
      · rw [refusedIntent_failed going applied]
        exact .sensor applied

lemma rejected_collection (served : req.contextError = none) (update : req.update = .collection wire scopeType scopeSelector)
    (rejected : (r.applyCollectionPolicy env content wire scopeType scopeSelector req.dryRun world).2.status = "rejected") :
    RejectedEnd env r world (r.refusedIntent env content req world)
      (r.applyCollectionPolicy env content wire scopeType scopeSelector req.dryRun world).1 := by
  unfold AgentRuntime.applyCollectionPolicy at rejected ⊢
  rcases parsed : prepareCollectionPolicy env content wire scopeType scopeSelector with reason | ⟨policy,intent⟩
  · rw [refusedIntent_none (by simp [AgentRuntime.collectionUpdate,served,update,parsed,Except.toOption])]
    exact .early
  rw [parsed] at rejected
  cases dry : req.dryRun with
  | true =>
    simp only [dry,if_true] at rejected
    split at rejected <;> simp at rejected
  | false =>
    have going : r.collectionUpdate env content req =
        some (intent,{ r.endpointPolicy with collection := policy, version := r.endpointPolicy.version + 1 }) := by
      simp [collectionUpdate,served,update,parsed,dry,Except.toOption]
    simp only [dry,Bool.false_eq_true,if_false] at rejected ⊢
    rcases applied : r.sensor.apply env.go env.host world.apply intent with ⟨next,_ | reason⟩
    · rw [applied] at rejected
      dsimp only at rejected ⊢
      split
      · rename_i reason refused
        rw [ite_eq_iff] at refused
        obtain ⟨_,impossible⟩ | ⟨_,saved⟩ := refused
        · cases impossible
        rw [refusedIntent_refused going applied ((persist_refused _ env _ world.put).mp ⟨reason,saved⟩)]
        exact .store applied
      · rename_i kept saved
        rw [saved] at rejected
        dsimp only at rejected
        split at rejected <;> simp at rejected
    · rw [refusedIntent_failed going applied]
      exact .sensor applied

lemma rejected_detection (rejected : (r.applyDetectionPolicy env content policy dryRun world).2.status = "rejected") :
    (r.applyDetectionPolicy env content policy dryRun world).1 = r := by
  unfold applyDetectionPolicy at rejected ⊢
  cases policy with
  | error reason => rfl
  | ok policy =>
    dsimp only at rejected ⊢
    split
    · rfl
    rename_i real
    rw [if_neg real] at rejected
    split
    · rfl
    rename_i accepted
    rw [if_neg accepted] at rejected
    split
    · rfl
    rename_i saved
    rw [saved] at rejected
    exact absurd rejected accepted

lemma rejected_telemetry (rejected : (r.applyTelemetryPolicy env policy dryRun world).2.status = "rejected") :
    (r.applyTelemetryPolicy env policy dryRun world).1 = r := by
  unfold applyTelemetryPolicy at rejected ⊢
  rcases policy with reason | _ | policy
  · rfl
  · rfl
  dsimp only at rejected ⊢
  split
  · rfl
  rename_i resolved
  split
  · rfl
  rename_i real
  rw [resolved,if_neg real] at rejected
  split
  · rfl
  rename_i saved
  rw [saved] at rejected
  simp at rejected

lemma rejected_end (rejected : (r.applyPolicy env content req world).2.status = "rejected") :
    RejectedEnd env r world (r.refusedIntent env content req world) (r.applyPolicy env content req world).1 := by
  unfold applyPolicy at rejected ⊢
  cases served : req.contextError with
  | some reason =>
    rw [refusedIntent_none (by simp [collectionUpdate,served])]
    exact .early
  | none =>
    rw [served] at rejected
    have untouched {after : AgentRuntime} (other : r.collectionUpdate env content req = none) (same : after = r) :
        RejectedEnd env r world (r.refusedIntent env content req world) after := by
      rw [refusedIntent_none other,same]
      exact .early
    cases update : req.update with
    | endpoint document =>
      rw [update] at rejected
      exact rejected_endpoint served update rejected
    | collection wire scopeType scopeSelector =>
      rw [update] at rejected
      exact rejected_collection served update rejected
    | detection policy =>
      rw [update] at rejected
      exact untouched (by simp [AgentRuntime.collectionUpdate,update]) (rejected_detection rejected)
    | telemetry policy =>
      rw [update] at rejected
      exact untouched (by simp [collectionUpdate,update]) (rejected_telemetry rejected)
    | unsupported policyType => exact untouched (by simp [collectionUpdate,update]) rfl

/-- A rejected request leaves everything in force as it was, exactly when the rollback is safe. -/
theorem rejected_policy_unchanged_iff (env : AgentEnv) (content : AgentContent) (r : AgentRuntime) (req : PolicyRequest)
    (world : RequestWorld) (reapplies : ∀ new, r.refusedIntent env content req world = some new →
      ((r.sensor.apply env.go env.host world.apply new).1.apply env.go env.host { world.reapply with live := true }
        r.collection).2 = none) (rejected : (r.applyPolicy env content req world).2.status = "rejected") :
    Unchanged r (r.applyPolicy env content req world).1 ↔ RollbackSafe env content r req world := by
  have ending := rejected_end rejected
  unfold RollbackSafe
  generalize r.refusedIntent env content req world = refused at ending reapplies ⊢
  generalize (r.applyPolicy env content req world).1 = after at ending ⊢
  cases ending with
  | early => simp [Unchanged.refl]
  | sensor failed => simpa using unchanged_sensor.mpr (apply_failed failed)
  | store taken =>
    have back := reapplies _ rfl
    rw [taken] at back
    rw [unchanged_reapply taken back]
    simp

end

def behaviorIntent (behavior : Behavior) : CollectionIntent where
  behaviors := [behavior.name]
  behaviorFilters := [{ behavior := behavior.name }]
  scopeType := "host"
  observeOnly := true

def execRuntime : AgentRuntime where
  collection := behaviorIntent .processExec
  detection := .ok (compileEngine asciiStdlib .linear [] {} {})
  telemetry := defaultTelemetryConfig
  batcher := defaultTelemetryConfig
  sensor :=
    { intent := behaviorIntent .processExec, applied := true
      backend :=
        { scopeType := "host", intent := behaviorIntent .processExec, policyLoaded := true, runtimePolicyApplied := true }
      tetragon := ⟨some (buildTracingPolicy asciiStdlib (behaviorIntent .processExec))⟩ }

def connectRequest : PolicyRequest := { update := .endpoint (.ok (sampleDocument ["network.connect"] "host" "")) }
def refusingWorld (live : Bool) : RequestWorld := { put := some "context canceled", reapply := { live := live } }

theorem refused_rollback_unchanged :
    (execRuntime.applyPolicy sampleEnv emptyContent connectRequest (refusingWorld true)).2.status = "rejected" ∧
      Unchanged execRuntime (execRuntime.applyPolicy sampleEnv emptyContent connectRequest (refusingWorld true)).1 := by
  have refused : execRuntime.refusedIntent sampleEnv emptyContent connectRequest (refusingWorld true) =
      some (behaviorIntent .networkConnect) := by decide +kernel
  refine ⟨rfl,(rejected_policy_unchanged_iff _ _ _ _ _ ?_ rfl).mpr ?_⟩
  · rintro new taken
    cases refused.symm.trans taken
    rfl
  rintro new taken
  cases refused.symm.trans taken
  exact rfl

/-- The context ends before the policy is stored: the request is rejected and the sensor goes on with
the rejected intent. -/
theorem cancelled_request_keeps_new_intent :
    (execRuntime.applyPolicy sampleEnv emptyContent connectRequest (refusingWorld false)).2.status = "rejected" ∧
      ((execRuntime.sensor.apply asciiStdlib sampleEnv.host {} (behaviorIntent .networkConnect)).1.apply asciiStdlib
        sampleEnv.host {} execRuntime.collection).2 = none ∧
      (execRuntime.applyPolicy sampleEnv emptyContent connectRequest (refusingWorld false)).1.sensor.intent =
        behaviorIntent .networkConnect ∧
      ¬Unchanged execRuntime (execRuntime.applyPolicy sampleEnv emptyContent connectRequest (refusingWorld false)).1 := by
  have intent : (execRuntime.applyPolicy sampleEnv emptyContent connectRequest (refusingWorld false)).1.sensor.intent =
      behaviorIntent .networkConnect := rfl
  refine ⟨rfl,rfl,intent,fun same => ?_⟩
  have names : ["network.connect"] = ["process.exec"] := congrArg CollectionIntent.behaviors (intent.symm.trans same.runtime)
  simp at names

end SysArmor.Agent
