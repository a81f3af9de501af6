import SysArmor.CollectionFilters
import SysArmor.StartupPolicy

/-! What subscribers get while an intent is in force. Whatever is applied, subscribed to, emitted and
delivered, in any order, every delivered event conforms to the intent that was last accepted, as long
as every accepted intent is enforced, keeps the scope that was subscribed to, and finds neither a
policy that was left behind nor events of the one before it on their way. -/
namespace SysArmor.Agent
open GoText Content List

variable {go : Stdlib} {host : Host} {intent old new : CollectionIntent} {tetragon after : Tetragon} {world : ApplyWorld}
  {sensor next : Sensor} {b backend : Backend} {c : Collector}

/-! The installed policy. -/

def Clean (go : Stdlib) (intent : CollectionIntent) (tetragon : Tetragon) : Prop :=
  tetragon.installed = none ∨ tetragon.installed = some (buildTracingPolicy go intent)

lemma clean_empty (go : Stdlib) (intent : CollectionIntent) : Clean go intent {} := .inl rfl

lemma Clean.added (clean : Clean go intent tetragon) :
    Clean go intent { installed := some (tetragon.installed.getD (buildTracingPolicy go intent)) } := by
  refine .inr ?_
  rcases clean with none | same
  · rw [none]
    rfl
  · rw [same]
    rfl

lemma applyTracingPolicy_clean (clean : Clean go intent tetragon) (live : Bool) (attempts : List AddAttempt) :
    Clean go intent (applyTracingPolicy live (buildTracingPolicy go intent) attempts tetragon).1 := by
  induction attempts generalizing tetragon with
  | nil => exact clean
  | cons attempt rest ih =>
    simp only [applyTracingPolicy]
    split
    · exact clean
    split
    · exact clean.added
    refine ih ?_
    split
    · exact clean.added
    · exact clean

lemma addPolicy_clean {undo : Tetragon → String → Tetragon × Option String} (fails : ∀ failed reason, (undo failed reason).2 ≠ none)
    (clean : Clean go new tetragon) (added : (if ¬needsTracingPolicy go new then (tetragon,none)
      else match world.writePolicy with
        | some reason => (tetragon,some ("write tetragon tracing policy: " ++ reason))
        | none =>
          match applyTracingPolicy world.live (buildTracingPolicy go new) world.attempts tetragon with
          | (added,none) => (added,none)
          | (failed,some reason) => undo failed reason) = (after,none)) : Clean go new after := by
  split at added
  · cases added
    exact clean
  split at added
  · cases added
  split at added
  · rename_i result
    cases added
    have kept := applyTracingPolicy_clean clean world.live world.attempts
    rw [result] at kept
    exact kept
  · exact absurd (congrArg Prod.snd added) (fails _ _)

lemma liveApply_clean (done : liveApplyTracingPolicy go world old new oldApplied tetragon = (after,none))
    (before : Clean go new tetragon ∨ (oldApplied && needsTracingPolicy go old)) : Clean go new after := by
  simp only [liveApplyTracingPolicy] at done
  split at done
  · rename_i idle
    refine addPolicy_clean (fun failed reason => ?_) (before.resolve_right (by simpa using idle)) done
    simp
  split at done
  · cases done
  split at done
  · cases done
  rename_i deleted removed
  refine addPolicy_clean (fun failed reason => ?_) (.inl ?_) done
  · split <;> simp
  simp only [deleteTracingPolicy] at removed
  split at removed
  · cases removed
  split at removed
  · cases removed
    rfl
  · cases removed

structure Sensor.Changed (go : Stdlib) (host : Host) (world : ApplyWorld) (sensor next : Sensor) : Prop where
  scopeType : next.backend.scopeType = sensor.backend.scopeType
  scopeSelector : next.backend.scopeSelector = sensor.backend.scopeSelector
  policy : if sensor.backend.managed host then
      liveApplyTracingPolicy go world sensor.backend.intent next.backend.intent sensor.backend.runtimePolicyApplied
        sensor.tetragon = (next.tetragon,none)
    else next.tetragon = sensor.tetragon ∧ next.backend.policyLoaded = false

lemma Sensor.apply_changed (done : sensor.apply go host world intent = (next,none)) : sensor.Changed go host world next := by
  simp only [Sensor.apply] at done
  split at done
  · cases done
  split at done
  · cases done
  rename_i applied
  cases done
  simp only [Backend.apply] at applied
  split at applied
  · cases applied
  split at applied
  · rename_i managed
    split at applied
    · cases applied
    rename_i changed
    cases applied
    exact ⟨rfl,rfl,by rw [if_pos managed]; exact changed⟩
  · rename_i unmanaged
    cases applied
    exact ⟨rfl,rfl,by rw [if_neg unmanaged]; exact ⟨rfl,rfl⟩⟩

/-! Resolved intents. -/

structure Resolved (host : Host) (manager resolved : CollectionIntent) : Prop where
  normal : manager.normalizeScope = .ok manager
  resolves : resolveNamespaceScope host manager = .ok resolved

lemma normalizeScope_eq_self_iff : intent.normalizeScope = .ok intent ↔
    normalizeScope intent.scopeType intent.scopeSelector = .ok (intent.scopeType,intent.scopeSelector) := by
  constructor
  · intro done
    obtain ⟨⟨type,selector⟩,scope,last⟩ := bind_eq_ok.mp done
    have same := Except.ok.inj last
    rw [scope,← congrArg CollectionIntent.scopeType same,← congrArg CollectionIntent.scopeSelector same]
  · intro scope
    simp only [CollectionIntent.normalizeScope,scope,bind,Except.bind]

lemma intent_normalizeScope_again (ok : intent.normalizeScope = .ok new) : new.normalizeScope = .ok new := by
  obtain ⟨⟨type,selector⟩,scope,last⟩ := bind_eq_ok.mp ok
  rw [normalizeScope_eq_self_iff,← Except.ok.inj last]
  exact normalizeScope_again scope

lemma resolve_again (ok : resolveNamespaceScope host intent = .ok new) : resolveNamespaceScope host new = .ok new := by
  obtain ⟨selectors,rfl,rfl | names⟩ := resolveNamespaceScope_selectors ok
  · exact ok
  · simp only [resolveNamespaceScope,names]
    split <;> rfl

lemma Sensor.Runs.resolved (runs : sensor.Runs host intent) : Resolved host sensor.intent sensor.backend.intent := by
  obtain ⟨first,one,rest⟩ := bind_eq_ok.mp runs
  obtain ⟨second,two,rest⟩ := bind_eq_ok.mp rest
  obtain ⟨third,three,last⟩ := bind_eq_ok.mp rest
  obtain ⟨manager,backend⟩ := Prod.mk.inj (Except.ok.inj last)
  have normal := intent_normalizeScope_again one
  cases normal.symm.trans two
  rw [← manager,← backend]
  exact ⟨normal,three⟩

lemma Resolved.scope (resolved : Resolved host old new) : new.normalizeScope = .ok new := by
  obtain ⟨selectors,same,-⟩ := resolveNamespaceScope_selectors resolved.resolves
  have normal := normalizeScope_eq_self_iff.mp resolved.normal
  rw [normalizeScope_eq_self_iff,same]
  exact normal

/-! Subscribing. -/

structure Kept (b backend : Backend) : Prop where
  intent : backend.intent = b.intent
  scope : (backend.scopeType = b.scopeType ∧ backend.scopeSelector = b.scopeSelector) ∨
    (backend.scopeType = b.intent.scopeType ∧ backend.scopeSelector = b.intent.scopeSelector)

lemma scopeType_given (normal : intent.normalizeScope = .ok intent) : trimSpace intent.scopeType ≠ "" := by
  have hostName : trimSpace "host" = "host" := by decide +kernel
  obtain ⟨type,_,_⟩ := normalizeScope_eq_ok.mp (normalizeScope_eq_self_iff.mp normal)
  intro blank
  rw [if_pos blank] at type
  rw [type,hostName] at blank
  exact absurd blank (by decide)

lemma backend_apply_again (normal : b.intent.normalizeScope = .ok b.intent) (again : resolveNamespaceScope host b.intent = .ok b.intent)
    (unloaded : b.policyLoaded = false) (result : b.apply go host world b.intent tetragon = (backend,after,failed)) :
    backend.intent = b.intent ∧ backend.scopeType = b.scopeType ∧ backend.scopeSelector = b.scopeSelector ∧
      backend.policyLoaded = b.policyLoaded ∧ after = tetragon := by
  simp only [Backend.apply] at result
  split at result
  · cases result
    exact ⟨rfl,rfl,rfl,rfl,rfl⟩
  rename_i resolved container prepared
  obtain ⟨normalized,one,two⟩ := prepareApply_resolved prepared
  cases normal.symm.trans one
  cases again.symm.trans two
  rw [if_neg (by simp [Backend.managed,unloaded])] at result
  cases result
  exact ⟨rfl,rfl,rfl,unloaded.symm,rfl⟩

lemma ensureIntent_kept (resolved : Resolved host intent b.intent)
    (result : b.ensureIntent go host world intent tetragon = (backend,after,failed)) :
    Kept b backend ∧ backend.policyLoaded = b.policyLoaded ∧ after = tetragon ∧
      (failed = none → backend.scopeType = b.intent.scopeType ∧ backend.scopeSelector = b.intent.scopeSelector) := by
  have explicit := scopeType_given resolved.normal
  unfold Backend.ensureIntent at result
  simp only [resolved.normal,resolved.resolves,bind,Except.bind] at result
  cases valid : validateSupportedScope go b.intent with
  | error reason =>
    simp only [valid,Prod.mk.injEq] at result
    obtain ⟨rfl,rfl,rfl⟩ := result
    exact ⟨⟨rfl,.inl ⟨rfl,rfl⟩⟩,rfl,rfl,nofun⟩
  | ok =>
    simp only [valid,explicit,ne_eq,not_false_eq_true,true_or,if_true] at result
    split at result
    · cases result
      exact ⟨⟨rfl,.inr ⟨rfl,rfl⟩⟩,rfl,rfl,fun _ => ⟨rfl,rfl⟩⟩
    rename_i idle
    have unloaded : b.policyLoaded = false := by
      simp only [Bool.or_eq_true,not_or,Bool.not_eq_true] at idle
      exact idle.1
    obtain ⟨same,type,selector,loaded,untouched⟩ :=
      backend_apply_again (b := { b with scopeType := b.intent.scopeType, scopeSelector := b.intent.scopeSelector })
        resolved.scope (resolve_again resolved.resolves) unloaded result
    exact ⟨⟨same,.inr ⟨type,selector⟩⟩,loaded,untouched,fun _ => ⟨type,selector⟩⟩

lemma applyPreparedPolicy_kept (result : b.applyPreparedPolicy go host world tetragon = (backend,after,failed)) :
    backend.intent = b.intent ∧ backend.scopeType = b.scopeType ∧ backend.scopeSelector = b.scopeSelector ∧
      (Clean go b.intent tetragon → Clean go b.intent after) := by
  simp only [Backend.applyPreparedPolicy] at result
  split at result
  · cases result
    exact ⟨rfl,rfl,rfl,id⟩
  split at result
  · split at result
    · cases result
      exact ⟨rfl,rfl,rfl,id⟩
    · have kept (clean : Clean go b.intent tetragon) := applyTracingPolicy_clean clean world.live world.attempts
      split at result
      · rename_i added
        rw [added] at kept
        cases result
        exact ⟨rfl,rfl,rfl,kept⟩
      · rename_i added
        rw [added] at kept
        cases result
        exact ⟨rfl,rfl,rfl,kept⟩
  · cases result
    exact ⟨rfl,rfl,rfl,id⟩

lemma backend_subscribe_kept (resolved : Resolved host intent b.intent) {world : SubscribeWorld}
    (result : b.subscribe go host world intent tetragon = (backend,after,failed)) :
    Kept b backend ∧ (failed = none → backend.scopeType = b.intent.scopeType ∧ backend.scopeSelector = b.intent.scopeSelector) ∧
      (Clean go b.intent tetragon → Clean go b.intent after) ∧
      (failed = none ∨ backend.policyLoaded ≠ b.policyLoaded → world.ownTetragon → Clean go b.intent after) := by
  unfold Backend.subscribe at result
  simp only [] at result
  split at result
  · rename_i ensured
    cases result
    obtain ⟨kept,loaded,rfl,_⟩ := ensureIntent_kept resolved ensured
    exact ⟨kept,nofun,id,fun late => absurd loaded (late.resolve_left nofun)⟩
  · rename_i first started ensured
    obtain ⟨kept,loaded,rfl,scope⟩ := ensureIntent_kept resolved ensured
    obtain ⟨type,selector⟩ := scope rfl
    have starts : Clean go b.intent started → Clean go b.intent (if world.ownTetragon then {} else started) := by
      intro clean
      split
      · exact clean_empty go _
      · exact clean
    split at result
    · cases result
      exact ⟨kept,nofun,starts,fun late => absurd loaded (late.resolve_left nofun)⟩
    have own (mine : world.ownTetragon) : Clean go b.intent (if world.ownTetragon then {} else started) := by
      rw [if_pos mine]
      exact clean_empty go _
    split at result
    · rename_i prepared
      cases result
      obtain ⟨same,type',selector',clean⟩ := applyPreparedPolicy_kept prepared
      rw [kept.intent] at same clean
      exact ⟨⟨same,.inr ⟨type'.trans type,selector'.trans selector⟩⟩,nofun,fun old => clean (starts old),
        fun _ mine => clean (own mine)⟩
    · rename_i second last prepared
      obtain ⟨same,type',selector',clean⟩ := applyPreparedPolicy_kept prepared
      rw [kept.intent] at same clean
      have taken : second.scopeType = b.intent.scopeType ∧ second.scopeSelector = b.intent.scopeSelector :=
        ⟨type'.trans type,selector'.trans selector⟩
      split at result
      · cases result
        exact ⟨⟨same,.inr taken⟩,nofun,fun old => clean (starts old),fun _ mine => clean (own mine)⟩
      · cases result
        exact ⟨⟨same,.inr taken⟩,fun _ => taken,fun old => clean (starts old),fun _ mine => clean (own mine)⟩

/-! Runs. -/

section
variable (go : Stdlib) (host : Host)

/-- An accepted intent is enforced, has the scope that was subscribed to, and meets neither events on
their way that its policy does not pass nor a policy that the backend does not delete. A policy that
was left behind is not there when it is subscribed to. -/
def Meets (c : Collector) : CollectorStep → Prop
  | .apply _ intent => ∀ manager resolved, sensorIntents host intent = .ok (manager,resolved) →
    Enforced go resolved ∧
    (c.running → c.sensor.backend.scopeType = resolved.scopeType ∧ c.sensor.backend.scopeSelector = resolved.scopeSelector) ∧
    (∀ event ∈ c.pending, (buildTracingPolicy go resolved).passes event) ∧
    (c.running ∨ c.sensor.backend.policyLoaded → Clean go resolved c.sensor.tetragon ∨
      (c.sensor.backend.managed host ∧ c.sensor.backend.runtimePolicyApplied ∧ needsTracingPolicy go c.sensor.backend.intent))
  | .subscribe world =>
    c.sensor.backend.policyLoaded ∨ world.ownTetragon ∨ Clean go c.sensor.backend.intent c.sensor.tetragon
  | _ => True

def MeetsAll : Collector → List CollectorStep → Prop
  | _,[] => True
  | c,step :: rest => Meets go host c step ∧ MeetsAll (c.step go host step) rest

def Delivers (c : Collector) : Prop :=
  ∀ k ev intent, (k,ev,some intent) ∈ c.delivered → Conforms go intent k ev

structure InForce (c : Collector) (intent : CollectionIntent) : Prop where
  held : c.sensor.backend.intent = intent
  resolved : Resolved host c.sensor.intent intent
  enforced : Enforced go intent
  clean : c.running ∨ c.sensor.backend.policyLoaded → Clean go intent c.sensor.tetragon
  scope : c.running → c.sensor.backend.scopeType = intent.scopeType ∧ c.sensor.backend.scopeSelector = intent.scopeSelector
  pending : ∀ event ∈ c.pending, (buildTracingPolicy go intent).passes event

structure Sound (c : Collector) : Prop where
  inForce : ∀ intent, c.accepted = some intent → InForce go host c intent
  delivers : Delivers go c
  quiet : c.running = false → c.pending = []

end

lemma apply_sound (sound : Sound go host c) (meets : Meets go host c (.apply world intent)) :
    Sound go host (c.step go host (.apply world intent)) := by
  unfold Collector.step
  dsimp only
  split
  · rename_i next done
    refine ⟨?_,sound.delivers,sound.quiet⟩
    rintro _ ⟨⟩
    have runs := (Sensor.apply_done done).runs
    obtain ⟨enforced,scope,pending,clean⟩ := meets _ _ runs
    have changed := Sensor.apply_changed done
    refine ⟨rfl,runs.resolved,enforced,?_,?_,pending⟩
    · intro on
      have policy := changed.policy
      split at policy
      · rename_i managed
        have loaded : c.sensor.backend.policyLoaded := by
          simp only [Backend.managed,Bool.and_eq_true] at managed
          exact managed.1.1
        refine liveApply_clean policy ((clean (.inr loaded)).imp id fun known => ?_)
        rw [known.2.1,known.2.2]
        rfl
      · rename_i unmanaged
        rw [policy.1]
        have running : c.running := on.resolve_right (by simp [policy.2])
        exact (clean (.inl running)).resolve_right fun known => unmanaged known.1
    · intro running
      rw [changed.scopeType,changed.scopeSelector]
      exact scope running
  · exact ⟨by simp,sound.delivers,sound.quiet⟩

lemma subscribe_inForce {world : SubscribeWorld} (force : InForce go host c intent) (meets : Meets go host c (.subscribe world))
    (result : c.sensor.subscribe go host world = (next,failed)) (running : Bool) (on : running → failed = none ∨ c.running)
    (same : failed ≠ none → running = c.running) : InForce go host { c with sensor := next, running := running } intent := by
  simp only [Sensor.subscribe] at result
  split at result
  · cases result
    rw [same nofun]
    exact { force with }
  generalize answer : c.sensor.backend.subscribe go host world c.sensor.intent c.sensor.tetragon = triple at result
  obtain ⟨backend,after,reason⟩ := triple
  cases result
  have resolved : Resolved host c.sensor.intent c.sensor.backend.intent := by
    rw [force.held]
    exact force.resolved
  obtain ⟨kept,scope,clean,own⟩ := backend_subscribe_kept resolved answer
  have old : c.running ∨ c.sensor.backend.policyLoaded → Clean go c.sensor.backend.intent c.sensor.tetragon := by
    rw [force.held]
    exact force.clean
  have ready : reason = none ∨ backend.policyLoaded ≠ c.sensor.backend.policyLoaded → Clean go c.sensor.backend.intent after := by
    intro late
    rcases meets with loaded | mine | tidy
    · exact clean (old (.inr loaded))
    · exact own late mine
    · exact clean tidy
  rw [force.held] at ready clean old
  refine ⟨kept.intent.trans force.held,force.resolved,force.enforced,?_,?_,force.pending⟩
  · rintro (up | loaded)
    · rcases on up with done | running
      · exact ready (.inl done)
      · exact clean (old (.inl running))
    · by_cases changed : backend.policyLoaded = c.sensor.backend.policyLoaded
      · exact clean (old (.inr (changed ▸ loaded)))
      · exact ready (.inr changed)
  · intro up
    rw [← force.held]
    rcases on up with done | running
    · exact scope done
    rcases kept.scope with ⟨type,selector⟩ | taken
    · obtain ⟨type',selector'⟩ := force.scope running
      rw [force.held]
      exact ⟨type.trans type',selector.trans selector'⟩
    · exact taken

lemma subscribe_sound {world : SubscribeWorld} (sound : Sound go host c) (meets : Meets go host c (.subscribe world)) :
    Sound go host (c.step go host (.subscribe world)) := by
  unfold Collector.step
  dsimp only
  split
  · rename_i next done
    refine ⟨fun intent accepted => ?_,sound.delivers,nofun⟩
    exact subscribe_inForce (sound.inForce intent accepted) meets done true (fun _ => .inl rfl) nofun
  rename_i next reason done
  refine ⟨fun intent accepted => ?_,sound.delivers,sound.quiet⟩
  exact subscribe_inForce (sound.inForce intent accepted) meets done c.running .inr fun _ => rfl

lemma emit_sound (sound : Sound go host c) (event : KernelEvent) : Sound go host (c.step go host (.emit event)) := by
  unfold Collector.step
  dsimp only
  split
  · rename_i emitted
    obtain ⟨running,passes⟩ := Bool.and_eq_true_iff.mp emitted
    refine ⟨fun intent accepted => ?_,sound.delivers,fun off => ?_⟩
    · have force := sound.inForce intent accepted
      refine ⟨force.held,force.resolved,force.enforced,force.clean,force.scope,?_⟩
      intro other mem
      rcases mem_append.mp mem with old | last
      · exact force.pending other old
      rw [mem_singleton.mp last]
      rcases force.clean (.inl running) with none | same
      · simp [Tetragon.emits,none] at passes
      · simpa [Tetragon.emits,same] using passes
    · exact absurd off (by simp [running])
  · exact sound

lemma deliver_sound (sound : Sound go host c) : Sound go host (c.step go host .deliver) := by
  unfold Collector.step Collector.deliver
  dsimp only
  split
  · exact sound
  rename_i event rest arrived
  have popped : Sound go host { c with pending := rest } := by
    refine ⟨fun intent accepted => ?_,sound.delivers,fun off => ?_⟩
    · have force := sound.inForce intent accepted
      exact ⟨force.held,force.resolved,force.enforced,force.clean,force.scope,fun other mem =>
        force.pending other (by rw [arrived]; exact mem_cons_of_mem _ mem)⟩
    have none := sound.quiet off
    rw [arrived] at none
    cases none
  split
  · exact popped
  rename_i read decoded
  split
  · rename_i checked
    refine ⟨fun intent accepted => { popped.inForce intent accepted with },?_,popped.quiet⟩
    intro k ev intent mem
    rcases mem_append.mp mem with old | last
    · exact sound.delivers k ev intent old
    obtain ⟨rfl,rfl,accepted⟩ : k = event ∧ ev = read ∧ some intent = c.accepted := by simpa using last
    have force := sound.inForce intent accepted.symm
    have running : c.running := by
      by_contra off
      have none := sound.quiet (by simpa using off)
      rw [arrived] at none
      cases none
    obtain ⟨type,selector⟩ := force.scope running
    have trimmed := normalizeScope_trimmed (normalizeScope_eq_self_iff.mp force.resolved.scope)
    rw [← force.held] at type selector trimmed ⊢
    refine conforms_of_passes ?_ ?_ decoded checked.1 checked.2 (by rw [type]; exact trimmed.1) (by rw [selector]; exact trimmed.2)
    · rw [force.held]
      exact force.enforced
    · rw [force.held]
      exact force.pending k (by rw [arrived]; exact mem_cons_self)
  · exact popped

lemma step_sound (sound : Sound go host c) (step : CollectorStep) (meets : Meets go host c step) :
    Sound go host (c.step go host step) := by
  cases step with
  | apply world intent => exact apply_sound sound meets
  | subscribe world => exact subscribe_sound sound meets
  | emit event => exact emit_sound sound event
  | deliver => exact deliver_sound sound

lemma run_sound (sound : Sound go host c) (steps : List CollectorStep) (meets : MeetsAll go host c steps) :
    Sound go host (c.run go host steps) := by
  induction steps generalizing c with
  | nil => exact sound
  | cons step rest ih => exact ih (step_sound sound step meets.1) meets.2

/-- From a sensor that was just made, with any policy left in Tetragon. -/
theorem delivered_events_conform (go : Stdlib) (host : Host) (scopeType scopeSelector : String) (left : Tetragon)
    (steps : List CollectorStep)
    (meets : MeetsAll go host { sensor := { backend := { scopeType, scopeSelector }, tetragon := left } } steps) :
    Delivers go (Collector.run go host { sensor := { backend := { scopeType, scopeSelector }, tetragon := left } } steps) := by
  refine (run_sound ⟨?_,?_,fun _ => rfl⟩ steps meets).delivers
  · simp
  · simp [Delivers]

def startEvent (docker : String) : KernelEvent :=
  { hook := .bprmCredsFromFile, binary := "/bin/sh", docker := docker, path := "/usr/bin/id" }

def connectEvent : KernelEvent :=
  { hook := .socketConnect, binary := "/usr/bin/curl", family := "AF_INET", addr := "10.0.0.1", port := 80 }

def singleEvent (intent : CollectionIntent) (event : KernelEvent) : Collector :=
  Collector.run asciiStdlib sampleEnv.host {} [.apply {} intent,.subscribe {},.emit event,.deliver]

theorem start_delivered : (∃ entry, entry ∈ (singleEvent (behaviorIntent .processExec) (startEvent "")).delivered) ∧
      Delivers asciiStdlib (singleEvent (behaviorIntent .processExec) (startEvent "")) := by
  have has (behavior : Behavior) (on : intentHasBehavior asciiStdlib (behaviorIntent .processExec) behavior) :
      behavior = .processExec := by
    cases behavior <;> first | rfl | exact absurd on (by decide +kernel)
  have enforced : Enforced asciiStdlib (behaviorIntent .processExec) :=
    ⟨fun _ => .inl rfl,fun on => absurd (has _ on) nofun,fun on => absurd (has _ on) nofun,
      fun source target given _ other => by rw [has source given] at other; cases other⟩
  have resolved : sensorIntents sampleEnv.host (behaviorIntent .processExec) =
      .ok (behaviorIntent .processExec,behaviorIntent .processExec) := rfl
  refine ⟨⟨_,mem_cons_self⟩,delivered_events_conform asciiStdlib sampleEnv.host "" "" {} _
    ⟨?_,.inr (.inr (.inl rfl)),trivial,trivial,trivial⟩⟩
  intro manager backend both
  cases resolved.symm.trans both
  exact ⟨enforced,nofun,nofun,fun on => by rcases on with on | on <;> cases on⟩

def portIntent : CollectionIntent :=
  { behaviorIntent .networkConnect with behaviorFilters := [{ behavior := "network.connect", socketPorts := ["443"] }] }

def scopeChange : Collector :=
  Collector.run asciiStdlib sampleEnv.host {}
    [.apply {} (behaviorIntent .processExec),.subscribe {},
      .apply {} { behaviorIntent .processExec with scopeType := "container", scopeSelector := "c1" },.emit (startEvent ""),.deliver]

theorem port_and_scope_not_enforced :
    ¬Delivers asciiStdlib (singleEvent portIntent connectEvent) ∧ ¬Delivers asciiStdlib scopeChange := by
  constructor
  · intro all
    have conforms : Conforms asciiStdlib portIntent connectEvent _ := all _ _ _ mem_cons_self
    have port : AdmitsText ["443"] (formatUint 80) := conforms.filter.port rfl
    revert port
    unfold AdmitsText
    decide +kernel
  · intro all
    have conforms : Conforms asciiStdlib { behaviorIntent .processExec with scopeType := "container", scopeSelector := "c1" }
      (startEvent "") _ := all _ _ _ mem_cons_self
    have scope : containerIDsMatch asciiStdlib "" "c1" = true := conforms.scope
    revert scope
    decide +kernel

end SysArmor.Agent
