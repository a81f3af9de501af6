import SysArmor.CollectionPolicy

/-! Events on their way from Tetragon to the subscribers: which ones the installed tracing policy
passes, what the agent reads them as, and the checks it makes before it hands them on. Of an event
only what a selector or a check looks at is kept. -/
namespace SysArmor.Agent
open GoText

structure KernelEvent where
  hook : Hook
  (binary docker : String := "")
  /-- Kinds and inodes of the namespaces of the process. -/
  namespaces : List (String × String) := []
  (path family addr : String := "")
  (port access : Nat := 0)

def startsWithAny (text : String) (prefixes : List String) : Bool := prefixes.any (hasPrefix text ·)

def KernelEvent.inNamespace (k : KernelEvent) (selector : NamespaceSelector) : Bool :=
  k.namespaces.any fun (kind,inode) => kind = selector.nspace && inode ∈ selector.values

def ArgMatch.passes (k : KernelEvent) (arg : ArgMatch) : Bool :=
  match arg.operator with
  | .hasPrefix => startsWithAny k.path arg.values
  | .family => k.family ∈ arg.values
  | .equal => formatUint k.access ∈ arg.values

def KprobeSelector.passes (k : KernelEvent) (selector : KprobeSelector) : Bool :=
  (selector.matchBinaries.isEmpty || startsWithAny k.binary selector.matchBinaries) &&
    selector.matchNamespaces.all (k.inNamespace ·) && selector.matchArgs.all (·.passes k)

def Kprobe.passes (k : KernelEvent) (kprobe : Kprobe) : Bool :=
  kprobe.call = k.hook && (kprobe.selectors.isEmpty || kprobe.selectors.any (·.passes k))

def TracingPolicy.passes (k : KernelEvent) (policy : TracingPolicy) : Bool := policy.kprobes.any (·.passes k)

/-! What the agent reads. -/

structure SensorEvent where
  behavior : Behavior
  binary : String
  (path dst : String := "")
  (cgroup containerID : String)

def fileBehavior (access : Nat) : Behavior :=
  if access = 2 then .fileWrite else if access = 4 then .fileRead else .fileOpen

def sensorEvent (k : KernelEvent) (behavior : Behavior) (path dst : String) : SensorEvent :=
  { behavior := behavior, binary := k.binary, path := path, dst := dst, cgroup := k.docker, containerID := k.docker }

def kprobeEventToSensor (k : KernelEvent) : Option SensorEvent :=
  match k.hook with
  | .bprmCredsFromFile => some (sensorEvent k .processExec k.path "")
  | .doExit => some (sensorEvent k .processExit "" "")
  | .socketConnect =>
    if k.addr ≠ "" ∧ k.port ≠ 0 then some (sensorEvent k .networkConnect "" (k.addr ++ ":" ++ formatUint k.port)) else none
  | .filePermission => if k.path ≠ "" then some (sensorEvent k (fileBehavior k.access) k.path "") else none

section
variable (go : Stdlib)

def validContainerID (id : String) : Bool :=
  id ≠ "" && id.toList.all fun c => c.isDigit || ('a' ≤ c && c ≤ 'f')

def containerIDsMatch (eventID selector : String) : Bool :=
  let eventID := toLower go (trimSpace eventID)
  let selector := toLower go (trimSpace selector)
  if eventID = "" ∨ selector = "" then false
  else hasPrefix eventID selector ||
    (12 ≤ eventID.utf8ByteSize && validContainerID eventID && validContainerID selector && hasPrefix selector eventID)

def Backend.matchesIntentBehavior (b : Backend) (behavior : Behavior) : Bool :=
  b.intent.behaviors.isEmpty || intentHasBehavior go b.intent behavior

def Backend.matchesScope (b : Backend) (ev : SensorEvent) : Bool :=
  let scopeSelector := trimSpace b.scopeSelector
  match trimSpace b.scopeType with
  | "" | "host" => true
  | "container" => containerIDsMatch go ev.containerID scopeSelector
  | "cgroup" => hasPrefix ev.cgroup scopeSelector
  | "namespace" =>
    if scopeSelector = "self" ∧ b.intent.namespaceSelectors ≠ [] then
      if b.namespaceSelfContainerID = "" then ev.containerID = ""
      else containerIDsMatch go ev.containerID b.namespaceSelfContainerID
    else hasPrefix ev.cgroup scopeSelector
  | "pod" => hasPrefix ev.containerID scopeSelector
  | _ => false

/-! Subscribing. -/

structure SubscribeWorld where
  apply : ApplyWorld := {}
  /-- The agent runs a Tetragon of its own, which starts without a policy. -/
  ownTetragon : Bool := false
  (start source : Option String := none)

variable (host : Host)

def hasIntent (intent : CollectionIntent) : Bool :=
  !intent.behaviors.isEmpty || intent.observeOnly || !intent.filePrefixes.isEmpty || !intent.socketFamilies.isEmpty

def Backend.ensureIntent (world : ApplyWorld) (intent : CollectionIntent) (b : Backend) (tetragon : Tetragon) :
    Backend × Tetragon × Option String :=
  match (do
    let normalized ← intent.normalizeScope
    let resolved ← resolveNamespaceScope host normalized
    validateSupportedScope go resolved
    .ok resolved) with
  | .error reason => (b,tetragon,some reason)
  | .ok resolved =>
    let b :=
      if trimSpace intent.scopeType ≠ "" ∨ trimSpace intent.scopeSelector ≠ "" then
        { b with scopeType := resolved.scopeType, scopeSelector := resolved.scopeSelector }
      else b
    if b.policyLoaded || hasIntent b.intent then (b,tetragon,none)
    else b.apply go host world resolved tetragon

def Backend.applyPreparedPolicy (world : ApplyWorld) (b : Backend) (tetragon : Tetragon) : Backend × Tetragon × Option String :=
  if b.policyLoaded then (b,tetragon,none)
  else if host.tetraPath ≠ "" ∧ host.eventSource = "" ∧ needsTracingPolicy go b.intent then
    match world.writePolicy with
    | some reason => (b,tetragon,some ("write tetragon tracing policy: " ++ reason))
    | none =>
      match applyTracingPolicy world.live (buildTracingPolicy go b.intent) world.attempts tetragon with
      | (tetragon,some reason) => (b,tetragon,some reason)
      | (tetragon,none) => ({ b with policyLoaded := true, runtimePolicyApplied := true },tetragon,none)
  else ({ b with policyLoaded := true },tetragon,none)

def Backend.subscribe (world : SubscribeWorld) (intent : CollectionIntent) (b : Backend) (tetragon : Tetragon) :
    Backend × Tetragon × Option String :=
  match b.ensureIntent go host world.apply intent tetragon with
  | (b,tetragon,some reason) => (b,tetragon,some reason)
  | (b,tetragon,none) =>
    let tetragon := if world.ownTetragon then {} else tetragon
    match world.start with
    | some reason => (b,tetragon,some reason)
    | none =>
      match b.applyPreparedPolicy go host world.apply tetragon with
      | (b,tetragon,some reason) => (b,tetragon,some reason)
      | (b,tetragon,none) =>
        match world.source with
        | some reason => (b,tetragon,some reason)
        | none => ({ b with policyLoaded := true },tetragon,none)

def Sensor.subscribe (world : SubscribeWorld) (sensor : Sensor) : Sensor × Option String :=
  if ¬sensor.applied then (sensor,some "collection intent has not been applied")
  else
    let (backend,tetragon,failed) := sensor.backend.subscribe go host world sensor.intent sensor.tetragon
    ({ sensor with backend := backend, tetragon := tetragon },failed)

/-! Runs. -/

/-- The sensor, the events on their way, and what was delivered, each event with the intent that the
last apply had been accepted for. -/
structure Collector where
  sensor : Sensor := {}
  running : Bool := false
  pending : List KernelEvent := []
  accepted : Option CollectionIntent := none
  delivered : List (KernelEvent × SensorEvent × Option CollectionIntent) := []

inductive CollectorStep where
  | apply (world : ApplyWorld) (intent : CollectionIntent)
  | subscribe (world : SubscribeWorld)
  | emit (event : KernelEvent)
  | deliver

def Tetragon.emits (tetragon : Tetragon) (event : KernelEvent) : Bool := tetragon.installed.any (·.passes event)

def Collector.deliver (c : Collector) : Collector :=
  match c.pending with
  | [] => c
  | event :: rest =>
    let c := { c with pending := rest }
    match kprobeEventToSensor event with
    | none => c
    | some read =>
      if c.sensor.backend.matchesIntentBehavior go read.behavior ∧ c.sensor.backend.matchesScope go read then
        { c with delivered := c.delivered ++ [(event,read,c.accepted)] }
      else c

def Collector.step (c : Collector) : CollectorStep → Collector
  | .apply world intent =>
    match c.sensor.apply go host world intent with
    | (sensor,none) => { c with sensor := sensor, accepted := some sensor.backend.intent }
    | (sensor,some _) => { c with sensor := sensor, accepted := none }
  | .subscribe world =>
    match c.sensor.subscribe go host world with
    | (sensor,none) => { c with sensor := sensor, running := true }
    | (sensor,some _) => { c with sensor := sensor }
  | .emit event => if c.running && c.sensor.tetragon.emits event then { c with pending := c.pending ++ [event] } else c
  | .deliver => c.deliver go

def Collector.run (c : Collector) (steps : List CollectorStep) : Collector := steps.foldl (Collector.step go host) c

end

end SysArmor.Agent
