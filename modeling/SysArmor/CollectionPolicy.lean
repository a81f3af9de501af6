import SysArmor.ContentStore

/-! Collection policies of the agent: their normal form, the expansion of content references into
selectors, and the intent that is handed to the sensor. The report of resolved references and the
declared capabilities of the sensor are left out. -/
namespace SysArmor.Agent
open GoText

inductive Behavior where
  | processExec | processFork | processExit | fileOpen | fileRead | fileWrite | fileChmod | networkConnect
  deriving DecidableEq, Repr

def Behavior.name : Behavior → String
  | .processExec => "process.exec"
  | .processFork => "process.fork"
  | .processExit => "process.exit"
  | .fileOpen => "file.open"
  | .fileRead => "file.read"
  | .fileWrite => "file.write"
  | .fileChmod => "file.chmod"
  | .networkConnect => "network.connect"

def allBehaviors : List Behavior :=
  [.processExec,.processFork,.processExit,.fileOpen,.fileRead,.fileWrite,.fileChmod,.networkConnect]

def behaviorNamed (name : String) : Option Behavior := allBehaviors.find? (·.name = name)

section
variable (go : Stdlib)

def normalizeBehavior (name : String) : String := trimSpace (toLower go name)
def knownBehavior (name : String) : Bool := (behaviorNamed (normalizeBehavior go name)).isSome

structure FileSelector where
  (prefixes prefixRefs : List String := [])
  deriving DecidableEq

structure SocketSelector where
  (families addrs addrRefs ports portRefs : List String := [])
  deriving DecidableEq

structure CollectionBehaviorSelectors where
  (binaryPrefixes processBinaryPrefixes : List String := [])
  file : FileSelector := {}
  socket : SocketSelector := {}
  deriving DecidableEq

structure CollectionBehaviorPolicy where
  id : String
  enabled : Option Bool := none
  selectors : CollectionBehaviorSelectors := {}
  deriving DecidableEq

structure CollectionPolicy where
  policyID : String := ""
  version : Nat := 0
  behaviors : List String := []
  behaviorSpecs : List CollectionBehaviorPolicy := []
  (binaryPrefixes filePrefixes socketFamilies socketAddrs socketPorts : List String := [])
  (scopeType scopeSelector : String := "")
  observeOnly : Bool := false
  deriving DecidableEq

def normalizeStringList (values : List String) : List String := uniqueTrimmed values

def normalizeBehaviorList (values : List String) : List String :=
  distinct [] ((values.map (normalizeBehavior go)).filter (· ≠ ""))

def normalizeSelectors (selectors : CollectionBehaviorSelectors) : CollectionBehaviorSelectors where
  binaryPrefixes := normalizeStringList selectors.binaryPrefixes
  processBinaryPrefixes := normalizeStringList selectors.processBinaryPrefixes
  file :=
    { prefixes := normalizeStringList selectors.file.prefixes
      prefixRefs := normalizeStringList selectors.file.prefixRefs }
  socket :=
    { families := normalizeStringList selectors.socket.families
      addrs := normalizeStringList selectors.socket.addrs
      addrRefs := normalizeStringList selectors.socket.addrRefs
      ports := normalizeStringList selectors.socket.ports
      portRefs := normalizeStringList selectors.socket.portRefs }

def normalizeSpec (spec : CollectionBehaviorPolicy) : CollectionBehaviorPolicy :=
  { spec with id := normalizeBehavior go spec.id, selectors := normalizeSelectors spec.selectors }

def normalizeBehaviorSpecs (specs : List CollectionBehaviorPolicy) : List CollectionBehaviorPolicy :=
  (specs.map (normalizeSpec go)).filter (·.id ≠ "")

def normalizeCollectionPolicy (policy : CollectionPolicy) : CollectionPolicy where
  policyID := if trimSpace policy.policyID = "" then "local-collection-policy" else trimSpace policy.policyID
  version := if policy.version = 0 then 1 else policy.version
  behaviors := normalizeBehaviorList go policy.behaviors
  behaviorSpecs := normalizeBehaviorSpecs go policy.behaviorSpecs
  binaryPrefixes := normalizeStringList policy.binaryPrefixes
  filePrefixes := normalizeStringList policy.filePrefixes
  socketFamilies := normalizeStringList policy.socketFamilies
  socketAddrs := normalizeStringList policy.socketAddrs
  socketPorts := normalizeStringList policy.socketPorts
  scopeType := trimSpace policy.scopeType
  scopeSelector := trimSpace policy.scopeSelector
  observeOnly := policy.observeOnly

/-! Expansion of content references. -/

structure CollectionContentSnapshot where
  (contextSets iocPacks : String → Option Content.ValueSet)

def collectionMaxFilePrefixes : Nat := 128
def collectionMaxSocketAddrs : Nat := 512
def collectionMaxSocketPorts : Nat := 128

def lookupCollectionValueSet (snapshot : CollectionContentSnapshot) (ref : String) : Option Content.ValueSet :=
  let ref := trimSpace ref
  if hasPrefix ref "ctx:" then snapshot.contextSets ref
  else if hasPrefix ref "ioc:" then snapshot.iocPacks ref
  else (snapshot.contextSets ref).or (snapshot.iocPacks ref)

structure SelectorKind where
  selector : String
  valueTypes : List String
  budget : Nat

def filePathPrefix : SelectorKind := ⟨"file.path.prefix",["path_prefix"],collectionMaxFilePrefixes⟩
def socketAddr : SelectorKind := ⟨"socket.addr",["ip","addr","ip_addr"],collectionMaxSocketAddrs⟩
def socketPort : SelectorKind := ⟨"socket.port",["port"],collectionMaxSocketPorts⟩

/-- One turn of the loop of `expandSelectorRefs`: the values collected so far with those of a ref. -/
def expandRef (snapshot : CollectionContentSnapshot) (behavior : String) (kind : SelectorKind) (values : List String)
    (ref : String) : Except String (List String) :=
  match lookupCollectionValueSet snapshot ref with
  | none =>
    .error (s!"collection selector {kind.selector} for {behavior} references missing content " ++ go.quote ref)
  | some set =>
    let next := normalizeStringList (values ++ set.values)
    if trimSpace set.valueType ∉ kind.valueTypes then
      .error (s!"collection selector {kind.selector} for {behavior} references {ref} with value_type " ++
        go.quote set.valueType ++ ", want one of " ++ join kind.valueTypes ",")
    else if next.length > kind.budget then
      .error (s!"collection selector {kind.selector} for {behavior} exceeds budget after {ref}: " ++
        formatUint next.length ++ " > " ++ formatUint kind.budget)
    else .ok next

def expandSelectorRefs (snapshot : CollectionContentSnapshot) (behavior : String) (kind : SelectorKind)
    (refs : List String) : Except String (List String) :=
  (normalizeStringList refs).foldlM (expandRef go snapshot behavior kind) []

def expandSelector (snapshot : CollectionContentSnapshot) (behavior : String) (kind : SelectorKind)
    (values refs : List String) : Except String (List String) := do
  let more ← expandSelectorRefs go snapshot behavior kind refs
  .ok (normalizeStringList (values ++ more))

def checkBudget (behavior : String) (kind : SelectorKind) (values : List String) : Except String Unit :=
  if values.length > kind.budget then
    .error (s!"collection selector {kind.selector} for {behavior} exceeds budget: " ++
      formatUint values.length ++ " > " ++ formatUint kind.budget)
  else .ok ()

def expandSpec (snapshot : CollectionContentSnapshot) (spec : CollectionBehaviorPolicy) :
    Except String CollectionBehaviorPolicy := do
  let behavior := normalizeBehavior go spec.id
  let file := spec.selectors.file
  let socket := spec.selectors.socket
  let prefixes ← expandSelector go snapshot behavior filePathPrefix file.prefixes file.prefixRefs
  let addrs ← expandSelector go snapshot behavior socketAddr socket.addrs socket.addrRefs
  let ports ← expandSelector go snapshot behavior socketPort socket.ports socket.portRefs
  checkBudget behavior filePathPrefix prefixes
  checkBudget behavior socketAddr addrs
  checkBudget behavior socketPort ports
  .ok { spec with
    selectors := { spec.selectors with
      file := { file with prefixes := prefixes }
      socket := { socket with addrs := addrs, ports := ports } } }

def expandCollectionPolicyRefs (snapshot : CollectionContentSnapshot) (policy : CollectionPolicy) :
    Except String CollectionPolicy := do
  let policy := normalizeCollectionPolicy go policy
  let specs ← policy.behaviorSpecs.mapM (expandSpec go snapshot)
  .ok (normalizeCollectionPolicy go { policy with behaviorSpecs := specs })

end

/-! The intent. -/

structure NamespaceSelector where
  nspace : String
  values : List String
  deriving DecidableEq

structure CollectionBehaviorFilter where
  behavior : String
  (binaryPrefixes filePrefixes socketFamilies socketAddrs socketPorts : List String := [])
  deriving DecidableEq

structure CollectionIntent where
  (behaviors binaryPrefixes filePrefixes socketFamilies socketAddrs socketPorts : List String := [])
  behaviorFilters : List CollectionBehaviorFilter := []
  namespaceSelectors : List NamespaceSelector := []
  (scopeType scopeSelector : String := "")
  observeOnly : Bool := false
  deriving DecidableEq

def normalizeScope (scopeType scopeSelector : String) : Except String (String × String) :=
  let type := if trimSpace scopeType = "" then "host" else trimSpace scopeType
  let selector := trimSpace scopeSelector
  if type = "host" then
    if selector ≠ "" then .error "scope selector must be empty when scope type is host" else .ok (type,selector)
  else if type ∈ ["container","cgroup","namespace","pod"] then
    if selector = "" then .error s!"scope selector is required when scope type is {type}" else .ok (type,selector)
  else .error "scope type must be one of host, container, cgroup, namespace, pod"

def CollectionIntent.withScope (intent : CollectionIntent) (scopeType scopeSelector : String) : CollectionIntent :=
  { intent with scopeType := trimSpace scopeType, scopeSelector := trimSpace scopeSelector }

def CollectionIntent.normalizeScope (intent : CollectionIntent) : Except String CollectionIntent := do
  let (type,selector) ← Agent.normalizeScope intent.scopeType intent.scopeSelector
  .ok { intent with scopeType := type, scopeSelector := selector }

section
variable (go : Stdlib)

def addBehavior (behaviors : List String) (behavior : String) : Except String (List String) :=
  let normalized := normalizeBehavior go behavior
  if normalized = "" then .ok behaviors
  else if ¬knownBehavior go normalized then .error ("unsupported collection behavior " ++ go.quote behavior)
  else .ok (if normalized ∈ behaviors then behaviors else behaviors ++ [normalized])

def CollectionBehaviorPolicy.isEnabled (spec : CollectionBehaviorPolicy) : Bool := spec.enabled.getD true

def specFilter (spec : CollectionBehaviorPolicy) : CollectionBehaviorFilter where
  behavior := normalizeBehavior go spec.id
  binaryPrefixes := normalizeStringList (spec.selectors.binaryPrefixes ++ spec.selectors.processBinaryPrefixes)
  filePrefixes := normalizeStringList spec.selectors.file.prefixes
  socketFamilies := normalizeStringList spec.selectors.socket.families
  socketAddrs := normalizeStringList spec.selectors.socket.addrs
  socketPorts := normalizeStringList spec.selectors.socket.ports

def flatFilter (behavior : String) (binaryPrefixes filePrefixes socketFamilies socketAddrs socketPorts : List String) :
    CollectionBehaviorFilter :=
  match behaviorNamed behavior with
  | some .processExec | some .processFork => { behavior := behavior, binaryPrefixes := binaryPrefixes }
  | some .networkConnect =>
    { behavior := behavior, binaryPrefixes := binaryPrefixes, socketFamilies := socketFamilies,
      socketAddrs := socketAddrs, socketPorts := socketPorts }
  | some .fileOpen | some .fileRead | some .fileWrite | some .fileChmod =>
    { behavior := behavior, binaryPrefixes := binaryPrefixes, filePrefixes := filePrefixes }
  | _ => { behavior := behavior }

def behaviorFiltersFromFlatFields (behaviors : List String) (policy : CollectionPolicy) : List CollectionBehaviorFilter :=
  behaviors.map fun behavior => flatFilter behavior policy.binaryPrefixes policy.filePrefixes policy.socketFamilies
    policy.socketAddrs policy.socketPorts

def collectionPolicyIntent (policy : CollectionPolicy) : Except String CollectionIntent := do
  let policy := normalizeCollectionPolicy go policy
  let enabled := policy.behaviorSpecs.filter (·.isEnabled)
  let behaviors ← (policy.behaviors ++ enabled.map (·.id)).foldlM (addBehavior go) []
  if behaviors = [] then .error "collection policy has no supported behaviors"
  else
    let filters := enabled.map (specFilter go)
    CollectionIntent.normalizeScope
      { behaviors := behaviors
        binaryPrefixes := policy.binaryPrefixes
        filePrefixes := policy.filePrefixes
        socketFamilies := policy.socketFamilies
        socketAddrs := policy.socketAddrs
        socketPorts := policy.socketPorts
        behaviorFilters := if filters = [] then behaviorFiltersFromFlatFields behaviors policy else filters
        scopeType := policy.scopeType
        scopeSelector := policy.scopeSelector
        observeOnly := policy.observeOnly }

end

/-! The Tetragon sensor behind the agent: the tracing policy that an intent is compiled to, and how
an intent is put in force by the `tetra` command line. The policy is a value, not its YAML text.
What the commands and the file system answer comes with each call. -/

inductive Hook where
  | bprmCredsFromFile | doExit | socketConnect | filePermission
  deriving DecidableEq, Repr

inductive ArgOperator where
  | hasPrefix | family | equal
  deriving DecidableEq

structure ArgMatch where
  index : Nat
  operator : ArgOperator
  values : List String
  deriving DecidableEq

/-- A selector passes an event when all its parts do; an empty list of binaries or namespaces is no
restriction. -/
structure KprobeSelector where
  matchBinaries : List String := []
  matchNamespaces : List NamespaceSelector := []
  matchArgs : List ArgMatch := []
  deriving DecidableEq

structure Kprobe where
  call : Hook
  selectors : List KprobeSelector := []
  deriving DecidableEq

structure TracingPolicy where
  kprobes : List Kprobe
  deriving DecidableEq

section
variable (go : Stdlib)

def intentHasBehavior (intent : CollectionIntent) (behavior : Behavior) : Bool :=
  intent.behaviors.any fun got => normalizeBehavior go got = behavior.name

/-- `behaviorFilter` of an intent: the first filter of the behaviour, or one from the flat fields. -/
def behaviorFilter (intent : CollectionIntent) (behavior : Behavior) : CollectionBehaviorFilter :=
  (intent.behaviorFilters.find? fun filter => normalizeBehavior go filter.behavior = behavior.name).getD
    (flatFilter behavior.name intent.binaryPrefixes intent.filePrefixes intent.socketFamilies intent.socketAddrs
      intent.socketPorts)

def mergeFilterStrings (values : List String) : List String := uniqueTrimmed values

def needsTracingPolicy (intent : CollectionIntent) : Bool :=
  intent.behaviors.any fun behavior => (behaviorNamed (normalizeBehavior go behavior)).isSome

/-- `writeNamespaceSelectors` skips selectors without a name or values. -/
def namespaceMatches (selectors : List NamespaceSelector) : List NamespaceSelector :=
  (selectors.map fun selector => { selector with values := mergeFilterStrings selector.values }).filter
    fun selector => selector.nspace ≠ "" && selector.values ≠ []

def defaultFilePrefixesForBehavior : Behavior → List String
  | .fileRead => ["/root/.ssh","/var/run/secrets","/etc/passwd","/etc/shadow","/etc/sudoers"]
  | .fileWrite | .fileChmod => ["/dev/shm","/tmp","/var/tmp"]
  | _ => ["/root/.ssh","/var/run/secrets","/etc/passwd"]

def execPrefixes (intent : CollectionIntent) : List String :=
  mergeFilterStrings ((behaviorFilter go intent .processExec).binaryPrefixes ++
    (behaviorFilter go intent .processFork).binaryPrefixes)

def execKprobes (intent : CollectionIntent) : List Kprobe :=
  if intentHasBehavior go intent .processExec || intentHasBehavior go intent .processFork then
    let prefixes := execPrefixes go intent
    [{ call := .bprmCredsFromFile
       selectors :=
        if prefixes = [] ∧ intent.namespaceSelectors = [] then []
        else
          [{ matchNamespaces := namespaceMatches intent.namespaceSelectors
             matchArgs := if prefixes = [] then [] else [⟨1,.hasPrefix,prefixes⟩] }] }]
  else []

def exitKprobes (intent : CollectionIntent) : List Kprobe :=
  if intentHasBehavior go intent .processExit then [{ call := .doExit }] else []

def connectKprobes (intent : CollectionIntent) : List Kprobe :=
  if intentHasBehavior go intent .networkConnect then
    let filter := behaviorFilter go intent .networkConnect
    let families := if filter.socketFamilies = [] then ["AF_INET","AF_INET6"] else filter.socketFamilies
    [{ call := .socketConnect
       selectors :=
        [{ matchBinaries := mergeFilterStrings filter.binaryPrefixes
           matchNamespaces := namespaceMatches intent.namespaceSelectors
           matchArgs := [⟨1,.family,families⟩] }] }]
  else []

def fileAccess : Behavior → Option String
  | .fileRead => some "4"
  | .fileWrite | .fileChmod => some "2"
  | _ => none

def fileBehaviors : List Behavior := [.fileOpen,.fileRead,.fileWrite,.fileChmod]

def fileSelectorPrefixes (intent : CollectionIntent) (behavior : Behavior) : List String :=
  let prefixes := (behaviorFilter go intent behavior).filePrefixes
  mergeFilterStrings (if prefixes = [] then defaultFilePrefixesForBehavior behavior else prefixes)

def filePermissionSelector (intent : CollectionIntent) (behavior : Behavior) : KprobeSelector where
  matchBinaries := mergeFilterStrings (behaviorFilter go intent behavior).binaryPrefixes
  matchNamespaces := namespaceMatches intent.namespaceSelectors
  matchArgs := ⟨0,.hasPrefix,fileSelectorPrefixes go intent behavior⟩ ::
    ((fileAccess behavior).map fun access => (⟨1,.equal,[access]⟩ : ArgMatch)).toList

def filePermissionSelectors (intent : CollectionIntent) : List KprobeSelector :=
  (fileBehaviors.filter (intentHasBehavior go intent)).map (filePermissionSelector go intent)

def fileKprobes (intent : CollectionIntent) : List Kprobe :=
  if filePermissionSelectors go intent = [] then []
  else [{ call := .filePermission, selectors := filePermissionSelectors go intent }]

def buildTracingPolicy (intent : CollectionIntent) : TracingPolicy :=
  ⟨execKprobes go intent ++ exitKprobes go intent ++ connectKprobes go intent ++ fileKprobes go intent⟩

end

/-! Commands. -/

structure Tetragon where
  installed : Option TracingPolicy := none

inductive CommandResult where
  | done
  | failed (reason : String) (effect : Bool)

structure AddAttempt where
  add : CommandResult := .done
  list : Option String := none

/-- What the surroundings answer while an intent is applied. `live` says that the caller's context
is not cancelled; a command is not started under a cancelled one. -/
structure ApplyWorld where
  live : Bool := true
  (policyFile writeRollback writePolicy : Option String := none)
  delete : CommandResult := .done
  (attempts restore : List AddAttempt := [{}])

def deleteTracingPolicy (world : ApplyWorld) (tetragon : Tetragon) : Tetragon × Option String :=
  if ¬world.live then (tetragon,some "delete tetragon tracing policy: context canceled")
  else match world.delete with
    | .done => ({ installed := none },none)
    | .failed reason effect => (if effect then { installed := none } else tetragon,some reason)

/-- The loop of `applyTracingPolicy`, one attempt each turn until the deadline. A policy of the name
that is already there counts as added. -/
def applyTracingPolicy (live : Bool) (policy : TracingPolicy) : List AddAttempt → Tetragon → Tetragon × Option String
  | [],tetragon => (tetragon,some "apply tetragon tracing policy: deadline")
  | attempt :: rest,tetragon =>
    if ¬live then (tetragon,some "context canceled")
    else match attempt.add with
      | .done =>
        ({ installed := some (tetragon.installed.getD policy) },attempt.list)
      | .failed _ effect =>
        applyTracingPolicy live policy rest
          (if effect then { installed := some (tetragon.installed.getD policy) } else tetragon)

/-! The backend. -/

structure Host where
  (policyPath tetraPath eventSource : String)
  selfNamespaces : Except String (List NamespaceSelector)
  selfContainerID : Except String String

structure Backend where
  (scopeType scopeSelector namespaceSelfContainerID : String := "")
  intent : CollectionIntent := {}
  (policyLoaded runtimePolicyApplied : Bool := false)

section
variable (go : Stdlib) (host : Host)

def resolveNamespaceScope (intent : CollectionIntent) : Except String CollectionIntent :=
  if intent.scopeType ≠ "namespace" ∨ intent.scopeSelector ≠ "self" ∨ intent.namespaceSelectors ≠ [] then .ok intent
  else host.selfNamespaces.map fun selectors => { intent with namespaceSelectors := selectors }

def validateSupportedScope (intent : CollectionIntent) : Except String Unit :=
  if intent.scopeType ∈ ["","host","container","cgroup","namespace","pod"] then .ok ()
  else .error ("tetragon backend scope " ++ go.quote intent.scopeType ++ " is not supported")

def resolveNamespaceSelfContainerID (intent : CollectionIntent) : Except String String :=
  if intent.scopeType ≠ "namespace" ∨ intent.scopeSelector ≠ "self" then .ok "" else host.selfContainerID

/-- The checks of `Apply` before anything is changed: the resolved intent and the container. -/
def prepareApply (world : ApplyWorld) (intent : CollectionIntent) : Except String (CollectionIntent × String) := do
  if host.policyPath = "" then .error "tetragon policy path is required"
  else
    let normalized ← intent.normalizeScope
    let resolved ← resolveNamespaceScope host normalized
    validateSupportedScope go resolved
    let container ← resolveNamespaceSelfContainerID host resolved
    match world.policyFile with
    | some reason => .error ("verify tetragon policy: " ++ reason)
    | none => .ok (resolved,container)

/-- The policy of the old intent is deleted before the new one is added; when that fails the old one
is added again under a context of its own. -/
def liveApplyTracingPolicy (world : ApplyWorld) (old new : CollectionIntent) (oldApplied : Bool) (tetragon : Tetragon) :
    Tetragon × Option String :=
  let oldNeeds := oldApplied && needsTracingPolicy go old
  let newNeeds := needsTracingPolicy go new
  let addNew (tetragon : Tetragon) : Tetragon × Option String :=
    if ¬newNeeds then (tetragon,none)
    else match world.writePolicy with
      | some reason => (tetragon,some ("write tetragon tracing policy: " ++ reason))
      | none =>
        match applyTracingPolicy world.live (buildTracingPolicy go new) world.attempts tetragon with
        | (added,none) => (added,none)
        | (failed,some reason) =>
          if oldNeeds then ((applyTracingPolicy true (buildTracingPolicy go old) world.restore failed).1,some reason)
          else (failed,some reason)
  if ¬oldNeeds then addNew tetragon
  else match world.writeRollback with
    | some reason => (tetragon,some ("write tetragon tracing policy: " ++ reason))
    | none =>
      match deleteTracingPolicy world tetragon with
      | (deleted,some reason) => (deleted,some reason)
      | (deleted,none) => addNew deleted

/-- The policy can be changed while events are read: it was loaded through `tetra`. -/
def Backend.managed (b : Backend) : Bool := b.policyLoaded && host.tetraPath ≠ "" && host.eventSource = ""

def Backend.apply (world : ApplyWorld) (intent : CollectionIntent) (b : Backend) (tetragon : Tetragon) :
    Backend × Tetragon × Option String :=
  match prepareApply go host world intent with
  | .error reason => (b,tetragon,some reason)
  | .ok (normalized,container) =>
    let b' := { b with namespaceSelfContainerID := container }
    if b.managed host then
      match liveApplyTracingPolicy go world b.intent normalized b.runtimePolicyApplied tetragon with
      | (tetragon,some reason) => (b',tetragon,some reason)
      | (tetragon,none) =>
        ({ b' with intent := normalized, policyLoaded := true, runtimePolicyApplied := needsTracingPolicy go normalized },
          tetragon,none)
    else ({ b' with intent := normalized, policyLoaded := false, runtimePolicyApplied := false },tetragon,none)

structure Sensor where
  intent : CollectionIntent := {}
  applied : Bool := false
  backend : Backend := {}
  tetragon : Tetragon := {}

def Sensor.apply (world : ApplyWorld) (intent : CollectionIntent) (sensor : Sensor) : Sensor × Option String :=
  match intent.normalizeScope with
  | .error reason => (sensor,some reason)
  | .ok normalized =>
    match sensor.backend.apply go host world normalized sensor.tetragon with
    | (backend,tetragon,some reason) => ({ sensor with backend := backend, tetragon := tetragon },some reason)
    | (backend,tetragon,none) =>
      ({ intent := normalized, applied := true, backend := backend, tetragon := tetragon },none)

end

/-! What a change of the collection intent that fails leaves behind. Each answer of the surroundings at which
`Apply` gives up is told apart by what has been deleted and added until then. -/
variable {go : Stdlib} {host : Host} {world : ApplyWorld}

def AddAttempt.tookEffect (attempt : AddAttempt) : Bool :=
  match attempt.add with
  | .done => true
  | .failed _ effect => effect

lemma applyTracingPolicy_installed (live : Bool) (policy : TracingPolicy) (attempts : List AddAttempt) (t : Tetragon) :
    (applyTracingPolicy live policy attempts t).1 =
      if live && attempts.any (·.tookEffect) then ⟨some (t.installed.getD policy)⟩ else t := by
  induction attempts generalizing t with
  | nil => simp [applyTracingPolicy]
  | cons attempt rest ih =>
    cases live with
    | false => simp [applyTracingPolicy]
    | true =>
      cases added : attempt.add with
      | done => simp [applyTracingPolicy,AddAttempt.tookEffect,added]
      | failed reason effect =>
        cases effect <;> simp [applyTracingPolicy,AddAttempt.tookEffect,added,ih]

lemma added_of_applied (done : (applyTracingPolicy true policy attempts t).2 = none) : attempts.any (·.tookEffect) = true := by
  induction attempts generalizing t with
  | nil => simp [applyTracingPolicy] at done
  | cons attempt rest ih =>
    cases added : attempt.add with
    | done => simp [AddAttempt.tookEffect,added]
    | failed reason effect =>
      simp only [applyTracingPolicy,added,not_true_eq_false,if_false] at done
      simp [ih done]

def ApplyWorld.Restores (world : ApplyWorld) (old new : TracingPolicy) (oldNeeds : Bool) (before : Option TracingPolicy) : Prop :=
  if oldNeeds = false then before ≠ none ∨ world.writePolicy ≠ none ∨ (world.live && world.attempts.any (·.tookEffect)) = false
  else world.writeRollback ≠ none ∨ world.live = false ∨
    match world.delete with
    | .failed _ effect => effect = false ∨ before = none
    | .done => before =
      if world.writePolicy ≠ none then none else some (if world.attempts.any (·.tookEffect) then new else old)

lemma liveApply_restores_iff (failed : (liveApplyTracingPolicy go world old new oldApplied t).2 ≠ none)
    (restores : ∀ t, (applyTracingPolicy true (buildTracingPolicy go old) world.restore t).2 = none) :
    (liveApplyTracingPolicy go world old new oldApplied t).1 = t ↔
      world.Restores (buildTracingPolicy go old) (buildTracingPolicy go new) (oldApplied && needsTracingPolicy go old)
        t.installed := by
  have added := applyTracingPolicy_installed world.live (buildTracingPolicy go new) world.attempts
  have readded := applyTracingPolicy_installed true (buildTracingPolicy go old) world.restore
  simp only [added_of_applied (restores t),Bool.true_and,if_true] at readded
  obtain ⟨before⟩ := t
  simp only [liveApplyTracingPolicy,ApplyWorld.Restores] at failed ⊢
  cases needed : (oldApplied && needsTracingPolicy go old) <;> cases needs : needsTracingPolicy go new <;>
    simp only [needed,needs,Bool.false_eq_true,Bool.true_eq_false,not_true_eq_false,not_false_eq_true,if_true,if_false]
      at failed ⊢
  · exact absurd rfl failed
  · cases writing : world.writePolicy with
    | some reason => simp
    | none =>
      simp only [writing] at failed ⊢
      have outcome := added ⟨before⟩
      generalize applyTracingPolicy world.live (buildTracingPolicy go new) world.attempts ⟨before⟩ = ended at failed outcome ⊢
      obtain ⟨after,_ | reason⟩ := ended
      · exact absurd rfl failed
      · obtain rfl : after = _ := outcome
        generalize (world.live && world.attempts.any (·.tookEffect)) = effect
        cases effect <;> cases before <;> simp
  -- With an old policy the answers to the rollback file, the context and the deletion come first.
  all_goals
    rcases rollback : world.writeRollback with _ | reason
    case some => simp
    cases live : world.live
    case false => simp [deleteTracingPolicy,live]
    rcases deleted : world.delete with _ | ⟨reason,effect⟩
    case failed => cases effect <;> cases before <;> simp [deleteTracingPolicy,live,deleted]
    simp only [deleteTracingPolicy,rollback,live,deleted,not_true_eq_false,if_false] at failed ⊢
  · exact absurd rfl failed
  · cases writing : world.writePolicy with
    | some reason => cases before <;> simp
    | none =>
      simp only [writing] at failed ⊢
      have outcome := added ⟨none⟩
      rw [live,Bool.true_and] at outcome
      generalize applyTracingPolicy true (buildTracingPolicy go new) world.attempts ⟨none⟩ = ended at failed outcome ⊢
      obtain ⟨after,_ | reason⟩ := ended
      · exact absurd rfl failed
      · obtain rfl : after = _ := outcome
        simp only [readded]
        generalize world.attempts.any (·.tookEffect) = effect
        cases effect <;> simp [eq_comm]

/-- A failed apply leaves sensor, intent and container as they were iff it stopped before the sensor was
touched, or the surroundings undid each step; the old policy can always be installed again. -/
theorem failed_apply_restores_iff {b : Backend} {t : Tetragon} (managed : b.managed host = true)
    (failed : (b.apply go host world intent t).2.2 = some reason)
    (restores : ∀ t, (applyTracingPolicy true (buildTracingPolicy go b.intent) world.restore t).2 = none) :
    (b.apply go host world intent t).2.1 = t ∧ (b.apply go host world intent t).1.intent = b.intent ∧
        (b.apply go host world intent t).1.namespaceSelfContainerID = b.namespaceSelfContainerID ↔
      ∀ normalized container, prepareApply go host world intent = .ok (normalized,container) →
        container = b.namespaceSelfContainerID ∧
        world.Restores (buildTracingPolicy go b.intent) (buildTracingPolicy go normalized)
          (b.runtimePolicyApplied && needsTracingPolicy go b.intent) t.installed := by
  simp only [Backend.apply,managed,if_true] at failed ⊢
  cases prepared : prepareApply go host world intent with
  | error reason => simp
  | ok resolved =>
    obtain ⟨normalized,container⟩ := resolved
    simp only [prepared] at failed ⊢
    have given : (liveApplyTracingPolicy go world b.intent normalized b.runtimePolicyApplied t).2 ≠ none := by
      split at failed
      · rename_i given
        simp [given]
      · cases failed
    have left := liveApply_restores_iff given restores
    cases ended : liveApplyTracingPolicy go world b.intent normalized b.runtimePolicyApplied t with
    | mk after outcome =>
      cases outcome with
      | none => simp [ended] at given
      | some _ =>
        rw [ended] at left
        simp [← left,and_comm]

def managedHost : Host where
  policyPath := "/etc/sysarmor/policy.yaml"
  tetraPath := "/usr/bin/tetra"
  eventSource := ""
  selfNamespaces := .ok []
  selfContainerID := .ok "c1"

def loadedBackend : Backend := { intent := { behaviors := ["file.read"] }, policyLoaded := true, runtimePolicyApplied := true }
def fileReads : Tetragon := ⟨some (buildTracingPolicy asciiStdlib loadedBackend.intent)⟩
def busy : ApplyWorld := { attempts := [{ add := .failed "busy" false }] }

def failedAdd : Backend × Tetragon × Option String :=
  loadedBackend.apply asciiStdlib managedHost busy { behaviors := ["network.connect"] } fileReads

/-- Adding the new policy fails without effect, and the old one is there again. -/
theorem failed_add_restores : failedAdd.2.1 = fileReads :=
  have failed : failedAdd.2.2 = some "apply tetragon tracing policy: deadline" := by decide +kernel
  ((failed_apply_restores_iff (by decide +kernel) failed fun _ => rfl).mpr (by
    intro normalized container prepared
    have answer : prepareApply asciiStdlib managedHost busy { behaviors := ["network.connect"] } =
        .ok ({ behaviors := ["network.connect"], scopeType := "host" },"") := rfl
    cases answer.symm.trans prepared
    exact ⟨rfl,.inr (.inr rfl)⟩)).1

def failedRender : Backend × Tetragon × Option String :=
  loadedBackend.apply asciiStdlib managedHost { writePolicy := some "no space left on device" }
    { behaviors := ["network.connect"], scopeType := "namespace", scopeSelector := "self" } fileReads

/-- The old policy is deleted before the new one is written to its file, and the container is recorded before both. -/
theorem failed_render_loses_policy : failedRender.2.2.isSome = true ∧ failedRender.2.1.installed = none ∧
      failedRender.1.namespaceSelfContainerID = "c1" ∧ loadedBackend.namespaceSelfContainerID = "" := by
  decide +kernel

end SysArmor.Agent
