import SysArmor.CollectionEvents

/-! What an intent asks of an event, and when its tracing policy and the checks of the agent amount to
that. Addresses and ports are looked at nowhere, exits have no selector, and the selectors of one
hook let through what another behaviour of the hook excludes. -/
namespace SysArmor.Agent
open GoText List

section

section
variable (go : Stdlib)

/-- The text that the binary prefixes of a behaviour are about: for a process start the file that is
started, otherwise the process itself. -/
def SensorEvent.subject (ev : SensorEvent) : String :=
  match ev.behavior with
  | .processExec => ev.path
  | _ => ev.binary

def AdmitsPrefix (prefixes : List String) (text : String) : Prop :=
  mergeFilterStrings prefixes = [] ∨ startsWithAny text (mergeFilterStrings prefixes)

def AdmitsText (values : List String) (text : String) : Prop := mergeFilterStrings values = [] ∨ text ∈ mergeFilterStrings values

structure CollectionBehaviorFilter.Admits (filter : CollectionBehaviorFilter) (k : KernelEvent) (ev : SensorEvent) : Prop where
  binary : AdmitsPrefix filter.binaryPrefixes ev.subject
  file : ev.behavior ∈ fileBehaviors → AdmitsPrefix filter.filePrefixes ev.path
  family : ev.behavior = .networkConnect → filter.socketFamilies = [] ∨ k.family ∈ filter.socketFamilies
  addr : ev.behavior = .networkConnect → AdmitsText filter.socketAddrs k.addr
  port : ev.behavior = .networkConnect → AdmitsText filter.socketPorts (formatUint k.port)

def CollectionIntent.ownNamespaces (intent : CollectionIntent) : Prop :=
  intent.scopeType = "namespace" ∧ intent.scopeSelector = "self" ∧ intent.namespaceSelectors ≠ []

def CollectionIntent.Covers (intent : CollectionIntent) (k : KernelEvent) (ev : SensorEvent) : Prop :=
  match intent.scopeType with
  | "container" => containerIDsMatch go ev.containerID intent.scopeSelector
  | "cgroup" => hasPrefix ev.cgroup intent.scopeSelector
  | "namespace" =>
    if intent.scopeSelector = "self" ∧ intent.namespaceSelectors ≠ [] then
      ∀ selector ∈ namespaceMatches intent.namespaceSelectors, k.inNamespace selector
    else hasPrefix ev.cgroup intent.scopeSelector
  | "pod" => hasPrefix ev.containerID intent.scopeSelector
  | _ => True

structure Conforms (intent : CollectionIntent) (k : KernelEvent) (ev : SensorEvent) : Prop where
  filter : (behaviorFilter go intent ev.behavior).Admits k ev
  scope : intent.Covers go k ev

def PrefixesWithin (inner outer : List String) : Prop := ∀ p ∈ inner, startsWithAny p outer

def readAlsoAs : Behavior → List Behavior
  | .fileOpen => [.fileRead,.fileWrite]
  | .fileChmod => [.fileWrite]
  | _ => []

structure SelectorWithin (intent : CollectionIntent) (source target : Behavior) : Prop where
  binary : mergeFilterStrings (behaviorFilter go intent target).binaryPrefixes = [] ∨
    (mergeFilterStrings (behaviorFilter go intent source).binaryPrefixes ≠ [] ∧
      PrefixesWithin (mergeFilterStrings (behaviorFilter go intent source).binaryPrefixes)
        (mergeFilterStrings (behaviorFilter go intent target).binaryPrefixes))
  file : mergeFilterStrings (behaviorFilter go intent target).filePrefixes = [] ∨
    PrefixesWithin (fileSelectorPrefixes go intent source) (mergeFilterStrings (behaviorFilter go intent target).filePrefixes)

structure Enforced (intent : CollectionIntent) : Prop where
  exec : intentHasBehavior go intent .processExec →
    mergeFilterStrings (behaviorFilter go intent .processExec).binaryPrefixes = [] ∨
      PrefixesWithin (mergeFilterStrings (behaviorFilter go intent .processFork).binaryPrefixes)
        (mergeFilterStrings (behaviorFilter go intent .processExec).binaryPrefixes)
  exit : intentHasBehavior go intent .processExit →
    mergeFilterStrings (behaviorFilter go intent .processExit).binaryPrefixes = [] ∧ ¬intent.ownNamespaces
  connect : intentHasBehavior go intent .networkConnect →
    mergeFilterStrings (behaviorFilter go intent .networkConnect).socketAddrs = [] ∧
      mergeFilterStrings (behaviorFilter go intent .networkConnect).socketPorts = []
  file : ∀ source target, intentHasBehavior go intent source → intentHasBehavior go intent target →
    target ∈ readAlsoAs source → SelectorWithin go intent source target

end

variable {go : Stdlib} {intent : CollectionIntent} {k : KernelEvent} {ev : SensorEvent}

lemma startsWithAny_iff : startsWithAny text prefixes ↔ ∃ p ∈ prefixes, hasPrefix text p := by
  simp [startsWithAny]

lemma PrefixesWithin.startsWith (within : PrefixesWithin own outer) (starts : startsWithAny text own) :
    startsWithAny text outer := by
  obtain ⟨p,mem,here⟩ := startsWithAny_iff.mp starts
  obtain ⟨q,listed,longer⟩ := startsWithAny_iff.mp (within p mem)
  refine startsWithAny_iff.mpr ⟨q,listed,?_⟩
  simp only [hasPrefix, isPrefixOf_iff_prefix] at here longer ⊢
  exact longer.trans here

/-! Which selector an event has passed, hook by hook. -/

lemma TracingPolicy.passes_iff {policy : TracingPolicy} : policy.passes k ↔ ∃ kprobe ∈ policy.kprobes, kprobe.call = k.hook ∧
      (kprobe.selectors = [] ∨ ∃ selector ∈ kprobe.selectors, selector.passes k) := by
  simp [TracingPolicy.passes,Kprobe.passes]

lemma KprobeSelector.passes_iff {selector : KprobeSelector} : selector.passes k ↔
    (selector.matchBinaries = [] ∨ startsWithAny k.binary selector.matchBinaries) ∧
      (∀ ns ∈ selector.matchNamespaces, k.inNamespace ns) ∧ ∀ arg ∈ selector.matchArgs, arg.passes k := by
  simp [KprobeSelector.passes,and_assoc]

def hookKprobes (go : Stdlib) (intent : CollectionIntent) : Hook → List Kprobe
  | .bprmCredsFromFile => execKprobes go intent
  | .doExit => exitKprobes go intent
  | .socketConnect => connectKprobes go intent
  | .filePermission => fileKprobes go intent

lemma call_of_mem_hookKprobes {hook : Hook} {kprobe : Kprobe} (mem : kprobe ∈ hookKprobes go intent hook) :
    kprobe.call = hook := by
  cases hook <;> simp only [hookKprobes] at mem
  · grind [execKprobes]
  · grind [exitKprobes]
  · grind [connectKprobes]
  · grind [fileKprobes]

lemma passes_hook_iff : (buildTracingPolicy go intent).passes k ↔
    ∃ kprobe ∈ hookKprobes go intent k.hook, kprobe.selectors = [] ∨ ∃ selector ∈ kprobe.selectors, selector.passes k := by
  have group (kprobe : Kprobe) : kprobe ∈ (buildTracingPolicy go intent).kprobes ↔ ∃ hook, kprobe ∈ hookKprobes go intent hook := by
    simp only [buildTracingPolicy,mem_append,or_assoc]
    constructor
    · rintro (here | here | here | here)
      exacts [⟨.bprmCredsFromFile,here⟩,⟨.doExit,here⟩,⟨.socketConnect,here⟩,⟨.filePermission,here⟩]
    · rintro ⟨_ | _ | _ | _,here⟩ <;> simp_all [hookKprobes]
  rw [TracingPolicy.passes_iff]
  constructor
  · rintro ⟨kprobe,mem,call,through⟩
    obtain ⟨hook,here⟩ := (group kprobe).mp mem
    exact ⟨kprobe,by rwa [← call,call_of_mem_hookKprobes here],through⟩
  · rintro ⟨kprobe,here,through⟩
    exact ⟨kprobe,(group kprobe).mpr ⟨_,here⟩,call_of_mem_hookKprobes here,through⟩

lemma passes_exec_iff (hook : k.hook = .bprmCredsFromFile) : (buildTracingPolicy go intent).passes k ↔
    (intentHasBehavior go intent .processExec || intentHasBehavior go intent .processFork) ∧
      (execPrefixes go intent = [] ∨ startsWithAny k.path (execPrefixes go intent)) ∧
      ∀ selector ∈ namespaceMatches intent.namespaceSelectors, k.inNamespace selector := by
  rw [passes_hook_iff]
  simp only [hook,hookKprobes,execKprobes]
  split
  · rename_i has
    simp only [mem_singleton,exists_eq_left,has,true_and]
    by_cases plain : execPrefixes go intent = [] ∧ intent.namespaceSelectors = []
    · simp [plain.1,plain.2,namespaceMatches]
    · simp only [if_neg plain,cons_ne_nil,false_or,mem_singleton,exists_eq_left,KprobeSelector.passes_iff,true_or,
        true_and]
      by_cases none : execPrefixes go intent = [] <;> simp [none,ArgMatch.passes,and_comm]
  · simp_all

lemma passes_connect_iff (hook : k.hook = .socketConnect) : (buildTracingPolicy go intent).passes k ↔
    intentHasBehavior go intent .networkConnect ∧
      AdmitsPrefix (behaviorFilter go intent .networkConnect).binaryPrefixes k.binary ∧
      (k.family ∈ if (behaviorFilter go intent .networkConnect).socketFamilies = [] then ["AF_INET","AF_INET6"]
        else (behaviorFilter go intent .networkConnect).socketFamilies) ∧
      ∀ selector ∈ namespaceMatches intent.namespaceSelectors, k.inNamespace selector := by
  rw [passes_hook_iff]
  simp only [hook,hookKprobes,connectKprobes]
  split
  · rename_i has
    simp only [mem_singleton,exists_eq_left,cons_ne_nil,false_or,KprobeSelector.passes_iff,has,true_and,
      forall_eq,ArgMatch.passes,decide_eq_true_eq,AdmitsPrefix]
    tauto
  · simp_all

lemma passes_file (passed : (buildTracingPolicy go intent).passes k) (hook : k.hook = .filePermission) :
    ∃ source ∈ fileBehaviors, intentHasBehavior go intent source ∧
      AdmitsPrefix (behaviorFilter go intent source).binaryPrefixes k.binary ∧
      startsWithAny k.path (fileSelectorPrefixes go intent source) ∧
      (∀ access, fileAccess source = some access → formatUint k.access = access) ∧
      ∀ selector ∈ namespaceMatches intent.namespaceSelectors, k.inNamespace selector := by
  obtain ⟨kprobe,group,through⟩ := passes_hook_iff.mp passed
  simp only [hook,hookKprobes,fileKprobes] at group
  split at group
  · cases group
  rename_i some
  rw [mem_singleton] at group
  subst group
  obtain ⟨selector,listed,through⟩ := through.resolve_left some
  obtain ⟨source,chosen,rfl⟩ := mem_map.mp listed
  obtain ⟨isFile,has⟩ := mem_filter.mp chosen
  obtain ⟨binaries,namespaces,args⟩ := KprobeSelector.passes_iff.mp through
  refine ⟨source,isFile,has,binaries,args _ mem_cons_self,fun access given => ?_,namespaces⟩
  have mask := args ⟨1,.equal,[access]⟩ (by simp [filePermissionSelector,given])
  simpa [ArgMatch.passes] using mask

/-! Events that pass the policy and the checks. -/

lemma mem_mergeFilterStrings_append : p ∈ mergeFilterStrings (first ++ second) ↔
    p ∈ mergeFilterStrings first ∨ p ∈ mergeFilterStrings second := by
  simp only [mergeFilterStrings,mem_uniqueTrimmed,mem_append]
  grind

lemma behaviors_of_passes (passed : (buildTracingPolicy go intent).passes k) : intent.behaviors ≠ [] := by
  intro none
  have off (behavior : Behavior) : intentHasBehavior go intent behavior = false := by simp [intentHasBehavior,none]
  obtain ⟨kprobe,group,_⟩ := passes_hook_iff.mp passed
  cases hook : k.hook <;>
    simp [hook,hookKprobes,execKprobes,exitKprobes,connectKprobes,fileKprobes,filePermissionSelectors,off,fileBehaviors] at group

lemma exec_admitted (enforced : Enforced go intent) (has : intentHasBehavior go intent .processExec)
    (through : execPrefixes go intent = [] ∨ startsWithAny k.path (execPrefixes go intent)) :
    AdmitsPrefix (behaviorFilter go intent .processExec).binaryPrefixes k.path := by
  rcases enforced.exec has with none | within
  · exact .inl none
  rcases through with none | starts
  · refine .inl (eq_nil_iff_forall_not_mem.mpr fun p mem => ?_)
    have merged : p ∈ execPrefixes go intent := mem_mergeFilterStrings_append.mpr (.inl mem)
    rw [none] at merged
    cases merged
  · obtain ⟨p,mem,here⟩ := startsWithAny_iff.mp starts
    rcases mem_mergeFilterStrings_append.mp mem with own | fork
    · exact .inr (startsWithAny_iff.mpr ⟨p,own,here⟩)
    · exact .inr (within.startsWith (startsWithAny_iff.mpr ⟨p,fork,here⟩))

lemma readAs_of_access {source : Behavior} (isFile : source ∈ fileBehaviors)
    (mask : ∀ access, fileAccess source = some access → formatUint k.access = access) :
    fileBehavior k.access = source ∨ fileBehavior k.access ∈ readAlsoAs source := by
  have number (n : Nat) (text : formatUint k.access = formatUint n) : k.access = n := formatUint_injective text
  simp only [fileBehaviors,mem_cons,not_mem_nil,or_false] at isFile
  rcases isFile with rfl | rfl | rfl | rfl
  · simp only [fileBehavior,readAlsoAs]
    split
    · simp
    · split <;> simp
  · exact .inl (by simp [fileBehavior,number 4 (mask "4" rfl)])
  · exact .inl (by simp [fileBehavior,number 2 (mask "2" rfl)])
  · exact .inr (by simp [fileBehavior,readAlsoAs,number 2 (mask "2" rfl)])

section
variable (enforced : Enforced go intent)
include enforced

lemma file_admitted (passed : (buildTracingPolicy go intent).passes k)
    (hook : k.hook = .filePermission) (has : intentHasBehavior go intent (fileBehavior k.access)) :
    AdmitsPrefix (behaviorFilter go intent (fileBehavior k.access)).binaryPrefixes k.binary ∧
      AdmitsPrefix (behaviorFilter go intent (fileBehavior k.access)).filePrefixes k.path := by
  obtain ⟨source,isFile,chosen,binaries,starts,mask,_⟩ := passes_file passed hook
  rcases readAs_of_access isFile mask with same | other
  · rw [same]
    refine ⟨binaries,?_⟩
    by_cases given : (behaviorFilter go intent source).filePrefixes = []
    · exact .inl (by rw [given]; rfl)
    · simp only [fileSelectorPrefixes,given,if_false] at starts
      exact .inr starts
  · have within := enforced.file source (fileBehavior k.access) chosen has other
    constructor
    · rcases within.binary with none | ⟨some,inside⟩
      · exact .inl none
      · exact .inr (inside.startsWith (binaries.resolve_left some))
    rcases within.file with none | inside
    · exact .inl none
    · exact .inr (inside.startsWith starts)

lemma namespaces_of_passes (passed : (buildTracingPolicy go intent).passes k)
    (read : kprobeEventToSensor k = some ev) (has : intentHasBehavior go intent ev.behavior) (own : intent.ownNamespaces) :
    ∀ selector ∈ namespaceMatches intent.namespaceSelectors, k.inNamespace selector := by
  cases hook : k.hook with
  | bprmCredsFromFile => exact ((passes_exec_iff hook).mp passed).2.2
  | doExit =>
    simp only [kprobeEventToSensor,hook,Option.some.injEq] at read
    rw [← read] at has
    exact absurd own (enforced.exit has).2
  | socketConnect => exact ((passes_connect_iff hook).mp passed).2.2.2
  | filePermission =>
    obtain ⟨_,_,_,_,_,_,namespaces⟩ := passes_file passed hook
    exact namespaces

lemma admits_of_passes (passed : (buildTracingPolicy go intent).passes k)
    (read : kprobeEventToSensor k = some ev) (has : intentHasBehavior go intent ev.behavior) :
    (behaviorFilter go intent ev.behavior).Admits k ev := by
  cases hook : k.hook with
  | bprmCredsFromFile =>
    simp only [kprobeEventToSensor,hook,Option.some.injEq] at read
    subst read
    exact ⟨exec_admitted enforced has ((passes_exec_iff hook).mp passed).2.1,nofun,nofun,nofun,nofun⟩
  | doExit =>
    simp only [kprobeEventToSensor,hook,Option.some.injEq] at read
    subst read
    exact ⟨.inl (enforced.exit has).1,nofun,nofun,nofun,nofun⟩
  | socketConnect =>
    simp only [kprobeEventToSensor,hook] at read
    split at read
    · cases read
      obtain ⟨-,binaries,families,_⟩ := (passes_connect_iff hook).mp passed
      obtain ⟨addrs,ports⟩ := enforced.connect has
      have either : (behaviorFilter go intent .networkConnect).socketFamilies = [] ∨
          k.family ∈ (behaviorFilter go intent .networkConnect).socketFamilies := by
        split at families
        · exact .inl ‹_›
        · exact .inr families
      exact ⟨binaries,nofun,fun _ => either,fun _ => .inl addrs,fun _ => .inl ports⟩
    · cases read
  | filePermission =>
    simp only [kprobeEventToSensor,hook] at read
    split at read
    · cases read
      obtain ⟨binaries,files⟩ := file_admitted enforced passed hook has
      have notStart : fileBehavior k.access ≠ .processExec := by grind [fileBehavior]
      have notConnect : fileBehavior k.access ≠ .networkConnect := by grind [fileBehavior]
      refine ⟨?_,fun _ => files,fun connect => absurd connect notConnect,fun connect => absurd connect notConnect,
        fun connect => absurd connect notConnect⟩
      simpa [SensorEvent.subject,sensorEvent,notStart] using binaries
    · cases read

end

lemma covers_of_matchesScope {b : Backend} (scopeType : trimSpace b.scopeType = b.intent.scopeType)
    (scopeSelector : trimSpace b.scopeSelector = b.intent.scopeSelector) (checked : b.matchesScope go ev)
    (namespaces : b.intent.ownNamespaces → ∀ selector ∈ namespaceMatches b.intent.namespaceSelectors, k.inNamespace selector) :
    b.intent.Covers go k ev := by
  simp only [Backend.matchesScope,scopeType,scopeSelector] at checked
  simp only [CollectionIntent.Covers]
  split
  · rename_i type
    simpa [type] using checked
  · rename_i type
    simpa [type] using checked
  · rename_i type
    split
    · rename_i own
      exact namespaces ⟨type,own⟩
    · rename_i other
      simpa [type,other] using checked
  · rename_i type
    simpa [type] using checked
  · trivial

lemma conforms_of_passes {b : Backend} (enforced : Enforced go b.intent) (passed : (buildTracingPolicy go b.intent).passes k)
    (read : kprobeEventToSensor k = some ev) (behavior : b.matchesIntentBehavior go ev.behavior) (scope : b.matchesScope go ev)
    (scopeType : trimSpace b.scopeType = b.intent.scopeType) (scopeSelector : trimSpace b.scopeSelector = b.intent.scopeSelector) :
    Conforms go b.intent k ev := by
  have has : intentHasBehavior go b.intent ev.behavior := by
    simpa [Backend.matchesIntentBehavior,behaviors_of_passes passed] using behavior
  exact ⟨admits_of_passes enforced passed read has,
    covers_of_matchesScope scopeType scopeSelector scope (namespaces_of_passes enforced passed read has)⟩
end

/-!
The selectors of a tracing policy against the behaviours and filters they stand for: what the agent reads of an
event that passes the selector of a behaviour, and whether an event that a filter asks for passes the policy.
-/

section
variable (go : Stdlib) (intent : CollectionIntent)

def generatedKprobes : Behavior → List Kprobe
  | .processExec | .processFork => execKprobes go intent
  | .processExit => exitKprobes go intent
  | .networkConnect => connectKprobes go intent
  | behavior => [{ call := .filePermission, selectors := [filePermissionSelector go intent behavior] }]

def filtersOf (behavior : Behavior) : List CollectionBehaviorFilter :=
  match intent.behaviorFilters.filter (normalizeBehavior go ·.behavior = behavior.name) with
  | [] => [flatFilter behavior.name intent.binaryPrefixes intent.filePrefixes intent.socketFamilies intent.socketAddrs
      intent.socketPorts]
  | own => own

def hookOf : Behavior → Hook
  | .processExec | .processFork => .bprmCredsFromFile
  | .processExit => .doExit
  | .networkConnect => .socketConnect
  | _ => .filePermission

def CollectionBehaviorFilter.Asks (filter : CollectionBehaviorFilter) (behavior : Behavior) (k : KernelEvent) : Prop :=
  match behavior with
  | .processExec | .processFork => AdmitsPrefix filter.binaryPrefixes k.path
  | .networkConnect => AdmitsPrefix filter.binaryPrefixes k.binary ∧
    (filter.socketFamilies = [] ∨ k.family ∈ filter.socketFamilies) ∧ AdmitsText filter.socketAddrs k.addr ∧
      AdmitsText filter.socketPorts (formatUint k.port)
  | _ => AdmitsPrefix filter.binaryPrefixes k.binary

structure Requested (behavior : Behavior) (k : KernelEvent) : Prop where
  hook : k.hook = hookOf behavior
  requested : intentHasBehavior go intent behavior
  namespaces : ∀ selector ∈ namespaceMatches intent.namespaceSelectors, k.inNamespace selector

structure Wanted (behavior : Behavior) (k : KernelEvent) : Prop extends Requested go intent behavior k where
  filter : ∃ filter ∈ filtersOf go intent behavior, filter.Asks behavior k

end

variable {go : Stdlib} {intent : CollectionIntent} {k : KernelEvent}

/-- An event of a requested behaviour passes the policy, whatever its filters ask for: a process start iff the first
filters of exec and of fork leave it out of no prefix list that either gives, a connection iff the first filter of
connections takes it. -/
theorem wanted_passes_iff (kind : behavior ∈ [.processExec,.processFork,.processExit,.networkConnect])
    (wanted : Requested go intent behavior k) : (buildTracingPolicy go intent).passes k ↔ match behavior with
      | .processExec | .processFork =>
        AdmitsPrefix ((behaviorFilter go intent .processExec).binaryPrefixes ++
          (behaviorFilter go intent .processFork).binaryPrefixes) k.path
      | .networkConnect =>
        AdmitsPrefix (behaviorFilter go intent .networkConnect).binaryPrefixes k.binary ∧
          k.family ∈ if (behaviorFilter go intent .networkConnect).socketFamilies = [] then ["AF_INET","AF_INET6"]
            else (behaviorFilter go intent .networkConnect).socketFamilies
      | _ => True := by
  obtain ⟨hook,requested,namespaces⟩ := wanted
  simp only [mem_cons,not_mem_nil,or_false] at kind
  rcases kind with rfl | rfl | rfl | rfl
  · rw [passes_exec_iff hook,and_iff_right (by simp [requested]),and_iff_left namespaces]
    rfl
  · rw [passes_exec_iff hook,and_iff_right (by simp [requested]),and_iff_left namespaces]
    rfl
  · rw [passes_hook_iff,hook]
    simp [hookOf,hookKprobes,exitKprobes,requested]
  · rw [passes_connect_iff hook,and_iff_right requested,← and_assoc,and_iff_left namespaces]

/-- Exec is requested under `/tmp` and fork without a filter. -/
def startIntent : CollectionIntent where
  behaviors := ["process.exec","process.fork"]
  behaviorFilters := [{ behavior := "process.exec", binaryPrefixes := ["/tmp"] }]

def connectIntent : CollectionIntent where
  behaviors := ["network.connect"]
  behaviorFilters := [{ behavior := "network.connect", binaryPrefixes := ["/usr/bin/curl"] },
    { behavior := "network.connect", binaryPrefixes := ["/usr/bin/wget"] }]

theorem exec_wanted_passes :
    (buildTracingPolicy asciiStdlib startIntent).passes { hook := .bprmCredsFromFile, path := "/tmp/x" } ∧
      (buildTracingPolicy asciiStdlib connectIntent).passes { hook := .socketConnect, binary := "/usr/bin/curl", family := "AF_INET" } :=
  have start : Requested asciiStdlib startIntent .processExec { hook := .bprmCredsFromFile, path := "/tmp/x" } :=
    ⟨rfl,by decide,by decide⟩
  have connect : Requested asciiStdlib connectIntent .networkConnect
      { hook := .socketConnect, binary := "/usr/bin/curl", family := "AF_INET" } := ⟨rfl,by decide,by decide⟩
  ⟨(wanted_passes_iff (by simp) start).mpr (.inr (by decide +kernel)),
    (wanted_passes_iff (by simp) connect).mpr ⟨.inr (by decide +kernel),by decide +kernel⟩⟩

theorem wanted_not_passed : Wanted asciiStdlib startIntent .processFork { hook := .bprmCredsFromFile, path := "/usr/bin/id" } ∧
      (buildTracingPolicy asciiStdlib startIntent).passes { hook := .bprmCredsFromFile, path := "/usr/bin/id" } = false ∧
      Wanted asciiStdlib connectIntent .networkConnect { hook := .socketConnect, binary := "/usr/bin/wget", family := "AF_INET" } ∧
      (buildTracingPolicy asciiStdlib connectIntent).passes
        { hook := .socketConnect, binary := "/usr/bin/wget", family := "AF_INET" } = false := by
  refine ⟨⟨⟨rfl,by decide,by decide⟩,_,.head _,.inl rfl⟩,by decide +kernel,⟨⟨rfl,by decide,by decide⟩,?_⟩,by decide +kernel⟩
  exact ⟨_,.tail _ (.head _),.inr (by decide +kernel),.inl rfl,.inl rfl,.inl rfl⟩

lemma hook_of_generated (passed : (generatedKprobes go intent behavior).any (·.passes k)) : k.hook = hookOf behavior := by
  obtain ⟨kprobe,mem,passed⟩ := any_eq_true.mp passed
  have call : kprobe.call = k.hook := by simp_all [Kprobe.passes]
  rw [← call]
  cases behavior with
  | processExec | processFork | processExit | networkConnect => exact call_of_mem_hookKprobes mem
  | fileOpen | fileRead | fileWrite | fileChmod =>
    cases mem_singleton.mp mem
    rfl

lemma file_selected (passed : (generatedKprobes go intent behavior).any (·.passes k))
    (file : hookOf behavior = .filePermission) :
    k.path ≠ "" ∧ ∀ access, fileAccess behavior = some (formatUint access) → k.access = access := by
  have selected : (filePermissionSelector go intent behavior).passes k := by
    cases behavior <;> simp_all [hookOf,generatedKprobes,Kprobe.passes]
  obtain ⟨-,-,args⟩ := KprobeSelector.passes_iff.mp selected
  constructor
  · rintro blank
    have starts : startsWithAny k.path (fileSelectorPrefixes go intent behavior) := args _ mem_cons_self
    obtain ⟨p,mem,here⟩ := startsWithAny_iff.mp starts
    have filled := (mem_uniqueTrimmed.mp mem).2
    simp [hasPrefix,blank,filled] at here
  · intro access mask
    have same := args ⟨1,.equal,[formatUint access]⟩ (by simp [filePermissionSelector,mask])
    exact formatUint_injective (by simpa [ArgMatch.passes] using same)

/-- An event that passes what is written for a behaviour is read as that behaviour iff its hook and its access mask are
not read as another one. -/
theorem parsed_as_iff {behavior : Behavior} (passed : (generatedKprobes go intent behavior).any (·.passes k)) :
    (∃ read, kprobeEventToSensor k = some read ∧ read.behavior = behavior) ↔ match behavior with
      | .processFork | .fileChmod => False
      | .networkConnect => k.addr ≠ "" ∧ k.port ≠ 0
      | .fileOpen => k.access ≠ 2 ∧ k.access ≠ 4
      | _ => True := by
  have hook := hook_of_generated passed
  cases behavior with
  | processExec | processFork | processExit => simp [kprobeEventToSensor,hook,hookOf,sensorEvent]
  | networkConnect =>
    simp only [kprobeEventToSensor,hook,hookOf]
    split <;> simp_all [sensorEvent]
  | fileOpen =>
    simp only [kprobeEventToSensor,hook,hookOf,if_pos (file_selected passed rfl).1,sensorEvent,fileBehavior]
    grind
  | fileRead =>
    obtain ⟨path,mask⟩ := file_selected passed rfl
    simp [kprobeEventToSensor,hook,hookOf,path,sensorEvent,fileBehavior,mask 4 rfl]
  | fileWrite | fileChmod =>
    obtain ⟨path,mask⟩ := file_selected passed rfl
    simp [kprobeEventToSensor,hook,hookOf,path,sensorEvent,fileBehavior,mask 2 rfl]

theorem connect_parsed : ∃ read, kprobeEventToSensor { hook := .socketConnect, family := "AF_INET", addr := "::1", port := 80 } =
    some read ∧ read.behavior = .networkConnect :=
  have passed : (generatedKprobes asciiStdlib { behaviors := ["network.connect"] } .networkConnect).any
      (·.passes { hook := .socketConnect, family := "AF_INET", addr := "::1", port := 80 }) = true := by decide +kernel
  (parsed_as_iff passed).mpr ⟨by decide,by decide⟩

/-- A selector for opening passes reads, and one for changing the mode passes writes: both are dropped later. -/
theorem parsed_as_another : (generatedKprobes asciiStdlib { behaviors := ["file.open"] } .fileOpen).any
        (·.passes { hook := .filePermission, path := "/etc/passwd", access := 4 }) = true ∧
      (kprobeEventToSensor { hook := .filePermission, path := "/etc/passwd", access := 4 }).map (·.behavior) = some .fileRead ∧
      Backend.matchesIntentBehavior asciiStdlib { intent := { behaviors := ["file.open"] } } .fileRead = false ∧
      (generatedKprobes asciiStdlib { behaviors := ["file.chmod"] } .fileChmod).any
        (·.passes { hook := .filePermission, path := "/tmp/x", access := 2 }) = true ∧
      (kprobeEventToSensor { hook := .filePermission, path := "/tmp/x", access := 2 }).map (·.behavior) = some .fileWrite ∧
      Backend.matchesIntentBehavior asciiStdlib { intent := { behaviors := ["file.chmod"] } } .fileWrite = false := by
  decide +kernel

end SysArmor.Agent
