import SysArmor.GoText
import Mathlib.Data.List.Dedup
import Mathlib.Data.List.Infix
import SysArmor.Proto
import Mathlib.Data.List.AList

/-! The string matchers behind a condition: a list of patterns is tried one by one, or sorted
into buckets by a byte that a matching value must have. -/
namespace SysArmor.Detection
open GoText

section
open ByteWords

inductive Strategy where
  | linear
  | optimized
  deriving DecidableEq

abbrev Buckets := UInt8 → List String

inductive Matcher where
  | empty
  | exact (values : List String)
  | prefixes (patterns : List String)
  | suffixes (patterns : List String)
  | contains (patterns : List String)
  | bucketPrefix (index : Nat) (buckets : Buckets)
  | bucketSuffix (index : Nat) (buckets : Buckets)
  | bucketContains (buckets : Buckets)

def normalize (values : List String) : List String :=
  values.foldl (fun out value => if value = "" || out.contains value then out else out ++ [value]) []

def byteLength (s : String) : Nat := (utf8 s).length

def keyAt (reverse : Bool) (index : Nat) (value : String) : Option UInt8 :=
  if byteLength value ≤ index then none
  else byteAt value (if reverse then byteLength value - 1 - index else index)

def sortByLengthDesc (values : List String) : List String :=
  values.insertionSort fun a b => byteLength b ≤ byteLength a

def shortestLength : List String → Nat
  | [] => 0
  | value :: rest => rest.foldl (fun shortest value => min (byteLength value) shortest) (byteLength value)

def bestSharedIndex (values : List String) (reverse : Bool) : Nat :=
  let distinct (index : Nat) := (values.filterMap (keyAt reverse index)).dedup.length
  let places := List.range (min (shortestLength values) 32)
  (places.foldl (fun best index => if best.2 < distinct index then (index,distinct index) else best) (0,0)).1

/-- The patterns under the byte that `key` gives them; a pattern without one is left out. -/
def bucketsBy (key : String → Option UInt8) (patterns : List String) : Buckets :=
  fun byte => sortByLengthDesc (patterns.filter (key · = some byte))

def byteFrequencies (values : List String) (byte : UInt8) : Nat :=
  values.countP fun value => (utf8 value).contains byte

/-- The scan of `rarestGlobalByte`, which stops at a byte of frequency one. -/
def rarestFrom (frequencies : UInt8 → Nat) (best : UInt8) : Bytes → UInt8
  | [] => best
  | byte :: rest =>
    if frequencies byte < frequencies best then
      if frequencies byte = 1 then byte else rarestFrom frequencies byte rest
    else rarestFrom frequencies best rest

def rarestGlobalByte (value : String) (frequencies : UInt8 → Nat) : Option UInt8 :=
  match utf8 value with
  | [] => none
  | byte :: rest => some (rarestFrom frequencies byte rest)

def newBucketPrefixMatcher (patterns : List String) : Matcher :=
  let index := bestSharedIndex patterns false
  .bucketPrefix index (bucketsBy (keyAt false index) patterns)

def newBucketSuffixMatcher (patterns : List String) : Matcher :=
  let index := bestSharedIndex patterns true
  .bucketSuffix index (bucketsBy (keyAt true index) patterns)

def newBucketContainsMatcher (patterns : List String) : Matcher :=
  .bucketContains (bucketsBy (rarestGlobalByte · (byteFrequencies patterns)) patterns)

/-- The constructors `NewExact`, `NewPrefix`, `NewSuffix` and `NewContains` after `normalize`. -/
def newMatcher (build : List String → Matcher) (values : List String) : Matcher :=
  if normalize values = [] then .empty else build (normalize values)

def newExact (values : List String) : Matcher := newMatcher .exact values

def newPrefix (strategy : Strategy) (values : List String) : Matcher :=
  newMatcher (match strategy with | .linear => .prefixes | .optimized => newBucketPrefixMatcher) values

def newSuffix (strategy : Strategy) (values : List String) : Matcher :=
  newMatcher (match strategy with | .linear => .suffixes | .optimized => newBucketSuffixMatcher) values

def newContains (strategy : Strategy) (values : List String) : Matcher :=
  newMatcher (match strategy with | .linear => .contains | .optimized => newBucketContainsMatcher) values

def fitting (value : String) (bucket : List String) : List String :=
  bucket.filter (byteLength · ≤ byteLength value)

def bucketMatch (key : Option UInt8) (buckets : Buckets) (value : String) (test : String → Bool) : Bool :=
  key.elim false fun byte => (fitting value (buckets byte)).any test

def Matcher.matches : Matcher → String → Bool
  | .empty, _ => false
  | .exact values, value => values.contains value
  | .prefixes patterns, value => patterns.any (hasPrefix value)
  | .suffixes patterns, value => patterns.any (hasSuffix value)
  | .contains patterns, value => patterns.any (GoText.contains value)
  | .bucketPrefix index buckets, value =>
    bucketMatch (keyAt false index value) buckets value (hasPrefix value)
  | .bucketSuffix index buckets, value =>
    bucketMatch (keyAt true index value) buckets value (hasSuffix value)
  | .bucketContains buckets, value =>
    (utf8 value).dedup.any fun byte => (fitting value (buckets byte)).any (GoText.contains value)

/-! The bucketed matchers find what the linear ones find. A pattern stands in the bucket of a byte that
every value it matches has at the probed place, or somewhere. -/
open List
variable {value p : String} {patterns : List String}

lemma hasPrefix_iff : hasPrefix value p ↔ p.toList <+: value.toList := isPrefixOf_iff_prefix
lemma hasSuffix_iff : hasSuffix value p ↔ p.toList <:+ value.toList := isSuffixOf_iff_suffix

lemma contains_iff : GoText.contains value p ↔ p.toList <:+: value.toList := by
  simp only [GoText.contains,any_eq_true,mem_tails, isPrefixOf_iff_prefix,infix_iff_prefix_suffix]
  exact exists_congr fun part => and_comm

lemma normalize_named (mem : p ∈ normalize values) : p ≠ "" := by
  have fold (values out : List String) (named : ∀ p ∈ out, p ≠ "") : ∀ p ∈ values.foldl
      (fun out value => if value = "" || out.contains value then out else out ++ [value]) out, p ≠ "" := by
    induction values generalizing out with
    | nil => exact named
    | cons value rest ih =>
      refine ih _ ?_
      dsimp only
      split
      · exact named
      · grind
  exact fold values [] (by simp) p mem

lemma byteLength_pos (named : p ≠ "") : 0 < byteLength p := by
  cases letters : p.toList with
  | nil => exact absurd (String.toList_eq_nil_iff.mp letters) named
  | cons letter rest =>
    have first := letter.utf8Size_pos
    simp [byteLength,utf8,letters]
    omega

lemma shortestLength_le (mem : p ∈ patterns) : shortestLength patterns ≤ byteLength p := by
  have fold (rest : List String) (first : Nat) :
      (∀ q ∈ rest, rest.foldl (fun shortest value => min (byteLength value) shortest) first ≤ byteLength q) ∧
        rest.foldl (fun shortest value => min (byteLength value) shortest) first ≤ first := by
    induction rest generalizing first with
    | nil => simp
    | cons head rest ih =>
      obtain ⟨later,start⟩ := ih (min (byteLength head) first)
      rw [le_inf_iff] at start
      exact ⟨by simpa using ⟨start.1,later⟩,start.2⟩
  cases patterns with
  | nil => cases mem
  | cons head rest =>
    rcases mem_cons.mp mem with rfl | later
    · exact (fold rest _).2
    · exact (fold rest _).1 p later

lemma bestSharedIndex_lt (named : ∀ p ∈ patterns, p ≠ "") (reverse : Bool) (mem : p ∈ patterns) :
    bestSharedIndex patterns reverse < byteLength p := by
  have fold (distinct : Nat → Nat) (places : List Nat) (best : Nat × Nat) :
      (places.foldl (fun best index => if best.2 < distinct index then (index,distinct index) else best) best).1 = best.1 ∨
      (places.foldl (fun best index => if best.2 < distinct index then (index,distinct index) else best) best).1 ∈ places := by
    induction places generalizing best with
    | nil => exact .inl rfl
    | cons place places ih =>
      rw [foldl_cons]
      split <;> grind
  simp only [bestSharedIndex]
  rcases fold _ (List.range (min (shortestLength patterns) 32)) (0,0) with first | found
  · rw [first]
    exact byteLength_pos (named p mem)
  have short := shortestLength_le mem
  rw [mem_range] at found
  omega

lemma keyAt_within {last : Bool} (shape : utf8 value = front ++ (utf8 p ++ back)) (edge : if last then back = [] else front = [])
    (inside : index < byteLength p) :
    byteLength p ≤ byteLength value ∧ ∃ byte, keyAt last index value = some byte ∧ keyAt last index p = some byte := by
  have length : byteLength value = front.length + (byteLength p + back.length) := by
    simp only [byteLength,shape,length_append]
  have out : ¬byteLength value ≤ index := by omega
  refine ⟨by omega,?_⟩
  simp only [keyAt,if_neg out,if_neg (Nat.not_le.mpr inside),byteAt,shape]
  cases last with
  | false =>
    cases (edge : front = [])
    have here : (utf8 p)[index]? = some _ := getElem?_eq_getElem inside
    exact ⟨_,(getElem?_append_left inside).trans here,here⟩
  | true =>
    cases (edge : back = [])
    have place : byteLength p - 1 - index < (utf8 p).length := by
      simp only [byteLength] at inside ⊢
      omega
    have same : byteLength value - 1 - index - front.length = byteLength p - 1 - index := by
      simp only [length_nil] at length
      omega
    refine ⟨_,?_,getElem?_eq_getElem place⟩
    rw [if_pos rfl,append_nil,getElem?_append_right (by simp only [length_nil] at length; omega),same]
    exact getElem?_eq_getElem place

lemma rarestFrom_mem (frequencies : UInt8 → Nat) (best : UInt8) (rest : Bytes) :
    rarestFrom frequencies best rest ∈ best :: rest := by
  induction rest generalizing best with
  | nil => simp [rarestFrom]
  | cons byte rest ih =>
    have taken := ih byte
    have kept := ih best
    simp only [rarestFrom]
    split <;> grind

lemma rarestGlobalByte_mem (named : p ≠ "") (inner : p.toList <:+: value.toList) (frequencies : UInt8 → Nat) :
    byteLength p ≤ byteLength value ∧ ∃ byte, byte ∈ (utf8 value).dedup ∧ rarestGlobalByte p frequencies = some byte := by
  obtain ⟨old,after,shape⟩ := inner
  have bytes : utf8 value = old.flatMap String.utf8EncodeChar ++ utf8 p ++ after.flatMap String.utf8EncodeChar := by
    simp only [utf8,← shape,flatMap_append]
  have length : byteLength p ≤ byteLength value := by
    simp only [byteLength,bytes,length_append]
    omega
  have filled := byteLength_pos named
  cases letters : utf8 p with
  | nil => simp [byteLength,letters] at filled
  | cons first rest =>
    have mem := rarestFrom_mem frequencies first rest
    refine ⟨length,_,?_,by rw [rarestGlobalByte,letters]⟩
    rw [mem_dedup,bytes,letters]
    exact mem_append_left _ (mem_append_right _ mem)

lemma fitting_any {test : String → Bool} {key : String → Option UInt8} {probes : UInt8 → Prop}
    (probed : ∀ p ∈ patterns, test p → byteLength p ≤ byteLength value ∧ ∃ byte, probes byte ∧ key p = some byte) :
    (∃ byte, probes byte ∧ (fitting value (bucketsBy key patterns byte)).any test) ↔ ∃ p ∈ patterns, test p := by
  simp only [fitting,bucketsBy,sortByLengthDesc,any_eq_true,mem_filter,mem_insertionSort,decide_eq_true_eq]
  constructor
  · rintro ⟨byte,-,p,⟨⟨mem,-⟩,-⟩,passes⟩
    exact ⟨p,mem,passes⟩
  rintro ⟨p,mem,passes⟩
  obtain ⟨short,byte,probe,here⟩ := probed p mem passes
  exact ⟨byte,probe,p,⟨⟨mem,here⟩,short⟩,passes⟩

lemma bucketMatch_iff (probe : Option UInt8) (buckets : Buckets) (test : String → Bool) :
    bucketMatch probe buckets value test ↔ ∃ byte, probe = some byte ∧ (fitting value (buckets byte)).any test := by
  cases probe <;> simp [bucketMatch]

section
variable (named : ∀ p ∈ patterns, p ≠ "")
include named

lemma bucketPrefix_iff : (newBucketPrefixMatcher patterns).matches value ↔ ∃ p ∈ patterns, hasPrefix value p := by
  rw [newBucketPrefixMatcher,Matcher.matches,bucketMatch_iff]
  apply fitting_any
  intro p mem passes
  obtain ⟨rest,shape⟩ := hasPrefix_iff.mp passes
  have bytes : utf8 value = [] ++ (utf8 p ++ rest.flatMap String.utf8EncodeChar) := by
    simp only [utf8,← shape,flatMap_append,nil_append]
  exact keyAt_within bytes rfl (bestSharedIndex_lt named false mem)

lemma bucketSuffix_iff : (newBucketSuffixMatcher patterns).matches value ↔ ∃ p ∈ patterns, hasSuffix value p := by
  rw [newBucketSuffixMatcher,Matcher.matches,bucketMatch_iff]
  apply fitting_any
  intro p mem passes
  obtain ⟨rest,shape⟩ := hasSuffix_iff.mp passes
  have bytes : utf8 value = rest.flatMap String.utf8EncodeChar ++ (utf8 p ++ []) := by
    simp only [utf8,← shape,flatMap_append,append_nil]
  exact keyAt_within bytes rfl (bestSharedIndex_lt named true mem)

lemma bucketContains_iff : (newBucketContainsMatcher patterns).matches value ↔ ∃ p ∈ patterns, GoText.contains value p := by
  rw [newBucketContainsMatcher,Matcher.matches,any_eq_true]
  apply fitting_any
  intro p mem passes
  exact rarestGlobalByte_mem (named p mem) (contains_iff.mp passes) _

end

/-- Bucketed and linear matching of prefixes, suffixes and substrings are the same, and find exactly the
values of which some pattern is one. -/
theorem optimized_matchers_agree (patterns : List String) (value : String) :
    ((newPrefix .optimized patterns).matches value ↔ ∃ p ∈ normalize patterns, p.toList <+: value.toList) ∧
    ((newSuffix .optimized patterns).matches value ↔ ∃ p ∈ normalize patterns, p.toList <:+ value.toList) ∧
    ((newContains .optimized patterns).matches value ↔ ∃ p ∈ normalize patterns, p.toList <:+: value.toList) ∧
    (newPrefix .optimized patterns).matches value = (newPrefix .linear patterns).matches value ∧
    (newSuffix .optimized patterns).matches value = (newSuffix .linear patterns).matches value ∧
    (newContains .optimized patterns).matches value = (newContains .linear patterns).matches value := by
  have named : ∀ p ∈ normalize patterns, p ≠ "" := fun p => normalize_named
  simp only [newPrefix,newSuffix,newContains,newMatcher]
  split
  · rename_i none
    simp [none,Matcher.matches]
  have starts := @bucketPrefix_iff value _ named
  have ends := @bucketSuffix_iff value _ named
  have inner := @bucketContains_iff value _ named
  simp only [← hasPrefix_iff,← hasSuffix_iff,← contains_iff]
  refine ⟨starts,ends,inner,Bool.eq_iff_iff.mpr (starts.trans ?_),Bool.eq_iff_iff.mpr (ends.trans ?_),
    Bool.eq_iff_iff.mpr (inner.trans ?_)⟩ <;> simp [Matcher.matches]
end

/-! What a detection rule can read of an event: the fields by name, the view that is built
once for every event, and the entities an event mentions. -/
open Proto

section
open ByteWords

inductive FieldID where
  | unknown | eventID | behavior | lineageID | processStableID | processBinary | processBinaryName
  | processArgv | processSudoCommand | processUID | processPID | parentStableID | filePath
  | socketAddr | socketPort | socket | scopeType | scopeSelector | containerID | cgroup
  deriving DecidableEq

def FieldID.all : List FieldID :=
  [.unknown,.eventID,.behavior,.lineageID,.processStableID,.processBinary,.processBinaryName,
    .processArgv,.processSudoCommand,.processUID,.processPID,.parentStableID,.filePath,
    .socketAddr,.socketPort,.socket,.scopeType,.scopeSelector,.containerID,.cgroup]

def compileField (field : String) : FieldID :=
  match trimSpace field with
  | "event.id" | "id" => .eventID
  | "event.behavior" | "behavior" => .behavior
  | "lineage_id" | "lineage.id" => .lineageID
  | "process.stable_id" | "process.id" => .processStableID
  | "process.binary" | "binary" => .processBinary
  | "process.binary_name" | "binary_name" => .processBinaryName
  | "process.argv" | "argv" => .processArgv
  | "process.sudo_command" => .processSudoCommand
  | "process.uid" | "uid" => .processUID
  | "process.pid" | "pid" => .processPID
  | "parent.stable_id" | "parent.id" => .parentStableID
  | "file.path" | "object.file_path" => .filePath
  | "socket.addr" | "object.socket_addr" => .socketAddr
  | "socket.port" => .socketPort
  | "socket" => .socket
  | "scope.type" => .scopeType
  | "scope.selector" => .scopeSelector
  | "container.id" | "container_id" => .containerID
  | "cgroup" => .cgroup
  | _ => .unknown

def fieldName : FieldID → String
  | .unknown => ""
  | .eventID => "event.id"
  | .behavior => "event.behavior"
  | .lineageID => "lineage_id"
  | .processStableID => "process.stable_id"
  | .processBinary => "process.binary"
  | .processBinaryName => "process.binary_name"
  | .processArgv => "process.argv"
  | .processSudoCommand => "process.sudo_command"
  | .processUID => "process.uid"
  | .processPID => "process.pid"
  | .parentStableID => "parent.stable_id"
  | .filePath => "file.path"
  | .socketAddr => "socket.addr"
  | .socketPort => "socket.port"
  | .socket => "socket"
  | .scopeType => "scope.type"
  | .scopeSelector => "scope.selector"
  | .containerID => "container.id"
  | .cgroup => "cgroup"

def compileFields (fields : List String) : List FieldID :=
  if fields = [] then [.lineageID] else fields.map compileField

def sudoOptionNeedsValue (arg : String) : Bool :=
  ["-C","-D","-g","-h","-p","-R","-r","-T","-t","-u","--chdir","--chroot","--close-from",
    "--command-timeout","--group","--host","--prompt","--role","--type","--user"].contains arg

def sudoFlagWithoutValue (arg : String) : Bool :=
  ["-A","-b","-E","-H","-k","-n","-P","-S","--askpass","--background","--non-interactive",
    "--preserve-env","--preserve-groups","--reset-timestamp","--set-home","--stdin"].contains arg

def sudoOptionHasInlineValue (arg : String) : Bool :=
  let attached := 2 < (utf8 arg).length &&
    "CDghprTtu".toList.any fun letter => byteAt arg 1 = some letter.toNat.toUInt8
  match cut arg '=' with
  | some (name,_) =>
    if hasPrefix name "--" then sudoOptionNeedsValue name || name = "--preserve-env" else attached
  | none => attached

/-- The loop of `sudoCommand` over the arguments after the program name. -/
def sudoArguments : List String → String
  | [] => ""
  | arg :: rest =>
    if arg = "--" then
      match rest with
      | next :: _ => base next
      | [] => ""
    else if !hasPrefix arg "-" || arg = "-" then base arg
    else if sudoOptionHasInlineValue arg || sudoFlagWithoutValue arg then sudoArguments rest
    else if sudoOptionNeedsValue arg then
      match rest with
      | _ :: rest => sudoArguments rest
      | [] => ""
    else ""

def sudoCommand : List String → String
  | program :: arg :: rest =>
    if base program ≠ "sudo" then ""
    else if (arg :: rest).any (containsAny · "\"'") then ""
    else sudoArguments (arg :: rest)
  | _ => ""

def eventBehavior (go : Stdlib) (ev : CanonicalEvent) : String :=
  if trimSpace ev.behavior ≠ "" then toLower go (trimSpace ev.behavior) else ""

def normalizeBehavior (go : Stdlib) (name : String) : String := trimSpace (toLower go name)

structure EventView where
  ev : CanonicalEvent
  (eventID behavior lineageID processStableID processBinary processBinaryName processArgv : String := "")
  (processSudoCommand processUID processPID parentStableID filePath socketAddr socketPort : String := "")
  (socket scopeType scopeSelector containerID cgroup : String := "")
  (occurredAtNs monoNs : UInt64 := 0)

def EventView.withProcess (view : EventView) (proc : ProcessRef) : EventView :=
  { view with
    processStableID := proc.stableId
    processBinary := proc.binary
    processBinaryName := base proc.binary
    processArgv := join proc.argv " "
    processSudoCommand :=
      if base proc.binary = "sudo" && proc.argvBoundariesTrusted then sudoCommand proc.argv else ""
    processUID := formatUint proc.uid.toNat
    processPID := if proc.pid ≠ 0 then formatUint proc.pid.toNat else "" }

def EventView.withObject (view : EventView) (obj : ObjectRef) : EventView :=
  let (addr,port) := (cut obj.socketAddr ':').getD (obj.socketAddr,"")
  { view with filePath := obj.filePath, socket := obj.socketAddr, socketAddr := addr, socketPort := port }

def EventView.withScope (view : EventView) (scope : RuntimeScope) : EventView :=
  { view with scopeType := scope.type, scopeSelector := scope.selector }

def newEventView (go : Stdlib) (ev : CanonicalEvent) : EventView :=
  let view : EventView :=
    { ev, eventID := ev.id, behavior := eventBehavior go ev, lineageID := ev.lineageId,
      parentStableID := ev.parentStableId, containerID := ev.containerId, cgroup := ev.cgroup,
      occurredAtNs := ev.occurredAtNs, monoNs := ev.monoNs }
  let view := ev.subjectProc.elim view view.withProcess
  let view := ev.object.elim view view.withObject
  ev.scope.elim view view.withScope

def EventView.field (v : EventView) : FieldID → String
  | .unknown => ""
  | .eventID => v.eventID
  | .behavior => v.behavior
  | .lineageID => v.lineageID
  | .processStableID => v.processStableID
  | .processBinary => v.processBinary
  | .processBinaryName => v.processBinaryName
  | .processArgv => v.processArgv
  | .processSudoCommand => v.processSudoCommand
  | .processUID => v.processUID
  | .processPID => v.processPID
  | .parentStableID => v.parentStableID
  | .filePath => v.filePath
  | .socketAddr => v.socketAddr
  | .socketPort => v.socketPort
  | .socket => v.socket
  | .scopeType => v.scopeType
  | .scopeSelector => v.scopeSelector
  | .containerID => v.containerID
  | .cgroup => v.cgroup

def EventView.eventTime (v : EventView) : UInt64 :=
  if v.occurredAtNs ≠ 0 then v.occurredAtNs else v.monoNs

def compiledSequenceGroupKey (view : EventView) (fields : List FieldID) : String :=
  let fields := if fields = [] then [.lineageID] else fields
  join (fields.map fun field => fieldName field ++ "=" ++ view.field field) "|"

def processEntity (ev : CanonicalEvent) : EntityRef :=
  { kind := "process", key := ((ev.subjectProc.map (·.stableId)).getD ""), role := "subject" }

def fileEntity (path role : String) : EntityRef := { kind := "file", key := path, role }

def socketEntity (ev : CanonicalEvent) : EntityRef :=
  { kind := "socket", key := ((ev.object.map (·.socketAddr)).getD ""), role := "object" }

def eventEntities (go : Stdlib) (ev : CanonicalEvent) : List EntityRef :=
  let binary := (ev.subjectProc.map (·.binary)).getD ""
  let path := (ev.object.map (·.filePath)).getD ""
  let socket := (ev.object.map (·.socketAddr)).getD ""
  [processEntity ev] ++
  (if eventBehavior go ev = "process.exec" && binary ≠ "" then [fileEntity binary "subject"] else []) ++
  (if path ≠ "" then [fileEntity path "object"] else []) ++
  (if socket ≠ "" then [socketEntity ev] else []) ++
  (if ev.containerId ≠ "" then [{ kind := "container", key := ev.containerId, role := "scope" }] else [])
end

/-! The conditions of detection rules: how a condition and a tree of conditions are compiled
against the content snapshot, and when an event satisfies them, given the values that a
sequence saved from earlier events. -/

structure ConditionSpec where
  (field op value : String := "")
  values : List String := []
  (ref step stepField : String := "")
  deriving DecidableEq

/-- A nil slice of children is `none`; a well formed node sets exactly one of its parts. -/
inductive ConditionNodeSpec where
  | mk (all any : Option (List ConditionNodeSpec)) (negated : Option ConditionNodeSpec)
      (condition : Option ConditionSpec)

structure ContentItem where
  (ref version digest : String := "")
  values : List String := []

abbrev ContentMap := AList fun _ : String => ContentItem

structure ContentRefs where
  (contextRefs iocRefs : ContentMap := ∅)

/-- `unsupported` is the zero operator of the source. -/
inductive ConditionOp where
  | unsupported | eq | neq | contains | startsWith | endsWith | isIn | notIn | sameAs | exists
  | gt | gte | lt | lte
  deriving DecidableEq

structure CompiledCondition where
  field : FieldID
  op : ConditionOp
  values : List String
  matcher : Option Matcher
  step : String
  stepField : FieldID

inductive CompiledConditionNode where
  | all (children : List CompiledConditionNode)
  | any (children : List CompiledConditionNode)
  | negated (child : CompiledConditionNode)
  | leaf (condition : CompiledCondition)
  | unset

def compileOp (go : Stdlib) (op : String) : ConditionOp :=
  match toLower go (trimSpace op) with
  | "" | "eq" | "equals" => .eq
  | "neq" | "not_eq" => .neq
  | "contains" => .contains
  | "prefix" | "has_prefix" => .startsWith
  | "suffix" | "has_suffix" => .endsWith
  | "in" => .isIn
  | "not_in" => .notIn
  | "same_as" => .sameAs
  | "exists" => .exists
  | "gt" => .gt
  | "gte" => .gte
  | "lt" => .lt
  | "lte" => .lte
  | _ => .unsupported

def compileMatcher (strategy : Strategy) (op : ConditionOp) (values : List String) : Option Matcher :=
  match op with
  | .eq | .isIn | .neq | .notIn => some (newExact values)
  | .startsWith => some (newPrefix strategy values)
  | .endsWith => some (newSuffix strategy values)
  | .contains => some (newContains strategy values)
  | _ => none

def normalizeConditionValues (values : List String) : List String := normalize (values.map trimSpace)

def contentValuesFromSnapshot (content : ContentRefs) (ref : String) : List String :=
  match content.contextRefs.lookup ref with
  | some item => item.values
  | none => ((content.iocRefs.lookup ref).map (·.values)).getD []

def conditionCost (cond : CompiledCondition) : Nat :=
  (match cond.op with
    | .exists => 1
    | .eq | .isIn | .neq | .notIn => 2
    | .gt | .gte | .lt | .lte => 3
    | .sameAs => 4
    | .startsWith | .endsWith => 5
    | .contains => 8
    | .unsupported => 20) +
  (match cond.field with
    | .processArgv => 4
    | .socketAddr | .socketPort => 1
    | _ => 0)

section Compile
variable (go : Stdlib) (strategy : Strategy) (content : ContentRefs)

def compileCondition (cond : ConditionSpec) : CompiledCondition :=
  let values := cond.values ++ (if cond.value ≠ "" then [cond.value] else []) ++
    (if cond.ref ≠ "" then contentValuesFromSnapshot content cond.ref else [])
  let op := compileOp go cond.op
  { field := compileField cond.field
    op
    values := normalizeConditionValues values
    matcher := compileMatcher strategy op values
    step := trimSpace cond.step
    stepField := compileField (firstNonEmpty [cond.stepField,cond.field]) }

def compileConditions (conditions : List ConditionSpec) : List CompiledCondition :=
  (conditions.map (compileCondition go strategy content)).insertionSort
    fun a b => conditionCost a ≤ conditionCost b

mutual
def compileConditionNode : ConditionNodeSpec → CompiledConditionNode
  | .mk _ _ _ (some condition) => .leaf (compileCondition go strategy content condition)
  | .mk _ _ (some node) none => .negated (compileConditionNode node)
  | .mk (some children) _ none none => .all (compileConditionNodes children)
  | .mk none (some children) none none => .any (compileConditionNodes children)
  | .mk none none none none => .unset

def compileConditionNodes : List ConditionNodeSpec → List CompiledConditionNode
  | [] => []
  | node :: rest => compileConditionNode node :: compileConditionNodes rest
end

end Compile

mutual
def appendCompiledNodeConditions : CompiledConditionNode → List CompiledCondition
  | .leaf condition => [condition]
  | .negated child => appendCompiledNodeConditions child
  | .all children | .any children => appendCompiledNodesConditions children
  | .unset => []

def appendCompiledNodesConditions : List CompiledConditionNode → List CompiledCondition
  | [] => []
  | node :: rest => appendCompiledNodeConditions node ++ appendCompiledNodesConditions rest
end

abbrev StepValues := AList fun _ : String => AList fun _ : String => String
def firstValue (values : List String) : String := (values.find? (· ≠ "")).getD ""

def compareNumber (go : Stdlib) (actual expected : String) (op : ConditionOp) : Bool :=
  match op,go.compareFloat actual expected with
  | .gt,some .gt => true
  | .gte,some .gt | .gte,some .eq => true
  | .lt,some .lt => true
  | .lte,some .lt | .lte,some .eq => true
  | _,_ => false

section Match
variable (go : Stdlib) (view : EventView)

/-- The saved values are `none` for the rules that keep no state. -/
def matchCompiledCondition (cond : CompiledCondition) (saved : Option StepValues) : Bool :=
  let actual := view.field cond.field
  match cond.op with
  | .eq | .isIn | .contains | .startsWith | .endsWith => cond.matcher.elim false (·.matches actual)
  | .neq | .notIn => cond.matcher.elim true (!·.matches actual)
  | .sameAs =>
    match saved with
    | none => false
    | some values =>
      if cond.step = "" then false
      else match values.lookup cond.step with
        | none => false
        | some stepValues =>
          actual ≠ "" && actual = (stepValues.lookup (fieldName cond.stepField)).getD ""
  | .exists => actual ≠ ""
  | .gt | .gte | .lt | .lte => compareNumber go actual (firstValue cond.values) cond.op
  | .unsupported => false

def matchCompiledConditions (conditions : List CompiledCondition) (saved : Option StepValues) : Bool :=
  conditions.all (matchCompiledCondition go view · saved)

mutual
def matchConditionNode (saved : Option StepValues) : CompiledConditionNode → Bool
  | .leaf condition => matchCompiledCondition go view condition saved
  | .negated child => !matchConditionNode saved child
  | .all children => matchAllConditionNodes saved children
  | .any children => matchAnyConditionNode saved children
  | .unset => false

def matchAllConditionNodes (saved : Option StepValues) : List CompiledConditionNode → Bool
  | [] => true
  | node :: rest => matchConditionNode saved node && matchAllConditionNodes saved rest

def matchAnyConditionNode (saved : Option StepValues) : List CompiledConditionNode → Bool
  | [] => false
  | node :: rest => matchConditionNode saved node || matchAnyConditionNode saved rest
end

def matchCompiledConditionNode (node : Option CompiledConditionNode) (saved : Option StepValues) : Bool :=
  node.elim true (matchConditionNode go view saved)

end Match

end SysArmor.Detection
