import SysArmor.CollectionEvents
import SysArmor.SequenceEvidence

/-! Rows of the sensor as the adapter reads them. A row is taken after its JSON or protobuf text has
been decoded; the adapter turns it into the sensor events of the contract. -/
namespace SysArmor.Sensing
open GoText

section
open Agent (Behavior Hook KernelEvent normalizeBehavior)

structure TetragonProcess where
  (pid uid : UInt32 := 0)
  (execID binary arguments flags startTime parentExecID docker : String := "")

structure SockaddrArg where
  addr : String := ""
  port : UInt32 := 0

structure KprobeArg where
  file : Option String := none
  sockaddr : Option SockaddrArg := none
  int : Option Int32 := none

structure ProcessEvent where
  (process parent : TetragonProcess := {})

structure KprobeEvent where
  (process parent : TetragonProcess := {})
  function : String := ""
  args : List KprobeArg := []

structure Envelope where
  time : String := ""
  processExec : Option ProcessEvent := none
  processKprobe : Option KprobeEvent := none
  processExit : Option ProcessEvent := none

structure RawProcess where
  (pid ppid : UInt32 := 0)
  binary : String := ""
  argv : List String := []
  uid : UInt32 := 0
  startTimeNs : UInt64 := 0
  (cgroup sensorExecId sensorParentExecId : String := "")
  argvBoundariesTrusted : Bool := false

structure RawObject where
  (path dst : String := "")

structure SensorEvent where
  monoNs : UInt64 := 0
  proc : RawProcess := {}
  object : RawObject := {}
  (containerId rawRef behavior : String := "")

def fields (s : String) : List String := ((s.toList.splitOnP isSpace).filter (· ≠ [])).map String.ofList
def argv (binary arguments : String) : List String := (if binary ≠ "" then [binary] else []) ++ fields arguments

def argvBoundariesTrusted (arguments : String) : Bool :=
  join (fields arguments) " " = arguments && !containsAny arguments "\"'\\"

/-- The argument after the first `-o` that has one. -/
def outputArgument : List String → String
  | flag :: next :: rest => if flag = "-o" then next else outputArgument (next :: rest)
  | _ => ""

def inferredWritePath (proc : TetragonProcess) : String := outputArgument (fields proc.arguments)

def inferredChmodPath (proc : TetragonProcess) : String :=
  if !hasSuffix proc.binary "/chmod" && proc.binary ≠ "chmod" then ""
  else (fields proc.arguments).getLastD ""

def startsNewPayloadLineage (proc : TetragonProcess) : Bool := hasPrefix proc.binary "/var/lib/app/plugins/helper"
def kprobePermission (args : List KprobeArg) : Int32 := (args.findSome? (·.int)).getD 0
def firstPath (args : List KprobeArg) : Option String := args.findSome? fun arg => arg.file.filter (· ≠ "")

def connectAddress (args : List KprobeArg) : Option SockaddrArg :=
  args.findSome? fun arg => arg.sockaddr.filter fun sock => sock.addr ≠ "" && sock.port ≠ 0

section
-- `unixNano` reads a time in the RFC 3339 format.
variable (go : Stdlib) (unixNano : String → Option UInt64)

def monotonicishNS (primary fallback : String) : UInt64 := ((unixNano primary) <|> (unixNano fallback)).getD 0

def sensorEvent (env : Envelope) (proc parent : TetragonProcess) (behavior : Behavior) (object : RawObject) : SensorEvent where
  monoNs := monotonicishNS unixNano env.time proc.startTime
  behavior := normalizeBehavior go behavior.name
  proc :=
    { pid := proc.pid
      ppid := if startsNewPayloadLineage proc then 0 else parent.pid
      binary := proc.binary
      argv := argv proc.binary proc.arguments
      argvBoundariesTrusted := argvBoundariesTrusted proc.arguments
      uid := proc.uid
      startTimeNs := monotonicishNS unixNano proc.startTime env.time
      cgroup := proc.docker
      sensorExecId := proc.execID
      sensorParentExecId := if startsNewPayloadLineage proc then "" else proc.parentExecID }
  object := object
  containerId := proc.docker

def execEvents (env : Envelope) (row : ProcessEvent) : List SensorEvent :=
  let event := sensorEvent go unixNano env row.process row.parent
  [event .processExec {}] ++ (if contains row.process.flags "clone" then [event .processFork {}] else []) ++
    (if inferredWritePath row.process ≠ "" then [event .fileWrite { path := inferredWritePath row.process }] else []) ++
    (if inferredChmodPath row.process ≠ "" then [event .fileChmod { path := inferredChmodPath row.process }] else [])

def permissionBehavior (permission : Int32) : Behavior :=
  if permission = 2 then .fileWrite else if permission = 4 then .fileRead else .fileOpen

def kprobeEventToSensor (env : Envelope) (row : KprobeEvent) : Option SensorEvent :=
  let event := sensorEvent go unixNano env row.process row.parent
  match row.function with
  | "security_bprm_creds_from_file" => some (event .processExec { path := (firstPath row.args).getD "" })
  | "do_exit" => some (event .processExit {})
  | "security_socket_connect" => (connectAddress row.args).map fun sock =>
      event .networkConnect { dst := sock.addr ++ ":" ++ formatUint sock.port.toNat }
  | "security_file_permission" => (firstPath row.args).map fun path =>
      event (permissionBehavior (kprobePermission row.args)) { path }
  | _ => none

/-- `ParseLine` on a decoded row; `none` is a row that is not recognised. -/
def parseLine (env : Envelope) : Option (List SensorEvent) :=
  match env.processExec,env.processKprobe,env.processExit with
  | some row,_,_ => some (execEvents go unixNano env row)
  | none,some row,_ => some (kprobeEventToSensor go unixNano env row).toList
  | none,none,some row => some [sensorEvent go unixNano env row.process row.parent .processExit {}]
  | none,none,none => none

/-! The kprobe rows are the kernel events at the hooks. -/

end
end

/-! From a row of the sensor to what a detection rule reads: the normaliser, the address and port of
a connection, which are joined to one text on the way and cut apart again, and the parents and
lineages that the normaliser gives to the processes of a whole run. -/
open Proto List

section
open Digits
open Agent (normalizeBehavior)
open Detection (Chance EventView FieldID cloneLabels newEventView)

structure Identity where
  (agentID hostID tenantID : String := "")

/-- `endpointctx.Process`. -/
structure KnownProcess where
  (stableID sensorExecID : String)
  (pid ppid : UInt32)
  (binary lineageID : String)

/-- `endpointctx.Table`. -/
structure ProcessTable where
  byPID : AList fun _ : UInt32 => KnownProcess := ∅
  (byStable bySensor : AList fun _ : String => KnownProcess := ∅)

def ProcessTable.upsert (table : ProcessTable) (proc : KnownProcess) : ProcessTable where
  byPID := table.byPID.insert proc.pid proc
  byStable := table.byStable.insert proc.stableID proc
  bySensor := if proc.sensorExecID ≠ "" then table.bySensor.insert proc.sensorExecID proc else table.bySensor

structure Normalizer where
  identity : Identity := {}
  scopeType : String := "host"
  scopeSelector : String := ""
  labels : Labels := ∅
  table : ProcessTable := {}
  seq : UInt64 := 0

/-- Library functions taken as given: the first twelve bytes of a SHA-256 digest in hexadecimal, and
`filepath.Clean`. -/
structure Library where
  (digest12 clean : String → String)

def eventID (agentID : String) (seq : UInt64) : String := agentID ++ "-" ++ padded 20 seq.toNat

def Normalizer.parentProcess (n : Normalizer) (ev : SensorEvent) : Option KnownProcess :=
  (if ev.proc.sensorParentExecId ≠ "" then n.table.bySensor.lookup ev.proc.sensorParentExecId else none) <|>
    n.table.byPID.lookup ev.proc.ppid

section
variable (go : Stdlib) (lib : Library) (chance : Chance)

def stableID (hostID : String) (pid : UInt32) (startNS : UInt64) : String :=
  lib.digest12 (hostID ++ ":" ++ formatUint pid.toNat ++ ":" ++ formatUint startNS.toNat)

def stableIDFromSensor (hostID execID : String) : String := lib.digest12 (hostID ++ ":" ++ execID)

def cleanBinary (binary : String) : String :=
  if binary = "" then "" else if contains binary "/" then lib.clean binary else binary

def eventBehavior (ev : SensorEvent) : String :=
  if trimSpace ev.behavior ≠ "" then normalizeBehavior go (trimSpace ev.behavior) else ""

def objectRef (ev : SensorEvent) : ObjectRef :=
  match eventBehavior go ev with
  | "network.connect" => { kind := "socket", socketAddr := ev.object.dst }
  | "file.open" | "file.read" | "file.write" | "file.chmod" => { kind := "file", filePath := ev.object.path }
  | _ => { kind := "process" }

def Normalizer.processID (n : Normalizer) (ev : SensorEvent) : String :=
  if ev.proc.sensorExecId ≠ "" then stableIDFromSensor lib n.identity.hostID ev.proc.sensorExecId
  else stableID lib n.identity.hostID ev.proc.pid ev.proc.startTimeNs

def Normalizer.lineageOf (n : Normalizer) (ev : SensorEvent) : String :=
  match n.parentProcess ev with
  | some parent => if parent.lineageID ≠ "" then parent.lineageID else n.processID lib ev
  | none => n.processID lib ev

def Normalizer.normalize (n : Normalizer) (ev : SensorEvent) : Normalizer × CanonicalEvent :=
  let seq := n.seq + 1
  let stableID := n.processID lib ev
  let lineageID := n.lineageOf lib ev
  let known : KnownProcess :=
    { stableID, sensorExecID := ev.proc.sensorExecId, pid := ev.proc.pid, ppid := ev.proc.ppid
      binary := ev.proc.binary, lineageID }
  ({ n with seq, table := n.table.upsert known },
    { id := eventID n.identity.agentID seq, seq, agentId := n.identity.agentID, hostId := n.identity.hostID
      tenantId := n.identity.tenantID, monoNs := ev.monoNs, occurredAtNs := ev.monoNs
      behavior := eventBehavior go ev
      subjectProc := some
        { stableId := stableID, pid := ev.proc.pid, binary := cleanBinary lib ev.proc.binary, argv := ev.proc.argv
          argvBoundariesTrusted := ev.proc.argvBoundariesTrusted, uid := ev.proc.uid
          startTimeNs := ev.proc.startTimeNs }
      object := some (objectRef go ev)
      parentStableId := ((n.parentProcess ev).map (·.stableID)).getD "", lineageId := lineageID
      rawRef := ev.rawRef, scope := some { type := n.scopeType, selector := n.scopeSelector }
      containerId := ev.containerId, cgroup := ev.proc.cgroup, labels := cloneLabels chance n.labels })

end

lemma cut_join_iff (front rest : String) (separator : Char) (otherwise : String × String) :
    (cut (front ++ String.singleton separator ++ rest) separator).getD otherwise = (front,rest) ↔ separator ∉ front.toList := by
  have letters : (front ++ String.singleton separator ++ rest).toList =
      front.toList ++ separator :: rest.toList := by simp
  rw [cut,letters]
  constructor
  · intro same mem
    split at same
    · rename_i none
      have absent := dropWhile_eq_nil_iff.mp none separator (by simp)
      simp at absent
    have old : String.ofList ((front.toList ++ separator :: rest.toList).takeWhile (· ≠ separator)) = front :=
      (Prod.mk.inj same).1
    rw [← old,String.toList_ofList] at mem
    simpa using mem_takeWhile_imp mem
  · intro free
    have keep : ∀ letter ∈ front.toList, decide (letter ≠ separator) = true := by
      intro letter mem
      simpa using ne_of_mem_of_not_mem mem free
    rw [dropWhile_append_of_pos keep,takeWhile_append_of_pos keep]
    simp

lemma newEventView_socket (go : Stdlib) {ev : CanonicalEvent} {obj : ObjectRef} (object : ev.object = some obj) :
    ((newEventView go ev).field .socketAddr,(newEventView go ev).field .socketPort) =
      (cut obj.socketAddr ':').getD (obj.socketAddr,"") := by
  simp only [newEventView,object]
  cases ev.subjectProc <;> cases ev.scope <;> rfl

section
variable {go : Stdlib} (plain : toLower go "network.connect" = "network.connect")
include plain

lemma normalizeBehavior_connect : normalizeBehavior go "network.connect" = "network.connect" := by
  rw [normalizeBehavior,plain]
  decide

variable {ev : SensorEvent}

lemma normalize_connect (lib : Library) (chance : Chance) (n : Normalizer)
    (connects : ev.behavior = normalizeBehavior go Agent.Behavior.networkConnect.name) :
    (n.normalize go lib chance ev).2.object = some { kind := "socket", socketAddr := ev.object.dst } := by
  have known : eventBehavior go ev = "network.connect" := by
    have text : ev.behavior = "network.connect" := connects.trans (normalizeBehavior_connect plain)
    have filled : trimSpace "network.connect" = "network.connect" := by decide
    simp only [eventBehavior,text,filled]
    exact normalizeBehavior_connect plain
  simp only [Normalizer.normalize,objectRef,known]

lemma socket_fields_of_dst (lib : Library) (chance : Chance) (n : Normalizer)
    (connects : ev.behavior = normalizeBehavior go Agent.Behavior.networkConnect.name) {addr port : String}
    (dst : ev.object.dst = addr ++ ":" ++ port) :
    let view := newEventView go (n.normalize go lib chance ev).2
    view.field .socketAddr = addr ∧ view.field .socketPort = port ↔ ':' ∉ addr.toList := by
  intro view
  have halves := newEventView_socket go (normalize_connect plain lib chance n connects)
  rw [← Prod.mk.injEq,halves,dst]
  exact cut_join_iff addr port ':' _

/-- The address and the port of a connection, from the row of the sensor to the fields that rules
read: they arrive as they were sent iff the address has no colon. -/
theorem socket_fields_iff (unixNano : String → Option UInt64) (lib : Library) (chance : Chance) (n : Normalizer)
    {env : Envelope} {row : KprobeEvent} (kprobe : env.processExec = none ∧ env.processKprobe = some row)
    (connects : row.function = "security_socket_connect") {addr : String} {port : UInt32}
    (sent : connectAddress row.args = some ⟨addr,port⟩) (rawRef : String) : ∃ ev, parseLine go unixNano env = some [ev] ∧
      let view := newEventView go (n.normalize go lib chance { ev with rawRef }).2
      (view.field .socketAddr = addr ∧ view.field .socketPort = formatUint port.toNat ↔ ':' ∉ addr.toList) := by
  have read : parseLine go unixNano env = some [sensorEvent go unixNano env row.process row.parent .networkConnect
      { dst := addr ++ ":" ++ formatUint port.toNat }] := by
    simp only [parseLine,kprobe,kprobeEventToSensor,connects,sent,Option.map_some,Option.toList_some]
  refine ⟨_,read,?_⟩
  apply socket_fields_of_dst plain lib chance n
  · rfl
  · rfl

end

def plainLibrary : Library := ⟨id,id⟩

def connectRow (addr : String) (port : UInt32) : Envelope where
  processKprobe := some { function := "security_socket_connect", args := [{},{ sockaddr := some ⟨addr,port⟩ }] }

theorem ipv4_fields_arrive : ∃ ev, parseLine asciiStdlib (fun _ => none) (connectRow "10.0.0.1" 443) = some [ev] ∧
      let view := newEventView asciiStdlib (({} : Normalizer).normalize asciiStdlib plainLibrary Detection.steadyChance
        { ev with rawRef := "" }).2
      (view.field .socketAddr = "10.0.0.1" ∧ view.field .socketPort = formatUint (443 : UInt32).toNat ↔
        ':' ∉ "10.0.0.1".toList) :=
  socket_fields_iff (by decide) (fun _ => none) plainLibrary Detection.steadyChance {} ⟨rfl,rfl⟩ rfl rfl ""

/-- Of an IPv6 address the part before its first colon arrives as the address, and the rest with the
port as the port. -/
theorem ipv6_fields_differ : ((parseLine asciiStdlib (fun _ => none) (connectRow "2001:db8::1" 443)).getD []).map (fun ev =>
      let view := newEventView asciiStdlib
        (({} : Normalizer).normalize asciiStdlib plainLibrary Detection.steadyChance ev).2
      (view.field .socket,view.field .socketAddr,view.field .socketPort)) =
    [("2001:db8::1:443","2001","db8::1:443")] := by
  decide +kernel
end

/-!
Parents and lineages over whole runs of the normaliser. A run starts with empty tables and is kept with the state
before each event, the latest event first.
-/
variable {go : Stdlib} {lib : Library} {chance : Detection.Chance}

variable (go lib chance) in
inductive Normalized : Normalizer → List (Normalizer × SensorEvent) → Prop
  | start : n.table = {} → Normalized n []
  | event (ev : SensorEvent) : Normalized n seen → Normalized (n.normalize go lib chance ev).1 ((n,ev) :: seen)

variable (lib) in
def processOf (step : Normalizer × SensorEvent) : String := step.1.processID lib step.2

variable (lib) in
def lineageOf (step : Normalizer × SensorEvent) : String := step.1.lineageOf lib step.2
def parentOf (step : Normalizer × SensorEvent) : Option String := (step.1.parentProcess step.2).map (·.stableID)

variable (lib) in
def Read (seen : List (Normalizer × SensorEvent)) (known : KnownProcess) : Prop :=
  ∃ step ∈ seen, processOf lib step = known.stableID ∧ lineageOf lib step = known.lineageID

lemma Read.later (read : Read lib seen known) : Read lib (step :: seen) known := by
  obtain ⟨earlier,mem,same⟩ := read
  exact ⟨earlier,.tail _ mem,same⟩

lemma Normalized.tables (run : Normalized go lib chance n seen) :
    (∀ execID ≠ "", (n.table.bySensor.lookup execID).map (·.stableID) =
      (seen.find? (·.2.proc.sensorExecId = execID)).map (processOf lib)) ∧
    (∀ pid, (n.table.byPID.lookup pid).map (·.stableID) = (seen.find? (·.2.proc.pid = pid)).map (processOf lib)) ∧
    ∀ known, (∃ execID, n.table.bySensor.lookup execID = some known) ∨ (∃ pid, n.table.byPID.lookup pid = some known) →
      Read lib seen known := by
  induction run with
  | start empty => simp [empty]
  | @event n seen ev _ ih =>
    obtain ⟨bySensor,byPID,read⟩ := ih
    simp only [Normalizer.normalize,ProcessTable.upsert]
    refine ⟨fun execID filled => ?_,fun pid => ?_,fun known stored => ?_⟩
    · by_cases own : ev.proc.sensorExecId = execID
      · simp [own,filled,processOf]
      · rw [find?_cons_of_neg (by simpa using own),← bySensor execID filled]
        split
        · rw [AList.lookup_insert_ne (Ne.symm own)]
        · rfl
    · by_cases own : ev.proc.pid = pid
      · simp [own,processOf]
      · rw [AList.lookup_insert_ne (Ne.symm own),find?_cons_of_neg (by simpa using own),byPID pid]
    · have own : Read lib ((n,ev) :: seen) ⟨n.processID lib ev,ev.proc.sensorExecId,ev.proc.pid,ev.proc.ppid,
          ev.proc.binary,n.lineageOf lib ev⟩ := ⟨_,.head _,rfl,rfl⟩
      rcases stored with ⟨execID,found⟩ | ⟨pid,found⟩
      · split at found
        · rcases AssocCount.lookup_insert_cases found with ⟨-,rfl⟩ | old
          · exact own
          · exact (read known (.inl ⟨execID,old⟩)).later
        · exact (read known (.inl ⟨execID,found⟩)).later
      · rcases AssocCount.lookup_insert_cases found with ⟨-,rfl⟩ | old
        · exact own
        · exact (read known (.inr ⟨pid,old⟩)).later

lemma Normalized.host (run : Normalized go lib chance n seen) : ∀ step ∈ seen, step.1.identity = n.identity := by
  induction run with
  | start => simp
  | event ev _ ih => simpa [Normalizer.normalize] using ih

/-- An event that names its parent by exec id gets the stable id of that process, or none, iff the process has been
seen, or no process with that pid has, or only by a collision of the digests. -/
theorem parent_named_iff (run : Normalized go lib chance n seen) (ev : SensorEvent)
    (named : ev.proc.sensorParentExecId ≠ "") : (n.normalize go lib chance ev).2.parentStableId = "" ∨
      (n.normalize go lib chance ev).2.parentStableId = stableIDFromSensor lib n.identity.hostID ev.proc.sensorParentExecId ↔
    (∃ step ∈ seen, step.2.proc.sensorExecId = ev.proc.sensorParentExecId) ∨
      ∀ step, seen.find? (·.2.proc.pid = ev.proc.ppid) = some step → processOf lib step = "" ∨
        processOf lib step = stableIDFromSensor lib n.identity.hostID ev.proc.sensorParentExecId := by
  obtain ⟨bySensor,byPID,-⟩ := run.tables
  have parent : (n.normalize go lib chance ev).2.parentStableId =
      (((seen.find? (·.2.proc.sensorExecId = ev.proc.sensorParentExecId)).map (processOf lib)) <|>
        (seen.find? (·.2.proc.pid = ev.proc.ppid)).map (processOf lib)).getD "" := by
    simp only [Normalizer.normalize,Normalizer.parentProcess,if_pos named,← bySensor _ named,← byPID]
    cases n.table.bySensor.lookup ev.proc.sensorParentExecId <;> simp
  rw [parent]
  cases found : seen.find? (·.2.proc.sensorExecId = ev.proc.sensorParentExecId) with
  | some step =>
    have mem := mem_of_find?_eq_some found
    have exec : step.2.proc.sensorExecId = ev.proc.sensorParentExecId := by simpa using find?_some found
    have own : processOf lib step = stableIDFromSensor lib n.identity.hostID ev.proc.sensorParentExecId := by
      rw [processOf,Normalizer.processID,if_pos (exec ▸ named),exec,run.host step mem]
    exact iff_of_true (.inr own) (.inl ⟨step,mem,exec⟩)
  | none =>
    have unseen : ¬∃ step ∈ seen, step.2.proc.sensorExecId = ev.proc.sensorParentExecId := by simpa using found
    cases seen.find? (·.2.proc.pid = ev.proc.ppid) <;> simp [unseen]

def sighting (execID : String) (pid ppid : UInt32) : SensorEvent := { proc := { sensorExecId := execID, pid, ppid } }
def childOf (execID : String) (ppid : UInt32) : SensorEvent := { proc := { sensorParentExecId := execID, ppid } }

def sighted (n : Normalizer) (ev : SensorEvent) : Normalizer × CanonicalEvent :=
  n.normalize asciiStdlib plainLibrary Detection.steadyChance ev

/-- Processes of the exec ids `a`, `b` and `c` use the pid 7 one after the other. A child of `b` gets
`b` as its parent, which is neither the first nor the last process of that pid. -/
theorem parent_among_reused_pids :
    (sighted (sighted (sighted (sighted {} (sighting "a" 7 1)).1 (sighting "b" 7 1)).1 (sighting "c" 7 1)).1
      (childOf "b" 7)).2.parentStableId = stableIDFromSensor plainLibrary "" "b" :=
  have run : Normalized asciiStdlib plainLibrary Detection.steadyChance _
      [(_,sighting "c" 7 1),(_,sighting "b" 7 1),({},sighting "a" 7 1)] := .event _ (.event _ (.event _ (.start rfl)))
  ((parent_named_iff run (childOf "b" 7) (by decide)).mpr (.inl ⟨_,.tail _ (.head _),rfl⟩)).resolve_left
    (by decide +kernel)

/-- The process of exec id `b` is not known, and one of exec id `a` used its pid. -/
theorem parent_of_reused_pid : (sighted (sighted {} (sighting "a" 7 0)).1 (childOf "b" 7)).2.parentStableId = ":a" ∧
      stableIDFromSensor plainLibrary "" "b" = ":b" := by
  decide +kernel

def Settled (lib : Library) (earlier : List (Normalizer × SensorEvent)) (now : Normalizer × SensorEvent) : Prop :=
  (∀ step ∈ earlier, processOf lib step ≠ processOf lib now) ∨ parentOf now = some (processOf lib now) ∨
    ∃ step ∈ earlier, processOf lib step = processOf lib now ∧ parentOf step = parentOf now

def AllSettled (lib : Library) : List (Normalizer × SensorEvent) → Prop
  | [] => True
  | now :: earlier => Settled lib earlier now ∧ AllSettled lib earlier

lemma lineageOf_congr {a b : Normalizer × SensorEvent} (same : processOf lib a = processOf lib b)
    (parents : (a.1.parentProcess a.2).map (·.lineageID) = (b.1.parentProcess b.2).map (·.lineageID)) :
    lineageOf lib a = lineageOf lib b := by
  simp only [processOf] at same
  simp only [lineageOf,Normalizer.lineageOf,same]
  revert parents
  cases a.1.parentProcess a.2 <;> cases b.1.parentProcess b.2 <;> simp +contextual

lemma processOf_blank (blank : lineageOf lib step = "") : processOf lib step = "" := by
  simp only [lineageOf,Normalizer.lineageOf] at blank
  split at blank
  · split at blank
    · exact absurd blank ‹_›
    · exact blank
  · exact blank

lemma Normalized.parent_read (run : Normalized go lib chance n seen) (found : n.parentProcess ev = some known) :
    Read lib seen known := by
  apply run.tables.2.2
  simp only [Normalizer.parentProcess,Option.orElse_eq_orElse,Option.orElse_eq_or,Option.or_eq_some_iff] at found
  rcases found with bySensor | ⟨-,byPID⟩
  · split at bySensor
    · exact .inl ⟨_,bySensor⟩
    · cases bySensor
  · exact .inr ⟨_,byPID⟩

lemma Normalized.parents_read (run : Normalized go lib chance n seen) :
    ∀ step ∈ seen, ∀ known, step.1.parentProcess step.2 = some known → Read lib seen known := by
  induction run with
  | start => simp
  | event ev earlier ih =>
    intro step mem known found
    rcases mem_cons.mp mem with rfl | mem
    · exact (earlier.parent_read found).later
    · exact (ih step mem known found).later

/-- All events of one process have the same lineage in a run that is settled: whenever the process comes up again,
it is its own parent or has the parent that an earlier event of it had. -/
theorem lineage_kept (run : Normalized go lib chance n seen) (settled : AllSettled lib seen) :
    ∀ a ∈ seen, ∀ b ∈ seen, processOf lib a = processOf lib b →
      (a.1.normalize go lib chance a.2).2.lineageId = (b.1.normalize go lib chance b.2).2.lineageId := by
  change ∀ a ∈ seen, ∀ b ∈ seen, _ → lineageOf lib a = lineageOf lib b
  induction run with
  | start => simp
  | @event n seen ev earlier ih =>
    have kept := ih settled.2
    have now : ∀ step ∈ seen, processOf lib step = processOf lib (n,ev) → lineageOf lib step = lineageOf lib (n,ev) := by
      intro step mem same
      rcases settled.1 with fresh | itself | ⟨other,listed,process,parent⟩
      · exact absurd same (fresh step mem)
      · obtain ⟨known,found,own⟩ := Option.map_eq_some_iff.mp itself
        obtain ⟨first,listed,process,lineage⟩ := earlier.parent_read found
        rw [kept step mem first listed (same.trans (own.symm.trans process.symm)),lineage]
        simp only [lineageOf,Normalizer.lineageOf,found]
        split
        · rfl
        · rename_i blank
          have blank : known.lineageID = "" := not_not.mp blank
          have empty := processOf_blank (lineage.trans blank)
          rw [blank,← empty,process,own]
          rfl
      · rw [kept step mem other listed (same.trans process.symm)]
        apply lineageOf_congr process
        simp only [parentOf] at parent ⊢
        cases old : other.1.parentProcess other.2 <;> cases new : n.parentProcess ev <;> simp [old,new] at parent ⊢
        obtain ⟨_,oldListed,oldProcess,oldLineage⟩ := earlier.parents_read other listed _ old
        obtain ⟨_,newListed,newProcess,newLineage⟩ := earlier.parent_read new
        rw [← oldLineage,← newLineage,kept _ oldListed _ newListed (oldProcess.trans (parent.trans newProcess.symm))]
    intro a first b second same
    rcases mem_cons.mp first with rfl | first <;> rcases mem_cons.mp second with rfl | second
    · rfl
    · exact (now b second same.symm).symm
    · exact now a first same
    · exact kept a first b second same

theorem lineage_of_repeated : (sighted (sighted {} (sighting "c" 8 7)).1 (sighting "c" 8 7)).2.lineageId =
      (sighted {} (sighting "c" 8 7)).2.lineageId :=
  have run : Normalized asciiStdlib plainLibrary Detection.steadyChance (sighted (sighted {} (sighting "c" 8 7)).1 _).1
      [((sighted {} (sighting "c" 8 7)).1,sighting "c" 8 7),({},sighting "c" 8 7)] := .event _ (.event _ (.start rfl))
  lineage_kept run
    ⟨.inr (.inr ⟨_,.head _,by decide +kernel⟩),.inl (by simp),trivial⟩ _ (.head _) _ (.tail _ (.head _)) (by decide +kernel)

/-- The parent is seen between two events of its child. -/
theorem lineage_of_late_parent : (sighted {} (sighting "c" 8 7)).2.lineageId = ":c" ∧
      (sighted (sighted (sighted {} (sighting "c" 8 7)).1 (sighting "p" 7 1)).1 (sighting "c" 8 7)).2.lineageId = ":p" := by
  decide +kernel

end SysArmor.Sensing
