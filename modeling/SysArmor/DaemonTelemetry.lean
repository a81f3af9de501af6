import SysArmor.EventPipeline
import SysArmor.ExportPipeline
import SysArmor.SequenceCursors
import SysArmor.BatcherLedger

/-! The telemetry side of the agent daemon: events are numbered, put through detection and batched under
the runtime's identity, a sender appends the batches to the local store, and enrollment changes the
identity and starts the export pipeline from a boundary it reads from the store. -/
namespace SysArmor.Daemon
open Proto Digits GoText LocalStore Telemetry
open Detection (Chance Engine EngineState)
open Sensing (Library Normalizer SensorEvent)

inductive EnrollmentState where
  | standalone
  | managed
  deriving DecidableEq

structure Enrollment where
  state : EnrollmentState := .standalone
  (tenantID agentID gatewayAddress tlsCAPath tlsCertPath tlsKeyPath tlsServerName : String := "")
  uploadHistory : Bool := false
  managedFromSequence : UInt64 := 0

def validateManaged (enrollment : Enrollment) : Except String Unit :=
  let values := [enrollment.tenantID,enrollment.agentID,enrollment.gatewayAddress,enrollment.tlsCAPath,
    enrollment.tlsCertPath,enrollment.tlsKeyPath]
  if values.any (trimSpace · = "") then .error "managed enrollment fields are incomplete" else .ok ()

def setManaged (row enrollment : Enrollment) (outcome : Outcome) : Enrollment × Except String Unit :=
  match validateManaged enrollment with
  | .error err => (row,.error err)
  | .ok () =>
    if 2 ^ 63 ≤ enrollment.managedFromSequence then (row,.error (highBitError 9))
    else match outcome with
      | .done => (enrollment,.ok ())
      | .failed err => (row,.error err)
      | .lost err => (enrollment,.error err)

def setStandalone (row : Enrollment) : Outcome → Enrollment × Except String Unit
  | .done => ({},.ok ())
  | .failed err => (row,.error err)
  | .lost err => ({},.error err)

structure Stats where
  (oldestEventSequence latestEventSequence : UInt64)

/-- `COALESCE(MIN(first_sequence),0)`. -/
def oldestSequence (d : Disk) : UInt64 :=
  match d.segments.entries.map (·.2.firstSequence) with
  | [] => 0
  | first :: rest => rest.foldl (fun least next => if next < least then next else least) first

def storeStats (s : Store) : Stats := ⟨oldestSequence s.disk,s.cursor.event⟩

structure RuntimeIdentity where
  (agentID hostID tenantID : String := "")
  deriving DecidableEq

/-- The telemetry state of the daemon. `sending` is the batch the sender has taken from the queue, and
`pipeline` what the network supervisor runs. -/
structure AgentRuntime where
  config : RuntimeIdentity
  (identity standaloneIdentity : RuntimeIdentity := {})
  normalizer : Normalizer := {}
  engine : Engine
  detection : EngineState := {}
  signalSeq : UInt64
  batcher : Batcher
  sending : Option DataBatch := none
  store : Store
  enrollment : Enrollment := {}
  pipeline : Option Pipeline := none

structure Moment where
  policyID : String := ""
  policyVersion : UInt64 := 0
  policyMode : String := ""
  (batchLabels eventLabels : Labels := ∅)
  observedAt : String := ""
  now : UInt64 := 0

def setEndpointSignalID (signal : Signal) (sequence : UInt64) : Signal :=
  let id := "sig-" ++ padded 20 sequence.toNat
  { signal with id, evidence := signal.evidence.map fun evidence => { evidence with id := "evb-" ++ id } }

def signalFrames (observedAt : String) (label : Signal → UInt64 → Signal) :
    UInt64 → List Signal → List SignalFrame × UInt64
  | last,[] => ([],last)
  | last,signal :: rest =>
    let sequence := last + 1
    let (frames,final) := signalFrames observedAt label sequence rest
    ({ sequence, observedAt, signal := some (label signal sequence) } :: frames,final)

def exportPipeline (enrollment : Enrollment) : Pipeline :=
  ⟨enrollment.managedFromSequence,enrollment.tenantID,enrollment.agentID⟩

namespace AgentRuntime

def currentIdentity (r : AgentRuntime) : RuntimeIdentity := if r.identity.agentID ≠ "" then r.identity else r.config

def standaloneRuntimeIdentity (r : AgentRuntime) : RuntimeIdentity :=
  if r.standaloneIdentity.agentID ≠ "" then r.standaloneIdentity else r.config

def setRuntimeIdentity (r : AgentRuntime) (identity : RuntimeIdentity) : AgentRuntime :=
  { r with
    identity
    standaloneIdentity := if r.standaloneIdentity.agentID = "" then identity else r.standaloneIdentity
    normalizer := { r.normalizer with identity := ⟨identity.agentID,identity.hostID,identity.tenantID⟩ } }

def applyEnrollmentIdentity (r : AgentRuntime) (enrollment : Enrollment) (now : UInt64) : AgentRuntime :=
  let standalone := r.standaloneRuntimeIdentity
  let identity := match enrollment.state with
    | .managed => { standalone with agentID := enrollment.agentID, tenantID := enrollment.tenantID }
    | .standalone => standalone
  let flushed := if identity ≠ r.currentIdentity then
    { r with batcher := r.batcher.flushLocked .identity now.toNat } else r
  flushed.setRuntimeIdentity identity

def applyNetwork (r : AgentRuntime) (enrollment : Enrollment) : AgentRuntime :=
  { r with pipeline := match enrollment.state with
      | .managed => some (exportPipeline enrollment)
      | .standalone => none }

def origin (r : AgentRuntime) (moment : Moment) : BatchOrigin :=
  { tenantID := r.currentIdentity.tenantID, agentID := r.currentIdentity.agentID, hostID := r.currentIdentity.hostID
    policyID := moment.policyID, policyVersion := moment.policyVersion, policyMode := moment.policyMode
    createdAt := moment.now.toNat, labels := moment.batchLabels }

section
variable (go : Stdlib) (lib : Library) (chance : Chance) (size : DataBatch → Nat)

def canonical (r : AgentRuntime) (moment : Moment) (ev : SensorEvent) : CanonicalEvent :=
  { (r.normalizer.normalize go lib chance ev).2 with labels := moment.eventLabels }

def detected (r : AgentRuntime) (moment : Moment) (ev : SensorEvent) : EngineState × List Signal :=
  Detection.process go r.engine chance r.detection (r.canonical go lib chance moment ev)

def processEvent (r : AgentRuntime) (moment : Moment) (ev : SensorEvent) : AgentRuntime :=
  let canonical := r.canonical go lib chance moment ev
  let (detection,signals) := r.detected go lib chance moment ev
  let (frames,signalSeq) := signalFrames moment.observedAt setEndpointSignalID r.signalSeq signals
  let batch := { newDataBatch (r.origin moment) with
    events := [{ sequence := canonical.seq, observedAt := moment.observedAt, event := some canonical }]
    signals := frames }
  { r with
    normalizer := (r.normalizer.normalize go lib chance ev).1
    detection
    signalSeq
    batcher := r.batcher.add size (r.origin moment) moment.now.toNat (some batch) }

def processSignals (r : AgentRuntime) (moment : Moment) (signals : List Signal) : AgentRuntime :=
  let (frames,signalSeq) := signalFrames moment.observedAt (fun signal _ => signal) r.signalSeq signals
  let batch := { newDataBatch (r.origin moment) with signals := frames }
  { r with signalSeq, batcher := r.batcher.add size (r.origin moment) moment.now.toNat (some batch) }

end

end AgentRuntime

/-- The settings of a start: the configured identity with the device's defaults filled in, the batcher's
limits and the rest of the normalizer. -/
structure Startup where
  config : RuntimeIdentity
  (batchSize queueCapacity : Int)
  maxBytes : Option Int
  normalizer : Normalizer := {}
  engine : Engine
  now : UInt64 := 0

def AgentRuntime.start (startup : Startup) (store : Store) (enrollment : Enrollment) : AgentRuntime :=
  let runtime : AgentRuntime :=
    { config := startup.config, engine := startup.engine, signalSeq := store.cursor.signal, store, enrollment
      normalizer := { startup.normalizer with seq := store.cursor.event }
      batcher := newBatcher startup.batchSize startup.queueCapacity startup.maxBytes }
  ((runtime.setRuntimeIdentity startup.config).applyEnrollmentIdentity enrollment startup.now).applyNetwork enrollment

structure EnrollRequest where
  requestID : String := ""
  uploadHistory : Bool := false

structure EnrollmentCertificate where
  (tenantID agentID gatewayAddress : String)
  gatewayServerName : String := ""

structure CredentialPaths where
  (ca certificate key : String)

/-- How the calls of `Enroll` end: the certificate request, the credential files and whether they are new,
the statistics, the row and the removal of new files. -/
structure EnrollEffects where
  certificate : Except String EnrollmentCertificate
  credentials : Except String (CredentialPaths × Bool)
  stats : Option String := none
  setManaged : Outcome := .done
  rollback : Option String := none
  now : UInt64 := 0

structure ControlAck where
  (requestID tenantID agentID status message : String)

def enrollmentAck (requestID status message : String) (identity : RuntimeIdentity) : ControlAck :=
  ⟨requestID,identity.tenantID,identity.agentID,status,message⟩

def rollbackEnrollmentFailure (created : Bool) (rollback : Option String) (cause : String) : String :=
  match created,rollback with
  | true,some err => cause ++ "; rollback credentials: " ++ err
  | _,_ => cause

def enrollmentBoundary (stats : Stats) (uploadHistory : Bool) : UInt64 :=
  if uploadHistory then stats.oldestEventSequence else stats.latestEventSequence + 1

def enrollmentFor (certificate : EnrollmentCertificate) (paths : CredentialPaths) (uploadHistory : Bool)
    (stats : Stats) : Enrollment :=
  { state := .managed, tenantID := certificate.tenantID, agentID := certificate.agentID
    gatewayAddress := certificate.gatewayAddress, tlsCAPath := paths.ca, tlsCertPath := paths.certificate
    tlsKeyPath := paths.key, tlsServerName := certificate.gatewayServerName, uploadHistory
    managedFromSequence := enrollmentBoundary stats uploadHistory }

def AgentRuntime.enroll (r : AgentRuntime) (request : EnrollRequest) (io : EnrollEffects) : AgentRuntime × ControlAck :=
  let rejected (r : AgentRuntime) (message : String) := (r,enrollmentAck request.requestID "rejected" message r.currentIdentity)
  match io.certificate,io.credentials,io.stats with
  | .error err,_,_ => rejected r err
  | .ok _,.error err,_ => rejected r ("write credentials: " ++ err)
  | .ok _,.ok (_,created),some err => rejected r (rollbackEnrollmentFailure created io.rollback err)
  | .ok certificate,.ok (paths,created),none =>
    let enrollment := enrollmentFor certificate paths request.uploadHistory (storeStats r.store)
    match setManaged r.enrollment enrollment io.setManaged with
    | (row,.error err) => rejected { r with enrollment := row } (rollbackEnrollmentFailure created io.rollback err)
    | (row,.ok ()) =>
      let r := ({ r with enrollment := row }.applyEnrollmentIdentity enrollment io.now).applyNetwork enrollment
      (r,enrollmentAck request.requestID "applied" "agent enrolled" r.currentIdentity)

/-- How the calls of `Unenroll` end; the errors of removing credentials only go into the message. -/
structure UnenrollEffects where
  enrollment : Option String := none
  setStandalone : Outcome := .done
  cleanup : List String := []
  now : UInt64 := 0

def AgentRuntime.unenroll (r : AgentRuntime) (requestID : String) (io : UnenrollEffects) : AgentRuntime × ControlAck :=
  match io.enrollment,setStandalone r.enrollment io.setStandalone with
  | some err,_ => (r,enrollmentAck requestID "rejected" err r.currentIdentity)
  | none,(row,.error err) => ({ r with enrollment := row },enrollmentAck requestID "rejected" err r.currentIdentity)
  | none,(row,.ok ()) =>
    let r := { r with enrollment := row, pipeline := none }.applyEnrollmentIdentity {} io.now
    let message := "agent returned to standalone mode" ++
      if io.cleanup ≠ [] then "; credential cleanup failed: " ++ "; ".intercalate io.cleanup else ""
    (r,enrollmentAck requestID "applied" message r.currentIdentity)

structure Setting where
  codec : Codec
  segmentSize : Nat
  go : Stdlib
  lib : Library
  size : DataBatch → Nat

/-- One step of the daemon, with the batches it stores and where. A counter at its last value gives out
no number. -/
inductive DaemonStep (env : Setting) : AgentRuntime → List StoredBatch → AgentRuntime → Prop where
  | event (chance : Chance) (moment : Moment) (ev : SensorEvent) (room : r.normalizer.seq.toNat + 1 < 2 ^ 64)
      (signalRoom : r.signalSeq.toNat + (r.detected env.go env.lib chance moment ev).2.length < 2 ^ 64) :
      DaemonStep env r [] (r.processEvent env.go env.lib chance env.size moment ev)
  | signals (moment : Moment) (signals : List Signal) (room : r.signalSeq.toNat + signals.length < 2 ^ 64) :
      DaemonStep env r [] (r.processSignals env.size moment signals)
  /-- A policy update builds another engine. -/
  | detection (engine : Engine) (state : EngineState) : DaemonStep env r [] { r with engine, detection := state }
  | flush (reason : FlushReason) (now : UInt64) :
      DaemonStep env r [] { r with batcher := r.batcher.flushLocked reason now.toNat }
  | reconfigure (settings : BatchSettings) (now : UInt64) :
      DaemonStep env r [] { r with batcher := r.batcher.reconfigure settings now.toNat }
  | close (reason : FlushReason) (now : UInt64) :
      DaemonStep env r [] { r with batcher := r.batcher.closeAndFlush reason now.toNat }
  /-- The sender takes the next batch from the queue. -/
  | take (idle : r.sending = none) (waiting : r.batcher.queue = batch :: rest) :
      DaemonStep env r [] { r with sending := some batch, batcher := { r.batcher with queue := rest } }
  /-- The sender gives the batch up at shutdown. -/
  | giveUp : DaemonStep env r [] { r with sending := none }
  | append (taken : r.sending = some batch) (fresh : r.store.batchPositions.lookup batch.getHeader.batchId = none)
      (success : appendBatch env.codec env.segmentSize r.store (some batch) io = (store,.ok position)) :
      DaemonStep env r [⟨position,batch⟩] { r with store, sending := none }
  /-- An append under a recorded id stores nothing. -/
  | again (taken : r.sending = some batch) (known : r.store.batchPositions.lookup batch.getHeader.batchId = some recorded)
      (success : appendBatch env.codec env.segmentSize r.store (some batch) io = (store,.ok position)) :
      DaemonStep env r [] { r with store, sending := none }
  /-- An append that fails without a trace is tried again. -/
  | refused (taken : r.sending = some batch)
      (failed : appendBatch env.codec env.segmentSize r.store (some batch) io = (r.store,.error err)) :
      DaemonStep env r [] r
  | evict (io : CapacityEffects) :
      DaemonStep env r [] { r with store := { r.store with disk := (enforceCapacity r.store.disk io).1 } }
  | enroll (request : EnrollRequest) (io : EnrollEffects) : DaemonStep env r [] (r.enroll request io).1
  | unenroll (requestID : String) (io : UnenrollEffects) : DaemonStep env r [] (r.unenroll requestID io).1
  | restart (startup : Startup) (opened : recoverSegments env.codec r.store.disk = .ok store) :
      DaemonStep env r [] (.start startup store r.enrollment)

inductive DaemonRun (env : Setting) : AgentRuntime → List StoredBatch → AgentRuntime → Prop where
  | refl : DaemonRun env r [] r
  | step (run : DaemonRun env r stored middle) (next : DaemonStep env middle more after) :
      DaemonRun env r (stored ++ more) after

end SysArmor.Daemon
