import Mathlib.Data.Finmap
import Mathlib.Data.UInt

/-! The protobuf messages that cross the endpoint, the gateway and the ingest worker.
A message field is an `Option`, an absent message reads as its zero value, and a
string map is a finite map, so that two maps with the same entries are equal. -/
namespace SysArmor.Proto

abbrev Labels := Finmap (fun _ : String => String)

/-- `m[key]` on a Go string map: a missing key reads as the empty string. -/
def Labels.get (labels : Labels) (key : String) : String := (labels.lookup key).getD ""

structure ProcessRef where
  stableId : String := ""
  pid : UInt32 := 0
  binary : String := ""
  argv : List String := []
  uid : UInt32 := 0
  startTimeNs : UInt64 := 0
  argvBoundariesTrusted : Bool := false
  deriving DecidableEq

structure ObjectRef where
  (kind filePath socketAddr targetProcStableId : String := "")
  deriving DecidableEq

structure RuntimeScope where
  (type selector : String := "")
  deriving DecidableEq

structure CanonicalEvent where
  id : String := ""
  seq : UInt64 := 0
  (agentId hostId : String := "")
  monoNs : UInt64 := 0
  subjectProc : Option ProcessRef := none
  object : Option ObjectRef := none
  (parentStableId lineageId rawRef tenantId : String := "")
  scope : Option RuntimeScope := none
  (containerId cgroup : String := "")
  «namespace» : String := ""
  pod : String := ""
  occurredAtNs : UInt64 := 0
  behavior : String := ""
  labels : Labels := ∅
  deriving DecidableEq

inductive SignalWhere where
  | unspecified
  | endpoint
  | cloud
  deriving DecidableEq

structure EntityRef where
  (kind key role : String := "")
  deriving DecidableEq

structure EvidenceBundle where
  id : String := ""
  (eventRefs rawRefs : List String := [])
  entities : List EntityRef := []
  summary : String := ""
  deriving DecidableEq

structure ResponseIntent where
  (responseIntent recommendedAction : String := "")
  confidence : UInt32 := 0
  reason : String := ""
  deriving DecidableEq

structure ContentRef where
  (ref version digest : String := "")
  deriving DecidableEq

structure Signal where
  (id name : String := "")
  «where» : SignalWhere := .unspecified
  baseRisk : UInt32 := 0
  lineageId : String := ""
  entities : List EntityRef := []
  (eventRefs signalRefs : List String := [])
  terminal : Bool := false
  evidence : Option EvidenceBundle := none
  crossLineage : Bool := false
  responseIntent : Option ResponseIntent := none
  ruleId : String := ""
  ruleVersion : UInt64 := 0
  rulesetRef : String := ""
  (contextRefs iocRefs : List ContentRef := [])
  severity : String := ""
  confidence : UInt32 := 0
  mode : String := ""
  labels : Labels := ∅
  deriving DecidableEq

structure GraphNode where
  (id kind label : String := "")
  entities : List EntityRef := []
  deriving DecidableEq

structure GraphEdge where
  id : String := ""
  «from» : String := ""
  «to» : String := ""
  kind : String := ""
  deriving DecidableEq

structure EvidenceSubgraph where
  nodes : List GraphNode := []
  edges : List GraphEdge := []
  deriving DecidableEq

structure ConvergeTrace where
  method : String := ""
  (seedIds pathIds controls : List String := [])
  deriving DecidableEq

structure Incident where
  (id summary : String := "")
  severity : UInt32 := 0
  (mitre lineageIds terminals : List String := [])
  evidence : Option EvidenceSubgraph := none
  converge : Option ConvergeTrace := none
  contributingSignals : List Signal := []
  labels : Labels := ∅
  (tenantId correlationKey analysisVersion firstObservedAt lastObservedAt : String := "")
  deriving DecidableEq

structure BatchHeader where
  (batchId tenantId agentId hostId policyId : String := "")
  policyVersion : UInt64 := 0
  policyMode : String := ""
  (eventSeqStart eventSeqEnd signalSeqStart signalSeqEnd : UInt64 := 0)
  (eventCount signalCount : UInt32 := 0)
  (droppedEventsDelta parseErrorsDelta : UInt64 := 0)
  createdAtUnixNano : Int := 0
  labels : Labels := ∅
  deriving DecidableEq

structure EventFrame where
  sequence : UInt64 := 0
  observedAt : String := ""
  event : Option CanonicalEvent := none
  deriving DecidableEq

structure SignalFrame where
  sequence : UInt64 := 0
  observedAt : String := ""
  signal : Option Signal := none
  deriving DecidableEq

structure DataBatch where
  header : Option BatchHeader := none
  events : List EventFrame := []
  signals : List SignalFrame := []
  schemaVersion : String := ""
  deriving DecidableEq

/-- `GetHeader` followed by any field getter: a nil header reads as the zero header. -/
def DataBatch.getHeader (batch : DataBatch) : BatchHeader := batch.header.getD {}

end SysArmor.Proto
