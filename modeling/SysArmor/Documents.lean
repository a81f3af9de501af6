import SysArmor.StoreAgents
import SysArmor.Digits
import SysArmor.KeyedMerge

/-! What the ingest worker puts into the search index: analysis scopes, document ids and the
documents of a batch. Encoding a message cannot fail on valid texts, so a document holds the
message itself. -/
namespace SysArmor.Ingest

section
open GoText Proto Manager

def analysisSelector (labels : Labels) : Labels :=
  ["case_type","scenario","workload"].foldl (fun selector key =>
    let value := trimSpace (labels.get key)
    if value = "" then selector else selector.insert key value) ∅

def labelSelectorKey (labels : Labels) : String :=
  join ((sortedKeys labels).map fun key => key ++ "=" ++ labels.get key) ","

inductive Body where
  | event (event : CanonicalEvent)
  | signal (signal : Signal)
  | incident (incident : Incident)
  | evidence (evidence : EvidenceSubgraph)
  deriving DecidableEq

/-- A document and what `decorateDocument` adds to its body: the tenant and the time, in
nanoseconds. The zero document has no body. -/
structure Document where
  (index id : String := "")
  body : Option Body := none
  tenantId : String := ""
  timestamp : Int := 0
  deriving DecidableEq

/-- The RFC 3339 layout with nanoseconds, in UTC: `time.Parse` and `Format`. -/
structure TimeText where
  parse : String → Option Int
  format : Int → String

def eventsWriteAlias : String := "sysarmor-events-write"
def signalsWriteAlias : String := "sysarmor-signals-write"
def incidentsWriteAlias : String := "sysarmor-incidents-write"
def evidenceWriteAlias : String := "sysarmor-evidence-write"

def decorateDocument (doc : Document) (tenantID : String) (observed : Int) : Document :=
  if doc.body.isNone then doc else { doc with tenantId := tenantID, timestamp := observed }

variable (doc : Document) (tenantID : String) (observed : Int)

@[simp] lemma decorateDocument_index : (decorateDocument doc tenantID observed).index = doc.index := by
  unfold decorateDocument
  split <;> rfl

@[simp] lemma decorateDocument_id : (decorateDocument doc tenantID observed).id = doc.id := by
  unfold decorateDocument
  split <;> rfl

@[simp] lemma decorateDocument_body : (decorateDocument doc tenantID observed).body = doc.body := by
  unfold decorateDocument
  split <;> rfl

def frameTime (times : TimeText) (raw : String) (fallback : Int) : Int := (times.parse raw).getD fallback

def batchUpperTime (batch : DataBatch) (fallback : Int) : Int :=
  if 0 < batch.getHeader.createdAtUnixNano then batch.getHeader.createdAtUnixNano
  else
    let latest := batch.events.foldl (fun latest frame => max latest (frame.event.getD {}).occurredAtNs) 0
    if 0 < latest then latest.toInt64.toInt else fallback

section
variable (digest : String → String)

def endpointSignalDocumentID (tenantID agentID signalID : String) : String :=
  if trimSpace signalID = "" then ""
  else "endpoint-signal:" ++ digest (tenantID ++ "\x00" ++ agentID ++ "\x00" ++ signalID)

def signalDocumentID (sig : Signal) : String :=
  if sig.where = .cloud then signalKey digest sig
  else if sig.id ≠ "" then sig.id
  else
    let id := join ([labelSelectorKey (analysisSelector sig.labels),sig.name,sig.lineageId].map trimSpace) ":"
    if trim id ':' = "" then "" else id

def incidentDocumentID (inc : Incident) : String :=
  let identity := join [inc.tenantId,inc.correlationKey,inc.analysisVersion] ":"
  let identity := if trim identity ':' = "" then
      join [inc.labels.get "tenant_id",inc.labels.get "correlation_key",inc.labels.get "analysis_version"] ":"
    else identity
  if trim identity ':' ≠ "" then "incident:" ++ digest identity else inc.id

def signalDocumentWithID (sig : Signal) (id : String) : Document :=
  if id = "" then {} else { index := signalsWriteAlias, id, body := some (.signal sig) }

lemma signalDocumentWithID_of_id {sig : Signal} {id : String} (present : (signalDocumentWithID sig id).id ≠ "") :
    signalDocumentWithID sig id = { index := signalsWriteAlias, id, body := some (.signal sig) } := by
  unfold signalDocumentWithID at present ⊢
  split
  · simp_all
  · rfl

def signalDocument (sig : Signal) : Document := signalDocumentWithID sig (signalDocumentID digest sig)

def batchSignalDocument (sig : Signal) (tenantID agentID : String) : Document :=
  if sig.where = .endpoint then signalDocumentWithID sig (endpointSignalDocumentID digest tenantID agentID sig.id)
  else signalDocument digest sig

variable (times : TimeText)

def eventFrameDocument (batch : DataBatch) (fallback : Int) (frame : EventFrame) : Option Document := do
  let ev ← frame.event
  if ev.id = "" then none
  else some (decorateDocument { index := eventsWriteAlias, id := ev.id, body := some (.event ev) }
    batch.getHeader.tenantId (frameTime times frame.observedAt fallback))

def signalFrameDocument (batch : DataBatch) (fallback : Int) (frame : SignalFrame) : Option Document := do
  let sig ← frame.signal
  let doc := batchSignalDocument digest sig batch.getHeader.tenantId batch.getHeader.agentId
  if doc.id = "" then none
  else some (decorateDocument doc batch.getHeader.tenantId (frameTime times frame.observedAt fallback))

def batchDocuments (batch : DataBatch) (fallback : Int) : List Document :=
  batch.events.filterMap (eventFrameDocument times batch fallback) ++
    batch.signals.filterMap (signalFrameDocument digest times batch fallback)

def incidentDocuments (inc : Incident) : List Document :=
  if inc.id = "" then []
  else
    let id := incidentDocumentID digest inc
    match inc.evidence with
    | none => [{ index := incidentsWriteAlias, id, body := some (.incident inc) }]
    | some evidence => [{ index := evidenceWriteAlias, id := id ++ ":evidence", body := some (.evidence evidence) },
        { index := incidentsWriteAlias, id, body := some (.incident inc) }]

end
end

/-! Merging the stored history of an analysis scope with the current batch. Signals are merged
by their document id. An endpoint signal's id is the number its own agent gave it, so the merge
keeps the signals of every agent exactly as long as no two agents used the same number. -/

section
open Digits Proto KeyedMerge

def presentKey (id : String) : Option String := if id = "" then none else some id

/-- The merges move pointers and copy no message, so they are over any type of references. A nil
pointer has no message. -/
def mergeEvents (deref : Ref → Option CanonicalEvent) (history current : List Ref) : List Ref :=
  mergeByKey (fun ref => (deref ref).bind fun ev => presentKey ev.id) (history ++ current)

def mergeSignals (digest : String → String) (deref : Ref → Option Signal) (history current : List Ref) : List Ref :=
  mergeByKey (fun ref => (deref ref).bind fun sig => presentKey (signalDocumentID digest sig)) (history ++ current)

def setEndpointSignalID (signal : Signal) (sequence : UInt64) : Signal :=
  let id := "sig-" ++ padded 20 sequence.toNat
  { signal with id, evidence := signal.evidence.map fun evidence => { evidence with id := "evb-" ++ id } }

/-- An endpoint signal with the agent that raised it and the number the agent gave it. Each agent
counts its own signals from 1. -/
structure RaisedSignal where
  agent : String
  sequence : UInt64
  raised : Signal
  counted : 0 < sequence
  endpoint : raised.where = .endpoint

def RaisedSignal.signal (item : RaisedSignal) : Signal := setEndpointSignalID item.raised item.sequence
def RaisedSignal.origin (item : RaisedSignal) : String × UInt64 := (item.agent,item.sequence)

variable (digest : String → String) (item : RaisedSignal)

lemma signalDocumentID_raised : signalDocumentID digest item.signal = "sig-" ++ padded 20 item.sequence.toNat := by
  have layer : item.signal.where = .endpoint := item.endpoint
  have named : item.signal.id = "sig-" ++ padded 20 item.sequence.toNat := rfl
  simp [signalDocumentID,layer,named]

def mergeKey (digest : String → String) (item : RaisedSignal) : Option String :=
  presentKey (signalDocumentID digest item.signal)

lemma mergeSignals_raised (history current : List RaisedSignal) :
    mergeSignals digest (fun item => some item.signal) history current = mergeByKey (mergeKey digest) (history ++ current) := rfl

lemma mergeKey_eq : mergeKey digest item = some ("sig-" ++ padded 20 item.sequence.toNat) := by
  have present : "sig-" ++ padded 20 item.sequence.toNat ≠ "" := by
    intro empty
    simpa using congrArg String.toList empty
  simp [mergeKey,presentKey,signalDocumentID_raised,present]

lemma mergeKey_eq_iff (a b : RaisedSignal) : mergeKey digest a = mergeKey digest b ↔ a.sequence = b.sequence := by
  rw [mergeKey_eq,mergeKey_eq,Option.some.injEq]
  constructor
  · intro same
    apply UInt64.toNat_inj.mp
    apply padded_injective 20
    simpa [String.ext_iff] using same
  · intro same
    rw [same]

/-- The merge returns a signal of every agent's every number exactly when no number was used by
two agents: then, and only then, no signal replaces that of another agent. -/
theorem mergeSignals_keeps_signals_iff (digest : String → String) (history current : List RaisedSignal) :
    (∀ item ∈ history ++ current, ∃ kept ∈ mergeSignals digest (fun item => some item.signal) history current,
        kept.origin = item.origin) ↔
      ∀ a ∈ history ++ current, ∀ b ∈ history ++ current, a.sequence = b.sequence → a.agent = b.agent := by
  rw [mergeSignals_raised,mergeByKey_represents_iff]
  · apply forall₂_congr
    intro a _
    apply forall₂_congr
    intro b _
    rw [mergeKey_eq_iff,RaisedSignal.origin,RaisedSignal.origin,Prod.mk.injEq]
    constructor
    · intro separated same
      exact (separated same).1
    · intro separated same
      exact ⟨separated same,same⟩
  · intro item _
    simp [mergeKey_eq]
  · intro a _ b _ same
    rw [mergeKey_eq_iff]
    exact congrArg Prod.snd same

def firstSignal (agent name : String) : RaisedSignal :=
  ⟨agent,1,{ name, «where» := .endpoint },by decide,rfl⟩

/-- Two agents fell in one scope and each raised its first signal: the older one is gone. -/
theorem firstSignals_of_two_agents_merged : ¬ ∀ item ∈ [firstSignal "agent-a" "shell"] ++ [firstSignal "agent-b" "beacon"],
      ∃ kept ∈ mergeSignals id (fun item => some item.signal) [firstSignal "agent-a" "shell"]
        [firstSignal "agent-b" "beacon"], kept.origin = item.origin := by
  intro keeps
  have origins : (mergeSignals id (fun item => some item.signal) [firstSignal "agent-a" "shell"]
      [firstSignal "agent-b" "beacon"]).map RaisedSignal.origin = [("agent-b",1)] := by decide +kernel
  obtain ⟨kept,mem,same⟩ := keeps (firstSignal "agent-a" "shell") (by simp)
  have listed := List.mem_map_of_mem (f := RaisedSignal.origin) mem
  rw [origins,same] at listed
  simp [firstSignal,RaisedSignal.origin] at listed
end

/-! The selector of an analysis scope, read label by label. A selector holds the scope labels whose
trimmed value is not empty, so two label maps name one scope exactly when they agree in the trimmed
values of these labels, and the key of a scope lists the labels that are present in their order. -/
open List

section
open GoText Proto Manager

def scopeNames : List String := ["case_type","scenario","workload"]
def scopeValue (labels : Labels) (name : String) : String := trimSpace (labels.get name)
def LabelText (text : String) : Prop := text ≠ "" ∧ trimSpace text = text

lemma labelText_scopeValue (present : scopeValue labels name ≠ "") : LabelText (scopeValue labels name) :=
  ⟨present,trimSpace_trimSpace _⟩

lemma lookup_foldl_insert (value : String → String) (names : List String) (selector : Labels) (name : String) :
    (names.foldl (fun selector name => if value name = "" then selector else selector.insert name (value name)) selector).lookup name =
      if name ∈ names ∧ value name ≠ "" then some (value name) else selector.lookup name := by
  induction names using List.reverseRecOn with
  | nil => simp
  | append_singleton names last ih =>
    rw [foldl_append,foldl_cons,foldl_nil]
    by_cases blank : value last = ""
    · rw [if_pos blank,ih]
      by_cases same : name = last
      · subst same
        simp [blank]
      · simp [same]
    · rw [if_neg blank]
      by_cases same : name = last
      · subst same
        simp [blank]
      · rw [Finmap.lookup_insert_of_ne _ same,ih]
        simp [same]

lemma lookup_analysisSelector (labels : Labels) (name : String) : (analysisSelector labels).lookup name =
      if name ∈ scopeNames ∧ scopeValue labels name ≠ "" then some (scopeValue labels name) else none := by
  have folded := lookup_foldl_insert (scopeValue labels) scopeNames ∅ name
  rw [Finmap.lookup_empty] at folded
  exact folded

lemma get_analysisSelector (labels : Labels) (name : String) (named : name ∈ scopeNames) :
    (analysisSelector labels).get name = scopeValue labels name := by
  rw [Labels.get,lookup_analysisSelector]
  by_cases blank : scopeValue labels name = ""
  · simp [blank]
  · simp [named,blank]

lemma analysisSelector_eq_iff (labels other : Labels) :
    analysisSelector labels = analysisSelector other ↔ ∀ name ∈ scopeNames, scopeValue labels name = scopeValue other name := by
  constructor
  · intro same name named
    rw [← get_analysisSelector labels name named,same,get_analysisSelector other name named]
  intro agree
  refine Finmap.ext_lookup fun name => ?_
  rw [lookup_analysisSelector,lookup_analysisSelector]
  by_cases named : name ∈ scopeNames
  · rw [agree name named]
  · simp [named]

lemma analysisSelector_eq_empty_iff (labels : Labels) :
    analysisSelector labels = ∅ ↔ ∀ name ∈ scopeNames, scopeValue labels name = "" := by
  have bare : analysisSelector (∅ : Labels) = ∅ := by decide +kernel
  rw [← bare,analysisSelector_eq_iff]
  have blank (name : String) : scopeValue ∅ name = "" := rfl
  simp only [blank]

def presentNames (labels : Labels) : List String := scopeNames.filter (scopeValue labels · ≠ "")

lemma mem_presentNames : name ∈ presentNames labels ↔ name ∈ scopeNames ∧ scopeValue labels name ≠ "" := by
  simp [presentNames]

lemma pairwise_scopeNames : scopeNames.Pairwise (· < ·) := by decide +kernel

lemma pairwise_presentNames (labels : Labels) : (presentNames labels).Pairwise (· < ·) :=
  pairwise_scopeNames.filter _

lemma sortedKeys_analysisSelector (labels : Labels) : sortedKeys (analysisSelector labels) = presentNames labels := by
  have sorted := pairwise_sortedKeys (analysisSelector labels)
  have present := pairwise_presentNames labels
  refine List.Perm.eq_of_pairwise (fun _ _ _ _ less more => absurd less (lt_asymm more)) sorted present ?_
  rw [perm_ext_iff_of_nodup (sorted.imp ne_of_lt) (present.imp ne_of_lt)]
  intro name
  rw [mem_sortedKeys,mem_presentNames,← Finmap.lookup_isSome,lookup_analysisSelector]
  split <;> simp_all

def labelText (labels : Labels) (name : String) : String := name ++ "=" ++ scopeValue labels name

lemma labelSelectorKey_analysisSelector (labels : Labels) :
    labelSelectorKey (analysisSelector labels) = join ((presentNames labels).map (labelText labels)) "," := by
  have parts : (presentNames labels).map (fun name => name ++ "=" ++ (analysisSelector labels).get name) =
      (presentNames labels).map (labelText labels) := by
    refine map_congr_left fun name present => ?_
    rw [get_analysisSelector labels name (mem_presentNames.mp present).1,labelText]
  rw [labelSelectorKey,sortedKeys_analysisSelector,parts]

lemma analysisSelector_eq_empty_iff_presentNames (labels : Labels) : analysisSelector labels = ∅ ↔ presentNames labels = [] := by
  rw [analysisSelector_eq_empty_iff,presentNames,filter_eq_nil_iff]
  simp

def itemLabels (batch : DataBatch) : List Labels :=
  batch.events.map (fun frame => (frame.event.getD {}).labels) ++
    batch.signals.map (fun frame => (frame.signal.getD {}).labels)
end

/-! The client of the search index: one bulk request for the documents of a batch, and one error
for a response with a status of its own for each of them. -/

inductive ErrorClass where
  | transient
  | permanent
  deriving DecidableEq

def ErrorClass.text : ErrorClass → String
  | .transient => "transient"
  | .permanent => "permanent"

structure ProjectionError where
  «class» : ErrorClass
  status : Int := 0
  (index id : String := "")
  cause : String
  deriving DecidableEq

inductive Failure where
  | projection (err : ProjectionError)
  | other (text : String)
  deriving DecidableEq

def Failure.text : Failure → String
  | .projection err =>
    s!"opensearch projection class={err.class.text} status={err.status} index={err.index} id={err.id}: {err.cause}"
  | .other text => text

def errorClassOf : Failure → ErrorClass
  | .projection err => err.class
  | .other _ => .transient

structure BulkItem where
  status : Int := 0
  error : Option (String × String) := none
  deriving DecidableEq

abbrev BulkOperations := AList (fun _ : String => BulkItem)

/-- How the request ends: it cannot be built, nothing comes back, or a response does; its body
decodes to the items or does not decode. -/
inductive BulkAnswer where
  | unbuilt (cause : String)
  | unanswered (cause : String)
  | response (status : Int) (statusText : String) (body : Except String (List BulkOperations))

def successStatus (status : Int) : Bool := 200 ≤ status && status < 300

def classifyStatus (status : Int) : ErrorClass :=
  if status = 408 || status = 429 || 500 ≤ status then .transient else .permanent

def bulkItemError (doc : Document) (item : BulkItem) : ProjectionError where
  «class» := classifyStatus item.status
  status := item.status
  index := doc.index
  id := doc.id
  cause := match item.error with
    | none => "bulk item failed"
    | some (type,reason) => type ++ ": " ++ reason

/-- The loop of `decodeBulkResponse` over the items, each with its document. -/
def scanItems : List (BulkOperations × Document) → Nat → Option ProjectionError → Option ProjectionError →
    Option ProjectionError
  | [], _, permanent, transient => transient.or permanent
  | (operations,doc) :: items, index, permanent, transient =>
    match operations.entries with
    | [⟨_,item⟩] =>
      if successStatus item.status then scanItems items (index + 1) permanent transient
      else
        let failure := bulkItemError doc item
        if failure.class = .transient && transient.isNone then scanItems items (index + 1) permanent (some failure)
        else if permanent.isNone then scanItems items (index + 1) (some failure) transient
        else scanItems items (index + 1) permanent transient
    | entries => some { «class» := .transient, cause := s!"bulk item {index} has {entries.length} operations" }

def decodeBulkResponse (body : Except String (List BulkOperations)) (docs : List Document) : Option ProjectionError :=
  match body with
  | .error cause => some { «class» := .transient, cause := "decode bulk response: " ++ cause }
  | .ok items =>
    if items.length ≠ docs.length then
      some { «class» := .transient, cause := s!"bulk item count {items.length}, want {docs.length}" }
    else scanItems (items.zip docs) 0 none none

def invalidDocument (doc : Document) : Bool := doc.index = "" || doc.id = "" || doc.body.isNone

def BulkAnswer.failure (docs : List Document) : BulkAnswer → Option Failure
  | .unbuilt cause => some (.projection { «class» := .permanent, cause })
  | .unanswered cause => some (.projection { «class» := .transient, cause })
  | .response status statusText body =>
    if successStatus status then (decodeBulkResponse body docs).map .projection
    else some (.projection { «class» := classifyStatus status, status, cause := "bulk status " ++ statusText })

def bulkIndex (base : String) (docs : List Document) (answer : List Document → BulkAnswer) :
    Option BulkAnswer × Option Failure :=
  if base = "" then (none,some (.other "opensearch indexing is disabled"))
  else if docs.isEmpty then (none,none)
  else match docs.find? invalidDocument with
    | some doc => (none,some (.projection
        { «class» := .permanent, index := doc.index, id := doc.id, cause := "valid index, id, and JSON body are required" }))
    | none => (some (answer docs),(answer docs).failure docs)

def singleStatus (operations : BulkOperations) : Option Int :=
  match operations.entries with
  | [⟨_,item⟩] => some item.status
  | _ => none

/-- The status a document received: that of its item, or that of the response as a whole when it
is not a success. -/
def BulkAnswer.statusAt (answer : BulkAnswer) (position : Nat) : Option Int :=
  match answer with
  | .response status _ body =>
    if successStatus status then
      match body with
      | .error _ => none
      | .ok items => items[position]?.bind singleStatus
    else some status
  | _ => none

def AllIndexed (docs : List Document) (answer : Option BulkAnswer) : Prop :=
  ∀ position < docs.length, ∃ status, answer.bind (·.statusAt position) = some status ∧ successStatus status = true

def SomeTransient (docs : List Document) (answer : Option BulkAnswer) : Prop :=
  ∃ position < docs.length, ∃ status, answer.bind (·.statusAt position) = some status ∧
    successStatus status = false ∧ classifyStatus status = .transient

def TransientItem (operations : BulkOperations) : Prop :=
  ∃ status, singleStatus operations = some status ∧ successStatus status = false ∧ classifyStatus status = .transient

lemma singleStatus_eq (single : operations.entries = [⟨name,item⟩]) : singleStatus operations = some item.status := by
  simp only [singleStatus,single]

lemma scanItems_none (items : List (BulkOperations × Document)) (index : Nat)
    (done : scanItems items index permanent transient = none) : permanent = none ∧ transient = none ∧
      ∀ item ∈ items, ∃ status, singleStatus item.1 = some status ∧ successStatus status = true := by
  induction items generalizing index permanent transient with
  | nil => simpa [scanItems,and_comm] using done
  | cons item items ih =>
    obtain ⟨operations,doc⟩ := item
    simp only [scanItems] at done
    split at done
    · rename_i name entry single
      split at done
      · rename_i success
        obtain ⟨noPermanent,noTransient,rest⟩ := ih _ done
        refine ⟨noPermanent,noTransient,?_⟩
        rintro other (_ | ⟨_,later⟩)
        · exact ⟨entry.status,singleStatus_eq single,success⟩
        · exact rest other later
      · split at done
        · exact nomatch (ih _ done).2.1
        · split at done
          · exact nomatch (ih _ done).1
          · rename_i present
            exact absurd (Option.isNone_iff_eq_none.mpr (ih _ done).1) present
    · cases done

lemma scanItems_transient (items : List (BulkOperations × Document)) (index : Nat)
    (seen : ∀ err ∈ transient, err.class = .transient) (cause : transient.isSome = true ∨ ∃ item ∈ items, TransientItem item.1) :
    ∃ err, scanItems items index permanent transient = some err ∧ err.class = .transient := by
  induction items generalizing index permanent transient with
  | nil =>
    obtain ⟨err,rfl⟩ := Option.isSome_iff_exists.mp (cause.resolve_right (by simp))
    exact ⟨err,rfl,seen err rfl⟩
  | cons item items ih =>
    obtain ⟨operations,doc⟩ := item
    simp only [scanItems]
    split
    · rename_i name entry single
      -- an item that the loop passes over without recording it leaves the cause to the others
      have later (passed : transient.isSome = true ∨ ¬ TransientItem operations) :
          transient.isSome = true ∨ ∃ item ∈ items, TransientItem item.1 := by
        rcases cause with known | ⟨found,_ | ⟨_,mem⟩,transientItem⟩
        · exact .inl known
        · exact .inl (passed.resolve_right (not_not_intro transientItem))
        · exact .inr ⟨found,mem,transientItem⟩
      split
      · rename_i success
        refine ih _ seen (later (.inr ?_))
        rintro ⟨status,found,failed,-⟩
        rw [singleStatus_eq single] at found
        cases found
        rw [success] at failed
        cases failed
      · split
        · rename_i first
          refine ih _ ?_ (.inl rfl)
          rintro _ ⟨⟩
          simpa using (Bool.and_eq_true_iff.mp first).1
        · rename_i notFirst
          have remaining : transient.isSome = true ∨ ∃ item ∈ items, TransientItem item.1 := by
            refine later (or_iff_not_imp_left.mpr fun unseen => ?_)
            rintro ⟨status,found,-,transientStatus⟩
            rw [singleStatus_eq single] at found
            cases found
            exact notFirst (by simpa [bulkItemError,transientStatus] using unseen)
          split
          · exact ih _ seen remaining
          · exact ih _ seen remaining
    · exact ⟨_,rfl,rfl⟩

lemma decodeBulkResponse_none (done : decodeBulkResponse body docs = none) (inside : position < docs.length) :
    ∃ items, body = .ok items ∧ ∃ status, items[position]?.bind singleStatus = some status ∧ successStatus status = true := by
  simp only [decodeBulkResponse] at done
  split at done
  · cases done
  rename_i items
  split at done
  · cases done
  rename_i same
  have within : position < items.length := by omega
  have mem : (items[position],docs[position]) ∈ items.zip docs :=
    mem_iff_getElem.mpr ⟨position,by simp; omega,by simp⟩
  obtain ⟨status,found,success⟩ := (scanItems_none _ _ done).2.2 _ mem
  exact ⟨items,rfl,status,by simpa [within] using found,success⟩

lemma decodeBulkResponse_transient (inside : position < docs.length)
    (found : items[position]?.bind singleStatus = some status) (failed : successStatus status = false)
    (class_eq : classifyStatus status = .transient) :
    ∃ err, decodeBulkResponse (.ok items) docs = some err ∧ err.class = .transient := by
  simp only [decodeBulkResponse]
  split
  · exact ⟨_,rfl,rfl⟩
  rename_i same
  have within : position < items.length := by omega
  have mem : (items[position],docs[position]) ∈ items.zip docs :=
    mem_iff_getElem.mpr ⟨position,by simp; omega,by simp⟩
  exact scanItems_transient _ _ (by simp) (.inr ⟨_,mem,status,by simpa [within] using found,failed,class_eq⟩)

lemma bulkIndex_none (done : (bulkIndex base docs answer).2 = none) : AllIndexed docs (bulkIndex base docs answer).1 := by
  intro position inside
  simp only [bulkIndex] at done ⊢
  split at done
  · cases done
  rename_i enabled
  split at done
  · rename_i empty
    rw [isEmpty_iff.mp empty] at inside
    exact absurd inside (Nat.not_lt_zero _)
  split at done
  · cases done
  · rename_i full _ valid
    rw [if_neg enabled,if_neg full]
    cases answered : answer docs with
    | unbuilt cause => simp [answered,BulkAnswer.failure] at done
    | unanswered cause => simp [answered,BulkAnswer.failure] at done
    | response status text body =>
      simp only [answered,BulkAnswer.failure] at done
      split at done
      · rename_i success
        obtain ⟨items,rfl,received⟩ := decodeBulkResponse_none (Option.map_eq_none_iff.mp done) inside
        simpa [BulkAnswer.statusAt,success] using received
      · cases done

lemma bulkIndex_transient (failing : SomeTransient docs (bulkIndex base docs answer).1) :
    ∃ failure, (bulkIndex base docs answer).2 = some failure ∧ errorClassOf failure = .transient := by
  obtain ⟨position,inside,status,received,failed,class_eq⟩ := failing
  simp only [bulkIndex] at received ⊢
  split at received
  · cases received
  rename_i enabled
  split at received
  · cases received
  split at received
  · cases received
  · rename_i full _ valid
    rw [if_neg enabled,if_neg full]
    cases answered : answer docs with
    | unbuilt cause => simp [answered,BulkAnswer.statusAt] at received
    | unanswered cause => simp [answered,BulkAnswer.statusAt] at received
    | response whole text body =>
      simp only [answered,Option.bind_some,BulkAnswer.statusAt] at received
      simp only [BulkAnswer.failure]
      split at received
      · rename_i success
        rw [if_pos success]
        split at received
        · cases received
        · obtain ⟨err,reported,transient⟩ := decodeBulkResponse_transient inside received failed class_eq
          exact ⟨.projection err,by rw [reported]; rfl,transient⟩
      · rename_i refused
        cases received
        rw [if_neg refused]
        exact ⟨_,rfl,class_eq⟩

end SysArmor.Ingest
