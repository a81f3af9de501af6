import SysArmor.AnalysisOrder

/-! What the analysis of a touched scope can lead to. The history arrives in some order, the merged
items are iterated in another, and the documents are known by index and id. -/
namespace SysArmor.Ingest
open GoText Proto Manager KeyedMerge Analytics List

section

def Document.address (doc : Document) : String × String := (doc.index,doc.id)
def addresses (docs : List Document) : Set (String × String) := { pair | ∃ doc ∈ docs, doc.address = pair }

lemma addresses_append (front back : List Document) : addresses (front ++ back) = addresses front ∪ addresses back := by
  ext pair
  simp [addresses,or_and_right,exists_or]

def eventKey (ev : CanonicalEvent) : Option String := presentKey ev.id
def signalMergeKey (digest : String → String) (sig : Signal) : Option String := presentKey (signalDocumentID digest sig)

def currentEvents (batch : DataBatch) (scope : Labels) : List CanonicalEvent :=
  (batch.events.filterMap (·.event)).filter fun ev => labelSelectorMatches ev.labels scope

def currentSignals (batch : DataBatch) (scope : Labels) : List Signal :=
  (batch.signals.filterMap (·.signal)).filter fun sig => sig.where = .endpoint && labelSelectorMatches sig.labels scope

abbrev ScopeHistory := List CanonicalEvent × List Signal

/-- The events and signals that the analysis of a scope may be given: of several items of the history
with one id any may be left, and an item of the batch replaces them. -/
structure Selected (digest : String → String) (batch : DataBatch) (scope : Labels) (history : ScopeHistory)
    (events : List CanonicalEvent) (signals : List Signal) : Prop where
  events : Selects eventKey history.1 (currentEvents batch scope) events
  signals : Selects (signalMergeKey digest) history.2 (currentSignals batch scope) signals

def Processor.readScope (p : Processor) (st : Store) (upper : Int) (scope : TouchedScope) : ScopeHistory :=
  p.history st scope.agent.normalized.tenantID scope.labels (upper - 15 * 60 * 1000000000) upper

/-- A processor beside the search index, or a local one. The engine iterates over maps, so it sees the
merged items in some order, and its counters have some values. -/
structure Processor.Runs (p : Processor) (go : Stdlib) (policy : AgentIdentity → Option Analytics.DetectionPolicy) : Prop where
  kind : p.isLocal = false ∨ p.history = storeHistory
  engine : ∀ st agent events signals, ∃ (e : Engine) (iterated : List CanonicalEvent) (iteratedSignals : List Signal),
    iterated.Perm events ∧ iteratedSignals.Perm signals ∧
      p.analyze st agent events signals = (analyzeWithPolicy go e iterated iteratedSignals (policy agent)).2

def Processor.derivedDocuments (p : Processor) (st : Store) (batch : DataBatch) (upper : Int) (scope : TouchedScope) :
    List Document :=
  p.scopeDocuments upper scope (p.analyzeScope st batch upper scope)

def Processor.Derives (p : Processor) (go : Stdlib) (policy : AgentIdentity → Option Analytics.DetectionPolicy)
    (batch : DataBatch) (upper : Int) (scope : TouchedScope) (history : ScopeHistory) (docs : List Document) : Prop :=
  ∃ (e : Engine) (arrived iterated : List CanonicalEvent) (arrivedSignals iteratedSignals : List Signal),
    arrived.Perm history.1 ∧ arrivedSignals.Perm history.2 ∧
    iterated.Perm (mergeEvents some arrived (currentEvents batch scope.labels)) ∧
    iteratedSignals.Perm (mergeSignals p.digest some arrivedSignals (currentSignals batch scope.labels)) ∧
    docs = p.scopeDocuments upper scope { (analyzeWithPolicy go e iterated iteratedSignals (policy scope.agent)).2 with
      incidents := (analyzeWithPolicy go e iterated iteratedSignals (policy scope.agent)).2.incidents.map
        (stampIncident p.times scope (mergeEvents some arrived (currentEvents batch scope.labels))) }

lemma Processor.Runs.derives (runs : Processor.Runs p go policy) (st : Store) (batch : DataBatch) (upper : Int)
    (scope : TouchedScope) :
    p.Derives go policy batch upper scope (p.readScope st upper scope) (p.derivedDocuments st batch upper scope) := by
  obtain ⟨e,events,signals,order,orderSignals,analysis⟩ := runs.engine st scope.agent
    (mergeEvents some (p.readScope st upper scope).1 (currentEvents batch scope.labels))
    (mergeSignals p.digest some (p.readScope st upper scope).2 (currentSignals batch scope.labels))
  refine ⟨e,_,events,_,signals,.refl _,.refl _,order,orderSignals,?_⟩
  rw [← analysis]
  rfl

/-! The addresses of a view. -/

def signalAddress (id : String) : String × String := if id = "" then ("","") else (signalsWriteAlias,id)

def incidentAddressOf (digest : String → String) (scope : TouchedScope) : String :=
  "incident:" ++ digest (scope.agent.normalized.tenantID ++ ":" ++ (labelSelectorKey scope.labels ++ ":incident.v1"))

def viewAddresses (digest : String → String) (go : Stdlib) (policy : Option Analytics.DetectionPolicy) (scope : TouchedScope)
    (view : View) : Set (String × String) :=
  { pair | (∃ text ∈ view.keyTexts go policy, pair = signalAddress (digest text)) ∨ view.converges policy ∧
    (pair = (evidenceWriteAlias,incidentAddressOf digest scope ++ ":evidence") ∨
      pair = (incidentsWriteAlias,incidentAddressOf digest scope)) }

variable {digest : String → String} {scope : TouchedScope} {signals : List Signal} {times : TimeText}
variable {policy : Option Analytics.DetectionPolicy}

lemma signalDocument_address : (signalDocument digest sig).address = signalAddress (signalDocumentID digest sig) := by
  simp only [Document.address,signalDocument,signalDocumentWithID,signalAddress]
  split <;> rfl

lemma incidentDocuments_addresses {number : UInt64} :
    (incidentDocuments digest (stampIncident times scope merged (buildIncident go number signals decision))).map
      Document.address = [(evidenceWriteAlias,incidentAddressOf digest scope ++ ":evidence"),
        (incidentsWriteAlias,incidentAddressOf digest scope)] := by
  have named : (stampIncident times scope merged (buildIncident go number signals decision)).id ≠ "" := by
    simp [stampIncident,buildIncident]
  rw [incidentDocuments,if_neg named,incidentDocumentID_stamped]
  rfl

lemma addresses_map {docs : List Document} {tenantID : String} :
    addresses (docs.map fun doc => decorateDocument doc tenantID upper) = { pair | pair ∈ docs.map Document.address } := by
  ext pair
  simp [addresses,Document.address]

lemma addresses_scopeDocuments {p : Processor} (lower : ∀ c, go.toLower (go.toLower c) = go.toLower c)
    {e : Engine} {events : List CanonicalEvent} :
    addresses (p.scopeDocuments upper scope { (analyzeWithPolicy go e events signals policy).2 with
      incidents := (analyzeWithPolicy go e events signals policy).2.incidents.map (stampIncident times scope merged) }) =
      viewAddresses p.digest go policy scope (build events signals policy) := by
  obtain ⟨decision,incidents⟩ := analyzeWithPolicy_incidents go e events signals policy
  have ids : ((cloudSignals go e.nextSignalID (build events signals policy) policy).2.map (signalDocument p.digest)).map
      Document.address = ((build events signals policy).keyTexts go policy).map fun text => signalAddress (p.digest text) := by
    have hashed := congrArg (List.map signalAddress)
      (cloudSignals_ids lower p.digest (build events signals policy) policy e.nextSignalID)
    rw [map_map,map_map] at hashed
    rw [map_map]
    exact (map_congr_left fun sig _ => signalDocument_address).trans hashed
  rw [Processor.scopeDocuments,addresses_map,incidents,analyzeWithPolicy_cloudSignals,map_append,ids]
  ext pair
  by_cases converges : (build events signals policy).converges policy
  · simp [converges,viewAddresses,incidentDocuments_addresses,eq_comm]
  · simp [converges,viewAddresses,eq_comm]

/-! What the processor can see in a scope. -/

def viewFrom (policy : Option Analytics.DetectionPolicy) (events : List CanonicalEvent) (signals : List Signal) (first : Labels) :
    View :=
  { build events signals policy with labels := commonFrom first (labelMaps events signals) }

lemma viewAddresses_congr {view other : View} (same : view.signals.Perm other.signals) (labels : view.labels = other.labels) :
    viewAddresses digest go policy scope view = viewAddresses digest go policy scope other := by
  simp only [viewAddresses,keyTexts_congr same labels,converges_congr same]

lemma build_signals_perm (order : signals.Perm others) (events otherEvents : List CanonicalEvent) :
    (build events signals policy).signals.Perm (build otherEvents others policy).signals :=
  order.filter _

def Possible (digest : String → String) (policy : Option Analytics.DetectionPolicy) (batch : DataBatch) (scope : Labels)
    (history : ScopeHistory) (view : View) : Prop :=
  ∃ events signals, Selected digest batch scope history events signals ∧
    ∃ first ∈ firstMaps events signals, view = viewFrom policy events signals first

section
variable {p : Processor} {go : Stdlib} {policy : AgentIdentity → Option Analytics.DetectionPolicy} {history : ScopeHistory}
  {batch : DataBatch} {scope : TouchedScope} {upper : Int}

lemma Processor.Derives.possible (lower : ∀ c, go.toLower (go.toLower c) = go.toLower c)
    (derives : p.Derives go policy batch upper scope history docs) :
    ∃ view, Possible p.digest (policy scope.agent) batch scope.labels history view ∧
      addresses docs = viewAddresses p.digest go (policy scope.agent) scope view := by
  obtain ⟨e,arrived,iterated,arrivedSignals,iteratedSignals,reads,readsSignals,order,orderSignals,rfl⟩ := derives
  obtain ⟨first,candidate,labels⟩ := exists_commonLabels iterated iteratedSignals
  refine ⟨_,⟨iterated,iteratedSignals,⟨selects_mergeByKey reads order,selects_mergeByKey readsSignals orderSignals⟩,first,
    candidate,rfl⟩,?_⟩
  rw [addresses_scopeDocuments lower]
  exact viewAddresses_congr (.refl _) labels

end
end

/-! Processing a batch again. The second time its own documents are part of the history. They are
replaced by the items of the batch, so both times the same views are possible; whether the same
documents come out is a matter of the views alone. -/

/-! Reading documents back. -/

def Document.observed (doc : Document) (tenantID : String) (lower upper : Int) : Bool :=
  doc.tenantId = tenantID && lower ≤ doc.timestamp && doc.timestamp ≤ upper

def Document.event? (doc : Document) : Option CanonicalEvent :=
  match doc.body with
  | some (.event ev) => some { ev with tenantId := doc.tenantId }
  | _ => none

def Document.endpointSignal? (doc : Document) : Option Signal :=
  match doc.body with
  | some (.signal sig) => if sig.where = .endpoint then some sig else none
  | _ => none

def readEvents (docs : List Document) (upper : Int) (scope : TouchedScope) : List CanonicalEvent :=
  ((docs.filter fun doc => doc.observed scope.agent.normalized.tenantID (upper - 15 * 60 * 1000000000) upper).filterMap
    Document.event?).filter fun ev => labelSelectorMatches ev.labels scope.labels

def readSignals (docs : List Document) (upper : Int) (scope : TouchedScope) : List Signal :=
  ((docs.filter fun doc => doc.observed scope.agent.normalized.tenantID (upper - 15 * 60 * 1000000000) upper).filterMap
    Document.endpointSignal?).filter fun sig => labelSelectorMatches sig.labels scope.labels

structure Extends (digest : String → String) (docs : List Document) (upper : Int) (scope : TouchedScope)
    (before after : ScopeHistory) : Prop where
  events : ∀ ev ∈ after.1, ev ∈ before.1 ∨ ev ∈ readEvents docs upper scope
  signals : ∀ sig ∈ after.2, sig ∈ before.2 ∨ sig ∈ readSignals docs upper scope
  contains : ∀ ev ∈ readEvents docs upper scope, ∃ stored ∈ after.1, stored.id = ev.id
  containsSignals : ∀ sig ∈ readSignals docs upper scope, ∃ stored ∈ after.2, stored.id = sig.id
  keeps : ∀ ev ∈ before.1, ev ∈ after.1 ∨ ∃ other ∈ readEvents docs upper scope, other.id = ev.id
  keepsSignals : ∀ sig ∈ before.2, sig ∈ after.2 ∨
    ∃ other ∈ readSignals docs upper scope, signalDocumentID digest other = signalDocumentID digest sig

lemma extends_append (digest : String → String) (docs : List Document) (upper : Int) (scope : TouchedScope)
    (old : ScopeHistory) : Extends digest docs upper scope old
      (old.1 ++ readEvents docs upper scope,old.2 ++ readSignals docs upper scope) where
  events _ mem := mem_append.mp mem
  signals _ mem := mem_append.mp mem
  contains ev mem := ⟨ev,mem_append_right _ mem,rfl⟩
  containsSignals sig mem := ⟨sig,mem_append_right _ mem,rfl⟩
  keeps _ mem := .inl (mem_append_left _ mem)
  keepsSignals _ mem := .inl (mem_append_left _ mem)

/-! The documents of a batch. -/

def scopesOf (batch : DataBatch) : List TouchedScope := touchedScopes (agentIdentityFromDataBatch batch) batch

def Processor.Projects (p : Processor) (go : Stdlib) (policy : AgentIdentity → Option Analytics.DetectionPolicy)
    (batch : DataBatch) (startedAt : Int) (history : TouchedScope → ScopeHistory) (docs : List Document) : Prop :=
  ∃ (order : List TouchedScope) (derived : List (List Document)), order.Perm (scopesOf batch) ∧
    List.Forall₂ (fun scope part => p.Derives go policy batch (batchUpperTime batch startedAt) scope (history scope) part)
      order derived ∧
    docs = batchDocuments p.digest p.times batch (batchUpperTime batch startedAt) ++ derived.flatten

section
variable {p : Processor} {go : Stdlib} {policy : AgentIdentity → Option Analytics.DetectionPolicy}
  {batch : DataBatch} {upper : Int}

lemma listSignals_replaceDerived {st : Store} {cloud : List Signal} (layers : ∀ sig ∈ cloud, sig.where = .cloud)
    {scope labels : Labels} {incidents : List Incident} :
    (st.replaceDerivedForLabels scope cloud incidents).listSignals labels "endpoint" = st.listSignals labels "endpoint" := by
  have none : cloud.filter (fun sig => labelSelectorMatches sig.labels labels && ("endpoint" = "" || layerName sig.where = "endpoint")) =
      [] := by
    rw [filter_eq_nil_iff]
    intro sig mem
    simp [layers sig mem,layerName]
  simp only [Store.listSignals,Store.replaceDerivedForLabels,filter_append,none,append_nil,filter_filter]
  refine filter_congr fun sig _ => ?_
  cases sig.where <;> simp [layerName]

lemma Processor.Runs.steady (runs : p.Runs go policy) {scope other : TouchedScope} :
    p.readScope (p.storeDerived st scope (p.analyzeScope st batch upper scope)) upper other = p.readScope st upper other := by
  rcases runs.kind with remote | own
  · simp [Processor.storeDerived,remote]
  obtain ⟨e,events,signals,-,-,analysis⟩ := runs.engine st scope.agent
    (mergeEvents some (p.readScope st upper scope).1 (currentEvents batch scope.labels))
    (mergeSignals p.digest some (p.readScope st upper scope).2 (currentSignals batch scope.labels))
  have layers : ∀ sig ∈ (p.analyzeScope st batch upper scope).cloudSignals, sig.where = .cloud := by
    intro sig mem
    have cloud : (p.analyzeScope st batch upper scope).cloudSignals =
        (analyzeWithPolicy go e events signals (policy scope.agent)).2.cloudSignals := by
      rw [← analysis]
      rfl
    rw [cloud,analyzeWithPolicy_cloudSignals] at mem
    exact cloudSignals_where mem
  simp only [Processor.readScope,own,storeHistory,Processor.storeDerived]
  split
  · rw [listSignals_replaceDerived layers]
    rfl
  · rfl

lemma Processor.Runs.recompute (runs : p.Runs go policy) {calls : ProcessCalls ε} (reads : ∀ labels, calls.history labels = none)
    (batch : DataBatch) (upper : Int) (scopes : List TouchedScope) (st : Store) :
    ∃ (last : Store) (result : Derived) (derived : List (List Document)),
      p.recomputeTouchedScopes calls batch upper scopes st = (last,.ok result) ∧ result.documents = derived.flatten ∧
        List.Forall₂ (fun scope part => p.Derives go policy batch upper scope (p.readScope st upper scope) part) scopes derived := by
  induction scopes generalizing st with
  | nil => exact ⟨st,{},[],rfl,rfl,.nil⟩
  | cons scope scopes ih =>
    obtain ⟨last,result,derived,run,documents,parts⟩ :=
      ih (p.storeDerived st scope (p.analyzeScope st batch upper scope))
    simp only [runs.steady] at parts
    let analysis := p.analyzeScope st batch upper scope
    refine ⟨last,{
      cloudSignals := analysis.cloudSignals.length + result.cloudSignals
      incidents := analysis.incidents.length + result.incidents
      documents := p.derivedDocuments st batch upper scope ++ result.documents },
      p.derivedDocuments st batch upper scope :: derived,?_,?_,.cons (runs.derives st batch upper scope) parts⟩
    · simp only [Processor.recomputeTouchedScopes,reads,run]
      rfl
    · rw [flatten_cons,← documents]

/-- The documents of a batch are those that the engine derives from the history. -/
theorem Processor.Runs.projects (runs : p.Runs go policy) (calls : ProcessCalls ε) (reads : ∀ labels, calls.history labels = none)
    {st : Store} : p.Projects go policy batch calls.startedAt
      (p.readScope (p.addBatch (st.addAgent (agentIdentityFromDataBatch batch)) batch) (batchUpperTime batch calls.startedAt))
      (p.projected calls st batch) := by
  obtain ⟨last,result,derived,run,documents,parts⟩ := runs.recompute reads batch
    (batchUpperTime batch calls.startedAt) (scopesOf batch) (p.addBatch (st.addAgent (agentIdentityFromDataBatch batch)) batch)
  refine ⟨_,derived,.refl _,parts,?_⟩
  have outcome : p.derive calls st batch = (last,.ok result) := run
  simp only [Processor.projected,outcome,Processor.documents,documents]

end

def engineProcessor : Processor :=
  { oneIncidentProcessor with analyze := fun _ _ events signals => (analyzeWithPolicy asciiStdlib {} events signals none).2 }

theorem engineProcessor_projects : ∃ history, engineProcessor.Projects asciiStdlib (fun _ => none) (scopedBatch "red" "a") 0
    history (engineProcessor.projected ({} : ProcessCalls String) {} (scopedBatch "red" "a")) := by
  have runs : engineProcessor.Runs asciiStdlib fun _ => none := ⟨.inr rfl,fun _ _ _ _ => ⟨{},_,_,.refl _,.refl _,rfl⟩⟩
  exact ⟨_,runs.projects {} fun _ => rfl⟩

/-! Where the documents lie. -/

def Processor.batchAddresses (p : Processor) (batch : DataBatch) : Set (String × String) :=
  addresses (batchDocuments p.digest p.times batch 0)

def Processor.addressesOf (p : Processor) (go : Stdlib) (policy : AgentIdentity → Option Analytics.DetectionPolicy)
    (batch : DataBatch) (views : TouchedScope → View) : Set (String × String) :=
  p.batchAddresses batch ∪
    { pair | ∃ scope ∈ scopesOf batch, pair ∈ viewAddresses p.digest go (policy scope.agent) scope (views scope) }

section
variable {p : Processor} {go : Stdlib} {policy : AgentIdentity → Option Analytics.DetectionPolicy}
  {batch : DataBatch} {upper : Int} {history : TouchedScope → ScopeHistory}

lemma addresses_eq {docs : List Document} : addresses docs = { pair | pair ∈ docs.map Document.address } := by
  ext pair
  simp [addresses]

lemma mem_batchDocuments (mem : doc ∈ batchDocuments digest times batch upper) :
    (doc.index = eventsWriteAlias ∧ ∃ ev ∈ batch.events.filterMap (·.event), doc.body = some (.event ev)) ∨
      doc.index = signalsWriteAlias ∧ ∃ sig ∈ batch.signals.filterMap (·.signal), doc.body = some (.signal sig) := by
  rcases mem_append.mp mem with mem | mem
  · obtain ⟨frame,listed,document⟩ := mem_filterMap.mp mem
    obtain ⟨ev,carried,document⟩ := Option.bind_eq_some_iff.mp document
    split at document
    · cases document
    · cases document
      exact .inl ⟨by simp,ev,mem_filterMap.mpr ⟨frame,listed,carried⟩,by simp⟩
  · obtain ⟨frame,listed,document⟩ := mem_filterMap.mp mem
    obtain ⟨sig,carried,document⟩ := Option.bind_eq_some_iff.mp document
    dsimp only at document
    split at document
    · cases document
    rename_i present
    cases document
    refine .inr ⟨?_,sig,mem_filterMap.mpr ⟨frame,listed,carried⟩,?_⟩ <;>
      · simp only [batchSignalDocument,signalDocument] at present ⊢
        split at present
        · rename_i layer
          rw [if_pos layer,signalDocumentWithID_of_id present]
          simp
        rename_i layer
        rw [if_neg layer,signalDocumentWithID_of_id present]
        simp

lemma addresses_batchDocuments : addresses (batchDocuments p.digest p.times batch upper) = p.batchAddresses batch := by
  have events (upper : Int) (frame : EventFrame) : (eventFrameDocument p.times batch upper frame).map Document.address =
      (eventFrameDocument p.times batch 0 frame).map Document.address := by
    cases carried : frame.event with
    | none => simp [eventFrameDocument,carried]
    | some ev => by_cases empty : ev.id = "" <;> simp [eventFrameDocument,carried,empty,Document.address]
  have signals (upper : Int) (frame : SignalFrame) : (signalFrameDocument p.digest p.times batch upper frame).map Document.address =
      (signalFrameDocument p.digest p.times batch 0 frame).map Document.address := by
    cases carried : frame.signal with
    | none => simp [signalFrameDocument,carried]
    | some sig =>
      by_cases empty : (batchSignalDocument p.digest sig batch.getHeader.tenantId batch.getHeader.agentId).id = "" <;>
        simp [signalFrameDocument,carried,empty,Document.address]
  simp only [Processor.batchAddresses,addresses_eq,batchDocuments,map_append,map_filterMap,events,signals]

lemma Processor.Derives.unread (derives : p.Derives go policy batch upper scope known docs) (mem : doc ∈ docs) :
    doc.event? = none ∧ doc.endpointSignal? = none := by
  obtain ⟨e,arrived,iterated,arrivedSignals,iteratedSignals,-,-,-,-,rfl⟩ := derives
  obtain ⟨plain,listed,rfl⟩ := mem_map.mp mem
  simp only [Document.event?,Document.endpointSignal?,decorateDocument_body]
  rcases mem_append.mp listed with listed | listed
  · obtain ⟨sig,cloud,rfl⟩ := mem_map.mp listed
    rw [analyzeWithPolicy_cloudSignals] at cloud
    have layer := cloudSignals_where cloud
    by_cases blank : signalDocumentID p.digest sig = "" <;> simp [signalDocument,signalDocumentWithID,blank,layer]
  · obtain ⟨inc,-,listed⟩ := mem_flatMap.mp listed
    simp only [incidentDocuments] at listed
    split at listed
    · cases listed
    split at listed <;> simp only [mem_cons,not_mem_nil,or_false] at listed
    · exact listed ▸ ⟨rfl,rfl⟩
    · rcases listed with rfl | rfl <;> exact ⟨rfl,rfl⟩

lemma mem_of_forall₂ {relation : α → β → Prop} (pairs : List.Forall₂ relation items parts) (mem : part ∈ parts) :
    ∃ item ∈ items, relation item part := by
  induction pairs with
  | nil => cases mem
  | cons related _ ih =>
    rcases mem_cons.mp mem with rfl | mem
    · exact ⟨_,mem_cons_self,related⟩
    · obtain ⟨item,listed,related⟩ := ih mem
      exact ⟨item,mem_cons_of_mem _ listed,related⟩

section
variable (projects : p.Projects go policy batch startedAt history docs)
include projects

lemma Processor.Projects.batch_doc (mem : doc ∈ docs) (read : doc.event?.isSome ∨ doc.endpointSignal?.isSome) :
    doc ∈ batchDocuments p.digest p.times batch (batchUpperTime batch startedAt) := by
  obtain ⟨order,derived,-,parts,rfl⟩ := projects
  rcases mem_append.mp mem with mem | mem
  · exact mem
  obtain ⟨part,listed,mem⟩ := mem_flatten.mp mem
  obtain ⟨scope,-,derives⟩ := mem_of_forall₂ parts listed
  obtain ⟨none,none'⟩ := derives.unread mem
  simp [none,none'] at read

lemma Processor.Projects.readEvents
    (mem : ev ∈ readEvents docs upper scope) : ∃ own ∈ currentEvents batch scope.labels, eventKey own = eventKey ev := by
  obtain ⟨mem,inScope⟩ := mem_filter.mp mem
  obtain ⟨doc,stored,read⟩ := mem_filterMap.mp mem
  rcases mem_batchDocuments (projects.batch_doc (mem_filter.mp stored).1 (.inl (by simp [read]))) with
    ⟨-,own,carried,body⟩ | ⟨-,sig,-,body⟩
  · rw [Document.event?,body] at read
    cases read
    exact ⟨own,mem_filter.mpr ⟨carried,inScope⟩,rfl⟩
  · simp [Document.event?,body] at read

lemma Processor.Projects.readSignals
    (mem : sig ∈ readSignals docs upper scope) : sig ∈ currentSignals batch scope.labels := by
  obtain ⟨mem,inScope⟩ := mem_filter.mp mem
  obtain ⟨doc,stored,read⟩ := mem_filterMap.mp mem
  rcases mem_batchDocuments (projects.batch_doc (mem_filter.mp stored).1 (.inr (by simp [read]))) with
    ⟨-,ev,-,body⟩ | ⟨-,own,carried,body⟩
  · simp [Document.endpointSignal?,body] at read
  rw [Document.endpointSignal?,body] at read
  dsimp only at read
  split at read
  · rename_i layer
    cases read
    exact mem_filter.mpr ⟨carried,by simp [layer,inScope]⟩
  · cases read

end

lemma Extends.possible {after} (more : Extends p.digest docs upper scope old after)
    (projects : p.Projects go policy batch startedAt history docs) :
    Possible p.digest rules batch scope.labels after view → Possible p.digest rules batch scope.labels old view := by
  have added : ∀ ev ∈ after.1, ev ∈ old.1 ∨ ∃ own ∈ currentEvents batch scope.labels, eventKey own = eventKey ev :=
    fun ev mem => (more.events ev mem).imp_right projects.readEvents
  have addedSignals : ∀ sig ∈ after.2, sig ∈ old.2 ∨
      ∃ own ∈ currentSignals batch scope.labels, signalMergeKey p.digest own = signalMergeKey p.digest sig :=
    fun sig mem => (more.signals sig mem).imp_right fun read => ⟨sig,projects.readSignals read,rfl⟩
  have lost : ∀ ev ∈ old.1, ev ∈ after.1 ∨ ∃ own ∈ currentEvents batch scope.labels, eventKey own = eventKey ev := by
    refine fun ev mem => (more.keeps ev mem).imp_right ?_
    rintro ⟨other,read,same⟩
    obtain ⟨own,current,key⟩ := projects.readEvents read
    exact ⟨own,current,key.trans (congrArg presentKey same)⟩
  have lostSignals : ∀ sig ∈ old.2, sig ∈ after.2 ∨
      ∃ own ∈ currentSignals batch scope.labels, signalMergeKey p.digest own = signalMergeKey p.digest sig := by
    refine fun sig mem => (more.keepsSignals sig mem).imp_right ?_
    rintro ⟨other,read,same⟩
    exact ⟨other,projects.readSignals read,congrArg presentKey same⟩
  rintro ⟨events,signals,selected,rest⟩
  exact ⟨events,signals,⟨selected.events.extend added lost,selected.signals.extend addedSignals lostSignals⟩,rest⟩

lemma scopesOf_nodup : (scopesOf batch).Nodup :=
  mergeByKey_pairwise.imp fun differ same => differ (by rw [same])

section
variable (lower : ∀ c, go.toLower (go.toLower c) = go.toLower c)
include lower

lemma Processor.Projects.views
    (projects : p.Projects go policy batch startedAt history docs) : ∃ views : TouchedScope → View, (∀ scope ∈ scopesOf batch,
      Possible p.digest (policy scope.agent) batch scope.labels (history scope) (views scope)) ∧
        addresses docs = p.addressesOf go policy batch views := by
  classical
  obtain ⟨order,derived,perm,parts,rfl⟩ := projects
  have nodup : order.Nodup := perm.nodup_iff.mpr (scopesOf_nodup)
  have chosen : ∃ views : TouchedScope → View, (∀ scope ∈ order,
      Possible p.digest (policy scope.agent) batch scope.labels (history scope) (views scope)) ∧ addresses derived.flatten =
        { pair | ∃ scope ∈ order, pair ∈ viewAddresses p.digest go (policy scope.agent) scope (views scope) } := by
    clear perm
    induction parts with
    | nil => exact ⟨fun _ => ⟨[],∅⟩,by simp,by simp [addresses]⟩
    | @cons scope part order derived derives _ ih =>
      rw [nodup_cons] at nodup
      obtain ⟨views,possible,same⟩ := ih nodup.2
      obtain ⟨view,here,there⟩ := derives.possible lower
      have other : ∀ later ∈ order, Function.update views scope view later = views later := fun later listed =>
        Function.update_of_ne (fun again : later = scope => nodup.1 (again ▸ listed)) _ _
      refine ⟨Function.update views scope view,?_,?_⟩
      · intro later listed
        rcases mem_cons.mp listed with rfl | listed
        · rw [Function.update_self]
          exact here
        · rw [other later listed]
          exact possible later listed
      · rw [flatten_cons,addresses_append,same,there]
        ext pair
        simp only [Set.mem_union,Set.mem_ofPred_eq,mem_cons,exists_eq_or_imp,Function.update_self]
        refine or_congr Iff.rfl (exists_congr fun later => and_congr_right fun listed => ?_)
        rw [other later listed]
  obtain ⟨views,possible,same⟩ := chosen
  refine ⟨views,fun scope listed => possible scope (perm.mem_iff.mpr listed),?_⟩
  rw [addresses_append,addresses_batchDocuments,same,Processor.addressesOf]
  simp only [perm.mem_iff]

end

end

end SysArmor.Ingest
