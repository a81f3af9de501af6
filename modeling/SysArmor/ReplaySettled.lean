import SysArmor.ReplayedBatches

/-! When a batch can be processed again without adding signals or incidents. A label that is missing
reads as the empty one, so an empty label is common to all items or not, by the item that comes first;
and of several stored items with one id the order of the history decides which one counts. -/
namespace SysArmor.Ingest
open GoText Proto Manager KeyedMerge Analytics List

/-- Processing the batch again, with a history that also contains what the first time gave, leads to the
same addresses. -/
def Processor.Replays (p : Processor) (go : Stdlib) (policy : AgentIdentity → Option Analytics.DetectionPolicy)
    (batch : DataBatch) (history : TouchedScope → ScopeHistory) : Prop :=
  ∀ startedAt again docs after later, p.Projects go policy batch startedAt history docs →
    (∀ scope ∈ scopesOf batch, Extends p.digest docs (batchUpperTime batch again) scope (history scope) (after scope)) →
    p.Projects go policy batch again after later → addresses later = addresses docs

section
variable {p : Processor} {go : Stdlib} {policy : AgentIdentity → Option Analytics.DetectionPolicy}
  {batch : DataBatch} {history : TouchedScope → ScopeHistory}

variable {others views : TouchedScope → View}

lemma addressesOf_subset (agree : ∀ scope ∈ scopesOf batch,
      ((views scope).converges (policy scope.agent) → (others scope).converges (policy scope.agent)) ∧
      ∀ text ∈ (views scope).keyTexts go (policy scope.agent), text ∈ (others scope).keyTexts go (policy scope.agent)) :
    p.addressesOf go policy batch views ⊆ p.addressesOf go policy batch others := by
  rintro pair (own | ⟨scope,listed,⟨text,raised,rfl⟩ | ⟨converges,derived⟩⟩)
  · exact .inl own
  · exact .inr ⟨scope,listed,.inl ⟨text,(agree scope listed).2 text raised,rfl⟩⟩
  · exact .inr ⟨scope,listed,.inr ⟨(agree scope listed).1 converges,derived⟩⟩

structure DistinctIDs (digest : String → String) (known : ScopeHistory) : Prop where
  events : ∀ a ∈ known.1, ∀ b ∈ known.1, eventKey a = eventKey b → (eventKey a).isSome → a = b
  signals : ∀ a ∈ known.2, ∀ b ∈ known.2, signalMergeKey digest a = signalMergeKey digest b →
    (signalMergeKey digest a).isSome → a = b

structure FilledLabels (batch : DataBatch) (scope : Labels) (known : ScopeHistory) : Prop where
  events : ∀ ev ∈ known.1 ++ currentEvents batch scope, ∀ key, ev.labels.lookup key ≠ some ""
  signals : ∀ sig ∈ known.2 ++ currentSignals batch scope, ∀ key, sig.labels.lookup key ≠ some ""

lemma mem_firstMaps (candidate : first ∈ firstMaps events signals) :
    first ∈ labelMaps events signals ∨ labelMaps events signals = [] ∧ first = ∅ := by
  rw [labelMaps_eq]
  rw [firstMaps] at candidate
  split at candidate
  · exact .inl (mem_append_left _ candidate)
  rename_i none
  split at candidate
  · exact .inl (mem_append_right _ candidate)
  rename_i none'
  simp only [ne_eq,not_not] at none none'
  exact .inr ⟨by rw [none,none']; rfl,by simpa using candidate⟩

lemma filled_of_selected (selected : Selected digest batch scope known events signals) (filled : FilledLabels batch scope known)
    (mem : labels ∈ labelMaps events signals) : ∀ key, labels.lookup key ≠ some "" := by
  rw [labelMaps_eq] at mem
  rcases mem_append.mp mem with mem | mem
  · obtain ⟨ev,chosen,rfl⟩ := mem_map.mp (mem_filter.mp mem).1
    exact filled.events ev (selected.events.mem chosen)
  · obtain ⟨sig,chosen,rfl⟩ := mem_map.mp (mem_filter.mp mem).1
    exact filled.signals sig (selected.signals.mem chosen)

lemma Possible.alike (distinct : DistinctIDs digest known) (filled : FilledLabels batch scope known)
    (left : Possible digest rules batch scope known view) (right : Possible digest rules batch scope known other) :
    view.signals.Perm other.signals ∧ view.labels = other.labels := by
  obtain ⟨events,signals,selected,first,candidate,rfl⟩ := left
  obtain ⟨events',signals',selected',first',candidate',rfl⟩ := right
  have order := selected.events.unique selected'.events distinct.events
  have orderSignals := selected.signals.unique selected'.signals distinct.signals
  refine ⟨build_signals_perm orderSignals events events',?_⟩
  have candidate' := (mem_firstMaps_perm order orderSignals first').mpr candidate'
  have maps := commonFrom_congr (mem_labelMaps_perm order orderSignals) first'
  change commonFrom first (labelMaps events signals) = commonFrom first' (labelMaps events' signals')
  rw [← maps]
  rcases mem_firstMaps candidate with here | ⟨none,rfl⟩ <;> rcases mem_firstMaps candidate' with there | ⟨none',rfl⟩
  · exact commonFrom_eq_of_filled here there (filled_of_selected selected filled here)
      (filled_of_selected selected filled there)
  · rw [none'] at here
    cases here
  · rw [none] at there
    cases there
  · rfl

/-- A batch can be processed again without new addresses if no two different stored items of a touched scope
have one id and no item of the scope has an empty label. -/
theorem batch_replays (p : Processor) (go : Stdlib) (lower : ∀ c, go.toLower (go.toLower c) = go.toLower c)
    (policy : AgentIdentity → Option Analytics.DetectionPolicy) (batch : DataBatch) (history : TouchedScope → ScopeHistory)
    (distinct : ∀ scope ∈ scopesOf batch, DistinctIDs p.digest (history scope))
    (filled : ∀ scope ∈ scopesOf batch, FilledLabels batch scope.labels (history scope)) : p.Replays go policy batch history := by
  intro startedAt again docs after later first more second
  obtain ⟨views,possible,addresses⟩ := first.views lower
  obtain ⟨others,possible',addresses'⟩ := second.views lower
  have possible' := fun scope listed => (more scope listed).possible first (possible' scope listed)
  have alike := fun scope listed => Possible.alike (distinct scope listed) (filled scope listed) (possible scope listed)
    (possible' scope listed)
  rw [addresses,addresses']
  refine Set.Subset.antisymm (addressesOf_subset fun scope listed => ?_) (addressesOf_subset fun scope listed => ?_)
  all_goals
    obtain ⟨signals,labels⟩ := alike scope listed
    rw [converges_congr signals,keyTexts_congr signals labels]
    exact ⟨id,fun _ => id⟩

end

/-! A payload was dropped and a reverse shell opened, so that a cloud rule fires. -/

def workloadLabels : Labels := (∅ : Labels).insert "workload" "w"

def droppedBatch (labels : Labels) : DataBatch where
  events := [{ event := some { id := "e1", labels := workloadLabels } },{ event := some { id := "e2", labels } }]
  signals := [{ signal := some { id := "s1", name := "payload_dropped", «where» := .endpoint, labels := workloadLabels } },
    { signal := some { id := "s2", name := "reverse_shell_pattern", «where» := .endpoint, terminal := true
                       labels := workloadLabels } }]

lemma scopesOf_droppedBatch (second : Labels) (selector : analysisSelector second = analysisSelector workloadLabels) :
    scopesOf (droppedBatch second) = [⟨workloadLabels,agentIdentityFromDataBatch (droppedBatch second)⟩] := by
  have named : analysisSelector workloadLabels = workloadLabels := by decide +kernel
  have some : workloadLabels ≠ ∅ := by decide +kernel
  simp [scopesOf,touchedScopes,droppedBatch,touchedScope,selector,named,some,mergeByKey,collect]

lemma workloadLabels_filled (key : String) : workloadLabels.lookup key ≠ some "" := by
  by_cases here : key = "workload"
  · subst here
    simp [workloadLabels]
  · simp [workloadLabels,Finmap.lookup_insert_of_ne _ here]

/-- Without an empty label the batch raises its signals at the same addresses again. -/
theorem droppedBatch_replays : (scopesOf (droppedBatch workloadLabels)).length = 1 ∧
    oneIncidentProcessor.Replays asciiStdlib (fun _ => none) (droppedBatch workloadLabels) fun _ => ([],[]) := by
  refine ⟨by rw [scopesOf_droppedBatch _ rfl]; rfl,batch_replays _ _ asciiLower_asciiLower _ _ _ ?_ ?_⟩
  · exact fun _ _ => ⟨by simp,by simp⟩
  intro scope _
  constructor
  · intro ev mem
    have carried := (mem_filter.mp mem).1
    simp [droppedBatch] at carried
    rcases carried with rfl | rfl <;> exact workloadLabels_filled
  · intro sig mem
    have carried := (mem_filter.mp mem).1
    simp [droppedBatch] at carried
    rcases carried with rfl | rfl <;> exact workloadLabels_filled

def emptyNote : Labels := workloadLabels.insert "note" ""

def droppedScope : TouchedScope := ⟨workloadLabels,agentIdentityFromDataBatch (droppedBatch emptyNote)⟩

/-- The documents when the engine iterates over the merged events in a given order. -/
def droppedDocuments (known : ScopeHistory) (order : List CanonicalEvent → List CanonicalEvent) : List Document :=
  let batch := droppedBatch emptyNote
  let merged := mergeEvents some known.1 (currentEvents batch workloadLabels)
  let signals := mergeSignals id some known.2 (currentSignals batch workloadLabels)
  let analysis := (analyzeWithPolicy asciiStdlib {} (order merged) signals none).2
  batchDocuments id oneIncidentProcessor.times batch (batchUpperTime batch 0) ++
    oneIncidentProcessor.scopeDocuments (batchUpperTime batch 0) droppedScope
      { analysis with incidents := analysis.incidents.map (stampIncident oneIncidentProcessor.times droppedScope merged) }

lemma droppedDocuments_projects (history : TouchedScope → ScopeHistory) {order : List CanonicalEvent → List CanonicalEvent}
    (perm : ∀ events, (order events).Perm events) : oneIncidentProcessor.Projects asciiStdlib (fun _ => none)
      (droppedBatch emptyNote) 0 history (droppedDocuments (history droppedScope) order) := by
  refine ⟨[droppedScope],[_],?_,.cons ⟨{},_,_,_,_,.refl _,.refl _,perm _,.refl _,rfl⟩ .nil,?_⟩
  · rw [scopesOf_droppedBatch emptyNote (by decide +kernel)]
    exact .refl _
  · rw [flatten_singleton]
    rfl

/-- The empty note of the second event is common to all items when that event comes first, and then the
signal has another id. -/
theorem emptyNote_adds_signal : ¬ oneIncidentProcessor.Replays asciiStdlib (fun _ => none) (droppedBatch emptyNote)
    fun _ => ([],[]) := by
  intro replays
  have more (scope : TouchedScope) := extends_append oneIncidentProcessor.digest (droppedDocuments ([],[]) id)
    (batchUpperTime (droppedBatch emptyNote) 0) scope ([],[])
  have equal := replays 0 0 _ _ _ (droppedDocuments_projects (fun _ => ([],[])) fun _ => .refl _) (fun scope _ => more scope)
    (droppedDocuments_projects _ fun events => reverse_perm events)
  have another : ¬ ∀ doc ∈ droppedDocuments ([] ++ readEvents (droppedDocuments ([],[]) id) (batchUpperTime (droppedBatch emptyNote) 0)
        droppedScope,[] ++ readSignals (droppedDocuments ([],[]) id) (batchUpperTime (droppedBatch emptyNote) 0) droppedScope) reverse,
      ∃ other ∈ droppedDocuments ([],[]) id, other.address = doc.address := by decide +kernel
  exact another fun doc mem => equal.subset ⟨doc,mem,rfl⟩

end SysArmor.Ingest
