import SysArmor.ScopeConflicts

/-! A store shared by tenants, as one of them sees it. The batches of a run are split into those of a
tenant and those of others. As long as the two sides use conflicting scopes and no common ids, the
store holds what the tenant's batches alone would have put into it, with rows of others in between
that no listing of the tenant's scopes reads. -/
namespace SysArmor.Ingest
open GoText Proto Manager Analytics KeyedMerge Rows List

def batchEvents (batch : DataBatch) : List CanonicalEvent := batch.events.filterMap (·.event)
def batchSignals (batch : DataBatch) : List Signal := batch.signals.filterMap (·.signal)
def eventsIn (batches : List DataBatch) : List CanonicalEvent := batches.flatMap batchEvents
def signalsIn (batches : List DataBatch) : List Signal := batches.flatMap batchSignals

/-- Two sides whose batches have nothing in common: they are in conflicting scopes, no event of the
one has the id of an event of the other, no signal the store key of another's, and no signal name of
the others is weighed for an incident of the own side. -/
structure Separate (digest : String → String) (own other : List DataBatch) : Prop where
  scopes : ∀ scope ∈ scopesIn own, ∀ foreign ∈ scopesIn other, Conflict scope foreign
  events : ∀ ev ∈ eventsIn own, ∀ foreign ∈ eventsIn other, ev.id ≠ "" → foreign.id ≠ ev.id
  signals : ∀ sig ∈ signalsIn own, ∀ foreign ∈ signalsIn other, signalKey digest foreign ≠ signalKey digest sig
  names : ∀ foreign ∈ signalsIn other, rarityName foreign ≠ "" →
    rarityName foreign ∉ cloudRuleNames ∧ ∀ sig ∈ signalsIn own, rarityName foreign ≠ rarityName sig

def Raised (batches : List DataBatch) (sig : Signal) : Prop :=
  sig ∈ signalsIn batches ∨ sig.where = .cloud ∧ ∃ scope ∈ scopesIn batches, labelSelectorMatches sig.labels scope

def Unclaimed (digest : String → String) (scopes : List Labels) (st : Store) (batch : DataBatch) : Prop :=
  ∀ sig ∈ batchSignals batch, ∀ existing ∈ st.signals, existing.where = .cloud →
    (∃ scope ∈ scopes, labelSelectorMatches existing.labels scope) → signalKey digest existing ≠ signalKey digest sig

lemma mem_scopesIn : scope ∈ scopesIn batches ↔
    ∃ batch ∈ batches, ∃ labels ∈ itemLabels batch, analysisSelector labels = scope ∧ scope ≠ ∅ := by
  simp only [scopesIn,mem_filter,mem_map,mem_flatMap,decide_eq_true_eq]
  constructor
  · rintro ⟨⟨labels,⟨batch,listed,mem⟩,rfl⟩,some⟩
    exact ⟨batch,listed,labels,mem,rfl,some⟩
  · rintro ⟨batch,listed,labels,mem,rfl,some⟩
    exact ⟨⟨labels,⟨batch,listed,mem⟩,rfl⟩,some⟩

lemma event_labels_mem (mem : ev ∈ batchEvents batch) : ev.labels ∈ itemLabels batch := by
  obtain ⟨frame,listed,event⟩ := mem_filterMap.mp mem
  refine mem_append_left _ (mem_map.mpr ⟨frame,listed,?_⟩)
  simp [event]

lemma signal_labels_mem (mem : sig ∈ batchSignals batch) : sig.labels ∈ itemLabels batch := by
  obtain ⟨frame,listed,signal⟩ := mem_filterMap.mp mem
  refine mem_append_right _ (mem_map.mpr ⟨frame,listed,?_⟩)
  simp [signal]

section
variable {own other : List DataBatch} (apart : ∀ scope ∈ scopesIn own, ∀ foreign ∈ scopesIn other, Conflict scope foreign)
include apart

lemma scopes_apart_symm : ∀ scope ∈ scopesIn other, ∀ foreign ∈ scopesIn own, Conflict scope foreign :=
  fun _ foreign _ mem => (apart _ mem _ foreign).symm

lemma labels_avoid (listed : batch ∈ own) (mem : labels ∈ itemLabels batch) (foreign : scope ∈ scopesIn other) :
    labelSelectorMatches labels scope = false := by
  obtain ⟨-,-,more,-,rfl,nonempty⟩ := mem_scopesIn.mp foreign
  exact item_avoids nonempty fun some => apart _ (mem_scopesIn.mpr ⟨batch,listed,labels,mem,rfl,some⟩) _ foreign

lemma raised_avoids (raised : Raised own sig) (foreign : scope ∈ scopesIn other) : labelSelectorMatches sig.labels scope = false := by
  rcases raised with mem | ⟨-,inside,listed,here⟩
  · obtain ⟨batch,listed,within⟩ := mem_flatMap.mp mem
    exact labels_avoid apart listed (signal_labels_mem within) foreign
  · have conflict := apart inside listed scope foreign
    obtain ⟨-,-,source,-,rfl,-⟩ := mem_scopesIn.mp listed
    obtain ⟨-,-,second,-,rfl,-⟩ := mem_scopesIn.mp foreign
    exact conflict.not_both here

end

namespace Separate
variable {digest : String → String} {own other : List DataBatch} (separate : Separate digest own other)
include separate

lemma other_event_avoids (mem : ev ∈ eventsIn other) (inside : scope ∈ scopesIn own) :
    labelSelectorMatches ev.labels scope = false := by
  obtain ⟨batch,listed,within⟩ := mem_flatMap.mp mem
  exact labels_avoid (scopes_apart_symm separate.scopes) listed (event_labels_mem within) inside

lemma not_raised_by_others (mem : sig ∈ signalsIn own) : ¬ Raised other sig := by
  rintro (foreign | ⟨-,scope,listed,there⟩)
  · exact separate.signals sig mem sig foreign rfl
  · simp [raised_avoids separate.scopes (.inl mem) listed] at there

end Separate

/-- The store without the rows of others is `seen`, what the tenant's batches alone lead to. -/
structure Sees (tenant : String) (own other : List DataBatch) (seen st : Store) : Prop where
  events : Hides (· ∈ eventsIn other) seen.events st.events
  ownEvents : ∀ ev ∈ seen.events, ev ∈ eventsIn own
  signals : Hides (Raised other) seen.signals st.signals
  ownSignals : ∀ sig ∈ seen.signals, Raised own sig
  incidents : Hides (fun inc => inc.tenantId ≠ tenant) seen.incidents st.incidents
  ownIncidents : ∀ inc ∈ seen.incidents, inc.tenantId = tenant ∧ ∀ scope ∈ scopesIn other, labelSelectorMatches inc.labels scope = false
  policies : seen.policies = st.policies
  assignments : seen.assignments = st.assignments
  health : seen.health = st.health
  backend : seen.backend = st.backend

structure SameTelemetry (st st' : Store) : Prop where
  events : st.events = st'.events
  signals : st.signals = st'.signals
  incidents : st.incidents = st'.incidents
  policies : st.policies = st'.policies
  assignments : st.assignments = st'.assignments
  health : st.health = st'.health
  backend : st.backend = st'.backend

lemma sameTelemetry_addAgent (st : Store) (agent : AgentIdentity) : SameTelemetry st (st.addAgent agent) := by
  simp only [Store.addAgent]
  split <;> constructor <;> rfl

lemma sameTelemetry_persist {st : Store} (memory : st.backend = none) (calls : ProcessCalls ε) (batch : DataBatch)
    (results : List ScopeResult) : SameTelemetry st (LocalProcessor.persist calls batch results st) := by
  simp only [LocalProcessor.persist,Store.save]
  split <;> constructor <;> simp [Store.recordDataBatchIngest,memory]

lemma mem_upsert {hit : α → Bool} (mem : row ∈ upsert hit (fun _ => fresh) fresh rows) : row ∈ rows ∨ row = fresh := by
  rw [upsert] at mem
  split at mem
  · rcases mem_updateFirst mem with old | ⟨-,-,rfl⟩
    · exact .inl old
    · exact .inr rfl
  · simpa using mem

section
variable {tenant : String} {digest : String → String} {own other : List DataBatch} {seen st : Store}
  {evs : List CanonicalEvent} {sigs : List Signal} {incs : List Incident}

section
variable (sees : Sees tenant own other seen st)
include sees

lemma Sees.congr (first : SameTelemetry seen seen') (second : SameTelemetry st st') : Sees tenant own other seen' st' where
  events := first.events ▸ second.events ▸ sees.events
  ownEvents := first.events ▸ sees.ownEvents
  signals := first.signals ▸ second.signals ▸ sees.signals
  ownSignals := first.signals ▸ sees.ownSignals
  incidents := first.incidents ▸ second.incidents ▸ sees.incidents
  ownIncidents := first.incidents ▸ sees.ownIncidents
  policies := first.policies.symm.trans (sees.policies.trans second.policies)
  assignments := first.assignments.symm.trans (sees.assignments.trans second.assignments)
  health := first.health.symm.trans (sees.health.trans second.health)
  backend := first.backend.symm.trans (sees.backend.trans second.backend)

lemma Sees.addSignal (mem : sig ∈ signalsIn own)
    (clear : ∀ existing ∈ st.signals, Raised other existing → signalKey digest existing ≠ signalKey digest sig) :
    Sees tenant own other (seen.addSignal digest sig) (st.addSignal digest sig) := by
  refine { sees with signals := ?_, ownSignals := ?_ }
  · refine sees.signals.upsert_own (fun row inside foreign => ?_) _ _
    simp [clear row inside foreign]
  intro row inside
  rcases mem_upsert inside with old | rfl
  · exact sees.ownSignals row old
  · exact .inl mem

lemma Sees.addOtherSignal (mem : sig ∈ signalsIn other)
    (clear : ∀ existing ∈ seen.signals, signalKey digest existing ≠ signalKey digest sig) :
    Sees tenant own other seen (st.addSignal digest sig) := by
  refine { sees with signals := sees.signals.upsert_others (fun row inside => ?_) (fun _ => .inl mem) (.inl mem) }
  simp [clear row inside]

lemma Sees.addOtherSignals (members : ∀ sig ∈ sigs, sig ∈ signalsIn other)
    (clear : ∀ sig ∈ sigs, ∀ existing ∈ seen.signals, signalKey digest existing ≠ signalKey digest sig) :
    Sees tenant own other seen (sigs.foldl (Store.addSignal digest) st) := by
  induction sigs generalizing st with
  | nil => exact sees
  | cons sig sigs ih =>
    exact ih (sees.addOtherSignal (members sig mem_cons_self) (clear sig mem_cons_self))
      (fun sig mem => members sig (mem_cons_of_mem _ mem)) fun sig mem => clear sig (mem_cons_of_mem _ mem)

lemma Sees.replaceDerived (scope : Labels) (cloud : ∀ sig ∈ sigs, Raised own sig)
    (derived : ∀ inc ∈ incs, inc.tenantId = tenant ∧ ∀ foreign ∈ scopesIn other, labelSelectorMatches inc.labels foreign = false) :
    Sees tenant own other (seen.replaceDerivedForLabels scope sigs incs) (st.replaceDerivedForLabels scope sigs incs) := by
  refine { sees with
    signals := (sees.signals.filter _).append (.refl _)
    ownSignals := ?_
    incidents := (sees.incidents.filter _).append (.refl _)
    ownIncidents := ?_ }
  · intro sig inside
    rcases mem_append.mp inside with kept | new
    · exact sees.ownSignals sig (mem_filter.mp kept).1
    · exact cloud sig new
  · intro inc inside
    rcases mem_append.mp inside with kept | new
    · exact sees.ownIncidents inc (mem_filter.mp kept).1
    · exact derived inc new

end

variable (separate : Separate digest own other)
include separate

section
variable (sees : Sees tenant own other seen st)
include sees

lemma Sees.addEvent (mem : ev ∈ eventsIn own) : Sees tenant own other (seen.addEvent ev) (st.addEvent ev) := by
  refine { sees with events := ?_, ownEvents := ?_ }
  · refine sees.events.upsert_own (fun row _ foreign => ?_) _ _
    by_cases bare : ev.id = ""
    · simp [bare]
    · simp [bare,separate.events ev mem row foreign bare]
  · intro row inside
    rcases mem_upsert inside with old | rfl
    · exact sees.ownEvents row old
    · exact mem

lemma Sees.addOtherEvent (mem : ev ∈ eventsIn other) : Sees tenant own other seen (st.addEvent ev) := by
  refine { sees with events := sees.events.upsert_others (fun row inside => ?_) (fun _ => mem) mem }
  by_cases bare : ev.id = ""
  · simp [bare]
  have differs := separate.events row (sees.ownEvents row inside) ev mem
  by_cases blank : row.id = ""
  · simp [blank,Ne.symm bare]
  · simp [Ne.symm (differs blank)]

lemma Sees.addEvents (members : ∀ ev ∈ evs, ev ∈ eventsIn own) :
    Sees tenant own other (evs.foldl Store.addEvent seen) (evs.foldl Store.addEvent st) := by
  induction evs generalizing seen st with
  | nil => exact sees
  | cons ev evs ih =>
    exact ih (sees.addEvent separate (members ev mem_cons_self)) fun ev mem => members ev (mem_cons_of_mem _ mem)

lemma Sees.addOtherEvents (members : ∀ ev ∈ evs, ev ∈ eventsIn other) :
    Sees tenant own other seen (evs.foldl Store.addEvent st) := by
  induction evs generalizing st with
  | nil => exact sees
  | cons ev evs ih =>
    exact ih (sees.addOtherEvent separate (members ev mem_cons_self)) fun ev mem => members ev (mem_cons_of_mem _ mem)

lemma Sees.addSignals (members : ∀ sig ∈ sigs, sig ∈ signalsIn own)
    (clear : ∀ sig ∈ sigs, ∀ existing ∈ st.signals, Raised other existing → signalKey digest existing ≠ signalKey digest sig) :
    Sees tenant own other (sigs.foldl (Store.addSignal digest) seen) (sigs.foldl (Store.addSignal digest) st) := by
  induction sigs generalizing seen st with
  | nil => exact sees
  | cons sig sigs ih =>
    have here := members sig mem_cons_self
    refine ih (sees.addSignal here (clear sig mem_cons_self)) (fun sig mem => members sig (mem_cons_of_mem _ mem)) ?_
    intro next mem existing inside foreign
    rcases mem_upsert inside with old | rfl
    · exact clear next (mem_cons_of_mem _ mem) existing old foreign
    · exact absurd foreign (separate.not_raised_by_others here)

lemma Sees.replaceOtherDerived (foreign : scope ∈ scopesIn other)
    (cloud : ∀ sig ∈ sigs, Raised other sig) (derived : ∀ inc ∈ incs, inc.tenantId ≠ tenant) :
    Sees tenant own other seen (st.replaceDerivedForLabels scope sigs incs) := by
  refine { sees with
    signals := (sees.signals.filter_others _ fun sig inside => ?_).append_others cloud
    incidents := (sees.incidents.filter_others _ fun inc inside => ?_).append_others derived }
  · simp [raised_avoids separate.scopes (sees.ownSignals sig inside) foreign]
  · simp [(sees.ownIncidents inc inside).2 scope foreign]

/-! What the tenant reads. -/

lemma Sees.listEvents (mem : scope ∈ scopesIn own) : st.listEvents scope = seen.listEvents scope :=
  sees.events.filter_eq fun _ _ foreign => separate.other_event_avoids foreign mem

lemma Sees.listSignals (mem : scope ∈ scopesIn own) (layer : String) :
    st.listSignals scope layer = seen.listSignals scope layer :=
  sees.signals.filter_eq fun _ _ foreign => by simp [raised_avoids (scopes_apart_symm separate.scopes) foreign mem]

lemma Sees.keptSignals : keptSignals own st = keptSignals own seen := by
  refine sees.signals.filter_eq fun sig _ foreign => ?_
  have none : (scopesIn own).any (fun scope => labelSelectorMatches sig.labels scope) = false := by
    rw [any_eq_false]
    intro scope inside
    simp [raised_avoids (scopes_apart_symm separate.scopes) foreign inside]
  simp [none]

end

end

lemma Sees.keptIncidents (sees : Sees tenant own other seen st) : keptIncidents tenant st = keptIncidents tenant seen :=
  sees.incidents.filter_eq fun inc _ foreign => by simpa using foreign

end SysArmor.Ingest
