import SysArmor.SequenceAutomaton

/-! Runs in which no group of a sequence rule is evicted. When the steps have distinct behaviours an
event is offered to one step at most, and then keeps what is live of the groups it does not
belong to. -/
namespace SysArmor.Detection
open GoText Proto List

section

section
variable {s t : SequenceState} (ruleID : String) (now : UInt64)

lemma drop_groups_congr (same : s.groups = t.groups) (key : String) :
    (s.drop ruleID key).groups = (t.drop ruleID key).groups := by
  simp only [SequenceState.drop,same]
  cases t.groups.lookup key with
  | none => exact same
  | some st => rfl

lemma dropExpired_groups_congr (same : s.groups = t.groups) (key : String) :
    (s.dropExpired ruleID now key).groups = (t.dropExpired ruleID now key).groups := by
  simp only [SequenceState.dropExpired,same]
  split
  · exact drop_groups_congr ruleID same key
  · exact same

lemma sweepExpired_groups_congr (same : s.groups = t.groups) :
    (sweepExpired ruleID now s).groups = (sweepExpired ruleID now t).groups := by
  rw [sweepExpired,sweepExpired,same]
  generalize t.groups.keys = keys
  induction keys generalizing s t with
  | nil => exact same
  | cons key keys ih => exact ih (dropExpired_groups_congr ruleID now same key)

lemma evictLoop_groups_congr (limit : Nat) (chance : Chance) (fuel : Nat) (same : s.groups = t.groups) :
    (evictLoop limit chance ruleID fuel s).groups = (evictLoop limit chance ruleID fuel t).groups := by
  induction fuel generalizing s t with
  | zero => exact same
  | succ fuel ih =>
    simp only [evictLoop,same]
    split
    · exact same
    split
    · exact same
    · exact ih (drop_groups_congr ruleID same _)

lemma evictCEPGroups_groups_congr (limits : EngineLimits) (chance : Chance) (same : s.groups = t.groups) :
    (evictCEPGroups limits chance ruleID now s).groups = (evictCEPGroups limits chance ruleID now t).groups := by
  have swept := sweepExpired_groups_congr ruleID now same
  simp only [evictCEPGroups,same]
  split
  · exact same
  · rw [swept]
    exact evictLoop_groups_congr ruleID _ chance _ swept

end

def EvictsNone (limits : EngineLimits) (chance : Chance) (ruleID : String) (now : UInt64)
    (s : SequenceState) : Prop :=
  ∀ key st, s.groups.lookup key = some st → st.expired now = false →
    (evictCEPGroups limits chance ruleID now s).groups.lookup key = some st

variable {limits : EngineLimits} {s : SequenceState}

lemma EvictsNone.congr {chance : Chance} {ruleID : String} {now : UInt64}
    {t : SequenceState} (none : EvictsNone limits chance ruleID now s) (same : s.groups = t.groups) :
    EvictsNone limits chance ruleID now t := by
  intro key st found live
  rw [← evictCEPGroups_groups_congr ruleID now limits chance same]
  exact none key st (same ▸ found) live

lemma evictsNone_below (below : s.groups.keys.length < limits.maxCEPGroups) (chance : Chance) (ruleID : String) (now : UInt64) :
    EvictsNone limits chance ruleID now s := by
  intro key st found _
  rw [evictCEPGroups,if_pos below]
  exact found

section
variable (go : Stdlib) (e : Engine) (rule : CompiledSequenceRule)

def Roomy (s : EngineState) (turn : Turn) : Prop :=
  let view := newEventView go turn.event
  let ruleID := rule.rule.spec.ruleID
  let key := compiledSequenceGroupKey view rule.sequence.by_
  let cleaned := SequenceState.dropExpired ⟨s.groupsOf ruleID,s.cepActive⟩ ruleID view.eventTime key
  turn.event.subjectProc.isSome = true → rule.sequence.behaviorAt 0 = some view.behavior →
    cleaned.groups.lookup key = none → EvictsNone e.limits turn.chance ruleID view.eventTime cleaned

def RoomyRun : List Turn → EngineState → Prop
  | [], _ => True
  | turn :: rest, s => Roomy go e rule s turn ∧ RoomyRun rest (process go e turn.chance s turn.event).1

end

section
variable {go : Stdlib} {e : Engine} {chance : Chance} {view : EventView} {rule : CompiledSequenceRule}
variable {candidates : List SequenceCandidate} {c : SequenceCandidate}

lemma detectAll_foreign (none : candidates.filter (fun c => c.rule.rule.spec.ruleID = rule.rule.spec.ruleID) = [])
    (s : EngineState) : (detectAll (detectSequenceCandidate go e chance view) candidates s).1.groupsOf rule.rule.spec.ruleID =
      s.groupsOf rule.rule.spec.ruleID := by
  induction candidates generalizing s with
  | nil => rfl
  | cons c candidates ih =>
    have other : c.rule.rule.spec.ruleID ≠ rule.rule.spec.ruleID := by
      simpa using filter_eq_nil_iff.mp none c mem_cons_self
    rw [filter_cons_of_neg (by simpa using other)] at none
    rw [detectAll_cons]
    exact (ih none _).trans (detectSequenceCandidate_other go e chance view s other).1

lemma detectAll_single (enabled : rule.rule.enabled = true) (steps : rule.sequence.steps ≠ []) (own : c.rule = rule)
    (only : candidates.filter (fun c => c.rule.rule.spec.ruleID = rule.rule.spec.ruleID) = [c]) (s : EngineState) :
    ∃ active, (detectAll (detectSequenceCandidate go e chance view) candidates s).1.groupsOf rule.rule.spec.ruleID =
      (offerCandidate go e.limits chance view c ⟨s.groupsOf rule.rule.spec.ruleID,active⟩).1.groups := by
  induction candidates generalizing s with
  | nil => cases only
  | cons first candidates ih =>
    rw [detectAll_cons]
    by_cases mine : first.rule.rule.spec.ruleID = rule.rule.spec.ruleID
    · rw [filter_cons_of_pos (by simpa using mine),List.cons.injEq] at only
      obtain ⟨rfl,none⟩ := only
      refine ⟨s.cepActive,(detectAll_foreign none _).trans ?_⟩
      subst own
      exact (detectSequenceCandidate_own go e chance view s enabled steps).1
    · rw [filter_cons_of_neg (by simpa using mine)] at only
      obtain ⟨active,groups⟩ := ih only (detectSequenceCandidate go e chance view s first).1
      rw [(detectSequenceCandidate_other go e chance view s mine).1] at groups
      exact ⟨active,groups⟩

lemma liveAt_expired {now : UInt64} {st : GroupState} (lapsed : st.expired now = true) : liveAt now (some st) = none := by
  simp [liveAt,lapsed,Option.filter]

lemma clearedFor_live {key other : String}
    (event : compiledSequenceGroupKey view c.rule.sequence.by_ = key) (ne : other ≠ key)
    (roomy : c.firstStep = true → (s.dropExpired c.rule.rule.spec.ruleID view.eventTime key).groups.lookup key = none →
        EvictsNone limits chance c.rule.rule.spec.ruleID view.eventTime
          (s.dropExpired c.rule.rule.spec.ruleID view.eventTime key)) :
    liveAt view.eventTime ((clearedFor limits chance view c s).groups.lookup other) =
      liveAt view.eventTime (s.groups.lookup other) := by
  subst event
  have kept : (s.dropExpired c.rule.rule.spec.ruleID view.eventTime
      (compiledSequenceGroupKey view c.rule.sequence.by_)).groups.lookup other = s.groups.lookup other :=
    lookup_dropExpired_ne ne
  simp only [clearedFor]
  generalize s.dropExpired c.rule.rule.spec.ruleID view.eventTime
    (compiledSequenceGroupKey view c.rule.sequence.by_) = cleaned at kept roomy
  rw [← kept]
  split
  · rename_i creates
    rw [Bool.and_eq_true,Option.isNone_iff_eq_none] at creates
    rcases evictCEPGroups_shrinks limits chance c.rule.rule.spec.ruleID view.eventTime cleaned other with
      same | gone
    · rw [same]
    cases found : cleaned.groups.lookup other with
    | none => rw [gone]
    | some st =>
      cases lapsed : st.expired view.eventTime with
      | true => rw [gone,liveAt_expired lapsed]; rfl
      | false =>
        have there := roomy creates.1 creates.2 other st found lapsed
        rw [gone] at there
        cases there
  · rfl

section
variable (runs : Runs e rule) {s : EngineState} {turn : Turn}
  (subject : turn.event.subjectProc.isSome = true)
include runs subject

lemma process_foreign (none : ruleCandidates rule (newEventView go turn.event).behavior
      (0 < s.cepActive.count (newEventView go turn.event).behavior rule.rule.spec.ruleID) = []) :
    (process go e turn.chance s turn.event).1.groupsOf rule.rule.spec.ruleID = s.groupsOf rule.rule.spec.ruleID := by
  obtain ⟨tried,cep,-,offered,-,-⟩ := process_offered runs go turn.chance s subject
  have listed := candidatesForBehavior_rule runs (newEventView go turn.event).behavior s.cepActive
  rw [groupsOf_congr offered,detectAll_foreign (listed.trans none),groupsOf_congr cep]

lemma process_single {firstStep : Bool} {stepIndex : Nat} (only : ruleCandidates rule (newEventView go turn.event).behavior
      (0 < s.cepActive.count (newEventView go turn.event).behavior rule.rule.spec.ruleID) = [{ rule, firstStep, stepIndex }]) :
    ∃ active, (process go e turn.chance s turn.event).1.groupsOf rule.rule.spec.ruleID =
      (offerCandidate go e.limits turn.chance (newEventView go turn.event) { rule, firstStep, stepIndex }
        ⟨s.groupsOf rule.rule.spec.ruleID,active⟩).1.groups := by
  obtain ⟨tried,cep,-,offered,-,-⟩ := process_offered runs go turn.chance s subject
  have listed := candidatesForBehavior_rule runs (newEventView go turn.event).behavior s.cepActive
  rw [groupsOf_congr offered,← groupsOf_congr cep]
  exact detectAll_single runs.enabled runs.steps rfl (listed.trans only) tried

lemma process_others (nodup : (rule.sequence.steps.map (·.behavior)).Nodup) (roomy : Roomy go e rule s turn) {other : String}
    (ne : other ≠ compiledSequenceGroupKey (newEventView go turn.event) rule.sequence.by_) :
    let now := (newEventView go turn.event).eventTime
    liveAt now (((process go e turn.chance s turn.event).1.groupsOf rule.rule.spec.ruleID).lookup other) =
      liveAt now ((s.groupsOf rule.rule.spec.ruleID).lookup other) := by
  intro now
  have offered {firstStep : Bool} {stepIndex : Nat}
      (only : ruleCandidates rule (newEventView go turn.event).behavior
        (0 < s.cepActive.count (newEventView go turn.event).behavior rule.rule.spec.ruleID) =
          [{ rule, firstStep, stepIndex }])
      (first : firstStep = true → rule.sequence.behaviorAt 0 = some (newEventView go turn.event).behavior) :
      liveAt now (((process go e turn.chance s turn.event).1.groupsOf rule.rule.spec.ruleID).lookup other) =
        liveAt now ((s.groupsOf rule.rule.spec.ruleID).lookup other) := by
    obtain ⟨active,groups⟩ := process_single runs subject only
    rw [groups,(offerCandidate_follows go e.limits turn.chance _ _ _).others other ne]
    refine clearedFor_live rfl ne fun creates missing => ?_
    have same := @dropExpired_groups_congr ⟨s.groupsOf rule.rule.spec.ruleID,s.cepActive⟩
      ⟨s.groupsOf rule.rule.spec.ruleID,active⟩ rule.rule.spec.ruleID now rfl
      (compiledSequenceGroupKey (newEventView go turn.event) rule.sequence.by_)
    exact (roomy subject (first creates) (same ▸ missing)).congr same
  rcases ruleCandidates_distinct runs.steps nodup (newEventView go turn.event).behavior
    (0 < s.cepActive.count (newEventView go turn.event).behavior rule.rule.spec.ruleID) with
    ⟨here,only⟩ | ⟨index,pos,here,only⟩ | ⟨absent,only⟩
  · exact offered only fun _ => here
  · split at only
    · exact offered only nofun
    · rw [process_foreign runs subject only]
  · rw [process_foreign runs subject only]

end

end
end

/-! A sequence rule in the engine is one automaton for each group, as long as no group has to make
room for another. -/

section
variable {go : Stdlib} {e : Engine} {rule : CompiledSequenceRule}

@[simp] lemma newEventView_eventID (go : Stdlib) (ev : CanonicalEvent) : (newEventView go ev).eventID = ev.id := by
  simp only [newEventView]
  cases ev.subjectProc <;> cases ev.object <;> cases ev.scope <;> rfl

structure Mirrors (rule : CompiledSequenceRule) (key : String) (last : Nat) (seen : List String)
    (s : EngineState) (a : Automaton) : Prop where
  tracks : Tracks last ((s.groupsOf rule.rule.spec.ruleID).lookup key) a
  placed : ∀ st ∈ (s.groupsOf rule.rule.spec.ruleID).lookup key, Placed rule.sequence st
  counted : ∀ st ∈ (s.groupsOf rule.rule.spec.ruleID).lookup key, Counted rule.sequence seen st
  indexed : Indexed rule.rule.spec.ruleID (s.groupsOf rule.rule.spec.ruleID) s.cepActive

lemma mirrors_initial (rule : CompiledSequenceRule) (key : String) : Mirrors rule key 0 [] {} none := by
  refine ⟨tracks_self 0 none,nofun,nofun,?_⟩
  intro behavior _
  simp [Waits.count,EngineState.groupsOf]

/-- The events of a run as the automaton needs them: in order of time, after the time and the ids
seen so far, with distinct ids that are not empty, and without overflow of the window. -/
structure Regular (go : Stdlib) (rule : CompiledSequenceRule) (last : Nat) (seen : List String)
    (events : List CanonicalEvent) : Prop where
  ordered : (events.map fun ev => (newEventView go ev).eventTime).Pairwise (· ≤ ·)
  after : ∀ ev ∈ events, last ≤ (newEventView go ev).eventTime.toNat
  distinct : (events.map (·.id)).Nodup
  fresh : ∀ ev ∈ events, ev.id ∉ seen ∧ ev.id ≠ ""
  bounded : ∀ ev ∈ events, (newEventView go ev).eventTime.toNat + rule.sequence.within.toNat < 2 ^ 64

variable {seen : List String}

lemma Regular.tail {last : Nat} {ev : CanonicalEvent} {events : List CanonicalEvent}
    (regular : Regular go rule last seen (ev :: events)) :
    Regular go rule (newEventView go ev).eventTime.toNat (ev.id :: seen) events := by
  have ordered := pairwise_cons.mp regular.ordered
  have distinct := nodup_cons.mp regular.distinct
  refine ⟨ordered.2,?_,distinct.2,?_,fun later mem => regular.bounded later (mem_cons_of_mem _ mem)⟩
  · intro later mem
    exact UInt64.le_iff_toNat_le.mp (ordered.1 _ (mem_map_of_mem mem))
  intro later mem
  have old := regular.fresh later (mem_cons_of_mem _ mem)
  refine ⟨?_,old.2⟩
  intro again
  rcases mem_cons.mp again with same | before
  · exact distinct.1 (mem_map.mpr ⟨later,mem,same⟩)
  · exact old.1 before

section
variable {last : Nat} {seen : List String} {key : String} {s : EngineState} {a : Automaton} {turn : Turn}
  {rest : List CanonicalEvent}

lemma Mirrors.later (mirrors : Mirrors rule key last seen s a) (regular : Regular go rule last seen (turn.event :: rest)) :
    Mirrors rule key (newEventView go turn.event).eventTime.toNat (turn.event.id :: seen) s a where
  tracks := mirrors.tracks.later (regular.after _ mem_cons_self) rfl
  placed := mirrors.placed
  counted st mem := (mirrors.counted st mem).mono fun _ old => mem_cons_of_mem _ old
  indexed := mirrors.indexed

variable (runs : Runs e rule) (nodup : (rule.sequence.steps.map (·.behavior)).Nodup)
include runs nodup

omit nodup in
lemma Mirrors.waited (wakes : rule.rule.spec.ruleID = "" → rule.sequence.steps.length = 1)
    (mirrors : Mirrors rule key last seen s a) {st : GroupState}
    (mem : st ∈ (s.groupsOf rule.rule.spec.ruleID).lookup key) (ahead : 0 < st.stepIndex) :
    0 < s.cepActive.count st.waitingBehavior rule.rule.spec.ruleID := by
  obtain ⟨step,here,behavior⟩ := (mirrors.placed st mem).waiting ahead
  have inside := (mirrors.placed st mem).inside
  have named : rule.rule.spec.ruleID ≠ "" := by
    intro blank
    have one := wakes blank
    omega
  exact mirrors.indexed.counted mem named (behavior ▸ runs.named step (mem_of_getElem? here))

lemma Mirrors.own (room : rule.sequence.steps.length ≤ e.limits.maxCEPRefs)
    (wakes : rule.rule.spec.ruleID = "" → rule.sequence.steps.length = 1)
    (mirrors : Mirrors rule key last seen s a) (regular : Regular go rule last seen (turn.event :: rest))
    (subject : turn.event.subjectProc.isSome = true) (mine : ofGroup go rule key turn.event = true) :
    let stepped := a.step go rule.sequence (newEventView go turn.event)
    Mirrors rule key (newEventView go turn.event).eventTime.toNat (turn.event.id :: seen)
        (process go e turn.chance s turn.event).1 stepped.1 ∧
      ofRule rule.rule.spec.ruleID (process go e turn.chance s turn.event).2 = stepped.2.toList := by
  intro stepped
  obtain rfl : compiledSequenceGroupKey (newEventView go turn.event) rule.sequence.by_ = key :=
    of_decide_eq_true mine
  have passed := process_passed runs go turn.chance s subject
  have fresh := regular.fresh turn.event mem_cons_self
  have mirrored : Mirrored (newEventView go turn.event) rule.sequence seen
      (groupPass go e.limits (newEventView go turn.event)
        (ruleCandidates rule (newEventView go turn.event).behavior
          (0 < s.cepActive.count (newEventView go turn.event).behavior rule.rule.spec.ruleID))
        ((s.groupsOf rule.rule.spec.ruleID).lookup
          (compiledSequenceGroupKey (newEventView go turn.event) rule.sequence.by_))) stepped :=
    rulePass_mirrored runs.steps runs.named nodup room
      (regular.bounded turn.event mem_cons_self) (by simpa using fresh.2) (by simpa using fresh.1)
      mirrors.tracks (regular.after turn.event mem_cons_self) mirrors.placed mirrors.counted
      _ fun st mem ahead waiting => decide_eq_true (waiting ▸ mirrors.waited runs wakes mem ahead)
  refine ⟨⟨?_,process_placed runs _ _ mirrors.placed,?_,process_indexed runs go _ mirrors.indexed _⟩,?_⟩
  · rw [passed.group]
    exact mirrored.tracks
  · rw [passed.group]
    intro st mem
    simpa using mirrored.counted st mem
  · rw [passed.reports]
    simpa using mirrored.emits

lemma Mirrors.foreign (mirrors : Mirrors rule key last seen s a) (regular : Regular go rule last seen (turn.event :: rest))
    (subject : turn.event.subjectProc.isSome = true) (roomy : Roomy go e rule s turn)
    (other : ofGroup go rule key turn.event = false) :
    Mirrors rule key (newEventView go turn.event).eventTime.toNat (turn.event.id :: seen)
      (process go e turn.chance s turn.event).1 a := by
  have ne : key ≠ compiledSequenceGroupKey (newEventView go turn.event) rule.sequence.by_ :=
    fun same => of_decide_eq_false other same.symm
  have live := process_others runs subject nodup roomy ne
  have left := (process_passed runs go turn.chance s subject).others key ne
  have old : ∀ st ∈ ((process go e turn.chance s turn.event).1.groupsOf rule.rule.spec.ruleID).lookup key,
      st ∈ (s.groupsOf rule.rule.spec.ruleID).lookup key := by
    intro st mem
    rcases left with same | gone
    · exact same ▸ mem
    · rw [gone] at mem
      cases mem
  exact {
    tracks := mirrors.tracks.later (regular.after _ mem_cons_self) (congrArg groupAutomaton live)
    placed := fun st mem => mirrors.placed st (old st mem)
    counted := fun st mem => (mirrors.later regular).counted st (old st mem)
    indexed := process_indexed runs go _ mirrors.indexed _ }

end

lemma Mirrors.run (runs : Runs e rule) (nodup : (rule.sequence.steps.map (·.behavior)).Nodup)
    (room : rule.sequence.steps.length ≤ e.limits.maxCEPRefs)
    (wakes : rule.rule.spec.ruleID = "" → rule.sequence.steps.length = 1) {key : String} (turns : List Turn)
    {last : Nat} {s : EngineState} {a : Automaton}
    (mirrors : Mirrors rule key last seen s a) (regular : Regular go rule last seen (turns.map (·.event)))
    (roomy : RoomyRun go e rule turns s) : (reported go e rule turns s).filter (fun entry => ofGroup go rule key entry.1) =
      Automaton.run go rule.sequence ((turns.map (·.event)).filter (ofGroup go rule key)) a := by
  induction turns generalizing last seen s a with
  | nil => rfl
  | cons turn turns ih =>
    rw [map_cons] at regular ⊢
    rw [reported_cons]
    cases subject : turn.event.subjectProc.isSome with
    | false =>
      have rest := ih (mirrors.later regular) regular.tail
        (by have next := roomy.2; rwa [process_ignored go e turn.chance s subject] at next)
      rw [process_ignored go e turn.chance s subject]
      cases mine : ofGroup go rule key turn.event with
      | true => simp [mine,Automaton.run,subject,rest,ofRule]
      | false => simp [mine,rest]
    | true =>
      cases mine : ofGroup go rule key turn.event with
      | true =>
        obtain ⟨next,emits⟩ := mirrors.own runs nodup room wakes regular subject mine
        have rest := ih next regular.tail roomy.2
        simp [mine,Automaton.run,subject,rest,emits]
      | false =>
        have rest := ih (mirrors.foreign runs nodup regular subject roomy.1 mine) regular.tail roomy.2
        simp [mine,rest]

end

/-- A sequence rule against its reference. For an accepted rule that has an id, or one step, and
steps with distinct behaviours, and for events in order of time with distinct ids that are not
empty, without overflow of the window, during which no group is evicted and with room for a
reference for each step: the signals raised on the events of a group are those of the group's
automaton. -/
theorem sequence_equals_automaton {go : Stdlib} {strategy : Strategy} {policy : Option DetectionPolicy}
    {content : ContentSnapshot} {limits : EngineLimits} {e : Engine}
    (accepted : newWithRuntimeLimits go strategy policy content limits = .ok e)
    {rule : EffectiveRule} (member : rule ∈ e.rules) (kind : rule.runtimeType go = "sequence")
    {compiled : CompiledSequenceRule} (is : compiled = compileSequenceRule go strategy content.toContentRefs rule)
    (wakes : rule.spec.ruleID = "" → compiled.sequence.steps.length = 1)
    (distinct : (compiled.sequence.steps.map (·.behavior)).Nodup) (room : compiled.sequence.steps.length ≤ e.limits.maxCEPRefs)
    {turns : List Turn} (ids : (turns.map (·.event.id)).Nodup) (filled : ∀ turn ∈ turns, turn.event.id ≠ "")
    (ordered : (turns.map fun turn => (newEventView go turn.event).eventTime).Pairwise (· ≤ ·))
    (bounded : ∀ turn ∈ turns, (newEventView go turn.event).eventTime.toNat + compiled.sequence.within.toNat < 2 ^ 64)
    (roomy : RoomyRun go e compiled turns {}) (key : String) :
    (reported go e compiled turns {}).filter (fun entry => ofGroup go compiled key entry.1) =
      Automaton.run go compiled.sequence ((turns.map (·.event)).filter (ofGroup go compiled key)) none := by
  subst is
  have regular : Regular go (compileSequenceRule go strategy content.toContentRefs rule) 0 []
      (turns.map (·.event)) := by
    refine ⟨by rwa [map_map],fun _ _ => Nat.zero_le _,by rwa [map_map],?_,?_⟩
    · intro ev among
      obtain ⟨turn,there,rfl⟩ := mem_map.mp among
      exact ⟨not_mem_nil,filled turn there⟩
    intro ev among
    obtain ⟨turn,there,rfl⟩ := mem_map.mp among
    exact bounded turn there
  exact (mirrors_initial _ key).run (accepted_runs accepted member kind) distinct room wakes turns regular roomy

def startAndConnectLater : List Turn := lineageEvent "0" "process.exec" "h" :: startAndConnect

lemma startAndConnectLater_roomy : RoomyRun asciiStdlib (stepsEngine "process.exec" "network.connect")
      (stepsCompiled "process.exec" "network.connect") startAndConnectLater {} := by
  refine ⟨fun _ _ _ => ?_,fun _ _ _ => ?_,fun _ _ _ => ?_,trivial⟩
  · exact evictsNone_below (by decide +kernel) _ _ _
  · exact evictsNone_below (by decide +kernel) _ _ _
  · exact evictsNone_below (by decide +kernel) _ _ _

theorem startAndConnectLater_equals_automaton : (reported asciiStdlib (stepsEngine "process.exec" "network.connect")
        (stepsCompiled "process.exec" "network.connect") startAndConnectLater {}).filter
      (fun entry => ofGroup asciiStdlib (stepsCompiled "process.exec" "network.connect") "lineage_id=g" entry.1) =
    Automaton.run asciiStdlib (stepsCompiled "process.exec" "network.connect").sequence
      ((startAndConnectLater.map (·.event)).filter
        (ofGroup asciiStdlib (stepsCompiled "process.exec" "network.connect") "lineage_id=g")) none := by
  have blank : (stepsEffective "process.exec" "network.connect").spec.ruleID ≠ "" := by decide
  exact sequence_equals_automaton (stepsEngine_accepted (by decide +kernel)) (stepsEffective_mem _ _)
    (by decide +kernel) rfl (fun unnamed => absurd unnamed blank) (by decide +kernel) (by decide +kernel)
    (by decide) (by decide) (by decide +kernel) (by decide +kernel) startAndConnectLater_roomy "lineage_id=g"

def unnamedRule : RuleSpec := { stepsRule "process.exec" "network.connect" with ruleID := "" }

def unnamedEngine : Engine :=
  compileEngine asciiStdlib .linear (resolveRules (policyInForce basePolicy) { rules := [unnamedRule] }) {} {}

def unnamedCompiled : CompiledSequenceRule :=
  compileSequenceRule asciiStdlib .linear {} (effectiveRule (policyInForce basePolicy) unnamedRule)

def unidentifiedStart : List Turn :=
  [lineageEvent "" "process.exec" "g",lineageEvent "2" "network.connect" "g"]

/-- A rule without an id is accepted and never waits for its second step, and an event without an
id is counted but not referred to. -/
theorem blank_ids_differ : newWithRuntimeLimits asciiStdlib .linear basePolicy { rules := [unnamedRule] } {} = .ok unnamedEngine ∧
    unnamedCompiled.sequence.steps.map (·.behavior) = ["process.exec","network.connect"] ∧
    RoomyRun asciiStdlib unnamedEngine unnamedCompiled startAndConnect {} ∧
    (reported asciiStdlib unnamedEngine unnamedCompiled startAndConnect {}).map (·.2) = [[],[]] ∧
    (Automaton.run asciiStdlib unnamedCompiled.sequence (startAndConnect.map (·.event)) none).map (·.2) =
      [[],[["1","2"]]] ∧ RoomyRun asciiStdlib (stepsEngine "process.exec" "network.connect")
      (stepsCompiled "process.exec" "network.connect") unidentifiedStart {} ∧
    (reported asciiStdlib (stepsEngine "process.exec" "network.connect")
      (stepsCompiled "process.exec" "network.connect") unidentifiedStart {}).map (·.2) = [[],[["2"]]] ∧
    (Automaton.run asciiStdlib (stepsCompiled "process.exec" "network.connect").sequence
      (unidentifiedStart.map (·.event)) none).map (·.2) = [[],[["","2"]]] := by
  refine ⟨?_,?_,⟨fun _ _ _ => ?_,fun _ _ _ => ?_,trivial⟩,?_,?_,⟨fun _ _ _ => ?_,fun _ _ _ => ?_,trivial⟩,?_,?_⟩
  · exact accepted_iff.mpr ⟨by decide +kernel,rfl⟩
  · decide +kernel
  · exact evictsNone_below (by decide +kernel) _ _ _
  · exact evictsNone_below (by decide +kernel) _ _ _
  · decide +kernel
  · decide +kernel
  · exact evictsNone_below (by decide +kernel) _ _ _
  · exact evictsNone_below (by decide +kernel) _ _ _
  · decide +kernel
  · decide +kernel

end SysArmor.Detection
