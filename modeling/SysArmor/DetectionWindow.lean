import SysArmor.CorrelateComplete

/-! The detection window: the events that contribute to one signal of a sequence or correlate rule lie
within the rule's window. The deadline of a group is that of the event it started with, and every event
that is counted later comes before the deadline and, in order of time, after that event. -/
namespace SysArmor.Detection
open GoText Proto List

def Spread (within : Int) (events : List EventView) : Prop :=
  ∀ first ∈ events, ∀ second ∈ events, second.eventTime.toNat ≤ first.eventTime.toNat + within.toNat

structure Opened (within : Int) (views : List EventView) (expiresAt : UInt64) (events : List EventView) : Prop where
  listed : events ⊆ views
  window : ∃ start ∈ views, expiresAt.toNat = start.eventTime.toNat + within.toNat ∧
    ∀ event ∈ events, start.eventTime.toNat ≤ event.eventTime.toNat ∧ event.eventTime.toNat ≤ expiresAt.toNat

section
variable {within : Int} {views events : List EventView} {expiresAt : UInt64} {view : EventView}

section
variable (opened : Opened within views expiresAt events)
include opened

lemma Opened.spread : Spread within events := by
  obtain ⟨start,-,ends,inside⟩ := opened.window
  intro first mem second among
  have early := (inside first mem).1
  have late := (inside second among).2
  omega

lemma Opened.later (view : EventView) : Opened within (views ++ [view]) expiresAt events := by
  obtain ⟨start,mem,window⟩ := opened.window
  exact ⟨List.Subset.trans opened.listed (subset_append_left _ _),start,mem_append_left _ mem,window⟩

lemma Opened.subset {fewer : List EventView} (subset : fewer ⊆ events) : Opened within views expiresAt fewer := by
  obtain ⟨start,mem,ends,inside⟩ := opened.window
  exact ⟨List.Subset.trans subset opened.listed,start,mem,ends,fun event among => inside event (subset among)⟩

end

lemma opened_first (window : 0 < within) (mem : view ∈ views) (bounded : view.eventTime.toNat + within.toNat < 2 ^ 64) :
    Opened within views (view.eventTime + UInt64.ofInt within) [view] := by
  have ends := toNat_deadline view.eventTime window bounded
  refine ⟨by simpa using mem,view,mem,ends,?_⟩
  simp only [mem_singleton,forall_eq,ends]
  omega

lemma Opened.snoc (window : 0 < within) (opened : Opened within views expiresAt events) (mem : view ∈ views)
    (ordered : ∀ other ∈ views, other.eventTime.toNat ≤ view.eventTime.toNat)
    (live : (0 < expiresAt && expiresAt < view.eventTime) = false) : Opened within views expiresAt (events ++ [view]) := by
  obtain ⟨start,among,ends,inside⟩ := opened.window
  have timely : view.eventTime.toNat ≤ expiresAt.toNat := by
    simp only [Bool.and_eq_false_iff,decide_eq_false_iff_not,UInt64.lt_iff_toNat_lt,UInt64.toNat_zero] at live
    omega
  refine ⟨append_subset.mpr ⟨opened.listed,by simpa using mem⟩,start,among,ends,fun event listed => ?_⟩
  rcases mem_append.mp listed with early | last
  · exact inside event early
  · obtain rfl := mem_singleton.mp last
    exact ⟨ordered start among,timely⟩

end

structure Counting (go : Stdlib) (limits : EngineLimits) (seq : CompiledSequence) (count : Nat) (values : StepValues)
    (refs : List String) (events : List EventView) : Prop where
  satisfied : Satisfies go (seq.steps.take count) events ∅
  saved : values = valuesAfter (seq.steps.take count) events ∅
  refs : refs = countedRefs limits events

def Supported (go : Stdlib) (limits : EngineLimits) (seq : CompiledSequence) (views : List EventView) (st : GroupState) : Prop :=
  ∃ events, Counting go limits seq st.stepIndex st.values st.refs events ∧
    (st.stepIndex = 0 ∨ Opened seq.within views st.expiresAt events)

section
variable {go : Stdlib} {limits : EngineLimits} {seq : CompiledSequence} {views : List EventView} {st : GroupState} {view : EventView}

lemma Supported.counted (supported : Supported go limits seq views st) (window : 0 < seq.within) (mem : view ∈ views)
    (ordered : ∀ other ∈ views, other.eventTime.toNat ≤ view.eventTime.toNat)
    (bounded : view.eventTime.toNat + seq.within.toNat < 2 ^ 64) (live : st.expired view.eventTime = false)
    {step : CompiledStep} (here : seq.steps[st.stepIndex]? = some step) (behavior : view.behavior = step.behavior)
    (hit : matchCompiledStep go view step st.values = true) :
    ∃ events, Counting go limits seq (st.stepIndex + 1) (saveValues st.values step view)
        (boundRefs limits.maxCEPRefs (appendUnique st.refs view.eventID)) events ∧
      Opened seq.within views (st.counted go limits view seq step).expiresAt events := by
  obtain ⟨events,counting,opened⟩ := supported
  obtain ⟨bound,rfl⟩ := List.getElem?_eq_some_iff.mp here
  have extended := satisfies_snoc counting.satisfied behavior (counting.saved ▸ hit)
  rw [take_append_getElem bound,← counting.saved] at extended
  refine ⟨events ++ [view],⟨extended.1,extended.2.symm,by simp [countedRefs,counting.refs]⟩,?_⟩
  by_cases start : st.stepIndex = 0
  · have none : events = [] := by
      have satisfied := counting.satisfied
      rw [start,take_zero] at satisfied
      exact length_eq_zero_iff.mp (satisfies_length satisfied)
    simp only [GroupState.counted,start,window,none,nil_append,decide_true,Bool.and_self,if_true]
    exact opened_first window mem bounded
  · simp only [GroupState.counted,start,decide_false,Bool.false_and,Bool.false_eq_true,if_false]
    exact (opened.resolve_left start).snoc window mem ordered live

def StepEvidence (go : Stdlib) (limits : EngineLimits) (seq : CompiledSequence) (events : List EventView) (done : Completion) : Prop :=
  Satisfies go seq.steps events ∅ ∧ done.1 = appendRefs [] (countedRefs limits events)

lemma supported_kept (window : 0 < seq.within) (named : ∀ step ∈ seq.steps, step.behavior ≠ "") (mem : view ∈ views)
    (ordered : ∀ other ∈ views, other.eventTime.toNat ≤ view.eventTime.toNat)
    (bounded : view.eventTime.toNat + seq.within.toNat < 2 ^ 64) :
    KeptBy go limits seq view (Supported go limits seq views) fun done =>
      ∃ events, StepEvidence go limits seq events done ∧ events ⊆ views ∧ Spread seq.within events := by
  have behavior {step : CompiledStep} {index : Nat} {values : StepValues} (here : seq.steps[index]? = some step)
      (hit : matchCompiledStep go view step values = true) : view.behavior = step.behavior := by
    simp only [matchCompiledStep,Bool.and_eq_true,Bool.or_eq_true,decide_eq_true_eq] at hit
    exact hit.1.1.resolve_left (named step (mem_of_getElem? here))
  refine ⟨⟨[],⟨trivial,rfl,rfl⟩,.inl rfl⟩,fun st _ => ⟨[],⟨trivial,rfl,rfl⟩,.inl rfl⟩,?_,?_⟩
  · intro st step next supported live here hit
    obtain ⟨events,counting,opened⟩ := supported.counted window mem ordered bounded live here (behavior here hit) hit
    exact ⟨events,counting,.inr opened⟩
  · intro st step supported live here hit last
    obtain ⟨events,counting,opened⟩ := supported.counted window mem ordered bounded live here (behavior here hit) hit
    have whole : seq.steps.take (st.stepIndex + 1) = seq.steps := take_of_length_le (List.getElem?_eq_none_iff.mp last)
    refine ⟨events,⟨whole ▸ counting.satisfied,?_⟩,opened.listed,opened.spread⟩
    exact congrArg (appendRefs []) counting.refs

end

def HitEvidence (go : Stdlib) (limits : EngineLimits) (facts : List CompiledFact) (events : List EventView) (done : Completion) : Prop :=
  List.Forall₂ (fun fact view => fact.hit go view = true) facts events ∧ done = factEvidence go limits events

section
variable {go : Stdlib} {e : Engine} {rule : CompiledCorrelateRule} {views : List EventView} {view : EventView}

def Upheld (go : Stdlib) (rule : CompiledCorrelateRule) (views : List EventView) (group : CorrelateGroup) : Prop :=
  ∃ since, Gathered go rule.facts since group ∧ Opened rule.within views group.expiresAt since

lemma latest_evidence {facts : List CompiledFact} {since : List EventView}
    (every : ∀ fact ∈ facts, ∃ seen ∈ since, fact.hit go seen = true) (limits : EngineLimits) :
    HitEvidence go limits facts (facts.filterMap (latestHit go since))
      (factEvidence go limits (facts.filterMap (latestHit go since))) := by
  refine ⟨?_,rfl⟩
  induction facts with
  | nil => exact .nil
  | cons fact facts ih =>
    obtain ⟨latest,found⟩ := Option.isSome_iff_exists.mp (latestHit_isSome.mpr (every fact mem_cons_self))
    rw [filterMap_cons_some found]
    exact .cons (find?_some found) (ih fun other mem => every other (mem_cons_of_mem _ mem))

lemma upheld_kept (nodup : (rule.facts.map (·.id)).Nodup) (window : 0 < rule.within) (mem : view ∈ views)
    (ordered : ∀ other ∈ views, other.eventTime.toNat ≤ view.eventTime.toNat)
    (bounded : view.eventTime.toNat + rule.within.toNat < 2 ^ 64) {prior : Option CorrelateGroup}
    (upheld : ∀ group ∈ prior, Upheld go rule views group) :
    (∀ group ∈ (correlateGroup go e view rule prior).1, Upheld go rule views group) ∧
      ∀ done ∈ (correlateGroup go e view rule prior).2, ∃ events, HitEvidence go e.limits rule.facts events done ∧
        events ⊆ views ∧ Spread rule.within events := by
  have live : ∀ group ∈ prior.filter (!·.expired view.eventTime), Upheld go rule views group ∧ group.expired view.eventTime = false := by
    intro group alive
    obtain ⟨found,lasting⟩ := Option.filter_eq_some_iff.mp alive
    exact ⟨upheld group found,by simpa using lasting⟩
  simp only [correlateGroup]
  generalize prior.filter (!·.expired view.eventTime) = kept at live
  split
  · exact ⟨fun group found => (live group found).1,by simp⟩
  obtain ⟨since,gathered,opened⟩ : ∃ since, Gathered go rule.facts since (kept.getD
      { expiresAt := view.eventTime + UInt64.ofInt rule.within }) ∧ Opened rule.within views (kept.getD
      { expiresAt := view.eventTime + UInt64.ofInt rule.within }).expiresAt (since ++ [view]) := by
    cases kept with
    | none => exact ⟨[],gathered_none _,opened_first window mem bounded⟩
    | some group =>
      obtain ⟨⟨since,gathered,opened⟩,lasting⟩ := live group rfl
      exact ⟨since,gathered,opened.snoc window mem ordered lasting⟩
  have taken := gathered.taking nodup view
  split
  · refine ⟨?_,by simp⟩
    rintro _ ⟨⟩
    exact ⟨_,taken,opened⟩
  · rename_i enough
    refine ⟨by simp,?_⟩
    rintro _ ⟨⟩
    have every := (taken.complete_iff nodup).mp (by omega)
    rw [taken.evidence e every]
    have inside : rule.facts.filterMap (latestHit go (since ++ [view])) ⊆ since ++ [view] := by
      intro event listed
      obtain ⟨fact,-,found⟩ := mem_filterMap.mp listed
      exact mem_reverse.mp (mem_of_find?_eq_some found)
    exact ⟨_,latest_evidence every e.limits,(opened.subset inside).listed,(opened.subset inside).spread⟩

end

lemma ordered_front {all views : List EventView} {view : EventView} (ordered : all.Pairwise fun first second =>
      first.eventTime.toNat ≤ second.eventTime.toNat) (listed : views ++ [view] <+: all) :
    ∀ other ∈ views ++ [view], other.eventTime.toNat ≤ view.eventTime.toNat := by
  intro other mem
  rcases mem_append.mp mem with early | last
  · exact (pairwise_append.mp (ordered.sublist listed.sublist)).2.2 other early view (mem_singleton_self _)
  · exact mem_singleton.mp last ▸ le_refl _

def ReportedWithin (go : Stdlib) (turns : List Turn) (place : Nat) (sig : Signal) (within : Int)
    (evidence : List EventView → Completion → Prop) : Prop :=
  ∃ turn done events, turns[place]? = some turn ∧ sig.eventRefs = reportedRefs turn.event done ∧ evidence events done ∧
    events ⊆ (turns.take (place + 1)).map (fun turn => newEventView go turn.event) ∧ Spread within events

section
variable {go : Stdlib} {strategy : Strategy} {policy : Option DetectionPolicy} {content : ContentSnapshot}
  {limits : EngineLimits} {e : Engine} (ok : newWithRuntimeLimits go strategy policy content limits = .ok e)
  {rule : EffectiveRule} (mem : rule ∈ e.rules) (turns : List Turn)
  (ordered : (turns.map fun turn => newEventView go turn.event).Pairwise fun first second =>
    first.eventTime.toNat ≤ second.eventTime.toNat)
  {place : Nat} {signals : List Signal} (emitted : (processAll go e turns {}).2[place]? = some signals)
  {sig : Signal} (raised : sig ∈ signals) (mine : sig.ruleId = rule.spec.ruleID)
include ok mem ordered emitted raised mine

lemma sequence_within_window (kind : rule.runtimeType go = "sequence") (window : 0 < rule.spec.sequence.within)
    (bounded : ∀ turn ∈ turns, (newEventView go turn.event).eventTime.toNat + rule.spec.sequence.within.toNat < 2 ^ 64) :
    ReportedWithin go turns place sig rule.spec.sequence.within (StepEvidence go e.limits
      (compileSequenceRule go strategy content.toContentRefs rule).sequence) := by
  have runs := accepted_runs ok mem kind
  let seq := (compileSequenceRule go strategy content.toContentRefs rule).sequence
  have kept := (processAll_kept (P := fun views _ => Supported go e.limits seq views) (Q := fun views done => ∃ events,
      StepEvidence go e.limits seq events done ∧ events ⊆ views ∧ Spread rule.spec.sequence.within events) runs
    (fun views view _ st => ?_) (fun views view listed => ?_) turns (prefix_rfl : [] ++ _ <+: _) ?_).2
    place signals emitted sig.eventRefs (mem_ofRule.mpr ⟨sig,raised,mine,rfl⟩)
  · obtain ⟨done,turn,there,same,events,evidence,inside,spread⟩ := kept
    exact ⟨turn,done,events,there,same,evidence,inside,spread⟩
  · rintro ⟨events,counting,opened⟩
    exact ⟨events,counting,opened.imp_right (·.later view)⟩
  · obtain ⟨turn,among,rfl⟩ := mem_map.mp (listed.subset (mem_append_right views (mem_singleton_self view)))
    exact supported_kept window runs.named (mem_append_right _ (mem_singleton_self _)) (ordered_front ordered listed)
      (bounded turn among)
  · simp [EngineState.groupsOf]

lemma correlate_within_window (kind : rule.runtimeType go = "correlate")
    (bounded : ∀ turn ∈ turns, (newEventView go turn.event).eventTime.toNat + rule.spec.correlate.within.toNat < 2 ^ 64) :
    ReportedWithin go turns place sig rule.spec.correlate.within (HitEvidence go e.limits
      (compileCorrelateRule go strategy content.toContentRefs rule).facts) := by
  obtain ⟨distinct,-,window⟩ := accepted_correlate ok mem kind
  obtain ⟨exprs,sequences,only⟩ := accepted_correlation ok mem kind
  let compiled := compileCorrelateRule go strategy content.toContentRefs rule
  have kept := (processAll_holds
    (I := fun views s => ∀ key group, (s.correlatedOf rule.spec.ruleID).lookup key = some group → Upheld go compiled views group)
    (Q := fun views turn sig => sig.ruleId = rule.spec.ruleID → ∃ done, (∃ events, HitEvidence go e.limits compiled.facts events done ∧
      events ⊆ views ∧ Spread compiled.within events) ∧ sig.eventRefs = reportedRefs turn.event done)
    (fun views turn s listed holds => ?_) turns (prefix_rfl : [] ++ _ <+: _) (by simp [EngineState.correlatedOf])).2
    place signals emitted sig raised
  · obtain ⟨turn,there,report⟩ := kept
    obtain ⟨done,⟨events,evidence,inside,spread⟩,same⟩ := report mine
    exact ⟨turn,done,events,there,same,evidence,inside,spread⟩
  · have among := listed.subset (mem_append_right views (mem_singleton_self (newEventView go turn.event)))
    obtain ⟨given,there,same⟩ := mem_map.mp among
    refine process_correlated compiled exprs sequences only (fun prior => upheld_kept distinct window
      (mem_append_right _ (mem_singleton_self _)) (ordered_front ordered listed) (same ▸ bounded given there)) ?_
    intro key group found
    obtain ⟨since,gathered,opened⟩ := holds key group found
    exact ⟨since,gathered,opened.later _⟩

/-- In a run over events in order of time, without overflow of time and window, every signal of a sequence or correlate
rule with a positive window has events of the run behind it that lie within the window: one for every step, or one for
every fact, and the references of the signal are those of these events. -/
theorem signals_within_window : (rule.runtimeType go = "sequence" → 0 < rule.spec.sequence.within →
      (∀ turn ∈ turns, (newEventView go turn.event).eventTime.toNat + rule.spec.sequence.within.toNat < 2 ^ 64) →
        ReportedWithin go turns place sig rule.spec.sequence.within (StepEvidence go e.limits
          (compileSequenceRule go strategy content.toContentRefs rule).sequence)) ∧
    (rule.runtimeType go = "correlate" → 0 < rule.spec.correlate.within →
      (∀ turn ∈ turns, (newEventView go turn.event).eventTime.toNat + rule.spec.correlate.within.toNat < 2 ^ 64) →
        ReportedWithin go turns place sig rule.spec.correlate.within (HitEvidence go e.limits
          (compileCorrelateRule go strategy content.toContentRefs rule).facts)) :=
  ⟨sequence_within_window ok mem turns ordered emitted raised mine,
    fun kind _ => correlate_within_window ok mem turns ordered emitted raised mine kind⟩

end

theorem connectAndStart_within : ∃ signals, (processAll asciiStdlib pairEngine connectAndStart {}).2[1]? = some signals ∧
    ∃ sig ∈ signals, ReportedWithin asciiStdlib connectAndStart 1 sig 10
      (HitEvidence asciiStdlib pairEngine.limits pairCompiled.facts) := by
  have raised : ((processAll asciiStdlib pairEngine connectAndStart {}).2[1]?.any fun signals =>
    signals.any (·.ruleId = "pair")) = true := by decide +kernel
  obtain ⟨signals,emitted,raised⟩ := (Option.any_eq_true _ _).mp raised
  obtain ⟨sig,raised,mine⟩ := any_eq_true.mp raised
  have ok : newWithRuntimeLimits asciiStdlib .linear basePolicy { rules := [startsAndConnects] } {} = .ok pairEngine :=
    accepted_iff.mpr ⟨by decide +kernel,rfl⟩
  have mem : pairRule ∈ pairEngine.rules := effectiveRule_mem rfl
  have times : ∀ turn ∈ connectAndStart, (newEventView asciiStdlib turn.event).eventTime.toNat + 10 < 2 ^ 64 := by decide +kernel
  refine ⟨signals,emitted,sig,raised,?_⟩
  exact (signals_within_window ok mem connectAndStart (by decide +kernel) emitted raised (of_decide_eq_true mine)).2
    (by decide +kernel) (by decide) times

end SysArmor.Detection
