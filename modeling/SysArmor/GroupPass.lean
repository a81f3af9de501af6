import SysArmor.RuleMachine

/-! All candidates of a rule on the group of one event: the first step, then the later steps in
order. A group that the event cannot advance is left alone, and unless the event is counted for
two steps in a row it is counted at most once. -/
namespace SysArmor.Detection
open GoText Proto List

def nextIndices (seq : CompiledSequence) (behavior : String) : List Nat :=
  (List.range' 1 (seq.steps.length - 1)).filter
    fun index => (seq.steps[index]?.map (·.behavior)).getD "" = behavior

def nextCandidates (rule : CompiledSequenceRule) (behavior : String) : List SequenceCandidate :=
  (nextIndices rule.sequence behavior).map fun stepIndex => { rule, stepIndex }

def firstCandidates (rule : CompiledSequenceRule) (behavior : String) : List SequenceCandidate :=
  if (rule.sequence.steps[0]?.map (·.behavior)).getD "" = behavior then [{ rule, firstStep := true }] else []

lemma ruleCandidates_eq {rule : CompiledSequenceRule} (steps : rule.sequence.steps ≠ [])
    (behavior : String) (waits : Bool) : ruleCandidates rule behavior waits =
      firstCandidates rule behavior ++ if waits then nextCandidates rule behavior else [] := by
  have first : rule.candidates.filter (fun c => c.firstStep && decide (c.behavior = behavior)) =
      firstCandidates rule behavior := by
    simp only [CompiledSequenceRule.candidates,if_neg steps,filter_cons,Bool.true_and,filter_map]
    have none : (List.range' 1 (rule.sequence.steps.length - 1)).filter
        ((fun c : SequenceCandidate => c.firstStep && decide (c.behavior = behavior)) ∘
          fun stepIndex => { rule, stepIndex }) = [] := by
      apply filter_eq_nil_iff.mpr
      simp
    rw [none,firstCandidates]
    by_cases same : (rule.sequence.steps[0]?.map (·.behavior)).getD "" = behavior
    · simp [SequenceCandidate.behavior,same]
    · simp [SequenceCandidate.behavior,same]
  have later : rule.candidates.filter (fun c => !c.firstStep && decide (c.behavior = behavior)) =
      nextCandidates rule behavior := by
    simp only [CompiledSequenceRule.candidates,if_neg steps,filter_cons,Bool.not_true,Bool.false_and,filter_map]
    rfl
  rw [ruleCandidates,first,later]

structure Placed (seq : CompiledSequence) (st : GroupState) : Prop where
  inside : st.stepIndex < seq.steps.length
  fresh : st.stepIndex = 0 → st = {}
  waiting : 0 < st.stepIndex → ∃ step, seq.steps[st.stepIndex]? = some step ∧ st.waitingBehavior = step.behavior

lemma placed_fresh {seq : CompiledSequence} (steps : seq.steps ≠ []) : Placed seq {} :=
  ⟨length_pos_iff.mpr steps,(fun _ => rfl),fun pos => absurd pos (Nat.lt_irrefl 0)⟩

lemma mem_liveAt {now : UInt64} {prior : Option GroupState} {st : GroupState} (live : st ∈ liveAt now prior) : st ∈ prior := by
  unfold liveAt at live
  simp_all

section
variable (go : Stdlib) (limits : EngineLimits) (view : EventView)

lemma groupPass_append (first second : List SequenceCandidate) (prior : Option GroupState) :
    groupPass go limits view (first ++ second) prior =
      ((groupPass go limits view second (groupPass go limits view first prior).1).1,(groupPass go limits view first prior).2 ++
          (groupPass go limits view second (groupPass go limits view first prior).1).2) := by
  induction first generalizing prior with
  | nil => rfl
  | cons c first ih => simp [groupPass,ih]

variable {seq : CompiledSequence}

lemma groupAdvance_inside {st : GroupState} (inside : st.stepIndex < seq.steps.length) :
    groupAdvance go limits view seq st = groupCount go limits view seq st := by
  rw [groupAdvance,if_neg (by omega)]

lemma groupPass_live {candidates : List SequenceCandidate} (some : candidates ≠ [])
    {prior other : Option GroupState} (same : liveAt view.eventTime prior = liveAt view.eventTime other) :
    groupPass go limits view candidates prior = groupPass go limits view candidates other := by
  cases candidates with
  | nil => exact absurd rfl some
  | cons c candidates =>
    have offer : groupOffer go limits view c prior = groupOffer go limits view c other := by
      simp only [groupOffer,same]
    rw [groupPass,groupPass,offer]

variable {rule : CompiledSequenceRule}

lemma groupOffer_first_hit (steps : rule.sequence.steps ≠ []) {prior : Option GroupState}
    (placed : ∀ st ∈ prior, Placed rule.sequence st) (hit : matchesAt go view rule.sequence 0 ∅ = true) :
    ∃ base : GroupState, base.stepIndex = 0 ∧ base.values = ∅ ∧ (base = {} ∨ ∃ st ∈ prior, base = st.reset) ∧
      groupOffer go limits view { rule, firstStep := true } prior = groupCount go limits view rule.sequence base := by
  have start : ∀ base : GroupState, base.stepIndex = 0 → groupAdvance go limits view rule.sequence base =
      groupCount go limits view rule.sequence base := by
    intro base zero
    exact groupAdvance_inside go limits view (zero ▸ length_pos_iff.mpr steps)
  cases live : liveAt view.eventTime prior with
  | none => exact ⟨{},rfl,rfl,.inl rfl,by simp [groupOffer,live,start]⟩
  | some st =>
    by_cases zero : st.stepIndex = 0
    · obtain rfl := (placed st (mem_liveAt live)).fresh zero
      exact ⟨{},rfl,rfl,.inl rfl,by simp [groupOffer,live,start]⟩
    · exact ⟨st.reset,rfl,rfl,.inr ⟨st,mem_liveAt live,rfl⟩,by simp [groupOffer,live,zero,hit,start,GroupState.reset]⟩

lemma groupOffer_first_miss (steps : rule.sequence.steps ≠ []) {prior : Option GroupState}
    (placed : ∀ st ∈ prior, Placed rule.sequence st) (miss : matchesAt go view rule.sequence 0 ∅ = false) :
    groupOffer go limits view { rule, firstStep := true } prior = (some ((liveAt view.eventTime prior).getD {}),none) := by
  have unmatched : groupAdvance go limits view rule.sequence {} = (some {},none) :=
    (groupAdvance_inside go limits view (length_pos_iff.mpr steps)).trans
      (groupCount_miss go limits view miss)
  cases live : liveAt view.eventTime prior with
  | none => simp [groupOffer,live,unmatched]
  | some st =>
    by_cases start : st.stepIndex = 0
    · obtain rfl := (placed st (mem_liveAt live)).fresh start
      simp [groupOffer,live,unmatched]
    · simp [groupOffer,live,start,miss]

lemma groupCount_advanced {base : GroupState} (hit : matchesAt go view seq base.stepIndex base.values = true) :
    ∃ step, seq.steps[base.stepIndex]? = some step ∧ matchCompiledStep go view step base.values = true ∧
      ∀ st ∈ (groupCount go limits view seq base).1, Placed seq st ∧ st.stepIndex = base.stepIndex + 1 ∧
        st.values = saveValues base.values step view ∧
        st.refs = boundRefs limits.maxCEPRefs (appendUnique base.refs view.eventID) := by
  obtain ⟨step,here,hit⟩ := matchesAt_eq_true go view hit
  refine ⟨step,here,hit,?_⟩
  intro st mem
  cases more : seq.steps[base.stepIndex + 1]? with
  | none =>
    rw [groupCount_done go limits view here hit more] at mem
    cases mem
  | some next =>
    rw [groupCount_next go limits view here hit more] at mem
    obtain rfl : base.waitingFor go limits view seq step next = st := Option.some.inj mem
    have inside : base.stepIndex + 1 < seq.steps.length := (List.getElem?_eq_some_iff.mp more).1
    exact ⟨⟨inside,(fun zero => nomatch zero),fun _ => ⟨next,more,rfl⟩⟩,rfl,rfl,rfl⟩

lemma groupPass_idle (indices : List Nat) (pos : ∀ index ∈ indices, 0 < index)
    {prior : Option GroupState} (placed : ∀ st ∈ prior, Placed rule.sequence st)
    (idle : ∀ st ∈ prior, 0 < st.stepIndex → matchesAt go view rule.sequence st.stepIndex st.values = false) :
    let pass := groupPass go limits view (indices.map fun stepIndex => { rule, stepIndex }) prior
    (pass.1 = prior ∨ pass.1 = none) ∧ pass.2 = [] := by
  induction indices generalizing prior with
  | nil => exact ⟨.inl rfl,rfl⟩
  | cons index indices ih =>
    have later := fun prior placed idle => @ih (fun i mem => pos i (mem_cons_of_mem _ mem))
      prior placed idle
    cases live : liveAt view.eventTime prior with
    | none =>
      have gone : groupOffer go limits view { rule, stepIndex := index } prior = (none,none) := by
        simp [groupOffer,live]
      have rest := later none (by simp) (by simp)
      simp only [map_cons,groupPass,gone]
      refine ⟨.inr ?_,rest.2⟩
      rcases rest.1 with same | gone
      · exact same
      · exact gone
    | some st =>
      obtain rfl : prior = some st := mem_liveAt live
      have same : groupOffer go limits view { rule, stepIndex := index } (some st) = (some st,none) := by
        by_cases here : st.stepIndex = index
        · have miss := idle st rfl (here ▸ pos index mem_cons_self)
          simp only [groupOffer,live,here,if_true]
          exact (groupAdvance_inside go limits view (placed st rfl).inside).trans
            (groupCount_miss go limits view miss)
        · simp [groupOffer,live,here]
      simp only [map_cons,groupPass,same]
      exact later (some st) placed idle

lemma groupPass_once (indices : List Nat) (pos : ∀ index ∈ indices, 0 < index) {st : GroupState}
    (placed : Placed rule.sequence st)
    (once : st.expired view.eventTime = false → ∀ next ∈ (groupCount go limits view rule.sequence st).1,
      matchesAt go view rule.sequence st.stepIndex st.values = true →
        matchesAt go view rule.sequence next.stepIndex next.values = false) :
    let pass := groupPass go limits view (indices.map fun stepIndex => { rule, stepIndex }) (some st)
    ((pass.1 = some st ∨ pass.1 = none) ∧ pass.2 = []) ∨
      (matchesAt go view rule.sequence st.stepIndex st.values = true ∧
        (pass.1 = (groupCount go limits view rule.sequence st).1 ∨ pass.1 = none) ∧
        pass.2 = (groupCount go limits view rule.sequence st).2.toList) := by
  induction indices with
  | nil => exact .inl ⟨.inl rfl,rfl⟩
  | cons index indices ih =>
    have later : ∀ i ∈ indices, 0 < i := fun i mem => pos i (mem_cons_of_mem _ mem)
    have idle := fun prior => @groupPass_idle go limits view rule indices later prior
    cases lapsed : st.expired view.eventTime with
    | true =>
      have gone : groupOffer go limits view { rule, stepIndex := index } (some st) = (none,none) := by
        simp [groupOffer,liveAt,lapsed,Option.filter]
      obtain ⟨absent,silent⟩ := idle none (by simp) (by simp)
      simp only [map_cons,groupPass,gone]
      exact .inl ⟨.inr (absent.elim id id),silent⟩
    | false =>
      have live : liveAt view.eventTime (some st) = some st := by simp [liveAt,lapsed,Option.filter]
      by_cases here : st.stepIndex = index
      · have offer : groupOffer go limits view { rule, stepIndex := index } (some st) =
            groupCount go limits view rule.sequence st := by
          simp only [groupOffer,live,here,if_true]
          exact groupAdvance_inside go limits view placed.inside
        simp only [map_cons,groupPass,offer]
        cases hit : matchesAt go view rule.sequence st.stepIndex st.values with
        | false =>
          rw [groupCount_miss go limits view hit]
          obtain ⟨kept,silent⟩ := idle (some st) (by rintro _ ⟨⟩; exact placed) (by rintro _ ⟨⟩ _; exact hit)
          exact .inl ⟨kept,silent⟩
        | true =>
          obtain ⟨step,-,-,advanced⟩ := groupCount_advanced go limits view hit
          obtain ⟨kept,silent⟩ := idle _ (fun next mem => (advanced next mem).1)
            (fun next mem _ => once lapsed next mem hit)
          exact .inr ⟨rfl,kept,by rw [silent,append_nil]⟩
      · have same : groupOffer go limits view { rule, stepIndex := index } (some st) = (some st,none) := by
          simp [groupOffer,live,here]
        simp only [map_cons,groupPass,same]
        exact ih later

lemma nextIndices_positive {behavior : String} : ∀ index ∈ nextIndices seq behavior, 0 < index := by
  intro index mem
  have bounds := (mem_filter.mp mem).1
  simp only [mem_range'_1] at bounds
  omega

lemma matchesAt_behavior (named : ∀ step ∈ seq.steps, step.behavior ≠ "")
    {index : Nat} {values : StepValues} (hit : matchesAt go view seq index values = true) :
    ∃ step, seq.steps[index]? = some step ∧ view.behavior = step.behavior := by
  obtain ⟨step,here,hit⟩ := matchesAt_eq_true go view hit
  have named := named step (mem_of_getElem? here)
  refine ⟨step,here,?_⟩
  simp only [matchCompiledStep,named,decide_false,Bool.false_or,Bool.and_eq_true,decide_eq_true_eq] at hit
  exact hit.1.1

end

/-! Properties of the groups of a sequence rule along a run: what holds of a new group and is kept by
every event that is counted holds of all groups, whatever else happens to them. -/

structure KeptBy (go : Stdlib) (limits : EngineLimits) (seq : CompiledSequence) (view : EventView) (P : GroupState → Prop)
    (Q : Completion → Prop) : Prop where
  fresh : P {}
  startOver : ∀ st, P st → P st.reset
  advance : ∀ st step next, P st → st.expired view.eventTime = false → seq.steps[st.stepIndex]? = some step →
    matchCompiledStep go view step st.values = true → P (st.waitingFor go limits view seq step next)
  complete : ∀ st step, P st → st.expired view.eventTime = false → seq.steps[st.stepIndex]? = some step →
    matchCompiledStep go view step st.values = true → seq.steps[st.stepIndex + 1]? = none →
      Q (appendRefs [] (st.counted go limits view seq step).refs,(st.counted go limits view seq step).entities)

lemma expired_of_mem_liveAt (live : st ∈ liveAt now prior) : st.expired now = false := by
  simp only [liveAt,Option.mem_def,Option.filter_eq_some_iff] at live
  simpa using live.2

section
variable {go : Stdlib} {limits : EngineLimits} {view : EventView} {rule : CompiledSequenceRule}
  {P : GroupState → Prop} {Q : Completion → Prop} (kept : KeptBy go limits rule.sequence view P Q)
include kept

lemma KeptBy.count {st : GroupState} (holds : P st) (live : st.expired view.eventTime = false) :
    (∀ after ∈ (groupCount go limits view rule.sequence st).1, P after) ∧
      ∀ done ∈ (groupCount go limits view rule.sequence st).2, Q done := by
  cases hit : matchesAt go view rule.sequence st.stepIndex st.values with
  | false =>
    rw [groupCount_miss go limits view hit]
    exact ⟨by rintro _ ⟨⟩; exact holds,nofun⟩
  | true =>
    obtain ⟨step,here,hit⟩ := matchesAt_eq_true go view hit
    cases more : rule.sequence.steps[st.stepIndex + 1]? with
    | none =>
      rw [groupCount_done go limits view here hit more]
      exact ⟨nofun,by rintro _ ⟨⟩; exact kept.complete st step holds live here hit more⟩
    | some next =>
      rw [groupCount_next go limits view here hit more]
      exact ⟨by rintro _ ⟨⟩; exact kept.advance st step next holds live here hit,nofun⟩

variable {prior : Option GroupState}

lemma KeptBy.offer {c : SequenceCandidate} (own : c.rule = rule) (holds : ∀ st ∈ prior, P st) :
    (∀ after ∈ (groupOffer go limits view c prior).1, P after) ∧ ∀ done ∈ (groupOffer go limits view c prior).2, Q done := by
  subst own
  have advanced {st : GroupState} (good : P st) (live : st.expired view.eventTime = false) :
      (∀ after ∈ (groupAdvance go limits view c.rule.sequence st).1, P after) ∧
        ∀ done ∈ (groupAdvance go limits view c.rule.sequence st).2, Q done := by
    rw [groupAdvance]
    split
    · exact kept.count (kept.startOver st good) live
    · exact kept.count good live
  simp only [groupOffer]
  split
  · simp
  · rename_i st live _
    have good := holds st (mem_liveAt live)
    split
    · exact advanced good (expired_of_mem_liveAt live)
    · exact ⟨by rintro _ ⟨⟩; exact good,by simp⟩
  · rename_i st live _
    have good := holds st (mem_liveAt live)
    have lives : st.expired view.eventTime = false := expired_of_mem_liveAt live
    split
    · exact advanced good lives
    split
    · exact advanced (kept.startOver st good) lives
    · exact ⟨by rintro _ ⟨⟩; exact good,by simp⟩
  · exact advanced kept.fresh rfl

lemma KeptBy.pass (candidates : List SequenceCandidate) (own : ∀ c ∈ candidates, c.rule = rule)
    (holds : ∀ st ∈ prior, P st) : (∀ after ∈ (groupPass go limits view candidates prior).1, P after) ∧
      ∀ done ∈ (groupPass go limits view candidates prior).2, Q done := by
  induction candidates generalizing prior with
  | nil => exact ⟨holds,nofun⟩
  | cons c candidates ih =>
    obtain ⟨group,completed⟩ := kept.offer (own c mem_cons_self) holds
    obtain ⟨groups,others⟩ := ih (fun other mem => own other (mem_cons_of_mem _ mem)) group
    refine ⟨groups,fun done mem => ?_⟩
    rcases mem_append.mp mem with first | later
    · exact completed done (Option.mem_toList.mp first)
    · exact others done later

end

lemma processAll_holds {go : Stdlib} {e : Engine} {all : List EventView} {I : List EventView → EngineState → Prop}
    {Q : List EventView → Turn → Signal → Prop} (step : ∀ views turn s, views ++ [newEventView go turn.event] <+: all → I views s →
      I (views ++ [newEventView go turn.event]) (process go e turn.chance s turn.event).1 ∧
        ∀ sig ∈ (process go e turn.chance s turn.event).2, Q (views ++ [newEventView go turn.event]) turn sig)
    (turns : List Turn) {s : EngineState} {views : List EventView}
    (listed : views ++ turns.map (fun turn => newEventView go turn.event) <+: all) (holds : I views s) :
    I (views ++ turns.map fun turn => newEventView go turn.event) (processAll go e turns s).1 ∧
      ∀ place signals, (processAll go e turns s).2[place]? = some signals → ∀ sig ∈ signals, ∃ turn, turns[place]? = some turn ∧
        Q (views ++ (turns.take (place + 1)).map fun turn => newEventView go turn.event) turn sig := by
  induction turns generalizing s views with
  | nil => exact ⟨by simpa [processAll] using holds,nofun⟩
  | cons turn turns ih =>
    have split (more : List Turn) : views ++ (turn :: more).map (fun turn => newEventView go turn.event) =
        (views ++ [newEventView go turn.event]) ++ more.map fun turn => newEventView go turn.event := by simp
    rw [split] at listed
    obtain ⟨kept,reports⟩ := step views turn s ((prefix_append _ _).trans listed) holds
    obtain ⟨final,others⟩ := ih listed kept
    refine ⟨by rw [split]; exact final,fun place signals emitted sig raised => ?_⟩
    cases place with
    | zero =>
      obtain rfl : (process go e turn.chance s turn.event).2 = signals := Option.some.inj emitted
      exact ⟨turn,rfl,by simpa using reports sig raised⟩
    | succ place =>
      obtain ⟨later,there,holds⟩ := others place signals emitted sig raised
      exact ⟨later,there,by rw [take_succ_cons,split]; exact holds⟩

lemma mem_ofRule {ruleID : String} {signals : List Signal} {refs : List String} :
    refs ∈ ofRule ruleID signals ↔ ∃ sig ∈ signals, sig.ruleId = ruleID ∧ sig.eventRefs = refs := by
  simp [ofRule,and_assoc]

section
variable {go : Stdlib} {e : Engine} {rule : CompiledSequenceRule} {P : List EventView → String → GroupState → Prop}
  {Q : List EventView → Completion → Prop} {all : List EventView} (runs : Runs e rule)
  (later : ∀ views view key st, P views key st → P (views ++ [view]) key st)
  (kept : ∀ views view, views ++ [view] <+: all → KeptBy go e.limits rule.sequence view
    (P (views ++ [view]) (compiledSequenceGroupKey view rule.sequence.by_)) (Q (views ++ [view])))
include runs later kept

variable {s : EngineState} {views : List EventView}

lemma process_kept (turn : Turn) (listed : views ++ [newEventView go turn.event] <+: all)
    (holds : ∀ key st, (s.groupsOf rule.rule.spec.ruleID).lookup key = some st → P views key st) :
    (∀ key st, ((process go e turn.chance s turn.event).1.groupsOf rule.rule.spec.ruleID).lookup key = some st →
      P (views ++ [newEventView go turn.event]) key st) ∧
    ∀ refs ∈ ofRule rule.rule.spec.ruleID (process go e turn.chance s turn.event).2,
      ∃ done, Q (views ++ [newEventView go turn.event]) done ∧ refs = reportedRefs turn.event done := by
  cases subject : turn.event.subjectProc.isSome with
  | false =>
    rw [process_ignored go e turn.chance s subject]
    exact ⟨fun key st found => later _ _ key st (holds key st found),nofun⟩
  | true =>
    have passed := process_passed runs go turn.chance s subject
    obtain ⟨group,completed⟩ := (kept views (newEventView go turn.event) listed).pass
      (ruleCandidates rule (newEventView go turn.event).behavior _) ruleCandidates_rule
      fun st mem => later _ _ _ st (holds _ st mem)
    refine ⟨fun key st found => ?_,fun refs mem => ?_⟩
    · by_cases same : key = compiledSequenceGroupKey (newEventView go turn.event) rule.sequence.by_
      · subst same
        exact group st (passed.group ▸ found)
      · rcases passed.others key same with old | gone
        · exact later _ _ key st (holds key st (old ▸ found))
        · rw [gone] at found
          cases found
    · rw [passed.reports] at mem
      obtain ⟨done,listed,rfl⟩ := mem_map.mp mem
      exact ⟨done,completed done listed,rfl⟩

lemma processAll_kept (turns : List Turn) (listed : views ++ turns.map (fun turn => newEventView go turn.event) <+: all)
    (holds : ∀ key st, (s.groupsOf rule.rule.spec.ruleID).lookup key = some st → P views key st) :
    (∀ key st, ((processAll go e turns s).1.groupsOf rule.rule.spec.ruleID).lookup key = some st →
      P (views ++ turns.map fun turn => newEventView go turn.event) key st) ∧
    ∀ place signals, (processAll go e turns s).2[place]? = some signals → ∀ refs ∈ ofRule rule.rule.spec.ruleID signals,
      ∃ done turn, turns[place]? = some turn ∧ refs = reportedRefs turn.event done ∧
        Q (views ++ (turns.take (place + 1)).map fun turn => newEventView go turn.event) done := by
  obtain ⟨final,reports⟩ := processAll_holds (Q := fun views turn sig => sig.ruleId = rule.rule.spec.ruleID →
    ∃ done, Q views done ∧ sig.eventRefs = reportedRefs turn.event done) (fun views turn s listed holds => by
      obtain ⟨groups,reports⟩ := process_kept runs later kept turn listed holds
      exact ⟨groups,fun sig raised mine => reports _ (mem_ofRule.mpr ⟨sig,raised,mine,rfl⟩)⟩) turns listed holds
  refine ⟨final,fun place signals emitted refs mem => ?_⟩
  obtain ⟨sig,raised,mine,rfl⟩ := mem_ofRule.mp mem
  obtain ⟨turn,there,report⟩ := reports place signals emitted sig raised
  obtain ⟨done,holds,same⟩ := report mine
  exact ⟨done,turn,there,same,holds⟩

end

end SysArmor.Detection
