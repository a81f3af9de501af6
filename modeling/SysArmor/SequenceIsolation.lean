import SysArmor.SequenceEvidence

/-! Isolation of the groups of a sequence rule. A run on all events and a run on the events of
one group keep the same state for the group, up to an expired state that one of them has
already removed, unless other groups decide whether the event that starts a sequence is also
offered to its second step. -/
namespace SysArmor.Detection
open GoText Proto List

section
open Bool

section
variable {go : Stdlib} {limits : EngineLimits} {view : EventView} {rule : CompiledSequenceRule}
variable {prior : Option GroupState}

lemma groupOffer_placed (steps : rule.sequence.steps ≠ []) {c : SequenceCandidate} (own : c.rule = rule)
    (placed : ∀ st ∈ prior, Placed rule.sequence st) : ∀ st ∈ (groupOffer go limits view c prior).1, Placed rule.sequence st := by
  subst own
  have counted (st : GroupState) (here : Placed c.rule.sequence st) :
      ∀ next ∈ (groupAdvance go limits view c.rule.sequence st).1, Placed c.rule.sequence next := by
    rw [groupAdvance_inside go limits view here.inside]
    intro next mem
    cases hit : matchesAt go view c.rule.sequence st.stepIndex st.values with
    | false =>
      rw [groupCount_miss go limits view hit] at mem
      cases mem
      exact here
    | true =>
      obtain ⟨_,_,_,advanced⟩ := groupCount_advanced go limits view hit
      exact (advanced next mem).1
  intro st mem
  unfold groupOffer at mem
  simp only [] at mem
  split at mem
  · cases mem
  · rename_i st live _
    split at mem
    · exact counted st (placed st (mem_liveAt live)) _ mem
    · cases mem
      exact placed st (mem_liveAt live)
  · rename_i st live _
    split at mem
    · exact counted st (placed st (mem_liveAt live)) _ mem
    split at mem
    · rename_i hit
      have restarted : groupAdvance go limits view c.rule.sequence st.reset =
          groupCount go limits view c.rule.sequence st.reset :=
        groupAdvance_inside go limits view (length_pos_iff.mpr steps)
      rw [restarted] at mem
      have again : matchesAt go view c.rule.sequence st.reset.stepIndex st.reset.values = true := hit
      obtain ⟨_,_,_,advanced⟩ := groupCount_advanced go limits view again
      exact (advanced _ mem).1
    · cases mem
      exact placed st (mem_liveAt live)
  · exact counted {} (placed_fresh steps) _ mem

lemma groupPass_placed (steps : rule.sequence.steps ≠ []) {candidates : List SequenceCandidate}
    (own : ∀ c ∈ candidates, c.rule = rule) (placed : ∀ st ∈ prior, Placed rule.sequence st) :
    ∀ st ∈ (groupPass go limits view candidates prior).1, Placed rule.sequence st := by
  induction candidates generalizing prior with
  | nil => exact placed
  | cons c candidates ih =>
    exact ih (fun other mem => own other (mem_cons_of_mem _ mem))
      (groupOffer_placed steps (own c mem_cons_self) placed)

lemma process_placed {e : Engine} {s : EngineState} {key : String} (runs : Runs e rule) (chance : Chance) (ev : CanonicalEvent)
    (placed : ∀ st ∈ (s.groupsOf rule.rule.spec.ruleID).lookup key, Placed rule.sequence st) :
    ∀ st ∈ ((process go e chance s ev).1.groupsOf rule.rule.spec.ruleID).lookup key, Placed rule.sequence st := by
  cases subject : ev.subjectProc.isSome with
  | false => rwa [process_ignored go e chance s subject]
  | true =>
    have passed := process_passed runs go chance s subject
    by_cases own : key = compiledSequenceGroupKey (newEventView go ev) rule.sequence.by_
    · rw [own] at placed ⊢
      rw [passed.group]
      exact groupPass_placed runs.steps ruleCandidates_rule placed
    · intro st mem
      rcases passed.others key own with same | gone
      · exact placed st (same ▸ mem)
      · rw [gone] at mem
        cases mem

end

def Agree (first second : Option GroupState) : Prop := first = second ∨ first = none ∨ second = none

variable {first second : Option GroupState}

lemma Agree.symm (agree : Agree first second) : Agree second first := by
  rcases agree with same | gone | gone
  · exact .inl same.symm
  · exact .inr (.inr gone)
  · exact .inr (.inl gone)

lemma Agree.shrink {after : Option GroupState} (agree : Agree first second)
    (left : after = first ∨ after = none) : Agree after second := by
  rcases left with rfl | rfl
  · exact agree
  · exact .inr (.inl rfl)

def expiredApart (now : UInt64) : Option GroupState → Option GroupState → Bool
  | some st, none | none, some st => st.expired now
  | _, _ => true

lemma Agree.live {now : UInt64} (agree : Agree first second)
    (held : expiredApart now first second = true) : liveAt now first = liveAt now second := by
  rcases agree with rfl | rfl | rfl
  · rfl
  · cases second with
    | none => rfl
    | some st =>
      have lapsed : st.expired now = true := held
      simp [liveAt,Option.filter,lapsed]
  · cases first with
    | none => rfl
    | some st =>
      have lapsed : st.expired now = true := held
      simp [liveAt,Option.filter,lapsed]

section
variable {go : Stdlib} {limits : EngineLimits} {view : EventView} {rule : CompiledSequenceRule}
  {first second : Option GroupState}

lemma liveAt_liveAt (now : UInt64) (prior : Option GroupState) : liveAt now (liveAt now prior) = liveAt now prior := by
  cases prior with
  | none => rfl
  | some st => cases lapsed : st.expired now <;> simp [liveAt,Option.filter,lapsed]

lemma liveAt_agree (now : UInt64) (prior : Option GroupState) : Agree (liveAt now prior) prior := by
  cases prior with
  | none => exact .inl rfl
  | some st => cases lapsed : st.expired now <;> simp [Agree,liveAt,Option.filter,lapsed]

lemma groupPass_agree (agree : Agree first second)
    (live : liveAt view.eventTime first = liveAt view.eventTime second) (candidates : List SequenceCandidate) :
    Agree (groupPass go limits view candidates first).1 (groupPass go limits view candidates second).1 ∧
      (groupPass go limits view candidates first).2 = (groupPass go limits view candidates second).2 := by
  cases candidates with
  | nil => exact ⟨agree,rfl⟩
  | cons c rest =>
    have same := groupPass_live go limits view (cons_ne_nil c rest) live
    exact ⟨.inl (by rw [same]),by rw [same]⟩

lemma nextPass_agree (agree : Agree first second) (live : liveAt view.eventTime first = liveAt view.eventTime second)
    (placed : ∀ st ∈ first, Placed rule.sequence st) (idle : ∀ st ∈ liveAt view.eventTime first, 0 < st.stepIndex →
      matchesAt go view rule.sequence st.stepIndex st.values = false) :
    Agree (groupPass go limits view (nextCandidates rule view.behavior) first).1 second ∧
      (groupPass go limits view (nextCandidates rule view.behavior) first).2 = [] := by
  cases candidates : nextCandidates rule view.behavior with
  | nil => exact ⟨agree,rfl⟩
  | cons c rest =>
    have same := groupPass_live go limits view (cons_ne_nil c rest) (liveAt_liveAt view.eventTime first).symm
    obtain ⟨kept,silent⟩ := groupPass_idle go limits view (nextIndices rule.sequence view.behavior)
      nextIndices_positive (fun st mem => placed st (mem_liveAt mem)) idle
    have listed : (nextIndices rule.sequence view.behavior).map
        (fun stepIndex => ({ rule, stepIndex } : SequenceCandidate)) = c :: rest := candidates
    rw [listed] at kept silent
    rw [same]
    refine ⟨?_,silent⟩
    exact (live ▸ liveAt_agree view.eventTime second).shrink kept

lemma firstPass_idle (steps : rule.sequence.steps ≠ []) (placed : ∀ st ∈ first, Placed rule.sequence st)
    (idle : ∀ st ∈ liveAt view.eventTime first, 0 < st.stepIndex → matchesAt go view rule.sequence st.stepIndex st.values = false)
    (once : matchesNext go view rule.sequence 0 ∅ = false) :
    ∀ st ∈ (groupOffer go limits view { rule, firstStep := true } first).1, 0 < st.stepIndex →
      matchesAt go view rule.sequence st.stepIndex st.values = false := by
  intro st mem pos
  cases hit : matchesAt go view rule.sequence 0 ∅ with
  | true =>
    obtain ⟨base,zero,empty,-,offer⟩ := groupOffer_first_hit go limits view steps placed hit
    rw [offer] at mem
    rw [← zero,← empty] at hit once
    exact (counted_misses limits hit once st mem).2
  | false =>
    rw [groupOffer_first_miss go limits view steps placed hit] at mem
    cases live : liveAt view.eventTime first with
    | none =>
      rw [live] at mem
      cases mem
      exact absurd pos (by decide)
    | some other =>
      rw [live] at mem
      cases mem
      exact idle other live pos

lemma rulePass_extra (steps : rule.sequence.steps ≠ []) (agree : Agree first second)
    (live : liveAt view.eventTime first = liveAt view.eventTime second)
    (placed : ∀ st ∈ first, Placed rule.sequence st) (idle : ∀ st ∈ liveAt view.eventTime first, 0 < st.stepIndex →
      matchesAt go view rule.sequence st.stepIndex st.values = false) (once : matchesNext go view rule.sequence 0 ∅ = false) :
    let offered := groupPass go limits view (ruleCandidates rule view.behavior true) first
    let plain := groupPass go limits view (ruleCandidates rule view.behavior false) second
    Agree offered.1 plain.1 ∧ offered.2 = plain.2 := by
  simp only [ruleCandidates_eq steps,groupPass_append,if_true,false_eq_true,if_false,append_nil]
  by_cases same : (rule.sequence.steps[0]?.map (·.behavior)).getD "" = view.behavior
  · have tried : firstCandidates rule view.behavior = [{ rule, firstStep := true }] := if_pos same
    rw [tried,← groupPass_live go limits view (cons_ne_nil _ _) live]
    have middle : (groupPass go limits view [{ rule, firstStep := true }] first).1 =
        (groupOffer go limits view { rule, firstStep := true } first).1 := rfl
    rw [middle]
    obtain ⟨kept,silent⟩ := nextPass_agree (.inl rfl) rfl (groupOffer_placed steps rfl placed)
      (fun st mem => firstPass_idle steps placed idle once st (mem_liveAt mem))
    exact ⟨kept,by rw [silent,append_nil]⟩
  · have tried : firstCandidates rule view.behavior = [] := if_neg same
    rw [tried]
    exact nextPass_agree agree live placed idle

lemma rulePass_agree (go : Stdlib) (limits : EngineLimits) (waits waits' : Bool) (steps : rule.sequence.steps ≠ [])
    (agree : Agree first second) (live : liveAt view.eventTime first = liveAt view.eventTime second)
    (placed : ∀ st ∈ first, Placed rule.sequence st) (placed' : ∀ st ∈ second, Placed rule.sequence st)
    (idle : waits ≠ waits' → ∀ st ∈ liveAt view.eventTime first, 0 < st.stepIndex →
      matchesAt go view rule.sequence st.stepIndex st.values = false)
    (once : matchesNext go view rule.sequence 0 ∅ = true → waits = waits') :
    let whole := groupPass go limits view (ruleCandidates rule view.behavior waits) first
    let own := groupPass go limits view (ruleCandidates rule view.behavior waits') second
    Agree whole.1 own.1 ∧ whole.2 = own.2 := by
  have apart (ne : waits ≠ waits') : matchesNext go view rule.sequence 0 ∅ = false :=
    eq_false_iff.mpr fun twice => ne (once twice)
  cases waits with
  | false =>
    cases waits' with
    | false => exact groupPass_agree agree live _
    | true =>
      obtain ⟨kept,same⟩ := rulePass_extra steps agree.symm live.symm placed'
        (live ▸ idle false_ne_true) (apart false_ne_true)
      exact ⟨kept.symm,same.symm⟩
  | true =>
    cases waits' with
    | false => exact rulePass_extra steps agree live placed (idle false_ne_true.symm) (apart false_ne_true.symm)
    | true => exact groupPass_agree agree live _

end

/-- An event with what the runtime chooses in the run on all events and, if it is one of the
group, in the run on the events of the group. -/
structure JointTurn where
  event : CanonicalEvent
  (chance alone : Chance)

def JointTurn.whole (turn : JointTurn) : Turn := ⟨turn.event,turn.chance⟩
def JointTurn.own (turn : JointTurn) : Turn := ⟨turn.event,turn.alone⟩

def ofGroup (go : Stdlib) (rule : CompiledSequenceRule) (key : String) (ev : CanonicalEvent) : Bool :=
  compiledSequenceGroupKey (newEventView go ev) rule.sequence.by_ = key

def reported (go : Stdlib) (e : Engine) (rule : CompiledSequenceRule) (turns : List Turn) (s : EngineState) :
    List (CanonicalEvent × List (List String)) :=
  (turns.map (·.event)).zip ((processAll go e turns s).2.map (ofRule rule.rule.spec.ruleID))

/-- Before an event of the group: a state of the group that only one of the runs holds has
expired, and if the event matches the first step and then the second, the rule waits for its
behaviour in both runs or in none. -/
def undisturbed (go : Stdlib) (rule : CompiledSequenceRule) (view : EventView) (whole own : EngineState) : Bool :=
  let ruleID := rule.rule.spec.ruleID
  let key := compiledSequenceGroupKey view rule.sequence.by_
  let waits (s : EngineState) := decide (0 < s.cepActive.count view.behavior ruleID)
  expiredApart view.eventTime ((whole.groupsOf ruleID).lookup key) ((own.groupsOf ruleID).lookup key) &&
    (!matchesNext go view rule.sequence 0 ∅ || waits whole == waits own)

def undisturbedRun (go : Stdlib) (e : Engine) (rule : CompiledSequenceRule) (key : String) :
    List JointTurn → EngineState → EngineState → Bool
  | [], _, _ => true
  | turn :: rest, whole, own =>
    let after := (process go e turn.chance whole turn.event).1
    if ofGroup go rule key turn.event then
      (turn.event.subjectProc.isNone || undisturbed go rule (newEventView go turn.event) whole own) &&
        undisturbedRun go e rule key rest after (process go e turn.alone own turn.event).1
    else undisturbedRun go e rule key rest after own

/-- The two runs after some events: the group's states agree and are placed, and the counters
of the rule are exact. -/
structure Joined (rule : CompiledSequenceRule) (key : String) (whole own : EngineState) : Prop where
  agree : Agree ((whole.groupsOf rule.rule.spec.ruleID).lookup key) ((own.groupsOf rule.rule.spec.ruleID).lookup key)
  placed : ∀ st ∈ (whole.groupsOf rule.rule.spec.ruleID).lookup key, Placed rule.sequence st
  placed' : ∀ st ∈ (own.groupsOf rule.rule.spec.ruleID).lookup key, Placed rule.sequence st
  indexed : Indexed rule.rule.spec.ruleID (whole.groupsOf rule.rule.spec.ruleID) whole.cepActive
  indexed' : Indexed rule.rule.spec.ruleID (own.groupsOf rule.rule.spec.ruleID) own.cepActive

section
variable {go : Stdlib} {e : Engine} {rule : CompiledSequenceRule} {whole own : EngineState} {key : String}

lemma joined_initial (rule : CompiledSequenceRule) (key : String) : Joined rule key {} {} := by
  have exact : Indexed rule.rule.spec.ruleID (({} : EngineState).groupsOf rule.rule.spec.ruleID)
      ({} : EngineState).cepActive := by
    intro behavior _
    simp [Waits.count,EngineState.groupsOf]
  exact ⟨.inl rfl,by simp [EngineState.groupsOf],by simp [EngineState.groupsOf],exact,exact⟩

section
variable (joined : Joined rule key whole own)
include joined

lemma Joined.waited
    (named : ∀ step ∈ rule.sequence.steps, step.behavior ≠ "") {view : EventView}
    (live : liveAt view.eventTime ((whole.groupsOf rule.rule.spec.ruleID).lookup key) =
      liveAt view.eventTime ((own.groupsOf rule.rule.spec.ruleID).lookup key))
    {st : GroupState} (mem : st ∈ liveAt view.eventTime ((whole.groupsOf rule.rule.spec.ruleID).lookup key))
    (pos : 0 < st.stepIndex) (hit : matchesAt go view rule.sequence st.stepIndex st.values = true) :
    (0 < whole.cepActive.count view.behavior rule.rule.spec.ruleID ↔
      0 < own.cepActive.count view.behavior rule.rule.spec.ruleID) := by
  have found := mem_liveAt mem
  have found' := mem_liveAt (live ▸ mem)
  obtain ⟨step,here,waiting⟩ := (joined.placed st found).waiting pos
  obtain ⟨_,there,behavior⟩ := matchesAt_behavior go view named hit
  obtain rfl := Option.some.inj (here.symm.trans there)
  have filled : step.behavior ≠ "" := named step (mem_of_getElem? here)
  rw [behavior]
  by_cases blank : rule.rule.spec.ruleID = ""
  · rw [joined.indexed _ filled,joined.indexed' _ filled,if_pos blank,if_pos blank]
  have counted := joined.indexed.counted found blank (waiting ▸ filled)
  have counted' := joined.indexed'.counted found' blank (waiting ▸ filled)
  rw [waiting] at counted counted'
  exact iff_of_true counted counted'

lemma Joined.event (runs : Runs e rule) (turn : JointTurn)
    (mine : ofGroup go rule key turn.event = true)
    (quiet : (turn.event.subjectProc.isNone || undisturbed go rule (newEventView go turn.event) whole own) = true) :
    Joined rule key (process go e turn.chance whole turn.event).1 (process go e turn.alone own turn.event).1 ∧
      ofRule rule.rule.spec.ruleID (process go e turn.chance whole turn.event).2 =
        ofRule rule.rule.spec.ruleID (process go e turn.alone own turn.event).2 := by
  obtain rfl : compiledSequenceGroupKey (newEventView go turn.event) rule.sequence.by_ = key :=
    of_decide_eq_true mine
  cases subject : turn.event.subjectProc.isSome with
  | false =>
    rw [process_ignored go e turn.chance whole subject,process_ignored go e turn.alone own subject]
    exact ⟨joined,rfl⟩
  | true =>
    have passed := process_passed runs go turn.chance whole subject
    have passed' := process_passed runs go turn.alone own subject
    simp only [] at passed passed'
    have calm : undisturbed go rule (newEventView go turn.event) whole own = true := by
      simpa [Option.isNone_iff_eq_none,Option.isSome_iff_ne_none.mp subject] using quiet
    simp only [undisturbed,and_eq_true,or_eq_true,not_eq_true',beq_iff_eq] at calm
    have live := joined.agree.live calm.1
    obtain ⟨agree,reports⟩ := rulePass_agree go e.limits
      (0 < whole.cepActive.count (newEventView go turn.event).behavior rule.rule.spec.ruleID)
      (0 < own.cepActive.count (newEventView go turn.event).behavior rule.rule.spec.ruleID)
      runs.steps joined.agree live joined.placed joined.placed'
      (by
        intro ne st mem pos
        apply eq_false_iff.mpr
        intro hit
        exact ne (decide_eq_decide.mpr (joined.waited runs.named live mem pos hit)))
      (fun twice => calm.2.resolve_left (by simp [twice]))
    refine ⟨⟨?_,process_placed runs _ _ joined.placed,process_placed runs _ _ joined.placed',
      process_indexed runs go _ joined.indexed _,process_indexed runs go _ joined.indexed' _⟩,?_⟩
    · rw [passed.group,passed'.group]
      exact agree
    · rw [passed.reports,passed'.reports,reports]

lemma Joined.foreign (runs : Runs e rule) (turn : JointTurn)
    (other : ofGroup go rule key turn.event = false) : Joined rule key (process go e turn.chance whole turn.event).1 own := by
  have ne : key ≠ compiledSequenceGroupKey (newEventView go turn.event) rule.sequence.by_ :=
    fun same => of_decide_eq_false other same.symm
  cases subject : turn.event.subjectProc.isSome with
  | false =>
    rw [process_ignored go e turn.chance whole subject]
    exact joined
  | true =>
    have left := (process_passed runs go turn.chance whole subject).others key ne
    exact ⟨joined.agree.shrink left,process_placed runs _ _ joined.placed,joined.placed',
      process_indexed runs go _ joined.indexed _,joined.indexed'⟩

end

lemma reported_cons (turn : Turn) (turns : List Turn) (s : EngineState) : reported go e rule (turn :: turns) s =
      (turn.event,ofRule rule.rule.spec.ruleID (process go e turn.chance s turn.event).2) ::
        reported go e rule turns (process go e turn.chance s turn.event).1 := rfl

lemma Joined.run (joined : Joined rule key whole own) (runs : Runs e rule) (turns : List JointTurn)
    (quiet : undisturbedRun go e rule key turns whole own = true) :
    (reported go e rule (turns.map (·.whole)) whole).filter (fun entry => ofGroup go rule key entry.1) =
      reported go e rule ((turns.filter fun turn => ofGroup go rule key turn.event).map (·.own)) own := by
  induction turns generalizing whole own with
  | nil => rfl
  | cons turn turns ih =>
    rw [map_cons,reported_cons]
    cases mine : ofGroup go rule key turn.event with
    | true =>
      simp only [undisturbedRun,mine,if_true,and_eq_true] at quiet
      obtain ⟨next,same⟩ := joined.event runs turn mine quiet.1
      rw [filter_cons_of_pos (by exact mine),filter_cons_of_pos (by exact mine),map_cons,reported_cons]
      exact congrArg₂ List.cons (Prod.ext rfl same) (ih next quiet.2)
    | false =>
      simp only [undisturbedRun,mine,false_eq_true,if_false] at quiet
      rw [filter_cons_of_neg (by exact eq_false_iff.mp mine),filter_cons_of_neg (by exact eq_false_iff.mp mine)]
      exact ih (joined.foreign runs turn mine) quiet

end

/-- Isolation of the groups of a sequence rule: if the group is undisturbed at each of its events,
the rule raises the same signals on the events of the group when all events are processed as
when only those of the group are. -/
theorem sequence_group_isolated {go : Stdlib} {strategy : Strategy} {policy : Option DetectionPolicy}
    {content : ContentSnapshot} {limits : EngineLimits} {e : Engine}
    (accepted : newWithRuntimeLimits go strategy policy content limits = .ok e)
    {rule : EffectiveRule} (member : rule ∈ e.rules) (kind : rule.runtimeType go = "sequence")
    (key : String) (turns : List JointTurn) :
    let compiled := compileSequenceRule go strategy content.toContentRefs rule
    undisturbedRun go e compiled key turns {} {} = true →
      (reported go e compiled (turns.map (·.whole)) {}).filter (fun entry => ofGroup go compiled key entry.1) =
        reported go e compiled ((turns.filter fun turn => ofGroup go compiled key turn.event).map (·.own)) {} := by
  intro compiled quiet
  exact (joined_initial compiled key).run (accepted_runs accepted member kind) turns quiet

def JointTurn.of (turn : Turn) : JointTurn := ⟨turn.event,turn.chance,turn.chance⟩

def startAndConnectAmong : List JointTurn :=
  (lineageEvent "0" "process.exec" "h" :: startAndConnect).map .of

theorem startAndConnectAmong_isolated :
    let rule := stepsCompiled "process.exec" "network.connect"
    (reported asciiStdlib (stepsEngine "process.exec" "network.connect") rule
        (startAndConnectAmong.map (·.whole)) {}).filter
      (fun entry => ofGroup asciiStdlib rule "lineage_id=g" entry.1) =
    reported asciiStdlib (stepsEngine "process.exec" "network.connect") rule
      ((startAndConnectAmong.filter fun turn => ofGroup asciiStdlib rule "lineage_id=g" turn.event).map (·.own)) {} := by
  apply sequence_group_isolated (stepsEngine_accepted (by decide +kernel)) (stepsEffective_mem _ _)
    (by decide +kernel)
  decide +kernel

/-- With two steps for one behaviour a process start in another lineage decides whether the only
process start of a lineage raises a signal. -/
theorem oneStartEach_disturbed :
    let rule := stepsCompiled "process.exec" "process.exec"
    let engine := stepsEngine "process.exec" "process.exec"
    newWithRuntimeLimits asciiStdlib .linear basePolicy (stepsContent "process.exec" "process.exec") {} =
      .ok engine ∧
    ((reported asciiStdlib engine rule ((oneStartEach.map .of).map JointTurn.whole) {}).filter
      fun entry => ofGroup asciiStdlib rule "lineage_id=g" entry.1).map (·.2) = [[["2"]]] ∧
    (reported asciiStdlib engine rule (((oneStartEach.map .of).filter fun turn =>
      ofGroup asciiStdlib rule "lineage_id=g" turn.event).map JointTurn.own) {}).map (·.2) = [[]] := by
  refine ⟨stepsEngine_accepted (by decide +kernel),?_,?_⟩
  · decide +kernel
  · decide +kernel
end

/-! The counters of waits along every run: they are exact for a rule with an id, and so the
candidates of an event include the step that a group stands at. -/
open AssocCount

structure Watched (rule : CompiledSequenceRule) (s : EngineState) : Prop where
  indexed : Indexed rule.rule.spec.ruleID (s.groupsOf rule.rule.spec.ruleID) s.cepActive
  placed : ∀ key, ∀ st ∈ (s.groupsOf rule.rule.spec.ruleID).lookup key, Placed rule.sequence st

section
variable {go : Stdlib} {e : Engine} {rule : CompiledSequenceRule} {s : EngineState} (runs : Runs e rule)
include runs

lemma Watched.process (watched : Watched rule s) (turn : Turn) : Watched rule (process go e turn.chance s turn.event).1 :=
  ⟨process_indexed runs go _ watched.indexed _,fun key => process_placed runs _ _ (watched.placed key)⟩

lemma Watched.run (watched : Watched rule s) (turns : List Turn) : Watched rule (processAll go e turns s).1 := by
  induction turns generalizing s with
  | nil => exact watched
  | cons turn turns ih => exact ih (watched.process runs turn)

lemma mem_candidatesForBehavior {index : Nat} {step : CompiledStep} {active : Waits} (here : rule.sequence.steps[index]? = some step)
    (waited : index ≠ 0 → 0 < active.count step.behavior rule.rule.spec.ruleID) :
    ⟨rule,index,index = 0⟩ ∈ candidatesForBehavior e step.behavior active := by
  have filled := runs.named step (mem_of_getElem? here)
  have inside := (List.getElem?_eq_some_iff.mp here).1
  have listed : ⟨rule,index,index = 0⟩ ∈ e.sequence := by
    refine mem_of_mem_filter (?_ : _ ∈ e.sequence.filter fun c => c.rule.rule.spec.ruleID = rule.rule.spec.ruleID)
    rw [runs.candidates,CompiledSequenceRule.candidates,if_neg runs.steps]
    cases index <;> simp
    omega
  simp only [candidatesForBehavior,mem_append,mem_filter]
  cases index with
  | zero => exact .inl (.inl ⟨listed,by simp [SequenceCandidate.behavior,here,filled]⟩)
  | succ index =>
    exact .inl (.inr ⟨⟨listed,by simp [SequenceCandidate.behavior,here,filled]⟩,by simpa using waited⟩)

end

/-- In every state that an accepted engine reaches, the counter of a rule with an id is the number of
its groups that wait for the behaviour, and the step at which a group stands is a candidate for its
behaviour. -/
theorem wait_index_exact {go : Stdlib} {strategy : Strategy} {policy : Option DetectionPolicy} {content : ContentSnapshot}
    {limits : EngineLimits} {e : Engine} (accepted : newWithRuntimeLimits go strategy policy content limits = .ok e)
    {rule : EffectiveRule} (member : rule ∈ e.rules) (kind : rule.runtimeType go = "sequence") (id : rule.spec.ruleID ≠ "")
    (turns : List Turn) :
    let compiled := compileSequenceRule go strategy content.toContentRefs rule
    let s := (processAll go e turns {}).1
    (∀ behavior, behavior ≠ "" → s.cepActive.count behavior rule.spec.ruleID =
      tally (GroupState.awaits behavior) (s.groupsOf rule.spec.ruleID)) ∧
    ∀ key st, (s.groupsOf rule.spec.ruleID).lookup key = some st → ∃ step,
      compiled.sequence.steps[st.stepIndex]? = some step ∧
        ⟨compiled,st.stepIndex,st.stepIndex = 0⟩ ∈ candidatesForBehavior e step.behavior s.cepActive := by
  intro compiled s
  have runs : Runs e compiled := accepted_runs accepted member kind
  have initial : Watched compiled {} :=
    ⟨(joined_initial compiled "").indexed,fun key => (joined_initial compiled key).placed⟩
  have watched : Watched compiled s := initial.run runs turns
  refine ⟨fun behavior named => (watched.indexed behavior named).trans (if_neg id),fun key st found => ?_⟩
  have placed := watched.placed key st found
  have here := getElem?_eq_getElem placed.inside
  refine ⟨_,here,mem_candidatesForBehavior runs here fun later => ?_⟩
  obtain ⟨step,there,waiting⟩ := placed.waiting (Nat.pos_of_ne_zero later)
  obtain rfl := Option.some.inj (here.symm.trans there)
  exact waiting ▸ watched.indexed.counted found id (waiting ▸ runs.named _ (mem_of_getElem? here))

/-- One event has begun the sequence of its process. -/
def executed : EngineState :=
  (processAll asciiStdlib (stepsEngine "process.exec" "network.connect") [lineageEvent "1" "process.exec" "g"] {}).1

theorem connect_awaited : executed.cepActive.count "network.connect" "steps" = 1 ∧
    executed.cepActive.count "network.connect" "steps" = tally (GroupState.awaits "network.connect") (executed.groupsOf "steps") := by
  refine ⟨by decide +kernel,?_⟩
  exact (wait_index_exact (stepsEngine_accepted (by decide +kernel)) (stepsEffective_mem "process.exec" "network.connect")
    (by decide +kernel) (by decide) [lineageEvent "1" "process.exec" "g"]).1 "network.connect" (by decide)

end SysArmor.Detection
