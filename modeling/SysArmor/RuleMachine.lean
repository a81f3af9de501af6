import SysArmor.AcceptedRules
import SysArmor.AssocCount

/-! One sequence rule inside the engine. The other rules neither touch its groups nor report
under its id, so an event does to the rule what its own candidates do, one after another, to
the event's group. -/
namespace SysArmor.Detection
open GoText

section
open Proto List

def ofRule (ruleID : String) (signals : List Signal) : List (List String) :=
  (signals.filter (·.ruleId = ruleID)).map (·.eventRefs)

def reportedRefs (ev : CanonicalEvent) (done : Completion) : List String :=
  if appendRefs [] done.1 = [] then [ev.id] else appendRefs [] done.1

variable {go : Stdlib} {e : Engine} {chance : Chance} {view : EventView} {s : EngineState}

@[simp] lemma signal_ruleId (ev : CanonicalEvent) (rule : EffectiveRule) (refs : List String)
    (terminal : Bool) (entities : List EntityRef) :
    (signal go e chance s ev rule refs terminal entities).2.ruleId = rule.spec.ruleID := rfl

@[simp] lemma signal_eventRefs (ev : CanonicalEvent) (rule : EffectiveRule) (done : Completion) (terminal : Bool) :
    (signal go e chance s ev rule done.1 terminal done.2).2.eventRefs = reportedRefs ev done := rfl

@[simp] lemma signal_cep (ev : CanonicalEvent) (rule : EffectiveRule) (refs : List String)
    (terminal : Bool) (entities : List EntityRef) : (signal go e chance s ev rule refs terminal entities).1.cep = s.cep := rfl

@[simp] lemma signal_cepActive (ev : CanonicalEvent) (rule : EffectiveRule) (refs : List String)
    (terminal : Bool) (entities : List EntityRef) :
    (signal go e chance s ev rule refs terminal entities).1.cepActive = s.cepActive := rfl

structure Apart (ruleID : String) (before : EngineState) (after : EngineState × Option Signal) : Prop where
  cep : after.1.cep = before.cep
  cepActive : after.1.cepActive = before.cepActive
  silent : ∀ sig ∈ after.2, sig.ruleId ≠ ruleID

lemma suppressSignal_cep {key : String} {now window : Int} : (suppressSignal chance s key now window).1.cep = s.cep ∧
      (suppressSignal chance s key now window).1.cepActive = s.cepActive := by
  unfold suppressSignal
  split
  · exact ⟨rfl,rfl⟩
  · split <;> exact ⟨rfl,rfl⟩

lemma suppressCompiledRule_cep {rule : CompiledExprRule} : (suppressCompiledRule chance s view rule).1.cep = s.cep ∧
      (suppressCompiledRule chance s view rule).1.cepActive = s.cepActive := by
  unfold suppressCompiledRule
  split
  · exact ⟨rfl,rfl⟩
  · exact suppressSignal_cep ..

variable {ruleID behavior : String} {I : EngineState → Prop} {Q : Signal → Prop} {c : SequenceCandidate}
variable {ev : CanonicalEvent} {rule : CompiledSequenceRule}

lemma detectExprRule_apart {rule : CompiledExprRule} (ne : rule.rule.spec.ruleID ≠ ruleID) :
    Apart ruleID s (detectExprRule go e chance view s rule) := by
  unfold detectExprRule
  obtain ⟨cep,cepActive⟩ := suppressCompiledRule_cep
  split
  · split
    · rename_i after suppressed
      rw [suppressed] at cep cepActive
      exact ⟨cep,cepActive,by simp⟩
    · rename_i after passed
      rw [passed] at cep cepActive
      exact ⟨cep,cepActive,by simpa using ne⟩
  · exact ⟨rfl,rfl,by simp⟩

lemma recordFacts_apart {rule : CompiledCorrelateRule} (ne : rule.rule.spec.ruleID ≠ ruleID) {groups : CorrelateGroups}
    {group : CorrelateGroup} : Apart ruleID s (recordFacts go e chance view s rule matched groups group) := by
  unfold recordFacts
  simp only []
  split
  · exact ⟨rfl,rfl,by simp⟩
  · exact ⟨rfl,rfl,by simpa using ne⟩

lemma detectCorrelateRule_apart {rule : CompiledCorrelateRule} (ne : rule.rule.spec.ruleID ≠ ruleID) :
    Apart ruleID s (detectCorrelateRule go e chance view s rule) := by
  unfold detectCorrelateRule
  simp only []
  split
  · exact ⟨rfl,rfl,by simp⟩
  · exact recordFacts_apart ne ..
  · exact recordFacts_apart ne ..

lemma detectAll_cons (detect : EngineState → α → EngineState × Option Signal) (item : α) (rest : List α) :
    detectAll detect (item :: rest) s = ((detectAll detect rest (detect s item).1).1,
        (detect s item).2.toList ++ (detectAll detect rest (detect s item).1).2) := rfl

lemma detectAll_holds {detect : EngineState → α → EngineState × Option Signal} {items : List α}
    (step : ∀ item ∈ items, ∀ s, I s → I (detect s item).1 ∧ ∀ sig ∈ (detect s item).2, Q sig)
    (holds : I s) : I (detectAll detect items s).1 ∧ ∀ sig ∈ (detectAll detect items s).2, Q sig := by
  induction items generalizing s with
  | nil => exact ⟨holds,by simp [detectAll]⟩
  | cons item items ih =>
    obtain ⟨kept,now⟩ := step item mem_cons_self s holds
    obtain ⟨after,later⟩ := ih (fun other mem => step other (mem_cons_of_mem _ mem)) kept
    refine ⟨after,fun sig raised => ?_⟩
    rcases mem_append.mp raised with first | rest
    · exact now sig (Option.mem_toList.mp first)
    · exact later sig rest

lemma mem_of_candidatesForBehavior {active : Waits}
    (mem : c ∈ candidatesForBehavior e behavior active) : c ∈ e.sequence := by
  simp only [candidatesForBehavior,mem_append,mem_filter] at mem
  rcases mem with (first | later) | agnostic
  · exact first.1
  · exact later.1.1
  · exact agnostic.1

lemma process_holds (exprs : ∀ rule ∈ e.compiled, ∀ s, I s → I (detectExprRule go e chance (newEventView go ev) s rule).1 ∧
      ∀ sig ∈ (detectExprRule go e chance (newEventView go ev) s rule).2, Q sig)
    (sequences : ∀ c ∈ e.sequence, ∀ s, I s → I (detectSequenceCandidate go e chance (newEventView go ev) s c).1 ∧
      ∀ sig ∈ (detectSequenceCandidate go e chance (newEventView go ev) s c).2, Q sig)
    (correlated : ∀ rule ∈ e.correlation, ∀ s, I s → I (detectCorrelateRule go e chance (newEventView go ev) s rule).1 ∧
      ∀ sig ∈ (detectCorrelateRule go e chance (newEventView go ev) s rule).2, Q sig)
    (holds : I s) : I (process go e chance s ev).1 ∧ ∀ sig ∈ (process go e chance s ev).2, Q sig := by
  rw [process]
  split
  · exact ⟨holds,by simp⟩
  obtain ⟨first,byExpr⟩ := detectAll_holds (fun rule mem => exprs rule
    ((mem_append.mp mem).elim mem_of_mem_filter mem_of_mem_filter)) holds
  obtain ⟨second,bySequence⟩ := detectAll_holds (fun c mem => sequences c (mem_of_candidatesForBehavior mem)) first
  obtain ⟨third,byCorrelate⟩ := detectAll_holds (fun rule mem => correlated rule (mem_of_mem_filter mem)) second
  refine ⟨third,fun sig raised => ?_⟩
  rcases mem_append.mp raised with early | last
  · exact (mem_append.mp early).elim (byExpr sig) (bySequence sig)
  · exact byCorrelate sig last

lemma ofRule_append (ruleID : String) (first second : List Signal) :
    ofRule ruleID (first ++ second) = ofRule ruleID first ++ ofRule ruleID second := by
  simp [ofRule]

lemma detectAll_apart {detect : EngineState → α → EngineState × Option Signal} {items : List α}
    (apart : ∀ item ∈ items, ∀ s, Apart ruleID s (detect s item)) (s : EngineState) :
    (detectAll detect items s).1.cep = s.cep ∧ (detectAll detect items s).1.cepActive = s.cepActive ∧
      ofRule ruleID (detectAll detect items s).2 = [] := by
  induction items generalizing s with
  | nil => exact ⟨rfl,rfl,rfl⟩
  | cons item items ih =>
    have first := apart item mem_cons_self s
    obtain ⟨cep,cepActive,silent⟩ :=
      ih (fun other mem => apart other (mem_cons_of_mem _ mem)) (detect s item).1
    rw [detectAll_cons]
    refine ⟨cep.trans first.cep,cepActive.trans first.cepActive,?_⟩
    rw [ofRule_append,silent,append_nil]
    simpa [ofRule] using first.silent

lemma detectSequenceCandidate_other (go : Stdlib) (e : Engine) (chance : Chance) (view : EventView)
    (s : EngineState) (ne : c.rule.rule.spec.ruleID ≠ ruleID) :
    (detectSequenceCandidate go e chance view s c).1.groupsOf ruleID = s.groupsOf ruleID ∧
      ∀ sig ∈ (detectSequenceCandidate go e chance view s c).2, sig.ruleId ≠ ruleID := by
  unfold detectSequenceCandidate
  split
  · simp only []
    split
    · simp [EngineState.groupsOf,AList.lookup_insert_ne ne.symm]
    · simp [EngineState.groupsOf,AList.lookup_insert_ne ne.symm,ne]
  · simp

lemma detectSequenceCandidate_own (go : Stdlib) (e : Engine) (chance : Chance) (view : EventView)
    (s : EngineState) (enabled : c.rule.rule.enabled = true) (steps : c.rule.sequence.steps ≠ []) :
    let offered := offerCandidate go e.limits chance view c ⟨s.groupsOf c.rule.rule.spec.ruleID,s.cepActive⟩
    let after := detectSequenceCandidate go e chance view s c
    after.1.groupsOf c.rule.rule.spec.ruleID = offered.1.groups ∧ after.1.cepActive = offered.1.active ∧
      ofRule c.rule.rule.spec.ruleID after.2.toList = (offered.2.toList.map (reportedRefs view.ev)) := by
  unfold detectSequenceCandidate
  simp only [enabled,steps,ne_eq,not_false_eq_true,decide_true,Bool.and_self,if_true]
  generalize offerCandidate go e.limits chance view c
    ⟨s.groupsOf c.rule.rule.spec.ruleID,s.cepActive⟩ = offered
  obtain ⟨after,_ | ⟨refs,entities⟩⟩ := offered
  · simp [EngineState.groupsOf,ofRule]
  refine ⟨?_,rfl,?_⟩
  · simp [EngineState.groupsOf]
  · simp only [ofRule,Option.toList_some,filter_cons,filter_nil,signal_ruleId,decide_true,if_true]
    rfl

/-- The candidates of one rule for an event: the first step if it has the event's behaviour, and
the later steps that have it while the rule waits for it. -/
def ruleCandidates (rule : CompiledSequenceRule) (behavior : String) (waits : Bool) : List SequenceCandidate :=
  rule.candidates.filter (fun c => c.firstStep && c.behavior = behavior) ++
    if waits then rule.candidates.filter (fun c => !c.firstStep && c.behavior = behavior) else []

lemma ruleCandidates_rule {waits : Bool} : ∀ c ∈ ruleCandidates rule behavior waits, c.rule = rule := by
  intro c mem
  rcases mem_append.mp mem with first | later
  · exact candidates_rule (mem_of_mem_filter first)
  split at later
  · exact candidates_rule (mem_of_mem_filter later)
  · cases later

lemma candidate_behavior_ne
    (named : ∀ step ∈ rule.sequence.steps, step.behavior ≠ "") (mem : c ∈ rule.candidates) : c.behavior ≠ "" := by
  have place : c.rule = rule ∧ c.stepIndex < rule.sequence.steps.length := by
    refine ⟨candidates_rule mem,?_⟩
    unfold CompiledSequenceRule.candidates at mem
    split at mem
    · cases mem
    rename_i filled
    have pos := length_pos_iff.mpr filled
    rcases mem_cons.mp mem with rfl | later
    · exact pos
    obtain ⟨index,bounds,rfl⟩ := mem_map.mp later
    simp only [mem_range'_1] at bounds
    exact (show index < rule.sequence.steps.length by omega)
  obtain ⟨rfl,bound⟩ := place
  simp [SequenceCandidate.behavior,getElem?_eq_getElem bound]
  exact named _ (getElem_mem bound)

lemma candidatesForBehavior_rule (runs : Runs e rule) (behavior : String) (active : Waits) :
    (candidatesForBehavior e behavior active).filter (fun c => c.rule.rule.spec.ruleID = rule.rule.spec.ruleID) =
      ruleCandidates rule behavior (0 < active.count behavior rule.rule.spec.ruleID) := by
  have own (p : SequenceCandidate → Bool) :
      (e.sequence.filter p).filter (fun c => c.rule.rule.spec.ruleID = rule.rule.spec.ruleID) =
        rule.candidates.filter p := by
    rw [← runs.candidates,filter_filter,filter_filter]
    simp only [Bool.and_comm]
  have first : rule.candidates.filter
      (fun c => c.firstStep && decide (c.behavior ≠ "") && decide (c.behavior = behavior)) =
      rule.candidates.filter (fun c => c.firstStep && decide (c.behavior = behavior)) := by
    apply filter_congr
    intro c mem
    simp [candidate_behavior_ne runs.named mem]
  have later : rule.candidates.filter
      (fun c => !c.firstStep && decide (c.behavior ≠ "") && decide (c.behavior = behavior)) =
      rule.candidates.filter (fun c => !c.firstStep && decide (c.behavior = behavior)) := by
    apply filter_congr
    intro c mem
    simp [candidate_behavior_ne runs.named mem]
  have agnostic : rule.candidates.filter (fun c => decide (c.behavior = "")) = [] := by
    apply filter_eq_nil_iff.mpr
    intro c mem
    simpa using candidate_behavior_ne runs.named mem
  have waiting (p : SequenceCandidate → Bool) :
      ((e.sequence.filter p).filter fun c => 0 < active.count behavior c.rule.rule.spec.ruleID).filter
          (fun c => c.rule.rule.spec.ruleID = rule.rule.spec.ruleID) =
        if 0 < active.count behavior rule.rule.spec.ruleID then rule.candidates.filter p else [] := by
    rw [filter_filter,← own,filter_filter]
    split
    · rename_i pos
      rw [filter_filter]
      apply filter_congr
      intro c _
      by_cases same : c.rule.rule.spec.ruleID = rule.rule.spec.ruleID <;> simp [same,pos]
    · rename_i zero
      apply filter_eq_nil_iff.mpr
      intro c _
      by_cases same : c.rule.rule.spec.ruleID = rule.rule.spec.ruleID <;> simp [same,zero]
  unfold candidatesForBehavior ruleCandidates
  rw [filter_append,filter_append,own,own,waiting,first,later,agnostic,append_nil]
  simp

/-- What an event did to a rule: its group and reports follow the pass of the candidates, and the
other groups are as before or gone. -/
structure Passed (ruleID key : String) (ev : CanonicalEvent) (before : EngineState)
    (after : EngineState × List Signal) (pass : Option GroupState × List Completion) : Prop where
  group : (after.1.groupsOf ruleID).lookup key = pass.1
  reports : ofRule ruleID after.2 = pass.2.map (reportedRefs ev)
  others : ∀ other, other ≠ key → (after.1.groupsOf ruleID).lookup other = (before.groupsOf ruleID).lookup other ∨
    (after.1.groupsOf ruleID).lookup other = none

lemma detectAll_passed (go : Stdlib) (e : Engine) (chance : Chance) (view : EventView) (enabled : rule.rule.enabled = true)
    (steps : rule.sequence.steps ≠ []) (candidates : List SequenceCandidate)
    (own : ∀ c ∈ candidates, c.rule.rule.spec.ruleID = rule.rule.spec.ruleID → c.rule = rule) (s : EngineState) :
    let key := compiledSequenceGroupKey view rule.sequence.by_
    Passed rule.rule.spec.ruleID key view.ev s
      (detectAll (detectSequenceCandidate go e chance view) candidates s)
      (groupPass go e.limits view
        (candidates.filter fun c => c.rule.rule.spec.ruleID = rule.rule.spec.ruleID)
        ((s.groupsOf rule.rule.spec.ruleID).lookup key)) := by
  intro key
  induction candidates generalizing s with
  | nil => exact ⟨rfl,rfl,fun _ _ => .inl rfl⟩
  | cons c candidates ih =>
    have later := ih (fun other mem => own other (mem_cons_of_mem _ mem))
      (detectSequenceCandidate go e chance view s c).1
    rw [detectAll_cons]
    by_cases mine : c.rule.rule.spec.ruleID = rule.rule.spec.ruleID
    · obtain rfl := own c mem_cons_self mine
      obtain ⟨groups,-,reports⟩ := detectSequenceCandidate_own go e chance view s enabled steps
      have follows := offerCandidate_follows go e.limits chance view c
        ⟨s.groupsOf c.rule.rule.spec.ruleID,s.cepActive⟩
      rw [filter_cons_of_pos (by simp),groupPass]
      rw [groups,follows.group] at later
      refine ⟨later.group,?_,?_⟩
      · rw [ofRule_append,reports,later.reports,follows.done,map_append]
      intro other ne
      rcases later.others other ne with same | gone
      · rw [same,groups,follows.others other ne]
        exact clearedFor_shrinks e.limits chance view c _ other
      · exact .inr gone
    · obtain ⟨groups,silent⟩ := detectSequenceCandidate_other go e chance view s mine
      rw [filter_cons_of_neg (by simpa using mine),← groups]
      refine ⟨later.group,?_,?_⟩
      · rw [ofRule_append,later.reports]
        simpa [ofRule] using silent
      intro other ne
      rw [← groups]
      exact later.others other ne

@[simp] lemma newEventView_ev (go : Stdlib) (ev : CanonicalEvent) : (newEventView go ev).ev = ev := by
  unfold newEventView
  cases ev.subjectProc <;> cases ev.object <;> cases ev.scope <;> rfl

lemma groupsOf_congr {old after : EngineState} (cep : after.cep = old.cep) (ruleID : String) :
    after.groupsOf ruleID = old.groupsOf ruleID := by
  rw [EngineState.groupsOf,cep,EngineState.groupsOf]

section
variable {rule : CompiledSequenceRule} (runs : Runs e rule)
include runs

variable {ev : CanonicalEvent}

lemma process_offered (go : Stdlib) (chance : Chance) (s : EngineState) (subject : ev.subjectProc.isSome = true) :
    ∃ tried : EngineState, tried.cep = s.cep ∧ tried.cepActive = s.cepActive ∧
      let view := newEventView go ev
      let offered := detectAll (detectSequenceCandidate go e chance view)
        (candidatesForBehavior e view.behavior s.cepActive) tried
      (process go e chance s ev).1.cep = offered.1.cep ∧
        (process go e chance s ev).1.cepActive = offered.1.cepActive ∧
        ofRule rule.rule.spec.ruleID (process go e chance s ev).2 = ofRule rule.rule.spec.ruleID offered.2 := by
  have looked : process go e chance s ev = detectCEPRules go e chance (newEventView go ev) s :=
    if_neg (by simpa using Option.isSome_iff_ne_none.mp subject)
  rw [looked]
  generalize newEventView go ev = view
  simp only [detectCEPRules]
  have exprs : ∀ other ∈ e.rulesForBehavior go view.behavior, ∀ s,
      Apart rule.rule.spec.ruleID s (detectExprRule go e chance view s other) := by
    intro other mem s
    apply detectExprRule_apart
    exact runs.exprs other ((mem_append.mp mem).elim mem_of_mem_filter mem_of_mem_filter)
  obtain ⟨cep,active,silent⟩ := detectAll_apart exprs s
  generalize detectAll (detectExprRule go e chance view) (e.rulesForBehavior go view.behavior) s = tried
    at cep active silent
  refine ⟨tried.1,cep,active,?_⟩
  rw [active]
  generalize detectAll (detectSequenceCandidate go e chance view)
    (candidatesForBehavior e view.behavior s.cepActive) tried.1 = offered
  have correlates : ∀ other ∈ e.correlatedForBehavior view.behavior, ∀ s,
      Apart rule.rule.spec.ruleID s (detectCorrelateRule go e chance view s other) :=
    fun other mem s => detectCorrelateRule_apart (runs.correlated other (mem_of_mem_filter mem))
  obtain ⟨same,kept,quiet⟩ := detectAll_apart correlates offered.1
  refine ⟨same,kept,?_⟩
  rw [ofRule_append,ofRule_append,silent,quiet,nil_append,append_nil]

lemma candidatesForBehavior_own {behavior : String} {active : Waits} {c : SequenceCandidate}
    (mem : c ∈ candidatesForBehavior e behavior active)
    (mine : c.rule.rule.spec.ruleID = rule.rule.spec.ruleID) : c.rule = rule := by
  apply candidates_rule
  rw [← runs.candidates]
  exact mem_filter.mpr ⟨mem_of_candidatesForBehavior mem,by simpa using mine⟩

lemma process_passed (go : Stdlib) (chance : Chance) (s : EngineState) (subject : ev.subjectProc.isSome = true) :
    let view := newEventView go ev
    let key := compiledSequenceGroupKey view rule.sequence.by_
    Passed rule.rule.spec.ruleID key ev s (process go e chance s ev)
      (groupPass go e.limits view
        (ruleCandidates rule view.behavior (0 < s.cepActive.count view.behavior rule.rule.spec.ruleID))
        ((s.groupsOf rule.rule.spec.ruleID).lookup key)) := by
  intro view key
  obtain ⟨tried,cep,active,offered,-,reports⟩ := process_offered runs go chance s subject
  have passed := detectAll_passed go e chance view runs.enabled runs.steps
    (candidatesForBehavior e view.behavior s.cepActive)
    (fun c mem mine => candidatesForBehavior_own runs mem mine) tried
  rw [candidatesForBehavior_rule runs,groupsOf_congr cep,newEventView_ev] at passed
  refine ⟨?_,reports.trans passed.reports,?_⟩
  · rw [groupsOf_congr offered]
    exact passed.group
  intro other ne
  rw [groupsOf_congr offered,← groupsOf_congr cep]
  exact passed.others other ne

end

lemma process_ignored (go : Stdlib) (e : Engine) (chance : Chance) (s : EngineState)
    (subject : ev.subjectProc.isSome = false) : process go e chance s ev = (s,[]) :=
  if_pos (by simpa using subject)
end

/-! The index of waits. For every behaviour the counter of a rule is the number of its groups
that wait for the behaviour; a rule without an id is never entered. -/
open AssocCount AList

section
variable (active : Waits) (ruleID other behavior asked : String)

lemma count_insert (rules : AList fun _ : String => Nat) : Waits.count (active.insert behavior rules) asked other =
      if asked = behavior then (rules.lookup other).getD 0 else active.count asked other := by
  by_cases same : asked = behavior
  · subst same
    simp [Waits.count]
  · simp [Waits.count,same,lookup_insert_ne same]

lemma count_activate : (activateSequenceWait active ruleID behavior).count asked other =
      active.count asked other + if ruleID ≠ "" ∧ asked = behavior ∧ other = ruleID then 1 else 0 := by
  unfold activateSequenceWait
  by_cases blank : ruleID = ""
  · simp [blank]
  rw [if_neg blank,count_insert]
  by_cases same : asked = behavior
  · subst same
    by_cases mine : other = ruleID
    · subst mine
      simp [blank]
    rw [if_pos rfl,lookup_insert_ne mine]
    cases found : active.lookup asked with
    | none => simp [Waits.count,found,mine]
    | some rules => simp [Waits.count,found,mine]
  · simp [same]

lemma count_setRow (rules : AList fun _ : String => Nat) : (active.setRow behavior rules).count asked other =
      if asked = behavior then (rules.lookup other).getD 0 else active.count asked other := by
  unfold Waits.setRow
  split
  · rename_i empty
    have missing : rules.lookup other = none := by
      apply lookup_eq_none.mpr
      intro mem
      have listed : other ∈ rules.keys := mem
      simp [empty] at listed
    by_cases same : asked = behavior
    · subst same
      simp [Waits.count,missing]
    · simp [Waits.count,same,lookup_erase_ne same]
  · exact count_insert ..

lemma count_deactivate : (deactivateSequenceWait active ruleID behavior).count asked other =
      active.count asked other - if ruleID ≠ "" ∧ asked = behavior ∧ other = ruleID then 1 else 0 := by
  unfold deactivateSequenceWait
  by_cases blank : ruleID = ""
  · simp [blank]
  rw [if_neg blank]
  by_cases same : asked = behavior
  · subst same
    cases found : active.lookup asked with
    | none => simp [Waits.count,found]
    | some rules =>
      have entry (rule : String) : (rules.lookup rule).getD 0 = active.count asked rule := by
        simp [Waits.count,found]
      simp only []
      by_cases mine : other = ruleID
      · subst mine
        split
        · rw [count_setRow,if_pos rfl,lookup_erase]
          simp [blank]
          omega
        · rw [count_insert,if_pos rfl,lookup_insert]
          simp [blank]
      · split
        · rw [count_setRow,if_pos rfl,lookup_erase_ne mine,entry]
          simp [mine]
        · rw [count_insert,if_pos rfl,lookup_insert_ne mine,entry]
          simp [mine]
  · simp only [same,false_and,and_false,if_false,Nat.sub_zero]
    split
    · rfl
    split
    · rw [count_setRow,if_neg same]
    · rw [count_insert,if_neg same]

end

def GroupState.awaits (behavior : String) (st : GroupState) : Bool := st.waitingBehavior = behavior

def Indexed (ruleID : String) (groups : Groups) (active : Waits) : Prop :=
  ∀ behavior, behavior ≠ "" →
    active.count behavior ruleID = if ruleID = "" then 0 else tally (GroupState.awaits behavior) groups

section
variable {ruleID key : String} {groups : Groups} {active : Waits} {st next : GroupState}

lemma indexed_erase (indexed : Indexed ruleID groups active) (found : groups.lookup key = some st) :
    Indexed ruleID (groups.erase key) (deactivateSequenceWait active ruleID st.waitingBehavior) := by
  intro behavior named
  rw [count_deactivate,indexed behavior named]
  have removed := tally_erase (p := GroupState.awaits behavior) found
  by_cases blank : ruleID = ""
  · simp [blank]
  by_cases waits : behavior = st.waitingBehavior
  · simp [GroupState.awaits,waits] at removed
    simp [blank,waits]
    omega
  · have other : st.awaits behavior = false := by simpa [GroupState.awaits] using fun same => waits same.symm
    rw [other] at removed
    simp [blank,waits] at removed ⊢
    omega

lemma indexed_insert (indexed : Indexed ruleID (groups.erase key) active) :
    Indexed ruleID (groups.insert key next) (activateSequenceWait active ruleID next.waitingBehavior) := by
  intro behavior named
  rw [count_activate,indexed behavior named,tally_insert]
  by_cases blank : ruleID = ""
  · simp [blank]
  · simp [blank,GroupState.awaits,eq_comm]

lemma indexed_insert_idle (indexed : Indexed ruleID (groups.erase key) active)
    (idle : next.waitingBehavior = "") : Indexed ruleID (groups.insert key next) active := by
  intro behavior named
  rw [indexed behavior named,tally_insert]
  simp [GroupState.awaits,idle,named.symm]

lemma Indexed.counted (indexed : Indexed ruleID groups active) (found : groups.lookup key = some st)
    (rule : ruleID ≠ "") (named : st.waitingBehavior ≠ "") : 0 < active.count st.waitingBehavior ruleID := by
  rw [indexed _ named,if_neg rule]
  exact tally_pos found (by simp [GroupState.awaits])

end

structure Reindexes (ruleID : String) (before after : SequenceState) : Prop where
  own : Indexed ruleID before.groups before.active → Indexed ruleID after.groups after.active
  others : ∀ behavior other, other ≠ ruleID →
    after.active.count behavior other = before.active.count behavior other

lemma Reindexes.refl (ruleID : String) (s : SequenceState) : Reindexes ruleID s s :=
  ⟨id,fun _ _ _ => rfl⟩

lemma Reindexes.trans {ruleID : String} {first second third : SequenceState}
    (old : Reindexes ruleID first second) (after : Reindexes ruleID second third) : Reindexes ruleID first third :=
  ⟨after.own ∘ old.own,fun behavior other ne =>
    (after.others behavior other ne).trans (old.others behavior other ne)⟩

section
variable (ruleID key : String) (s : SequenceState)

lemma deactivate_others (active : Waits) (behavior : String) : ∀ asked other, other ≠ ruleID →
    (deactivateSequenceWait active ruleID behavior).count asked other = active.count asked other := by
  intro asked other ne
  simp [count_deactivate,ne]

lemma drop_reindexes : Reindexes ruleID s (s.drop ruleID key) := by
  unfold SequenceState.drop
  split
  · exact Reindexes.refl ruleID s
  · rename_i st found
    exact ⟨fun indexed => indexed_erase indexed found,deactivate_others ruleID _ _⟩

lemma dropExpired_reindexes (now : UInt64) : Reindexes ruleID s (s.dropExpired ruleID now key) := by
  unfold SequenceState.dropExpired
  split
  · exact drop_reindexes ruleID key s
  · exact Reindexes.refl ruleID s

lemma evictLoop_reindexes (limit : Nat) (chance : Chance) (fuel : Nat) :
    Reindexes ruleID s (evictLoop limit chance ruleID fuel s) := by
  induction fuel generalizing s with
  | zero => exact Reindexes.refl ruleID s
  | succ fuel ih =>
    unfold evictLoop
    split
    · exact Reindexes.refl ruleID s
    split
    · exact Reindexes.refl ruleID s
    · exact (drop_reindexes ruleID _ s).trans (ih _)

lemma sweepExpired_reindexes (now : UInt64) : Reindexes ruleID s (sweepExpired ruleID now s) := by
  unfold sweepExpired
  generalize s.groups.keys = keys
  induction keys generalizing s with
  | nil => exact Reindexes.refl ruleID s
  | cons key keys ih => exact (dropExpired_reindexes ruleID key s now).trans (ih _)

lemma evictCEPGroups_reindexes (limits : EngineLimits) (chance : Chance) (now : UInt64) :
    Reindexes ruleID s (evictCEPGroups limits chance ruleID now s) := by
  unfold evictCEPGroups
  split
  · exact Reindexes.refl ruleID s
  · exact (sweepExpired_reindexes ruleID s now).trans (evictLoop_reindexes ruleID _ _ _ _)

variable {key s} {st : GroupState}

lemma put_reindexes (missing : s.groups.lookup key = none) : Reindexes ruleID s (s.put key {}) := by
  refine ⟨?_,fun _ _ _ => rfl⟩
  intro indexed
  apply indexed_insert_idle _ rfl
  rwa [erase_of_lookup_none missing]

lemma startOver_reindexes (found : s.groups.lookup key = some st) : Reindexes ruleID s (s.startOver ruleID key st) :=
  ⟨fun indexed => indexed_insert_idle (indexed_erase indexed found) rfl,deactivate_others ruleID _ _⟩

variable (go : Stdlib) (limits : EngineLimits) (chance : Chance) (view : EventView) (seq : CompiledSequence)

lemma countStep_reindexes (found : s.groups.lookup key = some st) :
    Reindexes ruleID s (countStep go limits view ruleID key seq s st).1 := by
  apply countStep_cases (P := fun after _ => Reindexes ruleID s after.1)
  · exact Reindexes.refl ruleID s
  · exact fun _ => ⟨fun indexed => indexed_erase indexed found,deactivate_others ruleID _ _⟩
  · intro moved
    refine ⟨fun indexed => indexed_insert (indexed_erase indexed found),?_⟩
    intro behavior other ne
    simp [count_activate,count_deactivate,ne]

lemma advanceGroup_reindexes (found : s.groups.lookup key = some st) :
    Reindexes ruleID s (advanceGroup go limits view ruleID key seq s st).1 := by
  unfold advanceGroup
  split
  · exact (startOver_reindexes ruleID found).trans
      (countStep_reindexes ruleID go limits view seq (lookup_insert _))
  · exact countStep_reindexes ruleID go limits view seq found

end

lemma offerCandidate_reindexes (go : Stdlib) (limits : EngineLimits) (chance : Chance) (view : EventView)
    (c : SequenceCandidate) (s : SequenceState) :
    Reindexes c.rule.rule.spec.ruleID s (offerCandidate go limits chance view c s).1 := by
  apply (dropExpired_reindexes _ (compiledSequenceGroupKey view c.rule.sequence.by_) s view.eventTime).trans
  unfold offerCandidate
  simp only []
  generalize s.dropExpired c.rule.rule.spec.ruleID view.eventTime
    (compiledSequenceGroupKey view c.rule.sequence.by_) = cleaned
  split
  · exact Reindexes.refl _ cleaned
  · rename_i st found _
    split
    · exact advanceGroup_reindexes _ go limits view _ found
    · exact Reindexes.refl _ cleaned
  · rename_i st found _
    split
    · exact advanceGroup_reindexes _ go limits view _ found
    split
    · exact (startOver_reindexes _ found).trans
        (advanceGroup_reindexes _ go limits view _ (lookup_insert _))
    · exact Reindexes.refl _ cleaned
  · rename_i missing _
    have absent := (evictCEPGroups_shrinks limits chance c.rule.rule.spec.ruleID view.eventTime cleaned).absent
      missing
    apply (evictCEPGroups_reindexes _ cleaned limits chance view.eventTime).trans
    exact (put_reindexes _ absent).trans (advanceGroup_reindexes _ go limits view _ (lookup_insert _))

section
variable {e : Engine} {rule : CompiledSequenceRule}
variable {ruleID : String} {s : EngineState}

lemma detectAll_indexed (go : Stdlib) (e : Engine) (chance : Chance) (view : EventView)
    (candidates : List SequenceCandidate) (indexed : Indexed ruleID (s.groupsOf ruleID) s.cepActive) :
    let after := (detectAll (detectSequenceCandidate go e chance view) candidates s).1
    Indexed ruleID (after.groupsOf ruleID) after.cepActive := by
  induction candidates generalizing s with
  | nil => exact indexed
  | cons c candidates ih =>
    rw [detectAll_cons]
    apply ih
    by_cases run : c.rule.rule.enabled = true ∧ c.rule.sequence.steps ≠ []
    · have reindexes := offerCandidate_reindexes go e.limits chance view c
        ⟨s.groupsOf c.rule.rule.spec.ruleID,s.cepActive⟩
      obtain ⟨groups,active,-⟩ := detectSequenceCandidate_own go e chance view s run.1 run.2
      by_cases mine : c.rule.rule.spec.ruleID = ruleID
      · subst mine
        rw [groups,active]
        exact reindexes.own indexed
      rw [(detectSequenceCandidate_other go e chance view s mine).1,active]
      intro behavior named
      rw [reindexes.others behavior ruleID (Ne.symm mine)]
      exact indexed behavior named
    · have same : detectSequenceCandidate go e chance view s c = (s,none) := if_neg (by simpa using run)
      rw [same]
      exact indexed

lemma indexed_congr {old after : EngineState}
    (indexed : Indexed ruleID (old.groupsOf ruleID) old.cepActive) (cep : after.cep = old.cep)
    (active : after.cepActive = old.cepActive) : Indexed ruleID (after.groupsOf ruleID) after.cepActive := by
  rwa [groupsOf_congr cep,active]

lemma process_indexed (runs : Runs e rule) (go : Stdlib) (chance : Chance)
    (indexed : Indexed rule.rule.spec.ruleID (s.groupsOf rule.rule.spec.ruleID) s.cepActive)
    (ev : Proto.CanonicalEvent) :
    let after := (process go e chance s ev).1
    Indexed rule.rule.spec.ruleID (after.groupsOf rule.rule.spec.ruleID) after.cepActive := by
  cases subject : ev.subjectProc.isSome with
  | false =>
    rw [process_ignored go e chance s subject]
    exact indexed
  | true =>
    obtain ⟨tried,cep,active,offered,kept,-⟩ := process_offered runs go chance s subject
    exact indexed_congr (detectAll_indexed go e chance (newEventView go ev)
      (candidatesForBehavior e (newEventView go ev).behavior s.cepActive)
      (indexed_congr indexed cep active)) offered kept

end

end SysArmor.Detection
