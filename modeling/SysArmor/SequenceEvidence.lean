import SysArmor.GroupPass
import Mathlib.Data.Finset.Sort

/-! The events behind a sequence: which events justify a completed sequence, and what an event
does to its group when the candidates of the rule count it at most once. -/
namespace SysArmor.Detection
open GoText Proto List

def Satisfies (go : Stdlib) : List CompiledStep → List EventView → StepValues → Prop
  | [], [], _ => True
  | step :: steps, view :: views, values => view.behavior = step.behavior ∧
      matchCompiledStep go view step values = true ∧ Satisfies go steps views (saveValues values step view)
  | _, _, _ => False

lemma satisfies_length {go : Stdlib} {steps : List CompiledStep} {views : List EventView} {values : StepValues}
    (satisfied : Satisfies go steps views values) : views.length = steps.length := by
  induction steps generalizing views values with
  | nil =>
    cases views with
    | nil => rfl
    | cons _ _ => exact satisfied.elim
  | cons step steps ih =>
    cases views with
    | nil => exact satisfied.elim
    | cons view views => exact congrArg (· + 1) (ih satisfied.2.2)

def valuesAfter : List CompiledStep → List EventView → StepValues → StepValues
  | step :: steps, view :: views, values => valuesAfter steps views (saveValues values step view)
  | _, _, values => values

lemma satisfies_snoc {go : Stdlib} {steps : List CompiledStep} {views : List EventView} {values : StepValues}
    {step : CompiledStep} {view : EventView} (satisfied : Satisfies go steps views values)
    (behavior : view.behavior = step.behavior) (hit : matchCompiledStep go view step (valuesAfter steps views values) = true) :
    Satisfies go (steps ++ [step]) (views ++ [view]) values ∧ valuesAfter (steps ++ [step]) (views ++ [view]) values =
        saveValues (valuesAfter steps views values) step view := by
  induction steps generalizing views values with
  | nil =>
    cases views with
    | nil => exact ⟨⟨behavior,hit,trivial⟩,rfl⟩
    | cons _ _ => exact satisfied.elim
  | cons first steps ih =>
    cases views with
    | nil => exact satisfied.elim
    | cons seen views =>
      obtain ⟨same,matched,rest⟩ := satisfied
      obtain ⟨extended,saved⟩ := ih rest hit
      exact ⟨⟨same,matched,extended⟩,saved⟩

/-- The references that a group has when these events were counted for it. -/
def countedRefs (limits : EngineLimits) (events : List EventView) : List String :=
  events.foldl (fun refs view => boundRefs limits.maxCEPRefs (appendUnique refs view.eventID)) []

/-- Events of one group at increasing places of a list that satisfy the leading steps, with the
values saved from them and their references. -/
structure Picked (go : Stdlib) (limits : EngineLimits) (seq : CompiledSequence) (views : List EventView) (key : String)
    (count : Nat) (values : StepValues) (refs : List String) (picks : List (Nat × EventView)) : Prop where
  satisfied : Satisfies go (seq.steps.take count) (picks.map (·.2)) ∅
  saved : values = valuesAfter (seq.steps.take count) (picks.map (·.2)) ∅
  refs : refs = countedRefs limits (picks.map (·.2))
  increasing : (picks.map (·.1)).Pairwise (· < ·)
  inside : ∀ pick ∈ picks, views[pick.1]? = some pick.2
  group : ∀ pick ∈ picks, compiledSequenceGroupKey pick.2 seq.by_ = key

section
variable {go : Stdlib} {limits : EngineLimits} {seq : CompiledSequence} {views : List EventView} {key : String}
  {view : EventView} {index : Nat} {values : StepValues} {refs : List String} {picks : List (Nat × EventView)}

lemma picked_none : Picked go limits seq views key 0 ∅ [] [] :=
  ⟨trivial,rfl,rfl,List.Pairwise.nil,(fun _ mem => nomatch mem),fun _ mem => nomatch mem⟩

lemma Picked.before (picked : Picked go limits seq views key index values refs picks) :
    ∀ pick ∈ picks, pick.1 < views.length :=
  fun pick mem => (List.getElem?_eq_some_iff.mp (picked.inside pick mem)).1

lemma Picked.later (picked : Picked go limits seq views key index values refs picks) (view : EventView) :
    Picked go limits seq (views ++ [view]) key index values refs picks where
  satisfied := picked.satisfied
  saved := picked.saved
  refs := picked.refs
  increasing := picked.increasing
  group := picked.group
  inside := by
    intro pick mem
    rw [getElem?_append_left (picked.before pick mem)]
    exact picked.inside pick mem

lemma Picked.count (picked : Picked go limits seq views key index values refs picks) {step : CompiledStep}
    (here : seq.steps[index]? = some step) (behavior : view.behavior = step.behavior)
    (hit : matchCompiledStep go view step values = true) (group : compiledSequenceGroupKey view seq.by_ = key) :
    Picked go limits seq (views ++ [view]) key (index + 1) (saveValues values step view)
      (boundRefs limits.maxCEPRefs (appendUnique refs view.eventID)) (picks ++ [(views.length,view)]) := by
  obtain ⟨bound,rfl⟩ := List.getElem?_eq_some_iff.mp here
  have extended := satisfies_snoc picked.satisfied behavior (picked.saved ▸ hit)
  rw [← map_singleton (f := fun pick : Nat × EventView => pick.2) (a := (views.length,view)),
    ← map_append,← picked.saved,take_append_getElem bound] at extended
  exact {
    satisfied := extended.1
    saved := extended.2.symm
    refs := by simp [countedRefs,picked.refs]
    increasing := by
      rw [map_append,pairwise_append]
      refine ⟨picked.increasing,pairwise_singleton _ _,?_⟩
      intro place mem last among
      obtain ⟨pick,there,rfl⟩ := mem_map.mp mem
      simp only [map_cons,map_nil,mem_singleton] at among
      exact among ▸ picked.before pick there
    inside := by
      intro pick mem
      rcases mem_append.mp mem with early | last
      · exact (picked.later view).inside pick early
      · obtain rfl := mem_singleton.mp last
        simp
    group := by
      intro pick mem
      rcases mem_append.mp mem with early | last
      · exact picked.group pick early
      · obtain rfl := mem_singleton.mp last
        exact group }

end

section
variable (go : Stdlib) (view : EventView)

def matchesNext (seq : CompiledSequence) (index : Nat) (values : StepValues) : Bool :=
  seq.steps[index]?.any fun step => matchCompiledStep go view step values &&
    matchesAt go view seq (index + 1) (saveValues values step view)

/-- The rule waits for the event's behaviour, and the event matches two steps in a row from the
place where it is counted first: the start, or else the place where its group stands. -/
def countsTwice (seq : CompiledSequence) (waits : Bool) (prior : Option GroupState) : Bool :=
  waits && if matchesAt go view seq 0 ∅ then matchesNext go view seq 0 ∅
    else (liveAt view.eventTime prior).any fun st => 0 < st.stepIndex &&
      matchesNext go view seq st.stepIndex st.values

inductive CountedOnce (limits : EngineLimits) (seq : CompiledSequence) (prior : Option GroupState)
    (pass : Option GroupState × List Completion) : Prop
  | kept (left : pass.1 = prior ∨ pass.1 = none ∨ pass.1 = some {}) (silent : pass.2 = [])
  | counted (base : GroupState) (start : (base.stepIndex = 0 ∧ base.values = ∅ ∧ base.refs = []) ∨ base ∈ prior)
      (hit : matchesAt go view seq base.stepIndex base.values = true)
      (left : pass.1 = (groupCount go limits view seq base).1 ∨ pass.1 = none)
      (done : pass.2 = (groupCount go limits view seq base).2.toList)

variable {go view} {limits : EngineLimits} {rule : CompiledSequenceRule} {prior : Option GroupState}

lemma counted_misses (limits : EngineLimits) {seq : CompiledSequence} {base : GroupState}
    (hit : matchesAt go view seq base.stepIndex base.values = true)
    (once : matchesNext go view seq base.stepIndex base.values = false) : ∀ next ∈ (groupCount go limits view seq base).1,
      Placed seq next ∧ matchesAt go view seq next.stepIndex next.values = false := by
  obtain ⟨step,here,matched,advanced⟩ := groupCount_advanced go limits view hit
  intro next mem
  obtain ⟨placed,index,values,-⟩ := advanced next mem
  refine ⟨placed,?_⟩
  rw [index,values]
  simpa [matchesNext,here,matched] using once

lemma nextPass_countedOnce (placed : ∀ st ∈ prior, Placed rule.sequence st)
    (once : ∀ st ∈ liveAt view.eventTime prior, 0 < st.stepIndex →
      matchesNext go view rule.sequence st.stepIndex st.values = false) : CountedOnce go view limits rule.sequence prior
      (groupPass go limits view (nextCandidates rule view.behavior) prior) := by
  have idle := groupPass_idle go limits view (nextIndices rule.sequence view.behavior) nextIndices_positive placed
  cases prior with
  | none =>
    obtain ⟨kept,silent⟩ := idle (fun _ mem => nomatch mem)
    exact .kept (kept.imp_right .inl) silent
  | some st =>
    by_cases start : st.stepIndex = 0
    · obtain ⟨kept,silent⟩ := idle (by rintro _ ⟨⟩ pos; omega)
      exact .kept (kept.imp_right .inl) silent
    have apart : st.expired view.eventTime = false →
        ∀ next ∈ (groupCount go limits view rule.sequence st).1,
          matchesAt go view rule.sequence st.stepIndex st.values = true →
            matchesAt go view rule.sequence next.stepIndex next.values = false := by
      intro live next mem hit
      have here : st ∈ liveAt view.eventTime (some st) := by simp [liveAt,live,Option.filter]
      exact (counted_misses limits hit (once st here (by omega)) next mem).2
    rcases groupPass_once go limits view (nextIndices rule.sequence view.behavior) nextIndices_positive
      (placed st rfl) apart with ⟨kept,silent⟩ | ⟨hit,left,done⟩
    · exact .kept (kept.imp_right .inl) silent
    · exact .counted st (.inr rfl) hit left done

lemma CountedOnce.created {other : Option GroupState} {seq : CompiledSequence}
    {pass : Option GroupState × List Completion} (once : CountedOnce go view limits seq other pass)
    (from_ : other = prior ∨ other = some {}) : CountedOnce go view limits seq prior pass := by
  rcases from_ with rfl | rfl
  · exact once
  cases once with
  | kept left silent => exact .kept (.inr (left.elim .inr id)) silent
  | counted base start hit left done =>
    refine .counted base (.inl ?_) hit left done
    rcases start with zero | ⟨⟨⟩⟩
    · exact zero
    · exact ⟨rfl,rfl,rfl⟩

lemma rulePass_countedOnce (steps : rule.sequence.steps ≠ []) (named : ∀ step ∈ rule.sequence.steps, step.behavior ≠ "")
    (placed : ∀ st ∈ prior, Placed rule.sequence st) {waits : Bool}
    (single : countsTwice go view rule.sequence waits prior = false) : CountedOnce go view limits rule.sequence prior
      (groupPass go limits view (ruleCandidates rule view.behavior waits) prior) := by
  rw [ruleCandidates_eq steps,groupPass_append]
  cases hit : matchesAt go view rule.sequence 0 ∅ with
  | true =>
    -- The first step takes the event; the later steps find nothing to advance.
    obtain ⟨first,here,behavior⟩ := matchesAt_behavior go view named hit
    have offered : firstCandidates rule view.behavior = [{ rule, firstStep := true }] :=
      if_pos (by simp [here,behavior])
    obtain ⟨base,zero,empty,origin,offer⟩ := groupOffer_first_hit go limits view steps placed hit
    have unreferenced : base.refs = [] := by
      rcases origin with rfl | ⟨st,-,rfl⟩ <;> rfl
    have pass : groupPass go limits view [{ rule, firstStep := true }] prior =
        ((groupCount go limits view rule.sequence base).1,
          (groupCount go limits view rule.sequence base).2.toList) := by
      simp [groupPass,offer]
    rw [offered,pass]
    have counted : matchesAt go view rule.sequence base.stepIndex base.values = true := by rwa [zero,empty]
    cases waits with
    | false => exact .counted base (.inl ⟨zero,empty,unreferenced⟩) counted (.inl rfl) (append_nil _)
    | true =>
      have once : matchesNext go view rule.sequence base.stepIndex base.values = false := by
        rw [zero,empty]
        simpa [countsTwice,hit] using single
      have misses := counted_misses limits counted once
      obtain ⟨left,silent⟩ := groupPass_idle go limits view (nextIndices rule.sequence view.behavior)
        nextIndices_positive (fun next mem => (misses next mem).1)
        (fun next mem _ => (misses next mem).2)
      refine .counted base (.inl ⟨zero,empty,unreferenced⟩) counted left ?_
      exact (congrArg (_ ++ ·) silent).trans (append_nil _)
  | false =>
    have live (waiting : waits = true) : ∀ st ∈ liveAt view.eventTime prior, 0 < st.stepIndex →
        matchesNext go view rule.sequence st.stepIndex st.values = false := by
      intro st mem pos
      obtain rfl := waiting
      rw [Option.mem_def] at mem
      simpa [countsTwice,hit,mem,pos] using single
    by_cases same : (rule.sequence.steps[0]?.map (·.behavior)).getD "" = view.behavior
    · -- The first step is tried in vain and leaves a group behind.
      have offered : firstCandidates rule view.behavior = [{ rule, firstStep := true }] := if_pos same
      have pass : groupPass go limits view [{ rule, firstStep := true }] prior =
          (some ((liveAt view.eventTime prior).getD {}),[]) := by
        simp [groupPass,groupOffer_first_miss go limits view steps placed hit]
      rw [offered,pass]
      cases found : liveAt view.eventTime prior with
      | some st =>
        obtain rfl : prior = some st := mem_liveAt found
        cases waits with
        | false => exact .kept (.inl rfl) rfl
        | true => exact nextPass_countedOnce placed (live rfl)
      | none =>
        cases waits with
        | false => exact .kept (.inr (.inr rfl)) rfl
        | true =>
          apply CountedOnce.created (nextPass_countedOnce (by rintro _ ⟨⟩; exact placed_fresh steps) ?_) (.inr rfl)
          intro st mem pos
          obtain rfl : {} = st := Option.some.inj (mem_liveAt mem)
          exact absurd pos (by decide)
    · have offered : firstCandidates rule view.behavior = [] := if_neg same
      rw [offered]
      cases waits with
      | false => exact .kept (.inl rfl) rfl
      | true => exact nextPass_countedOnce placed (live rfl)

end

/-- One event for every step, all of one group and at increasing places up to that of the event
that raised the signal. The references that the signal reports are those of exactly these events, so
that no event is counted for two steps. -/
def Justified (go : Stdlib) (limits : EngineLimits) (seq : CompiledSequence) (views : List EventView) (place : Nat)
    (eventRefs : List String) : Prop :=
  ∃ picks : List (Nat × EventView), Satisfies go seq.steps (picks.map (·.2)) ∅ ∧
    (picks.map (·.1)).Pairwise (· < ·) ∧ (picks.map (·.1)).getLast? = some place ∧
    ∃ last, views[place]? = some last ∧
      eventRefs = reportedRefs last.ev (appendRefs [] (countedRefs limits (picks.map (·.2))),[]) ∧
      ∀ pick ∈ picks, views[pick.1]? = some pick.2 ∧
        compiledSequenceGroupKey pick.2 seq.by_ = compiledSequenceGroupKey last seq.by_

lemma Justified.later {go : Stdlib} {limits : EngineLimits} {seq : CompiledSequence} {views : List EventView} {place : Nat}
    {eventRefs : List String} (justified : Justified go limits seq views place eventRefs) (more : List EventView) :
    Justified go limits seq (views ++ more) place eventRefs := by
  have kept {index : Nat} {view : EventView} (found : views[index]? = some view) :
      (views ++ more)[index]? = some view := by
    rw [getElem?_append_left (List.getElem?_eq_some_iff.mp found).1]
    exact found
  obtain ⟨picks,satisfied,increasing,ends,last,found,refs,group⟩ := justified
  exact ⟨picks,satisfied,increasing,ends,last,kept found,refs,
    fun pick mem => ⟨kept (group pick mem).1,(group pick mem).2⟩⟩

/-! Soundness of sequence detection. A signal of a sequence rule is justified by one event for
every step, as long as no event is counted for two steps in a row. The candidates of an event
are chosen before it is counted, so an event that advances a group can be offered to the next
step of the same rule as well. -/

def Founded (go : Stdlib) (limits : EngineLimits) (seq : CompiledSequence) (views : List EventView) (groups : Groups) : Prop :=
  ∀ key st, groups.lookup key = some st →
    Placed seq st ∧ ∃ picks, Picked go limits seq views key st.stepIndex st.values st.refs picks

section
variable {go : Stdlib} {e : Engine} {rule : CompiledSequenceRule} {views : List EventView} {s : EngineState}
variable {seq : CompiledSequence} {limits : EngineLimits}

lemma Founded.later {groups : Groups} (founded : Founded go limits seq views groups)
    (view : EventView) : Founded go limits seq (views ++ [view]) groups := by
  intro key st found
  obtain ⟨placed,picks,picked⟩ := founded key st found
  exact ⟨placed,picks,picked.later view⟩

lemma founded_initial {ruleID : String} : Founded go limits seq [] (({} : EngineState).groupsOf ruleID) := by
  intro key st found
  simp [EngineState.groupsOf] at found

lemma CountedOnce.founded {view : EventView}
    (steps : seq.steps ≠ []) (named : ∀ step ∈ seq.steps, step.behavior ≠ "") {prior : Option GroupState}
    {pass : Option GroupState × List Completion} (once : CountedOnce go view limits seq prior pass)
    (founded : ∀ st ∈ prior, Placed seq st ∧
      ∃ picks, Picked go limits seq views (compiledSequenceGroupKey view seq.by_) st.stepIndex st.values st.refs picks) :
    (∀ st ∈ pass.1, Placed seq st ∧ ∃ picks, Picked go limits seq (views ++ [view])
        (compiledSequenceGroupKey view seq.by_) st.stepIndex st.values st.refs picks) ∧
      ∀ done ∈ pass.2, Justified go limits seq (views ++ [view]) views.length (reportedRefs view.ev done) := by
  cases once with
  | kept left silent =>
    refine ⟨?_,by simp [silent]⟩
    intro st mem
    rcases left with same | gone | fresh
    · obtain ⟨placed,picks,picked⟩ := founded st (same ▸ mem)
      exact ⟨placed,picks,picked.later view⟩
    · rw [gone] at mem
      cases mem
    rw [fresh] at mem
    cases mem
    exact ⟨placed_fresh steps,[],picked_none⟩
  | counted base start hit left done =>
    obtain ⟨picks,picked⟩ : ∃ picks, Picked go limits seq views (compiledSequenceGroupKey view seq.by_)
        base.stepIndex base.values base.refs picks := by
      rcases start with ⟨zero,empty,unreferenced⟩ | mem
      · rw [zero,empty,unreferenced]
        exact ⟨[],picked_none⟩
      · exact (founded base mem).2
    obtain ⟨step,here,matched,advanced⟩ := groupCount_advanced go limits view hit
    obtain ⟨_,there,behavior⟩ := matchesAt_behavior go view named hit
    obtain rfl := Option.some.inj (here.symm.trans there)
    have counted := picked.count here behavior matched rfl
    constructor
    · intro st mem
      rcases left with same | gone
      · obtain ⟨placed,index,values,refs⟩ := advanced st (same ▸ mem)
        exact ⟨placed,_,by rw [index,values,refs]; exact counted⟩
      · rw [gone] at mem
        cases mem
    · intro completed mem
      rw [done] at mem
      cases more : seq.steps[base.stepIndex + 1]? with
      | some next =>
        rw [groupCount_next go limits view here matched more] at mem
        cases mem
      | none =>
        rw [groupCount_done go limits view here matched more] at mem
        obtain rfl := mem_singleton.mp mem
        have whole : seq.steps.take (base.stepIndex + 1) = seq.steps :=
          take_of_length_le (List.getElem?_eq_none_iff.mp more)
        have satisfied := counted.satisfied
        rw [whole] at satisfied
        exact ⟨_,satisfied,counted.increasing,by simp,view,by simp,by simp only [reportedRefs,GroupState.counted,counted.refs],
          fun pick mem => ⟨counted.inside pick mem,counted.group pick mem⟩⟩

def eventCountsTwice (go : Stdlib) (rule : CompiledSequenceRule) (s : EngineState) (ev : CanonicalEvent) : Bool :=
  let view := newEventView go ev
  let key := compiledSequenceGroupKey view rule.sequence.by_
  ev.subjectProc.isSome && countsTwice go view rule.sequence
    (0 < s.cepActive.count view.behavior rule.rule.spec.ruleID)
    ((s.groupsOf rule.rule.spec.ruleID).lookup key)

lemma process_founded (runs : Runs e rule) (turn : Turn)
    (founded : Founded go e.limits rule.sequence views (s.groupsOf rule.rule.spec.ruleID))
    (single : eventCountsTwice go rule s turn.event = false) :
    Founded go e.limits rule.sequence (views ++ [newEventView go turn.event])
        ((process go e turn.chance s turn.event).1.groupsOf rule.rule.spec.ruleID) ∧
      ∀ sig ∈ (process go e turn.chance s turn.event).2, sig.ruleId = rule.rule.spec.ruleID →
        Justified go e.limits rule.sequence (views ++ [newEventView go turn.event]) views.length sig.eventRefs := by
  cases subject : turn.event.subjectProc.isSome with
  | false =>
    rw [process_ignored go e turn.chance s subject]
    exact ⟨founded.later _,fun _ mem => nomatch mem⟩
  | true =>
    have passed := process_passed runs go turn.chance s subject
    simp only [] at passed
    have once : CountedOnce go (newEventView go turn.event) e.limits rule.sequence _ _ :=
      rulePass_countedOnce runs.steps runs.named
        (fun st mem => (founded _ st mem).1) (by simpa [eventCountsTwice,subject] using single)
    obtain ⟨group,justified⟩ := once.founded runs.steps runs.named (fun st mem => founded _ st mem)
    constructor
    · intro key st found
      by_cases same : key = compiledSequenceGroupKey (newEventView go turn.event) rule.sequence.by_
      · subst same
        exact group st (passed.group ▸ found)
      rcases passed.others key same with old | gone
      · exact founded.later _ key st (old ▸ found)
      · rw [gone] at found
        cases found
    · intro sig mem mine
      have reported : sig.eventRefs ∈ ofRule rule.rule.spec.ruleID (process go e turn.chance s turn.event).2 :=
        mem_ofRule.mpr ⟨sig,mem,mine,rfl⟩
      rw [passed.reports] at reported
      obtain ⟨done,completed,same⟩ := mem_map.mp reported
      have shown := justified done completed
      rw [newEventView_ev,same] at shown
      exact shown

def CountsOnce (go : Stdlib) (e : Engine) (rule : CompiledSequenceRule) : List Turn → EngineState → Prop
  | [], _ => True
  | turn :: rest, s => eventCountsTwice go rule s turn.event = false ∧
      CountsOnce go e rule rest (process go e turn.chance s turn.event).1

lemma processAll_justified (runs : Runs e rule) (turns : List Turn)
    (founded : Founded go e.limits rule.sequence views (s.groupsOf rule.rule.spec.ruleID))
    (single : CountsOnce go e rule turns s) {place : Nat} {signals : List Signal}
    (emitted : (processAll go e turns s).2[place]? = some signals) {sig : Signal} (mem : sig ∈ signals)
    (mine : sig.ruleId = rule.rule.spec.ruleID) :
    Justified go e.limits rule.sequence (views ++ turns.map fun turn => newEventView go turn.event) (views.length + place)
      sig.eventRefs := by
  induction turns generalizing views s place with
  | nil => cases emitted
  | cons turn turns ih =>
    obtain ⟨now,later⟩ := single
    obtain ⟨kept,justified⟩ := process_founded runs turn founded now
    have split : views ++ (turn :: turns).map (fun turn => newEventView go turn.event) =
        (views ++ [newEventView go turn.event]) ++ turns.map fun turn => newEventView go turn.event := by simp
    rw [split]
    cases place with
    | zero =>
      obtain rfl : (process go e turn.chance s turn.event).2 = signals := Option.some.inj emitted
      exact (justified sig mem mine).later _
    | succ place =>
      have rest := ih kept later emitted
      rw [length_append,length_singleton] at rest
      rw [Nat.add_comm place 1,← Nat.add_assoc]
      exact rest

end

/-- In a run of an accepted engine in which no event is counted for two steps in a row, every
signal of a sequence rule is justified: there is one event of the list for each step, at
increasing places and of one group, each satisfies its step with the values saved before, and the
signal refers to these events. -/
theorem sequence_signal_justified {go : Stdlib} {strategy : Strategy} {policy : Option DetectionPolicy}
    {content : ContentSnapshot} {limits : EngineLimits} {e : Engine}
    (accepted : newWithRuntimeLimits go strategy policy content limits = .ok e)
    {rule : EffectiveRule} (member : rule ∈ e.rules) (kind : rule.runtimeType go = "sequence") (turns : List Turn)
    (single : CountsOnce go e (compileSequenceRule go strategy content.toContentRefs rule) turns {})
    {place : Nat} {signals : List Signal} (emitted : (processAll go e turns {}).2[place]? = some signals)
    {sig : Signal} (raised : sig ∈ signals) (mine : sig.ruleId = rule.spec.ruleID) :
    Justified go e.limits (compileSequenceRule go strategy content.toContentRefs rule).sequence
      (turns.map fun turn => newEventView go turn.event) place sig.eventRefs := by
  have justified := processAll_justified (accepted_runs accepted member kind) turns founded_initial
    single emitted raised mine
  simpa using justified

def steadyChance : Chance where
  clock := 0
  visit := fun labels => labels.keys.sort.map fun key => (key,labels.get key)
  visited := by
    intro labels key value
    simp only [mem_map,Finset.mem_sort,Finmap.mem_keys,Prod.mk.injEq]
    constructor
    · rintro ⟨key,member,rfl,rfl⟩
      obtain ⟨value,found⟩ := Finmap.mem_iff.mp member
      simp [Labels.get,found]
    · intro found
      exact ⟨key,Finmap.mem_iff.mpr ⟨value,found⟩,rfl,by simp [Labels.get,found]⟩
  victim := fun _ => 0

def lineageEvent (id behavior lineage : String) : Turn where
  event := { id, behavior, lineageId := lineage, subjectProc := some {} }
  chance := steadyChance

def stepsRule (first second : String) : RuleSpec :=
  { ruleID := "steps", ruleSetRef := "base", runtimeType := "sequence"
    sequence := { steps := [{ id := "first", behavior := first },{ id := "second", behavior := second }] } }

def basePolicy : DetectionPolicy := { ruleSets := [{ ref := "base" }] }

def stepsEffective (first second : String) : EffectiveRule :=
  effectiveRule (policyInForce basePolicy) (stepsRule first second)

def stepsContent (first second : String) : ContentSnapshot := { rules := [stepsRule first second] }

def stepsEngine (first second : String) : Engine :=
  compileEngine asciiStdlib .linear (resolveRules (policyInForce basePolicy) (stepsContent first second)) {} {}

def stepsCompiled (first second : String) : CompiledSequenceRule :=
  compileSequenceRule asciiStdlib .linear {} (stepsEffective first second)

def startAndConnect : List Turn :=
  [lineageEvent "1" "process.exec" "g",lineageEvent "2" "network.connect" "g"]

lemma effectiveRule_mem {spec : RuleSpec} (based : spec.ruleSetRef = "base") :
    effectiveRule (policyInForce basePolicy) spec ∈ resolveRules (policyInForce basePolicy) { rules := [spec] } := by
  refine mem_filter.mpr ⟨mem_map.mpr ⟨spec,?_,rfl⟩,rfl⟩
  have selected : (policyInForce basePolicy).ruleSetEnabled "base" = true := by decide +kernel
  exact mem_filter.mpr ⟨mem_cons_self,based ▸ selected⟩

lemma stepsEffective_mem (first second : String) :
    stepsEffective first second ∈ (stepsEngine first second).rules := effectiveRule_mem rfl

lemma stepsEngine_accepted {first second : String}
    (clean : selectionErrors asciiStdlib (policyInForce basePolicy) (stepsContent first second) = []) :
    newWithRuntimeLimits asciiStdlib .linear basePolicy (stepsContent first second) {} = .ok (stepsEngine first second) :=
  accepted_iff.mpr ⟨clean,rfl⟩

theorem startAndConnect_justified : Justified asciiStdlib (stepsEngine "process.exec" "network.connect").limits
      (stepsCompiled "process.exec" "network.connect").sequence
      (startAndConnect.map fun turn => newEventView asciiStdlib turn.event) 1 ["1","2"] := by
  have raised : ((processAll asciiStdlib (stepsEngine "process.exec" "network.connect") startAndConnect
      {}).2[1]?.any fun signals => signals.any fun sig => sig.ruleId = "steps" && sig.eventRefs = ["1","2"]) = true := by
    decide +kernel
  obtain ⟨signals,emitted,raised⟩ := (Option.any_eq_true _ _).mp raised
  obtain ⟨sig,raised,mine⟩ := any_eq_true.mp raised
  rw [Bool.and_eq_true,decide_eq_true_eq,decide_eq_true_eq] at mine
  have justified := sequence_signal_justified (stepsEngine_accepted (by decide +kernel)) (stepsEffective_mem _ _)
    (by decide +kernel) startAndConnect ⟨by decide +kernel,by decide +kernel,trivial⟩ emitted raised mine.1
  rw [mine.2] at justified
  exact justified

lemma lineageEvent_key (id behavior lineage first second : String) :
    compiledSequenceGroupKey (newEventView asciiStdlib (lineageEvent id behavior lineage).event)
      (stepsCompiled first second).sequence.by_ = "lineage_id" ++ "=" ++ lineage := rfl

def oneStartEach : List Turn := [lineageEvent "1" "process.exec" "h",lineageEvent "2" "process.exec" "g"]

/-- With two steps for one behaviour the only event of a lineage raises the signal, since another
lineage makes the rule wait for the behaviour. -/
theorem oneStartEach_unjustified :
    newWithRuntimeLimits asciiStdlib .linear basePolicy (stepsContent "process.exec" "process.exec") {} =
      .ok (stepsEngine "process.exec" "process.exec") ∧
    (processAll asciiStdlib (stepsEngine "process.exec" "process.exec") oneStartEach {}).2.map
      (ofRule "steps") = [[],[["2"]]] ∧
    ¬Justified asciiStdlib (stepsEngine "process.exec" "process.exec").limits
      (stepsCompiled "process.exec" "process.exec").sequence
        (oneStartEach.map fun turn => newEventView asciiStdlib turn.event) 1 ["2"] := by
  refine ⟨?_,?_,?_⟩
  · exact stepsEngine_accepted (by decide +kernel)
  · decide +kernel
  rintro ⟨picks,satisfied,increasing,ends,last,final,-,group⟩
  have two : picks.length = 2 := by
    have count := satisfies_length satisfied
    rwa [length_map,stepsCompiled,compiledSteps_length] at count
  obtain ⟨early,late,rfl⟩ := length_eq_two.mp two
  have second : late.1 = 1 := Option.some.inj ends
  have ordered : early.1 < late.1 := by simpa using increasing
  have first : early.1 = 0 := by omega
  obtain ⟨found,same⟩ := group early mem_cons_self
  rw [first] at found
  have earlyView : newEventView asciiStdlib (lineageEvent "1" "process.exec" "h").event = early.2 :=
    Option.some.inj found
  have lateView : newEventView asciiStdlib (lineageEvent "2" "process.exec" "g").event = last :=
    Option.some.inj final
  rw [← earlyView,← lateView,lineageEvent_key,lineageEvent_key] at same
  exact absurd same (by decide)

end SysArmor.Detection
