import SysArmor.SequenceIsolation

/-! The automaton of one group of a sequence rule: idle, or waiting for a step with the values and
the events counted so far and a deadline. When the steps have distinct behaviours, what the
engine keeps for a group is a state of this automaton, up to a state whose deadline is over. -/
namespace SysArmor.Detection
open GoText Proto

section
open List

/-- The step a group waits for, the values saved and the events counted before it, and the last
time at which it may come. -/
structure Waiting where
  step : Nat := 0
  values : StepValues := ∅
  events : List String := []
  deadline : Option Nat

abbrev Automaton := Option Waiting
def Automaton.expire (now : Nat) (a : Automaton) : Automaton := a.filter fun w => !w.deadline.any (· < now)

section
variable (go : Stdlib) (seq : CompiledSequence) (view : EventView)

def deadlineFrom : Option Nat :=
  if 0 < seq.within then some (view.eventTime.toNat + seq.within.toNat) else none

def Waiting.advance (w : Waiting) : Automaton × Option (List String) :=
  match seq.steps[w.step]? with
  | none => (some w,none)
  | some step =>
    if w.step + 1 < seq.steps.length then
      (some { w with step := w.step + 1, values := saveValues w.values step view,
                     events := w.events ++ [view.eventID] },none)
    else (none,some (w.events ++ [view.eventID]))

/-- One event: past the deadline the automaton is idle first; a match of the first step starts
over with a new deadline, and a match of the awaited step advances. -/
def Automaton.step (a : Automaton) : Automaton × Option (List String) :=
  if matchesAt go view seq 0 ∅ then ({ deadline := deadlineFrom seq view } : Waiting).advance seq view
  else match a.expire view.eventTime.toNat with
    | none => (none,none)
    | some w => if matchesAt go view seq w.step w.values then w.advance seq view else (some w,none)

/-- The events of a group, each with what the automaton emits on it. An event without a subject
process is passed over. -/
def Automaton.run : List CanonicalEvent → Automaton → List (CanonicalEvent × List (List String))
  | [], _ => []
  | ev :: rest, a =>
    if ev.subjectProc.isSome then
      (ev,(a.step go seq (newEventView go ev)).2.toList) :: run rest (a.step go seq (newEventView go ev)).1
    else (ev,[]) :: run rest a

end

def GroupState.deadline (st : GroupState) : Option Nat :=
  if st.expiresAt = 0 then none else some st.expiresAt.toNat

lemma deadline_congr {first second : GroupState} (same : first.expiresAt = second.expiresAt) :
    first.deadline = second.deadline := by
  rw [GroupState.deadline,GroupState.deadline,same]

def GroupState.automaton (st : GroupState) : Automaton :=
  if st.stepIndex = 0 then none
  else some { step := st.stepIndex, values := st.values, events := st.refs, deadline := st.deadline }

def groupAutomaton (group : Option GroupState) : Automaton := group.bind (·.automaton)

section
variable {last now : Nat} {time : UInt64} {a : Automaton} {group left : Option GroupState}

lemma Automaton.expire_expire (later : last ≤ now) : (a.expire last).expire now = a.expire now := by
  cases a with
  | none => rfl
  | some w =>
    cases ends : w.deadline with
    | none => simp [Automaton.expire,Option.filter,ends]
    | some deadline =>
      by_cases late : deadline < last
      · have past : deadline < now := by omega
        simp [Automaton.expire,Option.filter,ends,late,past]
      · simp [Automaton.expire,Option.filter,ends,late]

lemma groupAutomaton_expire (time : UInt64) (group : Option GroupState) :
    (groupAutomaton group).expire time.toNat = groupAutomaton (liveAt time group) := by
  cases group with
  | none => rfl
  | some st =>
    by_cases idle : st.stepIndex = 0
    · cases lapsed : st.expired time <;>
        simp [groupAutomaton,GroupState.automaton,Automaton.expire,liveAt,idle,lapsed,Option.filter]
    by_cases endless : st.expiresAt = 0
    · simp [groupAutomaton,GroupState.automaton,GroupState.deadline,Automaton.expire,liveAt,idle,endless,GroupState.expired,
        Option.filter]
    · have pos : 0 < st.expiresAt := UInt64.pos_iff_ne_zero.mpr endless
      by_cases late : st.expiresAt < time
      · have past : st.expiresAt.toNat < time.toNat := UInt64.lt_iff_toNat_lt.mp late
        simp [groupAutomaton,GroupState.automaton,GroupState.deadline,Automaton.expire,liveAt,idle,endless,GroupState.expired,
          Option.filter,pos,late,past]
      have old : ¬st.expiresAt.toNat < time.toNat := fun past => late (UInt64.lt_iff_toNat_lt.mpr past)
      simp [groupAutomaton,GroupState.automaton,GroupState.deadline,Automaton.expire,liveAt,idle,endless,GroupState.expired,
        Option.filter,pos,late,old]

def Tracks (last : Nat) (group : Option GroupState) (a : Automaton) : Prop :=
  ∀ now, last ≤ now → (groupAutomaton group).expire now = a.expire now

section
variable (tracks : Tracks last group a)
include tracks

lemma Tracks.live (later : last ≤ time.toNat) : a.expire time.toNat = groupAutomaton (liveAt time group) := by
  rw [← groupAutomaton_expire]
  exact (tracks time.toNat later).symm

lemma Tracks.later (later : last ≤ time.toNat)
    (same : groupAutomaton (liveAt time left) = groupAutomaton (liveAt time group)) : Tracks time.toNat left a := by
  intro now bound
  calc (groupAutomaton left).expire now
      = ((groupAutomaton left).expire time.toNat).expire now := (Automaton.expire_expire bound).symm
    _ = ((groupAutomaton group).expire time.toNat).expire now := by
        rw [groupAutomaton_expire,groupAutomaton_expire,same]
    _ = (groupAutomaton group).expire now := Automaton.expire_expire bound
    _ = a.expire now := tracks now (later.trans bound)

lemma Tracks.expired : Tracks last group (a.expire last) := by
  intro now bound
  rw [Automaton.expire_expire bound]
  exact tracks now bound

end

lemma tracks_self (last : Nat) (group : Option GroupState) : Tracks last group (groupAutomaton group) :=
  fun _ _ => rfl

end

/-- A stored group as the automaton reads it: its references are as many events as it has counted
steps, among those seen, and without a window it does not expire. -/
structure Counted (seq : CompiledSequence) (seen : List String) (st : GroupState) : Prop where
  nodup : st.refs.Nodup
  seen : ∀ ref ∈ st.refs, ref ∈ seen ∧ ref ≠ ""
  length : st.refs.length = st.stepIndex
  endless : seq.within ≤ 0 → st.expiresAt = 0

variable {seen : List String} {seq : CompiledSequence} {st : GroupState}

lemma Counted.mono {more : List String}
    (counted : Counted seq seen st) (subset : ∀ ref ∈ seen, ref ∈ more) : Counted seq more st :=
  { counted with seen := fun ref mem => ⟨subset ref (counted.seen ref mem).1,(counted.seen ref mem).2⟩ }

lemma counted_fresh (seq : CompiledSequence) (seen : List String) : Counted seq seen {} :=
  ⟨nodup_nil,nofun,rfl,fun _ => rfl⟩

lemma Counted.reset (counted : Counted seq seen st) : Counted seq seen st.reset :=
  ⟨nodup_nil,nofun,rfl,counted.endless⟩

lemma appendRefs_nodup {base refs : List String} (nodup : (base ++ refs).Nodup)
    (filled : ∀ ref ∈ refs, ref ≠ "") : appendRefs base refs = base ++ refs := by
  induction refs generalizing base with
  | nil => exact (append_nil base).symm
  | cons ref refs ih =>
    have fresh : ref ∉ base := fun mem =>
      (nodup_append.mp nodup).2.2 ref mem ref mem_cons_self rfl
    have one : appendUnique base ref = base ++ [ref] := by
      simp [appendUnique,filled ref mem_cons_self,fresh]
    have split : base ++ ref :: refs = (base ++ [ref]) ++ refs := by simp
    rw [split] at nodup ⊢
    rw [← ih nodup fun other mem => filled other (mem_cons_of_mem _ mem)]
    exact congrArg (refs.foldl appendUnique) one

section
variable {go : Stdlib} {limits : EngineLimits} {view : EventView} {seq : CompiledSequence}
  {seen : List String} {base : GroupState}

section
variable (counted : Counted seq seen base)
include counted

lemma counted_refs (filled : view.eventID ≠ "")
    (fresh : view.eventID ∉ seen) (room : base.stepIndex < limits.maxCEPRefs) (step : CompiledStep) :
    (base.counted go limits view seq step).refs = base.refs ++ [view.eventID] := by
  have unseen : view.eventID ∉ base.refs := fun mem => fresh (counted.seen _ mem).1
  have appended : appendUnique base.refs view.eventID = base.refs ++ [view.eventID] := by
    simp [appendUnique,filled,unseen]
  simp only [GroupState.counted,appended]
  apply boundRefs_eq_self
  rw [length_append,counted.length,length_singleton]
  omega

lemma counted_deadline (bounded : view.eventTime.toNat + seq.within.toNat < 2 ^ 64) (step : CompiledStep) :
    (base.counted go limits view seq step).deadline = if base.stepIndex = 0 then deadlineFrom seq view else base.deadline := by
  have expiry : (base.counted go limits view seq step).expiresAt =
      if base.stepIndex = 0 && 0 < seq.within then view.eventTime + UInt64.ofInt seq.within
      else base.expiresAt := rfl
  rw [GroupState.deadline,expiry]
  by_cases start : base.stepIndex = 0
  · by_cases window : 0 < seq.within
    · have exact := toNat_deadline view.eventTime window bounded
      have pos : view.eventTime + UInt64.ofInt seq.within ≠ 0 := by
        intro zero
        rw [zero,UInt64.toNat_zero] at exact
        omega
      simp [start,window,deadlineFrom,pos,exact]
    · simp [start,window,deadlineFrom,counted.endless (by omega)]
  · simp [start,GroupState.deadline]

lemma groupCount_advance (filled : view.eventID ≠ "")
    (fresh : view.eventID ∉ seen) (room : seq.steps.length ≤ limits.maxCEPRefs)
    (bounded : view.eventTime.toNat + seq.within.toNat < 2 ^ 64) (hit : matchesAt go view seq base.stepIndex base.values = true) :
    let w : Waiting := { step := base.stepIndex, values := base.values, events := base.refs
                         deadline := if base.stepIndex = 0 then deadlineFrom seq view else base.deadline }
    groupAutomaton (groupCount go limits view seq base).1 = (w.advance seq view).1 ∧
      (groupCount go limits view seq base).2.toList.map (reportedRefs view.ev) = (w.advance seq view).2.toList ∧
      ∀ st ∈ (groupCount go limits view seq base).1, Counted seq (view.eventID :: seen) st := by
  obtain ⟨step,here,matched⟩ := matchesAt_eq_true go view hit
  have inside : base.stepIndex < seq.steps.length := (List.getElem?_eq_some_iff.mp here).1
  have refs := @counted_refs go limits view seq seen base counted filled fresh (by omega) step
  have nodup : (base.refs ++ [view.eventID]).Nodup := by
    refine nodup_append.mpr ⟨counted.nodup,nodup_singleton _,?_⟩
    intro ref mem other among same
    rw [mem_singleton.mp among] at same
    exact fresh (same ▸ (counted.seen ref mem).1)
  have named : ∀ ref ∈ base.refs ++ [view.eventID], ref ∈ view.eventID :: seen ∧ ref ≠ "" := by
    intro ref mem
    rcases mem_append.mp mem with old | now
    · exact ⟨mem_cons_of_mem _ (counted.seen ref old).1,(counted.seen ref old).2⟩
    · rw [mem_singleton.mp now]
      exact ⟨mem_cons_self,filled⟩
  cases more : seq.steps[base.stepIndex + 1]? with
  | none =>
    have last : ¬base.stepIndex + 1 < seq.steps.length := by
      simpa using List.getElem?_eq_none_iff.mp more
    have kept : appendRefs [] (base.refs ++ [view.eventID]) = base.refs ++ [view.eventID] :=
      appendRefs_nodup nodup fun ref mem => (named ref mem).2
    simp only [groupCount_done go limits view here matched more,refs,kept,Waiting.advance,here,last,if_false]
    exact ⟨rfl,by simp [reportedRefs,kept],nofun⟩
  | some next =>
    have further : base.stepIndex + 1 < seq.steps.length := (List.getElem?_eq_some_iff.mp more).1
    simp only [groupCount_next go limits view here matched more,Waiting.advance,here,further,if_true]
    have state : groupAutomaton (some (base.waitingFor go limits view seq step next)) =
        some { step := base.stepIndex + 1, values := saveValues base.values step view
               events := (base.counted go limits view seq step).refs
               deadline := (base.waitingFor go limits view seq step next).deadline } := rfl
    have ends : (base.waitingFor go limits view seq step next).deadline =
        (base.counted go limits view seq step).deadline := deadline_congr rfl
    refine ⟨?_,rfl,?_⟩
    · rw [state,refs,ends,counted_deadline counted bounded]
    rintro st ⟨⟩
    have count : (base.counted go limits view seq step).refs.length = base.stepIndex + 1 := by
      rw [refs,length_append,counted.length,length_singleton]
    refine ⟨refs ▸ nodup,fun ref mem => named ref (refs ▸ mem),count,?_⟩
    intro none
    have closed : ¬0 < seq.within := by omega
    simp [GroupState.waitingFor,GroupState.counted,closed,counted.endless none]

end

end

section
variable {seq : CompiledSequence} {behavior : String} {rule : CompiledSequenceRule}

def CompiledSequence.behaviorAt (seq : CompiledSequence) (index : Nat) : Option String :=
  seq.steps[index]?.map (·.behavior)

lemma step_unique (nodup : (seq.steps.map (·.behavior)).Nodup) {i j : Nat}
    (first : seq.behaviorAt i = some behavior) (second : seq.behaviorAt j = some behavior) : i = j := by
  rw [CompiledSequence.behaviorAt,← getElem?_map] at first second
  exact (getElem?_inj (List.getElem?_eq_some_iff.mp first).1 nodup).mp (first.trans second.symm)

variable {index : Nat}

lemma mem_nextIndices : index ∈ nextIndices seq behavior ↔ 0 < index ∧ seq.behaviorAt index = some behavior := by
  simp only [nextIndices,mem_filter,mem_range'_1,decide_eq_true_eq]
  constructor
  · rintro ⟨bounds,same⟩
    have inside : index < seq.steps.length := by omega
    refine ⟨by omega,?_⟩
    simpa [CompiledSequence.behaviorAt,getElem?_eq_getElem inside] using same
  · rintro ⟨pos,same⟩
    obtain ⟨step,here,rfl⟩ := Option.map_eq_some_iff.mp same
    have inside := (List.getElem?_eq_some_iff.mp here).1
    exact ⟨by omega,by rw [here,Option.map_some,Option.getD_some]⟩

lemma nextIndices_eq (distinct : (seq.steps.map (·.behavior)).Nodup) (pos : 0 < index)
    (here : seq.behaviorAt index = some behavior) : nextIndices seq behavior = [index] := by
  have nodup : (nextIndices seq behavior).Nodup := List.Nodup.filter _ (nodup_range' ..)
  apply perm_singleton.mp
  refine (perm_ext_iff_of_nodup nodup (nodup_singleton index)).mpr fun other => ?_
  rw [mem_nextIndices,mem_singleton]
  exact ⟨fun there => step_unique distinct there.2 here,fun same => same ▸ ⟨pos,here⟩⟩

lemma ruleCandidates_distinct (steps : rule.sequence.steps ≠ [])
    (nodup : (rule.sequence.steps.map (·.behavior)).Nodup) (behavior : String) (waits : Bool) :
    (rule.sequence.behaviorAt 0 = some behavior ∧ ruleCandidates rule behavior waits = [{ rule, firstStep := true }]) ∨
    (∃ index, 0 < index ∧ rule.sequence.behaviorAt index = some behavior ∧
      ruleCandidates rule behavior waits = if waits then [{ rule, stepIndex := index }] else []) ∨
    ((∀ index, rule.sequence.behaviorAt index ≠ some behavior) ∧ ruleCandidates rule behavior waits = []) := by
  have start : (rule.sequence.steps[0]?.map (·.behavior)).getD "" = behavior ↔
      rule.sequence.behaviorAt 0 = some behavior := by
    simp [CompiledSequence.behaviorAt,getElem?_eq_getElem (length_pos_iff.mpr steps)]
  rw [ruleCandidates_eq steps,firstCandidates,nextCandidates]
  by_cases first : rule.sequence.behaviorAt 0 = some behavior
  · have none : nextIndices rule.sequence behavior = [] := by
      apply eq_nil_iff_forall_not_mem.mpr
      intro index mem
      obtain ⟨pos,here⟩ := mem_nextIndices.mp mem
      exact absurd (step_unique nodup first here) pos.ne
    exact .inl ⟨first,by simp [start.mpr first,none]⟩
  · rw [if_neg (fun same => first (start.mp same))]
    by_cases later : ∃ index, 0 < index ∧ rule.sequence.behaviorAt index = some behavior
    · obtain ⟨index,pos,here⟩ := later
      exact .inr (.inl ⟨index,pos,here,by simp [nextIndices_eq nodup pos here]⟩)
    have absent : ∀ index, rule.sequence.behaviorAt index ≠ some behavior := by
      intro index here
      rcases Nat.eq_zero_or_pos index with rfl | pos
      · exact first here
      · exact later ⟨index,pos,here⟩
    have none : nextIndices rule.sequence behavior = [] := by
      apply eq_nil_iff_forall_not_mem.mpr
      intro index mem
      exact absent index (mem_nextIndices.mp mem).2
    exact .inr (.inr ⟨absent,by simp [none]⟩)

end
end

/-! Runs of a sequence rule with distinct behaviours against the automaton of each of its groups.
An event of a group takes the stored group where the automaton goes; an event of another group
removes at most a state whose deadline is over, unless room has to be made for a new group. -/

lemma mem_groupAutomaton {group : Option GroupState} {w : Waiting} (mem : groupAutomaton group = some w) :
    ∃ st ∈ group, 0 < st.stepIndex ∧
      w = { step := st.stepIndex, values := st.values, events := st.refs, deadline := st.deadline } := by
  cases group with
  | none => cases mem
  | some st =>
    by_cases idle : st.stepIndex = 0
    · simp [groupAutomaton,GroupState.automaton,idle] at mem
    · simp only [groupAutomaton,GroupState.automaton,idle,Option.bind_some,if_false,Option.some.injEq] at mem
      exact ⟨st,rfl,Nat.pos_of_ne_zero idle,mem.symm⟩

lemma groupAutomaton_waiting {st : GroupState} (pos : 0 < st.stepIndex) : groupAutomaton (some st) =
      some { step := st.stepIndex, values := st.values, events := st.refs, deadline := st.deadline } := by
  have waits : st.stepIndex ≠ 0 := by omega
  simp only [groupAutomaton,GroupState.automaton,Option.bind_some,waits,if_false]

lemma Tracks.idle {go : Stdlib} {seq : CompiledSequence} {view : EventView} {last : Nat} {a : Automaton}
    {group left : Option GroupState} (tracks : Tracks last group a) (later : last ≤ view.eventTime.toNat)
    (start : matchesAt go view seq 0 ∅ = false) (miss : ∀ st ∈ liveAt view.eventTime group, 0 < st.stepIndex →
      matchesAt go view seq st.stepIndex st.values = false)
    (same : groupAutomaton (liveAt view.eventTime left) = groupAutomaton (liveAt view.eventTime group)) :
    Tracks view.eventTime.toNat left (a.step go seq view).1 ∧ (a.step go seq view).2 = none := by
  have stays : a.step go seq view = (a.expire view.eventTime.toNat,none) := by
    simp only [Automaton.step,start,Bool.false_eq_true,if_false]
    cases held : a.expire view.eventTime.toNat with
    | none => rfl
    | some w =>
      rw [tracks.live later] at held
      obtain ⟨st,mem,pos,rfl⟩ := mem_groupAutomaton held
      simp only [miss st mem pos,Bool.false_eq_true,if_false]
  rw [stays]
  exact ⟨(tracks.later later same).expired,rfl⟩

structure Mirrored (view : EventView) (seq : CompiledSequence) (seen : List String)
    (pass : Option GroupState × List Completion) (stepped : Automaton × Option (List String)) : Prop where
  tracks : Tracks view.eventTime.toNat pass.1 stepped.1
  emits : pass.2.map (reportedRefs view.ev) = stepped.2.toList
  counted : ∀ st ∈ pass.1, Counted seq (view.eventID :: seen) st

section
variable {go : Stdlib} {limits : EngineLimits} {view : EventView} {rule : CompiledSequenceRule}
  {last : Nat} {seen : List String} {group : Option GroupState} {a : Automaton}
  (steps : rule.sequence.steps ≠ []) (named : ∀ step ∈ rule.sequence.steps, step.behavior ≠ "")
  (nodup : (rule.sequence.steps.map (·.behavior)).Nodup)
  (room : rule.sequence.steps.length ≤ limits.maxCEPRefs)
  (bounded : view.eventTime.toNat + rule.sequence.within.toNat < 2 ^ 64)
  (filled : view.eventID ≠ "") (fresh : view.eventID ∉ seen)
  (tracks : Tracks last group a) (later : last ≤ view.eventTime.toNat)
  (placed : ∀ st ∈ group, Placed rule.sequence st)
  (counted : ∀ st ∈ group, Counted rule.sequence seen st)

include counted in
lemma counted_more : ∀ st ∈ group, Counted rule.sequence (view.eventID :: seen) st :=
  fun st mem => (counted st mem).mono fun _ old => List.mem_cons_of_mem _ old

include named in
lemma behaviorAt_of_match {index : Nat} {values : StepValues} (hit : matchesAt go view rule.sequence index values = true) :
    rule.sequence.behaviorAt index = some view.behavior := by
  obtain ⟨step,here,behavior⟩ := matchesAt_behavior go view named hit
  rw [CompiledSequence.behaviorAt,here,Option.map_some,behavior]

include named nodup in
lemma miss_of_ne {index other : Nat} (here : rule.sequence.behaviorAt index = some view.behavior)
    (ne : other ≠ index) (values : StepValues) : matchesAt go view rule.sequence other values = false :=
  Bool.eq_false_iff.mpr fun hit => ne (step_unique nodup (behaviorAt_of_match named hit) here)

lemma groupPass_single (c : SequenceCandidate) : groupPass go limits view [c] group =
      ((groupOffer go limits view c group).1,(groupOffer go limits view c group).2.toList) := by
  simp [groupPass]

include counted in
lemma mirrored_idle {left : Option GroupState} (tracks : Tracks last group a)
    (later : last ≤ view.eventTime.toNat) (start : matchesAt go view rule.sequence 0 ∅ = false)
    (miss : ∀ st ∈ liveAt view.eventTime group, 0 < st.stepIndex → matchesAt go view rule.sequence st.stepIndex st.values = false)
    (same : groupAutomaton (liveAt view.eventTime left) = groupAutomaton (liveAt view.eventTime group))
    (kept : ∀ st ∈ left, st = {} ∨ st ∈ group) : Mirrored view rule.sequence seen (left,[]) (a.step go rule.sequence view) := by
  obtain ⟨tracks,silent⟩ := tracks.idle later start miss same
  refine ⟨tracks,by rw [silent]; rfl,?_⟩
  intro st mem
  rcases kept st mem with rfl | old
  · exact counted_fresh _ _
  · exact counted_more counted st old

include steps named nodup room bounded filled fresh tracks later placed counted

lemma firstStep_mirrored (here : rule.sequence.behaviorAt 0 = some view.behavior) :
    Mirrored view rule.sequence seen (groupPass go limits view [{ rule, firstStep := true }] group)
      (a.step go rule.sequence view) := by
  rw [groupPass_single]
  cases hit : matchesAt go view rule.sequence 0 ∅ with
  | true =>
    obtain ⟨base,zero,empty,origin,offer⟩ := groupOffer_first_hit go limits view steps placed hit
    have clean : Counted rule.sequence seen base := by
      rcases origin with rfl | ⟨st,mem,rfl⟩
      · exact counted_fresh _ _
      · exact (counted st mem).reset
    have none : base.refs = [] := List.length_eq_zero_iff.mp (clean.length.trans zero)
    have advanced := groupCount_advance clean filled fresh room bounded (by rwa [zero,empty])
    simp only [zero,empty,none,if_true] at advanced
    have starts : a.step go rule.sequence view =
        ({ deadline := deadlineFrom rule.sequence view } : Waiting).advance rule.sequence view := if_pos hit
    rw [offer,starts]
    exact ⟨advanced.1 ▸ tracks_self _ _,advanced.2.1,advanced.2.2⟩
  | false =>
    rw [groupOffer_first_miss go limits view steps placed hit]
    apply mirrored_idle counted tracks later hit
    · intro st _ pos
      exact miss_of_ne named nodup here pos.ne' st.values
    · cases live : liveAt view.eventTime group with
      | none => rfl
      | some st =>
        rw [Option.getD_some,← live,liveAt_liveAt]
    · rintro st ⟨⟩
      cases live : liveAt view.eventTime group with
      | none => exact .inl rfl
      | some st => exact .inr (mem_liveAt live)

omit steps in
lemma nextStep_mirrored {index : Nat} (pos : 0 < index) (here : rule.sequence.behaviorAt index = some view.behavior) :
    Mirrored view rule.sequence seen (groupPass go limits view [{ rule, stepIndex := index }] group)
      (a.step go rule.sequence view) := by
  rw [groupPass_single]
  have start : matchesAt go view rule.sequence 0 ∅ = false := miss_of_ne named nodup here pos.ne ∅
  cases live : liveAt view.eventTime group with
  | none =>
    have gone : groupOffer go limits view { rule, stepIndex := index } group = (none,none) := by
      simp [groupOffer,live]
    rw [gone]
    exact mirrored_idle counted tracks later start (by simp [live]) (by rw [live]; rfl) (by simp)
  | some st =>
    have mem := mem_liveAt live
    have same : groupAutomaton (liveAt view.eventTime (some st)) =
        groupAutomaton (liveAt view.eventTime group) := by
      rw [← live,liveAt_liveAt]
    have idle (miss : matchesAt go view rule.sequence st.stepIndex st.values = false) :
        Mirrored view rule.sequence seen (some st,[]) (a.step go rule.sequence view) := by
      apply mirrored_idle counted tracks later start _ same
      · rintro _ ⟨⟩
        exact .inr mem
      rw [live]
      rintro _ ⟨⟩ _
      exact miss
    by_cases waits : st.stepIndex = index
    · have offer : groupOffer go limits view { rule, stepIndex := index } group =
          groupCount go limits view rule.sequence st := by
        simp only [groupOffer,live,waits,if_true]
        exact groupAdvance_inside go limits view (placed st mem).inside
      rw [offer]
      cases hit : matchesAt go view rule.sequence st.stepIndex st.values with
      | false =>
        rw [groupCount_miss go limits view hit]
        exact idle hit
      | true =>
        have ahead : 0 < st.stepIndex := waits ▸ pos
        have advanced := groupCount_advance (counted st mem) filled fresh room bounded hit
        simp only [ahead.ne',if_false] at advanced
        have goes : a.step go rule.sequence view =
            ({ step := st.stepIndex, values := st.values, events := st.refs, deadline := st.deadline } :
              Waiting).advance rule.sequence view := by
          simp only [Automaton.step,start,Bool.false_eq_true,if_false,tracks.live later,live,
            groupAutomaton_waiting ahead,hit,if_true]
        rw [goes]
        exact ⟨advanced.1 ▸ tracks_self _ _,advanced.2.1,advanced.2.2⟩
    · have unchanged : groupOffer go limits view { rule, stepIndex := index } group = (some st,none) := by
        simp [groupOffer,live,waits]
      rw [unchanged]
      exact idle (miss_of_ne named nodup here waits st.values)

lemma rulePass_mirrored (waits : Bool)
    (waited : ∀ st ∈ group, 0 < st.stepIndex → st.waitingBehavior = view.behavior → waits = true) :
    Mirrored view rule.sequence seen (groupPass go limits view (ruleCandidates rule view.behavior waits) group)
      (a.step go rule.sequence view) := by
  have untouched (start : matchesAt go view rule.sequence 0 ∅ = false)
      (miss : ∀ st ∈ group, 0 < st.stepIndex → matchesAt go view rule.sequence st.stepIndex st.values = false) :
      Mirrored view rule.sequence seen (group,[]) (a.step go rule.sequence view) :=
    mirrored_idle counted tracks later start (fun st mem => miss st (mem_liveAt mem)) rfl
      fun _ mem => .inr mem
  rcases ruleCandidates_distinct steps nodup view.behavior waits with
    ⟨here,only⟩ | ⟨index,pos,here,only⟩ | ⟨absent,only⟩
  · rw [only]
    exact firstStep_mirrored steps named nodup room bounded filled fresh tracks later placed counted here
  · rw [only]
    split
    · exact nextStep_mirrored named nodup room bounded filled fresh tracks later placed counted pos here
    rename_i asleep
    refine untouched (miss_of_ne named nodup here pos.ne ∅) fun st mem ahead => ?_
    apply Bool.eq_false_iff.mpr
    intro hit
    obtain ⟨step,there,waiting⟩ := (placed st mem).waiting ahead
    obtain ⟨_,again,behavior⟩ := matchesAt_behavior go view named hit
    obtain rfl := Option.some.inj (there.symm.trans again)
    exact asleep (waited st mem ahead (waiting.trans behavior.symm))
  · rw [only]
    refine untouched ?_ fun st _ _ => ?_
    · exact Bool.eq_false_iff.mpr fun hit => absent 0 (behaviorAt_of_match named hit)
    · exact Bool.eq_false_iff.mpr fun hit => absent st.stepIndex (behaviorAt_of_match named hit)

end

end SysArmor.Detection
