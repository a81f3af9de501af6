import SysArmor.DetectionRules

/-! The groups of a sequence rule: the progress of every group, the index of the behaviours
that rules wait for, and what one candidate step does with an event. -/
namespace SysArmor.Detection
open GoText Proto

structure GroupState where
  stepIndex : Nat := 0
  refs : List String := []
  entities : List EntityRef := []
  values : StepValues := ∅
  expiresAt : UInt64 := 0
  waitingBehavior : String := ""

abbrev Groups := AList fun _ : String => GroupState

/-- `cepActive`: for every behaviour the rules that wait for it, with a counter. -/
abbrev Waits := AList fun _ : String => AList fun _ : String => Nat

def Waits.count (active : Waits) (behavior ruleID : String) : Nat :=
  ((active.lookup behavior).bind (·.lookup ruleID)).getD 0

def activateSequenceWait (active : Waits) (ruleID behavior : String) : Waits :=
  if ruleID = "" then active
  else active.insert behavior
    (((active.lookup behavior).getD ∅).insert ruleID (active.count behavior ruleID + 1))

def Waits.setRow (active : Waits) (behavior : String) (rules : AList fun _ : String => Nat) : Waits :=
  if rules.keys = [] then active.erase behavior else active.insert behavior rules

def deactivateSequenceWait (active : Waits) (ruleID behavior : String) : Waits :=
  if ruleID = "" then active
  else match active.lookup behavior with
    | none => active
    | some rules =>
      if active.count behavior ruleID ≤ 1 then active.setRow behavior (rules.erase ruleID)
      else active.insert behavior (rules.insert ruleID (active.count behavior ruleID - 1))

structure SequenceState where
  groups : Groups := ∅
  active : Waits := ∅

def GroupState.expired (st : GroupState) (now : UInt64) : Bool := 0 < st.expiresAt && st.expiresAt < now
def GroupState.reset (st : GroupState) : GroupState := { expiresAt := st.expiresAt }

def SequenceState.drop (s : SequenceState) (ruleID key : String) : SequenceState :=
  match s.groups.lookup key with
  | none => s
  | some st => ⟨s.groups.erase key,deactivateSequenceWait s.active ruleID st.waitingBehavior⟩

def SequenceState.dropExpired (s : SequenceState) (ruleID : String) (now : UInt64) (key : String) :
    SequenceState :=
  if (s.groups.lookup key).any (·.expired now) then s.drop ruleID key else s

def SequenceState.put (s : SequenceState) (key : String) (st : GroupState) : SequenceState :=
  { s with groups := s.groups.insert key st }

def SequenceState.startOver (s : SequenceState) (ruleID key : String) (st : GroupState) : SequenceState :=
  ⟨s.groups.insert key st.reset,deactivateSequenceWait s.active ruleID st.waitingBehavior⟩

/-- The choices the Go runtime makes: the wall clock, the order in which a range over labels
visits them, and the key at which a range over a table of groups or suppressions starts. -/
structure Chance where
  clock : Int
  visit : Labels → List (String × String)
  visited : ∀ labels key value, (key,value) ∈ visit labels ↔ labels.lookup key = some value
  victim : List String → Nat

def Chance.pick (chance : Chance) (keys : List String) : Option String :=
  keys[chance.victim keys % keys.length]?

def evictLoop (limit : Nat) (chance : Chance) (ruleID : String) : Nat → SequenceState → SequenceState
  | 0, s => s
  | fuel + 1, s =>
    if s.groups.keys.length < limit then s
    else match chance.pick s.groups.keys with
      | none => s
      | some key => evictLoop limit chance ruleID fuel (s.drop ruleID key)

def sweepExpired (ruleID : String) (now : UInt64) (s : SequenceState) : SequenceState :=
  s.groups.keys.foldl (fun s key => s.dropExpired ruleID now key) s

def evictCEPGroups (limits : EngineLimits) (chance : Chance) (ruleID : String) (now : UInt64)
    (s : SequenceState) : SequenceState :=
  if s.groups.keys.length < limits.maxCEPGroups then s
  else
    let swept := sweepExpired ruleID now s
    evictLoop limits.maxCEPGroups chance ruleID swept.groups.keys.length swept

def appendUnique (items : List String) (item : String) : List String :=
  if item = "" || items.contains item then items else items ++ [item]

def appendRefs (base refs : List String) : List String := refs.foldl appendUnique base

def appendUniqueEntities (out values : List EntityRef) : List EntityRef :=
  values.foldl (fun out value => if out.contains value then out else out ++ [value]) out

def boundRefs (limit : Nat) (refs : List String) : List String := refs.drop (refs.length - limit)

def eventFieldMapFromView (view : EventView) (fields : List FieldID) : AList fun _ : String => String :=
  fields.foldl (fun out field => out.insert (fieldName field) (view.field field)) ∅

def saveValues (values : StepValues) (step : CompiledStep) (view : EventView) : StepValues :=
  if step.saveFields = [] then values
  else values.insert step.id (eventFieldMapFromView view step.saveFields)

def matchCompiledStep (go : Stdlib) (view : EventView) (step : CompiledStep) (values : StepValues) : Bool :=
  (step.behavior = "" || view.behavior = step.behavior) &&
    matchCompiledConditions go view step.conditions (some values) &&
    matchCompiledConditionNode go view step.conditionGroup (some values)

section Candidate
variable (go : Stdlib) (limits : EngineLimits) (chance : Chance) (view : EventView)

def GroupState.counted (seq : CompiledSequence) (step : CompiledStep) (st : GroupState) : GroupState where
  stepIndex := st.stepIndex + 1
  refs := boundRefs limits.maxCEPRefs (appendUnique st.refs view.eventID)
  entities := appendUniqueEntities st.entities (eventEntities go view.ev)
  values := saveValues st.values step view
  expiresAt :=
    if st.stepIndex = 0 && 0 < seq.within then view.eventTime + UInt64.ofInt seq.within else st.expiresAt
  waitingBehavior := st.waitingBehavior

abbrev Completion := List String × List EntityRef

/-- Match the step the group stands at, advance it, and either wait for the next step or leave
with a completed sequence. -/
def countStep (ruleID key : String) (seq : CompiledSequence) (s : SequenceState) (st : GroupState) :
    SequenceState × Option Completion :=
  match seq.steps[st.stepIndex]? with
  | none => (s,none)
  | some step =>
    if matchCompiledStep go view step st.values then
      let st := st.counted go limits view seq step
      let active := deactivateSequenceWait s.active ruleID st.waitingBehavior
      match seq.steps[st.stepIndex]? with
      | some next =>
        (⟨s.groups.insert key { st with waitingBehavior := next.behavior },
          activateSequenceWait active ruleID next.behavior⟩,none)
      | none => (⟨s.groups.erase key,active⟩,some (appendRefs [] st.refs,st.entities))
    else (s,none)

/-- The tail of `detectSequenceCandidate`, once the group is there. -/
def advanceGroup (ruleID key : String) (seq : CompiledSequence) (s : SequenceState) (st : GroupState) :
    SequenceState × Option Completion :=
  if seq.steps.length ≤ st.stepIndex then
    countStep go limits view ruleID key seq (s.startOver ruleID key st) st.reset
  else countStep go limits view ruleID key seq s st

def offerCandidate (c : SequenceCandidate) (s : SequenceState) : SequenceState × Option Completion :=
  let ruleID := c.rule.rule.spec.ruleID
  let seq := c.rule.sequence
  let key := compiledSequenceGroupKey view seq.by_
  let now := view.eventTime
  let s := s.dropExpired ruleID now key
  match s.groups.lookup key,c.firstStep with
  | none,false => (s,none)
  | some st,false =>
    if st.stepIndex = c.stepIndex then advanceGroup go limits view ruleID key seq s st else (s,none)
  | some st,true =>
    if st.stepIndex = 0 then advanceGroup go limits view ruleID key seq s st
    else if seq.steps[0]?.any (matchCompiledStep go view · ∅) then
      -- The event matches the first step again, so the group starts over with it.
      advanceGroup go limits view ruleID key seq (s.startOver ruleID key st) st.reset
    else (s,none)
  | none,true =>
    advanceGroup go limits view ruleID key seq ((evictCEPGroups limits chance ruleID now s).put key {}) {}

end Candidate

/-! One group of a sequence rule on its own. A candidate acts on the group of the event as a
function of that group alone; the other groups can only be cleared away. -/
open AList

def liveAt (now : UInt64) (st : Option GroupState) : Option GroupState := st.filter fun st => !st.expired now

section
variable (go : Stdlib) (limits : EngineLimits) (view : EventView)

def groupCount (seq : CompiledSequence) (st : GroupState) : Option GroupState × Option Completion :=
  match seq.steps[st.stepIndex]? with
  | none => (some st,none)
  | some step =>
    if matchCompiledStep go view step st.values then
      let st := st.counted go limits view seq step
      match seq.steps[st.stepIndex]? with
      | some next => (some { st with waitingBehavior := next.behavior },none)
      | none => (none,some (appendRefs [] st.refs,st.entities))
    else (some st,none)

def groupAdvance (seq : CompiledSequence) (st : GroupState) : Option GroupState × Option Completion :=
  groupCount go limits view seq (if seq.steps.length ≤ st.stepIndex then st.reset else st)

def matchesAt (seq : CompiledSequence) (index : Nat) (values : StepValues) : Bool :=
  seq.steps[index]?.any (matchCompiledStep go view · values)

def groupOffer (c : SequenceCandidate) (st : Option GroupState) : Option GroupState × Option Completion :=
  let seq := c.rule.sequence
  match liveAt view.eventTime st,c.firstStep with
  | none,false => (none,none)
  | some st,false => if st.stepIndex = c.stepIndex then groupAdvance go limits view seq st else (some st,none)
  | some st,true =>
    if st.stepIndex = 0 then groupAdvance go limits view seq st
    else if matchesAt go view seq 0 ∅ then groupAdvance go limits view seq st.reset
    else (some st,none)
  | none,true => groupAdvance go limits view seq {}

def groupPass : List SequenceCandidate → Option GroupState → Option GroupState × List Completion
  | [], st => (st,[])
  | c :: rest, st =>
    let (st,done) := groupOffer go limits view c st
    let (st,others) := groupPass rest st
    (st,done.toList ++ others)

end

lemma boundRefs_eq_self {limit : Nat} {refs : List String} (short : refs.length ≤ limit) : boundRefs limit refs = refs := by
  rw [boundRefs,Nat.sub_eq_zero_of_le short,List.drop_zero]

lemma toNat_deadline (now : UInt64) {within : Int} (window : 0 < within) (bounded : now.toNat + within.toNat < 2 ^ 64) :
    (now + UInt64.ofInt within).toNat = now.toNat + within.toNat := by
  have width : (UInt64.ofInt within).toNat = within.toNat := by
    simp only [UInt64.ofInt,UInt64.toNat_ofNat']
    omega
  rw [UInt64.toNat_add,width]
  omega

def Shrinks (before after : Groups) : Prop :=
  ∀ key, after.lookup key = before.lookup key ∨ after.lookup key = none

lemma Shrinks.refl (groups : Groups) : Shrinks groups groups := fun _ => .inl rfl

lemma Shrinks.trans {first second third : Groups} (old : Shrinks first second)
    (after : Shrinks second third) : Shrinks first third := by
  intro key
  rcases after key with same | gone
  · rw [same]
    exact old key
  · exact .inr gone

lemma Shrinks.absent {old after : Groups} (shrinks : Shrinks old after) {key : String}
    (missing : old.lookup key = none) : after.lookup key = none := by
  rcases shrinks key with same | gone
  · exact same.trans missing
  · exact gone

section
variable {s : SequenceState} {ruleID key other : String} {now : UInt64}

lemma lookup_drop : (s.drop ruleID key).groups.lookup key = none := by
  unfold SequenceState.drop
  split
  · assumption
  · exact lookup_erase ..

lemma lookup_drop_ne (ne : other ≠ key) : (s.drop ruleID key).groups.lookup other = s.groups.lookup other := by
  unfold SequenceState.drop
  split
  · rfl
  · exact lookup_erase_ne ne

lemma drop_shrinks (s : SequenceState) (ruleID key : String) : Shrinks s.groups (s.drop ruleID key).groups := by
  intro other
  by_cases same : other = key
  · subst same
    exact .inr (lookup_drop)
  · exact .inl (lookup_drop_ne same)

lemma lookup_dropExpired (s : SequenceState) (ruleID : String) (now : UInt64) (key : String) :
    (s.dropExpired ruleID now key).groups.lookup key = liveAt now (s.groups.lookup key) := by
  unfold SequenceState.dropExpired
  cases found : s.groups.lookup key with
  | none => simpa [liveAt] using found
  | some st =>
    cases lapsed : st.expired now with
    | true => simpa [liveAt,lapsed,Option.filter] using lookup_drop
    | false => simpa [liveAt,lapsed,Option.filter] using found

lemma lookup_dropExpired_ne (ne : other ≠ key) :
    (s.dropExpired ruleID now key).groups.lookup other = s.groups.lookup other := by
  unfold SequenceState.dropExpired
  split
  · exact lookup_drop_ne ne
  · rfl

lemma dropExpired_shrinks (s : SequenceState) (ruleID : String) (now : UInt64) (key : String) :
    Shrinks s.groups (s.dropExpired ruleID now key).groups := by
  unfold SequenceState.dropExpired
  split
  · exact drop_shrinks s ruleID key
  · exact Shrinks.refl _

lemma evictLoop_shrinks (limit : Nat) (chance : Chance) (ruleID : String) (fuel : Nat) (s : SequenceState) :
    Shrinks s.groups (evictLoop limit chance ruleID fuel s).groups := by
  induction fuel generalizing s with
  | zero => exact Shrinks.refl _
  | succ fuel ih =>
    unfold evictLoop
    split
    · exact Shrinks.refl _
    split
    · exact Shrinks.refl _
    · exact (drop_shrinks s ruleID _).trans (ih _)

lemma sweepExpired_shrinks (ruleID : String) (now : UInt64) (s : SequenceState) :
    Shrinks s.groups (sweepExpired ruleID now s).groups := by
  unfold sweepExpired
  generalize s.groups.keys = keys
  induction keys generalizing s with
  | nil => exact Shrinks.refl _
  | cons key keys ih => exact (dropExpired_shrinks s ruleID now key).trans (ih _)

lemma evictCEPGroups_shrinks (limits : EngineLimits) (chance : Chance) (ruleID : String) (now : UInt64)
    (s : SequenceState) : Shrinks s.groups (evictCEPGroups limits chance ruleID now s).groups := by
  unfold evictCEPGroups
  split
  · exact Shrinks.refl _
  · exact (sweepExpired_shrinks ruleID now s).trans (evictLoop_shrinks _ _ _ _ _)

end

section
variable (go : Stdlib) (limits : EngineLimits) (chance : Chance) (view : EventView)

variable {seq : CompiledSequence} {st : GroupState} {step : CompiledStep} {values : StepValues}

lemma matchesAt_eq_true {index : Nat} (hit : matchesAt go view seq index values = true) :
    ∃ step, seq.steps[index]? = some step ∧ matchCompiledStep go view step values = true := by
  unfold matchesAt at hit
  cases here : seq.steps[index]? with
  | none => simp [here] at hit
  | some step => exact ⟨step,rfl,by simpa [here] using hit⟩

lemma groupCount_miss (miss : matchesAt go view seq st.stepIndex st.values = false) :
    groupCount go limits view seq st = (some st,none) := by
  unfold matchesAt at miss
  unfold groupCount
  cases here : seq.steps[st.stepIndex]? with
  | none => rfl
  | some step => simp_all

variable {key ruleID : String} {s : SequenceState} {next : CompiledStep}

def GroupState.waitingFor (seq : CompiledSequence) (step next : CompiledStep) (st : GroupState) : GroupState :=
  { st.counted go limits view seq step with waitingBehavior := next.behavior }

section
variable (here : seq.steps[st.stepIndex]? = some step)
include here

lemma groupCount_next
    (hit : matchCompiledStep go view step st.values = true) (more : seq.steps[st.stepIndex + 1]? = some next) :
    groupCount go limits view seq st = (some (st.waitingFor go limits view seq step next),none) := by
  simp [groupCount,here,hit,GroupState.counted,more,GroupState.waitingFor]

lemma groupCount_done (hit : matchCompiledStep go view step st.values = true) (last : seq.steps[st.stepIndex + 1]? = none) :
    groupCount go limits view seq st = (none,some (appendRefs [] (st.counted go limits view seq step).refs,
      (st.counted go limits view seq step).entities)) := by
  simp only [groupCount,here,hit,if_true,GroupState.counted,last]

end

/-- What one count does, to the table and to the group at `key`: nothing, or it ends the group, or the
group waits for its next step. -/
lemma countStep_cases {P : SequenceState × Option Completion → Option GroupState × Option Completion → Prop}
    (miss : P (s,none) (some st,none))
    (done : ∀ completion, P (⟨s.groups.erase key,deactivateSequenceWait s.active ruleID st.waitingBehavior⟩,some completion)
      (none,some completion))
    (next : ∀ moved : GroupState, P (⟨s.groups.insert key moved,activateSequenceWait
      (deactivateSequenceWait s.active ruleID st.waitingBehavior) ruleID moved.waitingBehavior⟩,none) (some moved,none)) :
    P (countStep go limits view ruleID key seq s st) (groupCount go limits view seq st) := by
  unfold countStep groupCount
  cases seq.steps[st.stepIndex]? with
  | none => exact miss
  | some step =>
    dsimp only
    split
    · cases seq.steps[(st.counted go limits view seq step).stepIndex]? with
      | none => exact done _
      | some following => exact next _
    · exact miss

/-- The table after a step on the group at `key` whose own effect is `result`. -/
structure Follows (key : String) (before : Groups) (after : SequenceState × Option Completion)
    (result : Option GroupState × Option Completion) : Prop where
  group : after.1.groups.lookup key = result.1
  done : after.2 = result.2
  others : ∀ other, other ≠ key → after.1.groups.lookup other = before.lookup other

lemma Follows.after {old middle : Groups} {after : SequenceState × Option Completion}
    {result : Option GroupState × Option Completion} (follows : Follows key middle after result)
    (same : ∀ other, other ≠ key → middle.lookup other = old.lookup other) : Follows key old after result where
  group := follows.group
  done := follows.done
  others other ne := (follows.others other ne).trans (same other ne)

lemma countStep_follows (ruleID key : String) (seq : CompiledSequence) (s : SequenceState) (st : GroupState)
    (found : s.groups.lookup key = some st) :
    Follows key s.groups (countStep go limits view ruleID key seq s st) (groupCount go limits view seq st) := by
  apply countStep_cases
  · exact ⟨found,rfl,fun _ _ => rfl⟩
  · exact fun _ => ⟨lookup_erase ..,rfl,fun _ ne => lookup_erase_ne ne⟩
  · exact fun _ => ⟨lookup_insert _,rfl,fun _ ne => lookup_insert_ne ne⟩

lemma advanceGroup_follows (ruleID key : String) (seq : CompiledSequence) (s : SequenceState)
    (st : GroupState) (found : s.groups.lookup key = some st) :
    Follows key s.groups (advanceGroup go limits view ruleID key seq s st) (groupAdvance go limits view seq st) := by
  unfold advanceGroup groupAdvance
  split
  · have started := countStep_follows go limits view ruleID key seq (s.startOver ruleID key st) st.reset
      (lookup_insert _)
    exact started.after fun _ ne => lookup_insert_ne ne
  · exact countStep_follows go limits view ruleID key seq s st found

/-- The table in which a candidate looks for the event's group: without the group if it has
expired, and with room for it if it is to be created. -/
def clearedFor (c : SequenceCandidate) (s : SequenceState) : SequenceState :=
  let ruleID := c.rule.rule.spec.ruleID
  let key := compiledSequenceGroupKey view c.rule.sequence.by_
  let s := s.dropExpired ruleID view.eventTime key
  if c.firstStep && (s.groups.lookup key).isNone then evictCEPGroups limits chance ruleID view.eventTime s
  else s

lemma clearedFor_shrinks (c : SequenceCandidate) (s : SequenceState) :
    Shrinks s.groups (clearedFor limits chance view c s).groups := by
  have dropped := dropExpired_shrinks s c.rule.rule.spec.ruleID view.eventTime
    (compiledSequenceGroupKey view c.rule.sequence.by_)
  simp only [clearedFor]
  split
  · exact dropped.trans (evictCEPGroups_shrinks _ _ _ _ _)
  · exact dropped

lemma offerCandidate_follows (c : SequenceCandidate) (s : SequenceState) :
    let key := compiledSequenceGroupKey view c.rule.sequence.by_
    Follows key (clearedFor limits chance view c s).groups (offerCandidate go limits chance view c s)
      (groupOffer go limits view c (s.groups.lookup key)) := by
  intro key
  simp only [offerCandidate,groupOffer,clearedFor,← lookup_dropExpired s c.rule.rule.spec.ruleID view.eventTime]
  generalize s.dropExpired c.rule.rule.spec.ruleID view.eventTime key = cleaned
  cases found : cleaned.groups.lookup key with
  | none =>
    cases c.firstStep with
    | false => exact ⟨found,rfl,fun _ _ => rfl⟩
    | true =>
      have created := advanceGroup_follows go limits view c.rule.rule.spec.ruleID key c.rule.sequence
        ((evictCEPGroups limits chance c.rule.rule.spec.ruleID view.eventTime cleaned).put key {}) {}
        (lookup_insert _)
      exact created.after fun _ ne => lookup_insert_ne ne
  | some st =>
    simp only [Option.isNone_some,Bool.and_false,Bool.false_eq_true,if_false]
    have unchanged : Follows key cleaned.groups (cleaned,none) (some st,none) := ⟨found,rfl,fun _ _ => rfl⟩
    cases c.firstStep with
    | false =>
      by_cases here : st.stepIndex = c.stepIndex
      · simp only [here,if_true]
        exact advanceGroup_follows go limits view _ key _ cleaned st found
      · simp only [here,if_false]
        exact unchanged
    | true =>
      by_cases start : st.stepIndex = 0
      · simp only [start,if_true]
        exact advanceGroup_follows go limits view _ key _ cleaned st found
      have spelled : c.rule.sequence.steps[0]?.any (matchCompiledStep go view · ∅) =
          matchesAt go view c.rule.sequence 0 ∅ := rfl
      simp only [start,if_false,spelled]
      split
      · have restarted := advanceGroup_follows go limits view c.rule.rule.spec.ruleID key c.rule.sequence
          (cleaned.startOver c.rule.rule.spec.ruleID key st) st.reset (lookup_insert _)
        exact restarted.after fun _ ne => lookup_insert_ne ne
      · exact unchanged

end

end SysArmor.Detection
