import SysArmor.SequenceEvidence

/-! Bounds on what the engine keeps and reports. Tables grow by one entry at a time, and room is made
before: the loops that remove entries end, below the limit. -/
namespace SysArmor.Detection
open GoText Proto List AList

section
variable {β : Type} {table : AList fun _ : String => β} {key : String} {value old : β}

lemma length_insert_le (table : AList fun _ : String => β) (value : β) :
    (table.insert key value).keys.length ≤ table.keys.length + 1 := by
  rw [keys_insert,length_cons]
  exact Nat.succ_le_succ length_erase_le

lemma length_insert_of_lookup (found : table.lookup key = some old) :
    (table.insert key value).keys.length = table.keys.length := by
  have mem : key ∈ table.keys := lookup_isSome.mp (by rw [found]; rfl)
  have pos := length_pos_of_mem mem
  rw [keys_insert,length_cons,length_erase_of_mem mem]
  omega

lemma length_erase_le (table : AList fun _ : String => β) (key : String) :
    (table.erase key).keys.length ≤ table.keys.length := by
  rw [keys_erase]
  exact List.length_erase_le

def dropUntil (limit : Nat) (chance : Chance) : Nat → (AList fun _ : String => β) → AList fun _ : String => β
  | 0, table => table
  | fuel + 1, table =>
    if table.keys.length < limit then table
    else match chance.pick table.keys with
      | none => table
      | some key => dropUntil limit chance fuel (table.erase key)

variable {keys : List String}

lemma pick_mem {chance : Chance} (picked : chance.pick keys = some key) : key ∈ keys :=
  mem_of_getElem? picked

lemma pick_isSome (chance : Chance) (filled : keys ≠ []) : (chance.pick keys).isSome := by
  have pos := length_pos_iff.mpr filled
  have inside := Nat.mod_lt (chance.victim keys) pos
  rw [Chance.pick,getElem?_eq_getElem inside]
  rfl

lemma dropUntil_below {limit fuel : Nat} (pos : 0 < limit) (chance : Chance)
    (table : AList fun _ : String => β) (enough : table.keys.length ≤ fuel) :
    (dropUntil limit chance fuel table).keys.length < limit := by
  induction fuel generalizing table with
  | zero =>
    rw [dropUntil]
    omega
  | succ fuel ih =>
    rw [dropUntil]
    split
    · assumption
    rename_i full
    have filled : table.keys ≠ [] := by
      intro empty
      rw [empty,length_nil] at full
      omega
    obtain ⟨key,picked⟩ := Option.isSome_iff_exists.mp (pick_isSome chance filled)
    have fewer : (table.erase key).keys.length = table.keys.length - 1 := by
      rw [keys_erase,length_erase_of_mem (pick_mem picked)]
    simp only [picked]
    exact ih (table.erase key) (by omega)

lemma lookup_of_erase {gone : String} (found : (table.erase gone).lookup key = some value) : table.lookup key = some value := by
  by_cases same : key = gone
  · subst same
    simp at found
  · rwa [lookup_erase_ne same] at found

lemma lookup_of_sweep (drops : String → Bool) (keys : List String)
    (found : (keys.foldl (fun out key => if drops key then out.erase key else out) table).lookup key = some value) :
    table.lookup key = some value := by
  induction keys generalizing table with
  | nil => exact found
  | cons first keys ih =>
    rw [foldl_cons] at found
    split at found
    · exact lookup_of_erase (ih found)
    · exact ih found

lemma lookup_of_dropUntil (limit : Nat) (chance : Chance) (fuel : Nat)
    (found : (dropUntil limit chance fuel table).lookup key = some value) : table.lookup key = some value := by
  induction fuel generalizing table with
  | zero => exact found
  | succ fuel ih =>
    rw [dropUntil] at found
    split at found
    · exact found
    split at found
    · exact found
    · exact lookup_of_erase (ih found)

end

section
variable (limits : EngineLimits) (chance : Chance)

lemma evictCorrelateLoop_eq (limit fuel : Nat) (groups : CorrelateGroups) :
    evictCorrelateLoop limit chance fuel groups = dropUntil limit chance fuel groups := by
  induction fuel generalizing groups with
  | zero => rfl
  | succ fuel ih =>
    rw [evictCorrelateLoop,dropUntil]
    split
    · rfl
    cases chance.pick _ with
    | none => rfl
    | some key => exact ih _

lemma evictSuppressionLoop_eq (table : AList fun _ : String => Int) :
    evictSuppressionLoop chance fuel table = dropUntil maxSuppressionKeys chance fuel table := by
  induction fuel generalizing table with
  | zero => rfl
  | succ fuel ih =>
    rw [evictSuppressionLoop,dropUntil]
    split
    · rfl
    cases chance.pick _ with
    | none => rfl
    | some key => exact ih _

lemma evictLoop_groups {limit : Nat} {ruleID : String} {s : SequenceState} :
    (evictLoop limit chance ruleID fuel s).groups = dropUntil limit chance fuel s.groups := by
  induction fuel generalizing s with
  | zero => rfl
  | succ fuel ih =>
    rw [evictLoop,dropUntil]
    split
    · rfl
    cases picked : chance.pick s.groups.keys with
    | none => rfl
    | some key =>
      have erased : (s.drop ruleID key).groups = s.groups.erase key := by
        obtain ⟨st,found⟩ := Option.isSome_iff_exists.mp (lookup_isSome.mpr (pick_mem picked))
        simp only [SequenceState.drop,found]
      simp only [ih,erased]

lemma length_drop_le {s : SequenceState} {ruleID key : String} :
    (s.drop ruleID key).groups.keys.length ≤ s.groups.keys.length := by
  rw [SequenceState.drop]
  split
  · exact le_refl _
  · exact length_erase_le ..

lemma length_dropExpired_le (s : SequenceState) (ruleID : String) (now : UInt64) (key : String) :
    (s.dropExpired ruleID now key).groups.keys.length ≤ s.groups.keys.length := by
  rw [SequenceState.dropExpired]
  split
  · exact length_drop_le
  · exact le_refl _

variable {limits} (pos : 0 < limits.maxCEPGroups)
include pos

lemma evictCEPGroups_below (ruleID : String) (now : UInt64) (s : SequenceState) :
    (evictCEPGroups limits chance ruleID now s).groups.keys.length < limits.maxCEPGroups := by
  rw [evictCEPGroups]
  split
  · assumption
  · rw [evictLoop_groups]
    exact dropUntil_below pos chance _ (le_refl _)

lemma evictCorrelateGroups_below {now : UInt64} {groups : CorrelateGroups} :
    (evictCorrelateGroups limits chance now groups).keys.length < limits.maxCEPGroups := by
  rw [evictCorrelateGroups]
  split
  · assumption
  · rw [evictCorrelateLoop_eq]
    exact dropUntil_below pos chance _ (le_refl _)

end

section
variable (go : Stdlib) {limits : EngineLimits} (chance : Chance) (view : EventView)
variable {key : String} {seq : CompiledSequence} {st : GroupState}

lemma countStep_length {ruleID : String} {s : SequenceState} (found : s.groups.lookup key = some st) :
    (countStep go limits view ruleID key seq s st).1.groups.keys.length ≤ s.groups.keys.length := by
  apply countStep_cases (P := fun after _ => after.1.groups.keys.length ≤ s.groups.keys.length)
  · exact le_refl _
  · exact fun _ => length_erase_le ..
  · exact fun _ => (length_insert_of_lookup found).le

lemma advanceGroup_length {ruleID : String} {s : SequenceState} (found : s.groups.lookup key = some st) :
    (advanceGroup go limits view ruleID key seq s st).1.groups.keys.length ≤ s.groups.keys.length := by
  rw [advanceGroup]
  split
  · calc _ ≤ (s.startOver ruleID key st).groups.keys.length := countStep_length go view (lookup_insert _)
      _ = s.groups.keys.length := length_insert_of_lookup found
  · exact countStep_length go view found

lemma offerCandidate_length (pos : 0 < limits.maxCEPGroups) (c : SequenceCandidate) {s : SequenceState}
    (bound : s.groups.keys.length ≤ limits.maxCEPGroups) :
    (offerCandidate go limits chance view c s).1.groups.keys.length ≤ limits.maxCEPGroups := by
  have cleared := (length_dropExpired_le s c.rule.rule.spec.ruleID view.eventTime
    (compiledSequenceGroupKey view c.rule.sequence.by_)).trans bound
  simp only [offerCandidate]
  generalize s.dropExpired c.rule.rule.spec.ruleID view.eventTime
    (compiledSequenceGroupKey view c.rule.sequence.by_) = cleaned at cleared
  split
  · exact cleared
  · rename_i st found _
    split
    · exact (advanceGroup_length go view found).trans cleared
    · exact cleared
  · rename_i st found _
    split
    · exact (advanceGroup_length go view found).trans cleared
    split
    · calc _ ≤ (cleaned.startOver _ _ st).groups.keys.length := advanceGroup_length go view (lookup_insert _)
        _ = cleaned.groups.keys.length := length_insert_of_lookup found
        _ ≤ limits.maxCEPGroups := cleared
    · exact cleared
  · have room := evictCEPGroups_below chance pos c.rule.rule.spec.ruleID view.eventTime cleaned
    apply (advanceGroup_length go view (lookup_insert _)).trans
    exact (length_insert_le _ _).trans room

lemma length_boundRefs_le (limit : Nat) (refs : List String) : (boundRefs limit refs).length ≤ limit := by
  rw [boundRefs,length_drop]
  omega

lemma length_appendUnique_le (items : List String) (item : String) : (appendUnique items item).length ≤ items.length + 1 := by
  rw [appendUnique]
  split <;> simp

lemma length_appendRefs_le (start refs : List String) : (appendRefs start refs).length ≤ start.length + refs.length := by
  induction refs generalizing start with
  | nil => exact le_refl _
  | cons ref refs ih =>
    have head := length_appendUnique_le start ref
    have tail := ih (appendUnique start ref)
    rw [length_cons]
    rw [appendRefs] at tail ⊢
    rw [foldl_cons]
    omega

lemma refs_kept (limits : EngineLimits) (seq : CompiledSequence) :
    KeptBy go limits seq view (fun _ => True) fun done => done.1.length ≤ limits.maxCEPRefs where
  fresh := trivial
  startOver _ _ := trivial
  advance _ _ _ _ _ _ _ := trivial
  complete st step _ _ _ _ _ := by
    have kept := length_appendRefs_le [] (st.counted go limits view seq step).refs
    have counted := length_boundRefs_le limits.maxCEPRefs (appendUnique st.refs view.eventID)
    rw [length_nil,Nat.zero_add] at kept
    exact kept.trans counted

lemma offerCandidate_refs (limits : EngineLimits) (c : SequenceCandidate) (s : SequenceState) :
    ∀ done ∈ (offerCandidate go limits chance view c s).2, done.1.length ≤ limits.maxCEPRefs := by
  rw [(offerCandidate_follows go limits chance view c s).done]
  exact ((refs_kept go view limits c.rule.sequence).offer rfl fun _ _ => trivial).2

end

structure Bounded (e : Engine) (s : EngineState) : Prop where
  sequence : ∀ ruleID groups, s.cep.lookup ruleID = some groups → groups.keys.length ≤ e.limits.maxCEPGroups
  correlate : ∀ ruleID groups, s.correlate.lookup ruleID = some groups → groups.keys.length ≤ e.limits.maxCEPGroups
  suppression : s.suppression.keys.length ≤ maxSuppressionKeys

structure Keeps (e : Engine) (after : EngineState × Option Signal) : Prop where
  bounded : Bounded e after.1
  refs : ∀ sig ∈ after.2, sig.eventRefs.length ≤ e.limits.maxCEPRefs

section
variable {go : Stdlib} {e : Engine} {chance : Chance} {view : EventView} {s : EngineState}

lemma bounded_initial {e : Engine} : Bounded e {} := ⟨nofun,nofun,Nat.zero_le _⟩

lemma Bounded.quiet (bounded : Bounded e s) : Keeps e (s,none) :=
  ⟨bounded,fun _ raised => absurd raised (Option.not_mem_none _)⟩

lemma Bounded.groupsOf (bounded : Bounded e s) (ruleID : String) : (s.groupsOf ruleID).keys.length ≤ e.limits.maxCEPGroups := by
  rw [EngineState.groupsOf]
  cases found : s.cep.lookup ruleID with
  | none => exact Nat.zero_le _
  | some groups => exact bounded.sequence ruleID groups found

lemma Bounded.storeSequence (bounded : Bounded e s) {ruleID : String} {groups : Groups} {active : Waits}
    (length : groups.keys.length ≤ e.limits.maxCEPGroups) :
    Bounded e { s with cep := s.cep.insert ruleID groups, cepActive := active } := by
  refine ⟨?_,bounded.correlate,bounded.suppression⟩
  intro other found here
  rcases AssocCount.lookup_insert_cases here with ⟨-,rfl⟩ | old
  · exact length
  · exact bounded.sequence other found old

lemma Bounded.storeCorrelate (bounded : Bounded e s) {ruleID : String} {groups : CorrelateGroups}
    (length : groups.keys.length ≤ e.limits.maxCEPGroups) :
    Bounded e { s with correlate := s.correlate.insert ruleID groups } := by
  refine ⟨bounded.sequence,?_,bounded.suppression⟩
  intro other found here
  rcases AssocCount.lookup_insert_cases here with ⟨-,rfl⟩ | old
  · exact length
  · exact bounded.correlate other found old

section
variable (bounded : Bounded e s)
include bounded

lemma Bounded.signal (pos : 0 < e.limits.maxCEPRefs) (ev : CanonicalEvent)
    (rule : EffectiveRule) {refs : List String} (terminal : Bool) (entities : List EntityRef)
    (length : refs.length ≤ e.limits.maxCEPRefs) : Keeps e ((signal go e chance s ev rule refs terminal entities).1,
      some (signal go e chance s ev rule refs terminal entities).2) := by
  refine ⟨⟨bounded.sequence,bounded.correlate,bounded.suppression⟩,?_⟩
  rintro _ ⟨⟩
  have kept := length_appendRefs_le [] refs
  have named : (Detection.signal go e chance s ev rule refs terminal entities).2.eventRefs =
      if appendRefs [] refs = [] then [ev.id] else appendRefs [] refs := rfl
  rw [named]
  split
  · exact pos
  · rw [length_nil,Nat.zero_add] at kept
    exact kept.trans length

lemma Bounded.suppressSignal (key : String) (now window : Int) : Bounded e (suppressSignal chance s key now window).1 := by
  rw [Detection.suppressSignal]
  split
  · exact bounded
  split
  · exact bounded
  · refine ⟨bounded.sequence,bounded.correlate,?_⟩
    have room := dropUntil_below (by decide : 0 < maxSuppressionKeys) chance (evictSuppressions now s.suppression)
      (le_refl _)
    rw [← evictSuppressionLoop_eq] at room
    exact (length_insert_le _ (now + window)).trans room

lemma Bounded.suppressCompiledRule (rule : CompiledExprRule) : Bounded e (suppressCompiledRule chance s view rule).1 := by
  rw [Detection.suppressCompiledRule]
  split
  · exact bounded
  · exact bounded.suppressSignal ..

lemma Bounded.detectExprRule (pos : 0 < e.limits.maxCEPRefs)
    (rule : CompiledExprRule) : Keeps e (detectExprRule go e chance view s rule) := by
  have after : Bounded e (Detection.suppressCompiledRule chance s view rule).1 := bounded.suppressCompiledRule rule
  rw [Detection.detectExprRule]
  split
  · split
    · rename_i state suppressed
      rw [suppressed] at after
      exact after.quiet
    · rename_i state passed
      rw [passed] at after
      exact after.signal pos view.ev rule.rule _ _ pos
  · exact bounded.quiet

lemma Bounded.detectSequenceCandidate (groups : 0 < e.limits.maxCEPGroups)
    (pos : 0 < e.limits.maxCEPRefs) (c : SequenceCandidate) : Keeps e (detectSequenceCandidate go e chance view s c) := by
  have length := offerCandidate_length go chance view groups c
    (s := ⟨s.groupsOf c.rule.rule.spec.ruleID,s.cepActive⟩) (bounded.groupsOf _)
  have refs := offerCandidate_refs go chance view e.limits c ⟨s.groupsOf c.rule.rule.spec.ruleID,s.cepActive⟩
  simp only [Detection.detectSequenceCandidate]
  split
  · generalize offerCandidate go e.limits chance view c
      ⟨s.groupsOf c.rule.rule.spec.ruleID,s.cepActive⟩ = offered at length refs
    obtain ⟨after,_ | ⟨found,entities⟩⟩ := offered
    · exact (bounded.storeSequence length).quiet
    · exact (bounded.storeSequence length).signal pos view.ev c.rule.rule _ entities (refs _ rfl)
  · exact bounded.quiet

lemma Bounded.recordFacts (pos : 0 < e.limits.maxCEPRefs)
    (rule : CompiledCorrelateRule) (matched : List CompiledFact) {groups : CorrelateGroups} (group : CorrelateGroup)
    (room : ∀ value, (groups.insert (compiledSequenceGroupKey view rule.by_) value).keys.length ≤ e.limits.maxCEPGroups) :
    Keeps e (recordFacts go e chance view s rule matched groups group) := by
  have erased : (groups.erase (compiledSequenceGroupKey view rule.by_)).keys.length ≤ e.limits.maxCEPGroups := by
    have inserted := room group
    rw [keys_insert,length_cons,← keys_erase] at inserted
    omega
  rw [Detection.recordFacts]
  simp only []
  split
  · exact (bounded.storeCorrelate (room _)).quiet
  · exact (bounded.storeCorrelate erased).signal pos view.ev rule.rule _ _ (length_boundRefs_le _ _)

lemma Bounded.detectCorrelateRule (groups : 0 < e.limits.maxCEPGroups)
    (pos : 0 < e.limits.maxCEPRefs) (rule : CompiledCorrelateRule) :
    Keeps e (detectCorrelateRule go e chance view s rule) := by
  have stored : ((s.correlate.lookup rule.rule.spec.ruleID).getD ∅).keys.length ≤ e.limits.maxCEPGroups := by
    cases found : s.correlate.lookup rule.rule.spec.ruleID with
    | none => exact Nat.zero_le _
    | some groups => exact bounded.correlate _ groups found
  simp only [Detection.detectCorrelateRule]
  generalize (s.correlate.lookup rule.rule.spec.ruleID).getD ∅ = table at stored
  have cleared : (if (table.lookup (compiledSequenceGroupKey view rule.by_)).any (·.expired view.eventTime) then
      table.erase (compiledSequenceGroupKey view rule.by_) else table).keys.length ≤ e.limits.maxCEPGroups := by
    split
    · exact (length_erase_le ..).trans stored
    · exact stored
  generalize (if (table.lookup (compiledSequenceGroupKey view rule.by_)).any (·.expired view.eventTime) then
    table.erase (compiledSequenceGroupKey view rule.by_) else table) = live at cleared
  split
  · exact (bounded.storeCorrelate cleared).quiet
  · rename_i group found _
    exact bounded.recordFacts pos rule _ group fun _ => (length_insert_of_lookup found).trans_le cleared
  · refine bounded.recordFacts pos rule _ _ fun _ => (length_insert_le ..).trans ?_
    exact evictCorrelateGroups_below chance groups

end

variable (go chance) (groups : 0 < e.limits.maxCEPGroups) (pos : 0 < e.limits.maxCEPRefs)
include groups pos

lemma Bounded.process (bounded : Bounded e s) (ev : CanonicalEvent) : Bounded e (process go e chance s ev).1 ∧
      ∀ sig ∈ (process go e chance s ev).2, sig.eventRefs.length ≤ e.limits.maxCEPRefs := by
  have pair {after : EngineState × Option Signal} (keeps : Keeps e after) : Bounded e after.1 ∧
      ∀ sig ∈ after.2, sig.eventRefs.length ≤ e.limits.maxCEPRefs := ⟨keeps.bounded,keeps.refs⟩
  exact process_holds (fun rule _ s kept => pair (kept.detectExprRule pos rule))
    (fun c _ s kept => pair (kept.detectSequenceCandidate groups pos c))
    (fun rule _ s kept => pair (kept.detectCorrelateRule groups pos rule)) bounded

lemma Bounded.processAll (bounded : Bounded e s) (turns : List Turn) :
    Bounded e (processAll go e turns s).1 ∧ ∀ signals ∈ (processAll go e turns s).2, ∀ sig ∈ signals,
      sig.eventRefs.length ≤ e.limits.maxCEPRefs := by
  induction turns generalizing s with
  | nil => exact ⟨bounded,nofun⟩
  | cons turn turns ih =>
    obtain ⟨next,refs⟩ := bounded.process go turn.chance groups pos turn.event
    obtain ⟨after,others⟩ := ih next
    refine ⟨after,?_⟩
    intro signals raised
    rcases mem_cons.mp raised with rfl | later
    · exact refs
    · exact others signals later

end

/-- Bounds on the state and the signals of an engine with configured limits of at least one: after
each event every rule has at most as many groups as configured and the suppression table has at
most its maximum of keys, and no signal refers to more events than configured. -/
theorem detection_state_bounded {go : Stdlib} {strategy : Strategy} {policy : Option DetectionPolicy}
    {content : ContentSnapshot} {limits : EngineLimits} {e : Engine}
    (accepted : newWithRuntimeLimits go strategy policy content limits = .ok e)
    (groups : 1 ≤ limits.maxCEPGroups) (refs : 1 ≤ limits.maxCEPRefs) (turns : List Turn) :
    (∀ count, let s := (processAll go e (turns.take count) {}).1
      (∀ ruleID table, s.cep.lookup ruleID = some table → table.keys.length ≤ limits.maxCEPGroups) ∧
      (∀ ruleID table, s.correlate.lookup ruleID = some table → table.keys.length ≤ limits.maxCEPGroups) ∧
      s.suppression.keys.length ≤ maxSuppressionKeys) ∧
    ∀ signals ∈ (processAll go e turns {}).2, ∀ sig ∈ signals, sig.eventRefs.length ≤ limits.maxCEPRefs := by
  have configured : e.limits = limits := by
    obtain ⟨-,rfl⟩ := accepted_iff.mp accepted
    have some : limits.maxCEPGroups ≠ 0 := by omega
    have kept : limits.maxCEPRefs ≠ 0 := by omega
    simp only [compileEngine,normalizeLimits,some,kept,if_false]
  subst configured
  constructor
  · intro count s
    obtain ⟨bounded,-⟩ := (bounded_initial).processAll go groups refs (turns.take count)
    exact ⟨bounded.sequence,bounded.correlate,bounded.suppression⟩
  · exact ((bounded_initial).processAll go groups refs turns).2

def smallEngine : Engine :=
  compileEngine asciiStdlib .linear
    (resolveRules (policyInForce basePolicy) (stepsContent "process.exec" "network.connect")) {} ⟨1,1⟩

def crowdedRun : List Turn := lineageEvent "0" "process.exec" "h" :: startAndConnect

/-- With room for one group the second one takes the place of the first. -/
theorem smallEngine_bounded :
    ((processAll asciiStdlib smallEngine (crowdedRun.take 2) {}).1.groupsOf "steps").keys = ["lineage_id=g"] ∧
    (∀ count, let s := (processAll asciiStdlib smallEngine (crowdedRun.take count) {}).1
      (∀ ruleID table, s.cep.lookup ruleID = some table → table.keys.length ≤ 1) ∧
      (∀ ruleID table, s.correlate.lookup ruleID = some table → table.keys.length ≤ 1) ∧
      s.suppression.keys.length ≤ maxSuppressionKeys) ∧
    ∀ signals ∈ (processAll asciiStdlib smallEngine crowdedRun {}).2, ∀ sig ∈ signals, sig.eventRefs.length ≤ 1 := by
  have accepted : newWithRuntimeLimits asciiStdlib .linear basePolicy
      (stepsContent "process.exec" "network.connect") ⟨1,1⟩ = .ok smallEngine :=
    accepted_iff.mpr ⟨by decide +kernel,rfl⟩
  exact ⟨by decide +kernel,detection_state_bounded accepted (le_refl 1) (le_refl 1) crowdedRun⟩

end SysArmor.Detection
