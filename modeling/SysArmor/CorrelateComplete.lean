import SysArmor.DetectionBounds

/-! One correlate rule: what an event does to its own group, and the events that the facts of a
group stand for. -/
namespace SysArmor.Detection
open GoText Proto List

def EngineState.correlatedOf (s : EngineState) (ruleID : String) : CorrelateGroups :=
  (s.correlate.lookup ruleID).getD ∅

def CompiledFact.hit (go : Stdlib) (fact : CompiledFact) (view : EventView) : Bool :=
  fact.behaviors.contains view.behavior && matchCompiledConditions go view fact.conditions none &&
    matchCompiledConditionNode go view fact.conditionGroup none

def factMatch (go : Stdlib) (view : EventView) : FactMatch := ⟨view.eventID,eventEntities go view.ev⟩

def CorrelateGroup.taking (go : Stdlib) (view : EventView) (facts : List CompiledFact) (group : CorrelateGroup) :
    CorrelateGroup where
  expiresAt := group.expiresAt
  facts := (matchCorrelateFacts go view facts).foldl (fun out fact => out.insert fact.id (factMatch go view)) group.facts

section
variable (go : Stdlib) (e : Engine) (chance : Chance) (view : EventView) (rule : CompiledCorrelateRule)

def correlateGroup (prior : Option CorrelateGroup) : Option CorrelateGroup × Option Completion :=
  let live := prior.filter (!·.expired view.eventTime)
  if (matchCorrelateFacts go view rule.facts).isEmpty then (live,none)
  else
    let group := (live.getD { expiresAt := view.eventTime + UInt64.ofInt rule.within }).taking go view rule.facts
    if group.facts.keys.length < rule.facts.length then (some group,none)
    else (none,some (correlateEvidence e group rule.facts))

variable {group : CorrelateGroup} {groups : CorrelateGroups} {key : String}

lemma lookup_of_evicted (now : UInt64) (found : (evictCorrelateGroups e.limits chance now groups).lookup key = some group) :
    groups.lookup key = some group := by
  rw [evictCorrelateGroups] at found
  split at found
  · exact found
  · rw [evictCorrelateLoop_eq] at found
    exact lookup_of_sweep _ _ (lookup_of_dropUntil _ chance _ found)

/-- A step of a correlate rule whose effect on the event's group is `result`; other groups may be gone. -/
structure Correlated (key : String) (before : EngineState) (after : EngineState × Option Signal)
    (result : Option CorrelateGroup × Option Completion) : Prop where
  group : (after.1.correlatedOf rule.rule.spec.ruleID).lookup key = result.1
  others : ∀ other group, other ≠ key → (after.1.correlatedOf rule.rule.spec.ruleID).lookup other = some group →
    (before.correlatedOf rule.rule.spec.ruleID).lookup other = some group
  raised : after.2.toList.map (fun sig => (sig.ruleId,sig.eventRefs,sig.entities)) =
    result.2.toList.map fun done => (rule.rule.spec.ruleID,reportedRefs view.ev done,done.2)

lemma recordFacts_correlated (s : EngineState) (group : CorrelateGroup)
    (kept : ∀ other found, groups.lookup other = some found → (s.correlatedOf rule.rule.spec.ruleID).lookup other = some found) :
    Correlated view rule (compiledSequenceGroupKey view rule.by_) s
      (recordFacts go e chance view s rule (matchCorrelateFacts go view rule.facts) groups group)
      (let group := group.taking go view rule.facts
        if group.facts.keys.length < rule.facts.length then (some group,none)
        else (none,some (correlateEvidence e group rule.facts))) := by
  by_cases few : (group.taking go view rule.facts).facts.keys.length < rule.facts.length
  · simp only [recordFacts]
    rw [if_pos few,if_pos (by exact few)]
    refine ⟨by simp [EngineState.correlatedOf]; rfl,fun other found ne there => kept other found ?_,rfl⟩
    simpa [EngineState.correlatedOf,AList.lookup_insert_ne ne] using there
  · simp only [recordFacts]
    rw [if_neg few,if_neg (by exact few)]
    refine ⟨by simp [EngineState.correlatedOf,signal],fun other found ne there => kept other found ?_,rfl⟩
    simpa [EngineState.correlatedOf,signal,AList.lookup_erase_ne ne] using there

def withoutExpired (now : UInt64) (key : String) (groups : CorrelateGroups) : CorrelateGroups :=
  if (groups.lookup key).any (·.expired now) then groups.erase key else groups

lemma lookup_withoutExpired (now : UInt64) (key : String) (groups : CorrelateGroups) :
    (withoutExpired now key groups).lookup key = (groups.lookup key).filter (!·.expired now) := by
  cases found : groups.lookup key with
  | none => simp [withoutExpired,found]
  | some group => cases lapsed : group.expired now <;> simp [withoutExpired,found,lapsed,Option.filter]

lemma lookup_of_withoutExpired {now : UInt64} {other : String}
    (found : (withoutExpired now key groups).lookup other = some group) : groups.lookup other = some group := by
  rw [withoutExpired] at found
  split at found
  · exact lookup_of_erase found
  · exact found

lemma detectCorrelateRule_eq (s : EngineState) : detectCorrelateRule go e chance view s rule =
    let groups := withoutExpired view.eventTime (compiledSequenceGroupKey view rule.by_)
      (s.correlatedOf rule.rule.spec.ruleID)
    match matchCorrelateFacts go view rule.facts,groups.lookup (compiledSequenceGroupKey view rule.by_) with
    | [],_ => ({ s with correlate := s.correlate.insert rule.rule.spec.ruleID groups },none)
    | matched,some group => recordFacts go e chance view s rule matched groups group
    | matched,none => recordFacts go e chance view s rule matched
        (evictCorrelateGroups e.limits chance view.eventTime groups)
        { expiresAt := view.eventTime + UInt64.ofInt rule.within } := rfl

lemma detectCorrelateRule_correlated (s : EngineState) :
    Correlated view rule (compiledSequenceGroupKey view rule.by_) s (detectCorrelateRule go e chance view s rule)
      (correlateGroup go e view rule
        ((s.correlatedOf rule.rule.spec.ruleID).lookup (compiledSequenceGroupKey view rule.by_))) := by
  have kept : ∀ other group, (withoutExpired view.eventTime (compiledSequenceGroupKey view rule.by_)
      (s.correlatedOf rule.rule.spec.ruleID)).lookup other = some group →
        (s.correlatedOf rule.rule.spec.ruleID).lookup other = some group := fun _ _ => lookup_of_withoutExpired
  rw [detectCorrelateRule_eq,correlateGroup,← lookup_withoutExpired]
  generalize withoutExpired view.eventTime (compiledSequenceGroupKey view rule.by_)
    (s.correlatedOf rule.rule.spec.ruleID) = groups at kept ⊢
  cases matched : matchCorrelateFacts go view rule.facts with
  | nil =>
    refine ⟨by simp [EngineState.correlatedOf],fun other group _ found => kept other group ?_,rfl⟩
    simpa [EngineState.correlatedOf] using found
  | cons first rest =>
    cases found : groups.lookup (compiledSequenceGroupKey view rule.by_) with
    | some group =>
      have step := recordFacts_correlated go e chance view rule s group kept
      rw [matched] at step
      simp only [found]
      exact step
    | none =>
      have step := recordFacts_correlated go e chance view rule s { expiresAt := view.eventTime + UInt64.ofInt rule.within }
        fun other group there => kept other group (lookup_of_evicted e chance view.eventTime there)
      rw [matched] at step
      simp only [found]
      exact step

end

section
variable {go : Stdlib} {e : Engine} {chance : Chance} {view : EventView} {s : EngineState}

lemma detectExprRule_correlate (rule : CompiledExprRule) :
    (detectExprRule go e chance view s rule).1.correlate = s.correlate := by
  have suppressed : (suppressCompiledRule chance s view rule).1.correlate = s.correlate := by
    simp only [suppressCompiledRule,suppressSignal]
    repeat' split
    all_goals rfl
  rw [detectExprRule]
  split
  · split
    · rename_i after found
      rwa [found] at suppressed
    · rename_i after found
      rwa [found] at suppressed
  · rfl

lemma detectSequenceCandidate_correlate (c : SequenceCandidate) :
    (detectSequenceCandidate go e chance view s c).1.correlate = s.correlate := by
  simp only [detectSequenceCandidate]
  repeat' split
  all_goals rfl

lemma detectCorrelateRule_other {rule : CompiledCorrelateRule} {ruleID : String} (ne : rule.rule.spec.ruleID ≠ ruleID) :
    (detectCorrelateRule go e chance view s rule).1.correlatedOf ruleID = s.correlatedOf ruleID := by
  simp only [detectCorrelateRule,recordFacts,EngineState.correlatedOf]
  repeat' split
  all_goals simp [signal,AList.lookup_insert_ne ne.symm]

lemma process_correlated (rule : CompiledCorrelateRule)
    (exprs : ∀ other ∈ e.compiled, other.rule.spec.ruleID ≠ rule.rule.spec.ruleID)
    (sequences : ∀ c ∈ e.sequence, c.rule.rule.spec.ruleID ≠ rule.rule.spec.ruleID)
    (only : ∀ other ∈ e.correlation, other.rule.spec.ruleID = rule.rule.spec.ruleID → other = rule) {ev : CanonicalEvent}
    {P : CorrelateGroup → Prop} {Q : Completion → Prop} (kept : ∀ prior, (∀ group ∈ prior, P group) →
      (∀ group ∈ (correlateGroup go e (newEventView go ev) rule prior).1, P group) ∧
        ∀ done ∈ (correlateGroup go e (newEventView go ev) rule prior).2, Q done)
    (holds : ∀ key group, (s.correlatedOf rule.rule.spec.ruleID).lookup key = some group → P group) :
    (∀ key group, ((process go e chance s ev).1.correlatedOf rule.rule.spec.ruleID).lookup key = some group → P group) ∧
      ∀ sig ∈ (process go e chance s ev).2, sig.ruleId = rule.rule.spec.ruleID →
        ∃ done, Q done ∧ sig.eventRefs = reportedRefs ev done := by
  refine process_holds (I := fun s => ∀ key group, (s.correlatedOf rule.rule.spec.ruleID).lookup key = some group → P group)
    (fun other mem s holds => ⟨?_,?_⟩) (fun c mem s holds => ⟨?_,?_⟩) (fun other mem s holds => ?_) holds
  · rw [EngineState.correlatedOf,detectExprRule_correlate]
    exact holds
  · exact fun sig raised mine => absurd mine ((detectExprRule_apart (exprs other mem)).silent sig raised)
  · rw [EngineState.correlatedOf,detectSequenceCandidate_correlate]
    exact holds
  · exact fun sig raised mine => absurd mine ((detectSequenceCandidate_other _ _ _ _ _ (sequences c mem)).2 sig raised)
  by_cases mine : other.rule.spec.ruleID = rule.rule.spec.ruleID
  · obtain rfl := only other mem mine
    have step := detectCorrelateRule_correlated go e chance (newEventView go ev) other s
    obtain ⟨groups,reports⟩ := kept _ fun group found => holds _ group found
    refine ⟨fun key group found => ?_,fun sig raised _ => ?_⟩
    · by_cases own : key = compiledSequenceGroupKey (newEventView go ev) other.by_
      · subst own
        exact groups group (step.group ▸ found)
      · exact holds key group (step.others key group own found)
    · have listed := mem_map_of_mem (f := fun sig : Signal => (sig.ruleId,sig.eventRefs,sig.entities))
        (Option.mem_toList.mpr raised)
      rw [step.raised,newEventView_ev] at listed
      obtain ⟨done,there,same⟩ := mem_map.mp listed
      simp only [Prod.mk.injEq] at same
      exact ⟨done,reports done (Option.mem_toList.mp there),same.2.1.symm⟩
  · rw [detectCorrelateRule_other mine]
    exact ⟨holds,fun sig raised own => absurd own ((detectCorrelateRule_apart mine).silent sig raised)⟩

end

def latestHit (go : Stdlib) (views : List EventView) (fact : CompiledFact) : Option EventView :=
  views.reverse.find? (fact.hit go)

lemma latestHit_isSome {go : Stdlib} {views : List EventView} {fact : CompiledFact} :
    (latestHit go views fact).isSome ↔ ∃ view ∈ views, fact.hit go view = true := by
  simp [latestHit]

structure Gathered (go : Stdlib) (facts : List CompiledFact) (views : List EventView) (group : CorrelateGroup) : Prop where
  latest : ∀ fact ∈ facts, group.facts.lookup fact.id = (latestHit go views fact).map (factMatch go)
  known : ∀ id ∈ group.facts.keys, id ∈ facts.map (·.id)

section
variable {go : Stdlib} {facts : List CompiledFact} {views : List EventView} {group : CorrelateGroup}

lemma gathered_none (expiresAt : UInt64) : Gathered go facts [] { expiresAt } := ⟨fun _ _ => rfl,nofun⟩

lemma lookup_insertAll (matched : List CompiledFact) (found : FactMatch) (table : AList fun _ : String => FactMatch)
    (id : String) : (matched.foldl (fun out fact => out.insert fact.id found) table).lookup id =
      if id ∈ matched.map (·.id) then some found else table.lookup id := by
  induction matched generalizing table with
  | nil => rfl
  | cons fact matched ih =>
    rw [foldl_cons,ih]
    by_cases same : id = fact.id
    · subst same
      simp
    · simp [same,AList.lookup_insert_ne same]

variable (nodup : (facts.map (·.id)).Nodup)
include nodup

lemma Gathered.taking (gathered : Gathered go facts views group) (view : EventView) :
    Gathered go facts (views ++ [view]) (group.taking go view facts) := by
  have recorded (id : String) : (group.taking go view facts).facts.lookup id =
      if id ∈ (matchCorrelateFacts go view facts).map (·.id) then some (factMatch go view) else group.facts.lookup id :=
    lookup_insertAll ..
  constructor
  · intro fact mem
    have own : fact.id ∈ (matchCorrelateFacts go view facts).map (·.id) ↔ fact.hit go view = true := by
      constructor
      · intro listed
        obtain ⟨other,among,same⟩ := mem_map.mp listed
        obtain ⟨there,hit⟩ := mem_filter.mp among
        exact inj_on_of_nodup_map nodup there mem same ▸ hit
      · exact fun hit => mem_map_of_mem (mem_filter.mpr ⟨mem,hit⟩)
    rw [recorded,gathered.latest fact mem,latestHit,latestHit,reverse_append,reverse_singleton,
      singleton_append,find?_cons]
    cases hit : fact.hit go view <;> simp [own,hit]
  · intro id mem
    have found := recorded id
    split at found
    · rename_i listed
      exact map_subset _ (filter_subset_self _) listed
    · exact gathered.known id (AList.lookup_isSome.mp (found ▸ AList.lookup_isSome.mpr mem))

lemma Gathered.complete_iff (gathered : Gathered go facts views group) :
    facts.length ≤ group.facts.keys.length ↔ ∀ fact ∈ facts, ∃ view ∈ views, fact.hit go view = true := by
  have present (fact : CompiledFact) (mem : fact ∈ facts) :
      fact.id ∈ group.facts.keys ↔ ∃ view ∈ views, fact.hit go view = true := by
    rw [← AList.mem_keys,← AList.lookup_isSome,gathered.latest fact mem,Option.isSome_map,latestHit_isSome]
  constructor
  · intro enough fact mem
    have perm := (subperm_of_subset group.facts.keys_nodup gathered.known).perm_of_length_le (by simpa using enough)
    exact (present fact mem).mp (perm.mem_iff.mpr (mem_map_of_mem mem))
  · intro every
    have subset : facts.map (·.id) ⊆ group.facts.keys := by
      intro id listed
      obtain ⟨fact,mem,rfl⟩ := mem_map.mp listed
      exact (present fact mem).mpr (every fact mem)
    simpa using (subperm_of_subset nodup subset).length_le

omit nodup in
lemma map_getD_eq_filterMap {f : α → Option β} {items : List α} (every : ∀ item ∈ items, (f item).isSome) (other : β) :
    items.map (fun item => (f item).getD other) = items.filterMap f := by
  induction items with
  | nil => rfl
  | cons item items ih =>
    obtain ⟨value,found⟩ := Option.isSome_iff_exists.mp (every item mem_cons_self)
    rw [map_cons,filterMap_cons_some found,found,ih fun other mem => every other (mem_cons_of_mem _ mem)]
    rfl

end

def factEvidence (go : Stdlib) (limits : EngineLimits) (events : List EventView) : Completion :=
  (boundRefs limits.maxCEPRefs (appendRefs [] (events.map (·.eventID))),
    events.foldl (fun out view => appendUniqueEntities out (eventEntities go view.ev)) [])

lemma Gathered.evidence (gathered : Gathered go facts views group) (e : Engine)
    (every : ∀ fact ∈ facts, ∃ view ∈ views, fact.hit go view = true) :
    correlateEvidence e group facts = factEvidence go e.limits (facts.filterMap (latestHit go views)) := by
  have found : facts.map (fun fact => (group.facts.lookup fact.id).getD ⟨"",[]⟩) =
      (facts.filterMap (latestHit go views)).map (factMatch go) := by
    rw [map_filterMap,← map_getD_eq_filterMap ?_ ⟨"",[]⟩]
    · exact map_congr_left fun fact mem => by rw [gathered.latest fact mem]
    exact fun fact mem => Option.isSome_map.trans (latestHit_isSome.mpr (every fact mem))
  simp only [correlateEvidence,found,factEvidence,map_map,foldl_map]
  rfl

/-! Completeness of a correlate rule on the events of one group: as long as the window of the group
is open, the group holds the latest event of every fact, and it is reported once it has them all. -/

section
variable {go : Stdlib} {strategy : Strategy} {policy : Option DetectionPolicy} {content : ContentSnapshot}
  {limits : EngineLimits} {e : Engine} {rule : EffectiveRule}

lemma validateCorrelateFacts_clean {spec : RuleSpec} {seen : List String} {facts : List FactSpec}
    (clean : validateCorrelateFacts go spec seen facts = []) :
    (facts.map fun fact => trimSpace fact.id).Nodup ∧ ∀ fact ∈ facts, trimSpace fact.id ∉ seen := by
  induction facts generalizing seen with
  | nil => exact ⟨nodup_nil,nofun⟩
  | cons fact facts ih =>
    simp only [validateCorrelateFacts,append_eq_nil_iff] at clean
    obtain ⟨distinct,unseen⟩ := ih clean.2
    have fresh : trimSpace fact.id ∉ seen := by
      intro mem
      have named := clean.1.1.1.1.1
      split at named
      · cases named
      · simp [mem] at named
    refine ⟨nodup_cons.mpr ⟨fun mem => ?_,distinct⟩,?_⟩
    · obtain ⟨other,among,same⟩ := mem_map.mp mem
      exact unseen other among (same ▸ mem_cons_self)
    · rintro other (_ | ⟨_,later⟩)
      · exact fresh
      · exact fun mem => unseen other later (mem_cons_of_mem _ mem)

section
variable (ok : newWithRuntimeLimits go strategy policy content limits = .ok e)
include ok

lemma accepted_correlate
    (mem : rule ∈ e.rules) (kind : rule.runtimeType go = "correlate") :
    ((compileCorrelateRule go strategy content.toContentRefs rule).facts.map (·.id)).Nodup ∧
      rule.spec.correlate.facts ≠ [] ∧ 0 < rule.spec.correlate.within := by
  obtain ⟨clean,shape⟩ := accepted_iff.mp ok
  have valid := (selectionErrors_nil clean).2.2 rule (by rwa [shape] at mem)
  simp only [validateRuleSpec,ruleRuntimeType_eq kind (by simp),append_eq_nil_iff,validateCorrelate] at valid
  obtain ⟨-,⟨⟨⟨⟨-,window⟩,-⟩,-⟩,many⟩,facts⟩ := valid
  refine ⟨?_,?_,?_⟩
  · simpa [compileCorrelateRule,compileFact,Function.comp_def] using (validateCorrelateFacts_clean facts).1
  · rintro none
    simp [none] at many
  · by_contra closed
    simp [not_lt.mp closed] at window

lemma accepted_correlation
    (mem : rule ∈ e.rules) (kind : rule.runtimeType go = "correlate") :
    (∀ other ∈ e.compiled, other.rule.spec.ruleID ≠ rule.spec.ruleID) ∧
    (∀ c ∈ e.sequence, c.rule.rule.spec.ruleID ≠ rule.spec.ruleID) ∧
    ∀ other ∈ e.correlation, other.rule.spec.ruleID = rule.spec.ruleID →
      other = compileCorrelateRule go strategy content.toContentRefs rule := by
  have apart {other : EffectiveRule} {runtime : String} (among : other ∈ ofRuntime go runtime e.rules)
      (ne : "correlate" ≠ runtime) : other.spec.ruleID ≠ rule.spec.ruleID :=
    accepted_apart ok mem among (kind ▸ ne)
  have own {other : EffectiveRule} := @accepted_distinct _ _ _ _ _ _ ok other rule
  obtain ⟨-,rfl⟩ := accepted_iff.mp ok
  refine ⟨fun other among => ?_,fun c among => ?_,fun other among same => ?_⟩
  · obtain ⟨given,there,rfl⟩ := mem_map.mp among
    exact apart there (by simp)
  · obtain ⟨compiled,listed,mine⟩ := mem_flatMap.mp among
    obtain ⟨given,there,rfl⟩ := mem_map.mp listed
    rw [candidates_rule mine]
    exact apart there (by simp)
  · obtain ⟨given,there,rfl⟩ := mem_map.mp among
    obtain rfl := own (mem_of_mem_filter there) mem same
    rfl

end

end

section
variable (go : Stdlib) (e : Engine) (rule : CompiledCorrelateRule)

def hitsSome (facts : List CompiledFact) (view : EventView) : Bool := facts.any (·.hit go view)

structure Standing (views : List EventView) (prior : Option CorrelateGroup) : Prop where
  incomplete : ¬∀ fact ∈ rule.facts, ∃ view ∈ views, fact.hit go view = true
  untouched : prior = none → ∀ view ∈ views, hitsSome go rule.facts view = false
  gathered : ∀ group ∈ prior, Gathered go rule.facts views group ∧ ∃ first, views.find? (hitsSome go rule.facts) = some first ∧
    group.expiresAt = first.eventTime + UInt64.ofInt rule.within

end

section
variable {go : Stdlib} {e : Engine} {rule : CompiledCorrelateRule} {views : List EventView} {prior : Option CorrelateGroup}

lemma matchCorrelateFacts_isEmpty (go : Stdlib) (view : EventView) (facts : List CompiledFact) :
    (matchCorrelateFacts go view facts).isEmpty = !hitsSome go facts view := by
  rw [Bool.eq_iff_iff,List.isEmpty_iff]
  simp only [hitsSome,matchCorrelateFacts,filter_eq_nil_iff,Bool.not_eq_true',any_eq_false]
  rfl

variable {facts : List CompiledFact}

lemma hit_of_hitsSome {view : EventView} (missed : hitsSome go facts view = false)
    {fact : CompiledFact} (mem : fact ∈ facts) : fact.hit go view = false := by
  simpa using any_eq_false.mp missed fact mem

lemma gathered_fresh (missed : ∀ view ∈ views, hitsSome go facts view = false)
    (expiresAt : UInt64) : Gathered go facts views { expiresAt } := by
  refine ⟨fun fact mem => ?_,nofun⟩
  have none : latestHit go views fact = none := find?_eq_none.mpr fun view among => by
    simp [hit_of_hitsSome (missed view (mem_reverse.mp among)) mem]
  rw [none]
  rfl

lemma Standing.step (nodup : (rule.facts.map (·.id)).Nodup) (standing : Standing go rule views prior)
    (view : EventView) (timely : ∀ first, (views ++ [view]).find? (hitsSome go rule.facts) = some first →
      view.eventTime ≤ first.eventTime + UInt64.ofInt rule.within) : ((correlateGroup go e view rule prior).2 = none ∧
      Standing go rule (views ++ [view]) (correlateGroup go e view rule prior).1) ∨
    ((∀ fact ∈ rule.facts, ∃ seen ∈ views ++ [view], fact.hit go seen = true) ∧ (correlateGroup go e view rule prior).2 =
      some (factEvidence go e.limits (rule.facts.filterMap (latestHit go (views ++ [view]))))) := by
  have live : prior.filter (!·.expired view.eventTime) = prior := by
    cases prior with
    | none => rfl
    | some group =>
      obtain ⟨-,first,found,deadline⟩ := standing.gathered group rfl
      have inside := timely first (by rw [find?_append,found]; rfl)
      have later : group.expired view.eventTime = false := by
        simp only [CorrelateGroup.expired,deadline,Bool.and_eq_false_iff,decide_eq_false_iff_not,UInt64.not_lt]
        exact .inr inside
      simp [Option.filter,later]
  simp only [correlateGroup,live,matchCorrelateFacts_isEmpty]
  cases hit : hitsSome go rule.facts view with
  | false =>
    refine .inl ⟨rfl,fun every => standing.incomplete fun fact mem => ?_,fun absent seen among => ?_,fun group mem => ?_⟩
    · obtain ⟨seen,among,matched⟩ := every fact mem
      rcases mem_append.mp among with early | last
      · exact ⟨seen,early,matched⟩
      · obtain rfl := mem_singleton.mp last
        simp [hit_of_hitsSome hit mem] at matched
    · rcases mem_append.mp among with early | last
      · exact standing.untouched absent seen early
      · exact mem_singleton.mp last ▸ hit
    · obtain ⟨gathered,first,found,deadline⟩ := standing.gathered group mem
      have idle : matchCorrelateFacts go view rule.facts = [] := by
        rw [← List.isEmpty_iff,matchCorrelateFacts_isEmpty,hit]
        rfl
      have taken := gathered.taking nodup view
      simp only [CorrelateGroup.taking,idle,foldl_nil] at taken
      exact ⟨taken,first,by rw [find?_append,found]; rfl,deadline⟩
  | true =>
    obtain ⟨gathered,first,found,deadline⟩ : Gathered go rule.facts views
        (prior.getD { expiresAt := view.eventTime + UInt64.ofInt rule.within }) ∧
        ∃ first, (views ++ [view]).find? (hitsSome go rule.facts) = some first ∧
          (prior.getD { expiresAt := view.eventTime + UInt64.ofInt rule.within }).expiresAt =
            first.eventTime + UInt64.ofInt rule.within := by
      cases prior with
      | none =>
        have missed := standing.untouched rfl
        have none : views.find? (hitsSome go rule.facts) = none := find?_eq_none.mpr fun seen among => by
          simp [missed seen among]
        exact ⟨gathered_fresh missed _,view,by simp [find?_append,none,hit],rfl⟩
      | some group =>
        obtain ⟨gathered,first,found,deadline⟩ := standing.gathered group rfl
        exact ⟨gathered,first,by rw [find?_append,found]; rfl,deadline⟩
    have taken := gathered.taking nodup view
    have complete := taken.complete_iff nodup
    simp only [Bool.not_true,Bool.false_eq_true,if_false]
    split
    · rename_i few
      refine .inl ⟨rfl,fun every => absurd (complete.mpr every) (by omega),by simp,?_⟩
      rintro _ ⟨⟩
      exact ⟨taken,first,found,deadline⟩
    · rename_i enough
      have every := complete.mp (by omega)
      exact .inr ⟨every,congrArg some (taken.evidence e every)⟩

def correlateAll (go : Stdlib) (e : Engine) (rule : CompiledCorrelateRule) (turns : List Turn) (s : EngineState) :
    EngineState × List Signal :=
  detectAll (fun s turn => detectCorrelateRule go e turn.chance (newEventView go turn.event) s rule) turns s

lemma correlateAll_standing (nodup : (rule.facts.map (·.id)).Nodup) (turns : List Turn) {s : EngineState} {key : String}
    (oneGroup : ∀ turn ∈ turns, compiledSequenceGroupKey (newEventView go turn.event) rule.by_ = key)
    (timely : ∀ first, (views ++ turns.map fun turn => newEventView go turn.event).find? (hitsSome go rule.facts) = some first →
      ∀ turn ∈ turns, (newEventView go turn.event).eventTime ≤ first.eventTime + UInt64.ofInt rule.within)
    (standing : Standing go rule views ((s.correlatedOf rule.rule.spec.ruleID).lookup key)) :
    ((correlateAll go e rule turns s).2 = [] ∧ ¬∀ fact ∈ rule.facts,
      ∃ view ∈ views ++ turns.map fun turn => newEventView go turn.event, fact.hit go view = true) ∨
    ∃ old turn after sig, turns = old ++ turn :: after ∧ (correlateAll go e rule old s).2 = [] ∧
      (correlateAll go e rule turns s).2.head? = some sig ∧
      let seen := views ++ (old ++ [turn]).map fun turn => newEventView go turn.event
      let done := factEvidence go e.limits (rule.facts.filterMap (latestHit go seen))
      (∀ fact ∈ rule.facts, ∃ view ∈ seen, fact.hit go view = true) ∧
        sig.eventRefs = reportedRefs turn.event done ∧ sig.entities = done.2 := by
  induction turns generalizing views s with
  | nil => exact .inl ⟨rfl,by simpa using standing.incomplete⟩
  | cons turn turns ih =>
    have own := oneGroup turn mem_cons_self
    have split (more : List Turn) : views ++ (turn :: more).map (fun turn => newEventView go turn.event) =
        (views ++ [newEventView go turn.event]) ++ more.map fun turn => newEventView go turn.event := by simp
    rw [split] at timely
    have step := detectCorrelateRule_correlated go e turn.chance (newEventView go turn.event) rule s
    rw [own] at step
    have first := @Standing.step go e _ _ _ nodup standing (newEventView go turn.event) fun first found =>
      timely first (by rw [find?_append,found]; rfl) turn mem_cons_self
    rcases first with ⟨silent,later⟩ | ⟨every,done⟩
    · have quiet : (detectCorrelateRule go e turn.chance (newEventView go turn.event) s rule).2 = none := by
        have raised := step.raised
        rw [silent] at raised
        simpa using raised
      have run (more : List Turn) : (correlateAll go e rule (turn :: more) s).2 =
          (correlateAll go e rule more (detectCorrelateRule go e turn.chance (newEventView go turn.event) s rule).1).2 := by
        rw [correlateAll,detectAll_cons,quiet]
        rfl
      rw [← step.group] at later
      rw [run,split]
      rcases ih (fun other mem => oneGroup other (mem_cons_of_mem _ mem))
        (fun first found other mem => timely first found other (mem_cons_of_mem _ mem)) later with
        ended | ⟨old,last,after,sig,rfl,before_,head,every,refs,entities⟩
      · exact .inl ended
      · refine .inr ⟨turn :: old,last,after,sig,rfl,(run old).trans before_,head,?_⟩
        rw [cons_append,split]
        exact ⟨every,refs,entities⟩
    · refine .inr ⟨[],turn,turns,?_⟩
      have raised := step.raised
      rw [done] at raised
      obtain ⟨sig,found,same⟩ := map_eq_singleton_iff.mp raised
      have emitted := Option.toList_eq_singleton_iff.mp found
      simp only [Prod.mk.injEq,newEventView_ev] at same
      refine ⟨sig,rfl,rfl,?_,every,same.2.1,same.2.2⟩
      rw [correlateAll,detectAll_cons,emitted]
      rfl

end

/-- Completeness of a validated correlate rule on the events of one group that all come within the window of the
first one that matches a fact: the rule raises a signal exactly if every fact is matched, and the first signal has the
latest event of every fact as its evidence. -/
theorem correlate_complete {go : Stdlib} {strategy : Strategy} {policy : Option DetectionPolicy}
    {content : ContentSnapshot} {limits : EngineLimits} {e : Engine}
    (accepted : newWithRuntimeLimits go strategy policy content limits = .ok e)
    {spec : EffectiveRule} (member : spec ∈ e.rules) (kind : spec.runtimeType go = "correlate") {rule : CompiledCorrelateRule}
    (compiled : rule = compileCorrelateRule go strategy content.toContentRefs spec) (turns : List Turn) {s : EngineState}
    {key : String} (oneGroup : ∀ turn ∈ turns, compiledSequenceGroupKey (newEventView go turn.event) rule.by_ = key)
    (absent : (s.correlatedOf rule.rule.spec.ruleID).lookup key = none)
    (timely : ∀ first, (turns.map fun turn => newEventView go turn.event).find? (hitsSome go rule.facts) = some first →
      first.eventTime.toNat + rule.within.toNat < 2 ^ 64 ∧
        ∀ turn ∈ turns, (newEventView go turn.event).eventTime.toNat ≤ first.eventTime.toNat + rule.within.toNat)
    (room : rule.facts.length ≤ e.limits.maxCEPRefs) : ((correlateAll go e rule turns s).2 ≠ [] ↔
      ∀ fact ∈ rule.facts, ∃ turn ∈ turns, fact.hit go (newEventView go turn.event) = true) ∧
    ∀ sig, (correlateAll go e rule turns s).2.head? = some sig → ∃ before turn after, turns = before ++ turn :: after ∧
      (correlateAll go e rule before s).2 = [] ∧
      let seen := (before ++ [turn]).map fun turn => newEventView go turn.event
      let latest := rule.facts.filterMap (latestHit go seen)
      (∀ fact ∈ rule.facts, (latestHit go seen fact).isSome) ∧
      sig.eventRefs = reportedRefs turn.event (appendRefs [] (latest.map (·.eventID)),[]) ∧
      sig.entities = latest.foldl (fun out view => appendUniqueEntities out (eventEntities go view.ev)) [] := by
  obtain ⟨distinct,filled,window⟩ := accepted_correlate accepted member kind
  have width : 0 < rule.within := compiled ▸ window
  rw [← compiled] at distinct
  have start : Standing go rule [] ((s.correlatedOf rule.rule.spec.ruleID).lookup key) := by
    refine ⟨fun every => filled ?_,by simp,by simp [absent]⟩
    have none : rule.facts = [] := eq_nil_iff_forall_not_mem.mpr fun fact among => by simpa using every fact among
    simpa [compiled,compileCorrelateRule] using none
  have run := @correlateAll_standing go e _ _ distinct turns s key oneGroup (fun first found turn among => by
    obtain ⟨bounded,late⟩ := timely first found
    rw [UInt64.le_iff_toNat_le,toNat_deadline _ width bounded]
    exact late turn among) start
  simp only [nil_append,mem_map,exists_exists_and_eq_and] at run
  rcases run with ⟨silent,incomplete⟩ | ⟨before,turn,after,sig,shape,quiet,head,every,refs,entities⟩
  · exact ⟨iff_of_false (not_not.mpr silent) incomplete,by simp [silent]⟩
  refine ⟨iff_of_true (fun none => by simp [none] at head) fun fact among => ?_,fun found raised => ?_⟩
  · obtain ⟨seen,there,hit⟩ := every fact among
    refine ⟨seen,?_,hit⟩
    rw [shape]
    rcases mem_append.mp there with early | last
    · exact mem_append_left _ early
    · exact mem_append_right _ (mem_singleton.mp last ▸ mem_cons_self)
  obtain rfl : sig = found := Option.some.inj (head.symm.trans raised)
  refine ⟨before,turn,after,shape,quiet,fun fact among => ?_,?_,entities⟩
  · obtain ⟨seen,there,hit⟩ := every fact among
    exact latestHit_isSome.mpr ⟨_,mem_map_of_mem there,hit⟩
  · have few := (length_appendRefs_le [] ((rule.facts.filterMap (latestHit go ((before ++ [turn]).map fun turn =>
      newEventView go turn.event))).map (·.eventID))).trans (by simpa using length_filterMap_le _ _)
    rw [factEvidence,boundRefs_eq_self (few.trans room)] at refs
    exact refs

def startsAndConnects : RuleSpec :=
  { ruleID := "pair", ruleSetRef := "base", runtimeType := "correlate"
    correlate := { within := 10, by_ := ["lineage_id"]
                   facts := [{ id := "start", event := "process.exec" },{ id := "connect", event := "network.connect" }] } }

def pairRule : EffectiveRule := effectiveRule (policyInForce basePolicy) startsAndConnects

def pairEngine : Engine :=
  compileEngine asciiStdlib .linear (resolveRules (policyInForce basePolicy) { rules := [startsAndConnects] }) {} {}

def pairCompiled : CompiledCorrelateRule := compileCorrelateRule asciiStdlib .linear {} pairRule
def connectAndStart : List Turn := [lineageEvent "1" "network.connect" "g",lineageEvent "2" "process.exec" "g"]

theorem connectAndStart_reported : (correlateAll asciiStdlib pairEngine pairCompiled connectAndStart {}).2 ≠ [] := by
  have ok : newWithRuntimeLimits asciiStdlib .linear basePolicy { rules := [startsAndConnects] } {} = .ok pairEngine :=
    accepted_iff.mpr ⟨by decide +kernel,rfl⟩
  have mem : pairRule ∈ pairEngine.rules := effectiveRule_mem rfl
  have oneGroup : ∀ turn ∈ connectAndStart, compiledSequenceGroupKey (newEventView asciiStdlib turn.event)
      pairCompiled.by_ = "lineage_id=g" := by decide +kernel
  have times : ∀ turn ∈ connectAndStart, (newEventView asciiStdlib turn.event).eventTime = 0 := by decide +kernel
  have window : pairCompiled.within.toNat = 10 := by decide +kernel
  have absent : ((({} : EngineState).correlatedOf pairCompiled.rule.spec.ruleID).lookup "lineage_id=g").isNone := by decide +kernel
  have hits : ∀ fact ∈ pairCompiled.facts, ∃ turn ∈ connectAndStart, fact.hit asciiStdlib (newEventView asciiStdlib turn.event) := by
    decide +kernel
  refine (correlate_complete ok mem (by decide +kernel) rfl connectAndStart oneGroup (Option.isNone_iff_eq_none.mp absent) ?_
    (by decide +kernel)).1.mpr hits
  intro first found
  obtain ⟨turn,among,rfl⟩ := mem_map.mp (mem_of_find?_eq_some found)
  rw [times turn among,show (compileCorrelateRule asciiStdlib .linear _ pairRule).within.toNat = 10 from window]
  exact ⟨by decide,fun other listed => by simp [times other listed]⟩

end SysArmor.Detection
