import SysArmor.SequenceEvidence

/-! The values behind `same_as`. A validated sequence refers back to steps that come before, each step
saves the fields that are asked of it, and a group keeps what the steps behind it saved. -/
namespace SysArmor.Detection
open GoText Proto List

def Saved (seq : CompiledSequence) (st : GroupState) : Prop :=
  ∀ place step, place < st.stepIndex → seq.steps[place]? = some step → ∀ field ∈ step.saveFields,
    ∃ saved, st.values.lookup step.id = some saved ∧ ∃ value, saved.lookup (fieldName field) = some value

lemma eventFieldMap_lookup (view : EventView) {fields : List FieldID} {field : FieldID} (mem : field ∈ fields) :
    ∃ value, (eventFieldMapFromView view fields).lookup (fieldName field) = some value := by
  have fold (fields : List FieldID) (out : AList fun _ : String => String) (name : String)
      (there : name ∈ out ∨ ∃ field ∈ fields, fieldName field = name) :
      name ∈ fields.foldl (fun out field => out.insert (fieldName field) (view.field field)) out := by
    induction fields generalizing out with
    | nil => simpa using there
    | cons head fields ih =>
      refine ih _ ?_
      rw [AList.mem_insert]
      simp only [exists_mem_cons_iff] at there
      tauto
  exact Option.isSome_iff_exists.mp (AList.lookup_isSome.mpr (fold fields ∅ _ (.inr ⟨field,mem,rfl⟩)))

lemma saved_kept {go : Stdlib} {limits : EngineLimits} {seq : CompiledSequence} (nodup : (seq.steps.map (·.id)).Nodup)
    (view : EventView) : KeptBy go limits seq view (Saved seq) fun _ => True where
  fresh := nofun
  startOver _ _ := nofun
  complete _ _ _ _ _ _ _ := trivial
  advance := by
    intro st step next saved _ here _ place other old there field asked
    simp only [GroupState.waitingFor,GroupState.counted,saveValues] at old ⊢
    rcases Nat.lt_succ_iff_lt_or_eq.mp old with earlier | rfl
    · obtain ⟨values,found,value⟩ := saved place other earlier there field asked
      refine ⟨values,?_,value⟩
      split
      · exact found
      rw [AList.lookup_insert_ne]
      · exact found
      · intro same
        have bound : place < (seq.steps.map (·.id)).length := by
          simpa using (List.getElem?_eq_some_iff.mp there).1
        have equal : place = st.stepIndex := (getElem?_inj bound nodup).mp (by simp [there,here,same])
        omega
    · obtain rfl := Option.some.inj (here.symm.trans there)
      rw [if_neg (ne_nil_of_mem asked)]
      exact ⟨_,AList.lookup_insert _,eventFieldMap_lookup view asked⟩

/-! What validation says about the conditions of a step, flat or in a tree. -/

section
variable {go : Stdlib} {strategy : Strategy} {content : ContentRefs} {ruleID location : String} {prior : Option (List String)}

mutual
lemma validateConditionNode_clean : (node : ConditionNodeSpec) → (depth leaves : Nat) →
    (validateConditionNode go ruleID location prior depth leaves node).1 = [] →
      ∀ cond ∈ appendCompiledNodeConditions (compileConditionNode go strategy content node),
        ∃ spec, cond = compileCondition go strategy content spec ∧ validateCondition go ruleID location prior spec = []
  | .mk all any negated condition, depth, leaves, clean => by
    unfold validateConditionNode at clean
    split at clean
    · cases clean
    split at clean
    · split at clean
      · cases clean
      · rename_i leaf _
        intro cond mem
        simp only [compileConditionNode,appendCompiledNodeConditions,mem_singleton] at mem
        exact ⟨leaf,mem,by simpa [validateConditions] using clean⟩
    · rename_i node
      simpa only [compileConditionNode,appendCompiledNodeConditions] using validateConditionNode_clean node _ _ clean
    · cases clean
    · cases clean
    · rename_i children _
      simpa only [compileConditionNode,appendCompiledNodeConditions] using validateConditionNodes_clean children _ _ clean
    · rename_i children _
      simpa only [compileConditionNode,appendCompiledNodeConditions] using validateConditionNodes_clean children _ _ clean
    · cases clean
termination_by node => sizeOf node

lemma validateConditionNodes_clean : (nodes : List ConditionNodeSpec) → (depth leaves : Nat) →
    (validateConditionNodes go ruleID location prior depth leaves nodes).1 = [] →
      ∀ cond ∈ appendCompiledNodesConditions (compileConditionNodes go strategy content nodes),
        ∃ spec, cond = compileCondition go strategy content spec ∧ validateCondition go ruleID location prior spec = []
  | [], _, _, _ => by simp [compileConditionNodes,appendCompiledNodesConditions]
  | node :: rest, depth, leaves, clean => by
    simp only [validateConditionNodes,append_eq_nil_iff] at clean
    intro cond mem
    rw [compileConditionNodes,appendCompiledNodesConditions,mem_append] at mem
    rcases mem with first | later
    · exact validateConditionNode_clean node depth leaves clean.1 cond first
    · exact validateConditionNodes_clean rest depth _ clean.2 cond later
termination_by nodes => sizeOf nodes
end

variable {known : List String}

lemma sameAs_prior {spec : ConditionSpec} (clean : validateCondition go ruleID location (some known) spec = [])
    (op : (compileCondition go strategy content spec).op = .sameAs) :
    (compileCondition go strategy content spec).step ≠ "" ∧ (compileCondition go strategy content spec).step ∈ known := by
  simp only [compileCondition] at op ⊢
  simp only [validateCondition,op,append_eq_nil_iff] at clean
  simpa using clean.2.1

lemma allConditions_clean {step : SequenceStep} (flat : validateConditions go ruleID location step.conditions prior = [])
    (tree : validateConditionTree go ruleID location step.conditionGroup prior = []) :
    ∀ cond ∈ (compileStep go strategy content step).allConditions,
      ∃ spec, cond = compileCondition go strategy content spec ∧ validateCondition go ruleID location prior spec = [] := by
  intro cond mem
  rcases mem_append.mp mem with listed | inner
  · simp only [compileStep,compileConditions,mem_insertionSort,mem_map] at listed
    obtain ⟨spec,given,rfl⟩ := listed
    exact ⟨spec,rfl,flatMap_eq_nil_iff.mp flat spec given⟩
  cases group : step.conditionGroup with
  | none => simp [compileStep,group] at inner
  | some node =>
    simp only [validateConditionTree,group,Option.elim_some] at tree
    simp only [compileStep,group,Option.map_some,Option.elim_some] at inner
    exact validateConditionNode_clean node 1 0 tree cond inner

lemma validateSteps_clean {rule : RuleSpec} {steps : List SequenceStep} (clean : validateSteps go rule known steps = []) :
    (steps.map fun step => trimSpace step.id).Nodup ∧ (∀ step ∈ steps, trimSpace step.id ∉ known) ∧
    ∀ (place : Nat) step, steps[place]? = some step → ∀ cond ∈ (compileStep go strategy content step).allConditions,
      cond.op = .sameAs → cond.step ≠ "" ∧
        (cond.step ∈ known ∨ ∃ old < place, ∃ earlier : SequenceStep, steps[old]? = some earlier ∧ trimSpace earlier.id = cond.step) := by
  induction steps generalizing known with
  | nil => simp
  | cons head steps ih =>
    simp only [validateSteps,append_eq_nil_iff] at clean
    obtain ⟨⟨⟨unseen,flat⟩,tree⟩,rest⟩ := clean
    have fresh : trimSpace head.id ∉ known := fun seen => by simp [seen] at unseen
    obtain ⟨distinct,new,back⟩ := ih rest
    refine ⟨?_,?_,?_⟩
    · rw [map_cons,nodup_cons]
      refine ⟨fun again => ?_,distinct⟩
      obtain ⟨step,mem,same⟩ := mem_map.mp again
      exact new step mem (by simp [same])
    · intro step mem
      rcases mem_cons.mp mem with rfl | later
      · exact fresh
      · exact fun seen => new step later (mem_cons_of_mem _ seen)
    · intro place step here cond mem op
      cases place with
      | zero =>
        obtain rfl := Option.some.inj here
        obtain ⟨spec,rfl,valid⟩ := allConditions_clean flat tree cond mem
        obtain ⟨named,seen⟩ := sameAs_prior valid op
        exact ⟨named,.inl seen⟩
      | succ place =>
        obtain ⟨named,seen | ⟨old,lower,earlier,there,same⟩⟩ := back place step here cond mem op
        · rcases mem_cons.mp seen with own | older
          · exact ⟨named,.inr ⟨0,by omega,head,rfl,own.symm⟩⟩
          · exact ⟨named,.inl older⟩
        · exact ⟨named,.inr ⟨old + 1,by omega,earlier,there,same⟩⟩

end

variable {step : CompiledStep} {steps : List CompiledStep}

lemma stepIndexOf_eq (nodup : (steps.map (·.id)).Nodup) {place : Nat}
    (here : steps[place]? = some step) (named : step.id ≠ "") : stepIndexOf steps step.id = some place := by
  have bound := (List.getElem?_eq_some_iff.mp here).1
  have only (other : Nat) (hit : steps[other]?.any (·.id = step.id)) : other = place := by
    obtain ⟨found,there,same⟩ := Option.any_eq_true _ _ |>.mp hit
    refine (getElem?_inj ?_ nodup).mp (by simp [here,there,of_decide_eq_true same])
    simpa using (List.getElem?_eq_some_iff.mp there).1
  cases found : stepIndexOf steps step.id with
  | none => exact absurd (find?_eq_none.mp found place (by simpa using bound)) (by simp [here,named])
  | some other =>
    have hit := find?_some found
    rw [only other (by simp_all)]

lemma saveFields_asked (nodup : (steps.map (·.id)).Nodup) (place other : Nat)
    {earlier : CompiledStep} (here : steps[place]? = some step) (there : steps[other]? = some earlier)
    {cond : CompiledCondition} (used : cond ∈ step.allConditions) (op : cond.op = .sameAs) (named : cond.step ≠ "")
    (same : earlier.id = cond.step) :
    ∃ saving, (attachSequenceSaveFields steps)[other]? = some saving ∧ saving.id = cond.step ∧ cond.stepField ∈ saving.saveFields := by
  simp only [attachSequenceSaveFields,getElem?_mapIdx,there,Option.map_some,Option.some.injEq,exists_eq_left']
  have mem : cond ∈ steps.flatMap (·.allConditions) := mem_flatMap.mpr ⟨step,mem_of_getElem? here,used⟩
  have index := stepIndexOf_eq nodup there (same ▸ named)
  rw [same] at index
  refine ⟨same,mem_filter.mpr ⟨by cases cond.stepField <;> decide,any_eq_true.mpr ⟨cond,?_,by simp [index]⟩⟩⟩
  exact mem_filter.mpr ⟨mem,by simp [op,named]⟩

/-- In every run of an accepted engine, whatever a `same_as` condition of the step that a group waits for
refers to, flat or in its tree, is the id of an earlier step and a field that the group has saved there. -/
theorem saved_values_present {go : Stdlib} {strategy : Strategy} {policy : Option DetectionPolicy}
    {content : ContentSnapshot} {limits : EngineLimits} {e : Engine}
    (accepted : newWithRuntimeLimits go strategy policy content limits = .ok e)
    {rule : EffectiveRule} (member : rule ∈ e.rules) (kind : rule.runtimeType go = "sequence") (turns : List Turn)
    {key : String} {st : GroupState}
    (reached : ((processAll go e turns {}).1.groupsOf rule.spec.ruleID).lookup key = some st) {step : CompiledStep}
    (waits : (compileSequenceRule go strategy content.toContentRefs rule).sequence.steps[st.stepIndex]? = some step)
    {cond : CompiledCondition} (used : cond ∈ step.allConditions) (op : cond.op = .sameAs) : ∃ place < st.stepIndex, ∃ earlier,
      (compileSequenceRule go strategy content.toContentRefs rule).sequence.steps[place]? = some earlier ∧
      earlier.id = cond.step ∧ ∃ saved, st.values.lookup cond.step = some saved ∧
        ∃ value, saved.lookup (fieldName cond.stepField) = some value := by
  obtain ⟨clean,shape⟩ := accepted_iff.mp accepted
  have valid := (selectionErrors_nil clean).2.2 rule (by rwa [shape] at member)
  simp only [validateRuleSpec,ruleRuntimeType_eq kind (by simp),append_eq_nil_iff,validateSequence] at valid
  obtain ⟨distinct,-,back⟩ := @validateSteps_clean go strategy content.toContentRefs _ _ _ valid.2.2
  have steps : (compileSequenceRule go strategy content.toContentRefs rule).sequence.steps =
      attachSequenceSaveFields (rule.spec.sequence.steps.map (compileStep go strategy content.toContentRefs)) := rfl
  have compiled : ((rule.spec.sequence.steps.map (compileStep go strategy content.toContentRefs)).map (·.id)).Nodup := by
    simpa [compileStep,Function.comp_def] using distinct
  have ids : ((compileSequenceRule go strategy content.toContentRefs rule).sequence.steps.map (·.id)).Nodup := by
    convert compiled using 1
    exact ext_getElem? fun place => by
      simp [steps,attachSequenceSaveFields,getElem?_mapIdx,Function.comp_def]
  have holds := (processAll_kept (P := fun _ _ => Saved _) (Q := fun _ _ => True) (accepted_runs accepted member kind)
    (fun _ _ _ _ saved => saved) (fun _ view _ => saved_kept ids view) turns (prefix_rfl : [] ++ _ <+: _)
    (by simp [EngineState.groupsOf])).1 key st reached
  rw [steps,attachSequenceSaveFields,getElem?_mapIdx,getElem?_map] at waits
  obtain ⟨base,given,rfl⟩ := Option.map_eq_some_iff.mp waits
  obtain ⟨spec,here,rfl⟩ := Option.map_eq_some_iff.mp given
  have used : cond ∈ (compileStep go strategy content.toContentRefs spec).allConditions := used
  obtain ⟨named,seen | ⟨place,old,earlier,there,same⟩⟩ := back st.stepIndex spec here cond used op
  · cases seen
  have prior : (rule.spec.sequence.steps.map (compileStep go strategy content.toContentRefs))[place]? =
      some (compileStep go strategy content.toContentRefs earlier) := by rw [getElem?_map,there]; rfl
  obtain ⟨saving,found,id,asked⟩ := saveFields_asked compiled st.stepIndex place
    (by rw [getElem?_map,here]; rfl) prior used op named same
  obtain ⟨saved,lookup,value⟩ := holds place saving old found cond.stepField asked
  exact ⟨place,old,saving,found,id,saved,id ▸ lookup,value⟩

def sameBinary : RuleSpec :=
  { ruleID := "steps", ruleSetRef := "base", runtimeType := "sequence"
    sequence := { steps := [{ id := "first", behavior := "process.exec" },
      { id := "second", behavior := "network.connect"
        conditions := [{ field := "process.binary", op := "same_as", step := "first" }] }] } }

def sameBinaryEngine : Engine :=
  compileEngine asciiStdlib .linear (resolveRules (policyInForce basePolicy) { rules := [sameBinary] }) {} {}

theorem first_binary_saved :
    ∃ st saved value, ((processAll asciiStdlib sameBinaryEngine [lineageEvent "1" "process.exec" "g"] {}).1.groupsOf
      "steps").lookup "lineage_id=g" = some st ∧ st.stepIndex = 1 ∧ st.values.lookup "first" = some saved ∧
        saved.lookup "process.binary" = some value := by
  have waiting : (((processAll asciiStdlib sameBinaryEngine [lineageEvent "1" "process.exec" "g"] {}).1.groupsOf
    "steps").lookup "lineage_id=g").map (·.stepIndex) = some 1 := by decide +kernel
  obtain ⟨st,reached,index⟩ := Option.map_eq_some_iff.mp waiting
  have ok : newWithRuntimeLimits asciiStdlib .linear basePolicy { rules := [sameBinary] } {} = .ok sameBinaryEngine :=
    accepted_iff.mpr ⟨by decide +kernel,rfl⟩
  have mem : effectiveRule (policyInForce basePolicy) sameBinary ∈ sameBinaryEngine.rules := effectiveRule_mem rfl
  have asks : ((compileSequenceRule asciiStdlib .linear {} (effectiveRule (policyInForce basePolicy) sameBinary)).sequence.steps[1]?.any
      fun step => step.allConditions.any fun cond => cond.op = .sameAs && cond.step = "first" &&
        fieldName cond.stepField = "process.binary") = true := by decide +kernel
  obtain ⟨step,waits,asks⟩ := (Option.any_eq_true _ _).mp asks
  obtain ⟨cond,used,asks⟩ := any_eq_true.mp asks
  simp only [Bool.and_eq_true,decide_eq_true_eq] at asks
  obtain ⟨-,-,-,-,-,saved,found,value,present⟩ := saved_values_present ok mem (by decide +kernel)
    [lineageEvent "1" "process.exec" "g"] reached (by rw [index]; exact waits) used asks.1.1
  exact ⟨st,saved,value,reached,index,asks.1.2 ▸ found,asks.2 ▸ present⟩

end SysArmor.Detection
