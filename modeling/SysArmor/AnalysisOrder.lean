import SysArmor.CloudAnalysis

/-! The common labels of a scope. A missing label reads as the empty text, so a label that is empty in
the first map stays although other maps lack it: the result depends on which map comes first, and
on nothing else in the order. -/
namespace SysArmor.Analytics
open GoText Proto List
open Manager (labelKey)

section
open Manager (sortedKeys mem_sortedKeys)
variable {key : String} {labels : Labels} {maps : List Labels}

lemma lookup_foldl_erase {drop : String → Prop} [DecidablePred drop] {keys : List String} :
    (keys.foldl (fun kept key => if drop key then kept.erase key else kept) labels).lookup key =
      if key ∈ keys ∧ drop key then none else labels.lookup key := by
  induction keys generalizing labels with
  | nil => simp
  | cons other keys ih =>
    rw [foldl_cons,ih]
    by_cases here : key = other
    · subst here
      by_cases dropped : drop key <;> simp [dropped]
    have kept : (if drop other then labels.erase other else labels).lookup key = labels.lookup key := by
      split
      · exact Finmap.lookup_erase_ne here
      · rfl
    simp [kept,here]

lemma lookup_keepEqual {common : Labels} :
    (keepEqual common labels).lookup key = if labels.get key = common.get key then common.lookup key else none := by
  rw [keepEqual,lookup_foldl_erase]
  by_cases mem : key ∈ common
  · simp only [mem_sortedKeys,mem,true_and,ne_eq]
    split <;> simp_all
  have absent : common.lookup key = none := by
    rw [Finmap.lookup_eq_none]
    exact mem
  simp [mem_sortedKeys,mem,absent]

def commonFrom (first : Labels) (maps : List Labels) : Labels := maps.foldl keepEqual first

lemma lookup_commonFrom (first : Labels) (maps : List Labels) (key : String) : (commonFrom first maps).lookup key =
      if ∀ labels ∈ maps, labels.get key = first.get key then first.lookup key else none := by
  induction maps generalizing first with
  | nil => simp [commonFrom]
  | cons labels maps ih =>
    have step : commonFrom first (labels :: maps) = commonFrom (keepEqual first labels) maps := rfl
    rw [step,ih,lookup_keepEqual]
    by_cases same : labels.get key = first.get key
    · have read : (keepEqual first labels).get key = first.get key := by
        rw [Labels.get,lookup_keepEqual,if_pos same]
        rfl
      simp [same,read]
    · simp [same]

lemma commonFrom_congr {others : List Labels} (same : ∀ labels, labels ∈ maps ↔ labels ∈ others) (first : Labels) :
    commonFrom first maps = commonFrom first others := by
  apply Finmap.ext_lookup
  intro key
  simp only [lookup_commonFrom,same]

lemma keepEqual_self : keepEqual labels labels = labels := by
  apply Finmap.ext_lookup
  intro key
  simp [lookup_keepEqual]

def labelMaps (events : List CanonicalEvent) (signals : List Signal) : List Labels :=
  (events.map (·.labels) ++ signals.map (·.labels)).filter (· ≠ ∅)

lemma foldl_mergeLabels : maps.foldl mergeLabels common = match common,maps.filter (· ≠ ∅) with
      | some common,maps => some (commonFrom common maps)
      | none,[] => none
      | none,first :: maps => some (commonFrom first maps) := by
  induction maps generalizing common with
  | nil => cases common <;> rfl
  | cons labels maps ih =>
    rw [foldl_cons,ih]
    by_cases empty : labels = ∅
    · simp [mergeLabels,empty]
    · cases common <;> simp [mergeLabels,empty,commonFrom]

lemma commonLabels_eq (shape : labelMaps events signals = first :: rest) :
    commonLabels events signals = commonFrom first (labelMaps events signals) := by
  have here : commonFrom first (first :: rest) = commonFrom first rest := by
    simp only [commonFrom,foldl_cons,keepEqual_self]
  have maps : (events.map (·.labels) ++ signals.map (·.labels)).filter (· ≠ ∅) = first :: rest := shape
  rw [commonLabels,foldl_mergeLabels,maps,shape,here]
  rfl

lemma commonLabels_nil (shape : labelMaps events signals = []) : commonLabels events signals = ∅ := by
  have maps : (events.map (·.labels) ++ signals.map (·.labels)).filter (· ≠ ∅) = [] := shape
  rw [commonLabels,foldl_mergeLabels,maps]
  rfl

/-! The events are merged before the signals. -/

def eventMaps (events : List CanonicalEvent) : List Labels := (events.map (·.labels)).filter (· ≠ ∅)
def signalMaps (signals : List Signal) : List Labels := (signals.map (·.labels)).filter (· ≠ ∅)

def firstMaps (events : List CanonicalEvent) (signals : List Signal) : List Labels :=
  if eventMaps events ≠ [] then eventMaps events
  else if signalMaps signals ≠ [] then signalMaps signals
  else [∅]

lemma labelMaps_eq (events : List CanonicalEvent) (signals : List Signal) :
    labelMaps events signals = eventMaps events ++ signalMaps signals := filter_append ..

lemma eventMaps_perm (order : events.Perm others) : (eventMaps events).Perm (eventMaps others) := (order.map _).filter _

lemma signalMaps_perm (order : signals.Perm others) : (signalMaps signals).Perm (signalMaps others) := (order.map _).filter _

lemma mem_labelMaps_perm (order : events.Perm others) (orderSignals : signals.Perm otherSignals) (labels : Labels) :
    labels ∈ labelMaps events signals ↔ labels ∈ labelMaps others otherSignals := by
  rw [labelMaps_eq,labelMaps_eq,mem_append,mem_append,(eventMaps_perm order).mem_iff,
    (signalMaps_perm orderSignals).mem_iff]

lemma mem_firstMaps_perm (order : events.Perm others) (orderSignals : signals.Perm otherSignals) (labels : Labels) :
    labels ∈ firstMaps events signals ↔ labels ∈ firstMaps others otherSignals := by
  have first := eventMaps_perm order
  have second := signalMaps_perm orderSignals
  have none : eventMaps events = [] ↔ eventMaps others = [] := by
    rw [← length_eq_zero_iff,first.length_eq,length_eq_zero_iff]
  have none' : signalMaps signals = [] ↔ signalMaps otherSignals = [] := by
    rw [← length_eq_zero_iff,second.length_eq,length_eq_zero_iff]
  simp only [firstMaps,none,none',ne_eq]
  split
  · exact first.mem_iff
  split
  · exact second.mem_iff
  · rfl

lemma exists_commonLabels (events : List CanonicalEvent) (signals : List Signal) :
    ∃ first ∈ firstMaps events signals, commonLabels events signals = commonFrom first (labelMaps events signals) := by
  have maps := labelMaps_eq events signals
  cases front : eventMaps events with
  | cons first rest =>
    rw [front,cons_append] at maps
    exact ⟨first,by simp [firstMaps,front],commonLabels_eq maps⟩
  | nil =>
    cases back : signalMaps signals with
    | cons first rest =>
      rw [front,back,nil_append] at maps
      exact ⟨first,by simp [firstMaps,front,back],commonLabels_eq maps⟩
    | nil =>
      rw [front,back,nil_append] at maps
      exact ⟨∅,by simp [firstMaps,front,back],by rw [commonLabels_nil maps,maps]; rfl⟩

lemma lookup_eq_of_get_eq {left right : Labels} (same : left.get key = right.get key) (filled : left.lookup key ≠ some "")
    (filled' : right.lookup key ≠ some "") : left.lookup key = right.lookup key := by
  simp only [Labels.get] at same
  cases here : left.lookup key <;> cases there : right.lookup key <;> simp_all

lemma commonFrom_eq_of_filled (left : first ∈ maps) (right : second ∈ maps)
    (filled : ∀ key, first.lookup key ≠ some "") (filled' : ∀ key, second.lookup key ≠ some "") :
    commonFrom first maps = commonFrom second maps := by
  apply Finmap.ext_lookup
  intro key
  rw [lookup_commonFrom,lookup_commonFrom]
  by_cases reads : ∀ labels ∈ maps, labels.get key = first.get key
  · have same : second.get key = first.get key := reads second right
    rw [if_pos reads,if_pos fun labels mem => (reads labels mem).trans same.symm]
    exact lookup_eq_of_get_eq same.symm (filled key) (filled' key)
  rw [if_neg reads,if_neg]
  intro reads'
  have same : first.get key = second.get key := reads' first left
  exact reads fun labels mem => (reads' labels mem).trans same.symm
end

/-! What the analysis of a scope says does not depend on the order of its events and signals, except
through the labels of the first map. -/
open Manager (sortedEntities)
open Ingest (signalDocumentID)

/-! Entities. -/

lemma last_of_trimmed {s : String} (trimmed : trimSpace s = s) : ∀ c ∈ s.toList.getLast?, isSpace c = false := by
  intro c last
  have letters := congrArg String.toList trimmed
  rw [trimSpace,String.toList_ofList] at letters
  rw [← letters] at last
  obtain ⟨some,same⟩ := mem_getLast?_eq_getLast last
  rw [same]
  simpa using rdropWhile_last_not isSpace _ some

variable {key : String}

lemma trimSpace_tag_append {tag : String} (head : ∃ c, tag.toList.head? = some c ∧ isSpace c = false)
    (trimmed : trimSpace key = key) (named : key ≠ "") : trimSpace (tag ++ key) = tag ++ key := by
  obtain ⟨c,head,solid⟩ := head
  apply trimSpace_eq_self
  · intro other here
    rw [String.toList_append,head?_append,head] at here
    cases here
    exact solid
  · intro other here
    have some : key.toList ≠ [] := by simpa using named
    rw [String.toList_append,getLast?_append_of_ne_nil _ some] at here
    exact last_of_trimmed trimmed other here

lemma ensurePrefix_idem {start : String} : ensurePrefix (ensurePrefix key start) start = ensurePrefix key start := by
  have starts : hasPrefix (start ++ key) start = true := by
    simp [hasPrefix, isPrefixOf_iff_prefix]
  by_cases keeps : key = "" || hasPrefix key start
  · simp only [ensurePrefix,keeps,↓reduceIte]
  · have fresh : ensurePrefix key start = start ++ key := if_neg keeps
    rw [fresh,ensurePrefix,starts,Bool.or_true,if_pos rfl]

lemma trimSpace_ensurePrefix {kind : String} (tagged : kind ∈ taggedKinds) (trimmed : trimSpace key = key) :
    trimSpace (ensurePrefix key (kind ++ ":")) = ensurePrefix key (kind ++ ":") := by
  have head : ∃ c, (kind ++ ":").toList.head? = some c ∧ isSpace c = false := by
    simp only [taggedKinds,mem_cons,not_mem_nil,or_false] at tagged
    rcases tagged with rfl | rfl | rfl | rfl | rfl | rfl <;> exact ⟨_,rfl,rfl⟩
  rw [ensurePrefix]
  split
  · exact trimmed
  rename_i fresh
  simp only [Bool.or_eq_true,decide_eq_true_eq,not_or] at fresh
  exact trimSpace_tag_append head trimmed fresh.1

section
variable {go : Stdlib}
variable {text : String} {refs : List EntityRef}

section
variable (lower : ∀ c, go.toLower (go.toLower c) = go.toLower c)
include lower

lemma lowerTrimmed_idem : trimSpace (toLower go (trimSpace (toLower go text))) = trimSpace (toLower go text) := by
  have same : go.toLower ∘ go.toLower = go.toLower := funext lower
  have twice : toLower go (toLower go text) = toLower go text := by simp [toLower,same]
  rw [← trimSpace_toLower go (toLower go text),twice,trimSpace_trimSpace]

lemma normalizeEntity_idem {ref : EntityRef} : normalizeEntity go (normalizeEntity go ref) = normalizeEntity go ref := by
  simp only [normalizeEntity,lowerTrimmed_idem lower,EntityRef.mk.injEq,true_and,and_true]
  split
  · rename_i tagged
    rw [trimSpace_ensurePrefix tagged (trimSpace_trimSpace _),ensurePrefix_idem]
  · exact trimSpace_trimSpace _

end

def counted (ref : EntityRef) : Prop := ref.kind ≠ "" ∧ ref.key ≠ ""

lemma mem_uniqueEntities (mem : entity ∈ uniqueEntities go seen refs) :
    counted entity ∧ ∃ ref ∈ refs, normalizeEntity go ref = entity := by
  induction refs generalizing seen with
  | nil => cases mem
  | cons ref refs ih =>
    rw [uniqueEntities] at mem
    split at mem
    · obtain ⟨count,other,listed,same⟩ := ih mem
      exact ⟨count,other,mem_cons_of_mem _ listed,same⟩
    rename_i passes
    rcases mem_cons.mp mem with rfl | mem
    · simp only [Bool.or_eq_true,decide_eq_true_eq,not_or] at passes
      exact ⟨passes.1,ref,mem_cons_self,rfl⟩
    · obtain ⟨count,other,listed,same⟩ := ih mem
      exact ⟨count,other,mem_cons_of_mem _ listed,same⟩

lemma mem_uniqueEntities_text : text ∈ (uniqueEntities go seen refs).map entityText ↔
    text ∉ seen ∧ ∃ ref ∈ refs, counted (normalizeEntity go ref) ∧ entityText (normalizeEntity go ref) = text := by
  induction refs generalizing seen with
  | nil => simp [uniqueEntities]
  | cons ref refs ih =>
    rw [uniqueEntities]
    split
    · rename_i skips
      rw [ih]
      constructor
      · rintro ⟨fresh,other,listed,rest⟩
        exact ⟨fresh,other,mem_cons_of_mem _ listed,rest⟩
      rintro ⟨fresh,other,listed,count,same⟩
      rcases mem_cons.mp listed with rfl | listed
      · simp only [Bool.or_eq_true,decide_eq_true_eq] at skips
        rcases skips with (kind | key) | again
        · exact absurd kind count.1
        · exact absurd key count.2
        · exact absurd (same ▸ again) fresh
      · exact ⟨fresh,other,listed,count,same⟩
    · rename_i passes
      simp only [Bool.or_eq_true,decide_eq_true_eq,not_or] at passes
      rw [map_cons,mem_cons,ih,mem_cons,not_or]
      constructor
      · rintro (rfl | ⟨⟨-,fresh⟩,other,listed,rest⟩)
        · exact ⟨passes.2,ref,mem_cons_self,passes.1,rfl⟩
        · exact ⟨fresh,other,mem_cons_of_mem _ listed,rest⟩
      rintro ⟨fresh,other,listed,count,same⟩
      by_cases here : text = entityText (normalizeEntity go ref)
      · exact .inl here
      rcases mem_cons.mp listed with rfl | listed
      · exact absurd same.symm here
      · exact .inr ⟨⟨here,fresh⟩,other,listed,count,same⟩

lemma uniqueEntities_text_nodup (seen : List String) (refs : List EntityRef) :
    ((uniqueEntities go seen refs).map entityText).Nodup := by
  induction refs generalizing seen with
  | nil => exact nodup_nil
  | cons ref refs ih =>
    rw [uniqueEntities]
    split
    · exact ih seen
    · rw [map_cons,nodup_cons]
      exact ⟨fun again => (mem_uniqueEntities_text.mp again).1 mem_cons_self,ih _⟩

lemma uniqueEntities_of_normal (normal : ∀ ref ∈ refs, counted ref ∧ normalizeEntity go ref = ref)
    (fresh : ∀ ref ∈ refs, entityText ref ∉ seen) (nodup : (refs.map entityText).Nodup) : uniqueEntities go seen refs = refs := by
  induction refs generalizing seen with
  | nil => rfl
  | cons ref refs ih =>
    obtain ⟨count,same⟩ := normal ref mem_cons_self
    rw [map_cons,nodup_cons] at nodup
    rw [uniqueEntities]
    simp only [same,count.1,count.2,fresh ref mem_cons_self,decide_false,Bool.or_self,Bool.false_eq_true,↓reduceIte]
    rw [ih (fun other listed => normal other (mem_cons_of_mem _ listed)) ?_ nodup.2]
    intro other listed
    rw [mem_cons,not_or]
    refine ⟨fun again => nodup.1 ?_,fresh other (mem_cons_of_mem _ listed)⟩
    rw [← again]
    exact mem_map_of_mem listed

lemma uniqueEntities_idem (lower : ∀ c, go.toLower (go.toLower c) = go.toLower c) :
    uniqueEntities go [] (uniqueEntities go [] refs) = uniqueEntities go [] refs := by
  refine uniqueEntities_of_normal (fun entity mem => ?_) (fun _ _ => not_mem_nil) (uniqueEntities_text_nodup _ _)
  obtain ⟨count,ref,-,rfl⟩ := mem_uniqueEntities mem
  exact ⟨count,normalizeEntity_idem lower⟩

lemma sortedEntities_unique_congr {others : List EntityRef} (same : ∀ ref, ref ∈ refs ↔ ref ∈ others) :
    sortedEntities (uniqueEntities go [] refs) = sortedEntities (uniqueEntities go [] others) := by
  apply sortStrings_eq_of_perm
  refine (perm_ext_iff_of_nodup (uniqueEntities_text_nodup _ _) (uniqueEntities_text_nodup _ _)).mpr fun text => ?_
  rw [mem_uniqueEntities_text,mem_uniqueEntities_text]
  simp only [same]

end

/-! Views. -/

def signalText (labels : Labels) (name : String) (refs : List EntityRef) : String :=
  join ([labelKey labels,"cloud",name,"","false"] ++ sortedEntities refs) "\x00"

def View.keyTexts (go : Stdlib) (view : View) (policy : Option DetectionPolicy) : List String :=
  (if view.droppedFires policy then [signalText view.labels droppedPayload (view.droppedEntities go)] else []) ++
    if view.webShellFires policy then [signalText view.labels webShellChain (view.webShellEntities go)] else []

def View.converges (view : View) (policy : Option DetectionPolicy) : Bool :=
  let params := (policy.bind (·.converge)).getD {}
  if params.mode = "additive_threshold" then
    (if params.additiveRiskThreshold = 0 then 100 else params.additiveRiskThreshold) ≤ additiveRisk view
  else view.hasTerminal "reverse_shell_pattern" || (view.droppedFires policy && view.has "suspicious_exec_connect")

section
variable {go : Stdlib} {policy : Option DetectionPolicy} {view other : View}
variable {name : String}

section
variable (same : view.signals.Perm other.signals)
include same

lemma byName_perm : (view.byName name).Perm (other.byName name) :=
  same.filter _

lemma has_congr : view.has name = other.has name := by
  rw [View.has,View.has,(byName_perm same).isEmpty_eq]

lemma hasTerminal_congr : view.hasTerminal name = other.hasTerminal name := (byName_perm same).any_eq

lemma additiveRisk_congr : additiveRisk view = additiveRisk other := by
  have swap : LeftCommutative fun a b : UInt32 => a + b := ⟨fun a b c => by rw [← UInt32.add_assoc,UInt32.add_comm a b,UInt32.add_assoc]⟩
  simp only [additiveRisk,List.sum]
  exact (same.map _).foldr_eq 0

lemma droppedFires_congr : view.droppedFires policy = other.droppedFires policy := by
  simp only [View.droppedFires,has_congr same,hasTerminal_congr same]

lemma webShellFires_congr : view.webShellFires policy = other.webShellFires policy := by
  simp only [View.webShellFires,has_congr same,hasTerminal_congr same]

lemma converges_congr : view.converges policy = other.converges policy := by
  simp only [View.converges,has_congr same,hasTerminal_congr same,additiveRisk_congr same,droppedFires_congr same]

lemma collectEntities_congr {names : List String} :
    sortedEntities (view.collectEntities go names) = sortedEntities (other.collectEntities go names) := by
  apply sortedEntities_unique_congr
  intro ref
  simp only [mem_flatMap,(byName_perm same).mem_iff]

lemma keyTexts_congr (labels : view.labels = other.labels) : view.keyTexts go policy = other.keyTexts go policy := by
  simp only [View.keyTexts,signalText,View.droppedEntities,View.webShellEntities,droppedFires_congr same,
    webShellFires_congr same,collectEntities_congr same,labels]

end

lemma signalDocumentID_cloudSignal {digest : String → String} {number : UInt64} {labels : Labels}
    (cross : Bool) {refs : List EntityRef} : signalDocumentID digest (cloudSignal go number name labels risk cross refs) =
      digest (signalText labels name (uniqueEntities go [] refs)) := by
  simp [signalDocumentID,cloudSignal,Manager.signalKey,Manager.stableKey,signalText,Manager.layerName,Manager.boolString,
    sortStrings]

lemma cloudSignals_ids (lower : ∀ c, go.toLower (go.toLower c) = go.toLower c) (digest : String → String) (view : View)
    (policy : Option DetectionPolicy) (counter : UInt64) :
    (cloudSignals go counter view policy).2.map (signalDocumentID digest) = (view.keyTexts go policy).map digest := by
  have once (names : List String) : uniqueEntities go [] (view.collectEntities go names) = view.collectEntities go names :=
    uniqueEntities_idem lower
  simp only [cloudSignals,View.keyTexts]
  split <;> split <;> simp [signalDocumentID_cloudSignal,View.droppedEntities,View.webShellEntities,once]

lemma convergeDecision_incident (go : Stdlib) (view : View) (policy : Option DetectionPolicy) (counter : UInt64) :
    (convergeDecision view (cloudSignals go counter view policy).2 policy).incident = view.converges policy := by
  simp only [convergeDecision,View.converges]
  split
  · rfl
  split
  · rename_i terminal
    simp [terminal]
  · rename_i quiet
    have web : view.webShellFires policy = false := by simp [View.webShellFires,quiet]
    cases fires : view.droppedFires policy <;> cases spread : view.has "suspicious_exec_connect" <;>
      simp [cloudSignals,cloudSignal,droppedPayload,fires,web,spread,quiet]

lemma cloudSignals_where (mem : sig ∈ (cloudSignals go counter view policy).2) : sig.where = .cloud := by
  cases dropped : view.droppedFires policy <;> cases web : view.webShellFires policy <;>
    simp [cloudSignals,dropped,web] at mem
  · exact mem ▸ rfl
  · exact mem ▸ rfl
  · rcases mem with rfl | rfl <;> rfl

lemma analyzeWithPolicy_cloudSignals (e : Engine) (events : List CanonicalEvent) (signals : List Signal) :
    (analyzeWithPolicy go e events signals policy).2.cloudSignals =
      (cloudSignals go e.nextSignalID (build events signals policy) policy).2 := by
  simp only [analyzeWithPolicy]
  split <;> rfl

lemma analyzeWithPolicy_incidents (go : Stdlib) (e : Engine) (events : List CanonicalEvent) (signals : List Signal)
    (policy : Option DetectionPolicy) :
    ∃ decision, (analyzeWithPolicy go e events signals policy).2.incidents = if (build events signals policy).converges policy then
      [buildIncident go (e.nextIncidentID + 1)
        (signals ++ (cloudSignals go e.nextSignalID (build events signals policy) policy).2) decision] else [] := by
  rw [← convergeDecision_incident go _ policy e.nextSignalID]
  refine ⟨convergeDecision (build events signals policy)
    (cloudSignals go e.nextSignalID (build events signals policy) policy).2 policy,?_⟩
  simp only [analyzeWithPolicy]
  split <;> rfl

end

end SysArmor.Analytics
