import SysArmor.IngestWorker

/-! Which keys of scopes and incidents say what they were made of. The parts of a key are joined by
`,` and `=` in a scope key and by `:` in the text an incident is addressed by, and nothing keeps
these letters out of tenants and label values. A key with two labels is also the key of one label
with a longer value; what remains readable is described here exactly. -/
namespace SysArmor.Ingest
open GoText Proto Manager List

lemma LabelText.append (first : LabelText a) (last : LabelText b) (between : String) : LabelText (a ++ between ++ b) := by
  obtain ⟨someA,trimmedA⟩ := first
  obtain ⟨someB,trimmedB⟩ := last
  have nonemptyA : a.toList ≠ [] := by simpa using someA
  have nonemptyB : b.toList ≠ [] := by simpa using someB
  refine ⟨by simp [someA],trimSpace_eq_self _ ?_ ?_⟩
  · rw [String.toList_append,String.toList_append,append_assoc,head?_append_of_ne_nil _ nonemptyA]
    exact (ends_of_trimSpace_eq_self trimmedA).1
  · rw [String.toList_append,getLast?_append_of_ne_nil _ nonemptyB]
    exact (ends_of_trimSpace_eq_self trimmedB).2

def scopeKey (labels : Labels) : String := labelSelectorKey (analysisSelector labels)

lemma scopeKey_of_none (present : presentNames labels = []) : scopeKey labels = "" := by
  rw [scopeKey,labelSelectorKey_analysisSelector,present]
  rfl

lemma scopeKey_of_one (present : presentNames labels = [name]) : scopeKey labels = name ++ "=" ++ scopeValue labels name := by
  rw [scopeKey,labelSelectorKey_analysisSelector,present,map_singleton,join,String.intercalate_singleton,labelText]

lemma join_labels (labels : Labels) (name : String) (rest : List String)
    (present : ∀ listed ∈ name :: rest, scopeValue labels listed ≠ "") :
    ∃ tail, LabelText tail ∧ join ((name :: rest).map (labelText labels)) "," = name ++ "=" ++ tail := by
  induction rest generalizing name with
  | nil => exact ⟨_,labelText_scopeValue (present name mem_cons_self),by simp [join,labelText]⟩
  | cons next rest ih =>
    obtain ⟨tail,valid,joined⟩ := ih next (fun listed mem => present listed (mem_cons_of_mem _ mem))
    refine ⟨_,(labelText_scopeValue (present name mem_cons_self)).append valid ("," ++ next ++ "="),?_⟩
    simp only [join,map_cons,String.intercalate_cons_cons] at joined ⊢
    rw [joined,labelText]
    simp only [String.append_assoc]

lemma scopeKey_of_more (present : presentNames labels = name :: more :: rest) :
    ∃ tail, LabelText tail ∧ scopeKey labels = name ++ "=" ++ (scopeValue labels name ++ "," ++ more ++ "=" ++ tail) := by
  have values : ∀ listed ∈ more :: rest, scopeValue labels listed ≠ "" := fun listed mem =>
    (mem_presentNames.mp (by rw [present]; exact mem_cons_of_mem _ mem)).2
  obtain ⟨tail,valid,joined⟩ := join_labels labels more rest values
  refine ⟨tail,valid,?_⟩
  rw [scopeKey,labelSelectorKey_analysisSelector,present]
  simp only [join,map_cons,String.intercalate_cons_cons] at joined ⊢
  rw [joined,labelText]
  simp only [String.append_assoc]

lemma scopeKey_cons (present : presentNames labels = name :: rest) :
    ∃ tail, LabelText tail ∧ scopeKey labels = name ++ "=" ++ tail := by
  rw [scopeKey,labelSelectorKey_analysisSelector,present]
  exact join_labels labels name rest fun listed mem => (mem_presentNames.mp (by rwa [present])).2

def oneLabel (name value : String) : Labels := (∅ : Labels).insert name value
def twoLabels (name value later more : String) : Labels := ((∅ : Labels).insert name value).insert later more

lemma scopeValue_insert (labels : Labels) (valid : LabelText value) (name other : String) :
    scopeValue (labels.insert name value) other = if other = name then value else scopeValue labels other := by
  by_cases same : other = name
  · subst same
    simp [scopeValue,Labels.get,valid.2]
  · simp [scopeValue,Labels.get,same]

lemma scopeValue_empty (name : String) : scopeValue ∅ name = "" := rfl

section
variable (named : name ∈ scopeNames)
include named

lemma presentNames_oneLabel (valid : LabelText value) : presentNames (oneLabel name value) = [name] := by
  have values := scopeValue_insert ∅ valid name
  simp only [scopeValue_empty] at values
  simp only [scopeNames,mem_cons,not_mem_nil,or_false] at named
  rcases named with rfl | rfl | rfl <;> simp [presentNames,scopeNames,oneLabel,values,valid.1]

lemma presentNames_twoLabels (called : later ∈ scopeNames) (less : name < later)
    (valid : LabelText value) (sound : LabelText more) : presentNames (twoLabels name value later more) = [name,later] := by
  have values := scopeValue_insert ((∅ : Labels).insert name value) sound later
  simp only [scopeValue_insert _ valid,scopeValue_empty] at values
  have valued := valid.1
  have filled := sound.1
  simp only [scopeNames,mem_cons,not_mem_nil,or_false] at named called
  rcases named with rfl | rfl | rfl <;> rcases called with rfl | rfl | rfl <;>
    first
    | exact absurd less (by decide +kernel)
    | simp [presentNames,scopeNames,twoLabels,values,valued,filled]

lemma scopeKey_oneLabel (valid : LabelText value) : scopeKey (oneLabel name value) = name ++ "=" ++ value := by
  rw [scopeKey_of_one (presentNames_oneLabel named valid),oneLabel,scopeValue_insert _ valid,if_pos rfl]

lemma scopeKey_twoLabels (called : later ∈ scopeNames) (less : name < later)
    (valid : LabelText value) (sound : LabelText more) :
    scopeKey (twoLabels name value later more) = name ++ "=" ++ (value ++ "," ++ later ++ "=" ++ more) := by
  rw [scopeKey,labelSelectorKey_analysisSelector,presentNames_twoLabels named called less valid sound]
  simp [join,labelText,twoLabels,scopeValue_insert _ sound,scopeValue_insert _ valid,ne_of_lt less,String.append_assoc]

end

lemma analysisSelector_eq_of_present (same : presentNames other = presentNames labels)
    (agree : ∀ name ∈ presentNames labels, scopeValue other name = scopeValue labels name) :
    analysisSelector other = analysisSelector labels := by
  rw [analysisSelector_eq_iff]
  intro name named
  by_cases mem : name ∈ presentNames labels
  · exact agree name mem
  have blank : scopeValue labels name = "" := by simpa [mem_presentNames,named] using mem
  have bare : scopeValue other name = "" := by
    rw [← same] at mem
    simpa [mem_presentNames,named] using mem
  rw [blank,bare]

lemma equals_not_mem_scopeNames (named : name ∈ scopeNames) : '=' ∉ name.toList := by
  simp only [scopeNames,mem_cons,not_mem_nil,or_false] at named
  rcases named with rfl | rfl | rfl <;> decide

lemma named_value_injective (named : name ∈ scopeNames) (called : other ∈ scopeNames)
    (same : name ++ "=" ++ value = other ++ "=" ++ text) : name = other ∧ value = text :=
  append_separator_injective (equals_not_mem_scopeNames named) (equals_not_mem_scopeNames called) same

/-- The scope has at most one label, and the value of that label cannot be read as its value
followed by a later label. -/
def Unambiguous (labels : Labels) : Prop :=
  (presentNames labels).length ≤ 1 ∧
    ∀ name ∈ presentNames labels, ∀ later ∈ scopeNames, name < later → ∀ value more,
      scopeValue labels name = value ++ "," ++ later ++ "=" ++ more → LabelText value → ¬ LabelText more

variable {rest text key tenant version : String}

lemma ne_longer {name : String} : text ≠ text ++ "," ++ name ++ "=" ++ rest := by
  intro same
  have size := congrArg (fun text => text.toList.length) same
  simp only [String.toList_append,length_append] at size
  have comma : (",").toList.length = 1 := rfl
  omega

lemma Unambiguous.selector_eq (clear : Unambiguous labels) (same : scopeKey other = scopeKey labels) :
    analysisSelector other = analysisSelector labels := by
  obtain ⟨short,unsplit⟩ := clear
  cases present : presentNames labels with
  | nil =>
    rw [scopeKey_of_none present] at same
    cases shown : presentNames other with
    | nil => exact analysisSelector_eq_of_present (shown.trans present.symm) (by simp [present])
    | cons name rest =>
      obtain ⟨tail,-,key⟩ := scopeKey_cons shown
      simp [key] at same
  | cons name rest =>
    obtain rfl : rest = [] := by
      rw [present] at short
      simpa using short
    rw [scopeKey_of_one present] at same
    have named := (mem_presentNames.mp (present ▸ mem_cons_self : name ∈ presentNames labels)).1
    cases shown : presentNames other with
    | nil => simp [scopeKey_of_none shown] at same
    | cons called more =>
      have called' := mem_presentNames.mp (shown ▸ mem_cons_self : called ∈ presentNames other)
      cases more with
      | nil =>
        rw [scopeKey_of_one shown] at same
        obtain ⟨rfl,agree⟩ := named_value_injective called'.1 named same
        exact analysisSelector_eq_of_present (shown.trans present.symm) (by simpa [present] using agree)
      | cons next more =>
        obtain ⟨tail,valid,key⟩ := scopeKey_of_more shown
        rw [key] at same
        obtain ⟨rfl,split⟩ := named_value_injective called'.1 named same
        have later := (mem_presentNames.mp (shown ▸ mem_cons_of_mem _ mem_cons_self : next ∈ presentNames other)).1
        have less : called < next := by
          have sorted := pairwise_presentNames other
          rw [shown] at sorted
          exact rel_of_pairwise_cons sorted mem_cons_self
        exact absurd valid (unsplit called (by simp [present]) next later less _ _ split.symm (labelText_scopeValue called'.2))

lemma selector_eq_iff_unambiguous (labels : Labels) :
    (∀ other, scopeKey other = scopeKey labels → analysisSelector other = analysisSelector labels) ↔ Unambiguous labels := by
  refine ⟨fun alone => ?_,fun clear other same => clear.selector_eq same⟩
  have value_eq (other : Labels) (same : scopeKey other = scopeKey labels) (name : String) (named : name ∈ scopeNames) :
      scopeValue other name = scopeValue labels name := (analysisSelector_eq_iff other labels).mp (alone other same) name named
  have short : (presentNames labels).length ≤ 1 := by
    cases present : presentNames labels with
    | nil => simp
    | cons name rest =>
      have mem := mem_presentNames.mp (present ▸ mem_cons_self : name ∈ presentNames labels)
      cases rest with
      | nil => simp
      | cons next rest =>
        obtain ⟨tail,valid,key⟩ := scopeKey_of_more present
        have text := (labelText_scopeValue mem.2).append valid ("," ++ next ++ "=")
        simp only [← String.append_assoc] at text
        have same := value_eq _ ((scopeKey_oneLabel mem.1 text).trans key.symm) name mem.1
        rw [oneLabel,scopeValue_insert _ text,if_pos rfl] at same
        exact absurd same.symm (ne_longer)
  refine ⟨short,fun name present later called less value more split valid sound => ?_⟩
  obtain ⟨named,-⟩ := mem_presentNames.mp present
  have only : presentNames labels = [name] := by
    obtain ⟨single,shown⟩ := length_eq_one_iff.mp (le_antisymm short (length_pos_of_mem present))
    rw [shown] at present ⊢
    rw [mem_singleton.mp present]
  have key : scopeKey (twoLabels name value later more) = scopeKey labels := by
    rw [scopeKey_twoLabels named called less valid sound,scopeKey_of_one only,split]
  have same := value_eq _ key name named
  rw [twoLabels,scopeValue_insert _ sound,if_neg (ne_of_lt less),scopeValue_insert _ valid,if_pos rfl,split] at same
  exact ne_longer same

def identityParts (inc : Incident) : List String :=
  let own := [inc.tenantId,inc.correlationKey,inc.analysisVersion]
  if trim (join own ":") ':' = "" then
    [inc.labels.get "tenant_id",inc.labels.get "correlation_key",inc.labels.get "analysis_version"]
  else own

def Hashed (inc : Incident) : Prop := trim (join (identityParts inc) ":") ':' ≠ ""

lemma incidentDocumentID_hashed {digest : String → String} (hashed : Hashed inc) :
    incidentDocumentID digest inc = "incident:" ++ digest (join (identityParts inc) ":") := by
  rw [Hashed] at hashed
  simp only [incidentDocumentID,identityParts] at hashed ⊢
  split at hashed
  · rename_i blank
    rw [if_pos blank,if_pos hashed,if_pos blank]
  · rename_i own
    rw [if_neg own,if_pos own,if_neg own]

lemma identityParts_eq : ∃ tenant key version, identityParts inc = [tenant,key,version] := by
  simp only [identityParts]
  split
  · exact ⟨_,_,_,rfl⟩
  · exact ⟨_,_,_,rfl⟩

lemma join_three : join [tenant,key,version] ":" = tenant ++ ":" ++ (key ++ ":" ++ version) := by
  simp [join,String.append_assoc]

lemma colons_join : (join [tenant,key,version] ":").toList.count ':' =
    tenant.toList.count ':' + key.toList.count ':' + version.toList.count ':' + 2 := by
  have colon : (":").toList = [':'] := rfl
  simp only [join_three,String.toList_append,colon,count_append,count_singleton_self]
  omega

lemma parts_eq_of_join (plain : ∀ part ∈ [tenant,key,version], ':' ∉ part.toList)
    (same : join [tenant',key',version'] ":" = join [tenant,key,version] ":") : [tenant',key',version'] = [tenant,key,version] := by
  simp only [forall_mem_cons] at plain
  obtain ⟨first,second,third,-⟩ := plain
  have count := congrArg (fun text => text.toList.count ':') same
  simp only [colons_join,count_eq_zero_of_not_mem first,count_eq_zero_of_not_mem second,
    count_eq_zero_of_not_mem third] at count
  have first' : ':' ∉ tenant'.toList := count_eq_zero.mp (by omega)
  have second' : ':' ∉ key'.toList := count_eq_zero.mp (by omega)
  rw [join_three,join_three] at same
  obtain ⟨rfl,rest⟩ := append_separator_injective first' first same
  obtain ⟨rfl,rfl⟩ := append_separator_injective second' second rest
  rfl

lemma exists_split_of_mem (mem : ':' ∈ text.toList) : ∃ front rest : String, text = front ++ ":" ++ rest := by
  obtain ⟨front,rest,split⟩ := append_of_mem mem
  refine ⟨String.ofList front,String.ofList rest,String.toList_inj.mp ?_⟩
  simp [split]

lemma append_ne_self : text ++ ":" ++ rest ≠ text := by
  intro same
  have size := congrArg (fun text => text.toList.length) same
  simp only [String.toList_append,length_append] at size
  have colon : (":").toList.length = 1 := rfl
  omega

lemma exists_other_parts (split : ∃ part ∈ [tenant,key,version], ':' ∈ part.toList) :
    ∃ tenant' key' version', join [tenant',key',version'] ":" = join [tenant,key,version] ":" ∧
      [tenant',key',version'] ≠ [tenant,key,version] := by
  obtain ⟨part,mem,colon⟩ := split
  obtain ⟨front,rest,rfl⟩ := exists_split_of_mem colon
  simp only [mem_cons,not_mem_nil,or_false] at mem
  rcases mem with rfl | rfl | rfl
  · refine ⟨front,rest ++ ":" ++ key,version,by simp [join_three,String.append_assoc],fun same => ?_⟩
    exact append_ne_self (List.cons.inj same).1.symm
  · refine ⟨tenant,front,rest ++ ":" ++ version,by simp [join_three,String.append_assoc],fun same => ?_⟩
    exact append_ne_self (List.cons.inj (List.cons.inj same).2).1.symm
  · refine ⟨tenant ++ ":" ++ key,front,rest,by simp [join_three,String.append_assoc],fun same => ?_⟩
    exact append_ne_self (List.cons.inj same).1

/-- The text of tenant and scope key has the form `tenant:label=value` in one way only. -/
def OneTenant (tenant key : String) : Prop :=
  ∀ front, ∀ name ∈ scopeNames, ∀ rest, tenant ++ ":" ++ key = front ++ ":" ++ (name ++ "=" ++ rest) →
    LabelText front → LabelText rest → front = tenant

lemma labelText_tenant {agent : AgentIdentity} : LabelText agent.normalized.tenantID := by
  simp only [AgentIdentity.normalized]
  split
  · exact ⟨by decide,by decide +kernel⟩
  · rename_i present
    exact ⟨present,trimSpace_trimSpace _⟩

lemma tenant_of_labelText (valid : LabelText tenant) : ({ tenantID := tenant } : AgentIdentity).normalized.tenantID = tenant := by
  simp only [AgentIdentity.normalized,valid.2]
  exact if_neg valid.1

section
variable {digest : String → String} (injective : Function.Injective digest)
include injective

lemma incidentDocumentID_eq_iff (hashed : Hashed inc) (hashed' : Hashed other) :
    incidentDocumentID digest other = incidentDocumentID digest inc ↔
      join (identityParts other) ":" = join (identityParts inc) ":" := by
  rw [incidentDocumentID_hashed hashed,incidentDocumentID_hashed hashed',String.append_right_inj,injective.eq_iff]

lemma parts_eq_iff_plain (hashed : Hashed inc) :
    (∀ other, Hashed other → incidentDocumentID digest other = incidentDocumentID digest inc → identityParts other = identityParts inc) ↔
      ∀ part ∈ identityParts inc, ':' ∉ part.toList := by
  obtain ⟨tenant,key,version,parts⟩ := identityParts_eq
  constructor
  · intro alone
    by_contra colon
    push Not at colon
    rw [parts] at colon
    obtain ⟨tenant',key',version',same,differs⟩ := exists_other_parts colon
    let other : Incident := { tenantId := tenant', correlationKey := key', analysisVersion := version' }
    have solid : trim (join [tenant',key',version'] ":") ':' ≠ "" := by
      rw [same,← parts]
      exact hashed
    have own : identityParts other = [tenant',key',version'] := by
      unfold identityParts
      exact if_neg solid
    have hashed' : Hashed other := by rwa [Hashed,own]
    have equal := alone other hashed' ((incidentDocumentID_eq_iff injective hashed hashed').mpr (by rw [own,parts,same]))
    rw [own,parts] at equal
    exact differs equal
  · intro plain other hashed' same
    obtain ⟨tenant',key',version',parts'⟩ := identityParts_eq
    rw [incidentDocumentID_eq_iff injective hashed hashed',parts,parts'] at same
    rw [parts] at plain ⊢
    rw [parts',parts_eq_of_join plain same]

variable {events : List CanonicalEvent} {times : TimeText}

lemma stamped_eq_iff {scope other : TouchedScope} {more : List CanonicalEvent} {inc next : Incident} :
    incidentDocumentID digest (stampIncident times other more next) = incidentDocumentID digest (stampIncident times scope events inc) ↔
      other.agent.normalized.tenantID ++ ":" ++ labelSelectorKey other.labels =
        scope.agent.normalized.tenantID ++ ":" ++ labelSelectorKey scope.labels := by
  rw [incidentDocumentID_stamped,incidentDocumentID_stamped,String.append_right_inj,injective.eq_iff,← String.append_assoc,
    ← String.append_assoc,String.append_left_inj]

lemma incident_scope_iff {agent : AgentIdentity} (scope : analysisSelector labels ≠ ∅) :
    (∀ agent' labels' more next, analysisSelector labels' ≠ ∅ →
      incidentDocumentID digest (stampIncident times ⟨analysisSelector labels',agent'⟩ more next) =
        incidentDocumentID digest (stampIncident times ⟨analysisSelector labels,agent⟩ events inc) →
      agent'.normalized.tenantID = agent.normalized.tenantID ∧ analysisSelector labels' = analysisSelector labels) ↔
      Unambiguous labels ∧ OneTenant agent.normalized.tenantID (scopeKey labels) := by
  simp only [stamped_eq_iff injective]
  constructor
  · intro alone
    rw [← selector_eq_iff_unambiguous]
    constructor
    · intro other same
      by_cases empty : analysisSelector other = ∅
      · -- the empty scope has the empty key, and no other scope has it
        rw [analysisSelector_eq_empty_iff_presentNames] at empty
        cases present : presentNames labels with
        | nil => exact absurd ((analysisSelector_eq_empty_iff_presentNames labels).mpr present) scope
        | cons name rest =>
          obtain ⟨tail,-,key⟩ := scopeKey_cons present
          simp [scopeKey_of_none empty,key] at same
      · exact (alone agent other events inc empty (congrArg (agent.normalized.tenantID ++ ":" ++ ·) same)).2
    · intro front name named rest split valid sound
      have key := scopeKey_oneLabel named sound
      have occupied : analysisSelector (oneLabel name rest) ≠ ∅ := by
        rw [ne_eq,analysisSelector_eq_empty_iff_presentNames,presentNames_oneLabel named sound]
        simp
      have same := alone { tenantID := front } (oneLabel name rest) events inc occupied (by
        rw [tenant_of_labelText valid]
        exact (congrArg (front ++ ":" ++ ·) key).trans split.symm)
      rw [← same.1,tenant_of_labelText valid]
  · rintro ⟨clear,one⟩ agent' labels' more next occupied same
    cases present : presentNames labels' with
    | nil => exact absurd ((analysisSelector_eq_empty_iff_presentNames labels').mpr present) occupied
    | cons name rest =>
      obtain ⟨tail,valid,key⟩ := scopeKey_cons present
      have named := (mem_presentNames.mp (present ▸ mem_cons_self : name ∈ presentNames labels')).1
      have tenant : agent'.normalized.tenantID = agent.normalized.tenantID :=
        one _ name named tail (same.symm.trans (congrArg (agent'.normalized.tenantID ++ ":" ++ ·) key)) (labelText_tenant) valid
      rw [tenant,String.append_right_inj] at same
      exact ⟨tenant,clear.selector_eq same⟩

/-- Scope keys, the identities of incidents and the incidents of the worker's scopes: which of them
no other shares. -/
theorem scope_incident_keys_iff (times : TimeText) :
    (∀ labels, (∀ other, scopeKey other = scopeKey labels → analysisSelector other = analysisSelector labels) ↔
      Unambiguous labels) ∧
    (∀ inc, Hashed inc →
      ((∀ other, Hashed other → incidentDocumentID digest other = incidentDocumentID digest inc →
        identityParts other = identityParts inc) ↔
        ∀ part ∈ identityParts inc, ':' ∉ part.toList)) ∧ ∀ labels agent events inc, analysisSelector labels ≠ ∅ →
      ((∀ agent' labels' more next, analysisSelector labels' ≠ ∅ →
        incidentDocumentID digest (stampIncident times ⟨analysisSelector labels',agent'⟩ more next) =
          incidentDocumentID digest (stampIncident times ⟨analysisSelector labels,agent⟩ events inc) →
        agent'.normalized.tenantID = agent.normalized.tenantID ∧ analysisSelector labels' = analysisSelector labels) ↔
        Unambiguous labels ∧ OneTenant agent.normalized.tenantID (scopeKey labels)) :=
  ⟨selector_eq_iff_unambiguous,fun _ hashed => parts_eq_iff_plain injective hashed,
    fun _ _ _ _ scope => incident_scope_iff injective scope⟩

end

def redIncident : Incident := { tenantId := "red", correlationKey := "workload=w", analysisVersion := "incident.v1" }

/-- With one plain label and a plain tenant no other scope or incident has the key. -/
theorem plain_keys_unshared :
    (∀ other, scopeKey other = scopeKey (oneLabel "workload" "w") →
      analysisSelector other = analysisSelector (oneLabel "workload" "w")) ∧
    ∀ other, Hashed other → incidentDocumentID id other = incidentDocumentID id redIncident →
      identityParts other = identityParts redIncident := by
  have keys := @scope_incident_keys_iff id Function.injective_id ⟨fun _ => none,fun _ => ""⟩
  refine ⟨(keys.1 _).mpr ?_,(keys.2.1 redIncident (by simp only [Hashed]; decide +kernel)).mpr (by decide +kernel)⟩
  have present : presentNames (oneLabel "workload" "w") = ["workload"] := by decide +kernel
  refine ⟨by simp [present],fun name mem later called less => ?_⟩
  rw [present,mem_singleton] at mem
  subst mem
  simp only [scopeNames,mem_cons,not_mem_nil,or_false] at called
  rcases called with rfl | rfl | rfl <;> exact absurd less (by decide +kernel)

/-- One label with a comma in its value and two labels: different scopes with one key, and one
document for the incidents of both. -/
theorem two_scopes_one_incident :
    analysisSelector (oneLabel "case_type" "a,scenario=b") ≠ analysisSelector (twoLabels "case_type" "a" "scenario" "b") ∧
    scopeKey (oneLabel "case_type" "a,scenario=b") = scopeKey (twoLabels "case_type" "a" "scenario" "b") ∧
    (incidentDocuments id (stampIncident ⟨fun _ => none,fun _ => ""⟩
      ⟨analysisSelector (oneLabel "case_type" "a,scenario=b"),{ tenantID := "red" }⟩ [] { id := "one" })).map (·.id) =
      (incidentDocuments id (stampIncident ⟨fun _ => none,fun _ => ""⟩
        ⟨analysisSelector (twoLabels "case_type" "a" "scenario" "b"),{ tenantID := "red" }⟩ [] { id := "two" })).map (·.id) := by
  refine ⟨?_,?_,?_⟩
  · decide +kernel
  · decide +kernel
  · decide +kernel

end SysArmor.Ingest
