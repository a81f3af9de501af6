import SysArmor.IngestWorker

/-! The cloud analysis of one scope: the endpoint signals are viewed by name, two rules derive cloud
signals from them, and a decision is made whether they converge to an incident. The scores of an
incident are left out. -/
namespace SysArmor.Analytics
open GoText Proto

section
open Digits
open Manager (sortedKeys)
open Ingest (Analysis)

/-! Entities. -/

def ensurePrefix (key start : String) : String := if key = "" || hasPrefix key start then key else start ++ key

def taggedKinds : List String := ["file","socket","process","container","user","token"]

def normalizeEntity (go : Stdlib) (ref : EntityRef) : EntityRef :=
  let kind := trimSpace (toLower go ref.kind)
  let key := trimSpace ref.key
  { kind, key := if kind ∈ taggedKinds then ensurePrefix key (kind ++ ":") else key, role := trimSpace (toLower go ref.role) }

def entityText (ref : EntityRef) : String := join [ref.kind,ref.key,ref.role] "\x00"

/-- `entity.Unique`: the normalized references with a kind and a key, each once. -/
def uniqueEntities (go : Stdlib) (seen : List String) : List EntityRef → List EntityRef
  | [] => []
  | ref :: refs =>
    let entity := normalizeEntity go ref
    if entity.kind = "" || entity.key = "" || entityText entity ∈ seen then uniqueEntities go seen refs
    else entity :: uniqueEntities go (entityText entity :: seen) refs

/-! The policy and the view. -/

structure ConvergeParams where
  mode : String := ""
  additiveRiskThreshold : UInt32 := 0
  crossLineage : Bool := false
  deriving DecidableEq

structure DetectionPolicy where
  (endpointRules cloudRules : List String := [])
  converge : Option ConvergeParams := none
  deriving DecidableEq

def ruleEnabled (rules : DetectionPolicy → List String) (policy : Option DetectionPolicy) (name : String) : Bool :=
  match policy with
  | none => true
  | some policy => (rules policy).isEmpty || (rules policy).contains name

def endpointRuleEnabled : Option DetectionPolicy → String → Bool := ruleEnabled (·.endpointRules)
def cloudRuleEnabled : Option DetectionPolicy → String → Bool := ruleEnabled (·.cloudRules)

def keepEqual (common labels : Labels) : Labels :=
  (sortedKeys common).foldl (fun kept key => if labels.get key ≠ common.get key then kept.erase key else kept) common

/-- One round of `commonLabels`; nothing was seen before the first map with labels. -/
def mergeLabels (common : Option Labels) (labels : Labels) : Option Labels :=
  if labels = ∅ then common
  else match common with
    | none => some labels
    | some common => some (keepEqual common labels)

def commonLabels (events : List CanonicalEvent) (signals : List Signal) : Labels :=
  ((events.map (·.labels) ++ signals.map (·.labels)).foldl mergeLabels none).getD ∅

structure View where
  signals : List Signal
  labels : Labels

def build (events : List CanonicalEvent) (signals : List Signal) (policy : Option DetectionPolicy) : View where
  signals := signals.filter fun sig => endpointRuleEnabled policy sig.name
  labels := commonLabels events signals

namespace View

def byName (view : View) (name : String) : List Signal := view.signals.filter (·.name = name)

def has (view : View) (name : String) : Bool := !(view.byName name).isEmpty

def hasTerminal (view : View) (name : String) : Bool := (view.byName name).any (·.terminal)

def collectEntities (go : Stdlib) (view : View) (names : List String) : List EntityRef :=
  uniqueEntities go [] (names.flatMap fun name => (view.byName name).flatMap (·.entities))

end View

/-! The convergence. -/

structure Decision where
  incident : Bool := false
  method : String := ""
  controls : List String := []
  deriving DecidableEq

def additiveRisk (view : View) : UInt32 := (view.signals.map (·.baseRisk)).sum

def convergeDecision (view : View) (cloud : List Signal) (policy : Option DetectionPolicy) : Decision :=
  let params := (policy.bind (·.converge)).getD {}
  if params.mode = "additive_threshold" then
    let threshold := if params.additiveRiskThreshold = 0 then 100 else params.additiveRiskThreshold
    { incident := threshold ≤ additiveRisk view, method := "additive_threshold", controls := ["additive_threshold"] }
  else if view.hasTerminal "reverse_shell_pattern" then
    { incident := true, method := "rarity+causal-topk", controls := ["terminal_reverse_shell"] }
  else if cloud.any fun sig => sig.name = "dropped_payload_executed_and_connects" && sig.crossLineage then
    { incident := true, method := "rarity+causal-topk", controls := ["cross_lineage_payload_connect"] }
  else { method := "rarity+causal-topk" }

/-! The evidence graph of an incident. -/

def addNode (graph : EvidenceSubgraph) (ref : EntityRef) : EvidenceSubgraph :=
  if ref.key = "" || graph.nodes.any (·.id = ref.key) then graph
  else { graph with nodes := graph.nodes ++ [{ id := ref.key, kind := ref.kind, label := ref.key, entities := [ref] }] }

def addEdge (graph : EvidenceSubgraph) («from» «to» kind : String) : EvidenceSubgraph :=
  let id := kind ++ ":" ++ «from» ++ "->" ++ «to»
  if «from» = "" || «to» = "" || «from» = «to» || graph.edges.any (·.id = id) then graph
  else { graph with edges := graph.edges ++ [{ id, «from», «to», kind }] }

def subjectEntity (refs : List EntityRef) : Option EntityRef :=
  (refs.find? (·.role = "subject")).or (refs.find? (·.kind = "process"))

def edgeKind (sig : Signal) (target : EntityRef) : String :=
  if target.kind = "socket" then "connect"
  else if target.kind = "file" then if sig.name = "payload_dropped" then "write" else "load"
  else if target.kind = "process" then "exec"
  else "relates_to"

def addSignalEdges (graph : EvidenceSubgraph) (sig : Signal) (refs : List EntityRef) : EvidenceSubgraph :=
  match subjectEntity refs with
  | some subject => (refs.filter (·.key ≠ subject.key)).foldl
      (fun graph ref => addEdge graph subject.key ref.key (edgeKind sig ref)) graph
  | none => (refs.zip refs.tail).foldl (fun graph pair => addEdge graph pair.1.key pair.2.key (edgeKind sig pair.2)) graph

def evidenceFromSignals (go : Stdlib) (signals : List Signal) : EvidenceSubgraph :=
  signals.foldl (fun graph sig =>
    let refs := uniqueEntities go [] sig.entities
    let graph := refs.foldl addNode graph
    if refs.length < 2 then graph else addSignalEdges graph sig refs) {}

/-! The incident builder and the engine. -/

def incidentLabels : List Signal → Labels
  | [] => ∅
  | first :: rest => rest.foldl (fun common sig => keepEqual common sig.labels) first.labels

def terminalEntities (signals : List Signal) : List String :=
  (signals.filter (·.terminal)).flatMap fun sig => (sig.entities.filter (·.kind = "process")).map (·.key)

structure Engine where
  (nextSignalID nextIncidentID : UInt64 := 0)

def buildIncident (go : Stdlib) (number : UInt64) (signals : List Signal) (decision : Decision) : Incident where
  id := "inc-" ++ padded 20 number.toNat
  labels := incidentLabels signals
  summary := "SysArmor detected a causal attack chain"
  severity := 80
  lineageIds := distinct [] ((signals.map (·.lineageId)).filter (· ≠ ""))
  terminals := terminalEntities signals
  evidence := some (evidenceFromSignals go signals)
  converge := some { method := decision.method, controls := decision.controls }
  contributingSignals := signals

def cloudSignal (go : Stdlib) (number : UInt64) (name : String) (labels : Labels) (risk : UInt32) (crossLineage : Bool)
    (entities : List EntityRef) : Signal where
  id := "cloud-sig-" ++ padded 20 number.toNat
  name
  «where» := .cloud
  baseRisk := risk
  entities := uniqueEntities go [] entities
  labels
  crossLineage

def crossLineageEnabled (policy : Option DetectionPolicy) : Bool :=
  match policy.bind (·.converge) with
  | none => true
  | some params => params.crossLineage

def droppedPayload : String := "dropped_payload_executed_and_connects"
def webShellChain : String := "web_shell_chain"

def View.droppedFires (view : View) (policy : Option DetectionPolicy) : Bool :=
  cloudRuleEnabled policy droppedPayload && view.has "payload_dropped" &&
    (view.hasTerminal "reverse_shell_pattern" || (crossLineageEnabled policy && view.has "suspicious_exec_connect"))

def View.webShellFires (view : View) (policy : Option DetectionPolicy) : Bool :=
  cloudRuleEnabled policy webShellChain && view.has "web_runtime_spawns_shell" && view.hasTerminal "reverse_shell_pattern"

def View.droppedEntities (go : Stdlib) (view : View) : List EntityRef :=
  view.collectEntities go ["payload_dropped","reverse_shell_pattern","suspicious_exec_connect"]

def View.webShellEntities (go : Stdlib) (view : View) : List EntityRef :=
  view.collectEntities go ["web_runtime_spawns_shell","reverse_shell_pattern"]

def cloudSignals (go : Stdlib) (counter : UInt64) (view : View) (policy : Option DetectionPolicy) : UInt64 × List Signal :=
  let (counter,dropped) := if view.droppedFires policy then
      (counter + 1,[cloudSignal go (counter + 1) droppedPayload view.labels 80
        (view.has "suspicious_exec_connect" && !view.hasTerminal "reverse_shell_pattern") (view.droppedEntities go)])
    else (counter,[])
  if view.webShellFires policy then
    (counter + 1,dropped ++ [cloudSignal go (counter + 1) webShellChain view.labels 85 false (view.webShellEntities go)])
  else (counter,dropped)

def analyzeWithPolicy (go : Stdlib) (e : Engine) (events : List CanonicalEvent) (signals : List Signal)
    (policy : Option DetectionPolicy) : Engine × Analysis :=
  let view := build events signals policy
  let (nextSignalID,cloud) := cloudSignals go e.nextSignalID view policy
  let decision := convergeDecision view cloud policy
  if decision.incident then
    ({ nextSignalID, nextIncidentID := e.nextIncidentID + 1 },
      { cloudSignals := cloud, incidents := [buildIncident go (e.nextIncidentID + 1) (signals ++ cloud) decision] })
  else ({ e with nextSignalID },{ cloudSignals := cloud })
end

/-! The decision by added risk. The risks are added in 32 bits, so a larger set of signals can stay
below a threshold that a smaller one reaches. -/
open List

section
open Digits

def riskTotal (signals : List Signal) : Nat := (signals.map (·.baseRisk.toNat)).sum

lemma additiveRisk_toNat (signals : List Signal) (labels : Labels) :
    (additiveRisk ⟨signals,labels⟩).toNat = riskTotal signals % 2 ^ 32 := by
  induction signals with
  | nil => rfl
  | cons sig rest ih =>
    simp only [additiveRisk,riskTotal,List.map_cons,List.sum_cons,UInt32.toNat_add] at ih ⊢
    omega

lemma riskTotal_le {small large : List Signal} (within : small <+~ large) : riskTotal small ≤ riskTotal large := by
  obtain ⟨middle,same,part⟩ := within
  obtain ⟨more,split⟩ := part.exists_perm_append
  have first := (same.map (·.baseRisk.toNat)).sum_eq
  have second := (split.map (·.baseRisk.toNat)).sum_eq
  rw [map_append,sum_append] at second
  simp only [riskTotal]
  omega

/-- Within a pool of signals, a larger set never takes an incident back, for every threshold, exactly
if the risks of the whole pool add up without a carry out of 32 bits. -/
theorem additive_monotone_iff (pool cloud : List Signal) (labels : Labels) :
    (∀ policy params, policy.converge = some params → params.mode = "additive_threshold" →
      ∀ small large, small <+~ large → large <+~ pool → (convergeDecision ⟨small,labels⟩ cloud (some policy)).incident →
        (convergeDecision ⟨large,labels⟩ cloud (some policy)).incident) ↔ riskTotal pool < 2 ^ 32 := by
  constructor
  · intro monotone
    induction pool with
    | nil => decide
    | cons sig rest ih =>
      have fits := ih fun policy params given additive small large inner within =>
        monotone policy params given additive small large inner (within.trans (List.sublist_cons_self sig rest).subperm)
      -- the threshold that the rest just reaches
      have kept := monotone { converge := some ⟨"additive_threshold",additiveRisk ⟨rest,labels⟩,false⟩ } _ rfl rfl rest
        (sig :: rest) (List.sublist_cons_self sig rest).subperm (.refl _)
      have total : riskTotal (sig :: rest) = sig.baseRisk.toNat + riskTotal rest := by simp [riskTotal]
      have small := sig.baseRisk.toNat_lt
      have old := additiveRisk_toNat rest labels
      have after := additiveRisk_toNat (sig :: rest) labels
      by_cases idle : additiveRisk ⟨rest,labels⟩ = 0
      · rw [idle] at old
        simp only [UInt32.toNat_zero] at old
        omega
      simp only [convergeDecision,Option.bind_some,Option.getD_some,if_true,idle,if_false,decide_eq_true_eq,le_refl,
        UInt32.le_iff_toNat_le,forall_const] at kept
      omega
  · intro fits policy params given additive small large inner within reached
    have first := riskTotal_le inner
    have second := riskTotal_le within
    simp only [convergeDecision,Option.bind_some,given,Option.getD_some,additive,if_true,decide_eq_true_eq,
      UInt32.le_iff_toNat_le,additiveRisk_toNat] at reached ⊢
    omega

def additivePolicy : Option DetectionPolicy := some { converge := some { mode := "additive_threshold" } }
def halfRisk : Signal := { baseRisk := 2 ^ 31 }

theorem additive_carry_lost : (convergeDecision ⟨[halfRisk],{}⟩ [] additivePolicy).incident = true ∧
    (convergeDecision ⟨[halfRisk,halfRisk],{}⟩ [] additivePolicy).incident = false := by decide
end

/-! The evidence graph that the signals of an incident draw. An edge is found again by a text made
of its kind and its ends. -/

abbrev Triple := String × String × String
def edgeText (t : Triple) : String := t.1 ++ ":" ++ t.2.1 ++ "->" ++ t.2.2
def Triple.drawable (t : Triple) : Bool := t.2.1 ≠ "" && t.2.2 ≠ "" && t.2.1 ≠ t.2.2

def namedTriples (sig : Signal) (refs : List EntityRef) : List Triple :=
  match subjectEntity refs with
  | some subject => (refs.filter (·.key ≠ subject.key)).map fun ref => (edgeKind sig ref,subject.key,ref.key)
  | none => (refs.zip refs.tail).map fun pair => (edgeKind sig pair.2,pair.1.key,pair.2.key)

def namedEntities (go : Stdlib) (refs : List EntityRef) : List EntityRef :=
  (refs.map (normalizeEntity go)).filter fun entity => entity.kind ≠ "" && entity.key ≠ ""

/-- The entities of a signal in their order, each once. Unlike `uniqueEntities` this compares the
entities themselves and not their texts. -/
def distinctEntities (seen : List EntityRef) : List EntityRef → List EntityRef
  | [] => []
  | entity :: rest =>
    if entity ∈ seen then distinctEntities seen rest else entity :: distinctEntities (entity :: seen) rest

/-- The triples that one signal implies: of its subject with every other entity, or of every two
neighbours, between two different keys. -/
def impliedTriples (go : Stdlib) (sig : Signal) : List Triple :=
  let refs := distinctEntities [] (namedEntities go sig.entities)
  if refs.length < 2 then [] else (namedTriples sig refs).filter (·.drawable)

/-- No two different entities have the same text. -/
def TextsApart (entities : List EntityRef) : Prop :=
  ∀ a ∈ entities, ∀ b ∈ entities, entityText a = entityText b → a = b

instance (entities : List EntityRef) : Decidable (TextsApart entities) := inferInstanceAs (Decidable (∀ _ ∈ _, _))

lemma uniqueEntities_eq (go : Stdlib) (seen : List EntityRef) {refs : List EntityRef}
    (apart : TextsApart (seen ++ namedEntities go refs)) :
    uniqueEntities go (seen.map entityText) refs = distinctEntities seen (namedEntities go refs) := by
  induction refs generalizing seen with
  | nil => rfl
  | cons ref refs ih =>
    simp only [uniqueEntities]
    by_cases counts : (normalizeEntity go ref).kind ≠ "" ∧ (normalizeEntity go ref).key ≠ ""
    · have listed : namedEntities go (ref :: refs) = normalizeEntity go ref :: namedEntities go refs := by
        simp [namedEntities,counts]
      rw [listed] at apart ⊢
      generalize normalizeEntity go ref = entity at *
      have known : entityText entity ∈ seen.map entityText ↔ entity ∈ seen := by
        refine ⟨fun mem => ?_,mem_map_of_mem⟩
        obtain ⟨other,there,same⟩ := mem_map.mp mem
        exact apart other (by simp [there]) entity (by simp) same ▸ there
      have both : (entity.kind = "" || entity.key = "" || entityText entity ∈ seen.map entityText) = decide (entity ∈ seen) := by
        simp [counts,known]
      rw [both,distinctEntities]
      by_cases here : entity ∈ seen
      · simp only [here,decide_true,if_true]
        exact ih seen fun a mem b among => apart a (by grind) b (by grind)
      · simp only [here,decide_false,Bool.false_eq_true,if_false]
        rw [← ih (entity :: seen) fun a mem b among => apart a (by grind) b (by grind)]
        rfl
    · have skipped : namedEntities go (ref :: refs) = namedEntities go refs := by
        rw [namedEntities,map_cons,filter_cons_of_neg (by simpa using counts),namedEntities]
      rw [skipped] at apart ⊢
      have blank : ((normalizeEntity go ref).kind = "" || (normalizeEntity go ref).key = "") = true := by grind
      rw [blank,Bool.true_or,if_pos rfl]
      exact ih seen apart

def Joined (graph : EvidenceSubgraph) (t : Triple) : Prop :=
  t.2.1 ∈ graph.nodes.map (·.id) ∧ t.2.2 ∈ graph.nodes.map (·.id)

variable {implied : List Triple} {graph : EvidenceSubgraph}

structure Drawn (implied : List Triple) (graph : EvidenceSubgraph) : Prop where
  drawn : ∀ e ∈ graph.edges, (e.kind,e.from,e.to) ∈ implied ∧ e.id = edgeText (e.kind,e.from,e.to)
  once : (graph.edges.map (·.id)).Nodup
  covered : ∀ t ∈ implied, edgeText t ∈ graph.edges.map (·.id)
  ends : ∀ t ∈ implied, Joined graph t

lemma Drawn.nodes (built : Drawn implied graph) (refs : List EntityRef) : Drawn implied (refs.foldl addNode graph) := by
  induction refs generalizing graph with
  | nil => exact built
  | cons ref refs ih =>
    refine ih ?_
    obtain ⟨drawn,once,covered,ends⟩ := built
    simp only [addNode]
    split <;> constructor <;> grind [Joined]

lemma mem_nodes {key : String} {refs : List EntityRef} (mem : key ∈ graph.nodes.map (·.id) ∨ key ≠ "" ∧ key ∈ refs.map (·.key)) :
    key ∈ (refs.foldl addNode graph).nodes.map (·.id) := by
  induction refs generalizing graph with
  | nil => simpa using mem
  | cons ref refs ih =>
    refine ih ?_
    simp only [addNode]
    split <;> grind

lemma Drawn.edge (built : Drawn implied graph) {t : Triple}
    (ends : t.drawable → Joined graph t) : Drawn (implied ++ [t].filter (·.drawable)) (addEdge graph t.2.1 t.2.2 t.1) := by
  have listed : (t.2.1 = "" || t.2.2 = "" || t.2.1 = t.2.2 || graph.edges.any (·.id = edgeText t)) =
      (!t.drawable || graph.edges.any (·.id = edgeText t)) := by simp [Triple.drawable]
  simp only [addEdge]
  rw [show t.1 ++ ":" ++ t.2.1 ++ "->" ++ t.2.2 = edgeText t from rfl,listed]
  cases able : t.drawable with
  | false => simpa [able] using built
  | true =>
    rw [filter_cons_of_pos able]
    have drawn : ∀ e ∈ graph.edges, (e.kind,e.from,e.to) ∈ implied ++ [t] ∧ e.id = edgeText (e.kind,e.from,e.to) :=
      fun e mem => (built.drawn e mem).imp_left (mem_append_left _)
    have joined := forall_mem_append.mpr ⟨built.ends,forall_mem_singleton.mpr (ends able)⟩
    split
    · rename_i there
      have there : edgeText t ∈ graph.edges.map (·.id) := by simpa using there
      exact ⟨drawn,built.once,forall_mem_append.mpr ⟨built.covered,forall_mem_singleton.mpr there⟩,joined⟩
    · rename_i absent
      have fresh : edgeText t ∉ graph.edges.map (·.id) := by simpa using absent
      refine ⟨forall_mem_append.mpr ⟨drawn,by simp⟩,?_,?_,joined⟩ <;> rw [map_append]
      · exact built.once.append (nodup_singleton _) (disjoint_singleton.mpr fresh)
      · exact forall_mem_append.mpr ⟨fun s mem => mem_append_left _ (built.covered s mem),by simp⟩

lemma Drawn.edges (built : Drawn implied graph) {named : List Triple}
    (ends : ∀ t ∈ named, t.drawable → Joined graph t) :
    Drawn (implied ++ named.filter (·.drawable)) (named.foldl (fun graph t => addEdge graph t.2.1 t.2.2 t.1) graph) := by
  induction named generalizing implied graph with
  | nil => simpa using built
  | cons t named ih =>
    have nodes : (addEdge graph t.2.1 t.2.2 t.1).nodes = graph.nodes := by
      simp only [addEdge]
      split <;> rfl
    rw [← singleton_append,filter_append,← append_assoc]
    exact ih (built.edge (ends t mem_cons_self)) fun s mem able => by
      simpa only [Joined,nodes] using ends s (mem_cons_of_mem _ mem) able

lemma subjectEntity_mem {refs : List EntityRef} {subject : EntityRef} (found : subjectEntity refs = some subject) :
    subject ∈ refs := by
  rcases Option.or_eq_some_iff.mp found with found | ⟨-,found⟩ <;> exact mem_of_find?_eq_some found

lemma namedTriples_ends (sig : Signal) (refs : List EntityRef) : ∀ t ∈ namedTriples sig refs,
    t.2.1 ∈ refs.map (·.key) ∧ t.2.2 ∈ refs.map (·.key) := by
  intro t mem
  simp only [namedTriples] at mem
  split at mem
  · obtain ⟨ref,here,rfl⟩ := mem_map.mp mem
    exact ⟨mem_map_of_mem (subjectEntity_mem ‹_›),mem_map_of_mem (mem_filter.mp here).1⟩
  · obtain ⟨pair,here,rfl⟩ := mem_map.mp mem
    exact ⟨mem_map_of_mem (of_mem_zip here).1,mem_map_of_mem (mem_of_mem_tail (of_mem_zip here).2)⟩

lemma Drawn.signal (go : Stdlib) (built : Drawn implied graph) (sig : Signal)
    (apart : TextsApart (namedEntities go sig.entities)) : Drawn (implied ++ impliedTriples go sig) (
      let refs := uniqueEntities go [] sig.entities
      let graph := refs.foldl addNode graph
      if refs.length < 2 then graph else addSignalEdges graph sig refs) := by
  have kept := built.nodes (uniqueEntities go [] sig.entities)
  have same : uniqueEntities go [] sig.entities = distinctEntities [] (namedEntities go sig.entities) :=
    uniqueEntities_eq go [] apart
  simp only [impliedTriples,← same]
  split
  · simpa using kept
  · have step := kept.edges fun t (mem : t ∈ namedTriples sig (uniqueEntities go [] sig.entities)) able => by
      have ends := namedTriples_ends sig _ t mem
      simp only [Triple.drawable,Bool.and_eq_true,decide_eq_true_eq] at able
      exact ⟨mem_nodes (.inr ⟨able.1.1,ends.1⟩),mem_nodes (.inr ⟨able.1.2,ends.2⟩)⟩
    simp only [namedTriples,addSignalEdges] at step ⊢
    split at step <;> simp_all [foldl_map]

end SysArmor.Analytics
