import SysArmor.ContentStore

/-! Updates of the content store and reopening of its directory. The directory holds, under the
name of each active ref, the record that was written there last. Reopening gives the active
content back exactly when no two refs share a name and every rule pack decodes. -/
namespace SysArmor.Content
open GoText GoJson Rows

inductive Step where
  | update (update : Update)
  | reopen

def step (lib : Library) (opts : Options) : Store × Directory → Step → Except String (Store × Directory)
  | (st,files),.update update => .ok ((st.apply lib files update).1,(st.apply lib files update).2.1)
  | (_,files),.reopen => (openLayered lib opts files).map (·,files)

def run (lib : Library) (opts : Options) (steps : List Step) : Except String (Store × Directory) := do
  let st ← openLayered lib opts []
  steps.foldlM (step lib opts) (st,[])

def shown (lib : Library) (record : Record) : String × String × Option ValueSet :=
  (record.version,record.digest,(parseValueSet lib record).toOption)

/-- Opening the directory again succeeds and gives the same refs with the same versions, digests
and values. -/
def Reopens (lib : Library) (opts : Options) (st : Store) (files : Directory) : Prop :=
  ∃ opened, openLayered lib opts files = .ok opened ∧
    ∀ ref, (opened.records ref).map (shown lib) = (st.records ref).map (shown lib)

def Store.Active (st : Store) (ref : String) (record : Record) : Prop :=
  st.records ref = some record ∧ ¬st.defaultRefs ref

structure Reloadable (st : Store) : Prop where
  apart : ∀ a b first second, st.Active a first → st.Active b second → safeName a = safeName b → a = b
  rulePacks : ∀ ref record, st.Active ref record → record.kind = "rulepack" → decodes .rulePack (specOf record.rawJSON)

variable {lib : Library} {opts : Options} {st opened : Store} {files : Directory}

/-- The directory behind a store: each file is the record of an active ref, and each active ref has
a file under its name, though maybe with the record of another ref. -/
structure Kept (lib : Library) (opts : Options) (st : Store) (files : Directory) : Prop where
  dir : st.dir = trimSpace opts.dir
  keys : st.trustedKeys = opts.trustedKeys
  layer : ∀ ref, st.defaultRefs ref = opts.defaults.any (·.ref = ref)
  defaults : ∀ ref, st.defaultRefs ref → st.records ref = opts.defaults.find? (·.ref = ref)
  names : (files.map (·.name)).Nodup
  named : ∀ ref record, st.Active ref record → ∃ entry ∈ files, entry.name = fileName ref
  stored : ∀ entry ∈ files, hasSuffix entry.name ".json" → ∃ env status,
    Sound lib opts.trustedKeys env ∧ entry = ⟨fileName env.metadata.id,storedFile (recordOf lib env status)⟩ ∧
      st.Active env.metadata.id (recordOf lib env status)

lemma loads_stored (keys : String → List UInt8) (sound : Sound lib keys env) (name status : String) :
    Loads lib keys ⟨fileName name,storedFile (recordOf lib env status)⟩ record ↔
      record = recordOf lib env "loaded" ∧ (env.kind = "rulepack" → decodes .rulePack (specOf env)) := by
  constructor
  · intro loads
    obtain rfl := Except.ok.inj (loads.read.symm.trans (loadFile_stored sound _ _))
    exact ⟨rfl,(validateRecordPayload_ok sound _).mp loads.payload⟩
  · rintro ⟨rfl,payload⟩
    exact ⟨hasSuffix_fileName name,loadFile_stored sound _ _,(validateRecordPayload_ok sound _).mpr payload⟩

lemma Kept.loads (kept : Kept lib opts st files) (mem : entry ∈ files) (loads : Loads lib opts.trustedKeys entry record) :
    ∃ env status, Sound lib opts.trustedKeys env ∧ entry = ⟨fileName env.metadata.id,storedFile (recordOf lib env status)⟩ ∧
      st.Active env.metadata.id (recordOf lib env status) ∧ record = recordOf lib env "loaded" ∧
      (env.kind = "rulepack" → decodes .rulePack (specOf env)) := by
  obtain ⟨env,status,sound,rfl,active⟩ := kept.stored entry mem loads.named
  obtain ⟨same,payload⟩ := (loads_stored _ sound _ _).mp loads
  exact ⟨env,status,sound,rfl,active,same,payload⟩

lemma find?_defaults (ref : String) : opts.defaults.find? (·.ref = ref) = none ↔ opts.defaults.any (·.ref = ref) = false := by
  simp

/-! Opening a directory. -/

section
variable (persistent : trimSpace opts.dir ≠ "")
include persistent

lemma openLayered_ok : openLayered lib opts files = .ok opened ↔
    ∃ users, files.foldlM (loadEntry lib opts.trustedKeys) (fun _ => none) = .ok users ∧
      (∀ record ∈ opts.defaults, users record.ref = none) ∧
      opened = { dir := trimSpace opts.dir, trustedKeys := opts.trustedKeys,
                 records := fun ref => (opts.defaults.find? (·.ref = ref)).or (users ref),
                 defaultRefs := fun ref => opts.defaults.any (·.ref = ref) } := by
  have layer : newStoreWithOptions lib opts files = (files.foldlM (loadEntry lib opts.trustedKeys) (fun _ => none)).bind fun users =>
      .ok { dir := trimSpace opts.dir, trustedKeys := opts.trustedKeys, records := users, defaultRefs := fun _ => false } := by
    unfold newStoreWithOptions
    rw [if_neg persistent]
    rfl
  unfold openLayered
  rw [layer]
  cases loaded : files.foldlM (loadEntry lib opts.trustedKeys) (fun _ => none) with
  | error reason => simp [Except.bind,Except.mapError,bind]
  | ok users =>
    simp only [Except.bind,Except.mapError,bind,Except.ok.injEq,exists_eq_left']
    cases conflict : opts.defaults.find? fun record => (users record.ref).isSome with
    | some record =>
      have present := List.find?_some conflict
      have listed := List.mem_of_find?_eq_some conflict
      constructor
      · nofun
      rintro ⟨clear,_⟩
      rw [clear record listed] at present
      cases present
    | none =>
      have clear : ∀ record ∈ opts.defaults, users record.ref = none := by simpa using conflict
      exact ⟨fun same => ⟨clear,(Except.ok.inj same).symm⟩,fun ⟨_,same⟩ => by rw [same]⟩

lemma Kept.own_file (kept : Kept lib opts st files)
    (reopened : openLayered lib opts files = .ok opened) (active : opened.Active ref record) :
    ∃ env status, Sound lib opts.trustedKeys env ∧ env.metadata.id = ref ∧
      (⟨fileName ref,storedFile (recordOf lib env status)⟩ : DirEntry) ∈ files ∧
      st.Active ref (recordOf lib env status) ∧ record = recordOf lib env "loaded" ∧
      (env.kind = "rulepack" → decodes .rulePack (specOf env)) := by
  obtain ⟨users,loaded,clear,rfl⟩ := (openLayered_ok persistent).mp reopened
  obtain ⟨found,user⟩ := active
  have outside := (find?_defaults ref).mpr (by simpa using user)
  dsimp only at found
  rw [outside,Option.none_or] at found
  rcases load_origin loaded found with impossible | ⟨entry,mem,loads,rfl⟩
  · cases impossible
  · obtain ⟨env,status,sound,rfl,active,rfl,payload⟩ := kept.loads mem loads
    exact ⟨env,status,sound,rfl,mem,active,rfl,payload⟩

lemma Kept.reopened (kept : Kept lib opts st files)
    (reopened : openLayered lib opts files = .ok opened) : Kept lib opts opened files := by
  obtain ⟨users,loaded,clear,same⟩ := (openLayered_ok persistent).mp reopened
  subst same
  refine ⟨rfl,rfl,fun _ => rfl,?_,kept.names,?_,?_⟩
  · intro ref default
    obtain ⟨record,listed,named⟩ := List.any_eq_true.mp default
    have absent : users ref = none := of_decide_eq_true named ▸ clear record listed
    simp [absent]
  · intro ref record active
    obtain ⟨_,_,_,_,mem,_⟩ := kept.own_file persistent reopened active
    exact ⟨_,mem,rfl⟩
  · intro entry mem suffix
    obtain ⟨record,loads,found⟩ := load_mem loaded mem suffix
    obtain ⟨env,status,sound,rfl,active,rfl,_⟩ := kept.loads mem loads
    have user : opts.defaults.any (·.ref = env.metadata.id) = false := by
      rw [← kept.layer]
      simpa using active.2
    refine ⟨env,"loaded",sound,rfl,?_,by simp [user]⟩
    show (opts.defaults.find? (·.ref = env.metadata.id)).or (users env.metadata.id) = _
    rw [(find?_defaults _).mpr user,Option.none_or]
    exact found

lemma kept_opened (fresh : openLayered lib opts [] = .ok opened) :
    Kept lib opts opened [] := by
  obtain ⟨users,loaded,clear,rfl⟩ := (openLayered_ok persistent).mp fresh
  cases loaded
  refine ⟨rfl,rfl,fun _ => rfl,by simp,by simp,?_,by simp⟩
  rintro ref record ⟨found,user⟩
  have outside := (find?_defaults ref).mpr (by simpa using user)
  dsimp only at found
  rw [outside] at found
  cases found

/-! Writing to a kept directory. -/

end

lemma Kept.name_ne_tmpName (suffix : hasSuffix name ".json") (ref : String) : name ≠ tmpName ref := by
  rintro rfl
  rw [hasSuffix_tmpName] at suffix
  cases suffix

lemma Kept.tmp (kept : Kept lib opts st files) (ref : String) (left : File) :
    Kept lib opts st (writeFile (tmpName ref) left files) := by
  refine { kept with names := writeFile_names kept.names _ _, named := ?_, stored := ?_ }
  · intro other record active
    obtain ⟨entry,mem,named⟩ := kept.named other record active
    refine ⟨entry,(mem_writeFile kept.names).mpr (.inl ⟨mem,?_⟩),named⟩
    exact named ▸ name_ne_tmpName (hasSuffix_fileName other) ref
  · intro entry mem suffix
    rcases (mem_writeFile kept.names).mp mem with ⟨old,_⟩ | rfl
    · exact kept.stored entry old suffix
    · exact absurd rfl (name_ne_tmpName suffix ref)

lemma Kept.renamed (kept : Kept lib opts st files) (sound : Sound lib opts.trustedKeys env)
    (user : ¬st.defaultRefs env.metadata.id) (status : String) : Kept lib opts (st.put (recordOf lib env status))
      (rename (tmpName env.metadata.id) (fileName env.metadata.id) (storedFile (recordOf lib env status))
        (writeFile (tmpName env.metadata.id) (storedFile (recordOf lib env status)) files)) := by
  have names : (((writeFile (tmpName env.metadata.id) (storedFile (recordOf lib env status)) files).filter
      (·.name ≠ tmpName env.metadata.id)).map (·.name)).Nodup :=
    (writeFile_names kept.names _ _).sublist (List.filter_sublist.map _)
  have members : ∀ entry, entry ∈ rename (tmpName env.metadata.id) (fileName env.metadata.id)
      (storedFile (recordOf lib env status)) (writeFile (tmpName env.metadata.id) (storedFile (recordOf lib env status)) files) ↔
      (entry ∈ files ∧ entry.name ≠ tmpName env.metadata.id ∧ entry.name ≠ fileName env.metadata.id) ∨
        entry = ⟨fileName env.metadata.id,storedFile (recordOf lib env status)⟩ := by
    intro entry
    rw [rename,mem_writeFile names,List.mem_filter,mem_writeFile kept.names]
    refine or_congr_left ⟨?_,?_⟩
    · rintro ⟨⟨⟨mem,tmp⟩ | rfl,other⟩,elsewhere⟩
      · exact ⟨mem,tmp,elsewhere⟩
      · simp at other
    · rintro ⟨mem,tmp,elsewhere⟩
      exact ⟨⟨.inl ⟨mem,tmp⟩,by simpa using tmp⟩,elsewhere⟩
  have active : (st.put (recordOf lib env status)).Active env.metadata.id (recordOf lib env status) :=
    ⟨Function.update_self ..,user⟩
  refine { kept with defaults := ?_, names := writeFile_names names _ _, named := ?_, stored := ?_ }
  · intro ref default
    have other : ref ≠ env.metadata.id := fun same => user (same ▸ default)
    exact (Function.update_of_ne other ..).trans (kept.defaults ref default)
  · rintro ref record ⟨found,user'⟩
    by_cases same : fileName ref = fileName env.metadata.id
    · exact ⟨_,(members _).mpr (.inr rfl),same.symm⟩
    have other : ref ≠ env.metadata.id := fun equal => same (by rw [equal])
    have before : st.records ref = some record := (Function.update_of_ne other ..).symm.trans found
    obtain ⟨entry,mem,named⟩ := kept.named ref record ⟨before,user'⟩
    refine ⟨entry,(members entry).mpr (.inl ⟨mem,?_,?_⟩),named⟩
    · exact named ▸ name_ne_tmpName (hasSuffix_fileName ref) _
    · exact named ▸ same
  · intro entry mem suffix
    rcases (members entry).mp mem with ⟨before,_,elsewhere⟩ | rfl
    · obtain ⟨old,oldStatus,oldSound,rfl,oldActive⟩ := kept.stored entry before suffix
      have other : old.metadata.id ≠ env.metadata.id := fun same => elsewhere (by simp [same])
      exact ⟨old,oldStatus,oldSound,rfl,(Function.update_of_ne other ..).trans oldActive.1,oldActive.2⟩
    · exact ⟨env,status,sound,rfl,active⟩

lemma commit_rollback (st : Store) (record : Record) :
    { st.put record with records := Function.update (st.put record).records record.ref (st.records record.ref) } = st := by
  simp [Store.put]

section
variable (persistent : trimSpace opts.dir ≠ "")
include persistent

lemma Kept.apply (kept : Kept lib opts st files) (update : Update) :
    Kept lib opts (st.apply lib files update).1 (st.apply lib files update).2.1 := by
  have blank : trimSpace st.dir ≠ "" := by rwa [kept.dir,trimSpace_trimSpace]
  unfold Store.apply
  cases prepared : st.prepare lib update.raw update.allowUnsigned with
  | error reason => exact kept
  | ok record =>
    obtain ⟨env,rfl,sound,user⟩ := prepare_ok prepared
    rw [kept.keys] at sound
    dsimp only
    split
    · exact kept
    unfold Store.commit Store.persistLocked
    rw [if_neg (by exact blank)]
    rcases update.fault with _ | ⟨reason,_ | left⟩ | reason
    · exact kept.renamed sound user "applied"
    · rw [commit_rollback]
      exact kept
    · rw [commit_rollback]
      exact kept.tmp _ _
    · rw [commit_rollback]
      exact kept.tmp _ _

lemma Kept.step (kept : Kept lib opts st files)
    (turn : step lib opts (st,files) action = .ok (next,after)) : Kept lib opts next after := by
  cases action with
  | update update =>
    cases turn
    exact kept.apply persistent update
  | reopen =>
    cases reopened : openLayered lib opts files with
    | error reason => simp [Content.step,reopened,Except.map] at turn
    | ok opened =>
      simp only [Content.step,reopened,Except.map,Except.ok.injEq,Prod.mk.injEq] at turn
      obtain ⟨rfl,rfl⟩ := turn
      exact kept.reopened persistent reopened

lemma Kept.steps {steps : List Step} (kept : Kept lib opts st files)
    (ran : steps.foldlM (Content.step lib opts) (st,files) = .ok (last,after)) : Kept lib opts last after := by
  induction steps generalizing st files with
  | nil =>
    cases ran
    exact kept
  | cons action steps ih =>
    rw [List.foldlM_cons,bind_eq_ok] at ran
    obtain ⟨⟨next,between⟩,turn,rest⟩ := ran
    exact ih (kept.step persistent turn) rest

lemma kept_run (ran : run lib opts steps = .ok (st,files)) : Kept lib opts st files := by
  obtain ⟨opened,fresh,rest⟩ := bind_eq_ok.mp ran
  exact (kept_opened persistent fresh).steps persistent rest

/-! Reopening. -/

end

lemma Kept.same_layer (kept : Kept lib opts st files) (other : Kept lib opts opened after) (ref : String) :
    opened.defaultRefs ref = st.defaultRefs ref := (other.layer ref).trans (kept.layer ref).symm

lemma Kept.reloadable (persistent : trimSpace opts.dir ≠ "") (kept : Kept lib opts st files)
    (reopens : Reopens lib opts st files) : Reloadable st := by
  obtain ⟨opened,reopened,same⟩ := reopens
  have layer := kept.same_layer (kept.reopened persistent reopened)
  have own : ∀ ref record, st.Active ref record → ∃ env status, Sound lib opts.trustedKeys env ∧ env.metadata.id = ref ∧
      (⟨fileName ref,storedFile (recordOf lib env status)⟩ : DirEntry) ∈ files ∧ record = recordOf lib env status ∧
      (env.kind = "rulepack" → decodes .rulePack (specOf env)) := by
    rintro ref record ⟨found,user⟩
    have seen := same ref
    rw [found,Option.map_some,Option.map_eq_some_iff] at seen
    obtain ⟨read,reread,_⟩ := seen
    obtain ⟨env,status,sound,id,mem,active,_,payload⟩ :=
      kept.own_file persistent reopened ⟨reread,by rwa [layer]⟩
    exact ⟨env,status,sound,id,mem,Option.some.inj (found.symm.trans active.1),payload⟩
  constructor
  · intro a b first second activeA activeB clash
    obtain ⟨env,status,sound,rfl,mem,_⟩ := own a first activeA
    obtain ⟨env',status',sound',rfl,member',_⟩ := own b second activeB
    have entry := List.inj_on_of_nodup_map kept.names mem member' (fileName_inj.mpr clash)
    rw [DirEntry.mk.injEq] at entry
    have loaded := loadFile_stored sound "" status
    rw [entry.2,loadFile_stored sound'] at loaded
    exact congrArg Record.ref (Except.ok.inj loaded).symm
  · intro ref record active kind
    obtain ⟨env,status,_,_,_,rfl,payload⟩ := own ref record active
    exact payload kind

lemma Kept.loadable (kept : Kept lib opts st files) (reloadable : Reloadable st) :
    ∃ users, files.foldlM (loadEntry lib opts.trustedKeys) (fun _ => none) = .ok users := by
  apply load_succeeds
  · intro entry mem suffix
    obtain ⟨env,status,sound,rfl,active⟩ := kept.stored entry mem suffix
    exact ⟨_,(loads_stored _ sound _ _).mpr ⟨rfl,reloadable.rulePacks _ _ active⟩,rfl⟩
  refine (List.pairwise_map.mp kept.names).imp_of_mem ?_
  intro a b memberA memberB names record record' loads loads' same
  obtain ⟨env,status,_,rfl,_,rfl,_⟩ := kept.loads memberA loads
  obtain ⟨env',status',_,rfl,_,rfl,_⟩ := kept.loads memberB loads'
  have ids : env.metadata.id = env'.metadata.id := same
  exact names (by rw [ids])

lemma Kept.reopens (persistent : trimSpace opts.dir ≠ "") (kept : Kept lib opts st files)
    (reloadable : Reloadable st) : Reopens lib opts st files := by
  obtain ⟨users,loaded⟩ := kept.loadable reloadable
  have clear : ∀ record ∈ opts.defaults, users record.ref = none := by
    intro record listed
    by_contra present
    obtain ⟨read,found⟩ := Option.ne_none_iff_exists'.mp present
    rcases load_origin loaded found with impossible | ⟨entry,mem,loads,named⟩
    · cases impossible
    obtain ⟨env,status,_,_,active,rfl,_⟩ := kept.loads mem loads
    refine active.2 ?_
    rw [kept.layer,List.any_eq_true]
    exact ⟨record,listed,decide_eq_true named.symm⟩
  have reopened : openLayered lib opts files = .ok _ := (openLayered_ok persistent).mpr ⟨users,loaded,clear,rfl⟩
  have again := kept.reopened persistent reopened
  refine ⟨_,reopened,fun ref => ?_⟩
  by_cases default : st.defaultRefs ref
  · rw [kept.defaults ref default,again.defaults ref ((kept.same_layer again ref).trans default)]
  have user : opts.defaults.any (·.ref = ref) = false := by
    rw [← kept.layer]
    simpa using default
  dsimp only
  rw [(find?_defaults ref).mpr user,Option.none_or]
  cases found : st.records ref with
  | none =>
    cases read : users ref with
    | none => rfl
    | some record =>
      rcases load_origin loaded read with impossible | ⟨entry,mem,loads,rfl⟩
      · cases impossible
      · obtain ⟨env,status,_,_,active,rfl,_⟩ := kept.loads mem loads
        cases found.symm.trans active.1
  | some record =>
    -- the file under the name of the ref belongs to a ref of the same name, which is the ref itself
    obtain ⟨entry,mem,named⟩ := kept.named ref record ⟨found,default⟩
    have suffix := hasSuffix_fileName ref
    rw [← named] at suffix
    obtain ⟨read,loads,present⟩ := load_mem loaded mem suffix
    obtain ⟨env,status,_,rfl,active,rfl,_⟩ := kept.loads mem loads
    obtain rfl := reloadable.apart _ _ _ _ active ⟨found,default⟩ (fileName_inj.mp named)
    obtain rfl := Option.some.inj (active.1.symm.trans found)
    have present : users env.metadata.id = some (recordOf lib env "loaded") := present
    rw [present]
    rfl

/-- After every sequence of updates and restarts, opening the directory again gives back what is
active exactly when no two active refs share a file name and every active rule pack decodes. -/
theorem content_reload_iff (lib : Library) (opts : Options) (persistent : trimSpace opts.dir ≠ "") (steps : List Step)
    (st : Store) (files : Directory) (ran : run lib opts steps = .ok (st,files)) : Reopens lib opts st files ↔ Reloadable st :=
  ⟨(kept_run persistent ran).reloadable persistent,(kept_run persistent ran).reopens persistent⟩

def sampleLibrary : Library where
  quote := fun s => "\"" ++ s ++ "\""
  sum256 := fun content => content.metadata.id ++ "@" ++ content.metadata.version
  verify := fun _ _ _ => false
  decodeString := fun _ => .error "illegal base64 data"
  unmarshalError := fun _ => "cannot unmarshal"

def sampleOptions : Options := { defaults := [], dir := "content", trustedKeys := fun _ => [] }

def sampleEnvelope (kind id : String) (spec : Value) : Envelope :=
  { apiVersion := "sysarmor.content/v1", kind := kind, metadata := { id := id, version := "1" }, spec := some spec }

def sampleStep (kind id : String) (spec : Value) : Step :=
  .update { raw := .ok (sampleEnvelope kind id spec), allowUnsigned := true }

def sampleValues : Value := .object [("values",.array [.text "10.0.0.1"])]

def sampleStore : Store :=
  { dir := "content", trustedKeys := fun _ => [], records := fun _ => none, defaultRefs := fun _ => false }

def sampleRecord (kind id : String) (spec : Value) : Record :=
  recordOf sampleLibrary (sampleEnvelope kind id spec) "applied"

theorem single_set_reopens :
    Reopens sampleLibrary sampleOptions (sampleStore.put (sampleRecord "contextset" "ctx:a" sampleValues))
      [⟨"ctx_a.json",storedFile (sampleRecord "contextset" "ctx:a" sampleValues)⟩] := by
  refine (content_reload_iff sampleLibrary sampleOptions (by decide +kernel)
    [sampleStep "contextset" "ctx:a" sampleValues] _ _ rfl).mpr ?_
  have only : ∀ ref found, (sampleStore.put (sampleRecord "contextset" "ctx:a" sampleValues)).Active ref found →
      ref = "ctx:a" ∧ found.kind = "contextset" := by
    rintro ref found ⟨present,_⟩
    have present : Function.update (fun _ => none) "ctx:a" (some (sampleRecord "contextset" "ctx:a" sampleValues)) ref =
      some found := present
    rcases eq_or_ne ref "ctx:a" with rfl | other
    · rw [Function.update_self] at present
      cases present
      exact ⟨rfl,rfl⟩
    · rw [Function.update_of_ne other] at present
      cases present
  constructor
  · intro a b first second activeA activeB _
    rw [(only a first activeA).1,(only b second activeB).1]
  intro ref found active kind
  rw [(only ref found active).2] at kind
  exact absurd kind (by decide)

/-- Of two refs with one file name the first is lost, and a rule pack that does not decode is
accepted but keeps the directory from being opened. -/
theorem accepted_content_not_reopened : (∃ st files, run sampleLibrary sampleOptions
        [sampleStep "contextset" "ctx:a" sampleValues,sampleStep "contextset" "ctx_a" sampleValues] = .ok (st,files) ∧
      ¬Reopens sampleLibrary sampleOptions st files) ∧ ∃ st files, run sampleLibrary sampleOptions
        [sampleStep "rulepack" "rules" (.object [("rulesets",.text "none")])] = .ok (st,files) ∧
      ¬Reopens sampleLibrary sampleOptions st files := by
  constructor
  · refine ⟨(sampleStore.put (sampleRecord "contextset" "ctx:a" sampleValues)).put
      (sampleRecord "contextset" "ctx_a" sampleValues),
      [⟨"ctx_a.json",storedFile (sampleRecord "contextset" "ctx_a" sampleValues)⟩],rfl,?_⟩
    rintro ⟨opened,reopened,same⟩
    have lost : (((openLayered sampleLibrary sampleOptions
        [⟨"ctx_a.json",storedFile (sampleRecord "contextset" "ctx_a" sampleValues)⟩]).toOption.map
          (·.records "ctx:a")).map Option.isSome) = some false := by decide +kernel
    rw [reopened] at lost
    have absent : opened.records "ctx:a" = none := by simpa [Except.toOption] using lost
    have seen := same "ctx:a"
    rw [absent] at seen
    cases seen
  · refine ⟨sampleStore.put (sampleRecord "rulepack" "rules" (.object [("rulesets",.text "none")])),
      [⟨"rules.json",storedFile (sampleRecord "rulepack" "rules" (.object [("rulesets",.text "none")]))⟩],rfl,?_⟩
    rintro ⟨opened,reopened,_⟩
    have refused : (openLayered sampleLibrary sampleOptions
        [⟨"rules.json",storedFile (sampleRecord "rulepack" "rules" (.object [("rulesets",.text "none")]))⟩]).isOk = false := by
      decide +kernel
    rw [reopened] at refused
    cases refused

end SysArmor.Content
