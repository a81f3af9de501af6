import Mathlib.Logic.Function.Basic
import SysArmor.GoJson
import SysArmor.Rows

/-! The content store of the agent: signed or admitted documents under a ref each, kept in
memory and in one file each. A JSON text is described by what it decodes to; texts that differ
in spacing and escapes only are the same document. Digests, signatures, base64 and the texts of
library errors are parameters. -/
namespace SysArmor.Content
open GoText GoJson Rows

structure Metadata where
  (id version : String)
  (tenantID createdAt ttl : String := "")
  deriving DecidableEq

structure Integrity where
  (digestAlg digest signatureAlg keyID signature : String := "")
  deriving DecidableEq

structure Envelope where
  (apiVersion kind : String)
  metadata : Metadata
  /-- Absent when the text has no `spec`. -/
  spec : Option Value
  integrity : Integrity := {}

structure SignedContent where
  (apiVersion kind : String)
  metadata : Metadata
  spec : Option Value

def signedBytes (env : Envelope) : SignedContent :=
  { apiVersion := env.apiVersion, kind := env.kind, metadata := env.metadata, spec := env.spec }

/-- The library functions the store calls: the hexadecimal SHA-256 of the signed bytes, the
Ed25519 verification, base64, and the error text of a value that does not decode. -/
structure Library where
  quote : String → String
  sum256 : SignedContent → String
  verify : List UInt8 → SignedContent → List UInt8 → Bool
  decodeString : String → Except String (List UInt8)
  unmarshalError : Value → String

structure Record where
  (ref kind version digest : String)
  signed : Bool
  status : String
  rawJSON : Envelope

structure ValueSet where
  (ref version digest valueType : String)
  values : List String
  deriving DecidableEq

/-- The struct types that a `spec` is decoded into. -/
inductive SpecType where
  | valueSet | valueSpec | patchOp
  | rulePack | ruleSet | rule | runtime | runtimeExpr | conditionNode | condition | sequence | step
  | correlate | fact | suppression | requires | requiredEvent | refs | output | responseIntent
  deriving DecidableEq

def specFields : SpecType → List (String × GoType SpecType)
  | .valueSet => [("value_type",.string),("values",.slice .string)]
  | .valueSpec => [("base_version",.string),("value_type",.string),("merge_strategy",.string),
      ("values",.slice .string),("ops",.slice (.struct .patchOp))]
  | .patchOp => [("op",.string),("value",.string)]
  | .rulePack => [("rulesets",.slice (.struct .ruleSet))]
  | .ruleSet => [("id",.string),("version",.string),("rules",.slice (.struct .rule))]
  | .rule => [("rule_id",.string),("version",.uint 64),("severity",.string),("runtime",.struct .runtime),
      ("suppress",.struct .suppression),("requires",.struct .requires),("output",.struct .output)]
  | .runtime => [("type",.string),("entrypoint",.string),("expr",.struct .runtimeExpr),
      ("sequence",.struct .sequence),("correlate",.struct .correlate)]
  | .runtimeExpr => [("conditions",.slice (.struct .condition)),("condition_group",.struct .conditionNode)]
  | .conditionNode => [("all",.slice (.struct .conditionNode)),("any",.slice (.struct .conditionNode)),
      ("not",.struct .conditionNode),("condition",.struct .condition)]
  | .condition => [("field",.string),("op",.string),("value",.string),("values",.slice .string),
      ("ref",.string),("step",.string),("step_field",.string)]
  | .sequence => [("within",.string),("by",.slice .string),("steps",.slice (.struct .step))]
  | .step => [("id",.string),("behavior",.string),("event",.string),
      ("conditions",.slice (.struct .condition)),("condition_group",.struct .conditionNode)]
  | .correlate => [("within",.string),("by",.slice .string),("facts",.slice (.struct .fact))]
  | .fact => [("id",.string),("event",.string),("events",.slice .string),
      ("conditions",.slice (.struct .condition)),("condition_group",.struct .conditionNode)]
  | .suppression => [("within",.string),("by",.slice .string)]
  | .requires => [("events",.slice (.struct .requiredEvent)),("context",.struct .refs),("ioc",.struct .refs)]
  | .requiredEvent => [("Behavior",.string),("Fields",.slice .string)]
  | .refs => [("required",.slice .string),("optional",.slice .string)]
  | .output => [("response_intent",.struct .responseIntent),("terminal",.bool)]
  | .responseIntent => [("Action",.string),("Confidence",.uint 32),("Reason",.string)]

def decodes (type : SpecType) (spec : Value) : Bool := fits specFields spec (.struct type)

section
variable (lib : Library)

def signedDigest (env : Envelope) : String := lib.sum256 (signedBytes env)

def parse (raw : Envelope) : Envelope :=
  { raw with
    kind := trimSpace raw.kind
    metadata := { raw.metadata with id := trimSpace raw.metadata.id, version := trimSpace raw.metadata.version } }

def firstNonEmpty (values : List String) : String :=
  ((values.find? (trimSpace · ≠ "")).map trimSpace).getD ""

/-- `strings.EqualFold` on hexadecimal digests. -/
def equalFold (a b : String) : Bool := foldKey a = foldKey b

def normalizeValues (values : List String) : List String :=
  sortStrings ((values.map trimSpace).filter (· ≠ "")).dedup

def specOf (env : Envelope) : Value := env.spec.getD .null

def parseValueSet (record : Record) : Except String ValueSet :=
  let spec := specOf (parse record.rawJSON)
  if decodes .valueSet spec then
    .ok
      { ref := record.ref, version := record.version, digest := record.digest,
        valueType := trimSpace (spec.readText "value_type"),
        values := normalizeValues (spec.readTexts "values") }
  else .error (lib.unmarshalError spec)

/-- Whether `parseRulePack` succeeds; the rules it builds are read elsewhere. -/
def parseRulePack (record : Record) : Except String Unit :=
  let spec := specOf (parse record.rawJSON)
  if decodes .rulePack spec then .ok () else .error (lib.unmarshalError spec)

def validateRecordPayload (record : Record) : Except String Unit :=
  if record.kind = "rulepack" then (parseRulePack lib record).mapError ("parse rulepack: " ++ ·)
  else if record.kind = "contextset" ∨ record.kind = "iocpack" then
    ((parseValueSet lib record).mapError (s!"parse {record.kind}: " ++ ·)).map fun _ => ()
  else .ok ()

structure Store where
  dir : String
  /-- A key that is not there is empty. -/
  trustedKeys : String → List UInt8
  records : String → Option Record
  defaultRefs : String → Bool

def verifySignature (trustedKeys : String → List UInt8) (env : Envelope) : Except String Unit :=
  let keyID := trimSpace env.integrity.keyID
  let key := trustedKeys keyID
  if env.integrity.signatureAlg ≠ "ed25519" then
    .error ("unsupported content signature_alg " ++ lib.quote env.integrity.signatureAlg)
  else if keyID = "" then .error "content signature key_id is required"
  else if key.length ≠ 32 then .error ("content signature key " ++ lib.quote keyID ++ " is not trusted")
  else match lib.decodeString env.integrity.signature with
    | .error reason => .error ("decode content signature: " ++ reason)
    | .ok sig =>
      if lib.verify key (signedBytes env) sig then .ok () else .error "content signature verification failed"

def isSigned (env : Envelope) : Bool := trimSpace env.integrity.signature ≠ ""

def validateContent (env : Envelope) : Except String Unit :=
  let alg := firstNonEmpty [env.integrity.digestAlg,"sha256"]
  if env.apiVersion ≠ "sysarmor.content/v1" then
    .error ("unsupported content api_version " ++ lib.quote env.apiVersion)
  else if env.kind ∉ ["rulepack","contextset","iocpack","content-bundle"] then
    .error ("unsupported content kind " ++ lib.quote env.kind)
  else if env.metadata.id = "" then .error "content metadata.id is required"
  else if env.metadata.version = "" then .error "content metadata.version is required"
  else match env.spec with
    | none | some .null => .error "content spec is required"
    | some _ =>
      if env.integrity.digest ≠ "" ∧ alg ≠ "sha256" then
        .error ("unsupported content digest_alg " ++ lib.quote alg)
      else if env.integrity.digest ≠ "" ∧ ¬equalFold env.integrity.digest (signedDigest lib env) then
        .error "content digest mismatch"
      else .ok ()

def validate (trustedKeys : String → List UInt8) (env : Envelope) (allowUnsigned : Bool) : Except String Unit := do
  validateContent lib env
  if isSigned env then verifySignature lib trustedKeys env
  else if allowUnsigned then .ok ()
  else .error "unsigned content requires allow_unsigned"

structure PatchOp where
  (op value : String)

structure ValueSpec where
  (baseVersion valueType mergeStrategy : String)
  ops : List PatchOp

def readValueSpec (spec : Value) : ValueSpec :=
  { baseVersion := spec.readText "base_version"
    valueType := spec.readText "value_type"
    mergeStrategy := spec.readText "merge_strategy"
    ops := (spec.readItems "ops").map fun item => ⟨item.readText "op",item.readText "value"⟩ }

def patchValue (values : List String) (op : PatchOp) : Except String (List String) :=
  let value := trimSpace op.value
  if value = "" then .ok values
  else if op.op = "add" then .ok (if value ∈ values then values else values ++ [value])
  else if op.op = "remove" then .ok (values.filter (· ≠ value))
  else .error ("unsupported patch op " ++ lib.quote op.op)

/-- The `spec` of a resolved patch, without an empty `value_type`. -/
def resolvedSpec (valueType : String) (values : List String) : Value :=
  .object ((if valueType = "" then [] else [("value_type",.text valueType)]) ++
    [("merge_strategy",.text "replace"),("values",Value.ofTexts values)])

def isValueKind (kind : String) : Bool := kind = "contextset" || kind = "iocpack"

def Store.resolvePatch (st : Store) (env : Envelope) : Except String Envelope :=
  if ¬isValueKind env.kind then .ok env
  else if ¬decodes .valueSpec (specOf env) then .error (lib.unmarshalError (specOf env))
  else
    let spec := readValueSpec (specOf env)
    if spec.mergeStrategy ≠ "patch" then .ok env
    else match st.records env.metadata.id with
      | none => .error s!"patch base content {env.metadata.id} not found"
      | some current =>
        if spec.baseVersion ≠ "" ∧ current.version ≠ spec.baseVersion then
          .error s!"patch base_version mismatch: have {current.version} want {spec.baseVersion}"
        else do
          let set ← parseValueSet lib current
          let values ← spec.ops.foldlM (patchValue lib) set.values
          let resolved := resolvedSpec (firstNonEmpty [spec.valueType,set.valueType]) (sortStrings values)
          .ok { env with spec := some resolved, integrity := {} }

def recordOf (env : Envelope) (status : String) : Record :=
  { ref := env.metadata.id, kind := env.kind, version := env.metadata.version,
    digest := signedDigest lib env, signed := isSigned env, status := status, rawJSON := env }

/-- `Prepare` on a text that the decoder took to an envelope or refused. -/
def Store.prepare (st : Store) (raw : Except String Envelope) (allowUnsigned : Bool) : Except String Record := do
  let env ← (raw.mapError ("decode content envelope: " ++ ·)).map parse
  if st.defaultRefs env.metadata.id then .error s!"default content ref {env.metadata.id} is read-only"
  else
    validate lib st.trustedKeys env allowUnsigned
    let resolved ← st.resolvePatch lib env
    .ok (recordOf lib resolved "applied")

end

/-- The file of a record: the document itself, the document with the admission it was taken under,
or a text that does not decode. -/
inductive File where
  | content (raw : Envelope)
  | admitted (allowUnsigned : Bool) (digest : String) (raw : Envelope)
  | broken (reason : String)

structure DirEntry where
  name : String
  file : File

abbrev Directory := List DirEntry

def writeFile (name : String) (file : File) (files : Directory) : Directory :=
  upsert (·.name = name) (fun _ => ⟨name,file⟩) ⟨name,file⟩ files

def rename (tmp name : String) (file : File) (files : Directory) : Directory :=
  writeFile name file (files.filter (·.name ≠ tmp))

def safeLetter (c : Char) : Char := if c = ':' ∨ c = '/' ∨ c = '\\' ∨ c = ' ' then '_' else c
def safeName (ref : String) : String := String.ofList (ref.toList.map safeLetter)

/-- How writing a file may fail: `WriteFile` leaves what it wrote so far, `Rename` the temporary
file. -/
inductive DiskFault where
  | write (reason : String) (left : Option File)
  | rename (reason : String)

def storedFile (record : Record) : File :=
  if record.signed then .content record.rawJSON else .admitted true record.digest record.rawJSON

def fileName (ref : String) : String := safeName ref ++ ".json"
def tmpName (ref : String) : String := fileName ref ++ ".tmp"

def Store.persistLocked (st : Store) (files : Directory) (record : Record) (fault : Option DiskFault) :
    Directory × Option String :=
  if trimSpace st.dir = "" then (files,none)
  else match fault with
    | none =>
      (rename (tmpName record.ref) (fileName record.ref) (storedFile record)
        (writeFile (tmpName record.ref) (storedFile record) files),none)
    | some (.write reason none) => (files,some reason)
    | some (.write reason (some left)) => (writeFile (tmpName record.ref) left files,some reason)
    | some (.rename reason) => (writeFile (tmpName record.ref) (storedFile record) files,some reason)

def Store.put (st : Store) (record : Record) : Store :=
  { st with records := Function.update st.records record.ref (some record) }

/-- `Commit`: the record is taken back when its file cannot be written. -/
def Store.commit (st : Store) (files : Directory) (record : Record) (fault : Option DiskFault) :
    Store × Directory × Option String :=
  match (st.put record).persistLocked files record fault with
  | (files,none) => (st.put record,files,none)
  | (files,some reason) =>
    ({ st.put record with records := Function.update (st.put record).records record.ref (st.records record.ref) },
      files,some reason)

structure Update where
  raw : Except String Envelope
  allowUnsigned : Bool
  dryRun : Bool := false
  fault : Option DiskFault := none

def Store.apply (lib : Library) (st : Store) (files : Directory) (update : Update) :
    Store × Directory × Except String Record :=
  match st.prepare lib update.raw update.allowUnsigned with
  | .error reason => (st,files,.error reason)
  | .ok record =>
    if update.dryRun then (st,files,.ok { record with status := "validated" })
    else match st.commit files record update.fault with
      | (st,files,none) => (st,files,.ok record)
      | (st,files,some reason) => (st,files,.error reason)

/-! Opening a directory. -/
section
variable (lib : Library)

def decodePersistedContent : File → Except String (Envelope × Bool)
  | .content raw => .ok (raw,false)
  | .admitted allowUnsigned _ raw => .ok (raw,allowUnsigned)
  | .broken reason => .error reason

def persistedDigest : File → String
  | .admitted _ digest _ => digest
  | _ => ""

def loadFile (trustedKeys : String → List UInt8) (entry : DirEntry) : Except String Record := do
  let (raw,allowUnsigned) ← (decodePersistedContent entry.file).mapError (s!"load content {entry.name}: " ++ ·)
  let env := parse raw
  let named := s!"load content {entry.name} ({env.metadata.id}): "
  if allowUnsigned ∧ ¬equalFold (persistedDigest entry.file) (signedDigest lib env) then
    .error (named ++ "unsigned admission digest mismatch")
  else
    (validate lib trustedKeys env allowUnsigned).mapError (named ++ ·)
    .ok { recordOf lib env "loaded" with rawJSON := raw }

def loadEntry (trustedKeys : String → List UInt8) (records : String → Option Record) (entry : DirEntry) :
    Except String (String → Option Record) :=
  if ¬hasSuffix entry.name ".json" then .ok records
  else do
    let record ← loadFile lib trustedKeys entry
    if (records record.ref).isSome then .error s!"load content {entry.name}: duplicate content ref {record.ref}"
    else
      (validateRecordPayload lib record).mapError (s!"load content {entry.name} ({record.ref}): " ++ ·)
      .ok (Function.update records record.ref (some record))

structure Options where
  /-- The records of the default layer, none without a default directory. -/
  defaults : List Record
  dir : String
  trustedKeys : String → List UInt8

/-- `NewStoreWithOptions`: the user layer. -/
def newStoreWithOptions (opts : Options) (files : Directory) : Except String Store := do
  let records ← if trimSpace opts.dir = "" then .ok fun _ => none
    else files.foldlM (loadEntry lib opts.trustedKeys) fun _ => none
  .ok { dir := trimSpace opts.dir, trustedKeys := opts.trustedKeys, records := records, defaultRefs := fun _ => false }

/-- `OpenLayered`: the user layer over the default layer, which may not share a ref. -/
def openLayered (opts : Options) (files : Directory) : Except String Store := do
  let users ← (newStoreWithOptions lib opts files).mapError ("load user content: " ++ ·)
  match opts.defaults.find? fun record => (users.records record.ref).isSome with
  | some record => .error s!"content ref conflict between default and user layers: {record.ref}"
  | none =>
    .ok { users with
      records := fun ref => (opts.defaults.find? (·.ref = ref)).or (users.records ref)
      defaultRefs := fun ref => opts.defaults.any (·.ref = ref) }

end

/-! What the accepting path guarantees of a record, and what the loading path makes of the file
that was written for it. -/
open List

@[simp] lemma parse_parse (raw : Envelope) : parse (parse raw) = parse raw := by
  simp [parse,trimSpace_trimSpace]

@[simp] lemma parse_resolved (env : Envelope) (spec : Option Value) (integrity : Integrity) :
    parse { env with spec := spec, integrity := integrity } = { parse env with spec := spec, integrity := integrity } :=
  rfl

section
variable {lib : Library}
variable {allowUnsigned : Bool} {env : Envelope} {keys : String → List UInt8}

lemma validate_ok : validate lib keys env allowUnsigned = .ok () ↔ validateContent lib env = .ok () ∧
      if isSigned env then verifySignature lib keys env = .ok () else allowUnsigned = true := by
  unfold validate
  rw [bind_eq_ok]
  constructor
  · rintro ⟨⟨⟩,content,signature⟩
    refine ⟨content,?_⟩
    split
    · rename_i signed
      simpa [signed] using signature
    · rename_i blank
      simpa [blank] using signature
  · rintro ⟨content,signature⟩
    refine ⟨(),content,?_⟩
    split
    · rename_i signed
      simpa [signed] using signature
    · rename_i blank
      simpa [blank] using signature

lemma validateContent_resolved {valueType : String} {values : List String} (valid : validateContent lib env = .ok ()) :
    validateContent lib { env with spec := some (resolvedSpec valueType values), integrity := {} } = .ok () := by
  unfold validateContent at valid ⊢
  dsimp only at valid ⊢
  split at valid
  · cases valid
  split at valid
  · cases valid
  split at valid
  · cases valid
  split at valid
  · cases valid
  rename_i version kind id revision
  rw [if_neg version,if_neg kind,if_neg id,if_neg revision]
  simp [resolvedSpec]

lemma decodes_valueSet_of_valueSpec {spec : Value} (whole : decodes .valueSpec spec) : decodes .valueSet spec := by
  refine fits_of_subtable specFields ?_ whole
  intro key type found
  -- a key of the smaller table is one of its two names up to case
  simp only [field?,specFields,find?_cons,find?_nil,sameKey] at found ⊢
  by_cases first : foldKey "value_type" = foldKey key
  · simp only [← first,decide_true] at found ⊢
    have other : decide (foldKey "base_version" = foldKey "value_type") = false := by decide +kernel
    rwa [other]
  by_cases second : foldKey "values" = foldKey key
  · rw [← second] at found ⊢
    revert found
    have a : decide (foldKey "value_type" = foldKey "values") = false := by decide +kernel
    have b : decide (foldKey "base_version" = foldKey "values") = false := by decide +kernel
    have c : decide (foldKey "merge_strategy" = foldKey "values") = false := by decide +kernel
    simp only [a,b,c,decide_true]
    exact id
  · simp [first,second] at found

lemma decodes_resolvedSpec (valueType : String) (values : List String) : decodes .valueSet (resolvedSpec valueType values) := by
  have typed : field? (specFields .valueSet) "value_type" = some .string := by rfl
  have merge : field? (specFields .valueSet) "merge_strategy" = none := by rfl
  have listed : field? (specFields .valueSet) "values" = some (.slice .string) := by rfl
  unfold decodes resolvedSpec
  rw [fits,fitsFields_iff]
  intro field mem type found
  rcases mem_append.mp mem with head | tail
  · split at head
    · cases head
    · obtain rfl := mem_singleton.mp head
      rw [typed] at found
      cases found
      rfl
  · rcases mem_cons.mp tail with rfl | last
    · rw [merge] at found
      cases found
    · obtain rfl := mem_singleton.mp last
      rw [listed] at found
      cases found
      exact fits_ofTexts specFields values

/-- What holds of the document of every record that the store accepted: loading it again passes
every check but the decoding of a rule pack. -/
structure Sound (lib : Library) (keys : String → List UInt8) (env : Envelope) : Prop where
  trimmed : parse env = env
  valid : validate lib keys env (!isSigned env) = .ok ()
  values : isValueKind env.kind → decodes .valueSet (specOf env)

lemma resolvePatch_ok {st : Store} {resolved : Envelope} (ok : st.resolvePatch lib env = .ok resolved) :
    (resolved = env ∧ (isValueKind env.kind → decodes .valueSpec (specOf env))) ∨
      ∃ valueType values, resolved = { env with spec := some (resolvedSpec valueType values), integrity := {} } := by
  unfold Store.resolvePatch at ok
  split at ok
  · rename_i other
    cases ok
    exact .inl ⟨rfl,fun kind => absurd kind other⟩
  split at ok
  · cases ok
  rename_i _ decoded
  dsimp only at ok
  split at ok
  · cases ok
    exact .inl ⟨rfl,fun _ => by simpa using decoded⟩
  split at ok
  · cases ok
  split at ok
  · cases ok
  obtain ⟨set,_,rest⟩ := bind_eq_ok.mp ok
  obtain ⟨values,_,last⟩ := bind_eq_ok.mp rest
  cases last
  exact .inr ⟨_,_,rfl⟩

lemma prepare_ok {st : Store} {raw : Except String Envelope} {record : Record}
    (accepted : st.prepare lib raw allowUnsigned = .ok record) :
    ∃ env, record = recordOf lib env "applied" ∧ Sound lib st.trustedKeys env ∧ ¬st.defaultRefs env.metadata.id := by
  unfold Store.prepare at accepted
  obtain ⟨env,parsed,rest⟩ := bind_eq_ok.mp accepted
  have trimmed : parse env = env := by
    cases raw with
    | error reason => cases parsed
    | ok raw =>
      cases parsed
      exact parse_parse raw
  split at rest
  · cases rest
  rename_i user
  obtain ⟨⟨⟩,valid,rest⟩ := bind_eq_ok.mp rest
  obtain ⟨resolved,patched,last⟩ := bind_eq_ok.mp rest
  cases last
  obtain ⟨content,signature⟩ := validate_ok.mp valid
  refine ⟨resolved,rfl,?_⟩
  rcases resolvePatch_ok patched with ⟨rfl,decoded⟩ | ⟨valueType,values,rfl⟩
  · refine ⟨⟨trimmed,validate_ok.mpr ⟨content,?_⟩,fun kind => decodes_valueSet_of_valueSpec (decoded kind)⟩,user⟩
    split
    · rename_i signed
      simpa [signed] using signature
    · rename_i blank
      simpa using blank
  · refine ⟨⟨?_,validate_ok.mpr ⟨validateContent_resolved content,rfl⟩,fun _ => decodes_resolvedSpec _ _⟩,user⟩
    rw [parse_resolved,trimmed]

lemma loadFile_stored (sound : Sound lib keys env) (name status : String) :
    loadFile lib keys ⟨name,storedFile (recordOf lib env status)⟩ = .ok (recordOf lib env "loaded") := by
  have valid := sound.valid
  unfold loadFile
  cases signed : isSigned env with
  | true =>
    have stored : storedFile (recordOf lib env status) = .content env := by simp [storedFile,recordOf,signed]
    simp only [stored,decodePersistedContent,Except.mapError,bind,Except.bind,sound.trimmed]
    rw [signed,Bool.not_true] at valid
    simp [valid,recordOf]
  | false =>
    have stored : storedFile (recordOf lib env status) = .admitted true (signedDigest lib env) env := by
      simp [storedFile,recordOf,signed]
    have same : equalFold (signedDigest lib env) (signedDigest lib env) := by simp [equalFold]
    simp only [stored,decodePersistedContent,Except.mapError,bind,Except.bind,sound.trimmed,persistedDigest,same]
    rw [signed,Bool.not_false] at valid
    simp [valid,recordOf]

lemma validateRecordPayload_ok (sound : Sound lib keys env)
    (status : String) : validateRecordPayload lib (recordOf lib env status) = .ok () ↔
      (env.kind = "rulepack" → decodes .rulePack (specOf env)) := by
  unfold validateRecordPayload parseRulePack parseValueSet
  dsimp only [recordOf]
  rw [sound.trimmed]
  by_cases rules : env.kind = "rulepack"
  · by_cases decoded : decodes .rulePack (specOf env) <;> simp [rules,decoded,Except.mapError]
  by_cases kind : env.kind = "contextset" ∨ env.kind = "iocpack"
  · have decoded := sound.values (by simpa [isValueKind] using kind)
    simp [decoded,rules,kind,Except.mapError,Except.map]
  · simp [rules,kind]

end

/-! The files of the content directory: what a write leaves, and what the loop of `Load` collects
from the entries. -/

section
variable {lib : Library}

lemma fileName_inj {a b : String} : fileName a = fileName b ↔ safeName a = safeName b := by
  refine ⟨fun same => ?_,fun same => by rw [fileName,same,fileName]⟩
  have letters := congrArg String.toList same
  rw [fileName,fileName,String.toList_append,String.toList_append] at letters
  exact String.toList_inj.mp (append_cancel_right letters)

lemma hasSuffix_fileName (ref : String) : hasSuffix (fileName ref) ".json" := by
  simp [hasSuffix,fileName]

lemma hasSuffix_tmpName (ref : String) : hasSuffix (tmpName ref) ".json" = false := by
  simp [hasSuffix,tmpName,fileName,List.isSuffixOf,List.isPrefixOf]

lemma mem_writeFile {files : Directory} (names : (files.map (·.name)).Nodup) {name : String} {file : File} {entry : DirEntry} :
    entry ∈ writeFile name file files ↔ (entry ∈ files ∧ entry.name ≠ name) ∨ entry = ⟨name,file⟩ := by
  constructor
  · intro mem
    rcases mem_upsert_key names mem with kept | ⟨_,_,_,written⟩ | fresh
    · exact .inl kept
    · exact .inr written
    · exact .inr fresh
  · unfold writeFile
    cases found : files.find? (·.name = name) with
    | none =>
      rw [upsert_of_find?_none found,mem_append,mem_singleton]
      exact Or.imp_left And.left
    | some old =>
      rw [upsert_of_find? found]
      rintro (⟨mem,other⟩ | rfl)
      · refine mem_updateFirst_of_ne mem fun same => other ?_
        simpa using find?_some same
      · obtain ⟨before,after,rfl,_,_,updated⟩ := updateFirst_of_find? (fun _ => DirEntry.mk name file) found
        simp [updated]

lemma writeFile_names {files : Directory} (names : (files.map (·.name)).Nodup) (name : String) (file : File) :
    ((writeFile name file files).map (·.name)).Nodup :=
  upsert_map_nodup (fun _ _ _ => rfl) rfl names

/-! The loop that loads the entries of a directory. -/

structure Loads (lib : Library) (keys : String → List UInt8) (entry : DirEntry) (record : Record) : Prop where
  named : hasSuffix entry.name ".json"
  read : loadFile lib keys entry = .ok record
  payload : validateRecordPayload lib record = .ok ()

variable {keys : String → List UInt8} {files : Directory} {entry : DirEntry} {records next final : String → Option Record}

lemma loadEntry_ok : loadEntry lib keys records entry = .ok next ↔ (¬hasSuffix entry.name ".json" ∧ next = records) ∨
      ∃ record, Loads lib keys entry record ∧ records record.ref = none ∧
        next = Function.update records record.ref (some record) := by
  unfold loadEntry
  by_cases named : hasSuffix entry.name ".json"
  · rw [if_neg (by simpa using named),bind_eq_ok]
    constructor
    · rintro ⟨record,read,rest⟩
      split at rest
      · cases rest
      rename_i absent
      obtain ⟨⟨⟩,payload,last⟩ := bind_eq_ok.mp rest
      cases last
      exact .inr ⟨record,⟨named,read,mapError_eq_ok.mp payload⟩,by simpa using absent,rfl⟩
    · rintro (⟨unnamed,_⟩ | ⟨record,loads,absent,rfl⟩)
      · exact absurd named unnamed
      · refine ⟨record,loads.read,?_⟩
        rw [if_neg (by simp [absent]),bind_eq_ok]
        exact ⟨(),mapError_eq_ok.mpr loads.payload,rfl⟩
  · rw [if_pos named]
    constructor
    · rintro same
      cases same
      exact .inl ⟨named,rfl⟩
    rintro (⟨_,rfl⟩ | ⟨record,loads,_⟩)
    · rfl
    · exact absurd loads.named named

lemma loadEntry_keeps (turn : loadEntry lib keys records entry = .ok next) (old : records ref = some record) :
    next ref = some record := by
  rcases loadEntry_ok.mp turn with ⟨_,rfl⟩ | ⟨loaded,_,absent,rfl⟩
  · exact old
  have other : ref ≠ loaded.ref := by
    rintro rfl
    rw [absent] at old
    cases old
  rwa [Function.update_of_ne other]

section
variable (loaded : files.foldlM (loadEntry lib keys) records = .ok final)
include loaded

lemma load_keeps (old : records ref = some record) : final ref = some record := by
  induction files generalizing records with
  | nil =>
    cases loaded
    exact old
  | cons entry files ih =>
    rw [foldlM_cons,bind_eq_ok] at loaded
    obtain ⟨next,turn,rest⟩ := loaded
    exact ih rest (loadEntry_keeps turn old)

lemma load_mem (mem : entry ∈ files)
    (named : hasSuffix entry.name ".json") : ∃ record, Loads lib keys entry record ∧ final record.ref = some record := by
  induction files generalizing records with
  | nil => cases mem
  | cons head files ih =>
    rw [foldlM_cons,bind_eq_ok] at loaded
    obtain ⟨next,turn,rest⟩ := loaded
    rcases mem_cons.mp mem with rfl | later
    · rcases loadEntry_ok.mp turn with ⟨unnamed,_⟩ | ⟨record,loads,_,rfl⟩
      · exact absurd named unnamed
      · exact ⟨record,loads,load_keeps rest (Function.update_self ..)⟩
    · exact ih rest later

lemma load_origin (found : final ref = some record) :
    records ref = some record ∨ ∃ entry ∈ files, Loads lib keys entry record ∧ record.ref = ref := by
  induction files generalizing records with
  | nil =>
    cases loaded
    exact .inl found
  | cons head files ih =>
    rw [foldlM_cons,bind_eq_ok] at loaded
    obtain ⟨next,turn,rest⟩ := loaded
    rcases ih rest with old | ⟨entry,mem,loads,named⟩
    · rcases loadEntry_ok.mp turn with ⟨_,rfl⟩ | ⟨read,loads,_,rfl⟩
      · exact .inl old
      · by_cases same : ref = read.ref
        · subst same
          rw [Function.update_self] at old
          cases old
          exact .inr ⟨head,mem_cons_self,loads,rfl⟩
        · rw [Function.update_of_ne same] at old
          exact .inl old
    · exact .inr ⟨entry,mem_cons_of_mem _ mem,loads,named⟩

end

lemma load_succeeds
    (each : ∀ entry ∈ files, hasSuffix entry.name ".json" → ∃ record, Loads lib keys entry record ∧ records record.ref = none)
    (apart : files.Pairwise fun a b => ∀ record record', Loads lib keys a record → Loads lib keys b record' →
      record.ref ≠ record'.ref) : ∃ final, files.foldlM (loadEntry lib keys) records = .ok final := by
  induction files generalizing records with
  | nil => exact ⟨records,rfl⟩
  | cons head files ih =>
    obtain ⟨here,later⟩ := pairwise_cons.mp apart
    by_cases named : hasSuffix head.name ".json"
    · obtain ⟨record,loads,absent⟩ := each head mem_cons_self named
      have turn := loadEntry_ok.mpr (.inr ⟨record,loads,absent,rfl⟩)
      rw [foldlM_cons,turn]
      refine ih (fun entry mem suffix => ?_) later
      obtain ⟨other,otherLoads,otherAbsent⟩ := each entry (mem_cons_of_mem _ mem) suffix
      refine ⟨other,otherLoads,?_⟩
      rwa [Function.update_of_ne (here entry mem record other loads otherLoads).symm]
    · have turn : loadEntry lib keys records head = .ok records := loadEntry_ok.mpr (.inl ⟨named,rfl⟩)
      rw [foldlM_cons,turn]
      exact ih (fun entry mem => each entry (mem_cons_of_mem _ mem)) later

end

end SysArmor.Content
