import Mathlib.Data.List.AList
import SysArmor.ContentStore

/-! The inspection of an agent package. The regular files of the archive are collected by their cleaned
paths, the manifest is checked against its signature, and the files that the manifest lists are looked
up and hashed. -/
namespace SysArmor.Distribution
open GoText
open Content (equalFold)

abbrev Bytes := List UInt8
def schemaVersion : String := "sysarmor.agent.distribution/v1"

structure SensorSpec where
  (name backend bundleDir installDir : String := "")

structure FileSpec where
  (path sha256 : String := "")
  deriving DecidableEq

structure Manifest where
  (schemaVersion name version os arch entrypoint systemdUnit : String := "")
  sensors : List SensorSpec := []
  files : List FileSpec := []

structure TarEntry where
  name : String
  typeflag : Char := '0'
  data : Except String Bytes

structure TarStream where
  entries : List TarEntry
  failure : Option String := none

structure Library where
  quote : String → String
  sha256Hex : Bytes → String
  decodeManifest : Bytes → Except String Manifest
  decodePEM : Bytes → Option Bytes
  -- `none`: a key that is not RSA
  parseKey : Bytes → Except String (Option Bytes)
  verifyPKCS1v15 : Bytes → Bytes → Bytes → Except String Unit

/-- `path.Clean` of a relative path, on its segments. -/
def cleanSegments (stack : List (List Char)) : List (List Char) → List (List Char)
  | [] => stack.reverse
  | segment :: rest =>
    if segment = [] || segment = ['.'] then cleanSegments stack rest
    else if segment = ['.','.'] then match stack with
      | [] => cleanSegments [segment] rest
      | top :: below => if top = ['.','.'] then cleanSegments (segment :: stack) rest else cleanSegments below rest
    else cleanSegments (segment :: stack) rest

def pathClean (p : String) : String :=
  match cleanSegments [] (p.toList.splitOn '/') with
  | [] => "."
  | segments => String.ofList (['/'].intercalate segments)

def trimPrefix (s front : String) : String := if hasPrefix s front then String.ofList (s.toList.drop front.length) else s

def cleanArchivePath (quote : String → String) (p : String) : Except String String :=
  let p := trimSpace (trimPrefix p "./")
  if p = "" || hasPrefix p "/" then .error ("invalid archive path " ++ quote p)
  else
    let clean := pathClean p
    if clean = "." || hasPrefix clean "../" || clean = ".." then .error ("invalid archive path " ++ quote p)
    else .ok clean

def readLimit : Nat := 512 * 1024 * 1024

section
variable (lib : Library)

def readEntry (files : AList fun _ : String => Bytes) (entry : TarEntry) : Except String (AList fun _ : String => Bytes) :=
  if entry.typeflag ≠ '0' then .ok files
  else do
    let clean ← cleanArchivePath lib.quote entry.name
    let data ← entry.data.mapError fun err => "read " ++ entry.name ++ ": " ++ err
    return files.insert clean (data.take readLimit)

def readArchive (stream : TarStream) : Except String (AList fun _ : String => Bytes) := do
  let files ← stream.entries.foldlM (readEntry lib) ∅
  match stream.failure with
  | some err => throw ("read tar: " ++ err)
  | none => return files

def validateFile (file : FileSpec) : Except String Unit := do
  let _ ← cleanArchivePath lib.quote file.path
  if file.sha256.utf8ByteSize ≠ 64 then throw ("invalid sha256 for " ++ file.path)

def validateSensor (sensor : SensorSpec) : Except String Unit := do
  if trimSpace sensor.name = "" || trimSpace sensor.backend = "" then throw "sensor name and backend are required"
  let _ ← cleanArchivePath lib.quote sensor.bundleDir
  if trimSpace sensor.installDir = "" then throw "sensor install_dir is required"

def validate (m : Manifest) : Except String Unit := do
  if m.schemaVersion ≠ schemaVersion then throw ("unsupported manifest schema_version " ++ lib.quote m.schemaVersion)
  if trimSpace m.name = "" || trimSpace m.version = "" || trimSpace m.os = "" || trimSpace m.arch = "" then
    throw "manifest name, version, os, and arch are required"
  if trimSpace m.entrypoint = "" || trimSpace m.systemdUnit = "" then
    throw "manifest entrypoint and systemd_unit are required"
  if m.files = [] then throw "manifest files are required"
  [m.entrypoint,m.systemdUnit].forM fun p => do let _ ← cleanArchivePath lib.quote p
  m.files.forM (validateFile lib)
  m.sensors.forM (validateSensor lib)

def verify (data signature publicKeyPEM : Bytes) : Except String Unit := do
  let some block := lib.decodePEM publicKeyPEM | throw "decode artifact public key"
  let parsed ← (lib.parseKey block).mapError ("parse artifact public key: " ++ ·)
  let some key := parsed | throw "artifact public key must be RSA"
  (lib.verifyPKCS1v15 key data signature).mapError ("verify manifest signature: " ++ ·)

def checkFile (files : AList fun _ : String => Bytes) (spec : FileSpec) : Except String Unit := do
  let clean ← cleanArchivePath lib.quote spec.path
  let some data := files.lookup clean | throw ("manifest file missing: " ++ spec.path)
  if !equalFold (lib.sha256Hex data) spec.sha256 then throw ("manifest file sha256 mismatch: " ++ spec.path)

structure InspectResult where
  manifest : Manifest
  signed : Bool

def checkSignature (raw : Bytes) (sig : Option Bytes) (publicKeyPEM : Bytes) : Except String Unit :=
  if publicKeyPEM = [] then .ok ()
  else match sig with
    | none => .error "manifest.sig is required"
    | some sig => verify lib raw sig publicKeyPEM

def inspectTarGz (opened : Except String TarStream) (publicKeyPEM : Bytes) : Except String InspectResult := do
  let stream ← opened
  let files ← readArchive lib stream
  let some raw := files.lookup "manifest.json" | throw "manifest.json is required"
  let manifest ← (lib.decodeManifest raw).mapError ("decode manifest: " ++ ·)
  validate lib manifest
  checkSignature lib raw (files.lookup "manifest.sig") publicKeyPEM
  manifest.files.forM (checkFile lib files)
  return { manifest, signed := (files.lookup "manifest.sig").isSome }

end

/-! What the signature of a package covers. Every listed file is in the archive and has its hash; whether
every file of the archive is listed is not checked, and of several entries with one path only the last
one is hashed, up to the read limit. -/

section
variable {lib : Library} {stream : TarStream}

def TarEntry.file (lib : Library) (entry : TarEntry) : Option (String × Bytes) :=
  if entry.typeflag ≠ '0' then none
  else match cleanArchivePath lib.quote entry.name,entry.data with
    | .ok clean,.ok data => some (clean,data)
    | _,_ => none

def TarStream.files (lib : Library) (stream : TarStream) : List (String × Bytes) := stream.entries.filterMap (·.file lib)
def lastFile (files : List (String × Bytes)) (path : String) : Option (String × Bytes) := files.reverse.find? (·.1 = path)

lemma readEntry_cases (read : readEntry lib files entry = .ok after) : (entry.typeflag ≠ '0' ∧ after = files) ∨
      ∃ path data, entry.typeflag = '0' ∧ entry.file lib = some (path,data) ∧ after = files.insert path (data.take readLimit) := by
  rw [readEntry] at read
  split at read
  · rename_i other
    cases read
    exact .inl ⟨other,rfl⟩
  rename_i regular
  obtain ⟨path,clean,read⟩ := bind_eq_ok.mp read
  obtain ⟨data,contents,read⟩ := bind_eq_ok.mp read
  cases read
  refine .inr ⟨path,data,by simpa using regular,?_,rfl⟩
  simp [TarEntry.file,regular,clean,mapError_eq_ok.mp contents]

lemma foldlM_readEntry {entries : List TarEntry} (read : entries.foldlM (readEntry lib) files = .ok after) :
    (∀ entry ∈ entries, entry.typeflag = '0' → (entry.file lib).isSome) ∧ ∀ path, after.lookup path =
      ((lastFile (entries.filterMap (·.file lib)) path).map fun file => file.2.take readLimit).or (files.lookup path) := by
  induction entries generalizing files with
  | nil =>
    cases read
    simp [lastFile]
  | cons entry entries ih =>
    rw [List.foldlM_cons,bind_eq_ok] at read
    obtain ⟨between,first,rest⟩ := read
    obtain ⟨regular,lookup⟩ := ih rest
    rcases readEntry_cases first with ⟨other,rfl⟩ | ⟨path,data,flag,file,rfl⟩
    · have skipped : entry.file lib = none := if_pos other
      constructor
      · intro item mem flag
        rcases List.mem_cons.mp mem with rfl | mem
        · exact absurd flag other
        · exact regular item mem flag
      · intro path
        rw [lookup,List.filterMap_cons_none skipped]
    · constructor
      · intro item mem flag
        rcases List.mem_cons.mp mem with rfl | mem
        · simp [file]
        · exact regular item mem flag
      · intro other
        rw [lookup,List.filterMap_cons_some file]
        simp only [lastFile,List.reverse_cons,List.find?_append]
        cases later : (entries.filterMap (·.file lib)).reverse.find? (·.1 = other) with
        | some found => simp
        | none =>
          by_cases same : path = other
          · subst same
            simp
          · simp [same,AList.lookup_insert_ne (Ne.symm same)]

structure Inspected (lib : Library) (stream : TarStream) (key : Bytes) (manifest : Manifest) : Prop where
  regular : ∀ entry ∈ stream.entries, entry.typeflag = '0' → (entry.file lib).isSome
  signed : ∃ raw sig, lastFile (stream.files lib) "manifest.json" = some ("manifest.json",raw) ∧
    lastFile (stream.files lib) "manifest.sig" = some ("manifest.sig",sig) ∧
    lib.decodeManifest (raw.take readLimit) = .ok manifest ∧ verify lib (raw.take readLimit) (sig.take readLimit) key = .ok ()
  hashed : ∀ spec ∈ manifest.files, ∃ path data, cleanArchivePath lib.quote spec.path = .ok path ∧
    lastFile (stream.files lib) path = some (path,data) ∧ equalFold (lib.sha256Hex (data.take readLimit)) spec.sha256

lemma forM_ok {check : α → Except ε Unit} {items : List α} (passed : items.forM check = .ok ()) :
    ∀ item ∈ items, check item = .ok () := by
  induction items with
  | nil => simp
  | cons first rest ih =>
    have steps : (check first >>= fun _ => rest.forM check) = .ok () := passed
    obtain ⟨⟨⟩,here,passed⟩ := bind_eq_ok.mp steps
    intro item mem
    rcases List.mem_cons.mp mem with rfl | mem
    · exact here
    · exact ih passed item mem

lemma lastFile_path {files : List (String × Bytes)} (found : lastFile files path = some file) : file.1 = path := by
  simpa using List.find?_some found

lemma inspectTarGz_ok (ok : inspectTarGz lib (.ok stream) key = .ok result) (keyed : key ≠ []) :
    Inspected lib stream key result.manifest := by
  obtain ⟨_,opened,ok⟩ := bind_eq_ok.mp ok
  cases opened
  obtain ⟨files,read,ok⟩ := bind_eq_ok.mp ok
  obtain ⟨files',folded,read⟩ := bind_eq_ok.mp read
  have same : files' = files := by
    split at read
    · cases read
    · exact Except.ok.inj read
  subst same
  obtain ⟨regular,lookup⟩ := foldlM_readEntry folded
  have last {path : String} {data : Bytes} (found : files'.lookup path = some data) :
      ∃ whole, lastFile (stream.files lib) path = some (path,whole) ∧ data = whole.take readLimit := by
    rw [lookup] at found
    cases here : lastFile (stream.entries.filterMap (·.file lib)) path with
    | none => simp [here] at found
    | some file =>
      obtain ⟨name,whole⟩ := file
      obtain rfl : name = path := lastFile_path here
      refine ⟨whole,here,?_⟩
      simpa [here] using found.symm
  split at ok
  · rename_i raw manifest_found
    obtain ⟨manifest,decoded,ok⟩ := bind_eq_ok.mp ok
    obtain ⟨⟨⟩,_,ok⟩ := bind_eq_ok.mp ok
    obtain ⟨⟨⟩,checked,ok⟩ := bind_eq_ok.mp ok
    obtain ⟨⟨⟩,listed,ok⟩ := bind_eq_ok.mp ok
    cases ok
    obtain ⟨whole,manifestFile,rfl⟩ := last manifest_found
    refine ⟨regular,?_,?_⟩
    · simp only [checkSignature,if_neg keyed] at checked
      split at checked
      · cases checked
      rename_i sig found
      obtain ⟨wholeSig,sigFile,rfl⟩ := last found
      exact ⟨whole,wholeSig,manifestFile,sigFile,mapError_eq_ok.mp decoded,checked⟩
    · intro spec mem
      have passed := forM_ok listed spec mem
      obtain ⟨path,clean,passed⟩ := bind_eq_ok.mp passed
      split at passed
      · rename_i data found
        obtain ⟨contents,file,rfl⟩ := last found
        refine ⟨path,contents,clean,file,?_⟩
        split at passed
        · cases passed
        · rename_i same
          simpa using same
      · cases passed
  · cases ok

/-- Every regular file of the archive, the manifest and its signature apart, is listed and has the hash
that the manifest lists. -/
def Covers (lib : Library) (stream : TarStream) (manifest : Manifest) : Prop :=
  ∀ entry ∈ stream.entries, entry.typeflag = '0' → ∃ path data,
    cleanArchivePath lib.quote entry.name = .ok path ∧ entry.data = .ok data ∧
      (path ≠ "manifest.json" → path ≠ "manifest.sig" → ∃ spec ∈ manifest.files,
        cleanArchivePath lib.quote spec.path = .ok path ∧ equalFold (lib.sha256Hex data) spec.sha256)

/-- Every file of the archive is listed, and none has other contents than what was read of the last file
with its path. -/
structure Complete (lib : Library) (stream : TarStream) (manifest : Manifest) : Prop where
  listed : ∀ file ∈ stream.files lib, file.1 ≠ "manifest.json" → file.1 ≠ "manifest.sig" →
    ∃ spec ∈ manifest.files, cleanArchivePath lib.quote spec.path = .ok file.1
  single : ∀ file ∈ stream.files lib, file.1 ≠ "manifest.json" → file.1 ≠ "manifest.sig" →
    ∀ last, lastFile (stream.files lib) file.1 = some last →
      equalFold (lib.sha256Hex file.2) (lib.sha256Hex (last.2.take readLimit))

lemma file_eq_some : TarEntry.file lib entry = some (path,data) ↔
    entry.typeflag = '0' ∧ cleanArchivePath lib.quote entry.name = .ok path ∧ entry.data = .ok data := by
  rw [TarEntry.file]
  split
  · simp_all
  · cases clean : cleanArchivePath lib.quote entry.name <;> cases contents : entry.data <;> simp_all

lemma mem_files : (path,data) ∈ stream.files lib ↔ ∃ entry ∈ stream.entries, entry.file lib = some (path,data) :=
  List.mem_filterMap

lemma equalFold_comm (a b : String) : equalFold a b = equalFold b a := by
  simp only [equalFold,eq_comm]

lemma equalFold_trans (first : equalFold a b = true) (second : equalFold b c = true) : equalFold a c = true := by
  simp only [equalFold,decide_eq_true_eq] at first second ⊢
  exact first.trans second

/-- An accepted archive has a signed manifest. It covers the archive exactly when every file is listed and
no file is hidden behind another one of the same path or behind the read limit. -/
theorem accepted_package_covered_iff {key : Bytes} {result : InspectResult}
    (accepted : inspectTarGz lib (.ok stream) key = .ok result) (keyed : key ≠ []) :
    (∃ raw sig, lastFile (stream.files lib) "manifest.json" = some ("manifest.json",raw) ∧
      lastFile (stream.files lib) "manifest.sig" = some ("manifest.sig",sig) ∧
      lib.decodeManifest (raw.take readLimit) = .ok result.manifest ∧
      verify lib (raw.take readLimit) (sig.take readLimit) key = .ok ()) ∧
    (Covers lib stream result.manifest ↔ Complete lib stream result.manifest) := by
  have inspected := inspectTarGz_ok accepted keyed
  refine ⟨inspected.signed,?_,?_⟩
  · intro covers
    constructor
    · rintro ⟨path,data⟩ mem plain plain'
      obtain ⟨entry,listed,file⟩ := mem_files.mp mem
      obtain ⟨flag,clean,contents⟩ := file_eq_some.mp file
      obtain ⟨path',data',clean',_,covered⟩ := covers entry listed flag
      cases clean.symm.trans clean'
      obtain ⟨spec,named,same,_⟩ := covered plain plain'
      exact ⟨spec,named,same⟩
    · rintro ⟨path,data⟩ mem plain plain' last found
      obtain ⟨entry,listed,file⟩ := mem_files.mp mem
      obtain ⟨flag,clean,contents⟩ := file_eq_some.mp file
      obtain ⟨path',data',clean',contents',covered⟩ := covers entry listed flag
      cases clean.symm.trans clean'
      cases contents.symm.trans contents'
      obtain ⟨spec,named,same,hash⟩ := covered plain plain'
      obtain ⟨path',data',clean',found',lastHash⟩ := inspected.hashed spec named
      cases same.symm.trans clean'
      cases found.symm.trans found'
      exact equalFold_trans hash ((equalFold_comm _ _).trans lastHash)
  · intro complete entry listed flag
    obtain ⟨⟨path,data⟩,file⟩ := Option.isSome_iff_exists.mp (inspected.regular entry listed flag)
    obtain ⟨_,clean,contents⟩ := file_eq_some.mp file
    refine ⟨path,data,clean,contents,fun plain plain' => ?_⟩
    have mem : (path,data) ∈ stream.files lib := mem_files.mpr ⟨entry,listed,file⟩
    obtain ⟨spec,named,same⟩ := complete.listed _ mem plain plain'
    obtain ⟨path',last,clean',found,hash⟩ := inspected.hashed spec named
    cases same.symm.trans clean'
    exact ⟨spec,named,same,equalFold_trans (complete.single _ mem plain plain' _ found) hash⟩

end

/-! Two packages with a valid signature. -/

deriving instance DecidableEq for SensorSpec, Manifest, InspectResult

def sampleHash (data : Bytes) : String :=
  String.ofList ((data.map fun byte => Char.ofNat (97 + byte.toNat % 6)) ++ List.replicate (64 - data.length) '0')

def sampleManifest : Manifest where
  schemaVersion := schemaVersion
  name := "agent"
  version := "1"
  os := "linux"
  arch := "amd64"
  entrypoint := "bin/agent"
  systemdUnit := "agent.service"
  files := [⟨"bin/agent",sampleHash [1]⟩,⟨"agent.service",sampleHash [2]⟩]

def sampleLibrary : Library where
  quote := fun s => s
  sha256Hex := sampleHash
  decodeManifest := fun _ => .ok sampleManifest
  decodePEM := some
  parseKey := fun key => .ok (some key)
  verifyPKCS1v15 := fun _ _ _ => .ok ()

def packageOf (others : List TarEntry) : TarStream where
  entries := [⟨"manifest.json",'0',.ok []⟩,⟨"manifest.sig",'0',.ok []⟩,⟨"./bin/agent",'0',.ok [1]⟩,
    ⟨"agent.service",'0',.ok [2]⟩] ++ others

theorem listed_package_covered : (inspectTarGz sampleLibrary (.ok (packageOf [])) [7]).toOption.isSome ∧
    Covers sampleLibrary (packageOf []) sampleManifest := by
  have ok : inspectTarGz sampleLibrary (.ok (packageOf [])) [7] = .ok ⟨sampleManifest,true⟩ := by decide +kernel
  refine ⟨by rw [ok]; rfl,(accepted_package_covered_iff ok (by simp)).2.mpr ⟨?_,?_⟩⟩
  · decide +kernel
  · decide +kernel

/-- A file that the manifest does not list is accepted. -/
theorem unlisted_file_accepted : ∃ result,
    inspectTarGz sampleLibrary (.ok (packageOf [⟨"bin/helper",'0',.ok [3]⟩])) [7] = .ok result ∧
      ¬Covers sampleLibrary (packageOf [⟨"bin/helper",'0',.ok [3]⟩]) result.manifest := by
  refine ⟨⟨sampleManifest,true⟩,by decide +kernel,fun covers => ?_⟩
  obtain ⟨path,data,clean,_,covered⟩ := covers ⟨"bin/helper",'0',.ok [3]⟩ (by simp [packageOf]) rfl
  have cleaned : cleanArchivePath sampleLibrary.quote "bin/helper" = .ok "bin/helper" := by rfl
  cases cleaned.symm.trans clean
  obtain ⟨spec,listed,same,_⟩ := covered (by simp) (by simp)
  have paths : ∀ spec ∈ sampleManifest.files, cleanArchivePath sampleLibrary.quote spec.path ≠ .ok "bin/helper" := by
    decide +kernel
  exact paths spec listed same

end SysArmor.Distribution
