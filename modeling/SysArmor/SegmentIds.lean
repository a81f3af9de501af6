import SysArmor.SequenceCursors
import SysArmor.ExportPipeline

/-! Segment ids over the life of a store. The next id follows the largest row of the segments
table, so ids grow as long as eviction leaves that row in place. -/
namespace SysArmor.LocalStore
open ByteWords Proto Digits AList

inductive SpoolAction where
  | append (batch : Option DataBatch) (io : AppendEffects)
  | sealSegment (io : SealEffects)
  | evict (io : CapacityEffects)
  | reopen

def SpoolAction.apply (codec : Codec) (segmentSize : Nat) (s : Store) : SpoolAction → Store
  | .append batch io => (appendBatch codec segmentSize s batch io).1
  | .sealSegment io => (sealLocked s io).1
  | .evict io => { s with disk := (enforceCapacity s.disk io).1 }
  | .reopen =>
    match recoverSegments codec s.disk with
    | .error _ => s
    | .ok opened => opened

def spoolRun (codec : Codec) (segmentSize : Nat) (s : Store) (actions : List SpoolAction) : Store :=
  actions.foldl (SpoolAction.apply codec segmentSize) s

def Disk.HasSegment (d : Disk) (segmentID : Nat) : Prop :=
  openPath segmentID ∈ d.spool ∨ sealedPath segmentID ∈ d.spool ∨ segmentID ∈ d.segments

def SpoolAction.KeepsLargest (s : Store) : SpoolAction → Prop
  | .append _ io => io.ensure.header = .whole ∧ io.next.header = .whole
  | .evict io => ∀ id ∈ s.disk.segments, ∃ top ∈ (enforceCapacity s.disk io).1.segments, id ≤ top
  | .sealSegment _ | .reopen => True

def KeepsLargestRun (codec : Codec) (segmentSize : Nat) : Store → List SpoolAction → Prop
  | _, [] => True
  | s, action :: actions =>
    action.KeepsLargest s ∧ KeepsLargestRun codec segmentSize (action.apply codec segmentSize s) actions

def Disk.Reserved (d : Disk) (segmentID : Nat) : Prop := ∃ top ∈ d.segments, segmentID ≤ top

def Claimed (s : Store) (segmentID : Nat) : Prop :=
  s.disk.Reserved segmentID ∨ ∃ writer, s.writer = some writer ∧ writer.id = segmentID

/-- Files carry the id of their name, every file's id is claimed, and the rows of sealed segments
point to sealed files. -/
structure Numbered (s : Store) : Prop where
  files : ∀ path ∈ s.disk.spool, ∃ id, NamedAfter path id ∧ headerID (fileAt s.disk.spool path) = .ok id ∧ Claimed s id
  live : ∀ writer, s.writer = some writer → writer.closed = false →
    writer.path = openPath writer.id ∧ writer.path ∈ s.disk.spool
  held : ∀ writer, s.writer = some writer →
    s.disk.Reserved writer.id ∨ ∃ path ∈ s.disk.spool, NamedAfter path writer.id
  rows : ∀ id row, s.disk.segments.lookup id = some row → row.state = .sealed → row.path = sealedPath id

structure Advances (s after : Store) : Prop where
  numbered : Numbered after
  claims : ∀ id, Claimed s id → Claimed after id
  fresh : ∀ id, openPath id ∈ after.disk.spool → openPath id ∉ s.disk.spool → ∀ other, Claimed s other → other < id

lemma Advances.refl (numbered : Numbered s) : Advances s s :=
  ⟨numbered,fun _ => id,fun _ here away => absurd here away⟩

lemma Advances.trans (first : Advances a b) (second : Advances b c) : Advances a c where
  numbered := second.numbered
  claims id claimed := second.claims id (first.claims id claimed)
  fresh id here away other claimed := by
    by_cases between : openPath id ∈ b.disk.spool
    · exact first.fresh id between away other claimed
    · exact second.fresh id here between other (first.claims other claimed)

section Steps
variable {codec : Codec} {segmentSize : Nat} {s : Store}

lemma Disk.Reserved.insert (reserved : Disk.Reserved d claimed) (segmentID : Nat) (row : SegmentRow) :
    Disk.Reserved { d with segments := d.segments.insert segmentID row } claimed := by
  obtain ⟨top,mem,below⟩ := reserved
  exact ⟨top,(mem_insert _).mpr (.inr mem),below⟩

section
variable (numbered : Numbered s)
include numbered

lemma Numbered.withRow (segmentID : Nat) (row : SegmentRow)
    (path : row.state = .sealed → row.path = sealedPath segmentID) : Advances s (s.withRow segmentID row) := by
  have claims : ∀ id, Claimed s id → Claimed (s.withRow segmentID row) id :=
    fun id claimed => claimed.imp (fun reserved => reserved.insert segmentID row) fun found => found
  refine ⟨⟨fun other mem => ?_,numbered.live,fun other set => ?_,fun id found lookup closed => ?_⟩,claims,
    fun _ here away => absurd here away⟩
  · obtain ⟨id,named,header,claimed⟩ := numbered.files other mem
    exact ⟨id,named,header,claims id claimed⟩
  · exact (numbered.held other set).imp (fun reserved => reserved.insert segmentID row) fun found => found
  simp only [Store.withRow] at lookup
  rcases AssocCount.lookup_insert_cases lookup with ⟨rfl,rfl⟩ | old
  · exact path closed
  · exact numbered.rows id found old closed

lemma Numbered.started {id : Nat} (unset : s.writer = none)
    (next : nextSegmentID s.disk = .ok id) (createdAt : Nat) : Advances s (s.started id createdAt) := by
  obtain ⟨bound,above⟩ := nextSegmentID_fresh next
  have claimed (other : Nat) (found : Claimed s other) : other < id := by
    rcases found with ⟨top,mem,below⟩ | ⟨writer,set,-⟩
    · exact below.trans_lt (above top mem)
    · rw [unset] at set
      cases set
  have absent : openPath id ∉ s.disk.spool := by
    intro present
    obtain ⟨other,named,-,found⟩ := numbered.files _ present
    rw [← named.unique (.inl rfl)] at present
    exact absurd (named.unique (.inl rfl)) (claimed other found).ne
  have empty : fileAt s.disk.spool (openPath id) = [] := by
    rw [fileAt,lookup_eq_none.mpr absent]
    rfl
  have kept (other : Nat) (found : Claimed s other) : Claimed (s.started id createdAt) other :=
    found.imp_right (by rintro ⟨_,set,_⟩; rw [unset] at set; cases set)
  refine ⟨⟨fun path mem => ?_,?_,?_,numbered.rows⟩,kept,fun other here away => ?_⟩
  · rcases (mem_insert _).mp mem with rfl | old
    · refine ⟨id,.inl rfl,?_,.inr ⟨_,rfl,rfl⟩⟩
      simp only [Store.started,writeFile,fileAt_insert,↓reduceIte,headerID,empty,List.nil_append]
      rw [List.take_of_length_le (by simp),parseSegmentHeader_encode (bound.trans (by decide))]
    · obtain ⟨other,named,header,found⟩ := numbered.files path old
      refine ⟨other,named,?_,kept other found⟩
      have distinct : path ≠ openPath id := fun same => absent (same ▸ old)
      simpa [Store.started,writeFile,distinct] using header
  · rintro _ ⟨⟩ -
    exact ⟨rfl,(mem_insert _).mpr (.inl rfl)⟩
  · rintro _ ⟨⟩
    exact .inr ⟨openPath id,(mem_insert _).mpr (.inl rfl),.inl rfl⟩
  · rcases (mem_insert _).mp here with same | old
    · rw [openPath_injective same]
      exact claimed
    · exact absurd old away

lemma Numbered.ensured (ensured : Ensured s header result) (whole : header = .whole) : Advances s result.1 := by
  cases ensured with
  | present set => exact .refl numbered
  | refused err => exact .refl numbered
  | cut unset short =>
    rw [whole] at short
    cases short
  | started unset next createdAt => exact numbered.started unset next createdAt
  | listed unset next createdAt row path state =>
    have started := numbered.started unset next createdAt
    exact started.trans (started.numbered.withRow _ row (by simp [state]))

lemma Numbered.shut (set : s.writer = some writer) (after : SegmentWriter)
    (same : after.id = writer.id) (closed : after.closed = true) (disk : Disk) (rows : disk.segments = s.disk.segments)
    (files : ∀ path ∈ disk.spool, ∃ id, NamedAfter path id ∧ headerID (fileAt disk.spool path) = .ok id ∧ Claimed s id)
    (found : ∃ path ∈ disk.spool, NamedAfter path writer.id) (old : ∀ id, openPath id ∈ disk.spool → openPath id ∈ s.disk.spool) :
    Advances s { s with disk, writer := some after } := by
  have kept (id : Nat) (claimed : Claimed s id) : Claimed { s with disk, writer := some after } id := by
    refine claimed.imp (fun ⟨top,mem,below⟩ => ⟨top,rows ▸ mem,below⟩) ?_
    rintro ⟨other,again,rfl⟩
    rw [set] at again
    cases again
    exact ⟨after,rfl,same⟩
  refine ⟨⟨fun path mem => ?_,?_,?_,fun id row lookup => numbered.rows id row (rows ▸ lookup)⟩,kept,
    fun id here away => absurd (old id here) away⟩
  · obtain ⟨id,named,header,claimed⟩ := files path mem
    exact ⟨id,named,header,kept id claimed⟩
  · rintro _ ⟨⟩ live
    rw [closed] at live
    cases live
  rintro _ ⟨⟩
  rw [same]
  exact .inr found

lemma Numbered.renamed (present : openPath segmentID ∈ s.disk.spool) :
    (∀ path ∈ (renameFile s.disk (openPath segmentID) (sealedPath segmentID)).spool, ∃ id, NamedAfter path id ∧
      headerID (fileAt (renameFile s.disk (openPath segmentID) (sealedPath segmentID)).spool path) = .ok id ∧
      Claimed s id) ∧ ∀ id, openPath id ∈ (renameFile s.disk (openPath segmentID) (sealedPath segmentID)).spool →
      openPath id ∈ s.disk.spool := by
  obtain ⟨own,ownNamed,ownHeader,ownClaimed⟩ := numbered.files _ present
  obtain rfl := ownNamed.unique (.inl rfl)
  refine ⟨fun path mem => ?_,fun id mem => ?_⟩
  · simp only [renameFile,fileAt_insert]
    by_cases target : path = sealedPath own
    · exact ⟨own,.inr target,by simpa [target] using ownHeader,ownClaimed⟩
    obtain ⟨distinct,old⟩ := mem_erase.mp (((mem_insert _).mp mem).resolve_left target)
    obtain ⟨id,named,header,claimed⟩ := numbered.files path old
    refine ⟨id,named,?_,claimed⟩
    rw [if_neg target,fileAt_erase _ distinct]
    exact header
  · rcases (mem_insert _).mp mem with same | inside
    · exact absurd same (openPath_ne_sealedPath _ _)
    · exact (mem_erase.mp inside).2

end

lemma Numbered.released (numbered : Numbered s) (set : s.writer = some writer)
    (written : writer.id ∈ s.disk.segments) : Advances s { s with writer := none } := by
  have kept (id : Nat) (claimed : Claimed s id) : Claimed { s with writer := none } id := by
    rcases claimed with row | ⟨other,same,rfl⟩
    · exact .inl row
    rw [set] at same
    cases same
    exact .inl ⟨writer.id,written,le_rfl⟩
  refine ⟨⟨fun path mem => ?_,by simp,by simp,numbered.rows⟩,kept,fun _ here away => absurd here away⟩
  obtain ⟨id,named,header,claimed⟩ := numbered.files path mem
  exact ⟨id,named,header,kept id claimed⟩

lemma Numbered.sealing (numbered : Numbered s) (ended : Sealed s result) : Advances s result.1 := by
  have moved {writer : SegmentWriter} (after : SegmentWriter) (set : s.writer = some writer) (live : writer.closed = false)
      (same : after.id = writer.id) (closed : after.closed = true) :
      sealedName writer.path = sealedPath writer.id ∧ Advances s (s.moved writer (some after)) := by
    obtain ⟨path,present⟩ := numbered.live writer set live
    rw [path] at present
    obtain ⟨files,old⟩ := numbered.renamed present
    simp only [Store.moved,path,sealedName_openPath,true_and]
    exact numbered.shut set after same closed _ rfl files ⟨_,(mem_insert _).mpr (.inl rfl),.inr rfl⟩ old
  cases ended with
  | unset => exact .refl numbered
  | refused => exact .refl numbered
  | @shut writer set live =>
    obtain ⟨path,present⟩ := numbered.live writer set live
    exact numbered.shut set { writer with closed := true } rfl rfl s.disk rfl numbered.files ⟨_,present,.inl path⟩ fun _ => id
  | moved set live after same closed => exact (moved after set live same closed).2
  | listed set live after same closed row path =>
    obtain ⟨name,renamed⟩ := moved after set live same closed
    exact renamed.trans (renamed.numbered.withRow _ row fun _ => path.trans name)
  | @released writer set live row path =>
    obtain ⟨name,renamed⟩ := moved { writer with closed := true } set live rfl rfl
    have listed := renamed.trans (renamed.numbered.withRow writer.id row fun _ => path.trans name)
    exact listed.trans (listed.numbered.released rfl ((mem_insert _).mpr (.inl rfl)))

lemma headerID_append (header : headerID file = .ok segmentID) : headerID (file ++ more) = .ok segmentID := by
  have long : segmentHeaderSize ≤ file.length := by
    by_contra short
    simp only [headerID,parseSegmentHeader,List.length_take] at header
    rw [if_pos (.inl (by omega))] at header
    cases header
  rwa [headerID,List.take_append_of_le_length long]

section
variable (numbered : Numbered s)
include numbered

lemma Numbered.same {after : Store} (spool : after.disk.spool = s.disk.spool)
    (segments : after.disk.segments = s.disk.segments) (writer : after.writer = s.writer) : Advances s after := by
  have kept (id : Nat) (claimed : Claimed s id) : Claimed after id := by
    simpa only [Claimed,Disk.Reserved,segments,writer] using claimed
  refine ⟨⟨fun path mem => ?_,fun other set => ?_,fun other set => ?_,fun id row lookup => ?_⟩,kept,
    fun id here away => absurd (spool ▸ here) away⟩
  · rw [spool] at mem ⊢
    obtain ⟨id,named,header,claimed⟩ := numbered.files path mem
    exact ⟨id,named,header,kept id claimed⟩
  · rw [spool]
    exact numbered.live other (writer ▸ set)
  · rw [spool]
    simpa only [Disk.Reserved,segments] using numbered.held other (writer ▸ set)
  · exact numbered.rows id row (segments ▸ lookup)

lemma Numbered.written (set : s.writer = some writer) (live : writer.closed = false)
    (more : Bytes) (after : SegmentWriter) (sameID : after.id = writer.id) (samePath : after.path = writer.path) :
    Advances s { s with
      disk := writeFile s.disk writer.path (fileAt s.disk.spool writer.path ++ more), writer := some after } := by
  obtain ⟨path,present⟩ := numbered.live writer set live
  have inside (other : String) : other ∈ (writeFile s.disk writer.path
      (fileAt s.disk.spool writer.path ++ more)).spool ↔ other ∈ s.disk.spool := by
    rw [writeFile,mem_insert]
    exact ⟨fun either => either.elim (fun same => same ▸ present) fun old => old,.inr⟩
  have kept (id : Nat) (claimed : Claimed s id) : Claimed { s with
      disk := writeFile s.disk writer.path (fileAt s.disk.spool writer.path ++ more), writer := some after } id := by
    refine claimed.imp (fun reserved => reserved) ?_
    rintro ⟨other,again,rfl⟩
    rw [set] at again
    cases again
    exact ⟨after,rfl,sameID⟩
  refine ⟨⟨fun other mem => ?_,?_,?_,numbered.rows⟩,kept,fun id here away => absurd ((inside _).mp here) away⟩
  · obtain ⟨id,named,header,claimed⟩ := numbered.files other ((inside other).mp mem)
    refine ⟨id,named,?_,kept id claimed⟩
    simp only [writeFile,fileAt_insert]
    split
    · rename_i same
      subst same
      exact headerID_append header
    · exact header
  · rintro _ ⟨⟩ -
    rw [samePath,sameID]
    exact ⟨path,(inside _).mpr present⟩
  · rintro _ ⟨⟩
    rw [sameID]
    exact .inr ⟨_,(inside _).mpr present,.inl path⟩

lemma Numbered.chosen (chosen : Chosen segmentSize record io s result)
    (whole : io.ensure.header = .whole) (nextWhole : io.next.header = .whole) : Advances s result.1 := by
  cases chosen with
  | first ensured => exact numbered.ensured ensured whole
  | stuck closed => exact numbered.sealing closed
  | next _ _ closed again =>
    have shut := numbered.sealing closed
    exact shut.trans (shut.numbered.ensured again nextWhole)

lemma Numbered.recorded (set : s.writer = some writer)
    (ended : Recorded s writer batch record number result) : Advances s result.1 := by
  have wrote (live : writer.closed = false) :=
    numbered.written set live record (writer.advance record number) rfl rfl
  have listed (live : writer.closed = false) {row : SegmentRow} (state : row.state = .open) :=
    (wrote live).trans ((wrote live).numbered.withRow writer.id row (by simp [state]))
  cases ended with
  | closed => exact .refl numbered
  | cut live bytes => exact numbered.written set live (record.take bytes) writer rfl rfl
  | written live => exact wrote live
  | listed live row path state => exact listed live state
  | advanced live row path state => exact (listed live state).trans ((listed live state).numbered.same rfl rfl rfl)
  | indexed live row path state => exact (listed live state).trans ((listed live state).numbered.same rfl rfl rfl)

lemma Numbered.appended (codec : Codec) (segmentSize : Nat) (batch : Option DataBatch)
    (io : AppendEffects) (whole : io.ensure.header = .whole) (nextWhole : io.next.header = .whole) :
    Advances s (appendBatch codec segmentSize s batch io).1 := by
  cases batch with
  | none => exact .refl numbered
  | some batch =>
    have appended := appendBatch_appended codec segmentSize s batch io
    generalize appendBatch codec segmentSize s (some batch) io = result at appended
    cases appended with
    | refused => exact .refl numbered
    | known => exact .refl numbered
    | failed _ _ chosen => exact numbered.chosen chosen whole nextWhole
    | recorded _ _ chosen set recorded =>
      have begun := numbered.chosen chosen whole nextWhole
      exact begun.trans (begun.numbered.recorded set recorded)

end

lemma Numbered.evicted (numbered : Numbered s) (io : CapacityEffects)
    (kept : ∀ id ∈ s.disk.segments, ∃ top ∈ (enforceCapacity s.disk io).1.segments, id ≤ top) :
    Advances s { s with disk := (enforceCapacity s.disk io).1 } := by
  have shrunk := enforceCapacity_shrunk s.disk io
  generalize (enforceCapacity s.disk io).1 = after at *
  have reserved (id : Nat) (old : s.disk.Reserved id) : after.Reserved id := by
    obtain ⟨top,mem,below⟩ := old
    obtain ⟨higher,stays,above⟩ := kept top mem
    exact ⟨higher,stays,below.trans above⟩
  have claims (id : Nat) (claimed : Claimed s id) : Claimed { s with disk := after } id :=
    claimed.imp (reserved id) fun found => found
  refine ⟨⟨fun path mem => ?_,fun writer set live => ?_,fun writer set => ?_,fun id row lookup =>
    numbered.rows id row (shrunk.rows id row lookup)⟩,claims,fun id here away => absurd (shrunk.files _ here) away⟩
  · obtain ⟨id,named,header,claimed⟩ := numbered.files path (shrunk.files path mem)
    exact ⟨id,named,by rw [shrunk.kept path mem]; exact header,claims id claimed⟩
  · obtain ⟨path,present⟩ := numbered.live writer set live
    refine ⟨path,?_⟩
    by_contra away
    obtain ⟨id,row,lookup,closed,same⟩ := shrunk.gone _ present away
    rw [numbered.rows id row lookup closed,path] at same
    exact openPath_ne_sealedPath _ _ same.symm
  · rcases numbered.held writer set with old | ⟨path,present,named⟩
    · exact .inl (reserved _ old)
    · by_cases stays : path ∈ after.spool
      · exact .inr ⟨path,stays,named⟩
      · obtain ⟨id,row,lookup,closed,same⟩ := shrunk.gone _ present stays
        rw [numbered.rows id row lookup closed] at same
        obtain rfl := named.unique (.inr same.symm)
        exact .inl (reserved _ ⟨_,lookup_isSome.mp (by rw [lookup]; rfl),le_rfl⟩)

section
variable (read : readSegment codec file truncateTail = .ok (batches,left))
include read

lemma readSegment_header_kept : headerID left = headerID file := by
  simp only [readSegment] at read
  split at read
  · cases read
  split at read
  · cases read
  · split at read
    · cases read
    · cases read
      rfl
    · rename_i done
      cases read
      rw [headerID,headerID,List.take_take,min_eq_left ((readRecords_held done).2 _ rfl)]

lemma recoveredWriter_id (header : headerID file = .ok segmentID) (built : recoveredWriter path left batches = .ok writer) :
    writer.id = segmentID ∧ writer.path = path ∧ writer.closed = false := by
  have positions : ∀ stored ∈ batches, stored.position.segmentID = segmentID := by
    rw [readSegment_held read,heldSegment,header]
    exact fun stored mem => ((heldRecords_ascending _ _ _ _).2 stored mem).1
  have kept := readSegment_header_kept read
  rw [header,headerID] at kept
  cases batches with
  | nil =>
    simp only [recoveredWriter,kept] at built
    split at built
    · cases built
    · cases built
      exact ⟨rfl,rfl,rfl⟩
  | cons first rest =>
    cases built
    exact ⟨positions first (by simp),rfl,rfl⟩

end

structure Recovering (d : Disk) (read : List String) (s : Store) : Prop where
  files : ∀ path, path ∈ s.disk.spool ↔ path ∈ d.spool
  headers : ∀ path, headerID (fileAt s.disk.spool path) = headerID (fileAt d.spool path)
  old : ∀ id ∈ d.segments, id ∈ s.disk.segments
  rows : ∀ id row, s.disk.segments.lookup id = some row → row.state = .sealed → row.path = sealedPath id
  read : ∀ path ∈ read, ∀ id, NamedAfter path id → id ∈ s.disk.segments
  writer : ∀ writer, s.writer = some writer →
    writer.path = openPath writer.id ∧ writer.path ∈ d.spool ∧ writer.id ∈ s.disk.segments

lemma Recovering.step (recovering : Recovering d done s) (present : path ∈ d.spool) (named : NamedAfter path segmentID)
    (header : headerID (fileAt d.spool path) = .ok segmentID) (turn : recoverFile codec s path = .ok next) :
    Recovering d (done ++ [path]) next := by
  simp only [recoverFile] at turn
  split at turn
  · cases turn
  rename_i batches file read
  rw [← recovering.headers path] at header
  split at turn
  · cases turn
  rename_i writer built
  obtain ⟨sameID,samePath,-⟩ := recoveredWriter_id read header built
  rcases upsertSegment_row (writeFile s.disk path file) writer (if hasSuffix path ".open" then .open else .sealed) .done
    with ⟨-,failed⟩ | ⟨row,rowPath,rowState,inserted⟩
  · split at turn
    · cases turn
    · rename_i ended
      rw [ended] at failed
      exact absurd rfl failed
  · split at turn
    · cases turn
    · rename_i disk ended
      rw [ended] at inserted
      have shape : disk = { writeFile s.disk path file with segments := s.disk.segments.insert segmentID row } := by
        rw [← sameID]
        exact inserted
      have inside (other : String) : other ∈ disk.spool ↔ other ∈ d.spool := by
        rw [shape,writeFile,mem_insert,recovering.files]
        exact ⟨fun either => either.elim (fun same => same ▸ present) fun old => old,.inr⟩
      have headers (other : String) : headerID (fileAt disk.spool other) = headerID (fileAt d.spool other) := by
        rw [shape,writeFile,fileAt_insert]
        split
        · rename_i same
          rw [same,readSegment_header_kept read,recovering.headers]
        · exact recovering.headers other
      have more (id : Nat) (mem : id ∈ s.disk.segments) : id ∈ disk.segments := by
        rw [shape]
        exact (mem_insert _).mpr (.inr mem)
      have own : segmentID ∈ disk.segments := by
        rw [shape]
        exact (mem_insert _).mpr (.inl rfl)
      have rows (id : Nat) (found : SegmentRow) (lookup : disk.segments.lookup id = some found)
          (closed : found.state = .sealed) : found.path = sealedPath id := by
        rw [shape] at lookup
        rcases AssocCount.lookup_insert_cases lookup with ⟨rfl,rfl⟩ | old
        · rw [rowPath,samePath]
          rcases named with rfl | rfl
          · rw [rowState,hasSuffix_openPath] at closed
            cases closed
          · rfl
        · exact recovering.rows id found old closed
      have listed (other : String) (mem : other ∈ done ++ [path]) (id : Nat) (same : NamedAfter other id) :
          id ∈ disk.segments := by
        rcases List.mem_append.mp mem with before | last
        · exact more id (recovering.read other before id same)
        · rw [List.mem_singleton.mp last] at same
          rwa [same.unique named]
      split at turn
      · cases turn
        exact ⟨inside,headers,fun id mem => more id (recovering.old id mem),rows,listed,
          fun other set => ⟨(recovering.writer other set).1,(recovering.writer other set).2.1,
            more _ (recovering.writer other set).2.2⟩⟩
      · rename_i opened
        split at turn
        · cases turn
        cases turn
        refine ⟨inside,headers,fun id mem => more id (recovering.old id mem),rows,listed,?_⟩
        rintro _ ⟨⟩
        rw [samePath,sameID]
        exact ⟨named.open_of_suffix (by simpa using opened),present,own⟩

lemma Recovering.run (paths : List String) (recovering : Recovering d done s) (present : ∀ path ∈ paths, path ∈ d.spool)
    (named : ∀ path ∈ d.spool, ∃ id, NamedAfter path id ∧ headerID (fileAt d.spool path) = .ok id)
    (ended : recoverFiles codec paths s = .ok next) : Recovering d (done ++ paths) next := by
  induction paths generalizing done s with
  | nil =>
    cases ended
    simpa using recovering
  | cons path paths ih =>
    simp only [recoverFiles] at ended
    split at ended
    · cases ended
    rename_i middle turn
    obtain ⟨id,name,header⟩ := named path (present path (by simp))
    have stepped := recovering.step (present path (by simp)) name header turn
    simpa using ih stepped (fun other mem => present other (by simp [mem])) ended

lemma Numbered.reopened (numbered : Numbered s) (opened : recoverSegments codec s.disk = .ok next) : Advances s next := by
  simp only [recoverSegments] at opened
  split at opened
  · cases opened
  rename_i middle ended
  have begun : Recovering s.disk [] { disk := s.disk, cursor := s.disk.cursor } :=
    ⟨fun _ => .rfl,fun _ => rfl,fun _ => id,numbered.rows,by simp,by simp⟩
  have done := begun.run (segmentFiles s.disk.spool) (fun path mem => (mem_segmentFiles.mp mem).1)
    (fun path mem => by obtain ⟨id,named,header,-⟩ := numbered.files path mem; exact ⟨id,named,header⟩) ended
  obtain ⟨cursor,persisted,-⟩ := persistSequenceCursor_cases middle.disk middle.cursor .done
  have listed (path : String) (mem : path ∈ s.disk.spool) (id : Nat) (named : NamedAfter path id) :
      id ∈ middle.disk.segments :=
    done.read path (by simpa using mem_segmentFiles.mpr ⟨mem,isSegment_of_named named⟩) id named
  have claims (id : Nat) (claimed : Claimed s id) : Claimed middle id := by
    have reserved (id : Nat) (old : s.disk.Reserved id) : middle.disk.Reserved id := by
      obtain ⟨top,mem,below⟩ := old
      exact ⟨top,done.old top mem,below⟩
    rcases claimed with old | ⟨writer,set,rfl⟩
    · exact .inl (reserved id old)
    rcases numbered.held writer set with old | ⟨path,present,named⟩
    · exact .inl (reserved _ old)
    · exact .inl ⟨_,listed path present _ named,le_rfl⟩
  have recovered : Advances s middle := by
    refine ⟨⟨fun path mem => ?_,fun writer set _ => ?_,fun writer set => ?_,done.rows⟩,claims,
      fun id here away => absurd ((done.files _).mp here) away⟩
    · obtain ⟨id,named,header,claimed⟩ := numbered.files path ((done.files path).mp mem)
      exact ⟨id,named,by rw [done.headers]; exact header,claims id claimed⟩
    · exact ⟨(done.writer writer set).1,(done.files _).mpr (done.writer writer set).2.1⟩
    · exact .inl ⟨_,(done.writer writer set).2.2,le_rfl⟩
  split at opened
  · cases opened
  rename_i disk written
  rw [written] at persisted
  obtain rfl : disk = _ := persisted
  cases opened
  exact recovered.trans (recovered.numbered.same rfl rfl rfl)

lemma Numbered.step (numbered : Numbered s) (codec : Codec) (segmentSize : Nat) (action : SpoolAction)
    (keeps : action.KeepsLargest s) : Advances s (action.apply codec segmentSize s) := by
  cases action with
  | append batch io => exact numbered.appended codec segmentSize batch io keeps.1 keeps.2
  | sealSegment io => exact numbered.sealing (sealLocked_sealed s io)
  | evict io => exact numbered.evicted io keeps
  | reopen =>
    simp only [SpoolAction.apply]
    split
    · exact .refl numbered
    · exact numbered.reopened ‹_›

lemma Numbered.run (numbered : Numbered s) (codec : Codec) (segmentSize : Nat) (actions : List SpoolAction)
    (keeps : KeepsLargestRun codec segmentSize s actions) : Advances s (spoolRun codec segmentSize s actions) := by
  induction actions generalizing s with
  | nil => exact .refl numbered
  | cons action actions ih =>
    have stepped := numbered.step codec segmentSize action keeps.1
    exact stepped.trans (ih stepped.numbered keeps.2)

lemma Numbered.empty : Numbered {} := by
  refine ⟨?_,?_,?_,?_⟩
  all_goals simp

lemma Numbered.claimed (numbered : Numbered s) (there : s.disk.HasSegment segmentID) : Claimed s segmentID := by
  rcases there with opened | closed | row
  · obtain ⟨id,named,-,claimed⟩ := numbered.files _ opened
    rwa [named.unique (.inl rfl)] at claimed
  · obtain ⟨id,named,-,claimed⟩ := numbered.files _ closed
    rwa [named.unique (.inr rfl)] at claimed
  · exact .inl ⟨segmentID,row,le_rfl⟩

end Steps

lemma KeepsLargestRun.append (keeps : KeepsLargestRun codec segmentSize s (earlier ++ later)) :
    KeepsLargestRun codec segmentSize s earlier ∧
      KeepsLargestRun codec segmentSize (spoolRun codec segmentSize s earlier) later := by
  induction earlier generalizing s with
  | nil => exact ⟨trivial,keeps⟩
  | cons action earlier ih =>
    obtain ⟨first,rest⟩ := keeps
    exact ⟨⟨first,(ih rest).1⟩,(ih rest).2⟩

/-- In every run of appends, seals, evictions and reopenings in which evictions leave the row of
the largest id, a new segment has a larger id than any segment there ever was, so that no
checkpoint in an older segment covers its records. -/
theorem new_segment_id_larger (codec : Codec) (segmentSize : Nat) (earlier later : List SpoolAction) (action : SpoolAction)
    (keeps : KeepsLargestRun codec segmentSize {} (earlier ++ later ++ [action])) (segmentID older : Nat)
    (created : openPath segmentID ∈ (spoolRun codec segmentSize {} (earlier ++ later ++ [action])).disk.spool)
    (absent : openPath segmentID ∉ (spoolRun codec segmentSize {} (earlier ++ later)).disk.spool)
    (existed : (spoolRun codec segmentSize {} earlier).disk.HasSegment older) :
    older < segmentID ∧ ∀ position checkpoint, position.segmentID = segmentID → checkpoint.segmentID = older →
      Daemon.beforeCheckpoint position checkpoint = false := by
  obtain ⟨old,last⟩ := keeps.append
  obtain ⟨start,middle⟩ := old.append
  have first := Numbered.empty.run codec segmentSize earlier start
  have second := first.numbered.run codec segmentSize later middle
  have third := second.numbered.step codec segmentSize action
    (by simpa [spoolRun,List.foldl_append] using last.1)
  have claimed := second.claims older (first.numbered.claimed existed)
  simp only [spoolRun,List.foldl_append,List.foldl_cons,List.foldl_nil] at created absent claimed third
  have larger := third.fresh segmentID created absent older claimed
  refine ⟨larger,fun position checkpoint here there => ?_⟩
  simp only [Daemon.beforeCheckpoint,here,there]
  rw [if_neg (by omega),decide_eq_false (by omega)]
  rfl

def sealedFirst : List SpoolAction :=
  [.append (some (Daemon.numbered 0)) {}] ++ [.sealSegment {}]

theorem second_segment_id : 1 < 2 ∧ ∀ position checkpoint, position.segmentID = 2 → checkpoint.segmentID = 1 →
      Daemon.beforeCheckpoint position checkpoint = false := by
  refine new_segment_id_larger Daemon.numberedCodec 1024 [.append (some (Daemon.numbered 0)) {}] [.sealSegment {}]
    (.append (some (Daemon.numbered 1)) {}) ⟨⟨rfl,rfl⟩,trivial,⟨rfl,rfl⟩,trivial⟩ 2 1 ?_ ?_ (.inl ?_)
  all_goals decide +kernel

/-- The only segment is sealed and evicted; the next append creates a segment of the same id. -/
theorem evicted_id_reused : (spoolRun Daemon.numberedCodec 1024 {} sealedFirst).disk.HasSegment 1 ∧
    openPath 1 ∉ (spoolRun Daemon.numberedCodec 1024 {} (sealedFirst ++ [.evict {}])).disk.spool ∧
    openPath 1 ∈ (spoolRun Daemon.numberedCodec 1024 {}
      (sealedFirst ++ [.evict {}] ++ [.append (some (Daemon.numbered 1)) {}])).disk.spool := by
  refine ⟨.inr (.inl ?_),?_,?_⟩
  all_goals decide +kernel

end SysArmor.LocalStore
