import SysArmor.Spool

/-! The append side of the local store. Every call carries the outcome of each of its
I/O operations, so that a run ranges over every failure point: a write may stop after any
prefix, and a statement may fail before or after it took effect. -/
namespace SysArmor.LocalStore
open ByteWords Proto Digits

structure SequenceCursor where
  (event signal : UInt64 := 0)
  deriving DecidableEq

inductive SegmentState where
  | «open»
  | «sealed»
  deriving DecidableEq

structure SegmentRow where
  path : String
  state : SegmentState
  (firstSequence lastSequence : UInt64)
  (recordCount bytes : Nat)

/-- `closed` says that the file handle has been closed under a writer that is still set. -/
structure SegmentWriter where
  id : Nat
  path : String
  size : Nat
  records : Nat := 0
  (firstSequence lastSequence : UInt64 := 0)
  closed : Bool := false

structure Disk where
  spool : Directory := ∅
  segments : AList (fun _ : Nat => SegmentRow) := ∅
  cursor : SequenceCursor := {}

structure Store where
  disk : Disk := {}
  writer : Option SegmentWriter := none
  batchPositions : AList (fun _ : String => Position) := ∅
  cursor : SequenceCursor := {}

inductive Outcome where
  | done
  | failed (err : String)
  | lost (err : String)

inductive WriteOutcome where
  | whole
  | short (bytes : Nat) (err : String)

structure EnsureEffects where
  (nextID create : Option String := none)
  createdAt : Nat := 0
  header : WriteOutcome := .whole
  upsert : Outcome := .done

structure SealEffects where
  (sync close : Option String := none)
  (rename upsert : Outcome := .done)

structure AppendEffects where
  ensure : EnsureEffects := {}
  sealing : SealEffects := {}
  next : EnsureEffects := {}
  write : WriteOutcome := .whole
  (upsert persist : Outcome := .done)

def highBitError (argument : Nat) : String :=
  "sql: converting argument $" ++ toString argument ++ " type: uint64 values with high bit set are not supported"

def execute (d changed : Disk) : Outcome → Disk × Except String Unit
  | .done => (changed,.ok ())
  | .failed err => (d,.error err)
  | .lost err => (changed,.error err)

def upsertSegment (d : Disk) (writer : SegmentWriter) (state : SegmentState) (outcome : Outcome) :
    Disk × Except String Unit :=
  if 2 ^ 63 ≤ writer.id then (d,.error (highBitError 1))
  else if 2 ^ 63 ≤ writer.firstSequence then (d,.error (highBitError 4))
  else if 2 ^ 63 ≤ writer.lastSequence then (d,.error (highBitError 5))
  else if d.segments.entries.any (fun row => row.1 ≠ writer.id && row.2.path = writer.path) then
    (d,.error "UNIQUE constraint failed: segments.path")
  else
    let row := ⟨writer.path,state,writer.firstSequence,writer.lastSequence,writer.records,writer.size⟩
    execute d { d with segments := d.segments.insert writer.id row } outcome

/-- `COALESCE(MAX(segment_id), 0) + 1`: past the largest signed integer SQLite answers with a
real, which does not scan into an unsigned integer. -/
def nextSegmentID (d : Disk) : Except String Nat :=
  let next := d.segments.keys.foldr max 0 + 1
  if next < 2 ^ 63 then .ok next
  else .error "sql: Scan error on column index 0: converting driver.Value type float64 to a uint64"

def writeFile (d : Disk) (path : String) (file : Bytes) : Disk :=
  { d with spool := d.spool.insert path file }

def ensureWriter (s : Store) (io : EnsureEffects) : Store × Except String Unit :=
  match s.writer with
  | some _ => (s,.ok ())
  | none =>
    match io.nextID, nextSegmentID s.disk with
    | some err, _ => (s,.error err)
    | none, .error err => (s,.error err)
    | none, .ok id =>
      match io.create with
      | some err => (s,.error err)
      | none =>
        let path := openPath id
        let header := encodeSegmentHeader id io.createdAt
        -- the file is opened for appending, so an old file of that name keeps its bytes
        let old := fileAt s.disk.spool path
        match io.header with
        | .short bytes err => ({ s with disk := writeFile s.disk path (old ++ header.take bytes) },.error err)
        | .whole =>
          let writer := { id, path, size := segmentHeaderSize }
          let upserted := upsertSegment (writeFile s.disk path (old ++ header)) writer .open io.upsert
          ({ s with disk := upserted.1, writer := some writer },upserted.2)

def sealedName (path : String) : String := String.ofList (path.toList.take (path.length - 5)) ++ ".seg"

def renameFile (d : Disk) (old new : String) : Disk :=
  { d with spool := (d.spool.erase old).insert new (fileAt d.spool old) }

def sealLocked (s : Store) (io : SealEffects) : Store × Except String Unit :=
  match s.writer with
  | none => (s,.ok ())
  | some writer =>
    if writer.closed then
      let path := writer.path
      (s,.error s!"sync {path}: file already closed")
    else
      match io.sync with
      | some err => (s,.error err)
      | none =>
        let closed := { writer with closed := true }
        match io.close with
        | some err => ({ s with writer := some closed },.error err)
        | none =>
          let renamed := { closed with path := sealedName writer.path }
          match execute s.disk (renameFile s.disk writer.path renamed.path) io.rename with
          | (disk,.error err) => ({ s with disk, writer := some closed },.error err)
          | (disk,.ok ()) =>
            match upsertSegment disk renamed .sealed io.upsert with
            | (disk,.error err) => ({ s with disk, writer := some renamed },.error err)
            | (disk,.ok ()) => ({ s with disk, writer := none },.ok ())

def largerSequence (current other : UInt64) : UInt64 := if current < other then other else current

lemma largerSequence_lt (left : current < bound) (right : other < bound) : largerSequence current other < bound := by
  unfold largerSequence
  split <;> assumption

lemma zero_fits : (0 : UInt64) < 2 ^ 63 := by decide +kernel

def advanceSequenceCursor (cursor : SequenceCursor) (batch : DataBatch) : SequenceCursor where
  event := largerSequence cursor.event batch.getHeader.eventSeqEnd
  signal := largerSequence cursor.signal batch.getHeader.signalSeqEnd

def persistSequenceCursor (d : Disk) (cursor : SequenceCursor) (outcome : Outcome) : Disk × Except String Unit :=
  if 2 ^ 63 ≤ cursor.event then (d,.error (highBitError 1))
  else if 2 ^ 63 ≤ cursor.signal then (d,.error (highBitError 2))
  else execute d { d with cursor :=
    ⟨largerSequence d.cursor.event cursor.event,largerSequence d.cursor.signal cursor.signal⟩ } outcome

/-- The end of `AppendBatch`, behind the file write: row, cursor, index. -/
def indexRecord (s : Store) (writer : SegmentWriter) (batch : DataBatch) (position : Position)
    (io : AppendEffects) : Store × Except String Position :=
  match upsertSegment s.disk writer .open io.upsert with
  | (disk,.error err) => ({ s with disk },.error err)
  | (disk,.ok ()) =>
    let cursor := advanceSequenceCursor s.cursor batch
    match persistSequenceCursor disk cursor io.persist with
    | (disk,.error err) => ({ s with disk, cursor },.error err)
    | (disk,.ok ()) =>
      ({ s with disk, cursor, batchPositions := s.batchPositions.insert position.batchID position },
        .ok position)

def SegmentWriter.advance (writer : SegmentWriter) (record : Bytes) (sequence : UInt64) : SegmentWriter :=
  { writer with
    size := writer.size + record.length
    records := writer.records + 1
    lastSequence := sequence
    firstSequence := if writer.firstSequence = 0 then sequence else writer.firstSequence }

def appendRecord (s : Store) (writer : SegmentWriter) (batch : DataBatch) (record : Bytes)
    (sequence : UInt64) (io : AppendEffects) : Store × Except String Position :=
  let position : Position := ⟨writer.id,writer.size,sequence,batch.getHeader.batchId⟩
  if writer.closed then
    let path := writer.path
    (s,.error s!"append segment: write {path}: file already closed")
  else
    let file := fileAt s.disk.spool writer.path
    match io.write with
    | .short bytes err =>
      ({ s with disk := writeFile s.disk writer.path (file ++ record.take bytes) },
        .error s!"append segment: {err}")
    | .whole =>
      let after := writer.advance record sequence
      indexRecord { s with disk := writeFile s.disk writer.path (file ++ record), writer := some after }
        after batch position io

def startsSegment (segmentSize : Nat) (writer : SegmentWriter) (record : Bytes) : Bool :=
  0 < writer.records && segmentSize < writer.size + record.length

def chooseWriter (segmentSize : Nat) (s : Store) (record : Bytes) (io : AppendEffects) :
    Store × Except String Unit :=
  match ensureWriter s io.ensure with
  | (s,.error err) => (s,.error err)
  | (s,.ok ()) =>
    if s.writer.any (startsSegment segmentSize · record) then
      match sealLocked s io.sealing with
      | (s,.error err) => (s,.error err)
      | (s,.ok ()) => ensureWriter s io.next
    else (s,.ok ())

def appendBatch (codec : Codec) (segmentSize : Nat) (s : Store) (batch : Option DataBatch) (io : AppendEffects) :
    Store × Except String Position :=
  match batch with
  | none => (s,.error "data batch and batch id are required")
  | some batch =>
    if batch.getHeader.batchId = "" then (s,.error "data batch and batch id are required")
    else
      match encodeRecord codec batch with
      | .error err => (s,.error err)
      | .ok (record,sequence) =>
        match s.batchPositions.lookup batch.getHeader.batchId with
        | some position => (s,.ok position)
        | none =>
          match chooseWriter segmentSize s record io with
          | (s,.error err) => (s,.error err)
          | (s,.ok ()) =>
            match s.writer with
            -- unreachable: a writer is set whenever `chooseWriter` succeeds
            | none => (s,.error "no segment writer")
            | some writer => appendRecord s writer batch record sequence io

/-! Reopening the store: `recoverSegments` reads every segment, cuts the torn tail of the
open one and rebuilds the index. -/

def recoveredWriter (path : String) (file : Bytes) (batches : List StoredBatch) : Except String SegmentWriter :=
  match batches with
  | first :: rest =>
    .ok { id := first.position.segmentID, path, size := file.length, records := batches.length,
          firstSequence := first.position.batchSequence,
          lastSequence := ((first :: rest).getLast (by simp)).position.batchSequence }
  | [] =>
    if file.length < segmentHeaderSize then .error (if file.length = 0 then "EOF" else "unexpected EOF")
    else
      match parseSegmentHeader (file.take segmentHeaderSize) with
      | .error err => .error err
      | .ok id => .ok { id, path, size := file.length }

def recoverFile (codec : Codec) (s : Store) (path : String) : Except String Store :=
  let opened := hasSuffix path ".open"
  match readSegment codec (fileAt s.disk.spool path) opened with
  | .error err => .error err
  | .ok (batches,file) =>
    match recoveredWriter path file batches with
    | .error err => .error err
    | .ok writer =>
      match upsertSegment (writeFile s.disk path file) writer (if opened then .open else .sealed) .done with
      | (_,.error err) => .error err
      | (disk,.ok ()) =>
        let recovered := { s with
          disk
          cursor := batches.foldl (fun cursor stored => advanceSequenceCursor cursor stored.batch) s.cursor
          batchPositions := batches.foldl
            (fun positions stored => positions.insert stored.position.batchID stored.position) s.batchPositions }
        if !opened then .ok recovered
        else if s.writer.isSome then .error "multiple open segments"
        else .ok { recovered with writer := some writer }

def recoverFiles (codec : Codec) : List String → Store → Except String Store
  | [], s => .ok s
  | path :: paths, s =>
    match recoverFile codec s path with
    | .error err => .error err
    | .ok s => recoverFiles codec paths s

def recoverSegments (codec : Codec) (d : Disk) : Except String Store :=
  match recoverFiles codec (segmentFiles d.spool) { disk := d, cursor := d.cursor } with
  | .error err => .error err
  | .ok s =>
    match persistSequenceCursor s.disk s.cursor .done with
    | (_,.error err) => .error err
    | (disk,.ok ()) => .ok { s with disk }

@[simp] lemma fileAt_insert (spool : Directory) (path other : String) (file : Bytes) :
    fileAt (spool.insert path file) other = if other = path then file else fileAt spool other := by
  unfold fileAt
  split
  · subst other
    rw [AList.lookup_insert]
    rfl
  · rw [AList.lookup_insert_ne ‹_›]

@[simp] lemma fileAt_erase (spool : Directory) (distinct : other ≠ path) :
    fileAt (spool.erase path) other = fileAt spool other := by
  rw [fileAt,AList.lookup_erase_ne distinct,fileAt]

def pathID (path : String) : Nat := Nat.ofDigitChars 10 (path.toList.takeWhile Char.isDigit) 0

lemma pathID_padded (segmentID : Nat) (ending : String) (dot : ending.toList.head? = some '.') :
    pathID (padded 16 segmentID ++ ending) = segmentID := by
  obtain ⟨rest,shape⟩ : ∃ rest, ending.toList = '.' :: rest := by
    cases letters : ending.toList with
    | nil => simp [letters] at dot
    | cons first rest => exact ⟨rest,by simpa [letters] using dot⟩
  have digits : (paddedDigits 16 segmentID ++ '.' :: rest).takeWhile Char.isDigit = paddedDigits 16 segmentID := by
    rw [List.takeWhile_append_of_pos (fun letter => paddedDigits_isDigit)]
    simp
  rw [pathID,String.toList_append,toList_padded,shape,digits,ofDigitChars_paddedDigits]

@[simp] lemma pathID_openPath (segmentID : Nat) : pathID (openPath segmentID) = segmentID :=
  pathID_padded _ _ (by decide)

@[simp] lemma pathID_sealedPath (segmentID : Nat) : pathID (sealedPath segmentID) = segmentID :=
  pathID_padded _ _ (by decide)

lemma NamedAfter.pathID_eq (named : NamedAfter path segmentID) : pathID path = segmentID := by
  rcases named with rfl | rfl <;> simp

lemma hasSuffix_append (text ending : String) : hasSuffix (text ++ ending) ending = true := by
  simp [hasSuffix]

lemma isSegment_of_named (named : NamedAfter path segmentID) : isSegment path = true := by
  rcases named with rfl | rfl
  · simp [isSegment,openPath,hasSuffix_append]
  · simp [isSegment,sealedPath,hasSuffix_append]

lemma hasSuffix_openPath (segmentID : Nat) : hasSuffix (openPath segmentID) ".open" = true :=
  hasSuffix_append _ _

lemma hasSuffix_sealedPath (segmentID : Nat) : hasSuffix (sealedPath segmentID) ".open" = false := by
  rw [← Bool.not_eq_true,hasSuffix,List.isSuffixOf_iff_suffix,sealedPath,String.toList_append]
  rintro ⟨front,same⟩
  have last := congrArg List.getLast? same
  simp at last

lemma NamedAfter.open_of_suffix (named : NamedAfter path segmentID) (opened : hasSuffix path ".open" = true) :
    path = openPath segmentID := by
  rcases named with rfl | rfl
  · rfl
  · rw [hasSuffix_sealedPath] at opened
    cases opened

lemma nextRecord_prefix (whole : nextRecord codec record = .record batch number record.length)
    (part : tail <+: record) (proper : tail ≠ record) :
    nextRecord codec tail = .eof ∨ ∃ cause, nextRecord codec tail = .cut cause := by
  obtain ⟨missing,shape⟩ := part
  have pos : 0 < missing.length := by
    rw [List.length_pos_iff]
    rintro rfl
    exact proper (by simpa using shape)
  have longer : tail.length < record.length := by simp [← shape,pos]
  by_cases short : tail.length < 4
  · by_cases none : tail.length = 0
    · exact .inl (by simp [nextRecord,none])
    · exact .inr ⟨_,by simp only [nextRecord,none,short,↓reduceIte]; rfl⟩
  have field : record.take 4 = tail.take 4 := by
    rw [← shape,List.take_append_of_le_length (by omega)]
  -- the whole record passed the length checks, and the part has the same length field
  simp only [nextRecord,field] at whole
  repeat' split at whole
  all_goals simp only [decodedTurn_record,reduceCtorEq] at whole
  rename_i limits _
  refine .inr ⟨if tail.length = 4 then "EOF" else "unexpected EOF",?_⟩
  simp only [nextRecord]
  rw [if_neg (by omega),if_neg short,if_neg limits,if_pos (by omega)]

structure Storable (codec : Codec) (batch : DataBatch) : Prop where
  readable : Readable codec batch
  sequence : batchSequence batch < 2 ^ 63
  eventEnd : batch.getHeader.eventSeqEnd < 2 ^ 63
  signalEnd : batch.getHeader.signalSeqEnd < 2 ^ 63

structure SequenceCursor.Fits (cursor : SequenceCursor) : Prop where
  event : cursor.event < 2 ^ 63
  signal : cursor.signal < 2 ^ 63

lemma SequenceCursor.Fits.advance {cursor : SequenceCursor} (fits : cursor.Fits) (storable : Storable codec batch) :
    (advanceSequenceCursor cursor batch).Fits :=
  ⟨largerSequence_lt fits.event storable.eventEnd,largerSequence_lt fits.signal storable.signalEnd⟩

lemma NamedAfter.unique (left : NamedAfter path a) (right : NamedAfter path b) : a = b := by
  rw [← left.pathID_eq,right.pathID_eq]

lemma upsertSegment_done (rows : ∀ segmentID row, d.segments.lookup segmentID = some row → NamedAfter row.path segmentID)
    (named : NamedAfter writer.path writer.id) (id : writer.id < 2 ^ 63) (first : writer.firstSequence < 2 ^ 63)
    (last : writer.lastSequence < 2 ^ 63) (state : SegmentState) : (upsertSegment d writer state .done).2 = .ok () := by
  have unique : d.segments.entries.any (fun row => row.1 ≠ writer.id && row.2.path = writer.path) = false := by
    rw [List.any_eq_false]
    intro row mem
    have lookup := AList.mem_lookup_iff.mpr mem
    intro clash
    simp only [Bool.and_eq_true,decide_eq_true_eq] at clash
    have other := rows row.1 row.2 lookup
    rw [clash.2] at other
    exact clash.1 (other.unique named)
  simp only [upsertSegment]
  rw [if_neg (by omega),if_neg (by simpa using first),if_neg (by simpa using last),unique]
  rfl

/-! A spool as a chain of segments with raw records, and what the reader makes of it. -/
open List

structure RawSegment where
  (id createdAt : Nat)
  records : List RawRecord

def RawSegment.bytes (segment : RawSegment) : Bytes :=
  encodeSegmentHeader segment.id segment.createdAt ++ rawBytes segment.records

def chainFiles (front : List RawSegment) (last : Option RawSegment) : List (String × RawSegment) :=
  front.map (fun segment => (sealedPath segment.id,segment)) ++
    last.toList.map (fun segment => (openPath segment.id,segment))

def chainRecords (files : List (String × RawSegment)) : List RawRecord := files.flatMap (·.2.records)

lemma mem_chainFiles : (path,raw) ∈ chainFiles front last ↔
    (raw ∈ front ∧ path = sealedPath raw.id) ∨ (last = some raw ∧ path = openPath raw.id) := by
  simp only [chainFiles,mem_append,mem_map,Option.mem_toList,Prod.mk.injEq]
  constructor
  · rintro (⟨_,mem,rfl,rfl⟩ | ⟨_,mem,rfl,rfl⟩)
    · exact .inl ⟨mem,rfl⟩
    · exact .inr ⟨mem,rfl⟩
  rintro (⟨mem,rfl⟩ | ⟨mem,rfl⟩)
  · exact .inl ⟨raw,mem,rfl,rfl⟩
  · exact .inr ⟨raw,mem,rfl,rfl⟩

section Reading
variable {codec : Codec} {front : List RawSegment} {last : Option RawSegment}

lemma chainFiles_named (mem : (path,raw) ∈ chainFiles front last) : NamedAfter path raw.id := by
  rcases mem_chainFiles.mp mem with ⟨-,rfl⟩ | ⟨-,rfl⟩
  · exact .inr rfl
  · exact .inl rfl

lemma chainFiles_segments (front : List RawSegment) (last : Option RawSegment) :
    (chainFiles front last).map (·.2) = front ++ last.toList := by
  simp [chainFiles,Function.comp_def]

variable {spool : Directory}

lemma segmentFiles_chain
    (files : ∀ path, isSegment path = true → (path ∈ spool ↔ ∃ segment, (path,segment) ∈ chainFiles front last))
    (ascending : (front ++ last.toList).Pairwise (fun a b => a.id < b.id))
    (small : ∀ segment ∈ front ++ last.toList, segment.id < 10 ^ 16) :
    segmentFiles spool = (chainFiles front last).map (·.1) := by
  have sorted : ((chainFiles front last).map (·.1)).Pairwise (· < ·) := by
    rw [pairwise_map]
    rw [← chainFiles_segments,pairwise_map] at ascending
    refine ascending.imp_of_mem fun {left right} leftIn rightIn less => ?_
    have bound (file : String × RawSegment) (mem : file ∈ chainFiles front last) : file.2.id < 10 ^ 16 :=
      small _ (by rw [← chainFiles_segments]; exact mem_map_of_mem mem)
    exact ((chainFiles_named leftIn).lt_iff (chainFiles_named rightIn) (bound _ leftIn) (bound _ rightIn) less.ne).mpr less
  have same : ∀ path, path ∈ segmentFiles spool ↔ path ∈ (chainFiles front last).map (·.1) := by
    intro path
    rw [mem_segmentFiles,mem_map]
    constructor
    · rintro ⟨inside,name⟩
      obtain ⟨segment,mem⟩ := (files path name).mp inside
      exact ⟨_,mem,rfl⟩
    rintro ⟨⟨_,segment⟩,mem,rfl⟩
    have name := isSegment_of_named (chainFiles_named mem)
    exact ⟨(files _ name).mpr ⟨segment,mem⟩,name⟩
  have perm : (segmentFiles spool).Perm ((chainFiles front last).map (·.1)) :=
    (perm_ext_iff_of_nodup ((segmentFiles_sorted spool).imp ne_of_lt) (sorted.imp ne_of_lt)).mpr same
  exact perm.eq_of_pairwise (fun a b _ _ ab ba => absurd ba ab.asymm) (segmentFiles_sorted spool) sorted

variable (segment : RawSegment) (files : List (String × RawSegment))

lemma readSegment_raw (accepted : ∀ record ∈ segment.records, Accepted codec record)
    (fits : segment.id < 2 ^ 64) (truncateTail : Bool) : readSegment codec segment.bytes truncateTail =
      .ok (storedRaw segment.id segmentHeaderSize segment.records,segment.bytes) := by
  have loop := readRecords_raw accepted segment.id segmentHeaderSize truncateTail [] []
  rw [append_nil,readRecords_eof (nextRecord_eof.mpr rfl)] at loop
  rw [RawSegment.bytes,readSegment_header fits,loop]
  simp

def Torn (codec : Codec) (tail : Bytes) : Prop :=
  tail = [] ∨ ∃ record, Accepted codec record ∧ tail <+: record.bytes ∧ tail ≠ record.bytes

lemma readSegment_torn (accepted : ∀ record ∈ segment.records, Accepted codec record)
    {tail} (fits : segment.id < 2 ^ 64) (torn : Torn codec tail) : readSegment codec (segment.bytes ++ tail) true =
      .ok (storedRaw segment.id segmentHeaderSize segment.records,segment.bytes) := by
  rcases torn with rfl | ⟨record,known,part,proper⟩
  · rw [append_nil]
    exact readSegment_raw segment accepted fits true
  have size : segment.bytes.length = segmentHeaderSize + (rawBytes segment.records).length := by simp [RawSegment.bytes]
  have shape : segment.bytes ++ tail = encodeSegmentHeader segment.id segment.createdAt ++ (rawBytes segment.records ++ tail) := by
    simp [RawSegment.bytes]
  rw [shape,readSegment_header fits,readRecords_raw accepted,← shape]
  rcases nextRecord_prefix (by simpa using known []) part proper with ended | ⟨cause,cut⟩
  · rw [readRecords_eof ended,nextRecord_eof.mp ended]
    simp
  · rw [readRecords_cut cut]
    simp [truncateOrError,← size]

def chainStored (files : List (String × RawSegment)) : List StoredBatch :=
  files.flatMap fun file => storedRaw file.2.id segmentHeaderSize file.2.records

lemma batchesOf_chain
    (bytes : ∀ file ∈ files, fileAt spool file.1 = file.2.bytes) (fits : ∀ file ∈ files, file.2.id < 2 ^ 64)
    (accepted : ∀ record ∈ chainRecords files, Accepted codec record) :
    batchesOf codec spool (files.map (·.1)) = .ok (chainStored files) := by
  induction files with
  | nil => rfl
  | cons file files ih =>
    have first := readSegment_raw file.2 (fun record mem => accepted record (by simp [chainRecords,mem]))
      (fits file (by simp)) false
    have rest := ih (fun other mem => bytes other (by simp [mem])) (fun other mem => fits other (by simp [mem]))
      (fun record mem => accepted record (mem_append.mpr (.inr mem)))
    simp only [map_cons,batchesOf,bytes file (by simp),first,rest]
    rfl

@[simp] lemma storedRaw_batches (segmentID offset : Nat) (records : List RawRecord) :
    (storedRaw segmentID offset records).map (·.batch) = records.map (·.batch) := by
  induction records generalizing offset with
  | nil => rfl
  | cons record records ih => simp [storedRaw,ih]

lemma chainStored_batches : (chainStored files).map (·.batch) = (chainRecords files).map (·.batch) := by
  simp [chainStored,chainRecords,map_flatMap]

def Decided (codec : Codec) (record : RawRecord) : Prop :=
  (∃ cause, ∀ rest, nextRecord codec (record.bytes ++ rest) = .bad cause) ∨
    ∃ found stamp, ∀ rest, nextRecord codec (record.bytes ++ rest) = .record found stamp record.bytes.length

lemma readRecords_decided (records : List RawRecord) (decided : ∀ record ∈ records, Decided codec record)
    (ok : readRecords codec segmentID truncateTail (rawBytes records) offset out = .ok (result,cut)) :
    ∃ taken : List RawRecord, taken.map (·.bytes) = records.map (·.bytes) ∧ (∀ record ∈ taken, Accepted codec record) ∧
      result.map (·.batch) = out.map (·.batch) ++ taken.map (·.batch) := by
  induction records generalizing offset out with
  | nil =>
    rw [rawBytes,flatMap_nil,readRecords_eof (nextRecord_eof.mpr rfl)] at ok
    cases ok
    exact ⟨[],rfl,by simp,by simp⟩
  | cons record records ih =>
    have split : rawBytes (record :: records) = record.bytes ++ rawBytes records := by simp [rawBytes]
    rw [split] at ok
    rcases decided record (by simp) with ⟨cause,bad⟩ | ⟨found,stamp,whole⟩
    · rw [readRecords_bad (bad _)] at ok
      cases ok
    rw [readRecords_record (whole _),drop_left] at ok
    obtain ⟨taken,same,accepted,batches⟩ := ih (fun other mem => decided other (by simp [mem])) ok
    refine ⟨⟨record.bytes,found,stamp⟩ :: taken,by simp [same],?_,by simp [batches]⟩
    rintro other (_ | ⟨_,later⟩)
    · exact whole
    · exact accepted other later

lemma batchesOf_decided
    (bytes : ∀ file ∈ files, fileAt spool file.1 = file.2.bytes) (fits : ∀ file ∈ files, file.2.id < 2 ^ 64)
    (decided : ∀ record ∈ chainRecords files, Decided codec record)
    (ok : batchesOf codec spool (files.map (·.1)) = .ok result) :
    ∃ taken : List RawRecord, taken.map (·.bytes) = (chainRecords files).map (·.bytes) ∧
      (∀ record ∈ taken, Accepted codec record) ∧ result.map (·.batch) = taken.map (·.batch) := by
  induction files generalizing result with
  | nil =>
    cases ok
    exact ⟨[],rfl,by simp,rfl⟩
  | cons file files ih =>
    simp only [map_cons,batchesOf] at ok
    split at ok
    · rename_i batches left later read rest
      cases ok
      obtain ⟨behind,sameBehind,acceptedBehind,batchesBehind⟩ := ih (fun other mem => bytes other (by simp [mem]))
        (fun other mem => fits other (by simp [mem]))
        (fun record mem => decided record (mem_append.mpr (.inr mem))) rest
      rw [bytes file (by simp),RawSegment.bytes,readSegment_header (fits file (by simp))] at read
      have loop : ∃ cut, readRecords codec file.2.id false (rawBytes file.2.records) segmentHeaderSize [] = .ok (batches,cut) := by
        split at read
        · cases read
        · cases read
          exact ⟨_,‹_›⟩
        · cases read
          exact ⟨_,‹_›⟩
      obtain ⟨cut,loop⟩ := loop
      obtain ⟨here,same,accepted,taken⟩ := readRecords_decided _
        (fun record mem => decided record (mem_append.mpr (.inl mem))) loop
      refine ⟨here ++ behind,by simp [same,sameBehind,chainRecords],?_,by simpa [batchesBehind] using taken⟩
      intro record mem
      rcases mem_append.mp mem with front | back
      · exact accepted record front
      · exact acceptedBehind record back
    · cases ok
    · cases ok

end Reading

end SysArmor.LocalStore
