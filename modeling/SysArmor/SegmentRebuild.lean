import SysArmor.ChainAppends

/-! Recovery of a spool file by file: what each turn leaves and when it goes through. -/
namespace SysArmor.LocalStore
open ByteWords Proto Digits List


structure RawSegment.SequencesFit (segment : RawSegment) : Prop where
  first : ∀ record ∈ segment.records.head?, record.sequence < 2 ^ 63
  last : ∀ record ∈ segment.records.getLast?, record.sequence < 2 ^ 63

section Rebuilding
variable {codec : Codec} {start s after : Store} {files : List (String × RawSegment)} {file : String × RawSegment}

structure Recoverable (codec : Codec) (spool : Directory) (file : String × RawSegment) : Prop where
  present : file.1 ∈ spool
  named : NamedAfter file.1 file.2.id
  id : file.2.id < 2 ^ 63
  read : readSegment codec (fileAt spool file.1) (hasSuffix file.1 ".open") =
    .ok (storedRaw file.2.id segmentHeaderSize file.2.records,file.2.bytes)

variable (segmentID offset : Nat) (records : List RawRecord)

lemma storedRaw_sequences :
    (storedRaw segmentID offset records).map (·.position.batchSequence) = records.map (·.sequence) := by
  induction records generalizing offset with
  | nil => rfl
  | cons record records ih => simp [storedRaw,ih]

lemma storedRaw_ids :
    (storedRaw segmentID offset records).map (·.position.batchID) = records.map (·.batch.getHeader.batchId) := by
  induction records generalizing offset with
  | nil => rfl
  | cons record records ih => simp [storedRaw,ih]

lemma recoveredWriter_raw (path : String) (segment : RawSegment) (fits : segment.id < 2 ^ 64) :
    ∃ writer, recoveredWriter path segment.bytes (storedRaw segment.id segmentHeaderSize segment.records) = .ok writer ∧
      writer.id = segment.id ∧ writer.path = path ∧ writer.size = segment.bytes.length ∧
      ((writer.firstSequence < 2 ^ 63 ∧ writer.lastSequence < 2 ^ 63) ↔ segment.SequencesFit) := by
  obtain ⟨id,createdAt,records⟩ := segment
  have length := encodeSegmentHeader_length id createdAt
  cases records with
  | nil =>
    refine ⟨{ id, path, size := segmentHeaderSize },?_,rfl,rfl,by simp [RawSegment.bytes,rawBytes],?_⟩
    · simp only [recoveredWriter,storedRaw,RawSegment.bytes,rawBytes,flatMap_nil,append_nil,length]
      rw [if_neg (by omega),take_of_length_le (by omega),parseSegmentHeader_encode fits]
    · exact ⟨fun _ => ⟨by simp,by simp⟩,fun _ => ⟨zero_fits,zero_fits⟩⟩
  | cons record records =>
    refine ⟨_,rfl,rfl,rfl,rfl,?_⟩
    have last := congrArg List.getLast? (storedRaw_sequences id segmentHeaderSize (record :: records))
    simp only [getLast?_map,storedRaw] at last
    rw [getLast?_eq_some_getLast (cons_ne_nil _ _),getLast?_eq_some_getLast (cons_ne_nil _ _)] at last
    have same := Option.some.inj last
    constructor
    · rintro ⟨low,high⟩
      refine ⟨by simpa using low,fun found mem => ?_⟩
      rw [getLast?_eq_some_getLast (cons_ne_nil _ _)] at mem
      cases mem
      exact lt_of_eq_of_lt same.symm high
    · rintro ⟨low,high⟩
      exact ⟨low record rfl,lt_of_eq_of_lt same (high _ (getLast?_eq_some_getLast (cons_ne_nil _ _)))⟩

structure Rebuilt (start s : Store) (files : List (String × RawSegment)) : Prop where
  present : ∀ path, path ∈ s.disk.spool ↔ path ∈ start.disk.spool
  bytes : ∀ file ∈ files, fileAt s.disk.spool file.1 = file.2.bytes
  others : ∀ path, path ∉ files.map (·.1) → fileAt s.disk.spool path = fileAt start.disk.spool path
  ids : ∀ id, id ∈ s.disk.segments ↔ id ∈ start.disk.segments ∨ id ∈ files.map (·.2.id)
  rows : ∀ id row, s.disk.segments.lookup id = some row → NamedAfter row.path id
  index : ∀ text, text ∈ s.batchPositions ↔
    text ∈ start.batchPositions ∨ text ∈ (chainRecords files).map (·.batch.getHeader.batchId)
  cursor : s.cursor = (chainRecords files).foldl (fun cursor record => advanceSequenceCursor cursor record.batch) start.cursor

lemma Rebuilt.refl (rows : ∀ id row, start.disk.segments.lookup id = some row → NamedAfter row.path id) :
    Rebuilt start start [] :=
  ⟨fun _ => Iff.rfl,by simp,fun _ _ => rfl,by simp,rows,by simp [chainRecords],rfl⟩

lemma mem_indexed {stored : List StoredBatch} {positions : AList (fun _ : String => Position)} {text : String} :
    text ∈ stored.foldl (fun positions entry => positions.insert entry.position.batchID entry.position) positions ↔
      text ∈ positions ∨ text ∈ stored.map (·.position.batchID) := by
  induction stored generalizing positions with
  | nil => simp
  | cons entry stored ih =>
    simp only [foldl_cons,ih,AList.mem_insert,map_cons,mem_cons]
    tauto

lemma upsertSegment_ok (done : upsertSegment d writer state outcome = (disk,.ok ())) :
    ∃ row, row.path = writer.path ∧ disk = { d with segments := d.segments.insert writer.id row } := by
  rcases upsertSegment_row d writer state outcome with ⟨-,failed⟩ | ⟨row,path,-,same⟩
  · rw [done] at failed
    exact absurd rfl failed
  · rw [done] at same
    exact ⟨row,path,same⟩

lemma upsertSegment_numbers (ok : (upsertSegment d writer state outcome).2 = .ok ()) :
    writer.firstSequence < 2 ^ 63 ∧ writer.lastSequence < 2 ^ 63 := by
  simp only [upsertSegment] at ok
  split at ok
  · cases ok
  split at ok
  · cases ok
  · split at ok
    · cases ok
    · exact ⟨by simpa using ‹¬ (2 ^ 63 : UInt64) ≤ writer.firstSequence›,by simpa using ‹¬ (2 ^ 63 : UInt64) ≤ writer.lastSequence›⟩

def rebuiltBy (s : Store) (file : String × RawSegment) (writer : SegmentWriter) (row : SegmentRow) : Store :=
  { disk := { s.disk with
      spool := s.disk.spool.insert file.1 file.2.bytes
      segments := s.disk.segments.insert file.2.id row }
    writer := if hasSuffix file.1 ".open" then some writer else s.writer
    cursor := file.2.records.foldl (fun cursor record => advanceSequenceCursor cursor record.batch) s.cursor
    batchPositions := (storedRaw file.2.id segmentHeaderSize file.2.records).foldl
      (fun positions entry => positions.insert entry.position.batchID entry.position) s.batchPositions }

lemma storedRaw_cursor (cursor : SequenceCursor) :
    (storedRaw segmentID offset records).foldl (fun cursor stored => advanceSequenceCursor cursor stored.batch) cursor =
      records.foldl (fun cursor record => advanceSequenceCursor cursor record.batch) cursor := by
  induction records generalizing offset cursor with
  | nil => rfl
  | cons record records ih => exact ih _ _

lemma recoverFile_raw (rows : ∀ id row, s.disk.segments.lookup id = some row → NamedAfter row.path id)
    (recoverable : Recoverable codec s.disk.spool file) : ((∃ after, recoverFile codec s file.1 = .ok after) ↔
      file.2.SequencesFit ∧ (hasSuffix file.1 ".open" = true → s.writer = none)) ∧
      ∀ after, recoverFile codec s file.1 = .ok after → ∃ writer row, writer.id = file.2.id ∧ writer.path = file.1 ∧
        writer.size = file.2.bytes.length ∧ row.path = file.1 ∧ after = rebuiltBy s file writer row := by
  obtain ⟨writer,built,id,path,size,fit⟩ := recoveredWriter_raw file.1 file.2 (by have := recoverable.id; omega)
  simp only [recoverFile,recoverable.read,built,storedRaw_cursor]
  generalize upserted : upsertSegment _ _ _ _ = result
  obtain ⟨disk,answer⟩ := result
  cases answer with
  | error err =>
    refine ⟨⟨by rintro ⟨_,⟨⟩⟩,fun ⟨numbers,_⟩ => ?_⟩,by rintro _ ⟨⟩⟩
    obtain ⟨first,last⟩ := fit.mpr numbers
    have done := upsertSegment_done (d := writeFile s.disk file.1 file.2.bytes) rows
      (by rw [path,id]; exact recoverable.named) (by rw [id]; exact recoverable.id) first last
      (if hasSuffix file.1 ".open" then .open else .sealed)
    rw [upserted] at done
    cases done
  | ok =>
    have numbers := fit.mp (upsertSegment_numbers (congrArg Prod.snd upserted))
    obtain ⟨row,rowPath,rfl⟩ := upsertSegment_ok upserted
    rw [path] at rowPath
    cases opened : hasSuffix file.1 ".open" with
    | false =>
      refine ⟨⟨fun _ => ⟨numbers,by simp⟩,fun _ => ⟨_,rfl⟩⟩,?_⟩
      rintro _ ⟨⟩
      exact ⟨writer,row,id,path,size,rowPath,by simp [rebuiltBy,opened,writeFile,id]⟩
    | true =>
      cases vacant : s.writer with
      | some other => exact ⟨⟨by rintro ⟨_,⟨⟩⟩,by simp⟩,by rintro _ ⟨⟩⟩
      | none =>
        refine ⟨⟨fun _ => ⟨numbers,fun _ => rfl⟩,fun _ => ⟨_,rfl⟩⟩,?_⟩
        rintro _ ⟨⟩
        exact ⟨writer,row,id,path,size,rowPath,by simp [rebuiltBy,opened,writeFile,id]⟩

lemma Rebuilt.turn (rebuilt : Rebuilt start s files) (fresh : file.1 ∉ files.map (·.1))
    (recoverable : Recoverable codec start.disk.spool file) : ((∃ after, recoverFile codec s file.1 = .ok after) ↔
      file.2.SequencesFit ∧ (hasSuffix file.1 ".open" = true → s.writer = none)) ∧
      ∀ after, recoverFile codec s file.1 = .ok after → Rebuilt start after (files ++ [file]) ∧
        ∃ writer, writer.id = file.2.id ∧ writer.path = file.1 ∧ writer.size = file.2.bytes.length ∧
          after.writer = if hasSuffix file.1 ".open" then some writer else s.writer := by
  have here : Recoverable codec s.disk.spool file :=
    ⟨(rebuilt.present _).mpr recoverable.present,recoverable.named,recoverable.id,by
      rw [rebuilt.others _ fresh]; exact recoverable.read⟩
  obtain ⟨succeeds,shape⟩ := recoverFile_raw rebuilt.rows here
  refine ⟨succeeds,fun after done => ?_⟩
  obtain ⟨writer,row,id,path,size,rowPath,rfl⟩ := shape after done
  refine ⟨⟨fun other => ?_,fun other mem => ?_,fun other absent => ?_,fun other => ?_,fun other found lookup => ?_,
    fun text => ?_,?_⟩,writer,id,path,size,rfl⟩
  · simp only [rebuiltBy,AList.mem_insert,rebuilt.present]
    exact or_iff_right_of_imp fun same => same ▸ recoverable.present
  · simp only [rebuiltBy,fileAt_insert]
    rcases mem_append.mp mem with old | new
    · have distinct : other.1 ≠ file.1 := fun same => fresh (same ▸ mem_map_of_mem old)
      rw [if_neg distinct]
      exact rebuilt.bytes other old
    · rw [mem_singleton.mp new,if_pos rfl]
  · simp only [rebuiltBy,fileAt_insert]
    rw [if_neg (fun same => absent (by simp [same])),rebuilt.others other (fun old => absent (by simp_all))]
  · simp only [rebuiltBy,AList.mem_insert,rebuilt.ids,map_append,mem_append,map_cons,map_nil,mem_singleton]
    rw [or_comm,or_assoc]
  · simp only [rebuiltBy] at lookup
    rcases AssocCount.lookup_insert_cases lookup with ⟨rfl,rfl⟩ | old
    · rw [rowPath]
      exact recoverable.named
    · exact rebuilt.rows other found old
  · simp only [rebuiltBy,mem_indexed,rebuilt.index,storedRaw_ids,chainRecords,flatMap_append,flatMap_singleton,
      map_append,mem_append]
    exact or_assoc
  · simp only [rebuiltBy,rebuilt.cursor,chainRecords,flatMap_append,flatMap_singleton,foldl_append]

def OneOpen (files : List (String × RawSegment)) : Prop :=
  files.Pairwise fun a b => hasSuffix a.1 ".open" = true → hasSuffix b.1 ".open" = false

lemma Rebuilt.run (todo : List (String × RawSegment)) (rebuilt : Rebuilt start s files)
    (nodup : ((files ++ todo).map (·.1)).Nodup) (recoverable : ∀ file ∈ todo, Recoverable codec start.disk.spool file)
    (single : OneOpen todo) (vacant : ∀ file ∈ todo, hasSuffix file.1 ".open" = true → s.writer = none) :
    ((∃ after, recoverFiles codec (todo.map (·.1)) s = .ok after) ↔ ∀ file ∈ todo, file.2.SequencesFit) ∧
      ∀ after, recoverFiles codec (todo.map (·.1)) s = .ok after → Rebuilt start after (files ++ todo) ∧
        ((∀ file ∈ todo, hasSuffix file.1 ".open" = false) → after.writer = s.writer) ∧
        ∀ file ∈ todo, hasSuffix file.1 ".open" = true → ∃ writer, after.writer = some writer ∧
          writer.id = file.2.id ∧ writer.path = file.1 ∧ writer.size = file.2.bytes.length := by
  induction todo generalizing s files with
  | nil =>
    refine ⟨⟨by simp,fun _ => ⟨s,rfl⟩⟩,?_⟩
    rintro _ ⟨⟩
    exact ⟨by simpa using rebuilt,fun _ => rfl,by simp⟩
  | cons file todo ih =>
    have fresh : file.1 ∉ files.map (·.1) := by
      simp only [map_append,map_cons] at nodup
      exact fun inside => (nodup_append.mp nodup).2.2 _ inside _ (by simp) rfl
    obtain ⟨succeeds,shape⟩ := rebuilt.turn fresh (recoverable file (by simp))
    obtain ⟨others,single⟩ := pairwise_cons.mp single
    simp only [map_cons,recoverFiles]
    cases turn : recoverFile codec s file.1 with
    | error err =>
      refine ⟨⟨by rintro ⟨_,⟨⟩⟩,fun fits => ?_⟩,by rintro _ ⟨⟩⟩
      obtain ⟨after,done⟩ := succeeds.mpr ⟨fits file (by simp),vacant file (by simp)⟩
      rw [turn] at done
      cases done
    | ok middle =>
      obtain ⟨next,writer,id,path,size,set⟩ := shape middle turn
      have free : ∀ other ∈ todo, hasSuffix other.1 ".open" = true → middle.writer = none := by
        intro other mem opened
        have shut : hasSuffix file.1 ".open" = false := by
          by_contra own
          rw [others other mem (by simpa using own)] at opened
          cases opened
        rw [set,shut]
        exact vacant other (by simp [mem]) opened
      obtain ⟨rest,final⟩ := ih next (by simpa using nodup) (fun other mem => recoverable other (by simp [mem]))
        single free
      refine ⟨?_,fun after done => ?_⟩
      · rw [rest,forall_mem_cons]
        exact (and_iff_right (succeeds.mp ⟨middle,turn⟩).1).symm
      obtain ⟨final,kept,opens⟩ := final after done
      refine ⟨by simpa using final,fun closed => ?_,fun other mem opened => ?_⟩
      · rw [kept fun other mem => closed other (by simp [mem]),set,closed file (by simp)]
        rfl
      rcases mem_cons.mp mem with rfl | later
      · refine ⟨writer,?_,id,path,size⟩
        rw [kept fun other mem => others other mem opened,set,opened]
        rfl
      · exact opens other later opened

end Rebuilding

lemma largerSequence_lt_iff : largerSequence current other < bound ↔ current < bound ∧ other < bound := by
  simp only [largerSequence]
  split
  · rename_i less
    exact ⟨fun low => ⟨UInt64.lt_trans less low,low⟩,fun both => both.2⟩
  · rename_i greater
    exact ⟨fun low => ⟨low,UInt64.lt_of_le_of_lt (UInt64.not_lt.mp greater) low⟩,fun both => both.1⟩

lemma cursor_fits_iff {records : List RawRecord} {cursor : SequenceCursor} :
    (records.foldl (fun cursor record => advanceSequenceCursor cursor record.batch) cursor).Fits ↔
      cursor.Fits ∧ ∀ record ∈ records,
        record.batch.getHeader.eventSeqEnd < 2 ^ 63 ∧ record.batch.getHeader.signalSeqEnd < 2 ^ 63 := by
  induction records generalizing cursor with
  | nil => simp
  | cons record records ih =>
    have step : (advanceSequenceCursor cursor record.batch).Fits ↔ cursor.Fits ∧
        record.batch.getHeader.eventSeqEnd < 2 ^ 63 ∧ record.batch.getHeader.signalSeqEnd < 2 ^ 63 := by
      constructor
      · rintro ⟨event,signal⟩
        obtain ⟨event,eventEnd⟩ := largerSequence_lt_iff.mp event
        obtain ⟨signal,signalEnd⟩ := largerSequence_lt_iff.mp signal
        exact ⟨⟨event,signal⟩,eventEnd,signalEnd⟩
      · rintro ⟨⟨event,signal⟩,eventEnd,signalEnd⟩
        exact ⟨largerSequence_lt event eventEnd,largerSequence_lt signal signalEnd⟩
    rw [foldl_cons,ih,step,forall_mem_cons,and_assoc]

lemma persistSequenceCursor_done (d : Disk) (cursor : SequenceCursor) :
    (persistSequenceCursor d cursor .done).2 = .ok () ↔ cursor.Fits := by
  simp only [persistSequenceCursor]
  split
  · rename_i large
    exact ⟨by simp,fun fits => absurd fits.event (UInt64.not_lt.mpr large)⟩
  split
  · rename_i large
    exact ⟨by simp,fun fits => absurd fits.signal (UInt64.not_lt.mpr large)⟩
  · rename_i event signal
    exact ⟨fun _ => ⟨UInt64.not_le.mp event,UInt64.not_le.mp signal⟩,fun _ => rfl⟩

structure NumbersFit (files : List (String × RawSegment)) : Prop where
  sequences : ∀ file ∈ files, file.2.SequencesFit
  ends : ∀ record ∈ chainRecords files,
    record.batch.getHeader.eventSeqEnd < 2 ^ 63 ∧ record.batch.getHeader.signalSeqEnd < 2 ^ 63

variable {last : Option RawSegment}

lemma chainFiles_oneOpen : OneOpen (chainFiles front last) := by
  refine pairwise_append.mpr ⟨?_,by cases last <;> simp,?_⟩
  · rw [pairwise_map]
    exact pairwise_of_forall fun _ _ => by simp [hasSuffix_sealedPath]
  · intro file mem _ _ opened
    obtain ⟨segment,-,rfl⟩ := mem_map.mp mem
    rw [hasSuffix_sealedPath] at opened
    cases opened

lemma segmentFiles_congr {a b : Directory} (same : ∀ path, path ∈ a ↔ path ∈ b) : segmentFiles a = segmentFiles b := by
  have perm : (segmentFiles a).Perm (segmentFiles b) := by
    refine (perm_ext_iff_of_nodup ((segmentFiles_sorted a).imp ne_of_lt) ((segmentFiles_sorted b).imp ne_of_lt)).mpr ?_
    intro path
    rw [mem_segmentFiles,mem_segmentFiles,same]
  exact perm.eq_of_pairwise (fun _ _ _ _ ab ba => absurd ba ab.asymm) (segmentFiles_sorted a) (segmentFiles_sorted b)

lemma recoverSegments_chain {front : List RawSegment} {todo : List (String × RawSegment)}
    (files : ∀ path, isSegment path = true → (path ∈ d.spool ↔ ∃ segment, (path,segment) ∈ chainFiles front last))
    (ascending : (front ++ last.toList).Pairwise (fun a b => a.id < b.id)) (perm : todo.Perm (chainFiles front last))
    (names : segmentFiles d.spool = todo.map (·.1)) (recoverable : ∀ file ∈ todo, Recoverable codec d.spool file)
    (rows : ∀ id row, d.segments.lookup id = some row → NamedAfter row.path id) (cursor : d.cursor.Fits) :
    ((∃ s, recoverSegments codec d = .ok s) ↔ NumbersFit todo) ∧ ∀ s, recoverSegments codec d = .ok s → Chain s front last [] ∧
        (∀ file ∈ todo, fileAt s.disk.spool file.1 = file.2.bytes) ∧ segmentFiles s.disk.spool = todo.map (·.1) ∧
        (∀ text, text ∈ s.batchPositions ↔ text ∈ (chainRecords todo).map (·.batch.getHeader.batchId)) ∧
        (∀ id ∈ s.disk.segments, id ∈ d.segments ∨ id ∈ (front ++ last.toList).map (·.id)) ∧
        ∀ segment ∈ front ++ last.toList, segment.id ∈ s.disk.segments := by
  have listed (file : String × RawSegment) : file ∈ todo ↔ file ∈ chainFiles front last := perm.mem_iff
  have nodup : (todo.map (·.1)).Nodup := names ▸ (segmentFiles_sorted d.spool).imp ne_of_lt
  have single : OneOpen todo := (chainFiles_oneOpen).perm perm.symm fun apart other => by
    by_contra own
    rw [apart (by simpa using own)] at other
    cases other
  have initial : Rebuilt { disk := d, cursor := d.cursor } { disk := d, cursor := d.cursor } [] := .refl rows
  obtain ⟨succeeds,shapes⟩ := initial.run todo (by simpa using nodup) recoverable single (fun _ _ _ => rfl)
  rw [← names] at succeeds shapes
  rw [nil_append] at shapes
  simp only [recoverSegments]
  cases rebuilding : recoverFiles codec (segmentFiles d.spool) { disk := d, cursor := d.cursor } with
  | error err =>
    refine ⟨⟨by rintro ⟨_,⟨⟩⟩,fun fits => ?_⟩,by rintro _ ⟨⟩⟩
    obtain ⟨after,done⟩ := succeeds.mpr fits.sequences
    rw [rebuilding] at done
    cases done
  | ok middle =>
    obtain ⟨rebuilt,vacant,writers⟩ := shapes middle rebuilding
    have numbers := succeeds.mp ⟨middle,rebuilding⟩
    have persists := persistSequenceCursor_done middle.disk middle.cursor
    rw [rebuilt.cursor,cursor_fits_iff,and_iff_right cursor,← rebuilt.cursor] at persists
    obtain ⟨written,same,-⟩ := persistSequenceCursor_cases middle.disk middle.cursor .done
    dsimp only
    generalize persistSequenceCursor middle.disk middle.cursor .done = result at persists same ⊢
    obtain ⟨disk,answer⟩ := result
    obtain rfl := same
    cases answer with
    | error err =>
      dsimp only
      refine ⟨⟨by rintro ⟨_,⟨⟩⟩,fun fits => ?_⟩,by rintro _ ⟨⟩⟩
      cases persists.mpr fits.ends
    | ok =>
      dsimp only
      refine ⟨⟨fun _ => ⟨numbers,persists.mp rfl⟩,fun _ => ⟨_,rfl⟩⟩,?_⟩
      rintro _ ⟨⟩
      have ids : ∀ id, id ∈ todo.map (·.2.id) ↔ id ∈ (front ++ last.toList).map (·.id) := by
        intro id
        rw [← chainFiles_segments,map_map]
        exact (perm.map _).mem_iff
      have mine (segment : RawSegment) (mem : segment ∈ front ++ last.toList) : segment.id ∈ middle.disk.segments :=
        (rebuilt.ids _).mpr (.inr ((ids _).mpr (mem_map_of_mem mem)))
      refine ⟨⟨fun path name => ?_,fun segment mem => ?_,fun segment here => ?_,ascending,fun segment mem => ?_,
        fun segment mem => .inl (mine segment mem),fun segment here => ?_,fun writer set usable => ?_,rebuilt.rows⟩,
        rebuilt.bytes,?_,fun text => by rw [rebuilt.index]; simp,fun id mem => ?_,mine⟩
      · rw [rebuilt.present,files path name]
      · exact rebuilt.bytes _ ((listed _).mpr (mem_chainFiles.mpr (.inl ⟨mem,rfl⟩)))
      · rw [append_nil]
        exact rebuilt.bytes _ ((listed _).mpr (mem_chainFiles.mpr (.inr ⟨here,rfl⟩)))
      · rw [← chainFiles_segments] at mem
        obtain ⟨file,inside,rfl⟩ := mem_map.mp mem
        exact (recoverable file ((listed _).mpr inside)).id
      · obtain ⟨writer,set,id,path,-⟩ := writers _ ((listed _).mpr (mem_chainFiles.mpr (.inr ⟨here,rfl⟩)))
          (hasSuffix_openPath _)
        exact ⟨writer,set,id,path⟩
      · cases last with
        | some segment =>
          obtain ⟨_,found,-,-,size⟩ := writers _ ((listed _).mpr (mem_chainFiles.mpr (.inr ⟨rfl,rfl⟩))) (hasSuffix_openPath _)
          cases set.symm.trans found
          exact ⟨segment,rfl,size.le⟩
        | none =>
          rw [vacant fun file mem => ?_] at set
          · cases set
          rcases mem_chainFiles.mp ((listed file).mp mem) with ⟨-,path⟩ | ⟨impossible,-⟩
          · rw [path,hasSuffix_sealedPath]
          · cases impossible
      · rw [← names]
        exact segmentFiles_congr rebuilt.present
      · rw [rebuilt.ids,ids] at mem
        exact mem

end SysArmor.LocalStore
