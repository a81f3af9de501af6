import SysArmor.SegmentRebuild

/-! Recovery of a spool whose open segment was cut at any byte behind its header: which records
it keeps, when it goes through, and what appends after it leave for the reader. -/
namespace SysArmor.LocalStore
open ByteWords Proto Digits List

variable {sequence : UInt64}

def completeBefore : Nat → List RawRecord → List RawRecord
  | _, [] => []
  | room, record :: records =>
    if record.bytes.length ≤ room then record :: completeBefore (room - record.bytes.length) records else []

def RawSegment.before (segment : RawSegment) (cut : Nat) : RawSegment :=
  { segment with records := completeBefore (cut - segmentHeaderSize) segment.records }

lemma mem_completeBefore (mem : record ∈ completeBefore room records) : record ∈ records := by
  induction records generalizing room with
  | nil => cases mem
  | cons first records ih =>
    simp only [completeBefore] at mem
    split at mem
    · rcases mem_cons.mp mem with rfl | later
      · simp
      · exact mem_cons_of_mem _ (ih later)
    · cases mem

lemma take_rawBytes (room : Nat) (records : List RawRecord) :
    ∃ tail, (rawBytes records).take room = rawBytes (completeBefore room records) ++ tail ∧
      (tail = [] ∨ ∃ record ∈ records, tail <+: record.bytes ∧ tail ≠ record.bytes) := by
  induction records generalizing room with
  | nil => exact ⟨[],by simp [rawBytes,completeBefore],.inl rfl⟩
  | cons record records ih =>
    have split : rawBytes (record :: records) = record.bytes ++ rawBytes records := by simp [rawBytes]
    rw [split,take_append,completeBefore]
    split
    · rename_i fits
      obtain ⟨tail,same,torn⟩ := ih (room - record.bytes.length)
      refine ⟨tail,?_,torn.imp_right (by rintro ⟨other,mem,part⟩; exact ⟨other,by simp [mem],part⟩)⟩
      rw [take_of_length_le fits,same]
      simp [rawBytes]
    · rename_i short
      have none : room - record.bytes.length = 0 := by omega
      refine ⟨record.bytes.take room,by simp [none,rawBytes],.inr ⟨record,by simp, take_prefix _ _,fun same => ?_⟩⟩
      have length := congrArg List.length same
      rw [length_take] at length
      omega

lemma readSegment_cut (segment : RawSegment) (accepted : ∀ record ∈ segment.records, Accepted codec record)
    (fits : segment.id < 2 ^ 64) (header : segmentHeaderSize ≤ cut) : readSegment codec (segment.bytes.take cut) true =
      .ok (storedRaw segment.id segmentHeaderSize (segment.before cut).records,(segment.before cut).bytes) := by
  obtain ⟨tail,shape,torn⟩ := take_rawBytes (cut - segmentHeaderSize) segment.records
  have file : segment.bytes.take cut = (segment.before cut).bytes ++ tail := by
    rw [RawSegment.bytes,take_append,take_of_length_le (by simpa using header),encodeSegmentHeader_length,shape,
      ← append_assoc]
    rfl
  rw [file]
  exact readSegment_torn (segment.before cut) (fun record mem => accepted record (mem_completeBefore mem)) fits
    (torn.imp_right (by rintro ⟨record,mem,part⟩; exact ⟨record,accepted record mem,part⟩))

structure TornSpool (codec : Codec) (d : Disk) (front : List RawSegment) (torn : RawSegment) (cut : Nat) : Prop where
  files : ∀ path, isSegment path = true → (path ∈ d.spool ↔ ∃ segment, (path,segment) ∈ chainFiles front (some torn))
  closed : ∀ segment ∈ front, fileAt d.spool (sealedPath segment.id) = segment.bytes
  opened : fileAt d.spool (openPath torn.id) = torn.bytes.take cut
  header : segmentHeaderSize ≤ cut
  ascending : (front ++ [torn]).Pairwise (fun a b => a.id < b.id)
  accepted : ∀ segment ∈ front ++ [torn], ∀ record ∈ segment.records, Accepted codec record
  rows : ∀ id row, d.segments.lookup id = some row → NamedAfter row.path id
  cursor : d.cursor.Fits

section Torn
variable {codec : Codec} {segmentSize cut : Nat} {d : Disk} {front : List RawSegment} {torn : RawSegment}

def recoveredFiles (front : List RawSegment) (torn : RawSegment) (cut : Nat) : List (String × RawSegment) :=
  chainFiles front (some (torn.before cut))

lemma mem_recoveredFiles : (∃ segment, (path,segment) ∈ chainFiles front (some torn)) ↔
    ∃ segment, (path,segment) ∈ recoveredFiles front torn cut := by
  simp only [recoveredFiles,mem_chainFiles,Option.some.injEq]
  constructor
  · rintro ⟨segment,old | ⟨rfl,here⟩⟩
    · exact ⟨segment,.inl old⟩
    · exact ⟨_,.inr ⟨rfl,here⟩⟩
  rintro ⟨segment,old | ⟨rfl,here⟩⟩
  · exact ⟨segment,.inl old⟩
  · exact ⟨_,.inr ⟨rfl,here⟩⟩

lemma TornSpool.recoverable (spool : TornSpool codec d front torn cut)
    (small : ∀ segment ∈ front ++ [torn], segment.id < 10 ^ 16) :
    ∀ file ∈ recoveredFiles front torn cut, Recoverable codec d.spool file := by
  rintro ⟨path,segment⟩ mem
  rcases mem_chainFiles.mp mem with ⟨inside,rfl⟩ | ⟨same,rfl⟩
  · have bound := small segment (by simp [inside])
    refine ⟨(spool.files _ (isSegment_of_named (.inr rfl))).mpr ⟨segment,mem_chainFiles.mpr (.inl ⟨inside,rfl⟩)⟩,.inr rfl,
      by dsimp only; omega,?_⟩
    simp only [spool.closed segment inside]
    exact readSegment_raw segment (spool.accepted segment (by simp [inside])) (by omega) _
  · cases same
    have bound := small torn (by simp)
    refine ⟨(spool.files _ (isSegment_of_named (.inl rfl))).mpr ⟨torn,mem_chainFiles.mpr (.inr ⟨rfl,rfl⟩)⟩,.inl rfl,
      by dsimp only [RawSegment.before]; omega,?_⟩
    simp only [RawSegment.before,hasSuffix_openPath,spool.opened]
    exact readSegment_cut torn (spool.accepted torn (by simp)) (by omega) spool.header

lemma TornSpool.recovered (spool : TornSpool codec d front torn cut)
    (small : ∀ segment ∈ front ++ [torn], segment.id < 10 ^ 16) :
    ((∃ s, recoverSegments codec d = .ok s) ↔ NumbersFit (recoveredFiles front torn cut)) ∧
      ∀ s, recoverSegments codec d = .ok s → Chain s front (some (torn.before cut)) [] ∧ (∀ text, text ∈ s.batchPositions ↔
          text ∈ (chainRecords (recoveredFiles front torn cut)).map (·.batch.getHeader.batchId)) ∧
        ∀ id ∈ s.disk.segments, id ∈ d.segments ∨ id ∈ (front ++ [torn]).map (·.id) := by
  have ascending : (front ++ (some (torn.before cut)).toList).Pairwise (fun a b => a.id < b.id) := by
    obtain ⟨inside,-,across⟩ := pairwise_append.mp spool.ascending
    refine pairwise_append.mpr ⟨inside,by simp,fun a mem b here => ?_⟩
    cases Option.mem_toList.mp here
    exact across a mem torn (by simp)
  have names : segmentFiles d.spool = (recoveredFiles front torn cut).map (·.1) := by
    rw [segmentFiles_chain spool.files spool.ascending small]
    simp [recoveredFiles,chainFiles,RawSegment.before]
  obtain ⟨succeeds,shapes⟩ := recoverSegments_chain (fun path name => (spool.files path name).trans mem_recoveredFiles)
    ascending (List.Perm.refl _) names (spool.recoverable small) spool.rows spool.cursor
  refine ⟨succeeds,fun s done => ?_⟩
  obtain ⟨chain,-,-,index,ids,-⟩ := shapes s done
  exact ⟨chain,index,by simpa [RawSegment.before] using ids⟩

lemma Chain.bytes (chain : Chain s front last []) : ∀ file ∈ chainFiles front last, fileAt s.disk.spool file.1 = file.2.bytes := by
  rintro ⟨path,segment⟩ mem
  rcases mem_chainFiles.mp mem with ⟨inside,rfl⟩ | ⟨same,rfl⟩
  · exact chain.closed segment inside
  · simpa using chain.opened segment same

section
variable {tail : Bytes} (chain : Chain s front last tail)
include chain

lemma Chain.le (below : s.Below most) : ∀ segment ∈ front ++ last.toList, segment.id ≤ most := by
  intro segment mem
  rcases chain.covered segment mem with row | ⟨writer,set,same⟩
  · exact below.1 _ row
  · exact same ▸ below.2 writer set

lemma Chain.spoolBatches_eq (small : ∀ segment ∈ front ++ last.toList, segment.id < 10 ^ 16) :
    spoolBatches codec s.disk.spool = batchesOf codec s.disk.spool ((chainFiles front last).map (·.1)) := by
  rw [spoolBatches,segmentFiles_chain chain.files chain.ascending small]

lemma Chain.fits : ∀ file ∈ chainFiles front last, file.2.id < 2 ^ 64 := by
  intro file mem
  have segment : file.2 ∈ front ++ last.toList := by
    rw [← chainFiles_segments]
    exact mem_map_of_mem mem
  exact (chain.bound _ segment).trans (by decide)

end

lemma Chain.read_iff (chain : Chain s front last []) (small : ∀ segment ∈ front ++ last.toList, segment.id < 10 ^ 16)
    (records : chainRecords (chainFiles front last) = old ++ new.map (rawOf codec))
    (accepted : ∀ record ∈ old, Accepted codec record)
    (encoded : ∀ batch ∈ new, ∃ record, encodeRecord codec batch = .ok (record,batchSequence batch))
    (inverts : ∀ batch ∈ new, codec.Inverts batch) (short : ∀ batch ∈ new, (recordOf codec batch).length < 2 ^ 32) :
    (spoolBatches codec s.disk.spool).map (·.map (·.batch)) = .ok (old.map (·.batch) ++ new) ↔
      ∀ batch ∈ new, RecordFits codec batch := by
  have shape (batch : DataBatch) (mem : batch ∈ new) : ∃ record, encodeRecord codec batch = .ok (record,batchSequence batch) ∧
      recordOf codec batch = record ∧ record.length < 2 ^ 32 := by
    obtain ⟨record,ok⟩ := encoded batch mem
    have length := short batch mem
    rw [recordOf_ok ok] at length
    exact ⟨record,ok,recordOf_ok ok,length⟩
  rw [chain.spoolBatches_eq small]
  constructor
  · intro read
    cases done : batchesOf codec s.disk.spool ((chainFiles front last).map (·.1)) with
    | error err =>
      rw [done] at read
      cases read
    | ok result =>
      rw [done] at read
      have batches : result.map (·.batch) = old.map (·.batch) ++ new := Except.ok.inj read
      have decided : ∀ record ∈ chainRecords (chainFiles front last), Decided codec record := by
        rw [records]
        intro record mem
        rcases mem_append.mp mem with known | fresh
        · exact .inr ⟨_,_,accepted record known⟩
        obtain ⟨batch,inside,rfl⟩ := mem_map.mp fresh
        obtain ⟨record,ok,same,length⟩ := shape batch inside
        simp only [Decided,rawOf,same]
        exact nextRecord_total ok length
      obtain ⟨taken,sameBytes,takes,sameBatches⟩ := batchesOf_decided _ chain.bytes chain.fits decided done
      have pairs : taken.map (fun record => (record.bytes,record.batch)) =
          (old ++ new.map (rawOf codec)).map (fun record => (record.bytes,record.batch)) := by
        rw [← zip_map',← zip_map',sameBytes,records,← sameBatches,batches]
        simp [rawOf,Function.comp_def]
      intro batch inside
      obtain ⟨record,ok,same,length⟩ := shape batch inside
      have mem : (recordOf codec batch,batch) ∈ taken.map (fun record => (record.bytes,record.batch)) := by
        rw [pairs,mem_map]
        exact ⟨rawOf codec batch,mem_append.mpr (.inr (mem_map_of_mem inside)),rfl⟩
      obtain ⟨found,here,pair⟩ := mem_map.mp mem
      obtain ⟨foundBytes,foundBatch⟩ := Prod.mk.inj pair
      have reads := takes found here
      rw [Accepted,foundBytes,foundBatch,same] at reads
      exact (readable_iff (inverts batch inside) ok length).mp (readable_of_taken ok length reads)
  · intro fits
    rw [batchesOf_chain _ chain.bytes chain.fits ?_]
    · simp only [Except.map,chainStored_batches,records]
      simp [rawOf,Function.comp_def]
    rw [records]
    intro record mem
    rcases mem_append.mp mem with known | fresh
    · exact accepted record known
    obtain ⟨batch,inside,rfl⟩ := mem_map.mp fresh
    obtain ⟨record,ok,same,length⟩ := shape batch inside
    exact (readable_iff (inverts batch inside) ok length).mpr (fits batch inside)

/-- Recovery after the cut succeeds, leaves and indexes exactly the complete records, truncates the
file behind the last of them, and the batches appended afterwards are read back behind them. -/
def RecoversTorn (codec : Codec) (segmentSize : Nat) (d : Disk) (front : List RawSegment) (torn : RawSegment) (cut : Nat)
    (calls : List AppendCall) : Prop :=
  let kept := recoveredFiles front torn cut
  let known := (chainRecords kept).map (·.batch.getHeader.batchId)
  ∃ s after, recoverSegments codec d = .ok s ∧ fileAt s.disk.spool (openPath torn.id) = (torn.before cut).bytes ∧
    spoolBatches codec s.disk.spool = .ok (chainStored kept) ∧
    (∀ text, text ∈ s.batchPositions ↔ text ∈ known) ∧
    appendAll codec segmentSize calls s = .ok after ∧
    (spoolBatches codec after.disk.spool).map (·.map (·.batch)) =
      .ok ((chainRecords kept).map (·.batch) ++ newBatches known (calls.filterMap (·.batch)))

lemma mem_newBatches (mem : batch ∈ newBatches known batches) : batch ∈ batches := by
  induction batches generalizing known with
  | nil => cases mem
  | cons first batches ih =>
    simp only [newBatches] at mem
    split at mem
    · exact mem_cons_of_mem _ (ih mem)
    rcases mem_cons.mp mem with rfl | later
    · simp
    · exact mem_cons_of_mem _ (ih later)

lemma TornSpool.accepted_before (spool : TornSpool codec d front torn cut) :
    ∀ record ∈ chainRecords (recoveredFiles front torn cut), Accepted codec record := by
  intro record mem
  obtain ⟨⟨path,segment⟩,inside,here⟩ := mem_flatMap.mp mem
  rcases mem_chainFiles.mp inside with ⟨old,-⟩ | ⟨same,-⟩
  · exact spool.accepted segment (by simp [old]) record here
  · cases same
    exact spool.accepted torn (by simp) record (mem_completeBefore here)

/-- A torn spool recovers, and takes further appends, exactly when the numbers of the complete
records fit the database and the records of the appended batches fit the reader. -/
theorem torn_tail_recovers_iff (spool : TornSpool codec d front torn cut) (calls : List AppendCall)
    (small : ∀ id, id ∈ d.segments ∨ id ∈ (front ++ [torn]).map (·.id) → id + calls.length < 10 ^ 16)
    (inverts : ∀ batch ∈ calls.filterMap (·.batch), codec.Inverts batch)
    (short : ∀ batch ∈ calls.filterMap (·.batch), (recordOf codec batch).length < 2 ^ 32)
    (appended : ∀ s, recoverSegments codec d = .ok s → ∃ after, appendAll codec segmentSize calls s = .ok after) :
    RecoversTorn codec segmentSize d front torn cut calls ↔ NumbersFit (recoveredFiles front torn cut) ∧
        ∀ batch ∈ newBatches ((chainRecords (recoveredFiles front torn cut)).map (·.batch.getHeader.batchId))
          (calls.filterMap (·.batch)), RecordFits codec batch := by
  have room := small torn.id (.inr (by simp))
  obtain ⟨succeeds,shapes⟩ := spool.recovered fun segment mem => by
    have := small segment.id (.inr (mem_map_of_mem mem))
    omega
  let kept := chainRecords (recoveredFiles front torn cut)
  let added := newBatches (kept.map (·.batch.getHeader.batchId)) (calls.filterMap (·.batch))
  have below (s : Store) (recovered : recoverSegments codec d = .ok s) : s.Below (10 ^ 16 - 1 - calls.length) := by
    obtain ⟨chain,-,ids⟩ := shapes s recovered
    refine ⟨fun id mem => ?_,fun writer set => ?_⟩
    · have := small id (ids id mem)
      omega
    obtain ⟨_,found,same,-⟩ := chain.writing _ rfl
    cases set.symm.trans found
    rw [same]
    exact Nat.le_sub_of_add_le (by dsimp only [RawSegment.before]; omega)
  have reads (s after : Store) (recovered : recoverSegments codec d = .ok s)
      (ok : appendAll codec segmentSize calls s = .ok after) :
      (spoolBatches codec after.disk.spool).map (·.map (·.batch)) = .ok (kept.map (·.batch) ++ added) ↔
        ∀ batch ∈ added, RecordFits codec batch := by
    obtain ⟨chain,index,ids⟩ := shapes s recovered
    obtain ⟨⟨sealed,last,final,records⟩,low,encoded⟩ := Spooled.run calls ⟨_,_,chain,rfl⟩ (below s recovered) index ok
    exact final.read_iff (fun segment mem => by have := final.le low segment mem; omega) records spool.accepted_before
      encoded (fun batch mem => inverts batch (mem_newBatches mem)) (fun batch mem => short batch (mem_newBatches mem))
  constructor
  · rintro ⟨s,after,recovered,-,-,-,ok,read⟩
    exact ⟨succeeds.mp ⟨s,recovered⟩,(reads s after recovered ok).mp read⟩
  rintro ⟨numbers,fits⟩
  obtain ⟨s,recovered⟩ := succeeds.mpr numbers
  obtain ⟨after,ok⟩ := appended s recovered
  obtain ⟨chain,index,ids⟩ := shapes s recovered
  refine ⟨s,after,recovered,chain.bytes _ (mem_chainFiles.mpr (.inr ⟨rfl,rfl⟩)),?_,index,ok,
    (reads s after recovered ok).mpr fits⟩
  rw [chain.spoolBatches_eq fun segment mem => by have := chain.le (below s recovered) segment mem; omega]
  exact batchesOf_chain _ chain.bytes chain.fits spool.accepted_before

end Torn

def numberedBatch (sequence : UInt64) : DataBatch :=
  { header := some { batchId := "b1", eventSeqStart := sequence, eventSeqEnd := sequence } }

def firstWire : Bytes := [0x0A,0x08,0x0A,0x02,0x62,0x31,0x40,0x01,0x48,0x01]

def highWire : Bytes :=
  [0x0A,0x1A,0x0A,0x02,0x62,0x31,0x40] ++ List.replicate 9 0x80 ++ [0x01,0x48] ++ List.replicate 9 0x80 ++ [0x01]

lemma numberedBatch_encoded (sequence : UInt64) (wire : Bytes) (bound : wire.length ≤ 256) :
    ∃ record, encodeRecord (storedCodec (numberedBatch sequence) wire) (numberedBatch sequence) =
      .ok (record,batchSequence (numberedBatch sequence)) ∧ record.length = 38 + wire.length ∧
      RecordFits (storedCodec (numberedBatch sequence) wire) (numberedBatch sequence) := by
  have encoded := encodeRecord_storedCodec (numberedBatch sequence) wire (bound.trans (by decide))
  have id : utf8 (numberedBatch sequence).getHeader.batchId = [0x62,0x31] := by
    rw [show (numberedBatch sequence).getHeader.batchId = "b1" from rfl]
    decide
  have total : recordTotal (utf8 (numberedBatch sequence).getHeader.batchId) (storedFrame wire) = 34 + wire.length := by
    rw [recordTotal_eq,id]
    simp [storedFrame]
    omega
  refine ⟨_,encoded,by rw [recordBytes_length,total]; omega,fun raw marshalled => ?_⟩
  obtain rfl : wire = raw := by simpa [storedCodec] using marshalled
  have limit : 34 + 256 ≤ maxBatchBytes := by decide
  exact ⟨by change recordTotal _ (storedFrame wire) ≤ _; omega,.inl (by rw [id]; decide)⟩

def twiceSegment (sequence : UInt64) (wire : Bytes) : RawSegment :=
  let record := rawOf (storedCodec (numberedBatch sequence) wire) (numberedBatch sequence)
  ⟨1,0,[record,record]⟩

def tornDisk (segment : RawSegment) (cut : Nat) : Disk :=
  { spool := (∅ : Directory).insert (openPath segment.id) (segment.bytes.take cut) }

lemma twice_torn (sequence : UInt64) (wire : Bytes) (bound : wire.length ≤ 256) (header : segmentHeaderSize ≤ cut) :
    TornSpool (storedCodec (numberedBatch sequence) wire) (tornDisk (twiceSegment sequence wire) cut) []
      (twiceSegment sequence wire) cut := by
  obtain ⟨record,encoded,length,fits⟩ := numberedBatch_encoded sequence wire bound
  have readable := (readable_iff (storedCodec_inverts _ _) encoded (by omega)).mpr fits
  refine ⟨fun path _ => ?_,by simp,?_,header,by simp,?_,fun id row lookup => ?_,zero_fits,zero_fits⟩
  · rw [tornDisk,AList.mem_insert]
    simp [chainFiles]
  · rw [tornDisk,fileAt_insert,if_pos rfl]
  · simp only [nil_append,forall_eq,twiceSegment,mem_cons,not_mem_nil,or_false,or_self]
    exact readable
  · cases lookup

/-- The complete record stays, and the batch it holds is not appended again. -/
theorem torn_tail_kept_once :
    RecoversTorn (storedCodec (numberedBatch 1) firstWire) 1024 (tornDisk (twiceSegment 1 firstWire) 90) []
      (twiceSegment 1 firstWire) 90 [{ batch := some (numberedBatch 1) }] := by
  obtain ⟨record,encoded,length,fits⟩ := numberedBatch_encoded 1 firstWire (by decide)
  have spool := twice_torn 1 firstWire (by decide) (by decide : segmentHeaderSize ≤ 90)
  have size : (rawOf (storedCodec (numberedBatch 1) firstWire) (numberedBatch 1)).bytes.length = 48 := by
    rw [rawOf,recordOf_ok encoded,length]
    decide
  have kept : recoveredFiles [] (twiceSegment 1 firstWire) 90 =
      [(openPath 1,⟨1,0,[rawOf (storedCodec (numberedBatch 1) firstWire) (numberedBatch 1)]⟩)] := by
    simp [recoveredFiles,chainFiles,RawSegment.before,twiceSegment,completeBefore,size,segmentHeaderSize]
  have known : (chainRecords (recoveredFiles [] (twiceSegment 1 firstWire) 90)).map (·.batch.getHeader.batchId) = ["b1"] := by
    rw [kept]
    rfl
  refine (torn_tail_recovers_iff spool _ ?_ ?_ ?_ fun s recovered => ?_).mpr ⟨?_,?_⟩
  · simp [tornDisk,twiceSegment]
  · simpa using storedCodec_inverts (numberedBatch 1) firstWire
  · have short : (recordOf (storedCodec (numberedBatch 1) firstWire) (numberedBatch 1)).length < 2 ^ 32 := by
      rw [recordOf_ok encoded,length]
      decide
    simpa using short
  · obtain ⟨-,index,-⟩ := (spool.recovered (by simp [twiceSegment])).2 s recovered
    have mem : "b1" ∈ s.batchPositions := (index _).mpr (by rw [known]; simp)
    obtain ⟨position,lookup⟩ := Option.isSome_iff_exists.mp (AList.lookup_isSome.mpr mem)
    have named : (numberedBatch 1).getHeader.batchId ≠ "" := by decide
    refine ⟨s,?_⟩
    simp only [appendAll,appendBatch,named,↓reduceIte,encoded]
    rw [show (numberedBatch 1).getHeader.batchId = "b1" from rfl,lookup]
  · rw [kept]
    have low : batchSequence (numberedBatch 1) < 2 ^ 63 := by decide +kernel
    have event : (numberedBatch 1).getHeader.eventSeqEnd < 2 ^ 63 := by decide +kernel
    refine ⟨?_,?_⟩
    · rintro _ (_ | ⟨_,⟨⟩⟩)
      exact ⟨by rintro _ ⟨⟩; exact low,by rintro _ ⟨⟩; exact low⟩
    · rintro _ (_ | ⟨_,⟨⟩⟩)
      exact ⟨event,zero_fits⟩
  · rw [known]
    rintro batch ⟨⟩

/-- A complete record numbered 2^63 is accepted by the reader, and recovery cannot write its number. -/
theorem torn_tail_high_sequence :
    TornSpool (storedCodec (numberedBatch (2 ^ 63)) highWire) (tornDisk (twiceSegment (2 ^ 63) highWire) 200) []
        (twiceSegment (2 ^ 63) highWire) 200 ∧ ¬ RecoversTorn (storedCodec (numberedBatch (2 ^ 63)) highWire) 1024
        (tornDisk (twiceSegment (2 ^ 63) highWire) 200) [] (twiceSegment (2 ^ 63) highWire) 200 [] := by
  obtain ⟨record,encoded,length,fits⟩ := numberedBatch_encoded (2 ^ 63) highWire (by decide)
  have spool := twice_torn (2 ^ 63) highWire (by decide) (by decide : segmentHeaderSize ≤ 200)
  have size : (rawOf (storedCodec (numberedBatch (2 ^ 63)) highWire) (numberedBatch (2 ^ 63))).bytes.length = 66 := by
    rw [rawOf,recordOf_ok encoded,length]
    decide
  refine ⟨spool,?_⟩
  rintro ⟨s,_,recovered,_⟩
  have numbers := (spool.recovered (by simp [twiceSegment])).1.mp ⟨s,recovered⟩
  have low := (numbers.sequences (openPath 1,(twiceSegment (2 ^ 63) highWire).before 200)
    (mem_chainFiles.mpr (.inr ⟨rfl,rfl⟩))).first
    (rawOf (storedCodec (numberedBatch (2 ^ 63)) highWire) (numberedBatch (2 ^ 63)))
    (by simp [RawSegment.before,twiceSegment,completeBefore,size,segmentHeaderSize])
  exact absurd low (by decide +kernel)

end SysArmor.LocalStore
