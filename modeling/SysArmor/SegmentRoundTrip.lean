import SysArmor.SegmentReader

/-! The round trip of the spool record format: which of the batches the encoder
accepts the reader gives back. -/
namespace SysArmor.LocalStore
open ByteWords Proto List

variable {sequence : UInt64}

/-- The record length stays within the reader's limit and the payload starts where the
16-bit id length says: the id is short enough for that field, or the bytes from the
truncated length on happen to decompress to a payload of the same batch. -/
def RecordFits (codec : Codec) (batch : DataBatch) : Prop :=
  ∀ raw, codec.marshal batch = .ok raw →
    let batchID := utf8 batch.getHeader.batchId
    let compressed := codec.encodeAll raw
    recordTotal batchID compressed ≤ maxBatchBytes ∧
      (batchID.length < 2 ^ 16 ∨
        ∃ other, codec.decodeAll ((batchID ++ compressed).drop (batchID.length % 2 ^ 16)) = .ok other ∧
          other.length = raw.length ∧ codec.unmarshal other = .ok batch)

lemma encodeRecord_ok (accepted : encodeRecord codec batch = .ok (record,sequence)) :
    ∃ raw, codec.marshal batch = .ok raw ∧ raw.length ≤ maxBatchBytes ∧
      record = recordBytes raw.length (batchSequence batch) (utf8 batch.getHeader.batchId)
        (codec.encodeAll raw) ∧ sequence = batchSequence batch := by
  unfold encodeRecord at accepted
  cases marshalled : codec.marshal batch with
  | error err => simp [marshalled] at accepted
  | ok raw =>
    simp only [marshalled] at accepted
    split at accepted
    · cases accepted
    · cases accepted
      exact ⟨raw,rfl,by omega,rfl,rfl⟩

lemma recordOf_ok (ok : encodeRecord codec batch = .ok (record,sequence)) : recordOf codec batch = record := by
  simp [recordOf,ok]

lemma decodePayload_ok : decodePayload codec rawLen sequence payload = .ok (batch,stamp) ↔
      stamp = sequence ∧ ∃ raw, codec.decodeAll payload = .ok raw ∧ raw.length = rawLen ∧ codec.unmarshal raw = .ok batch := by
  unfold decodePayload
  cases codec.decodeAll payload with
  | error err => simp
  | ok raw =>
    by_cases same : raw.length = rawLen
    · cases unmarshalled : codec.unmarshal raw <;> simp [same,unmarshalled,eq_comm,and_comm]
    · simp [same]

section Accepted
variable {codec : Codec} {batch : DataBatch} {record : Bytes}

lemma nextRecord_recordOf (marshalled : codec.marshal batch = .ok raw) (bound : raw.length ≤ maxBatchBytes)
    (ok : encodeRecord codec batch = .ok (record,sequence)) (short : record.length < 2 ^ 32) (rest : Bytes) :
    let batchID := utf8 batch.getHeader.batchId
    let compressed := codec.encodeAll raw
    nextRecord codec (record ++ rest) =
      if recordTotal batchID compressed > maxBatchBytes then
        .bad s!"invalid record length {recordTotal batchID compressed}"
      else decodedTurn record.length (decodePayload codec raw.length (batchSequence batch)
        ((batchID ++ compressed).drop (batchID.length % 2 ^ 16))) := by
  intro batchID compressed
  obtain ⟨raw',same,-,shape,-⟩ := encodeRecord_ok ok
  obtain rfl : raw = raw' := by simpa [marshalled] using same
  have length : record.length = 4 + recordTotal batchID compressed := by rw [shape,recordBytes_length]
  have field : getBE ((record ++ rest).take 4) = recordTotal batchID compressed := by
    rw [shape,recordBytes,append_assoc,append_assoc,take_left' (by simp)]
    exact getBE_putBE_of_lt (show recordTotal batchID compressed < 256 ^ 4 by omega)
  have whole : (record ++ rest).take (4 + recordTotal batchID compressed) = record :=
    take_left' length
  have minimum : recordFixedSize ≤ recordTotal batchID compressed := by
    rw [recordTotal_eq]
    unfold recordFixedSize
    omega
  simp only [nextRecord,field,whole,length_append]
  rw [if_neg (by omega),if_neg (by omega)]
  by_cases large : recordTotal batchID compressed > maxBatchBytes
  · rw [if_pos (.inr large),if_pos large]
  · rw [if_neg (by omega),if_neg (by omega),if_neg large,length]
    rw [shape,decodeRecord_recordBytes codec _ _ _ bound]

lemma readable_iff (inverts : codec.Inverts batch)
    (ok : encodeRecord codec batch = .ok (record,sequence)) (short : record.length < 2 ^ 32) :
    Readable codec batch ↔ RecordFits codec batch := by
  obtain ⟨raw,marshalled,bound,shape,-⟩ := encodeRecord_ok ok
  obtain ⟨inflates,unmarshals⟩ := inverts raw marshalled
  have next := nextRecord_recordOf marshalled bound ok short
  have found (payload : Bytes) :
      decodePayload codec raw.length (batchSequence batch) payload = .ok (batch,batchSequence batch) ↔
        ∃ other, codec.decodeAll payload = .ok other ∧ other.length = raw.length ∧
          codec.unmarshal other = .ok batch := by
    simp [decodePayload_ok]
  constructor
  · intro readable other same
    obtain rfl : raw = other := by simpa [marshalled] using same
    have turn := readable []
    rw [recordOf_ok ok,next] at turn
    split at turn
    · cases turn
    · exact ⟨by omega,.inr ((found _).mp (decodedTurn_record.mp turn).1)⟩
  · intro fits rest
    obtain ⟨limit,start⟩ := fits raw marshalled
    have decoded := (found ((utf8 batch.getHeader.batchId ++ codec.encodeAll raw).drop
      ((utf8 batch.getHeader.batchId).length % 2 ^ 16))).mpr (by
        rcases start with narrow | coincidence
        · refine ⟨raw,?_,rfl,unmarshals⟩
          rw [Nat.mod_eq_of_lt narrow,drop_left]
          exact inflates
        · exact coincidence)
    rw [recordOf_ok ok,next,if_neg (by omega),decoded,decodedTurn]

lemma nextRecord_total (accepted : encodeRecord codec batch = .ok (record,sequence))
    (short : record.length < 2 ^ 32) : (∃ cause, ∀ rest, nextRecord codec (record ++ rest) = .bad cause) ∨
      ∃ found stamp, ∀ rest, nextRecord codec (record ++ rest) = .record found stamp record.length := by
  obtain ⟨raw,marshalled,bound,-,-⟩ := encodeRecord_ok accepted
  have next := nextRecord_recordOf marshalled bound accepted short
  by_cases large : recordTotal (utf8 batch.getHeader.batchId) (codec.encodeAll raw) > maxBatchBytes
  · exact .inl ⟨_,fun rest => by rw [next,if_pos large]⟩
  cases decoded : decodePayload codec raw.length (batchSequence batch)
      ((utf8 batch.getHeader.batchId ++ codec.encodeAll raw).drop
        ((utf8 batch.getHeader.batchId).length % 2 ^ 16)) with
  | error err => exact .inl ⟨err,fun rest => by rw [next,if_neg large,decoded,decodedTurn]⟩
  | ok found => exact .inr ⟨found.1,found.2,fun rest => by rw [next,if_neg large,decoded,decodedTurn]⟩

lemma readable_of_taken (encoded : encodeRecord codec batch = .ok (record,sequence)) (short : record.length < 2 ^ 32)
    (taken : ∀ rest, nextRecord codec (record ++ rest) = .record batch stamp record.length) : Readable codec batch := by
  intro rest
  rw [recordOf_ok encoded,taken]
  have stamped := taken []
  obtain ⟨raw,marshalled,bound,-,-⟩ := encodeRecord_ok encoded
  rw [nextRecord_recordOf marshalled bound encoded short] at stamped
  split at stamped
  · cases stamped
  · rw [(decodePayload_ok.mp (decodedTurn_record.mp stamped).1).1]

end Accepted

lemma fits_of_readRecords (inverts : ∀ batch ∈ batches, codec.Inverts batch)
    (ok : ∀ batch ∈ batches, ∃ record sequence, encodeRecord codec batch = .ok (record,sequence))
    (short : ∀ batch ∈ batches, (recordOf codec batch).length < 2 ^ 32)
    (done : readRecords codec segmentID truncateTail (recordsOf codec batches) offset out = .ok (result,cut))
    (same : result.map (·.batch) = out.map (·.batch) ++ batches) : ∀ batch ∈ batches, RecordFits codec batch := by
  induction batches generalizing offset out with
  | nil => simp
  | cons batch batches ih =>
    obtain ⟨record,sequence,encoded⟩ := ok batch (by simp)
    have record_eq := recordOf_ok encoded
    have limit : record.length < 2 ^ 32 := record_eq ▸ short batch (by simp)
    have split : recordsOf codec (batch :: batches) = record ++ recordsOf codec batches := by
      simp [recordsOf,record_eq]
    rw [split] at done
    rcases nextRecord_total encoded limit with ⟨cause,refused⟩ | ⟨found,stamp,taken⟩
    · rw [readRecords_bad (refused _)] at done
      cases done
    rw [readRecords_record (taken _),drop_left] at done
    -- the loop keeps the batch it found at this position, so it must be the one written
    have extended := (readRecords_held done).1
    have position := congrArg (fun list => list[out.length]?) same
    simp only [extended] at position
    obtain rfl : found = batch := by simpa using position
    have readable := readable_of_taken encoded limit taken
    have tail := ih (fun b mem => inverts b (by simp [mem]))
      (fun b mem => ok b (by simp [mem])) (fun b mem => short b (by simp [mem])) done
      (by simp [same])
    intro other mem
    rcases mem_cons.mp mem with rfl | later
    · exact (readable_iff (inverts _ (by simp)) encoded limit).mp readable
    · exact tail other later

/-- Records of accepted batches behind a valid header come back as exactly those batches, in
order, precisely when every record fits the limits the reader applies. -/
theorem readSegment_segmentOf_iff (codec : Codec) (segmentID createdAt : Nat) (batches : List DataBatch)
    (truncateTail : Bool) (fits : segmentID < 2 ^ 64) (inverts : ∀ batch ∈ batches, codec.Inverts batch)
    (accepted : ∀ batch ∈ batches, ∃ record sequence, encodeRecord codec batch = .ok (record,sequence))
    (short : ∀ batch ∈ batches, (recordOf codec batch).length < 2 ^ 32) :
    (readSegment codec (segmentOf codec segmentID createdAt batches) truncateTail).map
        (fun read => read.1.map (·.batch)) = .ok batches ↔ ∀ batch ∈ batches, RecordFits codec batch := by
  constructor
  · intro read
    rw [segmentOf,readSegment_header fits] at read
    cases done : readRecords codec segmentID truncateTail (recordsOf codec batches) segmentHeaderSize [] with
    | error err => simp [done,Except.map] at read
    | ok result =>
      obtain ⟨result,cut⟩ := result
      refine fits_of_readRecords inverts accepted short done ?_
      rw [done] at read
      cases cut <;> simpa [Except.map] using read
  · intro recordFits
    have readable : ∀ batch ∈ batches, Readable codec batch := by
      intro batch mem
      obtain ⟨record,sequence,encoded⟩ := accepted batch mem
      exact (readable_iff (inverts batch mem) encoded (recordOf_ok encoded ▸ short batch mem)).mpr
        (recordFits batch mem)
    rw [readSegment_segmentOf readable fits]
    simp [Except.map]

/-- A zstd frame that stores its content in one raw block: magic number, single-segment
descriptor with a four-byte content size, block header, content. -/
def storedFrame (raw : Bytes) : Bytes :=
  [0x28,0xB5,0x2F,0xFD,0xA0] ++ (putBE 4 raw.length).reverse ++ (putBE 3 (raw.length * 8 + 1)).reverse ++ raw

def decodeStored (frame : Bytes) : Except String Bytes :=
  if frame = storedFrame (frame.drop 12) then .ok (frame.drop 12)
  else .error "invalid input: magic number mismatch"

lemma decodeStored_storedFrame (raw : Bytes) : decodeStored (storedFrame raw) = .ok raw := by
  have content : (storedFrame raw).drop 12 = raw := drop_left' (by simp)
  simp [decodeStored,content]

def storedCodec (batch : DataBatch) (wire : Bytes) : Codec where
  marshal other := if other = batch then .ok wire else .error "unsupported message"
  unmarshal raw := if raw = wire then .ok batch else .error "cannot parse invalid wire-format data"
  encodeAll := storedFrame
  decodeAll := decodeStored

lemma storedCodec_inverts (batch : DataBatch) (wire : Bytes) : (storedCodec batch wire).Inverts batch := by
  intro raw marshalled
  obtain rfl : wire = raw := by simpa [storedCodec] using marshalled
  simp [storedCodec,decodeStored_storedFrame]

lemma encodeRecord_storedCodec (batch : DataBatch) (wire : Bytes) (bound : wire.length ≤ maxBatchBytes) :
    encodeRecord (storedCodec batch wire) batch =
      .ok (recordBytes wire.length (batchSequence batch) (utf8 batch.getHeader.batchId) (storedFrame wire),
        batchSequence batch) := by
  simp [encodeRecord,storedCodec,Nat.not_lt.mpr bound]

def idBatch (id : String) : DataBatch := { header := some { batchId := id } }
def shortIdCodec : Codec := storedCodec (idBatch "b1") [0x0A,0x04,0x0A,0x02,0x62,0x31]

/-- Short records behind a header are read back. -/
theorem readSegment_segmentOf_short : (readSegment shortIdCodec (segmentOf shortIdCodec 1 0 (replicate 3 (idBatch "b1"))) false).map
      (fun read => read.1.map (·.batch)) = .ok (replicate 3 (idBatch "b1")) := by
  have encoded := encodeRecord_storedCodec (idBatch "b1") [0x0A,0x04,0x0A,0x02,0x62,0x31] (by decide)
  refine (readSegment_segmentOf_iff shortIdCodec 1 0 (replicate 3 (idBatch "b1")) false (by decide) ?_ ?_ ?_).mpr ?_
  all_goals
    intro batch mem
    obtain rfl := eq_of_mem_replicate mem
  · exact storedCodec_inverts _ _
  · exact ⟨_,_,encoded⟩
  · rw [shortIdCodec,recordOf_ok encoded]
    decide
  · intro raw marshalled
    obtain rfl : [0x0A,0x04,0x0A,0x02,0x62,0x31] = raw := by simpa [shortIdCodec,storedCodec] using marshalled
    exact ⟨by decide,.inl (by decide)⟩

def letterBatch (count : Nat) : DataBatch := idBatch (String.ofList (List.replicate count 'a'))

lemma utf8_letters (count : Nat) : utf8 (letterBatch count).getHeader.batchId = List.replicate count 0x61 := by
  have letter : String.utf8EncodeChar 'a' = [0x61] := by decide
  rw [utf8,show (letterBatch count).getHeader.batchId = String.ofList (List.replicate count 'a') from rfl,
    String.toList_ofList]
  simp [flatMap_replicate,letter]

lemma readSegment_wrapped_id {count} (wire : Bytes) (pos : 0 < count) (wraps : count % 2 ^ 16 = 0)
    (bound : wire.length ≤ maxBatchBytes) (limit : 20 + count + (12 + wire.length) ≤ maxBatchBytes) :
    readSegment (storedCodec (letterBatch count) wire)
        (segmentOf (storedCodec (letterBatch count) wire) 1 0 [letterBatch count]) false =
      .error "decompress data batch: invalid input: magic number mismatch" := by
  have encoded := encodeRecord_storedCodec (letterBatch count) wire bound
  have total : recordTotal (utf8 (letterBatch count).getHeader.batchId) (storedFrame wire) =
      20 + count + (12 + wire.length) := by
    rw [recordTotal_eq,utf8_letters,length_replicate]
    simp [storedFrame]
    omega
  have small : maxBatchBytes < 2 ^ 32 - 4 := by decide
  have next := nextRecord_recordOf (by simp [storedCodec]) bound encoded
    (by rw [recordBytes_length,total]; omega) []
  have payload : decodePayload (storedCodec (letterBatch count) wire) wire.length (batchSequence (letterBatch count))
      (((utf8 (letterBatch count).getHeader.batchId) ++ (storedCodec (letterBatch count) wire).encodeAll wire).drop
        ((utf8 (letterBatch count).getHeader.batchId).length % 2 ^ 16)) =
      .error "decompress data batch: invalid input: magic number mismatch" := by
    obtain ⟨count,rfl⟩ := Nat.exists_eq_succ_of_ne_zero pos.ne'
    have first (rest other : Bytes) : (0x61 :: rest) ≠ storedFrame other := by simp [storedFrame]
    rw [utf8_letters,length_replicate,wraps,drop_zero,replicate_succ,cons_append]
    simp only [decodePayload,storedCodec,decodeStored,first,↓reduceIte]
    decide
  rw [segmentOf,readSegment_header (by decide),readRecords_bad]
  rw [recordsOf,flatMap_singleton,recordOf_ok encoded,← append_nil (recordBytes _ _ _ _),next]
  rw [if_neg (by change ¬ recordTotal _ (storedFrame wire) > _; omega),payload,decodedTurn]

def longIdWire : Bytes :=
  [0x0A,0x84,0x80,0x04,0x0A,0x80,0x80,0x04] ++ List.replicate (2 ^ 16) 0x61

def longIdCodec : Codec := storedCodec (letterBatch (2 ^ 16)) longIdWire

/-- The encoder accepts an id of 2^16 bytes and both libraries invert on the batch, but the
segment cannot be read. -/
theorem longId_unreadable : longIdCodec.Inverts (letterBatch (2 ^ 16)) ∧
    (∃ record sequence, encodeRecord longIdCodec (letterBatch (2 ^ 16)) = .ok (record,sequence)) ∧
    readSegment longIdCodec (segmentOf longIdCodec 1 0 [letterBatch (2 ^ 16)]) false =
      .error "decompress data batch: invalid input: magic number mismatch" := by
  have length : longIdWire.length = 8 + 2 ^ 16 := by
    rw [longIdWire,length_append,length_replicate]
    rfl
  have bound : longIdWire.length ≤ maxBatchBytes := by rw [length]; decide
  exact ⟨storedCodec_inverts _ _,⟨_,_,encodeRecord_storedCodec _ _ bound⟩,
    readSegment_wrapped_id _ (by decide) (by decide) bound (by rw [length]; decide)⟩

end SysArmor.LocalStore
