import SysArmor.ByteWords
import SysArmor.Proto

/-! The spool segment format: a 32-byte header followed by checksummed, compressed
records. Protobuf and zstd are parameters; everything else is computed byte by byte. -/
namespace SysArmor.LocalStore
open ByteWords Proto List

/-- The libraries behind a record's payload: `proto.Marshal`, `proto.Unmarshal` and
zstd's `EncodeAll` and `DecodeAll`, with the text of their errors. -/
structure Codec where
  marshal : DataBatch → Except String Bytes
  unmarshal : Bytes → Except String DataBatch
  encodeAll : Bytes → Bytes
  decodeAll : Bytes → Except String Bytes

def Codec.Inverts (codec : Codec) (batch : DataBatch) : Prop :=
  ∀ raw, codec.marshal batch = .ok raw →
    codec.decodeAll (codec.encodeAll raw) = .ok raw ∧ codec.unmarshal raw = .ok batch

def segmentHeaderSize : Nat := 32
def recordFixedSize : Nat := 20
def segmentVersion : Nat := 1
def maxBatchBytes : Nat := 16 * 2 ^ 20
def segmentMagic : Bytes := [0x53,0x59,0x53,0x41,0x53,0x45,0x47,0x31]

/-- `createdAt` is the creation time in nanoseconds as the unsigned field stores it. -/
def encodeSegmentHeader (segmentID createdAt : Nat) : Bytes :=
  segmentMagic ++ putBE 2 segmentVersion ++ [1,0,0,0,0,0] ++ putBE 8 segmentID ++ putBE 8 createdAt

def parseSegmentHeader (header : Bytes) : Except String Nat :=
  if header.length ≠ segmentHeaderSize ∨ slice header 0 8 ≠ segmentMagic then
    .error "invalid segment header"
  else if getBE (slice header 8 10) ≠ segmentVersion ∨ slice header 10 11 ≠ [1] then
    .error "unsupported segment format"
  else .ok (getBE (slice header 16 24))

def batchSequence (batch : DataBatch) : UInt64 :=
  if 0 < batch.getHeader.eventSeqStart then batch.getHeader.eventSeqStart
  else batch.getHeader.signalSeqStart

def recordTotal (batchID compressed : Bytes) : Nat :=
  recordFixedSize - 4 + batchID.length + compressed.length + 4

def recordBody (rawLen : Nat) (sequence : UInt64) (batchID compressed : Bytes) : Bytes :=
  putBE 4 rawLen ++ putBE 8 sequence.toNat ++ putBE 2 batchID.length ++ [0,0] ++ (batchID ++ compressed)

def recordBytes (rawLen : Nat) (sequence : UInt64) (batchID compressed : Bytes) : Bytes :=
  let body := recordBody rawLen sequence batchID compressed
  putBE 4 (recordTotal batchID compressed) ++ body ++ putBE 4 (castagnoli body).toNat

def encodeRecord (codec : Codec) (batch : DataBatch) : Except String (Bytes × UInt64) :=
  match codec.marshal batch with
  | .error err => .error err
  | .ok raw =>
    if raw.length > maxBatchBytes then .error s!"data batch exceeds {maxBatchBytes} bytes"
    else
      let compressed := codec.encodeAll raw
      let batchID := utf8 batch.getHeader.batchId
      let sequence := batchSequence batch
      .ok (recordBytes raw.length sequence batchID compressed,sequence)

def decodePayload (codec : Codec) (rawLen : Nat) (sequence : UInt64) (payload : Bytes) :
    Except String (DataBatch × UInt64) :=
  match codec.decodeAll payload with
  | .error err => .error s!"decompress data batch: {err}"
  | .ok raw =>
    let length := raw.length
    if length ≠ rawLen then .error s!"decompressed data batch length {length}, want {rawLen}"
    else
      match codec.unmarshal raw with
      | .error err => .error err
      | .ok batch => .ok (batch,sequence)

def decodeRecord (codec : Codec) (record : Bytes) : Except String (DataBatch × UInt64) :=
  if record.length < recordFixedSize + 4 then .error "record is too short"
  else
    let crcAt := record.length - 4
    if (castagnoli (slice record 4 crcAt)).toNat ≠ getBE (record.drop crcAt) then
      .error "record CRC mismatch"
    else
      let rawLen := getBE (slice record 4 8)
      if rawLen > maxBatchBytes then .error "record payload exceeds limit"
      else
        let idLen := getBE (slice record 16 18)
        if 20 + idLen > crcAt then .error "record batch id length is invalid"
        else decodePayload codec rawLen (UInt64.ofNat (getBE (slice record 8 16)))
          (slice record (20 + idLen) crcAt)

@[simp] lemma encodeSegmentHeader_length (segmentID createdAt : Nat) :
    (encodeSegmentHeader segmentID createdAt).length = segmentHeaderSize := by
  simp [encodeSegmentHeader,segmentMagic,segmentHeaderSize]

lemma parseSegmentHeader_encode (fits : segmentID < 2 ^ 64) (createdAt : Nat) :
    parseSegmentHeader (encodeSegmentHeader segmentID createdAt) = .ok segmentID := by
  have magic : slice (encodeSegmentHeader segmentID createdAt) 0 8 = segmentMagic := by
    simp [encodeSegmentHeader,slice,segmentMagic]
  have version : slice (encodeSegmentHeader segmentID createdAt) 8 10 = putBE 2 segmentVersion := by
    simp [encodeSegmentHeader,slice,segmentMagic]
  have compression : slice (encodeSegmentHeader segmentID createdAt) 10 11 = [1] := by
    simp [encodeSegmentHeader,slice,segmentMagic,take_append,take_of_length_le]
  have id : slice (encodeSegmentHeader segmentID createdAt) 16 24 = putBE 8 segmentID :=
    slice_middle _ _ _ (by simp [segmentMagic]) (by simp [segmentMagic])
  rw [parseSegmentHeader,if_neg,if_neg,id,getBE_putBE_of_lt (by simpa using fits)]
  · simp [version,compression,segmentVersion]
  · simp [magic]

lemma recordBody_length (rawLen : Nat) (sequence : UInt64) (batchID compressed : Bytes) :
    (recordBody rawLen sequence batchID compressed).length = 16 + batchID.length + compressed.length := by
  simp [recordBody]
  omega

lemma recordTotal_eq (batchID compressed : Bytes) :
    recordTotal batchID compressed = 20 + batchID.length + compressed.length := by
  simp [recordTotal,recordFixedSize]
  omega

@[simp] lemma recordBytes_length (rawLen : Nat) (sequence : UInt64) (batchID compressed : Bytes) :
    (recordBytes rawLen sequence batchID compressed).length = 4 + recordTotal batchID compressed := by
  simp [recordBytes,recordBody_length,recordTotal_eq]
  omega

lemma decodeRecord_recordBytes (codec : Codec) (sequence : UInt64) (batchID compressed : Bytes)
    (bound : rawLen ≤ maxBatchBytes) : decodeRecord codec (recordBytes rawLen sequence batchID compressed) =
      decodePayload codec rawLen sequence ((batchID ++ compressed).drop (batchID.length % 2 ^ 16)) := by
  generalize shape : recordBytes rawLen sequence batchID compressed = record
  let body := recordBody rawLen sequence batchID compressed
  have record_eq : record = putBE 4 (recordTotal batchID compressed) ++ body ++
      putBE 4 (castagnoli body).toNat := shape.symm
  have length : record.length = 24 + batchID.length + compressed.length := by
    rw [← shape,recordBytes_length,recordTotal_eq]
    omega
  have body_length : body.length = 16 + batchID.length + compressed.length := recordBody_length ..
  have covered : slice record 4 (record.length - 4) = body := by
    rw [length,record_eq]
    exact slice_middle _ _ _ (by simp) (by simp [body_length]; omega)
  have stored : record.drop (record.length - 4) = putBE 4 (castagnoli body).toNat := by
    rw [length,record_eq,drop_left' (by simp [body_length]; omega)]
  have parts : record = putBE 4 (recordTotal batchID compressed) ++ (putBE 4 rawLen ++ (putBE 8 sequence.toNat ++
      (putBE 2 batchID.length ++ ([0,0] ++ (batchID ++ compressed ++ putBE 4 (castagnoli body).toNat))))) := by
    simp [record_eq,body,recordBody]
  have raw : slice record 4 8 = putBE 4 rawLen := by
    simp [parts,slice,take_append,take_of_length_le]
  have seq : slice record 8 16 = putBE 8 sequence.toNat := by
    simp [parts,slice,take_append,drop_append,take_of_length_le,drop_of_length_le]
  have idField : slice record 16 18 = putBE 2 batchID.length := by
    simp [parts,slice,take_append,drop_append,take_of_length_le,drop_of_length_le]
  have payload (low : Nat) : slice record (20 + low) (record.length - 4) = (batchID ++ compressed).drop low := by
    rw [slice,length,← drop_drop,parts]
    simp only [← append_assoc]
    rw [take_left' (by simp; omega),append_assoc,drop_left' (by simp)]
  have idLen : getBE (slice record 16 18) = batchID.length % 2 ^ 16 := by simp [idField]
  have small : batchID.length % 2 ^ 16 ≤ batchID.length := Nat.mod_le _ _
  have fits : rawLen < 256 ^ 4 := lt_of_le_of_lt bound (by decide)
  simp only [decodeRecord]
  rw [if_neg (by simp [length,recordFixedSize]; omega),covered,stored,castagnoli_stored,
    if_neg (by simp),raw,getBE_putBE_of_lt fits,if_neg (by omega),idLen,if_neg (by omega),seq,
    getBE_putBE_of_lt (by simpa using sequence.toNat_lt),payload]
  simp

/-! Reading a segment file: the record loop of `readRecords`, the torn tail that
recovery cuts off, and what the loop makes of records the encoder wrote. -/
variable {sequence : UInt64}

structure Position where
  (segmentID recordOffset : Nat)
  batchSequence : UInt64
  batchID : String
  deriving DecidableEq

structure StoredBatch where
  position : Position
  batch : DataBatch
  deriving DecidableEq

inductive Next where
  /-- No byte is left: the loop ends. -/
  | eof
  /-- The length field or the record stops short of its end. -/
  | cut (cause : String)
  | bad (cause : String)
  | record (batch : DataBatch) (sequence : UInt64) (size : Nat)
  deriving DecidableEq

def decodedTurn (size : Nat) : Except String (DataBatch × UInt64) → Next
  | .error err => .bad err
  | .ok (batch,sequence) => .record batch sequence size

def nextRecord (codec : Codec) (rest : Bytes) : Next :=
  if rest.length = 0 then .eof
  else if rest.length < 4 then .cut "unexpected EOF"
  else
    let length := getBE (rest.take 4)
    if length < recordFixedSize ∨ length > maxBatchBytes then .bad s!"invalid record length {length}"
    else if rest.length < 4 + length then
      -- io.ReadFull reports a plain EOF when not a single byte of the record is there
      .cut (if rest.length = 4 then "EOF" else "unexpected EOF")
    else decodedTurn (4 + length) (decodeRecord codec (rest.take (4 + length)))

lemma decodedTurn_record :
    decodedTurn size decoded = .record batch sequence found ↔ decoded = .ok (batch,sequence) ∧ size = found := by
  rcases decoded with err | ⟨other,stamp⟩
  · simp [decodedTurn]
  · simp [decodedTurn,and_assoc]

lemma nextRecord_eof : nextRecord codec rest = .eof ↔ rest = [] := by
  constructor
  · intro ended
    simp only [nextRecord] at ended
    repeat' split at ended
    · exact length_eq_zero_iff.mp ‹_›
    all_goals first | cases ended | skip
    cases decoded : decodeRecord codec (rest.take (4 + getBE (rest.take 4))) <;>
      simp [decoded,decodedTurn] at ended
  · rintro rfl
    rfl

lemma nextRecord_size (found : nextRecord codec rest = .record batch sequence size) : 0 < size ∧ size ≤ rest.length := by
  simp only [nextRecord] at found
  repeat' split at found
  all_goals simp only [decodedTurn_record,reduceCtorEq] at found
  omega

def truncateOrError (offset : Nat) (allowed : Bool) (batches : List StoredBatch) (cause : String) :
    Except String (List StoredBatch × Option Nat) :=
  if allowed then .ok (batches,some offset) else .error cause

def readRecords (codec : Codec) (segmentID : Nat) (truncateTail : Bool) (rest : Bytes) (offset : Nat)
    (out : List StoredBatch) : Except String (List StoredBatch × Option Nat) :=
  match found : nextRecord codec rest with
  | .eof => .ok (out,none)
  | .cut cause => truncateOrError offset truncateTail out cause
  | .bad cause => .error cause
  | .record batch sequence size =>
    readRecords codec segmentID truncateTail (rest.drop size) (offset + size)
      (out ++ [⟨⟨segmentID,offset,sequence,batch.getHeader.batchId⟩,batch⟩])
termination_by rest.length
decreasing_by
  have := nextRecord_size found
  simp only [length_drop]
  omega

def readSegment (codec : Codec) (file : Bytes) (truncateTail : Bool) :
    Except String (List StoredBatch × Bytes) :=
  if file.length < segmentHeaderSize then
    .error (if file.length = 0 then "EOF" else "unexpected EOF")
  else
    match parseSegmentHeader (file.take segmentHeaderSize) with
    | .error err => .error err
    | .ok segmentID =>
      match readRecords codec segmentID truncateTail (file.drop segmentHeaderSize) segmentHeaderSize [] with
      | .error err => .error err
      | .ok (batches,none) => .ok (batches,file)
      | .ok (batches,some offset) => .ok (batches,file.take offset)

def heldRecords (codec : Codec) (segmentID : Nat) (rest : Bytes) (offset : Nat) : List StoredBatch :=
  match _ : nextRecord codec rest with
  | .record batch sequence size =>
    ⟨⟨segmentID,offset,sequence,batch.getHeader.batchId⟩,batch⟩ ::
      heldRecords codec segmentID (rest.drop size) (offset + size)
  | _ => []
termination_by rest.length
decreasing_by
  have := nextRecord_size ‹_›
  simp only [length_drop]
  omega

lemma heldRecords_record (found : nextRecord codec rest = .record batch number size) (segmentID offset : Nat) :
    heldRecords codec segmentID rest offset = ⟨⟨segmentID,offset,number,batch.getHeader.batchId⟩,batch⟩ ::
        heldRecords codec segmentID (rest.drop size) (offset + size) := by
  rw [heldRecords]
  split
  · rename_i other
    rw [found] at other
    cases other
    rfl
  · rename_i none
    exact absurd found (none _ _ _)

lemma heldRecords_end (ended : ∀ batch sequence size, nextRecord codec rest ≠ .record batch sequence size)
    (segmentID offset : Nat) : heldRecords codec segmentID rest offset = [] := by
  rw [heldRecords]
  split
  · rename_i found
    exact absurd found (ended _ _ _)
  · rfl

section Loop
variable {codec : Codec} {segmentID : Nat} {truncateTail : Bool} {rest : Bytes} {offset : Nat}
  {out : List StoredBatch}

lemma readRecords_eof (found : nextRecord codec rest = .eof) :
    readRecords codec segmentID truncateTail rest offset out = .ok (out,none) := by
  rw [readRecords]
  split <;> simp_all

lemma readRecords_cut (found : nextRecord codec rest = .cut cause) :
    readRecords codec segmentID truncateTail rest offset out = truncateOrError offset truncateTail out cause := by
  rw [readRecords]
  split <;> simp_all

lemma readRecords_bad (found : nextRecord codec rest = .bad cause) :
    readRecords codec segmentID truncateTail rest offset out = .error cause := by
  rw [readRecords]
  split <;> simp_all

lemma readRecords_record (found : nextRecord codec rest = .record batch sequence size) :
    readRecords codec segmentID truncateTail rest offset out =
      readRecords codec segmentID truncateTail (rest.drop size) (offset + size)
        (out ++ [⟨⟨segmentID,offset,sequence,batch.getHeader.batchId⟩,batch⟩]) := by
  rw [readRecords]
  split
  all_goals
    rename_i other
    rw [found] at other
    cases other
  rfl

lemma readRecords_held (ok : readRecords codec segmentID truncateTail rest offset out = .ok (batches,cut)) :
    batches = out ++ heldRecords codec segmentID rest offset ∧ ∀ place ∈ cut, offset ≤ place := by
  induction rest, offset, out using readRecords.induct codec segmentID with
  | case1 rest offset out found =>
    rw [readRecords_eof found] at ok
    cases ok
    rw [heldRecords_end (by simp [found]),append_nil]
    simp
  | case2 rest offset out cause found =>
    rw [readRecords_cut found,truncateOrError] at ok
    split at ok <;> cases ok
    rw [heldRecords_end (by simp [found]),append_nil]
    simp
  | case3 rest offset out cause found =>
    rw [readRecords_bad found] at ok
    cases ok
  | case4 rest offset out batch sequence size found ih =>
    rw [readRecords_record found] at ok
    refine ⟨?_,fun place cut => (Nat.le_add_right _ _).trans ((ih ok).2 place cut)⟩
    simp [(ih ok).1,heldRecords_record found]

end Loop

structure RawRecord where
  bytes : Bytes
  batch : DataBatch
  sequence : UInt64

def Accepted (codec : Codec) (record : RawRecord) : Prop :=
  ∀ rest, nextRecord codec (record.bytes ++ rest) = .record record.batch record.sequence record.bytes.length

def rawBytes (records : List RawRecord) : Bytes := records.flatMap (·.bytes)

/-- Where each record of a list lies when the first starts at `offset`. -/
def storedRaw (segmentID : Nat) : Nat → List RawRecord → List StoredBatch
  | _, [] => []
  | offset, record :: records =>
    ⟨⟨segmentID,offset,record.sequence,record.batch.getHeader.batchId⟩,record.batch⟩ ::
      storedRaw segmentID (offset + record.bytes.length) records

lemma readRecords_raw (accepted : ∀ record ∈ records, Accepted codec record) (segmentID offset : Nat)
    (truncateTail : Bool) (tail : Bytes) (out : List StoredBatch) :
    readRecords codec segmentID truncateTail (rawBytes records ++ tail) offset out =
      readRecords codec segmentID truncateTail tail (offset + (rawBytes records).length)
        (out ++ storedRaw segmentID offset records) := by
  induction records generalizing offset out with
  | nil => simp [rawBytes,storedRaw]
  | cons record records ih =>
    have split : rawBytes (record :: records) ++ tail = record.bytes ++ (rawBytes records ++ tail) := by simp [rawBytes]
    rw [split,readRecords_record (accepted record (by simp) _),drop_left,
      ih (fun other mem => accepted other (by simp [mem]))]
    simp [rawBytes,storedRaw,Nat.add_assoc]

def storedAt (segmentID offset : Nat) (batch : DataBatch) : StoredBatch :=
  ⟨⟨segmentID,offset,batchSequence batch,batch.getHeader.batchId⟩,batch⟩

def recordOf (codec : Codec) (batch : DataBatch) : Bytes :=
  match encodeRecord codec batch with
  | .ok (record,_) => record
  | .error _ => []

def recordsOf (codec : Codec) (batches : List DataBatch) : Bytes := batches.flatMap (recordOf codec)

/-- Where each batch of a list lies when its records start at `offset`. -/
def storedFrom (codec : Codec) (segmentID : Nat) : Nat → List DataBatch → List StoredBatch
  | _, [] => []
  | offset, batch :: batches =>
    storedAt segmentID offset batch ::
      storedFrom codec segmentID (offset + (recordOf codec batch).length) batches

@[simp] lemma storedFrom_batches (codec : Codec) (segmentID offset : Nat) (batches : List DataBatch) :
    (storedFrom codec segmentID offset batches).map (·.batch) = batches := by
  induction batches generalizing offset with
  | nil => rfl
  | cons batch batches ih => simp [storedFrom,storedAt,ih]

lemma storedFrom_append (codec : Codec) (segmentID offset : Nat) (front back : List DataBatch) :
    storedFrom codec segmentID offset (front ++ back) = storedFrom codec segmentID offset front ++
        storedFrom codec segmentID (offset + (recordsOf codec front).length) back := by
  induction front generalizing offset with
  | nil => simp [storedFrom,recordsOf]
  | cons batch front ih => simp [storedFrom,ih,recordsOf,Nat.add_assoc]

@[simp] lemma storedFrom_length (codec : Codec) (segmentID offset : Nat) (batches : List DataBatch) :
    (storedFrom codec segmentID offset batches).length = batches.length := by
  rw [← length_map (·.batch),storedFrom_batches]

def segmentOf (codec : Codec) (segmentID createdAt : Nat) (batches : List DataBatch) : Bytes :=
  encodeSegmentHeader segmentID createdAt ++ recordsOf codec batches

lemma readSegment_header (fits : segmentID < 2 ^ 64) (createdAt : Nat) (rest : Bytes) (truncateTail : Bool) :
    readSegment codec (encodeSegmentHeader segmentID createdAt ++ rest) truncateTail =
      match readRecords codec segmentID truncateTail rest segmentHeaderSize [] with
      | .error err => .error err
      | .ok (batches,none) => .ok (batches,encodeSegmentHeader segmentID createdAt ++ rest)
      | .ok (batches,some offset) =>
        .ok (batches,(encodeSegmentHeader segmentID createdAt ++ rest).take offset) := by
  have length := encodeSegmentHeader_length segmentID createdAt
  rw [readSegment,if_neg (by simp),take_left' length,drop_left' length,parseSegmentHeader_encode fits]

def Readable (codec : Codec) (batch : DataBatch) : Prop :=
  ∀ rest, nextRecord codec (recordOf codec batch ++ rest) =
    .record batch (batchSequence batch) (recordOf codec batch).length

def rawOf (codec : Codec) (batch : DataBatch) : RawRecord := ⟨recordOf codec batch,batch,batchSequence batch⟩

lemma storedFrom_eq (codec : Codec) (segmentID offset : Nat) (batches : List DataBatch) :
    storedFrom codec segmentID offset batches = storedRaw segmentID offset (batches.map (rawOf codec)) := by
  induction batches generalizing offset with
  | nil => rfl
  | cons batch batches ih => simp [storedFrom,storedRaw,ih,storedAt,rawOf]

lemma recordsOf_eq (codec : Codec) (batches : List DataBatch) :
    recordsOf codec batches = rawBytes (batches.map (rawOf codec)) := by
  simp [recordsOf,rawBytes,flatMap_map,rawOf]

lemma readRecords_records (readable : ∀ batch ∈ batches, Readable codec batch) (segmentID offset : Nat)
    (truncateTail : Bool) (tail : Bytes) (out : List StoredBatch) :
    readRecords codec segmentID truncateTail (recordsOf codec batches ++ tail) offset out =
      readRecords codec segmentID truncateTail tail (offset + (recordsOf codec batches).length)
        (out ++ storedFrom codec segmentID offset batches) := by
  rw [recordsOf_eq,storedFrom_eq]
  refine readRecords_raw (fun record mem => ?_) segmentID offset truncateTail tail out
  obtain ⟨batch,inside,rfl⟩ := mem_map.mp mem
  exact readable batch inside

lemma readSegment_segmentOf (readable : ∀ batch ∈ batches, Readable codec batch)
    (fits : segmentID < 2 ^ 64) (createdAt : Nat) (truncateTail : Bool) :
    readSegment codec (segmentOf codec segmentID createdAt batches) truncateTail =
      .ok (storedFrom codec segmentID segmentHeaderSize batches,segmentOf codec segmentID createdAt batches) := by
  have loop := readRecords_records readable segmentID segmentHeaderSize truncateTail [] []
  rw [append_nil] at loop
  rw [segmentOf,readSegment_header fits,loop,readRecords_eof (nextRecord_eof.mpr rfl)]
  rfl

end SysArmor.LocalStore
