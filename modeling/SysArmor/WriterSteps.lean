import SysArmor.AssocCount
import SysArmor.SegmentChain

/-! What the functions of the append side can do to a store. Each is inverted once; the invariants of
the store go through the cases. -/
namespace SysArmor.LocalStore
open ByteWords Proto Digits

lemma nextSegmentID_fresh (next : nextSegmentID d = .ok segmentID) :
    segmentID < 2 ^ 63 ∧ ∀ other, other ∈ d.segments → other < segmentID := by
  have below (keys : List Nat) (other : Nat) (mem : other ∈ keys) : other ≤ keys.foldr max 0 := by
    induction keys with
    | nil => cases mem
    | cons key keys ih =>
      rcases List.mem_cons.mp mem with rfl | later
      · exact le_max_left _ _
      · exact (ih later).trans (le_max_right _ _)
  simp only [nextSegmentID] at next
  split at next <;> cases next
  exact ⟨by assumption,fun other mem => Nat.lt_succ_of_le (below _ other (AList.mem_keys.mp mem))⟩

lemma sealedName_openPath (segmentID : Nat) : sealedName (openPath segmentID) = sealedPath segmentID := by
  have length : (openPath segmentID).length - 5 = (padded 16 segmentID).toList.length := by
    simp [openPath,← String.length_toList]
  rw [sealedName,length,openPath,String.toList_append,List.take_left,String.ofList_toList]
  rfl

lemma openPath_injective (same : openPath a = openPath b) : a = b := by
  simpa using congrArg pathID same

lemma sealedPath_injective (same : sealedPath a = sealedPath b) : a = b := by
  simpa using congrArg pathID same

lemma upsertSegment_row (d : Disk) (writer : SegmentWriter) (state : SegmentState) (outcome : Outcome) :
    ((upsertSegment d writer state outcome).1 = d ∧ (upsertSegment d writer state outcome).2 ≠ .ok ()) ∨
      ∃ row, row.path = writer.path ∧ row.state = state ∧ (upsertSegment d writer state outcome).1 =
        { d with segments := d.segments.insert writer.id row } := by
  simp only [upsertSegment]
  repeat' split
  all_goals first | exact .inl ⟨rfl,by simp⟩ | skip
  cases outcome with
  | done => exact .inr ⟨_,rfl,rfl,rfl⟩
  | failed err => exact .inl ⟨rfl,by simp [execute]⟩
  | lost err => exact .inr ⟨_,rfl,rfl,rfl⟩

def SequenceCursor.larger (cursor other : SequenceCursor) : SequenceCursor :=
  ⟨largerSequence cursor.event other.event,largerSequence cursor.signal other.signal⟩

lemma persistSequenceCursor_cases (d : Disk) (cursor : SequenceCursor) (outcome : Outcome) :
    ∃ after, (persistSequenceCursor d cursor outcome).1 = { d with cursor := after } ∧
      (after = d.cursor ∨ after = d.cursor.larger cursor) ∧
      ((persistSequenceCursor d cursor outcome).2 = .ok () → after = d.cursor.larger cursor ∧ cursor.Fits) := by
  simp only [persistSequenceCursor]
  split
  · exact ⟨_,rfl,.inl rfl,by simp⟩
  split
  · exact ⟨_,rfl,.inl rfl,by simp⟩
  rename_i event signal
  cases outcome with
  | done => exact ⟨_,rfl,.inr rfl,fun _ => ⟨rfl,UInt64.not_le.mp event,UInt64.not_le.mp signal⟩⟩
  | failed err => exact ⟨_,rfl,.inl rfl,by simp [execute]⟩
  | lost err => exact ⟨_,rfl,.inr rfl,by simp [execute]⟩

def Store.started (s : Store) (id createdAt : Nat) : Store :=
  { s with
    disk := writeFile s.disk (openPath id) (fileAt s.disk.spool (openPath id) ++ encodeSegmentHeader id createdAt)
    writer := some { id, path := openPath id, size := segmentHeaderSize } }

def Store.withRow (s : Store) (id : Nat) (row : SegmentRow) : Store :=
  { s with disk := { s.disk with segments := s.disk.segments.insert id row } }

def Store.moved (s : Store) (writer : SegmentWriter) (after : Option SegmentWriter) : Store :=
  { s with disk := renameFile s.disk writer.path (sealedName writer.path), writer := after }

def Store.wrote (s : Store) (writer : SegmentWriter) (part : Bytes) (after : SegmentWriter) : Store :=
  { s with disk := writeFile s.disk writer.path (fileAt s.disk.spool writer.path ++ part), writer := some after }

def Store.atCursor (s : Store) (disk memory : SequenceCursor) : Store :=
  { s with disk := { s.disk with cursor := disk }, cursor := memory }

/-- What `ensureWriter` can do. -/
inductive Ensured (s : Store) (header : WriteOutcome) : Store × Except String Unit → Prop
  | present (set : s.writer = some writer) : Ensured s header (s,.ok ())
  | refused (err : String) : Ensured s header (s,.error err)
  | cut (unset : s.writer = none) (short : header = .short bytes err) (disk : Disk) (cursor : disk.cursor = s.disk.cursor) :
      Ensured s header ({ s with disk },.error err)
  | started (unset : s.writer = none) (next : nextSegmentID s.disk = .ok segmentID) (createdAt : Nat) (err : String) :
      Ensured s header (s.started segmentID createdAt,.error err)
  | listed (unset : s.writer = none) (next : nextSegmentID s.disk = .ok segmentID) (createdAt : Nat) (row : SegmentRow)
      (path : row.path = openPath segmentID) (state : row.state = .open) (answer : Except String Unit) :
      Ensured s header ((s.started segmentID createdAt).withRow segmentID row,answer)

lemma ensureWriter_ensured (s : Store) (io : EnsureEffects) : Ensured s io.header (ensureWriter s io) := by
  simp only [ensureWriter]
  split
  · exact .present ‹_›
  rename_i unset
  split
  · exact .refused _
  · exact .refused _
  rename_i id _ next
  split
  · exact .refused _
  cases header : io.header with
  | short bytes err => exact .cut unset rfl _ rfl
  | whole =>
    dsimp only
    rcases upsertSegment_row (writeFile s.disk (openPath id) (fileAt s.disk.spool (openPath id) ++
      encodeSegmentHeader id io.createdAt)) { id, path := openPath id, size := segmentHeaderSize } .open io.upsert
      with ⟨same,failed⟩ | ⟨row,path,state,same⟩
    · rw [same]
      cases answer : (upsertSegment _ _ _ _).2 with
      | ok => exact absurd answer failed
      | error err => exact .started unset next _ _
    · rw [same]
      exact .listed unset next _ row path state _

/-- What `sealLocked` can do. -/
inductive Sealed (s : Store) : Store × Except String Unit → Prop
  | unset (unset : s.writer = none) : Sealed s (s,.ok ())
  | refused (err : String) : Sealed s (s,.error err)
  | shut (set : s.writer = some writer) (live : writer.closed = false) (err : String) :
      Sealed s ({ s with writer := some { writer with closed := true } },.error err)
  | moved (set : s.writer = some writer) (live : writer.closed = false) (after : SegmentWriter)
      (same : after.id = writer.id) (closed : after.closed = true) (err : String) :
      Sealed s (s.moved writer (some after),.error err)
  | listed (set : s.writer = some writer) (live : writer.closed = false) (after : SegmentWriter)
      (same : after.id = writer.id) (closed : after.closed = true) (row : SegmentRow)
      (path : row.path = sealedName writer.path) (err : String) :
      Sealed s ((s.moved writer (some after)).withRow writer.id row,.error err)
  | released (set : s.writer = some writer) (live : writer.closed = false) (row : SegmentRow)
      (path : row.path = sealedName writer.path) : Sealed s ((s.moved writer none).withRow writer.id row,.ok ())

lemma sealLocked_sealed (s : Store) (io : SealEffects) : Sealed s (sealLocked s io) := by
  simp only [sealLocked]
  split
  · exact .unset ‹_›
  rename_i writer set
  split
  · exact .refused _
  rename_i usable
  have live : writer.closed = false := by simpa using usable
  split
  · exact .refused _
  split
  · exact .shut set live _
  cases io.rename with
  | failed err => exact .shut set live _
  | lost err => exact .moved set live { writer with closed := true } rfl rfl _
  | done =>
    simp only [execute]
    have row := upsertSegment_row (renameFile s.disk writer.path (sealedName writer.path))
      { writer with closed := true, path := sealedName writer.path } .sealed io.upsert
    generalize upsertSegment _ _ _ _ = upserted at row
    obtain ⟨disk,answer⟩ := upserted
    rcases row with ⟨rfl,failed⟩ | ⟨row,path,-,rfl⟩
    · cases answer with
      | ok => exact absurd rfl failed
      | error err => exact .moved set live { writer with closed := true, path := _ } rfl rfl _
    · cases answer with
      | ok => exact .released set live row path
      | error err => exact .listed set live { writer with closed := true, path := _ } rfl rfl row path _

/-- What happens behind the choice of the writer. The database's cursor is the old one or takes in the new. -/
inductive Recorded (s : Store) (writer : SegmentWriter) (batch : DataBatch) (record : Bytes) (sequence : UInt64) :
    Store × Except String Position → Prop
  | closed (err : String) : Recorded s writer batch record sequence (s,.error err)
  | cut (live : writer.closed = false) (bytes : Nat) (err : String) :
      Recorded s writer batch record sequence (s.wrote writer (record.take bytes) writer,.error err)
  | written (live : writer.closed = false) (err : String) :
      Recorded s writer batch record sequence (s.wrote writer record (writer.advance record sequence),.error err)
  | listed (live : writer.closed = false) (row : SegmentRow) (path : row.path = writer.path) (state : row.state = .open)
      (err : String) : Recorded s writer batch record sequence
        ((s.wrote writer record (writer.advance record sequence)).withRow writer.id row,.error err)
  | advanced (live : writer.closed = false) (row : SegmentRow) (path : row.path = writer.path) (state : row.state = .open)
      (disk : SequenceCursor) (covers : disk = s.disk.cursor ∨ disk = s.disk.cursor.larger (advanceSequenceCursor s.cursor batch))
      (err : String) : Recorded s writer batch record sequence
        (((s.wrote writer record (writer.advance record sequence)).withRow writer.id row).atCursor disk
          (advanceSequenceCursor s.cursor batch),.error err)
  | indexed (live : writer.closed = false) (row : SegmentRow) (path : row.path = writer.path) (state : row.state = .open)
      (fits : (advanceSequenceCursor s.cursor batch).Fits) : Recorded s writer batch record sequence
        ({ ((s.wrote writer record (writer.advance record sequence)).withRow writer.id row).atCursor
            (s.disk.cursor.larger (advanceSequenceCursor s.cursor batch)) (advanceSequenceCursor s.cursor batch) with
          batchPositions := s.batchPositions.insert batch.getHeader.batchId
            ⟨writer.id,writer.size,sequence,batch.getHeader.batchId⟩ },
        .ok ⟨writer.id,writer.size,sequence,batch.getHeader.batchId⟩)

lemma appendRecord_recorded (s : Store) (set : s.writer = some writer) (batch : DataBatch) (record : Bytes)
    (sequence : UInt64) (io : AppendEffects) :
    Recorded s writer batch record sequence (appendRecord s writer batch record sequence io) := by
  simp only [appendRecord]
  split
  · exact .closed _
  rename_i usable
  have live : writer.closed = false := by simpa using usable
  split
  · rename_i bytes err _
    have cut : Recorded s writer batch record sequence
        (s.wrote writer (record.take bytes) writer,.error s!"append segment: {err}") := .cut live bytes _
    rw [Store.wrote,← set] at cut
    exact cut
  have row := upsertSegment_row (s.wrote writer record (writer.advance record sequence)).disk
    (writer.advance record sequence) .open io.upsert
  simp only [indexRecord]
  generalize upserted : upsertSegment _ _ _ _ = result
  rw [show upsertSegment (s.wrote writer record (writer.advance record sequence)).disk
    (writer.advance record sequence) .open io.upsert = _ from upserted] at row
  obtain ⟨disk,answer⟩ := result
  rcases row with ⟨rfl,failed⟩ | ⟨row,path,state,rfl⟩
  · cases answer with
    | ok => exact absurd rfl failed
    | error err => exact .written live _
  cases answer with
  | error err => exact .listed live row path state _
  | ok =>
    obtain ⟨cursor,same,covers,done⟩ := persistSequenceCursor_cases ((s.wrote writer record
      (writer.advance record sequence)).withRow writer.id row).disk (advanceSequenceCursor s.cursor batch) io.persist
    dsimp only
    generalize persisted : persistSequenceCursor _ _ _ = result
    rw [show persistSequenceCursor ((s.wrote writer record (writer.advance record sequence)).withRow writer.id row).disk
      (advanceSequenceCursor s.cursor batch) io.persist = _ from persisted] at same done
    obtain ⟨disk,answer⟩ := result
    obtain rfl := same
    cases answer with
    | error err =>
      have from_ : cursor = s.disk.cursor ∨ cursor = s.disk.cursor.larger (advanceSequenceCursor s.cursor batch) := covers
      exact .advanced live row path state cursor from_ _
    | ok =>
      obtain rfl : cursor = s.disk.cursor.larger (advanceSequenceCursor s.cursor batch) := (done rfl).1
      exact .indexed live row path state (done rfl).2

inductive Chosen (segmentSize : Nat) (record : Bytes) (io : AppendEffects) (s : Store) : Store × Except String Unit → Prop
  | first (ensured : Ensured s io.ensure.header result) : Chosen segmentSize record io s result
  | stuck (closed : Sealed s (after,.error err)) : Chosen segmentSize record io s (after,.error err)
  | next (set : s.writer = some writer) (full : startsSegment segmentSize writer record = true)
      (closed : Sealed s (between,.ok ())) (again : Ensured between io.next.header result) :
      Chosen segmentSize record io s result

lemma chooseWriter_chosen (segmentSize : Nat) (s : Store) (record : Bytes) (io : AppendEffects) :
    Chosen segmentSize record io s (chooseWriter segmentSize s record io) := by
  have ensured := ensureWriter_ensured s io.ensure
  simp only [chooseWriter]
  generalize ensureWriter s io.ensure = first at ensured
  obtain ⟨middle,answer⟩ := first
  cases answer with
  | error err => exact .first ensured
  | ok =>
    dsimp only
    split
    · rename_i starts
      obtain ⟨writer,set,full⟩ := (Option.any_eq_true _ _).mp starts
      cases ensured with
      | listed =>
        -- a segment made for this very record has none yet, so it is not sealed
        cases set
        simp [startsSegment] at full
      | present =>
        have closed := sealLocked_sealed s io.sealing
        generalize sealLocked s io.sealing = second at closed
        obtain ⟨between,answer⟩ := second
        cases answer with
        | error err => exact .stuck closed
        | ok => exact .next set full closed (ensureWriter_ensured _ _)
    · exact .first ensured

lemma Ensured.writer (ensured : Ensured s header (after,.ok ())) : ∃ writer, after.writer = some writer := by
  cases ensured with
  | present set => exact ⟨_,set⟩
  | listed => exact ⟨_,rfl⟩

structure Reaches (codec : Codec) (s : Store) (batch : DataBatch) : Prop where
  id : batch.getHeader.batchId ≠ ""
  encoded : ∃ record sequence, encodeRecord codec batch = .ok (record,sequence)
  unknown : s.batchPositions.lookup batch.getHeader.batchId = none

/-- What `AppendBatch` can do. -/
inductive Appended (codec : Codec) (segmentSize : Nat) (s : Store) (batch : DataBatch) (io : AppendEffects) :
    Store × Except String Position → Prop
  | refused (err : String) : Appended codec segmentSize s batch io (s,.error err)
  | known (found : s.batchPositions.lookup batch.getHeader.batchId = some position) :
      Appended codec segmentSize s batch io (s,.ok position)
  | failed (reaches : Reaches codec s batch) (encoded : encodeRecord codec batch = .ok (record,number))
      (chosen : Chosen segmentSize record io s (after,.error err)) :
      Appended codec segmentSize s batch io (after,.error err)
  | recorded (reaches : Reaches codec s batch) (encoded : encodeRecord codec batch = .ok (record,number))
      (chosen : Chosen segmentSize record io s (middle,.ok ())) (set : middle.writer = some writer)
      (recorded : Recorded middle writer batch record number result) : Appended codec segmentSize s batch io result

lemma appendBatch_appended (codec : Codec) (segmentSize : Nat) (s : Store) (batch : DataBatch) (io : AppendEffects) :
    Appended codec segmentSize s batch io (appendBatch codec segmentSize s (some batch) io) := by
  simp only [appendBatch]
  split
  · exact .refused _
  rename_i id
  split
  · exact .refused _
  rename_i record sequence encoded
  split
  · exact .known ‹_›
  rename_i unknown
  have reaches : Reaches codec s batch := ⟨id,⟨record,sequence,encoded⟩,unknown⟩
  have chosen := chooseWriter_chosen segmentSize s record io
  generalize chooseWriter segmentSize s record io = choice at chosen
  obtain ⟨middle,answer⟩ := choice
  cases answer with
  | error err => exact .failed reaches encoded chosen
  | ok =>
    obtain ⟨writer,set⟩ : ∃ writer, middle.writer = some writer := by
      cases chosen with
      | first ensured => exact ensured.writer
      | next _ _ _ again => exact again.writer
    simp only [set]
    exact .recorded reaches encoded chosen set (appendRecord_recorded _ set _ _ _ _)

structure Store.SameMarks (s after : Store) : Prop where
  memory : after.cursor = s.cursor
  disk : after.disk.cursor = s.disk.cursor
  index : after.batchPositions = s.batchPositions

lemma Store.SameMarks.trans (first : Store.SameMarks a b) (second : Store.SameMarks b c) : Store.SameMarks a c :=
  ⟨second.memory.trans first.memory,second.disk.trans first.disk,second.index.trans first.index⟩

lemma Ensured.marks (ensured : Ensured s header result) : s.SameMarks result.1 := by
  cases ensured with
  | cut _ _ disk cursor => exact ⟨rfl,cursor,rfl⟩
  | _ => exact ⟨rfl,rfl,rfl⟩

lemma Sealed.marks (closed : Sealed s result) : s.SameMarks result.1 := by
  cases closed <;> exact ⟨rfl,rfl,rfl⟩

lemma Chosen.marks (chosen : Chosen segmentSize record io s result) : s.SameMarks result.1 := by
  cases chosen with
  | first ensured => exact ensured.marks
  | stuck closed => exact closed.marks
  | next _ _ closed again => exact closed.marks.trans again.marks

lemma SequenceCursor.Fits.larger {cursor other : SequenceCursor} (fits : cursor.Fits) (also : other.Fits) :
    (cursor.larger other).Fits :=
  ⟨largerSequence_lt fits.event also.event,largerSequence_lt fits.signal also.signal⟩

lemma Recorded.marks (ended : Recorded s writer batch record number result) (memory : s.cursor.Fits)
    (disk : s.disk.cursor.Fits) (storable : Storable codec batch) : result.1.cursor.Fits ∧ result.1.disk.cursor.Fits ∧
      ∀ text ∈ result.1.batchPositions, text ∈ s.batchPositions ∨ text = batch.getHeader.batchId := by
  have advanced := memory.advance storable
  cases ended with
  | advanced live row path state cursor covers =>
    exact ⟨advanced,covers.elim (fun same => same ▸ disk) fun same => same ▸ disk.larger advanced,fun _ => .inl⟩
  | indexed => exact ⟨advanced,disk.larger advanced,fun _ mem => ((AList.mem_insert _).mp mem).symm⟩
  | _ => exact ⟨memory,disk,fun _ => .inl⟩

end SysArmor.LocalStore
