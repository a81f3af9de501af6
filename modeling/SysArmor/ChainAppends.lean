import Mathlib.Data.List.MinMax
import SysArmor.SegmentRoundTrip
import SysArmor.WriterSteps

/-! Appends to a chain of segments, with any failure at any point. -/
namespace SysArmor.LocalStore
open ByteWords Proto Digits AList

variable {sequence : UInt64} {segment : RawSegment}

/-- The segment files of the spool are the chain, with what is left of a torn record behind the open one;
ids grow and have a row or the writer, and a usable writer is on the open segment. -/
structure Chain (s : Store) (front : List RawSegment) (last : Option RawSegment) (tail : Bytes) : Prop where
  files : ∀ path, isSegment path = true → (path ∈ s.disk.spool ↔ ∃ segment, (path,segment) ∈ chainFiles front last)
  closed : ∀ segment ∈ front, fileAt s.disk.spool (sealedPath segment.id) = segment.bytes
  opened : ∀ segment, last = some segment → fileAt s.disk.spool (openPath segment.id) = segment.bytes ++ tail
  ascending : (front ++ last.toList).Pairwise (fun a b => a.id < b.id)
  bound : ∀ segment ∈ front ++ last.toList, segment.id < 2 ^ 63
  covered : ∀ segment ∈ front ++ last.toList,
    segment.id ∈ s.disk.segments ∨ ∃ writer, s.writer = some writer ∧ writer.id = segment.id
  writing : ∀ segment, last = some segment → ∃ writer, s.writer = some writer ∧ writer.id = segment.id ∧
    writer.path = openPath segment.id
  live : ∀ writer, s.writer = some writer → writer.closed = false →
    ∃ segment, last = some segment ∧ writer.size ≤ segment.bytes.length
  rows : ∀ id row, s.disk.segments.lookup id = some row → NamedAfter row.path id

section Steps
variable {s : Store} {front : List RawSegment} {last : Option RawSegment} {tail : Bytes}

lemma Chain.empty : Chain {} [] none [] :=
  ⟨by simp [chainFiles],by simp,by simp,by simp,by simp,by simp,by simp,by simp,by simp⟩

section
variable (chain : Chain s front last tail)
include chain

lemma Chain.paths_nodup : ((chainFiles front last).map (·.1)).Nodup := by
  have ids : ((chainFiles front last).map (·.1)).map pathID = (front ++ last.toList).map (·.id) := by
    rw [← chainFiles_segments,List.map_map,List.map_map]
    exact List.map_congr_left fun file mem => (chainFiles_named mem).pathID_eq
  refine List.Nodup.of_map pathID ?_
  rw [ids]
  exact (List.pairwise_map.mpr chain.ascending).imp ne_of_lt

lemma Chain.unset (unset : s.writer = none) : last = none := by
  cases last with
  | none => rfl
  | some segment =>
    obtain ⟨writer,set,-⟩ := chain.writing segment rfl
    rw [unset] at set
    cases set

lemma Chain.started (unset : s.writer = none) (next : nextSegmentID s.disk = .ok segmentID) (createdAt : Nat) :
    Chain (s.started segmentID createdAt) front (some ⟨segmentID,createdAt,[]⟩) [] := by
  obtain rfl := chain.unset unset
  obtain ⟨bound,above⟩ := nextSegmentID_fresh next
  have below (segment : RawSegment) (mem : segment ∈ front) : segment.id < segmentID := by
    rcases chain.covered segment (by simp [mem]) with row | ⟨writer,set,-⟩
    · exact above _ row
    · rw [unset] at set
      cases set
  have absent : openPath segmentID ∉ s.disk.spool := by
    intro present
    obtain ⟨segment,mem⟩ := (chain.files _ (isSegment_of_named (.inl rfl))).mp present
    rcases mem_chainFiles.mp mem with ⟨-,same⟩ | ⟨impossible,-⟩
    · exact openPath_ne_sealedPath _ _ same
    · cases impossible
  have empty : fileAt s.disk.spool (openPath segmentID) = [] := by
    rw [fileAt,lookup_eq_none.mpr absent]
    rfl
  refine ⟨fun path name => ?_,fun segment mem => ?_,?_,?_,?_,fun segment mem => ?_,?_,?_,chain.rows⟩
  · simp only [Store.started,writeFile,mem_insert,chain.files path name,mem_chainFiles]
    constructor
    · rintro (rfl | ⟨segment,⟨mem,path⟩ | ⟨impossible,-⟩⟩)
      · exact ⟨_,.inr ⟨rfl,rfl⟩⟩
      · exact ⟨segment,.inl ⟨mem,path⟩⟩
      · cases impossible
    · rintro ⟨segment,⟨mem,path⟩ | ⟨same,path⟩⟩
      · exact .inr ⟨segment,.inl ⟨mem,path⟩⟩
      · cases same
        exact .inl path
  · simp only [Store.started,writeFile,fileAt_insert]
    rw [if_neg (openPath_ne_sealedPath _ _).symm]
    exact chain.closed segment mem
  · rintro _ ⟨⟩
    simp [Store.started,writeFile,empty,RawSegment.bytes,rawBytes]
  · refine List.pairwise_append.mpr ⟨by simpa using chain.ascending,by simp,fun segment mem other here => ?_⟩
    cases Option.mem_toList.mp here
    exact below segment mem
  · intro segment mem
    rcases List.mem_append.mp mem with old | new
    · exact (below segment old).trans bound
    · cases Option.mem_toList.mp new
      exact bound
  · rcases List.mem_append.mp mem with old | new
    · refine .inl ((chain.covered segment (by simp [old])).resolve_right ?_)
      rintro ⟨writer,set,-⟩
      rw [unset] at set
      cases set
    · cases Option.mem_toList.mp new
      exact .inr ⟨_,rfl,rfl⟩
  · rintro _ ⟨⟩
    exact ⟨_,rfl,rfl,rfl⟩
  · rintro _ ⟨⟩ -
    exact ⟨_,rfl,by simp [RawSegment.bytes]⟩

lemma Chain.withRow (named : NamedAfter row.path segmentID) : Chain (s.withRow segmentID row) front last tail := by
  refine { chain with covered := fun segment mem => ?_, rows := fun other found lookup => ?_ }
  · exact (chain.covered segment mem).imp_left fun old => (mem_insert _).mpr (.inr old)
  simp only [Store.withRow] at lookup
  rcases AssocCount.lookup_insert_cases lookup with ⟨rfl,rfl⟩ | old
  · exact named
  · exact chain.rows other found old

end

lemma Chain.shut (chain : Chain s front last tail) (set : s.writer = some writer) :
    Chain { s with writer := some { writer with closed := true } } front last tail := by
  refine { chain with covered := fun segment mem => ?_, writing := fun segment here => ?_, live := ?_ }
  · refine (chain.covered segment mem).imp_right ?_
    rintro ⟨_,found,id⟩
    cases set.symm.trans found
    exact ⟨_,rfl,id⟩
  · obtain ⟨_,found,id,path⟩ := chain.writing segment here
    cases set.symm.trans found
    exact ⟨_,rfl,id,path⟩
  · rintro _ ⟨⟩ ⟨⟩

lemma Chain.moved (chain : Chain s front (some raw) []) (set : s.writer = some writer)
    (same : after.id = writer.id) (closed : after.closed = true) :
    Chain (s.moved writer (some after)) (front ++ [raw]) none [] := by
  obtain ⟨_,found,id,path⟩ := chain.writing raw rfl
  cases set.symm.trans found
  have apart : ∀ other ∈ front, other.id ≠ raw.id := by
    intro other mem
    exact ((List.pairwise_append.mp chain.ascending).2.2 other mem raw (by simp)).ne
  have shape : s.moved writer (some after) = { s with
      disk := renameFile s.disk (openPath raw.id) (sealedPath raw.id), writer := some after } := by
    rw [Store.moved,path,sealedName_openPath]
  rw [shape]
  refine ⟨fun other name => ?_,fun found mem => ?_,by simp,by simpa using chain.ascending,by simpa using chain.bound,
    fun found mem => ?_,by simp,?_,chain.rows⟩
  · simp only [renameFile,mem_insert,mem_erase,chain.files other name,mem_chainFiles]
    constructor
    · rintro (rfl | ⟨distinct,found,⟨mem,same⟩ | ⟨here,same⟩⟩)
      · exact ⟨raw,.inl ⟨by simp,rfl⟩⟩
      · exact ⟨found,.inl ⟨by simp [mem],same⟩⟩
      · cases here
        exact absurd same distinct
    · rintro ⟨found,⟨mem,same⟩ | ⟨impossible,-⟩⟩
      · rcases List.mem_append.mp mem with old | new
        · exact .inr ⟨fun clash => openPath_ne_sealedPath _ _ (clash.symm.trans same),found,.inl ⟨old,same⟩⟩
        · rw [List.mem_singleton.mp new] at same
          exact .inl same
      · cases impossible
  · simp only [renameFile,fileAt_insert]
    rcases List.mem_append.mp mem with old | new
    · rw [if_neg (fun clash => apart found old (sealedPath_injective clash)),fileAt_erase _ (openPath_ne_sealedPath _ _).symm]
      exact chain.closed found old
    · rw [List.mem_singleton.mp new,if_pos rfl,chain.opened raw rfl,List.append_nil]
  · refine (chain.covered found (by simpa using mem)).imp_right ?_
    rintro ⟨_,again,here⟩
    cases set.symm.trans again
    exact ⟨after,rfl,same.trans here⟩
  · rintro _ ⟨⟩ unclosed
    rw [closed] at unclosed
    cases unclosed

lemma Chain.released (chain : Chain s front none tail) (set : s.writer = some writer)
    (row : writer.id ∈ s.disk.segments) : Chain { s with writer := none } front none tail := by
  refine { chain with covered := fun segment mem => ?_, writing := by simp, live := by simp }
  rcases chain.covered segment mem with stored | ⟨_,found,here⟩
  · exact .inl stored
  · cases set.symm.trans found
    exact .inl (here ▸ row)

lemma Chain.rewritten (chain : Chain s front (some segment) tail) (set : s.writer = some writer)
    (part : Bytes) (next : RawSegment) (same : next.id = segment.id) (bytes : segment.bytes ++ tail ++ part = next.bytes ++ rest)
    (after : SegmentWriter) (id : after.id = writer.id) (path : after.path = writer.path)
    (size : after.closed = false → after.size ≤ next.bytes.length) :
    Chain (s.wrote writer part after) front (some next) rest := by
  obtain ⟨_,found,ownID,ownPath⟩ := chain.writing segment rfl
  cases set.symm.trans found
  have shape : s.wrote writer part after = { s with
      disk := writeFile s.disk (openPath segment.id) (next.bytes ++ rest), writer := some after } := by
    rw [Store.wrote,ownPath,chain.opened segment rfl,bytes]
  rw [shape]
  have files : ∀ path, (∃ found, (path,found) ∈ chainFiles front (some segment)) ↔
      ∃ found, (path,found) ∈ chainFiles front (some next) := by
    intro path
    simp only [mem_chainFiles,Option.some.injEq]
    constructor
    · rintro ⟨found,old | ⟨rfl,here⟩⟩
      · exact ⟨found,.inl old⟩
      · exact ⟨next,.inr ⟨rfl,here.trans (by rw [same])⟩⟩
    · rintro ⟨found,old | ⟨rfl,here⟩⟩
      · exact ⟨found,.inl old⟩
      · exact ⟨segment,.inr ⟨rfl,here.trans (by rw [same])⟩⟩
  have ascending := List.pairwise_append.mp chain.ascending
  refine ⟨fun path name => ?_,fun found mem => ?_,?_,?_,fun found mem => ?_,fun found mem => ?_,?_,?_,chain.rows⟩
  · simp only [writeFile,mem_insert]
    rw [← files path,← chain.files path name]
    refine or_iff_right_of_imp ?_
    rintro rfl
    exact (chain.files _ name).mpr ⟨segment,mem_chainFiles.mpr (.inr ⟨rfl,rfl⟩)⟩
  · simp only [writeFile,fileAt_insert]
    rw [if_neg (openPath_ne_sealedPath _ _).symm]
    exact chain.closed found mem
  · rintro _ ⟨⟩
    simp [writeFile,same]
  · refine List.pairwise_append.mpr ⟨ascending.1,by simp,fun a mem b here => ?_⟩
    cases Option.mem_toList.mp here
    rw [same]
    exact ascending.2.2 a mem segment (by simp)
  · rcases List.mem_append.mp mem with old | new
    · exact chain.bound found (by simp [old])
    · cases Option.mem_toList.mp new
      exact same ▸ chain.bound segment (by simp)
  · rcases List.mem_append.mp mem with old | new
    · refine (chain.covered found (by simp [old])).imp_right ?_
      rintro ⟨_,again,here⟩
      cases set.symm.trans again
      exact ⟨after,rfl,id.trans here⟩
    · cases Option.mem_toList.mp new
      exact .inr ⟨after,rfl,by rw [id,ownID,same]⟩
  · rintro _ ⟨⟩
    exact ⟨after,rfl,by rw [id,ownID,same],by rw [path,ownPath,same]⟩
  · rintro _ ⟨⟩ usable
    exact ⟨next,rfl,size usable⟩

def Spooled (s : Store) (records : List RawRecord) (tail : Bytes) : Prop :=
  ∃ front last, Chain s front last tail ∧ chainRecords (chainFiles front last) = records

def Calm (s : Store) (tail : Bytes) : Prop := tail = [] ∨ ∃ writer, s.writer = some writer ∧ writer.closed = true

lemma Calm.clean (calm : Calm s tail) (set : s.writer = some writer) (live : writer.closed = false) : tail = [] := by
  refine calm.resolve_right ?_
  rintro ⟨_,found,closed⟩
  cases set.symm.trans found
  rw [live] at closed
  cases closed

variable {records : List RawRecord}

section
variable (spooled : Spooled s records tail)
include spooled

lemma Spooled.ensured (calm : Calm s tail) (ensured : Ensured s header result)
    (whole : ∀ err, result.2 = .error err → s.writer = none → header = .whole) :
    ∃ rest, Spooled result.1 records rest ∧ Calm result.1 rest ∧ (rest = tail ∨ rest = []) := by
  obtain ⟨front,last,chain,rfl⟩ := spooled
  cases ensured with
  | present set => exact ⟨tail,⟨front,last,chain,rfl⟩,calm,.inl rfl⟩
  | refused err => exact ⟨tail,⟨front,last,chain,rfl⟩,calm,.inl rfl⟩
  | cut unset short =>
    rw [whole _ rfl unset] at short
    cases short
  | started unset next createdAt err =>
    have started := chain.started unset next createdAt
    obtain rfl := chain.unset unset
    exact ⟨[],⟨front,_,started,by simp [chainRecords,chainFiles]⟩,.inl rfl,.inr rfl⟩
  | listed unset next createdAt row path =>
    have started := chain.started unset next createdAt
    obtain rfl := chain.unset unset
    exact ⟨[],⟨front,_,started.withRow (.inl path),by simp [chainRecords,chainFiles]⟩,.inl rfl,.inr rfl⟩

lemma Spooled.sealing (calm : Calm s tail) (closed : Sealed s result) :
    ∃ rest, Spooled result.1 records rest ∧ Calm result.1 rest ∧ (rest = tail ∨ rest = []) := by
  obtain ⟨front,last,chain,rfl⟩ := spooled
  have moved {writer : SegmentWriter} (after : SegmentWriter) (set : s.writer = some writer) (live : writer.closed = false)
      (same : after.id = writer.id) (closed : after.closed = true) :
      NamedAfter (sealedName writer.path) writer.id ∧ ∃ front', Chain (s.moved writer (some after)) front' none [] ∧
        chainRecords (chainFiles front' none) = chainRecords (chainFiles front last) := by
    obtain rfl := calm.clean set live
    obtain ⟨segment,rfl,-⟩ := chain.live writer set live
    obtain ⟨_,found,id,path⟩ := chain.writing segment rfl
    cases set.symm.trans found
    refine ⟨.inr (by rw [path,sealedName_openPath,id]),_,chain.moved set same closed,?_⟩
    simp [chainRecords,chainFiles]
  cases closed with
  | unset => exact ⟨tail,⟨front,last,chain,rfl⟩,calm,.inl rfl⟩
  | refused => exact ⟨tail,⟨front,last,chain,rfl⟩,calm,.inl rfl⟩
  | shut set => exact ⟨tail,⟨front,last,chain.shut set,rfl⟩,.inr ⟨_,rfl,rfl⟩,.inl rfl⟩
  | moved set live after same closed =>
    obtain ⟨-,front',renamed,records⟩ := moved after set live same closed
    exact ⟨[],⟨front',none,renamed,records⟩,.inl rfl,.inr rfl⟩
  | listed set live after same closed row path =>
    obtain ⟨named,front',renamed,records⟩ := moved after set live same closed
    exact ⟨[],⟨front',none,renamed.withRow (path ▸ named),records⟩,.inl rfl,.inr rfl⟩
  | @released writer set live row path =>
    obtain ⟨named,front',renamed,records⟩ := moved { writer with closed := true } set live rfl rfl
    have listed : Chain ((s.moved writer (some { writer with closed := true })).withRow writer.id row) front' none [] :=
      renamed.withRow (path ▸ named)
    exact ⟨[],⟨front',none,listed.released rfl ((mem_insert _).mpr (.inl rfl)),records⟩,.inl rfl,.inr rfl⟩

lemma Spooled.chosen (calm : Calm s tail) (chosen : Chosen segmentSize record io s result)
    (first : ∀ err, result.2 = .error err → s.writer = none → io.ensure.header = .whole)
    (second : ∀ err writer, result.2 = .error err → s.writer = some writer →
      startsSegment segmentSize writer record = true → io.next.header = .whole) :
    ∃ rest, Spooled result.1 records rest ∧ Calm result.1 rest ∧ (rest = tail ∨ rest = []) := by
  cases chosen with
  | first ensured => exact spooled.ensured calm ensured first
  | stuck closed => exact spooled.sealing calm closed
  | next set full closed again =>
    obtain ⟨rest,between,calm,from_⟩ := spooled.sealing calm closed
    obtain ⟨final,ensured,calm,last⟩ := between.ensured calm again fun err failed _ => second err _ failed set full
    exact ⟨final,ensured,calm,last.elim (fun same => same ▸ from_) .inr⟩

lemma Spooled.recorded (calm : Calm s tail) (set : s.writer = some writer)
    (ended : Recorded s writer batch record sequence result) :
    Spooled result.1 (records ++ [⟨record,batch,sequence⟩]) [] ∨ (∃ err, result.2 = .error err) ∧
      ∃ rest, Spooled result.1 records rest ∧ (rest = tail ∨ ∃ bytes < record.length, rest = record.take bytes) := by
  obtain ⟨front,last,chain,rfl⟩ := spooled
  have written (live : writer.closed = false) (after : SegmentWriter) (id : after.id = writer.id)
      (path : after.path = writer.path) (size : after.size ≤ writer.size + record.length) :
      NamedAfter writer.path writer.id ∧ ∃ next, Chain (s.wrote writer record after) front (some next) [] ∧
        chainRecords (chainFiles front (some next)) = chainRecords (chainFiles front last) ++ [⟨record,batch,sequence⟩] := by
    obtain rfl := calm.clean set live
    obtain ⟨segment,rfl,room⟩ := chain.live writer set live
    obtain ⟨_,found,ownID,ownPath⟩ := chain.writing segment rfl
    cases set.symm.trans found
    let next : RawSegment := { segment with records := segment.records ++ [⟨record,batch,sequence⟩] }
    refine ⟨.inl (by rw [ownPath,ownID]),next,chain.rewritten set record next rfl ?_ after id path fun _ => ?_,
      by simp [next,chainRecords,chainFiles]⟩
    · simp [next,RawSegment.bytes,rawBytes]
    · simp only [next,RawSegment.bytes,rawBytes,List.flatMap_append,List.flatMap_singleton,List.length_append] at room ⊢
      omega
  cases ended with
  | closed err => exact .inr ⟨⟨err,rfl⟩,tail,⟨front,last,chain,rfl⟩,.inl rfl⟩
  | cut live bytes err =>
    by_cases short : bytes < record.length
    · obtain rfl := calm.clean set live
      obtain ⟨segment,rfl,room⟩ := chain.live writer set live
      exact .inr ⟨⟨err,rfl⟩,_,⟨front,_,chain.rewritten set _ segment rfl (by simp) writer rfl rfl fun _ => room,rfl⟩,
        .inr ⟨bytes,short,rfl⟩⟩
    · obtain ⟨-,next,chain,records⟩ := written live writer rfl rfl (Nat.le_add_right _ _)
      rw [List.take_of_length_le (Nat.le_of_not_lt short)]
      exact .inl ⟨front,_,chain,records⟩
  | written live err =>
    obtain ⟨-,next,chain,records⟩ := written live (writer.advance record sequence) rfl rfl (Nat.le_refl _)
    exact .inl ⟨front,_,chain,records⟩
  | listed live row path =>
    obtain ⟨named,next,chain,records⟩ := written live (writer.advance record sequence) rfl rfl (Nat.le_refl _)
    exact .inl ⟨front,_,chain.withRow (path ▸ named),records⟩
  | advanced live row path =>
    obtain ⟨named,next,chain,records⟩ := written live (writer.advance record sequence) rfl rfl (Nat.le_refl _)
    exact .inl ⟨front,_,{ chain.withRow (path ▸ named) with },records⟩
  | indexed live row path =>
    obtain ⟨named,next,chain,records⟩ := written live (writer.advance record sequence) rfl rfl (Nat.le_refl _)
    exact .inl ⟨front,_,{ chain.withRow (path ▸ named) with },records⟩

end

end Steps

section Runs
variable {codec : Codec} {segmentSize : Nat} {s after : Store} {records : List RawRecord}

def Store.Below (bound : Nat) (s : Store) : Prop :=
  (∀ id ∈ s.disk.segments, id ≤ bound) ∧ ∀ writer, s.writer = some writer → writer.id ≤ bound

lemma Store.Below.withRow (below : s.Below bound) (least : segmentID ≤ bound) (row : SegmentRow) :
    (s.withRow segmentID row).Below bound := by
  refine ⟨fun other mem => ?_,below.2⟩
  rcases (mem_insert _).mp mem with rfl | old
  · exact least
  · exact below.1 other old

lemma Ensured.below (ensured : Ensured s header (after,.ok ())) (below : s.Below bound) : after.Below (bound + 1) := by
  have wider : s.Below (bound + 1) :=
    ⟨fun id mem => Nat.le_succ_of_le (below.1 id mem),fun writer set => Nat.le_succ_of_le (below.2 writer set)⟩
  cases ensured with
  | present => exact wider
  | @listed id unset next createdAt row =>
    have least : id ≤ bound + 1 := by
      have top := List.max_le_of_forall_le s.disk.segments.keys bound (fun key mem => below.1 key (mem_keys.mpr mem))
      simp only [nextSegmentID] at next
      split at next <;> cases next
      exact Nat.add_le_add_right top 1
    have started : (s.started id createdAt).Below (bound + 1) := ⟨wider.1,by rintro _ ⟨⟩; exact least⟩
    exact started.withRow least row

lemma Sealed.below (closed : Sealed s (after,.ok ())) (below : s.Below bound) : after.Below bound := by
  cases closed with
  | unset => exact below
  | @released writer set live row =>
    have moved : (s.moved writer none).Below bound := ⟨below.1,by rintro _ ⟨⟩⟩
    exact moved.withRow (below.2 writer set) row

lemma Spooled.appended (spooled : Spooled s records []) (below : s.Below bound)
    (fresh : s.batchPositions.lookup batch.getHeader.batchId = none)
    (done : appendBatch codec segmentSize s (some batch) io = (after,.ok position)) :
    Spooled after (records ++ [rawOf codec batch]) [] ∧ after.Below (bound + 1) ∧
      (∀ text, text ∈ after.batchPositions ↔ text = batch.getHeader.batchId ∨ text ∈ s.batchPositions) ∧
      ∃ record, encodeRecord codec batch = .ok (record,batchSequence batch) := by
  have appended := appendBatch_appended codec segmentSize s batch io
  rw [done] at appended
  cases appended with
  | known found =>
    rw [fresh] at found
    cases found
  | @recorded record sequence middle writer _ reaches encoded chosen set recorded =>
    obtain ⟨raw,-,-,-,rfl⟩ := encodeRecord_ok encoded
    have same : rawOf codec batch = ⟨record,batch,batchSequence batch⟩ := by simp only [rawOf,recordOf,encoded]
    obtain ⟨rest,begun,calm,-⟩ := spooled.chosen (.inl rfl) chosen (by simp) (by simp)
    have low : middle.Below (bound + 1) := by
      cases chosen with
      | first ensured => exact ensured.below below
      | next _ _ closed again => exact again.below (closed.below below)
    have index := chosen.marks.index
    cases recorded with
    | indexed live row path state fits =>
      rcases begun.recorded calm set (.indexed live row path state fits) with grown | ⟨⟨_,⟨⟩⟩,-⟩
      refine ⟨same ▸ grown,?_,fun text => by rw [← index]; exact mem_insert _,record,encoded⟩
      have wrote : (middle.wrote writer record (writer.advance record (batchSequence batch))).Below (bound + 1) :=
        ⟨low.1,by rintro _ ⟨⟩; exact low.2 writer set⟩
      exact wrote.withRow (low.2 writer set) row

structure AppendCall where
  batch : Option DataBatch
  io : AppendEffects := {}

def appendAll (codec : Codec) (segmentSize : Nat) : List AppendCall → Store → Except String Store
  | [], s => .ok s
  | call :: calls, s =>
    match appendBatch codec segmentSize s call.batch call.io with
    | (_,.error err) => .error err
    | (s,.ok _) => appendAll codec segmentSize calls s

def newBatches : List String → List DataBatch → List DataBatch
  | _, [] => []
  | known, batch :: batches =>
    if batch.getHeader.batchId ∈ known then newBatches known batches
    else batch :: newBatches (batch.getHeader.batchId :: known) batches

lemma Spooled.run (calls : List AppendCall) (spooled : Spooled s records []) (below : s.Below bound)
    (index : ∀ text, text ∈ s.batchPositions ↔ text ∈ known) (ok : appendAll codec segmentSize calls s = .ok after) :
    Spooled after (records ++ (newBatches known (calls.filterMap (·.batch))).map (rawOf codec)) [] ∧
      after.Below (bound + calls.length) ∧ ∀ batch ∈ newBatches known (calls.filterMap (·.batch)),
        ∃ record, encodeRecord codec batch = .ok (record,batchSequence batch) := by
  induction calls generalizing s records bound known with
  | nil =>
    cases ok
    exact ⟨by simpa [newBatches] using spooled,below,by simp [newBatches]⟩
  | cons call calls ih =>
    simp only [appendAll] at ok
    split at ok
    · cases ok
    rename_i middle position turn
    cases given : call.batch with
    | none =>
      simp only [given,appendBatch] at turn
      cases turn
    | some batch =>
      rw [given] at turn
      have listed : (call :: calls).filterMap (·.batch) = batch :: calls.filterMap (·.batch) := by
        simp [given]
      rw [listed,newBatches]
      by_cases fresh : batch.getHeader.batchId ∈ known
      · obtain ⟨found,lookup⟩ : ∃ found, s.batchPositions.lookup batch.getHeader.batchId = some found :=
          Option.isSome_iff_exists.mp (lookup_isSome.mpr ((index _).mpr fresh))
        have appended := appendBatch_appended codec segmentSize s batch call.io
        rw [turn] at appended
        have unchanged : middle = s := by
          cases appended with
          | known => rfl
          | recorded reaches =>
            rw [reaches.unknown] at lookup
            cases lookup
        subst unchanged
        rw [if_pos fresh]
        obtain ⟨final,low,encoded⟩ := ih spooled below index ok
        exact ⟨final,⟨fun id mem => (low.1 id mem).trans (by simp),fun writer set => (low.2 writer set).trans (by simp)⟩,
          encoded⟩
      · have unknown : s.batchPositions.lookup batch.getHeader.batchId = none :=
          lookup_eq_none.mpr fun inside => fresh ((index _).mp inside)
        obtain ⟨next,low,known',encoded⟩ := spooled.appended below unknown turn
        have index' : ∀ text, text ∈ middle.batchPositions ↔ text ∈ batch.getHeader.batchId :: known := by
          intro text
          rw [known',index,List.mem_cons]
        obtain ⟨final,low',encoded'⟩ := ih next low index' ok
        rw [Nat.add_assoc,Nat.add_comm 1] at low'
        rw [if_neg fresh]
        refine ⟨by simpa using final,low',?_⟩
        rintro other (_ | ⟨_,later⟩)
        · exact encoded
        · exact encoded' other later

end Runs

end SysArmor.LocalStore
