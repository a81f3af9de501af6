import SysArmor.SegmentRebuild

/-! Runs of `AppendBatch` calls with any I/O outcome at every operation, and what the
reopened store reads after them. -/
namespace SysArmor.LocalStore
open ByteWords Proto Digits List

variable {sequence : UInt64}

def appendRun (codec : Codec) (segmentSize : Nat) : List AppendCall → Store → Store × List DataBatch
  | [], s => (s,[])
  | call :: calls, s =>
    let turn := appendBatch codec segmentSize s call.batch call.io
    let rest := appendRun codec segmentSize calls turn.1
    match call.batch, turn.2 with
    | some batch, .ok _ => (rest.1,batch :: rest.2)
    | _, _ => rest

def OnDisk (codec : Codec) (d : Disk) (text : String) : Prop :=
  ∃ path ∈ segmentFiles d.spool, ∃ stored file,
    readSegment codec (fileAt d.spool path) (hasSuffix path ".open") = .ok (stored,file) ∧
      ∃ entry ∈ stored, entry.position.batchID = text

def Untorn (s : Store) : Prop :=
  ∀ writer, s.writer = some writer → writer.closed = false →
    writer.size = (fileAt s.disk.spool writer.path).length

/-- What such a call must meet: no torn record behind the writer, no unindexed record of the
same id, a record within the reader's limits, sequence numbers the database takes, and header
writes of new segments that are not cut. -/
structure Clean (codec : Codec) (segmentSize : Nat) (s : Store) (batch : DataBatch) (io : AppendEffects) : Prop where
  untorn : Untorn s
  absent : ¬ OnDisk codec s.disk batch.getHeader.batchId
  fits : RecordFits codec batch
  sequence : batchSequence batch < 2 ^ 63
  eventEnd : batch.getHeader.eventSeqEnd < 2 ^ 63
  signalEnd : batch.getHeader.signalSeqEnd < 2 ^ 63
  header : s.writer = none → io.ensure.header = .whole
  nextHeader : ∀ writer, s.writer = some writer →
    startsSegment segmentSize writer (recordOf codec batch) = true → io.next.header = .whole

def CleanRun (codec : Codec) (segmentSize : Nat) : List AppendCall → Store → Prop
  | [], _ => True
  | call :: calls, s =>
    (∀ batch, call.batch = some batch → Reaches codec s batch → Clean codec segmentSize s batch call.io) ∧
      CleanRun codec segmentSize calls (appendBatch codec segmentSize s call.batch call.io).1

/-- No two calls carry different batches under one id. -/
def Identified (calls : List AppendCall) : Prop :=
  ∀ call ∈ calls, ∀ other ∈ calls, ∀ batch again, call.batch = some batch → other.batch = some again →
    batch.getHeader.batchId = again.getHeader.batchId → batch = again

/-- The store after clean calls: its records are those of distinct storable batches, indexed ids are
among them, and only a part of a record may lie behind them. -/
structure Sound (codec : Codec) (batches : List DataBatch) (tail : Bytes) (s : Store) : Prop where
  spooled : Spooled s (batches.map (rawOf codec)) tail
  storable : ∀ batch ∈ batches, Storable codec batch
  distinct : (batches.map (·.getHeader.batchId)).Nodup
  torn : Torn codec tail
  indexed : ∀ text, text ∈ s.batchPositions → text ∈ batches.map (·.getHeader.batchId)
  cursor : s.cursor.Fits
  disk : s.disk.cursor.Fits

section Steps
variable {codec : Codec} {batches : List DataBatch} {tail : Bytes} {s : Store} {batch : DataBatch}

lemma Sound.empty (codec : Codec) : Sound codec [] [] {} :=
  ⟨⟨[],none,.empty,rfl⟩,by simp,by simp,.inl rfl,by simp,⟨zero_fits,zero_fits⟩,⟨zero_fits,zero_fits⟩⟩

lemma Chain.recoverable (chain : Chain s front last tail) (torn : Torn codec tail)
    (accepted : ∀ record ∈ chainRecords (chainFiles front last), Accepted codec record) :
    ∀ file ∈ chainFiles front last, Recoverable codec s.disk.spool file := by
  rintro ⟨path,segment⟩ mem
  have inside : segment ∈ front ++ last.toList := by
    rw [← chainFiles_segments]
    exact mem_map_of_mem (f := fun file : String × RawSegment => file.2) mem
  have named := chainFiles_named mem
  have reads : ∀ record ∈ segment.records, Accepted codec record :=
    fun record here => accepted record (mem_flatMap.mpr ⟨_,mem,here⟩)
  have fits : segment.id < 2 ^ 64 := (chain.bound segment inside).trans (by decide)
  refine ⟨(chain.files path (isSegment_of_named named)).mpr ⟨segment,mem⟩,named,chain.bound segment inside,?_⟩
  rcases mem_chainFiles.mp mem with ⟨old,rfl⟩ | ⟨rfl,rfl⟩
  · simp only [chain.closed segment old]
    exact readSegment_raw segment reads fits _
  simp only [chain.opened segment rfl,hasSuffix_openPath]
  exact readSegment_torn segment reads fits torn

lemma Sound.accepted (sound : Sound codec batches tail s) : ∀ record ∈ batches.map (rawOf codec), Accepted codec record := by
  intro record mem
  obtain ⟨batch,inside,rfl⟩ := mem_map.mp mem
  exact (sound.storable batch inside).readable

lemma Sound.reopens (sound : Sound codec batches tail s) :
    ∃ after stored, recoverSegments codec s.disk = .ok after ∧ spoolBatches codec after.disk.spool = .ok stored ∧
      (stored.map (·.batch)).Perm batches := by
  obtain ⟨front,last,chain,records⟩ := sound.spooled
  have names : (segmentFiles s.disk.spool).Perm ((chainFiles front last).map (·.1)) := by
    refine (perm_ext_iff_of_nodup ((segmentFiles_sorted _).imp ne_of_lt) chain.paths_nodup).mpr fun path => ?_
    rw [mem_segmentFiles,mem_map]
    constructor
    · rintro ⟨inside,name⟩
      obtain ⟨segment,mem⟩ := (chain.files path name).mp inside
      exact ⟨_,mem,rfl⟩
    rintro ⟨⟨_,segment⟩,mem,rfl⟩
    have name := isSegment_of_named (chainFiles_named mem)
    exact ⟨(chain.files _ name).mpr ⟨segment,mem⟩,name⟩
  obtain ⟨todo,same,perm⟩ := (congrFun (congrFun (eq_map_comp_perm fun file : String × RawSegment => file.1) _) _).mpr names
  have recoverable : ∀ file ∈ todo, Recoverable codec s.disk.spool file :=
    fun file mem => chain.recoverable sound.torn (records ▸ sound.accepted) file (perm.mem_iff.mp mem)
  obtain ⟨succeeds,shapes⟩ := recoverSegments_chain chain.files chain.ascending perm same recoverable chain.rows sound.disk
  have kept : (chainRecords todo).Perm (batches.map (rawOf codec)) := records ▸ perm.flatMap_right _
  have numbers : NumbersFit todo := by
    have storable : ∀ record ∈ chainRecords todo, ∃ batch, Storable codec batch ∧ record = rawOf codec batch := by
      intro record mem
      obtain ⟨batch,inside,rfl⟩ := mem_map.mp (kept.mem_iff.mp mem)
      exact ⟨batch,sound.storable batch inside,rfl⟩
    refine ⟨fun file mem => ⟨fun record here => ?_,fun record here => ?_⟩,fun record mem => ?_⟩
    · obtain ⟨batch,fits,rfl⟩ := storable record (mem_flatMap.mpr ⟨file,mem,mem_of_mem_head? here⟩)
      exact fits.sequence
    · obtain ⟨batch,fits,rfl⟩ := storable record (mem_flatMap.mpr ⟨file,mem,mem_of_mem_getLast? here⟩)
      exact fits.sequence
    · obtain ⟨batch,fits,rfl⟩ := storable record mem
      exact ⟨fits.eventEnd,fits.signalEnd⟩
  obtain ⟨after,done⟩ := succeeds.mpr numbers
  obtain ⟨-,bytes,listed,-⟩ := shapes after done
  refine ⟨after,chainStored todo,done,?_,?_⟩
  · rw [spoolBatches,listed]
    refine batchesOf_chain todo bytes (fun file mem => (recoverable file mem).id.trans (by decide)) fun record mem => ?_
    exact sound.accepted record (kept.mem_iff.mp mem)
  · rw [chainStored_batches]
    refine (kept.map _).trans (List.Perm.of_eq ?_)
    simp [Function.comp_def,rawOf]

lemma Clean.storable (clean : Clean codec segmentSize s batch io) (inverts : codec.Inverts batch)
    (encoded : encodeRecord codec batch = .ok (record,stamp)) (short : record.length < 2 ^ 32) : Storable codec batch :=
  ⟨(readable_iff inverts encoded short).mpr clean.fits,clean.sequence,clean.eventEnd,clean.signalEnd⟩

lemma Chain.calm (chain : Chain s front last tail) (untorn : Untorn s) : ∃ rest, Chain s front last rest ∧ Calm s rest ∧
    (rest = tail ∨ rest = []) := by
  cases last with
  | none => exact ⟨[],{ chain with opened := by simp },.inl rfl,.inr rfl⟩
  | some segment =>
    obtain ⟨writer,set,id,path⟩ := chain.writing segment rfl
    refine ⟨tail,chain,?_,.inl rfl⟩
    cases live : writer.closed with
    | true => exact .inr ⟨writer,set,live⟩
    | false =>
      obtain ⟨_,⟨⟩,room⟩ := chain.live writer set live
      have length := untorn writer set live
      rw [path,chain.opened segment rfl,length_append] at length
      exact .inl (length_eq_zero_iff.mp (by omega))

section
variable (sound : Sound codec batches tail s)
include sound

lemma Sound.fresh_of_absent (absent : ¬ OnDisk codec s.disk batch.getHeader.batchId) :
    batch.getHeader.batchId ∉ batches.map (·.getHeader.batchId) := by
  intro known
  obtain ⟨front,last,chain,records⟩ := sound.spooled
  obtain ⟨other,inside,same⟩ := mem_map.mp known
  have mem : rawOf codec other ∈ chainRecords (chainFiles front last) := records ▸ mem_map_of_mem inside
  obtain ⟨file,listed,here⟩ := mem_flatMap.mp mem
  have found := chain.recoverable sound.torn (records ▸ sound.accepted) file listed
  refine absent ⟨file.1,mem_segmentFiles.mpr ⟨found.present,isSegment_of_named found.named⟩,_,_,found.read,?_⟩
  have text : other.getHeader.batchId ∈ (storedRaw file.2.id segmentHeaderSize file.2.records).map (·.position.batchID) := by
    rw [storedRaw_ids]
    exact mem_map.mpr ⟨_,here,rfl⟩
  obtain ⟨entry,stored,name⟩ := mem_map.mp text
  exact ⟨entry,stored,name.trans same⟩

lemma Sound.afterAppend (inverts : codec.Inverts batch)
    (short : (recordOf codec batch).length < 2 ^ 32) (clean : Reaches codec s batch → Clean codec segmentSize s batch io) :
    ∃ grown rest, Sound codec grown rest (appendBatch codec segmentSize s (some batch) io).1 ∧
      (grown = batches ∨ grown = batches ++ [batch]) ∧
      ∀ position, (appendBatch codec segmentSize s (some batch) io).2 = .ok position →
        batch.getHeader.batchId ∈ grown.map (·.getHeader.batchId) := by
  have appended := appendBatch_appended codec segmentSize s batch io
  generalize appendBatch codec segmentSize s (some batch) io = result at appended
  have calm (meets : Clean codec segmentSize s batch io) :
      ∃ rest, Spooled s (batches.map (rawOf codec)) rest ∧ Calm s rest ∧ Torn codec rest := by
    obtain ⟨front,last,chain,records⟩ := sound.spooled
    obtain ⟨rest,chain,calm,from_⟩ := chain.calm meets.untorn
    exact ⟨rest,⟨front,last,chain,records⟩,calm,from_.elim (fun same => same ▸ sound.torn) .inl⟩
  cases appended with
  | refused err => exact ⟨batches,tail,sound,.inl rfl,by simp⟩
  | known found =>
    exact ⟨batches,tail,sound,.inl rfl,fun _ _ => sound.indexed _ (AList.lookup_isSome.mp (by rw [found]; rfl))⟩
  | @failed record _ _ _ reaches encoded chosen =>
    have meets := clean reaches
    obtain rfl := recordOf_ok encoded
    obtain ⟨rest,spooled,quiet,torn⟩ := calm meets
    obtain ⟨final,spooled,-,from_⟩ := spooled.chosen quiet chosen (fun _ _ => meets.header)
      (fun _ writer _ => meets.nextHeader writer)
    have marks := chosen.marks
    refine ⟨batches,final,⟨spooled,sound.storable,sound.distinct,?_,?_,?_,?_⟩,.inl rfl,by simp⟩
    · exact from_.elim (fun same => same ▸ torn) .inl
    · rw [marks.index]
      exact sound.indexed
    · rw [marks.memory]
      exact sound.cursor
    · rw [marks.disk]
      exact sound.disk
  | @recorded record stamp middle writer result reaches encoded chosen set recorded =>
    have meets := clean reaches
    have storable := meets.storable inverts encoded (recordOf_ok encoded ▸ short)
    obtain ⟨raw,-,-,-,rfl⟩ := encodeRecord_ok encoded
    obtain rfl := recordOf_ok encoded
    obtain ⟨rest,spooled,quiet,torn⟩ := calm meets
    obtain ⟨middleRest,spooled,quiet,from_⟩ := spooled.chosen quiet chosen (fun _ _ => meets.header)
      (fun _ writer _ => meets.nextHeader writer)
    obtain ⟨memory,disk,index⟩ := chosen.marks
    dsimp only at memory disk index
    obtain ⟨cursor,diskCursor,known⟩ := recorded.marks (by rw [memory]; exact sound.cursor)
      (by rw [disk]; exact sound.disk) storable
    rcases spooled.recorded quiet set recorded with grown | ⟨⟨err,failed⟩,last,same,part⟩
    · refine ⟨batches ++ [batch],[],⟨by simpa [rawOf] using grown,?_,?_,.inl rfl,fun text mem => ?_,cursor,diskCursor⟩,
        .inr rfl,by simp⟩
      · intro other mem
        rcases mem_append.mp mem with old | new
        · exact sound.storable other old
        · exact mem_singleton.mp new ▸ storable
      · rw [map_append,nodup_append]
        refine ⟨sound.distinct,by simp,?_⟩
        rintro _ old _ new rfl
        simp only [map_cons,map_nil,mem_singleton] at new
        exact sound.fresh_of_absent meets.absent (new ▸ old)
      · rcases known text mem with here | rfl
        · rw [map_append]
          exact mem_append.mpr (.inl (sound.indexed text (index ▸ here)))
        · simp
    · refine ⟨batches,last,⟨same,sound.storable,sound.distinct,?_,fun text mem => ?_,cursor,diskCursor⟩,.inl rfl,
        by simp [failed]⟩
      · rcases part with rfl | ⟨bytes,less,rfl⟩
        · exact from_.elim (fun same => same ▸ torn) .inl
        refine .inr ⟨rawOf codec batch,storable.readable, take_prefix _ _,fun whole => ?_⟩
        have length := congrArg List.length whole
        rw [length_take] at length
        exact absurd length (by dsimp only [rawOf]; omega)
      · cases recorded with
        | indexed => cases failed
        | _ => exact sound.indexed text (index ▸ mem)

lemma Sound.run (calls : List AppendCall)
    (inverts : ∀ call ∈ calls, ∀ batch, call.batch = some batch → codec.Inverts batch)
    (short : ∀ call ∈ calls, ∀ batch, call.batch = some batch → (recordOf codec batch).length < 2 ^ 32)
    (clean : CleanRun codec segmentSize calls s) :
    ∃ added rest, Sound codec (batches ++ added) rest (appendRun codec segmentSize calls s).1 ∧
      (∀ other ∈ added, ∃ call ∈ calls, call.batch = some other) ∧ ∀ batch ∈ (appendRun codec segmentSize calls s).2,
        batch.getHeader.batchId ∈ (batches ++ added).map (·.getHeader.batchId) := by
  induction calls generalizing batches tail s with
  | nil => exact ⟨[],tail,by simpa [appendRun] using sound,by simp,by simp [appendRun]⟩
  | cons call calls ih =>
    obtain ⟨here,later⟩ := clean
    have rest {batches tail} (sound : Sound codec batches tail (appendBatch codec segmentSize s call.batch call.io).1) :=
      ih sound (fun other mem => inverts other (by simp [mem])) (fun other mem => short other (by simp [mem])) later
    cases offered : call.batch with
    | none =>
      simp only [offered] at rest
      obtain ⟨added,left,kept,origins,acked⟩ := rest sound
      simp only [appendRun,offered]
      refine ⟨added,left,kept,fun other mem => ?_,acked⟩
      obtain ⟨found,inside,same⟩ := origins other mem
      exact ⟨found,by simp [inside],same⟩
    | some batch =>
      simp only [offered] at rest
      obtain ⟨grown,between,turn,grows,success⟩ := sound.afterAppend (inverts call (by simp) batch offered)
        (short call (by simp) batch offered) (here batch offered)
      obtain ⟨added,left,kept,origins,acked⟩ := rest turn
      obtain ⟨own,rfl,mine⟩ : ∃ own, grown = batches ++ own ∧ ∀ other ∈ own, other = batch := by
        rcases grows with rfl | rfl
        · exact ⟨[],by simp,by simp⟩
        · exact ⟨[batch],rfl,by simp⟩
      rw [append_assoc] at kept acked
      refine ⟨own ++ added,left,?_,fun other mem => ?_,fun other mem => ?_⟩
      · simp only [appendRun,offered]
        split <;> exact kept
      · rcases mem_append.mp mem with first | second
        · exact ⟨call,by simp,by rw [mine other first]; exact offered⟩
        · obtain ⟨found,inside,same⟩ := origins other second
          exact ⟨found,by simp [inside],same⟩
      · simp only [appendRun,offered] at mem
        split at mem
        · rename_i given answered
          cases given
          rcases mem_cons.mp mem with rfl | later
          · rw [← append_assoc,map_append]
            exact mem_append.mpr (.inl (success _ answered))
          · exact acked other later
        · exact acked other mem

end

end Steps

lemma offered_of_acked (codec : Codec) (segmentSize : Nat) {calls : List AppendCall} {s : Store} {batch : DataBatch}
    (acked : batch ∈ (appendRun codec segmentSize calls s).2) : ∃ call ∈ calls, call.batch = some batch := by
  induction calls generalizing s with
  | nil => cases acked
  | cons call calls ih =>
    have later (mem : batch ∈ (appendRun codec segmentSize calls (appendBatch codec segmentSize s call.batch call.io).1).2) :
        ∃ call' ∈ call :: calls, call'.batch = some batch := by
      obtain ⟨other,inside,same⟩ := ih mem
      exact ⟨other,mem_cons_of_mem _ inside,same⟩
    simp only [appendRun] at acked
    split at acked
    · rename_i offered _
      rcases mem_cons.mp acked with rfl | mem
      · exact ⟨call,mem_cons_self,offered⟩
      · exact later mem
    · exact later acked

lemma filter_singleton {stored : List StoredBatch} (nodup : (stored.map (·.batch.getHeader.batchId)).Nodup)
    (mem : entry ∈ stored) :
    stored.filter (fun other => other.batch.getHeader.batchId = entry.batch.getHeader.batchId) = [entry] := by
  induction stored with
  | nil => cases mem
  | cons head rest ih =>
    obtain ⟨absent,distinctRest⟩ := nodup_cons.mp nodup
    rcases mem_cons.mp mem with rfl | later
    · have none : rest.filter (fun other => other.batch.getHeader.batchId = entry.batch.getHeader.batchId) = [] := by
        rw [filter_eq_nil_iff]
        intro other inside same
        exact absent (mem_map.mpr ⟨other,inside,by simpa using same⟩)
      simp [none]
    · have distinctHead : head.batch.getHeader.batchId ≠ entry.batch.getHeader.batchId :=
        fun same => absent (mem_map.mpr ⟨entry,later,same.symm⟩)
      simp [distinctHead,ih distinctRest later]

/-- After any run of clean calls, whatever failed in them, the store reopens and reads every
acknowledged batch exactly once, and no id twice. -/
theorem appendRun_atomic (codec : Codec) (segmentSize : Nat) (calls : List AppendCall)
    (inverts : ∀ call ∈ calls, ∀ batch, call.batch = some batch → codec.Inverts batch)
    (short : ∀ call ∈ calls, ∀ batch, call.batch = some batch → (recordOf codec batch).length < 2 ^ 32)
    (identified : Identified calls) (clean : CleanRun codec segmentSize calls {}) :
    ∃ s stored, recoverSegments codec (appendRun codec segmentSize calls {}).1.disk = .ok s ∧
      spoolBatches codec s.disk.spool = .ok stored ∧ (stored.map (·.batch.getHeader.batchId)).Nodup ∧
      ∀ batch ∈ (appendRun codec segmentSize calls {}).2, ∃ entry, entry.batch = batch ∧
        stored.filter (fun other => other.batch.getHeader.batchId = batch.getHeader.batchId) = [entry] := by
  obtain ⟨batches,tail,sound,origins,acked⟩ := (Sound.empty codec).run calls inverts short clean
  rw [nil_append] at sound acked
  obtain ⟨s,stored,reopened,read,perm⟩ := sound.reopens
  have nodup : (stored.map (·.batch.getHeader.batchId)).Nodup := by
    have ids := ((perm.map (·.getHeader.batchId)).nodup_iff).mpr sound.distinct
    rwa [map_map] at ids
  refine ⟨s,stored,reopened,read,nodup,fun batch mem => ?_⟩
  obtain ⟨other,onDisk,same⟩ := mem_map.mp (acked batch mem)
  obtain ⟨entry,found,rfl⟩ := mem_map.mp (perm.mem_iff.mpr onDisk)
  refine ⟨entry,?_,by rw [← same]; exact filter_singleton nodup found⟩
  obtain ⟨stored,inCalls,kept⟩ := origins entry.batch onDisk
  obtain ⟨call,also,offered⟩ := offered_of_acked codec segmentSize mem
  exact identified stored inCalls call also _ _ kept offered same

/-- The first write of the batch fails without a byte; it is tried again, and then offered once more. -/
def refusedThenRetried : List AppendCall :=
  [⟨some (idBatch "b1"),{ write := .short 0 "no space left on device" }⟩,⟨some (idBatch "b1"),{}⟩,⟨some (idBatch "b1"),{}⟩]

def afterRefusal : Store :=
  (appendBatch shortIdCodec 1024 {} (some (idBatch "b1")) { write := .short 0 "no space left on device" }).1

lemma clean_short {s : Store} {io : AppendEffects} (untorn : Untorn s) (absent : ¬ OnDisk shortIdCodec s.disk "b1")
    (header : io.ensure.header = .whole) (next : io.next.header = .whole) : Clean shortIdCodec 1024 s (idBatch "b1") io where
  untorn := untorn
  absent := absent
  fits := by
    intro raw marshalled
    obtain rfl : [0x0A,0x04,0x0A,0x02,0x62,0x31] = raw := by simpa [shortIdCodec,storedCodec] using marshalled
    exact ⟨by decide,.inl (by decide)⟩
  sequence := zero_fits
  eventEnd := zero_fits
  signalEnd := zero_fits
  header _ := header
  nextHeader _ _ _ := next

lemma clean_afterRefusal : Clean shortIdCodec 1024 afterRefusal (idBatch "b1") {} := by
  refine clean_short ?_ ?_ rfl rfl
  · intro writer set live
    have sizes : (afterRefusal.writer.all fun writer =>
        writer.closed || writer.size = (fileAt afterRefusal.disk.spool writer.path).length) = true := by decide +kernel
    simpa [set,live] using sizes
  · have files : segmentFiles afterRefusal.disk.spool = [openPath 1] := by decide +kernel
    have file : fileAt afterRefusal.disk.spool (openPath 1) = encodeSegmentHeader 1 0 ++ [] := by decide +kernel
    rintro ⟨path,mem,stored,left,read,entry,inside,-⟩
    rw [files] at mem
    obtain rfl := mem_singleton.mp mem
    rw [file,readSegment_header (by decide),readRecords_eof (nextRecord_eof.mpr rfl)] at read
    cases read
    cases inside

theorem refusedThenRetried_atomic :
    (appendRun shortIdCodec 1024 refusedThenRetried {}).2 = [idBatch "b1",idBatch "b1"] ∧
    ∃ s stored, recoverSegments shortIdCodec (appendRun shortIdCodec 1024 refusedThenRetried {}).1.disk = .ok s ∧
      spoolBatches shortIdCodec s.disk.spool = .ok stored ∧ (stored.map (·.batch.getHeader.batchId)).Nodup ∧
      ∀ batch ∈ (appendRun shortIdCodec 1024 refusedThenRetried {}).2, ∃ entry, entry.batch = batch ∧
        stored.filter (fun other => other.batch.getHeader.batchId = batch.getHeader.batchId) = [entry] := by
  have only : ∀ call ∈ refusedThenRetried, ∀ batch, call.batch = some batch → batch = idBatch "b1" := by
    simp [refusedThenRetried]
  refine ⟨by decide +kernel,appendRun_atomic shortIdCodec 1024 refusedThenRetried ?_ ?_ ?_ ?_⟩
  · intro call mem batch offered
    rw [only call mem batch offered]
    exact storedCodec_inverts _ _
  · intro call mem batch offered
    rw [only call mem batch offered]
    decide +kernel
  · intro call mem other among batch again offered repeated _
    rw [only call mem batch offered,only other among again repeated]
  · refine ⟨?_,?_,?_,trivial⟩ <;> rintro batch ⟨⟩ reaches
    · refine clean_short (by simp [Untorn]) ?_ rfl rfl
      rintro ⟨path,mem,-⟩
      cases mem
    · exact clean_afterRefusal
    · exact absurd reaches.unknown (by decide +kernel)

def retriedCalls : List AppendCall :=
  [⟨some (idBatch "b1"),{ write := .short 5 "no space left on device" }⟩,⟨some (idBatch "b1"),{}⟩]

/-- The retry is acknowledged, but its record lies behind the torn one, and the store does not
open again. -/
theorem retry_after_short_write : (appendRun shortIdCodec 1024 retriedCalls {}).2 = [idBatch "b1"] ∧
      recoverSegments shortIdCodec (appendRun shortIdCodec 1024 retriedCalls {}).1.disk = .error "record CRC mismatch" := by
  refine ⟨by decide +kernel,?_⟩
  generalize shape : (appendRun shortIdCodec 1024 retriedCalls {}).1.disk = d
  let tail := (recordOf shortIdCodec (idBatch "b1")).take 5 ++ recordOf shortIdCodec (idBatch "b1")
  have files : segmentFiles d.spool = [openPath 1] := by
    rw [← shape]
    decide +kernel
  have file : fileAt d.spool (openPath 1) = encodeSegmentHeader 1 0 ++ tail := by
    rw [← shape]
    decide +kernel
  have next : nextRecord shortIdCodec tail = .bad "record CRC mismatch" := by decide +kernel
  have read (truncateTail : Bool) : readSegment shortIdCodec (fileAt d.spool (openPath 1)) truncateTail =
      .error "record CRC mismatch" := by
    rw [file,readSegment_header (by decide),readRecords_bad next]
  simp [recoverSegments,files,recoverFiles,recoverFile,read]

end SysArmor.LocalStore
