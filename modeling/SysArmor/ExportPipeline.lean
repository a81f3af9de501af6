import SysArmor.SegmentRoundTrip
import SysArmor.SegmentChain

/-! The export pipeline of the agent daemon: one `exportAvailable` call reads a page of
the spool from a fixed start sequence, skips what the checkpoint covers and moves the
checkpoint over what it hands to the exporter. -/
namespace SysArmor.Daemon
open ByteWords Proto Digits LocalStore List

structure Checkpoint where
  (segmentID recordOffset : Nat := 0)
  lastBatchID : String := ""
  deriving DecidableEq

def Checkpoint.place (checkpoint : Checkpoint) : Nat × Nat :=
  (checkpoint.segmentID,checkpoint.recordOffset)

structure Pipeline where
  fromSequence : UInt64
  (tenantID agentID : String)

abbrev Exporter := Nat → DataBatch → Except String Bool

/-- The stored checkpoint, the batches committed so far and the exports attempted so far, and how
each write of the checkpoint ends. -/
structure ExportState where
  checkpoint : Checkpoint
  exported : List StoredBatch := []
  (attempts saves : Nat := 0)
  outcome : Nat → Outcome := fun _ => .done

def beforeCheckpoint (position : Position) (checkpoint : Checkpoint) : Bool :=
  if position.segmentID < checkpoint.segmentID then true
  else position.segmentID = checkpoint.segmentID && position.recordOffset < checkpoint.recordOffset

/-- `SaveCheckpoint`: database/sql refuses an unsigned argument with the high bit set. -/
def saveCheckpoint (s : ExportState) (position : Position) : ExportState × Except String Unit :=
  if 2 ^ 63 ≤ position.segmentID then (s,.error (highBitError 1))
  else
    let kept := { s with saves := s.saves + 1 }
    let moved := { kept with checkpoint := ⟨position.segmentID,position.recordOffset,position.batchID⟩ }
    match s.outcome s.saves with
    | .done => (moved,.ok ())
    | .failed err => (kept,.error err)
    | .lost err => (moved,.error err)

def Pipeline.foreign (u : Pipeline) (batch : DataBatch) : Bool :=
  u.tenantID != "" && (batch.getHeader.tenantId != u.tenantID || batch.getHeader.agentId != u.agentID)

def exportOne (u : Pipeline) (exporter : Exporter) (checkpoint : Checkpoint) (stored : StoredBatch)
    (s : ExportState) : ExportState × Except String Unit :=
  if beforeCheckpoint stored.position checkpoint then (s,.ok ())
  else if u.foreign stored.batch then saveCheckpoint s stored.position
  else
    let tried := { s with attempts := s.attempts + 1 }
    match exporter s.attempts stored.batch with
    | .error err => (tried,.error err)
    | .ok false =>
      let id := stored.position.batchID
      (tried,.error s!"batch {id} was not committed")
    | .ok true => saveCheckpoint { tried with exported := tried.exported ++ [stored] } stored.position

def exportLoop (u : Pipeline) (exporter : Exporter) (checkpoint : Checkpoint) :
    List StoredBatch → ExportState → ExportState × Except String Unit
  | [], s => (s,.ok ())
  | stored :: rest, s =>
    match exportOne u exporter checkpoint stored s with
    | (s,.error err) => (s,.error err)
    | (s,.ok ()) => exportLoop u exporter checkpoint rest s

def exportLimit : Int := 1000

def exportAvailable (codec : Codec) (spool : Directory) (u : Pipeline) (exporter : Exporter)
    (s : ExportState) : ExportState × Except String Unit :=
  match readBatches codec spool ⟨exportLimit,u.fromSequence⟩ with
  | .error err => (s,.error err)
  | .ok batches => exportLoop u exporter s.checkpoint batches s

def exportCalls (codec : Codec) (spool : Directory) (u : Pipeline) (exporter : Exporter) :
    Nat → ExportState → ExportState
  | 0, s => s
  | calls + 1, s =>
    exportCalls codec spool u exporter calls (exportAvailable codec spool u exporter s).1

def Pipeline.eligible (u : Pipeline) (stored : StoredBatch) : Bool :=
  fromOn u.fromSequence stored && !u.foreign stored.batch

def ExportState.Reached (s : ExportState) (stored : StoredBatch) : Prop :=
  stored ∈ s.exported ∧ ¬ Earlier s.checkpoint.place stored.position.place

lemma beforeCheckpoint_iff : beforeCheckpoint position checkpoint = true ↔ Earlier position.place checkpoint.place := by
  unfold beforeCheckpoint Earlier
  split <;> simp_all [Position.place,Checkpoint.place]

section Loop
variable {u : Pipeline} {exporter : Exporter} {checkpoint : Checkpoint}

@[simp] lemma saveCheckpoint_exported (s : ExportState) (position : Position) :
    (saveCheckpoint s position).1.exported = s.exported := by
  unfold saveCheckpoint
  split
  · rfl
  · dsimp only
    split <;> rfl

def ExportState.Saves (s : ExportState) : Prop := ∀ save, s.outcome save = .done

variable {s : ExportState}

lemma saveCheckpoint_of_lt (saves : s.Saves) (bound : position.segmentID < 2 ^ 63) : saveCheckpoint s position =
      ({ s with checkpoint := ⟨position.segmentID,position.recordOffset,position.batchID⟩, saves := s.saves + 1 },.ok ()) := by
  simp only [saveCheckpoint,saves s.saves]
  exact if_neg (by omega)

lemma exportOne_exported (stored : StoredBatch) (s : ExportState) :
    (exportOne u exporter checkpoint stored s).1.exported = s.exported ∨
      (exportOne u exporter checkpoint stored s).1.exported = s.exported ++ [stored] := by
  unfold exportOne
  split
  · exact .inl rfl
  split
  · simp
  · cases exporter s.attempts stored.batch with
    | error err => exact .inl rfl
    | ok committed => cases committed <;> simp

lemma exportLoop_exported (u : Pipeline) (exporter : Exporter) (checkpoint : Checkpoint) (page : List StoredBatch)
    (s : ExportState) : ∃ sent ⊆ page, (exportLoop u exporter checkpoint page s).1.exported = s.exported ++ sent := by
  induction page generalizing s with
  | nil => exact ⟨[],by simp,by simp [exportLoop]⟩
  | cons head rest ih =>
    have turn : (exportOne u exporter checkpoint head s).1.exported = _ ∨ _ = _ := exportOne_exported head s
    unfold exportLoop
    generalize exportOne u exporter checkpoint head s = result at turn
    obtain ⟨next,answer⟩ := result
    obtain ⟨one,here,first⟩ : ∃ one ⊆ head :: rest, next.exported = s.exported ++ one :=
      turn.elim (fun same => ⟨[],by simp,by simpa using same⟩) fun one => ⟨[head],by simp,one⟩
    cases answer with
    | error err => exact ⟨one,here,first⟩
    | ok =>
      obtain ⟨sent,later,all⟩ := ih next
      exact ⟨one ++ sent,append_subset.mpr ⟨here,subset_cons_of_subset _ later⟩,by simp [all,first]⟩

lemma exportOne_accepting (accepts : ∀ attempt batch, exporter attempt batch = .ok true)
    (bound : stored.position.segmentID < 2 ^ 63) (saves : s.Saves) :
    ∃ next, exportOne u exporter checkpoint stored s = (next,.ok ()) ∧ next.Saves ∧ (next.checkpoint.place =
        if beforeCheckpoint stored.position checkpoint then s.checkpoint.place else stored.position.place) ∧
      next.exported = s.exported ++
        if !beforeCheckpoint stored.position checkpoint && !u.foreign stored.batch then [stored] else [] := by
  unfold exportOne
  by_cases skipped : beforeCheckpoint stored.position checkpoint
  · exact ⟨s,by simp [skipped,saves]⟩
  by_cases other : u.foreign stored.batch
  · simp only [skipped,other,saveCheckpoint_of_lt saves bound]
    exact ⟨_,rfl,saves,by simp [Checkpoint.place,Position.place]⟩
  · have moved := saveCheckpoint_of_lt
      (s := { s with attempts := s.attempts + 1, exported := s.exported ++ [stored] }) saves bound
    simp only [skipped,other,accepts,moved]
    exact ⟨_,rfl,saves,by simp [Checkpoint.place,Position.place]⟩

lemma exportLoop_checkpoint (accepts : ∀ attempt batch, exporter attempt batch = .ok true)
    (page : List StoredBatch) (bound : ∀ stored ∈ page, stored.position.segmentID < 2 ^ 63) (saves : s.Saves) :
    (exportLoop u exporter checkpoint page s).1.checkpoint.place = s.checkpoint.place ∨
      ∃ stored ∈ page, (exportLoop u exporter checkpoint page s).1.checkpoint.place = stored.position.place := by
  induction page generalizing s with
  | nil => exact .inl rfl
  | cons head rest ih =>
    obtain ⟨next,turn,saves,place,-⟩ := exportOne_accepting accepts (bound head (by simp)) saves
    rw [exportLoop,turn]
    rcases ih (fun stored mem => bound stored (by simp [mem])) saves with same | ⟨stored,mem,found⟩
    · rw [place] at same
      split at same
      · exact .inl same
      · exact .inr ⟨head,by simp,same⟩
    · exact .inr ⟨stored,by simp [mem],found⟩

lemma exportLoop_accepting (accepts : ∀ attempt batch, exporter attempt batch = .ok true)
    {page : List StoredBatch} (bound : ∀ stored ∈ page, stored.position.segmentID < 2 ^ 63)
    (ascending : Ascending page) (mem : stored ∈ page)
    (kept : beforeCheckpoint stored.position checkpoint = false) (own : u.foreign stored.batch = false)
    (saves : s.Saves) : (exportLoop u exporter checkpoint page s).1.Reached stored := by
  induction page generalizing s with
  | nil => cases mem
  | cons head rest ih =>
    have boundRest : ∀ stored ∈ rest, stored.position.segmentID < 2 ^ 63 :=
      fun stored mem => bound stored (by simp [mem])
    obtain ⟨later,ascendingRest⟩ := pairwise_cons.mp ascending
    obtain ⟨next,turn,saves,place,sent⟩ := exportOne_accepting accepts (bound head (by simp)) saves
    rw [exportLoop,turn]
    rcases mem_cons.mp mem with rfl | tail
    · rw [kept,own] at sent
      obtain ⟨more,-,all⟩ := exportLoop_exported u exporter checkpoint rest next
      refine ⟨by simp [all,sent],?_⟩
      rcases exportLoop_checkpoint accepts rest boundRest saves with same | ⟨other,otherMember,found⟩
      · rw [same,place,kept]
        exact Earlier.irrefl _
      · rw [found]
        exact fun back => Earlier.irrefl _ (back.trans (later other otherMember))
    · exact ih boundRest ascendingRest tail saves

end Loop

def exportPage (u : Pipeline) (stored : List StoredBatch) : List StoredBatch :=
  (stored.filter (fromOn u.fromSequence)).take exportLimit.toNat

lemma exportAvailable_eq (all : spoolBatches codec spool = .ok stored) (u : Pipeline) (exporter : Exporter) (s : ExportState) :
    exportAvailable codec spool u exporter s = exportLoop u exporter s.checkpoint (exportPage u stored) s := by
  rw [exportAvailable,readBatches_eq all]
  rfl

lemma exportCalls_exported (all : spoolBatches codec spool = .ok stored) (u : Pipeline) (exporter : Exporter)
    (calls : Nat) (s : ExportState) (mem : batch ∈ (exportCalls codec spool u exporter calls s).exported) :
    batch ∈ s.exported ∨ batch ∈ exportPage u stored := by
  induction calls generalizing s with
  | zero => exact .inl mem
  | succ calls ih =>
    rcases ih _ mem with old | page
    · rw [exportAvailable_eq all] at old
      obtain ⟨sent,inside,grown⟩ := exportLoop_exported u exporter s.checkpoint (exportPage u stored) s
      rw [grown] at old
      exact (mem_append.mp old).imp id fun new => inside new
    · exact .inr page

lemma mem_exportPage_iff (ascending : Ascending (earlier ++ batch :: later))
    (covered : fromOn u.fromSequence batch) : batch ∈ exportPage u (earlier ++ batch :: later) ↔
      (earlier.filter (fromOn u.fromSequence)).length < 1000 := by
  have absent : batch ∉ earlier := by
    intro mem
    exact Earlier.irrefl _ ((pairwise_append.mp ascending).2.2 batch mem batch (by simp))
  rw [exportPage,filter_append,filter_cons_of_pos covered,take_append]
  have limit : exportLimit.toNat = 1000 := rfl
  constructor
  · intro mem
    rcases mem_append.mp mem with front | back
    · exact absurd (mem_filter.mp (mem_of_mem_take front)).1 absent
    · by_contra full
      simp [limit,Nat.sub_eq_zero_of_le (Nat.le_of_not_lt full)] at back
  · intro room
    obtain ⟨space,shape⟩ : ∃ space, exportLimit.toNat - (earlier.filter (fromOn u.fromSequence)).length = space + 1 :=
      ⟨_,(Nat.succ_pred_eq_of_pos (by omega)).symm⟩
    simp [shape]

/-- An eligible batch behind the checkpoint is exported by some number of calls, with the
checkpoint at or past it, exactly when fewer than a page of batches from the start sequence
on lie before it in the spool. -/
theorem exportCalls_reach_iff (codec : Codec) (spool : Directory) (u : Pipeline) (exporter : Exporter)
    (checkpoint : Checkpoint) (earlier later : List StoredBatch) (batch : StoredBatch)
    (layout : Layout spool) (all : spoolBatches codec spool = .ok (earlier ++ batch :: later))
    (accepts : ∀ attempt batch, exporter attempt batch = .ok true) (eligible : u.eligible batch)
    (after : Earlier checkpoint.place batch.position.place) :
    (∃ calls, (exportCalls codec spool u exporter calls { checkpoint }).Reached batch) ↔
      (earlier.filter (fromOn u.fromSequence)).length < 1000 := by
  obtain ⟨ascending,bounds⟩ := spoolBatches_ascending layout all
  simp only [Pipeline.eligible,Bool.and_eq_true,Bool.not_eq_true'] at eligible
  rw [← mem_exportPage_iff ascending eligible.1]
  constructor
  · rintro ⟨calls,committed,-⟩
    rcases exportCalls_exported all u exporter calls _ committed with old | page
    · cases old
    · exact page
  · intro page
    refine ⟨1,?_⟩
    have inside : (exportPage u (earlier ++ batch :: later)).Sublist (earlier ++ batch :: later) :=
      (take_sublist _ _).trans filter_sublist
    have small : ∀ stored ∈ exportPage u (earlier ++ batch :: later), stored.position.segmentID < 2 ^ 63 :=
      fun stored mem => (bounds stored (inside.mem mem)).trans (by decide)
    have kept : beforeCheckpoint batch.position checkpoint = false := by
      rw [← Bool.not_eq_true,beforeCheckpoint_iff]
      exact fun back => Earlier.irrefl _ (back.trans after)
    rw [exportCalls,exportCalls,exportAvailable_eq all]
    exact exportLoop_accepting accepts small (ascending.sublist inside) page kept eligible.2 fun _ => rfl

/-- A batch of agent `a` of tenant `t` with a four-digit id, and its wire form. -/
def numbered (number : Nat) : DataBatch :=
  { header := some { batchId := padded 4 number, tenantId := "t", agentId := "a", eventSeqStart := 1 } }

def numberedWire (number : Nat) : Bytes :=
  [0x0A,0x0E,0x0A,0x04] ++ utf8 (padded 4 number) ++ [0x12,0x01,0x74,0x1A,0x01,0x61,0x40,0x01]

def numberedCodec : Codec where
  marshal batch :=
    let number := Nat.ofDigitChars 10 batch.getHeader.batchId.toList 0
    if number < 10 ^ 4 ∧ batch = numbered number then .ok (numberedWire number)
    else .error "unsupported message"
  unmarshal raw :=
    let number := Nat.ofDigitChars 10 ((slice raw 4 8).map fun byte => Char.ofNat byte.toNat) 0
    if raw = numberedWire number then .ok (numbered number)
    else .error "cannot parse invalid wire-format data"
  encodeAll := storedFrame
  decodeAll := decodeStored

lemma utf8_digits (digits : ∀ letter ∈ letters, letter.isDigit) :
    (utf8 (String.ofList letters)).map (fun byte => Char.ofNat byte.toNat) = letters := by
  rw [utf8,String.toList_ofList]
  induction letters with
  | nil => rfl
  | cons letter letters ih =>
    obtain ⟨byte,encoded,back⟩ := utf8EncodeChar_digit (digits letter (by simp))
    simp [flatMap_cons,encoded,back,ih (fun other mem => digits other (by simp [mem]))]

lemma utf8_numbered (bound : number < 10 ^ 4) : (utf8 (padded 4 number)).length = 4 := by
  have back : (utf8 (padded 4 number)).map (fun byte => Char.ofNat byte.toNat) = paddedDigits 4 number :=
    utf8_digits fun _ => paddedDigits_isDigit
  rw [← length_map (fun byte : UInt8 => Char.ofNat byte.toNat),back,paddedDigits_length bound (by decide)]

lemma numberedCodec_marshal (bound : number < 10 ^ 4) :
    numberedCodec.marshal (numbered number) = .ok (numberedWire number) := by
  have id : (numbered number).getHeader.batchId.toList = paddedDigits 4 number := toList_padded 4 number
  simp only [numberedCodec,id,ofDigitChars_paddedDigits,bound,and_self,↓reduceIte]

lemma numberedCodec_inverts {batch : DataBatch} : numberedCodec.Inverts batch := by
  intro raw marshalled
  refine ⟨decodeStored_storedFrame raw,?_⟩
  simp only [numberedCodec] at marshalled
  split at marshalled <;> cases marshalled
  rename_i known
  obtain ⟨bound,shape⟩ := known
  generalize Nat.ofDigitChars 10 batch.getHeader.batchId.toList 0 = number at *
  have field : slice (numberedWire number) 4 8 = utf8 (padded 4 number) :=
    slice_middle _ _ _ rfl (by simp [utf8_numbered bound])
  have back : (utf8 (padded 4 number)).map (fun byte => Char.ofNat byte.toNat) = paddedDigits 4 number :=
    utf8_digits fun _ => paddedDigits_isDigit
  simp [numberedCodec,field,back,ofDigitChars_paddedDigits,shape]

lemma encodeRecord_numbered (bound : number < 10 ^ 4) : encodeRecord numberedCodec (numbered number) =
      .ok (recordBytes 16 1 (utf8 (padded 4 number)) (storedFrame (numberedWire number)),1) := by
  have length : (numberedWire number).length = 16 := by simp [numberedWire,utf8_numbered bound]
  have small : ¬ 16 > maxBatchBytes := by decide
  rw [encodeRecord,numberedCodec_marshal bound]
  simp only [length,small,↓reduceIte]
  rfl

lemma recordOf_numbered_length (bound : number < 10 ^ 4) : (recordOf numberedCodec (numbered number)).length = 56 := by
  rw [recordOf_ok (encodeRecord_numbered bound),recordBytes_length,recordTotal_eq]
  simp [utf8_numbered bound,storedFrame,numberedWire]

lemma readable_numbered (bound : number < 10 ^ 4) : Readable numberedCodec (numbered number) := by
  have encoded := encodeRecord_numbered bound
  refine (readable_iff (numberedCodec_inverts) encoded ?_).mpr ?_
  · rw [← recordOf_ok encoded,recordOf_numbered_length bound]
    decide
  intro raw marshalled
  obtain rfl : numberedWire number = raw := by simpa [numberedCodec_marshal bound] using marshalled
  have id : (utf8 (numbered number).getHeader.batchId).length = 4 := utf8_numbered bound
  have frame : (numberedCodec.encodeAll (numberedWire number)).length = 28 := by
    simp [numberedCodec,storedFrame,numberedWire,utf8_numbered bound]
  refine ⟨?_,.inl (by rw [id]; decide)⟩
  rw [recordTotal_eq,id,frame]
  decide

def numberedBatches (count : Nat) : List DataBatch := (List.range count).map numbered

def numberedSpool (count : Nat) : Directory :=
  AList.singleton (sealedPath 1) (segmentOf numberedCodec 1 0 (numberedBatches count))

variable {count : Nat}

lemma segmentFiles_numbered : segmentFiles (numberedSpool count) = [sealedPath 1] := by
  have segment : isSegment (sealedPath 1) = true := by decide
  simp [segmentFiles,numberedSpool,segment]

lemma fileAt_numbered : fileAt (numberedSpool count) (sealedPath 1) = segmentOf numberedCodec 1 0 (numberedBatches count) := by
  simp [fileAt,numberedSpool,AList.lookup,AList.singleton]

lemma layout_numbered (count : Nat) : Layout (numberedSpool count) := by
  constructor
  · intro path mem
    rw [segmentFiles_numbered] at mem
    obtain rfl := mem_singleton.mp mem
    refine ⟨1,.inr rfl,by decide,?_⟩
    rw [fileAt_numbered,headerID,segmentOf,take_left' (encodeSegmentHeader_length 1 0),
      parseSegmentHeader_encode (by decide)]
  · intro segmentID opened
    rw [numberedSpool,AList.mem_keys,AList.keys_singleton,mem_singleton] at opened
    exact absurd opened (openPath_ne_sealedPath segmentID 1)

lemma spoolBatches_numbered (bound : count ≤ 10 ^ 4) : spoolBatches numberedCodec (numberedSpool count) =
      .ok (storedFrom numberedCodec 1 segmentHeaderSize (numberedBatches count)) := by
  have readable : ∀ batch ∈ numberedBatches count, Readable numberedCodec batch := by
    intro batch mem
    obtain ⟨number,inside,rfl⟩ := mem_map.mp mem
    exact readable_numbered (lt_of_lt_of_le (mem_range.mp inside) bound)
  simp [spoolBatches,segmentFiles_numbered,batchesOf,fileAt_numbered,
    readSegment_segmentOf readable (by decide : 1 < 2 ^ 64)]

lemma recordsOf_numbered_length (bound : count ≤ 10 ^ 4) :
    (recordsOf numberedCodec (numberedBatches count)).length = count * 56 := by
  induction count with
  | zero => rfl
  | succ count ih =>
    have shape : numberedBatches (count + 1) = numberedBatches count ++ [numbered count] := by
      simp [numberedBatches,range_succ]
    have head := ih (by omega)
    simp only [recordsOf] at head ⊢
    simp [shape,head,recordOf_numbered_length (by omega : count < 10 ^ 4)]
    omega

lemma spoolBatches_last (bound : count < 10 ^ 4) : spoolBatches numberedCodec (numberedSpool (count + 1)) =
      .ok (storedFrom numberedCodec 1 segmentHeaderSize (numberedBatches count) ++
        [storedAt 1 (segmentHeaderSize + count * 56) (numbered count)]) := by
  have shape : numberedBatches (count + 1) = numberedBatches count ++ [numbered count] := by
    simp [numberedBatches,range_succ]
  rw [spoolBatches_numbered (by omega),shape,storedFrom_append,recordsOf_numbered_length (by omega)]
  rfl

lemma filter_numbered :
    ((storedFrom numberedCodec 1 segmentHeaderSize (numberedBatches count)).filter (fromOn 0)).length = count := by
  rw [filter_eq_self.mpr (by simp [fromOn])]
  simp [numberedBatches]

def ownPipeline : Pipeline := ⟨0,"t","a"⟩

def checkpointBefore (count : Nat) : Checkpoint :=
  ⟨1,segmentHeaderSize + (count - 1) * 56,padded 4 (count - 1)⟩

lemma eligible_numbered (number offset : Nat) : ownPipeline.eligible (storedAt 1 offset (numbered number)) := by
  simp [Pipeline.eligible,ownPipeline,fromOn,Pipeline.foreign,storedAt,numbered,DataBatch.getHeader]

lemma checkpointBefore_earlier (pos : 0 < count) : Earlier (checkpointBefore count).place
      (storedAt 1 (segmentHeaderSize + count * 56) (numbered count)).position.place :=
  .inr ⟨rfl,by simp only [checkpointBefore,Checkpoint.place,storedAt,Position.place]; omega⟩

theorem exportCalls_reach_second : ∃ calls, (exportCalls numberedCodec (numberedSpool 2) ownPipeline (fun _ _ => .ok true) calls
      { checkpoint := checkpointBefore 1 }).Reached (storedAt 1 (segmentHeaderSize + 1 * 56) (numbered 1)) :=
  (exportCalls_reach_iff numberedCodec (numberedSpool 2) ownPipeline (fun _ _ => .ok true) (checkpointBefore 1)
    _ [] _ (layout_numbered 2) (spoolBatches_last (by decide)) (fun _ _ => rfl) (eligible_numbered 1 _)
    (checkpointBefore_earlier (by decide))).mpr (by rw [ownPipeline,filter_numbered]; decide)

/-- With the checkpoint at the thousandth of 1001 eligible batches, no number of calls exports
the last one, although the exporter commits everything. -/
theorem exportCalls_stuck : spoolBatches numberedCodec (numberedSpool 1001) =
      .ok (storedFrom numberedCodec 1 segmentHeaderSize (numberedBatches 1000) ++
        [storedAt 1 (segmentHeaderSize + 1000 * 56) (numbered 1000)]) ∧
    ownPipeline.eligible (storedAt 1 (segmentHeaderSize + 1000 * 56) (numbered 1000)) = true ∧
    Earlier (checkpointBefore 1000).place (storedAt 1 (segmentHeaderSize + 1000 * 56) (numbered 1000)).position.place ∧
    ¬ ∃ calls, storedAt 1 (segmentHeaderSize + 1000 * 56) (numbered 1000) ∈
      (exportCalls numberedCodec (numberedSpool 1001) ownPipeline (fun _ _ => .ok true) calls
        { checkpoint := checkpointBefore 1000 }).exported := by
  have all := spoolBatches_last (by decide : 1000 < 10 ^ 4)
  have eligible := eligible_numbered 1000 (segmentHeaderSize + 1000 * 56)
  refine ⟨all,eligible,checkpointBefore_earlier (by decide),?_⟩
  rintro ⟨calls,committed⟩
  rcases exportCalls_exported all _ _ calls _ committed with old | page
  · cases old
  have covered : fromOn ownPipeline.fromSequence (storedAt 1 (segmentHeaderSize + 1000 * 56) (numbered 1000)) = true :=
    (Bool.and_eq_true_iff.mp eligible).1
  have room := (mem_exportPage_iff (spoolBatches_ascending (layout_numbered 1001) all).1 covered).mp page
  rw [ownPipeline,filter_numbered] at room
  exact absurd room (by decide)

end SysArmor.Daemon
