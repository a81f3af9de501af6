import SysArmor.WriterSteps

/-! Eviction of sealed segments when the store is over its capacity, uploaded ones first, and the
sequence cursor over evictions, crashes and reopenings. -/
namespace SysArmor.LocalStore
open ByteWords Proto Digits

structure CapacityResult where
  removedSegments : List Nat := []
  removedBatches : Nat := 0
  droppedUnuploaded : Bool := false

structure SegmentCandidate where
  id : Nat
  path : String
  records : Nat
  uploaded : Bool

/-- The outcomes of one `EnforceCapacity` call: the errors of pruning, of the query and of each
removal, the answers of `overCapacity` in turn, and the segment of the stored checkpoint. -/
structure CapacityEffects where
  prune : Option String := none
  overCapacity : Nat → Except String Bool := fun _ => .ok true
  checkpoint : Except String Nat := .ok 0
  query : Option String := none
  remove : Nat → Option String := fun _ => none
  delete : Nat → Outcome := fun _ => .done
  record : Outcome := .done

def capacityCandidates (d : Disk) (checkpoint : Nat) : List SegmentCandidate :=
  let rows := (d.segments.entries.filter (fun row => row.2.state = .sealed)).insertionSort (fun a b => a.1 ≤ b.1)
  let candidates := rows.map fun row => ⟨row.1,row.2.path,row.2.recordCount,decide (checkpoint > row.1)⟩
  candidates.filter (·.uploaded) ++ candidates.filter (!·.uploaded)

def CapacityResult.add (result : CapacityResult) (candidate : SegmentCandidate) : CapacityResult where
  removedSegments := result.removedSegments ++ [candidate.id]
  removedBatches := if candidate.uploaded then result.removedBatches else result.removedBatches + candidate.records
  droppedUnuploaded := result.droppedUnuploaded || !candidate.uploaded

/-- The loop over the candidates: an error returns at once, otherwise the loop is left with the
error of the last capacity check, if any. -/
def evictSegments (io : CapacityEffects) :
    List SegmentCandidate → Nat → Disk → CapacityResult → Disk × CapacityResult × Except String (Option String)
  | [], _, d, result => (d,result,.ok none)
  | candidate :: rest, turn, d, result =>
    match io.remove turn with
    | some err => (d,result,.error err)
    | none =>
      let removed := { d with spool := d.spool.erase candidate.path }
      match execute removed { removed with segments := d.segments.erase candidate.id } (io.delete turn) with
      | (d,.error err) => (d,result,.error err)
      | (d,.ok ()) =>
        match io.overCapacity (turn + 1) with
        | .error err => (d,result.add candidate,.ok (some err))
        | .ok false => (d,result.add candidate,.ok none)
        | .ok true => evictSegments io rest (turn + 1) d (result.add candidate)

def enforceCapacity (d : Disk) (io : CapacityEffects) : Disk × CapacityResult × Option String :=
  match io.prune with
  | some err => (d,{},some err)
  | none =>
    match io.overCapacity 0, io.checkpoint, io.query with
    | .error err, _, _ => (d,{},some err)
    | .ok false, _, _ => (d,{},none)
    | .ok true, .error err, _ => (d,{},some err)
    | .ok true, .ok _, some err => (d,{},some err)
    | .ok true, .ok checkpoint, none =>
      match evictSegments io (capacityCandidates d checkpoint) 0 d {} with
      | (d,result,.error err) => (d,result,some err)
      | (d,result,.ok err) =>
        if result.droppedUnuploaded then
          match io.record with
          | .done => (d,result,err)
          | .failed err | .lost err => (d,result,some s!"record storage drops: {err}")
        else (d,result,err)

def Disk.SealedPath (d : Disk) (path : String) : Prop :=
  ∃ id row, d.segments.lookup id = some row ∧ row.state = .sealed ∧ row.path = path

structure Shrunk (d after : Disk) : Prop where
  cursor : after.cursor = d.cursor
  files : ∀ path, path ∈ after.spool → path ∈ d.spool
  kept : ∀ path, path ∈ after.spool → fileAt after.spool path = fileAt d.spool path
  gone : ∀ path, path ∈ d.spool → path ∉ after.spool → d.SealedPath path
  rows : ∀ id row, after.segments.lookup id = some row → d.segments.lookup id = some row

lemma Shrunk.refl (d : Disk) : Shrunk d d :=
  ⟨rfl,fun _ => id,fun _ _ => rfl,fun _ here away => absurd here away,fun _ _ => id⟩

lemma Shrunk.trans (first : Shrunk a b) (second : Shrunk b c) : Shrunk a c where
  cursor := second.cursor.trans first.cursor
  files path mem := first.files path (second.files path mem)
  kept path mem := (second.kept path mem).trans (first.kept path (second.files path mem))
  gone path here away := by
    by_cases between : path ∈ b.spool
    · obtain ⟨id,row,found,shape⟩ := second.gone path between away
      exact ⟨id,row,first.rows id row found,shape⟩
    · exact first.gone path here between
  rows id row found := first.rows id row (second.rows id row found)

lemma Shrunk.file (d : Disk) (listed : d.SealedPath path) : Shrunk d { d with spool := d.spool.erase path } where
  cursor := rfl
  files _ mem := (AList.mem_erase.mp mem).2
  kept _ mem := fileAt_erase d.spool (AList.mem_erase.mp mem).1
  gone other here away := by
    rw [AList.mem_erase] at away
    by_cases same : other = path
    · exact same ▸ listed
    · exact absurd ⟨same,here⟩ away
  rows _ _ := id

lemma Shrunk.row (d : Disk) (segmentID : Nat) : Shrunk d { d with segments := d.segments.erase segmentID } where
  cursor := rfl
  files _ := id
  kept _ _ := rfl
  gone _ here away := absurd here away
  rows id row found := by
    by_cases same : id = segmentID
    · subst same
      simp at found
    · rwa [AList.lookup_erase_ne same] at found

lemma execute_shrunk (changed : Shrunk d after) (outcome : Outcome) : Shrunk d (execute d after outcome).1 := by
  cases outcome with
  | done => exact changed
  | failed err => exact .refl d
  | lost err => exact changed

def Listed (d : Disk) (candidate : SegmentCandidate) : Prop :=
  ∃ row, d.segments.lookup candidate.id = some row ∧ row.state = .sealed ∧ row.path = candidate.path

lemma capacityCandidates_listed (d : Disk) (checkpoint : Nat) :
    (∀ candidate ∈ capacityCandidates d checkpoint, Listed d candidate) ∧
      (capacityCandidates d checkpoint).Pairwise (fun a b => a.id ≠ b.id) := by
  let sorted := (d.segments.entries.filter (fun row => row.2.state = .sealed)).insertionSort (fun a b => a.1 ≤ b.1)
  let candidates := sorted.map fun row =>
    (⟨row.1,row.2.path,row.2.recordCount,decide (checkpoint > row.1)⟩ : SegmentCandidate)
  have shape : capacityCandidates d checkpoint = candidates.filter (·.uploaded) ++ candidates.filter (!·.uploaded) := rfl
  have perm : sorted.Perm (d.segments.entries.filter (fun row => row.2.state = .sealed)) := List.perm_insertionSort _ _
  have apart : candidates.Pairwise (fun a b => a.id ≠ b.id) := by
    rw [List.pairwise_map]
    have keys : (d.segments.entries.filter (fun row => row.2.state = .sealed)).Pairwise (fun a b => a.1 ≠ b.1) := by
      have distinct := d.segments.nodupKeys
      rw [List.nodupKeys_iff_pairwise] at distinct
      exact distinct.filter _
    exact (List.Perm.pairwise_iff (fun ne => ne.symm) perm).mpr keys
  refine ⟨fun candidate mem => ?_,?_⟩
  · have inside : candidate ∈ candidates := by
      rw [shape,List.mem_append,List.mem_filter,List.mem_filter] at mem
      exact mem.elim (·.1) (·.1)
    obtain ⟨row,found,rfl⟩ := List.mem_map.mp inside
    obtain ⟨entry,closed⟩ := List.mem_filter.mp (perm.mem_iff.mp found)
    exact ⟨row.2,AList.mem_lookup_iff.mpr entry,by simpa using closed,rfl⟩
  · rw [shape]
    refine List.pairwise_append.mpr ⟨apart.filter _,apart.filter _,fun a left b right => ?_⟩
    obtain ⟨inA,up⟩ := List.mem_filter.mp left
    obtain ⟨inB,down⟩ := List.mem_filter.mp right
    obtain ⟨x,-,rfl⟩ := List.mem_map.mp inA
    obtain ⟨y,-,rfl⟩ := List.mem_map.mp inB
    intro same
    simp only [Bool.not_eq_true',decide_eq_true_eq,decide_eq_false_iff_not] at same up down
    omega

lemma evictSegments_shrunk (io : CapacityEffects) (candidates : List SegmentCandidate) (turn : Nat) (d : Disk)
    (result : CapacityResult) (listed : ∀ candidate ∈ candidates, Listed d candidate)
    (apart : candidates.Pairwise (fun a b => a.id ≠ b.id)) : Shrunk d (evictSegments io candidates turn d result).1 := by
  induction candidates generalizing turn d result with
  | nil => exact .refl d
  | cons candidate rest ih =>
    obtain ⟨first,apart⟩ := List.pairwise_cons.mp apart
    simp only [evictSegments]
    split
    · exact .refl d
    obtain ⟨row,found,closed,path⟩ := listed candidate (by simp)
    have removed := Shrunk.file d ⟨candidate.id,row,found,closed,path⟩
    have deleted := removed.trans
      (execute_shrunk (Shrunk.row { d with spool := d.spool.erase candidate.path } candidate.id) (io.delete turn))
    split
    · rename_i after _ ended
      rw [ended] at deleted
      exact deleted
    rename_i after ended
    rw [ended] at deleted
    split
    · exact deleted
    · exact deleted
    refine deleted.trans (ih _ _ _ (fun other mem => ?_) apart)
    -- the rows of the later candidates are untouched by this deletion
    obtain ⟨row,found,shape⟩ := listed other (by simp [mem])
    refine ⟨row,?_,shape⟩
    have same : after.segments = d.segments.erase candidate.id := by
      cases outcome : io.delete turn <;> rw [outcome] at ended <;> cases ended
      rfl
    rw [same,AList.lookup_erase_ne (first other mem).symm]
    exact found

lemma enforceCapacity_shrunk (d : Disk) (io : CapacityEffects) : Shrunk d (enforceCapacity d io).1 := by
  simp only [enforceCapacity]
  split
  · exact .refl d
  split
  · exact .refl d
  · exact .refl d
  · exact .refl d
  · exact .refl d
  · rename_i checkpoint _ _ _
    obtain ⟨listed,apart⟩ := capacityCandidates_listed d checkpoint
    have shrunk := evictSegments_shrunk io (capacityCandidates d checkpoint) 0 d {} listed apart
    generalize evictSegments io (capacityCandidates d checkpoint) 0 d {} = ended at shrunk
    obtain ⟨after,result,answer⟩ := ended
    cases answer with
    | error err => exact shrunk
    | ok err =>
      dsimp only
      split
      · split <;> exact shrunk
      · exact shrunk

/-! The sequence cursor over the life of a store: appends, evictions, crashes inside any
operation, and reopenings. Only the database survives a crash for certain; the segment files may
come back in any state. -/

structure SequenceCursor.Covers (cursor other : SequenceCursor) : Prop where
  event : other.event ≤ cursor.event
  signal : other.signal ≤ cursor.signal

lemma SequenceCursor.Covers.refl (cursor : SequenceCursor) : cursor.Covers cursor :=
  ⟨UInt64.le_refl _,UInt64.le_refl _⟩

lemma SequenceCursor.Covers.trans (first : SequenceCursor.Covers a b) (second : SequenceCursor.Covers b c) :
    SequenceCursor.Covers a c :=
  ⟨UInt64.le_trans second.event first.event,UInt64.le_trans second.signal first.signal⟩

lemma le_largerSequence {current other : UInt64} :
    current ≤ largerSequence current other ∧ other ≤ largerSequence current other := by
  simp only [largerSequence]
  split
  · exact ⟨UInt64.le_of_lt ‹_›,UInt64.le_refl _⟩
  · exact ⟨UInt64.le_refl _,UInt64.not_lt.mp ‹_›⟩

def endsOf (batch : DataBatch) : SequenceCursor := ⟨batch.getHeader.eventSeqEnd,batch.getHeader.signalSeqEnd⟩

lemma advance_covers (cursor : SequenceCursor) (batch : DataBatch) :
    (advanceSequenceCursor cursor batch).Covers cursor ∧ (advanceSequenceCursor cursor batch).Covers (endsOf batch) :=
  ⟨⟨(le_largerSequence).1,(le_largerSequence).1⟩,⟨(le_largerSequence).2,(le_largerSequence).2⟩⟩

inductive StoreState where
  | running (s : Store)
  | down (d : Disk)

def StoreState.cursor : StoreState → SequenceCursor
  | .running s => s.cursor
  | .down d => d.cursor

def Disk.crashed (d : Disk) (spool : Directory) : StoreState := .down { d with spool }

inductive StoreStep (codec : Codec) (segmentSize : Nat) : StoreState → List DataBatch → StoreState → Prop where
  /-- An append that returns a position. -/
  | append (fresh : s.batchPositions.lookup batch.getHeader.batchId = none)
      (success : appendBatch codec segmentSize s (some batch) io = (after,.ok position)) :
      StoreStep codec segmentSize (.running s) [batch] (.running after)
  /-- An append under a recorded id. -/
  | again (known : s.batchPositions.lookup batch.getHeader.batchId = some recorded)
      (success : appendBatch codec segmentSize s (some batch) io = (after,.ok position)) :
      StoreStep codec segmentSize (.running s) [] (.running after)
  | evict (io : CapacityEffects) :
      StoreStep codec segmentSize (.running s) [] (.running { s with disk := (enforceCapacity s.disk io).1 })
  /-- A crash inside an append, wherever its operations were stopped. -/
  | crashAppend (io : AppendEffects) (spool : Directory) :
      StoreStep codec segmentSize (.running s) [] ((appendBatch codec segmentSize s batch io).1.disk.crashed spool)
  | crash (spool : Directory) : StoreStep codec segmentSize (.running s) [] (s.disk.crashed spool)
  | crashEvict (io : CapacityEffects) (spool : Directory) :
      StoreStep codec segmentSize (.running s) [] ((enforceCapacity s.disk io).1.crashed spool)
  | reopen (opened : recoverSegments codec d = .ok s) : StoreStep codec segmentSize (.down d) [] (.running s)
  /-- A reopening that fails or crashes before it has written the cursor: rows and files may have changed. -/
  | crashReopen (spool : Directory) (segments : AList (fun _ : Nat => SegmentRow)) :
      StoreStep codec segmentSize (.down d) [] (.down { d with spool, segments })

inductive StoreRun (codec : Codec) (segmentSize : Nat) : StoreState → List DataBatch → StoreState → Prop where
  | refl : StoreRun codec segmentSize start [] start
  | step (run : StoreRun codec segmentSize start acked state) (next : StoreStep codec segmentSize state more after) :
      StoreRun codec segmentSize start (acked ++ more) after

section Cursors
variable {codec : Codec} {segmentSize : Nat} {s : Store}

/-- What a call leaves of the cursor: the database's copy does not go back, and when the call
succeeds both copies have taken in the batch. -/
structure Taken (s : Store) (batch : DataBatch) (ended : Store × Except String Position) : Prop where
  forward : ended.1.disk.cursor.Covers s.disk.cursor
  memory : ∀ found, ended.2 = .ok found → ended.1.cursor = advanceSequenceCursor s.cursor batch
  disk : ∀ found, ended.2 = .ok found → ended.1.disk.cursor =
    ⟨largerSequence s.disk.cursor.event (advanceSequenceCursor s.cursor batch).event,
      largerSequence s.disk.cursor.signal (advanceSequenceCursor s.cursor batch).signal⟩

lemma Taken.of_error (same : after.disk.cursor = s.disk.cursor) {batch : DataBatch} : Taken s batch (after,.error err) where
  forward := by rw [same]; exact .refl _
  memory := by simp
  disk := by simp

lemma larger_covers {cursor other : SequenceCursor} : (cursor.larger other).Covers cursor :=
  ⟨(le_largerSequence).1,(le_largerSequence).1⟩

lemma appendBatch_cursor (codec : Codec) (segmentSize : Nat) (s : Store) (batch : DataBatch)
    (fresh : s.batchPositions.lookup batch.getHeader.batchId = none) (io : AppendEffects) :
    Taken s batch (appendBatch codec segmentSize s (some batch) io) := by
  have appended := appendBatch_appended codec segmentSize s batch io
  generalize appendBatch codec segmentSize s (some batch) io = result at appended
  cases appended with
  | refused err => exact .of_error rfl
  | known found =>
    rw [fresh] at found
    cases found
  | failed _ _ chosen => exact .of_error chosen.marks.disk
  | recorded _ _ chosen _ recorded =>
    obtain ⟨memory,disk,-⟩ := chosen.marks
    dsimp only at memory disk
    cases recorded with
    | advanced _ row _ _ cursor covers err =>
      refine ⟨?_,by simp,by simp⟩
      rw [disk] at covers
      exact covers.elim (fun same => same ▸ .refl _) fun same => same ▸ larger_covers
    | indexed =>
      refine ⟨?_,fun _ _ => congrArg (advanceSequenceCursor · batch) memory,fun _ _ => ?_⟩
      · exact disk ▸ larger_covers
      · simp only [Store.atCursor,memory,disk]
        rfl
    | _ =>
      refine .of_error ?_
      exact disk

lemma appendBatch_known (codec : Codec) (segmentSize : Nat) (known : s.batchPositions.lookup batch.getHeader.batchId = some recorded)
    (io : AppendEffects) : (appendBatch codec segmentSize s (some batch) io).1 = s := by
  simp only [appendBatch,known]
  split
  · rfl
  · split <;> rfl

lemma appendBatch_forward {s : Store} {batch : Option DataBatch} {io : AppendEffects} :
    (appendBatch codec segmentSize s batch io).1.disk.cursor.Covers s.disk.cursor := by
  cases batch with
  | none => exact .refl _
  | some batch =>
    cases known : s.batchPositions.lookup batch.getHeader.batchId with
    | none => exact (appendBatch_cursor codec segmentSize s batch known io).forward
    | some position =>
      rw [appendBatch_known codec segmentSize known]
      exact .refl _

lemma recoverFile_cursor (turn : recoverFile codec s path = .ok next) :
    next.cursor.Covers s.cursor ∧ next.disk.cursor = s.disk.cursor := by
  have advanced (batches : List StoredBatch) (cursor : SequenceCursor) :
      (batches.foldl (fun cursor stored => advanceSequenceCursor cursor stored.batch) cursor).Covers cursor := by
    induction batches generalizing cursor with
    | nil => exact .refl _
    | cons stored batches ih => exact (ih _).trans (advance_covers cursor stored.batch).1
  simp only [recoverFile] at turn
  split at turn
  · cases turn
  rename_i batches file _
  split at turn
  · cases turn
  rename_i writer _
  have upserted : (upsertSegment (writeFile s.disk path file) writer
      (if hasSuffix path ".open" then .open else .sealed) .done).1.cursor = s.disk.cursor := by
    rcases upsertSegment_row (writeFile s.disk path file) writer (if hasSuffix path ".open" then .open else .sealed) .done
      with ⟨same,-⟩ | ⟨row,-,-,same⟩ <;> rw [same] <;> rfl
  split at turn
  · cases turn
  rename_i disk ended
  rw [ended] at upserted
  split at turn
  · cases turn
    exact ⟨advanced _ _,upserted⟩
  split at turn
  · cases turn
  · cases turn
    exact ⟨advanced _ _,upserted⟩

lemma recoverFiles_cursor (ok : recoverFiles codec paths s = .ok next) :
    next.cursor.Covers s.cursor ∧ next.disk.cursor = s.disk.cursor := by
  induction paths generalizing s with
  | nil =>
    cases ok
    exact ⟨.refl _,rfl⟩
  | cons path paths ih =>
    simp only [recoverFiles] at ok
    split at ok
    · cases ok
    rename_i middle turn
    have here := recoverFile_cursor turn
    have later := ih ok
    exact ⟨later.1.trans here.1,later.2.trans here.2⟩

lemma largerSequence_of_le (le : current ≤ other) : largerSequence current other = other := by
  simp only [largerSequence]
  split
  · rfl
  · exact UInt64.le_antisymm le (UInt64.not_lt.mp ‹_›)

lemma recoverSegments_cursor (opened : recoverSegments codec d = .ok s) :
    s.cursor.Covers d.cursor ∧ s.disk.cursor = s.cursor := by
  simp only [recoverSegments] at opened
  split at opened
  · cases opened
  rename_i next done
  obtain ⟨covers,same⟩ := recoverFiles_cursor done
  obtain ⟨cursor,shape,-,written⟩ := persistSequenceCursor_cases next.disk next.cursor .done
  split at opened
  · cases opened
  rename_i disk ended
  rw [ended] at shape written
  have last : cursor = next.cursor := by
    rw [(written rfl).1,same,SequenceCursor.larger,largerSequence_of_le covers.event,largerSequence_of_le covers.signal]
  obtain rfl : disk = _ := shape
  cases opened
  exact ⟨covers,last⟩

structure Issued (acked : List DataBatch) (state : StoreState) : Prop where
  covered : ∀ batch ∈ acked, state.cursor.Covers (endsOf batch)
  synced : ∀ s, state = .running s → s.disk.cursor = s.cursor

lemma Issued.step (issued : Issued acked state) (next : StoreStep codec segmentSize state more after) :
    Issued (acked ++ more) after ∧ after.cursor.Covers state.cursor := by
  -- what was covered stays so when the cursor does not go back and the new batches are covered
  have assemble (forward : after.cursor.Covers state.cursor)
      (added : ∀ batch ∈ more, after.cursor.Covers (endsOf batch))
      (synced : ∀ s, after = .running s → s.disk.cursor = s.cursor) :
      Issued (acked ++ more) after ∧ after.cursor.Covers state.cursor := by
    refine ⟨⟨fun batch mem => ?_,synced⟩,forward⟩
    rcases List.mem_append.mp mem with old | new
    · exact forward.trans (issued.covered batch old)
    · exact added batch new
  cases next with
  | append fresh success =>
    rename_i s batch io after position
    have taken := appendBatch_cursor codec segmentSize s batch fresh io
    rw [success] at taken
    have memory : after.cursor = _ := taken.memory position rfl
    have disk : after.disk.cursor = _ := taken.disk position rfl
    have covers := advance_covers s.cursor batch
    refine assemble (by simpa only [StoreState.cursor,memory] using covers.1) ?_ ?_
    · intro other mem
      rw [List.mem_singleton.mp mem]
      simpa only [StoreState.cursor,memory] using covers.2
    · rintro _ ⟨⟩
      rw [disk,memory,issued.synced s rfl,largerSequence_of_le covers.1.event,largerSequence_of_le covers.1.signal]
  | again known success =>
    rename_i s batch io after position
    have same := appendBatch_known codec segmentSize known io
    rw [success] at same
    subst same
    exact assemble (.refl _) (by simp) issued.synced
  | evict io =>
    rename_i s
    refine assemble (.refl _) (by simp) ?_
    rintro _ ⟨⟩
    exact (enforceCapacity_shrunk s.disk io).cursor.trans (issued.synced s rfl)
  | crashAppend io spool =>
    rename_i s batch
    refine assemble ?_ (by simp) (by simp [Disk.crashed])
    simp only [Disk.crashed,StoreState.cursor,← issued.synced s rfl]
    exact appendBatch_forward
  | crash spool =>
    rename_i s
    refine assemble ?_ (by simp) (by simp [Disk.crashed])
    simp only [Disk.crashed,StoreState.cursor,issued.synced s rfl]
    exact .refl _
  | crashEvict io spool =>
    rename_i s
    refine assemble ?_ (by simp) (by simp [Disk.crashed])
    simp only [Disk.crashed,StoreState.cursor,(enforceCapacity_shrunk s.disk io).cursor,issued.synced s rfl]
    exact .refl _
  | reopen opened =>
    obtain ⟨covers,synced⟩ := recoverSegments_cursor opened
    refine assemble covers (by simp) ?_
    rintro _ ⟨⟩
    exact synced
  | crashReopen spool segments => exact assemble (.refl _) (by simp) (by simp)

lemma Issued.run (run : StoreRun codec segmentSize (.down d) acked state) : Issued acked state := by
  induction run with
  | refl => exact ⟨by simp,by simp⟩
  | step run next ih => exact (ih.step next).1

end Cursors

/-- In every run of successful appends, evictions, crashes and reopenings from any disk, the
cursor covers every batch that was acknowledged under a new id, and no step moves it back. -/
theorem sequences_never_reissued (codec : Codec) (segmentSize : Nat) (d : Disk) (acked : List DataBatch)
    (state : StoreState) (run : StoreRun codec segmentSize (.down d) acked state) :
    (∀ batch ∈ acked, state.cursor.Covers (endsOf batch)) ∧
      ∀ more after, StoreStep codec segmentSize state more after → after.cursor.Covers state.cursor := by
  have issued := Issued.run run
  exact ⟨issued.covered,fun more after next => (issued.step next).2⟩

def emptyCodec : Codec := ⟨fun _ => .ok [],fun _ => .ok {},id,.ok⟩
def endBatch (last : UInt64) : DataBatch := { header := some { batchId := "b1", eventSeqEnd := last } }
def firstAppend : Store × Except String Position := appendBatch emptyCodec 1024 {} (some (endBatch 1)) {}

lemma firstAppend_ok : appendBatch emptyCodec 1024 {} (some (endBatch 1)) {} = (firstAppend.1,.ok ⟨1,32,0,"b1"⟩) := by
  have answer : firstAppend.2 = .ok ⟨1,32,0,"b1"⟩ := by decide +kernel
  rw [← answer,firstAppend]

lemma recoverSegments_empty : recoverSegments emptyCodec {} = .ok {} := by
  have fits : ¬ (2 ^ 63 : UInt64) ≤ 0 := by decide +kernel
  simp [recoverSegments,segmentFiles,recoverFiles,persistSequenceCursor,fits,execute,largerSequence]

theorem first_append_counted : StoreRun emptyCodec 1024 (.down {}) ([] ++ [] ++ [endBatch 1]) (.running firstAppend.1) ∧
      firstAppend.1.cursor.Covers (endsOf (endBatch 1)) := by
  have opened : StoreStep emptyCodec 1024 (.down {}) [] (.running {}) := .reopen recoverSegments_empty
  have appended : StoreStep emptyCodec 1024 (.running {}) [endBatch 1] (.running firstAppend.1) :=
    .append (by rfl) firstAppend_ok
  have run : StoreRun emptyCodec 1024 (.down {}) ([] ++ [] ++ [endBatch 1]) (.running firstAppend.1) :=
    .step (.step .refl opened) appended
  exact ⟨run,(sequences_never_reissued emptyCodec 1024 {} _ _ run).1 (endBatch 1) (by simp)⟩

/-- A second batch under the same id is acknowledged, and the cursor stays behind its end. -/
theorem repeated_id_not_counted :
    (∃ position, appendBatch emptyCodec 1024 firstAppend.1 (some (endBatch 2)) {} = (firstAppend.1,.ok position)) ∧
      ¬ firstAppend.1.cursor.Covers (endsOf (endBatch 2)) := by
  have known : firstAppend.1.batchPositions.lookup (endBatch 2).getHeader.batchId = some ⟨1,32,0,"b1"⟩ := by
    decide +kernel
  have same := appendBatch_known emptyCodec 1024 known {}
  have answer : (appendBatch emptyCodec 1024 firstAppend.1 (some (endBatch 2)) {}).2 = .ok ⟨1,32,0,"b1"⟩ := by
    decide +kernel
  refine ⟨⟨⟨1,32,0,"b1"⟩,?_⟩,fun covers => absurd covers.event (by decide +kernel)⟩
  generalize appendBatch emptyCodec 1024 firstAppend.1 (some (endBatch 2)) {} = ended at same answer ⊢
  rw [← same,← answer]

end SysArmor.LocalStore
