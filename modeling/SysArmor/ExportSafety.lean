import SysArmor.ExportPipeline

/-! The stored checkpoint over whole runs of the pipeline: calls, their single turns and restarts
between any two of them, over a spool that grows and loses segments meanwhile. -/
namespace SysArmor.Daemon
open ByteWords Proto Digits LocalStore List

structure Running where
  state : ExportState
  work : Option (Checkpoint × List StoredBatch) := none

inductive ExportMove where
  | call (spool : Directory)
  | turn
  | restart

def Running.move (codec : Codec) (u : Pipeline) (exporter : Exporter) (r : Running) : ExportMove → Running
  | .call spool =>
    match r.work with
    | some _ => r
    | none =>
      match readBatches codec spool ⟨exportLimit,u.fromSequence⟩ with
      | .error _ => r
      | .ok batches => ⟨r.state,some (r.state.checkpoint,batches)⟩
  | .turn =>
    match r.work with
    | none => r
    | some (_,[]) => ⟨r.state,none⟩
    | some (checkpoint,stored :: rest) =>
      match exportOne u exporter checkpoint stored r.state with
      | (s,.error _) => ⟨s,none⟩
      | (s,.ok ()) => ⟨s,some (checkpoint,rest)⟩
  | .restart => ⟨r.state,none⟩

def Running.run (codec : Codec) (u : Pipeline) (exporter : Exporter) (r : Running) (moves : List ExportMove) :
    Running := moves.foldl (Running.move codec u exporter) r

def ExportMove.reads : ExportMove → List Directory
  | .call spool => [spool]
  | .turn | .restart => []

def spoolsRead (moves : List ExportMove) : List Directory := moves.flatMap ExportMove.reads

/-- A later state of a spool whose segment ids are not reused: what was not there lies behind all
that was. Segments may be gone. -/
def Extends (codec : Codec) (earlier later : Directory) : Prop :=
  ∀ stored ∈ held codec later, stored ∈ held codec earlier ∨
    ∀ other ∈ held codec earlier, Earlier other.position.place stored.position.place

section Turns
variable {codec : Codec} {u : Pipeline} {exporter : Exporter}

lemma run_turns (codec : Codec) (u : Pipeline) (exporter : Exporter) (checkpoint : Checkpoint) (page : List StoredBatch) (s : ExportState) :
    ∃ turns, (⟨s,some (checkpoint,page)⟩ : Running).run codec u exporter (List.replicate turns .turn) =
      ⟨(exportLoop u exporter checkpoint page s).1,none⟩ := by
  induction page generalizing s with
  | nil => exact ⟨1,rfl⟩
  | cons stored rest ih =>
    rw [exportLoop]
    cases turn : exportOne u exporter checkpoint stored s with
    | mk moved answer =>
      cases answer with
      | error err => exact ⟨1,by simp [Running.run,Running.move,turn]⟩
      | ok =>
        obtain ⟨turns,done⟩ := ih moved
        refine ⟨turns + 1,?_⟩
        rw [← done]
        simp [Running.run,replicate_succ,Running.move,turn]

lemma run_call (codec : Codec) (u : Pipeline) (exporter : Exporter) (spool : Directory) (s : ExportState) :
    ∃ turns, (⟨s,none⟩ : Running).run codec u exporter (.call spool :: List.replicate turns .turn) =
      ⟨(exportAvailable codec spool u exporter s).1,none⟩ := by
  rw [exportAvailable]
  cases read : readBatches codec spool ⟨exportLimit,u.fromSequence⟩ with
  | error err => exact ⟨0,by simp [Running.run,Running.move,read]⟩
  | ok page =>
    obtain ⟨turns,done⟩ := run_turns codec u exporter s.checkpoint page s
    refine ⟨turns,?_⟩
    rw [← done]
    simp [Running.run,Running.move,read]

lemma saveCheckpoint_cases (s : ExportState) (position : Position) :
    ((saveCheckpoint s position).1.checkpoint = s.checkpoint ∧ ∃ err, (saveCheckpoint s position).2 = .error err) ∨
      (saveCheckpoint s position).1.checkpoint.place = position.place := by
  simp only [saveCheckpoint]
  split
  · exact .inl ⟨rfl,_,rfl⟩
  split
  · exact .inr rfl
  · exact .inl ⟨rfl,_,rfl⟩
  · exact .inr rfl

lemma exportOne_cases (turn : exportOne u exporter checkpoint stored s = (moved,answer)) :
    (beforeCheckpoint stored.position checkpoint = true ∧ moved = s ∧ answer = .ok ()) ∨
      (beforeCheckpoint stored.position checkpoint = false ∧ s.exported ⊆ moved.exported ∧
        ((moved.checkpoint = s.checkpoint ∧ ∃ err, answer = .error err) ∨ (moved.checkpoint.place = stored.position.place ∧
            (u.foreign stored.batch = true ∨ stored ∈ moved.exported)))) := by
  simp only [exportOne] at turn
  split at turn
  · cases turn
    exact .inl ⟨‹_›,rfl,rfl⟩
  rename_i kept
  refine .inr ⟨by simpa using kept,?_⟩
  split at turn
  · rename_i other
    have saved := saveCheckpoint_cases s stored.position
    have same := saveCheckpoint_exported s stored.position
    rw [turn] at saved same
    refine ⟨by simp [show moved.exported = s.exported from same],?_⟩
    exact saved.imp id fun there => ⟨there,.inl other⟩
  · split at turn
    · cases turn
      exact ⟨List.Subset.refl _,.inl ⟨rfl,_,rfl⟩⟩
    · cases turn
      exact ⟨List.Subset.refl _,.inl ⟨rfl,_,rfl⟩⟩
    · have saved := saveCheckpoint_cases
        { s with attempts := s.attempts + 1, exported := s.exported ++ [stored] } stored.position
      have same := saveCheckpoint_exported
        { s with attempts := s.attempts + 1, exported := s.exported ++ [stored] } stored.position
      rw [turn] at saved same
      have grown : moved.exported = s.exported ++ [stored] := same
      exact ⟨by simp [grown],saved.imp id fun there => ⟨there,.inr (by simp [grown])⟩⟩

end Turns

/-- Nothing the batch's enrolment asks for was left out: the checkpoint is past the batch or on it
only if it was so at the start or the exporter has committed the batch. -/
structure Covered (start s : ExportState) (stored : StoredBatch) : Prop where
  passed : Earlier stored.position.place s.checkpoint.place →
    Earlier stored.position.place start.checkpoint.place ∨ stored ∈ s.exported
  reached : s.checkpoint.place = stored.position.place →
    start.checkpoint.place = stored.position.place ∨ stored ∈ s.exported

lemma Covered.mono (covered : Covered start s stored) (same : moved.checkpoint = s.checkpoint)
    (kept : s.exported ⊆ moved.exported) : Covered start moved stored where
  passed past := (covered.passed (same ▸ past)).imp id fun old => kept old
  reached there := (covered.reached (same ▸ there)).imp id fun old => kept old

def FitsBehind (codec : Codec) (past : List Directory) (stored : StoredBatch) : Prop :=
  ∀ spool ∈ past, stored ∈ held codec spool ∨
    ∀ other ∈ held codec spool, Earlier other.position.place stored.position.place

/-- The loop of a call in its middle: `done` is the front of the page behind it. -/
structure Working (codec : Codec) (u : Pipeline) (past : List Directory) (s : ExportState)
    (checkpoint : Checkpoint) (done rest : List StoredBatch) (spool : Directory) : Prop where
  read : spool ∈ past
  placed : Placed spool
  page : done ++ rest <+: (held codec spool).filter (fromOn u.fromSequence)
  place : s.checkpoint.place = checkpoint.place ∨
    ∃ last ∈ done, s.checkpoint.place = last.position.place ∧ ¬ Earlier last.position.place checkpoint.place
  committed : ∀ stored ∈ done, beforeCheckpoint stored.position checkpoint = false →
    u.foreign stored.batch = false → stored ∈ s.exported

structure Safe (codec : Codec) (u : Pipeline) (start : ExportState) (past : List Directory) (r : Running) : Prop where
  covered : ∀ stored, FitsBehind codec past stored → u.eligible stored = true → Covered start r.state stored
  working : ∀ checkpoint rest, r.work = some (checkpoint,rest) →
    ∃ done spool, Working codec u past r.state checkpoint done rest spool

section Steps
variable {codec : Codec} {u : Pipeline} {exporter : Exporter} {past : List Directory}
  {start s : ExportState} {checkpoint : Checkpoint}

lemma Working.ascending (working : Working codec u past s checkpoint done rest spool) : Ascending (done ++ rest) :=
  ((working.placed.ascending codec).1.sublist filter_sublist).sublist working.page.sublist

lemma Working.behind (working : Working codec u past s checkpoint done (stored :: rest) spool)
    (mem : other ∈ done) : Earlier other.position.place stored.position.place :=
  (pairwise_append.mp working.ascending).2.2 other mem stored (by simp)

lemma Working.not_back (working : Working codec u past s checkpoint done rest spool) :
    ¬ Earlier s.checkpoint.place checkpoint.place := by
  rcases working.place with same | ⟨last,-,there,kept⟩
  · rw [same]
    exact Earlier.irrefl _
  · rwa [there]

section
variable (working : Working codec u past s checkpoint done (stored :: rest) spool)
include working

lemma Working.forward
    (kept : beforeCheckpoint stored.position checkpoint = false) : ¬ Earlier stored.position.place s.checkpoint.place := by
  rw [← Bool.not_eq_true,beforeCheckpoint_iff] at kept
  rcases working.place with same | ⟨last,mem,there,-⟩
  · rwa [same]
  · rw [there]
    exact (working.behind mem).asymm

lemma Working.done_of_earlier (mem : other ∈ held codec spool) (covered : fromOn u.fromSequence other = true)
    (old : Earlier other.position.place stored.position.place) : other ∈ done := by
  obtain ⟨back,shape⟩ := working.page
  rw [append_assoc,cons_append] at shape
  have ascending : Ascending (done ++ stored :: (rest ++ back)) :=
    shape ▸ (working.placed.ascending codec).1.sublist filter_sublist
  exact ascending.mem_front (shape ▸ mem_filter.mpr ⟨mem,covered⟩) old

lemma Working.held_head : stored ∈ held codec spool :=
  (mem_filter.mp (working.page.subset (by simp))).1

lemma Working.saved
    (fits : FitsBehind codec past other) (eligible : u.eligible other = true) (covered : Covered start s other)
    (grown : s.exported ⊆ moved.exported) (there : moved.checkpoint.place = stored.position.place)
    (sent : u.foreign stored.batch = true ∨ stored ∈ moved.exported) : Covered start moved other := by
  simp only [Pipeline.eligible,Bool.and_eq_true,Bool.not_eq_true'] at eligible
  rcases fits spool working.read with inside | behind
  · constructor
    · intro passed
      rw [there] at passed
      have finished := working.done_of_earlier inside eligible.1 passed
      by_cases skipped : beforeCheckpoint other.position checkpoint
      · rw [beforeCheckpoint_iff] at skipped
        exact (covered.passed (skipped.of_not_lt working.not_back)).imp id fun old => grown old
      · exact .inr (grown (working.committed other finished (by simpa using skipped) eligible.2))
    · intro reached
      rw [there] at reached
      obtain rfl := (working.placed.ascending codec).1.unique working.held_head inside reached
      exact .inr (sent.resolve_left (by simp [eligible.2]))
  · -- the batch came into the spool behind this one
    have after := behind stored working.held_head
    rw [← there] at after
    exact ⟨fun passed => absurd passed after.asymm,fun reached => absurd (reached ▸ after) (Earlier.irrefl _)⟩

lemma Working.turned (turn : exportOne u exporter checkpoint stored s = (moved,.ok ())) :
    Working codec u past moved checkpoint (done ++ [stored]) rest spool := by
  have page : done ++ [stored] ++ rest <+: (held codec spool).filter (fromOn u.fromSequence) := by
    simpa using working.page
  rcases exportOne_cases turn with ⟨skipped,rfl,-⟩ | ⟨kept,grown,⟨-,_,stopped⟩ | ⟨there,sent⟩⟩
  · refine { working with page, place := ?_, committed := fun other mem open_ own => ?_ }
    · exact working.place.imp id fun ⟨last,mem,found⟩ => ⟨last,by simp [mem],found⟩
    · rcases mem_append.mp mem with front | one
      · exact working.committed other front open_ own
      · simp [mem_singleton.mp one,skipped] at open_
  · cases stopped
  · refine { working with page, place := .inr ⟨stored,by simp,there,?_⟩, committed := fun other mem open_ own => ?_ }
    · rwa [← beforeCheckpoint_iff,Bool.not_eq_true]
    · rcases mem_append.mp mem with front | one
      · exact grown (working.committed other front open_ own)
      · rw [mem_singleton.mp one] at own ⊢
        exact sent.resolve_left (by simp [own])

end

lemma Working.step (start : ExportState) (working : Working codec u past s checkpoint done (stored :: rest) spool)
    (turn : exportOne u exporter checkpoint stored s = (moved,answer)) :
    (∀ other, FitsBehind codec past other → u.eligible other = true → Covered start s other →
      Covered start moved other) ∧ ¬ Earlier moved.checkpoint.place s.checkpoint.place := by
  rcases exportOne_cases turn with ⟨-,rfl,-⟩ | ⟨kept,grown,⟨same,-⟩ | ⟨there,sent⟩⟩
  · exact ⟨fun _ _ _ => id,Earlier.irrefl _⟩
  · exact ⟨fun _ _ _ covered => covered.mono same grown,same ▸ Earlier.irrefl _⟩
  · exact ⟨fun other fits eligible covered => working.saved fits eligible covered grown there sent,
      there ▸ working.forward kept⟩

lemma FitsBehind.of_append (fits : FitsBehind codec (past ++ more) stored) : FitsBehind codec past stored :=
  fun spool mem => fits spool (by simp [mem])

lemma Safe.move (safe : Safe codec u start past r) (exporter : Exporter) (move : ExportMove)
    (placed : ∀ spool ∈ move.reads, Placed spool) : Safe codec u start (past ++ move.reads) (r.move codec u exporter move) ∧
      ¬ Earlier (r.move codec u exporter move).state.checkpoint.place r.state.checkpoint.place := by
  have old : ∀ stored, FitsBehind codec (past ++ move.reads) stored → u.eligible stored = true →
      Covered start r.state stored := fun stored fits => safe.covered stored fits.of_append
  have wider : ∀ checkpoint rest, r.work = some (checkpoint,rest) →
      ∃ done spool, Working codec u (past ++ move.reads) r.state checkpoint done rest spool := by
    intro checkpoint rest set
    obtain ⟨done,spool,working⟩ := safe.working checkpoint rest set
    exact ⟨done,spool,{ working with read := by simp [working.read] }⟩
  cases move with
  | call spool =>
    simp only [Running.move]
    split
    · exact ⟨⟨old,wider⟩,Earlier.irrefl _⟩
    split
    · exact ⟨⟨old,wider⟩,Earlier.irrefl _⟩
    · rename_i page read
      refine ⟨⟨old,fun checkpoint rest set => ?_⟩,Earlier.irrefl _⟩
      cases set
      exact ⟨[],spool,by simp [ExportMove.reads],placed spool (by simp [ExportMove.reads]),readBatches_page read,.inl rfl,by simp⟩
  | turn =>
    simp only [Running.move]
    split
    · exact ⟨⟨old,wider⟩,Earlier.irrefl _⟩
    · exact ⟨⟨old,by simp⟩,Earlier.irrefl _⟩
    rename_i checkpoint stored rest set
    obtain ⟨done,spool,working⟩ := wider _ _ set
    split
    all_goals
      rename_i moved _ turn
      have step := working.step start turn
      refine ⟨⟨fun other fits eligible => step.1 other fits eligible (old other fits eligible),?_⟩,step.2⟩
    · simp
    · intro _ _ set
      cases set
      exact ⟨_,_,working.turned turn⟩
  | restart => exact ⟨⟨old,by simp [Running.move]⟩,Earlier.irrefl _⟩

lemma Safe.run (safe : Safe codec u start past r) (exporter : Exporter) (moves : List ExportMove)
    (placed : ∀ spool ∈ spoolsRead moves, Placed spool) :
    Safe codec u start (past ++ spoolsRead moves) (r.run codec u exporter moves) ∧
      ¬ Earlier (r.run codec u exporter moves).state.checkpoint.place r.state.checkpoint.place := by
  induction moves generalizing past r with
  | nil => exact ⟨by simpa [spoolsRead,Running.run] using safe,Earlier.irrefl _⟩
  | cons move moves ih =>
    rw [spoolsRead,flatMap_cons] at placed ⊢
    obtain ⟨moved,forward⟩ := safe.move exporter move fun spool mem => placed spool (by simp [mem])
    obtain ⟨safe,onward⟩ := ih moved fun spool mem => placed spool (mem_append_right _ mem)
    rw [append_assoc] at safe
    exact ⟨safe,fun back => forward (Earlier.of_not_gt onward back)⟩

lemma Safe.init (codec : Codec) (u : Pipeline) (s : ExportState) : Safe codec u s [] ⟨s,none⟩ :=
  ⟨fun _ _ _ => ⟨.inl,.inl⟩,by simp⟩

end Steps

/-- In every run over a spool whose segment ids are not reused, whatever the exporter answers and
wherever the pipeline is restarted, the checkpoint never passes a batch of the enrolment that the
exporter has not committed, and it never goes back. -/
theorem checkpoint_never_passes (codec : Codec) (u : Pipeline) (exporter : Exporter) (start : ExportState)
    (moves more : List ExportMove) (placed : ∀ other ∈ spoolsRead (moves ++ more), Placed other)
    (spool : Directory) (notReused : ∀ other ∈ spoolsRead moves, Extends codec other spool) :
    (∀ stored ∈ held codec spool, u.eligible stored = true →
      Covered start ((⟨start,none⟩ : Running).run codec u exporter moves).state stored) ∧
    ¬ Earlier ((⟨start,none⟩ : Running).run codec u exporter (moves ++ more)).state.checkpoint.place
      ((⟨start,none⟩ : Running).run codec u exporter moves).state.checkpoint.place := by
  rw [spoolsRead,flatMap_append] at placed
  obtain ⟨safe,-⟩ := (Safe.init codec u start).run exporter moves
    fun other mem => placed other (mem_append_left _ mem)
  obtain ⟨-,forward⟩ := safe.run exporter more
    fun other mem => placed other (mem_append_right _ mem)
  refine ⟨fun stored inside eligible => safe.covered stored (fun other mem => ?_) eligible,?_⟩
  · exact notReused other mem stored inside
  · simpa [Running.run] using forward

lemma Extends.refl (codec : Codec) (spool : Directory) : Extends codec spool spool := fun _ => .inl

/-- A call stops at its second batch: the checkpoint is on the first and not past the second. -/
theorem checkpoint_before_refused : (∀ stored ∈ held numberedCodec (numberedSpool 2), ownPipeline.eligible stored = true →
      Covered { checkpoint := {} } ((⟨{ checkpoint := {} },none⟩ : Running).run numberedCodec ownPipeline
        (fun attempt _ => .ok (attempt == 0)) [.call (numberedSpool 2),.turn,.turn]).state stored) ∧
    ¬ Earlier ((⟨{ checkpoint := {} },none⟩ : Running).run numberedCodec ownPipeline
        (fun attempt _ => .ok (attempt == 0)) ([.call (numberedSpool 2),.turn,.turn] ++ [.restart])).state.checkpoint.place
      ((⟨{ checkpoint := {} },none⟩ : Running).run numberedCodec ownPipeline
        (fun attempt _ => .ok (attempt == 0)) [.call (numberedSpool 2),.turn,.turn]).state.checkpoint.place :=
  checkpoint_never_passes numberedCodec ownPipeline _ _ [.call (numberedSpool 2),.turn,.turn] [.restart]
    (by simp [spoolsRead,ExportMove.reads,(layout_numbered 2).placed]) (numberedSpool 2)
    (by simp [spoolsRead,ExportMove.reads,Extends.refl])

def wideSpool : Directory :=
  (AList.singleton (sealedPath (10 ^ 16 - 1)) (segmentOf numberedCodec (10 ^ 16 - 1) 0 [numbered 0])).insert
    (sealedPath (10 ^ 16)) (segmentOf numberedCodec (10 ^ 16) 0 [numbered 1])

lemma spoolBatches_wide : spoolBatches numberedCodec wideSpool =
      .ok [storedAt (10 ^ 16) segmentHeaderSize (numbered 1),storedAt (10 ^ 16 - 1) segmentHeaderSize (numbered 0)] := by
  have files : segmentFiles wideSpool = [sealedPath (10 ^ 16),sealedPath (10 ^ 16 - 1)] := by decide +kernel
  have first : fileAt wideSpool (sealedPath (10 ^ 16)) = segmentOf numberedCodec (10 ^ 16) 0 [numbered 1] := by
    simp [fileAt,wideSpool]
  have second : fileAt wideSpool (sealedPath (10 ^ 16 - 1)) = segmentOf numberedCodec (10 ^ 16 - 1) 0 [numbered 0] := by
    rw [wideSpool,fileAt,AList.lookup_insert_ne (by decide +kernel)]
    simp [AList.lookup,AList.singleton]
  have readable (number : Nat) (bound : number < 10 ^ 4) :
      ∀ batch ∈ [numbered number], Readable numberedCodec batch := by
    simpa using readable_numbered bound
  simp only [spoolBatches,files,batchesOf,first,second,
    readSegment_segmentOf (readable 1 (by decide)) (by decide : 10 ^ 16 < 2 ^ 64),
    readSegment_segmentOf (readable 0 (by decide)) (by decide : 10 ^ 16 - 1 < 2 ^ 64)]
  rfl

/-- Seventeen digits sort before sixteen: the checkpoint goes to the larger segment first and past
the batch of the smaller one, which the exporter has not seen. -/
theorem checkpoint_passes_text_order : storedAt (10 ^ 16 - 1) segmentHeaderSize (numbered 0) ∈ held numberedCodec wideSpool ∧
    ownPipeline.eligible (storedAt (10 ^ 16 - 1) segmentHeaderSize (numbered 0)) = true ∧
    storedAt (10 ^ 16 - 1) segmentHeaderSize (numbered 0) ∉ ((⟨{ checkpoint := {} },none⟩ : Running).run numberedCodec
      ownPipeline (fun _ _ => .ok true) [.call wideSpool,.turn]).state.exported ∧
    Earlier (storedAt (10 ^ 16 - 1) segmentHeaderSize (numbered 0)).position.place
      ((⟨{ checkpoint := {} },none⟩ : Running).run numberedCodec ownPipeline (fun _ _ => .ok true)
        [.call wideSpool,.turn]).state.checkpoint.place := by
  have page := readBatches_eq spoolBatches_wide ⟨exportLimit,ownPipeline.fromSequence⟩
  have ran : ((⟨{ checkpoint := {} },none⟩ : Running).run numberedCodec ownPipeline (fun _ _ => .ok true)
      [.call wideSpool,.turn]).state =
        { checkpoint := ⟨10 ^ 16,segmentHeaderSize,padded 4 1⟩
          exported := [storedAt (10 ^ 16) segmentHeaderSize (numbered 1)], attempts := 1, saves := 1 } := by
    simp only [Running.run,List.foldl,Running.move,page]
    rfl
  rw [ran]
  refine ⟨?_,rfl,by simp [storedAt],.inl (by decide)⟩
  rw [held,← batchesOf_held _ spoolBatches_wide]
  simp

end SysArmor.Daemon
