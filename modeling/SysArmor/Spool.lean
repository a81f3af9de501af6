import Mathlib.Data.List.AList
import Mathlib.Data.List.Sort
import SysArmor.Digits
import SysArmor.SegmentReader

/-! The spool directory: segment files under their zero-padded names, listed in text
order, and the paged read over them. -/
namespace SysArmor.LocalStore
open ByteWords Proto Digits List

abbrev Directory := AList (fun _ : String => Bytes)

def openPath (segmentID : Nat) : String := padded 16 segmentID ++ ".open"
def sealedPath (segmentID : Nat) : String := padded 16 segmentID ++ ".seg"
def hasSuffix (text ending : String) : Bool := ending.toList.isSuffixOf text.toList
def isSegment (name : String) : Bool := hasSuffix name ".seg" || hasSuffix name ".open"

def segmentFiles (spool : Directory) : List String :=
  (spool.keys.filter isSegment).insertionSort (· ≤ ·)

structure ReadOptions where
  limit : Int
  fromSequence : UInt64

/-- The inner loop of `ReadBatches`: whether the page is full, and the page. -/
def collect (limit : Nat) (fromSequence : UInt64) : List StoredBatch → List StoredBatch → Bool × List StoredBatch
  | [], out => (false,out)
  | batch :: batches, out =>
    if batch.position.batchSequence < fromSequence then collect limit fromSequence batches out
    else if limit ≤ (out ++ [batch]).length then (true,out ++ [batch])
    else collect limit fromSequence batches (out ++ [batch])

def fileAt (spool : Directory) (path : String) : Bytes := (spool.lookup path).getD []

/-- The outer loop of `ReadBatches`; segments behind a full page are not opened. -/
def readFiles (codec : Codec) (spool : Directory) (limit : Nat) (fromSequence : UInt64) :
    List String → List StoredBatch → Except String (List StoredBatch)
  | [], out => .ok out
  | path :: paths, out =>
    match readSegment codec (fileAt spool path) false with
    | .error err => .error err
    | .ok (batches,_) =>
      match collect limit fromSequence batches out with
      | (true,out) => .ok out
      | (false,out) => readFiles codec spool limit fromSequence paths out

def pageLimit (limit : Int) : Nat := if limit ≤ 0 then 100 else limit.toNat

def readBatches (codec : Codec) (spool : Directory) (opts : ReadOptions) : Except String (List StoredBatch) :=
  readFiles codec spool (pageLimit opts.limit) opts.fromSequence (segmentFiles spool) []

def batchesOf (codec : Codec) (spool : Directory) : List String → Except String (List StoredBatch)
  | [] => .ok []
  | path :: paths =>
    match readSegment codec (fileAt spool path) false, batchesOf codec spool paths with
    | .ok (batches,_), .ok later => .ok (batches ++ later)
    | .error err, _ => .error err
    | _, .error err => .error err

def spoolBatches (codec : Codec) (spool : Directory) : Except String (List StoredBatch) :=
  batchesOf codec spool (segmentFiles spool)

def fromOn (fromSequence : UInt64) (batch : StoredBatch) : Bool :=
  !decide (batch.position.batchSequence < fromSequence)

lemma collect_eq (batches out : List StoredBatch) (room : out.length < limit) : collect limit fromSequence batches out =
      (decide (limit ≤ out.length + (batches.filter (fromOn fromSequence)).length),
        out ++ (batches.filter (fromOn fromSequence)).take (limit - out.length)) := by
  induction batches generalizing out with
  | nil => simp [collect,room]
  | cons batch batches ih =>
    by_cases skipped : batch.position.batchSequence < fromSequence
    · simp [collect,skipped,fromOn,ih out room]
    obtain ⟨space,shape⟩ : ∃ space, limit - out.length = space + 1 := ⟨limit - out.length - 1,by omega⟩
    by_cases full : limit ≤ (out ++ [batch]).length
    · have space_zero : space = 0 := by simp at full; omega
      subst space_zero
      simp only [collect,skipped,↓reduceIte,full,fromOn,filter_cons,decide_false,Bool.not_false,shape]
      simp
      omega
    · have room' : (out ++ [batch]).length < limit := by omega
      have rest : limit - (out ++ [batch]).length = space := by simp; omega
      simp only [collect,skipped,↓reduceIte,full,ih _ room',fromOn,filter_cons,decide_false,
        Bool.not_false,shape,rest,take_succ_cons]
      simp
      omega

lemma readFiles_eq (paths : List String) (out : List StoredBatch) (room : out.length < limit)
    (all : batchesOf codec spool paths = .ok stored) : readFiles codec spool limit fromSequence paths out =
      .ok (out ++ (stored.filter (fromOn fromSequence)).take (limit - out.length)) := by
  induction paths generalizing out stored with
  | nil =>
    cases all
    simp [readFiles]
  | cons path paths ih =>
    unfold batchesOf at all
    split at all <;> cases all
    rename_i batches _ later read rest
    simp only [readFiles,read,collect_eq _ _ room,filter_append,take_append]
    by_cases full : limit ≤ out.length + (batches.filter (fromOn fromSequence)).length
    · simp only [full,decide_true]
      have none : limit - out.length - (batches.filter (fromOn fromSequence)).length = 0 := by omega
      simp [none]
    simp only [full,decide_false]
    have whole : (batches.filter (fromOn fromSequence)).take (limit - out.length) =
        batches.filter (fromOn fromSequence) := take_of_length_le (by omega)
    rw [whole,ih _ (by simp; omega) rest]
    simp [Nat.sub_add_eq]

lemma pageLimit_pos (limit : Int) : 0 < pageLimit limit := by
  unfold pageLimit
  split <;> omega

lemma readBatches_eq (all : spoolBatches codec spool = .ok stored) (opts : ReadOptions) :
    readBatches codec spool opts = .ok ((stored.filter (fromOn opts.fromSequence)).take (pageLimit opts.limit)) := by
  rw [readBatches,readFiles_eq _ _ (pageLimit_pos _) all]
  simp

/-! Reading order is position order: file names list segments by id, and offsets grow
inside a segment. -/

def Position.place (position : Position) : Nat × Nat := (position.segmentID,position.recordOffset)

/-- The order of places that `beforeCheckpoint` decides. -/
def Earlier (left right : Nat × Nat) : Prop :=
  left.1 < right.1 ∨ (left.1 = right.1 ∧ left.2 < right.2)

instance (left right : Nat × Nat) : Decidable (Earlier left right) :=
  inferInstanceAs (Decidable (_ ∨ _))

lemma Earlier.irrefl (place : Nat × Nat) : ¬ Earlier place place := by simp [Earlier]

lemma Earlier.trans (first : Earlier a b) (second : Earlier b c) : Earlier a c := by
  unfold Earlier at *
  omega

lemma Earlier.asymm (first : Earlier a b) : ¬ Earlier b a :=
  fun back => Earlier.irrefl _ (first.trans back)

lemma Earlier.of_not_lt (first : Earlier a b) (second : ¬ Earlier c b) : Earlier a c := by
  simp only [Earlier] at *
  omega

lemma Earlier.of_not_gt (first : ¬ Earlier a c) (second : Earlier a b) : Earlier c b := by
  simp only [Earlier] at *
  omega

lemma Earlier.eq_of_not (left : ¬ Earlier a b) (right : ¬ Earlier b a) : a = b := by
  simp only [Earlier] at *
  exact Prod.ext (by omega) (by omega)

def Ascending (stored : List StoredBatch) : Prop :=
  stored.Pairwise (fun left right => Earlier left.position.place right.position.place)

lemma Ascending.mem_front (ascending : Ascending (front ++ stored :: back)) (mem : other ∈ front ++ stored :: back)
    (old : Earlier other.position.place stored.position.place) : other ∈ front := by
  obtain ⟨-,tail,-⟩ := pairwise_append.mp ascending
  rcases mem_append.mp mem with here | later
  · exact here
  rcases mem_cons.mp later with rfl | behind
  · exact absurd old (Earlier.irrefl _)
  · exact absurd old ((pairwise_cons.mp tail).1 other behind).asymm

lemma Ascending.unique (ascending : Ascending list) (left : stored ∈ list) (right : other ∈ list)
    (same : stored.position.place = other.position.place) : stored = other := by
  obtain ⟨front,back,rfl⟩ := append_of_mem left
  obtain ⟨-,tail,across⟩ := pairwise_append.mp ascending
  rcases mem_append.mp right with old | later
  · exact absurd (same ▸ across other old stored (by simp)) (Earlier.irrefl _)
  rcases mem_cons.mp later with rfl | behind
  · rfl
  · exact absurd (same ▸ (pairwise_cons.mp tail).1 other behind) (Earlier.irrefl _)

lemma heldRecords_ascending (codec : Codec) (segmentID : Nat) (rest : Bytes) (offset : Nat) :
    Ascending (heldRecords codec segmentID rest offset) ∧ ∀ stored ∈ heldRecords codec segmentID rest offset,
        stored.position.segmentID = segmentID ∧ offset ≤ stored.position.recordOffset := by
  induction rest, offset using heldRecords.induct codec with
  | case1 rest offset batch sequence size found ih =>
    obtain ⟨ascending,inside⟩ := ih
    have pos := (nextRecord_size found).1
    rw [heldRecords_record found]
    refine ⟨pairwise_cons.mpr ⟨fun stored mem => ?_,ascending⟩,fun stored mem => ?_⟩
    · have := inside stored mem
      simp only [Earlier,Position.place]
      omega
    rcases mem_cons.mp mem with rfl | later
    · simp
    · have := inside stored later
      omega
  | case2 rest offset ended =>
    rw [heldRecords_end ended]
    simp [Ascending]

def headerID (file : Bytes) : Except String Nat := parseSegmentHeader (file.take segmentHeaderSize)

def heldSegment (codec : Codec) (file : Bytes) : List StoredBatch :=
  match headerID file with
  | .ok segmentID => heldRecords codec segmentID (file.drop segmentHeaderSize) segmentHeaderSize
  | .error _ => []

lemma readSegment_held (read : readSegment codec file truncateTail = .ok (batches,left)) :
    batches = heldSegment codec file := by
  simp only [readSegment] at read
  split at read
  · cases read
  simp only [heldSegment,headerID]
  split at read
  · cases read
  rename_i segmentID header
  rw [header]
  split at read
  · cases read
  all_goals
    rename_i done
    cases read
    exact (readRecords_held done).1

lemma append_lt_of_front {front other back rest : List Char} (same : front.length = other.length)
    (distinct : front ≠ other) : front ++ back < other ++ rest ↔ front < other := by
  induction front generalizing other with
  | nil =>
    obtain rfl : other = [] := length_eq_zero_iff.mp same.symm
    contradiction
  | cons letter front ih =>
    obtain ⟨first,other,rfl⟩ := exists_cons_of_length_eq_add_one same.symm
    simp only [cons_append,cons_lt_cons_iff]
    by_cases equal : letter = first
    · subst equal
      rw [ih (by simpa using same) (by simpa using distinct)]
    · simp [equal]

lemma openPath_ne_sealedPath (a b : Nat) : openPath a ≠ sealedPath b := by
  intro same
  have last := congrArg (fun text => text.toList.getLast?) same
  simp [openPath,sealedPath] at last

def NamedAfter (path : String) (segmentID : Nat) : Prop :=
  path = openPath segmentID ∨ path = sealedPath segmentID

lemma NamedAfter.lt_iff (left : NamedAfter path a) (right : NamedAfter other b)
    (aBound : a < 10 ^ 16) (bBound : b < 10 ^ 16) (distinct : a ≠ b) : path < other ↔ a < b := by
  have fronts : paddedDigits 16 a ≠ paddedDigits 16 b := fun same =>
    distinct (padded_injective 16 (congrArg String.ofList same))
  have lengths : (paddedDigits 16 a).length = (paddedDigits 16 b).length := by
    rw [paddedDigits_length aBound (by decide),paddedDigits_length bBound (by decide)]
  rw [← padded_lt_iff (by decide : 0 < 16) aBound bBound,String.lt_iff_toList_lt]
  rcases left with rfl | rfl <;> rcases right with rfl | rfl <;>
    simpa [openPath,sealedPath] using append_lt_of_front lengths fronts

/-- The writer's layout: every listed segment is named after the id in its header, ids fit the
sixteen digits of a name, and a segment is not there both open and sealed. -/
structure Layout (spool : Directory) : Prop where
  named : ∀ path ∈ segmentFiles spool, ∃ segmentID, NamedAfter path segmentID ∧ segmentID < 10 ^ 16 ∧
    headerID (fileAt spool path) = .ok segmentID
  single : ∀ segmentID, openPath segmentID ∈ spool → sealedPath segmentID ∉ spool

/-- The part of the layout that a crash cannot break: a header, where one can be read, carries
the id of the file's name. -/
structure Placed (spool : Directory) : Prop where
  named : ∀ path ∈ segmentFiles spool, ∃ segmentID, NamedAfter path segmentID ∧ segmentID < 10 ^ 16 ∧
    ∀ found, headerID (fileAt spool path) = .ok found → found = segmentID
  single : ∀ segmentID, openPath segmentID ∈ spool → sealedPath segmentID ∉ spool

lemma Layout.placed (layout : Layout spool) : Placed spool where
  named path mem := by
    obtain ⟨segmentID,name,bound,header⟩ := layout.named path mem
    exact ⟨segmentID,name,bound,fun found read => Except.ok.inj (read.symm.trans header)⟩
  single := layout.single

lemma mem_segmentFiles : path ∈ segmentFiles spool ↔ path ∈ spool ∧ isSegment path := by
  rw [segmentFiles,(perm_insertionSort _ _).mem_iff,mem_filter,← AList.mem_keys]

lemma segmentFiles_sorted (spool : Directory) : (segmentFiles spool).Pairwise (· < ·) := by
  have sorted : (segmentFiles spool).Pairwise (· ≤ ·) := pairwise_insertionSort _ _
  have nodup : (segmentFiles spool).Nodup :=
    (perm_insertionSort _ _).nodup_iff.mpr (spool.keys_nodup.filter _)
  exact (pairwise_and_iff.mpr ⟨sorted,nodup⟩).imp fun both => lt_of_le_of_ne both.1 both.2

lemma Placed.id_unique (placed : Placed spool) (left : path ∈ spool) (right : other ∈ spool)
    (leftName : NamedAfter path segmentID) (rightName : NamedAfter other segmentID) : path = other := by
  have single := placed.single segmentID
  rcases leftName with rfl | rfl <;> rcases rightName with rfl | rfl
  · rfl
  · exact absurd right (single left)
  · exact absurd left (single right)
  · rfl

def heldFiles (codec : Codec) (spool : Directory) (paths : List String) : List StoredBatch :=
  paths.flatMap fun path => heldSegment codec (fileAt spool path)

def held (codec : Codec) (spool : Directory) : List StoredBatch := heldFiles codec spool (segmentFiles spool)

lemma Placed.segment (placed : Placed spool) (codec : Codec) (listed : path ∈ segmentFiles spool) :
    Ascending (heldSegment codec (fileAt spool path)) ∧ ∀ stored ∈ heldSegment codec (fileAt spool path),
        NamedAfter path stored.position.segmentID ∧ stored.position.segmentID < 10 ^ 16 := by
  obtain ⟨segmentID,name,bound,header⟩ := placed.named path listed
  simp only [heldSegment]
  split
  · rename_i found read
    obtain rfl := header found read
    obtain ⟨ascending,inside⟩ :=
      heldRecords_ascending codec found ((fileAt spool path).drop segmentHeaderSize) segmentHeaderSize
    refine ⟨ascending,fun stored mem => ?_⟩
    rw [(inside stored mem).1]
    exact ⟨name,bound⟩
  · simp [Ascending]

lemma Placed.files (placed : Placed spool) (codec : Codec) (paths : List String)
    (listed : ∀ path ∈ paths, path ∈ segmentFiles spool) (sorted : paths.Pairwise (· < ·)) :
    Ascending (heldFiles codec spool paths) := by
  induction paths with
  | nil => simp [heldFiles,Ascending]
  | cons path paths ih =>
    obtain ⟨first,sortedRest⟩ := pairwise_cons.mp sorted
    have here := listed path (by simp)
    obtain ⟨ascending,inside⟩ := placed.segment codec here
    refine pairwise_append.mpr
      ⟨ascending,ih (fun other mem => listed other (by simp [mem])) sortedRest,?_⟩
    -- a batch of a later file has a larger segment id
    intro left leftMember right rightMember
    obtain ⟨other,mem,found⟩ := mem_flatMap.mp rightMember
    have there := listed other (by simp [mem])
    obtain ⟨name,bound⟩ := inside left leftMember
    obtain ⟨otherName,otherBound⟩ := (placed.segment codec there).2 right found
    have old := first other mem
    have distinct : left.position.segmentID ≠ right.position.segmentID := by
      intro same
      rw [← same] at otherName
      exact old.ne (placed.id_unique (mem_segmentFiles.mp here).1 (mem_segmentFiles.mp there).1 name otherName)
    exact .inl ((name.lt_iff otherName bound otherBound distinct).mp old)

lemma Placed.ascending (placed : Placed spool) (codec : Codec) :
    Ascending (held codec spool) ∧ ∀ stored ∈ held codec spool, stored.position.segmentID < 10 ^ 16 := by
  refine ⟨placed.files codec _ (fun _ => id) (segmentFiles_sorted spool),fun stored mem => ?_⟩
  obtain ⟨path,listed,found⟩ := mem_flatMap.mp mem
  exact ((placed.segment codec listed).2 stored found).2

lemma batchesOf_held (paths : List String) (all : batchesOf codec spool paths = .ok stored) :
    stored = heldFiles codec spool paths := by
  induction paths generalizing stored with
  | nil =>
    cases all
    rfl
  | cons path paths ih =>
    simp only [batchesOf] at all
    split at all <;> cases all
    rename_i batches _ later read rest
    simp [heldFiles,readSegment_held read,ih rest]

lemma spoolBatches_ascending (layout : Layout spool) (all : spoolBatches codec spool = .ok stored) :
    Ascending stored ∧ ∀ batch ∈ stored, batch.position.segmentID < 10 ^ 16 := by
  rw [batchesOf_held _ all]
  exact layout.placed.ascending codec

lemma readFiles_page (paths : List String) (out : List StoredBatch) (room : out.length < limit)
    (read : readFiles codec spool limit fromSequence paths out = .ok page) :
    ∃ count, page = out ++ ((heldFiles codec spool paths).filter (fromOn fromSequence)).take count := by
  induction paths generalizing out with
  | nil =>
    cases read
    exact ⟨0,by simp⟩
  | cons path paths ih =>
    simp only [readFiles] at read
    split at read
    · cases read
    rename_i batches _ segment
    rw [readSegment_held segment,collect_eq _ _ room] at read
    have shape : heldFiles codec spool (path :: paths) =
        heldSegment codec (fileAt spool path) ++ heldFiles codec spool paths := rfl
    rw [shape,filter_append]
    generalize (heldSegment codec (fileAt spool path)).filter (fromOn fromSequence) = here at *
    by_cases full : limit ≤ out.length + here.length
    · simp only [full,decide_true] at read
      cases read
      exact ⟨limit - out.length,by rw [take_append_of_le_length (by omega)]⟩
    simp only [full,decide_false] at read
    rw [take_of_length_le (by omega)] at read
    obtain ⟨count,found⟩ := ih _ (by simp; omega) read
    exact ⟨here.length + count,by simp [found,take_length_add_append]⟩

lemma readBatches_page (read : readBatches codec spool opts = .ok page) :
    page <+: (held codec spool).filter (fromOn opts.fromSequence) := by
  obtain ⟨count,found⟩ := readFiles_page _ _ (pageLimit_pos _) read
  rw [found,nil_append]
  exact take_prefix _ _

end SysArmor.LocalStore
