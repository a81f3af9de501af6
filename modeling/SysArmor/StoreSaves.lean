import SysArmor.SegmentChain
import SysArmor.StoreOperations

/-! Concurrent `Save` calls on a store with a state file. A call exports the state under the store's
lock and replaces the file outside of it, so other calls and updates run in between. -/
namespace SysArmor.Manager

/-- Where a `Save` call is. `begun` counts the updates completed before it began and `version`
those the state it exported has seen. -/
inductive SavePhase where
  | idle
  | started (begun : Nat)
  | exported (begun version : Nat) (state : Store)
  | replaced (begun : Nat)
  | returned (begun : Nat) (err : Option String)

/-- A store with a state file, the updates since it was opened, and its `Save` calls by number. -/
structure FileStore where
  initial : Store
  updates : List (Calls × Operation) := []
  file : Option Store := none
  phase : Nat → SavePhase := fun _ => .idle

/-- What may happen next: an update, which runs under the lock, or a step of a call. The state may
fail to encode, the temporary file may fail to be written, and a rename may report an error although
it took effect. -/
inductive SaveMove where
  | update (calls : Calls) (op : Operation)
  | begin (id : Nat)
  | exportState (id : Nat) (err : Option String)
  | writeFails (id : Nat) (err : String)
  | rename (id : Nat) (outcome : LocalStore.Outcome)
  | finish (id : Nat)

namespace FileStore
variable (digest : String → String)

def after (m : FileStore) (count : Nat) : Store := m.initial.run digest (m.updates.take count)

def enter (m : FileStore) (id : Nat) (phase : SavePhase) : FileStore :=
  { m with phase := fun other => if other = id then phase else m.phase other }

def move (m : FileStore) : SaveMove → FileStore
  | .update calls op => { m with updates := m.updates ++ [(calls,op)] }
  | .begin id => match m.phase id with
    | .idle => m.enter id (.started m.updates.length)
    | _ => m
  | .exportState id err => match m.phase id, err with
    | .started begun, some err => m.enter id (.returned begun (some err))
    | .started begun, none => m.enter id (.exported begun m.updates.length (m.after digest m.updates.length))
    | _, _ => m
  | .writeFails id err => match m.phase id with
    | .exported begun _ _ => m.enter id (.returned begun (some err))
    | _ => m
  | .rename id outcome => match m.phase id, outcome with
    | .exported begun _ state, .done => { m.enter id (.replaced begun) with file := some state }
    | .exported begun _ _, .failed err => m.enter id (.returned begun (some err))
    | .exported begun _ state, .lost err => { m.enter id (.returned begun (some err)) with file := some state }
    | _, _ => m
  | .finish id => match m.phase id with
    | .replaced begun => m.enter id (.returned begun none)
    | _ => m

def run (m : FileStore) : List SaveMove → FileStore
  | [] => m
  | next :: moves => (m.move digest next).run moves

def Replaced (m : FileStore) (id begun : Nat) : Prop :=
  m.phase id = .replaced begun ∨ m.phase id = .returned begun none

def HoldsFrom (m : FileStore) (begun : Nat) : Prop :=
  ∃ count, begun ≤ count ∧ count ≤ m.updates.length ∧ m.file = some (m.after digest count)

def Kept (m : FileStore) : Prop :=
  ∀ id begun, m.phase id = .returned begun none → m.HoldsFrom digest begun

/-- When a call replaces the file, the state it exported has the updates completed before the
beginning of every call that replaced the file earlier. -/
def InOrder (m : FileStore) : SaveMove → Prop
  | .rename id outcome => (∀ err, outcome ≠ .failed err) → ∀ begun version state,
      m.phase id = .exported begun version state → ∀ other earlier, m.Replaced other earlier → earlier ≤ version
  | _ => True

def InOrderRun (m : FileStore) : List SaveMove → Prop
  | [] => True
  | next :: moves => m.InOrder next ∧ (m.move digest next).InOrderRun moves

structure Consistent (m : FileStore) : Prop where
  started : ∀ id begun, m.phase id = .started begun → begun ≤ m.updates.length
  exported : ∀ id begun version state, m.phase id = .exported begun version state →
    begun ≤ version ∧ version ≤ m.updates.length ∧ state = m.after digest version
  replaced : ∀ id begun, m.Replaced id begun → m.HoldsFrom digest begun

variable {digest : String → String} {m : FileStore}

lemma enter_phase (m : FileStore) (id other : Nat) (phase : SavePhase) :
    (m.enter id phase).phase other = if other = id then phase else m.phase other := rfl

lemma after_update (count_le : count ≤ m.updates.length) (update : Calls × Operation) :
    ({ m with updates := m.updates ++ [update] } : FileStore).after digest count = m.after digest count := by
  simp only [after,List.take_append_of_le_length count_le]

lemma Consistent.update (consistent : m.Consistent digest) (update : Calls × Operation) :
    ({ m with updates := m.updates ++ [update] } : FileStore).Consistent digest where
  started id begun phase := by
    have := consistent.started id begun phase
    simp only [List.length_append]
    omega
  exported id begun version state phase := by
    obtain ⟨begun_le,version_le,same⟩ := consistent.exported id begun version state phase
    exact ⟨begun_le,by simp only [List.length_append]; omega,by rw [after_update version_le]; exact same⟩
  replaced id begun replaced := by
    obtain ⟨count,begun_le,count_le,same⟩ := consistent.replaced id begun replaced
    exact ⟨count,begun_le,by simp only [List.length_append]; omega,by rw [after_update count_le]; exact same⟩

section
variable (consistent : m.Consistent digest)
include consistent

lemma Consistent.enter (id : Nat) (phase : SavePhase)
    (started : ∀ begun, phase = .started begun → begun ≤ m.updates.length)
    (exported : ∀ begun version state, phase = .exported begun version state →
      begun ≤ version ∧ version ≤ m.updates.length ∧ state = m.after digest version)
    (replaced : ∀ begun, phase = .replaced begun ∨ phase = .returned begun none → m.HoldsFrom digest begun) :
    (m.enter id phase).Consistent digest where
  started other begun here := by
    rw [enter_phase] at here
    split at here
    · exact started begun here
    · exact consistent.started other begun here
  exported other begun version state here := by
    rw [enter_phase] at here
    split at here
    · exact exported begun version state here
    · exact consistent.exported other begun version state here
  replaced other begun here := by
    simp only [Replaced,enter_phase] at here
    split at here
    · exact replaced begun here
    · exact consistent.replaced other begun here

lemma Consistent.replace {id : Nat} (exported : m.phase id = .exported begun version state)
    (order : ∀ other earlier, m.Replaced other earlier → earlier ≤ version)
    (phase : SavePhase) (ended : phase = .replaced begun ∨ ∃ err, phase = .returned begun (some err)) :
    ({ m.enter id phase with file := some state } : FileStore).Consistent digest := by
  obtain ⟨begun_le,version_le,rfl⟩ := consistent.exported id begun version state exported
  have holds (earlier : Nat) (early : earlier ≤ version) :
      ({ m.enter id phase with file := some (m.after digest version) } : FileStore).HoldsFrom digest earlier :=
    ⟨version,early,version_le,rfl⟩
  refine ⟨fun other begun here => ?_,fun other begun version state here => ?_,fun other earlier here => ?_⟩
  · change (m.enter id phase).phase other = _ at here
    rw [enter_phase] at here
    split at here
    · rcases ended with rfl | ⟨err,rfl⟩ <;> cases here
    · exact consistent.started other begun here
  · change (m.enter id phase).phase other = _ at here
    rw [enter_phase] at here
    split at here
    · rcases ended with rfl | ⟨err,rfl⟩ <;> cases here
    · exact consistent.exported other begun version state here
  · change (m.enter id phase).Replaced other earlier at here
    simp only [Replaced,enter_phase] at here
    split at here
    · rcases ended with rfl | ⟨err,rfl⟩
      · rcases here with same | same
        · cases same
          exact holds begun begun_le
        · cases same
      · rcases here with same | same <;> cases same
    · exact holds earlier (order other earlier here)

lemma Consistent.move (next : SaveMove) (order : m.InOrder next) : (m.move digest next).Consistent digest := by
  cases next with
  | update calls op => exact consistent.update (calls,op)
  | begin id =>
    simp only [FileStore.move]
    split
    · refine consistent.enter id _ ?_ nofun (by simp)
      rintro _ ⟨⟩
      exact le_rfl
    · exact consistent
  | exportState id err =>
    simp only [FileStore.move]
    split
    · exact consistent.enter id _ nofun nofun (by simp)
    · rename_i begun phase
      refine consistent.enter id _ nofun ?_ (by simp)
      rintro _ _ _ ⟨⟩
      exact ⟨consistent.started id begun phase,le_rfl,rfl⟩
    · exact consistent
  | writeFails id err =>
    simp only [FileStore.move]
    split
    · exact consistent.enter id _ nofun nofun (by simp)
    · exact consistent
  | rename id outcome =>
    simp only [FileStore.move]
    split
    · rename_i exported
      exact consistent.replace exported (order nofun _ _ _ exported) _ (.inl rfl)
    · exact consistent.enter id _ nofun nofun (by simp)
    · rename_i exported
      exact consistent.replace exported (order nofun _ _ _ exported) _ (.inr ⟨_,rfl⟩)
    · exact consistent
  | finish id =>
    simp only [FileStore.move]
    split
    · rename_i begun phase
      refine consistent.enter id _ nofun nofun ?_
      rintro _ (⟨⟨⟩⟩ | ⟨⟨⟩⟩)
      exact consistent.replaced id begun (.inl phase)
    · exact consistent

end

lemma Consistent.run (moves : List SaveMove) (consistent : m.Consistent digest) (order : m.InOrderRun digest moves) :
    (m.run digest moves).Consistent digest := by
  induction moves generalizing m with
  | nil => exact consistent
  | cons next moves ih => exact ih (consistent.move next order.1) order.2

lemma InOrderRun.start (moves later : List SaveMove) (order : m.InOrderRun digest (moves ++ later)) :
    m.InOrderRun digest moves := by
  induction moves generalizing m with
  | nil => exact trivial
  | cons next moves ih => exact ⟨order.1,ih order.2⟩

/-! Calls that do not overlap replace the file in order. -/

def running : SavePhase → Bool
  | .started _ | .exported _ _ _ | .replaced _ => true
  | _ => false

/-- A call replaces the file only while no other one is under way. -/
def AloneRun (digest : String → String) (m : FileStore) : List SaveMove → Prop
  | [] => True
  | next :: moves => (∀ id outcome, next = .rename id outcome → ∀ other, running (m.phase other) → other = id) ∧
      (m.move digest next).AloneRun digest moves

/-- An exported state has the updates behind each file that was put in place. -/
def Newer (m : FileStore) : Prop :=
  ∀ id begun version state, m.phase id = .exported begun version state →
    ∀ other earlier, m.Replaced other earlier → earlier ≤ version

lemma Newer.enter (newer : m.Newer) (id : Nat) {phase : SavePhase}
    (exported : ∀ begun version state, phase = .exported begun version state →
      ∀ other earlier, m.Replaced other earlier → earlier ≤ version)
    (ended : ∀ begun, phase = .replaced begun ∨ phase = .returned begun none →
      m.Replaced id begun ∨ ∀ other, running (m.phase other) → other = id) : (m.enter id phase).Newer := by
  intro a begun version state here other earlier there
  simp only [Replaced,enter_phase] at here there
  split at here <;> split at there
  · rcases there with same | same <;> cases here.symm.trans same
  · exact exported begun version state here other earlier there
  · rcases ended earlier there with before | alone
    · exact newer a begun version state here id earlier before
    · exact absurd (alone a (by rw [here]; rfl)) ‹_›
  · exact newer a begun version state here other earlier there

lemma Newer.move (newer : m.Newer) (consistent : m.Consistent digest) (next : SaveMove)
    (alone : ∀ id outcome, next = .rename id outcome → ∀ other, running (m.phase other) → other = id) :
    (m.move digest next).Newer := by
  cases next with
  | update calls op => exact newer
  | begin id =>
    simp only [FileStore.move]
    split
    · exact newer.enter id nofun (by simp)
    · exact newer
  | exportState id err =>
    simp only [FileStore.move]
    split
    · exact newer.enter id nofun (by simp)
    · refine newer.enter id ?_ (by simp)
      rintro _ _ _ ⟨⟩ other earlier replaced
      obtain ⟨count,low,high,-⟩ := consistent.replaced other earlier replaced
      omega
    · exact newer
  | writeFails id err =>
    simp only [FileStore.move]
    split
    · exact newer.enter id nofun (by simp)
    · exact newer
  | rename id outcome =>
    simp only [FileStore.move]
    split
    · exact newer.enter id nofun fun _ _ => .inr (alone id _ rfl)
    · exact newer.enter id nofun (by simp)
    · exact newer.enter id nofun (by simp)
    · exact newer
  | finish id =>
    simp only [FileStore.move]
    split
    · rename_i phase
      refine newer.enter id nofun ?_
      rintro _ (⟨⟨⟩⟩ | ⟨⟨⟩⟩)
      exact .inl (.inl phase)
    · exact newer

lemma AloneRun.inOrder (moves : List SaveMove) (consistent : m.Consistent digest) (newer : m.Newer)
    (alone : m.AloneRun digest moves) : m.InOrderRun digest moves := by
  induction moves generalizing m with
  | nil => exact trivial
  | cons next moves ih =>
    have order : m.InOrder next := by
      cases next with
      | rename id outcome => exact fun _ begun version state here => newer id begun version state here
      | _ => exact trivial
    exact ⟨order,ih (consistent.move next order) (newer.move consistent next alone.1) alone.2⟩

lemma opened_consistent (digest : String → String) (initial : Store) (file : Option Store) :
    Consistent digest { initial, file } :=
  ⟨nofun,nofun,by rintro _ _ (⟨⟨⟩⟩ | ⟨⟨⟩⟩)⟩

/-- Save calls that do not overlap meet the condition. -/
lemma inOrderRun_of_alone (initial : Store) (file : Option Store) (moves : List SaveMove)
    (alone : AloneRun digest { initial, file } moves) : InOrderRun digest { initial, file } moves :=
  alone.inOrder moves (opened_consistent digest initial file) nofun

end FileStore

/-- In every interleaving in which calls replace the file in order, and in every state of it, the file
has the updates completed before the beginning of each call that returned without error. -/
theorem save_keeps_updates (digest : String → String) (initial : Store) (file : Option Store) (moves : List SaveMove)
    (order : FileStore.InOrderRun digest { initial, file } moves) :
    ∀ reached, reached <+: moves → (FileStore.run digest { initial, file } reached).Kept digest := by
  rintro reached ⟨later,rfl⟩ id begun returned
  have start := FileStore.opened_consistent digest initial file
  exact (start.run reached (order.start reached later)).replaced id begun (.inr returned)

/-- Two calls that are under way at the same time: the first exports before an update and the second
behind it, and they replace the file in this order. -/
def overlappingSaves : List SaveMove :=
  [.update {} (.addEvent { id := "e1" }),.begin 0,.begin 1,.exportState 0 none,.update {} (.addEvent { id := "e2" }),
    .exportState 1 none,.rename 0 .done,.finish 0,.rename 1 .done,.finish 1]

theorem overlapping_saves_kept : FileStore.InOrderRun id { initial := {} } overlappingSaves ∧
      (FileStore.run id { initial := {} } overlappingSaves).phase 0 = .returned 1 none ∧
      (FileStore.run id { initial := {} } overlappingSaves).phase 1 = .returned 1 none ∧
      ∀ reached, reached <+: overlappingSaves → (FileStore.run id { initial := {} } reached).Kept id := by
  have order : FileStore.InOrderRun id { initial := {} } overlappingSaves := by
    refine ⟨trivial,trivial,trivial,trivial,trivial,trivial,?_,trivial,?_,trivial,trivial⟩
    · rintro - begun version state - (_ | _ | other) earlier (⟨⟨⟩⟩ | ⟨⟨⟩⟩)
    · rintro - begun version state ⟨⟩ (_ | _ | other) earlier (⟨⟨⟩⟩ | ⟨⟨⟩⟩)
      decide
  exact ⟨order,rfl,rfl,save_keeps_updates id {} none overlappingSaves order⟩

def lateRename : List SaveMove :=
  [.begin 0,.exportState 0 none,.update {} (.addEvent { id := "e1" }),.begin 1,.exportState 1 none,
    .rename 1 .done,.finish 1,.rename 0 .done,.finish 0]

theorem late_rename_loses_update : (FileStore.run id { initial := {} } lateRename).phase 1 = .returned 1 none ∧
      (FileStore.run id { initial := {} } lateRename).file = some {} ∧
      ¬ (FileStore.run id { initial := {} } lateRename).Kept id := by
  refine ⟨rfl,rfl,fun kept => ?_⟩
  obtain ⟨count,low,high,same⟩ := kept 1 1 rfl
  obtain rfl : count = 1 := le_antisymm high low
  have events := congrArg (Option.map Store.events) same
  cases events

end SysArmor.Manager
