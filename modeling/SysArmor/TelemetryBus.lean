import Mathlib.Data.List.Induction

/-! The bus from the agent's telemetry to its watchers, of events or of signals: a ring of recent frames
and a channel for each watcher. Publishers and watchers take turns in any order. -/
namespace SysArmor.Telemetry
open List

/-- A channel: what was sent on it, how much of this was taken, and how much when the bus closed it. -/
structure Watcher (α : Type) where
  sent : List α := []
  taken : Nat := 0
  closed : Option Nat := none

/-- Watchers are numbered as they came. -/
structure Bus (α : Type) where
  capacity : Nat
  positive : 0 < capacity
  frames : List α := []
  watchers : List (Watcher α) := []
  dropped : UInt64 := 0

inductive BusStep (α : Type) where
  | publish (frame : α)
  | watch
  | take (id : Nat)
  | done (id : Nat)

def newBus (capacity : Int) : Bus α where
  capacity := if capacity ≤ 0 then 4096 else capacity.toNat
  positive := by split <;> omega

/-- A send does not wait: a full channel is closed. -/
def Watcher.send (frame : α) (w : Watcher α) : Watcher α :=
  if w.closed.isSome then w
  else if w.sent.length < w.taken + 256 then { w with sent := w.sent ++ [frame] }
  else { w with closed := some w.taken }

def Bus.step (b : Bus α) : BusStep α → Bus α
  | .publish frame =>
    let b := { b with watchers := b.watchers.map (Watcher.send frame) }
    if b.frames.length ≥ b.capacity then { b with frames := b.frames.tail ++ [frame], dropped := b.dropped + 1 }
    else { b with frames := b.frames ++ [frame] }
  | .watch => { b with watchers := b.watchers ++ [{}] }
  | .take id => { b with watchers := b.watchers.modify id fun w => { w with taken := min (w.taken + 1) w.sent.length } }
  | .done id => { b with watchers := b.watchers.modify id fun w => { w with closed := w.closed <|> some w.taken } }

def Bus.run (b : Bus α) (steps : List (BusStep α)) : Bus α := steps.foldl Bus.step b

@[simp] def BusStep.frame : BusStep α → List α
  | .publish frame => [frame]
  | _ => []

variable {w : Watcher α} {b : Bus α} {id : Nat}

/-- What a watcher got of the frames published since it came. -/
structure Watcher.Sees (frames : List α) (gone : Prop) (w : Watcher α) : Prop where
  gapless : w.sent <+: frames
  all : w.closed = none → w.sent = frames
  left : ∀ taken ∈ w.closed, gone ∨ taken + 256 ≤ w.sent.length

lemma Watcher.Sees.send (sees : w.Sees frames gone) (frame : α) : (w.send frame).Sees (frames ++ [frame]) gone := by
  have longer := sees.gapless.trans (prefix_append frames [frame])
  unfold Watcher.send
  split_ifs with closed room
  · exact ⟨longer,fun none => by simp [none] at closed,sees.left⟩
  · have all := sees.all (by simpa using closed)
    exact ⟨by simp [all],by simp [all],by simp_all⟩
  · exact ⟨longer,by simp,by simp; omega⟩

lemma Watcher.Sees.step (sees : w.Sees frames gone) (here : b.watchers[id]? = some w) (step : BusStep α) :
    ∃ next, (b.step step).watchers[id]? = some next ∧ next.Sees (frames ++ step.frame) (gone ∨ .done id = step) := by
  cases step with
  | publish frame =>
    refine ⟨w.send frame,?_,by simpa using sees.send frame⟩
    simp only [Bus.step]
    split <;> simp [here]
  | watch =>
    refine ⟨w,?_,by simpa using sees⟩
    rw [Bus.step,getElem?_append_left (List.getElem?_eq_some_iff.mp here).1,here]
  | take other =>
    refine ⟨_,by rw [Bus.step,getElem?_modify,here]; rfl,?_⟩
    by_cases same : other = id <;> simpa [same] using ⟨sees.gapless,sees.all,sees.left⟩
  | done other =>
    refine ⟨_,by rw [Bus.step,getElem?_modify,here]; rfl,?_⟩
    by_cases same : other = id
    · exact ⟨by simpa [same] using sees.gapless,by simp [same],by simp [same]⟩
    · simpa [same,Ne.symm same] using sees

/-- A watcher gets each frame published since it came, once and in order, until it is done or 256 frames
wait for it. -/
theorem watch_sees (b : Bus α) (steps : List (BusStep α)) :
    ∃ w, (b.run (.watch :: steps)).watchers[b.watchers.length]? = some w ∧
      w.Sees (steps.flatMap BusStep.frame) (.done b.watchers.length ∈ steps) := by
  -- From the end of the run: its last step keeps what the watcher saw before.
  induction steps using reverseRecOn with
  | nil => exact ⟨{},by simp [Bus.run,Bus.step],by simp,by simp,by simp⟩
  | append_singleton steps step ih =>
    obtain ⟨w,here,sees⟩ := ih
    obtain ⟨next,there,sees⟩ := sees.step here step
    exact ⟨next,by simpa [Bus.run] using there,by simpa using sees⟩

/-- A ring that lost and counted the oldest frames, and none while it had room. -/
structure Bus.Keeps (published lost : List α) (b : Bus α) : Prop where
  recent : published = lost ++ b.frames
  counted : b.dropped = UInt64.ofNat lost.length
  full : lost = [] ∧ b.frames.length ≤ b.capacity ∨ b.frames.length = b.capacity

lemma Bus.Keeps.publish (keeps : b.Keeps published lost) (frame : α) :
    ∃ lost, (b.step (.publish frame)).Keeps (published ++ [frame]) lost := by
  obtain ⟨rfl,counted,full⟩ := keeps
  have positive := b.positive
  simp only [Bus.step]
  split
  case isTrue reached =>
    obtain ⟨oldest,rest,held⟩ := exists_cons_of_length_pos (Nat.lt_of_lt_of_le positive reached)
    exact ⟨lost ++ [oldest],by simp [held],by simp [counted,UInt64.ofNat_add],.inr (by simp; omega)⟩
  case isFalse roomy =>
    have none : lost = [] := (full.resolve_right (by omega)).1
    exact ⟨lost,by simp,counted,.inl ⟨none,by simp; omega⟩⟩

theorem ring_recent (capacity : Int) (steps : List (BusStep α)) :
    ∃ lost, ((newBus capacity).run steps).Keeps (steps.flatMap BusStep.frame) lost := by
  induction steps using reverseRecOn with
  | nil => exact ⟨[],rfl,rfl,.inl ⟨rfl,Nat.zero_le _⟩⟩
  | append_singleton steps step ih =>
    obtain ⟨lost,keeps⟩ := ih
    simp only [Bus.run,foldl_append,flatMap_append,flatMap_singleton]
    cases step with
    | publish frame => exact keeps.publish frame
    | _ => exact ⟨lost,(append_nil _).trans keeps.recent,keeps.counted,keeps.full⟩

end SysArmor.Telemetry
