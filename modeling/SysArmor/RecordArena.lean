import Mathlib.Data.List.Basic
import Mathlib.Logic.Function.Iterate

/-! Mutable records behind addresses: an arena holds them in the order of their allocation, and a loop
rewrites the records at a list of addresses, each with the next mark. -/
namespace Arena
open List

def allocate (arena values : List α) : List α × List Nat :=
  (arena ++ values,List.range' arena.length values.length)

def contents (arena : List α) (addresses : List Nat) : List α := addresses.filterMap (arena[·]?)

def rewrite (mark : β → α → α) (next : β → β) : List α → List Nat → β → List α × β
  | arena,[],count => (arena,count)
  | arena,address :: rest,count => rewrite mark next (arena.modify address (mark count)) rest (next count)

def marked (mark : β → α → α) (next : β → β) : List α → β → List α
  | [],_ => []
  | value :: rest,count => mark count value :: marked mark next rest (next count)

section
variable {α β : Type} {arena more values : List α} {addresses : List Nat} {mark : β → α → α} {next : β → β}

lemma contents_append (inside : ∀ address ∈ addresses, address < arena.length) :
    contents (arena ++ more) addresses = contents arena addresses :=
  filterMap_congr fun address mem => getElem?_append_left (inside address mem)

lemma contents_allocate (arena values : List α) : contents (allocate arena values).1 (allocate arena values).2 = values := by
  simp only [contents,allocate]
  induction values generalizing arena with
  | nil => rfl
  | cons value rest ih =>
    have later := ih (arena ++ [value])
    rw [append_assoc,singleton_append,length_append,length_singleton] at later
    simp only [length_cons,List.range'_succ,filterMap_cons]
    rw [later]
    simp

lemma mem_allocate_iff {address : Nat} :
    address ∈ (allocate arena values).2 ↔ arena.length ≤ address ∧ address < (allocate arena values).1.length := by
  simp [allocate,mem_range'_1]

lemma allocate_nodup (arena values : List α) : (allocate arena values).2.Nodup := nodup_range'

@[simp] lemma rewrite_length (arena : List α) (addresses : List Nat) (count : β) :
    (rewrite mark next arena addresses count).1.length = arena.length := by
  induction addresses generalizing arena count with
  | nil => rfl
  | cons address rest ih => simp [rewrite,ih]

lemma rewrite_other {other : Nat} (outside : other ∉ addresses) (arena : List α) (count : β) :
    (rewrite mark next arena addresses count).1[other]? = arena[other]? := by
  induction addresses generalizing arena count with
  | nil => rfl
  | cons address rest ih =>
    rw [mem_cons,not_or] at outside
    rw [rewrite,ih outside.2,getElem?_modify_ne _ _ (Ne.symm outside.1)]

lemma contents_rewrite_other {others : List Nat} (apart : ∀ other ∈ others, other ∉ addresses) (arena : List α)
    (count : β) : contents (rewrite mark next arena addresses count).1 others = contents arena others :=
  filterMap_congr fun other mem => rewrite_other (apart other mem) arena count

lemma contents_rewrite (nodup : addresses.Nodup) (inside : ∀ address ∈ addresses, address < arena.length) (count : β) :
    contents (rewrite mark next arena addresses count).1 addresses = marked mark next (contents arena addresses) count := by
  induction addresses generalizing arena count with
  | nil => rfl
  | cons address rest ih =>
    obtain ⟨outside,nodup⟩ := nodup_cons.mp nodup
    have here : address < arena.length := inside address (by simp)
    have first : (rewrite mark next (arena.modify address (mark count)) rest (next count)).1[address]? =
        some (mark count arena[address]) := by
      rw [rewrite_other outside]
      simp [here]
    have unchanged : contents (arena.modify address (mark count)) rest = contents arena rest :=
      filterMap_congr fun other mem =>
        getElem?_modify_ne _ _ fun same : address = other => outside (same ▸ mem)
    have later := @ih (arena.modify address (mark count)) nodup
      (fun other mem => by simpa using inside other (by simp [mem])) (next count)
    rw [unchanged] at later
    simp only [contents,rewrite,filterMap_cons,first,getElem?_eq_getElem here,marked] at later ⊢
    rw [later]

lemma rewrite_count (arena : List α) (addresses : List Nat) (count : β) :
    (rewrite mark next arena addresses count).2 = next^[addresses.length] count := by
  induction addresses generalizing arena count with
  | nil => rfl
  | cons address rest ih => simp [rewrite,ih]

end

end Arena
