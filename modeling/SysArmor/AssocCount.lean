import Mathlib.Data.Finmap

/-! Where an entry of an association list comes from after an insertion, how many entries satisfy a
predicate, and what an insertion or a removal does to that number. -/
namespace SysArmor.AssocCount
open List

variable {κ β : Type} [DecidableEq κ] {p : β → Bool}

lemma lookup_insert_cases {table : AList fun _ : κ => β} {key other : κ} {value found : β}
    (here : (table.insert key value).lookup other = some found) :
    other = key ∧ value = found ∨ table.lookup other = some found := by
  by_cases same : other = key
  · subst same
    rw [AList.lookup_insert] at here
    exact .inl ⟨rfl,Option.some.inj here⟩
  · rw [AList.lookup_insert_ne same] at here
    exact .inr here

/-- The number of entries whose value satisfies `p`. -/
def tally (p : β → Bool) (table : AList fun _ : κ => β) : Nat := table.entries.countP fun entry => p entry.2

omit [DecidableEq κ] in
@[simp] lemma tally_empty : tally p (∅ : AList fun _ : κ => β) = 0 := rfl

lemma erase_of_lookup_none {table : AList fun _ : κ => β} {key : κ} (missing : table.lookup key = none) :
    table.erase key = table := by
  apply AList.ext
  exact kerase_of_notMem_keys (AList.lookup_eq_none.mp missing)

private lemma countP_kerase (entries : List (Sigma fun _ : κ => β)) (key : κ) (value : β)
    (found : entries.dlookup key = some value) :
    (entries.kerase key).countP (fun entry => p entry.2) + (if p value then 1 else 0) =
      entries.countP fun entry => p entry.2 := by
  induction entries with
  | nil => cases found
  | cons entry entries ih =>
    obtain ⟨other,stored⟩ := entry
    by_cases same : key = other
    · subst same
      rw [dlookup_cons_eq] at found
      obtain rfl := Option.some.inj found
      have tail : List.kerase key (⟨key,stored⟩ :: entries) = entries := kerase_cons_eq rfl
      rw [tail,countP_cons]
    · rw [dlookup_cons_ne _ _ same] at found
      have removed := ih found
      rw [kerase_cons_ne same,countP_cons,countP_cons]
      omega

lemma tally_erase {table : AList fun _ : κ => β} {key : κ} {value : β} (found : table.lookup key = some value) :
    tally p (table.erase key) + (if p value then 1 else 0) = tally p table :=
  countP_kerase table.entries key value found

lemma tally_insert (table : AList fun _ : κ => β) (key : κ) (value : β) :
    tally p (table.insert key value) = tally p (table.erase key) + (if p value then 1 else 0) := by
  simp [tally,countP_cons,AList.erase]

lemma tally_pos {table : AList fun _ : κ => β} {key : κ} {value : β}
    (found : table.lookup key = some value) (holds : p value) : 0 < tally p table := by
  have removed := tally_erase (p := p) found
  rw [if_pos holds] at removed
  omega

end SysArmor.AssocCount
