import Mathlib.Data.List.AList
import Mathlib.Data.List.Induction

/-! Merging a list into a map by a key and taking the values out again: the last item of each
key stays, items without a key are left out. -/
namespace SysArmor.KeyedMerge
open List

variable {κ : Type} [DecidableEq κ]

def collect (key : α → Option κ) (items : List α) : AList (fun _ : κ => α) :=
  items.foldl (fun found item => match key item with
    | none => found
    | some name => found.insert name item) ∅

def mergeByKey (key : α → Option κ) (items : List α) : List α :=
  (collect key items).entries.map Sigma.snd

variable {key : α → Option κ} {items : List α}

lemma lookup_collect (key : α → Option κ) (items : List α) (name : κ) :
    (collect key items).lookup name = items.reverse.find? (key · = some name) := by
  induction items using List.reverseRecOn with
  | nil => simp [collect]
  | append_singleton items item ih =>
    have step : collect key (items ++ [item]) = match key item with
        | none => collect key items
        | some other => (collect key items).insert other item := by simp [collect]
    rw [step,reverse_append,reverse_singleton,singleton_append,find?_cons]
    cases keyed : key item with
    | none => simpa using ih
    | some other =>
      by_cases same : other = name
      · subst same
        simp
      · simpa [same,AList.lookup_insert_ne (Ne.symm same)] using ih

lemma mem_mergeByKey : item ∈ mergeByKey key items ↔ ∃ name, items.reverse.find? (key · = some name) = some item := by
  simp only [mergeByKey,mem_map,← lookup_collect key items]
  constructor
  · rintro ⟨⟨name,_⟩,stored,rfl⟩
    exact ⟨name,AList.mem_lookup_iff.mpr stored⟩
  · rintro ⟨name,stored⟩
    exact ⟨⟨name,item⟩,AList.mem_lookup_iff.mp stored,rfl⟩

lemma mem_of_mem_mergeByKey (kept : item ∈ mergeByKey key items) : item ∈ items := by
  obtain ⟨name,found⟩ := mem_mergeByKey.mp kept
  exact mem_reverse.mp (mem_of_find?_eq_some found)

lemma exists_mem_mergeByKey (mem : item ∈ items) (keyed : key item = some name) :
    ∃ kept ∈ mergeByKey key items, key kept = some name := by
  have found : (items.reverse.find? (key · = some name)).isSome := by
    rw [find?_isSome]
    exact ⟨item,by simpa using mem,by simpa using keyed⟩
  obtain ⟨kept,found⟩ := Option.isSome_iff_exists.mp found
  exact ⟨kept,mem_mergeByKey.mpr ⟨name,found⟩,by simpa using find?_some found⟩

lemma mergeByKey_key_injective (left : a ∈ mergeByKey key items) (right : b ∈ mergeByKey key items)
    (same : key a = key b) : a = b := by
  obtain ⟨name,leftFound⟩ := mem_mergeByKey.mp left
  obtain ⟨other,rightFound⟩ := mem_mergeByKey.mp right
  have leftKey : key a = some name := by simpa using find?_some leftFound
  have rightKey : key b = some other := by simpa using find?_some rightFound
  obtain rfl : name = other := Option.some.inj (leftKey ▸ same ▸ rightKey)
  exact Option.some.inj (leftFound ▸ rightFound)

lemma mergeByKey_represents_iff (origin : α → ω) (keyed : ∀ item ∈ items, (key item).isSome)
    (determined : ∀ a ∈ items, ∀ b ∈ items, origin a = origin b → key a = key b) :
    (∀ item ∈ items, ∃ kept ∈ mergeByKey key items, origin kept = origin item) ↔
      ∀ a ∈ items, ∀ b ∈ items, key a = key b → origin a = origin b := by
  constructor
  · intro represented a aMember b bMember same
    obtain ⟨keptA,storedA,originA⟩ := represented a aMember
    obtain ⟨keptB,storedB,originB⟩ := represented b bMember
    have keyA := determined keptA (mem_of_mem_mergeByKey storedA) a aMember originA
    have keyB := determined keptB (mem_of_mem_mergeByKey storedB) b bMember originB
    have one : keptA = keptB := mergeByKey_key_injective storedA storedB (by rw [keyA,keyB,same])
    rw [← originA,← originB,one]
  · intro separated item mem
    obtain ⟨name,found⟩ := Option.isSome_iff_exists.mp (keyed item mem)
    obtain ⟨kept,stored,keptKey⟩ := exists_mem_mergeByKey mem found
    exact ⟨kept,stored,separated kept (mem_of_mem_mergeByKey stored) item mem (keptKey.trans found.symm)⟩

lemma key_of_mem_entries {entry : Sigma fun _ : κ => α} (stored : entry ∈ (collect key items).entries) :
    key entry.2 = some entry.1 := by
  have found : (collect key items).lookup entry.1 = some entry.2 := AList.mem_lookup_iff.mpr stored
  rw [lookup_collect] at found
  simpa using find?_some found

lemma mergeByKey_pairwise : (mergeByKey key items).Pairwise fun a b => key a ≠ key b := by
  rw [mergeByKey,pairwise_map]
  have distinct : (collect key items).entries.Pairwise fun a b => a.1 ≠ b.1 := nodupKeys_iff_pairwise.mp (collect key items).nodupKeys
  refine distinct.imp_of_mem fun left right differ same => differ ?_
  rw [key_of_mem_entries left,key_of_mem_entries right] at same
  exact Option.some.inj same

/-! A history may be read in any order, and a map has none: what a merge of a history with current items may
give. -/

structure Selects (key : α → Option κ) (history current out : List α) : Prop where
  kept : ∀ item ∈ out, ∃ name, key item = some name ∧ (current.reverse.find? (key · = some name) = some item ∨
    (∀ other ∈ current, key other ≠ some name) ∧ item ∈ history)
  once : out.Pairwise fun a b => key a ≠ key b
  every : ∀ item ∈ history ++ current, ∀ name, key item = some name → ∃ chosen ∈ out, key chosen = some name

variable {history current out : List α}

lemma mem_mergeByKey_append : item ∈ mergeByKey key (history ++ current) ↔ ∃ name,
    current.reverse.find? (key · = some name) = some item ∨
      (∀ other ∈ current, key other ≠ some name) ∧ history.reverse.find? (key · = some name) = some item := by
  rw [mem_mergeByKey]
  refine exists_congr fun name => ?_
  rw [reverse_append,find?_append,Option.or_eq_some_iff,find?_eq_none]
  simp

lemma selects_mergeByKey {arrived : List α} (order : arrived.Perm history)
    (iterated : out.Perm (mergeByKey key (arrived ++ current))) : Selects key history current out where
  kept item mem := by
    obtain ⟨name,found⟩ := mem_mergeByKey_append.mp (iterated.mem_iff.mp mem)
    refine ⟨name,?_,?_⟩
    · rcases found with found | ⟨-,found⟩ <;> simpa using find?_some found
    · refine found.imp_right fun ⟨fresh,found⟩ => ⟨fresh,order.mem_iff.mp ?_⟩
      exact mem_reverse.mp (mem_of_find?_eq_some found)
  once := iterated.symm.pairwise mergeByKey_pairwise fun differ => Ne.symm differ
  every item mem name keyed := by
    have present : item ∈ arrived ++ current := by
      rw [mem_append,order.mem_iff]
      exact mem_append.mp mem
    obtain ⟨chosen,kept,same⟩ := exists_mem_mergeByKey present keyed
    exact ⟨chosen,iterated.mem_iff.mpr kept,same⟩

section
variable (selects : Selects key history current out)
include selects

lemma Selects.chosen (mem : item ∈ history ++ current)
    (keyed : key item = some name) : ∃ chosen ∈ out, key chosen = some name ∧
      (current.reverse.find? (key · = some name) = some chosen ∨
        (∀ other ∈ current, key other ≠ some name) ∧ chosen ∈ history) := by
  obtain ⟨chosen,kept,same⟩ := selects.every item mem name keyed
  obtain ⟨other,keyed,origin⟩ := selects.kept chosen kept
  obtain rfl : other = name := Option.some.inj (keyed.symm.trans same)
  exact ⟨chosen,kept,same,origin⟩

lemma Selects.mem (mem : item ∈ out) : item ∈ history ++ current := by
  obtain ⟨name,-,last | ⟨-,old⟩⟩ := selects.kept item mem
  · exact mem_append_right _ (mem_reverse.mp (mem_of_find?_eq_some last))
  · exact mem_append_left _ old

lemma Selects.mem_of_mem (again : Selects key history current other)
    (distinct : ∀ a ∈ history, ∀ b ∈ history, key a = key b → (key a).isSome → a = b) (mem : item ∈ out) : item ∈ other := by
  obtain ⟨name,keyed,origin⟩ := selects.kept item mem
  obtain ⟨chosen,kept,same,choice⟩ := again.chosen (selects.mem mem) keyed
  rcases origin with last | ⟨fresh,old⟩ <;> rcases choice with last' | ⟨fresh',old'⟩
  · cases last.symm.trans last'
    exact kept
  · exact absurd keyed (fresh' item (mem_reverse.mp (mem_of_find?_eq_some last)))
  · exact absurd same (fresh chosen (mem_reverse.mp (mem_of_find?_eq_some last')))
  · rw [distinct item old chosen old' (keyed.trans same.symm) (by simp [keyed])]
    exact kept

lemma Selects.nodup : out.Nodup :=
  selects.once.imp fun differ same => differ (congrArg key same)

lemma Selects.unique (again : Selects key history current other)
    (distinct : ∀ a ∈ history, ∀ b ∈ history, key a = key b → (key a).isSome → a = b) : out.Perm other :=
  (perm_ext_iff_of_nodup selects.nodup again.nodup).mpr fun _ =>
    ⟨selects.mem_of_mem again distinct,again.mem_of_mem selects distinct⟩

end

lemma Selects.extend {later : List α} (selects : Selects key later current out)
    (added : ∀ item ∈ later, item ∈ history ∨ ∃ other ∈ current, key other = key item)
    (lost : ∀ item ∈ history, item ∈ later ∨ ∃ other ∈ current, key other = key item) : Selects key history current out where
  kept item mem := by
    obtain ⟨name,keyed,last | ⟨fresh,old⟩⟩ := selects.kept item mem
    · exact ⟨name,keyed,.inl last⟩
    rcases added item old with old | ⟨other,present,same⟩
    · exact ⟨name,keyed,.inr ⟨fresh,old⟩⟩
    · exact absurd (same.trans keyed) (fresh other present)
  once := selects.once
  every item mem name keyed := by
    rcases mem_append.mp mem with old | present
    · rcases lost item old with still | ⟨other,present,same⟩
      · exact selects.every item (mem_append_left _ still) name keyed
      · exact selects.every other (mem_append_right _ present) name (same.trans keyed)
    · exact selects.every item (mem_append_right _ present) name keyed

end SysArmor.KeyedMerge
