import Mathlib.Data.List.Basic
import Mathlib.Data.List.Nodup

/-! Tables kept as slices: a loop finds the first row that passes a test, changes it in place and
stops. When no row passes, a fresh one may be appended. -/
namespace SysArmor.Rows
open List

section

def updateFirst (hit : α → Bool) (change : α → α) : List α → List α
  | [] => []
  | row :: rows => if hit row then change row :: rows else row :: updateFirst hit change rows

def upsert (hit : α → Bool) (change : α → α) (fresh : α) (rows : List α) : List α :=
  if rows.any hit then updateFirst hit change rows else rows ++ [fresh]

/-- Writing rows into a table with a unique key, one after the other: each replaces the row of its
key (`INSERT ... ON CONFLICT DO UPDATE`). -/
def project {κ : Type} [DecidableEq κ] (key : α → κ) (rows table : List α) : List α :=
  rows.foldl (fun table row => table.filter (key · ≠ key row) ++ [row]) table

def ChangesOnly (own : α → Prop) (before after : List α) : Prop :=
  ∀ place : Nat, before[place]? = after[place]? ∨ (∀ row ∈ before[place]?, own row) ∧ ∀ row ∈ after[place]?, own row

/-- The rows of a table that come and those that go are owned. -/
def ChangesRows (own : α → Prop) (before after : List α) : Prop :=
  (∀ row ∈ after, row ∈ before ∨ own row) ∧ ∀ row ∈ before, row ∈ after ∨ own row

/-- Rows that can be written into a table without touching what is not owned: each is owned or stored as it
is, and no key of an owned row is that of another one. -/
def Mirrors {κ : Type} (own : α → Prop) (key : α → κ) (rows table : List α) : Prop :=
  (∀ row ∈ rows, own row ∨ row ∈ table ∧ ∀ stored ∈ table, key stored = key row → stored = row ∨ own stored) ∧
    ∀ row ∈ rows ++ table, own row → ∀ stored ∈ table, key stored = key row → own stored

instance {κ : Type} [DecidableEq α] [DecidableEq κ] {own : α → Prop} [DecidablePred own] {key : α → κ} {rows table : List α} :
    Decidable (Mirrors own key rows table) := inferInstanceAs (Decidable (_ ∧ _))

variable {hit : α → Bool} {change : α → α} {rows : List α} {fresh row : α}

lemma updateFirst_of_find? (change : α → α) (found : rows.find? hit = some old) :
    ∃ before after, rows = before ++ old :: after ∧ (∀ row ∈ before, hit row = false) ∧ hit old ∧
      updateFirst hit change rows = before ++ change old :: after := by
  induction rows with
  | nil => simp at found
  | cons head rows ih =>
    by_cases passes : hit head
    · obtain rfl : head = old := by simpa [passes] using found
      exact ⟨[],rows,rfl,by simp,passes,by simp [updateFirst,passes]⟩
    obtain ⟨before,after,same,misses,hits,updated⟩ := ih (by simpa [passes] using found)
    refine ⟨head :: before,after,by simp [same],?_,hits,by simp [updateFirst,passes,updated]⟩
    intro row mem
    rcases mem_cons.mp mem with rfl | mem
    · simpa using passes
    · exact misses row mem

lemma updateFirst_of_find?_none (missing : rows.find? hit = none) : updateFirst hit change rows = rows := by
  induction rows with
  | nil => rfl
  | cons head rows ih =>
    have misses : hit head = false ∧ ∀ row ∈ rows, hit row = false := by simpa using missing
    have rest : rows.find? hit = none := by simpa using misses.2
    simp [updateFirst,misses.1,ih rest]

lemma getElem?_updateFirst (found : rows.find? hit = some old) (change : α → α) :
    ∃ place : Nat, rows.findIdx? hit = some place ∧ rows[place]? = some old ∧
      ∀ other : Nat, (updateFirst hit change rows)[other]? = if other = place then some (change old) else rows[other]? := by
  obtain ⟨before,after,rfl,misses,hits,updated⟩ := updateFirst_of_find? change found
  have first : (before ++ old :: after).findIdx? hit = some before.length := by
    rw [findIdx?_append,findIdx?_eq_none_iff.mpr misses]
    simp [findIdx?_cons,hits]
  refine ⟨before.length,first,by simp,fun other => ?_⟩
  rw [updated]
  rcases Nat.lt_trichotomy other before.length with less | rfl | greater
  · rw [if_neg (Nat.ne_of_lt less),getElem?_append_left less,getElem?_append_left less]
  · simp
  obtain ⟨gap,rfl⟩ := Nat.exists_eq_add_of_lt greater
  rw [if_neg (by omega),getElem?_append_right (by omega),getElem?_append_right (by omega)]
  simp [Nat.add_assoc]

lemma mem_updateFirst (mem : row ∈ updateFirst hit change rows) :
    row ∈ rows ∨ ∃ old, rows.find? hit = some old ∧ row = change old := by
  cases found : rows.find? hit with
  | none => exact .inl (updateFirst_of_find?_none found ▸ mem)
  | some old =>
    obtain ⟨before,after,rfl,_,_,updated⟩ := updateFirst_of_find? change found
    rw [updated] at mem
    simp only [mem_append,mem_cons] at mem ⊢
    tauto

lemma mem_updateFirst_of_ne (mem : row ∈ rows) (other : rows.find? hit ≠ some row) : row ∈ updateFirst hit change rows := by
  cases found : rows.find? hit with
  | none => exact (updateFirst_of_find?_none found).symm ▸ mem
  | some old =>
    obtain ⟨before,after,rfl,_,_,updated⟩ := updateFirst_of_find? change found
    have ne : row ≠ old := fun same => other (same ▸ found)
    rw [updated]
    simp only [mem_append,mem_cons,ne,false_or] at mem ⊢
    tauto

section ChangesOnly
variable {own : α → Prop} {old between after : List α}

lemma ChangesOnly.refl (rows : List α) : ChangesOnly own rows rows := fun _ => .inl rfl

lemma ChangesOnly.trans (first : ChangesOnly own before between) (second : ChangesOnly own between after) :
    ChangesOnly own before after := by
  intro place
  rcases first place with same | ⟨old,new⟩
  · rw [same]
    exact second place
  rcases second place with same | ⟨_,last⟩
  · exact .inr ⟨old,same ▸ new⟩
  · exact .inr ⟨old,last⟩

lemma ChangesOnly.cons (head : row = row' ∨ own row ∧ own row') (tail : ChangesOnly own before after) :
    ChangesOnly own (row :: before) (row' :: after) := by
  intro place
  cases place with
  | zero =>
    rcases head with rfl | ⟨old,new⟩
    · exact .inl rfl
    · exact .inr ⟨by simpa using old,by simpa using new⟩
  | succ place => exact tail place

lemma ChangesOnly.mem (changes : ChangesOnly own old after) (mem : row ∈ after) : row ∈ old ∨ own row := by
  obtain ⟨place,found⟩ := mem_iff_getElem?.mp mem
  rcases changes place with same | ⟨_,new⟩
  · exact .inl (mem_iff_getElem?.mpr ⟨place,same.trans found⟩)
  · exact .inr (new row found)

lemma changesOnly_updateFirst (owned : ∀ old, rows.find? hit = some old → own old ∧ own (change old)) :
    ChangesOnly own rows (updateFirst hit change rows) := by
  induction rows with
  | nil => exact .refl _
  | cons head rows ih =>
    rw [updateFirst]
    split
    · rename_i passes
      exact .cons (.inr (owned head (by simp [passes]))) (.refl rows)
    rename_i misses
    apply ChangesOnly.cons (.inl rfl)
    apply ih
    intro old found
    exact owned old (by simpa [misses] using found)

lemma changesOnly_append (owned : own fresh) : ChangesOnly own rows (rows ++ [fresh]) := by
  induction rows with
  | nil =>
    intro place
    cases place with
    | zero => exact .inr ⟨by simp,by simpa using owned⟩
    | succ place => exact .inl rfl
  | cons head rows ih => exact .cons (.inl rfl) ih

end ChangesOnly

lemma upsert_of_find? (found : rows.find? hit = some old) : upsert hit change fresh rows = updateFirst hit change rows := by
  have hits : rows.any hit := by
    rw [any_eq_true]
    exact ⟨old,mem_of_find?_eq_some found,find?_some found⟩
  simp [upsert,hits]

lemma upsert_of_find?_none (missing : rows.find? hit = none) : upsert hit change fresh rows = rows ++ [fresh] := by
  have misses : rows.any hit = false := by simpa [any_eq_false] using missing
  simp [upsert,misses]

lemma pairwise_upsert {apart : α → α → Prop} {new : α} (distinct : rows.Pairwise apart) (symm : ∀ a b, apart a b → apart b a)
    (clash : ∀ row, hit row = false ↔ apart row new) :
    (upsert hit (fun _ => new) new rows).Pairwise apart ↔ (rows.filter hit).length ≤ 1 := by
  cases found : rows.find? hit with
  | none =>
    have misses : ∀ row ∈ rows, hit row = false := by simpa using found
    have none : rows.filter hit = [] := filter_eq_nil_iff.mpr (by simpa using misses)
    rw [upsert_of_find?_none found,none,pairwise_append]
    simpa [distinct] using fun row mem => (clash row).mp (misses row mem)
  | some old =>
    obtain ⟨before,after,rfl,misses,hits,updated⟩ := updateFirst_of_find? (fun _ => new) found
    have none : before.filter hit = [] := filter_eq_nil_iff.mpr (by simpa using misses)
    have count : ((before ++ old :: after).filter hit).length ≤ 1 ↔ ∀ row ∈ after, hit row = false := by
      simp [none,hits]
    obtain ⟨first,rest,across⟩ := pairwise_append.mp distinct
    rw [upsert_of_find? found,updated,count,pairwise_append,pairwise_cons]
    constructor
    · rintro ⟨-,⟨others,-⟩,-⟩ row mem
      exact (clash row).mpr (symm _ _ (others row mem))
    intro others
    refine ⟨first,⟨fun row mem => symm _ _ ((clash row).mp (others row mem)),(pairwise_cons.mp rest).2⟩,?_⟩
    intro row inside other mem
    rcases mem_cons.mp mem with rfl | later
    · exact (clash row).mp (misses row inside)
    · exact across row inside other (mem_cons_of_mem _ later)

lemma mem_upsert (mem : row ∈ upsert hit change fresh rows) :
    row ∈ rows ∨ (∃ old, rows.find? hit = some old ∧ row = change old) ∨ (rows.find? hit = none ∧ row = fresh) := by
  cases found : rows.find? hit with
  | none =>
    rw [upsert_of_find?_none found,mem_append,mem_singleton] at mem
    rcases mem with mem | rfl
    · exact .inl mem
    · exact .inr (.inr ⟨rfl,rfl⟩)
  | some old =>
    rw [upsert_of_find? found] at mem
    rcases mem_updateFirst mem with mem | ⟨other,same,rfl⟩
    · exact .inl mem
    · exact .inr (.inl ⟨other,found.symm.trans same,rfl⟩)

lemma mem_upsert_new (mem : row ∈ upsert hit (fun _ => fresh) fresh rows) : row ∈ rows ∨ row = fresh := by
  rcases mem_upsert mem with kept | ⟨-,-,changed⟩ | ⟨-,changed⟩
  · exact .inl kept
  · exact .inr changed
  · exact .inr changed

lemma filter_upsert {keep : α → Bool} (skips : ∀ row, hit row → keep row = false) (changed : ∀ row, keep (change row) = false)
    (fresh_skipped : keep fresh = false) : (upsert hit change fresh rows).filter keep = rows.filter keep := by
  cases found : rows.find? hit with
  | none => rw [upsert_of_find?_none found,filter_append,filter_cons_of_neg (by simp [fresh_skipped]),filter_nil,append_nil]
  | some old =>
    obtain ⟨before,after,rfl,-,hits,updated⟩ := updateFirst_of_find? change found
    rw [upsert_of_find? found,updated]
    simp [filter_append,changed,skips old hits]

lemma changesOnly_upsert {own : α → Prop} (owned : ∀ old, rows.find? hit = some old → own old ∧ own (change old))
    (fresh_owned : rows.find? hit = none → own fresh) : ChangesOnly own rows (upsert hit change fresh rows) := by
  cases found : rows.find? hit with
  | none =>
    rw [upsert_of_find?_none found]
    exact changesOnly_append (fresh_owned found)
  | some old =>
    rw [upsert_of_find? found]
    exact changesOnly_updateFirst owned

variable {κ : Type}
variable {key : α → κ} {table : List α} {name target : κ}

lemma mem_project [DecidableEq κ]
    (mem : row ∈ project key rows table) : row ∈ rows ∨ row ∈ table ∧ ∀ written ∈ rows, key written ≠ key row := by
  induction rows generalizing table with
  | nil => exact .inr ⟨mem,by simp⟩
  | cons head rows ih =>
    rcases ih mem with written | ⟨kept,others⟩
    · exact .inl (mem_cons_of_mem _ written)
    rcases mem_append.mp kept with kept | last
    · obtain ⟨old,ne⟩ := mem_filter.mp kept
      refine .inr ⟨old,?_⟩
      intro written mem
      rcases mem_cons.mp mem with rfl | mem
      · exact fun same => of_decide_eq_true ne same.symm
      · exact others written mem
    · obtain rfl := mem_singleton.mp last
      exact .inl mem_cons_self

lemma mem_project_of_same [DecidableEq κ] (mem : row ∈ table) (same : ∀ written ∈ rows, key written = key row → written = row) :
    row ∈ project key rows table := by
  induction rows generalizing table with
  | nil => exact mem
  | cons head rows ih =>
    refine ih ?_ fun written later => same written (mem_cons_of_mem _ later)
    by_cases here : key head = key row
    · exact mem_append_right _ (mem_singleton.mpr (same head mem_cons_self here).symm)
    · exact mem_append_left _ (mem_filter.mpr ⟨mem,by simpa using Ne.symm here⟩)

section
variable {own : α → Prop} {written : α}

lemma ChangesRows.refl (table : List α) : ChangesRows own table table := ⟨fun _ => .inl,fun _ => .inl⟩

lemma ChangesRows.trans (first : ChangesRows own old between) (second : ChangesRows own between new) : ChangesRows own old new :=
  ⟨fun row mem => (second.1 row mem).elim (first.1 row) .inr,fun row mem => (first.2 row mem).elim (second.2 row) .inr⟩

lemma changesRows_write [DecidableEq κ] (owned : own written)
    (replaced : ∀ stored ∈ table, key stored = key written → own stored) : ChangesRows own table (project key [written] table) := by
  refine ⟨fun row mem => ?_,fun row mem => ?_⟩
  · rcases mem_project mem with here | ⟨there,-⟩
    · exact .inr (mem_singleton.mp here ▸ owned)
    · exact .inl there
  · by_cases same : key row = key written
    · exact .inr (replaced row mem same)
    · refine .inl (mem_project_of_same mem fun other here equal => absurd ?_ same)
      rw [← equal,mem_singleton.mp here]

lemma Mirrors.save [DecidableEq κ] (mirrors : Mirrors own key rows table) : ChangesRows own table (project key rows table) := by
  refine ⟨fun row mem => ?_,fun row mem => ?_⟩
  · rcases mem_project mem with here | ⟨there,-⟩
    · exact (mirrors.1 row here).symm.imp_left And.left
    · exact .inl there
  · by_cases owned : own row
    · exact .inr owned
    refine .inl (mem_project_of_same mem fun other here same => ?_)
    rcases mirrors.1 other here with mine | ⟨-,only⟩
    · exact absurd (mirrors.2 other (mem_append_left _ here) mine row mem same.symm) owned
    · exact ((only row mem same.symm).resolve_right owned).symm

lemma Mirrors.extend (mirrors : Mirrors own key rows table)
    (fresh : ∀ row ∈ new, row ∈ rows ∨ own row ∧ ∀ stored ∈ table, key stored = key row → own stored) :
    Mirrors own key new table := by
  refine ⟨fun row mem => (fresh row mem).elim (mirrors.1 row) fun mine => .inl mine.1,fun row mem owned => ?_⟩
  rcases mem_append.mp mem with here | there
  · exact (fresh row here).elim (fun old => mirrors.2 row (mem_append_left _ old) owned) And.right
  · exact mirrors.2 row (mem_append_right _ there) owned

lemma Mirrors.write [DecidableEq κ] (mirrors : Mirrors own key rows table) (owned : own written)
    (replaced : ∀ stored ∈ table, key stored = key written → own stored) : Mirrors own key rows (project key [written] table) := by
  have members {row : α} (mem : row ∈ project key [written] table) : row = written ∨ row ∈ table :=
    (mem_project mem).imp mem_singleton.mp And.left
  refine ⟨fun row mem => ?_,fun row mem mine stored there same => ?_⟩
  · by_cases mine : own row
    · exact .inl mine
    obtain ⟨listed,only⟩ := (mirrors.1 row mem).resolve_left mine
    refine .inr ⟨((changesRows_write owned replaced).2 row listed).resolve_right mine,fun stored there same => ?_⟩
    rcases members there with rfl | old
    · exact .inr owned
    · exact only stored old same
  · rcases members there with rfl | old
    · exact owned
    rcases mem_append.mp mem with here | table
    · exact mirrors.2 row (mem_append_left _ here) mine stored old same
    · rcases members table with rfl | listed
      · exact replaced stored old same
      · exact mirrors.2 row (mem_append_right _ listed) mine stored old same

end

/-- A row keeps its place if all that is written under its key is of its group. -/
lemma project_replaces [DecidableEq κ] (group : α → γ) (mem : row ∈ table)
    (same : ∀ written ∈ rows, key written = key row → group written = group row) :
    ∃ kept ∈ project key rows table, key kept = key row ∧ group kept = group row ∧ (kept = row ∨ kept ∈ rows) := by
  induction rows generalizing row table with
  | nil => exact ⟨row,mem,rfl,rfl,.inl rfl⟩
  | cons head rows ih =>
    by_cases here : key head = key row
    · have last : head ∈ table.filter (key · ≠ key head) ++ [head] := mem_append_right _ (mem_singleton_self _)
      have group := same head mem_cons_self here
      obtain ⟨kept,there,name,equal,origin⟩ := ih last fun written later named =>
        (same written (mem_cons_of_mem _ later) (named.trans here)).trans group.symm
      exact ⟨kept,there,name.trans here,equal.trans group,.inr (mem_cons.mpr origin)⟩
    · have stays : row ∈ table.filter (key · ≠ key head) ++ [head] :=
        mem_append_left _ (mem_filter.mpr ⟨mem,by simpa using Ne.symm here⟩)
      obtain ⟨kept,there,name,equal,origin⟩ := ih stays fun written later => same written (mem_cons_of_mem _ later)
      exact ⟨kept,there,name,equal,origin.imp_right (mem_cons_of_mem _)⟩

lemma project_nodup [DecidableEq κ] (nodup : (table.map key).Nodup) : ((project key rows table).map key).Nodup := by
  induction rows generalizing table with
  | nil => exact nodup
  | cons head rows ih =>
    apply ih
    rw [map_append,map_singleton,nodup_append]
    refine ⟨nodup.sublist (filter_sublist.map key),by simp,?_⟩
    intro other listed last isLast
    obtain ⟨row,mem,rfl⟩ := mem_map.mp listed
    rw [mem_singleton.mp isLast]
    exact of_decide_eq_true (mem_filter.mp mem).2

lemma updateFirst_map (key : α → κ) (keeps : ∀ row ∈ rows, hit row → key (change row) = key row) :
    (updateFirst hit change rows).map key = rows.map key := by
  induction rows with
  | nil => rfl
  | cons head rows ih =>
    rw [updateFirst]
    split
    · rename_i passes
      simp [keeps head mem_cons_self passes]
    · simp [ih fun row mem => keeps row (mem_cons_of_mem _ mem)]

lemma exists_mem_upsert (f : α → κ) (keeps : ∀ row ∈ rows, hit row → f (change row) = f row) (mem : row ∈ rows) :
    ∃ kept ∈ upsert hit change fresh rows, f kept = f row := by
  cases found : rows.find? hit with
  | none => exact ⟨row,by simp [upsert_of_find?_none found,mem],rfl⟩
  | some old =>
    have listed : f row ∈ (updateFirst hit change rows).map f := by
      rw [updateFirst_map f keeps]
      exact mem_map_of_mem mem
    rw [upsert_of_find? found]
    exact mem_map.mp listed

lemma upsert_map_nodup [DecidableEq κ]
    (keeps : ∀ row ∈ rows, key row = name → key (change row) = name) (named : key fresh = name) (nodup : (rows.map key).Nodup) :
    ((upsert (key · = name) change fresh rows).map key).Nodup := by
  cases found : rows.find? (key · = name) with
  | some old =>
    rwa [upsert_of_find? found,updateFirst_map key fun row mem hit => ?_]
    have same : key row = name := by simpa using hit
    rw [keeps row mem same,same]
  | none =>
    have absent : ∀ row ∈ rows, key row ≠ name := by simpa using found
    rw [upsert_of_find?_none found,map_append,nodup_append]
    refine ⟨nodup,by simp,?_⟩
    intro other listed last isLast
    obtain ⟨row,mem,rfl⟩ := mem_map.mp listed
    rw [map_singleton,mem_singleton,named] at isLast
    exact isLast ▸ absent row mem

lemma find?_updateFirst_other [DecidableEq κ]
    (keeps : ∀ row, key row = target → key (change row) = target) (other : name ≠ target) :
    (updateFirst (key · = target) change rows).find? (key · = name) = rows.find? (key · = name) := by
  induction rows with
  | nil => rfl
  | cons head rows ih =>
    rw [updateFirst]
    split
    · rename_i hit
      have here : key head = target := of_decide_eq_true hit
      rw [find?_cons_of_neg (by simpa [keeps head here] using other.symm),
        find?_cons_of_neg (by simpa [here] using other.symm)]
    · simp only [find?_cons,ih]

lemma find?_updateFirst_same [DecidableEq κ] (found : rows.find? (key · = target) = some old)
    (keeps : key (change old) = target) :
    (updateFirst (key · = target) change rows).find? (key · = target) = some (change old) := by
  obtain ⟨before,after,rfl,misses,_,updated⟩ := updateFirst_of_find? change found
  rw [updated,find?_append,find?_eq_none.mpr (by simpa using misses)]
  simp [keeps]

lemma find?_upsert_other [DecidableEq κ]
    (keeps : ∀ row, key row = target → key (change row) = target) (named : key fresh = target) (other : name ≠ target) :
    (upsert (key · = target) change fresh rows).find? (key · = name) = rows.find? (key · = name) := by
  cases found : rows.find? (key · = target) with
  | some old => rw [upsert_of_find? found,find?_updateFirst_other keeps other]
  | none =>
    rw [upsert_of_find?_none found,find?_append,find?_cons_of_neg (by simpa [named] using other.symm)]
    simp

lemma find?_upsert_same [DecidableEq κ]
    (keeps : ∀ old, rows.find? (key · = target) = some old → key (change old) = target) (named : key fresh = target) :
    (upsert (key · = target) change fresh rows).find? (key · = target) =
      some (((rows.find? (key · = target)).map change).getD fresh) := by
  cases found : rows.find? (key · = target) with
  | some old =>
    rw [upsert_of_find? found,find?_updateFirst_same found (keeps old found)]
    rfl
  | none =>
    rw [upsert_of_find?_none found,find?_append,found]
    simp [named]

lemma mem_updateFirst_key (found : rows.find? hit = some old) (nodup : (rows.map key).Nodup)
    (mem : row ∈ updateFirst hit change rows) : (row ∈ rows ∧ key row ≠ key old) ∨ row = change old := by
  obtain ⟨before,after,rfl,_,_,updated⟩ := updateFirst_of_find? change found
  rw [updated] at mem
  simp only [map_append,map_cons,nodup_append,nodup_cons,mem_map,mem_cons] at nodup
  rcases mem_append.mp mem with earlier | later
  · refine .inl ⟨mem_append_left _ earlier,?_⟩
    exact nodup.2.2 _ ⟨row,earlier,rfl⟩ _ (.inl rfl)
  rcases mem_cons.mp later with rfl | later
  · exact .inr rfl
  · refine .inl ⟨mem_append_right _ (mem_cons_of_mem _ later),?_⟩
    exact fun same => nodup.2.1.1 ⟨row,later,same⟩

lemma mem_upsert_key [DecidableEq κ] (nodup : (rows.map key).Nodup)
    (mem : row ∈ upsert (key · = name) change fresh rows) :
    (row ∈ rows ∧ key row ≠ name) ∨ (∃ old ∈ rows, key old = name ∧ row = change old) ∨ row = fresh := by
  cases found : rows.find? (key · = name) with
  | none =>
    have absent : ∀ row ∈ rows, key row ≠ name := by simpa using found
    rw [upsert_of_find?_none found,mem_append,mem_singleton] at mem
    rcases mem with mem | rfl
    · exact .inl ⟨mem,absent row mem⟩
    · exact .inr (.inr rfl)
  | some old =>
    have named : key old = name := by simpa using find?_some found
    rw [upsert_of_find? found] at mem
    rcases mem_updateFirst_key found nodup mem with ⟨listed,ne⟩ | changed
    · exact .inl ⟨listed,named ▸ ne⟩
    · exact .inr (.inl ⟨old,mem_of_find?_eq_some found,named,changed⟩)
end

/-! A table seen without some rows of others. `Hides other seen rows` says that `seen` is what is
left of `rows` when certain rows, all of them belonging to others, are taken out. Operations that
touch only the rows of one side keep the relation, and a listing in which no row of others appears is
the same in both tables. -/

inductive Hides (other : α → Prop) : List α → List α → Prop
  | nil : Hides other [] []
  | own (row : α) : Hides other seen rows → Hides other (row :: seen) (row :: rows)
  | skip (foreign : other row) : Hides other seen rows → Hides other seen (row :: rows)

namespace Hides
variable {other : α → Prop} {seen rows : List α}

lemma subset (hides : Hides other seen rows) (mem : row ∈ seen) : row ∈ rows := by
  induction hides with
  | nil => cases mem
  | own head _ ih =>
    rcases mem_cons.mp mem with rfl | mem
    · exact mem_cons_self
    · exact mem_cons_of_mem _ (ih mem)
  | skip _ _ ih => exact mem_cons_of_mem _ (ih mem)

lemma all (foreign : ∀ row ∈ rows, other row) : Hides other [] rows := by
  induction rows with
  | nil => exact .nil
  | cons head rows ih =>
    exact .skip (foreign head mem_cons_self) (ih fun row mem => foreign row (mem_cons_of_mem _ mem))

lemma refl (rows : List α) : Hides other rows rows := by
  induction rows with
  | nil => exact .nil
  | cons head rows ih => exact .own head ih

lemma append (front : Hides other seen rows) (back : Hides other more others) : Hides other (seen ++ more) (rows ++ others) := by
  induction front with
  | nil => exact back
  | own row _ ih => exact .own row ih
  | skip foreign _ ih => exact .skip foreign ih

section
variable (hides : Hides other seen rows)
include hides

lemma append_others (foreign : ∀ row ∈ others, other row) : Hides other seen (rows ++ others) := by
  simpa using hides.append (all foreign)

lemma filter (keep : α → Bool) : Hides other (seen.filter keep) (rows.filter keep) := by
  induction hides with
  | nil => exact .nil
  | own row _ ih =>
    by_cases kept : keep row
    · simpa [kept] using Hides.own row ih
    · simpa [kept] using ih
  | skip foreign _ ih =>
    rename_i row _ _ _
    by_cases kept : keep row
    · simpa [kept] using Hides.skip foreign ih
    · simpa [kept] using ih

lemma filter_others (keep : α → Bool) (kept : ∀ row ∈ seen, keep row) : Hides other seen (rows.filter keep) := by
  have both := hides.filter keep
  rwa [filter_eq_self.mpr kept] at both

lemma filter_eq {keep : α → Bool} (without : ∀ row ∈ rows, other row → keep row = false) :
    rows.filter keep = seen.filter keep := by
  induction hides with
  | nil => rfl
  | own row _ ih => simp only [filter_cons,ih fun row mem => without row (mem_cons_of_mem _ mem)]
  | skip foreign _ ih =>
    simp [without _ mem_cons_self foreign,ih fun row mem => without row (mem_cons_of_mem _ mem)]

end

variable {hit : α → Bool} {change : α → α}

section
variable (hides : Hides other seen rows)
include hides

lemma any_eq (without : ∀ row ∈ rows, other row → hit row = false) : rows.any hit = seen.any hit := by
  simpa [any_filter] using congrArg (List.any · fun _ => true) (hides.filter_eq without)

lemma updateFirst_own (without : ∀ row ∈ rows, other row → hit row = false)
    (change : α → α) : Hides other (updateFirst hit change seen) (updateFirst hit change rows) := by
  induction hides with
  | nil => exact .nil
  | own row rest ih =>
    by_cases here : hit row
    · simpa [updateFirst,here] using Hides.own (change row) rest
    · simpa [updateFirst,here] using Hides.own row (ih fun row mem => without row (mem_cons_of_mem _ mem))
  | skip foreign _ ih =>
    simpa [updateFirst,without _ mem_cons_self foreign] using
      Hides.skip foreign (ih fun row mem => without row (mem_cons_of_mem _ mem))

lemma upsert_own (without : ∀ row ∈ rows, other row → hit row = false)
    (change : α → α) (fresh : α) : Hides other (upsert hit change fresh seen) (upsert hit change fresh rows) := by
  rw [upsert,upsert,hides.any_eq without]
  split
  · exact hides.updateFirst_own without change
  · exact hides.append (.refl [fresh])

lemma updateFirst_others (without : ∀ row ∈ seen, hit row = false)
    (foreign : ∀ row, other (change row)) : Hides other seen (updateFirst hit change rows) := by
  induction hides with
  | nil => exact .nil
  | own row _ ih =>
    have misses := without row mem_cons_self
    have rest := ih fun row mem => without row (mem_cons_of_mem _ mem)
    simpa [updateFirst,misses] using Hides.own row rest
  | skip passed rest ih =>
    rename_i row _ _
    by_cases here : hit row
    · simpa [updateFirst,here] using Hides.skip (foreign row) rest
    · simpa [updateFirst,here] using Hides.skip passed (ih without)

lemma upsert_others (without : ∀ row ∈ seen, hit row = false)
    (foreign : ∀ row, other (change row)) (new : other fresh) : Hides other seen (upsert hit change fresh rows) := by
  rw [upsert]
  split
  · exact hides.updateFirst_others without foreign
  · exact hides.append_others (by simpa using new)

end

end Hides

end SysArmor.Rows
