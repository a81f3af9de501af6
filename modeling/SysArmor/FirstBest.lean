import Mathlib.Data.List.Basic

/-! A scan for the best item: among the items that pass a test and whose rank is not negative, the
first one of the highest rank. -/
namespace SysArmor.FirstBest
open List

variable (passes : α → Bool) (rank : α → Int)

def turn (found : Option α × Int) (item : α) : Option α × Int :=
  if passes item then
    if rank item > found.2 then (some item,rank item) else found
  else found

def firstBest (items : List α) : Option α := (items.foldl (turn passes rank) (none,-1)).1

structure IsFirstBest (items : List α) (best : α) : Prop where
  passing : passes best
  counts : 0 ≤ rank best
  split : ∃ before after, items = before ++ best :: after ∧ (∀ item ∈ before, passes item → rank item < rank best) ∧
    ∀ item ∈ after, passes item → rank item ≤ rank best

variable {passes rank} {items : List α} {best : α}

lemma turn_keeps (lower : passes item → rank item ≤ found.2) : turn passes rank found item = found := by
  unfold turn
  split
  · rename_i passing
    exact if_neg (by have := lower passing; omega)
  · rfl

lemma turn_takes (passing : passes item) (higher : found.2 < rank item) :
    turn passes rank found item = (some item,rank item) := by
  unfold turn
  rw [if_pos passing,if_pos higher]

lemma foldl_keeps (lower : ∀ item ∈ items, passes item → rank item ≤ found.2) :
    items.foldl (turn passes rank) found = found := by
  induction items with
  | nil => rfl
  | cons head items ih =>
    rw [foldl_cons,turn_keeps (lower head mem_cons_self)]
    exact ih fun item mem => lower item (mem_cons_of_mem _ mem)

lemma turn_below {bound : Int} (below : found.2 < bound) (lower : passes item → rank item < bound) :
    (turn passes rank found item).2 < bound := by
  unfold turn
  split
  · rename_i passing
    split
    · exact lower passing
    · exact below
  · exact below

lemma foldl_below {bound : Int} (below : found.2 < bound) (lower : ∀ item ∈ items, passes item → rank item < bound) :
    (items.foldl (turn passes rank) found).2 < bound := by
  induction items generalizing found with
  | nil => exact below
  | cons head items ih =>
    rw [foldl_cons]
    apply ih (turn_below below (lower head mem_cons_self))
    exact fun item mem => lower item (mem_cons_of_mem _ mem)

lemma IsFirstBest.found (first : IsFirstBest passes rank items best) : firstBest passes rank items = some best := by
  obtain ⟨passing,counts,old,after,rfl,lower,upper⟩ := first
  have below : (old.foldl (turn passes rank) (none,-1)).2 < rank best := by
    apply foldl_below ?_ lower
    show (-1 : Int) < rank best
    omega
  rw [firstBest,foldl_append,foldl_cons,turn_takes passing below,foldl_keeps upper]

lemma firstBest_none (lower : ∀ item ∈ items, passes item → rank item < 0) : firstBest passes rank items = none := by
  rw [firstBest,foldl_keeps]
  intro item mem passed
  have := lower item mem passed
  show rank item ≤ (-1 : Int)
  omega

lemma exists_firstBest (items : List α) :
    (∃ best, IsFirstBest passes rank items best) ∨ ∀ item ∈ items, passes item → rank item < 0 := by
  induction items with
  | nil => exact .inr (by simp)
  | cons head items ih =>
    rcases ih with ⟨best,passing,counts,old,after,rfl,lower,upper⟩ | none
    · by_cases higher : passes head ∧ rank best ≤ rank head
      · refine .inl ⟨head,higher.1,by omega,[],_,rfl,by simp,?_⟩
        intro item mem passed
        rcases mem_append.mp mem with earlier | later
        · have := lower item earlier passed
          omega
        rcases mem_cons.mp later with rfl | later
        · exact higher.2
        · have := upper item later passed
          omega
      · refine .inl ⟨best,passing,counts,head :: old,after,rfl,?_,upper⟩
        intro item mem passed
        rcases mem_cons.mp mem with rfl | mem
        · by_contra notLower
          exact higher ⟨passed,by omega⟩
        · exact lower item mem passed
    · by_cases counts : passes head ∧ 0 ≤ rank head
      · refine .inl ⟨head,counts.1,counts.2,[],items,rfl,by simp,?_⟩
        intro item mem passed
        have := none item mem passed
        omega
      · refine .inr ?_
        intro item mem passed
        rcases mem_cons.mp mem with rfl | mem
        · by_contra notLower
          exact counts ⟨passed,by omega⟩
        · exact none item mem passed

lemma firstBest_eq_some : firstBest passes rank items = some best ↔ IsFirstBest passes rank items best := by
  refine ⟨?_,IsFirstBest.found⟩
  intro found
  rcases exists_firstBest items with ⟨other,first⟩ | none
  · obtain rfl : other = best := Option.some.inj (first.found.symm.trans found)
    exact first
  · rw [firstBest_none none] at found
    cases found

lemma firstBest_isSome (counts : ∀ item, 0 ≤ rank item) : (firstBest passes rank items).isSome = items.any passes := by
  rw [Bool.eq_iff_iff,any_eq_true,Option.isSome_iff_exists]
  constructor
  · rintro ⟨best,found⟩
    obtain ⟨passing,-,old,after,rfl,-,-⟩ := firstBest_eq_some.mp found
    exact ⟨best,by simp,passing⟩
  rintro ⟨item,mem,passing⟩
  rcases exists_firstBest items with ⟨best,first⟩ | none
  · exact ⟨best,first.found⟩
  · exact absurd (counts item) (by have := none item mem passing; omega)

lemma IsFirstBest.mem (first : IsFirstBest passes rank items best) : best ∈ items := by
  obtain ⟨_,_,old,after,rfl,_,_⟩ := first
  simp

lemma IsFirstBest.before {r : α → α → Prop} (first : IsFirstBest passes rank items best) (sorted : items.Pairwise r) :
    ∀ item ∈ items, passes item → rank item < rank best ∨ rank item ≤ rank best ∧ (item = best ∨ r best item) := by
  obtain ⟨_,_,old,after,rfl,lower,upper⟩ := first
  intro item mem passed
  rcases mem_append.mp mem with earlier | later
  · exact .inl (lower item earlier passed)
  rcases mem_cons.mp later with rfl | later
  · exact .inr ⟨by omega,.inl rfl⟩
  · refine .inr ⟨upper item later passed,.inr ?_⟩
    exact rel_of_pairwise_cons (pairwise_append.mp sorted).2.1 later

section
variable {r : α → α → Prop} {larger : List α} {new rival : α}

lemma IsFirstBest.rank_le (first : IsFirstBest passes rank larger best) (mem : new ∈ larger) (passing : passes new) :
    rank new ≤ rank best := by
  obtain ⟨_,_,old,after,rfl,lower,upper⟩ := first
  rcases mem_append.mp mem with earlier | later
  · have := lower new earlier passing
    omega
  rcases mem_cons.mp later with rfl | later
  · exact Int.le_refl _
  · exact upper new later passing

variable (sorted : items.Pairwise r) (sortedLarger : larger.Pairwise r)
  (members : ∀ item, item ∈ larger ↔ item ∈ items ∨ item = new)
  (antisymmetric : ∀ a ∈ larger, ∀ b ∈ larger, r a b → r b a → a = b)
  (passing : passes new) (lower : ∀ item ∈ items, passes item → rank item ≤ rank new)
include sorted sortedLarger members antisymmetric passing lower

lemma IsFirstBest.eq_new (transitive : ∀ a b c, r a b → r b c → r a c) (first : IsFirstBest passes rank larger best)
    (second : IsFirstBest passes rank items rival) (wins : rank rival < rank new ∨ r new rival) : best = new := by
  by_contra other
  have mem : best ∈ items := ((members best).mp first.mem).resolve_right other
  have new_listed : new ∈ larger := (members new).mpr (.inr rfl)
  have rival_listed : rival ∈ larger := (members rival).mpr (.inl second.mem)
  have up := first.rank_le new_listed passing
  have down := lower rival second.mem second.passing
  rcases second.before sorted best mem first.passing with higher | ⟨_,best_last⟩
  · omega
  rcases wins with higher | new_first
  · have := second.rank_le mem first.passing
    omega
  rcases first.before sortedLarger new new_listed passing with higher | ⟨_,best_first⟩
  · have := lower best mem first.passing
    omega
  have best_new : r best new := best_first.resolve_left fun same => other same.symm
  have rival_new : r rival new := by
    rcases best_last with rfl | rival_best
    · exact best_new
    · exact transitive _ _ _ rival_best best_new
  obtain rfl := antisymmetric rival rival_listed new new_listed rival_new new_first
  rcases best_last with same | new_best
  · exact other same
  · exact other (antisymmetric best first.mem rival new_listed best_new new_best)

lemma IsFirstBest.eq_rival (reflexive : ∀ a, r a a) (first : IsFirstBest passes rank larger best)
    (second : IsFirstBest passes rank items rival) (loses : ¬ (rank rival < rank new ∨ r new rival)) : best = rival := by
  rw [not_or] at loses
  have rival_listed : rival ∈ larger := (members rival).mpr (.inl second.mem)
  have down := lower rival second.mem second.passing
  have bottom := first.rank_le ((members new).mpr (.inr rfl)) passing
  have top : rank best ≤ rank new := by
    rcases (members best).mp first.mem with mem | rfl
    · exact lower best mem first.passing
    · exact Int.le_refl _
  have best_rival : rival = best ∨ r best rival := by
    rcases first.before sortedLarger rival rival_listed second.passing with higher | ⟨_,last⟩
    · omega
    · exact last
  have mem : best ∈ items := by
    rcases (members best).mp first.mem with mem | rfl
    · exact mem
    exfalso
    rcases best_rival with rfl | old
    · exact loses.2 (reflexive _)
    · exact loses.2 old
  rcases second.before sorted best mem first.passing with higher | ⟨_,last⟩
  · omega
  rcases best_rival with same | old
  · exact same.symm
  rcases last with same | after
  · exact same
  · exact antisymmetric best first.mem rival rival_listed old after

lemma firstBest_larger [DecidableRel r] (transitive : ∀ a b c, r a b → r b c → r a c) (reflexive : ∀ a, r a a)
    (counts : 0 ≤ rank new) : firstBest passes rank larger = (firstBest passes rank items).elim (some new) fun rival =>
      if rank rival < rank new ∨ r new rival then some new else some rival := by
  obtain ⟨best,first⟩ : ∃ best, IsFirstBest passes rank larger best := by
    rcases exists_firstBest larger with found | none
    · exact found
    · have := none new ((members new).mpr (.inr rfl)) passing
      omega
  rw [first.found]
  rcases exists_firstBest items with ⟨rival,second⟩ | none
  · rw [second.found,Option.elim_some]
    split
    · rename_i wins
      rw [first.eq_new sorted sortedLarger members antisymmetric passing lower transitive second wins]
    · rename_i loses
      rw [first.eq_rival sorted sortedLarger members antisymmetric passing lower reflexive second loses]
  · rw [firstBest_none none]
    rcases (members best).mp first.mem with other | rfl
    · have := none best other first.passing
      have := first.counts
      omega
    · rfl

end

end SysArmor.FirstBest
