import Mathlib.Data.List.Basic
import Mathlib.Order.Basic

/-! Ascending numbers between two marks: the upper mark is the last number given out, the lower one the
last number put away. -/
namespace Numbering
open List

variable [Preorder α] {low high : α}

structure Between (low high : α) (numbers : List α) : Prop where
  marks : low ≤ high
  ascending : numbers.Pairwise (· < ·)
  above : ∀ number ∈ numbers, low < number
  below : ∀ number ∈ numbers, number ≤ high

lemma Between.empty (marks : low ≤ high) : Between low high [] := ⟨marks,.nil,nofun,nofun⟩

lemma Between.sublist (between : Between low high numbers) (part : kept.Sublist numbers) : Between low high kept where
  marks := between.marks
  ascending := between.ascending.sublist part
  above number mem := between.above number (part.mem mem)
  below number mem := between.below number (part.mem mem)

lemma Between.push (between : Between low high numbers) (next : high < number) : Between low number (numbers ++ [number]) where
  marks := between.marks.trans next.le
  ascending := by
    refine pairwise_append.mpr ⟨between.ascending,pairwise_singleton _ _,?_⟩
    intro earlier mem last here
    rw [mem_singleton.mp here]
    exact (between.below earlier mem).trans_lt next
  above earlier mem := by
    rcases mem_append.mp mem with old | new
    · exact between.above earlier old
    · rw [mem_singleton.mp new]
      exact between.marks.trans_lt next
  below earlier mem := by
    rcases mem_append.mp mem with old | new
    · exact (between.below earlier old).trans next.le
    · exact (mem_singleton.mp new).le

lemma Between.le_last (between : Between low high front) :
    low ≤ front.getLastD low ∧ ∀ number ∈ front, number ≤ front.getLastD low := by
  rcases eq_nil_or_concat' front with rfl | ⟨init,last,rfl⟩
  · exact ⟨le_rfl,nofun⟩
  rw [getLastD_concat]
  refine ⟨(between.above last (by simp)).le,?_⟩
  intro number mem
  rcases mem_append.mp mem with old | new
  · exact ((pairwise_append.mp between.ascending).2.2 number old last (by simp)).le
  · exact (mem_singleton.mp new).le

lemma Between.behind (between : Between low high (front ++ back)) : Between (front.getLastD low) high back := by
  have kept := between.sublist (sublist_append_right front back)
  rcases eq_nil_or_concat' front with rfl | ⟨init,last,rfl⟩
  · exact kept
  rw [getLastD_concat]
  refine ⟨between.below last (by simp),kept.ascending,?_,kept.below⟩
  exact fun number mem => (pairwise_append.mp between.ascending).2.2 last (by simp) number mem

end Numbering
