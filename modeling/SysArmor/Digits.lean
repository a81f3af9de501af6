import Mathlib.Data.String.Basic
import Mathlib.Tactic.IntervalCases
import Mathlib.Tactic.Linarith

/-! Decimal numbers padded with zeros to a fixed width, as file names and counters are
printed. Below ten to the width, text order is numeric order. -/
namespace SysArmor.Digits
open List

def paddedDigits (width value : Nat) : List Char :=
  List.replicate (width - (Nat.toDigits 10 value).length) '0' ++ Nat.toDigits 10 value

/-- `fmt.Sprintf("%0<width>d", value)`: a value with more digits is printed in full. -/
def padded (width value : Nat) : String := String.ofList (paddedDigits width value)

@[simp] lemma toList_padded (width value : Nat) : (padded width value).toList = paddedDigits width value :=
  String.toList_ofList

lemma ofDigitChars_paddedDigits (width value : Nat) : Nat.ofDigitChars 10 (paddedDigits width value) 0 = value := by
  rw [paddedDigits,Nat.ofDigitChars_append,Nat.ofDigitChars_replicate_zero,Nat.mul_zero,
    Nat.ofDigitChars_ten_toDigits]

lemma paddedDigits_isDigit (mem : letter ∈ paddedDigits width value) : letter.isDigit := by
  rcases mem_append.mp mem with zero | digit
  · obtain rfl := eq_of_mem_replicate zero
    rfl
  · exact Nat.isDigit_of_mem_toDigits (by decide) (by decide) digit

lemma paddedDigits_length (bound : value < 10 ^ width) (pos : 0 < width) : (paddedDigits width value).length = width := by
  have digits := (Nat.length_toDigits_le_iff (by decide) pos).mpr bound
  simp [paddedDigits]
  omega

lemma padded_injective (width : Nat) : Function.Injective (padded width) := by
  intro left right same
  have digits : paddedDigits width left = paddedDigits width right := by
    simpa using congrArg String.toList same
  rw [← ofDigitChars_paddedDigits width left,digits,ofDigitChars_paddedDigits]

lemma isDigit_bounds {letter : Char} (digit : letter.isDigit) : 48 ≤ letter.toNat ∧ letter.toNat ≤ 57 := by
  simpa [Char.isDigit,UInt32.le_iff_toNat_le] using digit

lemma ofDigitChars_cons_eq (letter : Char) (letters : List Char) : Nat.ofDigitChars 10 (letter :: letters) 0 =
      10 ^ letters.length * (letter.toNat - 48) + Nat.ofDigitChars 10 letters 0 := by
  rw [Nat.ofDigitChars_cons,Nat.ofDigitChars_eq_ofDigitChars_zero,Nat.mul_zero,Nat.zero_add]
  rfl

lemma ofDigitChars_bound (digits : ∀ letter ∈ letters, letter.isDigit) :
    Nat.ofDigitChars 10 letters 0 < 10 ^ letters.length := by
  induction letters with
  | nil => simp
  | cons letter letters ih =>
    have tail := ih (fun other mem => digits other (by simp [mem]))
    have head := isDigit_bounds (digits letter (by simp))
    have value : letter.toNat - 48 ≤ 9 := by omega
    rw [ofDigitChars_cons_eq,length_cons,pow_succ]
    nlinarith

lemma digits_lt_iff (left right : List Char) (same : left.length = right.length)
    (leftDigits : ∀ letter ∈ left, letter.isDigit) (rightDigits : ∀ letter ∈ right, letter.isDigit) :
    left < right ↔ Nat.ofDigitChars 10 left 0 < Nat.ofDigitChars 10 right 0 := by
  induction left generalizing right with
  | nil =>
    obtain rfl : right = [] := length_eq_zero_iff.mp same.symm
    simp
  | cons a left ih =>
    obtain ⟨b,right,rfl⟩ : ∃ b tail, right = b :: tail := exists_cons_of_length_eq_add_one same.symm
    have lengths : left.length = right.length := by simpa using same
    have tails := ih right lengths (fun other mem => leftDigits other (by simp [mem]))
      (fun other mem => rightDigits other (by simp [mem]))
    have leftBound : _ < 10 ^ left.length := ofDigitChars_bound (fun other mem => leftDigits other (by simp [mem]))
    have rightBound : _ < 10 ^ right.length := ofDigitChars_bound (fun other mem => rightDigits other (by simp [mem]))
    have aBounds := isDigit_bounds (leftDigits a (by simp))
    have bBounds := isDigit_bounds (rightDigits b (by simp))
    rw [cons_lt_cons_iff,tails,ofDigitChars_cons_eq,ofDigitChars_cons_eq,← lengths]
    rw [← lengths] at rightBound
    -- the leading digits decide unless they are equal; the tails are below one unit of them
    rcases Nat.lt_trichotomy a.toNat b.toNat with less | equal | greater
    · have step : 10 ^ left.length * (a.toNat - 48) + 10 ^ left.length ≤ 10 ^ left.length * (b.toNat - 48) := by
        rw [← Nat.mul_succ]
        exact Nat.mul_le_mul_left _ (by omega)
      have old : a < b := Char.lt_def.mpr (UInt32.lt_iff_toNat_lt.mpr less)
      simp only [old,true_or,true_iff]
      omega
    · obtain rfl : a = b := Char.toNat_inj.mp equal
      simp
    · have step : 10 ^ left.length * (b.toNat - 48) + 10 ^ left.length ≤ 10 ^ left.length * (a.toNat - 48) := by
        rw [← Nat.mul_succ]
        exact Nat.mul_le_mul_left _ (by omega)
      have after : ¬ a < b := fun old => by
        have := UInt32.lt_iff_toNat_lt.mp (Char.lt_def.mp old)
        simp at this
        omega
      have distinct : a ≠ b := fun same => by simp [same] at greater
      simp only [after,distinct,false_and,or_false,false_iff]
      omega

lemma padded_lt_iff (pos : 0 < width) (leftBound : left < 10 ^ width) (rightBound : right < 10 ^ width) :
    paddedDigits width left < paddedDigits width right ↔ left < right := by
  have lengths : (paddedDigits width left).length = (paddedDigits width right).length := by
    rw [paddedDigits_length leftBound pos,paddedDigits_length rightBound pos]
  rw [digits_lt_iff _ _ lengths (fun _ => paddedDigits_isDigit) (fun _ => paddedDigits_isDigit),
    ofDigitChars_paddedDigits,ofDigitChars_paddedDigits]

lemma utf8EncodeChar_digit {letter : Char} (digit : letter.isDigit) :
    ∃ byte, String.utf8EncodeChar letter = [byte] ∧ Char.ofNat byte.toNat = letter := by
  obtain ⟨low,high⟩ := isDigit_bounds digit
  have named : letter = Char.ofNat letter.toNat := (Char.ofNat_toNat letter).symm
  generalize letter.toNat = code at *
  subst named
  interval_cases code <;> exact ⟨_,rfl,rfl⟩

end SysArmor.Digits
