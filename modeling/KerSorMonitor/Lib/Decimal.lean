import Mathlib.Data.String.Basic

/-!
# Decimal numbers of a fixed width

The decimal digits of a number with leading zeros, and how texts that are made of them compare.

Results:
1. `append_lt_append_iff`: texts with first parts of one length compare by these parts first.
2. `padded_lt_iff`: numbers of one width compare as their digits do.
3. `atLeast_append_inj`: a number with leading zeros can be read back up to the first other character.
-/

namespace Decimal

/-- Texts with first parts of one length. -/
theorem append_lt_append_iff {α : Type} [LT α] [Std.Irrefl (· < · : α → α → Prop)]
    {p q x y : List α} (h : p.length = q.length) :
    p ++ x < q ++ y ↔ p < q ∨ p = q ∧ x < y := by
  induction p generalizing q with
  | nil =>
    obtain rfl : q = [] := List.eq_nil_of_length_eq_zero h.symm
    simp
  | cons a p ih =>
    cases q with
    | nil => cases h
    | cons b q =>
      rw [List.cons_append, List.cons_append, List.cons_lt_cons_iff, List.cons_lt_cons_iff,
        ih (Nat.succ.inj h), List.cons.injEq]
      tauto

/-- The digit `n % 10`. -/
def digit (n : Nat) : Char := Char.ofNat (48 + n % 10)

/-- The last `width` decimal digits of a number. -/
def padded : Nat → Nat → List Char
  | 0, _ => []
  | width + 1, n => padded width (n / 10) ++ [digit n]

@[simp] theorem length_padded (width n : Nat) : (padded width n).length = width := by
  induction width generalizing n with
  | zero => rfl
  | succ width ih => simp [padded, ih]

theorem digit_lt_iff (m n : Nat) : digit m < digit n ↔ m % 10 < n % 10 := by
  have hall : ∀ a < 10, ∀ b < 10, Char.ofNat (48 + a) < Char.ofNat (48 + b) ↔ a < b := by decide
  exact hall _ (Nat.mod_lt _ (by decide)) _ (Nat.mod_lt _ (by decide))

theorem digit_inj {m n : Nat} (h : digit m = digit n) : m % 10 = n % 10 := by
  have hlt := digit_lt_iff m n
  have hgt := digit_lt_iff n m
  rw [h] at hlt hgt
  have hle := mt hlt.mpr (Char.lt_irrefl _)
  have hge := mt hgt.mpr (Char.lt_irrefl _)
  omega

theorem padded_inj {width m n : Nat} (hm : m < 10 ^ width) (hn : n < 10 ^ width)
    (h : padded width m = padded width n) : m = n := by
  induction width generalizing m n with
  | zero => omega
  | succ width ih =>
    obtain ⟨hhigh, hlow⟩ := List.append_inj h (by simp)
    rw [Nat.pow_succ] at hm hn
    have hdiv := ih (by omega) (by omega) hhigh
    have hmod := digit_inj (List.cons.inj hlow).1
    omega

theorem padded_lt_iff {width m n : Nat} (hm : m < 10 ^ width) (hn : n < 10 ^ width) :
    padded width m < padded width n ↔ m < n := by
  induction width generalizing m n with
  | zero =>
    rw [Nat.pow_zero] at hm hn
    exact iff_of_false (List.not_lt_nil _) (by omega)
  | succ width ih =>
    rw [Nat.pow_succ] at hm hn
    have hhigh : padded width (m / 10) = padded width (n / 10) ↔ m / 10 = n / 10 :=
      ⟨padded_inj (by omega) (by omega), congrArg _⟩
    rw [padded, padded, append_lt_append_iff (by simp), ih (by omega) (by omega), hhigh]
    simp only [List.cons_lt_cons_iff, digit_lt_iff, List.lt_irrefl, and_false, or_false]
    omega

/-- Numbers of one width, before the same character and the rest of the text. -/
theorem padded_cons_lt_iff {width m n : Nat} (hm : m < 10 ^ width) (hn : n < 10 ^ width) (c : Char)
    {x y : List Char} :
    padded width m ++ c :: x < padded width n ++ c :: y ↔ m < n ∨ m = n ∧ x < y := by
  have heq : padded width m = padded width n ↔ m = n := ⟨padded_inj hm hn, congrArg _⟩
  rw [append_lt_append_iff (by simp), padded_lt_iff hm hn, heq, List.cons_lt_cons_iff]
  simp only [Char.lt_irrefl, true_and, false_or]

/-! ## A least width -/

/-- The decimal digits of a number, with leading zeros up to a width. -/
def atLeast (width n : Nat) : List Char :=
  List.replicate (width - (Nat.toDigits 10 n).length) '0' ++ Nat.toDigits 10 n

theorem isDigit_of_mem_atLeast {width n : Nat} {c : Char} (h : c ∈ atLeast width n) :
    c.isDigit = true := by
  rcases List.mem_append.mp h with hzero | hdigit
  · rw [List.eq_of_mem_replicate hzero]
    rfl
  · exact Nat.isDigit_of_mem_toDigits (by decide) (by decide) hdigit

/-- Leading zeros do not change the value. -/
theorem ofDigitChars_atLeast (width n : Nat) : Nat.ofDigitChars 10 (atLeast width n) 0 = n := by
  have hzeros : ∀ k ds, Nat.ofDigitChars 10 (List.replicate k '0' ++ ds) 0 = Nat.ofDigitChars 10 ds 0 := by
    intro k ds
    induction k with
    | zero => rfl
    | succ k ih =>
      rw [List.replicate_succ, List.cons_append, Nat.ofDigitChars_cons]
      exact ih
  rw [atLeast, hzeros]
  exact Nat.ofDigitChars_toDigits (by decide) (by decide)

theorem atLeast_append_inj {width m n : Nat} {sep : Char} (hsep : sep.isDigit = false)
    {x y : List Char} (h : atLeast width m ++ sep :: x = atLeast width n ++ sep :: y) : m = n := by
  have hread : ∀ (k : Nat) (z : List Char),
      (atLeast width k ++ sep :: z).takeWhile Char.isDigit = atLeast width k := by
    intro k z
    rw [List.takeWhile_append_of_pos fun c hc => isDigit_of_mem_atLeast hc,
      List.takeWhile_cons_of_neg (by rw [hsep]; exact Bool.false_ne_true), List.append_nil]
  have hdigits : atLeast width m = atLeast width n := by
    rw [← hread m x, h, hread n y]
  rw [← ofDigitChars_atLeast width m, hdigits, ofDigitChars_atLeast]

end Decimal
