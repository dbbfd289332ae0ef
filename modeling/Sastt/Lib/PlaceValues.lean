import Mathlib.Data.Nat.Digits.Defs
import Mathlib.Order.Interval.Set.Defs
import Mathlib.Order.Monotone.Defs

/-!
# Numerals of a fixed width

`numeral digit b width value` writes a number with `width` digits of base `b`,
the most significant digit first and each of them as `digit` says. The last
digit is the remainder, and what stands before it is the numeral of the
quotient with one digit less, so facts are shown by induction on the width.

When the digits are in ascending order, numerals of one width are in the order
of the numbers (`numeral_lt_numeral`), and no two numbers have the same one
(`numeral_injOn`). Where lists of one length are compared, what follows them
does not matter once they differ (`append_lt_append_of_lt`).
-/

variable {α : Type}

/-- **A numeral of a fixed width**, with the most significant digit first. -/
def numeral (digit : ℕ → α) (b : ℕ) : ℕ → ℕ → List α
  | 0, _ => []
  | width + 1, value => numeral digit b width (value / b) ++ [digit (value % b)]

variable {digit : ℕ → α} {b width u v : ℕ}

@[simp] theorem length_numeral (digit : ℕ → α) (b width v : ℕ) :
    (numeral digit b width v).length = width := by
  induction width generalizing v with
  | zero => rfl
  | succ width ih => simp [numeral, ih]

/-- Only digits are written. -/
theorem exists_digit_of_mem_numeral (hb : 0 < b) {a : α} (h : a ∈ numeral digit b width v) :
    ∃ d < b, a = digit d := by
  induction width generalizing v with
  | zero => exact absurd h List.not_mem_nil
  | succ width ih =>
    rcases List.mem_append.mp h with hfront | hlast
    · exact ih hfront
    · exact ⟨v % b, Nat.mod_lt v hb, List.mem_singleton.mp hlast⟩

section Order

variable [Preorder α]

/-- Of lists of one length, the smaller stays smaller whatever follows. -/
theorem append_lt_append_of_lt {l l' : List α} (hlength : l.length = l'.length) (h : l < l')
    (s s' : List α) : l ++ s < l' ++ s' := by
  induction l generalizing l' with
  | nil =>
    rw [List.eq_nil_of_length_eq_zero hlength.symm] at h
    exact absurd h (List.not_lt_nil [])
  | cons a l ih =>
    cases l' with
    | nil => exact absurd hlength (Nat.succ_ne_zero _)
    | cons a' l' =>
      rw [List.cons_append, List.cons_append, List.cons_lt_cons_iff]
      rcases List.cons_lt_cons_iff.mp h with hfirst | ⟨hfirst, hrest⟩
      · exact .inl hfirst
      · exact .inr ⟨hfirst, ih (Nat.succ.inj hlength) hrest⟩

/-- **Numerals are in the order of the numbers.** -/
theorem numeral_lt_numeral (hdigit : StrictMonoOn digit (Set.Iio b)) (huv : u < v)
    (hv : v < b ^ width) : numeral digit b width u < numeral digit b width v := by
  induction width generalizing u v with
  | zero =>
    rw [pow_zero] at hv
    omega
  | succ width ih =>
    have hb : 0 < b := Nat.pos_of_ne_zero (fun h => by simp [h] at hv)
    have hquotient : v / b < b ^ width := Nat.div_lt_of_lt_mul (by rwa [pow_succ'] at hv)
    unfold numeral
    rcases (Nat.div_le_div_right (c := b) huv.le).lt_or_eq with hlt | heq
    · exact append_lt_append_of_lt (by simp) (ih hlt hquotient) _ _
    · have hremainder : u % b < v % b := by
        have hu := Nat.div_add_mod u b
        have hv := Nat.div_add_mod v b
        rw [heq] at hu
        omega
      rw [heq]
      refine List.append_left_lt ?_
      exact List.cons_lt_cons_iff.mpr
        (.inl (hdigit (Nat.mod_lt u hb) (Nat.mod_lt v hb) hremainder))

/-- **No two numbers have the same numeral.** -/
theorem numeral_injOn (hdigit : StrictMonoOn digit (Set.Iio b)) (hu : u < b ^ width)
    (hv : v < b ^ width) (h : numeral digit b width u = numeral digit b width v) : u = v := by
  rcases lt_trichotomy u v with hlt | heq | hgt
  · exact absurd (h ▸ numeral_lt_numeral hdigit hlt hv) (List.lt_irrefl _)
  · exact heq
  · exact absurd (h ▸ numeral_lt_numeral hdigit hgt hu) (List.lt_irrefl _)

end Order
