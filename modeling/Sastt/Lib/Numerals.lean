import Mathlib.Data.Int.Notation
import Mathlib.Data.List.Basic

/-!
# Numbers between separators

Keys are put together from numbers and other texts with a separator between
them. The decimal numeral of a number tells the number, and no separator is a
digit, so such a key can be taken apart again.
-/

namespace Sastt

/-- What stands before the first separator is known. -/
theorem append_cons_inj_of_notMem_left {α : Type} {c : α} {a a' b b' : List α}
    (h : a ++ c :: b = a' ++ c :: b') (ha : c ∉ a) (ha' : c ∉ a') : a = a' ∧ b = b' := by
  rcases List.append_eq_append_iff.mp h with ⟨d, rfl, hd⟩ | ⟨d, rfl, hd⟩
  · cases d with
    | nil => exact ⟨(List.append_nil a).symm, (List.cons.inj hd).2⟩
    | cons x d =>
      rw [(List.cons.inj hd).1] at ha'
      exact absurd (List.mem_append_right a List.mem_cons_self) ha'
  · cases d with
    | nil => exact ⟨List.append_nil a', (List.cons.inj hd).2.symm⟩
    | cons x d =>
      rw [(List.cons.inj hd).1] at ha
      exact absurd (List.mem_append_right a' List.mem_cons_self) ha

/-- A list is cut at the last occurrence of an entry in one way only. -/
theorem append_cons_inj_of_notMem_right {α : Type} {c : α} {a a' b b' : List α}
    (h : a ++ c :: b = a' ++ c :: b') (hb : c ∉ b) (hb' : c ∉ b') : a = a' ∧ b = b' := by
  rcases List.append_eq_append_iff.mp h with ⟨d, rfl, hd⟩ | ⟨d, rfl, hd⟩
  · cases d with
    | nil => exact ⟨(List.append_nil a).symm, (List.cons.inj hd).2⟩
    | cons x d =>
      rw [(List.cons.inj hd).2] at hb
      exact absurd (List.mem_append_right d List.mem_cons_self) hb
  · cases d with
    | nil => exact ⟨List.append_nil a', (List.cons.inj hd).2.symm⟩
    | cons x d =>
      rw [(List.cons.inj hd).2] at hb'
      exact absurd (List.mem_append_right d List.mem_cons_self) hb'

theorem isDigit_of_mem_toString {n : ℕ} {c : Char} (h : c ∈ (toString n).toList) :
    c.isDigit = true := by
  have hdigits : c ∈ Nat.toDigits 10 n := by simpa [Nat.repr] using h
  exact Nat.isDigit_of_mem_toDigits (by decide) (by decide) hdigits

theorem colon_notMem_toString (n : ℕ) : ':' ∉ (toString n).toList := fun h =>
  absurd (isDigit_of_mem_toString h) (by decide)

theorem toString_nat_inj {m n : ℕ} (h : toString m = toString n) : m = n := by
  have hlist := congrArg String.toList h
  have hdigits : Nat.toDigits 10 m = Nat.toDigits 10 n := by
    simpa [Nat.toString_eq_ofList_toDigits] using hlist
  calc
    m = Nat.ofDigitChars 10 (Nat.toDigits 10 m) 0 := Nat.ofDigitChars_ten_toDigits.symm
    _ = n := by rw [hdigits, Nat.ofDigitChars_ten_toDigits]

/-- A numeral has digits, and a sign where the number is negative. -/
theorem isDigit_or_sign_of_mem_toString {n : ℤ} {c : Char} (h : c ∈ (toString n).toList) :
    c.isDigit = true ∨ c = '-' := by
  cases n with
  | ofNat n => exact .inl (isDigit_of_mem_toString h)
  | negSucc n =>
    have hchars : c = '-' ∨ c ∈ (toString (n + 1)).toList := by
      simpa [Int.toString_eq_repr, Int.repr] using h
    exact hchars.symm.imp_left isDigit_of_mem_toString

theorem toString_int_inj {m n : ℤ} (h : toString m = toString n) : m = n := by
  have hsign : ∀ k : ℕ, '-' ∉ (toString k).toList := fun k hk =>
    absurd (isDigit_of_mem_toString hk) (by decide)
  have hneg : ∀ k : ℕ, (toString (Int.negSucc k)).toList = '-' :: (toString (k + 1)).toList := by
    intro k
    simp [Int.toString_eq_repr, Int.repr]
  cases m with
  | ofNat m =>
    cases n with
    | ofNat n => exact congrArg Int.ofNat (toString_nat_inj h)
    | negSucc n =>
      have hmem : '-' ∈ (toString (Int.negSucc n)).toList := hneg n ▸ List.mem_cons_self
      exact absurd (h ▸ hmem) (hsign m)
  | negSucc m =>
    cases n with
    | ofNat n =>
      have hmem : '-' ∈ (toString (Int.negSucc m)).toList := hneg m ▸ List.mem_cons_self
      exact absurd (h ▸ hmem) (hsign n)
    | negSucc n =>
      have hlist := congrArg String.toList h
      rw [hneg, hneg] at hlist
      have hdigits := toString_nat_inj (String.toList_injective (List.cons.inj hlist).2)
      rw [Nat.succ.inj hdigits]

/-- A text that begins with digits shows what follows them. -/
theorem dropWhile_digits {digits : List Char} {c : Char} (rest : List Char)
    (hdigits : ∀ d ∈ digits, d.isDigit = true) (hc : c.isDigit = false) :
    (digits ++ c :: rest).dropWhile Char.isDigit = c :: rest := by
  induction digits with
  | nil => exact List.dropWhile_cons_of_neg (by rw [hc]; decide)
  | cons d digits ih =>
    have hd := hdigits d List.mem_cons_self
    rw [List.cons_append, List.dropWhile_cons_of_pos hd]
    exact ih (fun x hx => hdigits x (List.mem_cons_of_mem d hx))

end Sastt
