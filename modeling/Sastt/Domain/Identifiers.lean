import Mathlib.Data.Char
import Mathlib.Data.Int.Bitwise
import Mathlib.Data.List.Basic
import Sastt.Lib.PlaceValues

/-!
# Identifiers

An identifier begins with the time it was made and ends with ten random bytes.
`_encode_crockford` writes both five bits at a time from the low end, and
reverses what it wrote: a numeral of base 32 and fixed width
(`toList_encodeCrockford`). As the alphabet is in ascending order and ten
digits are enough for the time, identifiers sort by time, and they tell the
time and the bytes (`ulids_sortedByTime`). A prefix changes nothing.

The clock and the random bytes are what a call reads; both are arguments.
-/

namespace Sastt.Identifiers

/-- `_CROCKFORD`. -/
def crockford : String := "0123456789ABCDEFGHJKMNPQRSTVWXYZ"

/-- `_CROCKFORD[index]`. -/
def crockfordDigit (index : ℕ) : Char := crockford.toList.getD index ' '

/-- The loop of `_encode_crockford`: the characters as they are appended. -/
def crockfordChars : ℕ → ℤ → List Char
  | 0, _ => []
  | length + 1, value =>
    crockfordDigit (Int.land value 0x1F).toNat :: crockfordChars length (value >>> (5 : ℕ))

/-- `_encode_crockford`. -/
def encodeCrockford (value : ℤ) (length : ℕ) : String :=
  String.ofList (crockfordChars length value).reverse

/-- `int.from_bytes`, of the most significant byte first. -/
def fromBytes (bytes : List UInt8) : ℕ := Nat.ofDigits 256 (bytes.map UInt8.toNat).reverse

/-- The time of an identifier: as given, or from the clock. -/
def timestamp (clock : ℤ) (nowMs : Option ℤ) : ℤ := nowMs.getD clock

/-- **`new_ulid`.** -/
def newUlid (clock : ℤ) (urandom : Vector UInt8 10) (nowMs : Option ℤ) : String :=
  encodeCrockford (timestamp clock nowMs) 10 ++ encodeCrockford (fromBytes urandom.toList) 16

/-- **`new_id`.** -/
def newId (kind : String) (clock : ℤ) (urandom : Vector UInt8 10) (nowMs : Option ℤ) : String :=
  kind ++ "_" ++ newUlid clock urandom nowMs

/-! ## Numerals -/

theorem length_crockford : crockford.toList.length = 32 := by decide

theorem crockfordDigit_eq_get {index : ℕ} (h : index < 32) :
    crockfordDigit index = crockford.toList.get ⟨index, length_crockford.symm ▸ h⟩ :=
  List.getD_eq_getElem _ _ _

theorem crockfordDigit_mem {index : ℕ} (h : index < 32) :
    crockfordDigit index ∈ crockford.toList := by
  rw [crockfordDigit_eq_get h]
  exact List.get_mem _ _

/-- **The alphabet is in ascending order.** -/
theorem crockfordDigit_strictMonoOn : StrictMonoOn crockfordDigit (Set.Iio 32) := by
  have hsorted : crockford.toList.Pairwise (· < ·) := by decide
  intro i hi j hj hij
  rw [crockfordDigit_eq_get hi, crockfordDigit_eq_get hj]
  exact List.pairwise_iff_getElem.mp hsorted i j _ _ hij

/-- **Five bits at a time are the digits of base 32.** -/
theorem toList_encodeCrockford (value length : ℕ) :
    (encodeCrockford value length).toList = numeral crockfordDigit 32 length value := by
  have hchars : (crockfordChars length value).reverse
      = numeral crockfordDigit 32 length value := by
    induction length generalizing value with
    | zero => rfl
    | succ length ih =>
      have hand : Int.land value 0x1F = (value % 32 : ℕ) :=
        congrArg Int.ofNat (Nat.and_two_pow_sub_one_eq_mod value 5)
      have hshift : (value : ℤ) >>> (5 : ℕ) = (value / 32 : ℕ) :=
        congrArg Int.ofNat (Nat.shiftRight_eq_div_pow value 5)
      unfold crockfordChars numeral
      rw [hand, hshift, List.reverse_cons, ih, Int.toNat_natCast]
  rw [encodeCrockford, String.toList_ofList, hchars]

/-- The bytes are digits of base 256. -/
theorem byte_lt {urandom : Vector UInt8 10} {byte : ℕ}
    (h : byte ∈ (urandom.toList.map UInt8.toNat).reverse) : byte < 256 := by
  obtain ⟨b, -, rfl⟩ := List.mem_map.mp (List.mem_reverse.mp h)
  exact UInt8.toNat_lt b

/-- Ten bytes fit into sixteen digits. -/
theorem fromBytes_lt (urandom : Vector UInt8 10) : fromBytes urandom.toList < 32 ^ 16 := by
  have hlt := Nat.ofDigits_lt_base_pow_length (b := 256) (by decide) (fun _ h => byte_lt h)
    (l := (urandom.toList.map UInt8.toNat).reverse)
  rw [List.length_reverse, List.length_map, Vector.length_toList] at hlt
  exact hlt.trans_eq (by decide)

/-- Ten bytes are told by their number. -/
theorem fromBytes_inj {r₁ r₂ : Vector UInt8 10}
    (h : fromBytes r₁.toList = fromBytes r₂.toList) : r₁ = r₂ := by
  have hdigits := Nat.ofDigits_inj_of_len_eq (b := 256) (by decide) (by simp)
    (fun _ h => byte_lt h) (fun _ h => byte_lt h) h
  have hbytes := List.map_injective_iff.mpr (fun _ _ => UInt8.toNat_inj.mp)
    (List.reverse_injective hdigits)
  exact Vector.toList_inj.mp hbytes

/-! ## Identifiers -/

theorem toList_newUlid {clock : ℤ} {nowMs : Option ℤ} (urandom : Vector UInt8 10)
    (h : 0 ≤ timestamp clock nowMs) :
    (newUlid clock urandom nowMs).toList
      = numeral crockfordDigit 32 10 (timestamp clock nowMs).toNat
        ++ numeral crockfordDigit 32 16 (fromBytes urandom.toList) := by
  have htime := toList_encodeCrockford (timestamp clock nowMs).toNat 10
  rw [Int.toNat_of_nonneg h] at htime
  rw [newUlid, String.toList_append, htime, toList_encodeCrockford]

/-- **Identifiers that sort by time**, and tell the time and the random bytes
of the call that made them. -/
structure SortedByTime (id : ℤ → Vector UInt8 10 → Option ℤ → String) : Prop where
  lt : ∀ {c₁ c₂ n₁ n₂} r₁ r₂, 0 ≤ timestamp c₁ n₁ → timestamp c₁ n₁ < timestamp c₂ n₂ →
    timestamp c₂ n₂ < 2 ^ 50 → id c₁ r₁ n₁ < id c₂ r₂ n₂
  injective : ∀ {c₁ c₂ n₁ n₂ r₁ r₂}, 0 ≤ timestamp c₁ n₁ → timestamp c₁ n₁ < 2 ^ 50 →
    0 ≤ timestamp c₂ n₂ → timestamp c₂ n₂ < 2 ^ 50 → id c₁ r₁ n₁ = id c₂ r₂ n₂ →
    timestamp c₁ n₁ = timestamp c₂ n₂ ∧ r₁ = r₂

/-- A time below 2 to the 50 has ten digits. -/
theorem toNat_lt_pow {t : ℤ} (h : t < 2 ^ 50) : t.toNat < 32 ^ 10 := by
  have hpow : (2 : ℤ) ^ 50 = (32 ^ 10 : ℕ) := by norm_num
  rw [hpow] at h
  omega

theorem sortedByTime_newUlid : SortedByTime newUlid where
  lt := by
    intro c₁ c₂ n₁ n₂ r₁ r₂ h₁ hlt h₂
    have htimes : (timestamp c₁ n₁).toNat < (timestamp c₂ n₂).toNat := by omega
    rw [String.lt_iff, toList_newUlid r₁ h₁, toList_newUlid r₂ (h₁.trans hlt.le)]
    refine append_lt_append_of_lt (by simp) ?_ _ _
    exact numeral_lt_numeral crockfordDigit_strictMonoOn htimes (toNat_lt_pow h₂)
  injective := by
    intro c₁ c₂ n₁ n₂ r₁ r₂ h₁ hlt₁ h₂ hlt₂ heq
    have hlists := congrArg String.toList heq
    rw [toList_newUlid r₁ h₁, toList_newUlid r₂ h₂] at hlists
    obtain ⟨htime, hrandom⟩ := List.append_inj hlists (by simp)
    have hnat := numeral_injOn crockfordDigit_strictMonoOn (toNat_lt_pow hlt₁)
      (toNat_lt_pow hlt₂) htime
    refine ⟨by omega, fromBytes_inj ?_⟩
    exact numeral_injOn crockfordDigit_strictMonoOn (fromBytes_lt r₁) (fromBytes_lt r₂) hrandom

/-- **A prefix changes nothing.** -/
theorem SortedByTime.prefixed {id : ℤ → Vector UInt8 10 → Option ℤ → String}
    (h : SortedByTime id) (before : String) :
    SortedByTime (fun clock urandom nowMs => before ++ id clock urandom nowMs) where
  lt := by
    intro c₁ c₂ n₁ n₂ r₁ r₂ h₁ hlt h₂
    rw [String.lt_iff, String.toList_append, String.toList_append]
    exact List.append_left_lt (String.lt_iff.mp (h.lt r₁ r₂ h₁ hlt h₂))
  injective := by
    intro c₁ c₂ n₁ n₂ r₁ r₂ h₁ hlt₁ h₂ hlt₂ heq
    have hlists := congrArg String.toList heq
    rw [String.toList_append, String.toList_append] at hlists
    exact h.injective h₁ hlt₁ h₂ hlt₂ (String.toList_injective (List.append_cancel_left hlists))

/-- An identifier has 26 characters of the alphabet. -/
theorem newUlid_wellFormed {clock : ℤ} {nowMs : Option ℤ} (urandom : Vector UInt8 10)
    (h : 0 ≤ timestamp clock nowMs) :
    (newUlid clock urandom nowMs).length = 26
      ∧ ∀ c ∈ (newUlid clock urandom nowMs).toList, c ∈ crockford.toList := by
  rw [← String.length_toList, toList_newUlid urandom h]
  refine ⟨by simp, fun c hc => ?_⟩
  rcases List.mem_append.mp hc with htime | hrandom
  · obtain ⟨d, hd, rfl⟩ := exists_digit_of_mem_numeral (by decide) htime
    exact crockfordDigit_mem hd
  · obtain ⟨d, hd, rfl⟩ := exists_digit_of_mem_numeral (by decide) hrandom
    exact crockfordDigit_mem hd

/-- **Identifiers sort by time**, have 26 characters of the alphabet, and tell
the time and the random bytes; those with a prefix do so as well. -/
theorem ulids_sortedByTime :
    SortedByTime newUlid
      ∧ (∀ clock urandom nowMs, 0 ≤ timestamp clock nowMs → timestamp clock nowMs < 2 ^ 50 →
        (newUlid clock urandom nowMs).length = 26
          ∧ ∀ c ∈ (newUlid clock urandom nowMs).toList, c ∈ crockford.toList)
      ∧ ∀ kind, SortedByTime (newId kind) :=
  ⟨sortedByTime_newUlid, fun _ urandom _ h _ => newUlid_wellFormed urandom h,
    fun kind => sortedByTime_newUlid.prefixed (kind ++ "_")⟩

/-- Two times a second apart, and the random bytes at their extremes. -/
theorem ulids_sortedByTime_second :
    newUlid 0 (Vector.replicate 10 255) (some 1700000000000)
      < newUlid 0 (Vector.replicate 10 0) (some 1700000001000) :=
  ulids_sortedByTime.1.lt _ _ (by decide) (by decide) (by decide)

end Sastt.Identifiers
