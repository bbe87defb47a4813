import Mathlib.Data.List.Basic
import Mathlib.Data.Nat.Digits.Defs
import SourceMend.Text.Numeral

/-!
# Decimal numerals

A decimal numeral is a row of digits, with or without a plus sign before it, and
stands for the positional value of its digits (`IsNumeral`).  These are the
texts that `natural` reads (`natural_eq_some_iff`).  The numeral of a number is
one that stands for it (`isNumeral_ofNat`).
-/

namespace SourceMend.Text

variable {s ds : Text} {c : Char} {d n : Nat}

/-! ## Numerals and their values -/

/-- The number that a digit stands for. -/
def digitValue (c : Char) : Nat := c.toNat - '0'.toNat

/-- The number that a row of digits stands for. -/
def decimalValue (ds : Text) : Nat := Nat.ofDigits 10 (ds.map digitValue).reverse

/-- A decimal numeral and its value. -/
inductive IsNumeral : Text → Nat → Prop where
  /-- There are only digits. -/
  | plain {ds : Text} : ds ≠ [] → (∀ c ∈ ds, c.isDigit = true) → IsNumeral ds (decimalValue ds)
  /-- There is a plus sign before the digits. -/
  | plus {ds : Text} : ds ≠ [] → (∀ c ∈ ds, c.isDigit = true) →
      IsNumeral ('+' :: ds) (decimalValue ds)

theorem isDigit_iff : c.isDigit = true ↔ 48 ≤ c.toNat ∧ c.toNat ≤ 57 := by
  simp only [Char.isDigit, Bool.and_eq_true, decide_eq_true_eq, ge_iff_le, UInt32.le_iff_toNat_le]
  rfl

theorem isBlank_of_isDigit (h : c.isDigit = true) : isBlank c = false := by
  rw [isDigit_iff] at h
  rw [isBlank, List.any_eq_false]
  intro r hr
  have hrange : r.2 < 48 ∨ 57 < r.1 := (by decide : ∀ r ∈ blankRanges, r.2 < 48 ∨ 57 < r.1) r hr
  simp only [Bool.and_eq_true, decide_eq_true_eq]
  omega

/-- A numeral is made of digits and a plus sign. -/
theorem IsNumeral.digit_or_plus (h : IsNumeral s n) (hc : c ∈ s) : c.isDigit = true ∨ c = '+' := by
  cases h with
  | plain _ hdigits => exact .inl (hdigits c hc)
  | plus _ hdigits =>
    rcases List.mem_cons.1 hc with rfl | hc
    · exact .inr rfl
    · exact .inl (hdigits c hc)

theorem IsNumeral.isBlank (h : IsNumeral s n) (hc : c ∈ s) : isBlank c = false := by
  rcases h.digit_or_plus hc with hdigit | rfl
  · exact isBlank_of_isDigit hdigit
  · decide

/-! ## Reading a numeral -/

theorem digitIn?_of_isDigit (h : c.isDigit = true) : digitIn? 10 c = some (digitValue c) := by
  obtain ⟨hlo, hhi⟩ := isDigit_iff.1 h
  have hrange : '0' ≤ c ∧ c ≤ '9' := by
    simp only [Char.le_def, UInt32.le_iff_toNat_le]
    exact ⟨hlo, hhi⟩
  have hlt : digitValue c < 10 := by
    show c.toNat - 48 < 10
    omega
  rw [digitIn?, if_pos hrange]
  exact Option.filter_some_pos (decide_eq_true hlt)

/-- The letters stand for digits of larger bases. -/
theorem isDigit_of_digitIn? (h : digitIn? 10 c = some d) : c.isDigit = true := by
  obtain ⟨hvalue, hlt⟩ := Option.filter_eq_some_iff.1 h
  rw [decide_eq_true_eq] at hlt
  split at hvalue
  · next hrange =>
    simp only [Char.le_def, UInt32.le_iff_toNat_le] at hrange
    exact isDigit_iff.2 hrange
  · split at hvalue
    · cases hvalue
      omega
    · split at hvalue
      · cases hvalue
        omega
      · cases hvalue

theorem digitIn?_eq_some_iff : digitIn? 10 c = some d ↔ c.isDigit = true ∧ d = digitValue c := by
  constructor
  · intro h
    have hdigit := isDigit_of_digitIn? h
    rw [digitIn?_of_isDigit hdigit] at h
    exact ⟨hdigit, (Option.some.inj h).symm⟩
  · rintro ⟨hdigit, rfl⟩
    exact digitIn?_of_isDigit hdigit

theorem decimalValue_cons (c : Char) (ds : Text) :
    decimalValue (c :: ds) = decimalValue ds + 10 ^ ds.length * digitValue c := by
  rw [decimalValue, List.map_cons, Nat.ofDigits_reverse_cons, List.length_map, decimalValue]

theorem digitsFrom_eq_some_iff (acc : Nat) : digitsFrom 10 acc ds = some n
    ↔ (∀ c ∈ ds, c.isDigit = true) ∧ n = decimalValue ds + 10 ^ ds.length * acc := by
  induction ds generalizing acc with
  | nil => simp [digitsFrom, decimalValue, eq_comm (a := n)]
  | cons c ds ih =>
    rw [digitsFrom]
    split
    · next d hd =>
      obtain ⟨hc, rfl⟩ := digitIn?_eq_some_iff.1 hd
      have hvalue : decimalValue (c :: ds) + 10 ^ (c :: ds).length * acc
          = decimalValue ds + 10 ^ ds.length * (acc * 10 + digitValue c) := by
        rw [decimalValue_cons, List.length_cons]
        ring
      rw [ih, hvalue, List.forall_mem_cons]
      simp [hc]
    · next hnone =>
      refine iff_of_false (by simp) fun h => ?_
      have hc := digitIn?_of_isDigit (h.1 c List.mem_cons_self)
      rw [hnone] at hc
      cases hc

theorem digits_eq_some_iff : digits 10 ds = some n
    ↔ ds ≠ [] ∧ (∀ c ∈ ds, c.isDigit = true) ∧ n = decimalValue ds := by
  cases ds with
  | nil => simp [digits]
  | cons c ds => rw [digits, digitsFrom_eq_some_iff]; simp

theorem natural_eq_some_iff : natural s = some n ↔ IsNumeral s n := by
  constructor
  · intro h
    unfold natural at h
    split at h
    · obtain ⟨hne, hdigits, rfl⟩ := digits_eq_some_iff.1 h
      exact .plus hne hdigits
    · obtain ⟨hne, hdigits, rfl⟩ := digits_eq_some_iff.1 h
      exact .plain hne hdigits
  · intro h
    cases h with
    | plain hne hdigits =>
      unfold natural
      split
      · exact absurd (hdigits '+' List.mem_cons_self) (by decide)
      · exact digits_eq_some_iff.2 ⟨hne, hdigits, rfl⟩
    | plus hne hdigits => exact digits_eq_some_iff.2 ⟨hne, hdigits, rfl⟩

theorem bounded_eq_some_iff {limit : Nat} :
    bounded limit s = some n ↔ IsNumeral s n ∧ n < limit := by
  rw [bounded, Option.filter_eq_some_iff, natural_eq_some_iff, decide_eq_true_eq]

/-! ## The numeral of a number -/

theorem ofNat_eq (n : Nat) : ofNat n = Nat.toDigits 10 n := Nat.toList_repr

theorem isDigit_of_mem_ofNat {n : Nat} {c : Char} (h : c ∈ ofNat n) : c.isDigit = true := by
  rw [ofNat_eq] at h
  exact Nat.isDigit_of_mem_toDigits (by omega) (by omega) h

theorem not_mem_ofNat (n : Nat) {c : Char} (hc : c.isDigit = false) : c ∉ ofNat n := by
  intro h
  simp [isDigit_of_mem_ofNat h] at hc

theorem digitIn?_digitChar {d : Nat} (h : d < 10) : digitIn? 10 d.digitChar = some d := by
  revert d
  decide

theorem digitsFrom_append (base acc : Nat) (s s' : Text) :
    digitsFrom base acc (s ++ s')
      = (digitsFrom base acc s).bind fun n => digitsFrom base n s' := by
  induction s generalizing acc with
  | nil => rfl
  | cons c s ih =>
    simp only [List.cons_append, digitsFrom]
    split
    · exact ih _
    · rfl

/-- The last digit comes off the end of a numeral. -/
theorem digitsFrom_toDigits (n : Nat) : digitsFrom 10 0 (Nat.toDigits 10 n) = some n := by
  induction n using Nat.strongRecOn with
  | ind n ih =>
    by_cases hn : n < 10
    · rw [Nat.toDigits_of_lt_base hn]
      simp [digitsFrom, digitIn?_digitChar hn]
    · have hlast : digitIn? 10 (n % 10).digitChar = some (n % 10) :=
        digitIn?_digitChar (Nat.mod_lt n (by omega))
      rw [Nat.toDigits_of_base_le (by omega) (by omega), digitsFrom_append,
        ih (n / 10) (by omega)]
      simp only [Option.bind_some, digitsFrom, hlast, Option.some.injEq]
      omega

theorem isNumeral_ofNat (n : Nat) : IsNumeral (ofNat n) n := by
  have hne : ofNat n ≠ [] := ofNat_eq n ▸ Nat.toDigits_ne_nil
  have hvalue : digitsFrom 10 0 (ofNat n) = some n := ofNat_eq n ▸ digitsFrom_toDigits n
  obtain ⟨hdigits, hn⟩ := (digitsFrom_eq_some_iff 0).1 hvalue
  rw [Nat.mul_zero, Nat.add_zero] at hn
  have hnumeral := IsNumeral.plain hne hdigits
  rwa [← hn] at hnumeral

/-- Different numbers have different numerals. -/
theorem ofNat_injective : Function.Injective ofNat := fun m n h => by
  have hm := natural_eq_some_iff.2 (isNumeral_ofNat m)
  rw [h, natural_eq_some_iff.2 (isNumeral_ofNat n)] at hm
  exact (Option.some.inj hm).symm

end SourceMend.Text
