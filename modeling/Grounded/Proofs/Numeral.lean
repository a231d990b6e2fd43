import Grounded.Number.Numeral
import Grounded.Text.Digit

/-!
# Numbers written in decimal

Every length, count and shape in a stored index is written with the decimal digits of a natural
number. The readers differ — a matrix header takes Unicode digits, a JSON number is an exact decimal —
but on what the writers write they agree: the digits of `n` read back as `n`.
-/

namespace Grounded

namespace Text

/-- The two tests for ASCII digits are the same. -/
theorem isAsciiDigit_eq_isDigit (c : Char) : isAsciiDigit c = c.isDigit := rfl

/-- Written numbers consist of ASCII digits. -/
theorem isAsciiDigit_of_mem_toDigits {n : Nat} {c : Char} (h : c ∈ Nat.toDigits 10 n) :
    isAsciiDigit c = true := by
  rw [isAsciiDigit_eq_isDigit]
  exact Nat.isDigit_of_mem_toDigits (by decide) (by decide) h

/-- The code points of the ASCII digits. -/
theorem toNat_bounds_of_isAsciiDigit {c : Char} (h : isAsciiDigit c = true) :
    48 ≤ c.toNat ∧ c.toNat ≤ 57 := by
  simp only [isAsciiDigit, Bool.and_eq_true, decide_eq_true_eq] at h
  exact h

/-- ASCII digits are decimal digits of some script. -/
theorem isDecimalDigit_of_isAsciiDigit {c : Char} (h : isAsciiDigit c = true) :
    isDecimalDigit c = true := by
  have hb := toNat_bounds_of_isAsciiDigit h
  have hn : ¬ c.toNat < 0x30 := by omega
  have hl : c.toNat ≤ 0x39 := by omega
  simp only [isDecimalDigit, digitRanges, Ranges.has, if_neg hn, hl, decide_true, Bool.true_or]

theorem isDecimalDigit_of_mem_toDigits {n : Nat} {c : Char} (h : c ∈ Nat.toDigits 10 n) :
    isDecimalDigit c = true :=
  isDecimalDigit_of_isAsciiDigit (isAsciiDigit_of_mem_toDigits h)

theorem digitValue?_of_isAsciiDigit {c : Char} (h : isAsciiDigit c = true) :
    digitValue? 10 c = some (c.toNat - '0'.toNat) := by
  have hb := toNat_bounds_of_isAsciiDigit h
  have hv : c.toNat - '0'.toNat < 10 := by
    have h0 : '0'.toNat = 48 := rfl
    omega
  have hd : ('0' ≤ c && c ≤ '9') = true := h
  unfold digitValue?
  rw [if_pos hd]
  exact if_pos hv

/-- On ASCII digits, the reader that can fail computes what the one that cannot computes. -/
theorem foldl_digitValue? {digits : List Char} (h : ∀ c ∈ digits, isAsciiDigit c = true) (n : Nat) :
    digits.foldl (fun n c => n.bind fun n => (digitValue? 10 c).map (10 * n + ·)) (some n)
      = some (Nat.ofDigitChars 10 digits n) := by
  induction digits generalizing n with
  | nil => rfl
  | cons c digits ih =>
      rw [List.foldl_cons, Option.bind_some, digitValue?_of_isAsciiDigit (h c (by simp)),
        Option.map_some, ih (fun x hx => h x (by simp [hx])), Nat.ofDigitChars_cons]

theorem digitsValue?_toDigits (n : Nat) : digitsValue? 10 (Nat.toDigits 10 n) = some n := by
  unfold digitsValue?
  rw [foldl_digitValue? (fun c => isAsciiDigit_of_mem_toDigits), Nat.ofDigitChars_ten_toDigits]

/-- A written number below the bound is read back. -/
theorem natural?_toDigits {n bound : Nat} (h : n < bound) :
    natural? bound (Nat.toDigits 10 n) = some n := by
  have hne : Nat.toDigits 10 n ≠ [] := Nat.toDigits_ne_nil
  -- a written number has no sign
  have hplus : ((Nat.toDigits 10 n).head? == some '+') = false := by
    rw [beq_eq_false_iff_ne]
    intro hp
    have hmem := isAsciiDigit_of_mem_toDigits (List.mem_of_mem_head? hp)
    exact absurd hmem (by decide)
  unfold natural?
  rw [hplus]
  simp only [Bool.false_eq_true, ↓reduceIte, List.isEmpty_iff, hne, digitsValue?_toDigits,
    Option.filter_some, h, decide_true]

/-- What is read as a number is below the bound. -/
theorem lt_of_natural? {bound n : Nat} {s : List Char} (h : natural? bound s = some n) :
    n < bound := by
  unfold natural? at h
  dsimp only at h
  generalize (if s.head? == some '+' then s.tail else s) = digits at h
  split at h
  · exact absurd h (by simp)
  · rw [Option.filter_eq_some_iff] at h
    exact of_decide_eq_true h.2

theorem foldl_digitValue?_none (base : Nat) (digits : List Char) :
    digits.foldl (fun n c => n.bind fun n => (digitValue? base c).map (base * n + ·)) none = none := by
  induction digits with
  | nil => rfl
  | cons c digits ih => exact ih

/-- Digits are read as their value, provided that it is below the bound. -/
theorem natural?_of_digitsValue? {digits : List Char} {n : Nat} (hne : digits ≠ [])
    (h : digitsValue? 10 digits = some n) (bound : Nat) :
    natural? bound digits = if n < bound then some n else none := by
  -- digits with a value have no sign either
  have hplus : (digits.head? == some '+') = false := by
    rw [beq_eq_false_iff_ne]
    intro hp
    obtain ⟨rest, rfl⟩ := List.head?_eq_some_iff.mp hp
    have hnone : digitsValue? 10 ('+' :: rest) = none := foldl_digitValue?_none 10 rest
    rw [hnone] at h
    cases h
  unfold natural?
  rw [hplus]
  simp only [Bool.false_eq_true, ↓reduceIte, List.isEmpty_iff, hne, h, Option.filter_some,
    decide_eq_true_eq]

/-- A number ends where the digits end. -/
theorem takeWhile_toDigits_append {p : Char → Bool} {n : Nat} (rest : List Char)
    (hp : ∀ c ∈ Nat.toDigits 10 n, p c = true) (hr : ∀ c ∈ rest.head?, p c = false) :
    (Nat.toDigits 10 n ++ rest).takeWhile p = Nat.toDigits 10 n ∧
      (Nat.toDigits 10 n ++ rest).dropWhile p = rest := by
  rw [List.takeWhile_append_of_pos hp, List.dropWhile_append_of_pos hp]
  cases rest with
  | nil => exact ⟨List.append_nil _, rfl⟩
  | cons c rest =>
      have hc : p c = false := hr c rfl
      rw [List.takeWhile_cons_of_neg (by simp [hc]), List.dropWhile_cons_of_neg (by simp [hc]),
        List.append_nil]
      exact ⟨rfl, rfl⟩

end Text

theorem Decimal.valueOf_toDigits (n : Nat) : Decimal.valueOf (Nat.toDigits 10 n) = n :=
  Nat.ofDigitChars_ten_toDigits

end Grounded
