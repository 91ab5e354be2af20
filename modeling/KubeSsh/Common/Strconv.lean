import KubeSsh.Common.GoString
import Mathlib.Algebra.Order.Ring.Int

/-!
# Numbers in strings

The parsers of Go's package `strconv` for bases up to ten, with the two errors they can return.
-/

namespace KubeSsh

namespace Strconv

/-- `strconv.ErrSyntax`, `strconv.ErrRange`. -/
inductive NumError
  | invalid
  | range
deriving DecidableEq

/-- The text of a `strconv.NumError`. -/
def NumError.text (function : String) (s : GoString) (err : NumError) : Message :=
  [.bytes (str "strconv." ++ str function ++ str ": parsing "), .quoted s,
    .bytes (match err with
      | .invalid => str ": invalid syntax"
      | .range => str ": value out of range")]

/-- The value of a digit. -/
def digit (base : ℕ) (c : UInt8) : Option ℕ :=
  if 48 ≤ c.toNat ∧ c.toNat < 48 + base then some (c.toNat - 48) else none

/-- The loop of `ParseUint`: the value so far, and the digits to come. -/
def parseDigits (base max : ℕ) : ℕ → GoString → Except NumError ℕ
  | n, [] => .ok n
  | n, c :: s =>
    match digit base c with
    | none => .error .invalid
    | some d => if n * base + d > max then .error .range else parseDigits base max (n * base + d) s

/-- `strconv.ParseUint`. -/
def parseUint (base bits : ℕ) (s : GoString) : Except NumError ℕ :=
  if s = [] then .error .invalid else parseDigits base (2 ^ bits - 1) 0 s

/-- The sign of a number, and what follows it. -/
def sign : GoString → Bool × GoString
  | 43 :: s => (false, s)
  | 45 :: s => (true, s)
  | s => (false, s)

/-- `strconv.ParseInt`. -/
def parseInt (base bits : ℕ) (s : GoString) : Except NumError ℤ :=
  let (neg, digits) := sign s
  match parseUint base bits digits with
  | .error err => .error err
  | .ok n =>
    if neg then if n > 2 ^ (bits - 1) then .error .range else .ok (-n)
    else if n ≥ 2 ^ (bits - 1) then .error .range else .ok n

example : parseUint 8 32 (str "0755") = .ok 493 := by decide
example : parseUint 8 32 (str "0789") = .error .invalid := by decide
example : parseInt 10 64 (str "-9223372036854775808") = .ok (-9223372036854775808) := by decide
example : parseInt 10 64 (str "+9223372036854775808") = .error .range := by decide

/-! ## Reading back what was written -/

/-- The digits of a number. -/
def digits (base n : ℕ) : GoString := (Nat.toDigits base n).map fun c => UInt8.ofNat c.toNat

theorem digits_ne_nil (base n : ℕ) : digits base n ≠ [] := by
  rw [digits, Ne, List.map_eq_nil_iff]
  exact Nat.toDigits_ne_nil

theorem digits_range {base n : ℕ} (hpos : 0 < base) (hbase : base ≤ 10) {b : UInt8}
    (h : b ∈ digits base n) : 48 ≤ b.toNat ∧ b.toNat ≤ 57 := by
  obtain ⟨c, hc, rfl⟩ := List.mem_map.mp h
  obtain ⟨hlow, hhigh, -⟩ := ofNat_toNat_of_isDigit (Nat.isDigit_of_mem_toDigits hpos hbase hc)
  rw [UInt8.toNat_ofNat_of_lt' (show c.toNat < 256 by omega)]
  exact ⟨hlow, hhigh⟩

section Digits

variable {base max : ℕ}

theorem digit_digitChar (hbase : base ≤ 10) {d : ℕ} (hd : d < base) :
    digit base (UInt8.ofNat (Nat.digitChar d).toNat) = some d := by
  rw [Nat.toNat_digitChar_of_lt_ten (Nat.lt_of_lt_of_le hd hbase), digit,
    UInt8.toNat_ofNat_of_lt' (show 48 + d < 256 by omega), if_pos ⟨by omega, by omega⟩, Nat.add_sub_cancel_left]

theorem parseDigits_append (n : ℕ) (s t : GoString) : parseDigits base max n (s ++ t) =
    match parseDigits base max n s with
    | .error err => .error err
    | .ok m => parseDigits base max m t := by
  induction s generalizing n with
  | nil => rfl
  | cons c s ih =>
    rw [List.cons_append, parseDigits, parseDigits]
    cases digit base c with
    | none => rfl
    | some d =>
      dsimp only
      split
      · rfl
      · exact ih _

/-- One more digit. -/
theorem parseDigits_digitChar (hbase : base ≤ 10) {n d : ℕ} (hd : d < base) (hmax : n * base + d ≤ max) :
    parseDigits base max n [UInt8.ofNat (Nat.digitChar d).toNat] = .ok (n * base + d) := by
  simp [parseDigits, digit_digitChar hbase hd, Nat.not_lt.mpr hmax]

theorem parseDigits_digits (hone : 1 < base) (hbase : base ≤ 10) {n : ℕ} (hn : n ≤ max) :
    parseDigits base max 0 (digits base n) = .ok n := by
  induction n using Nat.strong_induction_on with
  | _ n ih =>
    by_cases hlt : n < base
    · have hdigit : parseDigits base max 0 _ = _ := parseDigits_digitChar hbase hlt (by omega)
      rw [digits, Nat.toDigits_of_lt_base hlt]
      simpa using hdigit
    · have hle : base ≤ n := Nat.le_of_not_lt hlt
      have hdiv : n / base < n := Nat.div_lt_self (by omega) hone
      have hvalue : n / base * base + n % base = n := Nat.div_add_mod' n base
      have hrest := ih (n / base) hdiv (by omega)
      rw [digits] at hrest
      rw [digits, Nat.toDigits_of_base_le hone hle, List.map_append, parseDigits_append, hrest]
      refine (parseDigits_digitChar hbase (Nat.mod_lt n (by omega)) (by omega)).trans ?_
      rw [hvalue]

/-- Leading zeros do not count. -/
theorem parseDigits_zeros (hpos : 0 < base) (k : ℕ) (s : GoString) :
    parseDigits base max 0 (List.replicate k 48 ++ s) = parseDigits base max 0 s := by
  have hzero : digit base 48 = some 0 := by simp [digit, hpos]
  induction k with
  | zero => rfl
  | succ k ih =>
    rw [List.replicate_succ, List.cons_append, parseDigits, hzero]
    simpa using ih

end Digits

/-- A number that was written with leading zeros is read back. -/
theorem parseUint_digits {base bits : ℕ} (hone : 1 < base) (hbase : base ≤ 10) {n : ℕ} (hn : n < 2 ^ bits)
    (zeros : ℕ) : parseUint base bits (List.replicate zeros 48 ++ digits base n) = .ok n := by
  have hne : List.replicate zeros 48 ++ digits base n ≠ [] := by simp [digits_ne_nil]
  rw [parseUint, if_neg hne, parseDigits_zeros (by omega), parseDigits_digits hone hbase (by omega)]

theorem parseInt_decimal {bits n : ℕ} (hn : n < 2 ^ (bits - 1)) : parseInt 10 bits (decimal n) = .ok n := by
  have hsign : sign (decimal n) = (false, decimal n) := by
    cases hdigits : decimal n with
    | nil => rfl
    | cons c s =>
      have hrange := decimal_digits (n := n) (b := c) (by rw [hdigits]; exact List.mem_cons_self)
      unfold sign
      split
      · simp_all
      · simp_all
      · simp_all
  have hbits : n < 2 ^ bits := Nat.lt_of_lt_of_le hn (Nat.pow_le_pow_right (by decide) (Nat.sub_le bits 1))
  have hparse : parseUint 10 bits (decimal n) = .ok n := parseUint_digits (by decide) (by decide) hbits 0
  rw [parseInt, hsign]
  simp [hparse, Nat.not_le.mpr hn]

end Strconv

end KubeSsh
