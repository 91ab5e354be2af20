import Mathlib.Data.List.AList
import Mathlib.Data.List.Sort

/-!
# Go byte strings

A Go `string` is a finite byte sequence, not necessarily valid UTF-8. Everything an SSH peer sends
(user names, hosts, commands, request types) is modeled at that type, so that statements about
"any string a client can send" range over all byte sequences.

The operations of the `strings`, `strconv` and `path` packages that the gateway uses are given here
at the byte level, each with the one lemma its callers need: what the pieces it returns are.
-/

namespace KubeSsh

/-- A Go `string`: a byte sequence. -/
abbrev GoString := List UInt8

instance : LawfulBEq GoString := inferInstance

/-- A Go string literal, for literals made of ASCII characters. -/
def str (s : String) : GoString := s.toList.map fun c => UInt8.ofNat c.toNat

/-- A Go `map[string]V`; a missing key reads as `none`. -/
abbrev GoMap (V : Type) := AList (fun _ : GoString => V)

namespace GoMap

variable {V : Type} [BEq V] [LawfulBEq V] [DecidableEq V] (m : GoMap V)

/-- How often a value is stored, after one more key. -/
theorem count_insert {m : GoMap V} {key : GoString} (h : key ∉ m) (v w : V) :
    ((m.insert key v).entries.map (·.2)).count w
      = (m.entries.map (·.2)).count w + if v = w then 1 else 0 := by
  rw [AList.entries_insert_of_notMem h, List.map_cons, List.count_cons]
  simp

theorem count_erase (key : GoString) (w : V) :
    ((m.erase key).entries.map (·.2)).count w + (if m.lookup key = some w then 1 else 0)
      = (m.entries.map (·.2)).count w := by
  change ((m.entries.kerase key).map (·.2)).count w +
    (if m.entries.dlookup key = some w then 1 else 0) = _
  by_cases hkey : key ∈ m.entries.keys
  · obtain ⟨v, l1, l2, hnot, hsplit, herase⟩ := List.exists_of_kerase hkey
    have hlookup : m.entries.dlookup key = some v := by
      rw [hsplit, List.dlookup_append, List.dlookup_eq_none.mpr hnot, List.dlookup_cons_eq]
      rfl
    rw [hlookup, herase, hsplit]
    simp only [List.map_append, List.map_cons, List.count_append, List.count_cons,
      Option.some.injEq, beq_iff_eq]
    omega
  · rw [List.kerase_of_notMem_keys hkey, List.dlookup_eq_none.mpr hkey]
    simp

end GoMap

namespace Byte

def newline : UInt8 := 10
def carriageReturn : UInt8 := 13
def star : UInt8 := 42
def dot : UInt8 := 46
def slash : UInt8 := 47
def colon : UInt8 := 58
def equals : UInt8 := 61
def lbracket : UInt8 := 91
def rbracket : UInt8 := 93
def tilde : UInt8 := 126

end Byte

namespace Strings

variable {α : Type*} [DecidableEq α]

/-! ## Cutting at a separator -/

/-- `strings.Cut` for a one-byte separator: split around the first occurrence. -/
def cut (c : α) : List α → Option (List α × List α)
  | [] => none
  | x :: xs => if x = c then some ([], xs) else (cut c xs).map fun p => (x :: p.1, p.2)

/-- `cut` finds the first separator: the part before it is separator-free. -/
theorem cut_eq_some_iff {c : α} {s a b : List α} :
    cut c s = some (a, b) ↔ s = a ++ c :: b ∧ c ∉ a := by
  induction s generalizing a with
  | nil => simp [cut]
  | cons x xs ih =>
    by_cases hx : x = c
    · subst hx
      cases a with
      | nil => simp [cut]
      | cons y ys =>
        simp only [cut, List.cons_append, List.cons.injEq, List.mem_cons, not_or]
        constructor
        · simp
        · rintro ⟨⟨rfl, -⟩, h, -⟩
          exact absurd rfl h
    · cases a with
      | nil =>
        simp only [cut, if_neg hx, Option.map_eq_some_iff]
        simp [hx]
      | cons y ys =>
        simp only [cut, if_neg hx, Option.map_eq_some_iff, Prod.mk.injEq, List.cons.injEq,
          List.cons_append, List.mem_cons, not_or]
        constructor
        · rintro ⟨⟨p, q⟩, hp, ⟨rfl, rfl⟩, rfl⟩
          obtain ⟨hs, hc⟩ := ih.mp hp
          exact ⟨⟨rfl, hs⟩, fun h => hx h.symm, hc⟩
        · rintro ⟨⟨rfl, hs⟩, -, hc⟩
          exact ⟨(ys, b), ih.mpr ⟨hs, hc⟩, ⟨rfl, rfl⟩, rfl⟩

theorem cut_eq_none_iff {c : α} {s : List α} : cut c s = none ↔ c ∉ s := by
  induction s with
  | nil => simp [cut]
  | cons x xs ih =>
    by_cases hx : x = c
    · simp [cut, hx]
    · simp [cut, hx, ih, Ne.symm (a := x) (b := c) hx]

/-- Two ways to split a text at the first occurrence of a separator are the same way. -/
theorem append_cons_inj_of_notMem_left {c : α} {a b v1 v2 : List α} (ha : c ∉ a) (hv1 : c ∉ v1)
    (h : a ++ c :: b = v1 ++ c :: v2) : v1 = a ∧ v2 = b := by
  have hcut : cut c (a ++ c :: b) = some (a, b) := cut_eq_some_iff.mpr ⟨rfl, ha⟩
  have hcut' : cut c (a ++ c :: b) = some (v1, v2) := cut_eq_some_iff.mpr ⟨h, hv1⟩
  exact Prod.mk.inj (Option.some.inj (hcut'.symm.trans hcut))

/-- Two ways to split a text at a separator that occurs only once are the same way. -/
theorem append_cons_inj_of_notMem {c : α} {a b v1 v2 : List α} (ha : c ∉ a) (hb : c ∉ b)
    (h : a ++ c :: b = v1 ++ c :: v2) : v1 = a ∧ v2 = b := by
  have hv1 : c ∉ v1 := by
    rcases List.append_eq_append_iff.mp h with ⟨w, rfl, hw⟩ | ⟨w, rfl, hw⟩
    · cases w with
      | nil => simpa using ha
      | cons d w =>
        obtain ⟨-, rfl⟩ := List.cons.inj hw
        exact absurd (by simp) hb
    · exact fun hm => ha (by simp [hm])
  exact append_cons_inj_of_notMem_left ha hv1 h

/-- Cutting at the last separator: what `strings.LastIndexByte` and the two slices around the index
it returns amount to. -/
def cutLast (c : α) (s : List α) : Option (List α × List α) :=
  (cut c s.reverse).map fun p => (p.2.reverse, p.1.reverse)

/-- `cutLast` finds the last separator: the part after it is separator-free. -/
theorem cutLast_eq_some_iff {c : α} {s a b : List α} :
    cutLast c s = some (a, b) ↔ s = a ++ c :: b ∧ c ∉ b := by
  simp only [cutLast, Option.map_eq_some_iff, Prod.mk.injEq, Prod.exists]
  constructor
  · rintro ⟨p, q, hp, rfl, rfl⟩
    obtain ⟨hs, hc⟩ := cut_eq_some_iff.mp hp
    refine ⟨?_, by simpa using hc⟩
    rw [← s.reverse_reverse, hs]
    simp
  · rintro ⟨rfl, hc⟩
    exact ⟨b.reverse, a.reverse, cut_eq_some_iff.mpr ⟨by simp, by simpa using hc⟩, by simp⟩

theorem cutLast_eq_none_iff {c : α} {s : List α} : cutLast c s = none ↔ c ∉ s := by
  simp [cutLast, cut_eq_none_iff]

/-! ## Searching for a substring -/

/-- `strings.Index` followed by the slice `rest[idx+len(part):]`: what is left after the first
occurrence of `part`, or `none` when there is none. -/
def afterFirst (part : List α) : List α → Option (List α)
  | [] => if part.isPrefixOf [] then some [] else none
  | x :: xs => if part.isPrefixOf (x :: xs) then some ((x :: xs).drop part.length)
      else afterFirst part xs

/-- What `afterFirst` returns is the rest of the value behind one occurrence of `part`. -/
theorem afterFirst_eq_some {part s rest : List α} (h : afterFirst part s = some rest) :
    ∃ pre, s = pre ++ part ++ rest := by
  induction s with
  | nil =>
    simp only [afterFirst] at h
    split at h
    · rename_i hp
      obtain ⟨t, ht⟩ := List.isPrefixOf_iff_prefix.mp hp
      obtain ⟨rfl, rfl⟩ := List.append_eq_nil_iff.mp ht
      exact ⟨[], by simpa using h⟩
    · cases h
  | cons x xs ih =>
    simp only [afterFirst] at h
    split at h
    · rename_i hp
      obtain ⟨t, ht⟩ := List.isPrefixOf_iff_prefix.mp hp
      rw [← ht, List.drop_left] at h
      exact ⟨[], by simpa [← ht] using h⟩
    · obtain ⟨pre, rfl⟩ := ih h
      exact ⟨x :: pre, by simp⟩

/-- The occurrence `afterFirst` finds is the first one: any other occurrence leaves a suffix of
what it leaves. -/
theorem afterFirst_of_append (pre part rest : List α) :
    ∃ pre' rest', afterFirst part (pre ++ part ++ rest) = some rest' ∧ rest' = pre' ++ rest := by
  induction pre with
  | nil =>
    have hp : part.isPrefixOf (part ++ rest) = true :=
      List.isPrefixOf_iff_prefix.mpr ⟨rest, rfl⟩
    refine ⟨[], rest, ?_, rfl⟩
    cases hs : part ++ rest with
    | nil =>
      obtain ⟨rfl, rfl⟩ := List.append_eq_nil_iff.mp hs
      rfl
    | cons y ys =>
      rw [List.nil_append, hs, afterFirst, ← hs, if_pos hp, List.drop_left]
  | cons x xs ih =>
    obtain ⟨pre', rest', h, rfl⟩ := ih
    by_cases hp : part.isPrefixOf (x :: (xs ++ part ++ rest)) = true
    · refine ⟨?_, ?_, by simp only [List.cons_append, afterFirst, if_pos hp]; rfl, ?_⟩
      · exact (x :: (xs ++ part)).drop part.length
      · rw [show x :: (xs ++ part ++ rest) = (x :: (xs ++ part)) ++ rest by simp,
          List.drop_append_of_le_length (by simp; omega)]
    · exact ⟨pre', _, by simp only [List.cons_append, afterFirst, if_neg hp, h], rfl⟩

/-- `unicode.ToLower` on ASCII. -/
def lowerASCII (c : UInt8) : UInt8 := if 65 ≤ c ∧ c ≤ 90 then c + 32 else c

/-- `strings.EqualFold(s, t)` for an ASCII string `t`. Two letters outside ASCII fold to an ASCII
one: the long s (U+017F) and the Kelvin sign (U+212A). -/
def equalFoldASCII : GoString → GoString → Bool
  | [], [] => true
  | 0xC5 :: 0xBF :: s, c :: t => lowerASCII c = 115 && equalFoldASCII s t
  | 0xE2 :: 0x84 :: 0xAA :: s, c :: t => lowerASCII c = 107 && equalFoldASCII s t
  | b :: s, c :: t => lowerASCII b = lowerASCII c && equalFoldASCII s t
  | _, _ => false

/-! ## Replacing -/

/-- The text with the occurrences of `old` replaced, the first `skip` elements of it dropped as the
rest of an occurrence. -/
def replaceFrom (old new : GoString) : ℕ → GoString → GoString
  | _, [] => []
  | skip + 1, _ :: rest => replaceFrom old new skip rest
  | 0, c :: rest =>
    if old.isPrefixOf (c :: rest) then new ++ replaceFrom old new (old.length - 1) rest
    else c :: replaceFrom old new 0 rest

/-- `bytes.ReplaceAll` for an `old` that is not empty: occurrences are found from left to right and
do not overlap. -/
def replaceAll (old new s : GoString) : GoString := replaceFrom old new 0 s

/-! ## White space -/

/-- The UTF-8 encodings of the characters with `unicode.IsSpace`. -/
def spaces : List GoString :=
  [[9], [10], [11], [12], [13], [32], [0xC2, 0x85], [0xC2, 0xA0], [0xE1, 0x9A, 0x80],
   [0xE2, 0x80, 0x80], [0xE2, 0x80, 0x81], [0xE2, 0x80, 0x82], [0xE2, 0x80, 0x83],
   [0xE2, 0x80, 0x84], [0xE2, 0x80, 0x85], [0xE2, 0x80, 0x86], [0xE2, 0x80, 0x87],
   [0xE2, 0x80, 0x88], [0xE2, 0x80, 0x89], [0xE2, 0x80, 0x8A], [0xE2, 0x80, 0xA8],
   [0xE2, 0x80, 0xA9], [0xE2, 0x80, 0xAF], [0xE2, 0x81, 0x9F], [0xE3, 0x80, 0x80]]

/-- The text behind all leading `units`; at most one is dropped for every unit of fuel. -/
def dropLeading (units : List GoString) : ℕ → GoString → GoString
  | 0, s => s
  | fuel + 1, s =>
    match units.find? (·.isPrefixOf s) with
    | none => s
    | some unit => dropLeading units fuel (s.drop unit.length)

/-- `strings.TrimSpace`. A space is encoded in at least one byte, and no encoding is the end of
another, so spaces can be dropped from the end in the same way. -/
def trimSpace (s : GoString) : GoString :=
  let rest := dropLeading spaces s.length s
  (dropLeading (spaces.map List.reverse) rest.length rest.reverse).reverse

end Strings

/-! ## Paths and numbers -/

/-- `path.Base`: the last element of a slash-separated path, after trailing slashes are removed. -/
def pathBase (path : GoString) : GoString :=
  if path = [] then [Byte.dot]
  else
    let trimmed := (path.reverse.dropWhile (· == Byte.slash)).reverse
    let last := match Strings.cutLast Byte.slash trimmed with
      | some (_, base) => base
      | none => trimmed
    if last = [] then [Byte.slash] else last

/-- `strconv.FormatUint(n, 10)`. -/
def decimal (n : ℕ) : GoString := (Nat.toDigits 10 n).map fun c => UInt8.ofNat c.toNat

/-- A digit as a byte is the character it was. -/
theorem ofNat_toNat_of_isDigit {c : Char} (h : c.isDigit = true) :
    48 ≤ c.toNat ∧ c.toNat ≤ 57 ∧ Char.ofNat (UInt8.ofNat c.toNat).toNat = c := by
  have hrange : 48 ≤ c.toNat ∧ c.toNat ≤ 57 := by
    simpa [Char.isDigit, UInt32.le_iff_toNat_le] using h
  refine ⟨hrange.1, hrange.2, ?_⟩
  rw [UInt8.toNat_ofNat_of_lt' (show c.toNat < 256 by omega), Char.ofNat_toNat]

theorem decimal_digits {n : ℕ} {b : UInt8} (h : b ∈ decimal n) : 48 ≤ b.toNat ∧ b.toNat ≤ 57 := by
  obtain ⟨c, hc, rfl⟩ := List.mem_map.mp h
  have hdigit := Nat.isDigit_of_mem_toDigits (by decide) (by decide) hc
  obtain ⟨hlow, hhigh, -⟩ := ofNat_toNat_of_isDigit hdigit
  rw [UInt8.toNat_ofNat_of_lt' (show c.toNat < 256 by omega)]
  exact ⟨hlow, hhigh⟩

theorem decimal_injective : Function.Injective decimal := by
  intro m n h
  have hchars : ∀ k, (decimal k).map (fun b => Char.ofNat b.toNat) = Nat.toDigits 10 k := by
    intro k
    have hdigit : ∀ c ∈ Nat.toDigits 10 k, Char.ofNat (UInt8.ofNat c.toNat).toNat = c := fun c hc =>
      (ofNat_toNat_of_isDigit (Nat.isDigit_of_mem_toDigits (by decide) (by decide) hc)).2.2
    rw [decimal, List.map_map]
    exact (List.map_congr_left hdigit).trans (List.map_id _)
  have hvalue : ∀ k, Nat.ofDigitChars 10 ((decimal k).map fun b => Char.ofNat b.toNat) 0 = k := by
    intro k
    rw [hchars, Nat.ofDigitChars_toDigits (by decide) (by decide)]
  rw [← hvalue m, h, hvalue]

/-- `strconv.FormatInt(n, 10)`. -/
def formatInt : ℤ → GoString
  | .ofNat n => decimal n
  | .negSucc n => 45 :: decimal (n + 1)

/-- The first value stored under a key of a `map[string][]string`, `""` when there is none. -/
def firstValue (values : GoMap (List GoString)) (key : GoString) : GoString :=
  ((values.lookup key).getD []).headD []

/-! ## Formatted messages -/

/-- A piece of a text made by `fmt.Errorf` or `fmt.Sprintf`: bytes, or a string printed with
`%q`. -/
inductive Piece
  | bytes (s : GoString)
  | quoted (s : GoString)
deriving DecidableEq

/-- The text of an error or of a reason. -/
abbrev Message := List Piece

namespace Message

/-- A message that is one Go string. -/
def ofString (s : GoString) : Message := [.bytes s]

/-- A constant message. -/
def text (s : String) : Message := ofString (str s)

/-- Whether the text is `""`. A quoted string has at least its two quotation marks. -/
def isEmpty (message : Message) : Bool :=
  message.all fun
    | .bytes s => s.isEmpty
    | .quoted _ => false

/-- The bytes of a text; `quote` is `%q`. -/
def render (quote : GoString → GoString) (message : Message) : GoString :=
  message.flatMap fun
    | .bytes s => s
    | .quoted s => quote s

end Message

example : pathBase (str "/usr/bin/scp/") = str "scp" := by decide
example : pathBase (str "//") = str "/" := by decide
example : Strings.trimSpace (str "\t two words \r\n" ++ [0xC2, 0xA0]) = str "two words" := by decide

end KubeSsh
