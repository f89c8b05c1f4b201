import Mathlib.Data.List.Basic

/-! Byte strings as text: lower-case hexadecimal and standard base64 with padding. -/
namespace ByteText

section Hex

def hexAlphabet : List Char := "0123456789abcdef".toList

def hexDigit (n : Nat) : Char := hexAlphabet.getD n '0'

def hexValue (c : Char) : Option Nat := hexAlphabet.findIdx? (· = c)

def toHex : List UInt8 → List Char
  | [] => []
  | b :: bs => hexDigit (b.toNat / 16) :: hexDigit (b.toNat % 16) :: toHex bs

def fromHex : List Char → Option (List UInt8)
  | [] => some []
  | [_] => none
  | high :: low :: rest => do
    let h ← hexValue high
    let l ← hexValue low
    let bs ← fromHex rest
    return UInt8.ofNat (16 * h + l) :: bs

theorem toHex_cons (b : UInt8) (bs : List UInt8) :
    toHex (b :: bs) = hexDigit (b.toNat / 16) :: hexDigit (b.toNat % 16) :: toHex bs := rfl

theorem hexValue_hexDigit : ∀ n < 16, hexValue (hexDigit n) = some n := by decide

theorem fromHex_toHex (bs : List UInt8) : fromHex (toHex bs) = some bs := by
  induction bs with
  | nil => rfl
  | cons b bs ih =>
    have hb := b.toNat_lt
    have hbyte : UInt8.ofNat (16 * (b.toNat / 16) + b.toNat % 16) = b := by
      rw [Nat.div_add_mod, UInt8.ofNat_toNat]
    simp only [toHex_cons, fromHex, hexValue_hexDigit (b.toNat / 16) (by omega),
      hexValue_hexDigit (b.toNat % 16) (by omega), ih, Option.bind_eq_bind, Option.bind_some, hbyte,
      Option.pure_def]

theorem hexDigit_mem (n : Nat) : hexDigit n ∈ hexAlphabet := by
  rw [hexDigit, List.getD_eq_getElem?_getD]
  by_cases h : n < hexAlphabet.length
  · rw [List.getElem?_eq_getElem h]
    exact List.getElem_mem h
  · rw [List.getElem?_eq_none (by omega)]
    decide

theorem mem_toHex {bs : List UInt8} {c : Char} (h : c ∈ toHex bs) : c ∈ hexAlphabet := by
  induction bs with
  | nil => cases h
  | cons b bs ih =>
    rw [toHex_cons, List.mem_cons, List.mem_cons] at h
    obtain rfl | rfl | h := h
    · exact hexDigit_mem _
    · exact hexDigit_mem _
    · exact ih h

theorem length_toHex (bs : List UInt8) : (toHex bs).length = 2 * bs.length := by
  induction bs with
  | nil => rfl
  | cons b bs ih => simp only [toHex_cons, List.length_cons, ih]; omega

end Hex

section Base64

def base64Alphabet : List Char :=
  "ABCDEFGHIJKLMNOPQRSTUVWXYZabcdefghijklmnopqrstuvwxyz0123456789+/".toList

def base64Digit (n : Nat) : Char := base64Alphabet.getD n 'A'

def base64Value (c : Char) : Option Nat := base64Alphabet.findIdx? (· = c)

def toBase64 : List UInt8 → List Char
  | [] => []
  | [a] => [base64Digit (a.toNat / 4), base64Digit (a.toNat % 4 * 16), '=', '=']
  | [a, b] =>
    [base64Digit (a.toNat / 4), base64Digit (a.toNat % 4 * 16 + b.toNat / 16),
      base64Digit (b.toNat % 16 * 4), '=']
  | a :: b :: c :: rest =>
    base64Digit (a.toNat / 4) :: base64Digit (a.toNat % 4 * 16 + b.toNat / 16) ::
      base64Digit (b.toNat % 16 * 4 + c.toNat / 64) :: base64Digit (c.toNat % 64) :: toBase64 rest

theorem toBase64_one (a : UInt8) :
    toBase64 [a] = [base64Digit (a.toNat / 4), base64Digit (a.toNat % 4 * 16), '=', '='] := rfl

theorem toBase64_two (a b : UInt8) :
    toBase64 [a, b] = [base64Digit (a.toNat / 4), base64Digit (a.toNat % 4 * 16 + b.toNat / 16),
      base64Digit (b.toNat % 16 * 4), '='] := rfl

theorem toBase64_more (a b c : UInt8) (rest : List UInt8) :
    toBase64 (a :: b :: c :: rest) =
      base64Digit (a.toNat / 4) :: base64Digit (a.toNat % 4 * 16 + b.toNat / 16) ::
        base64Digit (b.toNat % 16 * 4 + c.toNat / 64) :: base64Digit (c.toNat % 64) ::
          toBase64 rest := rfl

/-- Induction by groups of three bytes, as the encoder takes them. -/
theorem threes_induction {motive : List UInt8 → Prop} (nil : motive []) (one : ∀ a, motive [a])
    (two : ∀ a b, motive [a, b])
    (more : ∀ a b c rest, motive rest → motive (a :: b :: c :: rest)) : ∀ bs, motive bs
  | [] => nil
  | [a] => one a
  | [a, b] => two a b
  | a :: b :: c :: rest => more a b c rest (threes_induction nil one two more rest)

theorem base64Alphabet_eq : base64Alphabet = [
    'A', 'B', 'C', 'D', 'E', 'F', 'G', 'H', 'I', 'J', 'K', 'L', 'M', 'N', 'O', 'P', 'Q', 'R', 'S',
    'T', 'U', 'V', 'W', 'X', 'Y', 'Z', 'a', 'b', 'c', 'd', 'e', 'f', 'g', 'h', 'i', 'j', 'k', 'l',
    'm', 'n', 'o', 'p', 'q', 'r', 's', 't', 'u', 'v', 'w', 'x', 'y', 'z', '0', '1', '2', '3', '4',
    '5', '6', '7', '8', '9', '+', '/'] :=
  String.toList_ofList

theorem base64Digit_mem (n : Nat) : base64Digit n ∈ base64Alphabet := by
  rw [base64Digit, List.getD_eq_getElem?_getD]
  by_cases h : n < base64Alphabet.length
  · rw [List.getElem?_eq_getElem h]
    exact List.getElem_mem h
  · rw [List.getElem?_eq_none (by omega), base64Alphabet_eq]
    exact List.mem_cons_self

theorem mem_toBase64 {bs : List UInt8} {c : Char} (h : c ∈ toBase64 bs) :
    c ∈ base64Alphabet ∨ c = '=' := by
  induction bs using threes_induction with
  | nil => cases h
  | one a =>
    simp only [toBase64_one, List.mem_cons, List.not_mem_nil, or_false] at h
    obtain rfl | rfl | rfl | rfl := h
    · exact Or.inl (base64Digit_mem _)
    · exact Or.inl (base64Digit_mem _)
    · exact Or.inr rfl
    · exact Or.inr rfl
  | two a b =>
    simp only [toBase64_two, List.mem_cons, List.not_mem_nil, or_false] at h
    obtain rfl | rfl | rfl | rfl := h
    · exact Or.inl (base64Digit_mem _)
    · exact Or.inl (base64Digit_mem _)
    · exact Or.inl (base64Digit_mem _)
    · exact Or.inr rfl
  | more a b c rest ih =>
    simp only [toBase64_more, List.mem_cons] at h
    obtain rfl | rfl | rfl | rfl | h := h
    · exact Or.inl (base64Digit_mem _)
    · exact Or.inl (base64Digit_mem _)
    · exact Or.inl (base64Digit_mem _)
    · exact Or.inl (base64Digit_mem _)
    · exact ih h

theorem length_toBase64 (bs : List UInt8) : (toBase64 bs).length = 4 * ((bs.length + 2) / 3) := by
  induction bs using threes_induction with
  | nil => rfl
  | one a => simp [toBase64_one]
  | two a b => simp [toBase64_two]
  | more a b c rest ih =>
    simp only [toBase64_more, List.length_cons, ih]
    omega

/-- Two bytes after the last full group leave one character of padding. -/
theorem toBase64_padded {bs : List UInt8} (h : bs.length % 3 = 2) :
    ∃ digits, toBase64 bs = digits ++ ['='] ∧ ∀ c ∈ digits, c ∈ base64Alphabet := by
  induction bs using threes_induction with
  | nil => cases h
  | one a => cases h
  | two a b =>
    refine ⟨[_, _, _], rfl, ?_⟩
    intro c hc
    simp only [List.mem_cons, List.not_mem_nil, or_false] at hc
    obtain rfl | rfl | rfl := hc
    · exact base64Digit_mem _
    · exact base64Digit_mem _
    · exact base64Digit_mem _
  | more a b c rest ih =>
    obtain ⟨digits, hdigits, hmem⟩ := ih (by simp only [List.length_cons] at h; omega)
    rw [toBase64_more, hdigits]
    refine ⟨_ :: _ :: _ :: _ :: digits, rfl, ?_⟩
    intro d hd
    simp only [List.mem_cons] at hd
    obtain rfl | rfl | rfl | rfl | hd := hd
    · exact base64Digit_mem _
    · exact base64Digit_mem _
    · exact base64Digit_mem _
    · exact base64Digit_mem _
    · exact hmem d hd

/-- Strict on the alphabet and on the place of the padding; the unused bits of the last digit are
ignored. -/
def fromBase64 : List Char → Option (List UInt8)
  | [] => some []
  | [p, q, '=', '='] => do
    let x ← base64Value p
    let y ← base64Value q
    return [UInt8.ofNat (x * 4 + y / 16)]
  | [p, q, r, '='] => do
    let x ← base64Value p
    let y ← base64Value q
    let z ← base64Value r
    return [UInt8.ofNat (x * 4 + y / 16), UInt8.ofNat (y % 16 * 16 + z / 4)]
  | p :: q :: r :: s :: rest => do
    let x ← base64Value p
    let y ← base64Value q
    let z ← base64Value r
    let w ← base64Value s
    let bs ← fromBase64 rest
    return UInt8.ofNat (x * 4 + y / 16) :: UInt8.ofNat (y % 16 * 16 + z / 4) ::
      UInt8.ofNat (z % 4 * 64 + w) :: bs
  | _ => none

theorem base64Value_base64Digit : ∀ n < 64, base64Value (base64Digit n) = some n := by
  unfold base64Value base64Digit
  rw [base64Alphabet_eq]
  decide +kernel

theorem base64Digit_ne_pad : ∀ n < 64, base64Digit n ≠ '=' := by
  unfold base64Digit
  rw [base64Alphabet_eq]
  decide +kernel

theorem fromBase64_pair {p q : Char} :
    fromBase64 [p, q, '=', '='] = (do
      let x ← base64Value p
      let y ← base64Value q
      return [UInt8.ofNat (x * 4 + y / 16)]) := rfl

theorem fromBase64_quad {p q r s : Char} {rest : List Char} (h : s ≠ '=') :
    fromBase64 (p :: q :: r :: s :: rest) = (do
      let x ← base64Value p
      let y ← base64Value q
      let z ← base64Value r
      let w ← base64Value s
      let bs ← fromBase64 rest
      return UInt8.ofNat (x * 4 + y / 16) :: UInt8.ofNat (y % 16 * 16 + z / 4) ::
        UInt8.ofNat (z % 4 * 64 + w) :: bs) := by
  rw [fromBase64.eq_def]
  split
  · next hnil => cases hnil
  · next heq =>
    cases heq
    exact absurd rfl h
  · next heq =>
    cases heq
    exact absurd rfl h
  · next heq =>
    cases heq
    rfl
  · next hother => exact absurd rfl (hother p q r s rest)

theorem fromBase64_triple {p q r : Char} (h : r ≠ '=') :
    fromBase64 [p, q, r, '='] = (do
      let x ← base64Value p
      let y ← base64Value q
      let z ← base64Value r
      return [UInt8.ofNat (x * 4 + y / 16), UInt8.ofNat (y % 16 * 16 + z / 4)]) := by
  rw [fromBase64.eq_def]
  split
  · next hnil => cases hnil
  · next heq =>
    cases heq
    exact absurd rfl h
  · next heq =>
    cases heq
    rfl
  · next hother heq =>
    cases heq
    exact False.elim (hother rfl rfl)
  · next hother => exact absurd rfl (hother p q r '=' [])

theorem ofNat_eq {n : Nat} {b : UInt8} (h : n = b.toNat) : UInt8.ofNat n = b := by
  rw [h, UInt8.ofNat_toNat]

theorem fromBase64_toBase64 (bs : List UInt8) : fromBase64 (toBase64 bs) = some bs := by
  induction bs using threes_induction with
  | nil => rfl
  | one a =>
    have ha := a.toNat_lt
    rw [toBase64_one, fromBase64_pair]
    simp only [base64Value_base64Digit (a.toNat / 4) (by omega),
      base64Value_base64Digit (a.toNat % 4 * 16) (by omega), Option.bind_eq_bind, Option.bind_some,
      Option.pure_def]
    rw [@ofNat_eq _ a (by omega)]
  | two a b =>
    have ha := a.toNat_lt
    have hb := b.toNat_lt
    rw [toBase64_two, fromBase64_triple (base64Digit_ne_pad _ (by omega))]
    simp only [base64Value_base64Digit (a.toNat / 4) (by omega),
      base64Value_base64Digit (a.toNat % 4 * 16 + b.toNat / 16) (by omega),
      base64Value_base64Digit (b.toNat % 16 * 4) (by omega), Option.bind_eq_bind, Option.bind_some,
      Option.pure_def]
    rw [@ofNat_eq _ a (by omega), @ofNat_eq _ b (by omega)]
  | more a b c rest ih =>
    have ha := a.toNat_lt
    have hb := b.toNat_lt
    have hc := c.toNat_lt
    rw [toBase64_more, fromBase64_quad (base64Digit_ne_pad _ (by omega)), ih]
    simp only [base64Value_base64Digit (a.toNat / 4) (by omega),
      base64Value_base64Digit (a.toNat % 4 * 16 + b.toNat / 16) (by omega),
      base64Value_base64Digit (b.toNat % 16 * 4 + c.toNat / 64) (by omega),
      base64Value_base64Digit (c.toNat % 64) (by omega), Option.bind_eq_bind, Option.bind_some,
      Option.pure_def]
    rw [@ofNat_eq _ a (by omega), @ofNat_eq _ b (by omega), @ofNat_eq _ c (by omega)]

end Base64

section Split

variable {α : Type} [DecidableEq α]

/-- The pieces of a text between the occurrences of a separator; there is always one. -/
def splitOn (sep : α) : List α → List (List α)
  | [] => [[]]
  | c :: cs =>
    if c = sep then [] :: splitOn sep cs
    else
      match splitOn sep cs with
      | [] => [[c]]
      | piece :: pieces => (c :: piece) :: pieces

theorem splitOn_cons {sep c : α} {cs : List α} : splitOn sep (c :: cs) =
    if c = sep then [] :: splitOn sep cs
    else
      match splitOn sep cs with
      | [] => [[c]]
      | piece :: pieces => (c :: piece) :: pieces := rfl

theorem splitOn_of_not_mem {sep : α} {piece : List α} (h : sep ∉ piece) :
    splitOn sep piece = [piece] := by
  induction piece with
  | nil => rfl
  | cons c piece ih =>
    rw [List.mem_cons, not_or] at h
    rw [splitOn_cons, if_neg (Ne.symm h.1), ih h.2]

theorem splitOn_append {sep : α} {piece rest : List α} (h : sep ∉ piece) :
    splitOn sep (piece ++ sep :: rest) = piece :: splitOn sep rest := by
  induction piece with
  | nil => rw [List.nil_append, splitOn_cons, if_pos rfl]
  | cons c piece ih =>
    rw [List.mem_cons, not_or] at h
    rw [List.cons_append, splitOn_cons, if_neg (Ne.symm h.1), ih h.2]

/-- Pieces without the separator are found again once they have been joined by it. -/
theorem splitOn_intercalate {sep : α} {pieces : List (List α)} (hne : pieces ≠ [])
    (h : ∀ piece ∈ pieces, sep ∉ piece) : splitOn sep ([sep].intercalate pieces) = pieces := by
  induction pieces with
  | nil => exact absurd rfl hne
  | cons piece pieces ih =>
    cases pieces with
    | nil => simpa using splitOn_of_not_mem (h piece (by simp))
    | cons next rest =>
      have hrest := ih (by simp) fun p hp => h p (List.mem_cons_of_mem _ hp)
      rw [List.intercalate_cons_cons, List.append_assoc, List.singleton_append,
        splitOn_append (h piece (by simp)), hrest]

end Split

end ByteText
