import Mathlib.Algebra.GroupWithZero.Nat
import Mathlib.Data.List.Basic

/-! Compact ASCII JSON text of flat objects: a writer that escapes, and its reader. -/
namespace JsonText

/-- A member value: a natural number or a string. -/
inductive Scalar where
  | number (n : Nat)
  | text (s : List Char)
  deriving DecidableEq, Repr

abbrev Object := List (List Char × Scalar)

def hexQuad (n : Nat) : List Char :=
  [n / 4096 % 16, n / 256 % 16, n / 16 % 16, n % 16].map Nat.digitChar

def unicodeEscape (n : Nat) : List Char := '\\' :: 'u' :: hexQuad n

/-- The characters with a two-character escape, and its second character. -/
def shortEscapes : List (Char × Char) :=
  [('"', '"'), ('\\', '\\'), ('\n', 'n'), ('\r', 'r'), ('\t', 't'), ('\x08', 'b'), ('\x0c', 'f')]

/-- One character of a string literal; everything outside space to tilde is escaped. -/
def escapeChar (c : Char) : List Char :=
  match shortEscapes.lookup c with
  | some e => ['\\', e]
  | none =>
    if 32 ≤ c.toNat ∧ c.toNat ≤ 126 then [c]
    else if c.toNat < 0x10000 then unicodeEscape c.toNat
    else unicodeEscape (0xD800 + (c.toNat - 0x10000) / 0x400) ++
      unicodeEscape (0xDC00 + (c.toNat - 0x10000) % 0x400)

def quote (s : List Char) : List Char := '"' :: (s.flatMap escapeChar ++ ['"'])

/-- One character of a string literal that keeps every character beyond the control ones. -/
def plainEscape (c : Char) : List Char :=
  match shortEscapes.lookup c with
  | some e => ['\\', e]
  | none => if c.toNat < 32 then unicodeEscape c.toNat else [c]

def quotePlain (s : List Char) : List Char := '"' :: (s.flatMap plainEscape ++ ['"'])

def Scalar.write : Scalar → List Char
  | .number n => Nat.toDigits 10 n
  | .text s => quote s

def writeMember (m : List Char × Scalar) : List Char := quote m.1 ++ ':' :: m.2.write

/-- The members after the opening brace, up to and with the closing one. -/
def writeMembers : Object → List Char
  | [] => ['}']
  | [m] => writeMember m ++ ['}']
  | m :: n :: rest => writeMember m ++ ',' :: writeMembers (n :: rest)

def writeObject (o : Object) : List Char := '{' :: writeMembers o

def hexValue (c : Char) : Option Nat :=
  if '0' ≤ c ∧ c ≤ '9' then some (c.toNat - 48)
  else if 'a' ≤ c ∧ c ≤ 'f' then some (c.toNat - 87)
  else if 'A' ≤ c ∧ c ≤ 'F' then some (c.toNat - 55)
  else none

def readQuad : List Char → Option (Nat × List Char)
  | a :: b :: c :: d :: rest => do
    let a ← hexValue a
    let b ← hexValue b
    let c ← hexValue c
    let d ← hexValue d
    return (((a * 16 + b) * 16 + c) * 16 + d, rest)
  | _ => none

/-- The second half of a surrogate pair whose first half was `high`. -/
def readLow (high : Nat) : List Char → Option (Char × List Char)
  | '\\' :: 'u' :: rest => do
    let (low, rest) ← readQuad rest
    if 0xDC00 ≤ low ∧ low < 0xE000 then
      return (Char.ofNat (0x10000 + (high - 0xD800) * 0x400 + (low - 0xDC00)), rest)
    else none
  | _ => none

/-- What follows a backslash. -/
def readEscape : List Char → Option (Char × List Char)
  | '"' :: rest => some ('"', rest)
  | '\\' :: rest => some ('\\', rest)
  | '/' :: rest => some ('/', rest)
  | 'n' :: rest => some ('\n', rest)
  | 'r' :: rest => some ('\r', rest)
  | 't' :: rest => some ('\t', rest)
  | 'b' :: rest => some ('\x08', rest)
  | 'f' :: rest => some ('\x0c', rest)
  | 'u' :: rest => do
    let (unit, rest) ← readQuad rest
    if 0xD800 ≤ unit ∧ unit < 0xDC00 then readLow unit rest
    else if 0xDC00 ≤ unit ∧ unit < 0xE000 then none
    else return (Char.ofNat unit, rest)
  | _ => none

/-- The characters of a literal after its opening quote; `fuel` bounds their number. -/
def readChars : Nat → List Char → Option (List Char × List Char)
  | 0, _ => none
  | _ + 1, [] => none
  | fuel + 1, c :: rest =>
    if c = '"' then some ([], rest)
    else if c = '\\' then do
      let (e, rest) ← readEscape rest
      let (s, rest) ← readChars fuel rest
      return (e :: s, rest)
    else if c.toNat < 32 then none
    else do
      let (s, rest) ← readChars fuel rest
      return (c :: s, rest)

def readQuoted : List Char → Option (List Char × List Char)
  | '"' :: rest => readChars (rest.length + 1) rest
  | _ => none

def readNumber (cs : List Char) : Option (Nat × List Char) :=
  match cs.takeWhile Char.isDigit with
  | [] => none
  | d :: ds => some (Nat.ofDigitChars 10 (d :: ds) 0, cs.dropWhile Char.isDigit)

def readScalar (cs : List Char) : Option (Scalar × List Char) :=
  if cs.head? = some '"' then do
    let (s, rest) ← readQuoted cs
    return (.text s, rest)
  else do
    let (n, rest) ← readNumber cs
    return (.number n, rest)

def readMember (cs : List Char) : Option ((List Char × Scalar) × List Char) := do
  let (key, rest) ← readQuoted cs
  match rest with
  | ':' :: rest => do
    let (value, rest) ← readScalar rest
    return ((key, value), rest)
  | _ => none

/-- The members of a nonempty object after its opening brace. -/
def readMembers : Nat → List Char → Option (Object × List Char)
  | 0, _ => none
  | fuel + 1, cs => do
    let (m, rest) ← readMember cs
    match rest with
    | '}' :: rest => return ([m], rest)
    | ',' :: rest => do
      let (o, rest) ← readMembers fuel rest
      return (m :: o, rest)
    | _ => none

def readObject : List Char → Option (Object × List Char)
  | '{' :: rest => readMembers (rest.length + 1) rest
  | _ => none

theorem hexValue_digitChar {d : Nat} (h : d < 16) : hexValue d.digitChar = some d := by
  revert d
  decide

theorem readQuad_hexQuad {n : Nat} (h : n < 0x10000) (rest : List Char) :
    readQuad (hexQuad n ++ rest) = some (n, rest) := by
  have hd (k : Nat) : hexValue (k % 16).digitChar = some (k % 16) :=
    hexValue_digitChar (Nat.mod_lt k (by omega))
  have hn : ((n / 4096 % 16 * 16 + n / 256 % 16) * 16 + n / 16 % 16) * 16 + n % 16 = n := by
    omega
  simp [hexQuad, readQuad, hd, hn]

theorem not_surrogate (c : Char) : ¬ (0xD800 ≤ c.toNat ∧ c.toNat < 0xE000) := by
  have hv : c.toNat < 0xD800 ∨ 0xDFFF < c.toNat ∧ c.toNat < 0x110000 := c.valid
  omega

theorem toNat_lt (c : Char) : c.toNat < 0x110000 := by
  have hv : c.toNat < 0xD800 ∨ 0xDFFF < c.toNat ∧ c.toNat < 0x110000 := c.valid
  omega

/-- A character below the surrogate planes is one escape unit. -/
theorem readEscape_unit (c : Char) (h : c.toNat < 0x10000) (rest : List Char) :
    readEscape ('u' :: (hexQuad c.toNat ++ rest)) = some (c, rest) := by
  have hs := not_surrogate c
  have h1 : ¬ (0xD800 ≤ c.toNat ∧ c.toNat < 0xDC00) := by omega
  have h2 : ¬ (0xDC00 ≤ c.toNat ∧ c.toNat < 0xE000) := by omega
  simp only [readEscape, readQuad_hexQuad h, Option.bind_eq_bind, Option.bind_some, h1, h2,
    if_false, Char.ofNat_toNat]
  rfl

theorem readEscape_pair {high low : Nat} (hh : 0xD800 ≤ high ∧ high < 0xDC00)
    (hl : 0xDC00 ≤ low ∧ low < 0xE000) (rest : List Char) :
    readEscape ('u' :: (hexQuad high ++ (unicodeEscape low ++ rest))) =
      some (Char.ofNat (0x10000 + (high - 0xD800) * 0x400 + (low - 0xDC00)), rest) := by
  have hhigh := readQuad_hexQuad (show high < 0x10000 by omega) (unicodeEscape low ++ rest)
  have hlow := readQuad_hexQuad (show low < 0x10000 by omega) rest
  have hsecond : readLow high (unicodeEscape low ++ rest) =
      some (Char.ofNat (0x10000 + (high - 0xD800) * 0x400 + (low - 0xDC00)), rest) := by
    simp only [unicodeEscape, List.cons_append, readLow, hlow, Option.bind_eq_bind,
      Option.bind_some, if_pos hl, Option.pure_def]
  simp only [readEscape, hhigh, Option.bind_eq_bind, Option.bind_some, if_pos hh, hsecond]

/-- The two halves of a character beyond the first plane give it back. -/
theorem surrogates_join (c : Char) (h : 0x10000 ≤ c.toNat) :
    0x10000 + (0xD800 + (c.toNat - 0x10000) / 0x400 - 0xD800) * 0x400 +
      (0xDC00 + (c.toNat - 0x10000) % 0x400 - 0xDC00) = c.toNat := by
  omega

theorem mem_of_lookup {c e : Char} (h : shortEscapes.lookup c = some e) :
    (c, e) ∈ shortEscapes := by
  obtain ⟨l₁, l₂, hl, _⟩ := List.lookup_eq_some_iff.1 h
  rw [hl]
  simp

theorem readEscape_short {c e : Char} (h : shortEscapes.lookup c = some e) (rest : List Char) :
    readEscape (e :: rest) = some (c, rest) := by
  have hm := mem_of_lookup h
  simp only [shortEscapes, List.mem_cons, Prod.mk.injEq, List.not_mem_nil, or_false] at hm
  rcases hm with ⟨rfl, rfl⟩ | ⟨rfl, rfl⟩ | ⟨rfl, rfl⟩ | ⟨rfl, rfl⟩ | ⟨rfl, rfl⟩ | ⟨rfl, rfl⟩ |
    ⟨rfl, rfl⟩
  all_goals rfl

/-- An escape that the reader undoes, character by character. -/
structure Readable (escape : Char → List Char) : Prop where
  read : ∀ (fuel : Nat) (c : Char) (rest : List Char), readChars (fuel + 1) (escape c ++ rest) =
    (readChars fuel rest).map fun p => (c :: p.1, p.2)
  pos : ∀ c, 0 < (escape c).length

theorem readChars_backslash {fuel : Nat} {c : Char} {rest tail : List Char}
    (h : readEscape tail = some (c, rest)) :
    readChars (fuel + 1) ('\\' :: tail) = (readChars fuel rest).map fun p => (c :: p.1, p.2) := by
  simp only [readChars, show ('\\' : Char) ≠ '"' by decide, if_false, if_true, h,
    Option.bind_eq_bind, Option.bind_some]
  cases readChars fuel rest <;> rfl

theorem readChars_plain {fuel : Nat} {c : Char} {rest : List Char}
    (hl : shortEscapes.lookup c = none) (hp : 32 ≤ c.toNat) :
    readChars (fuel + 1) (c :: rest) = (readChars fuel rest).map fun p => (c :: p.1, p.2) := by
  have hq : c ≠ '"' := by
    rintro rfl
    exact absurd hl (by decide)
  have hb : c ≠ '\\' := by
    rintro rfl
    exact absurd hl (by decide)
  simp only [readChars, hq, hb, if_false, show ¬ c.toNat < 32 by omega]
  cases readChars fuel rest <;> rfl

theorem readChars_escapeChar (fuel : Nat) (c : Char) (rest : List Char) :
    readChars (fuel + 1) (escapeChar c ++ rest) =
      (readChars fuel rest).map fun p => (c :: p.1, p.2) := by
  unfold escapeChar
  cases hl : shortEscapes.lookup c with
  | some e => exact readChars_backslash (readEscape_short hl rest)
  | none =>
    by_cases hp : 32 ≤ c.toNat ∧ c.toNat ≤ 126
    · simp only [hp, and_self, if_true]
      exact readChars_plain hl hp.1
    · by_cases hu : c.toNat < 0x10000
      · simp only [hp, hu, if_false, if_true]
        exact readChars_backslash (readEscape_unit c hu rest)
      · have hc := toNat_lt c
        have hpair := readEscape_pair
          (show 0xD800 ≤ 0xD800 + (c.toNat - 0x10000) / 0x400 ∧
            0xD800 + (c.toNat - 0x10000) / 0x400 < 0xDC00 by omega)
          (show 0xDC00 ≤ 0xDC00 + (c.toNat - 0x10000) % 0x400 ∧
            0xDC00 + (c.toNat - 0x10000) % 0x400 < 0xE000 by omega) rest
        rw [surrogates_join c (by omega), Char.ofNat_toNat] at hpair
        simp only [hp, hu, if_false, List.append_assoc]
        exact readChars_backslash hpair

theorem unicodeEscape_length (n : Nat) : (unicodeEscape n).length = 6 := rfl

theorem escapeChar_length (c : Char) :
    0 < (escapeChar c).length ∧ (escapeChar c).length ≤ 12 := by
  unfold escapeChar
  cases shortEscapes.lookup c with
  | some e => simp
  | none =>
    by_cases hp : 32 ≤ c.toNat ∧ c.toNat ≤ 126
    · simp [hp]
    · by_cases hu : c.toNat < 0x10000
      · simp only [hp, hu, if_false, if_true, unicodeEscape_length]
        omega
      · simp only [hp, hu, if_false, List.length_append, unicodeEscape_length]
        omega

theorem escapeChar_readable : Readable escapeChar :=
  ⟨readChars_escapeChar, fun c => (escapeChar_length c).1⟩

theorem plainEscape_readable : Readable plainEscape := by
  constructor
  case read =>
    intro fuel c rest
    unfold plainEscape
    cases hl : shortEscapes.lookup c with
    | some e => exact readChars_backslash (readEscape_short hl rest)
    | none =>
      by_cases hc : c.toNat < 32
      · simp only [hc, if_true]
        exact readChars_backslash (readEscape_unit c (by omega) rest)
      · simp only [hc, if_false]
        exact readChars_plain hl (by omega)
  case pos =>
    intro c
    unfold plainEscape
    cases shortEscapes.lookup c with
    | some e => simp
    | none => by_cases hc : c.toNat < 32 <;> simp [hc, unicodeEscape]

section Escaped

variable {escape : Char → List Char}

theorem readChars_escaped (hr : Readable escape) {fuel : Nat} (s rest : List Char)
    (h : s.length < fuel) :
    readChars fuel (s.flatMap escape ++ '"' :: rest) = some (s, rest) := by
  induction s generalizing fuel with
  | nil =>
    obtain ⟨k, rfl⟩ : ∃ k, fuel = k + 1 := ⟨fuel - 1, by simp at h; omega⟩
    simp [readChars]
  | cons c s ih =>
    obtain ⟨k, rfl⟩ : ∃ k, fuel = k + 1 := ⟨fuel - 1, by simp at h; omega⟩
    simp only [List.length_cons, Nat.add_lt_add_iff_right] at h
    rw [List.flatMap_cons, List.append_assoc, hr.read, ih h]
    rfl

theorem length_le_escaped (hr : Readable escape) (s : List Char) :
    s.length ≤ (s.flatMap escape).length := by
  induction s with
  | nil => simp
  | cons c s ih =>
    have := hr.pos c
    simp only [List.flatMap_cons, List.length_cons, List.length_append]
    omega

theorem readQuoted_escaped (hr : Readable escape) (s rest : List Char) :
    readQuoted ('"' :: (s.flatMap escape ++ ['"']) ++ rest) = some (s, rest) := by
  have hl := length_le_escaped hr s
  simp only [List.cons_append, List.append_assoc, List.nil_append, readQuoted]
  apply readChars_escaped hr
  simp only [List.length_append, List.length_cons]
  omega

end Escaped

theorem readQuoted_quote (s rest : List Char) : readQuoted (quote s ++ rest) = some (s, rest) :=
  readQuoted_escaped escapeChar_readable s rest

theorem readQuoted_quotePlain (s rest : List Char) :
    readQuoted (quotePlain s ++ rest) = some (s, rest) :=
  readQuoted_escaped plainEscape_readable s rest

/-- The text after a value in an object: a comma or the closing brace, never a digit. -/
def Ends (rest : List Char) : Prop := ∃ c tail, rest = c :: tail ∧ c.isDigit = false

theorem readNumber_toDigits (n : Nat) {rest : List Char}
    (h : ∀ c ∈ rest.head?, c.isDigit = false) :
    readNumber (Nat.toDigits 10 n ++ rest) = some (n, rest) := by
  have hd : ∀ d ∈ Nat.toDigits 10 n, d.isDigit = true := fun d hd =>
    Nat.isDigit_of_mem_toDigits (by omega) (by omega) hd
  have hstop : rest.takeWhile Char.isDigit = [] ∧ rest.dropWhile Char.isDigit = rest := by
    cases rest with
    | nil => simp
    | cons c tail => simp [h c rfl]
  have htake : (Nat.toDigits 10 n ++ rest).takeWhile Char.isDigit = Nat.toDigits 10 n := by
    rw [List.takeWhile_append_of_pos hd, hstop.1, List.append_nil]
  have hdrop : (Nat.toDigits 10 n ++ rest).dropWhile Char.isDigit = rest := by
    rw [List.dropWhile_append_of_pos hd, hstop.2]
  have hvalue : Nat.ofDigitChars 10 (Nat.toDigits 10 n) 0 = n := Nat.ofDigitChars_ten_toDigits
  unfold readNumber
  rw [htake, hdrop]
  cases hds : Nat.toDigits 10 n with
  | nil => exact absurd hds Nat.toDigits_ne_nil
  | cons d ds =>
    rw [hds] at hvalue
    simp only [hvalue]

theorem readNumber_digits (n : Nat) {rest : List Char} (h : Ends rest) :
    readNumber (Nat.toDigits 10 n ++ rest) = some (n, rest) := by
  obtain ⟨c, tail, rfl, hc⟩ := h
  apply readNumber_toDigits
  rintro d ⟨⟩
  exact hc

theorem head_digits_ne_quote (n : Nat) (rest : List Char) :
    (Nat.toDigits 10 n ++ rest).head? ≠ some '"' := by
  cases hds : Nat.toDigits 10 n with
  | nil => exact absurd hds Nat.toDigits_ne_nil
  | cons d ds =>
    have hd : d.isDigit = true :=
      Nat.isDigit_of_mem_toDigits (b := 10) (n := n) (by omega) (by omega) (by simp [hds])
    rintro h
    obtain rfl : d = '"' := Option.some.inj h
    exact absurd hd (by decide)

theorem readScalar_write (v : Scalar) {rest : List Char} (h : Ends rest) :
    readScalar (v.write ++ rest) = some (v, rest) := by
  cases v with
  | number n =>
    simp only [Scalar.write, readScalar, if_neg (head_digits_ne_quote n rest),
      readNumber_digits n h, Option.bind_eq_bind, Option.bind_some, Option.pure_def]
  | text s =>
    have hq : (quote s ++ rest).head? = some '"' := rfl
    simp only [Scalar.write, readScalar, hq, if_true, readQuoted_quote, Option.bind_eq_bind,
      Option.bind_some, Option.pure_def]

theorem readMember_write (m : List Char × Scalar) {rest : List Char} (h : Ends rest) :
    readMember (writeMember m ++ rest) = some (m, rest) := by
  simp only [writeMember, List.append_assoc, List.cons_append, readMember, readQuoted_quote,
    Option.bind_eq_bind, Option.bind_some, readScalar_write m.2 h, Option.pure_def]

theorem readMembers_write {o : Object} (hne : o ≠ []) {fuel : Nat} (h : o.length ≤ fuel)
    (rest : List Char) : readMembers fuel (writeMembers o ++ rest) = some (o, rest) := by
  induction o generalizing fuel with
  | nil => exact absurd rfl hne
  | cons m o ih =>
    obtain ⟨k, rfl⟩ : ∃ k, fuel = k + 1 := ⟨fuel - 1, by simp at h; omega⟩
    simp only [List.length_cons, Nat.add_le_add_iff_right] at h
    cases o with
    | nil =>
      have hm : readMember (writeMember m ++ '}' :: rest) = some (m, '}' :: rest) :=
        readMember_write m ⟨_, _, rfl, by decide⟩
      simp only [writeMembers, List.append_assoc, List.singleton_append, readMembers, hm,
        Option.bind_eq_bind, Option.bind_some, Option.pure_def]
    | cons n o =>
      have hm : readMember (writeMember m ++ ',' :: (writeMembers (n :: o) ++ rest)) =
          some (m, ',' :: (writeMembers (n :: o) ++ rest)) :=
        readMember_write m ⟨_, _, rfl, by decide⟩
      simp only [writeMembers, List.append_assoc, List.cons_append, readMembers, hm,
        Option.bind_eq_bind, Option.bind_some, Option.pure_def, ih (by simp) h]

theorem length_le_writeMembers (o : Object) : o.length ≤ (writeMembers o).length := by
  induction o with
  | nil => simp [writeMembers]
  | cons m o ih =>
    cases o with
    | nil => simp [writeMembers]
    | cons n o =>
      simp only [writeMembers, List.length_cons, List.length_append] at ih ⊢
      omega

/-- Reading undoes writing, whatever follows the object. -/
theorem readObject_write {o : Object} (hne : o ≠ []) (rest : List Char) :
    readObject (writeObject o ++ rest) = some (o, rest) := by
  have hl := length_le_writeMembers o
  simp only [writeObject, List.cons_append, readObject]
  apply readMembers_write hne
  simp only [List.length_append]
  omega

/-- The characters the writer emits: printable ASCII. -/
abbrev Printable (c : Char) : Prop := 32 ≤ c.toNat ∧ c.toNat ≤ 126

theorem printable_digitChar {d : Nat} (h : d < 16) : Printable d.digitChar := by
  revert d
  decide

theorem printable_unicodeEscape (n : Nat) : ∀ c ∈ unicodeEscape n, Printable c := by
  have hd (k : Nat) : Printable (k % 16).digitChar :=
    printable_digitChar (Nat.mod_lt k (by omega))
  intro c hc
  simp only [unicodeEscape, hexQuad, List.map_cons, List.map_nil, List.mem_cons,
    List.not_mem_nil, or_false] at hc
  rcases hc with rfl | rfl | rfl | rfl | rfl | rfl
  · decide
  · decide
  · exact hd _
  · exact hd _
  · exact hd _
  · exact hd _

theorem printable_escapeChar (c : Char) : ∀ d ∈ escapeChar c, Printable d := by
  intro d hd
  unfold escapeChar at hd
  cases hl : shortEscapes.lookup c with
  | some e =>
    have he : ∀ p ∈ shortEscapes, Printable p.2 := by decide
    simp only [hl, List.mem_cons, List.not_mem_nil, or_false] at hd
    rcases hd with rfl | rfl
    · decide
    · exact he _ (mem_of_lookup hl)
  | none =>
    simp only [hl] at hd
    split at hd
    · next hp =>
      obtain rfl : d = c := by simpa using hd
      exact hp
    · split at hd
      · exact printable_unicodeEscape _ d hd
      · rcases List.mem_append.1 hd with hd | hd
        · exact printable_unicodeEscape _ d hd
        · exact printable_unicodeEscape _ d hd

theorem printable_quote (s : List Char) : ∀ c ∈ quote s, Printable c := by
  intro c hc
  simp only [quote, List.mem_cons, List.mem_append, List.mem_flatMap, List.not_mem_nil,
    or_false] at hc
  rcases hc with rfl | ⟨d, _, hd⟩ | rfl
  · decide
  · exact printable_escapeChar d c hd
  · decide

theorem printable_digit {c : Char} (h : c.isDigit = true) : Printable c := by
  have hc : 48 ≤ c.toNat ∧ c.toNat ≤ 57 := by
    simpa [Char.isDigit, UInt32.le_iff_toNat_le] using h
  exact ⟨by omega, by omega⟩

theorem printable_scalar (v : Scalar) : ∀ c ∈ v.write, Printable c := by
  cases v with
  | number n =>
    intro c hc
    exact printable_digit (Nat.isDigit_of_mem_toDigits (by omega) (by omega) hc)
  | text s => exact printable_quote s

theorem printable_member (m : List Char × Scalar) : ∀ c ∈ writeMember m, Printable c := by
  intro c hc
  simp only [writeMember, List.mem_append, List.mem_cons] at hc
  rcases hc with hc | rfl | hc
  · exact printable_quote _ c hc
  · decide
  · exact printable_scalar _ c hc

theorem printable_members (o : Object) : ∀ c ∈ writeMembers o, Printable c := by
  induction o with
  | nil =>
    intro c hc
    rw [List.mem_singleton.1 hc]
    decide
  | cons m o ih =>
    intro c hc
    cases o with
    | nil =>
      simp only [writeMembers, List.mem_append, List.mem_singleton] at hc
      rcases hc with hc | rfl
      · exact printable_member m c hc
      · decide
    | cons n o =>
      simp only [writeMembers, List.mem_append, List.mem_cons] at hc
      rcases hc with hc | rfl | hc
      · exact printable_member m c hc
      · decide
      · exact ih c hc

theorem printable_object (o : Object) : ∀ c ∈ writeObject o, Printable c := by
  intro c hc
  rcases List.mem_cons.1 hc with rfl | hc
  · decide
  · exact printable_members o c hc

theorem quote_length_le (s : List Char) : (quote s).length ≤ 12 * s.length + 2 := by
  have h : (s.flatMap escapeChar).length ≤ 12 * s.length := by
    induction s with
    | nil => simp
    | cons c s ih =>
      have := (escapeChar_length c).2
      simp only [List.flatMap_cons, List.length_cons, List.length_append]
      omega
  simp only [quote, List.length_cons, List.length_append, List.length_nil]
  omega

/-- How long a member value can get, when a number has at most `digits` digits. -/
def Scalar.bound (digits : Nat) : Scalar → Nat
  | .number _ => digits
  | .text s => 12 * s.length + 2

theorem write_length_le {digits : Nat} {v : Scalar} (hd : 0 < digits)
    (h : ∀ n, v = .number n → n < 10 ^ digits) : v.write.length ≤ v.bound digits := by
  cases v with
  | number n => exact (Nat.length_toDigits_le_iff (by omega) hd).2 (h n rfl)
  | text s => exact quote_length_le s

theorem writeMembers_length_le {digits : Nat} {o : Object} (hd : 0 < digits)
    (h : ∀ m ∈ o, ∀ n, m.2 = .number n → n < 10 ^ digits) :
    (writeMembers o).length ≤ (o.map fun m => 12 * m.1.length + 4 + m.2.bound digits).sum + 1 := by
  induction o with
  | nil => simp [writeMembers]
  | cons m o ih =>
    have hm : (writeMember m).length ≤ 12 * m.1.length + 3 + m.2.bound digits := by
      have hq := quote_length_le m.1
      have hv := write_length_le hd (h m (by simp))
      simp only [writeMember, List.length_append, List.length_cons]
      omega
    have ho := ih fun k hk => h k (by simp [hk])
    cases o with
    | nil =>
      simp only [writeMembers, List.length_append, List.length_singleton, List.map_cons,
        List.map_nil, List.sum_cons, List.sum_nil]
      omega
    | cons n o =>
      simp only [writeMembers, List.length_append, List.length_cons, List.map_cons,
        List.sum_cons] at ho ⊢
      omega

end JsonText
