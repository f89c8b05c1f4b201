import Mathlib.Algebra.GroupWithZero.Nat
import WebhookConformance.Library.ByteText

/-! Internet addresses: their values, their texts and the networks that contain them. -/
namespace InternetAddress

open ByteText

inductive Version where
  | v4
  | v6
  deriving DecidableEq, Repr

def Version.number : Version → Nat
  | .v4 => 4
  | .v6 => 6

def Version.bits : Version → Nat
  | .v4 => 32
  | .v6 => 128

structure Address where
  version : Version
  value : Nat
  deriving DecidableEq, Repr

section Networks

/-- A network by its first address and the number of bits that its addresses share. -/
structure Network where
  version : Version
  first : Nat
  shared : Nat
  deriving DecidableEq, Repr

/-- The size of a network with the given number of shared bits. -/
def Version.block (v : Version) (shared : Nat) : Nat := 2 ^ (v.bits - shared)

def Network.Contains (n : Network) (a : Address) : Prop :=
  a.version = n.version ∧
    a.value / n.version.block n.shared = n.first / n.version.block n.shared

instance (n : Network) (a : Address) : Decidable (n.Contains a) :=
  inferInstanceAs (Decidable (_ ∧ _))

/-- Networks of different versions, or different within the bits that both of them fix. -/
def Network.Apart (m n : Network) : Prop :=
  m.version ≠ n.version ∨
    m.first / m.version.block (min m.shared n.shared) ≠
      n.first / m.version.block (min m.shared n.shared)

instance (m n : Network) : Decidable (m.Apart n) := inferInstanceAs (Decidable (_ ∨ _))

/-- What an address shares with its network it also shares at every coarser level. -/
theorem Network.Contains.coarser {n : Network} {a : Address} (h : n.Contains a) {k : Nat}
    (hk : k ≤ n.shared) :
    a.value / n.version.block k = n.first / n.version.block k := by
  have hblock : n.version.block k =
      n.version.block n.shared * 2 ^ ((n.version.bits - k) - (n.version.bits - n.shared)) := by
    rw [Version.block, Version.block, ← Nat.pow_add]
    congr 1
    omega
  rw [hblock, ← Nat.div_div_eq_div_mul, ← Nat.div_div_eq_div_mul, h.2]

theorem Network.Apart.not_contains {m n : Network} (h : m.Apart n) {a : Address}
    (hm : m.Contains a) : ¬ n.Contains a := by
  intro hn
  have hversion : m.version = n.version := hm.1.symm.trans hn.1
  obtain hne | hne := h
  · exact hne hversion
  · apply hne
    rw [← hm.coarser (Nat.min_le_left _ _), hversion, ← hn.coarser (Nat.min_le_right _ _)]

/-- The addresses of the first network are among those of the second. -/
def Network.Within (m n : Network) : Prop :=
  m.version = n.version ∧ n.shared ≤ m.shared ∧
    m.first / n.version.block n.shared = n.first / n.version.block n.shared

instance (m n : Network) : Decidable (m.Within n) := inferInstanceAs (Decidable (_ ∧ _))

theorem Network.Within.contains {m n : Network} (h : m.Within n) {a : Address}
    (hm : m.Contains a) : n.Contains a := by
  obtain ⟨hversion, hshared, hfirst⟩ := h
  refine ⟨hm.1.trans hversion, ?_⟩
  rw [← hfirst, ← hversion]
  exact hm.coarser hshared

end Networks

section Reading

def decimalDigit (c : Char) : Bool := decide ('0' ≤ c ∧ c ≤ '9')

def readDecimal (digits : List Char) : Nat :=
  digits.foldl (fun n c => 10 * n + (c.toNat - '0'.toNat)) 0

/-- One to three decimal digits without a leading zero. -/
def readOctet (text : List Char) : Option Nat := do
  guard (text ≠ [] ∧ text.all decimalDigit ∧ text.length ≤ 3)
  guard (text = ['0'] ∨ text.head? ≠ some '0')
  guard (readDecimal text ≤ 255)
  return readDecimal text

def readV4 (text : List Char) : Option Nat := do
  let octets ← (splitOn '.' text).mapM readOctet
  guard (octets.length = 4)
  return octets.foldl (fun n octet => 256 * n + octet) 0

def hexDigitValue (c : Char) : Option Nat :=
  if decimalDigit c then some (c.toNat - '0'.toNat)
  else if 'a' ≤ c ∧ c ≤ 'f' then some (10 + (c.toNat - 'a'.toNat))
  else if 'A' ≤ c ∧ c ≤ 'F' then some (10 + (c.toNat - 'A'.toNat))
  else none

/-- One to four hexadecimal digits of either case. -/
def readHextet (text : List Char) : Option Nat := do
  guard (text ≠ [] ∧ text.length ≤ 4)
  let digits ← text.mapM hexDigitValue
  return digits.foldl (fun n digit => 16 * n + digit) 0

def writeHex (n : Nat) : List Char := Nat.toDigits 16 n

def readHextets (parts : List (List Char)) (start : Nat) : Option Nat := do
  let hextets ← parts.mapM readHextet
  return hextets.foldl (fun n hextet => 65536 * n + hextet) start

/-- The parts of a text, with a dotted ending as two hexadecimal ones. -/
def hextetParts (text : List Char) : Option (List (List Char)) := do
  let parts := splitOn ':' text
  guard (3 ≤ parts.length)
  match parts.getLast? with
  | none => none
  | some last =>
    if last.contains '.' then
      let tail ← readV4 last
      return parts.dropLast ++ [writeHex (tail / 65536), writeHex (tail % 65536)]
    else return parts

/-- The places of empty parts between the first and the last one. -/
def emptyParts (parts : List (List Char)) : List Nat :=
  (List.range (parts.length - 1)).filter fun i => 1 ≤ i ∧ parts[i]? = some []

def readParts (parts : List (List Char)) : Option Nat := do
  guard (parts.length ≤ 9)
  match emptyParts parts with
  | [] => do
    guard (parts.length = 8)
    readHextets parts 0
  | [skip] => do
    let high := parts.take skip
    let low := parts.drop (skip + 1)
    -- an empty end stands for itself only next to the gap
    guard (high.head? = some [] → high.length = 1)
    guard (low.getLast? = some [] → low.length = 1)
    let high := if high = [[]] then [] else high
    let low := if low = [[]] then [] else low
    guard (high.length + low.length < 8)
    let start ← readHextets high 0
    readHextets low (start * 65536 ^ (8 - (high.length + low.length)))
  | _ => none

def readV6 (text : List Char) : Option Nat := do
  guard (text.length ≤ 45)
  let parts ← hextetParts text
  readParts parts

/-- An address with the zone that its text names. -/
structure Scoped where
  address : Address
  zone : Option (List Char)
  deriving DecidableEq, Repr

/-- The text before the first `%`, and what follows it. -/
def splitZone (text : List Char) : List Char × Option (List Char) :=
  match text.dropWhile (· ≠ '%') with
  | [] => (text, none)
  | _ :: zone => (text.takeWhile (· ≠ '%'), some zone)

/-- `ip_address`. -/
def read (text : List Char) : Option Scoped :=
  match readV4 text with
  | some value => some ⟨⟨.v4, value⟩, none⟩
  | none => do
    let (base, zone) := splitZone text
    guard (∀ z ∈ zone, z ≠ [] ∧ '%' ∉ z)
    let value ← readV6 base
    return ⟨⟨.v6, value⟩, zone⟩

end Reading

section Writing

def writeV4 (value : Nat) : List Char :=
  ['.'].intercalate ([value / 16777216, value / 65536 % 256, value / 256 % 256, value % 256].map
    fun octet => Nat.toDigits 10 octet)

def hextets (value : Nat) : List Nat :=
  (List.range 8).map fun i => value / 65536 ^ (7 - i) % 65536

/-- The number of zeros at the start. -/
def zeroRun (xs : List Nat) : Nat := (xs.takeWhile (· = 0)).length

/-- The first of the longest runs of zeros, by its place and length. -/
def longestZeroRun (xs : List Nat) : Nat × Nat :=
  (List.range xs.length).foldl
    (fun best i => if best.2 < zeroRun (xs.drop i) then (i, zeroRun (xs.drop i)) else best) (0, 0)

def joinHextets (xs : List Nat) : List Char := [':'].intercalate (xs.map writeHex)

def writeV6 (value : Nat) : List Char :=
  let xs := hextets value
  let (start, length) := longestZeroRun xs
  if 1 < length then
    joinHextets (xs.take start) ++ [':', ':'] ++ joinHextets (xs.drop (start + length))
  else joinHextets xs

def Address.write (a : Address) : List Char :=
  match a.version with
  | .v4 => writeV4 a.value
  | .v6 => writeV6 a.value

def Scoped.write (s : Scoped) : List Char :=
  match s.zone with
  | none => s.address.write
  | some zone => s.address.write ++ '%' :: zone

end Writing

/-- A network from its usual text, such as `10.0.0.0/8`. -/
def Network.ofText (text : String) : Network :=
  match splitOn '/' text.toList with
  | [first, shared] =>
    match read first with
    | some s => ⟨s.address.version, s.address.value, readDecimal shared⟩
    | none => ⟨.v4, 0, 0⟩
  | _ => ⟨.v4, 0, 0⟩

example : (read "192.168.0.1".toList).map Scoped.write = some "192.168.0.1".toList := by decide +kernel
example : (read "::ffff:10.0.0.1".toList).map (·.address.value) = some 281470849515521 := by
  decide +kernel
example : (read "2001:DB8:0:0:1:0:0:1".toList).map Scoped.write = some "2001:db8::1:0:0:1".toList := by
  decide +kernel
example : (read "1::".toList).map Scoped.write = some "1::".toList := by decide +kernel
example : read "1::2::3".toList = none := by decide +kernel
example : read "010.0.0.1".toList = none := by decide +kernel

end InternetAddress
