import WebhookConformance.Library.InternetAddress
import WebhookConformance.ProjectConfig

/-! The classes of destination addresses (`network/addresses.py`). -/
namespace WebhookConformance

open InternetAddress Checked

inductive AddressClass where
  | loopback
  | privateUse
  | publicUse
  | blocked
  deriving DecidableEq, Repr

inductive BlockedAddressReason where
  | unspecified
  | multicast
  | linkLocal
  | metadata
  | documentation
  | benchmark
  | reserved
  | transition
  | specialUse
  | scoped
  deriving DecidableEq, Repr

structure AddressClassification where
  normalized : String
  version : Version
  addressClass : AddressClass
  blockedReason : Option BlockedAddressReason
  deriving DecidableEq, Repr

section Tables

def ipv4Loopback : Network := .ofText "127.0.0.0/8"

def ipv4Private : List Network := ["10.0.0.0/8", "172.16.0.0/12", "192.168.0.0/16"].map .ofText

def ipv4Metadata : List Network :=
  ["100.100.100.200/32", "168.63.129.16/32", "169.254.169.254/32", "169.254.170.2/32",
    "192.0.0.192/32"].map .ofText

def ipv4Blocked : List (Network × BlockedAddressReason) :=
  [("0.0.0.0/8", .unspecified), ("100.64.0.0/10", .specialUse), ("169.254.0.0/16", .linkLocal),
    ("192.0.0.0/24", .specialUse), ("192.0.2.0/24", .documentation),
    ("192.31.196.0/24", .specialUse), ("192.52.193.0/24", .transition),
    ("192.88.99.0/24", .transition), ("192.175.48.0/24", .specialUse),
    ("198.18.0.0/15", .benchmark), ("198.51.100.0/24", .documentation),
    ("203.0.113.0/24", .documentation), ("224.0.0.0/4", .multicast),
    ("240.0.0.0/4", .reserved)].map fun entry => (.ofText entry.1, entry.2)

def ipv6Loopback : Network := .ofText "::1/128"

def ipv6Private : Network := .ofText "fc00::/7"

def ipv6Metadata : List Network := ["fd00:ec2::254/128", "fd20:ce::254/128"].map .ofText

def ipv6Public : List Network :=
  ["2001:200::/23", "2001:400::/23", "2001:600::/23", "2001:800::/22", "2001:c00::/23",
    "2001:e00::/23", "2001:1200::/23", "2001:1400::/22", "2001:1800::/23", "2001:1a00::/23",
    "2001:1c00::/22", "2001:2000::/19", "2001:4000::/23", "2001:4200::/23", "2001:4400::/23",
    "2001:4600::/23", "2001:4800::/23", "2001:4a00::/23", "2001:4c00::/23", "2001:5000::/20",
    "2001:8000::/19", "2001:a000::/20", "2001:b000::/20", "2003::/18", "2400::/12", "2410::/12",
    "2600::/12", "2610::/23", "2620::/23", "2630::/12", "2800::/12", "2a00::/12", "2a10::/12",
    "2c00::/12"].map .ofText

def ipv6Blocked : List (Network × BlockedAddressReason) :=
  [("::/128", .unspecified), ("::/96", .transition), ("::ffff:0:0/96", .transition),
    ("64:ff9b::/96", .transition), ("64:ff9b:1::/48", .transition), ("100::/64", .specialUse),
    ("100:0:0:1::/64", .specialUse), ("2001::/23", .specialUse), ("2001:db8::/32", .documentation),
    ("2002::/16", .transition), ("2620:4f:8000::/48", .specialUse), ("3ffe::/16", .transition),
    ("3fff::/20", .documentation), ("5f00::/16", .documentation), ("fec0::/10", .reserved),
    ("fe80::/10", .linkLocal), ("ff00::/8", .multicast)].map fun entry => (.ofText entry.1, entry.2)

end Tables

section Classify

variable (a : Address)

def AddressClassification.blocked (reason : BlockedAddressReason) : AddressClassification :=
  ⟨String.ofList a.write, a.version, .blocked, some reason⟩

def AddressClassification.allowed (addressClass : AddressClass) : AddressClassification :=
  ⟨String.ofList a.write, a.version, addressClass, none⟩

def classifyIpv4 : AddressClassification :=
  if ipv4Loopback.Contains a then .allowed a .loopback
  else if ∃ n ∈ ipv4Private, n.Contains a then .allowed a .privateUse
  else if ∃ n ∈ ipv4Metadata, n.Contains a then .blocked a .metadata
  else match ipv4Blocked.find? (·.1.Contains a) with
    | some entry => .blocked a entry.2
    | none => .allowed a .publicUse

def classifyIpv6 : AddressClassification :=
  if ipv6Loopback.Contains a then .allowed a .loopback
  else if ∃ n ∈ ipv6Metadata, n.Contains a then .blocked a .metadata
  else if ipv6Private.Contains a then .allowed a .privateUse
  else match ipv6Blocked.find? (·.1.Contains a) with
    | some entry => .blocked a entry.2
    | none =>
      if ∃ n ∈ ipv6Public, n.Contains a then .allowed a .publicUse else .blocked a .reserved

def classifyParsed : AddressClassification :=
  match a.version with
  | .v4 => classifyIpv4 a
  | .v6 => classifyIpv6 a

def maxAddressTextLength : Nat := 128

def isControl (c : Char) : Bool := decide (c.toNat < 32 ∨ c.toNat = 127)

/-- A candidate without a zone, read as an address. -/
def parseAddress (text : List Char) : Except String Scoped :=
  match read text with
  | none => .error "address candidate is not a canonical IPv4 or IPv6 address"
  | some parsed => .ok parsed

def classifyAddress (value : String) : Except String AddressClassification := do
  require (value.toList ≠ [] ∧ value.toList.length ≤ maxAddressTextLength ∧
      stripSpaces value.toList = value.toList ∧ value.toList.all (isControl · = false))
    "address candidate must be bounded, nonempty, and control-free"
  match splitZone value.toList with
  | (base, some zone) => do
    require (base ≠ [] ∧ zone ≠ [] ∧ '%' ∉ zone)
      "address candidate has an invalid scope identifier"
    let parsed ← parseAddress base
    return .blocked parsed.address .scoped
  | (_, none) => do
    let parsed ← parseAddress value.toList
    return classifyParsed parsed.address

end Classify

section Forbidden

/-- The metadata, link-local, multicast and unspecified addresses. -/
def forbiddenNetworks : List Network :=
  ["0.0.0.0/8", "169.254.0.0/16", "224.0.0.0/4", "::/128", "fe80::/10", "ff00::/8"].map .ofText ++
    ipv4Metadata ++ ipv6Metadata

/-- The IPv6 networks whose addresses stand for an IPv4 address: compatible, mapped, translated,
6to4 and Teredo. -/
def embeddingNetworks : List Network :=
  ["::/96", "::ffff:0:0/96", "64:ff9b::/96", "64:ff9b:1::/48", "2002::/16", "2001::/32"].map .ofText

/-- No target profile may reach such an address; `::1` is an address of its own. -/
def Forbidden (a : Address) : Prop :=
  (∃ n ∈ forbiddenNetworks, n.Contains a) ∨
    a.value ≠ 1 ∧ ∃ n ∈ embeddingNetworks, n.Contains a

/-- Every network that a permitted address has to stay out of. -/
def avoidedNetworks : List Network := forbiddenNetworks ++ embeddingNetworks

variable {a : Address}

theorem not_forbidden (h : ∀ n ∈ avoidedNetworks, n.Contains a → a.value = 1 ∧ n ∉ forbiddenNetworks) :
    ¬ Forbidden a := by
  rintro (⟨n, hn, hcontains⟩ | ⟨hvalue, n, hn, hcontains⟩)
  · exact (h n (List.mem_append_left _ hn) hcontains).2 hn
  · exact hvalue (h n (List.mem_append_right _ hn) hcontains).1

/-- An address of a network that is apart from all of them avoids them. -/
theorem not_forbidden_of_apart {m : Network} (hm : m.Contains a)
    (hapart : ∀ n ∈ avoidedNetworks, m.Apart n) : ¬ Forbidden a := by
  refine not_forbidden fun n hn hcontains => ?_
  exact absurd hcontains ((hapart n hn).not_contains hm)

theorem not_forbidden_of_within {refused : List Network} {v : Version} (hv : a.version = v)
    (hrefused : ∀ b ∈ refused, ¬ b.Contains a)
    (hwithin : ∀ n ∈ avoidedNetworks, n.version = v → ∃ b ∈ refused, n.Within b) :
    ¬ Forbidden a := by
  refine not_forbidden fun n hn hcontains => ?_
  obtain ⟨b, hb, hbn⟩ := hwithin n hn (hcontains.1.symm.trans hv)
  exact absurd (hbn.contains hcontains) (hrefused b hb)

theorem classifyIpv4_forbidden (hv : a.version = .v4)
    (h : (classifyIpv4 a).addressClass ≠ .blocked) : ¬ Forbidden a := by
  unfold classifyIpv4 at h
  split at h
  · next hloopback => exact not_forbidden_of_apart hloopback (by decide +kernel)
  · split at h
    · next hprivate =>
      obtain ⟨n, hn, hcontains⟩ := hprivate
      have hall : ∀ n ∈ ipv4Private, ∀ m ∈ avoidedNetworks, n.Apart m := by decide +kernel
      exact not_forbidden_of_apart hcontains (hall n hn)
    · split at h
      · exact absurd rfl h
      · next hmetadata =>
        split at h
        · exact absurd rfl h
        · next hblocked =>
          refine @not_forbidden_of_within a (ipv4Metadata ++ ipv4Blocked.map Prod.fst) _ hv ?_
            (by decide +kernel)
          intro b hb hcontains
          obtain hb | hb := List.mem_append.1 hb
          · exact hmetadata ⟨b, hb, hcontains⟩
          · obtain ⟨entry, hentry, rfl⟩ := List.mem_map.1 hb
            exact List.find?_eq_none.1 hblocked entry hentry (decide_eq_true hcontains)

theorem ipv6Loopback_value (h : ipv6Loopback.Contains a) : a.value = 1 := by
  have hblock : ipv6Loopback.version.block ipv6Loopback.shared = 1 := by decide +kernel
  have hfirst : ipv6Loopback.first = 1 := by decide +kernel
  have hvalue := h.2
  rwa [hblock, Nat.div_one, Nat.div_one, hfirst] at hvalue

theorem classifyIpv6_forbidden (hv : a.version = .v6)
    (h : (classifyIpv6 a).addressClass ≠ .blocked) : ¬ Forbidden a := by
  unfold classifyIpv6 at h
  split at h
  · next hloopback =>
    have hapart : ∀ n ∈ forbiddenNetworks, ipv6Loopback.Apart n := by decide +kernel
    refine not_forbidden fun n hn hcontains => ⟨ipv6Loopback_value hloopback, fun hforbidden => ?_⟩
    exact (hapart n hforbidden).not_contains hloopback hcontains
  · split at h
    · exact absurd rfl h
    · next hmetadata =>
      split at h
      · next hprivate =>
        refine not_forbidden fun n hn hcontains => ?_
        have hall : ∀ n ∈ avoidedNetworks, n ∈ ipv6Metadata ∨ ipv6Private.Apart n := by decide +kernel
        obtain hmem | hapart := hall n hn
        · exact absurd ⟨n, hmem, hcontains⟩ hmetadata
        · exact absurd hcontains (hapart.not_contains hprivate)
      · split at h
        · exact absurd rfl h
        · next hblocked =>
          refine @not_forbidden_of_within a (ipv6Metadata ++ ipv6Blocked.map Prod.fst) _ hv ?_
            (by decide +kernel)
          intro b hb hcontains
          obtain hb | hb := List.mem_append.1 hb
          · exact hmetadata ⟨b, hb, hcontains⟩
          · obtain ⟨entry, hentry, rfl⟩ := List.mem_map.1 hb
            exact List.find?_eq_none.1 hblocked entry hentry (decide_eq_true hcontains)

theorem classifyParsed_names (a : Address) :
    (classifyParsed a).normalized = String.ofList a.write ∧ (classifyParsed a).version = a.version := by
  unfold classifyParsed classifyIpv4 classifyIpv6
  repeat' split
  all_goals exact ⟨rfl, rfl⟩

/-- A candidate that is not blocked is the text of one address, and that one is not forbidden. -/
theorem classifyAddress_permitted {value : String} {c : AddressClassification}
    (h : classifyAddress value = .ok c) (hc : c.addressClass ≠ .blocked) :
    ∃ a, (read value.toList).map Scoped.address = some a ∧ ¬ Forbidden a ∧
      c.normalized = String.ofList a.write ∧ c.version = a.version := by
  obtain ⟨_, -, h⟩ := bind_ok h
  split at h
  · obtain ⟨_, -, h⟩ := bind_ok h
    obtain ⟨parsed, -, h⟩ := bind_ok h
    cases pure_ok h
    exact absurd rfl hc
  · obtain ⟨parsed, hparsed, h⟩ := bind_ok h
    cases pure_ok h
    unfold parseAddress at hparsed
    split at hparsed
    · cases hparsed
    next hread =>
    cases hparsed
    refine ⟨parsed.address, by rw [hread]; rfl, ?_, classifyParsed_names _⟩
    unfold classifyParsed at hc
    split at hc
    · next hv => exact classifyIpv4_forbidden hv hc
    · next hv => exact classifyIpv6_forbidden hv hc

end Forbidden

end WebhookConformance
