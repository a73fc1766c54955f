import DockerLens.Target.Values

namespace DockerLens.Target

open DockerLens.Text

/-- An address of either family. -/
inductive IpAddr
  | v4 (value : BitVec 32)
  | v6 (value : BitVec 128)
  deriving DecidableEq

namespace IpAddr

/-- The family of an address. -/
def isIpv6 : IpAddr → Bool
  | v4 _ => false
  | v6 _ => true

/-- The address of zeros only. -/
def isUnspecified : IpAddr → Bool
  | v4 value => value == 0
  | v6 value => value == 0

/-- `Display` of a four-octet address. -/
def dotted (value : BitVec 32) : List Char :=
  [24, 16, 8, 0].flatMap fun shift =>
    (if shift = 24 then [] else ['.']) ++ Nat.toDigits 10 ((value >>> shift).toNat % 256)

/-- The eight 16-bit segments. -/
def segments (value : BitVec 128) : List Nat :=
  (List.range 8).map fun index => (value >>> (112 - 16 * index)).toNat % 65536

/-- A run of zero segments: where it starts and how long it is. -/
structure Span where
  start : Nat
  len : Nat
  deriving DecidableEq

/-- The first longest run of zero segments. -/
def zeroes (segments : List Nat) : Span :=
  (segments.zipIdx.foldl (fun (longest, current) (segment, index) =>
    if segment = 0 then
      let current : Span := ⟨if current.len = 0 then index else current.start, current.len + 1⟩
      (if current.len > longest.len then current else longest, current)
    else (longest, ⟨0, 0⟩)) ((⟨0, 0⟩ : Span), (⟨0, 0⟩ : Span))).1

def subslice (chunk : List Nat) : List Char :=
  List.intercalate [':'] (chunk.map (Nat.toDigits 16))

/-- `Display` of a 16-octet address: an IPv4-mapped one keeps its dotted part, and of
the others the first longest run of at least two zero segments is left out. -/
def colons (value : BitVec 128) : List Char :=
  if (value >>> 32).toNat = 0xffff then "::ffff:".toList ++ dotted (value.setWidth 32)
  else
    let segments := segments value
    let zeroes := zeroes segments
    if zeroes.len > 1 then
      subslice (segments.take zeroes.start) ++ "::".toList ++
        subslice (segments.drop (zeroes.start + zeroes.len))
    else subslice segments

/-- `to_string`. -/
def text : IpAddr → String
  | v4 value => String.ofList (dotted value)
  | v6 value => String.ofList (colons value)

end IpAddr

/-- Addresses are validated at construction. -/
structure NetworkAddress where
  value : IpAddr
  deriving DecidableEq

/-- The family of an address in a network. -/
def NetworkAddress.isIpv6 (address : NetworkAddress) : Bool := address.value.isIpv6

/-- The low bits are clear below a prefix. -/
def addressIsNetwork (address : IpAddr) (prefixLength : Nat) : Bool :=
  match address with
  | .v4 value => value &&& ~~~(BitVec.allOnes 32 <<< (32 - prefixLength)) == 0
  | .v6 value => value &&& ~~~(BitVec.allOnes 128 <<< (128 - prefixLength)) == 0

/-- A network address and the length of its prefix. -/
structure NetworkSubnet where
  address : NetworkAddress
  prefixLength : Nat
  prefix_le : prefixLength ≤ if address.isIpv6 then 128 else 32
  is_network : addressIsNetwork address.value prefixLength = true
  deriving DecidableEq

namespace NetworkSubnet

/-- `NetworkSubnet::new`. -/
def new (address : NetworkAddress) (prefixLength : Nat) : Except IntentError NetworkSubnet :=
  if h : prefixLength ≤ (if address.isIpv6 then 128 else 32) ∧
      addressIsNetwork address.value prefixLength = true then
    .ok ⟨address, prefixLength, h.1, h.2⟩
  else .error .invalidNetworkSubnet

/-- Whether an address lies in a subnet of its family. -/
def contains (subnet : NetworkSubnet) (address : NetworkAddress) : Bool :=
  match subnet.address.value, address.value with
  | .v4 base, .v4 value =>
      let mask := BitVec.allOnes 32 <<< (32 - subnet.prefixLength)
      base &&& mask == value &&& mask
  | .v6 base, .v6 value =>
      let mask := BitVec.allOnes 128 <<< (128 - subnet.prefixLength)
      base &&& mask == value &&& mask
  | _, _ => false

/-- The subnet and broadcast slots of IPv4 and the subnet base of IPv6 are refused;
an IPv4 prefix of 31 or 32 has no distinct broadcast slot. -/
def containsUsableHost (subnet : NetworkSubnet) (address : NetworkAddress) : Bool :=
  subnet.contains address &&
    match subnet.address.value, address.value with
    | .v4 base, .v4 value =>
        if subnet.prefixLength ≤ 30 then
          let hostMask := BitVec.allOnes 32 >>> subnet.prefixLength
          value != base && value != (base ||| hostMask)
        else true
    | .v6 base, .v6 value => value != base
    | _, _ => false

/-- Whether two subnets have a common address. -/
def overlaps (subnet other : NetworkSubnet) : Bool :=
  subnet.contains other.address || other.contains subnet.address

/-- The authored notation of a subnet. -/
def text (subnet : NetworkSubnet) : String :=
  String.ofList (subnet.address.value.text.toList ++ '/' :: Nat.toDigits 10 subnet.prefixLength)

end NetworkSubnet

end DockerLens.Target
