import Mathlib.Data.List.Nodup
import DockerLens.Cidr
import DockerLens.Target.Accepted

namespace DockerLens.Target

open DockerLens.Text
open DockerLens.Observation
open DockerLens.Cidr

namespace IpAddr

/-- The number of bits of the family of an address. -/
def bits (address : IpAddr) : Nat := if address.isIpv6 then 128 else 32

def number : IpAddr → Nat
  | v4 value => value.toNat
  | v6 value => value.toNat

end IpAddr

namespace NetworkSubnet

/-- The number of bits below the prefix. -/
def low (subnet : NetworkSubnet) : Nat := subnet.address.value.bits - subnet.prefixLength

/-- The addresses that a subnet stands for. -/
def addresses (subnet : NetworkSubnet) : Set NetworkAddress :=
  { address | address.isIpv6 = subnet.address.isIpv6 ∧
    address.value.number ∈ block subnet.low subnet.address.value.number }

theorem contains_iff {subnet : NetworkSubnet} {address : NetworkAddress} :
    subnet.contains address = true ↔ address ∈ subnet.addresses := by
  obtain ⟨⟨base⟩, prefixLength, prefix_le, is_network⟩ := subnet
  obtain ⟨value⟩ := address
  cases base with
  | v4 base =>
      cases value with
      | v4 value =>
          simp only [contains, beq_iff_eq, addresses, low, IpAddr.bits, IpAddr.number,
            NetworkAddress.isIpv6, IpAddr.isIpv6, Set.mem_ofPred_eq, true_and]
          exact and_mask_eq_iff
      | v6 value => simp [contains, addresses, NetworkAddress.isIpv6, IpAddr.isIpv6]
  | v6 base =>
      cases value with
      | v4 value => simp [contains, addresses, NetworkAddress.isIpv6, IpAddr.isIpv6]
      | v6 value =>
          simp only [contains, beq_iff_eq, addresses, low, IpAddr.bits, IpAddr.number,
            NetworkAddress.isIpv6, IpAddr.isIpv6, Set.mem_ofPred_eq, true_and]
          exact and_mask_eq_iff

theorem self_contains (subnet : NetworkSubnet) : subnet.contains subnet.address = true :=
  contains_iff.mpr ⟨rfl, self_mem_block _ _⟩

theorem isIpv6_of_contains {subnet : NetworkSubnet} {address : NetworkAddress}
    (h : subnet.contains address = true) : address.isIpv6 = subnet.address.isIpv6 :=
  (contains_iff.mp h).1

theorem overlaps_iff {left right : NetworkSubnet} :
    left.overlaps right = true ↔
      ∃ address, left.contains address = true ∧ right.contains address = true := by
  rw [overlaps, Bool.or_eq_true]
  constructor
  · rintro (h | h)
    · exact ⟨right.address, h, right.self_contains⟩
    · exact ⟨left.address, left.self_contains, h⟩
  · rintro ⟨address, hleft, hright⟩
    have hfamily := (isIpv6_of_contains hleft).symm.trans (isIpv6_of_contains hright)
    have hmeet := blocks_meet_iff.mpr ⟨_, (contains_iff.mp hleft).2, (contains_iff.mp hright).2⟩
    rw [contains_iff, contains_iff]
    rcases hmeet with h | h
    · exact .inl ⟨hfamily.symm, h⟩
    · exact .inr ⟨hfamily, h⟩

theorem not_both_of_disjoint {left right : NetworkSubnet} (h : Disjoint left right)
    {address : NetworkAddress} (hleft : left.contains address = true) :
    ¬ right.contains address = true := by
  intro hright
  have hoverlaps := overlaps_iff.mpr ⟨address, hright, hleft⟩
  rw [Disjoint] at h
  rw [h] at hoverlaps
  cases hoverlaps

theorem contains_of_range {subnet range : NetworkSubnet}
    (hfamily : range.address.isIpv6 = subnet.address.isIpv6)
    (hmask : subnet.prefixLength ≤ range.prefixLength)
    (hbase : subnet.contains range.address = true) {address : NetworkAddress}
    (h : range.contains address = true) : subnet.contains address = true := by
  have hbits : range.address.value.bits = subnet.address.value.bits := by
    rw [IpAddr.bits, IpAddr.bits]
    exact congrArg (fun isIpv6 : Bool => if isIpv6 then 128 else 32) hfamily
  have hlow : range.low ≤ subnet.low := by
    rw [low, low, hbits]
    omega
  rw [contains_iff] at hbase h ⊢
  exact ⟨h.1.trans hfamily, block_subset hlow (self_mem_block _ _) hbase.2 h.2⟩

theorem aligned (subnet : NetworkSubnet) :
    2 ^ subnet.low ∣ subnet.address.value.number := by
  obtain ⟨⟨base⟩, prefixLength, prefix_le, is_network⟩ := subnet
  cases base with
  | v4 base => exact and_not_mask_eq_zero_iff.mp (beq_iff_eq.mp is_network)
  | v6 base => exact and_not_mask_eq_zero_iff.mp (beq_iff_eq.mp is_network)

/-- A host of a subnet, as numbers: an IPv4 prefix of at most 30 keeps its first and its
last address, and every IPv6 prefix its first one. -/
structure UsableHost (subnet : NetworkSubnet) (address : NetworkAddress) : Prop where
  family : address.isIpv6 = subnet.address.isIpv6
  first_le : subnet.address.value.number ≤ address.value.number
  lt_end : address.value.number < subnet.address.value.number + 2 ^ subnet.low
  ipv4 : subnet.address.isIpv6 = false → subnet.prefixLength ≤ 30 →
    address.value.number ≠ subnet.address.value.number ∧
      address.value.number ≠ subnet.address.value.number + (2 ^ subnet.low - 1)
  ipv6 : subnet.address.isIpv6 = true → address.value.number ≠ subnet.address.value.number

theorem containsUsableHost_iff {subnet : NetworkSubnet} {address : NetworkAddress} :
    subnet.containsUsableHost address = true ↔ subnet.UsableHost address := by
  have hin : subnet.contains address = true ↔ address.isIpv6 = subnet.address.isIpv6 ∧
      subnet.address.value.number ≤ address.value.number ∧
      address.value.number < subnet.address.value.number + 2 ^ subnet.low := by
    rw [contains_iff, addresses, Set.mem_ofPred_eq, mem_block_iff subnet.aligned]
  have haligned := subnet.aligned
  rw [containsUsableHost, Bool.and_eq_true, hin]
  obtain ⟨⟨base⟩, prefixLength, prefix_le, is_network⟩ := subnet
  obtain ⟨value⟩ := address
  have hmixed : ∀ {isIpv6 isIpv6' : Bool}, isIpv6 ≠ isIpv6' →
      NetworkAddress.isIpv6 ⟨value⟩ = isIpv6 → NetworkAddress.isIpv6 ⟨base⟩ = isIpv6' →
      ¬ NetworkAddress.isIpv6 ⟨value⟩ = NetworkAddress.isIpv6 ⟨base⟩ := by
    intro isIpv6 isIpv6' hne hvalue hbase heq
    exact hne (hvalue.symm.trans (heq.trans hbase))
  cases base with
  | v4 base =>
      cases value with
      | v4 value =>
          have hlast : (base ||| BitVec.allOnes 32 >>> prefixLength).toNat =
              base.toNat + (2 ^ (32 - prefixLength) - 1) := toNat_or_lowMask prefix_le haligned
          have hvalue : ∀ other : BitVec 32, value ≠ other ↔ value.toNat ≠ other.toNat :=
            fun _ => BitVec.toNat_inj.not.symm
          constructor
          · rintro ⟨⟨hfamily, hle, hlt⟩, hhost⟩
            refine ⟨hfamily, hle, hlt, fun _ hmask => ?_, fun h => by cases h⟩
            simp only [if_pos hmask, Bool.and_eq_true, bne_iff_ne, hvalue, hlast] at hhost
            exact hhost
          · intro h
            refine ⟨⟨h.family, h.first_le, h.lt_end⟩, ?_⟩
            by_cases hmask : prefixLength ≤ 30
            · simp only [if_pos hmask, Bool.and_eq_true, bne_iff_ne, hvalue, hlast]
              exact h.ipv4 rfl hmask
            · simp only [if_neg hmask]
      | v6 value =>
          have hne := hmixed (by decide : true ≠ false) rfl rfl
          exact ⟨fun h => absurd h.1.1 hne, fun h => absurd h.family hne⟩
  | v6 base =>
      cases value with
      | v4 value =>
          have hne := hmixed (by decide : false ≠ true) rfl rfl
          exact ⟨fun h => absurd h.1.1 hne, fun h => absurd h.family hne⟩
      | v6 value =>
          have hvalue : value ≠ base ↔ value.toNat ≠ base.toNat := BitVec.toNat_inj.not.symm
          constructor
          · rintro ⟨⟨hfamily, hle, hlt⟩, hhost⟩
            simp only [bne_iff_ne, hvalue] at hhost
            exact ⟨hfamily, hle, hlt, fun h => (by cases h), fun _ => hhost⟩
          · intro h
            refine ⟨⟨h.family, h.first_le, h.lt_end⟩, ?_⟩
            simp only [bne_iff_ne, hvalue]
            exact h.ipv6 rfl

theorem contains_of_usable {subnet : NetworkSubnet} {address : NetworkAddress}
    (h : subnet.containsUsableHost address = true) : subnet.contains address = true := by
  rw [containsUsableHost, Bool.and_eq_true] at h
  exact h.1

end NetworkSubnet

section Checked

/-- Subtraction of unsigned numbers, with no result below zero. -/
def checkedSub (left right : Nat) : Option Nat :=
  if right ≤ left then some (left - right) else none

/-- The mask as the source computes it; a shift by the width falls back on zero. -/
def checkedMask (w prefixLength : Nat) : Option (BitVec w) := do
  let shift ← checkedSub w prefixLength
  some ((checkedShl (BitVec.allOnes w) shift).getD 0)

def checkedIsNetwork (address : IpAddr) (prefixLength : Nat) : Option Bool :=
  match address with
  | .v4 value => do
      let mask ← checkedMask 32 prefixLength
      some (value &&& ~~~mask == 0)
  | .v6 value => do
      let mask ← checkedMask 128 prefixLength
      some (value &&& ~~~mask == 0)

def checkedContains (subnet : NetworkSubnet) (address : NetworkAddress) : Option Bool :=
  match subnet.address.value, address.value with
  | .v4 base, .v4 value => do
      let mask ← checkedMask 32 subnet.prefixLength
      some (base &&& mask == value &&& mask)
  | .v6 base, .v6 value => do
      let mask ← checkedMask 128 subnet.prefixLength
      some (base &&& mask == value &&& mask)
  | _, _ => some false

/-- The broadcast slot as the source computes it, where it asks for one. -/
def checkedHostMask (prefixLength : Nat) : BitVec 32 :=
  (checkedShr (BitVec.allOnes 32) prefixLength).getD (BitVec.allOnes 32)

theorem checkedMask_eq {w prefixLength : Nat} (h : prefixLength ≤ w) :
    checkedMask w prefixLength = some (mask w (w - prefixLength)) := by
  rw [checkedMask, checkedSub, if_pos h]
  exact congrArg some (checkedShl_getD _ _)

theorem checkedIsNetwork_eq {address : IpAddr} {prefixLength : Nat}
    (h : prefixLength ≤ address.bits) :
    checkedIsNetwork address prefixLength = some (addressIsNetwork address prefixLength) := by
  cases address with
  | v4 value =>
      have hmask : checkedMask 32 prefixLength = _ := checkedMask_eq h
      rw [checkedIsNetwork, hmask]
      rfl
  | v6 value =>
      have hmask : checkedMask 128 prefixLength = _ := checkedMask_eq h
      rw [checkedIsNetwork, hmask]
      rfl

theorem checkedContains_eq (subnet : NetworkSubnet) (address : NetworkAddress) :
    checkedContains subnet address = some (subnet.contains address) := by
  obtain ⟨⟨base⟩, prefixLength, prefix_le, is_network⟩ := subnet
  obtain ⟨value⟩ := address
  cases base <;> cases value
  · have hmask : checkedMask 32 prefixLength = _ := checkedMask_eq prefix_le
    simp only [checkedContains, hmask]
    rfl
  · rfl
  · rfl
  · have hmask : checkedMask 128 prefixLength = _ := checkedMask_eq prefix_le
    simp only [checkedContains, hmask]
    rfl

theorem checkedHostMask_eq {prefixLength : Nat} (h : prefixLength ≤ 30) :
    checkedHostMask prefixLength = BitVec.allOnes 32 >>> prefixLength := by
  rw [checkedHostMask, checkedShr_allOnes (by omega)]
  rfl

end Checked

section Networks

/-- The gateways and auxiliary addresses of a pool. -/
def NetworkIpamPool.reserved (pool : NetworkIpamPool) : List NetworkAddress :=
  pool.gateway.toList ++ pool.auxiliaryAddresses.map NetworkAuxAddress.address

/-- The static addresses of the containers attached to a network. -/
def attachedAddresses (resources : List TargetResource) (network : ResourceRef) :
    List NetworkAddress :=
  (resources.flatMap TargetResource.attachments).flatMap fun attachment =>
    if attachment.network = network then attachment.addresses else []

/-- Every address that a created network hands out by name. -/
def assignedAddresses (resources : List TargetResource) (network : ResourceRef)
    (ipam : NetworkIpam) : List NetworkAddress :=
  ipam.pools.flatMap NetworkIpamPool.reserved ++ attachedAddresses resources network

/-- What an accepted intent promises of the addresses of one created network. -/
structure IpamSound (resources : List TargetResource) (network : ResourceRef)
    (ipam : NetworkIpam) : Prop where
  disjoint : ipam.pools.Pairwise fun left right => ∀ address,
    ¬(left.subnet.contains address = true ∧ right.subnet.contains address = true)
  ipRange : ∀ pool ∈ ipam.pools, ∀ range ∈ pool.ipRange, ∀ address,
    range.contains address = true → pool.subnet.contains address = true
  placed : ∀ address ∈ assignedAddresses resources network ipam,
    ∃ pool, ipam.pools.filter (fun pool => pool.subnet.contains address) = [pool] ∧
      pool.subnet.UsableHost address
  distinct : (assignedAddresses resources network ipam).Nodup

theorem IpamAccepted.disjointPools {enableIpv6 : Bool} {ipam : NetworkIpam}
    (h : IpamAccepted enableIpv6 ipam) :
    ipam.pools.Pairwise fun left right => ∀ address,
      ¬(left.subnet.contains address = true ∧ right.subnet.contains address = true) := by
  refine (List.pairwise_map.mp h.disjoint).imp ?_
  intro left right hdisjoint address hboth
  exact NetworkSubnet.not_both_of_disjoint hdisjoint hboth.1 hboth.2

theorem filter_pools_eq {pools : List NetworkIpamPool}
    (hdisjoint : pools.Pairwise fun left right => ∀ address,
      ¬(left.subnet.contains address = true ∧ right.subnet.contains address = true))
    {pool : NetworkIpamPool} (hpool : pool ∈ pools) {address : NetworkAddress}
    (hcontains : pool.subnet.contains address = true) :
    pools.filter (fun pool => pool.subnet.contains address) = [pool] := by
  induction pools with
  | nil => simp at hpool
  | cons first rest ih =>
      rw [List.pairwise_cons] at hdisjoint
      rcases List.mem_cons.mp hpool with rfl | hpool
      · rw [List.filter_cons, if_pos hcontains, List.filter_eq_nil_iff.mpr]
        intro other hother hboth
        exact hdisjoint.1 other hother address ⟨hcontains, hboth⟩
      · have hfirst : ¬ first.subnet.contains address = true :=
          fun h => hdisjoint.1 pool hpool address ⟨h, hcontains⟩
        rw [List.filter_cons, if_neg hfirst]
        exact ih hdisjoint.2 hpool

theorem PoolAccepted.usable_reserved {enableIpv6 : Bool} {pool : NetworkIpamPool}
    (h : PoolAccepted enableIpv6 pool) {address : NetworkAddress}
    (haddress : address ∈ pool.reserved) : pool.subnet.containsUsableHost address = true := by
  rcases List.mem_append.mp haddress with hgateway | hauxiliary
  · have hvalid := h.valid
    simp only [validPool, Bool.and_eq_true] at hvalid
    exact (Option.all_eq_true _ _).mp hvalid.1.2 address (Option.mem_toList.mp hgateway)
  · obtain ⟨auxiliary, hmem, rfl⟩ := List.mem_map.mp hauxiliary
    exact h.usable auxiliary hmem

theorem PoolAccepted.nodup_reserved {enableIpv6 : Bool} {pool : NetworkIpamPool}
    (h : PoolAccepted enableIpv6 pool) : pool.reserved.Nodup := by
  have hreserved := h.reserved
  apply List.Nodup.of_map NetworkAddress.value
  rw [NetworkIpamPool.reserved, List.map_append, List.map_map]
  exact hreserved

theorem PoolAccepted.contains_of_ipRange {enableIpv6 : Bool} {pool : NetworkIpamPool}
    (h : PoolAccepted enableIpv6 pool) {range : NetworkSubnet} (hrange : range ∈ pool.ipRange)
    {address : NetworkAddress} (haddress : range.contains address = true) :
    pool.subnet.contains address = true := by
  have hvalid := h.valid
  simp only [validPool, Bool.and_eq_true] at hvalid
  have hwithin := (Option.all_eq_true _ _).mp hvalid.2 range hrange
  simp only [Bool.and_eq_true, beq_iff_eq, decide_eq_true_eq] at hwithin
  exact NetworkSubnet.contains_of_range hwithin.1.1 hwithin.1.2 hwithin.2 haddress

theorem free_of_attached {resources : List TargetResource} (haccepted : Accepted resources)
    {network : NetworkIntent} (hnetwork : .network network ∈ resources) {create : NetworkCreate}
    (hsource : network.source = .create create) {ipam : NetworkIpam}
    (hipam : create.ipam = some ipam) {address : NetworkAddress}
    (haddress : address ∈ attachedAddresses resources network.reference) :
    ∃ pool ∈ ipam.pools, freeIn address pool = true := by
  obtain ⟨attachment, hattachment, haddress⟩ := List.mem_flatMap.mp haddress
  obtain ⟨resource, hresource, hattachment⟩ := List.mem_flatMap.mp hattachment
  split at haddress
  · next hreference =>
      cases resource with
      | container container =>
          have hcontainer : ContainerAccepted resources container :=
            haccepted.each _ hresource
          have hadmitted := (hcontainer.attachments attachment hattachment).admitted
          have hattached := (attachedSource_eq_some_iff haccepted.references).mpr
            ⟨network, hnetwork, hreference.symm, rfl⟩
          rw [hattached, hsource] at hadmitted
          simp only [Option.all_some, admitsAddresses, Bool.and_eq_true, List.all_eq_true, hipam,
            Option.any_some, List.any_eq_true] at hadmitted
          exact hadmitted.2 address haddress
      | _ => simp [TargetResource.attachments] at hattachment
  · simp at haddress

theorem attachedAddresses_sublist (attachments : List NetworkAttachmentIntent)
    (network : ResourceRef) :
    List.Sublist
      ((attachments.flatMap fun attachment =>
        if attachment.network = network then attachment.addresses else []).map
          fun address => (network, address.value))
      (attachments.flatMap fun attachment =>
        attachment.addresses.map fun address => (attachment.network, address.value)) := by
  induction attachments with
  | nil => exact .refl _
  | cons attachment attachments ih =>
      rw [List.flatMap_cons, List.flatMap_cons, List.map_append]
      refine List.Sublist.append ?_ ih
      split
      · next h => rw [h]
      · exact List.nil_sublist _

theorem nodup_attachedAddresses {resources : List TargetResource}
    (hnodup : (staticAddresses resources).Nodup) (network : ResourceRef) :
    (attachedAddresses resources network).Nodup := by
  apply List.Nodup.of_map fun address => (network, address.value)
  refine List.Nodup.sublist ?_ hnodup
  rw [staticAddresses, ← List.flatMap_assoc]
  exact attachedAddresses_sublist _ network

theorem IpamAccepted.nodup_reserved {enableIpv6 : Bool} {ipam : NetworkIpam}
    (h : IpamAccepted enableIpv6 ipam) :
    (ipam.pools.flatMap NetworkIpamPool.reserved).Nodup := by
  rw [List.nodup_flatMap]
  refine ⟨fun pool hpool => (h.pools pool hpool).nodup_reserved, ?_⟩
  refine List.Pairwise.imp_of_mem ?_ h.disjointPools
  intro left right hleft hright hdisjoint address haddress haddress'
  exact hdisjoint address
    ⟨NetworkSubnet.contains_of_usable ((h.pools left hleft).usable_reserved haddress),
      NetworkSubnet.contains_of_usable ((h.pools right hright).usable_reserved haddress')⟩

theorem not_reserved_of_free {address : NetworkAddress} {pool : NetworkIpamPool}
    (h : freeIn address pool = true) : address ∉ pool.reserved := by
  simp only [freeIn, Bool.and_eq_true, bne_iff_ne, Bool.not_eq_true', List.any_eq_false,
    beq_iff_eq] at h
  intro hreserved
  rcases List.mem_append.mp hreserved with hgateway | hauxiliary
  · exact h.1.2 (Option.mem_toList.mp hgateway)
  · obtain ⟨auxiliary, hmem, heq⟩ := List.mem_map.mp hauxiliary
    exact h.2 auxiliary hmem heq

/-- The pools, ranges and addresses of a created network are sound. -/
theorem IpamSound.of_accepted {resources : List TargetResource} (haccepted : Accepted resources)
    {network : NetworkIntent} (hnetwork : .network network ∈ resources) {create : NetworkCreate}
    (hsource : network.source = .create create) {ipam : NetworkIpam}
    (hipam : create.ipam = some ipam) : IpamSound resources network.reference ipam := by
  have hcreate : SourceAccepted network.source := haccepted.each _ hnetwork
  rw [hsource] at hcreate
  have hpools := hcreate.ipam ipam hipam
  have hfree : ∀ address ∈ attachedAddresses resources network.reference,
      ∃ pool ∈ ipam.pools, freeIn address pool = true :=
    fun address => free_of_attached haccepted hnetwork hsource hipam
  have husable : ∀ address ∈ assignedAddresses resources network.reference ipam,
      ∃ pool ∈ ipam.pools, pool.subnet.containsUsableHost address = true := by
    intro address haddress
    rcases List.mem_append.mp haddress with hreserved | hattached
    · obtain ⟨pool, hpool, haddress⟩ := List.mem_flatMap.mp hreserved
      exact ⟨pool, hpool, (hpools.pools pool hpool).usable_reserved haddress⟩
    · obtain ⟨pool, hpool, haddress⟩ := hfree address hattached
      simp only [freeIn, Bool.and_eq_true] at haddress
      exact ⟨pool, hpool, haddress.1.1⟩
  refine ⟨hpools.disjointPools, ?_, ?_, ?_⟩
  · intro pool hpool range hrange address
    exact (hpools.pools pool hpool).contains_of_ipRange hrange
  · intro address haddress
    obtain ⟨pool, hpool, husable⟩ := husable address haddress
    exact ⟨pool, filter_pools_eq hpools.disjointPools hpool
      (NetworkSubnet.contains_of_usable husable), NetworkSubnet.containsUsableHost_iff.mp husable⟩
  · refine List.nodup_append.mpr ⟨hpools.nodup_reserved,
      nodup_attachedAddresses haccepted.staticAddresses _, ?_⟩
    rintro address hreserved _ hattached rfl
    obtain ⟨pool, hpool, haddress⟩ := List.mem_flatMap.mp hreserved
    obtain ⟨other, hother, hfree⟩ := hfree address hattached
    -- the free pool contains the address, so it is the pool that reserves it
    have hin :=
      NetworkSubnet.contains_of_usable ((hpools.pools pool hpool).usable_reserved haddress)
    have hin' : other.subnet.contains address = true := by
      simp only [freeIn, Bool.and_eq_true] at hfree
      exact NetworkSubnet.contains_of_usable hfree.1.1
    have hsame := (filter_pools_eq hpools.disjointPools hpool hin).symm.trans
      (filter_pools_eq hpools.disjointPools hother hin')
    rw [List.singleton_inj] at hsame
    exact not_reserved_of_free hfree (hsame ▸ haddress)

/-- Overlap means a common address; in every accepted intent the pools of a created network
are disjoint, its ranges lie in their pools, and its gateways, auxiliary addresses and static
addresses are distinct usable hosts of one pool each; and no subtraction or shift of these
computations overflows. -/
theorem ipam_sound :
    (∀ left right : NetworkSubnet, left.overlaps right = true ↔
      ∃ address, left.contains address = true ∧ right.contains address = true) ∧
    (∀ (intent : TargetIntent) (network : NetworkIntent) (create : NetworkCreate)
      (ipam : NetworkIpam), .network network ∈ intent.resources →
      network.source = .create create → create.ipam = some ipam →
      IpamSound intent.resources network.reference ipam) ∧
    (∀ (address : IpAddr) (prefixLength : Nat), prefixLength ≤ address.bits →
      checkedIsNetwork address prefixLength = some (addressIsNetwork address prefixLength)) ∧
    (∀ (subnet : NetworkSubnet) (address : NetworkAddress),
      checkedContains subnet address = some (subnet.contains address)) ∧
    ∀ prefixLength ≤ 30,
      checkedHostMask prefixLength = BitVec.allOnes 32 >>> prefixLength := by
  refine ⟨fun _ _ => NetworkSubnet.overlaps_iff, ?_, fun _ _ => checkedIsNetwork_eq,
    checkedContains_eq, fun _ => checkedHostMask_eq⟩
  intro intent network create ipam hnetwork hsource hipam
  exact IpamSound.of_accepted intent.accepted hnetwork hsource hipam

theorem ipam_sound_pool :
    IpamSound
      [.network ⟨⟨1⟩, ⟨asBytes "front", by decide +kernel⟩, .declared,
        .create { NetworkCreate.bridge with
          ipam := some ⟨none, [⟨⟨⟨.v4 0x0a000000⟩, 24, by decide, by decide⟩, some ⟨.v4 0x0a000001⟩,
            some ⟨⟨.v4 0x0a000080⟩, 25, by decide, by decide⟩,
            [⟨⟨asBytes "printer", by decide +kernel⟩, ⟨.v4 0x0a000002⟩⟩]⟩]⟩ }⟩,
        .container {
          reference := ⟨2⟩, identity := ⟨asBytes "web", by decide +kernel⟩
          image := ⟨asBytes "nginx", by decide +kernel⟩, environment := [], ports := []
          mounts := [], networks := [⟨⟨1⟩, [], some ⟨.v4 0x0a000003⟩, none⟩]
          entrypoint := .inherit, command := .inherit, healthcheck := none, restart := none
          settings := .default }]
      ⟨1⟩
      ⟨none, [⟨⟨⟨.v4 0x0a000000⟩, 24, by decide, by decide⟩, some ⟨.v4 0x0a000001⟩,
        some ⟨⟨.v4 0x0a000080⟩, 25, by decide, by decide⟩,
        [⟨⟨asBytes "printer", by decide +kernel⟩, ⟨.v4 0x0a000002⟩⟩]⟩]⟩ :=
  ipam_sound.2.1 ⟨_, by decide +kernel⟩ _ _ _ List.mem_cons_self rfl rfl

end Networks

end DockerLens.Target
