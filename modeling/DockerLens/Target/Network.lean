import DockerLens.Target.Address

namespace DockerLens.Target

open DockerLens.Text
open DockerLens.Observation

/-- `NonZeroU16`, `NonZeroU32` and `NonZeroU64`. -/
structure NonZero (bits : Nat) where
  get : Nat
  pos : 0 < get
  lt : get < 2 ^ bits
  deriving DecidableEq

/-- A Compose-style default is still given an explicit target identity. -/
inductive NetworkRole
  | declared
  | applicationDefault
  deriving DecidableEq, Repr

/-- The drivers that a network may have. -/
inductive NetworkDriver
  | bridge
  | host
  | overlay
  | macvlan
  deriving DecidableEq, Repr

/-- Only reviewed bridge-driver options have typed renderer branches. -/
inductive BridgeOption
  | mtu (value : NonZero 32)
  | interContainerCommunication (enabled : Bool)
  | ipMasquerade (enabled : Bool)
  | hostBindingIp (address : NetworkAddress)
  deriving DecidableEq

/-- An address that is set aside under a name. -/
structure NetworkAuxAddress where
  name : NetworkAlias
  address : NetworkAddress
  deriving DecidableEq

/-- A subnet that the addresses of a network come from. -/
structure NetworkIpamPool where
  subnet : NetworkSubnet
  gateway : Option NetworkAddress
  ipRange : Option NetworkSubnet
  auxiliaryAddresses : List NetworkAuxAddress
  deriving DecidableEq

/-- The address drivers of a created network. -/
inductive NetworkIpamDriver
  | default
  deriving DecidableEq, Repr

/-- The addresses of a created network. -/
structure NetworkIpam where
  driver : Option NetworkIpamDriver
  pools : List NetworkIpamPool
  deriving DecidableEq

/-- A network that the plan makes. -/
structure NetworkCreate where
  driver : NetworkDriver
  internal : Bool
  enableIpv6 : Bool
  ipam : Option NetworkIpam
  options : List BridgeOption
  labels : List NetworkLabel
  deriving DecidableEq

/-- A bridge with nothing set. -/
def NetworkCreate.bridge : NetworkCreate := ⟨.bridge, false, false, none, [], []⟩

/-- Existing networks are requirements, not create operations. -/
inductive NetworkSource
  | create (create : NetworkCreate)
  | external (expectedDriver : NetworkDriver) (expectedInternal : Option Bool)
  deriving DecidableEq

/-- A network of an intent, made by the plan or by somebody else. -/
structure NetworkIntent where
  reference : ResourceRef
  identity : TargetIdentity
  role : NetworkRole
  source : NetworkSource
  deriving DecidableEq

/-- A network that a container is attached to. -/
structure NetworkAttachmentIntent where
  network : ResourceRef
  aliases : List NetworkAlias
  ipv4Address : Option NetworkAddress
  ipv6Address : Option NetworkAddress
  deriving DecidableEq

/-- The static addresses of an attachment, IPv4 first. -/
def NetworkAttachmentIntent.addresses (attachment : NetworkAttachmentIntent) :
    List NetworkAddress :=
  attachment.ipv4Address.toList ++ attachment.ipv6Address.toList

end DockerLens.Target
