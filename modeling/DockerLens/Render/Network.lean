import DockerLens.Render.Text

namespace DockerLens.Render

open DockerLens.Text
open DockerLens.Target

def addressText (address : NetworkAddress) : Bytes := asBytes address.value.text

def subnetText (subnet : NetworkSubnet) : Bytes := asBytes subnet.text

def renderAuxiliary (auxiliary : NetworkAuxAddress) : Rendered Chars :=
  jsonPair auxiliary.name.bytes (addressText auxiliary.address)

/-- An object of `IPAM.Config`. -/
def renderPool (pool : NetworkIpamPool) : Rendered Chars :=
  pushes
    [push "\x7b\"Subnet\":", jsonString (subnetText pool.subnet),
      pushSome (fun range => pushes [push ",\"IPRange\":", jsonString (subnetText range)])
        pool.ipRange,
      pushSome (fun gateway => pushes [push ",\"Gateway\":", jsonString (addressText gateway)])
        pool.gateway,
      pushIf (!pool.auxiliaryAddresses.isEmpty)
        (pushes [push ",\"AuxiliaryAddresses\":\x7b",
          separated renderAuxiliary pool.auxiliaryAddresses, push "\x7d"]),
      push "\x7d"]

def ipamDriverName : NetworkIpamDriver → String
  | .default => "default"

/-- The native name and the value of a bridge option. -/
def bridgeOption : BridgeOption → String × String
  | .mtu value => ("com.docker.network.driver.mtu", String.ofList (decimal value.get))
  | .interContainerCommunication enabled =>
      ("com.docker.network.bridge.enable_icc", toString enabled)
  | .ipMasquerade enabled => ("com.docker.network.bridge.enable_ip_masquerade", toString enabled)
  | .hostBindingIp address => ("com.docker.network.bridge.host_binding_ipv4", address.value.text)

def renderOption (option : BridgeOption) : Rendered Chars :=
  jsonPair (asBytes (bridgeOption option).1) (asBytes (bridgeOption option).2)

/-- The member `IPAM`. -/
def renderIpam (ipam : NetworkIpam) : Rendered Chars :=
  pushes
    [push ",\"IPAM\":\x7b",
      pushSome (fun driver =>
        pushes [push "\"Driver\":", jsonString (asBytes (ipamDriverName driver)), push ","])
        ipam.driver,
      push "\"Config\":[", separated renderPool ipam.pools, push "]\x7d"]

def renderNetworkLabel (label : NetworkLabel) : Rendered Chars := jsonPair label.key label.value

/-- The members of a created network that are not always there. -/
def renderCreateOptions (create : NetworkCreate) : Rendered Chars :=
  pushes
    [pushIf create.internal (push ",\"Internal\":true"),
      pushIf create.enableIpv6 (push ",\"EnableIPv6\":true"),
      pushSome renderIpam create.ipam,
      pushIf (!create.options.isEmpty)
        (pushes [push ",\"Options\":\x7b", separated renderOption create.options, push "\x7d"]),
      pushIf (!create.labels.isEmpty)
        (pushes [push ",\"Labels\":\x7b", separated renderNetworkLabel create.labels,
          push "\x7d"])]

/-- The body that creates a network. There is none for an external one. -/
def renderNetwork (network : NetworkIntent) : Rendered Chars :=
  match network.source with
  | .external _ _ => .error .aborted
  | .create create =>
      pushes
        [push "\x7b\"Name\":", jsonString network.identity.bytes, push ",\"Driver\":\"bridge\"",
          renderCreateOptions create, push "\x7d"]

def renderVolumeLabel (label : VolumeLabel) : Rendered Chars := jsonPair label.key label.value

/-- The body that creates a volume. -/
def renderVolume (identity : TargetIdentity) (labels : List VolumeLabel) : Rendered Chars :=
  pushes
    [push "\x7b\"Name\":", jsonString identity.bytes,
      pushIf (!labels.isEmpty)
        (pushes [push ",\"Labels\":\x7b", separated renderVolumeLabel labels, push "\x7d"]),
      push "\x7d"]

end DockerLens.Render
