import DockerLens.Render.Network
import DockerLens.Render.Spelled

namespace DockerLens.Render

open DockerLens.Text
open DockerLens.Json
open DockerLens.Target

/-- The JSON entry of a label or of another pair of texts. -/
def pairEntry (key value : Bytes) : String × Value := (decoded key, stringValue value)

def auxiliaryEntry (auxiliary : NetworkAuxAddress) : String × Value :=
  pairEntry auxiliary.name.bytes (addressText auxiliary.address)

/-- The JSON value of an IPAM pool. -/
def poolBody (pool : NetworkIpamPool) : Value :=
  fieldsObject
    [("Subnet", some (stringValue (subnetText pool.subnet))),
      ("IPRange", pool.ipRange.map fun range => stringValue (subnetText range)),
      ("Gateway", pool.gateway.map fun gateway => stringValue (addressText gateway)),
      ("AuxiliaryAddresses", fieldIf (!pool.auxiliaryAddresses.isEmpty)
        (.object (pool.auxiliaryAddresses.map auxiliaryEntry)))]

def ipamBody (ipam : NetworkIpam) : Value :=
  fieldsObject
    [("Driver", ipam.driver.map fun driver => stringValue (asBytes (ipamDriverName driver))),
      ("Config", some (.array (ipam.pools.map poolBody)))]

def optionEntry (option : BridgeOption) : String × Value :=
  pairEntry (asBytes (bridgeOption option).1) (asBytes (bridgeOption option).2)

/-- The members of a network body after its driver. -/
def createFields (create : NetworkCreate) : List (String × Option Value) :=
  [("Internal", fieldIf create.internal (.bool true)),
    ("EnableIPv6", fieldIf create.enableIpv6 (.bool true)),
    ("IPAM", create.ipam.map ipamBody),
    ("Options", fieldIf (!create.options.isEmpty) (.object (create.options.map optionEntry))),
    ("Labels", fieldIf (!create.labels.isEmpty)
      (.object (create.labels.map fun label => pairEntry label.key label.value)))]

/-- The JSON value of the body that creates a network. -/
def networkBody (identity : TargetIdentity) (create : NetworkCreate) : Value :=
  fieldsObject (("Name", some (stringValue identity.bytes)) ::
    ("Driver", some (.string "bridge")) :: createFields create)

/-- The JSON value of the body that creates a volume. -/
def volumeBody (identity : TargetIdentity) (labels : List VolumeLabel) : Value :=
  fieldsObject
    [("Name", some (stringValue identity.bytes)),
      ("Labels", fieldIf (!labels.isEmpty)
        (.object (labels.map fun label => pairEntry label.key label.value)))]

theorem writes_auxiliary (auxiliary : NetworkAuxAddress) :
    WritesMembers [auxiliaryEntry auxiliary] (renderAuxiliary auxiliary) :=
  writesMembers_pair (isUtf8_of_identity auxiliary.name.checked) (isUtf8_asBytes _)

theorem spells_pool (pool : NetworkIpamPool) :
    Writes (Spells (poolBody pool)) (renderPool pool) := by
  apply spells_object (by decide) (spells_jsonString (isUtf8_asBytes _)) closes_brace
  apply Parts.fields (writesFields_some fun range _ =>
    writesFields_keyed (by decide) (spells_jsonString (isUtf8_asBytes _)))
  apply Parts.fields (writesFields_some fun gateway _ =>
    writesFields_keyed (by decide) (spells_jsonString (isUtf8_asBytes _)))
  apply Parts.fields (writesFields_map (by decide) (by decide) fun auxiliary _ =>
    writes_auxiliary auxiliary)
  exact .close rfl

theorem spells_option (option : BridgeOption) :
    WritesMembers [optionEntry option] (renderOption option) :=
  writesMembers_pair (isUtf8_asBytes _) (isUtf8_asBytes _)

theorem writes_ipamDriver (driver : Option NetworkIpamDriver) :
    ∃ text, pushSome (fun driver =>
        pushes [push "\"Driver\":", jsonString (asBytes (ipamDriverName driver)), push ","])
        driver = .ok text ∧
      ∀ members rest, Members members (',' :: rest) →
        Members (present [("Driver",
          driver.map fun driver => stringValue (asBytes (ipamDriverName driver)))] ++ members)
          (',' :: (text ++ rest)) := by
  cases driver with
  | none => exact ⟨[], rfl, fun members rest h => by simpa [present] using h⟩
  | some driver =>
      obtain ⟨name, hname, hspells⟩ :=
        spells_jsonString (isUtf8_asBytes (ipamDriverName driver))
      have hkey : PlainKey "Driver" ∧ "\"Driver\":".toList = keyText "Driver" ++ [':'] := by decide
      have hpushes := pushes_cons (@rfl _ (push "\"Driver\":")) (pushes_cons hname
        (pushes_cons (@rfl _ (push ",")) (pushes_eq_ok .nil)))
      refine ⟨_, hpushes, ?_⟩
      intro members rest h
      rw [hkey.2]
      simpa [present] using (Members.singleton (quotes_keyText hkey.1) hspells).append h

theorem writes_ipam {ipam : NetworkIpam} (hne : ipam.pools ≠ []) :
    WritesFields [("IPAM", some (ipamBody ipam))] (renderIpam ipam) := by
  obtain ⟨driver, hdriver, hmembers⟩ := writes_ipamDriver ipam.driver
  obtain ⟨pools, hpools, helements⟩ :=
    writesElements_separated hne fun pool _ => spells_pool pool
  have hconfig : PlainKey "Config" ∧ "\"Config\":[".toList = keyText "Config" ++ [':', '['] := by
    decide
  have hipam : PlainKey "IPAM" ∧
      ",\"IPAM\":\x7b".toList = ',' :: (keyText "IPAM" ++ [':', '\x7b']) := by
    decide
  have hpushes := pushes_cons (@rfl _ (push ",\"IPAM\":\x7b")) (pushes_cons hdriver
    (pushes_cons (@rfl _ (push "\"Config\":[")) (pushes_cons hpools
      (pushes_cons (@rfl _ (push "]\x7d")) (pushes_eq_ok .nil)))))
  refine ⟨_, hpushes, ?_⟩
  have hall := hmembers _ _ (Members.singleton (quotes_keyText hconfig.1)
    (helements.spells (by simpa using hne)))
  have hobject := hall.spells (by simp) (@rfl _ (([] : List Char).all isSpace))
  have hmember := Members.singleton (quotes_keyText hipam.1) hobject
  rw [hipam.2, hconfig.2]
  simpa [present, ipamBody, fieldsObject] using hmember

theorem writes_createOptions {create : NetworkCreate}
    (hpools : ∀ ipam, create.ipam = some ipam → ipam.pools ≠ []) :
    WritesFields (createFields create) (renderCreateOptions create) := by
  apply writesFields_append (writesFields_if fun _ =>
    writesFields_push (by decide) (spells_bool true))
  apply writesFields_append (writesFields_if fun _ =>
    writesFields_push (by decide) (spells_bool true))
  apply writesFields_append (writesFields_some fun ipam hipam => writes_ipam (hpools ipam hipam))
  apply writesFields_append (writesFields_map (by decide) (by decide) fun option _ =>
    spells_option option)
  apply writesFields_append (writesFields_map (by decide) (by decide) fun label _ =>
    writesMembers_pair (isUtf8_of_label label.checked).1 (isUtf8_of_label label.checked).2)
  exact writesFields_pushes_nil

theorem spells_network {network : NetworkIntent} {create : NetworkCreate}
    (hsource : network.source = .create create)
    (hpools : ∀ ipam, create.ipam = some ipam → ipam.pools ≠ []) :
    Writes (Spells (networkBody network.identity create)) (renderNetwork network) := by
  rw [renderNetwork, hsource]
  apply spells_object (by decide)
    (spells_jsonString (isUtf8_of_identity network.identity.checked)) closes_brace
  have hdriver : PlainKey "Driver" ∧ ",\"Driver\":\"bridge\"".toList =
      ',' :: (keyText "Driver" ++ ':' :: keyText "bridge") := by
    decide
  refine .fixed hdriver (quotes_keyText (by decide)).spells ?_
  simpa using Parts.fields (writes_createOptions hpools) (.close (@rfl _ "\x7d".toList))

theorem spells_volume (identity : TargetIdentity) (labels : List VolumeLabel) :
    Writes (Spells (volumeBody identity labels)) (renderVolume identity labels) := by
  apply spells_object (by decide) (spells_jsonString (isUtf8_of_identity identity.checked))
    closes_brace
  apply Parts.fields (writesFields_map (by decide) (by decide) fun label _ =>
    writesMembers_pair (isUtf8_of_volumeLabel label.checked).1
      (isUtf8_of_volumeLabel label.checked).2)
  exact .close rfl

end DockerLens.Render
