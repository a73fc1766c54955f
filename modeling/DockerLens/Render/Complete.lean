import DockerLens.Render.Steps
import DockerLens.Render.Unique

namespace DockerLens.Render

open DockerLens.Text
open DockerLens.Json
open DockerLens.Fold
open DockerLens.Observation
open DockerLens.Version
open DockerLens.Target

/-- Bytes that are the JSON text of a value, no object of which repeats a key. -/
structure Document (bytes : Bytes) (value : Value) : Prop where
  parsed : ∃ text, fromUtf8 bytes = some text ∧ Json.parse text.toList = some value
  unique : UniqueKeys value

theorem document_of_spells {value : Value} {text pad : Chars} (h : Spells value text)
    (hpad : pad.all isSpace = true) (hunique : UniqueKeys value) :
    Document (asBytes (String.ofList (text ++ pad))) value :=
  ⟨⟨_, fromUtf8_asBytes _, by rw [String.toList_ofList, h.parse_eq hpad]⟩, hunique⟩

namespace Prerequisite

/-- The resource that a prerequisite is about. -/
def reference : Prerequisite → ResourceRef
  | network prerequisite => prerequisite.reference
  | volume prerequisite => prerequisite.reference
  | bindSource prerequisite => prerequisite.reference

/-- The authored bytes that an entry shows. -/
def texts : Prerequisite → List (String × Bytes)
  | network prerequisite => [("identity", prerequisite.identity)]
  | volume prerequisite => [("identity", prerequisite.identity)]
  | bindSource prerequisite =>
      [("identity", prerequisite.identity), ("source", prerequisite.source),
        ("target", prerequisite.target)]

/-- What a prerequisite expects of a network's reach. -/
def expectedInternal : Prerequisite → Option Bool
  | network prerequisite => prerequisite.expectedInternal
  | volume _ => none
  | bindSource _ => none

/-- The resource that an obligation is about, as it was authored. -/
def Of (resource : TargetResource) : Prerequisite → Prop
  | network prerequisite =>
      ∃ network, resource = .network network ∧ network.reference = prerequisite.reference ∧
        network.identity.bytes = prerequisite.identity ∧
        network.source =
          .external prerequisite.expectedDriver prerequisite.expectedInternal
  | volume prerequisite =>
      ∃ identity, resource = .externalVolume prerequisite.reference identity ∧
        identity.bytes = prerequisite.identity
  | bindSource prerequisite =>
      ∃ container mount, resource = .container container ∧
        container.reference = prerequisite.reference ∧
        container.identity.bytes = prerequisite.identity ∧
        container.mounts[prerequisite.mountIndex]? = some mount ∧
        mount.source = .bind prerequisite.source ∧ mount.target = prerequisite.target ∧
        mount.readOnly = prerequisite.readOnly ∧
        mount.bindRelabel = some prerequisite.relabel

end Prerequisite

section Entries

/-- A number that is written as a string. -/
def decimalString (value : Nat) : Value := .string (String.ofList (decimal value))

/-- The members of a network's entry. -/
def networkFields (network : NetworkPrerequisite) : List (String × Option Value) :=
  [("kind", some (.string "network")),
    ("reference", some (decimalString network.reference.localIndex)),
    ("identity", some (stringValue network.identity)),
    ("expected_driver", some (.string (networkDriverName network.expectedDriver))),
    ("expected_internal", network.expectedInternal.map .bool)]

/-- The members of a volume's entry. -/
def volumeFields (volume : VolumePrerequisite) : List (String × Option Value) :=
  [("kind", some (.string "volume")),
    ("reference", some (decimalString volume.reference.localIndex)),
    ("identity", some (stringValue volume.identity))]

/-- What has to hold of every path. -/
def sourceConditions : List String :=
  ["exists", "type_reviewed", "contents_reviewed", "ownership_reviewed", "permissions_reviewed"]

/-- What has to hold besides of a path that is relabelled. -/
def selinuxConditions : List String :=
  ["daemon_selinux_enabled", "container_mount_label_present", "policy_filesystem_support",
    "relabel_authority"]

/-- The members of a path's entry. -/
def bindSourceFields (bind : BindSourcePrerequisite) : List (String × Option Value) :=
  [("kind", some (.string "bind_source")),
    ("reference", some (decimalString bind.reference.localIndex)),
    ("identity", some (stringValue bind.identity)),
    ("mount_index", some (decimalString bind.mountIndex)),
    ("source", some (stringValue bind.source)),
    ("target", some (stringValue bind.target)),
    ("read_only", some (.bool bind.readOnly)),
    ("relabel", some (.string (relabelName bind.relabel))),
    ("source_conditions", some (.array (sourceConditions.map .string))),
    ("selinux_effect", some (.string "unverified")),
    ("selinux_conditions", some (.array (selinuxConditions.map .string)))]

/-- The members of an entry of the document. -/
def entryFields : Prerequisite → List (String × Option Value)
  | .network network => networkFields network
  | .volume volume => volumeFields volume
  | .bindSource bind => bindSourceFields bind

/-- The entry of a prerequisite. -/
def entryBody (prerequisite : Prerequisite) : Value := fieldsObject (entryFields prerequisite)

/-- The array of some fixed texts. -/
def textsText (texts : List String) : Chars :=
  '[' :: [','].intercalate (texts.map keyText) ++ [']']

theorem elements_texts {texts : List String} (hplain : ∀ text ∈ texts, PlainKey text)
    (hne : texts ≠ []) :
    Elements (texts.map .string) (',' :: [','].intercalate (texts.map keyText)) := by
  induction texts with
  | nil => exact absurd rfl hne
  | cons text texts ih =>
      rw [List.forall_mem_cons] at hplain
      have hhead := (quotes_keyText hplain.1).spells
      cases texts with
      | nil => simpa [List.intercalate] using Elements.cons hhead .nil
      | cons second texts =>
          have htail := ih hplain.2 (by simp)
          simpa [List.intercalate] using Elements.cons hhead htail

theorem spells_texts {texts : List String} (hplain : ∀ text ∈ texts, PlainKey text)
    (hne : texts ≠ []) : Spells (.array (texts.map .string)) (textsText texts) :=
  (elements_texts hplain hne).spells (by simpa using hne)

theorem spells_networkEntry {network : NetworkPrerequisite}
    (hidentity : isUtf8 network.identity = true) :
    Writes (Spells (entryBody (.network network)))
      (pushes [appendNetwork network, push "\x7d"]) := by
  rw [appendNetwork, pushes_nested]
  refine @spells_opened [("kind", "network")] _ _ _ _ _ _ _ (by decide) (by decide)
    (spells_jsonText _) closes_brace ?_
  apply Parts.keyed (by decide) (spells_jsonString hidentity)
  apply Parts.keyed (by decide) (spells_jsonText _)
  apply Parts.fields (writesFields_some fun expected _ =>
    writesFields_keyed (by decide) (writes_ok (spells_bool expected)))
  exact .close rfl

theorem spells_volumeEntry {volume : VolumePrerequisite}
    (hidentity : isUtf8 volume.identity = true) :
    Writes (Spells (entryBody (.volume volume))) (pushes [appendVolume volume, push "\x7d"]) := by
  rw [appendVolume, pushes_nested]
  refine @spells_opened [("kind", "volume")] _ _ _ _ _ _ _ (by decide) (by decide)
    (spells_jsonText _) closes_brace ?_
  apply Parts.keyed (by decide) (spells_jsonString hidentity)
  exact .close rfl

theorem writes_readOnly (readOnly : Bool) :
    WritesFields [("read_only", some (.bool readOnly))]
      (push (if readOnly then ",\"read_only\":true" else ",\"read_only\":false")) := by
  cases readOnly with
  | true => exact writesFields_push (by decide) (spells_bool true)
  | false => exact writesFields_push (by decide) (spells_bool false)

theorem writes_selinux :
    WritesFields [("selinux_effect", some (.string "unverified")),
        ("selinux_conditions", some (.array (selinuxConditions.map .string)))]
      (push (",\"selinux_effect\":\"unverified\",\"selinux_conditions\":" ++
        "[\"daemon_selinux_enabled\",\"container_mount_label_present\"," ++
        "\"policy_filesystem_support\",\"relabel_authority\"]")) := by
  have hkeys : PlainKey "selinux_effect" ∧ PlainKey "unverified" ∧
      PlainKey "selinux_conditions" ∧ ∀ text ∈ selinuxConditions, PlainKey text := by decide
  have htext : (",\"selinux_effect\":\"unverified\",\"selinux_conditions\":" ++
        "[\"daemon_selinux_enabled\",\"container_mount_label_present\"," ++
        "\"policy_filesystem_support\",\"relabel_authority\"]").toList =
      (',' :: (keyText "selinux_effect" ++ ':' :: keyText "unverified")) ++
        (',' :: (keyText "selinux_conditions" ++ ':' :: textsText selinuxConditions)) := by
    decide +kernel
  refine ⟨_, rfl, ?_⟩
  rw [htext]
  exact (Members.singleton (quotes_keyText hkeys.1) (quotes_keyText hkeys.2.1).spells).append
    (Members.singleton (quotes_keyText hkeys.2.2.1) (spells_texts hkeys.2.2.2 (by decide)))

theorem spells_bindSourceEntry {bind : BindSourcePrerequisite}
    (hidentity : isUtf8 bind.identity = true) (hsource : isUtf8 bind.source = true)
    (htarget : isUtf8 bind.target = true) :
    Writes (Spells (entryBody (.bindSource bind)))
      (pushes [appendBindSource bind, push "\x7d"]) := by
  rw [appendBindSource, pushes_nested]
  refine @spells_opened [("kind", "bind_source")] _ _ _ _ _ _ _ (by decide) (by decide)
    (spells_jsonText _) closes_brace ?_
  apply Parts.keyed (by decide) (spells_jsonString hidentity)
  apply Parts.keyed (by decide) (spells_jsonText _)
  apply Parts.keyed (by decide) (spells_jsonString hsource)
  apply Parts.keyed (by decide) (spells_jsonString htarget)
  apply Parts.fields (writes_readOnly bind.readOnly)
  apply Parts.keyed (by decide) (spells_jsonText _)
  have hconditions : PlainKey "source_conditions" ∧
      (",\"source_conditions\":[\"exists\",\"type_reviewed\",\"contents_reviewed\"," ++
        "\"ownership_reviewed\",\"permissions_reviewed\"]").toList =
      ',' :: (keyText "source_conditions" ++ ':' :: textsText sourceConditions) := by
    decide +kernel
  apply Parts.fixed hconditions (spells_texts (by decide) (by decide))
  apply Parts.fields writes_selinux
  exact .close rfl

theorem spells_entry {artifact : RenderedArtifact} {index : PrerequisiteOrder}
    {prerequisite : Prerequisite}
    (h : resolve artifact.networkPrerequisites artifact.volumePrerequisites
      artifact.bindSourcePrerequisites index = some prerequisite)
    (hutf8 : ∀ text ∈ prerequisite.texts, isUtf8 text.2 = true) :
    Writes (Spells (entryBody prerequisite)) (appendPrerequisite artifact index) := by
  cases index with
  | network index =>
      obtain ⟨network, hnetwork, rfl⟩ := Option.map_eq_some_iff.mp h
      simp only [appendPrerequisite, indexed, hnetwork, ok_bind]
      exact spells_networkEntry (hutf8 ("identity", network.identity)
        (by simp [Prerequisite.texts]))
  | volume index =>
      obtain ⟨volume, hvolume, rfl⟩ := Option.map_eq_some_iff.mp h
      simp only [appendPrerequisite, indexed, hvolume, ok_bind]
      exact spells_volumeEntry (hutf8 ("identity", volume.identity)
        (by simp [Prerequisite.texts]))
  | bindSource index =>
      obtain ⟨bind, hbind, rfl⟩ := Option.map_eq_some_iff.mp h
      simp only [appendPrerequisite, indexed, hbind, ok_bind]
      exact spells_bindSourceEntry
        (hutf8 ("identity", bind.identity) (by simp [Prerequisite.texts]))
        (hutf8 ("source", bind.source) (by simp [Prerequisite.texts]))
        (hutf8 ("target", bind.target) (by simp [Prerequisite.texts]))

theorem keys_entryFields (prerequisite : Prerequisite) :
    ((entryFields prerequisite).map Prod.fst).Nodup := by
  cases prerequisite with
  | network network =>
      exact (by decide : ["kind", "reference", "identity", "expected_driver",
        "expected_internal"].Nodup)
  | volume volume => exact (by decide : ["kind", "reference", "identity"].Nodup)
  | bindSource bind =>
      exact (by decide : ["kind", "reference", "identity", "mount_index", "source", "target",
        "read_only", "relabel", "source_conditions", "selinux_effect",
        "selinux_conditions"].Nodup)

theorem uniqueKeys_texts (texts : List String) : UniqueKeys (.array (texts.map .string)) :=
  uniqueKeys_array fun text _ => .string text

theorem uniqueKeys_entry (prerequisite : Prerequisite) : UniqueKeys (entryBody prerequisite) := by
  refine uniqueKeys_of_members (keys_entryFields prerequisite) ?_
  cases prerequisite with
  | network network =>
      exact ⟨uniqueMember_some (.string _), uniqueMember_some (.string _),
        uniqueMember_some (.string _), uniqueMember_some (.string _),
        uniqueMember_map fun _ _ => .bool _⟩
  | volume volume =>
      exact ⟨uniqueMember_some (.string _), uniqueMember_some (.string _),
        uniqueMember_some (.string _)⟩
  | bindSource bind =>
      exact ⟨uniqueMember_some (.string _), uniqueMember_some (.string _),
        uniqueMember_some (.string _), uniqueMember_some (.string _),
        uniqueMember_some (.string _), uniqueMember_some (.string _),
        uniqueMember_some (.bool _), uniqueMember_some (.string _),
        uniqueMember_some (uniqueKeys_texts _), uniqueMember_some (.string _),
        uniqueMember_some (uniqueKeys_texts _)⟩

end Entries

section Context

/-- An API version as a text. -/
def apiValue (version : ApiVersion) : Value :=
  .string (String.ofList (decimal version.major ++ '.' :: decimal version.minor))

/-- The object of a build. -/
def buildBody : EngineBuild → Value
  | .upstream => fieldsObject [("kind", some (.string "upstream"))]
  | .debianPackage revision =>
      fieldsObject
        [("kind", some (.string "debian_package")), ("revision", some (.string revision.text))]

/-- The members of what was planned for. -/
def contextFields : PlanningContext → List (String × Option Value)
  | .observed scope =>
      [("kind", some (.string "observed")), ("provenance", some (.string "process_local_only")),
        ("engine_release", some (.string scope.release.text)),
        ("api_version", some (apiValue scope.apiVersion)),
        ("daemon_mode", some (.string (daemonModeName scope.mode)))]
  | .target profile =>
      [("kind", some (.string "target")), ("build", some (buildBody profile.identity.build)),
        ("engine_release", some (.string profile.identity.release.text)),
        ("advertised_api_version", some (apiValue profile.identity.advertisedApiVersion)),
        ("acquisition_api_version", some (apiValue profile.identity.acquisitionApiVersion)),
        ("rendering_api_version", some (apiValue profile.identity.renderingApiVersion)),
        ("daemon_mode", some (.string (daemonModeName profile.identity.mode))),
        ("evidence_sha256",
          some (.string (String.ofList (profile.evidenceKey.bytes.flatMap hex2))))]

/-- The JSON value of the planning context. -/
def contextBody (context : PlanningContext) : Value := fieldsObject (contextFields context)

theorem spells_build (build : EngineBuild) :
    Writes (Spells (buildBody build)) (appendBuild build) := by
  cases build with
  | upstream =>
      have htext : PlainKey "kind" ∧ PlainKey "upstream" ∧
          "\x7b\"kind\":\"upstream\"\x7d".toList =
            '\x7b' :: (keyText "kind" ++ ':' :: keyText "upstream") ++ ([] ++ ['\x7d']) := by
        decide
      have hmember := Members.singleton (quotes_keyText htext.1) (quotes_keyText htext.2.1).spells
      refine ⟨_, rfl, ?_⟩
      rw [htext.2.2]
      exact hmember.spells (by simp) rfl
  | debianPackage revision =>
      exact @spells_opened [("kind", "debian_package")] _ _ _ _ _ _ _ (by decide) (by decide)
        (spells_jsonText _) closes_brace (.close rfl)

theorem plain_hex {bytes : Bytes} :
    ∀ char ∈ bytes.flatMap hex2, char ≠ '"' ∧ char ≠ '\\' ∧ ¬ char.toNat < 0x20 := by
  have hall : ∀ code < 256, (hex2 (UInt8.ofNat code)).all
      (fun char => char ≠ '"' && char ≠ '\\' && 0x20 ≤ char.toNat) = true := by decide +kernel
  intro char hchar
  obtain ⟨byte, -, hbyte⟩ := List.mem_flatMap.mp hchar
  have hplain := hall byte.toNat byte.toNat_lt
  rw [UInt8.ofNat_toNat] at hplain
  simpa [and_assoc] using List.all_eq_true.mp hplain char hbyte

theorem writes_evidence (bytes : Bytes) :
    WritesFields [("evidence_sha256", some (.string (String.ofList (bytes.flatMap hex2))))]
      (pushes [push ",\"evidence_sha256\":\"", .ok (bytes.flatMap hex2), push "\""]) := by
  have hkey : PlainKey "evidence_sha256" ∧
      ",\"evidence_sha256\":\"".toList = ',' :: (keyText "evidence_sha256" ++ [':', '"']) := by
    decide
  refine ⟨_, pushes_cons (@rfl _ (push ",\"evidence_sha256\":\""))
    (pushes_cons (@rfl _ (Except.ok (bytes.flatMap hex2)))
      (pushes_cons (@rfl _ (push "\"")) (pushes_eq_ok .nil))), ?_⟩
  have hmember := Members.singleton (quotes_keyText hkey.1) (quotes_plain (@plain_hex bytes)).spells
  rw [hkey.2]
  simpa [present] using hmember

theorem spells_context (context : PlanningContext) :
    Writes (Spells (contextBody context)) (appendContext context) := by
  cases context with
  | observed scope =>
      refine @spells_opened [("kind", "observed"), ("provenance", "process_local_only")] _ _ _ _
        _ _ _ (by decide) (by decide) (spells_jsonText _) closes_brace ?_
      apply Parts.keyed (by decide) (spells_jsonText _)
      apply Parts.keyed (by decide) (spells_jsonText _)
      exact .close rfl
  | target profile =>
      have hgroup : appendContext (.target profile) = pushes
          ([push "\x7b\"kind\":\"target\",\"build\":", appendBuild profile.identity.build,
            push ",\"engine_release\":", jsonString (asBytes profile.identity.release.text),
            push ",\"advertised_api_version\":",
            appendApiVersion profile.identity.advertisedApiVersion,
            push ",\"acquisition_api_version\":",
            appendApiVersion profile.identity.acquisitionApiVersion,
            push ",\"rendering_api_version\":",
            appendApiVersion profile.identity.renderingApiVersion,
            push ",\"daemon_mode\":",
            jsonString (asBytes (daemonModeName profile.identity.mode))] ++
          [pushes [push ",\"evidence_sha256\":\"",
            .ok (profile.evidenceKey.bytes.flatMap hex2), push "\""], push "\x7d"]) := by
        rw [pushes_tail _ (pushes_nested _ _)]
        rfl
      rw [hgroup]
      refine @spells_opened [("kind", "target")] _ _ _ _ _ _ _ (by decide) (by decide)
        (spells_build _) closes_brace ?_
      apply Parts.keyed (by decide) (spells_jsonText _)
      apply Parts.keyed (by decide) (spells_jsonText _)
      apply Parts.keyed (by decide) (spells_jsonText _)
      apply Parts.keyed (by decide) (spells_jsonText _)
      apply Parts.keyed (by decide) (spells_jsonText _)
      apply Parts.fields (writes_evidence _)
      exact .close rfl

theorem uniqueKeys_build (build : EngineBuild) : UniqueKeys (buildBody build) := by
  cases build with
  | upstream =>
      refine uniqueKeys_of_members (show ["kind"].Nodup by decide) ?_
      exact uniqueMember_some (.string _)
  | debianPackage revision =>
      refine uniqueKeys_of_members (show ["kind", "revision"].Nodup by decide) ?_
      exact ⟨uniqueMember_some (.string _), uniqueMember_some (.string _)⟩

theorem uniqueKeys_context (context : PlanningContext) : UniqueKeys (contextBody context) := by
  cases context with
  | observed scope =>
      refine uniqueKeys_of_members (show ["kind", "provenance", "engine_release", "api_version",
        "daemon_mode"].Nodup by decide) ?_
      exact ⟨uniqueMember_some (.string _), uniqueMember_some (.string _),
        uniqueMember_some (.string _), uniqueMember_some (.string _),
        uniqueMember_some (.string _)⟩
  | target profile =>
      refine uniqueKeys_of_members (show ["kind", "build", "engine_release",
        "advertised_api_version", "acquisition_api_version", "rendering_api_version",
        "daemon_mode", "evidence_sha256"].Nodup by decide) ?_
      exact ⟨uniqueMember_some (.string _), uniqueMember_some (uniqueKeys_build _),
        uniqueMember_some (.string _), uniqueMember_some (.string _),
        uniqueMember_some (.string _), uniqueMember_some (.string _),
        uniqueMember_some (.string _), uniqueMember_some (.string _)⟩

end Context

section Complete

/-- The JSON value of the complete document. -/
def completeBody (version : Nat) (context : PlanningContext) (requests : List Value)
    (prerequisites : List Prerequisite) : Value :=
  fieldsObject
    [("schema_version", some (numberValue version)), ("context", some (contextBody context)),
      ("requests", some (.array requests)),
      ("prerequisites", some (.array (prerequisites.map entryBody)))]

theorem schemaVersion_lt (artifact : RenderedArtifact) : schemaVersion artifact < 2 ^ 64 := by
  rw [schemaVersion]
  split
  · decide
  · split <;> decide

/-- The complete text spells its document, up to the line feed at its end. -/
theorem spells_complete {artifact : RenderedArtifact} {native : NativeRenderState}
    (hnative : artifact.native = some native) {requests : List Value}
    (hrequests : List.Forall₂ Spells requests native.requests)
    {prerequisites : List Prerequisite}
    (hlists : Lists artifact.networkPrerequisites artifact.volumePrerequisites
      artifact.bindSourcePrerequisites native.prerequisiteOrder prerequisites)
    (hutf8 : ∀ prerequisite ∈ prerequisites, ∀ text ∈ prerequisite.texts, isUtf8 text.2 = true) :
    ∃ text, completeText artifact = .ok (text ++ ['\n']) ∧
      Spells (completeBody (schemaVersion artifact) native.context requests prerequisites)
        text := by
  obtain ⟨context, hcontext, hspells⟩ := spells_context native.context
  have hlines : List.Forall₂ (fun value text => Writes (Spells value) (.ok text)) requests
      native.requests := hrequests.imp fun _ _ h => writes_ok h
  obtain ⟨lines, hlinesOk, hlinesSpells⟩ := spells_brackets hlines
  have hentries : List.Forall₂ (fun value index =>
      Writes (Spells value) (appendPrerequisite artifact index)) (prerequisites.map entryBody)
      native.prerequisiteOrder := by
    rw [List.forall₂_map_left_iff]
    exact ((List.forall₂_and_left _ _).mpr ⟨hutf8, hlists.ordered⟩).imp fun _ _ hentry =>
      spells_entry hentry.2 hentry.1
  obtain ⟨entries, hentriesOk, hentriesSpells⟩ := spells_brackets hentries
  have hkeys : PlainKey "schema_version" ∧ PlainKey "context" ∧ PlainKey "requests" ∧
      PlainKey "prerequisites" ∧
      "\x7b\"schema_version\":".toList = '\x7b' :: (keyText "schema_version" ++ [':']) ∧
      ",\"context\":".toList = ',' :: (keyText "context" ++ [':']) ∧
      ",\"requests\":[".toList = ',' :: (keyText "requests" ++ [':', '[']) ∧
      "],\"prerequisites\":[".toList = ']' :: ',' :: (keyText "prerequisites" ++ [':', '[']) ∧
      "]\x7d\n".toList = [']', '\x7d', '\n'] := by decide
  obtain ⟨hversion, hcontextKey, hrequestsKey, hentriesKey, hopening, hmiddle, hbefore, hafter,
    hclosing⟩ := hkeys
  have hpushes := pushes_cons (@rfl _ (push "\x7b\"schema_version\":"))
    (pushes_cons (@rfl _ (Except.ok (decimal (schemaVersion artifact))))
      (pushes_cons (@rfl _ (push ",\"context\":")) (pushes_cons hcontext
        (pushes_cons (@rfl _ (push ",\"requests\":[")) (pushes_cons hlinesOk
          (pushes_cons (@rfl _ (push "],\"prerequisites\":[")) (pushes_cons hentriesOk
            (pushes_cons (@rfl _ (push "]\x7d\n")) (pushes_eq_ok .nil)))))))))
  have hall := (((Members.singleton (quotes_keyText hversion)
    (spells_posInt (schemaVersion_lt artifact))).append
    (Members.singleton (quotes_keyText hcontextKey) hspells)).append
    (Members.singleton (quotes_keyText hrequestsKey) hlinesSpells)).append
    (Members.singleton (quotes_keyText hentriesKey) hentriesSpells)
  have hobject := hall.spells (by simp) (@rfl _ (([] : List Char).all isSpace))
  refine ⟨_, ?_, by simpa [completeBody, fieldsObject, present, numberValue] using hobject⟩
  rw [completeText, hnative]
  simp only
  rw [hpushes, hopening, hmiddle, hbefore, hafter, hclosing]
  simp [decimal]

end Complete

section Authored

/-- What an entry of the document shows of its obligation. -/
structure Shows (prerequisite : Prerequisite) (entry : Value) : Prop where
  reference : entry.get "reference" =
    some (.string (String.ofList (Nat.toDigits 10 prerequisite.reference.localIndex)))
  texts : ∀ text ∈ prerequisite.texts,
    ∃ content, entry.get text.1 = some (.string content) ∧ asBytes content = text.2
  expectedInternal : entry.get "expected_internal" = prerequisite.expectedInternal.map .bool

theorem get_entryBody (prerequisite : Prerequisite) (key : String) :
    (entryBody prerequisite).get key = ((entryFields prerequisite).lookup key).join := by
  rw [entryBody, fieldsObject, Value.get_object, lookup_present (keys_entryFields prerequisite)]

theorem shows_entry {prerequisite : Prerequisite}
    (hutf8 : ∀ text ∈ prerequisite.texts, isUtf8 text.2 = true) :
    Shows prerequisite (entryBody prerequisite) where
  reference := by
    rw [get_entryBody]
    cases prerequisite <;> rfl
  texts := by
    intro text htext
    refine ⟨decoded text.2, ?_, asBytes_decoded (hutf8 text htext)⟩
    rw [get_entryBody]
    cases prerequisite with
    | network network =>
        rw [List.mem_singleton.mp htext]
        rfl
    | volume volume =>
        rw [List.mem_singleton.mp htext]
        rfl
    | bindSource bind =>
        simp only [Prerequisite.texts, List.mem_cons, List.not_mem_nil, or_false] at htext
        rcases htext with rfl | rfl | rfl <;> rfl
  expectedInternal := by
    rw [get_entryBody]
    cases prerequisite with
    | network network => simp [entryFields, networkFields, List.lookup_cons,
        Prerequisite.expectedInternal]
    | volume _ | bindSource _ => rfl

theorem utf8_of_resource {resource : TargetResource} {prerequisite : Prerequisite}
    (h : prerequisite.Of resource) : ∀ text ∈ prerequisite.texts, isUtf8 text.2 = true := by
  intro text htext
  cases prerequisite with
  | network network =>
      obtain ⟨authored, -, -, hidentity, -⟩ := h
      rw [List.mem_singleton.mp htext, ← hidentity]
      exact isUtf8_of_identity authored.identity.checked
  | volume volume =>
      obtain ⟨identity, -, hidentity⟩ := h
      rw [List.mem_singleton.mp htext, ← hidentity]
      exact isUtf8_of_identity identity.checked
  | bindSource bind =>
      obtain ⟨container, mount, -, -, hidentity, -, hsource, htarget, -, -⟩ := h
      have hmount := isUtf8_of_mount mount
      simp only [Prerequisite.texts, List.mem_cons, List.not_mem_nil, or_false] at htext
      rcases htext with rfl | rfl | rfl
      · rw [← hidentity]
        exact isUtf8_of_identity container.identity.checked
      · exact hmount.2 _ hsource
      · rw [← htarget]
        exact hmount.1

theorem of_obligations {resource : TargetResource} {prerequisite : Prerequisite}
    (h : prerequisite ∈ obligations resource) : prerequisite.Of resource := by
  cases resource with
  | container container =>
      obtain ⟨entry, hentry, hobligation⟩ := List.mem_filterMap.mp h
      rw [obligation] at hobligation
      split at hobligation
      · next source relabel hsource hrelabel =>
          cases hobligation
          exact ⟨container, entry.1, rfl, rfl, rfl, List.mem_zipIdx_iff_getElem?.mp hentry,
            hsource, rfl, rfl, hrelabel⟩
      · cases hobligation
  | network _ | volume _ _ _ | externalVolume _ _ => cases h

theorem of_requirement {resource : TargetResource} {prerequisite : Prerequisite}
    (h : requirement resource = some prerequisite) : prerequisite.Of resource := by
  cases resource with
  | network network =>
      rw [requirement] at h
      split at h
      · next hsource =>
          cases h
          exact ⟨network, rfl, rfl, rfl, hsource⟩
      · cases h
  | externalVolume reference identity =>
      cases h
      exact ⟨identity, rfl, rfl⟩
  | volume _ _ _ | container _ => cases h

theorem exists_resource_of_prerequisite {resources : List TargetResource}
    {nodes : List OperationNode} {prerequisite : Prerequisite}
    (h : prerequisite ∈ nodes.flatMap (nodePrerequisites resources)) :
    ∃ resource ∈ resources, prerequisite.Of resource := by
  obtain ⟨node, -, h⟩ := List.mem_flatMap.mp h
  obtain ⟨step, -, h⟩ := List.mem_flatMap.mp h
  rw [stepPrerequisites] at h
  split at h
  · next hfound => exact ⟨_, List.mem_of_find?_eq_some hfound, of_obligations h⟩
  · next hfound =>
      exact ⟨_, List.mem_of_find?_eq_some hfound, of_requirement (by simpa using h)⟩
  · cases h

end Authored

/-- The schema version of a document with these obligations. -/
def schemaOf (prerequisites : List Prerequisite) : Nat :=
  if prerequisites.any (·.expectedInternal.isSome) then 3
  else if prerequisites.any (·.bindSource?.isSome) then 2
  else 1

/-- What the complete document of an artifact holds: the values of the lines, and the entries of
the obligations that the artifact lists. -/
structure Complete (artifact : RenderedArtifact) (lines : List Bytes)
    (prerequisites : List Prerequisite) (document : Value) : Prop where
  requests : ∃ values, List.Forall₂ Document lines values ∧
    document.get "requests" = some (.array values)
  networks : artifact.networkPrerequisites = prerequisites.filterMap Prerequisite.network?
  volumes : artifact.volumePrerequisites = prerequisites.filterMap Prerequisite.volume?
  bindSources : artifact.bindSourcePrerequisites =
    prerequisites.filterMap Prerequisite.bindSource?
  entries : ∃ entries, List.Forall₂ Shows prerequisites entries ∧
    document.get "prerequisites" = some (.array entries)
  schema : document.get "schema_version" = some (numberValue (schemaOf prerequisites))

theorem isEmpty_filterMap {α β : Type} (f : α → Option β) (values : List α) :
    (values.filterMap f).isEmpty = !values.any fun a => (f a).isSome := by
  induction values with
  | nil => rfl
  | cons a values ih => cases h : f a <;> simp [h, ih]

theorem schemaVersion_eq {artifact : RenderedArtifact} {prerequisites : List Prerequisite}
    (hnetworks : artifact.networkPrerequisites = prerequisites.filterMap Prerequisite.network?)
    (hbindSources : artifact.bindSourcePrerequisites =
      prerequisites.filterMap Prerequisite.bindSource?) :
    schemaVersion artifact = schemaOf prerequisites := by
  have hexpected : artifact.networkPrerequisites.any (·.expectedInternal.isSome) =
      prerequisites.any (·.expectedInternal.isSome) := by
    rw [hnetworks, List.any_filterMap]
    congr 1
    funext prerequisite
    cases prerequisite <;> rfl
  have hbind : artifact.bindSourcePrerequisites.isEmpty =
      !prerequisites.any (·.bindSource?.isSome) := by
    rw [hbindSources, isEmpty_filterMap]
  rw [schemaVersion, schemaOf, hexpected, hbind]
  cases prerequisites.any (·.bindSource?.isSome) <;> rfl

/-- The bytes of the lines of an artifact. -/
def lineBytes (native : NativeRenderState) : List Bytes :=
  native.requests.map fun request => asBytes (String.ofList request)

theorem asBytes_lines (texts : List Chars) :
    asBytes (String.ofList (texts.flatMap (· ++ ['\n']))) =
      (texts.map fun text => asBytes (String.ofList text)).flatMap (· ++ [10]) := by
  induction texts with
  | nil => rfl
  | cons text texts ih =>
      rw [List.flatMap_cons, List.map_cons, List.flatMap_cons, String.ofList_append,
        String.ofList_append, asBytes_append, asBytes_append, ih]
      rfl

theorem Renders.lines {graph : OperationGraph} {order : List OperationNode}
    {artifact : RenderedArtifact} {native : NativeRenderState}
    (h : Renders graph order artifact native) : Lines 10 artifact.bytes (lineBytes native) := by
  rw [h.bytes, asBytes_lines]
  apply lines_of_plain
  intro line hline
  obtain ⟨text, htext, rfl⟩ := List.mem_map.mp hline
  obtain ⟨request, -, hrequest⟩ := exists_of_forall₂_right h.requests htext
  exact fun hmem => hrequest.oneLine (@mem_of_asBytes '\n' (by decide) text hmem)

/-- The format of an artifact: its bytes are the lines of its requests, and its complete document
lists these requests and the obligations of the graph, in the order of their emission. -/
theorem complete_document {hash : HashOrder ResourceRef} {intent : TargetIntent}
    {capabilities : PlanningCapabilitySet} {nodes : List OperationNode} {graph : OperationGraph}
    (h : OperationGraph.new hash intent capabilities nodes = .ok graph) :
    ∃ order artifact native complete document, Renders graph order artifact native ∧
      Lines 10 artifact.bytes (lineBytes native) ∧
      completeBytes artifact = .ok complete ∧ Document complete document ∧
      Complete artifact (lineBytes native)
        (order.flatMap (nodePrerequisites graph.intent.resources)) document ∧
      ∀ prerequisite ∈ order.flatMap (nodePrerequisites graph.intent.resources),
        ∃ resource ∈ graph.intent.resources, prerequisite.Of resource := by
  obtain ⟨order, artifact, native, hrenders⟩ := exists_renders h
  have hauthored : ∀ prerequisite ∈ order.flatMap (nodePrerequisites graph.intent.resources),
      ∃ resource ∈ graph.intent.resources, prerequisite.Of resource :=
    fun _ => exists_resource_of_prerequisite
  have hutf8 : ∀ prerequisite ∈ order.flatMap (nodePrerequisites graph.intent.resources),
      ∀ text ∈ prerequisite.texts, isUtf8 text.2 = true := by
    intro prerequisite hprerequisite
    obtain ⟨resource, -, hof⟩ := hauthored prerequisite hprerequisite
    exact utf8_of_resource hof
  have hunique : ∀ request ∈ order.flatMap
      (nodeRequests (apiPath graph.context.api) graph.intent.resources),
      UniqueKeys (requestValue request) := fun _ => uniqueKeys_request
  have hspells : List.Forall₂ Spells ((order.flatMap
      (nodeRequests (apiPath graph.context.api) graph.intent.resources)).map requestValue)
      native.requests := by
    rw [List.forall₂_map_left_iff]
    exact hrenders.requests.imp fun _ _ hline => hline.spells
  have hschema := schemaVersion_eq hrenders.lists.networks_eq hrenders.lists.bindSources_eq
  obtain ⟨text, htext, hcomplete⟩ :=
    spells_complete hrenders.provenance hspells hrenders.lists hutf8
  refine ⟨order, artifact, native, asBytes (String.ofList (text ++ ['\n'])), _, hrenders,
    hrenders.lines, ?_, document_of_spells hcomplete (by decide) ?_, ?_, hauthored⟩
  · rw [completeBytes, htext]
    rfl
  · refine uniqueKeys_of_members (show ["schema_version", "context", "requests",
      "prerequisites"].Nodup by decide) ?_
    exact ⟨uniqueMember_some (uniqueKeys_number _), uniqueMember_some (uniqueKeys_context _),
      uniqueMember_some (uniqueKeys_array hunique),
      uniqueMember_some (uniqueKeys_array fun prerequisite _ => uniqueKeys_entry prerequisite)⟩
  · refine ⟨⟨_, ?_, rfl⟩, hrenders.lists.networks_eq, hrenders.lists.volumes_eq,
      hrenders.lists.bindSources_eq, ⟨_, ?_, rfl⟩, ?_⟩
    · rw [lineBytes, List.forall₂_map_left_iff, List.forall₂_map_right_iff]
      apply List.Forall₂.flip
      refine ((List.forall₂_and_left _ _).mpr ⟨hunique, hrenders.requests⟩).imp ?_
      intro request line hline
      have hdocument := @document_of_spells _ _ [] hline.2.spells rfl hline.1
      rwa [List.append_nil] at hdocument
    · rw [List.forall₂_map_right_iff, List.forall₂_same]
      exact fun prerequisite hprerequisite => shows_entry (hutf8 prerequisite hprerequisite)
    · rw [← hschema]
      rfl

theorem complete_document_web :
    ∃ graph, OperationGraph.new ⟨id, fun _ => .refl _⟩ webIntent anyCapability
        (webIntent.resources.map planNode) = .ok graph ∧
      ∃ artifact native complete document, render graph = .ok artifact ∧
        Lines 10 artifact.bytes (lineBytes native) ∧ completeBytes artifact = .ok complete ∧
        Document complete document := by
  obtain ⟨graph, hgraph⟩ := exists_of_isOk (show (OperationGraph.new ⟨id, fun _ => .refl _⟩
    webIntent anyCapability (webIntent.resources.map planNode)).isOk = true by decide +kernel)
  obtain ⟨order, artifact, native, complete, document, hrenders, hlines, hcomplete, hdocument,
    -⟩ := complete_document hgraph
  exact ⟨graph, hgraph, artifact, native, complete, document, hrenders.rendered, hlines,
    hcomplete, hdocument⟩

end DockerLens.Render
