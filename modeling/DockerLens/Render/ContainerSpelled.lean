import DockerLens.Render.ContainerBody
import DockerLens.Target.Accepted

namespace DockerLens.Render

open DockerLens.Text
open DockerLens.Json
open DockerLens.Fold
open DockerLens.Observation
open DockerLens.Target

/-- What the renderer relies on of a container: its references are resolved, and its
limits fit the casts. -/
structure Renderable (resources : List TargetResource) (container : ContainerIntent) : Prop where
  volumes : ∀ mount ∈ container.mounts, ∀ reference, mount.source = .volume reference →
    (volumeName resources reference).isSome = true
  networks : ∀ attachment ∈ container.networks,
    (networkName resources attachment.network).isSome = true
  limits : boundedLimits container.settings = true
  ulimits : ∀ limit ∈ container.settings.ulimits,
    validUlimitValue limit.soft = true ∧ validUlimitValue limit.hard = true

theorem spells_jsonText (text : String) :
    Writes (Spells (.string text)) (jsonString (asBytes text)) := by
  have h := spells_jsonString (isUtf8_asBytes text)
  rwa [stringValue, decoded_asBytes] at h

section Lists

variable {α : Type} {render : α → Rendered Chars}

theorem spells_brackets {elements : List Value} {values : List α}
    (h : List.Forall₂ (fun element a => Writes (Spells element) (render a)) elements values) :
    Writes (fun text => Spells (.array elements) ('[' :: text ++ [']']))
      (separated render values) := by
  by_cases hempty : values = []
  · subst hempty
    cases h
    exact ⟨[], rfl, spells_array_nil⟩
  · obtain ⟨text, htext, helements⟩ := writesElements_forall₂ h hempty
    refine ⟨text, htext, helements.spells ?_⟩
    rintro rfl
    cases h
    exact hempty rfl

theorem spells_braces {member : α → String × Value} {values : List α}
    (h : ∀ a ∈ values, WritesMembers [member a] (render a)) :
    Writes (fun text => Spells (.object (values.map member)) ('\x7b' :: text ++ ['\x7d']))
      (separated render values) := by
  by_cases hempty : values = []
  · subst hempty
    exact ⟨[], rfl, spells_object_nil⟩
  · obtain ⟨text, htext, hmembers⟩ := writesMembers_separated hempty h
    exact ⟨text, htext,
      hmembers.spells (by simpa using hempty) (@rfl _ (([] : List Char).all isSpace))⟩

theorem writesFields_brackets {opening closing key : String} {value : α → Value}
    {values : List α}
    (hopening : PlainKey key ∧ opening.toList = ',' :: (keyText key ++ [':', '[']))
    (hclosing : closing.toList = [']'])
    (h : ∀ a ∈ values, Writes (Spells (value a)) (render a)) :
    WritesFields [(key, some (.array (values.map value)))]
      (pushes [push opening, separated render values, push closing]) := by
  obtain ⟨text, htext, hspells⟩ := spells_brackets (forall₂_spells h)
  refine ⟨_, pushes_cons (@rfl _ (push opening)) (pushes_cons htext
    (pushes_cons (@rfl _ (push closing)) (pushes_eq_ok .nil))), ?_⟩
  rw [hopening.2, hclosing]
  simpa [present] using Members.singleton (quotes_keyText hopening.1) hspells

theorem writesFields_number {text key : String} {value : Option Nat}
    (hkey : PlainKey key ∧ text.toList = ',' :: (keyText key ++ [':']))
    (hvalue : ∀ number, value = some number → number < 2 ^ 64) :
    WritesFields [(key, value.map numberValue)] (pushNumber text value) :=
  writesFields_some fun number hnumber =>
    writesFields_keyed hkey (spells_decimal (hvalue number hnumber))

theorem writesFields_string {text key : String} {value : Option Bytes}
    (hkey : PlainKey key ∧ text.toList = ',' :: (keyText key ++ [':']))
    (hvalue : ∀ bytes, value = some bytes → isUtf8 bytes = true) :
    WritesFields [(key, value.map stringValue)] (pushString text value) :=
  writesFields_some fun bytes hbytes =>
    writesFields_keyed hkey (spells_jsonString (hvalue bytes hbytes))

end Lists

section Config

theorem isUtf8_of_argument (argument : Argument) : isUtf8 argument.bytes = true :=
  isUtf8_of_validText argument.checked

theorem writes_command {key : String} {command : ImageCommand}
    (hopening : PlainKey key ∧
      (",\"" ++ key ++ "\":[").toList = ',' :: (keyText key ++ [':', '[']))
    (hclear : (",\"" ++ key ++ "\":[]").toList = ',' :: (keyText key ++ [':', '[', ']'])) :
    WritesFields [(key, commandBody command)] (renderImageCommand key command) := by
  cases command with
  | inherit => exact ⟨[], rfl, .nil⟩
  | clear => exact writesFields_push ⟨hopening.1, hclear⟩ spells_array_nil
  | exec arguments =>
      rw [commandBody, textsValue, List.map_map]
      exact writesFields_brackets hopening (by decide) fun argument _ =>
        spells_jsonString (isUtf8_of_argument argument)

theorem elements_healthTest {health : Healthcheck} :
    WritesElements (healthTestBody health.test) (renderHealthTest health.test) := by
  have hvalid := health.valid
  rw [validHealthcheck] at hvalid
  simp only [Bool.and_eq_true] at hvalid
  have htest := hvalid.1.1.1.1.1
  cases hcase : health.test with
  | exec arguments =>
      rw [hcase] at htest
      have hne : arguments ≠ [] := by
        rintro rfl
        cases htest
      obtain ⟨text, htext, helements⟩ := writesElements_separated hne fun argument _ =>
        spells_jsonString (isUtf8_of_argument argument)
      have hopening : "\"CMD\",".toList = keyText "CMD" ++ [','] := by decide
      refine ⟨_, pushes_cons (@rfl _ (push "\"CMD\",")) (pushes_cons htext (pushes_eq_ok .nil)), ?_⟩
      rw [hopening]
      have hall := Elements.cons (quotes_keyText (by decide : PlainKey "CMD")).spells helements
      simpa [healthTestBody] using hall
  | shell command =>
      obtain ⟨text, htext, hspells⟩ := spells_jsonString (isUtf8_of_argument command)
      have hopening : "\"CMD-SHELL\",".toList = keyText "CMD-SHELL" ++ [','] := by decide
      refine ⟨_, pushes_cons (@rfl _ (push "\"CMD-SHELL\","))
        (pushes_cons htext (pushes_eq_ok .nil)), ?_⟩
      rw [hopening]
      have hall := Elements.cons (quotes_keyText (by decide : PlainKey "CMD-SHELL")).spells
        (Elements.cons hspells .nil)
      simpa [healthTestBody] using hall
  | disabled =>
      have hspelling : "\"NONE\"".toList = keyText "NONE" := by decide
      refine ⟨_, rfl, ?_⟩
      rw [hspelling]
      simpa [healthTestBody] using
        Elements.cons (quotes_keyText (by decide : PlainKey "NONE")).spells .nil

theorem healthTestBody_ne_nil (test : HealthTest) : healthTestBody test ≠ [] := by
  cases test <;> simp [healthTestBody]

theorem nonZero_lt {bits bound : Nat} (hbits : bits ≤ bound) {value : Option (NonZero bits)}
    {number : Nat} (h : value.map NonZero.get = some number) : number < 2 ^ bound := by
  obtain ⟨found, -, rfl⟩ := Option.map_eq_some_iff.mp h
  exact Nat.lt_of_lt_of_le found.lt (Nat.pow_le_pow_right (by decide) hbits)

theorem uint64_lt {value : Option UInt64} {number : Nat}
    (h : value.map UInt64.toNat = some number) : number < 2 ^ 64 := by
  obtain ⟨found, -, rfl⟩ := Option.map_eq_some_iff.mp h
  exact found.toNat_lt

theorem uint32_lt {value : Option UInt32} {number : Nat}
    (h : value.map UInt32.toNat = some number) : number < 2 ^ 64 := by
  obtain ⟨found, -, rfl⟩ := Option.map_eq_some_iff.mp h
  exact Nat.lt_trans found.toNat_lt (by decide)

/-- The members of a health check after its test. -/
def timingFields (health : Healthcheck) : List (String × Option Value) :=
  [("Interval", (health.intervalNs.map NonZero.get).map numberValue),
    ("Timeout", (health.timeoutNs.map NonZero.get).map numberValue),
    ("Retries", (health.retries.map NonZero.get).map numberValue),
    ("StartPeriod", (health.startPeriodNs.map UInt64.toNat).map numberValue),
    ("StartInterval", (health.startIntervalNs.map UInt64.toNat).map numberValue)]

theorem parts_timings (health : Healthcheck) :
    Parts " \x7d".toList
      [pushNumber ",\"Interval\":" (health.intervalNs.map NonZero.get),
        pushNumber ",\"Timeout\":" (health.timeoutNs.map NonZero.get),
        pushNumber ",\"Retries\":" (health.retries.map NonZero.get),
        pushNumber ",\"StartPeriod\":" (health.startPeriodNs.map UInt64.toNat),
        pushNumber ",\"StartInterval\":" (health.startIntervalNs.map UInt64.toNat),
        push " \x7d"]
      (timingFields health) := by
  apply Parts.fields (writesFields_number (by decide) fun _ => nonZero_lt (by decide))
  apply Parts.fields (writesFields_number (by decide) fun _ => nonZero_lt (by decide))
  apply Parts.fields (writesFields_number (by decide) fun _ => nonZero_lt (by decide))
  apply Parts.fields (writesFields_number (by decide) fun _ => uint64_lt)
  apply Parts.fields (writesFields_number (by decide) fun _ => uint64_lt)
  exact .close rfl

theorem writes_health (health : Healthcheck) :
    WritesFields [("Healthcheck", some (healthBody health))] (renderHealthcheck health) := by
  obtain ⟨test, htest, helements⟩ := @elements_healthTest health
  obtain ⟨timings, htimings, hmembers⟩ := (parts_timings health).writes
  have hhealth : PlainKey "Healthcheck" ∧ PlainKey "Test" ∧
      ",\"Healthcheck\":\x7b\"Test\":[".toList =
        ',' :: (keyText "Healthcheck" ++ ':' :: '\x7b' :: (keyText "Test" ++ [':', '['])) := by
    decide
  have hpad : " \x7d".toList = [' '] ++ ['\x7d'] := by decide
  refine ⟨_, pushes_cons (@rfl _ (push ",\"Healthcheck\":\x7b\"Test\":["))
    (pushes_cons htest (pushes_cons (@rfl _ (push "]")) htimings)), ?_⟩
  have htestMember := Members.singleton (quotes_keyText hhealth.2.1)
    (helements.spells (healthTestBody_ne_nil _))
  have hobject := (htestMember.append hmembers).spells (by simp)
    (by decide : ([' '] : List Char).all isSpace = true)
  have hmember := Members.singleton (quotes_keyText hhealth.1) hobject
  rw [hhealth.2.2, hpad]
  simpa [present, healthBody, fieldsObject, timingFields] using hmember

theorem writes_label (label : ContainerLabel) :
    WritesMembers [labelEntry label] (renderContainerLabel label) :=
  writesMembers_pair (isUtf8_of_label label.checked).1 (isUtf8_of_label label.checked).2

theorem isUtf8_of_assignmentText (assignment : EnvironmentAssignment) :
    isUtf8 (assignmentText assignment) = true := by
  obtain ⟨hkey, hvalue⟩ := isUtf8_of_assignment assignment.checked
  have hequals : isUtf8 [61] = true := isUtf8_of_ascii (by decide +kernel)
  rw [assignmentText, ← List.singleton_append, ← List.append_assoc]
  exact isUtf8_append (isUtf8_append hkey hequals) hvalue

theorem isUtf8_portKey (port : PortPublication) : isUtf8 (portKey port) = true :=
  isUtf8_asBytes _

theorem writes_exposedPort (port : PortPublication) :
    WritesMembers [exposedEntry port] (renderExposedPort port) := by
  obtain ⟨name, hname, hquotes⟩ := writes_jsonString (isUtf8_portKey port)
  have hbraces : ":\x7b\x7d".toList = ':' :: ['\x7b', '\x7d'] := by decide
  refine ⟨_, pushes_cons hname (pushes_cons (@rfl _ (push ":\x7b\x7d")) (pushes_eq_ok .nil)), ?_⟩
  rw [hbraces]
  simpa [exposedEntry] using Members.singleton hquotes spells_object_nil

theorem isUtf8_checked {valid : Bytes → Bool} (hvalid : ∀ bytes, valid bytes = true →
    isUtf8 bytes = true) {value : Option (Checked valid)} {bytes : Bytes}
    (h : value.map Checked.bytes = some bytes) : isUtf8 bytes = true := by
  obtain ⟨found, -, rfl⟩ := Option.map_eq_some_iff.mp h
  exact hvalid _ found.checked

theorem writes_config (container : ContainerIntent) :
    WritesFields (configFields container) (renderConfig container) := by
  apply writesFields_append (writesFields_list (by decide) (by decide) fun assignment _ =>
    spells_jsonString (isUtf8_of_assignmentText assignment))
  apply writesFields_append (writes_command (by decide) (by decide))
  apply writesFields_append (writes_command (by decide) (by decide))
  apply writesFields_append (writesFields_some fun health _ => writes_health health)
  apply writesFields_append (writesFields_map (by decide) (by decide) fun label _ =>
    writes_label label)
  apply writesFields_append (writesFields_string (by decide) fun _ =>
    isUtf8_checked fun _ => isUtf8_of_containerUser)
  apply writesFields_append (writesFields_string (by decide) fun _ =>
    isUtf8_checked fun _ => isUtf8_of_absolutePath)
  apply writesFields_append (writesFields_string (by decide) fun _ =>
    isUtf8_checked fun _ => isUtf8_of_hostname)
  apply writesFields_append (writesFields_string (by decide) fun _ =>
    isUtf8_checked fun _ => isUtf8_of_validText)
  apply writesFields_append (writesFields_number (by decide) fun _ => uint32_lt)
  apply writesFields_append (writesFields_map (by decide) (by decide) fun port _ =>
    writes_exposedPort port)
  exact writesFields_pushes_nil

end Config

section HostConfig

/-- A rendered member of the host configuration, or its absence. -/
inductive HostMember : Option (Rendered Chars) → String × Option Value → Prop
  | absent (key : String) : HostMember none (key, none)
  | member {rendered : Rendered Chars} {key : String} {value : Value}
      (h : WritesMembers [(key, value)] rendered) :
      HostMember (some rendered) (key, some value)

theorem hostField_inner {body : HostBody} {fields : List (String × Option Value)}
    (htext : Inner fields body.text) (hhas : body.hasField = true ↔ present fields ≠ [])
    {rendered : Option (Rendered Chars)} {field : String × Option Value}
    (h : HostMember rendered field) :
    ∃ next, hostField body rendered = .ok next ∧ Inner (fields ++ [field]) next.text ∧
      (next.hasField = true ↔ present (fields ++ [field]) ≠ []) := by
  cases h with
  | absent key =>
      refine ⟨body, rfl, htext.absent key, ?_⟩
      simpa [present] using hhas
  | @member rendered key value h =>
      obtain ⟨spelling, hspelling, hmember⟩ := h
      refine ⟨⟨body.text ++ (if body.hasField then [','] else []) ++ spelling, true⟩, ?_,
        htext.member hhas hmember, ?_⟩
      · rw [hostField, hspelling]
        rfl
      · simp [present]

theorem hostFields_inner {rendered : List (Option (Rendered Chars))}
    {fields : List (String × Option Value)} (h : List.Forall₂ HostMember rendered fields) :
    ∃ body, rendered.foldlM hostField ⟨[], false⟩ = .ok body ∧ Inner fields body.text := by
  have hfrom : ∀ (before : List (String × Option Value)) (body : HostBody),
      Inner before body.text → (body.hasField = true ↔ present before ≠ []) →
      ∃ final, rendered.foldlM hostField body = .ok final ∧
        Inner (before ++ fields) final.text := by
    induction h with
    | nil => exact fun before body htext _ => ⟨body, rfl, by simpa using htext⟩
    | cons hhead _ ih =>
        intro before body htext hhas
        obtain ⟨next, hnext, hinner, hfield⟩ := hostField_inner htext hhas hhead
        obtain ⟨final, hfinal, hall⟩ := ih _ next hinner hfield
        refine ⟨final, ?_, by simpa using hall⟩
        rw [List.foldlM_cons, hnext, ok_bind, hfinal]
  exact hfrom [] ⟨[], false⟩ inner_nil (by simp [present])

variable {α : Type}

theorem hostMember_map {key : String} {value : α → Value} {render : α → Rendered Chars}
    {found : Option α} (h : ∀ a, found = some a → WritesMembers [(key, value a)] (render a)) :
    HostMember (found.map render) (key, found.map value) := by
  cases found with
  | none => exact .absent key
  | some a => exact .member (h a rfl)

theorem hostMember_list {opening closing key : String} {value : α → Value}
    {render : α → Rendered Chars} {values : List α}
    (hopening : PlainKey key ∧ opening.toList = keyText key ++ [':', '['])
    (hclosing : closing.toList = [']'])
    (h : ∀ a ∈ values, Writes (Spells (value a)) (render a)) :
    HostMember (hostList opening closing render values) (key, listField value values) := by
  rw [hostList, listField]
  cases values with
  | nil => exact .absent key
  | cons first rest =>
      exact .member (writesMembers_array hopening hclosing (by simp)
        (writesElements_separated (by simp) h))

theorem hostMember_texts {key : String} {text : α → Bytes} {values : List α}
    (hopening : PlainKey key ∧ ("\"" ++ key ++ "\":[").toList = keyText key ++ [':', '['])
    (h : ∀ a ∈ values, isUtf8 (text a) = true) :
    HostMember (hostStrings key text values) (key, textsField text values) :=
  hostMember_list hopening (by decide) fun a ha => spells_jsonString (h a ha)

theorem hostMember_mapping {opening closing key : String} {entry : α → String × Value}
    {render : α → Rendered Chars} {values : List α}
    (hopening : PlainKey key ∧ opening.toList = keyText key ++ [':', '\x7b'])
    (hclosing : closing.toList = ['\x7d'])
    (h : ∀ a ∈ values, WritesMembers [entry a] (render a)) :
    HostMember (hostList opening closing render values) (key, mapField entry values) := by
  rw [hostList, mapField]
  cases values with
  | nil => exact .absent key
  | cons first rest =>
      exact .member (writesMembers_object hopening hclosing (by simp)
        (writesMembers_separated (by simp) h))

end HostConfig

section Members

theorem spells_hostBinding (binding : HostBinding) :
    Writes (Spells (hostBindingBody binding)) (renderHostBinding binding) := by
  have hport : isUtf8 (hostPortText binding.hostPort) = true := by
    cases binding.hostPort with
    | fixed port => exact isUtf8_asBytes _
    | ephemeral => exact isUtf8_asBytes ""
  obtain ⟨port, hok, hspells⟩ := spells_jsonString hport
  have hkey : PlainKey "HostPort" ∧ "\"HostPort\":".toList = keyText "HostPort" ++ [':'] := by
    decide
  have hlast := Members.singleton (quotes_keyText hkey.1) hspells
  rw [renderHostBinding, hostBindingBody]
  cases binding.hostIp with
  | unspecified =>
      refine ⟨_, pushes_cons rfl (pushes_cons (@rfl _ (renderHostIp .unspecified))
        (pushes_cons rfl (pushes_cons hok (pushes_cons rfl (pushes_eq_ok .nil))))), ?_⟩
      have hobject := hlast.spells (by simp) (@rfl _ (([] : List Char).all isSpace))
      rw [hkey.2]
      simpa [fieldsObject, present, hostIpBody] using hobject
  | address address =>
      obtain ⟨text, haddress, hspelled⟩ := spells_jsonString (isUtf8_asBytes address.text)
      have hip : PlainKey "HostIp" ∧ "\"HostIp\":".toList = keyText "HostIp" ++ [':'] := by
        decide
      have hpushed := pushes_cons (@rfl _ (push "\"HostIp\":")) (pushes_cons haddress
        (pushes_cons (@rfl _ (push ",")) (pushes_eq_ok .nil)))
      refine ⟨_, pushes_cons rfl (pushes_cons hpushed (pushes_cons rfl
        (pushes_cons hok (pushes_cons rfl (pushes_eq_ok .nil))))), ?_⟩
      have hobject := ((Members.singleton (quotes_keyText hip.1) hspelled).append hlast).spells
        (by simp) (@rfl _ (([] : List Char).all isSpace))
      rw [hkey.2, hip.2]
      simpa [fieldsObject, present, hostIpBody] using hobject

theorem writes_portBindings {port : PortPublication} :
    WritesMembers [portEntry port] (renderPortBindings port) := by
  obtain ⟨name, hname, hquotes⟩ := writes_jsonString (isUtf8_portKey port)
  obtain ⟨text, htext, hspells⟩ :=
    spells_brackets (forall₂_spells fun binding (_ : binding ∈ port.bindings) =>
      spells_hostBinding binding)
  refine ⟨_, pushes_cons hname (pushes_cons (@rfl _ (push ":[")) (pushes_cons htext
    (pushes_cons (@rfl _ (push "]")) (pushes_eq_ok .nil)))), ?_⟩
  simpa [portEntry] using Members.singleton hquotes hspells

theorem isUtf8_of_mount (mount : Mount) :
    isUtf8 mount.target = true ∧ ∀ source, mount.source = .bind source → isUtf8 source = true := by
  have hvalid := mount.valid
  unfold validMount at hvalid
  rw [Bool.and_eq_true] at hvalid
  refine ⟨isUtf8_of_absolutePath hvalid.1, ?_⟩
  intro source hsource
  rw [hsource] at hvalid
  simp only [Bool.and_eq_true] at hvalid
  exact isUtf8_of_absolutePath hvalid.2.1

theorem bind_of_relabel {mount : Mount} {relabel : BindRelabel}
    (h : mount.bindRelabel = some relabel) : ∃ source, mount.source = .bind source := by
  have hvalid := mount.valid
  unfold validMount at hvalid
  rw [Bool.and_eq_true, h] at hvalid
  cases hsource : mount.source with
  | bind source => exact ⟨source, rfl⟩
  | volume reference => simp [hsource] at hvalid
  | tmpfs options => simp [hsource] at hvalid

theorem isUtf8_bindText {source : Bytes} {mount : Mount} {relabel : BindRelabel}
    (hsource : isUtf8 source = true) (htarget : isUtf8 mount.target = true) :
    isUtf8 (bindText source mount relabel) = true := by
  have hcolon : isUtf8 [58] = true := isUtf8_of_ascii (by decide +kernel)
  have hmode : isUtf8 (if mount.readOnly then asBytes ":ro," else asBytes ":rw,") = true := by
    split <;> exact isUtf8_asBytes _
  have hrelabel : isUtf8 (relabelByte relabel) = true := by
    cases relabel <;> exact isUtf8_asBytes _
  rw [bindText, ← List.singleton_append, ← List.append_assoc]
  exact isUtf8_append (isUtf8_append (isUtf8_append (isUtf8_append hsource hcolon) htarget) hmode)
    hrelabel

theorem spells_bind {mount : Mount} (h : mount.bindRelabel.isSome = true) :
    Writes (Spells (bindBody mount)) (renderBind mount) := by
  obtain ⟨relabel, hrelabel⟩ := Option.isSome_iff_exists.mp h
  obtain ⟨source, hsource⟩ := bind_of_relabel hrelabel
  obtain ⟨htarget, hutf8⟩ := isUtf8_of_mount mount
  rw [renderBind, bindBody, hsource, hrelabel]
  exact spells_jsonString (isUtf8_bindText (hutf8 source hsource) htarget)

theorem member_number {key text : String} {value : Nat}
    (hkey : PlainKey key ∧ text.toList = keyText key ++ [':']) (hvalue : value < 2 ^ 64) :
    Members [(key, numberValue value)] (',' :: (text.toList ++ decimal value)) := by
  rw [hkey.2]
  have hmember := Members.singleton (quotes_keyText hkey.1) (spells_posInt hvalue)
  simpa [numberValue, decimal] using hmember

theorem writes_tmpfs (options : TmpfsOptions) :
    WritesFields [("TmpfsOptions", fieldIf (options.sizeBytes.isSome || options.mode.isSome)
      (tmpfsBody options))] (renderTmpfsOptions options) := by
  have hopening : PlainKey "TmpfsOptions" ∧ ",\"TmpfsOptions\":\x7b".toList =
      ',' :: (keyText "TmpfsOptions" ++ [':', '\x7b']) := by
    decide
  have hsizeKey :
      PlainKey "SizeBytes" ∧ "\"SizeBytes\":".toList = keyText "SizeBytes" ++ [':'] := by
    decide
  have hmodeKey : PlainKey "Mode" ∧ "\"Mode\":".toList = keyText "Mode" ++ [':'] := by decide
  have hspace := @rfl _ (([] : List Char).all isSpace)
  rw [renderTmpfsOptions, tmpfsBody]
  cases hsize : options.sizeBytes with
  | none =>
      cases hmode : options.mode with
      | none => exact ⟨[], rfl, .nil⟩
      | some mode =>
          have hmember := member_number hmodeKey (uint32_lt (congrArg (Option.map _) hmode))
          have hobject := hmember.spells (by simp) hspace
          refine ⟨_, pushes_cons rfl (pushes_cons rfl (pushes_cons rfl (pushes_cons rfl
            (pushes_eq_ok .nil)))), ?_⟩
          have hall := Members.singleton (quotes_keyText hopening.1) hobject
          rw [hopening.2]
          simpa [present, fieldIf, fieldsObject] using hall
  | some size =>
      have hsizeMember := member_number hsizeKey
        (nonZero_lt (by decide : 64 ≤ 64) (congrArg (Option.map NonZero.get) hsize))
      cases hmode : options.mode with
      | none =>
          have hobject := hsizeMember.spells (by simp) hspace
          refine ⟨_, pushes_cons rfl (pushes_cons rfl (pushes_cons rfl (pushes_cons rfl
            (pushes_eq_ok .nil)))), ?_⟩
          have hall := Members.singleton (quotes_keyText hopening.1) hobject
          rw [hopening.2]
          simpa [present, fieldIf, fieldsObject] using hall
      | some mode =>
          have hmember := member_number hmodeKey (uint32_lt (congrArg (Option.map _) hmode))
          have hobject := (hsizeMember.append hmember).spells (by simp) hspace
          refine ⟨_, pushes_cons rfl (pushes_cons rfl (pushes_cons rfl (pushes_cons rfl
            (pushes_eq_ok .nil)))), ?_⟩
          have hall := Members.singleton (quotes_keyText hopening.1) hobject
          rw [hopening.2]
          simpa [present, fieldIf, fieldsObject] using hall

theorem mountSource_eq {resources : List TargetResource} {source : MountSource}
    (h : ∀ reference, source = .volume reference →
      (volumeName resources reference).isSome = true) :
    mountSource resources source = .ok (mountKind source, mountText resources source) := by
  cases source with
  | bind path => rfl
  | tmpfs options => rfl
  | volume reference =>
      have hname := h reference rfl
      rw [mountSource, mountText, volumeName] at *
      split at hname <;> simp_all [mountKind]

theorem isUtf8_volumeName {resources : List TargetResource} {reference : ResourceRef}
    {name : Bytes} (h : volumeName resources reference = some name) : isUtf8 name = true := by
  rw [volumeName] at h
  split at h
  · next identity _ _ =>
      cases h
      exact isUtf8_of_identity identity.checked
  · next identity _ =>
      cases h
      exact isUtf8_of_identity identity.checked
  · cases h

theorem isUtf8_mountText {resources : List TargetResource} (mount : Mount) :
    ∀ bytes ∈ mountText resources mount.source, isUtf8 bytes = true := by
  intro bytes hbytes
  cases hcase : mount.source with
  | bind path =>
      rw [hcase, mountText] at hbytes
      exact Option.some.inj hbytes ▸ (isUtf8_of_mount mount).2 path hcase
  | volume reference =>
      rw [hcase] at hbytes
      exact isUtf8_volumeName hbytes
  | tmpfs options =>
      rw [hcase] at hbytes
      cases hbytes

/-- What follows `ReadOnly` in a mount. -/
def renderMountOptions : MountSource → Rendered Chars
  | .tmpfs options => renderTmpfsOptions options
  | _ => .ok []

theorem spells_mount {resources : List TargetResource} {mount : Mount}
    (hvolume : ∀ reference, mount.source = .volume reference →
      (volumeName resources reference).isSome = true) :
    Writes (Spells (mountBody resources mount)) (renderMount resources mount) := by
  have hoptions : WritesFields [("TmpfsOptions", (tmpfsOptions mount.source).map tmpfsBody)]
      (renderMountOptions mount.source) := by
    cases mount.source with
    | tmpfs options =>
        have hfield : (tmpfsOptions (.tmpfs options)).map tmpfsBody =
            fieldIf (options.sizeBytes.isSome || options.mode.isSome) (tmpfsBody options) := by
          rw [tmpfsOptions, fieldIf]
          split <;> rfl
        rw [hfield]
        exact writes_tmpfs options
    | _ => exact ⟨[], rfl, .nil⟩
  rw [renderMount, mountSource_eq hvolume, ok_bind]
  apply spells_object (by decide) (spells_jsonText _) closes_brace
  apply Parts.fields (writesFields_string (by decide) (isUtf8_mountText mount))
  apply Parts.keyed (by decide) (spells_jsonString (isUtf8_of_mount mount).1)
  have hreadOnly : PlainKey "ReadOnly" ∧
      (if mount.readOnly then ",\"ReadOnly\":true" else ",\"ReadOnly\":false").toList =
        ',' :: (keyText "ReadOnly" ++
          ':' :: (if mount.readOnly then "true" else "false").toList) := by
    cases mount.readOnly <;> decide
  apply Parts.fixed hreadOnly (spells_bool mount.readOnly)
  exact .fields hoptions (.close rfl)

theorem spells_limit {limit : Option Nat} (h : ∀ value, limit = some value → value ≤ maxI64) :
    Writes (Spells (limitValue limit)) (.ok (signedLimit limit)) := by
  cases limit with
  | none =>
      have hspells := spells_negInt (by decide : 0 < 1) (by decide)
      exact writes_ok hspells
  | some value =>
      have hlt : value < 2 ^ 63 := Nat.lt_of_le_of_lt (h value rfl) (by decide)
      rw [signedLimit, if_pos hlt]
      exact spells_decimal (Nat.lt_trans hlt (by decide))

theorem spells_ulimitValue {value : UlimitValue} (h : validUlimitValue value = true) :
    Writes (Spells (limitValue (ulimitCount value))) (.ok (ulimitValue value)) := by
  cases value with
  | unlimited => exact spells_limit fun _ hnone => by cases hnone
  | value number =>
      refine spells_limit fun _ hsome => ?_
      cases hsome
      simpa [validUlimitValue] using h

theorem spells_ulimit {limit : Ulimit} (hsoft : validUlimitValue limit.soft = true)
    (hhard : validUlimitValue limit.hard = true) :
    Writes (Spells (ulimitBody limit)) (renderUlimit limit) := by
  apply spells_object (by decide) (spells_jsonString (isUtf8_of_token limit.name.checked))
    closes_brace
  apply Parts.keyed (by decide) (spells_ulimitValue hsoft)
  apply Parts.keyed (by decide) (spells_ulimitValue hhard)
  exact .close rfl

theorem spells_device (device : DeviceMapping) :
    Writes (Spells (deviceBody device)) (renderDevice device) := by
  apply spells_object (by decide)
    (spells_jsonString (isUtf8_of_absolutePath device.hostPath.checked)) closes_brace
  apply Parts.keyed (by decide)
    (spells_jsonString (isUtf8_of_absolutePath device.containerPath.checked))
  apply Parts.keyed (by decide) (spells_jsonText _)
  exact .close rfl

theorem isUtf8_extraHostText (host : ExtraHost) : isUtf8 (extraHostText host) = true := by
  have hcolon : isUtf8 [58] = true := isUtf8_of_ascii (by decide +kernel)
  rw [extraHostText, ← List.singleton_append, ← List.append_assoc]
  exact isUtf8_append (isUtf8_append (isUtf8_of_hostname host.name.checked) hcolon)
    (isUtf8_asBytes _)

theorem writes_restart (restart : RestartPolicy) :
    WritesMembers [("RestartPolicy", restartBody restart)] (renderRestart restart) := by
  have hcount : (restartName restart).2 < 2 ^ 64 := by
    cases restart with
    | onFailure maximumRetries => exact Nat.lt_trans maximumRetries.toNat_lt (by decide)
    | _ => decide
  have hopening : PlainKey "RestartPolicy" ∧ PlainKey "Name" ∧
      "\"RestartPolicy\":\x7b\"Name\":".toList =
        keyText "RestartPolicy" ++ ':' :: '\x7b' :: (keyText "Name" ++ [':']) := by
    decide
  obtain ⟨name, hname, hspells⟩ := spells_jsonText (restartName restart).1
  have hparts : Parts "\x7d".toList
      [push ",\"MaximumRetryCount\":", .ok (decimal (restartName restart).2), push "\x7d"]
      [("MaximumRetryCount", some (numberValue (restartName restart).2))] := by
    apply Parts.keyed (by decide) (spells_decimal hcount)
    exact .close rfl
  obtain ⟨count, hpushes, hmembers⟩ := hparts.writes
  refine ⟨_, pushes_cons rfl (pushes_cons hname hpushes), ?_⟩
  have hobject := ((Members.singleton (quotes_keyText hopening.2.1) hspells).append hmembers).spells
    (by simp) (@rfl _ (([] : List Char).all isSpace))
  have hall := Members.singleton (quotes_keyText hopening.1) hobject
  rw [hopening.2.2]
  simpa [restartBody, fieldsObject, present] using hall

theorem writes_log (log : LogConfig) :
    WritesMembers [("LogConfig", logBody log)] (renderLogConfig log) := by
  have hopening : PlainKey "LogConfig" ∧ PlainKey "Type" ∧ PlainKey "Config" ∧
      "\"LogConfig\":\x7b\"Type\":".toList =
        keyText "LogConfig" ++ ':' :: '\x7b' :: (keyText "Type" ++ [':']) ∧
      ",\"Config\":\x7b".toList = ',' :: (keyText "Config" ++ [':', '\x7b']) := by
    decide
  obtain ⟨driver, hdriver, hspells⟩ := spells_jsonText (logDriverName log.driver)
  obtain ⟨options, hoptions, hspelled⟩ :=
    spells_braces fun item (_ : item ∈ log.options) => writes_label item
  refine ⟨_, pushes_cons rfl (pushes_cons hdriver (pushes_cons rfl (pushes_cons hoptions
    (pushes_cons rfl (pushes_eq_ok .nil))))), ?_⟩
  have hobject := ((Members.singleton (quotes_keyText hopening.2.1) hspells).append
    (Members.singleton (quotes_keyText hopening.2.2.1) hspelled)).spells
      (by simp) (@rfl _ (([] : List Char).all isSpace))
  have hall := Members.singleton (quotes_keyText hopening.1) hobject
  rw [hopening.2.2.2.1, hopening.2.2.2.2]
  simpa [logBody, fieldsObject, present] using hall

theorem networkOf_eq {resources : List TargetResource} {attachment : NetworkAttachmentIntent}
    (h : (networkName resources attachment.network).isSome = true) :
    ∃ network, networkOf resources attachment.network = .ok network ∧
      attachedName resources attachment = network.identity.bytes := by
  rw [attachedName]
  rw [networkName] at h ⊢
  split at h
  · next network hfind =>
      refine ⟨network, ?_, rfl⟩
      rw [networkOf, hfind]
  · cases h

theorem writes_networkMode {resources : List TargetResource}
    {attachment : NetworkAttachmentIntent}
    (h : (networkName resources attachment.network).isSome = true) :
    WritesMembers [("NetworkMode", stringValue (attachedName resources attachment))] (do
      let network ← networkOf resources attachment.network
      pushes [push "\"NetworkMode\":", jsonString network.identity.bytes]) := by
  obtain ⟨network, hok, hname⟩ := networkOf_eq h
  rw [hok, ok_bind, hname]
  exact writesMembers_keyed (by decide)
    (spells_jsonString (isUtf8_of_identity network.identity.checked))

theorem writes_flag {key yes no : String} (flag : Bool)
    (hyes : PlainKey key ∧ yes.toList = keyText key ++ ':' :: "true".toList)
    (hno : no.toList = keyText key ++ ':' :: "false".toList) :
    WritesMembers [(key, .bool flag)] (push (if flag then yes else no)) := by
  cases flag with
  | true => exact writesMembers_push hyes (spells_bool true)
  | false => exact writesMembers_push ⟨hyes.1, hno⟩ (spells_bool false)

section Limits

variable {settings : ContainerSettings} (h : boundedLimits settings = true)
include h

theorem spells_memory {memory : MemoryLimit} (hmemory : settings.memoryLimit = some memory) :
    Writes (Spells (numberValue (memoryValue memory))) (.ok (decimal (memoryValue memory))) := by
  apply spells_decimal
  simp only [boundedLimits, Bool.and_eq_true, hmemory] at h
  cases memory with
  | unlimited => decide
  | bytes value => exact value.lt

theorem spells_pids {pids : PidsLimit} (hpids : settings.pidsLimit = some pids) :
    Writes (Spells (limitValue (pidsCount pids))) (.ok (pidsValue pids)) := by
  simp only [boundedLimits, Bool.and_eq_true, hpids] at h
  cases pids with
  | unlimited => exact spells_limit fun _ hnone => by cases hnone
  | count value =>
      refine spells_limit fun _ hsome => ?_
      cases hsome
      simpa using h.1.2

end Limits

theorem hostMembers {container : ContainerIntent} {resources : List TargetResource}
    (h : Renderable resources container) :
    List.Forall₂ HostMember (hostFields container resources)
      (hostConfigFields resources container) := by
  apply List.Forall₂.cons (hostMember_mapping (by decide) (by decide) fun port _ =>
    writes_portBindings)
  apply List.Forall₂.cons (hostMember_list (by decide) (by decide) fun mount hmount =>
    spells_bind (List.mem_filter.mp hmount).2)
  apply List.Forall₂.cons (hostMember_list (by decide) (by decide) fun mount hmount =>
    spells_mount (h.volumes mount (List.mem_filter.mp hmount).1))
  apply List.Forall₂.cons (hostMember_map fun attachment hattachment =>
    writes_networkMode (h.networks attachment (List.mem_of_head? hattachment)))
  apply List.Forall₂.cons (hostMember_map fun restart _ => writes_restart restart)
  apply List.Forall₂.cons (hostMember_map fun readOnly _ =>
    writes_flag readOnly (by decide) (by decide))
  apply List.Forall₂.cons (hostMember_map fun init _ =>
    writes_flag init (by decide) (by decide))
  apply List.Forall₂.cons (hostMember_map fun memory hmemory =>
    writesMembers_keyed (by decide) (spells_memory h.limits hmemory))
  apply List.Forall₂.cons (hostMember_map fun pids hpids =>
    writesMembers_keyed (by decide) (spells_pids h.limits hpids))
  apply List.Forall₂.cons (hostMember_map fun size _ =>
    writesMembers_keyed (by decide) (spells_decimal size.lt))
  apply List.Forall₂.cons (hostMember_list (by decide) (by decide) fun limit hlimit =>
    spells_ulimit (h.ulimits limit hlimit).1 (h.ulimits limit hlimit).2)
  apply List.Forall₂.cons (hostMember_list (by decide) (by decide) fun device _ =>
    spells_device device)
  apply List.Forall₂.cons (hostMember_texts (by decide) fun token _ =>
    isUtf8_of_token token.checked)
  apply List.Forall₂.cons (hostMember_texts (by decide) fun token _ =>
    isUtf8_of_token token.checked)
  apply List.Forall₂.cons (hostMember_texts (by decide) fun _ _ => isUtf8_asBytes _)
  apply List.Forall₂.cons (hostMember_mapping (by decide) (by decide) fun label _ =>
    writes_label label)
  apply List.Forall₂.cons (hostMember_texts (by decide) fun group _ =>
    isUtf8_of_containerUser group.checked)
  apply List.Forall₂.cons (hostMember_texts (by decide) fun _ _ => isUtf8_asBytes _)
  apply List.Forall₂.cons (hostMember_texts (by decide) fun host _ => isUtf8_extraHostText host)
  apply List.Forall₂.cons (hostMember_map fun log _ => writes_log log)
  apply List.Forall₂.cons (hostMember_map fun mode _ =>
    writesMembers_keyed (by decide) (spells_jsonText _))
  exact .nil

theorem spells_hostConfig {container : ContainerIntent} {resources : List TargetResource}
    (h : Renderable resources container) :
    Writes (fun text => Spells (fieldsObject (hostConfigFields resources container))
      ('\x7b' :: text ++ ['\x7d'])) (renderHostConfig container resources) := by
  obtain ⟨body, hbody, hinner⟩ := hostFields_inner (hostMembers h)
  refine ⟨body.text, ?_, hinner.spells⟩
  rw [renderHostConfig, hbody]
  rfl

end Members

section Endpoints

theorem member_string {key text : String} {bytes : Bytes}
    (hkey : PlainKey key ∧ text.toList = keyText key ++ [':']) (hbytes : isUtf8 bytes = true) :
    ∃ spelling, jsonString bytes = .ok spelling ∧
      Members [(key, stringValue bytes)] (',' :: (text.toList ++ spelling)) := by
  obtain ⟨spelling, hspelling, hspells⟩ := spells_jsonString hbytes
  refine ⟨spelling, hspelling, ?_⟩
  rw [hkey.2]
  simpa using Members.singleton (quotes_keyText hkey.1) hspells

/-- The addresses go after a comma when there are aliases. -/
theorem writes_addresses {attachment : NetworkAttachmentIntent}
    (h : (attachment.ipv4Address.isSome || attachment.ipv6Address.isSome) = true) :
    ∃ text, renderAddresses attachment =
        .ok ((if (!attachment.aliases.isEmpty) = true then [','] else []) ++ text) ∧
      Members [("IPAMConfig", addressesBody attachment)] (',' :: text) := by
  have hopening : PlainKey "IPAMConfig" ∧
      "\"IPAMConfig\":\x7b".toList = keyText "IPAMConfig" ++ [':', '\x7b'] := by
    decide
  have hcomma : pushIf (!attachment.aliases.isEmpty) (push ",") =
      .ok (if (!attachment.aliases.isEmpty) = true then [','] else []) := by
    rw [pushIf]
    split <;> rfl
  have hpad := @rfl _ (([] : List Char).all isSpace)
  have hclose : ∀ {members : List (String × Value)} {text : Chars}, members ≠ [] →
      Members members (',' :: text) →
      Members [("IPAMConfig", .object members)]
        (',' :: ("\"IPAMConfig\":\x7b".toList ++ text ++ "\x7d".toList)) := by
    intro members text hne hmembers
    have hmember := Members.singleton (quotes_keyText hopening.1) (hmembers.spells hne hpad)
    rw [hopening.2]
    simpa using hmember
  rw [renderAddresses, addressesBody, hcomma]
  cases hipv4 : attachment.ipv4Address with
  | none =>
      cases hipv6 : attachment.ipv6Address with
      | none => simp [hipv4, hipv6] at h
      | some ipv6 =>
          obtain ⟨spelling, hspelling, hmember⟩ := member_string
            (by decide : PlainKey "IPv6Address" ∧ "\"IPv6Address\":".toList = _)
            (isUtf8_asBytes ipv6.value.text)
          refine ⟨_, pushes_cons rfl (pushes_cons rfl (pushes_cons rfl (pushes_cons
            (pushes_cons rfl (pushes_cons rfl (pushes_cons hspelling (pushes_eq_ok .nil))))
            (pushes_cons rfl (pushes_eq_ok .nil))))), ?_⟩
          simpa [fieldsObject, present, addressText] using hclose (by simp) hmember
  | some ipv4 =>
      obtain ⟨first, hfirst, hfirstMember⟩ := member_string
        (by decide : PlainKey "IPv4Address" ∧ "\"IPv4Address\":".toList = _)
        (isUtf8_asBytes ipv4.value.text)
      have hpushed := pushes_cons (@rfl _ (push "\"IPv4Address\":"))
        (pushes_cons hfirst (pushes_eq_ok .nil))
      cases hipv6 : attachment.ipv6Address with
      | none =>
          refine ⟨_, pushes_cons rfl (pushes_cons rfl (pushes_cons hpushed (pushes_cons rfl
            (pushes_cons rfl (pushes_eq_ok .nil))))), ?_⟩
          simpa [fieldsObject, present, addressText] using hclose (by simp) hfirstMember
      | some ipv6 =>
          obtain ⟨spelling, hspelling, hmember⟩ := member_string
            (by decide : PlainKey "IPv6Address" ∧ "\"IPv6Address\":".toList = _)
            (isUtf8_asBytes ipv6.value.text)
          refine ⟨_, pushes_cons rfl (pushes_cons rfl (pushes_cons hpushed (pushes_cons
            (pushes_cons rfl (pushes_cons rfl (pushes_cons hspelling (pushes_eq_ok .nil))))
            (pushes_cons rfl (pushes_eq_ok .nil))))), ?_⟩
          simpa [fieldsObject, present, addressText] using
            hclose (by simp) (hfirstMember.append hmember)

theorem inner_aliases (attachment : NetworkAttachmentIntent) :
    ∃ text, pushIf (!attachment.aliases.isEmpty)
        (pushes [push "\"Aliases\":[",
          separated (fun name => jsonString (Checked.bytes name)) attachment.aliases, push "]"]) =
        .ok text ∧
      Inner [("Aliases", textsField Checked.bytes attachment.aliases)] text := by
  rw [textsField, listField]
  cases haliases : attachment.aliases with
  | nil => exact ⟨[], rfl, inner_nil.absent "Aliases"⟩
  | cons first rest =>
      have hmember : WritesMembers [("Aliases", .array ((first :: rest).map fun name =>
          stringValue name.bytes))] (pushes [push "\"Aliases\":[",
            separated (fun name => jsonString (Checked.bytes name)) (first :: rest), push "]"]) :=
        writesMembers_array (by decide) (by decide) (by simp) (writesElements_separated (by simp)
          fun name _ => spells_jsonString (isUtf8_of_identity name.checked))
      obtain ⟨text, htext, hmember⟩ := hmember
      refine ⟨text, htext, ?_⟩
      have hinner := inner_nil.member (by simp [present] : false = true ↔ _) hmember
      simpa [fieldIf] using hinner

theorem spells_endpoint (attachment : NetworkAttachmentIntent) :
    Writes (Spells (endpointBody attachment)) (renderEndpoint attachment) := by
  obtain ⟨aliases, haliases, hinner⟩ := inner_aliases attachment
  have hhas : (!attachment.aliases.isEmpty) = true ↔
      present [("Aliases", textsField Checked.bytes attachment.aliases)] ≠ [] := by
    cases attachment.aliases <;> simp [present, textsField, listField, fieldIf]
  rw [renderEndpoint, endpointBody, fieldIf]
  by_cases haddresses : (attachment.ipv4Address.isSome || attachment.ipv6Address.isSome) = true
  · obtain ⟨text, htext, hmember⟩ := writes_addresses haddresses
    refine ⟨_, pushes_cons rfl (pushes_cons haliases (pushes_cons ((if_pos haddresses).trans htext)
      (pushes_cons rfl (pushes_eq_ok .nil)))), ?_⟩
    rw [if_pos haddresses]
    simpa using (hinner.member hhas hmember).spells
  · refine ⟨_, pushes_cons rfl (pushes_cons haliases (pushes_cons (if_neg haddresses)
      (pushes_cons rfl (pushes_eq_ok .nil)))), ?_⟩
    rw [if_neg haddresses]
    simpa using (hinner.absent "IPAMConfig").spells

theorem writes_networking {resources : List TargetResource}
    {attachment : NetworkAttachmentIntent}
    (h : (networkName resources attachment.network).isSome = true) :
    WritesFields [("NetworkingConfig", some (networkingBody resources attachment))]
      (renderNetworking resources attachment) := by
  obtain ⟨network, hok, hname⟩ := networkOf_eq h
  obtain ⟨name, hnamed, hquotes⟩ :=
    writes_jsonString (isUtf8_of_identity network.identity.checked)
  obtain ⟨endpoint, hendpoint, hspells⟩ := spells_endpoint attachment
  have hopening : PlainKey "NetworkingConfig" ∧ PlainKey "EndpointsConfig" ∧
      ",\"NetworkingConfig\":\x7b\"EndpointsConfig\":\x7b".toList =
        ',' :: (keyText "NetworkingConfig" ++ ':' :: '\x7b' ::
          (keyText "EndpointsConfig" ++ [':', '\x7b'])) := by
    decide
  rw [renderNetworking, hok, ok_bind]
  refine ⟨_, pushes_cons rfl (pushes_cons hnamed (pushes_cons rfl (pushes_cons hendpoint
    (pushes_cons rfl (pushes_eq_ok .nil))))), ?_⟩
  have hpad := @rfl _ (([] : List Char).all isSpace)
  have hinner := (Members.singleton hquotes hspells).spells (by simp) hpad
  have houter := (Members.singleton (quotes_keyText hopening.2.1) hinner).spells (by simp) hpad
  have hall := Members.singleton (quotes_keyText hopening.1) houter
  rw [hopening.2.2]
  simpa [networkingBody, fieldsObject, present, hname] using hall

/-- The body that creates a container spells its JSON value. -/
theorem spells_container {container : ContainerIntent} {resources : List TargetResource}
    (h : Renderable resources container) :
    Writes (Spells (containerBody resources container)) (renderContainer container resources) := by
  obtain ⟨image, himage, himageSpells⟩ :=
    spells_jsonString (isUtf8_of_image container.image.checked)
  obtain ⟨config, hconfig, hconfigMembers⟩ := writes_config container
  obtain ⟨host, hhost, hhostSpells⟩ := spells_hostConfig h
  have htail : Parts "\x7d".toList
      [pushSome (renderNetworking resources) container.networks.head?, push "\x7d"]
      [("NetworkingConfig", container.networks.head?.map (networkingBody resources))] := by
    apply Parts.fields (writesFields_some fun attachment hattachment =>
      writes_networking (h.networks attachment (List.mem_of_head? hattachment)))
    exact .close rfl
  obtain ⟨tail, htail, htailMembers⟩ := htail.writes
  have hopening : PlainKey "Image" ∧ PlainKey "HostConfig" ∧
      "\x7b\"Image\":".toList = '\x7b' :: (keyText "Image" ++ [':']) ∧
      ",\"HostConfig\":\x7b".toList = ',' :: (keyText "HostConfig" ++ [':', '\x7b']) := by
    decide
  refine ⟨_, pushes_cons rfl (pushes_cons himage (pushes_cons hconfig (pushes_cons rfl
    (pushes_cons hhost (pushes_cons rfl htail))))), ?_⟩
  have himageMember := Members.singleton (quotes_keyText hopening.1) himageSpells
  have hhostMember := Members.singleton (quotes_keyText hopening.2.1) hhostSpells
  have hall := (((himageMember.append hconfigMembers).append hhostMember).append
    htailMembers).spells (by simp) (@rfl _ (([] : List Char).all isSpace))
  rw [hopening.2.2.1, hopening.2.2.2]
  simpa [containerBody, fieldsObject, present] using hall

theorem spells_connection {container : ContainerIntent} {attachment : NetworkAttachmentIntent}
    {resources : List TargetResource}
    (h : (networkName resources attachment.network).isSome = true) :
    ∃ body, renderSecondaryConnection container attachment resources =
        .ok ("networks/".toList ++ percentEncode (attachedName resources attachment) ++
          "/connect".toList, body) ∧
      Spells (connectionBody container attachment) body := by
  obtain ⟨network, hok, hname⟩ := networkOf_eq h
  have hbody : Writes (Spells (connectionBody container attachment)) (pushes
      [push "\x7b\"Container\":", jsonString container.identity.bytes,
        push ",\"EndpointConfig\":", renderEndpoint attachment, push "\x7d"]) := by
    apply spells_object (by decide)
      (spells_jsonString (isUtf8_of_identity container.identity.checked)) closes_brace
    apply Parts.keyed (by decide) (spells_endpoint attachment)
    exact .close rfl
  obtain ⟨body, hbody, hspells⟩ := hbody
  refine ⟨body, ?_, hspells⟩
  rw [renderSecondaryConnection, hok, ok_bind, hbody, ok_bind, hname]

end Endpoints

end DockerLens.Render
