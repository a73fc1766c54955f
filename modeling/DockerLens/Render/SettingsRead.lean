import DockerLens.Render.NetworkRead

namespace DockerLens.Render

open DockerLens.Text
open DockerLens.Json
open DockerLens.Observation
open DockerLens.Fold
open DockerLens.Acquisition
open DockerLens.Target
open DockerLens.Decoder

section Values

variable {α β : Type} {field : FieldPath}

/-- A value that is read whenever it is there. -/
def readValue (read : α → β) : Option α → Observed β :=
  readSome .effective fun a => .present (read a) .present .effective

/-- A list that is missing when it is empty. -/
def readList (read : α → β) (values : List α) : Observed (List β) :=
  if values.isEmpty then .unavailable .missing .effective
  else .present (values.map read) .present .effective

/-- The number of a limit: -1 stands for no limit. -/
def limitNumber : Option Nat → Int
  | none => -1
  | some value => value

theorem normalize_number (number : Number) :
    Json.normalize (.number number) = .number number := by
  rw [Json.normalize]

theorem normalize_bool (flag : Bool) : Json.normalize (.bool flag) = .bool flag := by
  rw [Json.normalize]

theorem string_text {bytes : Bytes} (h : isUtf8 bytes = true) :
    string (Json.normalize (stringValue bytes)) field = .ok bytes := by
  rw [stringValue, normalize_string, string, Value.asStr_string, Option.map_some, shaped,
    asBytes_decoded h]

theorem observe_number (number : α → Nat) (found : Option α) :
    observeValue .effective (fun value => shaped field value.asU64)
        ((found.map fun a => numberValue (number a)).map Json.normalize) =
      .ok (readValue number found) := by
  cases found with
  | none => rfl
  | some a =>
      rw [Option.map_some, Option.map_some, numberValue, normalize_number]
      rfl

theorem observe_unsigned32 {number : α → Nat} {found : Option α}
    (h : ∀ a ∈ found, number a < 2 ^ 32) :
    observeValue .effective (unsigned32 field)
        ((found.map fun a => numberValue (number a)).map Json.normalize) =
      .ok (readValue number found) := by
  cases found with
  | none => rfl
  | some a =>
      have hread : unsigned32 field (.number (.posInt (number a))) = .ok (number a) := by
        rw [unsigned32, Value.asU64, shaped, ok_bind, if_pos (h a rfl)]
      rw [Option.map_some, Option.map_some, numberValue, normalize_number, observeValue,
        if_neg (by simp [Value.isNull]), if_neg (by simp [isRedacted]), hread]
      rfl

theorem observe_limit {limit : α → Option Nat} {found : Option α}
    (h : ∀ a ∈ found, ∀ value ∈ limit a, value ≤ maxI64) :
    observeValue .effective (fun value => shaped field value.asI64)
        ((found.map fun a => limitValue (limit a)).map Json.normalize) =
      .ok (readValue (fun a => limitNumber (limit a)) found) := by
  cases found with
  | none => rfl
  | some a =>
      have hread :
          (Json.normalize (limitValue (limit a))).asI64 = some (limitNumber (limit a)) := by
        cases hlimit : limit a with
        | none =>
            rw [limitValue, normalize_number]
            rfl
        | some value =>
            have hlt : value < 2 ^ 63 := Nat.lt_of_le_of_lt (h a rfl value hlimit) (by decide)
            rw [limitValue, numberValue, normalize_number, Value.asI64, if_pos hlt]
            rfl
      have hnumber : ∃ number, Json.normalize (limitValue (limit a)) = .number number := by
        cases limit a with
        | none => exact ⟨_, normalize_number _⟩
        | some value => exact ⟨_, normalize_number _⟩
      obtain ⟨number, hnumber⟩ := hnumber
      rw [hnumber] at hread
      rw [Option.map_some, Option.map_some, hnumber, observeValue,
        if_neg (by simp [Value.isNull]), if_neg (by simp [isRedacted]), hread]
      rfl

theorem observe_bools (found : Option Bool) :
    observeValue .effective (fun value => shaped field value.asBool)
        ((found.map Value.bool).map Json.normalize) =
      .ok (readValue id found) := by
  cases found with
  | none => rfl
  | some flag =>
      rw [Option.map_some, Option.map_some, normalize_bool, observe_bool]
      rfl

theorem array_mapM (item : Value → Except DecodeError β) {value : α → Value} {read : α → β}
    {values : List α} (hitem : ∀ a ∈ values, item (Json.normalize (value a)) = .ok (read a))
    (hlength : values.length ≤ maxCollectionItems) :
    (array (Json.normalize (.array (values.map value))) field >>= fun found => found.mapM item) =
      .ok (values.map read) := by
  rw [Json.normalize, normalizeAll_eq_map, List.map_map, array_eq_ok (by rwa [List.length_map]),
    ok_bind, mapM_eq_ok_iff, List.forall₂_map_left_iff, List.forall₂_map_right_iff,
    List.forall₂_same]
  exact hitem

theorem observe_arrayField {parse : Value → Except DecodeError (List β)} {value : α → Value}
    {read : α → β} {values : List α}
    (hread : parse (Json.normalize (.array (values.map value))) = .ok (values.map read)) :
    observeValue .effective parse ((listField value values).map Json.normalize) =
      .ok (readList read values) := by
  cases values with
  | nil => rfl
  | cons a values =>
      rw [listField, fieldIf, if_pos (by simp), Option.map_some]
      rw [Json.normalize, normalizeAll_eq_map] at hread ⊢
      rw [observe_array hread]
      rfl

theorem observe_list (item : Value → Except DecodeError β) {value : α → Value} {read : α → β}
    {values : List α} (hitem : ∀ a ∈ values, item (Json.normalize (value a)) = .ok (read a))
    (hlength : values.length ≤ maxCollectionItems) :
    observeValue .effective (fun found => array found field >>= fun found => found.mapM item)
        ((listField value values).map Json.normalize) =
      .ok (readList read values) :=
  observe_arrayField (array_mapM item hitem hlength)

theorem observe_texts {text : α → Bytes} {values : List α}
    (hutf8 : ∀ a ∈ values, isUtf8 (text a) = true) (hlength : values.length ≤ maxCollectionItems) :
    observeValue .effective (fun found => stringList found field)
        ((textsField text values).map Json.normalize) =
      .ok (readList text values) :=
  observe_list (fun item => string item field) (fun a ha => string_text (hutf8 a ha)) hlength

end Values

/-- A value that stands for an object with some member. -/
structure Plain (value : Value) : Prop where
  isNull : value.isNull = false
  isRedacted : isRedacted value = false
  presence : presence value = .present

theorem plain_of_known {root member : Value} {fields : String → Option Value} {key : String}
    (h : Known root fields) (hmember : fields key = some member) : Plain root := by
  obtain ⟨members, rfl, -⟩ := h.bounded
  refine ⟨rfl, h.plain, ?_⟩
  cases members with
  | nil =>
      have hget := h.get key
      rw [hmember] at hget
      cases hget
  | cons member members => rfl

theorem observe_record {α β : Type} {parse : Value → Except DecodeError β} {body : α → Value}
    {read : α → β} {found : Option α}
    (hparse : ∀ a ∈ found, parse (Json.normalize (body a)) = .ok (read a))
    (hplain : ∀ a ∈ found, Plain (Json.normalize (body a))) :
    observeValue .effective parse ((found.map body).map Json.normalize) =
      .ok (readValue read found) := by
  cases found with
  | none => rfl
  | some a =>
      have ha := hplain a rfl
      rw [Option.map_some, Option.map_some, observeValue, ha.isNull, ha.isRedacted, hparse a rfl,
        ha.presence]
      rfl

section Ports

def readProtocol : Protocol → TransportProtocol
  | .tcp => .tcp
  | .udp => .udp

def readKey (port : PortPublication) : PortKey :=
  ⟨port.container.get, readProtocol port.protocol⟩

def readHostIp : PortHostIp → Observed ProtectedValue
  | .unspecified => .unavailable .missing .effective
  | .address address => readText .effective (asBytes address.text)

def readHostPort : PortHostPort → Observed Nat
  | .fixed port => .present port.get .present .effective
  | .ephemeral => .unavailable .empty .effective

def readBinding (binding : Target.HostBinding) : Decoder.HostBinding :=
  ⟨readHostIp binding.hostIp, readHostPort binding.hostPort⟩

def readPort (port : PortPublication) : PortObservation :=
  ⟨readKey port, .present (port.bindings.map readBinding) .present .effective⟩

theorem portNumber_decimal (port : NonZero 16) : portNumber (decimal port.get) = some port.get := by
  have hdigits : Digits (decimal port.get) := digits_toDigits port.get
  have hall : (decimal port.get).all Char.isDigit = true := List.all_eq_true.mpr hdigits.digit
  have hempty : (decimal port.get).isEmpty = false :=
    List.isEmpty_eq_false_iff.mpr hdigits.nonempty
  have hvalue : Nat.ofDigitChars 10 (decimal port.get) 0 = port.get := Nat.ofDigitChars_ten_toDigits
  have hlt := port.lt
  rw [portNumber, hall, hempty, if_neg (by simp), parsed_of_digits (.inl rfl) hdigits (by omega),
    hvalue]

theorem parsePortKey_portKey (port : PortPublication) :
    parsePortKey (decoded (portKey port)) = .ok (readKey port) := by
  have hdigits : Digits (decimal port.container.get) := digits_toDigits port.container.get
  have hall : (decimal port.container.get).all Char.isDigit = true :=
    List.all_eq_true.mpr hdigits.digit
  have hempty : (decimal port.container.get).isEmpty = false :=
    List.isEmpty_eq_false_iff.mpr hdigits.nonempty
  have hslash : '/' ∉ decimal port.container.get := by
    intro hmem
    exact absurd (hdigits.digit _ hmem) (by decide)
  have hprotocol : protocol (protocolName port.protocol).toList =
      some (readProtocol port.protocol) := by
    cases port.protocol <;> rfl
  rw [portKey, decoded_asBytes, parsePortKey, String.toList_ofList, splitOnce_append hslash, valued,
    ok_bind]
  simp only [hall, hempty, hprotocol, portNumber_decimal, valued, ok_bind, Bool.not_true,
    Bool.or_false, Bool.false_eq_true, if_false, if_neg (Nat.ne_of_gt port.container.pos)]
  rfl

theorem hostPortField_read {root : Value} {fields : String → Option Value}
    (h : Known root fields) {hostPort : PortHostPort}
    (hport : fields "HostPort" = some (Json.normalize (stringValue (hostPortText hostPort))))
    (field : FieldPath) :
    hostPortField root field .effective = .ok (readHostPort hostPort) := by
  rw [hostPortField, h.fieldValue_eq, hport, Option.elim_some, fieldValue_nil, ok_bind, stringValue,
    normalize_string]
  cases hostPort with
  | ephemeral =>
      have hempty : decoded (hostPortText .ephemeral) = "" := decoded_asBytes ""
      rw [hempty]
      rfl
  | fixed port =>
      have hne : String.ofList (decimal port.get) ≠ "" := by
        intro hempty
        have hnil := congrArg String.toList hempty
        rw [String.toList_ofList] at hnil
        exact (digits_toDigits port.get).nonempty hnil
      have hread : parseHostPort (.string (String.ofList (decimal port.get))) = .ok port.get := by
        rw [parseHostPort, Value.asStr_string, shaped, ok_bind, String.toList_ofList,
          portNumber_decimal]
        rfl
      rw [hostPortText, decoded_asBytes]
      dsimp only
      rw [if_neg (by simp [Value.isNull]), if_neg (by simp), if_neg (by simpa using hne), hread]
      rfl

theorem hostBinding_read (field : FieldPath) (binding : Target.HostBinding) :
    hostBinding field .effective (Json.normalize (hostBindingBody binding)) =
      .ok (readBinding binding) := by
  have hknown : Known (Json.normalize (hostBindingBody binding)) _ :=
    Known.ofFields (show ["__docker_lens_redacted__", "HostIp", "HostPort"].Nodup by decide)
      (show 2 ≤ maxCollectionItems by decide)
  obtain ⟨members, hobject⟩ := hknown.object_eq field
  have hip : stringField (Json.normalize (hostBindingBody binding)) ["HostIp"] field .effective =
      .ok (readHostIp binding.hostIp) := by
    refine (hknown.observed_eq "HostIp").trans ?_
    change observeValue _ _ ((hostIpBody binding.hostIp).map Json.normalize) = _
    cases binding.hostIp with
    | unspecified => rfl
    | address address =>
        exact @observe_text _ _ _ _ (some ()) fun _ _ => isUtf8_asBytes address.text
  rw [hostBinding, hobject, ok_bind, hip, ok_bind, hostPortField_read hknown rfl, ok_bind]
  rfl

theorem portBinding_read {port : PortPublication} (hne : port.bindings ≠ [])
    (hlength : port.bindings.length ≤ maxCollectionItems) (index : Nat) :
    portBinding .effective (((portEntry port).1, Json.normalize (portEntry port).2), index) =
      .ok (readPort port) := by
  have hread := @array_mapM _ _ (.port index) (hostBinding (.port index) .effective) _ _ _
    (fun binding (_ : binding ∈ port.bindings) => hostBinding_read (.port index) binding) hlength
  rw [portEntry, portBinding]
  dsimp only
  rw [parsePortKey_portKey, ok_bind]
  rw [Json.normalize, normalizeAll_eq_map] at hread ⊢
  have hempty : ((port.bindings.map hostBindingBody).map Json.normalize).isEmpty = false := by
    rw [List.isEmpty_eq_false_iff, Ne, List.map_eq_nil_iff, List.map_eq_nil_iff]
    exact hne
  rw [array_eq_ok (by simpa using hlength), ok_bind] at hread
  rw [if_neg (by simp [Value.isNull]), if_neg (by simp [isRedacted]),
    array_eq_ok (by simpa using hlength), ok_bind, hread, ok_bind, hempty]
  rfl

theorem observe_exposed {ports : List PortPublication}
    (hkeys : (ports.map Target.portKey).Nodup) (hlength : ports.length ≤ maxCollectionItems) :
    ∃ found, observeValue .effective exposedPorts
        ((mapField exposedEntry ports).map Json.normalize) = .ok found ∧
      Collected .effective (ports.map readKey) found := by
  apply observe_mapField exposedPorts _ _ _ hlength
  · intro kept _ hkept
    rw [exposedPorts, object_eq_ok (by rwa [List.length_map]), ok_bind, mapM_eq_ok_iff,
      List.forall₂_map_left_iff, List.forall₂_map_right_iff, List.forall₂_same]
    exact fun port _ => parsePortKey_portKey port
  · intro port _
    rw [exposedEntry, Json.normalize]
    exact Value.noConfusion
  · rw [List.map_map]
    exact nodup_decoded (fun port _ => isUtf8_portKey port) (nodup_portKeys hkeys)

theorem observe_published {ports : List PortPublication}
    (hkeys : (ports.map Target.portKey).Nodup) (hlength : ports.length ≤ maxCollectionItems)
    (hbindings : ∀ port ∈ ports, port.bindings.length ≤ maxCollectionItems) :
    ∃ found, observeValue .effective (fun value => portBindings value .effective)
        ((mapField portEntry (ports.filter (!·.bindings.isEmpty))).map Json.normalize) =
          .ok found ∧
      Collected .effective ((ports.filter (!·.bindings.isEmpty)).map readPort) found := by
  have hne : ∀ port ∈ ports.filter (!·.bindings.isEmpty), port ∈ ports ∧ port.bindings ≠ [] := by
    intro port hport
    simpa using List.mem_filter.mp hport
  apply observe_mapField (fun value => portBindings value .effective)
  · intro kept hmem hkept
    rw [portBindings, object_eq_ok (by rwa [List.length_map]), ok_bind]
    apply mapM_zipIdx_ok
    rw [List.forall₂_map_left_iff, List.forall₂_map_right_iff, List.forall₂_same]
    intro port hport index
    obtain ⟨hport, hpublished⟩ := hne port (hmem port hport)
    exact portBinding_read hpublished (hbindings port hport) index
  · intro port _
    rw [portEntry, Json.normalize]
    exact Value.noConfusion
  · rw [List.map_map]
    exact nodup_decoded (fun port _ => isUtf8_portKey port)
      (nodup_portKeys (hkeys.sublist (List.filter_sublist.map _)))
  · exact Nat.le_trans (List.length_filter_le _ _) hlength

end Ports

section Environment

def readAssignment (assignment : Target.EnvironmentAssignment) : Decoder.EnvironmentAssignment :=
  ⟨assignment.key, some assignment.value⟩

theorem mem_asBytes {char : Char} (h : char.toNat < 128) {text : String}
    (hmem : char ∈ text.toList) : UInt8.ofNat char.toNat ∈ asBytes text := by
  obtain ⟨before, after, htext⟩ := List.append_of_mem hmem
  have heq : text = String.ofList before ++ String.ofList (char :: after) := by
    apply String.toList_injective
    simpa using htext
  rw [heq, asBytes_append, asBytes_cons, asBytes_singleton h]
  exact List.mem_append_right _ (List.mem_append_left _ List.mem_cons_self)

/-- The name of an assignment has no equals sign, so its text is split where it was joined. -/
theorem environmentAssignment_read (assignment : Target.EnvironmentAssignment) (index : Nat) :
    environmentAssignment (Json.normalize (stringValue (assignmentText assignment)), index) =
      .ok (readAssignment assignment) := by
  obtain ⟨hkey, hvalue⟩ := isUtf8_of_assignment assignment.checked
  have hchecked := assignment.checked
  simp only [validAssignment, Bool.and_eq_true, Bool.not_eq_true', List.contains_eq_mem,
    decide_eq_false_iff_not] at hchecked
  obtain ⟨⟨⟨hnonempty, hequals⟩, -⟩, -⟩ := hchecked
  have htext : assignmentText assignment =
      asBytes (decoded assignment.key ++ "=" ++ decoded assignment.value) := by
    rw [asBytes_append, asBytes_append, asBytes_decoded hkey, asBytes_decoded hvalue,
      assignmentText, List.append_assoc]
    rfl
  have hlist : (decoded assignment.key ++ "=" ++ decoded assignment.value).toList =
      (decoded assignment.key).toList ++ '=' :: (decoded assignment.value).toList := by
    simp
  have hname : '=' ∉ (decoded assignment.key).toList := by
    intro hmem
    have hbyte := mem_asBytes (by decide) hmem
    rw [asBytes_decoded hkey] at hbyte
    exact hequals hbyte
  have hne : (decoded assignment.key).toList.isEmpty = false := by
    rw [List.isEmpty_eq_false_iff]
    intro hempty
    have hkeyEmpty : decoded assignment.key = "" := String.toList_injective hempty
    have hbytes := asBytes_decoded hkey
    rw [hkeyEmpty] at hbytes
    rw [← hbytes] at hnonempty
    cases hnonempty
  rw [stringValue, normalize_string, htext, decoded_asBytes, environmentAssignment]
  dsimp only
  rw [Value.asStr_string, shaped, ok_bind, splitAssignment, hlist, splitOnce_append hname]
  simp only [hne, Bool.false_eq_true, if_false, Option.map_some, String.ofList_toList,
    asBytes_decoded hkey, asBytes_decoded hvalue]
  rfl

theorem observe_environment {assignments : List Target.EnvironmentAssignment}
    (hlength : assignments.length ≤ maxCollectionItems) :
    observeValue .effective environment
        ((listField (fun assignment => stringValue (assignmentText assignment))
          assignments).map Json.normalize) =
      .ok (readList readAssignment assignments) := by
  have hread : environment (Json.normalize (.array (assignments.map fun assignment =>
      stringValue (assignmentText assignment)))) = .ok (assignments.map readAssignment) := by
    rw [Json.normalize, normalizeAll_eq_map, List.map_map, environment,
      array_eq_ok (by rwa [List.length_map]), ok_bind]
    apply mapM_zipIdx_ok
    rw [List.forall₂_map_left_iff, List.forall₂_map_right_iff, List.forall₂_same]
    exact fun assignment _ => environmentAssignment_read assignment
  exact observe_arrayField hread

end Environment

section Commands

def readCommand : ImageCommand → Observed CommandValue
  | .inherit => .unavailable .missing .effective
  | .clear => .present (.exec []) .empty .effective
  | .exec arguments => .present (.exec (arguments.map Checked.bytes)) .present .effective

theorem observe_command {field : FieldPath} {command : ImageCommand}
    (h : validCommand command = true)
    (hlength : ∀ arguments, command = .exec arguments → arguments.length ≤ maxCollectionItems) :
    observeValue .effective (fun value => Decoder.command value field)
        ((commandBody command).map Json.normalize) = .ok (readCommand command) := by
  cases command with
  | inherit => rfl
  | clear =>
      rw [commandBody, Option.map_some, Json.normalize, normalizeAll_eq_map]
      rfl
  | exec arguments =>
      have hread : stringList (Json.normalize (.array ((arguments.map Checked.bytes).map
          stringValue))) field = .ok ((arguments.map Checked.bytes).map id) := by
        apply array_mapM (fun item => string item field)
        · intro bytes hbytes
          obtain ⟨argument, -, rfl⟩ := List.mem_map.mp hbytes
          exact string_text (isUtf8_of_argument argument)
        · rw [List.length_map]
          exact hlength arguments rfl
      rw [commandBody, Option.map_some, textsValue]
      rw [Json.normalize, normalizeAll_eq_map, List.map_id] at *
      have hcommand : Decoder.command (.array (((arguments.map Checked.bytes).map
          stringValue).map Json.normalize)) field =
            .ok (.exec (arguments.map Checked.bytes)) := by
        change (stringList _ field).map CommandValue.exec = _
        rw [hread]
        rfl
      rw [observe_array hcommand]
      cases arguments with
      | nil => cases h
      | cons argument arguments => rfl

def readHealthTest : HealthTest → HealthcheckTest
  | .exec arguments => .cmd (arguments.map Checked.bytes)
  | .shell command => .cmdShell command.bytes
  | .disabled => .none

/-- The texts of a health test. -/
def healthTexts : HealthTest → List Bytes
  | .exec arguments => asBytes "CMD" :: arguments.map Checked.bytes
  | .shell command => [asBytes "CMD-SHELL", command.bytes]
  | .disabled => [asBytes "NONE"]

theorem healthTestBody_eq (test : HealthTest) :
    healthTestBody test = (healthTexts test).map stringValue := by
  have hfixed : ∀ text, Value.string text = stringValue (asBytes text) := by
    intro text
    rw [stringValue, decoded_asBytes]
  cases test <;> simp [healthTestBody, healthTexts, hfixed]

theorem healthcheckTest_read {health : Target.Healthcheck}
    (hlength : ∀ arguments, health.test = .exec arguments →
      arguments.length < maxCollectionItems) :
    healthcheckTest (Json.normalize (.array (healthTestBody health.test))) =
      .ok (readHealthTest health.test) := by
  have hvalid := health.valid
  simp only [validHealthcheck, Bool.and_eq_true] at hvalid
  have htest := hvalid.1.1.1.1.1
  have hutf8 : ∀ bytes ∈ healthTexts health.test, isUtf8 bytes = true := by
    cases health.test with
    | exec arguments =>
        rw [healthTexts, List.forall_mem_cons, List.forall_mem_map]
        exact ⟨isUtf8_asBytes _, fun argument _ => isUtf8_of_argument argument⟩
    | shell command =>
        rw [healthTexts, List.forall_mem_cons, List.forall_mem_singleton]
        exact ⟨isUtf8_asBytes _, isUtf8_of_argument command⟩
    | disabled =>
        rw [healthTexts, List.forall_mem_singleton]
        exact isUtf8_asBytes _
  have hcount : (healthTexts health.test).length ≤ maxCollectionItems := by
    cases hcase : health.test with
    | exec arguments =>
        rw [healthTexts, List.length_cons, List.length_map]
        exact hlength arguments hcase
    | shell command => exact (by decide : 2 ≤ maxCollectionItems)
    | disabled => exact (by decide : 1 ≤ maxCollectionItems)
  have harray : array (Json.normalize (.array (healthTestBody health.test))) .healthcheck =
      .ok ((healthTexts health.test).map fun bytes => .string (decoded bytes)) := by
    rw [healthTestBody_eq, Json.normalize, normalizeAll_eq_map, List.map_map,
      array_eq_ok (by rwa [List.length_map])]
    rfl
  have hread := @array_mapM _ _ .healthcheck (fun part => string part .healthcheck) _ _ _
    (fun bytes hbytes => string_text (hutf8 bytes hbytes)) hcount
  rw [← healthTestBody_eq, harray, ok_bind, List.map_id'] at hread
  rw [healthcheckTest, harray, ok_bind, hread, ok_bind]
  cases hcase : health.test with
  | exec arguments =>
      rw [hcase] at htest
      cases arguments with
      | nil => cases htest
      | cons argument arguments => simp [healthTexts, readHealthTest]
  | shell command => simp [healthTexts, readHealthTest]
  | disabled => simp [healthTexts, readHealthTest]

def readHealth (health : Target.Healthcheck) : Decoder.Healthcheck where
  test := .present (readHealthTest health.test) .present .effective
  intervalNs := readValue id (health.intervalNs.map NonZero.get)
  timeoutNs := readValue id (health.timeoutNs.map NonZero.get)
  startPeriodNs := readValue id (health.startPeriodNs.map UInt64.toNat)
  startIntervalNs := readValue id (health.startIntervalNs.map UInt64.toNat)
  retries := readValue id (health.retries.map NonZero.get)

theorem healthcheck_read {health : Target.Healthcheck}
    (hlength : ∀ arguments, health.test = .exec arguments →
      arguments.length < maxCollectionItems) :
    healthcheck (Json.normalize (healthBody health)) = .ok (readHealth health) ∧
      Plain (Json.normalize (healthBody health)) := by
  have hknown : Known (Json.normalize (healthBody health)) _ :=
    Known.ofFields (show ["__docker_lens_redacted__", "Test", "Interval", "Timeout", "Retries",
      "StartPeriod", "StartInterval"].Nodup by decide) (show 6 ≤ maxCollectionItems by decide)
  refine ⟨?_, @plain_of_known _ _ _ "Test" hknown rfl⟩
  obtain ⟨members, hobject⟩ := hknown.object_eq .healthcheck
  have htest : observed (Json.normalize (healthBody health)) ["Test"] .healthcheck .effective
      healthcheckTest = .ok (.present (readHealthTest health.test) .present .effective) := by
    have hread := healthcheckTest_read hlength
    refine (hknown.observed_eq "Test").trans ?_
    change observeValue _ _ (some (Json.normalize (.array (healthTestBody health.test)))) = _
    rw [Json.normalize, normalizeAll_eq_map] at hread ⊢
    rw [observe_array hread, if_neg (by simpa using healthTestBody_ne_nil health.test)]
  have hinterval : unsignedField (Json.normalize (healthBody health)) ["Interval"] .healthcheck
      .effective = .ok (readValue id (health.intervalNs.map NonZero.get)) :=
    (hknown.observed_eq "Interval").trans (observe_number id _)
  have htimeout : unsignedField (Json.normalize (healthBody health)) ["Timeout"] .healthcheck
      .effective = .ok (readValue id (health.timeoutNs.map NonZero.get)) :=
    (hknown.observed_eq "Timeout").trans (observe_number id _)
  have hstartPeriod : unsignedField (Json.normalize (healthBody health)) ["StartPeriod"]
      .healthcheck .effective = .ok (readValue id (health.startPeriodNs.map UInt64.toNat)) :=
    (hknown.observed_eq "StartPeriod").trans (observe_number id _)
  have hstartInterval : unsignedField (Json.normalize (healthBody health)) ["StartInterval"]
      .healthcheck .effective = .ok (readValue id (health.startIntervalNs.map UInt64.toNat)) :=
    (hknown.observed_eq "StartInterval").trans (observe_number id _)
  have hretries : observed (Json.normalize (healthBody health)) ["Retries"] .healthcheck
      .effective (unsigned32 .healthcheck) =
        .ok (readValue id (health.retries.map NonZero.get)) :=
    (hknown.observed_eq "Retries").trans (observe_unsigned32 fun _ hfound =>
      nonZero_lt (Nat.le_refl 32) hfound)
  rw [healthcheck, hobject, ok_bind, htest, ok_bind, hinterval, ok_bind, htimeout, ok_bind,
    hstartPeriod, ok_bind, hstartInterval, ok_bind, hretries, ok_bind]
  rfl

end Commands

section Limits

def readUlimit (limit : Ulimit) : UlimitObservation where
  name := readText .effective limit.name.bytes
  soft := .present (limitNumber (ulimitCount limit.soft)) .present .effective
  hard := .present (limitNumber (ulimitCount limit.hard)) .present .effective

theorem ulimitCount_le {limit : UlimitValue} (h : validUlimitValue limit = true) :
    ∀ value ∈ ulimitCount limit, value ≤ maxI64 := by
  intro value hvalue
  cases limit with
  | unlimited => cases hvalue
  | value number =>
      obtain rfl := Option.some.inj hvalue
      simpa [validUlimitValue] using h

theorem ulimit_read {limit : Ulimit} (hsoft : validUlimitValue limit.soft = true)
    (hhard : validUlimitValue limit.hard = true) :
    ulimit (Json.normalize (ulimitBody limit)) = .ok (readUlimit limit) := by
  have hknown : Known (Json.normalize (ulimitBody limit)) _ :=
    Known.ofFields (show ["__docker_lens_redacted__", "Name", "Soft", "Hard"].Nodup by decide)
      (show 3 ≤ maxCollectionItems by decide)
  obtain ⟨members, hobject⟩ := hknown.object_eq .resourceLimit
  have hname : stringField (Json.normalize (ulimitBody limit)) ["Name"] .resourceLimit
      .effective = .ok (readText .effective limit.name.bytes) :=
    (hknown.observed_eq "Name").trans (@observe_text _ _ _ (fun _ => limit.name.bytes) (some ())
      fun _ _ => isUtf8_of_token limit.name.checked)
  have hsoftRead : signedField (Json.normalize (ulimitBody limit)) ["Soft"] .resourceLimit
      .effective = .ok (.present (limitNumber (ulimitCount limit.soft)) .present .effective) :=
    (hknown.observed_eq "Soft").trans (@observe_limit _ _ ulimitCount (some limit.soft)
      fun _ hfound => Option.some.inj hfound ▸ ulimitCount_le hsoft)
  have hhardRead : signedField (Json.normalize (ulimitBody limit)) ["Hard"] .resourceLimit
      .effective = .ok (.present (limitNumber (ulimitCount limit.hard)) .present .effective) :=
    (hknown.observed_eq "Hard").trans (@observe_limit _ _ ulimitCount (some limit.hard)
      fun _ hfound => Option.some.inj hfound ▸ ulimitCount_le hhard)
  rw [ulimit, hobject, ok_bind, hname, ok_bind, hsoftRead, ok_bind, hhardRead, ok_bind]
  rfl

def readDevice (device : DeviceMapping) : DeviceObservation where
  hostPath := readText .effective device.hostPath.bytes
  containerPath := readText .effective device.containerPath.bytes
  permissions := readText .effective (asBytes (devicePermissions device.permissions))

theorem device_read (configured : DeviceMapping) :
    device (Json.normalize (deviceBody configured)) = .ok (readDevice configured) := by
  have hknown : Known (Json.normalize (deviceBody configured)) _ :=
    Known.ofFields (show ["__docker_lens_redacted__", "PathOnHost", "PathInContainer",
      "CgroupPermissions"].Nodup by decide) (show 3 ≤ maxCollectionItems by decide)
  obtain ⟨members, hobject⟩ := hknown.object_eq .device
  have hhost : stringField (Json.normalize (deviceBody configured)) ["PathOnHost"] .device
      .effective = .ok (readText .effective configured.hostPath.bytes) :=
    (hknown.observed_eq "PathOnHost").trans (@observe_text _ _ _
      (fun _ => configured.hostPath.bytes) (some ())
      fun _ _ => isUtf8_of_absolutePath configured.hostPath.checked)
  have hcontainer : stringField (Json.normalize (deviceBody configured)) ["PathInContainer"]
      .device .effective = .ok (readText .effective configured.containerPath.bytes) :=
    (hknown.observed_eq "PathInContainer").trans (@observe_text _ _ _
      (fun _ => configured.containerPath.bytes) (some ())
      fun _ _ => isUtf8_of_absolutePath configured.containerPath.checked)
  have hpermissions : stringField (Json.normalize (deviceBody configured))
      ["CgroupPermissions"] .device .effective =
        .ok (readText .effective (asBytes (devicePermissions configured.permissions))) :=
    (hknown.observed_eq "CgroupPermissions").trans (observe_fixed _)
  rw [device, hobject, ok_bind, hhost, ok_bind, hcontainer, ok_bind, hpermissions, ok_bind]
  rfl

def readRestart (restart : Target.RestartPolicy) : Decoder.RestartPolicy where
  name := readText .effective (asBytes (restartName restart).1)
  maximumRetryCount := .present (restartName restart).2 .present .effective

theorem restartPolicy_read (restart : Target.RestartPolicy) :
    restartPolicy (Json.normalize (restartBody restart)) = .ok (readRestart restart) ∧
      Plain (Json.normalize (restartBody restart)) := by
  have hknown : Known (Json.normalize (restartBody restart)) _ :=
    Known.ofFields (show ["__docker_lens_redacted__", "Name", "MaximumRetryCount"].Nodup by decide)
      (show 2 ≤ maxCollectionItems by decide)
  refine ⟨?_, @plain_of_known _ _ _ "Name" hknown rfl⟩
  obtain ⟨members, hobject⟩ := hknown.object_eq .restartPolicy
  have hname : stringField (Json.normalize (restartBody restart)) ["Name"] .restartPolicy
      .effective = .ok (readText .effective (asBytes (restartName restart).1)) :=
    (hknown.observed_eq "Name").trans (observe_fixed _)
  have hlt : (restartName restart).2 < 2 ^ 32 := by
    cases restart with
    | onFailure maximumRetries => exact maximumRetries.toNat_lt
    | no => decide
    | always => decide
    | unlessStopped => decide
  have hcount : observed (Json.normalize (restartBody restart)) ["MaximumRetryCount"]
      .restartPolicy .effective (unsigned32 .restartPolicy) =
        .ok (.present (restartName restart).2 .present .effective) :=
    (hknown.observed_eq "MaximumRetryCount").trans
      (@observe_unsigned32 _ _ (fun _ => (restartName restart).2) (some ()) fun _ _ => hlt)
  rw [restartPolicy, hobject, ok_bind, hname, ok_bind, hcount, ok_bind]
  rfl

/-- What is decoded of a log configuration: its driver, and one entry for each option. -/
structure LogRead (log : LogConfig) (found : LoggingObservation) : Prop where
  driver : found.driver = readText .effective (asBytes (logDriverName log.driver))
  options : ∃ values, found.options =
      .present values (if log.options.isEmpty then .empty else .present) .effective ∧
    values.Perm (log.options.map fun option => Decoder.readEntry (option.key, option.value))

theorem logging_read {log : LogConfig} (h : LogAccepted log)
    (hlength : log.options.length ≤ maxCollectionItems) :
    ∃ found, logging (Json.normalize (logBody log)) = .ok found ∧ LogRead log found ∧
      Plain (Json.normalize (logBody log)) := by
  have hknown : Known (Json.normalize (logBody log)) _ :=
    Known.ofFields (show ["__docker_lens_redacted__", "Type", "Config"].Nodup by decide)
      (show 2 ≤ maxCollectionItems by decide)
  obtain ⟨members, hobject⟩ := hknown.object_eq .logging
  have hdriver : stringField (Json.normalize (logBody log)) ["Type"] .logging .effective =
      .ok (readText .effective (asBytes (logDriverName log.driver))) :=
    (hknown.observed_eq "Type").trans (observe_fixed _)
  obtain ⟨values, hvalues, hperm⟩ : ∃ values, observeValue .effective
      (fun item => mapEntries item .logging)
      (some (Json.normalize (.object (log.options.map labelEntry)))) =
        .ok (.present values (if log.options.isEmpty then .empty else .present) .effective) ∧
      values.Perm (log.options.map fun option =>
        Decoder.readEntry (option.key, option.value)) := by
    rcases eq_or_ne log.options [] with hempty | hne
    · rw [hempty]
      exact ⟨[], rfl, .nil⟩
    · obtain ⟨found, hfound, -, hcollected⟩ := observe_pairs
        (fun item => mapEntries item .logging) Decoder.readEntry
        (fun _ hkept => mapEntries_texts .logging hkept)
        (fun option (_ : option ∈ log.options) => isUtf8_of_label option.checked) h.keys hlength
      obtain ⟨values, rfl, hperm⟩ := hcollected (by simpa using hne)
      have hempty : log.options.isEmpty = false := List.isEmpty_eq_false_iff.mpr hne
      rw [fieldIf, hempty, if_pos (by rfl)] at hfound
      rw [hempty]
      exact ⟨values, hfound, hperm⟩
  refine ⟨⟨_, _⟩, ?_, ⟨rfl, values, rfl, hperm⟩, @plain_of_known _ _ _ "Type" hknown rfl⟩
  have hoptions : observed (Json.normalize (logBody log)) ["Config"] .logging .effective
      (fun item => mapEntries item .logging) =
        .ok (.present values (if log.options.isEmpty then .empty else .present) .effective) :=
    (hknown.observed_eq "Config").trans hvalues
  rw [logging, hobject, ok_bind, hdriver, ok_bind, hoptions, ok_bind]
  rfl

end Limits

section Mounts

/-- What is read of a relabelled mount. -/
def readBind (mount : Mount) : ProtectedValue :=
  match mount.source, mount.bindRelabel with
  | .bind source, some relabel => bindText source mount relabel
  | _, _ => []

/-- The size limit of a temporary file system. -/
def tmpfsSize : MountSource → Option (NonZero 64)
  | .tmpfs options => options.sizeBytes
  | _ => none

/-- What is read of a structured mount. -/
def readMount (resources : List TargetResource) (mount : Mount) :
    ConfiguredMountObservation where
  kind := readText .effective (asBytes (mountKind mount.source))
  source := readSome .effective (readText .effective) (mountText resources mount.source)
  target := readText .effective mount.target
  readOnly := .present mount.readOnly .present .effective
  bindPropagation := .unavailable .missing .effective
  volumeNoCopy := .unavailable .missing .effective
  tmpfsSizeBytes := readValue (fun size => limitNumber (some size))
    ((tmpfsSize mount.source).map NonZero.get)

theorem bind_read {field : FieldPath} {mount : Mount} (h : mount.bindRelabel.isSome = true) :
    string (Json.normalize (bindBody mount)) field = .ok (readBind mount) := by
  obtain ⟨relabel, hrelabel⟩ := Option.isSome_iff_exists.mp h
  obtain ⟨source, hsource⟩ := bind_of_relabel hrelabel
  obtain ⟨htarget, hpath⟩ := isUtf8_of_mount mount
  rw [bindBody, readBind, hsource, hrelabel]
  exact string_text (isUtf8_bindText (hpath source hsource) htarget)

/-- The size limit stands below the options of a temporary file system, if any is authored. -/
theorem tmpfsSize_read {root : Value} {fields : String → Option Value} {field : FieldPath}
    (h : Known root fields) (mount : Mount)
    (hoptions : fields "TmpfsOptions" =
      ((tmpfsOptions mount.source).map tmpfsBody).map Json.normalize) :
    signedField root ["TmpfsOptions", "SizeBytes"] field .effective =
      .ok (readValue (fun size => limitNumber (some size))
        ((tmpfsSize mount.source).map NonZero.get)) := by
  have hvalid := mount.valid
  cases hcase : mount.source with
  | bind path =>
      rw [hcase] at hoptions
      exact h.observed_none hoptions _
  | volume reference =>
      rw [hcase] at hoptions
      exact h.observed_none hoptions _
  | tmpfs options =>
      rw [hcase] at hoptions hvalid
      simp only [validMount, validTmpfsOptions, Bool.and_eq_true] at hvalid
      have hsize : ∀ size ∈ options.sizeBytes.map NonZero.get, size ≤ maxI64 := by
        intro size hfound
        obtain ⟨authored, hauthored, rfl⟩ := Option.map_eq_some_iff.mp hfound
        have hbound := hvalid.2.1.2
        rw [hauthored] at hbound
        simpa using hbound
      rw [tmpfsOptions] at hoptions
      split at hoptions
      · have hchild : Known (Json.normalize (tmpfsBody options)) _ :=
          Known.ofFields (show ["__docker_lens_redacted__", "SizeBytes", "Mode"].Nodup by decide)
            (show 2 ≤ maxCollectionItems by decide)
        refine (h.observed_some hoptions hchild "SizeBytes").trans ?_
        apply @observe_limit _ _ some
        intro size hfound value hvalue
        exact Option.some.inj hvalue ▸ hsize size hfound
      · next hnone =>
          have habsent : options.sizeBytes = none := by
            rw [Bool.or_eq_true, not_or] at hnone
            simpa using hnone.1
          rw [tmpfsSize, habsent]
          exact h.observed_none hoptions _

theorem configuredMount_read {resources : List TargetResource} (mount : Mount) :
    configuredMount (Json.normalize (mountBody resources mount)) =
      .ok (readMount resources mount) := by
  have hknown : Known (Json.normalize (mountBody resources mount)) _ :=
    Known.ofFields (show ["__docker_lens_redacted__", "Type", "Source", "Target", "ReadOnly",
      "TmpfsOptions"].Nodup by decide) (show 5 ≤ maxCollectionItems by decide)
  obtain ⟨members, hobject⟩ := hknown.object_eq .runtimeMount
  have hkind : stringField (Json.normalize (mountBody resources mount)) ["Type"] .runtimeMount
      .effective = .ok (readText .effective (asBytes (mountKind mount.source))) :=
    (hknown.observed_eq "Type").trans (observe_fixed _)
  have hsource : stringField (Json.normalize (mountBody resources mount)) ["Source"]
      .runtimeMount .effective = .ok (readSome .effective (readText .effective)
        (mountText resources mount.source)) :=
    (hknown.observed_eq "Source").trans (observe_text (isUtf8_mountText mount))
  have htarget : stringField (Json.normalize (mountBody resources mount)) ["Target"]
      .runtimeMount .effective = .ok (readText .effective mount.target) :=
    (hknown.observed_eq "Target").trans (@observe_text _ _ _ (fun _ => mount.target) (some ())
      fun _ _ => (isUtf8_of_mount mount).1)
  have hreadOnly : boolField (Json.normalize (mountBody resources mount)) ["ReadOnly"]
      .runtimeMount .effective = .ok (.present mount.readOnly .present .effective) :=
    (hknown.observed_eq "ReadOnly").trans (observe_bools (some mount.readOnly))
  have hpropagation : stringField (Json.normalize (mountBody resources mount))
      ["BindOptions", "Propagation"] .runtimeMount .effective =
        .ok (.unavailable .missing .effective) :=
    hknown.observed_none rfl _
  have hnoCopy : boolField (Json.normalize (mountBody resources mount))
      ["VolumeOptions", "NoCopy"] .runtimeMount .effective =
        .ok (.unavailable .missing .effective) :=
    hknown.observed_none rfl _
  rw [configuredMount, hobject, ok_bind, hkind, ok_bind, hsource, ok_bind, htarget, ok_bind,
    hreadOnly, ok_bind, hpropagation, ok_bind, hnoCopy, ok_bind,
    tmpfsSize_read hknown mount rfl, ok_bind]
  rfl

end Mounts

end DockerLens.Render
