import DockerLens.Decimal
import DockerLens.Json.Reading
import DockerLens.Render.Emitted

namespace DockerLens.Render

open DockerLens.Text
open DockerLens.Json
open DockerLens.Fold
open DockerLens.Target

/-- A positive `u64` in decimal digits and a unit: `[0-9]+[kmg]`. -/
inductive LogSize : Bytes → Prop
  | mk (digits : Bytes) (unit : UInt8) (decimal : AsciiDigits digits)
      (positive : 0 < decimalValue digits) (fits : decimalValue digits < 2 ^ 64)
      (named : unit = 107 ∨ unit = 109 ∨ unit = 103) : LogSize (digits ++ [unit])

theorem LogSize.parts {digits : Bytes} {unit : UInt8} (h : LogSize (digits ++ [unit])) :
    AsciiDigits digits ∧ 0 < decimalValue digits ∧ decimalValue digits < 2 ^ 64 ∧
      (unit = 107 ∨ unit = 109 ∨ unit = 103) := by
  generalize hvalue : digits ++ [unit] = value at h
  cases h with
  | mk digits' unit' decimal positive fits named =>
      obtain ⟨rfl, hlast⟩ := List.append_inj' hvalue rfl
      obtain rfl := List.singleton_inj.mp hlast
      exact ⟨decimal, positive, fits, named⟩

theorem LogSize.head_ne_plus {value : Bytes} (h : LogSize value) : value.head? ≠ some 43 := by
  intro hhead
  cases h with
  | mk digits unit decimal =>
      rw [List.head?_append_of_ne_nil digits decimal.nonempty] at hhead
      exact absurd (decimal.digit 43 (List.mem_of_mem_head? hhead)).1 (by decide)

/-- The check accepts a log size, also behind the plus sign that the standard parser takes. -/
theorem validLogMaxSize_iff {value : Bytes} :
    validLogMaxSize value = true ↔ LogSize value ∨ ∃ size, LogSize size ∧ value = 43 :: size := by
  rcases List.eq_nil_or_concat value with rfl | ⟨digits, unit, rfl⟩
  · constructor
    · intro h
      cases h
    · rintro (h | ⟨size, -, h⟩)
      · generalize hnil : ([] : Bytes) = value at h
        cases h
        simp at hnil
      · cases h
  · rw [List.concat_eq_append, validLogMaxSize, List.getLast?_concat]
    dsimp only
    rw [List.dropLast_concat]
    simp only [Bool.and_eq_true, Bool.or_eq_true, beq_iff_eq, Bool.not_eq_true',
      List.isEmpty_eq_false_iff, or_assoc]
    have hsigned : (LogSize (digits ++ [unit]) ∨
        ∃ size, LogSize size ∧ digits ++ [unit] = 43 :: size) ↔
        ∃ decimal, (digits = decimal ∨ digits = 43 :: decimal) ∧ LogSize (decimal ++ [unit]) := by
      constructor
      · rintro (h | ⟨size, h, hvalue⟩)
        · exact ⟨digits, .inl rfl, h⟩
        · cases h with
          | mk decimal unit' hdecimal hpositive hfits hunit =>
              obtain ⟨rfl, hlast⟩ := List.append_inj' (hvalue.trans (List.cons_append).symm) rfl
              exact ⟨decimal, .inr rfl, hlast ▸ .mk decimal unit' hdecimal hpositive hfits hunit⟩
      · rintro ⟨decimal, rfl | rfl, h⟩
        · exact .inl h
        · exact .inr ⟨_, h, rfl⟩
    rw [hsigned]
    constructor
    · rintro ⟨⟨hunit, -⟩, hparse⟩
      obtain ⟨number, hnumber, hpositive⟩ := (Option.any_eq_true _ _).mp hparse
      obtain ⟨decimal, hsign, hdecimal, rfl, hmax⟩ := parseUnsigned_bytes_iff.mp hnumber
      refine ⟨decimal, hsign, .mk decimal unit hdecimal ?_ ?_ hunit⟩
      · exact Nat.pos_of_ne_zero (by simpa using hpositive)
      · omega
    · rintro ⟨decimal, hsign, hsize⟩
      obtain ⟨hdecimal, hpositive, hfits, hunit⟩ := hsize.parts
      refine ⟨⟨hunit, ?_⟩, (Option.any_eq_true _ _).mpr ⟨decimalValue decimal,
        parseUnsigned_bytes_iff.mpr ⟨decimal, hsign, hdecimal, rfl, by omega⟩, ?_⟩⟩
      · rcases hsign with rfl | rfl
        · exact hdecimal.nonempty
        · exact List.cons_ne_nil 43 decimal
      · simpa using Nat.ne_of_gt hpositive

/-- The log configuration in the body that creates a container. -/
def readLog (resources : List TargetResource) (container : ContainerIntent) : Option Value := do
  let body ← (renderContainer container resources).toOption
  let document ← fromSlice (asBytes (String.ofList body))
  let host ← document.get "HostConfig"
  host.get "LogConfig"

/-- A log configuration with at most the option `max-size`, of the driver `json-file`. -/
def SizedLog (log : Value) : Prop :=
  ∃ options, log.get "Config" = some (.object options) ∧ options.length ≤ 1 ∧
    ∀ option ∈ options, log.get "Type" = some (.string "json-file") ∧ option.1 = "max-size" ∧
      ∃ size, option.2 = .string size ∧ LogSize (asBytes size)

theorem readLog_eq {resources : List TargetResource} {container : ContainerIntent}
    (h : Renderable resources container) :
    readLog resources container =
      container.settings.logConfig.map fun log => Json.normalize (logBody log) := by
  obtain ⟨body, hbody, hspells⟩ := spells_container h
  have hlog : (Json.normalize (fieldsObject (hostConfigFields resources container))).get
      "LogConfig" = container.settings.logConfig.map fun log => Json.normalize (logBody log) := by
    rw [get_normalize_fields keys_hostConfig]
    simp [hostConfigFields, List.lookup_cons, Function.comp_def]
  rw [readLog, hbody, Except.toOption, Option.bind_eq_bind, Option.bind_some,
    fromSlice_of_spells hspells, Option.bind_eq_bind, Option.bind_some, get_hostConfig,
    Option.bind_some, hlog]

theorem options_of_accepted {log : LogConfig} (h : LogAccepted log) :
    log.options = [] ∨ ∃ option, log.options = [option] ∧ LogOptionAccepted log.driver option := by
  obtain ⟨-, hoptions, hkeys⟩ := h
  rcases log with ⟨driver, _ | ⟨first, _ | ⟨second, rest⟩⟩⟩
  · exact .inl rfl
  · exact .inr ⟨first, rfl, hoptions first List.mem_cons_self⟩
  · have hfirst := (hoptions first List.mem_cons_self).2.1
    have hsecond := (hoptions second (List.mem_cons_of_mem _ List.mem_cons_self)).2.1
    simp [hfirst, hsecond] at hkeys

/-- The rendered options of an accepted log configuration are in the grammar exactly when none of
them carries a plus sign. -/
theorem sizedLog_iff {log : LogConfig} (h : LogAccepted log) :
    SizedLog (Json.normalize (logBody log)) ↔
      ∀ option ∈ log.options, option.value.head? ≠ some 43 := by
  have hget : ∀ key, (Json.normalize (logBody log)).get key =
      (([("Type", some (.string (logDriverName log.driver))),
        ("Config", some (.object (log.options.map labelEntry)))].lookup key).join).map
          Json.normalize :=
    get_normalize_fields (show ["Type", "Config"].Nodup by decide)
  rw [SizedLog, hget, hget]
  rcases options_of_accepted h with hnone | ⟨option, hsome, hdriver, hkey, hvalue⟩
  · rw [hnone]
    simp [List.lookup_cons, Json.normalize, sortMembers]
  · have hutf8 := (isUtf8_of_label option.checked).2
    have hentry : labelEntry option = ("max-size", .string (decoded option.value)) := by
      rw [labelEntry, pairEntry, hkey, decoded_asBytes, stringValue]
    have hconfig : Json.normalize (.object [labelEntry option]) =
        .object [("max-size", .string (decoded option.value))] := by
      rw [hentry]
      simp [Json.normalize, sortMembers, insertMember]
    rw [hsome, List.forall_mem_singleton]
    constructor
    · rintro ⟨options, hoptions, -, hall⟩
      have hmem : options = [("max-size", .string (decoded option.value))] := by
        simpa [List.lookup_cons, hconfig, eq_comm] using hoptions
      rw [hmem, List.forall_mem_singleton] at hall
      obtain ⟨-, -, size, hsize, hgrammar⟩ := hall
      obtain rfl := Value.string.inj hsize
      rw [asBytes_decoded hutf8] at hgrammar
      exact hgrammar.head_ne_plus
    · intro hplain
      refine ⟨[("max-size", .string (decoded option.value))],
        by simp [List.lookup_cons, hconfig], Nat.le_refl 1, ?_⟩
      rw [List.forall_mem_singleton]
      refine ⟨by simp [hdriver, logDriverName], rfl, _, rfl, ?_⟩
      rw [asBytes_decoded hutf8]
      rcases validLogMaxSize_iff.mp hvalue with hsize | ⟨size, -, hsigned⟩
      · exact hsize
      · exact absurd (congrArg List.head? hsigned) hplain

/-- The size check takes the grammar and no more exactly on what is no signed size, and a rendered
log is in the grammar exactly when no size is signed. -/
theorem log_size_grammar_iff (value : Bytes) (intent : TargetIntent) :
    ((validLogMaxSize value = true ↔ LogSize value) ↔
      ¬∃ size, LogSize size ∧ value = 43 :: size) ∧
    ∀ hash capabilities nodes graph,
      OperationGraph.new hash intent capabilities nodes = .ok graph →
      ∀ container, .container container ∈ intent.resources →
        ((∀ log ∈ readLog intent.resources container, SizedLog log) ↔
          ∀ log ∈ container.settings.logConfig, ∀ option ∈ log.options,
            option.value.head? ≠ some 43) := by
  refine ⟨?_, ?_⟩
  · rw [validLogMaxSize_iff]
    constructor
    · intro h hsigned
      obtain ⟨size, hsize, rfl⟩ := hsigned
      exact (h.mp (.inr ⟨size, hsize, rfl⟩)).head_ne_plus rfl
    · intro hplain
      exact ⟨fun h => h.resolve_right hplain, .inl⟩
  · intro hash capabilities nodes graph h container hcontainer
    have hrenderable : Renderable intent.resources container :=
      renderable_of_planned (OperationGraph.new_eq_ok_iff.mp h).1 hcontainer
    have haccepted : ContainerAccepted intent.resources container :=
      intent.accepted.each _ hcontainer
    rw [readLog_eq hrenderable]
    cases hlog : container.settings.logConfig with
    | none => simp
    | some log =>
        have hlog : LogAccepted log := haccepted.settings.logConfig log hlog
        simpa using sizedLog_iff hlog

/-- A container that logs through `json-file` with one size. -/
def loggingContainer (size : ContainerLabel) : ContainerIntent where
  reference := ⟨1⟩
  identity := ⟨asBytes "web", validIdentity_web⟩
  image := ⟨asBytes "nginx", validImage_nginx⟩
  environment := []
  ports := []
  mounts := []
  networks := []
  entrypoint := .inherit
  command := .inherit
  healthcheck := none
  restart := none
  settings := { ContainerSettings.default with logConfig := some ⟨.jsonFile, [size]⟩ }

theorem log_size_grammar_iff_ten :
    ∀ log ∈ readLog [.container (loggingContainer
        ⟨asBytes "max-size", asBytes "10m", by decide +kernel⟩)]
      (loggingContainer ⟨asBytes "max-size", asBytes "10m", by decide +kernel⟩), SizedLog log := by
  obtain ⟨graph, hgraph⟩ := exists_of_isOk (show (OperationGraph.new ⟨id, fun _ => .refl _⟩
    ⟨[.container (loggingContainer ⟨asBytes "max-size", asBytes "10m", by decide +kernel⟩)],
      by decide +kernel⟩ anyCapability [planNode (.container (loggingContainer
        ⟨asBytes "max-size", asBytes "10m", by decide +kernel⟩))]).isOk = true by decide +kernel)
  exact ((log_size_grammar_iff (asBytes "10m") _).2 _ _ _ graph hgraph _ List.mem_cons_self).mpr
    (by decide +kernel)

/-- A size with a plus sign is accepted, and the rendered container carries it. -/
theorem plus_log_size :
    (validLogMaxSize (asBytes "+10m") = true ∧ ¬LogSize (asBytes "+10m")) ∧
    ¬∀ hash intent capabilities nodes graph,
      OperationGraph.new hash intent capabilities nodes = .ok graph →
      ∀ container, .container container ∈ intent.resources →
        ∀ log ∈ readLog intent.resources container, SizedLog log := by
  refine ⟨⟨by decide +kernel, fun h => h.head_ne_plus (by decide +kernel)⟩, ?_⟩
  intro h
  obtain ⟨graph, hgraph⟩ := exists_of_isOk (show (OperationGraph.new ⟨id, fun _ => .refl _⟩
    ⟨[.container (loggingContainer ⟨asBytes "max-size", asBytes "+10m", by decide +kernel⟩)],
      by decide +kernel⟩ anyCapability [planNode (.container (loggingContainer
        ⟨asBytes "max-size", asBytes "+10m", by decide +kernel⟩))]).isOk = true by decide +kernel)
  have hlogs := h _ _ _ _ graph hgraph _ List.mem_cons_self
  have hrenderable := renderable_of_planned (OperationGraph.new_eq_ok_iff.mp hgraph).1
    (@List.mem_cons_self _ _ [])
  rw [readLog_eq hrenderable] at hlogs
  have hsized := hlogs _ (Option.mem_some_self _)
  have haccepted : LogAccepted ⟨.jsonFile, [⟨asBytes "max-size", asBytes "+10m",
      by decide +kernel⟩]⟩ := by
    refine ⟨by decide, ?_, by decide +kernel⟩
    rw [List.forall_mem_singleton]
    exact ⟨rfl, rfl, by decide +kernel⟩
  exact (sizedLog_iff haccepted).mp hsized _ List.mem_cons_self (by decide +kernel)

end DockerLens.Render
