import Mathlib.Data.List.Basic
import DockerLens.Render.Container
import DockerLens.Render.Spelled

namespace DockerLens.Render

open DockerLens.Text
open DockerLens.Fold
open DockerLens.Target

/-- A rendering that writes no line feed. -/
def OneLine (rendered : Rendered Chars) : Prop := ∀ text, rendered = .ok text → '\n' ∉ text

namespace OneLine

variable {α : Type}

theorem ok {text : Chars} (h : '\n' ∉ text) : OneLine (.ok text) := by
  rintro _ ⟨⟩
  exact h

theorem error {failure : RenderFailure} : OneLine (.error failure) := by
  rintro _ ⟨⟩

theorem push {text : String} (h : '\n' ∉ text.toList) : OneLine (push text) := ok h

theorem bind {result : Rendered α} {rest : α → Rendered Chars} (h : ∀ a, OneLine (rest a)) :
    OneLine (result >>= rest) := by
  intro text htext
  obtain ⟨a, -, hrest⟩ := bind_eq_ok_iff.mp htext
  exact h a text hrest

theorem pushes {parts : List (Rendered Chars)} (h : parts.Forall OneLine) :
    OneLine (pushes parts) := by
  intro text htext
  obtain ⟨texts, htexts, rfl⟩ := map_eq_ok htext
  rw [mapM_eq_ok_iff] at htexts
  rw [List.mem_flatten]
  rintro ⟨part, hpart, hmem⟩
  obtain ⟨rendered, hrendered, hok⟩ := exists_of_forall₂_right htexts hpart
  exact List.forall_iff_forall_mem.mp h rendered hrendered part hok hmem

theorem separated {render : α → Rendered Chars} {values : List α}
    (h : ∀ a ∈ values, OneLine (render a)) : OneLine (separated render values) := by
  intro text htext
  obtain ⟨texts, htexts, rfl⟩ := map_eq_ok htext
  rw [mapM_eq_ok_iff] at htexts
  have hall : ∀ part ∈ texts, '\n' ∉ part := by
    intro part hpart
    obtain ⟨a, ha, hok⟩ := exists_of_forall₂_right htexts hpart
    exact h a ha part hok
  clear htexts htext
  induction texts with
  | nil => simp
  | cons first rest ih =>
      have hrest := ih fun part hpart => hall part (List.mem_cons_of_mem _ hpart)
      have hfirst := hall first List.mem_cons_self
      cases rest with
      | nil => simpa [List.intercalate] using hfirst
      | cons second rest =>
          rw [List.intercalate_cons_cons]
          simp only [List.mem_append, List.mem_singleton, not_or]
          exact ⟨⟨hfirst, by decide⟩, hrest⟩

theorem condition {condition : Bool} {rendered : Rendered Chars} (h : OneLine rendered) :
    OneLine (pushIf condition rendered) := by
  rw [pushIf]
  split
  · exact h
  · exact ok List.not_mem_nil

theorem option {render : α → Rendered Chars} {found : Option α}
    (h : ∀ a, OneLine (render a)) : OneLine (pushSome render found) := by
  cases found with
  | none => exact ok List.not_mem_nil
  | some a => exact h a

theorem not_mem_escape (char : Char) : '\n' ∉ escape char :=
  fun h => absurd (printed_escape char _ h) (by decide)

theorem jsonString {bytes : Bytes} : OneLine (jsonString bytes) := by
  intro text htext
  rw [Render.jsonString] at htext
  split at htext
  · cases htext
  · next value _ =>
      cases htext
      rw [List.cons_append, List.mem_cons, List.mem_append, List.mem_flatMap]
      rintro (h | ⟨char, -, h⟩ | h)
      · revert h
        decide
      · exact not_mem_escape char h
      · revert h
        decide

theorem decimal {value : Nat} : OneLine (.ok (decimal value)) := by
  refine ok fun h => ?_
  have hdigit := Nat.isDigit_of_mem_toDigits (by decide) (by decide) h
  revert hdigit
  decide

theorem pair {key value : Bytes} : OneLine (jsonPair key value) :=
  pushes ⟨jsonString, push (by decide), jsonString⟩

theorem number {text : String} (h : '\n' ∉ text.toList) {value : Option Nat} :
    OneLine (pushNumber text value) := option fun _ => pushes ⟨push h, decimal⟩

theorem string {text : String} (h : '\n' ∉ text.toList) {value : Option Bytes} :
    OneLine (pushString text value) := option fun _ => pushes ⟨push h, jsonString⟩

end OneLine

section Networks

theorem oneLine_pool (pool : NetworkIpamPool) : OneLine (renderPool pool) :=
  .pushes ⟨.push (by decide), .jsonString,
    .option fun _ => .pushes ⟨.push (by decide), .jsonString⟩,
    .option fun _ => .pushes ⟨.push (by decide), .jsonString⟩,
    .condition (.pushes ⟨.push (by decide), .separated fun _ _ => .pair, .push (by decide)⟩),
    .push (by decide)⟩

theorem oneLine_ipam (ipam : NetworkIpam) : OneLine (renderIpam ipam) :=
  .pushes ⟨.push (by decide),
    .option fun _ => .pushes ⟨.push (by decide), .jsonString, .push (by decide)⟩,
    .push (by decide), .separated fun pool _ => oneLine_pool pool, .push (by decide)⟩

theorem oneLine_createOptions (create : NetworkCreate) : OneLine (renderCreateOptions create) :=
  .pushes ⟨.condition (.push (by decide)), .condition (.push (by decide)),
    .option oneLine_ipam,
    .condition (.pushes ⟨.push (by decide), .separated fun _ _ => .pair, .push (by decide)⟩),
    .condition (.pushes ⟨.push (by decide), .separated fun _ _ => .pair, .push (by decide)⟩)⟩

theorem oneLine_network (network : NetworkIntent) : OneLine (renderNetwork network) := by
  rw [renderNetwork]
  split
  · exact .error
  · exact .pushes ⟨.push (by decide), .jsonString, .push (by decide), oneLine_createOptions _,
      .push (by decide)⟩

theorem oneLine_volume (identity : TargetIdentity) (labels : List VolumeLabel) :
    OneLine (renderVolume identity labels) :=
  .pushes ⟨.push (by decide), .jsonString,
    .condition (.pushes ⟨.push (by decide), .separated fun _ _ => .pair, .push (by decide)⟩),
    .push (by decide)⟩

end Networks

section Containers

theorem oneLine_command {key : String} (hexec : '\n' ∉ (",\"" ++ key ++ "\":[").toList)
    (hclear : '\n' ∉ (",\"" ++ key ++ "\":[]").toList) (command : ImageCommand) :
    OneLine (renderImageCommand key command) := by
  cases command with
  | inherit => exact .ok List.not_mem_nil
  | clear => exact .push hclear
  | exec arguments =>
      exact .pushes ⟨.push hexec, .separated fun _ _ => .jsonString, .push (by decide)⟩

theorem oneLine_healthTest (test : HealthTest) : OneLine (renderHealthTest test) := by
  cases test with
  | exec arguments => exact .pushes ⟨.push (by decide), .separated fun _ _ => .jsonString⟩
  | shell command => exact .pushes ⟨.push (by decide), .jsonString⟩
  | disabled => exact .push (by decide)

theorem oneLine_health (health : Healthcheck) : OneLine (renderHealthcheck health) :=
  .pushes ⟨.push (by decide), oneLine_healthTest _, .push (by decide), .number (by decide),
    .number (by decide), .number (by decide), .number (by decide), .number (by decide),
    .push (by decide)⟩

theorem oneLine_config (container : ContainerIntent) : OneLine (renderConfig container) :=
  .pushes ⟨.condition (.pushes ⟨.push (by decide), .separated fun _ _ => .jsonString,
      .push (by decide)⟩),
    oneLine_command (by decide) (by decide) _, oneLine_command (by decide) (by decide) _,
    .option oneLine_health,
    .condition (.pushes ⟨.push (by decide), .separated fun _ _ => .pair, .push (by decide)⟩),
    .string (by decide), .string (by decide), .string (by decide), .string (by decide),
    .number (by decide),
    .condition (.pushes ⟨.push (by decide),
      .separated fun _ _ => .pushes ⟨.jsonString, .push (by decide)⟩, .push (by decide)⟩)⟩

theorem oneLine_binding (binding : HostBinding) : OneLine (renderHostBinding binding) := by
  refine .pushes ⟨.push (by decide), ?_, .push (by decide), .jsonString, .push (by decide)⟩
  cases binding.hostIp with
  | unspecified => exact .ok List.not_mem_nil
  | address address => exact .pushes ⟨.push (by decide), .jsonString, .push (by decide)⟩

theorem oneLine_bind (mount : Mount) : OneLine (renderBind mount) := by
  rw [renderBind]
  split
  · exact .jsonString
  · exact .error

theorem oneLine_tmpfs (options : TmpfsOptions) : OneLine (renderTmpfsOptions options) :=
  .condition (.pushes ⟨.push (by decide), .number (by decide),
    .option fun _ => .pushes ⟨.condition (.push (by decide)), .push (by decide), .decimal⟩,
    .push (by decide)⟩)

theorem oneLine_flag {yes no : String} (hyes : '\n' ∉ yes.toList) (hno : '\n' ∉ no.toList)
    (flag : Bool) : OneLine (push (if flag then yes else no)) := by
  cases flag with
  | true => exact .push hyes
  | false => exact .push hno

theorem oneLine_mount (resources : List TargetResource) (mount : Mount) :
    OneLine (renderMount resources mount) := by
  refine .bind fun (kind, source) => .pushes ⟨.push (by decide), .jsonString, .string (by decide),
    .push (by decide), .jsonString, oneLine_flag (by decide) (by decide) _, ?_, .push (by decide)⟩
  cases mount.source with
  | tmpfs options => exact oneLine_tmpfs options
  | _ => exact .ok List.not_mem_nil

theorem oneLine_limit (limit : Option Nat) : OneLine (.ok (signedLimit limit)) := by
  cases limit with
  | none => exact .ok (by decide)
  | some value =>
      rw [signedLimit]
      split
      · exact .decimal
      · refine .ok fun h => ?_
        rcases List.mem_cons.mp h with h | h
        · revert h
          decide
        · exact OneLine.decimal _ rfl h

theorem oneLine_ulimitValue (value : UlimitValue) : OneLine (.ok (ulimitValue value)) := by
  cases value with
  | unlimited => exact oneLine_limit none
  | value value => exact oneLine_limit (some value.toNat)

theorem oneLine_pidsValue (pids : PidsLimit) : OneLine (.ok (pidsValue pids)) := by
  cases pids with
  | unlimited => exact oneLine_limit none
  | count value => exact oneLine_limit (some value.get)

theorem oneLine_portBindings (port : PortPublication) : OneLine (renderPortBindings port) :=
  .pushes ⟨.jsonString, .push (by decide), .separated fun binding _ => oneLine_binding binding,
    .push (by decide)⟩

theorem oneLine_restart (restart : RestartPolicy) : OneLine (renderRestart restart) :=
  .pushes ⟨.push (by decide), .jsonString, .push (by decide), .decimal, .push (by decide)⟩

theorem oneLine_ulimit (limit : Ulimit) : OneLine (renderUlimit limit) :=
  .pushes ⟨.push (by decide), .jsonString, .push (by decide), oneLine_ulimitValue _,
    .push (by decide), oneLine_ulimitValue _, .push (by decide)⟩

theorem oneLine_device (device : DeviceMapping) : OneLine (renderDevice device) :=
  .pushes ⟨.push (by decide), .jsonString, .push (by decide), .jsonString, .push (by decide),
    .jsonString, .push (by decide)⟩

theorem oneLine_log (log : LogConfig) : OneLine (renderLogConfig log) :=
  .pushes ⟨.push (by decide), .jsonString, .push (by decide), .separated fun _ _ => .pair,
    .push (by decide)⟩

theorem oneLine_after {text : String} (h : '\n' ∉ text.toList) {part : Rendered Chars}
    (hpart : OneLine part) : OneLine (pushes [push text, part]) :=
  .pushes ⟨.push h, hpart⟩

/-- A member of the host configuration, if there is one, writes no line feed. -/
def OneLineMember : Option (Rendered Chars) → Prop
  | none => True
  | some rendered => OneLine rendered

theorem oneLine_list {α : Type} {before after : String} (hbefore : '\n' ∉ before.toList)
    (hafter : '\n' ∉ after.toList) {render : α → Rendered Chars} (h : ∀ a, OneLine (render a))
    {values : List α} : OneLineMember (hostList before after render values) := by
  rw [hostList]
  split
  · trivial
  · exact .pushes ⟨.push hbefore, .separated fun a _ => h a, .push hafter⟩

theorem oneLine_map {α : Type} {render : α → Rendered Chars} (h : ∀ a, OneLine (render a))
    {found : Option α} : OneLineMember (found.map render) := by
  cases found with
  | none => trivial
  | some a => exact h a

theorem oneLine_strings {α : Type} {key : String} (hkey : '\n' ∉ ("\"" ++ key ++ "\":[").toList)
    {text : α → Bytes} {values : List α} : OneLineMember (hostStrings key text values) :=
  oneLine_list hkey (by decide) fun _ => .jsonString

theorem oneLine_hostFields (container : ContainerIntent) (resources : List TargetResource) :
    (hostFields container resources).Forall OneLineMember := by
  exact ⟨oneLine_list (by decide) (by decide) oneLine_portBindings,
    oneLine_list (by decide) (by decide) oneLine_bind,
    oneLine_list (by decide) (by decide) (oneLine_mount resources),
    oneLine_map fun _ => .bind fun _ => oneLine_after (by decide) .jsonString,
    oneLine_map oneLine_restart,
    oneLine_map (oneLine_flag (by decide) (by decide)),
    oneLine_map (oneLine_flag (by decide) (by decide)),
    oneLine_map fun _ => oneLine_after (by decide) .decimal,
    oneLine_map fun pids => oneLine_after (by decide) (oneLine_pidsValue pids),
    oneLine_map fun _ => oneLine_after (by decide) .decimal,
    oneLine_list (by decide) (by decide) oneLine_ulimit,
    oneLine_list (by decide) (by decide) oneLine_device,
    oneLine_strings (by decide), oneLine_strings (by decide), oneLine_strings (by decide),
    oneLine_list (by decide) (by decide) fun _ => .pair,
    oneLine_strings (by decide), oneLine_strings (by decide), oneLine_strings (by decide),
    oneLine_map oneLine_log,
    oneLine_map fun _ => oneLine_after (by decide) .jsonString⟩

theorem oneLine_hostConfig (container : ContainerIntent) (resources : List TargetResource) :
    OneLine (renderHostConfig container resources) := by
  intro text htext
  obtain ⟨body, hbody, rfl⟩ := map_eq_ok htext
  have hfields := List.forall_iff_forall_mem.mp (oneLine_hostFields container resources)
  generalize hostFields container resources = fields at hbody hfields
  have hall : (∀ field ∈ fields, OneLineMember field) → '\n' ∉ body.text := by
    refine foldlM_induction (motive := fun consumed (body : HostBody) =>
      (∀ field ∈ consumed, OneLineMember field) → '\n' ∉ body.text) ?_ (fun _ => by simp) hbody
    intro consumed state field next hstate hnext hmembers
    have hbefore := hstate fun field hfield => hmembers field (List.mem_append_left _ hfield)
    cases field with
    | none =>
        cases hnext
        exact hbefore
    | some rendered =>
        have hline : OneLine rendered := hmembers (some rendered) (by simp)
        obtain ⟨text, htext, hnext⟩ := bind_eq_ok_iff.mp hnext
        cases hnext
        simp only [List.mem_append, not_or]
        refine ⟨⟨hbefore, ?_⟩, hline text htext⟩
        split <;> decide
  exact hall hfields

theorem oneLine_endpoint (attachment : NetworkAttachmentIntent) :
    OneLine (renderEndpoint attachment) :=
  .pushes ⟨.push (by decide),
    .condition (.pushes ⟨.push (by decide), .separated fun _ _ => .jsonString,
      .push (by decide)⟩),
    .condition (.pushes ⟨.condition (.push (by decide)), .push (by decide), .string (by decide),
      .option fun _ => .pushes ⟨.condition (.push (by decide)), .push (by decide), .jsonString⟩,
      .push (by decide)⟩),
    .push (by decide)⟩

theorem oneLine_container (container : ContainerIntent) (resources : List TargetResource) :
    OneLine (renderContainer container resources) :=
  .pushes ⟨.push (by decide), .jsonString, oneLine_config container, .push (by decide),
    oneLine_hostConfig container resources, .push (by decide),
    .option fun attachment => .bind fun _ => .pushes ⟨.push (by decide), .jsonString,
      .push (by decide), oneLine_endpoint attachment, .push (by decide)⟩,
    .push (by decide)⟩

theorem oneLine_connection {container : ContainerIntent} {attachment : NetworkAttachmentIntent}
    {resources : List TargetResource} {path body : Chars}
    (h : renderSecondaryConnection container attachment resources = .ok (path, body)) :
    '\n' ∉ body := by
  rw [renderSecondaryConnection] at h
  obtain ⟨network, -, h⟩ := bind_eq_ok_iff.mp h
  obtain ⟨text, htext, h⟩ := bind_eq_ok_iff.mp h
  injection h with h
  injection h with _ h
  subst h
  have hline : OneLine (pushes [push "\x7b\"Container\":", jsonString container.identity.bytes,
      push ",\"EndpointConfig\":", renderEndpoint attachment, push "\x7d"]) :=
    .pushes ⟨.push (by decide), .jsonString, .push (by decide), oneLine_endpoint attachment,
      .push (by decide)⟩
  exact hline _ htext

end Containers

end DockerLens.Render
