import Mathlib.Data.List.Nodup
import DockerLens.Lexical
import DockerLens.Target.Accepted

namespace DockerLens.Target

open DockerLens.Text
open DockerLens.Lexical

/-- What a component between two slashes does. -/
def component (text : Bytes) : Component Bytes :=
  if text = [] ∨ text = asBytes "." then .stay
  else if text = asBytes ".." then .parent
  else .name text

/-- The components of a path. -/
def components (path : Bytes) : List (Component Bytes) :=
  (path.splitOnP (· == 47)).map component

theorem lexicalAbsolutePathKey_eq_resolve (path : Bytes) :
    lexicalAbsolutePathKey path = resolve (components path) := by
  rw [lexicalAbsolutePathKey, resolve, components, List.foldl_map]
  congr 1
  funext place text
  rw [component]
  split
  · rfl
  · split <;> rfl

theorem lexicalAbsolutePathKey_eq_iff {path : Bytes} {names : List Bytes} :
    lexicalAbsolutePathKey path = names ↔
      Relation.ReflTransGen Shortens (components path) (names.map .name) := by
  rw [lexicalAbsolutePathKey_eq_resolve, resolve_eq_iff]

/-- A path that is cleaned until only names are left. -/
def NormalForm (path : Bytes) (names : List Bytes) : Prop :=
  Relation.ReflTransGen Shortens (components path) (names.map .name)

/-- What may stand between two slashes of a clean path. -/
structure PlainName (name : Bytes) : Prop where
  nonempty : name ≠ []
  not_dot : name ≠ asBytes "."
  not_parent : name ≠ asBytes ".."
  no_slash : 47 ∉ name

theorem component_eq_name_iff {text name : Bytes} :
    component text = .name name ↔
      text = name ∧ name ≠ [] ∧ name ≠ asBytes "." ∧ name ≠ asBytes ".." := by
  rw [component]
  split
  · next hstay =>
      constructor
      · intro h
        cases h
      · rintro ⟨rfl, hne, hdot, -⟩
        exact absurd hstay (not_or.mpr ⟨hne, hdot⟩)
  split
  · next hparent =>
      constructor
      · intro h
        cases h
      · rintro ⟨rfl, -, -, hne⟩
        exact absurd hparent hne
  · next hstay hparent =>
      rw [not_or] at hstay
      constructor
      · intro h
        obtain rfl := Component.name.inj h
        exact ⟨rfl, hstay.1, hstay.2, hparent⟩
      · rintro ⟨rfl, -⟩
        rfl

theorem not_mem_of_splitOn {separator : UInt8} {bytes part : Bytes}
    (h : part ∈ bytes.splitOn separator) : separator ∉ part := by
  induction bytes generalizing part with
  | nil =>
      rw [List.splitOn_nil, List.mem_singleton] at h
      rw [h]
      exact List.not_mem_nil
  | cons byte bytes ih =>
      rw [List.splitOn_cons_eq_if_modifyHead] at h
      split at h
      · rcases List.mem_cons.mp h with rfl | h
        · exact List.not_mem_nil
        · exact ih h
      · next hbyte =>
          obtain ⟨first, rest, hsplit⟩ :=
            List.exists_cons_of_ne_nil (List.splitOn_ne_nil separator bytes)
          rw [hsplit, List.modifyHead_cons, List.mem_cons] at h
          rw [hsplit] at ih
          rcases h with rfl | h
          · rw [List.mem_cons, not_or]
            refine ⟨fun heq => hbyte ?_, ih List.mem_cons_self⟩
            rw [heq]
            exact beq_self_eq_true byte
          · exact ih (List.mem_cons_of_mem _ h)

theorem plainName_of_key {path name : Bytes} (h : name ∈ lexicalAbsolutePathKey path) :
    PlainName name := by
  rw [lexicalAbsolutePathKey_eq_resolve] at h
  obtain ⟨text, htext, hname⟩ := List.mem_map.mp (mem_resolve h)
  obtain ⟨rfl, hne, hdot, hparent⟩ := component_eq_name_iff.mp hname
  exact ⟨hne, hdot, hparent, not_mem_of_splitOn htext⟩

theorem lexicalAbsolutePathKey_intercalate {names : List Bytes}
    (h : ∀ name ∈ names, PlainName name) :
    lexicalAbsolutePathKey ([47].intercalate names) = names := by
  rw [lexicalAbsolutePathKey_eq_resolve, components]
  rcases List.eq_nil_or_concat names with rfl | ⟨init, last, rfl⟩
  · rfl
  · rw [← List.splitOn_eq_splitOnP,
      List.splitOn_intercalate 47 (fun name hname => (h name hname).no_slash) (by simp)]
    have hnames : (init.concat last).map component = (init.concat last).map .name := by
      apply List.map_congr_left
      intro name hname
      have hplain := h name hname
      exact component_eq_name_iff.mpr ⟨rfl, hplain.nonempty, hplain.not_dot, hplain.not_parent⟩
    rw [hnames, resolve_names]

theorem lexicalAbsolutePathKey_slash (path : Bytes) :
    lexicalAbsolutePathKey (47 :: path) = lexicalAbsolutePathKey path := by
  rw [lexicalAbsolutePathKey, lexicalAbsolutePathKey, List.splitOnP_cons_eq_if_modifyHead]
  rfl

/-- Two paths have one key exactly when they have one normal form; a key is made of plain names,
and the path that they make has that key again. -/
theorem lexical_key_normal :
    (∀ left right, lexicalAbsolutePathKey left = lexicalAbsolutePathKey right ↔
      ∃ names, NormalForm left names ∧ NormalForm right names) ∧
    (∀ path, ∃! names, NormalForm path names) ∧
    (∀ path, ∀ name ∈ lexicalAbsolutePathKey path, PlainName name) ∧
    ∀ path, lexicalAbsolutePathKey ([47].intercalate (lexicalAbsolutePathKey path)) =
        lexicalAbsolutePathKey path ∧
      lexicalAbsolutePathKey (47 :: [47].intercalate (lexicalAbsolutePathKey path)) =
        lexicalAbsolutePathKey path := by
  refine ⟨?_, ?_, fun _ _ => plainName_of_key, ?_⟩
  · intro left right
    constructor
    · intro h
      exact ⟨lexicalAbsolutePathKey right, lexicalAbsolutePathKey_eq_iff.mp h,
        lexicalAbsolutePathKey_eq_iff.mp rfl⟩
    · rintro ⟨names, hleft, hright⟩
      rw [lexicalAbsolutePathKey_eq_iff.mpr hleft, lexicalAbsolutePathKey_eq_iff.mpr hright]
  · intro path
    refine ⟨lexicalAbsolutePathKey path, lexicalAbsolutePathKey_eq_iff.mp rfl, ?_⟩
    intro names hnames
    exact (lexicalAbsolutePathKey_eq_iff.mpr hnames).symm
  · intro path
    rw [lexicalAbsolutePathKey_slash]
    have hkey := lexicalAbsolutePathKey_intercalate fun name => @plainName_of_key path name
    exact ⟨hkey, hkey⟩

def devicePaths (container : ContainerIntent) : List Bytes :=
  container.settings.devices.map (·.containerPath.bytes)

/-- The places in a container that are mounted or are devices. -/
def destinations (container : ContainerIntent) : List Bytes :=
  container.mounts.map Mount.target ++ devicePaths container

theorem distinctMounts_iff {container : ContainerIntent} :
    distinctMounts container = true ↔
      ((container.mounts.map Mount.target).map lexicalAbsolutePathKey).Nodup ∧
        ∀ mount ∈ container.mounts.map Mount.target, ∀ device ∈ devicePaths container,
          lexicalAbsolutePathKey mount ≠ lexicalAbsolutePathKey device := by
  rw [distinctMounts]
  simp only [Bool.and_eq_true, decide_eq_true_eq, Bool.not_eq_true', List.any_eq_false,
    List.contains_iff_mem, List.mem_map, List.map_map, Function.comp_def, devicePaths,
    forall_exists_index, and_imp, forall_apply_eq_imp_iff₂, not_exists, not_and, ne_eq]
  apply and_congr_right
  intro _
  exact ⟨fun h mount hmount device hdevice => h device hdevice mount hmount,
    fun h device hdevice mount hmount => h mount hmount device hdevice⟩

/-- The destinations of an accepted container are different places, once those of its devices
are: two devices are told apart by the bytes of their paths only. -/
theorem TargetIntent.destinations_nodup_iff {intent : TargetIntent} {container : ContainerIntent}
    (h : .container container ∈ intent.resources) :
    ((destinations container).map lexicalAbsolutePathKey).Nodup ↔
      ∀ left ∈ devicePaths container, ∀ right ∈ devicePaths container,
        lexicalAbsolutePathKey left = lexicalAbsolutePathKey right → left = right := by
  have haccepted : ContainerAccepted intent.resources container := intent.accepted.each _ h
  obtain ⟨hmounts, hmixed⟩ := distinctMounts_iff.mp haccepted.mounts
  have hpaths : (devicePaths container).Nodup := haccepted.settings.devicePaths
  have hdevices : ((devicePaths container).map lexicalAbsolutePathKey).Nodup ↔ _ :=
    List.nodup_map_iff_inj_on hpaths
  rw [destinations, List.map_append, List.nodup_append, ← hdevices]
  constructor
  · exact fun hall => hall.2.1
  · intro hkeys
    refine ⟨hmounts, hkeys, ?_⟩
    intro key hkey other hother
    obtain ⟨mount, hmount, rfl⟩ := List.mem_map.mp hkey
    obtain ⟨device, hdevice, rfl⟩ := List.mem_map.mp hother
    exact hmixed mount hmount device hdevice

/-- A container with one mount and two devices. -/
def consoleContainer (left right : WorkingDirectory) : ContainerIntent where
  reference := ⟨1⟩
  identity := ⟨asBytes "console", by decide +kernel⟩
  image := ⟨asBytes "busybox", by decide +kernel⟩
  environment := []
  ports := []
  mounts := [⟨.bind (asBytes "/srv"), asBytes "/x/../data", false, none, by decide +kernel⟩]
  networks := []
  entrypoint := .inherit
  command := .inherit
  healthcheck := none
  restart := none
  settings := { ContainerSettings.default with
    devices := [⟨⟨asBytes "/dev/tty1", by decide +kernel⟩, left, ⟨true, false, false⟩⟩,
      ⟨⟨asBytes "/dev/tty2", by decide +kernel⟩, right, ⟨true, false, false⟩⟩] }

theorem destinations_nodup_iff_console :
    ((destinations (consoleContainer ⟨asBytes "/dev/a", by decide +kernel⟩
      ⟨asBytes "/dev/b", by decide +kernel⟩)).map lexicalAbsolutePathKey).Nodup := by
  have hchecked : checkResources [.container (consoleContainer
      ⟨asBytes "/dev/a", by decide +kernel⟩ ⟨asBytes "/dev/b", by decide +kernel⟩)] .standalone =
      .ok () := by
    decide +kernel
  exact (@TargetIntent.destinations_nodup_iff ⟨_, hchecked⟩ _ List.mem_cons_self).mpr
    (by decide +kernel)

/-- Two devices of an accepted container stand at one place under two spellings. -/
theorem destinations_not_nodup :
    ¬∀ (intent : TargetIntent) (container : ContainerIntent),
      .container container ∈ intent.resources →
        ((destinations container).map lexicalAbsolutePathKey).Nodup := by
  intro h
  have hchecked : checkResources [.container (consoleContainer
      ⟨asBytes "/dev/a", by decide +kernel⟩ ⟨asBytes "/dev//a", by decide +kernel⟩)] .standalone =
      .ok () := by
    decide +kernel
  exact absurd (h ⟨_, hchecked⟩ _ List.mem_cons_self) (by decide +kernel)

end DockerLens.Target
