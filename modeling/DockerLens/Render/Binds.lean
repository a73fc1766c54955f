import DockerLens.Decoder.MountMode
import DockerLens.Render.NetworkMode
import DockerLens.Render.Steps
import DockerLens.Target.Destinations

namespace DockerLens.Render

open DockerLens.Text
open DockerLens.Json
open DockerLens.Fold
open DockerLens.Observation
open DockerLens.Target

/-- The name and the body of a request that creates a container. -/
def createdBy (path : Chars) (request : Chars × Value) : Option (Bytes × Value) :=
  let before := path ++ "containers/create?name=".toList
  if before.isPrefixOf request.1 then
    some (asBytes (String.ofList (request.1.drop before.length)), request.2)
  else none

/-- The entries of a list of the host configuration. -/
def hostEntries (key : String) (body : Value) : List Value :=
  (((body.get "HostConfig").bind (Value.get · key)).bind Value.asArray).getD []

/-- The mounts of a container that are relabelled, with their places in all of its mounts. -/
def relabelledAt (container : ContainerIntent) : List (Mount × Nat) :=
  container.mounts.zipIdx.filter fun entry => entry.1.bindRelabel.isSome

/-- An obligation is that of a mount. -/
structure Owes (container : ContainerIntent) (entry : Mount × Nat)
    (bind : BindSourcePrerequisite) : Prop where
  reference : bind.reference = container.reference
  identity : bind.identity = container.identity.bytes
  mountIndex : bind.mountIndex = entry.2
  authored : container.mounts[bind.mountIndex]? = some entry.1
  source : entry.1.source = .bind bind.source
  target : entry.1.target = bind.target
  readOnly : entry.1.readOnly = bind.readOnly
  relabel : entry.1.bindRelabel = some bind.relabel

/-- The access that the decoder reads for a mount. -/
def accessOf (readOnly : Bool) : Decoder.MountAccess :=
  if readOnly then .readOnly else .readWrite

/-- A legacy bind says what an obligation does. -/
def Carries (bind : BindSourcePrerequisite) (entry : Value) : Prop :=
  ∃ text mode, entry = .string text ∧
    (asBytes text).splitOnP (· == 58) = [bind.source, bind.target, mode] ∧
    ∀ field, Decoder.MountMode.parse mode field =
      .ok (.supported (some (accessOf bind.readOnly)) (some bind.relabel))

/-- A structured mount is that of a mount. -/
def Mounts (mount : Mount) (entry : Value) : Prop :=
  ∃ target, entry.get "Target" = some (.string target) ∧ asBytes target = mount.target

/-- The binds and the mounts of a body hold the mounts of a container, each in one of the two. -/
structure Separated (container : ContainerIntent) (body : Value) : Prop where
  mounts : List.Forall₂ Mounts (structured container.mounts) (hostEntries "Mounts" body)
  unbound : ∀ mount ∈ container.mounts, mount.bindRelabel = none →
    ∀ entry ∈ hostEntries "Binds" body, ∀ text, entry = .string text →
      ((asBytes text).splitOnP (· == 58))[1]? ≠ some mount.target
  unmounted : ∀ mount ∈ container.mounts, mount.bindRelabel.isSome = true →
    ∀ entry ∈ hostEntries "Mounts" body, ¬ Mounts mount entry

section Container

variable {resources : List TargetResource} {container : ContainerIntent}

/-- The mode of a legacy bind. -/
def bindMode (mount : Mount) (relabel : BindRelabel) : Bytes :=
  (if mount.readOnly then asBytes "ro," else asBytes "rw,") ++ relabelByte relabel

theorem parse_bindMode (mount : Mount) (relabel : BindRelabel) (field : FieldPath) :
    Decoder.MountMode.parse (bindMode mount relabel) field =
      .ok (.supported (some (accessOf mount.readOnly)) (some relabel)) := by
  have hall : ∀ (readOnly : Bool) (relabel : BindRelabel),
      Decoder.MountMode.parse
        ((if readOnly then asBytes "ro," else asBytes "rw,") ++ relabelByte relabel) field =
        .ok (.supported (some (accessOf readOnly)) (some relabel)) := by
    rintro (_ | _) (_ | _) <;> rfl
  exact hall mount.readOnly relabel

theorem colon_not_mem_bindMode (mount : Mount) (relabel : BindRelabel) :
    58 ∉ bindMode mount relabel := by
  have hall : ∀ (readOnly : Bool) (relabel : BindRelabel),
      58 ∉ (if readOnly then asBytes "ro," else asBytes "rw,") ++ relabelByte relabel := by
    rintro (_ | _) (_ | _) <;> decide +kernel
  exact hall mount.readOnly relabel

theorem splitOnP_bindText {source : Bytes} {mount : Mount} {relabel : BindRelabel}
    (hsource : mount.source = .bind source) (hrelabel : mount.bindRelabel = some relabel) :
    (bindText source mount relabel).splitOnP (· == 58) =
      [source, mount.target, bindMode mount relabel] := by
  have hvalid := mount.valid
  rw [hsource, hrelabel] at hvalid
  simp only [validMount, Option.isNone_some, Bool.false_or, Bool.and_eq_true, colonFree,
    Bool.not_eq_true', List.contains_eq_mem, decide_eq_false_iff_not] at hvalid
  obtain ⟨-, -, hfree, htarget⟩ := hvalid
  have hplain : ∀ {bytes : Bytes}, 58 ∉ bytes → ∀ byte ∈ bytes, (byte == 58) = false := by
    intro bytes hbytes byte hbyte
    rw [beq_eq_false_iff_ne]
    rintro rfl
    exact hbytes hbyte
  have htext : bindText source mount relabel =
      source ++ 58 :: (mount.target ++ 58 :: bindMode mount relabel) := by
    have hsplit : (if mount.readOnly then asBytes ":ro," else asBytes ":rw,") =
        58 :: (if mount.readOnly then asBytes "ro," else asBytes "rw,") := by
      cases mount.readOnly <;> decide +kernel
    rw [bindText, hsplit, bindMode]
    simp
  rw [htext, List.splitOnP_append_cons_of_forall_mem (hplain hfree) 58 rfl,
    List.splitOnP_append_cons_of_forall_mem (hplain htarget) 58 rfl,
    List.splitOnP_eq_singleton (hplain (colon_not_mem_bindMode mount relabel))]

theorem asBytes_bindText {source : Bytes} {mount : Mount} {relabel : BindRelabel}
    (hsource : mount.source = .bind source) :
    asBytes (decoded (bindText source mount relabel)) = bindText source mount relabel := by
  have hvalid := mount.valid
  rw [hsource] at hvalid
  simp only [validMount, Bool.and_eq_true] at hvalid
  exact asBytes_decoded (isUtf8_bindText (isUtf8_of_absolutePath hvalid.2.1)
    (isUtf8_of_absolutePath hvalid.1))

/-- The obligation of a mount. -/
def owedBy (container : ContainerIntent) (entry : Mount × Nat) : Option BindSourcePrerequisite :=
  (obligation container entry).bind Prerequisite.bindSource?

theorem owes_and_carries {entry : Mount × Nat}
    (hauthored : container.mounts[entry.2]? = some entry.1)
    (hrelabelled : entry.1.bindRelabel.isSome = true) :
    ∃ bind, owedBy container entry = some bind ∧ Owes container entry bind ∧
      Carries bind (bindBody entry.1) := by
  obtain ⟨relabel, hrelabel⟩ := Option.isSome_iff_exists.mp hrelabelled
  obtain ⟨source, hsource⟩ := bind_of_relabel hrelabel
  refine ⟨bindSource container entry.1 entry.2 source relabel, ?_, ?_, ?_⟩
  · rw [owedBy, obligation, hsource, hrelabel]
    rfl
  · exact ⟨rfl, rfl, rfl, hauthored, hsource, rfl, rfl, hrelabel⟩
  · refine ⟨decoded (bindText source entry.1 relabel), bindMode entry.1 relabel, ?_, ?_,
      parse_bindMode entry.1 relabel⟩
    · rw [bindBody, hsource, hrelabel]
      rfl
    · rw [asBytes_bindText hsource, splitOnP_bindText hsource hrelabel]
      rfl

theorem owedBy_of_plain {entry : Mount × Nat} (h : entry.1.bindRelabel.isSome = false) :
    owedBy container entry = none := by
  rw [Option.isSome_eq_false_iff, Option.isNone_iff_eq_none] at h
  rw [owedBy, obligation, h]
  cases entry.1.source <;> rfl

theorem owed_of_entries {entries : List (Mount × Nat)}
    (h : ∀ entry ∈ entries, container.mounts[entry.2]? = some entry.1) :
    List.Forall₂ (Owes container) (entries.filter (·.1.bindRelabel.isSome))
        (entries.filterMap (owedBy container)) ∧
      List.Forall₂ Carries (entries.filterMap (owedBy container))
        ((relabelled (entries.map Prod.fst)).map bindBody) := by
  induction entries with
  | nil => exact ⟨.nil, .nil⟩
  | cons entry entries ih =>
      rw [List.forall_mem_cons] at h
      obtain ⟨howes, hcarries⟩ := ih h.2
      rw [relabelled] at hcarries ⊢
      cases hrelabel : entry.1.bindRelabel.isSome with
      | true =>
          obtain ⟨bind, hbind, howe, hcarry⟩ := owes_and_carries h.1 hrelabel
          rw [List.filter_cons_of_pos (by exact hrelabel), List.filterMap_cons_some hbind,
            List.map_cons, List.filter_cons_of_pos (by exact hrelabel), List.map_cons]
          exact ⟨.cons howe howes, .cons hcarry hcarries⟩
      | false =>
          rw [List.filter_cons_of_neg (by simp [hrelabel]),
            List.filterMap_cons_none (owedBy_of_plain hrelabel), List.map_cons,
            List.filter_cons_of_neg (by simp [hrelabel])]
          exact ⟨howes, hcarries⟩

/-- The obligations that a container leaves. -/
def owed (container : ContainerIntent) : List BindSourcePrerequisite :=
  container.mounts.zipIdx.filterMap (owedBy container)

theorem hostEntries_containerBody {key : String} {values : List Value} {found : Option Value}
    (hfield : (hostConfigFields resources container).lookup key = some found)
    (hvalues : (found.bind Value.asArray).getD [] = values) :
    hostEntries key (containerBody resources container) = values := by
  have hhost : (containerBody resources container).get "HostConfig" =
      some (fieldsObject (hostConfigFields resources container)) := by
    rw [containerBody, fieldsObject, Value.get_object, lookup_present keys_containerBody]
    simp [configFields, List.lookup_cons]
  rw [hostEntries, hhost, Option.bind_some, fieldsObject, Value.get_object,
    lookup_present keys_hostConfig, hfield]
  exact hvalues

theorem asArray_listField {α : Type} (value : α → Value) (values : List α) :
    ((listField value values).bind Value.asArray).getD [] = values.map value := by
  cases values <;> rfl

theorem hostEntries_binds :
    hostEntries "Binds" (containerBody resources container) =
      (relabelled container.mounts).map bindBody :=
  hostEntries_containerBody rfl (asArray_listField _ _)

theorem hostEntries_mounts :
    hostEntries "Mounts" (containerBody resources container) =
      (structured container.mounts).map (mountBody resources) :=
  hostEntries_containerBody rfl (asArray_listField _ _)

theorem authored_zipIdx : ∀ entry ∈ container.mounts.zipIdx,
    container.mounts[entry.2]? = some entry.1 :=
  fun _ hentry => List.mem_zipIdx_iff_getElem?.mp hentry

theorem owes_owed : List.Forall₂ (Owes container) (relabelledAt container) (owed container) :=
  (owed_of_entries authored_zipIdx).1

theorem carries_owed :
    List.Forall₂ Carries (owed container)
      (hostEntries "Binds" (containerBody resources container)) := by
  have hcarries := (owed_of_entries (@authored_zipIdx container)).2
  rw [List.zipIdx_map_fst] at hcarries
  rw [hostEntries_binds]
  exact hcarries

theorem mounts_mountBody (mount : Mount) : Mounts mount (mountBody resources mount) := by
  have hkeys : ["Type", "Source", "Target", "ReadOnly", "TmpfsOptions"].Nodup := by decide
  have hvalid := mount.valid
  simp only [validMount, Bool.and_eq_true] at hvalid
  refine ⟨decoded mount.target, ?_, asBytes_decoded (isUtf8_of_absolutePath hvalid.1)⟩
  rw [mountBody, fieldsObject, Value.get_object, lookup_present (by exact hkeys)]
  simp [List.lookup_cons, stringValue]

theorem eq_of_target (h : distinctMounts container = true) {left right : Mount}
    (hleft : left ∈ container.mounts) (hright : right ∈ container.mounts)
    (htarget : left.target = right.target) : left = right := by
  have hkeys := (distinctMounts_iff.mp h).1
  rw [List.map_map] at hkeys
  exact List.inj_on_of_nodup_map hkeys hleft hright (congrArg lexicalAbsolutePathKey htarget)

/-- Each mount of an accepted container is in one of the two lists of its body. -/
theorem separated_containerBody (h : distinctMounts container = true) :
    Separated container (containerBody resources container) := by
  refine ⟨?_, ?_, ?_⟩
  · rw [hostEntries_mounts, List.forall₂_map_right_iff]
    exact List.forall₂_same.mpr fun mount _ => mounts_mountBody mount
  · intro mount hmount hplain entry hentry text htext hsame
    rw [hostEntries_binds] at hentry
    obtain ⟨other, hother, rfl⟩ := List.mem_map.mp hentry
    rw [relabelled, List.mem_filter] at hother
    obtain ⟨relabel, hrelabel⟩ := Option.isSome_iff_exists.mp hother.2
    obtain ⟨source, hsource⟩ := bind_of_relabel hrelabel
    rw [bindBody, hsource, hrelabel] at htext
    obtain rfl : decoded (bindText source other relabel) = text := by
      injection htext
    rw [asBytes_bindText hsource, splitOnP_bindText hsource hrelabel] at hsame
    have heq := eq_of_target h hother.1 hmount (Option.some.inj hsame)
    rw [heq, hplain] at hrelabel
    cases hrelabel
  · intro mount hmount hrelabel entry hentry hmounts
    rw [hostEntries_mounts] at hentry
    obtain ⟨other, hother, rfl⟩ := List.mem_map.mp hentry
    rw [structured, List.mem_filter] at hother
    obtain ⟨target, hget, htarget⟩ := hmounts
    obtain ⟨target', hget', htarget'⟩ := @mounts_mountBody resources other
    rw [hget, Option.some.injEq, Value.string.injEq] at hget'
    subst hget'
    have heq := eq_of_target h hother.1 hmount (htarget'.symm.trans htarget)
    rw [heq, Option.isNone_iff_eq_none] at hother
    rw [hother.2] at hrelabel
    cases hrelabel

end Container

section Requests

variable {path : Chars} {resources : List TargetResource}

/-- An identity stands in a path as it is. -/
theorem asBytes_percentEncode {bytes : Bytes} (h : validIdentity bytes = true) :
    asBytes (String.ofList (percentEncode bytes)) = bytes := by
  have hbytes := nameBytes_of_identity h
  have hencoded : percentEncode bytes = bytes.map fun byte => Char.ofNat byte.toNat := by
    rw [percentEncode, List.map_eq_flatMap]
    apply List.flatMap_congr
    intro byte hbyte
    have hname := hbytes byte hbyte
    simp only [isNameByte, Bool.or_eq_true, beq_iff_eq] at hname
    rw [Acquisition.encodeByte, if_pos]
    simp only [Bool.or_eq_true, beq_iff_eq]
    rcases hname with ((halphanumeric | rfl) | rfl) | rfl
    · simp [halphanumeric]
    · simp
    · simp
    · simp
  have hcode : ∀ code : Fin 128, (Char.ofNat code).toNat = code := by decide
  have hchar : ∀ byte ∈ bytes, (Char.ofNat byte.toNat).toNat = byte.toNat :=
    fun byte hbyte => hcode ⟨byte.toNat, ascii_of_nameByte (hbytes byte hbyte)⟩
  rw [hencoded, asBytes_ascii]
  · have hsame : ∀ byte ∈ bytes,
        ((fun char : Char => UInt8.ofNat char.toNat) ∘ fun byte => Char.ofNat byte.toNat) byte =
          id byte := by
      intro byte hbyte
      rw [Function.comp_apply, hchar byte hbyte, UInt8.ofNat_toNat, id]
    rw [List.map_map, List.map_congr_left hsame, List.map_id]
  · intro char hmem
    obtain ⟨byte, hbyte, rfl⟩ := List.mem_map.mp hmem
    rw [hchar byte hbyte]
    exact ascii_of_nameByte (hbytes byte hbyte)

theorem createdBy_container (name : Chars) (body : Value) :
    createdBy path (path ++ "containers/create?name=".toList ++ name, body) =
      some (asBytes (String.ofList name), body) := by
  rw [createdBy]
  dsimp only
  rw [if_pos (List.isPrefixOf_iff_prefix.mpr (List.prefix_append _ _)), List.drop_left]

theorem createdBy_eq_none {rest : Chars} (body : Value)
    (h : ¬ "containers/create?name=".toList <+: rest) :
    createdBy path (path ++ rest, body) = none := by
  rw [createdBy]
  dsimp only
  rw [if_neg]
  rw [List.isPrefixOf_iff_prefix, List.prefix_append_right_inj]
  exact h

/-- The container that a reference names. -/
def containerAt (resources : List TargetResource) (reference : ResourceRef) :
    Option ContainerIntent :=
  match resourceOf resources reference with
  | some (.container container) => some container
  | _ => none

/-- The container of a request and its body. -/
def created (resources : List TargetResource) (container : ContainerIntent) : Bytes × Value :=
  (container.identity.bytes, containerBody resources container)

theorem createdBy_createRequest {resource : TargetResource} {request : Chars × Value}
    (h : createRequest path resources resource = some request) :
    createdBy path request = match resource with
      | .container container => some (created resources container)
      | _ => none := by
  cases resource with
  | network network =>
      rw [createRequest] at h
      split at h
      · obtain rfl := Option.some.inj h
        exact createdBy_eq_none _ (by decide)
      · cases h
  | volume _ identity labels =>
      obtain rfl := Option.some.inj h
      exact createdBy_eq_none _ (by decide)
  | externalVolume _ _ => cases h
  | container container =>
      obtain rfl := Option.some.inj h
      rw [createdBy_container, asBytes_percentEncode container.identity.checked]
      rfl

theorem createdBy_connectRequest (container : ContainerIntent)
    (attachment : NetworkAttachmentIntent) :
    createdBy path (connectRequest path resources container attachment) = none := by
  refine createdBy_eq_none _ ?_
  intro hprefix
  obtain ⟨rest, hrest⟩ := hprefix
  injection hrest with hhead
  cases hhead

variable {intent : TargetIntent} {capabilities : PlanningCapabilitySet}
  {nodes : List OperationNode}

theorem filterMap_createdBy (resource : TargetResource) :
    (createRequest path resources resource).toList.filterMap (createdBy path) =
      match resource with
      | .container container => [created resources container]
      | _ => [] := by
  cases hrequest : createRequest path resources resource with
  | none =>
      cases resource with
      | container _ => cases hrequest
      | _ => rfl
  | some request =>
      have hcreated := createdBy_createRequest hrequest
      cases resource <;> simp [hcreated]

theorem bindSource_of_resource (resource : TargetResource) :
    (obligations resource ++ (requirement resource).toList).filterMap Prerequisite.bindSource? =
      match resource with
      | .container container => owed container
      | _ => [] := by
  cases resource with
  | container container =>
      have hnone : requirement (.container container) = none := rfl
      rw [hnone, Option.toList_none, List.append_nil, obligations, List.filterMap_filterMap]
      rfl
  | network network =>
      cases hsource : network.source <;>
        simp [obligations, requirement, hsource, Prerequisite.bindSource?]
  | volume _ _ _ | externalVolume _ _ =>
      simp [obligations, requirement, Prerequisite.bindSource?]

theorem node_outputs (h : Planned intent capabilities nodes) {node : OperationNode}
    (hnode : node ∈ nodes) :
    (nodeRequests path intent.resources node).filterMap (createdBy path) =
        (containerAt intent.resources node.resource).toList.map (created intent.resources) ∧
      (nodePrerequisites intent.resources node).filterMap Prerequisite.bindSource? =
        (containerAt intent.resources node.resource).toList.flatMap owed := by
  obtain ⟨resource, -, hfound, -, -, haction⟩ := h.exists_resource hnode
  obtain ⟨hrequests, hprerequisites⟩ := base_outputs hfound haction path
  have hnodeSteps : nodeSteps intent.resources node =
      baseStep node :: (nodeSteps intent.resources node).tail := rfl
  rw [nodeRequests, nodePrerequisites, hnodeSteps, List.flatMap_cons, List.flatMap_cons, hrequests,
    hprerequisites, List.filterMap_append, List.filterMap_append, filterMap_createdBy,
    bindSource_of_resource, containerAt, hfound]
  cases resource with
  | container container =>
      obtain ⟨hconnects, hnone, -⟩ := connect_outputs hfound path (later_attachments container)
      rw [nodeSteps_container hfound, List.tail_cons, hconnects, hnone, List.filterMap_map]
      have hskipped : (container.networks.zipIdx.drop 1).filterMap
          (createdBy path ∘ fun entry => connectRequest path intent.resources container entry.1) =
            [] := by
        rw [List.filterMap_eq_nil_iff]
        exact fun entry _ => createdBy_connectRequest container entry.1
      rw [hskipped]
      simp
  | _ => simp [nodeSteps, hfound]

theorem nodes_outputs (h : Planned intent capabilities nodes) {order : List OperationNode}
    (hsubset : order ⊆ nodes) :
    (order.flatMap (nodeRequests path intent.resources)).filterMap (createdBy path) =
        (order.filterMap fun node => containerAt intent.resources node.resource).map
          (created intent.resources) ∧
      (order.flatMap (nodePrerequisites intent.resources)).filterMap Prerequisite.bindSource? =
        (order.filterMap fun node => containerAt intent.resources node.resource).flatMap owed := by
  induction order with
  | nil => exact ⟨rfl, rfl⟩
  | cons node order ih =>
      rw [List.cons_subset] at hsubset
      obtain ⟨hrequests, hprerequisites⟩ := ih hsubset.2
      obtain ⟨hnodeRequests, hnodePrerequisites⟩ := @node_outputs path _ _ _ h _ hsubset.1
      rw [List.flatMap_cons, List.flatMap_cons, List.filterMap_append, List.filterMap_append,
        hrequests, hprerequisites, hnodeRequests, hnodePrerequisites, List.filterMap_cons]
      cases containerAt intent.resources node.resource <;> simp

/-- The container that a resource is. -/
def containerOf : TargetResource → Option ContainerIntent
  | .container container => some container
  | _ => none

theorem containers_perm (h : Planned intent capabilities nodes) {order : List OperationNode}
    (hperm : order.Perm nodes) :
    (order.filterMap fun node => containerAt intent.resources node.resource).Perm
      (intent.resources.filterMap containerOf) := by
  have hreferences : (order.map OperationNode.resource).Perm
      (intent.resources.map TargetResource.reference) :=
    (hperm.map _).trans h.references_perm
  have hcontainers := hreferences.filterMap (containerAt intent.resources)
  rw [List.filterMap_map, List.filterMap_map] at hcontainers
  have hsame : intent.resources.filterMap
      (containerAt intent.resources ∘ TargetResource.reference) =
        intent.resources.filterMap containerOf := by
    apply List.filterMap_congr
    intro resource hresource
    have hfound : resourceOf intent.resources resource.reference = some resource :=
      (resourceOf_eq_some_iff intent.accepted.references).mpr ⟨hresource, rfl⟩
    rw [Function.comp_apply, containerAt, hfound]
    cases resource <;> rfl
  rw [hsame] at hcontainers
  exact hcontainers

theorem names_nodup (intent : TargetIntent) :
    ((intent.resources.filterMap containerOf).map (·.identity.bytes)).Nodup := by
  have hnames := List.pairwise_map.mp intent.accepted.names
  rw [List.Nodup, List.pairwise_map, List.pairwise_filterMap]
  refine hnames.imp fun {left right} hne container hleft other hright hsame => hne ?_
  cases left with
  | container _ =>
      cases right with
      | container _ =>
          cases hleft
          cases hright
          exact Prod.ext rfl hsame
      | _ => cases hright
  | _ => cases hleft

theorem forall₂_flatMap {α β γ : Type} {relation : β → γ → Prop} {values : List α}
    {left : α → List β} {right : α → List γ}
    (h : ∀ value ∈ values, List.Forall₂ relation (left value) (right value)) :
    List.Forall₂ relation (values.flatMap left) (values.flatMap right) := by
  induction values with
  | nil => exact .nil
  | cons value values ih =>
      rw [List.forall_mem_cons] at h
      exact List.rel_append h.1 (ih h.2)

end Requests

/-- Every legacy bind carries its obligation: the obligations of an artifact are those of the
relabelled mounts, container by container in the order of emission and mount by mount in the
order of the intent, and the legacy binds of the emitted bodies are those of the obligations. -/
theorem binds_obligated {hash : HashOrder ResourceRef} {intent : TargetIntent}
    {capabilities : PlanningCapabilitySet} {nodes : List OperationNode} {graph : OperationGraph}
    (h : OperationGraph.new hash intent capabilities nodes = .ok graph) :
    ∃ requests containers artifact native, render graph = .ok artifact ∧
      artifact.native = some native ∧ List.Forall₂ Line requests native.requests ∧
      containers.Perm (graph.intent.resources.filterMap containerOf) ∧
      List.Forall₂ (fun container request => request.1 = container.identity.bytes ∧
          Separated container request.2)
        containers (requests.filterMap (createdBy (apiPath graph.context.api))) ∧
      List.Forall₂ (fun bind entry => Owes entry.1 entry.2 bind) artifact.bindSourcePrerequisites
        (containers.flatMap fun container => (relabelledAt container).map (container, ·)) ∧
      List.Forall₂ Carries artifact.bindSourcePrerequisites
        ((requests.filterMap (createdBy (apiPath graph.context.api))).flatMap fun request =>
          hostEntries "Binds" request.2) ∧
      ∀ bind ∈ artifact.bindSourcePrerequisites,
        ((requests.filterMap (createdBy (apiPath graph.context.api))).map Prod.fst).count
          bind.identity = 1 := by
  obtain ⟨order, artifact, native, hrenders⟩ := exists_renders h
  obtain ⟨hplanned, rfl⟩ := OperationGraph.new_eq_ok_iff.mp h
  have hperm := containers_perm hplanned hrenders.perm
  obtain ⟨hrequests, hprerequisites⟩ := @nodes_outputs (apiPath capabilities.context.api) _ _ _
    hplanned _ hrenders.perm.subset
  have hbinds := hrenders.lists.bindSources_eq.trans hprerequisites
  have hdistinct : ∀ container ∈ order.filterMap fun node =>
      containerAt intent.resources node.resource, distinctMounts container = true := by
    intro container hcontainer
    obtain ⟨resource, hresource, hsame⟩ := List.mem_filterMap.mp (hperm.mem_iff.mp hcontainer)
    have haccepted := intent.accepted.each _ hresource
    cases resource with
    | container _ =>
        cases hsame
        exact ContainerAccepted.mounts haccepted
    | _ => cases hsame
  refine ⟨_, _, artifact, native, hrenders.rendered, hrenders.provenance, hrenders.requests, hperm,
    ?_, ?_, ?_, ?_⟩
  · rw [OperationGraph.build, hrequests, List.forall₂_map_right_iff]
    exact List.forall₂_same.mpr fun container hcontainer =>
      ⟨rfl, separated_containerBody (hdistinct container hcontainer)⟩
  · rw [hbinds]
    apply forall₂_flatMap
    intro container _
    rw [List.forall₂_map_right_iff]
    exact owes_owed.flip
  · rw [OperationGraph.build, hrequests, hbinds, List.flatMap_map]
    exact forall₂_flatMap fun container _ => carries_owed
  · intro bind hbind
    rw [OperationGraph.build, hrequests, List.map_map]
    rw [hbinds] at hbind
    obtain ⟨container, hcontainer, howed⟩ := List.mem_flatMap.mp hbind
    obtain ⟨entry, -, howes⟩ := exists_of_forall₂_right owes_owed howed
    rw [howes.identity]
    apply List.count_eq_one_of_mem
    · exact (hperm.map _).nodup_iff.mpr (names_nodup intent)
    · exact List.mem_map.mpr ⟨container, hcontainer, rfl⟩

theorem binds_obligated_web :
    ∃ graph, ∃ requests : List (Chars × Value), ∃ artifact,
      OperationGraph.new ⟨id, fun _ => .refl _⟩ webIntent anyCapability
        (webIntent.resources.map planNode) = .ok graph ∧
      render graph = .ok artifact ∧
      List.Forall₂ Carries artifact.bindSourcePrerequisites
        ((requests.filterMap (createdBy (apiPath graph.context.api))).flatMap fun request =>
          hostEntries "Binds" request.2) := by
  obtain ⟨graph, hgraph⟩ := exists_of_isOk (show (OperationGraph.new ⟨id, fun _ => .refl _⟩
    webIntent anyCapability (webIntent.resources.map planNode)).isOk = true by decide +kernel)
  obtain ⟨requests, -, artifact, -, hrendered, -, -, -, -, -, hcarries, -⟩ := binds_obligated hgraph
  exact ⟨graph, requests, artifact, hgraph, hrendered, hcarries⟩

end DockerLens.Render
