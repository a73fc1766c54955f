import DockerLens.Acquisition.Selection
import DockerLens.Collect
import DockerLens.Json.Reading
import Mathlib.Data.List.Nodup
import Mathlib.Data.List.Pairwise

namespace DockerLens.Acquisition

open DockerLens.Text
open DockerLens.Json
open DockerLens.Observation
open DockerLens.Fold
open DockerLens.Collect

/-- The id of a list entry. -/
def entryId (entry : Value) : Option NativeId :=
  ((entry.get "Id").bind Value.asStr).bind NativeId.new

/-- The names of a list entry, without a leading slash. -/
def nativeNames (entry : Value) : List String :=
  (((entry.get "Names").bind Value.asArray).getD []).filterMap fun native =>
    native.asStr.map stripSlash

/-- The bytes of a label of a list entry. -/
def labelOf (key : Bytes) (entry : Value) : Option Bytes := do
  let key ← fromUtf8 key
  let labels ← (entry.get "Labels").bind Value.asObject
  let found ← labels.lookup key
  found.asStr.map asBytes

/-- The names of a selector that stand for a native name. -/
def requested (selector : Selector) (native : String) : List String :=
  match selector with
  | .containerNames names =>
      (names.filter fun name => native = stripSlash name.text).map NativeId.text
  | _ => []

/-- Whether a native name is one that a selector looks for. -/
def satisfiesName (selector : Selector) (native : String) : Bool :=
  match selector with
  | .containerNames names => names.any fun name => native = stripSlash name.text
  | .namePrefix namePrefix => (stripSlash namePrefix.text).toList.isPrefixOf native.toList
  | _ => false

/-- What a selector asks of a list entry. -/
def satisfies (selector : Selector) (entry : Value) : Bool :=
  match selector with
  | .allContainers => true
  | .discovery => false
  | .containerNames _ | .namePrefix _ => (nativeNames entry).any (satisfiesName selector)
  | .label key value => (labelOf key entry).any fun found => value.all (found == ·)
  | .containerIds _ | .networkIds _ | .volumeNames _ => false

/-- The fields that a selector reads have their shape. -/
def Shaped (selector : Selector) (entry : Value) : Prop :=
  match selector with
  | .allContainers | .discovery => True
  | .containerNames _ | .namePrefix _ =>
      ∃ natives, (entry.get "Names").bind Value.asArray = some natives ∧
        natives.length ≤ maxCollectionItems ∧ ∀ native ∈ natives, native.asStr.isSome = true
  | .label key _ =>
      ∃ labels, (entry.get "Labels").bind Value.asObject = some labels ∧
        labels.length ≤ maxCollectionItems ∧
        ∀ text ∈ fromUtf8 key, ∀ found ∈ labels.lookup text, found.asStr.isSome = true
  | .containerIds _ | .networkIds _ | .volumeNames _ => False

/-- A well-formed list entry. -/
structure WellFormed (selector : Selector) (entry : Value) : Prop where
  object : entry.asObject.isSome = true
  id : ∃ id, entryId entry = some id ∧ validExactContainerId id = true
  shaped : Shaped selector entry

/-- A label key that a list can hold. -/
def LabelKey : Selector → Prop
  | .label key _ => (fromUtf8 key).isSome = true
  | _ => True

/-- A literal name begins with one slash at most. -/
theorem trimSlashes_eq_stripSlash {name : String} (h : validLiteralName name = true) :
    trimSlashes name = stripSlash name := by
  have hhead : ∀ rest, (asBytes (String.ofList rest)).head?.any isAsciiAlphanumeric = true →
      rest.dropWhile (· == '/') = rest := by
    intro rest hrest
    cases rest with
    | nil => rfl
    | cons char rest =>
        rw [List.dropWhile_cons]
        split
        · next hslash =>
            rw [beq_iff_eq] at hslash
            subst hslash
            have hbytes : asBytes (String.ofList ('/' :: rest)) =
                47 :: asBytes (String.ofList rest) := by
              have happend : String.ofList ('/' :: rest) = "/" ++ String.ofList rest := by
                apply String.toList_injective
                simp
              rw [happend, asBytes_append]
              rfl
            rw [hbytes] at hrest
            rw [List.head?_cons] at hrest
            cases hrest
        · rfl
  simp only [validLiteralName, Bool.and_eq_true] at h
  rw [trimSlashes]
  obtain ⟨⟨-, hfirst⟩, -⟩ := h
  rw [stripSlash] at hfirst ⊢
  split at hfirst
  · next rest htext =>
      rw [htext, List.dropWhile_cons_of_pos (by rfl), hhead rest hfirst]
  · next hplain =>
      rw [← @String.ofList_toList name] at hfirst
      rw [hhead name.toList hfirst, String.ofList_toList]

/-- The names and the prefix of a selector begin with one slash at most. -/
def OneSlash : Selector → Prop
  | .containerNames names => ∀ name ∈ names, trimSlashes name.text = stripSlash name.text
  | .namePrefix namePrefix => trimSlashes namePrefix.text = stripSlash namePrefix.text
  | _ => True

section Match

variable {selector : Selector} {entry : Value} {matched names : List String} {found : Bool}

theorem oneSlash_of_accepted (h : rejectedByList selector = false) : OneSlash selector := by
  cases selector with
  | containerNames names =>
      rw [rejectedByList, Bool.or_eq_false_iff, List.any_eq_false] at h
      intro name hname
      exact trimSlashes_eq_stripSlash (by simpa using h.2 name hname)
  | namePrefix namePrefix =>
      rw [rejectedByList, Bool.not_eq_false'] at h
      exact trimSlashes_eq_stripSlash h
  | _ => trivial

theorem matchName_eq_ok_iff {native : String} {name : NativeId}
    (hname : trimSlashes name.text = stripSlash name.text) (state next : List String × Bool) :
    matchName native state name = .ok next ↔
      True ∧ Fresh state.1 (if native = stripSlash name.text then [name.text] else []) ∧
        next = (state.1 ++ if native = stripSlash name.text then [name.text] else [],
          state.2 || decide (native = stripSlash name.text)) := by
  obtain ⟨held, seen⟩ := state
  rw [matchName, hname]
  by_cases hnative : native = stripSlash name.text
  · by_cases hmem : name.text ∈ held
    · simp [hnative, hmem, fresh_singleton_iff]
    · simp [hnative, hmem, fresh_singleton_iff, eq_comm]
  · simp [hnative, fresh_nil, eq_comm]

theorem foldlM_matchName_iff {native : String} {requested : List NativeId}
    (h : ∀ name ∈ requested, trimSlashes name.text = stripSlash name.text)
    {state next : List String × Bool} :
    requested.foldlM (matchName native) state = .ok next ↔
      Fresh state.1 (Acquisition.requested (.containerNames requested) native) ∧
        next = (state.1 ++ Acquisition.requested (.containerNames requested) native,
          state.2 || satisfiesName (.containerNames requested) native) := by
  have hitems : ∀ names : List NativeId,
      (names.flatMap fun name => if native = stripSlash name.text then [name.text] else []) =
        (names.filter fun name => native = stripSlash name.text).map NativeId.text := by
    intro names
    induction names with
    | nil => rfl
    | cons name names ih =>
        rw [List.flatMap_cons, ih, List.filter_cons]
        by_cases hnative : native = stripSlash name.text <;> simp [hnative]
  rw [foldlM_fresh_iff fun name hname state next => matchName_eq_ok_iff (h name hname) state next,
    hitems]
  simp [Acquisition.requested, satisfiesName]

theorem matchNative_eq_ok_iff (h : rejectedByList selector = false) (native : Value)
    (state next : List String × Bool) :
    matchNative selector state native = .ok next ↔
      native.asStr.isSome = true ∧
        Fresh state.1 ((native.asStr.map stripSlash).toList.flatMap (requested selector)) ∧
        next = (state.1 ++ (native.asStr.map stripSlash).toList.flatMap (requested selector),
          state.2 || (native.asStr.map stripSlash).any (satisfiesName selector)) := by
  obtain ⟨held, seen⟩ := state
  have htrim := oneSlash_of_accepted h
  rw [matchNative]
  cases native.asStr with
  | none => simp
  | some native =>
      cases selector with
      | containerNames names => simp [foldlM_matchName_iff htrim]
      | namePrefix namePrefix =>
          rw [OneSlash] at htrim
          simp [requested, satisfiesName, htrim, fresh_nil, eq_comm]
      | _ => simp [requested, satisfiesName, fresh_nil, eq_comm]

/-- The names of an entry. -/
theorem matchNames_eq_ok_iff (h : rejectedByList selector = false) :
    matchNames selector entry matched = .ok (names, found) ↔
      (∃ natives, (entry.get "Names").bind Value.asArray = some natives ∧
        natives.length ≤ maxCollectionItems ∧ ∀ native ∈ natives, native.asStr.isSome = true) ∧
      Fresh matched ((nativeNames entry).flatMap (requested selector)) ∧
      names = matched ++ (nativeNames entry).flatMap (requested selector) ∧
      found = (nativeNames entry).any (satisfiesName selector) := by
  rw [matchNames]
  cases hnatives : (entry.get "Names").bind Value.asArray with
  | none => simp
  | some natives =>
      have hnames : nativeNames entry = natives.filterMap fun native =>
          native.asStr.map stripSlash := by
        rw [nativeNames, hnatives, Option.getD_some]
      have hitems : (natives.flatMap fun native =>
          (native.asStr.map stripSlash).toList.flatMap (requested selector)) =
            (nativeNames entry).flatMap (requested selector) := by
        rw [hnames, List.filterMap_eq_flatMap_toList, List.flatMap_assoc]
      have hfound : (natives.any fun native =>
          (native.asStr.map stripSlash).any (satisfiesName selector)) =
            (nativeNames entry).any (satisfiesName selector) := by
        rw [hnames, List.any_filterMap]
        congr 1
      dsimp only
      split
      · next hlength =>
          simp [Nat.not_le.mpr hlength]
      · next hlength =>
          rw [foldlM_fresh_iff fun native _ => matchNative_eq_ok_iff h native, hitems, hfound]
          simp [Nat.not_lt.mp hlength]

theorem matchLabel_eq_ok_iff {key : Bytes} {value : Option Bytes} :
    matchLabel key value entry = .ok found ↔
      Shaped (.label key value) entry ∧ LabelKey (.label key value) ∧
        found = satisfies (.label key value) entry := by
  rw [matchLabel, Shaped, LabelKey, satisfies, labelOf]
  cases (entry.get "Labels").bind Value.asObject with
  | none => simp
  | some labels =>
      dsimp only
      split
      · next hlength => simp [Nat.not_le.mpr hlength]
      · next hlength =>
          cases fromUtf8 key with
          | none => simp
          | some text =>
              cases hlookup : labels.lookup text with
              | none => simp [Nat.not_lt.mp hlength, hlookup]
              | some member =>
                  cases hmember : member.asStr with
                  | none => simp [hlookup, hmember]
                  | some label =>
                      simp [Nat.not_lt.mp hlength, hlookup, hmember, @eq_comm _ found]

theorem flatMap_requested_eq_nil (h : ∀ names, selector ≠ .containerNames names)
    (natives : List String) : natives.flatMap (requested selector) = [] := by
  rw [List.flatMap_eq_nil_iff]
  intro native _
  cases selector with
  | containerNames names => exact absurd rfl (h names)
  | _ => rfl

theorem map_pair_eq_ok_iff {result : Except AcquisitionError Bool} :
    (result.map fun found => (matched, found)) = .ok (names, found) ↔
      names = matched ∧ result = .ok found := by
  cases result <;> simp [Except.map, @eq_comm _ names]

theorem matchEntry_eq_ok_iff (h : rejectedByList selector = false) :
    matchEntry selector entry matched = .ok (names, found) ↔
      Shaped selector entry ∧ LabelKey selector ∧
        Fresh matched ((nativeNames entry).flatMap (requested selector)) ∧
        names = matched ++ (nativeNames entry).flatMap (requested selector) ∧
        found = satisfies selector entry := by
  cases hselector : selector with
  | allContainers | discovery =>
      rw [flatMap_requested_eq_nil (by simp)]
      simp [matchEntry, Shaped, LabelKey, satisfies, fresh_nil, @eq_comm _ names]
  | containerNames _ | namePrefix _ =>
      rw [hselector] at h
      rw [matchEntry, matchNames_eq_ok_iff h]
      simp [Shaped, LabelKey, satisfies]
  | label key value =>
      rw [matchEntry, flatMap_requested_eq_nil (by simp), map_pair_eq_ok_iff, matchLabel_eq_ok_iff]
      simp only [fresh_nil, List.append_nil, true_and]
      tauto
  | containerIds _ | networkIds _ | volumeNames _ => simp [matchEntry, Shaped]

end Match

/-- All names of the entries of a list. -/
def occurrences (entries : List Value) : List String := entries.flatMap nativeNames

/-- The ids of the entries that satisfy a selector. -/
def satisfying (selector : Selector) (entries : List Value) : List NativeId :=
  (entries.filter (satisfies selector)).filterMap entryId

section List

variable {selector : Selector} {entry : Value} {entries : List Value} {listing next : Listing}

theorem listEntry_eq_ok_iff (h : rejectedByList selector = false) :
    listEntry selector listing entry = .ok next ↔
      (WellFormed selector entry ∧ LabelKey selector) ∧
        Fresh listing.seenIds (entryId entry).toList ∧
        Fresh listing.matchedNames ((nativeNames entry).flatMap (requested selector)) ∧
        next =
          { selected := listing.selected ++ satisfying selector [entry]
            matchedNames :=
              listing.matchedNames ++ (nativeNames entry).flatMap (requested selector)
            seenIds := listing.seenIds ++ (entryId entry).toList } := by
  rw [listEntry]
  constructor
  · intro hnext
    split at hnext
    · cases hnext
    next object hobject =>
    split at hnext
    · cases hnext
    next id hid =>
    split at hnext
    · cases hnext
    next hvalid =>
    split at hnext
    · cases hnext
    next hseen =>
    split at hnext
    · cases hnext
    next names found hmatch =>
    cases hnext
    obtain ⟨hshaped, hkey, hfresh, rfl, rfl⟩ := (matchEntry_eq_ok_iff h).mp hmatch
    have hentry : entryId entry = some id := hid
    refine ⟨⟨⟨by rw [hobject]; rfl, ⟨id, hentry, by simpa using hvalid⟩, hshaped⟩, hkey⟩, ?_,
      hfresh, ?_⟩
    · rw [hentry, Option.toList_some, fresh_singleton_iff]
      simpa using hseen
    · cases hsatisfies : satisfies selector entry <;> simp [satisfying, hsatisfies, hentry]
  · rintro ⟨⟨hformed, hkey⟩, hseen, hfresh, rfl⟩
    obtain ⟨object, hobject⟩ := Option.isSome_iff_exists.mp hformed.object
    obtain ⟨id, hentry, hvalid⟩ := hformed.id
    have hid : ((entry.get "Id").bind Value.asStr).bind NativeId.new = some id := hentry
    rw [hentry, Option.toList_some, fresh_singleton_iff] at hseen
    have hmatch := (matchEntry_eq_ok_iff h).mpr ⟨hformed.shaped, hkey, hfresh, rfl, rfl⟩
    simp only [hobject, hid, hvalid, hmatch]
    cases hsatisfies : satisfies selector entry <;> simp [satisfying, hsatisfies, hentry, hseen]

/-- The loop over the entries of a list. -/
theorem foldlM_listEntry_iff (h : rejectedByList selector = false) :
    entries.foldlM (listEntry selector) listing = .ok next ↔
      (∀ entry ∈ entries, WellFormed selector entry ∧ LabelKey selector) ∧
        Fresh listing.seenIds (entries.filterMap entryId) ∧
        Fresh listing.matchedNames ((occurrences entries).flatMap (requested selector)) ∧
        next =
          { selected := listing.selected ++ satisfying selector entries
            matchedNames :=
              listing.matchedNames ++ (occurrences entries).flatMap (requested selector)
            seenIds := listing.seenIds ++ entries.filterMap entryId } := by
  induction entries generalizing listing with
  | nil =>
      rw [List.foldlM_nil]
      constructor
      · rintro ⟨⟩
        exact ⟨by simp, fresh_nil, fresh_nil, by simp [satisfying, occurrences]⟩
      · rintro ⟨-, -, -, rfl⟩
        simp [satisfying, occurrences]
        rfl
  | cons entry entries ih =>
      have hids : (entry :: entries).filterMap entryId =
          (entryId entry).toList ++ entries.filterMap entryId := by
        cases hentry : entryId entry <;> simp [hentry]
      have hnames : (occurrences (entry :: entries)).flatMap (requested selector) =
          (nativeNames entry).flatMap (requested selector) ++
            (occurrences entries).flatMap (requested selector) := by
        rw [occurrences, List.flatMap_cons, List.flatMap_append, occurrences]
      have hpicked : satisfying selector (entry :: entries) =
          satisfying selector [entry] ++ satisfying selector entries := by
        rw [← List.singleton_append, satisfying, List.filter_append, List.filterMap_append]
        rfl
      rw [List.foldlM_cons, bind_eq_ok_iff, List.forall_mem_cons, hids, hnames, hpicked,
        fresh_append_iff, fresh_append_iff]
      simp only [listEntry_eq_ok_iff h, ih, ← List.append_assoc]
      constructor
      · rintro ⟨_, ⟨hentry, hseen, hfresh, rfl⟩, hentries, hseen', hfresh', rfl⟩
        exact ⟨⟨hentry, hentries⟩, ⟨hseen, hseen'⟩, ⟨hfresh, hfresh'⟩, rfl⟩
      · rintro ⟨⟨hentry, hentries⟩, ⟨hseen, hseen'⟩, ⟨hfresh, hfresh'⟩, rfl⟩
        exact ⟨_, ⟨hentry, hseen, hfresh, rfl⟩, hentries, hseen', hfresh', rfl⟩

/-- Every name of a selector was matched, or something was, where the selector asks for it. -/
def Matched (selector : Selector) (entries : List Value) : Prop :=
  match selector with
  | .containerNames names =>
      ((occurrences entries).flatMap (requested selector)).length = names.length
  | .namePrefix _ | .label _ _ => satisfying selector entries ≠ []
  | _ => True

/-- The lists that a selector takes; nothing here depends on their order. -/
structure Admitted (selector : Selector) (entries : List Value) : Prop where
  length : entries.length ≤ maxCollectionItems
  accepted : rejectedByList selector = false
  wellFormed : ∀ entry ∈ entries, WellFormed selector entry ∧ LabelKey selector
  ids : (entries.filterMap entryId).Nodup
  names : ((occurrences entries).flatMap (requested selector)).Nodup
  matched : Matched selector entries

theorem unmatched_eq_false_iff {listing : Listing}
    (hselected : listing.selected = satisfying selector entries)
    (hnames : listing.matchedNames = (occurrences entries).flatMap (requested selector)) :
    unmatched selector listing = false ↔ Matched selector entries := by
  cases selector with
  | containerNames names => simp [unmatched, Matched, hnames]
  | namePrefix _ | label _ _ =>
      rw [unmatched, Matched, hselected, List.isEmpty_eq_false_iff]
  | _ => simp [unmatched, Matched]

/-- A list yields the ids of the entries that satisfy the selector, or nothing at all. -/
theorem selectedIds_eq_ok_iff {fromSlice : Bytes → Option Value} {body : Bytes}
    {ids : List NativeId} :
    selectedIds fromSlice body selector = .ok ids ↔
      ∃ entries, (fromSlice body).bind Value.asArray = some entries ∧
        Admitted selector entries ∧ ids = satisfying selector entries := by
  rw [selectedIds]
  cases (fromSlice body).bind Value.asArray with
  | none => simp
  | some entries =>
      simp only [Option.some.injEq, exists_eq_left']
      constructor
      · intro h
        split at h
        · cases h
        next hlength =>
        split at h
        · cases h
        next haccepted =>
        rw [Bool.not_eq_true] at haccepted
        split at h
        · cases h
        next listing hlisting =>
        obtain ⟨hformed, hids, hnames, rfl⟩ := (foldlM_listEntry_iff haccepted).mp hlisting
        split at h
        · cases h
        next hmatched =>
        cases h
        rw [Bool.not_eq_true, unmatched_eq_false_iff rfl rfl] at hmatched
        exact ⟨⟨Nat.not_lt.mp hlength, haccepted, hformed, hids.nodup, hnames.nodup, hmatched⟩, rfl⟩
      · rintro ⟨h, rfl⟩
        have hlisting : entries.foldlM (listEntry selector) ⟨[], [], []⟩ =
            .ok ⟨satisfying selector entries, (occurrences entries).flatMap (requested selector),
              entries.filterMap entryId⟩ :=
          (foldlM_listEntry_iff h.accepted).mpr
            ⟨h.wellFormed, fresh_empty_iff.mpr h.ids, fresh_empty_iff.mpr h.names, rfl⟩
        have hmatched : unmatched selector ⟨satisfying selector entries,
            (occurrences entries).flatMap (requested selector), entries.filterMap entryId⟩ =
              false :=
          (unmatched_eq_false_iff rfl rfl).mpr h.matched
        rw [if_neg (Nat.not_lt.mpr h.length), if_neg (by simp [h.accepted]), hlisting]
        dsimp only
        rw [if_neg (by rw [hmatched]; simp)]

theorem Admitted.perm {entries' : List Value} (h : Admitted selector entries)
    (hperm : entries'.Perm entries) : Admitted selector entries' := by
  have hnames : ((occurrences entries').flatMap (requested selector)).Perm
      ((occurrences entries).flatMap (requested selector)) :=
    (hperm.flatMap_right _).flatMap_right _
  have hpicked : (satisfying selector entries').Perm (satisfying selector entries) :=
    (hperm.filter _).filterMap _
  refine ⟨hperm.length_eq ▸ h.length, h.accepted, fun entry hentry =>
    h.wellFormed entry (hperm.mem_iff.mp hentry), (hperm.filterMap _).nodup_iff.mpr h.ids,
    hnames.nodup_iff.mpr h.names, ?_⟩
  have hmatched := h.matched
  cases selector with
  | containerNames names =>
      rw [Matched] at hmatched ⊢
      rw [hnames.length_eq, hmatched]
  | namePrefix _ | label _ _ =>
      rw [Matched] at hmatched ⊢
      exact fun hnil => hmatched (List.nil_perm.mp (hnil ▸ hpicked))
  | _ => trivial

theorem count_requested {names : List NativeId} (hnames : (names.map NativeId.text).Nodup)
    {name : NativeId} (hname : name ∈ names) (native : String) :
    (requested (.containerNames names) native).count name.text =
      if native = stripSlash name.text then 1 else 0 := by
  have hsublist : (requested (.containerNames names) native).Sublist (names.map NativeId.text) :=
    List.filter_sublist.map _
  have hmem : name.text ∈ requested (.containerNames names) native ↔
      native = stripSlash name.text := by
    simp only [requested, List.mem_map, List.mem_filter, decide_eq_true_eq]
    constructor
    · rintro ⟨other, ⟨-, hother⟩, htext⟩
      rw [hother, htext]
    · exact fun h => ⟨name, ⟨hname, h⟩, rfl⟩
  rw [(hnames.sublist hsublist).count]
  simp only [hmem]

theorem count_flatMap_requested {names : List NativeId}
    (hnames : (names.map NativeId.text).Nodup) {name : NativeId} (hname : name ∈ names)
    (natives : List String) :
    (natives.flatMap (requested (.containerNames names))).count name.text =
      natives.count (stripSlash name.text) := by
  induction natives with
  | nil => rfl
  | cons native natives ih =>
      rw [List.flatMap_cons, List.count_append, ih, count_requested hnames hname, List.count_cons,
        Nat.add_comm]
      simp only [beq_iff_eq]

theorem Admitted.count_eq_one {names : List NativeId}
    (h : Admitted (.containerNames names) entries) {name : NativeId} (hname : name ∈ names) :
    (occurrences entries).count (stripSlash name.text) = 1 := by
  have hlength : ((occurrences entries).flatMap (requested (.containerNames names))).length =
      names.length := h.matched
  have hsubset : (occurrences entries).flatMap (requested (.containerNames names)) ⊆
      names.map NativeId.text := by
    intro text htext
    obtain ⟨native, -, hmem⟩ := List.mem_flatMap.mp htext
    exact (List.filter_sublist.map _).subset hmem
  have hperm : ((occurrences entries).flatMap (requested (.containerNames names))).Perm
      (names.map NativeId.text) :=
    (List.subperm_of_subset h.names hsubset).perm_of_length_le (by simp [hlength])
  rw [← count_flatMap_requested (hperm.nodup_iff.mp h.names) hname, hperm.count_eq]
  exact List.count_eq_one_of_mem (hperm.nodup_iff.mp h.names) (List.mem_map_of_mem hname)

theorem requested_eq_nil_of_not_satisfies (h : satisfies selector entry = false) :
    (nativeNames entry).flatMap (requested selector) = [] := by
  cases selector with
  | containerNames names =>
      rw [satisfies, List.any_eq_false] at h
      rw [List.flatMap_eq_nil_iff]
      intro native hnative
      have hnone := h native hnative
      rw [satisfiesName, List.any_eq_true] at hnone
      rw [requested, List.map_eq_nil_iff, List.filter_eq_nil_iff]
      exact fun name hname hsame => hnone ⟨name, hname, hsame⟩
  | _ => exact flatMap_requested_eq_nil (by simp) _

/-- A list with one more entry, which does not satisfy the selector. -/
theorem Admitted.insert {front back : List Value} (h : Admitted selector (front ++ back))
    (hlength : (front ++ entry :: back).length ≤ maxCollectionItems)
    (hformed : WellFormed selector entry) (hkey : LabelKey selector)
    (hnew : entryId entry ∉ (front ++ back).map entryId)
    (hsatisfies : satisfies selector entry = false) :
    Admitted selector (front ++ entry :: back) ∧
      satisfying selector (front ++ entry :: back) = satisfying selector (front ++ back) := by
  have hpicked : satisfying selector (front ++ entry :: back) =
      satisfying selector (front ++ back) := by
    rw [satisfying, satisfying, List.filter_append, List.filter_append,
      List.filter_cons_of_neg (by simp [hsatisfies])]
  have hnames : (occurrences (front ++ entry :: back)).flatMap (requested selector) =
      (occurrences (front ++ back)).flatMap (requested selector) := by
    simp only [occurrences, List.flatMap_append, List.flatMap_cons,
      requested_eq_nil_of_not_satisfies hsatisfies, List.nil_append]
  refine ⟨⟨hlength, h.accepted, ?_, ?_, hnames ▸ h.names, ?_⟩, hpicked⟩
  · intro other hother
    rcases List.mem_append.mp hother with hfront | hback
    · exact h.wellFormed other (List.mem_append_left _ hfront)
    · rcases List.mem_cons.mp hback with rfl | hback
      · exact ⟨hformed, hkey⟩
      · exact h.wellFormed other (List.mem_append_right _ hback)
  · obtain ⟨id, hid, -⟩ := hformed.id
    have hmiddle : ((front ++ entry :: back).filterMap entryId).Perm
        (id :: (front ++ back).filterMap entryId) := by
      have hperm : (front ++ entry :: back).Perm (entry :: (front ++ back)) := List.perm_middle
      have hmapped := hperm.filterMap entryId
      rwa [List.filterMap_cons_some hid] at hmapped
    rw [hmiddle.nodup_iff, List.nodup_cons]
    refine ⟨fun hmem => hnew ?_, h.ids⟩
    obtain ⟨other, hother, hsame⟩ := List.mem_filterMap.mp hmem
    rw [hid, ← hsame]
    exact List.mem_map_of_mem hother
  · have hmatched := h.matched
    cases selector with
    | containerNames names =>
        rw [Matched] at hmatched ⊢
        rw [hnames, hmatched]
    | namePrefix _ | label _ _ =>
        rw [Matched] at hmatched ⊢
        rw [hpicked]
        exact hmatched
    | _ => trivial

/-- The ids that a selector takes from a list. -/
structure Exact (selector : Selector) (entries : List Value) (ids : List NativeId) : Prop where
  eq : ids = (entries.filter (satisfies selector)).filterMap entryId
  sublist : ids.Sublist (entries.filterMap entryId)
  nodup : ids.Nodup
  valid : ∀ entry ∈ entries, ∃ id, entryId entry = some id ∧ validExactContainerId id = true
  mem_iff : ∀ entry ∈ entries, ∀ id, entryId entry = some id →
    (id ∈ ids ↔ satisfies selector entry = true)
  once : ∀ names, selector = .containerNames names → ∀ name ∈ names,
    (occurrences entries).count (stripSlash name.text) = 1

theorem Admitted.entry_eq (h : Admitted selector entries) {other : Value}
    (hother : other ∈ entries) (hentry : entry ∈ entries) {id : NativeId}
    (hid : entryId other = some id) (hsame : entryId entry = some id) : other = entry := by
  have hpairwise := List.pairwise_filterMap.mp h.ids
  have : Std.Symm fun left right =>
      ∀ id, entryId left = some id → ∀ id', entryId right = some id' → id ≠ id' :=
    ⟨fun left right hne id hid id' hid' heq => hne id' hid' id hid heq.symm⟩
  by_contra hne
  exact hpairwise.forall hother hentry hne id hid id hsame rfl

theorem Admitted.exact (h : Admitted selector entries) :
    Exact selector entries (satisfying selector entries) := by
  have hsublist : (satisfying selector entries).Sublist (entries.filterMap entryId) :=
    List.filter_sublist.filterMap _
  refine ⟨rfl, hsublist, h.ids.sublist hsublist,
    fun entry hentry => (h.wellFormed entry hentry).1.id,
    ?_, ?_⟩
  · intro entry hentry id hid
    rw [satisfying, List.mem_filterMap]
    constructor
    · rintro ⟨other, hother, hsame⟩
      rw [List.mem_filter] at hother
      have heq : other = entry := h.entry_eq hother.1 hentry hsame hid
      exact heq ▸ hother.2
    · exact fun hsatisfies => ⟨entry, List.mem_filter.mpr ⟨hentry, hsatisfies⟩, hid⟩
  · rintro names rfl name hname
    exact h.count_eq_one hname

theorem Admitted.labelKey (h : Admitted selector entries) : LabelKey selector := by
  have hmatched := h.matched
  cases selector with
  | label key value =>
      rw [Matched] at hmatched
      obtain ⟨id, hid⟩ := List.exists_mem_of_ne_nil _ hmatched
      obtain ⟨entry, hentry, -⟩ := List.mem_filterMap.mp hid
      exact (h.wellFormed entry (List.mem_filter.mp hentry).1).2
  | _ => trivial

/-- What a selector takes from a list are exactly the entries that satisfy it, in the order of
the list. Another entry that does not satisfy it leaves what is taken as it was, as long as the
list stays within the collection bound. -/
theorem selectedIds_exact {fromSlice : Bytes → Option Value} {body : Bytes} {ids : List NativeId}
    (h : selectedIds fromSlice body selector = .ok ids) :
    ∃ entries, (fromSlice body).bind Value.asArray = some entries ∧
      Exact selector entries ids ∧
      (∀ body' entries', (fromSlice body').bind Value.asArray = some entries' →
        entries'.Perm entries →
        ∃ ids', selectedIds fromSlice body' selector = .ok ids' ∧
          Exact selector entries' ids' ∧ ids'.Perm ids) ∧
      ∀ body' front entry back,
        (fromSlice body').bind Value.asArray = some (front ++ entry :: back) →
        entries = front ++ back → WellFormed selector entry →
        entryId entry ∉ entries.map entryId → satisfies selector entry = false →
        selectedIds fromSlice body' selector =
          if entries.length < maxCollectionItems then .ok ids else .error .shape := by
  obtain ⟨entries, hentries, hadmitted, rfl⟩ := selectedIds_eq_ok_iff.mp h
  refine ⟨entries, hentries, hadmitted.exact, ?_, ?_⟩
  · intro body' entries' hentries' hperm
    have hadmitted' := hadmitted.perm hperm
    exact ⟨_, selectedIds_eq_ok_iff.mpr ⟨entries', hentries', hadmitted', rfl⟩, hadmitted'.exact,
      (hperm.filter _).filterMap _⟩
  · rintro body' front entry back hentries' rfl hformed hnew hsatisfies
    have hlength : (front ++ entry :: back).length = (front ++ back).length + 1 := by
      simp only [List.length_append, List.length_cons]
      omega
    split
    · next hroom =>
        obtain ⟨hadmitted', hsame⟩ := hadmitted.insert (hlength ▸ hroom) hformed
          hadmitted.labelKey hnew hsatisfies
        exact selectedIds_eq_ok_iff.mpr ⟨_, hentries', hadmitted', hsame.symm⟩
    · next hfull =>
        rw [selectedIds, hentries']
        dsimp only
        rw [if_pos (by omega)]

end List

/-- A list of two containers, the second of which is named. -/
def webList : Bytes :=
  asBytes ("[" ++
    "\x7b\"Id\":\"aaaaaaaaaaaaaaaaaaaaaaaaaaaaaaaaaaaaaaaaaaaaaaaaaaaaaaaaaaaaaaaa\"," ++
    "\"Names\":[\"/db\"]\x7d," ++
    "\x7b\"Id\":\"bbbbbbbbbbbbbbbbbbbbbbbbbbbbbbbbbbbbbbbbbbbbbbbbbbbbbbbbbbbbbbbb\"," ++
    "\"Names\":[\"/web\",\"/db/web\"]\x7d]")

theorem selectedIds_exact_web :
    ∃ ids entries, selectedIds fromSlice webList (.containerNames [⟨"web", by decide⟩]) = .ok ids ∧
      (fromSlice webList).bind Value.asArray = some entries ∧
      Exact (.containerNames [⟨"web", by decide⟩]) entries ids := by
  obtain ⟨ids, h⟩ := exists_of_isOk
    (show (selectedIds fromSlice webList (.containerNames [⟨"web", by decide⟩])).isOk = true by
      decide +kernel)
  obtain ⟨entries, hentries, hexact, -⟩ := selectedIds_exact h
  exact ⟨ids, entries, h, hentries, hexact⟩

section Full

/-- An id of 64 binary digits. -/
def idText (value : Nat) : List Char :=
  (List.range 64).map fun place => if value.testBit place then '1' else '0'

def listed (value : Nat) : Value := .object [("Id", .string (String.ofList (idText value)))]

def listedText (value : Nat) : List Char :=
  '\x7b' :: ('"' :: 'I' :: 'd' :: '"' :: ':' :: '"' :: (idText value ++ ['"'])) ++ ['\x7d']

/-- A list body with an entry and others after it. -/
def listedBody (value : Nat) (values : List Nat) : Bytes :=
  asBytes (String.ofList
    ('[' :: (listedText value ++ values.flatMap (',' :: listedText ·)) ++ [']']))

theorem mem_idText {value : Nat} {char : Char} (h : char ∈ idText value) :
    char = '1' ∨ char = '0' := by
  obtain ⟨place, -, rfl⟩ := List.mem_map.mp h
  split
  · exact .inl rfl
  · exact .inr rfl

theorem idText_inj {left right : Nat} (hleft : left < 2 ^ 64) (hright : right < 2 ^ 64)
    (h : idText left = idText right) : left = right := by
  apply Nat.eq_of_testBit_eq
  intro place
  by_cases hplace : place < 64
  · have hsame := List.map_inj_left.mp h place (List.mem_range.mpr hplace)
    cases hbit : left.testBit place <;> cases hbit' : right.testBit place <;>
      simp [hbit, hbit'] at hsame ⊢
  · have hpow : 2 ^ 64 ≤ 2 ^ place := Nat.pow_le_pow_right (by decide) (by omega)
    rw [Nat.testBit_lt_two_pow (by omega), Nat.testBit_lt_two_pow (by omega)]

theorem spells_listed (value : Nat) : Spells (listed value) (listedText value) := by
  have hkey : Quotes "Id" ['"', 'I', 'd', '"'] :=
    @quotes_plain ['I', 'd'] (forall_mem_of_all (by decide))
  have hid : Quotes (String.ofList (idText value)) ('"' :: (idText value ++ ['"'])) := by
    apply quotes_plain
    intro char hchar
    rcases mem_idText hchar with rfl | rfl <;> decide
  exact @Members.spells _ _ [] (.singleton hkey hid.spells) (by simp) rfl

theorem normalize_listed (value : Nat) : Json.normalize (listed value) = listed value := by
  simp [listed, Json.normalize, sortMembers, insertMember]

theorem fromSlice_listedBody (value : Nat) (values : List Nat) :
    (fromSlice (listedBody value values)).bind Value.asArray =
      some ((value :: values).map listed) := by
  have helements : ∀ values : List Nat,
      Elements (values.map listed) (values.flatMap (',' :: listedText ·)) := by
    intro values
    induction values with
    | nil => exact .nil
    | cons value values ih => exact .cons (spells_listed value) ih
  have hspells : Spells (.array ((value :: values).map listed))
      ('[' :: (listedText value ++ values.flatMap (',' :: listedText ·)) ++ [']']) :=
    (helements (value :: values)).spells (by simp)
  rw [listedBody, fromSlice_of_spells hspells, Json.normalize, normalizeAll_eq_map, List.map_map]
  simp [Function.comp_def, normalize_listed, Value.asArray]

theorem idText_ne_nil (value : Nat) : idText value ≠ [] := by
  simp [idText]

def listedId (value : Nat) : NativeId :=
  ⟨String.ofList (idText value), by simp [idText_ne_nil]⟩

theorem entryId_listed (value : Nat) : entryId (listed value) = some (listedId value) := by
  simp [entryId, listed, listedId, Value.get_object, Value.asStr, NativeId.new, idText_ne_nil]

theorem wellFormed_listed (value : Nat) : WellFormed .discovery (listed value) := by
  refine ⟨rfl, ⟨_, entryId_listed value, ?_⟩, trivial⟩
  have hascii : ∀ char ∈ idText value, char.toNat < 128 := by
    intro char hchar
    rcases mem_idText hchar with rfl | rfl <;> decide
  rw [validExactContainerId, listedId, asBytes_ascii hascii, Bool.and_eq_true, List.all_eq_true]
  refine ⟨by simp [idText], ?_⟩
  intro byte hbyte
  obtain ⟨char, hchar, rfl⟩ := List.mem_map.mp hbyte
  rcases mem_idText hchar with rfl | rfl <;> decide

theorem listedId_inj {left right : Nat} (hleft : left < 2 ^ 64) (hright : right < 2 ^ 64)
    (h : listedId left = listedId right) : left = right := by
  rw [listedId, listedId, NativeId.mk.injEq] at h
  exact idText_inj hleft hright (String.ofList_injective h)

/-- An entry that a full list has no room for. -/
theorem selectedIds_full :
    ∃ entries, (fromSlice (listedBody 0 (List.range' 1 4095))).bind Value.asArray = some entries ∧
      selectedIds fromSlice (listedBody 0 (List.range' 1 4095)) .discovery = .ok [] ∧
      WellFormed .discovery (listed 4096) ∧
      entryId (listed 4096) ∉ entries.map entryId ∧
      satisfies .discovery (listed 4096) = false ∧
      (fromSlice (listedBody 0 (List.range' 1 4096))).bind Value.asArray =
        some (entries ++ [listed 4096]) ∧
      selectedIds fromSlice (listedBody 0 (List.range' 1 4096)) .discovery = .error .shape := by
  have hlt : ∀ value ∈ 0 :: List.range' 1 4095, value < 4096 := by
    intro value hvalue
    rw [List.mem_cons, List.mem_range'_1] at hvalue
    omega
  have hnew : entryId (listed 4096) ∉ ((0 :: List.range' 1 4095).map listed).map entryId := by
    rw [List.map_map, List.mem_map]
    rintro ⟨value, hvalue, hsame⟩
    rw [Function.comp_apply, entryId_listed, entryId_listed, Option.some.injEq] at hsame
    have hvalue := hlt value hvalue
    exact absurd (listedId_inj (by omega) (by decide) hsame) (by omega)
  have hids : (((0 :: List.range' 1 4095).map listed).filterMap entryId).Nodup := by
    have hmapped : ((0 :: List.range' 1 4095).map listed).filterMap entryId =
        (0 :: List.range' 1 4095).map listedId := by
      rw [List.filterMap_map, ← List.filterMap_eq_map]
      congr 1
      funext value
      exact entryId_listed value
    rw [hmapped]
    apply List.Nodup.map_on
    · intro left hleft right hright hsame
      have hleft := hlt left hleft
      have hright := hlt right hright
      exact listedId_inj (by omega) (by omega) hsame
    · rw [List.nodup_cons, List.mem_range'_1]
      exact ⟨by omega, List.nodup_range'⟩
  have hadmitted : Admitted .discovery ((0 :: List.range' 1 4095).map listed) := by
    refine ⟨by simp [maxCollectionItems], rfl, ?_, hids, ?_, trivial⟩
    · intro entry hentry
      obtain ⟨value, -, rfl⟩ := List.mem_map.mp hentry
      exact ⟨wellFormed_listed value, trivial⟩
    · rw [flatMap_requested_eq_nil (by simp)]
      exact List.nodup_nil
  have hpicked : satisfying .discovery ((0 :: List.range' 1 4095).map listed) = [] := by
    simp [satisfying, satisfies]
  refine ⟨_, fromSlice_listedBody _ _, ?_, wellFormed_listed 4096, hnew, rfl, ?_, ?_⟩
  · exact selectedIds_eq_ok_iff.mpr ⟨_, fromSlice_listedBody _ _, hadmitted, hpicked.symm⟩
  · rw [fromSlice_listedBody, List.range'_concat]
    simp
  · rw [selectedIds, fromSlice_listedBody]
    dsimp only
    rw [if_pos (by simp [maxCollectionItems])]

end Full

end DockerLens.Acquisition
