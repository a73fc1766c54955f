import DockerLens.Acquisition.Response
import DockerLens.Acquisition.Tightness
import DockerLens.Decoder.Capture
import DockerLens.Json.Spelling

namespace DockerLens.Decoder

open DockerLens.Text
open DockerLens.Json
open DockerLens.Observation
open DockerLens.Version
open DockerLens.Evidence
open DockerLens.Acquisition
open DockerLens.Fold

/-- Two fixed reads, one list if the selector has the containers listed, and one inspection an
expansion. -/
theorem acquire_exchanges_le {fromSlice : Bytes → Option Value} {daemon : Daemon}
    {selector : Selector} {limits : Limits} {capture : Capture}
    (h : acquire fromSlice daemon selector limits = .ok capture) :
    (∃ inspections, capture.exchanges.map CapturedExchange.request =
        [.daemonVersion, .daemonInfo] ++ (if selector.lists then [.listContainers] else []) ++
          inspections ∧
      (∀ request ∈ inspections, request.inspected.isSome = true) ∧
      inspections.length = capture.bounds.expansions) ∧
      (listBody capture).isSome = selector.lists ∧
      capture.exchanges.length =
        2 + (if selector.lists then 1 else 0) + capture.bounds.expansions ∧
      capture.exchanges.length ≤ limits.maxRequests ∧
      capture.exchanges.length ≤ 3 + limits.maxExpansions ∧
      (limits.maxRequests ≤ maxCollectionItems ∨
          3 + limits.maxExpansions ≤ maxCollectionItems →
        decodeCapture fromSlice capture = (do
          let decoding ← capture.exchanges.foldlM (decodeExchange fromSlice capture)
            Decoding.start
          finish capture decoding)) := by
  obtain ⟨history, hacquired⟩ := acquire_eq_ok h
  have hrequests := hacquired.fits.requests_le
  rw [hacquired.requestCount_eq] at hrequests
  have hexpansions := hacquired.fits.expansions_le
  have hfound : (history.found.map Inspection.request).length = capture.bounds.expansions := by
    rw [List.length_map, hacquired.expansions_eq]
  have hlength : capture.exchanges.length =
      2 + (if selector.lists then 1 else 0) + capture.bounds.expansions := by
    have hall := congrArg List.length hacquired.requests_eq
    rw [List.length_map, List.length_append, List.length_append, hfound] at hall
    rw [hall]
    cases selector.lists <;> rfl
  have hmost : capture.exchanges.length ≤ 3 + capture.bounds.expansions := by
    rw [hlength]
    split <;> omega
  refine ⟨⟨_, hacquired.requests_eq, ?_, hfound⟩, ?_, hlength, hrequests, by omega,
    fun hlimits => ?_⟩
  · intro request hrequest
    obtain ⟨inspection, -, rfl⟩ := List.mem_map.mp hrequest
    simp
  · rw [hacquired.listBody_eq]
    exact isSome_of_picks hacquired.picks
  · rw [decodeCapture, if_neg]
    omega

theorem acquire_exchanges_le_volume :
    ∃ capture, acquire Json.fromSlice (.fixed ⟨1⟩ volumeStream) volumeSelector wideLimits =
        .ok capture ∧
      listBody capture = none ∧ capture.exchanges.length ≤ 6 ∧
      decodeCapture Json.fromSlice capture = (do
        let decoding ← capture.exchanges.foldlM (decodeExchange Json.fromSlice capture)
          Decoding.start
        finish capture decoding) := by
  obtain ⟨capture, h⟩ := exists_of_isOk (show (acquire Json.fromSlice
    (.fixed ⟨1⟩ volumeStream) volumeSelector wideLimits).isOk = true by decide +kernel)
  obtain ⟨-, hlist, -, hrequests, -, hdecode⟩ := acquire_exchanges_le h
  exact ⟨capture, h, by simpa [volumeSelector, Selector.lists] using hlist, hrequests,
    hdecode (.inl (by decide))⟩

/-! A daemon with any number of volumes, each named by four digits. -/

def digit (value : Nat) : Char := Char.ofNat (48 + value % 10)

def digits (value : Nat) : List Char :=
  [digit (value / 1000), digit (value / 100), digit (value / 10), digit value]

theorem digit_mem (value : Nat) : digit value ∈ "0123456789".toList := by
  have hall : ∀ value : Fin 10, Char.ofNat (48 + value.val) ∈ "0123456789".toList := by decide
  exact hall ⟨value % 10, Nat.mod_lt _ (by decide)⟩

theorem digit_inj {left right : Nat} (h : digit left = digit right) : left % 10 = right % 10 := by
  have hall : ∀ left right : Fin 10, Char.ofNat (48 + left.val) = Char.ofNat (48 + right.val) →
      left.val = right.val := by decide
  exact hall ⟨left % 10, Nat.mod_lt _ (by decide)⟩ ⟨right % 10, Nat.mod_lt _ (by decide)⟩ h

theorem digits_inj {left right : Nat} (hleft : left < 10000) (hright : right < 10000)
    (h : digits left = digits right) : left = right := by
  simp only [digits, List.cons.injEq, and_true] at h
  obtain ⟨hthousands, hhundreds, htens, hones⟩ := h
  have := digit_inj hthousands
  have := digit_inj hhundreds
  have := digit_inj htens
  have := digit_inj hones
  omega

theorem decimal_of_mem {value : Nat} {char : Char} (h : char ∈ digits value) :
    char ∈ "0123456789".toList := by
  simp only [digits, List.mem_cons, List.not_mem_nil, or_false] at h
  rcases h with rfl | rfl | rfl | rfl
  all_goals exact digit_mem _

theorem digits_ascii (value : Nat) : ∀ char ∈ digits value, char.toNat < 128 := by
  have hall : ∀ char ∈ "0123456789".toList, char.toNat < 128 := forall_mem_of_all (by decide)
  exact fun char hchar => hall char (decimal_of_mem hchar)

def volumeText (value : Nat) : String := String.ofList (digits value)

theorem asBytes_volumeText (value : Nat) :
    asBytes (volumeText value) = (digits value).map fun char => UInt8.ofNat char.toNat :=
  asBytes_ascii (digits_ascii value)

def volumeName (value : Nat) : NativeId :=
  ⟨volumeText value, fun h => by
    have hlength := congrArg String.toList h
    simp [volumeText, digits] at hlength⟩

theorem validVolumeName_volumeName (value : Nat) : validVolumeName (volumeText value) = true := by
  have hall : ∀ char ∈ "0123456789".toList, char ≠ '/' ∧
      isAsciiAlphanumeric (UInt8.ofNat char.toNat) = true := forall_mem_of_all (by decide)
  have hslash := (hall _ (digit_mem (value / 1000))).1
  have hstrip : stripSlash (volumeText value) = volumeText value := by
    rw [stripSlash, volumeText, String.toList_ofList]
    split
    · next rest heq =>
        rw [digits, List.cons.injEq] at heq
        exact absurd heq.1 hslash
    · rfl
  have hbytes : ∀ byte ∈ asBytes (volumeText value), isAsciiAlphanumeric byte = true := by
    intro byte hbyte
    rw [asBytes_volumeText, List.mem_map] at hbyte
    obtain ⟨char, hchar, rfl⟩ := hbyte
    exact (hall char (decimal_of_mem hchar)).2
  rw [validVolumeName, validLiteralName, hstrip]
  simp only [Bool.and_eq_true, Bool.not_eq_true', decide_eq_true_eq, List.all_eq_true,
    Bool.or_eq_true]
  refine ⟨?_, ⟨?_, ?_⟩, fun byte hbyte => .inl (.inl (.inl (hbytes byte hbyte)))⟩
  · simpa [volumeText, digits] using hslash
  · rw [asBytes_volumeText, List.length_map]
    simp [digits]
  · rw [asBytes_volumeText, digits]
    simpa using (hall _ (digit_mem (value / 1000))).2

/-- The document of an inspected volume. -/
def volumeDocument (name : List Char) : String :=
  "\x7b\"Name\":\"" ++ String.ofList name ++ "\"\x7d"

theorem toList_volumeDocument (name : List Char) : (volumeDocument name).toList =
    '\x7b' :: (('"' :: ("Name".toList ++ ['"'])) ++ ':' :: ('"' :: (name ++ ['"']))) ++
      ([] ++ ['\x7d']) ++ [] := by
  have hopening : "\x7b\"Name\":\"".toList =
      '\x7b' :: '"' :: ("Name".toList ++ ['"', ':', '"']) := by decide
  have hclosing : "\"\x7d".toList = ['"', '\x7d'] := by decide
  rw [volumeDocument, String.toList_append, String.toList_append, hopening, hclosing]
  simp only [String.toList_ofList, List.cons_append, List.append_assoc, List.nil_append,
    List.append_nil]

theorem quotes_volumeText (value : Nat) :
    Quotes (volumeText value) ('"' :: (digits value ++ ['"'])) := by
  have hall : ∀ char ∈ "0123456789".toList, char ≠ '"' ∧ char ≠ '\\' ∧ ¬ char.toNat < 0x20 :=
    forall_mem_of_all (by decide)
  exact quotes_plain fun char hchar => hall char (decimal_of_mem hchar)

theorem fromSlice_volumeDocument (value : Nat) :
    Json.fromSlice (asBytes (volumeDocument (digits value))) =
      some (.object [("Name", .string (volumeText value))]) := by
  have hname : Quotes "Name" ('"' :: ("Name".toList ++ ['"'])) :=
    quotes_plain (forall_mem_of_all (by decide))
  have hspells : Spells (.object [("Name", .string (volumeText value))])
      ('\x7b' :: (('"' :: ("Name".toList ++ ['"'])) ++ ':' :: ('"' :: (digits value ++ ['"']))) ++
        ([] ++ ['\x7d'])) :=
    (Members.singleton hname (quotes_volumeText value).spells).spells (by simp) rfl
  have hpad : ([] : List Char).all isSpace = true := rfl
  have hparse := hspells.parse_eq hpad
  rw [Json.fromSlice, fromUtf8_asBytes]
  dsimp only
  rw [toList_volumeDocument, hparse, Option.map_some, Json.normalize, normalizeMembers_eq_map]
  simp [sortMembers, insertMember, Json.normalize]

theorem length_volumeDocument (value : Nat) :
    (asBytes (volumeDocument (digits value))).length = 15 := by
  have hopening : (asBytes "\x7b\"Name\":\"").length = 9 := by decide
  have hclosing : (asBytes "\"\x7d").length = 2 := by decide
  rw [volumeDocument, asBytes_append, asBytes_append, asBytes_ascii (digits_ascii value),
    List.length_append, List.length_append, hopening, hclosing, List.length_map]
  rfl

/-- A response of fifteen bytes. -/
def shortResponse (body : Bytes) (h : body.length = 15) : Response where
  version := "HTTP/1.1"
  status := okStatus
  reason := ""
  before := []
  delivery := .length ⟨"Content-Length", "15", by decide, by decide, by decide⟩ body
    ⟨by decide, by rw [h]; decide⟩
  after := []
  version_eq := version_supported
  reason_start := .inl rfl
  reason_line := by decide
  before_plain := fun field hfield => absurd hfield List.not_mem_nil
  after_plain := List.forall_mem_nil _

/-- What the daemon answers: its volumes have the last part of the path for a name. -/
def manyStream (path : String) : Except AcquisitionError Wire :=
  if path = "/version" then respond "\x7b\"ApiVersion\":\"1.49\"\x7d"
  else if path = "/v1.49/info" then respond "\x7b\x7d"
  else
    .ok ⟨[asBytes "HTTP/1.1 200\r\nContent-Length:15\r\n\r\n",
      asBytes (volumeDocument (path.toList.drop 15))], none⟩

def volumePath (value : Nat) : String := "/v1.49/volumes/" ++ volumeText value

theorem requestPath_volume (value : Nat) :
    requestPath (.inspectVolume (volumeName value)) (some knownApi) = .ok (volumePath value) := by
  have hall : ∀ char ∈ "0123456789".toList, encodeByte (UInt8.ofNat char.toNat) = [char] :=
    forall_mem_of_all (by decide)
  have hencode : (asBytes (volumeText value)).flatMap encodeByte = digits value := by
    rw [asBytes_volumeText, List.flatMap_map]
    have hdigits : ∀ chars : List Char, (∀ char ∈ chars, char ∈ "0123456789".toList) →
        chars.flatMap (fun char => encodeByte (UInt8.ofNat char.toNat)) = chars := by
      intro chars hchars
      induction chars with
      | nil => rfl
      | cons char chars ih =>
          rw [List.forall_mem_cons] at hchars
          rw [List.flatMap_cons, hall char hchars.1, ih hchars.2]
          rfl
    exact hdigits _ fun _ => decimal_of_mem
  have hlength : ¬ (asBytes (volumeText value)).length > 1024 := by
    rw [asBytes_volumeText]
    simp [digits]
  have hsegment : encodeSegment (volumeName value) = .ok (volumeText value) := by
    rw [encodeSegment, volumeName, if_neg hlength, hencode]
    rfl
  have hprefix : apiPrefix knownApi = "/v1.49" := by decide
  rw [requestPath, hsegment, hprefix, volumePath]
  rfl

theorem httpGet_volume (value : Nat) {allowance : Nat} (hsmall : 15 ≤ allowance)
    (hallowance : allowance ≤ usizeMax) :
    ∃ wire, manyStream (volumePath value) = .ok wire ∧
      httpGet wire allowance =
        .ok (okStatus, asBytes (volumeDocument (digits value))) := by
  have hlength : (volumePath value).toList.length = 19 := by
    simp [volumePath, volumeText, digits]
  have hversion : volumePath value ≠ "/version" := by
    intro heq
    rw [heq] at hlength
    exact absurd hlength (by decide)
  have hinfo : volumePath value ≠ "/v1.49/info" := by
    intro heq
    rw [heq] at hlength
    exact absurd hlength (by decide)
  have hname : (volumePath value).toList.drop 15 = digits value := by
    simp [volumePath, volumeText]
  refine ⟨_, by rw [manyStream, if_neg hversion, if_neg hinfo], ?_⟩
  rw [hname]
  generalize hdocument : asBytes (volumeDocument (digits value)) = body
  have hbody : body.length = 15 := by rw [← hdocument, length_volumeDocument]
  have hhead : (shortResponse body hbody).head =
      asBytes "HTTP/1.1 200\r\nContent-Length:15\r\n\r\n" := by
    have htext : Response.headText (shortResponse body hbody).lines =
        "HTTP/1.1 200\r\nContent-Length:15\r\n\r\n" := by
      rw [Response.lines]
      simp [shortResponse, Response.fields, Response.statusText, Response.headText,
        Delivery.field, Field.text, okStatus]
      decide
    rw [Response.head, htext]
  have hstream : (⟨[asBytes "HTTP/1.1 200\r\nContent-Length:15\r\n\r\n", body], none⟩ :
      Wire).stream = (shortResponse body hbody).bytes ++ [] := by
    rw [Response.bytes, hhead, Wire.stream]
    simp [shortResponse, Delivery.bytes]
  have hsolid : (⟨[asBytes "HTTP/1.1 200\r\nContent-Length:15\r\n\r\n", body], none⟩ :
      Wire).Solid := by
    simp only [Wire.Solid, List.mem_cons, List.not_mem_nil, or_false, not_or]
    refine ⟨by decide, ?_⟩
    rintro rfl
    contradiction
  exact httpGet_response (shortResponse body hbody) hallowance (by rw [hhead]; decide)
    (by rw [show (shortResponse body hbody).body = body from rfl, hbody]; exact hsmall)
    hsolid hstream

/-- The daemon of all these volumes. -/
def manyDaemon : Daemon := .fixed ⟨1⟩ manyStream

/-- Limits that leave room for more than the decoder takes. -/
def manyLimits : Limits := ⟨5000, 5000, 5000, 100, 1000000, 1, by decide⟩

/-- The state of the volume loop after some of its volumes. -/
structure Ready (done : List NativeId) (progress : Progress) : Prop where
  sound : progress.budget.Sound
  failed : progress.budget.failed = false
  pending : progress.budget.pending = none
  limits_eq : progress.budget.limits = manyLimits
  requests_eq : progress.budget.requests = 2 + done.length
  expansions_eq : progress.budget.expansions = done.length
  bytes_le : progress.budget.bytesRead ≤ 100 * (2 + done.length)
  references : ∀ entry ∈ progress.budget.resourceIds, entry.1.localIndex ≤ done.length
  natives : ∀ entry ∈ progress.budget.nativeRefs, ∃ name ∈ done, entry.1 = (.volume, name)
  next_eq : progress.nextReference = done.length + 1

theorem lookup_eq_none {κ α : Type} [BEq κ] [LawfulBEq κ] {entries : List (κ × α)} {key : κ}
    (h : ∀ entry ∈ entries, entry.1 ≠ key) : entries.lookup key = none := by
  rw [List.lookup_eq_none_iff]
  intro entry hentry
  exact bne_iff_ne.mpr (h entry hentry).symm

theorem mem_orInsert {κ α : Type} [BEq κ] {entries : List (κ × α)} {key : κ} {value : α}
    {entry : κ × α} (h : entry ∈ Budget.orInsert entries key value) :
    entry = (key, value) ∨ entry ∈ entries := by
  rw [Budget.orInsert] at h
  split at h
  · exact .inr h
  · exact List.mem_cons.mp h

theorem Ready.requestable {done : List NativeId} {progress : Progress} {name : NativeId}
    (h : Ready done progress) (hfresh : name ∉ done) (hcount : done.length < 4900) :
    progress.budget.Requestable 0 (.inspectVolume name) (some ⟨done.length + 1⟩)
      (some knownApi) := by
  have hfreshReference : progress.budget.resourceIds.lookup ⟨done.length + 1⟩ = none := by
    apply lookup_eq_none
    intro entry hentry heq
    have hle := h.references entry hentry
    rw [heq] at hle
    exact absurd hle (Nat.not_succ_le_self _)
  have hfreshNative : progress.budget.nativeRefs.lookup (.volume, name) = none := by
    apply lookup_eq_none
    intro entry hentry heq
    obtain ⟨known, hknown, hentryEq⟩ := h.natives entry hentry
    rw [hentryEq, Prod.mk.injEq] at heq
    exact hfresh (heq.2 ▸ hknown)
  refine ⟨⟨h.failed, Nat.zero_le _⟩, h.pending, rfl, .inr rfl, ?_, ?_, ?_⟩
  · rintro reference object ⟨⟩ ⟨⟩
    rw [Budget.conflicts, hfreshReference, hfreshNative]
    rfl
  · intro _
    rw [h.limits_eq, h.expansions_eq]
    exact Nat.le_trans hcount (by decide)
  · rw [h.limits_eq, h.requests_eq]
    have hmax : manyLimits.maxRequests = 5000 := rfl
    omega

theorem Ready.completed {done : List NativeId} {progress : Progress} {name : NativeId}
    {body : Bytes} (h : Ready done progress) (hbody : body.length ≤ 100)
    (hsound : (progress.budget.completed (.inspectVolume name) (some ⟨done.length + 1⟩)
      (some knownApi) body).Sound) (roots : List SelectedRoot) :
    Ready (done ++ [name]) ⟨progress.budget.completed (.inspectVolume name)
      (some ⟨done.length + 1⟩) (some knownApi) body, done.length + 2, roots⟩ where
  sound := hsound
  failed := by simpa using h.failed
  pending := rfl
  limits_eq := by simpa using h.limits_eq
  requests_eq := by simp [h.requests_eq, Nat.add_assoc]
  expansions_eq := by
    simp only [List.length_append, List.length_cons, List.length_nil]
    rw [completed_expansions rfl, h.expansions_eq]
    rfl
  bytes_le := by
    have hbytes := h.bytes_le
    simp only [completed_bytesRead, List.length_append, List.length_cons, List.length_nil]
    omega
  references := by
    intro entry hentry
    rw [List.length_append]
    rcases mem_orInsert hentry with rfl | hold
    · exact Nat.le_refl _
    · exact Nat.le_succ_of_le (h.references entry hold)
  natives := by
    intro entry hentry
    rcases mem_orInsert hentry with rfl | hold
    · exact ⟨name, by simp, rfl⟩
    · obtain ⟨known, hknown, heq⟩ := h.natives entry hold
      exact ⟨known, List.mem_append_left _ hknown, heq⟩
  next_eq := by simp

/-- One more volume is inspected like the ones before. -/
theorem Ready.inspectVolume {done : List NativeId} {progress : Progress} {value : Nat}
    (h : Ready done progress) (hfresh : volumeName value ∉ done) (hcount : done.length < 4900)
    (selector : Selector) :
    ∃ next, Acquisition.inspectVolume Json.fromSlice manyDaemon knownApi selector progress
        (volumeName value) = .ok next ∧ Ready (done ++ [volumeName value]) next := by
  have hrequestable := h.requestable hfresh hcount
  have hbytes := h.bytes_le
  have hmax : maxJsonBytes = 8388608 := rfl
  have husize : (100 : Nat) ≤ usizeMax := by decide
  have hlength := length_volumeDocument value
  have hallowance : (progress.budget.requested (.inspectVolume (volumeName value))
      (some ⟨done.length + 1⟩) (some knownApi)).allowance =
        min 100 (1000000 - progress.budget.bytesRead) := by
    simp [Budget.allowance, Budget.requested, h.limits_eq, manyLimits]
  obtain ⟨wire, hwire, hget⟩ := httpGet_volume value
    (show 15 ≤ min (min 100 (1000000 - progress.budget.bytesRead)) maxJsonBytes by omega)
    (by omega)
  have hrespondable : (progress.budget.requested (.inspectVolume (volumeName value))
      (some ⟨done.length + 1⟩) (some knownApi)).Respondable 0 0
        ⟨.inspectVolume (volumeName value), some ⟨done.length + 1⟩, some knownApi⟩
        ⟨asBytes (volumeDocument (digits value)), false⟩ := by
    refine ⟨⟨?_, Nat.zero_le _⟩, Nat.zero_le _, rfl, rfl, ?_⟩
    · simpa [Budget.requested] using h.failed
    · rw [hallowance]
      simp only
      omega
  have hsound : (progress.budget.completed (.inspectVolume (volumeName value))
      (some ⟨done.length + 1⟩) (some knownApi) (asBytes (volumeDocument (digits value)))).Sound :=
    hrespondable.sound (hrequestable.sound h.sound)
  have hexchange : exchange manyDaemon progress.budget (.inspectVolume (volumeName value))
      (some ⟨done.length + 1⟩) (some knownApi) = .ok (asBytes (volumeDocument (digits value)),
        progress.budget.completed (.inspectVolume (volumeName value)) (some ⟨done.length + 1⟩)
          (some knownApi) (asBytes (volumeDocument (digits value)))) := by
    refine (exchange_eq_ok_iff h.sound).mpr ⟨⟨volumePath value, wire, ?_⟩, rfl⟩
    exact ⟨requestPath_volume value, hrequestable, hwire, by rw [hallowance]; exact hget,
      hrespondable⟩
  have hidentity : inspectIdentity Json.fromSlice (asBytes (volumeDocument (digits value)))
      "Name" (volumeName value) = .ok () := by
    rw [inspectIdentity, fromSlice_volumeDocument]
    simp [Value.get, Value.asStr, volumeName]
  refine ⟨_, ?_, h.completed (by omega) hsound
    (pushRoot progress.selectedRoots ⟨done.length + 1⟩ (volumeRoot selector))⟩
  have hnext : checkedAdd progress.nextReference 1 = some (done.length + 2) := by
    rw [checkedAdd_eq_some_iff, h.next_eq]
    have : usizeMax = 2 ^ 64 - 1 := rfl
    omega
  rw [Acquisition.inspectVolume, Acquisition.inspect, hnext, h.next_eq]
  simp only [hexchange, ok_bind, hidentity]

theorem Ready.inspectVolumes {names done : List NativeId} {progress : Progress}
    (h : Ready done progress) (hnames : ∀ name ∈ names, ∃ value, name = volumeName value)
    (hnodup : (done ++ names).Nodup) (hcount : (done ++ names).length ≤ 4900)
    (selector : Selector) :
    ∃ final, names.foldlM (Acquisition.inspectVolume Json.fromSlice manyDaemon knownApi selector)
        progress = .ok final ∧ Ready (done ++ names) final := by
  induction names generalizing done progress with
  | nil => exact ⟨progress, rfl, by simpa using h⟩
  | cons name names ih =>
      rw [List.forall_mem_cons] at hnames
      obtain ⟨⟨value, rfl⟩, hnames⟩ := hnames
      have hfresh : volumeName value ∉ done := by
        intro hmem
        exact (List.nodup_append.mp hnodup).2.2 _ hmem _ List.mem_cons_self rfl
      have hdone : done.length < 4900 := by
        rw [List.length_append, List.length_cons] at hcount
        omega
      obtain ⟨next, hstep, hnext⟩ := h.inspectVolume hfresh hdone selector
      rw [List.append_cons] at hnodup hcount ⊢
      obtain ⟨final, hfold, hfinal⟩ := ih hnext hnames hnodup hcount
      exact ⟨final, by rw [List.foldlM_cons, hstep, ok_bind, hfold], hfinal⟩

/-- The two fixed reads at the start of an acquisition. -/
def fixedReads (budget : Budget) : Except AcquisitionError (ApiVersion × Budget) := do
  let (body, versioned) ← exchange manyDaemon budget .daemonVersion none none
  let api ← negotiatedApi Json.fromSlice body
  let (_, informed) ← exchange manyDaemon versioned .daemonInfo none (some api)
  .ok (api, informed)

def newBudget : Budget where
  observationId := ⟨1⟩
  limits := manyLimits
  requests := 0
  selectedResources := 0
  expansions := 0
  bytesRead := 0
  pending := none
  exchanges := []
  resourceIds := []
  nativeRefs := []
  failed := false

theorem newBudget_eq : Budget.new manyLimits (some ⟨1⟩) = .ok newBudget := rfl

/-- A budget before its first inspection. -/
def Fresh (budget : Budget) : Prop :=
  budget.failed = false ∧ budget.pending = none ∧ budget.limits = manyLimits ∧
    budget.requests = 2 ∧ budget.selectedResources = 0 ∧ budget.expansions = 0 ∧
    budget.bytesRead ≤ 200 ∧ budget.resourceIds = [] ∧ budget.nativeRefs = []

instance (budget : Budget) : Decidable (Fresh budget) := inferInstanceAs (Decidable (_ ∧ _))

theorem fixedReads_eq_ok :
    ∃ informed, fixedReads newBudget = .ok (knownApi, informed) ∧ Fresh informed := by
  have hreads : (match fixedReads newBudget with
      | .error _ => false
      | .ok (api, informed) => decide (api = knownApi ∧ Fresh informed)) = true := by
    decide +kernel
  split at hreads
  · contradiction
  · next api informed hfixed =>
      obtain ⟨rfl, hfresh⟩ := of_decide_eq_true hreads
      exact ⟨informed, hfixed, hfresh⟩

/-- Any number of volumes below the limits is acquired whole. -/
theorem acquire_volumes {names : List NativeId} (hnodup : names.Nodup)
    (hnames : ∀ name ∈ names, ∃ value, name = volumeName value) (hcount : names.length ≤ 4900)
    (hvalid : validateSelector (.volumeNames names) manyLimits = .ok ()) :
    ∃ capture, acquire Json.fromSlice manyDaemon (.volumeNames names) manyLimits = .ok capture ∧
      capture.exchanges.length = 2 + names.length := by
  obtain ⟨informed, hfixed, hfailed, hpending, hlimits, hrequests, hselected, hexpansions,
    hbytes, hreferences, hnatives⟩ := fixedReads_eq_ok
  simp only [fixedReads, bind_eq_ok_iff, Prod.exists, Except.ok.injEq, Prod.mk.injEq] at hfixed
  obtain ⟨versionBody, versioned, hversion, api, hapi, infoBody, informed, hinfo, rfl, rfl⟩ :=
    hfixed
  have hsound := (Budget.sound_new newBudget_eq).2
  obtain ⟨-, hversioned, -⟩ := exchange_eq_ok hsound hversion
  obtain ⟨-, hinformed, -⟩ := exchange_eq_ok hversioned hinfo
  set related := Related.ofSelector (.volumeNames names) with hrelated
  have hperm : related.sortedVolumes.Perm names := by
    have hperm := related.sortedVolumes_perm
    have hvolumes : related.volumes = names := eraseDups_of_nodup hnodup
    rwa [hvolumes] at hperm
  have hlength : related.volumes.length = names.length := by
    rw [← related.sortedVolumes_perm.length_eq, hperm.length_eq]
  have hfits : informed.selectedResources + names.length ≤
      informed.limits.maxSelectedResources := by
    rw [hselected, hlimits]
    have hmax : manyLimits.maxSelectedResources = 5000 := rfl
    omega
  have hselection : informed.recordSelection 0 names.length =
      (.ok (), informed.selected names.length) :=
    Budget.recordSelection_ok_iff.mpr ⟨⟨⟨hfailed, Nat.zero_le _⟩, hfits⟩, rfl⟩
  have hready : Ready [] ⟨informed.selected names.length, 1, []⟩ := by
    refine ⟨hinformed.selected hfits, hfailed, hpending, hlimits, hrequests, hexpansions, hbytes,
      ?_, ?_, rfl⟩
    · intro entry hentry
      rw [Budget.selected, hreferences] at hentry
      exact absurd hentry List.not_mem_nil
    · intro entry hentry
      rw [Budget.selected, hnatives] at hentry
      exact absurd hentry List.not_mem_nil
  obtain ⟨final, hvolumes, hfinal⟩ := hready.inspectVolumes
    (fun name hname => hnames name (hperm.mem_iff.mp hname))
    (by rw [List.nil_append, hperm.nodup_iff]; exact hnodup)
    (by rw [List.nil_append, hperm.length_eq]; exact hcount) (.volumeNames names)
  have haccounted := hfinal.sound hfinal.failed
  have hexchanges : final.budget.requests = final.budget.exchanges.length := by
    have hrequests := haccounted.requests_eq
    rwa [hfinal.pending] at hrequests
  have htotal : final.budget.bytesRead ≤ usizeMax :=
    Nat.le_trans haccounted.bytesRead_le final.budget.limits.fits.2.2.2.2
  obtain ⟨completed, hcompleted⟩ :
      ∃ completed, Capture.fromCompleted final.budget.observationId final.budget.counts
        final.budget.exchanges = .ok completed :=
    Capture.fromCompleted_eq_ok hexchanges haccounted.bytesRead_eq htotal
  have hcapture : capture final.budget 0 = .ok completed := by
    rw [capture, Budget.intoCapture, hfinal.failed, hfinal.pending, hfinal.requests_eq,
      hcompleted]
    simp
  refine ⟨withSelection completed (.volumeNames names) final.selectedRoots [], ?_, ?_⟩
  · rw [acquire, hvalid, ok_bind]
    rw [show manyDaemon.freshId = some ⟨1⟩ from rfl, newBudget_eq]
    simp only [hversion, ok_bind, hapi]
    rw [inventory, hinfo, ok_bind]
    simp only [selectContainers, ok_bind]
    rw [← hrelated, hlength]
    have hnetworks : related.networks.length = 0 := rfl
    have hsorted : related.sortedNetworks = [] := List.mergeSort_nil
    rw [hnetworks, List.length_nil, Nat.zero_add,
      show manyDaemon.selectedAt informed.exchanges = 0 from rfl, hselection]
    simp only [charged, ok_bind, List.foldlM_nil, hsorted, pure, Except.pure, hvolumes]
    rw [show manyDaemon.remaining final.budget.exchanges = .ok () from rfl, ok_bind,
      show manyDaemon.completedAt final.budget.exchanges = 0 from rfl, hcapture, ok_bind]
  · rw [withSelection_exchanges]
    obtain ⟨-, -, rfl⟩ := Capture.fromCompleted_eq_ok_iff.mp hcompleted
    rw [← hexchanges, hfinal.requests_eq, List.nil_append, hperm.length_eq]

/-- The names of 4095 volumes. -/
def manyNames : List NativeId := (List.range 4095).map volumeName

theorem nodup_manyNames : manyNames.Nodup := by
  refine List.Nodup.map_on ?_ List.nodup_range
  intro left hleft right hright heq
  have htext := congrArg (fun name : NativeId => name.text.toList) heq
  rw [List.mem_range] at hleft hright
  exact digits_inj (by omega) (by omega) (by simpa [volumeName, volumeText] using htext)

theorem validateSelector_manyNames :
    validateSelector (.volumeNames manyNames) manyLimits = .ok () := by
  have hlength : manyNames.length = 4095 := by rw [manyNames, List.length_map, List.length_range]
  have hnames : (manyNames.isEmpty || manyNames.any (!validVolumeName ·.text)) = false := by
    rw [Bool.or_eq_false_iff, List.any_eq_false]
    constructor
    · rw [List.isEmpty_eq_false_iff, ← List.length_pos_iff, hlength]
      decide
    · intro name hname
      obtain ⟨value, -, rfl⟩ := List.mem_map.mp hname
      have hvalid := validVolumeName_volumeName value
      simpa [volumeName] using hvalid
  rw [validateSelector, hnames, tooMany, hlength]
  decide

/-- A capture of a socket acquisition can hold more exchanges than the decoder takes. -/
theorem acquire_manyNames :
    ∃ capture, acquire Json.fromSlice manyDaemon (.volumeNames manyNames) manyLimits =
        .ok capture ∧ capture.exchanges.length = 4097 ∧
      decodeCapture Json.fromSlice capture = .error .collectionTooLarge := by
  have hlength : manyNames.length = 4095 := by rw [manyNames, List.length_map, List.length_range]
  have hnames : ∀ name ∈ manyNames, ∃ value, name = volumeName value := by
    intro name hname
    obtain ⟨value, -, rfl⟩ := List.mem_map.mp hname
    exact ⟨value, rfl⟩
  obtain ⟨capture, hacquire, hexchanges⟩ := acquire_volumes nodup_manyNames hnames
    (by rw [hlength]; decide) validateSelector_manyNames
  rw [hlength] at hexchanges
  refine ⟨capture, hacquire, hexchanges, ?_⟩
  rw [decodeCapture, hexchanges]
  rfl

end DockerLens.Decoder
