import DockerLens.Acquisition.Acquire

namespace DockerLens.Acquisition

open DockerLens.Text
open DockerLens.Observation
open DockerLens.Version

/-- The bytes that a percent-encoded segment stands for. -/
def percentDecode : List Char → Option Bytes
  | [] => some []
  | '%' :: high :: low :: rest => do
      let high ← toDigit 16 high
      let low ← toDigit 16 low
      let bytes ← percentDecode rest
      some (UInt8.ofNat (16 * high + low) :: bytes)
  | char :: rest =>
      if char = '%' then none else (percentDecode rest).map (UInt8.ofNat char.toNat :: ·)

def isUnreserved (char : Char) : Bool :=
  char.isAlphanum || char == '-' || char == '.' || char == '_' || char == '~'

/-- A text of slashes, unreserved characters and percent escapes. -/
def cleanPath : List Char → Bool
  | [] => true
  | '%' :: high :: low :: rest =>
      (toDigit 16 high).isSome && (toDigit 16 low).isSome && cleanPath rest
  | char :: rest => (char == '/' || isUnreserved char) && cleanPath rest

section Segments

def encoded (id : NativeId) : List Char := (asBytes id.text).flatMap encodeByte

def versionText (api : ApiVersion) : List Char :=
  'v' :: (Nat.toDigits 10 api.major ++ '.' :: Nat.toDigits 10 api.minor)

/-- The segments of a path below the version. -/
def resourceSegments : ReadRequest → List (List Char)
  | .daemonVersion => ["version".toList]
  | .daemonInfo => ["info".toList]
  | .listContainers => ["containers".toList, "json?all=1".toList]
  | .inspectContainer id => ["containers".toList, encoded id, "json".toList]
  | .listNetworks => ["networks".toList]
  | .inspectNetwork id => ["networks".toList, encoded id]
  | .listVolumes => ["volumes".toList]
  | .inspectVolume id => ["volumes".toList, encoded id]

/-- The version that a path starts with. -/
def pathVersion (request : ReadRequest) (api : Option ApiVersion) : Option ApiVersion :=
  if request = .daemonVersion then none else api

def segments (request : ReadRequest) (api : Option ApiVersion) : List (List Char) :=
  (pathVersion request api).toList.map versionText ++ resourceSegments request

/-- The id that a request inspects. -/
def inspectedId : ReadRequest → Option NativeId
  | .inspectContainer id | .inspectNetwork id | .inspectVolume id => some id
  | _ => none

theorem toList_apiPrefix (api : ApiVersion) :
    (apiPrefix api).toList = '/' :: versionText api := by
  simp [apiPrefix, versionText]

/-- A path is its segments, a slash ahead of each one. -/
theorem toList_of_requestPath {request : ReadRequest} {api : Option ApiVersion} {path : String}
    (h : requestPath request api = .ok path) :
    path.toList = (segments request api).flatMap ('/' :: ·) := by
  have hencoded : ∀ {id : NativeId} {segment : String}, encodeSegment id = .ok segment →
      segment.toList = encoded id := by
    intro id segment hsegment
    rw [encodeSegment] at hsegment
    split at hsegment
    · cases hsegment
    · cases hsegment
      exact String.toList_ofList
  have hmap : ∀ {id : NativeId} {build : String → String},
      (encodeSegment id).map build = .ok path →
        ∃ segment : String, segment.toList = encoded id ∧ path = build segment := by
    intro id build hbuild
    cases hsegment : encodeSegment id with
    | error error =>
        rw [hsegment] at hbuild
        cases hbuild
    | ok segment =>
        rw [hsegment] at hbuild
        cases hbuild
        exact ⟨segment, hencoded hsegment, rfl⟩
  cases api with
  | none =>
      cases request with
      | daemonVersion =>
          cases h
          decide
      | _ => cases h
  | some api =>
      cases request with
      | daemonVersion =>
          cases h
          rw [show segments .daemonVersion (some api) = ["version".toList] from rfl]
          decide
      | daemonInfo | listContainers | listNetworks | listVolumes =>
          cases h
          simp [segments, pathVersion, resourceSegments, toList_apiPrefix]
      | inspectContainer id | inspectNetwork id | inspectVolume id =>
          obtain ⟨segment, hsegment, rfl⟩ := hmap h
          simp [segments, pathVersion, resourceSegments, toList_apiPrefix, hsegment]

theorem splitOnP_segments {texts : List (List Char)} (h : ∀ text ∈ texts, '/' ∉ text)
    {first : List Char} (hfirst : '/' ∉ first) :
    (first ++ texts.flatMap ('/' :: ·)).splitOnP (· == '/') = first :: texts := by
  have hplain : ∀ {text : List Char}, '/' ∉ text → ∀ char ∈ text, (char == '/') = false := by
    intro text htext char hchar
    rw [beq_eq_false_iff_ne]
    rintro rfl
    exact htext hchar
  induction texts generalizing first with
  | nil =>
      rw [List.flatMap_nil, List.append_nil]
      exact List.splitOnP_eq_singleton (hplain hfirst)
  | cons text texts ih =>
      rw [List.flatMap_cons, List.cons_append,
        List.splitOnP_append_cons_of_forall_mem (hplain hfirst) '/' rfl,
        ih (fun other hother => h other (List.mem_cons_of_mem _ hother))
          (h text List.mem_cons_self)]

end Segments

section Bytes

/-- A byte is written as a character, or as an escape. -/
def isWritten (byte : UInt8) : List Char → Bool
  | [char] => char != '%' && isUnreserved char && UInt8.ofNat char.toNat == byte
  | [percent, high, low] => percent == '%' &&
      ((toDigit 16 high).bind fun x => (toDigit 16 low).map fun y => UInt8.ofNat (16 * x + y)) ==
        some byte
  | _ => false

theorem encodeByte_cases (byte : UInt8) :
    (∃ char, encodeByte byte = [char] ∧ char ≠ '%' ∧ isUnreserved char = true ∧
      UInt8.ofNat char.toNat = byte) ∨
    ∃ high low, encodeByte byte = ['%', high, low] ∧
      ∃ x y, toDigit 16 high = some x ∧ toDigit 16 low = some y ∧
        UInt8.ofNat (16 * x + y) = byte := by
  have hall : ∀ code : Fin 256,
      isWritten (UInt8.ofNat code.val) (encodeByte (UInt8.ofNat code.val)) = true := by
    decide +kernel
  have hbyte := hall ⟨byte.toNat, byte.toNat_lt⟩
  rw [UInt8.ofNat_toNat] at hbyte
  unfold isWritten at hbyte
  split at hbyte
  · next char hchar =>
      simp only [Bool.and_eq_true, bne_iff_ne, beq_iff_eq] at hbyte
      exact .inl ⟨char, hchar, hbyte.1.1, hbyte.1.2, hbyte.2⟩
  · next percent high low hencoded =>
      rw [Bool.and_eq_true, beq_iff_eq, beq_iff_eq] at hbyte
      obtain ⟨rfl, hvalue⟩ := hbyte
      obtain ⟨x, hx, hvalue⟩ := Option.bind_eq_some_iff.mp hvalue
      obtain ⟨y, hy, hvalue⟩ := Option.map_eq_some_iff.mp hvalue
      exact .inr ⟨high, low, hencoded, x, y, hx, hy, hvalue⟩
  · cases hbyte

theorem percentDecode_cons {char : Char} (h : char ≠ '%') (rest : List Char) :
    percentDecode (char :: rest) = (percentDecode rest).map (UInt8.ofNat char.toNat :: ·) := by
  rw [percentDecode, if_neg h]
  rintro high low after hchar -
  exact h hchar

theorem cleanPath_cons {char : Char} (h : char ≠ '%') (rest : List Char) :
    cleanPath (char :: rest) = ((char == '/' || isUnreserved char) && cleanPath rest) := by
  rw [cleanPath]
  rintro high low after hchar -
  exact h hchar

theorem percentDecode_flatMap (bytes : Bytes) :
    percentDecode (bytes.flatMap encodeByte) = some bytes := by
  induction bytes with
  | nil => rfl
  | cons byte bytes ih =>
      rw [List.flatMap_cons]
      rcases encodeByte_cases byte with ⟨char, hencoded, hchar, -, hbyte⟩ |
        ⟨high, low, hencoded, x, y, hx, hy, hbyte⟩
      · rw [hencoded, List.singleton_append, percentDecode_cons hchar, ih, Option.map_some, hbyte]
      · rw [hencoded]
        simp only [List.cons_append, List.nil_append, percentDecode, hx, hy, ih, hbyte,
          Option.bind_eq_bind, Option.bind_some]

theorem cleanPath_flatMap (bytes : Bytes) (rest : List Char) :
    cleanPath (bytes.flatMap encodeByte ++ rest) = cleanPath rest := by
  induction bytes with
  | nil => rfl
  | cons byte bytes ih =>
      rw [List.flatMap_cons, List.append_assoc]
      rcases encodeByte_cases byte with ⟨char, hencoded, hchar, hunreserved, -⟩ |
        ⟨high, low, hencoded, x, y, hx, hy, -⟩
      · rw [hencoded, List.singleton_append, cleanPath_cons hchar, hunreserved, Bool.or_true,
          Bool.true_and, ih]
      · rw [hencoded]
        simp only [List.cons_append, List.nil_append, cleanPath, hx, hy, Option.isSome_some,
          Bool.true_and, ih]

theorem cleanPath_append {text : List Char} (h : ∀ char ∈ text, isUnreserved char = true)
    (rest : List Char) : cleanPath (text ++ rest) = cleanPath rest := by
  induction text with
  | nil => rfl
  | cons char text ih =>
      have hchar := h char List.mem_cons_self
      have hne : char ≠ '%' := by
        rintro rfl
        cases hchar
      rw [List.cons_append, cleanPath_cons hne, hchar, Bool.or_true, Bool.true_and,
        ih fun other hother => h other (List.mem_cons_of_mem _ hother)]

end Bytes

section Versions

theorem unreserved_of_digit {char : Char} (h : char.isDigit = true) :
    isUnreserved char = true ∧ char ≠ '.' ∧ char ≠ '/' := by
  refine ⟨by simp [isUnreserved, Char.isAlphanum, h], ?_, ?_⟩
  · rintro rfl
    cases h
  · rintro rfl
    cases h

theorem digit_of_toDigits {value : Nat} {char : Char} (h : char ∈ Nat.toDigits 10 value) :
    char.isDigit = true :=
  Nat.isDigit_of_mem_toDigits (by decide) (by decide) h

theorem unreserved_versionText (api : ApiVersion) :
    ∀ char ∈ versionText api, isUnreserved char = true ∧ char ≠ '/' := by
  intro char hchar
  rw [versionText, List.mem_cons, List.mem_append, List.mem_cons] at hchar
  rcases hchar with rfl | hchar | rfl | hchar
  · decide
  · have hdigit := unreserved_of_digit (digit_of_toDigits hchar)
    exact ⟨hdigit.1, hdigit.2.2⟩
  · decide
  · have hdigit := unreserved_of_digit (digit_of_toDigits hchar)
    exact ⟨hdigit.1, hdigit.2.2⟩

theorem versionText_inj {left right : ApiVersion} (h : versionText left = versionText right) :
    left = right := by
  have hsplit : ∀ api : ApiVersion,
      (Nat.toDigits 10 api.major ++ '.' :: Nat.toDigits 10 api.minor).splitOnP (· == '.') =
        [Nat.toDigits 10 api.major, Nat.toDigits 10 api.minor] := by
    intro api
    have hplain : ∀ value : Nat, ∀ char ∈ Nat.toDigits 10 value, (char == '.') = false := by
      intro value char hchar
      exact beq_eq_false_iff_ne.mpr (unreserved_of_digit (digit_of_toDigits hchar)).2.1
    rw [List.splitOnP_append_cons_of_forall_mem (hplain _) '.' rfl,
      List.splitOnP_eq_singleton (hplain _)]
  have hvalue : ∀ value : Nat, Nat.ofDigitChars 10 (Nat.toDigits 10 value) 0 = value :=
    fun value => Nat.ofDigitChars_toDigits (by decide) (by decide)
  rw [versionText, versionText, List.cons_inj_right] at h
  have hparts := hsplit left
  rw [h, hsplit right, List.cons.injEq, List.cons.injEq] at hparts
  obtain ⟨major, minor, hpos, hmajor, hminor⟩ := left
  obtain ⟨major', minor', hpos', hmajor', hminor'⟩ := right
  obtain rfl : major = major' := by
    rw [← hvalue major, ← hparts.1, hvalue]
  obtain rfl : minor = minor' := by
    rw [← hvalue minor, ← hparts.2.1, hvalue]
  rfl

end Versions

section Requests

theorem encoded_inj {left right : NativeId} : encoded left = encoded right ↔ left = right := by
  constructor
  · intro h
    have hbytes : some (asBytes left.text) = some (asBytes right.text) := by
      rw [← percentDecode_flatMap, ← percentDecode_flatMap]
      exact congrArg percentDecode h
    rw [Option.some_inj, asBytes_inj] at hbytes
    obtain ⟨text, hnonempty⟩ := left
    subst hbytes
    rfl
  · rintro rfl
    rfl

theorem slash_not_mem_encoded (id : NativeId) : '/' ∉ encoded id := by
  intro hmem
  obtain ⟨byte, -, hbyte⟩ := List.mem_flatMap.mp hmem
  rcases encodeByte_cases byte with ⟨char, hencoded, -, hunreserved, -⟩ |
    ⟨high, low, hencoded, x, y, hx, hy, -⟩
  · rw [hencoded, List.mem_singleton] at hbyte
    subst hbyte
    cases hunreserved
  · rw [hencoded] at hbyte
    simp only [List.mem_cons, List.not_mem_nil, or_false] at hbyte
    rcases hbyte with hpercent | rfl | rfl
    · cases hpercent
    · cases hx
    · cases hy

theorem slash_not_mem_segments (request : ReadRequest) (api : Option ApiVersion) :
    ∀ segment ∈ segments request api, '/' ∉ segment := by
  intro segment hsegment
  rcases List.mem_append.mp hsegment with hversion | hresource
  · obtain ⟨version, -, rfl⟩ := List.mem_map.mp hversion
    exact fun hslash => (unreserved_versionText version '/' hslash).2 rfl
  · have hfixed : '/' ∉ "version".toList ∧ '/' ∉ "info".toList ∧ '/' ∉ "containers".toList ∧
        '/' ∉ "json?all=1".toList ∧ '/' ∉ "json".toList ∧ '/' ∉ "networks".toList ∧
        '/' ∉ "volumes".toList := by
      decide
    obtain ⟨hversion, hinfo, hcontainers, hall, hjson, hnetworks, hvolumes⟩ := hfixed
    cases request with
    | daemonVersion | daemonInfo | listNetworks | listVolumes =>
        rw [List.mem_singleton.mp hresource]
        assumption
    | listContainers =>
        rcases List.mem_cons.mp hresource with rfl | hresource
        · exact hcontainers
        · rw [List.mem_singleton.mp hresource]
          exact hall
    | inspectContainer id =>
        rcases List.mem_cons.mp hresource with rfl | hresource
        · exact hcontainers
        rcases List.mem_cons.mp hresource with rfl | hresource
        · exact slash_not_mem_encoded id
        · rw [List.mem_singleton.mp hresource]
          exact hjson
    | inspectNetwork id | inspectVolume id =>
        rcases List.mem_cons.mp hresource with rfl | hresource
        · assumption
        · rw [List.mem_singleton.mp hresource]
          exact slash_not_mem_encoded id

theorem splitOnP_requestPath {request : ReadRequest} {api : Option ApiVersion} {path : String}
    (h : requestPath request api = .ok path) :
    path.toList.splitOnP (· == '/') = [] :: segments request api := by
  rw [toList_of_requestPath h]
  exact splitOnP_segments (slash_not_mem_segments request api) List.not_mem_nil

theorem resourceSegments_inj {left right : ReadRequest}
    (h : resourceSegments left = resourceSegments right) : left = right := by
  cases left <;> cases right <;>
    first
    | rfl
    | simp [resourceSegments, encoded_inj] at h
      first | done | rw [h]

theorem exists_api {request : ReadRequest} {api : Option ApiVersion} {path : String}
    (h : requestPath request api = .ok path) (hversion : request ≠ .daemonVersion) :
    ∃ version, api = some version := by
  cases api with
  | some version => exact ⟨version, rfl⟩
  | none =>
      cases request with
      | daemonVersion => exact absurd rfl hversion
      | _ => cases h

/-- A text that leaves what follows it as clean as it was. -/
def Neutral (text : List Char) : Prop := ∀ rest, cleanPath (text ++ rest) = cleanPath rest

theorem cleanPath_segments {texts : List (List Char)} (h : ∀ text ∈ texts, Neutral text) :
    cleanPath (texts.flatMap ('/' :: ·)) = true := by
  induction texts with
  | nil => rfl
  | cons text texts ih =>
      rw [List.flatMap_cons, List.cons_append, cleanPath_cons (by decide),
        h text List.mem_cons_self, ih fun other hother => h other (List.mem_cons_of_mem _ hother)]
      rfl

/-- A path is clean up to the query of the container list. -/
theorem clean_requestPath {request : ReadRequest} {api : Option ApiVersion} {path : String}
    (h : requestPath request api = .ok path) :
    ∃ base, path.toList = base ++ (if request = .listContainers then "?all=1".toList else []) ∧
      cleanPath base = true := by
  have hversion : ∀ text ∈ (pathVersion request api).toList.map versionText, Neutral text := by
    intro text htext
    obtain ⟨version, -, rfl⟩ := List.mem_map.mp htext
    exact cleanPath_append fun char hchar => (unreserved_versionText version char hchar).1
  have hfixed : ∀ text ∈ ["version", "info", "containers", "json", "networks", "volumes"],
      Neutral text.toList := by
    have hall : ∀ text ∈ ["version", "info", "containers", "json", "networks", "volumes"],
        text.toList.all isUnreserved = true := forall_mem_of_all (by decide)
    exact fun text htext => cleanPath_append (List.all_eq_true.mp (hall text htext))
  have hencoded : ∀ id, Neutral (encoded id) := fun id => cleanPath_flatMap (asBytes id.text)
  have hplain : request ≠ .listContainers → (∀ text ∈ resourceSegments request, Neutral text) →
      ∃ base, path.toList =
        base ++ (if request = .listContainers then "?all=1".toList else []) ∧
          cleanPath base = true := by
    intro hrequest hresource
    refine ⟨path.toList, by rw [if_neg hrequest, List.append_nil], ?_⟩
    rw [toList_of_requestPath h]
    apply cleanPath_segments
    intro text htext
    rcases List.mem_append.mp htext with htext | htext
    · exact hversion text htext
    · exact hresource text htext
  cases request with
  | daemonVersion | daemonInfo | listNetworks | listVolumes =>
      refine hplain (by decide) ?_
      intro text htext
      rw [List.mem_singleton.mp htext]
      exact hfixed _ (by decide)
  | listContainers =>
      refine ⟨((pathVersion .listContainers api).toList.map versionText ++
        ["containers".toList, "json".toList]).flatMap ('/' :: ·), ?_, ?_⟩
      · rw [toList_of_requestPath h]
        simp [segments, resourceSegments]
      · apply cleanPath_segments
        intro text htext
        rcases List.mem_append.mp htext with htext | htext
        · exact hversion text htext
        · rcases List.mem_cons.mp htext with rfl | htext
          · exact hfixed _ (by decide)
          · rw [List.mem_singleton.mp htext]
            exact hfixed _ (by decide)
  | inspectContainer id =>
      refine hplain (by rintro ⟨⟩) ?_
      intro text htext
      rcases List.mem_cons.mp htext with rfl | htext
      · exact hfixed _ (by decide)
      rcases List.mem_cons.mp htext with rfl | htext
      · exact hencoded id
      · rw [List.mem_singleton.mp htext]
        exact hfixed _ (by decide)
  | inspectNetwork id | inspectVolume id =>
      refine hplain (by rintro ⟨⟩) ?_
      intro text htext
      rcases List.mem_cons.mp htext with rfl | htext
      · exact hfixed _ (by decide)
      · rw [List.mem_singleton.mp htext]
        exact hencoded id

/-- A path tells its request and, when it has one, its version; the id that it inspects is
decoded from the one segment that holds it; and no id adds a segment, a query or a character
that would end the request line. -/
theorem requestPath_faithful :
    (∀ left right leftApi rightApi path, requestPath left leftApi = .ok path →
      requestPath right rightApi = .ok path →
        left = right ∧ (left ≠ .daemonVersion → leftApi = rightApi)) ∧
    (∀ request api path id, requestPath request api = .ok path →
      inspectedId request = some id →
        ∃ segment, (path.toList.splitOnP (· == '/'))[3]? = some segment ∧
          percentDecode segment = some (asBytes id.text)) ∧
    ∀ request api path, requestPath request api = .ok path →
      path.toList.splitOnP (· == '/') = [] :: segments request api ∧
        ∃ base, path.toList =
          base ++ (if request = .listContainers then "?all=1".toList else []) ∧
            cleanPath base = true := by
  refine ⟨?_, ?_, fun request api path h => ⟨splitOnP_requestPath h, clean_requestPath h⟩⟩
  · intro left right leftApi rightApi path hleft hright
    have hsegments : segments left leftApi = segments right rightApi := by
      have hsplit := (splitOnP_requestPath hleft).symm.trans (splitOnP_requestPath hright)
      exact (List.cons.inj hsplit).2
    have hlength : ∀ request : ReadRequest, 0 < (resourceSegments request).length := by
      intro request
      cases request <;> exact Nat.succ_pos _
    have hone : (resourceSegments .daemonVersion).length = 1 := rfl
    by_cases hleftVersion : left = .daemonVersion
    · subst hleftVersion
      refine ⟨?_, fun hne => absurd rfl hne⟩
      by_contra hrightVersion
      obtain ⟨version, rfl⟩ := exists_api hright (Ne.symm hrightVersion)
      have hcount := congrArg List.length hsegments
      rw [segments, segments, pathVersion, pathVersion, if_pos rfl,
        if_neg (Ne.symm hrightVersion)] at hcount
      have hpos := hlength right
      simp only [Option.toList_none, Option.toList_some, List.map_nil, List.map_cons,
        List.nil_append, List.cons_append, List.length_cons, hone] at hcount
      omega
    · obtain ⟨version, rfl⟩ := exists_api hleft hleftVersion
      by_cases hrightVersion : right = .daemonVersion
      · subst hrightVersion
        have hcount := congrArg List.length hsegments
        rw [segments, segments, pathVersion, pathVersion, if_neg hleftVersion, if_pos rfl] at hcount
        have hpos := hlength left
        simp only [Option.toList_none, Option.toList_some, List.map_nil, List.map_cons,
          List.nil_append, List.cons_append, List.length_cons, hone] at hcount
        omega
      · obtain ⟨version', rfl⟩ := exists_api hright hrightVersion
        rw [segments, segments, pathVersion, pathVersion, if_neg hleftVersion,
          if_neg hrightVersion] at hsegments
        obtain ⟨hversions, hresources⟩ := List.cons.inj hsegments
        exact ⟨resourceSegments_inj hresources,
          fun _ => congrArg some (versionText_inj hversions)⟩
  · intro request api path id h hid
    have hrequest : request ≠ .daemonVersion := by
      rintro rfl
      cases hid
    obtain ⟨version, rfl⟩ := exists_api h hrequest
    refine ⟨encoded id, ?_, percentDecode_flatMap _⟩
    rw [splitOnP_requestPath h, segments, pathVersion, if_neg hrequest]
    cases request with
    | inspectContainer id' | inspectNetwork id' | inspectVolume id' =>
        cases hid
        rfl
    | daemonVersion | daemonInfo | listContainers | listNetworks | listVolumes => cases hid

theorem requestPath_faithful_volume :
    ∃ segment, ("/v1.44/volumes/my%20data".toList.splitOnP (· == '/'))[3]? = some segment ∧
      percentDecode segment = some (asBytes "my data") :=
  requestPath_faithful.2.1 (.inspectVolume ⟨"my data", by decide⟩)
    (some ⟨1, 44, by decide, by decide, by decide⟩) "/v1.44/volumes/my%20data" _
    (by decide +kernel) rfl

end Requests

end DockerLens.Acquisition
