import Termd.Library.Ensures
import Termd.Library.Utf8
import Termd.Web.Encodings

/-!
# Serving a web asset

A web asset is embedded with its compressed representations and with an entity tag. A request says
which encodings it accepts and which tags it already has, in lists that are spread over any number
of header lines, and the answer is one of the representations, without its bytes if the tag is
known.

The list of tags is split at the commas outside of double quotes, by a closure that remembers
whether it is inside; a tag without double quotes in its text leaves the closure as it was.

## Main definitions

* `splitEtagList`, `ifNoneMatchMatches`, `assetResponse`, `assetResponseWithHeaders`: the code
* `EntityTag`, `Element`, `joinElements`: the lists that the tags come in
* `FollowsLists toStr members`: negotiation follows the header lists

## Main results

* `splitEtagList_joinElements`: a list is split into its elements
* `ifNoneMatchMatches_iff`: tags are compared without their weakness
* `exists_assetResponseWithHeaders_eq`: the representation that was selected is there
* `followsLists`: the members are those of the lines that are text
-/

namespace Termd.Web

/-! ### The code -/

/-- The closure of `split_etag_list`: inside of quotes or not, and whether to split. -/
def etagStep (inQuotes : Bool) (character : Char) : Bool × Bool :=
  let inQuotes := if character = '"' then !inQuotes else inQuotes
  (inQuotes, character = ',' && !inQuotes)

def splitEtagList (value : List Char) : List (List Char) :=
  ((splitWith etagStep false value).map trim).filter (· ≠ [])

/-- A tag without the mark of weakness. -/
def stripWeak (tag : List Char) : List Char := (stripPrefix ['W', '/'] tag).getD tag

structure EmbeddedAsset where
  identity : List UInt8
  gzip : Option (List UInt8)
  brotli : Option (List UInt8)
  etag : List Char

def EmbeddedAsset.available (asset : EmbeddedAsset) : AvailableEncodings :=
  ⟨asset.brotli.isSome, asset.gzip.isSome⟩

def EmbeddedAsset.representation (asset : EmbeddedAsset) : ContentEncoding → Option (List UInt8)
  | .brotli => asset.brotli
  | .gzip => asset.gzip
  | .identity => some asset.identity

def ContentEncoding.headerValue : ContentEncoding → Option String
  | .brotli => some "br"
  | .gzip => some "gzip"
  | .identity => none

def contentTypeFor (path : List Char) : String :=
  match String.ofList (((rsplitOnce '.' path).map Prod.snd).getD path) with
  | "css" => "text/css; charset=utf-8"
  | "html" => "text/html; charset=utf-8"
  | "js" | "mjs" => "text/javascript; charset=utf-8"
  | "json" | "webmanifest" => "application/manifest+json; charset=utf-8"
  | "svg" => "image/svg+xml"
  | "txt" => "text/plain; charset=utf-8"
  | "ttf" => "font/ttf"
  | "wasm" => "application/wasm"
  | "woff" => "font/woff"
  | "woff2" => "font/woff2"
  | _ => "application/octet-stream"

def isHashByte (byte : UInt8) : Bool :=
  (Char.ofNat byte.toNat).isAlphanum || byte = 0x5f || byte = 0x2d

/-- `is_vite_hashed_asset`: eight bytes behind a hyphen, in front of the extension. -/
def isViteHashedAsset (path : List Char) : Bool :=
  match stripPrefix "assets/".toList path with
  | none => false
  | some fileName =>
    if '/' ∈ fileName then false
    else match rsplitOnce '.' fileName with
      | none => false
      | some (stem, extension) =>
        let bytes := stem.flatMap encodeUtf8
        if extension = [] ∨ bytes.length < 10 then false
        else bytes[bytes.length - 9]? = some 0x2d && (bytes.drop (bytes.length - 8)).all isHashByte

def cacheControlFor (path : List Char) : String :=
  if isViteHashedAsset path then "public, max-age=31536000, immutable" else "no-cache"

inductive Method
  | get
  | head
  | other (name : String)
deriving DecidableEq

inductive HeaderName
  | contentType
  | cacheControl
  | etag
  | vary
  | xContentTypeOptions
  | contentLength
  | contentEncoding
deriving DecidableEq

structure Response where
  status : ℕ
  headers : List (HeaderName × List Char)
  body : List UInt8

/-- `not_acceptable_response` -/
def notAcceptableResponse : Response := ⟨406, [(.vary, "accept-encoding".toList)], []⟩

/-- `asset_response`; `none` is a failed `expect`. Whether a text can be the value of a header is a
parameter. -/
def assetResponse (isHeaderValue : List Char → Bool) (asset : EmbeddedAsset) (path : List Char)
    (encoding : ContentEncoding) (method : Method) (notModified : Bool) : Option Response := do
  let bytes ← asset.representation encoding
  let headers := [(HeaderName.contentType, (contentTypeFor path).toList),
    (.cacheControl, (cacheControlFor path).toList), (.etag, asset.etag),
    (.vary, "accept-encoding".toList), (.xContentTypeOptions, "nosniff".toList),
    (.contentLength, Nat.toDigits 10 bytes.length)] ++
      encoding.headerValue.toList.map fun value => (.contentEncoding, value.toList)
  let response : Response :=
    if headers.all fun header => isHeaderValue header.2 then
      ⟨if notModified then 304 else 200, headers,
        if method = .head ∨ notModified = true then [] else bytes⟩
    else ⟨500, [], []⟩
  return if notModified then
    { response with headers := response.headers.filter fun header => header.1 ≠ .contentLength }
  else response

/-- The header lines that are read, in their order. -/
structure RequestHeaders (HeaderValue : Type) where
  acceptEncoding : List HeaderValue
  ifNoneMatch : List HeaderValue

section Code

-- `HeaderValue::to_str`
variable {HeaderValue : Type} (toStr : HeaderValue → Option (List Char))

def ifNoneMatchMatches (values : List HeaderValue) (etag : List Char) : Bool :=
  values.any fun value =>
    match toStr value with
    | none => false
    | some text => (splitEtagList text).any fun candidate =>
      candidate = ['*'] || stripWeak candidate = stripWeak etag

/-- `asset_response_with_headers` -/
def assetResponseWithHeaders (isHeaderValue : List Char → Bool) (asset : EmbeddedAsset)
    (assetPath : List Char) (method : Method) (headers : RequestHeaders HeaderValue) :
    Option Response :=
  match selectContentEncoding toStr headers.acceptEncoding asset.available with
  | none => some notAcceptableResponse
  | some encoding =>
    assetResponse isHeaderValue asset assetPath encoding method
      (ifNoneMatchMatches toStr headers.ifNoneMatch asset.etag)

end Code

/-! ### Lists of entity tags -/

/-- An entity tag. Its opaque part is free of double quotes. -/
structure EntityTag where
  weak : Bool
  content : List Char
  notMem_content : '"' ∉ content

def EntityTag.quoted (tag : EntityTag) : List Char := '"' :: (tag.content ++ ['"'])

def EntityTag.text (tag : EntityTag) : List Char :=
  (if tag.weak then ['W', '/'] else []) ++ tag.quoted

/-- What a list is made of: any tag at all, or one. -/
inductive Element
  | any
  | tag (etag : EntityTag)

def Element.text : Element → List Char
  | .any => ['*']
  | .tag etag => etag.text

/-- The element stands for the tag, weak or not. -/
def Element.Matches (etag : EntityTag) : Element → Prop
  | .any => True
  | .tag other => other.content = etag.content

/-- An element with blanks around it. -/
structure PaddedElement where
  left : List Char
  element : Element
  right : List Char
  blank_left : ∀ c ∈ left, isWhitespace c = true
  blank_right : ∀ c ∈ right, isWhitespace c = true

def PaddedElement.text (padded : PaddedElement) : List Char :=
  padded.left ++ padded.element.text ++ padded.right

def joinElements (elements : List PaddedElement) : List Char :=
  [','].intercalate (elements.map PaddedElement.text)

theorem ne_of_isWhitespace {c d : Char} (hc : isWhitespace c = true) (hd : isWhitespace d = false) :
    c ≠ d := by
  rintro rfl
  rw [hc] at hd
  cases hd

/-- Outside of quotes a character that is neither a quote nor a comma changes nothing. -/
theorem etagStep_false {c : Char} (hquote : c ≠ '"') (hcomma : c ≠ ',') :
    etagStep false c = (false, false) := by
  simp [etagStep, hquote, hcomma]

/-- Inside of quotes everything but a quote changes nothing. -/
theorem etagStep_true {c : Char} (hquote : c ≠ '"') : etagStep true c = (true, false) := by
  simp [etagStep, hquote]

theorem scan_blank {text : List Char} (h : ∀ c ∈ text, isWhitespace c = true) :
    scan etagStep false text = some false :=
  scan_of_forall fun c hc => etagStep_false (ne_of_isWhitespace (h c hc) (by decide))
    (ne_of_isWhitespace (h c hc) (by decide))

theorem EntityTag.scan_quoted (etag : EntityTag) :
    scan etagStep false etag.quoted = some false := by
  have hopen : scan etagStep false ['"'] = some true := rfl
  have hcontent : scan etagStep true etag.content = some true := scan_of_forall fun c hc =>
    etagStep_true fun heq => etag.notMem_content (heq ▸ hc)
  have hquoted : etag.quoted = ['"'] ++ (etag.content ++ ['"']) := rfl
  rw [hquoted, scan_append hopen, scan_append hcontent]
  rfl

/-- Behind an element the closure is outside of quotes again. -/
theorem Element.scan_text (element : Element) : scan etagStep false element.text = some false := by
  cases element with
  | any => rfl
  | tag etag =>
    have hweak : scan etagStep false (if etag.weak then ['W', '/'] else []) = some false := by
      cases etag.weak <;> rfl
    rw [text, EntityTag.text, scan_append hweak, etag.scan_quoted]

theorem PaddedElement.scan_text (padded : PaddedElement) :
    scan etagStep false padded.text = some false := by
  rw [text, List.append_assoc, scan_append (scan_blank padded.blank_left),
    scan_append padded.element.scan_text, scan_blank padded.blank_right]

theorem Element.text_ne_nil (element : Element) : element.text ≠ [] := by
  cases element with
  | any => exact List.cons_ne_nil _ _
  | tag etag => simp [text, EntityTag.text, EntityTag.quoted]

theorem Element.trim_text (element : Element) : trim element.text = element.text := by
  cases element with
  | any => rfl
  | tag etag =>
    refine trim_eq_self (fun c hc => ?_) fun c hc => ?_
    · rw [text, EntityTag.text] at hc
      cases hweak : etag.weak with
      | false =>
        rw [hweak] at hc
        cases hc
        rfl
      | true =>
        rw [hweak] at hc
        cases hc
        rfl
    · have hlast : (text (.tag etag)).getLast? = some '"' := by
        rw [text, EntityTag.text, EntityTag.quoted, ← List.cons_append, ← List.append_assoc,
          List.getLast?_concat]
      rw [hlast] at hc
      cases hc
      rfl

theorem PaddedElement.trim_text (padded : PaddedElement) :
    trim padded.text = padded.element.text := by
  rw [text, trim_padded padded.blank_left padded.blank_right, padded.element.trim_text]

/-- **A list is split into its elements**, whatever commas and blanks the tags hold. -/
theorem splitEtagList_joinElements (elements : List PaddedElement) :
    splitEtagList (joinElements elements) = elements.map fun padded => padded.element.text := by
  have helement : elements.map (trim ∘ PaddedElement.text) =
      elements.map fun padded => padded.element.text :=
    List.map_congr_left fun padded _ => padded.trim_text
  cases elements with
  | nil => rfl
  | cons first elements =>
    have hscan : ∀ piece ∈ (first :: elements).map PaddedElement.text,
        scan etagStep false piece = some false := by
      intro piece hpiece
      obtain ⟨padded, -, rfl⟩ := List.mem_map.mp hpiece
      exact padded.scan_text
    have hcomma : etagStep false ',' = (false, true) := rfl
    rw [splitEtagList, joinElements, splitWith_intercalate hcomma hscan (by simp), List.map_map,
      helement, List.filter_eq_self]
    intro text htext
    obtain ⟨padded, -, rfl⟩ := List.mem_map.mp htext
    exact decide_eq_true padded.element.text_ne_nil

theorem EntityTag.stripWeak_text (etag : EntityTag) : stripWeak etag.text = etag.quoted := by
  rw [stripWeak, text]
  cases etag.weak with
  | false => rfl
  | true => rw [if_pos rfl, stripPrefix_append, Option.getD_some]

theorem EntityTag.quoted_inj {etag other : EntityTag} :
    etag.quoted = other.quoted ↔ etag.content = other.content := by
  rw [quoted, quoted, List.cons_inj_right, List.append_cancel_right_eq]

/-- What the server compares. -/
theorem Element.matches_iff (etag : EntityTag) (element : Element) :
    (element.text = ['*'] ∨ stripWeak element.text = stripWeak etag.text) ↔
      element.Matches etag := by
  cases element with
  | any => exact iff_of_true (.inl rfl) trivial
  | tag other =>
    have hstar : other.text ≠ ['*'] := by
      rw [EntityTag.text]
      cases other.weak <;> exact nofun
    rw [text, or_iff_right hstar, other.stripWeak_text, etag.stripWeak_text,
      EntityTag.quoted_inj, Matches]

section Lines

variable {HeaderValue : Type} (toStr : HeaderValue → Option (List Char))

/-- **Tags are compared without their weakness**, in every list of every line that is text. -/
theorem ifNoneMatchMatches_iff (lines : List (HeaderValue × List PaddedElement))
    (h : ∀ line ∈ lines, ∀ text, toStr line.1 = some text → text = joinElements line.2)
    (etag : EntityTag) : ifNoneMatchMatches toStr (lines.map Prod.fst) etag.text = true ↔
      ∃ line ∈ lines, (toStr line.1).isSome = true ∧
        ∃ padded ∈ line.2, padded.element.Matches etag := by
  rw [ifNoneMatchMatches, List.any_map, List.any_eq_true]
  refine exists_congr fun line => and_congr_right fun hline => ?_
  have htext := h line hline
  rw [Function.comp_apply]
  cases hread : toStr line.1 with
  | none => simp
  | some text =>
    rw [htext text hread]
    simp only [splitEtagList_joinElements, List.any_map, List.any_eq_true, Function.comp_apply,
      Bool.or_eq_true, decide_eq_true_eq, Element.matches_iff, Option.isSome_some, true_and]

/-- **The representation that was selected is there**, and no `expect` fails. -/
theorem exists_assetResponseWithHeaders_eq (isHeaderValue : List Char → Bool)
    (asset : EmbeddedAsset) (assetPath : List Char) (method : Method) (headers : RequestHeaders HeaderValue) :
    ∃ response, assetResponseWithHeaders toStr isHeaderValue asset assetPath method headers =
      some response := by
  rw [assetResponseWithHeaders]
  cases hselect : selectContentEncoding toStr headers.acceptEncoding asset.available with
  | none => exact ⟨_, rfl⟩
  | some encoding =>
    have hoffers := (best_of_select hselect).offers
    have hthere : ∃ bytes, asset.representation encoding = some bytes := by
      cases encoding with
      | brotli => exact Option.isSome_iff_exists.mp hoffers
      | gzip => exact Option.isSome_iff_exists.mp hoffers
      | identity => exact ⟨asset.identity, rfl⟩
    obtain ⟨bytes, hbytes⟩ := hthere
    dsimp only
    rw [assetResponse, hbytes]
    exact ⟨_, rfl⟩

/-- **Negotiation follows the header lists**, for the members that the lines of `Accept-Encoding`
are said to have. -/
structure FollowsLists (members : List HeaderValue → List (List Char)) : Prop where
  none_iff : ∀ lines available, selectContentEncoding toStr lines available = none ↔
    lines ≠ [] ∧ ¬SomeMember (members lines) ∨
      ∀ encoding, available.Offers encoding → Weighs (members lines) encoding 0
  best : ∀ lines available encoding,
    selectContentEncoding toStr lines available = some encoding →
      Best (members lines) available encoding
  same : ∀ lines lines' available, (lines = [] ↔ lines' = []) →
    SameMembers (members lines) (members lines') →
      selectContentEncoding toStr lines available = selectContentEncoding toStr lines' available
  served : ∀ isHeaderValue asset assetPath method headers, ∃ response,
    assetResponseWithHeaders toStr isHeaderValue asset assetPath method headers = some response
  known : ∀ lines : List (HeaderValue × List PaddedElement),
    (∀ line ∈ lines, ∀ text, toStr line.1 = some text → text = joinElements line.2) →
      ∀ etag : EntityTag, ifNoneMatchMatches toStr (lines.map Prod.fst) etag.text = true ↔
        ∃ line ∈ lines, (toStr line.1).isSome = true ∧
          ∃ padded ∈ line.2, padded.element.Matches etag

/-- Negotiation follows the members of the lines that are text. -/
theorem followsLists : FollowsLists toStr (acceptMembers toStr) where
  none_iff _ _ := selectContentEncoding_eq_none
  best _ _ _ := best_of_select
  same _ _ _ := selectContentEncoding_congr
  served := exists_assetResponseWithHeaders_eq toStr
  known := ifNoneMatchMatches_iff toStr

end Lines

/-! ### Lines that are not text -/

/-- Text is visible ASCII and tabs. -/
def visibleText (line : List UInt8) : Option (List Char) :=
  if line.all fun byte => (0x20 ≤ byte && byte < 0x7f) || byte = 9 then
    some (line.map fun byte => Char.ofNat byte.toNat)
  else none

def asciiLine (text : String) : List UInt8 := text.toList.map fun c => UInt8.ofNat c.toNat

/-- A weak tag with a comma in it stands behind a tab, and `*` stands on a line of its own. -/
theorem followsLists_commaAndAny :
    let first := asciiLine "\"d\" ,\tW/\"a,b\""
    let second := asciiLine " *"
    let accepts := [asciiLine "br;q=0.5, gzip", asciiLine "*;q=0"]
    ifNoneMatchMatches visibleText [first] "\"a,b\"".toList = true ∧
      ifNoneMatchMatches visibleText [first] "\"b\"".toList = false ∧
      ifNoneMatchMatches visibleText [first, second] "\"b\"".toList = true ∧
      selectContentEncoding visibleText accepts ⟨true, true⟩ = some .gzip ∧
      Best (acceptMembers visibleText accepts) ⟨true, true⟩ .gzip := by
  intro first second accepts
  let d : PaddedElement := ⟨[], .tag ⟨false, ['d'], by decide⟩, [' '], List.forall_mem_nil _,
    List.forall_mem_singleton.mpr rfl⟩
  let ab : PaddedElement := ⟨['\t'], .tag ⟨true, ['a', ',', 'b'], by decide⟩, [],
    List.forall_mem_singleton.mpr rfl, List.forall_mem_nil _⟩
  let any : PaddedElement := ⟨[' '], .any, [], List.forall_mem_singleton.mpr rfl,
    List.forall_mem_nil _⟩
  have hfollows := followsLists visibleText
  have hfirst : visibleText first = some (joinElements [d, ab]) := by decide +kernel
  have hsecond : visibleText second = some (joinElements [any]) := by decide +kernel
  have hone : ∀ line ∈ [(first, [d, ab])], ∀ text, visibleText line.1 = some text →
      text = joinElements line.2 := by
    intro line hline text htext
    obtain rfl := List.mem_singleton.mp hline
    exact Option.some.inj (htext.symm.trans hfirst)
  have hboth : ∀ line ∈ [(first, [d, ab]), (second, [any])], ∀ text,
      visibleText line.1 = some text → text = joinElements line.2 := by
    intro line hline text htext
    rcases List.mem_cons.mp hline with rfl | hline
    · exact Option.some.inj (htext.symm.trans hfirst)
    · obtain rfl := List.mem_singleton.mp hline
      exact Option.some.inj (htext.symm.trans hsecond)
  have hselected : selectContentEncoding visibleText accepts ⟨true, true⟩ = some .gzip := by
    decide +kernel
  refine ⟨?_, ?_, ?_, hselected, hfollows.best _ _ _ hselected⟩
  · refine (hfollows.known _ hone ⟨false, ['a', ',', 'b'], by decide⟩).mpr ?_
    exact ⟨_, List.mem_singleton_self _, Option.isSome_of_mem hfirst, ab,
      List.mem_cons_of_mem _ (List.mem_singleton_self _), rfl⟩
  · refine Bool.eq_false_iff.mpr fun hmatches => ?_
    obtain ⟨line, hline, -, padded, hpadded, hcontent⟩ :=
      (hfollows.known _ hone ⟨false, ['b'], by decide⟩).mp hmatches
    obtain rfl := List.mem_singleton.mp hline
    rcases List.mem_cons.mp hpadded with rfl | hpadded
    · exact absurd hcontent (by decide : ['d'] ≠ ['b'])
    · obtain rfl := List.mem_singleton.mp hpadded
      exact absurd hcontent (by decide : ['a', ',', 'b'] ≠ ['b'])
  · refine (hfollows.known _ hboth ⟨false, ['b'], by decide⟩).mpr ?_
    exact ⟨_, List.mem_cons_of_mem _ (List.mem_singleton_self _), Option.isSome_of_mem hsecond, any,
      List.mem_singleton_self _, trivial⟩

/-- The members of all lines, whatever bytes these hold. -/
def byteMembers (lines : List (List UInt8)) : List (List Char) :=
  lines.flatMap fun line => (line.splitOn 0x2c).map fun piece =>
    piece.map fun byte => Char.ofNat byte.toNat

/-- A line with one byte that is not text has no members at all: `br` is not seen. -/
theorem member_not_seen : ¬FollowsLists visibleText byteMembers := by
  intro h
  have hnone := (h.none_iff [[0x62, 0x72, 0x2c, 0xff]] ⟨true, false⟩).mp (by decide +kernel)
  have hbr : Member ['b', 'r'] ['b', 'r'] 1000 := parseEncodingMember_eq_some.mp (by decide +kernel)
  have hmem : ['b', 'r'] ∈ byteMembers [[0x62, 0x72, 0x2c, 0xff]] := by decide +kernel
  rcases hnone with hmember | hzero
  · exact hmember.2 ⟨_, hmem, _, _, hbr⟩
  · have hown : (1000 : ℕ) ∈ ownWeights (byteMembers [[0x62, 0x72, 0x2c, 0xff]])
        ContentEncoding.brotli.name := ⟨_, hmem, _, hbr, rfl⟩
    cases hzero .brotli rfl with
    | own hgreatest => exact absurd (hgreatest.2 hown) (by decide)
    | wildcard hempty => exact Set.notMem_empty _ (hempty ▸ hown)
    | absent hempty => exact Set.notMem_empty _ (hempty ▸ hown)
    | excluded hempty => exact Set.notMem_empty _ (hempty ▸ hown)

end Termd.Web
