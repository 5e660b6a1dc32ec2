import Termd.Library.BigEndian
import Termd.Library.ByteStream

/-!
# Frames between daemon, supervisor and browser

A value is sent as its JSON text behind the length of the text in four bytes. One writer passes the
text through to the socket as it is made, the other makes it first; both measure it before they write
anything. The readers take the length, then the text, and one of them gives the frame on as it is.

## Main definitions

* `SupervisorJson`: how values are written as JSON, and read back
* `writeFrameSync`, `writeFrameAsync`: the writers
* `readFrameSync`, `readFrameAsync`, `readRawFrameSync`: the readers
* `FramesSurvive`: what is written is read, whatever comes between

## Main results

* `writeBy_eq`, `writeBy_refused`: a frame is written as a whole or not at all
* `readBy_eq`: the readers read it back
* `frames_survive`: a stream of frames is read back
-/

namespace Termd.Pty

/-! ### Errors and limits -/

def MAX_SUPERVISOR_FRAME_BYTES : ℕ := 8 * 1024 * 1024

/-- The largest payload. -/
def maxPayloadBytes : ℕ := MAX_SUPERVISOR_FRAME_BYTES - 4

inductive FrameError
  | frameTooLarge
  | lengthNotRepresentable
  | lengthChanged
  | missingPrefix
  | lengthMismatch
  | json
  | unexpectedEof
  | writeZero

/-- The texts of the errors that are the supervisor's own. -/
def FrameError.message : FrameError → Option String
  | frameTooLarge => some "session supervisor frame exceeds maximum of 8388608 bytes"
  | lengthNotRepresentable => some "session supervisor frame length cannot be represented"
  | lengthChanged => some "session supervisor serialized frame length changed during write"
  | missingPrefix => some "session supervisor frame is missing length prefix"
  | lengthMismatch => some "session supervisor frame length does not match payload"
  | json | unexpectedEof | writeZero => none

/-- `checked_supervisor_payload_len` -/
def checkedPayloadLen (length : List UInt8) : Except FrameError ℕ :=
  if maxPayloadBytes < ofLittleEndian length then .error .frameTooLarge
  else .ok (ofLittleEndian length)

/-- `supervisor_payload_length_prefix` -/
def payloadLengthPrefix (payloadLen : ℕ) : Except FrameError (List UInt8) :=
  if maxPayloadBytes < payloadLen then .error .frameTooLarge
  else if 2 ^ 32 ≤ payloadLen then .error .lengthNotRepresentable
  else .ok (littleEndian 4 payloadLen)

/-! ### Writers -/

/-- The JSON text of a value comes in chunks, always the same, and the value is read back from it. -/
structure SupervisorJson (V : Type) where
  chunks : V → List (List UInt8)
  fromSlice : List UInt8 → Option V
  fromSlice_chunks : ∀ value, fromSlice (chunks value).flatten = some value

/-- A socket: what was sent, and how many bytes besides one each of the next writes takes. -/
structure Socket where
  sent : List UInt8
  takes : List ℕ

def Socket.taken (s : Socket) (bytes : List UInt8) : ℕ :=
  match s.takes with
  | [] => bytes.length
  | more :: _ => min (more + 1) bytes.length

def socket : ByteSink FrameError Socket where
  write s bytes := (⟨s.sent ++ bytes.take (s.taken bytes), s.takes.tail⟩, .ok (s.taken bytes))

/-- `io::sink` -/
def nullSink : ByteSink FrameError Unit where
  write _ bytes := ((), .ok bytes.length)

/-- A `Vec` as a writer. -/
def vec : ByteSink FrameError (List UInt8) where
  write w bytes := (w ++ bytes, .ok bytes.length)

variable {V W : Type}

/-- `serde_json::to_writer` -/
def toWriter (sink : ByteSink FrameError W) : W → List (List UInt8) → W × Except FrameError Unit
  | w, [] => (w, .ok ())
  | w, chunk :: chunks =>
    match writeAll sink .writeZero w chunk with
    | (w, .error e) => (w, .error e)
    | (w, .ok ()) => toWriter sink w chunks

/-- `write_supervisor_json_payload` -/
def writeJsonPayload (sink : ByteSink FrameError W) (w : W) (chunks : List (List UInt8)) :
    W × Except FrameError ℕ :=
  match toWriter (bounded maxPayloadBytes .frameTooLarge sink) ⟨w, 0⟩ chunks with
  | (b, .error e) => (b.inner, .error e)
  | (b, .ok ()) => (b.inner, .ok b.written)

/-- `supervisor_json_payload_len` -/
def jsonPayloadLen (chunks : List (List UInt8)) : Except FrameError ℕ :=
  (writeJsonPayload nullSink () chunks).2

section Frames

variable (codec : SupervisorJson V)

def writeFrameSync (s : Socket) (value : V) : Socket × Except FrameError Unit :=
  match (jsonPayloadLen (codec.chunks value)).bind fun payloadLen =>
      (payloadLengthPrefix payloadLen).map fun length => (payloadLen, length) with
  | .error e => (s, .error e)
  | .ok (payloadLen, length) =>
    match writeAll socket .writeZero s length with
    | (s, .error e) => (s, .error e)
    | (s, .ok ()) =>
      match writeJsonPayload socket s (codec.chunks value) with
      | (s, .error e) => (s, .error e)
      | (s, .ok written) =>
        if written ≠ payloadLen then (s, .error .lengthChanged) else (s, .ok ())

def writeFrameAsync (s : Socket) (value : V) : Socket × Except FrameError Unit :=
  match (jsonPayloadLen (codec.chunks value)).bind fun payloadLen =>
      (payloadLengthPrefix payloadLen).map fun length => (payloadLen, length) with
  | .error e => (s, .error e)
  | .ok (payloadLen, length) =>
    match writeJsonPayload vec [] (codec.chunks value) with
    | (_, .error e) => (s, .error e)
    | (payload, .ok written) =>
      if written ≠ payloadLen then (s, .error .lengthChanged)
      else
        match writeAll socket .writeZero s length with
        | (s, .error e) => (s, .error e)
        | (s, .ok ()) => writeAll socket .writeZero s payload

/-! ### Readers -/

/-- The frame that is read, as its length and its payload. -/
def readParts (pieces : List (List UInt8)) :
    Except FrameError (List UInt8 × List UInt8) × List (List UInt8) :=
  match readExact 4 pieces with
  | (none, rest) => (.error .unexpectedEof, rest)
  | (some length, rest) =>
    match checkedPayloadLen length with
    | .error e => (.error e, rest)
    | .ok payloadLen =>
      match readExact payloadLen rest with
      | (none, rest) => (.error .unexpectedEof, rest)
      | (some payload, rest) => (.ok (length, payload), rest)

def fromSlice (payload : List UInt8) : Except FrameError V :=
  match codec.fromSlice payload with
  | none => .error .json
  | some value => .ok value

def readFrame (pieces : List (List UInt8)) : Except FrameError V × List (List UInt8) :=
  let (parts, rest) := readParts pieces
  (parts.bind fun (_, payload) => fromSlice codec payload, rest)

def readFrameSync (pieces : List (List UInt8)) : Except FrameError V × List (List UInt8) :=
  readFrame codec pieces

def readFrameAsync (pieces : List (List UInt8)) : Except FrameError V × List (List UInt8) :=
  readFrame codec pieces

def readRawFrameSync (pieces : List (List UInt8)) :
    Except FrameError (List UInt8) × List (List UInt8) :=
  let (parts, rest) := readParts pieces
  (parts.map fun (length, payload) => length ++ payload, rest)

/-- `validate_length_prefixed_supervisor_frame` -/
def validateFrame (bytes : List UInt8) : Except FrameError ℕ :=
  if bytes.length < 4 then .error .missingPrefix
  else
    match checkedPayloadLen (bytes.take 4) with
    | .error e => .error e
    | .ok payloadLen =>
      if bytes.length ≠ 4 + payloadLen then .error .lengthMismatch else .ok payloadLen

def decodeLengthPrefixedJson (bytes : List UInt8) : Except FrameError V :=
  match validateFrame bytes with
  | .error e => .error e
  | .ok _ => fromSlice codec (bytes.drop 4)

/-- The browser: `JSON.parse` of the decoded text, which accepts what the daemon writes. -/
structure BrowserJson (codec : SupervisorJson V) where
  Value : Type
  parse : List UInt8 → Option Value
  parse_chunks : ∀ value, (parse (codec.chunks value).flatten).isSome

/-- `decodeLengthPrefixedJson` of the browser; `none` is an error that is thrown. -/
def BrowserJson.decodeLengthPrefixedJson {codec : SupervisorJson V} (browser : BrowserJson codec)
    (bytes : List UInt8) : Option browser.Value :=
  if bytes.length < 4 then none
  else if ofLittleEndian (bytes.take 4) ≠ bytes.length - 4 then none
  else browser.parse (bytes.drop 4)

/-! ### Streams -/

inductive WriteMode
  | sync
  | async

inductive ReadMode
  | sync
  | async
  | raw

def writeBy : WriteMode → Socket → V → Socket × Except FrameError Unit
  | .sync => writeFrameSync codec
  | .async => writeFrameAsync codec

def readBy : ReadMode → List (List UInt8) → Except FrameError V × List (List UInt8)
  | .sync, pieces => readFrameSync codec pieces
  | .async, pieces => readFrameAsync codec pieces
  | .raw, pieces =>
    let (frame, rest) := readRawFrameSync pieces
    (frame.bind (decodeLengthPrefixedJson codec), rest)

/-- Values that are written one after another; one that is refused is passed over. -/
def writeEach (s : Socket) (writes : List (WriteMode × V)) : Socket :=
  writes.foldl (fun s write => (writeBy codec write.1 s write.2).1) s

/-- One value for each reader. -/
def readEach : List ReadMode → List (List UInt8) → Except FrameError (List V) × List (List UInt8)
  | [], pieces => (.ok [], pieces)
  | mode :: modes, pieces =>
    match readBy codec mode pieces with
    | (.error e, rest) => (.error e, rest)
    | (.ok value, rest) =>
      let (values, rest) := readEach modes rest
      (values.map (value :: ·), rest)

def payload (value : V) : List UInt8 := (codec.chunks value).flatten

def Fits (value : V) : Prop := (payload codec value).length ≤ maxPayloadBytes

instance (value : V) : Decidable (Fits codec value) := inferInstanceAs (Decidable (_ ≤ _))

/-- The values that are not refused. -/
def accepted (writes : List (WriteMode × V)) : List V :=
  (writes.map Prod.snd).filter fun value => decide (Fits codec value)

/-- **Frames survive** any split of the stream. -/
structure FramesSurvive (browser : BrowserJson codec) : Prop where
  read_back : ∀ writes takes pieces modes,
    pieces.flatten = (writeEach codec ⟨[], takes⟩ writes).sent →
      modes.length = (accepted codec writes).length → ∃ rest,
        readEach codec modes pieces = (.ok (accepted codec writes), rest) ∧ rest.flatten = [] ∧
          ∀ mode, (readBy codec mode rest).1 = .error .unexpectedEof
  refused : ∀ mode s value, ¬ Fits codec value →
    writeBy codec mode s value = (s, .error .frameTooLarge)
  raw_valid : ∀ pieces frame rest, readRawFrameSync pieces = (.ok frame, rest) →
    validateFrame frame = .ok (frame.length - 4)
  browser_accepts : ∀ mode s value, Fits codec value → ∃ s' frame,
    writeBy codec mode s value = (s', .ok ()) ∧ s'.sent = s.sent ++ frame ∧
      (browser.decodeLengthPrefixedJson frame).isSome

end Frames

/-! ### The writers -/

section Writers

variable {sink : ByteSink FrameError W} {R : W → List UInt8 → W → Prop}
  {codec : SupervisorJson V} {value : V}

theorem socket_absorbs : Absorbs socket fun s bytes s' => s'.sent = s.sent ++ bytes where
  refl s := (List.append_nil s.sent).symm
  trans h h' := by rw [h', h, List.append_assoc]
  write s bytes hbytes := by
    have hpos := List.length_pos_iff.mpr hbytes
    have htaken : 0 < s.taken bytes ∧ s.taken bytes ≤ bytes.length := by
      rw [Socket.taken]
      split <;> omega
    exact ⟨_, _, rfl, htaken.1, htaken.2, rfl⟩

theorem nullSink_absorbs : Absorbs nullSink fun _ _ _ => True where
  refl _ := trivial
  trans _ _ := trivial
  write _ bytes hbytes := ⟨(), bytes.length, rfl, List.length_pos_iff.mpr hbytes, le_rfl, trivial⟩

theorem vec_absorbs : Absorbs vec fun w bytes w' => w' = w ++ bytes where
  refl w := (List.append_nil w).symm
  trans h h' := by rw [h', h, List.append_assoc]
  write w bytes hbytes :=
    ⟨w ++ bytes, bytes.length, rfl, List.length_pos_iff.mpr hbytes, le_rfl, by rw [List.take_length]⟩

theorem toWriter_eq (h : Absorbs sink R) (w : W) (written : ℕ) (chunks : List (List UInt8))
    (hfits : written + chunks.flatten.length ≤ maxPayloadBytes) : ∃ w',
      toWriter (bounded maxPayloadBytes .frameTooLarge sink) ⟨w, written⟩ chunks =
        (⟨w', written + chunks.flatten.length⟩, .ok ()) ∧ R w chunks.flatten w' := by
  induction chunks generalizing w written with
  | nil => exact ⟨w, rfl, h.refl w⟩
  | cons chunk chunks ih =>
    rw [List.flatten_cons, List.length_append] at hfits
    obtain ⟨w', hchunk, htook⟩ := writeAll_bounded_eq .writeZero
      FrameError.frameTooLarge h (by omega : written + chunk.length ≤ maxPayloadBytes) w
    obtain ⟨w'', hrest, htook'⟩ := ih w' (written + chunk.length) (by omega)
    refine ⟨w'', ?_, h.trans htook htook'⟩
    rw [toWriter, hchunk]
    simp only [hrest, List.flatten_cons, List.length_append, Nat.add_assoc]

theorem toWriter_refused (h : Absorbs sink R) (w : W) (written : ℕ) (chunks : List (List UInt8))
    (hwritten : written ≤ maxPayloadBytes)
    (hlong : maxPayloadBytes < written + chunks.flatten.length) : ∃ b,
      toWriter (bounded maxPayloadBytes .frameTooLarge sink) ⟨w, written⟩ chunks =
        (b, .error .frameTooLarge) := by
  induction chunks generalizing w written with
  | nil => exact absurd hwritten (Nat.not_le.mpr hlong)
  | cons chunk chunks ih =>
    rw [List.flatten_cons, List.length_append] at hlong
    rw [toWriter]
    by_cases hchunk : written + chunk.length ≤ maxPayloadBytes
    · obtain ⟨w', hwrite, -⟩ := writeAll_bounded_eq .writeZero
        FrameError.frameTooLarge h hchunk w
      rw [hwrite]
      exact ih w' (written + chunk.length) hchunk (by omega)
    · rw [writeAll_bounded_refused (Nat.not_le.mp hchunk) hwritten]
      exact ⟨_, rfl⟩

theorem writeJsonPayload_eq (h : Absorbs sink R) (w : W) {chunks : List (List UInt8)}
    (hfits : chunks.flatten.length ≤ maxPayloadBytes) : ∃ w',
      writeJsonPayload sink w chunks = (w', .ok chunks.flatten.length) ∧ R w chunks.flatten w' := by
  obtain ⟨w', hwrite, htook⟩ := toWriter_eq h w 0 chunks (by omega)
  refine ⟨w', ?_, htook⟩
  rw [writeJsonPayload, hwrite, Nat.zero_add]

/-- The payload is measured before anything is written. -/
theorem jsonPayloadLen_eq (hfits : Fits codec value) :
    jsonPayloadLen (codec.chunks value) = .ok (payload codec value).length := by
  obtain ⟨w', hwrite, -⟩ := writeJsonPayload_eq nullSink_absorbs () hfits
  rw [jsonPayloadLen, hwrite]
  rfl

theorem jsonPayloadLen_refused (hlong : ¬ Fits codec value) :
    jsonPayloadLen (codec.chunks value) = .error .frameTooLarge := by
  obtain ⟨b, hwrite⟩ := toWriter_refused nullSink_absorbs () 0 (codec.chunks value) (Nat.zero_le _)
    (by rw [Nat.zero_add]; exact Nat.not_le.mp hlong)
  rw [jsonPayloadLen, writeJsonPayload, hwrite]

theorem payloadLengthPrefix_eq {n : ℕ} (h : n ≤ maxPayloadBytes) :
    payloadLengthPrefix n = .ok (littleEndian 4 n) := by
  have hmax : maxPayloadBytes < 2 ^ 32 := by decide
  rw [payloadLengthPrefix, if_neg (by omega), if_neg (by omega)]

def frame (codec : SupervisorJson V) (value : V) : List UInt8 :=
  littleEndian 4 (payload codec value).length ++ payload codec value

/-- What the writers do first. -/
theorem measure_eq (hfits : Fits codec value) :
    ((jsonPayloadLen (codec.chunks value)).bind fun payloadLen =>
      (payloadLengthPrefix payloadLen).map fun length => (payloadLen, length)) =
        .ok ((payload codec value).length, littleEndian 4 (payload codec value).length) := by
  rw [jsonPayloadLen_eq hfits, Except.bind, payloadLengthPrefix_eq hfits]
  rfl

/-- **A frame is written** as a whole. -/
theorem writeBy_eq (mode : WriteMode) (s : Socket) (hfits : Fits codec value) : ∃ s',
    writeBy codec mode s value = (s', .ok ()) ∧ s'.sent = s.sent ++ frame codec value := by
  obtain ⟨s₁, hlength, hsent₁⟩ := socket_absorbs.writeAll_eq .writeZero s
    (littleEndian 4 (payload codec value).length)
  cases mode with
  | sync =>
    obtain ⟨s₂, hpayload, hsent₂⟩ := writeJsonPayload_eq socket_absorbs s₁ hfits
    refine ⟨s₂, ?_, ?_⟩
    · rw [writeBy, writeFrameSync, measure_eq hfits]
      simp only [hlength, hpayload]
      exact if_neg (not_not_intro rfl)
    · rw [hsent₂, hsent₁, List.append_assoc]
      rfl
  | async =>
    obtain ⟨made, hmade, hmadeEq⟩ := writeJsonPayload_eq vec_absorbs [] hfits
    obtain ⟨s₂, hpayload, hsent₂⟩ := socket_absorbs.writeAll_eq .writeZero s₁ made
    refine ⟨s₂, ?_, ?_⟩
    · rw [writeBy, writeFrameAsync, measure_eq hfits]
      simp only [hmade, hlength, hpayload]
      exact if_neg (not_not_intro rfl)
    · rw [hsent₂, hsent₁, hmadeEq, List.nil_append, List.append_assoc]
      rfl

/-- **A value that is too large** leaves the socket as it is. -/
theorem writeBy_refused (mode : WriteMode) (s : Socket) (hlong : ¬ Fits codec value) :
    writeBy codec mode s value = (s, .error .frameTooLarge) := by
  cases mode with
  | sync =>
    rw [writeBy, writeFrameSync, jsonPayloadLen_refused hlong]
    rfl
  | async =>
    rw [writeBy, writeFrameAsync, jsonPayloadLen_refused hlong]
    rfl

theorem accepted_cons_of_fits {mode : WriteMode} {writes : List (WriteMode × V)}
    (hfits : Fits codec value) :
    accepted codec ((mode, value) :: writes) = value :: accepted codec writes :=
  List.filter_cons_of_pos (decide_eq_true hfits)

theorem accepted_cons_of_not_fits {mode : WriteMode} {writes : List (WriteMode × V)}
    (hlong : ¬ Fits codec value) :
    accepted codec ((mode, value) :: writes) = accepted codec writes :=
  List.filter_cons_of_neg (by rw [decide_eq_false hlong]; exact Bool.false_ne_true)

/-- The stream has the frames of the values that were not refused. -/
theorem sent_writeEach (s : Socket) (writes : List (WriteMode × V)) :
    (writeEach codec s writes).sent =
      s.sent ++ (accepted codec writes).flatMap (frame codec) := by
  induction writes generalizing s with
  | nil => exact (List.append_nil s.sent).symm
  | cons write writes ih =>
    obtain ⟨mode, value⟩ := write
    rw [writeEach, List.foldl_cons, ← writeEach, ih]
    by_cases hfits : Fits codec value
    · obtain ⟨s', hwrite, hsent⟩ := writeBy_eq mode s hfits
      rw [accepted_cons_of_fits hfits, List.flatMap_cons, hwrite, hsent, List.append_assoc]
    · rw [accepted_cons_of_not_fits hfits, writeBy_refused mode s hfits]

end Writers

/-! ### The readers -/

section Readers

variable {codec : SupervisorJson V} {value : V} {pieces : List (List UInt8)}

theorem checkedPayloadLen_littleEndian {n : ℕ} (h : n ≤ maxPayloadBytes) :
    checkedPayloadLen (littleEndian 4 n) = .ok n := by
  have hmax : maxPayloadBytes < 256 ^ 4 := by decide
  rw [checkedPayloadLen, ofLittleEndian_littleEndian (by omega), if_neg (by omega)]

theorem readParts_eq {more : List UInt8} (hfits : Fits codec value)
    (h : pieces.flatten = frame codec value ++ more) : ∃ rest,
      readParts pieces = (.ok (littleEndian 4 (payload codec value).length, payload codec value),
        rest) ∧ rest.flatten = more := by
  rw [frame, List.append_assoc] at h
  have hprefix : (littleEndian 4 (payload codec value).length).length = 4 := length_littleEndian ..
  obtain ⟨rest₁, hlength, hrest₁⟩ := readExact_eq (n := 4) pieces
    (by rw [h, List.length_append]; omega)
  rw [h, List.take_left' hprefix] at hlength
  rw [h, List.drop_left' hprefix] at hrest₁
  obtain ⟨rest₂, hpayload, hrest₂⟩ := readExact_eq (n := (payload codec value).length)
    rest₁ (by rw [hrest₁, List.length_append]; omega)
  rw [hrest₁, List.take_left] at hpayload
  rw [hrest₁, List.drop_left] at hrest₂
  refine ⟨rest₂, ?_, hrest₂⟩
  rw [readParts, hlength]
  simp only [checkedPayloadLen_littleEndian hfits, hpayload]

theorem fromSlice_payload (value : V) : fromSlice codec (payload codec value) = .ok value := by
  rw [fromSlice, payload, codec.fromSlice_chunks]

theorem validateFrame_append {length payload : List UInt8} (hlength : length.length = 4)
    (h : checkedPayloadLen length = .ok payload.length) :
    validateFrame (length ++ payload) = .ok payload.length := by
  have hlong : ¬ (length ++ payload).length < 4 := by
    rw [List.length_append]
    omega
  have htotal : (length ++ payload).length = 4 + payload.length := by
    rw [List.length_append, hlength]
  rw [validateFrame, if_neg hlong, List.take_left' hlength, h]
  simp only [htotal, ne_eq, not_true_eq_false, if_false]

theorem decodeLengthPrefixedJson_frame (hfits : Fits codec value) :
    decodeLengthPrefixedJson codec (frame codec value) = .ok value := by
  rw [decodeLengthPrefixedJson, frame, validateFrame_append (length_littleEndian ..)
    (checkedPayloadLen_littleEndian hfits)]
  simp only [List.drop_left' (length_littleEndian 4 _)]
  exact fromSlice_payload value

/-- **A frame is read back** by every reader. -/
theorem readBy_eq (mode : ReadMode) {more : List UInt8} (hfits : Fits codec value)
    (h : pieces.flatten = frame codec value ++ more) : ∃ rest,
      readBy codec mode pieces = (.ok value, rest) ∧ rest.flatten = more := by
  obtain ⟨rest, hparts, hrest⟩ := readParts_eq hfits h
  refine ⟨rest, ?_, hrest⟩
  have hframe : readFrame codec pieces = (.ok value, rest) := by
    rw [readFrame, hparts]
    simp only [Except.bind, fromSlice_payload]
  cases mode with
  | sync => exact hframe
  | async => exact hframe
  | raw =>
    have hdecode := decodeLengthPrefixedJson_frame hfits
    rw [frame] at hdecode
    rw [readBy, readRawFrameSync, hparts]
    simp only [Except.map, Except.bind, hdecode]

theorem readParts_end (h : pieces.flatten = []) :
    ∃ rest, readParts pieces = (.error .unexpectedEof, rest) := by
  have hnone : (readExact 4 pieces).1 = none := readExact_eq_none (by rw [h]; decide)
  cases hread : readExact 4 pieces with
  | mk bytes rest =>
    rw [hread] at hnone
    obtain rfl := hnone
    exact ⟨rest, by rw [readParts, hread]⟩

theorem readBy_end (mode : ReadMode) (h : pieces.flatten = []) :
    (readBy codec mode pieces).1 = .error .unexpectedEof := by
  obtain ⟨rest, hparts⟩ := readParts_end h
  cases mode with
  | sync => rw [readBy, readFrameSync, readFrame, hparts]; rfl
  | async => rw [readBy, readFrameAsync, readFrame, hparts]; rfl
  | raw => rw [readBy, readRawFrameSync, hparts]; rfl

/-- **Reading a stream of frames.** -/
theorem readEach_eq (values : List V) (hfits : ∀ value ∈ values, Fits codec value)
    (modes : List ReadMode) (hmodes : modes.length = values.length)
    (h : pieces.flatten = values.flatMap (frame codec)) : ∃ rest,
      readEach codec modes pieces = (.ok values, rest) ∧ rest.flatten = [] := by
  induction values generalizing modes pieces with
  | nil =>
    obtain rfl := List.length_eq_zero_iff.mp hmodes
    exact ⟨pieces, rfl, h⟩
  | cons value values ih =>
    obtain ⟨hvalue, hvalues⟩ := List.forall_mem_cons.mp hfits
    cases modes with
    | nil => cases hmodes
    | cons mode modes =>
      rw [List.flatMap_cons] at h
      obtain ⟨rest, hread, hrest⟩ := readBy_eq mode hvalue h
      obtain ⟨rest', hreads, hend⟩ := ih hvalues modes (Nat.succ.inj hmodes) hrest
      refine ⟨rest', ?_, hend⟩
      rw [readEach, hread]
      simp only [hreads]
      rfl

/-! ### Raw frames -/

theorem length_of_readExact {n : ℕ} {bytes : List UInt8} {rest : List (List UInt8)}
    (h : readExact n pieces = (some bytes, rest)) : bytes.length = n := by
  by_cases hlong : n ≤ pieces.flatten.length
  · obtain ⟨rest', hread, -⟩ := readExact_eq pieces hlong
    rw [hread] at h
    obtain ⟨hbytes, -⟩ := Prod.mk.inj h
    rw [← Option.some.inj hbytes, List.length_take_of_le hlong]
  · have hnone := readExact_eq_none (Nat.not_le.mp hlong)
    rw [h] at hnone
    cases hnone

theorem readParts_ok {length payload : List UInt8} {rest : List (List UInt8)}
    (h : readParts pieces = (.ok (length, payload), rest)) :
    length.length = 4 ∧ checkedPayloadLen length = .ok payload.length := by
  rw [readParts] at h
  split at h
  · cases (Prod.mk.inj h).1
  · next length₁ rest₁ hlength =>
    split at h
    · cases (Prod.mk.inj h).1
    · next payloadLen hchecked =>
      split at h
      · cases (Prod.mk.inj h).1
      · next payload₁ rest₂ hpayload =>
        obtain ⟨rfl, rfl⟩ := Prod.mk.inj (Except.ok.inj (Prod.mk.inj h).1)
        rw [← length_of_readExact hpayload] at hchecked
        exact ⟨length_of_readExact hlength, hchecked⟩

theorem validateFrame_of_readRaw {frame : List UInt8} {rest : List (List UInt8)}
    (h : readRawFrameSync pieces = (.ok frame, rest)) :
    validateFrame frame = .ok (frame.length - 4) := by
  rw [readRawFrameSync] at h
  cases hparts : readParts pieces with
  | mk parts rest' =>
    rw [hparts] at h
    cases parts with
    | error e => cases (Prod.mk.inj h).1
    | ok parts =>
      obtain ⟨length, payload⟩ := parts
      obtain ⟨hlength, hchecked⟩ := readParts_ok hparts
      obtain rfl := Except.ok.inj (Prod.mk.inj h).1
      rw [validateFrame_append hlength hchecked, List.length_append, hlength,
        Nat.add_sub_cancel_left]

end Readers

/-- **Frames survive**: a stream of frames is read back from any pieces by any readers, a value that
is too large leaves no trace in it, and what is read raw or in the browser is accepted. -/
theorem frames_survive (codec : SupervisorJson V) (browser : BrowserJson codec) :
    FramesSurvive codec browser where
  read_back writes takes pieces modes hpieces hmodes := by
    rw [sent_writeEach, List.nil_append] at hpieces
    have hfits : ∀ value ∈ accepted codec writes, Fits codec value := fun value hvalue =>
      of_decide_eq_true (List.mem_filter.mp hvalue).2
    obtain ⟨rest, hread, hrest⟩ := readEach_eq _ hfits modes hmodes hpieces
    exact ⟨rest, hread, hrest, fun mode => readBy_end mode hrest⟩
  refused mode s value hlong := writeBy_refused mode s hlong
  raw_valid _ _ _ h := validateFrame_of_readRaw h
  browser_accepts mode s value hfits := by
    obtain ⟨s', hwrite, hsent⟩ := writeBy_eq mode s hfits
    refine ⟨s', frame codec value, hwrite, hsent, ?_⟩
    have hmax : maxPayloadBytes < 256 ^ 4 := by decide
    have hlen : (payload codec value).length ≤ maxPayloadBytes := hfits
    have hfour : (littleEndian 4 (payload codec value).length).length = 4 := length_littleEndian ..
    have htotal : (frame codec value).length = 4 + (payload codec value).length := by
      rw [frame, List.length_append, hfour]
    have hlength : ofLittleEndian ((frame codec value).take 4) = (frame codec value).length - 4 := by
      rw [htotal, frame, List.take_left' hfour, ofLittleEndian_littleEndian (by omega),
        Nat.add_sub_cancel_left]
    rw [BrowserJson.decodeLengthPrefixedJson, if_neg (by omega), if_neg (not_not_intro hlength),
      frame, List.drop_left' hfour]
    exact browser.parse_chunks value

/-! ### Texts that are written as they are -/

/-- A byte that JSON writes as it is: printable ASCII other than quote and backslash. -/
def isPlain (byte : UInt8) : Bool := 0x20 ≤ byte && byte ≤ 0x7e && byte ≠ 0x22 && byte ≠ 0x5c

abbrev PlainText := { text : List UInt8 // text.all isPlain = true }

/-- The text between two quotes. -/
def unquote : List UInt8 → Option PlainText
  | [] => none
  | first :: bytes =>
    if h : first = 0x22 ∧ bytes.getLast? = some 0x22 ∧ bytes.dropLast.all isPlain = true then
      some ⟨bytes.dropLast, h.2.2⟩
    else none

theorem unquote_quoted (text : PlainText) :
    unquote ([[0x22], text.val, [0x22]] : List (List UInt8)).flatten = some text := by
  have hflatten : ([[0x22], text.val, [0x22]] : List (List UInt8)).flatten =
      0x22 :: (text.val ++ [0x22]) := rfl
  have hdrop : (text.val ++ [0x22]).dropLast = text.val := List.dropLast_concat
  have hplain : (text.val ++ [0x22]).dropLast.all isPlain = true := by
    rw [hdrop]
    exact text.property
  rw [hflatten, unquote, dif_pos ⟨rfl, List.getLast?_concat, hplain⟩]
  exact congrArg some (Subtype.ext hdrop)

/-- A quote, the text and a quote are written one after another. -/
def plainJson : SupervisorJson PlainText where
  chunks text := [[0x22], text.val, [0x22]]
  fromSlice := unquote
  fromSlice_chunks := unquote_quoted

def plainBrowser : BrowserJson plainJson where
  Value := PlainText
  parse := unquote
  parse_chunks text := Option.isSome_iff_exists.mpr ⟨text, unquote_quoted text⟩

/-- As many letters A as a payload may have bytes; the quotes are too much. -/
def longText : PlainText :=
  ⟨List.replicate maxPayloadBytes 0x41,
    List.all_eq_true.mpr fun _ h => List.eq_of_mem_replicate h ▸ rfl⟩

theorem length_payload_plainJson (text : PlainText) :
    (payload plainJson text).length = text.val.length + 2 := by
  simp [payload, plainJson]

theorem longText_not_fits : ¬ Fits plainJson longText := by
  have hlength : longText.val.length = maxPayloadBytes := List.length_replicate
  rw [Fits, length_payload_plainJson, hlength]
  omega

/-- Two texts around one that is two bytes too long, in pieces that end inside of a prefix. -/
theorem frames_survive_pieces :
    let ls : PlainText := ⟨[0x6c, 0x73], by decide⟩
    let pwd : PlainText := ⟨[0x70, 0x77, 0x64], by decide⟩
    let writes := [(WriteMode.sync, ls), (.async, longText), (.async, pwd)]
    let pieces : List (List UInt8) :=
      [[4, 0], [0, 0, 0x22, 0x6c, 0x73, 0x22, 5], [], [0, 0, 0, 0x22, 0x70, 0x77], [0x64, 0x22]]
    pieces.flatten = (writeEach plainJson ⟨[], [0, 2, 1]⟩ writes).sent ∧
      (∃ rest, readEach plainJson [.raw, .async] pieces = (.ok [ls, pwd], rest) ∧
        (readBy plainJson .sync rest).1 = .error .unexpectedEof) ∧
      writeBy plainJson .async ⟨[], []⟩ longText = (⟨[], []⟩, .error .frameTooLarge) ∧
      ∃ s' frame, writeBy plainJson .sync ⟨[], [0]⟩ pwd = (s', .ok ()) ∧ s'.sent = frame ∧
        (plainBrowser.decodeLengthPrefixedJson frame).isSome := by
  intro ls pwd writes pieces
  have hsurvive := frames_survive plainJson plainBrowser
  have hls : Fits plainJson ls := by
    change 4 ≤ maxPayloadBytes
    decide +kernel
  have hpwd : Fits plainJson pwd := by
    change 5 ≤ maxPayloadBytes
    decide +kernel
  have haccepted : accepted plainJson writes = [ls, pwd] := by
    rw [accepted_cons_of_fits hls, accepted_cons_of_not_fits longText_not_fits,
      accepted_cons_of_fits hpwd]
    rfl
  have hpieces : pieces.flatten = (writeEach plainJson ⟨[], [0, 2, 1]⟩ writes).sent := by
    rw [sent_writeEach, haccepted]
    decide +kernel
  obtain ⟨rest, hread, -, hend⟩ := hsurvive.read_back writes [0, 2, 1] pieces [.raw, .async] hpieces
    (by rw [haccepted]; rfl)
  rw [haccepted] at hread
  obtain ⟨s', frame, hwrite, hsent, hbrowser⟩ := hsurvive.browser_accepts .sync ⟨[], [0]⟩ pwd
    hpwd
  exact ⟨hpieces, ⟨rest, hread, hend .sync⟩, hsurvive.refused .async _ _ longText_not_fits,
    s', frame, hwrite, hsent, hbrowser⟩

end Termd.Pty
