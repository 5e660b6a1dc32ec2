import Termd.Library.Base64
import Termd.Library.BigEndian
import Termd.Library.Json
import Termd.Relay.Admission

/-!
# Wire formats of the relay

Relay and daemon speak three binary formats: control messages in the payload of a WebSocket ping,
envelopes of a multiplexed connection, and frames of an HTTP tunnel. Each begins with four bytes of
its own and a kind.

## Where a message has two forms

Each format reads back what it writes. The other direction has two gaps. A mux envelope that carries
nothing but an id is read without a look at what follows its header, so it has as many forms as there
are payloads. A control message is written only if it fits into 125 bytes, the most that a control
frame of a WebSocket holds, and is read at any length.

## Main definitions

* `encodeRelayDataControl`, `decodeRelayDataControl`: control messages
* `encodeBinaryRelayMuxEnvelope`, `decodeBinaryRelayMuxEnvelope`: mux envelopes
* `RelayHttpTunnelWrite.encode`, `decodeRelayHttpTunnelFrame`: frames of a tunnel

## Main results

* `decodeRelayDataControl_encode`, `decodeBinaryRelayMuxEnvelope_encode`,
  `decodeRelayHttpTunnelFrame_encode`: what is written is read back
* `encodeRelayDataControl_of_decode`, `encodeBinaryRelayMuxEnvelope_of_decode`: when what is read is
  written back
-/

namespace Termd.Relay

/-! ### Strings -/

/-- `String::from_utf8` -/
def stringFromUtf8 (bytes : List UInt8) : Option String := String.fromUTF8? ⟨bytes.toArray⟩

theorem stringFromUtf8_eq_some_iff {bytes : List UInt8} {s : String} :
    stringFromUtf8 bytes = some s ↔ utf8Bytes s = bytes := by
  rw [stringFromUtf8, String.fromUTF8?]
  constructor
  · intro h
    split_ifs at h with hvalid
    cases h
    rfl
  · rintro rfl
    have hbytes : (⟨(utf8Bytes s).toArray⟩ : ByteArray) = s.toByteArray := rfl
    have hvalid : ByteArray.IsValidUTF8 ⟨(utf8Bytes s).toArray⟩ := hbytes ▸ s.isValidUTF8
    rw [dif_pos hvalid]
    rfl

/-! ### Control messages -/

def RELAY_DATA_CONTROL_MAGIC : List UInt8 := [0x74, 0x64, 0x63, 0x31]

/-- Connection ids are `u64` values. -/
def RelayControlEnvelope.Fits : RelayControlEnvelope → Prop
  | .openData clientId _ _ _ => clientId.value < 2 ^ 64
  | .clientDisconnected clientId => clientId.value < 2 ^ 64
  | .dataReady => True

/-- The bytes of a message, before their number is checked. -/
def relayDataControlBytes : RelayControlEnvelope → Option (List UInt8)
  | .openData clientId dataToken _ _ =>
    let token := utf8Bytes dataToken.value
    if token.length < 2 ^ 8 then
      some (RELAY_DATA_CONTROL_MAGIC ++
        1 :: (bigEndian 8 clientId.value ++ UInt8.ofNat token.length :: token))
    else none
  | .clientDisconnected clientId =>
    some (RELAY_DATA_CONTROL_MAGIC ++ 2 :: bigEndian 8 clientId.value)
  | .dataReady => some (RELAY_DATA_CONTROL_MAGIC ++ [3])

def encodeRelayDataControl (envelope : RelayControlEnvelope) : Option (List UInt8) :=
  (relayDataControlBytes envelope).bind fun out => if out.length ≤ 125 then some out else none

def decodeRelayDataControl (payload : List UInt8) : Option RelayControlEnvelope :=
  match RELAY_DATA_CONTROL_MAGIC.isPrefixOf? payload with
  | some (kind :: rest) =>
    if kind = 1 then
      if rest.length < 9 then none
      else
        let tokenLen := (rest.getD 8 0).toNat
        if rest.length < 9 + tokenLen then none
        else if rest.length ≠ 9 + tokenLen then none
        else
          (stringFromUtf8 ((rest.drop 9).take tokenLen)).map fun dataToken =>
            .openData ⟨ofBigEndian (rest.take 8)⟩ ⟨dataToken⟩ .legacy none
    else if kind = 2 then
      if rest.length ≠ 8 then none else some (.clientDisconnected ⟨ofBigEndian rest⟩)
    else if kind = 3 then
      if rest = [] then some .dataReady else none
    else none
  | _ => none

/-- The messages that have a form of their own: route and token are not written. -/
def RelayControlEnvelope.Plain : RelayControlEnvelope → Prop
  | .openData _ _ routeKind accessToken => routeKind = .legacy ∧ accessToken = none
  | _ => True

theorem isPrefixOf?_append (front rest : List UInt8) :
    front.isPrefixOf? (front ++ rest) = some rest :=
  List.isPrefixOf?_eq_some_iff_append_eq.mpr rfl

/-- The form of a message that opens a data line. -/
theorem decodeRelayDataControl_open {id token : List UInt8} {dataToken : String}
    (hid : id.length = 8) (htoken : token.length < 2 ^ 8) (hvalid : utf8Bytes dataToken = token) :
    decodeRelayDataControl
        (RELAY_DATA_CONTROL_MAGIC ++ 1 :: (id ++ UInt8.ofNat token.length :: token)) =
      some (.openData ⟨ofBigEndian id⟩ ⟨dataToken⟩ .legacy none) := by
  have hlen : (id ++ UInt8.ofNat token.length :: token).getD 8 0 = UInt8.ofNat token.length := by
    rw [List.getD_append_right _ _ _ _ hid.le, hid]
    rfl
  have hlength : (UInt8.ofNat token.length).toNat = token.length :=
    UInt8.toNat_ofNat_of_lt' htoken
  have hdrop : (id ++ UInt8.ofNat token.length :: token).drop 9 = token := by
    rw [List.drop_append, hid, List.drop_eq_nil_of_le (by omega)]
    rfl
  have htake : (id ++ UInt8.ofNat token.length :: token).take 8 = id := by
    rw [← hid, List.take_left]
  have htotal : (id ++ UInt8.ofNat token.length :: token).length = 9 + token.length := by
    rw [List.length_append, List.length_cons, hid]
    omega
  rw [decodeRelayDataControl, isPrefixOf?_append]
  dsimp only
  rw [if_pos rfl, htotal, if_neg (by omega), hlen, hlength, if_neg (by omega),
    if_neg (not_not.mpr rfl), hdrop, htake, List.take_length,
    stringFromUtf8_eq_some_iff.mpr hvalid, Option.map_some]

/-- What is written is read back, whatever its length. -/
theorem decodeRelayDataControl_bytes {envelope : RelayControlEnvelope} {payload : List UInt8}
    (hfits : envelope.Fits) (hplain : envelope.Plain)
    (h : relayDataControlBytes envelope = some payload) :
    decodeRelayDataControl payload = some envelope := by
  cases envelope with
  | openData clientId dataToken routeKind accessToken =>
    obtain ⟨rfl, rfl⟩ := hplain
    rw [relayDataControlBytes] at h
    split_ifs at h with htoken
    cases h
    rw [decodeRelayDataControl_open (length_bigEndian 8 _) htoken rfl,
      ofBigEndian_bigEndian hfits]
  | clientDisconnected clientId =>
    cases h
    rw [decodeRelayDataControl, isPrefixOf?_append]
    dsimp only
    rw [if_neg (by decide), if_pos rfl, if_neg (not_not.mpr (length_bigEndian 8 _)),
      ofBigEndian_bigEndian hfits]
  | dataReady =>
    cases h
    rfl

/-- **What is written is read back.** -/
theorem decodeRelayDataControl_encode {envelope : RelayControlEnvelope} {payload : List UInt8}
    (hfits : envelope.Fits) (hplain : envelope.Plain)
    (h : encodeRelayDataControl envelope = some payload) :
    payload.length ≤ 125 ∧ decodeRelayDataControl payload = some envelope := by
  obtain ⟨out, hout, h⟩ := Option.bind_eq_some_iff.mp h
  split_ifs at h with hlength
  obtain rfl := Option.some.inj h
  exact ⟨hlength, decodeRelayDataControl_bytes hfits hplain hout⟩

/-- What is read has the bytes that it was read from. -/
theorem relayDataControlBytes_of_decode {envelope : RelayControlEnvelope} {payload : List UInt8}
    (h : decodeRelayDataControl payload = some envelope) :
    envelope.Fits ∧ envelope.Plain ∧ relayDataControlBytes envelope = some payload := by
  rw [decodeRelayDataControl] at h
  split at h
  case h_2 => cases h
  rename_i kind rest hprefix
  obtain rfl := List.isPrefixOf?_eq_some_iff_append_eq.mp hprefix
  dsimp only at h
  split_ifs at h with hopen hshort hmissing hlonger hdisconnected hlength hready hempty
  · obtain ⟨dataToken, htoken, rfl⟩ := Option.map_eq_some_iff.mp h
    have hbytes := stringFromUtf8_eq_some_iff.mp htoken
    have hlonger := not_not.mp hlonger
    have hid : (rest.take 8).length = 8 := by rw [List.length_take]; omega
    have htail : (rest.drop 9).length = (rest.getD 8 0).toNat := by rw [List.length_drop]; omega
    rw [← htail, List.take_length] at hbytes
    have hsplit : rest = rest.take 8 ++ rest.getD 8 0 :: rest.drop 9 := by
      have h8 : 8 < rest.length := by omega
      rw [List.getD_eq_getElem _ _ h8, List.getElem_cons_drop, List.take_append_drop]
    have hfits := ofBigEndian_lt (rest.take 8)
    have hback := bigEndian_ofBigEndian (rest.take 8)
    rw [hid] at hfits hback
    refine ⟨hfits, ⟨rfl, rfl⟩, ?_⟩
    rw [relayDataControlBytes]
    dsimp only
    rw [hbytes, htail, if_pos (UInt8.toNat_lt _), hback, UInt8.ofNat_toNat, ← hsplit, hopen]
  · cases h
    have hlength := not_not.mp hlength
    have hfits := ofBigEndian_lt rest
    have hback := bigEndian_ofBigEndian rest
    rw [hlength] at hfits hback
    exact ⟨hfits, trivial, by rw [relayDataControlBytes, hback, hdisconnected]⟩
  · cases h
    exact ⟨trivial, trivial, by rw [relayDataControlBytes, hready, hempty]⟩

/-- **When what is read is written back**: if it fits into a control frame. -/
theorem encodeRelayDataControl_of_decode {envelope : RelayControlEnvelope} {payload : List UInt8}
    (h : decodeRelayDataControl payload = some envelope) :
    encodeRelayDataControl envelope = some payload ↔ payload.length ≤ 125 := by
  obtain ⟨-, -, hbytes⟩ := relayDataControlBytes_of_decode h
  rw [encodeRelayDataControl, hbytes, Option.bind_some]
  by_cases hlength : payload.length ≤ 125 <;> simp [hlength]

/-! ### Mux envelopes -/

/-- A frame of a connection. The Base64 of a binary frame is given by its bytes. -/
inductive RelayOpaqueFrame
  | text (data : String)
  | binary (dataBase64 : List UInt8)

inductive RelayMuxEnvelope
  | keepalive (nonce : ℕ)
  | keepaliveAck (nonce : ℕ)
  | clientConnected (clientId : RelayClientId)
  | clientDisconnected (clientId : RelayClientId)
  | clientFrame (clientId : RelayClientId) (frame : RelayOpaqueFrame)
  | daemonFrame (clientId : RelayClientId) (frame : RelayOpaqueFrame)

namespace RelayMuxEnvelope

/-- The `u64` of an envelope. -/
def id : RelayMuxEnvelope → ℕ
  | keepalive nonce => nonce
  | keepaliveAck nonce => nonce
  | clientConnected clientId => clientId.value
  | clientDisconnected clientId => clientId.value
  | clientFrame clientId _ => clientId.value
  | daemonFrame clientId _ => clientId.value

def frame? : RelayMuxEnvelope → Option RelayOpaqueFrame
  | clientFrame _ frame => some frame
  | daemonFrame _ frame => some frame
  | _ => none

/-- Ids are `u64` values. -/
def Fits (e : RelayMuxEnvelope) : Prop := e.id < 2 ^ 64

/-- A binary frame holds the Base64 of some bytes. -/
def Canonical (standard : Base64Engine) (e : RelayMuxEnvelope) : Prop :=
  ∀ dataBase64, e.frame? = some (.binary dataBase64) →
    ∃ payload, dataBase64 = standard.encode payload

end RelayMuxEnvelope

def BINARY_RELAY_MUX_MAGIC : List UInt8 := [0x54, 0x44, 0x32, 0x4d]
def BINARY_RELAY_MUX_VERSION : UInt8 := 1
def BINARY_RELAY_MUX_HEADER_LEN : ℕ := 16

inductive BinaryRelayMuxKind
  | clientConnected
  | clientDisconnected
  | clientTextFrame
  | clientBinaryFrame
  | daemonTextFrame
  | daemonBinaryFrame
  | keepalive
  | keepaliveAck

def BinaryRelayMuxKind.toByte : BinaryRelayMuxKind → UInt8
  | clientConnected => 1
  | clientDisconnected => 2
  | clientTextFrame => 3
  | clientBinaryFrame => 4
  | daemonTextFrame => 5
  | daemonBinaryFrame => 6
  | keepalive => 7
  | keepaliveAck => 8

inductive BinaryRelayMuxFrameError
  | invalidFrame
  | invalidBase64
  | invalidUtf8

def binaryRelayMuxKind (kind : UInt8) : Except BinaryRelayMuxFrameError BinaryRelayMuxKind :=
  if kind = 1 then .ok .clientConnected
  else if kind = 2 then .ok .clientDisconnected
  else if kind = 3 then .ok .clientTextFrame
  else if kind = 4 then .ok .clientBinaryFrame
  else if kind = 5 then .ok .daemonTextFrame
  else if kind = 6 then .ok .daemonBinaryFrame
  else if kind = 7 then .ok .keepalive
  else if kind = 8 then .ok .keepaliveAck
  else .error .invalidFrame

section Mux

variable (standard : Base64Engine)

def binaryRelayMuxPayload (frame : RelayOpaqueFrame) (textKind binaryKind : BinaryRelayMuxKind) :
    Except BinaryRelayMuxFrameError (BinaryRelayMuxKind × List UInt8) :=
  match frame with
  | .text data => .ok (textKind, utf8Bytes data)
  | .binary dataBase64 =>
    match standard.decode dataBase64 with
    | some payload => .ok (binaryKind, payload)
    | none => .error .invalidBase64

/-- The bytes of an envelope. -/
def binaryRelayMuxWire (kind : BinaryRelayMuxKind) (id : ℕ) (payload : List UInt8) : List UInt8 :=
  BINARY_RELAY_MUX_MAGIC ++
    BINARY_RELAY_MUX_VERSION :: kind.toByte :: 0 :: 0 :: (bigEndian 8 id ++ payload)

/-- The kind, the id and the payload of an envelope. -/
def binaryRelayMuxParts :
    RelayMuxEnvelope → Except BinaryRelayMuxFrameError (BinaryRelayMuxKind × ℕ × List UInt8)
  | .keepalive nonce => .ok (.keepalive, nonce, [])
  | .keepaliveAck nonce => .ok (.keepaliveAck, nonce, [])
  | .clientConnected clientId => .ok (.clientConnected, clientId.value, [])
  | .clientDisconnected clientId => .ok (.clientDisconnected, clientId.value, [])
  | .clientFrame clientId frame =>
    (binaryRelayMuxPayload standard frame .clientTextFrame .clientBinaryFrame).map
      fun (kind, payload) => (kind, clientId.value, payload)
  | .daemonFrame clientId frame =>
    (binaryRelayMuxPayload standard frame .daemonTextFrame .daemonBinaryFrame).map
      fun (kind, payload) => (kind, clientId.value, payload)

def encodeBinaryRelayMuxEnvelope (envelope : RelayMuxEnvelope) :
    Except BinaryRelayMuxFrameError (List UInt8) :=
  (binaryRelayMuxParts standard envelope).map fun (kind, id, payload) =>
    binaryRelayMuxWire kind id payload

/-- The envelope of a kind, an id and a payload. -/
def binaryRelayMuxEnvelope (kind : BinaryRelayMuxKind) (id : ℕ) (payload : List UInt8) :
    Except BinaryRelayMuxFrameError RelayMuxEnvelope :=
  match kind with
  | .keepalive => .ok (.keepalive id)
  | .keepaliveAck => .ok (.keepaliveAck id)
  | .clientConnected => .ok (.clientConnected ⟨id⟩)
  | .clientDisconnected => .ok (.clientDisconnected ⟨id⟩)
  | .clientTextFrame =>
    match stringFromUtf8 payload with
    | some data => .ok (.clientFrame ⟨id⟩ (.text data))
    | none => .error .invalidUtf8
  | .clientBinaryFrame => .ok (.clientFrame ⟨id⟩ (.binary (standard.encode payload)))
  | .daemonTextFrame =>
    match stringFromUtf8 payload with
    | some data => .ok (.daemonFrame ⟨id⟩ (.text data))
    | none => .error .invalidUtf8
  | .daemonBinaryFrame => .ok (.daemonFrame ⟨id⟩ (.binary (standard.encode payload)))

def decodeBinaryRelayMuxEnvelope (wire : List UInt8) :
    Except BinaryRelayMuxFrameError RelayMuxEnvelope :=
  if wire.length < BINARY_RELAY_MUX_HEADER_LEN ∨ wire.take 4 ≠ BINARY_RELAY_MUX_MAGIC ∨
      wire.getD 4 0 ≠ BINARY_RELAY_MUX_VERSION ∨ wire.getD 6 0 ≠ 0 ∨ wire.getD 7 0 ≠ 0 then
    .error .invalidFrame
  else do
    let kind ← binaryRelayMuxKind (wire.getD 5 0)
    binaryRelayMuxEnvelope standard kind (ofBigEndian ((wire.drop 8).take 8))
      (wire.drop BINARY_RELAY_MUX_HEADER_LEN)

variable {standard}

theorem binaryRelayMuxKind_eq_ok_iff {byte : UInt8} {kind : BinaryRelayMuxKind} :
    binaryRelayMuxKind byte = .ok kind ↔ byte = kind.toByte := by
  constructor
  · intro h
    unfold binaryRelayMuxKind at h
    split_ifs at h <;> cases h <;> assumption
  · rintro rfl
    cases kind <;> rfl

theorem length_binaryRelayMuxWire {kind : BinaryRelayMuxKind} {id : ℕ} {payload : List UInt8} :
    (binaryRelayMuxWire kind id payload).length = 16 + payload.length := by
  rw [binaryRelayMuxWire, List.length_append]
  simp only [List.length_cons, List.length_append, length_bigEndian, BINARY_RELAY_MUX_MAGIC,
    List.length_nil]
  omega

/-- A wire string with a header is an envelope's bytes. -/
theorem decodeBinaryRelayMuxEnvelope_wire {kind : BinaryRelayMuxKind} {id : ℕ}
    {payload : List UInt8} (hid : id < 2 ^ 64) :
    decodeBinaryRelayMuxEnvelope standard (binaryRelayMuxWire kind id payload) =
      binaryRelayMuxEnvelope standard kind id payload := by
  have hlength := length_bigEndian 8 id
  have hdrop : (binaryRelayMuxWire kind id payload).drop 8 = bigEndian 8 id ++ payload := rfl
  have htake : ((binaryRelayMuxWire kind id payload).drop 8).take 8 = bigEndian 8 id := by
    rw [hdrop, List.take_left' hlength]
  have hpayload :
      (binaryRelayMuxWire kind id payload).drop BINARY_RELAY_MUX_HEADER_LEN = payload := by
    rw [show BINARY_RELAY_MUX_HEADER_LEN = 8 + 8 from rfl, ← List.drop_drop, hdrop,
      List.drop_left' hlength]
  rw [decodeBinaryRelayMuxEnvelope, if_neg, htake, hpayload, ofBigEndian_bigEndian hid]
  · have hkind : binaryRelayMuxKind ((binaryRelayMuxWire kind id payload).getD 5 0) = .ok kind :=
      binaryRelayMuxKind_eq_ok_iff.mpr rfl
    rw [hkind]
    rfl
  · rw [length_binaryRelayMuxWire]
    simp only [not_or, not_not]
    exact ⟨Nat.not_lt.mpr (Nat.le_add_right 16 _), rfl, rfl, rfl, rfl⟩

/-- What decodes begins with a header. -/
theorem exists_wire_of_decode {wire : List UInt8} {envelope : RelayMuxEnvelope}
    (h : decodeBinaryRelayMuxEnvelope standard wire = .ok envelope) :
    ∃ kind id payload, id < 2 ^ 64 ∧ wire = binaryRelayMuxWire kind id payload ∧
      binaryRelayMuxEnvelope standard kind id payload = .ok envelope := by
  rw [decodeBinaryRelayMuxEnvelope] at h
  split_ifs at h with hheader
  simp only [not_or, not_not, Nat.not_lt] at hheader
  obtain ⟨hlength, hmagic, hversion, hzero, hzero'⟩ := hheader
  rw [BINARY_RELAY_MUX_HEADER_LEN] at hlength
  have hid : ((wire.drop 8).take 8).length = 8 := by
    rw [List.length_take, List.length_drop]
    omega
  have hsplit : wire = wire.take 4 ++ wire.getD 4 0 :: wire.getD 5 0 :: wire.getD 6 0 ::
      wire.getD 7 0 :: ((wire.drop 8).take 8 ++ wire.drop 16) := by
    rw [List.getD_eq_getElem _ _ (by omega : 4 < wire.length),
      List.getD_eq_getElem _ _ (by omega : 5 < wire.length),
      List.getD_eq_getElem _ _ (by omega : 6 < wire.length),
      List.getD_eq_getElem _ _ (by omega : 7 < wire.length),
      show wire.drop 16 = (wire.drop 8).drop 8 by rw [List.drop_drop], List.take_append_drop,
      List.getElem_cons_drop, List.getElem_cons_drop, List.getElem_cons_drop,
      List.getElem_cons_drop, List.take_append_drop]
  cases hkind : binaryRelayMuxKind (wire.getD 5 0) with
  | error error =>
    rw [hkind] at h
    cases h
  | ok kind =>
    rw [hkind] at h
    have hfits := ofBigEndian_lt ((wire.drop 8).take 8)
    have hback := bigEndian_ofBigEndian ((wire.drop 8).take 8)
    rw [hid] at hfits hback
    refine ⟨kind, _, wire.drop 16, hfits, ?_, h⟩
    rw [binaryRelayMuxWire, hback, ← binaryRelayMuxKind_eq_ok_iff.mp hkind]
    rw [hmagic, hversion, hzero, hzero'] at hsplit
    exact hsplit

/-- The parts of an envelope are those that it is read from. -/
theorem exists_parts {envelope : RelayMuxEnvelope} (hcanonical : envelope.Canonical standard) :
    ∃ kind id payload, binaryRelayMuxParts standard envelope = .ok (kind, id, payload) ∧
      binaryRelayMuxEnvelope standard kind id payload = .ok envelope ∧ envelope.id = id := by
  cases envelope with
  | keepalive nonce => exact ⟨_, _, _, rfl, rfl, rfl⟩
  | keepaliveAck nonce => exact ⟨_, _, _, rfl, rfl, rfl⟩
  | clientConnected clientId => exact ⟨_, _, _, rfl, rfl, rfl⟩
  | clientDisconnected clientId => exact ⟨_, _, _, rfl, rfl, rfl⟩
  | clientFrame clientId frame =>
    cases frame with
    | text data =>
      refine ⟨.clientTextFrame, _, utf8Bytes data, rfl, ?_, rfl⟩
      rw [binaryRelayMuxEnvelope, stringFromUtf8_eq_some_iff.mpr rfl]
    | binary dataBase64 =>
      obtain ⟨payload, rfl⟩ := hcanonical dataBase64 rfl
      refine ⟨.clientBinaryFrame, _, payload, ?_, rfl, rfl⟩
      rw [binaryRelayMuxParts, binaryRelayMuxPayload, standard.decode_encode]
      rfl
  | daemonFrame clientId frame =>
    cases frame with
    | text data =>
      refine ⟨.daemonTextFrame, _, utf8Bytes data, rfl, ?_, rfl⟩
      rw [binaryRelayMuxEnvelope, stringFromUtf8_eq_some_iff.mpr rfl]
    | binary dataBase64 =>
      obtain ⟨payload, rfl⟩ := hcanonical dataBase64 rfl
      refine ⟨.daemonBinaryFrame, _, payload, ?_, rfl, rfl⟩
      rw [binaryRelayMuxParts, binaryRelayMuxPayload, standard.decode_encode]
      rfl

/-- **What is written is read back.** -/
theorem decodeBinaryRelayMuxEnvelope_encode {envelope : RelayMuxEnvelope} (hfits : envelope.Fits)
    (hcanonical : envelope.Canonical standard) :
    ∃ wire, encodeBinaryRelayMuxEnvelope standard envelope = .ok wire ∧
      decodeBinaryRelayMuxEnvelope standard wire = .ok envelope := by
  obtain ⟨kind, id, payload, hparts, henvelope, hid⟩ := exists_parts hcanonical
  refine ⟨binaryRelayMuxWire kind id payload, ?_, ?_⟩
  · rw [encodeBinaryRelayMuxEnvelope, hparts]
    rfl
  · rw [decodeBinaryRelayMuxEnvelope_wire (hid ▸ hfits), henvelope]

/-- An envelope that has no frame. -/
def BinaryRelayMuxKind.isBare : BinaryRelayMuxKind → Bool
  | clientConnected | clientDisconnected | keepalive | keepaliveAck => true
  | _ => false

/-- A frame goes back into its bytes; of the other kinds only the id does. -/
theorem binaryRelayMuxParts_of_envelope {kind : BinaryRelayMuxKind} {id : ℕ} {payload : List UInt8}
    {envelope : RelayMuxEnvelope}
    (h : binaryRelayMuxEnvelope standard kind id payload = .ok envelope) :
    binaryRelayMuxParts standard envelope = .ok (kind, id, if kind.isBare then [] else payload) ∧
      (envelope.frame? = none ↔ kind.isBare = true) := by
  cases kind with
  | keepalive => cases h; exact ⟨rfl, iff_of_true rfl rfl⟩
  | keepaliveAck => cases h; exact ⟨rfl, iff_of_true rfl rfl⟩
  | clientConnected => cases h; exact ⟨rfl, iff_of_true rfl rfl⟩
  | clientDisconnected => cases h; exact ⟨rfl, iff_of_true rfl rfl⟩
  | clientTextFrame =>
    rw [binaryRelayMuxEnvelope] at h
    split at h
    · rename_i data hdata
      cases h
      rw [← stringFromUtf8_eq_some_iff.mp hdata]
      exact ⟨rfl, iff_of_false (Option.some_ne_none _) Bool.false_ne_true⟩
    · cases h
  | daemonTextFrame =>
    rw [binaryRelayMuxEnvelope] at h
    split at h
    · rename_i data hdata
      cases h
      rw [← stringFromUtf8_eq_some_iff.mp hdata]
      exact ⟨rfl, iff_of_false (Option.some_ne_none _) Bool.false_ne_true⟩
    · cases h
  | clientBinaryFrame =>
    cases h
    rw [binaryRelayMuxParts, binaryRelayMuxPayload, standard.decode_encode]
    exact ⟨rfl, iff_of_false (Option.some_ne_none _) Bool.false_ne_true⟩
  | daemonBinaryFrame =>
    cases h
    rw [binaryRelayMuxParts, binaryRelayMuxPayload, standard.decode_encode]
    exact ⟨rfl, iff_of_false (Option.some_ne_none _) Bool.false_ne_true⟩

/-- **When what is read is written back**: if nothing follows the header of an envelope that has no
frame. -/
theorem encodeBinaryRelayMuxEnvelope_of_decode {wire : List UInt8} {envelope : RelayMuxEnvelope}
    (h : decodeBinaryRelayMuxEnvelope standard wire = .ok envelope) :
    encodeBinaryRelayMuxEnvelope standard envelope = .ok wire ↔
      (envelope.frame? = none → wire.length = BINARY_RELAY_MUX_HEADER_LEN) := by
  obtain ⟨kind, id, payload, -, rfl, henvelope⟩ := exists_wire_of_decode h
  obtain ⟨hparts, hframe⟩ := binaryRelayMuxParts_of_envelope henvelope
  have hwire : encodeBinaryRelayMuxEnvelope standard envelope =
      .ok (binaryRelayMuxWire kind id (if kind.isBare then [] else payload)) := by
    rw [encodeBinaryRelayMuxEnvelope, hparts]
    rfl
  rw [hwire, hframe, length_binaryRelayMuxWire, BINARY_RELAY_MUX_HEADER_LEN, Except.ok.injEq]
  rcases hbare : kind.isBare with _ | _
  · exact iff_of_true rfl fun h => absurd h Bool.false_ne_true
  · rw [if_pos rfl]
    constructor
    · intro h _
      have hlength := congrArg List.length h
      rw [length_binaryRelayMuxWire, length_binaryRelayMuxWire] at hlength
      exact hlength.symm
    · intro h
      have hnil : payload = [] := List.length_eq_zero_iff.mp (Nat.add_left_cancel (h rfl))
      rw [hnil]

end Mux

/-! ### Frames of an HTTP tunnel -/

def RELAY_HTTP_TUNNEL_STREAM_MAGIC : List UInt8 := [0x54, 0x44, 0x48, 0x54]
def RELAY_HTTP_TUNNEL_REQUEST_HEAD : UInt8 := 1
def RELAY_HTTP_TUNNEL_REQUEST_BODY : UInt8 := 2
def RELAY_HTTP_TUNNEL_REQUEST_END : UInt8 := 3
def RELAY_HTTP_TUNNEL_RESPONSE_HEAD : UInt8 := 4
def RELAY_HTTP_TUNNEL_RESPONSE_BODY : UInt8 := 5
def RELAY_HTTP_TUNNEL_RESPONSE_END : UInt8 := 6

abbrev HttpHeaders := List (String × String)

structure RelayHttpTunnelHead where
  method : String
  path : String
  headers : HttpHeaders

structure RelayHttpTunnelResponseHead where
  status : UInt16
  headers : HttpHeaders

inductive RelayHttpTunnelFrame
  | requestHead (method path : String) (headers : HttpHeaders)
  | requestBody (body : List UInt8)
  | requestEnd
  | responseHead (status : UInt16) (headers : HttpHeaders)
  | responseBody (body : List UInt8)
  | responseEnd

def stringToJson (s : String) : Json := .text (utf8Bytes s)

def stringOfJson (json : Json) : Option String := json.asText.bind stringFromUtf8

def httpHeaderToJson (header : String × String) : Json :=
  .array [stringToJson header.1, stringToJson header.2]

def httpHeaderOfJson : Json → Option (String × String)
  | .array [name, value] => do some (← stringOfJson name, ← stringOfJson value)
  | _ => none

def httpHeadersToJson (headers : HttpHeaders) : Json := .array (headers.map httpHeaderToJson)

def httpHeadersOfJson : Json → Option HttpHeaders
  | .array elements => elements.mapM httpHeaderOfJson
  | _ => none

def u16OfJson (json : Json) : Option UInt16 :=
  json.asUnsigned.bind fun n => if n < 2 ^ 16 then some (UInt16.ofNat n) else none

/-- The ASCII name of a field. -/
def fieldName (name : String) : List UInt8 := name.toList.map fun c => UInt8.ofNat c.toNat

def RelayHttpTunnelHead.toJson (head : RelayHttpTunnelHead) : Json :=
  .objectOf [(fieldName "method", stringToJson head.method),
    (fieldName "path", stringToJson head.path), (fieldName "headers", httpHeadersToJson head.headers)]

def RelayHttpTunnelHead.ofJson (json : Json) : Option RelayHttpTunnelHead := do
  let [method, path, headers] ←
    json.fields [fieldName "method", fieldName "path", fieldName "headers"] | none
  some
    { method := ← Json.required stringOfJson method
      path := ← Json.required stringOfJson path
      headers := ← Json.required httpHeadersOfJson headers }

def RelayHttpTunnelResponseHead.toJson (head : RelayHttpTunnelResponseHead) : Json :=
  .objectOf [(fieldName "status", .unsigned head.status.toNat),
    (fieldName "headers", httpHeadersToJson head.headers)]

def RelayHttpTunnelResponseHead.ofJson (json : Json) : Option RelayHttpTunnelResponseHead := do
  let [status, headers] ← json.fields [fieldName "status", fieldName "headers"] | none
  some
    { status := ← Json.required u16OfJson status
      headers := ← Json.defaulted [] httpHeadersOfJson headers }

def encodeRelayHttpTunnelStreamFrame (kind : UInt8) (payload : List UInt8) : List UInt8 :=
  RELAY_HTTP_TUNNEL_STREAM_MAGIC ++ kind :: payload

section Tunnel

variable (c : JsonCodec)

def encodeRelayHttpTunnelRequestHead (method path : String) (headers : HttpHeaders) : List UInt8 :=
  encodeRelayHttpTunnelStreamFrame RELAY_HTTP_TUNNEL_REQUEST_HEAD
    (c.renderJson (RelayHttpTunnelHead.toJson { method, path, headers }))

def encodeRelayHttpTunnelRequestBody (body : List UInt8) : List UInt8 :=
  encodeRelayHttpTunnelStreamFrame RELAY_HTTP_TUNNEL_REQUEST_BODY body

def encodeRelayHttpTunnelRequestEnd : List UInt8 :=
  encodeRelayHttpTunnelStreamFrame RELAY_HTTP_TUNNEL_REQUEST_END []

def encodeRelayHttpTunnelResponseHead (status : UInt16) : List UInt8 :=
  encodeRelayHttpTunnelStreamFrame RELAY_HTTP_TUNNEL_RESPONSE_HEAD (bigEndian 2 status.toNat)

def encodeRelayHttpTunnelResponseHeadWithHeaders (status : UInt16) (headers : HttpHeaders) :
    List UInt8 :=
  encodeRelayHttpTunnelStreamFrame RELAY_HTTP_TUNNEL_RESPONSE_HEAD
    (c.renderJson (RelayHttpTunnelResponseHead.toJson { status, headers }))

def encodeRelayHttpTunnelResponseBody (body : List UInt8) : List UInt8 :=
  encodeRelayHttpTunnelStreamFrame RELAY_HTTP_TUNNEL_RESPONSE_BODY body

def encodeRelayHttpTunnelResponseEnd : List UInt8 :=
  encodeRelayHttpTunnelStreamFrame RELAY_HTTP_TUNNEL_RESPONSE_END []

def decodeRelayHttpTunnelFrame (raw : List UInt8) : Option RelayHttpTunnelFrame :=
  if raw.length < 5 ∨ raw.take 4 ≠ RELAY_HTTP_TUNNEL_STREAM_MAGIC then none
  else
    let kind := raw.getD 4 0
    let payload := raw.drop 5
    if kind = RELAY_HTTP_TUNNEL_REQUEST_HEAD then
      ((c.parseJson payload).bind RelayHttpTunnelHead.ofJson).map fun head =>
        .requestHead head.method head.path head.headers
    else if kind = RELAY_HTTP_TUNNEL_REQUEST_BODY then some (.requestBody payload)
    else if kind = RELAY_HTTP_TUNNEL_REQUEST_END ∧ payload = [] then some .requestEnd
    else if kind = RELAY_HTTP_TUNNEL_RESPONSE_HEAD ∧ payload.length = 2 then
      some (.responseHead (UInt16.ofNat (ofBigEndian payload)) [])
    else if kind = RELAY_HTTP_TUNNEL_RESPONSE_HEAD then
      ((c.parseJson payload).bind RelayHttpTunnelResponseHead.ofJson).map fun head =>
        .responseHead head.status head.headers
    else if kind = RELAY_HTTP_TUNNEL_RESPONSE_BODY then some (.responseBody payload)
    else if kind = RELAY_HTTP_TUNNEL_RESPONSE_END ∧ payload = [] then some .responseEnd
    else none

/-- A call of one of the seven encoders. -/
inductive RelayHttpTunnelWrite
  | requestHead (method path : String) (headers : HttpHeaders)
  | requestBody (body : List UInt8)
  | requestEnd
  | responseHead (status : UInt16)
  | responseHeadWithHeaders (status : UInt16) (headers : HttpHeaders)
  | responseBody (body : List UInt8)
  | responseEnd

namespace RelayHttpTunnelWrite

def encode : RelayHttpTunnelWrite → List UInt8
  | requestHead method path headers => encodeRelayHttpTunnelRequestHead c method path headers
  | requestBody body => encodeRelayHttpTunnelRequestBody body
  | requestEnd => encodeRelayHttpTunnelRequestEnd
  | responseHead status => encodeRelayHttpTunnelResponseHead status
  | responseHeadWithHeaders status headers =>
    encodeRelayHttpTunnelResponseHeadWithHeaders c status headers
  | responseBody body => encodeRelayHttpTunnelResponseBody body
  | responseEnd => encodeRelayHttpTunnelResponseEnd

/-- The frame that is meant. -/
def frame : RelayHttpTunnelWrite → RelayHttpTunnelFrame
  | requestHead method path headers => .requestHead method path headers
  | requestBody body => .requestBody body
  | requestEnd => .requestEnd
  | responseHead status => .responseHead status []
  | responseHeadWithHeaders status headers => .responseHead status headers
  | responseBody body => .responseBody body
  | responseEnd => .responseEnd

def kind : RelayHttpTunnelWrite → UInt8
  | requestHead _ _ _ => RELAY_HTTP_TUNNEL_REQUEST_HEAD
  | requestBody _ => RELAY_HTTP_TUNNEL_REQUEST_BODY
  | requestEnd => RELAY_HTTP_TUNNEL_REQUEST_END
  | responseHead _ => RELAY_HTTP_TUNNEL_RESPONSE_HEAD
  | responseHeadWithHeaders _ _ => RELAY_HTTP_TUNNEL_RESPONSE_HEAD
  | responseBody _ => RELAY_HTTP_TUNNEL_RESPONSE_BODY
  | responseEnd => RELAY_HTTP_TUNNEL_RESPONSE_END

/-- The JSON of a head is parsed again, and it is longer than two bytes. -/
def JsonReadsBack : RelayHttpTunnelWrite → Prop
  | requestHead method path headers =>
    c.ReadsBack (RelayHttpTunnelHead.toJson { method, path, headers })
  | responseHeadWithHeaders status headers =>
    c.ReadsBack (RelayHttpTunnelResponseHead.toJson { status, headers }) ∧
      2 < (c.renderJson (RelayHttpTunnelResponseHead.toJson { status, headers })).length
  | _ => True

end RelayHttpTunnelWrite

variable {c}

theorem stringOfJson_stringToJson (s : String) : stringOfJson (stringToJson s) = some s :=
  stringFromUtf8_eq_some_iff.mpr rfl

theorem httpHeadersOfJson_httpHeadersToJson (headers : HttpHeaders) :
    httpHeadersOfJson (httpHeadersToJson headers) = some headers := by
  rw [httpHeadersToJson, httpHeadersOfJson]
  induction headers with
  | nil => rfl
  | cons header headers ih =>
    have hheader : httpHeaderOfJson (httpHeaderToJson header) = some header := by
      rw [httpHeaderToJson, httpHeaderOfJson, stringOfJson_stringToJson, stringOfJson_stringToJson]
      rfl
    rw [List.map_cons, List.mapM_cons, hheader, ih]
    rfl

theorem RelayHttpTunnelHead.ofJson_toJson (head : RelayHttpTunnelHead) :
    ofJson head.toJson = some head := by
  have hnames : (List.map Prod.fst [(fieldName "method", stringToJson head.method),
      (fieldName "path", stringToJson head.path),
      (fieldName "headers", httpHeadersToJson head.headers)]).Nodup := by
    change [fieldName "method", fieldName "path", fieldName "headers"].Nodup
    decide
  have hfields : head.toJson.fields [fieldName "method", fieldName "path", fieldName "headers"] =
      some [some (stringToJson head.method), some (stringToJson head.path),
        some (httpHeadersToJson head.headers)] := by
    rw [toJson, Json.fields_objectOf hnames]
    rfl
  rw [ofJson, hfields]
  simp [Json.required, stringOfJson_stringToJson, httpHeadersOfJson_httpHeadersToJson]

theorem u16OfJson_toNat (status : UInt16) : u16OfJson (.unsigned status.toNat) = some status := by
  have hlt : status.toNat < 2 ^ 16 := status.toNat_lt
  rw [u16OfJson, Json.asUnsigned_unsigned, Option.bind_some, if_pos hlt, UInt16.ofNat_toNat]

theorem RelayHttpTunnelResponseHead.ofJson_toJson (head : RelayHttpTunnelResponseHead) :
    ofJson head.toJson = some head := by
  have hnames : (List.map Prod.fst [(fieldName "status", Json.unsigned head.status.toNat),
      (fieldName "headers", httpHeadersToJson head.headers)]).Nodup := by
    change [fieldName "status", fieldName "headers"].Nodup
    decide
  have hfields : head.toJson.fields [fieldName "status", fieldName "headers"] =
      some [some (.unsigned head.status.toNat), some (httpHeadersToJson head.headers)] := by
    rw [toJson, Json.fields_objectOf hnames]
    rfl
  rw [ofJson, hfields]
  simp [Json.required, Json.defaulted, u16OfJson_toNat, httpHeadersOfJson_httpHeadersToJson]

theorem header_stream (kind : UInt8) (payload : List UInt8) :
    ¬((encodeRelayHttpTunnelStreamFrame kind payload).length < 5 ∨
      (encodeRelayHttpTunnelStreamFrame kind payload).take 4 ≠ RELAY_HTTP_TUNNEL_STREAM_MAGIC) := by
  simp [encodeRelayHttpTunnelStreamFrame, RELAY_HTTP_TUNNEL_STREAM_MAGIC]

theorem kind_stream (kind : UInt8) (payload : List UInt8) :
    (encodeRelayHttpTunnelStreamFrame kind payload).getD 4 0 = kind := rfl

theorem payload_stream (kind : UInt8) (payload : List UInt8) :
    (encodeRelayHttpTunnelStreamFrame kind payload).drop 5 = payload := rfl

/-- **What is written is read back.** -/
theorem decodeRelayHttpTunnelFrame_encode (write : RelayHttpTunnelWrite)
    (h : write.JsonReadsBack c) :
    decodeRelayHttpTunnelFrame c (write.encode c) = some write.frame := by
  cases write with
  | requestHead method path headers =>
    have hjson : c.parseJson (c.renderJson (RelayHttpTunnelHead.toJson { method, path, headers })) =
      some (RelayHttpTunnelHead.toJson { method, path, headers }) := h
    rw [RelayHttpTunnelWrite.encode, encodeRelayHttpTunnelRequestHead, decodeRelayHttpTunnelFrame,
      if_neg (header_stream _ _)]
    dsimp only
    rw [kind_stream, payload_stream, if_pos rfl, hjson, Option.bind_some,
      RelayHttpTunnelHead.ofJson_toJson]
    rfl
  | requestBody body => exact if_neg (header_stream _ _)
  | requestEnd => exact if_neg (header_stream _ _)
  | responseHead status =>
    have hlt : status.toNat < 256 ^ 2 := status.toNat_lt
    rw [RelayHttpTunnelWrite.encode, encodeRelayHttpTunnelResponseHead, decodeRelayHttpTunnelFrame,
      if_neg (header_stream _ _)]
    dsimp only
    rw [kind_stream, payload_stream, if_neg (by decide), if_neg (by decide),
      if_neg (fun h => absurd h.1 (by decide)), if_pos ⟨rfl, length_bigEndian 2 _⟩,
      ofBigEndian_bigEndian hlt, UInt16.ofNat_toNat]
    rfl
  | responseHeadWithHeaders status headers =>
    have hjson : c.parseJson
        (c.renderJson (RelayHttpTunnelResponseHead.toJson { status, headers })) =
      some (RelayHttpTunnelResponseHead.toJson { status, headers }) := h.1
    rw [RelayHttpTunnelWrite.encode, encodeRelayHttpTunnelResponseHeadWithHeaders,
      decodeRelayHttpTunnelFrame, if_neg (header_stream _ _)]
    dsimp only
    rw [kind_stream, payload_stream, if_neg (by decide), if_neg (by decide),
      if_neg (fun h => absurd h.1 (by decide)), if_neg (fun hlegacy => h.2.ne' hlegacy.2),
      if_pos rfl, hjson, Option.bind_some, RelayHttpTunnelResponseHead.ofJson_toJson]
    rfl
  | responseBody body => exact if_neg (header_stream _ _)
  | responseEnd => exact if_neg (header_stream _ _)

/-- Frames of different kinds are different. -/
theorem RelayHttpTunnelWrite.kind_eq_of_encode {a b : RelayHttpTunnelWrite}
    (h : a.encode c = b.encode c) : a.kind = b.kind := by
  have hkind (write : RelayHttpTunnelWrite) : (write.encode c).getD 4 0 = write.kind := by
    cases write <;> rfl
  rw [← hkind a, h, hkind b]

end Tunnel

/-- **The wire formats**: what is written is read back, and when what is read is written back. -/
structure WireFormats (c : JsonCodec) (standard : Base64Engine) : Prop where
  tunnel : ∀ write : RelayHttpTunnelWrite, write.JsonReadsBack c →
    decodeRelayHttpTunnelFrame c (write.encode c) = some write.frame
  tunnelApart : ∀ a b : RelayHttpTunnelWrite, a.kind ≠ b.kind → a.encode c ≠ b.encode c
  /-- A status alone is not the head with headers of any response. -/
  legacyApart : ∀ (status status' : UInt16) (headers : HttpHeaders),
    (RelayHttpTunnelWrite.responseHeadWithHeaders status' headers).JsonReadsBack c →
    encodeRelayHttpTunnelResponseHead status ≠
      encodeRelayHttpTunnelResponseHeadWithHeaders c status' headers
  mux : ∀ envelope : RelayMuxEnvelope, envelope.Fits → envelope.Canonical standard →
    ∃ wire, encodeBinaryRelayMuxEnvelope standard envelope = .ok wire ∧
      decodeBinaryRelayMuxEnvelope standard wire = .ok envelope
  muxBack : ∀ (wire : List UInt8) (envelope : RelayMuxEnvelope),
    decodeBinaryRelayMuxEnvelope standard wire = .ok envelope →
    (encodeBinaryRelayMuxEnvelope standard envelope = .ok wire ↔
      (envelope.frame? = none → wire.length = BINARY_RELAY_MUX_HEADER_LEN))
  control : ∀ (envelope : RelayControlEnvelope) (payload : List UInt8), envelope.Fits →
    envelope.Plain → encodeRelayDataControl envelope = some payload →
    payload.length ≤ 125 ∧ decodeRelayDataControl payload = some envelope
  controlBack : ∀ (payload : List UInt8) (envelope : RelayControlEnvelope),
    decodeRelayDataControl payload = some envelope →
    (encodeRelayDataControl envelope = some payload ↔ payload.length ≤ 125)

theorem wireFormats (c : JsonCodec) (standard : Base64Engine) : WireFormats c standard where
  tunnel := fun write h => decodeRelayHttpTunnelFrame_encode write h
  tunnelApart := fun _ _ hkind h => hkind (RelayHttpTunnelWrite.kind_eq_of_encode h)
  legacyApart := by
    intro status status' headers hjson h
    have hpayload := congrArg List.length h
    simp only [encodeRelayHttpTunnelResponseHead, encodeRelayHttpTunnelResponseHeadWithHeaders,
      encodeRelayHttpTunnelStreamFrame, List.length_append, List.length_cons,
      length_bigEndian] at hpayload
    have hlonger := hjson.2
    omega
  mux := fun _ hfits hcanonical => decodeBinaryRelayMuxEnvelope_encode hfits hcanonical
  muxBack := fun _ _ h => encodeBinaryRelayMuxEnvelope_of_decode h
  control := fun _ _ hfits hplain h => decodeRelayDataControl_encode hfits hplain h
  controlBack := fun _ _ h => encodeRelayDataControl_of_decode h

def requestHeadText : List UInt8 :=
  utf8Bytes "\x7b\"method\":\"GET\",\"path\":\"/api/files\"," ++
    utf8Bytes "\"headers\":[[\"range\",\"bytes=0-3\"]]\x7d"

def responseHeadText : List UInt8 :=
  utf8Bytes "\x7b\"status\":206,\"headers\":[[\"content-range\",\"bytes 0-3/9\"]]\x7d"

def parseHeads (text : List UInt8) : Option Json :=
  if text = requestHeadText then
    some (RelayHttpTunnelHead.toJson ⟨"GET", "/api/files", [("range", "bytes=0-3")]⟩)
  else if text = responseHeadText then
    some (RelayHttpTunnelResponseHead.toJson ⟨206, [("content-range", "bytes 0-3/9")]⟩)
  else none

/-- JSON on a request for four bytes of a file and on its answer. -/
def headCodec : JsonCodec where
  parseJson := parseHeads
  renderJson
    | .object [_, _, _] => requestHeadText
    | _ => responseHeadText

/-- The two heads, a binary frame and the opening of a data line. -/
theorem wireFormats_heads :
    let request := RelayHttpTunnelWrite.requestHead "GET" "/api/files" [("range", "bytes=0-3")]
    let response := RelayHttpTunnelWrite.responseHeadWithHeaders 206
      [("content-range", "bytes 0-3/9")]
    let opening := RelayControlEnvelope.openData ⟨7⟩ ⟨"token"⟩ .legacy none
    request.encode headCodec = RELAY_HTTP_TUNNEL_STREAM_MAGIC ++ 1 :: requestHeadText ∧
      decodeRelayHttpTunnelFrame headCodec (request.encode headCodec) = some request.frame ∧
      decodeRelayHttpTunnelFrame headCodec (response.encode headCodec) = some response.frame ∧
      encodeRelayHttpTunnelResponseHead 206 ≠ response.encode headCodec ∧
      (∃ wire, encodeBinaryRelayMuxEnvelope Base64.standardEngine
          (.daemonFrame ⟨7⟩ (.binary (utf8Bytes "AP8="))) = .ok wire ∧
        decodeBinaryRelayMuxEnvelope Base64.standardEngine wire =
          .ok (.daemonFrame ⟨7⟩ (.binary (utf8Bytes "AP8=")))) ∧
      ∃ payload, encodeRelayDataControl opening = some payload ∧ payload.length ≤ 125 ∧
        decodeRelayDataControl payload = some opening := by
  intro request response opening
  have hformats := wireFormats headCodec Base64.standardEngine
  have hrequest : request.JsonReadsBack headCodec := by
    change parseHeads requestHeadText = _
    rw [parseHeads, if_pos rfl]
  have hresponse : response.JsonReadsBack headCodec := by
    refine ⟨?_, by decide +kernel⟩
    have hother : responseHeadText ≠ requestHeadText := by decide +kernel
    change parseHeads responseHeadText = _
    rw [parseHeads, if_neg hother, if_pos rfl]
  have hcanonical : (RelayMuxEnvelope.daemonFrame ⟨7⟩ (.binary (utf8Bytes "AP8="))).Canonical
      Base64.standardEngine := by
    intro dataBase64 hframe
    cases hframe
    exact ⟨[0, 255], by decide +kernel⟩
  obtain ⟨payload, hpayload⟩ := Option.isSome_iff_exists.mp
    (show (encodeRelayDataControl opening).isSome by decide +kernel)
  have hopening := hformats.control opening payload (by decide : 7 < 2 ^ 64) ⟨rfl, rfl⟩ hpayload
  exact ⟨rfl, hformats.tunnel request hrequest, hformats.tunnel response hresponse,
    hformats.legacyApart 206 206 _ hresponse, hformats.mux _ (by decide : 7 < 2 ^ 64) hcanonical,
    payload, hpayload, hopening⟩

/-- A keepalive with one byte behind its header is read, and written back without it. -/
theorem wire_not_canonical :
    let wire := binaryRelayMuxWire .keepalive 1 [0]
    decodeBinaryRelayMuxEnvelope Base64.standardEngine wire = .ok (.keepalive 1) ∧
      encodeBinaryRelayMuxEnvelope Base64.standardEngine (.keepalive 1) =
        .ok (binaryRelayMuxWire .keepalive 1 []) ∧
      binaryRelayMuxWire .keepalive 1 [] ≠ wire := by
  refine ⟨?_, rfl, by decide +kernel⟩
  exact decodeBinaryRelayMuxEnvelope_wire (by decide)

end Termd.Relay
