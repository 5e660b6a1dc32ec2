import Termd.Auth.Challenge
import Termd.Library.Uuid

/-!
# What a signature is made for

A device signs two kinds of texts: the answer to a challenge, and the proof that is exchanged for an
access token. In the first every field has its length in front. The second is a list of lines, and
the nonce, which the client chooses, may have lines of its own, also such that look like a field.
The proof can be read all the same. The fields in front of the nonce are single lines: two UUIDs, and
a challenge of the daemon, which is a UUID with a prefix. The last field is a numeral, so it begins
after the last `=` of the text.

## Main definitions

* `AccessTokenProofInput`: what a device signs for an access token or for a certificate
* `IsUuidDisplay`: what the two texts need of the display of UUIDs

## Main results

* `AccessTokenProofInput.toBytes_inj`: what a proof covers
* `signedOnce_of_display`: the texts tell their purpose and their fields
-/

namespace Termd.Auth

/-- Each UUID has a text of its own, and the text is one line. -/
structure IsUuidDisplay (uuidText : ℕ → Text) : Prop where
  injective : Function.Injective uuidText
  oneLine : ∀ id, 0x0a ∉ uuidText id

theorem isUuidDisplay_uuidHyphenated : IsUuidDisplay uuidHyphenated :=
  ⟨uuidHyphenated_injective, fun _ => newline_notMem_uuidHyphenated⟩

/-- The challenge with the id that was drawn. -/
def generateAuthChallenge (uuidText : ℕ → Text) (challengeId : ℕ) : Text :=
  ascii "termd-auth-challenge-" ++ uuidText challengeId

structure AccessTokenProofInput where
  serverId : ℕ
  payload : AuthPayload

namespace AccessTokenProofInput

variable (uuidText : ℕ → Text)

def toBytes (input : AccessTokenProofInput) : Text :=
  ascii "termd-access-token-v1\nserver_id=" ++ (uuidText input.serverId ++
    (ascii "\ndevice_id=" ++ (uuidText input.payload.deviceId ++
      (ascii "\nchallenge=" ++ (input.payload.challenge ++
        (ascii "\nnonce=" ++ (input.payload.nonce ++
          (ascii "\ntimestamp_ms=" ++ (decimal input.payload.timestampMs ++ ascii "\n")))))))))

/-- The challenge is one that the daemon issues. -/
def Reaches (input : AccessTokenProofInput) : Prop :=
  ∃ challengeId, input.payload.challenge = generateAuthChallenge uuidText challengeId

/-- The two inputs differ at most in the signature, which is not signed. -/
structure Agree (a b : AccessTokenProofInput) : Prop where
  serverId : a.serverId = b.serverId
  deviceId : a.payload.deviceId = b.payload.deviceId
  challenge : a.payload.challenge = b.payload.challenge
  nonce : a.payload.nonce = b.payload.nonce
  timestampMs : a.payload.timestampMs = b.payload.timestampMs

/-- A field of one line ends where the next label begins. -/
theorem line_append_inj {label a b x y : Text} (hlabel : label.head? = some 0x0a) (ha : 0x0a ∉ a)
    (hb : 0x0a ∉ b) (h : a ++ (label ++ x) = b ++ (label ++ y)) : a = b ∧ x = y := by
  obtain ⟨rest, rfl⟩ := List.head?_eq_some_iff.mp hlabel
  obtain ⟨hline, hrest⟩ := append_separator_inj ha hb h
  exact ⟨hline, List.append_cancel_left hrest⟩

/-- The nonce ends where the last label begins, whatever the nonce is. -/
theorem nonce_append_inj {nonce nonce' : Text} {timestampMs timestampMs' : ℕ}
    (h : nonce ++ (ascii "\ntimestamp_ms=" ++ (decimal timestampMs ++ ascii "\n")) =
      nonce' ++ (ascii "\ntimestamp_ms=" ++ (decimal timestampMs' ++ ascii "\n"))) :
    nonce = nonce' ∧ timestampMs = timestampMs' := by
  have hlabel : ascii "\ntimestamp_ms=" = ascii "\ntimestamp_ms" ++ [0x3d] := by decide
  have hsign (n : ℕ) : (0x3d : UInt8) ∉ decimal n ++ ascii "\n" := by
    intro hmem
    rcases List.mem_append.mp hmem with hdigit | hnewline
    · exact absurd (isDigit_of_mem_decimal hdigit) (by decide)
    · exact absurd hnewline (by decide)
  simp only [hlabel, List.append_assoc, List.singleton_append] at h
  rw [← List.append_assoc nonce, ← List.append_assoc nonce'] at h
  obtain ⟨hnonce, hlast⟩ := separator_append_inj (hsign _) (hsign _) h
  exact ⟨List.append_cancel_right hnonce, decimal_injective (List.append_cancel_right hlast)⟩

variable {uuidText}

theorem oneLine_of_reaches (hdisplay : IsUuidDisplay uuidText) {input : AccessTokenProofInput}
    (h : input.Reaches uuidText) : 0x0a ∉ input.payload.challenge := by
  obtain ⟨challengeId, hchallenge⟩ := h
  rw [hchallenge, generateAuthChallenge, List.mem_append]
  rintro (hfront | huuid)
  · exact absurd hfront (by decide)
  · exact hdisplay.oneLine challengeId huuid

/-- **What a proof covers**: inputs with the same bytes agree in every field. -/
theorem toBytes_inj (hdisplay : IsUuidDisplay uuidText) {a b : AccessTokenProofInput}
    (ha : a.Reaches uuidText) (hb : b.Reaches uuidText)
    (h : a.toBytes uuidText = b.toBytes uuidText) : a.Agree b := by
  rw [toBytes, toBytes, List.append_cancel_left_eq] at h
  -- from the front, line after line up to the nonce
  obtain ⟨hserver, h⟩ := line_append_inj (by decide) (hdisplay.oneLine _) (hdisplay.oneLine _) h
  obtain ⟨hdevice, h⟩ := line_append_inj (by decide) (hdisplay.oneLine _) (hdisplay.oneLine _) h
  obtain ⟨hchallenge, h⟩ := line_append_inj (by decide) (oneLine_of_reaches hdisplay ha)
    (oneLine_of_reaches hdisplay hb) h
  -- and from the back
  obtain ⟨hnonce, htimestamp⟩ := nonce_append_inj h
  exact ⟨hdisplay.injective hserver, hdisplay.injective hdevice, hchallenge, hnonce, htimestamp⟩

end AccessTokenProofInput

/-- The first lines of the two texts differ. -/
theorem AuthSigningInput.toBytes_ne (uuidText : ℕ → Text) (a : AuthSigningInput)
    (b : AccessTokenProofInput) : a.toBytes uuidText ≠ b.toBytes uuidText := by
  intro h
  have hfirst := congrArg (List.take 8) h
  rw [AuthSigningInput.toBytes, AccessTokenProofInput.toBytes,
    List.take_append_of_le_length (by decide), List.take_append_of_le_length (by decide)] at hfirst
  exact absurd hfirst (by decide)

/-- **A signature is made for one purpose and one list of fields.** -/
structure SignedOnce (uuidText : ℕ → Text) : Prop where
  answer : ∀ a b : AuthSigningInput, a.toBytes uuidText = b.toBytes uuidText → a = b
  proof : ∀ a b : AccessTokenProofInput, a.Reaches uuidText → b.Reaches uuidText →
    a.toBytes uuidText = b.toBytes uuidText → a.Agree b
  apart : ∀ (a : AuthSigningInput) (b : AccessTokenProofInput),
    a.toBytes uuidText ≠ b.toBytes uuidText
  /-- With a verifier that accepts a signature for one text only, a signature is accepted for one
  purpose, one nonce and one challenge only. -/
  accepted : ∀ verify : Text → Text → Text → Bool,
    (∀ key text text' signature, verify key text signature = true →
      verify key text' signature = true → text = text') →
    ∀ key signature,
      (∀ a b : AuthSigningInput, verify key (a.toBytes uuidText) signature = true →
        verify key (b.toBytes uuidText) signature = true → a = b) ∧
      (∀ a b : AccessTokenProofInput, a.Reaches uuidText → b.Reaches uuidText →
        verify key (a.toBytes uuidText) signature = true →
        verify key (b.toBytes uuidText) signature = true → a.Agree b) ∧
      ∀ (a : AuthSigningInput) (b : AccessTokenProofInput),
        verify key (a.toBytes uuidText) signature = true →
        verify key (b.toBytes uuidText) signature = false

/-- **Signed bytes determine their fields.** -/
theorem signedOnce_of_display (uuidText : ℕ → Text) (hdisplay : IsUuidDisplay uuidText) :
    SignedOnce uuidText := by
  have hanswer (a b : AuthSigningInput) (h : a.toBytes uuidText = b.toBytes uuidText) : a = b := by
    obtain ⟨hserver, hkey, hdevice, hchallenge, hnonce, htimestamp⟩ :=
      AuthSigningInput.toBytes_inj uuidText h
    have hserver := hdisplay.injective hserver
    have hdevice := hdisplay.injective hdevice
    cases a
    cases b
    simp_all
  refine
    { answer := hanswer
      proof := fun _ _ ha hb h => AccessTokenProofInput.toBytes_inj hdisplay ha hb h
      apart := AuthSigningInput.toBytes_ne uuidText
      accepted := fun verify hone key signature => ⟨fun a b ha hb => ?_, fun a b hra hrb ha hb => ?_,
        fun a b ha => ?_⟩ }
  · exact hanswer a b (hone key _ _ signature ha hb)
  · exact AccessTokenProofInput.toBytes_inj hdisplay hra hrb (hone key _ _ signature ha hb)
  · by_contra hb
    exact AuthSigningInput.toBytes_ne uuidText a b
      (hone key _ _ signature ha (Bool.not_eq_false _ ▸ hb))

theorem signedOnce_uuidHyphenated : SignedOnce uuidHyphenated :=
  signedOnce_of_display uuidHyphenated isUuidDisplay_uuidHyphenated

end Termd.Auth
