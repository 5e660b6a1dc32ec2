import Mathlib.Algebra.Ring.Nat
import Mathlib.Order.Basic
import Termd.Library.Transaction
import Termd.Library.Transition

/-!
# The replay protector

A signed message carries a nonce and the time of the client's clock. The protector accepts it when
that time is inside the skew window around the server's clock and the device has not used the
nonce; it then remembers the nonce, with the time of the *server*.

## Two windows

A message is good for the window around its own timestamp, and its nonce is remembered for a window
after the server saw it. When the client's clock is behind, the second window ends after the first
and the nonce outlives the message. When it is ahead, the nonce is forgotten while the message is
still good, and the message is accepted once more. The two windows nest exactly for the messages
whose timestamp is not ahead of the server, and this is the guard `Punctual`.

A caller of `check` verifies the signature of the message before it calls `record_checked`, at the
same time of the server; the label of such a call says how the verification ended.

## Main definitions

* `ReplayProtector.check`, `recordChecked`, `checkAndRecord`, `prune`: the operations
* `ReplayRun`: a protector with the clock of the server and the messages it has accepted
* `Punctual`: no message is accepted whose timestamp is ahead of the server

## Main results

* `ReplayRun.Covered.step`: what keeps a message from being accepted again, step by step
* `ReplayRun.accepted_of_device`: the nonces of other devices do not matter
-/

namespace Termd.Auth

/-- Device ids are UUIDs. -/
abbrev DeviceId := ℕ

/-- The bytes of a string. -/
abbrev Text := List UInt8

structure DaemonPublicIdentity where
  serverId : ℕ
  publicKey : Text

/-- The times of the server are 64 bits wide. -/
def u64Limit : ℕ := 2 ^ 64

structure ReplayNonceRecord where
  recordedAtMs : ℕ

inductive ReplayError
  | timestampOutOfWindow (timestampMs nowMs allowedClockSkewMs : ℕ)
  | replayedNonce (deviceId : DeviceId)

structure ReplayProtector where
  allowedClockSkewMs : ℕ
  noncesByDevice : Table DeviceId (Table Text ReplayNonceRecord)

/-- `u64::abs_diff` -/
def absDiff (a b : ℕ) : ℕ := max a b - min a b

namespace ReplayProtector

variable (p : ReplayProtector) (deviceId : DeviceId) (nonce : Text) (timestampMs nowMs : ℕ)

def new (allowedClockSkewMs : ℕ) : ReplayProtector where
  allowedClockSkewMs := allowedClockSkewMs
  noncesByDevice := ∅

/-- The nonces of one device that are still inside the window. -/
def pruneDevice (deviceNonces : Table Text ReplayNonceRecord) : Table Text ReplayNonceRecord :=
  deviceNonces.retain fun _ record =>
    if nowMs - record.recordedAtMs ≤ p.allowedClockSkewMs then some record else none

def prune : ReplayProtector × ℕ :=
  let kept := p.noncesByDevice.retain fun _ deviceNonces =>
    -- a device without nonces has no entry
    if (p.pruneDevice nowMs deviceNonces).entries = [] then none
    else some (p.pruneDevice nowMs deviceNonces)
  let size (m : Table DeviceId (Table Text ReplayNonceRecord)) : ℕ :=
    (m.entries.map fun entry => entry.2.entries.length).sum
  ({ p with noncesByDevice := kept }, size p.noncesByDevice - size kept)

/-- The record of a nonce of a device. -/
def record? : Option ReplayNonceRecord :=
  (p.noncesByDevice.lookup deviceId).bind fun deviceNonces => deviceNonces.lookup nonce

def check : ReplayProtector × Except ReplayError Unit :=
  let p := (p.prune nowMs).1
  if p.allowedClockSkewMs < absDiff timestampMs nowMs then
    (p, .error (.timestampOutOfWindow timestampMs nowMs p.allowedClockSkewMs))
  else if (p.record? deviceId nonce).isSome then (p, .error (.replayedNonce deviceId))
  else (p, .ok ())

def recordChecked : ReplayProtector :=
  let deviceNonces := (p.noncesByDevice.lookup deviceId).getD ∅
  { p with
    noncesByDevice := p.noncesByDevice.insert deviceId
      (deviceNonces.insert nonce { recordedAtMs := nowMs }) }

def checkAndRecord : ReplayProtector × Except ReplayError Unit :=
  match p.check deviceId nonce timestampMs nowMs with
  | (p, .error error) => (p, .error error)
  | (p, .ok ()) => (p.recordChecked deviceId nonce nowMs, .ok ())

/-! ### What the operations do to one record -/

@[simp] theorem record?_new (allowedClockSkewMs : ℕ) :
    (new allowedClockSkewMs).record? deviceId nonce = none := rfl

@[simp] theorem allowedClockSkewMs_prune :
    (p.prune nowMs).1.allowedClockSkewMs = p.allowedClockSkewMs := rfl

/-- **Pruning forgets** the records that are older than the window. -/
theorem record?_prune :
    (p.prune nowMs).1.record? deviceId nonce =
      (p.record? deviceId nonce).filter fun record =>
        nowMs - record.recordedAtMs ≤ p.allowedClockSkewMs := by
  simp only [record?, prune, Table.lookup_retain]
  cases hdevice : p.noncesByDevice.lookup deviceId with
  | none => rfl
  | some deviceNonces =>
    have hpruned : (p.pruneDevice nowMs deviceNonces).lookup nonce =
        (deviceNonces.lookup nonce).filter fun record =>
          nowMs - record.recordedAtMs ≤ p.allowedClockSkewMs := by
      rw [pruneDevice, Table.lookup_retain]
      cases deviceNonces.lookup nonce <;> simp [Option.filter_some]
    rw [Option.bind_some, Option.bind_some, ← hpruned]
    split_ifs with hempty
    · -- a dropped device has no nonce left
      have hnone : (p.pruneDevice nowMs deviceNonces).lookup nonce = none := by
        rw [AList.lookup_eq_none, AList.mem_keys, AList.keys, hempty]
        simp
      rw [hnone]
      rfl
    · rfl

theorem record?_recordChecked (deviceId' : DeviceId) (nonce' : Text) :
    (p.recordChecked deviceId nonce nowMs).record? deviceId' nonce' =
      if deviceId' = deviceId ∧ nonce' = nonce then some { recordedAtMs := nowMs }
      else p.record? deviceId' nonce' := by
  simp only [record?, recordChecked]
  by_cases hdevice : deviceId' = deviceId
  · subst hdevice
    rw [AList.lookup_insert, Option.bind_some]
    by_cases hnonce : nonce' = nonce
    · subst hnonce
      rw [AList.lookup_insert, if_pos ⟨rfl, rfl⟩]
    · rw [AList.lookup_insert_ne hnonce, if_neg fun h => hnonce h.2]
      cases p.noncesByDevice.lookup deviceId' <;> rfl
  · rw [AList.lookup_insert_ne hdevice, if_neg fun h => hdevice h.1]

/-- The window around the server's time, from both sides. -/
theorem absDiff_le_iff {a b c : ℕ} : absDiff a b ≤ c ↔ a ≤ b + c ∧ b ≤ a + c := by
  rw [absDiff]
  omega

theorem check_fst : (p.check deviceId nonce timestampMs nowMs).1 = (p.prune nowMs).1 := by
  rw [check]
  split_ifs <;> rfl

/-- When a check passes. -/
theorem check_snd_eq_ok_iff :
    (p.check deviceId nonce timestampMs nowMs).2 = .ok () ↔
      (timestampMs ≤ nowMs + p.allowedClockSkewMs ∧ nowMs ≤ timestampMs + p.allowedClockSkewMs) ∧
        (p.prune nowMs).1.record? deviceId nonce = none := by
  rw [check, allowedClockSkewMs_prune, ← absDiff_le_iff]
  split_ifs with hwindow hrecord
  · simp [Nat.not_le.mpr hwindow]
  · simp [Option.isSome_iff_ne_none.mp hrecord]
  · simpa using ⟨Nat.not_lt.mp hwindow, by simpa using hrecord⟩

end ReplayProtector

/-! ### Runs

A label is one call, with the time of the server at which it is made. A call is enabled when the
clock has not gone back. -/

inductive ReplayOp
  | checkAndRecord (deviceId : DeviceId) (nonce : Text) (timestampMs nowMs : ℕ)
  /-- `check`, the verification of the signature, and `record_checked` when both succeeded -/
  | checkThenRecord (deviceId : DeviceId) (nonce : Text) (timestampMs nowMs : ℕ) (verified : Bool)
  | prune (nowMs : ℕ)

def ReplayOp.nowMs : ReplayOp → ℕ
  | checkAndRecord _ _ _ nowMs => nowMs
  | checkThenRecord _ _ _ nowMs _ => nowMs
  | prune nowMs => nowMs

/-- The message of a call, when the call records the nonce of every message that passes the check. -/
def ReplayOp.message : ReplayOp → Option (DeviceId × Text × ℕ)
  | checkAndRecord deviceId nonce timestampMs _ => some (deviceId, nonce, timestampMs)
  | checkThenRecord deviceId nonce timestampMs _ true => some (deviceId, nonce, timestampMs)
  | checkThenRecord _ _ _ _ false => none
  | prune _ => none

/-- The call is for that device, or for none. -/
def ReplayOp.concerns (deviceId : DeviceId) : ReplayOp → Bool
  | checkAndRecord deviceId' _ _ _ => deviceId' = deviceId
  | checkThenRecord deviceId' _ _ _ _ => deviceId' = deviceId
  | prune _ => true

/-- A protector, the clock, and the messages that were accepted, the first one first. -/
structure ReplayRun where
  protector : ReplayProtector
  clockMs : ℕ
  accepted : List (DeviceId × Text × ℕ)

namespace ReplayRun

variable {r r' : ReplayRun} {op : ReplayOp}

def start (allowedClockSkewMs : ℕ) : ReplayRun where
  protector := .new allowedClockSkewMs
  clockMs := 0
  accepted := []

/-- What a call leaves behind. -/
def call (r : ReplayRun) : ReplayOp → ReplayRun
  | .checkAndRecord deviceId nonce timestampMs nowMs =>
    match r.protector.checkAndRecord deviceId nonce timestampMs nowMs with
    | (protector, .error _) => { r with protector }
    | (protector, .ok ()) =>
      { r with protector, accepted := r.accepted ++ [(deviceId, nonce, timestampMs)] }
  | .checkThenRecord deviceId nonce timestampMs nowMs verified =>
    match r.protector.check deviceId nonce timestampMs nowMs with
    | (protector, .error _) => { r with protector }
    | (protector, .ok ()) =>
      if verified then
        { r with
          protector := protector.recordChecked deviceId nonce nowMs
          accepted := r.accepted ++ [(deviceId, nonce, timestampMs)] }
      else { r with protector }
  | .prune nowMs => { r with protector := (r.protector.prune nowMs).1 }

def step (r : ReplayRun) (op : ReplayOp) : Option ReplayRun :=
  if r.clockMs ≤ op.nowMs ∧ op.nowMs < u64Limit then some { r.call op with clockMs := op.nowMs }
  else none

/-- The nonce is still remembered at that time. -/
def Remembers (r : ReplayRun) (deviceId : DeviceId) (nonce : Text) (nowMs : ℕ) : Prop :=
  ∃ record, r.protector.record? deviceId nonce = some record ∧
    nowMs - record.recordedAtMs ≤ r.protector.allowedClockSkewMs

/-- The timestamp is inside the window around the server's time. -/
def InWindow (r : ReplayRun) (timestampMs nowMs : ℕ) : Prop :=
  timestampMs ≤ nowMs + r.protector.allowedClockSkewMs ∧
    nowMs ≤ timestampMs + r.protector.allowedClockSkewMs

theorem record?_prune_eq_none_iff (deviceId : DeviceId) (nonce : Text) (nowMs : ℕ) :
    (r.protector.prune nowMs).1.record? deviceId nonce = none ↔
      ¬r.Remembers deviceId nonce nowMs := by
  rw [ReplayProtector.record?_prune, Option.filter_eq_none_iff]
  simp [Remembers]

/-- How a check ends. -/
theorem check_cases (r : ReplayRun) (deviceId : DeviceId) (nonce : Text) (timestampMs nowMs : ℕ) :
    (r.InWindow timestampMs nowMs ∧ ¬r.Remembers deviceId nonce nowMs ∧
        r.protector.check deviceId nonce timestampMs nowMs =
          ((r.protector.prune nowMs).1, .ok ())) ∨
      ((r.InWindow timestampMs nowMs → r.Remembers deviceId nonce nowMs) ∧
        ∃ error, r.protector.check deviceId nonce timestampMs nowMs =
          ((r.protector.prune nowMs).1, .error error)) := by
  have hok := r.protector.check_snd_eq_ok_iff deviceId nonce timestampMs nowMs
  rw [record?_prune_eq_none_iff] at hok
  have hfst := r.protector.check_fst deviceId nonce timestampMs nowMs
  cases hsnd : (r.protector.check deviceId nonce timestampMs nowMs).2 with
  | ok =>
    obtain ⟨hwindow, hnot⟩ := hok.mp hsnd
    exact .inl ⟨hwindow, hnot, Prod.ext hfst hsnd⟩
  | error error =>
    refine .inr ⟨fun hwindow => ?_, error, Prod.ext hfst hsnd⟩
    by_contra hnot
    rw [hok.mpr ⟨hwindow, hnot⟩] at hsnd
    cases hsnd

/-- The two ways to submit a message agree when its signature is good. -/
theorem call_checkAndRecord (r : ReplayRun) (deviceId : DeviceId) (nonce : Text)
    (timestampMs nowMs : ℕ) :
    r.call (.checkAndRecord deviceId nonce timestampMs nowMs) =
      r.call (.checkThenRecord deviceId nonce timestampMs nowMs true) := by
  simp only [call, ReplayProtector.checkAndRecord, if_true]
  rcases r.check_cases deviceId nonce timestampMs nowMs with
    ⟨-, -, hcheck⟩ | ⟨-, error, hcheck⟩ <;> rw [hcheck]

/-- A message with a good signature is accepted, or the call only prunes. -/
theorem call_verified_cases (r : ReplayRun) (deviceId : DeviceId) (nonce : Text)
    (timestampMs nowMs : ℕ) :
    (∃ deviceId' nonce' timestampMs',
        some (deviceId, nonce, timestampMs) = some (deviceId', nonce', timestampMs') ∧
          r.InWindow timestampMs' nowMs ∧ ¬r.Remembers deviceId' nonce' nowMs ∧
          { r.call (.checkThenRecord deviceId nonce timestampMs nowMs true) with clockMs := nowMs } =
            { protector := (r.protector.prune nowMs).1.recordChecked deviceId' nonce' nowMs
              clockMs := nowMs
              accepted := r.accepted ++ [(deviceId', nonce', timestampMs')] : ReplayRun }) ∨
      ((∀ deviceId' nonce' timestampMs',
          some (deviceId, nonce, timestampMs) = some (deviceId', nonce', timestampMs') →
            r.InWindow timestampMs' nowMs → r.Remembers deviceId' nonce' nowMs) ∧
        { r.call (.checkThenRecord deviceId nonce timestampMs nowMs true) with clockMs := nowMs } =
          { protector := (r.protector.prune nowMs).1, clockMs := nowMs
            accepted := r.accepted : ReplayRun }) := by
  simp only [call, if_true]
  rcases r.check_cases deviceId nonce timestampMs nowMs with
    ⟨hwindow, hnot, hcheck⟩ | ⟨himp, error, hcheck⟩
  · exact .inl ⟨deviceId, nonce, timestampMs, rfl, hwindow, hnot, by rw [hcheck]⟩
  · refine .inr ⟨?_, by rw [hcheck]⟩
    intro deviceId' nonce' timestampMs' hsame
    cases hsame
    exact himp

/-- **What a step can do**: a message that is inside the window and whose nonce is not remembered
is accepted and its nonce recorded; every other call only prunes. -/
theorem step_cases (h : r.step op = some r') :
    r.clockMs ≤ op.nowMs ∧ op.nowMs < u64Limit ∧
      ((∃ deviceId nonce timestampMs, op.message = some (deviceId, nonce, timestampMs) ∧
          r.InWindow timestampMs op.nowMs ∧ ¬r.Remembers deviceId nonce op.nowMs ∧
          r' =
            { protector := (r.protector.prune op.nowMs).1.recordChecked deviceId nonce op.nowMs
              clockMs := op.nowMs
              accepted := r.accepted ++ [(deviceId, nonce, timestampMs)] }) ∨
        ((∀ deviceId nonce timestampMs, op.message = some (deviceId, nonce, timestampMs) →
            r.InWindow timestampMs op.nowMs → r.Remembers deviceId nonce op.nowMs) ∧
          r' =
            { protector := (r.protector.prune op.nowMs).1, clockMs := op.nowMs
              accepted := r.accepted })) := by
  rw [step] at h
  split_ifs at h with hclock
  refine ⟨hclock.1, hclock.2, ?_⟩
  obtain rfl := Option.some.inj h
  cases op with
  | checkAndRecord deviceId nonce timestampMs nowMs =>
    rw [call_checkAndRecord]
    exact call_verified_cases r deviceId nonce timestampMs nowMs
  | checkThenRecord deviceId nonce timestampMs nowMs verified =>
    cases verified with
    | true => exact call_verified_cases r deviceId nonce timestampMs nowMs
    | false =>
      -- the signature was bad: whatever the check said, nothing is recorded
      refine .inr ⟨by simp [ReplayOp.message], ?_⟩
      simp only [call, ReplayOp.nowMs]
      rcases r.check_cases deviceId nonce timestampMs nowMs with
        ⟨-, -, hcheck⟩ | ⟨-, error, hcheck⟩
      · rw [hcheck]
        rfl
      · rw [hcheck]
  | prune nowMs => exact .inr ⟨by simp [ReplayOp.message], rfl⟩

theorem allowedClockSkewMs_step (h : r.step op = some r') :
    r'.protector.allowedClockSkewMs = r.protector.allowedClockSkewMs := by
  obtain ⟨-, -, ⟨_, _, _, -, -, -, rfl⟩ | ⟨-, rfl⟩⟩ := step_cases h <;> rfl

/-! ### A message is not accepted again

A message that was accepted is *covered*: its own window is over, or its nonce is recorded at a time
from which it is remembered until then. -/

/-- What keeps a message from being accepted. A nonce that is recorded so late that the clock ends
first is never forgotten. -/
def Covered (r : ReplayRun) (message : DeviceId × Text × ℕ) : Prop :=
  message.2.2 + r.protector.allowedClockSkewMs < r.clockMs ∨
    ∃ record, r.protector.record? message.1 message.2.1 = some record ∧
      (message.2.2 ≤ record.recordedAtMs ∨
        u64Limit ≤ record.recordedAtMs + r.protector.allowedClockSkewMs + 1)

/-- A message outside the window, or with a nonce that is remembered, is not accepted. -/
theorem count_accepted_step (hstep : r.step op = some r') {deviceId : DeviceId} {nonce : Text}
    {timestampMs : ℕ}
    (hno : r.InWindow timestampMs op.nowMs → r.Remembers deviceId nonce op.nowMs) :
    r'.accepted.count (deviceId, nonce, timestampMs) =
      r.accepted.count (deviceId, nonce, timestampMs) := by
  obtain ⟨-, -, ⟨deviceId', nonce', timestampMs', -, hwindow, hnot, rfl⟩ | ⟨-, rfl⟩⟩ :=
    step_cases hstep
  · have hne : (deviceId', nonce', timestampMs') ≠ (deviceId, nonce, timestampMs) := by
      rintro ⟨⟩
      exact hnot (hno hwindow)
    rw [List.count_append, List.count_singleton, if_neg (by simpa using hne), Nat.add_zero]
  · rfl

/-- A record that is remembered stays as it is. -/
theorem record?_step (hstep : r.step op = some r') {deviceId : DeviceId} {nonce : Text}
    {record : ReplayNonceRecord} (hrecord : r.protector.record? deviceId nonce = some record)
    (hold : op.nowMs - record.recordedAtMs ≤ r.protector.allowedClockSkewMs) :
    r'.protector.record? deviceId nonce = some record := by
  have hkept : (r.protector.prune op.nowMs).1.record? deviceId nonce = some record := by
    rw [ReplayProtector.record?_prune, hrecord, Option.filter_some, if_pos (by simpa using hold)]
  obtain ⟨-, -, ⟨deviceId', nonce', timestampMs', -, -, hnot, rfl⟩ | ⟨-, rfl⟩⟩ := step_cases hstep
  · rw [ReplayProtector.record?_recordChecked, if_neg]
    · exact hkept
    · rintro ⟨rfl, rfl⟩
      exact hnot ⟨record, hrecord, hold⟩
  · exact hkept

theorem clockMs_step (hstep : r.step op = some r') : r'.clockMs = op.nowMs := by
  obtain ⟨-, -, ⟨_, _, _, -, -, -, rfl⟩ | ⟨-, rfl⟩⟩ := step_cases hstep <;> rfl

/-- **A covered message** stays covered and is not accepted, whatever is called. -/
theorem Covered.step {message : DeviceId × Text × ℕ} (h : r.Covered message)
    (hstep : r.step op = some r') :
    r'.Covered message ∧ r'.accepted.count message = r.accepted.count message := by
  obtain ⟨deviceId, nonce, timestampMs⟩ := message
  have hskew := allowedClockSkewMs_step hstep
  obtain ⟨hclock, hlimit, -⟩ := step_cases hstep
  simp only [Covered, hskew, clockMs_step hstep] at h ⊢
  -- once the window of the message is over, the message is neither good nor will it be
  have hdead (hover : timestampMs + r.protector.allowedClockSkewMs < op.nowMs) :
      r'.accepted.count (deviceId, nonce, timestampMs) =
        r.accepted.count (deviceId, nonce, timestampMs) :=
    count_accepted_step hstep fun hwindow => absurd hwindow.2 (Nat.not_le.mpr hover)
  rcases h with hover | ⟨record, hrecord, hlate⟩
  · exact ⟨.inl (by omega), hdead (by omega)⟩
  · by_cases hold : op.nowMs - record.recordedAtMs ≤ r.protector.allowedClockSkewMs
    · exact ⟨.inr ⟨record, record?_step hstep hrecord hold, hlate⟩,
        count_accepted_step hstep fun _ => ⟨record, hrecord, hold⟩⟩
    · -- the nonce is forgotten now, so the window of the message is over
      have hover : timestampMs + r.protector.allowedClockSkewMs < op.nowMs := by
        rcases hlate with hle | hle <;> omega
      exact ⟨.inl hover, hdead hover⟩

/-- Every accepted message was accepted once and is covered. -/
def Sealed (r : ReplayRun) : Prop :=
  ∀ message ∈ r.accepted, r.Covered message ∧ r.accepted.count message = 1

/-- No message that was accepted is accepted again, however the run goes on. -/
def Secure (r : ReplayRun) : Prop :=
  ∀ ops r', exec step r ops = some r' → ∀ message ∈ r.accepted, r'.accepted.count message = 1

/-- The guard: no message is accepted whose timestamp is ahead of the server, unless the clock ends
before its nonce is forgotten. -/
def Punctual (r : ReplayRun) (op : ReplayOp) : Prop :=
  ∀ deviceId nonce timestampMs, op.message = some (deviceId, nonce, timestampMs) →
    op.nowMs < timestampMs → r.InWindow timestampMs op.nowMs →
    ¬r.Remembers deviceId nonce op.nowMs →
    u64Limit ≤ op.nowMs + r.protector.allowedClockSkewMs + 1

theorem Sealed.secure (h : r.Sealed) : r.Secure := by
  intro ops r' hrun message hmessage
  -- the invariant of the rest of the run is about this one message
  have hinvariant := exec_induction
    (I := fun r' => r'.Covered message ∧ r'.accepted.count message = 1)
    (fun s op s' hs hstep => ⟨(hs.1.step hstep).1, (hs.1.step hstep).2.trans hs.2⟩)
    (h message hmessage) hrun
  exact hinvariant.2

theorem Sealed.step (h : r.Sealed) (hpunctual : r.Punctual op) (hstep : r.step op = some r') :
    r'.Sealed := by
  intro message hmessage
  by_cases hbefore : message ∈ r.accepted
  · obtain ⟨hcovered, hcount⟩ := h message hbefore
    exact ⟨(hcovered.step hstep).1, (hcovered.step hstep).2.trans hcount⟩
  · obtain ⟨-, -, ⟨deviceId, nonce, timestampMs, hop, hwindow, hnot, rfl⟩ | ⟨-, rfl⟩⟩ :=
      step_cases hstep
    · -- the message was accepted by this step, and its nonce is recorded at the time of the step
      obtain rfl : message = (deviceId, nonce, timestampMs) := by
        simpa [hbefore] using hmessage
      refine ⟨.inr ⟨{ recordedAtMs := op.nowMs }, ?_, ?_⟩, ?_⟩
      · rw [ReplayProtector.record?_recordChecked, if_pos ⟨rfl, rfl⟩]
      · by_cases hahead : op.nowMs < timestampMs
        · exact .inr (hpunctual deviceId nonce timestampMs hop hahead hwindow hnot)
        · exact .inl (Nat.not_lt.mp hahead)
      · simp [List.count_eq_zero_of_not_mem hbefore]
    · exact absurd hmessage hbefore

/-- Time alone does not uncover a message. -/
theorem Sealed.later (h : r.Sealed) {nowMs : ℕ} (hclock : r.clockMs ≤ nowMs) :
    ({ r with clockMs := nowMs } : ReplayRun).Sealed := by
  intro message hmessage
  obtain ⟨hcovered, hcount⟩ := h message hmessage
  refine ⟨?_, hcount⟩
  rcases hcovered with hover | hrecord
  · exact .inl (lt_of_lt_of_le hover hclock)
  · exact .inr hrecord

/-- A call is enabled when the clock has not gone back. -/
theorem exists_step (hclock : r.clockMs ≤ op.nowMs) (hlimit : op.nowMs < u64Limit) :
    ∃ r', r.step op = some r' :=
  ⟨_, if_pos ⟨hclock, hlimit⟩⟩

/-- **The gap between the windows**: a message that is accepted ahead of its time is accepted again
as soon as its nonce is forgotten. -/
theorem not_secure_of_not_punctual (hpunctual : ¬r.Punctual op) (hstep : r.step op = some r') :
    ¬r'.Secure := by
  simp only [Punctual, not_forall, exists_prop, Nat.not_le] at hpunctual
  obtain ⟨deviceId, nonce, timestampMs, hop, hahead, hwindow, hnot, hlimit⟩ := hpunctual
  intro hsecure
  have hskew := allowedClockSkewMs_step hstep
  have hclock := clockMs_step hstep
  obtain ⟨-, -, ⟨_, _, _, hop', -, -, hr'⟩ | ⟨himp, -⟩⟩ := step_cases hstep
  · cases hop.symm.trans hop'
    -- one skew and a millisecond later the same message is sent again
    obtain ⟨r'', hagain⟩ : ∃ r'', r'.step (.checkAndRecord deviceId nonce timestampMs
        (op.nowMs + r.protector.allowedClockSkewMs + 1)) = some r'' :=
      exists_step (by rw [hclock, ReplayOp.nowMs]; omega) hlimit
    have hgood : r'.InWindow timestampMs (op.nowMs + r.protector.allowedClockSkewMs + 1) := by
      have := hwindow.1
      rw [InWindow, hskew]
      omega
    have hforgotten : ¬r'.Remembers deviceId nonce
        (op.nowMs + r.protector.allowedClockSkewMs + 1) := by
      rintro ⟨record, hrecord, hle⟩
      rw [hskew] at hle
      rw [hr', ReplayProtector.record?_recordChecked, if_pos ⟨rfl, rfl⟩] at hrecord
      obtain rfl := Option.some.inj hrecord
      dsimp only at hle
      omega
    have hmem : (deviceId, nonce, timestampMs) ∈ r'.accepted := by simp [hr']
    obtain ⟨-, -, ⟨_, _, _, hop'', -, -, rfl⟩ | ⟨himp, -⟩⟩ := step_cases hagain
    · cases hop''
      have hone : r'.accepted.count (deviceId, nonce, timestampMs) = 1 := hsecure [] r' rfl _ hmem
      have htwo := hsecure [_] _ (by rw [exec_cons, hagain]; rfl) _ hmem
      simp [hone] at htwo
    · exact hforgotten (himp _ _ _ rfl hgood)
  · exact hnot (himp _ _ _ hop hwindow)

/-! ### Devices do not disturb each other

The run is compared with the run of the calls of one device. The two protectors need not agree on
what they hold: the calls of other devices prune as well. They agree on what is still remembered. -/

/-- What is still remembered of the nonces of a device is the same. -/
def Agrees (deviceId : DeviceId) (r q : ReplayRun) : Prop :=
  ∀ nonce, (r.protector.record? deviceId nonce).filter (fun record =>
      r.clockMs - record.recordedAtMs ≤ r.protector.allowedClockSkewMs) =
    (q.protector.record? deviceId nonce).filter fun record =>
      r.clockMs - record.recordedAtMs ≤ r.protector.allowedClockSkewMs

/-- What is remembered at a time is remembered of what was remembered before. -/
theorem filter_filter_of_le {α : Type*} {age : α → ℕ} {before now skew : ℕ} (h : before ≤ now)
    (o : Option α) :
    (o.filter fun a => before - age a ≤ skew).filter (fun a => now - age a ≤ skew) =
      o.filter fun a => now - age a ≤ skew := by
  rw [Option.filter_filter]
  congr 1
  funext a
  rw [Bool.eq_iff_iff, Bool.and_eq_true, decide_eq_true_iff, decide_eq_true_iff]
  omega

/-- The run of the whole protector, and the run of the calls of one device. -/
structure Twin (deviceId : DeviceId) (r q : ReplayRun) : Prop where
  clock_le : q.clockMs ≤ r.clockMs
  skew_eq : q.protector.allowedClockSkewMs = r.protector.allowedClockSkewMs
  accepted_eq : q.accepted = r.accepted.filter (·.1 = deviceId)
  agrees : Agrees deviceId r q

/-- After pruning, the two protectors hold the same nonces of the device. -/
theorem Twin.prune {deviceId : DeviceId} {q : ReplayRun} (h : Twin deviceId r q) {nowMs : ℕ}
    (hclock : r.clockMs ≤ nowMs) (nonce : Text) :
    (q.protector.prune nowMs).1.record? deviceId nonce =
      (r.protector.prune nowMs).1.record? deviceId nonce := by
  rw [ReplayProtector.record?_prune, ReplayProtector.record?_prune, h.skew_eq,
    ← filter_filter_of_le hclock (q.protector.record? deviceId nonce), ← h.agrees nonce,
    filter_filter_of_le hclock]

/-- A call for the device ends the same in both runs. -/
theorem Twin.step_concerned {deviceId : DeviceId} {q : ReplayRun} (h : Twin deviceId r q)
    (hop : op.concerns deviceId = true) (hstep : r.step op = some r') :
    ∃ q', q.step op = some q' ∧ Twin deviceId r' q' := by
  obtain ⟨hclock, hlimit, hcases⟩ := step_cases hstep
  obtain ⟨q', hq⟩ := exists_step (h.clock_le.trans hclock) hlimit
  refine ⟨q', hq, ?_⟩
  have hdevice {d : DeviceId} {nonce : Text} {timestampMs : ℕ}
      (hmessage : op.message = some (d, nonce, timestampMs)) : d = deviceId := by
    cases op with
    | checkAndRecord => cases hmessage; exact of_decide_eq_true hop
    | checkThenRecord _ _ _ _ verified =>
      cases verified <;> cases hmessage
      exact of_decide_eq_true hop
    | prune => cases hmessage
  have hwindow (timestampMs : ℕ) :
      q.InWindow timestampMs op.nowMs ↔ r.InWindow timestampMs op.nowMs := by
    rw [InWindow, InWindow, h.skew_eq]
  have hremembers (nonce : Text) :
      q.Remembers deviceId nonce op.nowMs ↔ r.Remembers deviceId nonce op.nowMs := by
    rw [← not_iff_not, ← record?_prune_eq_none_iff, ← record?_prune_eq_none_iff, h.prune hclock]
  obtain ⟨-, -, hcases'⟩ := step_cases hq
  rcases hcases with ⟨d, nonce, timestampMs, hmessage, hin, hnot, rfl⟩ | ⟨himp, rfl⟩
  · obtain rfl := hdevice hmessage
    rcases hcases' with ⟨_, _, _, hmessage', -, -, rfl⟩ | ⟨himp', -⟩
    · cases hmessage.symm.trans hmessage'
      refine ⟨le_rfl, h.skew_eq, by simp [h.accepted_eq], fun nonce' => ?_⟩
      rw [ReplayProtector.record?_recordChecked, ReplayProtector.record?_recordChecked,
        h.prune hclock]
    · exact absurd ((hremembers nonce).mp (himp' _ _ _ hmessage ((hwindow _).mpr hin))) hnot
  · rcases hcases' with ⟨d, nonce, timestampMs, hmessage, hin, hnot, -⟩ | ⟨-, rfl⟩
    · obtain rfl := hdevice hmessage
      exact absurd ((hremembers nonce).mpr (himp _ _ _ hmessage ((hwindow _).mp hin))) hnot
    · refine ⟨le_rfl, h.skew_eq, h.accepted_eq, fun nonce => ?_⟩
      rw [h.prune hclock]

/-- A call for another device leaves the twin where it is. -/
theorem Twin.step_other {deviceId : DeviceId} {q : ReplayRun} (h : Twin deviceId r q)
    (hop : op.concerns deviceId = false) (hstep : r.step op = some r') : Twin deviceId r' q := by
  obtain ⟨hclock, -, hcases⟩ := step_cases hstep
  have hpruned (nonce : Text) : ((r.protector.prune op.nowMs).1.record? deviceId nonce).filter
      (fun record => op.nowMs - record.recordedAtMs ≤ r.protector.allowedClockSkewMs) =
      (q.protector.record? deviceId nonce).filter fun record =>
        op.nowMs - record.recordedAtMs ≤ r.protector.allowedClockSkewMs := by
    rw [ReplayProtector.record?_prune, filter_filter_of_le le_rfl, ← filter_filter_of_le hclock,
      h.agrees nonce, filter_filter_of_le hclock]
  rcases hcases with ⟨d, nonce, timestampMs, hmessage, -, -, rfl⟩ | ⟨-, rfl⟩
  · have hne : d ≠ deviceId := by
      rintro rfl
      cases op with
      | checkAndRecord => cases hmessage; simp [ReplayOp.concerns] at hop
      | checkThenRecord _ _ _ _ verified =>
        cases verified <;> cases hmessage
        simp [ReplayOp.concerns] at hop
      | prune => cases hmessage
    refine ⟨h.clock_le.trans hclock, h.skew_eq, by simp [h.accepted_eq, hne], fun nonce' => ?_⟩
    rw [ReplayProtector.record?_recordChecked, if_neg fun hsame => hne hsame.1.symm]
    exact hpruned nonce'
  · exact ⟨h.clock_le.trans hclock, h.skew_eq, h.accepted_eq, hpruned⟩

/-- **The nonces of other devices do not matter**: what is accepted of a device is what is accepted
of it in the run without the calls of other devices. -/
theorem accepted_of_device (allowedClockSkewMs : ℕ) {ops : List ReplayOp}
    (hrun : exec step (start allowedClockSkewMs) ops = some r) (deviceId : DeviceId) :
    ∃ q, exec step (start allowedClockSkewMs) (ops.filter (·.concerns deviceId)) = some q ∧
      q.accepted = r.accepted.filter (·.1 = deviceId) := by
  suffices htwin : ∀ (ops : List ReplayOp) (r₀ q₀ r : ReplayRun), Twin deviceId r₀ q₀ →
      exec step r₀ ops = some r →
      ∃ q, exec step q₀ (ops.filter (·.concerns deviceId)) = some q ∧ Twin deviceId r q by
    obtain ⟨q, hq, htwin⟩ := htwin ops _ _ r ⟨le_rfl, rfl, rfl, fun _ => rfl⟩ hrun
    exact ⟨q, hq, htwin.accepted_eq⟩
  intro ops
  induction ops with
  | nil =>
    intro r₀ q₀ r h hrun
    obtain rfl := Option.some.inj hrun
    exact ⟨q₀, rfl, h⟩
  | cons op ops ih =>
    intro r₀ q₀ r h hrun
    obtain ⟨r₁, hr₁, hrun⟩ := Option.bind_eq_some_iff.mp hrun
    cases hop : op.concerns deviceId with
    | true =>
      obtain ⟨q₁, hq₁, h₁⟩ := h.step_concerned hop hr₁
      obtain ⟨q, hq, htwin⟩ := ih r₁ q₁ r h₁ hrun
      refine ⟨q, ?_, htwin⟩
      rw [List.filter_cons_of_pos hop, exec_cons, hq₁]
      exact hq
    | false =>
      rw [List.filter_cons_of_neg (by simp [hop])]
      exact ih r₁ q₀ r (h.step_other hop hr₁) hrun

/-! ### Replay protection -/

/-- **Replay protection** of a run: at no moment can a message that was accepted be accepted again,
and the nonces of other devices do not matter. -/
structure Protects (allowedClockSkewMs : ℕ) (ops : List ReplayOp) : Prop where
  once : ∀ r, exec step (start allowedClockSkewMs) ops = some r → r.accepted.Nodup
  secure : ∀ ks rest r, ops = ks ++ rest → exec step (start allowedClockSkewMs) ks = some r →
    r.Secure
  isolated : ∀ r deviceId, exec step (start allowedClockSkewMs) ops = some r →
    ∃ q, exec step (start allowedClockSkewMs) (ops.filter (·.concerns deviceId)) = some q ∧
      q.accepted = r.accepted.filter (·.1 = deviceId)

/-- **Replay protection holds exactly for punctual clients.** -/
theorem protects_iff_punctual (allowedClockSkewMs : ℕ) (ops : List ReplayOp) (r : ReplayRun)
    (hrun : exec step (start allowedClockSkewMs) ops = some r) :
    Protects allowedClockSkewMs ops ↔ Along step Punctual (start allowedClockSkewMs) ops := by
  have hstart : (start allowedClockSkewMs).Sealed := fun _ hmessage => by cases hmessage
  have hexact := forall_reached_iff_along (fun _ => Sealed.secure)
    (fun _ _ _ h hpunctual hstep => h.step hpunctual hstep)
    (fun _ _ _ _ hpunctual hstep => not_secure_of_not_punctual hpunctual hstep) hstart hrun
  constructor
  · intro h
    exact hexact.mp h.secure
  · intro h
    refine ⟨fun r hrun => ?_, hexact.mpr h,
      fun _ deviceId hrun => accepted_of_device allowedClockSkewMs hrun deviceId⟩
    rw [List.nodup_iff_count_eq_one]
    exact hexact.mpr h ops [] r (List.append_nil ops).symm hrun [] r rfl

/-- A message from a clock behind the server's, which is sent again after the nonces were pruned. -/
theorem protects_behind :
    Protects 10 [.checkAndRecord 1 [7] 95 100, .prune 104, .checkAndRecord 1 [7] 95 105] := by
  refine (protects_iff_punctual 10 _ _ rfl).mpr (along_of_forall_mem fun op hop r => ?_)
  intro deviceId nonce timestampMs hmessage hahead
  simp only [List.mem_cons, List.not_mem_nil, or_false] at hop
  rcases hop with rfl | rfl | rfl
  · cases hmessage
    exact absurd hahead (by decide)
  · cases hmessage
  · cases hmessage
    exact absurd hahead (by decide)

/-- A message from a clock ahead of the server's is accepted twice. -/
theorem not_once_of_ahead :
    ∃ r, exec step (start 10) [.checkAndRecord 1 [7] 110 100, .checkAndRecord 1 [7] 110 111] =
      some r ∧ r.accepted = [(1, [7], 110), (1, [7], 110)] ∧ ¬r.accepted.Nodup :=
  ⟨_, rfl, rfl, by decide⟩

end ReplayRun

end Termd.Auth
