import Mathlib.Data.Nat.Basic
import Mathlib.Algebra.Order.Ring.Nat
import Mathlib.Tactic.Ring

/-!
# How long the daemon waits before it dials again

The daemon keeps a connection to the relay. When it ends, or cannot be made, the daemon waits and dials
again, each time twice as long up to a maximum; after a connection that has lasted it begins with the
shortest wait again.

Whether a connection has lasted is read off a clock that was started with the attempt, when the wait
is over. So the wait counts as a part of the connection.

## Main definitions

* `RelayReconnectPolicy`: the delays
* `retryDelay`: the waits of `run_relay_mux_with_reconnect_base`
* `BackOff`: what the waits are meant to be
* `Attempt.Plain`: the wait does not decide whether the connection has lasted

## Main results

* `backOff_iff`: the waits are what they are meant to be when every attempt is plain
* `not_backOff`: a wait of a minute
-/

namespace Termd.Relay.Reconnect

/-! ### The policy

Times are in nanoseconds. -/

def MIN_RELAY_RETRY_DELAY_MS : ℕ := 1
def MIN_RELAY_HEARTBEAT_INTERVAL_MS : ℕ := 1

def fromMillis (ms : ℕ) : ℕ := ms * 1000000

def RELAY_RECONNECT_STABLE_RESET_AFTER : ℕ := fromMillis 60000

/-- The longest `Duration`. -/
def maxDuration : ℕ := (2 ^ 64 - 1) * 1000000000 + 999999999

/-- `Duration::checked_mul` -/
def checkedMul (duration factor : ℕ) : Option ℕ :=
  if duration * factor ≤ maxDuration then some (duration * factor) else none

structure RelayReconnectConfig where
  initialDelayMs : Fin (2 ^ 64)
  maxDelayMs : Fin (2 ^ 64)
  heartbeatIntervalMs : Fin (2 ^ 64)

structure RelayReconnectPolicy where
  initialDelay : ℕ
  maxDelay : ℕ
  heartbeatInterval : ℕ

def durationFromMillisFloor (value floorMs : ℕ) : ℕ := fromMillis (max value floorMs)

namespace RelayReconnectPolicy

def fromConfig (config : RelayReconnectConfig) : RelayReconnectPolicy :=
  let initialDelay := durationFromMillisFloor config.initialDelayMs MIN_RELAY_RETRY_DELAY_MS
  let configuredMax := durationFromMillisFloor config.maxDelayMs MIN_RELAY_RETRY_DELAY_MS
  { initialDelay
    maxDelay := max configuredMax initialDelay
    heartbeatInterval :=
      durationFromMillisFloor config.heartbeatIntervalMs MIN_RELAY_HEARTBEAT_INTERVAL_MS }

def firstRetryDelay (policy : RelayReconnectPolicy) : ℕ := policy.initialDelay

def nextRetryDelay (policy : RelayReconnectPolicy) (current : ℕ) : ℕ :=
  max (min ((checkedMul current 2).getD policy.maxDelay) policy.maxDelay) policy.initialDelay

end RelayReconnectPolicy

/-! ### Runs -/

/-- An attempt: how long the connection lasted, and how long after the wait the clock is read. -/
structure Attempt where
  lasted : ℕ
  late : ℕ

/-- What the clock says that was started with the attempt, after the wait. -/
def Attempt.elapsed (attempt : Attempt) (delay : ℕ) : ℕ := attempt.lasted + delay + attempt.late

variable (policy : RelayReconnectPolicy) (attempts : ℕ → Attempt)

/-- The wait after each attempt of `run_relay_mux_with_reconnect_base`. -/
def retryDelay : ℕ → ℕ
  | 0 => policy.firstRetryDelay
  | k + 1 =>
    if RELAY_RECONNECT_STABLE_RESET_AFTER ≤ (attempts k).elapsed (retryDelay k) then
      policy.firstRetryDelay
    else policy.nextRetryDelay (retryDelay k)

/-- **The back-off**: the waits are within their bounds, they are doubled up to the maximum, and begin
again after a connection that has lasted; so they do not shrink while connections fail, and reach the
maximum and stay there. -/
structure BackOff : Prop where
  bounds : ∀ k, policy.initialDelay ≤ retryDelay policy attempts k ∧
    retryDelay policy attempts k ≤ policy.maxDelay
  exact : ∀ k, checkedMul (retryDelay policy attempts k) 2 =
    some (retryDelay policy attempts k * 2)
  next : ∀ k, retryDelay policy attempts (k + 1) =
    if RELAY_RECONNECT_STABLE_RESET_AFTER ≤ (attempts k).lasted then policy.initialDelay
    else min (2 * retryDelay policy attempts k) policy.maxDelay
  grows : ∀ k, (attempts k).lasted < RELAY_RECONNECT_STABLE_RESET_AFTER →
    retryDelay policy attempts k ≤ retryDelay policy attempts (k + 1)
  settles : ∀ k, (∀ j, k ≤ j → (attempts j).lasted < RELAY_RECONNECT_STABLE_RESET_AFTER) →
    ∃ n, ∀ j, n ≤ j → retryDelay policy attempts j = policy.maxDelay

/-- **The wait does not decide** whether the connection has lasted, or it makes no difference. -/
def Attempt.Plain (attempt : Attempt) (delay : ℕ) : Prop :=
  RELAY_RECONNECT_STABLE_RESET_AFTER ≤ attempt.lasted ∨
    attempt.elapsed delay < RELAY_RECONNECT_STABLE_RESET_AFTER ∨
      policy.maxDelay = policy.initialDelay

/-! ### What the waits are -/

/-- The delays of a policy that was made from a configuration. -/
structure Valid : Prop where
  pos : 0 < policy.initialDelay
  le : policy.initialDelay ≤ policy.maxDelay
  fits : policy.maxDelay * 2 ≤ maxDuration

theorem valid_fromConfig (config : RelayReconnectConfig) : Valid (.fromConfig config) where
  pos := by
    rw [RelayReconnectPolicy.fromConfig, durationFromMillisFloor, fromMillis,
      MIN_RELAY_RETRY_DELAY_MS]
    dsimp only
    omega
  le := le_max_right _ _
  fits := by
    have hinitial := config.initialDelayMs.isLt
    have hmax := config.maxDelayMs.isLt
    simp only [RelayReconnectPolicy.fromConfig, durationFromMillisFloor, fromMillis,
      MIN_RELAY_RETRY_DELAY_MS, maxDuration]
    omega

section Valid

variable {policy : RelayReconnectPolicy} {attempts : ℕ → Attempt} {k : ℕ} {delay : ℕ}

/-- Twice a delay is a `Duration`. -/
theorem Valid.checkedMul_eq (h : Valid policy) (hdelay : delay ≤ policy.maxDelay) :
    checkedMul delay 2 = some (delay * 2) := by
  have hfits := h.fits
  exact if_pos (by omega)

theorem Valid.nextRetryDelay_eq (h : Valid policy)
    (hdelay : policy.initialDelay ≤ delay ∧ delay ≤ policy.maxDelay) :
    policy.nextRetryDelay delay = min (2 * delay) policy.maxDelay := by
  have hle := h.le
  rw [RelayReconnectPolicy.nextRetryDelay, h.checkedMul_eq hdelay.2, Option.getD_some]
  omega

/-- **The waits are within their bounds**, whatever the clock says. -/
theorem Valid.bounds (h : Valid policy) (attempts : ℕ → Attempt) (k : ℕ) :
    policy.initialDelay ≤ retryDelay policy attempts k ∧
      retryDelay policy attempts k ≤ policy.maxDelay := by
  have hle := h.le
  induction k with
  | zero => exact ⟨le_rfl, hle⟩
  | succ k ih =>
    rw [retryDelay]
    split_ifs
    · exact ⟨le_rfl, hle⟩
    · rw [h.nextRetryDelay_eq ih]
      omega

/-- **The wait after an attempt** is right when the attempt is plain. -/
theorem Valid.next_iff (h : Valid policy) : (retryDelay policy attempts (k + 1) =
      if RELAY_RECONNECT_STABLE_RESET_AFTER ≤ (attempts k).lasted then policy.initialDelay
      else min (2 * retryDelay policy attempts k) policy.maxDelay) ↔
    (attempts k).Plain policy (retryDelay policy attempts k) := by
  have hpos := h.pos
  have hle := h.le
  have hbounds := h.bounds attempts k
  rw [retryDelay, h.nextRetryDelay_eq hbounds, Attempt.Plain, RelayReconnectPolicy.firstRetryDelay]
  by_cases hlasted : RELAY_RECONNECT_STABLE_RESET_AFTER ≤ (attempts k).lasted
  · have helapsed : RELAY_RECONNECT_STABLE_RESET_AFTER ≤
        (attempts k).elapsed (retryDelay policy attempts k) := by
      rw [Attempt.elapsed]
      omega
    rw [if_pos helapsed, if_pos hlasted]
    exact iff_of_true rfl (.inl hlasted)
  · rw [if_neg hlasted]
    by_cases helapsed : RELAY_RECONNECT_STABLE_RESET_AFTER ≤
        (attempts k).elapsed (retryDelay policy attempts k)
    · -- the clock takes the wait for the connection, so that the wait is the shortest again
      rw [if_pos helapsed]
      omega
    · rw [if_neg helapsed]
      exact iff_of_true rfl (.inr (.inl (not_le.mp helapsed)))

/-- While connections fail, the wait is doubled up to the maximum. -/
theorem delay_eq_min (hnext : ∀ k, retryDelay policy attempts (k + 1) =
      if RELAY_RECONNECT_STABLE_RESET_AFTER ≤ (attempts k).lasted then policy.initialDelay
      else min (2 * retryDelay policy attempts k) policy.maxDelay)
    (hbound : retryDelay policy attempts k ≤ policy.maxDelay)
    (hfailing : ∀ j, k ≤ j → (attempts j).lasted < RELAY_RECONNECT_STABLE_RESET_AFTER) (n : ℕ) :
    retryDelay policy attempts (k + n) =
      min (2 ^ n * retryDelay policy attempts k) policy.maxDelay := by
  induction n with
  | zero =>
    rw [Nat.add_zero, pow_zero, one_mul, min_eq_left hbound]
  | succ n ih =>
    rw [← Nat.add_assoc, hnext, if_neg (not_le.mpr (hfailing _ (Nat.le_add_right k n))), ih]
    have hdoubled : 2 ^ (n + 1) * retryDelay policy attempts k =
        2 * (2 ^ n * retryDelay policy attempts k) := by ring
    rw [hdoubled]
    omega

/-- **The back-off follows** from what comes after each wait. -/
theorem Valid.backOff (h : Valid policy) (hnext : ∀ k, retryDelay policy attempts (k + 1) =
      if RELAY_RECONNECT_STABLE_RESET_AFTER ≤ (attempts k).lasted then policy.initialDelay
      else min (2 * retryDelay policy attempts k) policy.maxDelay) : BackOff policy attempts where
  bounds := h.bounds attempts
  exact k := h.checkedMul_eq (h.bounds attempts k).2
  next := hnext
  grows k hfailed := by
    have hbound := (h.bounds attempts k).2
    rw [hnext, if_neg (not_le.mpr hfailed)]
    omega
  settles k hfailing := by
    -- a wait is positive, and doubled as often as the maximum has nanoseconds
    refine ⟨k + policy.maxDelay, fun j hj => ?_⟩
    obtain ⟨n, rfl⟩ := Nat.exists_eq_add_of_le (le_trans (Nat.le_add_right k _) hj)
    rw [delay_eq_min hnext (h.bounds attempts k).2 hfailing]
    have hpositive : 1 ≤ retryDelay policy attempts k := le_trans h.pos (h.bounds attempts k).1
    have hpower : n < 2 ^ n := Nat.lt_two_pow_self
    have hgrown : 2 ^ n * 1 ≤ 2 ^ n * retryDelay policy attempts k :=
      Nat.mul_le_mul_left _ hpositive
    exact min_eq_right (by omega)

end Valid

/-- **When the waits are what they are meant to be**: exactly when no wait decides whether a connection
has lasted. -/
theorem backOff_iff (config : RelayReconnectConfig) (attempts : ℕ → Attempt) :
    BackOff (.fromConfig config) attempts ↔
      ∀ k, (attempts k).Plain (.fromConfig config) (retryDelay (.fromConfig config) attempts k) := by
  have hvalid := valid_fromConfig config
  constructor
  · exact fun h k => hvalid.next_iff.mp (h.next k)
  · exact fun h => hvalid.backOff fun k => hvalid.next_iff.mpr (h k)

/-- A wait of a minute, after which the relay still does not answer. -/
theorem not_backOff : ¬∀ (config : RelayReconnectConfig) (attempts : ℕ → Attempt),
    BackOff (.fromConfig config) attempts := by
  intro h
  have hnext := (h ⟨60000, 120000, 1⟩ fun _ => ⟨0, 0⟩).next 0
  exact absurd hnext (by decide)

end Termd.Relay.Reconnect
