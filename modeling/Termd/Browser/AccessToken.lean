import Mathlib.Data.Int.Notation
import Mathlib.Data.List.Count
import Mathlib.Data.List.Nodup
import Mathlib.Logic.Function.Iterate
import Termd.Library.Transition

/-!
# The access token of a browser

The browser exchanges its device certificate for an access token, and does so again when the token
is to be refreshed. One manager serves every request: those that find no token wait for the
exchange that is running. A timer drops the token when it is to be refreshed, waits for the next
one, and tells it to the listeners.

What an exchange has led to runs before anything else does, so that the end of an exchange is one
step.

## Main definitions

* `AccessTokenManager`: the manager, with the methods of the source
* `AccessTokenManager.Op`, `AccessTokenManager.step`: what is called, and what the page does
* `AccessTokenManager.LifeCycle`: one exchange, one timer, and every listener told once
* `AccessTokenManager.Orderly`: the guard

## Main results

* `AccessTokenManager.lifeCycle_iff`: when the life cycle is kept
* `AccessTokenManager.timer_after_dispose`: an exchange that ends after the manager was disposed of
-/

namespace Termd.Browser

/-- A token and its times, in milliseconds. -/
structure TokenResponse where
  accessToken : String
  expiresAtMs : ℤ
  refreshAtMs : ℤ

/-- The body of an answer to the exchange, and whether its status was one of success. -/
structure ExchangeAnswer where
  ok : Bool
  accessToken : Option String
  expiresAtMs : Option ℤ
  refreshAtMs : Option ℤ

/-- The token of an answer. An empty text and a zero are no values. -/
def ExchangeAnswer.token (answer : ExchangeAnswer) : Option TokenResponse :=
  if answer.ok then
    match answer.accessToken.filter (· ≠ ""), answer.expiresAtMs.filter (· ≠ 0) with
    | some accessToken, some expiresAtMs =>
      some { accessToken, expiresAtMs
             refreshAtMs := answer.refreshAtMs.getD (expiresAtMs - 60000) }
    | _, _ => none
  else none

/-- Who waits for an exchange: a call of `get`, or the refresh timer. -/
inductive Waiter
  | caller
  | timer
deriving DecidableEq

/-- An exchange that is running, and whether it has its challenge. -/
structure Exchange where
  id : ℕ
  challenged : Bool
deriving DecidableEq

/-- What was seen since the manager was disposed of. -/
structure SinceDispose where
  calls : ℕ := 0
  exchanges : ℕ := 0

/-- The manager, and the page with its running exchanges and armed timers. The last five fields say
what has happened so far. -/
structure AccessTokenManager where
  /-- `server.device_certificate` -/
  certificate : Bool
  current : Option TokenResponse := none
  pending : Option ℕ := none
  refreshTimer : Option ℕ := none
  refreshListeners : List ℕ := []
  exchanges : List Exchange := []
  waiting : List (ℕ × Waiter) := []
  timers : List ℕ := []
  nextExchange : ℕ := 0
  nextTimer : ℕ := 0
  /-- The tokens that were returned without waiting, and when -/
  returned : List (ℤ × TokenResponse) := []
  obtained : ℕ := 0
  /-- The exchanges that replaced a token, and who was registered then -/
  replaced : List (ℕ × List ℕ) := []
  /-- The listeners that were called, and for which exchange -/
  calls : List (ℕ × ℕ) := []
  sinceDispose : Option SinceDispose := none

namespace AccessTokenManager

variable (m : AccessTokenManager)

/-- `clearTimeout` disarms the timer. -/
def clearRefreshTimer : AccessTokenManager :=
  match m.refreshTimer with
  | some timer => { m with timers := m.timers.erase timer, refreshTimer := none }
  | none => m

def invalidate : AccessTokenManager := { m with current := none }.clearRefreshTimer

def onRefresh (listener : ℕ) : AccessTokenManager :=
  { m with refreshListeners := m.refreshListeners.insert listener }

/-- What `onRefresh` returns. -/
def unsubscribe (listener : ℕ) : AccessTokenManager :=
  { m with refreshListeners := m.refreshListeners.erase listener }

def dispose : AccessTokenManager :=
  { m.clearRefreshTimer with refreshListeners := [], sinceDispose := some {} }

/-- `refresh` up to where it waits. Without a certificate it fails before it asks for anything. -/
def refresh : AccessTokenManager × Option ℕ :=
  if m.certificate then
    ({ m with
        exchanges := { id := m.nextExchange, challenged := false } :: m.exchanges
        nextExchange := m.nextExchange + 1
        sinceDispose := m.sinceDispose.map fun since =>
          { since with exchanges := since.exchanges + 1 } },
      some m.nextExchange)
  else (m, none)

/-- `get`: the token, or the exchange to wait for; without a certificate there is neither. -/
def get (nowMs : ℤ) (waiter : Waiter) : AccessTokenManager × Option TokenResponse :=
  match m.current.filter fun token => nowMs < token.refreshAtMs with
  | some token => (m, some token)
  | none =>
    match m.pending with
    | some exchange => ({ m with waiting := (exchange, waiter) :: m.waiting }, none)
    | none =>
      match m.refresh with
      | (m, some exchange) =>
        ({ m with pending := some exchange, waiting := (exchange, waiter) :: m.waiting }, none)
      | (m, none) => (m, none)

/-- The listeners are called with the token of an exchange. -/
def announce (exchange : ℕ) (m : AccessTokenManager) : AccessTokenManager :=
  { m with
    calls := m.calls ++ m.refreshListeners.map fun listener => (exchange, listener)
    sinceDispose := m.sinceDispose.map fun since =>
      { since with calls := since.calls + m.refreshListeners.length } }

def scheduleRefresh (refreshAtMs nowMs : ℤ) : AccessTokenManager :=
  let m := m.clearRefreshTimer
  if refreshAtMs - nowMs ≤ 0 then m
  else { m with
    refreshTimer := some m.nextTimer
    timers := m.nextTimer :: m.timers
    nextTimer := m.nextTimer + 1 }

/-- The callback of the timer, when it is run. There is no token that it does not have to wait
for. -/
def fire (timer : ℕ) (nowMs : ℤ) : AccessTokenManager :=
  (({ m with timers := m.timers.erase timer, refreshTimer := none, current := none }).get
    nowMs .timer).1

/-- A new token. -/
def renew (exchange : ℕ) (token : TokenResponse) (nowMs : ℤ) : AccessTokenManager :=
  ({ m with
    current := some token
    obtained := m.obtained + 1
    replaced := if m.obtained = 0 then m.replaced else (exchange, m.refreshListeners) :: m.replaced
      }).scheduleRefresh token.refreshAtMs nowMs

/-- The exchange is over, and nobody waits for it. -/
def release (exchange : ℕ) : AccessTokenManager :=
  { m with
    exchanges := m.exchanges.filter (·.id ≠ exchange)
    pending := none
    waiting := m.waiting.filter (·.1 ≠ exchange) }

/-- The end of an exchange, for the one that started it and for those that wait. -/
def settle (exchange : ℕ) (token : Option TokenResponse) (nowMs : ℤ) : AccessTokenManager :=
  match token with
  | none => m.release exchange
  | some token =>
    (announce exchange)^[m.waiting.count (exchange, Waiter.timer)]
      ((m.renew exchange token nowMs).release exchange)

inductive Op
  | get (nowMs : ℤ)
  | invalidate
  | dispose
  | onRefresh (listener : ℕ)
  | unsubscribe (listener : ℕ)
  | timer (timer : ℕ) (nowMs : ℤ)
  /-- The answer to the request for a challenge; `none` where it or what comes of it failed. -/
  | challenge (exchange : ℕ) (challenge : Option String)
  /-- The answer to the exchange, and when it came. -/
  | token (exchange : ℕ) (answer : Option ExchangeAnswer) (nowMs : ℤ)

def step : Op → Option AccessTokenManager
  | .get nowMs =>
    match ({ m with sinceDispose := none }).get nowMs .caller with
    | (m, some token) => some { m with returned := (nowMs, token) :: m.returned }
    | (m, none) => some m
  | .invalidate => some m.invalidate
  | .dispose => some m.dispose
  | .onRefresh listener => some (m.onRefresh listener)
  | .unsubscribe listener => some (m.unsubscribe listener)
  | .timer timer nowMs => if timer ∈ m.timers then some (m.fire timer nowMs) else none
  | .challenge exchange challenge =>
    if { id := exchange, challenged := false } ∈ m.exchanges then
      match challenge.filter (· ≠ "") with
      | some _ => some { m with exchanges := m.exchanges.map fun running =>
          if running.id = exchange then { running with challenged := true } else running }
      | none => some (m.settle exchange none 0)
    else none
  | .token exchange answer nowMs =>
    if { id := exchange, challenged := true } ∈ m.exchanges then
      some (m.settle exchange (answer.bind ExchangeAnswer.token) nowMs)
    else none

/-- **The life cycle of the token.** -/
structure LifeCycle : Prop where
  oneExchange : m.exchanges.length ≤ 1
  oneTimer : m.timers.length ≤ 1
  fresh : ∀ entry ∈ m.returned, entry.1 < entry.2.refreshAtMs
  announced : ∀ entry ∈ m.replaced, ∀ listener ∈ entry.2, m.calls.count (entry.1, listener) = 1
  silent : ∀ since ∈ m.sinceDispose, m.timers = [] ∧ since = {}

/-- The listeners that are called at the end of an exchange. -/
def told (exchange : ℕ) : List ℕ :=
  if 0 < m.waiting.count (exchange, Waiter.timer) then m.refreshListeners else []

/-- The guard. When a token replaces another one, all listeners are called. After `dispose`, no
exchange ends with a token that is to be refreshed, or that somebody is told. -/
def Orderly : Op → Bool
  | .token exchange answer nowMs =>
    match answer.bind ExchangeAnswer.token with
    | some token => (m.obtained = 0 || m.told exchange = m.refreshListeners) &&
        (m.sinceDispose = none || token.refreshAtMs ≤ nowMs && m.told exchange = [])
    | none => true
  | _ => true

/-- An exchange that has come to its end. -/
def Ended (exchange : ℕ) : Prop := exchange < m.nextExchange ∧ m.pending ≠ some exchange

/-- What every step keeps, where the guard holds. -/
structure Invariant : Prop where
  running : m.exchanges.map Exchange.id = m.pending.toList
  armed : m.timers = m.refreshTimer.toList
  begun : ∀ exchange ∈ m.pending, exchange < m.nextExchange
  awaited : ∀ entry ∈ m.waiting, m.pending = some entry.1
  /-- The timer is armed, or it waits, or neither. -/
  oneWaits : m.waiting.countP (·.2 = .timer) + m.timers.length ≤ 1
  nodup : m.refreshListeners.Nodup
  fresh : ∀ entry ∈ m.returned, entry.1 < entry.2.refreshAtMs
  calledEnded : ∀ entry ∈ m.calls, m.Ended entry.1
  replacedEnded : ∀ entry ∈ m.replaced, m.Ended entry.1
  announced : ∀ entry ∈ m.replaced, ∀ listener ∈ entry.2, m.calls.count (entry.1, listener) = 1
  silent : ∀ since ∈ m.sinceDispose, m.timers = [] ∧ since = {}

/-- The manager of a page that was just loaded. -/
def start (certificate : Bool) : AccessTokenManager := { certificate }

variable {m : AccessTokenManager}

theorem invariant_start (certificate : Bool) : (start certificate).Invariant := by
  constructor <;> simp [start]

theorem Invariant.lifeCycle (h : m.Invariant) : m.LifeCycle where
  oneExchange := by
    rw [← List.length_map (f := Exchange.id), h.running]
    exact Option.length_toList_le
  oneTimer := by
    rw [h.armed]
    exact Option.length_toList_le
  fresh := h.fresh
  announced := h.announced
  silent := h.silent

theorem clearRefreshTimer_eq (h : m.timers = m.refreshTimer.toList) :
    m.clearRefreshTimer = { m with timers := [], refreshTimer := none } := by
  rw [clearRefreshTimer]
  split
  next timer htimer => rw [h, htimer, Option.toList_some, List.erase_cons_head]
  next hnone =>
    have htimers : m.timers = [] := by rw [h, hnone]; rfl
    rw [← htimers, ← hnone]

theorem Invariant.clearRefreshTimer (h : m.Invariant) : m.clearRefreshTimer.Invariant := by
  rw [clearRefreshTimer_eq h.armed]
  exact {
    h with
    armed := rfl
    oneWaits := Nat.le_trans (Nat.le_add_right _ _) h.oneWaits
    silent := fun since hsince => ⟨rfl, (h.silent since hsince).2⟩ }

theorem Invariant.invalidate (h : m.Invariant) : m.invalidate.Invariant := by
  have hdropped : ({ m with current := none } : AccessTokenManager).Invariant := { h with }
  exact hdropped.clearRefreshTimer

theorem Invariant.dispose (h : m.Invariant) : m.dispose.Invariant := by
  have hcleared := h.clearRefreshTimer
  rw [AccessTokenManager.dispose]
  rw [clearRefreshTimer_eq h.armed] at hcleared ⊢
  refine { hcleared with nodup := List.nodup_nil, silent := ?_ }
  rintro since hsince
  exact ⟨rfl, (Option.some.inj hsince).symm⟩

theorem Invariant.onRefresh (h : m.Invariant) (listener : ℕ) : (m.onRefresh listener).Invariant :=
  { h with nodup := h.nodup.insert }

theorem Invariant.unsubscribe (h : m.Invariant) (listener : ℕ) :
    (m.unsubscribe listener).Invariant :=
  { h with nodup := h.nodup.erase listener }

/-- Somebody joins the exchange that is running. -/
theorem Invariant.join (h : m.Invariant) {exchange : ℕ} {waiter : Waiter}
    (hpending : m.pending = some exchange)
    (hwaits : waiter = .timer → m.timers = [] ∧ m.waiting.countP (·.2 = .timer) = 0) :
    ({ m with waiting := (exchange, waiter) :: m.waiting } : AccessTokenManager).Invariant := by
  refine { h with awaited := ?_, oneWaits := ?_ }
  · rintro entry hentry
    rcases List.mem_cons.mp hentry with rfl | hentry
    · exact hpending
    · exact h.awaited entry hentry
  · have hone := h.oneWaits
    rw [List.countP_cons]
    cases waiter with
    | caller => simpa using hone
    | timer =>
      obtain ⟨htimers, hnone⟩ := hwaits rfl
      simp [htimers, hnone]

/-- A new exchange, which nobody has been told of. -/
theorem Invariant.refresh (h : m.Invariant) (hpending : m.pending = none)
    (hsilent : m.sinceDispose = none) :
    ({ m with
        exchanges := { id := m.nextExchange, challenged := false } :: m.exchanges
        nextExchange := m.nextExchange + 1
        sinceDispose := m.sinceDispose.map fun since =>
          { since with exchanges := since.exchanges + 1 }
        pending := some m.nextExchange } : AccessTokenManager).Invariant := by
  have hexchanges : m.exchanges = [] := by
    have hrunning := h.running
    rw [hpending] at hrunning
    exact List.map_eq_nil_iff.mp hrunning
  have hended : ∀ exchange, m.Ended exchange →
      exchange < m.nextExchange + 1 ∧ some m.nextExchange ≠ some exchange := by
    rintro exchange ⟨hlt, -⟩
    refine ⟨by omega, fun heq => ?_⟩
    exact absurd (Option.some.inj heq) (by omega)
  refine {
    h with
    running := by rw [hexchanges]; rfl
    begun := ?_
    awaited := ?_
    calledEnded := fun entry hentry => hended _ (h.calledEnded entry hentry)
    replacedEnded := fun entry hentry => hended _ (h.replacedEnded entry hentry)
    silent := by rw [hsilent]; rintro since ⟨⟩ }
  · rintro exchange hexchange
    obtain rfl := Option.some.inj hexchange
    exact Nat.lt_succ_self _
  · rintro entry hentry
    rw [h.awaited entry hentry] at hpending
    cases hpending

/-- **What `get` does.** -/
theorem get_spec (h : m.Invariant) (nowMs : ℤ) (waiter : Waiter)
    (hsilent : m.sinceDispose = none)
    (hwaits : waiter = .timer → m.timers = [] ∧ m.waiting.countP (·.2 = .timer) = 0) :
    (m.get nowMs waiter).1.Invariant ∧
      ∀ token ∈ (m.get nowMs waiter).2, nowMs < token.refreshAtMs := by
  rw [get]
  split
  next token htoken =>
    refine ⟨h, ?_⟩
    rintro _ ⟨⟩
    exact of_decide_eq_true (Option.filter_eq_some_iff.mp htoken).2
  next =>
    split
    next exchange hpending => exact ⟨h.join hpending hwaits, by simp⟩
    next hpending =>
      rw [AccessTokenManager.refresh]
      by_cases hcertificate : m.certificate = true
      · rw [if_pos hcertificate]
        exact ⟨(h.refresh hpending hsilent).join rfl hwaits, by simp⟩
      · rw [if_neg hcertificate]
        exact ⟨h, by simp⟩

theorem Invariant.fire (h : m.Invariant) {timer : ℕ} (htimer : timer ∈ m.timers) (nowMs : ℤ) :
    (m.fire timer nowMs).Invariant := by
  have hsilent : m.sinceDispose = none := by
    rw [Option.eq_none_iff_forall_not_mem]
    rintro since hsince
    rw [(h.silent since hsince).1] at htimer
    exact List.not_mem_nil htimer
  obtain ⟨htimers, hnone⟩ : m.timers.erase timer = [] ∧ m.waiting.countP (·.2 = .timer) = 0 := by
    have hone := h.oneWaits
    rw [h.armed] at htimer hone ⊢
    rw [Option.mem_toList] at htimer
    rw [htimer] at hone ⊢
    simp at hone ⊢
    exact hone
  have hfired : ({ m with timers := m.timers.erase timer, refreshTimer := none, current := none } :
      AccessTokenManager).Invariant := by
    refine { h with armed := htimers, oneWaits := ?_, silent := ?_ }
    · simp [htimers, hnone]
    · rintro since hsince
      exact ⟨htimers, (h.silent since hsince).2⟩
  exact (get_spec hfired nowMs .timer hsilent fun _ => ⟨htimers, hnone⟩).1

/-! ### The end of an exchange -/

theorem release_eq (hrunning : m.exchanges.map Exchange.id = m.pending.toList)
    (hawaited : ∀ entry ∈ m.waiting, m.pending = some entry.1) {exchange : ℕ}
    (hpending : m.pending = some exchange) :
    m.release exchange = { m with exchanges := [], pending := none, waiting := [] } := by
  have hexchanges : m.exchanges.filter (·.id ≠ exchange) = [] := by
    rw [List.filter_eq_nil_iff]
    rintro running hmem
    have hid : running.id ∈ m.exchanges.map Exchange.id := List.mem_map_of_mem hmem
    rw [hrunning, hpending, Option.toList_some, List.mem_singleton] at hid
    simp [hid]
  have hwaiting : m.waiting.filter (·.1 ≠ exchange) = [] := by
    rw [List.filter_eq_nil_iff]
    rintro entry hentry
    have hid := hawaited entry hentry
    rw [hpending, Option.some.injEq] at hid
    simp [hid]
  rw [release, hexchanges, hwaiting]

theorem Invariant.release (h : m.Invariant) {exchange : ℕ} (hpending : m.pending = some exchange) :
    (m.release exchange).Invariant := by
  rw [release_eq h.running h.awaited hpending]
  have hended : ∀ other, m.Ended other → other < m.nextExchange ∧ none ≠ some other :=
    fun other hother => ⟨hother.1, by simp⟩
  exact {
    h with
    running := rfl
    begun := by simp
    awaited := by simp
    oneWaits := by
      have hone := h.oneWaits
      dsimp only
      rw [List.countP_nil]
      omega
    calledEnded := fun entry hentry => hended _ (h.calledEnded entry hentry)
    replacedEnded := fun entry hentry => hended _ (h.replacedEnded entry hentry) }

/-- The timer waits once at most. -/
theorem announce_iterate (exchange : ℕ) {n : ℕ} (hn : n ≤ 1) :
    (announce exchange)^[n] m = { m with
      calls := m.calls ++ (if 0 < n then m.refreshListeners else []).map fun listener =>
        (exchange, listener)
      sinceDispose := m.sinceDispose.map fun since =>
        { since with calls := since.calls + (if 0 < n then m.refreshListeners else []).length } } := by
  obtain rfl | rfl := Nat.le_one_iff_eq_zero_or_eq_one.mp hn
  · cases hsince : m.sinceDispose with
    | none => simp [← hsince]
    | some since => simp [← hsince]
  · rfl

theorem scheduleRefresh_eq (h : m.timers = m.refreshTimer.toList) (refreshAtMs nowMs : ℤ) :
    m.scheduleRefresh refreshAtMs nowMs =
      { m with
        refreshTimer := if refreshAtMs ≤ nowMs then none else some m.nextTimer
        timers := if refreshAtMs ≤ nowMs then [] else [m.nextTimer]
        nextTimer := if refreshAtMs ≤ nowMs then m.nextTimer else m.nextTimer + 1 } := by
  rw [scheduleRefresh, clearRefreshTimer_eq h]
  by_cases hpast : refreshAtMs ≤ nowMs
  · rw [if_pos (by omega)]
    simp only [if_pos hpast]
  · rw [if_neg (by omega)]
    simp only [if_neg hpast]

/-- **The end of an exchange** that has brought a token. -/
theorem settle_some (h : m.Invariant) {exchange : ℕ} (hpending : m.pending = some exchange)
    (token : TokenResponse) (nowMs : ℤ) :
    m.settle exchange (some token) nowMs =
      { m with
        exchanges := []
        pending := none
        waiting := []
        current := some token
        obtained := m.obtained + 1
        replaced :=
          if m.obtained = 0 then m.replaced else (exchange, m.refreshListeners) :: m.replaced
        refreshTimer := if token.refreshAtMs ≤ nowMs then none else some m.nextTimer
        timers := if token.refreshAtMs ≤ nowMs then [] else [m.nextTimer]
        nextTimer := if token.refreshAtMs ≤ nowMs then m.nextTimer else m.nextTimer + 1
        calls := m.calls ++ (m.told exchange).map fun listener => (exchange, listener)
        sinceDispose := m.sinceDispose.map fun since =>
          { since with calls := since.calls + (m.told exchange).length } } := by
  have hcount : m.waiting.count (exchange, Waiter.timer) ≤ 1 := by
    have hone := h.oneWaits
    have hle : m.waiting.count (exchange, Waiter.timer) ≤ m.waiting.countP (·.2 = .timer) :=
      List.countP_mono_left fun entry _ hentry => by simp [beq_iff_eq.mp hentry]
    omega
  rw [settle, renew, scheduleRefresh_eq, release_eq, announce_iterate exchange hcount]
  · rfl
  · exact h.running
  · exact h.awaited
  · exact hpending
  · exact h.armed

theorem count_told (exchange other listener : ℕ) (told : List ℕ) :
    (told.map fun listener => (exchange, listener)).count (other, listener) =
      if other = exchange then told.count listener else 0 := by
  split_ifs with heq
  · subst heq
    exact List.count_map_of_injective _ _ (fun _ _ h => (Prod.mk.inj h).2) _
  · rw [List.count_eq_zero]
    simp only [List.mem_map, Prod.mk.injEq, not_exists, not_and]
    rintro _ - rfl
    exact absurd rfl heq

/-- The calls of the running exchange are still to come. -/
theorem Invariant.count_running (h : m.Invariant) {exchange : ℕ}
    (hpending : m.pending = some exchange) (listener : ℕ) :
    m.calls.count (exchange, listener) = 0 := by
  rw [List.count_eq_zero]
  exact fun hmem => (h.calledEnded _ hmem).2 hpending

theorem Invariant.settle_some (h : m.Invariant) {exchange : ℕ} (hpending : m.pending = some exchange)
    {token : TokenResponse} {nowMs : ℤ}
    (htold : m.obtained = 0 ∨ m.told exchange = m.refreshListeners)
    (hsilent : m.sinceDispose = none ∨ token.refreshAtMs ≤ nowMs ∧ m.told exchange = []) :
    (m.settle exchange (some token) nowMs).Invariant := by
  rw [AccessTokenManager.settle_some h hpending]
  have hended : ∀ other, m.Ended other → other < m.nextExchange ∧ none ≠ some other :=
    fun other hother => ⟨hother.1, by simp⟩
  have hends : exchange < m.nextExchange ∧ none ≠ some exchange :=
    ⟨h.begun exchange hpending, by simp⟩
  exact {
    running := rfl
    armed := by
      dsimp only
      split_ifs
      · rfl
      · rfl
    begun := by simp
    awaited := by simp
    oneWaits := by
      dsimp only
      split_ifs
      · simp
      · simp
    nodup := h.nodup
    fresh := h.fresh
    calledEnded := by
      rintro entry hentry
      rcases List.mem_append.mp hentry with hentry | hentry
      · exact hended _ (h.calledEnded entry hentry)
      · obtain ⟨listener, -, rfl⟩ := List.mem_map.mp hentry
        exact hends
    replacedEnded := by
      rintro entry hentry
      dsimp only at hentry
      split_ifs at hentry
      · exact hended _ (h.replacedEnded entry hentry)
      · rcases List.mem_cons.mp hentry with rfl | hentry
        · exact hends
        · exact hended _ (h.replacedEnded entry hentry)
    announced := by
      -- an entry of before has its calls, and gets none of the new ones
      have hold : ∀ entry ∈ m.replaced, ∀ listener ∈ entry.2,
          (m.calls ++ (m.told exchange).map fun listener => (exchange, listener)).count
            (entry.1, listener) = 1 := by
        rintro entry hentry listener hlistener
        have hne : entry.1 ≠ exchange := fun heq => (h.replacedEnded entry hentry).2 (heq ▸ hpending)
        rw [List.count_append, count_told, if_neg hne]
        exact h.announced entry hentry listener hlistener
      rintro entry hentry listener hlistener
      dsimp only at hentry ⊢
      split_ifs at hentry with hfirst
      · exact hold entry hentry listener hlistener
      · rcases List.mem_cons.mp hentry with rfl | hentry
        · rw [List.count_append, h.count_running hpending, count_told, if_pos rfl,
            htold.resolve_left hfirst, List.count_eq_one_of_mem h.nodup hlistener]
        · exact hold entry hentry listener hlistener
    silent := by
      rintro since hsince
      obtain ⟨before, hbefore, rfl⟩ := Option.map_eq_some_iff.mp hsince
      rcases hsilent with hnone | ⟨hpast, htold⟩
      · rw [hnone] at hbefore
        cases hbefore
      · refine ⟨if_pos hpast, ?_⟩
        rw [htold, (h.silent before hbefore).2]
        rfl }

/-- The exchange of a step is the one that is pending. -/
theorem Invariant.pending_eq (h : m.Invariant) {running : Exchange} (hmem : running ∈ m.exchanges) :
    m.pending = some running.id := by
  have hid : running.id ∈ m.exchanges.map Exchange.id := List.mem_map_of_mem hmem
  rw [h.running, Option.mem_toList] at hid
  exact hid

/-- **What every step keeps**, where the guard holds. -/
theorem Invariant.step {m' : AccessTokenManager} {op : Op} (h : m.Invariant)
    (horderly : m.Orderly op = true) (hstep : m.step op = some m') : m'.Invariant := by
  cases op with
  | get nowMs =>
    have hcalled : ({ m with sinceDispose := none } : AccessTokenManager).Invariant :=
      { h with silent := by rintro since ⟨⟩ }
    obtain ⟨hget, hfresh⟩ := get_spec hcalled nowMs .caller rfl (by simp)
    rw [AccessTokenManager.step] at hstep
    split at hstep
    next m₁ token hresult =>
      rw [hresult] at hget hfresh
      obtain rfl := Option.some.inj hstep
      refine { hget with fresh := ?_ }
      rintro entry hentry
      rcases List.mem_cons.mp hentry with rfl | hentry
      · exact hfresh token rfl
      · exact hget.fresh entry hentry
    next m₁ hresult =>
      rw [hresult] at hget
      exact Option.some.inj hstep ▸ hget
  | invalidate => exact Option.some.inj hstep ▸ h.invalidate
  | dispose => exact Option.some.inj hstep ▸ h.dispose
  | onRefresh listener => exact Option.some.inj hstep ▸ h.onRefresh listener
  | unsubscribe listener => exact Option.some.inj hstep ▸ h.unsubscribe listener
  | timer timer nowMs =>
    rw [AccessTokenManager.step] at hstep
    split_ifs at hstep with htimer
    exact Option.some.inj hstep ▸ h.fire htimer nowMs
  | challenge exchange challenge =>
    rw [AccessTokenManager.step] at hstep
    split_ifs at hstep with hmem
    have hpending := h.pending_eq hmem
    split at hstep
    next =>
      obtain rfl := Option.some.inj hstep
      refine { h with running := ?_ }
      rw [← h.running, List.map_map]
      refine List.map_congr_left fun running _ => ?_
      dsimp only [Function.comp]
      split_ifs
      · rfl
      · rfl
    next => exact Option.some.inj hstep ▸ h.release hpending
  | token exchange answer nowMs =>
    rw [AccessTokenManager.step] at hstep
    split_ifs at hstep with hmem
    have hpending := h.pending_eq hmem
    obtain rfl := Option.some.inj hstep
    rw [Orderly] at horderly
    cases htoken : answer.bind ExchangeAnswer.token with
    | none => exact h.release hpending
    | some token =>
      rw [htoken] at horderly
      simp only [Bool.and_eq_true, Bool.or_eq_true, decide_eq_true_eq] at horderly
      exact h.settle_some hpending horderly.1 horderly.2

/-- **The guard is exact**: a step that it does not allow breaks the life cycle. -/
theorem Invariant.not_lifeCycle {m' : AccessTokenManager} {op : Op} (h : m.Invariant)
    (horderly : ¬m.Orderly op = true) (hstep : m.step op = some m') : ¬m'.LifeCycle := by
  cases op with
  | token exchange answer nowMs =>
    rw [AccessTokenManager.step] at hstep
    split_ifs at hstep with hmem
    have hpending := h.pending_eq hmem
    obtain rfl := Option.some.inj hstep
    rw [Orderly] at horderly
    cases htoken : answer.bind ExchangeAnswer.token with
    | none =>
      rw [htoken] at horderly
      exact absurd rfl horderly
    | some token =>
      rw [htoken] at horderly
      simp only [Bool.and_eq_true, Bool.or_eq_true, decide_eq_true_eq, not_and_or, not_or] at horderly
      rw [AccessTokenManager.settle_some h hpending]
      intro hcycle
      rcases horderly with ⟨hobtained, htold⟩ | ⟨hdisposed, hloud⟩
      · -- somebody is registered, and nobody is called
        have hnone : m.told exchange = [] := by
          rw [told] at htold ⊢
          split_ifs at htold ⊢ with hcount
          · exact absurd rfl htold
          · rfl
        obtain ⟨listener, hlistener⟩ : ∃ listener, listener ∈ m.refreshListeners := by
          refine List.exists_mem_of_ne_nil _ fun hnil => htold ?_
          rw [hnone, hnil]
        have hentry : (exchange, m.refreshListeners) ∈
            if m.obtained = 0 then m.replaced else (exchange, m.refreshListeners) :: m.replaced := by
          rw [if_neg hobtained]
          exact List.mem_cons_self
        have hcount := hcycle.announced _ hentry listener hlistener
        dsimp only at hcount
        rw [hnone, List.map_nil, List.append_nil, h.count_running hpending] at hcount
        exact absurd hcount (by decide)
      · obtain ⟨before, hbefore⟩ := Option.ne_none_iff_exists'.mp hdisposed
        obtain ⟨htimers, hsince⟩ := hcycle.silent
          { before with calls := before.calls + (m.told exchange).length } (by rw [hbefore]; rfl)
        rcases hloud with hlate | htold
        · exact List.cons_ne_nil _ _ ((if_neg hlate).symm.trans htimers)
        · have hcalls := congrArg SinceDispose.calls hsince
          dsimp only at hcalls
          exact htold (List.eq_nil_of_length_eq_zero (by omega))
  | _ => exact absurd rfl horderly

/-- **The life cycle is kept** throughout a run exactly when, at the end of every exchange that
brings a token, those who are registered are called if it replaces another one, and nothing is
left to do if the manager was disposed of. -/
theorem lifeCycle_iff {certificate : Bool} {ops : List Op}
    (h : exec step (start certificate) ops = some m) :
    (∀ ks rest t, ops = ks ++ rest → exec step (start certificate) ks = some t → t.LifeCycle) ↔
      Along step (fun m op => m.Orderly op = true) (start certificate) ops :=
  forall_reached_iff_along (I := Invariant) (fun _ hinv => hinv.lifeCycle)
    (fun _ _ _ hinv horderly hstep => hinv.step horderly hstep)
    (fun _ _ _ hinv horderly hstep => hinv.not_lifeCycle horderly hstep)
    (invariant_start certificate) h

/-- A token is refreshed by the timer, one listener is told, and the manager is disposed of. -/
def refreshed : List Op :=
  [.onRefresh 7, .get 100, .get 100, .challenge 0 (some "challenge-a"),
    .token 0 (some ⟨true, some "token-a", some 400000, some 340000⟩) 100, .get 339999, .timer 0 340000,
    .challenge 1 (some "challenge-b"),
    .token 1 (some ⟨true, some "token-b", some 700000, none⟩) 340000, .dispose]

theorem lifeCycle_refreshed :
    ∃ m, exec step (start true) refreshed = some m ∧ m.calls = [(1, 7)] ∧
      ∀ ks rest t, refreshed = ks ++ rest → exec step (start true) ks = some t → t.LifeCycle := by
  have hrun : ∃ m, exec step (start true) refreshed = some m ∧ m.calls = [(1, 7)] := by
    refine ⟨_, rfl, ?_⟩
    decide
  obtain ⟨m, hm, hcalls⟩ := hrun
  exact ⟨m, hm, hcalls, (lifeCycle_iff hm).mpr (by decide +kernel)⟩

/-- **A timer after `dispose`.** The manager is disposed of while its first exchange is running. -/
theorem timer_after_dispose : ¬∀ ops m, exec step (start true) ops = some m → m.LifeCycle := by
  intro hall
  have hcycle := hall [.get 0, .challenge 0 (some "challenge-a"), .dispose,
    .token 0 (some ⟨true, some "token-a", some 400000, some 340000⟩) 100] _ rfl
  exact absurd (hcycle.silent _ rfl).1 (by decide)

end AccessTokenManager

end Termd.Browser
