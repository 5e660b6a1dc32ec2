import Termd.Library.Traverse
import Termd.Library.Transition
import Termd.State.WebPush

/-!
# The delivery of push notifications

One worker delivers the events: it reads the subscriptions, sends the event to each of them in turn,
and removes a subscription that cannot be used or that the provider does not know any more. Meanwhile
devices register and remove subscriptions. A subscription is removed if its device still has its
endpoint; its keys are not compared, so that a device that registers the endpoint again with new keys
loses them.

## Main definitions

* `Worker`: how far the worker is with its list
* `PushSystem`: the table and the worker, with what was registered and removed so far
* `PushSystem.step`: a step of a handler or of the worker
* `PushSystem.Careful`: no device registers the endpoint again that the worker has of it
* `PushSystem.Deletion.Tested`: what was removed is what was tested

## Main results

* `PushSystem.cleanup_removes_tested`: when only what was tested is removed
* `PushSystem.cleanup_removes_new_keys`: new keys are removed
-/

namespace Termd.State

open Subscriptions

inductive SessionActivityState
  | running
  | attention
  | idle
  | completed
deriving DecidableEq

/-- What the requests are built from; the session and its name are left to `builds`. -/
structure ActivityEvent where
  sessionId : String
  sessionName : String
  state : SessionActivityState
deriving DecidableEq

def subscriptionAcceptsEvent (mode : PushNotificationMode) (state : SessionActivityState) : Bool :=
  match mode with
  | .attention => state = .attention
  | .all => true

/-- How far the worker is with its list, which was read after `listedAt` registrations. -/
inductive Worker
  | idle
  | delivering (event : ActivityEvent) (remaining : List StoredPushSubscription) (listedAt : ℕ)
  | sending (event : ActivityEvent) (stored : StoredPushSubscription)
    (remaining : List StoredPushSubscription) (listedAt : ℕ)
  | removing (event : ActivityEvent) (stored : StoredPushSubscription)
    (remaining : List StoredPushSubscription) (listedAt : ℕ)
deriving DecidableEq

namespace Worker

/-- The subscriptions that the worker is not done with. -/
def pending : Worker → List StoredPushSubscription
  | idle => []
  | delivering _ remaining _ => remaining
  | sending _ stored remaining _ | removing _ stored remaining _ => stored :: remaining

def listedAt : Worker → ℕ
  | idle => 0
  | delivering _ _ n | sending _ _ _ n | removing _ _ _ n => n

end Worker

namespace PushSystem

/-- A row that the worker removed, for the subscription that it had tested. -/
structure Deletion where
  stored : StoredPushSubscription
  row : SubscriptionRow
  /-- The number of registrations up to that of the row -/
  registered : ℕ
  listedAt : ℕ
deriving DecidableEq

/-- The row is the one that was tested, and it was not registered after the list was read. -/
structure Deletion.Tested (d : Deletion) : Prop where
  endpoint_eq : d.row.endpoint = d.stored.subscription.endpoint
  p256dh_eq : d.row.p256dh = d.stored.subscription.p256dh
  auth_eq : d.row.auth = d.stored.subscription.auth
  registered_le : d.registered ≤ d.listedAt

end PushSystem

/-- The table and the worker; the last three fields say what happened so far. -/
structure PushSystem where
  table : Subscriptions := ∅
  worker : Worker := .idle
  registrations : ℕ := 0
  registered : String → ℕ := fun _ => 0
  deletions : List PushSystem.Deletion := []

namespace PushSystem

inductive Op
  | upsert (fault : Option Fault) (deviceId : String) (subscription : PushSubscription)
  | remove (fault : Option Fault) (deviceId endpoint : String)
  /-- The worker takes an event and reads the list, which may fail. -/
  | receive (event : ActivityEvent) (readable : Bool)
  /-- The worker goes on to the next subscription. -/
  | advance
  /-- The provider answers with a status, or it cannot be reached. -/
  | respond (status : Option ℕ)
  /-- The worker removes a subscription. -/
  | clean (fault : Option Fault)

/-- `remove_subscription_if_current` -/
def removeSubscriptionIfCurrent (s : PushSystem) (fault : Option Fault)
    (stored : StoredPushSubscription) (listedAt : ℕ) : PushSystem :=
  let endpoint := stored.subscription.endpoint
  match removeSubscriptionIfEndpoint s.table fault stored.deviceId endpoint with
  | (table, .committed) =>
    { s with
      table
      deletions := match (s.table.lookup stored.deviceId).filter fun row => row.endpoint = endpoint with
        | some row => ⟨stored, row, s.registered stored.deviceId, listedAt⟩ :: s.deletions
        | none => s.deletions }
  | (table, _) => { s with table }

/-- A step. `builds` says whether a request can be built. -/
def step (builds : PushSubscription → ActivityEvent → Bool) (s : PushSystem) : Op → Option PushSystem
  | .upsert fault deviceId subscription =>
    match upsertSubscription s.table fault deviceId subscription with
    | (table, .committed) =>
      some { s with
        table
        registrations := s.registrations + 1
        registered := Function.update s.registered deviceId (s.registrations + 1) }
    | (table, _) => some { s with table }
  | .remove fault deviceId endpoint =>
    some { s with table := (removeSubscriptionIfEndpoint s.table fault deviceId endpoint).1 }
  | .receive event readable =>
    match s.worker, (if readable then listStoredSubscriptions s.table else none) with
    | .idle, some list => some { s with worker := .delivering event list s.registrations }
    | .idle, none => some s
    | _, _ => none
  | .advance =>
    match s.worker with
    | .delivering _ [] _ => some { s with worker := .idle }
    | .delivering event (stored :: remaining) listedAt =>
      some { s with worker :=
        if !subscriptionAcceptsEvent stored.subscription.mode event.state then
          .delivering event remaining listedAt
        else if builds stored.subscription event then .sending event stored remaining listedAt
        else .removing event stored remaining listedAt }
    | _ => none
  | .respond status =>
    match s.worker with
    | .sending event stored remaining listedAt =>
      some { s with worker :=
        if status = some 404 ∨ status = some 410 then .removing event stored remaining listedAt
        else .delivering event remaining listedAt }
    | _ => none
  | .clean fault =>
    match s.worker with
    | .removing event stored remaining listedAt =>
      some { s.removeSubscriptionIfCurrent fault stored listedAt with
        worker := .delivering event remaining listedAt }
    | _ => none

/-- The guard: no device registers the endpoint again that the worker still has of it. -/
def Careful (s : PushSystem) : Op → Bool
  | .upsert _ deviceId subscription => s.worker.pending.all fun stored =>
    ¬ (stored.deviceId = deviceId ∧ stored.subscription.endpoint = subscription.endpoint)
  | _ => true

/-! ### An endpoint belongs to one device -/

section Unique

variable {builds : PushSubscription → ActivityEvent → Bool} {s s' : PushSystem}

theorem pruned_removeSubscriptionIfCurrent (s : PushSystem) (fault : Option Fault)
    (stored : StoredPushSubscription) (listedAt : ℕ) :
    s.table.Pruned (s.removeSubscriptionIfCurrent fault stored listedAt).table := by
  have hpruned := pruned_removeSubscriptionIfEndpoint s.table fault stored.deviceId
    stored.subscription.endpoint
  rw [removeSubscriptionIfCurrent]
  split
  next h => rwa [h] at hpruned
  next h => rwa [h] at hpruned

theorem unique_step {op : Op} (h : Unique s.table) (hstep : step builds s op = some s') :
    Unique s'.table := by
  cases op with
  | upsert fault deviceId subscription =>
    have hunique := h.upsert fault deviceId subscription
    rw [step] at hstep
    split at hstep
    next hupsert =>
      obtain rfl := Option.some.inj hstep
      rwa [hupsert] at hunique
    next hupsert =>
      obtain rfl := Option.some.inj hstep
      rwa [hupsert] at hunique
  | remove fault deviceId endpoint =>
    obtain rfl := Option.some.inj hstep
    exact h.pruned (pruned_removeSubscriptionIfEndpoint _ fault deviceId endpoint)
  | receive event readable =>
    rw [step] at hstep
    split at hstep
    · obtain rfl := Option.some.inj hstep
      exact h
    · obtain rfl := Option.some.inj hstep
      exact h
    · cases hstep
  | advance =>
    rw [step] at hstep
    split at hstep
    · obtain rfl := Option.some.inj hstep
      exact h
    · obtain rfl := Option.some.inj hstep
      exact h
    · cases hstep
  | respond status =>
    rw [step] at hstep
    split at hstep
    · obtain rfl := Option.some.inj hstep
      exact h
    · cases hstep
  | clean fault =>
    rw [step] at hstep
    split at hstep
    next event stored remaining listedAt hworker =>
      obtain rfl := Option.some.inj hstep
      exact h.pruned (pruned_removeSubscriptionIfCurrent s fault stored listedAt)
    · cases hstep

end Unique

/-! ### What the guard keeps -/

/-- If the device of a listed subscription still has its endpoint, then it is the row that was listed. -/
def Current (t : Subscriptions) (registered : String → ℕ) (listedAt : ℕ)
    (stored : StoredPushSubscription) : Prop :=
  ∀ row, t.lookup stored.deviceId = some row → row.endpoint = stored.subscription.endpoint →
    row.p256dh = stored.subscription.p256dh ∧ row.auth = stored.subscription.auth ∧
      registered stored.deviceId ≤ listedAt

structure Invariant (s : PushSystem) : Prop where
  current : ∀ stored ∈ s.worker.pending, Current s.table s.registered s.worker.listedAt stored
  registered_le : ∀ d, s.registered d ≤ s.registrations
  tested : ∀ d ∈ s.deletions, d.Tested

section Invariant

variable {builds : PushSubscription → ActivityEvent → Bool} {s s' : PushSystem}
  {t t' : Subscriptions} {registered : String → ℕ} {listedAt : ℕ} {stored : StoredPushSubscription}

theorem Current.pruned (h : Current t registered listedAt stored) (hpruned : t.Pruned t') :
    Current t' registered listedAt stored :=
  fun row hrow => h row (hpruned.lookup_eq_some hrow)

theorem current_of_listed (hregistered : ∀ d, registered d ≤ listedAt)
    {list : List StoredPushSubscription} (hlist : listStoredSubscriptions t = some list)
    (hstored : stored ∈ list) : Current t registered listedAt stored := by
  obtain ⟨entry, hentry, hparse⟩ := mem_of_forall₂ (forall₂_of_mapM hlist) hstored
  rw [List.mem_insertionSort] at hentry
  obtain ⟨subscription, hsubscription, rfl⟩ := Option.map_eq_some_iff.mp hparse
  rw [parseSubscription] at hsubscription
  split_ifs at hsubscription
  obtain rfl := Option.some.inj hsubscription
  intro row hrow _
  obtain rfl := Option.some.inj ((AList.mem_lookup_iff.mpr hentry).symm.trans hrow)
  exact ⟨rfl, rfl, hregistered _⟩

/-- A registration with another endpoint, or of another device. -/
theorem Current.upsert (h : Current t registered listedAt stored) {fault : Option Fault}
    {deviceId : String} {subscription : PushSubscription}
    (hother : ¬ (stored.deviceId = deviceId ∧
      stored.subscription.endpoint = subscription.endpoint))
    (hupsert : upsertSubscription t fault deviceId subscription = (t', .committed)) (n : ℕ) :
    Current t' (Function.update registered deviceId n) listedAt stored := by
  obtain ⟨-, hself, hothers⟩ := (lookup_upsertSubscription hupsert).resolve_right fun hfailed =>
    hfailed.1 rfl
  intro row hrow hendpoint
  by_cases hdevice : stored.deviceId = deviceId
  · rw [hdevice, hself] at hrow
    obtain rfl := Option.some.inj hrow
    exact absurd ⟨hdevice, hendpoint.symm⟩ hother
  · rw [hothers _ hdevice, Option.filter_eq_some_iff] at hrow
    rw [Function.update_of_ne hdevice]
    exact h row hrow.1 hendpoint

/-- What the worker removes is what it tested. -/
theorem Invariant.removeSubscriptionIfCurrent (h : Invariant s) (fault : Option Fault)
    (hcurrent : Current s.table s.registered listedAt stored) :
    ∀ d ∈ (s.removeSubscriptionIfCurrent fault stored listedAt).deletions, d.Tested := by
  rw [PushSystem.removeSubscriptionIfCurrent]
  split
  · intro d hd
    dsimp only at hd
    split at hd
    next row hrow =>
      obtain ⟨hlookup, hendpoint⟩ := Option.filter_eq_some_iff.mp hrow
      rw [decide_eq_true_eq] at hendpoint
      rcases List.mem_cons.mp hd with rfl | hd
      · obtain ⟨hp256dh, hauth, hregistered⟩ := hcurrent row hlookup hendpoint
        exact ⟨hendpoint, hp256dh, hauth, hregistered⟩
      · exact h.tested d hd
    next => exact h.tested d hd
  · exact h.tested

theorem removeSubscriptionIfCurrent_frame (s : PushSystem) (fault : Option Fault)
    (stored : StoredPushSubscription) (listedAt : ℕ) :
    (s.removeSubscriptionIfCurrent fault stored listedAt).registered = s.registered ∧
      (s.removeSubscriptionIfCurrent fault stored listedAt).registrations = s.registrations := by
  rw [PushSystem.removeSubscriptionIfCurrent]
  split <;> exact ⟨rfl, rfl⟩

/-- The worker goes on, and the rest stays as it is. -/
theorem Invariant.work (h : Invariant s) {worker : Worker}
    (hpending : worker.pending ⊆ s.worker.pending) (hlisted : worker.listedAt = s.worker.listedAt) :
    Invariant { s with worker } where
  current stored hstored := by
    rw [hlisted]
    exact h.current stored (hpending hstored)
  registered_le := h.registered_le
  tested := h.tested

theorem Invariant.upsert (h : Invariant s) {fault : Option Fault} {deviceId : String}
    {subscription : PushSubscription} (hcareful : Careful s (.upsert fault deviceId subscription))
    (hstep : step builds s (.upsert fault deviceId subscription) = some s') : Invariant s' := by
  rw [step] at hstep
  split at hstep
  next hupsert =>
    obtain rfl := Option.some.inj hstep
    refine ⟨fun stored hstored => (h.current stored hstored).upsert ?_ hupsert _, fun d => ?_,
      h.tested⟩
    · exact of_decide_eq_true (List.all_eq_true.mp hcareful stored hstored)
    · have hle := h.registered_le d
      by_cases hd : d = deviceId
      · subst hd
        simp only [Function.update_self, le_refl]
      · simp only [Function.update_of_ne hd]
        omega
  next hnot hupsert =>
    obtain rfl := Option.some.inj hstep
    rcases lookup_upsertSubscription hupsert with ⟨rfl, -⟩ | ⟨-, rfl⟩
    · exact absurd rfl hnot
    · exact h

theorem Invariant.clean (h : Invariant s) {fault : Option Fault}
    (hstep : step builds s (.clean fault) = some s') : Invariant s' := by
  rw [step] at hstep
  split at hstep
  next event stored remaining listedAt hworker =>
    obtain rfl := Option.some.inj hstep
    have hcurrent (other : StoredPushSubscription) (hother : other ∈ stored :: remaining) :
        Current s.table s.registered listedAt other := by
      have hpending := h.current other
      rw [hworker] at hpending
      exact hpending hother
    obtain ⟨hregistered, hregistrations⟩ := removeSubscriptionIfCurrent_frame s fault
      stored listedAt
    refine ⟨fun other hother => ?_, fun d => ?_,
      h.removeSubscriptionIfCurrent fault (hcurrent stored List.mem_cons_self)⟩
    · rw [hregistered]
      exact (hcurrent other (List.mem_cons_of_mem _ hother)).pruned
        (pruned_removeSubscriptionIfCurrent s fault stored listedAt)
    · rw [hregistered, hregistrations]
      exact h.registered_le d
  next => cases hstep

theorem Invariant.step {op : Op} (h : Invariant s) (hcareful : Careful s op)
    (hstep : step builds s op = some s') : Invariant s' := by
  cases op with
  | upsert fault deviceId subscription => exact h.upsert hcareful hstep
  | remove fault deviceId endpoint =>
    obtain rfl := Option.some.inj hstep
    refine ⟨fun stored hstored => (h.current stored hstored).pruned ?_, h.registered_le, h.tested⟩
    exact pruned_removeSubscriptionIfEndpoint _ fault deviceId endpoint
  | receive event readable =>
    rw [PushSystem.step] at hstep
    split at hstep
    next list hworker hlist =>
      obtain rfl := Option.some.inj hstep
      split_ifs at hlist
      exact ⟨fun stored hstored => current_of_listed h.registered_le hlist hstored,
        h.registered_le, h.tested⟩
    · obtain rfl := Option.some.inj hstep
      exact h
    · cases hstep
  | advance =>
    rw [PushSystem.step] at hstep
    split at hstep
    next hworker =>
      obtain rfl := Option.some.inj hstep
      exact ⟨fun _ hstored => absurd hstored List.not_mem_nil, h.registered_le, h.tested⟩
    next event stored remaining listedAt hworker =>
      obtain rfl := Option.some.inj hstep
      refine h.work ?_ ?_
      · rw [hworker]
        split_ifs
        · exact List.subset_cons_self ..
        · exact List.Subset.refl _
        · exact List.Subset.refl _
      · rw [hworker]
        split_ifs <;> rfl
    · cases hstep
  | respond status =>
    rw [PushSystem.step] at hstep
    split at hstep
    next event stored remaining listedAt hworker =>
      obtain rfl := Option.some.inj hstep
      refine h.work ?_ ?_
      · rw [hworker]
        split_ifs
        · exact List.Subset.refl _
        · exact List.subset_cons_self ..
      · rw [hworker]
        split_ifs <;> rfl
    · cases hstep
  | clean fault => exact h.clean hstep

end Invariant

/-! ### What the worker removes -/

/-- **The worker removes what it tested.** In every state that is reached an endpoint belongs to one
device. If no device registers the endpoint again that the worker still has of it, the worker removes
exactly the subscriptions that it tested, and none that was registered after it read its list. -/
theorem cleanup_removes_tested {builds : PushSubscription → ActivityEvent → Bool} {ops : List Op}
    {s : PushSystem} (hrun : exec (step builds) {} ops = some s) :
    Unique s.table ∧
      (Along (step builds) (fun s op => Careful s op = true) {} ops → ∀ d ∈ s.deletions, d.Tested) := by
  refine ⟨exec_induction (I := fun s => Unique s.table) (fun _ _ _ => unique_step) ?_ hrun,
    fun hcareful => (exec_induction_along (I := Invariant)
      (fun _ _ _ h hcareful hstep => h.step hcareful hstep) ?_ hcareful hrun).tested⟩
  · intro d d' row row' hrow
    cases hrow
  · exact ⟨fun _ h => absurd h List.not_mem_nil, fun _ => le_rfl, fun _ h => absurd h List.not_mem_nil⟩

/-! ### New keys -/

def oldKeys : PushSubscription := ⟨"https://push.example/1", "old", "old", .all, .enUs, 1⟩

/-- The device registers the endpoint again, with new keys. -/
def newKeys : PushSubscription := ⟨"https://push.example/1", "new", "new", .all, .enUs, 2⟩

def sessionCompleted : ActivityEvent := ⟨"session", "name", .completed⟩

def tabletKeys (endpoint : String) : PushSubscription :=
  ⟨endpoint, "tablet", "tablet", .all, .enUs, 1⟩

/-- The provider knows neither subscription any more. Before the first one is removed, the tablet
registers another endpoint. -/
def gone : List Op :=
  [.upsert none "device" oldKeys, .upsert none "tablet" (tabletKeys "https://push.example/2"),
    .receive sessionCompleted true, .advance, .respond (some 410),
    .upsert none "tablet" (tabletKeys "https://push.example/3"), .clean none,
    .advance, .respond (some 410), .clean none, .advance]

/-- The one that was tested is removed, and the new one of the tablet stays. -/
theorem cleanup_removes_gone : ∃ s, exec (step fun _ _ => true) {} gone = some s ∧
    s.deletions.map (·.stored.deviceId) = ["device"] ∧
    (s.table.lookup "tablet").map (·.endpoint) = some "https://push.example/3" ∧
    Unique s.table ∧ ∀ d ∈ s.deletions, d.Tested := by
  have hend : (exec (step fun _ _ => true) {} gone).map (fun s =>
      (s.deletions.map (·.stored.deviceId), (s.table.lookup "tablet").map (·.endpoint))) =
        some (["device"], some "https://push.example/3") := by decide +kernel
  obtain ⟨s, hrun, hstate⟩ := Option.map_eq_some_iff.mp hend
  obtain ⟨hdeleted, htablet⟩ := Prod.mk.inj hstate
  obtain ⟨hunique, htested⟩ := cleanup_removes_tested hrun
  exact ⟨s, hrun, hdeleted, htablet, hunique, htested (by decide +kernel)⟩

/-- The new keys are removed for what the provider answered to the old ones. -/
theorem cleanup_removes_new_keys :
    ¬ ∀ (builds : PushSubscription → ActivityEvent → Bool) (ops : List Op) (s : PushSystem),
      exec (step builds) {} ops = some s → ∀ d ∈ s.deletions, d.Tested := by
  intro h
  have htested := h (fun _ _ => true)
    [.upsert none "device" oldKeys, .receive sessionCompleted true, .advance,
      .upsert none "device" newKeys, .respond (some 410), .clean none] _ rfl _ List.mem_cons_self
  exact absurd htested.p256dh_eq (by decide)

end PushSystem

end Termd.State
