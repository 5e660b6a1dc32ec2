import Termd.State.Store

/-!
# Push subscriptions

A device has at most one subscription, and an endpoint belongs to at most one device: a device that
registers an endpoint takes it from the device that has it. A device is its text.

## Main definitions

* `PushSubscription`, `StoredPushSubscription`
* `Subscriptions`: the table
* `upsertSubscription`, `removeSubscriptionIfEndpoint`: the writers
* `listStoredSubscriptions`: the reader

## Main results

* `Subscriptions.Unique.upsert`, `Subscriptions.Unique.pruned`: an endpoint belongs to one device
-/

namespace Termd.State

inductive PushNotificationMode
  | attention
  | all
deriving DecidableEq

inductive PushNotificationLocale
  | zhCn
  | enUs
deriving DecidableEq

structure PushSubscription where
  endpoint : String
  p256dh : String
  auth : String
  mode : PushNotificationMode
  locale : PushNotificationLocale
  updatedAtMs : ℕ
deriving DecidableEq

structure StoredPushSubscription where
  deviceId : String
  subscription : PushSubscription
deriving DecidableEq

/-- A row of `web_push_subscriptions`; the columns of the mode and of the locale are checked. -/
structure SubscriptionRow where
  endpoint : String
  p256dh : String
  auth : String
  mode : PushNotificationMode
  locale : PushNotificationLocale
  updatedAtMs : ℤ
deriving DecidableEq

abbrev Subscriptions := Table String SubscriptionRow

def PushSubscription.row (subscription : PushSubscription) : SubscriptionRow where
  endpoint := subscription.endpoint
  p256dh := subscription.p256dh
  auth := subscription.auth
  mode := subscription.mode
  locale := subscription.locale
  updatedAtMs := toI64 subscription.updatedAtMs

namespace Subscriptions

variable (t : Subscriptions)

/-- `DELETE … WHERE endpoint = ? AND device_id <> ?` -/
def takeEndpoint (deviceId endpoint : String) : Subscriptions :=
  t.retain fun id row => if row.endpoint = endpoint ∧ id ≠ deviceId then none else some row

/-- The column of the endpoints is `UNIQUE`. -/
def insertSubscription (deviceId : String) (subscription : PushSubscription) : Option Subscriptions :=
  if (t.select fun id row => if row.endpoint = subscription.endpoint ∧ id ≠ deviceId then some id
    else none) = [] then some (t.insert deviceId subscription.row)
  else none

def upsertSubscription (fault : Option Fault) (deviceId : String) (subscription : PushSubscription) :
    Subscriptions × Outcome :=
  transaction fault
    [fun t => some (takeEndpoint t deviceId subscription.endpoint),
      fun t => insertSubscription t deviceId subscription] t

def removeSubscriptionIfEndpoint (fault : Option Fault) (deviceId endpoint : String) :
    Subscriptions × Outcome :=
  transaction fault [fun t => some (t.deleteWhere deviceId fun row => row.endpoint = endpoint)] t

def parseSubscription (row : SubscriptionRow) : Option PushSubscription :=
  if row.updatedAtMs < 0 then none
  else some ⟨row.endpoint, row.p256dh, row.auth, row.mode, row.locale, row.updatedAtMs.toNat⟩

def listStoredSubscriptions : Option (List StoredPushSubscription) :=
  (t.entries.insertionSort fun a b => a.1 ≤ b.1).mapM fun entry =>
    (parseSubscription entry.2).map (StoredPushSubscription.mk entry.1)

/-! ### One device for an endpoint -/

def Unique : Prop := ∀ d d' row row', t.lookup d = some row → t.lookup d' = some row' →
  row.endpoint = row'.endpoint → d = d'

variable {t} {t' : Subscriptions} {deviceId : String} {subscription : PushSubscription}

theorem Unique.pruned (h : Unique t) (hpruned : t.Pruned t') : Unique t' :=
  fun d d' row row' hrow hrow' =>
    h d d' row row' (hpruned.lookup_eq_some hrow) (hpruned.lookup_eq_some hrow')

theorem eq_of_insertSubscription (h : insertSubscription t deviceId subscription = some t') :
    t' = t.insert deviceId subscription.row := by
  rw [insertSubscription] at h
  split_ifs at h
  exact (Option.some.inj h).symm

/-- The rows after a registration. -/
theorem lookup_upsertSubscription {fault : Option Fault} {outcome : Outcome}
    (h : upsertSubscription t fault deviceId subscription = (t', outcome)) :
    (outcome = .committed ∧ t'.lookup deviceId = some subscription.row ∧
      ∀ d ≠ deviceId, t'.lookup d = (t.lookup d).filter fun row =>
        row.endpoint ≠ subscription.endpoint) ∨
      (outcome ≠ .committed ∧ t' = t) := by
  rcases transaction_cases h with ⟨hdone, -, hbody⟩ | hfailed
  · refine .inl ⟨hdone, ?_⟩
    rw [List.foldlM_cons] at hbody
    obtain ⟨t₁, ht₁, hbody⟩ := Option.bind_eq_some_iff.mp hbody
    rw [List.foldlM_cons] at hbody
    obtain ⟨t₂, ht₂, hnil⟩ := Option.bind_eq_some_iff.mp hbody
    obtain rfl := Option.some.inj ht₁
    obtain rfl := Option.some.inj hnil
    obtain rfl := eq_of_insertSubscription ht₂
    refine ⟨AList.lookup_insert _, fun d hd => ?_⟩
    rw [AList.lookup_insert_ne hd, takeEndpoint, Table.lookup_retain]
    cases t.lookup d with
    | none => rfl
    | some row =>
      by_cases hendpoint : row.endpoint = subscription.endpoint <;>
        simp [Option.filter_some, hendpoint, hd]
  · exact .inr hfailed

theorem Unique.upsert (h : Unique t) (fault : Option Fault) (deviceId : String)
    (subscription : PushSubscription) :
    Unique (upsertSubscription t fault deviceId subscription).1 := by
  cases hupsert : upsertSubscription t fault deviceId subscription with
  | mk t' outcome =>
    rcases lookup_upsertSubscription hupsert with ⟨-, hself, hothers⟩ | ⟨-, rfl⟩
    · -- the endpoint was taken from every other device
      have hother (d : String) (hd : d ≠ deviceId) (row : SubscriptionRow)
          (hrow : t'.lookup d = some row) :
          t.lookup d = some row ∧ row.endpoint ≠ subscription.endpoint := by
        rw [hothers d hd, Option.filter_eq_some_iff, decide_eq_true_eq] at hrow
        exact hrow
      intro d d' row row' hrow hrow' heq
      by_cases hd : d = deviceId
      · by_cases hd' : d' = deviceId
        · rw [hd, hd']
        · subst hd
          obtain rfl := Option.some.inj (hself.symm.trans hrow)
          exact absurd heq.symm (hother d' hd' row' hrow').2
      · by_cases hd' : d' = deviceId
        · subst hd'
          obtain rfl := Option.some.inj (hself.symm.trans hrow')
          exact absurd heq (hother d hd row hrow).2
        · exact h d d' row row' (hother d hd row hrow).1 (hother d' hd' row' hrow').1 heq
    · exact h

theorem pruned_removeSubscriptionIfEndpoint (t : Subscriptions) (fault : Option Fault)
    (deviceId endpoint : String) :
    t.Pruned (removeSubscriptionIfEndpoint t fault deviceId endpoint).1 := by
  refine transaction_keeps (P := t.Pruned) (.refl t) (fun t' hbody => ?_) fault
  rw [List.foldlM_cons] at hbody
  obtain ⟨t₁, ht₁, hnil⟩ := Option.bind_eq_some_iff.mp hbody
  obtain rfl := Option.some.inj ht₁
  obtain rfl := Option.some.inj hnil
  exact Table.pruned_deleteWhere t deviceId fun row => row.endpoint = endpoint

end Subscriptions

end Termd.State
