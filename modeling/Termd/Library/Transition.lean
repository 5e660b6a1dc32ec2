import Mathlib.Data.List.Basic

/-!
# Labelled transition systems

A system is a partial step function: a label is enabled in a state when its step is defined.
A run executes a list of labels; an interleaving of concurrent parties is a run whose labels
name the party that moves.

## Main definitions

* `exec step s ls`: the state after the labels `ls`, if every one was enabled
* `Along step P s ls`: every step of the run is taken in a state where `P` allows it

## Main results

* `exec_induction`: an invariant of every step holds in every reached state
* `exec_induction_along`: the same for the runs along which a guard holds
* `forall_reached_iff_along`: a guard that is exact for a property
* `along_iff_forall_front`: a guard holds along a run exactly when it holds before every step
-/

namespace Termd

variable {σ ℓ : Type*}

/-- The state after a run, if every label was enabled. -/
def exec (step : σ → ℓ → Option σ) : σ → List ℓ → Option σ
  | s, [] => some s
  | s, l :: ls => (step s l).bind fun s' => exec step s' ls

/-- Every step of the run is taken in a state where `P` allows it. -/
def Along (step : σ → ℓ → Option σ) (P : σ → ℓ → Prop) : σ → List ℓ → Prop
  | _, [] => True
  | s, l :: ls => P s l ∧ ∀ s', step s l = some s' → Along step P s' ls

variable {step : σ → ℓ → Option σ}

@[simp] theorem exec_nil (s : σ) : exec step s [] = some s := rfl

theorem exec_cons (s : σ) (l : ℓ) (ls : List ℓ) :
    exec step s (l :: ls) = (step s l).bind fun s' => exec step s' ls := rfl

theorem exec_append (s : σ) (ls ks : List ℓ) :
    exec step s (ls ++ ks) = (exec step s ls).bind fun s' => exec step s' ks := by
  induction ls generalizing s with
  | nil => rfl
  | cons l ls ih =>
    rw [List.cons_append, exec_cons, exec_cons]
    cases step s l with
    | none => rfl
    | some s' => exact ih s'

theorem exec_snoc (s : σ) (ls : List ℓ) (l : ℓ) :
    exec step s (ls ++ [l]) = (exec step s ls).bind fun s' => step s' l := by
  rw [exec_append]
  congr 1
  funext s'
  cases h : step s' l <;> simp [exec_cons, h]

/-- A run that comes back to its state can be repeated. -/
theorem exec_flatten_replicate {s : σ} {ls : List ℓ} (h : exec step s ls = some s) (n : ℕ) :
    exec step s (List.replicate n ls).flatten = some s := by
  induction n with
  | zero => rfl
  | succ n ih =>
    rw [List.replicate_succ, List.flatten_cons, exec_append, h]
    exact ih

/-- **The invariant rule**: what every step keeps, every run keeps. -/
theorem exec_induction {I : σ → Prop} (hstep : ∀ s l s', I s → step s l = some s' → I s')
    {s s' : σ} {ls : List ℓ} (hs : I s) (hr : exec step s ls = some s') : I s' := by
  induction ls generalizing s with
  | nil => exact Option.some.inj hr ▸ hs
  | cons l ls ih =>
    obtain ⟨t, ht, hr⟩ := Option.bind_eq_some_iff.mp hr
    exact ih (hstep s l t hs ht) hr

/-- **The guarded invariant rule**: what every allowed step keeps, every run of allowed steps
keeps. -/
theorem exec_induction_along {I : σ → Prop} {P : σ → ℓ → Prop}
    (hstep : ∀ s l s', I s → P s l → step s l = some s' → I s')
    {s s' : σ} {ls : List ℓ} (hs : I s) (hP : Along step P s ls)
    (hr : exec step s ls = some s') : I s' := by
  induction ls generalizing s with
  | nil => exact Option.some.inj hr ▸ hs
  | cons l ls ih =>
    obtain ⟨t, ht, hr⟩ := Option.bind_eq_some_iff.mp hr
    exact ih (hstep s l t hs hP.1 ht) (hP.2 t ht) hr

/-- Along a run a decidable guard is checked by running it. -/
instance decidableAlong {P : σ → ℓ → Prop} [∀ s l, Decidable (P s l)] :
    ∀ (s : σ) (ls : List ℓ), Decidable (Along step P s ls)
  | _, [] => .isTrue trivial
  | s, l :: ls =>
    match h : step s l with
    | none => decidable_of_iff (P s l) (by simp [Along, h])
    | some s' =>
      have : Decidable (Along step P s' ls) := decidableAlong s' ls
      decidable_of_iff (P s l ∧ Along step P s' ls) (by simp [Along, h])

theorem along_append {P : σ → ℓ → Prop} {s : σ} {ls ks : List ℓ} :
    Along step P s (ls ++ ks) ↔
      Along step P s ls ∧ ∀ t, exec step s ls = some t → Along step P t ks := by
  induction ls generalizing s with
  | nil =>
    constructor
    · rintro h
      refine ⟨trivial, ?_⟩
      rintro _ ⟨⟩
      exact h
    · exact fun h => h.2 s rfl
  | cons l ls ih =>
    constructor
    · rintro ⟨hP, hrest⟩
      refine ⟨⟨hP, fun s' hs' => (ih.mp (hrest s' hs')).1⟩, fun t ht => ?_⟩
      obtain ⟨s', hs', ht⟩ := Option.bind_eq_some_iff.mp ht
      exact (ih.mp (hrest s' hs')).2 t ht
    · rintro ⟨⟨hP, hrest⟩, hks⟩
      refine ⟨hP, fun s' hs' => ih.mpr ⟨hrest s' hs', fun t ht => hks t ?_⟩⟩
      rw [exec_cons, hs']
      exact ht

/-- A guard that every label of a run meets in every state holds along the run. -/
theorem along_of_forall_mem {P : σ → ℓ → Prop} {s : σ} {ls : List ℓ}
    (h : ∀ l ∈ ls, ∀ s, P s l) : Along step P s ls := by
  induction ls generalizing s with
  | nil => trivial
  | cons l ls ih =>
    exact ⟨h l List.mem_cons_self s, fun s' _ => ih fun k hk => h k (List.mem_cons_of_mem _ hk)⟩

/-- A guard holds along a run exactly when it holds before every step of it. -/
theorem along_iff_forall_front {P : σ → ℓ → Prop} {s : σ} {ls : List ℓ} :
    Along step P s ls ↔
      ∀ ks l rest t, ls = ks ++ l :: rest → exec step s ks = some t → P t l := by
  induction ls generalizing s with
  | nil => simp [Along]
  | cons l ls ih =>
    constructor
    · rintro ⟨hP, hrest⟩ ks k rest t hks ht
      cases ks with
      | nil =>
        obtain ⟨rfl, rfl⟩ := List.cons.inj hks
        exact Option.some.inj ht ▸ hP
      | cons k' ks =>
        obtain ⟨rfl, htail⟩ := List.cons.inj hks
        obtain ⟨s', hs', ht⟩ := Option.bind_eq_some_iff.mp ht
        exact ih.mp (hrest s' hs') ks k rest t htail ht
    · intro h
      refine ⟨h [] l ls s rfl rfl, fun s' hs' => ih.mpr fun ks k rest t hks ht => ?_⟩
      refine h (l :: ks) k rest t (by rw [hks]; rfl) ?_
      rw [exec_cons, hs']
      exact ht

/-- **The exact guard rule**: if allowed steps keep an invariant that implies `Q`, and every
other step breaks `Q`, then `Q` holds throughout a run exactly when the run is allowed. -/
theorem forall_reached_iff_along {I Q : σ → Prop} {P : σ → ℓ → Prop}
    (himp : ∀ s, I s → Q s)
    (hkeep : ∀ s l s', I s → P s l → step s l = some s' → I s')
    (hbreak : ∀ s l s', I s → ¬ P s l → step s l = some s' → ¬ Q s')
    {s t : σ} {ls : List ℓ} (hs : I s) (hr : exec step s ls = some t) :
    (∀ ks rest t, ls = ks ++ rest → exec step s ks = some t → Q t) ↔ Along step P s ls := by
  induction ls generalizing s with
  | nil =>
    refine ⟨fun _ => trivial, fun _ ks rest t hks ht => ?_⟩
    obtain ⟨rfl, rfl⟩ := List.append_eq_nil_iff.mp hks.symm
    exact Option.some.inj ht ▸ himp s hs
  | cons l ls ih =>
    obtain ⟨s', hs', hr⟩ := Option.bind_eq_some_iff.mp hr
    constructor
    · intro hQ
      have hP : P s l := by
        by_contra hP
        refine hbreak s l s' hs hP hs' (hQ [l] ls s' rfl ?_)
        rw [exec_cons, hs']
        rfl
      refine ⟨hP, fun s₁ hs₁ => ?_⟩
      obtain rfl : s' = s₁ := Option.some.inj (hs'.symm.trans hs₁)
      refine (ih (hkeep s l s' hs hP hs') hr).mp fun ks rest t hks ht => ?_
      refine hQ (l :: ks) rest t (by rw [hks]; rfl) ?_
      rw [exec_cons, hs']
      exact ht
    · rintro ⟨hP, hrest⟩ ks rest t hks ht
      cases ks with
      | nil => exact Option.some.inj ht ▸ himp s hs
      | cons k ks =>
        obtain ⟨rfl, htail⟩ := List.cons.inj hks
        rw [exec_cons, hs', Option.bind_some] at ht
        exact (ih (hkeep s l s' hs hP hs') hr).mpr (hrest s' hs') ks rest t htail ht

end Termd
