import Mathlib.Data.List.Basic
import Mathlib.Data.List.Perm.Basic
import Termd.Library.Transition

/-!
# Operations that load a cell and save it later

A cell is read and written by operations that run at the same time. Each loads the content, works
out what to save, and saves it in a step of its own; an operation with nothing to save is done when
it has loaded. Loads and saves of different operations may come in any order.

An operation is undisturbed if nothing is saved between its load and its save. Where all of them
are, the operations come out as if they had run one after another, in the order in which they were
done.

## Main definitions

* `Cell`: the content, and how far the operations are
* `sequentially act content operations`: the operations one after another
* `Undisturbed c l`: a save finds the content that was loaded

## Main results

* `Invariant.step`: what every undisturbed step keeps
* `exists_invariant_of_run`: undisturbed runs are sequential, and every save acts on the content that
  it replaces
-/

namespace Termd.LoadSave

variable {ι σ ρ : Type}

/-- How far an operation is. The number of saves before the load is only recorded. -/
inductive Phase (σ ρ : Type)
  | started
  | loaded (next : σ) (result : ρ) (version : ℕ)
  | done (result : ρ)

/-- The cell, its operations in the order of their start, and the saves so far: the operation, and
the content before and after. -/
structure Cell (ι σ ρ : Type) where
  content : σ
  operations : List (ι × Phase σ ρ) := []
  saves : List (ι × σ × σ) := []

inductive Step (ι : Type)
  | start (operation : ι)
  | load (index : ℕ)
  | save (index : ℕ)

section

-- what an operation saves, if it saves anything, and what it returns
variable (act : ι → σ → Option σ × ρ)

namespace Cell

variable (c : Cell ι σ ρ)

def setPhase (index : ℕ) (operation : ι) (phase : Phase σ ρ) : Cell ι σ ρ :=
  { c with operations := c.operations.set index (operation, phase) }

def load (index : ℕ) (operation : ι) : Cell ι σ ρ :=
  match act operation c.content with
  | (none, result) => c.setPhase index operation (.done result)
  | (some next, result) => c.setPhase index operation (.loaded next result c.saves.length)

def save (index : ℕ) (operation : ι) (next : σ) (result : ρ) : Cell ι σ ρ :=
  { c.setPhase index operation (.done result) with
    content := next, saves := c.saves ++ [(operation, c.content, next)] }

def step : Step ι → Option (Cell ι σ ρ)
  | .start operation => some { c with operations := c.operations ++ [(operation, .started)] }
  | .load index =>
    match c.operations[index]? with
    | some (operation, .started) => some (c.load act index operation)
    | _ => none
  | .save index =>
    match c.operations[index]? with
    | some (operation, .loaded next result _) => some (c.save index operation next result)
    | _ => none

/-- The operations that are done, with their results. -/
def done : List (ι × ρ) :=
  c.operations.filterMap fun entry =>
    match entry.2 with
    | .done result => some (entry.1, result)
    | _ => none

/-- A save finds the content that its operation has loaded. -/
def Undisturbed : Step ι → Bool
  | .save index =>
    match c.operations[index]? with
    | some (_, .loaded _ _ version) => version = c.saves.length
    | _ => true
  | _ => true

end Cell

/-- The operations one after another: the content behind them, and their results. -/
def sequentially : σ → List ι → σ × List ρ
  | content, [] => (content, [])
  | content, operation :: operations =>
    let (next, result) := act operation content
    let (last, results) := sequentially (next.getD content) operations
    (last, result :: results)

end

/-! ### One operation after another -/

section Sequential

variable {act : ι → σ → Option σ × ρ}

theorem sequentially_cons (content : σ) (operation : ι) (operations : List ι) :
    sequentially act content (operation :: operations) =
      ((sequentially act ((act operation content).1.getD content) operations).1,
        (act operation content).2 ::
          (sequentially act ((act operation content).1.getD content) operations).2) := rfl

theorem sequentially_concat {content content' : σ} {operations : List ι} {results : List ρ}
    (h : sequentially act content operations = (content', results)) (operation : ι) :
    sequentially act content (operations ++ [operation]) =
      ((act operation content').1.getD content', results ++ [(act operation content').2]) := by
  induction operations generalizing content results with
  | nil =>
    cases h
    rfl
  | cons first operations ih =>
    rw [sequentially_cons] at h
    obtain ⟨hcontent, rfl⟩ := Prod.mk.inj h
    have hrest := ih (Prod.ext hcontent rfl)
    rw [List.cons_append, sequentially_cons, hrest]
    rfl

end Sequential

/-! ### Undisturbed runs -/

namespace Cell

variable {act : ι → σ → Option σ × ρ} {initial : σ} {c c' : Cell ι σ ρ} {l : Step ι}

theorem step_cases (h : c.step act l = some c') :
    (∃ operation, l = .start operation ∧
      c' = { c with operations := c.operations ++ [(operation, .started)] }) ∨
    (∃ index operation, l = .load index ∧ c.operations[index]? = some (operation, Phase.started) ∧
      c' = c.load act index operation) ∨
    (∃ index operation next result version, l = .save index ∧
      c.operations[index]? = some (operation, Phase.loaded next result version) ∧
      c' = c.save index operation next result) := by
  cases l with
  | start operation => exact .inl ⟨operation, rfl, (Option.some.inj h).symm⟩
  | load index =>
    rw [step] at h
    split at h
    next operation hphase =>
      exact .inr (.inl ⟨index, operation, rfl, hphase, (Option.some.inj h).symm⟩)
    next => cases h
  | save index =>
    rw [step] at h
    split at h
    next operation next result version hphase =>
      exact .inr (.inr ⟨index, operation, next, result, version, rfl, hphase,
        (Option.some.inj h).symm⟩)
    next => cases h

/-- The operations that are done, in the order in which they were. -/
structure Invariant (act : ι → σ → Option σ × ρ) (initial : σ) (c : Cell ι σ ρ)
    (finished : List (ι × ρ)) : Prop where
  perm : finished.Perm c.done
  sequential : sequentially act initial (finished.map Prod.fst) =
    (c.content, finished.map Prod.snd)
  /-- An operation that loaded the present content will save what it has made of it. -/
  loaded : ∀ (index : ℕ) (operation : ι) (next : σ) (result : ρ) (version : ℕ),
    c.operations[index]? = some (operation, Phase.loaded next result version) →
      version ≤ c.saves.length ∧
        (version = c.saves.length → act operation c.content = (some next, result))
  saves : ∀ entry ∈ c.saves, (act entry.1 entry.2.1).1 = some entry.2.2

theorem invariant_new (act : ι → σ → Option σ × ρ) (initial : σ) :
    Invariant act initial { content := initial } [] where
  perm := .refl _
  sequential := rfl
  loaded _ _ _ _ _ h := by cases h
  saves _ h := by cases h

/-- What is done after one more operation is. -/
theorem done_set {operations : List (ι × Phase σ ρ)} {index : ℕ} {operation : ι}
    {phase : Phase σ ρ} (hphase : operations[index]? = some (operation, phase))
    (hopen : ∀ result, phase ≠ .done result) (result : ρ) :
    (operations.set index (operation, .done result)).filterMap (fun entry =>
        match entry.2 with
        | .done result => some (entry.1, result)
        | _ => none) |>.Perm
      ((operation, result) :: operations.filterMap fun entry =>
        match entry.2 with
        | .done result => some (entry.1, result)
        | _ => none) := by
  induction operations generalizing index with
  | nil => cases hphase
  | cons first operations ih =>
    cases index with
    | zero =>
      obtain rfl := Option.some.inj hphase
      cases phase with
      | done other => exact absurd rfl (hopen other)
      | started => exact .refl _
      | loaded => exact .refl _
    | succ index =>
      have hrest := ih hphase
      obtain ⟨other, otherPhase⟩ := first
      cases otherPhase with
      | done other => exact (hrest.cons _).trans (.swap ..)
      | started => exact hrest
      | loaded => exact hrest

/-- What is done is the same after an open operation has gone on. -/
theorem done_setPhase_open {index : ℕ} {operation : ι} {phase phase' : Phase σ ρ}
    (hphase : c.operations[index]? = some (operation, phase))
    (hopen : ∀ result, phase ≠ .done result) (hopen' : ∀ result, phase' ≠ .done result) :
    (c.setPhase index operation phase').done = c.done := by
  obtain ⟨content, operations, saves⟩ := c
  rw [done, done, setPhase]
  dsimp only at hphase ⊢
  induction operations generalizing index with
  | nil => cases hphase
  | cons first operations ih =>
    cases index with
    | zero =>
      obtain rfl := Option.some.inj hphase
      cases phase with
      | done other => exact absurd rfl (hopen other)
      | started =>
        cases phase' with
        | done other => exact absurd rfl (hopen' other)
        | started => rfl
        | loaded => rfl
      | loaded =>
        cases phase' with
        | done other => exact absurd rfl (hopen' other)
        | started => rfl
        | loaded => rfl
    | succ index =>
      rw [List.set_cons_succ, List.filterMap_cons, List.filterMap_cons, ih hphase]

/-- The phases of the other operations. -/
theorem loaded_of_setPhase {index other : ℕ} {operation operation' : ι} {phase : Phase σ ρ}
    {next : σ} {result : ρ} {version : ℕ}
    (h : (c.setPhase index operation phase).operations[other]? =
      some (operation', Phase.loaded next result version)) :
    c.operations[other]? = some (operation', Phase.loaded next result version) ∨
      operation' = operation ∧ phase = Phase.loaded next result version := by
  rw [setPhase, List.getElem?_set] at h
  split_ifs at h with heq
  · obtain ⟨rfl, rfl⟩ := Prod.mk.inj (Option.some.inj h)
    exact .inr ⟨rfl, rfl⟩
  · exact .inl h

namespace Invariant

variable {finished : List (ι × ρ)} (h : Invariant act initial c finished)
include h

theorem start (operation : ι) : Invariant act initial
    { c with operations := c.operations ++ [(operation, .started)] } finished where
  perm := by
    have hdone : done { c with operations := c.operations ++ [(operation, .started)] } = c.done := by
      simp [done]
    rw [hdone]
    exact h.perm
  sequential := h.sequential
  loaded index operation' next result version hphase := by
    rw [List.getElem?_append] at hphase
    split_ifs at hphase with hlt
    · exact h.loaded index operation' next result version hphase
    · obtain ⟨-, hloaded⟩ := Prod.mk.inj (List.mem_singleton.mp (List.mem_of_getElem? hphase))
      cases hloaded
  saves := h.saves

/-- An operation is done behind all those that were done before. -/
theorem perm_setPhase {index : ℕ} {operation : ι} {phase : Phase σ ρ}
    (hphase : c.operations[index]? = some (operation, phase))
    (hopen : ∀ result, phase ≠ .done result) (result : ρ) :
    (finished ++ [(operation, result)]).Perm (c.setPhase index operation (.done result)).done :=
  (List.perm_append_singleton _ _).trans
    ((h.perm.cons _).trans (done_set hphase hopen result).symm)

theorem load {index : ℕ} {operation : ι}
    (hphase : c.operations[index]? = some (operation, Phase.started)) :
    ∃ finished', Invariant act initial (c.load act index operation) finished' := by
  have hopen (result : ρ) : (.started : Phase σ ρ) ≠ .done result := nofun
  rw [Cell.load]
  split
  next result hact =>
    -- nothing to save: the operation is done
    refine ⟨finished ++ [(operation, result)], h.perm_setPhase hphase hopen result, ?_, ?_, h.saves⟩
    · rw [List.map_append, List.map_append]
      refine (sequentially_concat h.sequential operation).trans ?_
      rw [hact]
      rfl
    · intro other operation' next result' version hother
      rcases loaded_of_setPhase hother with hother | ⟨-, hphase'⟩
      · exact h.loaded other operation' next result' version hother
      · cases hphase'
  next next result hact =>
    refine ⟨finished, ?_, h.sequential, ?_, h.saves⟩
    · rw [done_setPhase_open hphase hopen fun _ hdone => by cases hdone]
      exact h.perm
    · intro other operation' next' result' version hother
      rcases loaded_of_setPhase hother with hother | ⟨rfl, hphase'⟩
      · exact h.loaded other operation' next' result' version hother
      · cases hphase'
        exact ⟨Nat.le_refl _, fun _ => hact⟩

theorem save {index : ℕ} {operation : ι} {next : σ} {result : ρ}
    (hphase : c.operations[index]? = some (operation, Phase.loaded next result c.saves.length)) :
    Invariant act initial (c.save index operation next result)
      (finished ++ [(operation, result)]) where
  perm := h.perm_setPhase hphase (fun _ => nofun) result
  sequential := by
    have hact := (h.loaded index operation next result _ hphase).2 rfl
    rw [List.map_append, List.map_append]
    refine (sequentially_concat h.sequential operation).trans ?_
    rw [hact]
    rfl
  loaded other operation' next' result' version hother := by
    have hlength : (c.save index operation next result).saves.length = c.saves.length + 1 := by
      simp [Cell.save]
    rcases loaded_of_setPhase hother with hother | ⟨-, hphase'⟩
    · have hle := (h.loaded other operation' next' result' version hother).1
      exact ⟨by omega, fun heq => by omega⟩
    · cases hphase'
  saves entry hentry := by
    rcases List.mem_append.mp hentry with hentry | hentry
    · exact h.saves entry hentry
    · obtain rfl := List.mem_singleton.mp hentry
      exact congrArg Prod.fst ((h.loaded index operation next result _ hphase).2 rfl)

/-- **What every undisturbed step keeps.** -/
theorem step (hl : c.Undisturbed l = true) (hstep : c.step act l = some c') :
    ∃ finished', Invariant act initial c' finished' := by
  obtain ⟨operation, rfl, rfl⟩ | ⟨index, operation, rfl, hphase, rfl⟩ |
    ⟨index, operation, next, result, version, rfl, hphase, rfl⟩ := step_cases hstep
  · exact ⟨finished, h.start operation⟩
  · exact h.load hphase
  · rw [Undisturbed, hphase] at hl
    obtain rfl := of_decide_eq_true hl
    exact ⟨_, h.save hphase⟩

end Invariant

end Cell

/-- **Undisturbed runs are sequential**, in the order in which the operations were done. -/
theorem exists_invariant_of_run {act : ι → σ → Option σ × ρ} {initial : σ} {c : Cell ι σ ρ}
    {ls : List (Step ι)} (hrun : exec (Cell.step act) { content := initial } ls = some c)
    (hls : Along (Cell.step act) (fun c l => c.Undisturbed l = true) { content := initial } ls) :
    ∃ finished, c.Invariant act initial finished :=
  exec_induction_along (I := fun c : Cell ι σ ρ => ∃ finished, c.Invariant act initial finished)
    (fun _ _ _ ⟨_, h⟩ hl hstep => h.step hl hstep) ⟨[], Cell.invariant_new act initial⟩ hls hrun

end Termd.LoadSave
