import Termd.Library.Changes
import Termd.Pty.OscParser

/-!
# What a program in a session does

The daemon tells from the output of a session whether an agent runs in it, and whether the agent
works, waits or has finished. Events in the output say so, if the process in the foreground of the
terminal is an agent. That process is asked for now and then: at intervals, and at once where what
is known of it may be out of date.

## Main definitions

* `SessionActivityDetector.observeOutputTransitions`: the observation of a chunk of output
* `SessionActivityDetector.observeChunks`: the observation of chunks one after the other
* `SessionActivityDetector.activityValues`: the values that the activity takes on the way
* `ReportsChanges`: what the reports of an observation are

## Main results

* `activity_detection`: the reports do not depend on where the output is cut, and are the changes
-/

namespace Termd.Activity

def FOREGROUND_PROBE_MIN_INTERVAL_MS : ℕ := 100

inductive ForegroundProcess
  | agent (agent : SessionActivityAgent)
  | other
  | unknown
deriving DecidableEq

inductive EventIdentityProbeState
  | ready
  | pending
  | consumed
deriving DecidableEq

inductive SessionActivityKind
  | ai
deriving DecidableEq

inductive SessionActivityState
  | idle
  | running
  | attention
  | completed
deriving DecidableEq

structure SessionAiActivityPayload where
  kind : SessionActivityKind
  agent : SessionActivityAgent
  state : SessionActivityState
  changedAtMs : ℕ
deriving DecidableEq

/-- The fields of a detector that the rules for events change. -/
structure Tracked where
  activity : Option SessionAiActivityPayload
  completedIdentityProbePending : Bool
deriving DecidableEq

structure SessionActivityDetector extends Tracked where
  parser : BoundedOscParser
  lastForeground : ForegroundProcess
  lastForegroundProbeAtMs : Option ℕ
  eventIdentityProbeState : EventIdentityProbeState
deriving DecidableEq

/-- `SessionActivityDetector::default` -/
def SessionActivityDetector.fresh : SessionActivityDetector where
  parser := .fresh
  activity := none
  lastForeground := .unknown
  lastForegroundProbeAtMs := none
  completedIdentityProbePending := false
  eventIdentityProbeState := .ready

/-! ### The rules for events

Each says whether the activity has another agent or another state than before. -/

namespace Tracked

def transition (agent : SessionActivityAgent) (state : SessionActivityState) (nowMs : ℕ)
    (t : Tracked) : Tracked × Bool :=
  if t.activity.any fun activity => activity.agent = agent ∧ activity.state = state then (t, false)
  else
    ({ activity := some ⟨.ai, agent, state, nowMs⟩
       completedIdentityProbePending := state = .completed }, true)

def finishOrIdle (agent : SessionActivityAgent) (nowMs : ℕ) (t : Tracked) : Tracked × Bool :=
  match t.activity with
  | some activity =>
    if activity.agent = agent ∧ (activity.state = .running ∨ activity.state = .attention) then
      t.transition agent .completed nowMs
    else if activity.agent = agent ∧ activity.state = .completed then (t, false)
    else t.transition agent .idle nowMs
  | none => t.transition agent .idle nowMs

def observeForeground (foreground : ForegroundProcess) (nowMs : ℕ) (t : Tracked) : Tracked × Bool :=
  match foreground with
  | .agent agent =>
    match t.activity with
    | some activity =>
      if activity.agent ≠ agent then
        if agent = .codex then ({ t with activity := none }, true)
        else t.transition agent .idle nowMs
      else (t, false)
    | none => if agent ≠ .codex then t.transition agent .idle nowMs else (t, false)
  | .unknown => (t, false)
  | .other =>
    match t.activity with
    | some activity =>
      match activity.state with
      | .running | .attention => t.transition activity.agent .completed nowMs
      | .idle => ({ t with activity := none }, true)
      | .completed => (t, false)
    | none => (t, false)

def observeCodexTitle (title : List UInt8) (nowMs : ℕ) (t : Tracked) : Tracked × Bool :=
  match fromUtf8? title with
  | none => (t, false)
  | some title =>
    let title := trim title
    if toAsciiLowercase title = "action required".toList ||
        contains (toAsciiLowercase title) "action required" then
      t.transition .codex .attention nowMs
    else if isCodexRunningTitle title then t.transition .codex .running nowMs
    else match t.activity.map SessionAiActivityPayload.state with
      | some .running | some .attention => t.transition .codex .completed nowMs
      | some .completed | some .idle => (t, false)
      | none => t.transition .codex .idle nowMs

def observeTitle (agent : SessionActivityAgent) (title : List UInt8) (nowMs : ℕ) (t : Tracked) :
    Tracked × Bool :=
  if agent = .codex then t.observeCodexTitle title nowMs
  else if t.activity.any fun activity => activity.agent = agent then (t, false)
  else t.transition agent .idle nowMs

def observeClaudeStatus (payload : List UInt8) (nowMs : ℕ) (t : Tracked) : Tracked × Bool :=
  match (parseClaudeStatus payload).bind fromUtf8? with
  | none => (t, false)
  | some status =>
    let status := toAsciiLowercase (trim status)
    if startsWith status "working" || status = "busy".toList || status = "running".toList then
      t.transition .claudeCode .running nowMs
    else if startsWith status "waiting" || contains status "attention" then
      t.transition .claudeCode .attention nowMs
    else if status = [] || status = "idle".toList then t.finishOrIdle .claudeCode nowMs
    else (t, false)

def observeItermProgress (agent : SessionActivityAgent) (payload : List UInt8) (nowMs : ℕ)
    (t : Tracked) : Tracked × Bool :=
  match parseItermProgressState payload with
  | some state =>
    if state = 0 then t.finishOrIdle agent nowMs
    else if state = 1 ∨ state = 3 then t.transition agent .running nowMs
    else if state = 2 ∨ state = 4 then t.transition agent .attention nowMs
    else (t, false)
  | none => (t, false)

def observeEvent (agent : SessionActivityAgent) (nowMs : ℕ) (event : OscEvent) (t : Tracked) :
    Tracked × Bool :=
  match event with
  | .title title => t.observeTitle agent title nowMs
  | .claudeStatus payload =>
    if agent = .claudeCode then t.observeClaudeStatus payload nowMs else (t, false)
  | .itermProgress payload =>
    if agent ≠ .codex then t.observeItermProgress agent payload nowMs else (t, false)

/-- The loop over the events; it gathers the transitions. -/
def observeEvents (agent : SessionActivityAgent) (nowMs : ℕ) (t : Tracked) :
    List OscEvent → Tracked × List (Option SessionAiActivityPayload)
  | [] => (t, [])
  | event :: events =>
    let (t, changed) := t.observeEvent agent nowMs event
    let (t', transitions) := observeEvents agent nowMs t events
    (t', if changed then t.activity :: transitions else transitions)

/-- The values that the activity takes with each event, if an agent is in the foreground. -/
def agentValues (agent : SessionActivityAgent) (nowMs : ℕ) (t : Tracked) :
    List OscEvent → List (Option SessionAiActivityPayload)
  | [] => []
  | event :: events =>
    let (t, _) := t.observeEvent agent nowMs event
    t.activity :: agentValues agent nowMs t events

def eventValues (foreground : ForegroundProcess) (nowMs : ℕ) (t : Tracked) (events : List OscEvent) :
    List (Option SessionAiActivityPayload) :=
  match foreground with
  | .agent agent => t.agentValues agent nowMs events
  | _ => []

end Tracked

/-! ### Observations -/

/-- `event_identity_hints_mismatch` -/
def eventIdentityHintsMismatch (events : List OscEvent) : ForegroundProcess → Bool
  | .agent agent => (events.filterMap oscEventIdentityHint).any (· ≠ agent)
  | _ => false

def ForegroundProcess.isAgent : ForegroundProcess → Bool
  | .agent _ => true
  | _ => false

namespace SessionActivityDetector

variable (d : SessionActivityDetector) (events : List OscEvent) (bytes : List UInt8) (nowMs : ℕ)

def probeDue : Bool :=
  d.lastForegroundProbeAtMs.all fun lastMs => FOREGROUND_PROBE_MIN_INTERVAL_MS ≤ nowMs - lastMs

def isCompleted : Bool := d.activity.any fun activity => activity.state = .completed

/-- Whether there is anything to observe. -/
def observationDue : Bool :=
  let tracksForeground := d.activity.any fun activity => activity.state ≠ .completed
  let needsIdentityProbe := d.activity.isNone && !bytes.isEmpty
  let completedNeedsProbe :=
    d.isCompleted && !bytes.isEmpty && (d.completedIdentityProbePending || d.probeDue nowMs)
  !events.isEmpty || tracksForeground || needsIdentityProbe || completedNeedsProbe

def shouldProbe : Bool :=
  let firstStructuredEvent := d.activity.isNone && !events.isEmpty &&
    d.eventIdentityProbeState = .ready && !d.lastForeground.isAgent
  let eventIdentityProbePending := !events.isEmpty && d.eventIdentityProbeState = .pending
  let identityHintRequiresProbe := d.eventIdentityProbeState = .ready &&
    eventIdentityHintsMismatch events d.lastForeground
  (d.completedIdentityProbePending && !bytes.isEmpty) || firstStructuredEvent ||
    eventIdentityProbePending || identityHintRequiresProbe || d.probeDue nowMs

/-- The detector after it has asked for the foreground. -/
def probe (observedForeground : ForegroundProcess) : SessionActivityDetector :=
  { d with
    completedIdentityProbePending := false
    eventIdentityProbeState :=
      if events.isEmpty then
        if !observedForeground.isAgent then .pending else .ready
      else if !observedForeground.isAgent || eventIdentityHintsMismatch events observedForeground then
        .consumed
      else .ready
    lastForeground := observedForeground
    lastForegroundProbeAtMs := some nowMs }

/-- The detector with what it knows of the foreground, which `foreground` is now. -/
def probed (foreground : ForegroundProcess) : SessionActivityDetector :=
  if d.shouldProbe events bytes nowMs then d.probe events nowMs foreground else d

/-- The detector after the events, and the transitions. -/
def observeProbed : SessionActivityDetector × List (Option SessionAiActivityPayload) :=
  let (t, changed) := d.toTracked.observeForeground d.lastForeground nowMs
  let transitions := if changed then [t.activity] else []
  match d.lastForeground with
  | .agent agent =>
    let (t, more) := t.observeEvents agent nowMs events
    ({ d with toTracked := t }, transitions ++ more)
  | _ => ({ d with toTracked := t }, transitions)

/-- `observe_output_transitions` -/
def observeOutputTransitions (foreground : ForegroundProcess) :
    SessionActivityDetector × List (Option SessionAiActivityPayload) :=
  let (parser, events) := d.parser.push bytes
  let d := { d with parser }
  if d.observationDue events bytes nowMs then
    (d.probed events bytes nowMs foreground).observeProbed events nowMs
  else (d, [])

/-- Chunks one after the other, at one time and with one foreground. -/
def observeChunks (nowMs : ℕ) (foreground : ForegroundProcess) (d : SessionActivityDetector) :
    List (List UInt8) → SessionActivityDetector × List (Option SessionAiActivityPayload)
  | [] => (d, [])
  | chunk :: chunks =>
    let (d, transitions) := d.observeOutputTransitions chunk nowMs foreground
    let (d, more) := observeChunks nowMs foreground d chunks
    (d, transitions ++ more)

/-- The values that the activity takes, as the foreground is observed and with each event. -/
def probedValues : List (Option SessionAiActivityPayload) :=
  let (t, _) := d.toTracked.observeForeground d.lastForeground nowMs
  t.activity :: t.eventValues d.lastForeground nowMs events

/-- The successive values of `activity()` in the observation of a chunk. -/
def activityValues (foreground : ForegroundProcess) : List (Option SessionAiActivityPayload) :=
  let (parser, events) := d.parser.push bytes
  let d := { d with parser }
  if d.observationDue events bytes nowMs then
    (d.probed events bytes nowMs foreground).probedValues events nowMs
  else []

end SessionActivityDetector

/-- The agent and the state of an activity, if there is one. -/
def activityKey (activity : Option SessionAiActivityPayload) :
    Option (SessionActivityAgent × SessionActivityState) :=
  activity.map fun activity => (activity.agent, activity.state)

/-! ### What a rule does -/

/-- There is nothing for the foreground to change. -/
def Settled : ForegroundProcess → Option SessionAiActivityPayload → Prop
  | .agent agent, some activity => activity.agent = agent
  | .agent agent, none => agent = .codex
  | .other, activity => ∀ x, activity = some x → x.state = .completed
  | .unknown, _ => True

/-- A rule that leads from one activity to another, whatever else there is; it says whether the key
is another, and changes nothing if it is not. -/
structure Leads (f : Tracked → Tracked × Bool) (a b : Option SessionAiActivityPayload) : Prop where
  activity : ∀ t, t.activity = a → (f t).1.activity = b
  changed : ∀ t, t.activity = a → ((f t).2 = true ↔ activityKey a ≠ activityKey b)
  steady : activityKey a = activityKey b → a = b

section Rules

variable {f g : Tracked → Tracked × Bool} {a b : Option SessionAiActivityPayload}
  {agent : SessionActivityAgent} {state : SessionActivityState} {nowMs : ℕ}

theorem Leads.congr (h : Leads g a b) (heq : ∀ t, t.activity = a → f t = g t) : Leads f a b where
  activity t ht := by rw [heq t ht]; exact h.activity t ht
  changed t ht := by rw [heq t ht]; exact h.changed t ht
  steady := h.steady

theorem leads_same : Leads (fun t => (t, false)) a a where
  activity _ ht := ht
  changed _ _ := by simp
  steady _ := rfl

theorem leads_none (x : SessionAiActivityPayload) :
    Leads (fun t => ({ t with activity := none }, true)) (some x) none where
  activity _ _ := rfl
  changed _ _ := by simp [activityKey]
  steady h := by simp [activityKey] at h

theorem any_iff_key : (a.any fun activity => activity.agent = agent ∧ activity.state = state) = true ↔
    activityKey a = some (agent, state) := by
  cases a <;> simp [activityKey]

theorem settled_of_key (h : activityKey a = some (agent, state)) : Settled (.agent agent) a := by
  cases a with
  | none => simp [activityKey] at h
  | some x => exact congrArg Prod.fst (Option.some.inj h)

/-- After a transition the agent has that state. -/
theorem leads_transition (agent : SessionActivityAgent) (state : SessionActivityState) (nowMs : ℕ)
    (a : Option SessionAiActivityPayload) : ∃ b, Leads (Tracked.transition agent state nowMs) a b ∧
      activityKey b = some (agent, state) := by
  by_cases hsame : activityKey a = some (agent, state)
  · refine ⟨a, leads_same.congr fun t ht => ?_, hsame⟩
    rw [Tracked.transition, ht, if_pos (any_iff_key.mpr hsame)]
  · refine ⟨some ⟨.ai, agent, state, nowMs⟩, ?_, rfl⟩
    have heq : ∀ t : Tracked, t.activity = a → t.transition agent state nowMs =
        (⟨some ⟨.ai, agent, state, nowMs⟩, state = .completed⟩, true) := fun t ht => by
      rw [Tracked.transition, ht, if_neg (mt any_iff_key.mp hsame)]
    exact
      { activity := fun t ht => by rw [heq t ht]
        changed := fun t ht => by rw [heq t ht]; exact iff_of_true rfl hsame
        steady := fun h => absurd h hsame }

/-- A rule for an event of an agent, at an activity: it stays, or is one of the agent. -/
def EventRuleAt (agent : SessionActivityAgent) (f : Tracked → Tracked × Bool)
    (a : Option SessionAiActivityPayload) : Prop :=
  ∃ b, Leads f a b ∧ (b = a ∨ Settled (.agent agent) b)

theorem EventRuleAt.congr (h : EventRuleAt agent g a) (heq : ∀ t, t.activity = a → f t = g t) :
    EventRuleAt agent f a :=
  let ⟨b, hleads, hsettled⟩ := h
  ⟨b, hleads.congr heq, hsettled⟩

theorem eventRule_same : EventRuleAt agent (fun t => (t, false)) a :=
  ⟨a, leads_same, .inl rfl⟩

theorem eventRule_transition (state : SessionActivityState) (nowMs : ℕ) :
    EventRuleAt agent (Tracked.transition agent state nowMs) a :=
  let ⟨b, hleads, hkey⟩ := leads_transition agent state nowMs a
  ⟨b, hleads, .inr (settled_of_key hkey)⟩

theorem eventRule_finishOrIdle : EventRuleAt agent (Tracked.finishOrIdle agent nowMs) a := by
  cases a with
  | none => exact (eventRule_transition .idle nowMs).congr fun t ht => by rw [Tracked.finishOrIdle, ht]
  | some x =>
    by_cases hworks : x.agent = agent ∧ (x.state = .running ∨ x.state = .attention)
    · refine (eventRule_transition .completed nowMs).congr fun t ht => ?_
      simp only [Tracked.finishOrIdle, ht, if_pos hworks]
    · by_cases hdone : x.agent = agent ∧ x.state = .completed
      · refine eventRule_same.congr fun t ht => ?_
        simp only [Tracked.finishOrIdle, ht, if_neg hworks, if_pos hdone]
      · refine (eventRule_transition .idle nowMs).congr fun t ht => ?_
        simp only [Tracked.finishOrIdle, ht, if_neg hworks, if_neg hdone]

theorem eventRule_codexTitle (title : List UInt8) :
    EventRuleAt .codex (Tracked.observeCodexTitle title nowMs) a := by
  cases hutf8 : fromUtf8? title with
  | none => exact eventRule_same.congr fun t _ => by rw [Tracked.observeCodexTitle, hutf8]
  | some text =>
    -- the texts of the title come first, and then the state
    have heq : ∀ t : Tracked, t.activity = a → t.observeCodexTitle title nowMs =
        if toAsciiLowercase (trim text) = "action required".toList ||
            contains (toAsciiLowercase (trim text)) "action required" then
          t.transition .codex .attention nowMs
        else if isCodexRunningTitle (trim text) then t.transition .codex .running nowMs
        else match a.map SessionAiActivityPayload.state with
          | some .running | some .attention => t.transition .codex .completed nowMs
          | some .completed | some .idle => (t, false)
          | none => t.transition .codex .idle nowMs := fun t ht => by
      rw [Tracked.observeCodexTitle, hutf8, ht]
    refine EventRuleAt.congr ?_ heq
    split_ifs
    · exact eventRule_transition .attention nowMs
    · exact eventRule_transition .running nowMs
    · cases a.map SessionAiActivityPayload.state with
      | none => exact eventRule_transition .idle nowMs
      | some state =>
        cases state with
        | running => exact eventRule_transition .completed nowMs
        | attention => exact eventRule_transition .completed nowMs
        | completed => exact eventRule_same
        | idle => exact eventRule_same

theorem eventRule_title (title : List UInt8) :
    EventRuleAt agent (Tracked.observeTitle agent title nowMs) a := by
  by_cases hcodex : agent = .codex
  · subst hcodex
    exact (eventRule_codexTitle title).congr fun t _ => by rw [Tracked.observeTitle, if_pos rfl]
  · by_cases hknown : a.any fun activity => activity.agent = agent
    · exact eventRule_same.congr fun t ht => by
        rw [Tracked.observeTitle, if_neg hcodex, ht, if_pos hknown]
    · exact (eventRule_transition .idle nowMs).congr fun t ht => by
        rw [Tracked.observeTitle, if_neg hcodex, ht, if_neg hknown]

theorem eventRule_claudeStatus (payload : List UInt8) :
    EventRuleAt .claudeCode (Tracked.observeClaudeStatus payload nowMs) a := by
  cases hstatus : (parseClaudeStatus payload).bind fromUtf8? with
  | none => exact eventRule_same.congr fun t _ => by rw [Tracked.observeClaudeStatus, hstatus]
  | some status =>
    refine EventRuleAt.congr ?_ fun t _ => by rw [Tracked.observeClaudeStatus, hstatus]
    dsimp only
    split_ifs
    · exact eventRule_transition .running nowMs
    · exact eventRule_transition .attention nowMs
    · exact eventRule_finishOrIdle
    · exact eventRule_same

theorem eventRule_itermProgress (payload : List UInt8) :
    EventRuleAt agent (Tracked.observeItermProgress agent payload nowMs) a := by
  cases hstate : parseItermProgressState payload with
  | none => exact eventRule_same.congr fun t _ => by rw [Tracked.observeItermProgress, hstate]
  | some state =>
    refine EventRuleAt.congr ?_ fun t _ => by rw [Tracked.observeItermProgress, hstate]
    dsimp only
    split_ifs
    · exact eventRule_finishOrIdle
    · exact eventRule_transition .running nowMs
    · exact eventRule_transition .attention nowMs
    · exact eventRule_same

/-- **What an event does** depends on the activity alone. -/
theorem eventRule_event (agent : SessionActivityAgent) (nowMs : ℕ)
    (a : Option SessionAiActivityPayload) (event : OscEvent) :
    EventRuleAt agent (Tracked.observeEvent agent nowMs event) a := by
  cases event with
  | title title => exact eventRule_title title
  | claudeStatus payload =>
    by_cases hclaude : agent = .claudeCode
    · subst hclaude
      exact (eventRule_claudeStatus payload).congr fun t _ => by rw [Tracked.observeEvent, if_pos rfl]
    · exact eventRule_same.congr fun t _ => by rw [Tracked.observeEvent, if_neg hclaude]
  | itermProgress payload =>
    by_cases hcodex : agent = .codex
    · exact eventRule_same.congr fun t _ => by
        rw [Tracked.observeEvent, if_neg (not_not.mpr hcodex)]
    · exact (eventRule_itermProgress payload).congr fun t _ => by
        rw [Tracked.observeEvent, if_pos hcodex]

/-- **What the foreground does**: afterwards there is nothing left for it to change. -/
theorem leads_foreground (foreground : ForegroundProcess) (nowMs : ℕ)
    (a : Option SessionAiActivityPayload) :
    ∃ b, Leads (Tracked.observeForeground foreground nowMs) a b ∧ Settled foreground b := by
  cases foreground with
  | unknown => exact ⟨a, leads_same.congr fun t _ => by rw [Tracked.observeForeground], trivial⟩
  | agent agent =>
    cases a with
    | none =>
      by_cases hcodex : agent = .codex
      · refine ⟨none, leads_same.congr fun t ht => ?_, hcodex⟩
        simp only [Tracked.observeForeground, ht, if_neg (not_not.mpr hcodex)]
      · obtain ⟨b, hleads, hkey⟩ := leads_transition agent .idle nowMs none
        refine ⟨b, hleads.congr fun t ht => ?_, settled_of_key hkey⟩
        simp only [Tracked.observeForeground, ht, if_pos hcodex]
    | some x =>
      by_cases hagent : x.agent = agent
      · refine ⟨some x, leads_same.congr fun t ht => ?_, hagent⟩
        simp only [Tracked.observeForeground, ht, if_neg (not_not.mpr hagent)]
      · by_cases hcodex : agent = .codex
        · refine ⟨none, (leads_none x).congr fun t ht => ?_, hcodex⟩
          simp only [Tracked.observeForeground, ht, if_pos hagent, if_pos hcodex]
        · obtain ⟨b, hleads, hkey⟩ := leads_transition agent .idle nowMs (some x)
          refine ⟨b, hleads.congr fun t ht => ?_, settled_of_key hkey⟩
          simp only [Tracked.observeForeground, ht, if_pos hagent, if_neg hcodex]
  | other =>
    cases a with
    | none =>
      refine ⟨none, leads_same.congr fun t ht => ?_, fun x hx => ?_⟩
      · simp only [Tracked.observeForeground, ht]
      · cases hx
    | some x =>
      have hcompleted : ∃ b, Leads (Tracked.transition x.agent .completed nowMs) (some x) b ∧
          Settled .other b := by
        obtain ⟨b, hleads, hkey⟩ := leads_transition x.agent .completed nowMs (some x)
        refine ⟨b, hleads, fun y hy => ?_⟩
        rw [hy] at hkey
        exact congrArg Prod.snd (Option.some.inj hkey)
      cases hstate : x.state with
      | running =>
        obtain ⟨b, hleads, hsettled⟩ := hcompleted
        refine ⟨b, hleads.congr fun t ht => ?_, hsettled⟩
        simp only [Tracked.observeForeground, ht, hstate]
      | attention =>
        obtain ⟨b, hleads, hsettled⟩ := hcompleted
        refine ⟨b, hleads.congr fun t ht => ?_, hsettled⟩
        simp only [Tracked.observeForeground, ht, hstate]
      | idle =>
        refine ⟨none, (leads_none x).congr fun t ht => ?_, fun y hy => ?_⟩
        · simp only [Tracked.observeForeground, ht, hstate]
        · cases hy
      | completed =>
        refine ⟨some x, leads_same.congr fun t ht => ?_, fun y hy => ?_⟩
        · simp only [Tracked.observeForeground, ht, hstate]
        · rw [← Option.some.inj hy, hstate]

theorem observeForeground_settled {foreground : ForegroundProcess} {t : Tracked}
    (h : Settled foreground t.activity) : t.observeForeground foreground nowMs = (t, false) := by
  cases foreground with
  | unknown => rw [Tracked.observeForeground]
  | agent agent =>
    cases ht : t.activity with
    | none =>
      have hcodex : agent = .codex := by rwa [ht] at h
      simp only [Tracked.observeForeground, ht, if_neg (not_not.mpr hcodex)]
    | some x =>
      have hagent : x.agent = agent := by rwa [ht] at h
      simp only [Tracked.observeForeground, ht, if_neg (not_not.mpr hagent)]
  | other =>
    cases ht : t.activity with
    | none => simp only [Tracked.observeForeground, ht]
    | some x => simp only [Tracked.observeForeground, ht, h x ht]

end Rules

/-! ### The events of a chunk -/

section Events

variable {agent : SessionActivityAgent} {foreground : ForegroundProcess} {nowMs : ℕ}
  {t t' : Tracked} {events events' : List OscEvent}

/-- What there is beside the activity does not count. -/
theorem agentValues_congr (h : t.activity = t'.activity) :
    t.agentValues agent nowMs events = t'.agentValues agent nowMs events := by
  induction events generalizing t t' with
  | nil => rfl
  | cons event events ih =>
    obtain ⟨b, hleads, -⟩ :=
      eventRule_event agent nowMs t.activity event
    have hb := hleads.activity t rfl
    have hb' := hleads.activity t' h.symm
    rw [Tracked.agentValues, Tracked.agentValues]
    dsimp only
    rw [hb, hb', ih (hb.trans hb'.symm)]

theorem agentValues_append : t.agentValues agent nowMs (events ++ events') =
    t.agentValues agent nowMs events ++
      (t.observeEvents agent nowMs events).1.agentValues agent nowMs events' := by
  induction events generalizing t with
  | nil => rfl
  | cons event events ih =>
    rw [List.cons_append, Tracked.agentValues, Tracked.agentValues, Tracked.observeEvents]
    dsimp only
    rw [ih, List.cons_append]

theorem observeEvents_activity : (t.observeEvents agent nowMs events).1.activity =
    (t.agentValues agent nowMs events).getLastD t.activity := by
  induction events generalizing t with
  | nil => rfl
  | cons event events ih =>
    rw [Tracked.observeEvents, Tracked.agentValues, List.getLastD_cons]
    exact ih

theorem observeEvents_transitions : (t.observeEvents agent nowMs events).2 =
    changes activityKey t.activity (t.agentValues agent nowMs events) := by
  induction events generalizing t with
  | nil => rfl
  | cons event events ih =>
    obtain ⟨b, hleads, -⟩ := eventRule_event agent nowMs t.activity event
    rw [Tracked.observeEvents, Tracked.agentValues]
    dsimp only
    have hb := hleads.activity t rfl
    have hchanged := hleads.changed t rfl
    rw [← hb] at hchanged
    rw [ih]
    split_ifs with hflag
    · rw [changes_cons_of_ne (hchanged.mp hflag)]
    · rw [changes_cons_of_eq (not_not.mp (mt hchanged.mpr hflag))]

theorem steady_agentValues :
    SteadyFrom activityKey t.activity (t.agentValues agent nowMs events) := by
  induction events generalizing t with
  | nil => trivial
  | cons event events ih =>
    obtain ⟨b, hleads, -⟩ := eventRule_event agent nowMs t.activity event
    have hsteady := hleads.steady
    rw [← hleads.activity t rfl] at hsteady
    exact ⟨hsteady, ih⟩

theorem settled_observeEvents (h : Settled (.agent agent) t.activity) :
    Settled (.agent agent) (t.observeEvents agent nowMs events).1.activity := by
  induction events generalizing t with
  | nil => exact h
  | cons event events ih =>
    obtain ⟨b, hleads, hb⟩ := eventRule_event agent nowMs t.activity event
    have hnext : Settled (.agent agent) (t.observeEvent agent nowMs event).1.activity := by
      rw [hleads.activity t rfl]
      rcases hb with rfl | hsettled
      · exact h
      · exact hsettled
    exact ih hnext

end Events

/-! ### Chunks of output -/

/-- What an observation reports: the values that differ from the one before by agent, state or
presence; the last of them is where the activity ends, and without one it is what it was. -/
structure ReportsChanges (before : Option SessionAiActivityPayload)
    (values transitions : List (Option SessionAiActivityPayload))
    (after : Option SessionAiActivityPayload) : Prop where
  transitions_eq : transitions = changes activityKey before values
  after_eq : after = values.getLastD before
  distinct : (before :: transitions).IsChain fun a b => activityKey a ≠ activityKey b
  last : ∀ a, transitions.getLast? = some a → after = a
  unchanged : transitions = [] → after = before

theorem reportsChanges_of_steady {before after : Option SessionAiActivityPayload}
    {values transitions : List (Option SessionAiActivityPayload)}
    (htransitions : transitions = changes activityKey before values)
    (hafter : after = values.getLastD before) (hsteady : SteadyFrom activityKey before values) :
    ReportsChanges before values transitions after := by
  have hlast : after = transitions.getLastD before := by
    rw [hafter, htransitions, hsteady.getLastD_changes]
  exact
    { transitions_eq := htransitions
      after_eq := hafter
      distinct := htransitions ▸ changes_chain
      last := fun a ha => by rw [hlast, List.getLastD_eq_getLast?, ha, Option.getD_some]
      unchanged := fun hnil => by rw [hlast, hnil, List.getLastD_nil] }

section Chunks

variable {d : SessionActivityDetector} {events : List OscEvent} {bytes : List UInt8} {nowMs : ℕ}
  {foreground : ForegroundProcess}

theorem probed_activity :
    (d.probed events bytes nowMs foreground).activity = d.activity := by
  rw [SessionActivityDetector.probed]
  split_ifs <;> rfl

theorem parser_probed : (d.probed events bytes nowMs foreground).parser = d.parser := by
  rw [SessionActivityDetector.probed]
  split_ifs <;> rfl

theorem foreground_transitions (foreground : ForegroundProcess) (nowMs : ℕ) (t : Tracked) :
    (if (t.observeForeground foreground nowMs).2 then
        [(t.observeForeground foreground nowMs).1.activity] else []) =
      changes activityKey t.activity [(t.observeForeground foreground nowMs).1.activity] := by
  obtain ⟨b, hleads, -⟩ := leads_foreground foreground nowMs t.activity
  have hchanged := hleads.changed t rfl
  rw [← hleads.activity t rfl] at hchanged
  split_ifs with hflag
  · rw [changes_cons_of_ne (hchanged.mp hflag), changes_nil]
  · rw [changes_cons_of_eq (not_not.mp (mt hchanged.mpr hflag)), changes_nil]

/-- **The observation after the probe** takes the activity through its values. -/
theorem observeProbed_reports (d : SessionActivityDetector) (events : List OscEvent) (nowMs : ℕ) :
    ReportsChanges d.activity (d.probedValues events nowMs)
    (d.observeProbed events nowMs).2 (d.observeProbed events nowMs).1.activity := by
  obtain ⟨b, hleads, -⟩ := leads_foreground d.lastForeground nowMs d.activity
  have hsteady := hleads.steady
  rw [← hleads.activity d.toTracked rfl] at hsteady
  have hfirst := foreground_transitions d.lastForeground nowMs d.toTracked
  rw [SessionActivityDetector.probedValues, SessionActivityDetector.observeProbed]
  dsimp only
  cases hforeground : d.lastForeground with
  | agent agent =>
    rw [hforeground] at hfirst hsteady
    dsimp only
    refine reportsChanges_of_steady ?_ ?_ ⟨hsteady, steady_agentValues⟩
    · rw [hfirst, observeEvents_transitions]
      exact changes_cons.symm
    · rw [List.getLastD_cons]
      exact observeEvents_activity
  | other =>
    rw [hforeground] at hfirst hsteady
    exact reportsChanges_of_steady hfirst rfl ⟨hsteady, trivial⟩
  | unknown =>
    rw [hforeground] at hfirst hsteady
    exact reportsChanges_of_steady hfirst rfl ⟨hsteady, trivial⟩

/-- **A chunk is reported** as the changes of the activity. -/
theorem observeOutputTransitions_reports :
    ReportsChanges d.activity (d.activityValues bytes nowMs foreground)
      (d.observeOutputTransitions bytes nowMs foreground).2
      (d.observeOutputTransitions bytes nowMs foreground).1.activity := by
  rw [SessionActivityDetector.activityValues, SessionActivityDetector.observeOutputTransitions]
  dsimp only
  split_ifs
  · have h := observeProbed_reports (SessionActivityDetector.probed
      { d with parser := (d.parser.push bytes).1 } (d.parser.push bytes).2 bytes nowMs foreground)
      (d.parser.push bytes).2 nowMs
    rwa [probed_activity] at h
  · exact reportsChanges_of_steady rfl rfl trivial

end Chunks

/-! ### Where the output is cut -/

/-- The foreground has been asked for, and has nothing left to change. -/
structure SettledOn (foreground : ForegroundProcess) (d : SessionActivityDetector) : Prop where
  lastForeground : d.lastForeground = foreground
  settled : Settled foreground d.activity

/-- One detector leads to another, settled one by the events alone. -/
structure Continues (foreground : ForegroundProcess) (nowMs : ℕ) (d d' : SessionActivityDetector)
    (events : List OscEvent) (transitions : List (Option SessionAiActivityPayload)) : Prop where
  settledOn : SettledOn foreground d'
  activity : d'.activity = (d.toTracked.eventValues foreground nowMs events).getLastD d.activity
  transitions_eq : transitions =
    changes activityKey d.activity (d.toTracked.eventValues foreground nowMs events)

section Cut

variable {foreground : ForegroundProcess} {nowMs : ℕ} {d d' d'' : SessionActivityDetector}
  {events events' : List OscEvent} {bytes : List UInt8} {t t' : Tracked}
  {transitions transitions' : List (Option SessionAiActivityPayload)}

theorem eventValues_congr (h : t.activity = t'.activity) :
    t.eventValues foreground nowMs events = t'.eventValues foreground nowMs events := by
  cases foreground with
  | agent agent => exact agentValues_congr h
  | other => rfl
  | unknown => rfl

theorem eventValues_append
    (h : t'.activity = (t.eventValues foreground nowMs events).getLastD t.activity) :
    t.eventValues foreground nowMs (events ++ events') =
      t.eventValues foreground nowMs events ++ t'.eventValues foreground nowMs events' := by
  cases foreground with
  | agent agent =>
    refine agentValues_append.trans (congrArg _ (agentValues_congr ?_))
    rw [h]
    exact observeEvents_activity
  | other => rfl
  | unknown => rfl

theorem Continues.congr_left (h : Continues foreground nowMs d d'' events transitions)
    (hactivity : d'.activity = d.activity) : Continues foreground nowMs d' d'' events transitions where
  settledOn := h.settledOn
  activity := by rw [h.activity, hactivity, eventValues_congr hactivity]
  transitions_eq := by rw [h.transitions_eq, hactivity, eventValues_congr hactivity]

/-- **What is continued twice** is continued by all the events. -/
theorem Continues.trans (h : Continues foreground nowMs d d' events transitions)
    (h' : Continues foreground nowMs d' d'' events' transitions') :
    Continues foreground nowMs d d'' (events ++ events') (transitions ++ transitions') where
  settledOn := h'.settledOn
  activity := by
    rw [eventValues_append h.activity, h'.activity, h.activity, getLastD_append]
  transitions_eq := by
    rw [eventValues_append h.activity, changes_append, ← h.activity, h.transitions_eq,
      h'.transitions_eq]

/-- **After the foreground** the events are all that counts. -/
theorem observeProbed_continues (hlast : d.lastForeground = foreground) (events : List OscEvent)
    (nowMs : ℕ) : ∃ transitions, (d.observeProbed events nowMs).2 =
        changes activityKey d.activity [(d.toTracked.observeForeground foreground nowMs).1.activity] ++
          transitions ∧
      Continues foreground nowMs
        { d with toTracked := (d.toTracked.observeForeground foreground nowMs).1 }
        (d.observeProbed events nowMs).1 events transitions := by
  obtain ⟨b, hleads, hsettled⟩ := leads_foreground foreground nowMs d.activity
  rw [← hleads.activity d.toTracked rfl] at hsettled
  have hfirst := foreground_transitions foreground nowMs d.toTracked
  rw [SessionActivityDetector.observeProbed, hlast]
  dsimp only
  rw [hfirst]
  cases foreground with
  | agent agent =>
    refine ⟨_, rfl, ⟨rfl, settled_observeEvents hsettled⟩, observeEvents_activity, ?_⟩
    exact observeEvents_transitions
  | other => exact ⟨[], (List.append_nil _).symm, ⟨rfl, hsettled⟩, rfl, rfl⟩
  | unknown => exact ⟨[], (List.append_nil _).symm, ⟨rfl, hsettled⟩, rfl, rfl⟩

theorem SettledOn.continues_nil (h : SettledOn foreground d) :
    Continues foreground nowMs d d [] [] where
  settledOn := h
  activity := by cases foreground <;> rfl
  transitions_eq := by cases foreground <;> rfl

theorem parser_observeProbed : (d.observeProbed events nowMs).1.parser = d.parser := by
  rw [SessionActivityDetector.observeProbed]
  cases d.lastForeground <;> rfl

theorem parser_observeOutputTransitions :
    (d.observeOutputTransitions bytes nowMs foreground).1.parser = (d.parser.push bytes).1 := by
  rw [SessionActivityDetector.observeOutputTransitions]
  dsimp only
  split_ifs
  · rw [parser_observeProbed, parser_probed]
  · rfl

theorem SettledOn.probed (h : SettledOn foreground d) :
    (d.probed events bytes nowMs foreground).lastForeground = foreground := by
  rw [SessionActivityDetector.probed]
  split_ifs
  · rfl
  · exact h.lastForeground

theorem events_nil_of_not_due (h : ¬d.observationDue events bytes nowMs) : events = [] := by
  rw [SessionActivityDetector.observationDue] at h
  simp only [Bool.or_eq_true, not_or] at h
  simpa using h.1.1.1

/-- **A chunk after the first** is observed by its events. -/
theorem SettledOn.observe (h : SettledOn foreground d) (bytes : List UInt8) (nowMs : ℕ) :
    Continues foreground nowMs d (d.observeOutputTransitions bytes nowMs foreground).1
      (d.parser.push bytes).2 (d.observeOutputTransitions bytes nowMs foreground).2 := by
  rw [SessionActivityDetector.observeOutputTransitions]
  dsimp only
  set d₁ : SessionActivityDetector := { d with parser := (d.parser.push bytes).1 }
  have h₁ : SettledOn foreground d₁ := ⟨h.lastForeground, h.settled⟩
  split_ifs with hdue
  · set d₂ := d₁.probed (d.parser.push bytes).2 bytes nowMs foreground
    have hactivity : d₂.activity = d.activity := probed_activity
    obtain ⟨transitions, heq, hcontinues⟩ :=
      observeProbed_continues h₁.probed (d.parser.push bytes).2 nowMs
    -- the foreground changes nothing, so only the events are left
    have hforeground : d₂.toTracked.observeForeground foreground nowMs = (d₂.toTracked, false) :=
      observeForeground_settled (by rw [hactivity]; exact h.settled)
    rw [hforeground] at heq hcontinues
    rw [heq, changes_cons_of_eq rfl, changes_nil, List.nil_append]
    exact hcontinues.congr_left hactivity.symm
  · rw [events_nil_of_not_due hdue]
    exact h₁.continues_nil.congr_left rfl

/-- A new detector that has been told the foreground. -/
def SessionActivityDetector.begun (foreground : ForegroundProcess) (nowMs : ℕ) :
    SessionActivityDetector :=
  { SessionActivityDetector.fresh with
    toTracked := (SessionActivityDetector.fresh.toTracked.observeForeground foreground nowMs).1 }

theorem observationDue_of_none (hnone : d.activity = none) (hbytes : bytes ≠ []) :
    d.observationDue events bytes nowMs = true := by
  have hempty : bytes.isEmpty = false := List.isEmpty_eq_false_iff.mpr hbytes
  simp [SessionActivityDetector.observationDue, hnone, hempty]

theorem probed_of_not_probed (hnever : d.lastForegroundProbeAtMs = none) :
    d.probed events bytes nowMs foreground = d.probe events nowMs foreground := by
  have hdue : d.probeDue nowMs = true := by rw [SessionActivityDetector.probeDue, hnever]; rfl
  rw [SessionActivityDetector.probed, SessionActivityDetector.shouldProbe, hdue, Bool.or_true,
    if_pos rfl]

/-- **The first chunk** asks for the foreground. -/
theorem observe_fresh (hbytes : bytes ≠ []) (foreground : ForegroundProcess) (nowMs : ℕ) :
    ∃ transitions,
      (SessionActivityDetector.fresh.observeOutputTransitions bytes nowMs foreground).2 =
        changes activityKey none [(SessionActivityDetector.begun foreground nowMs).activity] ++
          transitions ∧
      Continues foreground nowMs (.begun foreground nowMs)
        (SessionActivityDetector.fresh.observeOutputTransitions bytes nowMs foreground).1
        (BoundedOscParser.fresh.push bytes).2 transitions := by
  rw [SessionActivityDetector.observeOutputTransitions]
  dsimp only
  rw [if_pos (observationDue_of_none rfl hbytes), probed_of_not_probed rfl]
  obtain ⟨transitions, heq, hcontinues⟩ := observeProbed_continues
    (d := SessionActivityDetector.probe
      { SessionActivityDetector.fresh with parser := (BoundedOscParser.fresh.push bytes).1 }
      (BoundedOscParser.fresh.push bytes).2 nowMs foreground) rfl
    (BoundedOscParser.fresh.push bytes).2 nowMs
  exact ⟨transitions, heq, hcontinues.congr_left rfl⟩

/-- **Chunks after the first** are observed by the events of the whole. -/
theorem SettledOn.observeChunks (h : SettledOn foreground d) (nowMs : ℕ)
    (chunks : List (List UInt8)) :
    Continues foreground nowMs d (d.observeChunks nowMs foreground chunks).1
      (d.parser.push chunks.flatten).2 (d.observeChunks nowMs foreground chunks).2 := by
  induction chunks generalizing d with
  | nil => exact h.continues_nil
  | cons chunk chunks ih =>
    have hchunk := h.observe chunk nowMs
    have hchunks := ih hchunk.settledOn
    rw [parser_observeOutputTransitions] at hchunks
    rw [List.flatten_cons, BoundedOscParser.push_append, SessionActivityDetector.observeChunks]
    exact hchunk.trans hchunks

/-- Where the events lead is the only thing that counts. -/
theorem Continues.unique {events : List OscEvent} (h : Continues foreground nowMs d d' events transitions)
    (h' : Continues foreground nowMs d d'' events transitions') :
    transitions = transitions' ∧ d'.activity = d''.activity :=
  ⟨h.transitions_eq.trans h'.transitions_eq.symm, h.activity.trans h'.activity.symm⟩

/-- **The cuts of the output** do not count. -/
theorem observeChunks_fresh (nowMs : ℕ) (foreground : ForegroundProcess)
    {chunks : List (List UInt8)} (hchunks : ∀ chunk ∈ chunks, chunk ≠ []) :
    (SessionActivityDetector.fresh.observeChunks nowMs foreground chunks).2 =
        (SessionActivityDetector.fresh.observeOutputTransitions chunks.flatten nowMs foreground).2 ∧
      (SessionActivityDetector.fresh.observeChunks nowMs foreground chunks).1.activity =
        (SessionActivityDetector.fresh.observeOutputTransitions chunks.flatten nowMs
          foreground).1.activity := by
  cases chunks with
  | nil => exact ⟨rfl, rfl⟩
  | cons chunk chunks =>
    have hchunk : chunk ≠ [] := hchunks chunk List.mem_cons_self
    obtain ⟨transitions, heq, hfirst⟩ := observe_fresh hchunk foreground nowMs
    obtain ⟨whole, hwhole_eq, hwhole⟩ :=
      observe_fresh (List.append_ne_nil_of_left_ne_nil hchunk chunks.flatten) foreground nowMs
    have hrest := hfirst.settledOn.observeChunks nowMs chunks
    rw [parser_observeOutputTransitions] at hrest
    rw [BoundedOscParser.push_append] at hwhole
    obtain ⟨htransitions, hactivity⟩ := (hfirst.trans hrest).unique hwhole
    rw [List.flatten_cons, SessionActivityDetector.observeChunks]
    dsimp only
    refine ⟨?_, hactivity⟩
    rw [heq, hwhole_eq, List.append_assoc, htransitions]

end Cut

/-- **The detection of activity.** However the output is cut into chunks, the transitions and the
activity in the end are those of the whole; and every observation reports the changes of the
activity. -/
theorem activity_detection :
    (∀ (nowMs : ℕ) (foreground : ForegroundProcess) (chunks : List (List UInt8)),
      (∀ chunk ∈ chunks, chunk ≠ []) →
        (SessionActivityDetector.fresh.observeChunks nowMs foreground chunks).2 =
            (SessionActivityDetector.fresh.observeOutputTransitions chunks.flatten nowMs
              foreground).2 ∧
          (SessionActivityDetector.fresh.observeChunks nowMs foreground chunks).1.activity =
            (SessionActivityDetector.fresh.observeOutputTransitions chunks.flatten nowMs
              foreground).1.activity) ∧
      ∀ (d : SessionActivityDetector) (bytes : List UInt8) (nowMs : ℕ)
        (foreground : ForegroundProcess),
        ReportsChanges d.activity (d.activityValues bytes nowMs foreground)
          (d.observeOutputTransitions bytes nowMs foreground).2
          (d.observeOutputTransitions bytes nowMs foreground).1.activity :=
  ⟨fun nowMs foreground _ hchunks => observeChunks_fresh nowMs foreground hchunks,
    fun _ _ _ _ => observeOutputTransitions_reports⟩

-- one chunk may report two transitions
example : (SessionActivityDetector.fresh.observeOutputTransitions
    (0x1b :: bytesOf "]0;[.] Working" ++ 0x07 :: 0x1b :: bytesOf "]0;project" ++ [0x07]) 100
    (.agent .codex)).2 =
      [some ⟨.ai, .codex, .running, 100⟩, some ⟨.ai, .codex, .completed, 100⟩] := by
  decide +kernel

end Termd.Activity
