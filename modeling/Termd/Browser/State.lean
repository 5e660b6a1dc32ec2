import Mathlib.Algebra.Ring.Int.Defs
import Mathlib.Algebra.Ring.Nat
import Mathlib.Data.List.Infix
import Termd.Library.LoadSave
import Termd.Library.Whitespace

/-!
# The state of the browser

The browser keeps its device identity, the daemons that it is paired with and its preferences in
one record of a database. Every operation on it loads the record in one transaction and saves it
in another, so that two of them can load the same record, and the second save takes back what the
first has written. An operation whose record is still the same when it saves does not.

The class of URLs and the identities that are drawn at random are parameters.

## Main definitions

* `BrowserState`, `normalizeState`: the record and its clean form
* `Operation`, `Operation.run`: what an operation makes of a clean record
* `Cell`, `act`: the operations over the cell of `Termd.LoadSave`
* `KeepsUpdates urls initial c`: no update is lost

## Main results

* `run_device`, `run_credentials`: an operation keeps the device and the other daemons
* `keepsUpdates_of_undisturbed`: undisturbed operations lose no update
* `pairing_lost`: two pairings at the same time
-/

namespace Termd.Browser.State

abbrev Text := List Char

/-! ### The record -/

structure DeviceState where
  deviceId : Text
  devicePublicKey : Text
  deviceSigningKeySecret : Text
  name : Option Text := none
deriving DecidableEq

structure PairedServerState where
  serverId : Text
  daemonPublicKey : Text
  url : Text
  pairedAtMs : ℤ
  deviceCertificate : Option Text := none
  name : Option Text := none

structure MobileShortcut where
  label : Text
  data : Text
deriving DecidableEq

/-- The preferences; what is stored may be any text. -/
structure BrowserPreferences where
  language : Text
  theme : Text
  notifications : Option Text := none
  mobileShortcuts : List MobileShortcut := []
deriving DecidableEq

structure BrowserState where
  device : Option DeviceState := none
  pairedServers : List PairedServerState := []
  defaultServerId : Option Text := none
  defaultUrl : Option Text := none
  preferences : Option BrowserPreferences := none

/-! ### Its clean form -/

/-- `String.prototype.trim` -/
def trimText (text : Text) : Text :=
  let isSpace (c : Char) := c = '\ufeff' || isWhitespace c && c ≠ '\u0085'
  (text.dropWhile isSpace).rdropWhile isSpace

/-- A text that is not empty: what JavaScript takes for true. -/
def truthy (text : Option Text) : Option Text := text.filter (· ≠ [])

/-- `normalizeDaemonName` and `normalizeDeviceName` -/
def normalizeName (name : Option Text) : Option Text := truthy (name.map trimText)

/-- A URL as the browser parses it. -/
structure ParsedUrl where
  protocol : Text
  pathname : Text
  searchParams : List (Text × Text)
  hash : Text
  rest : Text

/-- `URL` -/
structure UrlApi where
  parse : Text → Option ParsedUrl
  toText : ParsedUrl → Text

def sensitiveQueryParams : List Text :=
  ["token", "secret", "private", "signature", "ciphertext", "authorization", "bearer"].map
    String.toList

def isSensitiveQueryParam (key : Text) : Bool :=
  sensitiveQueryParams.any fun pattern => pattern <:+: key.map Char.toLower

section Urls

variable (urls : UrlApi)

def stripSensitiveUrlParts (rawUrl : Text) : Text :=
  match urls.parse (trimText rawUrl) with
  | none => (trimText rawUrl).takeWhile (· ≠ '#')
  | some parsed => urls.toText { parsed with
      searchParams := parsed.searchParams.filter fun param => !isSensitiveQueryParam param.1
      hash := [] }

/-- The path in front of `/…/client`, the form of older versions. -/
def legacyBase (path : Text) (serverId : Option Text) : Option Text :=
  (truthy serverId).bind fun serverId =>
    let legacySuffix := '/' :: (serverId ++ "/client".toList)
    if legacySuffix.isSuffixOf path then
      let base := path.take (path.length - legacySuffix.length)
      if "/ws".toList.isSuffixOf base then some base else none
    else none

/-- `normalizeRouteWsUrl` with `stripSensitiveQuery` -/
def normalizeRouteWsUrl (rawUrl : Text) (serverId : Option Text) : Text :=
  let cleanUrl := stripSensitiveUrlParts urls rawUrl
  match urls.parse cleanUrl with
  | none => cleanUrl
  | some parsed =>
    if parsed.protocol ≠ "ws:".toList ∧ parsed.protocol ≠ "wss:".toList then cleanUrl
    else
      let stripped := parsed.pathname.rdropWhile (· = '/')
      let normalizedPath := if stripped = [] then ['/'] else stripped
      match legacyBase normalizedPath serverId with
      | some base => urls.toText { parsed with pathname := base }
      | none =>
        if normalizedPath = ['/'] then urls.toText { parsed with pathname := "/ws".toList }
        else if "/ws".toList.isSuffixOf normalizedPath then
          urls.toText { parsed with pathname := normalizedPath }
        else cleanUrl

/-- The value, if it is one of those that are known, and else the first of these. -/
def oneOf (known : List String) (value : Option Text) : Text :=
  match value with
  | some value => if known.any fun name => name.toList = value then value else (known.headD "").toList
  | none => (known.headD "").toList

/-- The number of UTF-16 code units. -/
def utf16Length (text : Text) : ℕ := (text.map fun c => if c.toNat < 0x10000 then 1 else 2).sum

def normalizeMobileShortcuts (shortcuts : List MobileShortcut) : List MobileShortcut :=
  (shortcuts.filterMap fun shortcut =>
    let label := trimText shortcut.label
    if label = [] ∨ shortcut.data = [] ∨ 12 < utf16Length label ∨ 64 < utf16Length shortcut.data ∨
        '\x00' ∈ shortcut.data then none
    else some ⟨label, shortcut.data⟩).take 12

def normalizePreferences (preferences : Option BrowserPreferences) : BrowserPreferences where
  language := oneOf ["auto", "zh-CN", "en-US"] (preferences.map BrowserPreferences.language)
  theme := oneOf ["system", "dark", "light"] (preferences.map BrowserPreferences.theme)
  notifications := some (oneOf ["off", "mentions", "all"]
    (preferences.bind BrowserPreferences.notifications))
  mobileShortcuts :=
    normalizeMobileShortcuts ((preferences.map BrowserPreferences.mobileShortcuts).getD [])

def normalizeServer (server : PairedServerState) : PairedServerState :=
  { server with
    url := normalizeRouteWsUrl urls server.url (some server.serverId)
    deviceCertificate := truthy server.deviceCertificate
    name := normalizeName server.name }

def normalizeState (state : BrowserState) : BrowserState :=
  let pairedServers := state.pairedServers.map (normalizeServer urls)
  let defaultUrlServerId :=
    state.defaultServerId.or (pairedServers.head?.map PairedServerState.serverId)
  { device := state.device.map fun device => { device with name := normalizeName device.name }
    pairedServers
    defaultServerId := state.defaultServerId
    defaultUrl := state.defaultUrl.map fun url =>
      if url = [] then url else normalizeRouteWsUrl urls url defaultUrlServerId
    preferences := some (normalizePreferences state.preferences) }

/-! ### The operations -/

structure PairAcceptPayload where
  serverId : Text
  daemonPublicKey : Text
  deviceCertificate : Option Text := none
deriving DecidableEq

/-- The operations, with what they draw at random and read from the clock. -/
inductive Operation
  | ensureDevice (generated : DeviceState) (defaultDeviceName : Text)
  | recordPairing (accepted : PairAcceptPayload) (url : Text) (nowMs : ℤ)
  | renameDaemon (serverId name : Text)
  | forgetDaemon (serverId : Text)
  | recordServerUrl (serverId url : Text)
  | recordDeviceCertificate (serverId deviceCertificate : Text)
  | saveBrowserPreferences (preferences : BrowserPreferences)
  | selectDefaultServer (serverId : Text)
deriving DecidableEq

inductive Result
  | device (device : DeviceState)
  | state (state : BrowserState)

/-- The servers with the one of this identity changed. -/
def updateServer (serverId : Text) (update : PairedServerState → PairedServerState)
    (servers : List PairedServerState) : List PairedServerState :=
  servers.map fun server => if server.serverId = serverId then update server else server

/-- The record is cleaned, saved and returned. -/
def saved (state : BrowserState) : Option BrowserState × Result :=
  (some (normalizeState urls state), .state (normalizeState urls state))

/-- What an operation saves, if anything, and what it returns, when it has loaded a record. -/
def Operation.run (state : BrowserState) : Operation → Option BrowserState × Result
  | .ensureDevice generated defaultDeviceName =>
    match state.device with
    | some device =>
      if normalizeName device.name = none then
        let device := { device with name := some defaultDeviceName }
        (some { state with device := some device }, .device device)
      else (none, .device device)
    | none =>
      let device := { generated with name := some defaultDeviceName }
      (some { state with device := some device }, .device device)
  | .recordPairing accepted url nowMs =>
    let normalizedUrl := normalizeRouteWsUrl urls url (some accepted.serverId)
    let existing := state.pairedServers.find? fun server => server.serverId = accepted.serverId
    let server : PairedServerState :=
      { serverId := accepted.serverId
        daemonPublicKey := accepted.daemonPublicKey
        url := normalizedUrl
        pairedAtMs := nowMs
        deviceCertificate := truthy accepted.deviceCertificate
        name := truthy (existing.bind PairedServerState.name) }
    saved urls { state with
      pairedServers :=
        (state.pairedServers.filter fun other => other.serverId ≠ accepted.serverId) ++ [server]
      defaultServerId := some accepted.serverId
      defaultUrl := some normalizedUrl }
  | .renameDaemon serverId name =>
    saved urls { state with
      pairedServers := updateServer serverId
        (fun server => { server with name := normalizeName (some name) }) state.pairedServers }
  | .forgetDaemon serverId =>
    let pairedServers := state.pairedServers.filter fun server => server.serverId ≠ serverId
    let defaultServer :=
      (pairedServers.find? fun server => some server.serverId = state.defaultServerId).or
        pairedServers.head?
    saved urls { state with
      pairedServers
      defaultServerId := defaultServer.map PairedServerState.serverId
      defaultUrl := defaultServer.map PairedServerState.url }
  | .recordServerUrl serverId url =>
    let cleanUrl := normalizeRouteWsUrl urls url (some serverId)
    saved urls { state with
      pairedServers := updateServer serverId (fun server => { server with url := cleanUrl })
        state.pairedServers
      defaultServerId := some serverId
      defaultUrl := some cleanUrl }
  | .recordDeviceCertificate serverId deviceCertificate =>
    saved urls { state with
      pairedServers := updateServer serverId
        (fun server => { server with deviceCertificate := some deviceCertificate })
        state.pairedServers }
  | .saveBrowserPreferences preferences => saved urls { state with preferences := some preferences }
  | .selectDefaultServer serverId =>
    match state.pairedServers.find? fun server => server.serverId = serverId with
    | none => (none, .state state)
    | some server =>
      saved urls { state with
        defaultServerId := some server.serverId, defaultUrl := some server.url }

/-- `loadBrowserState` -/
def loadBrowserState (stored : Option BrowserState) : BrowserState :=
  normalizeState urls (stored.getD {})

/-- What an operation makes of the record in the database; `saveBrowserState` cleans it again. -/
def act (operation : Operation) (stored : Option BrowserState) :
    Option (Option BrowserState) × Result :=
  let (next, result) := operation.run urls (loadBrowserState urls stored)
  (next.map fun state => some (normalizeState urls state), result)

end Urls

/-- The record in the database, and the operations on it. -/
abbrev Cell := LoadSave.Cell Operation (Option BrowserState) Result

/-! ### No update is lost -/

/-- The identity of a device, without its name. -/
def DeviceState.identity (device : DeviceState) : Text × Text × Text :=
  (device.deviceId, device.devicePublicKey, device.deviceSigningKeySecret)

/-- The identities that `ensureDevice` has returned. -/
def identities (done : List (Operation × Result)) : List (Text × Text × Text) :=
  done.filterMap fun entry =>
    match entry with
    | (.ensureDevice _ _, .device device) => some device.identity
    | _ => none

/-- The operation is about this daemon. -/
def Operation.About (serverId : Text) : Operation → Prop
  | .recordPairing accepted _ _ => accepted.serverId = serverId
  | .renameDaemon other _ => other = serverId
  | .forgetDaemon other => other = serverId
  | .recordServerUrl other _ => other = serverId
  | .recordDeviceCertificate other _ => other = serverId
  | .selectDefaultServer other => other = serverId
  | .ensureDevice _ _ => False
  | .saveBrowserPreferences _ => False

/-- The key of a daemon and the certificate that it has given out. -/
def credentials (state : BrowserState) (serverId : Text) : Option (Text × Option Text) :=
  (state.pairedServers.find? fun server => server.serverId = serverId).map fun server =>
    (server.daemonPublicKey, server.deviceCertificate)

/-- **No update is lost.** -/
structure KeepsUpdates (urls : UrlApi) (initial : Option BrowserState) (c : Cell) : Prop where
  /-- The record and the results are those of the operations one after another. -/
  sequential : ∃ finished : List (Operation × Result), finished.Perm c.done ∧
    LoadSave.sequentially (act urls) initial (finished.map Prod.fst) =
      (c.content, finished.map Prod.snd)
  /-- All calls of `ensureDevice` return the same identity. -/
  oneDevice : ∀ identity ∈ identities c.done, ∀ other ∈ identities c.done, identity = other
  /-- The pairing with a daemon and its certificate are not touched by other operations. -/
  kept : ∀ save ∈ c.saves, ∀ serverId, ¬save.1.About serverId →
    credentials (loadBrowserState urls save.2.2) serverId =
      credentials (loadBrowserState urls save.2.1) serverId

/-! ### What an operation keeps -/

section Kept

variable {urls : UrlApi} {state next : BrowserState} {serverId other : Text}
  {servers : List PairedServerState}

theorem truthy_truthy (text : Option Text) : truthy (truthy text) = truthy text := by
  rw [truthy, truthy, Option.filter_filter]
  simp only [Bool.and_self]

theorem credentials_normalizeState (urls : UrlApi) (state : BrowserState) (serverId : Text) :
    credentials (normalizeState urls state) serverId =
      (credentials state serverId).map fun entry => (entry.1, truthy entry.2) := by
  rw [credentials, credentials, normalizeState]
  dsimp only
  rw [List.find?_map, Option.map_map, Option.map_map]
  rfl

/-- A clean record is clean. -/
theorem credentials_normalizeState_twice (urls : UrlApi) (state : BrowserState) (serverId : Text) :
    credentials (normalizeState urls (normalizeState urls state)) serverId =
      credentials (normalizeState urls state) serverId := by
  rw [credentials_normalizeState, credentials_normalizeState, Option.map_map]
  congr 1
  funext entry
  exact congrArg (Prod.mk entry.1) (truthy_truthy entry.2)

/-- Only the daemons count. -/
theorem credentials_congr (h : next.pairedServers.find? (fun server => server.serverId = serverId) =
    state.pairedServers.find? fun server => server.serverId = serverId) :
    credentials next serverId = credentials state serverId := by
  rw [credentials, credentials, h]

theorem find?_updateServer (hne : other ≠ serverId) {update : PairedServerState → PairedServerState}
    (hupdate : ∀ server, (update server).serverId = server.serverId) :
    (updateServer other update servers).find? (fun server => server.serverId = serverId) =
      servers.find? fun server => server.serverId = serverId := by
  induction servers with
  | nil => rfl
  | cons server servers ih =>
    rw [updateServer, List.map_cons, List.find?_cons, List.find?_cons]
    by_cases hother : server.serverId = other
    · have hserver : server.serverId ≠ serverId := fun heq => hne (hother.symm.trans heq)
      simp only [hother, hupdate, if_true, hne, decide_false]
      exact ih
    · rw [if_neg hother]
      cases decide (server.serverId = serverId) with
      | true => rfl
      | false => exact ih

theorem find?_filter_ne (hne : other ≠ serverId) :
    (servers.filter fun server => server.serverId ≠ other).find?
        (fun server => server.serverId = serverId) =
      servers.find? fun server => server.serverId = serverId := by
  rw [List.find?_filter]
  congr 1
  funext server
  by_cases hserver : server.serverId = serverId
  · have hother : server.serverId ≠ other := fun heq => hne (heq.symm.trans hserver)
    simp [hserver, hne.symm]
  · simp [hserver]

/-- **An operation keeps the other daemons**, their keys and their certificates. -/
theorem run_credentials {operation : Operation} (habout : ¬operation.About serverId)
    (hrun : (operation.run urls state).1 = some next) :
    credentials (normalizeState urls next) serverId =
      credentials (normalizeState urls state) serverId := by
  -- whatever is saved was cleaned, and has the same entry for the daemon
  have hsaved {changed : BrowserState} (hrun : (saved urls changed).1 = some next)
      (h : changed.pairedServers.find? (fun server => server.serverId = serverId) =
        state.pairedServers.find? fun server => server.serverId = serverId) :
      credentials (normalizeState urls next) serverId =
        credentials (normalizeState urls state) serverId := by
    obtain rfl : normalizeState urls changed = next := Option.some.inj hrun
    rw [credentials_normalizeState_twice, credentials_normalizeState, credentials_congr h,
      ← credentials_normalizeState]
  have hsame (h : next.pairedServers = state.pairedServers) :
      credentials (normalizeState urls next) serverId =
        credentials (normalizeState urls state) serverId := by
    have hcred : credentials next serverId = credentials state serverId := by
      rw [credentials, credentials, h]
    rw [credentials_normalizeState, credentials_normalizeState, hcred]
  cases operation with
  | ensureDevice generated defaultDeviceName =>
    refine hsame ?_
    rw [Operation.run] at hrun
    split at hrun
    next device hdevice =>
      split_ifs at hrun
      obtain rfl := Option.some.inj hrun
      rfl
    next =>
      obtain rfl := Option.some.inj hrun
      rfl
  | recordPairing accepted url nowMs =>
    have hne : accepted.serverId ≠ serverId := habout
    refine hsaved hrun ?_
    dsimp only
    rw [List.find?_append, find?_filter_ne hne, List.find?_singleton]
    simp [hne]
  | renameDaemon other name =>
    exact hsaved hrun (find?_updateServer habout fun _ => rfl)
  | forgetDaemon other => exact hsaved hrun (find?_filter_ne habout)
  | recordServerUrl other url => exact hsaved hrun (find?_updateServer habout fun _ => rfl)
  | recordDeviceCertificate other deviceCertificate =>
    exact hsaved hrun (find?_updateServer habout fun _ => rfl)
  | saveBrowserPreferences preferences => exact hsaved hrun rfl
  | selectDefaultServer other =>
    rw [Operation.run] at hrun
    split at hrun
    next => cases hrun
    next => exact hsaved hrun rfl

/-- The identity in the record. -/
def identity (state : BrowserState) : Option (Text × Text × Text) :=
  state.device.map DeviceState.identity

theorem identity_normalizeState (urls : UrlApi) (state : BrowserState) :
    identity (normalizeState urls state) = identity state := by
  rw [identity, identity, normalizeState]
  dsimp only
  rw [Option.map_map]
  rfl

/-- **An operation keeps the device**, if there is one, and only `ensureDevice` makes one. -/
theorem run_device {operation : Operation} (hrun : (operation.run urls state).1 = some next) :
    identity next = identity state ∨ identity state = none := by
  have hsaved {changed : BrowserState} (hrun : (saved urls changed).1 = some next)
      (h : changed.device = state.device) : identity next = identity state ∨ identity state = none := by
    obtain rfl : normalizeState urls changed = next := Option.some.inj hrun
    rw [identity_normalizeState, identity, h]
    exact .inl rfl
  cases operation with
  | ensureDevice generated defaultDeviceName =>
    rw [Operation.run] at hrun
    split at hrun
    next device hdevice =>
      split_ifs at hrun
      obtain rfl := Option.some.inj hrun
      left
      rw [identity, identity, hdevice]
      rfl
    next hdevice =>
      right
      rw [identity, hdevice]
      rfl
  | recordPairing => exact hsaved hrun rfl
  | renameDaemon => exact hsaved hrun rfl
  | forgetDaemon => exact hsaved hrun rfl
  | recordServerUrl => exact hsaved hrun rfl
  | recordDeviceCertificate => exact hsaved hrun rfl
  | saveBrowserPreferences => exact hsaved hrun rfl
  | selectDefaultServer =>
    rw [Operation.run] at hrun
    split at hrun
    next => cases hrun
    next => exact hsaved hrun rfl

/-- What `ensureDevice` returns is in the record afterwards. -/
theorem ensureDevice_run (urls : UrlApi) (state : BrowserState) (generated : DeviceState)
    (defaultDeviceName : Text) :
    ∃ device, (Operation.run urls state (.ensureDevice generated defaultDeviceName)).2 =
        .device device ∧
      identity ((Operation.run urls state (.ensureDevice generated defaultDeviceName)).1.getD state) =
        some device.identity := by
  rw [Operation.run]
  cases hdevice : state.device with
  | none => exact ⟨_, rfl, rfl⟩
  | some device =>
    dsimp only
    split_ifs
    · exact ⟨_, rfl, rfl⟩
    · refine ⟨device, rfl, ?_⟩
      rw [Option.getD_none, identity, hdevice]
      rfl

end Kept

/-! ### One operation after another -/

section Act

variable {urls : UrlApi} {content content' : Option BrowserState} {operation : Operation}

/-- The record behind an operation. -/
theorem loadBrowserState_act (urls : UrlApi) (operation : Operation)
    (content : Option BrowserState) :
    identity (loadBrowserState urls ((act urls operation content).1.getD content)) =
      identity ((operation.run urls (loadBrowserState urls content)).1.getD
        (loadBrowserState urls content)) := by
  rcases hrun : operation.run urls (loadBrowserState urls content) with ⟨next, result⟩
  rw [act, hrun]
  cases next with
  | none => rfl
  | some next =>
    change identity (normalizeState urls (normalizeState urls next)) = identity next
    rw [identity_normalizeState, identity_normalizeState]

/-- An operation keeps the device that is there. -/
theorem identity_act {device : Text × Text × Text}
    (h : identity (loadBrowserState urls content) = some device) :
    identity (loadBrowserState urls ((act urls operation content).1.getD content)) =
      some device := by
  rw [loadBrowserState_act]
  cases hrun : (operation.run urls (loadBrowserState urls content)).1 with
  | none => exact h
  | some next =>
    rcases run_device hrun with hnext | hnone
    · exact hnext.trans h
    · rw [hnone] at h
      cases h

/-- `ensureDevice` returns the device that is there afterwards. -/
theorem ensureDevice_act {generated device : DeviceState} {defaultDeviceName : Text}
    (h : (act urls (.ensureDevice generated defaultDeviceName) content).2 = .device device) :
    identity (loadBrowserState urls
        ((act urls (.ensureDevice generated defaultDeviceName) content).1.getD content)) =
      some device.identity := by
  obtain ⟨returned, hreturned, hidentity⟩ := ensureDevice_run urls
    (loadBrowserState urls content) generated defaultDeviceName
  obtain rfl : returned = device := Result.device.inj (hreturned.symm.trans h)
  rw [loadBrowserState_act]
  exact hidentity

/-- **One device for all**: it stays, and every `ensureDevice` returns it. -/
theorem identity_sequentially {finished : List (Operation × Result)}
    (h : LoadSave.sequentially (act urls) content (finished.map Prod.fst) =
      (content', finished.map Prod.snd)) :
    (∀ device, identity (loadBrowserState urls content) = some device →
      identity (loadBrowserState urls content') = some device) ∧
    ∀ device ∈ identities finished, identity (loadBrowserState urls content') = some device := by
  induction finished generalizing content with
  | nil =>
    cases h
    exact ⟨fun _ h => h, fun _ h => by cases h⟩
  | cons entry finished ih =>
    obtain ⟨operation, result⟩ := entry
    rw [List.map_cons, List.map_cons, LoadSave.sequentially_cons] at h
    obtain ⟨hcontent, hresults⟩ := Prod.mk.inj h
    obtain ⟨hresult, hrest⟩ := List.cons.inj hresults
    obtain ⟨hstays, hreturned⟩ := ih (Prod.ext hcontent hrest)
    refine ⟨fun device hdevice => hstays device (identity_act hdevice), fun device hdevice => ?_⟩
    rw [identities, List.filterMap_cons] at hdevice
    split at hdevice
    next => exact hreturned device hdevice
    next identity hentry =>
      rcases List.mem_cons.mp hdevice with rfl | hdevice
      · -- the first operation is an `ensureDevice`
        split at hentry
        next generated name returned heq =>
          obtain ⟨rfl, rfl⟩ := Prod.mk.inj heq
          obtain rfl := Option.some.inj hentry
          exact hstays _ (ensureDevice_act hresult)
        next => cases hentry
      · exact hreturned device hdevice

/-- What is saved has the same entry for the other daemons. -/
theorem act_credentials {serverId : Text} (habout : ¬operation.About serverId)
    (hact : (act urls operation content).1 = some content') :
    credentials (loadBrowserState urls content') serverId =
      credentials (loadBrowserState urls content) serverId := by
  obtain ⟨next, hrun, rfl⟩ := Option.map_eq_some_iff.mp hact
  change credentials (normalizeState urls (normalizeState urls next)) serverId = _
  rw [credentials_normalizeState_twice, run_credentials habout hrun]
  exact credentials_normalizeState_twice urls _ serverId

end Act

/-! ### Undisturbed operations -/

/-- **Undisturbed operations lose no update.** -/
theorem keepsUpdates_of_undisturbed (urls : UrlApi) (initial : Option BrowserState)
    (steps : List (LoadSave.Step Operation)) (c : Cell)
    (hrun : exec (LoadSave.Cell.step (act urls)) { content := initial } steps = some c)
    (hsteps : Along (LoadSave.Cell.step (act urls)) (fun c l => c.Undisturbed l = true)
      { content := initial } steps) : KeepsUpdates urls initial c := by
  obtain ⟨finished, h⟩ := LoadSave.exists_invariant_of_run hrun hsteps
  refine ⟨⟨finished, h.perm, h.sequential⟩, ?_, ?_⟩
  · have hidentities (device : Text × Text × Text) (hdevice : device ∈ identities c.done) :
        identity (loadBrowserState urls c.content) = some device :=
      (identity_sequentially h.sequential).2 device
        ((h.perm.filterMap _).mem_iff.mpr hdevice)
    intro device hdevice other hother
    exact Option.some.inj ((hidentities device hdevice).symm.trans (hidentities other hother))
  · intro save hsave serverId habout
    exact act_credentials habout (h.saves save hsave)

/-- A browser that parses no URL: every text stays as it is. -/
def verbatimUrls : UrlApi where
  parse _ := none
  toText _ := []

/-- The pairing of a daemon. -/
def pairing (serverId : String) : Operation :=
  .recordPairing ⟨serverId.toList, "key".toList, none⟩ "ws://host/ws".toList 0

/-- Two pairings, the second of which loads what the first has saved. -/
theorem pairings_kept : ∃ c, KeepsUpdates verbatimUrls none c ∧ c.saves.length = 2 := by
  let steps : List (LoadSave.Step Operation) :=
    [.start (pairing "a"), .start (pairing "b"), .load 0, .save 0, .load 1, .save 1]
  have hrun : (exec (LoadSave.Cell.step (act verbatimUrls)) { content := none } steps).any
      (fun c => c.saves.length = 2) = true := by decide +kernel
  obtain ⟨c, hc, hsaves⟩ := Option.any_eq_true _ _ |>.mp hrun
  exact ⟨c, keepsUpdates_of_undisturbed verbatimUrls none steps c hc (by decide +kernel),
    of_decide_eq_true hsaves⟩

/-- **The second of two pairings takes back the first**, if both load the record before either
saves it. -/
theorem pairing_lost : ¬∀ (urls : UrlApi) (initial : Option BrowserState)
    (steps : List (LoadSave.Step Operation)) (c : Cell),
    exec (LoadSave.Cell.step (act urls)) { content := initial } steps = some c →
      KeepsUpdates urls initial c := by
  intro h
  let steps : List (LoadSave.Step Operation) :=
    [.start (pairing "a"), .start (pairing "b"), .load 0, .load 1, .save 0, .save 1]
  let lost (c : Cell) : Bool := c.saves.any fun save =>
    save.1 = pairing "b" ∧ credentials (loadBrowserState verbatimUrls save.2.2) "a".toList ≠
      credentials (loadBrowserState verbatimUrls save.2.1) "a".toList
  have hrun : (exec (LoadSave.Cell.step (act verbatimUrls)) { content := none } steps).any
      lost = true := by decide +kernel
  obtain ⟨c, hc, hlost⟩ := Option.any_eq_true _ _ |>.mp hrun
  obtain ⟨save, hsave, hbad⟩ := List.any_eq_true.mp hlost
  obtain ⟨hoperation, hcredentials⟩ := of_decide_eq_true hbad
  refine hcredentials ((h verbatimUrls none steps c hc).kept save hsave "a".toList ?_)
  rw [hoperation]
  exact fun heq => by cases heq

end Termd.Browser.State
