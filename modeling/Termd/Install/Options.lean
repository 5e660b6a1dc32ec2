import Termd.Library.TextSplit
import Termd.Library.Utf8Lossy

/-!
# The options of the installer

The arguments of `install` and `uninstall` are read from left to right. An option of `install` may
take a value, which follows it or is joined to it with `=`. A value that must not be seen goes
into a variable for the script, and of it the summary only says that it was configured.

## Main definitions

* `ParsedOptions.parse`: what the arguments ask for
* `renderPlan`: what is shown before anything is done
* `SameShape`: two lists of arguments that differ in secret values

## Main results

* `parse_sameShape`: the values of the secret options are in the variables, and nothing else depends
  on them
-/

namespace Termd.Install

/-- The bytes of an argument or a path. -/
abbrev OsString := List UInt8

namespace OsString

def ofChars (text : List Char) : OsString := text.flatMap encodeUtf8

/-- `OsString::from` -/
def ofString (text : String) : OsString := ofChars text.toList

/-- `to_str` -/
def toStr (s : OsString) : Option (List Char) :=
  match fromUtf8 s with
  | .ok text => some text
  | .incomplete | .invalid => none

/-- `to_string_lossy`, and how a path is displayed. -/
def toStringLossy (s : OsString) : String :=
  String.ofList ((fromUtf8Lossy s).map Utf8Piece.toChar)

/-- `Path::join` with a name. -/
def join (path : OsString) (name : String) : OsString :=
  match path.getLast? with
  | none => ofString name
  | some last => if last = 47 then path ++ ofString name else path ++ 47 :: ofString name

end OsString

/-! ### Options -/

inductive Component
  | termd
  | termrelay
  | termctl
deriving DecidableEq

def Component.binaryName : Component → String
  | .termd => "termd"
  | .termrelay => "termrelay"
  | .termctl => "termctl"

inductive Action
  | install
  | uninstall
deriving DecidableEq

/-- The errors of the parser. -/
inductive Error
  | unknownArgument (argument : String)
  | duplicateArgument (flag : String)
  | conflictingArguments (first second : String)
  | missingValue (flag : String)
  | emptyValue (flag : String)
  | purgeUnsupported

/-- `Display` -/
def Error.display : Error → String
  | unknownArgument argument => "unknown installer argument: " ++ argument
  | duplicateArgument flag => flag ++ " may be specified only once"
  | conflictingArguments first second =>
    first ++ " conflicts with " ++ second ++ "; do not use them together"
  | missingValue flag => flag ++ " requires a value"
  | emptyValue flag => flag ++ " requires a non-empty value"
  | purgeUnsupported =>
    "termctl has no managed service state; --purge is unsupported " ++
      "and normal uninstall preserves pairing state"

structure FlagSpecification where
  flag : String
  summary : String
  takesValue : Bool
  scriptEnv : Option String
deriving DecidableEq

def booleanFlag (flag summary : String) : FlagSpecification := ⟨flag, summary, false, none⟩

def valueFlag (flag summary : String) (scriptEnv : Option String) : FlagSpecification :=
  ⟨flag, summary, true, scriptEnv⟩

def installFlag (component : Component) (flag : String) : Option FlagSpecification :=
  match component, flag with
  | .termd, "--web" => some (booleanFlag "--web" "embedded Web UI enabled")
  | .termd, "--no-web" => some (booleanFlag "--no-web" "embedded Web UI disabled")
  | .termd, "--public" => some (booleanFlag "--public" "public listen alias")
  | .termd, "--listen" => some (valueFlag "--listen" "listen address" none)
  | .termd, "--relay" | .termd, "--relay-url" =>
    some (valueFlag "--relay" "trusted relay" (some "TERMD_INSTALL_ARG_RELAY_URL"))
  | .termd, "--relay-daemon-token-file" =>
    some (valueFlag "--relay-daemon-token-file" "relay daemon token file"
      (some "TERMD_INSTALL_ARG_RELAY_DAEMON_TOKEN_FILE"))
  | .termd, "--relay-setup-token-file" =>
    some (valueFlag "--relay-setup-token-file" "relay setup token file"
      (some "TERMD_INSTALL_ARG_RELAY_SETUP_TOKEN_FILE"))
  | .termd, "--relay-token" =>
    some (valueFlag "--relay-token" "relay setup token"
      (some "TERMD_INSTALL_ARG_RELAY_SETUP_TOKEN"))
  | .termd, "--proxy" | .termd, "--relay-proxy" =>
    some (valueFlag "--proxy" "outbound proxy" (some "TERMD_INSTALL_ARG_PROXY"))
  | .termd, "--tls-cert" => some (valueFlag "--tls-cert" "TLS certificate" none)
  | .termd, "--tls-key" =>
    some (valueFlag "--tls-key" "TLS private key" (some "TERMD_INSTALL_ARG_TLS_KEY"))
  | .termd, "--supervisor-version" =>
    some (valueFlag "--supervisor-version" "supervisor compatibility" none)
  | .termd, "--user" => some (valueFlag "--user" "service user" none)
  | .termrelay, "--web" => some (booleanFlag "--web" "embedded Web UI enabled")
  | .termrelay, "--no-web" => some (booleanFlag "--no-web" "embedded Web UI disabled")
  | .termrelay, "--public" => some (booleanFlag "--public" "public listen alias")
  | .termrelay, "--listen" => some (valueFlag "--listen" "listen address" none)
  | .termrelay, "--setup-token-file" =>
    some (valueFlag "--setup-token-file" "relay setup token file"
      (some "TERMD_INSTALL_ARG_SETUP_TOKEN_FILE"))
  | .termrelay, "--daemon-registry" =>
    some (valueFlag "--daemon-registry" "daemon registry" none)
  | .termrelay, "--tls-cert" => some (valueFlag "--tls-cert" "TLS certificate" none)
  | .termrelay, "--tls-key" =>
    some (valueFlag "--tls-key" "TLS private key" (some "TERMD_INSTALL_ARG_TLS_KEY"))
  | _, _ => none

/-- `safe_unknown_argument` -/
def safeUnknownArgument (argument : String) : String :=
  if argument.toList.head? = some '-' then argument else "<argument>"

structure ParsedOptions where
  action : Action
  version : String
  supervisorVersion : Option String
  yes : Bool := false
  dryRun : Bool := false
  help : Bool := false
  purge : Bool := false
  allowSessionLoss : Bool := false
  relayExplicit : Bool := false
  promptRelayToken : Bool := false
  explicitInstallSettings : Bool := false
  scriptArgs : List OsString := []
  scriptEnv : List (String × OsString) := []
  summary : List String := []

namespace ParsedOptions

variable (parsed : ParsedOptions)

/-- The variable has been set. -/
def hasEnv (name : String) : Bool := parsed.scriptEnv.any (·.1 = name)

/-- The value of an option. -/
def setValue (specification : FlagSpecification) (value : OsString) :
    Except Error ParsedOptions :=
  if value = [] then .error (.emptyValue specification.flag)
  else match specification.scriptEnv with
  | some environmentName =>
    if environmentName = "TERMD_INSTALL_ARG_RELAY_URL" ∧ parsed.hasEnv environmentName then
      .error (.duplicateArgument "--relay")
    else if environmentName = "TERMD_INSTALL_ARG_RELAY_SETUP_TOKEN" ∧
        parsed.hasEnv environmentName then
      .error (.duplicateArgument "--relay-token")
    else if environmentName = "TERMD_INSTALL_ARG_RELAY_SETUP_TOKEN_FILE" ∧
        parsed.hasEnv environmentName then
      .error (.duplicateArgument "--relay-setup-token-file")
    else .ok { parsed with
      relayExplicit :=
        parsed.relayExplicit || decide (environmentName = "TERMD_INSTALL_ARG_RELAY_URL")
      scriptEnv := parsed.scriptEnv ++ [(environmentName, value)]
      summary := parsed.summary ++ [specification.summary ++ ": configured"] }
  | none => .ok { parsed with
      scriptArgs := parsed.scriptArgs ++ [.ofString specification.flag, value]
      summary := parsed.summary ++ [specification.summary ++ ": " ++ value.toStringLossy] }

/-- The arms of the parser for the options that take no value in any component. -/
def fixedFlag (component : Component) (action : Action) (flag : String) :
    Option (Except Error ParsedOptions) :=
  if flag = "-h" ∨ flag = "--help" then some (.ok { parsed with help := true })
  else if flag = "--dry-run" then some (.ok { parsed with dryRun := true })
  else if flag = "--yes" then some (.ok { parsed with yes := true })
  else if flag = "--allow-session-loss" ∧ action = .install ∧ component = .termd then
    some (.ok { parsed with
      allowSessionLoss := true
      scriptArgs := parsed.scriptArgs ++ [.ofString "--allow-session-loss"]
      summary := parsed.summary ++
        ["allow incompatible supervisor upgrade to remove sessions: yes"] })
  else if flag = "--purge" ∧ action = .uninstall then
    if component ≠ .termctl then
      some (.ok { parsed with
        purge := true
        scriptArgs := parsed.scriptArgs ++ [.ofString "--purge"]
        summary := parsed.summary ++ ["purge local state: yes"] })
    else some (.error .purgeUnsupported)
  else none

/-- One argument; with the option when its value is to follow. -/
def parseArgument (component : Component) (action : Action) (flag : String)
    (inlineValue : Option (List Char)) :
    Except Error (ParsedOptions × Option FlagSpecification) :=
  match if inlineValue.isNone then parsed.fixedFlag component action flag else none with
  | some result => result.map fun parsed => (parsed, none)
  | none =>
    if action = .install then
      match installFlag component flag with
      | none => .error (.unknownArgument (safeUnknownArgument flag))
      | some specification =>
        let parsed := { parsed with explicitInstallSettings := true }
        if specification.takesValue then
          match inlineValue with
          | some value =>
            (parsed.setValue specification (.ofChars value)).map fun parsed => (parsed, none)
          | none => .ok (parsed, some specification)
        else if inlineValue.isSome then .error (.unknownArgument (safeUnknownArgument flag))
        else
          .ok ({ parsed with
            scriptArgs := parsed.scriptArgs ++ [.ofString specification.flag]
            summary := parsed.summary ++ [specification.summary ++ ": yes"] }, none)
    else .error (.unknownArgument (safeUnknownArgument flag))

end ParsedOptions

/-- The flag and the value that is joined to it. -/
def splitArgument (rawArgument : List Char) : List Char × Option (List Char) :=
  match splitOnce '=' rawArgument with
  | some (flag, value) => (flag, some value)
  | none => (rawArgument, none)

/-- The loop of the parser. -/
def parseArgs (component : Component) (action : Action) :
    List OsString → ParsedOptions → Except Error ParsedOptions
  | [], parsed => .ok parsed
  | argument :: args, parsed =>
    match argument.toStr with
    | none => .error (.unknownArgument "<non-UTF-8>")
    | some rawArgument =>
      let (flag, inlineValue) := splitArgument rawArgument
      match parsed.parseArgument component action (String.ofList flag) inlineValue with
      | .error error => .error error
      | .ok (parsed, none) => parseArgs component action args parsed
      | .ok (parsed, some specification) =>
        match args with
        | [] => .error (.missingValue specification.flag)
        | value :: args =>
          match parsed.setValue specification value with
          | .error error => .error error
          | .ok parsed => parseArgs component action args parsed

/-- What is checked after the last argument. -/
def ParsedOptions.finish (parsed : ParsedOptions) : Except Error ParsedOptions :=
  let hasDirectRelayToken := parsed.hasEnv "TERMD_INSTALL_ARG_RELAY_SETUP_TOKEN"
  let hasRelayTokenFile := parsed.hasEnv "TERMD_INSTALL_ARG_RELAY_SETUP_TOKEN_FILE"
  if hasDirectRelayToken && hasRelayTokenFile then
    .error (.conflictingArguments "--relay-token" "--relay-setup-token-file")
  else if parsed.relayExplicit && !hasDirectRelayToken && !hasRelayTokenFile then
    .ok { parsed with
      promptRelayToken := true
      summary := parsed.summary ++
        ["relay setup token: will prompt securely during installation"] }
  else .ok parsed

/-- `Options::Install` or `Options::Uninstall` -/
structure Options where
  action : Action
  version : String
  supervisorVersion : Option String
  args : List OsString

def ParsedOptions.parse (component : Component) (options : Options) : Except Error ParsedOptions :=
  let parsed : ParsedOptions :=
    { action := options.action
      version := options.version
      supervisorVersion := match options.action with
        | .install => options.supervisorVersion
        | .uninstall => none }
  match parseArgs component options.action options.args parsed with
  | .error error => .error error
  | .ok parsed => parsed.finish

def renderPlan (component : Component) (parsed : ParsedOptions)
    (currentExe installPrefix : OsString) : String :=
  let action := match parsed.action with
    | .install => "install or upgrade"
    | .uninstall => "uninstall"
  let target := (installPrefix.join "bin").join component.binaryName
  (if parsed.dryRun then "Dry run: no files or services will be changed.\n" else "") ++
  "[1/3] Component\n  action: " ++ action ++ "\n  component: " ++ component.binaryName ++ " " ++
    parsed.version ++ "\n  binary: " ++ currentExe.toStringLossy ++ "\n  target: " ++
    target.toStringLossy ++ "\n" ++
  "[2/3] Configuration\n" ++
  (if parsed.summary = [] then
    "  existing configuration is preserved; fresh installs use safe defaults\n"
  else String.join (parsed.summary.map fun summary => "  " ++ summary ++ "\n")) ++
  "[3/3] Safety\n  the embedded installer keeps existing rollback and service checks\n" ++
  if parsed.purge then "  WARNING: purge removes component state and cannot be undone\n"
  else if parsed.allowSessionLoss then
    "  WARNING: session loss is authorized if supervisor compatibility changes\n"
  else if parsed.action = .uninstall then "  local state is preserved\n"
  else "  network installer download and source-build fallback are bypassed\n"

/-! ### Arguments of the same shape -/

/-- The option that takes a value which the argument names, with the flag that is used and the value
that is joined to it. -/
def valueOption (component : Component) (argument : OsString) :
    Option (String × FlagSpecification × Option (List Char)) := do
  let rawArgument ← argument.toStr
  let (flag, inlineValue) := splitArgument rawArgument
  let specification ← installFlag component (String.ofList flag)
  if specification.takesValue then some (String.ofList flag, specification, inlineValue) else none

/-- The values of a secret option in two lists of arguments. -/
structure Secret where
  environmentName : String
  first : OsString
  second : OsString
  first_ne_nil : first ≠ []
  second_ne_nil : second ≠ []

/-- Two lists of arguments that differ in the values of their secret options. -/
inductive SameShape (component : Component) :
    List OsString → List OsString → List Secret → Prop
  | nil : SameShape component [] [] []
  /-- A secret value follows its option. -/
  | following (secret : Secret) {argument : OsString} {flag : String}
      {specification : FlagSpecification} {args₁ args₂ : List OsString} {given : List Secret} :
      valueOption component argument = some (flag, specification, none) →
      specification.scriptEnv = some secret.environmentName →
      SameShape component args₁ args₂ given →
      SameShape component (argument :: secret.first :: args₁)
        (argument :: secret.second :: args₂) (secret :: given)
  /-- A secret value is joined to its option. -/
  | joined (secret : Secret) {argument₁ argument₂ : OsString} {flag : String}
      {specification : FlagSpecification} {value₁ value₂ : List Char}
      {args₁ args₂ : List OsString} {given : List Secret} :
      valueOption component argument₁ = some (flag, specification, some value₁) →
      valueOption component argument₂ = some (flag, specification, some value₂) →
      specification.scriptEnv = some secret.environmentName →
      secret.first = .ofChars value₁ → secret.second = .ofChars value₂ →
      SameShape component args₁ args₂ given →
      SameShape component (argument₁ :: args₁) (argument₂ :: args₂) (secret :: given)
  /-- Any other value follows its option, also an empty one of a secret option. -/
  | value {argument value : OsString} {flag : String} {specification : FlagSpecification}
      {args₁ args₂ : List OsString} {given : List Secret} :
      valueOption component argument = some (flag, specification, none) →
      specification.scriptEnv = none ∨ value = [] →
      SameShape component args₁ args₂ given →
      SameShape component (argument :: value :: args₁) (argument :: value :: args₂) given
  /-- The value of the last option is missing. -/
  | last {argument : OsString} {flag : String} {specification : FlagSpecification} :
      valueOption component argument = some (flag, specification, none) →
      SameShape component [argument] [argument] []
  /-- Any other argument, also one that joins an empty value to a secret option. -/
  | argument {argument : OsString} {args₁ args₂ : List OsString} {given : List Secret} :
      (∀ flag specification inlineValue,
        valueOption component argument = some (flag, specification, inlineValue) →
          ∃ value, inlineValue = some value ∧ (specification.scriptEnv = none ∨ value = [])) →
      SameShape component args₁ args₂ given →
      SameShape component (argument :: args₁) (argument :: args₂) given

/-! ### What does not depend on the values -/

namespace ParsedOptions

/-- Everything but the values of the variables. -/
def withoutSecrets (parsed : ParsedOptions) : ParsedOptions :=
  { parsed with scriptEnv := parsed.scriptEnv.map fun entry => (entry.1, []) }

variable (parsed : ParsedOptions) {specification : FlagSpecification} {value value' : OsString}

@[simp] theorem withoutSecrets_withoutSecrets :
    parsed.withoutSecrets.withoutSecrets = parsed.withoutSecrets := by
  simp [withoutSecrets]

@[simp] theorem hasEnv_withoutSecrets (name : String) :
    parsed.withoutSecrets.hasEnv name = parsed.hasEnv name := by
  simp [withoutSecrets, hasEnv, Function.comp_def]

/-- What an option makes of its value. -/
theorem setValue_withoutSecrets
    (h : value = value' ∨ specification.scriptEnv.isSome = true ∧ value ≠ [] ∧ value' ≠ []) :
    (parsed.withoutSecrets.setValue specification value').map withoutSecrets =
      (parsed.setValue specification value).map withoutSecrets := by
  have hempty : value = [] ↔ value' = [] := by
    obtain rfl | ⟨-, hne, hne'⟩ := h
    · exact Iff.rfl
    · exact iff_of_false hne hne'
  rw [setValue, setValue]
  by_cases hvalue : value = []
  · rw [if_pos hvalue, if_pos (hempty.mp hvalue)]
  · rw [if_neg hvalue, if_neg (fun h => hvalue (hempty.mpr h))]
    cases hname : specification.scriptEnv with
    | none =>
      obtain rfl | ⟨hsome, -⟩ := h
      · simp [withoutSecrets, Except.map]
      · simp [hname] at hsome
    | some name =>
      simp only [hasEnv_withoutSecrets]
      split_ifs
      · rfl
      · rfl
      · rfl
      · simp [withoutSecrets, Except.map]

theorem finish_withoutSecrets :
    parsed.withoutSecrets.finish.map withoutSecrets = parsed.finish.map withoutSecrets := by
  have hexplicit : parsed.withoutSecrets.relayExplicit = parsed.relayExplicit := rfl
  rw [finish, finish]
  simp only [hasEnv_withoutSecrets, hexplicit]
  split_ifs
  · rfl
  · simp [withoutSecrets, Except.map]
  · simp [Except.map]

/-! ### What is put into the variables -/

variable {parsed} {parsed' : ParsedOptions}

theorem setValue_eq_ok (h : parsed.setValue specification value = .ok parsed') :
    parsed'.scriptEnv = parsed.scriptEnv ++
      (specification.scriptEnv.map fun name => (name, value)).toList := by
  rw [setValue] at h
  split_ifs at h
  cases hname : specification.scriptEnv with
  | none =>
    rw [hname] at h
    cases h
    simp
  | some name =>
    rw [hname] at h
    dsimp only at h
    split_ifs at h
    cases h
    simp

/-- An empty value is refused. -/
theorem ne_nil_of_setValue_eq_ok (h : parsed.setValue specification value = .ok parsed') :
    value ≠ [] := by
  rintro rfl
  rw [setValue, if_pos rfl] at h
  cases h

theorem finish_eq_ok (h : parsed.finish = .ok parsed') : parsed'.scriptEnv = parsed.scriptEnv := by
  rw [finish] at h
  split_ifs at h <;> cases h <;> rfl

end ParsedOptions

/-! ### Arguments -/

section Arguments

variable {component : Component} {action : Action} {argument : OsString} {flag : String}
  {specification : FlagSpecification} {inlineValue : Option (List Char)}

/-- The flags of the first arms are no options of a component. -/
theorem fixedFlag_of_installFlag (parsed : ParsedOptions)
    (h : installFlag component flag = some specification) :
    parsed.fixedFlag component action flag = none := by
  have hne {fixed : String} (hfixed : ∀ component, installFlag component fixed = none) :
      flag ≠ fixed := fun heq => by
    rw [heq, hfixed] at h
    cases h
  have hshort : flag ≠ "-h" := hne fun component => by cases component <;> rfl
  have hhelp : flag ≠ "--help" := hne fun component => by cases component <;> rfl
  have hdry : flag ≠ "--dry-run" := hne fun component => by cases component <;> rfl
  have hyes : flag ≠ "--yes" := hne fun component => by cases component <;> rfl
  have hloss : flag ≠ "--allow-session-loss" := hne fun component => by cases component <;> rfl
  have hpurge : flag ≠ "--purge" := hne fun component => by cases component <;> rfl
  rw [ParsedOptions.fixedFlag, if_neg (not_or.mpr ⟨hshort, hhelp⟩), if_neg hdry, if_neg hyes,
    if_neg fun h => hloss h.1, if_neg fun h => hpurge h.1]

theorem valueOption_eq_some
    (h : valueOption component argument = some (flag, specification, inlineValue)) :
    ∃ rawArgument flag', argument.toStr = some rawArgument ∧
      splitArgument rawArgument = (flag', inlineValue) ∧ String.ofList flag' = flag ∧
      installFlag component flag = some specification ∧ specification.takesValue = true := by
  rw [valueOption] at h
  obtain ⟨rawArgument, hraw, h⟩ := Option.bind_eq_some_iff.mp h
  obtain ⟨specification', hspec, h⟩ := Option.bind_eq_some_iff.mp h
  split_ifs at h with htakes
  cases h
  exact ⟨rawArgument, _, hraw, rfl, rfl, hspec, htakes⟩

/-- The state after an option is found. -/
def ParsedOptions.explicit (parsed : ParsedOptions) : ParsedOptions :=
  { parsed with explicitInstallSettings := true }

/-- The value of an option follows it. -/
theorem parseArgs_following
    (h : valueOption component argument = some (flag, specification, none)) (value : OsString)
    (args : List OsString) (parsed : ParsedOptions) :
    parseArgs component .install (argument :: value :: args) parsed =
      (parsed.explicit.setValue specification value).bind
        (parseArgs component .install args) := by
  obtain ⟨rawArgument, flag', hraw, hsplit, rfl, hspec, htakes⟩ := valueOption_eq_some h
  rw [parseArgs, hraw]
  simp only [hsplit, ParsedOptions.parseArgument, Option.isNone_none, if_true,
    fixedFlag_of_installFlag parsed hspec, hspec, htakes]
  rw [ParsedOptions.explicit]
  cases ParsedOptions.setValue _ specification value <;> rfl

/-- The value of the last option is missing. -/
theorem parseArgs_last (h : valueOption component argument = some (flag, specification, none))
    (parsed : ParsedOptions) :
    parseArgs component .install [argument] parsed =
      .error (.missingValue specification.flag) := by
  obtain ⟨rawArgument, flag', hraw, hsplit, rfl, hspec, htakes⟩ := valueOption_eq_some h
  rw [parseArgs, hraw]
  simp only [hsplit, ParsedOptions.parseArgument, Option.isNone_none, if_true,
    fixedFlag_of_installFlag parsed hspec, hspec, htakes]

/-- The value of an option is joined to it. -/
theorem parseArgs_joined {value : List Char}
    (h : valueOption component argument = some (flag, specification, some value))
    (args : List OsString) (parsed : ParsedOptions) :
    parseArgs component .install (argument :: args) parsed =
      (parsed.explicit.setValue specification (.ofChars value)).bind
        (parseArgs component .install args) := by
  obtain ⟨rawArgument, flag', hraw, hsplit, rfl, hspec, htakes⟩ := valueOption_eq_some h
  rw [parseArgs, hraw]
  simp only [hsplit, ParsedOptions.parseArgument, Option.isNone_some, if_false, hspec, htakes,
    if_true, Bool.false_eq_true]
  rw [ParsedOptions.explicit]
  cases ParsedOptions.setValue _ specification (.ofChars value) <;> rfl

/-- **Only `install` knows the options.** The error of `uninstall` has the flag, and no value. -/
theorem parseArgs_uninstall
    (h : valueOption component argument = some (flag, specification, inlineValue))
    (args : List OsString) (parsed : ParsedOptions) :
    parseArgs component .uninstall (argument :: args) parsed =
      .error (.unknownArgument (safeUnknownArgument flag)) := by
  obtain ⟨rawArgument, flag', hraw, hsplit, rfl, hspec, -⟩ := valueOption_eq_some h
  rw [parseArgs, hraw]
  simp only [hsplit, ParsedOptions.parseArgument, fixedFlag_of_installFlag parsed hspec, ite_self]
  rfl

/-- A change that neither sees nor touches the variables. -/
structure IsPublic (f : ParsedOptions → ParsedOptions) : Prop where
  withoutSecrets : ∀ parsed, f parsed.withoutSecrets = (f parsed).withoutSecrets
  scriptEnv : ∀ parsed, (f parsed).scriptEnv = parsed.scriptEnv

theorem fixedFlag_cases (component : Component) (action : Action) (flag : String) :
    (∀ parsed : ParsedOptions, parsed.fixedFlag component action flag = none) ∨
    (∃ error, ∀ parsed : ParsedOptions,
      parsed.fixedFlag component action flag = some (.error error)) ∨
    ∃ f, IsPublic f ∧ ∀ parsed : ParsedOptions,
      parsed.fixedFlag component action flag = some (.ok (f parsed)) := by
  simp only [ParsedOptions.fixedFlag]
  split_ifs
  all_goals first
    | exact .inl fun _ => rfl
    | exact .inr (.inl ⟨_, fun _ => rfl⟩)
    | refine .inr (.inr ⟨_, ?_, fun _ => rfl⟩)
      exact ⟨fun _ => rfl, fun _ => rfl⟩

/-- What a flag that takes no value does is decided without the state. -/
theorem parseArgument_cases (inlineValue : Option (List Char))
    (h : ∀ specification, action = .install → installFlag component flag = some specification →
      specification.takesValue = false) :
    (∃ error, ∀ parsed : ParsedOptions,
      parsed.parseArgument component action flag inlineValue = .error error) ∨
    ∃ f, IsPublic f ∧ ∀ parsed : ParsedOptions,
      parsed.parseArgument component action flag inlineValue = .ok (f parsed, none) := by
  have hoption : (∀ parsed : ParsedOptions,
      (if inlineValue.isNone then parsed.fixedFlag component action flag else none) = none) →
      (∃ error, ∀ parsed : ParsedOptions,
        parsed.parseArgument component action flag inlineValue = .error error) ∨
      ∃ f, IsPublic f ∧ ∀ parsed : ParsedOptions,
        parsed.parseArgument component action flag inlineValue = .ok (f parsed, none) := by
    intro hnone
    simp only [ParsedOptions.parseArgument, hnone]
    by_cases haction : action = .install
    · cases hspec : installFlag component flag with
      | none => exact .inl ⟨_, fun parsed => if_pos haction⟩
      | some specification =>
        simp only [haction, if_true, h specification haction hspec, Bool.false_eq_true, if_false]
        cases inlineValue with
        | some => exact .inl ⟨_, fun parsed => rfl⟩
        | none =>
          refine .inr ⟨_, ?_, fun parsed => rfl⟩
          exact ⟨fun _ => rfl, fun _ => rfl⟩
    · exact .inl ⟨_, fun parsed => if_neg haction⟩
  cases inlineValue with
  | some => exact hoption fun parsed => rfl
  | none =>
    obtain hnone | ⟨error, herror⟩ | ⟨f, hf, hok⟩ := fixedFlag_cases component action flag
    · exact hoption fun parsed => hnone parsed
    · refine .inl ⟨error, fun parsed => ?_⟩
      simp [ParsedOptions.parseArgument, herror, Except.map]
    · refine .inr ⟨f, hf, fun parsed => ?_⟩
      simp [ParsedOptions.parseArgument, hok, Except.map]

/-- **An argument that takes no value** fails, or changes what may be seen. -/
theorem parseArgs_argument (action : Action) (h : valueOption component argument = none) :
    (∃ error, ∀ args parsed,
      parseArgs component action (argument :: args) parsed = .error error) ∨
    ∃ f, IsPublic f ∧ ∀ args parsed,
      parseArgs component action (argument :: args) parsed =
        parseArgs component action args (f parsed) := by
  cases hraw : argument.toStr with
  | none => exact .inl ⟨_, fun args parsed => by rw [parseArgs, hraw]⟩
  | some rawArgument =>
    obtain ⟨flag, inlineValue, hsplit⟩ : ∃ flag inlineValue,
        splitArgument rawArgument = (flag, inlineValue) := ⟨_, _, rfl⟩
    have htakes (specification : FlagSpecification) (_ : action = .install)
        (hspec : installFlag component (String.ofList flag) = some specification) :
        specification.takesValue = false := by
      simpa [valueOption, hraw, hsplit, hspec] using h
    obtain ⟨error, herror⟩ | ⟨f, hf, hok⟩ := parseArgument_cases inlineValue htakes
    · refine .inl ⟨error, fun args parsed => ?_⟩
      rw [parseArgs, hraw]
      simp only [hsplit, herror]
    · refine .inr ⟨f, hf, fun args parsed => ?_⟩
      rw [parseArgs, hraw]
      simp only [hsplit, hok]

end Arguments

/-! ### Pairs of runs -/

section Pairs

variable {component : Component} {action : Action} {args₁ args₂ : List OsString}
  {given : List Secret}

theorem map_bind_congr {r₁ r₂ : Except Error ParsedOptions}
    {k₁ k₂ : ParsedOptions → Except Error ParsedOptions}
    (hr : r₁.map ParsedOptions.withoutSecrets = r₂.map ParsedOptions.withoutSecrets)
    (hk : ∀ {p₁ p₂ : ParsedOptions}, p₁.withoutSecrets = p₂.withoutSecrets →
      (k₁ p₁).map ParsedOptions.withoutSecrets = (k₂ p₂).map ParsedOptions.withoutSecrets) :
    (r₁.bind k₁).map ParsedOptions.withoutSecrets =
      (r₂.bind k₂).map ParsedOptions.withoutSecrets := by
  cases r₁ with
  | error =>
    cases r₂ with
    | error => exact hr
    | ok => cases hr
  | ok =>
    cases r₂ with
    | error => cases hr
    | ok => exact hk (Except.ok.inj hr)

theorem setValue_congr {specification : FlagSpecification} {value₁ value₂ : OsString}
    (hvalue : value₁ = value₂ ∨
      specification.scriptEnv.isSome = true ∧ value₁ ≠ [] ∧ value₂ ≠ [])
    {p₁ p₂ : ParsedOptions} (h : p₁.withoutSecrets = p₂.withoutSecrets) :
    (p₁.explicit.setValue specification value₁).map ParsedOptions.withoutSecrets =
      (p₂.explicit.setValue specification value₂).map ParsedOptions.withoutSecrets := by
  have hexplicit : p₁.explicit.withoutSecrets = p₂.explicit.withoutSecrets :=
    congrArg ParsedOptions.explicit h
  rw [← p₁.explicit.setValue_withoutSecrets hvalue, hexplicit]
  exact p₂.explicit.setValue_withoutSecrets (.inl rfl)

/-- **The loop does not depend on the secret values.** -/
theorem SameShape.parseArgs (h : SameShape component args₁ args₂ given)
    {p₁ p₂ : ParsedOptions} (hp : p₁.withoutSecrets = p₂.withoutSecrets) :
    (parseArgs component action args₁ p₁).map ParsedOptions.withoutSecrets =
      (parseArgs component action args₂ p₂).map ParsedOptions.withoutSecrets := by
  induction h generalizing p₁ p₂ with
  | nil => exact congrArg Except.ok hp
  | following secret hoption hname _ ih =>
    cases action with
    | install =>
      rw [parseArgs_following hoption, parseArgs_following hoption]
      exact map_bind_congr (setValue_congr
        (.inr ⟨by rw [hname]; rfl, secret.first_ne_nil, secret.second_ne_nil⟩) hp) fun hp => ih hp
    | uninstall => rw [parseArgs_uninstall hoption, parseArgs_uninstall hoption]
  | joined secret hoption₁ hoption₂ hname hfirst hsecond _ ih =>
    cases action with
    | install =>
      rw [parseArgs_joined hoption₁, parseArgs_joined hoption₂, ← hfirst, ← hsecond]
      exact map_bind_congr (setValue_congr
        (.inr ⟨by rw [hname]; rfl, secret.first_ne_nil, secret.second_ne_nil⟩) hp) fun hp => ih hp
    | uninstall => rw [parseArgs_uninstall hoption₁, parseArgs_uninstall hoption₂]
  | value hoption _ _ ih =>
    cases action with
    | install =>
      rw [parseArgs_following hoption, parseArgs_following hoption]
      exact map_bind_congr (setValue_congr (.inl rfl) hp) fun hp => ih hp
    | uninstall => rw [parseArgs_uninstall hoption, parseArgs_uninstall hoption]
  | last hoption =>
    cases action with
    | install => rw [parseArgs_last hoption, parseArgs_last hoption]
    | uninstall => rw [parseArgs_uninstall hoption, parseArgs_uninstall hoption]
  | @argument argument args₁ args₂ given hpublic _ ih =>
    cases hoption : valueOption component argument with
    | none =>
      obtain ⟨error, herror⟩ | ⟨f, hf, hok⟩ := parseArgs_argument action hoption
      · rw [herror, herror]
      · rw [hok, hok]
        exact ih (by rw [← hf.withoutSecrets, ← hf.withoutSecrets, hp])
    | some option =>
      obtain ⟨flag, specification, inlineValue⟩ := option
      obtain ⟨value, rfl, -⟩ := hpublic _ _ _ hoption
      cases action with
      | install =>
        rw [parseArgs_joined hoption, parseArgs_joined hoption]
        exact map_bind_congr (setValue_congr (.inl rfl) hp) fun hp => ih hp
      | uninstall => rw [parseArgs_uninstall hoption, parseArgs_uninstall hoption]

/-- The lists in the other order. -/
def Secret.swap (secret : Secret) : Secret :=
  ⟨secret.environmentName, secret.second, secret.first, secret.second_ne_nil, secret.first_ne_nil⟩

theorem SameShape.symm (h : SameShape component args₁ args₂ given) :
    SameShape component args₂ args₁ (given.map Secret.swap) := by
  induction h with
  | nil => exact .nil
  | following secret hoption hname _ ih => exact .following secret.swap hoption hname ih
  | joined secret hoption₁ hoption₂ hname hfirst hsecond _ ih =>
    exact .joined secret.swap hoption₂ hoption₁ hname hsecond hfirst ih
  | value hoption hname _ ih => exact .value hoption hname ih
  | last hoption => exact .last hoption
  | argument hpublic _ ih => exact .argument hpublic ih

theorem bind_eq_ok {r : Except Error ParsedOptions}
    {k : ParsedOptions → Except Error ParsedOptions} {parsed : ParsedOptions}
    (h : r.bind k = .ok parsed) : ∃ parsed', r = .ok parsed' ∧ k parsed' = .ok parsed := by
  cases r with
  | error => cases h
  | ok parsed' => exact ⟨parsed', rfl, h⟩

/-- **The variables hold the secret values**, in their order. -/
theorem SameShape.scriptEnv (h : SameShape component args₁ args₂ given)
    {parsed parsed' : ParsedOptions}
    (hparse : Install.parseArgs component action args₁ parsed = .ok parsed') :
    parsed'.scriptEnv = parsed.scriptEnv ++
      given.map fun secret => (secret.environmentName, secret.first) := by
  have hinstall {argument : OsString} {option : String × FlagSpecification × Option (List Char)}
      {args : List OsString} {parsed : ParsedOptions}
      (hoption : valueOption component argument = some option)
      (hparse : Install.parseArgs component action (argument :: args) parsed = .ok parsed') :
      action = .install := by
    cases action with
    | install => rfl
    | uninstall =>
      rw [parseArgs_uninstall hoption] at hparse
      cases hparse
  induction h generalizing parsed with
  | nil =>
    cases hparse
    simp
  | following _ hoption hname _ ih =>
    obtain rfl := hinstall hoption hparse
    rw [parseArgs_following hoption] at hparse
    obtain ⟨next, hset, hparse⟩ := bind_eq_ok hparse
    rw [ih hparse, ParsedOptions.setValue_eq_ok hset, hname]
    simp [ParsedOptions.explicit]
  | joined _ hoption₁ _ hname hfirst _ _ ih =>
    obtain rfl := hinstall hoption₁ hparse
    rw [parseArgs_joined hoption₁] at hparse
    obtain ⟨next, hset, hparse⟩ := bind_eq_ok hparse
    rw [ih hparse, ParsedOptions.setValue_eq_ok hset, hname]
    simp [ParsedOptions.explicit, hfirst]
  | value hoption hpublic _ ih =>
    obtain rfl := hinstall hoption hparse
    rw [parseArgs_following hoption] at hparse
    obtain ⟨next, hset, hparse⟩ := bind_eq_ok hparse
    have hname := hpublic.resolve_right (ParsedOptions.ne_nil_of_setValue_eq_ok hset)
    rw [ih hparse, ParsedOptions.setValue_eq_ok hset, hname]
    simp [ParsedOptions.explicit]
  | last hoption =>
    obtain rfl := hinstall hoption hparse
    rw [parseArgs_last hoption] at hparse
    cases hparse
  | @argument argument args₁ args₂ given hpublic _ ih =>
    cases hoption : valueOption component argument with
    | none =>
      obtain ⟨error, herror⟩ | ⟨f, hf, hok⟩ := parseArgs_argument action hoption
      · rw [herror] at hparse
        cases hparse
      · rw [hok] at hparse
        rw [ih hparse, hf.scriptEnv]
    | some option =>
      obtain rfl := hinstall hoption hparse
      obtain ⟨flag, specification, inlineValue⟩ := option
      obtain ⟨value, rfl, hpublic⟩ := hpublic _ _ _ hoption
      rw [parseArgs_joined hoption] at hparse
      obtain ⟨next, hset, hparse⟩ := bind_eq_ok hparse
      have hname := hpublic.resolve_right fun hnil =>
        ParsedOptions.ne_nil_of_setValue_eq_ok hset (by rw [hnil]; rfl)
      rw [ih hparse, ParsedOptions.setValue_eq_ok hset, hname]
      simp [ParsedOptions.explicit]

/-- Two results that show nothing of the secret values. -/
structure Hidden (component : Component) (given : List Secret) (p₁ p₂ : ParsedOptions) :
    Prop where
  flags_eq : { p₁ with scriptEnv := [] } = { p₂ with scriptEnv := [] }
  scriptArgs_eq : p₁.scriptArgs = p₂.scriptArgs
  summary_eq : p₁.summary = p₂.summary
  plan_eq : ∀ currentExe installPrefix, renderPlan component p₁ currentExe installPrefix =
    renderPlan component p₂ currentExe installPrefix
  first_env : p₁.scriptEnv = given.map fun secret => (secret.environmentName, secret.first)
  second_env : p₂.scriptEnv = given.map fun secret => (secret.environmentName, secret.second)

theorem renderPlan_withoutSecrets (component : Component) (parsed : ParsedOptions)
    (currentExe installPrefix : OsString) :
    renderPlan component parsed.withoutSecrets currentExe installPrefix =
      renderPlan component parsed currentExe installPrefix := rfl

theorem hidden_of_withoutSecrets {p₁ p₂ : ParsedOptions}
    (h : p₁.withoutSecrets = p₂.withoutSecrets)
    (hfirst : p₁.scriptEnv = given.map fun secret => (secret.environmentName, secret.first))
    (hsecond : p₂.scriptEnv = given.map fun secret => (secret.environmentName, secret.second)) :
    Hidden component given p₁ p₂ where
  flags_eq := congrArg (fun parsed : ParsedOptions => { parsed with scriptEnv := [] }) h
  scriptArgs_eq := by
    have hargs := congrArg ParsedOptions.scriptArgs h
    exact hargs
  summary_eq := by
    have hsummary := congrArg ParsedOptions.summary h
    exact hsummary
  plan_eq currentExe installPrefix := by
    rw [← renderPlan_withoutSecrets, h, renderPlan_withoutSecrets]
  first_env := hfirst
  second_env := hsecond

/-- Where the parser begins. -/
def Options.parsed (options : Options) : ParsedOptions :=
  { action := options.action
    version := options.version
    supervisorVersion := match options.action with
      | .install => options.supervisorVersion
      | .uninstall => none }

theorem parse_eq (component : Component) (options : Options) :
    ParsedOptions.parse component options =
      (parseArgs component options.action options.args options.parsed).bind
        ParsedOptions.finish := by
  rw [ParsedOptions.parse, Options.parsed]
  cases parseArgs component options.action options.args _ <;> rfl

theorem finish_congr {p₁ p₂ : ParsedOptions} (h : p₁.withoutSecrets = p₂.withoutSecrets) :
    p₁.finish.map ParsedOptions.withoutSecrets = p₂.finish.map ParsedOptions.withoutSecrets := by
  rw [← p₁.finish_withoutSecrets, h, p₂.finish_withoutSecrets]

theorem SameShape.parse_scriptEnv (h : SameShape component args₁ args₂ given)
    {version : String} {supervisorVersion : Option String} {parsed : ParsedOptions}
    (hparse : ParsedOptions.parse component ⟨action, version, supervisorVersion, args₁⟩ =
      .ok parsed) :
    parsed.scriptEnv = given.map fun secret => (secret.environmentName, secret.first) := by
  rw [parse_eq] at hparse
  obtain ⟨last, hargs, hfinish⟩ := bind_eq_ok hparse
  rw [ParsedOptions.finish_eq_ok hfinish, h.scriptEnv hargs]
  rfl

/-- **The secrets of the arguments stay in the variables.** -/
theorem parse_sameShape (h : SameShape component args₁ args₂ given) (action : Action)
    (version : String) (supervisorVersion : Option String) :
    (∃ e₁ e₂, ParsedOptions.parse component ⟨action, version, supervisorVersion, args₁⟩ =
        .error e₁ ∧
      ParsedOptions.parse component ⟨action, version, supervisorVersion, args₂⟩ = .error e₂ ∧
      e₁ = e₂ ∧ e₁.display = e₂.display) ∨
    ∃ p₁ p₂, ParsedOptions.parse component ⟨action, version, supervisorVersion, args₁⟩ = .ok p₁ ∧
      ParsedOptions.parse component ⟨action, version, supervisorVersion, args₂⟩ = .ok p₂ ∧
      Hidden component given p₁ p₂ := by
  have hparse : (ParsedOptions.parse component ⟨action, version, supervisorVersion, args₁⟩).map
      ParsedOptions.withoutSecrets =
        (ParsedOptions.parse component ⟨action, version, supervisorVersion, args₂⟩).map
          ParsedOptions.withoutSecrets := by
    rw [parse_eq, parse_eq]
    exact map_bind_congr (h.parseArgs rfl) finish_congr
  cases hfirst : ParsedOptions.parse component ⟨action, version, supervisorVersion, args₁⟩ with
  | error e₁ =>
    cases hsecond : ParsedOptions.parse component ⟨action, version, supervisorVersion, args₂⟩ with
    | error e₂ =>
      rw [hfirst, hsecond] at hparse
      cases hparse
      exact .inl ⟨e₁, e₁, rfl, rfl, rfl, rfl⟩
    | ok =>
      rw [hfirst, hsecond] at hparse
      cases hparse
  | ok p₁ =>
    cases hsecond : ParsedOptions.parse component ⟨action, version, supervisorVersion, args₂⟩ with
    | error =>
      rw [hfirst, hsecond] at hparse
      cases hparse
    | ok p₂ =>
      rw [hfirst, hsecond] at hparse
      have henv := h.symm.parse_scriptEnv hsecond
      rw [List.map_map] at henv
      exact .inr ⟨p₁, p₂, rfl, rfl,
        hidden_of_withoutSecrets (Except.ok.inj hparse) (h.parse_scriptEnv hfirst) henv⟩

/-- A token that is joined to its option, and a relay that follows its own. -/
def withToken (relay token : String) : List OsString :=
  [.ofString "--relay-token=" ++ .ofString token, .ofString "--relay", .ofString relay]

theorem parse_sameShape_relayToken :
    (∃ p₁ p₂,
      ParsedOptions.parse .termd ⟨.install, "1.0.0", none, withToken "--yes" "a=b"⟩ = .ok p₁ ∧
      ParsedOptions.parse .termd ⟨.install, "1.0.0", none, withToken "wss://r" "c"⟩ = .ok p₂ ∧
      p₁.scriptArgs = p₂.scriptArgs ∧ p₁.scriptEnv ≠ p₂.scriptEnv) ∧
    ∃ error, error = .unknownArgument "--relay-token" ∧
      ParsedOptions.parse .termd ⟨.uninstall, "1.0.0", none, withToken "--yes" "a=b"⟩ =
        .error error ∧
      ParsedOptions.parse .termd ⟨.uninstall, "1.0.0", none, withToken "wss://r" "c"⟩ =
        .error error := by
  have hrelay : valueOption .termd (.ofString "--relay") = some ("--relay",
      valueFlag "--relay" "trusted relay" (some "TERMD_INSTALL_ARG_RELAY_URL"), none) := by
    decide +kernel
  have htoken₁ : valueOption .termd (.ofString "--relay-token=" ++ .ofString "a=b") =
      some ("--relay-token", valueFlag "--relay-token" "relay setup token"
        (some "TERMD_INSTALL_ARG_RELAY_SETUP_TOKEN"), some ['a', '=', 'b']) := by
    decide +kernel
  have htoken₂ : valueOption .termd (.ofString "--relay-token=" ++ .ofString "c") =
      some ("--relay-token", valueFlag "--relay-token" "relay setup token"
        (some "TERMD_INSTALL_ARG_RELAY_SETUP_TOKEN"), some ['c']) := by
    decide +kernel
  let relay : Secret := ⟨"TERMD_INSTALL_ARG_RELAY_URL", .ofString "--yes", .ofString "wss://r",
    by decide, by decide⟩
  let token : Secret := ⟨"TERMD_INSTALL_ARG_RELAY_SETUP_TOKEN", .ofChars ['a', '=', 'b'],
    .ofChars ['c'], by decide, by decide⟩
  have hshape : SameShape .termd (withToken "--yes" "a=b") (withToken "wss://r" "c")
      [token, relay] :=
    .joined token htoken₁ htoken₂ rfl rfl rfl (.following relay hrelay rfl .nil)
  have hok : (ParsedOptions.parse .termd
      ⟨.install, "1.0.0", none, withToken "--yes" "a=b"⟩).toOption.isSome = true := by
    decide +kernel
  have hunknown : ParsedOptions.parse .termd
      ⟨.uninstall, "1.0.0", none, withToken "--yes" "a=b"⟩ =
        .error (.unknownArgument "--relay-token") := by
    rw [parse_eq]
    exact congrArg (Except.bind · ParsedOptions.finish) (parseArgs_uninstall htoken₁ _ _)
  constructor
  · obtain ⟨e₁, -, herror, -⟩ | ⟨p₁, p₂, hfirst, hsecond, hhidden⟩ :=
      parse_sameShape hshape .install "1.0.0" none
    · rw [herror] at hok
      cases hok
    · refine ⟨p₁, p₂, hfirst, hsecond, hhidden.scriptArgs_eq, ?_⟩
      rw [hhidden.first_env, hhidden.second_env]
      decide +kernel
  · obtain ⟨e₁, e₂, hfirst, hsecond, rfl, -⟩ | ⟨p₁, p₂, hfirst, -⟩ :=
      parse_sameShape hshape .uninstall "1.0.0" none
    · exact ⟨e₁, Except.error.inj (hfirst.symm.trans hunknown), hfirst, hsecond⟩
    · cases hunknown.symm.trans hfirst

end Pairs

end Termd.Install
