import Termd.Library.Router
import Termd.Library.TextSplit

/-!
# The routing tables

One policy is written down five times: which requests the whitelist of the tunnel takes, which ones
the router of the relay passes to the tunnel, which credential the relay asks for, which handler of
the daemon answers, and which responses are cut off when the client goes away.

The tables agree for every request whose method and path are written as in the routes, except at
the route that streams a file. The whitelist reads methods in either case and drops the empty
segments of a path, the routers do neither; and the download that is cut off is at a path without
a route.

Whether a text is a UUID is a parameter.

## Main definitions

* `isHttpTunnelPathAllowed`, `relayHttpAdmissionRequirement`, `isRelayHttpTunnelDownload`
* `relayRouter`, `daemonRouter`: the routes of both sides
* `Agree isUuid method path`: the tables agree about a request

## Main results

* `isHttpTunnelPathAllowed_iff`: the whitelist takes what is served in its normal form
* `agree_iff`: the requests about which the tables agree
-/

namespace Termd.Relay.Routes

open Termd.Router

/-! ### The whitelist -/

/-- `str::eq_ignore_ascii_case` -/
def eqIgnoreAsciiCase (text other : String) : Bool :=
  text.toList.map Char.toLower = other.toList.map Char.toLower

def authPaths : List String :=
  ["/api/auth/pair", "/api/auth/challenge", "/api/auth/access-token",
    "/api/auth/device-certificate/migrate", "/api/auth/device-certificate/migrate/challenge"]

def sessionActions : List String :=
  ["control", "rename", "close", "files", "search", "git", "git_diff", "git_action", "file_read",
    "file_write", "file_delete"]

/-- The segments behind `/api/control/`. -/
def controlSegmentsAllowed (isUuid : String → Bool) : List String → Bool
  | ["session", "reorder"] => true
  | ["daemon", "client_forget"] => true
  | ["session", sessionId, action] => isUuid sessionId && action ∈ sessionActions
  | _ => false

def isHttpControlTunnelPathAllowed (isUuid : String → Bool) (path : String) : Bool :=
  match stripPrefix "/api/control/".toList path.toList with
  | some trimmed => controlSegmentsAllowed isUuid (segments (String.ofList trimmed))
  | none => false

/-- The segments of a file path; `isMethod` compares the method. -/
def fileSegmentsAllowed (isMethod : String → Bool) : List String → Bool
  | ["api", "files", "uploads"] => isMethod "POST"
  | ["api", "files", "downloads"] => isMethod "POST"
  | ["api", "files", "uploads", uploadId, "chunks"] => uploadId ≠ "" && isMethod "PUT"
  | ["api", "files", "uploads", uploadId, action] =>
    uploadId ≠ "" && (action = "commit" || action = "abort") && isMethod "POST"
  | ["api", "files", "downloads", downloadId] => downloadId ≠ "" && isMethod "GET"
  | _ => false

/-- The segments that are not empty. -/
def fullSegments (path : String) : List String := (segments path).filter (· ≠ "")

def isHttpFileTunnelPathAllowed (method path : String) : Bool :=
  fileSegmentsAllowed (eqIgnoreAsciiCase method) (fullSegments path)

def isHttpTunnelPathAllowed (isUuid : String → Bool) (method path : String) : Bool :=
  eqIgnoreAsciiCase method "POST" && path ∈ authPaths ||
    eqIgnoreAsciiCase method "POST" && isHttpControlTunnelPathAllowed isUuid path ||
    isHttpFileTunnelPathAllowed method path ||
    eqIgnoreAsciiCase method "GET" && path = "/api/push/config" ||
    eqIgnoreAsciiCase method "PUT" && path = "/api/push/subscription" ||
    eqIgnoreAsciiCase method "DELETE" && path = "/api/push/subscription"

/-! ### The relay -/

inductive CredentialKind
  | pairTicket
  | deviceCertificate
  | accessToken

inductive AdmissionRequirement
  | bootstrap
  | signed (scheme : String) (kind : CredentialKind)

def relayHttpAdmissionRequirement (path : String) : Option AdmissionRequirement :=
  if path = "/api/auth/pair" then some (.signed "TermdPair" .pairTicket)
  else if path = "/api/auth/challenge" ∨ path = "/api/auth/access-token" then
    some (.signed "TermdDevice" .deviceCertificate)
  else if path = "/api/auth/device-certificate/migrate" ∨
      path = "/api/auth/device-certificate/migrate/challenge" then some .bootstrap
  else if "/api/control/".toList.isPrefixOf path.toList ||
      "/api/files/".toList.isPrefixOf path.toList ||
      "/api/push/".toList.isPrefixOf path.toList then some (.signed "Bearer" .accessToken)
  else none

inductive RelayHandler
  | relayHttpTunnel
  | relayHttpTunnelPreflight
deriving DecidableEq

/-- The handlers of a route of the relay: these methods, and `OPTIONS`. -/
def tunnelled (pattern : String) (methods : List String) : Route RelayHandler where
  pattern
  methods := methods.map (·, RelayHandler.relayHttpTunnel) ++
    [("OPTIONS", .relayHttpTunnelPreflight)]

/-- `http_api_tunnel_router` -/
def relayRouter : List (Route RelayHandler) :=
  [tunnelled "/api/control/*path" ["POST"],
    tunnelled "/api/auth/*path" ["POST"],
    tunnelled "/api/files/uploads" ["POST"],
    tunnelled "/api/files/uploads/:id/chunks" ["PUT"],
    tunnelled "/api/files/uploads/:id/commit" ["POST"],
    tunnelled "/api/files/uploads/:id/abort" ["POST"],
    tunnelled "/api/files/downloads" ["POST"],
    tunnelled "/api/files/downloads/:id" ["GET"],
    tunnelled "/api/push/config" ["GET"],
    tunnelled "/api/push/subscription" ["PUT", "DELETE"]]

/-- The requirement with which a request goes into the tunnel. -/
def relayHttpTunnel (isUuid : String → Bool) (method path : String) :
    Option AdmissionRequirement :=
  if handler relayRouter method path = some .relayHttpTunnel then
    if isHttpTunnelPathAllowed isUuid method path then relayHttpAdmissionRequirement path else none
  else none

/-! ### The daemon -/

inductive DaemonHandler
  | authPair
  | authChallenge
  | authAccessToken
  | authDeviceCertificateMigrate
  | authDeviceCertificateMigrationChallenge
  | httpControlRequest
  | fileUploadCreate
  | fileUploadChunk
  | fileUploadCommit
  | fileUploadAbort
  | fileDownloadCreate
  | fileDownloadRead
  | pushConfig
  | pushSubscriptionUpsert
  | pushSubscriptionDelete
  | preflight
deriving DecidableEq

namespace DaemonHandler

/-- The credential that a handler checks; the migration of older devices has none. -/
def authorization : DaemonHandler → Option AdmissionRequirement
  | authPair => some (.signed "TermdPair" .pairTicket)
  | authChallenge | authAccessToken => some (.signed "TermdDevice" .deviceCertificate)
  | authDeviceCertificateMigrate | authDeviceCertificateMigrationChallenge => some .bootstrap
  | preflight => none
  | _ => some (.signed "Bearer" .accessToken)

def removedPaths : List String :=
  ["/api/control/session/list", "/api/control/daemon/clients", "/api/control/daemon/status"]

def removedActions : List String :=
  ["/attach", "/cursor", "/resize", "/file_download_prepare", "/file_download_chunk"]

/-- `is_removed_v070_http_control_path` -/
def isRemovedHttpControlPath (path : String) : Bool :=
  path ∈ removedPaths || removedActions.any fun action => action.toList.isSuffixOf path.toList

/-- A handler that answers not found on the path alone. -/
def notFound (isUuid : String → Bool) (path : String) : DaemonHandler → Bool
  | httpControlRequest =>
    isRemovedHttpControlPath path || !isHttpControlTunnelPathAllowed isUuid path
  | _ => false

/-- A handler whose response is the body of a file. -/
def streamsFile (handler : DaemonHandler) : Bool := handler = fileDownloadRead

end DaemonHandler

open DaemonHandler

/-- `auth_api_router`, `http_control_api_router`, `http_file_api_router` and `push_api_router` -/
def daemonRouter : List (Route DaemonHandler) :=
  [⟨"/api/auth/pair", [("POST", authPair)]⟩,
    ⟨"/api/auth/challenge", [("POST", authChallenge)]⟩,
    ⟨"/api/auth/access-token", [("POST", authAccessToken)]⟩,
    ⟨"/api/auth/device-certificate/migrate", [("POST", authDeviceCertificateMigrate)]⟩,
    ⟨"/api/auth/device-certificate/migrate/challenge",
      [("POST", authDeviceCertificateMigrationChallenge)]⟩,
    ⟨"/api/control/*path", [("POST", httpControlRequest)]⟩,
    ⟨"/api/files/uploads", [("POST", fileUploadCreate), ("OPTIONS", preflight)]⟩,
    ⟨"/api/files/uploads/:id/chunks", [("PUT", fileUploadChunk), ("OPTIONS", preflight)]⟩,
    ⟨"/api/files/uploads/:id/commit", [("POST", fileUploadCommit), ("OPTIONS", preflight)]⟩,
    ⟨"/api/files/uploads/:id/abort", [("POST", fileUploadAbort), ("OPTIONS", preflight)]⟩,
    ⟨"/api/files/downloads", [("POST", fileDownloadCreate), ("OPTIONS", preflight)]⟩,
    ⟨"/api/files/downloads/:id", [("GET", fileDownloadRead), ("OPTIONS", preflight)]⟩,
    ⟨"/api/push/config", [("GET", pushConfig), ("OPTIONS", preflight)]⟩,
    ⟨"/api/push/subscription", [("PUT", pushSubscriptionUpsert), ("DELETE", pushSubscriptionDelete),
      ("OPTIONS", preflight)]⟩]

/-- There is a handler, other than the preflight one, that does not answer not found. -/
def Served (isUuid : String → Bool) (method path : String) : Prop :=
  ∃ found, handler daemonRouter method path = some found ∧ found ≠ preflight ∧
    found.notFound isUuid path = false

def isRelayHttpTunnelDownload (method path : String) : Bool :=
  eqIgnoreAsciiCase method "POST" && path = "/api/files/download"

/-! ### Agreement -/

/-- The tables agree about a request. -/
structure Agree (isUuid : String → Bool) (method path : String) : Prop where
  /-- The relay asks for the credential that the handlers of the path check. -/
  admission : isHttpTunnelPathAllowed isUuid method path = true →
    ∃ requirement, relayHttpAdmissionRequirement path = some requirement ∧
      ∀ entry ∈ methods daemonRouter path, entry.2 ≠ preflight →
        entry.2.authorization = some requirement
  /-- The whitelist takes what the daemon serves. -/
  whitelist : isHttpTunnelPathAllowed isUuid method path = true ↔ Served isUuid method path
  /-- The router of the relay passes it to the tunnel. -/
  tunnel : isHttpTunnelPathAllowed isUuid method path = true →
    handler relayRouter method path = some .relayHttpTunnel
  /-- One layer does not refuse what the other serves. -/
  served : (relayHttpTunnel isUuid method path).isSome = true ↔ Served isUuid method path
  /-- The download that is cut off is the one that streams a file. -/
  download : isRelayHttpTunnelDownload method path = true ↔
    ∃ found, handler daemonRouter method path = some found ∧ found.streamsFile = true

/-- The method in capitals, if it is one of those of the routes. -/
def normalMethod (method : String) : String :=
  (["GET", "POST", "PUT", "DELETE"].find? (eqIgnoreAsciiCase method)).getD method

/-- A file path without its empty segments. -/
def normalPath (path : String) : String :=
  if ["api", "files"].isPrefixOf (fullSegments path) then join ("" :: fullSegments path) else path

/-! ### Methods -/

section

variable {isUuid : String → Bool} {method path : String}

def routeMethods : List String := ["GET", "POST", "PUT", "DELETE"]

theorem normalMethod_eq_iff {name : String} (hname : name ∈ routeMethods) :
    normalMethod method = name ↔ eqIgnoreAsciiCase method name = true := by
  have hdistinct : ∀ name ∈ routeMethods, ∀ other ∈ routeMethods,
      eqIgnoreAsciiCase name other = true → name = other := by decide +kernel
  rw [normalMethod]
  cases hfind : ["GET", "POST", "PUT", "DELETE"].find? (eqIgnoreAsciiCase method) with
  | none =>
    have hnone := List.find?_eq_none.mp hfind name hname
    refine iff_of_false ?_ hnone
    rintro rfl
    exact hnone (decide_eq_true rfl)
  | some found =>
    have hfound := List.find?_some hfind
    constructor
    · rintro rfl
      exact hfound
    · intro heq
      refine hdistinct found (List.mem_of_find?_eq_some hfind) name hname (decide_eq_true ?_)
      exact (of_decide_eq_true hfound).symm.trans (of_decide_eq_true heq)

theorem normalMethod_of_mem (h : method ∈ routeMethods) : normalMethod method = method :=
  (normalMethod_eq_iff h).mpr (decide_eq_true rfl)

/-! ### Paths -/

theorem fullSegments_of_segments {file : List String} (h : segments path = "" :: file)
    (hfile : "" ∉ file) : fullSegments path = file := by
  rw [fullSegments, h, List.filter_cons_of_neg (by decide), List.filter_eq_self]
  intro segment hsegment
  refine decide_eq_true ?_
  rintro rfl
  exact hfile hsegment

theorem segments_normalPath (h : ["api", "files"].isPrefixOf (fullSegments path) = true) :
    segments (normalPath path) = "" :: fullSegments path := by
  rw [normalPath, if_pos h]
  refine segments_join (List.cons_ne_nil _ _) fun segment hsegment => ?_
  rcases List.mem_cons.mp hsegment with rfl | hsegment
  · decide
  · exact notMem_of_mem_segments (List.mem_of_mem_filter hsegment)

theorem fullSegments_normalPath (path : String) :
    fullSegments (normalPath path) = fullSegments path := by
  by_cases h : ["api", "files"].isPrefixOf (fullSegments path) = true
  · refine fullSegments_of_segments (segments_normalPath h) fun hmem => ?_
    exact of_decide_eq_true (List.mem_filter.mp hmem).2 rfl
  · rw [normalPath, if_neg h]

/-- What no file path has is the same of a path and of its normal form. -/
theorem normalPath_iff {P : String → Prop}
    (hP : ∀ path, P path → ["api", "files"].isPrefixOf (fullSegments path) = false) :
    P (normalPath path) ↔ P path := by
  by_cases h : ["api", "files"].isPrefixOf (fullSegments path) = true
  · refine iff_of_false (fun hpath => ?_) fun hpath => ?_
    · have hfile := hP _ hpath
      rw [fullSegments_normalPath, h] at hfile
      cases hfile
    · rw [hP _ hpath] at h
      cases h
  · rw [normalPath, if_neg h]

/-! ### Requests of the whitelist -/

theorem isHttpControlTunnelPathAllowed_iff : isHttpControlTunnelPathAllowed isUuid path = true ↔
    ∃ rest, segments path = "" :: "api" :: "control" :: rest ∧
      controlSegmentsAllowed isUuid rest = true := by
  have hsegments (trimmed : String) : segments ("/api/control" ++ "/" ++ trimmed) =
      "" :: "api" :: "control" :: segments trimmed := segments_append _ _
  rw [isHttpControlTunnelPathAllowed]
  constructor
  · intro h
    split at h
    next trimmed hstrip =>
      refine ⟨_, ?_, h⟩
      rw [← hsegments]
      congr 1
      rw [← String.toList_inj, stripPrefix_eq_some.mp hstrip]
      simp
    next => cases h
  · rintro ⟨rest, hpath, hrest⟩
    have hne : rest ≠ [] := by
      rintro rfl
      cases hrest
    have hjoin : segments (join rest) = rest := segments_join hne fun segment hsegment =>
      notMem_of_mem_segments (by rw [hpath]; simp [hsegment] : segment ∈ segments path)
    obtain rfl : path = "/api/control" ++ "/" ++ join rest :=
      segments_injective (by rw [hpath, hsegments, hjoin])
    have hstrip : stripPrefix "/api/control/".toList ("/api/control" ++ "/" ++ join rest).toList =
        some (join rest).toList := stripPrefix_eq_some.mpr (by simp)
    rw [hstrip]
    dsimp only
    rw [String.ofList_toList, hjoin]
    exact hrest

/-! ### Routes -/

/-- `/api/area/*path` -/
def UnderPath (area path : String) : Prop :=
  ∃ rest, segments path = "" :: "api" :: area :: rest ∧ rest ≠ [] ∧ rest ≠ [""]

/-- `/api/files/uploads/:id/action` -/
def ActionPath (action path : String) : Prop :=
  ∃ id, segments path = ["", "api", "files", "uploads", id, action] ∧ id ≠ ""

/-- `/api/files/downloads/:id` -/
def DownloadPath (path : String) : Prop :=
  ∃ id, segments path = ["", "api", "files", "downloads", id] ∧ id ≠ ""

theorem matches_under {η : Type} {text : String} (area : String) {methods : List (String × η)}
    (h : pattern text = [.literal "", .literal "api", .literal area, .rest]) :
    (Route.mk text methods).Matches path = true ↔ UnderPath area path := by
  rw [Route.Matches, h]
  simp only [matchSegments_literal, matchSegments_rest]
  constructor
  · rintro ⟨_, hpath, _, rfl, rest, rfl, hrest⟩
    exact ⟨rest, hpath, hrest⟩
  · rintro ⟨rest, hpath, hrest⟩
    exact ⟨_, hpath, _, rfl, rest, rfl, hrest⟩

theorem matches_action {η : Type} {text : String} (action : String) {methods : List (String × η)}
    (h : pattern text = [.literal "", .literal "api", .literal "files", .literal "uploads", .param,
      .literal action]) :
    (Route.mk text methods).Matches path = true ↔ ActionPath action path := by
  rw [Route.Matches, h]
  simp only [matchSegments_literal, matchSegments_param, matchSegments_nil]
  constructor
  · rintro ⟨_, hpath, _, rfl, _, rfl, _, rfl, id, _, rfl, hid, _, rfl, rfl⟩
    exact ⟨id, hpath, hid⟩
  · rintro ⟨id, hpath, hid⟩
    exact ⟨_, hpath, _, rfl, _, rfl, _, rfl, id, _, rfl, hid, _, rfl, rfl⟩

theorem matches_download {η : Type} {text : String} {methods : List (String × η)}
    (h : pattern text = [.literal "", .literal "api", .literal "files", .literal "downloads",
      .param]) :
    (Route.mk text methods).Matches path = true ↔ DownloadPath path := by
  rw [Route.Matches, h]
  simp only [matchSegments_literal, matchSegments_param, matchSegments_nil]
  constructor
  · rintro ⟨_, hpath, _, rfl, _, rfl, _, rfl, id, _, rfl, hid, rfl⟩
    exact ⟨id, hpath, hid⟩
  · rintro ⟨id, hpath, hid⟩
    exact ⟨_, hpath, _, rfl, _, rfl, _, rfl, id, _, rfl, hid, rfl⟩

/-- The patterns of file transfer and push, which both routers have. -/
def fileAndPushPatterns : List (List Router.Segment) :=
  [[.literal "", .literal "api", .literal "files", .literal "uploads"],
    [.literal "", .literal "api", .literal "files", .literal "uploads", .param,
      .literal "chunks"],
    [.literal "", .literal "api", .literal "files", .literal "uploads", .param,
      .literal "commit"],
    [.literal "", .literal "api", .literal "files", .literal "uploads", .param,
      .literal "abort"],
    [.literal "", .literal "api", .literal "files", .literal "downloads"],
    [.literal "", .literal "api", .literal "files", .literal "downloads", .param],
    [.literal "", .literal "api", .literal "push", .literal "config"],
    [.literal "", .literal "api", .literal "push", .literal "subscription"]]

theorem patterns_daemonRouter : (daemonRouter.map fun route => pattern route.pattern) =
    ([[.literal "", .literal "api", .literal "auth", .literal "pair"],
      [.literal "", .literal "api", .literal "auth", .literal "challenge"],
      [.literal "", .literal "api", .literal "auth", .literal "access-token"],
      [.literal "", .literal "api", .literal "auth", .literal "device-certificate",
        .literal "migrate"],
      [.literal "", .literal "api", .literal "auth", .literal "device-certificate",
        .literal "migrate", .literal "challenge"],
      [.literal "", .literal "api", .literal "control", .rest]] : List (List Router.Segment)) ++
      fileAndPushPatterns := by
  simp only [daemonRouter, fileAndPushPatterns, List.cons_append, List.nil_append, List.map_cons,
    List.map_nil, List.cons.injEq, and_true]
  and_intros
  all_goals exact pattern_eq rfl

theorem unambiguous_daemonRouter : Unambiguous daemonRouter :=
  unambiguous_of_patterns patterns_daemonRouter (by decide +kernel) (by decide +kernel)

theorem patterns_relayRouter : (relayRouter.map fun route => pattern route.pattern) =
    ([[.literal "", .literal "api", .literal "control", .rest],
      [.literal "", .literal "api", .literal "auth", .rest]] : List (List Router.Segment)) ++
      fileAndPushPatterns := by
  simp only [relayRouter, tunnelled, fileAndPushPatterns, List.cons_append, List.nil_append,
    List.map_cons, List.map_nil, List.cons.injEq, and_true]
  and_intros
  all_goals exact pattern_eq rfl

theorem unambiguous_relayRouter : Unambiguous relayRouter :=
  unambiguous_of_patterns patterns_relayRouter (by decide +kernel) (by decide +kernel)

/-- The routes without parameters. -/
def literalRequests : List (String × String × DaemonHandler) :=
  [("/api/auth/pair", "POST", authPair),
    ("/api/auth/challenge", "POST", authChallenge),
    ("/api/auth/access-token", "POST", authAccessToken),
    ("/api/auth/device-certificate/migrate", "POST", authDeviceCertificateMigrate),
    ("/api/auth/device-certificate/migrate/challenge", "POST",
      authDeviceCertificateMigrationChallenge),
    ("/api/files/uploads", "POST", fileUploadCreate),
    ("/api/files/downloads", "POST", fileDownloadCreate),
    ("/api/push/config", "GET", pushConfig),
    ("/api/push/subscription", "PUT", pushSubscriptionUpsert),
    ("/api/push/subscription", "DELETE", pushSubscriptionDelete)]

/-- **The handlers of the daemon**, the preflight one apart. -/
theorem mem_methods_daemonRouter_iff {entry : String × DaemonHandler} (hne : entry.2 ≠ preflight) :
    entry ∈ methods daemonRouter path ↔
      (path, entry) ∈ literalRequests ∨
      UnderPath "control" path ∧ entry = ("POST", httpControlRequest) ∨
      ActionPath "chunks" path ∧ entry = ("PUT", fileUploadChunk) ∨
      ActionPath "commit" path ∧ entry = ("POST", fileUploadCommit) ∨
      ActionPath "abort" path ∧ entry = ("POST", fileUploadAbort) ∨
      DownloadPath path ∧ entry = ("GET", fileDownloadRead) := by
  have hliteral {text : String} {methods : List (String × DaemonHandler)}
      (h : pattern text = (segments text).map .literal) :
      (Route.mk text methods).Matches path = true ↔ path = text := Route.matches_literal h
  have hoptions : entry ≠ ("OPTIONS", preflight) := by
    rintro rfl
    exact hne rfl
  rw [mem_methods_iff unambiguous_daemonRouter]
  simp only [daemonRouter, literalRequests, List.mem_cons, List.not_mem_nil, or_false,
    exists_eq_or_imp, exists_eq_left, Prod.mk.injEq, hoptions]
  rw [hliteral (pattern_literal rfl), hliteral (pattern_literal rfl),
    hliteral (pattern_literal rfl), hliteral (pattern_literal rfl), hliteral (pattern_literal rfl),
    matches_under "control" (pattern_eq rfl), hliteral (pattern_literal rfl),
    matches_action "chunks" (pattern_eq rfl), matches_action "commit" (pattern_eq rfl),
    matches_action "abort" (pattern_eq rfl), hliteral (pattern_literal rfl),
    matches_download (pattern_eq rfl), hliteral (pattern_literal rfl),
    hliteral (pattern_literal rfl), and_or_left]
  clear hliteral
  constructor
  · rintro (h | h | h | h | h | h | h | h | h | h | h | h | h | h | h) <;>
      simp only [h, true_or, or_true, and_self]
  · rintro ((h | h | h | h | h | h | h | h | h | h) | h | h | h | h | h) <;>
      simp only [h, true_or, or_true, and_self]

theorem ActionPath.under {action : String} (h : ActionPath action path) :
    UnderPath "files" path := by
  obtain ⟨id, hpath, -⟩ := h
  exact ⟨["uploads", id, action], hpath, List.cons_ne_nil _ _, by simp⟩

theorem DownloadPath.under (h : DownloadPath path) : UnderPath "files" path := by
  obtain ⟨id, hpath, -⟩ := h
  exact ⟨["downloads", id], hpath, List.cons_ne_nil _ _, by simp⟩

/-- The relay asks for an access token below these areas. -/
theorem relayHttpAdmissionRequirement_of_under {area : String}
    (harea : area = "control" ∨ area = "files" ∨ area = "push") (h : UnderPath area path) :
    relayHttpAdmissionRequirement path = some (.signed "Bearer" .accessToken) := by
  obtain ⟨rest, hpath, hrest, -⟩ := h
  have hauth {text : List Char}
      (htext : ((text.splitOn '/').map String.ofList)[2]? = some "auth") :
      path ≠ String.ofList text := by
    rintro rfl
    rw [← segments_ofList, hpath] at htext
    obtain rfl : area = "auth" := Option.some.inj htext
    revert harea
    decide
  have htext : path.toList = "/api/".toList ++ area.toList ++ '/' :: (join rest).toList := by
    rw [← join_segments path, hpath, toList_join_cons _ (List.cons_ne_nil _ _),
      toList_join_cons _ (List.cons_ne_nil _ _), toList_join_cons _ hrest]
    simp
  rw [relayHttpAdmissionRequirement, if_neg (hauth rfl),
    if_neg (not_or.mpr ⟨hauth rfl, hauth rfl⟩), if_neg (not_or.mpr ⟨hauth rfl, hauth rfl⟩), if_pos]
  rw [htext]
  rcases harea with rfl | rfl | rfl <;> simp

/-- The relay passes what it matches to the tunnel. -/
theorem handler_relayRouter (pattern : String) (names : List String) {name : String}
    (hmem : tunnelled pattern names ∈ relayRouter) (hname : name ∈ names)
    (hmatches : (tunnelled pattern names).Matches path = true) :
    handler relayRouter name path = some .relayHttpTunnel :=
  (handler_eq_some_iff unambiguous_relayRouter).mpr
    ((mem_methods_iff unambiguous_relayRouter).mpr
      ⟨_, hmem, hmatches, List.mem_append_left _ (List.mem_map_of_mem hname)⟩)

/-- The routes without parameters are below three areas. -/
theorem of_mem_literalRequests {entry : String × DaemonHandler}
    (h : (path, entry) ∈ literalRequests) :
    (∃ requirement, relayHttpAdmissionRequirement path = some requirement ∧
      entry.2.authorization = some requirement) ∧
    handler relayRouter entry.1 path = some .relayHttpTunnel := by
  have hauth (rest : List String) (hpath : segments path = "" :: "api" :: "auth" :: rest)
      (hrest : rest ≠ [] ∧ rest ≠ [""]) :
      handler relayRouter "POST" path = some .relayHttpTunnel :=
    handler_relayRouter "/api/auth/*path" ["POST"] (by simp [relayRouter]) List.mem_cons_self
      ((matches_under "auth" (pattern_eq rfl)).mpr ⟨rest, hpath, hrest⟩)
  have hbearer (area : String) (harea : area = "control" ∨ area = "files" ∨ area = "push")
      (piece : String) (hpath : segments path = ["", "api", area, piece]) (hpiece : piece ≠ "") :
      ∃ requirement, relayHttpAdmissionRequirement path = some requirement ∧
        some (.signed "Bearer" .accessToken) = some requirement :=
    ⟨_, relayHttpAdmissionRequirement_of_under harea
      ⟨[piece], hpath, List.cons_ne_nil _ _, by simpa using hpiece⟩, rfl⟩
  have hliteral (text : String) (names : List String) {name : String}
      (hmem : tunnelled text names ∈ relayRouter) (hname : name ∈ names)
      (hpattern : pattern text = (segments text).map .literal) :
      handler relayRouter name text = some .relayHttpTunnel :=
    handler_relayRouter text names hmem hname ((Route.matches_literal hpattern).mpr rfl)
  simp only [literalRequests, List.mem_cons, List.not_mem_nil, or_false, Prod.mk.injEq] at h
  rcases h with ⟨rfl, rfl⟩ | ⟨rfl, rfl⟩ | ⟨rfl, rfl⟩ | ⟨rfl, rfl⟩ | ⟨rfl, rfl⟩ | ⟨rfl, rfl⟩ |
    ⟨rfl, rfl⟩ | ⟨rfl, rfl⟩ | ⟨rfl, rfl⟩ | ⟨rfl, rfl⟩
  · exact ⟨⟨_, rfl, rfl⟩, hauth ["pair"] (segments_eq rfl) (by decide)⟩
  · exact ⟨⟨_, rfl, rfl⟩, hauth ["challenge"] (segments_eq rfl) (by decide)⟩
  · exact ⟨⟨_, rfl, rfl⟩, hauth ["access-token"] (segments_eq rfl) (by decide)⟩
  · exact ⟨⟨_, rfl, rfl⟩, hauth ["device-certificate", "migrate"] (segments_eq rfl)
      (by decide)⟩
  · exact ⟨⟨_, rfl, rfl⟩, hauth ["device-certificate", "migrate", "challenge"]
      (segments_eq rfl) (by decide)⟩
  · exact ⟨hbearer "files" (.inr (.inl rfl)) "uploads" (segments_eq rfl) (by decide),
      hliteral "/api/files/uploads" ["POST"] (by simp [relayRouter]) (by simp) (pattern_literal rfl)⟩
  · exact ⟨hbearer "files" (.inr (.inl rfl)) "downloads" (segments_eq rfl)
      (by decide), hliteral "/api/files/downloads" ["POST"] (by simp [relayRouter]) (by simp)
        (pattern_literal rfl)⟩
  · exact ⟨hbearer "push" (.inr (.inr rfl)) "config" (segments_eq rfl) (by decide),
      hliteral "/api/push/config" ["GET"] (by simp [relayRouter]) (by simp) (pattern_literal rfl)⟩
  · exact ⟨hbearer "push" (.inr (.inr rfl)) "subscription" (segments_eq rfl)
      (by decide), hliteral "/api/push/subscription" ["PUT", "DELETE"] (by simp [relayRouter])
        (by simp) (pattern_literal rfl)⟩
  · exact ⟨hbearer "push" (.inr (.inr rfl)) "subscription" (segments_eq rfl)
      (by decide), hliteral "/api/push/subscription" ["PUT", "DELETE"] (by simp [relayRouter])
        (by simp) (pattern_literal rfl)⟩

/-- **A handler of the daemon** checks what the relay asks for, and the relay passes its requests to
the tunnel. -/
theorem of_mem_methods {entry : String × DaemonHandler} (h : entry ∈ methods daemonRouter path)
    (hne : entry.2 ≠ preflight) :
    (∃ requirement, relayHttpAdmissionRequirement path = some requirement ∧
      entry.2.authorization = some requirement) ∧
    handler relayRouter entry.1 path = some .relayHttpTunnel := by
  have hbearer {area : String} (harea : area = "control" ∨ area = "files" ∨ area = "push")
      (hunder : UnderPath area path) : ∃ requirement,
      relayHttpAdmissionRequirement path = some requirement ∧
        some (.signed "Bearer" .accessToken) = some requirement :=
    ⟨_, relayHttpAdmissionRequirement_of_under harea hunder, rfl⟩
  rcases (mem_methods_daemonRouter_iff hne).mp h with
    hpath | ⟨hpath, rfl⟩ | ⟨hpath, rfl⟩ | ⟨hpath, rfl⟩ | ⟨hpath, rfl⟩ | ⟨hpath, rfl⟩
  · exact of_mem_literalRequests hpath
  · exact ⟨hbearer (.inl rfl) hpath,
      handler_relayRouter "/api/control/*path" ["POST"] (by simp [relayRouter]) List.mem_cons_self
        ((matches_under "control" (pattern_eq rfl)).mpr hpath)⟩
  · exact ⟨hbearer (.inr (.inl rfl)) hpath.under,
      handler_relayRouter "/api/files/uploads/:id/chunks" ["PUT"]
        (by simp [relayRouter]) List.mem_cons_self
        ((matches_action "chunks" (pattern_eq rfl)).mpr hpath)⟩
  · exact ⟨hbearer (.inr (.inl rfl)) hpath.under,
      handler_relayRouter "/api/files/uploads/:id/commit" ["POST"]
        (by simp [relayRouter]) List.mem_cons_self
        ((matches_action "commit" (pattern_eq rfl)).mpr hpath)⟩
  · exact ⟨hbearer (.inr (.inl rfl)) hpath.under,
      handler_relayRouter "/api/files/uploads/:id/abort" ["POST"]
        (by simp [relayRouter]) List.mem_cons_self
        ((matches_action "abort" (pattern_eq rfl)).mpr hpath)⟩
  · exact ⟨hbearer (.inr (.inl rfl)) hpath.under,
      handler_relayRouter "/api/files/downloads/:id" ["GET"]
        (by simp [relayRouter]) List.mem_cons_self ((matches_download (pattern_eq rfl)).mpr hpath)⟩

theorem fileSegmentsAllowed_iff {isMethod : String → Bool} {file : List String} :
    fileSegmentsAllowed isMethod file = true ↔
      (file = ["api", "files", "uploads"] ∨ file = ["api", "files", "downloads"]) ∧
        isMethod "POST" = true ∨
      (∃ id, id ≠ "" ∧ (file = ["api", "files", "uploads", id, "chunks"] ∧ isMethod "PUT" = true ∨
        (file = ["api", "files", "uploads", id, "commit"] ∨
          file = ["api", "files", "uploads", id, "abort"]) ∧ isMethod "POST" = true ∨
        file = ["api", "files", "downloads", id] ∧ isMethod "GET" = true)) := by
  constructor
  · intro h
    rw [fileSegmentsAllowed.eq_def] at h
    split at h
    · exact .inl ⟨.inl rfl, h⟩
    · exact .inl ⟨.inr rfl, h⟩
    next id =>
      obtain ⟨hid, hmethod⟩ := Bool.and_eq_true_iff.mp h
      exact .inr ⟨id, of_decide_eq_true hid, .inl ⟨rfl, hmethod⟩⟩
    next id action _ =>
      obtain ⟨hpath, hmethod⟩ := Bool.and_eq_true_iff.mp h
      obtain ⟨hid, haction⟩ := Bool.and_eq_true_iff.mp hpath
      refine .inr ⟨id, of_decide_eq_true hid, .inr (.inl ⟨?_, hmethod⟩)⟩
      rcases Bool.or_eq_true_iff.mp haction with haction | haction
      · obtain rfl := of_decide_eq_true haction
        exact .inl rfl
      · obtain rfl := of_decide_eq_true haction
        exact .inr rfl
    next id =>
      obtain ⟨hid, hmethod⟩ := Bool.and_eq_true_iff.mp h
      exact .inr ⟨id, of_decide_eq_true hid, .inr (.inr ⟨rfl, hmethod⟩)⟩
    · cases h
  · rintro (⟨rfl | rfl, h⟩ | ⟨id, hid, ⟨rfl, h⟩ | ⟨rfl | rfl, h⟩ | ⟨rfl, h⟩⟩)
    · exact h
    · exact h
    all_goals simp [fileSegmentsAllowed, hid, h]

/-- A path behind a slash ends with its last segment. -/
theorem getLast?_segments {name : String} (hname : '/' ∉ name.toList)
    (h : ('/' :: name.toList).isSuffixOf path.toList = true) :
    (segments path).getLast? = some name := by
  obtain ⟨front, hfront⟩ := List.isSuffixOf_iff_suffix.mp h
  obtain rfl : path = String.ofList front ++ "/" ++ name := by
    rw [← String.toList_inj, ← hfront]
    simp
  rw [segments_append, segments, segments, List.splitOn_eq_singleton hname]
  simp

/-- **No path of the whitelist was removed.** -/
theorem notFound_httpControlRequest : httpControlRequest.notFound isUuid path = false ↔
    isHttpControlTunnelPathAllowed isUuid path = true := by
  rw [DaemonHandler.notFound, Bool.or_eq_false_iff, Bool.not_eq_false', and_iff_right_iff_imp]
  intro hallowed
  obtain ⟨rest, hpath, hrest⟩ := isHttpControlTunnelPathAllowed_iff.mp hallowed
  have hlast : ∃ name ∈ "reorder" :: "client_forget" :: sessionActions,
      (segments path).getLast? = some name := by
    rw [hpath]
    rw [controlSegmentsAllowed.eq_def] at hrest
    split at hrest
    · exact ⟨"reorder", by decide, rfl⟩
    · exact ⟨"client_forget", by decide, rfl⟩
    next haction =>
      have haction := of_decide_eq_true (Bool.and_eq_true_iff.mp hrest).2
      exact ⟨_, List.mem_cons_of_mem _ (List.mem_cons_of_mem _ haction), rfl⟩
    · cases hrest
  obtain ⟨name, hname, hlast⟩ := hlast
  rw [isRemovedHttpControlPath, Bool.or_eq_false_iff]
  constructor
  · refine decide_eq_false fun hremoved => ?_
    have hremoved' : ∀ path ∈ removedPaths, ∀ name ∈ "reorder" :: "client_forget" :: sessionActions,
        (segments path).getLast? ≠ some name := by
      simp only [removedPaths, List.forall_mem_cons]
      exact ⟨by rw [segments_eq rfl]; decide,
        by rw [segments_eq rfl]; decide,
        by rw [segments_eq rfl]; decide, fun _ h => by cases h⟩
    exact hremoved' path hremoved name hname hlast
  · rw [List.any_eq_false]
    intro action haction hsuffix
    have hactions : ∀ action ∈ removedActions, ∃ removed : String,
        action.toList = '/' :: removed.toList ∧ '/' ∉ removed.toList ∧
          removed ∉ "reorder" :: "client_forget" :: sessionActions := by
      simp only [removedActions, List.forall_mem_cons]
      exact ⟨⟨"attach", by decide⟩, ⟨"cursor", by decide⟩, ⟨"resize", by decide⟩,
        ⟨"file_download_prepare", by decide⟩, ⟨"file_download_chunk", by decide⟩,
        fun _ h => by cases h⟩
    obtain ⟨removed, htext, hslash, hremoved⟩ := hactions action haction
    rw [htext] at hsuffix
    rw [getLast?_segments hslash hsuffix] at hlast
    obtain rfl := Option.some.inj hlast
    exact hremoved hname

/-- **What the daemon serves.** -/
theorem served_iff : Served isUuid method path ↔
    method = "POST" ∧ path ∈ authPaths ∨
    method = "POST" ∧ isHttpControlTunnelPathAllowed isUuid path = true ∨
    (∃ file, segments path = "" :: file ∧ "" ∉ file ∧
      fileSegmentsAllowed (fun name => method = name) file = true) ∨
    method = "GET" ∧ path = "/api/push/config" ∨
    method = "PUT" ∧ path = "/api/push/subscription" ∨
    method = "DELETE" ∧ path = "/api/push/subscription" := by
  constructor
  · rintro ⟨found, hfound, hne, hnotFound⟩
    rcases (mem_methods_daemonRouter_iff hne).mp
      ((handler_eq_some_iff unambiguous_daemonRouter).mp hfound) with
      h | ⟨hpath, h⟩ | ⟨⟨id, hpath, hid⟩, h⟩ | ⟨⟨id, hpath, hid⟩, h⟩ | ⟨⟨id, hpath, hid⟩, h⟩ |
      ⟨⟨id, hpath, hid⟩, h⟩
    · simp only [literalRequests, List.mem_cons, List.not_mem_nil, or_false, Prod.mk.injEq] at h
      rcases h with ⟨rfl, rfl, -⟩ | ⟨rfl, rfl, -⟩ | ⟨rfl, rfl, -⟩ | ⟨rfl, rfl, -⟩ | ⟨rfl, rfl, -⟩ |
        ⟨rfl, rfl, -⟩ | ⟨rfl, rfl, -⟩ | ⟨rfl, rfl, -⟩ | ⟨rfl, rfl, -⟩ | ⟨rfl, rfl, -⟩
      iterate 5 exact .inl ⟨rfl, by decide⟩
      · exact .inr (.inr (.inl ⟨["api", "files", "uploads"],
        segments_eq rfl, by decide, rfl⟩))
      · exact .inr (.inr (.inl ⟨["api", "files", "downloads"],
        segments_eq rfl, by decide, rfl⟩))
      · exact .inr (.inr (.inr (.inl ⟨rfl, rfl⟩)))
      · exact .inr (.inr (.inr (.inr (.inl ⟨rfl, rfl⟩))))
      · exact .inr (.inr (.inr (.inr (.inr ⟨rfl, rfl⟩))))
    · obtain ⟨rfl, rfl⟩ := Prod.mk.inj h
      exact .inr (.inl ⟨rfl, notFound_httpControlRequest.mp hnotFound⟩)
    all_goals
      obtain ⟨rfl, rfl⟩ := Prod.mk.inj h
      refine .inr (.inr (.inl ⟨_, hpath, ?_, ?_⟩))
      · simp [hid.symm]
      · simp [fileSegmentsAllowed, hid]
  · have hserved (f : DaemonHandler) (hne : f ≠ preflight)
        (hmem : (path, method, f) ∈ literalRequests ∨
          UnderPath "control" path ∧ (method, f) = ("POST", httpControlRequest) ∨
          ActionPath "chunks" path ∧ (method, f) = ("PUT", fileUploadChunk) ∨
          ActionPath "commit" path ∧ (method, f) = ("POST", fileUploadCommit) ∨
          ActionPath "abort" path ∧ (method, f) = ("POST", fileUploadAbort) ∨
          DownloadPath path ∧ (method, f) = ("GET", fileDownloadRead))
        (hnotFound : f.notFound isUuid path = false) : Served isUuid method path :=
      ⟨f, (handler_eq_some_iff unambiguous_daemonRouter).mpr
        ((mem_methods_daemonRouter_iff hne).mpr hmem), hne, hnotFound⟩
    rintro (⟨rfl, hpath⟩ | ⟨rfl, hpath⟩ | ⟨file, hpath, -, hfile⟩ | ⟨rfl, rfl⟩ | ⟨rfl, rfl⟩ |
      ⟨rfl, rfl⟩)
    · simp only [authPaths, List.mem_cons, List.not_mem_nil, or_false] at hpath
      rcases hpath with rfl | rfl | rfl | rfl | rfl
      · exact hserved authPair (by decide) (.inl (by decide)) rfl
      · exact hserved authChallenge (by decide) (.inl (by decide)) rfl
      · exact hserved authAccessToken (by decide) (.inl (by decide)) rfl
      · exact hserved authDeviceCertificateMigrate (by decide) (.inl (by decide)) rfl
      · exact hserved authDeviceCertificateMigrationChallenge (by decide) (.inl (by decide)) rfl
    · obtain ⟨rest, hsegments, hrest⟩ := isHttpControlTunnelPathAllowed_iff.mp hpath
      refine hserved httpControlRequest (by decide)
        (.inr (.inl ⟨⟨rest, hsegments, ?_, ?_⟩, rfl⟩)) (notFound_httpControlRequest.mpr hpath)
      · rintro rfl
        cases hrest
      · rintro rfl
        cases hrest
    · rcases fileSegmentsAllowed_iff.mp hfile with
        ⟨rfl | rfl, h⟩ | ⟨id, hid, ⟨rfl, h⟩ | ⟨rfl | rfl, h⟩ | ⟨rfl, h⟩⟩
      all_goals obtain rfl := of_decide_eq_true h
      · have htext : segments "/api/files/uploads" = ["", "api", "files", "uploads"] := segments_eq rfl
        obtain rfl : path = "/api/files/uploads" := segments_injective (hpath.trans htext.symm)
        exact hserved fileUploadCreate (by decide) (.inl (by decide)) rfl
      · have htext : segments "/api/files/downloads" = ["", "api", "files", "downloads"] := segments_eq rfl
        obtain rfl : path = "/api/files/downloads" := segments_injective (hpath.trans htext.symm)
        exact hserved fileDownloadCreate (by decide) (.inl (by decide)) rfl
      · exact hserved _ (by decide) (.inr (.inr (.inl ⟨⟨id, hpath, hid⟩, rfl⟩))) rfl
      · exact hserved _ (by decide) (.inr (.inr (.inr (.inl ⟨⟨id, hpath, hid⟩, rfl⟩)))) rfl
      · exact hserved _ (by decide) (.inr (.inr (.inr (.inr (.inl ⟨⟨id, hpath, hid⟩, rfl⟩))))) rfl
      · exact hserved _ (by decide) (.inr (.inr (.inr (.inr (.inr ⟨⟨id, hpath, hid⟩, rfl⟩))))) rfl
    · exact hserved pushConfig (by decide) (.inl (by decide)) rfl
    · exact hserved pushSubscriptionUpsert (by decide) (.inl (by decide)) rfl
    · exact hserved pushSubscriptionDelete (by decide) (.inl (by decide)) rfl

/-! ### The whitelist and the daemon -/

/-- A file path is allowed by its segments that are not empty. -/
theorem isPrefixOf_of_fileSegmentsAllowed {isMethod : String → Bool} {file : List String}
    (h : fileSegmentsAllowed isMethod file = true) : ["api", "files"].isPrefixOf file = true := by
  rcases fileSegmentsAllowed_iff.mp h with
    ⟨rfl | rfl, -⟩ | ⟨id, -, ⟨rfl, -⟩ | ⟨rfl | rfl, -⟩ | ⟨rfl, -⟩⟩ <;> rfl

theorem isHttpFileTunnelPathAllowed_iff : isHttpFileTunnelPathAllowed method path = true ↔
    ∃ file, segments (normalPath path) = "" :: file ∧ "" ∉ file ∧
      fileSegmentsAllowed (fun name => normalMethod method = name) file = true := by
  have hmethod (name : String) (hname : name ∈ routeMethods) :
      eqIgnoreAsciiCase method name = decide (normalMethod method = name) := by
    rw [Bool.eq_iff_iff, decide_eq_true_eq]
    exact (normalMethod_eq_iff hname).symm
  have hcongr (file : List String) : fileSegmentsAllowed (eqIgnoreAsciiCase method) file = true ↔
      fileSegmentsAllowed (fun name => normalMethod method = name) file = true := by
    rw [fileSegmentsAllowed_iff, fileSegmentsAllowed_iff, hmethod "POST" (by decide),
      hmethod "PUT" (by decide), hmethod "GET" (by decide)]
  rw [isHttpFileTunnelPathAllowed, hcongr]
  constructor
  · intro h
    refine ⟨_, segments_normalPath (isPrefixOf_of_fileSegmentsAllowed h), fun hmem => ?_, h⟩
    exact of_decide_eq_true (List.mem_filter.mp hmem).2 rfl
  · rintro ⟨file, hpath, hfile, h⟩
    rwa [← fullSegments_normalPath, fullSegments_of_segments hpath hfile]

/-- A path that is no file path, by its characters. -/
theorem notFile {text : List Char}
    (h : ["api", "files"].isPrefixOf
      (((text.splitOn '/').map String.ofList).filter (· ≠ "")) = false) :
    ["api", "files"].isPrefixOf (fullSegments (String.ofList text)) = false := by
  rw [fullSegments, segments_ofList]
  exact h

theorem notFile_of_mem_authPaths (h : path ∈ authPaths) :
    ["api", "files"].isPrefixOf (fullSegments path) = false := by
  simp only [authPaths, List.mem_cons, List.not_mem_nil, or_false] at h
  rcases h with rfl | rfl | rfl | rfl | rfl <;> exact notFile rfl

theorem notFile_of_control (h : isHttpControlTunnelPathAllowed isUuid path = true) :
    ["api", "files"].isPrefixOf (fullSegments path) = false := by
  obtain ⟨rest, hpath, -⟩ := isHttpControlTunnelPathAllowed_iff.mp h
  rw [fullSegments, hpath]
  rfl

/-- **The whitelist takes what is served in its normal form.** -/
theorem isHttpTunnelPathAllowed_iff : isHttpTunnelPathAllowed isUuid method path = true ↔
    Served isUuid (normalMethod method) (normalPath path) := by
  have hauth : normalPath path ∈ authPaths ↔ path ∈ authPaths :=
    normalPath_iff (P := (· ∈ authPaths)) fun _ => notFile_of_mem_authPaths
  have hcontrol : isHttpControlTunnelPathAllowed isUuid (normalPath path) = true ↔
      isHttpControlTunnelPathAllowed isUuid path = true :=
    normalPath_iff (P := fun path => isHttpControlTunnelPathAllowed isUuid path = true)
      fun _ => notFile_of_control
  have hpush {text : String} (htext : ["api", "files"].isPrefixOf (fullSegments text) = false) :
      normalPath path = text ↔ path = text := by
    refine normalPath_iff (P := (· = text)) ?_
    rintro path rfl
    exact htext
  rw [served_iff, hauth, hcontrol, hpush (notFile rfl), hpush (notFile rfl),
    ← isHttpFileTunnelPathAllowed_iff, normalMethod_eq_iff (by decide),
    normalMethod_eq_iff (by decide), normalMethod_eq_iff (by decide),
    normalMethod_eq_iff (by decide)]
  simp only [isHttpTunnelPathAllowed, Bool.or_eq_true, Bool.and_eq_true, decide_eq_true_eq,
    or_assoc]

/-- What is served is written as in the routes. -/
theorem normal_of_served (h : Served isUuid method path) :
    normalMethod method = method ∧ normalPath path = path := by
  have hfile (hpath : ["api", "files"].isPrefixOf (fullSegments path) = false) :
      normalPath path = path := by
    rw [normalPath, if_neg (Bool.eq_false_iff.mp hpath)]
  rcases served_iff.mp h with ⟨rfl, hpath⟩ | ⟨rfl, hpath⟩ | ⟨file, hpath, hfull, hallowed⟩ |
    ⟨rfl, rfl⟩ | ⟨rfl, rfl⟩ | ⟨rfl, rfl⟩
  · exact ⟨normalMethod_of_mem (by decide), hfile (notFile_of_mem_authPaths hpath)⟩
  · exact ⟨normalMethod_of_mem (by decide), hfile (notFile_of_control hpath)⟩
  · constructor
    · rcases fileSegmentsAllowed_iff.mp hallowed with
        ⟨-, h⟩ | ⟨id, -, ⟨-, h⟩ | ⟨-, h⟩ | ⟨-, h⟩⟩ <;>
      · obtain rfl := of_decide_eq_true h
        exact normalMethod_of_mem (by decide)
    · have hsegments := fullSegments_of_segments hpath hfull
      rw [normalPath, hsegments, if_pos (isPrefixOf_of_fileSegmentsAllowed hallowed), ← hpath,
        join_segments]
  all_goals exact ⟨normalMethod_of_mem (by decide), hfile (notFile rfl)⟩

/-- The handler that streams a file. -/
theorem streamsFile_iff : (∃ found, handler daemonRouter method path = some found ∧
    found.streamsFile = true) ↔ method = "GET" ∧ DownloadPath path := by
  constructor
  · rintro ⟨found, hfound, hstreams⟩
    obtain rfl := of_decide_eq_true hstreams
    rcases (mem_methods_daemonRouter_iff fun h => by cases h).mp
      ((handler_eq_some_iff unambiguous_daemonRouter).mp hfound) with
      h | ⟨-, h⟩ | ⟨-, h⟩ | ⟨-, h⟩ | ⟨-, h⟩ | ⟨hpath, h⟩
    · simp [literalRequests] at h
    · cases h
    · cases h
    · cases h
    · cases h
    · exact ⟨congrArg Prod.fst h, hpath⟩
  · rintro ⟨rfl, hpath⟩
    refine ⟨fileDownloadRead, (handler_eq_some_iff unambiguous_daemonRouter).mpr ?_, rfl⟩
    exact (mem_methods_daemonRouter_iff (by decide)).mpr
      (.inr (.inr (.inr (.inr (.inr ⟨hpath, rfl⟩)))))

theorem isRelayHttpTunnelDownload_iff : isRelayHttpTunnelDownload method path = true ↔
    normalMethod method = "POST" ∧ path = "/api/files/download" := by
  rw [isRelayHttpTunnelDownload, Bool.and_eq_true, decide_eq_true_eq,
    normalMethod_eq_iff (by decide)]

/-- The download that is cut off is at a path without a route. -/
theorem not_downloadPath : ¬DownloadPath "/api/files/download" := by
  rintro ⟨id, hpath, -⟩
  have hlength : (segments "/api/files/download").length = 4 := by
    rw [segments_eq rfl]
    rfl
  rw [hpath] at hlength
  cases hlength

/-! ### Agreement -/

/-- **The tables agree** about a request unless it is served in its normal form but not written in
it, or streams a file, or is one to the path of the download that is cut off. -/
theorem agree_iff (isUuid : String → Bool) (method path : String) : Agree isUuid method path ↔
    (Served isUuid (normalMethod method) (normalPath path) →
      normalMethod method = method ∧ normalPath path = path) ∧
    ¬(normalMethod method = "POST" ∧ path = "/api/files/download") ∧
    ¬(method = "GET" ∧ DownloadPath path) := by
  constructor
  · intro h
    refine ⟨fun hnormal => ?_, fun hstale => ?_, fun hstreams => ?_⟩
    · exact normal_of_served (h.whitelist.mp (isHttpTunnelPathAllowed_iff.mpr hnormal))
    · have hpath := (streamsFile_iff.mp
        (h.download.mp (isRelayHttpTunnelDownload_iff.mpr hstale))).2
      rw [hstale.2] at hpath
      exact not_downloadPath hpath
    · have hstale := isRelayHttpTunnelDownload_iff.mp
        (h.download.mpr (streamsFile_iff.mpr hstreams))
      have hpath := hstreams.2
      rw [hstale.2] at hpath
      exact not_downloadPath hpath
  · rintro ⟨hnormal, hstale, hstreams⟩
    have hwhitelist : isHttpTunnelPathAllowed isUuid method path = true ↔
        Served isUuid method path := by
      rw [isHttpTunnelPathAllowed_iff]
      constructor
      · intro h
        obtain ⟨hmethod, hpath⟩ := hnormal h
        rwa [hmethod, hpath] at h
      · intro h
        obtain ⟨hmethod, hpath⟩ := normal_of_served h
        rwa [hmethod, hpath]
    -- what is served has a handler of the daemon, and all else follows from it
    have hserved (h : Served isUuid method path) :
        (∃ requirement, relayHttpAdmissionRequirement path = some requirement) ∧
          handler relayRouter method path = some .relayHttpTunnel := by
      obtain ⟨found, hfound, hne, -⟩ := h
      obtain ⟨⟨requirement, hrequirement, -⟩, htunnel⟩ :=
        of_mem_methods ((handler_eq_some_iff unambiguous_daemonRouter).mp hfound) hne
      exact ⟨⟨requirement, hrequirement⟩, htunnel⟩
    refine ⟨fun hallowed => ?_, hwhitelist, fun hallowed => (hserved (hwhitelist.mp hallowed)).2,
      ⟨fun hsome => ?_, fun h => ?_⟩, ?_⟩
    · obtain ⟨⟨requirement, hrequirement⟩, -⟩ := hserved (hwhitelist.mp hallowed)
      refine ⟨requirement, hrequirement, fun entry hentry hne => ?_⟩
      obtain ⟨⟨requirement', hrequirement', hauthorization⟩, -⟩ := of_mem_methods hentry hne
      rw [hauthorization, ← hrequirement', hrequirement]
    · rw [relayHttpTunnel] at hsome
      split_ifs at hsome with htunnel hallowed
      · exact hwhitelist.mp hallowed
      · cases hsome
      · cases hsome
    · obtain ⟨⟨requirement, hrequirement⟩, htunnel⟩ := hserved h
      rw [relayHttpTunnel, if_pos htunnel, if_pos (hwhitelist.mpr h), hrequirement]
      rfl
    · rw [streamsFile_iff, isRelayHttpTunnelDownload_iff]
      exact iff_of_false hstale hstreams

/-- **The tables do not agree** about the route that streams a file. -/
theorem not_agree_download : ¬∀ (isUuid : String → Bool) (method path : String),
    Agree isUuid method path := by
  intro h
  have hdownload := (h (fun _ => false) "GET" "/api/files/downloads/a").download.mpr
    (streamsFile_iff.mpr ⟨rfl, "a", by decide +kernel, by decide⟩)
  revert hdownload
  decide +kernel

end

end Termd.Relay.Routes
