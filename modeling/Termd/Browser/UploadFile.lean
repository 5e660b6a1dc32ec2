import Termd.Files.Handlers

/-!
# A browser uploads a file

The browser announces a file, sends it in chunks of equal size, and asks for the commit. When any
of this fails after the daemon has announced the upload, it asks for an abort, and swallows what
becomes of that. All requests are given the signal of the caller: once it has fired, none is sent.

What happens to a request is decided by its `Await`: whether the part of the file could be read, an
access token was to be had, the signal had fired, and what the network answered.

## Main definitions

* `uploadRequests`: the requests for a file, but for the abort
* `uploadSessionFile`: which requests are sent, and whether the upload was rejected
* `serve`: what the daemon answers to the requests
* `EndToEnd`: an upload that arrives as it was sent, or is aborted

## Main results

* `endToEnd_iff`: when browser and daemon fit together
* `abort_not_sent`: the signal of the caller keeps the abort from being sent
-/

namespace Termd.Browser

open Files Files.UploadServer

def fileChunkBytes : ℕ := 2 * 1024 * 1024

inductive UploadRequest
  | create (sizeBytes : ℕ)
  | chunk (header : List Char) (body : Bytes)
  | commit
  | abort
deriving DecidableEq

/-- A file whose size is a number of the browser. -/
structure Blob where
  bytes : Bytes
  size_lt : bytes.length < 2 ^ 53

namespace Blob

variable (file : Blob)

/-- The loop over the offsets; each round moves the offset, so that as many rounds as there are
bytes are enough. -/
def chunkRanges : ℕ → ℕ → List (ℕ × ℕ)
  | 0, _ => []
  | rounds + 1, offset =>
    if offset < file.bytes.length then
      (offset, min file.bytes.length (offset + fileChunkBytes)) ::
        chunkRanges rounds (offset + fileChunkBytes)
    else []

/-- The requests that carry the bytes. -/
def chunkRequests : List UploadRequest :=
  if file.bytes.length = 0 then [.chunk emptyContentRange []]
  else (file.chunkRanges file.bytes.length 0).map fun range =>
    .chunk (contentRange range.1 range.2 file.bytes.length) (part file.bytes range.1 range.2)

/-- All requests after the one that creates the upload. -/
def laterRequests : List UploadRequest := file.chunkRequests ++ [.commit]

def uploadRequests : List UploadRequest := .create file.bytes.length :: file.laterRequests

end Blob

/-! ### The browser -/

/-- What the network makes of a request that was sent. -/
inductive Answer
  /-- The daemon accepts the request, and its answer is read. -/
  | ok
  /-- The daemon accepts the request, and the answer gets lost, cannot be read, comes too late, or
  the callback for it throws. -/
  | lost
  /-- An error of the daemon, or the request does not get there. -/
  | refused
deriving DecidableEq

/-- What happens to one request. -/
structure Await where
  /-- The part of the file was read, and the callback before the request has returned. -/
  prepared : Bool := true
  /-- There is an access token. -/
  token : Bool := true
  /-- The signal of the caller has fired. -/
  fired : Bool := false
  answer : Answer := .ok

namespace Await

variable (a : Await)

/-- The request can be sent: `fetch` rejects at once when the signal has fired. -/
def sendable : Bool := a.token && !a.fired

/-- The request is handed to the network. -/
def issued : Bool := a.prepared && a.sendable

def succeeds : Bool := a.issued && a.answer = .ok

/-- The daemon has done what the request asks for. -/
def accepted : Bool := a.issued && a.answer ≠ .refused

end Await

/-- What happens to the requests, by their place in the order, and to the abort. -/
structure Environment where
  create : Await
  later : ℕ → Await
  abort : Await

/-- The requests that are sent until one fails, and whether none does. -/
def send (later : ℕ → Await) : ℕ → List UploadRequest → List UploadRequest × Bool
  | _, [] => ([], true)
  | n, request :: requests =>
    if (later n).succeeds then
      let (sent, ok) := send later (n + 1) requests
      (request :: sent, ok)
    else (if (later n).issued then [request] else [], false)

/-- What becomes of a call of `uploadSessionFile`. -/
structure UploadOutcome where
  /-- The requests that were handed to the network. -/
  issued : List UploadRequest
  /-- The daemon has created the upload. -/
  created : Bool
  rejected : Bool

def uploadSessionFile (file : Blob) (env : Environment) : UploadOutcome :=
  let create := if env.create.issued then [UploadRequest.create file.bytes.length] else []
  if env.create.succeeds then
    match send env.later 0 file.laterRequests with
    | (sent, true) => { issued := create ++ sent, created := true, rejected := false }
    | (sent, false) =>
      { issued := create ++ sent ++ if env.abort.sendable then [.abort] else []
        created := true
        rejected := true }
  else { issued := create, created := env.create.accepted, rejected := true }

/-! ### The daemon -/

/-- What a request finds at the daemon. -/
structure UploadSite where
  sessionId : ℕ
  target : Files.Path
  uploadId : String
  fileIdentity : FileIdentity
  /-- The moment of the request with this place in the order. -/
  moment : ℕ → Moment

/-- The upload that is created for a file. -/
def UploadSite.created (site : UploadSite) (sizeBytes : ℕ) : UploadServer where
  upload := some (.create site.sessionId site.target site.uploadId (UInt64.ofNat sizeBytes)
    site.fileIdentity (site.moment 0).nowMs)
  file := List.replicate sizeBytes 0

/-- The daemon after a request that it accepts. -/
def respond (site : UploadSite) (n : ℕ) (s : UploadServer) : UploadRequest → Option UploadServer
  | .chunk header body =>
    match s.chunk site.target site.uploadId (some header) body (site.moment n) with
    | (s, .ok _) => some s
    | (_, .error _) => none
  | .commit =>
    match s.commit site.target site.uploadId (site.moment n) with
    | (s, .ok _) => some s
    | (_, .error _) => none
  | .create _ | .abort => none

/-- The states of the daemon after each of the requests, if it accepts them all. -/
def serve (site : UploadSite) : ℕ → UploadServer → List UploadRequest → Option (List UploadServer)
  | _, _, [] => some []
  | n, s, request :: requests => do
    let s ← respond site n s request
    let states ← serve site (n + 1) s requests
    return s :: states

/-! ### Chunks -/

/-- The ranges follow each other from `start` to `stop`; none is empty or longer than `limit`. -/
def Consecutive (limit : ℕ) : ℕ → List (ℕ × ℕ) → ℕ → Prop
  | start, [], stop => start = stop
  | start, range :: ranges, stop =>
    range.1 = start ∧ start < range.2 ∧ range.2 - start ≤ limit ∧
      Consecutive limit range.2 ranges stop

theorem Consecutive.le {limit start stop : ℕ} {ranges : List (ℕ × ℕ)}
    (h : Consecutive limit start ranges stop) :
    start ≤ stop ∧ ∀ range ∈ ranges, range.1 < range.2 ∧ range.2 - range.1 ≤ limit ∧
      range.2 ≤ stop := by
  induction ranges generalizing start with
  | nil => exact ⟨le_of_eq h, fun range hmem => absurd hmem List.not_mem_nil⟩
  | cons range ranges ih =>
    obtain ⟨hstart, hlt, hlimit, hrest⟩ := h
    obtain ⟨hle, hranges⟩ := ih hrest
    refine ⟨by omega, List.forall_mem_cons.mpr ⟨⟨by omega, by omega, hle⟩, hranges⟩⟩

/-- **The chunks partition the file.** -/
theorem Blob.consecutive_chunkRanges (file : Blob) {rounds offset : ℕ}
    (hoffset : offset ≤ file.bytes.length) (hrounds : file.bytes.length - offset ≤ rounds) :
    Consecutive fileChunkBytes offset (file.chunkRanges rounds offset) file.bytes.length := by
  have hempty (rounds : ℕ) {offset : ℕ} (hoffset : file.bytes.length ≤ offset) :
      file.chunkRanges rounds offset = [] := by
    cases rounds with
    | zero => rfl
    | succ rounds => rw [chunkRanges, if_neg (by omega)]
  induction rounds generalizing offset with
  | zero =>
    obtain rfl : offset = file.bytes.length := by omega
    rfl
  | succ rounds ih =>
    rcases Nat.lt_or_ge offset file.bytes.length with hlt | hge
    · rw [chunkRanges, if_pos hlt]
      have hpos : 0 < fileChunkBytes := by decide
      refine ⟨rfl, by dsimp only; omega, by dsimp only; omega, ?_⟩
      dsimp only
      rcases Nat.le_total (offset + fileChunkBytes) file.bytes.length with hle | hge
      · rw [Nat.min_eq_right hle]
        exact ih hle (by omega)
      · -- this was the last chunk
        rw [Nat.min_eq_left hge, hempty rounds hge]
        rfl
    · rw [hempty _ hge]
      exact le_antisymm hoffset hge

/-! ### What the daemon does -/

/-- The request for a range. -/
def Blob.chunkRequest (file : Blob) (range : ℕ × ℕ) : UploadRequest :=
  .chunk (contentRange range.1 range.2 file.bytes.length) (part file.bytes range.1 range.2)

theorem serve_append (site : UploadSite) {n : ℕ} {s s' : UploadServer}
    {requests requests' : List UploadRequest} {states states' : List UploadServer}
    (h : serve site n s requests = some (states ++ [s']))
    (h' : serve site (n + requests.length) s' requests' = some states') :
    serve site n s (requests ++ requests') = some (states ++ [s'] ++ states') := by
  induction requests generalizing n s states with
  | nil =>
    rw [serve] at h
    simp at h
  | cons request requests ih =>
    rw [serve] at h
    obtain ⟨next, hnext, h⟩ := Option.bind_eq_some_iff.mp h
    obtain ⟨rest, hrest, h⟩ := Option.bind_eq_some_iff.mp h
    have hstates : next :: rest = states ++ [s'] := Option.some.inj h
    rw [List.cons_append, serve, hnext, ← hstates]
    cases states with
    | nil =>
      -- the request was the last one
      obtain ⟨rfl, rfl⟩ : next = s' ∧ rest = [] := by simpa using hstates
      cases requests with
      | nil =>
        rw [List.nil_append, Option.bind_eq_bind, Option.bind_some]
        rw [List.length_singleton] at h'
        rw [h']
        rfl
      | cons request' requests =>
        rw [serve] at hrest
        obtain ⟨_, _, hrest⟩ := Option.bind_eq_some_iff.mp hrest
        obtain ⟨_, _, hrest⟩ := Option.bind_eq_some_iff.mp hrest
        cases hrest
    | cons first states =>
      obtain ⟨rfl, rfl⟩ : next = first ∧ rest = states ++ [s'] := by simpa using hstates
      have hlength : n + 1 + requests.length = n + (request :: requests).length := by
        rw [List.length_cons]
        omega
      rw [Option.bind_eq_bind, Option.bind_some, ih hrest (hlength ▸ h')]
      rfl

theorem respond_of_chunk {site : UploadSite} {n : ℕ} {s s' : UploadServer} {header : List Char}
    {body : Bytes} {answer : SessionFileUploadProgressPayload}
    (h : s.chunk site.target site.uploadId (some header) body (site.moment n) =
      (s', .ok answer)) : respond site n s (.chunk header body) = some s' := by
  rw [respond, h]

/-- **The chunks write the file.** -/
theorem serve_chunks (site : UploadSite) (file : Blob) {ranges : List (ℕ × ℕ)} {start : ℕ}
    (hranges : Consecutive fileChunkBytes start ranges file.bytes.length) (hne : ranges ≠ [])
    {s : UploadServer} {upload : SessionFileHttpUploadState} (n : ℕ)
    (h : s.Written upload file.bytes start) (htarget : upload.target = site.target)
    (hid : upload.uploadId = site.uploadId) :
    ∃ states s' upload', serve site n s (ranges.map file.chunkRequest) = some (states ++ [s']) ∧
      s'.Published upload' file.bytes ∧ upload'.target = site.target ∧
      upload'.uploadId = site.uploadId := by
  induction ranges generalizing start s upload n with
  | nil => exact absurd rfl hne
  | cons range ranges ih =>
    obtain ⟨rangeStart, stop⟩ := range
    obtain ⟨rfl, hlt, hlimit, hrest⟩ := hranges
    obtain ⟨hle, -⟩ := hrest.le
    obtain ⟨answer, hchunk⟩ := h.chunk hlt hle hlimit (site.moment n)
    rw [htarget, hid] at hchunk
    by_cases hlast : stop = file.bytes.length
    · -- nothing is left
      rw [hlast] at hrest
      have hnil : ranges = [] := by
        cases ranges with
        | nil => rfl
        | cons range ranges =>
          obtain ⟨-, hlt, -, hrest⟩ := hrest
          exact absurd hrest.le.1 (by omega)
      subst hnil hlast
      rw [if_pos rfl] at hchunk
      refine ⟨[], _, _, ?_, h.last (site.moment n).nowMs (site.moment n).modifiedAtMs, htarget,
        hid⟩
      rw [List.map_singleton, serve, Blob.chunkRequest, respond_of_chunk hchunk]
      rfl
    · rw [if_neg hlast] at hchunk
      have hne : ranges ≠ [] := by
        rintro rfl
        exact hlast hrest
      obtain ⟨states, s', upload', hserve, hpublished⟩ :=
        ih hrest hne (n + 1) (h.next hlt hle (site.moment n).nowMs) htarget hid
      refine ⟨⟨some (recorded upload rangeStart stop (site.moment n).nowMs),
        file.bytes.take stop ++ List.replicate (file.bytes.length - stop) 0⟩ :: states, s', upload',
        ?_, hpublished⟩
      rw [List.map_cons, serve, Blob.chunkRequest, respond_of_chunk hchunk, Option.bind_eq_bind,
        Option.bind_some, hserve]
      rfl

/-- The new upload, of which nothing is written. -/
theorem written_created (site : UploadSite) (file : Blob) :
    ∃ upload, (site.created file.bytes.length).Written upload file.bytes 0 ∧
      upload.target = site.target ∧ upload.uploadId = site.uploadId := by
  have hsize : (UInt64.ofNat file.bytes.length).toNat = file.bytes.length := by
    rw [UInt64.toNat_ofNat']
    exact Nat.mod_eq_of_lt (lt_trans file.size_lt (by decide))
  refine ⟨_, ⟨rfl, hsize, rfl, rfl, Ranges.within_empty _, fun i => ?_, rfl, ?_, Nat.zero_le _⟩,
    rfl, rfl⟩
  · exact iff_of_false Ranges.not_covers_empty (Nat.not_lt_zero i)
  · simp [UploadSite.created]

/-- The requests that carry the file are accepted and publish it. -/
theorem serve_chunkRequests (site : UploadSite) (file : Blob) :
    ∃ states s' upload', serve site 1 (site.created file.bytes.length) file.chunkRequests =
        some (states ++ [s']) ∧
      s'.Published upload' file.bytes ∧ upload'.target = site.target ∧
      upload'.uploadId = site.uploadId := by
  obtain ⟨upload, hwritten, htarget, hid⟩ := written_created site file
  rw [Blob.chunkRequests]
  split_ifs with hempty
  · obtain ⟨bytes, hlt⟩ := file
    obtain rfl : bytes = [] := List.length_eq_zero_iff.mp hempty
    obtain ⟨answer, hchunk⟩ := hwritten.empty (site.moment 1)
    rw [htarget, hid] at hchunk
    refine ⟨[], ⟨some (completed (touched upload (site.moment 1).nowMs)
        (site.moment 1).modifiedAtMs), (site.created 0).file⟩,
      completed (touched upload (site.moment 1).nowMs) (site.moment 1).modifiedAtMs, ?_,
      ⟨rfl, hwritten.size_eq, rfl, rfl, hwritten.file_eq⟩, htarget, hid⟩
    rw [serve, respond_of_chunk hchunk]
    rfl
  · have hranges := file.consecutive_chunkRanges (Nat.zero_le _)
      (Nat.sub_le file.bytes.length _)
    have hne : file.chunkRanges file.bytes.length 0 ≠ [] := by
      intro hnil
      rw [hnil] at hranges
      exact hempty hranges.symm
    exact serve_chunks site file hranges hne 1 hwritten htarget hid

/-! ### What is sent -/

theorem send_snd (later : ℕ → Await) (n : ℕ) (requests : List UploadRequest) :
    (send later n requests).2 = true ↔
      ∀ k, k < requests.length → (later (n + k)).succeeds = true := by
  induction requests generalizing n with
  | nil => exact iff_of_true rfl fun k hk => absurd hk (Nat.not_lt_zero k)
  | cons request requests ih =>
    rw [send]
    split_ifs with hsucceeds
    · dsimp only
      rw [ih]
      constructor
      · intro h k hk
        cases k with
        | zero => exact hsucceeds
        | succ k =>
          have hnext := h k (by simpa using hk)
          rwa [Nat.add_assoc, Nat.add_comm 1] at hnext
      · intro h k hk
        have hnext := h (k + 1) (by simpa using hk)
        rwa [Nat.add_assoc, Nat.add_comm 1]
    · exact iff_of_false (by simp) fun h => hsucceeds (h 0 (by simp))

theorem send_fst_of_snd {later : ℕ → Await} {n : ℕ} {requests : List UploadRequest}
    (h : (send later n requests).2 = true) : (send later n requests).1 = requests := by
  induction requests generalizing n with
  | nil => rfl
  | cons request requests ih =>
    rw [send] at h ⊢
    split_ifs at h ⊢
    exact congrArg (request :: ·) (ih h)

theorem mem_of_mem_send {later : ℕ → Await} {n : ℕ} {requests : List UploadRequest}
    {request : UploadRequest} (h : request ∈ (send later n requests).1) : request ∈ requests := by
  induction requests generalizing n with
  | nil => exact absurd h List.not_mem_nil
  | cons first requests ih =>
    rw [send] at h
    split_ifs at h with hsucceeds hissued
    · rcases List.mem_cons.mp h with rfl | h
      · exact List.mem_cons_self
      · exact List.mem_cons_of_mem _ (ih h)
    · exact List.mem_singleton.mp h ▸ List.mem_cons_self
    · exact absurd h List.not_mem_nil

theorem Blob.abort_notMem (file : Blob) : UploadRequest.abort ∉ file.uploadRequests := by
  rw [uploadRequests, laterRequests, chunkRequests]
  split_ifs <;> simp

/-! ### End to end -/

/-- **The upload of a file**: everything that is sent is accepted and the file arrives, or the
daemon is asked to abort the upload. -/
structure EndToEnd (file : Blob) (env : Environment) (site : UploadSite) : Prop where
  /-- The chunks partition the file, which is empty otherwise. -/
  partition : file.bytes.length ≠ 0 → ∃ ranges,
    file.chunkRequests = ranges.map file.chunkRequest ∧
    Consecutive v070FileChunkMaxBytes 0 ranges file.bytes.length
  header_accepted : ∀ header body, .chunk header body ∈ file.uploadRequests →
    body.length ≤ v070FileChunkMaxBytes ∧
    ∃ start, v070ContentRange (some header) body.length = .ok (start, file.bytes.length)
  /-- All requests are accepted, and the commit finds the file published and leaves it as it is. -/
  arrives : ∃ states s s' upload upload',
    serve site 1 (site.created file.bytes.length) file.laterRequests = some (states ++ [s, s']) ∧
      s.Published upload file.bytes ∧ s'.Published upload' file.bytes ∧
      ∃ nowMs, upload' = { upload with updatedAtMs := nowMs }
  /-- The requests are sent in this order, and all of them if none fails. -/
  sent : env.create.succeeds = true →
    (∀ k, k < file.laterRequests.length → (env.later k).succeeds = true) →
    uploadSessionFile file env = ⟨file.uploadRequests, true, false⟩
  aborts : (uploadSessionFile file env).rejected = true →
    (uploadSessionFile file env).created = true →
    .abort ∈ (uploadSessionFile file env).issued

/-- The daemon's answer to the first request does not get lost; and if a later request fails, an
access token is to be had for the abort and the signal of the caller has not fired. -/
def Environment.LetsAbort (env : Environment) (file : Blob) : Prop :=
  (env.create.accepted = true → env.create.succeeds = true) ∧
  (env.create.succeeds = true →
    (∃ k, k < file.laterRequests.length ∧ (env.later k).succeeds = false) →
    env.abort.sendable = true)

theorem Blob.partition (file : Blob) (h : file.bytes.length ≠ 0) : ∃ ranges,
    file.chunkRequests = ranges.map file.chunkRequest ∧
    Consecutive v070FileChunkMaxBytes 0 ranges file.bytes.length := by
  refine ⟨file.chunkRanges file.bytes.length 0, ?_,
    file.consecutive_chunkRanges (Nat.zero_le _) (Nat.sub_le _ _)⟩
  rw [chunkRequests, if_neg h]
  rfl

theorem Blob.header_accepted (file : Blob) {header : List Char} {body : Bytes}
    (h : .chunk header body ∈ file.uploadRequests) :
    body.length ≤ v070FileChunkMaxBytes ∧
      ∃ start, v070ContentRange (some header) body.length = .ok (start, file.bytes.length) := by
  have hchunk : .chunk header body ∈ file.chunkRequests := by
    simpa [uploadRequests, laterRequests] using h
  by_cases hempty : file.bytes.length = 0
  · rw [chunkRequests, if_pos hempty] at hchunk
    obtain ⟨rfl, rfl⟩ : header = emptyContentRange ∧ body = [] := by simpa using hchunk
    rw [hempty]
    exact ⟨Nat.zero_le _, 0, v070ContentRange_empty⟩
  · obtain ⟨ranges, hranges, hconsecutive⟩ := file.partition hempty
    rw [hranges] at hchunk
    obtain ⟨range, hmem, hrange⟩ := List.mem_map.mp hchunk
    obtain ⟨hlt, hlimit, hle⟩ := hconsecutive.le.2 range hmem
    obtain ⟨rfl, rfl⟩ : contentRange range.1 range.2 file.bytes.length = header ∧
        part file.bytes range.1 range.2 = body := by
      rw [chunkRequest] at hrange
      cases hrange
      exact ⟨rfl, rfl⟩
    rw [length_part hle]
    exact ⟨hlimit, range.1,
      v070ContentRange_contentRange hlt hle (lt_trans file.size_lt (by decide))⟩

theorem serve_laterRequests (site : UploadSite) (file : Blob) :
    ∃ states s s' upload upload',
      serve site 1 (site.created file.bytes.length) file.laterRequests =
        some (states ++ [s, s']) ∧
      s.Published upload file.bytes ∧ s'.Published upload' file.bytes ∧
      ∃ nowMs, upload' = { upload with updatedAtMs := nowMs } := by
  obtain ⟨states, s, upload, hserve, hpublished, htarget, hid⟩ := serve_chunkRequests site file
  have hmoment : 1 + file.chunkRequests.length = file.chunkRequests.length + 1 := Nat.add_comm ..
  obtain ⟨answer, hcommit⟩ := commit_published hpublished.upload_eq hpublished.complete
    (site.moment (1 + file.chunkRequests.length))
  rw [htarget, hid] at hcommit
  have hlast : serve site (1 + file.chunkRequests.length) s [.commit] =
      some [⟨some (if upload.sizeBytes = 0 then
        touched upload (site.moment (1 + file.chunkRequests.length)).nowMs else upload), s.file⟩] := by
    rw [serve, respond, hcommit]
    rfl
  have hserve' := serve_append site hserve hlast
  rw [List.append_assoc] at hserve'
  refine ⟨states, s, _, upload, _, hserve', hpublished, ⟨rfl, ?_, ?_, ?_, hpublished.file_eq⟩, ?_⟩
  all_goals split_ifs
  · exact hpublished.size_eq
  · exact hpublished.size_eq
  · exact hpublished.complete
  · exact hpublished.complete
  · exact hpublished.published
  · exact hpublished.published
  · exact ⟨_, rfl⟩
  · exact ⟨upload.updatedAtMs, rfl⟩

section Outcomes

variable {file : Blob} {env : Environment}

/-- The request that creates the upload, if it is sent. -/
def createSent (file : Blob) (env : Environment) : List UploadRequest :=
  if env.create.issued then [.create file.bytes.length] else []

theorem abort_notMem_createSent : UploadRequest.abort ∉ createSent file env := by
  rw [createSent]
  split_ifs <;> simp

theorem abort_notMem_send {n : ℕ} :
    UploadRequest.abort ∉ (send env.later n file.laterRequests).1 := fun h =>
  file.abort_notMem (List.mem_cons_of_mem _ (mem_of_mem_send h))

theorem uploadSessionFile_of_not_created (h : env.create.succeeds = false) :
    uploadSessionFile file env = ⟨createSent file env, env.create.accepted, true⟩ := by
  rw [uploadSessionFile, h]
  rfl

theorem uploadSessionFile_of_failed (h : env.create.succeeds = true)
    (hsend : (send env.later 0 file.laterRequests).2 = false) :
    uploadSessionFile file env = ⟨createSent file env ++
      (send env.later 0 file.laterRequests).1 ++ if env.abort.sendable then [.abort] else [],
        true, true⟩ := by
  have hpair : send env.later 0 file.laterRequests =
      ((send env.later 0 file.laterRequests).1, false) := Prod.ext rfl hsend
  rw [uploadSessionFile, if_pos h]
  generalize send env.later 0 file.laterRequests = sent at hpair
  rw [hpair]
  rfl

theorem uploadSessionFile_of_sent (h : env.create.succeeds = true)
    (hsend : (send env.later 0 file.laterRequests).2 = true) :
    uploadSessionFile file env = ⟨file.uploadRequests, true, false⟩ := by
  have hissued : env.create.issued = true := by
    rw [Await.succeeds, Bool.and_eq_true] at h
    exact h.1
  have hpair : send env.later 0 file.laterRequests = (file.laterRequests, true) :=
    Prod.ext (send_fst_of_snd hsend) hsend
  rw [uploadSessionFile, if_pos h, hpair, hissued]
  rfl

end Outcomes

/-- **The upload fits together** if and only if the abort is not kept from being sent. -/
theorem endToEnd_iff (file : Blob) (env : Environment) (site : UploadSite) :
    EndToEnd file env site ↔ env.LetsAbort file := by
  have hfails : (send env.later 0 file.laterRequests).2 = false ↔
      ∃ k, k < file.laterRequests.length ∧ (env.later k).succeeds = false := by
    rw [← Bool.not_eq_true, send_snd]
    simp
  constructor
  · intro h
    refine ⟨fun haccepted => ?_, fun hcreate hlater => ?_⟩
    · by_contra hcreate
      -- the upload exists, and the browser does not know it
      have haborts := h.aborts
      rw [uploadSessionFile_of_not_created (Bool.not_eq_true _ ▸ hcreate)] at haborts
      exact abort_notMem_createSent (haborts rfl haccepted)
    · have haborts := h.aborts
      rw [uploadSessionFile_of_failed hcreate (hfails.mpr hlater)] at haborts
      have hmem := haborts rfl rfl
      rw [List.mem_append, List.mem_append] at hmem
      rcases hmem with (hmem | hmem) | hmem
      · exact absurd hmem abort_notMem_createSent
      · exact absurd hmem abort_notMem_send
      · split_ifs at hmem with habort
        · exact habort
        · cases hmem
  · intro h
    refine ⟨file.partition, fun _ _ => file.header_accepted, serve_laterRequests site file,
      fun hcreate hlater => uploadSessionFile_of_sent hcreate ?_, fun hrejected hcreated => ?_⟩
    · rw [send_snd]
      simpa using hlater
    · cases hcreate : env.create.succeeds with
      | false =>
        rw [uploadSessionFile_of_not_created hcreate] at hcreated
        exact absurd (h.1 hcreated) (by simp [hcreate])
      | true =>
        cases hsend : (send env.later 0 file.laterRequests).2 with
        | false =>
          have habort := h.2 hcreate (hfails.mp hsend)
          rw [uploadSessionFile_of_failed hcreate hsend, habort]
          simp
        | true =>
          rw [uploadSessionFile_of_sent hcreate hsend] at hrejected
          cases hrejected

/-- The signal fires when the first chunk was sent and is not answered yet: its answer is not read. -/
theorem abort_not_sent : ¬∀ (file : Blob) (env : Environment) (site : UploadSite),
    EndToEnd file env site := by
  intro h
  have haborts := (h ⟨[65], by decide⟩
    { create := {}
      later := fun _ => { answer := .lost }
      abort := { fired := true } }
    ⟨1, ⟨"/srv", "notes"⟩, "u", ⟨1, 1, 1⟩, fun _ => ⟨0, none⟩⟩).aborts
  exact absurd (haborts (by decide) (by decide)) (by decide)

end Termd.Browser
