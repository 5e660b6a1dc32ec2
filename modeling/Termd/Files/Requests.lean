import Termd.Files.Upload

/-!
# A request to an upload

A request reserves a range of the file, writes its chunks one after the other, and ends with a
commit or without. While it is in flight others write to the same file. What it may rely on is its
reservation: there is room for the chunks that are left, and what it wrote is still there.

## Main definitions

* `Request`: a request in flight
* `Request.Sound`: a request keeps to its reservation

## Main results

* `writeChunk_cases`: what one round of the loop over the chunks does
* `Request.Sound.frame`: what others write does not concern a request
* `Request.Sound.writeChunk`: a round keeps a request sound
-/

namespace Termd.Files

/-! ### The file -/

theorem length_overwrite {file bytes : Bytes} {offset : ℕ}
    (h : offset + bytes.length ≤ file.length) :
    (overwrite file offset bytes).length = file.length := by
  simp only [overwrite, List.length_append, List.length_take, List.length_drop]
  omega

theorem getElem?_overwrite {file bytes : Bytes} {offset : ℕ}
    (h : offset + bytes.length ≤ file.length) (i : ℕ) :
    (overwrite file offset bytes)[i]? =
      if offset ≤ i ∧ i < offset + bytes.length then bytes[i - offset]? else file[i]? := by
  have hlen : (file.take offset).length = offset := by
    rw [List.length_take]
    omega
  rw [overwrite, List.append_assoc, List.getElem?_append, hlen]
  split_ifs with hbefore hinside hinside
  · omega
  · rw [List.getElem?_take_of_lt hbefore]
  · rw [List.getElem?_append_left (by omega)]
  · rw [List.getElem?_append_right (by omega), List.getElem?_drop]
    congr 1
    omega

/-- The byte `byte` was written at the offset `i`. -/
def Wrote (segments : List (ℕ × Bytes)) (i : ℕ) (byte : UInt8) : Prop :=
  ∃ segment ∈ segments, segment.1 ≤ i ∧ segment.2[i - segment.1]? = some byte

/-! ### A request -/

inductive Phase
  | writing (chunks : List Bytes)
  | written (result : SessionFileHttpUploadFileWriteResult)
  | failed

/-- A request between its start and its end. -/
structure Request where
  payload : SessionFileHttpUploadStreamPayload
  plan : SessionFileHttpUploadWritePlan
  progress : WriteProgress
  phase : Phase

def Request.start (payload : SessionFileHttpUploadStreamPayload)
    (plan : SessionFileHttpUploadWritePlan) (chunks : List Bytes) : Request where
  payload := payload
  plan := plan
  progress := ⟨plan.offsetBytes, [], false⟩
  phase := .writing chunks

namespace Request

/-- The offset `i` is in the reservation of the request. -/
def Holds (request : Request) (i : ℕ) : Prop :=
  ∃ start stop, request.plan.reservedRange = some (start, stop) ∧ start ≤ i ∧ i < stop

/-- **A request keeps to its reservation**: it wrote only there, and there is room in it for the
chunks that are left. A request without a reservation has nothing to write, as its chunks are in
ranges that were written before. -/
structure Sound (request : Request) (file : Bytes) : Prop where
  size : request.plan.sizeBytes = file.length
  size_lt : file.length < 2 ^ 64
  within : request.plan.writtenRanges.Within file.length
  reserved : ∀ start stop, request.plan.reservedRange = some (start, stop) →
    start < stop ∧ stop ≤ file.length
  room : ∀ chunks, request.phase = .writing chunks → ∀ i, request.progress.currentOffset ≤ i →
    i < request.progress.currentOffset + (chunks.map List.length).sum →
    request.Holds i ∨ request.plan.reservedRange = none ∧ request.plan.writtenRanges.Covers i
  wrote : ∀ segment ∈ request.progress.wrote, segment.2 ≠ [] ∧
    segment.1 + segment.2.length ≤ request.progress.currentOffset ∧
    ∀ j, j < segment.2.length →
      request.Holds (segment.1 + j) ∧ file[segment.1 + j]? = segment.2[j]?
  ordered : request.progress.wrote.Pairwise fun segment other =>
    segment.1 + segment.2.length ≤ other.1
  result : ∀ result, request.phase = .written result →
    result.reservedRange = request.plan.reservedRange ∧
      result.writtenRanges = request.progress.writtenRanges

variable {request : Request} {file file' : Bytes}

/-- What others write does not concern a request. -/
theorem Sound.frame (h : request.Sound file) (hlen : file'.length = file.length)
    (hsame : ∀ i, request.Holds i → file'[i]? = file[i]?) : request.Sound file' where
  size := h.size.trans hlen.symm
  size_lt := hlen ▸ h.size_lt
  within := hlen ▸ h.within
  reserved := hlen ▸ h.reserved
  room := h.room
  wrote := by
    intro segment hsegment
    obtain ⟨hne, hle, hbytes⟩ := h.wrote segment hsegment
    refine ⟨hne, hle, fun j hj => ?_⟩
    obtain ⟨hholds, heq⟩ := hbytes j hj
    exact ⟨hholds, (hsame _ hholds).trans heq⟩
  ordered := h.ordered
  result := h.result

theorem Sound.finish (h : request.Sound file) {identityFault : Option ProtocolError}
    {modifiedAtMs : Option ℕ} {result : SessionFileHttpUploadFileWriteResult}
    (hfinish : finishWrite request.plan request.progress identityFault modifiedAtMs file =
      .ok result) : { request with phase := .written result }.Sound file := by
  rw [finishWrite.eq_def] at hfinish
  split at hfinish
  · cases hfinish
  split at hfinish
  · cases hfinish
  split at hfinish
  · cases hfinish
  cases hfinish
  refine { h with room := ?_, result := ?_ }
  · intro _ hphase
    cases hphase
  · rintro _ ⟨⟩
    exact ⟨rfl, rfl⟩

theorem Sound.fail (h : request.Sound file) : { request with phase := .failed }.Sound file :=
  { h with
    room := fun _ hphase => by cases hphase
    result := fun _ hphase => by cases hphase }

end Request

/-- **What a round does**: it leaves the file as it is, or it writes at most its chunk, in a range
that was not written before. -/
theorem writeChunk_cases {plan : SessionFileHttpUploadWritePlan} {progress : WriteProgress}
    {chunk : Bytes} {fault : Option (ℕ × ProtocolError)} {file file' : Bytes}
    {result : Except ProtocolError WriteProgress}
    (h : writeChunk plan progress chunk fault file = (file', result)) :
    (file' = file ∧ ((∃ error, result = .error error) ∨
      result = .ok { progress with
        currentOffset := progress.currentOffset + chunk.length, sawChunk := true })) ∨
    (chunk ≠ [] ∧ progress.currentOffset + chunk.length ≤ plan.sizeBytes ∧
      rangeOverlaps plan.writtenRanges progress.currentOffset
        (progress.currentOffset + chunk.length) = false ∧
      ((∃ error written, file' = overwrite file progress.currentOffset (chunk.take written) ∧
          result = .error error) ∨
        file' = overwrite file progress.currentOffset chunk ∧
        result = .ok {
          currentOffset := progress.currentOffset + chunk.length
          wrote := progress.wrote ++ [(progress.currentOffset, chunk)]
          sawChunk := true })) := by
  rw [writeChunk] at h
  split at h
  · cases h
    exact .inl ⟨rfl, .inl ⟨_, rfl⟩⟩
  rename_i next hadd
  obtain ⟨-, rfl⟩ := checkedAdd_eq_some.mp hadd
  split at h
  · cases h
    exact .inl ⟨rfl, .inl ⟨_, rfl⟩⟩
  rename_i hchunk
  obtain ⟨hne, hsize⟩ := not_or.mp hchunk
  split at h
  · split at h
    · cases h
      exact .inl ⟨rfl, .inl ⟨_, rfl⟩⟩
    split at h
    · cases h
      exact .inl ⟨rfl, .inl ⟨_, rfl⟩⟩
    · cases h
      exact .inl ⟨rfl, .inr rfl⟩
  split at h
  · cases h
    exact .inl ⟨rfl, .inl ⟨_, rfl⟩⟩
  rename_i hoverlaps
  refine .inr ⟨hne, not_lt.mp hsize, by simpa using hoverlaps, ?_⟩
  split at h
  · rename_i written error
    cases h
    exact .inl ⟨error, written, rfl, rfl⟩
  · cases h
    exact .inr ⟨rfl, rfl⟩

namespace Request

variable {request : Request} {file file' : Bytes} {chunk : Bytes} {chunks : List Bytes}

/-- A chunk that is written lies in the reservation. -/
theorem Sound.holds_chunk (h : request.Sound file)
    (hphase : request.phase = .writing (chunk :: chunks))
    (hoverlaps : rangeOverlaps request.plan.writtenRanges request.progress.currentOffset
      (request.progress.currentOffset + chunk.length) = false) {i : ℕ}
    (hi : request.progress.currentOffset ≤ i)
    (hi' : i < request.progress.currentOffset + chunk.length) : request.Holds i := by
  have hroom := h.room _ hphase i hi (by
    rw [List.map_cons, List.sum_cons]
    omega)
  refine hroom.resolve_right fun hcovered => ?_
  exact not_covers_of_rangeOverlaps h.within h.size_lt hoverlaps hi hi' hcovered.2

/-- What a request wrote before stays when it writes on. -/
theorem Sound.overwrite_wrote (h : request.Sound file) {bytes : Bytes}
    (hfits : request.progress.currentOffset + bytes.length ≤ file.length) :
    ∀ segment ∈ request.progress.wrote, segment.2 ≠ [] ∧
      segment.1 + segment.2.length ≤ request.progress.currentOffset ∧
      ∀ j, j < segment.2.length → request.Holds (segment.1 + j) ∧
        (overwrite file request.progress.currentOffset bytes)[segment.1 + j]? = segment.2[j]? := by
  intro segment hsegment
  obtain ⟨hne, hle, hbytes⟩ := h.wrote segment hsegment
  refine ⟨hne, hle, fun j hj => ⟨(hbytes j hj).1, ?_⟩⟩
  rw [getElem?_overwrite hfits, if_neg (by omega)]
  exact (hbytes j hj).2

/-- **A round of a request**: the request stays sound, and bytes outside of its reservation are not
changed. -/
theorem Sound.writeChunk (h : request.Sound file)
    (hphase : request.phase = .writing (chunk :: chunks)) {fault : Option (ℕ × ProtocolError)}
    {result : Except ProtocolError WriteProgress}
    (hwrite : Files.writeChunk request.plan request.progress chunk fault file = (file', result)) :
    file'.length = file.length ∧ (∀ i, ¬request.Holds i → file'[i]? = file[i]?) ∧
      match result with
      | .error _ => { request with phase := .failed }.Sound file'
      | .ok progress =>
        { request with progress := progress, phase := .writing chunks }.Sound file' := by
  -- there is room for the chunks that follow
  have hroom : ∀ i, request.progress.currentOffset + chunk.length ≤ i →
      i < request.progress.currentOffset + chunk.length + (chunks.map List.length).sum →
      request.Holds i ∨ request.plan.reservedRange = none ∧
        request.plan.writtenRanges.Covers i := by
    intro i hi hi'
    refine h.room _ hphase i (by omega) ?_
    rw [List.map_cons, List.sum_cons]
    omega
  -- a part of the chunk is written inside of the reservation
  have hinside : ∀ bytes : Bytes, bytes.length ≤ chunk.length →
      request.progress.currentOffset + chunk.length ≤ request.plan.sizeBytes →
      rangeOverlaps request.plan.writtenRanges request.progress.currentOffset
        (request.progress.currentOffset + chunk.length) = false →
      request.progress.currentOffset + bytes.length ≤ file.length ∧ ∀ i, ¬request.Holds i →
        (overwrite file request.progress.currentOffset bytes)[i]? = file[i]? := by
    intro bytes hle hsize hoverlaps
    have hfits : request.progress.currentOffset + bytes.length ≤ file.length := by
      have := h.size
      omega
    refine ⟨hfits, fun i hi => ?_⟩
    rw [getElem?_overwrite hfits, if_neg]
    rintro ⟨hstart, hlt⟩
    exact hi (h.holds_chunk hphase hoverlaps hstart (by omega))
  rcases writeChunk_cases hwrite with ⟨rfl, ⟨error, rfl⟩ | rfl⟩ |
    ⟨hne, hsize, hoverlaps, ⟨error, written, rfl, rfl⟩ | ⟨rfl, rfl⟩⟩
  · exact ⟨rfl, fun _ _ => rfl, h.fail⟩
  · -- the chunk was compared
    refine ⟨rfl, fun _ _ => rfl, { h with room := ?_, wrote := ?_, result := ?_ }⟩
    · rintro _ ⟨⟩
      exact hroom
    · intro segment hsegment
      obtain ⟨hne, hle, hbytes⟩ := h.wrote segment hsegment
      exact ⟨hne, hle.trans (Nat.le_add_right ..), hbytes⟩
    · intro _ hresult
      cases hresult
  · -- a part of the chunk was written
    obtain ⟨hfits, houtside⟩ :=
      hinside (chunk.take written) (List.length_take_le' ..) hsize hoverlaps
    have hlen := length_overwrite hfits
    refine ⟨hlen, houtside, ?_⟩
    exact ⟨h.size.trans hlen.symm, hlen ▸ h.size_lt, hlen ▸ h.within, hlen ▸ h.reserved,
      fun _ hwriting => (by cases hwriting), h.overwrite_wrote hfits, h.ordered,
      fun _ hwritten => (by cases hwritten)⟩
  · -- the chunk was written
    obtain ⟨hfits, houtside⟩ := hinside chunk le_rfl hsize hoverlaps
    have hlen := length_overwrite hfits
    refine ⟨hlen, houtside, ?_⟩
    refine ⟨h.size.trans hlen.symm, hlen ▸ h.size_lt, hlen ▸ h.within, hlen ▸ h.reserved, ?_, ?_,
      ?_, fun _ hwritten => (by cases hwritten)⟩
    · rintro _ ⟨⟩
      exact hroom
    · intro segment hsegment
      rcases List.mem_append.mp hsegment with hsegment | hsegment
      · obtain ⟨hne, hle, hbytes⟩ := h.overwrite_wrote hfits segment hsegment
        exact ⟨hne, hle.trans (Nat.le_add_right ..), hbytes⟩
      · obtain rfl := List.mem_singleton.mp hsegment
        refine ⟨hne, le_rfl, fun j hj => ⟨?_, ?_⟩⟩
        · exact h.holds_chunk hphase hoverlaps (by simp) (by simpa using hj)
        · rw [getElem?_overwrite hfits, if_pos ⟨by simp, by simpa using hj⟩]
          simp
    · refine List.pairwise_append.mpr ⟨h.ordered, List.pairwise_singleton .., ?_⟩
      intro segment hsegment other hother
      obtain rfl := List.mem_singleton.mp hother
      exact (h.wrote segment hsegment).2.1

end Request

end Termd.Files
