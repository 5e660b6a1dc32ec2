import Termd.Files.Upload

/-!
# Ranges as sets of offsets

Each query of the ranges looks at the range before and the one behind an offset. If no range is
empty and no two overlap, this is enough to know about every offset: the ranges are a set of
offsets, and the queries are about that set.

A range may end behind the size of the upload. Nothing that is recorded does, and the test for
complete coverage relies on it.

## Main definitions

* `coveredLoop`: the loop of `rangeIsFullyCovered` with a bound on its rounds
* `SetTheoretic`: what the queries say about the set of offsets

## Main results

* `setTheoretic_of_within`: the queries are about the set
* `contiguousEnd_eq_ok_iff`: ranges that follow each other are one range
-/

namespace Termd.Files

open Ranges SessionFileHttpUploadState

variable {ranges : Ranges} {size start stop : ℕ}

/-! ### Coverage of a range -/

/-- The range that covers an offset is the last one that begins there or before. -/
theorem floor_eq_some_of_covers (h : ranges.Within size) {cursor : ℕ}
    (hcovers : ranges.Covers cursor) :
    ∃ range, ranges.floor cursor = some range ∧ range ∈ ranges ∧ range.1 ≤ cursor ∧
      cursor < range.1 + range.2 := by
  obtain ⟨range, hmem, hle, hlt⟩ := hcovers
  cases hfloor : ranges.floor cursor with
  | none => exact absurd (OrderedMap.floor_eq_none hfloor hmem) (by omega)
  | some last =>
    obtain ⟨hlast, hcursor, hmax⟩ := OrderedMap.floor_eq_some hfloor
    have heq : last = range := by
      rcases Nat.lt_or_eq_of_le (hmax range hmem hle) with hbefore | heq
      · have := h.disjoint range hmem last hlast hbefore
        omega
      · exact OrderedMap.eq_of_mem hlast hmem heq.symm
    exact ⟨last, rfl, hlast, hcursor, heq ▸ hlt⟩

theorem coveredFrom_of_covers (h : ranges.Within size) (hsize : size < 2 ^ 64)
    {rounds cursor : ℕ} (hrounds : stop - cursor ≤ rounds)
    (hcovers : ∀ i, cursor ≤ i → i < stop → ranges.Covers i) :
    coveredFrom ranges stop rounds cursor = true := by
  induction rounds generalizing cursor with
  | zero =>
    rw [coveredFrom, decide_eq_false (by omega)]
    rfl
  | succ rounds ih =>
    rw [coveredFrom]
    split_ifs with hcursor
    · obtain ⟨range, hfloor, hmem, hle, hlt⟩ :=
        floor_eq_some_of_covers h (hcovers cursor le_rfl hcursor)
      have hend := h.le range hmem
      rw [hfloor]
      simp only [checkedAdd_of_lt (show range.1 + range.2 < 2 ^ 64 by omega)]
      rw [if_neg (by omega)]
      exact ih (by omega) fun i hi => hcovers i (by omega)
    · rfl

/-- **A range is fully covered** if every offset in it is. -/
theorem rangeIsFullyCovered_iff (h : ranges.Within size) (hsize : size < 2 ^ 64) :
    rangeIsFullyCovered ranges start stop = true ↔
      ∀ i, start ≤ i → i < stop → ranges.Covers i := by
  refine ⟨fun hcovered i => covers_of_rangeIsFullyCovered hcovered, fun hcovers => ?_⟩
  rw [rangeIsFullyCovered]
  split_ifs
  · rfl
  · exact coveredFrom_of_covers h hsize le_rfl hcovers

theorem rangeIsFullyCovered_eq_false (hlt : start < stop) (hfree : ¬ranges.Covers start) :
    rangeIsFullyCovered ranges start stop = false := by
  rw [← Bool.not_eq_true]
  exact fun h => hfree (covers_of_rangeIsFullyCovered h le_rfl hlt)

/-- The loop of `rangeIsFullyCovered`, which has no answer when the rounds do not suffice. -/
def coveredLoop (ranges : Ranges) (stop rounds cursor : ℕ) : Option Bool :=
  if cursor < stop then
    match rounds with
    | 0 => none
    | rounds + 1 =>
      match ranges.floor cursor with
      | none => some false
      | some (rangeStart, len) =>
        match checkedAdd rangeStart len with
        | none => some false
        | some rangeEnd =>
          if rangeStart > cursor ∨ rangeEnd ≤ cursor then some false
          else coveredLoop ranges stop rounds rangeEnd
  else some true

/-- **The loop ends**: each round moves the cursor. -/
theorem coveredLoop_eq (ranges : Ranges) {stop rounds cursor : ℕ}
    (hrounds : stop - cursor ≤ rounds) :
    coveredLoop ranges stop rounds cursor = some (coveredFrom ranges stop rounds cursor) := by
  induction rounds generalizing cursor with
  | zero =>
    rw [coveredLoop, coveredFrom, if_neg (by omega), decide_eq_false (by omega)]
    rfl
  | succ rounds ih =>
    rw [coveredLoop, coveredFrom]
    split_ifs with hcursor
    · cases ranges.floor cursor with
      | none => rfl
      | some range =>
        obtain ⟨rangeStart, len⟩ := range
        dsimp only
        cases checkedAdd rangeStart len with
        | none => rfl
        | some rangeEnd =>
          dsimp only
          split_ifs with hend
          · rfl
          · exact ih (by omega)
    · rfl

theorem coveredFrom_of_le (ranges : Ranges) {stop cursor : ℕ} (rounds : ℕ)
    (h : stop ≤ cursor) : coveredFrom ranges stop rounds cursor = true := by
  cases rounds with
  | zero => rw [coveredFrom, decide_eq_false (by omega), Bool.not_false]
  | succ rounds => rw [coveredFrom, if_neg (by omega)]

/-- More rounds change nothing. -/
theorem coveredFrom_rounds (ranges : Ranges) {stop rounds rounds' cursor : ℕ}
    (hrounds : stop - cursor ≤ rounds) (hrounds' : stop - cursor ≤ rounds') :
    coveredFrom ranges stop rounds cursor = coveredFrom ranges stop rounds' cursor := by
  induction rounds generalizing rounds' cursor with
  | zero => rw [coveredFrom_of_le ranges 0 (by omega), coveredFrom_of_le ranges _ (by omega)]
  | succ rounds ih =>
    by_cases hcursor : cursor < stop
    · obtain ⟨rounds', rfl⟩ := Nat.exists_eq_succ_of_ne_zero (show rounds' ≠ 0 by omega)
      rw [coveredFrom, coveredFrom, if_pos hcursor, if_pos hcursor]
      cases ranges.floor cursor with
      | none => rfl
      | some range =>
        obtain ⟨rangeStart, len⟩ := range
        dsimp only
        cases checkedAdd rangeStart len with
        | none => rfl
        | some rangeEnd =>
          dsimp only
          split_ifs with hend
          · rfl
          · exact ih (by omega) (by omega)
    · rw [coveredFrom_of_le ranges _ (by omega), coveredFrom_of_le ranges _ (by omega)]

/-- **The loop ends** with the answer, however many rounds it is given. -/
theorem coveredLoop_eq_rangeIsFullyCovered (ranges : Ranges) {rounds : ℕ}
    (hrounds : stop - start ≤ rounds) :
    coveredLoop ranges stop rounds start = some (rangeIsFullyCovered ranges start stop) := by
  rw [coveredLoop_eq ranges hrounds, rangeIsFullyCovered,
    coveredFrom_rounds ranges hrounds (le_refl (stop - start))]
  split_ifs with heq
  · rw [heq, Nat.sub_self, coveredFrom, decide_eq_false (lt_irrefl _)]
    rfl
  · rfl

/-! ### Overlaps -/

/-- A range that covers nothing of what is covered overlaps nothing. -/
theorem rangeOverlaps_eq_false (hwithin : ranges.Within size) (hlt : start < stop)
    (hfree : ∀ i, start ≤ i → i < stop → ¬ranges.Covers i) :
    rangeOverlaps ranges start stop = false := by
  rw [rangeOverlaps]
  split_ifs with heq hfloor
  · rfl
  · obtain ⟨last, hlast, hafter⟩ := (Option.any_eq_true ..).mp hfloor
    obtain ⟨range, hrange, hadd⟩ := Option.bind_eq_some_iff.mp hlast
    obtain ⟨hmem, hle, -⟩ := OrderedMap.floor_eq_some hrange
    obtain ⟨-, rfl⟩ := checkedAdd_eq_some.mp hadd
    exact absurd ⟨range, hmem, hle, of_decide_eq_true hafter⟩ (hfree start le_rfl hlt)
  · rw [← Bool.not_eq_true]
    intro hnext
    obtain ⟨range, hrange, hlt⟩ := (Option.any_eq_true ..).mp hnext
    obtain ⟨hmem, hle, -⟩ := OrderedMap.ceiling_eq_some hrange
    have hpos := hwithin.pos range hmem
    exact hfree range.1 hle (of_decide_eq_true hlt) ⟨range, hmem, le_rfl, by omega⟩

/-- **A range overlaps** if some offset in it is covered. -/
theorem rangeOverlaps_iff (h : ranges.Within size) (hsize : size < 2 ^ 64) (hle : start ≤ stop) :
    rangeOverlaps ranges start stop = true ↔ ∃ i, start ≤ i ∧ i < stop ∧ ranges.Covers i := by
  rcases Nat.eq_or_lt_of_le hle with rfl | hlt
  · rw [rangeOverlaps, if_pos rfl]
    refine iff_of_false Bool.false_ne_true ?_
    rintro ⟨i, hi, hlt, -⟩
    omega
  · constructor
    · intro hoverlaps
      by_contra hnone
      rw [rangeOverlaps_eq_false h hlt fun i hi hlt hcovers => hnone ⟨i, hi, hlt, hcovers⟩]
        at hoverlaps
      cases hoverlaps
    · rintro ⟨i, hi, hlt, hcovers⟩
      by_contra hnone
      exact not_covers_of_rangeOverlaps h hsize (Bool.not_eq_true _ ▸ hnone) hi hlt hcovers

/-! ### Complete coverage -/

/-- The loop of `hasCompleteCoverage` ends at the end of the last range if each begins where the one
before ends. -/
theorem contiguousEnd_of_covers {entries : List (ℕ × ℕ)} {offset : ℕ} (hsize : size < 2 ^ 64)
    (hpair : entries.Pairwise fun range other => range.1 + range.2 ≤ other.1)
    (hin : ∀ range ∈ entries, offset ≤ range.1 ∧ 0 < range.2 ∧ range.1 + range.2 ≤ size)
    (hoffset : offset ≤ size) (hcovers : ∀ i, offset ≤ i → i < size →
      ∃ range ∈ entries, range.1 ≤ i ∧ i < range.1 + range.2) :
    contiguousEnd entries offset = .ok (some size) := by
  induction entries generalizing offset with
  | nil =>
    obtain rfl : offset = size := by
      by_contra hne
      obtain ⟨range, hmem, -⟩ := hcovers offset le_rfl (by omega)
      cases hmem
    rfl
  | cons range entries ih =>
    obtain ⟨hfirst, hpair⟩ := List.pairwise_cons.mp hpair
    obtain ⟨hstart, hpos, hend⟩ := hin range List.mem_cons_self
    have hrange : range.1 = offset := by
      obtain ⟨other, hmem, hle, hlt⟩ := hcovers offset le_rfl (by omega)
      rcases List.mem_cons.mp hmem with rfl | hmem
      · omega
      · have := hfirst other hmem
        omega
    rw [contiguousEnd, if_neg (by omega), checkedAdd_of_lt (by omega)]
    refine ih hpair (fun other hmem => ?_) (by omega) fun i hi hlt => ?_
    · have := hfirst other hmem
      have := hin other (List.mem_cons_of_mem _ hmem)
      omega
    · obtain ⟨other, hmem, hle, hother⟩ := hcovers i (by omega) hlt
      rcases List.mem_cons.mp hmem with rfl | hmem
      · omega
      · exact ⟨other, hmem, hle, hother⟩

/-- Ranges that follow each other end by where the last one ends. -/
theorem le_of_contiguousEnd {entries : List (ℕ × ℕ)} {offset : ℕ}
    (h : contiguousEnd entries offset = .ok (some stop)) :
    offset ≤ stop ∧ ∀ range ∈ entries, range.1 + range.2 ≤ stop := by
  induction entries generalizing offset with
  | nil =>
    cases h
    exact ⟨le_rfl, fun range hmem => absurd hmem List.not_mem_nil⟩
  | cons range entries ih =>
    rw [contiguousEnd] at h
    split_ifs at h with hstart
    · cases h
    · cases hadd : checkedAdd offset range.2 with
      | none =>
        rw [hadd] at h
        cases h
      | some next =>
        obtain ⟨-, rfl⟩ := checkedAdd_eq_some.mp hadd
        rw [hadd] at h
        obtain ⟨hle, hrest⟩ := ih h
        exact ⟨by omega, List.forall_mem_cons.mpr ⟨by omega, hrest⟩⟩

theorem exists_contiguousEnd {entries : List (ℕ × ℕ)} (offset : ℕ)
    (hin : ∀ range ∈ entries, range.1 + range.2 < 2 ^ 64) :
    ∃ last, contiguousEnd entries offset = .ok last := by
  induction entries generalizing offset with
  | nil => exact ⟨some offset, rfl⟩
  | cons range entries ih =>
    rw [contiguousEnd]
    split_ifs with hstart
    · exact ⟨none, rfl⟩
    · have := hin range List.mem_cons_self
      rw [checkedAdd_of_lt (by omega)]
      exact ih _ fun other hmem => hin other (List.mem_cons_of_mem _ hmem)

variable {upload : SessionFileHttpUploadState}

/-- **An upload is complete** if its size is zero or the ranges cover exactly its offsets. -/
theorem hasCompleteCoverage_iff (h : upload.writtenRanges.Within size) (hsize : size < 2 ^ 64) :
    upload.hasCompleteCoverage = .ok true ↔
      upload.sizeBytes = 0 ∨ ∀ i, upload.writtenRanges.Covers i ↔ i < upload.sizeBytes := by
  rw [hasCompleteCoverage]
  split_ifs with hzero
  · exact iff_of_true rfl (.inl hzero)
  · obtain ⟨last, hlast⟩ := exists_contiguousEnd 0 fun range hmem =>
      lt_of_le_of_lt (h.le range hmem) hsize
    rw [hlast, or_iff_right hzero]
    constructor
    · intro hcomplete
      cases last with
      | none => cases hcomplete
      | some last =>
        obtain rfl : last = upload.sizeBytes := by simpa using hcomplete
        refine fun i => ⟨?_, fun hi => ?_⟩
        · rintro ⟨range, hmem, -, hlt⟩
          exact lt_of_lt_of_le hlt ((le_of_contiguousEnd hlast).2 range hmem)
        · exact covers_of_contiguousEnd hlast (Nat.zero_le i) hi
    · intro hcovers
      have hpair : upload.writtenRanges.entries.Pairwise
          fun range other => range.1 + range.2 ≤ other.1 :=
        upload.writtenRanges.sorted.imp_of_mem fun hmem hother hlt =>
          h.disjoint _ hmem _ hother hlt
      have hend : ∀ range ∈ upload.writtenRanges.entries,
          range.1 + range.2 ≤ upload.sizeBytes := by
        intro range hmem
        have hpos := h.pos range hmem
        have hlt := (hcovers (range.1 + range.2 - 1)).mp ⟨range, hmem, by omega, by omega⟩
        omega
      rw [contiguousEnd_of_covers upload.size_lt hpair (fun range hmem =>
        ⟨Nat.zero_le _, h.pos range hmem, hend range hmem⟩) (Nat.zero_le _)
        fun i _ hi => (hcovers i).mpr hi] at hlast
      cases hlast
      simp

/-! ### Recording a range -/

/-- A range that overlaps nothing is added. -/
theorem recordWrittenRange_of_not_overlaps (h : upload.writtenRanges.Within size)
    (hsize : size < 2 ^ 64) (hlt : start < stop) (hstop : stop ≤ upload.sizeBytes)
    (hoverlaps : rangeOverlaps upload.writtenRanges start stop = false) :
    upload.recordWrittenRange start stop =
      .ok { upload with writtenRanges := upload.writtenRanges.insert start (stop - start) } := by
  rw [rangeOverlaps, if_neg hlt.ne] at hoverlaps
  split_ifs at hoverlaps with hfloor
  rw [recordWrittenRange]
  simp only [hoverlaps, Bool.false_eq_true, if_false]
  rw [if_neg hlt.ne, if_neg (by omega)]
  cases hlast : upload.writtenRanges.floor start with
  | none => rfl
  | some last =>
    have hend := h.le last (OrderedMap.floor_eq_some hlast).1
    rw [hlast, Option.bind_some, checkedAdd_of_lt (by omega)] at hfloor
    simp only [checkedAdd_of_lt (show last.1 + last.2 < 2 ^ 64 by omega)]
    rw [if_neg (by simpa using hfloor)]

/-- A range that overlaps is refused, but for one that was recorded. -/
theorem recordWrittenRange_of_overlaps (h : upload.writtenRanges.Within size)
    (hsize : size < 2 ^ 64) (hlt : start < stop) (hstop : stop ≤ upload.sizeBytes)
    (hoverlaps : rangeOverlaps upload.writtenRanges start stop = true) :
    (start, stop - start) ∈ upload.writtenRanges ∧
        upload.recordWrittenRange start stop = .ok upload ∨
      (start, stop - start) ∉ upload.writtenRanges ∧
        upload.recordWrittenRange start stop = .error .invalidEnvelope := by
  rw [rangeOverlaps, if_neg hlt.ne] at hoverlaps
  rw [recordWrittenRange, if_neg hlt.ne, if_neg (by omega)]
  cases hlast : upload.writtenRanges.floor start with
  | none =>
    refine .inr ⟨fun hmem => ?_, ?_⟩
    · exact absurd (OrderedMap.floor_eq_none hlast hmem) (lt_irrefl _)
    · rw [hlast, Option.bind_none] at hoverlaps
      simp only [Option.any_none, Bool.false_eq_true, if_false] at hoverlaps
      simp [hoverlaps]
  | some last =>
    obtain ⟨hmem, hle, hmax⟩ := OrderedMap.floor_eq_some hlast
    have hend := h.le last hmem
    have hpos := h.pos last hmem
    have hsame (hrange : (start, stop - start) ∈ upload.writtenRanges) :
        last = (start, stop - start) :=
      OrderedMap.eq_of_mem hmem hrange (le_antisymm hle (hmax _ hrange le_rfl))
    rw [hlast, Option.bind_some, checkedAdd_of_lt (by omega)] at hoverlaps
    simp only [checkedAdd_of_lt (show last.1 + last.2 < 2 ^ 64 by omega)]
    by_cases hafter : last.1 + last.2 > start
    · rw [if_pos hafter]
      split_ifs with heq
      · refine .inl ⟨?_, rfl⟩
        obtain ⟨previousStart, previousLen⟩ := last
        obtain ⟨rfl, rfl⟩ := heq
        rwa [Nat.add_sub_cancel_left]
      · refine .inr ⟨fun hrange => heq ?_, rfl⟩
        rw [hsame hrange]
        exact ⟨rfl, by dsimp only; omega⟩
    · refine .inr ⟨fun hrange => ?_, ?_⟩
      · rw [hsame hrange] at hafter
        dsimp only at hafter
        omega
      · rw [if_neg (by simpa using hafter)] at hoverlaps
        rw [if_neg hafter, hoverlaps]
        rfl

/-- **What is recorded** is added to the set. -/
theorem covers_recordWrittenRange (h : upload.writtenRanges.Within size) (hsize : size < 2 ^ 64)
    (hle : start ≤ stop) (hstop : stop ≤ upload.sizeBytes) {upload' : SessionFileHttpUploadState}
    (hrecord : upload.recordWrittenRange start stop = .ok upload') (i : ℕ) :
    upload'.writtenRanges.Covers i ↔
      upload.writtenRanges.Covers i ∨ start ≤ i ∧ i < stop := by
  rcases Nat.eq_or_lt_of_le hle with rfl | hlt
  · rw [recordWrittenRange] at hrecord
    simp only [if_true] at hrecord
    cases hrecord
    rw [or_iff_left (by omega)]
  · cases hoverlaps : rangeOverlaps upload.writtenRanges start stop with
    | false =>
      have hfree (i : ℕ) (hi : start ≤ i) (hi' : i < start + (stop - start)) :
          ¬upload.writtenRanges.Covers i :=
        not_covers_of_rangeOverlaps h hsize hoverlaps hi (by omega)
      rw [recordWrittenRange_of_not_overlaps h hsize hlt hstop hoverlaps] at hrecord
      cases hrecord
      rw [covers_insert_iff h (by omega) hfree, show start + (stop - start) = stop by omega]
    | true =>
      obtain ⟨hmem, hok⟩ | ⟨-, herror⟩ :=
        recordWrittenRange_of_overlaps h hsize hlt hstop hoverlaps
      · rw [hok] at hrecord
        cases hrecord
        rw [iff_self_or]
        exact fun hi => ⟨_, hmem, hi.1, by dsimp only; omega⟩
      · rw [herror] at hrecord
        cases hrecord

/-- **A range is recorded** if it is empty, was recorded before, or is free. -/
theorem recordWrittenRange_iff (h : upload.writtenRanges.Within size) (hsize : size < 2 ^ 64)
    (hle : start ≤ stop) (hstop : stop ≤ upload.sizeBytes) :
    (∃ upload', upload.recordWrittenRange start stop = .ok upload') ↔
      start = stop ∨ (start, stop - start) ∈ upload.writtenRanges ∨
        ∀ i, start ≤ i → i < stop → ¬upload.writtenRanges.Covers i := by
  rcases Nat.eq_or_lt_of_le hle with heq | hlt
  · refine iff_of_true ⟨upload, ?_⟩ (.inl heq)
    rw [recordWrittenRange]
    exact if_pos heq
  · rw [or_iff_right hlt.ne]
    cases hoverlaps : rangeOverlaps upload.writtenRanges start stop with
    | false =>
      exact iff_of_true ⟨_, recordWrittenRange_of_not_overlaps h hsize hlt hstop hoverlaps⟩
        (.inr fun i hi hi' => not_covers_of_rangeOverlaps h hsize hoverlaps hi hi')
    | true =>
      obtain ⟨hmem, hok⟩ | ⟨hmem, herror⟩ :=
        recordWrittenRange_of_overlaps h hsize hlt hstop hoverlaps
      · exact iff_of_true ⟨_, hok⟩ (.inl hmem)
      · obtain ⟨i, hi, hi', hcovers⟩ := (rangeOverlaps_iff h hsize hle).mp hoverlaps
        refine iff_of_false ?_ (not_or.mpr ⟨hmem, fun hfree => ?_⟩)
        · rintro ⟨upload', hok⟩
          rw [herror] at hok
          cases hok
        · exact hfree i hi hi' hcovers

/-! ### The queries together -/

/-- What the queries of an upload say about the offsets that its ranges cover. -/
structure SetTheoretic (upload : SessionFileHttpUploadState) (start stop : ℕ) : Prop where
  covered_iff : rangeIsFullyCovered upload.writtenRanges start stop = true ↔
    ∀ i, start ≤ i → i < stop → upload.writtenRanges.Covers i
  overlaps_iff : rangeOverlaps upload.writtenRanges start stop = true ↔
    ∃ i, start ≤ i ∧ i < stop ∧ upload.writtenRanges.Covers i
  loop_ends : ∀ rounds, stop - start ≤ rounds →
    coveredLoop upload.writtenRanges stop rounds start =
      some (rangeIsFullyCovered upload.writtenRanges start stop)
  complete_iff : upload.hasCompleteCoverage = .ok true ↔
    upload.sizeBytes = 0 ∨ ∀ i, upload.writtenRanges.Covers i ↔ i < upload.sizeBytes
  /-- When nothing is recorded behind the size. -/
  complete_iff_of_le : (∀ i, upload.writtenRanges.Covers i → i < upload.sizeBytes) →
    (upload.hasCompleteCoverage = .ok true ↔
      ∀ i, i < upload.sizeBytes → upload.writtenRanges.Covers i)
  record_iff : stop ≤ upload.sizeBytes →
    ((∃ upload', upload.recordWrittenRange start stop = .ok upload') ↔
      start = stop ∨ (start, stop - start) ∈ upload.writtenRanges ∨
        ∀ i, start ≤ i → i < stop → ¬upload.writtenRanges.Covers i)
  record_covers : stop ≤ upload.sizeBytes → ∀ upload',
    upload.recordWrittenRange start stop = .ok upload' → ∀ i,
      upload'.writtenRanges.Covers i ↔ upload.writtenRanges.Covers i ∨ start ≤ i ∧ i < stop

/-- **The queries are about the set of offsets**, for all ranges that are not empty, do not overlap
and end by the largest offset. -/
theorem setTheoretic_of_within (h : upload.writtenRanges.Within (2 ^ 64 - 1))
    (hle : start ≤ stop) : SetTheoretic upload start stop where
  covered_iff := rangeIsFullyCovered_iff h (by omega)
  overlaps_iff := rangeOverlaps_iff h (by omega) hle
  loop_ends _ hrounds := coveredLoop_eq_rangeIsFullyCovered _ hrounds
  complete_iff := hasCompleteCoverage_iff h (by omega)
  complete_iff_of_le hsize := by
    rw [hasCompleteCoverage_iff h (by omega)]
    constructor
    · rintro (hzero | hcovers) i hi
      · omega
      · exact (hcovers i).mpr hi
    · exact fun hcovers => .inr fun i => ⟨hsize i, hcovers i⟩
  record_iff hstop := recordWrittenRange_iff h (by omega) hle hstop
  record_covers hstop _ hrecord := covers_recordWrittenRange h (by omega) hle hstop hrecord

/-- Two ranges that touch, and a third one behind a gap. -/
def withGap : SessionFileHttpUploadState :=
  { SessionFileHttpUploadState.create 1 ⟨"/srv", "notes"⟩ "u" 9 ⟨1, 1, 1⟩ 0 with
    writtenRanges := (((∅ : Ranges).insert 0 2).insert 2 3).insert 7 2 }

theorem within_withGap : withGap.writtenRanges.Within (2 ^ 64 - 1) where
  pos := by
    change ∀ range ∈ [(0, 2), (2, 3), (7, 2)], 0 < range.2
    decide
  le := by
    change ∀ range ∈ [(0, 2), (2, 3), (7, 2)], range.1 + range.2 ≤ 2 ^ 64 - 1
    decide
  disjoint := by
    change ∀ range ∈ [(0, 2), (2, 3), (7, 2)], ∀ other ∈ [(0, 2), (2, 3), (7, 2)],
      range.1 < other.1 → range.1 + range.2 ≤ other.1
    decide

/-- A query that goes over where two ranges touch, one of the gap, and one of all. -/
theorem setTheoretic_withGap :
    rangeIsFullyCovered withGap.writtenRanges 1 5 = true ∧
      (∀ i, 1 ≤ i → i < 5 → withGap.writtenRanges.Covers i) ∧
      rangeOverlaps withGap.writtenRanges 5 7 = false ∧
      (∀ i, 5 ≤ i → i < 7 → ¬withGap.writtenRanges.Covers i) ∧
      (∃ upload', withGap.recordWrittenRange 5 7 = .ok upload' ∧
        ∀ i, upload'.writtenRanges.Covers i ↔ withGap.writtenRanges.Covers i ∨ 5 ≤ i ∧ i < 7) ∧
      withGap.hasCompleteCoverage = .ok false ∧
      ¬∀ i, withGap.writtenRanges.Covers i ↔ i < withGap.sizeBytes := by
  have htouch := setTheoretic_of_within within_withGap (by decide : 1 ≤ 5)
  have hbetween := setTheoretic_of_within within_withGap (by decide : 5 ≤ 7)
  have hcovered : rangeIsFullyCovered withGap.writtenRanges 1 5 = true := by decide
  have hfree : rangeOverlaps withGap.writtenRanges 5 7 = false := by decide
  have hgap : withGap.hasCompleteCoverage = .ok false := by decide
  have hnone : ∀ i, 5 ≤ i → i < 7 → ¬withGap.writtenRanges.Covers i := fun i hi hi' hcovers =>
    Bool.false_ne_true (hfree.symm.trans (hbetween.overlaps_iff.mpr ⟨i, hi, hi', hcovers⟩))
  have hsize : 7 ≤ withGap.sizeBytes := by decide
  obtain ⟨upload', hrecord⟩ := (hbetween.record_iff hsize).mpr (.inr (.inr hnone))
  refine ⟨hcovered, htouch.covered_iff.mp hcovered, hfree, hnone,
    ⟨upload', hrecord, hbetween.record_covers hsize upload' hrecord⟩, hgap, fun hall => ?_⟩
  have hcomplete := hbetween.complete_iff.mpr (.inr hall)
  rw [hgap] at hcomplete
  cases hcomplete

/-- An upload of one byte with a range of two. -/
def behindSize : SessionFileHttpUploadState :=
  { SessionFileHttpUploadState.create 1 ⟨"/srv", "notes"⟩ "u" 1 ⟨1, 1, 1⟩ 0 with
    writtenRanges := (∅ : Ranges).insert 0 2 }

theorem within_behindSize : behindSize.writtenRanges.Within (2 ^ 64 - 1) :=
  (within_empty _).insert (by decide) (by decide) fun _ _ _ => not_covers_empty

/-- A range that ends behind the size covers what is before it, and the upload is not complete. -/
theorem not_complete_behindSize :
    ¬∀ upload : SessionFileHttpUploadState, upload.writtenRanges.Within (2 ^ 64 - 1) →
      (upload.hasCompleteCoverage = .ok true ↔
        ∀ i, i < upload.sizeBytes → upload.writtenRanges.Covers i) := by
  intro h
  have hcomplete := (h behindSize within_behindSize).mpr fun i hi =>
    ⟨(0, 2), OrderedMap.mem_insert.mpr (.inl rfl), Nat.zero_le i, lt_trans hi (by decide)⟩
  exact absurd hcomplete (by decide)

end Termd.Files
