import Mathlib.Algebra.Ring.Nat
import Mathlib.Data.List.Basic

/-!
# Byte streams

A writer takes some of the bytes it is given, and how many it takes is its own affair; all bytes are
written by writing the rest until nothing is left. A reader has the bytes in the pieces in which they
came, and an exact number of bytes is read by reading on until there are enough.

## Main definitions

* `ByteSink`, `writeAll`: a writer, and a loop that writes everything
* `Absorbs`: a writer that takes at least one byte at a time and never fails
* `bounded limit`: a writer that counts, and refuses what would exceed the limit
* `readExact n pieces`: the first `n` bytes

## Main results

* `Absorbs.writeAll_eq`: everything is written
* `writeAll_bounded_eq`, `writeAll_bounded_refused`: within the limit, and beyond it
* `readExact_eq`, `readExact_eq_none`: the pieces make no difference
-/

namespace Termd

variable {E W : Type}

/-! ### Writing -/

/-- `io::Write`: a call says how many bytes it took, or fails. -/
structure ByteSink (E W : Type) where
  write : W → List UInt8 → W × Except E ℕ

/-- `Write::write_all`. A call that takes nothing is an error. -/
def writeAll (sink : ByteSink E W) (writeZero : E) (w : W) (bytes : List UInt8) :
    W × Except E Unit :=
  if bytes = [] then (w, .ok ())
  else
    match sink.write w bytes with
    | (w, .error e) => (w, .error e)
    | (w, .ok n) =>
      if n = 0 then (w, .error writeZero) else writeAll sink writeZero w (bytes.drop n)
termination_by bytes.length
decreasing_by
  have := List.length_pos_iff.mpr ‹bytes ≠ []›
  rw [List.length_drop]
  omega

/-- A writer that takes at least one byte at a time. `R w bytes w'` says what the bytes do to it. -/
structure Absorbs (sink : ByteSink E W) (R : W → List UInt8 → W → Prop) : Prop where
  refl : ∀ w, R w [] w
  trans : ∀ {w w' w'' bytes bytes'}, R w bytes w' → R w' bytes' w'' → R w (bytes ++ bytes') w''
  write : ∀ w bytes, bytes ≠ [] → ∃ w' n, sink.write w bytes = (w', .ok n) ∧ 0 < n ∧
    n ≤ bytes.length ∧ R w (bytes.take n) w'

/-- A writer with the number of the bytes it took. -/
structure Bounded (W : Type) where
  inner : W
  written : ℕ

/-- A writer that refuses what would exceed the limit. -/
def bounded (limit : ℕ) (tooLarge : E) (sink : ByteSink E W) : ByteSink E (Bounded W) where
  write b bytes :=
    if limit - b.written < bytes.length then (b, .error tooLarge)
    else
      match sink.write b.inner bytes with
      | (inner, .error e) => ({ b with inner }, .error e)
      | (inner, .ok n) => (⟨inner, b.written + n⟩, .ok n)

section Writing

variable {sink : ByteSink E W} {R : W → List UInt8 → W → Prop} {writeZero tooLarge : E}
  {limit written : ℕ} {w : W} {bytes : List UInt8}

@[simp] theorem writeAll_nil : writeAll sink writeZero w [] = (w, .ok ()) := by
  rw [writeAll, if_pos rfl]

theorem writeAll_error {w' : W} {e : E} (hbytes : bytes ≠ [])
    (h : sink.write w bytes = (w', .error e)) :
    writeAll sink writeZero w bytes = (w', .error e) := by
  rw [writeAll, if_neg hbytes, h]

theorem writeAll_ok {w' : W} {n : ℕ} (hbytes : bytes ≠ []) (h : sink.write w bytes = (w', .ok n))
    (hn : 0 < n) : writeAll sink writeZero w bytes = writeAll sink writeZero w' (bytes.drop n) := by
  rw [writeAll, if_neg hbytes, h]
  simp only [if_neg (Nat.pos_iff_ne_zero.mp hn)]

/-- **Everything is written.** -/
theorem Absorbs.writeAll_eq (h : Absorbs sink R) (writeZero : E) (w : W) (bytes : List UInt8) :
    ∃ w', writeAll sink writeZero w bytes = (w', .ok ()) ∧ R w bytes w' := by
  induction hlen : bytes.length using Nat.strong_induction_on generalizing w bytes with
  | _ len ih =>
    by_cases hbytes : bytes = []
    · subst hbytes
      exact ⟨w, writeAll_nil, h.refl w⟩
    · obtain ⟨w', n, hwrite, hpos, hle, htook⟩ := h.write w bytes hbytes
      obtain ⟨w'', hrest, hR⟩ := ih (bytes.drop n).length
        (by rw [List.length_drop]; omega) w' (bytes.drop n) rfl
      refine ⟨w'', (writeAll_ok hbytes hwrite hpos).trans hrest, ?_⟩
      have hboth := h.trans htook hR
      rwa [List.take_append_drop] at hboth

variable (writeZero tooLarge) in
/-- **Within the limit** everything is written, and counted. -/
theorem writeAll_bounded_eq (h : Absorbs sink R) (hfits : written + bytes.length ≤ limit) (w : W) :
    ∃ w', writeAll (bounded limit tooLarge sink) writeZero ⟨w, written⟩ bytes =
      (⟨w', written + bytes.length⟩, .ok ()) ∧ R w bytes w' := by
  induction hlen : bytes.length using Nat.strong_induction_on generalizing w written bytes with
  | _ len ih =>
    by_cases hbytes : bytes = []
    · subst hbytes hlen
      exact ⟨w, writeAll_nil, h.refl w⟩
    · obtain ⟨w', n, hwrite, hpos, hle, htook⟩ := h.write w bytes hbytes
      have hbounded : (bounded limit tooLarge sink).write ⟨w, written⟩ bytes =
          (⟨w', written + n⟩, .ok n) := by
        have hroom : ¬ limit - written < bytes.length := by omega
        simp only [bounded, if_neg hroom, hwrite]
      have hdrop : (bytes.drop n).length = bytes.length - n := List.length_drop ..
      obtain ⟨w'', hrest, hR⟩ := ih (bytes.drop n).length (by omega)
        (show written + n + (bytes.drop n).length ≤ limit by omega) w' rfl
      have hcount : written + n + (bytes.drop n).length = written + len := by omega
      rw [hcount] at hrest
      refine ⟨w'', (writeAll_ok hbytes hbounded hpos).trans hrest, ?_⟩
      have hboth := h.trans htook hR
      rwa [List.take_append_drop] at hboth

/-- **Beyond the limit** nothing is written. -/
theorem writeAll_bounded_refused (hlong : limit < written + bytes.length)
    (hwritten : written ≤ limit) :
    writeAll (bounded limit tooLarge sink) writeZero ⟨w, written⟩ bytes =
      (⟨w, written⟩, .error tooLarge) := by
  have hbytes : bytes ≠ [] := by
    rintro rfl
    exact absurd hwritten (Nat.not_le.mpr hlong)
  refine writeAll_error hbytes ?_
  simp only [bounded]
  rw [if_pos (by omega)]

end Writing

/-! ### Reading -/

/-- `Read::read_exact`: what is left of the first piece is read, until there are enough bytes. At the
end of the stream there are none. -/
def readExact : ℕ → List (List UInt8) → Option (List UInt8) × List (List UInt8)
  | n, [] => (if n = 0 then some [] else none, [])
  | n, piece :: pieces =>
    if n ≤ piece.length then (some (piece.take n), piece.drop n :: pieces)
    else
      let (bytes, pieces) := readExact (n - piece.length) pieces
      (bytes.map (piece ++ ·), pieces)

/-- **The first bytes**, in whatever pieces they came. -/
theorem readExact_eq {n : ℕ} (pieces : List (List UInt8)) (h : n ≤ pieces.flatten.length) :
    ∃ rest, readExact n pieces = (some (pieces.flatten.take n), rest) ∧
      rest.flatten = pieces.flatten.drop n := by
  induction pieces generalizing n with
  | nil =>
    obtain rfl := Nat.le_zero.mp h
    exact ⟨[], rfl, rfl⟩
  | cons piece pieces ih =>
    rw [List.flatten_cons] at h ⊢
    by_cases hpiece : n ≤ piece.length
    · refine ⟨piece.drop n :: pieces, ?_, ?_⟩
      · rw [readExact, if_pos hpiece, List.take_append_of_le_length hpiece]
      · rw [List.flatten_cons, List.drop_append_of_le_length hpiece]
    · rw [List.length_append] at h
      obtain ⟨rest, hread, hrest⟩ := ih (n := n - piece.length) (by omega)
      refine ⟨rest, ?_, ?_⟩
      · rw [readExact, if_neg hpiece, hread, List.take_append,
          List.take_of_length_le (by omega : piece.length ≤ n)]
        rfl
      · rw [hrest, List.drop_append, List.drop_of_length_le (by omega : piece.length ≤ n),
          List.nil_append]

theorem readExact_eq_none {n : ℕ} {pieces : List (List UInt8)} (h : pieces.flatten.length < n) :
    (readExact n pieces).1 = none := by
  induction pieces generalizing n with
  | nil =>
    rw [readExact]
    exact if_neg (Nat.pos_iff_ne_zero.mp h)
  | cons piece pieces ih =>
    rw [List.flatten_cons, List.length_append] at h
    have hrest := ih (n := n - piece.length) (by omega)
    rw [readExact, if_neg (by omega)]
    simp only
    rw [hrest, Option.map_none]

end Termd
