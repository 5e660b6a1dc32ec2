import Termd.Library.CharBoundary
import Termd.Git.Command

/-!
# The difference that git prints

What is sent of the output is limited in bytes of the text. `String::truncate` panics where no
character ends; the loop behind it, which is to go back to the end of a character, comes too late and
finds nothing to do.

## Main definitions

* `limitTextForPayload`, `readGitDiff`: the text that is sent, `none` for a panic
* `Limited`: the text itself, or its longest beginning that fits and the marker

## Main results

* `limitTextForPayload_eq_none_iff`: when the code panics
* `readGitDiff_limited_iff`: the text is limited as it should be if it fits or a character ends at the
  limit
-/

namespace Termd

namespace Git

variable {text front : List Char} {maxBytes : ℕ}

/-! ### The limit -/

/-- `String::truncate`, which panics at a place that is no boundary. -/
def truncate (text : List Char) (newLen : ℕ) : Option (List Char) :=
  if textLen text < newLen then some text
  else if isCharBoundary text newLen then some (takeBytes newLen text)
  else none

/-- The loop behind the cut. -/
def popToBoundary (text : List Char) : List Char :=
  if h : isCharBoundary text (textLen text) = true then text
  else
    have : text ≠ [] := by
      rintro rfl
      exact h rfl
    popToBoundary text.dropLast
termination_by text.length
decreasing_by
  have := List.length_pos_iff.mpr this
  rw [List.length_dropLast]
  omega

def TRUNCATION_MARKER : List Char := "\n[termd: output truncated]".toList

def limitTextForPayload (text : List Char) (maxBytes : ℕ) : Option (List Char) :=
  if textLen text ≤ maxBytes then some text
  else (truncate text maxBytes).map fun text => popToBoundary text ++ TRUNCATION_MARKER

inductive ReadGitDiffError
  | runtimeFailed

def DIFF_MAX_BYTES : ℕ := 256 * 1024

def readGitDiffArgs (filePath : Option String) (staged : Bool) : List String :=
  ["diff", "--no-ext-diff"] ++ (if staged then ["--cached"] else []) ++ ["--"] ++ filePath.toList

/-- `none` is a panic. -/
def readGitDiff (run : List String → Option GitCommandResult) (filePath : Option String)
    (staged : Bool) : Option (Except ReadGitDiffError (List Char)) :=
  match run (readGitDiffArgs filePath staged) with
  | none => some (.error .runtimeFailed)
  | some output =>
    if !output.success then some (.error .runtimeFailed)
    else (limitTextForPayload output.stdout DIFF_MAX_BYTES).map .ok

/-! ### What is sent -/

/-- The text if it fits, else its longest beginning that fits and the marker. -/
structure Limited (text : List Char) (maxBytes : ℕ) (result : List Char) : Prop where
  fits : textLen text ≤ maxBytes → result = text
  cut : maxBytes < textLen text → ∃ front, result = front ++ TRUNCATION_MARKER ∧ front <+: text ∧
    textLen front ≤ maxBytes ∧ ∀ longer, longer <+: text → textLen longer ≤ maxBytes →
      longer <+: front

/-- At the end of a text there is always a boundary, so the loop does nothing. -/
@[simp] theorem popToBoundary_eq (text : List Char) : popToBoundary text = text := by
  have hend : isCharBoundary text (textLen text) = true :=
    isCharBoundary_iff.mpr ⟨text, List.prefix_rfl, rfl⟩
  rw [popToBoundary, dif_pos hend]

/-- **The panic**: the text is too long and no character ends at the limit. -/
theorem limitTextForPayload_eq_none_iff :
    limitTextForPayload text maxBytes = none ↔
      maxBytes < textLen text ∧ isCharBoundary text maxBytes = false := by
  rw [limitTextForPayload]
  by_cases hfits : textLen text ≤ maxBytes
  · simp only [if_pos hfits, reduceCtorEq, false_iff, not_and]
    exact fun hlong => absurd hfits (Nat.not_le.mpr hlong)
  · have hlong : ¬ textLen text < maxBytes := by omega
    rw [if_neg hfits, truncate, if_neg hlong]
    by_cases hboundary : isCharBoundary text maxBytes = true
    · simp [hboundary]
    · simp [hboundary, Nat.not_le.mp hfits]

theorem limited_of_fits (h : textLen text ≤ maxBytes) :
    limitTextForPayload text maxBytes = some text ∧ Limited text maxBytes text := by
  refine ⟨if_pos h, fun _ => rfl, fun hlong => ?_⟩
  exact absurd h (Nat.not_le.mpr hlong)

theorem limited_of_boundary (h : maxBytes < textLen text)
    (hboundary : isCharBoundary text maxBytes = true) :
    limitTextForPayload text maxBytes = some (takeBytes maxBytes text ++ TRUNCATION_MARKER) ∧
      Limited text maxBytes (takeBytes maxBytes text ++ TRUNCATION_MARKER) := by
  constructor
  · rw [limitTextForPayload, if_neg (Nat.not_le.mpr h), truncate, if_neg (by omega),
      if_pos hboundary, Option.map_some, popToBoundary_eq]
  · refine ⟨fun hfits => absurd hfits (Nat.not_le.mpr h), fun _ => ?_⟩
    exact ⟨_, rfl, takeBytes_prefix .., textLen_takeBytes_le .., fun _ => takeBytes_maximal⟩

/-- **The limit is right** if the text fits or a character ends there. -/
theorem limited_iff (text : List Char) (maxBytes : ℕ) :
    (∃ result, limitTextForPayload text maxBytes = some result ∧ Limited text maxBytes result) ↔
      textLen text ≤ maxBytes ∨ isCharBoundary text maxBytes = true := by
  constructor
  · rintro ⟨result, hresult, -⟩
    by_contra hpanic
    rw [not_or, Bool.not_eq_true, Nat.not_le] at hpanic
    rw [limitTextForPayload_eq_none_iff.mpr hpanic] at hresult
    cases hresult
  · intro h
    by_cases hfits : textLen text ≤ maxBytes
    · exact ⟨text, limited_of_fits hfits⟩
    · exact ⟨_, limited_of_boundary (Nat.not_le.mp hfits) (h.resolve_left hfits)⟩

/-- **The limit of any text, and that of a difference**: right if and only if the text fits or a
character ends at the limit. -/
theorem readGitDiff_limited_iff (text : List Char) (maxBytes : ℕ) (stdout stderr : List (List UInt8))
    (filePath : Option String) (staged : Bool) :
    ((∃ result, limitTextForPayload text maxBytes = some result ∧ Limited text maxBytes result) ↔
      textLen text ≤ maxBytes ∨ isCharBoundary text maxBytes = true) ∧
    ((∃ result, readGitDiff (fun _ => some (runGitCommand true stdout stderr)) filePath staged =
        some (.ok result) ∧ Limited (runGitCommand true stdout stderr).stdout DIFF_MAX_BYTES result) ↔
      textLen (runGitCommand true stdout stderr).stdout ≤ DIFF_MAX_BYTES ∨
        isCharBoundary (runGitCommand true stdout stderr).stdout DIFF_MAX_BYTES = true) := by
  refine ⟨limited_iff text maxBytes, ?_⟩
  rw [← limited_iff]
  have hread : readGitDiff (fun _ => some (runGitCommand true stdout stderr)) filePath staged =
      (limitTextForPayload (runGitCommand true stdout stderr).stdout DIFF_MAX_BYTES).map .ok := rfl
  simp [hread]

/-! ### A character across the limit -/

theorem lossyText_encodeText (text : List Char) : lossyText (encodeText text) = text := by
  rw [lossyText, fromUtf8Lossy_encodeText, List.map_map]
  exact List.map_id _

/-- A long line of one byte characters, and one of two bytes that begins just before the limit. -/
def acrossTheLimit : List Char := List.replicate (DIFF_MAX_BYTES - 1) 'a' ++ ['é']

theorem encodeText_replicate (n : ℕ) :
    encodeText (List.replicate n 'a') = List.replicate n 0x61 := by
  induction n with
  | zero => rfl
  | succ n ih =>
    rw [List.replicate_succ, List.replicate_succ, encodeText_cons, ih]
    rfl

theorem encodeText_acrossTheLimit :
    encodeText acrossTheLimit = List.replicate (DIFF_MAX_BYTES - 1) 0x61 ++ [0xc3, 0xa9] := by
  rw [acrossTheLimit, encodeText_append, encodeText_replicate]
  rfl

theorem textLen_acrossTheLimit : textLen acrossTheLimit = DIFF_MAX_BYTES + 1 := by
  rw [textLen, encodeText_acrossTheLimit, List.length_append, List.length_replicate]
  rfl

theorem not_isCharBoundary_acrossTheLimit :
    isCharBoundary acrossTheLimit DIFF_MAX_BYTES = false := by
  have hbyte : (encodeText acrossTheLimit)[DIFF_MAX_BYTES]? = some 0xa9 := by
    rw [encodeText_acrossTheLimit, List.getElem?_append_right (by simp), List.length_replicate]
    rfl
  rw [isCharBoundary, if_neg (by decide), hbyte]
  decide

/-- The daemon panics on this output of git. -/
theorem readGitDiff_panics : ¬ ∀ stdout : List (List UInt8),
    stdout.flatten.length ≤ GIT_COMMAND_STDOUT_MAX_BYTES →
      readGitDiff (fun _ => some (runGitCommand true stdout [])) none false ≠ none := by
  intro h
  have hlen : (encodeText acrossTheLimit).length ≤ GIT_COMMAND_STDOUT_MAX_BYTES := by
    have hlen : (encodeText acrossTheLimit).length = DIFF_MAX_BYTES + 1 := textLen_acrossTheLimit
    rw [hlen]
    decide
  have hstdout : (runGitCommand true [encodeText acrossTheLimit] []).stdout = acrossTheLimit := by
    simp only [runGitCommand, ofSlices_singleton hlen]
    exact lossyText_encodeText acrossTheLimit
  have hpanic : limitTextForPayload acrossTheLimit DIFF_MAX_BYTES = none :=
    limitTextForPayload_eq_none_iff.mpr
      ⟨by rw [textLen_acrossTheLimit]; exact Nat.lt_succ_self _, not_isCharBoundary_acrossTheLimit⟩
  refine h [encodeText acrossTheLimit] (by simpa using hlen) ?_
  simp only [readGitDiff, hstdout, hpanic]
  rfl

end Git

end Termd
