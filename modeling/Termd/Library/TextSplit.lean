import Mathlib.Algebra.Ring.Nat
import Mathlib.Data.List.DropRight
import Mathlib.Data.List.Infix

/-!
# Cutting texts

A text is cut at the first or at the last separator, or at every line end, or has a separator taken
off its ends. What a cut returns determines the text, and a text that was put together is cut where it
was.

## Main definitions

* `stripPrefix`, `splitOnce`, `rsplitOnce`, `trimMatches`
* `splitLines`: the lines between line ends of two characters
* `splitWith`: the pieces between the separators that a scanner with a state reports
* `parseUnsigned bound`: an unsigned number up to `bound`

## Main results

* `stripPrefix_eq_some`, `splitOnce_eq_some`, `rsplitOnce_eq_some`: what a cut has returned
* `splitLines_append`: the lines of a text that begins with one
* `splitWith_append`: the pieces of a text that begins with one
* `parseUnsigned_toDigits`: a numeral is read back
-/

namespace Termd

variable {α : Type} [DecidableEq α] {sep a : α} {text front rest x y : List α}

/-- `str::strip_prefix` -/
def stripPrefix (front text : List α) : Option (List α) :=
  if front.isPrefixOf text then some (text.drop front.length) else none

/-- `str::split_once` -/
def splitOnce (sep : α) : List α → Option (List α × List α)
  | [] => none
  | a :: text =>
    if a = sep then some ([], text)
    else (splitOnce sep text).map fun (front, rest) => (a :: front, rest)

/-- `str::rsplit_once` -/
def rsplitOnce (sep : α) (text : List α) : Option (List α × List α) :=
  (splitOnce sep text.reverse).map fun (rest, front) => (front.reverse, rest.reverse)

/-- `str::trim_matches` -/
def trimMatches (sep : α) (text : List α) : List α :=
  (text.dropWhile (· = sep)).rdropWhile (· = sep)

theorem stripPrefix_eq_some : stripPrefix front text = some rest ↔ text = front ++ rest := by
  rw [stripPrefix]
  split_ifs with hfront
  · obtain ⟨back, rfl⟩ := List.isPrefixOf_iff_prefix.mp hfront
    rw [List.drop_left, Option.some.injEq, List.append_cancel_left_eq]
  · refine iff_of_false not_false ?_
    rintro rfl
    exact hfront (List.isPrefixOf_iff_prefix.mpr (List.prefix_append front rest))

theorem stripPrefix_append : stripPrefix front (front ++ rest) = some rest :=
  stripPrefix_eq_some.mpr rfl

theorem stripPrefix_singleton (a : α) (rest : List α) : stripPrefix [a] (a :: rest) = some rest :=
  stripPrefix_append

theorem stripPrefix_singleton_eq_none (h : text.head? ≠ some a) : stripPrefix [a] text = none := by
  cases hstrip : stripPrefix [a] text with
  | none => rfl
  | some rest =>
    obtain rfl := stripPrefix_eq_some.mp hstrip
    exact absurd rfl h

theorem splitOnce_eq_none : splitOnce sep text = none ↔ sep ∉ text := by
  induction text with
  | nil => simp [splitOnce]
  | cons a text ih =>
    rw [splitOnce]
    split_ifs with ha
    · simp [ha]
    · rw [Option.map_eq_none_iff, ih, List.mem_cons, not_or]
      exact ⟨fun h => ⟨Ne.symm ha, h⟩, fun h => h.2⟩

/-- **A cut at the first separator.** -/
theorem splitOnce_eq_some :
    splitOnce sep text = some (x, y) ↔ text = x ++ sep :: y ∧ sep ∉ x := by
  induction text generalizing x with
  | nil => simp [splitOnce]
  | cons a text ih =>
    rw [splitOnce]
    split_ifs with ha
    · subst ha
      constructor
      · intro h
        obtain ⟨rfl, rfl⟩ := Prod.mk.inj (Option.some.inj h)
        exact ⟨rfl, List.not_mem_nil⟩
      · rintro ⟨heq, hnot⟩
        cases x with
        | nil => rw [(List.cons.inj heq).2]
        | cons b x => exact absurd (List.mem_cons.mpr (.inl (List.cons.inj heq).1)) hnot
    · rw [Option.map_eq_some_iff]
      constructor
      · rintro ⟨⟨front, rest⟩, hsplit, heq⟩
        obtain ⟨rfl, rfl⟩ := Prod.mk.inj heq
        obtain ⟨rfl, hnot⟩ := ih.mp hsplit
        refine ⟨rfl, ?_⟩
        rw [List.mem_cons, not_or]
        exact ⟨Ne.symm ha, hnot⟩
      · rintro ⟨heq, hnot⟩
        cases x with
        | nil => exact absurd (List.cons.inj heq).1 ha
        | cons b x =>
          obtain ⟨rfl, rfl⟩ := List.cons.inj heq
          exact ⟨(x, y), ih.mpr ⟨rfl, fun h => hnot (List.mem_cons_of_mem _ h)⟩, rfl⟩

theorem splitOnce_append (h : sep ∉ x) : splitOnce sep (x ++ sep :: y) = some (x, y) :=
  splitOnce_eq_some.mpr ⟨rfl, h⟩

theorem rsplitOnce_eq_none : rsplitOnce sep text = none ↔ sep ∉ text := by
  rw [rsplitOnce, Option.map_eq_none_iff, splitOnce_eq_none, List.mem_reverse]

/-- **A cut at the last separator.** -/
theorem rsplitOnce_eq_some :
    rsplitOnce sep text = some (x, y) ↔ text = x ++ sep :: y ∧ sep ∉ y := by
  rw [rsplitOnce, Option.map_eq_some_iff]
  constructor
  · rintro ⟨⟨rest, front⟩, hsplit, heq⟩
    obtain ⟨rfl, rfl⟩ := Prod.mk.inj heq
    obtain ⟨htext, hnot⟩ := splitOnce_eq_some.mp hsplit
    refine ⟨?_, by rwa [List.mem_reverse]⟩
    rw [← List.reverse_reverse text, htext]
    simp
  · rintro ⟨rfl, hnot⟩
    refine ⟨(y.reverse, x.reverse), splitOnce_eq_some.mpr ⟨?_, ?_⟩, ?_⟩
    · simp
    · rwa [List.mem_reverse]
    · exact Prod.ext (List.reverse_reverse x) (List.reverse_reverse y)

theorem rsplitOnce_append (h : sep ∉ y) : rsplitOnce sep (x ++ sep :: y) = some (x, y) :=
  rsplitOnce_eq_some.mpr ⟨rfl, h⟩

/-- What was trimmed does not begin or end with the separator. -/
theorem trimMatches_ends (text : List α) : (trimMatches sep text).head? ≠ some sep ∧
    (trimMatches sep text).getLast? ≠ some sep := by
  rw [trimMatches]
  constructor
  · intro hhead
    have hprefix := List.rdropWhile_prefix (· = sep) (text.dropWhile (· = sep))
    obtain ⟨back, hback⟩ := hprefix
    cases hfront : (text.dropWhile (· = sep)).rdropWhile (· = sep) with
    | nil => rw [hfront] at hhead; simp at hhead
    | cons b front =>
      rw [hfront] at hhead hback
      obtain rfl := Option.some.inj hhead
      have hdropped := List.head?_dropWhile_not (fun c => decide (c = b)) text
      rw [← hback] at hdropped
      simp at hdropped
  · intro hlast
    have hne : (text.dropWhile (· = sep)).rdropWhile (· = sep) ≠ [] := by
      intro hnil
      rw [hnil] at hlast
      simp at hlast
    rw [List.getLast?_eq_some_getLast hne] at hlast
    have hnot := List.rdropWhile_last_not (· = sep) (text.dropWhile (· = sep)) hne
    exact hnot (decide_eq_true (Option.some.inj hlast))

theorem mem_of_mem_trimMatches (h : a ∈ trimMatches sep text) : a ∈ text :=
  (List.dropWhile_suffix _).subset ((List.rdropWhile_prefix _ _).subset h)

/-- A text that does not begin or end with the separator is left alone. -/
theorem trimMatches_eq_self (hhead : text.head? ≠ some sep) (hlast : text.getLast? ≠ some sep) :
    trimMatches sep text = text := by
  have hfront : text.dropWhile (· = sep) = text := by
    cases text with
    | nil => rfl
    | cons a text =>
      have ha : a ≠ sep := fun h => hhead (congrArg some h)
      rw [List.dropWhile_cons_of_neg (by simpa using ha)]
  rw [trimMatches, hfront, List.rdropWhile_eq_self_iff]
  intro hne htrue
  rw [List.getLast?_eq_some_getLast hne] at hlast
  exact hlast (congrArg some (of_decide_eq_true htrue))

/-! ### Lines -/

/-- A character in front of the first line. -/
def consFirst (a : α) : List (List α) → List (List α)
  | [] => [[a]]
  | line :: lines => (a :: line) :: lines

/-- The lines between line ends, which are `cr` and `lf`. -/
def splitLines (cr lf : α) : List α → List (List α)
  | [] => [[]]
  | [a] => [[a]]
  | a :: b :: text =>
    if a = cr ∧ b = lf then [] :: splitLines cr lf text
    else consFirst a (splitLines cr lf (b :: text))

variable {cr lf : α}

/-- **The lines of a text that begins with one.** -/
theorem splitLines_append (hne : cr ≠ lf) (h : ¬[cr, lf] <:+: x) :
    splitLines cr lf (x ++ cr :: lf :: y) = x :: splitLines cr lf y := by
  induction x with
  | nil => rw [List.nil_append, splitLines, if_pos ⟨rfl, rfl⟩]
  | cons a x ih =>
    have hx : ¬[cr, lf] <:+: x := fun hinside => h (List.infix_cons hinside)
    cases x with
    | nil =>
      rw [List.cons_append, List.nil_append, splitLines, if_neg fun hend => hne hend.2, splitLines,
        if_pos ⟨rfl, rfl⟩]
      rfl
    | cons b x =>
      have hend : ¬(a = cr ∧ b = lf) := by
        rintro ⟨rfl, rfl⟩
        exact h (List.prefix_append [a, b] x).isInfix
      rw [List.cons_append, List.cons_append, splitLines, if_neg hend, ← List.cons_append, ih hx]
      rfl

omit [DecidableEq α] in
/-- A line end is not looked for where its second character is not found. -/
theorem pair_infix_append_iff {rest : List α} (h : lf ∉ rest) :
    [cr, lf] <:+: x ++ rest ↔ [cr, lf] <:+: x := by
  refine ⟨fun hinside => ?_, List.infix_append_of_infix_left⟩
  induction x with
  | nil =>
    have hmem : lf ∈ rest := hinside.subset (List.mem_cons_of_mem _ List.mem_cons_self)
    exact absurd hmem h
  | cons a x ih =>
    rw [List.cons_append] at hinside
    rcases List.infix_cons_iff.mp hinside with hprefix | hinside
    · obtain ⟨rfl, hsecond⟩ := List.cons_prefix_cons.mp hprefix
      cases x with
      | nil => exact absurd (hsecond.subset List.mem_cons_self) h
      | cons b x =>
        obtain ⟨rfl, -⟩ := List.cons_prefix_cons.mp hsecond
        exact (List.prefix_append [cr, lf] x).isInfix
    · exact List.infix_cons (ih hinside)

omit [DecidableEq α] in
/-- A line end is not looked for where its first character is not found. -/
theorem infix_pair_append_iff (h : cr ∉ front) :
    [cr, lf] <:+: front ++ text ↔ [cr, lf] <:+: text := by
  induction front with
  | nil => rfl
  | cons a front ih =>
    rw [List.mem_cons, not_or] at h
    rw [List.cons_append, List.infix_cons_iff, List.cons_prefix_cons, ih h.2]
    exact or_iff_right fun hhead => h.1 hhead.1

theorem splitLines_cons (cr lf a : α) (text : List α) : ∃ line lines,
    splitLines cr lf (a :: text) = line :: lines ∧ (line = [] ∨ line.head? = some a) := by
  cases text with
  | nil => exact ⟨[a], [], rfl, .inr rfl⟩
  | cons b text =>
    rw [splitLines]
    split_ifs
    · exact ⟨[], _, rfl, .inl rfl⟩
    · cases splitLines cr lf (b :: text) with
      | nil => exact ⟨[a], [], rfl, .inr rfl⟩
      | cons line lines => exact ⟨a :: line, lines, rfl, .inr rfl⟩

/-- **There is no line end in a line.** -/
theorem not_infix_of_mem_splitLines {line : List α} (h : line ∈ splitLines cr lf text) :
    ¬[cr, lf] <:+: line := by
  induction text using splitLines.induct cr lf generalizing line with
  | case1 =>
    obtain rfl := List.mem_singleton.mp h
    simp
  | case2 a =>
    obtain rfl := List.mem_singleton.mp h
    intro hinside
    have hlength := hinside.length_le
    simp at hlength
  | case3 a b text hend ih =>
    rw [splitLines, if_pos hend, List.mem_cons] at h
    rcases h with rfl | h
    · simp
    · exact ih h
  | case4 a b text hend ih =>
    obtain ⟨first, lines, hlines, hfirst⟩ := splitLines_cons cr lf b text
    rw [splitLines, if_neg hend, hlines, consFirst, List.mem_cons] at h
    rw [hlines] at ih
    rcases h with rfl | h
    · -- a line end at the front would be the two characters that were just read
      intro hinside
      rcases List.infix_cons_iff.mp hinside with hprefix | hinside
      · obtain ⟨rfl, hsecond⟩ := List.cons_prefix_cons.mp hprefix
        rcases hfirst with rfl | hhead
        · simp at hsecond
        · obtain ⟨rest, heq⟩ := hsecond
          rw [← heq] at hhead
          exact hend ⟨rfl, (Option.some.inj hhead).symm⟩
      · exact ih List.mem_cons_self hinside
    · exact ih (List.mem_cons_of_mem _ h)

/-! ### Separators that depend on what was read -/

section Scanner

variable {σ β : Type} (step : σ → β → σ × Bool) {b : β} {s t u : σ} {piece rest : List β}

/-- `str::split` with a closure that keeps a state and reports the separators. -/
def splitWith : σ → List β → List (List β)
  | _, [] => [[]]
  | s, b :: text =>
    if (step s b).2 then [] :: splitWith (step s b).1 text
    else consFirst b (splitWith (step s b).1 text)

/-- The state behind a text in which the scanner reports no separator. -/
def scan : σ → List β → Option σ
  | s, [] => some s
  | s, b :: text => if (step s b).2 then none else scan (step s b).1 text

variable {step}

theorem scan_append (h : scan step s piece = some t) (rest : List β) :
    scan step s (piece ++ rest) = scan step t rest := by
  induction piece generalizing s with
  | nil =>
    cases h
    rfl
  | cons b piece ih =>
    rw [scan] at h
    split_ifs at h with hcut
    rw [List.cons_append, scan, if_neg hcut, ih h]

/-- The scanner stays where it is. -/
theorem scan_of_forall (h : ∀ b ∈ piece, step s b = (s, false)) : scan step s piece = some s := by
  induction piece with
  | nil => rfl
  | cons b piece ih =>
    rw [List.forall_mem_cons] at h
    rw [scan, h.1]
    exact ih h.2

theorem splitWith_of_scan (h : scan step s piece = some t) : splitWith step s piece = [piece] := by
  induction piece generalizing s with
  | nil => rfl
  | cons b piece ih =>
    rw [scan] at h
    split_ifs at h with hcut
    rw [splitWith, if_neg hcut, ih h, consFirst]

/-- **The pieces of a text that begins with one**: the scanner goes on behind the separator. -/
theorem splitWith_append (h : scan step s piece = some t) (hcut : step t b = (u, true)) :
    splitWith step s (piece ++ b :: rest) = piece :: splitWith step u rest := by
  induction piece generalizing s with
  | nil =>
    cases h
    rw [List.nil_append, splitWith, hcut]
    rfl
  | cons c piece ih =>
    rw [scan] at h
    split_ifs at h with hc
    rw [List.cons_append, splitWith, if_neg hc, ih h, consFirst]

/-- **Pieces that were joined** are found again, if the scanner is back where it began behind
every one of them. -/
theorem splitWith_intercalate (hcut : step s b = (s, true)) {pieces : List (List β)}
    (h : ∀ piece ∈ pieces, scan step s piece = some s) (hne : pieces ≠ []) :
    splitWith step s ([b].intercalate pieces) = pieces := by
  induction pieces with
  | nil => exact absurd rfl hne
  | cons piece pieces ih =>
    rw [List.forall_mem_cons] at h
    cases pieces with
    | nil => rw [List.intercalate_singleton, splitWith_of_scan h.1]
    | cons next pieces =>
      rw [List.intercalate_cons_cons, List.append_assoc, List.singleton_append,
        splitWith_append h.1 hcut, ih h.2 (by simp)]

end Scanner

/-! ### Numbers -/

/-- `str::parse` for an unsigned number up to the bound. -/
def parseUnsigned (bound : ℕ) (text : List Char) : Option ℕ :=
  let digits := match text with
    | '+' :: digits => digits
    | digits => digits
  if digits ≠ [] ∧ digits.all Char.isDigit = true then
    let value := Nat.ofDigitChars 10 digits 0
    if value ≤ bound then some value else none
  else none

theorem ofDigitChars_lt {digits : List Char} (h : ∀ c ∈ digits, c.isDigit = true) :
    Nat.ofDigitChars 10 digits 0 < 10 ^ digits.length := by
  induction digits using List.reverseRecOn with
  | nil => exact Nat.one_pos
  | append_singleton digits c ih =>
    have hc : c.isDigit = true := h c (by simp)
    have hlt := ih fun d hd => h d (List.mem_append_left _ hd)
    rw [Char.isDigit, Bool.and_eq_true, decide_eq_true_eq, decide_eq_true_eq] at hc
    have hvalue : c.toNat ≤ 57 := hc.2
    rw [Nat.ofDigitChars_append, Nat.ofDigitChars_cons, Nat.ofDigitChars_nil, List.length_append,
      List.length_singleton, Nat.pow_succ]
    change 10 * _ + (c.toNat - 48) < _
    omega

/-- Digits alone are a number. -/
theorem parseUnsigned_of_digits {digits : List Char} (hne : digits ≠ [])
    (h : ∀ c ∈ digits, c.isDigit = true) {bound : ℕ} (hle : Nat.ofDigitChars 10 digits 0 ≤ bound) :
    parseUnsigned bound digits = some (Nat.ofDigitChars 10 digits 0) := by
  have hsign : ∀ rest, digits ≠ '+' :: rest := by
    rintro rest rfl
    exact absurd (h '+' List.mem_cons_self) (by decide)
  rw [parseUnsigned, if_pos ⟨hne, List.all_eq_true.mpr h⟩]
  · exact if_pos hle
  · exact hsign

theorem le_of_parseUnsigned {bound n : ℕ} {digits : List Char}
    (h : parseUnsigned bound digits = some n) : n ≤ bound := by
  rw [parseUnsigned.eq_def] at h
  dsimp only at h
  split at h
  next =>
    split_ifs at h with hdigits hbound
    exact Option.some.inj h ▸ hbound
  next =>
    split_ifs at h with hdigits hbound
    exact Option.some.inj h ▸ hbound

/-- A number is read from a sign and digits. -/
theorem mem_of_parseUnsigned {bound n : ℕ} {digits : List Char} {c : Char}
    (h : parseUnsigned bound digits = some n) (hc : c ∈ digits) : c = '+' ∨ c.isDigit = true := by
  rw [parseUnsigned.eq_def] at h
  dsimp only at h
  split at h
  next rest =>
    split_ifs at h with hdigits
    rcases List.mem_cons.mp hc with rfl | hc
    · exact .inl rfl
    · exact .inr (List.all_eq_true.mp hdigits.2 c hc)
  next rest _ =>
    split_ifs at h with hdigits
    exact .inr (List.all_eq_true.mp hdigits.2 c hc)

theorem notMem_toDigits {c : Char} (hc : c.isDigit = false) (n : ℕ) : c ∉ Nat.toDigits 10 n := by
  intro hmem
  rw [Nat.isDigit_of_mem_toDigits (by omega) le_rfl hmem] at hc
  cases hc

/-- **A numeral is read back.** -/
theorem parseUnsigned_toDigits {bound n : ℕ} (h : n ≤ bound) :
    parseUnsigned bound (Nat.toDigits 10 n) = some n := by
  have hdigits : ∀ c ∈ Nat.toDigits 10 n, c.isDigit = true := fun c hc =>
    Nat.isDigit_of_mem_toDigits (by omega) le_rfl hc
  have hvalue : Nat.ofDigitChars 10 (Nat.toDigits 10 n) 0 = n := Nat.ofDigitChars_ten_toDigits
  rw [parseUnsigned_of_digits Nat.toDigits_ne_nil hdigits (hvalue.trans_le h), hvalue]

end Termd
