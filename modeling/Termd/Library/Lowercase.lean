import Mathlib.Data.List.Count
import Mathlib.Data.List.Nodup
import Mathlib.Algebra.Ring.Nat

/-!
# Lower case

The lower case of a text, as the standard library of the source has it. Two characters do not have a
lower case of their own: `İ` becomes two characters, and `Σ` becomes `ς` at the end of a word and `σ`
elsewhere. The tables of Unicode are a parameter.

## Main definitions

* `CaseTables`: the tables
* `toLowercase tables text`: the lower case
* `LowersEach tables text`: a text without `İ` and without `Σ` at the end of a word

## Main results

* `LowersEach.toLowercase_drop`: the lower case of the rest is the rest of the lower case
* `lowersEach_of_drop`: two characters suffice to find out whether it is
* `count_toLowercase_le`: no character is more frequent in it than there are characters
-/

namespace Termd

/-- The tables of Unicode: lower case letters, and the properties Cased and Case_Ignorable. -/
structure CaseTables where
  lower : Char → Char
  isCased : Char → Bool
  isCaseIgnorable : Char → Bool
  /-- The dot that `İ` leaves is no letter. -/
  lower_dot : lower '\u0307' = '\u0307'
  lower_finalSigma : lower 'ς' = 'ς'

namespace CaseTables

variable (tables : CaseTables)

/-- `char::to_lowercase` -/
def toLower (c : Char) : List Char := if c = 'İ' then ['i', '\u0307'] else [tables.lower c]

/-- `case_ignorable_then_cased` -/
def caseIgnorableThenCased (chars : List Char) : Bool :=
  match chars.dropWhile tables.isCaseIgnorable with
  | [] => false
  | c :: _ => tables.isCased c

/-- `Σ` ends a word; what is before it is given backwards. -/
def isWordFinal (before rest : List Char) : Bool :=
  tables.caseIgnorableThenCased before && !tables.caseIgnorableThenCased rest

def lowerIn (before : List Char) (c : Char) (rest : List Char) : List Char :=
  if c = 'Σ' then [if tables.isWordFinal before rest then 'ς' else 'σ'] else tables.toLower c

/-- The lower case of what follows `before`. -/
def lowerFrom : List Char → List Char → List Char
  | _, [] => []
  | before, c :: rest => tables.lowerIn before c rest ++ lowerFrom (c :: before) rest

/-- `str::to_lowercase` -/
def toLowercase (text : List Char) : List Char := tables.lowerFrom [] text

/-- No `İ`, and no `Σ` at the end of a word. -/
def LowersEachFrom : List Char → List Char → Prop
  | _, [] => True
  | before, c :: rest =>
    c ≠ 'İ' ∧ (c = 'Σ' → tables.isWordFinal before rest = false) ∧ LowersEachFrom (c :: before) rest

def LowersEach (text : List Char) : Prop := tables.LowersEachFrom [] text

def lowerAlone (c : Char) : Char := if c = 'Σ' then 'σ' else tables.lower c

variable {tables} {text before rest : List Char} {c : Char}

theorem toLowercase_dot (tables : CaseTables) : tables.toLowercase ['\u0307'] = ['\u0307'] := by
  simp [toLowercase, lowerFrom, lowerIn, toLower, tables.lower_dot]

theorem toLowercase_finalSigma (tables : CaseTables) : tables.toLowercase ['ς'] = ['ς'] := by
  simp [toLowercase, lowerFrom, lowerIn, toLower, tables.lower_finalSigma]

/-! ### Texts that are lowered letter by letter -/

theorem lowerIn_eq_singleton (hdot : c ≠ 'İ')
    (hsigma : c = 'Σ' → tables.isWordFinal before rest = false) :
    tables.lowerIn before c rest = [tables.lowerAlone c] := by
  rw [lowerIn, lowerAlone]
  by_cases hc : c = 'Σ'
  · rw [if_pos hc, if_pos hc, hsigma hc]
    rfl
  · rw [if_neg hc, if_neg hc, toLower, if_neg hdot]

theorem LowersEachFrom.lowerFrom_eq (h : tables.LowersEachFrom before text) :
    tables.lowerFrom before text = text.map tables.lowerAlone := by
  induction text generalizing before with
  | nil => rfl
  | cons c rest ih =>
    obtain ⟨hdot, hsigma, hrest⟩ := h
    rw [lowerFrom, lowerIn_eq_singleton hdot hsigma, ih hrest, List.map_cons, List.singleton_append]

/-- What comes first decides. -/
theorem caseIgnorableThenCased_append (h : tables.caseIgnorableThenCased before = true)
    (more : List Char) : tables.caseIgnorableThenCased (before ++ more) = true := by
  induction before with
  | nil => cases h
  | cons c before ih =>
    rw [caseIgnorableThenCased] at h ih ⊢
    rw [List.cons_append]
    by_cases hc : tables.isCaseIgnorable c = true
    · rw [List.dropWhile_cons_of_pos hc] at h ⊢
      exact ih h
    · rw [List.dropWhile_cons_of_neg hc] at h ⊢
      exact h

variable (before) in
/-- With less before it, a letter is still not at the end of a word. -/
theorem LowersEachFrom.of_append {more : List Char}
    (h : tables.LowersEachFrom (before ++ more) text) : tables.LowersEachFrom before text := by
  induction text generalizing before with
  | nil => trivial
  | cons c rest ih =>
    obtain ⟨hdot, hsigma, hrest⟩ := h
    refine ⟨hdot, fun hc => ?_, ih _ hrest⟩
    have hfinal := hsigma hc
    rw [isWordFinal, Bool.and_eq_false_iff] at hfinal ⊢
    refine hfinal.imp_left fun hbefore => ?_
    by_contra hcased
    rw [Bool.not_eq_false] at hcased
    rw [caseIgnorableThenCased_append hcased] at hbefore
    cases hbefore

theorem LowersEachFrom.drop (h : tables.LowersEachFrom before text) (n : ℕ) :
    tables.LowersEach (text.drop n) := by
  induction text generalizing before n with
  | nil =>
    rw [List.drop_nil]
    trivial
  | cons c rest ih =>
    cases n with
    | zero => exact of_append [] h
    | succ n => exact ih h.2.2 n

/-- **The lower case of the rest** is the rest of the lower case. -/
theorem LowersEach.toLowercase_drop (h : tables.LowersEach text) (n : ℕ) :
    tables.toLowercase (text.drop n) = (tables.toLowercase text).drop n := by
  have hrest : tables.LowersEach (text.drop n) := LowersEachFrom.drop h n
  rw [toLowercase, hrest.lowerFrom_eq, toLowercase, LowersEachFrom.lowerFrom_eq h, List.map_drop]

theorem LowersEach.length_toLowercase (h : tables.LowersEach text) :
    (tables.toLowercase text).length = text.length := by
  rw [toLowercase, LowersEachFrom.lowerFrom_eq h, List.length_map]

/-! ### The other texts -/

variable (tables) in
/-- Where the lower case of a character stands: every `İ` before it shifts it by one. -/
theorem exists_lowerFrom_append (before front rest : List Char) : ∃ lowered,
    tables.lowerFrom before (front ++ rest) =
        lowered ++ tables.lowerFrom (front.reverse ++ before) rest ∧
      lowered.length = front.length + front.count 'İ' := by
  induction front generalizing before with
  | nil => exact ⟨[], rfl, rfl⟩
  | cons c front ih =>
    obtain ⟨lowered, heq, hlen⟩ := ih (c :: before)
    refine ⟨tables.lowerIn before c (front ++ rest) ++ lowered, ?_, ?_⟩
    · rw [List.cons_append, lowerFrom, heq, List.append_assoc, List.reverse_cons,
        List.append_assoc, List.singleton_append]
    · rw [List.length_append, hlen, List.count_cons, lowerIn, toLower, List.length_cons]
      by_cases hsigma : c = 'Σ'
      · simp [hsigma]
        omega
      · by_cases hdot : c = 'İ'
        · simp [hdot]
          omega
        · simp [hsigma, hdot]
          omega

/-- Only a letter that is lowered to the dot in every place begins with it. -/
theorem lowerIn_of_dot {more : List Char}
    (h : ['\u0307'] <+: tables.lowerIn before c rest ++ more) (before' rest' : List Char) :
    tables.lowerIn before' c rest' = ['\u0307'] ∧ c ≠ 'İ' := by
  rw [lowerIn] at h ⊢
  by_cases hsigma : c = 'Σ'
  · rw [if_pos hsigma] at h
    have hhead := (List.cons_prefix_cons.mp h).1
    split_ifs at hhead <;> simp at hhead
  · rw [if_neg hsigma, toLower] at h ⊢
    by_cases hdot : c = 'İ'
    · rw [if_pos hdot] at h
      have hhead := (List.cons_prefix_cons.mp h).1
      simp at hhead
    · rw [if_neg hdot] at h
      rw [if_neg hdot, ← (List.cons_prefix_cons.mp h).1]
      exact ⟨rfl, hdot⟩

/-- Behind an `İ` there is a dot that is not where it stands in the text, and so on to the end. -/
theorem not_dot_of_lt (hdrop : ∀ p, ['\u0307'] <+: (tables.toLowercase text).drop p →
      ['\u0307'] <+: tables.toLowercase (text.drop p)) {k : ℕ} (hk : text[k]? = some 'İ') (n : ℕ) :
    ∀ p, text.length - p ≤ n → k < p → ¬ ['\u0307'] <+: (tables.toLowercase text).drop p := by
  induction n with
  | zero =>
    intro p hn _ hp
    have hrest := hdrop p hp
    rw [List.drop_of_length_le (by omega)] at hrest
    cases List.prefix_nil.mp hrest
  | succ n ih =>
    intro p hn hlt hp
    have hrest := hdrop p hp
    cases htext : text.drop p with
    | nil =>
      rw [htext] at hrest
      cases List.prefix_nil.mp hrest
    | cons c rest =>
      rw [htext, toLowercase, lowerFrom] at hrest
      obtain ⟨lowered, heq, hlen⟩ := exists_lowerFrom_append tables [] (text.take p)
        (text.drop p)
      have hpos : p < text.length := by
        by_contra hle
        rw [List.drop_of_length_le (by omega)] at htext
        cases htext
      have hcount : 0 < (text.take p).count 'İ' := by
        refine List.count_pos_iff.mpr (List.mem_of_getElem? (i := k) ?_)
        rw [List.getElem?_take_of_lt hlt, hk]
      rw [List.length_take_of_le (Nat.le_of_lt hpos)] at hlen
      rw [List.take_append_drop, htext, lowerFrom, (lowerIn_of_dot hrest _ _).1] at heq
      refine ih lowered.length (by omega) (by omega) ?_
      rw [toLowercase, heq, List.drop_left]
      exact List.prefix_append _ _

/-- There is no `İ` if every dot of the lower case is where it stands in the text. -/
theorem notMem_of_drop (hdrop : ∀ p, ['\u0307'] <+: (tables.toLowercase text).drop p →
      ['\u0307'] <+: tables.toLowercase (text.drop p)) : 'İ' ∉ text := by
  intro hmem
  obtain ⟨front, rest, rfl⟩ := List.append_of_mem hmem
  obtain ⟨lowered, heq, hlen⟩ := exists_lowerFrom_append tables [] front ('İ' :: rest)
  refine not_dot_of_lt hdrop (k := front.length) (by simp) _ (lowered.length + 1) le_rfl
    (by omega) ?_
  rw [toLowercase, heq, ← List.drop_drop, List.drop_left, lowerFrom]
  exact List.prefix_append ['\u0307'] _

theorem lowersEachFrom_of_splits (hdot : 'İ' ∉ text)
    (hsigma : ∀ front rest, text = front ++ 'Σ' :: rest →
      tables.isWordFinal (front.reverse ++ before) rest = false) :
    tables.LowersEachFrom before text := by
  induction text generalizing before with
  | nil => trivial
  | cons c rest ih =>
    rw [List.mem_cons, not_or] at hdot
    refine ⟨Ne.symm hdot.1, ?_, ih hdot.2 fun front more hrest => ?_⟩
    · rintro rfl
      exact hsigma [] rest rfl
    · have hfinal := hsigma (c :: front) more (by rw [hrest, List.cons_append])
      rwa [List.reverse_cons, List.append_assoc, List.singleton_append] at hfinal

/-- **Two characters suffice**: if the dot and the final sigma of the lower case are where they stand
in the text, the text is lowered letter by letter. -/
theorem lowersEach_of_drop (hdrop : ∀ c ∈ ['\u0307', 'ς'], ∀ p,
      [c] <+: (tables.toLowercase text).drop p → [c] <+: tables.toLowercase (text.drop p)) :
    tables.LowersEach text := by
  have hdot : 'İ' ∉ text := notMem_of_drop (hdrop _ (by simp))
  refine lowersEachFrom_of_splits hdot fun front rest htext => ?_
  by_contra hfinal
  rw [Bool.not_eq_false] at hfinal
  obtain ⟨lowered, heq, hlen⟩ := exists_lowerFrom_append tables [] front ('Σ' :: rest)
  have hcount : front.count 'İ' = 0 := by
    rw [List.count_eq_zero]
    exact fun hmem => hdot (htext ▸ List.mem_append_left _ hmem)
  rw [hcount, Nat.add_zero] at hlen
  have hplace : ['ς'] <+: (tables.toLowercase text).drop front.length := by
    rw [toLowercase, htext, heq, ← hlen, List.drop_left, lowerFrom, lowerIn, if_pos rfl, hfinal]
    exact List.prefix_append _ _
  have halone := hdrop 'ς' (by simp) _ hplace
  rw [htext, List.drop_left, toLowercase, lowerFrom, lowerIn, if_pos rfl] at halone
  -- with nothing before it, a letter ends no word
  have hhead := (List.cons_prefix_cons.mp halone).1
  simp [isWordFinal, caseIgnorableThenCased] at hhead

variable (tables) in
theorem count_lowerIn_le (before rest : List Char) (c d : Char) :
    (tables.lowerIn before c rest).count d ≤ 1 := by
  have hone (e : Char) : [e].count d ≤ 1 := List.count_le_length
  rw [lowerIn, toLower]
  split_ifs
  · exact hone _
  · exact hone _
  · have hnodup : ['i', '\u0307'].Nodup := by decide
    exact List.nodup_iff_count_le_one.mp hnodup d
  · exact hone _

/-- No character is more frequent than there are characters in the text. -/
theorem count_toLowercase_le (text : List Char) (d : Char) :
    (tables.toLowercase text).count d ≤ text.length := by
  have hfrom (before : List Char) : (tables.lowerFrom before text).count d ≤ text.length := by
    induction text generalizing before with
    | nil => exact Nat.zero_le _
    | cons c rest ih =>
      have hfirst := count_lowerIn_le tables before rest c d
      have hrest := ih (c :: before)
      rw [lowerFrom, List.count_append, List.length_cons]
      omega
  exact hfrom []

end CaseTables

end Termd
