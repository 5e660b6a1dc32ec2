import Mathlib.Algebra.Ring.Nat
import Mathlib.Data.List.MinMax
import Mathlib.Data.Prod.Lex
import Mathlib.Order.Bounds.Basic
import Termd.Library.TextSplit
import Termd.Library.Whitespace

/-!
# The encoding of a web asset

A request names the encodings that it accepts in the members of its `Accept-Encoding` lines, each
with a weight in thousandths. The server weighs the representations that it has and sends one of
maximal weight. How a line is read as text is a parameter; a line that is not text has no members.

The members are given a grammar of their own here, and the weight of an encoding is stated with it:
the greatest of the weights that the members give to its name, or else of those that they give to
the name `*`.

## Main definitions

* `parseEncodingMember`, `encodingQuality`, `selectContentEncoding`: the code
* `QValue`, `Member`: the grammar of weights and of members
* `Weighs members encoding w`: the weight of an encoding
* `Best members available encoding`: an encoding of maximal weight, in the order of the server

## Main results

* `parseEncodingMember_eq_some`: the reader of members accepts the grammar
* `member_trim`: blanks around a member do not matter
* `weighs_encodingQuality`: the loops over lines and members compute the weight
* `selectContentEncoding_eq_none`, `best_of_select`: what is selected
* `selectContentEncoding_congr`: neither the order of the members nor the lines matter
-/

namespace Termd.Web

/-! ### The code -/

inductive ContentEncoding
  | brotli
  | gzip
  | identity
deriving DecidableEq

/-- The compressed representations that there are. -/
structure AvailableEncodings where
  brotli : Bool
  gzip : Bool

def serverPreference : ContentEncoding → ℕ
  | .brotli => 3
  | .gzip => 2
  | .identity => 1

/-- `str::eq_ignore_ascii_case` -/
def eqIgnoreAsciiCase (a b : List Char) : Bool := a.map Char.toLower = b.map Char.toLower

def isHttpTchar (c : Char) : Bool := c.isAlphanum || "!#$%&'*+-.^_`|~".toList.contains c

/-- The largest number of `u16`. -/
def u16Max : ℕ := 2 ^ 16 - 1

/-- The weight in thousandths; the digits behind the point are padded to three. -/
def parseQuality (value : List Char) : Option ℕ :=
  let (whole, fractional) := (splitOnce '.' value).getD (value, [])
  if 3 < fractional.length ∨ fractional.all Char.isDigit = false then none
  else if whole = ['0'] then
    let padded := fractional.rightpad 3 '0'
    if padded = [] then some 0 else parseUnsigned u16Max padded
  else if whole = ['1'] ∧ fractional.all (· = '0') = true then some 1000
  else none

/-- The parameter `q=…` of a member. -/
def parseParameter (parameter : List Char) : Option ℕ :=
  (splitOnce '=' parameter).bind fun (name, value) =>
    if eqIgnoreAsciiCase (trim name) ['q'] then parseQuality (trim value) else none

def parseEncodingMember (item : List Char) : Option (List Char × ℕ) :=
  match item.splitOn ';' with
  | [] => none
  | first :: parameters =>
    if trim first = [] ∨ (trim first).all isHttpTchar = false then none
    else match parameters with
      | [] => some (trim first, 1000)
      | [parameter] => (parseParameter parameter).map fun quality => (trim first, quality)
      | _ => none

section Lines

-- `HeaderValue::to_str`
variable {HeaderValue : Type} (toStr : HeaderValue → Option (List Char))

/-- The members of the lines that are text. -/
def acceptMembers (lines : List HeaderValue) : List (List Char) :=
  (lines.filterMap toStr).flatMap fun value => value.splitOn ','

/-- One round of the loop of `encoding_quality`: the weights of the name and of `*` so far. -/
def weighMember (coding : List Char) (weights : Option ℕ × Option ℕ) (item : List Char) :
    Option ℕ × Option ℕ :=
  match parseEncodingMember item with
  | none => weights
  | some (token, quality) =>
    if eqIgnoreAsciiCase token coding then (some (max (weights.1.getD 0) quality), weights.2)
    else if token = ['*'] then (weights.1, some (max (weights.2.getD 0) quality))
    else weights

def identityName : List Char := ['i', 'd', 'e', 'n', 't', 'i', 't', 'y']

/-- `encoding_quality` -/
def encodingQuality (lines : List HeaderValue) (coding : List Char) : ℕ :=
  if lines = [] then 1000
  else match (acceptMembers toStr lines).foldl (weighMember coding) (none, none) with
    | (some quality, _) => quality
    | (none, wildcard) =>
      if eqIgnoreAsciiCase coding identityName then if wildcard = some 0 then 0 else 1000
      else wildcard.getD 0

/-- The representations that there are, with their weights, if these are not zero. -/
def candidates (lines : List HeaderValue) (available : AvailableEncodings) :
    List (ℕ × ContentEncoding) :=
  (([(.brotli, available.brotli, ['b', 'r']), (.gzip, available.gzip, ['g', 'z', 'i', 'p']),
    (.identity, true, identityName)].filter fun entry => entry.2.1).map
      fun entry => (encodingQuality toStr lines entry.2.2, entry.1)).filter fun entry => 0 < entry.1

/-- `select_content_encoding`. No two candidates have the same key, so that it does not matter which
of several maxima is taken. -/
def selectContentEncoding (lines : List HeaderValue) (available : AvailableEncodings) :
    Option ContentEncoding :=
  if lines = [] then some .identity
  else if
      (acceptMembers toStr lines).any (fun item => (parseEncodingMember item).isSome) = false then
    none
  else
    ((candidates toStr lines available).argmax
      fun entry => toLex (entry.1, serverPreference entry.2)).map Prod.snd

end Lines

/-! ### The grammar of members -/

/-- The digits behind a point, if there is one. -/
inductive Fraction : List Char → List Char → Prop
  | none : Fraction [] []
  | point (digits : List Char) : Fraction ('.' :: digits) digits

/-- A weight from `0` to `1`, with at most three digits behind the point, in thousandths. -/
inductive QValue : List Char → ℕ → Prop
  | zero {text digits : List Char} {w : ℕ} (hfraction : Fraction text digits)
      (hlength : digits.length ≤ 3) (hdigits : ∀ c ∈ digits, c.isDigit = true)
      (hvalue : w * 10 ^ digits.length = 1000 * Nat.ofDigitChars 10 digits 0) :
      QValue ('0' :: text) w
  | one {text digits : List Char} (hfraction : Fraction text digits)
      (hlength : digits.length ≤ 3) (hdigits : ∀ c ∈ digits, c = '0') :
      QValue ('1' :: text) 1000

def IsToken (name : List Char) : Prop := name ≠ [] ∧ ∀ c ∈ name, isHttpTchar c = true

/-- A member, the name it gives a weight to, and the weight. -/
inductive Member : List Char → List Char → ℕ → Prop
  | plain {item : List Char} (htoken : IsToken (trim item)) : Member item (trim item) 1000
  | weighted {first name value : List Char} {w : ℕ} (htoken : IsToken (trim first))
      (hname : eqIgnoreAsciiCase (trim name) ['q'] = true) (hvalue : QValue (trim value) w) :
      Member (first ++ ';' :: (name ++ '=' :: value)) (trim first) w

/-! ### The reader of members accepts the grammar -/

theorem Fraction.of_split {value whole digits : List Char}
    (h : (splitOnce '.' value).getD (value, []) = (whole, digits)) :
    ∃ text, Fraction text digits ∧ value = whole ++ text := by
  cases hsplit : splitOnce '.' value with
  | none =>
    rw [hsplit] at h
    cases h
    exact ⟨[], .none, (List.append_nil _).symm⟩
  | some parts =>
    rw [hsplit] at h
    cases h
    exact ⟨_, .point _, (splitOnce_eq_some.mp hsplit).1⟩

theorem Fraction.split {text digits whole : List Char} (h : Fraction text digits)
    (hwhole : '.' ∉ whole) :
    (splitOnce '.' (whole ++ text)).getD (whole ++ text, []) = (whole, digits) := by
  cases h with
  | none => rw [List.append_nil, splitOnce_eq_none.mpr hwhole, Option.getD_none]
  | point => rw [splitOnce_append hwhole, Option.getD_some]

theorem length_rightpad {digits : List Char} (h : digits.length ≤ 3) :
    (digits.rightpad 3 '0').length = 3 := by
  simp [List.rightpad]
  omega

/-- Digits behind the point are padded and read. -/
theorem parseUnsigned_rightpad {digits : List Char} (hlength : digits.length ≤ 3)
    (hdigits : ∀ c ∈ digits, c.isDigit = true) :
    parseUnsigned u16Max (digits.rightpad 3 '0') =
      some (10 ^ (3 - digits.length) * Nat.ofDigitChars 10 digits 0) := by
  have hlen := length_rightpad hlength
  have hpadded : ∀ c ∈ digits.rightpad 3 '0', c.isDigit = true := by
    intro c hc
    rcases List.mem_append.mp hc with hc | hc
    · exact hdigits c hc
    · rw [List.eq_of_mem_replicate hc]
      rfl
  have hlt := ofDigitChars_lt hpadded
  have hne : digits.rightpad 3 '0' ≠ [] := List.ne_nil_of_length_eq_add_one hlen
  have hvalue : Nat.ofDigitChars 10 (digits.rightpad 3 '0') 0 =
      10 ^ (3 - digits.length) * Nat.ofDigitChars 10 digits 0 := by
    rw [List.rightpad, Nat.ofDigitChars_append, Nat.ofDigitChars_replicate_zero]
  rw [hlen] at hlt
  rw [parseUnsigned_of_digits hne hpadded (by rw [u16Max]; omega), hvalue]

theorem scaled_iff {length w v : ℕ} (h : length ≤ 3) :
    w * 10 ^ length = 1000 * v ↔ 10 ^ (3 - length) * v = w := by
  have hcases : length = 0 ∨ length = 1 ∨ length = 2 ∨ length = 3 := by omega
  rcases hcases with rfl | rfl | rfl | rfl
  all_goals
    simp only [Nat.reduceSub, Nat.reducePow]
    omega

/-- **Weights** are read as the grammar has them. -/
theorem parseQuality_eq_some {value : List Char} {w : ℕ} :
    parseQuality value = some w ↔ QValue value w := by
  constructor
  · intro h
    rw [parseQuality] at h
    generalize hsplit : (splitOnce '.' value).getD (value, []) = parts at h
    obtain ⟨whole, digits⟩ := parts
    obtain ⟨text, hfraction, rfl⟩ := Fraction.of_split hsplit
    dsimp only at h
    split_ifs at h with hbad hzero hnil hone
    · have hlength := congrArg List.length hnil
      simp [List.rightpad] at hlength
      rw [hlength.1] at hlength
      exact absurd hlength.2 (by decide)
    · push Not at hbad
      rw [ne_eq, Bool.not_eq_false, List.all_eq_true] at hbad
      rw [parseUnsigned_rightpad hbad.1 hbad.2, Option.some.injEq] at h
      subst hzero
      exact .zero hfraction hbad.1 hbad.2 ((scaled_iff hbad.1).mpr h)
    · push Not at hbad
      obtain ⟨rfl, hzeros⟩ := hone
      cases h
      refine .one hfraction hbad.1 fun c hc => ?_
      simpa using List.all_eq_true.mp hzeros c hc
  · intro h
    cases h with
    | @zero text digits _ hfraction hlength hdigits hvalue =>
      have hsplit := hfraction.split (by decide : '.' ∉ ['0'])
      have hbad : ¬(3 < digits.length ∨ digits.all Char.isDigit = false) :=
        not_or.mpr ⟨hlength.not_gt, by simpa using hdigits⟩
      have hne : digits.rightpad 3 '0' ≠ [] :=
        List.ne_nil_of_length_eq_add_one (length_rightpad hlength)
      rw [List.singleton_append] at hsplit
      rw [parseQuality, hsplit]
      dsimp only
      rw [if_neg hbad, if_pos rfl, if_neg hne, parseUnsigned_rightpad hlength hdigits,
        (scaled_iff hlength).mp hvalue]
    | @one text digits hfraction hlength hdigits =>
      have hsplit := hfraction.split (by decide : '.' ∉ ['1'])
      have hbad : ¬(3 < digits.length ∨ digits.all Char.isDigit = false) := by
        refine not_or.mpr ⟨hlength.not_gt, ?_⟩
        rw [Bool.not_eq_false, List.all_eq_true]
        intro c hc
        rw [hdigits c hc]
        rfl
      rw [List.singleton_append] at hsplit
      rw [parseQuality, hsplit]
      dsimp only
      rw [if_neg hbad, if_neg (by decide), if_pos ⟨rfl, by simpa using hdigits⟩]

theorem QValue.mem {value : List Char} {w : ℕ} (h : QValue value w) {c : Char} (hc : c ∈ value) :
    c.isDigit = true ∨ c = '.' := by
  have hfraction {text digits : List Char} (h : Fraction text digits)
      (hdigits : ∀ c ∈ digits, c.isDigit = true) (hc : c ∈ text) : c.isDigit = true ∨ c = '.' := by
    cases h with
    | none => cases hc
    | point =>
      rcases List.mem_cons.mp hc with rfl | hc
      · exact .inr rfl
      · exact .inl (hdigits c hc)
  cases h with
  | zero htext _ hdigits =>
    rcases List.mem_cons.mp hc with rfl | hc
    · exact .inl rfl
    · exact hfraction htext hdigits hc
  | one htext _ hdigits =>
    rcases List.mem_cons.mp hc with rfl | hc
    · exact .inl rfl
    · refine hfraction htext (fun d hd => ?_) hc
      rw [hdigits d hd]
      rfl

theorem QValue.ne_nil {value : List Char} {w : ℕ} (h : QValue value w) : value ≠ [] := by
  cases h with
  | zero => exact List.cons_ne_nil _ _
  | one => exact List.cons_ne_nil _ _

theorem IsToken.notMem {first : List Char} (h : IsToken (trim first)) {c : Char}
    (hblank : isWhitespace c = false) (hc : isHttpTchar c = false) : c ∉ first := by
  intro hmem
  have htchar := h.2 c ((mem_trim hblank).mpr hmem)
  rw [hc] at htchar
  cases htchar

theorem notMem_of_eqIgnoreAsciiCase {name : List Char}
    (h : eqIgnoreAsciiCase (trim name) ['q'] = true) {c : Char} (hblank : isWhitespace c = false)
    (hc : c.toLower ≠ 'q') : c ∉ name := by
  intro hmem
  have hlower : (trim name).map Char.toLower = ['q'] := of_decide_eq_true h
  have hin := List.mem_map_of_mem (f := Char.toLower) ((mem_trim hblank).mpr hmem)
  rw [hlower, List.mem_singleton] at hin
  exact hc hin

theorem isToken_iff {name : List Char} :
    IsToken name ↔ ¬(name = [] ∨ name.all isHttpTchar = false) := by
  rw [IsToken, not_or, Bool.not_eq_false, List.all_eq_true]

theorem parseParameter_eq_some {parameter : List Char} {w : ℕ} :
    parseParameter parameter = some w ↔ ∃ name value, parameter = name ++ '=' :: value ∧
      eqIgnoreAsciiCase (trim name) ['q'] = true ∧ QValue (trim value) w := by
  rw [parseParameter, Option.bind_eq_some_iff]
  constructor
  · rintro ⟨⟨name, value⟩, hsplit, h⟩
    dsimp only at h
    split_ifs at h with hname
    exact ⟨name, value, (splitOnce_eq_some.mp hsplit).1, hname, parseQuality_eq_some.mp h⟩
  · rintro ⟨name, value, rfl, hname, hvalue⟩
    have hequals : '=' ∉ name :=
      notMem_of_eqIgnoreAsciiCase hname (by decide) (by decide)
    refine ⟨(name, value), splitOnce_append hequals, ?_⟩
    exact (if_pos hname).trans (parseQuality_eq_some.mpr hvalue)

/-- **Members** are read as the grammar has them. -/
theorem parseEncodingMember_eq_some {item name : List Char} {w : ℕ} :
    parseEncodingMember item = some (name, w) ↔ Member item name w := by
  constructor
  · intro h
    have hjoin : [';'].intercalate (item.splitOn ';') = item := List.intercalate_splitOn ';'
    rw [parseEncodingMember] at h
    cases hsplit : item.splitOn ';' with
    | nil => exact absurd hsplit (by simp)
    | cons first parameters =>
      rw [hsplit] at h hjoin
      dsimp only at h
      split_ifs at h with hbad
      have htoken : IsToken (trim first) := isToken_iff.mpr hbad
      cases parameters with
      | nil =>
        cases h
        rw [List.intercalate_singleton] at hjoin
        exact hjoin ▸ .plain htoken
      | cons parameter parameters =>
        cases parameters with
        | cons => cases h
        | nil =>
          obtain ⟨quality, hquality, heq⟩ := Option.map_eq_some_iff.mp h
          obtain ⟨key, value, rfl, hkey, hvalue⟩ := parseParameter_eq_some.mp hquality
          cases heq
          rw [List.intercalate_cons_cons, List.intercalate_singleton, List.append_assoc,
            List.singleton_append] at hjoin
          exact hjoin ▸ .weighted htoken hkey hvalue
  · intro h
    cases h with
    | plain htoken =>
      have hsemicolon : ';' ∉ item := htoken.notMem (by decide) (by decide)
      rw [parseEncodingMember, List.splitOn_eq_singleton hsemicolon]
      dsimp only
      rw [if_neg (isToken_iff.mp htoken)]
    | @weighted first key value _ htoken hkey hvalue =>
      have hfirst : ';' ∉ first := htoken.notMem (by decide) (by decide)
      have hparameter : ';' ∉ key ++ '=' :: value := by
        rw [List.mem_append, List.mem_cons, not_or, not_or]
        refine ⟨notMem_of_eqIgnoreAsciiCase hkey (by decide) (by decide), by decide, fun hmem => ?_⟩
        rcases hvalue.mem ((mem_trim (by decide)).mpr hmem) with hdigit | hpoint
        · exact absurd hdigit (by decide)
        · exact absurd hpoint (by decide)
      rw [parseEncodingMember, List.splitOn_append_cons_self_of_not_mem hfirst,
        List.splitOn_eq_singleton hparameter]
      dsimp only
      rw [if_neg (isToken_iff.mp htoken),
        parseParameter_eq_some.mpr ⟨key, value, rfl, hkey, hvalue⟩, Option.map_some]

/-! ### Blanks around members -/

theorem member_cons {item name : List Char} {w : ℕ} {c : Char} (hc : isWhitespace c = true) :
    Member (c :: item) name w ↔ Member item name w := by
  constructor
  · intro h
    generalize hitem : c :: item = text at h
    cases h with
    | plain htoken =>
      subst hitem
      rw [trim_cons hc] at htoken ⊢
      exact .plain htoken
    | @weighted first key value _ htoken hkey hvalue =>
      cases first with
      | nil => exact absurd rfl htoken.1
      | cons d first =>
        obtain ⟨rfl, rfl⟩ := List.cons.inj hitem
        rw [trim_cons hc] at htoken ⊢
        exact .weighted htoken hkey hvalue
  · intro h
    cases h with
    | plain htoken =>
      rw [← trim_cons hc item] at htoken ⊢
      exact .plain htoken
    | @weighted first key value _ htoken hkey hvalue =>
      rw [← trim_cons hc first] at htoken ⊢
      exact .weighted htoken hkey hvalue

theorem member_concat {item name : List Char} {w : ℕ} {c : Char} (hc : isWhitespace c = true) :
    Member (item ++ [c]) name w ↔ Member item name w := by
  have hshift (first key value : List Char) (c : Char) :
      first ++ ';' :: (key ++ '=' :: (value ++ [c])) =
        (first ++ ';' :: (key ++ '=' :: value)) ++ [c] := by simp
  constructor
  · intro h
    generalize hitem : item ++ [c] = text at h
    cases h with
    | plain htoken =>
      subst hitem
      rw [trim_concat hc] at htoken ⊢
      exact .plain htoken
    | @weighted first key value _ htoken hkey hvalue =>
      rcases List.eq_nil_or_concat' value with rfl | ⟨value, d, rfl⟩
      · exact absurd trim_nil hvalue.ne_nil
      · rw [hshift] at hitem
        obtain ⟨rfl, hlast⟩ := List.append_inj' hitem rfl
        obtain rfl : c = d := List.head_eq_of_cons_eq hlast
        rw [trim_concat hc] at hvalue
        exact .weighted htoken hkey hvalue
  · intro h
    cases h with
    | plain htoken =>
      rw [← trim_concat hc item] at htoken ⊢
      exact .plain htoken
    | @weighted first key value _ htoken hkey hvalue =>
      rw [← trim_concat hc value] at hvalue
      rw [← hshift]
      exact .weighted htoken hkey hvalue

/-- **Blanks around a member** do not matter. -/
theorem member_trim {item name : List Char} {w : ℕ} :
    Member (trim item) name w ↔ Member item name w :=
  trim_iff (P := fun item => Member item name w) (fun _ _ hc => member_cons hc)
    (fun _ _ hc => member_concat hc) item

/-! ### The weight of an encoding -/

def ContentEncoding.name : ContentEncoding → List Char
  | .brotli => ['b', 'r']
  | .gzip => ['g', 'z', 'i', 'p']
  | .identity => identityName

/-- The weights that the members give to a name, in any case of letters. -/
def ownWeights (members : List (List Char)) (coding : List Char) : Set ℕ :=
  {w | ∃ item ∈ members, ∃ name, Member item name w ∧ eqIgnoreAsciiCase name coding = true}

/-- The weights that the members give to `*`. -/
def wildcardWeights (members : List (List Char)) : Set ℕ :=
  {w | ∃ item ∈ members, Member item ['*'] w}

/-- **The weight of an encoding**: the greatest of its own, else the greatest of `*`, else zero.
Without a weight of its own, the identity weighs everything unless `*` weighs nothing. -/
inductive Weighs (members : List (List Char)) (encoding : ContentEncoding) : ℕ → Prop
  | own {w : ℕ} (h : IsGreatest (ownWeights members encoding.name) w) : Weighs members encoding w
  | wildcard {w : ℕ} (hown : ownWeights members encoding.name = ∅) (hne : encoding ≠ .identity)
      (h : IsGreatest (wildcardWeights members) w) : Weighs members encoding w
  | absent (hown : ownWeights members encoding.name = ∅) (hne : encoding ≠ .identity)
      (h : wildcardWeights members = ∅) : Weighs members encoding 0
  | excluded (hown : ownWeights members encoding.name = ∅) (heq : encoding = .identity)
      (h : IsGreatest (wildcardWeights members) 0) : Weighs members encoding 0
  | identity (hown : ownWeights members encoding.name = ∅) (heq : encoding = .identity)
      (h : ¬IsGreatest (wildcardWeights members) 0) : Weighs members encoding 1000

/-- The greatest element, or nothing. -/
def Greatest (weights : Set ℕ) : Option ℕ → Prop
  | none => weights = ∅
  | some w => IsGreatest weights w

theorem Greatest.insert {weights : Set ℕ} {greatest : Option ℕ} (h : Greatest weights greatest)
    (w : ℕ) : Greatest (insert w weights) (some (max (greatest.getD 0) w)) := by
  cases greatest with
  | none =>
    rw [show weights = ∅ from h]
    simp [Greatest]
  | some v =>
    rw [Greatest, Option.getD_some, max_comm]
    exact IsGreatest.insert w h

theorem Greatest.unique {weights : Set ℕ} {greatest greatest' : Option ℕ}
    (h : Greatest weights greatest) (h' : Greatest weights greatest') : greatest = greatest' := by
  cases greatest with
  | none =>
    obtain rfl : weights = ∅ := h
    cases greatest' with
    | none => rfl
    | some w => exact absurd h'.1 (Set.notMem_empty w)
  | some v =>
    cases greatest' with
    | none =>
      obtain rfl : weights = ∅ := h'
      exact absurd h.1 (Set.notMem_empty v)
    | some w => rw [IsGreatest.unique h h']

/-- The weight of an encoding whose own and whose `*` weights are known. -/
def finalWeight (encoding : ContentEncoding) (specific wildcard : Option ℕ) : ℕ :=
  match specific with
  | some quality => quality
  | none =>
    if encoding = .identity then if wildcard = some 0 then 0 else 1000 else wildcard.getD 0

section Greatest

variable {members : List (List Char)} {encoding : ContentEncoding} {specific wildcard : Option ℕ}
  (hown : Greatest (ownWeights members encoding.name) specific)
  (hwildcard : Greatest (wildcardWeights members) wildcard)

include hown hwildcard

theorem weighs_finalWeight : Weighs members encoding (finalWeight encoding specific wildcard) := by
  cases specific with
  | some quality => exact .own hown
  | none =>
    rw [finalWeight]
    by_cases hidentity : encoding = .identity
    · rw [if_pos hidentity]
      split_ifs with hzero
      · subst hzero
        exact .excluded hown hidentity hwildcard
      · refine .identity hown hidentity fun hgreatest => hzero ?_
        have hstar : Greatest (wildcardWeights members) (some 0) := hgreatest
        exact hwildcard.unique hstar
    · rw [if_neg hidentity]
      cases wildcard with
      | none => exact .absent hown hidentity hwildcard
      | some quality => exact .wildcard hown hidentity hwildcard

theorem Weighs.eq_finalWeight {w : ℕ} (h : Weighs members encoding w) :
    w = finalWeight encoding specific wildcard := by
  have hspecific (o : Option ℕ) (ho : Greatest (ownWeights members encoding.name) o) :
      specific = o := hown.unique ho
  have hstar (o : Option ℕ) (ho : Greatest (wildcardWeights members) o) : wildcard = o :=
    hwildcard.unique ho
  cases h with
  | own h => rw [hspecific (some w) h, finalWeight]
  | wildcard hempty hne h =>
    rw [hspecific none hempty, hstar (some w) h, finalWeight, if_neg hne, Option.getD_some]
  | absent hempty hne h =>
    rw [hspecific none hempty, hstar none h, finalWeight, if_neg hne, Option.getD_none]
  | excluded hempty heq h =>
    rw [hspecific none hempty, hstar (some 0) h, finalWeight, if_pos heq, if_pos rfl]
  | identity hempty heq h =>
    have hne : wildcard ≠ some 0 := by
      rintro rfl
      exact h hwildcard
    rw [hspecific none hempty, finalWeight, if_pos heq, if_neg hne]

theorem weighs_iff {w : ℕ} :
    Weighs members encoding w ↔ w = finalWeight encoding specific wildcard := by
  refine ⟨fun h => h.eq_finalWeight hown hwildcard, ?_⟩
  rintro rfl
  exact weighs_finalWeight hown hwildcard

end Greatest

/-! ### The loops compute the weight -/

theorem member_iff_of_parse {item token name : List Char} {quality w : ℕ}
    (h : parseEncodingMember item = some (token, quality)) :
    Member item name w ↔ token = name ∧ quality = w := by
  rw [← parseEncodingMember_eq_some, h, Option.some.injEq, Prod.mk.injEq]

theorem not_member_of_parse {item name : List Char} {w : ℕ}
    (h : parseEncodingMember item = none) : ¬Member item name w := by
  rw [← parseEncodingMember_eq_some, h]
  exact nofun

theorem setOf_concat {P : List Char → ℕ → Prop} (members : List (List Char)) (item : List Char) :
    {w | ∃ other ∈ members ++ [item], P other w} =
      {w | P item w} ∪ {w | ∃ other ∈ members, P other w} := by
  ext w
  simp only [Set.mem_ofPred_eq, List.mem_append, List.mem_singleton, Set.mem_union]
  constructor
  · rintro ⟨other, hother | rfl, hmember⟩
    · exact .inr ⟨other, hother, hmember⟩
    · exact .inl hmember
  · rintro (hmember | ⟨other, hother, hmember⟩)
    · exact ⟨item, .inr rfl, hmember⟩
    · exact ⟨other, .inl hother, hmember⟩

theorem ownWeights_concat (members : List (List Char)) (item coding : List Char) :
    ownWeights (members ++ [item]) coding =
      {w | ∃ name, Member item name w ∧ eqIgnoreAsciiCase name coding = true} ∪
        ownWeights members coding :=
  setOf_concat members item

theorem wildcardWeights_concat (members : List (List Char)) (item : List Char) :
    wildcardWeights (members ++ [item]) = {w | Member item ['*'] w} ∪ wildcardWeights members :=
  setOf_concat members item

/-- **One round** brings the weights of one more member in. -/
theorem greatest_weighMember {members : List (List Char)} {coding : List Char}
    {weights : Option ℕ × Option ℕ} (hstar : eqIgnoreAsciiCase ['*'] coding = false)
    (hown : Greatest (ownWeights members coding) weights.1)
    (hwildcard : Greatest (wildcardWeights members) weights.2) (item : List Char) :
    Greatest (ownWeights (members ++ [item]) coding) (weighMember coding weights item).1 ∧
      Greatest (wildcardWeights (members ++ [item])) (weighMember coding weights item).2 := by
  rw [ownWeights_concat, wildcardWeights_concat, weighMember]
  cases hparse : parseEncodingMember item with
  | none =>
    simp only [not_member_of_parse hparse, false_and, exists_false, Set.ofPred_false,
      Set.empty_union]
    exact ⟨hown, hwildcard⟩
  | some parsed =>
    obtain ⟨token, quality⟩ := parsed
    simp only [member_iff_of_parse hparse, and_assoc, exists_eq_left']
    split_ifs with hname hwild
    · have hother : token ≠ ['*'] := by
        rintro rfl
        rw [hname] at hstar
        cases hstar
      have hset : {w | quality = w ∧ eqIgnoreAsciiCase token coding = true} = {quality} := by
        ext w
        simp [hname, eq_comm]
      simp only [hother, false_and, Set.ofPred_false, Set.empty_union, hset, Set.singleton_union]
      exact ⟨hown.insert quality, hwildcard⟩
    · have hset : {w | token = ['*'] ∧ quality = w} = {quality} := by
        ext w
        simp [hwild, eq_comm]
      simp only [hname, and_false, Set.ofPred_false, Set.empty_union, hset, Set.singleton_union,
        Bool.false_eq_true]
      exact ⟨hown, hwildcard.insert quality⟩
    · simp only [hname, hwild, and_false, false_and, Set.ofPred_false, Set.empty_union,
        Bool.false_eq_true]
      exact ⟨hown, hwildcard⟩

/-- **The loop** over the members. -/
theorem greatest_foldl {coding : List Char} (hstar : eqIgnoreAsciiCase ['*'] coding = false)
    (members : List (List Char)) :
    Greatest (ownWeights members coding) (members.foldl (weighMember coding) (none, none)).1 ∧
      Greatest (wildcardWeights members) (members.foldl (weighMember coding) (none, none)).2 := by
  induction members using List.reverseRecOn with
  | nil => simp [Greatest, ownWeights, wildcardWeights]
  | append_singleton members item ih =>
    rw [List.foldl_concat]
    exact greatest_weighMember hstar ih.1 ih.2 item

theorem eqIgnoreAsciiCase_star (encoding : ContentEncoding) :
    eqIgnoreAsciiCase ['*'] encoding.name = false := by
  cases encoding <;> rfl

theorem eqIgnoreAsciiCase_identity (encoding : ContentEncoding) :
    eqIgnoreAsciiCase encoding.name identityName = decide (encoding = .identity) := by
  cases encoding <;> rfl

section Lines

variable {HeaderValue : Type} {toStr : HeaderValue → Option (List Char)}
  {lines lines' : List HeaderValue} {available : AvailableEncodings} {encoding : ContentEncoding}

theorem encodingQuality_eq (hlines : lines ≠ []) (encoding : ContentEncoding) :
    encodingQuality toStr lines encoding.name = finalWeight encoding
      ((acceptMembers toStr lines).foldl (weighMember encoding.name) (none, none)).1
      ((acceptMembers toStr lines).foldl (weighMember encoding.name) (none, none)).2 := by
  rw [encodingQuality, if_neg hlines, eqIgnoreAsciiCase_identity]
  generalize (acceptMembers toStr lines).foldl (weighMember encoding.name) (none, none) = weights
  obtain ⟨specific, wildcard⟩ := weights
  cases specific with
  | some quality => rfl
  | none => simp only [finalWeight, decide_eq_true_eq]

/-- **The loops over lines and members** compute the weight, if there is a line. -/
theorem weighs_encodingQuality (hlines : lines ≠ []) (encoding : ContentEncoding) :
    Weighs (acceptMembers toStr lines) encoding (encodingQuality toStr lines encoding.name) := by
  rw [encodingQuality_eq hlines]
  obtain ⟨hown, hwildcard⟩ :=
    greatest_foldl (eqIgnoreAsciiCase_star encoding) (acceptMembers toStr lines)
  exact weighs_finalWeight hown hwildcard

theorem Weighs.unique {members : List (List Char)} {v w : ℕ} (hv : Weighs members encoding v)
    (hw : Weighs members encoding w) : v = w := by
  obtain ⟨hown, hwildcard⟩ := greatest_foldl (eqIgnoreAsciiCase_star encoding) members
  rw [hv.eq_finalWeight hown hwildcard, hw.eq_finalWeight hown hwildcard]

/-! ### What is selected -/

/-- There is such a representation. -/
def AvailableEncodings.Offers (available : AvailableEncodings) : ContentEncoding → Prop
  | .brotli => available.brotli = true
  | .gzip => available.gzip = true
  | .identity => True

/-- Some member is well formed. -/
def SomeMember (members : List (List Char)) : Prop := ∃ item ∈ members, ∃ name w, Member item name w

/-- An encoding that there is, of maximal weight, and the first of these in the order of the
server. -/
structure Best (members : List (List Char)) (available : AvailableEncodings)
    (encoding : ContentEncoding) : Prop where
  offers : available.Offers encoding
  maximal : ∃ w, Weighs members encoding w ∧ 0 < w ∧ ∀ other, available.Offers other →
    ∀ v, Weighs members other v →
      v < w ∨ v = w ∧ serverPreference other ≤ serverPreference encoding

theorem mem_candidates {w : ℕ} : (w, encoding) ∈ candidates toStr lines available ↔
    available.Offers encoding ∧ encodingQuality toStr lines encoding.name = w ∧ 0 < w := by
  rw [candidates]
  cases encoding <;>
    simp [AvailableEncodings.Offers, ContentEncoding.name, and_comm, and_assoc, and_left_comm]

theorem any_isSome_eq_false {members : List (List Char)} :
    members.any (fun item => (parseEncodingMember item).isSome) = false ↔ ¬SomeMember members := by
  rw [List.any_eq_false, SomeMember]
  constructor
  · rintro h ⟨item, hitem, name, w, hmember⟩
    exact h item hitem (Option.isSome_of_mem (parseEncodingMember_eq_some.mpr hmember))
  · intro h item hitem hsome
    obtain ⟨⟨name, w⟩, hparse⟩ := Option.isSome_iff_exists.mp hsome
    exact h ⟨item, hitem, name, w, parseEncodingMember_eq_some.mp hparse⟩

/-- Without lines the identity weighs everything and no other encoding weighs anything. -/
theorem weighs_nil (encoding : ContentEncoding) :
    Weighs [] encoding (if encoding = .identity then 1000 else 0) := by
  obtain ⟨hown, hwildcard⟩ := greatest_foldl (eqIgnoreAsciiCase_star encoding) []
  exact weighs_finalWeight hown hwildcard

/-- If there is a line with a member, the candidates decide. -/
theorem selectContentEncoding_of_member (hlines : lines ≠ [])
    (hmember : SomeMember (acceptMembers toStr lines)) :
    selectContentEncoding toStr lines available = ((candidates toStr lines available).argmax
      fun entry => toLex (entry.1, serverPreference entry.2)).map Prod.snd := by
  have hany := any_isSome_eq_false.not.mpr (not_not.mpr hmember)
  rw [selectContentEncoding, if_neg hlines, if_neg hany]

/-- **Nothing is selected** if there is a line but no well-formed member, or if every representation
weighs nothing. -/
theorem selectContentEncoding_eq_none : selectContentEncoding toStr lines available = none ↔
    lines ≠ [] ∧ ¬SomeMember (acceptMembers toStr lines) ∨
      ∀ encoding, available.Offers encoding → Weighs (acceptMembers toStr lines) encoding 0 := by
  by_cases hlines : lines = []
  · subst hlines
    refine iff_of_false nofun (not_or.mpr ⟨fun h => h.1 rfl, fun h => ?_⟩)
    exact absurd ((h .identity trivial).unique (weighs_nil .identity)) (by decide)
  by_cases hmember : SomeMember (acceptMembers toStr lines)
  · rw [selectContentEncoding_of_member hlines hmember, Option.map_eq_none_iff, List.argmax_eq_none,
      or_iff_right fun h => h.2 hmember]
    constructor
    · intro hnil encoding hoffers
      have hweighs : Weighs (acceptMembers toStr lines) encoding
          (encodingQuality toStr lines encoding.name) := weighs_encodingQuality hlines encoding
      rcases Nat.eq_zero_or_pos (encodingQuality toStr lines encoding.name) with hzero | hpos
      · rwa [hzero] at hweighs
      · have hmem := mem_candidates.mpr ⟨hoffers, rfl, hpos⟩
        rw [hnil] at hmem
        cases hmem
    · intro h
      refine List.eq_nil_iff_forall_not_mem.mpr fun entry hentry => ?_
      obtain ⟨hoffers, hquality, hpos⟩ := mem_candidates.mp hentry
      have hzero := (h entry.2 hoffers).unique (weighs_encodingQuality hlines entry.2)
      omega
  · refine iff_of_true ?_ (.inl ⟨hlines, hmember⟩)
    rw [selectContentEncoding, if_neg hlines, if_pos (any_isSome_eq_false.mpr hmember)]

/-- **What is selected is best.** -/
theorem best_of_select (h : selectContentEncoding toStr lines available = some encoding) :
    Best (acceptMembers toStr lines) available encoding := by
  by_cases hlines : lines = []
  · subst hlines
    cases h
    refine ⟨trivial, 1000, weighs_nil .identity, by omega, fun other _ v hv => ?_⟩
    rw [hv.unique (weighs_nil other)]
    split_ifs with hidentity
    · exact .inr ⟨rfl, by rw [hidentity]⟩
    · exact .inl (by omega)
  have hmember : SomeMember (acceptMembers toStr lines) := by
    by_contra hnone
    rw [selectContentEncoding_eq_none.mpr (.inl ⟨hlines, hnone⟩)] at h
    cases h
  rw [selectContentEncoding_of_member hlines hmember] at h
  obtain ⟨⟨w, selected⟩, hmax, rfl⟩ := Option.map_eq_some_iff.mp h
  obtain ⟨hoffers, rfl, hpos⟩ := mem_candidates.mp (List.argmax_mem hmax)
  refine ⟨hoffers, _, weighs_encodingQuality hlines selected, hpos, fun other hother v hv => ?_⟩
  obtain rfl := hv.unique (weighs_encodingQuality hlines other)
  rcases Nat.eq_zero_or_pos (encodingQuality toStr lines other.name) with hzero | hotherPos
  · exact .inl (by omega)
  · have hle := List.le_of_mem_argmax (mem_candidates.mpr ⟨hother, rfl, hotherPos⟩) hmax
    rwa [Prod.Lex.toLex_le_toLex] at hle

/-- There is one best encoding at most. -/
theorem Best.unique {members : List (List Char)} {other : ContentEncoding}
    (h : Best members available encoding) (h' : Best members available other) :
    encoding = other := by
  obtain ⟨w, hw, -, hmax⟩ := h.maximal
  obtain ⟨v, hv, -, hmax'⟩ := h'.maximal
  have hle := hmax other h'.offers v hv
  have hle' := hmax' encoding h.offers w hw
  have hpreference : serverPreference encoding = serverPreference other := by omega
  cases encoding <;> cases other <;> first | rfl | cases hpreference

/-! ### What does not matter -/

/-- The same members, up to order, blanks around them and repetitions. -/
def SameMembers (members members' : List (List Char)) : Prop :=
  ∀ item, item ∈ members.map trim ↔ item ∈ members'.map trim

theorem exists_member_congr {members members' : List (List Char)} (h : SameMembers members members')
    {name : List Char} {w : ℕ} : (∃ item ∈ members, Member item name w) ↔
      ∃ item ∈ members', Member item name w := by
  have htrim (members : List (List Char)) : (∃ item ∈ members, Member item name w) ↔
      ∃ item ∈ members.map trim, Member item name w := by
    simp [member_trim]
  rw [htrim, htrim members']
  exact exists_congr fun item => and_congr_left fun _ => h item

theorem weighs_congr {members members' : List (List Char)} (h : SameMembers members members')
    {w : ℕ} : Weighs members encoding w ↔ Weighs members' encoding w := by
  have hown : ownWeights members encoding.name = ownWeights members' encoding.name := by
    ext v
    have hcomm (members : List (List Char)) : v ∈ ownWeights members encoding.name ↔
        ∃ name, (∃ item ∈ members, Member item name v) ∧
          eqIgnoreAsciiCase name encoding.name = true := by
      constructor
      · rintro ⟨item, hitem, name, hmember, hname⟩
        exact ⟨name, ⟨item, hitem, hmember⟩, hname⟩
      · rintro ⟨name, ⟨item, hitem, hmember⟩, hname⟩
        exact ⟨item, hitem, name, hmember, hname⟩
    rw [hcomm, hcomm members']
    simp only [exists_member_congr h]
  have hwildcard : wildcardWeights members = wildcardWeights members' :=
    Set.ext fun v => exists_member_congr h
  obtain ⟨hgreatest, hgreatest'⟩ := greatest_foldl (eqIgnoreAsciiCase_star encoding) members
  rw [weighs_iff hgreatest hgreatest', weighs_iff (hown ▸ hgreatest) (hwildcard ▸ hgreatest')]

theorem someMember_congr {members members' : List (List Char)} (h : SameMembers members members') :
    SomeMember members ↔ SomeMember members' := by
  have hcomm (members : List (List Char)) :
      SomeMember members ↔ ∃ name w, ∃ item ∈ members, Member item name w := by
    constructor
    · rintro ⟨item, hitem, name, w, hmember⟩
      exact ⟨name, w, item, hitem, hmember⟩
    · rintro ⟨name, w, item, hitem, hmember⟩
      exact ⟨item, hitem, name, w, hmember⟩
  rw [hcomm, hcomm members']
  simp only [exists_member_congr h]

/-- **Neither the order of the members nor the lines matter.** -/
theorem selectContentEncoding_congr (hlines : lines = [] ↔ lines' = [])
    (h : SameMembers (acceptMembers toStr lines) (acceptMembers toStr lines')) :
    selectContentEncoding toStr lines available = selectContentEncoding toStr lines' available := by
  have hnone : selectContentEncoding toStr lines available = none ↔
      selectContentEncoding toStr lines' available = none := by
    rw [selectContentEncoding_eq_none, selectContentEncoding_eq_none, someMember_congr h, ne_eq,
      hlines]
    simp only [weighs_congr h]
  cases hselect : selectContentEncoding toStr lines available with
  | none => exact (hnone.mp hselect).symm
  | some encoding =>
    have hsome : selectContentEncoding toStr lines' available ≠ none := by
      intro hnil
      rw [hnone.mpr hnil] at hselect
      cases hselect
    obtain ⟨other, hother⟩ := Option.ne_none_iff_exists'.mp hsome
    obtain ⟨hoffers, w, hw, hpos, hmax⟩ := best_of_select hselect
    have hbest : Best (acceptMembers toStr lines') available encoding :=
      ⟨hoffers, w, (weighs_congr h).mp hw, hpos, fun other hother v hv =>
        hmax other hother v ((weighs_congr h).mpr hv)⟩
    rw [hother, hbest.unique (best_of_select hother)]

end Lines

end Termd.Web
