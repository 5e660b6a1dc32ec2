import Termd.Library.Utf8Lossy

/-!
# Text in bytes

A text is a list of characters, and its length is that of its encoding. A number of bytes is a
character boundary if a byte that continues no character is at that place, or nothing. These are the
lengths of the beginnings of the text.

## Main definitions

* `encodeText`, `textLen`: the encoding of a text and its length in bytes
* `isCharBoundary`: the test of the byte
* `takeBytes n text`: the longest beginning with at most `n` bytes
* `getFrom n text`, `getUpTo n text`: the text from byte `n` on and up to it, if this is a boundary

## Main results

* `isCharBoundary_iff`: the boundaries are the lengths of the beginnings
* `takeBytes_maximal`: every beginning with at most `n` bytes is a beginning of `takeBytes n text`
* `getFrom_eq_some_iff`: what is left is what follows a beginning of this length
* `fromUtf8Lossy_encodeText`: nothing is replaced in an encoded text
-/

namespace Termd

variable {text front back : List Char} {c : Char} {n : ℕ}

def encodeText (text : List Char) : List UInt8 := text.flatMap encodeUtf8

/-- The length in bytes. -/
def textLen (text : List Char) : ℕ := (encodeText text).length

/-- `str::is_char_boundary` -/
def isCharBoundary (text : List Char) (n : ℕ) : Bool :=
  if n = 0 then true
  else match (encodeText text)[n]? with
    | some byte => !isContinuation byte
    | none => n = textLen text

/-- The longest beginning with at most `n` bytes. -/
def takeBytes (n : ℕ) : List Char → List Char
  | [] => []
  | c :: text =>
    if (encodeUtf8 c).length ≤ n then c :: takeBytes (n - (encodeUtf8 c).length) text else []

/-- `str::get(n..)` -/
def getFrom (n : ℕ) (text : List Char) : Option (List Char) :=
  if isCharBoundary text n then some (text.drop (takeBytes n text).length) else none

/-- `str::get(..n)` -/
def getUpTo (n : ℕ) (text : List Char) : Option (List Char) :=
  if isCharBoundary text n then some (takeBytes n text) else none

@[simp] theorem encodeText_nil : encodeText [] = [] := rfl

@[simp] theorem encodeText_cons (c : Char) (text : List Char) :
    encodeText (c :: text) = encodeUtf8 c ++ encodeText text := rfl

@[simp] theorem encodeText_append (front back : List Char) :
    encodeText (front ++ back) = encodeText front ++ encodeText back := List.flatMap_append

@[simp] theorem textLen_nil : textLen [] = 0 := rfl

@[simp] theorem textLen_cons (c : Char) (text : List Char) :
    textLen (c :: text) = (encodeUtf8 c).length + textLen text := by
  simp [textLen]

@[simp] theorem textLen_append (front back : List Char) :
    textLen (front ++ back) = textLen front + textLen back := by
  simp [textLen]

theorem length_encodeUtf8_pos (c : Char) : 0 < (encodeUtf8 c).length := by
  obtain ⟨byte, rest, h⟩ := exists_cons_encodeUtf8 c
  simp [h]

/-- Every byte behind the first continues the character. -/
theorem isContinuation_of_mem_tail {byte : UInt8} (h : byte ∈ (encodeUtf8 c).tail) :
    isContinuation byte = true := by
  simp only [encodeUtf8] at h
  split_ifs at h <;>
    simp only [List.tail_cons, List.mem_cons, List.not_mem_nil, or_false] at h
  · subst h
    exact isContinuation_ofNat _
  · obtain rfl | rfl := h <;> exact isContinuation_ofNat _
  · obtain rfl | rfl | rfl := h <;> exact isContinuation_ofNat _

/-- Within a character there is no boundary. -/
theorem isCharBoundary_cons_of_lt (hpos : 0 < n) (hlt : n < (encodeUtf8 c).length) :
    isCharBoundary (c :: text) n = false := by
  obtain ⟨first, rest, hencode⟩ := exists_cons_encodeUtf8 c
  obtain ⟨i, rfl⟩ := Nat.exists_eq_succ_of_ne_zero hpos.ne'
  rw [hencode, List.length_cons, Nat.succ_lt_succ_iff] at hlt
  have hbyte : (encodeText (c :: text))[i + 1]? = some rest[i] := by
    rw [encodeText_cons, hencode, List.cons_append, List.getElem?_cons_succ,
      List.getElem?_append_left hlt, List.getElem?_eq_getElem hlt]
  have hmem : rest[i] ∈ (encodeUtf8 c).tail := by
    rw [hencode]
    exact List.getElem_mem hlt
  rw [isCharBoundary, if_neg (Nat.succ_ne_zero i), hbyte]
  simp [isContinuation_of_mem_tail hmem]

/-- Behind a character the boundaries are those of the rest. -/
theorem isCharBoundary_cons_add (c : Char) (text : List Char) (n : ℕ) :
    isCharBoundary (c :: text) ((encodeUtf8 c).length + n) = isCharBoundary text n := by
  have hpos := length_encodeUtf8_pos c
  have hbyte : (encodeText (c :: text))[(encodeUtf8 c).length + n]? = (encodeText text)[n]? := by
    rw [encodeText_cons, List.getElem?_append_right (by omega), Nat.add_sub_cancel_left]
  rw [isCharBoundary, if_neg (by omega), hbyte, isCharBoundary]
  by_cases hn : n = 0
  · subst hn
    rw [if_pos rfl]
    cases text with
    | nil => simp
    | cons d text =>
      obtain ⟨first, rest, hencode⟩ := exists_cons_encodeUtf8 d
      have hfirst := not_isContinuation_of_encodeUtf8 hencode
      simp [hencode, hfirst]
  · rw [if_neg hn]
    cases (encodeText text)[n]? with
    | some byte => rfl
    | none => simp

/-- **The boundaries** are the lengths of the beginnings. -/
theorem isCharBoundary_iff :
    isCharBoundary text n ↔ ∃ front, front <+: text ∧ textLen front = n := by
  induction text generalizing n with
  | nil =>
    have hlen : (∃ front : List Char, front <+: [] ∧ textLen front = n) ↔ n = 0 := by
      simp [eq_comm]
    rw [hlen]
    by_cases hn : n = 0 <;> simp [isCharBoundary, hn]
  | cons c text ih =>
    constructor
    · intro h
      by_cases hn : n = 0
      · exact ⟨[], List.nil_prefix, hn.symm⟩
      · have hle : (encodeUtf8 c).length ≤ n := by
          by_contra hlt
          rw [isCharBoundary_cons_of_lt (by omega) (by omega)] at h
          cases h
        obtain ⟨m, rfl⟩ := Nat.exists_eq_add_of_le hle
        rw [isCharBoundary_cons_add] at h
        obtain ⟨front, hfront, rfl⟩ := ih.mp h
        exact ⟨c :: front, List.cons_prefix_cons.mpr ⟨rfl, hfront⟩, textLen_cons c front⟩
    · rintro ⟨front, hfront, rfl⟩
      cases front with
      | nil => rfl
      | cons d front =>
        obtain ⟨rfl, hrest⟩ := List.cons_prefix_cons.mp hfront
        rw [textLen_cons, isCharBoundary_cons_add]
        exact ih.mpr ⟨front, hrest, rfl⟩

theorem takeBytes_prefix (n : ℕ) (text : List Char) : takeBytes n text <+: text := by
  induction text generalizing n with
  | nil => exact List.prefix_rfl
  | cons c text ih =>
    rw [takeBytes]
    split_ifs
    · exact List.cons_prefix_cons.mpr ⟨rfl, ih _⟩
    · exact List.nil_prefix

theorem textLen_takeBytes_le (n : ℕ) (text : List Char) : textLen (takeBytes n text) ≤ n := by
  induction text generalizing n with
  | nil => exact Nat.zero_le n
  | cons c text ih =>
    rw [takeBytes]
    split_ifs with hfits
    · have hrest := ih (n - (encodeUtf8 c).length)
      rw [textLen_cons]
      omega
    · exact Nat.zero_le n

/-- Every beginning with at most `n` bytes is a beginning of this one. -/
theorem takeBytes_maximal (hfront : front <+: text) (hlen : textLen front ≤ n) :
    front <+: takeBytes n text := by
  induction text generalizing n front with
  | nil => exact hfront
  | cons c text ih =>
    cases front with
    | nil => exact List.nil_prefix
    | cons d front =>
      obtain ⟨rfl, hrest⟩ := List.cons_prefix_cons.mp hfront
      rw [textLen_cons] at hlen
      rw [takeBytes, if_pos (by omega)]
      exact List.cons_prefix_cons.mpr ⟨rfl, ih hrest (by omega)⟩

theorem eq_nil_of_textLen_eq_zero (h : textLen text = 0) : text = [] := by
  cases text with
  | nil => rfl
  | cons c text =>
    have hpos := length_encodeUtf8_pos c
    rw [textLen_cons] at h
    omega

theorem takeBytes_append (front back : List Char) :
    takeBytes (textLen front) (front ++ back) = front := by
  obtain ⟨more, hmore⟩ := takeBytes_maximal (List.prefix_append front back) le_rfl
  have hlen := textLen_takeBytes_le (textLen front) (front ++ back)
  rw [← hmore, textLen_append] at hlen
  have hnil : more = [] := eq_nil_of_textLen_eq_zero (by omega)
  rw [← hmore, hnil, List.append_nil]

theorem isCharBoundary_append (front back : List Char) :
    isCharBoundary (front ++ back) (textLen front) = true :=
  isCharBoundary_iff.mpr ⟨front, List.prefix_append .., rfl⟩

/-- What follows a beginning of this length. -/
theorem getFrom_eq_some_iff :
    getFrom n text = some back ↔ ∃ front, text = front ++ back ∧ textLen front = n := by
  rw [getFrom]
  constructor
  · intro h
    split_ifs at h with hboundary
    obtain ⟨front, ⟨rest, rfl⟩, rfl⟩ := isCharBoundary_iff.mp hboundary
    rw [takeBytes_append, List.drop_left] at h
    obtain rfl := Option.some.inj h
    exact ⟨front, rfl, rfl⟩
  · rintro ⟨front, rfl, rfl⟩
    rw [if_pos (isCharBoundary_append front back), takeBytes_append, List.drop_left]

theorem getFrom_append (front back : List Char) :
    getFrom (textLen front) (front ++ back) = some back :=
  getFrom_eq_some_iff.mpr ⟨front, rfl, rfl⟩

theorem getUpTo_append (front back : List Char) :
    getUpTo (textLen front) (front ++ back) = some front := by
  rw [getUpTo, if_pos (isCharBoundary_append front back), takeBytes_append]

/-- Nothing is replaced in an encoded text. -/
theorem fromUtf8Lossy_encodeText (text : List Char) :
    fromUtf8Lossy (encodeText text) = text.map .character := by
  induction text with
  | nil => rfl
  | cons c text ih =>
    rw [fromUtf8Lossy] at ih ⊢
    rw [encodeText_cons, lossyFrom_encodeUtf8, ih, List.map_cons]

end Termd
