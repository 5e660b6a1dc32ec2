import Mathlib.Data.List.DropRight

/-!
# Blanks

A text without the blanks of Unicode at its ends.

## Main definitions

* `isWhitespace`, `trim`

## Main results

* `trim_iff`: what blanks at the ends do not change can be asked of the trimmed text
* `trim_padded`: blanks around a text that has none at its ends
-/

namespace Termd

/-- `char::is_whitespace` -/
def isWhitespace (c : Char) : Bool :=
  let n := c.toNat
  9 ≤ n && n ≤ 13 || n = 0x20 || n = 0x85 || n = 0xa0 || n = 0x1680 ||
    0x2000 ≤ n && n ≤ 0x200a || n = 0x2028 || n = 0x2029 || n = 0x202f || n = 0x205f || n = 0x3000

/-- `str::trim` -/
def trim (text : List Char) : List Char :=
  (text.dropWhile isWhitespace).rdropWhile isWhitespace

variable {c : Char} {text left right : List Char}

theorem trim_cons (h : isWhitespace c = true) (text : List Char) :
    trim (c :: text) = trim text := by
  rw [trim, List.dropWhile_cons_of_pos h, trim]

theorem trim_concat (h : isWhitespace c = true) (text : List Char) :
    trim (text ++ [c]) = trim text := by
  rw [trim, trim, List.dropWhile_append]
  split_ifs with hblank
  · rw [List.isEmpty_iff] at hblank
    rw [hblank, List.dropWhile_cons_of_pos h, List.dropWhile_nil]
  · rw [List.rdropWhile_concat_pos _ _ _ h]

/-- **A property that a blank at either end does not change** holds of a text if and only if it
holds of the text without them. -/
theorem trim_iff {P : List Char → Prop}
    (hcons : ∀ c text, isWhitespace c = true → (P (c :: text) ↔ P text))
    (hconcat : ∀ c text, isWhitespace c = true → (P (text ++ [c]) ↔ P text)) (text : List Char) :
    P (trim text) ↔ P text := by
  have hright (text : List Char) : P (text.rdropWhile isWhitespace) ↔ P text := by
    induction text using List.reverseRecOn with
    | nil => exact Iff.rfl
    | append_singleton text c ih =>
      rw [List.rdropWhile_concat]
      split_ifs with hc
      · exact ih.trans (hconcat c text hc).symm
      · exact Iff.rfl
  rw [trim, hright]
  induction text with
  | nil => exact Iff.rfl
  | cons c text ih =>
    rw [List.dropWhile_cons]
    split_ifs with hc
    · exact ih.trans (hcons c text hc).symm
    · exact Iff.rfl

/-- Only blanks are taken off. -/
theorem mem_trim (h : isWhitespace c = false) : c ∈ trim text ↔ c ∈ text := by
  refine trim_iff (P := fun text => c ∈ text) (fun d text hd => ?_) (fun d text hd => ?_) text
  · have hne : c ≠ d := by
      rintro rfl
      exact absurd hd (by simp [h])
    simp [hne]
  · have hne : c ≠ d := by
      rintro rfl
      exact absurd hd (by simp [h])
    simp [hne]

theorem trim_nil : trim [] = [] := rfl

/-- A text without blanks at its ends is not changed. -/
theorem trim_eq_self (hhead : ∀ c ∈ text.head?, isWhitespace c = false)
    (hlast : ∀ c ∈ text.getLast?, isWhitespace c = false) : trim text = text := by
  have hleft : text.dropWhile isWhitespace = text := by
    cases text with
    | nil => rfl
    | cons c text =>
      rw [List.dropWhile_cons_of_neg]
      simp [hhead c rfl]
  rw [trim, hleft, List.rdropWhile_eq_self_iff]
  intro hne
  simp [hlast _ (List.getLast?_eq_some_getLast hne)]

/-- **Blanks around a text** are taken off again. -/
theorem trim_padded (hleft : ∀ c ∈ left, isWhitespace c = true)
    (hright : ∀ c ∈ right, isWhitespace c = true) : trim (left ++ text ++ right) = trim text := by
  have hfront (rest : List Char) : trim (left ++ rest) = trim rest := by
    induction left with
    | nil => rfl
    | cons c left ih =>
      rw [List.forall_mem_cons] at hleft
      rw [List.cons_append, trim_cons hleft.1, ih hleft.2]
  rw [List.append_assoc, hfront]
  induction right using List.reverseRecOn with
  | nil => rw [List.append_nil]
  | append_singleton right c ih =>
    have hc := hright c (by simp)
    rw [← List.append_assoc, trim_concat hc]
    exact ih fun d hd => hright d (List.mem_append_left _ hd)

end Termd
