import Mathlib.Data.Finset.Basic
import Termd.Library.Decimal

/-!
# Cell styles and SGR

A style is a set of flags and two colours. It is written as the parameters of one SGR sequence and
read back by `applySgr`, which walks over the parameters; an extended colour takes several of them.
A style written without a leading reset is laid over the style that is active when it is read.

## Main definitions

* `SgrColor`, `CellStyle`: the colours and styles of the screen cache
* `CellStyle.applySgr`, `CellStyle.sgrCodes`: the reader and the writer
* `CellStyle.overlay`: what a style becomes when it is laid over another

## Main results

* `CellStyle.applySgrFrom_sgrCodes`: reading back what was written gives the overlay
-/

namespace Termd.Screen

/-- The codes of the basic colours: `30..=37 | 90..=97`, and ten more for the background. -/
def isBasicCode (background : Bool) (code : ℕ) : Bool :=
  if background then (40 ≤ code && code ≤ 47) || (100 ≤ code && code ≤ 107)
  else (30 ≤ code && code ≤ 37) || (90 ≤ code && code ≤ 97)

/-- A colour of the foreground or of the background. A basic colour is stored as its SGR code,
and only a code of the right layer can be stored. -/
inductive SgrColor (background : Bool)
  | basic (code : { n : ℕ // isBasicCode background n = true })
  | indexed (index : UInt8)
  | rgb (red green blue : UInt8)
deriving DecidableEq

structure CellStyle where
  bold : Bool := false
  faint : Bool := false
  italic : Bool := false
  underline : Bool := false
  blink : Bool := false
  inverse : Bool := false
  hidden : Bool := false
  strike : Bool := false
  foreground : Option (SgrColor false) := none
  background : Option (SgrColor true) := none
deriving DecidableEq

/-- `u8::try_from` -/
def tryU8 (value : ℕ) : Option UInt8 := if value < 256 then some (UInt8.ofNat value) else none

/-- `parse_extended_color`, with the number of parameters it takes. -/
def parseExtendedColor (background : Bool) : List ℕ → Option (SgrColor background × ℕ)
  | 5 :: index :: _ => (tryU8 index).map fun index => (.indexed index, 2)
  | 2 :: red :: green :: blue :: _ => do
    let red ← tryU8 red
    let green ← tryU8 green
    let blue ← tryU8 blue
    return (.rgb red green blue, 4)
  | _ => none

/-- `sgr_codes` -/
def SgrColor.sgrCodes {background : Bool} : SgrColor background → List ℕ
  | .basic code => [code]
  | .indexed index => [if background then 48 else 38, 5, index.toNat]
  | .rgb red green blue =>
    [if background then 48 else 38, 2, red.toNat, green.toNat, blue.toNat]

namespace CellStyle

def isDefault (style : CellStyle) : Bool := style = {}

/-- A single parameter other than `38` and `48`. The codes of the basic colours are none of the
numbers that follow. -/
def applySgrValue (style : CellStyle) (value : ℕ) : CellStyle :=
  if h : isBasicCode false value = true then { style with foreground := some (.basic ⟨value, h⟩) }
  else if h : isBasicCode true value = true then
    { style with background := some (.basic ⟨value, h⟩) }
  else match value with
  | 0 => {}
  | 1 => { style with bold := true }
  | 2 => { style with faint := true }
  | 3 => { style with italic := true }
  | 4 => { style with underline := true }
  | 5 => { style with blink := true }
  | 7 => { style with inverse := true }
  | 8 => { style with hidden := true }
  | 9 => { style with strike := true }
  | 22 => { style with bold := false, faint := false }
  | 23 => { style with italic := false }
  | 24 => { style with underline := false }
  | 25 => { style with blink := false }
  | 27 => { style with inverse := false }
  | 28 => { style with hidden := false }
  | 29 => { style with strike := false }
  | 39 => { style with foreground := none }
  | 49 => { style with background := none }
  | _ => style

/-- The loop of `apply_sgr`; `skip` parameters belong to a colour that was already read. -/
def applySgrFrom (style : CellStyle) (skip : ℕ) : List ℕ → CellStyle
  | [] => style
  | value :: rest =>
    match skip with
    | skip + 1 => applySgrFrom style skip rest
    | 0 =>
      if value = 38 then
        match parseExtendedColor false rest with
        | some (color, consumed) => applySgrFrom { style with foreground := some color } consumed rest
        | none => applySgrFrom style 0 rest
      else if value = 48 then
        match parseExtendedColor true rest with
        | some (color, consumed) => applySgrFrom { style with background := some color } consumed rest
        | none => applySgrFrom style 0 rest
      else applySgrFrom (style.applySgrValue value) 0 rest

/-- `apply_sgr`: a missing parameter is zero, and no parameters are one zero. -/
def applySgr (style : CellStyle) (params : List (Option ℕ)) : CellStyle :=
  if params.isEmpty then style.applySgrFrom 0 [0]
  else style.applySgrFrom 0 (params.map fun value => value.getD 0)

/-- The parameters of `sgr_bytes` for a style that is not the default. -/
def sgrCodes (style : CellStyle) (resetFirst : Bool) : List ℕ :=
  (if resetFirst then [0] else []) ++ (if style.bold then [1] else []) ++
  (if style.faint then [2] else []) ++ (if style.italic then [3] else []) ++
  (if style.underline then [4] else []) ++ (if style.blink then [5] else []) ++
  (if style.inverse then [7] else []) ++ (if style.hidden then [8] else []) ++
  (if style.strike then [9] else []) ++
  (match style.foreground with | some color => color.sgrCodes | none => []) ++
  (match style.background with | some color => color.sgrCodes | none => [])

/-- The style that results when `style` is written over `pen` without a reset. -/
def overlay (pen style : CellStyle) : CellStyle where
  bold := pen.bold || style.bold
  faint := pen.faint || style.faint
  italic := pen.italic || style.italic
  underline := pen.underline || style.underline
  blink := pen.blink || style.blink
  inverse := pen.inverse || style.inverse
  hidden := pen.hidden || style.hidden
  strike := pen.strike || style.strike
  foreground := style.foreground.or pen.foreground
  background := style.background.or pen.background

@[simp] theorem overlay_default (style : CellStyle) : overlay {} style = style := by
  cases style
  simp [overlay]

theorem applySgrFrom_value (pen : CellStyle) {value : ℕ} (rest : List ℕ) (h : value ≠ 38)
    (h' : value ≠ 48) :
    pen.applySgrFrom 0 (value :: rest) = (pen.applySgrValue value).applySgrFrom 0 rest := by
  rw [applySgrFrom, if_neg h, if_neg h']

/-- A flag is written as one parameter, or not at all. -/
theorem applySgrFrom_flag {pen : CellStyle} {value : ℕ} (set : Bool → CellStyle) (flag : Bool)
    (rest : List ℕ) (h : value ≠ 38) (h' : value ≠ 48) (hon : pen.applySgrValue value = set true)
    (hoff : pen = set false) :
    pen.applySgrFrom 0 ((if flag then [value] else []) ++ rest) =
      (set flag).applySgrFrom 0 rest := by
  cases flag with
  | false => rw [← hoff]; rfl
  | true => rw [← hon]; exact applySgrFrom_value pen rest h h'

theorem applySgrFrom_bold (pen : CellStyle) (flag : Bool) (rest : List ℕ) :
    pen.applySgrFrom 0 ((if flag then [1] else []) ++ rest) =
      ({ pen with bold := pen.bold || flag } : CellStyle).applySgrFrom 0 rest :=
  applySgrFrom_flag (fun flag => { pen with bold := pen.bold || flag }) flag rest (by decide)
    (by decide) (by rw [Bool.or_true]; rfl) (by rw [Bool.or_false])

theorem applySgrFrom_faint (pen : CellStyle) (flag : Bool) (rest : List ℕ) :
    pen.applySgrFrom 0 ((if flag then [2] else []) ++ rest) =
      ({ pen with faint := pen.faint || flag } : CellStyle).applySgrFrom 0 rest :=
  applySgrFrom_flag (fun flag => { pen with faint := pen.faint || flag }) flag rest (by decide)
    (by decide) (by rw [Bool.or_true]; rfl) (by rw [Bool.or_false])

theorem applySgrFrom_italic (pen : CellStyle) (flag : Bool) (rest : List ℕ) :
    pen.applySgrFrom 0 ((if flag then [3] else []) ++ rest) =
      ({ pen with italic := pen.italic || flag } : CellStyle).applySgrFrom 0 rest :=
  applySgrFrom_flag (fun flag => { pen with italic := pen.italic || flag }) flag rest (by decide)
    (by decide) (by rw [Bool.or_true]; rfl) (by rw [Bool.or_false])

theorem applySgrFrom_underline (pen : CellStyle) (flag : Bool) (rest : List ℕ) :
    pen.applySgrFrom 0 ((if flag then [4] else []) ++ rest) =
      ({ pen with underline := pen.underline || flag } : CellStyle).applySgrFrom 0 rest :=
  applySgrFrom_flag (fun flag => { pen with underline := pen.underline || flag }) flag rest (by decide)
    (by decide) (by rw [Bool.or_true]; rfl) (by rw [Bool.or_false])

theorem applySgrFrom_blink (pen : CellStyle) (flag : Bool) (rest : List ℕ) :
    pen.applySgrFrom 0 ((if flag then [5] else []) ++ rest) =
      ({ pen with blink := pen.blink || flag } : CellStyle).applySgrFrom 0 rest :=
  applySgrFrom_flag (fun flag => { pen with blink := pen.blink || flag }) flag rest (by decide)
    (by decide) (by rw [Bool.or_true]; rfl) (by rw [Bool.or_false])

theorem applySgrFrom_inverse (pen : CellStyle) (flag : Bool) (rest : List ℕ) :
    pen.applySgrFrom 0 ((if flag then [7] else []) ++ rest) =
      ({ pen with inverse := pen.inverse || flag } : CellStyle).applySgrFrom 0 rest :=
  applySgrFrom_flag (fun flag => { pen with inverse := pen.inverse || flag }) flag rest (by decide)
    (by decide) (by rw [Bool.or_true]; rfl) (by rw [Bool.or_false])

theorem applySgrFrom_hidden (pen : CellStyle) (flag : Bool) (rest : List ℕ) :
    pen.applySgrFrom 0 ((if flag then [8] else []) ++ rest) =
      ({ pen with hidden := pen.hidden || flag } : CellStyle).applySgrFrom 0 rest :=
  applySgrFrom_flag (fun flag => { pen with hidden := pen.hidden || flag }) flag rest (by decide)
    (by decide) (by rw [Bool.or_true]; rfl) (by rw [Bool.or_false])

theorem applySgrFrom_strike (pen : CellStyle) (flag : Bool) (rest : List ℕ) :
    pen.applySgrFrom 0 ((if flag then [9] else []) ++ rest) =
      ({ pen with strike := pen.strike || flag } : CellStyle).applySgrFrom 0 rest :=
  applySgrFrom_flag (fun flag => { pen with strike := pen.strike || flag }) flag rest (by decide)
    (by decide) (by rw [Bool.or_true]; rfl) (by rw [Bool.or_false])

theorem tryU8_toNat (byte : UInt8) : tryU8 byte.toNat = some byte := by
  rw [tryU8, if_pos byte.toNat_lt, UInt8.ofNat_toNat]

theorem applySgrFrom_foreground (pen : CellStyle) (color : SgrColor false) (rest : List ℕ) :
    pen.applySgrFrom 0 (color.sgrCodes ++ rest) =
      ({ pen with foreground := some color } : CellStyle).applySgrFrom 0 rest := by
  cases color with
  | basic code =>
    obtain ⟨code, h⟩ := code
    have hc : 30 ≤ code ∧ code ≤ 37 ∨ 90 ≤ code ∧ code ≤ 97 := by simpa [isBasicCode] using h
    have h38 : code ≠ 38 := by omega
    have h48 : code ≠ 48 := by omega
    refine (applySgrFrom_value pen rest h38 h48).trans ?_
    rw [applySgrValue, dif_pos h]
  | indexed index => simp [SgrColor.sgrCodes, applySgrFrom, parseExtendedColor, tryU8_toNat]
  | rgb red green blue => simp [SgrColor.sgrCodes, applySgrFrom, parseExtendedColor, tryU8_toNat]

theorem applySgrFrom_background (pen : CellStyle) (color : SgrColor true) (rest : List ℕ) :
    pen.applySgrFrom 0 (color.sgrCodes ++ rest) =
      ({ pen with background := some color } : CellStyle).applySgrFrom 0 rest := by
  cases color with
  | basic code =>
    obtain ⟨code, h⟩ := code
    have hc : 40 ≤ code ∧ code ≤ 47 ∨ 100 ≤ code ∧ code ≤ 107 := by simpa [isBasicCode] using h
    have h38 : code ≠ 38 := by omega
    have h48 : code ≠ 48 := by omega
    have hf : ¬isBasicCode false code = true := by
      simp [isBasicCode]
      omega
    refine (applySgrFrom_value pen rest h38 h48).trans ?_
    rw [applySgrValue, dif_neg hf, dif_pos h]
  | indexed index => simp [SgrColor.sgrCodes, applySgrFrom, parseExtendedColor, tryU8_toNat]
  | rgb red green blue => simp [SgrColor.sgrCodes, applySgrFrom, parseExtendedColor, tryU8_toNat]

/-- **Reading back what was written**: without a reset the style is laid over the pen. -/
theorem applySgrFrom_sgrCodes (pen style : CellStyle) (resetFirst : Bool) :
    pen.applySgrFrom 0 (style.sgrCodes resetFirst) =
      overlay (if resetFirst then {} else pen) style := by
  obtain ⟨bold, faint, italic, underline, blink, inverse, hidden, strike, fg, bg⟩ := style
  have hreset (rest : List ℕ) : pen.applySgrFrom 0 ((if resetFirst then [0] else []) ++ rest) =
      (if resetFirst then ({} : CellStyle) else pen).applySgrFrom 0 rest := by
    cases resetFirst <;> simp [applySgrFrom, applySgrValue, isBasicCode]
  -- one parameter at a time, in the order in which the writer emits them
  simp only [sgrCodes, List.append_assoc, hreset, applySgrFrom_bold, applySgrFrom_faint,
    applySgrFrom_italic, applySgrFrom_underline, applySgrFrom_blink, applySgrFrom_inverse,
    applySgrFrom_hidden, applySgrFrom_strike]
  have hbg (p : CellStyle) : p.applySgrFrom 0
      (match bg with | some color => color.sgrCodes | none => []) =
        { p with background := bg.or p.background } := by
    cases bg with
    | none => rfl
    | some color => simpa [applySgrFrom] using applySgrFrom_background p color []
  cases fg with
  | none =>
    rw [List.nil_append, hbg]
    rfl
  | some color =>
    rw [applySgrFrom_foreground, hbg]
    rfl

theorem sgrCodes_ne_nil {style : CellStyle} (h : style.isDefault = false) (resetFirst : Bool) :
    style.sgrCodes resetFirst ≠ [] := by
  intro hnil
  have hover := applySgrFrom_sgrCodes {} style resetFirst
  rw [hnil, ite_self, overlay_default] at hover
  simp [isDefault, ← hover, applySgrFrom] at h

theorem le_of_mem_sgrCodes {style : CellStyle} {resetFirst : Bool} {code : ℕ}
    (h : code ∈ style.sgrCodes resetFirst) : code ≤ 255 := by
  have hcolor {background : Bool} (color : SgrColor background) (h : code ∈ color.sgrCodes) :
      code ≤ 255 := by
    cases color with
    | basic c =>
      obtain ⟨c, hc⟩ := c
      obtain rfl : code = c := by simpa [SgrColor.sgrCodes] using h
      cases background <;> simp [isBasicCode] at hc <;> omega
    | indexed index =>
      have := index.toNat_lt
      simp only [SgrColor.sgrCodes, List.mem_cons, List.not_mem_nil, or_false] at h
      split at h <;> omega
    | rgb red green blue =>
      have := red.toNat_lt
      have := green.toNat_lt
      have := blue.toNat_lt
      simp only [SgrColor.sgrCodes, List.mem_cons, List.not_mem_nil, or_false] at h
      split at h <;> omega
  have hflag {flag : Bool} {value : ℕ} (hv : value ≤ 255)
      (h : code ∈ (if flag then [value] else [])) : code ≤ 255 := by
    cases flag
    · simp at h
    · rw [if_pos rfl, List.mem_singleton] at h
      omega
  simp only [sgrCodes, List.mem_append] at h
  rcases h with ((((((((((h | h) | h) | h) | h) | h) | h) | h) | h) | h) | h)
  case inr =>
    cases hb : style.background with
    | none => simp [hb] at h
    | some color => exact hcolor color (by simpa [hb] using h)
  case inl.inr =>
    cases hf : style.foreground with
    | none => simp [hf] at h
    | some color => exact hcolor color (by simpa [hf] using h)
  all_goals exact hflag (by omega) h

/-- The style after `sgr_bytes` was read. -/
def afterSgr (pen style : CellStyle) (resetFirst : Bool) : CellStyle :=
  if style.isDefault then {} else overlay (if resetFirst then {} else pen) style

end CellStyle

end Termd.Screen
