import Mathlib.Algebra.Ring.Nat
import Mathlib.Data.List.Basic

/-!
# Reading records from JSON

A record is read from a JSON value field by field. An object gives the fields by name: a field may
be missing or have a default, unknown names are skipped together with their values, and a name that
occurs twice is an error. An array gives the fields by position. This is how derived readers behave;
texts are read when they are needed, so a skipped value may hold a text that is not valid.

## Main definitions

* `Json`: a JSON text with its structure recognised
* `Json.fields`: the fields of a record
* `Json.required`, `Json.optional`, `Json.defaulted`: reading one of them
* `JsonCodec`: a parser and a renderer, which are given

## Main results

* `Json.fields_objectOf`: an object with distinct names gives the values back
-/

namespace Termd

/-- A JSON value. A string is `none` when its escapes or its bytes give no text. -/
inductive Json
  | null
  | bool (value : Bool)
  /-- A number without sign, fraction and exponent below 2 ^ 64. -/
  | unsigned (n : ℕ)
  | number
  | string (text : Option (List UInt8))
  | array (elements : List Json)
  | object (entries : List (Option (List UInt8) × Json))

namespace Json

def text : List UInt8 → Json := fun t => string (some t)

def asText : Json → Option (List UInt8)
  | string t => t
  | _ => none

def asUnsigned : Json → Option ℕ
  | unsigned n => some n
  | _ => none

/-- A variant without data: its name, or an object with the name and null. -/
def asVariant : Json → Option (List UInt8)
  | string t => t
  | object [(name, null)] => name
  | _ => none

/-- The values of a name in an object. -/
def valuesOf (name : List UInt8) (entries : List (Option (List UInt8) × Json)) : List Json :=
  entries.filterMap fun entry => if entry.1 = some name then some entry.2 else none

/-- The fields of a record with these names, in this order. A field that is missing is `none`. -/
def fields (names : List (List UInt8)) : Json → Option (List (Option Json))
  | object entries =>
    if (∀ entry ∈ entries, entry.1.isSome = true) ∧
        ∀ name ∈ names, (valuesOf name entries).length ≤ 1 then
      some (names.map fun name => (valuesOf name entries).head?)
    else none
  | array elements =>
    if elements.length ≤ names.length then
      some ((List.range names.length).map fun i => elements[i]?)
    else none
  | _ => none

variable {α : Type*}

/-- A field that has to be there. -/
def required (read : Json → Option α) (field : Option Json) : Option α := field.bind read

/-- A field that may be missing or null. -/
def optional (read : Json → Option α) : Option Json → Option (Option α)
  | none => some none
  | some null => some none
  | some value => (read value).map some

/-- A field with a value for when it is missing. -/
def defaulted (default : α) (read : Json → Option α) : Option Json → Option α
  | none => some default
  | some value => read value

/-- The object with these names and values. -/
def objectOf (entries : List (List UInt8 × Json)) : Json :=
  object (entries.map fun entry => (some entry.1, entry.2))

/-- What the fields of a record are read from. -/
theorem fields_eq_some {names : List (List UInt8)} {json : Json} {values : List (Option Json)}
    (h : json.fields names = some values) :
    (∃ entries, json = object entries ∧
      values = names.map fun name => (valuesOf name entries).head?) ∨
    ∃ elements : List Json, json = array elements ∧ elements.length ≤ names.length ∧
      values = (List.range names.length).map fun i => elements[i]? := by
  cases json with
  | object entries =>
    rw [fields] at h
    split_ifs at h with hread
    exact .inl ⟨entries, rfl, (Option.some.inj h).symm⟩
  | array elements =>
    rw [fields] at h
    split_ifs at h with hlength
    exact .inr ⟨elements, rfl, hlength, (Option.some.inj h).symm⟩
  | null => cases h
  | bool => cases h
  | unsigned => cases h
  | number => cases h
  | string => cases h

/-- A name of an object with distinct names has one value or none. -/
theorem valuesOf_objectOf {entries : List (List UInt8 × Json)}
    (h : (entries.map Prod.fst).Nodup) (name : List UInt8) :
    valuesOf name (entries.map fun entry => (some entry.1, entry.2)) =
      (entries.lookup name).toList := by
  induction entries with
  | nil => rfl
  | cons entry entries ih =>
    obtain ⟨key, value⟩ := entry
    obtain ⟨hkey, hrest⟩ := List.nodup_cons.mp h
    rw [List.map_cons, valuesOf, List.filterMap_cons, ← valuesOf, ih hrest, List.lookup_cons]
    by_cases heq : key = name
    · subst heq
      have habsent : entries.lookup key = none := by
        rw [List.lookup_eq_none_iff]
        rintro ⟨other, v⟩ hmem
        simpa using fun heq => hkey (List.mem_map.mpr ⟨(other, v), hmem, heq.symm⟩)
      simp [habsent]
    · simp [heq, beq_eq_false_iff_ne.mpr (Ne.symm heq)]

/-- **An object with distinct names gives the values back.** -/
theorem fields_objectOf {names : List (List UInt8)} {entries : List (List UInt8 × Json)}
    (h : (entries.map Prod.fst).Nodup) :
    (objectOf entries).fields names = some (names.map fun name => entries.lookup name) := by
  rw [objectOf, fields, if_pos]
  · simp only [valuesOf_objectOf h, Option.head?_toList]
  · constructor
    · intro entry hmem
      obtain ⟨named, _, rfl⟩ := List.mem_map.mp hmem
      rfl
    · intro name _
      rw [valuesOf_objectOf h]
      cases entries.lookup name <;> simp

@[simp] theorem asText_text (t : List UInt8) : (text t).asText = some t := rfl

@[simp] theorem asVariant_text (t : List UInt8) : (text t).asVariant = some t := rfl

@[simp] theorem asUnsigned_unsigned (n : ℕ) : (unsigned n).asUnsigned = some n := rfl

end Json

/-- A parser and a renderer. -/
structure JsonCodec where
  parseJson : List UInt8 → Option Json
  renderJson : Json → List UInt8

/-- What was rendered is parsed again. -/
def JsonCodec.ReadsBack (c : JsonCodec) (json : Json) : Prop :=
  c.parseJson (c.renderJson json) = some json

end Termd
