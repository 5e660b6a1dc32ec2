import Mathlib.Order.Nat
import Termd.Library.Transaction

/-!
# File systems

A file has a number, which it shares with no other file as long as it exists, and a content. Paths
name files, and a file may have several names or none. Here a file is referred to by an index that
is never given to another file, also when its number is.

## Main definitions

* `FileSystem P`: names and files
* `FileSystem.links`: the number of names of a file
* `FileSystem.createNew`, `FileSystem.unlink`, `FileSystem.renameNoreplace`: changes of names

## Main results

* `FileSystem.eq_of_links_le_one`: a file with one link has one name
* `FileSystem.lookup_renameNoreplace`: what a rename changes
-/

namespace Termd

/-- A file, whatever its names are. -/
structure Node where
  dev : ℕ
  ino : ℕ
  content : List UInt8
deriving DecidableEq

structure FileSystem (P : Type*) [DecidableEq P] where
  names : Table P ℕ
  nodes : Table ℕ Node
  named : ∀ p id, names.lookup p = some id → ∃ node, nodes.lookup id = some node

namespace FileSystem

variable {P : Type*} [DecidableEq P] {fs fs' : FileSystem P} {p q : P} {id id' : ℕ} {node : Node}

/-- The number of names of a file. -/
def links (fs : FileSystem P) (id : ℕ) : ℕ := fs.names.countWhere fun _ other => other = id

/-- The files that names of `fs` had which `fs'` has not. -/
def vanished (fs fs' : FileSystem P) : List ℕ :=
  fs.names.entries.filterMap fun entry =>
    if fs'.names.lookup entry.1 = none then some entry.2 else none

/-- The file that a path names. -/
def stat (fs : FileSystem P) (p : P) : Option (ℕ × Node) :=
  (fs.names.lookup p).bind fun id => (fs.nodes.lookup id).map (id, ·)

def empty : FileSystem P := ⟨∅, ∅, fun _ _ h => by cases h⟩

/-- A file under a name, which another file may have had before. -/
def withFile (fs : FileSystem P) (p : P) (id : ℕ) (node : Node) : FileSystem P where
  names := fs.names.insert p id
  nodes := fs.nodes.insert id node
  named := by
    intro q other hq
    by_cases hid : other = id
    · exact ⟨node, hid ▸ AList.lookup_insert ..⟩
    · rw [AList.lookup_insert_ne hid]
      rcases Table.lookup_insert_eq_some.mp hq with ⟨-, heq⟩ | ⟨-, hq⟩
      · exact absurd heq hid
      · exact fs.named q other hq

/-- A new file under a new name. -/
def createNew (fs : FileSystem P) (p : P) (id : ℕ) (node : Node) : Option (FileSystem P) :=
  if fs.names.lookup p = none ∧ fs.nodes.lookup id = none then some (fs.withFile p id node)
  else none

def setContent (fs : FileSystem P) (id : ℕ) (content : List UInt8) : FileSystem P where
  names := fs.names
  nodes := fs.nodes.updateWhere id (fun _ => true) fun node => { node with content := content }
  named := by
    intro p other hp
    obtain ⟨node, hnode⟩ := fs.named p other hp
    rw [Table.lookup_updateWhere]
    by_cases hid : other = id
    · rw [if_pos hid, ← hid, hnode]
      exact ⟨_, rfl⟩
    · rw [if_neg hid]
      exact ⟨node, hnode⟩

def unlink (fs : FileSystem P) (p : P) : FileSystem P where
  names := fs.names.erase p
  nodes := fs.nodes
  named := fun q id hq => fs.named q id (Table.lookup_erase_eq_some.mp hq).2

/-- A file gets another name, unless the new name is taken. -/
def renameNoreplace (fs : FileSystem P) (p q : P) : Option (FileSystem P) :=
  match hp : fs.names.lookup p, fs.names.lookup q with
  | some id, none =>
    some {
      names := (fs.names.erase p).insert q id
      nodes := fs.nodes
      named := by
        intro path other hpath
        rcases Table.lookup_insert_eq_some.mp hpath with ⟨-, rfl⟩ | ⟨-, hpath⟩
        · exact fs.named p other hp
        · exact fs.named path other (Table.lookup_erase_eq_some.mp hpath).2 }
  | _, _ => none

theorem stat_eq_some : fs.stat p = some (id, node) ↔
    fs.names.lookup p = some id ∧ fs.nodes.lookup id = some node := by
  rw [stat, Option.bind_eq_some_iff]
  constructor
  · rintro ⟨id', hp, hnode⟩
    obtain ⟨node', hnode, heq⟩ := Option.map_eq_some_iff.mp hnode
    cases heq
    exact ⟨hp, hnode⟩
  · rintro ⟨hp, hnode⟩
    exact ⟨id, hp, by rw [hnode]; rfl⟩

/-- A file with links has a name. -/
theorem links_pos_iff : 0 < fs.links id ↔ ∃ p, fs.names.lookup p = some id := by
  constructor
  · intro h
    obtain ⟨entry, hmem, hid⟩ := List.countP_pos_iff.mp h
    obtain rfl : entry.2 = id := of_decide_eq_true hid
    exact ⟨entry.1, AList.mem_lookup_iff.mpr hmem⟩
  · rintro ⟨p, hp⟩
    rw [links, Table.countWhere_eq_add_erase hp, decide_eq_true rfl, if_pos rfl]
    omega

/-- **A file with one link has one name.** -/
theorem eq_of_links_le_one (h : fs.links id ≤ 1) (hp : fs.names.lookup p = some id)
    (hq : fs.names.lookup q = some id) : p = q := by
  by_contra hne
  have hq' : AList.lookup q (fs.names.erase p) = some id :=
    Table.lookup_erase_eq_some.mpr ⟨Ne.symm hne, hq⟩
  -- the count splits at the first name, and once more at the second
  rw [links, Table.countWhere_eq_add_erase hp, Table.countWhere_eq_add_erase hq'] at h
  simp only [decide_true, if_true] at h
  omega

@[simp] theorem vanished_self (fs : FileSystem P) : fs.vanished fs = [] := by
  rw [vanished, List.filterMap_eq_nil_iff]
  rintro ⟨p, id⟩ hmem
  rw [AList.mem_lookup_iff.mpr hmem]
  rfl

theorem mem_vanished_unlink (h : id ∈ fs.vanished (fs.unlink p)) : fs.names.lookup p = some id := by
  obtain ⟨⟨q, id'⟩, hmem, heq⟩ := List.mem_filterMap.mp h
  have hq : fs.names.lookup q = some id' := AList.mem_lookup_iff.mpr hmem
  split_ifs at heq with hnone
  obtain rfl : id' = id := Option.some.inj heq
  by_cases hpq : q = p
  · rw [← hpq, hq]
  · rw [show (fs.unlink p).names.lookup q = _ from AList.lookup_erase_ne hpq, hq] at hnone
    cases hnone

theorem createNew_eq_some (h : fs.createNew p id node = some fs') :
    fs.names.lookup p = none ∧ fs.nodes.lookup id = none ∧
      fs'.names = fs.names.insert p id ∧ fs'.nodes = fs.nodes.insert id node := by
  rw [createNew] at h
  split_ifs at h with hfree
  cases h
  exact ⟨hfree.1, hfree.2, rfl, rfl⟩

@[simp] theorem names_setContent (fs : FileSystem P) (id : ℕ) (content : List UInt8) :
    (fs.setContent id content).names = fs.names := rfl

theorem lookup_setContent (fs : FileSystem P) (id id' : ℕ) (content : List UInt8) :
    (fs.setContent id content).nodes.lookup id' =
      if id' = id then (fs.nodes.lookup id).map fun node => { node with content := content }
      else fs.nodes.lookup id' := by
  rw [setContent, Table.lookup_updateWhere]
  simp only [if_true]

@[simp] theorem nodes_unlink (fs : FileSystem P) (p : P) : (fs.unlink p).nodes = fs.nodes := rfl

theorem lookup_unlink_eq_some :
    (fs.unlink p).names.lookup q = some id ↔ q ≠ p ∧ fs.names.lookup q = some id :=
  Table.lookup_erase_eq_some

theorem renameNoreplace_eq_some (h : fs.renameNoreplace p q = some fs') :
    ∃ id, fs.names.lookup p = some id ∧ fs.names.lookup q = none ∧
      fs'.names = (fs.names.erase p).insert q id ∧ fs'.nodes = fs.nodes := by
  rw [renameNoreplace] at h
  split at h
  · rename_i id hp hq
    cases h
    exact ⟨id, hp, hq, rfl, rfl⟩
  · cases h

/-- **What a rename changes**: the file has the new name and not the old one. -/
theorem lookup_renameNoreplace (h : fs.renameNoreplace p q = some fs') (path : P) :
    fs'.names.lookup path =
      if path = q then fs.names.lookup p else if path = p then none
      else fs.names.lookup path := by
  obtain ⟨id, hp, -, hnames, -⟩ := renameNoreplace_eq_some h
  rw [hnames]
  by_cases hpath : path = q
  · subst hpath
    rw [if_pos rfl, hp]
    exact AList.lookup_insert ..
  · rw [if_neg hpath]
    refine (AList.lookup_insert_ne hpath).trans ?_
    by_cases hpath' : path = p
    · subst hpath'
      rw [if_pos rfl]
      exact AList.lookup_erase ..
    · rw [if_neg hpath']
      exact AList.lookup_erase_ne hpath'

end FileSystem

end Termd
