/-! # Tables over a finite list of keys -/

namespace Gamepad

/-- A type of keys listed once each, with the position of every key in the list. -/
class Enumerable (ι : Type) where
  all : List ι
  index : ι → Fin all.length
  all_index : ∀ i, all.get (index i) = i
  index_all : ∀ k, index (all.get k) = k

namespace Enumerable

variable {ι : Type} [Enumerable ι]

theorem mem_all (i : ι) : i ∈ (all : List ι) := by
  have h := List.get_mem (all : List ι) (index i)
  rwa [all_index] at h

theorem index_inj {i j : ι} : index i = index j ↔ i = j :=
  ⟨fun h => by rw [← all_index i, h, all_index], fun h => h ▸ rfl⟩

instance decidableForall (p : ι → Prop) [DecidablePred p] : Decidable (∀ i, p i) :=
  decidable_of_iff (∀ i ∈ (all : List ι), p i)
    ⟨fun h i => h i (mem_all i), fun h i _ => h i⟩

end Enumerable

open Enumerable

/-- One value for every key. -/
structure Table (ι α : Type) [Enumerable ι] where
  cells : Vector α (all : List ι).length
  deriving DecidableEq

namespace Table

variable {ι α β : Type} [Enumerable ι]

def get (t : Table ι α) (i : ι) : α :=
  t.cells[index i]

instance : CoeFun (Table ι α) (fun _ => ι → α) :=
  ⟨get⟩

def ofFn (f : ι → α) : Table ι α :=
  ⟨⟨((all : List ι).map f).toArray, by simp⟩⟩

def const (a : α) : Table ι α :=
  ofFn fun _ => a

def set (t : Table ι α) (i : ι) (a : α) : Table ι α :=
  ⟨t.cells.set (index i) a⟩

instance [Inhabited α] : Inhabited (Table ι α) :=
  ⟨const default⟩

@[simp]
theorem ofFn_get (f : ι → α) (i : ι) : (ofFn f).get i = f i := by
  have h := all_index i
  simp only [List.get_eq_getElem] at h
  simp [ofFn, get, h]

@[simp]
theorem const_get (a : α) (i : ι) : (const a : Table ι α).get i = a := by
  simp [const]

@[ext]
theorem ext {s t : Table ι α} (h : ∀ i, s.get i = t.get i) : s = t := by
  obtain ⟨s⟩ := s
  obtain ⟨t⟩ := t
  congr 1
  apply Vector.ext
  intro k hk
  have hkey := h ((all : List ι).get ⟨k, hk⟩)
  simp only [get, index_all] at hkey
  simpa using hkey

theorem set_get [DecidableEq ι] (t : Table ι α) (i j : ι) (a : α) :
    (t.set i a).get j = if j = i then a else t.get j := by
  by_cases h : j = i
  · subst h
    simp [set, get]
  · have hne : (index i).val ≠ (index j).val := by
      intro heq
      exact h (index_inj.mp (Fin.ext heq)).symm
    simp [set, get, h, hne]

def keysWhere (t : Table ι α) (p : α → Bool) : List ι :=
  (all : List ι).filter fun i => p (t i)

@[simp]
theorem mem_keysWhere {t : Table ι α} {p : α → Bool} {i : ι} :
    i ∈ t.keysWhere p ↔ p (t i) = true := by
  simp [keysWhere, mem_all]

end Table

end Gamepad
