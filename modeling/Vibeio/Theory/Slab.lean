/-
# Theory.Slab -- storage keyed by reusable indices

A slab hands out an index for every stored value and takes the index back when
the value is removed.  Nothing is said about *which* vacant index an insertion
uses: the caller of `insert` passes the index and the results below ask only
that it is vacant (`get s k = none`), so every allocation policy is covered.

* `get_insert`, `get_remove`, `get_modify`: what a lookup sees afterwards.
* `items` is the content as a multiset of pairs, and `items_insert`,
  `items_remove`, `items_modify` account for every value exactly once.
* `AllOn`: what is stored under some of the keys has a property.  It is kept by a change
  that carries the property along, and by one that is confined to a single key.
-/
import Mathlib.Data.List.AList
import Mathlib.Data.Multiset.AddSub

namespace Vibeio.Theory

set_option autoImplicit false

/-- A finite partial map from indices to values. -/
structure Slab (α : Type) where
  map : AList fun _ : Nat => α

namespace Slab

variable {α : Type}

def empty : Slab α := ⟨∅⟩

def get (s : Slab α) (k : Nat) : Option α := s.map.lookup k

def insert (s : Slab α) (k : Nat) (v : α) : Slab α := ⟨s.map.insert k v⟩

def remove (s : Slab α) (k : Nat) : Slab α := ⟨s.map.erase k⟩

/-- Change the value stored under `k`, if there is one. -/
def modify (s : Slab α) (k : Nat) (f : α → α) : Slab α :=
  match s.get k with
  | some v => s.insert k (f v)
  | none => s

def isEmpty (s : Slab α) : Bool := s.map.entries.isEmpty

/-- The content: every stored value once, with its index. -/
def items (s : Slab α) : Multiset (Nat × α) :=
  (s.map.entries.map fun entry => (entry.1, entry.2) : List (Nat × α))

/-! ## Lookups -/

@[simp] theorem get_empty (k : Nat) : (empty : Slab α).get k = none := AList.lookup_empty k

theorem get_insert (s : Slab α) (k j : Nat) (v : α) :
    (s.insert k v).get j = if j = k then some v else s.get j := by
  split
  · rename_i same
    subst same
    exact AList.lookup_insert s.map
  · rename_i different
    exact AList.lookup_insert_ne different

@[simp] theorem get_insert_self (s : Slab α) (k : Nat) (v : α) : (s.insert k v).get k = some v := by
  simp [get_insert]

theorem get_remove (s : Slab α) (k j : Nat) :
    (s.remove k).get j = if j = k then none else s.get j := by
  split
  · rename_i same
    subst same
    exact AList.lookup_erase j s.map
  · rename_i different
    exact AList.lookup_erase_ne different

@[simp] theorem get_remove_self (s : Slab α) (k : Nat) : (s.remove k).get k = none := by
  simp [get_remove]

theorem get_modify (s : Slab α) (k j : Nat) (f : α → α) :
    (s.modify k f).get j = if j = k then (s.get k).map f else s.get j := by
  unfold modify
  cases found : s.get k with
  | none =>
      by_cases same : j = k
      · simp [same, found]
      · simp [same]
  | some v => simp [get_insert]

theorem isEmpty_iff (s : Slab α) : s.isEmpty = true ↔ ∀ k, s.get k = none := by
  unfold isEmpty
  rw [List.isEmpty_iff]
  constructor
  · intro none_stored k
    rw [get, AList.lookup_eq_none, AList.mem_keys, AList.keys, none_stored]
    simp
  · intro vacant
    cases stored : s.map.entries with
    | nil => rfl
    | cons entry rest =>
        have present : Sigma.mk entry.1 entry.2 ∈ s.map.entries := by rw [stored]; simp
        have found := AList.mem_lookup_iff.mpr present
        have absent : s.map.lookup entry.1 = none := vacant entry.1
        rw [absent] at found
        cases found

/-- Taking back what was just put under a vacant index undoes the insertion. -/
theorem remove_insert {s : Slab α} {k : Nat} (vacant : s.get k = none) (v : α) :
    (s.insert k v).remove k = s := by
  have absent : k ∉ s.map.entries.keys := AList.lookup_eq_none.mp vacant
  have entries : ((s.insert k v).remove k).map.entries = s.map.entries := by
    show (List.kerase k (⟨k, v⟩ :: s.map.entries.kerase k)) = s.map.entries
    rw [List.kerase_of_notMem_keys absent]
    simp
  cases s
  exact congrArg Slab.mk (AList.ext entries)

/-! ## Content -/

theorem mem_items {s : Slab α} {k : Nat} {v : α} : (k, v) ∈ s.items ↔ s.get k = some v := by
  rw [items, Multiset.mem_coe, List.mem_map]
  constructor
  · rintro ⟨⟨j, u⟩, present, same⟩
    cases same
    exact AList.mem_lookup_iff.mpr present
  · intro found
    exact ⟨⟨k, v⟩, AList.mem_lookup_iff.mp found, rfl⟩

@[simp] theorem items_empty : (empty : Slab α).items = 0 := rfl

theorem items_remove {s : Slab α} {k : Nat} {v : α} (found : s.get k = some v) :
    s.items = (k, v) ::ₘ (s.remove k).items := by
  have present : k ∈ s.map := by
    rw [← AList.lookup_isSome, show s.map.lookup k = some v from found]
    rfl
  obtain ⟨u, before, after, -, split, erased⟩ := List.exists_of_kerase present
  have value : u = v := by
    have : s.get k = some u := AList.mem_lookup_iff.mpr (by rw [split]; simp)
    exact Option.some.inj (this.symm.trans found)
  subst value
  have rest : (s.remove k).map.entries = before ++ after := erased
  simp only [items, split, rest, List.map_append, List.map_cons, Multiset.cons_coe]
  exact Multiset.coe_eq_coe.mpr List.perm_middle

theorem items_insert_of_remove (s : Slab α) (k : Nat) (v : α) :
    (s.insert k v).items = (k, v) ::ₘ (s.remove k).items := rfl

theorem items_insert {s : Slab α} {k : Nat} (vacant : s.get k = none) (v : α) :
    (s.insert k v).items = (k, v) ::ₘ s.items := by
  have same : (s.remove k).map.entries = s.map.entries :=
    List.kerase_of_notMem_keys (AList.lookup_eq_none.mp vacant)
  rw [items_insert_of_remove]
  simp only [items, same]

theorem items_modify {s : Slab α} {k : Nat} {v : α} (found : s.get k = some v) (f : α → α) :
    (s.modify k f).items = (k, f v) ::ₘ (s.remove k).items := by
  simp only [modify, found]
  exact items_insert_of_remove s k (f v)

/-! ## Properties of what is stored -/

section Properties

variable {P : α → Prop} {K K' : Nat → Prop} {s s' : Slab α}

/-- What is stored now was stored before, perhaps changed, and has `P` if it had. -/
def Carries (P : α → Prop) (s s' : Slab α) : Prop :=
  ∀ k v, s'.get k = some v → ∃ u, s.get k = some u ∧ (P u → P v)

/-- Whatever is stored under a key in `K` has `P`. -/
def AllOn (K : Nat → Prop) (P : α → Prop) (s : Slab α) : Prop :=
  ∀ k, K k → ∀ v, s.get k = some v → P v

theorem Carries.refl (s : Slab α) : Carries P s s := by
  intro k v found
  exact ⟨v, found, id⟩

theorem Carries.insert {k : Nat} {u v : α} (found : s.get k = some u) (stays : P u → P v) :
    Carries P s (s.insert k v) := by
  intro j w stored
  rw [get_insert] at stored
  split at stored
  · rename_i same
    cases stored
    exact ⟨u, same ▸ found, stays⟩
  · exact ⟨w, stored, id⟩

theorem Carries.remove (s : Slab α) (k : Nat) : Carries P s (s.remove k) := by
  intro j w stored
  rw [get_remove] at stored
  split at stored
  · cases stored
  · exact ⟨w, stored, id⟩

theorem AllOn.carries (all : AllOn K P s) (fewer : ∀ k, K' k → K k) (carries : Carries P s s') :
    AllOn K' P s' := by
  intro k inside v stored
  obtain ⟨u, found, stays⟩ := carries k v stored
  exact stays (all k (fewer k inside) u found)

/-- A change of one key asks only about that key. -/
theorem AllOn.except (all : AllOn K P s) (k : Nat) (fewer : ∀ j, j ≠ k → K' j → K j)
    (others : ∀ j, j ≠ k → s'.get j = s.get j) (here : K' k → ∀ v, s'.get k = some v → P v) :
    AllOn K' P s' := by
  intro j inside v stored
  by_cases same : j = k
  · subst same
    exact here inside v stored
  · rw [others j same] at stored
    exact all j (fewer j same inside) v stored

end Properties

end Slab

end Vibeio.Theory
