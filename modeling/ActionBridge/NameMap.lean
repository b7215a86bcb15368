
namespace ActionBridge

def insertByName {α : Type} (name : String) (value : α) : List (String × α) → List (String × α)
  | [] => [(name, value)]
  | (k, v) :: entries =>
    if k < name then (k, v) :: insertByName name value entries
    else if k = name then (name, value) :: entries
    else (name, value) :: (k, v) :: entries

def InNameOrder {α : Type} (entries : List (String × α)) : Prop :=
  entries.Pairwise (·.1 < ·.1)

theorem mem_insertByName {α : Type} {name : String} {value : α} {entries : List (String × α)}
    {e : String × α} (h : e ∈ insertByName name value entries) :
    e = (name, value) ∨ e ∈ entries := by
  induction entries with
  | nil => simpa [insertByName] using h
  | cons first entries ih =>
    obtain ⟨k, v⟩ := first
    simp only [insertByName] at h
    split at h
    · rcases List.mem_cons.1 h with h | h
      · simp [h]
      · rcases ih h with h | h <;> simp [h]
    · split at h
      · rcases List.mem_cons.1 h with h | h <;> simp [h]
      · rcases List.mem_cons.1 h with h | h
        · simp [h]
        · exact Or.inr h

theorem inNameOrder_insertByName {α : Type} (name : String) (value : α)
    {entries : List (String × α)} (h : InNameOrder entries) :
    InNameOrder (insertByName name value entries) := by
  induction entries with
  | nil => simp [insertByName, InNameOrder]
  | cons first entries ih =>
    obtain ⟨k, v⟩ := first
    obtain ⟨hfirst, hrest⟩ := List.pairwise_cons.1 h
    simp only [insertByName]
    split
    · rename_i hlt
      refine List.pairwise_cons.2 ⟨fun e he => ?_, ih hrest⟩
      rcases mem_insertByName he with rfl | he
      · exact hlt
      · exact hfirst e he
    · rename_i hlt
      split
      · rename_i heq
        subst heq
        exact List.pairwise_cons.2 ⟨hfirst, hrest⟩
      · rename_i hne
        have hgt : name < k :=
          String.not_le.1 fun hle => hne (String.le_antisymm hle (String.not_lt.1 hlt))
        refine List.pairwise_cons.2 ⟨fun e he => ?_, h⟩
        rcases List.mem_cons.1 he with rfl | he
        · exact hgt
        · exact String.lt_trans hgt (hfirst e he)

structure NameMap (α : Type) where
  entries : List (String × α)
  sorted : InNameOrder entries

namespace NameMap

variable {α : Type}

def empty : NameMap α := ⟨[], .nil⟩

def insert (m : NameMap α) (name : String) (value : α) : NameMap α :=
  ⟨insertByName name value m.entries, inNameOrder_insertByName name value m.sorted⟩

def get? (m : NameMap α) (name : String) : Option α :=
  m.entries.lookup name

def size (m : NameMap α) : Nat :=
  m.entries.length

def names (m : NameMap α) : List String :=
  m.entries.map (·.1)

def values (m : NameMap α) : List α :=
  m.entries.map (·.2)

end NameMap

end ActionBridge
