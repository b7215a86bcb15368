import Mathlib.Data.List.Basic
import ActionBridge.Proofs.Failures
import ActionBridge.Tree.Template

namespace ActionBridge.Tree

mutual

def leavesFrom (location : List String) : Tree → List (List String × Tree)
  | sequence items => itemLeavesFrom location 0 items
  | mapping entries => entryLeavesFrom location entries
  | leaf => [(location, leaf)]

def itemLeavesFrom (location : List String) (index : Nat) :
    List Tree → List (List String × Tree)
  | [] => []
  | t :: ts =>
    leavesFrom (location ++ [toString index]) t ++ itemLeavesFrom location (index + 1) ts

def entryLeavesFrom (location : List String) :
    List (String × Tree) → List (List String × Tree)
  | [] => []
  | (k, t) :: entries => leavesFrom (location ++ [k]) t ++ entryLeavesFrom location entries

end

def leaves (template : Tree) : List (List String × Tree) :=
  template.leavesFrom []

def placedUnder (location : List String) (l : List String × Tree) : List String × Tree :=
  (location ++ l.1, l.2)

theorem itemLeavesFrom_eq (location : List String) (index : Nat) (ts : List Tree) :
    itemLeavesFrom location index ts =
      (ts.zipIdx index).flatMap fun x => x.1.leavesFrom (location ++ [toString x.2]) := by
  induction ts generalizing index with
  | nil => rfl
  | cons t ts ih => rw [itemLeavesFrom, ih, List.zipIdx_cons, List.flatMap_cons]

theorem entryLeavesFrom_eq (location : List String) (entries : List (String × Tree)) :
    entryLeavesFrom location entries =
      entries.flatMap fun e => e.2.leavesFrom (location ++ [e.1]) := by
  induction entries with
  | nil => rfl
  | cons e entries ih => rw [entryLeavesFrom, ih, List.flatMap_cons]

theorem leavesFrom_leaf (location : List String) {t : Tree} (h : t.isContainer = false) :
    t.leavesFrom location = [(location, t)] := by
  cases t with
  | null | bool | number | text => rfl
  | sequence | mapping => cases h

theorem leaves_leaf {t : Tree} (h : t.isContainer = false) : t.leaves = [([], t)] :=
  leavesFrom_leaf [] h

theorem leavesFrom_eq (location : List String) (t : Tree) :
    t.leavesFrom location = t.leaves.map (placedUnder location) := by
  induction t using inductionOn generalizing location with
  | leaf t h =>
    rw [leavesFrom_leaf location h, leaves_leaf h, List.map_singleton, placedUnder, List.append_nil]
  | sequence items ih =>
    rw [leaves, leavesFrom, leavesFrom, itemLeavesFrom_eq, itemLeavesFrom_eq, List.map_flatMap]
    apply List.flatMap_congr
    intro x hx
    have ht : x.1 ∈ items := List.mem_of_getElem? (List.mem_zipIdx_iff_getElem?.1 hx)
    rw [ih x.1 ht, ih x.1 ht, List.map_map]
    simp [placedUnder, Function.comp_def]
  | mapping entries ih =>
    rw [leaves, leavesFrom, leavesFrom, entryLeavesFrom_eq, entryLeavesFrom_eq, List.map_flatMap]
    apply List.flatMap_congr
    intro e he
    rw [ih e.1 e.2 he, ih e.1 e.2 he, List.map_map]
    simp [placedUnder, Function.comp_def]

theorem leaves_sequence (items : List Tree) :
    (sequence items).leaves =
      items.zipIdx.flatMap fun x => x.1.leaves.map (placedUnder [toString x.2]) := by
  rw [leaves, leavesFrom, itemLeavesFrom_eq]
  apply List.flatMap_congr
  intro x _
  exact leavesFrom_eq _ x.1

theorem leaves_mapping (entries : List (String × Tree)) :
    (mapping entries).leaves = entries.flatMap fun e => e.2.leaves.map (placedUnder [e.1]) := by
  rw [leaves, leavesFrom, entryLeavesFrom_eq]
  apply List.flatMap_congr
  intro e _
  exact leavesFrom_eq _ e.2

inductive LeafAt : Tree → List String → Tree → Prop where
  | leaf {t : Tree} : t.isContainer = false → LeafAt t [] t
  | item {items : List Tree} {index : Nat} {t leaf : Tree} {place : List String} :
      items[index]? = some t → LeafAt t place leaf →
      LeafAt (sequence items) (toString index :: place) leaf
  | entry {entries : List (String × Tree)} {key : String} {t leaf : Tree} {place : List String} :
      (key, t) ∈ entries → LeafAt t place leaf → LeafAt (mapping entries) (key :: place) leaf

theorem leafAt_of_mem_leaves {t : Tree} {l : List String × Tree} (hl : l ∈ t.leaves) :
    t.LeafAt l.1 l.2 := by
  induction t using inductionOn generalizing l with
  | leaf t h =>
    rw [leaves_leaf h] at hl
    rw [List.mem_singleton.1 hl]
    exact .leaf h
  | sequence items ih =>
    rw [leaves_sequence] at hl
    obtain ⟨x, hx, hl⟩ := List.mem_flatMap.1 hl
    obtain ⟨inner, hinner, rfl⟩ := List.mem_map.1 hl
    have ht : items[x.2]? = some x.1 := List.mem_zipIdx_iff_getElem?.1 hx
    exact .item ht (ih x.1 (List.mem_of_getElem? ht) hinner)
  | mapping entries ih =>
    rw [leaves_mapping] at hl
    obtain ⟨e, he, hl⟩ := List.mem_flatMap.1 hl
    obtain ⟨inner, hinner, rfl⟩ := List.mem_map.1 hl
    exact .entry he (ih e.1 e.2 he hinner)

theorem LeafAt.mem_leaves {t leaf : Tree} {place : List String} (h : t.LeafAt place leaf) :
    (place, leaf) ∈ t.leaves := by
  induction h with
  | leaf h =>
    rw [leaves_leaf h]
    exact List.mem_singleton.2 rfl
  | @item items i t leaf place ht _ ih =>
    rw [leaves_sequence]
    apply List.mem_flatMap.2
    refine ⟨(t, i), List.mem_zipIdx_iff_getElem?.2 ht, ?_⟩
    exact List.mem_map.2 ⟨(place, leaf), ih, rfl⟩
  | @entry entries k t leaf place ht _ ih =>
    rw [leaves_mapping]
    apply List.mem_flatMap.2
    refine ⟨(k, t), ht, ?_⟩
    exact List.mem_map.2 ⟨(place, leaf), ih, rfl⟩

theorem mem_leaves_iff {t leaf : Tree} {place : List String} :
    (place, leaf) ∈ t.leaves ↔ t.LeafAt place leaf :=
  ⟨leafAt_of_mem_leaves, LeafAt.mem_leaves⟩

section

variable {m : Type → Type} [Monad m] {transform transform' : List String → Tree → m (Option Tree)}

mutual

theorem traverse_congr (location : List String) : ∀ t : Tree,
    (∀ l ∈ t.leavesFrom location, transform l.1 l.2 = transform' l.1 l.2) →
      t.traverse transform location = t.traverse transform' location
  | .sequence items, h => by
    rw [traverse, traverse, traverseItems_congr location 0 items h]
  | .mapping entries, h => by
    rw [traverse, traverse, traverseEntries_congr location entries h]
  | .null, h | .bool _, h | .number _, h | .text _, h => h (location, _) (List.mem_singleton.2 rfl)

theorem traverseItems_congr (location : List String) (index : Nat) : ∀ ts : List Tree,
    (∀ l ∈ itemLeavesFrom location index ts, transform l.1 l.2 = transform' l.1 l.2) →
      traverseItems transform location index ts = traverseItems transform' location index ts
  | [], _ => rfl
  | t :: ts, h => by
    obtain ⟨hfirst, hothers⟩ := List.forall_mem_append.1 h
    rw [traverseItems, traverseItems, traverse_congr _ t hfirst,
      traverseItems_congr location (index + 1) ts hothers]

theorem traverseEntries_congr (location : List String) : ∀ entries : List (String × Tree),
    (∀ l ∈ entryLeavesFrom location entries, transform l.1 l.2 = transform' l.1 l.2) →
      traverseEntries transform location entries = traverseEntries transform' location entries
  | [], _ => rfl
  | (k, t) :: entries, h => by
    obtain ⟨hfirst, hothers⟩ := List.forall_mem_append.1 h
    rw [traverseEntries, traverseEntries, traverse_congr _ t hfirst,
      traverseEntries_congr location entries hothers]

end

end

section

variable {ε : Type} {transform : List String → Tree → Except ε (Option Tree)}

section

variable {allowed : ε → Prop}

mutual

theorem traverse_failsOnly (location : List String) : ∀ t : Tree,
    (∀ l ∈ t.leavesFrom location, FailsOnly allowed (transform l.1 l.2)) →
      FailsOnly allowed (t.traverse transform location)
  | .sequence items, h => by
    rw [traverse]
    exact (traverseItems_failsOnly location 0 items h).bind fun _ _ => .ok _
  | .mapping entries, h => by
    rw [traverse]
    exact (traverseEntries_failsOnly location entries h).bind fun _ _ => .ok _
  | .null, h | .bool _, h | .number _, h | .text _, h => h (location, _) (List.mem_singleton.2 rfl)

theorem traverseItems_failsOnly (location : List String) (index : Nat) : ∀ ts : List Tree,
    (∀ l ∈ itemLeavesFrom location index ts, FailsOnly allowed (transform l.1 l.2)) →
      FailsOnly allowed (traverseItems transform location index ts)
  | [], _ => .ok _
  | t :: ts, h => by
    obtain ⟨hfirst, hothers⟩ := List.forall_mem_append.1 h
    rw [traverseItems]
    refine (traverse_failsOnly _ t hfirst).bind fun _ _ => ?_
    exact (traverseItems_failsOnly location (index + 1) ts hothers).bind fun _ _ => .ok _

theorem traverseEntries_failsOnly (location : List String) : ∀ entries : List (String × Tree),
    (∀ l ∈ entryLeavesFrom location entries, FailsOnly allowed (transform l.1 l.2)) →
      FailsOnly allowed (traverseEntries transform location entries)
  | [], _ => .ok _
  | (k, t) :: entries, h => by
    obtain ⟨hfirst, hothers⟩ := List.forall_mem_append.1 h
    rw [traverseEntries]
    refine (traverse_failsOnly _ t hfirst).bind fun _ _ => ?_
    exact (traverseEntries_failsOnly location entries hothers).bind fun _ _ => .ok _

end

end

mutual

theorem traverse_ok (location : List String) : ∀ (t : Tree) (r : Option Tree),
    t.traverse transform location = .ok r →
      ∀ l ∈ t.leavesFrom location, ∃ r', transform l.1 l.2 = .ok r'
  | .sequence items, r, h => by
    rw [traverse] at h
    obtain ⟨ts, hts, -⟩ := Except.bind_ok_iff.1 h
    exact traverseItems_ok location 0 items ts hts
  | .mapping entries, r, h => by
    rw [traverse] at h
    obtain ⟨es, hes, -⟩ := Except.bind_ok_iff.1 h
    exact traverseEntries_ok location entries es hes
  | .null, r, h | .bool _, r, h | .number _, r, h | .text _, r, h => by
    intro l hl
    cases List.mem_singleton.1 hl
    exact ⟨r, h⟩

theorem traverseItems_ok (location : List String) (index : Nat) : ∀ (ts rs : List Tree),
    traverseItems transform location index ts = .ok rs →
      ∀ l ∈ itemLeavesFrom location index ts, ∃ r', transform l.1 l.2 = .ok r'
  | [], _, _ => by
    intro l hl
    cases hl
  | t :: ts, rs, h => by
    rw [traverseItems] at h
    obtain ⟨first, hfirst, h⟩ := Except.bind_ok_iff.1 h
    obtain ⟨others, hothers, -⟩ := Except.bind_ok_iff.1 h
    exact List.forall_mem_append.2
      ⟨traverse_ok _ t first hfirst, traverseItems_ok location (index + 1) ts others hothers⟩

theorem traverseEntries_ok (location : List String) : ∀ entries rs : List (String × Tree),
    traverseEntries transform location entries = .ok rs →
      ∀ l ∈ entryLeavesFrom location entries, ∃ r', transform l.1 l.2 = .ok r'
  | [], _, _ => by
    intro l hl
    cases hl
  | (k, t) :: entries, rs, h => by
    rw [traverseEntries] at h
    obtain ⟨first, hfirst, h⟩ := Except.bind_ok_iff.1 h
    obtain ⟨others, hothers, -⟩ := Except.bind_ok_iff.1 h
    exact List.forall_mem_append.2
      ⟨traverse_ok _ t first hfirst, traverseEntries_ok location entries others hothers⟩

end

end

end ActionBridge.Tree
