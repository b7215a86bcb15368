import Mathlib.Data.List.Basic
import ActionBridge.Tree.Template

namespace ActionBridge.Tree

section

variable {f : Tree → Option Tree}

def leafwise (f : Tree → Option Tree) : List String → Tree → Id (Option Tree) :=
  fun _ leaf => pure (f leaf)

theorem deepMap_eq (t : Tree) : t.deepMap f = (t.traverse (leafwise f) []).run :=
  rfl

theorem deepMap_leaf {t : Tree} (h : t.isContainer = false) : t.deepMap f = f t := by
  rw [deepMap_eq, traverse_leaf _ _ h]
  rfl

theorem traverseItems_leafwise {ts : List Tree}
    (h : ∀ t ∈ ts, ∀ location, (t.traverse (leafwise f) location).run = t.deepMap f)
    (location : List String) (index : Nat) :
    (traverseItems (leafwise f) location index ts).run = ts.filterMap (deepMap f) := by
  induction ts generalizing index with
  | nil => rfl
  | cons t ts ih =>
    obtain ⟨hfirst, hothers⟩ := List.forall_mem_cons.1 h
    rw [traverseItems, Id.run_bind, hfirst, Id.run_bind, ih hothers, Id.run_pure]
    cases hf : t.deepMap f <;> simp [hf]

theorem traverseEntries_leafwise {entries : List (String × Tree)}
    (h : ∀ k t, (k, t) ∈ entries → ∀ location,
      (t.traverse (leafwise f) location).run = t.deepMap f) (location : List String) :
    (traverseEntries (leafwise f) location entries).run =
      entries.filterMap fun e => (e.2.deepMap f).map (e.1, ·) := by
  induction entries with
  | nil => rfl
  | cons e entries ih =>
    obtain ⟨k, t⟩ := e
    have hfirst := h k t List.mem_cons_self
    have hothers := ih fun k t ht => h k t (List.mem_cons_of_mem _ ht)
    rw [traverseEntries, Id.run_bind, hfirst, Id.run_bind, hothers, Id.run_pure]
    cases hf : t.deepMap f <;> simp [hf]

theorem traverse_leafwise (location : List String) (t : Tree) :
    (t.traverse (leafwise f) location).run = t.deepMap f := by
  induction t using inductionOn generalizing location with
  | leaf t h =>
    rw [traverse_leaf _ _ h, deepMap_leaf h]
    rfl
  | sequence items ih =>
    rw [deepMap_eq, traverse, traverse, Id.run_bind, Id.run_bind, traverseItems_leafwise ih,
      traverseItems_leafwise ih]
  | mapping entries ih =>
    rw [deepMap_eq, traverse, traverse, Id.run_bind, Id.run_bind, traverseEntries_leafwise ih,
      traverseEntries_leafwise ih]

theorem deepMap_sequence (items : List Tree) :
    (sequence items).deepMap f = some (sequence (items.filterMap (deepMap f))) := by
  rw [deepMap_eq, traverse, Id.run_bind,
    traverseItems_leafwise fun t _ location => traverse_leafwise location t]
  rfl

theorem deepMap_mapping (entries : List (String × Tree)) :
    (mapping entries).deepMap f =
      some (mapping (entries.filterMap fun e => (e.2.deepMap f).map (e.1, ·))) := by
  rw [deepMap_eq, traverse, Id.run_bind,
    traverseEntries_leafwise fun _ t _ location => traverse_leafwise location t]
  rfl

end

theorem deepMap_some (t : Tree) : t.deepMap some = some t := by
  induction t using inductionOn with
  | leaf t h => exact deepMap_leaf h
  | sequence items ih =>
    have hitems : items.filterMap (deepMap some) = items.filterMap some := List.filterMap_congr ih
    rw [deepMap_sequence, hitems, List.filterMap_some]
  | mapping entries ih =>
    have hentries : (entries.filterMap fun e => (e.2.deepMap some).map (e.1, ·)) =
        entries.filterMap some := by
      apply List.filterMap_congr
      intro e he
      rw [ih e.1 e.2 he]
      rfl
    rw [deepMap_mapping, hentries, List.filterMap_some]

theorem deepMap_bind {f : Tree → Option Tree}
    (hf : ∀ leaf r, leaf.isContainer = false → f leaf = some r → r.isContainer = false)
    (g : Tree → Option Tree) (t : Tree) :
    (t.deepMap f).bind (deepMap g) = t.deepMap fun leaf => (f leaf).bind g := by
  induction t using inductionOn with
  | leaf t h =>
    rw [deepMap_leaf h, deepMap_leaf h]
    cases hr : f t with
    | none => rfl
    | some r => exact deepMap_leaf (hf t r h hr)
  | sequence items ih =>
    rw [deepMap_sequence, Option.bind_some, deepMap_sequence, deepMap_sequence,
      List.filterMap_filterMap, List.filterMap_congr ih]
  | mapping entries ih =>
    rw [deepMap_mapping, Option.bind_some, deepMap_mapping, deepMap_mapping,
      List.filterMap_filterMap]
    congr 2
    apply List.filterMap_congr
    intro e he
    rw [← ih e.1 e.2 he]
    cases e.2.deepMap f with
    | none => rfl
    | some r => rfl

/-- To map a template and then the outcome is to map it once with both, and to keep every leaf is to
keep the template. -/
theorem deepMap_functorial {f : Tree → Option Tree}
    (hf : ∀ leaf r, leaf.isContainer = false → f leaf = some r → r.isContainer = false)
    (g : Tree → Option Tree) (t : Tree) :
    (t.deepMap f).bind (deepMap g) = (t.deepMap fun leaf => (f leaf).bind g) ∧
      t.deepMap some = some t :=
  ⟨deepMap_bind hf g t, deepMap_some t⟩

def shifted : Tree → Option Tree
  | .null => none
  | .text _ => some .null
  | leaf => some leaf

theorem deepMap_functorial_shifted :
    let t := mapping [("a", sequence [.null, .text "x", mapping [("b", .text "y")]]), ("c", .null),
      ("d", .bool true)]
    let once := mapping [("a", sequence [.null, mapping [("b", .null)]]), ("d", .bool true)]
    let twice := mapping [("a", sequence [mapping []]), ("d", .bool true)]
    (∀ leaf r, leaf.isContainer = false → shifted leaf = some r → r.isContainer = false) ∧
      t.deepMap shifted = some once ∧ once.deepMap shifted = some twice ∧
      (t.deepMap fun leaf => (shifted leaf).bind shifted) = some twice ∧
      (Tree.null.deepMap shifted).bind (deepMap shifted) = none := by
  intro t once twice
  have hleaf : ∀ leaf r, leaf.isContainer = false → shifted leaf = some r →
      r.isContainer = false := by
    intro leaf r h hr
    cases leaf with
    | null | bool | number | text =>
      cases hr <;> rfl
    | sequence | mapping => cases h
  have honce : t.deepMap shifted = some once := rfl
  have htwice : once.deepMap shifted = some twice := rfl
  refine ⟨hleaf, honce, htwice, ?_, ?_⟩
  · rw [← (deepMap_functorial hleaf shifted t).1, honce]
    exact htwice
  · rw [(deepMap_functorial hleaf shifted .null).1]
    rfl

end ActionBridge.Tree
