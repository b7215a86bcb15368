import ActionBridge.Proofs.WriteGrowth

namespace ActionBridge

namespace Written

@[simp] theorem failure_map {α β : Type} (f : α → β) (w : Written α) :
    (w.map f).failure = w.failure := rfl

end Written

namespace Tree

def SameSlot (a b : String) : Tree → Prop
  | mapping _ => a = b
  | sequence _ => Path.index? a = Path.index? b
  | _ => True

def Admits (segment : String) : Tree → Prop
  | mapping _ => True
  | sequence items =>
    ∃ index, Path.index? segment = some index ∧ index ≤ items.length + maxIndexGap
  | _ => False

def opened (segment : String) (t : Tree) : Tree :=
  if t.isNull then freshContainer segment else t

def slot (segment : String) (t : Tree) : Tree :=
  (t.step? segment).getD null

/-- A path along which nothing stands in the way: containers that admit its segments, vacant nodes,
and a vacant slot at its end. -/
def IsFree : List String → Tree → Prop
  | [], t => t = null
  | segment :: segments, t =>
    Admits segment (t.opened segment) ∧ IsFree segments ((t.opened segment).slot segment)

def BranchesOff : List String → List String → Tree → Prop
  | a :: p, b :: q, t => ¬t.SameSlot a b ∨ ∃ u, t.step? a = some u ∧ BranchesOff p q u
  | _, _, _ => False

theorem step?_of_sameSlot {t : Tree} {a b : String} (h : t.SameSlot a b) :
    t.step? b = t.step? a := by
  cases t with
  | mapping entries =>
    have hab : a = b := h
    rw [hab]
  | sequence items =>
    have hab : Path.index? a = Path.index? b := h
    rw [step?, step?, hab]
  | null | bool | number | text => rfl

theorem opened_of_ne_null {t : Tree} (h : t ≠ null) (segment : String) : t.opened segment = t := by
  cases t with
  | null => exact absurd rfl h
  | bool | number | text | sequence | mapping => rfl

theorem wrapScalar_of_admits {t : Tree} {segment : String} (h : Admits segment (t.opened segment)) :
    t.wrapScalar = t := by
  cases t with
  | null | sequence | mapping => rfl
  | bool | number | text => exact absurd h id

theorem fillAt_eq (fill : Tree → Written Tree) {index : Nat} {items : List Tree}
    (h : index < items.length) :
    fillAt fill index items = (fill (items[index]?.getD null)).map (items.set index ·) := by
  induction items generalizing index with
  | nil => exact absurd h (Nat.not_lt_zero index)
  | cons t ts ih =>
    cases index with
    | zero => rfl
    | succ i =>
      rw [fillAt, ih (Nat.lt_of_succ_lt_succ h)]
      rfl

theorem fillIndex_eq (fill : Tree → Written Tree) {index : Nat} {items : List Tree}
    (h : index ≤ items.length + maxIndexGap) :
    fillIndex fill index items =
      (fill (items[index]?.getD null)).map
        ((items ++ List.replicate (index + 1 - items.length) null).set index ·) := by
  have hgap : ¬(items.length ≤ index ∧ maxIndexGap < index - items.length) := by omega
  have hlength : index < (items ++ List.replicate (index + 1 - items.length) null).length := by
    rw [List.length_append, List.length_replicate]
    omega
  rw [fillIndex, if_neg hgap, fillAt_eq fill hlength]
  congr 2
  -- what the padding puts into a slot past the end is what a missing slot counts as
  by_cases hi : index < items.length
  · rw [List.getElem?_append_left hi]
  · rw [List.getElem?_append_right (Nat.le_of_not_lt hi), List.getElem?_replicate]
    rw [List.getElem?_eq_none (Nat.le_of_not_lt hi)]
    split <;> rfl

structure Replaced (segment : String) (value t t' : Tree) : Prop where
  self : ∀ other, t.SameSlot segment other → t'.step? other = some value
  others : ∀ other u, ¬t.SameSlot segment other → t.step? other = some u → t'.step? other = some u

theorem replaced_put (segment : String) (value : Tree) (entries : Entries) :
    Replaced segment value (.mapping entries) (.mapping (entries.put segment value)) := by
  constructor
  · intro other hs
    have hs : segment = other := hs
    rw [step?, ← hs, Entries.lookup_put_self]
  · intro other u hs hu
    have hs : other ≠ segment := fun h => hs h.symm
    rw [step?, Entries.lookup_put_ne hs]
    exact hu

theorem replaced_set {segment : String} {index n : Nat} {items : List Tree}
    (hs : Path.index? segment = some index) (hn : index < items.length + n) (value : Tree) :
    Replaced segment value (.sequence items)
      (.sequence ((items ++ List.replicate n null).set index value)) := by
  constructor
  · intro other ho
    have ho : Path.index? segment = Path.index? other := ho
    have hlength : index < (items ++ List.replicate n null).length := by simpa using hn
    rw [step?, ← ho, hs, Option.bind_some, List.getElem?_set_self hlength]
  · intro other u ho hu
    obtain ⟨j, hj, hu⟩ := Option.bind_eq_some_iff.1 hu
    have hne : index ≠ j := by
      rintro rfl
      exact ho (hs.trans hj.symm)
    rw [step?, hj, Option.bind_some, List.getElem?_set_ne hne]
    rw [List.getElem?_append_left (List.getElem?_eq_some_iff.1 hu).1, hu]

theorem writeStep_replaces (deep : Bool) (fill : Tree → Written Tree) {segment : String} {t : Tree}
    (h : Admits segment t) :
    (writeStep deep fill segment t).failure = (fill (t.slot segment)).failure ∧
      Replaced segment (fill (t.slot segment)).content t
        (writeStep deep fill segment t).content := by
  cases t with
  | mapping entries =>
    rw [writeStep, fillKey_eq]
    exact ⟨rfl, replaced_put segment _ entries⟩
  | sequence items =>
    obtain ⟨index, hs, hi⟩ := h
    have hslot : (Tree.sequence items).slot segment = items[index]?.getD null := by
      rw [slot, step?, hs, Option.bind_some]
    rw [hslot]
    simp only [writeStep, hs, fillIndex_eq fill hi]
    exact ⟨rfl, replaced_set hs (by omega) _⟩
  | null | bool | number | text => exact absurd h id

structure Landed (value : Tree) (segments : List String) (t : Tree) (w : Written Tree) : Prop where
  done : w.failure = none
  found : w.content.follow? segments = some value
  kept : ∀ q u, BranchesOff segments q t → t.follow? q = some u → w.content.follow? q = some u

theorem landed_null (value : Tree) : Landed value [] null (.done value) :=
  ⟨rfl, rfl, fun _ _ h => absurd h id⟩

theorem writeStep_landed {value : Tree} {segment : String} {segments : List String} {t : Tree}
    (deep : Bool) {fill : Tree → Written Tree} (ha : Admits segment (t.opened segment))
    (hf : Landed value segments ((t.opened segment).slot segment)
      (fill ((t.opened segment).slot segment))) :
    Landed value (segment :: segments) t (writeStep deep fill segment (t.opened segment)) := by
  obtain ⟨hfailure, hreplaced⟩ := writeStep_replaces deep fill ha
  refine ⟨hfailure.trans hf.done, ?_, ?_⟩
  · have hsame : (t.opened segment).SameSlot segment segment := by
      cases t.opened segment <;> simp [SameSlot]
    rw [follow?, hreplaced.self segment hsame, Option.bind_some, hf.found]
  · intro q u hb hu
    cases q with
    | nil => exact absurd hb id
    | cons other q =>
      have hnull : t ≠ null := by
        rintro rfl
        cases hu
      rw [opened_of_ne_null hnull] at hreplaced hf ⊢
      obtain ⟨x, hx, hu⟩ := Option.bind_eq_some_iff.1 hu
      by_cases hs : t.SameSlot segment other
      · -- both paths go through the slot that is filled, so they part below it
        rcases hb with hb | ⟨y, hy, hb⟩
        · exact absurd hs hb
        have hxy : x = y := Option.some.inj (hx.symm.trans ((step?_of_sameSlot hs).trans hy))
        have hslot : t.slot segment = x := by rw [slot, hy, hxy, Option.getD_some]
        rw [hslot] at hreplaced hf
        rw [follow?, hreplaced.self other hs, Option.bind_some]
        exact hf.kept q u (hxy ▸ hb) hu
      · rw [follow?, hreplaced.others other x hs hx, Option.bind_some, hu]

theorem writeAt_landed (value : Tree) (segments : List String) (t : Tree) (hne : segments ≠ [])
    (h : IsFree segments t) : Landed value segments t (writeAt value segments t) := by
  fun_induction writeAt value segments t with
  | case1 t => exact absurd rfl hne
  | case2 segment t =>
    obtain ⟨ha, hv⟩ := h
    have hv : (t.opened segment).slot segment = null := hv
    apply writeStep_landed false ha
    rw [hv]
    exact landed_null value
  | case3 segment next segments t ih =>
    obtain ⟨ha, hfree⟩ := h
    apply writeStep_landed true ha
    have hbelow := ih ((t.opened segment).slot segment) (List.cons_ne_nil _ _)
    rw [wrapScalar_of_admits hfree.1] at hbelow ⊢
    exact hbelow hfree

/-- Along a free path a write succeeds and its value is read back, and along any path that branches
off from it the same is read as before. -/
theorem get?_set (t : Tree) (p : Path) (value : Tree) (h : IsFree p.segments t) :
    (t.set p value).failure = none ∧ (t.set p value).content.get? p = some value ∧
      ∀ (q : Path) (u : Tree), BranchesOff p.segments q.segments t → t.get? q = some u →
        (t.set p value).content.get? q = some u := by
  have hl : Landed value p.segments t (t.set p value) :=
    writeAt_landed value p.segments t p.segments_ne_nil h
  exact ⟨hl.done, hl.found, fun q u => hl.kept q.segments u⟩

def group : Tree :=
  .mapping [("items", .sequence [.text "first"]), ("name", .null)]

theorem get?_set_group :
    IsFree ["items", "2", "name"] group ∧ BranchesOff ["items", "2", "name"] ["items", "00"] group ∧
      (group.set ⟨["items", "2", "name"], by simp⟩ (.text "third")).content.get?
        ⟨["items", "00"], by simp⟩ = some (.text "first") := by
  have hindex : Path.index? "2" = some 2 := by decide
  have hother : Path.index? "2" ≠ Path.index? "00" := by decide
  have hslot : (Tree.sequence [.text "first"]).slot "2" = null := by
    rw [slot, step?, hindex]
    rfl
  have hname : null.opened "name" = .mapping [] := rfl
  have hfree : IsFree ["items", "2", "name"] group := by
    refine ⟨trivial, ⟨2, hindex, by decide⟩, ?_⟩
    change IsFree ["name"] ((Tree.sequence [.text "first"]).slot "2")
    rw [hslot, IsFree, hname]
    exact ⟨trivial, rfl⟩
  have hbranch : BranchesOff ["items", "2", "name"] ["items", "00"] group :=
    .inr ⟨.sequence [.text "first"], rfl, .inl hother⟩
  refine ⟨hfree, hbranch, ?_⟩
  exact (get?_set group ⟨["items", "2", "name"], by simp⟩ (.text "third") hfree).2.2
    ⟨["items", "00"], by simp⟩ (.text "first") hbranch rfl

end Tree

end ActionBridge
