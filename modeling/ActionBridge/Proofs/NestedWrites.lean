import ActionBridge.Proofs.ReadAfterWrite

namespace ActionBridge.Tree

def replaceSlot (t : Tree) (segment : String) (new : Tree) : Tree :=
  match t with
  | mapping entries => mapping (Entries.put segment new entries)
  | sequence items =>
    match Path.index? segment with
    | some index => sequence (items.set index new)
    | none => sequence items
  | t => t

def replaceAt : Tree → List String → Tree → Tree
  | _, [], new => new
  | t, segment :: segments, new =>
    t.replaceSlot segment ((t.slot segment).replaceAt segments new)

section Lens

variable {t u : Tree} {segment : String}

theorem step?_replaceSlot (h : t.step? segment = some u) (new : Tree) :
    (t.replaceSlot segment new).step? segment = some new := by
  cases t with
  | mapping entries => exact Entries.lookup_put_self segment new entries
  | sequence items =>
    obtain ⟨index, hindex, hu⟩ := Option.bind_eq_some_iff.1 h
    have hlength : index < items.length := (List.getElem?_eq_some_iff.1 hu).1
    simp only [replaceSlot, hindex, step?, Option.bind_some]
    exact List.getElem?_set_self hlength
  | null | bool | number | text => cases h

theorem replaceSlot_self (h : t.step? segment = some u) : t.replaceSlot segment u = t := by
  cases t with
  | mapping entries => exact congrArg mapping (Entries.put_of_lookup h)
  | sequence items =>
    obtain ⟨index, hindex, hu⟩ := Option.bind_eq_some_iff.1 h
    obtain ⟨hlength, rfl⟩ := List.getElem?_eq_some_iff.1 hu
    simp only [replaceSlot, hindex, List.set_getElem_self]
  | null | bool | number | text => cases h

theorem replaceSlot_replaceSlot (first second : Tree) :
    (t.replaceSlot segment first).replaceSlot segment second = t.replaceSlot segment second := by
  cases t with
  | mapping entries => exact congrArg mapping (Entries.put_put segment first second entries)
  | sequence items =>
    cases hindex : Path.index? segment with
    | none => simp only [replaceSlot, hindex]
    | some index => simp only [replaceSlot, hindex, List.set_set]
  | null | bool | number | text => rfl

theorem slot_of_step? (h : t.step? segment = some u) : t.slot segment = u := by
  rw [slot, h, Option.getD_some]

variable {p : List String}

theorem follow?_replaceAt (h : t.follow? p = some u) (new : Tree) :
    (t.replaceAt p new).follow? p = some new := by
  induction p generalizing t with
  | nil => rfl
  | cons segment p ih =>
    obtain ⟨child, hchild, hu⟩ := Option.bind_eq_some_iff.1 h
    rw [replaceAt, slot_of_step? hchild, follow?, step?_replaceSlot hchild]
    exact ih hu

theorem replaceAt_self (h : t.follow? p = some u) : t.replaceAt p u = t := by
  induction p generalizing t with
  | nil => exact (Option.some.inj h).symm
  | cons segment p ih =>
    obtain ⟨child, hchild, hu⟩ := Option.bind_eq_some_iff.1 h
    rw [replaceAt, slot_of_step? hchild, ih hu, replaceSlot_self hchild]

theorem replaceAt_replaceAt (h : t.follow? p = some u) (first second : Tree) :
    (t.replaceAt p first).replaceAt p second = t.replaceAt p second := by
  induction p generalizing t with
  | nil => rfl
  | cons segment p ih =>
    obtain ⟨child, hchild, hu⟩ := Option.bind_eq_some_iff.1 h
    rw [replaceAt, replaceAt, replaceAt, slot_of_step? hchild,
      slot_of_step? (step?_replaceSlot hchild _), replaceSlot_replaceSlot, ih hu]

end Lens

section Containers

variable {t u : Tree}

theorem isContainer_of_step? {segment : String} (h : t.step? segment = some u) :
    t.isContainer = true := by
  cases t with
  | sequence | mapping => rfl
  | null | bool | number | text => cases h

theorem isContainer_of_follow? {p : List String} (h : t.follow? p = some u)
    (hu : u.isContainer = true) : t.isContainer = true := by
  cases p with
  | nil =>
    cases h
    exact hu
  | cons segment p =>
    obtain ⟨child, hchild, -⟩ := Option.bind_eq_some_iff.1 h
    exact isContainer_of_step? hchild

theorem wrapScalar_of_isContainer (h : t.isContainer = true) : t.wrapScalar = t := by
  cases t with
  | null | sequence | mapping => rfl
  | bool | number | text => cases h

theorem opened_of_isContainer (h : t.isContainer = true) (segment : String) :
    t.opened segment = t := by
  apply opened_of_ne_null
  rintro rfl
  cases h

theorem Grown.isContainer {made : Tree → Prop} (h : Grown made t u) (ht : t.isContainer = true) :
    u.isContainer = true := by
  cases h with
  | same => exact ht
  | vacant => cases ht
  | mapping | sequence | promoted => rfl

end Containers

section Writes

variable {t u : Tree} {segment : String} {value : Tree}

theorem writeStep_of_step? (deep : Bool) (fill : Tree → Written Tree)
    (h : t.step? segment = some u) :
    writeStep deep fill segment t = (fill u).map (t.replaceSlot segment) := by
  cases t with
  | mapping entries =>
    have h : entries.lookup segment = some u := h
    rw [writeStep, fillKey_eq, h, Option.getD_some]
    rfl
  | sequence items =>
    obtain ⟨index, hindex, hu⟩ := Option.bind_eq_some_iff.1 h
    have hlength : index < items.length := (List.getElem?_eq_some_iff.1 hu).1
    have hpadding : index + 1 - items.length = 0 := by omega
    have hreplaced : (sequence items).replaceSlot segment =
        fun new => sequence (items.set index new) := by
      funext new
      simp only [replaceSlot, hindex]
    simp only [writeStep, hindex]
    rw [fillIndex_eq fill (by omega), hpadding, List.replicate_zero, List.append_nil, hu,
      Option.getD_some, hreplaced]
    rfl
  | null | bool | number | text => cases h

theorem writeAt_cons_of_step? {next : String} {others : List String} (h : t.step? segment = some u)
    (hu : u.isContainer = true) :
    writeAt value (segment :: next :: others) t =
      (writeAt value (next :: others) u).map (t.replaceSlot segment) := by
  have ht : t.opened segment = t := opened_of_isContainer (isContainer_of_step? h) segment
  rw [writeAt]
  change writeStep true _ segment (t.opened segment) = _
  rw [ht, writeStep_of_step? true _ h, wrapScalar_of_isContainer hu]

theorem writeAt_singleton_of_step? (h : t.step? segment = some u) :
    writeAt value [segment] t = .done (t.replaceSlot segment (receive value u)) := by
  have ht : t.opened segment = t := opened_of_isContainer (isContainer_of_step? h) segment
  rw [writeAt]
  change writeStep false _ segment (t.opened segment) = _
  rw [ht, writeStep_of_step? false _ h]
  rfl

theorem writeAt_append {a segments : List String} (hne : segments ≠ [])
    (h : t.follow? a = some u) (hu : u.isContainer = true) :
    writeAt value (a ++ segments) t = (writeAt value segments u).map (t.replaceAt a) := by
  induction a generalizing t with
  | nil =>
    cases h
    rfl
  | cons segment a ih =>
    obtain ⟨child, hchild, h⟩ := Option.bind_eq_some_iff.1 h
    obtain ⟨next, others, hrest⟩ :=
      List.exists_cons_of_ne_nil (List.append_ne_nil_of_right_ne_nil a hne)
    have hcontainer : child.isContainer = true := isContainer_of_follow? h hu
    rw [List.cons_append, hrest, writeAt_cons_of_step? hchild hcontainer, ← hrest, ih h]
    simp only [Written.map, replaceAt, slot_of_step? hchild]

theorem writeAt_of_follow? {p : List String} (hp : p ≠ []) (h : t.follow? p = some u) :
    writeAt value p t = .done (t.replaceAt p (receive value u)) := by
  induction p generalizing t with
  | nil => exact absurd rfl hp
  | cons segment p ih =>
    obtain ⟨child, hchild, h⟩ := Option.bind_eq_some_iff.1 h
    cases p with
    | nil =>
      cases h
      rw [writeAt_singleton_of_step? hchild, replaceAt, replaceAt]
    | cons next p =>
      have hcontainer : child.isContainer = true := by
        obtain ⟨v, hv, -⟩ := Option.bind_eq_some_iff.1 h
        exact isContainer_of_step? hv
      rw [writeAt_cons_of_step? hchild hcontainer, ih (List.cons_ne_nil next p) h]
      simp only [Written.map, Written.done, replaceAt, slot_of_step? hchild]

theorem isContainer_writeAt (segments : List String) (h : t.isContainer = true) :
    (writeAt value segments t).content.isContainer = true := by
  have hgrown : Grown (MadeOf value) t (writeAt value segments t).content :=
    writeAt_grown segments t
  exact hgrown.isContainer h

end Writes

end ActionBridge.Tree

namespace ActionBridge

/-! ### Writes one after another -/

namespace Path

def ofSteps (first : String) (others : List String) : Path :=
  ⟨first :: others, List.cons_ne_nil first others⟩

def under (steps : List String) (p : Path) : Path :=
  ⟨steps ++ p.segments, List.append_ne_nil_of_right_ne_nil steps p.segments_ne_nil⟩

end Path

namespace Tree

def setEach (value : Tree) : List Path → Tree → Written Tree
  | [], t => .done t
  | p :: ps, t =>
    let first := t.set p value
    match first.failure with
    | some _ => first
    | none => setEach value ps first.content

theorem set_under {t u : Tree} {a : List String} (h : t.follow? a = some u)
    (hu : u.isContainer = true) (p : Path) (value : Tree) :
    t.set (p.under a) value = (u.set p value).map (t.replaceAt a) :=
  writeAt_append p.segments_ne_nil h hu

theorem setEach_under {t u : Tree} {a : List String} (h : t.follow? a = some u)
    (hu : u.isContainer = true) (value : Tree) (ps : List Path) :
    setEach value (ps.map (Path.under a)) t = (setEach value ps u).map (t.replaceAt a) := by
  induction ps generalizing t u with
  | nil =>
    have hself : t.replaceAt a u = t := replaceAt_self h
    simp only [List.map_nil, setEach, Written.done, Written.map, hself]
  | cons p ps ih =>
    rw [List.map_cons, setEach, setEach, set_under h hu]
    have hcontainer : (u.set p value).content.isContainer = true :=
      isContainer_writeAt p.segments hu
    simp only [Written.failure_map, Written.content_map]
    cases hf : (u.set p value).failure with
    | some e => rfl
    | none =>
      simp only
      rw [ih (follow?_replaceAt h _) hcontainer]
      simp only [Written.map, replaceAt_replaceAt h]

end Tree

end ActionBridge
