import ActionBridge.Proofs.IndexedWrites

namespace ActionBridge.Tree

/-- A path on which no key meets a sequence, so that a write along it reaches one slot at a time. A
scalar on the way counts as the sequence that it becomes. -/
def IsSingle : List String → Tree → Prop
  | [], _ => True
  | segment :: segments, t =>
    (t.shape = .sequence → (Path.index? segment).isSome = true) ∧
      IsSingle segments (t.slot segment).wrapScalar

structure StopsAt (segments front : List String) (items : List Tree) (w : Written Tree) : Prop where
  index : ∃ segment others index, segments = front ++ segment :: others ∧
    Path.index? segment = some index ∧ items.length + maxIndexGap < index ∧
    w.failure = some (.indexOutOfRange index items.length)
  found : w.content.follow? front = some (.sequence items)

section

variable {t : Tree} {segment : String} {e : PathError}

theorem shape_opened (hs : t.shape = .sequence → (Path.index? segment).isSome = true)
    (h : (t.opened segment).shape = .sequence) : (Path.index? segment).isSome = true := by
  cases t with
  | null =>
    change (freshContainer segment).shape = .sequence at h
    rw [freshContainer] at h
    split at h
    · assumption
    · cases h
  | sequence => exact hs rfl
  | bool | number | text | mapping => cases h

theorem slot_opened (t : Tree) (segment : String) :
    (t.opened segment).slot segment = t.slot segment := by
  cases t with
  | null =>
    change (freshContainer segment).slot segment = null
    rw [freshContainer]
    split
    · next hindex =>
      obtain ⟨index, hindex⟩ := Option.isSome_iff_exists.1 hindex
      rw [slot, step?, hindex]
      rfl
    · rfl
  | bool | number | text | sequence | mapping => rfl

theorem writeStep_fails {deep : Bool} {fill : Tree → Written Tree}
    (hs : t.shape = .sequence → (Path.index? segment).isSome = true)
    (he : (writeStep deep fill segment t).failure = some e) :
    (∃ items index, t = .sequence items ∧ Path.index? segment = some index ∧
        items.length + maxIndexGap < index) ∨
      Admits segment t ∧ (fill (t.slot segment)).failure = some e := by
  have hadmits (ha : Admits segment t) : (fill (t.slot segment)).failure = some e := by
    rw [← (writeStep_replaces deep fill ha).1]
    exact he
  cases t with
  | mapping entries => exact .inr ⟨trivial, hadmits trivial⟩
  | sequence items =>
    obtain ⟨index, hindex⟩ := Option.isSome_iff_exists.1 (hs rfl)
    by_cases hfar : items.length + maxIndexGap < index
    · exact .inl ⟨items, index, rfl, hindex, hfar⟩
    · have ha : Admits segment (sequence items) := ⟨index, hindex, Nat.not_lt.1 hfar⟩
      exact .inr ⟨ha, hadmits ha⟩
  | null | bool | number | text => cases he

theorem writeStep_congr {deep : Bool} {fill fill' : Tree → Written Tree} (ha : Admits segment t)
    (hfill : fill' (t.slot segment) = fill (t.slot segment)) :
    writeStep deep fill' segment t = writeStep deep fill segment t := by
  cases t with
  | mapping entries =>
    have hslot : (mapping entries).slot segment = (entries.lookup segment).getD null := rfl
    rw [hslot] at hfill
    rw [writeStep, writeStep, fillKey_eq, fillKey_eq, hfill]
  | sequence items =>
    obtain ⟨index, hindex, hnear⟩ := ha
    have hslot : (sequence items).slot segment = items[index]?.getD null := by
      rw [slot, step?, hindex, Option.bind_some]
    rw [hslot] at hfill
    simp only [writeStep, hindex]
    rw [fillIndex_eq fill' hnear, fillIndex_eq fill hnear, hfill]
  | null | bool | number | text => rfl

theorem writeStep_stops {deep : Bool} {fill fill' : Tree → Written Tree} {segments : List String}
    (hs : t.shape = .sequence → (Path.index? segment).isSome = true)
    (he : (writeStep deep fill segment t).failure = some e)
    (hfill : (fill (t.slot segment)).failure = some e →
      (∃ front items, StopsAt segments front items (fill (t.slot segment))) ∧
        fill' (t.slot segment) = fill (t.slot segment)) :
    (∃ front items, StopsAt (segment :: segments) front items (writeStep deep fill segment t)) ∧
      writeStep deep fill' segment t = writeStep deep fill segment t := by
  rcases writeStep_fails hs he with ⟨items, index, rfl, hindex, hfar⟩ | ⟨ha, hbelow⟩
  · rw [writeStep_refused deep fill hindex hfar, writeStep_refused deep fill' hindex hfar]
    exact ⟨⟨[], items, ⟨segment, segments, index, rfl, hindex, hfar, rfl⟩, rfl⟩, rfl⟩
  · obtain ⟨⟨front, items, ⟨next, others, index, rfl, hindex, hfar, hfailure⟩, hfound⟩, hsame⟩ :=
      hfill hbelow
    obtain ⟨hstep, hreplaced⟩ := writeStep_replaces deep fill ha
    have hself : t.SameSlot segment segment := by
      cases t <;> simp [SameSlot]
    refine ⟨⟨segment :: front, items, ?_, ?_⟩, writeStep_congr ha hsame⟩
    · exact ⟨next, others, index, rfl, hindex, hfar, hstep.trans hfailure⟩
    · rw [follow?, hreplaced.self segment hself]
      exact hfound

end

theorem writeAt_stops {value other t : Tree} {segments : List String} {e : PathError}
    (hs : IsSingle segments t) (he : (writeAt value segments t).failure = some e) :
    (∃ front items, StopsAt segments front items (writeAt value segments t)) ∧
      writeAt other segments t = writeAt value segments t := by
  fun_induction writeAt value segments t with
  | case1 t => cases he
  | case2 segment t =>
    apply writeStep_stops (shape_opened hs.1) he
    intro hdone
    cases hdone
  | case3 segment next segments t ih =>
    apply writeStep_stops (shape_opened hs.1) he
    intro hbelow
    have hslot : (t.opened segment).slot segment = t.slot segment := slot_opened t segment
    exact ih _ (hslot ▸ hs.2) hbelow

/-- A write that is refused on a single path leaves the tree exactly as it was if, and only if, the
sequence that refuses the index was there before. Otherwise it leaves containers on the way to that
sequence, and nothing else. -/
theorem set_refused {t : Tree} {p : Path} {value : Tree} {e : PathError}
    (hs : IsSingle p.segments t) (he : (t.set p value).failure = some e) :
    ∃ front items, StopsAt p.segments front items (t.set p value) ∧
      ((t.set p value).content = t ↔ t.follow? front = some (.sequence items)) ∧
      Grown (MadeOf null) t (t.set p value).content := by
  obtain ⟨⟨front, items, hstops⟩, hnull⟩ :
      (∃ front items, StopsAt p.segments front items (t.set p value)) ∧
        t.set p null = t.set p value := writeAt_stops hs he
  refine ⟨front, items, hstops, ?_, ?_⟩
  · constructor
    · intro hsame
      rw [← hstops.found, hsame]
    · intro hthere
      obtain ⟨segment, others, index, hsegments, hindex, hfar, -⟩ := hstops.index
      have hrefused : writeAt value (front ++ segment :: others) t =
          ⟨t, some (.indexOutOfRange index items.length)⟩ :=
        writeAt_refused value others hthere hindex hfar
      rw [set, hsegments, hrefused]
  · rw [← hnull]
    exact writeAt_grown p.segments t

def twoLists : Tree :=
  .mapping [("first", .sequence [.text "x"]), ("rest", .sequence [])]

theorem set_refused_there :
    IsSingle ["first", "5000"] twoLists ∧
      (twoLists.set (.ofSteps "first" ["5000"]) (.int 1)).failure =
        some (.indexOutOfRange 5000 1) ∧
      ∃ front items, StopsAt ["first", "5000"] front items
          (twoLists.set (.ofSteps "first" ["5000"]) (.int 1)) ∧
        ((twoLists.set (.ofSteps "first" ["5000"]) (.int 1)).content = twoLists ↔
          twoLists.follow? front = some (.sequence items)) := by
  have hs : IsSingle ["first", "5000"] twoLists :=
    ⟨(by intro h; cases h), (by intro _; decide), trivial⟩
  have he : (twoLists.set (.ofSteps "first" ["5000"]) (.int 1)).failure =
      some (.indexOutOfRange 5000 1) := rfl
  obtain ⟨front, items, hstops, hsame, -⟩ := set_refused hs he
  exact ⟨hs, he, front, items, hstops, hsame⟩

theorem set_refused_leaves_sequence :
    IsSingle ["a", "1025"] (.mapping []) ∧
      (Tree.mapping []).set (.ofSteps "a" ["1025"]) (.int 1) =
        ⟨.mapping [("a", .sequence [])], some (.indexOutOfRange 1025 0)⟩ ∧
      Tree.mapping [("a", .sequence [])] ≠ .mapping [] := by
  refine ⟨⟨?_, ?_, trivial⟩, rfl, ?_⟩
  · intro h
    cases h
  · intro h
    cases h
  · intro h
    cases h

end ActionBridge.Tree
