import ActionBridge.Proofs.WriteGrowth

namespace ActionBridge

def Written.StopsOnly {α : Type} (allowed : PathError → Prop) (w : Written α) : Prop :=
  ∀ e, w.failure = some e → allowed e

namespace Written.StopsOnly

variable {α β : Type} {allowed : PathError → Prop}

theorem done (content : α) : StopsOnly allowed (.done content) := by
  intro e h
  cases h

theorem map {w : Written α} (h : w.StopsOnly allowed) (f : α → β) : (w.map f).StopsOnly allowed :=
  h

end Written.StopsOnly

inductive PathError.IsGap : PathError → Prop where
  | intro (index length : Nat) : IsGap (.indexOutOfRange index length)

namespace Tree

open Written

section

variable {allowed : PathError → Prop} {fill : Tree → Written Tree}

theorem fillKey_stopsOnly (hf : ∀ t, (fill t).StopsOnly allowed) (key : String)
    (entries : Entries) : (fillKey fill key entries).StopsOnly allowed := by
  rw [fillKey_eq]
  exact (hf _).map _

theorem fillAt_stopsOnly (hf : ∀ t, (fill t).StopsOnly allowed) (index : Nat)
    (items : List Tree) : (fillAt fill index items).StopsOnly allowed := by
  induction items generalizing index with
  | nil =>
    rw [fillAt]
    exact .done _
  | cons t ts ih =>
    cases index with
    | zero => exact (hf t).map _
    | succ i => exact (ih i).map _

theorem fillIndex_stopsOnly (hf : ∀ t, (fill t).StopsOnly PathError.IsGap) (index : Nat)
    (items : List Tree) : (fillIndex fill index items).StopsOnly PathError.IsGap := by
  unfold fillIndex
  split
  · intro e he
    cases he
    exact .intro index items.length
  · exact fillAt_stopsOnly hf index _

end

section

variable {allowed : PathError → Prop} {deep : Bool} {fill : Entries → Written Entries}

theorem withMapping_stopsOnly (hf : ∀ es, (fill es).StopsOnly allowed) {items : List Tree}
    {filled : Written (List Tree)} (h : filled.StopsOnly allowed) :
    (withMapping fill items filled).StopsOnly allowed := by
  unfold withMapping
  split
  · exact (hf []).map _
  · exact h

mutual

theorem fillMappings_stopsOnly (hf : ∀ es, (fill es).StopsOnly allowed) :
    ∀ items, (fillMappings deep fill items).StopsOnly allowed
  | [] => .done _
  | t :: ts => by
    have ht := fillItem_stopsOnly hf t
    rw [fillMappings]
    split
    · next e he =>
      intro e' he'
      cases he'
      exact ht e he
    · exact (fillMappings_stopsOnly hf ts).map _

theorem fillItem_stopsOnly (hf : ∀ es, (fill es).StopsOnly allowed) :
    ∀ t, (fillItem deep fill t).StopsOnly allowed
  | .mapping es => (hf es).map _
  | .sequence items => by
    rw [fillItem]
    split
    · exact (withMapping_stopsOnly hf (fillMappings_stopsOnly hf items)).map _
    · exact .done _
  | .null | .bool _ | .number _ | .text _ => .done _

end

end

theorem writeStep_stopsOnly {deep : Bool} {fill : Tree → Written Tree}
    (hf : ∀ t, (fill t).StopsOnly PathError.IsGap) (segment : String) (t : Tree) :
    (writeStep deep fill segment t).StopsOnly PathError.IsGap := by
  have hk := fillKey_stopsOnly hf segment
  cases t with
  | mapping entries => exact (hk entries).map _
  | sequence items =>
    rw [writeStep]
    split
    · exact (fillIndex_stopsOnly hf _ items).map _
    · exact (withMapping_stopsOnly hk (fillMappings_stopsOnly hk items)).map _
  | null | bool | number | text => exact .done _

theorem writeAt_stopsOnly (value : Tree) (segments : List String) (t : Tree) :
    (writeAt value segments t).StopsOnly PathError.IsGap := by
  fun_induction writeAt value segments t with
  | case1 t => exact .done t
  | case2 segment t => exact writeStep_stopsOnly (fun _ => .done _) segment _
  | case3 segment next segments t ih => exact writeStep_stopsOnly ih segment _

theorem set_stopsOnly (t : Tree) (p : Path) (value : Tree) :
    (t.set p value).StopsOnly PathError.IsGap :=
  writeAt_stopsOnly value p.segments t

end Tree

end ActionBridge
