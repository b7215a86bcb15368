import ActionBridge.Proofs.Entries
import ActionBridge.Proofs.Growth

namespace ActionBridge

namespace Written

@[simp] theorem content_map {α β : Type} (f : α → β) (w : Written α) :
    (w.map f).content = f w.content := rfl

end Written

namespace Tree

theorem fillKey_eq (fill : Tree → Written Tree) (key : String) (entries : Entries) :
    fillKey fill key entries =
      (fill ((entries.lookup key).getD null)).map fun t => entries.put key t := by
  induction entries with
  | nil => rfl
  | cons e es ih =>
    obtain ⟨k, t⟩ := e
    rw [fillKey, List.lookup_cons]
    by_cases hk : k = key
    · subst hk
      simp only [if_true, beq_self_eq_true, Option.getD_some, Entries.put]
    · simp only [if_neg hk, beq_false_of_ne (Ne.symm hk), Entries.put, ih]
      rfl

section

variable {made : Tree → Prop} {fill : Tree → Written Tree}

theorem fillKey_grown (hv : made null) (hf : ∀ t, Grown made t (fill t).content)
    (key : String) (entries : Entries) :
    Grown made (.mapping entries) (.mapping (fillKey fill key entries).content) := by
  rw [fillKey_eq, Written.content_map]
  rcases entries.first_or_new key with ⟨before, t, after, rfl, hn⟩ | hn
  · rw [Entries.lookup_first hn, Entries.put_first hn]
    apply EntriesGrown.grown
    exact (EntriesGrown.same before).append (.cons (hf t) (.same after))
  · rw [Entries.lookup_new hn, Entries.put_new hn]
    refine .mapping (.same entries) ?_ ?_
    · simpa using hn
    · simpa using (hf null).made_of_vacant hv

theorem fillAt_grown (hf : ∀ t, Grown made t (fill t).content) (index : Nat) (items : List Tree) :
    ItemsGrown made items (fillAt fill index items).content := by
  induction items generalizing index with
  | nil =>
    rw [fillAt]
    exact .nil
  | cons t ts ih =>
    cases index with
    | zero => exact .cons (hf t) (.same ts)
    | succ i => exact .cons (.same t) (ih i)

theorem fillIndex_grown (hv : made null) (hf : ∀ t, Grown made t (fill t).content)
    (index : Nat) (items : List Tree) :
    Grown made (.sequence items) (.sequence (fillIndex fill index items).content) := by
  unfold fillIndex
  split
  · exact .same _
  · exact .padded hv (fillAt_grown hf index _)

end

section

variable {made : Tree → Prop} {deep : Bool} {fill : Entries → Written Entries}

theorem withMapping_grown (hm : ∀ t, Grown made (.mapping []) t → made t)
    (hf : ∀ es, Grown made (.mapping es) (.mapping (fill es).content)) {items : List Tree}
    {filled : Written (List Tree)} (h : ItemsGrown made items filled.content) :
    Grown made (.sequence items) (.sequence (withMapping fill items filled).content) := by
  unfold withMapping
  split
  · rw [Written.content_map]
    refine .sequence (.same items) ?_
    simpa using hm _ (hf [])
  · exact h.grown

mutual

theorem fillMappings_grown (hm : ∀ t, Grown made (.mapping []) t → made t)
    (hf : ∀ es, Grown made (.mapping es) (.mapping (fill es).content)) :
    ∀ items, ItemsGrown made items (fillMappings deep fill items).content
  | [] => .nil
  | t :: ts => by
    have ht := fillItem_grown hm hf t
    rw [fillMappings]
    split
    · exact .cons ht (.same ts)
    · exact .cons ht (fillMappings_grown hm hf ts)

theorem fillItem_grown (hm : ∀ t, Grown made (.mapping []) t → made t)
    (hf : ∀ es, Grown made (.mapping es) (.mapping (fill es).content)) :
    ∀ t, Grown made t (fillItem deep fill t).content
  | .mapping es => hf es
  | .sequence items => by
    rw [fillItem]
    split
    · exact withMapping_grown hm hf (fillMappings_grown hm hf items)
    · exact .same _
  | .null | .bool _ | .number _ | .text _ => .same _

end

end

section

variable {value : Tree}

theorem receive_grown (slot : Tree) : Grown (MadeOf value) slot (receive value slot) := by
  cases slot with
  | null => exact .vacant .copy
  | sequence items => exact .sequence (.same items) (by simpa using .copy)
  | bool | number | text | mapping =>
    exact .promoted (by simp [shape]) (by simp [shape]) (.same _) (by simpa using .copy)

theorem writeStep_grown {deep : Bool} {fill : Tree → Written Tree}
    (hf : ∀ t, Grown (MadeOf value) t (fill t).content) (segment : String) (t : Tree) :
    Grown (MadeOf value) t (writeStep deep fill segment t).content := by
  have hk := fillKey_grown .vacant hf segment
  cases t with
  | mapping entries => exact hk entries
  | sequence items =>
    rw [writeStep]
    split
    · exact fillIndex_grown .vacant hf _ items
    · have hm : ∀ t, Grown (MadeOf value) (.mapping []) t → MadeOf value t :=
        fun _ => Grown.madeOf_mapping
      exact withMapping_grown hm hk (fillMappings_grown hm hk items)
  | null | bool | number | text => exact .same _

theorem Grown.of_vacant_node {t new : Tree} {segment : String}
    (h : Grown (MadeOf value) (if t.isNull then freshContainer segment else t) new) :
    Grown (MadeOf value) t new := by
  cases t with
  | null => exact h.of_freshContainer
  | bool | number | text | sequence | mapping => exact h

theorem writeAt_grown (segments : List String) (t : Tree) :
    Grown (MadeOf value) t (writeAt value segments t).content := by
  fun_induction writeAt value segments t with
  | case1 t => exact .same t
  | case2 segment t =>
    have hf (slot : Tree) : Grown (MadeOf value) slot (Written.done (receive value slot)).content :=
      receive_grown slot
    exact (writeStep_grown hf segment _).of_vacant_node
  | case3 segment next segments t ih =>
    -- a scalar in the slot is wrapped before the write goes on, which promotes it
    have hf (slot : Tree) : Grown (MadeOf value) slot
        (writeAt value (next :: segments) slot.wrapScalar).content := (ih slot).of_wrapScalar
    exact (writeStep_grown hf segment _).of_vacant_node

end

/-- Whether it succeeds or fails, a write keeps all of a tree, and what it adds is put together from
the value, vacant slots and new containers. -/
theorem set_keeps (t : Tree) (p : Path) (value : Tree) :
    Keeps t (t.set p value).content ∧ Grown (MadeOf value) t (t.set p value).content := by
  have h : Grown (MadeOf value) t (t.set p value).content := writeAt_grown p.segments t
  exact ⟨h.keeps, h⟩

end Tree

end ActionBridge
