import ActionBridge.Path.Write
/-!
What may become of a tree that is only written into. All that it holds stays, in its place and in
its order; new things come into vacant slots, to the ends of containers, and behind a value whose
slot turns into a sequence.
-/

namespace ActionBridge.Tree

/-- Put together from copies of `value`, vacant slots, and containers around them. -/
inductive MadeOf (value : Tree) : Tree → Prop where
  | copy : MadeOf value value
  | vacant : MadeOf value null
  | sequence {items : List Tree} :
      (∀ t ∈ items, MadeOf value t) → MadeOf value (.sequence items)
  | mapping {entries : Entries} :
      (∀ e ∈ entries, MadeOf value e.2) → MadeOf value (.mapping entries)

mutual

/-- The new tree holds all that the old one holds, and whatever else it holds is `made`. -/
inductive Grown (made : Tree → Prop) : Tree → Tree → Prop where
  | same (t : Tree) : Grown made t t
  | vacant {new : Tree} : made new → Grown made null new
  | mapping {entries kept added : Entries} : EntriesGrown made entries kept →
      (∀ e ∈ added, e.1 ∉ entries.map (·.1)) → (∀ e ∈ added, made e.2) →
      Grown made (.mapping entries) (.mapping (kept ++ added))
  | sequence {items kept added : List Tree} : ItemsGrown made items kept →
      (∀ t ∈ added, made t) → Grown made (.sequence items) (.sequence (kept ++ added))
  | promoted {old first : Tree} {others : List Tree} : old.shape ≠ .absent →
      old.shape ≠ .sequence → Grown made old first → (∀ t ∈ others, made t) →
      Grown made old (.sequence (first :: others))

inductive ItemsGrown (made : Tree → Prop) : List Tree → List Tree → Prop where
  | nil : ItemsGrown made [] []
  | cons {t t' : Tree} {ts ts' : List Tree} : Grown made t t' → ItemsGrown made ts ts' →
      ItemsGrown made (t :: ts) (t' :: ts')

inductive EntriesGrown (made : Tree → Prop) : Entries → Entries → Prop where
  | nil : EntriesGrown made [] []
  | cons {k : String} {t t' : Tree} {es es' : Entries} : Grown made t t' →
      EntriesGrown made es es' → EntriesGrown made ((k, t) :: es) ((k, t') :: es')

end

def Keeps : Tree → Tree → Prop :=
  Grown fun _ => True

variable {made made' : Tree → Prop}

mutual

theorem Grown.mono (h : ∀ t, made t → made' t) :
    ∀ {old new : Tree}, Grown made old new → Grown made' old new
  | _, _, .same t => .same t
  | _, _, .vacant hm => .vacant (h _ hm)
  | _, _, .mapping hk hf hm => .mapping (hk.mono h) hf fun e he => h _ (hm e he)
  | _, _, .sequence hk hm => .sequence (hk.mono h) fun t ht => h _ (hm t ht)
  | _, _, .promoted ha hs hf hm => .promoted ha hs (hf.mono h) fun t ht => h _ (hm t ht)

theorem ItemsGrown.mono (h : ∀ t, made t → made' t) :
    ∀ {old new : List Tree}, ItemsGrown made old new → ItemsGrown made' old new
  | _, _, .nil => .nil
  | _, _, .cons ht hts => .cons (ht.mono h) (hts.mono h)

theorem EntriesGrown.mono (h : ∀ t, made t → made' t) :
    ∀ {old new : Entries}, EntriesGrown made old new → EntriesGrown made' old new
  | _, _, .nil => .nil
  | _, _, .cons ht hes => .cons (ht.mono h) (hes.mono h)

end

theorem Grown.keeps {old new : Tree} (h : Grown made old new) : Keeps old new :=
  h.mono fun _ _ => trivial

theorem ItemsGrown.same (ts : List Tree) : ItemsGrown made ts ts := by
  induction ts with
  | nil => exact .nil
  | cons t ts ih => exact .cons (.same t) ih

theorem EntriesGrown.same (es : Entries) : EntriesGrown made es es := by
  induction es with
  | nil => exact .nil
  | cons e es ih => exact .cons (.same e.2) ih

theorem EntriesGrown.append {a a' b b' : Entries} (ha : EntriesGrown made a a')
    (hb : EntriesGrown made b b') : EntriesGrown made (a ++ b) (a' ++ b') := by
  induction a generalizing a' with
  | nil => cases ha; exact hb
  | cons e es ih =>
    cases ha with
    | cons ht hes => exact .cons ht (ih hes)

theorem ItemsGrown.grown {old new : List Tree} (h : ItemsGrown made old new) :
    Grown made (.sequence old) (.sequence new) := by
  rw [← List.append_nil new]
  exact .sequence h (by simp)

theorem EntriesGrown.grown {old new : Entries} (h : EntriesGrown made old new) :
    Grown made (.mapping old) (.mapping new) := by
  rw [← List.append_nil new]
  exact .mapping h (by simp) (by simp)

theorem Grown.made_of_vacant {new : Tree} (hv : made null) (h : Grown made null new) :
    made new := by
  cases h with
  | same => exact hv
  | vacant hm => exact hm
  | promoted ha => exact absurd rfl ha

theorem ItemsGrown.made_of_vacant {n : Nat} {new : List Tree} (hv : made null)
    (h : ItemsGrown made (List.replicate n null) new) : ∀ t ∈ new, made t := by
  induction n generalizing new with
  | zero => cases h; simp
  | succ n ih =>
    cases h with
    | cons ht hts =>
      exact List.forall_mem_cons.2 ⟨ht.made_of_vacant hv, ih hts⟩

theorem ItemsGrown.split {a b new : List Tree} (h : ItemsGrown made (a ++ b) new) :
    ∃ a' b', new = a' ++ b' ∧ ItemsGrown made a a' ∧ ItemsGrown made b b' := by
  induction a generalizing new with
  | nil => exact ⟨[], new, rfl, .nil, h⟩
  | cons t ts ih =>
    cases h with
    | cons ht hts =>
      obtain ⟨a', b', rfl, ha, hb⟩ := ih hts
      exact ⟨_ :: a', b', rfl, .cons ht ha, hb⟩

theorem Grown.padded {items new : List Tree} {n : Nat} (hv : made null)
    (h : ItemsGrown made (items ++ List.replicate n null) new) :
    Grown made (.sequence items) (.sequence new) := by
  obtain ⟨kept, added, rfl, hk, ha⟩ := h.split
  exact .sequence hk (ha.made_of_vacant hv)

theorem Grown.of_wrapScalar {slot new : Tree} (h : Grown made slot.wrapScalar new) :
    Grown made slot new := by
  unfold wrapScalar at h
  split at h
  · next hs =>
    have ha : slot.shape ≠ .absent := by simp [hs]
    have hq : slot.shape ≠ .sequence := by simp [hs]
    cases h with
    | same => exact .promoted ha hq (.same slot) (by simp)
    | sequence hk hm =>
      cases hk with
      | cons ht hts =>
        cases hts
        exact .promoted ha hq ht hm
    | promoted _ hne => exact absurd rfl hne
  · exact h

theorem Grown.madeOf_mapping {value : Tree} :
    ∀ {new : Tree}, Grown (MadeOf value) (.mapping []) new → MadeOf value new
  | _, .same _ => .mapping (by simp)
  | _, .mapping .nil _ hm => .mapping hm
  | _, .promoted _ _ hf hm => .sequence (List.forall_mem_cons.2 ⟨hf.madeOf_mapping, hm⟩)

theorem Grown.madeOf_sequence {value new : Tree}
    (h : Grown (MadeOf value) (.sequence []) new) : MadeOf value new := by
  cases h with
  | same => exact .sequence (by simp)
  | sequence hk hm => cases hk; exact .sequence hm
  | promoted _ hs => exact absurd rfl hs

theorem Grown.of_freshContainer {value new : Tree} {segment : String}
    (h : Grown (MadeOf value) (freshContainer segment) new) : Grown (MadeOf value) null new := by
  unfold freshContainer at h
  split at h
  · exact .vacant h.madeOf_sequence
  · exact .vacant h.madeOf_mapping

end ActionBridge.Tree
