import ActionBridge.Proofs.NestedWrites
import ActionBridge.Proofs.WriteFailures

namespace ActionBridge

namespace Path

structure Denotes (segment : String) (n : Nat) : Prop where
  ne_nil : segment.toList ≠ []
  digits : ∀ c ∈ segment.toList, c.isDigit = true
  value : Number.ofDigits segment.toList = n

theorem Denotes.index?_eq {segment : String} {n : Nat} (h : Denotes segment n) :
    index? segment = if n < Nat.pow 2 64 then some n else none := by
  have hempty : segment.toList.isEmpty = false := by
    rw [List.isEmpty_eq_false_iff]
    exact h.ne_nil
  have hall : segment.toList.all Char.isDigit = true := List.all_eq_true.2 h.digits
  simp only [index?, hempty, hall, h.value, Bool.not_false, Bool.true_and, decide_eq_true_eq]

end Path

namespace Tree

section

variable {items : List Tree} {segment : String} {index : Nat}

theorem fillIndex_refused (fill : Tree → Written Tree)
    (hfar : items.length + maxIndexGap < index) :
    fillIndex fill index items = ⟨items, some (.indexOutOfRange index items.length)⟩ := by
  have hgap : items.length ≤ index ∧ maxIndexGap < index - items.length := by omega
  rw [fillIndex, if_pos hgap]

theorem writeStep_refused (deep : Bool) (fill : Tree → Written Tree)
    (hindex : Path.index? segment = some index) (hfar : items.length + maxIndexGap < index) :
    writeStep deep fill segment (sequence items) =
      ⟨sequence items, some (.indexOutOfRange index items.length)⟩ := by
  simp only [writeStep, hindex]
  rw [fillIndex_refused fill hfar]
  rfl

theorem writeAt_refused_here (value : Tree) (others : List String)
    (hindex : Path.index? segment = some index) (hfar : items.length + maxIndexGap < index) :
    writeAt value (segment :: others) (sequence items) =
      ⟨sequence items, some (.indexOutOfRange index items.length)⟩ := by
  cases others with
  | nil => exact writeStep_refused false _ hindex hfar
  | cons next others => exact writeStep_refused true _ hindex hfar

theorem writeAt_refused {t : Tree} {a : List String} (value : Tree) (others : List String)
    (ha : t.follow? a = some (sequence items)) (hindex : Path.index? segment = some index)
    (hfar : items.length + maxIndexGap < index) :
    writeAt value (a ++ segment :: others) t =
      ⟨t, some (.indexOutOfRange index items.length)⟩ := by
  rw [writeAt_append (List.cons_ne_nil segment others) ha rfl,
    writeAt_refused_here value others hindex hfar, Written.map, replaceAt_self ha]

theorem writeAt_index (value : Tree) (hindex : Path.index? segment = some index)
    (hnear : index ≤ items.length + maxIndexGap) :
    writeAt value [segment] (sequence items) =
      .done (sequence ((items ++ List.replicate (index + 1 - items.length) null).set index
        (receive value (items[index]?.getD null)))) := by
  have hstep : writeAt value [segment] (sequence items) =
      (fillIndex (fun slot => .done (receive value slot)) index items).map sequence := by
    simp only [writeAt, isNull, Bool.false_eq_true, if_false, writeStep, hindex]
  rw [hstep, fillIndex_eq _ hnear]
  rfl

theorem writeAt_key_stopsOnly (value : Tree) (hindex : Path.index? segment = none)
    (items : List Tree) :
    (writeAt value [segment] (sequence items)).StopsOnly fun _ => False := by
  have hkey (entries : Entries) :
      (fillKey (fun slot => .done (receive value slot)) segment entries).StopsOnly
        fun _ => False := fillKey_stopsOnly (fun _ => .done _) segment entries
  have hstep : writeAt value [segment] (sequence items) =
      (fillAcross false (fillKey (fun slot => .done (receive value slot)) segment) items).map
        sequence := by
    simp only [writeAt, isNull, Bool.false_eq_true, if_false, writeStep, hindex]
  rw [hstep]
  exact (withMapping_stopsOnly hkey (fillMappings_stopsOnly hkey items)).map sequence

theorem length_padded (new : Tree) :
    ((items ++ List.replicate (index + 1 - items.length) null).set index new).length =
      max items.length (index + 1) := by
  rw [List.length_set, List.length_append, List.length_replicate]
  omega

theorem getElem?_padded {i : Nat} (new : Tree) (hpast : items.length ≤ i) (hi : i < index) :
    ((items ++ List.replicate (index + 1 - items.length) null).set index new)[i]? = some null := by
  have hne : index ≠ i := by omega
  have hpadding : i - items.length < index + 1 - items.length := by omega
  rw [List.getElem?_set_ne hne, List.getElem?_append_right hpast, List.getElem?_replicate,
    if_pos hpadding]

end

/-- An index of 64 bits is refused when it is more than the largest gap past the end of a sequence,
and then nothing changes. A nearer one is written, and vacant slots fill the gap before it. A number
that does not fit in 64 bits is never refused. -/
theorem set_at_index {t : Tree} {a : List String} {items : List Tree}
    (ha : t.follow? a = some (.sequence items)) {segment : String} {n : Nat}
    (hn : Path.Denotes segment n) (value : Tree) :
    (n < Nat.pow 2 64 → items.length + maxIndexGap < n → ∀ others,
      t.set ((Path.ofSteps segment others).under a) value =
        ⟨t, some (.indexOutOfRange n items.length)⟩) ∧
    (n < Nat.pow 2 64 → n ≤ items.length + maxIndexGap →
      (t.set ((Path.ofSteps segment []).under a) value).failure = none ∧
        ∃ items', (t.set ((Path.ofSteps segment []).under a) value).content.follow? a =
            some (.sequence items') ∧
          items'.length = max items.length (n + 1) ∧
          ∀ i, items.length ≤ i → i < n → items'[i]? = some null) ∧
    (Nat.pow 2 64 ≤ n → (t.set ((Path.ofSteps segment []).under a) value).failure = none) := by
  have hindex := hn.index?_eq
  have hset : t.set ((Path.ofSteps segment []).under a) value =
      (writeAt value [segment] (sequence items)).map (t.replaceAt a) :=
    set_under ha rfl (Path.ofSteps segment []) value
  refine ⟨?_, ?_, ?_⟩
  · intro hword hfar others
    rw [if_pos hword] at hindex
    exact writeAt_refused value others ha hindex hfar
  · intro hword hnear
    rw [if_pos hword] at hindex
    rw [hset, writeAt_index value hindex hnear]
    refine ⟨rfl, _, follow?_replaceAt ha _, length_padded _, ?_⟩
    intro i hpast hi
    exact getElem?_padded _ hpast hi
  · intro hlarge
    rw [if_neg (Nat.not_lt.2 hlarge)] at hindex
    rw [hset, Written.failure_map, Option.eq_none_iff_forall_ne_some]
    exact writeAt_key_stopsOnly value hindex items

def taggedItems : Tree :=
  .mapping [("tags", .sequence [.text "x"])]

theorem set_at_index_tags :
    taggedItems.follow? ["tags"] = some (.sequence [.text "x"]) ∧ Path.Denotes "01026" 1026 ∧
      Path.Denotes "3" 3 ∧
      taggedItems.set ((Path.ofSteps "01026" ["name"]).under ["tags"]) (.int 1) =
        ⟨taggedItems, some (.indexOutOfRange 1026 1)⟩ ∧
      ∃ items', (taggedItems.set ((Path.ofSteps "3" []).under ["tags"]) (.int 1)).content.follow?
          ["tags"] = some (.sequence items') ∧ items'.length = 4 ∧ items'[2]? = some null := by
  have htags : taggedItems.follow? ["tags"] = some (.sequence [.text "x"]) := rfl
  have hfar : Path.Denotes "01026" 1026 := ⟨by decide, List.all_eq_true.1 rfl, rfl⟩
  have hnear : Path.Denotes "3" 3 := ⟨by decide, List.all_eq_true.1 rfl, rfl⟩
  refine ⟨htags, hfar, hnear, ?_, ?_⟩
  · exact (set_at_index htags hfar (.int 1)).1 (by decide) (by decide) ["name"]
  · obtain ⟨-, items', hitems, hlength, hpadded⟩ :=
      (set_at_index htags hnear (.int 1)).2.1 (by decide) (by decide)
    exact ⟨items', hitems, hlength, hpadded 2 (by decide) (by decide)⟩

theorem set_takes_large_index_for_key :
    Path.Denotes "18446744073709551616" (Nat.pow 2 64) ∧
      ([] : List Tree).length + maxIndexGap < Nat.pow 2 64 ∧
      (Tree.sequence []).set (.ofSteps "18446744073709551616" []) (.int 1) =
        .done (.sequence [.mapping [("18446744073709551616", .int 1)]]) := by
  have hdigits : Path.Denotes "18446744073709551616" (Nat.pow 2 64) :=
    ⟨by decide, List.all_eq_true.1 rfl, rfl⟩
  exact ⟨hdigits, by decide, rfl⟩

end Tree

end ActionBridge
