import ActionBridge.Proofs.Failures
import ActionBridge.Proofs.MergedEntries
import ActionBridge.Proofs.NestedWrites
import ActionBridge.Proofs.ReplyCompletion
import ActionBridge.Proofs.WalkedValues

namespace ActionBridge

namespace Tree

mutual

def valuesUnder (key : String) : Tree → List Tree
  | mapping entries => (entries.lookup key).toList
  | sequence items => itemValuesUnder key items
  | _ => []

def itemValuesUnder (key : String) : List Tree → List Tree
  | [] => []
  | t :: ts => valuesUnder key t ++ itemValuesUnder key ts

end

mutual

theorem valuesUnder_eq (key : String) :
    ∀ t : Tree, t.valuesUnder key = t.mappings.filterMap (·.lookup key)
  | mapping entries => by
    rw [valuesUnder, mappings]
    cases h : entries.lookup key <;> simp [h]
  | sequence items => itemValuesUnder_eq key items
  | null | bool _ | number _ | text _ => rfl

theorem itemValuesUnder_eq (key : String) :
    ∀ ts : List Tree, itemValuesUnder key ts = (itemMappings ts).filterMap (·.lookup key)
  | [] => rfl
  | t :: ts => by
    rw [itemValuesUnder, itemMappings, List.filterMap_append, valuesUnder_eq key t,
      itemValuesUnder_eq key ts]

end

/-- Values in one place: a single value stands for itself, a sequence takes those behind it as its
items, and any others become a sequence. -/
def gathered : List Tree → Tree
  | [] => null
  | [value] => value
  | sequence items :: values => sequence (items ++ values)
  | values => sequence values

def collected : List Tree → Option Tree
  | [] => none
  | values => some (gathered (values.dropWhile isNull))

section

theorem foldl_receive_sequence (items values : List Tree) :
    values.foldl (fun held value => receive value held) (sequence items) =
      sequence (items ++ values) := by
  induction values generalizing items with
  | nil => rw [List.foldl_nil, List.append_nil]
  | cons value values ih =>
    rw [List.foldl_cons, receive, ih, List.append_assoc, List.singleton_append]

theorem foldl_receive_of_ne_null {first : Tree} (h : first.isNull = false) (values : List Tree) :
    values.foldl (fun held value => receive value held) first = gathered (first :: values) := by
  cases values with
  | nil =>
    cases first with
    | null => cases h
    | bool | number | text | sequence | mapping => rfl
  | cons second values =>
    rw [List.foldl_cons]
    cases first with
    | null => cases h
    | sequence items =>
      rw [receive, foldl_receive_sequence, gathered, List.append_assoc, List.singleton_append]
      simp
    | bool | number | text | mapping => exact foldl_receive_sequence _ values

theorem foldl_receive_null (values : List Tree) :
    values.foldl (fun held value => receive value held) null =
      gathered (values.dropWhile isNull) := by
  induction values with
  | nil => rfl
  | cons value values ih =>
    cases value with
    | null => exact ih
    | bool | number | text | sequence | mapping => exact foldl_receive_of_ne_null rfl values

end

/-! ### Writes to one place -/

def IsNear (segments : List String) : Prop :=
  ∀ segment ∈ segments, ∀ index, Path.index? segment = some index → index ≤ maxIndexGap

theorem isFree_null {segments : List String} (h : IsNear segments) : IsFree segments null := by
  induction segments with
  | nil => rfl
  | cons segment segments ih =>
    obtain ⟨hfirst, hothers⟩ := List.forall_mem_cons.1 h
    have hbelow : IsFree segments null := ih hothers
    have hopened : null.opened segment = freshContainer segment := rfl
    rw [IsFree, hopened]
    cases hindex : Path.index? segment with
    | none =>
      have hfresh : freshContainer segment = mapping [] := by simp [freshContainer, hindex]
      rw [hfresh]
      exact ⟨trivial, hbelow⟩
    | some index =>
      have hfresh : freshContainer segment = sequence [] := by simp [freshContainer, hindex]
      have hslot : (sequence []).slot segment = null := by
        rw [slot, step?, hindex]
        rfl
      rw [hfresh, hslot]
      exact ⟨⟨index, hindex, by simpa using hfirst index hindex⟩, hbelow⟩

theorem isFree_empty {segments : List String} (hne : segments ≠ []) (h : IsNear segments) :
    IsFree segments (mapping []) := by
  obtain ⟨first, others, rfl⟩ := List.exists_cons_of_ne_nil hne
  exact ⟨trivial, isFree_null (List.forall_mem_cons.1 h).2⟩

structure HoldsAlone (segments : List String) (value t : Tree) : Prop where
  single : ∃ key entry, t = mapping [(key, entry)]
  found : t.follow? segments = some value

variable {p : Path}

theorem set_empty (h : IsNear p.segments) (value : Tree) :
    ((mapping []).set p value).failure = none ∧
      HoldsAlone p.segments value ((mapping []).set p value).content := by
  have hfree : IsFree p.segments (mapping []) := isFree_empty p.segments_ne_nil h
  have hlanded : Landed value p.segments (mapping []) ((mapping []).set p value) :=
    writeAt_landed value p.segments (mapping []) p.segments_ne_nil hfree
  refine ⟨hlanded.done, ?_, hlanded.found⟩
  obtain ⟨first, others, hsegments⟩ := List.exists_cons_of_ne_nil p.segments_ne_nil
  rw [set, hsegments]
  cases others with
  | nil => exact ⟨first, _, rfl⟩
  | cons next others => exact ⟨first, _, rfl⟩

theorem set_again {t held : Tree} (h : HoldsAlone p.segments held t) (value : Tree) :
    (t.set p value).failure = none ∧
      HoldsAlone p.segments (receive value held) (t.set p value).content := by
  have hset : t.set p value = .done (t.replaceAt p.segments (receive value held)) :=
    writeAt_of_follow? p.segments_ne_nil h.found
  rw [hset]
  refine ⟨rfl, ?_, follow?_replaceAt h.found _⟩
  obtain ⟨key, entry, rfl⟩ := h.single
  obtain ⟨first, others, hsegments⟩ := List.exists_cons_of_ne_nil p.segments_ne_nil
  obtain ⟨child, hchild, -⟩ := Option.bind_eq_some_iff.1 (hsegments ▸ h.found)
  have hchild : List.lookup first [(key, entry)] = some child := hchild
  by_cases hkey : key = first
  · rw [hsegments, replaceAt]
    simp only [Written.done, replaceSlot, Entries.put, if_pos hkey]
    exact ⟨key, _, rfl⟩
  · rw [List.lookup_cons, beq_false_of_ne (Ne.symm hkey)] at hchild
    cases hchild

end Tree

namespace Mapping

open ActionBridge.Tree

section

variable {ε σ : Type} {key : String}
variable {step : Entries → σ → Except ε σ} {write : σ → Tree → Except ε σ}

theorem eachMapping_valuesUnder
    (h : ∀ entries s, step entries s = (entries.lookup key).toList.foldlM write s) (t : Tree)
    (s : σ) : eachMapping step t s = (t.valuesUnder key).foldlM write s := by
  rw [eachMapping_eq_foldlM, valuesUnder_eq, List.foldlM_filterMap]
  congr 1
  funext s entries
  rw [h]
  cases entries.lookup key with
  | none => rfl
  | some value => exact bind_pure (write s value)

end

def writeTo (p : Path) (fragment value : Tree) : Except MappingError Tree :=
  match (fragment.set p value).failure with
  | none => .ok (fragment.set p value).content
  | some e => .error (.path e)

section

variable {p : Path}

theorem foldlM_writeTo_again {held t : Tree} (h : HoldsAlone p.segments held t)
    (values : List Tree) :
    ∃ t', values.foldlM (writeTo p) t = .ok t' ∧
      HoldsAlone p.segments (values.foldl (fun held value => receive value held) held) t' := by
  induction values generalizing held t with
  | nil => exact ⟨t, rfl, h⟩
  | cons value values ih =>
    obtain ⟨hdone, hnext⟩ := set_again h value
    obtain ⟨t', ht', hholds⟩ := ih hnext
    refine ⟨t', ?_, hholds⟩
    rw [List.foldlM_cons, writeTo, hdone]
    exact ht'

theorem foldlM_writeTo (h : IsNear p.segments) (values : List Tree) :
    ∃ entries, values.foldlM (writeTo p) (mapping []) = .ok (mapping entries) ∧
      (entries.map (·.1)).Nodup ∧ (mapping entries).get? p = collected values := by
  cases values with
  | nil =>
    refine ⟨[], rfl, .nil, ?_⟩
    obtain ⟨first, others, hsegments⟩ := List.exists_cons_of_ne_nil p.segments_ne_nil
    rw [get?, hsegments]
    rfl
  | cons value values =>
    obtain ⟨hdone, hfirst⟩ := set_empty h value
    obtain ⟨t, ht, hholds⟩ := foldlM_writeTo_again hfirst values
    obtain ⟨key, entry, rfl⟩ := hholds.single
    refine ⟨[(key, entry)], ?_, by simp, ?_⟩
    · rw [List.foldlM_cons, writeTo, hdone]
      exact ht
    · -- the first value comes into a vacant place, as if it were received there too
      have hcollected := foldl_receive_null (value :: values)
      rw [List.foldl_cons, receive] at hcollected
      rw [get?, hholds.found, hcollected, collected]
      simp

end

section

variable {es : Evaluators} {mode : EvalMode} {key selector : String} {p : Path}

theorem fragmentOf_eq_foldlM (hselector : Selector.ofText selector = .ok (.path p))
    (reply : Reply) :
    fragmentOf es mode reply ⟨none, some (.mapping [(key, .text selector)]), none⟩ =
      (reply.body.valuesUnder key).foldlM (writeTo p) (mapping []) := by
  have hleaf : selectorOf (.text selector) = .ok (.path p) := by
    rw [selectorOf, Selector.ofLeaf, hselector]
    rfl
  have hstep : ∀ entries fragment,
      walkEntries es mode .body [] [(key, .text selector)] entries fragment =
        (entries.lookup key).toList.foldlM (writeTo p) fragment := by
    intro entries fragment
    rw [walkEntries, lookupIn_body]
    cases entries.lookup key with
    | none => rfl
    | some child =>
      have hwalk : walk es mode .body ([] ++ [key]) (.text selector) child fragment =
          writeTo p fragment child := by
        rw [walk, writeLeaf, hleaf]
        · rfl
        all_goals simp
      simp only [hwalk]
      rfl
  rw [fragmentOf]
  exact eachMapping_valuesUnder hstep reply.body (mapping [])

theorem ofTrees_group (hselector : Selector.ofText selector = .ok (.path p)) :
    ResponseRules.ofTrees [.mapping [("body", .mapping [(key, .text selector)])]] =
      .ok [⟨none, some (.mapping [(key, .text selector)]), none⟩] := by
  have hchecked : Rule.checkTemplate "body" (.mapping [(key, .text selector)]) = .ok () := by
    simp only [Rule.checkTemplate, tryDeepMap, Tree.traverse, traverseEntries, Rule.checkLeaf,
      Selector.ofLeaf, hselector]
    rfl
  have hrules : ResponseRules.ofTree (.mapping [("body", .mapping [(key, .text selector)])]) =
      .ok ⟨none, some (.mapping [(key, .text selector)]), none⟩ := by
    have hbody : ResponseRules.readTemplate "body" [("body", .mapping [(key, .text selector)])] =
        .ok (some (.mapping [(key, .text selector)])) := by
      simp only [ResponseRules.readTemplate, List.lookup_cons_self, hchecked]
      rfl
    rw [ResponseRules.ofTree, Except.bind_ok_iff]
    refine ⟨none, rfl, ?_⟩
    rw [Except.bind_ok_iff]
    exact ⟨_, hbody, rfl⟩
  rw [ResponseRules.ofTrees, Except.bind_ok_iff]
  exact ⟨_, hrules, rfl⟩

/-- The values of a repeated group come together in one place of the result, in the order in which
the reply has them. -/
theorem resultOf_repeated_group (es : Evaluators) (mode : EvalMode) {reply : Reply}
    (hreply : reply.isSuccess = true) (key : String) {selector : String} {p : Path}
    (hselector : Selector.ofText selector = .ok (.path p)) (hnear : IsNear p.segments) :
    ∃ result, resultOf es ⟨mode, none, none⟩ reply
        [.mapping [("body", .mapping [(key, .text selector)])]] .null = .ok result ∧
      result.get? p = collected (reply.body.valuesUnder key) := by
  obtain ⟨entries, hentries, hn, hget⟩ := foldlM_writeTo hnear (reply.body.valuesUnder key)
  refine ⟨mapping entries, ?_, hget⟩
  have hfragment : fragmentOf es mode reply ⟨none, some (.mapping [(key, .text selector)]), none⟩ =
      .ok (mapping entries) := by
    rw [fragmentOf_eq_foldlM hselector, hentries]
  have hmapped : mapReply es ⟨mode, none, none⟩ reply
      [⟨none, some (.mapping [(key, .text selector)]), none⟩] .null = ⟨mapping entries, none⟩ := by
    rw [mapReply, foldInto_of_success hreply]
    simp only [foldRuleSets, hfragment]
    exact congrArg (Folded.mk · none) (merge_into_empty hn)
  rw [resultOf, Except.bind_ok_iff]
  refine ⟨_, ofTrees_group hselector, ?_⟩
  rw [hmapped]
  rfl

end

theorem ofText_firstId : Selector.ofText "$.ids.0" = .ok (.path (.ofSteps "ids" ["0"])) := by
  have htext : ".ids.0".toList = ['.', 'i', 'd', 's', '.', '0'] := rfl
  have hdotted : Path.dotted? ".ids.0".toList = some ".ids.0".toList := by
    simp [htext, Path.dotted?]
  have hp : Path.parse ".ids.0" = .ok (.ofSteps "ids" ["0"]) := by
    simp only [Path.parse, hdotted]
    rfl
  exact congrArg (Except.map Selector.path) hp

def nestedItems : Reply :=
  ⟨[(":status", .int 200)], .sequence [.mapping [("id", .null)], .mapping [("name", .text "n")],
    .sequence [.mapping [("id", .text "a")], .text "b", .sequence [.mapping [("id", .null)]]],
    .mapping [("id", .sequence [.int 1])]]⟩

theorem resultOf_repeated_group_nested :
    nestedItems.isSuccess = true ∧ IsNear ["ids", "0"] ∧
      ∃ result, resultOf .none ⟨.sandbox, none, none⟩ nestedItems
          [.mapping [("body", .mapping [("id", .text "$.ids.0")])]] .null = .ok result ∧
        result.get? (.ofSteps "ids" ["0"]) =
          some (.sequence [.text "a", .null, .sequence [.int 1]]) := by
  have hsuccess : nestedItems.isSuccess = true := by decide
  have hnear : IsNear ["ids", "0"] := by
    intro segment hsegment index hindex
    have hids : Path.index? "ids" = none := by decide
    have hzero : Path.index? "0" = some 0 := by decide
    rcases List.mem_cons.1 hsegment with rfl | hsegment
    · rw [hids] at hindex
      cases hindex
    · rw [List.mem_singleton.1 hsegment, hzero] at hindex
      cases hindex
      exact Nat.zero_le _
  exact ⟨hsuccess, hnear,
    resultOf_repeated_group .none .sandbox hsuccess "id" ofText_firstId hnear⟩

end Mapping

end ActionBridge
