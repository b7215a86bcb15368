import Mathlib.Data.List.Basic
import ActionBridge.Proofs.NestedWrites

namespace ActionBridge

theorem Path.index?_toString {n : Nat} (h : n < Nat.pow 2 64) :
    Path.index? (toString n) = some n := by
  have hvalue : Number.ofDigits (Nat.toDigits 10 n) = n :=
    Nat.ofDigitChars_toDigits (by decide) (by decide)
  have hall : (Nat.toDigits 10 n).all Char.isDigit = true :=
    List.all_eq_true.2 fun _ => Nat.isDigit_of_mem_toDigits (by decide) (by decide)
  have hne : (Nat.toDigits 10 n).isEmpty = false := by simp
  have htext : (toString n).toList = Nat.toDigits 10 n := by simp
  simp only [Path.index?, htext, hvalue, hall, hne, h, Bool.not_false, Bool.and_self, decide_true,
    if_true]

namespace Tree

def isMapping (t : Tree) : Bool :=
  t.shape = .mapping

section

variable {items before after : List Tree} {t : Tree}

theorem step?_middle (h : before.length < Nat.pow 2 64) :
    (sequence (before ++ t :: after)).step? (toString before.length) = some t := by
  rw [step?, Path.index?_toString h, Option.bind_some,
    List.getElem?_append_right (Nat.le_refl _), Nat.sub_self, List.getElem?_cons_zero]

theorem replaceSlot_middle (h : before.length < Nat.pow 2 64) (new : Tree) :
    (sequence (before ++ t :: after)).replaceSlot (toString before.length) new =
      sequence (before ++ new :: after) := by
  simp only [replaceSlot, Path.index?_toString h]
  rw [List.set_append_right _ _ (Nat.le_refl _), Nat.sub_self, List.set_cons_zero]

theorem set_middle (h : before.length < Nat.pow 2 64) (ht : t.isContainer = true) (p : Path)
    (value : Tree) :
    (sequence (before ++ t :: after)).set (p.under [toString before.length]) value =
      (t.set p value).map fun new => sequence (before ++ new :: after) := by
  have hfollow : (sequence (before ++ t :: after)).follow? [toString before.length] = some t := by
    rw [follow?, step?_middle h]
    rfl
  have hreplaced : (sequence (before ++ t :: after)).replaceAt [toString before.length] =
      fun new => sequence (before ++ new :: after) := by
    funext new
    rw [replaceAt, replaceAt, replaceSlot_middle h]
  rw [set_under hfollow ht, hreplaced]

end

section

variable {deep : Bool} {fill : Entries → Written Entries} {p : Path} {value : Tree}

theorem fillMappings_eq_setEach
    (hfill : ∀ entries, (mapping entries).set p value = (fill entries).map mapping) :
    ∀ {items before : List Tree}, (∀ item ∈ items, item.shape ≠ .sequence) →
      before.length + items.length ≤ Nat.pow 2 64 →
      setEach value ((items.findIdxs isMapping before.length).map
          fun i => p.under [toString i]) (sequence (before ++ items)) =
        (fillMappings deep fill items).map fun ts => sequence (before ++ ts)
  | [], _, _, _ => rfl
  | t :: ts, before, hs, hl => by
    obtain ⟨ht, hts⟩ := List.forall_mem_cons.1 hs
    have hnext : before.length + 1 + ts.length ≤ Nat.pow 2 64 := by
      rw [List.length_cons] at hl
      omega
    -- an item that has been dealt with joins those before it
    have hrest (new : Tree) : setEach value ((ts.findIdxs isMapping (before.length + 1)).map
          fun i => p.under [toString i]) (sequence (before ++ new :: ts)) =
        (fillMappings deep fill ts).map fun ts => sequence (before ++ new :: ts) := by
      have hlength : (before ++ [new]).length + ts.length ≤ Nat.pow 2 64 := by simpa using hnext
      simpa using fillMappings_eq_setEach hfill hts hlength
    have hbefore : before.length < Nat.pow 2 64 := by omega
    rw [List.findIdxs_cons, fillMappings]
    cases t with
    | mapping entries =>
      have hset : (sequence (before ++ mapping entries :: ts)).set
            (p.under [toString before.length]) value =
          ((fill entries).map mapping).map fun new => sequence (before ++ new :: ts) := by
        rw [set_middle hbefore rfl, hfill]
      have hfirst : fillItem deep fill (mapping entries) = (fill entries).map mapping := rfl
      have hmapping : (mapping entries).isMapping = true := rfl
      rw [if_pos hmapping, List.map_cons, setEach, hset, hfirst]
      simp only [Written.failure_map, Written.content_map]
      cases hf : (fill entries).failure with
      | some e => simp only [Written.map, hf]
      | none => exact hrest _
    | sequence items => exact absurd rfl ht
    | null | bool | number | text => exact hrest _

theorem fillAcross_of_isMapping {items : List Tree} (h : ∃ item ∈ items, item.isMapping = true) :
    fillAcross deep fill items = fillMappings deep fill items := by
  have hall : items.all (!·.isContainer) = false := by
    obtain ⟨item, hitem, hm⟩ := h
    refine List.all_eq_false.2 ⟨item, hitem, ?_⟩
    have hshape : item.shape = .mapping := of_decide_eq_true hm
    simp [isContainer, hshape, Shape.isContainer]
  rw [fillAcross, withMapping, hall]
  rfl

end

theorem exists_fill {k : String} (hk : Path.index? k = none) (r : List String) (value : Tree) :
    ∃ deep fill,
      (∀ entries, (mapping entries).set (.ofSteps k r) value = (fill entries).map mapping) ∧
        ∀ items, (sequence items).set (.ofSteps k r) value =
          (fillAcross deep fill items).map sequence := by
  cases r with
  | nil =>
    refine ⟨false, fillKey (fun slot => .done (receive value slot)) k, fun _ => rfl, ?_⟩
    intro items
    simp only [set, Path.ofSteps, writeAt, isNull, Bool.false_eq_true, if_false, writeStep, hk]
  | cons next r =>
    refine ⟨true, fillKey (fun slot => writeAt value (next :: r) slot.wrapScalar) k,
      fun _ => rfl, ?_⟩
    intro items
    simp only [set, Path.ofSteps, writeAt, isNull, Bool.false_eq_true, if_false, writeStep, hk]

/-- To write a key into a sequence is to write it into each of its mappings in order, up to the
first that fails. Indices are numbers of 64 bits, and no sequence is longer than they reach. -/
theorem set_across {t : Tree} {a : List String} {items : List Tree}
    (ha : t.follow? a = some (.sequence items)) (hmapping : ∃ item ∈ items, item.isMapping = true)
    (hsequence : ∀ item ∈ items, item.shape ≠ .sequence) (hlength : items.length ≤ Nat.pow 2 64)
    {k : String} (hk : Path.index? k = none) (r : List String) (value : Tree) :
    t.set ((Path.ofSteps k r).under a) value =
      setEach value ((items.findIdxs isMapping).map
        fun i => (Path.ofSteps k r).under (a ++ [toString i])) t := by
  obtain ⟨deep, fill, hfill, hacross⟩ := exists_fill hk r value
  have hpaths : (items.findIdxs isMapping).map
        (fun i => (Path.ofSteps k r).under (a ++ [toString i])) =
      ((items.findIdxs isMapping).map fun i => (Path.ofSteps k r).under [toString i]).map
        (Path.under a) := by
    simp [Path.under]
  have hitems : setEach value ((items.findIdxs isMapping).map
          fun i => (Path.ofSteps k r).under [toString i]) (sequence items) =
        (fillMappings deep fill items).map sequence := by
    have hfits : ([] : List Tree).length + items.length ≤ Nat.pow 2 64 := by simpa using hlength
    exact fillMappings_eq_setEach hfill hsequence hfits
  rw [hpaths, setEach_under ha rfl, set_under ha rfl, hacross, fillAcross_of_isMapping hmapping]
  exact congrArg (Written.map (t.replaceAt a)) hitems.symm

def offerItems : List Tree :=
  [.mapping [("price", .int 1)], .text "sold out", .mapping []]

def offers : Tree :=
  .mapping [("items", .sequence offerItems)]

theorem set_across_offers :
    Path.index? "price" = none ∧ offers.follow? ["items"] = some (.sequence offerItems) ∧
      offers.set ((Path.ofSteps "price" ["2000"]).under ["items"]) (.int 5) =
        setEach (.int 5) [(Path.ofSteps "price" ["2000"]).under ["items", "0"],
          (Path.ofSteps "price" ["2000"]).under ["items", "2"]] offers ∧
      (offers.set ((Path.ofSteps "price" ["2000"]).under ["items"]) (.int 5)).failure =
        some (.indexOutOfRange 2000 1) := by
  have hk : Path.index? "price" = none := by decide
  have hitems : offers.follow? ["items"] = some (.sequence offerItems) := rfl
  have hmapping : ∃ item ∈ offerItems, item.isMapping = true := ⟨_, List.mem_cons_self, rfl⟩
  have hsequence : ∀ item ∈ offerItems, item.shape ≠ .sequence := by decide
  have hindices : offerItems.findIdxs isMapping = [0, 2] := by decide
  have hacross := set_across hitems hmapping hsequence (by decide) hk ["2000"] (.int 5)
  rw [hindices] at hacross
  exact ⟨hk, hitems, hacross, by decide⟩

end Tree

end ActionBridge
