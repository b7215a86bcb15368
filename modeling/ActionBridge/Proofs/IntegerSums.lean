import ActionBridge.Proofs.ExpressionParts
import ActionBridge.Proofs.FloatingSums
import Mathlib.Algebra.BigOperators.Group.List.Basic
import Mathlib.Data.List.ReduceOption

namespace ActionBridge

namespace Expression

def Fits (n : Int) : Prop :=
  Number.minSigned ≤ n ∧ n ≤ Number.maxSigned

def PartialSumsFit (ns : List Int) : Prop :=
  ∀ front, front <+: ns → Fits front.sum

theorem fits_iff {n : Int} : Fits n ↔ -2 ^ 63 ≤ n ∧ n < 2 ^ 63 := by
  have hmin : Number.minSigned = -2 ^ 63 := by decide
  have hmax : Number.maxSigned = 2 ^ 63 - 1 := by decide
  rw [Fits, hmin, hmax]
  omega

theorem Fits.natAbs_le {n : Int} (h : Fits n) : n.natAbs ≤ 2 ^ 63 := by
  rw [fits_iff] at h
  omega

theorem fits_zero : Fits 0 := by
  rw [fits_iff]
  decide

theorem forall_prefix_cons_iff {p : List Int → Prop} {n : Int} {ns : List Int} :
    (∀ front, front <+: n :: ns → p front) ↔ p [] ∧ ∀ front, front <+: ns → p (n :: front) := by
  simp only [List.prefix_cons_iff]
  constructor
  · exact fun h => ⟨h [] (.inl rfl), fun front hf => h _ (.inr ⟨front, rfl, hf⟩)⟩
  · rintro ⟨hnil, hcons⟩ _ (rfl | ⟨front, rfl, hf⟩)
    · exact hnil
    · exact hcons front hf

theorem checkedSum?_eq_some_iff {ns : List Int} {start total : Int} (hs : Fits start) :
    checkedSum? start ns = some total ↔
      (∀ front, front <+: ns → Fits (start + front.sum)) ∧ total = start + ns.sum := by
  induction ns generalizing start with
  | nil =>
    simp [checkedSum?, hs, eq_comm]
  | cons n ns ih =>
    rw [checkedSum?, forall_prefix_cons_iff]
    simp only [List.sum_nil, List.sum_cons, add_zero, hs, true_and, ← add_assoc]
    by_cases hf : Fits (start + n)
    · rw [if_pos (by simpa [Fits] using hf), ih hf]
    · rw [if_neg (by simpa [Fits] using hf)]
      refine iff_of_false (by simp) fun h => hf ?_
      simpa using h.1 [] List.nil_prefix

theorem checkedSum?_zero_eq_some_iff {ns : List Int} {total : Int} :
    checkedSum? 0 ns = some total ↔ PartialSumsFit ns ∧ total = ns.sum := by
  rw [checkedSum?_eq_some_iff fits_zero]
  simp only [zero_add, PartialSumsFit]

theorem mapM_toSigned? {ns : List Int} (h : ∀ n ∈ ns, Fits n) :
    (ns.map Number.int).mapM Number.toSigned? = some ns := by
  induction ns with
  | nil => rfl
  | cons n ns ih =>
    obtain ⟨hn, hns⟩ := List.forall_mem_cons.1 h
    rw [List.map_cons, List.mapM_cons, ih hns, Number.toSigned?, if_pos hn.2]
    rfl

theorem sumOf_of_partialSumsFit {ns : List Int} (h : ∀ n ∈ ns, Fits n) (hp : PartialSumsFit ns) :
    sumOf (ns.map .int) = some (.int ns.sum) := by
  rw [sumOf, mapM_toSigned? h, Option.bind_some, checkedSum?_zero_eq_some_iff.2 ⟨hp, rfl⟩]

theorem sumOf_of_not_partialSumsFit {ns : List Int} (h : ∀ n ∈ ns, Fits n)
    (hp : ¬PartialSumsFit ns) :
    sumOf (ns.map .int) = some (.number (.float (floatingSum (ns.map .int)))) := by
  have hnone : checkedSum? 0 ns = none := by
    rw [Option.eq_none_iff_forall_ne_some]
    exact fun total ht => hp (checkedSum?_zero_eq_some_iff.1 ht).1
  have hfinite := floatingSum_isFinite fun n hn => (h n hn).natAbs_le
  rw [sumOf, mapM_toSigned? h, Option.bind_some, hnone, Number.ofBinary64?, if_pos hfinite]
  rfl

theorem numbersOf_integers (ns : List Int) : numbersOf (ns.map .int) = ns.map .int := by
  induction ns with
  | nil => rfl
  | cons n ns ih =>
    rw [List.map_cons, List.map_cons, ← ih]
    rfl

theorem joinTerms_integers {values : List (Option Int)} (h : values.reduceOption ≠ []) :
    joinTerms (values.map (Option.map .int)) = sumOf (values.reduceOption.map .int) := by
  have hpresent : (values.map (Option.map Tree.int)).filterMap id =
      values.reduceOption.map Tree.int := List.reduceOption_map
  have hempty : (values.reduceOption.map Tree.int).isEmpty = false := by simpa using h
  have hnumbers : (values.reduceOption.map Tree.int).all Tree.isNumber = true := by
    simp [Tree.int, Tree.isNumber]
  rw [joinTerms, hpresent, hempty, hnumbers, numbersOf_integers]
  rfl

def positives (ns : List Int) : List Int :=
  ns.filter (0 < ·)

def negatives (ns : List Int) : List Int :=
  ns.filter (· < 0)

theorem sum_positives_negatives (ns : List Int) :
    0 ≤ (positives ns).sum ∧ (negatives ns).sum ≤ 0 ∧
      (positives ns).sum + (negatives ns).sum = ns.sum := by
  induction ns with
  | nil => simp [positives, negatives]
  | cons n ns ih =>
    simp only [positives, negatives, List.filter_cons, decide_eq_true_eq] at ih ⊢
    split <;> split <;> simp only [List.sum_cons] <;> omega

/-- Any partial sum lies between the sum of all negative integers and that of all positive ones. -/
theorem partialSumsFit_of_perm {ns order : List Int} (h : order.Perm ns)
    (hp : Fits (positives ns).sum) (hn : Fits (negatives ns).sum) : PartialSumsFit order := by
  rintro front ⟨back, rfl⟩
  have hpos : (positives ns).sum = (positives front).sum + (positives back).sum := by
    rw [← List.sum_append, positives, positives, positives, ← List.filter_append]
    exact (h.filter _).sum_eq.symm
  have hneg : (negatives ns).sum = (negatives front).sum + (negatives back).sum := by
    rw [← List.sum_append, negatives, negatives, negatives, ← List.filter_append]
    exact (h.filter _).sum_eq.symm
  have hfront := sum_positives_negatives front
  have hback := sum_positives_negatives back
  rw [fits_iff] at hp hn ⊢
  omega

theorem reduceOption_filter_any (q : Int → Bool) (values : List (Option Int)) :
    (values.filter (Option.any q)).reduceOption = values.reduceOption.filter q := by
  induction values with
  | nil => rfl
  | cons v values ih =>
    cases v with
    | none => exact ih
    | some n =>
      rw [List.reduceOption_cons_of_some, List.filter_cons, List.filter_cons, ← ih]
      cases hq : q n <;> simp [hq, List.reduceOption_cons_of_some]

theorem fits_sum_filter {values : List (Option Int)}
    (h : ∀ order : List (Option Int), order.Perm values → PartialSumsFit order.reduceOption)
    (q : Int → Bool) : Fits (values.reduceOption.filter q).sum := by
  refine h _ (List.filter_append_perm (Option.any q) values) _ ?_
  rw [List.reduceOption_append, reduceOption_filter_any]
  exact List.prefix_append _ _

section

variable {limits : Limits} {host : Host} {bound : Tree} {terms : List Expr}
  {values : List (Option Int)}

def AreWorth (limits : Limits) (host : Host) (bound : Tree) (terms : List Expr)
    (values : List (Option Int)) : Prop :=
  List.Forall₂ (fun e v => e.eval limits host bound = .ok (v.map .int)) terms values

theorem AreWorth.eval_plus (h : AreWorth limits host bound terms values)
    (hs : Within limits.maxSteps (Expr.plus terms).size) (hne : values.reduceOption ≠ []) :
    (Expr.plus terms).eval limits host bound = .ok (sumOf (values.reduceOption.map .int)) := by
  rw [← joinTerms_integers hne]
  exact Expr.eval_plus (List.forall₂_map_right_iff.2 h) hs

theorem AreWorth.of_perm {order : List Expr} (h : AreWorth limits host bound terms values)
    (ho : order.Perm terms) :
    ∃ values' : List (Option Int), AreWorth limits host bound order values' ∧
      values'.Perm values :=
  List.perm_comp_forall₂ ho h

theorem AreWorth.exists_perm {values' : List (Option Int)}
    (h : AreWorth limits host bound terms values) (hv : values'.Perm values) :
    ∃ order : List Expr, AreWorth limits host bound order values' ∧ order.Perm terms := by
  obtain ⟨order, hworth, hperm⟩ := List.perm_comp_forall₂ hv h.flip
  exact ⟨order, hworth.flip, hperm⟩

theorem AreWorth.eval_plus_of_perm {order : List Expr} {values' : List (Option Int)}
    (h : AreWorth limits host bound order values') (hv : values'.Perm values)
    (ho : order.Perm terms) (hs : Within limits.maxSteps (Expr.plus terms).size)
    (hne : values.reduceOption ≠ []) :
    (Expr.plus order).eval limits host bound = .ok (sumOf (values'.reduceOption.map .int)) := by
  refine h.eval_plus ?_ fun hnil => hne ?_
  · rw [Expr.size_plus_of_perm ho]
    exact hs
  · have hpresent : values'.reduceOption.Perm values.reduceOption := hv.filterMap id
    exact (hnil ▸ hpresent).nil_eq.symm

theorem AreWorth.eval_orders_iff (h : AreWorth limits host bound terms values)
    (hs : Within limits.maxSteps (Expr.plus terms).size)
    (hfits : ∀ n ∈ values.reduceOption, Fits n) (hne : values.reduceOption ≠ []) :
    (∀ order : List Expr, order.Perm terms →
      (Expr.plus order).eval limits host bound = .ok (some (.int values.reduceOption.sum))) ↔
      Fits (positives values.reduceOption).sum ∧ Fits (negatives values.reduceOption).sum := by
  have hpresent : ∀ {values' : List (Option Int)}, values'.Perm values →
      values'.reduceOption.Perm values.reduceOption := fun hv => hv.filterMap id
  have hfits' : ∀ {values' : List (Option Int)}, values'.Perm values →
      ∀ n ∈ values'.reduceOption, Fits n := fun hv n hn => hfits n ((hpresent hv).mem_iff.1 hn)
  constructor
  · intro hall
    have hfit : ∀ values' : List (Option Int), values'.Perm values →
        PartialSumsFit values'.reduceOption := by
      intro values' hv
      obtain ⟨order, hworth, ho⟩ := h.exists_perm hv
      have hsum := hworth.eval_plus_of_perm hv ho hs hne
      by_contra hp
      rw [hall order ho, sumOf_of_not_partialSumsFit (hfits' hv) hp] at hsum
      cases hsum
    exact ⟨fits_sum_filter hfit _, fits_sum_filter hfit _⟩
  · rintro ⟨hp, hn⟩ order ho
    obtain ⟨values', hworth, hv⟩ := h.of_perm ho
    rw [hworth.eval_plus_of_perm hv ho hs hne, sumOf_of_partialSumsFit (hfits' hv)
      (partialSumsFit_of_perm (hpresent hv) hp hn), (hpresent hv).sum_eq]

/-- Terms that are worth integers have their exact sum, as long as no partial sum leaves the range
of 64 bits, and a finite floating point number otherwise; so they do whenever their sum leaves the
range. They have their exact sum in any order just when neither the positive integers alone nor the
negative ones alone leave the range. -/
theorem evaluate_integer_terms {text : String} (h : Admits limits text (.plus terms))
    (hterms : AreWorth limits host bound terms values)
    (hfits : ∀ n ∈ values.reduceOption, Fits n) (hne : values.reduceOption ≠ []) :
    let ns := values.reduceOption
    (PartialSumsFit ns → evaluate limits host text bound = .ok (some (.int ns.sum))) ∧
    (¬PartialSumsFit ns → ∃ x : Binary64, x.isFinite = true ∧
      evaluate limits host text bound = .ok (some (.number (.float x)))) ∧
    (¬Fits ns.sum → ¬PartialSumsFit ns) ∧
    ((∀ order : List Expr, order.Perm terms →
        (Expr.plus order).eval limits host bound = .ok (some (.int ns.sum))) ↔
      Fits (positives ns).sum ∧ Fits (negatives ns).sum) := by
  intro ns
  rw [h.evaluate_eq, hterms.eval_plus h.steps hne]
  refine ⟨fun hp => ?_, fun hp => ?_, fun hsum hp => hsum (hp ns (List.prefix_refl ns)),
    hterms.eval_orders_iff h.steps hfits hne⟩
  · rw [sumOf_of_partialSumsFit hfits hp]
  · refine ⟨_, floatingSum_isFinite fun n hn => (hfits n hn).natAbs_le, ?_⟩
    rw [sumOf_of_not_partialSumsFit hfits hp]

theorem evaluate_integer_terms_largest :
    let host : Host := ⟨fun _ => none, ""⟩
    let text := "9223372036854775807 + -1 + 1"
    Admits .sandboxed text (.plus [.literal (.int 9223372036854775807), .literal (.int (-1)),
      .literal (.int 1)]) ∧
    evaluate .sandboxed host text .null = .ok (some (.int 9223372036854775807)) := by
  intro host text
  have hadmits : Admits .sandboxed text (.plus [.literal (.int 9223372036854775807),
      .literal (.int (-1)), .literal (.int 1)]) := by
    have htokens : (tokens text).toOption = some [.number (.int 9223372036854775807), .plus,
        .number (.int (-1)), .plus, .number (.int 1)] := by decide +kernel
    refine ⟨checkLength_ok.1 rfl, Expr.parse_of_tokens htokens rfl, ?_⟩
    intro max hmax
    cases hmax
    decide
  have hterms : AreWorth .sandboxed host .null [.literal (.int 9223372036854775807),
      .literal (.int (-1)), .literal (.int 1)] [some 9223372036854775807, some (-1), some 1] :=
    .cons rfl (.cons rfl (.cons rfl .nil))
  have hfits : ∀ n ∈ [9223372036854775807, -1, 1], Fits n := by
    simp [fits_iff]
  have hpartial : PartialSumsFit [9223372036854775807, -1, 1] :=
    (checkedSum?_zero_eq_some_iff.1
      (by decide : checkedSum? 0 [9223372036854775807, -1, 1] = some 9223372036854775807)).1
  exact ⟨hadmits, (evaluate_integer_terms hadmits hterms hfits (by simp)).1 hpartial⟩

theorem evaluate_integer_terms_in_other_order :
    let host : Host := ⟨fun _ => none, ""⟩
    let text := "9223372036854775807 + 1 + -1"
    Admits .sandboxed text (.plus [.literal (.int 9223372036854775807), .literal (.int 1),
      .literal (.int (-1))]) ∧
    Fits (9223372036854775807 + 1 + -1) ∧
    evaluate .sandboxed host text .null =
      .ok (some (.number (.float ⟨0x43E0000000000000⟩))) := by
  intro host text
  have hadmits : Admits .sandboxed text (.plus [.literal (.int 9223372036854775807),
      .literal (.int 1), .literal (.int (-1))]) := by
    have htokens : (tokens text).toOption = some [.number (.int 9223372036854775807), .plus,
        .number (.int 1), .plus, .number (.int (-1))] := by decide +kernel
    refine ⟨checkLength_ok.1 rfl, Expr.parse_of_tokens htokens rfl, ?_⟩
    intro max hmax
    cases hmax
    decide
  have hterms : AreWorth .sandboxed host .null [.literal (.int 9223372036854775807),
      .literal (.int 1), .literal (.int (-1))] [some 9223372036854775807, some 1, some (-1)] :=
    .cons rfl (.cons rfl (.cons rfl .nil))
  have hsum : sumOf [.int 9223372036854775807, .int 1, .int (-1)] =
      some (.number (.float ⟨0x43E0000000000000⟩)) := by
    have hfloating : floatingSum [.int 9223372036854775807, .int 1, .int (-1)] =
        ⟨0x43E0000000000000⟩ := by
      decide +kernel
    have hpartial : ¬PartialSumsFit [9223372036854775807, 1, -1] := fun h => by
      have htwo := h [9223372036854775807, 1] ⟨[-1], rfl⟩
      simp [fits_iff] at htwo
    have hfloat := sumOf_of_not_partialSumsFit (by simp [fits_iff]) hpartial
    exact hfloat.trans (congrArg (fun x => some (Tree.number (.float x))) hfloating)
  refine ⟨hadmits, by simp [fits_iff], ?_⟩
  rw [hadmits.evaluate_eq, hterms.eval_plus hadmits.steps (by simp)]
  exact congrArg Except.ok hsum

end

end Expression

end ActionBridge
