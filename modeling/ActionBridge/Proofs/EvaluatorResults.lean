import ActionBridge.Proofs.ExpressionLimits
import ActionBridge.Proofs.WellFormedness

namespace ActionBridge

def IsWellFormedResult (value : Option Tree) : Prop :=
  ∀ t, value = some t → t.WellFormed

theorem isWellFormedResult_some {t : Tree} (h : t.WellFormed) : IsWellFormedResult (some t) := by
  rintro _ ⟨⟩
  exact h

theorem isWellFormedResult_none : IsWellFormedResult none := by
  rintro _ ⟨⟩

theorem isWellFormedResult_map {α : Type} {f : α → Tree} (h : ∀ a, (f a).WellFormed)
    (a : Option α) : IsWellFormedResult (a.map f) := by
  intro t ht
  obtain ⟨b, -, rfl⟩ := Option.map_eq_some_iff.1 ht
  exact h b

def Evaluators.WellFormed (es : Evaluators) : Prop :=
  ∀ mode evaluator, es.get? mode = some evaluator → ∀ text bound, bound.WellFormed →
    Yields IsWellFormedResult (evaluator text bound)

/-! ### Expressions as they are read -/

namespace Expr

mutual

def WellFormed : Expr → Prop
  | literal t => t.WellFormed
  | selector _ => True
  | call _ arguments => AllWellFormed arguments
  | plus terms => AllWellFormed terms

def AllWellFormed : List Expr → Prop
  | [] => True
  | e :: es => WellFormed e ∧ AllWellFormed es

end

theorem AllWellFormed.append {es es' : List Expr} (h : AllWellFormed es) (h' : AllWellFormed es') :
    AllWellFormed (es ++ es') := by
  induction es with
  | nil => exact h'
  | cons e es ih => exact ⟨h.1, ih h.2⟩

theorem AllWellFormed.concat {es : List Expr} {e : Expr} (h : AllWellFormed es)
    (he : e.WellFormed) : AllWellFormed (es ++ [e]) :=
  h.append ⟨he, trivial⟩

theorem AllWellFormed.ofTerms {terms : List Expr} (h : AllWellFormed terms) :
    (ofTerms terms).WellFormed := by
  match terms, h with
  | [], h => exact h
  | [_], h => exact h.1
  | _ :: _ :: _, h => exact h

end Expr

namespace Expression

open ActionBridge.Expr

def Bracket.WellFormed : Bracket → Prop
  | ⟨before, .group⟩ => AllWellFormed before
  | ⟨before, .call _ arguments⟩ => AllWellFormed before ∧ AllWellFormed arguments

theorem operand?_wellFormed {token : Token} {e : Expr} (h : operand? token = some e) :
    e.WellFormed := by
  cases token with
  | text | number | selector =>
    cases h
    trivial
  | word name =>
    obtain ⟨t, ht, rfl⟩ := Option.map_eq_some_iff.1 h
    apply Tree.wellFormed_of_scalar
    unfold wordLiteral? at ht
    split at ht
    · cases ht
      rfl
    · split at ht
      · cases ht
        rfl
      · split at ht <;> cases ht
        rfl
  | open_ | close | comma | plus => cases h

theorem Reads.wellFormed {limit : Option Nat} {e : Expr} {place : Place} {brackets : List Bracket}
    {terms : List Expr} {tokens : List Token} (h : Reads limit e place brackets terms tokens)
    (hb : ∀ b ∈ brackets, b.WellFormed) (ht : AllWellFormed terms) : e.WellFormed := by
  induction h with
  | operand ho _ ih => exact ih hb (ht.concat (operand?_wellFormed ho))
  | group _ _ ih => exact ih (List.forall_mem_cons.2 ⟨ht, hb⟩) trivial
  | constant _ _ ih => exact ih hb (ht.concat trivial)
  | call _ _ _ _ ih => exact ih (List.forall_mem_cons.2 ⟨⟨ht, trivial⟩, hb⟩) trivial
  | plus _ ih => exact ih hb ht
  | finish he =>
    rw [← he]
    exact ht.ofTerms
  | closeGroup _ ih =>
    obtain ⟨hbefore, hb⟩ := List.forall_mem_cons.1 hb
    exact ih hb (AllWellFormed.concat hbefore ht.ofTerms)
  | argument _ ih =>
    obtain ⟨⟨hbefore, harguments⟩, hb⟩ := List.forall_mem_cons.1 hb
    exact ih (List.forall_mem_cons.2 ⟨⟨hbefore, harguments.concat ht.ofTerms⟩, hb⟩) trivial
  | closeCall _ ih =>
    obtain ⟨⟨hbefore, harguments⟩, hb⟩ := List.forall_mem_cons.1 hb
    exact ih hb (hbefore.concat (harguments.concat ht.ofTerms))

theorem parse_wellFormed {limit : Option Nat} {text : String} {e : Expr}
    (h : Expr.parse limit text = .ok e) : e.WellFormed := by
  unfold Expr.parse at h
  split at h
  · cases h
  · exact (ofTokens_ok.1 h).2.wellFormed (by simp) trivial

/-! ### Functions -/

section

variable {arguments : List (Option Tree)}

theorem unary_yields {good : Option Tree → Prop} {name : String}
    {f : Option Tree → Except EvaluationError (Option Tree)}
    (hf : ∀ a ∈ arguments, Yields good (f a)) : Yields good (unary name arguments f) := by
  unfold unary
  split
  · exact hf _ (List.mem_singleton.2 rfl)
  · exact .error _

theorem mapText_wellFormed (name : String) (arguments : List (Option Tree)) (f : String → String) :
    Yields IsWellFormedResult (mapText name arguments f) := by
  refine unary_yields fun a _ => .ok (isWellFormedResult_map ?_ a)
  exact fun _ => trivial

theorem join_wellFormed (items separator : Option Tree) :
    IsWellFormedResult (join items separator) := by
  unfold join
  split
  · exact isWellFormedResult_none
  · exact isWellFormedResult_some trivial
  · exact isWellFormedResult_some trivial

theorem joinArguments_wellFormed (arguments : List (Option Tree)) :
    Yields IsWellFormedResult (joinArguments arguments) := by
  unfold joinArguments
  split
  · exact .ok (join_wellFormed _ _)
  · exact .ok (join_wellFormed _ _)
  · exact .error _

theorem split_wellFormed (text separator : String) :
    Yields IsWellFormedResult (split text separator) := by
  unfold Expression.split
  split
  · exact .error _
  · refine .ok (isWellFormedResult_some (Tree.wellFormed_sequence_iff.2 ?_))
    intro t ht
    obtain ⟨_, -, rfl⟩ := List.mem_map.1 ht
    trivial

theorem splitArguments_wellFormed (arguments : List (Option Tree)) :
    Yields IsWellFormedResult (splitArguments arguments) := by
  unfold splitArguments
  split
  · exact split_wellFormed _ _
  · exact .ok isWellFormedResult_none
  · exact .error _

theorem length_wellFormed (a : Option Tree) : Yields IsWellFormedResult (length a) := by
  unfold length
  split
  · exact .ok isWellFormedResult_none
  · exact .ok (isWellFormedResult_some trivial)
  · exact .ok (isWellFormedResult_some trivial)
  · exact .ok (isWellFormedResult_some trivial)
  · exact .error _

theorem first_wellFormed {a : Option Tree} (h : IsWellFormedResult a) :
    IsWellFormedResult (first a) := by
  unfold first
  split
  · intro t ht
    exact Tree.wellFormed_sequence_iff.1 (h _ rfl) t (List.mem_of_head? ht)
  · exact h

theorem firstPresent_wellFormed (h : ∀ a ∈ arguments, IsWellFormedResult a) :
    IsWellFormedResult (firstPresent arguments) := by
  intro t ht
  obtain ⟨a, ha, rfl⟩ := List.mem_filterMap.1 (List.mem_of_find?_eq_some ht)
  exact h _ ha t rfl

theorem toNumber_wellFormed (t : Tree) : Yields Tree.WellFormed (toNumber t) := by
  unfold toNumber
  split
  · exact .ok trivial
  · exact .ok trivial
  · split
    · exact .ok trivial
    · exact .error _
  · exact .error _

theorem buildFrom_wellFormed {built : Tree} (hb : built.WellFormed)
    (h : ∀ a ∈ arguments, IsWellFormedResult a) :
    Yields Tree.WellFormed (buildFrom built arguments) := by
  fun_induction buildFrom built arguments with
  | case1 | case3 | case5 => exact .error _
  | case2 built key arguments path _ ih =>
    exact ih hb fun a ha => h a (by simp [ha])
  | case4 built key arguments path _ t written _ ih =>
    refine ih (Tree.set_wellFormed ?_ path hb) fun a ha => h a (by simp [ha])
    exact h (some t) (by simp) t rfl
  | case6 => exact .ok hb

theorem build_wellFormed (h : ∀ a ∈ arguments, IsWellFormedResult a) :
    Yields IsWellFormedResult (build arguments) := by
  unfold build
  split
  · exact .error _
  · exact (buildFrom_wellFormed Tree.wellFormed_empty h).map fun _ => isWellFormedResult_some

theorem lookupVariable_wellFormed (host : Host) (a : Option Tree) :
    Yields IsWellFormedResult (lookupVariable host a) := by
  unfold lookupVariable
  split
  · refine .ok (isWellFormedResult_map ?_ _)
    exact fun _ => trivial
  · exact .error _

theorem sumOf_wellFormed (ns : List Number) : IsWellFormedResult (sumOf ns) := by
  unfold sumOf
  dsimp only
  split
  · exact isWellFormedResult_some trivial
  · refine isWellFormedResult_map ?_ _
    exact fun _ => trivial

theorem joinTerms_wellFormed (terms : List (Option Tree)) :
    IsWellFormedResult (joinTerms terms) := by
  unfold joinTerms
  dsimp only
  split
  · exact isWellFormedResult_none
  · split
    · exact sumOf_wellFormed _
    · exact isWellFormedResult_some trivial

theorem call_wellFormed (access : Bool) (host : Host) (name : String)
    (h : ∀ a ∈ arguments, IsWellFormedResult a) :
    Yields IsWellFormedResult (call access host name arguments) := by
  unfold call
  split
  · exact .error _
  split
  · exact .ok (isWellFormedResult_some trivial)
  · exact mapText_wellFormed _ arguments _
  · exact mapText_wellFormed _ arguments _
  · exact mapText_wellFormed _ arguments _
  · exact joinArguments_wellFormed arguments
  · exact splitArguments_wellFormed arguments
  · exact unary_yields fun a _ => length_wellFormed a
  · exact unary_yields fun a ha => .ok (first_wellFormed (h a ha))
  · exact .ok (firstPresent_wellFormed h)
  · apply unary_yields
    intro a _
    cases a with
    | none => exact .ok isWellFormedResult_none
    | some t => exact (toNumber_wellFormed t).map fun _ => isWellFormedResult_some
  · exact mapText_wellFormed _ arguments _
  · exact build_wellFormed h
  · exact unary_yields fun a _ => lookupVariable_wellFormed host a
  · split
    · exact .ok (isWellFormedResult_some trivial)
    · exact .error _
  · exact .error _

end

/-! ### Values -/

section

variable {host : Host} {bound : Tree}

theorem follow?_wellFormed (segments : List String) {t u : Tree} (h : t.WellFormed)
    (hu : t.follow? segments = some u) : u.WellFormed := by
  induction segments generalizing t with
  | nil =>
    cases hu
    exact h
  | cons segment segments ih =>
    obtain ⟨slot, hslot, hu⟩ := Option.bind_eq_some_iff.1 hu
    refine ih ?_ hu
    cases t with
    | mapping entries => exact Tree.wellFormed_of_lookup h hslot
    | sequence items =>
      obtain ⟨i, -, hi⟩ := Option.bind_eq_some_iff.1 hslot
      exact Tree.wellFormed_sequence_iff.1 h slot (List.mem_of_getElem? hi)
    | null | bool | number | text => cases hslot

mutual

theorem value_wellFormed (hb : bound.WellFormed) : ∀ {e : Expr}, e.WellFormed →
    Yields IsWellFormedResult (e.value host bound)
  | .literal _, h => by
    rw [value]
    exact .ok (isWellFormedResult_some h)
  | .selector none, _ => by
    rw [value]
    exact .ok (isWellFormedResult_some hb)
  | .selector (some path), _ => by
    rw [value]
    exact .ok fun _ => follow?_wellFormed path.segments hb
  | .plus terms, h => by
    rw [value]
    exact (values_wellFormed hb h).map fun values _ => joinTerms_wellFormed values
  | .call name _, h => by
    rw [value]
    exact (values_wellFormed hb h).bind fun _ hv => call_wellFormed true host name hv

theorem values_wellFormed (hb : bound.WellFormed) : ∀ {es : List Expr}, AllWellFormed es →
    Yields (fun vs => ∀ v ∈ vs, IsWellFormedResult v) (values host bound es)
  | [], _ => by
    rw [values]
    exact .ok (by simp)
  | _ :: _, h => by
    rw [values]
    refine (value_wellFormed hb h.1).bind fun _ hv => ?_
    exact (values_wellFormed hb h.2).bind fun _ hvs => .ok (List.forall_mem_cons.2 ⟨hv, hvs⟩)

end

theorem evaluate_wellFormed (limits : Limits) (text : String) (hb : bound.WellFormed) :
    Yields IsWellFormedResult (evaluate limits host text bound) := by
  intro v hv
  obtain ⟨-, -, e, hp, hv, -⟩ := evaluate_ok.1 hv
  exact value_wellFormed hb (parse_wellFormed hp) v hv

end

end Expression

theorem Evaluators.builtin_wellFormed (host : Expression.Host) :
    (Evaluators.builtin host).WellFormed := by
  intro mode evaluator he text bound hb
  cases mode <;> cases he <;> exact Expression.evaluate_wellFormed _ text hb

end ActionBridge
