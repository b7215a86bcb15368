import ActionBridge.Proofs.ExpressionReading

namespace ActionBridge.Expression

/-- The deepest level on which a term stands, with `depth` brackets open at the start. A call
without arguments opens no level. -/
def nestingFrom (depth : Nat) : List Token → Nat
  | [] => 0
  | .word _ :: .open_ :: .close :: tokens => max (depth + 1) (nestingFrom depth tokens)
  | .open_ :: tokens => nestingFrom (depth + 1) tokens
  | .close :: tokens => nestingFrom (depth - 1) tokens
  | .comma :: tokens => nestingFrom depth tokens
  | .plus :: tokens => nestingFrom depth tokens
  | _ :: tokens => max (depth + 1) (nestingFrom depth tokens)

def nesting (text : String) : Nat :=
  match tokens text with
  | .ok ts => nestingFrom 0 ts
  | .error _ => 0

variable {limit : Option Nat} {e : Expr}

theorem within_max {m n : Nat} : Within limit (max m n) ↔ Within limit m ∧ Within limit n := by
  constructor
  · intro h
    exact ⟨h.mono (Nat.le_max_left m n), h.mono (Nat.le_max_right m n)⟩
  · rintro ⟨hm, hn⟩ bound hb
    exact Nat.max_le.2 ⟨hm bound hb, hn bound hb⟩

theorem Reads.head_ne_open {brackets : List Bracket} {terms : List Expr} {tokens : List Token}
    (h : Reads limit e .after brackets terms tokens) : tokens.head? ≠ some .open_ := by
  cases h <;> simp

theorem nestingFrom_operand {token : Token} {o : Expr} {tokens : List Token}
    (h : operand? token = some o) (ho : tokens.head? ≠ some .open_) (depth : Nat) :
    nestingFrom depth (token :: tokens) = max (depth + 1) (nestingFrom depth tokens) := by
  cases token with
  | open_ | close | comma | plus => simp [operand?] at h
  | text | number | selector => rfl
  | word name =>
    cases tokens with
    | nil => rfl
    | cons next tokens =>
      cases next with
      | open_ => simp at ho
      | text | number | word | selector | close | comma | plus => rfl

theorem nestingFrom_call {name : String} {tokens : List Token}
    (hc : tokens.head? ≠ some .close) (depth : Nat) :
    nestingFrom depth (.word name :: .open_ :: tokens) =
      max (depth + 1) (nestingFrom (depth + 1) tokens) := by
  cases tokens with
  | nil => rfl
  | cons next tokens =>
    cases next with
    | close => simp at hc
    | text | number | word | selector | open_ | comma | plus => rfl

theorem Reads.level_le_nesting {place : Place} {brackets : List Bracket} {terms : List Expr}
    {tokens : List Token} (h : Reads limit e place brackets terms tokens)
    (hp : place = .operand) : brackets.length + 1 ≤ nestingFrom brackets.length tokens := by
  induction h with
  | operand ho hr =>
    rw [nestingFrom_operand ho hr.head_ne_open]
    exact Nat.le_max_left _ _
  | group _ _ ih =>
    have hi := ih rfl
    rw [List.length_cons] at hi
    rw [nestingFrom]
    omega
  | constant => exact Nat.le_max_left _ _
  | call _ hc =>
    rw [nestingFrom_call hc]
    exact Nat.le_max_left _ _
  | plus | finish | closeGroup | argument | closeCall => cases hp

theorem reads_within {place : Place} {brackets : List Bracket} {terms : List Expr}
    {tokens : List Token} (hd : Within limit (brackets.length + 1)) :
    Reads limit e place brackets terms tokens ↔
      Reads none e place brackets terms tokens ∧
        Within limit (nestingFrom brackets.length tokens) := by
  constructor
  · intro h
    induction h with
    | operand ho hr ih =>
      obtain ⟨hn, hw⟩ := ih hd
      rw [nestingFrom_operand ho hr.head_ne_open, within_max]
      exact ⟨.operand ho hn, hd, hw⟩
    | group hi _ ih =>
      obtain ⟨hn, hw⟩ := ih hi
      exact ⟨.group (within_none _) hn, hw⟩
    | constant hl _ ih =>
      obtain ⟨hn, hw⟩ := ih hd
      rw [nestingFrom, within_max]
      exact ⟨.constant hl hn, hd, hw⟩
    | call hl hc hi _ ih =>
      obtain ⟨hn, hw⟩ := ih hi
      rw [nestingFrom_call hc, within_max]
      exact ⟨.call hl hc (within_none _) hn, hd, hw⟩
    | plus _ ih =>
      obtain ⟨hn, hw⟩ := ih hd
      exact ⟨.plus hn, hw⟩
    | finish he => exact ⟨.finish he, hd.mono (Nat.zero_le _)⟩
    | closeGroup _ ih =>
      obtain ⟨hn, hw⟩ := ih (hd.mono (by simp))
      exact ⟨.closeGroup hn, hw⟩
    | argument _ ih =>
      obtain ⟨hn, hw⟩ := ih hd
      exact ⟨.argument hn, hw⟩
    | closeCall _ ih =>
      obtain ⟨hn, hw⟩ := ih (hd.mono (by simp))
      exact ⟨.closeCall hn, hw⟩
  · rintro ⟨h, hw⟩
    induction h with
    | operand ho hr ih =>
      rw [nestingFrom_operand ho hr.head_ne_open, within_max] at hw
      exact .operand ho (ih hd hw.2)
    | group _ hr ih =>
      -- the level inside counts, because an operand must come next on it
      have hi := hw.mono (hr.level_le_nesting rfl)
      exact .group hi (ih hi hw)
    | constant hl _ ih =>
      rw [nestingFrom, within_max] at hw
      exact .constant hl (ih hd hw.2)
    | call hl hc _ hr ih =>
      rw [nestingFrom_call hc, within_max] at hw
      have hi := hw.2.mono (hr.level_le_nesting rfl)
      exact .call hl hc hi (ih hi hw.2)
    | plus _ ih => exact .plus (ih hd hw)
    | finish he => exact .finish he
    | closeGroup _ ih => exact .closeGroup (ih (hd.mono (by simp)) hw)
    | argument _ ih => exact .argument (ih hd hw)
    | closeCall _ ih => exact .closeCall (ih (hd.mono (by simp)) hw)

theorem ofTokens_within {tokens : List Token} : ofTokens limit tokens = .ok e ↔
    ofTokens none tokens = .ok e ∧ Within limit (nestingFrom 0 tokens) := by
  simp only [ofTokens_ok, within_none, true_and]
  constructor
  · rintro ⟨hd, h⟩
    exact (reads_within hd).1 h
  · rintro ⟨h, hw⟩
    have hd : Within limit 1 := hw.mono (h.level_le_nesting rfl)
    exact ⟨hd, (reads_within hd).2 ⟨h, hw⟩⟩

theorem parse_within {text : String} : Expr.parse limit text = .ok e ↔
    Expr.parse none text = .ok e ∧ Within limit (nesting text) := by
  unfold Expr.parse nesting
  cases tokens text with
  | error f => simp
  | ok ts => exact ofTokens_within

end ActionBridge.Expression
