import ActionBridge.Expression.Parser

namespace ActionBridge

def Within (limit : Option Nat) (n : Nat) : Prop :=
  ∀ max ∈ limit, n ≤ max

theorem Within.mono {limit : Option Nat} {m n : Nat} (h : Within limit n) (hmn : m ≤ n) :
    Within limit m :=
  fun max hm => Nat.le_trans hmn (h max hm)

theorem within_none (n : Nat) : Within none n := by
  simp [Within]

namespace Expression

inductive Place where
  | operand
  | after

/-- The tokens that are left make an expression of the terms and brackets before them. -/
inductive Reads (limit : Option Nat) (e : Expr) :
    Place → List Bracket → List Expr → List Token → Prop where
  | operand {brackets : List Bracket} {terms : List Expr} {token : Token} {tokens : List Token}
      {o : Expr} : operand? token = some o → Reads limit e .after brackets (terms ++ [o]) tokens →
      Reads limit e .operand brackets terms (token :: tokens)
  | group {brackets : List Bracket} {terms : List Expr} {tokens : List Token} :
      Within limit (brackets.length + 2) →
      Reads limit e .operand (⟨terms, .group⟩ :: brackets) [] tokens →
      Reads limit e .operand brackets terms (.open_ :: tokens)
  | constant {brackets : List Bracket} {terms : List Expr} {name : String} {tokens : List Token} :
      wordLiteral? name = none →
      Reads limit e .after brackets (terms ++ [.call name []]) tokens →
      Reads limit e .operand brackets terms (.word name :: .open_ :: .close :: tokens)
  | call {brackets : List Bracket} {terms : List Expr} {name : String} {tokens : List Token} :
      wordLiteral? name = none → tokens.head? ≠ some .close → Within limit (brackets.length + 2) →
      Reads limit e .operand (⟨terms, .call name []⟩ :: brackets) [] tokens →
      Reads limit e .operand brackets terms (.word name :: .open_ :: tokens)
  | plus {brackets : List Bracket} {terms : List Expr} {tokens : List Token} :
      Reads limit e .operand brackets terms tokens →
      Reads limit e .after brackets terms (.plus :: tokens)
  | finish {terms : List Expr} : .ofTerms terms = e → Reads limit e .after [] terms []
  | closeGroup {before terms : List Expr} {brackets : List Bracket} {tokens : List Token} :
      Reads limit e .after brackets (before ++ [.ofTerms terms]) tokens →
      Reads limit e .after (⟨before, .group⟩ :: brackets) terms (.close :: tokens)
  | argument {before terms arguments : List Expr} {name : String} {brackets : List Bracket}
      {tokens : List Token} :
      Reads limit e .operand (⟨before, .call name (arguments ++ [.ofTerms terms])⟩ :: brackets) []
        tokens →
      Reads limit e .after (⟨before, .call name arguments⟩ :: brackets) terms (.comma :: tokens)
  | closeCall {before terms arguments : List Expr} {name : String} {brackets : List Bracket}
      {tokens : List Token} :
      Reads limit e .after brackets (before ++ [.call name (arguments ++ [.ofTerms terms])])
        tokens →
      Reads limit e .after (⟨before, .call name arguments⟩ :: brackets) terms (.close :: tokens)

theorem checkDepth_ok {limit : Option Nat} {depth : Nat} :
    checkDepth limit depth = .ok () ↔ Within limit depth := by
  cases limit with
  | none => simp [checkDepth, within_none]
  | some max => simp [checkDepth, Within]

section

variable {limit : Option Nat} {brackets : List Bracket} {terms : List Expr} {e : Expr}
  {tokens : List Token}

theorem enter_ok {inner : Bracket} {result : Except EvaluationError Expr} :
    (match checkDepth limit (depthOf (inner :: brackets)) with
      | .error f => (.error f : Except EvaluationError Expr)
      | .ok () => result) = .ok e ↔ Within limit (brackets.length + 2) ∧ result = .ok e := by
  rw [← checkDepth_ok]
  simp only [depthOf, List.length_cons]
  cases checkDepth limit (brackets.length + 1 + 1) <;> simp

theorem readOperand_open : readOperand limit brackets terms (.open_ :: tokens) = .ok e ↔
    Within limit (brackets.length + 2) ∧
      readOperand limit (⟨terms, .group⟩ :: brackets) [] tokens = .ok e := by
  rw [readOperand]
  exact enter_ok

theorem readOperand_operand {token : Token} {o : Expr} (h : operand? token = some o) :
    readOperand limit brackets terms (token :: tokens) =
      readAfter limit brackets (terms ++ [o]) tokens := by
  cases token with
  | open_ | close | comma | plus => simp [operand?] at h
  | text | number | word | selector =>
    rw [readOperand.eq_def]
    simp only [h]

theorem readOperand_constant {name : String} (h : wordLiteral? name = none) :
    readOperand limit brackets terms (.word name :: .open_ :: .close :: tokens) =
      readAfter limit brackets (terms ++ [.call name []]) tokens := by
  rw [readOperand]
  simp only [operand?, h, Option.map_none]

theorem readOperand_call {name : String} (h : wordLiteral? name = none)
    (hc : tokens.head? ≠ some .close) :
    readOperand limit brackets terms (.word name :: .open_ :: tokens) = .ok e ↔
      Within limit (brackets.length + 2) ∧
        readOperand limit (⟨terms, .call name []⟩ :: brackets) [] tokens = .ok e := by
  rw [readOperand]
  · simp only [operand?, h, Option.map_none]
    exact enter_ok
  · rintro ts rfl
    simp at hc

theorem readOperand_word {name : String} (h : wordLiteral? name = none)
    (ho : tokens.head? ≠ some .open_) :
    readOperand limit brackets terms (.word name :: tokens) = .error (.expected .open_ tokens.head?) := by
  rw [readOperand]
  · simp only [operand?, h, Option.map_none]
  · rintro ts rfl
    simp at ho
  · rintro ts rfl
    simp at ho

theorem readAfter_other {token : Token} (hp : token ≠ .plus) (hm : token ≠ .comma)
    (hc : token ≠ .close) : readAfter limit brackets terms (token :: tokens) ≠ .ok e := by
  intro h
  rw [readAfter.eq_def] at h
  split at h
  · simp_all
  · split at h <;> simp_all

end

mutual

theorem reads_of_readOperand {limit : Option Nat} {e : Expr} : ∀ {brackets : List Bracket}
    {terms : List Expr} (tokens : List Token), readOperand limit brackets terms tokens = .ok e →
    Reads limit e .operand brackets terms tokens
  | _, _, [], h => by simp [readOperand] at h
  | _, _, .open_ :: tokens, h => by
    rw [readOperand_open] at h
    exact .group h.1 (reads_of_readOperand tokens h.2)
  | _, _, .text s :: tokens, h => by
    have ho : operand? (.text s) = some (.literal (.text s)) := rfl
    rw [readOperand_operand ho] at h
    exact .operand ho (reads_of_readAfter tokens h)
  | _, _, .number n :: tokens, h => by
    have ho : operand? (.number n) = some (.literal (.number n)) := rfl
    rw [readOperand_operand ho] at h
    exact .operand ho (reads_of_readAfter tokens h)
  | _, _, .selector path :: tokens, h => by
    have ho : operand? (.selector path) = some (.selector path) := rfl
    rw [readOperand_operand ho] at h
    exact .operand ho (reads_of_readAfter tokens h)
  | _, _, .close :: tokens, h => by simp [readOperand, operand?] at h
  | _, _, .comma :: tokens, h => by simp [readOperand, operand?] at h
  | _, _, .plus :: tokens, h => by simp [readOperand, operand?] at h
  | _, _, .word name :: tokens, h => by
    cases hw : wordLiteral? name with
    | some value =>
      have ho : operand? (.word name) = some (.literal value) := by simp [operand?, hw]
      rw [readOperand_operand ho] at h
      exact .operand ho (reads_of_readAfter tokens h)
    | none =>
      by_cases ho : tokens.head? = some .open_
      · obtain ⟨rest, rfl⟩ := List.head?_eq_some_iff.1 ho
        by_cases hc : rest.head? = some .close
        · obtain ⟨rest, rfl⟩ := List.head?_eq_some_iff.1 hc
          rw [readOperand_constant hw] at h
          exact .constant hw (reads_of_readAfter rest h)
        · rw [readOperand_call hw hc] at h
          exact .call hw hc h.1 (reads_of_readOperand rest h.2)
      · simp [readOperand_word hw ho] at h

theorem reads_of_readAfter {limit : Option Nat} {e : Expr} : ∀ {brackets : List Bracket}
    {terms : List Expr} (tokens : List Token), readAfter limit brackets terms tokens = .ok e →
    Reads limit e .after brackets terms tokens
  | [], _, [], h => by
    simp only [readAfter, Except.ok.injEq] at h
    exact .finish h
  | ⟨_, .group⟩ :: _, _, [], h => by simp [readAfter] at h
  | ⟨_, .call _ _⟩ :: _, _, [], h => by simp [readAfter] at h
  | _, _, .plus :: tokens, h => by
    rw [readAfter] at h
    exact .plus (reads_of_readOperand tokens h)
  | [], _, .close :: _, h => by simp [readAfter] at h
  | ⟨_, .group⟩ :: _, _, .close :: tokens, h => by
    rw [readAfter] at h
    exact .closeGroup (reads_of_readAfter tokens h)
  | ⟨_, .call _ _⟩ :: _, _, .close :: tokens, h => by
    rw [readAfter] at h
    exact .closeCall (reads_of_readAfter tokens h)
  | [], _, .comma :: _, h => by simp [readAfter] at h
  | ⟨_, .group⟩ :: _, _, .comma :: _, h => by simp [readAfter] at h
  | ⟨_, .call _ _⟩ :: _, _, .comma :: tokens, h => by
    rw [readAfter] at h
    exact .argument (reads_of_readOperand tokens h)
  | _, _, .open_ :: _, h => absurd h (readAfter_other (by simp) (by simp) (by simp))
  | _, _, .text _ :: _, h => absurd h (readAfter_other (by simp) (by simp) (by simp))
  | _, _, .number _ :: _, h => absurd h (readAfter_other (by simp) (by simp) (by simp))
  | _, _, .word _ :: _, h => absurd h (readAfter_other (by simp) (by simp) (by simp))
  | _, _, .selector _ :: _, h => absurd h (readAfter_other (by simp) (by simp) (by simp))

end

def readFrom (limit : Option Nat) (brackets : List Bracket) (terms : List Expr)
    (tokens : List Token) : Place → Except EvaluationError Expr
  | .operand => readOperand limit brackets terms tokens
  | .after => readAfter limit brackets terms tokens

theorem Reads.readFrom_eq {limit : Option Nat} {e : Expr} {place : Place}
    {brackets : List Bracket} {terms : List Expr} {tokens : List Token}
    (h : Reads limit e place brackets terms tokens) :
    readFrom limit brackets terms tokens place = .ok e := by
  induction h with
  | operand ho _ ih => exact (readOperand_operand ho).trans ih
  | group hd _ ih => exact readOperand_open.2 ⟨hd, ih⟩
  | constant hw _ ih => exact (readOperand_constant hw).trans ih
  | call hw hc hd _ ih => exact (readOperand_call hw hc).2 ⟨hd, ih⟩
  | plus _ ih => simpa only [readFrom, readAfter] using ih
  | finish he => simp only [readFrom, readAfter, he]
  | closeGroup _ ih => simpa only [readFrom, readAfter] using ih
  | argument _ ih => simpa only [readFrom, readAfter] using ih
  | closeCall _ ih => simpa only [readFrom, readAfter] using ih

theorem ofTokens_ok {limit : Option Nat} {tokens : List Token} {e : Expr} :
    ofTokens limit tokens = .ok e ↔ Within limit 1 ∧ Reads limit e .operand [] [] tokens := by
  have hd : checkDepth limit (depthOf []) = .ok () ↔ Within limit 1 := checkDepth_ok
  rw [← hd, ofTokens]
  cases checkDepth limit (depthOf []) with
  | error f => simp
  | ok u =>
    simp only [true_and]
    exact ⟨reads_of_readOperand tokens, fun h => h.readFrom_eq⟩

end Expression

end ActionBridge
