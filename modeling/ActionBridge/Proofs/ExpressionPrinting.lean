import ActionBridge.Proofs.ExpressionGrammar
import ActionBridge.Proofs.ExpressionSpelling
/-!
Expressions as texts. An expression is printed as tokens, with brackets around a sum that is a term
of another one, and every layout of these tokens is read as the expression again.
-/

namespace ActionBridge

namespace Expr

open Expression

mutual

def tokensIn (sum : Bool) : Expr → List Token
  | literal (.text s) => [.text s]
  | literal (.number n) => [.number n]
  | literal (.bool true) => [.word "true"]
  | literal (.bool false) => [.word "false"]
  | literal .null => [.word "null"]
  | literal (.sequence _) | literal (.mapping _) => []
  | selector path => [.selector path]
  | call function arguments =>
    .word function :: .open_ ::
      ([Token.comma].intercalate (tokensOfEach false arguments) ++ [.close])
  | plus terms =>
    let inner := [Token.plus].intercalate (tokensOfEach true terms)
    if sum then .open_ :: (inner ++ [.close]) else inner

def tokensOfEach (sum : Bool) : List Expr → List (List Token)
  | [] => []
  | e :: es => tokensIn sum e :: tokensOfEach sum es

end

def tokens (e : Expr) : List Token :=
  e.tokensIn false

theorem tokensOfEach_eq_map (sum : Bool) (es : List Expr) :
    tokensOfEach sum es = es.map (tokensIn sum) := by
  induction es with
  | nil => rfl
  | cons e es ih => rw [tokensOfEach, ih, List.map_cons]

/-- The expressions that are read back: literals that have a spelling, paths of plain keys, calls of
words that are no literals, and sums of two terms or more. -/
inductive IsPrintable : Expr → Prop where
  | text (s : String) : IsPrintable (literal (.text s))
  | int {n : Int} : Number.minSigned ≤ n → n ≤ Number.maxSigned →
      IsPrintable (literal (.number (.int n)))
  | bool (b : Bool) : IsPrintable (literal (.bool b))
  | null : IsPrintable (literal .null)
  | root : IsPrintable (selector none)
  | path {p : Path} : (∀ key ∈ p.segments, Path.IsPlainKey key) → IsPrintable (selector (some p))
  | call {function : String} {arguments : List Expr} : IsWord function → function ∉ keywords →
      (∀ e ∈ arguments, IsPrintable e) → IsPrintable (call function arguments)
  | plus {terms : List Expr} : 2 ≤ terms.length → (∀ e ∈ terms, IsPrintable e) →
      IsPrintable (plus terms)

end Expr

namespace Expression

open ActionBridge.Expr

section Derivation

variable {α β γ : Type}

theorem intercalate_cons (separator : α) (piece : List α) (pieces : List (List α)) :
    [separator].intercalate (piece :: pieces) = piece ++ pieces.flatMap (separator :: ·) := by
  induction pieces generalizing piece with
  | nil => simp
  | cons next pieces ih =>
    rw [List.intercalate_cons_cons, ih, List.flatMap_cons, List.append_assoc, List.singleton_append,
      List.cons_append]

theorem exists_map_eq {f : β → γ} {g : β → α} {h : α → γ} {xs : List α}
    (hx : ∀ x ∈ xs, ∃ y, f y = h x ∧ g y = x) :
    ∃ ys : List β, ys.map f = xs.map h ∧ ys.map g = xs := by
  induction xs with
  | nil => exact ⟨[], rfl, rfl⟩
  | cons x xs ih =>
    obtain ⟨hhead, htail⟩ := List.forall_mem_cons.1 hx
    obtain ⟨y, hf, hg⟩ := hhead
    obtain ⟨ys, hfs, hgs⟩ := ih htail
    exact ⟨y :: ys, by rw [List.map_cons, hf, hfs, List.map_cons], by rw [List.map_cons, hg, hgs]⟩

theorem operandExprs_eq_map (os : List Operand) : operandExprs os = os.map Operand.expr := by
  induction os with
  | nil => rfl
  | cons o os ih => rw [operandExprs, ih, List.map_cons]

theorem phraseExprs_eq_map (ps : List Phrase) : phraseExprs ps = ps.map Phrase.expr := by
  induction ps with
  | nil => rfl
  | cons p ps ih => rw [phraseExprs, ih, List.map_cons]

theorem plusTokens_eq_flatMap (os : List Operand) :
    plusTokens os = (os.map Operand.tokens).flatMap (.plus :: ·) := by
  induction os with
  | nil => rfl
  | cons o os ih => rw [plusTokens, ih, List.map_cons, List.flatMap_cons, List.cons_append]

theorem commaTokens_eq_flatMap (ps : List Phrase) :
    commaTokens ps = (ps.map Phrase.tokens).flatMap (.comma :: ·) ++ [.close] := by
  induction ps with
  | nil => rfl
  | cons p ps ih =>
    rw [commaTokens, ih, List.map_cons, List.flatMap_cons, List.cons_append, List.cons_append,
      List.append_assoc]

theorem argumentTokens_eq_intercalate (ps : List Phrase) :
    argumentTokens ps = [Token.comma].intercalate (ps.map Phrase.tokens) ++ [.close] := by
  cases ps with
  | nil => rfl
  | cons p ps =>
    rw [argumentTokens, commaTokens_eq_flatMap, List.map_cons, intercalate_cons, List.append_assoc]

theorem exists_phrase_of_operand {e : Expr} {ts : List Token}
    (h : ∃ o : Operand, o.tokens = ts ∧ o.expr = e) : ∃ p : Phrase, p.tokens = ts ∧ p.expr = e := by
  obtain ⟨o, rfl, rfl⟩ := h
  exact ⟨⟨o, []⟩, List.append_nil _, rfl⟩

theorem exists_phrase_of_operands {terms : List Expr} (hl : 2 ≤ terms.length)
    (h : ∀ e ∈ terms, ∃ o : Operand, o.tokens = e.tokensIn true ∧ o.expr = e) :
    ∃ p : Phrase, p.tokens = (Expr.plus terms).tokensIn false ∧ p.expr = .plus terms := by
  obtain ⟨os, ht, rfl⟩ := exists_map_eq h
  match os, hl with
  | o :: o' :: os, _ =>
    refine ⟨⟨o, o' :: os⟩, ?_, ?_⟩
    · rw [tokensIn, tokensOfEach_eq_map, ← ht, List.map_cons, intercalate_cons, Phrase.tokens,
        plusTokens_eq_flatMap]
      rfl
    · rw [Phrase.expr, operandExprs_eq_map, List.map_cons, List.map_cons]

theorem exists_derivation {e : Expr} (h : e.IsPrintable) :
    (∃ o : Operand, o.tokens = e.tokensIn true ∧ o.expr = e) ∧
      ∃ p : Phrase, p.tokens = e.tokensIn false ∧ p.expr = e := by
  have of_atom {e : Expr} (a : Atom) (he : a.expr = e) (ht : ∀ sum, [a.token] = e.tokensIn sum) :
      (∃ o : Operand, o.tokens = e.tokensIn true ∧ o.expr = e) ∧
        ∃ p : Phrase, p.tokens = e.tokensIn false ∧ p.expr = e :=
    ⟨⟨.atom a, ht true, he⟩, exists_phrase_of_operand ⟨.atom a, ht false, he⟩⟩
  induction h with
  | text s => exact of_atom (.text s) rfl fun _ => rfl
  | @int n _ _ => exact of_atom (.number (.int n)) rfl fun _ => rfl
  | bool b =>
    cases b with
    | true => exact of_atom .true_ rfl fun _ => rfl
    | false => exact of_atom .false_ rfl fun _ => rfl
  | null => exact of_atom .null rfl fun _ => rfl
  | root => exact of_atom (.selector none) rfl fun _ => rfl
  | @path p _ => exact of_atom (.selector (some p)) rfl fun _ => rfl
  | @call function arguments _ hn _ ih =>
    obtain ⟨ps, ht, he⟩ := exists_map_eq fun e he => (ih e he).2
    have hcall : ∀ sum, ∃ o : Operand, o.tokens = (Expr.call function arguments).tokensIn sum ∧
        o.expr = .call function arguments := by
      intro sum
      refine ⟨.call function hn ps, ?_, ?_⟩
      · rw [Operand.tokens, argumentTokens_eq_intercalate, ht, tokensIn, tokensOfEach_eq_map]
      · rw [Operand.expr, phraseExprs_eq_map, he]
    exact ⟨hcall true, exists_phrase_of_operand (hcall false)⟩
  | @plus terms hl _ ih =>
    obtain ⟨p, ht, he⟩ := exists_phrase_of_operands hl fun e he => (ih e he).1
    refine ⟨⟨.group p, ?_, ?_⟩, p, ht, he⟩
    · rw [Operand.tokens, ht]
      rfl
    · rw [Operand.expr, he]

end Derivation

section Spelling

def Separable (ts : List Token) : Prop :=
  ∀ rest, (∀ next ∈ rest.head?, next.isPunctuation = true) → Apart rest → Apart (ts ++ rest)

theorem Separable.nil : Separable [] := fun _ _ hr => hr

theorem Separable.single {t : Token} (h : t.IsWritable) : Separable [t] :=
  fun _ hp hr => ⟨h, .inr hp, hr⟩

theorem Apart.cons_mark {t : Token} (hp : t.isPunctuation = true) {rest : List Token}
    (hr : Apart rest) : Apart (t :: rest) := by
  refine ⟨?_, .inl hp, hr⟩
  cases t with
  | text | number | word | selector => cases hp
  | open_ | close | comma | plus => trivial

theorem Separable.inBrackets {ts : List Token} (h : Separable ts) :
    Separable (.open_ :: (ts ++ [.close])) := by
  intro rest _ hr
  rw [List.cons_append, List.append_assoc]
  exact .cons_mark rfl (h _ (by simp [Token.isPunctuation]) (.cons_mark rfl hr))

theorem Separable.intercalate {mark : Token} (hm : mark.isPunctuation = true)
    {pieces : List (List Token)} (h : ∀ ts ∈ pieces, Separable ts) :
    Separable ([mark].intercalate pieces) := by
  cases pieces with
  | nil => exact .nil
  | cons piece pieces =>
    obtain ⟨hhead, htail⟩ := List.forall_mem_cons.1 h
    rw [intercalate_cons]
    clear h
    induction pieces generalizing piece with
    | nil => simpa using hhead
    | cons next pieces ih =>
      obtain ⟨hnext, hothers⟩ := List.forall_mem_cons.1 htail
      intro rest hp hr
      rw [List.flatMap_cons, List.append_assoc, List.append_assoc, List.cons_append]
      refine hhead _ (by simp [hm]) (.cons_mark hm ?_)
      rw [← List.append_assoc]
      exact ih next hnext hothers rest hp hr

theorem separable_tokensIn {e : Expr} (h : e.IsPrintable) :
    ∀ sum, Separable (e.tokensIn sum) := by
  -- words, numbers and selectors stand alone between marks, and sums and calls put marks in between
  induction h with
  | text s => exact fun _ => .single trivial
  | int hmin hmax => exact fun _ => .single ⟨hmin, hmax⟩
  | bool b =>
    intro sum
    cases b with
    | true => exact .single ⟨'t', ['r', 'u', 'e'], rfl, rfl, List.all_eq_true.1 rfl⟩
    | false => exact .single ⟨'f', ['a', 'l', 's', 'e'], rfl, rfl, List.all_eq_true.1 rfl⟩
  | null => exact fun _ => .single ⟨'n', ['u', 'l', 'l'], rfl, rfl, List.all_eq_true.1 rfl⟩
  | root => exact fun _ => .single trivial
  | path hp => exact fun _ => .single hp
  | @call function arguments hw _ _ ih =>
    intro sum rest hp hr
    have hargs : Separable ([Token.comma].intercalate (tokensOfEach false arguments)) := by
      refine .intercalate rfl ?_
      rw [tokensOfEach_eq_map]
      exact List.forall_mem_map.2 fun e he => ih e he false
    exact ⟨hw, .inr (by simp [Token.isPunctuation]), hargs.inBrackets rest hp hr⟩
  | @plus terms _ _ ih =>
    intro sum
    have hterms : Separable ([Token.plus].intercalate (tokensOfEach true terms)) := by
      refine .intercalate rfl ?_
      rw [tokensOfEach_eq_map]
      exact List.forall_mem_map.2 fun e he => ih e he true
    cases sum with
    | true => exact hterms.inBrackets
    | false => exact hterms

theorem apart_tokens {e : Expr} (h : e.IsPrintable) : Apart e.tokens := by
  have ha := separable_tokensIn h false [] (by simp) trivial
  rwa [List.append_nil] at ha

end Spelling

end Expression

namespace Expr

open Expression

theorem parse_layout {e : Expr} {text : String} (he : e.IsPrintable)
    (h : Layout e.tokens text.toList) : parse none text = .ok e := by
  have htokens : Expression.tokens text = .ok e.tokens := tokensFrom_layout h (apart_tokens he) 0
  rw [parse, htokens]
  exact ofTokens_ok_iff_phrase.2 (exists_derivation he).2

theorem parse_layout_join :
    let e := call "join" [
      plus [selector (some ⟨["it''s"], by decide⟩),
        plus [literal (.number (.int (-5))), literal (.text "say \"hi\"")]],
      literal (.text "'")]
    let text := "join($['it''s']\t+(-5+ \"say \\\"hi\\\"\") ,'\\'')"
    e.IsPrintable ∧ Layout e.tokens text.toList ∧ parse none text = .ok e := by
  intro e text
  have hinner : (plus [literal (.number (.int (-5))),
      literal (.text "say \"hi\"")]).IsPrintable := by
    refine .plus (by decide) (List.forall_mem_cons.2 ⟨?_, List.forall_mem_singleton.2 (.text _)⟩)
    exact .int (by decide) (by decide)
  have he : e.IsPrintable := by
    refine .call ⟨'j', ['o', 'i', 'n'], rfl, rfl, List.all_eq_true.1 rfl⟩ (by decide)
      (List.forall_mem_cons.2 ⟨?_, List.forall_mem_singleton.2 (.text _)⟩)
    refine .plus (by decide) (List.forall_mem_cons.2 ⟨?_, List.forall_mem_singleton.2 hinner⟩)
    exact .path (by decide)
  have hts : e.tokens = [.word "join", .open_, .selector (some ⟨["it''s"], by decide⟩), .plus,
      .open_, .number (.int (-5)), .plus, .text "say \"hi\"", .close, .comma, .text "'",
      .close] := rfl
  have hcs : text.toList = ['j', 'o', 'i', 'n', '(', '$', '[', '\'', 'i', 't', '\'', '\'', 's',
      '\'', ']', '\t', '+', '(', '-', '5', '+', ' ', '"', 's', 'a', 'y', ' ', '\\', '"', 'h', 'i',
      '\\', '"', '"', ')', ' ', ',', '\'', '\\', '\'', '\'', ')'] := by decide
  have hs : '\'' ∈ quoteMarks := by decide
  have hd : '"' ∈ quoteMarks := by decide
  have tab : Text.isBlank '\t' = true := rfl
  have space : Text.isBlank ' ' = true := rfl
  have hl : Layout e.tokens text.toList := by
    rw [hts, hcs]
    exact .token '\'' hs <| .token '\'' hs <| .token '\'' hs <| .blank tab <| .token '\'' hs <|
      .token '\'' hs <| .token '\'' hs <| .token '\'' hs <| .blank space <| .token '"' hd <|
      .token '\'' hs <| .blank space <| .token '\'' hs <| .token '\'' hs <| .token '\'' hs .nil
  exact ⟨he, hl, parse_layout he hl⟩

end Expr

end ActionBridge
