import ActionBridge.Proofs.ExpressionReading
/-!
The grammar of expressions. A phrase is a derivation of the tokens that it yields, and it denotes an
expression. The parser accepts exactly the tokens that some phrase yields, this phrase is the only
one, and what the parser returns is what it denotes.
-/

namespace ActionBridge.Expression

def keywords : List String := ["true", "false", "null"]

/-- `atom := TEXT | NUMBER | 'true' | 'false' | 'null' | SELECTOR` -/
inductive Atom where
  | text (s : String)
  | number (n : Number)
  | true_
  | false_
  | null
  | selector (path : Option Path)

mutual

/-- `phrase := operand ('+' operand)*` -/
inductive Phrase where
  | mk (first : Operand) (others : List Operand)

/-- `operand := atom | NAME '(' [phrase (',' phrase)*] ')' | '(' phrase ')'`, where a name is a word
other than a literal. -/
inductive Operand where
  | atom (a : Atom)
  | call (name : String) (not_keyword : name ∉ keywords) (arguments : List Phrase)
  | group (inner : Phrase)

end

def Atom.token : Atom → Token
  | text s => .text s
  | number n => .number n
  | true_ => .word "true"
  | false_ => .word "false"
  | null => .word "null"
  | selector path => .selector path

def Atom.expr : Atom → Expr
  | text s => .literal (.text s)
  | number n => .literal (.number n)
  | true_ => .literal (.bool true)
  | false_ => .literal (.bool false)
  | null => .literal .null
  | selector path => .selector path

mutual

def Phrase.tokens : Phrase → List Token
  | ⟨first, others⟩ => first.tokens ++ plusTokens others

def Operand.tokens : Operand → List Token
  | .atom a => [a.token]
  | .call name _ arguments => .word name :: .open_ :: argumentTokens arguments
  | .group inner => .open_ :: (inner.tokens ++ [.close])

def plusTokens : List Operand → List Token
  | [] => []
  | o :: os => .plus :: (o.tokens ++ plusTokens os)

def argumentTokens : List Phrase → List Token
  | [] => [.close]
  | p :: ps => p.tokens ++ commaTokens ps

def commaTokens : List Phrase → List Token
  | [] => [.close]
  | p :: ps => .comma :: (p.tokens ++ commaTokens ps)

end

mutual

def Phrase.expr : Phrase → Expr
  | ⟨o, []⟩ => o.expr
  | ⟨o, o' :: os⟩ => .plus (o.expr :: o'.expr :: operandExprs os)

def Operand.expr : Operand → Expr
  | .atom a => a.expr
  | .call name _ arguments => .call name (phraseExprs arguments)
  | .group inner => inner.expr

def operandExprs : List Operand → List Expr
  | [] => []
  | o :: os => o.expr :: operandExprs os

def phraseExprs : List Phrase → List Expr
  | [] => []
  | p :: ps => p.expr :: phraseExprs ps

end

def Phrase.terms : Phrase → List Expr
  | ⟨first, others⟩ => first.expr :: operandExprs others

theorem Phrase.ofTerms_terms (p : Phrase) : .ofTerms p.terms = p.expr := by
  obtain ⟨o, os⟩ := p
  cases os with
  | nil => rw [Phrase.terms, operandExprs, Expr.ofTerms, Phrase.expr]
  | cons o' os => simp only [Phrase.terms, operandExprs, Expr.ofTerms, Phrase.expr]

theorem wordLiteral?_eq_none_iff {name : String} : wordLiteral? name = none ↔ name ∉ keywords := by
  by_cases ht : name = "true"
  · simp [wordLiteral?, keywords, ht]
  by_cases hf : name = "false"
  · simp [wordLiteral?, keywords, hf]
  · simp [wordLiteral?, keywords, ht, hf]

namespace Atom

theorem operand?_token (a : Atom) : operand? a.token = some a.expr := by
  cases a <;> rfl

theorem exists_of_operand? {token : Token} {x : Expr} (h : operand? token = some x) :
    ∃ a : Atom, a.token = token ∧ a.expr = x := by
  cases token with
  | open_ | close | comma | plus => simp [operand?] at h
  | text s => exact ⟨text s, rfl, Option.some.inj h⟩
  | number n => exact ⟨number n, rfl, Option.some.inj h⟩
  | selector path => exact ⟨selector path, rfl, Option.some.inj h⟩
  | word name =>
    simp only [operand?, wordLiteral?] at h
    split at h
    · next hn => exact ⟨true_, by rw [hn, token], Option.some.inj h⟩
    split at h
    · next hn => exact ⟨false_, by rw [hn, token], Option.some.inj h⟩
    split at h
    · next hn => exact ⟨null, by rw [hn, token], Option.some.inj h⟩
    · simp at h

theorem token_inj {a b : Atom} (h : a.token = b.token) : a = b := by
  cases a <;> cases b <;> simp_all [token]

theorem token_ne_word {a : Atom} {name : String} (hn : name ∉ keywords) : a.token ≠ .word name := by
  intro h
  cases a <;> simp_all [token, keywords]

theorem token_ne_open (a : Atom) : a.token ≠ .open_ := by
  cases a <;> simp [token]

theorem token_ne_close (a : Atom) : a.token ≠ .close := by
  cases a <;> simp [token]

end Atom

theorem Phrase.head_ne_close (p : Phrase) (rest : List Token) :
    (p.tokens ++ rest).head? ≠ some .close := by
  obtain ⟨o, os⟩ := p
  cases o with
  | atom a => simpa [Phrase.tokens, Operand.tokens] using a.token_ne_close
  | call | group => simp [Phrase.tokens, Operand.tokens]

section Completeness

variable {e : Expr}

mutual

theorem Operand.reads {brackets : List Bracket} {terms : List Expr} {rest : List Token} :
    ∀ o : Operand, Reads none e .after brackets (terms ++ [o.expr]) rest →
      Reads none e .operand brackets terms (o.tokens ++ rest)
  | .atom a, h => .operand a.operand?_token h
  | .call name hn [], h => by
    have hc : Reads none e .after brackets (terms ++ [.call name []]) rest := by
      simpa only [Operand.expr, phraseExprs] using h
    exact .constant (wordLiteral?_eq_none_iff.2 hn) hc
  | .call name hn (p :: ps), h => by
    have hc : Reads none e .after brackets
        (terms ++ [.call name ([] ++ .ofTerms p.terms :: phraseExprs ps)]) rest := by
      simpa only [Operand.expr, phraseExprs, Phrase.ofTerms_terms, List.nil_append] using h
    have ha := p.reads (commaTokens_reads ps hc)
    have hr := Reads.call (wordLiteral?_eq_none_iff.2 hn) (p.head_ne_close _) (within_none _) ha
    simpa only [Operand.tokens, argumentTokens, List.cons_append, List.append_assoc] using hr
  | .group p, h => by
    have hc : Reads none e .after (⟨terms, .group⟩ :: brackets) p.terms (.close :: rest) :=
      .closeGroup (by rwa [Phrase.ofTerms_terms])
    have hr := Reads.group (within_none _) (p.reads hc)
    simpa only [Operand.tokens, List.cons_append, List.append_assoc, List.nil_append] using hr

theorem Phrase.reads {brackets : List Bracket} {rest : List Token} : ∀ p : Phrase,
    Reads none e .after brackets p.terms rest →
      Reads none e .operand brackets [] (p.tokens ++ rest)
  | ⟨o, os⟩, h => by
    have hos : Reads none e .after brackets ([] ++ [o.expr]) (plusTokens os ++ rest) :=
      plusTokens_reads os h
    have ho := o.reads hos
    simpa only [Phrase.tokens, List.append_assoc] using ho

theorem plusTokens_reads {brackets : List Bracket} {terms : List Expr} {rest : List Token} :
    ∀ os : List Operand, Reads none e .after brackets (terms ++ operandExprs os) rest →
      Reads none e .after brackets terms (plusTokens os ++ rest)
  | [], h => by simpa only [operandExprs, plusTokens, List.append_nil, List.nil_append] using h
  | o :: os, h => by
    have hr : Reads none e .after brackets (terms ++ [o.expr]) (plusTokens os ++ rest) :=
      plusTokens_reads os
        (by simpa only [operandExprs, List.append_assoc, List.singleton_append] using h)
    simpa only [plusTokens, List.cons_append, List.append_assoc] using Reads.plus (o.reads hr)

theorem commaTokens_reads {before terms arguments : List Expr} {name : String}
    {brackets : List Bracket} {rest : List Token} : ∀ ps : List Phrase,
    Reads none e .after brackets
        (before ++ [.call name (arguments ++ .ofTerms terms :: phraseExprs ps)]) rest →
      Reads none e .after (⟨before, .call name arguments⟩ :: brackets) terms
        (commaTokens ps ++ rest)
  | [], h => by
    have hc := Reads.closeCall (by simpa only [phraseExprs] using h)
    simpa only [commaTokens, List.singleton_append] using hc
  | p :: ps, h => by
    have hc : Reads none e .after brackets (before ++ [.call name
        (arguments ++ [.ofTerms terms] ++ .ofTerms p.terms :: phraseExprs ps)]) rest := by
      simpa only [Phrase.ofTerms_terms, phraseExprs, List.append_assoc, List.singleton_append]
        using h
    have ha := Reads.argument (p.reads (commaTokens_reads ps hc))
    simpa only [commaTokens, List.cons_append, List.append_assoc] using ha

end

end Completeness

section Soundness

variable {e : Expr}

-- Every step takes a token, except that a level starts with an operand, and a call with a level. The
-- second number orders the four statements where they are about the same tokens.
mutual

theorem Reads.exists_operand {brackets : List Bracket} {terms : List Expr} {tokens : List Token}
    (h : Reads none e .operand brackets terms tokens) :
    ∃ (o : Operand) (rest : List Token), tokens = o.tokens ++ rest ∧
      Reads none e .after brackets (terms ++ [o.expr]) rest := by
  cases h with
  | @operand _ _ token rest x hx hr =>
    obtain ⟨a, rfl, rfl⟩ := Atom.exists_of_operand? hx
    exact ⟨.atom a, rest, rfl, hr⟩
  | @group _ _ inner _ hi =>
    obtain ⟨p, rest, rfl, hp, hr⟩ := hi.exists_phrase
    cases hr with
    | plus => exact absurd rfl hp
    | @closeGroup _ _ _ rest hr =>
      refine ⟨.group p, rest, by simp [Operand.tokens], ?_⟩
      simpa only [Operand.expr, Phrase.ofTerms_terms] using hr
  | @constant _ _ name rest hn hr =>
    refine ⟨.call name (wordLiteral?_eq_none_iff.1 hn) [], rest, rfl, ?_⟩
    simpa only [Operand.expr, phraseExprs] using hr
  | @call _ _ name inner hn _ _ hi =>
    obtain ⟨p, ps, rest, rfl, hr⟩ := hi.exists_arguments
    refine ⟨.call name (wordLiteral?_eq_none_iff.1 hn) (p :: ps), rest, ?_, ?_⟩
    · simp only [Operand.tokens, argumentTokens, List.cons_append, List.append_assoc]
    · simpa only [Operand.expr, phraseExprs, List.nil_append] using hr
termination_by (tokens.length, 0)

theorem Reads.exists_operands {brackets : List Bracket} {terms : List Expr} {tokens : List Token}
    (h : Reads none e .operand brackets terms tokens) :
    ∃ (o : Operand) (os : List Operand) (rest : List Token),
      tokens = o.tokens ++ (plusTokens os ++ rest) ∧ rest.head? ≠ some .plus ∧
        Reads none e .after brackets (terms ++ o.expr :: operandExprs os) rest := by
  obtain ⟨o, rest, rfl, hr⟩ := h.exists_operand
  by_cases hp : rest.head? = some .plus
  · obtain ⟨rest, rfl⟩ := List.head?_eq_some_iff.1 hp
    cases hr with
    | plus hi =>
      obtain ⟨o', os, rest, rfl, hp, hr⟩ := hi.exists_operands
      refine ⟨o, o' :: os, rest, by simp [plusTokens], hp, ?_⟩
      simpa only [operandExprs, List.append_assoc, List.singleton_append] using hr
  · exact ⟨o, [], rest, rfl, hp, by simpa only [operandExprs] using hr⟩
termination_by (tokens.length, 1)

theorem Reads.exists_phrase {brackets : List Bracket} {tokens : List Token}
    (h : Reads none e .operand brackets [] tokens) :
    ∃ (p : Phrase) (rest : List Token), tokens = p.tokens ++ rest ∧ rest.head? ≠ some .plus ∧
      Reads none e .after brackets p.terms rest := by
  obtain ⟨o, os, rest, rfl, hp, hr⟩ := h.exists_operands
  exact ⟨⟨o, os⟩, rest, by simp [Phrase.tokens], hp, hr⟩
termination_by (tokens.length, 2)

theorem Reads.exists_arguments {before arguments : List Expr} {name : String}
    {brackets : List Bracket} {tokens : List Token}
    (h : Reads none e .operand (⟨before, .call name arguments⟩ :: brackets) [] tokens) :
    ∃ (p : Phrase) (ps : List Phrase) (rest : List Token),
      tokens = p.tokens ++ (commaTokens ps ++ rest) ∧
        Reads none e .after brackets
          (before ++ [.call name (arguments ++ p.expr :: phraseExprs ps)]) rest := by
  obtain ⟨p, rest, rfl, hp, hr⟩ := h.exists_phrase
  cases hr with
  | plus => exact absurd rfl hp
  | @argument _ _ _ _ _ inner hi =>
    obtain ⟨p', ps, rest, rfl, hr⟩ := hi.exists_arguments
    refine ⟨p, p' :: ps, rest, by simp [commaTokens], ?_⟩
    simpa only [phraseExprs, Phrase.ofTerms_terms, List.append_assoc, List.singleton_append]
      using hr
  | @closeCall _ _ _ _ _ rest hr =>
    refine ⟨p, [], rest, rfl, ?_⟩
    simpa only [phraseExprs, Phrase.ofTerms_terms] using hr
termination_by (tokens.length, 3)

end

end Soundness

theorem ofTokens_ok_iff_phrase {tokens : List Token} {e : Expr} :
    ofTokens none tokens = .ok e ↔ ∃ p : Phrase, p.tokens = tokens ∧ p.expr = e := by
  rw [ofTokens_ok]
  constructor
  · rintro ⟨-, h⟩
    obtain ⟨p, rest, rfl, hp, hr⟩ := h.exists_phrase
    cases hr with
    | plus => exact absurd rfl hp
    | finish he => exact ⟨p, by simp, by rw [← he, Phrase.ofTerms_terms]⟩
  · rintro ⟨p, rfl, rfl⟩
    have h : Reads none p.expr .operand [] [] (p.tokens ++ []) := p.reads (.finish p.ofTerms_terms)
    exact ⟨within_none 1, by simpa using h⟩

section Uniqueness

theorem commaTokens_head_ne_plus (ps : List Phrase) (rest : List Token) :
    (commaTokens ps ++ rest).head? ≠ some .plus := by
  cases ps <;> simp [commaTokens]

mutual

theorem Operand.tokens_append_inj {rest rest' : List Token} : ∀ o o' : Operand,
    o.tokens ++ rest = o'.tokens ++ rest' → o = o' ∧ rest = rest'
  | .atom a, .atom b, h => by
    obtain ⟨ht, hr⟩ := List.cons.inj h
    exact ⟨congrArg Operand.atom (Atom.token_inj ht), hr⟩
  | .atom a, .call name hn args, h => absurd (List.cons.inj h).1 (Atom.token_ne_word hn)
  | .call name hn args, .atom a, h => absurd (List.cons.inj h).1.symm (Atom.token_ne_word hn)
  | .atom a, .group p, h => absurd (List.cons.inj h).1 a.token_ne_open
  | .group p, .atom a, h => absurd (List.cons.inj h).1.symm a.token_ne_open
  | .call _ _ _, .group _, h | .group _, .call _ _ _, h => by simp [Operand.tokens] at h
  | .call name _ args, .call name' _ args', h => by
    simp only [Operand.tokens, List.cons_append, List.cons.injEq, Token.word.injEq, true_and] at h
    obtain ⟨rfl, ha⟩ := h
    obtain ⟨rfl, hr⟩ := argumentTokens_append_inj args args' ha
    exact ⟨rfl, hr⟩
  | .group p, .group p', h => by
    simp only [Operand.tokens, List.cons_append, List.cons.injEq, true_and, List.append_assoc] at h
    obtain ⟨rfl, hr⟩ := Phrase.tokens_append_inj p p' (by simp) (by simp) h
    exact ⟨rfl, (List.cons.inj hr).2⟩

theorem Phrase.tokens_append_inj {rest rest' : List Token} : ∀ p p' : Phrase,
    rest.head? ≠ some .plus → rest'.head? ≠ some .plus →
      p.tokens ++ rest = p'.tokens ++ rest' → p = p' ∧ rest = rest'
  | ⟨o, os⟩, ⟨o', os'⟩, hp, hp', h => by
    simp only [Phrase.tokens, List.append_assoc] at h
    obtain ⟨rfl, ht⟩ := Operand.tokens_append_inj o o' h
    obtain ⟨rfl, hr⟩ := plusTokens_append_inj os os' hp hp' ht
    exact ⟨rfl, hr⟩

theorem plusTokens_append_inj {rest rest' : List Token} : ∀ os os' : List Operand,
    rest.head? ≠ some .plus → rest'.head? ≠ some .plus →
      plusTokens os ++ rest = plusTokens os' ++ rest' → os = os' ∧ rest = rest'
  | [], [], _, _, h => ⟨rfl, h⟩
  | [], o' :: os', hp, _, h => absurd (congrArg List.head? h) hp
  | o :: os, [], _, hp', h => absurd (congrArg List.head? h).symm hp'
  | o :: os, o' :: os', hp, hp', h => by
    simp only [plusTokens, List.cons_append, List.cons.injEq, true_and, List.append_assoc] at h
    obtain ⟨rfl, ht⟩ := Operand.tokens_append_inj o o' h
    obtain ⟨rfl, hr⟩ := plusTokens_append_inj os os' hp hp' ht
    exact ⟨rfl, hr⟩

theorem argumentTokens_append_inj {rest rest' : List Token} : ∀ ps ps' : List Phrase,
    argumentTokens ps ++ rest = argumentTokens ps' ++ rest' → ps = ps' ∧ rest = rest'
  | [], [], h => ⟨rfl, (List.cons.inj h).2⟩
  | [], p' :: ps', h => by
    simp only [argumentTokens, List.append_assoc] at h
    exact absurd (congrArg List.head? h).symm (p'.head_ne_close _)
  | p :: ps, [], h => by
    simp only [argumentTokens, List.append_assoc] at h
    exact absurd (congrArg List.head? h) (p.head_ne_close _)
  | p :: ps, p' :: ps', h => by
    simp only [argumentTokens, List.append_assoc] at h
    obtain ⟨rfl, ht⟩ := Phrase.tokens_append_inj p p' (commaTokens_head_ne_plus _ _)
      (commaTokens_head_ne_plus _ _) h
    obtain ⟨rfl, hr⟩ := commaTokens_append_inj ps ps' ht
    exact ⟨rfl, hr⟩

theorem commaTokens_append_inj {rest rest' : List Token} : ∀ ps ps' : List Phrase,
    commaTokens ps ++ rest = commaTokens ps' ++ rest' → ps = ps' ∧ rest = rest'
  | [], [], h => ⟨rfl, (List.cons.inj h).2⟩
  | [], _ :: _, h | _ :: _, [], h => by simp [commaTokens] at h
  | p :: ps, p' :: ps', h => by
    simp only [commaTokens, List.cons_append, List.cons.injEq, true_and, List.append_assoc] at h
    obtain ⟨rfl, ht⟩ := Phrase.tokens_append_inj p p' (commaTokens_head_ne_plus _ _)
      (commaTokens_head_ne_plus _ _) h
    obtain ⟨rfl, hr⟩ := commaTokens_append_inj ps ps' ht
    exact ⟨rfl, hr⟩

end

theorem Phrase.tokens_inj {p p' : Phrase} (h : p.tokens = p'.tokens) : p = p' := by
  have ha : p.tokens ++ [] = p'.tokens ++ [] := by rw [h]
  exact (Phrase.tokens_append_inj p p' (by simp) (by simp) ha).1

end Uniqueness

/-- Without a limit on depth the parser reads exactly the derivable lists of tokens, each of which
has one derivation, and it returns what this derivation denotes. -/
theorem ofTokens_follows_grammar (tokens : List Token) :
    (∀ e, ofTokens none tokens = .ok e ↔ ∃ p : Phrase, p.tokens = tokens ∧ p.expr = e) ∧
      ∀ p p' : Phrase, p.tokens = tokens → p'.tokens = tokens → p = p' := by
  refine ⟨fun e => ofTokens_ok_iff_phrase, ?_⟩
  rintro p p' rfl h
  exact Phrase.tokens_inj h.symm

end ActionBridge.Expression
