import ActionBridge.Expression.Error

namespace ActionBridge.Expression

def isKeyChar (c : Char) : Bool :=
  Text.isAlphanumeric c || c = '_' || c = '-' || c = '@' || c = ':'

def isWordStart (c : Char) : Bool :=
  Text.isAlphabetic c || c = '_'

def isWordChar (c : Char) : Bool :=
  Text.isAlphanumeric c || c = '_'

def isNumeralChar (c : Char) : Bool :=
  c.isDigit || c = '.'

def unescape (c : Char) : Char :=
  if c = 'n' then '\n' else if c = 't' then '\t' else c

def textBody? (quote : Char) : List Char → Option (List Char × List Char)
  | [] => none
  | '\\' :: c :: cs => (textBody? quote cs).map fun (s, rest) => (unescape c :: s, rest)
  | c :: cs =>
    if c = quote then some ([], cs)
    else (textBody? quote cs).map fun (s, rest) => (c :: s, rest)

def numeral? (cs : List Char) : Option Number :=
  if cs.contains '.' then (Number.floating? cs).bind Number.ofBinary64?
  else (Number.signed? cs).map .int

/-- The steps of a selector, as they are written, with what follows them; none when a bracket stays
open. -/
def selectorBody? : List Char → Option (List Char × List Char)
  | [] => some ([], [])
  | c :: cs =>
    if c = '.' then
      (selectorBody? (cs.dropWhile isKeyChar)).map fun (s, rest) =>
        ('.' :: (cs.takeWhile isKeyChar ++ s), rest)
    else if c = '[' then
      match _h : cs.dropWhile (· ≠ ']') with
      | [] => none
      | _ :: after =>
        (selectorBody? after).map fun (s, rest) =>
          ('[' :: (cs.takeWhile (· ≠ ']') ++ ']' :: s), rest)
    else some ([], c :: cs)
termination_by cs => cs.length
decreasing_by
  · have := (List.dropWhile_suffix (l := cs) isKeyChar).length_le
    simp only [List.length_cons]
    omega
  · have := (List.dropWhile_suffix (l := cs) (· ≠ ']')).length_le
    rw [_h] at this
    simp only [List.length_cons] at this ⊢
    omega

def selectorToken (steps : List Char) : Except EvaluationError Token :=
  if steps.isEmpty then .ok (.selector none)
  else
    match Path.parse (String.ofList steps) with
    | .ok p => .ok (.selector (some p))
    | .error e => .error (.invalidPath e)

def numeralToken (cs : List Char) : Except EvaluationError Token :=
  match numeral? cs with
  | some n => .ok (.number n)
  | none => .error (.invalidNumber (String.ofList cs))

def punctuation? (c : Char) : Option Token :=
  if c = '(' then some .open_
  else if c = ')' then some .close
  else if c = ',' then some .comma
  else if c = '+' then some .plus
  else none

def startsNumeral (c : Char) (cs : List Char) : Bool :=
  c.isDigit || (c = '-' && match cs with
    | d :: _ => d.isDigit
    | [] => false)

def lexeme (position : Nat) (c : Char) (cs : List Char) :
    Except EvaluationError (Token × List Char) :=
  match punctuation? c with
  | some token => .ok (token, cs)
  | none =>
    if c = '\'' || c = '"' then
      match textBody? c cs with
      | some (s, rest) => .ok (.text (String.ofList s), rest)
      | none => .error (.unterminatedText position)
    else if startsNumeral c cs then
      (numeralToken (c :: cs.takeWhile isNumeralChar)).map fun token =>
        (token, cs.dropWhile isNumeralChar)
    else if c = '$' then
      match selectorBody? cs with
      | some (steps, rest) => (selectorToken steps).map fun token => (token, rest)
      | none => .error (.unclosedBracket position)
    else if isWordStart c then
      .ok (.word (String.ofList (c :: cs.takeWhile isWordChar)), cs.dropWhile isWordChar)
    else .error (.unexpectedCharacter c position)

theorem length_textBody {quote : Char} {cs s rest : List Char}
    (h : textBody? quote cs = some (s, rest)) : rest.length ≤ cs.length := by
  fun_induction textBody? quote cs generalizing s with
  | case1 => simp at h
  | case2 c cs ih =>
    obtain ⟨⟨s', r⟩, hb, he⟩ := Option.map_eq_some_iff.1 h
    obtain ⟨-, rfl⟩ := Prod.mk.inj he
    have := ih hb
    simp only [List.length_cons]
    omega
  | case3 => simp only [Option.some.injEq, Prod.mk.injEq] at h; simp [← h.2]
  | case4 c cs _ _ ih =>
    obtain ⟨⟨s', r⟩, hb, he⟩ := Option.map_eq_some_iff.1 h
    obtain ⟨-, rfl⟩ := Prod.mk.inj he
    exact Nat.le_succ_of_le (ih hb)

theorem length_selectorBody {cs s rest : List Char}
    (h : selectorBody? cs = some (s, rest)) : rest.length ≤ cs.length := by
  fun_induction selectorBody? cs generalizing s with
  | case1 => simp only [Option.some.injEq, Prod.mk.injEq] at h; simp [← h.2]
  | case2 cs ih =>
    obtain ⟨⟨s', r⟩, hb, he⟩ := Option.map_eq_some_iff.1 h
    obtain ⟨-, rfl⟩ := Prod.mk.inj he
    have := ih hb
    have := (List.dropWhile_suffix (l := cs) isKeyChar).length_le
    simp only [List.length_cons]
    omega
  | case3 => simp at h
  | case4 cs _ after hd _ ih =>
    obtain ⟨⟨s', r⟩, hb, he⟩ := Option.map_eq_some_iff.1 h
    obtain ⟨-, rfl⟩ := Prod.mk.inj he
    have := ih hb
    have := (List.dropWhile_suffix (l := cs) (· ≠ ']')).length_le
    rw [hd] at this
    simp only [List.length_cons] at this ⊢
    omega
  | case5 => simp only [Option.some.injEq, Prod.mk.injEq] at h; simp [← h.2]

theorem length_lexeme {position : Nat} {c : Char} {cs rest : List Char} {token : Token}
    (h : lexeme position c cs = .ok (token, rest)) : rest.length ≤ cs.length := by
  have take (p : Char → Bool) : (cs.dropWhile p).length ≤ cs.length :=
    (List.dropWhile_suffix p).length_le
  unfold lexeme at h
  split at h
  · simp only [Except.ok.injEq, Prod.mk.injEq] at h
    simp [← h.2]
  · split at h
    · split at h
      · next hb =>
        simp only [Except.ok.injEq, Prod.mk.injEq] at h
        exact h.2 ▸ length_textBody hb
      · simp at h
    · split at h
      · cases ht : numeralToken (c :: cs.takeWhile isNumeralChar) with
        | error e => simp [ht, Except.map] at h
        | ok t =>
          simp only [ht, Except.map, Except.ok.injEq, Prod.mk.injEq] at h
          exact h.2 ▸ take _
      · split at h
        · split at h
          · next steps r hb =>
            cases ht : selectorToken steps with
            | error e => simp [ht, Except.map] at h
            | ok t =>
              simp only [ht, Except.map, Except.ok.injEq, Prod.mk.injEq] at h
              exact h.2 ▸ length_selectorBody hb
          · simp at h
        · split at h
          · simp only [Except.ok.injEq, Prod.mk.injEq] at h
            exact h.2 ▸ take _
          · simp at h

def tokensFrom (position : Nat) : List Char → Except EvaluationError (List Token)
  | [] => .ok []
  | c :: cs =>
    if Text.isBlank c then tokensFrom (position + 1) cs
    else
      match _h : lexeme position c cs with
      | .error e => .error e
      | .ok (token, rest) =>
        match tokensFrom (position + 1 + (cs.length - rest.length)) rest with
        | .error e => .error e
        | .ok tokens => .ok (token :: tokens)
termination_by cs => cs.length
decreasing_by
  · simp
  · have := length_lexeme _h
    simp only [List.length_cons]
    omega

def tokens (expression : String) : Except EvaluationError (List Token) :=
  tokensFrom 0 expression.toList

end ActionBridge.Expression
