import ActionBridge.Expression.Lexer
import ActionBridge.Proofs.PathSpelling

namespace ActionBridge

namespace Text

def codePoints (table : List (Nat × Nat)) : List Nat :=
  table.flatMap fun range => List.range' range.1 (range.2 + 1 - range.1)

theorem toNat_mem_codePoints {table : List (Nat × Nat)} {c : Char} (h : inRanges table c = true) :
    c.toNat ∈ codePoints table := by
  obtain ⟨range, hr, hc⟩ := List.any_eq_true.1 h
  simp only [Bool.and_eq_true, decide_eq_true_eq] at hc
  refine List.mem_flatMap.2 ⟨range, hr, List.mem_range'_1.2 ⟨hc.1, ?_⟩⟩
  omega

end Text

namespace Path

def bracketed (key : String) : List Char :=
  '[' :: '\'' :: (key.toList ++ ['\'', ']'])

def IsPlainKey (key : String) : Prop :=
  key ≠ "" ∧ '.' ∉ key.toList ∧ ']' ∉ key.toList

instance : DecidablePred IsPlainKey := fun key =>
  inferInstanceAs (Decidable (key ≠ "" ∧ '.' ∉ key.toList ∧ ']' ∉ key.toList))

theorem spells_bracketed {key : String} (h : ']' ∉ key.toList) : Spells key (bracketed key) := by
  have hnone : Text.AreBlank [] := List.forall_mem_nil _
  have hquoted := Spells.quoted (.inl rfl) hnone hnone h
  simpa [bracketed] using hquoted

theorem spellsEach_bracketed {keys : List String} (h : ∀ key ∈ keys, IsPlainKey key) :
    SpellsEach keys (keys.flatMap bracketed) := by
  induction keys with
  | nil => exact .nil
  | cons key keys ih =>
    obtain ⟨hkey, hkeys⟩ := List.forall_mem_cons.1 h
    exact .key (spells_bracketed hkey.2.2) (ih hkeys)

theorem bracketed_ne_nil (p : Path) : p.segments.flatMap bracketed ≠ [] := by
  obtain ⟨key, hk⟩ := List.exists_mem_of_ne_nil _ p.segments_ne_nil
  exact fun h => List.cons_ne_nil _ _ (List.flatMap_eq_nil_iff.1 h key hk)

theorem parse_bracketed {p : Path} (h : ∀ key ∈ p.segments, IsPlainKey key) :
    parse (String.ofList (p.segments.flatMap bracketed)) = .ok p := by
  apply parse_of_spellsKeys
  · exact fun key hkey => ⟨(h key hkey).1, (h key hkey).2.1⟩
  · rw [SpellsKeys, String.toList_ofList]
    exact .dot (spellsEach_bracketed h)

end Path

namespace Expression

def quoteMarks : List Char := ['\'', '"']

def quotedText (quote : Char) (s : String) : List Char :=
  quote :: (s.toList.flatMap (fun c => if c = '\\' ∨ c = quote then ['\\', c] else [c]) ++ [quote])

def Token.spell (quote : Char) : Token → List Char
  | text s => quotedText quote s
  | number n => n.toText
  | word name => name.toList
  | selector none => ['$']
  | selector (some p) => '$' :: p.segments.flatMap Path.bracketed
  | open_ => ['(']
  | close => [')']
  | comma => [',']
  | plus => ['+']

inductive Layout : List Token → List Char → Prop where
  | nil : Layout [] []
  | blank {tokens : List Token} {c : Char} {cs : List Char} :
      Text.isBlank c = true → Layout tokens cs → Layout tokens (c :: cs)
  | token {token : Token} {tokens : List Token} {cs : List Char} (quote : Char) :
      quote ∈ quoteMarks → Layout tokens cs → Layout (token :: tokens) (token.spell quote ++ cs)

def IsWord (name : String) : Prop :=
  ∃ c cs, name.toList = c :: cs ∧ (c.isAlpha || c = '_') = true ∧ ∀ d ∈ cs, isWordChar d = true

def Token.IsWritable : Token → Prop
  | number (.int n) => Number.minSigned ≤ n ∧ n ≤ Number.maxSigned
  | number (.float _) => False
  | word name => IsWord name
  | selector (some p) => ∀ key ∈ p.segments, Path.IsPlainKey key
  | _ => True

def Token.isPunctuation : Token → Bool
  | open_ | close | comma | plus => true
  | _ => false

/-- Of two neighbours one is a punctuation mark, so no token runs into the next one. -/
def Apart : List Token → Prop
  | [] => True
  | t :: ts => t.IsWritable ∧
      (t.isPunctuation = true ∨ ∀ next ∈ ts.head?, next.isPunctuation = true) ∧ Apart ts

inductive IsStep : List Char → Prop where
  | key {key : List Char} : (∀ c ∈ key, isKeyChar c = true) → IsStep ('.' :: key)
  | bracket {inside : List Char} : ']' ∉ inside → IsStep ('[' :: (inside ++ [']']))

def endPoints : List Nat :=
  0x28 :: 0x29 :: 0x2B :: 0x2C :: Text.codePoints Text.blankRanges

def EndsToken (cs : List Char) : Prop :=
  ∀ c ∈ cs.head?, c.toNat ∈ endPoints

theorem EndsToken.stops {cs : List Char} (h : EndsToken cs) {p : Char → Bool}
    (hp : ∀ n ∈ endPoints, p (Char.ofNat n) = false) : ∀ c ∈ cs.head?, p c = false := by
  intro c hc
  have hs := hp _ (h c hc)
  rwa [Char.ofNat_toNat] at hs

theorem Layout.endsToken {tokens : List Token} {cs : List Char} (h : Layout tokens cs)
    (hp : ∀ t ∈ tokens.head?, t.isPunctuation = true) : EndsToken cs := by
  cases h with
  | nil => simp [EndsToken]
  | @blank _ c cs hb _ =>
    intro d hd
    obtain rfl : c = d := by simpa using hd
    have hc := Text.toNat_mem_codePoints hb
    simp [endPoints, hc]
  | @token t ts cs quote _ _ =>
    intro d hd
    have ht := hp t rfl
    cases t with
    | text | number | word | selector => simp [Token.isPunctuation] at ht
    | open_ | close | comma | plus =>
      obtain rfl := by simpa [Token.spell] using hd
      decide

def StartsWith (cs : List Char) (token : Token) (rest : List Char) : Prop :=
  ∃ c tail, cs = c :: tail ∧ Text.isBlank c = false ∧
    ∀ position, lexeme position c tail = .ok (token, rest)

section Lexemes

variable {rest : List Char}

def isPlainStart (c : Char) : Bool :=
  c.isAlphanum || c = '_' || c = '-' || c = '$'

theorem of_ascii {P : Char → Prop} (h : ∀ n < 128, P (Char.ofNat n)) {c : Char}
    (hc : c.toNat < 128) : P c := by
  have hn := h _ hc
  rwa [Char.ofNat_toNat] at hn

theorem toNat_lt_of_isAlphanum {c : Char} (h : c.isAlphanum = true) : c.toNat < 128 := by
  have below {last : Char} (hc : c.val ≤ last.val) (hl : last.toNat < 128) : c.toNat < 128 :=
    Nat.lt_of_le_of_lt (UInt32.le_iff_toNat_le.1 hc) hl
  change ((c.isUpper || c.isLower) || c.isDigit) = true at h
  simp only [Bool.or_eq_true] at h
  rcases h with (hu | hl) | hd
  · exact below (of_decide_eq_true hu).2 (by decide)
  · exact below (of_decide_eq_true (Bool.and_eq_true_iff.1 hl).2) (by decide)
  · exact below (of_decide_eq_true (Bool.and_eq_true_iff.1 hd).2) (by decide)

theorem toNat_lt_of_isPlainStart {c : Char} (h : isPlainStart c = true) : c.toNat < 128 := by
  simp only [isPlainStart, Bool.or_eq_true, decide_eq_true_eq] at h
  rcases h with ((h | rfl) | rfl) | rfl
  · exact toNat_lt_of_isAlphanum h
  all_goals decide

theorem isPlainStart_spec {c : Char} (h : isPlainStart c = true) :
    punctuation? c = none ∧ (c = '\'' || c = '"') = false ∧ Text.isBlank c = false :=
  of_ascii (P := fun c => isPlainStart c = true →
      punctuation? c = none ∧ (c = '\'' || c = '"') = false ∧ Text.isBlank c = false)
    (by decide) (toNat_lt_of_isPlainStart h) h

theorem textBody?_quoted {quote : Char} (hq : quote ∈ quoteMarks) (s : List Char) :
    textBody? quote
      (s.flatMap (fun c => if c = '\\' ∨ c = quote then ['\\', c] else [c]) ++ quote :: rest) =
        some (s, rest) := by
  have hquote : quote ≠ '\\' ∧ unescape quote = quote := by
    simp only [quoteMarks, List.mem_cons, List.not_mem_nil, or_false] at hq
    rcases hq with rfl | rfl <;> decide
  induction s with
  | nil =>
    rw [List.flatMap_nil, List.nil_append, textBody?, if_pos rfl]
    intro c cs h
    exact absurd h hquote.1
  | cons c s ih =>
    rw [List.flatMap_cons, List.append_assoc]
    by_cases hc : c = '\\' ∨ c = quote
    · have hu : unescape c = c := by
        rcases hc with rfl | rfl
        · decide
        · exact hquote.2
      rw [if_pos hc, List.cons_append, List.singleton_append, textBody?, ih, Option.map_some, hu]
    · obtain ⟨hb, hne⟩ := not_or.1 hc
      rw [if_neg hc, List.singleton_append, textBody?, if_neg hne, ih, Option.map_some]
      intro d ds h
      exact absurd h hb

theorem startsWith_text {quote : Char} (hq : quote ∈ quoteMarks) (s : String) :
    StartsWith (quotedText quote s ++ rest) (.text s) rest := by
  have hquote : punctuation? quote = none ∧ (quote = '\'' ∨ quote = '"') ∧
      Text.isBlank quote = false := by
    simp only [quoteMarks, List.mem_cons, List.not_mem_nil, or_false] at hq
    rcases hq with rfl | rfl <;> decide
  refine ⟨quote, _, by simp only [quotedText, List.cons_append, List.append_assoc]; rfl, hquote.2.2,
    fun position => ?_⟩
  simp only [lexeme, hquote.1, Bool.or_eq_true, decide_eq_true_eq, hquote.2.1, if_true,
    textBody?_quoted hq, String.ofList_toList, List.nil_append]

theorem ofDigits_toDigits (n : Nat) : Number.ofDigits (Nat.toDigits 10 n) = n :=
  Nat.ofDigitChars_toDigits (by decide) (by decide)

theorem isDigit_of_mem_toDigits {n : Nat} {c : Char} (h : c ∈ Nat.toDigits 10 n) :
    c.isDigit = true :=
  Nat.isDigit_of_mem_toDigits (by decide) (by decide) h

theorem toText_int (n : Int) : (Number.int n).toText =
    if n < 0 then '-' :: Nat.toDigits 10 n.natAbs else Nat.toDigits 10 n.natAbs := by
  cases n <;> simp [Number.toText, Int.toString_eq_repr, Int.repr, Nat.repr]

theorem point_not_mem_toText (n : Int) : '.' ∉ (Number.int n).toText := by
  have hdigits : '.' ∉ Nat.toDigits 10 n.natAbs := fun h =>
    absurd (isDigit_of_mem_toDigits h) (by decide)
  rw [toText_int]
  split
  · exact List.not_mem_cons_of_ne_of_not_mem (by decide) hdigits
  · exact hdigits

theorem takeSign_digits {ds : List Char} (h : ∀ c ∈ ds, c.isDigit = true) :
    Number.takeSign ds = (false, ds) := by
  unfold Number.takeSign
  split
  · exact absurd (h '-' List.mem_cons_self) (by decide)
  · exact absurd (h '+' List.mem_cons_self) (by decide)
  · rfl

theorem signed?_toText {n : Int} (hmin : Number.minSigned ≤ n) (hmax : n ≤ Number.maxSigned) :
    Number.signed? (Number.int n).toText = some n := by
  have hdigits : ∀ c ∈ Nat.toDigits 10 n.natAbs, c.isDigit = true := fun _ =>
    isDigit_of_mem_toDigits
  have hsign : ∃ negative, Number.takeSign (Number.int n).toText =
      (negative, Nat.toDigits 10 n.natAbs) ∧
        (if negative = true then -(n.natAbs : Int) else n.natAbs) = n := by
    rw [toText_int]
    by_cases hn : n < 0
    · rw [if_pos hn]
      exact ⟨true, rfl, by simp only [if_true]; omega⟩
    · rw [if_neg hn, takeSign_digits hdigits]
      exact ⟨false, rfl, by simp only [Bool.false_eq_true, if_false]; omega⟩
  obtain ⟨negative, hs, hvalue⟩ := hsign
  have hall : (Nat.toDigits 10 n.natAbs).all Char.isDigit = true := List.all_eq_true.2 hdigits
  have hne : (Nat.toDigits 10 n.natAbs).isEmpty = false := by simp
  have hrange : ¬n < Number.minSigned ∧ ¬Number.maxSigned < n := by omega
  simp only [Number.signed?, hs, ofDigits_toDigits, hvalue, hall, hne, hrange, Bool.not_true,
    Bool.or_self, decide_false, Bool.false_eq_true, if_false]

theorem isNumeralChar_of_isDigit {c : Char} (h : c.isDigit = true) : isNumeralChar c = true := by
  simp [isNumeralChar, h]

theorem startsWith_numeral {c : Char} {tail : List Char} {n : Number}
    (hc : startsNumeral c (tail ++ rest) = true) (htail : ∀ d ∈ tail, isNumeralChar d = true)
    (hn : numeral? (c :: tail) = some n) (hr : EndsToken rest) :
    StartsWith (c :: tail ++ rest) (.number n) rest := by
  have hs : isPlainStart c = true := by
    simp only [startsNumeral, Bool.or_eq_true, Bool.and_eq_true, decide_eq_true_eq] at hc
    -- a digit, or a minus sign before one
    rcases hc with hd | ⟨rfl, -⟩
    · simp [isPlainStart, Char.isAlphanum, hd]
    · rfl
  obtain ⟨hp, hq, hb⟩ := isPlainStart_spec hs
  obtain ⟨htake, hdrop⟩ := Text.takeWhile_append_stop htail (hr.stops (by decide))
  refine ⟨c, tail ++ rest, rfl, hb, fun position => ?_⟩
  simp only [lexeme, hp, hq, hc, htake, hdrop, numeralToken, hn, Bool.false_eq_true, if_false,
    if_true, Except.map]

theorem startsWith_number {n : Int} (hmin : Number.minSigned ≤ n) (hmax : n ≤ Number.maxSigned)
    (hr : EndsToken rest) : StartsWith ((Number.int n).toText ++ rest) (.number (.int n)) rest := by
  have hdigits : ∀ c ∈ Nat.toDigits 10 n.natAbs, c.isDigit = true := fun _ =>
    isDigit_of_mem_toDigits
  obtain ⟨d, ds, hd⟩ := List.exists_cons_of_ne_nil (Nat.toDigits_ne_nil (n := n.natAbs) (b := 10))
  rw [hd] at hdigits
  obtain ⟨hfirst, hothers⟩ := List.forall_mem_cons.1 hdigits
  have hnumeral : numeral? (Number.int n).toText = some (.int n) := by
    rw [numeral?, if_neg (by simpa using point_not_mem_toText n), signed?_toText hmin hmax]
    rfl
  rw [toText_int, hd] at hnumeral ⊢
  by_cases hn : n < 0
  · rw [if_pos hn] at hnumeral ⊢
    refine startsWith_numeral ?_ (fun c hc => ?_) hnumeral hr
    · simp [startsNumeral, hfirst]
    · exact isNumeralChar_of_isDigit (hdigits c hc)
  · rw [if_neg hn] at hnumeral ⊢
    refine startsWith_numeral ?_ (fun c hc => ?_) hnumeral hr
    · simp [startsNumeral, hfirst]
    · exact isNumeralChar_of_isDigit (hothers c hc)

theorem isWordStart_of_isAlpha {c : Char} (h : (c.isAlpha || c = '_') = true) :
    isPlainStart c = true ∧ c.isDigit = false ∧ c ≠ '-' ∧ c ≠ '$' ∧ isWordStart c = true := by
  have hs : isPlainStart c = true := by
    simp only [Bool.or_eq_true, decide_eq_true_eq] at h
    rcases h with h | rfl
    · simp [isPlainStart, Char.isAlphanum, h]
    · rfl
  exact of_ascii (P := fun c => (c.isAlpha || c = '_') = true →
      isPlainStart c = true ∧ c.isDigit = false ∧ c ≠ '-' ∧ c ≠ '$' ∧ isWordStart c = true)
    (by decide) (toNat_lt_of_isPlainStart hs) h

theorem startsWith_word {name : String} (h : IsWord name) (hr : EndsToken rest) :
    StartsWith (name.toList ++ rest) (.word name) rest := by
  obtain ⟨c, cs, hn, hc, hcs⟩ := h
  obtain ⟨hs, hdigit, hminus, hdollar, hstart⟩ := isWordStart_of_isAlpha hc
  obtain ⟨hp, hq, hb⟩ := isPlainStart_spec hs
  obtain ⟨htake, hdrop⟩ := Text.takeWhile_append_stop hcs (hr.stops (by decide +kernel))
  have hnumeral : startsNumeral c (cs ++ rest) = false := by
    simp [startsNumeral, hdigit, hminus]
  have hname : String.ofList (c :: cs) = name := by rw [← hn, String.ofList_toList]
  refine ⟨c, cs ++ rest, by rw [hn, List.cons_append], hb, fun position => ?_⟩
  simp only [lexeme, hp, hq, hnumeral, hdollar, hstart, htake, hdrop, hname, Bool.false_eq_true,
    if_false, if_true]

theorem selectorBody?_steps {steps : List (List Char)} (h : ∀ step ∈ steps, IsStep step)
    (hr : EndsToken rest) :
    selectorBody? (steps.flatten ++ rest) = some (steps.flatten, rest) := by
  induction steps with
  | nil =>
    have hdot := hr.stops (p := (· = '.')) (by decide)
    have hbracket := hr.stops (p := (· = '[')) (by decide)
    rw [List.flatten_nil, List.nil_append]
    cases rest with
    | nil => rw [selectorBody?]
    | cons c cs =>
      rw [selectorBody?, if_neg (of_decide_eq_false (hdot c rfl)),
        if_neg (of_decide_eq_false (hbracket c rfl))]
  | cons step steps ih =>
    obtain ⟨hstep, hsteps⟩ := List.forall_mem_cons.1 h
    rw [List.flatten_cons, List.append_assoc]
    cases hstep with
    | @key key hkey =>
      -- behind the key comes another step, or else the end of the token
      have hstop : ∀ c ∈ (steps.flatten ++ rest).head?, isKeyChar c = false := by
        cases steps with
        | nil => exact hr.stops (by decide +kernel)
        | cons next steps =>
          intro c hc
          cases (List.forall_mem_cons.1 hsteps).1 with
          | key | bracket =>
            obtain rfl := Option.some.inj hc
            decide
      obtain ⟨htake, hdrop⟩ := Text.takeWhile_append_stop hkey hstop
      rw [List.cons_append, selectorBody?, if_pos rfl, hdrop, htake, ih hsteps]
      rfl
    | @bracket inside hinside =>
      have hclose : ∀ c ∈ (']' :: (steps.flatten ++ rest)).head?, c = ']' := by simp
      obtain ⟨htake, hdrop⟩ := Path.takeWhile_close hinside hclose
      rw [List.cons_append, List.append_assoc, List.singleton_append, selectorBody?,
        if_neg (by decide), if_pos rfl]
      split
      · next hd => cases hd.symm.trans hdrop
      · next hd =>
        obtain ⟨-, rfl⟩ := List.cons.inj (hd.symm.trans hdrop)
        rw [htake, ih hsteps]
        simp

theorem isStep_bracketed {key : String} (h : ']' ∉ key.toList) : IsStep (Path.bracketed key) := by
  have hinside : ']' ∉ '\'' :: (key.toList ++ ['\'']) := by
    simp [h]
  simpa [Path.bracketed] using IsStep.bracket hinside

theorem lexeme_selector {steps : List Char}
    (hb : selectorBody? (steps ++ rest) = some (steps, rest)) (position : Nat) :
    lexeme position '$' (steps ++ rest) = (selectorToken steps).map fun token => (token, rest) := by
  have hp : punctuation? '$' = none := rfl
  have hn : startsNumeral '$' (steps ++ rest) = false := by
    simp [startsNumeral]
  simp only [lexeme, hp, hn, hb]
  rfl

theorem startsWith_selector {steps : List Char} {path : Option Path}
    (hb : selectorBody? (steps ++ rest) = some (steps, rest))
    (hs : selectorToken steps = .ok (.selector path)) :
    StartsWith ('$' :: steps ++ rest) (.selector path) rest := by
  refine ⟨'$', steps ++ rest, rfl, by decide, fun position => ?_⟩
  rw [lexeme_selector hb, hs]
  rfl

theorem Token.startsWith_spell {quote : Char} (hq : quote ∈ quoteMarks) {token : Token}
    (hw : token.IsWritable) (hr : token.isPunctuation = false → EndsToken rest) :
    StartsWith (token.spell quote ++ rest) token rest := by
  cases token with
  | open_ | close | comma | plus => exact ⟨_, rest, rfl, by decide, fun position => rfl⟩
  | text s => exact startsWith_text hq s
  | number n =>
    cases n with
    | float => exact hw.elim
    | int n => exact startsWith_number hw.1 hw.2 (hr rfl)
  | word name => exact startsWith_word hw (hr rfl)
  | selector path =>
    cases path with
    | none =>
      have hb : selectorBody? ([] ++ rest) = some ([], rest) :=
        selectorBody?_steps (List.forall_mem_nil _) (hr rfl)
      exact startsWith_selector hb rfl
    | some p =>
      have hb : selectorBody? (p.segments.flatMap Path.bracketed ++ rest) =
          some (p.segments.flatMap Path.bracketed, rest) := by
        apply selectorBody?_steps _ (hr rfl)
        exact List.forall_mem_map.2 fun key hkey => isStep_bracketed (hw key hkey).2.2
      refine startsWith_selector hb ?_
      rw [selectorToken, Path.parse_bracketed hw, if_neg]
      simpa using Path.bracketed_ne_nil p

end Lexemes

theorem tokensFrom_of_startsWith {cs rest : List Char} {token : Token} {tokens : List Token}
    (h : StartsWith cs token rest) (hr : ∀ position, tokensFrom position rest = .ok tokens)
    (position : Nat) : tokensFrom position cs = .ok (token :: tokens) := by
  obtain ⟨c, tail, rfl, hb, hl⟩ := h
  rw [tokensFrom, if_neg (by simp [hb])]
  split
  · next hf => cases (hl position).symm.trans hf
  · next hf =>
    obtain ⟨rfl, rfl⟩ := Prod.mk.inj (Except.ok.inj ((hl position).symm.trans hf))
    rw [hr]

theorem tokensFrom_layout {tokens : List Token} {cs : List Char} (h : Layout tokens cs)
    (ha : Apart tokens) (position : Nat) : tokensFrom position cs = .ok tokens := by
  induction h generalizing position with
  | nil => rw [tokensFrom]
  | blank hb _ ih => rw [tokensFrom, if_pos hb, ih ha]
  | token _ hq hl ih =>
    obtain ⟨hw, hn, ht⟩ := ha
    have hr := Token.startsWith_spell hq hw fun hp => hl.endsToken (hn.resolve_left (by simp [hp]))
    exact tokensFrom_of_startsWith hr (ih ht) position

end Expression

end ActionBridge
