import ActionBridge.Path.Basic
import ActionBridge.Proofs.Pieces
/-!
The texts that spell a path. A key stands behind a dot or in brackets, and blanks and a pair of equal
quotes within the brackets do not count. Whatever spells some keys is read as these keys, and no
path is read only where a bracket stays open or no key is left.
-/

namespace ActionBridge

namespace Text

def AreBlank (cs : List Char) : Prop :=
  ∀ c ∈ cs, isBlank c = true

theorem areBlank_nil : AreBlank [] :=
  List.forall_mem_nil _

theorem areBlank_space : AreBlank [' '] :=
  List.forall_mem_singleton.2 (by decide)

structure IsTrimmed (cs : List Char) : Prop where
  first : ∀ c ∈ cs.head?, isBlank c = false
  last : ∀ c ∈ cs.getLast?, isBlank c = false

theorem IsTrimmed.of_ends {first last : Char} (hfirst : isBlank first = false)
    (hlast : isBlank last = false) (cs : List Char) : IsTrimmed (first :: (cs ++ [last])) := by
  constructor
  · intro c hc
    obtain rfl := Option.some.inj hc
    exact hfirst
  · intro c hc
    rw [← List.cons_append, List.getLast?_concat] at hc
    obtain rfl := Option.some.inj hc
    exact hlast

theorem IsTrimmed.singleton {c : Char} (h : isBlank c = false) : IsTrimmed [c] := by
  constructor
  all_goals
    intro d hd
    obtain rfl := Option.some.inj hd
    exact h

theorem trim_surrounded {before cs behind : List Char} (hbefore : AreBlank before)
    (hbehind : AreBlank behind) (hne : cs ≠ []) (h : IsTrimmed cs) :
    trim (before ++ (cs ++ behind)) = cs := by
  have hstart : trimStart (before ++ (cs ++ behind)) = cs ++ behind := by
    apply (takeWhile_append_stop hbefore _).2
    intro c hc
    obtain ⟨first, others, rfl⟩ := List.exists_cons_of_ne_nil hne
    exact h.first c hc
  have hend : (behind.reverse ++ cs.reverse).dropWhile isBlank = cs.reverse := by
    apply (takeWhile_append_stop _ _).2
    · intro c hc
      exact hbehind c (List.mem_reverse.1 hc)
    · intro c hc
      rw [List.head?_reverse] at hc
      exact h.last c hc
  rw [trim, hstart, trimEnd, List.reverse_append, hend, List.reverse_reverse]

theorem trim_of_ends {first last : Char} (hfirst : isBlank first = false)
    (hlast : isBlank last = false) (cs : List Char) :
    trim (first :: (cs ++ [last])) = first :: (cs ++ [last]) := by
  have htrim := trim_surrounded areBlank_nil areBlank_nil (List.cons_ne_nil _ _)
    (.of_ends hfirst hlast cs)
  rwa [List.nil_append, List.append_nil] at htrim

end Text

namespace Path

open Text

/-! ### Brackets written as dots -/

/-- A text, and what it is with every bracket written as a dot and the key of the bracket. -/
inductive Dotted : List Char → List Char → Prop where
  | nil : Dotted [] []
  | char {c : Char} {cs ds : List Char} : c ≠ '[' → Dotted cs ds → Dotted (c :: cs) (c :: ds)
  | bracket {inside cs ds : List Char} : ']' ∉ inside → Dotted cs ds →
      Dotted ('[' :: (inside ++ ']' :: cs)) ('.' :: (bracketKey inside ++ ds))

def HasOpenBracket (cs : List Char) : Prop :=
  ∃ before behind, cs = before ++ '[' :: behind ∧ ']' ∉ behind

section

variable {cs ds : List Char}

theorem dotted?_char {c : Char} (hc : c ≠ '[') (cs : List Char) :
    dotted? (c :: cs) = (dotted? cs).map (c :: ·) := by
  rw [dotted?, if_neg hc]

theorem takeWhile_close {inside : List Char} (h : ']' ∉ inside)
    (hcs : ∀ c ∈ cs.head?, c = ']') :
    (inside ++ cs).takeWhile (· ≠ ']') = inside ∧ (inside ++ cs).dropWhile (· ≠ ']') = cs := by
  apply takeWhile_append_stop
  · intro c hc
    exact decide_eq_true fun he => h (he ▸ hc)
  · intro c hc
    simp [hcs c hc]

theorem dotted?_bracket {inside : List Char} (h : ']' ∉ inside) (cs : List Char) :
    dotted? ('[' :: (inside ++ ']' :: cs)) =
      (dotted? cs).map fun ds => '.' :: (bracketKey inside ++ ds) := by
  have hclose : ∀ c ∈ (']' :: cs).head?, c = ']' := by simp
  obtain ⟨htake, hdrop⟩ := takeWhile_close h hclose
  rw [dotted?, if_pos rfl]
  split
  · next hd => cases hd.symm.trans hdrop
  · next hd =>
    obtain ⟨-, rfl⟩ := List.cons.inj (hd.symm.trans hdrop)
    rw [htake]
    rfl

theorem dotted?_open (h : ']' ∉ cs) : dotted? ('[' :: cs) = none := by
  have hdrop : (cs ++ []).dropWhile (· ≠ ']') = [] := (takeWhile_close h (by simp)).2
  rw [List.append_nil] at hdrop
  rw [dotted?, if_pos rfl]
  split
  · rfl
  · next hd => cases hd.symm.trans hdrop

theorem Dotted.dotted?_eq (h : Dotted cs ds) : dotted? cs = some ds := by
  induction h with
  | nil => rw [dotted?]
  | char hc _ ih => rw [dotted?_char hc, ih, Option.map_some]
  | bracket hinside _ ih => rw [dotted?_bracket hinside, ih, Option.map_some]

theorem hasOpenBracket_char {c : Char} (hc : c ≠ '[') :
    HasOpenBracket (c :: cs) ↔ HasOpenBracket cs := by
  constructor
  · rintro ⟨before, behind, hcs, hbehind⟩
    cases before with
    | nil => exact absurd (List.cons.inj hcs).1 hc
    | cons b before => exact ⟨before, behind, (List.cons.inj hcs).2, hbehind⟩
  · rintro ⟨before, behind, rfl, hbehind⟩
    exact ⟨c :: before, behind, rfl, hbehind⟩

theorem hasOpenBracket_append_close (front : List Char) :
    HasOpenBracket (front ++ ']' :: cs) ↔ HasOpenBracket cs := by
  constructor
  · rintro ⟨before, behind, hcs, hbehind⟩
    rcases List.append_eq_append_iff.1 hcs with ⟨middle, -, hcs⟩ | ⟨middle, -, hcs⟩
    · cases middle with
      | nil => cases hcs
      | cons c middle => exact ⟨middle, behind, (List.cons.inj hcs).2, hbehind⟩
    · cases middle with
      | nil => cases hcs
      | cons c middle =>
        refine absurd ?_ hbehind
        rw [(List.cons.inj hcs).2]
        exact List.mem_append_right _ List.mem_cons_self
  · rintro ⟨before, behind, rfl, hbehind⟩
    exact ⟨front ++ ']' :: before, behind, by simp, hbehind⟩

-- The induction is on the length of the text, for a bracket is taken as a whole.
theorem dotted_or_hasOpenBracket (cs : List Char) :
    (∃ ds, Dotted cs ds) ∨ (HasOpenBracket cs ∧ dotted? cs = none) := by
  induction hn : cs.length using Nat.strongRecOn generalizing cs with
  | ind n ih =>
  subst hn
  cases cs with
  | nil => exact .inl ⟨[], .nil⟩
  | cons c cs =>
    by_cases hc : c = '['
    · subst hc
      by_cases hclose : ']' ∈ cs
      · obtain ⟨inside, rest, rfl, hinside⟩ := List.eq_append_cons_of_mem hclose
        have hlength : rest.length < ('[' :: (inside ++ ']' :: rest)).length := by
          simp only [List.length_cons, List.length_append]
          omega
        rcases ih _ hlength rest rfl with ⟨ds, hds⟩ | ⟨hopen, hnone⟩
        · exact .inl ⟨_, .bracket hinside hds⟩
        · refine .inr ⟨(hasOpenBracket_append_close ('[' :: inside)).2 hopen, ?_⟩
          rw [dotted?_bracket hinside, hnone, Option.map_none]
      · exact .inr ⟨⟨[], cs, rfl, hclose⟩, dotted?_open hclose⟩
    · rcases ih _ (Nat.lt_succ_self _) cs rfl with ⟨ds, hds⟩ | ⟨hopen, hnone⟩
      · exact .inl ⟨_, .char hc hds⟩
      · refine .inr ⟨(hasOpenBracket_char hc).2 hopen, ?_⟩
        rw [dotted?_char hc, hnone, Option.map_none]

theorem Dotted.not_hasOpenBracket (h : Dotted cs ds) : ¬HasOpenBracket cs := by
  induction h with
  | nil =>
    rintro ⟨before, behind, hcs, -⟩
    simp at hcs
  | char hc _ ih => exact mt (hasOpenBracket_char hc).1 ih
  | @bracket inside _ _ _ _ ih => exact mt (hasOpenBracket_append_close ('[' :: inside)).1 ih

theorem dotted?_eq_some_iff : dotted? cs = some ds ↔ Dotted cs ds := by
  constructor
  · intro h
    rcases dotted_or_hasOpenBracket cs with ⟨ds', hds'⟩ | ⟨-, hnone⟩
    · obtain rfl := Option.some.inj (h.symm.trans hds'.dotted?_eq)
      exact hds'
    · cases h.symm.trans hnone
  · exact Dotted.dotted?_eq

theorem dotted?_eq_none_iff : dotted? cs = none ↔ HasOpenBracket cs := by
  rcases dotted_or_hasOpenBracket cs with ⟨ds, hds⟩ | ⟨hopen, hnone⟩
  · simp [hds.dotted?_eq, hds.not_hasOpenBracket]
  · simp [hopen, hnone]

theorem Dotted.append {cs' ds' : List Char} (h : Dotted cs ds) (h' : Dotted cs' ds') :
    Dotted (cs ++ cs') (ds ++ ds') := by
  induction h with
  | nil => exact h'
  | char hc _ ih => exact .char hc ih
  | bracket hinside _ ih =>
    rw [List.cons_append, List.append_assoc, List.cons_append, List.cons_append, List.append_assoc]
    exact .bracket hinside ih

theorem dotted_self (h : '[' ∉ cs) : Dotted cs cs := by
  induction cs with
  | nil => exact .nil
  | cons c cs ih =>
    obtain ⟨hc, hcs⟩ := List.ne_and_not_mem_of_not_mem_cons h
    exact .char (Ne.symm hc) (ih hcs)

end

/-! ### Segments between dots -/

structure IsKey (key : String) : Prop where
  nonempty : key ≠ ""
  noDot : '.' ∉ key.toList

section

variable {cs : List Char} {key : String}

theorem segmentsOf_append_dot (cs rest : List Char) :
    segmentsOf (cs ++ '.' :: rest) = segmentsOf cs ++ segmentsOf rest := by
  rw [segmentsOf, splitAtChar_append, List.filter_append, List.map_append]
  rfl

theorem segmentsOf_dot (cs : List Char) : segmentsOf ('.' :: cs) = segmentsOf cs :=
  segmentsOf_append_dot [] cs

theorem segmentsOf_key (hkey : IsKey key) : segmentsOf key.toList = [key] := by
  have hkept : key.toList.isEmpty = false := by simpa using hkey.nonempty
  rw [segmentsOf, splitAtChar_of_not_mem hkey.noDot,
    List.filter_cons_of_pos (by simp [hkept])]
  simp

theorem segmentsOf_key_append (hkey : IsKey key) (hcs : ∀ c ∈ cs.head?, c = '.') :
    segmentsOf (key.toList ++ cs) = key :: segmentsOf cs := by
  cases cs with
  | nil =>
    rw [List.append_nil, segmentsOf_key hkey]
    rfl
  | cons c cs =>
    obtain rfl := hcs c rfl
    rw [segmentsOf_append_dot, segmentsOf_key hkey, segmentsOf_dot, List.singleton_append]

theorem segmentsOf_eq_nil_iff : segmentsOf cs = [] ↔ ∀ c ∈ cs, c = '.' := by
  induction cs with
  | nil => simp [segmentsOf, splitAtChar]
  | cons c cs ih =>
    by_cases hc : c = '.'
    · subst hc
      rw [segmentsOf_dot, ih, List.forall_mem_cons, and_iff_right rfl]
    · obtain ⟨first, others, hpieces⟩ :=
        List.exists_cons_of_ne_nil (splitAtChar_ne_nil '.' cs)
      have hsegments : segmentsOf (c :: cs) ≠ [] := by
        rw [segmentsOf, splitAtChar, if_neg hc, hpieces, extendFirst]
        simp
      simp [hsegments, hc]

theorem isKey_of_mem_segmentsOf (h : key ∈ segmentsOf cs) : IsKey key := by
  obtain ⟨piece, hpiece, rfl⟩ := List.mem_map.1 h
  obtain ⟨hsplit, hkept⟩ := List.mem_filter.1 hpiece
  constructor
  · simpa [String.ext_iff] using hkept
  · rw [String.toList_ofList]
    exact not_mem_of_mem_splitAtChar hsplit

end

/-! ### Reading -/

theorem parse_eq_ok_iff {s : String} {p : Path} :
    parse s = .ok p ↔ ∃ ds, Dotted s.toList ds ∧ segmentsOf ds = p.segments := by
  simp only [← dotted?_eq_some_iff, parse]
  cases dotted? s.toList with
  | none => simp
  | some ds =>
    by_cases hsegments : segmentsOf ds = []
    · have hne : segmentsOf ds ≠ p.segments := fun h => p.segments_ne_nil (h.symm.trans hsegments)
      simp [hsegments, p.segments_ne_nil.symm]
    · cases p
      simp [hsegments]

def HoldsNoKey (cs : List Char) : Prop :=
  ∃ ds, Dotted cs ds ∧ ∀ c ∈ ds, c = '.'

theorem parse_eq_error_iff {s : String} {e : PathError} : parse s = .error e ↔
    (e = .unclosedBracket s ∧ HasOpenBracket s.toList) ∨
      (e = .noSegments s ∧ HoldsNoKey s.toList) := by
  simp only [HoldsNoKey, ← dotted?_eq_none_iff, ← dotted?_eq_some_iff, ← segmentsOf_eq_nil_iff,
    parse]
  cases dotted? s.toList with
  | none => simp [@eq_comm _ e]
  | some ds => by_cases hsegments : segmentsOf ds = [] <;> simp [hsegments, @eq_comm _ e]

/-! ### Spelling -/

def IsQuote (c : Char) : Prop :=
  c = '\'' ∨ c = '"'

def IsQuoted (cs : List Char) : Prop :=
  ∃ quote inner, IsQuote quote ∧ cs = quote :: (inner ++ [quote])

/-- The spellings of a key: behind a dot, and in brackets, with quotes or as it is. -/
inductive Spells (key : String) : List Char → Prop where
  | dot : '[' ∉ key.toList → Spells key ('.' :: key.toList)
  | quoted {quote : Char} {before behind : List Char} : IsQuote quote → AreBlank before →
      AreBlank behind → ']' ∉ key.toList →
      Spells key ('[' :: (before ++ (quote :: (key.toList ++ [quote]) ++ behind) ++ [']']))
  | bare {before behind : List Char} : AreBlank before → AreBlank behind →
      IsTrimmed key.toList → ¬IsQuoted key.toList → ']' ∉ key.toList →
      Spells key ('[' :: (before ++ (key.toList ++ behind) ++ [']']))

inductive SpellsEach : List String → List Char → Prop where
  | nil : SpellsEach [] []
  | dot {keys : List String} {cs : List Char} : SpellsEach keys cs → SpellsEach keys ('.' :: cs)
  | key {key : String} {keys : List String} {spelled cs : List Char} :
      Spells key spelled → SpellsEach keys cs → SpellsEach (key :: keys) (spelled ++ cs)

def SpellsKeys (keys : List String) (s : String) : Prop :=
  SpellsEach keys ('.' :: s.toList)

theorem IsQuote.not_blank {quote : Char} (h : IsQuote quote) : isBlank quote = false := by
  rcases h with rfl | rfl <;> rfl

theorem unquote_quoted {quote : Char} (h : IsQuote quote) (cs : List Char) :
    unquote (quote :: (cs ++ [quote])) = cs := by
  rcases h with rfl | rfl <;> simp [unquote]

theorem unquote_of_not_quoted {cs : List Char} (h : ¬IsQuoted cs) : unquote cs = cs := by
  cases cs with
  | nil => rfl
  | cons quote cs =>
    rw [unquote, if_neg]
    intro hquoted
    simp only [Bool.and_eq_true, Bool.or_eq_true, decide_eq_true_eq] at hquoted
    obtain ⟨inner, rfl⟩ := List.getLast?_eq_some_iff.1 hquoted.2
    exact h ⟨quote, inner, hquoted.1, rfl⟩

theorem not_close_of_areBlank {cs : List Char} (h : AreBlank cs) : ']' ∉ cs := by
  intro hclose
  cases h _ hclose

theorem bracketKey_quoted {quote : Char} {before behind : List Char} (hquote : IsQuote quote)
    (hbefore : AreBlank before) (hbehind : AreBlank behind) (key : List Char) :
    bracketKey (before ++ (quote :: (key ++ [quote]) ++ behind)) = key := by
  have htrim : trim (before ++ (quote :: (key ++ [quote]) ++ behind)) =
      quote :: (key ++ [quote]) := by
    apply trim_surrounded hbefore hbehind (List.cons_ne_nil _ _)
    exact .of_ends hquote.not_blank hquote.not_blank key
  rw [bracketKey, htrim, unquote_quoted hquote]

theorem bracketKey_bare {key before behind : List Char} (hbefore : AreBlank before)
    (hbehind : AreBlank behind) (hne : key ≠ []) (htrimmed : IsTrimmed key)
    (hquoted : ¬IsQuoted key) : bracketKey (before ++ (key ++ behind)) = key := by
  rw [bracketKey, trim_surrounded hbefore hbehind hne htrimmed, unquote_of_not_quoted hquoted]

theorem Spells.dotted {key : String} {spelled : List Char} (hkey : IsKey key)
    (h : Spells key spelled) : Dotted spelled ('.' :: key.toList) := by
  have hbracket {inside : List Char} (hinside : ']' ∉ inside)
      (hbracketKey : bracketKey inside = key.toList) :
      Dotted ('[' :: (inside ++ [']'])) ('.' :: key.toList) := by
    have hdotted := Dotted.bracket hinside .nil
    rwa [hbracketKey, List.append_nil] at hdotted
  cases h with
  | dot hopen => exact .char (by decide) (dotted_self hopen)
  | @quoted quote _ _ hquote hbefore hbehind hclose =>
    have hmark : ']' ≠ quote := by
      rcases hquote with rfl | rfl <;> decide
    apply hbracket _ (bracketKey_quoted hquote hbefore hbehind _)
    simp [not_close_of_areBlank hbefore, not_close_of_areBlank hbehind, hclose, hmark]
  | bare hbefore hbehind htrimmed hquoted hclose =>
    have hne : key.toList ≠ [] := by simpa using hkey.nonempty
    apply hbracket _ (bracketKey_bare hbefore hbehind hne htrimmed hquoted)
    simp [not_close_of_areBlank hbefore, not_close_of_areBlank hbehind, hclose]

-- What is left of a spelling starts with a dot, so that it does not run into the key before it.
theorem SpellsEach.dotted {keys : List String} {cs : List Char} (h : SpellsEach keys cs)
    (hkeys : ∀ key ∈ keys, IsKey key) :
    ∃ ds, Dotted cs ds ∧ (∀ c ∈ ds.head?, c = '.') ∧ segmentsOf ds = keys := by
  induction h with
  | nil => exact ⟨[], .nil, by simp, rfl⟩
  | dot _ ih =>
    obtain ⟨ds, hds, -, hsegments⟩ := ih hkeys
    exact ⟨'.' :: ds, .char (by decide) hds, by simp, (segmentsOf_dot ds).trans hsegments⟩
  | @key key keys _ _ hspells _ ih =>
    obtain ⟨hkey, hothers⟩ := List.forall_mem_cons.1 hkeys
    obtain ⟨ds, hds, hhead, hsegments⟩ := ih hothers
    refine ⟨'.' :: key.toList ++ ds, (hspells.dotted hkey).append hds, by simp, ?_⟩
    rw [List.cons_append, segmentsOf_dot, segmentsOf_key_append hkey hhead, hsegments]

theorem parse_of_spellsKeys {p : Path} {s : String} (hkeys : ∀ key ∈ p.segments, IsKey key)
    (h : SpellsKeys p.segments s) : parse s = .ok p := by
  obtain ⟨ds, hds, -, hsegments⟩ := SpellsEach.dotted h hkeys
  cases hds with
  | char _ hds =>
    rw [segmentsOf_dot] at hsegments
    exact parse_eq_ok_iff.2 ⟨_, hds, hsegments⟩

theorem isKey_of_parse {s : String} {p : Path} (h : parse s = .ok p) :
    ∀ key ∈ p.segments, IsKey key := by
  obtain ⟨ds, -, hsegments⟩ := parse_eq_ok_iff.1 h
  intro key hkey
  exact isKey_of_mem_segmentsOf (hsegments ▸ hkey)

/-- All spellings of some keys are read as the path with these keys. A path that is read has keys
that are not empty and hold no dot, and nothing is read exactly where a bracket stays open or no key
is left. -/
theorem parse_follows_spelling :
    (∀ keys s, (∀ key ∈ keys, IsKey key) → SpellsKeys keys s → ∀ hne : keys ≠ [],
      parse s = .ok ⟨keys, hne⟩) ∧
    (∀ s p, parse s = .ok p → p.segments ≠ [] ∧ ∀ key ∈ p.segments, IsKey key) ∧
    ∀ s e, parse s = .error e ↔ (e = .unclosedBracket s ∧ HasOpenBracket s.toList) ∨
      (e = .noSegments s ∧ HoldsNoKey s.toList) := by
  refine ⟨?_, ?_, fun s e => parse_eq_error_iff⟩
  · intro keys s hkeys hspells hne
    exact parse_of_spellsKeys hkeys hspells
  · intro s p h
    exact ⟨p.segments_ne_nil, isKey_of_parse h⟩

theorem parse_follows_spelling_quotes :
    let keys := ["a", "it's", " b", "'"]
    (∀ key ∈ keys, IsKey key) ∧ SpellsKeys keys "a..[ \"it's\"][' b' ].[']" ∧
      parse "a..[ \"it's\"][' b' ].[']" = .ok ⟨keys, by decide⟩ ∧
      parse "..[ '.' ]" = .error (.noSegments "..[ '.' ]") := by
  intro keys
  have hkeys : ∀ key ∈ keys, IsKey key := by
    have hall : ∀ key ∈ keys, key ≠ "" ∧ '.' ∉ key.toList := by decide
    exact fun key hkey => ⟨(hall key hkey).1, (hall key hkey).2⟩
  have hquote : SpellsEach ["'"] "[']".toList := by
    have htrimmed : IsTrimmed "'".toList := .singleton (by decide : isBlank '\'' = false)
    refine .key (.bare areBlank_nil areBlank_nil htrimmed ?_ (by decide)) .nil
    rintro ⟨quote, inner, -, hquoted⟩
    simp at hquoted
  have hspells : SpellsKeys keys "a..[ \"it's\"][' b' ].[']" :=
    .key (.dot (by decide)) <| .dot <| .dot <|
      .key (.quoted (.inr rfl) areBlank_space areBlank_nil (by decide)) <|
      .key (.quoted (.inl rfl) areBlank_nil areBlank_space (by decide)) <| .dot hquote
  have hdots : HoldsNoKey "..[ '.' ]".toList := by
    refine ⟨"....".toList, ?_, by simp⟩
    exact .char (by decide) <| .char (by decide) <|
      .bracket (by decide : ']' ∉ " '.' ".toList) .nil
  obtain ⟨hread, -, herrors⟩ := parse_follows_spelling
  exact ⟨hkeys, hspells, hread keys _ hkeys hspells (by decide),
    (herrors _ _).2 (.inr ⟨rfl, hdots⟩)⟩

end Path

end ActionBridge
