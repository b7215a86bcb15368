import ActionBridge.Proofs.ExtendedUrls
import ActionBridge.Proofs.MappingFailures
import Mathlib.Data.List.Forall2
/-!
The parts of a request. An entry of the path gives texts to the URL, and an entry of the query or of
the headers stands for a value. A request is made exactly when the base, every entry and the body
resolve, and it depends on the entries by their texts and values alone.
-/

namespace ActionBridge

theorem Selector.isLiteral_iff {s : Selector} : s.isLiteral = true ↔ s = .literal := by
  cases s <;> simp [isLiteral]

namespace Mapping

section

variable (es : Evaluators) (mode : EvalMode) (action : Tree)

def entryValue (index : Nat) (entry : PathEntry) : Except MappingError (Option Tree) :=
  resolve es mode action (RequestRules.entryLocation index) (.text entry.raw) entry.selector

inductive EntryGives (index : Nat) (entry : PathEntry) : List String → Prop where
  | literal : entry.selector = .literal → EntryGives index entry (literalPieces entry.raw)
  | items {items : List Tree} : entry.selector ≠ .literal →
      entryValue es mode action index entry = .ok (some (.sequence items)) →
      EntryGives index entry (items.map fieldText)
  | value {t : Tree} : entry.selector ≠ .literal →
      entryValue es mode action index entry = .ok (some t) → t ≠ .null →
      (∀ items, t ≠ .sequence items) → EntryGives index entry [fieldText t]
  | absent {r : Option Tree} : entry.selector ≠ .literal →
      entryValue es mode action index entry = .ok r → r = none ∨ r = some .null →
      entry.isOptional = true → EntryGives index entry []

def PathGives (index : Nat) (entries : List PathEntry) (texts : List (List String)) : Prop :=
  List.Forall₂ (fun e given => EntryGives es mode action e.2 e.1 given) (entries.zipIdx index) texts

def SectionHolds (place : String) (entries : List (String × Tree)) (values : List (Option Tree)) :
    Prop :=
  List.Forall₂ (fun e v => resolveLeaf es mode action (place ++ e.1) e.2 = .ok v) entries values

def bodyOf : Option Tree → Except MappingError (Option Tree)
  | none => .ok none
  | some template => resolveBody es mode action template

end

def fieldPairs (name : String) : Option Tree → List (String × String)
  | none => []
  | some .null => []
  | some (.sequence items) => (items.filter (!·.isNull)).map fun t => (name, fieldText t)
  | some t => [(name, fieldText t)]

def pairsOf (entries : List (String × Tree)) (values : List (Option Tree)) :
    List (String × String) :=
  (List.zipWith fieldPairs (entries.map (·.1)) values).flatten

def addHeader (headers : NameMap String) (name : String) (value : Option Tree) : NameMap String :=
  let text := ((value.filter (!·.isNull)).map headerText).getD ""
  if text.isEmpty then headers else headers.insert name text

def headersOf (entries : List (String × Tree)) (values : List (Option Tree)) : NameMap String :=
  ((entries.map (·.1)).zip values).foldl (fun headers e => addHeader headers e.1 e.2) .empty

structure RequestParts where
  baseText : String
  base : Url
  texts : List (List String)
  extended : Url
  queryValues : List (Option Tree)
  headerValues : List (Option Tree)
  body : Option Tree

namespace RequestParts

structure AreOf (es : Evaluators) (mode : EvalMode) (rules : RequestRules) (action : Tree)
    (parts : RequestParts) : Prop where
  base : resolveBase es mode action rules.url = .ok (parts.baseText, parts.base)
  texts : PathGives es mode action 0 rules.path parts.texts
  extended : withPieces parts.baseText parts.base parts.texts.flatten = .ok parts.extended
  query : SectionHolds es mode action "query." rules.query parts.queryValues
  headers : SectionHolds es mode action "headers." rules.headers parts.headerValues
  body : bodyOf es mode action rules.body = .ok parts.body

def url (parts : RequestParts) (rules : RequestRules) : Url :=
  withPairs parts.extended (pairsOf rules.query parts.queryValues)

def toRequest (parts : RequestParts) (rules : RequestRules) : Request :=
  ⟨rules.method, (parts.url rules).toText, headersOf rules.headers parts.headerValues, parts.body⟩

end RequestParts

theorem filter_eq_none_iff {r : Option Tree} :
    r.filter (!·.isNull) = none ↔ r = none ∨ r = some .null := by
  rcases r with _ | ⟨_ | _⟩ <;> simp [Tree.isNull]

theorem filter_eq_some_iff {r : Option Tree} {t : Tree} :
    r.filter (!·.isNull) = some t ↔ r = some t ∧ t ≠ .null := by
  rw [Option.filter_eq_some_iff]
  cases t <;> simp [Tree.isNull]

theorem fieldTexts_of_not_sequence {t : Tree} (h : ∀ items, t ≠ .sequence items) :
    fieldTexts t = [fieldText t] := by
  cases t with
  | sequence items => exact absurd rfl (h items)
  | null | bool | number | text | mapping => rfl

theorem withPieces_ok {base : String} {u built : Url} {pieces : List String}
    (h : withPieces base u pieces = .ok built) :
    pieces = [] ∧ built = u ∨ pieces ≠ [] ∧ u.appendSegments? pieces = some built := by
  unfold withPieces at h
  split at h
  · rename_i hempty
    cases h
    exact .inl ⟨List.isEmpty_iff.1 hempty, rfl⟩
  · rename_i hempty
    split at h
    · rename_i hsome
      cases h
      exact .inr ⟨mt List.isEmpty_iff.2 hempty, hsome⟩
    · cases h

theorem withPairs_cases (u : Url) (pairs : List (String × String)) :
    withPairs u pairs = u ∨ withPairs u pairs = u.appendPairs pairs := by
  unfold withPairs
  split
  · exact .inl rfl
  · exact .inr rfl

section

variable {es : Evaluators} {mode : EvalMode} {action : Tree} {index : Nat} {entry : PathEntry}

theorem entryPieces_of_selector (h : entry.selector ≠ .literal) :
    entryPieces es mode action index entry =
      entryValue es mode action index entry >>= fun r =>
        match r.filter (!·.isNull) with
        | some value => .ok (fieldTexts value)
        | none => if entry.isOptional then .ok []
          else .error (.missingField (RequestRules.entryLocation index) entry.raw) := by
  rw [entryPieces, if_neg (mt Selector.isLiteral_iff.1 h)]
  rfl

theorem entryPieces_ok_iff {texts : List String} :
    entryPieces es mode action index entry = .ok texts ↔
      EntryGives es mode action index entry texts := by
  by_cases hliteral : entry.selector = .literal
  · rw [entryPieces, if_pos (Selector.isLiteral_iff.2 hliteral)]
    constructor
    · rintro ⟨⟩
      exact .literal hliteral
    · rintro (_ | hs | hs | hs)
      · rfl
      all_goals exact absurd hliteral hs
  rw [entryPieces_of_selector hliteral, Except.bind_ok_iff]
  constructor
  · rintro ⟨r, hr, h⟩
    split at h
    · next t ht =>
      cases h
      obtain ⟨rfl, hnull⟩ := filter_eq_some_iff.1 ht
      cases t with
      | sequence items => exact .items hliteral hr
      | null | bool | number | text | mapping => exact .value hliteral hr hnull nofun
    · next hnone =>
      split at h
      · next hoptional =>
        cases h
        exact .absent hliteral hr (filter_eq_none_iff.1 hnone) hoptional
      · cases h
  · intro h
    cases h with
    | literal hs => exact absurd hs hliteral
    | items _ hr => exact ⟨_, hr, rfl⟩
    | value _ hr hnull hitems =>
      refine ⟨_, hr, ?_⟩
      rw [filter_eq_some_iff.2 ⟨rfl, hnull⟩]
      exact congrArg Except.ok (fieldTexts_of_not_sequence hitems)
    | absent _ hr hnone hoptional =>
      refine ⟨_, hr, ?_⟩
      rw [filter_eq_none_iff.2 hnone, if_pos hoptional]

theorem entryPieces_missing (hs : entry.selector ≠ .literal) {r : Option Tree}
    (hr : entryValue es mode action index entry = .ok r) (hnone : r = none ∨ r = some .null)
    (hrequired : entry.isOptional = false) :
    entryPieces es mode action index entry =
      .error (.missingField (RequestRules.entryLocation index) entry.raw) := by
  rw [entryPieces_of_selector hs, hr]
  change (match r.filter (!·.isNull) with | some value => _ | none => _) = _
  rw [filter_eq_none_iff.2 hnone, hrequired, if_neg Bool.false_ne_true]

theorem pathPieces_ok_iff {entries : List PathEntry} {pieces : List String} :
    pathPieces es mode action index entries = .ok pieces ↔
      ∃ texts, PathGives es mode action index entries texts ∧ pieces = texts.flatten := by
  induction entries generalizing index pieces with
  | nil =>
    constructor
    · rintro ⟨⟩
      exact ⟨[], .nil, rfl⟩
    · rintro ⟨_, ⟨⟩, rfl⟩
      rfl
  | cons entry entries ih =>
    simp only [pathPieces, Except.bind_ok_iff, entryPieces_ok_iff, ih]
    constructor
    · rintro ⟨first, hfirst, _, ⟨others, hothers, rfl⟩, ⟨⟩⟩
      exact ⟨first :: others, .cons hfirst hothers, rfl⟩
    · rintro ⟨_, ⟨⟩ | ⟨hfirst, hothers⟩, rfl⟩
      exact ⟨_, hfirst, _, ⟨_, hothers, rfl⟩, rfl⟩

theorem pathPieces_stops {before after : List PathEntry} {texts : List (List String)}
    {e : MappingError} (hbefore : PathGives es mode action index before texts)
    (h : entryPieces es mode action (index + before.length) entry = .error e) :
    pathPieces es mode action index (before ++ entry :: after) = .error e := by
  induction before generalizing index texts with
  | nil =>
    rw [List.length_nil, Nat.add_zero] at h
    rw [List.nil_append, pathPieces, h]
    rfl
  | cons first before ih =>
    rcases hbefore with _ | ⟨hfirst, hothers⟩
    have hrest := ih hothers (by rwa [List.length_cons, Nat.add_comm before.length,
      ← Nat.add_assoc] at h)
    rw [List.cons_append, pathPieces, entryPieces_ok_iff.2 hfirst, hrest]
    rfl

theorem resolveField_ok_iff {location : String} {leaf : Tree} {value : Option Tree} :
    resolveField es mode action location leaf = .ok value ↔
      ∃ r, resolveLeaf es mode action location leaf = .ok r ∧ value = r.filter (!·.isNull) := by
  rw [resolveField, Except.bind_ok_iff]
  constructor
  · rintro ⟨r, hr, ⟨⟩⟩
    exact ⟨r, hr, rfl⟩
  · rintro ⟨r, hr, rfl⟩
    exact ⟨r, hr, rfl⟩

theorem fieldPairs_eq (name : String) (r : Option Tree) :
    ((r.filter (!·.isNull)).toList.flatMap presentTexts).map (name, ·) = fieldPairs name r := by
  rcases r with _ | ⟨_ | _ | _ | _ | items | _⟩
  case some.sequence =>
    change ((presentTexts (.sequence items)) ++ []).map (name, ·) = _
    rw [List.append_nil, presentTexts, fieldPairs, List.map_map]
    rfl
  all_goals rfl

theorem queryPairs_ok_iff {entries : List (String × Tree)} {pairs : List (String × String)} :
    queryPairs es mode action entries = .ok pairs ↔
      ∃ values, SectionHolds es mode action "query." entries values ∧
        pairs = pairsOf entries values := by
  induction entries generalizing pairs with
  | nil =>
    constructor
    · rintro ⟨⟩
      exact ⟨[], .nil, rfl⟩
    · rintro ⟨_, ⟨⟩, rfl⟩
      rfl
  | cons e entries ih =>
    simp only [queryPairs, Except.bind_ok_iff, resolveField_ok_iff, ih]
    constructor
    · rintro ⟨_, ⟨r, hr, rfl⟩, _, ⟨values, hvalues, rfl⟩, ⟨⟩⟩
      refine ⟨r :: values, .cons hr hvalues, ?_⟩
      rw [fieldPairs_eq]
      rfl
    · rintro ⟨_, ⟨⟩ | ⟨hr, hvalues⟩, rfl⟩
      refine ⟨_, ⟨_, hr, rfl⟩, _, ⟨_, hvalues, rfl⟩, ?_⟩
      rw [fieldPairs_eq]
      rfl

theorem headerTexts_ok_iff {entries : List (String × Tree)} {headers result : NameMap String} :
    headerTexts es mode action headers entries = .ok result ↔
      ∃ values, SectionHolds es mode action "headers." entries values ∧
        result = ((entries.map (·.1)).zip values).foldl
          (fun headers e => addHeader headers e.1 e.2) headers := by
  induction entries generalizing headers with
  | nil =>
    constructor
    · rintro ⟨⟩
      exact ⟨[], .nil, rfl⟩
    · rintro ⟨_, ⟨⟩, rfl⟩
      rfl
  | cons e entries ih =>
    simp only [headerTexts, Except.bind_ok_iff, resolveField_ok_iff, ih]
    constructor
    · rintro ⟨_, ⟨r, hr, rfl⟩, values, hvalues, rfl⟩
      exact ⟨r :: values, .cons hr hvalues, rfl⟩
    · rintro ⟨_, ⟨⟩ | ⟨hr, hvalues⟩, rfl⟩
      exact ⟨_, ⟨_, hr, rfl⟩, _, hvalues, rfl⟩

variable {rules : RequestRules}

theorem mapRequest_eq :
    mapRequest es mode rules action = urlOf es mode rules action >>= fun u =>
      headerTexts es mode action .empty rules.headers >>= fun headers =>
        bodyOf es mode action rules.body >>= fun body =>
          .ok ⟨rules.method, u.toText, headers, body⟩ := by
  cases rules with
  | mk method url path query headers body =>
    cases body with
    | none => rfl
    | some template => rfl

theorem mapRequest_ok_iff {request : Request} :
    mapRequest es mode rules action = .ok request ↔
      ∃ parts : RequestParts, parts.AreOf es mode rules action ∧ request = parts.toRequest rules := by
  rw [mapRequest_eq]
  simp only [urlOf, Except.bind_ok_iff, pathPieces_ok_iff, queryPairs_ok_iff, headerTexts_ok_iff]
  constructor
  · rintro ⟨u, ⟨⟨text, base⟩, hbase, _, ⟨texts, htexts, rfl⟩, extended, hextended, _,
      ⟨queryValues, hquery, rfl⟩, ⟨⟩⟩, _, ⟨headerValues, hheaders, rfl⟩, body, hbody, ⟨⟩⟩
    exact ⟨⟨text, base, texts, extended, queryValues, headerValues, body⟩,
      ⟨hbase, htexts, hextended, hquery, hheaders, hbody⟩, rfl⟩
  · rintro ⟨parts, h, rfl⟩
    exact ⟨_, ⟨_, h.base, _, ⟨_, h.texts, rfl⟩, _, h.extended, _, ⟨_, h.query, rfl⟩, rfl⟩,
      _, ⟨_, h.headers, rfl⟩, _, h.body, rfl⟩

theorem mapRequest_url {request : Request} (h : mapRequest es mode rules action = .ok request) :
    ∃ u, urlOf es mode rules action = .ok u ∧ request.url = u.toText := by
  rw [mapRequest_eq] at h
  obtain ⟨u, hu, h⟩ := Except.bind_ok_iff.1 h
  obtain ⟨headers, -, h⟩ := Except.bind_ok_iff.1 h
  obtain ⟨body, -, h⟩ := Except.bind_ok_iff.1 h
  cases h
  exact ⟨u, hu, rfl⟩

namespace RequestParts

variable {parts : RequestParts}

theorem AreOf.base_ok (h : parts.AreOf es mode rules action) :
    Url.parse parts.baseText = .ok parts.base :=
  (resolveBase_ok h.base).2

theorem url_path (parts : RequestParts) (rules : RequestRules) :
    (parts.url rules).path = parts.extended.path := by
  rcases withPairs_cases parts.extended (pairsOf rules.query parts.queryValues) with h | h
  · rw [url, h]
  · rw [url, h]
    rfl

theorem AreOf.separable (h : parts.AreOf es mode rules action) : (parts.url rules).Separable := by
  have hbase := (Url.parse_ok h.base_ok).1
  have hextended : parts.extended.Separable := by
    rcases withPieces_ok h.extended with ⟨-, heq⟩ | ⟨-, hadded⟩
    · rw [heq]
      exact hbase
    · exact hbase.appendSegments? hadded
  rcases withPairs_cases parts.extended (pairsOf rules.query parts.queryValues) with heq | heq
  · rw [url, heq]
    exact hextended
  · rw [url, heq]
    exact hextended.appendPairs _

end RequestParts

end

end Mapping

end ActionBridge
