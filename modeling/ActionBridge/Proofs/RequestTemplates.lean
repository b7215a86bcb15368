import ActionBridge.Proofs.FilledTemplates
import ActionBridge.Proofs.RequestQueries

namespace ActionBridge

open Rule

namespace RequestRules

theorem checkSection_not_mapping {name : String} : ∀ {entries : List (String × Tree)},
    checkSection name entries = .ok () → ∀ e ∈ entries, ∀ nested, e.2 ≠ .mapping nested
  | [], _ => by simp
  | (entry, template) :: entries, h => by
    unfold checkSection at h
    split at h
    · next hnil => cases hnil
    · cases h
    · next hmapping hcons =>
      cases hcons
      obtain ⟨⟨⟩, -, hothers⟩ := Except.bind_ok_iff.1 h
      refine List.forall_mem_cons.2 ⟨?_, checkSection_not_mapping hothers⟩
      rintro nested rfl
      exact hmapping nested rfl

theorem readSection_not_mapping {name : String} {entries : Entries} {es : List (String × Tree)}
    (h : readSection name entries = .ok es) : ∀ e ∈ es, ∀ nested, e.2 ≠ .mapping nested := by
  rcases readSection_ok h with rfl | ⟨-, hchecked⟩
  · simp
  · exact checkSection_not_mapping hchecked

theorem ofTree_not_mapping {tree : Tree} {rules : RequestRules} (h : ofTree tree = .ok rules) :
    (∀ e ∈ rules.query, ∀ nested, e.2 ≠ .mapping nested) ∧
      ∀ e ∈ rules.headers, ∀ nested, e.2 ≠ .mapping nested := by
  obtain ⟨entries, -, hread⟩ := ofTree_ok h
  exact ⟨readSection_not_mapping hread.query, readSection_not_mapping hread.headers⟩

end RequestRules

namespace Mapping

section

variable (es : Evaluators) (mode : EvalMode) (action : Tree)

inductive LeafGives (leaf : Tree) : Option Tree → Prop where
  | literal : Selector.ofLeaf leaf = .ok .literal → LeafGives leaf (some leaf)
  | path {p : Path} : Selector.ofLeaf leaf = .ok (.path p) → LeafGives leaf (action.get? p)
  | expression {text : String} {evaluator : Evaluator} {r : Option Tree} :
      Selector.ofLeaf leaf = .ok (.expression text) → es.get? mode = some evaluator →
      evaluator text action = .ok r → LeafGives leaf r

inductive FieldGives : Tree → Option Tree → Prop where
  | leaf {t : Tree} {r : Option Tree} :
      t.isContainer = false → LeafGives es mode action t r → FieldGives t r
  | sequence {items : List Tree} : FieldGives (.sequence items) (some (.sequence items))

end

variable {es : Evaluators} {mode : EvalMode} {action : Tree} {location : String} {leaf : Tree}
variable {r : Option Tree}

theorem evaluate_ok_iff {text : String} :
    evaluate es mode text location action = .ok r ↔
      ∃ evaluator, es.get? mode = some evaluator ∧ evaluator text action = .ok r := by
  unfold evaluate
  cases es.get? mode with
  | none => simp
  | some evaluator =>
    cases hr : evaluator text action <;> simp [hr, Except.mapError]

theorem resolveLeaf_ok_iff :
    resolveLeaf es mode action location leaf = .ok r ↔ LeafGives es mode action leaf r := by
  rw [resolveLeaf, Except.bind_ok_iff]
  simp only [selectorOf_ok_iff]
  constructor
  · rintro ⟨_ | _ | _, hs, h⟩
    · cases h
      exact .path hs
    · obtain ⟨evaluator, hget, hr⟩ := evaluate_ok_iff.1 h
      exact .expression hs hget hr
    · cases h
      exact .literal hs
  · rintro (hs | hs | ⟨hs, hget, hr⟩)
    · exact ⟨_, hs, rfl⟩
    · exact ⟨_, hs, rfl⟩
    · exact ⟨_, hs, evaluate_ok_iff.2 ⟨_, hget, hr⟩⟩

theorem fieldGives_of_resolveLeaf (hmapping : ∀ nested, leaf ≠ .mapping nested)
    (h : resolveLeaf es mode action location leaf = .ok r) : FieldGives es mode action leaf r := by
  cases leaf with
  | sequence items =>
    cases h
    exact .sequence
  | mapping nested => exact absurd rfl (hmapping nested)
  | null | bool | number | text => exact .leaf rfl (resolveLeaf_ok_iff.1 h)

theorem SectionHolds.fields {place : String} {entries : List (String × Tree)}
    {values : List (Option Tree)} (h : SectionHolds es mode action place entries values)
    (hmapping : ∀ e ∈ entries, ∀ nested, e.2 ≠ .mapping nested) :
    List.Forall₂ (fun e v => FieldGives es mode action e.2 v) entries values := by
  induction h with
  | nil => exact .nil
  | cons hfirst _ ih =>
    obtain ⟨hleaf, hothers⟩ := List.forall_mem_cons.1 hmapping
    exact .cons (fieldGives_of_resolveLeaf hleaf hfirst) (ih hothers)

theorem resolveBody_ok_iff {template : Tree} :
    resolveBody es mode action template = .ok r ↔
      Tree.Filled (LeafGives es mode action) template r := by
  apply Tree.traverse_ok_iff
  intro location leaf r
  exact resolveLeaf_ok_iff

/-- What is sent for a leaf of a checked template is what the leaf stands for, and nothing where that
is absent. Only the items of a sequence in the query or in the headers are sent as they are written. -/
theorem mapRequest_resolves_leaves {tree : Tree} {rules : RequestRules} {request : Request}
    (hrules : RequestRules.ofTree tree = .ok rules)
    (hrequest : mapRequest es mode rules action = .ok request) :
    ∃ (base : String × Url) (parts : UrlParts) (queryValues headerValues : List (Option Tree)),
      resolveBase es mode action rules.url = .ok base ∧
      UrlParts.ofText? request.url = some parts ∧
      Url.formPairs (parts.query.getD []) =
        Url.formPairs (base.2.query.getD []) ++ pairsOf rules.query queryValues ∧
      List.Forall₂ (fun e v => FieldGives es mode action e.2 v) rules.query queryValues ∧
      request.headers = headersOf rules.headers headerValues ∧
      List.Forall₂ (fun e v => FieldGives es mode action e.2 v) rules.headers headerValues ∧
      (rules.body = none → request.body = none) ∧
      ∀ template, rules.body = some template →
        Tree.Filled (LeafGives es mode action) template request.body := by
  obtain ⟨parts, hparts, rfl⟩ := mapRequest_ok_iff.1 hrequest
  obtain ⟨hquery, hheaders⟩ := RequestRules.ofTree_not_mapping hrules
  refine ⟨_, _, _, _, hparts.base, hparts.separable.ofText?_toText, hparts.formPairs_url,
    hparts.query.fields hquery, rfl, hparts.headers.fields hheaders, ?_, ?_⟩
  · intro hnone
    have hbody := hparts.body
    rw [hnone] at hbody
    exact (Except.ok.inj hbody).symm
  · intro template hsome
    have hbody := hparts.body
    rw [hsome] at hbody
    exact resolveBody_ok_iff.1 hbody

def nestedBody : Tree :=
  .sequence [.text (fieldExpression "gone"),
    .mapping [("name", .text (fieldExpression "name")), ("no", .int 1)]]

def nestedRules : RequestRules :=
  ⟨"GET", "x://h?k", [], [("q", .text (fieldExpression "name"))],
    [("h", .sequence [.text "a", .text "b"])], some nestedBody⟩

theorem mapRequest_resolves_leaves_nested :
    ∃ (request : Request) (parts : UrlParts),
      RequestRules.ofTree (.mapping [("url", .text "x://h?k"), ("query", .mapping nestedRules.query),
        ("headers", .mapping nestedRules.headers), ("body", nestedBody)]) = .ok nestedRules ∧
      mapRequest fieldReader .sandbox nestedRules (.mapping [("name", .text "a&b")]) =
        .ok request ∧
      request.body = some (.sequence [.mapping [("name", .text "a&b"), ("no", .int 1)]]) ∧
      Tree.Filled (LeafGives fieldReader .sandbox (.mapping [("name", .text "a&b")])) nestedBody
        request.body ∧
      UrlParts.ofText? request.url = some parts ∧
      Url.formPairs (parts.query.getD []) = Url.formPairs ['k'] ++ [("q", "a&b")] := by
  have hrules : RequestRules.ofTree (.mapping [("url", .text "x://h?k"),
      ("query", .mapping nestedRules.query), ("headers", .mapping nestedRules.headers),
      ("body", nestedBody)]) = .ok nestedRules := rfl
  have hrequest : mapRequest fieldReader .sandbox nestedRules (.mapping [("name", .text "a&b")]) =
      .ok ⟨"GET", "x://h?k&q=a%26b", NameMap.empty.insert "h" "a, b",
        some (.sequence [.mapping [("name", .text "a&b"), ("no", .int 1)]])⟩ := rfl
  obtain ⟨base, parts, values, -, hbase, hparts, hpairs, hquery, -, -, -, hbody⟩ :=
    mapRequest_resolves_leaves hrules hrequest
  have hbase : base.2.query = some ['k'] := by
    rw [← Except.ok.inj hbase]
    rfl
  rw [hbase] at hpairs
  rcases hquery with _ | ⟨hfirst, _ | _⟩
  cases hfirst with
  | leaf _ hleaf =>
    cases hleaf with
    | literal hs => cases hs
    | path hs => cases hs
    | expression hs hget hvalue =>
      cases hs
      cases hget
      cases hvalue
      exact ⟨_, parts, hrules, hrequest, rfl, hbody _ rfl, hparts, hpairs⟩

theorem mapRequest_sends_selector_text :
    ∃ rules, RequestRules.ofTree (.mapping [("url", .text "x://h"),
        ("query", .mapping [("q", .sequence [.text (fieldExpression "name")])]),
        ("headers", .mapping [("h", .sequence [.text (fieldExpression "name")])]),
        ("body", .sequence [.text (fieldExpression "name")])]) = .ok rules ∧
      Selector.ofLeaf (.text (fieldExpression "name")) = .ok (.expression "name") ∧
      mapRequest fieldReader .sandbox rules (.mapping [("name", .text "a")]) =
        .ok ⟨"GET", "x://h?q=%7B%7Bname%7D%7D",
          NameMap.empty.insert "h" (fieldExpression "name"), some (.sequence [.text "a"])⟩ :=
  ⟨_, rfl, rfl, rfl⟩

end Mapping

end ActionBridge
