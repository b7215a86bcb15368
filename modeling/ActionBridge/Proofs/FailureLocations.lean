import ActionBridge.Proofs.MappingFailures
import ActionBridge.Proofs.Pieces
/-!
Where the failure of an expression points. The location in a failure is that of a text in the rules
as they are written: a section, and the keys and the indices that lead to the text in the template
of the section.
-/

namespace ActionBridge

theorem Rule.locationText_nil (name : String) : Rule.locationText name [] = name :=
  String.ofList_toList

def Tree.HoldsExpression (template : Tree) (name expression location : String) : Prop :=
  ∃ place raw, template.LeafAt place (.text raw) ∧
    Selector.ofText raw = .ok (.expression expression) ∧
    location = Rule.locationText name place

section

variable {template leaf : Tree} {expression : String}

theorem Selector.exists_text_of_ofLeaf
    (hs : Selector.ofLeaf leaf = .ok (.expression expression)) : ∃ raw, leaf = .text raw := by
  cases leaf with
  | text raw => exact ⟨raw, rfl⟩
  | null | bool | number | sequence | mapping => cases hs

theorem Tree.LeafAt.holdsExpression {place : List String} (hleaf : template.LeafAt place leaf)
    (hs : Selector.ofLeaf leaf = .ok (.expression expression)) (name : String) :
    template.HoldsExpression name expression (Rule.locationText name place) := by
  obtain ⟨raw, rfl⟩ := Selector.exists_text_of_ofLeaf hs
  exact ⟨place, raw, hleaf, hs, rfl⟩

theorem Tree.holdsExpression_of_ofLeaf
    (hs : Selector.ofLeaf leaf = .ok (.expression expression)) (name : String) :
    leaf.HoldsExpression name expression name := by
  obtain ⟨raw, rfl⟩ := Selector.exists_text_of_ofLeaf hs
  exact ⟨[], raw, .leaf rfl, hs, (Rule.locationText_nil name).symm⟩

end

namespace RequestRules

open Rule

/-- A section of a request as its rules are written: its name in locations, and its template. The
template of an optional entry of the path is without its mark. -/
inductive SectionOf (tree : Tree) : String → Tree → Prop where
  | url {template : Tree} : tree.lookup? "url" = some template → SectionOf tree "url" template
  | entry {entries : List Tree} {index : Nat} {raw : String} :
      tree.lookup? "path" = some (.sequence entries) → entries[index]? = some (.text raw) →
      SectionOf tree (entryLocation index) (.text raw)
  | optionalEntry {entries : List Tree} {index : Nat} {raw : String} :
      tree.lookup? "path" = some (.sequence entries) →
      entries[index]? = some (.text (raw ++ "?")) →
      SectionOf tree (entryLocation index) (.text raw)
  | query {entries : Entries} {name : String} {template : Tree} :
      tree.lookup? "query" = some (.mapping entries) → (name, template) ∈ entries →
      SectionOf tree ("query." ++ name) template
  | headers {entries : Entries} {name : String} {template : Tree} :
      tree.lookup? "headers" = some (.mapping entries) → (name, template) ∈ entries →
      SectionOf tree ("headers." ++ name) template
  | body {template : Tree} : tree.lookup? "body" = some template → SectionOf tree "body" template

def HoldsExpression (tree : Tree) (expression location : String) : Prop :=
  ∃ name template, SectionOf tree name template ∧
    template.HoldsExpression name expression location

structure Reads (t : Tree) (entry : PathEntry) : Prop where
  written : t = .text entry.raw ∨ t = .text (entry.raw ++ "?")
  selector : Selector.ofText entry.raw = .ok entry.selector

structure WrittenIn (tree : Tree) (rules : RequestRules) : Prop where
  url : tree.lookup? "url" = some (.text rules.url)
  path : ∀ (index : Nat) (entry : PathEntry), rules.path[index]? = some entry → ∃ ts t,
    tree.lookup? "path" = some (.sequence ts) ∧ ts[index]? = some t ∧ Reads t entry
  query : ∀ e ∈ rules.query, ∃ es, tree.lookup? "query" = some (.mapping es) ∧ e ∈ es
  headers : ∀ e ∈ rules.headers, ∃ es, tree.lookup? "headers" = some (.mapping es) ∧ e ∈ es
  body : tree.lookup? "body" = rules.body

theorem readEntry_reads {index : Nat} {t : Tree} {entry : PathEntry}
    (h : readEntry index t = .ok entry) : Reads t entry := by
  cases t with
  | text raw =>
    have hwhole (hraw : (selectorOf raw (entryLocation index)).map (⟨raw, ·, false⟩) = .ok entry) :
        Reads (.text raw) entry := by
      obtain ⟨s, hs, rfl⟩ := Except.map_ok_iff.1 hraw
      exact ⟨.inl rfl, selectorOf_ok hs⟩
    unfold readEntry at h
    dsimp only at h
    split at h
    · exact hwhole h
    · next cs hcs =>
      obtain ⟨s, hs, h⟩ := Except.bind_ok_iff.1 h
      split at h
      · exact hwhole h
      · cases h
        refine ⟨.inr ?_, selectorOf_ok hs⟩
        have hraw := congrArg String.ofList (Text.eq_append_of_beforeEnd? hcs)
        rw [String.ofList_toList, String.ofList_append] at hraw
        exact congrArg Tree.text hraw
  | null | bool | number | sequence | mapping => cases h

theorem readEntries_reads {index : Nat} {ts : List Tree} {entries : List PathEntry}
    (h : readEntries index ts = .ok entries) {i : Nat} {entry : PathEntry}
    (hentry : entries[i]? = some entry) : ∃ t, ts[i]? = some t ∧ Reads t entry := by
  induction ts generalizing index entries i with
  | nil =>
    cases h
    cases hentry
  | cons t ts ih =>
    rw [readEntries] at h
    obtain ⟨first, hfirst, h⟩ := Except.bind_ok_iff.1 h
    obtain ⟨others, hothers, h⟩ := Except.bind_ok_iff.1 h
    cases h
    cases i with
    | zero =>
      cases hentry
      exact ⟨t, rfl, readEntry_reads hfirst⟩
    | succ i => exact ih hothers hentry

theorem readPath_written {entries : Entries} {path : List PathEntry}
    (h : readPath entries = .ok path) {index : Nat} {entry : PathEntry}
    (hentry : path[index]? = some entry) :
    ∃ ts t, entries.lookup "path" = some (.sequence ts) ∧ ts[index]? = some t ∧ Reads t entry := by
  unfold readPath at h
  split at h
  · cases h
    cases hentry
  · next ts hts =>
    obtain ⟨t, ht, hreads⟩ := readEntries_reads h hentry
    exact ⟨ts, t, lookup_of_present hts, ht, hreads⟩
  · cases h

theorem readSection_written {name : String} {entries : Entries} {es : List (String × Tree)}
    (h : readSection name entries = .ok es) {e : String × Tree} (he : e ∈ es) :
    ∃ es', entries.lookup name = some (.mapping es') ∧ e ∈ es' := by
  rcases readSection_ok h with rfl | ⟨hlookup, -⟩
  · cases he
  · exact ⟨es, hlookup, he⟩

theorem ofTree_written {tree : Tree} {rules : RequestRules} (h : ofTree tree = .ok rules) :
    rules.WrittenIn tree := by
  obtain ⟨entries, rfl, hread⟩ := ofTree_ok h
  constructor
  · exact (readUrl_ok hread.url).1
  · exact fun _ _ => readPath_written hread.path
  · exact fun _ => readSection_written hread.query
  · exact fun _ => readSection_written hread.headers
  · exact (readBody_ok hread.body).1

end RequestRules

namespace ResponseRules

open Rule

def HoldsExpression (trees : List Tree) (expression location : String) : Prop :=
  ∃ tree ∈ trees, ∃ (part : Mapping.Section) (template : Tree),
    tree.lookup? part.toText = some template ∧
    template.HoldsExpression part.toText expression location

theorem ofTree_written {tree : Tree} {rules : ResponseRules} (h : ofTree tree = .ok rules) :
    tree.lookup? "headers" = rules.headers ∧ tree.lookup? "body" = rules.body := by
  obtain ⟨entries, rfl, hread⟩ := ofTree_ok h
  exact ⟨(readTemplate_ok hread.headers).1, (readTemplate_ok hread.body).1⟩

end ResponseRules

namespace Mapping

def PointsTo (holds : String → String → Prop) : MappingError → Prop
  | .evaluator expression location _ => holds expression location
  | _ => True

section

variable {holds : String → String → Prop}

theorem allowsLeaf_pointsTo {location : String} {leaf : Tree}
    (h : ∀ text, Selector.ofLeaf leaf = .ok (.expression text) → holds text location) :
    AllowsLeaf (PointsTo holds) location leaf := by
  constructor
  · exact fun _ _ => trivial
  · exact fun _ => trivial
  · exact fun text hs _ => h text hs

theorem allowsLeaf_of_mem_leaves {name : String} {template : Tree}
    (h : ∀ expression location, template.HoldsExpression name expression location →
      holds expression location) :
    ∀ l ∈ template.leaves,
      AllowsLeaf (PointsTo holds) (Rule.locationText name l.1) l.2 := by
  intro l hl
  apply allowsLeaf_pointsTo
  intro text hs
  exact h text _ ((Tree.leafAt_of_mem_leaves hl).holdsExpression hs name)

end

theorem allowsRequest_pointsTo {tree : Tree} {rules : RequestRules} (h : rules.WrittenIn tree)
    (es : Evaluators) (mode : EvalMode) (action : Tree) :
    AllowsRequest (PointsTo (RequestRules.HoldsExpression tree)) es mode rules action := by
  have hleaf {name : String} {leaf : Tree} (hsection : RequestRules.SectionOf tree name leaf) :
      AllowsLeaf (PointsTo (RequestRules.HoldsExpression tree)) name leaf :=
    allowsLeaf_pointsTo fun _ hs => ⟨name, leaf, hsection, leaf.holdsExpression_of_ofLeaf hs name⟩
  constructor
  case missingField => exact fun _ _ => trivial
  case baseUnreadable => exact fun _ _ _ _ => trivial
  case baseRootless => exact fun _ _ _ _ _ _ => trivial
  case unknown => exact fun _ => trivial
  case url => exact hleaf (.url h.url)
  case path =>
    intro index entry hentry text hs cause
    obtain ⟨ts, t, hts, ht, hreads⟩ := h.path index entry hentry
    have htext :
        RequestRules.SectionOf tree (RequestRules.entryLocation index) (.text entry.raw) := by
      rcases hreads.written with rfl | rfl
      · exact .entry hts ht
      · exact .optionalEntry hts ht
    exact (hleaf htext).evaluator text (hreads.selector.trans (congrArg Except.ok hs)) cause
  case query =>
    rintro ⟨name, leaf⟩ he
    obtain ⟨entries, hentries, he⟩ := h.query _ he
    exact hleaf (.query hentries he)
  case headers =>
    rintro ⟨name, leaf⟩ he
    obtain ⟨entries, hentries, he⟩ := h.headers _ he
    exact hleaf (.headers hentries he)
  case body =>
    intro template hbody
    apply allowsLeaf_of_mem_leaves
    intro expression location hholds
    exact ⟨"body", template, .body (h.body.trans hbody), hholds⟩

theorem allowsRuleSet_pointsTo {trees : List Tree} {tree : Tree} (htree : tree ∈ trees)
    {rules : ResponseRules} (h : ResponseRules.ofTree tree = .ok rules) :
    AllowsRuleSet (PointsTo (ResponseRules.HoldsExpression trees)) rules := by
  obtain ⟨hheaders, hbody⟩ := ResponseRules.ofTree_written h
  constructor
  · intro template ht
    apply allowsLeaf_of_mem_leaves
    intro expression location hholds
    exact ⟨tree, htree, .headers, template, hheaders.trans ht, hholds⟩
  · intro template ht
    apply allowsLeaf_of_mem_leaves
    intro expression location hholds
    exact ⟨tree, htree, .body, template, hbody.trans ht, hholds⟩

/-- The failure of an expression names a text of the rules as they are written: the section that the
text is in, the keys and the indices that lead to it there, and the expression that it holds. -/
theorem evaluator_failure_names_leaf :
    (∀ tree rules, RequestRules.ofTree tree = .ok rules →
      ∀ es mode action expression location cause,
        mapRequest es mode rules action = .error (.evaluator expression location cause) →
          RequestRules.HoldsExpression tree expression location) ∧
    ∀ trees ruleSets, ResponseRules.ofTrees trees = .ok ruleSets →
      ∀ es options reply target expression location cause,
        (mapReply es options reply ruleSets target).failure =
            some (.evaluator expression location cause) →
          ResponseRules.HoldsExpression trees expression location := by
  constructor
  · intro tree rules h es mode action expression location cause he
    exact (allowsRequest_pointsTo (RequestRules.ofTree_written h) es mode action).failsOnly _ he
  · intro trees ruleSets h es options reply target expression location cause he
    have hreply : AllowsReply (PointsTo (ResponseRules.HoldsExpression trees)) ruleSets := by
      constructor
      · exact fun _ => trivial
      · exact fun _ _ => trivial
      · intro rules hrules
        obtain ⟨tree, htree, hread⟩ := ResponseRules.exists_of_mem_ofTrees h rules hrules
        exact allowsRuleSet_pointsTo htree hread
    exact hreply.failure target _ he

def refusing : Evaluators :=
  Evaluators.none.insert (fun _ _ => .error (.custom "refused")) .sandbox

def pagedRules : Tree :=
  .mapping [("url", .text "x://h"),
    ("path", .sequence [.text "users", .text "\x7b\x7b page \x7d\x7d?"])]

def namedItems : Tree :=
  .mapping [("body", .mapping [("items",
    .sequence [.text "kept", .mapping [("name", .text "\x7b\x7b name \x7d\x7d")]])])]

def laterName : Reply :=
  ⟨[], .mapping [("items", .sequence [.null, .mapping [], .mapping [("name", .null)]])]⟩

/-- The index in a location is that of a template, and not that of the item that it meets. -/
theorem evaluator_failure_names_leaf_nested :
    RequestRules.HoldsExpression pagedRules "page" "path[1]" ∧
    ∃ ruleSets, ResponseRules.ofTrees [.mapping [], namedItems] = .ok ruleSets ∧
      (mapReply refusing .standard laterName ruleSets .null).failure =
        some (.evaluator "name" "body.items.1.name" (.custom "refused")) ∧
      ResponseRules.HoldsExpression [.mapping [], namedItems] "name" "body.items.1.name" := by
  have hrequest : RequestRules.ofTree pagedRules = .ok ⟨"GET", "x://h",
      [⟨"users", .literal, false⟩, ⟨"\x7b\x7b page \x7d\x7d", .expression "page", true⟩],
      [], [], none⟩ := rfl
  have hreply : ResponseRules.ofTrees [.mapping [], namedItems] =
      .ok [⟨none, none, none⟩, ⟨none, namedItems.lookup? "body", none⟩] := rfl
  refine ⟨?_, _, hreply, rfl, ?_⟩
  · exact evaluator_failure_names_leaf.1 pagedRules _ hrequest refusing .sandbox .null _ _ _ rfl
  · exact evaluator_failure_names_leaf.2 _ _ hreply refusing .standard laterName .null _ _ _ rfl

end Mapping

end ActionBridge
