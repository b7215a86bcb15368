import ActionBridge.Mapping.Request
import ActionBridge.Proofs.Leaves

namespace ActionBridge

inductive RequestRules.Names (rules : RequestRules) : Selector → Prop where
  | url {s : Selector} : Selector.ofText rules.url = .ok s → Names rules s
  | path {entry : PathEntry} : entry ∈ rules.path → Names rules entry.selector
  | query {name : String} {template : Tree} {l : List String × Tree} {s : Selector} :
      (name, template) ∈ rules.query → l ∈ template.leaves → Selector.ofLeaf l.2 = .ok s →
      Names rules s
  | headers {name : String} {template : Tree} {l : List String × Tree} {s : Selector} :
      (name, template) ∈ rules.headers → l ∈ template.leaves → Selector.ofLeaf l.2 = .ok s →
      Names rules s
  | body {template : Tree} {l : List String × Tree} {s : Selector} :
      rules.body = some template → l ∈ template.leaves → Selector.ofLeaf l.2 = .ok s →
      Names rules s

namespace Mapping

open ActionBridge.Tree

section

variable (es es' : Evaluators) (mode mode' : EvalMode) (a a' : Tree)

def SameValue (s : Selector) : Prop :=
  ∀ location leaf, resolve es mode a location leaf s = resolve es' mode' a' location leaf s

def SameLeaf (leaf : Tree) : Prop :=
  ∀ s, Selector.ofLeaf leaf = .ok s → SameValue es es' mode mode' a a' s

end

section

variable {es es' : Evaluators} {mode mode' : EvalMode} {a a' : Tree}

theorem sameValue_literal : SameValue es es' mode mode' a a' .literal :=
  fun _ _ => rfl

theorem sameValue_path {p : Path} (h : a.get? p = a'.get? p) :
    SameValue es es' mode mode' a a' (.path p) :=
  fun _ _ => congrArg Except.ok h

theorem sameLeaf_of_leaves {template : Tree}
    (h : ∀ l ∈ template.leaves, SameLeaf es es' mode mode' a a' l.2) :
    SameLeaf es es' mode mode' a a' template := by
  cases template with
  | text s => exact h ([], .text s) (List.mem_singleton.2 rfl)
  | null | bool | number | sequence | mapping =>
    intro s hs
    cases hs
    exact sameValue_literal

theorem resolveLeaf_congr {leaf : Tree} (h : SameLeaf es es' mode mode' a a' leaf)
    (location : String) : resolveLeaf es mode a location leaf =
      resolveLeaf es' mode' a' location leaf := by
  unfold resolveLeaf selectorOf
  cases hs : Selector.ofLeaf leaf with
  | error e => rfl
  | ok s => exact h s hs location leaf

theorem resolveField_congr {leaf : Tree} (h : SameLeaf es es' mode mode' a a' leaf)
    (location : String) : resolveField es mode a location leaf =
      resolveField es' mode' a' location leaf := by
  rw [resolveField, resolveField, resolveLeaf_congr h]

theorem resolveBase_congr {url : String} (h : SameLeaf es es' mode mode' a a' (.text url)) :
    resolveBase es mode a url = resolveBase es' mode' a' url := by
  rw [resolveBase, resolveBase, resolveField_congr h]

theorem entryPieces_congr {entry : PathEntry} (h : SameValue es es' mode mode' a a' entry.selector)
    (index : Nat) : entryPieces es mode a index entry = entryPieces es' mode' a' index entry := by
  simp only [entryPieces, h (RequestRules.entryLocation index) (.text entry.raw)]

theorem pathPieces_congr {entries : List PathEntry}
    (h : ∀ entry ∈ entries, SameValue es es' mode mode' a a' entry.selector) (index : Nat) :
    pathPieces es mode a index entries = pathPieces es' mode' a' index entries := by
  induction entries generalizing index with
  | nil => rfl
  | cons entry entries ih =>
    obtain ⟨hfirst, hothers⟩ := List.forall_mem_cons.1 h
    rw [pathPieces, pathPieces, entryPieces_congr hfirst, ih hothers]

theorem queryPairs_congr {entries : List (String × Tree)}
    (h : ∀ e ∈ entries, SameLeaf es es' mode mode' a a' e.2) :
    queryPairs es mode a entries = queryPairs es' mode' a' entries := by
  induction entries with
  | nil => rfl
  | cons e entries ih =>
    obtain ⟨hfirst, hothers⟩ := List.forall_mem_cons.1 h
    rw [queryPairs, queryPairs, resolveField_congr hfirst, ih hothers]

theorem headerTexts_congr {entries : List (String × Tree)}
    (h : ∀ e ∈ entries, SameLeaf es es' mode mode' a a' e.2) (headers : NameMap String) :
    headerTexts es mode a headers entries = headerTexts es' mode' a' headers entries := by
  induction entries generalizing headers with
  | nil => rfl
  | cons e entries ih =>
    obtain ⟨hfirst, hothers⟩ := List.forall_mem_cons.1 h
    simp only [headerTexts, resolveField_congr hfirst, ih hothers]

theorem resolveBody_congr {template : Tree}
    (h : ∀ l ∈ template.leaves, SameLeaf es es' mode mode' a a' l.2) :
    resolveBody es mode a template = resolveBody es' mode' a' template :=
  traverse_congr [] template fun l hl => resolveLeaf_congr (h l hl) _

variable {rules : RequestRules}

theorem urlOf_congr (h : ∀ s, rules.Names s → SameValue es es' mode mode' a a' s) :
    urlOf es mode rules a = urlOf es' mode' rules a' := by
  have hurl : SameLeaf es es' mode mode' a a' (.text rules.url) := fun s hs => h s (.url hs)
  have hpath (entry : PathEntry) (he : entry ∈ rules.path) :
      SameValue es es' mode mode' a a' entry.selector := h _ (.path he)
  have hquery (e : String × Tree) (he : e ∈ rules.query) : SameLeaf es es' mode mode' a a' e.2 :=
    sameLeaf_of_leaves fun l hl s hs => h s (.query he hl hs)
  simp only [urlOf, resolveBase_congr hurl, pathPieces_congr hpath, queryPairs_congr hquery]

theorem mapRequest_congr (h : ∀ s, rules.Names s → SameValue es es' mode mode' a a' s) :
    mapRequest es mode rules a = mapRequest es' mode' rules a' := by
  have hheaders (e : String × Tree) (he : e ∈ rules.headers) :
      SameLeaf es es' mode mode' a a' e.2 :=
    sameLeaf_of_leaves fun l hl s hs => h s (.headers he hl hs)
  simp only [mapRequest, urlOf_congr h, headerTexts_congr hheaders]
  cases hbody : rules.body with
  | none => rfl
  | some template => simp only [resolveBody_congr fun l hl s hs => h s (.body hbody hl hs)]

end

/-- Rules without expressions tell a host nothing of an action but what stands at their paths, and
no evaluator has a say in it. -/
theorem mapRequest_tells_only_named {rules : RequestRules} {a a' : Tree}
    (hpure : ∀ text, ¬rules.Names (.expression text))
    (hagree : ∀ p, rules.Names (.path p) → a.get? p = a'.get? p) (es es' : Evaluators)
    (mode mode' : EvalMode) : mapRequest es mode rules a = mapRequest es' mode' rules a' := by
  apply mapRequest_congr
  intro s hs
  cases s with
  | path p => exact sameValue_path (hagree p hs)
  | expression text => exact absurd hs (hpure text)
  | literal => exact sameValue_literal

def searchRules : RequestRules :=
  ⟨"GET", "http://h", [⟨"$.page", .path ⟨["page"], by simp⟩, true⟩], [("q", .text "$.name")], [],
    none⟩

theorem ofText_name : Selector.ofText "$.name" = .ok (.path ⟨["name"], by simp⟩) := by
  have hd : Path.dotted? ['.', 'n', 'a', 'm', 'e'] = some ['.', 'n', 'a', 'm', 'e'] := by
    simp [Path.dotted?]
  have hp : Path.parse ".name" = .ok ⟨["name"], by simp⟩ := by
    have ht : ".name".toList = ['.', 'n', 'a', 'm', 'e'] := rfl
    simp only [Path.parse, ht, hd]
    rfl
  exact congrArg (Except.map Selector.path) hp

theorem names_searchRules {s : Selector} (h : searchRules.Names s) :
    s = .literal ∨ s = .path ⟨["page"], by simp⟩ ∨ s = .path ⟨["name"], by simp⟩ := by
  cases h with
  | url hs =>
    cases hs
    exact .inl rfl
  | path he =>
    cases List.mem_singleton.1 he
    exact .inr (.inl rfl)
  | query he hl hs =>
    cases List.mem_singleton.1 he
    cases List.mem_singleton.1 hl
    cases ofText_name.symm.trans hs
    exact .inr (.inr rfl)
  | headers he => cases he
  | body hb => cases hb

theorem mapRequest_tells_only_named_search :
    (∀ text, ¬searchRules.Names (.expression text)) ∧
      (∀ p, searchRules.Names (.path p) →
        (Tree.mapping [("name", .text "n"), ("secret", .text "s")]).get? p =
          (Tree.mapping [("secret", .null), ("name", .text "n")]).get? p) ∧
      mapRequest .none .sandbox searchRules
          (.mapping [("name", .text "n"), ("secret", .text "s")]) =
        mapRequest .none .eval searchRules (.mapping [("secret", .null), ("name", .text "n")]) := by
  have hpure (text : String) : ¬searchRules.Names (.expression text) := by
    intro h
    rcases names_searchRules h with h | h | h <;> cases h
  have hagree (p : Path) (h : searchRules.Names (.path p)) :
      (Tree.mapping [("name", .text "n"), ("secret", .text "s")]).get? p =
        (Tree.mapping [("secret", .null), ("name", .text "n")]).get? p := by
    rcases names_searchRules h with h | h | h
    · cases h
    · cases h
      rfl
    · cases h
      rfl
  exact ⟨hpure, hagree, mapRequest_tells_only_named hpure hagree .none .none .sandbox .eval⟩

end Mapping

end ActionBridge
