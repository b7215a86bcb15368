import ActionBridge.Proofs.Leaves
import ActionBridge.Rule.Request
import ActionBridge.Rule.Response

namespace ActionBridge

def HasSelector (leaf : Tree) : Prop :=
  ∃ s, Selector.ofLeaf leaf = .ok s

def Tree.IsReadable (template : Tree) : Prop :=
  ∀ l ∈ template.leaves, HasSelector l.2

theorem Tree.IsReadable.hasSelector {t : Tree} (h : t.IsReadable) : HasSelector t := by
  cases t with
  | text s => exact h ([], .text s) (List.mem_singleton.2 rfl)
  | null | bool | number | sequence | mapping => exact ⟨.literal, rfl⟩

structure RequestRules.IsReadable (rules : RequestRules) : Prop where
  url : HasSelector (.text rules.url)
  query : ∀ e ∈ rules.query, HasSelector e.2
  headers : ∀ e ∈ rules.headers, HasSelector e.2
  body : ∀ template, rules.body = some template → template.IsReadable

structure ResponseRules.IsReadable (rules : ResponseRules) : Prop where
  headers : ∀ template, rules.headers = some template → template.IsReadable
  body : ∀ template, rules.body = some template → template.IsReadable

namespace Rule

theorem lookup_of_present {key : String} {entries : Entries} {t : Tree}
    (h : present key entries = some t) : entries.lookup key = some t := by
  unfold present at h
  split at h
  · cases h
  · exact h

theorem checkLeaf_ok {name : String} {location : List String} {leaf : Tree} {r : Option Tree}
    (h : checkLeaf name location leaf = .ok r) : HasSelector leaf := by
  unfold checkLeaf at h
  split at h
  · next s hs => exact ⟨s, hs⟩
  · cases h

theorem checkTemplate_ok {name : String} {template : Tree}
    (h : checkTemplate name template = .ok ()) : template.IsReadable := by
  obtain ⟨r, hr, -⟩ := Except.map_ok_iff.1 h
  intro l hl
  obtain ⟨r', hr'⟩ := Tree.traverse_ok [] template r hr l hl
  exact checkLeaf_ok hr'

theorem selectorOf_ok {raw location : String} {s : Selector}
    (h : selectorOf raw location = .ok s) : Selector.ofText raw = .ok s := by
  unfold selectorOf at h
  split at h
  · next s' hs =>
    cases h
    exact hs
  · cases h

end Rule

namespace RequestRules

open Rule

structure ReadFrom (entries : Entries) (rules : RequestRules) : Prop where
  method : readMethod entries = .ok rules.method
  url : readUrl entries = .ok rules.url
  path : readPath entries = .ok rules.path
  query : readSection "query" entries = .ok rules.query
  headers : readSection "headers" entries = .ok rules.headers
  body : readBody entries = .ok rules.body

theorem ofTree_ok {tree : Tree} {rules : RequestRules} (h : ofTree tree = .ok rules) :
    ∃ entries, tree = .mapping entries ∧ ReadFrom entries rules := by
  unfold ofTree at h
  split at h
  · next entries =>
    simp only [Except.bind_ok_iff] at h
    obtain ⟨_, hmethod, _, hurl, _, hpath, _, hquery, _, hheaders, _, hbody, h⟩ := h
    cases h
    exact ⟨entries, rfl, hmethod, hurl, hpath, hquery, hheaders, hbody⟩
  · cases h

theorem readUrl_ok {entries : Entries} {url : String} (h : readUrl entries = .ok url) :
    entries.lookup "url" = some (.text url) ∧ HasSelector (.text url) := by
  unfold readUrl at h
  split at h
  · next hlookup =>
    obtain ⟨s, hs, rfl⟩ := Except.map_ok_iff.1 h
    exact ⟨hlookup, s, selectorOf_ok hs⟩
  · cases h
  · cases h

theorem checkSection_ok {name : String} : ∀ {entries : List (String × Tree)},
    checkSection name entries = .ok () → ∀ e ∈ entries, e.2.IsReadable
  | [], _ => by simp
  | (entry, template) :: entries, h => by
    unfold checkSection at h
    split at h
    · next hnil => cases hnil
    · cases h
    · next hcons =>
      cases hcons
      obtain ⟨⟨⟩, htemplate, hothers⟩ := Except.bind_ok_iff.1 h
      exact List.forall_mem_cons.2 ⟨checkTemplate_ok htemplate, checkSection_ok hothers⟩

theorem readSection_ok {name : String} {entries : Entries} {es : List (String × Tree)}
    (h : readSection name entries = .ok es) :
    es = [] ∨ entries.lookup name = some (.mapping es) ∧ checkSection name es = .ok () := by
  unfold readSection at h
  split at h
  · cases h
    exact .inl rfl
  · next hes =>
    obtain ⟨⟨⟩, hchecked, rfl⟩ := Except.map_ok_iff.1 h
    exact .inr ⟨lookup_of_present hes, hchecked⟩
  · cases h

theorem readSection_isReadable {name : String} {entries : Entries} {es : List (String × Tree)}
    (h : readSection name entries = .ok es) : ∀ e ∈ es, e.2.IsReadable := by
  rcases readSection_ok h with rfl | ⟨-, hchecked⟩
  · simp
  · exact checkSection_ok hchecked

theorem readBody_ok {entries : Entries} {body : Option Tree} (h : readBody entries = .ok body) :
    entries.lookup "body" = body ∧ ∀ template, body = some template → template.IsReadable := by
  unfold readBody at h
  split at h
  · next hlookup =>
    cases h
    refine ⟨hlookup, ?_⟩
    intro template hnone
    cases hnone
  · next hlookup =>
    obtain ⟨⟨⟩, hbody, rfl⟩ := Except.map_ok_iff.1 h
    refine ⟨hlookup, ?_⟩
    rintro _ ⟨⟩
    exact checkTemplate_ok hbody

theorem ofTree_isReadable {tree : Tree} {rules : RequestRules} (h : ofTree tree = .ok rules) :
    rules.IsReadable := by
  obtain ⟨entries, -, hread⟩ := ofTree_ok h
  constructor
  · exact (readUrl_ok hread.url).2
  · exact fun e he => (readSection_isReadable hread.query e he).hasSelector
  · exact fun e he => (readSection_isReadable hread.headers e he).hasSelector
  · exact (readBody_ok hread.body).2

end RequestRules

namespace ResponseRules

open Rule

structure ReadFrom (entries : Entries) (rules : ResponseRules) : Prop where
  headers : readTemplate "headers" entries = .ok rules.headers
  body : readTemplate "body" entries = .ok rules.body
  defaults : readDefaults entries = .ok rules.defaults

theorem ofTree_ok {tree : Tree} {rules : ResponseRules} (h : ofTree tree = .ok rules) :
    ∃ entries, tree = .mapping entries ∧ ReadFrom entries rules := by
  unfold ofTree at h
  split at h
  · next entries =>
    simp only [Except.bind_ok_iff] at h
    obtain ⟨_, hheaders, _, hbody, _, hdefaults, h⟩ := h
    cases h
    exact ⟨entries, rfl, hheaders, hbody, hdefaults⟩
  · cases h

theorem exists_of_mem_ofTrees : ∀ {trees : List Tree} {ruleSets : List ResponseRules},
    ofTrees trees = .ok ruleSets → ∀ rules ∈ ruleSets, ∃ tree ∈ trees, ofTree tree = .ok rules
  | [], _, h => by
    cases h
    simp
  | t :: ts, _, h => by
    rw [ofTrees] at h
    obtain ⟨first, hfirst, h⟩ := Except.bind_ok_iff.1 h
    obtain ⟨others, hothers, h⟩ := Except.bind_ok_iff.1 h
    cases h
    refine List.forall_mem_cons.2 ⟨⟨t, List.mem_cons_self, hfirst⟩, ?_⟩
    intro rules hrules
    obtain ⟨tree, htree, hread⟩ := exists_of_mem_ofTrees hothers rules hrules
    exact ⟨tree, List.mem_cons_of_mem t htree, hread⟩

theorem readTemplate_ok {name : String} {entries : Entries} {template : Option Tree}
    (h : readTemplate name entries = .ok template) :
    entries.lookup name = template ∧ ∀ t, template = some t → t.IsReadable := by
  unfold readTemplate at h
  split at h
  · next hlookup =>
    cases h
    refine ⟨hlookup, ?_⟩
    intro template hnone
    cases hnone
  · next hlookup =>
    obtain ⟨⟨⟩, htemplate, rfl⟩ := Except.map_ok_iff.1 h
    refine ⟨hlookup, ?_⟩
    rintro _ ⟨⟩
    exact checkTemplate_ok htemplate

theorem ofTree_isReadable {tree : Tree} {rules : ResponseRules} (h : ofTree tree = .ok rules) :
    rules.IsReadable := by
  obtain ⟨entries, -, hread⟩ := ofTree_ok h
  exact ⟨(readTemplate_ok hread.headers).2, (readTemplate_ok hread.body).2⟩

theorem ofTrees_isReadable {trees : List Tree} {ruleSets : List ResponseRules}
    (h : ofTrees trees = .ok ruleSets) : ∀ rules ∈ ruleSets, rules.IsReadable := by
  intro rules hrules
  obtain ⟨tree, -, htree⟩ := exists_of_mem_ofTrees h rules hrules
  exact ofTree_isReadable htree

end ResponseRules

end ActionBridge
