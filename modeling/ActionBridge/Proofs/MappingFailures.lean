import ActionBridge.Mapping.Reply
import ActionBridge.Mapping.Request
import ActionBridge.Proofs.RuleChecks
import ActionBridge.Proofs.WalkedValues
import ActionBridge.Proofs.WriteFailures
/-!
What a mapping by checked rules can fail with. Rules never fail on their own syntax, so what is left
are the values that the rules meet: the action, the reply, the target, and what expressions yield.
The lemmas on the stages hold for any set of failures that has those of the leaves.
-/

namespace ActionBridge.Mapping

open ActionBridge.Tree

/-- What a leaf fails with at its location is allowed: a selector that cannot be read, want of an
evaluator, and whatever becomes of its own expression. -/
structure AllowsLeaf (allowed : MappingError → Prop) (location : String) (leaf : Tree) : Prop where
  selector : ∀ cause, Selector.ofLeaf leaf = .error cause → allowed (.path cause)
  unknown : ∀ mode, allowed (.unknownEvaluator mode)
  evaluator : ∀ text, Selector.ofLeaf leaf = .ok (.expression text) →
    ∀ cause, allowed (.evaluator text location cause)

section

variable {allowed : MappingError → Prop} {es : Evaluators} {mode : EvalMode}
variable {location : String} {leaf : Tree}

theorem evaluate_failsOnly (hunknown : ∀ mode, allowed (.unknownEvaluator mode)) {text : String}
    (h : ∀ cause, allowed (.evaluator text location cause)) (bound : Tree) :
    FailsOnly allowed (evaluate es mode text location bound) := by
  unfold evaluate
  split
  · exact .error (hunknown _)
  · next evaluator _ =>
    cases evaluator text bound with
    | error cause => exact .error (h cause)
    | ok value => exact .ok value

theorem resolve_failsOnly (hunknown : ∀ mode, allowed (.unknownEvaluator mode)) {s : Selector}
    (h : ∀ text, s = .expression text → ∀ cause, allowed (.evaluator text location cause))
    (source leaf : Tree) : FailsOnly allowed (resolve es mode source location leaf s) := by
  cases s with
  | path p => exact .ok _
  | expression text => exact evaluate_failsOnly hunknown (h text rfl) source
  | literal => exact .ok _

theorem selectorOf_failsOnly (h : AllowsLeaf allowed location leaf) :
    FailsOnly allowed (selectorOf leaf) := by
  unfold selectorOf
  cases hs : Selector.ofLeaf leaf with
  | error cause => exact .error (h.selector cause hs)
  | ok s => exact .ok s

theorem selectorOf_ok_iff {s : Selector} :
    selectorOf leaf = .ok s ↔ Selector.ofLeaf leaf = .ok s := by
  unfold selectorOf
  cases Selector.ofLeaf leaf with
  | error cause =>
    constructor
    · intro h
      cases h
    · intro h
      cases h
  | ok s' =>
    constructor
    · intro h
      cases h
      rfl
    · intro h
      cases h
      rfl

theorem resolveLeaf_failsOnly (h : AllowsLeaf allowed location leaf) (source : Tree) :
    FailsOnly allowed (resolveLeaf es mode source location leaf) := by
  refine (selectorOf_failsOnly h).bind fun s hs => ?_
  apply resolve_failsOnly h.unknown
  rintro text rfl
  exact h.evaluator text (selectorOf_ok_iff.1 hs)

theorem resolveField_failsOnly (h : AllowsLeaf allowed location leaf) (source : Tree) :
    FailsOnly allowed (resolveField es mode source location leaf) :=
  (resolveLeaf_failsOnly h source).bind fun _ _ => .ok _

theorem allowsLeaf_of_hasSelector (hunknown : ∀ mode, allowed (.unknownEvaluator mode))
    (hevaluator : ∀ text location cause, allowed (.evaluator text location cause))
    (h : HasSelector leaf) : AllowsLeaf allowed location leaf := by
  obtain ⟨s, hs⟩ := h
  refine ⟨?_, hunknown, fun text _ => hevaluator text location⟩
  intro cause hcause
  rw [hs] at hcause
  cases hcause

end

/-! ### Requests -/

section

variable (es : Evaluators) (mode : EvalMode) (rules : RequestRules) (action : Tree)

def IsBaseText (base : String) : Prop :=
  ∃ value, resolveField es mode action "url" (.text rules.url) = .ok (some value) ∧
    base = fieldText value

inductive RequestFailure : MappingError → Prop where
  | missingField (location selector : String) : RequestFailure (.missingField location selector)
  | evaluator (expression location : String) (cause : EvaluationError) :
      RequestFailure (.evaluator expression location cause)
  | unknownEvaluator (mode : String) : RequestFailure (.unknownEvaluator mode)
  | baseUnreadable {base : String} {cause : UrlError} : IsBaseText es mode rules action base →
      Url.parse base = .error cause →
      RequestFailure (.malformedRuleSet (.baseUnreadable base cause))
  | baseRootless {base : String} {u : Url} {text : List Char} :
      IsBaseText es mode rules action base → Url.parse base = .ok u → u.path = .rootless text →
      RequestFailure (.malformedRuleSet (.baseRootless base))

end

structure AllowsRequest (allowed : MappingError → Prop) (es : Evaluators) (mode : EvalMode)
    (rules : RequestRules) (action : Tree) : Prop where
  missingField : ∀ location selector, allowed (.missingField location selector)
  baseUnreadable : ∀ base cause, IsBaseText es mode rules action base →
    Url.parse base = .error cause → allowed (.malformedRuleSet (.baseUnreadable base cause))
  baseRootless : ∀ base u text, IsBaseText es mode rules action base → Url.parse base = .ok u →
    u.path = .rootless text → allowed (.malformedRuleSet (.baseRootless base))
  unknown : ∀ mode, allowed (.unknownEvaluator mode)
  url : AllowsLeaf allowed "url" (.text rules.url)
  path : ∀ i entry, rules.path[i]? = some entry → ∀ text, entry.selector = .expression text →
    ∀ cause, allowed (.evaluator text (RequestRules.entryLocation i) cause)
  query : ∀ e ∈ rules.query, AllowsLeaf allowed ("query." ++ e.1) e.2
  headers : ∀ e ∈ rules.headers, AllowsLeaf allowed ("headers." ++ e.1) e.2
  body : ∀ template, rules.body = some template →
    ∀ l ∈ template.leaves, AllowsLeaf allowed (Rule.locationText "body" l.1) l.2

section

variable {allowed : MappingError → Prop} {es : Evaluators} {mode : EvalMode}
variable {rules : RequestRules} {action : Tree}

theorem resolveBase_failsOnly (h : AllowsRequest allowed es mode rules action) :
    FailsOnly allowed (resolveBase es mode action rules.url) := by
  rw [resolveBase]
  refine (resolveField_failsOnly h.url action).bind ?_
  intro value hvalue
  cases value with
  | none => exact .error (h.missingField "url" rules.url)
  | some value =>
    have hbase : IsBaseText es mode rules action (fieldText value) := ⟨value, hvalue, rfl⟩
    cases hu : Url.parse (fieldText value) with
    | error cause =>
      simp only [hu]
      exact .error (h.baseUnreadable _ cause hbase hu)
    | ok u =>
      simp only [hu]
      exact .ok _

theorem resolveBase_ok {base : String} {u : Url}
    (h : resolveBase es mode action rules.url = .ok (base, u)) :
    IsBaseText es mode rules action base ∧ Url.parse base = .ok u := by
  rw [resolveBase] at h
  obtain ⟨value, hvalue, h⟩ := Except.bind_ok_iff.1 h
  cases value with
  | none => cases h
  | some value =>
    cases hu : Url.parse (fieldText value) with
    | error cause =>
      simp only [hu] at h
      cases h
    | ok u' =>
      simp only [hu] at h
      cases h
      exact ⟨⟨value, hvalue, rfl⟩, hu⟩

theorem entryPieces_failsOnly (h : AllowsRequest allowed es mode rules action) {index : Nat}
    {entry : PathEntry} (hentry : rules.path[index]? = some entry) :
    FailsOnly allowed (entryPieces es mode action index entry) := by
  unfold entryPieces
  split
  · exact .ok _
  · refine (resolve_failsOnly h.unknown (h.path index entry hentry) action _).bind ?_
    intro value _
    split
    · exact .ok _
    · split
      · exact .ok _
      · exact .error (h.missingField _ entry.raw)

theorem pathPieces_failsOnly (h : AllowsRequest allowed es mode rules action) {index : Nat}
    {entries : List PathEntry}
    (hentries : ∀ i entry, entries[i]? = some entry → rules.path[index + i]? = some entry) :
    FailsOnly allowed (pathPieces es mode action index entries) := by
  induction entries generalizing index with
  | nil => exact .ok _
  | cons entry entries ih =>
    have hothers : ∀ i other, entries[i]? = some other →
        rules.path[index + 1 + i]? = some other := by
      intro i other hother
      have hindex : index + 1 + i = index + (i + 1) := by omega
      rw [hindex]
      exact hentries (i + 1) other hother
    rw [pathPieces]
    refine (entryPieces_failsOnly h (hentries 0 entry rfl)).bind fun _ _ => ?_
    exact (ih hothers).bind fun _ _ => .ok _

theorem withPieces_failsOnly (h : AllowsRequest allowed es mode rules action) {base : String}
    {u : Url} (hbase : IsBaseText es mode rules action base) (hu : Url.parse base = .ok u)
    (pieces : List String) : FailsOnly allowed (withPieces base u pieces) := by
  unfold withPieces
  split
  · exact .ok _
  · cases hpath : u.path with
    | rootless text =>
      simp only [Url.appendSegments?, hpath]
      exact .error (h.baseRootless base u text hbase hu hpath)
    | segments list =>
      simp only [Url.appendSegments?, hpath]
      exact .ok _

theorem queryPairs_failsOnly {entries : List (String × Tree)}
    (h : ∀ e ∈ entries, AllowsLeaf allowed ("query." ++ e.1) e.2) :
    FailsOnly allowed (queryPairs es mode action entries) := by
  induction entries with
  | nil => exact .ok _
  | cons e entries ih =>
    obtain ⟨hfirst, hothers⟩ := List.forall_mem_cons.1 h
    rw [queryPairs]
    refine (resolveField_failsOnly hfirst action).bind fun _ _ => ?_
    exact (ih hothers).bind fun _ _ => .ok _

theorem headerTexts_failsOnly {entries : List (String × Tree)}
    (h : ∀ e ∈ entries, AllowsLeaf allowed ("headers." ++ e.1) e.2)
    (headers : NameMap String) :
    FailsOnly allowed (headerTexts es mode action headers entries) := by
  induction entries generalizing headers with
  | nil => exact .ok _
  | cons e entries ih =>
    obtain ⟨hfirst, hothers⟩ := List.forall_mem_cons.1 h
    rw [headerTexts]
    refine (resolveField_failsOnly hfirst action).bind fun _ _ => ?_
    exact ih hothers _

theorem urlOf_failsOnly (h : AllowsRequest allowed es mode rules action) :
    FailsOnly allowed (urlOf es mode rules action) := by
  rw [urlOf]
  refine (resolveBase_failsOnly h).bind ?_
  rintro ⟨base, u⟩ hbase
  obtain ⟨hbase, hu⟩ := resolveBase_ok hbase
  have hpath : FailsOnly allowed (pathPieces es mode action 0 rules.path) := by
    apply pathPieces_failsOnly h
    intro i entry hentry
    rw [Nat.zero_add]
    exact hentry
  refine hpath.bind fun pieces _ => ?_
  refine (withPieces_failsOnly h hbase hu pieces).bind fun _ _ => ?_
  exact (queryPairs_failsOnly h.query).bind fun _ _ => .ok _

theorem AllowsRequest.failsOnly (h : AllowsRequest allowed es mode rules action) :
    FailsOnly allowed (mapRequest es mode rules action) := by
  rw [mapRequest]
  refine (urlOf_failsOnly h).bind fun _ _ => ?_
  refine (headerTexts_failsOnly h.headers .empty).bind fun _ _ => ?_
  cases hbody : rules.body with
  | none => exact .ok _
  | some template =>
    have htemplate : FailsOnly allowed (resolveBody es mode action template) := by
      apply traverse_failsOnly
      intro l hl
      exact resolveLeaf_failsOnly (h.body template hbody l hl) action
    exact htemplate.bind fun _ _ => .ok _

theorem mapRequest_failsOnly (h : rules.IsReadable) :
    FailsOnly (RequestFailure es mode rules action) (mapRequest es mode rules action) := by
  have hleaf (location : String) {leaf : Tree} (hs : HasSelector leaf) :
      AllowsLeaf (RequestFailure es mode rules action) location leaf :=
    allowsLeaf_of_hasSelector .unknownEvaluator .evaluator hs
  apply AllowsRequest.failsOnly
  constructor
  · exact .missingField
  · exact fun _ _ => .baseUnreadable
  · exact fun _ _ _ => .baseRootless
  · exact .unknownEvaluator
  · exact hleaf _ h.url
  · exact fun i _ _ text _ => .evaluator text (RequestRules.entryLocation i)
  · exact fun e he => hleaf _ (h.query e he)
  · exact fun e he => hleaf _ (h.headers e he)
  · exact fun template hbody l hl => hleaf _ (h.body template hbody l hl)

end

/-! ### Replies -/

inductive ReplyFailure : MappingError → Prop where
  | invalidTarget (target : Tree) : ReplyFailure (.invalidTarget target)
  | evaluator (expression location : String) (cause : EvaluationError) :
      ReplyFailure (.evaluator expression location cause)
  | unknownEvaluator (mode : String) : ReplyFailure (.unknownEvaluator mode)
  | gap (index length : Nat) : ReplyFailure (.path (.indexOutOfRange index length))

section

variable {allowed : MappingError → Prop} {es : Evaluators} {mode : EvalMode} {part : Section}

mutual

theorem walk_failsOnly (location : List String) : ∀ template : Tree,
    (∀ l ∈ template.leavesFrom location, ∀ source fragment, FailsOnly allowed
      (writeLeaf es mode (Rule.locationText part.toText l.1) l.2 source fragment)) →
    ∀ source fragment, FailsOnly allowed (walk es mode part location template source fragment)
  | .mapping rules, h, source, fragment => by
    rw [walk_mapping]
    exact .foldlM (fun s entries => walkEntries_failsOnly location rules h entries s) _ fragment
  | .sequence rules, h, source, fragment => by
    rw [walk_sequence]
    exact .foldlM (fun s item => walkItems_failsOnly location 0 rules h item s) _ fragment
  | .null, h, source, fragment | .bool _, h, source, fragment | .number _, h, source, fragment
  | .text _, h, source, fragment => h (location, _) (List.mem_singleton.2 rfl) source fragment

theorem walkEntries_failsOnly (location : List String) : ∀ rules : List (String × Tree),
    (∀ l ∈ entryLeavesFrom location rules, ∀ source fragment, FailsOnly allowed
      (writeLeaf es mode (Rule.locationText part.toText l.1) l.2 source fragment)) →
    ∀ source fragment,
      FailsOnly allowed (walkEntries es mode part location rules source fragment)
  | [], _, _, _ => .ok _
  | (key, rule) :: rules, h, source, fragment => by
    obtain ⟨hfirst, hothers⟩ := List.forall_mem_append.1 h
    rw [walkEntries]
    have hrest := fun s => walkEntries_failsOnly location rules hothers source s
    cases lookupIn part key source with
    | none => exact hrest fragment
    | some child =>
      exact (walk_failsOnly (location ++ [key]) rule hfirst child fragment).bind fun s _ => hrest s

theorem walkItems_failsOnly (location : List String) (index : Nat) : ∀ rules : List Tree,
    (∀ l ∈ itemLeavesFrom location index rules, ∀ source fragment, FailsOnly allowed
      (writeLeaf es mode (Rule.locationText part.toText l.1) l.2 source fragment)) →
    ∀ item fragment,
      FailsOnly allowed (walkItems es mode part location index rules item fragment)
  | [], _, _, _ => .ok _
  | rule :: rules, h, item, fragment => by
    obtain ⟨hfirst, hothers⟩ := List.forall_mem_append.1 h
    rw [walkItems]
    refine (walk_failsOnly (location ++ [toString index]) rule hfirst item fragment).bind ?_
    exact fun _ _ => walkItems_failsOnly location (index + 1) rules hothers item _

end

end

structure AllowsRuleSet (allowed : MappingError → Prop) (rules : ResponseRules) : Prop where
  headers : ∀ template, rules.headers = some template →
    ∀ l ∈ template.leaves, AllowsLeaf allowed (Rule.locationText (Section.toText .headers) l.1) l.2
  body : ∀ template, rules.body = some template →
    ∀ l ∈ template.leaves, AllowsLeaf allowed (Rule.locationText (Section.toText .body) l.1) l.2

structure AllowsReply (allowed : MappingError → Prop) (ruleSets : List ResponseRules) : Prop where
  invalidTarget : ∀ target, allowed (.invalidTarget target)
  gap : ∀ index length, allowed (.path (.indexOutOfRange index length))
  ruleSets : ∀ rules ∈ ruleSets, AllowsRuleSet allowed rules

section

variable {allowed : MappingError → Prop} {es : Evaluators} {mode : EvalMode}

theorem absorbProduced_failsOnly {text location : String}
    (h : ∀ cause, allowed (.evaluator text location cause)) (produced : Option Tree)
    (fragment : Tree) : FailsOnly allowed (absorbProduced text location produced fragment) := by
  unfold absorbProduced
  split
  · exact .ok _
  · exact .ok _
  · exact .ok _
  · exact .error (h _)

section

variable (hgap : ∀ index length, allowed (.path (.indexOutOfRange index length)))

include hgap

theorem writeLeaf_failsOnly {location : String} {leaf : Tree}
    (h : AllowsLeaf allowed location leaf) (source fragment : Tree) :
    FailsOnly allowed (writeLeaf es mode location leaf source fragment) := by
  refine (selectorOf_failsOnly h).bind fun s hs => ?_
  cases s with
  | path p =>
    dsimp only
    cases hf : (fragment.set p source).failure with
    | none => exact .ok _
    | some e =>
      obtain ⟨index, length⟩ := set_stopsOnly fragment p source e hf
      exact .error (hgap index length)
  | expression text =>
    have htext := h.evaluator text (selectorOf_ok_iff.1 hs)
    refine (evaluate_failsOnly h.unknown htext source).bind fun _ _ => ?_
    exact absorbProduced_failsOnly htext _ fragment
  | literal => exact .ok _

theorem walkSection_failsOnly {part : Section} {template : Option Tree}
    (h : ∀ t, template = some t →
      ∀ l ∈ t.leaves, AllowsLeaf allowed (Rule.locationText part.toText l.1) l.2)
    (source fragment : Tree) :
    FailsOnly allowed (walkSection es mode part template source fragment) := by
  cases template with
  | none => exact .ok _
  | some t =>
    apply walk_failsOnly
    intro l hl source fragment
    exact writeLeaf_failsOnly hgap (h t rfl l hl) source fragment

theorem fragmentOf_failsOnly {rules : ResponseRules} (h : AllowsRuleSet allowed rules)
    (reply : Reply) : FailsOnly allowed (fragmentOf es mode reply rules) := by
  rw [fragmentOf]
  refine (walkSection_failsOnly hgap h.headers _ _).bind fun _ _ => ?_
  exact walkSection_failsOnly hgap h.body _ _

end

theorem foldRuleSets_failure {excluded : Option KeyPattern} {reply : Reply}
    {ruleSets : List ResponseRules}
    (h : ∀ rules ∈ ruleSets, FailsOnly allowed (fragmentOf es mode reply rules)) (target : Tree)
    (e : MappingError)
    (he : (foldRuleSets es mode excluded reply ruleSets target).failure = some e) : allowed e := by
  induction ruleSets generalizing target with
  | nil => cases he
  | cons rules others ih =>
    obtain ⟨hrules, hothers⟩ := List.forall_mem_cons.1 h
    rw [foldRuleSets] at he
    split at he
    · next e' hfragment =>
      cases he
      exact hrules e hfragment
    · exact ih hothers _ he

theorem AllowsReply.foldInto_failure {options : MappingOptions} {reply : Reply}
    {ruleSets : List ResponseRules} (h : AllowsReply allowed ruleSets) (target : Entries)
    (e : MappingError) (he : (foldInto es options reply ruleSets target).failure = some e) :
    allowed e := by
  unfold foldInto at he
  split at he
  · have hfragments : ∀ rules ∈ ruleSets,
        FailsOnly allowed (fragmentOf es options.mode reply rules) := by
      intro rules hrules
      exact fragmentOf_failsOnly h.gap (h.ruleSets rules hrules) reply
    exact foldRuleSets_failure hfragments _ e he
  · cases he

theorem AllowsReply.failure {options : MappingOptions} {reply : Reply}
    {ruleSets : List ResponseRules} (h : AllowsReply allowed ruleSets) (target : Tree)
    (e : MappingError) (he : (mapReply es options reply ruleSets target).failure = some e) :
    allowed e := by
  cases target with
  | null => exact h.foldInto_failure [] e he
  | mapping entries => exact h.foldInto_failure entries e he
  | bool | number | text | sequence =>
    cases he
    exact h.invalidTarget _

theorem mapReply_failure {options : MappingOptions} {reply : Reply}
    {ruleSets : List ResponseRules} (h : ∀ rules ∈ ruleSets, rules.IsReadable) (target : Tree)
    (e : MappingError) (he : (mapReply es options reply ruleSets target).failure = some e) :
    ReplyFailure e := by
  have hleaf (location : String) {leaf : Tree} (hs : HasSelector leaf) :
      AllowsLeaf ReplyFailure location leaf :=
    allowsLeaf_of_hasSelector .unknownEvaluator .evaluator hs
  refine AllowsReply.failure ⟨.invalidTarget, .gap, ?_⟩ target e he
  intro rules hrules
  constructor
  · exact fun template ht l hl => hleaf _ ((h rules hrules).headers template ht l hl)
  · exact fun template ht l hl => hleaf _ ((h rules hrules).body template ht l hl)

end

/-- Rules that have been checked never fail on how they are written. A mapping of an action fails for
want of a field, in an expression, or at a base that is no URL or takes no segments; a mapping of a
reply fails at its target, in an expression, or at a gap that is too long. -/
theorem checked_rules_fail_only :
    (∀ tree rules, RequestRules.ofTree tree = .ok rules → ∀ es mode action e,
      mapRequest es mode rules action = .error e → RequestFailure es mode rules action e) ∧
    ∀ trees ruleSets, ResponseRules.ofTrees trees = .ok ruleSets → ∀ es options reply target e,
      (mapReply es options reply ruleSets target).failure = some e → ReplyFailure e := by
  constructor
  · intro tree rules h es mode action e he
    exact mapRequest_failsOnly (RequestRules.ofTree_isReadable h) e he
  · intro trees ruleSets h es options reply target e he
    exact mapReply_failure (ResponseRules.ofTrees_isReadable h) target e he

def computedBase : Tree :=
  .mapping [("url", .text "\x7b\x7bbase\x7d\x7d")]

def computedBody : Tree :=
  .mapping [("body", .text "\x7b\x7bname\x7d\x7d")]

def emptyLists : Evaluators :=
  Evaluators.none.insert (fun _ _ => .ok (some (.sequence []))) .sandbox

theorem checked_rules_fail_only_computed :
    (∃ rules, RequestRules.ofTree computedBase = .ok rules ∧
      RequestFailure emptyLists .eval rules .null (.unknownEvaluator "eval")) ∧
    ∃ ruleSets, ResponseRules.ofTrees [computedBody] = .ok ruleSets ∧
      ReplyFailure (.evaluator "name" "body" (.notMapping (.sequence []))) := by
  have hrequest : RequestRules.ofTree computedBase =
      .ok ⟨"GET", "\x7b\x7bbase\x7d\x7d", [], [], [], none⟩ := rfl
  have hresponse : ResponseRules.ofTrees [computedBody] =
      .ok [⟨none, some (.text "\x7b\x7bname\x7d\x7d"), none⟩] := rfl
  refine ⟨⟨_, hrequest, ?_⟩, _, hresponse, ?_⟩
  · exact checked_rules_fail_only.1 computedBase _ hrequest emptyLists .eval .null _ rfl
  · exact checked_rules_fail_only.2 [computedBody] _ hresponse emptyLists .standard ⟨[], .null⟩ .null
      _ rfl

end ActionBridge.Mapping
