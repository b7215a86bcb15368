import ActionBridge.Proofs.Documents
import ActionBridge.Proofs.EvaluatorResults
import ActionBridge.Proofs.RuleSetComposition
import ActionBridge.Proofs.WalkedValues

namespace ActionBridge

namespace Expression

theorem tokens_whole : tokens "$" = .ok [.selector none] := by
  have h : lexeme 0 '$' [] = .ok (.selector none, []) := by
    have hb : selectorBody? [] = some ([], []) := by rw [selectorBody?]
    simp only [lexeme, hb]
    rfl
  exact tokensFrom_of_lexeme (by decide) h

theorem evaluate_whole (host : Host) (bound : Tree) :
    evaluate .sandboxed host "$" bound = .ok (some bound) := by
  have hp : Expr.parse (some 16) "$" = .ok (.selector none) := by
    rw [Expr.parse, tokens_whole]
    rfl
  simp only [evaluate, Limits.sandboxed, hp]
  rfl

end Expression

namespace Mapping

open ActionBridge.Tree

/-! ### Fragments -/

section

variable {es : Evaluators} {mode : EvalMode}

theorem lookupIn_wellFormed {part : Section} {key : String} {source : Entries} {child : Tree}
    (h : (mapping source).WellFormed) (hc : lookupIn part key source = some child) :
    child.WellFormed := by
  obtain ⟨e, he, rfl⟩ := exists_mem_of_lookupIn hc
  exact (wellFormed_mapping_iff.1 h).2 e he

theorem evaluate_wellFormed (hes : es.WellFormed) (expression location : String) {bound : Tree}
    (hb : bound.WellFormed) :
    Yields IsWellFormedResult (evaluate es mode expression location bound) := by
  unfold evaluate
  split
  · exact .error _
  · next evaluator hevaluator =>
    have hyields := hes mode evaluator hevaluator expression bound hb
    cases hv : evaluator expression bound with
    | error cause => exact .error _
    | ok value => exact .ok (hyields value hv)

theorem absorbProduced_wellFormed (expression location : String) {produced : Option Tree}
    (hp : IsWellFormedResult produced) {fragment : Tree} (hf : fragment.WellFormed) :
    Yields WellFormed (absorbProduced expression location produced fragment) := by
  unfold absorbProduced
  split
  · exact .ok hf
  · exact .ok hf
  · exact .ok (merge_wellFormed (hp _ rfl) hf)
  · exact .error _

theorem writeLeaf_wellFormed (hes : es.WellFormed) (location : String) (leaf : Tree)
    {source : Tree} (hs : source.WellFormed) {fragment : Tree} (hf : fragment.WellFormed) :
    Yields WellFormed (writeLeaf es mode location leaf source fragment) := by
  unfold writeLeaf
  have hselector : Yields (fun _ => True) (selectorOf leaf) := fun _ _ => trivial
  refine hselector.bind fun s _ => ?_
  cases s with
  | path p =>
    dsimp only
    split
    · exact .ok (set_wellFormed hs p hf)
    · exact .error _
  | expression text =>
    refine (evaluate_wellFormed hes text location hs).bind fun produced hp => ?_
    exact absorbProduced_wellFormed text location hp hf
  | literal => exact .ok hf

variable {part : Section}

mutual

theorem walk_wellFormed (hes : es.WellFormed) (location : List String) : ∀ (template : Tree)
    {source : Tree}, source.WellFormed → ∀ fragment, fragment.WellFormed →
      Yields WellFormed (walk es mode part location template source fragment)
  | .mapping rules, _, hs, _, hf => by
    have hmappings := forall_mappings (fun _ => wellFormed_sequence_iff.1) hs
    rw [walk_mapping]
    exact .foldlM (fun _ he => walkEntries_wellFormed hes location rules (hmappings _ he)) hf
  | .sequence rules, _, hs, _, hf => by
    have hitems := forall_items (fun _ => wellFormed_sequence_iff.1) hs
    rw [walk_sequence]
    exact .foldlM (fun _ hi => walkItems_wellFormed hes location 0 rules (hitems _ hi)) hf
  | .null, _, hs, _, hf | .bool _, _, hs, _, hf | .number _, _, hs, _, hf | .text _, _, hs, _, hf =>
    writeLeaf_wellFormed hes _ _ hs hf

theorem walkEntries_wellFormed (hes : es.WellFormed) (location : List String) :
    ∀ (rules : List (String × Tree)) {source : Entries}, (mapping source).WellFormed →
      ∀ fragment, fragment.WellFormed →
        Yields WellFormed (walkEntries es mode part location rules source fragment)
  | [], _, _, _, hf => .ok hf
  | (key, rule) :: rules, source, hs, fragment, hf => by
    rw [walkEntries]
    cases hc : lookupIn part key source with
    | none => exact walkEntries_wellFormed hes location rules hs fragment hf
    | some child =>
      refine (walk_wellFormed hes _ rule (lookupIn_wellFormed hs hc) fragment hf).bind ?_
      exact walkEntries_wellFormed hes location rules hs

theorem walkItems_wellFormed (hes : es.WellFormed) (location : List String) (index : Nat) :
    ∀ (rules : List Tree) {item : Tree}, item.WellFormed → ∀ fragment, fragment.WellFormed →
      Yields WellFormed (walkItems es mode part location index rules item fragment)
  | [], _, _, _, hf => .ok hf
  | rule :: rules, _, hi, fragment, hf => by
    rw [walkItems]
    refine (walk_wellFormed hes _ rule hi fragment hf).bind ?_
    exact walkItems_wellFormed hes location (index + 1) rules hi

end

theorem walkSection_wellFormed (hes : es.WellFormed) (template : Option Tree) {source : Tree}
    (hs : source.WellFormed) {fragment : Tree} (hf : fragment.WellFormed) :
    Yields WellFormed (walkSection es mode part template source fragment) := by
  cases template with
  | none => exact .ok hf
  | some template => exact walk_wellFormed hes [] template hs fragment hf

theorem fragmentOf_wellFormed (hes : es.WellFormed) {reply : Reply} (hr : reply.WellFormed)
    (rules : ResponseRules) : Yields WellFormed (fragmentOf es mode reply rules) := by
  rw [fragmentOf]
  refine (walkSection_wellFormed hes rules.headers hr.headers wellFormed_empty).bind ?_
  exact fun _ hf => walkSection_wellFormed hes rules.body hr.body hf

end

/-! ### Replays -/

section

variable (es : Evaluators) (mode : EvalMode) (excluded : Option KeyPattern) (reply : Reply)

structure HasAbsorbed (target : Tree) (rules : ResponseRules) : Prop where
  fragment : ∃ fragment, fragmentOf es mode reply rules = .ok fragment ∧
    Holds (isExcluded excluded) fragment target
  defaults : ∀ defaults, rules.defaults = some defaults →
    Holds (isExcluded excluded) (.mapping defaults) target

variable {es mode excluded reply}

theorem HasAbsorbed.completed {rules : ResponseRules} {target target' : Tree}
    (hc : Completed (isExcluded excluded) target target')
    (h : HasAbsorbed es mode excluded reply target rules) :
    HasAbsorbed es mode excluded reply target' rules := by
  obtain ⟨fragment, hfragment, hholds⟩ := h.fragment
  constructor
  · exact ⟨fragment, hfragment, hholds.completed hc⟩
  · intro defaults hdefaults
    exact (h.defaults defaults hdefaults).completed hc

theorem absorb_hasAbsorbed {rules : ResponseRules} (hrules : rules.WellFormed) {fragment : Tree}
    (hfragment : fragmentOf es mode reply rules = .ok fragment) (hf : fragment.WellFormed)
    (target : Tree) :
    HasAbsorbed es mode excluded reply (absorb excluded rules fragment target) rules := by
  have hmerged : Holds (isExcluded excluded) fragment
      (fragment.merge (isExcluded excluded) target) := merge_holds hf target
  unfold absorb
  cases hd : rules.defaults with
  | none =>
    refine ⟨⟨fragment, hfragment, hmerged⟩, ?_⟩
    intro defaults hdefaults
    rw [hd] at hdefaults
    cases hdefaults
  | some defaults =>
    refine ⟨⟨fragment, hfragment, hmerged.completed (merge_completed _ _)⟩, ?_⟩
    intro defaults' hdefaults
    rw [hd] at hdefaults
    cases hdefaults
    exact merge_holds (hrules defaults hd) _

theorem absorb_of_hasAbsorbed {rules : ResponseRules} {fragment target : Tree}
    (hfragment : fragmentOf es mode reply rules = .ok fragment)
    (h : HasAbsorbed es mode excluded reply target rules) :
    absorb excluded rules fragment target = target := by
  obtain ⟨fragment', hfragment', hholds⟩ := h.fragment
  cases hfragment.symm.trans hfragment'
  unfold absorb
  rw [hholds.merge_eq]
  cases hd : rules.defaults with
  | none => rfl
  | some defaults => exact (h.defaults defaults hd).merge_eq

theorem foldRuleSets_hasAbsorbed (hes : es.WellFormed) (hreply : reply.WellFormed)
    {ruleSets : List ResponseRules} (hrules : ∀ rules ∈ ruleSets, rules.WellFormed) {target : Tree}
    (h : (foldRuleSets es mode excluded reply ruleSets target).failure = none) :
    ∀ rules ∈ ruleSets, HasAbsorbed es mode excluded reply
      (foldRuleSets es mode excluded reply ruleSets target).target rules := by
  induction ruleSets generalizing target with
  | nil => simp
  | cons rules others ih =>
    obtain ⟨hfirst, hothers⟩ := List.forall_mem_cons.1 hrules
    rw [foldRuleSets] at h ⊢
    cases hfragment : fragmentOf es mode reply rules with
    | error e =>
      rw [hfragment] at h
      cases h
    | ok fragment =>
      rw [hfragment] at h
      refine List.forall_mem_cons.2 ⟨?_, ih hothers h⟩
      -- what the first rule set has brought stays held while the others complete the target
      have hf : fragment.WellFormed := fragmentOf_wellFormed hes hreply rules fragment hfragment
      exact (absorb_hasAbsorbed hfirst hfragment hf target).completed
        (foldRuleSets_completed es mode excluded reply others _)

theorem foldRuleSets_of_hasAbsorbed {ruleSets : List ResponseRules} {target : Tree}
    (h : ∀ rules ∈ ruleSets, HasAbsorbed es mode excluded reply target rules) :
    foldRuleSets es mode excluded reply ruleSets target = ⟨target, none⟩ := by
  induction ruleSets with
  | nil => rfl
  | cons rules others ih =>
    obtain ⟨hfirst, hothers⟩ := List.forall_mem_cons.1 h
    obtain ⟨fragment, hfragment, -⟩ := hfirst.fragment
    rw [foldRuleSets, hfragment]
    simp only [absorb_of_hasAbsorbed hfragment hfirst]
    exact ih hothers

end

section

variable {es : Evaluators} {options : MappingOptions} {reply : Reply}
  {ruleSets : List ResponseRules}

theorem foldInto_again (hes : es.WellFormed) (hreply : reply.WellFormed)
    (hrules : ∀ rules ∈ ruleSets, rules.WellFormed) {entries : Entries}
    (h : (foldInto es options reply ruleSets entries).failure = none) :
    mapReply es options reply ruleSets (foldInto es options reply ruleSets entries).target =
      ⟨(foldInto es options reply ruleSets entries).target, none⟩ := by
  by_cases hs : reply.isSuccess = true
  · rw [foldInto_of_success hs] at h ⊢
    have hc := foldRuleSets_completed es options.mode options.excluded reply ruleSets
      (.mapping (stampId options.actionId entries))
    rw [mapReply_of_completed es options reply hs ruleSets hc]
    exact foldRuleSets_of_hasAbsorbed (foldRuleSets_hasAbsorbed hes hreply hrules h)
  · have hs : reply.isSuccess = false := Bool.eq_false_iff.2 hs
    simp only [foldInto_of_failure hs, mapReply, stampId_markFailed, markFailed_markFailed]

theorem mapReply_again (hes : es.WellFormed) (hreply : reply.WellFormed)
    (hrules : ∀ rules ∈ ruleSets, rules.WellFormed) (target : Tree)
    (h : (mapReply es options reply ruleSets target).failure = none) :
    mapReply es options reply ruleSets (mapReply es options reply ruleSets target).target =
      ⟨(mapReply es options reply ruleSets target).target, none⟩ := by
  cases target with
  | null => exact foldInto_again hes hreply hrules h
  | mapping entries => exact foldInto_again hes hreply hrules h
  | bool | number | text | sequence => cases h

end

def wholeBodyRules : Tree :=
  .mapping [("body", .text "\x7b\x7b$\x7d\x7d"),
    ("defaults", .mapping [("name", .text "unnamed"), ("note", .null)])]

def wholeBody : ResponseRules :=
  ⟨none, some (.text "\x7b\x7b$\x7d\x7d"), some [("name", .text "unnamed"), ("note", .null)]⟩

theorem fragmentOf_wholeBody (host : Expression.Host) (headers body : Entries) :
    fragmentOf (.builtin host) .sandbox ⟨headers, .mapping body⟩ wholeBody =
      .ok ((Tree.mapping body).merge (fun _ => false) (.mapping [])) := by
  have hselector : selectorOf (.text "\x7b\x7b$\x7d\x7d") = .ok (.expression "$") := rfl
  have hvalue (location : String) : evaluate (.builtin host) .sandbox "$" location (.mapping body) =
      .ok (some (.mapping body)) := by
    have h := Expression.evaluate_whole host (.mapping body)
    simp only [evaluate, Evaluators.builtin, Evaluators.get?, Evaluators.builtinFor, h]
    rfl
  have hwritten (location : String) : writeLeaf (.builtin host) .sandbox location
      (.text "\x7b\x7b$\x7d\x7d") (.mapping body) (.mapping []) =
      .ok ((Tree.mapping body).merge (fun _ => false) (.mapping [])) := by
    rw [writeLeaf, Except.bind_ok_iff]
    refine ⟨_, hselector, ?_⟩
    rw [Except.bind_ok_iff]
    exact ⟨_, hvalue location, rfl⟩
  exact hwritten "body"

def draft : Tree :=
  .mapping [("items", .sequence [.mapping [], .mapping [("id", .int 1)]]), ("name", .null)]

def created : RawReply :=
  ⟨201, [("Content-Type", [106, 115, 111, 110])],
    "\x7b\"@context\":\"c\",\"items\":\x7b\"id\":7\x7d,\"name\":\"a\"\x7d"⟩

def createdBody : Entries :=
  [("@context", .text "c"), ("items", .mapping [("id", .int 7)]), ("name", .text "a")]

theorem replyOf_created : Dispatch.replyOf created =
    ⟨(Dispatch.headerEntries created.headers).put Reply.statusKey (.int 201),
      .mapping createdBody⟩ := by
  have hbody : Dispatch.bodyTree (Dispatch.declaresJson created.headers) created.body =
      .mapping createdBody := rfl
  rw [Dispatch.replyOf, hbody]
  rfl

theorem isSuccess_replyOf_created : (Dispatch.replyOf created).isSuccess = true := by
  have hstatus : (Dispatch.replyOf created).status? = some 201 := by
    rw [replyOf_created, Reply.status?, Entries.lookup_put_self]
    rfl
  rw [Reply.isSuccess, hstatus]
  rfl

def listed : Tree :=
  .mapping [("items", .sequence [.mapping [("id", .int 7)], .mapping [("id", .int 1)]]),
    ("name", .text "a"), ("@id", .text "urn:1"), ("note", .null)]

theorem mapReply_again_wholeBody :
    mapReply (.builtin ⟨fun _ => none, ""⟩) ⟨.sandbox, some .context, some "urn:1"⟩
        (Dispatch.replyOf created) [wholeBody] draft = ⟨listed, none⟩ ∧
      mapReply (.builtin ⟨fun _ => none, ""⟩) ⟨.sandbox, some .context, some "urn:1"⟩
        (Dispatch.replyOf created) [wholeBody] listed = ⟨listed, none⟩ := by
  have h : mapReply (.builtin ⟨fun _ => none, ""⟩) ⟨.sandbox, some .context, some "urn:1"⟩
      (Dispatch.replyOf created) [wholeBody] draft = ⟨listed, none⟩ := by
    rw [draft, mapReply, foldInto_of_success isSuccess_replyOf_created, replyOf_created]
    simp only [foldRuleSets, fragmentOf_wholeBody]
    rfl
  have hreply : (Dispatch.replyOf created).WellFormed := Dispatch.replyOf_wellFormed created
  have hchecked : ResponseRules.ofTrees [wholeBodyRules] = .ok [wholeBody] := rfl
  have hrules : ∀ rules ∈ [wholeBody], rules.WellFormed :=
    ResponseRules.ofTrees_wellFormed (by decide) hchecked
  have hagain := mapReply_again (Evaluators.builtin_wellFormed ⟨fun _ => none, ""⟩) hreply hrules
    draft (congrArg Folded.failure h)
  rw [h] at hagain
  exact ⟨h, hagain⟩

end Mapping

end ActionBridge
