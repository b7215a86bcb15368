import ActionBridge.Mapping.Reply

namespace ActionBridge.Mapping

section

variable {es es' : Evaluators} {mode : EvalMode}

def SameEvaluation (es es' : Evaluators) (mode : EvalMode) : Prop :=
  ∀ expression location bound,
    evaluate es mode expression location bound = evaluate es' mode expression location bound

theorem writeLeaf_congr (h : SameEvaluation es es' mode) (location : String)
    (leaf source fragment : Tree) :
    writeLeaf es mode location leaf source fragment =
      writeLeaf es' mode location leaf source fragment := by
  unfold writeLeaf
  cases selectorOf leaf with
  | error e => rfl
  | ok s =>
    cases s with
    | path p => rfl
    | expression text =>
      dsimp only [bind, Except.bind]
      rw [h]
    | literal => rfl

variable {part : Section}

mutual

theorem walk_congr (h : SameEvaluation es es' mode) (location : List String) :
    ∀ template : Tree, walk es mode part location template = walk es' mode part location template
  | .mapping rules => by rw [walk, walk, walkEntries_congr h location rules]
  | .sequence rules => by rw [walk, walk, walkItems_congr h location 0 rules]
  | .null | .bool _ | .number _ | .text _ => by
    funext source fragment
    exact writeLeaf_congr h _ _ source fragment

theorem walkEntries_congr (h : SameEvaluation es es' mode) (location : List String) :
    ∀ rules : List (String × Tree),
      walkEntries es mode part location rules = walkEntries es' mode part location rules
  | [] => rfl
  | (key, rule) :: rules => by
    funext source fragment
    simp only [walkEntries, walk_congr h _ rule, walkEntries_congr h location rules]

theorem walkItems_congr (h : SameEvaluation es es' mode) (location : List String) (index : Nat) :
    ∀ rules : List Tree,
      walkItems es mode part location index rules = walkItems es' mode part location index rules
  | [] => rfl
  | rule :: rules => by
    funext item fragment
    simp only [walkItems, walk_congr h _ rule, walkItems_congr h location (index + 1) rules]

end

theorem walkSection_congr (h : SameEvaluation es es' mode) (template : Option Tree)
    (source fragment : Tree) : walkSection es mode part template source fragment =
      walkSection es' mode part template source fragment := by
  cases template with
  | none => rfl
  | some template => rw [walkSection, walkSection, walk_congr h]

theorem fragmentOf_congr (h : SameEvaluation es es' mode) (reply : Reply) (rules : ResponseRules) :
    fragmentOf es mode reply rules = fragmentOf es' mode reply rules := by
  simp only [fragmentOf, walkSection_congr h]

theorem foldRuleSets_congr (h : SameEvaluation es es' mode) (excluded : Option KeyPattern)
    (reply : Reply) (ruleSets : List ResponseRules) (target : Tree) :
    foldRuleSets es mode excluded reply ruleSets target =
      foldRuleSets es' mode excluded reply ruleSets target := by
  induction ruleSets generalizing target with
  | nil => rfl
  | cons rules others ih => simp only [foldRuleSets, fragmentOf_congr h, ih]

variable {options : MappingOptions}

theorem mapReply_congr (h : SameEvaluation es es' options.mode) (reply : Reply)
    (ruleSets : List ResponseRules) (target : Tree) :
    mapReply es options reply ruleSets target = mapReply es' options reply ruleSets target := by
  have hinto (entries : Entries) :
      foldInto es options reply ruleSets entries = foldInto es' options reply ruleSets entries := by
    simp only [foldInto, foldRuleSets_congr h]
  cases target with
  | null => exact hinto []
  | mapping entries => exact hinto entries
  | bool | number | text | sequence => rfl

end

end ActionBridge.Mapping
