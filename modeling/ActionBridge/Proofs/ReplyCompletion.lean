import ActionBridge.Mapping.Reply
import ActionBridge.Proofs.MergeCompletion

namespace ActionBridge.Mapping

open ActionBridge.Tree

def stampOf : Option String → Entries
  | none => []
  | some id => [("@id", .text id)]

theorem stampId_eq_mergeEntries (id : Option String) (target : Entries) :
    stampId id target = mergeEntries (fun _ => false) (stampOf id) target := by
  cases id with
  | none => rfl
  | some id =>
    simp only [stampId, stampOf, mergeEntries, strip, Bool.false_eq_true, if_false]
    split
    · rfl
    · exact (Entries.modifyKey_of_id (fun _ => rfl) "@id" target).symm

theorem markFailed_eq_mergeEntries (status : Nat) (target : Entries) :
    markFailed status target = mergeEntries (fun _ => false) [("error", errorOf status)]
      (target.put "actionStatus" failedStatus) := by
  simp only [markFailed, mergeEntries, Bool.false_eq_true, if_false]
  rfl

theorem stampId_completed (id : Option String) (target : Entries) :
    Completed (fun _ => false) (.mapping target) (.mapping (stampId id target)) := by
  rw [stampId_eq_mergeEntries]
  exact mergeEntries_completed _ target

theorem markFailed_completed (status : Nat) (target : Entries) :
    Completed (fun _ => false) (.mapping (target.put "actionStatus" failedStatus))
      (.mapping (markFailed status target)) := by
  rw [markFailed_eq_mergeEntries]
  exact mergeEntries_completed _ _

theorem lookup_markFailed (status : Nat) (target : Entries) :
    (markFailed status target).lookup "actionStatus" = some failedStatus := by
  have hput : (Tree.mapping (target.put "actionStatus" failedStatus)).follow? ["actionStatus"] =
      some failedStatus := by
    simp only [follow?, step?, Entries.lookup_put_self, Option.bind_some]
  -- the error is merged after the status is put, and no merge changes a scalar
  have hmarked := (markFailed_completed status target).follow?_scalar hput rfl
  simpa only [follow?, step?, Option.bind_some, Option.bind_fun_some] using hmarked

theorem absorb_completed (excluded : Option KeyPattern) (rules : ResponseRules)
    (fragment target : Tree) :
    Completed (isExcluded excluded) target (absorb excluded rules fragment target) := by
  unfold absorb
  have hmerged : Completed (isExcluded excluded) target
      (fragment.merge (isExcluded excluded) target) := merge_completed fragment target
  cases rules.defaults with
  | none => exact hmerged
  | some defaults => exact hmerged.trans (merge_completed _ _)

theorem foldRuleSets_completed (es : Evaluators) (mode : EvalMode) (excluded : Option KeyPattern)
    (reply : Reply) (ruleSets : List ResponseRules) (target : Tree) :
    Completed (isExcluded excluded) target
      (foldRuleSets es mode excluded reply ruleSets target).target := by
  induction ruleSets generalizing target with
  | nil => exact .same target
  | cons rules others ih =>
    rw [foldRuleSets]
    split
    · exact .same target
    · next fragment _ => exact (absorb_completed excluded rules fragment target).trans (ih _)

section

variable {es : Evaluators} {options : MappingOptions} {reply : Reply}

theorem foldInto_of_success (h : reply.isSuccess = true) (ruleSets : List ResponseRules)
    (target : Entries) :
    foldInto es options reply ruleSets target = foldRuleSets es options.mode options.excluded
      reply ruleSets (.mapping (stampId options.actionId target)) := by
  simp only [foldInto, h, if_true]

theorem foldInto_of_failure (h : reply.isSuccess = false) (ruleSets : List ResponseRules)
    (target : Entries) :
    foldInto es options reply ruleSets target =
      ⟨.mapping (markFailed (reply.status?.getD 0) (stampId options.actionId target)), none⟩ := by
  simp only [foldInto, h, Bool.false_eq_true, if_false]

end

end ActionBridge.Mapping
