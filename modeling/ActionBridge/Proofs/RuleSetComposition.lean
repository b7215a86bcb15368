import ActionBridge.Proofs.MergeAbsorption
import ActionBridge.Proofs.ReplyCompletion

namespace ActionBridge

namespace Tree

theorem Completed.present {excluded : String → Bool} {t t' : Tree} {k : String}
    (h : Completed excluded t t') (hk : shapeOf? (t.lookup? k) ≠ .absent) :
    shapeOf? (t'.lookup? k) ≠ .absent := by
  rcases h.lookup_cases k with ⟨u, u', hu, hu', hs⟩ | ⟨hu, -⟩
  · rw [hu] at hk
    rw [hu']
    cases hs with
    | same => exact hk
    | filled => exact absurd rfl hk
    | deeper _ hc =>
      intro ha
      exact hk (hc.shape_eq.symm.trans ha)
  · rw [hu] at hk
    exact absurd rfl hk

end Tree

namespace Mapping

open ActionBridge.Tree

def Folded.andThen (f : Folded) (next : Tree → Folded) : Folded :=
  match f.failure with
  | none => next f.target
  | some _ => f

theorem Folded.andThen_congr {f : Folded} {next next' : Tree → Folded}
    (h : next f.target = next' f.target) : f.andThen next = f.andThen next' := by
  unfold andThen
  rw [h]

section

variable {id : Option String}

theorem stampId_of_present {target : Entries}
    (h : id ≠ none → shapeOf? (target.lookup "@id") ≠ .absent) : stampId id target = target := by
  cases id with
  | none => rfl
  | some id => exact if_neg (h (by simp))

theorem present_stampId (target : Entries) (hid : id ≠ none) :
    shapeOf? ((stampId id target).lookup "@id") ≠ .absent := by
  cases id with
  | none => exact absurd rfl hid
  | some id =>
    rw [stampId]
    split
    · rw [Entries.lookup_put_self]
      simp [shapeOf?, shape]
    · next h => exact h

theorem stampId_of_completed {excluded : String → Bool} {target result : Entries}
    (h : Completed excluded (.mapping (stampId id target)) (.mapping result)) :
    stampId id result = result :=
  stampId_of_present fun hid => h.present (present_stampId target hid)

theorem stampId_markFailed (status : Nat) (target : Entries) :
    stampId id (markFailed status (stampId id target)) = markFailed status (stampId id target) := by
  apply stampId_of_present
  intro hid
  apply (markFailed_completed status (stampId id target)).present
  simp only [lookup?]
  rw [Entries.lookup_put_ne (by simp)]
  exact present_stampId target hid

end

theorem errorOf_wellFormed (status : Nat) : EntriesWellFormed [("error", errorOf status)] := by
  simp [EntriesWellFormed, errorOf, WellFormed]

theorem markFailed_markFailed (status : Nat) (target : Entries) :
    markFailed status (markFailed status target) = markFailed status target := by
  rw [markFailed_eq_mergeEntries status (markFailed status target),
    Entries.put_of_lookup (lookup_markFailed status target), markFailed_eq_mergeEntries]
  exact (mergeEntries_holds (errorOf_wellFormed status) _).mergeEntries_eq

section

variable (es : Evaluators) (mode : EvalMode) (excluded : Option KeyPattern) (reply : Reply)

theorem foldRuleSets_append (a b : List ResponseRules) (target : Tree) :
    foldRuleSets es mode excluded reply (a ++ b) target =
      (foldRuleSets es mode excluded reply a target).andThen
        (foldRuleSets es mode excluded reply b) := by
  induction a generalizing target with
  | nil => rfl
  | cons rules others ih =>
    rw [List.cons_append, foldRuleSets, foldRuleSets]
    cases fragmentOf es mode reply rules with
    | error e => rfl
    | ok fragment => exact ih _

theorem foldRuleSets_of_failure {rules : ResponseRules} {target : Tree}
    (h : (foldRuleSets es mode excluded reply [rules] target).failure ≠ none) :
    (foldRuleSets es mode excluded reply [rules] target).target = target := by
  rw [foldRuleSets] at h ⊢
  cases hf : fragmentOf es mode reply rules with
  | error e => rfl
  | ok fragment =>
    rw [hf] at h
    exact absurd rfl h

end

section

variable (es : Evaluators) (options : MappingOptions) (reply : Reply)

theorem mapReply_of_completed (h : reply.isSuccess = true) (ruleSets : List ResponseRules)
    {excluded : String → Bool} {entries : Entries} {target : Tree}
    (hc : Completed excluded (.mapping (stampId options.actionId entries)) target) :
    mapReply es options reply ruleSets target =
      foldRuleSets es options.mode options.excluded reply ruleSets target := by
  obtain ⟨result, rfl⟩ := hc.exists_mapping
  rw [mapReply, foldInto_of_success h, stampId_of_completed hc]

theorem foldInto_append (a b : List ResponseRules) (entries : Entries) :
    foldInto es options reply (a ++ b) entries =
      (foldInto es options reply a entries).andThen (mapReply es options reply b) := by
  by_cases h : reply.isSuccess = true
  · rw [foldInto_of_success h, foldInto_of_success h, foldRuleSets_append]
    apply Folded.andThen_congr
    have hc := foldRuleSets_completed es options.mode options.excluded reply a
      (.mapping (stampId options.actionId entries))
    exact (mapReply_of_completed es options reply h b hc).symm
  · have h : reply.isSuccess = false := Bool.eq_false_iff.2 h
    rw [foldInto_of_failure h, foldInto_of_failure h]
    simp only [Folded.andThen, mapReply, foldInto_of_failure h, stampId_markFailed,
      markFailed_markFailed]

theorem foldInto_of_rejected {rules : ResponseRules} {entries : Entries}
    (h : (foldInto es options reply [rules] entries).failure ≠ none) :
    (foldInto es options reply [rules] entries).target =
      (foldInto es options reply [] entries).target := by
  by_cases hs : reply.isSuccess = true
  · rw [foldInto_of_success hs] at h ⊢
    rw [foldInto_of_success hs, foldRuleSets_of_failure _ _ _ _ h]
    rfl
  · rw [foldInto_of_failure (Bool.eq_false_iff.2 hs)] at h
    exact absurd rfl h

/-- Rule sets can be run in parts, one part on the target that the part before it has left. A rule
set that fails leaves the target that no rule set at all would leave. -/
theorem mapReply_composes (a b : List ResponseRules) (t : Tree) :
    mapReply es options reply (a ++ b) t =
        (mapReply es options reply a t).andThen (mapReply es options reply b) ∧
      ∀ rules, (mapReply es options reply [rules] t).failure ≠ none →
        (mapReply es options reply [rules] t).target =
          (mapReply es options reply [] t).target := by
  cases t with
  | null =>
    exact ⟨foldInto_append es options reply a b [], fun _ => foldInto_of_rejected es options reply⟩
  | mapping entries =>
    refine ⟨foldInto_append es options reply a b entries, fun _ => ?_⟩
    exact foldInto_of_rejected es options reply
  | bool | number | text | sequence => exact ⟨rfl, fun _ _ => rfl⟩

end

def unreadable : ResponseRules :=
  ⟨none, some (.text "\x7b\x7bname\x7d\x7d"), some [("name", .text "unknown")]⟩

def titled : ResponseRules :=
  ⟨none, none, some [("title", .text "t")]⟩

theorem mapReply_composes_unreadable :
    (mapReply .none .standard ⟨[], .null⟩ [unreadable] .null).failure ≠ none ∧
      (mapReply .none .standard ⟨[], .null⟩ [unreadable] .null).target =
        (mapReply .none .standard ⟨[], .null⟩ [] .null).target ∧
      (mapReply .none .standard ⟨[], .null⟩ [unreadable] .null).target = .mapping [] ∧
      (mapReply .none .standard ⟨[], .null⟩ ([titled] ++ [unreadable]) .null).target =
        .mapping [("title", .text "t")] := by
  have h : (mapReply .none .standard ⟨[], .null⟩ [unreadable] .null).failure ≠ none := by
    rw [ne_eq, ← Option.not_isSome_iff_eq_none, Decidable.not_not]
    decide
  have hkept := (mapReply_composes .none .standard ⟨[], .null⟩ [] [] .null).2 unreadable h
  refine ⟨h, hkept, hkept.trans rfl, ?_⟩
  rw [(mapReply_composes .none .standard ⟨[], .null⟩ [titled] [unreadable] .null).1]
  rfl

end Mapping

end ActionBridge
