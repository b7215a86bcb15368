import ActionBridge.Proofs.ReplyCompletion

namespace ActionBridge

namespace Tree

structure Frame (within : List String → Prop) (t t' : Tree) : Prop where
  scalar : ∀ q u, within q → t.follow? q = some u → u.shape = .scalar → t'.follow? q = some u
  sequence : ∀ q items, within q → t.follow? q = some (.sequence items) →
    ∃ items', t'.follow? q = some (.sequence items') ∧ items'.length = items.length

variable {within : List String → Prop}

theorem Frame.refl (t : Tree) : Frame within t t :=
  ⟨fun _ _ _ hu _ => hu, fun _ items _ hu => ⟨items, hu, rfl⟩⟩

theorem Frame.trans {a b c : Tree} (h : Frame within a b) (h' : Frame within b c) :
    Frame within a c := by
  constructor
  · intro q u hq hu hs
    exact h'.scalar q u hq (h.scalar q u hq hu hs) hs
  · intro q items hq hu
    obtain ⟨items', hu', hl⟩ := h.sequence q items hq hu
    obtain ⟨items'', hu'', hl'⟩ := h'.sequence q items' hq hu'
    exact ⟨items'', hu'', hl'.trans hl⟩

theorem Completed.frame {excluded : String → Bool} {t t' : Tree} (h : Completed excluded t t') :
    Frame within t t' :=
  ⟨fun _ _ _ hu hs => h.follow?_scalar hu hs, fun _ _ _ hu => h.follow?_sequence hu⟩

theorem Frame.of_null (t' : Tree) : Frame within null t' := by
  constructor
  · intro q u _ hu hs
    cases q with
    | nil => cases hu; cases hs
    | cons segment q => cases hu
  · intro q items _ hu
    cases q <;> cases hu

theorem follow?_put_of_ne {key : String} {q : List String} (hne : q ≠ []) (hq : q.head? ≠ some key)
    (value : Tree) (entries : Entries) :
    (Tree.mapping (entries.put key value)).follow? q = (Tree.mapping entries).follow? q := by
  cases q with
  | nil => exact absurd rfl hne
  | cons segment q =>
    have hs : segment ≠ key := fun h => hq (congrArg some h)
    simp only [follow?, step?, Entries.lookup_put_ne hs]

theorem frame_put (key : String) (value : Tree) (entries : Entries)
    (hw : ∀ q, within q → q.head? ≠ some key) :
    Frame within (.mapping entries) (.mapping (entries.put key value)) := by
  constructor
  · intro q u hq hu hs
    by_cases hne : q = []
    · subst hne
      cases hu
      cases hs
    · rw [follow?_put_of_ne hne (hw q hq), hu]
  · intro q items hq hu
    by_cases hne : q = []
    · subst hne
      cases hu
    · rw [follow?_put_of_ne hne (hw q hq)]
      exact ⟨items, hu, rfl⟩

end Tree

namespace Mapping

open ActionBridge.Tree

def IsStamped (options : MappingOptions) (t : Tree) (q : List String) (k : String) : Prop :=
  q = [] ∧ k = "@id" ∧ options.actionId ≠ none ∧ shapeOf? (t.lookup? "@id") = .absent

theorem stampId_lookup? (options : MappingOptions) (entries : Entries) {q : List String}
    {k : String} (h : ¬IsStamped options (.mapping entries) q k) :
    ((Tree.mapping (stampId options.actionId entries)).follow? q).bind (lookup? k) =
      ((Tree.mapping entries).follow? q).bind (lookup? k) := by
  unfold stampId
  split
  · rfl
  · next id hid =>
    split
    · next hv =>
      cases q with
      | nil =>
        have hk : k ≠ "@id" := by
          rintro rfl
          exact h ⟨rfl, rfl, by simp [hid], hv⟩
        exact Entries.lookup_put_ne hk _ entries
      | cons segment q =>
        simp only [follow?, step?]
        by_cases hs : segment = "@id"
        · -- nothing lies behind the identifier, and nothing lay behind the vacant slot
          subst hs
          rw [Entries.lookup_put_self, lookup?_of_absent (follow?_of_absent hv q)]
          cases q <;> rfl
        · rw [Entries.lookup_put_ne hs]
    · rfl

section

variable (es : Evaluators) (options : MappingOptions) (reply : Reply)
  (ruleSets : List ResponseRules)

theorem foldInto_frame (entries : Entries) :
    Frame (fun q => q.head? = some "actionStatus" → reply.isSuccess = true) (.mapping entries)
      (foldInto es options reply ruleSets entries).target := by
  refine (stampId_completed options.actionId entries).frame.trans ?_
  by_cases h : reply.isSuccess = true
  · rw [foldInto_of_success h]
    exact (foldRuleSets_completed es options.mode options.excluded reply ruleSets _).frame
  · rw [foldInto_of_failure (Bool.eq_false_iff.2 h)]
    refine Frame.trans (frame_put "actionStatus" failedStatus _ ?_) (markFailed_completed _ _).frame
    intro q hq hhead
    exact h (hq hhead)

theorem foldInto_excluded (h : reply.isSuccess = true) (entries : Entries) {q : List String}
    {k : String} (hk : isExcluded options.excluded k = true)
    (hs : ¬IsStamped options (.mapping entries) q k) :
    ((foldInto es options reply ruleSets entries).target.follow? q).bind (lookup? k) =
      ((Tree.mapping entries).follow? q).bind (lookup? k) := by
  rw [foldInto_of_success h, ← stampId_lookup? options entries hs]
  exact (foldRuleSets_completed es options.mode options.excluded reply ruleSets _).lookup?_follow? hk q

/-- Whatever becomes of a reply, its target keeps its scalars and the lengths of its sequences, but
for the status that a failed action gets. A success neither changes nor adds anything under an
excluded key, but for the identifier of the action. -/
theorem mapReply_frame (t : Tree) :
    Frame (fun q => q.head? = some "actionStatus" → reply.isSuccess = true) t
        (mapReply es options reply ruleSets t).target ∧
      (reply.isSuccess = true → ∀ q k, isExcluded options.excluded k = true →
        ¬IsStamped options t q k →
        ((mapReply es options reply ruleSets t).target.follow? q).bind (lookup? k) =
          (t.follow? q).bind (lookup? k)) := by
  cases t with
  | mapping entries =>
    refine ⟨foldInto_frame es options reply ruleSets entries, ?_⟩
    intro h q k hk hs
    exact foldInto_excluded es options reply ruleSets h entries hk hs
  | null =>
    refine ⟨.of_null _, ?_⟩
    intro h q k hk hs
    rw [mapReply, foldInto_excluded es options reply ruleSets h [] hk hs]
    cases q <;> rfl
  | bool | number | text | sequence =>
    exact ⟨.refl _, fun _ _ _ _ _ => rfl⟩

end

def contextRules : ResponseRules :=
  ⟨none, none, some [("@context", .text "c"), ("name", .text "d")]⟩

theorem mapReply_frame_context :
    (mapReply .none .standard ⟨[], .null⟩ [contextRules]
        (.mapping [("@context", .text "a"), ("name", .text "b")])).target.follow? ["name"] =
      some (.text "b") ∧
    ((mapReply .none .standard ⟨[], .null⟩ [contextRules]
        (.mapping [("@context", .text "a"), ("name", .text "b")])).target.follow? []).bind
        (lookup? "@context") = some (.text "a") := by
  obtain ⟨hframe, hexcluded⟩ := mapReply_frame .none .standard ⟨[], .null⟩ [contextRules]
    (.mapping [("@context", .text "a"), ("name", .text "b")])
  constructor
  · exact hframe.scalar ["name"] (.text "b") (fun _ => rfl) rfl rfl
  · refine hexcluded rfl [] "@context" (by decide) ?_
    intro hs
    exact absurd hs.2.1 (by decide)

end Mapping

end ActionBridge
