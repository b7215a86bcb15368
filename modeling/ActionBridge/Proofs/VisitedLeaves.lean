import ActionBridge.Proofs.LeafPlaces
/-!
What a traversal does. It calls its visitor on the leaves of a template one after another, up to the
first call that fails, and fills the template with what the calls give.
-/

namespace ActionBridge.Tree

section

variable {σ ε α β γ : Type}

abbrev Visitor (σ ε : Type) := List String → Tree → ExceptT ε (StateM σ) (Option Tree)

/-- Calls of a visitor on leaves, one after another, up to and including the first that fails: from
a state, the leaves that are called, how the calls end, and the state that they leave behind. -/
inductive Calls (visit : Visitor σ ε) : σ → List (List String × Tree) →
    List (List String × Tree) → Except ε (List (Option Tree)) → σ → Prop where
  | done {s : σ} : Calls visit s [] [] (.ok []) s
  | fails {s s' : σ} {l : List String × Tree} {ls : List (List String × Tree)} {e : ε} :
      (visit l.1 l.2).run.run s = (.error e, s') → Calls visit s (l :: ls) [l] (.error e) s'
  | gives {s s' s'' : σ} {l : List String × Tree} {ls called : List (List String × Tree)}
      {r : Option Tree} {ends : Except ε (List (Option Tree))} :
      (visit l.1 l.2).run.run s = (.ok r, s') → Calls visit s' ls called ends s'' →
      Calls visit s (l :: ls) (l :: called) (ends.map (r :: ·)) s''

mutual

/-- A template with its leaves replaced, in order. A leaf that is replaced by nothing is left out of
its container, and every container stays. -/
inductive Refilled : Tree → List (Option Tree) → Option Tree → Prop where
  | leaf {t : Tree} {r : Option Tree} : t.isContainer = false → Refilled t [r] r
  | sequence {items filled : List Tree} {results : List (Option Tree)} :
      RefilledItems items results filled →
      Refilled (.sequence items) results (some (.sequence filled))
  | mapping {entries filled : List (String × Tree)} {results : List (Option Tree)} :
      RefilledEntries entries results filled →
      Refilled (.mapping entries) results (some (.mapping filled))

inductive RefilledItems : List Tree → List (Option Tree) → List Tree → Prop where
  | nil : RefilledItems [] [] []
  | cons {t : Tree} {ts filled : List Tree} {results others : List (Option Tree)}
      {r : Option Tree} :
      Refilled t results r → RefilledItems ts others filled →
      RefilledItems (t :: ts) (results ++ others) (r.toList ++ filled)

inductive RefilledEntries :
    List (String × Tree) → List (Option Tree) → List (String × Tree) → Prop where
  | nil : RefilledEntries [] [] []
  | cons {k : String} {t : Tree} {entries filled : List (String × Tree)}
      {results others : List (Option Tree)} {r : Option Tree} :
      Refilled t results r → RefilledEntries entries others filled →
      RefilledEntries ((k, t) :: entries) (results ++ others) ((r.map (k, ·)).toList ++ filled)

end

inductive EndsWith (makes : List (Option Tree) → α → Prop) :
    Except ε (List (Option Tree)) → Except ε α → Prop where
  | error {e : ε} : EndsWith makes (.error e) (.error e)
  | ok {results : List (Option Tree)} {a : α} :
      makes results a → EndsWith makes (.ok results) (.ok a)

variable {visit : Visitor σ ε} {s s' s'' : σ} {leaves leaves' called : List (List String × Tree)}
variable {ends : Except ε (List (Option Tree))}

/-! ### Calls -/

theorem exists_calls (visit : Visitor σ ε) (s : σ) (leaves : List (List String × Tree)) :
    ∃ called ends s', Calls visit s leaves called ends s' := by
  induction leaves generalizing s with
  | nil => exact ⟨[], .ok [], s, .done⟩
  | cons l ls ih =>
    rcases hrun : (visit l.1 l.2).run.run s with ⟨e | r, s'⟩
    · exact ⟨[l], .error e, s', .fails hrun⟩
    · obtain ⟨called, ends, s'', hcalls⟩ := ih s'
      exact ⟨l :: called, ends.map (r :: ·), s'', .gives hrun hcalls⟩

theorem Calls.split (h : Calls visit s (leaves ++ leaves') called ends s') :
    (∃ e, Calls visit s leaves called (.error e) s' ∧ ends = .error e) ∨
      ∃ results middle others ends', Calls visit s leaves leaves (.ok results) middle ∧
        Calls visit middle leaves' others ends' s' ∧ ends = ends'.map (results ++ ·) := by
  induction leaves generalizing s called ends with
  | nil =>
    refine .inr ⟨[], s, called, ends, .done, h, ?_⟩
    cases ends <;> rfl
  | cons l ls ih =>
    cases h with
    | fails hrun => exact .inl ⟨_, .fails hrun, rfl⟩
    | @gives _ middle _ _ _ _ r ends hrun hrest =>
      obtain ⟨e, hfirst, rfl⟩ | ⟨results, middle', others, ends', hfirst, hothers, rfl⟩ := ih hrest
      · exact .inl ⟨e, .gives hrun hfirst, rfl⟩
      · refine .inr ⟨r :: results, middle', others, ends', .gives hrun hfirst, hothers, ?_⟩
        cases ends' <;> rfl

/-! ### Runs that follow calls -/

def Follows (visit : Visitor σ ε) (leaves : List (List String × Tree))
    (makes : List (Option Tree) → α → Prop) (x : ExceptT ε (StateM σ) α) : Prop :=
  ∀ s called ends s', Calls visit s leaves called ends s' →
    ∃ outcome, x.run.run s = (outcome, s') ∧ EndsWith makes ends outcome

theorem Follows.pure {makes : List (Option Tree) → α → Prop} {a : α} (h : makes [] a) :
    Follows visit [] makes (pure a) := by
  intro s called ends s' hcalls
  cases hcalls
  exact ⟨.ok a, rfl, .ok h⟩

theorem Follows.call {makes : List (Option Tree) → Option Tree → Prop} {place : List String}
    {leaf : Tree} (h : ∀ r, makes [r] r) :
    Follows visit [(place, leaf)] makes (visit place leaf) := by
  intro s called ends s' hcalls
  cases hcalls with
  | fails hrun => exact ⟨_, hrun, .error⟩
  | @gives _ _ _ _ _ _ r _ hrun hrest =>
    cases hrest
    exact ⟨.ok r, hrun, .ok (h r)⟩

theorem Follows.map {makes : List (Option Tree) → α → Prop}
    {makes' : List (Option Tree) → β → Prop} {x : ExceptT ε (StateM σ) α} {f : α → β}
    (h : Follows visit leaves makes x)
    (hmakes : ∀ results a, makes results a → makes' results (f a)) :
    Follows visit leaves makes' (x >>= fun a => Pure.pure (f a)) := by
  intro s called ends s' hcalls
  obtain ⟨outcome, hrun, hends⟩ := h _ _ _ _ hcalls
  cases hends with
  | @error e =>
    refine ⟨.error e, ?_, .error⟩
    rw [ExceptT.run_bind, StateT.run_bind, hrun]
    rfl
  | @ok results a ha =>
    refine ⟨.ok (f a), ?_, .ok (hmakes results a ha)⟩
    rw [ExceptT.run_bind, StateT.run_bind, hrun]
    rfl

theorem Follows.both {makes : List (Option Tree) → α → Prop}
    {makes' : List (Option Tree) → β → Prop} {makes'' : List (Option Tree) → γ → Prop}
    {first : ExceptT ε (StateM σ) α} {second : ExceptT ε (StateM σ) β} {f : α → β → γ}
    (hfirst : Follows visit leaves makes first) (hsecond : Follows visit leaves' makes' second)
    (hmakes : ∀ results a others b, makes results a → makes' others b →
      makes'' (results ++ others) (f a b)) :
    Follows visit (leaves ++ leaves') makes''
      (first >>= fun a => second >>= fun b => Pure.pure (f a b)) := by
  intro s called ends s' hcalls
  obtain ⟨e, hfailed, rfl⟩ | ⟨results, middle, called', others, hgiven, hothers, rfl⟩ := hcalls.split
  · obtain ⟨outcome, hrun, hends⟩ := hfirst _ _ _ _ hfailed
    cases hends
    refine ⟨.error e, ?_, .error⟩
    rw [ExceptT.run_bind, StateT.run_bind, hrun]
    rfl
  · obtain ⟨outcome, hrun, hends⟩ := hfirst _ _ _ _ hgiven
    cases hends with
    | @ok _ a ha =>
      have hrest : Follows visit leaves' (fun others c => makes'' (results ++ others) c)
          (second >>= fun b => Pure.pure (f a b)) :=
        hsecond.map fun others b hb => hmakes results a others b ha hb
      obtain ⟨outcome', hrun', hends'⟩ := hrest _ _ _ _ hothers
      refine ⟨outcome', ?_, ?_⟩
      · rw [ExceptT.run_bind, StateT.run_bind, hrun]
        exact hrun'
      · cases hends' with
        | error => exact .error
        | ok hc => exact .ok hc

/-! ### Traversals -/

theorem traverseItems_follows {ts : List Tree}
    (h : ∀ t ∈ ts, ∀ location, Follows visit (t.leavesFrom location) (Refilled t)
      (t.traverse visit location)) (location : List String) (index : Nat) :
    Follows visit (itemLeavesFrom location index ts) (RefilledItems ts)
      (traverseItems visit location index ts) := by
  induction ts generalizing index with
  | nil => exact .pure .nil
  | cons t ts ih =>
    obtain ⟨hfirst, hothers⟩ := List.forall_mem_cons.1 h
    rw [itemLeavesFrom, traverseItems]
    apply (hfirst _).both (ih hothers (index + 1))
    intro results first others filled hr hfilled
    exact .cons hr hfilled

theorem traverseEntries_follows {entries : List (String × Tree)}
    (h : ∀ k t, (k, t) ∈ entries → ∀ location, Follows visit (t.leavesFrom location) (Refilled t)
      (t.traverse visit location)) (location : List String) :
    Follows visit (entryLeavesFrom location entries) (RefilledEntries entries)
      (traverseEntries visit location entries) := by
  induction entries with
  | nil => exact .pure .nil
  | cons e entries ih =>
    obtain ⟨k, t⟩ := e
    have hfirst := h k t List.mem_cons_self
    have hothers := ih fun k t ht => h k t (List.mem_cons_of_mem _ ht)
    rw [entryLeavesFrom, traverseEntries]
    apply (hfirst _).both hothers
    intro results first others filled hr hfilled
    exact .cons hr hfilled

theorem traverse_follows (visit : Visitor σ ε) (location : List String) (t : Tree) :
    Follows visit (t.leavesFrom location) (Refilled t) (t.traverse visit location) := by
  induction t using inductionOn generalizing location with
  | leaf t h =>
    rw [leavesFrom_leaf location h, traverse_leaf visit location h]
    apply Follows.call
    exact fun r => .leaf h
  | sequence items ih =>
    rw [leavesFrom, traverse]
    apply (traverseItems_follows ih location 0).map
    intro results filled hfilled
    exact .sequence hfilled
  | mapping entries ih =>
    rw [leavesFrom, traverse]
    apply (traverseEntries_follows ih location).map
    intro results filled hfilled
    exact .mapping hfilled

/-! ### Visitors that note their calls -/

def noting (visit : Visitor σ ε) : Visitor (σ × List (List String × Tree)) ε :=
  fun place leaf => .mk fun (s, called) =>
    let (r, s') := (visit place leaf).run.run s
    (r, (s', called ++ [(place, leaf)]))

theorem noting_run (visit : Visitor σ ε) (l : List String × Tree) (s : σ)
    (called : List (List String × Tree)) :
    (noting visit l.1 l.2).run.run (s, called) =
      (((visit l.1 l.2).run.run s).1, ((visit l.1 l.2).run.run s).2, called ++ [l]) :=
  rfl

theorem Calls.noting (h : Calls visit s leaves called ends s')
    (before : List (List String × Tree)) :
    Calls (noting visit) (s, before) leaves called ends (s', before ++ called) := by
  induction h generalizing before with
  | done =>
    rw [List.append_nil]
    exact .done
  | fails hrun =>
    apply Calls.fails
    rw [noting_run, hrun]
  | @gives _ s' _ l _ _ r _ hrun _ ih =>
    have hrest := ih (before ++ [l])
    rw [List.append_assoc, List.singleton_append] at hrest
    apply Calls.gives _ hrest
    rw [noting_run, hrun]

end

/-! ### Visitors without state -/

section

variable {m n : Type → Type} [Monad m] [Monad n] {lift : ∀ {α : Type}, m α → n α}
variable (hpure : ∀ {α : Type} (a : α), lift (pure a) = pure a)
variable (hbind : ∀ {α β : Type} (x : m α) (f : α → m β),
  lift (x >>= f) = lift x >>= fun a => lift (f a))
variable {visit : List String → Tree → m (Option Tree)}
include hpure hbind

theorem traverseItems_lift {ts : List Tree}
    (h : ∀ t ∈ ts, ∀ location, lift (t.traverse visit location) =
      t.traverse (fun place leaf => lift (visit place leaf)) location)
    (location : List String) (index : Nat) :
    lift (traverseItems visit location index ts) =
      traverseItems (fun place leaf => lift (visit place leaf)) location index ts := by
  induction ts generalizing index with
  | nil => exact hpure []
  | cons t ts ih =>
    obtain ⟨hfirst, hothers⟩ := List.forall_mem_cons.1 h
    simp only [traverseItems, hbind, hpure, hfirst, ih hothers]

theorem traverseEntries_lift {entries : List (String × Tree)}
    (h : ∀ k t, (k, t) ∈ entries → ∀ location, lift (t.traverse visit location) =
      t.traverse (fun place leaf => lift (visit place leaf)) location)
    (location : List String) :
    lift (traverseEntries visit location entries) =
      traverseEntries (fun place leaf => lift (visit place leaf)) location entries := by
  induction entries with
  | nil => exact hpure []
  | cons e entries ih =>
    obtain ⟨k, t⟩ := e
    have hfirst := h k t List.mem_cons_self
    have hothers := ih fun k t ht => h k t (List.mem_cons_of_mem _ ht)
    simp only [traverseEntries, hbind, hpure, hfirst, hothers]

theorem traverse_lift (location : List String) (t : Tree) :
    lift (t.traverse visit location) =
      t.traverse (fun place leaf => lift (visit place leaf)) location := by
  induction t using inductionOn generalizing location with
  | leaf t h => rw [traverse_leaf _ _ h, traverse_leaf _ _ h]
  | sequence items ih =>
    rw [traverse, traverse, hbind, traverseItems_lift hpure hbind ih]
    simp only [hpure]
  | mapping entries ih =>
    rw [traverse, traverse, hbind, traverseEntries_lift hpure hbind ih]
    simp only [hpure]

end

section

variable {σ ε : Type}

theorem liftExcept_bind {α β : Type} (x : Except ε α) (f : α → Except ε β) :
    (liftExcept (x >>= f) : ExceptT ε (StateM σ) β) = liftExcept x >>= fun a => liftExcept (f a) := by
  cases x <;> rfl

theorem tryDeepMap_lift (plain : List String → Tree → Except ε (Option Tree)) (template : Tree) :
    (liftExcept (template.tryDeepMap plain) : ExceptT ε (StateM σ) (Option Tree)) =
      template.traverse (fun place leaf => liftExcept (plain place leaf)) [] :=
  traverse_lift (fun _ => rfl) liftExcept_bind [] template

/-- A traversal calls its visitor on the leaves of the template, each with its own place and in the
order of the document, up to and including the first call that fails. It ends with what that call
fails with, or with the template filled with what the calls give. -/
theorem traverse_visits_leaves (visit : Visitor σ ε) (s : σ) {template : Tree}
    (h : template.WellFormed) :
    (∀ place leaf, (place, leaf) ∈ template.leaves ↔ template.LeafAt place leaf) ∧
      (template.leaves.Pairwise fun l l' => template.Precedes l.1 l'.1) ∧
      (template.leaves.map (·.1)).Nodup ∧
      (∃ called ends s' outcome, Calls visit s template.leaves called ends s' ∧
        ((template.traverse (noting visit) []).run.run (s, [])).2 = (s', called) ∧
        (template.traverse visit []).run.run s = (outcome, s') ∧
        EndsWith template.Refilled ends outcome) ∧
      ∀ plain : List String → Tree → Except ε (Option Tree),
        template.traverse (fun place leaf => liftExcept (plain place leaf)) [] =
          (liftExcept (template.tryDeepMap plain) : ExceptT ε (StateM σ) (Option Tree)) := by
  refine ⟨fun _ _ => mem_leaves_iff, pairwise_precedes_leaves template, nodup_places h, ?_,
    fun plain => (tryDeepMap_lift plain template).symm⟩
  obtain ⟨called, ends, s', hcalls⟩ := exists_calls visit s template.leaves
  obtain ⟨outcome, hrun, hends⟩ := traverse_follows visit [] template s called ends s' hcalls
  -- the visitor that notes its calls makes the same ones, and what it has noted is in its state
  obtain ⟨noted, hnoted, -⟩ := traverse_follows (noting visit) [] template _ _ _ _ (hcalls.noting [])
  refine ⟨called, ends, s', outcome, hcalls, ?_, hrun, hends⟩
  rw [hnoted, List.nil_append]

def counting : Visitor Nat String := fun place leaf => do
  modify (· + 1)
  match leaf with
  | .null => return none
  | .text _ => throw (".".intercalate place)
  | _ => return some (.int (← get))

theorem traverse_visits_leaves_counting :
    let stopped := mapping [("a", sequence [.null, .bool true, mapping []]), ("0", .text "x"),
      ("b", .null)]
    let filled := sequence [.null, mapping [("k", sequence [.null]), ("l", .bool true)]]
    stopped.WellFormed ∧ filled.WellFormed ∧
      (∃ ends, Calls counting 0 stopped.leaves
          [(["a", "0"], .null), (["a", "1"], .bool true), (["0"], .text "x")] ends 3 ∧
        EndsWith stopped.Refilled ends (.error "0")) ∧
      ∃ ends, Calls counting 0 filled.leaves filled.leaves ends 3 ∧
        EndsWith filled.Refilled ends
          (.ok (some (sequence [mapping [("k", sequence []), ("l", .int 3)]]))) := by
  intro stopped filled
  have hstopped : stopped.WellFormed := by decide
  have hfilled : filled.WellFormed := by decide
  refine ⟨hstopped, hfilled, ?_, ?_⟩
  · obtain ⟨-, -, -, ⟨called, ends, s', outcome, hcalls, hnoted, hrun, hends⟩, -⟩ :=
      traverse_visits_leaves counting 0 hstopped
    cases hnoted
    cases hrun
    exact ⟨ends, hcalls, hends⟩
  · obtain ⟨-, -, -, ⟨called, ends, s', outcome, hcalls, hnoted, hrun, hends⟩, -⟩ :=
      traverse_visits_leaves counting 0 hfilled
    cases hnoted
    cases hrun
    exact ⟨ends, hcalls, hends⟩

end

end ActionBridge.Tree
