import ActionBridge.Mapping.Reply
import ActionBridge.Proofs.VisitedLeaves
/-!
Locations on one shared stack. A traversal and a walk push a key before they go down and pop one
when they come back, from a failure too. Every visit leaves the stack as it was, and so the location
may as well be handed down.
-/

namespace ActionBridge

/-- A computation on a stack of keys, the innermost of them last, and on a state beside it. Both
outlast a failure. -/
abbrev Stacked (σ ε α : Type) := ExceptT ε (StateM (List String × σ)) α

namespace Stacked

variable {σ ε α β : Type} {x : Stacked σ ε α} {y : α → Stacked σ ε β}

def below (key : String) (x : Stacked σ ε α) : Stacked σ ε α :=
  .mk fun (location, s) =>
    let (outcome, left, s') := x.run.run (location ++ [key], s)
    -- the key is popped before the outcome is looked at
    (outcome, left.dropLast, s')

def reading (f : List String → ExceptT ε (StateM σ) α) : Stacked σ ε α :=
  .mk fun (location, s) =>
    let (outcome, s') := (f location).run.run s
    (outcome, location, s')

def handed (x : Stacked σ ε α) (location : List String) : ExceptT ε (StateM σ) α :=
  .mk fun s =>
    let (outcome, _, s') := x.run.run (location, s)
    (outcome, s')

def Restores (x : Stacked σ ε α) : Prop :=
  ∀ location s, (x.run.run (location, s)).2.1 = location

theorem handed_run (x : Stacked σ ε α) (location : List String) (s : σ) :
    (x.handed location).run.run s =
      ((x.run.run (location, s)).1, (x.run.run (location, s)).2.2) :=
  rfl

theorem restores_pure (a : α) : Restores (pure a : Stacked σ ε α) :=
  fun _ _ => rfl

theorem restores_reading (f : List String → ExceptT ε (StateM σ) α) : (reading f).Restores :=
  fun _ _ => rfl

theorem Restores.below (h : x.Restores) (key : String) : (below key x).Restores := by
  intro location s
  change (x.run.run (location ++ [key], s)).2.1.dropLast = location
  rw [h, List.dropLast_concat]

theorem Restores.bind (hx : x.Restores) (hy : ∀ a, (y a).Restores) : (x >>= y).Restores := by
  intro location s
  have hfirst := hx location s
  rw [ExceptT.run_bind, StateT.run_bind]
  rcases hrun : x.run.run (location, s) with ⟨e | a, left, s'⟩
  · rw [hrun] at hfirst
    exact hfirst
  · rw [hrun] at hfirst
    obtain rfl : left = location := hfirst
    exact hy a left s'

theorem handed_bind (hx : x.Restores) (location : List String) :
    (x >>= y).handed location = x.handed location >>= fun a => (y a).handed location := by
  funext s
  have hfirst := hx location s
  change ((x >>= y).handed location).run.run s =
    (x.handed location >>= fun a => (y a).handed location).run.run s
  rw [handed_run, ExceptT.run_bind, ExceptT.run_bind, StateT.run_bind, StateT.run_bind, handed_run]
  rcases hrun : x.run.run (location, s) with ⟨e | a, left, s'⟩
  · rfl
  · rw [hrun] at hfirst
    obtain rfl : left = location := hfirst
    rfl

theorem handed_below (key : String) (x : Stacked σ ε α) (location : List String) :
    (below key x).handed location = x.handed (location ++ [key]) :=
  rfl

/-- A computation leaves the stack as it was, and does with the state what `f` does that has the
location handed down. -/
structure HandsDown (x : Stacked σ ε α) (f : List String → ExceptT ε (StateM σ) α) : Prop where
  restores : x.Restores
  handed : ∀ location, x.handed location = f location

namespace HandsDown

variable {f : List String → ExceptT ε (StateM σ) α} {g : α → List String → ExceptT ε (StateM σ) β}

theorem pure (a : α) : HandsDown (Pure.pure a : Stacked σ ε α) fun _ => Pure.pure a :=
  ⟨restores_pure a, fun _ => rfl⟩

theorem reading (f : List String → ExceptT ε (StateM σ) α) : HandsDown (reading f) f :=
  ⟨restores_reading f, fun _ => rfl⟩

theorem below (h : HandsDown x f) (key : String) :
    HandsDown (below key x) fun location => f (location ++ [key]) := by
  refine ⟨h.restores.below key, fun location => ?_⟩
  rw [handed_below, h.handed]

theorem bind (hx : HandsDown x f) (hy : ∀ a, HandsDown (y a) (g a)) :
    HandsDown (x >>= y) fun location => f location >>= fun a => g a location := by
  refine ⟨hx.restores.bind fun a => (hy a).restores, fun location => ?_⟩
  rw [handed_bind hx.restores, hx.handed]
  congr 1
  funext a
  exact (hy a).handed location

end HandsDown

/-! ### Computations that only change the state -/

def settle (x : ExceptT ε (StateM σ) Unit) (s : σ) : Except ε σ :=
  (x.run.run s).1.map fun _ => (x.run.run s).2

theorem settle_bind (x y : ExceptT ε (StateM σ) Unit) (s : σ) :
    settle (x >>= fun _ => y) s = settle x s >>= settle y := by
  rw [settle, settle, ExceptT.run_bind, StateT.run_bind]
  rcases x.run.run s with ⟨e | a, s'⟩ <;> rfl

def attempt (f : σ → Except ε σ) : ExceptT ε (StateM σ) Unit :=
  .mk fun s =>
    match f s with
    | .ok s' => (.ok (), s')
    | .error e => (.error e, s)

theorem settle_attempt (f : σ → Except ε σ) (s : σ) : settle (attempt f) s = f s := by
  rw [settle, attempt, ExceptT.run_mk, StateT.run]
  cases f s <;> rfl

structure Agrees (x : Stacked σ ε Unit) (f : List String → σ → Except ε σ) : Prop where
  restores : x.Restores
  settles : ∀ location s, settle (x.handed location) s = f location s

theorem Agrees.pure : Agrees (Pure.pure () : Stacked σ ε Unit) fun _ s => .ok s :=
  ⟨restores_pure (), fun _ _ => rfl⟩

theorem Agrees.andThen {x y : Stacked σ ε Unit} {f g : List String → σ → Except ε σ}
    (hx : Agrees x f) (hy : Agrees y g) :
    Agrees (x >>= fun _ => y) fun location s => f location s >>= g location where
  restores := hx.restores.bind fun _ => hy.restores
  settles := by
    intro location s
    rw [handed_bind hx.restores, settle_bind, hx.settles]
    congr 1
    funext s'
    exact hy.settles location s'

theorem Agrees.below {x : Stacked σ ε Unit} {f : List String → σ → Except ε σ} (h : Agrees x f)
    (key : String) : Agrees (below key x) fun location => f (location ++ [key]) where
  restores := h.restores.below key
  settles := fun location => h.settles (location ++ [key])

end Stacked

namespace Tree

open Stacked

variable {σ ε : Type}

mutual

def traverseShared (visit : Visitor σ ε) : Tree → Stacked σ ε (Option Tree)
  | sequence items => do
    return some (sequence (← traverseItemsShared visit 0 items))
  | mapping entries => do
    return some (mapping (← traverseEntriesShared visit entries))
  | leaf => reading fun location => visit location leaf

def traverseItemsShared (visit : Visitor σ ε) (index : Nat) :
    List Tree → Stacked σ ε (List Tree)
  | [] => pure []
  | t :: ts => do
    let first ← below (toString index) (traverseShared visit t)
    let others ← traverseItemsShared visit (index + 1) ts
    return first.toList ++ others

def traverseEntriesShared (visit : Visitor σ ε) :
    List (String × Tree) → Stacked σ ε (List (String × Tree))
  | [] => pure []
  | (k, t) :: entries => do
    let first ← below k (traverseShared visit t)
    let others ← traverseEntriesShared visit entries
    return (first.map (k, ·)).toList ++ others

end

mutual

theorem traverseShared_handsDown (visit : Visitor σ ε) : ∀ t : Tree,
    HandsDown (traverseShared visit t) fun location => t.traverse visit location
  | sequence items => by
    apply (traverseItemsShared_handsDown visit 0 items).bind
    exact fun filled => .pure (some (sequence filled))
  | mapping entries => by
    apply (traverseEntriesShared_handsDown visit entries).bind
    exact fun filled => .pure (some (mapping filled))
  | null => .reading fun location => visit location null
  | bool b => .reading fun location => visit location (bool b)
  | number n => .reading fun location => visit location (number n)
  | text s => .reading fun location => visit location (text s)

theorem traverseItemsShared_handsDown (visit : Visitor σ ε) (index : Nat) : ∀ ts : List Tree,
    HandsDown (traverseItemsShared visit index ts) fun location =>
      traverseItems visit location index ts
  | [] => .pure []
  | t :: ts => by
    apply ((traverseShared_handsDown visit t).below (toString index)).bind
    intro first
    apply (traverseItemsShared_handsDown visit (index + 1) ts).bind
    exact fun others => .pure (first.toList ++ others)

theorem traverseEntriesShared_handsDown (visit : Visitor σ ε) : ∀ entries : List (String × Tree),
    HandsDown (traverseEntriesShared visit entries) fun location =>
      traverseEntries visit location entries
  | [] => .pure []
  | (k, t) :: entries => by
    apply ((traverseShared_handsDown visit t).below k).bind
    intro first
    apply (traverseEntriesShared_handsDown visit entries).bind
    exact fun others => .pure ((first.map (k, ·)).toList ++ others)

end

/-- A traversal on a shared stack ends as the traversal that hands its location down ends, from any
stack and state, and it leaves the stack as it was. -/
theorem traverseShared_run (visit : Visitor σ ε) (t : Tree) (location : List String) (s : σ) :
    (traverseShared visit t).run.run (location, s) =
      (((t.traverse visit location).run.run s).1, location,
        ((t.traverse visit location).run.run s).2) := by
  obtain ⟨hrestores, hhanded⟩ := traverseShared_handsDown visit t
  rw [← hhanded, handed_run]
  exact Prod.ext rfl (Prod.ext (hrestores location s) rfl)

end Tree

namespace Mapping

open Stacked

section

variable {σ ε : Type}

mutual

def alongMappings (step : Entries → Stacked σ ε Unit) : Tree → Stacked σ ε Unit
  | .mapping entries => step entries
  | .sequence items => alongMappingsOf step items
  | _ => pure ()

def alongMappingsOf (step : Entries → Stacked σ ε Unit) : List Tree → Stacked σ ε Unit
  | [] => pure ()
  | t :: ts => do
    alongMappings step t
    alongMappingsOf step ts

end

def alongItems (step : Tree → Stacked σ ε Unit) : Tree → Stacked σ ε Unit
  | .sequence items => items.forM step
  | _ => pure ()

mutual

theorem alongMappings_agrees {step : Entries → Stacked σ ε Unit}
    {f : List String → Entries → σ → Except ε σ}
    (h : ∀ entries, Agrees (step entries) fun location => f location entries) :
    ∀ t : Tree, Agrees (alongMappings step t) fun location => eachMapping (f location) t
  | .mapping entries => h entries
  | .sequence items => alongMappingsOf_agrees h items
  | .null | .bool _ | .number _ | .text _ => .pure

theorem alongMappingsOf_agrees {step : Entries → Stacked σ ε Unit}
    {f : List String → Entries → σ → Except ε σ}
    (h : ∀ entries, Agrees (step entries) fun location => f location entries) :
    ∀ ts : List Tree, Agrees (alongMappingsOf step ts) fun location => eachMappingOf (f location) ts
  | [] => .pure
  | t :: ts => (alongMappings_agrees h t).andThen (alongMappingsOf_agrees h ts)

end

theorem alongItems_agrees {step : Tree → Stacked σ ε Unit}
    {f : List String → Tree → σ → Except ε σ}
    (h : ∀ item, Agrees (step item) fun location => f location item) (source : Tree) :
    Agrees (alongItems step source) fun location => eachItem (f location) source := by
  cases source with
  | null | bool | number | text | mapping => exact .pure
  | sequence items =>
    induction items with
    | nil => exact .pure
    | cons item items ih => exact (h item).andThen ih

end

variable (es : Evaluators) (mode : EvalMode) (part : Section)

def writeLeafKept (location : String) (leaf source : Tree) :
    ExceptT MappingError (StateM Tree) Unit :=
  match selectorOf leaf with
  | .error e => throw e
  | .ok (.path p) => .mk fun fragment =>
    let written := fragment.set p source
    match written.failure with
    | none => (.ok (), written.content)
    | some e => (.error (.path e), written.content)
  | .ok (.expression text) => attempt fun fragment => do
    let produced ← evaluate es mode text location source
    absorbProduced text location produced fragment
  | .ok .literal => pure ()

mutual

def walkShared : Tree → Tree → Stacked Tree MappingError Unit
  | .mapping rules => alongMappings (walkEntriesShared rules)
  | .sequence rules => alongItems (walkItemsShared 0 rules)
  | leaf => fun source => reading fun location =>
    writeLeafKept es mode (Rule.locationText part.toText location) leaf source

def walkEntriesShared : List (String × Tree) → Entries → Stacked Tree MappingError Unit
  | [], _ => pure ()
  | (key, rule) :: rules, source => do
    match lookupIn part key source with
    | none => pure ()
    | some child => below key (walkShared rule child)
    walkEntriesShared rules source

def walkItemsShared (index : Nat) : List Tree → Tree → Stacked Tree MappingError Unit
  | [], _ => pure ()
  | rule :: rules, item => do
    below (toString index) (walkShared rule item)
    walkItemsShared (index + 1) rules item

end

theorem settle_writeLeafKept (location : String) (leaf source fragment : Tree) :
    settle (writeLeafKept es mode location leaf source) fragment =
      writeLeaf es mode location leaf source fragment := by
  rw [writeLeafKept, writeLeaf]
  cases selectorOf leaf with
  | error e => rfl
  | ok selector =>
    cases selector with
    | literal => rfl
    | expression text => exact settle_attempt _ fragment
    | path p =>
      simp only [settle, ExceptT.run_mk, StateT.run, Bind.bind, Except.bind]
      cases (fragment.set p source).failure <;> rfl

theorem leaf_agrees (leaf source : Tree) :
    Agrees (reading fun location =>
        writeLeafKept es mode (Rule.locationText part.toText location) leaf source)
      fun location => writeLeaf es mode (Rule.locationText part.toText location) leaf source :=
  ⟨restores_reading _, fun _ _ => settle_writeLeafKept es mode _ leaf source _⟩

mutual

theorem walkShared_agrees : ∀ template source : Tree,
    Agrees (walkShared es mode part template source) fun location =>
      walk es mode part location template source
  | .mapping rules, source => by
    apply alongMappings_agrees
    exact walkEntriesShared_agrees rules
  | .sequence rules, source => by
    apply alongItems_agrees
    exact walkItemsShared_agrees 0 rules
  | .null, source => leaf_agrees es mode part .null source
  | .bool b, source => leaf_agrees es mode part (.bool b) source
  | .number n, source => leaf_agrees es mode part (.number n) source
  | .text s, source => leaf_agrees es mode part (.text s) source

theorem walkEntriesShared_agrees : ∀ (rules : List (String × Tree)) (source : Entries),
    Agrees (walkEntriesShared es mode part rules source) fun location =>
      walkEntries es mode part location rules source
  | [], source => .pure
  | (key, rule) :: rules, source => by
    have hothers := walkEntriesShared_agrees rules source
    rw [walkEntriesShared]
    simp only [walkEntries]
    cases lookupIn part key source with
    | none => exact Agrees.pure.andThen hothers
    | some child => exact ((walkShared_agrees rule child).below key).andThen hothers

theorem walkItemsShared_agrees (index : Nat) : ∀ (rules : List Tree) (item : Tree),
    Agrees (walkItemsShared es mode part index rules item) fun location =>
      walkItems es mode part location index rules item
  | [], item => .pure
  | rule :: rules, item => by
    have hfirst := (walkShared_agrees rule item).below (toString index)
    exact hfirst.andThen (walkItemsShared_agrees (index + 1) rules item)

end

/-- A walk on a shared stack leaves the stack as it was, and it leaves the fragment that the walk
that hands its location down gives, or it fails as that one does. -/
theorem walkShared_run (template source : Tree) (location : List String) (fragment : Tree) :
    ∃ outcome left,
      (walkShared es mode part template source).run.run (location, fragment) =
        (outcome, location, left) ∧
      outcome.map (fun _ => left) = walk es mode part location template source fragment := by
  obtain ⟨hrestores, hsettles⟩ := walkShared_agrees es mode part template source
  refine ⟨_, _, Prod.ext rfl (Prod.ext (hrestores location fragment) rfl), ?_⟩
  exact hsettles location fragment

end Mapping

end ActionBridge
