
namespace ActionBridge

theorem Except.bind_ok_iff {ε α β : Type} {first : Except ε α} {next : α → Except ε β}
    {result : β} :
    first >>= next = .ok result ↔ ∃ middle, first = .ok middle ∧ next middle = .ok result := by
  cases first <;> simp [bind, Except.bind]

theorem Except.eq_ok_of_toOption {ε α : Type} {x : Except ε α} {a : α}
    (h : x.toOption = some a) : x = .ok a := by
  cases x with
  | error e => cases h
  | ok b => exact congrArg Except.ok (Option.some.inj h)

theorem Except.map_ok_iff {ε α β : Type} {first : Except ε α} {f : α → β} {result : β} :
    first.map f = .ok result ↔ ∃ middle, first = .ok middle ∧ f middle = result := by
  cases first <;> simp [Except.map]

theorem Except.guard_ok_iff {ε β : Type} {c : Prop} [Decidable c] {e : ε}
    {next : Unit → Except ε β} {result : β} :
    (if c then throw e >>= next else next ()) = .ok result ↔ ¬c ∧ next () = .ok result := by
  by_cases h : c
  · simp [h, bind, Except.bind, throw, throwThe, MonadExceptOf.throw]
  · simp [h]

def FailsOnly {ε α : Type} (allowed : ε → Prop) (x : Except ε α) : Prop :=
  ∀ e, x = .error e → allowed e

namespace FailsOnly

variable {ε α β : Type} {allowed : ε → Prop}

theorem ok (a : α) : FailsOnly allowed (.ok a) := by
  intro e h
  cases h

theorem error {e : ε} (h : allowed e) : FailsOnly allowed (.error e : Except ε α) := by
  intro e' he
  cases he
  exact h

theorem bind {first : Except ε α} {next : α → Except ε β} (hfirst : FailsOnly allowed first)
    (hnext : ∀ a, first = .ok a → FailsOnly allowed (next a)) :
    FailsOnly allowed (first >>= next) := by
  cases first with
  | error e => exact error (hfirst e rfl)
  | ok a => exact hnext a rfl

theorem foldlM {σ : Type} {step : σ → α → Except ε σ} (h : ∀ s a, FailsOnly allowed (step s a))
    (items : List α) (s : σ) : FailsOnly allowed (items.foldlM step s) := by
  induction items generalizing s with
  | nil => exact ok s
  | cons a items ih =>
    rw [List.foldlM_cons]
    exact bind (h s a) fun s _ => ih s

end FailsOnly

def Yields {ε α : Type} (good : α → Prop) (x : Except ε α) : Prop :=
  ∀ a, x = .ok a → good a

namespace Yields

variable {ε α β : Type}

theorem ok {good : α → Prop} {a : α} (h : good a) : Yields good (.ok a : Except ε α) := by
  intro b hb
  cases hb
  exact h

theorem error {good : α → Prop} (e : ε) : Yields good (.error e : Except ε α) := by
  intro a h
  cases h

theorem bind {good : α → Prop} {good' : β → Prop} {first : Except ε α} {next : α → Except ε β}
    (hfirst : Yields good first) (hnext : ∀ a, good a → Yields good' (next a)) :
    Yields good' (first >>= next) := by
  cases first with
  | error e => exact error e
  | ok a => exact hnext a (hfirst a rfl)

theorem map {good : α → Prop} {good' : β → Prop} {x : Except ε α} (h : Yields good x) {f : α → β}
    (hf : ∀ a, good a → good' (f a)) : Yields good' (x.map f) := by
  cases x with
  | error e => exact error e
  | ok a => exact ok (hf a (h a rfl))

theorem foldlM {σ : Type} {good : σ → Prop} {step : σ → α → Except ε σ} {items : List α}
    (h : ∀ a ∈ items, ∀ s, good s → Yields good (step s a)) {s : σ} (hs : good s) :
    Yields good (items.foldlM step s) := by
  induction items generalizing s with
  | nil => exact ok hs
  | cons a items ih =>
    obtain ⟨hfirst, hothers⟩ := List.forall_mem_cons.1 h
    rw [List.foldlM_cons]
    exact (hfirst s hs).bind fun _ hs' => ih hothers hs'

end Yields

def Alike {ε ε' α : Type} (forget : ε → ε') (x y : Except ε α) : Prop :=
  x.mapError forget = y.mapError forget

namespace Alike

variable {ε ε' α β : Type} {forget : ε → ε'}

theorem refl (x : Except ε α) : Alike forget x x :=
  rfl

theorem error {e e' : ε} (h : forget e = forget e') :
    Alike forget (.error e : Except ε α) (.error e') :=
  congrArg Except.error h

theorem ends {x y : Except ε α} (h : Alike forget x y) :
    (∃ a, x = .ok a ∧ y = .ok a) ∨
      ∃ e e', x = .error e ∧ y = .error e' ∧ forget e = forget e' := by
  cases x with
  | ok a =>
    cases y with
    | ok b => exact .inl ⟨a, rfl, congrArg Except.ok (Except.ok.inj h).symm⟩
    | error e' => cases h
  | error e =>
    cases y with
    | ok b => cases h
    | error e' => exact .inr ⟨e, e', rfl, rfl, Except.error.inj h⟩

theorem bind {first first' : Except ε α} {next next' : α → Except ε β}
    (hfirst : Alike forget first first') (hnext : ∀ a, Alike forget (next a) (next' a)) :
    Alike forget (first >>= next) (first' >>= next') := by
  obtain ⟨a, rfl, rfl⟩ | ⟨e, e', rfl, rfl, he⟩ := hfirst.ends
  · exact hnext a
  · exact error he

theorem foldlM {σ : Type} {step step' : σ → α → Except ε σ} {items : List α}
    (h : ∀ a ∈ items, ∀ s, Alike forget (step s a) (step' s a)) (s : σ) :
    Alike forget (items.foldlM step s) (items.foldlM step' s) := by
  induction items generalizing s with
  | nil => exact refl (.ok s)
  | cons a items ih =>
    obtain ⟨hfirst, hothers⟩ := List.forall_mem_cons.1 h
    rw [List.foldlM_cons, List.foldlM_cons]
    exact bind (hfirst s) fun s => ih hothers s

end Alike

end ActionBridge
