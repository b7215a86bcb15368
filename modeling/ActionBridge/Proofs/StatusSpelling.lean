import ActionBridge.Proofs.FailureEnvelope

namespace ActionBridge

namespace Number

theorem naturalUpTo?_eq_some_iff {bound n : Nat} {cs : List Char} :
    naturalUpTo? bound cs = some n ↔ ∃ ds, (cs = ds ∨ cs = '+' :: ds) ∧ ds ≠ [] ∧
      (∀ c ∈ ds, c.isDigit = true) ∧ ofDigits ds = n ∧ n ≤ bound := by
  have hread (ds : List Char) :
      (if ds.isEmpty || !ds.all Char.isDigit || bound < ofDigits ds then none
        else some (ofDigits ds)) = some n ↔
        ds ≠ [] ∧ (∀ c ∈ ds, c.isDigit = true) ∧ ofDigits ds = n ∧ n ≤ bound := by
    have haccepted : (ds.isEmpty || !ds.all Char.isDigit || bound < ofDigits ds) = false ↔
        ds ≠ [] ∧ (∀ c ∈ ds, c.isDigit = true) ∧ ofDigits ds ≤ bound := by
      simp [and_assoc]
    by_cases ha : ds ≠ [] ∧ (∀ c ∈ ds, c.isDigit = true) ∧ ofDigits ds ≤ bound
    · rw [haccepted.2 ha, if_neg Bool.false_ne_true, Option.some.injEq]
      constructor
      · rintro rfl
        exact ⟨ha.1, ha.2.1, rfl, ha.2.2⟩
      · exact fun h => h.2.2.1
    · rw [eq_true_of_ne_false (mt haccepted.1 ha), if_pos rfl]
      constructor
      · intro h
        cases h
      · rintro ⟨hne, hd, rfl, hb⟩
        exact absurd ⟨hne, hd, hb⟩ ha
  unfold naturalUpTo?
  split
  · next ds =>
    rw [hread]
    constructor
    · intro h
      exact ⟨ds, .inr rfl, h⟩
    · rintro ⟨ds', rfl | hs, hne, hd, hn⟩
      · exact absurd (hd '+' List.mem_cons_self) (by decide)
      · obtain rfl := (List.cons.inj hs).2
        exact ⟨hne, hd, hn⟩
  · next hplus =>
    rw [hread]
    constructor
    · intro h
      exact ⟨cs, .inl rfl, h⟩
    · rintro ⟨ds, rfl | rfl, hd⟩
      · exact hd
      · exact absurd rfl (hplus ds)

end Number

namespace Reply

/-- The spellings of a status: an integer, or digits as text, perhaps with a plus sign before them
and blanks around them. -/
inductive Spells (n : Nat) : Tree → Prop where
  | number : Spells n (.number (.int n))
  | text {s : String} {ds : List Char} : Text.trim s.toList = ds ∨ Text.trim s.toList = '+' :: ds →
      ds ≠ [] → (∀ c ∈ ds, c.isDigit = true) → Number.ofDigits ds = n → Spells n (.text s)

theorem statusOf?_eq_some_iff {t : Tree} {n : Nat} :
    statusOf? t = some n ↔ Spells n t ∧ n ≤ maxStatus := by
  cases t with
  | null | bool | sequence | mapping =>
    constructor
    · intro h
      cases h
    · rintro ⟨⟨⟩, -⟩
  | number m =>
    cases m with
    | float x =>
      constructor
      · intro h
        cases h
      · rintro ⟨⟨⟩, -⟩
    | int z =>
      rw [statusOf?, Number.toUnsigned?, Option.filter_eq_some_iff, decide_eq_true_iff]
      constructor
      · rintro ⟨hz, hb⟩
        cases z with
        | ofNat m =>
          obtain rfl := Option.some.inj hz
          exact ⟨.number, hb⟩
        | negSucc m => cases hz
      · rintro ⟨⟨⟩, hb⟩
        exact ⟨rfl, hb⟩
  | text s =>
    rw [statusOf?, Number.naturalUpTo?_eq_some_iff]
    constructor
    · rintro ⟨ds, hs, hne, hd, hn, hb⟩
      exact ⟨.text hs hne hd hn, hb⟩
    · rintro ⟨h, hb⟩
      cases h with
      | text hs hne hd hn => exact ⟨_, hs, hne, hd, hn, hb⟩

theorem isSuccess_eq_false_iff {reply : Reply} :
    reply.isSuccess = false ↔ ∃ n, reply.status? = some n ∧ ¬(200 ≤ n ∧ n ≤ 299) := by
  unfold isSuccess
  cases reply.status? with
  | none => simp
  | some n => simp

end Reply

namespace Mapping

open Reply

/-- A reply fails exactly when its status is spelled as a natural number of 16 bits outside of the
range of success, and then its target is marked as failed, whatever the rules and the body are. With
any other status recorded, or with none, it is a success. -/
theorem failure_follows_spelling (reply : Reply) :
    (reply.isSuccess = false ↔ ∃ t n, reply.headers.lookup statusKey = some t ∧ Spells n t ∧
        n ≤ maxStatus ∧ ¬(200 ≤ n ∧ n ≤ 299)) ∧
      ∀ t n, reply.headers.lookup statusKey = some t → Spells n t → n ≤ maxStatus →
        ¬(200 ≤ n ∧ n ≤ 299) → ∀ es options ruleSets target result,
          result = .mapping target ∨ result = .null ∧ target = [] →
            mapReply es options reply ruleSets result =
              ⟨.mapping (markFailed n (stampId options.actionId target)), none⟩ := by
  have hstatus : ∀ n, reply.status? = some n ↔
      ∃ t, reply.headers.lookup statusKey = some t ∧ Spells n t ∧ n ≤ maxStatus := by
    intro n
    simp only [status?, Option.bind_eq_some_iff, statusOf?_eq_some_iff]
  constructor
  · rw [isSuccess_eq_false_iff]
    constructor
    · rintro ⟨n, hn, hr⟩
      obtain ⟨t, ht, hs, hb⟩ := (hstatus n).1 hn
      exact ⟨t, n, ht, hs, hb, hr⟩
    · rintro ⟨t, n, ht, hs, hb, hr⟩
      exact ⟨n, (hstatus n).2 ⟨t, ht, hs, hb⟩, hr⟩
  · intro t n ht hs hb hr es options ruleSets target result hresult
    have hn : reply.status? = some n := (hstatus n).2 ⟨t, ht, hs, hb⟩
    have hfailed : reply.isSuccess = false := isSuccess_eq_false_iff.2 ⟨n, hn, hr⟩
    have hinto : foldInto es options reply ruleSets target =
        ⟨.mapping (markFailed n (stampId options.actionId target)), none⟩ := by
      rw [foldInto_of_failure hfailed, hn]
      rfl
    rcases hresult with rfl | ⟨rfl, rfl⟩
    · exact hinto
    · exact hinto

theorem failure_follows_spelling_signed :
    let reply : Reply := ⟨[(":status", .text " +404 ")], .mapping [("id", .int 1)]⟩
    reply.isSuccess = false ∧
      mapReply .none .standard reply [⟨none, some (.mapping [("id", .text "$.id")]), none⟩]
          (.mapping [("name", .text "n")]) =
        ⟨.mapping [("name", .text "n"), ("actionStatus", failedStatus),
          ("error", .mapping [("@type", .text "Thing"), ("name", .text "HTTP 404")])], none⟩ := by
  intro reply
  have htrim : Text.trim " +404 ".toList = '+' :: ['4', '0', '4'] := by decide
  have hdigits : ∀ c ∈ ['4', '0', '4'], c.isDigit = true := List.all_eq_true.1 rfl
  have hspells : Spells 404 (.text " +404 ") :=
    .text (.inr htrim) (List.cons_ne_nil _ _) hdigits rfl
  obtain ⟨hfails, hmarks⟩ := failure_follows_spelling reply
  constructor
  · exact hfails.2 ⟨_, 404, rfl, hspells, by decide, by decide⟩
  · exact hmarks _ 404 rfl hspells (by decide) (by decide) _ _ _ _ _ (.inl rfl)

theorem isSuccess_of_unreadable_status :
    (∀ t ∈ [Tree.int 65536, .int (-1), .number (.float (.ofInt 404)), .text "65536", .text "-404"],
      Reply.isSuccess ⟨[(":status", t)], .null⟩ = true) ∧
    mapReply .none .standard ⟨[(":status", .int 65536)], .null⟩
      [⟨none, none, some [("r", .int 1)]⟩] .null = ⟨.mapping [("r", .int 1)], none⟩ :=
  ⟨by decide, rfl⟩

end Mapping

end ActionBridge
