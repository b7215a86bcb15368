import ActionBridge.Gateway.Dispatch
import ActionBridge.Proofs.Entries

namespace ActionBridge

def Transport.scripted (replies : Nat → RawReply) : Transport (StateM (List Request)) where
  send request := modifyGet fun sent => (.ok (replies sent.length), sent ++ [request])
  pause _ := pure ()

namespace Dispatch

def IsSettled (raw : RawReply) : Prop :=
  raw.status ≠ 429 ∧ raw.status < 500

instance (raw : RawReply) : Decidable (IsSettled raw) :=
  inferInstanceAs (Decidable (_ ∧ _))

def FirstSettled (replies : Nat → RawReply) (j : Nat) : Prop :=
  IsSettled (replies j) ∧ ∀ i < j, ¬IsSettled (replies i)

theorem retryPause?_of_settled {raw : RawReply} (h : IsSettled raw) (retry : Nat) :
    retryPause? retry raw = none := by
  rw [retryPause?, if_neg (Nat.not_le.2 h.2), if_neg h.1]

theorem retryPause?_of_not_settled {raw : RawReply} (h : ¬IsSettled raw) (retry : Nat) :
    ∃ ms, retryPause? retry raw = some ms := by
  rw [retryPause?]
  by_cases hs : 500 ≤ raw.status
  · exact ⟨_, if_pos hs⟩
  · have hr : raw.status = 429 :=
      Decidable.byContradiction fun hne => h ⟨hne, Nat.not_le.1 hs⟩
    exact ⟨retryAfterMs raw.headers, by rw [if_neg hs, if_pos hr]⟩

section

variable {replies : Nat → RawReply} {request : Request} {sent : List Request}

theorem attempt_settled (h : IsSettled (replies sent.length)) (retry retries : Nat) :
    (attempt (.scripted replies) request retry retries).run sent =
      (.ok (replyOf (replies sent.length)), sent ++ [request]) := by
  cases retries with
  | zero => rfl
  | succ retries =>
    rw [attempt]
    simp only [Transport.scripted, StateT.run_bind, StateT.run_modifyGet, pure_bind,
      retryPause?_of_settled h]
    rfl

theorem attempt_again (h : ¬IsSettled (replies sent.length)) (retry retries : Nat) :
    (attempt (.scripted replies) request retry (retries + 1)).run sent =
      (attempt (.scripted replies) request (retry + 1) retries).run (sent ++ [request]) := by
  obtain ⟨ms, hms⟩ := retryPause?_of_not_settled h retry
  rw [attempt]
  simp only [Transport.scripted, StateT.run_bind, StateT.run_modifyGet, pure_bind, hms]

theorem attempt_run {k retries : Nat} (hk : k ≤ retries)
    (hagain : ∀ i < k, ¬IsSettled (replies (sent.length + i)))
    (hend : k = retries ∨ IsSettled (replies (sent.length + k))) (retry : Nat) :
    (attempt (.scripted replies) request retry retries).run sent =
      (.ok (replyOf (replies (sent.length + k))), sent ++ List.replicate (k + 1) request) := by
  induction k generalizing sent retries retry with
  | zero =>
    rcases hend with rfl | hsettled
    · rfl
    · exact attempt_settled hsettled retry retries
  | succ k ih =>
    obtain ⟨retries, rfl⟩ : ∃ n, retries = n + 1 := ⟨retries - 1, by omega⟩
    have hlength (i : Nat) : (sent ++ [request]).length + i = sent.length + (i + 1) := by
      rw [List.length_append, List.length_singleton]
      omega
    have hrest : (attempt (.scripted replies) request (retry + 1) retries).run (sent ++ [request]) =
        (.ok (replyOf (replies ((sent ++ [request]).length + k))),
          (sent ++ [request]) ++ List.replicate (k + 1) request) :=
      ih (by omega) (fun i hi => by rw [hlength]; exact hagain (i + 1) (by omega))
        (by rw [hlength]; exact hend.imp_left (by omega)) (retry + 1)
    rw [attempt_again (hagain 0 (by omega)), hrest, hlength, List.append_assoc,
      List.singleton_append, ← List.replicate_succ]

end

structure EndsAt (replies : Nat → RawReply) (request : Request) (k : Nat)
    (outcome : Except GatewayError Reply × List Request) : Prop where
  sent : outcome.2 = List.replicate (k + 1) request
  answer : outcome.1 = .ok (replyOf (replies k))
  status : (replyOf (replies k)).headers.lookup Reply.statusKey = some (.int (replies k).status)

theorem send_endsAt {replies : Nat → RawReply} {request : Request} {maxRetries k : Nat}
    (hm : Wire.isToken request.method = true) (hk : k ≤ retriesFor maxRetries request.method)
    (hagain : ∀ i < k, ¬IsSettled (replies i))
    (hend : k = retriesFor maxRetries request.method ∨ IsSettled (replies k)) :
    EndsAt replies request k ((send (.scripted replies) maxRetries request).run []) := by
  have hrun : (send (.scripted replies) maxRetries request).run [] =
      (.ok (replyOf (replies k)), List.replicate (k + 1) request) := by
    have h : (attempt (.scripted replies) request 1 (retriesFor maxRetries request.method)).run [] =
        (.ok (replyOf (replies (0 + k))), [] ++ List.replicate (k + 1) request) :=
      attempt_run hk (by simpa using hagain) (by simpa using hend) 1
    rw [send, if_pos hm, h, Nat.zero_add, List.nil_append]
  exact ⟨by rw [hrun], by rw [hrun], Entries.lookup_put_self _ _ _⟩

/-- With complete replies only, a request with a valid method is sent once more than it takes to
come to the first settled reply, or than its retries if that is less; a request that must not be
repeated has no retries and is sent once. -/
theorem send_follows_replies (replies : Nat → RawReply) (maxRetries : Nat) {request : Request}
    (hm : Wire.isToken request.method = true) :
    let outcome := (send (.scripted replies) maxRetries request).run []
    let most := if isIdempotent request.method then maxRetries else 0
    (∀ j, FirstSettled replies j → EndsAt replies request (min j most) outcome) ∧
      ((∀ j, ¬IsSettled (replies j)) → EndsAt replies request most outcome) ∧
      (isIdempotent request.method = false → outcome.2 = [request]) := by
  intro outcome most
  refine ⟨fun j hj => ?_, fun h => ?_, fun hi => ?_⟩
  · refine send_endsAt hm (Nat.min_le_right j most) (fun i hi => hj.2 i (by omega)) ?_
    by_cases hle : j ≤ most
    · right
      rw [Nat.min_eq_left hle]
      exact hj.1
    · exact .inl (Nat.min_eq_right (by omega))
  · exact send_endsAt hm (Nat.le_refl most) (fun i _ => h i) (.inl rfl)
  · have hmost : retriesFor maxRetries request.method = 0 := by
      rw [retriesFor, hi]
      rfl
    exact (send_endsAt hm (Nat.zero_le _) (by simp) (.inl hmost.symm)).sent

theorem send_follows_replies_mixed :
    let replies (n : Nat) : RawReply := ⟨[503, 429, 500].getD n 404, [], "x"⟩
    let put : Request := ⟨"PUT", "http://h/", .empty, none⟩
    let post : Request := ⟨"POST", "http://h/", .empty, none⟩
    FirstSettled replies 3 ∧
      EndsAt replies put 2 ((send (.scripted replies) 2 put).run []) ∧
      EndsAt replies put 3 ((send (.scripted replies) 5 put).run []) ∧
      ((send (.scripted replies) 5 post).run []).2 = [post] := by
  intro replies put post
  have hfirst : FirstSettled replies 3 := ⟨by decide, by decide⟩
  have hput : Wire.isToken put.method = true := by decide
  have hpost : Wire.isToken post.method = true := by decide
  exact ⟨hfirst, (send_follows_replies replies 2 hput).1 3 hfirst,
    (send_follows_replies replies 5 hput).1 3 hfirst,
    (send_follows_replies replies 5 hpost).2.2 (by decide)⟩

end Dispatch

end ActionBridge
