import ActionBridge.Gateway.Invocation
import ActionBridge.Proofs.Failures
import ActionBridge.Proofs.ReplyCompletion

namespace ActionBridge

namespace Mapping

theorem mapReply_mapping (es : Evaluators) (options : MappingOptions) (reply : Reply)
    (ruleSets : List ResponseRules) (entries : Entries) :
    ∃ result, (mapReply es options reply ruleSets (.mapping entries)).target = .mapping result ∧
      (reply.isSuccess = false → result.lookup "actionStatus" = some failedStatus) := by
  rw [mapReply]
  by_cases h : reply.isSuccess = true
  · rw [foldInto_of_success h]
    obtain ⟨result, hr⟩ := (foldRuleSets_completed es options.mode options.excluded reply ruleSets
      (.mapping (stampId options.actionId entries))).exists_mapping
    exact ⟨result, hr, fun hf => absurd h (Bool.eq_false_iff.1 hf)⟩
  · rw [foldInto_of_failure (Bool.eq_false_iff.2 h)]
    exact ⟨_, rfl, fun _ => lookup_markFailed _ _⟩

end Mapping

structure Trace where
  sent : List Request
  readings : Nat

namespace Gateway

def recordSend (reply : Request → Except GatewayError Reply) (request : Request) :
    StateM Trace (Except GatewayError Reply) :=
  modifyGet fun trace => (reply request, { trace with sent := trace.sent ++ [request] })

def recordClock (time : Nat → String) : StateM Trace String :=
  modifyGet fun trace => (time trace.readings, { trace with readings := trace.readings + 1 })

def observe (g : Gateway) (reply : Request → Except GatewayError Reply) (time : Nat → String)
    (name : String) (action : Tree) : Except GatewayError Tree × List Request :=
  let (outcome, trace) := (g.invoke (recordSend reply) (recordClock time) name action).run ⟨[], 0⟩
  (outcome, trace.sent)

def isStampKey (reply : Reply) (key : String) : Bool :=
  key = "startTime" || key = "endTime" || (key = "actionStatus" && reply.isSuccess)

/-- The result of a run is what its reply maps to, in all entries but those that the run puts in:
its times, and the status of a success. A reply that is no success leaves the status of a failure. -/
structure Stamped (reply : Reply) (started ended : String) (mapped result : Entries) : Prop where
  others : (result.filter fun e => !isStampKey reply e.1) =
    mapped.filter fun e => !isStampKey reply e.1
  startTime : result.lookup "startTime" = some (.text started)
  endTime : result.lookup "endTime" = some (.text ended)
  status : result.lookup "actionStatus" = some (.text
    (if reply.isSuccess then "CompletedActionStatus" else "FailedActionStatus"))

variable (g : Gateway) (reply : Request → Except GatewayError Reply) (time : Nat → String)
  (name : String)

theorem mapRequest_of_rules {rules : ActionRules} (h : g.registry.get name = .ok rules)
    (action : Tree) :
    g.mapRequest name action = (Mapping.mapRequest g.evaluators (g.optionsFor action).mode
      rules.request action).mapError .mapping := by
  rw [mapRequest, h]
  rfl

theorem mapReply_of_rules {rules : ActionRules} (h : g.registry.get name = .ok rules) (r : Reply)
    (target : Tree) :
    g.mapReply name r target = (Mapping.mapReply g.evaluators (g.optionsFor target) r
      rules.response target).toExcept.mapError .mapping := by
  rw [mapReply, h]
  rfl

theorem observe_mapping (entries : Entries) :
    g.observe reply time name (.mapping entries) =
      match g.mapRequest name (.mapping entries) with
      | .error e => (.error e, [])
      | .ok request =>
        match reply request with
        | .error e => (.error e, [request])
        | .ok r =>
          match g.mapReply name r (.mapping entries) with
          | .error e => (.error e, [request])
          | .ok mapped => (.ok (stamp r (time 0) (time 1) mapped), [request]) := by
  cases hrules : g.registry.get name with
  | error e =>
    have hdry : g.mapRequest name (.mapping entries) = .error e := by
      rw [mapRequest, hrules]
      rfl
    simp only [hdry, observe, invoke, hrules]
    rfl
  | ok rules =>
    rw [mapRequest_of_rules g name hrules]
    simp only [mapReply_of_rules g name hrules, observe, invoke, hrules]
    cases Mapping.mapRequest g.evaluators (g.optionsFor (.mapping entries)).mode rules.request
        (.mapping entries) with
    | error e => rfl
    | ok request =>
      have hmapped : (Except.ok request : Except MappingError Request).mapError GatewayError.mapping =
          .ok request := rfl
      simp only [recordSend, hmapped]
      cases reply request with
      | error e => rfl
      | ok r =>
        simp only [recordClock, StateT.run_bind, StateT.run_modifyGet, pure_bind, List.nil_append]
        -- the reply is folded into the action itself, which is the target of the dry run too
        cases Mapping.mapReply g.evaluators (g.optionsFor (.mapping entries)) r rules.response
            (.mapping entries) with
        | mk target failure =>
          cases failure with
          | none => rfl
          | some e => rfl

theorem stamp_stamped (r : Reply) (started ended : String) {entries : Entries}
    (h : r.isSuccess = false → entries.lookup "actionStatus" = some Mapping.failedStatus) :
    ∃ result, stamp r started ended (.mapping entries) = .mapping result ∧
      Stamped r started ended entries result := by
  refine ⟨_, rfl, ?_⟩
  constructor
  · rw [Entries.filter_put (by simp [isStampKey]), Entries.filter_put (by simp [isStampKey])]
    split
    · next hs => rw [Entries.filter_put (by simp [isStampKey, hs])]
    · rfl
  · rw [Entries.lookup_put_ne (by simp), Entries.lookup_put_self]
  · rw [Entries.lookup_put_self]
  · rw [Entries.lookup_put_ne (by simp), Entries.lookup_put_ne (by simp)]
    split
    · rw [Entries.lookup_put_self]
      rfl
    · next hs =>
      rw [h (Bool.eq_false_iff.2 hs)]
      rfl

theorem mapReply_ok {r : Reply} {entries : Entries} {mapped : Tree}
    (h : g.mapReply name r (.mapping entries) = .ok mapped) :
    ∃ result, mapped = .mapping result ∧
      (r.isSuccess = false → result.lookup "actionStatus" = some Mapping.failedStatus) := by
  obtain ⟨rules, hrules, h⟩ := Except.bind_ok_iff.1 h
  obtain ⟨result, htarget, hstatus⟩ := Mapping.mapReply_mapping g.evaluators
    (g.optionsFor (.mapping entries)) r rules.response entries
  refine ⟨result, ?_, hstatus⟩
  rw [← htarget]
  unfold Mapping.Folded.toExcept at h
  split at h
  · cases h
    rfl
  · cases h

/-- The dry runs tell what a run does. What it sends is the request of the dry run, once, or nothing
when that fails; and it ends in what its reply maps to, stamped, unless one of the two mappings or
the dispatcher fails, which then is its error. What is no mapping is refused, and nothing is sent. -/
theorem observe_follows_dry_runs (action : Tree) :
    (∀ entries, action = .mapping entries →
      (∀ e, g.mapRequest name action = .error e →
        g.observe reply time name action = (.error e, [])) ∧
      ∀ request, g.mapRequest name action = .ok request →
        (g.observe reply time name action).2 = [request] ∧
        (∀ e, reply request = .error e → (g.observe reply time name action).1 = .error e) ∧
        ∀ r, reply request = .ok r →
          (∀ e, g.mapReply name r action = .error e →
            (g.observe reply time name action).1 = .error e) ∧
          ∀ mapped, g.mapReply name r action = .ok mapped → ∃ before after,
            mapped = .mapping before ∧
            (g.observe reply time name action).1 = .ok (.mapping after) ∧
            Stamped r (time 0) (time 1) before after) ∧
    ((∀ entries, action ≠ .mapping entries) → ∃ e, e.kind = .invalidParams ∧
      g.observe reply time name action = (.error e, [])) := by
  constructor
  · rintro entries rfl
    rw [observe_mapping]
    constructor
    · intro e he
      rw [he]
    · intro request hrequest
      simp only [hrequest]
      refine ⟨?_, ?_, ?_⟩
      · split
        · rfl
        · split <;> rfl
      · intro e he
        rw [he]
      · intro r hr
        simp only [hr]
        constructor
        · intro e he
          rw [he]
        · intro mapped hmapped
          obtain ⟨before, rfl, hstatus⟩ := mapReply_ok g name hmapped
          obtain ⟨after, hafter, hstamped⟩ := stamp_stamped r (time 0) (time 1) hstatus
          rw [hmapped]
          exact ⟨before, after, rfl, congrArg Except.ok hafter, hstamped⟩
  · intro h
    refine ⟨.actionNotMapping, rfl, ?_⟩
    cases action with
    | mapping entries => exact absurd rfl (h entries)
    | null | bool | number | text | sequence => rfl

def echo : Gateway :=
  let request : RequestRules := ⟨"GET", "x:/echo", [], [], [], none⟩
  let response : ResponseRules := ⟨none, none, some [("name", .text "echo")]⟩
  ⟨⟨NameMap.empty.insert "echo" ⟨"echo", request, [response]⟩⟩, .none, .sandbox⟩

theorem observe_follows_dry_runs_echo :
    echo.mapRequest "echo" (.mapping []) = .ok ⟨"GET", "x:/echo", .empty, none⟩ ∧
    (echo.observe (fun _ => .ok ⟨[], .null⟩) (fun _ => "now") "echo" (.mapping [])).2 =
      [⟨"GET", "x:/echo", .empty, none⟩] ∧
    echo.mapReply "echo" ⟨[], .null⟩ (.mapping []) = .ok (.mapping [("name", .text "echo")]) ∧
    ∃ after, (echo.observe (fun _ => .ok ⟨[], .null⟩) (fun _ => "now") "echo" (.mapping [])).1 =
        .ok (.mapping after) ∧
      Stamped ⟨[], .null⟩ "now" "now" [("name", .text "echo")] after := by
  have hrequest : echo.mapRequest "echo" (.mapping []) = .ok ⟨"GET", "x:/echo", .empty, none⟩ := rfl
  have hreply : echo.mapReply "echo" ⟨[], .null⟩ (.mapping []) =
      .ok (.mapping [("name", .text "echo")]) := rfl
  obtain ⟨-, hruns⟩ := (observe_follows_dry_runs echo (fun _ => .ok ⟨[], .null⟩) (fun _ => "now")
    "echo" (.mapping [])).1 [] rfl
  obtain ⟨hsent, -, hmapped⟩ := hruns _ hrequest
  obtain ⟨before, after, hbefore, hafter, hstamped⟩ := (hmapped ⟨[], .null⟩ rfl).2 _ hreply
  cases hbefore
  exact ⟨hrequest, hsent, hreply, after, hafter, hstamped⟩

end Gateway

end ActionBridge
