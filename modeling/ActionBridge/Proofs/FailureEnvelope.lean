import ActionBridge.Proofs.ReplyCompletion

namespace ActionBridge.Mapping

open ActionBridge.Tree

def errorAfter (status : Nat) : Option Tree → Tree
  | none => errorOf status
  | some .null => errorOf status
  | some held => (errorOf status).merge (fun _ => false) held

/-- A target after a failure: it has the identifier of the action unless it had one, the status of a
failed action and an error. What is new comes behind all that was there. -/
structure IsFailureOf (status : Nat) (id : Option String) (target result : Entries) : Prop where
  stamped : ∀ i, id = some i → shapeOf? (target.lookup "@id") = .absent →
    result.lookup "@id" = some (.text i)
  identified : id = none ∨ shapeOf? (target.lookup "@id") ≠ .absent →
    result.lookup "@id" = target.lookup "@id"
  actionStatus : result.lookup "actionStatus" = some (.text "FailedActionStatus")
  error : result.lookup "error" = some (errorAfter status (target.lookup "error"))
  others : ∀ (i : Nat) (e : String × Tree), target[i]? = some e →
    e.1 ∉ ["@id", "actionStatus", "error"] → result[i]? = some e
  keys : result.map (·.1) = target.map (·.1) ++
    ["@id", "actionStatus", "error"].filter fun k =>
      k ∉ target.map (·.1) && (k ≠ "@id" || id.isSome)

theorem errorAfter_of_absent {status : Nat} {held : Option Tree} (h : shapeOf? held = .absent) :
    errorAfter status held = errorOf status := by
  cases held with
  | none => rfl
  | some t => cases t <;> first | rfl | cases h

theorem errorAfter_of_present {status : Nat} {t : Tree} (h : shapeOf? (some t) ≠ .absent) :
    errorAfter status (some t) = (errorOf status).merge (fun _ => false) t := by
  cases t with
  | null => exact absurd rfl h
  | bool | number | text | sequence | mapping => rfl

theorem markFailed_eq_put (status : Nat) (target : Entries) :
    markFailed status target = (target.put "actionStatus" failedStatus).put "error"
      (errorAfter status (target.lookup "error")) := by
  have hput : (target.put "actionStatus" failedStatus).lookup "error" = target.lookup "error" :=
    Entries.lookup_put_ne (by decide) failedStatus target
  simp only [markFailed, hput]
  split
  · next h => rw [errorAfter_of_absent h]
  · next h =>
    cases ht : target.lookup "error" with
    | none =>
      rw [ht] at h
      exact absurd rfl h
    | some t =>
      rw [ht] at h
      rw [Entries.modifyKey_eq_put (hput.trans ht), errorAfter_of_present h]

theorem stampId_cases (id : Option String) (target : Entries) :
    (∃ i, id = some i ∧ shapeOf? (target.lookup "@id") = .absent ∧
      stampId id target = target.put "@id" (.text i)) ∨
    ((id = none ∨ shapeOf? (target.lookup "@id") ≠ .absent) ∧ stampId id target = target) := by
  cases id with
  | none => exact .inr ⟨.inl rfl, rfl⟩
  | some i =>
    by_cases h : shapeOf? (target.lookup "@id") = .absent
    · exact .inl ⟨i, rfl, h, if_pos h⟩
    · exact .inr ⟨.inr h, if_neg h⟩

section

variable {id : Option String} {target : Entries}

theorem lookup_stampId_ne {key : String} (h : key ≠ "@id") :
    (stampId id target).lookup key = target.lookup key := by
  rcases stampId_cases id target with ⟨i, -, -, hs⟩ | ⟨-, hs⟩
  · rw [hs, Entries.lookup_put_ne h]
  · rw [hs]

theorem getElem?_stampId {i : Nat} {e : String × Tree} (he : target[i]? = some e)
    (hne : e.1 ≠ "@id") : (stampId id target)[i]? = some e := by
  rcases stampId_cases id target with ⟨_, -, -, hs⟩ | ⟨-, hs⟩
  · rw [hs]
    exact Entries.getElem?_put_of_ne he hne _
  · rwa [hs]

theorem keys_stampId : (stampId id target).map (·.1) = target.map (·.1) ++
    if "@id" ∉ target.map (·.1) ∧ id.isSome then ["@id"] else [] := by
  rcases stampId_cases id target with ⟨i, rfl, -, hs⟩ | ⟨hor, hs⟩
  · rw [hs, Entries.keys_put]
    by_cases hk : "@id" ∈ target.map (·.1) <;> simp [hk]
  · rw [hs, if_neg, List.append_nil]
    rintro ⟨hk, hi⟩
    rcases hor with rfl | hv
    · cases hi
    · rw [Entries.lookup_new hk] at hv
      exact hv rfl

end

theorem markFailed_isFailureOf (status : Nat) (id : Option String) (target : Entries) :
    IsFailureOf status id target (markFailed status (stampId id target)) := by
  have hid : "@id" ≠ "error" ∧ "@id" ≠ "actionStatus" := by decide
  have hlookup : (markFailed status (stampId id target)).lookup "@id" =
      (stampId id target).lookup "@id" := by
    rw [markFailed_eq_put, Entries.lookup_put_ne hid.1, Entries.lookup_put_ne hid.2]
  constructor
  case stamped =>
    rintro i rfl ha
    rw [hlookup, stampId, if_pos ha, Entries.lookup_put_self]
  case identified =>
    intro hor
    rcases stampId_cases id target with ⟨i, rfl, ha, -⟩ | ⟨-, hs⟩
    · rcases hor with h | h
      · cases h
      · exact absurd ha h
    · rw [hlookup, hs]
  case actionStatus => exact lookup_markFailed status _
  case error =>
    rw [markFailed_eq_put, Entries.lookup_put_self, lookup_stampId_ne (by decide)]
  case others =>
    intro i e he hne
    simp only [List.mem_cons, List.not_mem_nil, or_false, not_or] at hne
    rw [markFailed_eq_put]
    have hstamped : (stampId id target)[i]? = some e := getElem?_stampId he hne.1
    exact Entries.getElem?_put_of_ne (Entries.getElem?_put_of_ne hstamped hne.2.1 _) hne.2.2 _
  case keys =>
    rw [markFailed_eq_put, Entries.keys_put, Entries.keys_put, keys_stampId]
    by_cases hi : "@id" ∈ target.map (·.1) <;> by_cases ha : "actionStatus" ∈ target.map (·.1) <;>
      by_cases he : "error" ∈ target.map (·.1) <;> cases id <;> simp [hi, ha, he]

/-- Whatever the rules, the rest of the reply and the evaluators are, a status that reports a
failure makes one and the same result of a target, and always makes it. -/
theorem mapReply_of_failed_status {status : Nat} (hs : ¬(200 ≤ status ∧ status ≤ 299))
    (id : Option String) (target : Entries) :
    ∃ result, IsFailureOf status id target result ∧
      ∀ t, t = .mapping target ∨ t = .null ∧ target = [] →
        ∀ es options reply ruleSets, reply.status? = some status → options.actionId = id →
          mapReply es options reply ruleSets t = ⟨.mapping result, none⟩ := by
  refine ⟨_, markFailed_isFailureOf status id target, ?_⟩
  rintro t ht es options reply ruleSets hstatus rfl
  have hfailed : reply.isSuccess = false := by
    simp only [Reply.isSuccess, hstatus, Bool.and_eq_false_iff, decide_eq_false_iff_not]
    omega
  have hinto : foldInto es options reply ruleSets target =
      ⟨.mapping (markFailed status (stampId options.actionId target)), none⟩ := by
    rw [foldInto_of_failure hfailed, hstatus]
    rfl
  rcases ht with rfl | ⟨rfl, rfl⟩
  · exact hinto
  · exact hinto

def interrupted : Entries :=
  [("error", .sequence [.text "late", .mapping [("name", .text "old"), ("@type", .null)]]),
    ("@id", .null)]

theorem mapReply_of_failed_status_interrupted :
    ∃ result, mapReply .none ⟨.sandbox, none, some "urn:1"⟩ ⟨[(":status", .text " 503 ")], .null⟩
        [⟨none, some (.text "\x7b\x7bname\x7d\x7d"), none⟩] (.mapping interrupted) =
          ⟨.mapping result, none⟩ ∧
      result.lookup "@id" = some (.text "urn:1") ∧
      result.lookup "error" = some (.sequence
        [.text "late", .mapping [("name", .text "old"), ("@type", .text "Thing")]]) := by
  have hs : ¬(200 ≤ 503 ∧ 503 ≤ 299) := by decide
  obtain ⟨result, h, hmap⟩ := mapReply_of_failed_status hs (some "urn:1") interrupted
  refine ⟨result, hmap _ (.inl rfl) _ _ _ _ rfl rfl, h.stamped _ rfl rfl, ?_⟩
  rw [h.error]
  rfl

end ActionBridge.Mapping
