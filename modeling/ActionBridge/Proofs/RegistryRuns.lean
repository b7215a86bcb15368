import ActionBridge.Gateway.Registry
import ActionBridge.Proofs.Failures
import ActionBridge.Proofs.NameMaps

namespace ActionBridge

theorem ActionRules.name_of_ofTree {name : String} {document : Tree} {rules : ActionRules}
    (h : ActionRules.ofTree name document = .ok rules) : rules.name = name := by
  rw [ActionRules.ofTree] at h
  cases hr : document.lookup? "request" with
  | none =>
    rw [hr] at h
    cases h
  | some request =>
    rw [hr] at h
    obtain ⟨_, _, h⟩ := Except.bind_ok_iff.1 h
    obtain ⟨_, _, h⟩ := Except.bind_ok_iff.1 h
    obtain rfl := Except.ok.inj h
    rfl

namespace Registry

variable {r : Registry} {name : String} {document : Tree} {rules : ActionRules}

theorem get_eq_ok_iff : r.get name = .ok rules ↔ r.actions.get? name = some rules := by
  rw [get]
  cases r.actions.get? name <;> simp

theorem get_eq_notFound_iff :
    r.get name = .error (.actionNotFound name) ↔ r.actions.get? name = none := by
  rw [get]
  cases r.actions.get? name <;> simp

theorem tryInsert_of_ok (h : ActionRules.ofTree name document = .ok rules) :
    r.tryInsert name document = ⟨⟨r.actions.insert name rules⟩, none⟩ := by
  rw [tryInsert, h]

theorem tryInsert_of_error {e : GatewayError}
    (h : ActionRules.ofTree name document = .error e) :
    r.tryInsert name document = ⟨r, some e⟩ := by
  rw [tryInsert, h]

theorem failure_tryInsert_eq_some_iff {e : GatewayError} :
    (r.tryInsert name document).failure = some e ↔ ActionRules.ofTree name document = .error e := by
  cases h : ActionRules.ofTree name document with
  | ok rules => simp [tryInsert_of_ok h]
  | error e' => simp [tryInsert_of_error h]

theorem registry_tryInsert_of_failure {e : GatewayError}
    (h : (r.tryInsert name document).failure = some e) :
    (r.tryInsert name document).registry = r := by
  rw [tryInsert_of_error (failure_tryInsert_eq_some_iff.1 h)]

theorem Inserted.toExcept_eq_error_iff {i : Inserted} {e : GatewayError} :
    i.toExcept = .error e ↔ i.failure = some e := by
  rw [Inserted.toExcept]
  cases i.failure <;> simp

theorem insert_of_ok (h : ActionRules.ofTree name document = .ok rules) :
    r.insert name document = .ok ⟨r.actions.insert name rules⟩ := by
  rw [insert, tryInsert_of_ok h]
  rfl

theorem insert_eq_error_iff {e : GatewayError} :
    r.insert name document = .error e ↔ ActionRules.ofTree name document = .error e := by
  rw [insert, Inserted.toExcept_eq_error_iff, failure_tryInsert_eq_some_iff]

theorem insert_of_error {e : GatewayError} (h : ActionRules.ofTree name document = .error e) :
    r.insert name document = .error e :=
  insert_eq_error_iff.2 h

def afterInsert (r : Registry) (name : String) (document : Tree) : Registry :=
  (r.tryInsert name document).registry

def afterInserts (r : Registry) (calls : List (String × Tree)) : Registry :=
  calls.foldl (fun r call => r.afterInsert call.1 call.2) r

theorem afterInsert_of_ok (h : ActionRules.ofTree name document = .ok rules) :
    r.afterInsert name document = ⟨r.actions.insert name rules⟩ := by
  rw [afterInsert, tryInsert_of_ok h]

theorem afterInsert_of_error {e : GatewayError} (h : r.insert name document = .error e) :
    r.afterInsert name document = r :=
  registry_tryInsert_of_failure (Inserted.toExcept_eq_error_iff.1 h)

theorem afterInsert_get? (r : Registry) (name key : String) (document : Tree) :
    (r.afterInsert name document).actions.get? key =
      if key = name then (ActionRules.ofTree name document).toOption.or (r.actions.get? key)
      else r.actions.get? key := by
  cases h : ActionRules.ofTree name document with
  | ok rules =>
    rw [afterInsert_of_ok h, NameMap.get?_insert]
    rfl
  | error e =>
    rw [afterInsert_of_error (insert_of_error h)]
    exact (ite_self _).symm

theorem afterInserts_get?_of_refused {calls : List (String × Tree)}
    (h : ∀ document, (name, document) ∈ calls → ∃ e, ActionRules.ofTree name document = .error e)
    (r : Registry) : (r.afterInserts calls).actions.get? name = r.actions.get? name := by
  induction calls generalizing r with
  | nil => rfl
  | cons call calls ih =>
    have hrest := ih (fun document hd => h document (List.mem_cons_of_mem _ hd))
      (r.afterInsert call.1 call.2)
    rw [afterInserts] at hrest ⊢
    rw [List.foldl_cons, hrest, afterInsert_get?]
    split
    · next heq =>
      subst heq
      obtain ⟨e, he⟩ := h call.2 List.mem_cons_self
      rw [he]
      rfl
    · rfl

theorem afterInserts_append (r : Registry) (calls later : List (String × Tree)) :
    r.afterInserts (calls ++ later) = (r.afterInserts calls).afterInserts later :=
  List.foldl_append

theorem afterInserts_get?_last {before after : List (String × Tree)}
    (hd : ActionRules.ofTree name document = .ok rules)
    (h : ∀ later, (name, later) ∈ after → ∃ e, ActionRules.ofTree name later = .error e)
    (r : Registry) :
    (r.afterInserts (before ++ (name, document) :: after)).actions.get? name = some rules := by
  rw [afterInserts_append]
  change (((r.afterInserts before).afterInsert name document).afterInserts after).actions.get?
    name = some rules
  rw [afterInserts_get?_of_refused h, afterInsert_of_ok hd, NameMap.get?_insert, if_pos rfl]

def LastInserted (calls : List (String × Tree)) (name : String) (rules : ActionRules) : Prop :=
  ∃ before document after, calls = before ++ (name, document) :: after ∧
    ActionRules.ofTree name document = .ok rules ∧
    ∀ later, (name, later) ∈ after → ∃ e, ActionRules.ofTree name later = .error e

def NeverInserted (calls : List (String × Tree)) (name : String) : Prop :=
  ∀ document, (name, document) ∈ calls → ∃ e, ActionRules.ofTree name document = .error e

theorem lastInserted_or_never (calls : List (String × Tree)) (name : String) :
    (∃ rules, LastInserted calls name rules) ∨ NeverInserted calls name := by
  induction calls with
  | nil => exact .inr (by simp [NeverInserted])
  | cons call calls ih =>
    rcases ih with ⟨rules, before, document, after, rfl, hd, hafter⟩ | hnever
    · exact .inl ⟨rules, call :: before, document, after, rfl, hd, hafter⟩
    obtain ⟨key, document⟩ := call
    by_cases hk : name = key
    · subst hk
      cases hd : ActionRules.ofTree name document with
      | ok rules => exact .inl ⟨rules, [], document, calls, rfl, hd, hnever⟩
      | error e =>
        refine .inr fun later hlater => ?_
        rcases List.mem_cons.1 hlater with heq | hlater
        · cases heq
          exact ⟨e, hd⟩
        · exact hnever later hlater
    · refine .inr fun later hlater => ?_
      rcases List.mem_cons.1 hlater with heq | hlater
      · exact absurd (congrArg Prod.fst heq) hk
      · exact hnever later hlater

theorem lastInserted_of_mem {calls : List (String × Tree)} (hn : (calls.map (·.1)).Nodup)
    (h : (name, document) ∈ calls) (hd : ActionRules.ofTree name document = .ok rules) :
    LastInserted calls name rules := by
  obtain ⟨before, after, rfl⟩ := List.append_of_mem h
  rw [List.map_append, List.map_cons, List.nodup_append] at hn
  have hnew : name ∉ after.map (·.1) := (List.nodup_cons.1 hn.2.1).1
  exact ⟨before, document, after, rfl, hd, fun later hlater =>
    absurd (List.mem_map.2 ⟨_, hlater, rfl⟩) hnew⟩

theorem LastInserted.get? {calls : List (String × Tree)} (h : LastInserted calls name rules)
    (r : Registry) : (r.afterInserts calls).actions.get? name = some rules := by
  obtain ⟨before, document, after, rfl, hd, hafter⟩ := h
  exact afterInserts_get?_last hd hafter r

theorem NeverInserted.get? {calls : List (String × Tree)} (h : NeverInserted calls name) :
    (empty.afterInserts calls).actions.get? name = none := by
  rw [afterInserts_get?_of_refused h]
  rfl

theorem lastInserted_iff {calls : List (String × Tree)} :
    LastInserted calls name rules ↔ (empty.afterInserts calls).get name = .ok rules := by
  rw [get_eq_ok_iff]
  refine ⟨fun h => h.get? empty, fun h => ?_⟩
  rcases lastInserted_or_never calls name with ⟨rules', hlast⟩ | hnever
  · obtain rfl := Option.some.inj ((hlast.get? empty).symm.trans h)
    exact hlast
  · rw [hnever.get?] at h
    cases h

theorem neverInserted_iff {calls : List (String × Tree)} :
    NeverInserted calls name ↔
      (empty.afterInserts calls).get name = .error (.actionNotFound name) := by
  rw [get_eq_notFound_iff]
  refine ⟨fun h => h.get?, fun h => ?_⟩
  rcases lastInserted_or_never calls name with ⟨rules', hlast⟩ | hnever
  · rw [hlast.get?] at h
    cases h
  · exact hnever

theorem ext_get? {r r' : Registry} (h : ∀ key, r.actions.get? key = r'.actions.get? key) :
    r = r' := by
  cases r
  cases r'
  congr
  exact NameMap.ext_get? h

theorem afterInsert_comm {name name' : String} (hne : name ≠ name') (document document' : Tree)
    (r : Registry) :
    (r.afterInsert name document).afterInsert name' document' =
      (r.afterInsert name' document').afterInsert name document := by
  refine ext_get? fun key => ?_
  simp only [afterInsert_get?]
  by_cases hk : key = name'
  · rw [if_pos hk, if_neg (hk ▸ hne.symm), if_neg (hk ▸ hne.symm), if_pos hk]
  · rw [if_neg hk, if_neg hk]

theorem afterInserts_perm {calls calls' : List (String × Tree)} (hn : (calls.map (·.1)).Nodup)
    (h : calls.Perm calls') (r : Registry) : r.afterInserts calls = r.afterInserts calls' := by
  refine h.foldl_eq' (fun call hc call' hc' r => ?_) r
  by_cases heq : call = call'
  · rw [heq]
  · exact afterInsert_comm (fun hname => heq (List.inj_on_of_nodup_map hn hc hc' hname)) _ _ r

theorem foldlM_insert {calls : List (String × Tree)}
    (h : ∀ call ∈ calls, ∃ rules, ActionRules.ofTree call.1 call.2 = .ok rules) (r : Registry) :
    calls.foldlM (fun r call => r.insert call.1 call.2) r = .ok (r.afterInserts calls) := by
  induction calls generalizing r with
  | nil => rfl
  | cons call calls ih =>
    obtain ⟨⟨rules, hrules⟩, hcalls⟩ := List.forall_mem_cons.1 h
    rw [List.foldlM_cons, insert_of_ok hrules, afterInserts, List.foldl_cons,
      afterInsert_of_ok hrules]
    exact ih hcalls _

def WellNamed (r : Registry) : Prop :=
  ∀ name rules, r.actions.get? name = some rules → rules.name = name

theorem wellNamed_empty : empty.WellNamed := by
  intro name rules h
  cases h

theorem WellNamed.afterInsert (h : r.WellNamed) (name : String) (document : Tree) :
    (r.afterInsert name document).WellNamed := by
  intro key rules hget
  rw [afterInsert_get?] at hget
  split at hget
  · next heq =>
    subst heq
    cases ho : ActionRules.ofTree key document with
    | ok rules' =>
      rw [ho] at hget
      cases hget
      exact ActionRules.name_of_ofTree ho
    | error e =>
      rw [ho] at hget
      exact h key rules hget
  · exact h key rules hget

theorem WellNamed.afterInserts (h : r.WellNamed) (calls : List (String × Tree)) :
    (r.afterInserts calls).WellNamed := by
  induction calls generalizing r with
  | nil => exact h
  | cons call calls ih => exact ih (h.afterInsert call.1 call.2)

theorem WellNamed.list_names (h : r.WellNamed) : r.list.map (·.name) = r.names := by
  rw [list, names, NameMap.values, NameMap.names, List.map_map]
  exact List.map_congr_left fun e he => h e.1 e.2 (NameMap.mem_entries_iff.1 he)

theorem WellNamed.get_of_mem_list (h : r.WellNamed) (hr : rules ∈ r.list) :
    r.get rules.name = .ok rules := by
  obtain ⟨⟨name, _⟩, he, rfl⟩ := List.mem_map.1 hr
  have hget := NameMap.mem_entries_iff.1 he
  rw [get_eq_ok_iff, h name _ hget]
  exact hget

end Registry

end ActionBridge
