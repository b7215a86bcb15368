import ActionBridge.Proofs.WalkedValues
/-!
What of a reply can reach a result. A body is projected along the rules that are walked alongside
it: whatever no rule leads to is left out. A body is walked in the same way as its projection, so
two bodies with one projection give the same result.
-/

namespace ActionBridge

namespace Mapping

def rulesFor (key : String) (rules : List Tree) : List Tree :=
  rules.flatMap fun
    | .mapping entries => (entries.filter (·.1 = key)).map (·.2)
    | _ => []

def namedKeys (rules : List Tree) : List String :=
  rules.flatMap fun
    | .mapping entries => entries.map (·.1)
    | _ => []

def itemRules (rules : List Tree) : List Tree :=
  rules.flatMap fun
    | .mapping entries => [.mapping entries]
    | .sequence items => items
    | _ => []

def selectKeys (keys : List String) (entries : Entries) : Entries :=
  keys.filterMap fun key => (entries.lookup key).map (key, ·)

mutual

/-- What rules can see of a value. A leaf sees all of it, mapping rules see the keys that they name,
and mapping and sequence rules see every item of a sequence; beyond that only the kind is seen. -/
def project (rules : List Tree) (t : Tree) : Tree :=
  if rules.any (!·.isContainer) then t
  else
    match t with
    | .mapping entries => .mapping (selectKeys (namedKeys rules) (projectEntries rules entries))
    | .sequence items =>
      .sequence (if rules.isEmpty then [] else projectItems (itemRules rules) items)
    | _ => .null
termination_by structural t

def projectEntries (rules : List Tree) (entries : Entries) : Entries :=
  match entries with
  | [] => []
  | (key, t) :: entries => (key, project (rulesFor key rules) t) :: projectEntries rules entries
termination_by structural entries

def projectItems (rules : List Tree) (items : List Tree) : List Tree :=
  match items with
  | [] => []
  | t :: ts => project rules t :: projectItems rules ts
termination_by structural items

end

section

variable {rules : List Tree} {key : String}

theorem mem_rulesFor {entries : Entries} {rule : Tree} (hr : .mapping entries ∈ rules)
    (he : (key, rule) ∈ entries) : rule ∈ rulesFor key rules :=
  List.mem_flatMap.2 ⟨_, hr, List.mem_map.2 ⟨(key, rule), by simp [he], rfl⟩⟩

theorem mem_namedKeys {entries : Entries} {rule : Tree} (hr : .mapping entries ∈ rules)
    (he : (key, rule) ∈ entries) : key ∈ namedKeys rules :=
  List.mem_flatMap.2 ⟨_, hr, List.mem_map_of_mem (f := (·.1)) he⟩

theorem mapping_mem_itemRules {entries : Entries} (hr : .mapping entries ∈ rules) :
    .mapping entries ∈ itemRules rules :=
  List.mem_flatMap.2 ⟨_, hr, List.mem_singleton_self _⟩

theorem mem_itemRules {items : List Tree} {rule : Tree} (hr : .sequence items ∈ rules)
    (hi : rule ∈ items) : rule ∈ itemRules rules :=
  List.mem_flatMap.2 ⟨_, hr, hi⟩

theorem lookup_selectKeys {keys : List String} (hk : key ∈ keys) (entries : Entries) :
    (selectKeys keys entries).lookup key = entries.lookup key := by
  have hall : ∀ keys : List String, (selectKeys keys entries).lookup key =
      if key ∈ keys then entries.lookup key else none := by
    intro keys
    induction keys with
    | nil => rfl
    | cons k ks ih =>
      unfold selectKeys at ih ⊢
      by_cases he : key = k
      · subst he
        cases hl : entries.lookup key with
        | none => simp [hl, ih]
        | some t => simp [hl]
      · have hne : (key == k) = false := beq_false_of_ne he
        cases hl : entries.lookup k with
        | none => simp [hl, ih, he]
        | some t => simp [hl, ih, he, List.lookup_cons, hne]
  rw [hall, if_pos hk]

theorem lookup_projectEntries (entries : Entries) :
    (projectEntries rules entries).lookup key =
      (entries.lookup key).map (project (rulesFor key rules)) := by
  induction entries with
  | nil => rfl
  | cons e entries ih =>
    obtain ⟨k, t⟩ := e
    rw [projectEntries, List.lookup_cons, List.lookup_cons, ih]
    by_cases he : key = k
    · subst he
      simp
    · rw [beq_false_of_ne he]

end

section

variable {es : Evaluators} {mode : EvalMode}

def WalkedAsProjected (es : Evaluators) (mode : EvalMode) (t : Tree) : Prop :=
  ∀ rules, ∀ rule ∈ rules, ∀ location fragment,
    walk es mode .body location rule (project rules t) fragment =
      walk es mode .body location rule t fragment

theorem walkEntries_project {rules : List Tree} {entries : Entries}
    (ht : ∀ key t, entries.lookup key = some t → WalkedAsProjected es mode t)
    (location : List String) {named : Entries}
    (hn : ∀ key rule, (key, rule) ∈ named → key ∈ namedKeys rules ∧ rule ∈ rulesFor key rules)
    (fragment : Tree) :
    walkEntries es mode .body location named
        (selectKeys (namedKeys rules) (projectEntries rules entries)) fragment =
      walkEntries es mode .body location named entries fragment := by
  induction named generalizing fragment with
  | nil => rfl
  | cons e named ih =>
    obtain ⟨key, rule⟩ := e
    obtain ⟨hk, hr⟩ := hn key rule List.mem_cons_self
    have hrest := ih fun key rule he => hn key rule (List.mem_cons_of_mem _ he)
    have hlookup :
        lookupIn .body key (selectKeys (namedKeys rules) (projectEntries rules entries)) =
          (entries.lookup key).map (project (rulesFor key rules)) := by
      rw [lookupIn_body, lookup_selectKeys hk, lookup_projectEntries]
    rw [walkEntries, walkEntries, hlookup, lookupIn_body]
    cases hl : entries.lookup key with
    | none => exact hrest fragment
    | some t => simp only [Option.map_some, ht key t hl _ rule hr, hrest]

theorem eachMapping_project {rules : List Tree} {entries : Entries}
    (hr : .mapping entries ∈ rules) (location : List String) {items : List Tree}
    (ht : ∀ t ∈ items, WalkedAsProjected es mode t) (fragment : Tree) :
    eachMappingOf (walkEntries es mode .body location entries) (projectItems rules items) fragment =
      eachMappingOf (walkEntries es mode .body location entries) items fragment := by
  induction items generalizing fragment with
  | nil => rfl
  | cons t items ih =>
    obtain ⟨hhead, htail⟩ := List.forall_mem_cons.1 ht
    have hwalk := hhead rules _ hr location fragment
    rw [walk] at hwalk
    simp only [projectItems, eachMappingOf, hwalk, ih htail]

theorem walkItems_project {rules : List Tree} {t : Tree} (ht : WalkedAsProjected es mode t)
    (location : List String) {along : List Tree} (ha : ∀ rule ∈ along, rule ∈ rules) (index : Nat)
    (fragment : Tree) :
    walkItems es mode .body location index along (project rules t) fragment =
      walkItems es mode .body location index along t fragment := by
  induction along generalizing index fragment with
  | nil => rfl
  | cons rule along ih =>
    obtain ⟨hrule, halong⟩ := List.forall_mem_cons.1 ha
    simp only [walkItems, ht rules rule hrule, ih halong]

theorem eachItem_project {rules along : List Tree} (ha : ∀ rule ∈ along, rule ∈ rules)
    (location : List String) {items : List Tree} (ht : ∀ t ∈ items, WalkedAsProjected es mode t)
    (fragment : Tree) :
    eachItem (walkItems es mode .body location 0 along) (.sequence (projectItems rules items))
        fragment =
      eachItem (walkItems es mode .body location 0 along) (.sequence items) fragment := by
  unfold eachItem
  induction items generalizing fragment with
  | nil => rfl
  | cons t items ih =>
    obtain ⟨hhead, htail⟩ := List.forall_mem_cons.1 ht
    simp only [projectItems, List.foldlM_cons, walkItems_project hhead location ha, ih htail]

theorem walkedAsProjected_of {t : Tree}
    (hmapping : ∀ rules entries, rules.any (!·.isContainer) = false → .mapping entries ∈ rules →
      ∀ location fragment,
        walk es mode .body location (.mapping entries) (project rules t) fragment =
          walk es mode .body location (.mapping entries) t fragment)
    (hsequence : ∀ rules along, rules.any (!·.isContainer) = false → .sequence along ∈ rules →
      ∀ location fragment,
        walk es mode .body location (.sequence along) (project rules t) fragment =
          walk es mode .body location (.sequence along) t fragment) :
    WalkedAsProjected es mode t := by
  intro rules rule hr location fragment
  -- beside a leaf all of the value is seen
  cases hleaf : rules.any (!·.isContainer) with
  | true => rw [project.eq_def, if_pos hleaf]
  | false =>
    cases rule with
    | mapping entries => exact hmapping rules entries hleaf hr location fragment
    | sequence along => exact hsequence rules along hleaf hr location fragment
    | null | bool | number | text => exact absurd rfl (List.any_eq_false.1 hleaf _ hr)

theorem walkedAsProjected_scalar {t : Tree} (ht : t.isContainer = false) :
    WalkedAsProjected es mode t := by
  have hp {rules : List Tree} (h : rules.any (!·.isContainer) = false) :
      project rules t = .null := by
    rw [project.eq_def, if_neg (by simp [h])]
    cases t with
    | mapping | sequence => cases ht
    | null | bool | number | text => rfl
  refine walkedAsProjected_of ?_ ?_
  all_goals
    intro rules _ h _ location fragment
    rw [hp h, walk]
    cases t with
    | mapping | sequence => cases ht
    | null | bool | number | text => rfl

theorem walkedAsProjected_mapping {entries : Entries}
    (ht : ∀ key t, entries.lookup key = some t → WalkedAsProjected es mode t) :
    WalkedAsProjected es mode (.mapping entries) := by
  have hp {rules : List Tree} (h : rules.any (!·.isContainer) = false) :
      project rules (.mapping entries) =
        .mapping (selectKeys (namedKeys rules) (projectEntries rules entries)) := by
    rw [project, if_neg (by simp [h])]
  refine walkedAsProjected_of (fun rules named h hr location fragment => ?_)
    (fun rules _ h _ location fragment => ?_)
  · rw [hp h, walk]
    exact walkEntries_project ht location
      (fun key rule he => ⟨mem_namedKeys hr he, mem_rulesFor hr he⟩) fragment
  · rw [hp h, walk]
    rfl

theorem walkedAsProjected_sequence {items : List Tree}
    (ht : ∀ t ∈ items, WalkedAsProjected es mode t) :
    WalkedAsProjected es mode (.sequence items) := by
  have hp {rules : List Tree} {rule : Tree} (h : rules.any (!·.isContainer) = false)
      (hr : rule ∈ rules) :
      project rules (.sequence items) = .sequence (projectItems (itemRules rules) items) := by
    rw [project, if_neg (by simp [h])]
    simp [List.ne_nil_of_mem hr]
  refine walkedAsProjected_of (fun rules named h hr location fragment => ?_)
    (fun rules along h hr location fragment => ?_)
  · rw [hp h hr, walk]
    exact eachMapping_project (mapping_mem_itemRules hr) location ht fragment
  · rw [hp h hr, walk]
    exact eachItem_project (fun rule hi => mem_itemRules hr hi) location ht fragment

-- The induction is on the value: whatever rule meets it, what it contains is met by rules that it was
-- projected along.
mutual

theorem walkedAsProjected : ∀ t : Tree, WalkedAsProjected es mode t
  | .mapping entries => walkedAsProjected_mapping (walkedAsProjected_entries entries)
  | .sequence items => walkedAsProjected_sequence (walkedAsProjected_items items)
  | .null | .bool _ | .number _ | .text _ => walkedAsProjected_scalar rfl

theorem walkedAsProjected_items : ∀ items : List Tree, ∀ t ∈ items, WalkedAsProjected es mode t
  | [] => by simp
  | t :: ts => List.forall_mem_cons.2 ⟨walkedAsProjected t, walkedAsProjected_items ts⟩

theorem walkedAsProjected_entries : ∀ (entries : Entries) (key : String) (t : Tree),
    entries.lookup key = some t → WalkedAsProjected es mode t
  | [], _, _, h => by cases h
  | (k, u) :: entries, key, t, h => by
    rw [List.lookup_cons] at h
    split at h
    · cases h
      exact walkedAsProjected u
    · exact walkedAsProjected_entries entries key t h

end

theorem walk_of_project_eq {rules : List Tree} {rule t t' : Tree} (hr : rule ∈ rules)
    (h : project rules t = project rules t') (location : List String) (fragment : Tree) :
    walk es mode .body location rule t fragment = walk es mode .body location rule t' fragment := by
  rw [← walkedAsProjected t rules rule hr, h, walkedAsProjected t' rules rule hr]

variable {headers : Entries} {body body' : Tree}

theorem fragmentOf_of_project_eq {rules : ResponseRules}
    (h : ∀ template ∈ rules.body, project [template] body = project [template] body') :
    fragmentOf es mode ⟨headers, body⟩ rules = fragmentOf es mode ⟨headers, body'⟩ rules := by
  have hbody : ∀ fragment, walkSection es mode .body rules.body body fragment =
      walkSection es mode .body rules.body body' fragment := by
    intro fragment
    cases ht : rules.body with
    | none => rfl
    | some template => exact walk_of_project_eq List.mem_cons_self (h template ht) [] fragment
  simp only [fragmentOf, hbody]

theorem foldRuleSets_of_project_eq {excluded : Option KeyPattern} {ruleSets : List ResponseRules}
    (h : ∀ rules ∈ ruleSets, ∀ template ∈ rules.body,
      project [template] body = project [template] body') (target : Tree) :
    foldRuleSets es mode excluded ⟨headers, body⟩ ruleSets target =
      foldRuleSets es mode excluded ⟨headers, body'⟩ ruleSets target := by
  induction ruleSets generalizing target with
  | nil => rfl
  | cons rules others ih =>
    obtain ⟨hrules, hothers⟩ := List.forall_mem_cons.1 h
    simp only [foldRuleSets, fragmentOf_of_project_eq hrules, ih hothers]

/-- Replies with the same headers, and with bodies that the rules see the same of, leave the same
target behind and fail alike. -/
theorem mapReply_of_project_eq {options : MappingOptions} {ruleSets : List ResponseRules}
    (h : ∀ rules ∈ ruleSets, ∀ template ∈ rules.body,
      project [template] body = project [template] body') (target : Tree) :
    mapReply es options ⟨headers, body⟩ ruleSets target =
      mapReply es options ⟨headers, body'⟩ ruleSets target := by
  have hinto (entries : Entries) : foldInto es options ⟨headers, body⟩ ruleSets entries =
      foldInto es options ⟨headers, body'⟩ ruleSets entries := by
    simp only [foldInto, foldRuleSets_of_project_eq h]
    rfl
  cases target with
  | null => exact hinto []
  | mapping entries => exact hinto entries
  | bool | number | text | sequence => rfl

end

theorem mapReply_of_project_eq_order :
    let template := Tree.mapping [("buyer", .mapping [("name", .text "$.agent.name")]),
      ("lines", .mapping [("sku", .text "$.object")])]
    let body := Tree.mapping [
      ("buyer", .mapping [("name", .text "Ann"), ("token", .text "x")]),
      ("lines", .sequence [.mapping [("sku", .int 1), ("note", .null)], .int 5])]
    let body' := Tree.mapping [
      ("lines", .sequence [.mapping [("sku", .int 1)], .bool true]), ("debug", .sequence []),
      ("buyer", .mapping [("token", .null), ("name", .text "Ann")])]
    let seen := Tree.mapping [("buyer", .mapping [("name", .text "Ann")]),
      ("lines", .sequence [.mapping [("sku", .int 1)], .null])]
    project [template] body = seen ∧ project [template] body' = seen ∧
      mapReply .none .standard ⟨[], body⟩ [⟨none, some template, none⟩] .null =
        mapReply .none .standard ⟨[], body'⟩ [⟨none, some template, none⟩] .null := by
  intro template body body' seen
  have hb : project [template] body = seen := rfl
  have hb' : project [template] body' = seen := rfl
  refine ⟨hb, hb', mapReply_of_project_eq ?_ .null⟩
  simp [hb, hb']

end Mapping

end ActionBridge
