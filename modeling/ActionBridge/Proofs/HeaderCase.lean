import ActionBridge.Proofs.Failures
import ActionBridge.Proofs.RepeatedGroups
import ActionBridge.Proofs.UrlEncoding
import ActionBridge.Proofs.WalkedValues
import ActionBridge.Proofs.WellFormedness

namespace ActionBridge

/-! ### Keys in lower case -/

theorem Text.toLower_toLower (c : Char) : c.toLower.toLower = c.toLower := by
  rcases Url.eq_or_upper_of_toLower (rfl : c.toLower.toLower = _) with h | ⟨-, -, hhigh⟩
  · exact h.symm
  · rcases Url.eq_or_upper_of_toLower (rfl : c.toLower = _) with h | ⟨hsum, hlow, -⟩
    · rw [← h]
      exact h.symm
    · omega

def lowerKey (key : String) : String :=
  String.ofList (key.toList.map Char.toLower)

theorem lowerKey_lowerKey (key : String) : lowerKey (lowerKey key) = lowerKey key := by
  rw [lowerKey, lowerKey, String.toList_ofList, List.map_map]
  exact congrArg String.ofList (List.map_congr_left fun c _ => Text.toLower_toLower c)

theorem Mapping.sameIgnoringCase_iff {a b : String} :
    sameIgnoringCase a b = true ↔ lowerKey a = lowerKey b := by
  simp [sameIgnoringCase, lowerKey, String.ofList_inj]

namespace Tree

mutual

def lowered : Tree → Tree
  | mapping entries => mapping (loweredEntries entries)
  | sequence items => sequence (loweredItems items)
  | leaf => leaf

def loweredEntries : List (String × Tree) → List (String × Tree)
  | [] => []
  | (key, t) :: entries => (lowerKey key, lowered t) :: loweredEntries entries

def loweredItems : List Tree → List Tree
  | [] => []
  | t :: ts => lowered t :: loweredItems ts

end

def KeysApart (t : Tree) : Prop :=
  t.lowered.WellFormed

instance (t : Tree) : Decidable t.KeysApart :=
  inferInstanceAs (Decidable t.lowered.WellFormed)

theorem loweredEntries_eq_map (entries : Entries) :
    loweredEntries entries = entries.map fun e => (lowerKey e.1, e.2.lowered) := by
  induction entries with
  | nil => rfl
  | cons e entries ih => rw [loweredEntries, ih, List.map_cons]

theorem loweredItems_eq_map (items : List Tree) : loweredItems items = items.map lowered := by
  induction items with
  | nil => rfl
  | cons t ts ih => rw [loweredItems, ih, List.map_cons]

theorem keysApart_mapping_iff {entries : Entries} : (mapping entries).KeysApart ↔
    (entries.map fun e => lowerKey e.1).Nodup ∧ ∀ e ∈ entries, e.2.KeysApart := by
  rw [KeysApart, lowered, wellFormed_mapping_iff, loweredEntries_eq_map, List.map_map]
  exact and_congr_right fun _ => List.forall_mem_map

theorem keysApart_of_mem_items (items : List Tree) (h : (sequence items).KeysApart) :
    ∀ t ∈ items, t.KeysApart := by
  rw [KeysApart, lowered, wellFormed_sequence_iff, loweredItems_eq_map] at h
  exact fun t ht => h t.lowered (List.mem_map_of_mem ht)

/-! ### Keys that are met -/

mutual

def keepMet (sources : List Tree) : Tree → Tree
  | mapping rules => mapping (keepMetEntries sources rules)
  | sequence rules => sequence (keepMetItems (sources.flatMap items) rules)
  | leaf => leaf

def keepMetEntries (sources : List Tree) : List (String × Tree) → List (String × Tree)
  | [] => []
  | (key, rule) :: rules =>
    let met := sources.flatMap (valuesUnder key)
    if met.isEmpty then keepMetEntries sources rules
    else (key, keepMet met rule) :: keepMetEntries sources rules

def keepMetItems (sources : List Tree) : List Tree → List Tree
  | [] => []
  | rule :: rules => keepMet sources rule :: keepMetItems sources rules

end

end Tree

def MappingError.unlocated : MappingError → MappingError
  | .evaluator expression _ cause => .evaluator expression "" cause
  | e => e

def ResponseRules.lowered (rules : ResponseRules) : ResponseRules :=
  { rules with headers := rules.headers.map Tree.lowered }

def ResponseRules.keepMet (body : Tree) (rules : ResponseRules) : ResponseRules :=
  { rules with body := rules.body.map (Tree.keepMet [body]) }

namespace Mapping

open ActionBridge.Tree

def Folded.mapFailure (change : MappingError → MappingError) (f : Folded) : Folded :=
  ⟨f.target, f.failure.map change⟩

def Folded.unlocated (f : Folded) : Folded :=
  f.mapFailure MappingError.unlocated

theorem Folded.mapFailure_id (f : Folded) : f.mapFailure id = f := by
  rw [mapFailure, Option.map_id_apply]

/-! ### Rule sets that are changed one by one -/

section

variable {es : Evaluators} {mode : EvalMode} {reply : Reply}
variable {change : ResponseRules → ResponseRules} {forget : MappingError → MappingError}

theorem foldRuleSets_change
    (hfragment : ∀ rules,
      Alike forget (fragmentOf es mode reply (change rules)) (fragmentOf es mode reply rules))
    (hdefaults : ∀ rules, (change rules).defaults = rules.defaults)
    (excluded : Option KeyPattern) (ruleSets : List ResponseRules) (target : Tree) :
    (foldRuleSets es mode excluded reply (ruleSets.map change) target).mapFailure forget =
      (foldRuleSets es mode excluded reply ruleSets target).mapFailure forget := by
  induction ruleSets generalizing target with
  | nil => rfl
  | cons rules others ih =>
    rw [List.map_cons, foldRuleSets, foldRuleSets]
    obtain ⟨fragment, hchanged, hplain⟩ | ⟨e, e', hchanged, hplain, he⟩ := (hfragment rules).ends
    · have habsorb : absorb excluded (change rules) fragment target =
          absorb excluded rules fragment target := by
        rw [absorb, absorb, hdefaults]
      rw [hchanged, hplain]
      dsimp only
      rw [habsorb]
      exact ih (absorb excluded rules fragment target)
    · rw [hchanged, hplain]
      exact congrArg (fun failure => Folded.mk target (some failure)) he

theorem mapReply_change {options : MappingOptions}
    (hfragment : ∀ rules, Alike forget (fragmentOf es options.mode reply (change rules))
      (fragmentOf es options.mode reply rules))
    (hdefaults : ∀ rules, (change rules).defaults = rules.defaults)
    (ruleSets : List ResponseRules) (target : Tree) :
    (mapReply es options reply (ruleSets.map change) target).mapFailure forget =
      (mapReply es options reply ruleSets target).mapFailure forget := by
  have hinto (entries : Entries) :
      (foldInto es options reply (ruleSets.map change) entries).mapFailure forget =
        (foldInto es options reply ruleSets entries).mapFailure forget := by
    unfold foldInto
    cases reply.isSuccess with
    | true => exact foldRuleSets_change hfragment hdefaults options.excluded ruleSets _
    | false => rfl
  cases target with
  | null => exact hinto []
  | mapping entries => exact hinto entries
  | bool | number | text | sequence => rfl

end

/-! ### Headers -/

section

variable {source : Entries} {key : String}

theorem find?_sameIgnoringCase (key : String) (source : Entries) :
    (source.find? fun e => sameIgnoringCase e.1 key).map (·.2) =
      (source.map fun e => (lowerKey e.1, e.2)).lookup (lowerKey key) := by
  induction source with
  | nil => rfl
  | cons e source ih =>
    rw [List.find?_cons, List.map_cons, List.lookup_cons]
    cases he : sameIgnoringCase e.1 key with
    | true =>
      rw [sameIgnoringCase_iff.1 he, beq_self_eq_true]
      rfl
    | false =>
      have hne : lowerKey key ≠ lowerKey e.1 := by
        intro h
        rw [sameIgnoringCase_iff.2 h.symm] at he
        cases he
      rw [beq_false_of_ne hne]
      exact ih

theorem lookupIn_headers (h : (source.map fun e => lowerKey e.1).Nodup) (key : String) :
    lookupIn .headers key source =
      (source.map fun e => (lowerKey e.1, e.2)).lookup (lowerKey key) := by
  cases hexact : source.lookup key with
  | none =>
    simp only [lookupIn, hexact]
    exact find?_sameIgnoringCase key source
  | some child =>
    have hfound : lookupIn .headers key source = some child := by simp [lookupIn, hexact]
    obtain ⟨before, after, rfl, -⟩ := List.lookup_eq_some_iff.1 hexact
    have hnew : lowerKey key ∉ (before.map fun e => (lowerKey e.1, e.2)).map (·.1) := by
      intro hmem
      rw [List.map_append, List.map_cons] at h
      have hmem : lowerKey key ∈ before.map fun e => lowerKey e.1 := by simpa using hmem
      exact (List.nodup_append.1 h).2.2 _ hmem _ List.mem_cons_self rfl
    rw [hfound, List.map_append, List.map_cons, Entries.lookup_first hnew]

theorem lookupIn_headers_lowerKey (h : (mapping source).KeysApart) (key : String) :
    lookupIn .headers (lowerKey key) source = lookupIn .headers key source := by
  have hkeys := (keysApart_mapping_iff.1 h).1
  rw [lookupIn_headers hkeys, lookupIn_headers hkeys, lowerKey_lowerKey]

theorem keysApart_of_lookupIn {part : Section} {child : Tree} (h : (mapping source).KeysApart)
    (hchild : lookupIn part key source = some child) : child.KeysApart := by
  obtain ⟨e, he, rfl⟩ := exists_mem_of_lookupIn hchild
  exact (keysApart_mapping_iff.1 h).2 e he

end

section

variable {es : Evaluators} {mode : EvalMode}

theorem evaluate_alike (expression location location' : String) (bound : Tree) :
    Alike MappingError.unlocated (evaluate es mode expression location bound)
      (evaluate es mode expression location' bound) := by
  unfold evaluate
  split
  · exact .refl _
  · next evaluator _ =>
    cases evaluator expression bound with
    | ok value => exact .refl (.ok value)
    | error cause => exact .error rfl

theorem absorbProduced_alike (expression location location' : String) (produced : Option Tree)
    (fragment : Tree) :
    Alike MappingError.unlocated (absorbProduced expression location produced fragment)
      (absorbProduced expression location' produced fragment) := by
  cases produced with
  | none => exact .refl (.ok fragment)
  | some t =>
    cases t with
    | null | mapping => exact .refl (.ok _)
    | bool | number | text | sequence => exact .error rfl

theorem writeLeaf_alike (location location' : String) (leaf source fragment : Tree) :
    Alike MappingError.unlocated (writeLeaf es mode location leaf source fragment)
      (writeLeaf es mode location' leaf source fragment) := by
  unfold writeLeaf
  refine .bind (.refl _) fun selector => ?_
  cases selector with
  | path p => exact .refl _
  | expression text =>
    refine .bind (evaluate_alike text location location' source) fun produced => ?_
    exact absorbProduced_alike text location location' produced fragment
  | literal => exact .refl _

-- The places in the two walks differ, since the keys that lead there do.
mutual

theorem walk_lowered (location location' : List String) : ∀ (template : Tree) {source : Tree},
    source.KeysApart → ∀ fragment,
      Alike MappingError.unlocated (walk es mode .headers location template.lowered source fragment)
        (walk es mode .headers location' template source fragment)
  | .mapping rules, _, hs, fragment => by
    have hmappings := forall_mappings keysApart_of_mem_items hs
    rw [lowered, walk_mapping, walk_mapping]
    exact .foldlM (fun _ he => walkEntries_lowered location location' rules (hmappings _ he)) _
  | .sequence rules, _, hs, fragment => by
    have hitems := forall_items keysApart_of_mem_items hs
    rw [lowered, walk_sequence, walk_sequence]
    exact .foldlM (fun _ hi => walkItems_lowered location location' 0 rules (hitems _ hi)) _
  | .null, _, _, _ | .bool _, _, _, _ | .number _, _, _, _ | .text _, _, _, _ =>
    writeLeaf_alike _ _ _ _ _
termination_by structural template => template

theorem walkEntries_lowered (location location' : List String) :
    ∀ (rules : List (String × Tree)) {source : Entries}, (mapping source).KeysApart → ∀ fragment,
      Alike MappingError.unlocated
        (walkEntries es mode .headers location (loweredEntries rules) source fragment)
        (walkEntries es mode .headers location' rules source fragment)
  | [], _, _, fragment => .refl (.ok fragment)
  | (key, rule) :: rules, source, hs, fragment => by
    have hrest := walkEntries_lowered location location' rules hs
    rw [loweredEntries, walkEntries, walkEntries, lookupIn_headers_lowerKey hs]
    cases hchild : lookupIn .headers key source with
    | none => exact hrest fragment
    | some child =>
      have hapart : child.KeysApart := keysApart_of_lookupIn hs hchild
      exact .bind (walk_lowered _ _ rule hapart fragment) hrest
termination_by structural rules => rules

theorem walkItems_lowered (location location' : List String) (index : Nat) :
    ∀ (rules : List Tree) {item : Tree}, item.KeysApart → ∀ fragment,
      Alike MappingError.unlocated
        (walkItems es mode .headers location index (loweredItems rules) item fragment)
        (walkItems es mode .headers location' index rules item fragment)
  | [], _, _, fragment => .refl (.ok fragment)
  | rule :: rules, item, hs, fragment => by
    rw [loweredItems, walkItems, walkItems]
    exact .bind (walk_lowered _ _ rule hs fragment)
      (walkItems_lowered location location' (index + 1) rules hs)
termination_by structural rules => rules

end

variable {reply : Reply}

theorem fragmentOf_lowered (h : (mapping reply.headers).KeysApart) (rules : ResponseRules) :
    Alike MappingError.unlocated (fragmentOf es mode reply rules.lowered)
      (fragmentOf es mode reply rules) := by
  have hheaders : Alike MappingError.unlocated
      (walkSection es mode .headers rules.lowered.headers (mapping reply.headers) (mapping []))
      (walkSection es mode .headers rules.headers (mapping reply.headers) (mapping [])) := by
    rw [ResponseRules.lowered]
    cases rules.headers with
    | none => exact .refl _
    | some template => exact walk_lowered [] [] template h (mapping [])
  exact .bind hheaders fun fragment => .refl _

theorem mapReply_lowered (h : (mapping reply.headers).KeysApart) (options : MappingOptions)
    (ruleSets : List ResponseRules) (target : Tree) :
    (mapReply es options reply (ruleSets.map ResponseRules.lowered) target).unlocated =
      (mapReply es options reply ruleSets target).unlocated :=
  mapReply_change (fragmentOf_lowered h) (fun _ => rfl) ruleSets target

end

/-! ### Bodies -/

section

variable {es : Evaluators} {mode : EvalMode}

mutual

theorem walk_keepMet (location : List String) : ∀ (template : Tree) {sources : List Tree}
    {source : Tree}, source ∈ sources → ∀ fragment,
      Alike id (walk es mode .body location (keepMet sources template) source fragment)
        (walk es mode .body location template source fragment)
  | .mapping rules, sources, source, hs, fragment => by
    rw [keepMet, walk_mapping, walk_mapping]
    refine .foldlM (fun entries he => walkEntries_keepMet location rules ?_) _
    intro key child hchild
    refine List.mem_flatMap.2 ⟨source, hs, ?_⟩
    rw [valuesUnder_eq]
    exact List.mem_filterMap.2 ⟨entries, he, hchild⟩
  | .sequence rules, sources, source, hs, fragment => by
    rw [keepMet, walk_sequence, walk_sequence]
    refine .foldlM (fun item hi => walkItems_keepMet location 0 rules ?_) _
    exact List.mem_flatMap.2 ⟨source, hs, hi⟩
  | .null, _, _, _, _ | .bool _, _, _, _, _ | .number _, _, _, _, _ | .text _, _, _, _, _ =>
    .refl _
termination_by structural template => template

theorem walkEntries_keepMet (location : List String) : ∀ (rules : List (String × Tree))
    {sources : List Tree} {source : Entries},
    (∀ key child, source.lookup key = some child → child ∈ sources.flatMap (valuesUnder key)) →
      ∀ fragment,
        Alike id (walkEntries es mode .body location (keepMetEntries sources rules) source fragment)
          (walkEntries es mode .body location rules source fragment)
  | [], _, _, _, fragment => .refl (.ok fragment)
  | (key, rule) :: rules, sources, source, hs, fragment => by
    have hrest := walkEntries_keepMet location rules hs
    rw [keepMetEntries, walkEntries, lookupIn_body]
    split
    · next hnone =>
      have hmissing : source.lookup key = none := by
        refine Option.eq_none_iff_forall_ne_some.2 fun child hchild => ?_
        have hmem := hs key child hchild
        rw [List.isEmpty_iff.1 hnone] at hmem
        cases hmem
      rw [hmissing]
      exact hrest fragment
    · rw [walkEntries, lookupIn_body]
      cases hchild : source.lookup key with
      | none => exact hrest fragment
      | some child => exact .bind (walk_keepMet _ rule (hs key child hchild) fragment) hrest
termination_by structural rules => rules

theorem walkItems_keepMet (location : List String) (index : Nat) : ∀ (rules : List Tree)
    {sources : List Tree} {item : Tree}, item ∈ sources → ∀ fragment,
      Alike id
        (walkItems es mode .body location index (keepMetItems sources rules) item fragment)
        (walkItems es mode .body location index rules item fragment)
  | [], _, _, _, fragment => .refl (.ok fragment)
  | rule :: rules, _, _, hs, fragment => by
    rw [keepMetItems, walkItems, walkItems]
    exact .bind (walk_keepMet _ rule hs fragment)
      (walkItems_keepMet location (index + 1) rules hs)
termination_by structural rules => rules

end

theorem fragmentOf_keepMet (reply : Reply) (rules : ResponseRules) :
    Alike id (fragmentOf es mode reply (rules.keepMet reply.body))
      (fragmentOf es mode reply rules) := by
  refine .bind (.refl _) fun fragment => ?_
  rw [ResponseRules.keepMet]
  cases rules.body with
  | none => exact .refl _
  | some template => exact walk_keepMet [] template List.mem_cons_self fragment

theorem mapReply_keepMet (options : MappingOptions) (reply : Reply) (ruleSets : List ResponseRules)
    (target : Tree) :
    mapReply es options reply (ruleSets.map (·.keepMet reply.body)) target =
      mapReply es options reply ruleSets target := by
  have hsame :
      (mapReply es options reply (ruleSets.map (·.keepMet reply.body)) target).mapFailure id =
        (mapReply es options reply ruleSets target).mapFailure id :=
    mapReply_change (fragmentOf_keepMet reply) (fun _ => rfl) ruleSets target
  rwa [Folded.mapFailure_id, Folded.mapFailure_id] at hsame

end

/-- Header templates that are the same up to the case of their keys leave the same target behind, and
fail alike but for the place of an expression. A body template makes the same without the keys that
no mapping beside it has just so. -/
theorem mapReply_matches_keys (es : Evaluators) (options : MappingOptions) (reply : Reply)
    (target : Tree) :
    ((mapping reply.headers).KeysApart → ∀ ruleSets ruleSets' : List ResponseRules,
        ruleSets.map ResponseRules.lowered = ruleSets'.map ResponseRules.lowered →
          (mapReply es options reply ruleSets target).unlocated =
            (mapReply es options reply ruleSets' target).unlocated) ∧
      ∀ ruleSets : List ResponseRules,
        mapReply es options reply (ruleSets.map (·.keepMet reply.body)) target =
          mapReply es options reply ruleSets target := by
  constructor
  · intro h ruleSets ruleSets' hsame
    rw [← mapReply_lowered h options ruleSets target, hsame,
      mapReply_lowered h options ruleSets' target]
  · intro ruleSets
    exact mapReply_keepMet options reply ruleSets target

def naming : Evaluators :=
  Evaluators.none.insert (fun expression bound => .ok (some (.mapping [(expression, bound)])))
    .sandbox

theorem mapReply_matches_keys_links :
    let reply : Reply := ⟨[("x-total", .text "17"), ("Link", .sequence [.null,
      .mapping [("rel", .text "next")]])], .mapping [("count", .int 1), ("Count", .int 2)]⟩
    let rules (total link rel : String) (body : Entries) : ResponseRules :=
      ⟨some (.mapping [(total, .text "\x7b\x7b total \x7d\x7d"),
        (link, .mapping [(rel, .text "\x7b\x7b rel \x7d\x7d")])]), some (.mapping body), none⟩
    let counted := ("Count", Tree.text "\x7b\x7b count \x7d\x7d")
    let body := [("COUNT", .text "\x7b\x7b lost \x7d\x7d"), counted]
    let result := Tree.mapping [("total", .text "17"), ("rel", .text "next"), ("count", .int 2)]
    (mapping reply.headers).KeysApart ∧
      (mapReply naming .standard reply [rules "X-Total" "LINK" "Rel" body] .null).unlocated =
        ⟨result, none⟩ ∧
      mapReply naming .standard reply [rules "x-total" "Link" "rel" [counted]] .null =
        ⟨result, none⟩ := by
  intro reply rules counted body result
  have hapart : (mapping reply.headers).KeysApart := by decide
  have hexact : mapReply naming .standard reply [rules "x-total" "Link" "rel" body] .null =
      ⟨result, none⟩ := rfl
  have hkeys : lowerKey "X-Total" = lowerKey "x-total" ∧ lowerKey "LINK" = lowerKey "Link" ∧
      lowerKey "Rel" = lowerKey "rel" := by decide
  have hrecased : [rules "X-Total" "LINK" "Rel" body].map ResponseRules.lowered =
      [rules "x-total" "Link" "rel" body].map ResponseRules.lowered := by
    simp [rules, ResponseRules.lowered, lowered, loweredEntries, hkeys]
  obtain ⟨hheaders, hbody⟩ := mapReply_matches_keys naming .standard reply .null
  refine ⟨hapart, ?_, ?_⟩
  · exact (hheaders hapart _ _ hrecased).trans (congrArg Folded.unlocated hexact)
  · exact (hbody [rules "x-total" "Link" "rel" body]).trans hexact

end Mapping

end ActionBridge
