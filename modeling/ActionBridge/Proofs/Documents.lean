import ActionBridge.Gateway.Dispatch
import ActionBridge.Mapping.Reply
import ActionBridge.Proofs.RuleChecks
import ActionBridge.Proofs.WellFormedness

namespace ActionBridge

namespace Tree

theorem ofList_wellFormed {entries : List (String × Tree)} (h : ∀ e ∈ entries, e.2.WellFormed) :
    (mapping (Entries.ofList entries)).WellFormed := by
  apply List.foldlRecOn (motive := fun acc => (mapping acc).WellFormed) entries
  · exact wellFormed_empty
  · intro acc hacc e he
    exact put_wellFormed hacc (h e he)

namespace Reader

section

variable {item : List Char → Option (Tree × List Char)}

theorem items?_wellFormed (hitem : ∀ cs t rest, item cs = some (t, rest) → t.WellFormed)
    {fuel : Nat} {cs rest : List Char} {items : List Tree}
    (h : items? item fuel cs = some (items, rest)) : ∀ t ∈ items, t.WellFormed := by
  induction fuel generalizing cs items with
  | zero => cases h
  | succ fuel ih =>
    obtain ⟨⟨t, after⟩, ht, h⟩ := Option.bind_eq_some_iff.1 h
    dsimp only at h
    split at h
    · obtain ⟨⟨others, _⟩, hothers, h⟩ := Option.bind_eq_some_iff.1 h
      cases h
      exact List.forall_mem_cons.2 ⟨hitem cs t after ht, ih hothers⟩
    · cases h
      exact List.forall_mem_singleton.2 (hitem cs t after ht)
    · cases h

theorem entries?_wellFormed (hitem : ∀ cs t rest, item cs = some (t, rest) → t.WellFormed)
    {fuel : Nat} {cs rest : List Char} {entries : List (String × Tree)}
    (h : entries? item fuel cs = some (entries, rest)) : ∀ e ∈ entries, e.2.WellFormed := by
  induction fuel generalizing cs entries with
  | zero => cases h
  | succ fuel ih =>
    obtain ⟨⟨k, cs⟩, -, h⟩ := Option.bind_eq_some_iff.1 h
    obtain ⟨⟨t, after⟩, ht, h⟩ := Option.bind_eq_some_iff.1 h
    dsimp only at h
    split at h
    · obtain ⟨⟨others, _⟩, hothers, h⟩ := Option.bind_eq_some_iff.1 h
      cases h
      exact List.forall_mem_cons.2 ⟨hitem cs t after ht, ih hothers⟩
    · cases h
      exact List.forall_mem_singleton.2 (hitem cs t after ht)
    · cases h

end

theorem value?_wellFormed {depth : Nat} {cs rest : List Char} {t : Tree}
    (h : value? depth cs = some (t, rest)) : t.WellFormed := by
  induction depth using Nat.strongRecOn generalizing cs t rest with
  | ind depth deeper =>
    revert h
    fun_cases value? depth cs with
    | case1 | case2 | case3 | case6 =>
      rintro ⟨⟩
      trivial
    | case5 | case8 => rintro ⟨⟩
    | case4 | case11 =>
      intro h
      obtain ⟨_, -, h⟩ := Option.map_eq_some_iff.1 h
      cases h
      trivial
    | case7 =>
      intro h
      obtain ⟨⟨items, _⟩, hitems, h⟩ := Option.map_eq_some_iff.1 h
      cases h
      have hitem := items?_wellFormed (fun _ _ _ => deeper _ (Nat.lt_succ_self _)) hitems
      exact wellFormed_sequence_iff.2 hitem
    | case9 =>
      rintro ⟨⟩
      exact wellFormed_empty
    | case10 =>
      intro h
      obtain ⟨⟨entries, _⟩, hentries, h⟩ := Option.map_eq_some_iff.1 h
      cases h
      have hentry := entries?_wellFormed (fun _ _ _ => deeper _ (Nat.lt_succ_self _)) hentries
      exact ofList_wellFormed hentry

end Reader

theorem read?_wellFormed {s : String} {t : Tree} (h : read? s = some t) : t.WellFormed := by
  unfold read? at h
  split at h
  · next u rest hu =>
    split at h
    · cases h
      exact Reader.value?_wellFormed hu
    · cases h
  · cases h

end Tree

open ActionBridge.Tree

structure Reply.WellFormed (reply : Reply) : Prop where
  headers : (Tree.mapping reply.headers).WellFormed
  body : reply.body.WellFormed

def ResponseRules.WellFormed (rules : ResponseRules) : Prop :=
  ∀ defaults, rules.defaults = some defaults → (Tree.mapping defaults).WellFormed

theorem ResponseRules.ofTree_wellFormed {t : Tree} (ht : t.WellFormed) {rules : ResponseRules}
    (h : ResponseRules.ofTree t = .ok rules) : rules.WellFormed := by
  obtain ⟨entries, rfl, hread⟩ := ofTree_ok h
  intro defaults hdefaults
  have hread : readDefaults entries = .ok (some defaults) := hdefaults ▸ hread.defaults
  unfold readDefaults at hread
  split at hread
  · cases hread
  · next hheld =>
    cases hread
    exact wellFormed_of_lookup ht (Rule.lookup_of_present hheld)
  · cases hread

theorem ResponseRules.ofTrees_wellFormed {ts : List Tree} (hts : ∀ t ∈ ts, t.WellFormed)
    {ruleSets : List ResponseRules} (h : ResponseRules.ofTrees ts = .ok ruleSets) :
    ∀ rules ∈ ruleSets, rules.WellFormed := by
  intro rules hrules
  obtain ⟨t, ht, hread⟩ := exists_of_mem_ofTrees h rules hrules
  exact ofTree_wellFormed (hts t ht) hread

namespace Dispatch

theorem addHeader_wellFormed {headers : Entries} (h : (mapping headers).WellFormed)
    (name value : String) : (mapping (addHeader headers name value)).WellFormed := by
  unfold addHeader
  split
  · exact put_wellFormed h trivial
  · exact put_wellFormed h trivial

theorem headerEntries_wellFormed (headers : List (String × List UInt8)) :
    (mapping (headerEntries headers)).WellFormed := by
  apply List.foldlRecOn (motive := fun acc => (mapping acc).WellFormed) headers
  · exact wellFormed_empty
  · intro acc hacc header _
    exact addHeader_wellFormed hacc _ _

theorem bodyTree_wellFormed (isJson : Bool) (body : String) :
    (bodyTree isJson body).WellFormed := by
  unfold bodyTree
  split
  · trivial
  · split
    · cases h : Tree.read? body with
      | none => trivial
      | some t => exact read?_wellFormed h
    · trivial

theorem replyOf_wellFormed (raw : RawReply) : (replyOf raw).WellFormed where
  headers := put_wellFormed (headerEntries_wellFormed raw.headers) trivial
  body := bodyTree_wellFormed _ _

end Dispatch

end ActionBridge
