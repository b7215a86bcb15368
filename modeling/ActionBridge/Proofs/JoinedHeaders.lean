import Mathlib.Data.List.Induction
import ActionBridge.Gateway.Dispatch
import ActionBridge.Proofs.Entries
import ActionBridge.Proofs.HeaderCase

namespace ActionBridge

/-! ### Entries from keys -/

def Entries.ofKeys (valueOf : String → Tree) (keys : List String) : Entries :=
  keys.map fun key => (key, valueOf key)

namespace Entries

variable {valueOf valueOf' : String → Tree} {keys : List String} {key : String} {value : Tree}

theorem keys_ofKeys (valueOf : String → Tree) (keys : List String) :
    (ofKeys valueOf keys).map (·.1) = keys := by
  simp [ofKeys, Function.comp_def]

theorem ofKeys_congr (h : ∀ k ∈ keys, valueOf k = valueOf' k) :
    ofKeys valueOf keys = ofKeys valueOf' keys := by
  apply List.map_congr_left
  intro k hk
  rw [h k hk]

theorem lookup_ofKeys_of_mem (h : key ∈ keys) :
    (ofKeys valueOf keys).lookup key = some (valueOf key) := by
  induction keys with
  | nil => cases h
  | cons first keys ih =>
    by_cases hk : key = first
    · subst hk
      simp [ofKeys]
    · have hne : (key == first) = false := beq_false_of_ne hk
      have hmem : key ∈ keys := (List.mem_cons.1 h).resolve_left hk
      rw [ofKeys, List.map_cons, List.lookup_cons, hne]
      exact ih hmem

theorem put_ofKeys_of_mem (h : key ∈ keys) (hnodup : keys.Nodup) (hself : valueOf' key = value)
    (hother : ∀ k, k ≠ key → valueOf' k = valueOf k) :
    (ofKeys valueOf keys).put key value = ofKeys valueOf' keys := by
  induction keys with
  | nil => cases h
  | cons first keys ih =>
    obtain ⟨hfirst, hrest⟩ := List.nodup_cons.1 hnodup
    simp only [ofKeys, List.map_cons, put]
    by_cases hk : first = key
    · subst hk
      have hsame : ofKeys valueOf keys = ofKeys valueOf' keys :=
        ofKeys_congr fun k hk => (hother k (ne_of_mem_of_not_mem hk hfirst)).symm
      rw [if_pos rfl, hself]
      exact congrArg _ hsame
    · have hmem : key ∈ keys := (List.mem_cons.1 h).resolve_left (Ne.symm hk)
      rw [if_neg hk, hother first hk]
      congr 1
      exact ih hmem hrest

theorem put_ofKeys_of_not_mem (h : key ∉ keys) (hself : valueOf' key = value)
    (hother : ∀ k, k ≠ key → valueOf' k = valueOf k) :
    (ofKeys valueOf keys).put key value = ofKeys valueOf' (keys ++ [key]) := by
  have hnew : key ∉ (ofKeys valueOf keys).map (·.1) := by
    rwa [keys_ofKeys]
  have hsame : ofKeys valueOf keys = ofKeys valueOf' keys :=
    ofKeys_congr fun k hk => (hother k (ne_of_mem_of_not_mem hk h)).symm
  rw [put_new hnew, hsame, ofKeys, ofKeys, List.map_append, List.map_singleton, hself]

end Entries

/-! ### Distinct names -/

theorem eraseDups_concat (names : List String) (name : String) :
    (names ++ [name]).eraseDups =
      if name ∈ names then names.eraseDups else names.eraseDups ++ [name] := by
  rw [List.eraseDups_append]
  by_cases h : name ∈ names
  · simp [List.removeAll, h]
  · simp [List.removeAll, h, List.eraseDups_cons]

theorem nodup_eraseDups (names : List String) : names.eraseDups.Nodup := by
  induction names using List.reverseRecOn with
  | nil => exact .nil
  | append_singleton names name ih =>
    rw [eraseDups_concat]
    by_cases h : name ∈ names
    · rwa [if_pos h]
    · have hnew : name ∉ names.eraseDups := mt List.mem_eraseDups.1 h
      rw [if_neg h]
      apply List.nodup_append.2
      refine ⟨ih, by simp, ?_⟩
      intro k hk k' hk'
      rw [List.mem_singleton.1 hk']
      exact fun heq => hnew (heq ▸ hk)

namespace Dispatch

def namesOf (headers : List (String × List UInt8)) : List String :=
  headers.map fun h => lowerKey h.1

def valuesOf (headers : List (String × List UInt8)) (name : String) : List String :=
  (headers.filter fun h => lowerKey h.1 = name).map fun h => String.ofList (Text.decodeLossy h.2)

def joinedValue (headers : List (String × List UInt8)) (name : String) : Tree :=
  .text (", ".intercalate (valuesOf headers name))

variable {headers : List (String × List UInt8)}

theorem valuesOf_concat (headers : List (String × List UInt8)) (h : String × List UInt8)
    (name : String) :
    valuesOf (headers ++ [h]) name =
      valuesOf headers name ++
        if lowerKey h.1 = name then [String.ofList (Text.decodeLossy h.2)] else [] := by
  by_cases hn : lowerKey h.1 = name <;> simp [valuesOf, hn]

theorem valuesOf_eq_nil_iff {name : String} : valuesOf headers name = [] ↔ name ∉ namesOf headers := by
  simp [valuesOf, namesOf]

theorem joinedValue_concat_of_mem {h : String × List UInt8} (hmem : lowerKey h.1 ∈ namesOf headers) :
    joinedValue (headers ++ [h]) (lowerKey h.1) =
      .text (", ".intercalate (valuesOf headers (lowerKey h.1)) ++ ", " ++
        String.ofList (Text.decodeLossy h.2)) := by
  have hne : valuesOf headers (lowerKey h.1) ≠ [] := by
    rw [ne_eq, valuesOf_eq_nil_iff, not_not]
    exact hmem
  rw [joinedValue, valuesOf_concat, if_pos rfl,
    String.intercalate_append_of_ne_nil hne (List.cons_ne_nil _ _), String.intercalate_singleton]

theorem joinedValue_concat_of_not_mem {h : String × List UInt8}
    (hmem : lowerKey h.1 ∉ namesOf headers) :
    joinedValue (headers ++ [h]) (lowerKey h.1) = .text (String.ofList (Text.decodeLossy h.2)) := by
  rw [joinedValue, valuesOf_concat, if_pos rfl, valuesOf_eq_nil_iff.2 hmem, List.nil_append,
    String.intercalate_singleton]

theorem joinedValue_concat_of_ne {h : String × List UInt8} {name : String}
    (hne : name ≠ lowerKey h.1) :
    joinedValue (headers ++ [h]) name = joinedValue headers name := by
  rw [joinedValue, valuesOf_concat, if_neg hne.symm, List.append_nil, joinedValue]

theorem headerEntries_concat (headers : List (String × List UInt8)) (h : String × List UInt8) :
    headerEntries (headers ++ [h]) =
      addHeader (headerEntries headers) (lowerKey h.1) (String.ofList (Text.decodeLossy h.2)) := by
  rw [headerEntries, List.foldl_append]
  rfl

theorem headerEntries_eq (headers : List (String × List UInt8)) :
    headerEntries headers = Entries.ofKeys (joinedValue headers) (namesOf headers).eraseDups := by
  induction headers using List.reverseRecOn with
  | nil => rfl
  | append_singleton headers h ih =>
    have hnames : namesOf (headers ++ [h]) = namesOf headers ++ [lowerKey h.1] := by
      simp [namesOf]
    have hother (name : String) (hne : name ≠ lowerKey h.1) :
        joinedValue (headers ++ [h]) name = joinedValue headers name :=
      joinedValue_concat_of_ne hne
    rw [headerEntries_concat, ih, hnames, eraseDups_concat, addHeader]
    by_cases hmem : lowerKey h.1 ∈ namesOf headers
    · have hmem' : lowerKey h.1 ∈ (namesOf headers).eraseDups := List.mem_eraseDups.2 hmem
      rw [if_pos hmem, Entries.lookup_ofKeys_of_mem hmem']
      exact Entries.put_ofKeys_of_mem hmem' (nodup_eraseDups _) (joinedValue_concat_of_mem hmem)
        hother
    · have hmem' : lowerKey h.1 ∉ (namesOf headers).eraseDups := mt List.mem_eraseDups.1 hmem
      have hnew : (Entries.ofKeys (joinedValue headers) (namesOf headers).eraseDups).lookup
          (lowerKey h.1) = none := by
        apply Entries.lookup_new
        rwa [Entries.keys_ofKeys]
      rw [if_neg hmem, hnew]
      exact Entries.put_ofKeys_of_not_mem hmem' (joinedValue_concat_of_not_mem hmem) hother

/-- Beside its status a reply has one header for each name, in the order in which the names come
first, with the values of the name in the order in which they have come. -/
theorem replyOf_headers (raw : RawReply) :
    let names := (namesOf raw.headers).eraseDups
    (replyOf raw).headers.filter (·.1 ≠ Reply.statusKey) =
        (names.filter (· ≠ Reply.statusKey)).map
          (fun name => (name, .text (", ".intercalate (valuesOf raw.headers name)))) ∧
      (replyOf raw).headers.lookup Reply.statusKey = some (.int raw.status) := by
  intro names
  refine ⟨?_, Entries.lookup_put_self _ _ _⟩
  rw [replyOf, Reply.ofStatus, Entries.filter_put (by simp), headerEntries_eq, Entries.ofKeys,
    List.filter_map]
  rfl

example :
    let bytes (s : String) := Text.encodeUtf8 s.toList
    (replyOf ⟨200, [("X-Trace", bytes "a"), ("Vary", bytes "x, y"), ("x-trace", bytes "b"),
        ("X-TRACE", [0xFF])], ""⟩).headers =
      [("x-trace", .text "a, b, \uFFFD"), ("vary", .text "x, y"), (":status", .int 200)] := by
  cbv

end Dispatch

end ActionBridge
