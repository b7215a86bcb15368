import ActionBridge.Proofs.EncodedTexts
import ActionBridge.Proofs.UrlEncoding
import ActionBridge.Proofs.UrlText
import ActionBridge.Url.Extend

namespace ActionBridge.Url

open Text

def plusAsSpace (c : Char) : Char :=
  if c = '+' then ' ' else c

def formDecode (cs : List Char) : List Char :=
  decodeLossy (percentDecode (cs.map plusAsSpace))

def pairOf (piece : List Char) : String × String :=
  let (name, value) := cutAt '=' piece
  (String.ofList (formDecode name), String.ofList (formDecode (value.getD [])))

def formPairs (query : List Char) : List (String × String) :=
  ((splitAtChar '&' query).filter (!·.isEmpty)).map pairOf

theorem map_plusAsSpace {cs : List Char} (h : ∀ c ∈ cs, c ≠ '+') : cs.map plusAsSpace = cs := by
  have hid : ∀ c ∈ cs, plusAsSpace c = id c := fun c hc => if_neg (h c hc)
  rw [List.map_congr_left hid, List.map_id]

theorem percentDecode_formEncode (cs : List Char) :
    percentDecode ((formEncode cs).map plusAsSpace) = encodeUtf8 cs := by
  induction cs with
  | nil => rfl
  | cons c cs ih =>
    rw [formEncode, List.flatMap_cons, List.map_append, encodeUtf8, List.flatMap_cons]
    change percentDecode (_ ++ (formEncode cs).map _) = _ ++ encodeUtf8 cs
    rw [← ih]
    by_cases hblank : c = ' '
    · rw [if_pos hblank, hblank]
      exact percentDecode_plain (by decide) _
    rw [if_neg hblank]
    by_cases hplain : isFormPlain c = true
    · have hplus : c ≠ '+' := by
        rintro rfl
        exact absurd hplain (by decide)
      have hpercent : c ≠ '%' := by
        rintro rfl
        exact absurd hplain (by decide)
      rw [if_pos hplain, List.map_singleton, plusAsSpace, if_neg hplus, List.singleton_append,
        percentDecode_plain hpercent]
    · have hcode : ∀ d ∈ percentChar c, d ≠ '+' := by
        rintro d hd rfl
        exact absurd (mem_codeChars_of_mem_percentChar hd) (by decide)
      rw [if_neg hplain, map_plusAsSpace hcode, percentChar, percentDecode_bytes]

theorem formDecode_formEncode (cs : List Char) : formDecode (formEncode cs) = cs := by
  rw [formDecode, percentDecode_formEncode, decodeLossy_encodeUtf8]

theorem not_mem_formEncode {c : Char} (hcode : c ∉ codeChars) (hplus : c ≠ '+')
    (hplain : isFormPlain c = false) (cs : List Char) : c ∉ formEncode cs := by
  intro hc
  refine forall_mem_formEncode (P := (· ≠ c)) ?_ hplus.symm ?_ cs c hc rfl
  · rintro d hd rfl
    exact hcode hd
  · rintro d hd rfl
    rw [hplain] at hd
    cases hd

theorem formPairs_pairText (pair : String × String) : formPairs (pairText pair) = [pair] := by
  have hname : '=' ∉ formEncode pair.1.toList :=
    not_mem_formEncode (by decide) (by decide) (by decide) _
  have hand : ∀ cs, '&' ∉ formEncode cs := not_mem_formEncode (by decide) (by decide) (by decide)
  have hpair : '&' ∉ pairText pair := by
    simp [pairText, hand]
  have hkept : [pairText pair].filter (!·.isEmpty) = [pairText pair] := by
    simp [pairText]
  have hcut : cutAt '=' (pairText pair) =
      (formEncode pair.1.toList, some (formEncode pair.2.toList)) := cutAt_append hname _
  rw [formPairs, splitAtChar_of_not_mem hpair, hkept, List.map_singleton, pairOf, hcut]
  simp only [Option.getD_some, formDecode_formEncode, String.ofList_toList]

theorem formPairs_append (query rest : List Char) :
    formPairs (query ++ '&' :: rest) = formPairs query ++ formPairs rest := by
  rw [formPairs, splitAtChar_append, List.filter_append, List.map_append]
  rfl

theorem formPairs_joinWith (pieces : List (List Char)) :
    formPairs (joinWith ['&'] pieces) = pieces.flatMap formPairs := by
  fun_induction joinWith ['&'] pieces with
  | case1 => rfl
  | case2 piece => rw [List.flatMap_singleton]
  | case3 piece pieces _ ih =>
    rw [List.append_assoc, List.singleton_append, formPairs_append, ih, List.flatMap_cons]

theorem formPairs_appendPairs (u : Url) (pairs : List (String × String)) :
    formPairs ((u.appendPairs pairs).query.getD []) = formPairs (u.query.getD []) ++ pairs := by
  have hadded : (pairs.map pairText).flatMap formPairs = pairs := by
    rw [List.flatMap_map]
    simp only [formPairs_pairText, List.flatMap_singleton']
  rw [appendPairs, Option.getD_some, formPairs_joinWith, List.flatMap_append, hadded]
  congr 1
  match u.query with
  | none => rfl
  | some [] => rfl
  | some (c :: cs) => rw [List.flatMap_singleton, Option.getD_some]

end ActionBridge.Url
