import ActionBridge.Proofs.Failures
import ActionBridge.Proofs.UrlEncoding
import ActionBridge.Proofs.UrlText
import ActionBridge.Url.Parser

namespace ActionBridge.Url

open Text

theorem isInner_of_eq_false {p : Char → Bool} {c : Char} (h : p c = false)
    (hslash : p '/' = true) (hquestion : p '?' = true) (hhash : p '#' = true) : IsInner c := by
  have hne : ∀ d, p d = true → c ≠ d := by
    intro d hd heq
    rw [heq, hd] at h
    cases h
  exact ⟨hne _ hslash, hne _ hquestion, hne _ hhash⟩

theorem codeChars_inner : AreInner codeChars :=
  forall_mem_of_all (by decide)

theorem isInner_digitChar : ∀ d < 16, IsInner d.digitChar := by decide

theorem toDigits_inner {base : Nat} (hone : 1 < base) (hbase : base ≤ 16) (n : Nat) :
    AreInner (Nat.toDigits base n) := by
  have hdigit : ∀ d < base, IsInner d.digitChar := by
    intro d hd
    exact isInner_digitChar d (by omega)
  exact forall_mem_toDigits hone hdigit n

theorem joinWith_inner {separator : List Char} {pieces : List (List Char)}
    (hs : AreInner separator) (hp : ∀ piece ∈ pieces, AreInner piece) :
    AreInner (joinWith separator pieces) :=
  forall_mem_joinWith hs hp

theorem percentEncode_inner {escaped : Char → Bool} (hslash : escaped '/' = true)
    (hquestion : escaped '?' = true) (hhash : escaped '#' = true) (cs : List Char) :
    AreInner (percentEncode escaped cs) := by
  apply forall_mem_percentEncode codeChars_inner
  intro c _ hc
  exact isInner_of_eq_false hc hslash hquestion hhash

theorem ipv4Text_inner (address : Nat) : AreInner (ipv4Text address) := by
  apply joinWith_inner
  · exact forall_mem_of_all (by decide)
  · intro piece hpiece
    simp only [List.mem_cons, List.not_mem_nil, or_false] at hpiece
    rcases hpiece with rfl | rfl | rfl | rfl <;> exact toDigits_inner (by omega) (by omega) _

theorem ipv6Text_inner (groups : List Nat) : AreInner (ipv6Text groups) := by
  have hhex : ∀ ns : List Nat, AreInner (joinWith [':'] (ns.map (Nat.toDigits 16))) := by
    intro ns
    apply joinWith_inner
    · exact forall_mem_of_all (by decide)
    · intro piece hpiece
      obtain ⟨n, -, rfl⟩ := List.mem_map.1 hpiece
      exact toDigits_inner (by omega) (by omega) n
  simp only [ipv6Text]
  split
  · exact hhex groups
  · apply AreInner.append
    · exact (hhex _).append (forall_mem_of_all (by decide))
    · exact hhex _

theorem bracketed_inner {cs : List Char} {host : Host} (h : bracketed cs = .ok host) :
    AreInner host.toText := by
  unfold bracketed at h
  split at h
  · cases h
  · split at h
    · cases h
      apply AreInner.cons
      · decide
      · exact (ipv6Text_inner _).append (forall_mem_of_all (by decide))
    · cases h

theorem domain?_inner {bytes : List UInt8} {cs : List Char} (h : domain? bytes = some cs) :
    AreInner cs := by
  simp only [domain?, Option.bind_eq_bind, Option.bind_eq_some_iff] at h
  obtain ⟨_, -, name, -, h⟩ := h
  split at h
  · cases h
  · rename_i hallowed
    cases h
    intro c hc
    have hfree : isForbidden c = false :=
      Bool.eq_false_iff.2 fun hforbidden => hallowed (List.any_eq_true.2 ⟨c, hc, hforbidden⟩)
    exact isInner_of_eq_false hfree rfl rfl rfl

theorem Host.ofDomain_inner {cs : List Char} {host : Host} (h : ofDomain cs = .ok host) :
    AreInner host.toText := by
  unfold ofDomain at h
  split at h
  · exact bracketed_inner h
  · split at h
    · cases h
    · cases h
    · rename_i hdomain
      split at h
      · split at h
        · cases h
          exact ipv4Text_inner _
        · cases h
      · cases h
        exact domain?_inner hdomain

theorem Host.ofPlain_inner {cs : List Char} {host : Host} (h : ofPlain cs = .ok host) :
    AreInner host.toText := by
  unfold ofPlain at h
  split at h
  · exact bracketed_inner h
  · split at h
    · cases h
    · rename_i hallowed
      cases h
      apply forall_mem_percentEncode codeChars_inner
      intro c hc _
      have hfree := Bool.eq_false_iff.2 fun hforbidden =>
        hallowed (List.any_eq_true.2 ⟨c, hc, hforbidden⟩)
      exact isInner_of_eq_false (p := fun c => c = '\x00' ||
        (isForbidden c && !isControl c && c ≠ '%')) hfree rfl rfl rfl

theorem ofHostName_inner {kind : SchemeKind} {cs : List Char} {host : Option Host}
    (h : ofHostName kind cs = .ok host) : ∀ named ∈ host, AreInner named.toText := by
  unfold ofHostName at h
  split at h
  · split at h
    · cases h
    · obtain ⟨named, hnamed, rfl⟩ := Except.map_ok_iff.1 h
      rintro _ ⟨⟩
      exact Host.ofDomain_inner hnamed
  · split at h
    · cases h
      exact nofun
    · obtain ⟨named, hnamed, rfl⟩ := Except.map_ok_iff.1 h
      rintro _ ⟨⟩
      exact Host.ofPlain_inner hnamed

theorem userInfoText_inner (cs : List Char) : AreInner (userInfoText cs) := by
  have hcoded : ∀ cs : List Char, AreInner (percentEncode inUserInfo cs) :=
    percentEncode_inner rfl rfl rfl
  simp only [userInfoText]
  split
  · exact hcoded _
  · apply AreInner.append
    · exact hcoded _
    · exact (hcoded _).cons (by decide)

theorem Authority.toText_inner {userInfo : List Char} {host : Option Host} (port : Option Nat)
    (hu : AreInner userInfo) (hh : ∀ named ∈ host, AreInner named.toText) :
    AreInner (Authority.mk userInfo host port).toText := by
  apply AreInner.append
  · apply AreInner.append
    · dsimp only
      split
      · exact .nil
      · exact hu.append (forall_mem_of_all (by decide))
    · cases host with
      | none => exact .nil
      | some named => exact hh named rfl
  · cases port with
    | none => exact .nil
    | some p => exact (toDigits_inner (by omega) (by omega) p).cons (by decide)

section

variable {isFile : Bool} {encode : List Char → List Char} {segments : List (List Char)}

theorem cutDrive?_eq_some {piece drive rest : List Char} (h : cutDrive? piece = some (drive, rest)) :
    (∃ letter, letter.isAlpha = true ∧ drive = [letter, ':']) ∧ ∀ c ∈ rest, c ∈ piece := by
  unfold cutDrive? at h
  split at h
  · rename_i letter cs hpiece
    split at h
    · rename_i b tail hcs
      simp only [Option.ite_none_right_eq_some, Option.some.injEq, Prod.mk.injEq,
        Bool.and_eq_true] at h
      obtain ⟨⟨⟨hletter, -⟩, -⟩, rfl, rfl⟩ := h
      constructor
      · exact ⟨letter, hletter, rfl⟩
      · intro c hc
        have htail : c ∈ cs.dropWhile isBreak := by
          rw [hcs]
          exact List.mem_cons_of_mem _ (List.mem_cons_of_mem _ (List.mem_filter.1 hc).1)
        have hwhole : c ∈ piece.dropWhile isBreak := by
          rw [hpiece]
          exact List.mem_cons_of_mem _ ((List.dropWhile_sublist _).mem htail)
        exact (List.dropWhile_sublist _).mem hwhole
    · cases h
  · cases h

theorem isInner_of_isAlpha {c : Char} (h : c.isAlpha = true) : IsInner c := by
  have hletter : (!c.isAlpha) = false := by rw [h]; rfl
  exact isInner_of_eq_false (p := fun c => !c.isAlpha) hletter rfl rfl rfl

theorem rootForm_inner {cs : List Char} (h : AreInner cs) :
    AreInner (rootForm isFile segments cs) := by
  unfold rootForm
  split
  · apply AreInner.append
    · intro c hc
      exact h c (List.mem_of_mem_take hc)
    · exact forall_mem_of_all (by decide)
  · exact h

theorem mem_of_mem_goBack {cs : List Char} (h : cs ∈ goBack segments) : cs ∈ segments := by
  unfold goBack at h
  split at h
  · split at h
    · exact h
    · exact (List.dropLast_sublist _).mem h
  · cases h

theorem addPiece_inner {piece : List Char} (hs : ∀ cs ∈ segments, AreInner cs)
    (hencode : ∀ cs, (∀ c ∈ cs, c ∈ piece) → AreInner (encode cs)) (isLast : Bool) :
    ∀ cs ∈ addPiece isFile encode segments piece isLast, AreInner cs := by
  have htext : AreInner (encode (withoutBreaks piece)) := by
    apply hencode
    intro c hc
    exact (List.mem_filter.1 hc).1
  have hfinal : ∀ cs ∈ (if isLast then [[]] else [] : List (List Char)), AreInner cs := by
    cases isLast <;> simp
  simp only [addPiece]
  split
  · rename_i drive rest hcut
    split at hcut
    · obtain ⟨⟨letter, hletter, rfl⟩, hrest⟩ := cutDrive?_eq_some hcut
      have hdrive : AreInner [letter, ':'] :=
        .cons (isInner_of_isAlpha hletter) (forall_mem_of_all (by decide))
      exact List.forall_mem_cons.2 ⟨hdrive, List.forall_mem_singleton.2 (hencode _ hrest)⟩
    · cases hcut
  · split
    · refine List.forall_mem_append.2 ⟨?_, hfinal⟩
      intro cs hcs
      exact hs cs (mem_of_mem_goBack hcs)
    · split
      · exact List.forall_mem_append.2 ⟨hs, hfinal⟩
      · exact List.forall_mem_append.2 ⟨hs, List.forall_mem_singleton.2 (rootForm_inner htext)⟩

theorem addPieces_inner {pieces : List (List Char)} (hs : ∀ cs ∈ segments, AreInner cs)
    (hencode : ∀ piece ∈ pieces, ∀ cs, (∀ c ∈ cs, c ∈ piece) → AreInner (encode cs)) :
    ∀ cs ∈ addPieces isFile encode segments pieces, AreInner cs := by
  fun_induction addPieces isFile encode segments pieces with
  | case1 => exact hs
  | case2 segments piece => exact addPiece_inner hs (hencode piece List.mem_cons_self) true
  | case3 segments piece pieces _ ih =>
    apply ih
    · exact addPiece_inner hs (hencode piece List.mem_cons_self) false
    · intro p hp
      exact hencode p (List.mem_cons_of_mem _ hp)

theorem dropLeadingEmpty_inner (hs : ∀ cs ∈ segments, AreInner cs) :
    ∀ cs ∈ dropLeadingEmpty segments, AreInner cs := by
  fun_induction dropLeadingEmpty segments with
  | case1 => exact List.forall_mem_singleton.2 .nil
  | case2 segments ih => exact ih (List.forall_mem_cons.1 hs).2
  | case3 => exact hs

theorem settle_inner (hs : ∀ cs ∈ segments, AreInner cs) :
    ∀ cs ∈ settle isFile segments, AreInner cs := by
  unfold settle
  split
  · exact dropLeadingEmpty_inner hs
  · exact hs

end

theorem percentEncode_inPath_inner {cs : List Char} (h : '/' ∉ cs) :
    AreInner (percentEncode inPath cs) := by
  apply forall_mem_percentEncode codeChars_inner
  intro c hc hplain
  by_cases hslash : c = '/'
  · exact absurd (hslash ▸ hc) h
  · refine isInner_of_eq_false (p := fun d => d = '/' || inPath d) ?_ rfl rfl rfl
    simp [hslash, hplain]

theorem rootedPath_separable (kind : SchemeKind) (cs : List Char) :
    (rootedPath kind cs).IsSeparable := by
  apply settle_inner
  apply addPieces_inner
  · exact nofun
  · intro piece hpiece cs hcs
    apply percentEncode_inPath_inner
    intro hslash
    exact not_mem_of_mem_splitAtChar hpiece (hcs '/' hslash)

theorem startsEmpty_dropLeadingEmpty (segments : List (List Char)) :
    (UrlPath.segments (dropLeadingEmpty segments)).startsEmpty = false := by
  fun_induction dropLeadingEmpty segments with
  | case1 => rfl
  | case2 segments ih => exact ih
  | case3 segments hnil hcons =>
    match segments with
    | [] => rfl
    | [] :: segments => exact absurd rfl (hcons segments)
    | (_ :: _) :: _ => rfl

theorem pathAfterAuthority_separable (kind : SchemeKind) (cs : List Char) :
    (pathAfterAuthority kind cs).IsSeparable ∧
      ∃ list, pathAfterAuthority kind cs = .segments list := by
  unfold pathAfterAuthority
  split
  · split
    · exact ⟨by simp [UrlPath.IsSeparable], _, rfl⟩
    · exact ⟨by simp [UrlPath.IsSeparable], _, rfl⟩
  · split
    · exact ⟨rootedPath_separable kind _, _, rfl⟩
    · exact ⟨rootedPath_separable kind _, _, rfl⟩

theorem assemble_separable {scheme : String} (hscheme : ':' ∉ scheme.toList) (kind : SchemeKind)
    {authority : Option Authority} {path : UrlPath}
    (ha : ∀ a ∈ authority, AreInner a.toText ∧ ∃ list, path = .segments list)
    (hp : path.IsSeparable) (rest : List Char) :
    (assemble scheme kind authority path rest).Separable where
  scheme := hscheme
  authority := ha
  path := hp
  apart := by
    intro hnone hapart
    simpa [assemble, show authority = none from hnone] using hapart
  query := by
    intro q hq
    simp only [assemble, endings] at hq
    split at hq
    · cases hq
      refine fun hc => forall_mem_percentEncode (P := (· ≠ '#')) (forall_mem_of_all (by decide))
        (fun c _ hplain => ?_) '#' hc rfl
      rintro rfl
      exact absurd hplain (by simp [inQuery])
    · cases hq

theorem afterSlashes_ok {scheme : String} (hscheme : ':' ∉ scheme.toList) {kind : SchemeKind}
    {cs : List Char} {u : Url} (h : afterSlashes scheme kind cs = .ok u) :
    u.scheme = scheme ∧ u.Separable := by
  simp only [afterSlashes, Except.guard_ok_iff, Except.bind_ok_iff] at h
  obtain ⟨-, host, hhost, -, port, -, -, h⟩ := h
  cases h
  refine ⟨rfl, assemble_separable hscheme kind ?_ (pathAfterAuthority_separable kind _).1 _⟩
  rintro _ ⟨⟩
  exact ⟨Authority.toText_inner port (userInfoText_inner _) (ofHostName_inner hhost),
    (pathAfterAuthority_separable kind _).2⟩

theorem fileHost_inner {cs rest : List Char} {host : Option Host}
    (h : fileHost cs = .ok (host, rest)) : ∀ named ∈ host, AreInner named.toText := by
  simp only [fileHost] at h
  split at h
  · cases h
    exact nofun
  · split at h
    · cases h
      exact nofun
    · split at h
      · cases h
      · rename_i named hnamed
        split at h
        · cases h
          exact nofun
        · cases h
          rintro _ ⟨⟩
          exact Host.ofDomain_inner hnamed

theorem fileUrl_ok {scheme : String} (hscheme : ':' ∉ scheme.toList) {cs : List Char} {u : Url}
    (h : fileUrl scheme cs = .ok u) :
    u.scheme = scheme ∧ u.Separable ∧ u.path.startsEmpty = false := by
  have hassembled : ∀ host text rest, (∀ named ∈ host, AreInner named.toText) →
      (assemble scheme .file (some ⟨[], host, none⟩) (rootedPath .file text) rest).Separable := by
    intro host text rest hhost
    refine assemble_separable hscheme .file ?_ (rootedPath_separable .file text) rest
    rintro _ ⟨⟩
    exact ⟨Authority.toText_inner none .nil hhost, _, rfl⟩
  simp only [fileUrl] at h
  split at h
  · obtain ⟨⟨host, text⟩, hhost, h⟩ := Except.bind_ok_iff.1 h
    cases h
    refine ⟨rfl, hassembled _ text _ ?_, startsEmpty_dropLeadingEmpty _⟩
    split
    · exact nofun
    · exact fileHost_inner hhost
  · cases h
    refine ⟨rfl, hassembled _ _ _ ?_, startsEmpty_dropLeadingEmpty _⟩
    split <;> exact nofun

theorem rootless_separable {cs : List Char} (h : cs.head? ≠ some '/') :
    (UrlPath.rootless (percentEncode isControl (beforeQuery cs).1)).IsSeparable := by
  refine ⟨forall_mem_percentEncode (forall_mem_of_all (by decide)) fun c hc _ => ?_, ?_⟩
  · have hinside := List.all_eq_true.1 List.all_takeWhile c hc
    simpa using hinside
  · refine head?_percentEncode_ne (by decide) fun hhead => ?_
    rw [beforeQuery, cut, List.head?_takeWhile, Option.filter_eq_some_iff] at hhead
    exact h hhead.1

theorem plainUrl_ok {scheme : String} (hscheme : ':' ∉ scheme.toList) {cs : List Char} {u : Url}
    (h : plainUrl scheme cs = .ok u) : u.scheme = scheme ∧ u.Separable := by
  unfold plainUrl at h
  split at h
  · exact afterSlashes_ok hscheme h
  · cases h
    exact ⟨rfl, assemble_separable hscheme .plain (by simp) (rootedPath_separable .plain _) _⟩
  · rename_i hslash
    cases h
    refine ⟨rfl, assemble_separable hscheme .plain (by simp) (rootless_separable ?_) _⟩
    intro hhead
    obtain ⟨rest, rfl⟩ := List.head?_eq_some_iff.1 hhead
    exact hslash rest rfl

theorem scheme?_ok {cs rest : List Char} {scheme : String} (h : scheme? cs = some (scheme, rest)) :
    ':' ∉ scheme.toList := by
  unfold scheme? at h
  split at h
  · split at h
    · split at h
      · cases h
        rw [String.toList_ofList]
        intro hcolon
        obtain ⟨c, hc, hcolon⟩ := List.mem_map.1 hcolon
        have hscheme := List.all_eq_true.1 List.all_takeWhile c hc
        -- no capital letter has a colon as its small letter
        rcases eq_or_upper_of_toLower hcolon with rfl | ⟨hsum, hlow, -⟩
        · exact absurd hscheme (by decide)
        · have hcode : ':'.toNat = 58 := rfl
          omega
      · cases h
    · cases h
  · cases h

theorem parse_ok {s : String} {u : Url} (h : parse s = .ok u) :
    u.Separable ∧ (schemeKind u.scheme = .file → u.path.startsEmpty = false) := by
  unfold parse at h
  split at h
  · cases h
  · rename_i scheme cs hscheme
    have hcolon := scheme?_ok hscheme
    split at h
    · obtain ⟨-, hseparable, hpath⟩ := fileUrl_ok hcolon h
      exact ⟨hseparable, fun _ => hpath⟩
    · rename_i hkind
      obtain ⟨rfl, hseparable⟩ := afterSlashes_ok hcolon h
      exact ⟨hseparable, fun hfile => by simp [hkind] at hfile⟩
    · rename_i hkind
      obtain ⟨rfl, hseparable⟩ := plainUrl_ok hcolon h
      exact ⟨hseparable, fun hfile => by simp [hkind] at hfile⟩

end ActionBridge.Url
