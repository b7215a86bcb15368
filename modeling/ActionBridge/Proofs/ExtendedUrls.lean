import ActionBridge.Proofs.ParsedUrls
import ActionBridge.Url.Extend

namespace ActionBridge

theorem Text.prefix_joinWith (separator piece : List Char) (pieces : List (List Char)) :
    piece <+: joinWith separator (piece :: pieces) := by
  cases pieces with
  | nil => exact List.prefix_rfl
  | cons next pieces =>
    change piece <+: piece ++ separator ++ joinWith separator (next :: pieces)
    rw [List.append_assoc]
    exact List.prefix_append _ _

namespace Url

open Text

/-- The segments that stay in front of those that are added: all but an empty one at the end, and
not the empty one that is the root alone. -/
def keptSegments (segments : List (List Char)) : List (List Char) :=
  if withoutFinalEmpty segments = [[]] then [] else withoutFinalEmpty segments

def UrlPath.GoesOn (path base : UrlPath) : Prop :=
  path = base ∨ ∃ segments added, base = .segments segments ∧
    path = .segments (keptSegments segments ++ added)

/-- A piece of two dots that tabs or line ends keep apart from each other or from its ends. -/
def IsHiddenDoubleDot (piece : String) : Prop :=
  piece ≠ ".." ∧ withoutBreaks piece.toList = ['.', '.']

section Dots

theorem percentDecode_dot {cs : List Char} (h : isDot cs = true) (rest : List Char) :
    percentDecode (cs ++ rest) = String.utf8EncodeChar '.' ++ percentDecode rest := by
  have hsame : ∀ {c d : Char}, c.toLower = d → d.toNat < 97 → c = d := by
    intro c d hc hd
    rcases eq_or_upper_of_toLower hc with rfl | ⟨hsum, hlow, -⟩
    · rfl
    · omega
  simp only [isDot, Bool.or_eq_true, decide_eq_true_eq] at h
  rcases h with h | h
  · obtain ⟨a, _, rfl, ha, h⟩ := List.map_eq_cons_iff.1 h
    obtain rfl := List.map_eq_nil_iff.1 h
    rw [hsame ha (by decide)]
    exact percentDecode_plain (by decide) rest
  · have hletters : cs.map Char.toLower = ['%', '2', 'e'] := h
    obtain ⟨a, _, rfl, ha, h⟩ := List.map_eq_cons_iff.1 hletters
    obtain ⟨b, _, rfl, hb, h⟩ := List.map_eq_cons_iff.1 h
    obtain ⟨c, _, rfl, hc, h⟩ := List.map_eq_cons_iff.1 h
    obtain rfl := List.map_eq_nil_iff.1 h
    rw [hsame ha (by decide), hsame hb (by decide)]
    rcases eq_or_upper_of_toLower hc with rfl | ⟨hsum, -, -⟩
    · rfl
    · have hcode : 'e'.toNat = 'E'.toNat + 32 := rfl
      have hletter : c = 'E' := Char.toNat_inj.1 (by omega)
      rw [hletter]
      rfl

theorem isDoubleDot_eq_append {cs : List Char} (h : isDoubleDot cs = true) :
    ∃ first second, cs = first ++ second ∧ isDot first = true ∧ isDot second = true := by
  have hsplit : ∀ first second : List Char, (first = ['.'] ∨ first = "%2e".toList) →
      (second = ['.'] ∨ second = "%2e".toList) → cs.map Char.toLower = first ++ second →
      ∃ first second, cs = first ++ second ∧ isDot first = true ∧ isDot second = true := by
    intro first second hfirst hsecond heq
    obtain ⟨a, b, rfl, rfl, rfl⟩ := List.map_eq_append_iff.1 heq
    exact ⟨a, b, rfl, by simpa [isDot] using hfirst, by simpa [isDot] using hsecond⟩
  simp only [isDoubleDot, Bool.or_eq_true, decide_eq_true_eq] at h
  rcases h with ((h | h) | h) | h
  · exact hsplit ['.'] ['.'] (.inl rfl) (.inl rfl) h
  · exact hsplit ['.'] "%2e".toList (.inl rfl) (.inr rfl) h
  · exact hsplit "%2e".toList ['.'] (.inr rfl) (.inl rfl) h
  · exact hsplit "%2e".toList "%2e".toList (.inr rfl) (.inr rfl) h

theorem eq_of_isDoubleDot_percentEncode {escaped : Char → Bool} (hpercent : escaped '%' = true)
    {cs : List Char} (h : isDoubleDot (percentEncode escaped cs) = true) : cs = ['.', '.'] := by
  obtain ⟨first, second, heq, hfirst, hsecond⟩ := isDoubleDot_eq_append h
  have hdecoded := percentDecode_percentEncode hpercent cs
  rw [heq, percentDecode_dot hfirst, ← List.append_nil second, percentDecode_dot hsecond] at hdecoded
  have hdots : encodeUtf8 ['.', '.'] = encodeUtf8 cs := hdecoded
  exact (encodeUtf8_inj hdots).symm

end Dots

section Front

variable {segments : List (List Char)}

theorem startsEmpty_eq_false_iff :
    (UrlPath.segments segments).startsEmpty = false ↔
      segments = [[]] ∨ segments.head? ≠ some [] := by
  match segments with
  | [] => simp [UrlPath.startsEmpty]
  | [[]] => simp [UrlPath.startsEmpty]
  | [] :: _ :: _ => simp [UrlPath.startsEmpty]
  | (_ :: _) :: _ => simp [UrlPath.startsEmpty]

theorem startsEmpty_concat (h : segments.head? ≠ some []) (last : List Char) :
    (UrlPath.segments (segments ++ [last])).startsEmpty = false := by
  match segments, h with
  | [], _ => cases last <;> rfl
  | [] :: _, h => exact absurd rfl h
  | (_ :: _) :: _, _ => rfl

theorem head?_dropLast_ne (h : segments.head? ≠ some []) : segments.dropLast.head? ≠ some [] := by
  match segments, h with
  | [], h => exact h
  | [_], _ => exact nofun
  | _ :: _ :: _, h => exact h

theorem head?_goBack_ne (h : segments.head? ≠ some []) : (goBack segments).head? ≠ some [] := by
  unfold goBack
  split
  · split
    · exact h
    · exact head?_dropLast_ne h
  · exact nofun

theorem head?_withoutFinalEmpty_ne (h : segments.head? ≠ some []) :
    (withoutFinalEmpty segments).head? ≠ some [] := by
  unfold withoutFinalEmpty
  split
  · exact head?_dropLast_ne h
  · exact h

theorem addPiece_startsEmpty (h : segments.head? ≠ some []) (isFile : Bool)
    (encode : List Char → List Char) (piece : List Char) :
    (UrlPath.segments (addPiece isFile encode segments piece true)).startsEmpty = false := by
  simp only [addPiece, if_true]
  split
  · rename_i drive rest hcut
    split at hcut
    · obtain ⟨⟨letter, -, rfl⟩, -⟩ := cutDrive?_eq_some hcut
      rfl
    · cases hcut
  · split
    · exact startsEmpty_concat (head?_goBack_ne h) []
    · split
      · exact startsEmpty_concat h []
      · exact startsEmpty_concat h _

theorem head?_base_ne (h : (UrlPath.segments segments).startsEmpty = false) :
    (if segments = [[]] then [] else segments).head? ≠ some [] := by
  split
  · exact nofun
  · rename_i hroot
    exact (startsEmpty_eq_false_iff.1 h).resolve_left hroot

theorem pushSegment_startsEmpty (h : (UrlPath.segments segments).startsEmpty = false)
    (kind : SchemeKind) (piece : List Char) :
    (UrlPath.segments (pushSegment kind segments piece)).startsEmpty = false := by
  unfold pushSegment
  split
  · exact h
  · simp only [settle]
    split
    · exact startsEmpty_dropLeadingEmpty _
    · exact addPiece_startsEmpty (head?_base_ne h) _ _ piece

theorem withoutFinalEmpty_startsEmpty (h : (UrlPath.segments segments).startsEmpty = false) :
    (UrlPath.segments (withoutFinalEmpty segments)).startsEmpty = false := by
  rcases startsEmpty_eq_false_iff.1 h with rfl | hhead
  · rfl
  · exact startsEmpty_eq_false_iff.2 (.inr (head?_withoutFinalEmpty_ne hhead))

end Front

section Kept

variable {start segments : List (List Char)}

theorem prefix_dropLeadingEmpty (hstart : start.head? ≠ some []) (h : start <+: segments) :
    start <+: dropLeadingEmpty segments := by
  match start, hstart with
  | [], _ => exact List.nil_prefix
  | [] :: _, hstart => exact absurd rfl hstart
  | (c :: cs) :: start, _ =>
    obtain ⟨rest, rfl⟩ := h
    exact List.prefix_append _ _

theorem addPiece_front (h : start <+: segments) (isFile : Bool) {encode : List Char → List Char}
    {piece : List Char} (hpiece : isDoubleDot (encode (withoutBreaks piece)) ≠ true) :
    start <+: addPiece isFile encode segments piece true := by
  simp only [addPiece]
  split
  · rename_i hcut
    split at hcut
    · rename_i hempty
      simp only [Bool.and_eq_true, List.isEmpty_iff] at hempty
      rw [hempty.2] at h
      rw [List.prefix_nil.1 h]
      exact List.nil_prefix
    · cases hcut
  · split
    · contradiction
    · split
      · exact h.trans (List.prefix_append _ _)
      · exact h.trans (List.prefix_append _ _)

theorem prefix_base (hroot : start ≠ [[]]) (h : start <+: segments) :
    start <+: if segments = [[]] then [] else segments := by
  split
  · rename_i hsegments
    rw [hsegments, List.prefix_cons_iff] at h
    rcases h with rfl | ⟨tail, rfl, htail⟩
    · exact List.nil_prefix
    · exact absurd (congrArg _ (List.prefix_nil.1 htail)) hroot
  · exact h

theorem pushSegment_front {kind : SchemeKind} (hroot : start ≠ [[]])
    (hfile : kind = .file → start.head? ≠ some []) (h : start <+: segments) {piece : List Char}
    (hpiece : withoutBreaks piece = ['.', '.'] → piece = ['.', '.']) :
    start <+: pushSegment kind segments piece := by
  unfold pushSegment
  split
  · exact h
  · rename_i hdots
    simp only [Bool.or_eq_true, decide_eq_true_eq, not_or] at hdots
    have hbase := prefix_base hroot h
    -- two dots were passed over before, so only dots with breaks among them could go back
    have hforward : isDoubleDot (percentEncode (inSegment kind.isSpecial) (withoutBreaks piece)) ≠
        true := by
      intro hback
      exact hdots.2 (hpiece (eq_of_isDoubleDot_percentEncode rfl hback))
    have hadded := addPiece_front hbase (decide (kind = .file)) hforward
    simp only [settle]
    split
    -- the path of a file loses what is empty in front, which the segments that stay are not
    · rename_i hkind
      exact prefix_dropLeadingEmpty (hfile (of_decide_eq_true hkind)) hadded
    · exact hadded

theorem foldl_pushSegment_front {kind : SchemeKind} (hroot : start ≠ [[]])
    (hfile : kind = .file → start.head? ≠ some []) (h : start <+: segments) {pieces : List String}
    (hpieces : ∀ piece ∈ pieces, ¬IsHiddenDoubleDot piece) :
    start <+: (pieces.map String.toList).foldl (pushSegment kind) segments := by
  induction pieces generalizing segments with
  | nil => exact h
  | cons piece pieces ih =>
    apply ih
    · apply pushSegment_front hroot hfile h
      intro hbreaks
      by_cases hdots : piece = ".."
      · rw [hdots]
        rfl
      · exact absurd ⟨hdots, hbreaks⟩ (hpieces piece List.mem_cons_self)
    · intro other hother
      exact hpieces other (List.mem_cons_of_mem _ hother)

theorem keptSegments_ne_root (segments : List (List Char)) : keptSegments segments ≠ [[]] := by
  unfold keptSegments
  split
  · exact nofun
  · assumption

theorem keptSegments_front (segments : List (List Char)) :
    keptSegments segments <+: withoutFinalEmpty segments := by
  unfold keptSegments
  split
  · exact List.nil_prefix
  · exact List.prefix_rfl

theorem head?_keptSegments_ne (h : (UrlPath.segments segments).startsEmpty = false) :
    (keptSegments segments).head? ≠ some [] := by
  have hstart := startsEmpty_eq_false_iff.1 (withoutFinalEmpty_startsEmpty h)
  unfold keptSegments
  split
  · exact nofun
  · rename_i hroot
    exact hstart.resolve_left hroot

end Kept

theorem percentEncode_inSegment_inner (special : Bool) (cs : List Char) :
    AreInner (percentEncode (inSegment special) cs) := by
  exact percentEncode_inner rfl rfl rfl cs

theorem pushSegment_inner {segments : List (List Char)}
    (h : ∀ cs ∈ segments, AreInner cs) (kind : SchemeKind) (piece : List Char) :
    ∀ cs ∈ pushSegment kind segments piece, AreInner cs := by
  unfold pushSegment
  split
  · exact h
  · apply settle_inner
    apply addPiece_inner
    · split
      · exact nofun
      · exact h
    · intro cs _
      exact percentEncode_inSegment_inner _ cs

theorem pairText_free (pair : String × String) : ∀ c ∈ pairText pair, c ≠ '#' := by
  have hcoded : ∀ cs, ∀ c ∈ formEncode cs, c ≠ '#' := by
    refine forall_mem_formEncode (forall_mem_of_all (by decide)) (by decide) fun c hc => ?_
    rintro rfl
    exact absurd hc (by decide)
  refine List.forall_mem_append.2 ⟨hcoded _, List.forall_mem_cons.2 ⟨by decide, hcoded _⟩⟩

variable {u built : Url}

theorem appendSegments?_eq_some {pieces : List String} (h : u.appendSegments? pieces = some built) :
    ∃ segments, u.path = .segments segments ∧
      built = { u with path := .segments ((pieces.map String.toList).foldl
        (pushSegment (schemeKind u.scheme)) (withoutFinalEmpty segments)) } := by
  unfold appendSegments? at h
  split at h
  · cases h
  · rename_i segments hpath
    exact ⟨segments, hpath, (Option.some.inj h).symm⟩

theorem Separable.appendSegments? (h : u.Separable) {pieces : List String}
    (hbuilt : u.appendSegments? pieces = some built) : built.Separable := by
  obtain ⟨segments, hpath, rfl⟩ := appendSegments?_eq_some hbuilt
  have hinner : ∀ cs ∈ segments, AreInner cs := by
    have hseparable := h.path
    rwa [hpath] at hseparable
  have hbase : ∀ cs ∈ withoutFinalEmpty segments, AreInner cs := by
    unfold withoutFinalEmpty
    split
    · intro cs hcs
      exact hinner cs ((List.dropLast_sublist _).mem hcs)
    · exact hinner
  refine ⟨h.scheme, fun a ha => ⟨(h.authority a ha).1, _, rfl⟩, ?_, fun hnone hapart => ?_, h.query⟩
  · exact List.foldlRecOn _ _ (motive := fun list => ∀ cs ∈ list, AreInner cs) hbase
      fun list hlist piece _ => pushSegment_inner hlist _ piece
  · have hstart := h.apart hnone hapart
    rw [hpath] at hstart
    exact List.foldlRecOn _ _ (motive := fun list => (UrlPath.segments list).startsEmpty = false)
      (withoutFinalEmpty_startsEmpty hstart)
      fun list hlist piece _ => pushSegment_startsEmpty hlist _ piece

theorem Separable.appendPairs (h : u.Separable) (pairs : List (String × String)) :
    (u.appendPairs pairs).Separable := by
  refine ⟨h.scheme, h.authority, h.path, h.apart, ?_⟩
  rintro _ ⟨⟩ hhash
  refine forall_mem_joinWith (P := (· ≠ '#')) (forall_mem_of_all (by decide))
    (fun piece hpiece => ?_) '#' hhash rfl
  rcases List.mem_append.1 hpiece with hheld | hadded
  · split at hheld
    · rename_i c cs hquery
      rw [List.mem_singleton.1 hheld]
      rintro d hd rfl
      exact h.query _ hquery hd
    · cases hheld
  · obtain ⟨pair, -, rfl⟩ := List.mem_map.1 hadded
    exact pairText_free pair

theorem appendSegments?_goesOn (hfile : schemeKind u.scheme = .file → u.path.startsEmpty = false)
    {pieces : List String} (hpieces : ∀ piece ∈ pieces, ¬IsHiddenDoubleDot piece)
    (h : u.appendSegments? pieces = some built) : built.path.GoesOn u.path := by
  obtain ⟨segments, hpath, rfl⟩ := appendSegments?_eq_some h
  have hhead : schemeKind u.scheme = .file → (keptSegments segments).head? ≠ some [] := by
    intro hkind
    have hstart := hfile hkind
    rw [hpath] at hstart
    exact head?_keptSegments_ne hstart
  obtain ⟨added, hadded⟩ := foldl_pushSegment_front (keptSegments_ne_root segments) hhead
    (keptSegments_front segments) hpieces
  exact .inr ⟨segments, added, hpath, congrArg _ hadded.symm⟩

theorem appendPairs_query (pairs : List (String × String)) :
    ∀ q ∈ u.query, ∃ q' ∈ (u.appendPairs pairs).query, q <+: q' := by
  rintro q hq
  refine ⟨_, rfl, ?_⟩
  cases q with
  | nil => exact List.nil_prefix
  | cons c cs =>
    simp only [show u.query = some (c :: cs) from hq, List.singleton_append]
    exact prefix_joinWith _ _ _

end Url

end ActionBridge
