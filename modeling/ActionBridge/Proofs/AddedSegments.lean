import ActionBridge.Proofs.ExtendedUrls
import ActionBridge.Proofs.Pieces

namespace ActionBridge.Url

open Text

def isDots (piece : List Char) : Bool :=
  piece = ['.'] || piece = ['.', '.']

/-- Tabs or line ends keep the piece from being passed over. -/
def HidesDots (piece : List Char) : Prop :=
  isDots piece = false ∧ isDots (withoutBreaks piece) = true

/-- At the root of a file system the piece is taken for a drive letter that is written otherwise, or
for one with more behind it. -/
def NamesDrive (piece : List Char) : Prop :=
  (∃ letter : Char, letter.isAlpha = true ∧ withoutBreaks piece = [letter, '|']) ∨
    (cutDrive? piece).isSome = true

def segmentOf (kind : SchemeKind) (piece : List Char) : List Char :=
  percentEncode (inSegment kind.isSpecial) (withoutBreaks piece)

/-- Segments with more behind them. The root alone gives way to the first one that is not empty. -/
def continueWith (start added : List (List Char)) : List (List Char) :=
  if added = [] then start
  else if start = [] ∨ start = [[]] then dropLeadingEmpty added
  else start ++ added

theorem percentDecode_segmentOf (kind : SchemeKind) (piece : List Char) :
    percentDecode (segmentOf kind piece) = encodeUtf8 (withoutBreaks piece) :=
  percentDecode_percentEncode rfl _

theorem eq_of_isDot_percentEncode {escaped : Char → Bool} (hpercent : escaped '%' = true)
    {cs : List Char} (h : isDot (percentEncode escaped cs) = true) : cs = ['.'] := by
  have hdecoded := percentDecode_percentEncode hpercent cs
  rw [← List.append_nil (percentEncode escaped cs), percentDecode_dot h] at hdecoded
  have hdot : encodeUtf8 ['.'] = encodeUtf8 cs := hdecoded
  exact (encodeUtf8_inj hdot).symm

theorem isAlpha_ne_percent {c : Char} (h : c.isAlpha = true) : c ≠ '%' := by
  rintro rfl
  exact absurd h (by decide)

theorem eq_of_isDriveLetter_percentEncode {escaped : Char → Bool} (hpercent : escaped '%' = true)
    {cs : List Char} (h : isDriveLetter (percentEncode escaped cs) = true) :
    ∃ letter mark : Char, letter.isAlpha = true ∧ (mark = ':' ∨ mark = '|') ∧
      cs = [letter, mark] ∧ percentEncode escaped cs = [letter, mark] := by
  have hdecoded := percentDecode_percentEncode hpercent cs
  unfold isDriveLetter at h
  split at h
  · rename_i letter mark hcs
    simp only [Bool.and_eq_true, Bool.or_eq_true, decide_eq_true_eq] at h
    have hmark : mark ≠ '%' := by
      rcases h.2 with rfl | rfl <;> decide
    rw [hcs, percentDecode_plain (isAlpha_ne_percent h.1), percentDecode_plain hmark] at hdecoded
    have hpair : encodeUtf8 [letter, mark] = encodeUtf8 cs := hdecoded
    exact ⟨letter, mark, h.1, h.2, (encodeUtf8_inj hpair).symm, hcs⟩
  · cases h

theorem rootForm_segmentOf {isFile : Bool} {segments : List (List Char)} {piece : List Char}
    (kind : SchemeKind) (hdrive : isFile = true → ¬NamesDrive piece) :
    rootForm isFile segments (segmentOf kind piece) = segmentOf kind piece := by
  unfold rootForm
  split
  · rename_i hroot
    simp only [Bool.and_eq_true] at hroot
    obtain ⟨letter, mark, hletter, hmark, hpiece, hsegment⟩ :=
      eq_of_isDriveLetter_percentEncode rfl hroot.2
    rcases hmark with rfl | rfl
    · rw [segmentOf, hsegment]
      rfl
    · exact absurd (.inl ⟨letter, hletter, hpiece⟩) (hdrive hroot.1.1)
  · rfl

theorem addPiece_eq (kind : SchemeKind) (segments : List (List Char)) {isFile : Bool}
    {piece : List Char} (hdots : isDots (withoutBreaks piece) = false)
    (hdrive : isFile = true → ¬NamesDrive piece) :
    addPiece isFile (percentEncode (inSegment kind.isSpecial)) segments piece true =
      segments ++ [segmentOf kind piece] := by
  simp only [isDots, Bool.or_eq_false_iff, decide_eq_false_iff_not] at hdots
  have hdot : isDot (segmentOf kind piece) ≠ true :=
    fun h => hdots.1 (eq_of_isDot_percentEncode rfl h)
  have hdouble : isDoubleDot (segmentOf kind piece) ≠ true :=
    fun h => hdots.2 (eq_of_isDoubleDot_percentEncode rfl h)
  have hcut : (if isFile && segments.isEmpty then cutDrive? piece else none) = none := by
    split
    · rename_i hroot
      simp only [Bool.and_eq_true] at hroot
      have hwhole : (cutDrive? piece).isSome ≠ true := fun h => hdrive hroot.1 (.inr h)
      simpa using hwhole
    · rfl
  simp only [addPiece, hcut]
  change (if isDoubleDot (segmentOf kind piece) then _ else
    if isDot (segmentOf kind piece) then _ else
      segments ++ [rootForm isFile segments (segmentOf kind piece)]) = _
  rw [if_neg hdouble, if_neg hdot, rootForm_segmentOf kind hdrive]

section

variable {kind : SchemeKind} {segments : List (List Char)} {piece : List Char}

theorem dropLeadingEmpty_concat (h : segments.head? ≠ some []) (last : List Char) :
    dropLeadingEmpty (segments ++ [last]) = segments ++ [last] := by
  match segments, h with
  | [], _ => cases last <;> rfl
  | [] :: _, h => exact absurd rfl h
  | (_ :: _) :: _, _ => rfl

theorem pushSegment_of_isDots (h : isDots piece = true) :
    pushSegment kind segments piece = segments :=
  if_pos h

theorem pushSegment_eq
    (hstart : kind = .file → (UrlPath.segments segments).startsEmpty = false)
    (hdots : isDots piece = false) (hhidden : ¬HidesDots piece)
    (hdrive : kind = .file → ¬NamesDrive piece) :
    pushSegment kind segments piece =
      (if segments = [[]] then [] else segments) ++ [segmentOf kind piece] := by
  have hplain : isDots (withoutBreaks piece) = false :=
    Bool.eq_false_iff.2 fun hbreaks => hhidden ⟨hdots, hbreaks⟩
  have hpass : ¬(piece = ['.'] || piece = ['.', '.']) = true := by
    change ¬isDots piece = true
    rw [hdots]
    exact Bool.false_ne_true
  have hadded := addPiece_eq kind (if segments = [[]] then [] else segments) hplain
    fun h : decide (kind = .file) = true => hdrive (of_decide_eq_true h)
  rw [pushSegment, if_neg hpass]
  simp only [hadded, settle]
  split
  · rename_i hfile
    exact dropLeadingEmpty_concat (head?_base_ne (hstart (of_decide_eq_true hfile))) _
  · rfl

end

theorem continueWith_cons (start : List (List Char)) (cs : List Char) (added : List (List Char)) :
    continueWith ((if start = [[]] then [] else start) ++ [cs]) added =
      continueWith start (cs :: added) := by
  have hadded : cs :: added ≠ [] := List.cons_ne_nil _ _
  by_cases hroot : start = [] ∨ start = [[]]
  · have hbase : (if start = [[]] then [] else start) = [] := by
      rcases hroot with rfl | rfl <;> rfl
    rw [hbase, List.nil_append, continueWith, continueWith, if_neg hadded, if_pos hroot]
    cases cs with
    -- an empty segment is the root again
    | nil =>
      cases added with
      | nil => rfl
      | cons next added => rfl
    | cons c cs =>
      have hne : ¬([c :: cs] = [] ∨ [c :: cs] = [[]]) := by simp
      cases added with
      | nil => rfl
      | cons next added => rw [if_neg (List.cons_ne_nil _ _), if_neg hne]; rfl
  · obtain ⟨hnil, hempty⟩ := not_or.1 hroot
    have hne : ¬(start ++ [cs] = [] ∨ start ++ [cs] = [[]]) := by
      simp [List.append_eq_cons_iff, hnil]
    rw [if_neg hempty, continueWith, continueWith, if_neg hadded, if_neg hne, if_neg hroot,
      List.append_assoc, List.singleton_append]
    split
    · rename_i hadded
      rw [hadded]
    · rfl

theorem foldl_pushSegment {kind : SchemeKind} {segments pieces : List (List Char)}
    (hstart : kind = .file → (UrlPath.segments segments).startsEmpty = false)
    (hpieces : ∀ piece ∈ pieces, ¬HidesDots piece ∧ (kind = .file → ¬NamesDrive piece)) :
    pieces.foldl (pushSegment kind) segments =
      continueWith segments ((pieces.filter (!isDots ·)).map (segmentOf kind)) := by
  induction pieces generalizing segments with
  | nil => rfl
  | cons piece pieces ih =>
    obtain ⟨hpiece, hothers⟩ := List.forall_mem_cons.1 hpieces
    have hrest := ih (fun h => pushSegment_startsEmpty (hstart h) kind piece) hothers
    rw [List.foldl_cons, hrest]
    cases hdots : isDots piece with
    | true => rw [pushSegment_of_isDots hdots, List.filter_cons_of_neg (by simp [hdots])]
    | false =>
      rw [pushSegment_eq hstart hdots hpiece.1 hpiece.2, continueWith_cons,
        List.filter_cons_of_pos (by simp [hdots]), List.map_cons]

theorem splitAtChar_toText {segments : List (List Char)}
    (h : (UrlPath.segments segments).IsSeparable) :
    splitAtChar '/' (UrlPath.segments segments).toText = [] :: segments :=
  splitAtChar_flatMap List.not_mem_nil fun cs hcs hslash => (h cs hcs '/' hslash).1 rfl

end ActionBridge.Url
