import ActionBridge.Proofs.AddedSegments
import ActionBridge.Proofs.BaseUrls
import ActionBridge.Proofs.RequestParts

namespace ActionBridge

open Text

namespace Mapping

namespace RequestParts

variable {es : Evaluators} {mode : EvalMode} {rules : RequestRules} {action : Tree}
variable {parts : RequestParts}

def visibleTexts (parts : RequestParts) : List (List Char) :=
  (parts.texts.flatten.map String.toList).filter (!Url.isDots ·)

def ArePlain (parts : RequestParts) : Prop :=
  ∀ text ∈ parts.texts.flatten, ¬Url.HidesDots text.toList ∧
    (Url.schemeKind parts.base.scheme = .file → ¬Url.NamesDrive text.toList)

theorem AreOf.extended_path (h : parts.AreOf es mode rules action)
    (htexts : parts.texts.flatten ≠ []) (hplain : parts.ArePlain) :
    ∃ segments, parts.base.path = .segments segments ∧
      parts.extended.path = .segments (Url.continueWith (Url.withoutFinalEmpty segments)
        (parts.visibleTexts.map (Url.segmentOf (Url.schemeKind parts.base.scheme)))) := by
  have hfile := (Url.parse_ok h.base_ok).2
  have hadded : parts.base.appendSegments? parts.texts.flatten = some parts.extended :=
    ((withPieces_ok h.extended).resolve_left fun hnone => htexts hnone.1).2
  obtain ⟨segments, hpath, hextended⟩ := Url.appendSegments?_eq_some hadded
  refine ⟨segments, hpath, ?_⟩
  have hpieces : ∀ piece ∈ parts.texts.flatten.map String.toList, ¬Url.HidesDots piece ∧
      (Url.schemeKind parts.base.scheme = .file → ¬Url.NamesDrive piece) := by
    intro piece hpiece
    obtain ⟨text, htext, rfl⟩ := List.mem_map.1 hpiece
    exact hplain text htext
  have hstart : Url.schemeKind parts.base.scheme = .file →
      (Url.UrlPath.segments (Url.withoutFinalEmpty segments)).startsEmpty = false := by
    intro hkind
    have hbase := hfile hkind
    rw [hpath] at hbase
    exact Url.withoutFinalEmpty_startsEmpty hbase
  rw [hextended]
  exact congrArg Url.UrlPath.segments (Url.foldl_pushSegment hstart hpieces)

end RequestParts

variable {es : Evaluators} {mode : EvalMode} {rules : RequestRules} {action : Tree}

/-- The segments of a request are those of its base, and behind them one for each text of the path
that is not a dot or two. It decodes to that text without tabs and line ends. -/
theorem mapRequest_path {request : Request}
    (hrequest : mapRequest es mode rules action = .ok request) :
    ∃ parts : RequestParts, parts.AreOf es mode rules action ∧
      request.url = (parts.url rules).toText ∧
      UrlParts.ofText? request.url = some (parts.url rules).parts ∧
      (parts.texts.flatten = [] → (parts.url rules).path = parts.base.path) ∧
      (parts.texts.flatten ≠ [] → parts.ArePlain →
        ∃ segments added, parts.base.path = .segments segments ∧
          splitAtChar '/' (parts.url rules).path.toText =
            [] :: Url.continueWith (Url.withoutFinalEmpty segments) added ∧
          added.map Url.percentDecode =
            parts.visibleTexts.map fun text => encodeUtf8 (Url.withoutBreaks text)) := by
  obtain ⟨parts, hparts, rfl⟩ := mapRequest_ok_iff.1 hrequest
  have hseparable := hparts.separable
  refine ⟨parts, hparts, rfl, hseparable.ofText?_toText, ?_, ?_⟩
  · intro htexts
    have hextended := (withPieces_ok hparts.extended).resolve_right fun hsome => hsome.1 htexts
    rw [parts.url_path, hextended.2]
  · intro htexts hplain
    obtain ⟨segments, hbase, hpath⟩ := hparts.extended_path htexts hplain
    have hseparated := hseparable.path
    rw [parts.url_path, hpath] at hseparated
    refine ⟨segments, parts.visibleTexts.map (Url.segmentOf (Url.schemeKind parts.base.scheme)),
      hbase, ?_, ?_⟩
    · rw [parts.url_path, hpath]
      exact Url.splitAtChar_toText hseparated
    · rw [List.map_map]
      exact List.map_congr_left fun text _ => Url.percentDecode_segmentOf _ text

def pathRules (url : String) (entries : List String) : Tree :=
  .mapping [("url", .text url), ("path", .sequence (entries.map .text))]

def fieldEntry (name : String) : PathEntry :=
  ⟨fieldExpression name, .expression name, false⟩

def idsAction (ids : List String) : Tree :=
  .mapping [("ids", .sequence (ids.map .text))]

theorem mapRequest_path_nested :
    ∃ (rules : RequestRules) (request : Request) (parts : RequestParts),
      RequestRules.ofTree (pathRules "x://h/a/?k" ["/b//c", fieldExpression "ids"]) = .ok rules ∧
      mapRequest fieldReader .sandbox rules (idsAction ["../?", "é%2e", "", ".", "d\te"]) =
        .ok request ∧
      parts.texts.flatten = ["b", "c", "../?", "é%2e", "", ".", "d\te"] ∧
      ∃ segments added, parts.base.path = .segments segments ∧
        splitAtChar '/' (parts.url rules).path.toText =
          [] :: Url.continueWith (Url.withoutFinalEmpty segments) added ∧
        added.map Url.percentDecode =
          ["b", "c", "../?", "é%2e", "", "de"].map fun text => encodeUtf8 text.toList := by
  have hrequest : mapRequest fieldReader .sandbox ⟨"GET", "x://h/a/?k",
      [⟨"/b//c", .literal, false⟩, fieldEntry "ids"], [], [], none⟩ (idsAction ["../?", "é%2e", "", ".", "d\te"]) =
      .ok ⟨"GET", "x://h/a/b/c/..%2F%3F/%C3%A9%252e//de?k", .empty, none⟩ := rfl
  obtain ⟨parts, hparts, -, -, -, hsegments⟩ := mapRequest_path hrequest
  have htexts : parts.texts.flatten = ["b", "c", "../?", "é%2e", "", ".", "d\te"] :=
    (Except.ok.inj (pathPieces_ok_iff.2 ⟨_, hparts.texts, rfl⟩)).symm
  have hscheme : parts.base.scheme = "x" :=
    (congrArg Url.scheme (Prod.mk.inj (Except.ok.inj hparts.base)).2).symm
  have hplain : parts.ArePlain := by
    have hvisible : ∀ text ∈ ["b", "c", "../?", "é%2e", "", ".", "d\te"],
        ¬(Url.isDots text.toList = false ∧ Url.isDots (Url.withoutBreaks text.toList) = true) := by
      decide
    intro text htext
    rw [htexts] at htext
    refine ⟨hvisible text htext, fun hfile => ?_⟩
    rw [hscheme] at hfile
    cases hfile
  obtain ⟨segments, added, hbase, hpath, hadded⟩ := hsegments (by simp [htexts]) hplain
  refine ⟨_, _, parts, rfl, hrequest, htexts, segments, added, hbase, hpath, ?_⟩
  rw [hadded, RequestParts.visibleTexts, htexts]
  rfl

theorem mapRequest_path_drops_texts :
    ∃ (rules : RequestRules) (request : Request) (path : List Char),
      RequestRules.ofTree (pathRules "x://h/" [fieldExpression "ids"]) = .ok rules ∧
      mapRequest fieldReader .sandbox rules (idsAction ["", "..", "a\tb"]) = .ok request ∧
      PathGives fieldReader .sandbox (idsAction ["", "..", "a\tb"]) 0 rules.path
        [["", "..", "a\tb"]] ∧
      UrlParts.ofText? request.url = some ⟨['x'], some ['h'], path, none, none⟩ ∧
      splitAtChar '/' path = [[], ['a', 'b']] ∧
      ∀ kept added, added.map Url.percentDecode =
          ["", "..", "a\tb"].map (fun text => encodeUtf8 text.toList) →
        splitAtChar '/' path ≠ kept ++ added := by
  have hgives : EntryGives fieldReader .sandbox (idsAction ["", "..", "a\tb"]) 0 (fieldEntry "ids")
      ([.text "", .text "..", .text "a\tb"].map fieldText) := .items nofun rfl
  refine ⟨⟨"GET", "x://h/", [fieldEntry "ids"], [], [], none⟩,
    ⟨"GET", "x://h/ab", .empty, none⟩, ['/', 'a', 'b'], rfl, rfl, .cons hgives .nil, rfl, rfl, ?_⟩
  intro kept added hadded hpath
  have hthree : added.length = 3 := by
    simpa using congrArg List.length hadded
  have htwo : 2 = kept.length + added.length := by
    rw [← List.length_append, ← hpath]
    rfl
  omega

theorem EntryGives.eq_nil {index : Nat} {entry : PathEntry} {texts : List String}
    (h : EntryGives es mode action index entry texts) (hselector : entry.selector ≠ .literal)
    (hrequired : entry.isOptional = false) (hnil : texts = []) :
    entryValue es mode action index entry = .ok (some (.sequence [])) := by
  cases h with
  | literal hliteral => exact absurd hliteral hselector
  | items _ hvalue =>
    rw [List.map_eq_nil_iff.1 hnil] at hvalue
    exact hvalue
  | value => cases hnil
  | absent _ _ _ hoptional =>
    rw [hrequired] at hoptional
    cases hoptional

theorem mapRequest_stops_at_path {base : String × Url} {e : MappingError}
    (hbase : resolveBase es mode action rules.url = .ok base)
    (h : pathPieces es mode action 0 rules.path = .error e) :
    mapRequest es mode rules action = .error e := by
  have hurl : urlOf es mode rules action = .error e := by
    rw [urlOf, hbase]
    change pathPieces es mode action 0 rules.path >>= _ = _
    rw [h]
    rfl
  rw [mapRequest_eq, hurl]
  rfl

/-- An entry that has to have a value gives at least one text to the URL of a request, unless the
value is a sequence without items. The first such entry that has no value is named by the failure. -/
theorem mapRequest_required_entries (es : Evaluators) (mode : EvalMode) (rules : RequestRules)
    (action : Tree) :
    (∀ request, mapRequest es mode rules action = .ok request →
      ∃ parts : RequestParts, parts.AreOf es mode rules action ∧
        request.url = (parts.url rules).toText ∧
        List.Forall₂ (fun e texts => e.1.selector ≠ .literal → e.1.isOptional = false →
            texts ≠ [] ∨ entryValue es mode action e.2 e.1 = .ok (some (.sequence [])))
          rules.path.zipIdx parts.texts) ∧
    (∀ base before entry after texts r, resolveBase es mode action rules.url = .ok base →
      rules.path = before ++ entry :: after → PathGives es mode action 0 before texts →
      entry.selector ≠ .literal → entry.isOptional = false →
      entryValue es mode action before.length entry = .ok r → r = none ∨ r = some .null →
      mapRequest es mode rules action =
        .error (.missingField (RequestRules.entryLocation before.length) entry.raw)) := by
  constructor
  · intro request hrequest
    obtain ⟨parts, hparts, rfl⟩ := mapRequest_ok_iff.1 hrequest
    refine ⟨parts, hparts, rfl, hparts.texts.imp fun e texts hgives hselector hrequired => ?_⟩
    by_cases hnil : texts = []
    · exact .inr (hgives.eq_nil hselector hrequired hnil)
    · exact .inl hnil
  · intro base before entry after texts r hbase hpath hbefore hselector hrequired hvalue hnone
    apply mapRequest_stops_at_path hbase
    rw [hpath]
    apply pathPieces_stops hbefore
    rw [Nat.zero_add]
    exact entryPieces_missing hselector hvalue hnone hrequired

theorem mapRequest_required_entries_second :
    ∃ rules, RequestRules.ofTree
        (pathRules "x://h/users" [fieldExpression "ids", fieldExpression "name"]) = .ok rules ∧
      mapRequest fieldReader .sandbox rules (idsAction ["7"]) =
        .error (.missingField "path[1]" (fieldExpression "name")) ∧
      ∃ (request : Request) (parts : RequestParts),
        mapRequest fieldReader .sandbox rules (.mapping [("ids", .int 7), ("name", .text "")]) =
          .ok request ∧
        request.url = "x://h/users/7/" ∧ request.url = (parts.url rules).toText ∧
        ∀ texts ∈ parts.texts, texts ≠ [] := by
  have hrequest : mapRequest fieldReader .sandbox
      ⟨"GET", "x://h/users", [fieldEntry "ids", fieldEntry "name"], [], [], none⟩
      (.mapping [("ids", .int 7), ("name", .text "")]) =
      .ok ⟨"GET", "x://h/users/7/", .empty, none⟩ := rfl
  have hgives : EntryGives fieldReader .sandbox (idsAction ["7"]) 0 (fieldEntry "ids")
      ([.text "7"].map fieldText) := .items nofun rfl
  have hmissing := (mapRequest_required_entries fieldReader .sandbox
    ⟨"GET", "x://h/users", [fieldEntry "ids", fieldEntry "name"], [], [], none⟩
    (idsAction ["7"])).2 _ [fieldEntry "ids"] (fieldEntry "name") [] _ none rfl rfl
    (.cons hgives .nil) nofun rfl rfl (.inl rfl)
  obtain ⟨parts, -, hurl, htexts⟩ :=
    (mapRequest_required_entries fieldReader .sandbox _ _).1 _ hrequest
  refine ⟨_, rfl, hmissing, _, parts, hrequest, rfl, hurl, ?_⟩
  generalize parts.texts = texts at htexts
  rcases htexts with _ | ⟨hfirst, _ | ⟨hsecond, _ | _⟩⟩
  have hids := (hfirst nofun rfl).resolve_right nofun
  have hname := (hsecond nofun rfl).resolve_right nofun
  exact List.forall_mem_cons.2 ⟨hids, List.forall_mem_singleton.2 hname⟩

theorem mapRequest_drops_required_entry :
    ∃ (rules : RequestRules) (entry : PathEntry) (request : Request),
      RequestRules.ofTree (pathRules "x://h/users" [fieldExpression "ids"]) = .ok rules ∧
      rules.path = [entry] ∧ entry.selector ≠ .literal ∧ entry.isOptional = false ∧
      entryValue fieldReader .sandbox (idsAction []) 0 entry = .ok (some (.sequence [])) ∧
      mapRequest fieldReader .sandbox rules (idsAction []) = .ok request ∧
      request.url = "x://h/users" :=
  ⟨⟨"GET", "x://h/users", [fieldEntry "ids"], [], [], none⟩, fieldEntry "ids",
    ⟨"GET", "x://h/users", .empty, none⟩, rfl, rfl, nofun, rfl, rfl, rfl, rfl⟩

end Mapping

end ActionBridge
