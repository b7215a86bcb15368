import ActionBridge.Proofs.BaseUrls
import ActionBridge.Proofs.FormFields
import ActionBridge.Proofs.RequestParts

namespace ActionBridge.Mapping

variable {es : Evaluators} {mode : EvalMode} {rules : RequestRules} {action : Tree}

theorem formPairs_withPairs (u : Url) (pairs : List (String × String)) :
    Url.formPairs ((withPairs u pairs).query.getD []) =
      Url.formPairs (u.query.getD []) ++ pairs := by
  unfold withPairs
  split
  · rename_i hempty
    rw [List.isEmpty_iff.1 hempty, List.append_nil]
  · exact Url.formPairs_appendPairs u pairs

namespace RequestParts

variable {parts : RequestParts}

theorem AreOf.extended_ends (h : parts.AreOf es mode rules action) :
    parts.extended.query = parts.base.query ∧ parts.extended.fragment = parts.base.fragment := by
  rcases withPieces_ok h.extended with ⟨-, heq⟩ | ⟨-, hadded⟩
  · rw [heq]
    exact ⟨rfl, rfl⟩
  · obtain ⟨segments, -, heq⟩ := Url.appendSegments?_eq_some hadded
    rw [heq]
    exact ⟨rfl, rfl⟩

theorem AreOf.url_fragment (h : parts.AreOf es mode rules action) :
    (parts.url rules).fragment = parts.base.fragment := by
  rw [← h.extended_ends.2, url]
  rcases withPairs_cases parts.extended (pairsOf rules.query parts.queryValues) with heq | heq
  · rw [heq]
  · rw [heq]
    rfl

theorem AreOf.formPairs_url (h : parts.AreOf es mode rules action) :
    Url.formPairs ((parts.url rules).query.getD []) =
      Url.formPairs (parts.base.query.getD []) ++ pairsOf rules.query parts.queryValues := by
  rw [url, formPairs_withPairs, h.extended_ends.1]

end RequestParts

/-- The query of a request holds the pairs of its base and then those of the values that the rules
name, whatever characters they are made of. -/
theorem mapRequest_query {request : Request}
    (hrequest : mapRequest es mode rules action = .ok request) :
    ∃ (base : String × Url) (values : List (Option Tree)) (parts : UrlParts),
      resolveBase es mode action rules.url = .ok base ∧
      SectionHolds es mode action "query." rules.query values ∧
      UrlParts.ofText? request.url = some parts ∧ parts.fragment = base.2.fragment ∧
      Url.formPairs (parts.query.getD []) =
        Url.formPairs (base.2.query.getD []) ++ pairsOf rules.query values := by
  obtain ⟨parts, hparts, rfl⟩ := mapRequest_ok_iff.1 hrequest
  exact ⟨_, _, _, hparts.base, hparts.query, hparts.separable.ofText?_toText, hparts.url_fragment,
    hparts.formPairs_url⟩

def queryRules : Tree :=
  .mapping [("url", .text "x://h?a=1&#f"), ("query", .mapping [("é&", .text (fieldExpression "name")),
    ("gone", .text (fieldExpression "gone")), ("all", .text (fieldExpression "all"))])]

def queryAction : Tree :=
  .mapping [("name", .text "+%# =&"), ("all", .sequence [.null, .bool true, .text ""])]

theorem mapRequest_query_hostile :
    ∃ (rules : RequestRules) (request : Request) (parts : UrlParts),
      RequestRules.ofTree queryRules = .ok rules ∧
      mapRequest fieldReader .sandbox rules queryAction = .ok request ∧
      request.url = "x://h?a=1&&%C3%A9%26=%2B%25%23+%3D%26&all=true&all=#f" ∧
      UrlParts.ofText? request.url = some parts ∧ parts.fragment = some ['f'] ∧
      Url.formPairs (parts.query.getD []) =
        Url.formPairs "a=1&".toList ++ [("é&", "+%# =&"), ("all", "true"), ("all", "")] := by
  have hrequest : mapRequest fieldReader .sandbox ⟨"GET", "x://h?a=1&#f", [],
      [("é&", .text (fieldExpression "name")), ("gone", .text (fieldExpression "gone")),
        ("all", .text (fieldExpression "all"))], [], none⟩ queryAction = .ok ⟨"GET",
      "x://h?a=1&&%C3%A9%26=%2B%25%23+%3D%26&all=true&all=#f", .empty, none⟩ := rfl
  obtain ⟨base, values, parts, hbase, hvalues, hparts, hfragment, hpairs⟩ :=
    mapRequest_query hrequest
  have hends : base.2.query = some "a=1&".toList ∧ base.2.fragment = some ['f'] := by
    rw [← Except.ok.inj hbase]
    exact ⟨rfl, rfl⟩
  have hadded : pairsOf _ values = [("é&", "+%# =&"), ("all", "true"), ("all", "")] :=
    (Except.ok.inj (queryPairs_ok_iff.2 ⟨values, hvalues, rfl⟩)).symm
  rw [hends.1, hadded] at hpairs
  exact ⟨_, _, parts, rfl, hrequest, rfl, hparts, hfragment.trans hends.2, hpairs⟩

end ActionBridge.Mapping
