import ActionBridge.Proofs.RequestParts
/-!
Requests of rules whose base is written out. Whatever the values of an action are, nothing before the
path of the base changes. The path goes on from that of the base unless a value hides two dots among
tabs or line ends: `.`, tab, `.` takes `http://h/a/b` to `http://h/a/`.
-/

namespace ActionBridge

/-- What stays when a base is added to: everything before the path, the fragment, and the query up
to where more pairs follow. -/
structure Url.StaysAt (u base : Url) : Prop where
  scheme : u.scheme = base.scheme
  authority : u.authority = base.authority
  fragment : u.fragment = base.fragment
  query : ∀ q ∈ base.query, ∃ q' ∈ u.query, q <+: q'

namespace Url.StaysAt

theorem refl (u : Url) : u.StaysAt u :=
  ⟨rfl, rfl, rfl, fun q hq => ⟨q, hq, List.prefix_rfl⟩⟩

theorem trans {u v w : Url} (huv : u.StaysAt v) (hvw : v.StaysAt w) : u.StaysAt w where
  scheme := huv.scheme.trans hvw.scheme
  authority := huv.authority.trans hvw.authority
  fragment := huv.fragment.trans hvw.fragment
  query := by
    intro q hq
    obtain ⟨q', hq', hprefix⟩ := hvw.query q hq
    obtain ⟨q'', hq'', hprefix'⟩ := huv.query q' hq'
    exact ⟨q'', hq'', hprefix.trans hprefix'⟩

theorem appendSegments? {u built : Url} {pieces : List String}
    (h : u.appendSegments? pieces = some built) : built.StaysAt u := by
  obtain ⟨segments, -, rfl⟩ := appendSegments?_eq_some h
  exact ⟨rfl, rfl, rfl, fun q hq => ⟨q, hq, List.prefix_rfl⟩⟩

theorem appendPairs (u : Url) (pairs : List (String × String)) :
    (u.appendPairs pairs).StaysAt u :=
  ⟨rfl, rfl, rfl, appendPairs_query pairs⟩

end Url.StaysAt

namespace Mapping

variable {es : Evaluators} {mode : EvalMode} {rules : RequestRules} {action : Tree}

theorem resolveBase_literal {url : String} (h : Selector.ofText url = .ok .literal) :
    resolveBase es mode action url =
      match Url.parse url with
      | .ok u => .ok (url, u)
      | .error e => Rule.refuse (.baseUnreadable url e) := by
  have hselector : selectorOf (.text url) = .ok .literal := by
    rw [selectorOf, Selector.ofLeaf, h]
    rfl
  have hfield : resolveField es mode action "url" (.text url) = .ok (some (.text url)) := by
    rw [resolveField, resolveLeaf, hselector]
    rfl
  rw [resolveBase, hfield]
  rfl

theorem urlOf_ok {u : Url} (hliteral : Selector.ofText rules.url = .ok .literal)
    (h : urlOf es mode rules action = .ok u) :
    ∃ base pieces built pairs, Url.parse rules.url = .ok base ∧
      pathPieces es mode action 0 rules.path = .ok pieces ∧
      (built = base ∨ base.appendSegments? pieces = some built) ∧ u = withPairs built pairs := by
  rw [urlOf, resolveBase_literal hliteral] at h
  cases hparse : Url.parse rules.url with
  | error e =>
    rw [hparse] at h
    cases h
  | ok base =>
    rw [hparse] at h
    simp only [Except.bind_ok_iff] at h
    obtain ⟨_, hbase, pieces, hpieces, built, hbuilt, pairs, -, hu⟩ := h
    cases hbase
    exact ⟨base, pieces, built, pairs, rfl, hpieces,
      (withPieces_ok hbuilt).imp And.right And.right, (Except.ok.inj hu).symm⟩

/-- The URL of a request has the scheme, the authority and the fragment of a base that is written
out, its query begins with that of the base, and its text is taken apart into these parts again.
Its path goes on from that of the base as long as no piece hides two dots. A piece that does, such as
`.`, tab, `.`, moves the request off its base, and nothing is said about its path. -/
theorem mapRequest_staysAt_base {request : Request}
    (hliteral : Selector.ofText rules.url = .ok .literal)
    (hrequest : mapRequest es mode rules action = .ok request) :
    ∃ (base built : Url) (pieces : List String), Url.parse rules.url = .ok base ∧
      pathPieces es mode action 0 rules.path = .ok pieces ∧
      request.url = built.toText ∧ UrlParts.ofText? request.url = some built.parts ∧
      built.StaysAt base ∧
      ((∀ piece ∈ pieces, ¬Url.IsHiddenDoubleDot piece) → built.path.GoesOn base.path) := by
  obtain ⟨u, hu, htext⟩ := mapRequest_url hrequest
  obtain ⟨base, pieces, extended, pairs, hparse, hpieces, hextended, rfl⟩ := urlOf_ok hliteral hu
  obtain ⟨hseparable, hfile⟩ := Url.parse_ok hparse
  have hsegments : extended.Separable ∧ extended.StaysAt base ∧
      ((∀ piece ∈ pieces, ¬Url.IsHiddenDoubleDot piece) → extended.path.GoesOn base.path) := by
    rcases hextended with rfl | hadded
    · exact ⟨hseparable, .refl _, fun _ => .inl rfl⟩
    · exact ⟨hseparable.appendSegments? hadded, .appendSegments? hadded,
        fun hvisible => Url.appendSegments?_goesOn hfile hvisible hadded⟩
  obtain ⟨hseparable, hstays, hpath⟩ := hsegments
  refine ⟨base, withPairs extended pairs, pieces, hparse, hpieces, htext, ?_⟩
  rcases withPairs_cases extended pairs with heq | heq
  · rw [htext, heq]
    exact ⟨hseparable.ofText?_toText, hstays, hpath⟩
  · rw [htext, heq]
    exact ⟨(hseparable.appendPairs pairs).ofText?_toText,
      (Url.StaysAt.appendPairs extended pairs).trans hstays, hpath⟩

def openRules : Tree :=
  .mapping [("url", .text "x://me@h:81/a/?k=v#f"),
    ("path", .sequence [.text "\x7b\x7bname\x7d\x7d"]),
    ("query", .mapping [("y", .text "\x7b\x7bname\x7d\x7d")])]

def fieldReader : Evaluators :=
  Evaluators.none.insert (fun expression bound => .ok (bound.step? expression)) .sandbox

def fieldExpression (name : String) : String :=
  "\x7b\x7b" ++ name ++ "\x7d\x7d"

theorem mapRequest_staysAt_base_hostile :
    ∃ (rules : RequestRules) (request : Request) (base built : Url),
      RequestRules.ofTree openRules = .ok rules ∧ Selector.ofText rules.url = .ok .literal ∧
      mapRequest fieldReader .sandbox rules (.mapping [("name", .text "/../#?@")]) = .ok request ∧
      request.url = "x://me@h:81/a/%2F..%2F%23%3F@?k=v&y=%2F..%2F%23%3F%40#f" ∧
      Url.parse "x://me@h:81/a/?k=v#f" = .ok base ∧
      UrlParts.ofText? request.url = some built.parts ∧ built.StaysAt base ∧
      built.path.GoesOn base.path := by
  have hrules : RequestRules.ofTree openRules = .ok ⟨"GET", "x://me@h:81/a/?k=v#f",
      [⟨"\x7b\x7bname\x7d\x7d", .expression "name", false⟩],
      [("y", .text "\x7b\x7bname\x7d\x7d")], [], none⟩ := rfl
  have hrequest : mapRequest fieldReader .sandbox ⟨"GET", "x://me@h:81/a/?k=v#f",
      [⟨"\x7b\x7bname\x7d\x7d", .expression "name", false⟩],
      [("y", .text "\x7b\x7bname\x7d\x7d")], [], none⟩ (.mapping [("name", .text "/../#?@")]) =
      .ok ⟨"GET", "x://me@h:81/a/%2F..%2F%23%3F@?k=v&y=%2F..%2F%23%3F%40#f", .empty, none⟩ := rfl
  obtain ⟨base, built, pieces, hbase, hpieces, -, hparts, hstays, hpath⟩ :=
    mapRequest_staysAt_base rfl hrequest
  cases hpieces
  have hvisible : ∀ piece ∈ ["/../#?@"], ¬Url.IsHiddenDoubleDot piece := by
    intro piece hpiece
    rw [List.mem_singleton.1 hpiece]
    exact fun hhidden => absurd hhidden.2 (by decide)
  exact ⟨_, _, base, built, hrules, rfl, hrequest, rfl, hbase, hparts, hstays, hpath hvisible⟩

-- two dots around a tab take the last segment of the base away
example : (mapRequest fieldReader .sandbox ⟨"GET", "http://h/a/b",
    [⟨fieldExpression "name", .expression "name", false⟩], [], [], none⟩
    (.mapping [("name", .text ".\t.")])).toOption.map Request.url = some "http://h/a/" := by
  decide +kernel

def emptySegmentRules : Tree :=
  .mapping [("url", .text "x://h//"), ("path", .sequence [.text "y"])]

theorem mapRequest_root_gives_way :
    ∃ (rules : RequestRules) (request : Request) (base built : Url),
      RequestRules.ofTree emptySegmentRules = .ok rules ∧
      Selector.ofText rules.url = .ok .literal ∧
      mapRequest .none .sandbox rules (.mapping []) = .ok request ∧
      Url.parse rules.url = .ok base ∧ Url.parse request.url = .ok built ∧
      base.path = .segments [[], []] ∧ built.path = .segments [['y']] ∧
      ¬Url.withoutFinalEmpty [[], []] <+: [['y']] := by
  refine ⟨⟨"GET", "x://h//", [⟨"y", .literal, false⟩], [], [], none⟩,
    ⟨"GET", "x://h/y", .empty, none⟩,
    ⟨"x", some ⟨[], some (.name ['h']), none⟩, false, .segments [[], []], none, none⟩,
    ⟨"x", some ⟨[], some (.name ['h']), none⟩, false, .segments [['y']], none, none⟩,
    rfl, rfl, rfl, rfl, rfl, rfl, rfl, ?_⟩
  decide

end Mapping

end ActionBridge
