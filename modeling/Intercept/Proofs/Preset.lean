import Intercept.Preset
import Intercept.Proofs.Classifier
import Intercept.Proofs.Host.Locator
import Intercept.Proofs.Keyed
import Intercept.Proofs.Pattern.Openings

/-!
# Intercept.Proofs.Preset -- the hosts on which the built-in rules act

The built-in table checks hosts twice, and by different means: the host of the parsed locator has to
be one of two, and a pattern has to be found in the text of the locator. The patterns of the mocked
endpoints reach beyond the slash that ends the authority, so the host that they spell is the host of
the locator. The second pattern of the dispatch endpoint stops at the host, and the at sign that
makes mere credentials of it may follow.
-/

namespace Intercept.Preset

open Host (webPrefix PlainDomain endsAuthority)
open Pattern (BeginsWith)

/-! ## Hosts that patterns spell -/

/-- How web locators begin in which a host is spelled behind the slashes. -/
def spellings (host : String) : List (List Char) :=
  ["http", "https"].map fun scheme => webPrefix scheme ++ host.toList

/-- How web locators begin in which a host is spelled up to the slash behind it. -/
def fullSpellings (host : String) : List (List Char) :=
  (spellings host).map (· ++ ['/'])

theorem plain_dispatchHost : PlainDomain dispatchHost.toList := by decide

theorem plain_mockedHost : PlainDomain mockedHost.toList := by decide

theorem hosts_ne : mockedHost ≠ dispatchHost := by decide

variable {r : Request} {host : String}

theorem mem_spellings {start : List Char} : start ∈ spellings host ↔
    ∃ scheme ∈ ["http", "https"], start = webPrefix scheme ++ host.toList := by
  simp only [spellings, List.mem_map, eq_comm]

theorem host_of_hostOf? (h : Host.hostOf? r.url.toList = some host.toList)
    (hplain : PlainDomain host.toList) : r.host = host := by
  have hlower : Text.asciiLower host.toList = host.toList :=
    (List.map_congr_left hplain.small).trans (List.map_id _)
  rw [Request.host, h, Option.getD_some, hlower, String.ofList_toList]

/-- A locator that spells a plain domain up to the slash behind it has it for its host. -/
theorem host_of_fullSpelling (hplain : PlainDomain host.toList) (hne : host.toList ≠ [])
    (hname : Host.endsInNumber host.toList = false)
    (h : BeginsWith (fullSpellings host) r.url) : r.host = host := by
  obtain ⟨start, hstart, rest, hurl⟩ := h
  obtain ⟨front, hfront, rfl⟩ := List.mem_map.mp hstart
  obtain ⟨scheme, hscheme, rfl⟩ := mem_spellings.mp hfront
  refine host_of_hostOf? ?_ hplain
  rw [← hurl, List.append_assoc, List.append_assoc]
  exact hplain.hostOf? hscheme hne hname rest

/-- The dispatch host is spelled in the credentials of a locator: it follows the slashes, and behind
it, still in the authority, stands an at sign. -/
def SpelledInCredentials (url : String) : Prop :=
  ∃ scheme ∈ ["http", "https"], ∃ rest,
    url.toList = webPrefix scheme ++ (dispatchHost.toList ++ rest)
      ∧ '@' ∈ rest.takeWhile (!endsAuthority .web ·)

theorem SpelledInCredentials.spelled {url : String} (h : SpelledInCredentials url) :
    BeginsWith (spellings dispatchHost) url := by
  obtain ⟨scheme, hscheme, rest, hurl, -⟩ := h
  exact ⟨_, mem_spellings.mpr ⟨scheme, hscheme, rfl⟩, rest, by rw [hurl, List.append_assoc]⟩

/-- The host of a request to the mocked host begins, up to its case, as this does. -/
theorem exists_host_of_mockedHost (h : r.host = mockedHost) : ∃ host,
    Host.hostOf? r.url.toList = some host ∧ Text.asciiLower host = mockedHost.toList := by
  have hlower : Text.asciiLower ((Host.hostOf? r.url.toList).getD []) = mockedHost.toList := by
    rw [← h, Request.host, String.toList_ofList]
  cases hhost : Host.hostOf? r.url.toList with
  | none =>
    rw [hhost] at hlower
    exact absurd hlower (by decide)
  | some host =>
    rw [hhost] at hlower
    exact ⟨host, rfl, hlower⟩

/-- Where the dispatch host is spelled but the mocked one is the host, it is in the credentials. -/
theorem spelledInCredentials_of_host (hhost : r.host = mockedHost)
    (h : BeginsWith (spellings dispatchHost) r.url) :
    SpelledInCredentials r.url := by
  obtain ⟨start, hstart, rest, hurl⟩ := h
  obtain ⟨scheme, hscheme, rfl⟩ := mem_spellings.mp hstart
  rw [List.append_assoc] at hurl
  refine ⟨scheme, hscheme, rest, hurl.symm, ?_⟩
  obtain ⟨host, hparsed, hlower⟩ := exists_host_of_mockedHost hhost
  refine Decidable.byContradiction fun hat => ?_
  have hplain : PlainDomain ('a' :: 'm' :: "dc.m.taobao.com".toList) := plain_dispatchHost
  rw [← hurl] at hparsed
  -- Without the at sign the host would begin with a letter that `oneapp-api.faw-vw.com` has not.
  obtain ⟨f, more, rfl, hf⟩ := hplain.head_hostOf? hscheme (by decide) hat hparsed
  have hfirst : f.toLower = 'o' := (List.cons.inj hlower).1
  rcases hf with rfl | rfl | hdigit
  · exact absurd hfirst (by decide)
  · exact absurd hfirst (by decide)
  · rw [Text.toLower_of_isDigit hdigit] at hfirst
    rw [hfirst] at hdigit
    exact absurd hdigit (by decide)

/-! ## The table and its scripts -/

theorem exists_compile {check : Pattern.Expr → Bool} {source : String}
    (h : Pattern.Compiles check source) (action : RouteAction) :
    ∃ route, Route.compile source action = .ok route ∧ check route.pattern.expr = true
      ∧ route.action = action := by
  obtain ⟨p, hp, hcheck⟩ := h
  exact ⟨_, map_eq_ok.mpr ⟨p, compilePattern_eq_ok.mpr hp, rfl⟩, hcheck, rfl⟩

theorem append_eq_ofList {a b : String} {as bs : List Char} (ha : a = String.ofList as)
    (hb : b = String.ofList bs) : a ++ b = String.ofList (as ++ bs) := by
  rw [ha, hb, String.ofList_append]

theorem narrow_compiles : Pattern.Compiles (Pattern.Expr.opensWith (fullSpellings dispatchHost))
    "^https?://amdc\\.m\\.taobao\\.com/amdc/mobileDispatch$" :=
  .of_chars (by with_reducible rfl) (by decide +kernel)

theorem wide_compiles : Pattern.Compiles (Pattern.Expr.asksFor (spellings dispatchHost))
    "^https?://amdc\\.m\\.taobao\\.com" :=
  .of_chars (by with_reducible rfl) (by decide +kernel)

/-- How locators of the mocked host begin whose path begins with one of some texts. -/
def pathOpenings (paths : List String) : List (List Char) :=
  (fullSpellings mockedHost).flatMap fun start => paths.map (start ++ ·.toList)

/-- How the paths of the endpoints begin that are answered by an empty list. -/
def listPaths : List String :=
  ["search/", "benefits/", "content/booth/", "content/customize/", "content/recommend/",
    "content/activity/", "content/theme/", "content/post/"]

/-- How the paths of the endpoints begin that are answered by an empty object. -/
def objectPaths : List String := ["content/evaluate/", "content/collection/"]

/-- A mocked rule answers with a list and asks for one of the paths of lists, or with an object and
asks for one of those of objects. -/
def AnswersByPath (rule : String × String) : Prop :=
  (rule.2 = emptyList
      ∧ Pattern.Compiles (Pattern.Expr.opensWith (pathOpenings listPaths)) rule.1)
    ∨ rule.2 = emptyObject
      ∧ Pattern.Compiles (Pattern.Expr.opensWith (pathOpenings objectPaths)) rule.1

set_option maxRecDepth 10000 in
theorem mocked_answersByPath : ∀ rule ∈ mockedRules, AnswersByPath rule := by
  unfold mockedRules
  simp only [List.forall_mem_cons, List.not_mem_nil, false_imp_iff, implies_true, and_true]
  refine ⟨.inl ⟨rfl, ?_⟩, .inl ⟨rfl, ?_⟩, .inl ⟨rfl, ?_⟩, .inl ⟨rfl, ?_⟩, .inl ⟨rfl, ?_⟩,
    .inl ⟨rfl, ?_⟩, .inl ⟨rfl, ?_⟩, .inr ⟨rfl, ?_⟩⟩
  -- Some paths are written in one piece and some in two.
  all_goals
    first
    | exact .of_chars (append_eq_ofList (by with_reducible rfl) (by with_reducible rfl))
        (by decide +kernel)
    | exact .of_chars (append_eq_ofList (by with_reducible rfl)
        (append_eq_ofList (by with_reducible rfl) (by with_reducible rfl))) (by decide +kernel)

theorem mocked_compiles : ∀ rule ∈ mockedRules,
    Pattern.Compiles (Pattern.Expr.opensWith (fullSpellings mockedHost)) rule.1 := by
  have hopens : ∀ paths, ∀ x ∈ pathOpenings paths, ∃ start ∈ fullSpellings mockedHost,
      start <+: x := by
    intro paths x hx
    obtain ⟨start, hstart, hpath⟩ := List.mem_flatMap.mp hx
    obtain ⟨path, -, rfl⟩ := List.mem_map.mp hpath
    exact ⟨start, hstart, List.prefix_append _ _⟩
  intro rule hrule
  rcases mocked_answersByPath rule hrule with ⟨-, h⟩ | ⟨-, h⟩
  · exact h.mono fun _ => Pattern.Expr.opensWith_mono (hopens _)
  · exact h.mono fun _ => Pattern.Expr.opensWith_mono (hopens _)

theorem exists_compilePattern : ∀ rule ∈ mockedRules, ∃ p, compilePattern rule.1 = .ok p :=
  fun rule hrule => (mocked_compiles rule hrule).imp fun _ hp => compilePattern_eq_ok.mpr hp.1

theorem hosts_ofEntries : Hostnames.ofEntries [dispatchHost, mockedHost]
    = { included := [dispatchHost, mockedHost], excluded := [] } := by
  decide +kernel

/-- What is there once the built-in table and its scripts are made: a route to the dispatch endpoint
and one to all that begins with the dispatch host, each of which runs a blocker, and mocked
endpoints. -/
structure Built (t : RoutingTable) (registry : Registry) (narrow wide : Blocker) : Prop where
  hostnames : t.hostnames = { included := [dispatchHost, mockedHost], excluded := [] }
  routes : ∃ first second mocks, t.routes = first :: second :: mocks
    ∧ (first.pattern.expr.opensWith (fullSpellings dispatchHost) = true
      ∧ first.action = .script "AliAMDC")
    ∧ (second.pattern.expr.asksFor (spellings dispatchHost) = true ∧ second.action = .script "AMDC")
    ∧ ∀ m ∈ mocks, m.pattern.expr.opensWith (fullSpellings mockedHost) = true
      ∧ ∃ body, m.action = .mock body
  narrow : registry.get? "AliAMDC" = some (.blocker narrow)
  wide : registry.get? "AMDC" = some (.blocker wide)

/-- The lists of tokens and keys are short enough for blockers. -/
theorem exists_blockers : ∃ narrow wide, aliAmdc = .ok narrow ∧ amdc = .ok wide :=
  ⟨_, _, Blocker.ofTokens_eq_ok.mpr ⟨.inl (by decide), by decide +kernel, by decide +kernel, rfl⟩,
    Blocker.ofTokens_eq_ok.mpr ⟨.inl (by decide), by decide +kernel, by decide +kernel, rfl⟩⟩

theorem exists_scripts : ∃ registry narrow wide, scripts = .ok registry ∧ aliAmdc = .ok narrow
    ∧ amdc = .ok wide ∧ registry.get? "AliAMDC" = some (.blocker narrow)
    ∧ registry.get? "AMDC" = some (.blocker wide) := by
  obtain ⟨narrow, wide, hali, hamdc⟩ := exists_blockers
  refine ⟨_, narrow, wide, by rw [scripts, hali, hamdc]; rfl, hali, hamdc, ?_, ?_⟩
  · rw [Registry.get?, Registry.register, Keyed.lookup_put]
    exact if_pos rfl
  · rw [Registry.get?, Registry.register, Keyed.lookup_put, if_neg (by decide), Registry.register,
      Keyed.lookup_put]
    exact if_pos rfl

theorem exists_built : ∃ t registry narrow wide, table = .ok t ∧ scripts = .ok registry
    ∧ amdc = .ok wide ∧ Built t registry narrow wide := by
  obtain ⟨first, hfirst, hnarrow⟩ := exists_compile narrow_compiles (.script "AliAMDC")
  obtain ⟨second, hsecond, hwide⟩ := exists_compile wide_compiles (.script "AMDC")
  have hmocked : ∀ s ∈ mockedRules.map fun p =>
        ({ pattern := p.1, action := .mock p.2 } : RouteSettings),
      ∃ m, Route.compile s.pattern s.action = .ok m
        ∧ m.pattern.expr.opensWith (fullSpellings mockedHost) = true
        ∧ ∃ body, m.action = .mock body := by
    intro s hs
    obtain ⟨rule, hrule, rfl⟩ := List.mem_map.mp hs
    obtain ⟨m, hm, hopens, haction⟩ := exists_compile (mocked_compiles rule hrule) (.mock rule.2)
    exact ⟨m, hm, hopens, rule.2, haction⟩
  obtain ⟨mocks, hmocks, hall⟩ := exists_mapM_eq_ok hmocked
  have hroutes : (routeSettings.mapM fun r => Route.compile r.pattern r.action)
      = .ok (first :: second :: mocks) := by
    rw [routeSettings, List.cons_append, List.cons_append, List.nil_append, List.mapM_cons,
      List.mapM_cons]
    exact bind_eq_ok.mpr ⟨first, hfirst, bind_eq_ok.mpr
      ⟨_, bind_eq_ok.mpr ⟨second, hsecond, bind_eq_ok.mpr ⟨mocks, hmocks, rfl⟩⟩, rfl⟩⟩
  have htable : table = .ok
      { routes := first :: second :: mocks
        hostnames := .ofEntries [dispatchHost, mockedHost] } := by
    rw [table, RoutingTable.ofSettings]
    exact map_eq_ok.mpr ⟨_, hroutes, rfl⟩
  obtain ⟨registry, narrow, wide, hscripts, -, hamdc, hget, hget'⟩ := exists_scripts
  exact ⟨_, registry, narrow, wide, htable, hscripts, hamdc, hosts_ofEntries,
    ⟨first, second, mocks, rfl, hnarrow, hwide, hall⟩, hget, hget'⟩

/-! ## What the table decides -/

theorem replacement_classify (b : Blocker) (r : Request) : (b.classify r).replacement = none := by
  rw [Blocker.classify]
  split <;> rfl

variable {t : RoutingTable} {registry : Registry} {narrow wide : Blocker}

theorem routed_of_script {route : Route} {name : String} {b : Blocker}
    (hfind : t.find? r.url = some route) (haction : route.action = .script name)
    (hget : registry.get? name = some (.blocker b)) : t.routed registry r = b.classify r := by
  rw [RoutingTable.routed, hfind]
  dsimp only
  rw [haction, RoutingTable.act, hget]
  rfl

namespace Built

theorem intercepts_iff (h : Built t registry narrow wide) :
    t.hostnames.intercepts r.host = true ↔ r.host = dispatchHost ∨ r.host = mockedHost := by
  have hlower : Hostnames.lower r.host = r.host := by
    rw [Hostnames.lower, Request.host, String.toList_ofList, Text.asciiLower_asciiLower]
  have hplain : ∀ e ∈ [dispatchHost, mockedHost], '*' ∉ e.toList ∧ '?' ∉ e.toList := by decide
  have hnames : Hostnames.Names [dispatchHost, mockedHost] r.host ↔
      r.host = dispatchHost ∨ r.host = mockedHost := by
    rw [Hostnames.Names, hlower]
    constructor
    · rintro ⟨e, he, hstands⟩
      obtain ⟨hstar, hany⟩ := hplain e he
      rw [StandsFor.plain_iff hstar hany, String.toList_inj] at hstands
      simpa [hstands] using he
    · intro hhost
      have he : r.host ∈ [dispatchHost, mockedHost] := by simpa using hhost
      obtain ⟨hstar, hany⟩ := hplain r.host he
      exact ⟨r.host, he, (StandsFor.plain_iff hstar hany).mpr rfl⟩
  rw [h.hostnames, Hostnames.intercepts_iff, hnames]
  simp [Hostnames.Names]

/-- Where the mocked host is the host but the dispatch host is spelled, the wider route decides. -/
theorem routed_of_spelled (h : Built t registry narrow wide) (hhost : r.host = mockedHost)
    (hspelled : BeginsWith (spellings dispatchHost) r.url) :
    t.routed registry r = wide.classify r := by
  obtain ⟨first, second, mocks, hroutes, ⟨hopens, -⟩, ⟨hasks, haction⟩, -⟩ := h.routes
  have hfirst : ¬ first.isMatch r.url = true := fun hmatch =>
    hosts_ne (hhost.symm.trans (host_of_fullSpelling plain_dispatchHost (by decide) (by decide)
      (Pattern.beginsWith_of_opensWith hopens hmatch)))
  have hsecond : second.isMatch r.url = true := (Pattern.isMatch_iff_of_asksFor hasks).mpr hspelled
  have hfind : t.find? r.url = some second := by
    simp [RoutingTable.find?, hroutes, hfirst, hsecond]
  exact routed_of_script hfind haction h.wide

/-- Where the dispatch host is spelled, no body is replaced. -/
theorem replacement_routed_of_spelled (h : Built t registry narrow wide)
    (hspelled : BeginsWith (spellings dispatchHost) r.url) :
    (t.routed registry r).replacement = none := by
  obtain ⟨first, second, mocks, hroutes, ⟨-, hnarrow⟩, ⟨hasks, hwide⟩, -⟩ := h.routes
  have hsecond : second.isMatch r.url = true := (Pattern.isMatch_iff_of_asksFor hasks).mpr hspelled
  by_cases hfirst : first.isMatch r.url = true
  · have hfind : t.find? r.url = some first := by
      simp [RoutingTable.find?, hroutes, hfirst]
    rw [routed_of_script hfind hnarrow h.narrow, replacement_classify]
  · have hfind : t.find? r.url = some second := by
      simp [RoutingTable.find?, hroutes, hfirst, hsecond]
    rw [routed_of_script hfind hwide h.wide, replacement_classify]

/-- Where the dispatch host is not spelled, nothing is ended, and a body is replaced only where the
mocked host is spelled in full. -/
theorem routed_of_not_spelled (h : Built t registry narrow wide)
    (hspelled : ¬ BeginsWith (spellings dispatchHost) r.url) :
    (t.routed registry r).isBlock = false ∧ ((t.routed registry r).replacement.isSome = true →
      BeginsWith (fullSpellings mockedHost) r.url) := by
  obtain ⟨first, second, mocks, hroutes, ⟨hopens, -⟩, ⟨hasks, -⟩, hmocks⟩ := h.routes
  have hfirst : ¬ first.isMatch r.url = true := by
    intro hmatch
    obtain ⟨start, hstart, hprefix⟩ := Pattern.beginsWith_of_opensWith hopens hmatch
    obtain ⟨front, hfront, rfl⟩ := List.mem_map.mp hstart
    exact hspelled ⟨front, hfront, (List.prefix_append front ['/']).trans hprefix⟩
  have hsecond : ¬ second.isMatch r.url = true := fun hmatch =>
    hspelled ((Pattern.isMatch_iff_of_asksFor hasks).mp hmatch)
  have hrest : t.find? r.url = mocks.find? (·.isMatch r.url) := by
    simp [RoutingTable.find?, hroutes, hfirst, hsecond]
  rw [RoutingTable.routed, hrest]
  cases hfind : mocks.find? (·.isMatch r.url) with
  | none => exact ⟨rfl, fun hsome => by cases hsome⟩
  | some m =>
    obtain ⟨hmocked, body, hbody⟩ := hmocks m (List.mem_of_find?_eq_some hfind)
    have hmatch : m.isMatch r.url = true :=
      List.find?_some (p := fun route : Route => route.isMatch r.url) hfind
    dsimp only
    rw [hbody]
    exact ⟨rfl, fun _ => Pattern.beginsWith_of_opensWith hmocked hmatch⟩

end Built

/-- The built-in table, run with the built-in scripts, replaces bodies for the mocked host alone. It
ends calls of the dispatch host alone too, except where the host of a request is the mocked one, the
locator spells the dispatch host in its credentials, and the first blocker would end the call. -/
theorem hosts_of_dispatch (r : Request) : ∃ t registry first, table = .ok t
    ∧ scripts = .ok registry ∧ amdc = .ok first
    ∧ ((t.dispatch registry r).replacement.isSome = true → r.host = mockedHost)
    ∧ ((t.dispatch registry r).isBlock = true ∧ r.host ≠ dispatchHost ↔
      r.host = mockedHost ∧ SpelledInCredentials r.url ∧ (first.classify r).isBlock = true) := by
  obtain ⟨t, registry, narrow, wide, htable, hscripts, hamdc, h⟩ := exists_built
  refine ⟨t, registry, wide, htable, hscripts, hamdc, ?_⟩
  by_cases hhosts : t.hostnames.intercepts r.host = true
  · rw [RoutingTable.dispatch_of_intercepts hhosts]
    by_cases hspelled : BeginsWith (spellings dispatchHost) r.url
    · rw [h.replacement_routed_of_spelled hspelled]
      refine ⟨nofun, ?_, ?_⟩
      · rintro ⟨hblock, hne⟩
        have hhost : r.host = mockedHost := (h.intercepts_iff.mp hhosts).resolve_left hne
        rw [h.routed_of_spelled hhost hspelled] at hblock
        exact ⟨hhost, spelledInCredentials_of_host hhost hspelled, hblock⟩
      · rintro ⟨hhost, -, hblock⟩
        rw [h.routed_of_spelled hhost hspelled]
        exact ⟨hblock, fun heq => hosts_ne (hhost.symm.trans heq)⟩
    · obtain ⟨hpassed, hreplaced⟩ := h.routed_of_not_spelled hspelled
      refine ⟨fun hsome => host_of_fullSpelling plain_mockedHost (by decide) (by decide)
        (hreplaced hsome), ?_, ?_⟩
      · rintro ⟨hblock, -⟩
        rw [hpassed] at hblock
        cases hblock
      · rintro ⟨-, hurl, -⟩
        exact absurd hurl.spelled hspelled
  · rw [RoutingTable.dispatch_of_not_intercepts hhosts]
    refine ⟨nofun, nofun, ?_⟩
    rintro ⟨hhost, -⟩
    exact absurd (h.intercepts_iff.mpr (.inr hhost)) hhosts

/-- A call of the mocked host that is ended: the dispatch host is the name of a user. -/
theorem ended_of_credentials : let r : Request :=
      { url := "https://amdc.m.taobao.com@oneapp-api.faw-vw.com/?appkey=23782110" }
    ∃ t registry, table = .ok t ∧ scripts = .ok registry
      ∧ (t.dispatch registry r).isBlock = true ∧ r.host ≠ dispatchHost := by
  intro r
  obtain ⟨t, registry, narrow, wide, htable, hscripts, hamdc, h⟩ := exists_built
  have hurl : r.url.toList = webPrefix "https" ++ (dispatchHost.toList
      ++ '@' :: (mockedHost.toList ++ '/' :: "?appkey=23782110".toList)) := by decide
  have hhost : r.host = mockedHost := by
    refine host_of_hostOf? ?_ plain_mockedHost
    rw [hurl]
    exact plain_mockedHost.hostOf?_credentials (by decide) (by decide) (by decide)
      plain_dispatchHost (by decide) _
  have hspelled : BeginsWith (spellings dispatchHost) r.url :=
    ⟨_, mem_spellings.mpr ⟨"https", by decide, rfl⟩, _, by rw [hurl, List.append_assoc]⟩
  refine ⟨t, registry, htable, hscripts, ?_, fun heq => hosts_ne (hhost.symm.trans heq)⟩
  rw [RoutingTable.dispatch_of_intercepts (h.intercepts_iff.mpr (.inr hhost)),
    h.routed_of_spelled hhost hspelled]
  have hdenied : Blocker.Denied amdcTokens blockedKeys r := by decide +kernel
  rw [(Blocker.classify_eq_block_iff hamdc r).mpr hdenied]
  rfl

/-! ## The chain -/

theorem exists_chain : ∃ wide mocker, amdc = .ok wide
    ∧ chain = .ok (.chain "builtin" [.blocker wide, .mocker mocker]) := by
  obtain ⟨-, wide, -, hamdc⟩ := exists_blockers
  obtain ⟨mocker, hmocker⟩ := Mocker.exists_compile exists_compilePattern
  refine ⟨wide, mocker, hamdc, ?_⟩
  rw [chain, hamdc, fawvw, hmocker]
  rfl

theorem isBlock_mocker (m : Mocker) (r : Request) : (m.classify r).isBlock = false := by
  rw [Mocker.classify]
  split <;> rfl

/-- The chain ends exactly what its blocker denies. -/
theorem exists_chain_isBlock : ∃ c, chain = .ok c ∧
    ∀ r, (c.classify r).isBlock = true ↔ Blocker.Denied amdcTokens blockedKeys r := by
  obtain ⟨wide, mocker, hamdc, hchain⟩ := exists_chain
  refine ⟨_, hchain, fun r => ?_⟩
  rw [Classifier.classify_chain, List.map_cons, Verdict.first_cons, Classifier.classify]
  obtain ⟨hdenied, hwide⟩ | ⟨hdenied, hwide⟩ := Blocker.classify_cases hamdc r
  · rw [hwide]
    exact iff_of_true rfl hdenied
  · have huntouched : Verdict.untouched.isUntouched = true := rfl
    rw [hwide, if_pos huntouched, List.map_singleton, Verdict.first_cons, Classifier.classify]
    refine iff_of_false ?_ hdenied
    split
    · nofun
    · rw [isBlock_mocker]
      nofun

end Intercept.Preset
