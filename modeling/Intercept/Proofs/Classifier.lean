import Intercept.Proofs.Blocker
import Intercept.Proofs.Mocker
import Intercept.Proofs.Route.Merge

/-!
# Intercept.Proofs.Classifier -- chains, and what decisions depend on

What a chain decides is told by the verdicts of its members: it is the first one that does anything.
So a chain inside a chain may be replaced by its members, and mock rules decide the same as a
mocker, as a chain of mockers with one rule each, and as the routes of a table.

Of a request no member and no route reads more than the locator and the user agent.
-/

namespace Intercept

/-! ## The first verdict that does anything -/

namespace Verdict

/-- The first of some verdicts that does anything; where none does, neither does this one. -/
def first (verdicts : List Verdict) : Verdict :=
  (verdicts.find? fun v => !v.isUntouched).getD untouched

theorem first_cons (v : Verdict) (verdicts : List Verdict) :
    first (v :: verdicts) = if v.isUntouched then first verdicts else v := by
  rw [first, List.find?_cons]
  cases v.isUntouched <;> rfl

/-- Of two lists the second one decides where the first one does nothing. -/
theorem first_append (front back : List Verdict) :
    first (front ++ back) = if (first front).isUntouched then first back else first front := by
  induction front with
  | nil => rfl
  | cons v front ih =>
    rw [List.cons_append, first_cons, first_cons, ih]
    split <;> rfl

/-- A verdict that was chosen among some may be replaced by these. -/
theorem first_inline (front inner back : List Verdict) :
    first (front ++ first inner :: back) = first (front ++ (inner ++ back)) := by
  rw [first_append, first_append front, first_cons, first_append inner]

end Verdict

/-! ## Chains -/

namespace Classifier

/-- A chain decides by the verdicts of its members. -/
theorem classifyFirst_eq_first (members : List Classifier) (r : Request) :
    classifyFirst members r = Verdict.first (members.map (·.classify r)) := by
  induction members with
  | nil => rfl
  | cons c members ih => rw [classifyFirst, List.map_cons, Verdict.first_cons, ih]

theorem classify_chain (name : String) (members : List Classifier) (r : Request) :
    (chain name members).classify r = Verdict.first (members.map (·.classify r)) := by
  rw [classify, classifyFirst_eq_first]

/-- One chain inside another one, at whatever depth, is replaced by its members in place. -/
inductive Inlines : Classifier → Classifier → Prop
  | here (name innerName : String) (front inner back : List Classifier) :
      Inlines (.chain name (front ++ .chain innerName inner :: back))
        (.chain name (front ++ (inner ++ back)))
  | within (name : String) (front back : List Classifier) {c d : Classifier} :
      Inlines c d → Inlines (.chain name (front ++ c :: back)) (.chain name (front ++ d :: back))

theorem Inlines.classify_eq {c d : Classifier} (h : Inlines c d) (r : Request) :
    c.classify r = d.classify r := by
  induction h with
  | here name innerName front inner back =>
    simp only [classify_chain, List.map_append, List.map_cons]
    exact Verdict.first_inline _ _ _
  | within name front back _ ih =>
    simp only [classify_chain, List.map_append, List.map_cons, ih]

/-! ## Mock rules in three forms -/

section Mocks

variable {rules : List (String × String)} {members : List Mocker} {routes : List Route}

/-- A mocker with one rule does something where the rule is about the locator. -/
theorem classify_of_compile_singleton {rule : String × String} {m : Mocker}
    (h : Mocker.compile [rule] = .ok m) (r : Request) : (mocker m).classify r
      = if Mocker.concerns r.url rule then .replace rule.2 else .untouched := by
  rw [classify, Mocker.classify_of_compile h, Mocker.firstBody?, List.find?_singleton]
  split <;> rfl

/-- In a chain of mockers with one rule each the first rule that is about the locator decides. An
empty body is a body all the same. -/
theorem classify_chain_mockers
    (h : (rules.mapM fun rule => Mocker.compile [rule]) = .ok members) (name : String)
    (r : Request) :
    (chain name (members.map mocker)).classify r = .pass (Mocker.firstBody? rules r.url) := by
  have hfound : (members.find? fun m => !((mocker m).classify r).isUntouched).map
        (fun m => (mocker m).classify r)
      = (rules.find? (Mocker.concerns r.url)).map fun rule => Verdict.replace rule.2 := by
    refine map_find?_mapM (fun hm => ?_) h
    rw [classify_of_compile_singleton hm]
    split
    · next hconcerns => exact ⟨hconcerns.symm, fun _ => rfl⟩
    · next hconcerns => exact ⟨(eq_false_of_ne_true hconcerns).symm, fun h => absurd h hconcerns⟩
  rw [classify_chain, List.map_map, Verdict.first, List.find?_map]
  refine (congrArg (Option.getD · Verdict.untouched) hfound).trans ?_
  rw [Mocker.firstBody?]
  cases rules.find? (Mocker.concerns r.url) <;> rfl

/-- Of routes that mock the first one that is about the locator decides. -/
theorem routed_mocks
    (h : (rules.mapM fun rule => Route.compile rule.1 (.mock rule.2)) = .ok routes)
    (hostnames : Hostnames) (scripts : Registry) (r : Request) :
    RoutingTable.routed { routes, hostnames } scripts r
      = .pass (Mocker.firstBody? rules r.url) := by
  have hfound : (routes.find? (·.isMatch r.url)).map Route.action
      = (rules.find? (Mocker.concerns r.url)).map fun rule => RouteAction.mock rule.2 := by
    refine map_find?_mapM (fun hroute => ?_) h
    obtain ⟨p, hp, rfl⟩ := map_eq_ok.mp hroute
    exact ⟨Mocker.isMatch_of_compilePattern hp, fun _ => rfl⟩
  rw [RoutingTable.routed, RoutingTable.find?, Mocker.firstBody?]
  cases hfind : rules.find? (Mocker.concerns r.url) with
  | none =>
    rw [hfind, Option.map_none, Option.map_eq_none_iff] at hfound
    rw [hfound]
    rfl
  | some rule =>
    rw [hfind, Option.map_some, Option.map_eq_some_iff] at hfound
    obtain ⟨route, hroute, haction⟩ := hfound
    rw [hroute]
    dsimp only
    rw [haction]
    rfl

end Mocks

/-- Rules whose patterns can all be compiled decide the same as a mocker, as a chain of mockers with
one rule each, and as the routes of a table that intercepts the host: the first rule that is about
the locator gives the body. And a chain inside a chain decides as its members do in its place; what
kind of classifier they are does not matter, as one of any kind decides about one request like the
constant of its verdict. -/
theorem searches_agree :
    (∀ rules : List (String × String), (∀ rule ∈ rules, ∃ p, compilePattern rule.1 = .ok p) →
      ∃ m members routes, Mocker.compile rules = .ok m
        ∧ (rules.mapM fun rule => Mocker.compile [rule]) = .ok members
        ∧ (rules.mapM fun rule => Route.compile rule.1 (.mock rule.2)) = .ok routes
        ∧ ∀ r : Request, m.classify r = .pass (Mocker.firstBody? rules r.url)
          ∧ (∀ name, (chain name (members.map mocker)).classify r = m.classify r)
          ∧ ∀ hostnames scripts, hostnames.intercepts r.host = true →
            RoutingTable.dispatch { routes, hostnames } scripts r = m.classify r)
    ∧ ∀ c d, Inlines c d → ∀ r, c.classify r = d.classify r := by
  refine ⟨fun rules hrules => ?_, fun c d h r => h.classify_eq r⟩
  have hmember : ∀ rule ∈ rules, ∃ m, Mocker.compile [rule] = .ok m ∧ True := by
    intro rule hrule
    have hone : ∀ other ∈ [rule], ∃ p, compilePattern other.1 = .ok p := fun other hother =>
      hrules other (List.mem_singleton.mp hother ▸ hrule)
    exact (Mocker.exists_compile hone).imp fun m hm => ⟨hm, trivial⟩
  have hroute : ∀ rule ∈ rules, ∃ route, Route.compile rule.1 (.mock rule.2) = .ok route ∧ True := by
    intro rule hrule
    obtain ⟨p, hp⟩ := hrules rule hrule
    exact ⟨_, map_eq_ok.mpr ⟨p, hp, rfl⟩, trivial⟩
  obtain ⟨m, hm⟩ := Mocker.exists_compile hrules
  obtain ⟨members, hmembers, -⟩ := exists_mapM_eq_ok hmember
  obtain ⟨routes, hroutes, -⟩ := exists_mapM_eq_ok hroute
  refine ⟨m, members, routes, hm, hmembers, hroutes, fun r => ?_⟩
  have hm := Mocker.classify_of_compile hm r
  refine ⟨hm, fun name => ?_, fun hostnames scripts hhost => ?_⟩
  · rw [classify_chain_mockers hmembers, hm]
  · rw [RoutingTable.dispatch_of_intercepts hhost, routed_mocks hroutes, hm]

/-- Two rules that are both about a locator: the first one decides in all three forms, although its
body is empty. An inner chain that does nothing at first is replaced by its members. -/
theorem searches_agree_empty_body :
    let r : Request := { url := "a://h/" }
    let rules := [("^a", ""), ("^", "x")]
    let idle := constant .untouched
    let outer := fun members => chain "outer" (idle :: (members ++ [constant (.replace "x")]))
    (∃ m members routes, Mocker.compile rules = .ok m
      ∧ (rules.mapM fun rule => Mocker.compile [rule]) = .ok members
      ∧ (rules.mapM fun rule => Route.compile rule.1 (.mock rule.2)) = .ok routes
      ∧ m.classify r = .replace "" ∧ (chain "c" (members.map mocker)).classify r = .replace ""
      ∧ RoutingTable.dispatch { routes, hostnames := { included := ["?"] } } {} r = .replace "")
    ∧ (outer [chain "inner" [idle, constant (.replace "")]]).classify r
      = (outer [idle, constant (.replace "")]).classify r := by
  intro r rules idle outer
  obtain ⟨hsearches, hinline⟩ := searches_agree
  constructor
  · have hpatterns : ∀ rule ∈ rules, (Pattern.compile? rule.1).isSome = true := by decide +kernel
    have hfirst : Mocker.firstBody? rules r.url = some "" := by decide +kernel
    have hhost : Hostnames.intercepts { included := ["?"] } r.host = true := by decide +kernel
    have hcompiled : ∀ rule ∈ rules, ∃ p, compilePattern rule.1 = .ok p := fun rule hrule =>
      (Option.isSome_iff_exists.mp (hpatterns rule hrule)).imp fun _ => compilePattern_eq_ok.mpr
    obtain ⟨m, members, routes, hm, hmembers, hroutes, hdecide⟩ := hsearches rules hcompiled
    obtain ⟨hmocker, hchain, htable⟩ := hdecide r
    have hbody : m.classify r = .replace "" := by rw [hmocker, hfirst, Verdict.replace]
    exact ⟨m, members, routes, hm, hmembers, hroutes, hbody, (hchain "c").trans hbody,
      (htable { included := ["?"] } {} hhost).trans hbody⟩
  · exact hinline _ _ (.here "outer" "inner" [idle] [idle, constant (.replace "")]
      [constant (.replace "x")]) r

end Classifier

/-! ## What decisions see of a request -/

variable {r r' : Request}

theorem Request.host_of_url (hurl : r.url = r'.url) : r.host = r'.host := by
  rw [host, host, hurl]

theorem Mocker.classify_of_url (m : Mocker) (hurl : r.url = r'.url) :
    m.classify r = m.classify r' := by
  rw [classify, classify, hurl]

theorem Blocker.classify_of_seen (b : Blocker) (hurl : r.url = r'.url)
    (hagent : r.userAgent = r'.userAgent) : b.classify r = b.classify r' := by
  rw [classify, classify, hurl, hagent]

namespace Classifier

mutual

theorem classify_of_seen (hurl : r.url = r'.url) (hagent : r.userAgent = r'.userAgent) :
    (c : Classifier) → c.classify r = c.classify r'
  | .blocker b => by rw [classify, classify, b.classify_of_seen hurl hagent]
  | .mocker m => by rw [classify, classify, m.classify_of_url hurl]
  | .constant v => by rw [classify, classify]
  | .chain name members => by rw [classify, classify, classifyFirst_of_seen hurl hagent members]

theorem classifyFirst_of_seen (hurl : r.url = r'.url) (hagent : r.userAgent = r'.userAgent) :
    (members : List Classifier) → classifyFirst members r = classifyFirst members r'
  | [] => rfl
  | c :: members => by
    rw [classifyFirst, classifyFirst, classify_of_seen hurl hagent c,
      classifyFirst_of_seen hurl hagent members]

end

end Classifier

/-- What a route does with a request is up to the locator and the user agent too. -/
theorem RoutingTable.act_of_seen (hurl : r.url = r'.url) (hagent : r.userAgent = r'.userAgent)
    (scripts : Registry) (action : RouteAction) : act scripts r action = act scripts r' action := by
  cases action with
  | script name =>
    rw [act, act]
    cases scripts.get? name with
    | none => rfl
    | some script => exact script.classify_of_seen hurl hagent
  | mock body => rfl
  | reject kind => rfl

theorem RoutingTable.dispatch_of_seen (t : RoutingTable) (hurl : r.url = r'.url)
    (hagent : r.userAgent = r'.userAgent) (scripts : Registry) :
    t.dispatch scripts r = t.dispatch scripts r' := by
  rw [dispatch, dispatch, Request.host_of_url hurl, hurl]
  simp only [act_of_seen hurl hagent]

/-- Requests with the same locator and the same user agent are treated alike by every classifier, at
whatever depth its chains are nested, and by every table with every registry of scripts: no other
header, no spelling of a name and no captured body makes a difference. -/
theorem decisions_see_only (hurl : r.url = r'.url) (hagent : r.userAgent = r'.userAgent) :
    (∀ c : Classifier, c.classify r = c.classify r')
      ∧ ∀ (t : RoutingTable) (scripts : Registry), t.dispatch scripts r = t.dispatch scripts r' :=
  ⟨fun c => c.classify_of_seen hurl hagent,
    fun t scripts => t.dispatch_of_seen hurl hagent scripts⟩

/-- Two requests that differ in the spelling of a name, in another header and in the captured body:
what denies the one denies the other. -/
theorem decisions_see_only_spellings :
    let r : Request := {
      url := "https://a.com/"
      headers := .ofList [("user-AGENT", "Moon/1.0")] }
    let r' : Request := {
      url := "https://a.com/"
      headers := .ofList [("Cookie", "a=1"), ("User-Agent", "Moon/1.0"), ("user-agent", "x")]
      bodyAvailable := true }
    ∃ b, Blocker.ofTokens ["moon"] [] = .ok b ∧ r.url = r'.url ∧ r.userAgent = r'.userAgent
      ∧ (Classifier.chain "c" [.blocker b]).classify r = .block Blocker.statusLine Blocker.body
      ∧ (Classifier.chain "c" [.blocker b]).classify r'
        = .block Blocker.statusLine Blocker.body := by
  intro r r'
  obtain ⟨b, hmade⟩ : ∃ b, Blocker.ofTokens ["moon"] [] = .ok b :=
    ⟨_, Blocker.ofTokens_eq_ok.mpr ⟨by decide, by decide +kernel, by decide, rfl⟩⟩
  have hurl : r.url = r'.url := rfl
  have hagent : r.userAgent = r'.userAgent := by decide
  have hdenied : Blocker.Denied ["moon"] [] r := by decide +kernel
  have hblock : (Classifier.chain "c" [.blocker b]).classify r
      = .block Blocker.statusLine Blocker.body := by
    rw [Classifier.classify_chain, List.map_singleton, Classifier.classify,
      (Blocker.classify_eq_block_iff hmade r).mpr hdenied]
    rfl
  obtain ⟨hclassifiers, -⟩ := decisions_see_only hurl hagent
  exact ⟨b, hmade, hurl, hagent, hblock, (hclassifiers _).symm.trans hblock⟩

end Intercept
