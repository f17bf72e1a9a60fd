import Intercept.Proofs.Hostnames
import Intercept.Proofs.Hostnames.Wildcard
import Intercept.Route.Table

/-!
# Intercept.Proofs.Route.Merge -- what merging tables decides

Two tables are merged by two rules. Of the hostnames an exclusion of either table wins over all
inclusions; of the routes the first table's are tried before the second table's. So the merged table
decides as the first one does wherever that intercepts the host and has a route, as long as the
second one does not exclude the host, and otherwise by the second table's routes.
-/

namespace Intercept

namespace Hostnames

variable {h other : Hostnames} {host : String}

theorem names_included_merge : Names (h.merge other).included host ↔
    Names h.included host ∨ Names other.included host := by
  simp only [Names, mem_included_merge, or_and_right, exists_or]

theorem names_excluded_merge : Names (h.merge other).excluded host ↔
    Names h.excluded host ∨ Names other.excluded host := by
  simp only [Names, mem_excluded_merge, or_and_right, exists_or]

theorem intercepts_merge_iff : (h.merge other).intercepts host = true ↔
    (Names h.included host ∨ Names other.included host)
      ∧ ¬ Names h.excluded host ∧ ¬ Names other.excluded host := by
  rw [intercepts_iff, names_included_merge, names_excluded_merge, not_or]

end Hostnames

namespace RoutingTable

open Hostnames (Names)

variable {t u : RoutingTable}

/-- What the routes of a table decide about a request, whatever its host. -/
def routed (t : RoutingTable) (scripts : Registry) (r : Request) : Verdict :=
  match t.find? r.url with
  | some route => act scripts r route.action
  | none => .untouched

theorem dispatch_of_intercepts {r : Request} (h : t.hostnames.intercepts r.host = true)
    (scripts : Registry) : t.dispatch scripts r = t.routed scripts r := by
  rw [dispatch, if_pos h]
  rfl

theorem dispatch_of_not_intercepts {r : Request} (h : ¬ t.hostnames.intercepts r.host = true)
    (scripts : Registry) : t.dispatch scripts r = .untouched := by
  rw [dispatch, if_neg h]

theorem find?_merge (t u : RoutingTable) (url : String) :
    (t.merge u).find? url = (t.find? url).or (u.find? url) :=
  List.find?_append

theorem find?_eq_none {url : String} :
    t.find? url = none ↔ ∀ route ∈ t.routes, ¬ route.isMatch url = true :=
  List.find?_eq_none

/-- The first table decides if it has a route for the locator. -/
theorem routed_merge_of_isMatch {r : Request} {route : Route} (hroute : route ∈ t.routes)
    (hmatch : route.isMatch r.url = true) (u : RoutingTable) (scripts : Registry) :
    (t.merge u).routed scripts r = t.routed scripts r := by
  cases hfind : t.find? r.url with
  | none => exact absurd hmatch (find?_eq_none.mp hfind route hroute)
  | some first => rw [routed, routed, find?_merge, hfind, Option.some_or]

/-- The second table decides if the first one has no route for the locator. -/
theorem routed_merge_of_not_isMatch {r : Request}
    (hmatch : ∀ route ∈ t.routes, ¬ route.isMatch r.url = true) (u : RoutingTable)
    (scripts : Registry) : (t.merge u).routed scripts r = u.routed scripts r := by
  rw [routed, routed, find?_merge, find?_eq_none.mpr hmatch, Option.none_or]

/-- A merged table intercepts a host that either table includes and none excludes. It decides as the
first table does where that intercepts the host and has a route, unless the second one excludes the
host; where the first table has no route, the routes of the second one decide. -/
theorem dispatch_merge (t u : RoutingTable) (scripts : Registry) (r : Request) :
    ((t.merge u).hostnames.intercepts r.host = true ↔
        (Names t.hostnames.included r.host ∨ Names u.hostnames.included r.host)
          ∧ ¬ Names t.hostnames.excluded r.host ∧ ¬ Names u.hostnames.excluded r.host)
    ∧ (Names t.hostnames.excluded r.host ∨ Names u.hostnames.excluded r.host →
        (t.merge u).dispatch scripts r = .untouched)
    ∧ (t.hostnames.intercepts r.host = true → (∃ route ∈ t.routes, route.isMatch r.url = true) →
        ¬ Names u.hostnames.excluded r.host →
        (t.merge u).dispatch scripts r = t.dispatch scripts r)
    ∧ (¬ Names t.hostnames.excluded r.host → ¬ Names u.hostnames.excluded r.host →
        Names t.hostnames.included r.host ∨ Names u.hostnames.included r.host →
        (∀ route ∈ t.routes, ¬ route.isMatch r.url = true) →
        (t.merge u).dispatch scripts r = u.routed scripts r) := by
  have hhost : (t.merge u).hostnames.intercepts r.host = true ↔ _ :=
    Hostnames.intercepts_merge_iff
  refine ⟨hhost, fun hexcluded => ?excluded, fun ht ⟨route, hroute, hmatch⟩ hu => ?first,
    fun ht hu hincluded hnone => ?second⟩
  case excluded =>
    refine dispatch_of_not_intercepts (fun h => ?_) scripts
    obtain ⟨-, ht, hu⟩ := hhost.mp h
    exact hexcluded.elim ht hu
  case first =>
    obtain ⟨hincluded, hkept⟩ := Hostnames.intercepts_iff.mp ht
    rw [dispatch_of_intercepts (hhost.mpr ⟨.inl hincluded, hkept, hu⟩),
      dispatch_of_intercepts ht, routed_merge_of_isMatch hroute hmatch]
  case second =>
    rw [dispatch_of_intercepts (hhost.mpr ⟨hincluded, ht, hu⟩),
      routed_merge_of_not_isMatch hnone]

/-- Two tables with wildcards and exclusions: the first one decides about `x://a.b/`, the second one
about `y://a.b/`, and `x://d.b/` is left alone since the second one excludes its host. -/
theorem dispatch_merge_wildcards :
    ∃ p q, Pattern.compile? "^x" = some p ∧ Pattern.compile? "^y" = some q ∧
      let t : RoutingTable := {
        routes := [{ pattern := p, action := .mock "1" }]
        hostnames := { included := ["*.b"], excluded := ["c.b"] } }
      let u : RoutingTable := {
        routes := [{ pattern := q, action := .reject .array }]
        hostnames := { included := ["a.?"], excluded := ["d.*"] } }
      (t.merge u).dispatch {} { url := "x://a.b/" } = .replace "1"
        ∧ (t.merge u).dispatch {} { url := "y://a.b/" } = .block "HTTP/1.1 200 OK" "[]"
        ∧ (t.merge u).dispatch {} { url := "x://d.b/" } = .untouched := by
  have hx : (Pattern.compile? "^x").map (fun p => (p.isMatch "x://a.b/", p.isMatch "y://a.b/"))
      = some (true, false) := by decide +kernel
  have hy : (Pattern.compile? "^y").map (fun q => q.isMatch "y://a.b/") = some true := by
    decide +kernel
  have hhosts : Request.host { url := "x://a.b/" } = "a.b"
      ∧ Request.host { url := "y://a.b/" } = "a.b"
      ∧ Request.host { url := "x://d.b/" } = "d.b" := by decide +kernel
  have hnames : Names ["*.b"] "a.b" ∧ ¬ Names ["c.b"] "a.b" ∧ ¬ Names ["d.*"] "a.b"
      ∧ Names ["d.*"] "d.b" := by
    simp only [← Hostnames.covers_lower_iff]
    decide +kernel
  obtain ⟨p, hp, hpm⟩ := Option.map_eq_some_iff.mp hx
  obtain ⟨q, hq, hqm⟩ := Option.map_eq_some_iff.mp hy
  obtain ⟨hpx, hpy⟩ := Prod.mk.inj hpm
  obtain ⟨hfirstHost, hsecondHost, hexcludedHost⟩ := hhosts
  obtain ⟨ht, htout, huout, hu⟩ := hnames
  refine ⟨p, q, hp, hq, ?_⟩
  intro t u
  obtain ⟨-, -, hfirst, -⟩ := dispatch_merge t u {} { url := "x://a.b/" }
  obtain ⟨-, -, -, hsecond⟩ := dispatch_merge t u {} { url := "y://a.b/" }
  obtain ⟨-, hexcluded, -⟩ := dispatch_merge t u {} { url := "x://d.b/" }
  rw [hfirstHost] at hfirst
  rw [hsecondHost] at hsecond
  rw [hexcludedHost] at hexcluded
  refine ⟨?first, ?second, hexcluded (.inr hu)⟩
  case first =>
    have hmatch : ∃ route ∈ t.routes, route.isMatch "x://a.b/" = true :=
      ⟨_, List.mem_singleton_self _, hpx⟩
    have hin : t.hostnames.intercepts "a.b" = true := Hostnames.intercepts_iff.mpr ⟨ht, htout⟩
    have hfind : t.find? "x://a.b/" = some { pattern := p, action := .mock "1" } :=
      List.find?_cons_of_pos hpx
    rw [hfirst hin hmatch huout, dispatch, hfirstHost, if_pos hin, hfind]
    rfl
  case second =>
    have hnone : ∀ route ∈ t.routes, ¬ route.isMatch "y://a.b/" = true := by
      intro route hroute
      rw [List.mem_singleton.mp hroute, Route.isMatch, hpy]
      exact Bool.false_ne_true
    have hfind : u.find? "y://a.b/" = some { pattern := q, action := .reject .array } :=
      List.find?_cons_of_pos hqm
    rw [hsecond htout huout (.inl ht) hnone, routed, hfind]
    rfl

end RoutingTable

end Intercept
