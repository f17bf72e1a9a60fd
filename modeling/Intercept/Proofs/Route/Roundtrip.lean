import Intercept.Preset
import Intercept.Proofs.Fault
import Intercept.Proofs.Hostnames.Entries
import Intercept.Proofs.Json.Roundtrip
import Intercept.Proofs.Route.Snippet

/-!
# Intercept.Proofs.Route.Roundtrip -- tables that are written and read again

A table that was read from anywhere, or merged from such tables, can be written as settings and read
back: its patterns were compiled from the texts that are written, and its hostnames were added as
entries, so that compiling and adding once more makes the same.
-/

namespace Intercept

/-! ## Settings as JSON -/

theorem RouteAction.ofJson?_toJson (action : RouteAction) :
    RouteAction.ofJson? 124 action.toJson = some action := by
  cases action with
  | script name => rfl
  | mock body => rfl
  | reject kind => cases kind <;> rfl

theorem RouteSettings.ofJson?_toJson (r : RouteSettings) :
    RouteSettings.ofJson? r.toJson = some r := by
  have hfields : r.toJson.fields? ["pattern", "action"] = some
      { values := [some (.text r.pattern), some r.action.toJson], positional := false } := rfl
  simp [RouteSettings.ofJson?, hfields, Json.Fields.required, Json.text, Json.text?,
    RouteAction.ofJson?_toJson]

theorem TableSettings.ofJson?_toJson (t : TableSettings) :
    TableSettings.ofJson? t.toJson = some t := by
  have hfields : t.toJson.fields? ["routes", "mitm_hostnames"] = some
      { values := [some (.arr (t.routes.map RouteSettings.toJson)),
          some (.arr (t.hostnames.map Json.text))], positional := false } := rfl
  have hroutes := Json.list?_map RouteSettings.ofJson?_toJson t.routes
  have htext : ∀ s, (Json.text s).text? = some s := fun _ => rfl
  have hhostnames := Json.list?_map htext t.hostnames
  simp [TableSettings.ofJson?, hfields, Json.Fields.withDefault, hroutes, hhostnames]

theorem RouteAction.isPlain_toJson (action : RouteAction) : Json.isPlain action.toJson = true := by
  cases action <;> simp [RouteAction.toJson]

theorem TableSettings.isPlain_toJson (t : TableSettings) : Json.isPlain t.toJson = true := by
  simp [TableSettings.toJson, RouteSettings.toJson, RouteAction.isPlain_toJson]

/-- Settings are read from the text as which they are written. -/
theorem TableSettings.read_render (t : TableSettings) :
    (Json.read t.toJson.render).bind TableSettings.ofJson? = some t := by
  rw [Json.read_render t.isPlain_toJson, Option.bind_some, t.ofJson?_toJson]

namespace RoutingTable

/-! ## Tables that can be written -/

/-- Every route of a table is what its pattern is compiled to again, and its hostnames are read again
as what they are. -/
structure Writable (t : RoutingTable) : Prop where
  routes : ∀ r ∈ t.routes, Route.compile r.pattern.source r.action = .ok r
  hostnames : t.hostnames.Settled

theorem writable_empty : Writable {} where
  routes := by simp
  hostnames := Hostnames.settled_empty

theorem compile_source {source : String} {action : RouteAction} {r : Route}
    (h : Route.compile source action = .ok r) : Route.compile r.pattern.source r.action = .ok r := by
  obtain ⟨hsource, haction⟩ := compile_eq_ok h
  rw [hsource, haction, h]

theorem Writable.merge {t other : RoutingTable} (ht : t.Writable) (ho : other.Writable) :
    (t.merge other).Writable where
  routes r hr := (List.mem_append.mp hr).elim (ht.routes r) (ho.routes r)
  hostnames := ht.hostnames.merge ho.hostnames

theorem writable_ofSettings {s : TableSettings} {t : RoutingTable} (h : ofSettings s = .ok t) :
    t.Writable := by
  obtain ⟨routes, hroutes, rfl⟩ := map_eq_ok.mp h
  refine ⟨fun r hr => ?_, Hostnames.settled_ofEntries _⟩
  obtain ⟨route, -, hcompile⟩ := exists_of_mem_mapM hroutes hr
  exact compile_source hcompile

theorem writable_ofJsonText {text : String} {t : RoutingTable} (h : ofJsonText text = .ok t) :
    t.Writable := by
  rw [ofJsonText] at h
  split at h
  · exact writable_ofSettings h
  · cases h

theorem Writable.addLine {t u : RoutingTable} (ht : t.Writable) {line : SnippetLine}
    (h : t.addLine line = .ok u) : u.Writable := by
  cases line with
  | hostnames value =>
    cases h
    exact ⟨ht.routes, ht.hostnames.merge (Hostnames.settled_parse _)⟩
  | route pattern action =>
    obtain ⟨route, hcompile, rfl⟩ := map_eq_ok.mp h
    refine ⟨fun r hmem => ?_, ht.hostnames⟩
    rcases List.mem_append.mp hmem with hmem | hmem
    · exact ht.routes r hmem
    · rw [List.mem_singleton] at hmem
      rw [hmem]
      exact compile_source hcompile

theorem writable_ofSnippet {text : String} {t : RoutingTable} (h : ofSnippet text = .ok t) :
    t.Writable :=
  foldlM_induction (fun ht h => ht.addLine h) writable_empty h

/-! ## Writing a table and reading it -/

/-- A table that can be written is read back with the same routes, and with hostnames that are made
from the entries that are written. -/
theorem Writable.ofJsonText_render {t : RoutingTable} (ht : t.Writable) :
    ofJsonText t.toSettings.toJson.render
      = .ok { routes := t.routes, hostnames := .ofEntries t.hostnames.entries } := by
  have hroutes : (t.toSettings.routes.mapM fun r => Route.compile r.pattern r.action)
      = .ok t.routes := Json.mapM_map_of_pure ht.routes
  rw [ofJsonText, t.toSettings.read_render]
  show ofSettings t.toSettings = _
  rw [ofSettings, hroutes]
  rfl

/-- Tables that decide alike: they have the same routes, and hostnames with the same entries. -/
theorem dispatch_congr {t u : RoutingTable} (hroutes : t.routes = u.routes)
    (hhostnames : Hostnames.SameEntries t.hostnames u.hostnames) (scripts : Registry) (r : Request) :
    t.dispatch scripts r = u.dispatch scripts r := by
  rw [dispatch, dispatch, find?, find?, hroutes, Hostnames.intercepts_congr hhostnames]

/-- The tables that there are: those made from settings, from JSON and from snippets, the built-in
one, and what they merge into. -/
inductive Obtained : RoutingTable → Prop
  | settings {s : TableSettings} {t : RoutingTable} (h : ofSettings s = .ok t) : Obtained t
  | json {text : String} {t : RoutingTable} (h : ofJsonText text = .ok t) : Obtained t
  | snippet {text : String} {t : RoutingTable} (h : ofSnippet text = .ok t) : Obtained t
  | builtIn {t : RoutingTable} (h : Preset.table = .ok t) : Obtained t
  | merge {t other : RoutingTable} (ht : Obtained t) (ho : Obtained other) :
      Obtained (t.merge other)

theorem Obtained.writable {t : RoutingTable} (h : Obtained t) : t.Writable := by
  induction h with
  | settings h => exact writable_ofSettings h
  | json h => exact writable_ofJsonText h
  | snippet h => exact writable_ofSnippet h
  | builtIn h => exact writable_ofSettings h
  | merge _ _ iht iho => exact iht.merge iho

/-- Every table can be written as JSON and read back. What is read has the same routes in the same
order and shows the same hostnames, and it treats every request alike. -/
theorem Obtained.ofJsonText_toSettings {t : RoutingTable} (h : Obtained t) :
    ∃ u, ofJsonText t.toSettings.toJson.render = .ok u ∧ u.routes = t.routes
      ∧ u.hostnames.entries = t.hostnames.entries
      ∧ ∀ scripts r, u.dispatch scripts r = t.dispatch scripts r := by
  have hsettled := h.writable.hostnames
  have hsame := Hostnames.sameEntries_ofEntries_entries hsettled
  refine ⟨_, h.writable.ofJsonText_render, rfl, ?_, fun scripts r => ?_⟩
  · exact Hostnames.entries_ofEntries_entries hsettled
  · refine dispatch_congr ?_ hsame scripts r
    rfl

/-- A snippet with a body that has to be escaped and with hostnames of both kinds, merged with
itself. -/
theorem Obtained.ofJsonText_toSettings_snippet :
    ∃ t, Obtained t
      ∧ t.routes.map (fun r => (r.pattern.source, r.action))
        = [("^a", .mock "\x7b\"k\":\"\\\"\x7d"), ("^a", .mock "\x7b\"k\":\"\\\"\x7d")]
      ∧ t.hostnames = { included := ["*.a.com"], excluded := ["b.a.com"] }
      ∧ ∃ u, ofJsonText t.toSettings.toJson.render = .ok u ∧ u.routes = t.routes
        ∧ u.hostnames.entries = t.hostnames.entries
        ∧ ∀ scripts r, u.dispatch scripts r = t.dispatch scripts r := by
  let text := "^a mock-response-body data=\x7b\"k\":\"\\\"\x7d\nhostname = *.A.com, -b.a.com"
  have hread : (ofSnippet text).toOption.map (fun t =>
      ((t.merge t).routes.map (fun r => (r.pattern.source, r.action)), (t.merge t).hostnames))
      = some ([("^a", .mock "\x7b\"k\":\"\\\"\x7d"), ("^a", .mock "\x7b\"k\":\"\\\"\x7d")],
        { included := ["*.a.com"], excluded := ["b.a.com"] }) := by decide +kernel
  cases ht : ofSnippet text with
  | error fault =>
    rw [ht] at hread
    cases hread
  | ok t =>
    rw [ht] at hread
    obtain ⟨hroutes, hhostnames⟩ := Prod.mk.inj (Option.some.inj hread)
    have hobtained : Obtained (t.merge t) := .merge (.snippet ht) (.snippet ht)
    exact ⟨t.merge t, hobtained, hroutes, hhostnames, hobtained.ofJsonText_toSettings⟩

end RoutingTable

end Intercept
