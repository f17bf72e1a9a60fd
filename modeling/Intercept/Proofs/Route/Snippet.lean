import Intercept.Proofs.Hostnames
import Intercept.Proofs.Text.Pieces
import Intercept.Route.Snippet

/-!
# Intercept.Proofs.Route.Snippet -- a snippet is read line by line

What a line says depends on nothing but the line, and the table of a snippet takes in what its lines
say one after the other. So reading two texts below each other is reading both and merging the
tables, with the fault of the first text that has one.
-/

namespace Intercept.RoutingTable

/-! ## Lines -/

/-- Line ends do not matter to a snippet: it may be read from the pieces between line feeds. -/
theorem snippetLines_eq (text : List Char) :
    snippetLines text
      = (Text.splitOn '\n' text).filterMap fun piece => SnippetLine.parse? (Text.trim piece) :=
  Text.filterMap_lines_trim rfl text

theorem snippetLines_append (a b : List Char) :
    snippetLines (a ++ '\n' :: b) = snippetLines a ++ snippetLines b := by
  simp only [snippetLines_eq, Text.splitOn_append, List.filterMap_append]

/-- A snippet of one line says what the line says. -/
theorem ofSnippet_of_line {text : String} (h : '\n' ∉ text.toList) :
    ofSnippet text =
      match SnippetLine.parse? (Text.trim text.toList) with
      | none => .ok {}
      | some line => addLine {} line := by
  rw [ofSnippet, snippetLines_eq, Text.splitOn_of_not_mem h, List.filterMap_cons,
    List.filterMap_nil]
  cases SnippetLine.parse? (Text.trim text.toList) with
  | none => rfl
  | some line => exact bind_pure _

/-- What a compiled route is about and does is what it was compiled from. -/
theorem compile_eq_ok {source : String} {action : RouteAction} {r : Route}
    (h : Route.compile source action = .ok r) : r.pattern.source = source ∧ r.action = action := by
  rw [Route.compile, compilePattern, Pattern.compile?] at h
  split at h
  · next p hp =>
    cases h
    split at hp
    · split at hp
      · cases hp
        exact ⟨rfl, rfl⟩
      · cases hp
    · cases hp
  · cases h

theorem mem_routes_foldlM {lines : List SnippetLine} {t u : RoutingTable}
    (h : lines.foldlM addLine t = .ok u) {r : Route} (hr : r ∈ u.routes) :
    r ∈ t.routes ∨ ∃ pattern action, .route pattern action ∈ lines
      ∧ Route.compile (String.ofList pattern) action = .ok r := by
  induction lines generalizing t with
  | nil =>
    cases h
    exact Or.inl hr
  | cons line lines ih =>
    rw [List.foldlM_cons] at h
    cases hline : t.addLine line with
    | error fault =>
      rw [hline] at h
      cases h
    | ok t' =>
      rw [hline] at h
      rcases ih h with hmem | ⟨pattern, action, hmem, hcompile⟩
      -- The route stands in the table with this line: it is of this line or was there before.
      · cases line with
        | hostnames value =>
          cases hline
          exact Or.inl hmem
        | route pattern action =>
          rw [addLine] at hline
          cases hc : Route.compile (String.ofList pattern) action with
          | error fault =>
            rw [hc] at hline
            cases hline
          | ok route =>
            rw [hc] at hline
            cases hline
            rcases List.mem_append.mp hmem with hmem | hmem
            · exact Or.inl hmem
            · rw [List.mem_singleton] at hmem
              exact Or.inr ⟨pattern, action, List.mem_cons_self, hmem ▸ hc⟩
      · exact Or.inr ⟨pattern, action, List.mem_cons_of_mem _ hmem, hcompile⟩

/-- Every route of a snippet is what one of its lines says. -/
theorem exists_line_of_mem_routes {text : String} {t : RoutingTable}
    (h : ofSnippet text = .ok t) {r : Route} (hr : r ∈ t.routes) :
    ∃ line ∈ Text.lines text.toList,
      SnippetLine.parse? (Text.trim line) = some (.route r.pattern.source.toList r.action) := by
  rcases mem_routes_foldlM h hr with hmem | ⟨pattern, action, hmem, hcompile⟩
  · simp at hmem
  · obtain ⟨line, hline, hparse⟩ := List.mem_filterMap.mp hmem
    obtain ⟨hsource, haction⟩ := compile_eq_ok hcompile
    exact ⟨line, hline, by rw [hparse, hsource, haction, String.toList_ofList]⟩

/-! ## Merging -/

@[simp]
theorem merge_empty (t : RoutingTable) : t.merge {} = t := by
  simp [merge]

/-- A line that is added to the second of two tables is added to what they merge into. -/
theorem addLine_merge (t u : RoutingTable) (line : SnippetLine) :
    (t.merge u).addLine line = (u.addLine line).map t.merge := by
  cases line with
  | hostnames value =>
    simp only [addLine, merge, Except.map, Hostnames.merge_assoc]
  | route pattern action =>
    simp only [addLine]
    cases Route.compile (String.ofList pattern) action with
    | error fault => rfl
    | ok route => simp [Except.map, merge]

theorem foldlM_addLine_merge (t u : RoutingTable) (lines : List SnippetLine) :
    lines.foldlM addLine (t.merge u) = (lines.foldlM addLine u).map t.merge := by
  induction lines generalizing u with
  | nil => rfl
  | cons line lines ih =>
    rw [List.foldlM_cons, List.foldlM_cons, addLine_merge]
    cases u.addLine line with
    | error fault => rfl
    | ok u' => exact ih u'

/-- Lines that are added to a table add what they say on their own. -/
theorem foldlM_addLine_eq (t : RoutingTable) (lines : List SnippetLine) :
    lines.foldlM addLine t = (lines.foldlM addLine {}).map t.merge := by
  have h := foldlM_addLine_merge t {} lines
  rwa [merge_empty] at h

/-- Reading two snippets below each other fails with the fault of the first one that has one, and
otherwise merges the table of the second into that of the first. -/
theorem ofSnippet_append (a b : String) :
    ofSnippet (a ++ "\n" ++ b) =
      match ofSnippet a, ofSnippet b with
      | .error fault, _ => .error fault
      | .ok _, .error fault => .error fault
      | .ok t, .ok u => .ok (t.merge u) := by
  have htext : (a ++ "\n" ++ b).toList = a.toList ++ '\n' :: b.toList := by simp
  simp only [ofSnippet]
  rw [htext, snippetLines_append, List.foldlM_append]
  cases (snippetLines a.toList).foldlM addLine {} with
  | error fault => rfl
  | ok t =>
    -- The second text starts from the table of the first one instead of an empty table.
    show (snippetLines b.toList).foldlM addLine t = _
    rw [foldlM_addLine_eq]
    cases (snippetLines b.toList).foldlM addLine {} <;> rfl

end Intercept.RoutingTable
