import Intercept.Command.Run
import Intercept.Proofs.Fault
import Intercept.Proofs.Files.Change
import Intercept.Proofs.Request
import Intercept.Proofs.Server
import Intercept.Proofs.Text.Utf8

/-!
# Intercept.Proofs.Command.Agreement -- the command line and the server decide alike

A request can be classified by the command line, which makes it of its arguments, and by a server,
which reads it from the body of a call. Where the body is the request of the arguments as JSON, and
the server has the table that the arguments name, both give the same completion. On the way the
request becomes a text, the text becomes bytes, and the bytes become a request again; its headers
may have changed places, which is not seen since no name stands twice among them.
-/

namespace Intercept

/-! ## Bytes of a value -/

namespace Json

theorem readBytes_encode (s : String) : readBytes (Text.Utf8.encode s.toList) = read s := by
  rw [readBytes, read, Text.Utf8.decode_encode]

end Json

namespace Request

theorem readBytes_render {r : Request} (hd : r.headers.Distinct) :
    (Json.readBytes (Text.Utf8.encode r.toJson.render.toList)).bind ofJson? = some r := by
  rw [Json.readBytes_encode, read_render hd]

end Request

/-! ## Calls that hand a request over -/

namespace Server

/-- A call that asks for a decision about a request: it is posted to the path for that, and its body
is the request as JSON, with the headers in any order. -/
structure Posts (call : Call) (r : Request) : Prop where
  decides : (Step.call call).decides = true
  fits : (Step.call call).Fits
  body : ∃ r', r.Reordered r' ∧ call.body = Text.Utf8.encode r'.toJson.render.toList

/-- What is decided about a call is what the table says about the request that it hands over. -/
theorem bodyVerdict_of_posts {call : Call} {r : Request} (h : Posts call r)
    (hd : r.headers.Distinct) (table : RoutingTable) (scripts : Registry) :
    bodyVerdict table scripts call.body = table.dispatch scripts r := by
  obtain ⟨r', hsame, hbody⟩ := h.body
  have hread : (Json.readBytes call.body).bind Request.ofJson? = some r' := by
    rw [hbody]
    exact Request.readBytes_render (hd.perm hsame.headers)
  rw [bodyVerdict, hread]
  exact (table.dispatch_eq_of_reordered scripts hsame hd).symm

theorem respond_of_posts {call : Call} {r : Request} (h : Posts call r)
    (hd : r.headers.Distinct) (s : Server) :
    (s.respond call).2 = .json (Completion.ofVerdict (s.table.dispatch s.scripts r)).toJson := by
  rw [respond_of_decides h.decides h.fits, bodyVerdict_of_posts h hd]

end Server

/-! ## The command line -/

namespace Command

/-- Loading a table changes no file, whether or not the table can be read. -/
theorem run_loadTable_snd (file : Option Path) (t : FileTree) :
    ((loadTable file : ExceptT Fault (StateM FileTree) RoutingTable).run.run t).2 = t := by
  cases file with
  | none => rfl
  | some p =>
    -- Both ways out of reading the file leave the tree as it is, and so does what comes after.
    obtain ⟨_, _, hread, hrun⟩ | ⟨_, _, hread, hrun⟩ := FileTree.run_bind_cases
      (Files.orFail (.fileUnreadable p.text) (Files.readText p))
      (fun text => ExceptT.mk (pure
        (if p.extension? = some "json".toList then RoutingTable.ofJsonText text
        else RoutingTable.ofSnippet text))) t
    · exact (congrArg Prod.snd hrun).trans (congrArg Prod.snd hread).symm
    · exact (congrArg Prod.snd hrun).trans (congrArg Prod.snd hread).symm

namespace ClassifyOptions

/-- No name stands twice among the headers of a request that arguments make up. -/
theorem distinct_of_request {o : ClassifyOptions} {r : Request} (h : o.request = .ok r) :
    r.headers.Distinct := by
  obtain ⟨given, -, hr⟩ := bind_eq_ok.mp h
  cases hr
  exact Headers.distinct_ofList _

/-- A completion comes from a request that the arguments make up, and from a table and scripts that
are there. -/
theorem classify_eq_ok {o : ClassifyOptions} (hdirect : o.direct = false) {t t' : FileTree}
    {c : Completion}
    (h : (o.classify : ExceptT Fault (StateM FileTree) Completion).run.run t = (.ok c, t')) :
    t' = t ∧ ∃ r table scripts, o.request = .ok r
      ∧ (loadTable o.routes : ExceptT Fault (StateM FileTree) RoutingTable).run.run t
          = (.ok table, t)
      ∧ Preset.scripts = .ok scripts ∧ c = .ofVerdict (table.dispatch scripts r) := by
  rw [classify, hdirect] at h
  obtain ⟨r, hrequest, hdecide⟩ := FileTree.run_pure_bind_eq_ok h
  rw [if_neg Bool.false_ne_true] at hdecide
  obtain ⟨table, t₁, hload, hdispatch⟩ := FileTree.run_bind_eq_ok hdecide
  have ht : t₁ = t := (congrArg Prod.snd hload).symm.trans (run_loadTable_snd o.routes t)
  rw [ht] at hload hdispatch
  obtain ⟨scripts, hscripts, hverdict⟩ := FileTree.run_pure_bind_eq_ok hdispatch
  cases hverdict
  exact ⟨rfl, r, table, scripts, hrequest, hload, hscripts, rfl⟩

/-- The command line and the server decide alike. When arguments get a completion, a server with the
table that they name and the built-in scripts, whatever it has counted, gives the same one to every
call that hands over the request of the arguments; no file changes on the way. -/
theorem answer_of_classify {o : ClassifyOptions} (hdirect : o.direct = false) {t t' : FileTree}
    {c : Completion}
    (h : (o.classify : ExceptT Fault (StateM FileTree) Completion).run.run t = (.ok c, t')) :
    t' = t ∧ ∃ r table scripts, o.request = .ok r
      ∧ (loadTable o.routes : ExceptT Fault (StateM FileTree) RoutingTable).run.run t
          = (.ok table, t)
      ∧ Preset.scripts = .ok scripts
      ∧ ∀ call tally, Server.Posts call r → (Server.respond { table, scripts, tally } call).2
          = { status := 200, contentType := some "application/json", body := c.render } := by
  obtain ⟨ht, r, table, scripts, hrequest, hload, hscripts, rfl⟩ := classify_eq_ok hdirect h
  refine ⟨ht, r, table, scripts, hrequest, hload, hscripts, fun call tally hposts => ?_⟩
  exact Server.respond_of_posts hposts (distinct_of_request hrequest) _

/-- A user agent in two spellings, one of its values outside of ASCII, and a call that names the
spellings the other way round. -/
theorem answer_of_classify_spellings :
    let t : FileTree := {
      entries := [(["r"], .file (Text.Utf8.encode "hostname = *\n^http url reject-200".toList))] }
    let o : ClassifyOptions := {
      url := "http://[::1]/é"
      userAgent := some "ä"
      headers := ["user-agent: b"]
      routes := some { text := "/r" } }
    let call : Call := {
      method := "POST"
      target := "/classify"
      body := Text.Utf8.encode ("\x7b\"url\":\"http://[::1]/é\",\"headers\":"
        ++ "\x7b\"user-agent\":\"b\",\"User-Agent\":\"ä\"\x7d,\"bodyAvailable\":false\x7d").toList }
    o.direct = false ∧ ∃ c table scripts,
      (o.classify : ExceptT Fault (StateM FileTree) Completion).run.run t = (.ok c, t)
        ∧ (loadTable o.routes : ExceptT Fault (StateM FileTree) RoutingTable).run.run t
            = (.ok table, t)
        ∧ Preset.scripts = .ok scripts
        ∧ c = { status := some "HTTP/1.1 200 OK", body := some "" }
        ∧ (Server.respond { table, scripts } call).2
          = { status := 200, contentType := some "application/json", body := c.render } := by
  intro t o call
  have hc : ((o.classify : ExceptT Fault (StateM FileTree) Completion).run.run t).1.toOption
      = some { status := some "HTTP/1.1 200 OK", body := some "" } := by decide +kernel
  cases hrun : (o.classify : ExceptT Fault (StateM FileTree) Completion).run.run t with
  | mk result t' =>
    rw [hrun] at hc
    cases result with
    | error fault => cases hc
    | ok c =>
      obtain ⟨ht, r, table, scripts, hrequest, hload, hscripts, hanswer⟩ :=
        answer_of_classify rfl hrun
      let r' : Request := {
        url := o.url
        headers := { entries := [("user-agent", "b"), ("User-Agent", "ä")] } }
      have hr : r = { r' with headers := { entries := r'.headers.entries.reverse } } :=
        Except.ok.inj (hrequest.symm.trans (by decide +kernel))
      have hsame : r.Reordered r' := by
        rw [hr]
        exact ⟨rfl, rfl, List.reverse_perm _⟩
      have hbody : call.body = Text.Utf8.encode r'.toJson.render.toList := by decide +kernel
      have hposts : Server.Posts call r :=
        ⟨by decide +kernel, by decide +kernel, r', hsame, hbody⟩
      exact ⟨rfl, c, table, scripts, by rw [ht], hload, hscripts, Option.some.inj hc,
        hanswer call {} hposts⟩

end ClassifyOptions

end Command

end Intercept
