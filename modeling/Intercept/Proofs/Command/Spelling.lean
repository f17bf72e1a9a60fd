import Intercept.Proofs.Command.Agreement
import Intercept.Proofs.Headers
import Intercept.Proofs.Preset
import Intercept.Proofs.Text.Case
import Intercept.Proofs.Text.Parts
import Mathlib.Data.List.Forall2

/-!
# Intercept.Proofs.Command.Spelling -- names of headers in another case

A header on the command line is a name, a colon and a value, and the user agent counts as a header
in front of all others. In which case the names are written never makes arguments fail. It does not
show in what is decided either, as long as the user agent is taken from the same place. Where it is
given in several places, another case may make another place count, and then there are values for
which the decision differs.
-/

namespace Intercept.Command

open Text (asciiLower trim)

variable {raw raw' name value : String}

/-! ## Names and values -/

/-- What stands in front of the first colon. -/
def namePart (raw : String) : List Char :=
  raw.toList.takeWhile (· != ':')

/-- What stands behind the name, the colon first. -/
def valuePart (raw : String) : List Char :=
  raw.toList.dropWhile (· != ':')

/-- The name of a header. -/
def headerName (raw : String) : String :=
  String.ofList (trim (namePart raw))

/-- The value of a header. -/
def headerValue (raw : String) : String :=
  String.ofList (trim (valuePart raw).tail)

/-- There is a colon, and in front of it there is more than blanks. -/
structure WellFormed (raw : String) : Prop where
  colon : valuePart raw ≠ []
  name : trim (namePart raw) ≠ []

instance (raw : String) : Decidable (WellFormed raw) :=
  decidable_of_iff (valuePart raw ≠ [] ∧ trim (namePart raw) ≠ [])
    ⟨fun h => ⟨h.1, h.2⟩, fun h => ⟨h.colon, h.name⟩⟩

theorem valuePart_eq_cons {c : Char} {back : List Char} (h : valuePart raw = c :: back) :
    c = ':' := by
  have hhead := List.head?_dropWhile_not (· != ':') raw.toList
  rw [valuePart] at h
  rw [h] at hhead
  simpa using hhead

theorem parseHeader_eq_ok (raw : String) (p : String × String) :
    parseHeader raw = .ok p ↔ WellFormed raw ∧ p = (headerName raw, headerValue raw) := by
  rw [parseHeader]
  cases hsplit : Text.splitOnce? ':' raw.toList with
  | none =>
    refine iff_of_false nofun ?_
    rintro ⟨⟨hcolon, -⟩, -⟩
    obtain ⟨c, back, hback⟩ := List.exists_cons_of_ne_nil hcolon
    obtain rfl := valuePart_eq_cons hback
    cases hsplit.symm.trans (Text.splitOnce?_eq_some_iff.mpr ⟨rfl, hback⟩)
  | some parts =>
    obtain ⟨hname, hback⟩ := Text.splitOnce?_eq_some_iff.mp hsplit
    have hvalue : String.ofList (trim parts.2) = headerValue raw := by
      rw [headerValue, valuePart, hback, List.tail_cons]
    have hcolon : valuePart raw ≠ [] := by
      rw [valuePart, hback]
      exact List.cons_ne_nil _ _
    dsimp only
    rw [hvalue, hname, ← namePart, ← headerName]
    split
    · next hblank =>
      refine iff_of_false nofun ?_
      rintro ⟨⟨-, hne⟩, -⟩
      exact hne (List.isEmpty_iff.mp hblank)
    · next hne =>
      have hwell : WellFormed raw := ⟨hcolon, fun hblank => hne (List.isEmpty_iff.mpr hblank)⟩
      rw [and_iff_right hwell, Except.ok.injEq]
      exact eq_comm

/-! ## Arguments -/

namespace ClassifyOptions

variable {o o' : ClassifyOptions} {i : Nat}

/-- All that is given as a header, the user agent first. -/
def given (o : ClassifyOptions) : List (String × String) :=
  (o.userAgent.toList.map fun value => ("User-Agent", value))
    ++ o.headers.map fun raw => (headerName raw, headerValue raw)

/-- The names under which headers are given. -/
def names (o : ClassifyOptions) : List String :=
  o.given.map Prod.fst

/-- The user agent is taken from a place among the headers that are given. -/
def AgentAt (o : ClassifyOptions) (i : Nat) : Prop :=
  Headers.DecidedAt "User-Agent" o.names i

/-- The request that arguments make up if all their headers are well-formed. -/
def requestOf (o : ClassifyOptions) : Request :=
  { url := o.url, headers := .ofList o.given }

theorem request_eq_ok {r : Request} : o.request = .ok r ↔
    (∀ raw ∈ o.headers, WellFormed raw) ∧ r = o.requestOf := by
  rw [request, bind_eq_ok]
  simp only [mapM_eq_ok parseHeader_eq_ok]
  constructor
  · rintro ⟨_, ⟨hwell, rfl⟩, hr⟩
    exact ⟨hwell, (Except.ok.inj hr).symm⟩
  · rintro ⟨hwell, rfl⟩
    exact ⟨_, ⟨hwell, rfl⟩, rfl⟩

/-- What is decided about a request once it is made up. -/
def decision (direct : Bool) (routes : Option Path) (r : Request) :
    ExceptT Fault (StateM FileTree) Completion := do
  if direct then
    let chain ← ExceptT.mk (pure Preset.chain)
    return .ofVerdict (chain.classify r)
  else
    let table ← loadTable routes
    let scripts ← ExceptT.mk (pure Preset.scripts)
    return .ofVerdict (table.dispatch scripts r)

/-- What becomes of the request that arguments ask about, in a tree of files. -/
def classifyIn (o : ClassifyOptions) (t : FileTree) : Except Fault Completion × FileTree :=
  (o.classify : ExceptT Fault (StateM FileTree) Completion).run.run t

theorem classifyIn_eq (o : ClassifyOptions) (t : FileTree) : o.classifyIn t
    = (ExceptT.mk (pure o.request) >>= decision o.direct o.routes).run.run t := rfl

/-- Where a decision about one request can be made, it can be made about any; it only sees the
locator and the user agent. -/
theorem decision_of_seen {direct : Bool} {routes : Option Path} {r r' : Request} {t t' : FileTree}
    {c : Completion} (hurl : r.url = r'.url)
    (h : (decision direct routes r).run.run t = (.ok c, t')) :
    ∃ c', (decision direct routes r').run.run t = (.ok c', t')
      ∧ (r.userAgent = r'.userAgent → c' = c) := by
  cases direct with
  | true =>
    obtain ⟨chain, hchain, hc⟩ := FileTree.run_pure_bind_eq_ok h
    cases hc
    refine ⟨.ofVerdict (chain.classify r'), ?_, fun hagent => ?_⟩
    · rw [decision, if_pos rfl, hchain]
      rfl
    · rw [chain.classify_congr hurl hagent]
  | false =>
    obtain ⟨table, t₁, hload, h⟩ := FileTree.run_bind_eq_ok h
    obtain ⟨scripts, hscripts, hc⟩ := FileTree.run_pure_bind_eq_ok h
    cases hc
    refine ⟨.ofVerdict (table.dispatch scripts r'), ?_, fun hagent => ?_⟩
    · rw [decision, if_neg Bool.false_ne_true, FileTree.run_bind_of_ok hload, hscripts]
      rfl
    · rw [table.dispatch_eq_of_seen scripts hurl hagent]

theorem classifyIn_eq_ok {t t' : FileTree} {c : Completion} :
    o.classifyIn t = (.ok c, t') ↔ (∀ raw ∈ o.headers, WellFormed raw)
      ∧ (decision o.direct o.routes o.requestOf).run.run t = (.ok c, t') := by
  rw [classifyIn_eq]
  constructor
  · intro h
    obtain ⟨r, hrequest, hdecide⟩ := FileTree.run_pure_bind_eq_ok h
    obtain ⟨hwell, rfl⟩ := request_eq_ok.mp hrequest
    exact ⟨hwell, hdecide⟩
  · rintro ⟨hwell, hdecide⟩
    rw [request_eq_ok.mpr ⟨hwell, rfl⟩]
    exact hdecide

/-- Whether the built-in chain ends a request that arguments make up is seen in the status. -/
theorem classify_direct (hdirect : o.direct = true) (hwell : ∀ raw ∈ o.headers, WellFormed raw)
    (t : FileTree) :
    ∃ c, o.classifyIn t = (.ok c, t)
      ∧ (c.status.isSome = true ↔
        Blocker.Denied Preset.amdcTokens Preset.blockedKeys o.requestOf) := by
  obtain ⟨chain, hchain, hblock⟩ := Preset.exists_chain_isBlock
  refine ⟨.ofVerdict (chain.classify o.requestOf), classifyIn_eq_ok.mpr ⟨hwell, ?_⟩, ?_⟩
  · rw [decision, if_pos hdirect, hchain]
    rfl
  · rw [← hblock o.requestOf]
    cases chain.classify o.requestOf with
    | block statusLine body => exact iff_of_true rfl rfl
    | pass body => exact iff_of_false nofun nofun

end ClassifyOptions

/-! ## Names in another case -/

/-- Two headers differ at most in the case of the ASCII letters of their names. -/
structure SameButCase (raw raw' : String) : Prop where
  name : asciiLower (namePart raw) = asciiLower (namePart raw')
  value : valuePart raw = valuePart raw'

namespace SameButCase

theorem trim_namePart (h : SameButCase raw raw') :
    asciiLower (trim (namePart raw)) = asciiLower (trim (namePart raw')) := by
  rw [← Text.trim_asciiLower, h.name, Text.trim_asciiLower]

theorem lowerName_headerName (h : SameButCase raw raw') :
    Headers.lowerName (headerName raw) = Headers.lowerName (headerName raw') := by
  rw [Headers.lowerName, Headers.lowerName, headerName, headerName, String.toList_ofList,
    String.toList_ofList, h.trim_namePart]

theorem headerValue_eq (h : SameButCase raw raw') : headerValue raw = headerValue raw' := by
  rw [headerValue, headerValue, h.value]

theorem wellFormed (h : SameButCase raw raw') (hwell : WellFormed raw) : WellFormed raw' := by
  refine ⟨h.value ▸ hwell.colon, fun hblank => hwell.name ?_⟩
  have hlower := h.trim_namePart
  rw [hblank] at hlower
  exact List.map_eq_nil_iff.mp hlower

variable {raws raws' : List String}

theorem forall_wellFormed (h : List.Forall₂ SameButCase raws raws')
    (hwell : ∀ raw ∈ raws, WellFormed raw) : ∀ raw ∈ raws', WellFormed raw := by
  induction h with
  | nil => exact hwell
  | cons hsame _ ih =>
    rw [List.forall_mem_cons] at hwell ⊢
    exact ⟨hsame.wellFormed hwell.1, ih hwell.2⟩

theorem map_eq {α : Type} {f : String → α}
    (hf : ∀ {raw raw'}, SameButCase raw raw' → f raw = f raw')
    (h : List.Forall₂ SameButCase raws raws') : raws.map f = raws'.map f := by
  induction h with
  | nil => rfl
  | cons hsame _ ih => rw [List.map_cons, List.map_cons, hf hsame, ih]

end SameButCase

namespace ClassifyOptions

variable {o o' : ClassifyOptions}

/-- Arguments that differ at most in the case of the ASCII letters of the names of headers. -/
structure Recased (o o' : ClassifyOptions) : Prop where
  url : o.url = o'.url
  userAgent : o.userAgent = o'.userAgent
  routes : o.routes = o'.routes
  direct : o.direct = o'.direct
  headers : List.Forall₂ SameButCase o.headers o'.headers

namespace Recased

theorem values (h : o.Recased o') : o.given.map Prod.snd = o'.given.map Prod.snd := by
  simp only [given, List.map_append, List.map_map, h.userAgent]
  exact congrArg _ (SameButCase.map_eq SameButCase.headerValue_eq h.headers)

theorem lowerNames (h : o.Recased o') :
    o.names.map Headers.lowerName = o'.names.map Headers.lowerName := by
  simp only [names, given, List.map_append, List.map_map, h.userAgent]
  exact congrArg _ (SameButCase.map_eq SameButCase.lowerName_headerName h.headers)

theorem userAgent_requestOf (h : o.Recased o') (hplace : ∀ i, o.AgentAt i ↔ o'.AgentAt i) :
    o.requestOf.userAgent = o'.requestOf.userAgent := by
  have hget : (Headers.ofList o.given).get? "User-Agent"
      = (Headers.ofList o'.given).get? "User-Agent" := by
    refine Option.ext fun value => ?_
    rw [Headers.get?_ofList, Headers.get?_ofList, h.values]
    exact exists_congr fun i => and_congr_left fun _ => hplace i
  rw [Request.userAgent, Request.userAgent, requestOf, requestOf, hget]

end Recased

/-! ## Arguments that tell places apart -/

section Marked

variable {names names' : List String}

/-- A name that is read from a header as it was written. -/
structure IsName (name : String) : Prop where
  colon : ':' ∉ name.toList
  trimmed : trim name.toList = name.toList
  ne_nil : name.toList ≠ []

theorem isName_headerName (h : WellFormed raw) : IsName (headerName raw) := by
  refine ⟨?_, ?_, ?_⟩
  · rw [headerName, String.toList_ofList]
    intro hcolon
    have hpart := List.mem_takeWhile_imp (Text.trim_subset _ hcolon)
    simp at hpart
  · rw [headerName, String.toList_ofList, Text.trim_trim]
  · rw [headerName, String.toList_ofList]
    exact h.name

theorem isName_of_mem_names (hwell : ∀ raw ∈ o.headers, WellFormed raw) (h : name ∈ o.names) :
    IsName name := by
  rw [names, given, List.map_append, List.mem_append] at h
  rcases h with hagent | hheader
  · obtain rfl : "User-Agent" = name := by
      cases huser : o.userAgent with
      | none => simp [huser] at hagent
      | some _ => simpa [huser, eq_comm] using hagent
    exact ⟨by decide, by decide, by decide⟩
  · rw [List.map_map, List.mem_map] at hheader
    obtain ⟨raw, hraw, rfl⟩ := hheader
    exact isName_headerName (hwell raw hraw)

/-- A value that is denied, at one place, and an empty one at all others. -/
def markAt (i j : Nat) : String :=
  if j = i then "alibaba" else ""

theorem trim_markAt (i j : Nat) : String.ofList (trim (markAt i j).toList) = markAt i j := by
  rw [markAt]
  split
  · decide
  · decide

/-- Headers under given names, of which that at one place has a value that is denied. -/
def marked (names : List String) (i : Nat) : ClassifyOptions :=
  { url := "", headers := names.mapIdx fun j name => name ++ ":" ++ markAt i j, direct := true }

theorem parts_header (h : IsName name) (value : String) :
    namePart (name ++ ":" ++ value) = name.toList
      ∧ valuePart (name ++ ":" ++ value) = ':' :: value.toList := by
  have hall : ∀ c ∈ name.toList, (c != ':') = true := by
    intro c hc
    rw [bne_iff_ne]
    rintro rfl
    exact h.colon hc
  have hraw : (name ++ ":" ++ value).toList = name.toList ++ ':' :: value.toList := by
    simp
  rw [namePart, valuePart, hraw]
  refine ⟨?_, ?_⟩
  · rw [List.takeWhile_append_of_pos hall]
    simp
  · rw [List.dropWhile_append_of_pos hall]
    simp

theorem wellFormed_header (h : IsName name) (value : String) :
    WellFormed (name ++ ":" ++ value) := by
  obtain ⟨hname, hvalue⟩ := parts_header h value
  refine ⟨by rw [hvalue]; exact List.cons_ne_nil _ _, ?_⟩
  rw [hname, h.trimmed]
  exact h.ne_nil

theorem given_marked (hnames : ∀ name ∈ names, IsName name) (i : Nat) :
    (marked names i).given = names.mapIdx fun j name => (name, markAt i j) := by
  have hgiven : (marked names i).given
      = (marked names i).headers.map fun raw => (headerName raw, headerValue raw) := rfl
  rw [hgiven, marked]
  refine List.ext_getElem (by simp) fun j hj hj' => ?_
  simp only [List.getElem_map, List.getElem_mapIdx]
  have hname := hnames _ (List.getElem_mem (by simpa using hj'))
  obtain ⟨hfront, hback⟩ := parts_header hname (markAt i j)
  rw [headerName, headerValue, hfront, hback, hname.trimmed, List.tail_cons, trim_markAt,
    String.ofList_toList]

theorem names_marked (hnames : ∀ name ∈ names, IsName name) (i : Nat) :
    (marked names i).names = names := by
  rw [ClassifyOptions.names, given_marked hnames]
  exact List.ext_getElem (by simp) fun j hj hj' => by simp

theorem wellFormed_marked (hnames : ∀ name ∈ names, IsName name) (i : Nat) :
    ∀ raw ∈ (marked names i).headers, WellFormed raw := by
  intro raw hraw
  obtain ⟨j, hj, rfl⟩ := List.mem_mapIdx.mp hraw
  exact wellFormed_header (hnames _ (List.getElem_mem hj)) _

theorem value_marked (hnames : ∀ name ∈ names, IsName name) (i j : Nat) :
    ((marked names i).given.map Prod.snd)[j]? = names[j]?.map fun _ => markAt i j := by
  rw [given_marked hnames, List.getElem?_map, List.getElem?_mapIdx, Option.map_map]
  rfl

/-- The marked value is the user agent where it is taken from the marked place. -/
theorem userAgent_marked (hnames : ∀ name ∈ names, IsName name) (i : Nat) :
    Headers.DecidedAt "User-Agent" names i ∧ (marked names i).requestOf.userAgent = "alibaba"
      ∨ ¬ Headers.DecidedAt "User-Agent" names i
        ∧ (marked names i).requestOf.userAgent = "" := by
  have hget : ∀ {value}, (Headers.ofList (marked names i).given).get? "User-Agent" = some value ↔
      ∃ j, Headers.DecidedAt "User-Agent" names j
        ∧ (names[j]?.map fun _ => markAt i j) = some value := by
    intro value
    rw [Headers.get?_ofList, ← ClassifyOptions.names, names_marked hnames]
    simp only [value_marked hnames]
  rw [Request.userAgent, requestOf]
  by_cases hi : Headers.DecidedAt "User-Agent" names i
  · obtain ⟨s, -, hs, -⟩ := id hi
    have hagent := hget.mpr ⟨i, hi, by rw [hs, Option.map_some]⟩
    exact .inl ⟨hi, by rw [hagent, Option.getD_some, markAt, if_pos rfl]⟩
  · refine .inr ⟨hi, ?_⟩
    cases hagent : (Headers.ofList (marked names i).given).get? "User-Agent" with
    | none => rfl
    | some value =>
      obtain ⟨j, hj, hvalue⟩ := hget.mp hagent
      obtain ⟨s, -, rfl⟩ := Option.map_eq_some_iff.mp hvalue
      have hne : j ≠ i := by
        rintro rfl
        exact hi hj
      rw [Option.getD_some, markAt, if_neg hne]

/-- What is marked is denied where the user agent is taken from the marked place. -/
theorem denied_marked (hnames : ∀ name ∈ names, IsName name) (i : Nat) :
    Blocker.Denied Preset.amdcTokens Preset.blockedKeys (marked names i).requestOf ↔
      Headers.DecidedAt "User-Agent" names i := by
  have hseen : ∀ {agent}, (marked names i).requestOf.userAgent = agent →
      (Blocker.Denied Preset.amdcTokens Preset.blockedKeys (marked names i).requestOf ↔
        Blocker.Denied Preset.amdcTokens Preset.blockedKeys (Blocker.agentOnly agent)) := by
    rintro _ rfl
    exact Iff.rfl
  have hmarked : Blocker.Denied Preset.amdcTokens Preset.blockedKeys
      (Blocker.agentOnly "alibaba") := by decide +kernel
  have hempty : ¬ Blocker.Denied Preset.amdcTokens Preset.blockedKeys
      (Blocker.agentOnly "") := by decide +kernel
  rcases userAgent_marked hnames i with ⟨hi, hagent⟩ | ⟨hi, hagent⟩
  · exact iff_of_true ((hseen hagent).mpr hmarked) hi
  · exact iff_of_false (fun hdenied => hempty ((hseen hagent).mp hdenied)) hi

theorem sameButCase_header {name' : String} (h : IsName name) (h' : IsName name')
    (hlower : Headers.lowerName name = Headers.lowerName name') (value : String) :
    SameButCase (name ++ ":" ++ value) (name' ++ ":" ++ value) := by
  obtain ⟨hname, hvalue⟩ := parts_header h value
  obtain ⟨hname', hvalue'⟩ := parts_header h' value
  refine ⟨?_, by rw [hvalue, hvalue']⟩
  rw [hname, hname']
  exact String.ofList_injective hlower

theorem recased_marked (hnames : ∀ name ∈ names, IsName name)
    (hnames' : ∀ name ∈ names', IsName name)
    (hlower : names.map Headers.lowerName = names'.map Headers.lowerName) (i : Nat) :
    (marked names i).Recased (marked names' i) := by
  refine ⟨rfl, rfl, rfl, rfl, List.forall₂_iff_get.mpr ⟨?_, fun j hj hj' => ?_⟩⟩
  · simpa [marked] using congrArg List.length hlower
  · have hnj : j < names.length := by simpa [marked] using hj
    have hnj' : j < names'.length := by simpa [marked] using hj'
    have hsame : Headers.lowerName names[j] = Headers.lowerName names'[j] := by
      have hat := congrArg (·[j]?) hlower
      simpa [hnj, hnj'] using hat
    simpa [marked] using sameButCase_header (hnames _ (List.getElem_mem hnj))
      (hnames' _ (List.getElem_mem hnj')) hsame (markAt i j)

end Marked

/-! ## Two runs -/

/-- Where the user agent is taken from different places, there are values under the same names for
which the completions differ. -/
theorem Recased.exists_ne (h : o.Recased o') (hwell : ∀ raw ∈ o.headers, WellFormed raw)
    (hplace : ¬ ∀ i, o.AgentAt i ↔ o'.AgentAt i) (t : FileTree) :
    ∃ p p' : ClassifyOptions, ∃ d d', p.names = o.names ∧ p'.names = o'.names ∧ p.Recased p'
      ∧ p.classifyIn t = (.ok d, t) ∧ p'.classifyIn t = (.ok d', t) ∧ d ≠ d' := by
  obtain ⟨i, hi⟩ := not_forall.mp hplace
  have hwell' := SameButCase.forall_wellFormed h.headers hwell
  have hnames : ∀ name ∈ o.names, IsName name := fun _ => isName_of_mem_names hwell
  have hnames' : ∀ name ∈ o'.names, IsName name := fun _ => isName_of_mem_names hwell'
  obtain ⟨d, hd, hstatus⟩ := classify_direct (o := marked o.names i) rfl
    (wellFormed_marked hnames i) t
  obtain ⟨d', hd', hstatus'⟩ := classify_direct (o := marked o'.names i) rfl
    (wellFormed_marked hnames' i) t
  rw [denied_marked hnames] at hstatus
  rw [denied_marked hnames'] at hstatus'
  refine ⟨marked o.names i, marked o'.names i, d, d', names_marked hnames i,
    names_marked hnames' i, recased_marked hnames hnames' h.lowerNames i, hd, hd', ?_⟩
  rintro rfl
  exact hi (hstatus.symm.trans hstatus')

/-- In which case header names are written does not make arguments fail. It does not show in the
completion as long as the user agent is taken from the same place, the last one with the preferred
spelling. Where it is taken from another place, there are values with which it shows. -/
theorem classify_of_recased (h : o.Recased o') {t t' : FileTree} {c : Completion}
    (hrun : o.classifyIn t = (.ok c, t')) :
    ∃ c', o'.classifyIn t = (.ok c', t')
      ∧ ((∀ i, o.AgentAt i ↔ o'.AgentAt i) → c' = c)
      ∧ ((¬ ∀ i, o.AgentAt i ↔ o'.AgentAt i) → ∃ p p' : ClassifyOptions, ∃ d d',
        p.names = o.names ∧ p'.names = o'.names ∧ p.Recased p'
          ∧ p.classifyIn t = (.ok d, t) ∧ p'.classifyIn t = (.ok d', t) ∧ d ≠ d') := by
  obtain ⟨hwell, hdecide⟩ := classifyIn_eq_ok.mp hrun
  have hwell' := SameButCase.forall_wellFormed h.headers hwell
  have hurl : o.requestOf.url = o'.requestOf.url := h.url
  obtain ⟨c', hdecide', hsame⟩ := decision_of_seen hurl hdecide
  rw [h.direct, h.routes] at hdecide'
  exact ⟨c', classifyIn_eq_ok.mpr ⟨hwell', hdecide'⟩,
    fun hplace => hsame (h.userAgent_requestOf hplace), fun hplace => h.exists_ne hwell hplace t⟩

/-- A header that is given in two spellings. The one that does not count is written in capitals. -/
theorem classify_of_recased_capitals :
    let o : ClassifyOptions := {
      url := "", headers := ["User-Agent : Hema", "user-agent: b", "x: c"], direct := true }
    let o' : ClassifyOptions := {
      url := "", headers := ["User-Agent : Hema", "USER-agent: b", "X: c"], direct := true }
    o.Recased o' ∧ ∃ c, o.classifyIn {} = (.ok c, {}) ∧ o'.classifyIn {} = (.ok c, {})
      ∧ c.status.isSome = true := by
  intro o o'
  have h : o.Recased o' := ⟨rfl, rfl, rfl, rfl, .cons ⟨by decide, by decide⟩
    (.cons ⟨by decide, by decide⟩ (.cons ⟨by decide, by decide⟩ .nil))⟩
  have hfirst : Headers.LastAt "User-Agent" o.names 0 := by decide
  have hfirst' : Headers.LastAt "User-Agent" o'.names 0 := by decide
  have hplace : ∀ i, o.AgentAt i ↔ o'.AgentAt i := fun i =>
    (Headers.decidedAt_of_exact hfirst).trans (Headers.decidedAt_of_exact hfirst').symm
  obtain ⟨c, hrun, hstatus⟩ := classify_direct (o := o) rfl (by decide) {}
  obtain ⟨c', hrun', hsame, -⟩ := classify_of_recased h hrun
  obtain rfl := hsame hplace
  exact ⟨h, c', hrun, hrun', hstatus.mpr (by decide +kernel)⟩

/-- A header that is given in two spellings, of which the one that counts is made small: it is
replaced by the other one. -/
theorem completion_ne_of_recased :
    let o : ClassifyOptions := {
      url := "", headers := ["User-Agent: Alibaba", "user-agent: ok"], direct := true }
    let o' : ClassifyOptions := {
      url := "", headers := ["user-agent: Alibaba", "user-agent: ok"], direct := true }
    o.Recased o' ∧ ∃ c c', o.classifyIn {} = (.ok c, {}) ∧ o'.classifyIn {} = (.ok c', {})
      ∧ c ≠ c' := by
  intro o o'
  have h : o.Recased o' := ⟨rfl, rfl, rfl, rfl, .cons ⟨by decide, by decide⟩
    (.cons ⟨by decide, by decide⟩ .nil)⟩
  obtain ⟨c, hrun, hstatus⟩ := classify_direct (o := o) rfl (by decide) {}
  obtain ⟨c', hrun', hstatus'⟩ := classify_direct (o := o') rfl (by decide) {}
  refine ⟨h, c, c', hrun, hrun', ?_⟩
  rintro rfl
  have hdenied : Blocker.Denied Preset.amdcTokens Preset.blockedKeys o.requestOf := by
    decide +kernel
  have hnot : ¬ Blocker.Denied Preset.amdcTokens Preset.blockedKeys o'.requestOf := by
    decide +kernel
  exact hnot (hstatus'.mp (hstatus.mpr hdenied))

end ClassifyOptions

end Intercept.Command
