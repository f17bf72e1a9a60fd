import Intercept.Proofs.Json.Roundtrip
import Intercept.Route.Table
import Mathlib.Data.List.Nodup

/-!
# Intercept.Proofs.Request -- requests on their way

A request that is handed over as JSON is the same request on the other side. Only the order of its
headers may be another one, and that is not seen: no name stands twice among headers, so a name has
one value, and of several spellings the least one is the same in any order. What is decided about a
request depends on its locator and its user agent.
-/

namespace Intercept

namespace Headers

/-! ## Headers without repeated names -/

/-- No name stands twice in the very same spelling. -/
def Distinct (h : Headers) : Prop :=
  (h.entries.map Prod.fst).Nodup

theorem entries_ofList (pairs : List (String × String)) :
    (ofList pairs).entries = Keyed.ofList pairs := by
  have hfold : ∀ h : Headers,
      (pairs.foldl (fun h p => h.insert p.1 p.2) h).entries
        = pairs.foldl (fun acc p => Keyed.put p.1 p.2 acc) h.entries := by
    induction pairs with
    | nil => exact fun _ => rfl
    | cons p pairs ih => exact fun h => ih (h.insert p.1 p.2)
  exact hfold .empty

theorem distinct_ofList (pairs : List (String × String)) : (ofList pairs).Distinct := by
  rw [Distinct, entries_ofList]
  exact Keyed.nodup_ofList pairs

theorem Distinct.perm {h h' : Headers} (hd : h.Distinct) (hperm : h.entries.Perm h'.entries) :
    h'.Distinct :=
  (hperm.map Prod.fst).nodup hd

/-! ## Headers as JSON -/

theorem isPlain_toJson (h : Headers) : Json.isPlain h.toJson = true := by
  simp [toJson]

theorem ofJson?_toJson {h : Headers} (hd : h.Distinct) : ofJson? h.toJson = some h := by
  have htext : ∀ s, (Json.text s).text? = some s := fun _ => rfl
  rw [ofJson?, toJson, Json.dictionary?_object htext hd, Option.map_some]

/-! ## Looking up a name -/

theorem least?_eq_none {l : List (String × String)} : least? l = none ↔ l = [] := by
  cases l with
  | nil => exact iff_of_true rfl rfl
  | cons p l =>
    refine iff_of_false ?_ (List.cons_ne_nil p l)
    rw [least?]
    cases least? l <;> simp

/-- The entry with the least name is one of those that are looked at, and none has a lesser name. -/
theorem least?_eq_some {l : List (String × String)} {p : String × String} (h : least? l = some p) :
    p ∈ l ∧ ∀ q ∈ l, ¬ q.1 < p.1 := by
  induction l generalizing p with
  | nil => cases h
  | cons a l ih =>
    rw [least?] at h
    cases hrest : least? l with
    | none =>
      rw [hrest] at h
      cases h
      refine ⟨List.mem_cons_self, fun q hq => ?_⟩
      rw [least?_eq_none.mp hrest, List.mem_singleton] at hq
      rw [hq]
      exact String.lt_irrefl a.1
    | some b =>
      rw [hrest] at h
      obtain ⟨hb, hleast⟩ := ih hrest
      have hp : lesser a b = p := Option.some.inj h
      rw [lesser] at hp
      split at hp
      · next hlt =>
        subst hp
        refine ⟨List.mem_cons_of_mem a hb, fun q hq => ?_⟩
        rcases List.mem_cons.mp hq with rfl | hq
        · exact String.lt_asymm hlt
        · exact hleast q hq
      · next hlt =>
        subst hp
        refine ⟨List.mem_cons_self, fun q hq hqa => ?_⟩
        rcases List.mem_cons.mp hq with rfl | hq
        · exact absurd hqa (String.lt_irrefl q.1)
        · -- What is less than the first one would be less than the least of the others.
          have hle : a.1 ≤ q.1 :=
            String.le_trans (String.not_lt.mp hlt) (String.not_lt.mp (hleast q hq))
          exact String.not_lt.mpr hle hqa

/-- Names that differ have one least among them, in whatever order they come. -/
theorem least?_perm {l l' : List (String × String)} (hd : (l.map Prod.fst).Nodup)
    (hperm : l.Perm l') : least? l = least? l' := by
  cases h : least? l with
  | none =>
    rw [least?_eq_none] at h
    subst h
    exact (least?_eq_none.mpr hperm.nil_eq.symm).symm
  | some p =>
    obtain ⟨hp, hleast⟩ := least?_eq_some h
    cases h' : least? l' with
    | none =>
      rw [least?_eq_none] at h'
      rw [h', List.perm_nil] at hperm
      rw [hperm] at hp
      cases hp
    | some p' =>
      obtain ⟨hp', hleast'⟩ := least?_eq_some h'
      have hname : p.1 = p'.1 := String.le_antisymm
        (String.not_lt.mp (hleast p' (hperm.mem_iff.mpr hp')))
        (String.not_lt.mp (hleast' p (hperm.mem_iff.mp hp)))
      rw [List.inj_on_of_nodup_map hd hp (hperm.mem_iff.mpr hp') hname]

/-- In which order headers stand does not show. -/
theorem get?_perm {h h' : Headers} (hd : h.Distinct) (hperm : h.entries.Perm h'.entries)
    (name : String) : h.get? name = h'.get? name := by
  have hexact : ∀ name, h.getExact? name = h'.getExact? name := Keyed.lookup_perm hd hperm
  have hsame : (h.entries.filter fun p => lowerName p.1 == lowerName name).Perm
      (h'.entries.filter fun p => lowerName p.1 == lowerName name) := hperm.filter _
  have hnames : ((h.entries.filter fun p => lowerName p.1 == lowerName name).map Prod.fst).Nodup :=
    (List.filter_sublist.map Prod.fst).nodup hd
  rw [get?, get?, hexact, hexact, least?_perm hnames hsame]

end Headers

namespace Request

/-! ## Requests as JSON -/

theorem isPlain_toJson (r : Request) : Json.isPlain r.toJson = true := by
  simp [toJson, Headers.isPlain_toJson, Json.isPlain]

theorem ofJson?_toJson {r : Request} (hd : r.headers.Distinct) : ofJson? r.toJson = some r := by
  have hfields : r.toJson.fields? fieldNames = some
      { values := [some (.text r.url), some r.headers.toJson, some (.bool r.bodyAvailable)]
        positional := false } := rfl
  simp [ofJson?, hfields, Json.Fields.required, Json.Fields.withDefault, Json.text, Json.text?,
    Json.bool?, Headers.ofJson?_toJson hd]

/-- A request is read from the text as which it is written. -/
theorem read_render {r : Request} (hd : r.headers.Distinct) :
    (Json.read r.toJson.render).bind ofJson? = some r := by
  rw [Json.read_render r.isPlain_toJson, Option.bind_some, ofJson?_toJson hd]

/-! ## Requests with their headers in another order -/

/-- Two requests differ at most in the order of their headers. -/
structure Reordered (r r' : Request) : Prop where
  url : r.url = r'.url
  bodyAvailable : r.bodyAvailable = r'.bodyAvailable
  headers : r.headers.entries.Perm r'.headers.entries

theorem Reordered.userAgent {r r' : Request} (h : Reordered r r') (hd : r.headers.Distinct) :
    r.userAgent = r'.userAgent := by
  rw [Request.userAgent, Request.userAgent, Headers.get?_perm hd h.headers]

end Request

/-! ## What decisions depend on -/

namespace Blocker

theorem classify_congr (b : Blocker) {r r' : Request} (hurl : r.url = r'.url)
    (hagent : r.userAgent = r'.userAgent) : b.classify r = b.classify r' := by
  rw [classify, classify, hurl, hagent]

end Blocker

namespace Classifier

variable {r r' : Request}

mutual

/-- Of a request, a classifier sees the locator and the user agent. -/
theorem classify_congr (hurl : r.url = r'.url) (hagent : r.userAgent = r'.userAgent) :
    ∀ c : Classifier, c.classify r = c.classify r'
  | .blocker b => b.classify_congr hurl hagent
  | .mocker m => by
    show m.classify r = m.classify r'
    rw [Mocker.classify, Mocker.classify, hurl]
  | .constant _ => rfl
  | .chain _ members => classifyFirst_congr hurl hagent members

theorem classifyFirst_congr (hurl : r.url = r'.url) (hagent : r.userAgent = r'.userAgent) :
    ∀ members : List Classifier, classifyFirst members r = classifyFirst members r'
  | [] => rfl
  | c :: rest => by
    rw [classifyFirst, classifyFirst, classify_congr hurl hagent c,
      classifyFirst_congr hurl hagent rest]

end

end Classifier

namespace RoutingTable

/-- Of a request, a table sees the locator and the user agent. -/
theorem dispatch_eq_of_seen (t : RoutingTable) (scripts : Registry) {r r' : Request}
    (hurl : r.url = r'.url) (hagent : r.userAgent = r'.userAgent) :
    t.dispatch scripts r = t.dispatch scripts r' := by
  have hact : ∀ action, act scripts r action = act scripts r' action := by
    intro action
    cases action with
    | script name =>
      rw [act, act]
      cases scripts.get? name with
      | none => rfl
      | some script => exact script.classify_congr hurl hagent
    | mock body => rfl
    | reject kind => rfl
  rw [dispatch, dispatch, Request.host, Request.host, hurl]
  simp only [hact]

theorem dispatch_eq_of_reordered (t : RoutingTable) (scripts : Registry) {r r' : Request}
    (h : r.Reordered r') (hd : r.headers.Distinct) :
    t.dispatch scripts r = t.dispatch scripts r' :=
  t.dispatch_eq_of_seen scripts h.url (h.userAgent hd)

end RoutingTable

end Intercept
