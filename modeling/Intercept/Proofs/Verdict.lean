import Intercept.Proofs.Json.Roundtrip
import Intercept.Verdict

/-!
# Intercept.Proofs.Verdict -- what the interception host is told

A verdict reaches the interception host as the text of a completion. The members that are missing
there are as telling as those that are present: no member at all leaves the exchange alone, and a
status ends it. So the text alone gives the verdict back, whatever the status line and the body are.
-/

namespace Intercept

/-- Whether a value is an object that has a member of some name. -/
def Json.HasMember (name : String) : Json → Prop
  | .obj members => ∃ v, (some name, v) ∈ members
  | _ => False

namespace Completion

/-! ## Completions as values -/

theorem isPlain_toJson (c : Completion) : Json.isPlain c.toJson = true := by
  obtain ⟨status, body⟩ := c
  cases status <;> cases body <;> simp [toJson]

/-- Each member is read where it is there, and is taken to be missing where it is not. -/
theorem ofJson?_toJson (c : Completion) : ofJson? c.toJson = some c := by
  obtain ⟨status, body⟩ := c
  cases status <;> cases body <;> rfl

theorem read_render (c : Completion) : Json.read c.render = some c.toJson :=
  Json.read_render c.isPlain_toJson

theorem toJson_injective {c c' : Completion} (h : c.toJson = c'.toJson) : c = c' := by
  have hread : ofJson? c.toJson = ofJson? c'.toJson := by rw [h]
  rw [ofJson?_toJson, ofJson?_toJson] at hread
  exact Option.some.inj hread

/-- Different completions are different texts. -/
theorem render_injective {c c' : Completion} (h : c.render = c'.render) : c = c' := by
  have hread : Json.read c.render = Json.read c'.render := by rw [h]
  rw [read_render, read_render] at hread
  exact toJson_injective (Option.some.inj hread)

theorem hasMember_status (c : Completion) :
    c.toJson.HasMember "status" ↔ c.status.isSome = true := by
  obtain ⟨status, body⟩ := c
  cases status <;> cases body <;> simp [toJson, Json.HasMember, Json.object]

/-! ## Completions of verdicts -/

/-- An empty body is another verdict than no body: only the former is kept as a member. -/
theorem toVerdict_ofVerdict (v : Verdict) : (ofVerdict v).toVerdict = v := by
  cases v with
  | block statusLine body => rfl
  | pass body => rfl

theorem ofVerdict_eq_empty {v : Verdict} : ofVerdict v = {} ↔ v.isUntouched = true := by
  cases v with
  | block statusLine body => simp [ofVerdict, Verdict.isUntouched]
  | pass body => cases body <;> simp [ofVerdict, Verdict.isUntouched]

theorem isSome_status_ofVerdict (v : Verdict) : (ofVerdict v).status.isSome = v.isBlock := by
  cases v with
  | block statusLine body => rfl
  | pass body => rfl

/-- The text that tells of a verdict gives it back. It is the empty object exactly for the verdict
that leaves the exchange alone, and it has a status exactly for those that end the exchange. -/
theorem toVerdict_read_render (v : Verdict) :
    ((Json.read (ofVerdict v).render).bind ofJson?).map toVerdict = some v
      ∧ ((ofVerdict v).render = "\x7b\x7d" ↔ v.isUntouched = true)
      ∧ ∃ j, Json.read (ofVerdict v).render = some j
        ∧ (j.HasMember "status" ↔ v.isBlock = true) := by
  refine ⟨?_, ?_, (ofVerdict v).toJson, read_render _, ?_⟩
  · rw [read_render, Option.bind_some, ofJson?_toJson, Option.map_some, toVerdict_ofVerdict]
  · rw [← ofVerdict_eq_empty]
    constructor
    · intro h
      exact render_injective h
    · intro h
      rw [h]
      rfl
  · rw [hasMember_status, isSome_status_ofVerdict]

end Completion

end Intercept
