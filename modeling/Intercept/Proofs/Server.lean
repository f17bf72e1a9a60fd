import Intercept.Server

/-!
# Intercept.Proofs.Server -- every decision is counted once

A server is asked for decisions directly and by calls. Whatever it is asked, and in whatever order,
its total is the number of decisions so far, and the total is made up of the three kinds of
verdicts. What a single step does to the counts is said first; the run follows by induction, since
neither the table nor the scripts ever change.
-/

namespace Intercept

/-! ## Counting one verdict -/

namespace Tally

/-- The counts after a verdict: the total and the count of the verdict's own kind have gone up by
one, the other two have stayed. -/
structure Counted (v : Verdict) (t t' : Tally) : Prop where
  total : t'.total = t.total + 1
  blocked : t'.blocked = if v.isBlock then t.blocked + 1 else t.blocked
  mocked : t'.mocked = if v.replacement.isSome then t.mocked + 1 else t.mocked
  passed : t'.passed = if v.isUntouched then t.passed + 1 else t.passed

theorem counted_record (t : Tally) (v : Verdict) : Counted v t (t.record v) := by
  cases v with
  | block statusLine body => exact ⟨rfl, rfl, rfl, rfl⟩
  | pass replacement =>
    cases replacement with
    | none => exact ⟨rfl, rfl, rfl, rfl⟩
    | some body => exact ⟨rfl, rfl, rfl, rfl⟩

/-- The total is made up of the three kinds. -/
def Balanced (t : Tally) : Prop :=
  t.total = t.blocked + t.mocked + t.passed

theorem balanced_zero : Balanced {} := rfl

/-- A verdict is of exactly one kind, so that a verdict more keeps the balance. -/
theorem balanced_record {t : Tally} (ht : t.Balanced) (v : Verdict) : (t.record v).Balanced := by
  have htotal : (t.record v).total = t.total + 1 := (counted_record t v).total
  rw [Balanced] at ht ⊢
  rw [htotal, ht]
  cases v with
  | block statusLine body =>
    show t.blocked + t.mocked + t.passed + 1 = t.blocked + 1 + t.mocked + t.passed
    ac_rfl
  | pass replacement =>
    cases replacement with
    | none =>
      show t.blocked + t.mocked + t.passed + 1 = t.blocked + t.mocked + (t.passed + 1)
      ac_rfl
    | some body =>
      show t.blocked + t.mocked + t.passed + 1 = t.blocked + (t.mocked + 1) + t.passed
      ac_rfl

/-- The counts after some verdicts. -/
def recordAll (t : Tally) (verdicts : List Verdict) : Tally :=
  verdicts.foldl record t

theorem total_recordAll (t : Tally) (verdicts : List Verdict) :
    (t.recordAll verdicts).total = t.total + UInt64.ofNat verdicts.length := by
  induction verdicts generalizing t with
  | nil => exact (UInt64.add_zero t.total).symm
  | cons v verdicts ih =>
    show ((t.record v).recordAll verdicts).total = _
    rw [ih, (counted_record t v).total, List.length_cons, UInt64.ofNat_add, UInt64.add_assoc,
      UInt64.add_comm 1]
    rfl

theorem balanced_recordAll {t : Tally} (ht : t.Balanced) (verdicts : List Verdict) :
    (t.recordAll verdicts).Balanced := by
  induction verdicts generalizing t with
  | nil => exact ht
  | cons v verdicts ih => exact ih (balanced_record ht v)

end Tally

namespace Server

/-! ## Steps -/

/-- What a server may be asked: to decide about a request, or to answer a call. -/
inductive Step
  | ask (r : Request)
  | call (c : Call)

namespace Step

/-- Whether a step asks for a decision: a call does if it posts to the path for that. -/
def decides : Step → Bool
  | ask _ => true
  | call c => c.method == "POST" && c.path == "/classify".toList

/-- Whether a step can be read in full. Only the body of a call has a bound. -/
def Fits : Step → Prop
  | ask _ => True
  | call c => c.body.length ≤ longestBody

instance (step : Step) : Decidable step.Fits :=
  match step with
  | ask _ => .isTrue trivial
  | call c => inferInstanceAs (Decidable (c.body.length ≤ longestBody))

end Step

/-- The verdict on what a body describes; a body that describes no request is left alone. -/
def bodyVerdict (table : RoutingTable) (scripts : Registry) (body : List UInt8) : Verdict :=
  match (Json.readBytes body).bind Request.ofJson? with
  | some r => table.dispatch scripts r
  | none => .untouched

/-- The verdict for which a step asks, if it asks for one. -/
def Step.verdict (table : RoutingTable) (scripts : Registry) : Step → Verdict
  | .ask r => table.dispatch scripts r
  | .call c => bodyVerdict table scripts c.body

/-- The server after a step. -/
def after (s : Server) : Step → Server
  | .ask r => (s.classify r).1
  | .call c => (s.respond c).1

/-- The server after some steps. -/
def run (s : Server) (steps : List Step) : Server :=
  steps.foldl after s

/-! ## One step -/

theorem ofPath?_eq_classify {path : List Char} :
    Endpoint.ofPath? path = some .classify ↔ path = "/classify".toList := by
  constructor
  · intro h
    rw [Endpoint.ofPath?] at h
    split at h
    · cases h
    · split at h
      · cases h
      · split at h
        · assumption
        · cases h
  · rintro rfl
    decide

theorem decides_call {c : Call} : (Step.call c).decides = true ↔
    Endpoint.ofPath? c.path = some .classify ∧ (Endpoint.methods .classify).contains c.method := by
  simp [Step.decides, ofPath?_eq_classify, Endpoint.methods, and_comm]

theorem classifyBody_eq (s : Server) (body : List UInt8) :
    s.classifyBody body
      = ({ s with tally := s.tally.record (bodyVerdict s.table s.scripts body) },
          bodyVerdict s.table s.scripts body) := by
  rw [classifyBody, bodyVerdict]
  cases (Json.readBytes body).bind Request.ofJson? with
  | none => rfl
  | some r => rfl

/-- A call that asks for a decision gets one, with the verdict as the body of the reply. -/
theorem respond_of_decides {s : Server} {c : Call} (hdecides : (Step.call c).decides = true)
    (hfits : c.body.length ≤ longestBody) :
    s.respond c
      = ({ s with tally := s.tally.record (bodyVerdict s.table s.scripts c.body) },
          .json (Completion.ofVerdict (bodyVerdict s.table s.scripts c.body)).toJson) := by
  obtain ⟨hendpoint, hmethod⟩ := decides_call.mp hdecides
  have hposted : c.method ≠ "HEAD" := by
    rintro hhead
    rw [hhead] at hmethod
    exact absurd hmethod (by decide)
  simp only [respond, hendpoint, if_pos hmethod, answer, if_neg (Nat.not_lt.mpr hfits),
    classifyBody_eq, if_neg hposted]

/-- No other call changes anything. -/
theorem respond_of_not_decides {s : Server} {c : Call}
    (hdecides : (Step.call c).decides = false) : (s.respond c).1 = s := by
  rw [respond]
  cases hendpoint : Endpoint.ofPath? c.path with
  | none => rfl
  | some e =>
    cases hmethod : e.methods.contains c.method with
    | false => simp only [hmethod, Bool.false_eq_true, if_false]
    | true =>
      cases e with
      | health => simp only [hmethod, if_true, answer]
      | metrics => simp only [hmethod, if_true, answer]
      | classify =>
        rw [decides_call.mpr ⟨hendpoint, hmethod⟩] at hdecides
        cases hdecides

/-- A step that asks for a decision counts its verdict. -/
theorem after_of_decides {s : Server} {step : Step} (hdecides : step.decides = true)
    (hfits : step.Fits) :
    s.after step = { s with tally := s.tally.record (step.verdict s.table s.scripts) } := by
  cases step with
  | ask r => rfl
  | call c =>
    rw [after, respond_of_decides hdecides hfits]
    rfl

/-- A step that asks for no decision leaves the server as it is. -/
theorem after_of_not_decides {s : Server} {step : Step} (hdecides : step.decides = false) :
    s.after step = s := by
  cases step with
  | ask r => cases hdecides
  | call c => exact respond_of_not_decides hdecides

/-! ## Runs -/

/-- The verdicts for which some steps ask, in order. -/
def verdicts (table : RoutingTable) (scripts : Registry) (steps : List Step) : List Verdict :=
  (steps.filter Step.decides).map (Step.verdict table scripts)

/-- A run counts the verdicts for which its steps ask, and changes nothing else. -/
theorem run_eq (s : Server) {steps : List Step} (hfits : ∀ step ∈ steps, step.Fits) :
    s.run steps = { s with tally := s.tally.recordAll (verdicts s.table s.scripts steps) } := by
  induction steps generalizing s with
  | nil => rfl
  | cons step steps ih =>
    -- No step changes the table or the scripts, so later steps get the verdicts of the start.
    show (s.after step).run steps = _
    rw [ih (s.after step) fun x hx => hfits x (List.mem_cons_of_mem step hx), verdicts, verdicts,
      List.filter_cons]
    cases hdecides : step.decides with
    | true =>
      rw [after_of_decides hdecides (hfits step List.mem_cons_self)]
      rfl
    | false =>
      rw [after_of_not_decides hdecides]
      rfl

/-- What a server does about a further step: it counts a verdict that was asked for, and says what
it is; whatever asks for no verdict leaves the counts alone. -/
structure Accounts (s : Server) (table : RoutingTable) (scripts : Registry) : Prop where
  decided : ∀ step : Step, step.Fits → step.decides = true →
    Tally.Counted (step.verdict table scripts) s.tally (s.after step).tally
  idle : ∀ step : Step, step.decides = false → (s.after step).tally = s.tally
  asked : ∀ r, (s.classify r).2 = table.dispatch scripts r
  posted : ∀ c, (Step.call c).Fits → (Step.call c).decides = true →
    (s.respond c).2 = {
      status := 200
      contentType := some "application/json"
      body := (Completion.ofVerdict (bodyVerdict table scripts c.body)).render }
  unreadable : ∀ c, (Step.call c).Fits → (Step.call c).decides = true →
    (Json.readBytes c.body).bind Request.ofJson? = none →
      (s.respond c).2.body = "\x7b\x7d" ∧ (s.respond c).1.tally.passed = s.tally.passed + 1

theorem accounts (s : Server) : s.Accounts s.table s.scripts where
  decided := by
    intro step hfits hdecides
    rw [after_of_decides hdecides hfits]
    exact Tally.counted_record s.tally _
  idle := by
    intro step hdecides
    rw [after_of_not_decides hdecides]
  asked := fun r => rfl
  posted := by
    intro c hfits hdecides
    rw [respond_of_decides hdecides hfits]
    rfl
  unreadable := by
    intro c hfits hdecides hbody
    have huntouched : bodyVerdict s.table s.scripts c.body = .untouched := by
      rw [bodyVerdict, hbody]
    rw [respond_of_decides hdecides hfits, huntouched]
    exact ⟨rfl, rfl⟩

/-- After any run of a new server the total is the number of decisions that were asked for, and the
sum of the three kinds, both up to the size of a counter; and whatever comes next is counted as it
is answered, or not at all. -/
theorem run_accounts (table : RoutingTable) (scripts : Registry) (steps : List Step)
    (hfits : ∀ step ∈ steps, step.Fits) :
    let s := run { table, scripts } steps
    s.tally.total.toNat = steps.countP Step.decides % UInt64.size
      ∧ s.tally.total = s.tally.blocked + s.tally.mocked + s.tally.passed
      ∧ s.Accounts table scripts := by
  intro s
  have hs : s = { table, scripts, tally := Tally.recordAll {} (verdicts table scripts steps) } :=
    run_eq _ hfits
  refine ⟨?_, ?_, ?_⟩
  · rw [hs, Tally.total_recordAll, UInt64.zero_add, UInt64.toNat_ofNat', verdicts, List.length_map,
      List.countP_eq_length_filter]
  · rw [hs]
    exact Tally.balanced_recordAll Tally.balanced_zero _
  · rw [hs]
    exact accounts _

/-- A direct question, a posted body that describes nothing, and two calls that ask for no verdict:
two decisions are counted. -/
theorem run_accounts_unreadable :
    let steps : List Step := [
      .ask { url := "https://a.com/x" },
      .call { method := "POST", target := "/classify?x=1", body := [0x7b] },
      .call { method := "GET", target := "/classify" },
      .call { method := "GET", target := "/metrics" }]
    let table : RoutingTable := {
      routes := [{ pattern := { source := "", expr := .empty }, action := .mock "x" }]
      hostnames := { included := ["*.com"] } }
    let s := run { table, scripts := {} } steps
    (∀ step ∈ steps, step.Fits) ∧ s.tally.total.toNat = 2
      ∧ s.tally.total = s.tally.blocked + s.tally.mocked + s.tally.passed
      ∧ s.Accounts table {} := by
  intro steps table s
  have hfits : ∀ step ∈ steps, step.Fits := by decide
  obtain ⟨htotal, hbalanced, haccounts⟩ := run_accounts table {} steps hfits
  have hcount : steps.countP Step.decides % UInt64.size = 2 := by decide
  exact ⟨hfits, htotal.trans hcount, hbalanced, haccounts⟩

end Server

end Intercept
