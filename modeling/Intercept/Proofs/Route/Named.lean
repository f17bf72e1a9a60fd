import Intercept.Proofs.Text.Readers
import Intercept.Route.Snippet

/-!
# Intercept.Proofs.Route.Named -- lines that give a script its name

A line `name = type = http-response, pattern = p, script-path = path` is read at the least places:
the name is the least run without blanks behind which the rest can be read, and so is the pattern.
The entry of a script has its name in front of a blank, so its name is read whole unless the name
itself goes on like such a line; then what is read is a part of the name.
-/

namespace Intercept.SnippetLine

open Intercept.Text
open Intercept.Unicode (isBlank)

/-! ## The least place in a run -/

variable {α : Type} {read : List Char → Option α}

theorem leastWord?_eq_some {cs w : List Char} {a : α} :
    leastWord? read cs = some (w, a) ↔ ∃ rest, cs = w ++ rest ∧ w ≠ [] ∧ NoBlank w
      ∧ read rest = some a ∧ ∀ u v, u ≠ [] → v ≠ [] → w = u ++ v → read (v ++ rest) = none := by
  -- Induction on the text: the run grows by one character where nothing is read behind it.
  induction cs generalizing w with
  | nil =>
    simp only [leastWord?, reduceCtorEq, false_iff]
    rintro ⟨rest, h, hne, -⟩
    exact hne (List.append_eq_nil_iff.mp h.symm).1
  | cons c cs ih =>
    rw [leastWord?]
    split
    case isTrue hc =>
      simp only [reduceCtorEq, false_iff]
      rintro ⟨rest, h, hne, hw, -⟩
      cases w with
      | nil => exact hne rfl
      | cons d w =>
        cases h
        rw [hw c List.mem_cons_self] at hc
        cases hc
    case isFalse hc =>
      rw [Bool.not_eq_true] at hc
      cases hread : read cs with
      | some b =>
        constructor
        · intro h
          cases h
          refine ⟨cs, rfl, by simp, by simp [hc], hread, fun u v hu hv huv => ?_⟩
          obtain ⟨d, u', rfl⟩ := List.exists_cons_of_ne_nil hu
          rw [List.cons_append, List.cons.injEq] at huv
          exact absurd (List.append_eq_nil_iff.mp huv.2.symm).2 hv
        · rintro ⟨rest, h, hne, hw, hrest, hleast⟩
          obtain ⟨d, w', rfl⟩ := List.exists_cons_of_ne_nil hne
          rw [List.cons_append, List.cons.injEq] at h
          obtain ⟨rfl, rfl⟩ := h
          cases w' with
          | nil =>
            rw [List.nil_append, hrest] at hread
            cases hread
            rfl
          | cons e w' =>
            rw [hleast [c] (e :: w') (by simp) (by simp) rfl] at hread
            cases hread
      | none =>
        constructor
        · intro h
          obtain ⟨⟨w', a'⟩, hleast, hp⟩ := Option.map_eq_some_iff.mp h
          cases hp
          obtain ⟨rest, rfl, hne, hw, hrest, hfirst⟩ := ih.mp hleast
          refine ⟨rest, rfl, by simp, by simp [hc, hw], hrest, fun u v hu hv huv => ?_⟩
          obtain ⟨d, u', rfl⟩ := List.exists_cons_of_ne_nil hu
          rw [List.cons_append, List.cons.injEq] at huv
          cases u' with
          | nil =>
            rw [← huv.2.trans (List.nil_append v)]
            exact hread
          | cons e u' => exact hfirst (e :: u') v (by simp) hv huv.2
        · rintro ⟨rest, h, hne, hw, hrest, hfirst⟩
          obtain ⟨d, w', rfl⟩ := List.exists_cons_of_ne_nil hne
          rw [List.cons_append, List.cons.injEq] at h
          obtain ⟨rfl, rfl⟩ := h
          have hw' : w' ≠ [] := by
            rintro rfl
            rw [List.nil_append, hrest] at hread
            cases hread
          rw [ih.mpr ⟨rest, rfl, hw', (noBlank_cons.mp hw).2, hrest, fun u v hu hv huv =>
            hfirst (c :: u) v (by simp) hv (by rw [huv, List.cons_append])⟩]
          rfl

theorem leastWord?_isSome {w rest : List Char} {a : α} (hne : w ≠ []) (hw : NoBlank w)
    (hrest : read rest = some a) : (leastWord? read (w ++ rest)).isSome := by
  induction w with
  | nil => exact absurd rfl hne
  | cons c w ih =>
    rw [List.cons_append, leastWord?, hw c List.mem_cons_self, if_neg (by simp)]
    split
    · rfl
    · next hnone =>
      have hne' : w ≠ [] := by
        rintro rfl
        rw [List.nil_append, hrest] at hnone
        cases hnone
      rw [Option.isSome_map]
      exact ih hne' (noBlank_cons.mp hw).2

/-- A run without blanks that ends in front of a blank or earlier is a part of the run there. -/
theorem exists_part_of_run {w label rest back : List Char} (hw : NoBlank w)
    (h : label ++ ' ' :: back = w ++ rest) : ∃ y, label = w ++ y ∧ rest = y ++ ' ' :: back := by
  obtain ⟨y, hy, hrest⟩ | ⟨y, hy, hback⟩ := List.append_eq_append_iff.mp h
  · cases y with
    | nil => exact ⟨[], by simpa using hy.symm, by simpa using hrest.symm⟩
    | cons c y =>
      cases hrest
      exact absurd (hw ' ' (by simp [hy])) (by decide)
  · exact ⟨y, hy, hback⟩

/-! ## Readers at a run -/

/-- A fixed text that is read at a run and does not hold what stands behind it is read from the run
alone. -/
theorem after?_run {front y back rest : List Char} {c : Char} (hc : c ∉ front)
    (h : after? front (y ++ c :: back) = some rest) : ∃ q, y = front ++ q ∧ rest = q ++ c :: back := by
  rw [after?_eq_some] at h
  obtain ⟨q, hq, hback⟩ | ⟨q, hq, hrest⟩ := List.append_eq_append_iff.mp h
  · cases q with
    | nil => exact ⟨[], by simpa using hq.symm, by simpa using hback.symm⟩
    | cons d q =>
      cases hback
      exact absurd (by simp [hq]) hc
  · exact ⟨q, hq, hrest⟩

theorem afterSign?_run {sign : Char} {y back rest : List Char} (hy : NoBlank y) (hne : y ≠ []) :
    afterSign? sign (y ++ back) = some rest ↔
      ∃ y', y = sign :: y' ∧ rest = trimStart (y' ++ back) := by
  obtain ⟨c, y', rfl⟩ := List.exists_cons_of_ne_nil hne
  rw [afterSign?, trimStart_append_of_noBlank hy hne, List.cons_append, after?]
  by_cases hc : sign = c
  · simp [hc, after?, eq_comm]
  · simp [hc, Ne.symm hc]

theorem hostnameValue?_run {y back : List Char} (hy : NoBlank y) :
    hostnameValue? (y ++ ' ' :: back) = none ↔ ∀ q, y = "hostname".toList ++ q →
      q.head? ≠ some '=' ∧ (q = [] → afterSign? '=' (' ' :: back) = none) := by
  rw [hostnameValue?]
  simp only [Option.bind_eq_bind]
  constructor
  · rintro h q rfl
    have hq : NoBlank q := (noBlank_append.mp hy).2
    rw [List.append_assoc, afterStr?_append, Option.bind_some, Option.bind_eq_none_iff] at h
    refine ⟨?_, ?_⟩
    · intro hhead
      obtain ⟨q', rfl⟩ := List.head?_eq_some_iff.mp hhead
      cases h _ ((afterSign?_run hq (by simp)).mpr ⟨q', rfl, rfl⟩)
    · rintro rfl
      rw [Option.eq_none_iff_forall_ne_some]
      intro rest hrest
      cases h rest hrest
  · intro h
    rw [Option.bind_eq_none_iff]
    intro rest hrest
    obtain ⟨q, hq, rfl⟩ := after?_run (by decide) hrest
    obtain ⟨hhead, hend⟩ := h q hq
    have hqb : NoBlank q := (noBlank_append.mp (hq ▸ hy)).2
    rw [Option.bind_eq_none_iff]
    intro rest' hrest'
    by_cases hne : q = []
    · rw [hne, List.nil_append, hend hne] at hrest'
      cases hrest'
    · obtain ⟨q', rfl, -⟩ := (afterSign?_run hqb hne).mp hrest'
      exact absurd rfl hhead

/-- What is read of a path behind its key. -/
def pathBehind? (cs : List Char) : Option (List Char) :=
  (afterSign? '=' cs).bind fun rest =>
    match rest.takeWhile (fun c => c != ',' && !isBlank c) with
    | [] => none
    | path => some path

theorem scriptPath?_run {y back x : List Char} {c : Char} (hy : NoBlank y) (hne : y ≠ [])
    (hc : c ∉ "script-path".toList)
    (hskip : afterStr? "script-path" (trimStart (c :: back)) = none) :
    scriptPath? (y ++ c :: back) = some x ↔
      ∃ s, y = ',' :: ("script-path".toList ++ s) ∧ pathBehind? (s ++ c :: back) = some x := by
  have hread : ∀ cs, scriptPath? cs = (afterSign? ',' cs).bind fun rest =>
      (afterStr? "script-path" rest).bind pathBehind? := fun cs => rfl
  rw [hread]
  constructor
  · intro h
    obtain ⟨rest, hsign, h⟩ := Option.bind_eq_some_iff.mp h
    obtain ⟨rest', hkey, h⟩ := Option.bind_eq_some_iff.mp h
    obtain ⟨y', rfl, rfl⟩ := (afterSign?_run hy hne).mp hsign
    by_cases hy' : y' = []
    · rw [hy', List.nil_append, hskip] at hkey
      cases hkey
    · rw [trimStart_append_of_noBlank (noBlank_cons.mp hy).2 hy'] at hkey
      obtain ⟨s, rfl, rfl⟩ := after?_run hc hkey
      exact ⟨s, rfl, h⟩
  · rintro ⟨s, rfl, h⟩
    have hkey : trimStart ("script-path".toList ++ s ++ c :: back) =
        "script-path".toList ++ (s ++ c :: back) := by
      rw [trimStart_append_of_noBlank (noBlank_cons.mp hy).2 (by simp), List.append_assoc]
    rw [(afterSign?_run hy hne).mpr ⟨_, rfl, rfl⟩, Option.bind_some, hkey, afterStr?_append,
      Option.bind_some, h]

theorem pathBehind?_run_isSome {s back : List Char} (hs : NoBlank s) (hne : s ≠ []) :
    (pathBehind? (s ++ back)).isSome ↔ ∃ s', s = '=' :: s' ∧
      ∃ c, (trimStart (s' ++ back)).head? = some c ∧ c ≠ ',' ∧ isBlank c = false := by
  rw [pathBehind?]
  cases h : afterSign? '=' (s ++ back) with
  | none =>
    simp only [Option.bind_none, Option.isSome_none, Bool.false_eq_true, false_iff]
    rintro ⟨s', rfl, -⟩
    rw [(afterSign?_run hs hne).mpr ⟨s', rfl, rfl⟩] at h
    cases h
  | some rest =>
    obtain ⟨s', rfl, rfl⟩ := (afterSign?_run hs hne).mp h
    have hsome : ∀ path : List Char, (match path with
        | [] => none
        | path => some path : Option (List Char)).isSome ↔ path ≠ [] := by
      intro path
      cases path <;> simp
    rw [Option.bind_some, hsome]
    simp only [List.cons.injEq, true_and, exists_eq_left']
    cases trimStart (s' ++ back) with
    | nil => simp
    | cons c r => by_cases hc : c = ',' <;> simp [List.takeWhile_cons, hc]

/-! ## The entry of a script -/

/-- The kinds of scripts that have names. -/
def namedKinds : List String := ["http-response", "http-request"]

theorem namedKinds_cases {kind : String} (h : kind ∈ namedKinds) :
    kind = "http-response" ∨ kind = "http-request" := by
  simpa [namedKinds] using h

/-- What follows the pattern in the entry of a script. -/
def pathPart (path tail : List Char) : List Char :=
  ',' :: ' ' :: ("script-path".toList ++ '=' :: (path ++ ',' :: tail))

/-- What follows the name and a blank in the entry of a script. -/
def entryRest (kind : String) (pattern path tail : List Char) : List Char :=
  '=' :: ("type".toList ++ '=' :: (kind.toList ++ ',' :: ' ' :: ("pattern".toList
    ++ '=' :: (pattern ++ pathPart path tail))))

variable {kind : String} {pattern path tail : List Char}

theorem oneOf?_namedKinds (hkind : kind ∈ namedKinds) (rest : List Char) :
    oneOf? ["http-response", "http-request"] (kind.toList ++ rest) = some (kind, rest) := by
  obtain rfl | rfl := namedKinds_cases hkind
  · rfl
  · rfl

theorem afterSign?_blanks {sign : Char} {b : List Char} (hb : AllBlank b)
    (hsign : isBlank sign = false) (rest : List Char) :
    afterSign? sign (b ++ sign :: rest) = some (trimStart rest) := by
  rw [afterSign?, trimStart_append_of_allBlank hb, trimStart_cons_of_not_blank hsign, after?,
    if_pos rfl]
  rfl

/-- A named line is read up to the pattern, which is looked for in what is left. -/
theorem namedPattern?_eq {b b' : List Char} (hb : AllBlank b) (hb' : AllBlank b')
    (hkind : kind ∈ namedKinds) (rest : List Char) :
    namedPattern? (b ++ '=' :: ("type".toList ++ '=' :: (kind.toList ++ ',' :: (b'
      ++ ("pattern".toList ++ '=' :: rest))))) =
        (leastWord? scriptPath? (trimStart rest)).map Prod.fst := by
  have htype : ∀ r, trimStart ("type".toList ++ r) = "type".toList ++ r := fun _ => rfl
  have hkey : ∀ r, trimStart (b' ++ ("pattern".toList ++ r)) = "pattern".toList ++ r :=
    fun _ => trimStart_append_of_allBlank hb' _
  have hkindStart : ∀ r, trimStart (kind.toList ++ r) = kind.toList ++ r := by
    intro r
    obtain rfl | rfl := namedKinds_cases hkind
    · rfl
    · rfl
  have hsign : ∀ sign r, isBlank sign = false → afterSign? sign (sign :: r) = some (trimStart r) :=
    fun _ r h => afterSign?_blanks allBlank_nil h r
  rw [namedPattern?, afterSign?_blanks hb (by decide), htype]
  simp only [Option.bind_eq_bind, Option.bind_some]
  rw [afterStr?_append, Option.bind_some, hsign _ _ (by decide), Option.bind_some, hkindStart,
    oneOf?_namedKinds hkind, Option.bind_some]
  simp only
  rw [hsign _ _ (by decide), Option.bind_some, hkey, afterStr?_append, Option.bind_some,
    hsign _ _ (by decide), Option.bind_some]
  cases leastWord? scriptPath? (trimStart rest) with
  | none => rfl
  | some p => rfl

/-- What reads as the path of a script behind a pattern, within a run or with the run's end. -/
def PathFollows (cs : List Char) : Prop :=
  ∃ s, cs = ',' :: ("script-path".toList ++ s)
    ∧ (s = [] ∨ ∃ s', s = '=' :: s' ∧ s'.head? ≠ some ',')

/-- A run that reads as the type of a script, with the key of the pattern behind it. -/
def opening (kind : String) (z : List Char) : List Char :=
  '=' :: ("type".toList ++ '=' :: (kind.toList ++ ',' :: ("pattern".toList ++ '=' :: z)))

/-- A run that reads as the type of a script, the pattern `q` and a path. -/
def Opens (y q : List Char) : Prop :=
  ∃ kind ∈ namedKinds, ∃ s, q ≠ [] ∧ PathFollows s ∧ y = opening kind (q ++ s)

theorem opening_append (kind : String) (z back : List Char) :
    opening kind z ++ back =
      [] ++ '=' :: ("type".toList ++ '=' :: (kind.toList ++ ',' :: ([]
        ++ ("pattern".toList ++ '=' :: (z ++ back))))) := by
  simp only [opening, List.cons_append, List.append_assoc, List.nil_append]

theorem noBlank_of_opening {kind : String} {z : List Char} (h : NoBlank (opening kind z)) :
    NoBlank z :=
  fun c hc => h c (by simp [opening, hc])

theorem opening_inj {kind kind' : String} {z z' : List Char} (hkind : kind ∈ namedKinds)
    (hkind' : kind' ∈ namedKinds) (h : opening kind z = opening kind' z') : z = z' := by
  simp only [opening, List.cons.injEq, true_and, List.append_cancel_left_eq] at h
  have hread := oneOf?_namedKinds hkind (',' :: ("pattern".toList ++ '=' :: z))
  rw [h, oneOf?_namedKinds hkind'] at hread
  have hsame : kind' = kind ∧ z' = z := by simpa using hread
  exact hsame.2.symm

theorem pathBehind?_isSome_iff {s : List Char} (hs : NoBlank s) :
    (pathBehind? (s ++ ' ' :: entryRest kind pattern path tail)).isSome ↔
      s = [] ∨ ∃ s', s = '=' :: s' ∧ s'.head? ≠ some ',' := by
  by_cases hne : s = []
  · rw [hne]
    exact iff_of_true rfl (.inl rfl)
  · rw [pathBehind?_run_isSome hs hne, or_iff_right hne]
    refine exists_congr fun s' => and_congr_right fun heq => ?_
    cases s' with
    | nil => exact iff_of_true ⟨'=', rfl, by decide, by decide⟩ (by simp)
    | cons c s' =>
      have hc : isBlank c = false := hs c (by simp [heq])
      simp [trimStart_cons_of_not_blank hc, hc]

/-- Where a run without blanks goes on as a path does, a path is read. -/
theorem scriptPath?_isSome_iff {y : List Char} (hy : NoBlank y) :
    (scriptPath? (y ++ ' ' :: entryRest kind pattern path tail)).isSome ↔ PathFollows y := by
  by_cases hne : y = []
  · rw [hne]
    refine iff_of_false (fun h => Bool.noConfusion (show false = true from h)) ?_
    rintro ⟨s, h, -⟩
    cases h
  · have hread : ∀ x, scriptPath? (y ++ ' ' :: entryRest kind pattern path tail) = some x ↔ ∃ s,
        y = ',' :: ("script-path".toList ++ s)
          ∧ pathBehind? (s ++ ' ' :: entryRest kind pattern path tail) = some x :=
      fun x => scriptPath?_run hy hne (by decide) rfl
    simp only [Option.isSome_iff_exists, hread]
    rw [exists_comm]
    refine exists_congr fun s => ?_
    rw [exists_and_left]
    refine and_congr_right fun heq => ?_
    rw [← Option.isSome_iff_exists]
    rw [heq] at hy
    exact pathBehind?_isSome_iff (noBlank_append.mp (noBlank_cons.mp hy).2).2

/-- Texts that may stand behind a run and a blank without being taken for a part of a named line that
begins in the run, except for the equals sign behind its name. -/
structure Apart (back : List Char) : Prop where
  key : ∀ front ∈ ["type", "http-response", "http-request", "pattern", "script-path"],
    afterStr? front (trimStart (' ' :: back)) = none
  comma : afterSign? ',' (' ' :: back) = none
  kind : ∀ rest, afterSign? '=' (' ' :: back) = some rest →
    oneOf? ["http-response", "http-request"] rest = none
  word : leastWord? scriptPath? (trimStart (' ' :: back)) = none
  pattern : ∀ rest, afterSign? '=' (' ' :: back) = some rest → leastWord? scriptPath? rest = none

theorem apart_entryRest (hkind : kind ∈ namedKinds) : Apart (entryRest kind pattern path tail) := by
  have hsign : afterSign? '=' (' ' :: entryRest kind pattern path tail) =
      some (entryRest kind pattern path tail).tail := rfl
  refine ⟨fun front hfront => ?key, rfl, fun rest h => ?kind, ?word, fun rest h => ?pattern⟩
  case key =>
    obtain rfl | rfl | rfl | rfl | rfl : front = "type" ∨ front = "http-response"
        ∨ front = "http-request" ∨ front = "pattern" ∨ front = "script-path" := by
      simpa using hfront
    all_goals rfl
  case kind =>
    rw [hsign] at h
    cases h
    rfl
  case word =>
    obtain rfl | rfl := namedKinds_cases hkind
    · rfl
    · rfl
  case pattern =>
    rw [hsign] at h
    cases h
    obtain rfl | rfl := namedKinds_cases hkind
    · rfl
    · rfl

/-! ## Named lines that begin in a run -/

theorem afterStr?_run {front : String} {y back rest : List Char} (hy : NoBlank y)
    (hfront : ' ' ∉ front.toList) (hend : afterStr? front (trimStart (' ' :: back)) = none)
    (h : afterStr? front (trimStart (y ++ ' ' :: back)) = some rest) :
    ∃ q, y = front.toList ++ q ∧ rest = q ++ ' ' :: back := by
  by_cases hnil : y = []
  · rw [hnil, List.nil_append, hend] at h
    cases h
  · rw [trimStart_append_of_noBlank hy hnil] at h
    exact after?_run hfront h

/-- Within a run, a pattern is read where the run opens like the rest of a named line. -/
theorem exists_opens_of_namedPattern? {back y q : List Char} (hback : Apart back) (hy : NoBlank y)
    (hne : y ≠ []) (h : namedPattern? (y ++ ' ' :: back) = some q) :
    ∃ kind ∈ namedKinds, ∃ z x, y = opening kind z
      ∧ leastWord? scriptPath? (z ++ ' ' :: back) = some (q, x) := by
  simp only [namedPattern?, Option.bind_eq_bind, Option.bind_eq_some_iff] at h
  obtain ⟨r₁, h₁, r₂, h₂, r₃, h₃, ⟨kind', r₄⟩, h₄, r₅, h₅, r₆, h₆, r₇, h₇, ⟨q', x⟩, h₈, hq⟩ := h
  cases hq
  obtain ⟨y₁, rfl, rfl⟩ := (afterSign?_run hy hne).mp h₁
  have hy₁ : NoBlank y₁ := (noBlank_cons.mp hy).2
  obtain ⟨y₂, rfl, rfl⟩ := afterStr?_run hy₁ (by decide) (hback.key _ (by simp)) h₂
  have hy₂ : NoBlank y₂ := (noBlank_append.mp hy₁).2
  have hkind' := (oneOf?_eq_some h₄).1
  -- Where the run ends too early, what stands behind it would have to go on like a named line.
  have hne₂ : y₂ ≠ [] := by
    rintro rfl
    cases (hback.kind _ h₃).symm.trans h₄
  obtain ⟨y₃, rfl, rfl⟩ := (afterSign?_run hy₂ hne₂).mp h₃
  have hy₃ : NoBlank y₃ := (noBlank_cons.mp hy₂).2
  have hkindRead : afterStr? kind' (trimStart (y₃ ++ ' ' :: back)) = some r₄ :=
    afterStr?_eq_some.mpr (oneOf?_eq_some h₄).2
  have hfacts : ' ' ∉ kind'.toList ∧ afterStr? kind' (trimStart (' ' :: back)) = none := by
    obtain rfl | rfl := namedKinds_cases hkind'
    · exact ⟨by decide, hback.key _ (by simp)⟩
    · exact ⟨by decide, hback.key _ (by simp)⟩
  obtain ⟨y₄, rfl, rfl⟩ := afterStr?_run hy₃ hfacts.1 hfacts.2 hkindRead
  have hy₄ : NoBlank y₄ := (noBlank_append.mp hy₃).2
  have hne₄ : y₄ ≠ [] := by
    rintro rfl
    cases hback.comma.symm.trans h₅
  obtain ⟨y₅, rfl, rfl⟩ := (afterSign?_run hy₄ hne₄).mp h₅
  have hy₅ : NoBlank y₅ := (noBlank_cons.mp hy₄).2
  obtain ⟨y₆, rfl, rfl⟩ := afterStr?_run hy₅ (by decide) (hback.key _ (by simp)) h₆
  have hy₆ : NoBlank y₆ := (noBlank_append.mp hy₅).2
  have hne₆ : y₆ ≠ [] := by
    rintro rfl
    cases (hback.pattern _ h₇).symm.trans h₈
  obtain ⟨y₇, rfl, rfl⟩ := (afterSign?_run hy₆ hne₆).mp h₇
  have hy₇ : NoBlank y₇ := (noBlank_cons.mp hy₆).2
  have hne₇ : y₇ ≠ [] := by
    rintro rfl
    cases hback.word.symm.trans h₈
  rw [trimStart_append_of_noBlank hy₇ hne₇] at h₈
  exact ⟨kind', hkind', y₇, x, rfl, h₈⟩

theorem leastWord?_run {z q x : List Char} (hz : NoBlank z) :
    leastWord? scriptPath? (z ++ ' ' :: entryRest kind pattern path tail) = some (q, x) →
      ∃ s, z = q ++ s ∧ q ≠ [] ∧ PathFollows s
        ∧ ∀ u v, u ≠ [] → v ≠ [] → q = u ++ v → ¬ PathFollows (v ++ s) := by
  intro h
  obtain ⟨rest, hrest, hne, hq, hread, hleast⟩ := leastWord?_eq_some.mp h
  obtain ⟨s, rfl, rfl⟩ := exists_part_of_run hq hrest
  have hs : NoBlank s := (noBlank_append.mp hz).2
  refine ⟨s, rfl, hne, (scriptPath?_isSome_iff hs).mp (by rw [hread]; rfl), fun u v hu hv huv => ?_⟩
  have hvs : NoBlank (v ++ s) :=
    noBlank_append.mpr ⟨(noBlank_append.mp (huv ▸ hq)).2, hs⟩
  intro hfollows
  have hsome : (scriptPath? (v ++ s ++ ' ' :: entryRest kind pattern path tail)).isSome :=
    (scriptPath?_isSome_iff hvs).mpr hfollows
  rw [List.append_assoc, hleast u v hu hv huv] at hsome
  cases hsome

/-- The rest of a named line is read within a run where the run opens like one, up to the least
pattern. -/
theorem namedPattern?_run {y q : List Char} (hkind : kind ∈ namedKinds) (hy : NoBlank y)
    (hne : y ≠ []) :
    namedPattern? (y ++ ' ' :: entryRest kind pattern path tail) = some q ↔
      Opens y q ∧ ∀ q', Opens y q' → q.length ≤ q'.length := by
  constructor
  · intro h
    obtain ⟨kind', hkind', z, x, rfl, hz⟩ := exists_opens_of_namedPattern? (apart_entryRest hkind) hy hne h
    obtain ⟨s, rfl, hq, hs, hleast⟩ := leastWord?_run (noBlank_of_opening hy) hz
    refine ⟨⟨kind', hkind', s, hq, hs, rfl⟩, ?_⟩
    rintro q' ⟨kind'', hkind'', s', hq', hs', heq⟩
    -- Of two readings of one run, the one with the shorter pattern would have come first.
    obtain ⟨v, hv, -⟩ | ⟨v, hv, hs''⟩ := List.append_eq_append_iff.mp
      (opening_inj hkind' hkind'' heq)
    · simp [hv]
    · by_cases hnil : v = []
      · simp [hv, hnil]
      · rw [hs''] at hs'
        exact absurd hs' (hleast q' v hq' hnil hv)
  · rintro ⟨⟨kind', hkind', s, hq, hs, rfl⟩, hleast⟩
    have hqs : NoBlank (q ++ s) := noBlank_of_opening hy
    obtain ⟨hqb, hsb⟩ := noBlank_append.mp hqs
    have hfound : (scriptPath? (s ++ ' ' :: entryRest kind pattern path tail)).isSome :=
      (scriptPath?_isSome_iff hsb).mpr hs
    obtain ⟨x, hx⟩ := Option.isSome_iff_exists.mp hfound
    rw [opening_append, namedPattern?_eq allBlank_nil allBlank_nil hkind',
      trimStart_append_of_noBlank hqs (by simp [hq]), List.append_assoc]
    have hword : leastWord? scriptPath? (q ++ (s ++ ' ' :: entryRest kind pattern path tail)) =
        some (q, x) := by
      refine leastWord?_eq_some.mpr ⟨_, rfl, hq, hqb, hx, fun u v hu hv huv => ?_⟩
      have hvs : NoBlank (v ++ s) :=
        noBlank_append.mpr ⟨(noBlank_append.mp (huv ▸ hqb)).2, hsb⟩
      by_contra hread
      have hfollows : PathFollows (v ++ s) := by
        rw [← scriptPath?_isSome_iff hvs, List.append_assoc, Option.isSome_iff_ne_none]
        exact hread
      have hle := hleast u ⟨kind', hkind', v ++ s, hu, hfollows, by rw [huv, List.append_assoc]⟩
      rw [huv, List.length_append] at hle
      have hpos := List.length_pos_iff.mpr hv
      omega
    rw [hword]
    rfl

theorem namedPattern?_isSome {y q : List Char} (hy : NoBlank y) (h : Opens y q) :
    (namedPattern? (y ++ ' ' :: entryRest kind pattern path tail)).isSome := by
  obtain ⟨kind', hkind', s, hq, hs, rfl⟩ := h
  have hqs : NoBlank (q ++ s) := noBlank_of_opening hy
  obtain ⟨hqb, hsb⟩ := noBlank_append.mp hqs
  have hfound : (scriptPath? (s ++ ' ' :: entryRest kind pattern path tail)).isSome :=
    (scriptPath?_isSome_iff hsb).mpr hs
  obtain ⟨x, hx⟩ := Option.isSome_iff_exists.mp hfound
  rw [opening_append, namedPattern?_eq allBlank_nil allBlank_nil hkind',
    trimStart_append_of_noBlank hqs (by simp [hq]), List.append_assoc, Option.isSome_map]
  exact leastWord?_isSome hq hqb hx

/-! ## Names that go on like a named line -/

/-- A name that can be read as a shorter name `a` and a line with the pattern `q` behind it. -/
def Shadows (label a q : List Char) : Prop :=
  a ≠ [] ∧ ∃ y, label = a ++ y ∧ Opens y q

/-- What is read of a name that can be read in such a way: the least name and the least pattern. -/
structure FirstShadow (label a q : List Char) : Prop where
  shadows : Shadows label a q
  least : ∀ a' q', Shadows label a' q' → a.length ≤ a'.length ∧ (a' = a → q.length ≤ q'.length)

theorem Opens.ne_nil {y q : List Char} (h : Opens y q) : y ≠ [] := by
  obtain ⟨_, -, _, -, -, rfl⟩ := h
  exact List.cons_ne_nil _ _

/-- The name of an entry is read whole, with the pattern behind it, unless a part of the name can be
read as a name. -/
theorem leastWord?_label {label n q : List Char} (hkind : kind ∈ namedKinds) (hlabel : NoBlank label)
    (hne : label ≠ []) :
    leastWord? namedPattern? (label ++ ' ' :: entryRest kind pattern path tail) = some (n, q) ↔
      FirstShadow label n q ∨ (n = label ∧ (∀ a q', ¬ Shadows label a q')
        ∧ namedPattern? (' ' :: entryRest kind pattern path tail) = some q) := by
  rw [leastWord?_eq_some]
  constructor
  · rintro ⟨rest, hrest, hn, hnb, hread, hleast⟩
    obtain ⟨y, rfl, rfl⟩ := exists_part_of_run hnb hrest
    have hshorter : ∀ a q', Shadows (n ++ y) a q' → n.length ≤ a.length := by
      rintro a q' ⟨ha, y', hsplit, hopens⟩
      obtain ⟨v, rfl, -⟩ | ⟨v, rfl, rfl⟩ := List.append_eq_append_iff.mp hsplit
      · simp
      · by_contra hlt
        have hv : v ≠ [] := by
          rintro rfl
          simp at hlt
        have hvy : NoBlank (v ++ y) :=
          noBlank_append.mpr ⟨(noBlank_append.mp hnb).2, (noBlank_append.mp hlabel).2⟩
        have hsome : (namedPattern? (v ++ y ++ ' ' :: entryRest kind pattern path tail)).isSome :=
          namedPattern?_isSome hvy hopens
        rw [List.append_assoc, hleast a v ha hv rfl] at hsome
        cases hsome
    -- The name ends with the label or within it, and then the label goes on like a line.
    by_cases hy : y = []
    · subst hy
      refine .inr ⟨(List.append_nil n).symm, fun a q' hshadow => ?_, hread⟩
      have hle := hshorter a q' hshadow
      obtain ⟨-, y', hsplit, hopens⟩ := hshadow
      have hlen := congrArg List.length hsplit
      have hpos := List.length_pos_iff.mpr hopens.ne_nil
      simp only [List.append_nil, List.length_append] at hlen
      omega
    · obtain ⟨hopens, hfirst⟩ :=
        (namedPattern?_run hkind (noBlank_append.mp hlabel).2 hy).mp hread
      refine .inl ⟨⟨hn, y, rfl, hopens⟩, fun a' q' hshadow => ⟨hshorter a' q' hshadow, ?_⟩⟩
      rintro rfl
      obtain ⟨-, y', hsplit, hopens'⟩ := hshadow
      rw [List.append_cancel_left hsplit] at hfirst
      exact hfirst q' hopens'
  · rintro (⟨⟨hn, y, rfl, hopens⟩, hleast⟩ | ⟨rfl, hplain, hread⟩)
    · have hy : NoBlank y := (noBlank_append.mp hlabel).2
      have hnb : NoBlank n := (noBlank_append.mp hlabel).1
      refine ⟨y ++ ' ' :: entryRest kind pattern path tail, List.append_assoc _ _ _, hn, hnb,
        (namedPattern?_run hkind hy hopens.ne_nil).mpr ⟨hopens, fun q' h =>
          (hleast n q' ⟨hn, y, rfl, h⟩).2 rfl⟩, fun u v hu hv huv => ?_⟩
      cases hread : namedPattern? (v ++ (y ++ ' ' :: entryRest kind pattern path tail)) with
      | none => rfl
      | some q' =>
        have hvy : NoBlank (v ++ y) :=
          noBlank_append.mpr ⟨(noBlank_append.mp (huv ▸ hnb)).2, hy⟩
        rw [← List.append_assoc, namedPattern?_run hkind hvy (by simp [hv])] at hread
        have hle := (hleast u q' ⟨hu, v ++ y, by rw [huv, List.append_assoc], hread.1⟩).1
        have hpos := List.length_pos_iff.mpr hv
        rw [huv, List.length_append] at hle
        omega
    · refine ⟨_, rfl, hne, hlabel, hread, fun u v hu hv huv => ?_⟩
      cases hread' : namedPattern? (v ++ ' ' :: entryRest kind pattern path tail) with
      | none => rfl
      | some q' =>
        have hvb : NoBlank v := (noBlank_append.mp (huv ▸ hlabel)).2
        rw [namedPattern?_run hkind hvb hv] at hread'
        exact absurd ⟨hu, v, huv, hread'.1⟩ (hplain u q')

/-! ## The pattern of an entry -/

/-- A pattern that holds the key and the path of a script. -/
def HoldsPath (pattern : List Char) : Prop :=
  ∃ q c s, q ≠ [] ∧ c ≠ ','
    ∧ pattern = q ++ ',' :: ("script-path".toList ++ '=' :: c :: s)

theorem scriptPath?_pathPart (hpath : NoBlank path) :
    (scriptPath? (pathPart path tail)).isSome ↔ ∃ c, path.head? = some c ∧ c ≠ ',' := by
  have hread : scriptPath? (pathPart path tail) = pathBehind? (['='] ++ (path ++ ',' :: tail)) := rfl
  rw [hread, pathBehind?_run_isSome (by decide) (by simp)]
  simp only [List.cons.injEq, true_and, exists_eq_left', List.nil_append]
  cases path with
  | nil =>
    refine iff_of_false ?_ (by simp)
    rintro ⟨c, hc, hcomma, -⟩
    exact hcomma (Option.some.inj hc).symm
  | cons c path =>
    have hc : isBlank c = false := hpath c List.mem_cons_self
    simp [trimStart_cons_of_not_blank hc, hc]

theorem scriptPath?_pattern {v : List Char} (hv : NoBlank v) (hne : v ≠ []) :
    (scriptPath? (v ++ pathPart path tail)).isSome ↔
      ∃ c s, c ≠ ',' ∧ v = ',' :: ("script-path".toList ++ '=' :: c :: s) := by
  have hread : ∀ x, scriptPath? (v ++ pathPart path tail) = some x ↔ ∃ s,
      v = ',' :: ("script-path".toList ++ s) ∧ pathBehind? (s ++ pathPart path tail) = some x :=
    fun x => scriptPath?_run hv hne (by decide) rfl
  simp only [Option.isSome_iff_exists, hread]
  constructor
  · rintro ⟨x, s, rfl, hx⟩
    have hs : NoBlank s := (noBlank_append.mp (noBlank_cons.mp hv).2).2
    by_cases hnil : s = []
    · rw [hnil] at hx
      cases hx
    · obtain ⟨s', rfl, c, hc, hcomma, -⟩ := (pathBehind?_run_isSome hs hnil).mp (by rw [hx]; rfl)
      cases s' with
      | nil => exact absurd (Option.some.inj hc).symm hcomma
      | cons d s' =>
        have hd : isBlank d = false := hs d (by simp)
        rw [List.cons_append, trimStart_cons_of_not_blank hd, List.head?_cons,
          Option.some.injEq] at hc
        exact ⟨d, s', hc ▸ hcomma, rfl⟩
  · rintro ⟨c, s, hc, rfl⟩
    have hcs : NoBlank ('=' :: c :: s) := (noBlank_append.mp (noBlank_cons.mp hv).2).2
    have hblank : isBlank c = false := hcs c (by simp)
    have hsome : (pathBehind? ('=' :: c :: s ++ pathPart path tail)).isSome :=
      (pathBehind?_run_isSome hcs (by simp)).mpr ⟨c :: s, rfl, c, by
        rw [List.cons_append, trimStart_cons_of_not_blank hblank, List.head?_cons], hc, hblank⟩
    obtain ⟨x, hx⟩ := Option.isSome_iff_exists.mp hsome
    exact ⟨x, _, rfl, hx⟩

/-- The pattern of an entry is read whole if a path stands behind it and none within it. -/
theorem namedPattern?_entry (hkind : kind ∈ namedKinds) (hpattern : NoBlank pattern)
    (hne : pattern ≠ []) (hpath : NoBlank path) :
    namedPattern? (' ' :: entryRest kind pattern path tail) = some pattern ↔
      (∃ c, path.head? = some c ∧ c ≠ ',') ∧ ¬ HoldsPath pattern := by
  have hblank : AllBlank [' '] := by decide
  have hread : namedPattern? (' ' :: entryRest kind pattern path tail) =
      (leastWord? scriptPath? (pattern ++ pathPart path tail)).map Prod.fst := by
    have h := namedPattern?_eq hblank hblank hkind (pattern ++ pathPart path tail)
    rw [trimStart_append_of_noBlank hpattern hne] at h
    exact h
  have hpart : (scriptPath? (pathPart path tail)).isSome ↔ ∃ c, path.head? = some c ∧ c ≠ ',' :=
    scriptPath?_pathPart hpath
  rw [hread, Option.map_eq_some_iff, ← hpart]
  constructor
  · rintro ⟨⟨q, x⟩, hleast, rfl⟩
    obtain ⟨rest, hrest, -, -, hx, hfirst⟩ := leastWord?_eq_some.mp hleast
    rw [← List.append_cancel_left hrest] at hx hfirst
    refine ⟨by rw [hx]; rfl, ?_⟩
    rintro ⟨u, c, s, hu, hc, hsplit⟩
    have hv : NoBlank (',' :: ("script-path".toList ++ '=' :: c :: s)) :=
      (noBlank_append.mp (hsplit ▸ hpattern)).2
    have hsome : (scriptPath? (',' :: ("script-path".toList ++ '=' :: c :: s)
        ++ pathPart path tail)).isSome := (scriptPath?_pattern hv (by simp)).mpr ⟨c, s, hc, rfl⟩
    rw [hfirst u _ hu (by simp) hsplit] at hsome
    cases hsome
  · rintro ⟨hpathRead, hfree⟩
    obtain ⟨x, hx⟩ := Option.isSome_iff_exists.mp hpathRead
    refine ⟨(pattern, x), leastWord?_eq_some.mpr ⟨_, rfl, hne, hpattern, hx,
      fun u v hu hv huv => ?_⟩, rfl⟩
    have hvb : NoBlank v := (noBlank_append.mp (huv ▸ hpattern)).2
    cases hread' : scriptPath? (v ++ pathPart path tail) with
    | none => rfl
    | some y =>
      obtain ⟨c, s, hc, rfl⟩ := (scriptPath?_pattern hvb hv).mp (by rw [hread']; rfl)
      exact absurd ⟨u, c, s, hu, hc, huv⟩ hfree

end Intercept.SnippetLine
