import Intercept.Blocker
import Intercept.Proofs.Fault
import Intercept.Proofs.Pattern.Escaped
import Intercept.Proofs.Text.Parts
import Intercept.Proofs.Unicode.LowerFolding
import Mathlib.Data.List.Infix

/-!
# Intercept.Proofs.Blocker -- which requests are denied

A blocker is made of texts, but it decides by patterns: the texts are put behind backslashes, joined
and compiled, and the patterns are searched for in the lower case of the user agent and in the key of
the locator. What is decided can be said of the texts alone.
-/

namespace Intercept.Blocker

open Unicode (fold lowercase spread isDecimalDigit StandsFolded standsFolded_iff)

/-! ## The key of a locator -/

/-- In front of a place where `appkey=` stands and a digit follows. -/
def KeyBehind (url front : List Char) : Prop :=
  ∃ c rest, url = front ++ ("appkey=".toList ++ c :: rest) ∧ isDecimalDigit c = true

/-- The key of a locator is the longest run of digits behind the first `appkey=` that a digit
follows. -/
def KeyIn (url digits : List Char) : Prop :=
  ∃ front back, url = front ++ ("appkey=".toList ++ (digits ++ back)) ∧ digits ≠ []
    ∧ (∀ c ∈ digits, isDecimalDigit c = true)
    ∧ (∀ c, back.head? = some c → isDecimalDigit c = false)
    ∧ ∀ other, KeyBehind url other → front.length ≤ other.length

variable {cs url digits : List Char}

theorem keyHere?_eq_some : keyHere? cs = some digits ↔
    ∃ back, cs = "appkey=".toList ++ (digits ++ back) ∧ digits ≠ []
      ∧ (∀ c ∈ digits, isDecimalDigit c = true)
      ∧ ∀ c, back.head? = some c → isDecimalDigit c = false := by
  rw [keyHere?]
  constructor
  · intro h
    split at h
    · cases h
    · next rest hrest =>
      split at h
      · cases h
      · next hne =>
        obtain rfl := Option.some.inj h
        refine ⟨rest.dropWhile isDecimalDigit, ?_, fun hnil => hne hnil, fun c hc => ?_,
          fun c hc => ?_⟩
        · rw [List.takeWhile_append_dropWhile]
          exact Text.afterStr?_eq_some.mp hrest
        · exact List.mem_takeWhile_imp hc
        · have hnot := List.head?_dropWhile_not isDecimalDigit rest
          rw [hc] at hnot
          simpa using hnot
  · rintro ⟨back, rfl, hne, hdigits, hback⟩
    have hstop : back.takeWhile isDecimalDigit = [] := by
      cases back with
      | nil => rfl
      | cons c back => rw [List.takeWhile_cons, hback c rfl]; rfl
    rw [Text.afterStr?_append]
    dsimp only
    rw [List.takeWhile_append_of_pos hdigits, hstop, List.append_nil]
    cases digits with
    | nil => exact absurd rfl hne
    | cons c digits => rfl

theorem exists_keyHere? (c : Char) (rest : List Char) (hc : isDecimalDigit c = true) :
    ∃ digits, keyHere? ("appkey=".toList ++ c :: rest) = some digits := by
  rw [keyHere?, Text.afterStr?_append]
  dsimp only
  rw [List.takeWhile_cons, if_pos hc]
  exact ⟨_, rfl⟩

theorem keyIn_iff : KeyIn url digits ↔ keyOf url = digits ∧ digits ≠ [] := by
  constructor
  · rintro ⟨front, back, rfl, hne, hdigits, hback, hfirst⟩
    have hread : Text.readFirst? keyHere? (front ++ ("appkey=".toList ++ (digits ++ back)))
        = some (front, digits) := by
      refine Text.readFirst?_append (keyHere?_eq_some.mpr ⟨back, rfl, hne, hdigits, hback⟩) ?_
      intro x y hy hfront
      -- A key that could be read earlier would stand behind less than `front`.
      cases hearlier : keyHere? (y ++ ("appkey=".toList ++ (digits ++ back))) with
      | none => rfl
      | some other =>
        obtain ⟨back', heq, hne', hdigits', -⟩ := keyHere?_eq_some.mp hearlier
        obtain ⟨c, other, rfl⟩ := List.exists_cons_of_ne_nil hne'
        have hle := hfirst x ⟨c, other ++ back', by rw [hfront, List.append_assoc, heq]; rfl,
          hdigits' c List.mem_cons_self⟩
        rw [hfront, List.length_append] at hle
        exact absurd (List.length_pos_iff.mpr hy) (by omega)
    rw [keyOf, hread]
    exact ⟨rfl, hne⟩
  · rintro ⟨hkey, hne⟩
    rw [keyOf] at hkey
    split at hkey
    · next front key hread =>
      obtain rfl := hkey
      obtain ⟨back, rfl, hback⟩ := Text.parts_of_readFirst? hread
      obtain ⟨rest, rfl, -, hdigits, hrest⟩ := keyHere?_eq_some.mp hback
      refine ⟨front, rest, rfl, hne, hdigits, hrest, ?_⟩
      rintro other ⟨c, rest', heq, hc⟩
      obtain ⟨key, hkey⟩ := exists_keyHere? c rest' hc
      exact Text.readFirst?_le hkey (heq ▸ hread)
    · exact absurd hkey.symm hne

/-! ## What is compiled -/

/-- What is asked of the user agent: one of the tokens, without regard to case. -/
def tokenExpr? (tokens : List String) : Option Pattern.Expr :=
  if tokens.isEmpty then none
  else some (.seq .empty
    (.alts ((tokens.map String.toList).map (.literal { ignoreCase := true }))))

/-- What is asked of the key: one of the keys. -/
def keyExpr? (keys : List String) : Option Pattern.Expr :=
  if keys.isEmpty then none else some (.alts ((keys.map String.toList).map (.literal {})))

/-- Whether an expression that may be missing takes no more room than a pattern may. -/
def Fits (e : Option Pattern.Expr) : Prop :=
  ∀ expr ∈ e, expr.weight ≤ Pattern.maxWeight

instance (e : Option Pattern.Expr) : Decidable (Fits e) :=
  inferInstanceAs (Decidable (∀ expr ∈ e, expr.weight ≤ Pattern.maxWeight))

section Compiled

variable {texts tokens keys : List String} {e : Option Pattern.Expr} {expr : Pattern.Expr}
  {source : String} {b : Blocker} {text : List Char}

theorem compileAny_none : compileAny none = .ok e ↔ e = none := by
  rw [compileAny, Except.ok.injEq]
  exact eq_comm

theorem compileAny_some (h : Pattern.parse? source.toList = some expr) :
    compileAny (some source) = .ok e ↔ Fits (some expr) ∧ e = some expr := by
  have hfits : Fits (some expr) ↔ expr.weight ≤ Pattern.maxWeight := by
    simp [Fits]
  rw [compileAny, map_eq_ok, hfits, compilePattern, Pattern.compile?, h]
  by_cases hweight : expr.weight ≤ Pattern.maxWeight
  · simp [hweight, eq_comm]
  · simp [hweight]

theorem anyOf?_of_ne_nil (hne : texts ≠ []) :
    anyOf? texts = some (String.ofList (Pattern.group (texts.map String.toList))) := by
  rw [anyOf?, if_neg (by simpa using hne), Pattern.group, List.map_map]
  rfl

theorem compileAny_tokens : compileAny ((anyOf? tokens).map ("(?i)" ++ ·)) = .ok e ↔
    Fits (tokenExpr? tokens) ∧ e = tokenExpr? tokens := by
  by_cases hne : tokens = []
  · subst hne
    simp [anyOf?, tokenExpr?, Fits, compileAny_none]
  · have hexpr : Pattern.parse?
          ("(?i)" ++ String.ofList (Pattern.group (tokens.map String.toList))).toList
        = some (.seq .empty
          (.alts ((tokens.map String.toList).map (.literal { ignoreCase := true })))) := by
      -- Both parts are made of characters, the flag too.
      rw [String.toList_append, String.toList_ofList, String.toList_ofList]
      exact Pattern.parse?_caseless (by simpa using hne)
    rw [anyOf?_of_ne_nil hne, Option.map_some, compileAny_some hexpr, tokenExpr?,
      if_neg (by simpa using hne)]

theorem compileAny_keys : compileAny (anyOf? keys) = .ok e ↔
    Fits (keyExpr? keys) ∧ e = keyExpr? keys := by
  by_cases hne : keys = []
  · subst hne
    simp [anyOf?, keyExpr?, Fits, compileAny_none]
  · have hexpr : Pattern.parse? (String.ofList (Pattern.group (keys.map String.toList))).toList
        = some (.alts ((keys.map String.toList).map (.literal {}))) := by
      rw [String.toList_ofList]
      exact Pattern.parse?_group (by simpa using hne)
    rw [anyOf?_of_ne_nil hne, compileAny_some hexpr, keyExpr?, if_neg (by simpa using hne)]

/-- A blocker can be made of all texts that do not take too much room, if there are any. -/
theorem ofTokens_eq_ok : ofTokens tokens keys = .ok b ↔ (tokens ≠ [] ∨ keys ≠ [])
    ∧ Fits (tokenExpr? tokens) ∧ Fits (keyExpr? keys)
    ∧ b = { userAgent := tokenExpr? tokens, appkey := keyExpr? keys } := by
  rw [ofTokens]
  split
  · next h =>
    rw [Bool.and_eq_true, List.isEmpty_iff, List.isEmpty_iff] at h
    simp [h]
  · next h =>
    rw [Bool.and_eq_true, List.isEmpty_iff, List.isEmpty_iff, Decidable.not_and_iff_or_not] at h
    have hpure : ∀ {b' : Blocker}, (pure b' : Except Fault Blocker) = .ok b ↔ b = b' :=
      ⟨fun h => (Except.ok.inj h).symm, fun h => congrArg _ h.symm⟩
    simp only [bind_eq_ok, compileAny_tokens, compileAny_keys, and_assoc, exists_and_left,
      exists_eq_left, hpure]
    exact (and_iff_right h).symm

/-- The pattern of tokens is found where one of them stands, up to folding. -/
theorem holds_tokenExpr? : holds (tokenExpr? tokens) text = true ↔
    ∃ t ∈ tokens, StandsFolded t.toList text := by
  rw [tokenExpr?]
  split
  · next h => simp [List.isEmpty_iff.mp h, holds]
  · next h =>
    have hne : tokens.map String.toList ≠ [] := by simpa using h
    rw [holds, Pattern.Expr.search_iff_of_texts (f := { ignoreCase := true }) rfl hne (.inr rfl)]
    simp only [List.mem_map, exists_exists_and_eq_and, standsFolded_iff, Pattern.Flags.key, if_true]

/-- The pattern of keys is found where one of them stands. -/
theorem holds_keyExpr? : holds (keyExpr? keys) text = true ↔ ∃ k ∈ keys, k.toList <:+: text := by
  rw [keyExpr?]
  split
  · next h => simp [List.isEmpty_iff.mp h, holds]
  · next h =>
    have hne : keys.map String.toList ≠ [] := by simpa using h
    rw [holds, Pattern.Expr.search_iff_of_texts (f := {}) rfl hne (.inl rfl)]
    simp only [List.mem_map, exists_exists_and_eq_and, Pattern.Flags.key, Bool.false_eq_true,
      if_false, List.map_id]

end Compiled

/-! ## What is denied -/

/-- A request that is to be denied: a token stands in the user agent in small letters, up to
folding, or a key stands in the key of the locator. -/
def Denied (tokens keys : List String) (r : Request) : Prop :=
  (∃ t ∈ tokens, StandsFolded t.toList (lowercase r.userAgent.toList))
    ∨ ∃ digits, KeyIn r.url.toList digits ∧ ∃ k ∈ keys, k.toList <:+: digits

theorem denied_iff {tokens keys : List String} {r : Request} : Denied tokens keys r ↔
    (∃ t ∈ tokens, t.toList.map fold <:+: (lowercase r.userAgent.toList).map fold)
      ∨ keyOf r.url.toList ≠ [] ∧ ∃ k ∈ keys, k.toList <:+: keyOf r.url.toList := by
  simp only [Denied, keyIn_iff, standsFolded_iff, and_assoc, exists_eq_left', ne_eq]

instance (tokens keys : List String) (r : Request) : Decidable (Denied tokens keys r) :=
  decidable_of_iff _ denied_iff.symm

section Decision

variable {tokens keys : List String} {b : Blocker}

theorem classify_cases (h : ofTokens tokens keys = .ok b) (r : Request) :
    Denied tokens keys r ∧ b.classify r = .block statusLine body
      ∨ ¬ Denied tokens keys r ∧ b.classify r = .untouched := by
  obtain ⟨-, -, -, rfl⟩ := ofTokens_eq_ok.mp h
  have hdenied : (holds (tokenExpr? tokens) (lowercase r.userAgent.toList)
      || (!(keyOf r.url.toList).isEmpty && holds (keyExpr? keys) (keyOf r.url.toList))) = true
      ↔ Denied tokens keys r := by
    rw [Bool.or_eq_true, Bool.and_eq_true, holds_tokenExpr?, holds_keyExpr?, denied_iff,
      Bool.not_eq_true', List.isEmpty_eq_false_iff]
    simp only [standsFolded_iff]
  rw [classify, ← hdenied]
  split
  · next hcond => exact .inl ⟨hcond, rfl⟩
  · next hcond => exact .inr ⟨hcond, rfl⟩

theorem classify_eq_block_iff (h : ofTokens tokens keys = .ok b) (r : Request) :
    b.classify r = .block statusLine body ↔ Denied tokens keys r := by
  rcases classify_cases h r with ⟨hdenied, heq⟩ | ⟨hdenied, heq⟩
  · exact iff_of_true heq hdenied
  · rw [heq]
    exact iff_of_false nofun hdenied

theorem classify_eq_untouched_iff (h : ofTokens tokens keys = .ok b) (r : Request) :
    b.classify r = .untouched ↔ ¬ Denied tokens keys r := by
  rcases classify_cases h r with ⟨hdenied, heq⟩ | ⟨hdenied, heq⟩
  · rw [heq]
    exact iff_of_false nofun (not_not_intro hdenied)
  · exact iff_of_true heq hdenied

/-- The decision in full: what is to be denied is answered as a page that is not there, and
everything else goes on as it is. -/
theorem classify_of_tokens (h : ofTokens tokens keys = .ok b) (r : Request) :
    (b.classify r = .block "HTTP/1.1 404 Not Found" "Not Found" ↔ Denied tokens keys r)
      ∧ (b.classify r = .untouched ↔ ¬ Denied tokens keys r) :=
  ⟨classify_eq_block_iff h r, classify_eq_untouched_iff h r⟩

/-- A token with a bar in it is no choice, and a key is looked for where a digit follows. -/
theorem classify_of_tokens_bar : ∃ b, ofTokens ["a|B"] ["12"] = .ok b
    ∧ b.classify { url := "", headers := .ofList [("User-Agent", "x/A|b")] }
      = .block "HTTP/1.1 404 Not Found" "Not Found"
    ∧ b.classify { url := "?appkey=&appkey=312", headers := .empty }
      = .block "HTTP/1.1 404 Not Found" "Not Found"
    ∧ b.classify { url := "?appkey=7", headers := .ofList [("user-agent", "a b")] }
      = .untouched := by
  have h : ofTokens ["a|B"] ["12"] = .ok
      { userAgent := tokenExpr? ["a|B"], appkey := keyExpr? ["12"] } :=
    ofTokens_eq_ok.mpr ⟨by decide, by decide +kernel, by decide +kernel, rfl⟩
  exact ⟨_, h, (classify_of_tokens h _).1.mpr (by decide +kernel),
    (classify_of_tokens h _).1.mpr (by decide +kernel),
    (classify_of_tokens h _).2.mpr (by decide +kernel)⟩

/-! ## Tokens that stand in the user agent -/

/-- A text stands in another one with some of its ASCII letters in the other case. -/
def StandsRecased (part cs : List Char) : Prop :=
  ∃ run, run <:+: cs ∧ Text.asciiLower run = Text.asciiLower part

/-- What stands in the lower case of a text stands in the lower case of all that has the text in it,
in whatever ASCII case. -/
theorem standsFolded_lowercase_of_recased {part text cs : List Char}
    (h : StandsFolded part (lowercase text)) (hcs : StandsRecased text cs) :
    StandsFolded part (lowercase cs) := by
  obtain ⟨run, hrun, hcase⟩ := hcs
  have hspread : run.flatMap spread = (lowercase text).map fold := by
    rw [Unicode.map_fold_lowercase, ← Unicode.flatMap_spread_asciiLower run, hcase,
      Unicode.flatMap_spread_asciiLower]
  rw [standsFolded_iff] at h ⊢
  exact h.trans (hspread ▸ Unicode.infix_map_fold_lowercase hrun)

/-- A request with a locator without a key and with the given user agent. -/
def agentOnly (agent : String) : Request :=
  { url := "", headers := .ofList [("User-Agent", agent)] }

theorem userAgent_agentOnly (agent : String) : (agentOnly agent).userAgent = agent := rfl

theorem denied_agentOnly {agent : String} : Denied tokens keys (agentOnly agent) ↔
    ∃ t ∈ tokens, StandsFolded t.toList (lowercase agent.toList) := by
  rw [Denied, userAgent_agentOnly]
  refine or_iff_left ?_
  rintro ⟨digits, hkey, -⟩
  obtain ⟨hnone, hne⟩ := keyIn_iff.mp hkey
  exact hne hnone.symm

/-- A token denies every user agent in which it stands, in whatever ASCII case, if it has no capital
`i` with a dot. That letter alone is taken apart when the user agent is made small, and then it is
up to the tokens whether the token itself would be denied as a user agent. -/
theorem block_of_token {t : String} (h : ofTokens tokens keys = .ok b) (ht : t ∈ tokens) :
    ('İ' ∉ t.toList → ∀ r : Request, StandsRecased t.toList r.userAgent.toList →
        b.classify r = .block statusLine body)
      ∧ ((∀ r : Request, StandsRecased t.toList r.userAgent.toList →
          b.classify r = .block statusLine body)
        ↔ ∃ u ∈ tokens, StandsFolded u.toList (lowercase t.toList)) := by
  have hall : (∀ r : Request, StandsRecased t.toList r.userAgent.toList →
      b.classify r = .block statusLine body)
      ↔ ∃ u ∈ tokens, StandsFolded u.toList (lowercase t.toList) := by
    constructor
    · intro hevery
      have hself := hevery (agentOnly t)
        (by rw [userAgent_agentOnly]; exact ⟨t.toList, List.infix_rfl, rfl⟩)
      exact denied_agentOnly.mp ((classify_eq_block_iff h _).mp hself)
    · rintro ⟨u, hu, hstands⟩ r hr
      refine (classify_eq_block_iff h r).mpr (.inl ⟨u, hu, ?_⟩)
      exact standsFolded_lowercase_of_recased hstands hr
  refine ⟨fun hcapital => hall.mpr ⟨t, ht, ?_⟩, hall⟩
  exact Unicode.standsFolded_lowercase hcapital ⟨t.toList, List.infix_rfl, rfl⟩

/-- A token with percent signs denies them in the other case too, behind whatever else there is. -/
theorem block_of_token_percent : ∃ b, ofTokens ["%e9%97"] [] = .ok b
    ∧ b.classify (agentOnly "İ%E9%97/7.0") = .block statusLine body := by
  have h : ofTokens ["%e9%97"] [] = .ok
      { userAgent := tokenExpr? ["%e9%97"], appkey := keyExpr? [] } :=
    ofTokens_eq_ok.mpr ⟨by decide, by decide +kernel, by decide, rfl⟩
  refine ⟨_, h, (block_of_token h List.mem_cons_self).1 (by decide) _ ?_⟩
  exact ⟨"%E9%97".toList, ⟨['İ'], "/7.0".toList, by decide⟩, by decide⟩

/-- The capital `i` with a dot is a token that does not deny itself. -/
theorem passes_despite_token : ∃ b, ofTokens ["İ"] [] = .ok b
    ∧ StandsRecased "İ".toList (agentOnly "İ").userAgent.toList
    ∧ b.classify (agentOnly "İ") = .untouched := by
  have h : ofTokens ["İ"] [] = .ok { userAgent := tokenExpr? ["İ"], appkey := keyExpr? [] } :=
    ofTokens_eq_ok.mpr ⟨by decide, by decide +kernel, by decide, rfl⟩
  refine ⟨_, h, ⟨['İ'], List.infix_rfl, rfl⟩, (classify_eq_untouched_iff h _).mpr ?_⟩
  rw [denied_agentOnly]
  rintro ⟨t, ht, hstands⟩
  obtain rfl := List.mem_singleton.mp ht
  have hfold : "İ".toList.map fold = ['İ'] :=
    congrArg (fun c => [c]) ((Unicode.fold_eq_loner (by decide)).mpr rfl)
  have hspread : (lowercase "İ".toList).map fold = ['i', '\u0307'] :=
    Unicode.map_fold_lowercase _
  rw [standsFolded_iff, hfold, hspread] at hstands
  exact absurd hstands (by decide)

end Decision

end Intercept.Blocker
