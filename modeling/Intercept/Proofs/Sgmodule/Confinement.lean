import Intercept.Proofs.Sgmodule.Generator

/-!
# Intercept.Proofs.Sgmodule.Confinement -- runs that keep to their own files

A run of the generator may change the merged module and the files directly in the directory of the
modules of apps. It keeps to these exactly as long as every module of an app that lands elsewhere
finds there what it brings. Names of apps without a slash never lead elsewhere. A name such as
`../Outside` does, and `../Module` even puts the module of one app in place of the merged one.
-/

namespace Intercept.Sgmodule

open FileTree

/-- A run that changes no file but the merged module and those directly in the directory of the
modules of apps, and that leaves in the merged module what was built from all rules, unless it fails
before it changes any file. -/
structure Confined (settings : GeneratorSettings) (made : Stamp) (t : FileTree) : Prop where
  others : ∀ l, l ≠ mergedLocation settings t → isDirectlyIn (appLocation settings t) l = false →
    (generated settings made t).2.fileAt l = t.fileAt l
  merged : ∀ rules, rulesRead? settings t = some rules →
    (generated settings made t).2.fileAt (mergedLocation settings t) =
        some (mergedBytes settings made rules) ∨
      (∃ fault, (generated settings made t).1 = .error fault) ∧
        ∀ l, (generated settings made t).2.fileAt l = t.fileAt l
  unread : rulesRead? settings t = none →
    ∀ l, (generated settings made t).2.fileAt l = t.fileAt l

/-- No module of an app changes a file outside the directory: where one lands there, the last one
brings what the file holds already. -/
def LandsInside (settings : GeneratorSettings) (made : Stamp) (t : FileTree) : Prop :=
  ∀ rules t₁, beforeApps? settings made t = some (rules, t₁) →
    ∀ l bytes, isDirectlyIn (appLocation settings t) l = false →
      lastWritten t₁ settings.appDirectory (appModules made rules.toList) l = some bytes →
        t₁.fileAt l = some bytes

theorem withMerged_of_ne {settings : GeneratorSettings} {made : Stamp} {rules : String}
    {t : FileTree} {l : Location} (h : l ≠ mergedLocation settings t) :
    withMerged settings made rules t l = t.fileAt l :=
  if_neg h

theorem withMerged_mergedLocation (settings : GeneratorSettings) (made : Stamp) (rules : String)
    (t : FileTree) : withMerged settings made rules t (mergedLocation settings t) =
      some (mergedBytes settings made rules) :=
  if_pos rfl

theorem Confined.landsInside {settings : GeneratorSettings} {made : Stamp} {t : FileTree}
    (h : Confined settings made t) : LandsInside settings made t := by
  intro rules t₁ hbefore l bytes hl hlast
  obtain ⟨hread, -, hcleared, report, t', hrun, hfiles⟩ := beforeApps?_eq_some hbefore
  obtain ⟨hothers, hmerged, -⟩ := h
  rw [hrun] at hothers hmerged
  -- What the last module brings is what the run leaves there.
  have hfinal := hfiles l
  rw [hlast, Option.some_or] at hfinal
  rw [hcleared, hl, if_neg (by simp)]
  by_cases hm : l = mergedLocation settings t
  · obtain hheld | ⟨⟨fault, herr⟩, -⟩ := hmerged rules hread
    · rw [hm, withMerged_mergedLocation, ← hheld, ← hm, hfinal]
    · cases herr
  · rw [withMerged_of_ne hm, ← hothers l hm hl, hfinal]

/-- Where no app changes a file outside the directory, the files there are as they were before the
modules of apps. -/
theorem LandsInside.lastWritten_or {settings : GeneratorSettings} {made : Stamp}
    {t t₁ : FileTree} {rules : String} (h : LandsInside settings made t)
    (before : beforeApps? settings made t = some (rules, t₁)) {l : Location}
    (hl : isDirectlyIn (appLocation settings t) l = false) :
    (lastWritten t₁ settings.appDirectory (appModules made rules.toList) l).or (t₁.fileAt l) =
      withMerged settings made rules t l := by
  obtain ⟨-, -, hcleared, -⟩ := beforeApps?_eq_some before
  have hbefore := hcleared l
  rw [hl, if_neg (by simp)] at hbefore
  rw [← hbefore]
  cases hlast : lastWritten t₁ settings.appDirectory (appModules made rules.toList) l with
  | none => exact Option.none_or
  | some bytes => rw [h rules t₁ before l bytes hl hlast, Option.some_or]

theorem confined_of_landsInside {settings : GeneratorSettings} {made : Stamp} {t : FileTree}
    (h : LandsInside settings made t) : Confined settings made t := by
  -- Each part is told by how the run ends; only the last way writes modules of apps.
  have hrun := generated_run settings made t
  constructor
  all_goals generalize generated settings made t = run at hrun
  case others =>
    intro l hm hl
    cases hrun with
    | unread unread same => exact same.fileAt l
    | failed read before files =>
      obtain hsame | hwith := files
      · exact hsame l
      · rw [hwith, withMerged_of_ne hm]
    | stopped read before files =>
      obtain hwith | ⟨hin, -⟩ := files l
      · rw [hwith, withMerged_of_ne hm]
      · cases hin.symm.trans hl
    | done read before home cleared files =>
      rw [files, h.lastWritten_or before hl, withMerged_of_ne hm]
  case merged =>
    intro rules hread
    cases hrun with
    | unread unread same =>
      rw [unread] at hread
      cases hread
    | failed read before files =>
      rw [read] at hread
      cases hread
      obtain hsame | hwith := files
      · exact .inr ⟨⟨_, rfl⟩, hsame⟩
      · exact .inl (by rw [hwith, withMerged_mergedLocation])
    | stopped read before files =>
      rw [read] at hread
      cases hread
      obtain hwith | ⟨hin, -⟩ := files (mergedLocation settings t)
      · exact .inl (by rw [hwith, withMerged_mergedLocation])
      · cases hin.symm.trans (not_isDirectlyIn_mergedLocation settings t)
    | done read before home cleared files =>
      rw [read] at hread
      cases hread
      refine .inl ?_
      rw [files, h.lastWritten_or before (not_isDirectlyIn_mergedLocation settings t),
        withMerged_mergedLocation]
  case unread =>
    intro hnone l
    cases hrun with
    | unread unread same => exact same.fileAt l
    | failed read before files =>
      rw [read] at hnone
      cases hnone
    | stopped read before files =>
      rw [read] at hnone
      cases hnone
    | done read before home cleared files =>
      rw [read] at hnone
      cases hnone

/-! ## Names without slashes -/

theorem exists_app_of_lastWritten {t : FileTree} {directory : Path}
    {apps : List (List Char × List Char)} {l : Location} {bytes : List UInt8}
    (h : lastWritten t directory apps l = some bytes) :
    ∃ app ∈ apps, t.landing? (appFile directory app.1) = some l := by
  induction apps with
  | nil => cases h
  | cons app rest ih =>
    rw [lastWritten, Option.or_eq_some_iff] at h
    obtain hrest | ⟨-, happ⟩ := h
    · obtain ⟨app', hmem, hl⟩ := ih hrest
      exact ⟨app', List.mem_cons_of_mem _ hmem, hl⟩
    · by_cases hl : t.landing? (appFile directory app.1) = some l
      · exact ⟨app, List.mem_cons_self, hl⟩
      · rw [if_neg hl] at happ
        cases happ

/-- The module of an app without a slash in its name has a name of its own in the directory. -/
theorem resolve_appFile {name : List Char} (hname : '/' ∉ name) (home : Location)
    (directory : Path) : (appFile directory name).resolve home =
      directory.resolve home ++ [String.ofList name ++ ".sgmodule"] := by
  -- With its ending the name is too long for `.` and `..`.
  have hchars : (String.ofList name ++ ".sgmodule").toList = name ++ ".sgmodule".toList := by simp
  have hne : ∀ s : String, s.toList.length < 9 → String.ofList name ++ ".sgmodule" ≠ s := by
    intro s hs heq
    rw [← heq, hchars, List.length_append] at hs
    have : ".sgmodule".toList.length = 9 := rfl
    omega
  have hslash : '/' ∉ (String.ofList name ++ ".sgmodule").toList := by
    rw [hchars, List.mem_append, not_or]
    exact ⟨hname, by decide⟩
  exact Path.resolve_div home directory hslash
    ⟨hne "" (by decide), hne "." (by decide), hne ".." (by decide)⟩

/-- The module of an app without a slash in its name lies directly in the directory. -/
theorem isDirectlyIn_appFile {name : List Char} (hname : '/' ∉ name) (home : Location)
    (directory : Path) :
    isDirectlyIn (directory.resolve home) ((appFile directory name).resolve home) = true := by
  rw [resolve_appFile hname, isDirectlyIn, List.dropLast_concat]
  simp

theorem landsInside_of_no_slash {settings : GeneratorSettings} {made : Stamp} {t : FileTree}
    (h : ∀ rules, rulesRead? settings t = some rules → ∀ app ∈ splitApps rules.toList,
      '/' ∉ app.1) : LandsInside settings made t := by
  intro rules t₁ hbefore l bytes hl hlast
  obtain ⟨hread, home, -⟩ := beforeApps?_eq_some hbefore
  obtain ⟨app, hmem, hland⟩ := exists_app_of_lastWritten hlast
  obtain ⟨app', hmem', rfl⟩ := List.mem_map.mp hmem
  have hdirect := isDirectlyIn_appFile (h rules hread app' hmem') t.home settings.appDirectory
  rw [← home, ← landing?_eq_resolve hland] at hdirect
  rw [appLocation, ← home, hdirect] at hl
  cases hl

/-! ## When a run is confined -/

/-- A run keeps to its own files exactly when no module of an app changes a file outside the
directory, and names without a slash are enough for that. -/
theorem confined_iff (settings : GeneratorSettings) (made : Stamp) (t : FileTree) :
    (Confined settings made t ↔ LandsInside settings made t) ∧
      ((∀ rules, rulesRead? settings t = some rules → ∀ app ∈ splitApps rules.toList,
        '/' ∉ app.1) → Confined settings made t) :=
  ⟨⟨Confined.landsInside, confined_of_landsInside⟩,
    fun h => confined_of_landsInside (landsInside_of_no_slash h)⟩

/-- A tree with a list that names one source, and rules that stand in it. -/
def oneSource (rules : String) : FileTree :=
  { entries := [(["list"], .file (Text.Utf8.encode "rules\n".toList)),
      (["rules"], .file (Text.Utf8.encode rules.toList))] }

/-- Settings that name the list and a directory for what is made of it. -/
def listToOut : GeneratorSettings :=
  { sources := { text := "list" }, output := { text := "out" }, projectName := "M" }

/-- An app with a plain name. -/
theorem confined_plain :
    (∀ rules, rulesRead? listToOut (oneSource "# > App\nDOMAIN,a.example.com,REJECT\n") =
      some rules → ∀ app ∈ splitApps rules.toList, '/' ∉ app.1) ∧
    Confined listToOut default (oneSource "# > App\nDOMAIN,a.example.com,REJECT\n") := by
  have hread : rulesRead? listToOut (oneSource "# > App\nDOMAIN,a.example.com,REJECT\n") =
      some "# > App\nDOMAIN,a.example.com,REJECT\n" := by decide +kernel
  have hnames : ∀ rules,
      rulesRead? listToOut (oneSource "# > App\nDOMAIN,a.example.com,REJECT\n") = some rules →
        ∀ app ∈ splitApps rules.toList, '/' ∉ app.1 := by
    intro rules h
    rw [hread] at h
    cases h
    decide
  exact ⟨hnames, (confined_iff _ _ _).2 hnames⟩

/-- The module of an app whose name leads back out of the directory is written next to the merged
one. -/
theorem not_confined_outside :
    ¬ Confined listToOut default (oneSource "# > ../Outside\nDOMAIN,a.example.com,REJECT\n") := by
  intro h
  have hsame := h.others ["out", "Outside.sgmodule"] (by decide) (by decide)
  revert hsame
  decide +kernel

end Intercept.Sgmodule
