import Intercept.Proofs.Files.Removal
import Intercept.Sgmodule.Generator

/-!
# Intercept.Proofs.Sgmodule.Generator -- which files a run of the generator changes

A run reads the sources, prepares the directories and the merged module, and writes the modules of
the apps. Reading changes no file. Preparing changes the merged module and takes the files out of the
directory of the apps' modules, one after another; where the path to one of them is too long the run
ends in the midst of that. Where the modules of apps land is told by the names of the apps, and these
are free text: a name with slashes leads out of the directory. So a run keeps to its own files exactly
as long as no module lands outside, other than where it makes no difference.
-/

namespace Intercept.Sgmodule

open FileTree

/-! ## The parts of a run -/

/-- The texts of the sources that the list names. -/
def sourceTexts (settings : GeneratorSettings) :
    ExceptT Fault (StateM FileTree) (List (Option String)) := do
  let entries ← readSourceList settings.sources
  ExceptT.lift (loadSources settings.sources entries)

/-- The rules of some texts in one text, unless there are none. -/
def joinedRules? (texts : List (Option String)) : Option String :=
  if (rulesOf texts).isEmpty then none else some ("\n".intercalate (rulesOf texts))

/-- The directories and the merged module, and no file where the modules of apps will be. -/
def prepare (settings : GeneratorSettings) (made : Stamp) (rules : String) :
    ExceptT Fault (StateM FileTree) Unit := do
  Files.orFail .files (Files.makeDirectories settings.output)
  Files.orFail .files
    (Files.writeText settings.mergedModule (build settings.projectName made rules))
  Files.orFail .files (Files.makeDirectories settings.appDirectory)
  Files.orFail .files (Files.removeFilesIn settings.appDirectory)

theorem generate_eq (settings : GeneratorSettings) (made : Stamp) :
    generate settings made = (do
      let texts ← sourceTexts settings
      match joinedRules? texts with
      | none => return { loaded := (rulesOf texts).length, failed := texts.count none }
      | some rules =>
        prepare settings made rules
        let (apps, appsFailed) ←
          ExceptT.lift (writeApps settings.appDirectory (appModules made rules.toList))
        return {
          loaded := (rulesOf texts).length
          failed := texts.count none
          merged := some settings.mergedModule
          apps, appsFailed } : ExceptT Fault (StateM FileTree) Report) := by
  -- Both are the same steps; only the binds are nested in another way.
  simp only [generate, sourceTexts, joinedRules?, prepare, replaceApps, bind_assoc]
  congr 1
  funext entries
  congr 1
  funext texts
  split
  · rfl
  · rfl

/-! ## Reading -/

variable {paths : List Path}

theorem makes_firstFile? (candidates : List Path) : Makes paths (firstFile? candidates) := by
  induction candidates with
  | nil => exact makes_pure _
  | cons p rest ih =>
    refine makes_bind (makes_isFile p) fun there => ?_
    split
    · exact makes_pure _
    · exact ih

theorem makes_loadSource (list : Path) (entry : String) : Makes paths (loadSource list entry) := by
  rw [loadSource]
  split
  · exact makes_bind (makes_download entry) fun _ => makes_pure _
  · refine makes_bind (makes_firstFile? _) fun found => ?_
    cases found with
    | none => exact makes_pure _
    | some p => exact makes_bind (makes_readText p) fun _ => makes_pure _

theorem makes_loadSources (list : Path) (entries : List String) :
    Makes paths (loadSources list entries) := by
  induction entries with
  | nil => exact makes_pure _
  | cons entry rest ih =>
    exact makes_bind (makes_loadSource list entry) fun _ => makes_bind ih fun _ => makes_pure _

theorem makes_sourceTexts (settings : GeneratorSettings) :
    Makes paths (sourceTexts settings).run := by
  have hlist : Makes paths (readSourceList settings.sources :
      ExceptT Fault (StateM FileTree) (List String)).run :=
    makes_bind_run (makes_orFail _ (makes_readText _)) fun _ => makes_pure _
  exact makes_bind_run hlist fun entries => makes_lift (makes_loadSources _ entries)

theorem keeps_sourceTexts (settings : GeneratorSettings) : Keeps (sourceTexts settings).run :=
  Makes.keeps (makes_sourceTexts settings : Makes [] _)

/-! ## Preparing -/

/-- Where the merged module is. -/
def mergedLocation (settings : GeneratorSettings) (t : FileTree) : Location :=
  settings.mergedModule.resolve t.home

/-- Where the directory of the modules of apps is. -/
def appLocation (settings : GeneratorSettings) (t : FileTree) : Location :=
  settings.appDirectory.resolve t.home

/-- The bytes of the merged module. -/
def mergedBytes (settings : GeneratorSettings) (made : Stamp) (rules : String) : List UInt8 :=
  Text.Utf8.encode (build settings.projectName made rules).toList

theorem mergedLocation_eq (settings : GeneratorSettings) (t : FileTree) :
    mergedLocation settings t = settings.output.resolve t.home ++ ["Module.sgmodule"] :=
  Path.resolve_div t.home settings.output (by decide) (by decide)

theorem appLocation_eq (settings : GeneratorSettings) (t : FileTree) :
    appLocation settings t = settings.output.resolve t.home ++ ["Modules"] :=
  Path.resolve_div t.home settings.output (by decide) (by decide)

/-- The merged module does not lie among the modules of apps. -/
theorem not_isDirectlyIn_mergedLocation (settings : GeneratorSettings) (t : FileTree) :
    isDirectlyIn (appLocation settings t) (mergedLocation settings t) = false := by
  rw [mergedLocation_eq, appLocation_eq, isDirectlyIn, List.dropLast_concat]
  simp

/-- The file at a location once the merged module is written. -/
def withMerged (settings : GeneratorSettings) (made : Stamp) (rules : String) (t : FileTree)
    (l : Location) : Option (List UInt8) :=
  if l = mergedLocation settings t then some (mergedBytes settings made rules) else t.fileAt l

/-- How preparing ends: at once, with the merged module alone, amid the older files, or with everything
in place. -/
inductive Prepared (settings : GeneratorSettings) (made : Stamp) (rules : String) (t : FileTree) :
    Except Fault Unit × FileTree → Prop
  | failed {fault : Fault} {t' : FileTree} (same : SameFiles t t') :
    Prepared settings made rules t (.error fault, t')
  | merged {fault : Fault} {t' : FileTree} (home : t'.home = t.home)
      (files : ∀ l, t'.fileAt l = withMerged settings made rules t l) :
    Prepared settings made rules t (.error fault, t')
  | stopped {t' : FileTree} (home : t'.home = t.home)
      (files : ∀ l, t'.fileAt l = withMerged settings made rules t l ∨
        isDirectlyIn (appLocation settings t) l = true ∧ t'.fileAt l = none) :
    Prepared settings made rules t (.error (.files .nameTooLong), t')
  | cleared {t' : FileTree} (home : t'.home = t.home)
      (files : ∀ l, t'.fileAt l = if isDirectlyIn (appLocation settings t) l then none
        else withMerged settings made rules t l) :
    Prepared settings made rules t (.ok (), t')

theorem prepare_run (settings : GeneratorSettings) (made : Stamp) (rules : String)
    (t : FileTree) :
    Prepared settings made rules t ((prepare settings made rules).run.run t) := by
  rw [prepare]
  obtain ⟨fault, t₁, hmake, hrun⟩ | ⟨_, t₁, hmake, hrun⟩ := run_bind_cases
    (Files.orFail .files (Files.makeDirectories settings.output)) _ t
  · rw [hrun]
    exact .failed ((makes_orFail _ (makes_makeDirectories _)).keeps.sameFiles hmake)
  have hsame₁ : SameFiles t t₁ := (makes_orFail _ (makes_makeDirectories _)).keeps.sameFiles hmake
  -- The merged module is written, or the run ends with the files as they were.
  rw [hrun]
  obtain ⟨fault, t₂, hwrite, hrun⟩ | ⟨_, t₂, hwrite, hrun⟩ := run_bind_cases
    (Files.orFail .files
      (Files.writeText settings.mergedModule (build settings.projectName made rules))) _ t₁
  · rw [hrun, orFail_writeText_eq_error hwrite]
    exact .failed hsame₁
  have hmerged : t₂.home = t.home ∧ ∀ l, t₂.fileAt l = withMerged settings made rules t l := by
    obtain ⟨l, hl, rfl⟩ := orFail_writeText_eq_ok hwrite
    have hwhere : l = mergedLocation settings t := by
      rw [mergedLocation, ← hsame₁.home]
      exact landing?_eq_resolve hl
    refine ⟨hsame₁.home, fun l' => ?_⟩
    rw [fileAt_put_file (nameable_of_landing? hl), hsame₁.fileAt, hwhere]
    rfl
  -- From here on the merged module is in place, whatever fails.
  rw [hrun]
  obtain ⟨fault, t₃, hmake', hrun⟩ | ⟨_, t₃, hmake', hrun⟩ := run_bind_cases
    (Files.orFail .files (Files.makeDirectories settings.appDirectory)) _ t₂
  · rw [hrun]
    have hsame := (makes_orFail _ (makes_makeDirectories _)).keeps.sameFiles hmake'
    exact .merged (hsame.home.trans hmerged.1) fun l => (hsame.fileAt l).trans (hmerged.2 l)
  have hsame₃ : SameFiles t₂ t₃ := (makes_orFail _ (makes_makeDirectories _)).keeps.sameFiles hmake'
  have hhome : t₃.home = t.home := hsame₃.home.trans hmerged.1
  have hfiles : ∀ l, t₃.fileAt l = withMerged settings made rules t l :=
    fun l => (hsame₃.fileAt l).trans (hmerged.2 l)
  -- What is left of the older files is told by how removing them ends.
  have happ : settings.appDirectory.resolve t₃.home = appLocation settings t := by
    rw [hhome]
    rfl
  have hremoved := removeFilesIn_run t₃ settings.appDirectory
  rw [hrun, run_orFail]
  rw [happ] at hremoved
  generalize (Files.removeFilesIn settings.appDirectory : StateM FileTree _).run t₃ = out at hremoved ⊢
  cases hremoved with
  | unread => exact .merged hhome hfiles
  | stopped taken =>
    refine .stopped (taken.home.trans hhome) fun l => ?_
    rw [← hfiles]
    exact taken.fileAt l
  | done taken gone =>
    refine .cleared (taken.home.trans hhome) fun l => ?_
    cases hl : isDirectlyIn (appLocation settings t) l with
    | true => rw [gone l hl, if_pos rfl]
    | false => rw [taken.fileAt_of_deeper hl, hfiles, if_neg Bool.false_ne_true]

/-! ## The modules of apps -/

/-- What the modules of apps leave at a location: the last one that lands there, if any does. -/
def lastWritten (t : FileTree) (directory : Path) :
    List (List Char × List Char) → Location → Option (List UInt8)
  | [], _ => none
  | (name, content) :: rest, l =>
    (lastWritten t directory rest l).or
      (if t.landing? (appFile directory name) = some l then some (Text.Utf8.encode content)
        else none)

/-- Writing a module of an app changes the file where it lands and no directory. -/
theorem writeText_step (t : FileTree) (p : Path) (content : List Char) :
    SameDirectories t ((Files.writeText p (String.ofList content) : StateM FileTree _).run t).2 ∧
      ∀ l, ((Files.writeText p (String.ofList content) : StateM FileTree _).run t).2.fileAt l =
        (if t.landing? p = some l then some (Text.Utf8.encode content) else none).or
          (t.fileAt l) := by
  obtain ⟨l₀, hl, hrun⟩ | ⟨hnone, fault, hrun⟩ := writeText_cases t p (String.ofList content)
  · rw [hrun, String.toList_ofList]
    refine ⟨sameDirectories_put_file hl _, fun l => ?_⟩
    rw [fileAt_put_file (nameable_of_landing? hl), hl]
    by_cases h : l = l₀
    · rw [if_pos h, if_pos (congrArg some h.symm), Option.some_or]
    · rw [if_neg h, if_neg fun heq => h (Option.some.inj heq).symm, Option.none_or]
  · rw [hrun]
    refine ⟨SameDirectories.refl t, fun l => ?_⟩
    rw [hnone, if_neg (by simp), Option.none_or]

/-- Where modules land depends on the directories, and these stay while the modules are written. -/
theorem writeApps_files {t₀ t : FileTree} (h : SameDirectories t₀ t) (directory : Path)
    (apps : List (List Char × List Char)) :
    SameDirectories t₀ ((writeApps directory apps : StateM FileTree _).run t).2 ∧
      ∀ l, ((writeApps directory apps : StateM FileTree _).run t).2.fileAt l =
        (lastWritten t₀ directory apps l).or (t.fileAt l) := by
  -- Induction on the modules; the trees change, but not the directories by which they land.
  induction apps generalizing t with
  | nil => exact ⟨h, fun l => (Option.none_or).symm⟩
  | cons app rest ih =>
    obtain ⟨name, content⟩ := app
    obtain ⟨hdirs, hfiles⟩ := writeText_step t (appFile directory name) content
    obtain ⟨hdirs', hfiles'⟩ := ih (h.trans hdirs)
    have hrun : ((writeApps directory ((name, content) :: rest) : StateM FileTree _).run t).2 =
        ((writeApps directory rest : StateM FileTree _).run
          ((Files.writeText (appFile directory name) (String.ofList content) :
            StateM FileTree _).run t).2).2 := by
      -- What is counted depends on whether the module was written, the tree does not.
      rw [writeApps, StateT.run_bind]
      cases (Files.writeText (appFile directory name) (String.ofList content) :
        StateM FileTree _).run t with
      | mk written t₁ =>
        cases written with
        | ok _ => rfl
        | error _ => rfl
    rw [hrun]
    refine ⟨hdirs', fun l => ?_⟩
    rw [hfiles', hfiles, lastWritten, landing?_congr h, Option.or_assoc]

/-! ## Whole runs -/

/-- What a run of the generator on a tree answers, and the tree it leaves. -/
def generated (settings : GeneratorSettings) (made : Stamp) (t : FileTree) :
    Except Fault Report × FileTree :=
  (generate settings made : ExceptT Fault (StateM FileTree) Report).run.run t

/-- The rules that a run reads from the sources. -/
def rulesRead? (settings : GeneratorSettings) (t : FileTree) : Option String :=
  ((sourceTexts settings).run.run t).1.toOption.bind joinedRules?

/-- The rules and the tree from which the modules of apps are written, when it comes to that. -/
def beforeApps? (settings : GeneratorSettings) (made : Stamp) (t : FileTree) :
    Option (String × FileTree) :=
  (rulesRead? settings t).bind fun rules =>
    match (prepare settings made rules).run.run ((sourceTexts settings).run.run t).2 with
    | (.ok _, t') => some (rules, t')
    | (.error _, _) => none

/-- How a run ends: without rules, with a failure before any older file is removed or amid them, or
with all modules written. -/
inductive Generated (settings : GeneratorSettings) (made : Stamp) (t : FileTree) :
    Except Fault Report × FileTree → Prop
  | unread {result : Except Fault Report} {t' : FileTree} (unread : rulesRead? settings t = none)
      (same : SameFiles t t') :
    Generated settings made t (result, t')
  | failed {rules : String} {fault : Fault} {t' : FileTree}
      (read : rulesRead? settings t = some rules) (before : beforeApps? settings made t = none)
      (files : (∀ l, t'.fileAt l = t.fileAt l) ∨
        ∀ l, t'.fileAt l = withMerged settings made rules t l) :
    Generated settings made t (.error fault, t')
  | stopped {rules : String} {t' : FileTree}
      (read : rulesRead? settings t = some rules) (before : beforeApps? settings made t = none)
      (files : ∀ l, t'.fileAt l = withMerged settings made rules t l ∨
        isDirectlyIn (appLocation settings t) l = true ∧ t'.fileAt l = none) :
    Generated settings made t (.error (.files .nameTooLong), t')
  | done {rules : String} {t₁ t' : FileTree} {report : Report}
      (read : rulesRead? settings t = some rules)
      (before : beforeApps? settings made t = some (rules, t₁)) (home : t₁.home = t.home)
      (cleared : ∀ l, t₁.fileAt l = if isDirectlyIn (appLocation settings t) l then none
        else withMerged settings made rules t l)
      (files : ∀ l, t'.fileAt l = (lastWritten t₁ settings.appDirectory
        (appModules made rules.toList) l).or (t₁.fileAt l)) :
    Generated settings made t (.ok report, t')

theorem generated_run (settings : GeneratorSettings) (made : Stamp) (t : FileTree) :
    Generated settings made t (generated settings made t) := by
  rw [generated, generate_eq]
  obtain ⟨fault, t₀, hread, hrun⟩ | ⟨texts, t₀, hread, hrun⟩ :=
    run_bind_cases (sourceTexts settings) _ t
  · rw [hrun]
    refine .unread ?_ ((keeps_sourceTexts settings).sameFiles hread)
    rw [rulesRead?, hread]
    rfl
  have hsame : SameFiles t t₀ := (keeps_sourceTexts settings).sameFiles hread
  have hrules : rulesRead? settings t = joinedRules? texts := by
    rw [rulesRead?, hread]
    rfl
  rw [hrun]
  cases hj : joinedRules? texts with
  | none => exact .unread (hrules.trans hj) hsame
  | some rules =>
    -- Nothing that preparing leaves depends on what reading has done to the tree.
    have hmerged : ∀ l, withMerged settings made rules t₀ l = withMerged settings made rules t l := by
      intro l
      rw [withMerged, withMerged, mergedLocation, hsame.home, hsame.fileAt]
      rfl
    have happ : appLocation settings t₀ = appLocation settings t := by
      rw [appLocation, hsame.home]
      rfl
    have hprepared := prepare_run settings made rules t₀
    have hbefore : beforeApps? settings made t =
        match (prepare settings made rules).run.run t₀ with
        | (.ok _, t') => some (rules, t')
        | (.error _, _) => none := by
      rw [beforeApps?, hrules, hj, hread]
      rfl
    obtain ⟨fault, t₁, hprepare, hrun⟩ | ⟨_, t₁, hprepare, hrun⟩ :=
      run_bind_cases (prepare settings made rules) _ t₀
    · rw [hrun]
      rw [hprepare] at hprepared hbefore
      have hread' := hrules.trans hj
      cases hprepared with
      | failed same =>
        exact .failed hread' hbefore (.inl fun l => (same.fileAt l).trans (hsame.fileAt l))
      | merged home files =>
        exact .failed hread' hbefore (.inr fun l => (files l).trans (hmerged l))
      | stopped home files =>
        refine .stopped hread' hbefore fun l => ?_
        rw [← hmerged, ← happ]
        exact files l
    · rw [hrun]
      rw [hprepare] at hprepared hbefore
      cases hprepared with
      | cleared home files =>
        refine .done (hrules.trans hj) hbefore (home.trans hsame.home) (fun l => ?_)
          (writeApps_files (SameDirectories.refl t₁) _ _).2
        rw [files, hmerged, happ]

/-- What is known of a run that comes to write the modules of apps. -/
theorem beforeApps?_eq_some {settings : GeneratorSettings} {made : Stamp} {t t₁ : FileTree}
    {rules : String} (h : beforeApps? settings made t = some (rules, t₁)) :
    rulesRead? settings t = some rules ∧ t₁.home = t.home ∧
      (∀ l, t₁.fileAt l = if isDirectlyIn (appLocation settings t) l then none
        else withMerged settings made rules t l) ∧
      ∃ report t', generated settings made t = (.ok report, t') ∧
        ∀ l, t'.fileAt l = (lastWritten t₁ settings.appDirectory
          (appModules made rules.toList) l).or (t₁.fileAt l) := by
  have hrun := generated_run settings made t
  generalize generated settings made t = run at hrun
  cases hrun with
  | unread unread same =>
    rw [beforeApps?, unread] at h
    cases h
  | failed read before files =>
    rw [before] at h
    cases h
  | stopped read before files =>
    rw [before] at h
    cases h
  | done read before home cleared files =>
    rw [before] at h
    cases h
    exact ⟨read, home, cleared, _, _, rfl, files⟩

end Intercept.Sgmodule
