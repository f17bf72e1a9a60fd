import Intercept.Proofs.Files.Passes
import Intercept.Proofs.Sgmodule.Apps
import Intercept.Proofs.Sgmodule.Confinement
import Mathlib.Data.List.Nodup

/-!
# Intercept.Proofs.Sgmodule.AppDirectory -- what a run leaves among the modules of apps

A run takes the files out of the directory of the modules of apps and then writes the modules there,
as far as they can be written. When it ends well, the files there are those that it reports, and each
holds the module of its app. What lies in directories there is not touched, save that the way to the
output may itself lead through them and back out again: what is missing on that way is made.
-/

namespace Intercept.Sgmodule

open FileTree

/-! ## Modules that can be written -/

/-- Whether the module of an app can be written: its path leads to where no directory is. -/
def lands (t : FileTree) (directory : Path) (app : List Char × List Char) : Bool :=
  (t.landing? (appFile directory app.1)).isSome

theorem lands_congr {t t' : FileTree} (h : SameDirectories t t') (directory : Path) :
    lands t' directory = lands t directory := by
  funext app
  rw [lands, lands, landing?_congr h]

/-- The modules that are written are those that can be, in their order, and the others are counted.
-/
theorem writeApps_answer {t₀ t : FileTree} (h : SameDirectories t₀ t) (directory : Path)
    (apps : List (List Char × List Char)) :
    ((writeApps directory apps : StateM FileTree _).run t).1 =
      ((apps.filter (lands t₀ directory)).map fun app => appFile directory app.1,
        apps.countP fun app => !lands t₀ directory app) := by
  -- Induction on the modules; the directories, and with them what can be written, stay the same.
  induction apps generalizing t with
  | nil => rfl
  | cons app rest ih =>
    obtain ⟨name, content⟩ := app
    have hdirs := (writeText_step t (appFile directory name) content).1
    have hlands : lands t₀ directory (name, content) =
        (t.landing? (appFile directory name)).isSome := by
      rw [lands, landing?_congr h]
    have hrest := ih (h.trans hdirs)
    rw [writeApps, StateT.run_bind, List.filter_cons, List.countP_cons, hlands]
    obtain ⟨l, hl, hrun⟩ | ⟨hnone, fault, hrun⟩ :=
      writeText_cases t (appFile directory name) (String.ofList content)
    · rw [hrun] at hrest ⊢
      rw [hl, Option.isSome_some, if_pos rfl, List.map_cons]
      obtain ⟨hfiles, hfailures⟩ := Prod.mk.inj hrest
      exact congrArg₂ Prod.mk (congrArg (appFile directory name :: ·) hfiles) hfailures
    · rw [hrun] at hrest ⊢
      rw [hnone, Option.isSome_none, if_neg Bool.false_ne_true]
      obtain ⟨hfiles, hfailures⟩ := Prod.mk.inj hrest
      exact congrArg₂ Prod.mk hfiles (congrArg (· + 1) hfailures)

/-- Every module is either written or counted. -/
theorem writeApps_counted (t : FileTree) (directory : Path) (apps : List (List Char × List Char)) :
    ((writeApps directory apps : StateM FileTree _).run t).1.1.length +
      ((writeApps directory apps : StateM FileTree _).run t).1.2 = apps.length := by
  rw [writeApps_answer (SameDirectories.refl t), List.length_map, ← List.countP_eq_length_filter]
  have hnot : (fun app => !lands t directory app) =
      fun app => decide (¬ lands t directory app = true) := by
    funext app
    cases lands t directory app <;> rfl
  rw [hnot]
  exact (List.length_eq_countP_add_countP _).symm

theorem lastWritten_eq_none {t : FileTree} {directory : Path}
    {apps : List (List Char × List Char)} {l : Location}
    (h : ∀ app ∈ apps, t.landing? (appFile directory app.1) ≠ some l) :
    lastWritten t directory apps l = none := by
  by_contra hsome
  obtain ⟨bytes, hbytes⟩ := Option.ne_none_iff_exists'.mp hsome
  obtain ⟨app, hmem, hland⟩ := exists_app_of_lastWritten hbytes
  exact h app hmem hland

/-- What a location holds that one module alone lands at. -/
theorem lastWritten_eq_some {t : FileTree} {directory : Path} {app : List Char × List Char}
    {apps : List (List Char × List Char)} {l : Location} (hmem : app ∈ apps)
    (hland : t.landing? (appFile directory app.1) = some l)
    (hone : ∀ app' ∈ apps, t.landing? (appFile directory app'.1) = some l → app' = app) :
    lastWritten t directory apps l = some (Text.Utf8.encode app.2) := by
  induction apps with
  | nil => cases hmem
  | cons first rest ih =>
    rw [List.forall_mem_cons] at hone
    rw [lastWritten]
    by_cases hlater : app ∈ rest
    · rw [ih hlater hone.2, Option.some_or]
    -- No later module lands there, for it would be this one.
    · have hnone : lastWritten t directory rest l = none :=
        lastWritten_eq_none fun app' hmem' hland' =>
          hlater (hone.2 app' hmem' hland' ▸ hmem')
      obtain rfl := (List.mem_cons.mp hmem).resolve_right hlater
      rw [hnone, Option.none_or, if_pos hland]

/-- Apps with different names have their modules at different locations. -/
theorem eq_of_resolve_appFile {name name' : List Char} (hname : '/' ∉ name) (hname' : '/' ∉ name')
    {home : Location} {directory : Path}
    (h : (appFile directory name).resolve home = (appFile directory name').resolve home) :
    name = name' := by
  rw [resolve_appFile hname, resolve_appFile hname'] at h
  have hfile := congrArg String.toList (List.singleton_inj.mp (List.append_cancel_left h))
  simp only [String.toList_append, String.toList_ofList] at hfile
  exact List.append_cancel_right hfile

section Apart

variable {apps : List (List Char × List Char)} (hslash : ∀ app ∈ apps, '/' ∉ app.1)
  (hnodup : (apps.map Prod.fst).Nodup)

include hslash hnodup

theorem eq_of_appFile {app app' : List Char × List Char} (hmem : app ∈ apps) (hmem' : app' ∈ apps)
    {home : Location} {directory : Path}
    (h : (appFile directory app.1).resolve home = (appFile directory app'.1).resolve home) :
    app = app' :=
  List.inj_on_of_nodup_map hnodup hmem hmem'
    (eq_of_resolve_appFile (hslash app hmem) (hslash app' hmem') h)

/-- Each location gets what the app brings whose module lands there. -/
theorem lastWritten_eq_some_iff {t : FileTree} {directory : Path} {l : Location}
    {bytes : List UInt8} : lastWritten t directory apps l = some bytes ↔
      ∃ app ∈ apps, t.landing? (appFile directory app.1) = some l ∧
        Text.Utf8.encode app.2 = bytes := by
  have hlast : ∀ app ∈ apps, t.landing? (appFile directory app.1) = some l →
      lastWritten t directory apps l = some (Text.Utf8.encode app.2) := by
    intro app hmem hland
    refine lastWritten_eq_some hmem hland fun app' hmem' hland' => ?_
    apply eq_of_appFile hslash hnodup hmem' hmem
    rw [← landing?_eq_resolve hland', ← landing?_eq_resolve hland]
  constructor
  · intro h
    obtain ⟨app, hmem, hland⟩ := exists_app_of_lastWritten h
    rw [hlast app hmem hland] at h
    exact ⟨app, hmem, hland, Option.some.inj h⟩
  · rintro ⟨app, hmem, hland, rfl⟩
    exact hlast app hmem hland

theorem nodup_appFiles (f : List Char × List Char → Bool) (home : Location) (directory : Path) :
    (((apps.filter f).map fun app => appFile directory app.1).map (Path.resolve home)).Nodup := by
  rw [List.map_map]
  refine List.Nodup.map_on (fun app hmem app' hmem' h => ?_) (hnodup.of_map.filter f)
  rw [Function.comp_apply, Function.comp_apply] at h
  exact eq_of_appFile hslash hnodup (List.mem_filter.mp hmem).1 (List.mem_filter.mp hmem').1 h

/-- A module that can be written is found at its path afterwards. -/
theorem writeApps_held {t t' : FileTree} {directory : Path} {answer : List Path × Nat}
    (h : (writeApps directory apps : StateM FileTree _).run t = (answer, t'))
    {app : List Char × List Char} (hmem : app ∈ apps) (hlands : lands t directory app = true) :
    t'.locate (appFile directory app.1) = .ok ((appFile directory app.1).resolve t.home) ∧
      t'.fileAt ((appFile directory app.1).resolve t.home) = some (Text.Utf8.encode app.2) := by
  obtain ⟨hsame, hfiles⟩ := writeApps_files (SameDirectories.refl t) directory apps
  rw [h] at hsame hfiles
  obtain ⟨l, hl⟩ := Option.isSome_iff_exists.mp hlands
  rw [← landing?_eq_resolve hl]
  constructor
  · exact (landing?_eq_some.mp ((landing?_congr hsame _).trans hl)).1
  · rw [hfiles, (lastWritten_eq_some_iff hslash hnodup).mpr ⟨app, hmem, hl, rfl⟩, Option.some_or]

/-- Where no file was, one is found afterwards only if a module was written there. -/
theorem exists_app_of_writeApps {t t' : FileTree} {directory : Path} {answer : List Path × Nat}
    (h : (writeApps directory apps : StateM FileTree _).run t = (answer, t')) {l : Location}
    (hempty : t.fileAt l = none) (hsome : (t'.fileAt l).isSome = true) :
    ∃ app ∈ apps, lands t directory app = true ∧
      (appFile directory app.1).resolve t.home = l := by
  obtain ⟨-, hfiles⟩ := writeApps_files (SameDirectories.refl t) directory apps
  rw [h] at hfiles
  rw [hfiles, hempty, Option.or_none] at hsome
  obtain ⟨bytes, hbytes⟩ := Option.isSome_iff_exists.mp hsome
  obtain ⟨app, hmem, hl, -⟩ := (lastWritten_eq_some_iff hslash hnodup).mp hbytes
  exact ⟨app, hmem, by rw [lands, hl, Option.isSome_some], (landing?_eq_resolve hl).symm⟩

end Apart

/-! ## Runs that come to the modules of apps -/

variable {settings : GeneratorSettings} {made : Stamp} {rules : String} {t t₁ t' : FileTree}
  {report : Report}

/-- A run with rules that ends well reports what writing the modules of apps answers. -/
theorem generated_eq_ok (hread : rulesRead? settings t = some rules)
    (h : generated settings made t = (.ok report, t')) :
    ∃ t₁, beforeApps? settings made t = some (rules, t₁) ∧
      (writeApps settings.appDirectory (appModules made rules.toList) : StateM FileTree _).run t₁ =
        ((report.apps, report.appsFailed), t') := by
  rw [generated, generate_eq] at h
  obtain ⟨texts, t₀, htexts, h⟩ := run_bind_eq_ok h
  have hjoined : joinedRules? texts = some rules := by
    rw [← hread, rulesRead?, htexts]
    rfl
  rw [hjoined] at h
  obtain ⟨_, t₁, hprepare, h⟩ := run_bind_eq_ok h
  obtain ⟨⟨apps, appsFailed⟩, t₂, hwrite, h⟩ := run_bind_eq_ok h
  obtain ⟨hresult, rfl⟩ := Prod.mk.inj h
  cases hresult
  refine ⟨t₁, ?_, ?_⟩
  · rw [beforeApps?, hread, htexts, Option.bind_some, hprepare]
  · obtain ⟨hanswer, htree⟩ := Prod.mk.inj hwrite
    exact Prod.ext (Except.ok.inj hanswer) htree

/-- What preparing does when it ends well: directories are made around the merged module, and then
files are removed. -/
theorem prepare_eq_ok (h : (prepare settings made rules).run.run t = (.ok (), t')) :
    ∃ t₁ t₂ l, Grown settings.output.ancestors t t₁ ∧ t₁.landing? settings.mergedModule = some l ∧
      Grown settings.appDirectory.ancestors (t₁.put l (.file (mergedBytes settings made rules))) t₂ ∧
      SameDirectories t₂ t' := by
  rw [prepare] at h
  obtain ⟨_, t₁, hmake, hrest⟩ := run_bind_eq_ok h
  obtain ⟨_, t₁', hwrite, hrest⟩ := run_bind_eq_ok hrest
  obtain ⟨_, t₂, hmake', hremove⟩ := run_bind_eq_ok hrest
  obtain ⟨l, hl, rfl⟩ := orFail_writeText_eq_ok hwrite
  refine ⟨t₁, t₂, l, (makes_orFail _ (makes_makeDirectories _)).grown hmake, hl,
    (makes_orFail _ (makes_makeDirectories _)).grown hmake', ?_⟩
  have hremoved := removeFilesIn_run t₂ settings.appDirectory
  rw [run_orFail] at hremove
  generalize (Files.removeFilesIn settings.appDirectory : StateM FileTree _).run t₂ = out
    at hremoved hremove
  cases hremoved with
  | unread => cases hremove
  | stopped taken => cases hremove
  | done taken gone =>
    cases hremove
    exact taken.toSameDirectories

/-- To the directory of the modules of apps one comes by the way to the output. -/
theorem passes_of_mem_ancestors_appDirectory {p : Path} (hp : p ∈ settings.appDirectory.ancestors)
    (home : Location) : settings.output.Passes home (p.resolve home) ∨
      p.resolve home = settings.appDirectory.resolve home :=
  (Path.passes_of_mem_ancestors hp).of_div (by decide)

/-- The directories after preparing are those of a tree that has the files from before and the
merged module: those that were there, and those on the way. -/
theorem directories_of_prepare (h : (prepare settings made rules).run.run t = (.ok (), t')) :
    ∃ t₂, SameDirectories t₂ t' ∧ (∀ l, t₂.fileAt l = withMerged settings made rules t l) ∧
      (∀ l, t.get? l = some .directory → t₂.get? l = some .directory) ∧
      ∀ l, t₂.get? l = some .directory → t.get? l = some .directory ∨
        settings.output.Passes t.home l ∨ l = appLocation settings t := by
  obtain ⟨t₁, t₂, l₁, hmade, hland, hmade', hsame⟩ := prepare_eq_ok h
  have hput := sameDirectories_put_file hland (mergedBytes settings made rules)
  have hhome : t₁.home = t.home := hmade.home
  have hwhere : l₁ = mergedLocation settings t := by
    rw [landing?_eq_resolve hland, hhome]
    rfl
  refine ⟨t₂, hsame, ?_, ?_, ?_⟩
  · intro l
    rw [hmade'.fileAt, fileAt_put_file (nameable_of_landing? hland), hmade.fileAt, hwhere]
    rfl
  · intro l hl
    exact hmade'.kept l ((hput.directories l).mpr (hmade.kept l hl))
  · intro l hl
    obtain hl₁ | ⟨p, hp, hresolve⟩ := hmade'.made l hl
    · obtain hl₀ | ⟨p, hp, hresolve⟩ := hmade.made l ((hput.directories l).mp hl₁)
      · exact Or.inl hl₀
      · exact Or.inr (Or.inl (hresolve ▸ Path.passes_of_mem_ancestors hp))
    · have hp' := passes_of_mem_ancestors_appDirectory hp t.home
      have hresolve' : p.resolve t.home = l := by
        rw [← hresolve, ← hhome]
        rfl
      rw [hresolve'] at hp'
      exact Or.inr hp'

theorem prepare_of_beforeApps? (h : beforeApps? settings made t = some (rules, t₁)) :
    ∃ t₀, Grown [] t t₀ ∧ (prepare settings made rules).run.run t₀ = (.ok (), t₁) := by
  refine ⟨((sourceTexts settings).run.run t).2, makes_sourceTexts settings t, ?_⟩
  obtain ⟨rules', -, h⟩ := Option.bind_eq_some_iff.mp h
  split at h
  · next u t₁' hprepare =>
    cases h
    exact hprepare
  · cases h

/-- A directory stays while a run comes to the modules of apps. -/
theorem directory_of_beforeApps? (h : beforeApps? settings made t = some (rules, t₁))
    {l : Location} (hl : t.get? l = some .directory) : t₁.get? l = some .directory := by
  obtain ⟨t₀, hgrown, hprepare⟩ := prepare_of_beforeApps? h
  obtain ⟨t₂, hsame, -, hkept, -⟩ := directories_of_prepare hprepare
  exact (hsame.directories l).mpr (hkept l (hgrown.kept l hl))

/-- A directory that is new then stands where nothing was: on the way to the output, or as the
directory of the modules of apps. -/
theorem new_of_beforeApps? (h : beforeApps? settings made t = some (rules, t₁))
    {l : Location} (hnew : t.get? l ≠ some .directory) (hl : t₁.get? l = some .directory) :
    t.get? l = none ∧ (settings.output.Passes t.home l ∨ l = appLocation settings t) := by
  obtain ⟨t₀, hgrown, hprepare⟩ := prepare_of_beforeApps? h
  obtain ⟨t₂, hsame, hfiles, -, hmade⟩ := directories_of_prepare hprepare
  have hl₂ := (hsame.directories l).mp hl
  constructor
  -- A file would still have been there when the directories were made.
  · have hfile : withMerged settings made rules t₀ l = none := by
      rw [← hfiles, fileAt_of_directory hl₂]
    rw [withMerged] at hfile
    split at hfile
    · cases hfile
    · rw [hgrown.fileAt] at hfile
      exact get?_eq_none hfile hnew
  · obtain hl₀ | hway := hmade l hl₂
    · obtain hl' | ⟨p, hp, -⟩ := hgrown.made l hl₀
      · exact absurd hl' hnew
      · cases hp
    · rw [hgrown.home, appLocation, hgrown.home] at hway
      exact hway

/-! ## The directory afterwards -/

theorem slash_not_mem_of_mem_appModules (made : Stamp)
    (h : ∀ app ∈ splitApps rules.toList, '/' ∉ app.1) :
    ∀ app ∈ appModules made rules.toList, '/' ∉ app.1 := by
  intro app happ
  obtain ⟨app', happ', rfl⟩ := List.mem_map.mp happ
  exact h app' happ'

/-- A location in a directory that lies directly in another one, or that directory itself. -/
def InSubdirectory (t : FileTree) (directory l : Location) : Prop :=
  ∃ name, directory ++ [name] <+: l ∧ t.get? (directory ++ [name]) = some .directory

/-- What is found in the directory of the modules of apps after a run that ended well. The modules
that can be written are reported in their order and the others counted; they stand apart, are the
only files there, and hold what was made for their apps. In directories there nothing changes but
that missing ones are made on the way to the output. -/
structure Replaced (settings : GeneratorSettings) (made : Stamp) (rules : String)
    (t t' : FileTree) (report : Report) : Prop where
  listed : report.apps = ((appModules made rules.toList).filter
    (lands t' settings.appDirectory)).map fun app => appFile settings.appDirectory app.1
  counted : report.apps.length + report.appsFailed = (splitApps rules.toList).length
  distinct : (report.apps.map (Path.resolve t.home)).Nodup
  files : ∀ l, (isDirectlyIn (appLocation settings t) l = true ∧ (t'.fileAt l).isSome = true) ↔
    ∃ p ∈ report.apps, p.resolve t.home = l
  held : ∀ app ∈ appModules made rules.toList, appFile settings.appDirectory app.1 ∈ report.apps →
    t'.readBytes (appFile settings.appDirectory app.1) = .ok (Text.Utf8.encode app.2)
  subdirectories : ∀ l, InSubdirectory t (appLocation settings t) l ∨
      InSubdirectory t' (appLocation settings t) l →
    t'.get? l = t.get? l ∨ (t.get? l = none ∧ t'.get? l = some .directory ∧
      settings.output.Passes t.home l)

/-- What lies in directories in the directory of the modules of apps is what lay there before. -/
def Untouched (settings : GeneratorSettings) (t t' : FileTree) : Prop :=
  ∀ l, InSubdirectory t (appLocation settings t) l ∨ InSubdirectory t' (appLocation settings t) l →
    t'.get? l = t.get? l

theorem length_of_isDirectlyIn {directory l : Location} (h : isDirectlyIn directory l = true) :
    l.length = directory.length + 1 := by
  rw [isDirectlyIn, Bool.and_eq_true, bne_iff_ne, beq_iff_eq] at h
  have hpos := List.length_pos_iff.mpr h.1
  rw [← h.2, List.length_dropLast]
  omega

theorem length_appLocation_lt {l : Location} {name : String}
    (h : appLocation settings t ++ [name] <+: l) : (appLocation settings t).length < l.length := by
  have hlength := h.length_le
  rw [List.length_append, List.length_singleton] at hlength
  exact hlength

/-- A file in a directory that lies in the directory of the modules of apps is as it was. -/
theorem fileAt_of_subdirectory (hbefore : beforeApps? settings made t = some (rules, t₁))
    (hslash : ∀ app ∈ appModules made rules.toList, '/' ∉ app.1) {l : Location} {name : String}
    (hl : appLocation settings t ++ [name] <+: l)
    (hdeep : isDirectlyIn (appLocation settings t) l = false) :
    (lastWritten t₁ settings.appDirectory (appModules made rules.toList) l).or (t₁.fileAt l) =
      t.fileAt l := by
  obtain ⟨-, home, hcleared, -⟩ := beforeApps?_eq_some hbefore
  have hnone : lastWritten t₁ settings.appDirectory (appModules made rules.toList) l = none := by
    refine lastWritten_eq_none fun app hmem hland => ?_
    have hdirect := isDirectlyIn_appFile (hslash app hmem) t₁.home settings.appDirectory
    rw [← landing?_eq_resolve hland, home] at hdirect
    rw [appLocation, hdirect] at hdeep
    cases hdeep
  have hmerged : l ≠ mergedLocation settings t := by
    intro heq
    have hlength := length_appLocation_lt hl
    rw [heq, mergedLocation_eq, appLocation_eq, List.length_append, List.length_append] at hlength
    exact absurd hlength (Nat.lt_irrefl _)
  rw [hnone, Option.none_or, hcleared, hdeep, if_neg Bool.false_ne_true, withMerged_of_ne hmerged]

/-- In directories that lie in the directory of the modules of apps, all that changes is that
directories are made on the way to the output. -/
theorem subdirectories_of_beforeApps? (hbefore : beforeApps? settings made t = some (rules, t₁))
    (hslash : ∀ app ∈ appModules made rules.toList, '/' ∉ app.1) (hsame : SameDirectories t₁ t')
    (hfiles : ∀ l, t'.fileAt l =
      (lastWritten t₁ settings.appDirectory (appModules made rules.toList) l).or (t₁.fileAt l))
    {l : Location} (hl : InSubdirectory t (appLocation settings t) l ∨
      InSubdirectory t' (appLocation settings t) l) :
    t'.get? l = t.get? l ∨
      (t.get? l = none ∧ t'.get? l = some .directory ∧ settings.output.Passes t.home l) := by
  have hkept : ∀ l, t.get? l = some .directory → t'.get? l = some .directory := fun l hl =>
    (hsame.directories l).mpr (directory_of_beforeApps? hbefore hl)
  have hnew : ∀ l, t.get? l ≠ some .directory → t'.get? l = some .directory →
      t.get? l = none ∧ (settings.output.Passes t.home l ∨ l = appLocation settings t) :=
    fun l hold hl => new_of_beforeApps? hbefore hold ((hsame.directories l).mp hl)
  obtain ⟨name, hprefix, hdir⟩ : ∃ name, appLocation settings t ++ [name] <+: l ∧
      t'.get? (appLocation settings t ++ [name]) = some .directory := by
    obtain ⟨name, hprefix, hdir⟩ | ⟨name, hprefix, hdir⟩ := hl
    · exact ⟨name, hprefix, hkept _ hdir⟩
    · exact ⟨name, hprefix, hdir⟩
  have hfile : t'.fileAt l = t.fileAt l := by
    cases hdirect : isDirectlyIn (appLocation settings t) l with
    | false =>
      rw [hfiles]
      exact fileAt_of_subdirectory hbefore hslash hprefix hdirect
    | true =>
      -- The location is that of the directory itself, where no file was before either.
      have hwhole : appLocation settings t ++ [name] = l := by
        refine hprefix.eq_of_length ?_
        rw [List.length_append, List.length_singleton, length_of_isDirectlyIn hdirect]
      rw [hwhole] at hdir
      rw [fileAt_of_directory hdir]
      by_cases hold : t.get? l = some .directory
      · rw [fileAt_of_directory hold]
      · rw [fileAt, (hnew l hold hdir).1]
  obtain heq | ⟨hnone, hmade⟩ := get?_eq_or_made hfile (hkept l)
  · exact Or.inl heq
  · right
    obtain ⟨-, hpasses | hroot⟩ := hnew l (by simp [hnone]) hmade
    · exact ⟨hnone, hmade, hpasses⟩
    · exact absurd (hroot ▸ length_appLocation_lt hprefix) (Nat.lt_irrefl _)

/-- The parts are put together: what the modules leave, and what preparing has left for them. -/
theorem replaced_of_run (hread : rulesRead? settings t = some rules)
    (hnames : ∀ app ∈ splitApps rules.toList, '/' ∉ app.1)
    (hrun : generated settings made t = (.ok report, t')) :
    Replaced settings made rules t t' report := by
  obtain ⟨t₁, hbefore, hwrite⟩ := generated_eq_ok hread hrun
  obtain ⟨-, home, hcleared, -⟩ := beforeApps?_eq_some hbefore
  have hslash := slash_not_mem_of_mem_appModules made hnames
  have hnodup : ((appModules made rules.toList).map Prod.fst).Nodup := by
    rw [names_appModules]
    exact nodup_splitApps rules.toList
  obtain ⟨hsame, hfiles⟩ := writeApps_files (SameDirectories.refl t₁) settings.appDirectory
    (appModules made rules.toList)
  have hlisted := congrArg Prod.fst (writeApps_answer (SameDirectories.refl t₁)
    settings.appDirectory (appModules made rules.toList))
  rw [hwrite] at hsame hfiles hlisted
  dsimp only at hsame hfiles hlisted
  have hmem : ∀ p, p ∈ report.apps ↔ ∃ app ∈ appModules made rules.toList,
      lands t₁ settings.appDirectory app = true ∧ appFile settings.appDirectory app.1 = p := by
    intro p
    rw [hlisted, List.mem_map]
    simp only [List.mem_filter, and_assoc]
  constructor
  case listed => rw [lands_congr hsame, hlisted]
  case counted =>
    have hcounted := writeApps_counted t₁ settings.appDirectory (appModules made rules.toList)
    rw [hwrite, appModules, List.length_map] at hcounted
    exact hcounted
  case distinct =>
    rw [hlisted]
    exact nodup_appFiles hslash hnodup _ _ _
  case files =>
    intro l
    constructor
    · rintro ⟨hl, hsome⟩
      have hempty : t₁.fileAt l = none := by rw [hcleared, hl, if_pos rfl]
      obtain ⟨app, happ, hlands, hresolve⟩ :=
        exists_app_of_writeApps hslash hnodup hwrite hempty hsome
      exact ⟨_, (hmem _).mpr ⟨app, happ, hlands, rfl⟩, home ▸ hresolve⟩
    · rintro ⟨p, hp, rfl⟩
      obtain ⟨app, happ, hlands, rfl⟩ := (hmem p).mp hp
      have hbytes := (writeApps_held hslash hnodup hwrite happ hlands).2
      rw [home] at hbytes
      exact ⟨isDirectlyIn_appFile (hslash app happ) t.home settings.appDirectory,
        by rw [hbytes, Option.isSome_some]⟩
  case held =>
    intro app happ hp
    obtain ⟨app', -, hlands', hfile⟩ := (hmem _).mp hp
    have hlands : lands t₁ settings.appDirectory app = true := by rw [lands, ← hfile]; exact hlands'
    obtain ⟨hlocate, hbytes⟩ := writeApps_held hslash hnodup hwrite happ hlands
    exact readBytes_of_fileAt hlocate hbytes
  case subdirectories =>
    intro l hl
    exact subdirectories_of_beforeApps? hbefore hslash hsame hfiles hl

/-- A way to the output that never points back does not lead through what lies below. -/
theorem Replaced.untouched (h : Replaced settings made rules t t' report)
    (hback : ['.', '.'] ∉ settings.output.pieces) : Untouched settings t t' := by
  intro l hl
  obtain heq | ⟨-, -, hpasses⟩ := h.subdirectories l hl
  · exact heq
  · obtain ⟨name, hprefix⟩ : ∃ name, appLocation settings t ++ [name] <+: l := by
      obtain ⟨name, hprefix, -⟩ | ⟨name, hprefix, -⟩ := hl
      · exact ⟨name, hprefix⟩
      · exact ⟨name, hprefix⟩
    have hshort := (hpasses.prefix_resolve hback).length_le
    have hlong := length_appLocation_lt hprefix
    rw [appLocation_eq, List.length_append, List.length_singleton] at hlong
    omega

/-- A run with rules that ends well, none of whose apps has a slash in its name, replaces the files
directly in the directory of the modules of apps by those that it reports. What lies in directories
there is left alone, save for directories that are made on the way to the output; and there are none
if that way never points back. -/
theorem appDirectory_replaced (hread : rulesRead? settings t = some rules)
    (hnames : ∀ app ∈ splitApps rules.toList, '/' ∉ app.1)
    (hrun : generated settings made t = (.ok report, t')) :
    Replaced settings made rules t t' report ∧
      (['.', '.'] ∉ settings.output.pieces → Untouched settings t t') := by
  have hreplaced := replaced_of_run hread hnames hrun
  exact ⟨hreplaced, hreplaced.untouched⟩

/-- The rules of two apps. -/
def twoApps : String :=
  "# > App\nDOMAIN,a.example.com,REJECT\n# > Taken\nDOMAIN,b.example.com,REJECT\n"

/-- A source with two apps, an old file, and a directory where the module of one app would be. -/
def staleModules : FileTree :=
  { entries := (oneSource twoApps).entries ++
      [(["out"], .directory), (["out", "Modules"], .directory),
        (["out", "Modules", "Old.sgmodule"], .file []),
        (["out", "Modules", "Taken.sgmodule"], .directory),
        (["out", "Modules", "Taken.sgmodule", "note"], .file [])] }

/-- The old file is replaced, and the directory with its file stays. -/
theorem appDirectory_replaced_stale : ∃ t', ∃ report : Report,
    generated listToOut default staleModules = (.ok report, t') ∧
      report.apps = [{ text := "out/Modules/App.sgmodule" }] ∧
      Replaced listToOut default twoApps staleModules t' report ∧
      Untouched listToOut staleModules t' := by
  have hread : rulesRead? listToOut staleModules = some twoApps := by decide +kernel
  have hresult : (generated listToOut default staleModules).1 = .ok {
      loaded := 1
      merged := some { text := "out/Module.sgmodule" }
      apps := [{ text := "out/Modules/App.sgmodule" }]
      appsFailed := 1 } := by decide +kernel
  cases hrun : generated listToOut default staleModules with
  | mk result t' =>
    rw [hrun] at hresult
    dsimp only at hresult
    subst hresult
    obtain ⟨hreplaced, huntouched⟩ :=
      appDirectory_replaced hread (by decide +kernel) hrun
    exact ⟨t', _, rfl, rfl, hreplaced, huntouched (by decide)⟩

/-- Settings with an output to which the way leads through the modules of apps and back. -/
def throughModules : GeneratorSettings :=
  { listToOut with output := { text := "out/Modules/a/b/../../.." } }

/-- A source with an app, and a directory with a file among the modules of apps. -/
def filedModules : FileTree :=
  { entries := (oneSource "# > App\nDOMAIN,a.example.com,REJECT\n").entries ++
      [(["out"], .directory), (["out", "Modules"], .directory),
        (["out", "Modules", "a"], .directory), (["out", "Modules", "a", "x"], .file [])] }

/-- A missing directory on the way is made, here within a directory that was there. -/
theorem not_untouched_through :
    rulesRead? throughModules filedModules = some "# > App\nDOMAIN,a.example.com,REJECT\n" ∧
    (∀ app ∈ splitApps "# > App\nDOMAIN,a.example.com,REJECT\n".toList, '/' ∉ app.1) ∧
    (generated throughModules default filedModules).1 = .ok {
      loaded := 1
      merged := some { text := "out/Modules/a/b/../../../Module.sgmodule" }
      apps := [{ text := "out/Modules/a/b/../../../Modules/App.sgmodule" }] } ∧
    ¬ Untouched throughModules filedModules (generated throughModules default filedModules).2 := by
  have hrun : (generated throughModules default filedModules).1 = .ok {
        loaded := 1
        merged := some { text := "out/Modules/a/b/../../../Module.sgmodule" }
        apps := [{ text := "out/Modules/a/b/../../../Modules/App.sgmodule" }] } ∧
      (generated throughModules default filedModules).2.get? ["out", "Modules", "a", "b"] =
        some .directory := by decide +kernel
  refine ⟨by decide +kernel, by decide, hrun.1, fun h => ?_⟩
  have hsame := h ["out", "Modules", "a", "b"] (Or.inl ⟨"a", by decide, by decide⟩)
  rw [hrun.2] at hsame
  exact absurd hsame (by decide)

end Intercept.Sgmodule
