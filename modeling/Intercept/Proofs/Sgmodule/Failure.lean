import Intercept.Proofs.Sgmodule.Confinement

/-!
# Intercept.Proofs.Sgmodule.Failure -- what a failed run leaves

A run takes files away one after another, by paths that lead to files that are there, and behind that
nothing can fail any more. So a run that ends with a fault has at most written the merged module, which
does not lie in the directory of the modules of apps, and all files there are as they were. Only one
thing can come up amid the files: the path to the next one may be too long, and then those before it
are gone. A run to which no source brings any text changes nothing at all.
-/

namespace Intercept

namespace FileTree

variable {t t' : FileTree}

/-- Where no path may lead to a new directory, everything is found as before. -/
theorem Grown.get? (h : Grown [] t t') (l : Location) : t'.get? l = t.get? l := by
  obtain heq | ⟨hnone, hmade⟩ := get?_eq_or_made (h.fileAt l) (h.kept l)
  · exact heq
  · obtain hold | ⟨p, hp, -⟩ := h.made l hmade
    · exact hmade.trans hold.symm
    · cases hp

end FileTree

namespace Sgmodule

open FileTree

variable {settings : GeneratorSettings} {made : Stamp} {t t' : FileTree} {l : Location}

/-! ## Runs that end with a fault -/

/-- The merged module lies next to the directory of the modules of apps, and not within it. -/
theorem not_prefix_mergedLocation (settings : GeneratorSettings) (t : FileTree) :
    ¬ appLocation settings t <+: mergedLocation settings t := by
  intro h
  rw [appLocation_eq, mergedLocation_eq, List.prefix_append_right_inj] at h
  exact absurd (List.cons_prefix_cons.mp h).1 (by decide)

/-- A run that ends with a fault has changed no file but the merged module, unless some path was too
long. -/
theorem fileAt_of_failed {fault : Fault} (h : generated settings made t = (.error fault, t'))
    (hfault : fault ≠ .files .nameTooLong) (hl : l ≠ mergedLocation settings t) :
    t'.fileAt l = t.fileAt l := by
  have hrun := generated_run settings made t
  rw [h] at hrun
  cases hrun with
  | unread unread same => exact same.fileAt l
  | failed read before files =>
    obtain files | files := files
    · exact files l
    · rw [files, withMerged_of_ne hl]
  | stopped read before files => contradiction

/-- A run that comes upon a path that is too long has at most written the merged module and removed
files among the modules of apps. -/
theorem fileAt_of_tooLong (h : generated settings made t = (.error (.files .nameTooLong), t'))
    (hl : l ≠ mergedLocation settings t) : t'.fileAt l = t.fileAt l ∨
      isDirectlyIn (appLocation settings t) l = true ∧ t'.fileAt l = none := by
  have hrun := generated_run settings made t
  rw [h] at hrun
  cases hrun with
  | unread unread same => exact Or.inl (same.fileAt l)
  | failed read before files =>
    obtain files | files := files
    · exact Or.inl (files l)
    · exact Or.inl (by rw [files, withMerged_of_ne hl])
  | stopped read before files =>
    rw [← withMerged_of_ne hl]
    exact files l

/-! ## Runs without rules -/

/-- Some source that the list names has the given text when the sources are read in their order. -/
def Yields (settings : GeneratorSettings) (t : FileTree) (text : String) : Prop :=
  ∃ texts t', (sourceTexts settings).run.run t = (.ok texts, t') ∧ some text ∈ texts

theorem mem_rulesOf {texts : List (Option String)} {text : String} :
    text ∈ rulesOf texts ↔ some text ∈ texts ∧ text ≠ "" := by
  simp [rulesOf, Option.filter_eq_some_iff]

/-- Rules are read exactly if some source has a text that is not empty. -/
theorem rulesRead?_eq_none_iff :
    rulesRead? settings t = none ↔ ∀ text, Yields settings t text → text = "" := by
  rw [rulesRead?]
  cases hread : (sourceTexts settings).run.run t with
  | mk result t₀ =>
    cases result with
    | error fault =>
      refine iff_of_true rfl ?_
      rintro text ⟨texts, t₁, hread', -⟩
      cases hread.symm.trans hread'
    | ok texts =>
      show joinedRules? texts = none ↔ _
      have hempty : joinedRules? texts = none ↔ rulesOf texts = [] := by
        rw [joinedRules?]
        split
        · next h => exact iff_of_true rfl (List.isEmpty_iff.mp h)
        · next h => exact iff_of_false (by simp) fun heq => h (List.isEmpty_iff.mpr heq)
      rw [hempty, List.eq_nil_iff_forall_not_mem]
      constructor
      · rintro h text ⟨texts', t₁, hread', hmem⟩
        cases hread.symm.trans hread'
        by_contra hne
        exact h text (mem_rulesOf.mpr ⟨hmem, hne⟩)
      · intro h text hmem
        obtain ⟨hsome, hne⟩ := mem_rulesOf.mp hmem
        exact hne (h text ⟨texts, t₀, hread, hsome⟩)

/-- A run without rules ends where the sources have been read. -/
theorem generated_of_unread (h : rulesRead? settings t = none) :
    Grown [] t (generated settings made t).2 := by
  rw [generated, generate_eq]
  obtain ⟨fault, t₀, hread, hrun⟩ | ⟨texts, t₀, hread, hrun⟩ :=
    run_bind_cases (sourceTexts settings) _ t
  · rw [hrun]
    exact (makes_sourceTexts settings).grown hread
  · rw [rulesRead?, hread] at h
    rw [hrun, show joinedRules? texts = none from h]
    exact (makes_sourceTexts settings).grown hread

/-! ## The modules of apps that were there -/

/-- A run that ends with a fault leaves every file in the directory of the modules of apps, at any
depth, and adds none there, unless the fault is that some path was too long; even then it adds none
there, and only files directly in the directory may be gone. And a run to which no source brings a
text that is not empty changes nothing. -/
theorem appFiles_kept (settings : GeneratorSettings) (made : Stamp) (t : FileTree) :
    (∀ fault, (generated settings made t).1 = .error fault → fault ≠ .files .nameTooLong →
      ∀ l, appLocation settings t <+: l → (generated settings made t).2.fileAt l = t.fileAt l) ∧
    ((generated settings made t).1 = .error (.files .nameTooLong) →
      ∀ l, appLocation settings t <+: l → (generated settings made t).2.fileAt l = t.fileAt l ∨
        isDirectlyIn (appLocation settings t) l = true ∧
          (generated settings made t).2.fileAt l = none) ∧
    ((∀ text, Yields settings t text → text = "") →
      (generated settings made t).2.home = t.home ∧
        ∀ l, (generated settings made t).2.get? l = t.get? l) := by
  have hmerged : ∀ l, appLocation settings t <+: l → l ≠ mergedLocation settings t := by
    rintro l hl rfl
    exact not_prefix_mergedLocation settings t hl
  refine ⟨?_, ?_, ?_⟩
  · intro fault hrun hfault l hl
    exact fileAt_of_failed (Prod.ext hrun rfl) hfault (hmerged l hl)
  · intro hrun l hl
    exact fileAt_of_tooLong (Prod.ext hrun rfl) (hmerged l hl)
  · intro hempty
    have hgrown : Grown [] t (generated settings made t).2 :=
      generated_of_unread (rulesRead?_eq_none_iff.mpr hempty)
    exact ⟨hgrown.home, hgrown.get?⟩

/-- A source with an app and two older files among the modules of apps, one of them further in; where
the merged module would be there is a directory. -/
def blockedOutput : FileTree :=
  { entries := (oneSource "# > App\nDOMAIN,a.example.com,REJECT\n").entries ++
      [(["out"], .directory), (["out", "Module.sgmodule"], .directory),
        (["out", "Modules"], .directory), (["out", "Modules", "Old.sgmodule"], .file [1]),
        (["out", "Modules", "kept"], .directory), (["out", "Modules", "kept", "x"], .file [2])] }

/-- The run fails at the merged module and leaves the older files; with an empty source, nothing is
made on the way to the output. -/
theorem appFiles_kept_blocked :
    ((generated listToOut default blockedOutput).1 = .error (.files .isDirectory) ∧
      (generated listToOut default blockedOutput).2.fileAt ["out", "Modules", "Old.sgmodule"] =
        some [1] ∧
      (generated listToOut default blockedOutput).2.fileAt ["out", "Modules", "kept", "x"] =
        some [2] ∧
      (generated listToOut default blockedOutput).2.fileAt ["out", "Modules", "App.sgmodule"] =
        none) ∧
    (∀ text, Yields listToOut (oneSource "") text → text = "") ∧
    (generated listToOut default (oneSource "")).2.get? ["out"] = none := by
  have hfault : (generated listToOut default blockedOutput).1 = .error (.files .isDirectory) := by
    decide +kernel
  have hkept := (appFiles_kept listToOut default blockedOutput).1 _ hfault (by decide)
  have happs : appLocation listToOut blockedOutput = ["out", "Modules"] := by decide +kernel
  have hempty : ∀ text, Yields listToOut (oneSource "") text → text = "" :=
    rulesRead?_eq_none_iff.mp (by decide +kernel)
  have hsame := ((appFiles_kept listToOut default (oneSource "")).2.2 hempty).2
  rw [happs] at hkept
  refine ⟨⟨hfault, ?_, ?_, ?_⟩, hempty, ?_⟩
  · exact (hkept _ (by decide)).trans (by decide +kernel)
  · exact (hkept _ (by decide)).trans (by decide +kernel)
  · exact (hkept _ (by decide)).trans (by decide +kernel)
  · exact (hsame _).trans (by decide +kernel)

end Sgmodule

end Intercept
