import Intercept.Files.Access
import Intercept.Proofs.Files.Locate
import Intercept.Proofs.Keyed

/-!
# Intercept.Proofs.Files.Change -- what a change leaves as it was

Each operation on a tree of files says of every location what file is there afterwards. Writing
concerns the one location where the path lands, and making directories concerns no file. What a
program leaves alone is put together from that: a program keeps the files outside some locations when
all its steps do.
-/

namespace Intercept

namespace FileTree

/-! ## Files and where they land -/

/-- The bytes of the file at a location. -/
def fileAt (t : FileTree) (l : Location) : Option (List UInt8) :=
  match t.get? l with
  | some (.file bytes) => some bytes
  | _ => none

theorem fileAt_of_directory {t : FileTree} {l : Location} (h : t.get? l = some .directory) :
    t.fileAt l = none := by
  rw [fileAt, h]

theorem get?_of_fileAt {t : FileTree} {l : Location} {bytes : List UInt8}
    (h : t.fileAt l = some bytes) : t.get? l = some (.file bytes) := by
  rw [fileAt] at h
  split at h
  · next hget => rw [hget, Option.some.inj h]
  · cases h

theorem get?_eq_none {t : FileTree} {l : Location} (hfile : t.fileAt l = none)
    (hdirectory : t.get? l ≠ some .directory) : t.get? l = none := by
  rw [fileAt] at hfile
  cases hget : t.get? l with
  | none => rfl
  | some entry =>
    cases entry with
    | directory => exact absurd hget hdirectory
    | file bytes =>
      rw [hget] at hfile
      cases hfile

theorem readBytes_of_fileAt {t : FileTree} {p : Path} {l : Location} {bytes : List UInt8}
    (hl : t.locate p = .ok l) (h : t.fileAt l = some bytes) : t.readBytes p = .ok bytes := by
  rw [readBytes, find, hl]
  simp only [bind, Except.bind, get?_of_fileAt h]
  rfl

/-- Where a file that is written to a path lands; a directory does not make room for it. -/
def landing? (t : FileTree) (p : Path) : Option Location :=
  (t.locate p).toOption.filter fun l => t.get? l != some .directory

theorem landing?_eq_some {t : FileTree} {p : Path} {l : Location} :
    t.landing? p = some l ↔ t.locate p = .ok l ∧ t.get? l ≠ some .directory := by
  rw [landing?, Option.filter_eq_some_iff]
  cases t.locate p <;> simp [Except.toOption]

theorem landing?_congr {t t' : FileTree} (h : SameDirectories t t') (p : Path) :
    t'.landing? p = t.landing? p := by
  have hdir : ∀ l, (t'.get? l != some .directory) = (t.get? l != some .directory) := by
    intro l
    rw [Bool.eq_iff_iff, bne_iff_ne, bne_iff_ne]
    exact not_congr (h.directories l)
  rw [landing?, landing?, locate_toOption h p]
  congr 1
  funext l
  exact hdir l

theorem nameable_of_landing? {t : FileTree} {p : Path} {l : Location} (h : t.landing? p = some l) :
    Nameable l := by
  obtain ⟨hl, hdirectory⟩ := landing?_eq_some.mp h
  exact ⟨fun hroot => hdirectory (hroot ▸ rfl), names_of_locate hl⟩

/-- Where a path lands is told by the path. -/
theorem landing?_eq_resolve {t : FileTree} {p : Path} {l : Location} (h : t.landing? p = some l) :
    l = p.resolve t.home :=
  locate_eq_ok (landing?_eq_some.mp h).1

theorem get?_put {t : FileTree} {l : Location} (hl : Nameable l) (e : Entry) (l' : Location) :
    (t.put l e).get? l' = if l' = l then some e else t.get? l' := by
  rw [get?, get?]
  by_cases h : l' = l
  · rw [if_pos h, h, if_neg hl.ne_root, if_pos hl.names]
    exact (Keyed.lookup_put ..).trans (if_pos rfl)
  · have hlookup : (t.put l e).entries.lookup l' = t.entries.lookup l' :=
      (Keyed.lookup_put ..).trans (if_neg h)
    rw [if_neg h, hlookup]

/-! ## The operations -/

/-- Writing puts a file where the path lands, or fails where it lands nowhere. -/
theorem writeBytes_cases (t : FileTree) (p : Path) (bytes : List UInt8) :
    (∃ l, t.landing? p = some l ∧ t.writeBytes p bytes = .ok (t.put l (.file bytes))) ∨
      (t.landing? p = none ∧ ∃ fault, t.writeBytes p bytes = .error fault) := by
  rw [landing?, writeBytes]
  cases hl : t.locate p with
  | error fault => exact .inr ⟨rfl, fault, rfl⟩
  | ok l =>
    by_cases hd : t.get? l = some .directory
    · refine .inr ⟨by simp [Except.toOption, hd], .isDirectory, ?_⟩
      simp only [bind, Except.bind, hd]
      rfl
    · refine .inl ⟨l, by simp [Except.toOption, hd], ?_⟩
      simp only [bind, Except.bind]
      rfl

theorem fileAt_put_file {t : FileTree} {l : Location} (hl : Nameable l) (bytes : List UInt8)
    (l' : Location) :
    (t.put l (.file bytes)).fileAt l' = if l' = l then some bytes else t.fileAt l' := by
  rw [fileAt, fileAt, get?_put hl]
  by_cases h : l' = l
  · rw [if_pos h, if_pos h]
  · rw [if_neg h, if_neg h]

theorem sameDirectories_put_file {t : FileTree} {p : Path} {l : Location}
    (h : t.landing? p = some l) (bytes : List UInt8) :
    SameDirectories t (t.put l (.file bytes)) where
  home := rfl
  directories l' := by
    rw [get?_put (nameable_of_landing? h)]
    by_cases hl : l' = l
    · rw [if_pos hl, hl]
      exact iff_of_false (by simp) (landing?_eq_some.mp h).2
    · rw [if_neg hl]

/-- Making a directory puts it where the path leads and nothing is. -/
theorem makeDirectory_eq_ok {t t' : FileTree} {p : Path} (h : t.makeDirectory p = .ok t') :
    Nameable (p.resolve t.home) ∧ t.get? (p.resolve t.home) = none ∧
      t' = t.put (p.resolve t.home) .directory := by
  rw [makeDirectory] at h
  cases hl : t.locate (withoutEndSlashes p) with
  | error fault =>
    rw [hl] at h
    cases h
  | ok l =>
    rw [hl] at h
    have hwhere := locate_eq_ok hl
    rw [resolve_withoutEndSlashes] at hwhere
    subst hwhere
    simp only [bind, Except.bind] at h
    split at h
    · cases h
    · next hnone =>
      cases h
      exact ⟨⟨fun hroot => by simp [hroot, get?] at hnone, names_of_locate hl⟩, hnone, rfl⟩

/-- Where the file is the same and a directory stays, at most a directory is new. -/
theorem get?_eq_or_made {t t' : FileTree} {l : Location} (hfile : t'.fileAt l = t.fileAt l)
    (hkept : t.get? l = some .directory → t'.get? l = some .directory) :
    t'.get? l = t.get? l ∨ (t.get? l = none ∧ t'.get? l = some .directory) := by
  by_cases hold : t.get? l = some .directory
  · exact Or.inl ((hkept hold).trans hold.symm)
  cases hbytes : t.fileAt l with
  | some bytes => exact Or.inl ((get?_of_fileAt (hfile.trans hbytes)).trans (get?_of_fileAt hbytes).symm)
  | none =>
    have hnone := get?_eq_none hbytes hold
    by_cases hnew : t'.get? l = some .directory
    · exact Or.inr ⟨hnone, hnew⟩
    · exact Or.inl ((get?_eq_none (hfile.trans hbytes) hnew).trans hnone.symm)

/-! ## Programs that leave all files as they are -/

/-- Two trees with the same files. -/
structure SameFiles (t t' : FileTree) : Prop where
  home : t'.home = t.home
  fileAt : ∀ l, t'.fileAt l = t.fileAt l

/-- A program that leaves all files as they are. -/
def Keeps {α : Type} (x : StateM FileTree α) : Prop :=
  ∀ t, SameFiles t (x.run t).2

theorem Keeps.sameFiles {α : Type} {x : StateM FileTree α} {t t' : FileTree} {a : α}
    (hx : Keeps x) (h : x.run t = (a, t')) : SameFiles t t' := by
  have ht := hx t
  rw [h] at ht
  exact ht

/-- Two trees with the same files, of which the second may have more directories, to which some
paths lead. -/
structure Grown (paths : List Path) (t t' : FileTree) : Prop extends SameFiles t t' where
  kept : ∀ l, t.get? l = some .directory → t'.get? l = some .directory
  made : ∀ l, t'.get? l = some .directory →
    t.get? l = some .directory ∨ ∃ p ∈ paths, p.resolve t.home = l

theorem Grown.refl (paths : List Path) (t : FileTree) : Grown paths t t where
  home := rfl
  fileAt _ := rfl
  kept _ := id
  made _ := Or.inl

theorem Grown.trans {paths : List Path} {t t' t'' : FileTree} (h : Grown paths t t')
    (h' : Grown paths t' t'') : Grown paths t t'' where
  home := h'.home.trans h.home
  fileAt l := (h'.fileAt l).trans (h.fileAt l)
  kept l hl := h'.kept l (h.kept l hl)
  made l hl := by
    obtain hl | hl := h'.made l hl
    · exact h.made l hl
    · rw [h.home] at hl
      exact Or.inr hl

theorem grown_makeDirectory {paths : List Path} {p : Path} (hp : p ∈ paths) {t t' : FileTree}
    (h : t.makeDirectory p = .ok t') : Grown paths t t' := by
  obtain ⟨hne, hnone, rfl⟩ := makeDirectory_eq_ok h
  exact {
    home := rfl
    fileAt := fun l => by
      rw [fileAt, fileAt, get?_put hne]
      by_cases heq : l = p.resolve t.home
      · rw [if_pos heq, heq, hnone]
      · rw [if_neg heq]
    kept := fun l hl => by
      rw [get?_put hne]
      split
      · rfl
      · exact hl
    made := fun l hl => by
      rw [get?_put hne] at hl
      split at hl
      · next heq => exact Or.inr ⟨p, hp, heq.symm⟩
      · exact Or.inl hl }

/-- A program that makes directories to which some paths lead, and changes nothing else. -/
def Makes {α : Type} (paths : List Path) (x : StateM FileTree α) : Prop :=
  ∀ t, Grown paths t (x.run t).2

section Makes

variable {α β : Type} {paths : List Path}

theorem Makes.keeps {x : StateM FileTree α} (hx : Makes paths x) : Keeps x :=
  fun t => (hx t).toSameFiles

theorem Makes.grown {x : StateM FileTree α} {t t' : FileTree} {a : α} (hx : Makes paths x)
    (h : x.run t = (a, t')) : Grown paths t t' := by
  have ht := hx t
  rw [h] at ht
  exact ht

theorem makes_pure (a : α) : Makes paths (pure a) := Grown.refl paths

theorem makes_bind {x : StateM FileTree α} {f : α → StateM FileTree β} (hx : Makes paths x)
    (hf : ∀ a, Makes paths (f a)) : Makes paths (x >>= f) :=
  fun t => (hx t).trans (hf (x.run t).1 (x.run t).2)

theorem makes_map {x : StateM FileTree α} (f : α → β) (hx : Makes paths x) :
    Makes paths (f <$> x) :=
  fun t => hx t

theorem makes_readBytes (p : Path) : Makes paths (FileAccess.readBytes p) := Grown.refl paths

theorem makes_isFile (p : Path) : Makes paths (FileAccess.isFile p) := Grown.refl paths

theorem makes_isDirectory (p : Path) : Makes paths (FileAccess.isDirectory p) := Grown.refl paths

theorem makes_download (address : String) : Makes paths (FileAccess.download address) :=
  fun _ => ⟨⟨rfl, fun _ => rfl⟩, fun _ => id, fun _ => Or.inl⟩

theorem makes_makeDirectory {p : Path} (hp : p ∈ paths) :
    Makes paths (FileAccess.makeDirectory p) := by
  intro t
  show Grown paths t (change (fun t => t.makeDirectory p) t).2
  rw [change]
  split
  case h_1 t' h => exact grown_makeDirectory hp h
  case h_2 => exact Grown.refl paths t

theorem makes_unlessDirectory (p : Path) (made : Except FileFault Unit) :
    Makes paths (Files.unlessDirectory p made) := by
  cases made with
  | ok u => exact makes_pure _
  | error fault =>
    refine makes_bind (makes_isDirectory p) fun there => ?_
    split
    · exact makes_pure _
    · exact makes_pure _

theorem makes_makeNested {nested : List Path} (h : nested ⊆ paths) :
    Makes paths (Files.makeNested nested) := by
  induction nested with
  | nil => exact makes_pure _
  | cons p outer ih =>
    obtain ⟨hp, houter⟩ := List.cons_subset.mp h
    refine makes_bind (makes_makeDirectory hp) fun made => ?_
    split
    · refine makes_bind (ih houter) fun madeOuter => ?_
      split
      · exact makes_bind (makes_makeDirectory hp) fun _ => makes_unlessDirectory p _
      · exact makes_pure _
    · exact makes_unlessDirectory p _

theorem makes_makeDirectories (p : Path) : Makes p.ancestors (Files.makeDirectories p) :=
  makes_makeNested (List.Subset.refl _)

theorem makes_readText (p : Path) : Makes paths (Files.readText p) :=
  makes_bind (makes_readBytes p) fun _ => makes_pure _

theorem makes_orFail (cause : FileFault → Fault) {x : StateM FileTree (Except FileFault α)}
    (hx : Makes paths x) : Makes paths (Files.orFail cause x).run :=
  makes_bind hx fun _ => makes_pure _

theorem makes_lift {x : StateM FileTree α} (hx : Makes paths x) :
    Makes paths (ExceptT.lift x : ExceptT Fault (StateM FileTree) α).run :=
  makes_map _ hx

theorem makes_bind_run {x : ExceptT Fault (StateM FileTree) α}
    {f : α → ExceptT Fault (StateM FileTree) β} (hx : Makes paths x.run)
    (hf : ∀ a, Makes paths (f a).run) : Makes paths (x >>= f).run := by
  show Makes paths (x.run >>= ExceptT.bindCont f)
  -- A failure leaves the tree as it is then, so both ways out are to be looked at.
  refine makes_bind hx fun result => ?_
  cases result with
  | ok a => exact hf a
  | error fault => exact makes_pure _

/-- A program that fails stops there; otherwise what follows it goes on in the tree it left. -/
theorem run_bind_cases (x : ExceptT Fault (StateM FileTree) α)
    (f : α → ExceptT Fault (StateM FileTree) β) (t : FileTree) :
    (∃ fault t', x.run.run t = (.error fault, t') ∧ (x >>= f).run.run t = (.error fault, t')) ∨
      ∃ a t', x.run.run t = (.ok a, t') ∧ (x >>= f).run.run t = (f a).run.run t' := by
  have hbind : (x >>= f).run.run t =
      (ExceptT.bindCont f (x.run.run t).1).run (x.run.run t).2 := rfl
  cases hx : x.run.run t with
  | mk result t' =>
    rw [hx] at hbind
    cases result with
    | ok a => exact .inr ⟨a, t', rfl, hbind⟩
    | error fault => exact .inl ⟨fault, t', rfl, hbind⟩

/-- A program that ends well is one whose first step did. -/
theorem run_bind_eq_ok {x : ExceptT Fault (StateM FileTree) α}
    {f : α → ExceptT Fault (StateM FileTree) β} {t t' : FileTree} {b : β}
    (h : (x >>= f).run.run t = (.ok b, t')) :
    ∃ a t₁, x.run.run t = (.ok a, t₁) ∧ (f a).run.run t₁ = (.ok b, t') := by
  obtain ⟨fault, t₁, -, hfail⟩ | ⟨a, t₁, hx, hrest⟩ := run_bind_cases x f t
  · cases hfail.symm.trans h
  · exact ⟨a, t₁, hx, hrest.symm.trans h⟩

/-- Behind a step that ended well it goes on. -/
theorem run_bind_of_ok {x : ExceptT Fault (StateM FileTree) α}
    {f : α → ExceptT Fault (StateM FileTree) β} {t t₁ : FileTree} {a : α}
    (h : x.run.run t = (.ok a, t₁)) : (x >>= f).run.run t = (f a).run.run t₁ := by
  obtain ⟨fault, t₂, hx, -⟩ | ⟨b, t₂, hx, hrest⟩ := run_bind_cases x f t
  · cases hx.symm.trans h
  · cases hx.symm.trans h
    exact hrest

/-- What is already there takes no look at the tree. -/
theorem run_pure_bind_eq_ok {x : Except Fault α} {f : α → ExceptT Fault (StateM FileTree) β}
    {t t' : FileTree} {b : β} (h : (ExceptT.mk (pure x) >>= f).run.run t = (.ok b, t')) :
    ∃ a, x = .ok a ∧ (f a).run.run t = (.ok b, t') := by
  obtain ⟨a, t₁, hx, hrest⟩ := run_bind_eq_ok h
  obtain ⟨rfl, rfl⟩ := Prod.mk.inj hx
  exact ⟨a, rfl, hrest⟩

end Makes

/-! ## Programs that change files -/

/-- Writing a text either changes the file where the path lands, or fails and changes nothing. -/
theorem writeText_cases (t : FileTree) (p : Path) (text : String) :
    (∃ l, t.landing? p = some l ∧ (Files.writeText p text : StateM FileTree _).run t =
        (.ok (), t.put l (.file (Text.Utf8.encode text.toList)))) ∨
      (t.landing? p = none ∧ ∃ fault, (Files.writeText p text : StateM FileTree _).run t =
        (.error fault, t)) := by
  have hrun : (Files.writeText p text : StateM FileTree _).run t =
      change (fun t => t.writeBytes p (Text.Utf8.encode text.toList)) t := rfl
  rw [hrun, change]
  obtain ⟨l, hl, hok⟩ | ⟨hl, fault, herr⟩ := writeBytes_cases t p (Text.Utf8.encode text.toList)
  · exact .inl ⟨l, hl, by rw [hok]⟩
  · exact .inr ⟨hl, fault, by rw [herr]⟩

theorem run_orFail {α : Type} (cause : FileFault → Fault) (x : StateM FileTree (Except FileFault α))
    (t : FileTree) :
    (Files.orFail cause x).run.run t = ((x.run t).1.mapError cause, (x.run t).2) :=
  rfl

theorem orFail_writeText_eq_ok {cause : FileFault → Fault} {p : Path} {text : String}
    {t t' : FileTree} {u : Unit}
    (h : (Files.orFail cause (Files.writeText p text) :
      ExceptT Fault (StateM FileTree) Unit).run.run t = (.ok u, t')) :
    ∃ l, t.landing? p = some l ∧ t' = t.put l (.file (Text.Utf8.encode text.toList)) := by
  rw [run_orFail] at h
  obtain ⟨l, hl, hok⟩ | ⟨-, fault, herr⟩ := writeText_cases t p text
  · rw [hok] at h
    cases h
    exact ⟨l, hl, rfl⟩
  · rw [herr] at h
    cases h

theorem orFail_writeText_eq_error {cause : FileFault → Fault} {p : Path} {text : String}
    {t t' : FileTree} {fault : Fault}
    (h : (Files.orFail cause (Files.writeText p text) :
      ExceptT Fault (StateM FileTree) Unit).run.run t = (.error fault, t')) : t' = t := by
  rw [run_orFail] at h
  obtain ⟨l, -, hok⟩ | ⟨-, fault', herr⟩ := writeText_cases t p text
  · rw [hok] at h
    cases h
  · rw [herr] at h
    cases h
    rfl

end FileTree

end Intercept
