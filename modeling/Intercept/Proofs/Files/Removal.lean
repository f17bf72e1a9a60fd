import Intercept.Proofs.Files.Change
import Intercept.Proofs.Text.Sorted

/-!
# Intercept.Proofs.Files.Removal -- files that are removed one after another

A directory tells the names of what is in it, each once, and which of them are files. Removing one of
these files leaves all the others where they were, so what was told of the names that are still to
come stays true. The files of a directory are gone when the last name has been looked at. On the way
there a path to a file may turn out to be too long; then the files that came first are gone, and the
others are as they were.
-/

namespace Intercept.FileTree

variable {t t' t'' : FileTree} {p : Path} {d l : Location} {name : String}

/-! ## One file -/

theorem get?_erase (hl : l ≠ []) (l' : Location) :
    (t.erase l).get? l' = if l' = l then none else t.get? l' := by
  rw [get?, get?]
  by_cases h : l' = l
  · have hlookup : (t.erase l).entries.lookup l = none := by
      rw [List.lookup_eq_none_iff]
      intro e he
      rw [bne_comm]
      exact (List.mem_filter.mp he).2
    rw [if_pos h, h, if_neg hl, hlookup, ite_self]
  · have hlookup : (t.erase l).entries.lookup l' = t.entries.lookup l' := by
      refine Keyed.lookup_filter (fun _ => ?_) t.entries
      exact bne_iff_ne.mpr h
    rw [if_neg h, hlookup]

/-- A tree from which some files that are directly in a directory have been taken. -/
structure FilesTaken (directory : Location) (t t' : FileTree) : Prop extends SameDirectories t t' where
  fileAt : ∀ l, t'.fileAt l = t.fileAt l ∨ (isDirectlyIn directory l = true ∧ t'.fileAt l = none)

theorem FilesTaken.refl (d : Location) (t : FileTree) : FilesTaken d t t where
  toSameDirectories := .refl t
  fileAt _ := Or.inl rfl

theorem FilesTaken.trans (h : FilesTaken d t t') (h' : FilesTaken d t' t'') :
    FilesTaken d t t'' where
  toSameDirectories := h.toSameDirectories.trans h'.toSameDirectories
  fileAt l := by
    obtain heq | hgone := h'.fileAt l
    · rw [heq]
      exact h.fileAt l
    · exact Or.inr hgone

/-- Where no file was, none is afterwards. -/
theorem FilesTaken.fileAt_eq_none (h : FilesTaken d t t') (hl : t.fileAt l = none) :
    t'.fileAt l = none := by
  obtain heq | ⟨-, hgone⟩ := h.fileAt l
  · exact heq.trans hl
  · exact hgone

theorem FilesTaken.fileAt_of_deeper (h : FilesTaken d t t') (hl : isDirectlyIn d l = false) :
    t'.fileAt l = t.fileAt l := by
  obtain heq | ⟨hin, -⟩ := h.fileAt l
  · exact heq
  · cases hin.symm.trans hl

theorem isDirectlyIn_iff : isDirectlyIn d l = true ↔ ∃ name, l = d ++ [name] := by
  rw [isDirectlyIn, Bool.and_eq_true, bne_iff_ne, beq_iff_eq]
  constructor
  · rintro ⟨hne, rfl⟩
    exact ⟨l.getLast hne, (List.dropLast_concat_getLast hne).symm⟩
  · rintro ⟨name, rfl⟩
    exact ⟨by simp, List.dropLast_concat⟩

theorem filesTaken_erase {bytes : List UInt8} (hget : t.get? (d ++ [name]) = some (.file bytes)) :
    FilesTaken d t (t.erase (d ++ [name])) := by
  have hne : d ++ [name] ≠ [] := by simp
  constructor
  case toSameDirectories =>
    refine ⟨rfl, fun l => ?_⟩
    rw [get?_erase hne]
    split
    · next heq =>
      rw [heq, hget]
      simp
    · exact Iff.rfl
  case fileAt =>
    intro l
    rw [fileAt, get?_erase hne]
    by_cases heq : l = d ++ [name]
    · rw [if_pos heq]
      exact Or.inr ⟨isDirectlyIn_iff.mpr ⟨name, heq⟩, rfl⟩
    · rw [if_neg heq]
      exact Or.inl rfl

/-- A file directly in a directory is removed by its name, unless the path gets too long by that. -/
theorem removeFile_div {bytes : List UInt8} (hp : t.locate p = .ok d)
    (hd : t.get? d = some .directory) (hget : t.get? (d ++ [name]) = some (.file bytes)) :
    t.removeFile (p / name) = .ok (t.erase (d ++ [name])) ∨
      t.removeFile (p / name) = .error .nameTooLong := by
  have hname : isName name = true := by
    have hnames := names_of_get? hget
    rw [List.all_append, Bool.and_eq_true, List.all_cons, Bool.and_eq_true] at hnames
    exact hnames.2.1
  rw [removeFile]
  obtain hl | hl := locate_div hp hd hname
  · left
    rw [hl]
    simp only [bind, Except.bind, hget]
    rfl
  · right
    rw [hl]
    rfl

/-! ## What a directory lists -/

theorem nodup_namesIn (t : FileTree) (d : Location) : (t.namesIn d).Nodup :=
  (Text.nodup_eraseDups _).filter _

theorem mem_namesIn : name ∈ t.namesIn d ↔ ∃ e, t.get? (d ++ [name]) = some e := by
  rw [namesIn, List.mem_filter, Option.isSome_iff_exists, and_iff_right_iff_imp]
  rintro ⟨e, he⟩
  have hentry : t.entries.lookup (d ++ [name]) = some e := by
    rw [← he, get?, if_neg (by simp), if_pos (names_of_get? he)]
  rw [List.mem_eraseDups, List.mem_filterMap]
  refine ⟨d ++ [name], List.mem_filter.mpr ⟨?_, isDirectlyIn_iff.mpr ⟨name, rfl⟩⟩, by simp⟩
  exact List.mem_map_of_mem (Keyed.mem_of_lookup hentry)

theorem readDirectory_cases (t : FileTree) (p : Path) :
    (∃ fault, t.readDirectory p = .error fault) ∨
      ∃ d, t.locate p = .ok d ∧ t.get? d = some .directory ∧
        t.readDirectory p = .ok ((t.namesIn d).map fun name => .ok (t.entryOf d name)) := by
  rw [readDirectory]
  cases hp : t.locate p with
  | error fault => exact Or.inl ⟨fault, rfl⟩
  | ok d =>
    simp only [bind, Except.bind]
    split
    · exact Or.inl ⟨_, rfl⟩
    · exact Or.inl ⟨_, rfl⟩
    · next hd => exact Or.inr ⟨d, rfl, hd, rfl⟩

/-! ## The files of a directory -/

/-- How removing some listed files ends: at a path that is too long, or with all of them gone. -/
inductive RemovedListed (d : Location) (names : List String) (t : FileTree) :
    Except FileFault Unit × FileTree → Prop
  | stopped {t' : FileTree} (taken : FilesTaken d t t') :
    RemovedListed d names t (.error .nameTooLong, t')
  | done {t' : FileTree} (taken : FilesTaken d t t')
      (gone : ∀ name ∈ names, t'.fileAt (d ++ [name]) = none) : RemovedListed d names t (.ok (), t')

/-- What comes after a name by which no file is left. -/
theorem RemovedListed.behind {names : List String} {out : Except FileFault Unit × FileTree}
    (h : RemovedListed d names t' out) (htaken : FilesTaken d t t')
    (hgone : t'.fileAt (d ++ [name]) = none) : RemovedListed d (name :: names) t out := by
  cases h with
  | stopped taken => exact .stopped (htaken.trans taken)
  | done taken gone =>
    exact .done (htaken.trans taken)
      (List.forall_mem_cons.mpr ⟨taken.fileAt_eq_none hgone, gone⟩)

/-- A listed file is removed, and it goes on with the others unless that fails. -/
theorem removeListed_file (t : FileTree) (p : Path) (name : String)
    (rest : List (Except FileFault DirectoryEntry)) :
    (Files.removeListed p (.ok { name, isFile := .ok true } :: rest) : StateM FileTree _).run t =
      match t.removeFile (p / name) with
      | .ok t' => (Files.removeListed p rest : StateM FileTree _).run t'
      | .error fault => (.error fault, t) := by
  have hremove : (FileAccess.removeFile (p / name) : StateM FileTree _).run t =
      change (fun t => t.removeFile (p / name)) t := rfl
  rw [Files.removeListed, StateT.run_bind, hremove, change]
  cases t.removeFile (p / name) with
  | ok t' => rfl
  | error fault => rfl

/-- Listed files are removed one after another until the path to one is too long. -/
theorem removeListed_run {names : List String} (hp : t.locate p = .ok d)
    (hd : t.get? d = some .directory) (hnodup : names.Nodup)
    (hnames : ∀ name ∈ names, ∃ e, t.get? (d ++ [name]) = some e) :
    RemovedListed d names t
      ((Files.removeListed p (names.map fun name => .ok (t.entryOf d name)) :
        StateM FileTree _).run t) := by
  -- Induction on the names; what is told of those to come holds of the tree that is left.
  induction names generalizing t with
  | nil => exact .done (.refl d t) fun name hname => nomatch hname
  | cons name rest ih =>
    obtain ⟨⟨e, hget⟩, hrest⟩ := List.forall_mem_cons.mp hnames
    obtain ⟨hnew, hnodup⟩ := List.nodup_cons.mp hnodup
    rw [List.map_cons, entryOf, hget]
    cases e with
    | directory => exact (ih hp hd hnodup hrest).behind (.refl d t) (fileAt_of_directory hget)
    | file bytes =>
      refine (removeListed_file t p name _).symm ▸ ?_
      obtain hremove | hremove := removeFile_div hp hd hget
      · have htaken := filesTaken_erase hget
        have hother : ∀ name' ∈ rest,
            (t.erase (d ++ [name])).get? (d ++ [name']) = t.get? (d ++ [name']) := by
          intro name' hname'
          rw [get?_erase (by simp), if_neg]
          intro heq
          rw [List.append_cancel_left_eq, List.singleton_inj] at heq
          exact hnew (heq ▸ hname')
        have htold : ∀ name' ∈ rest,
            t.entryOf d name' = (t.erase (d ++ [name])).entryOf d name' := by
          intro name' hname'
          rw [entryOf, entryOf, hother name' hname']
        have hgone : (t.erase (d ++ [name])).fileAt (d ++ [name]) = none := by
          rw [fileAt, get?_erase (by simp), if_pos rfl]
        rw [hremove, List.map_congr_left fun name' hname' => congrArg Except.ok (htold name' hname')]
        refine (ih (locate_of_sameDirectories htaken.toSameDirectories hp)
          ((htaken.directories d).mpr hd) hnodup fun name' hname' => ?_).behind htaken hgone
        rw [hother name' hname']
        exact hrest name' hname'
      · rw [hremove]
        exact .stopped (.refl d t)

/-- How removing the files of a directory ends: before any is removed, at a path that is too long, or
with none of them left. -/
inductive RemovedFiles (d : Location) (t : FileTree) : Except FileFault Unit × FileTree → Prop
  | unread {fault : FileFault} : RemovedFiles d t (.error fault, t)
  | stopped {t' : FileTree} (taken : FilesTaken d t t') : RemovedFiles d t (.error .nameTooLong, t')
  | done {t' : FileTree} (taken : FilesTaken d t t')
      (gone : ∀ l, isDirectlyIn d l = true → t'.fileAt l = none) : RemovedFiles d t (.ok (), t')

theorem removeFilesIn_run (t : FileTree) (p : Path) :
    RemovedFiles (p.resolve t.home) t ((Files.removeFilesIn p : StateM FileTree _).run t) := by
  have hread : (FileAccess.readDirectory p : StateM FileTree _).run t = (t.readDirectory p, t) := rfl
  rw [Files.removeFilesIn, StateT.run_bind, hread]
  obtain ⟨fault, hunread⟩ | ⟨d, hp, hd, hlist⟩ := readDirectory_cases t p
  · rw [hunread]
    exact .unread
  · have hrun := removeListed_run hp hd (nodup_namesIn t d) fun name hname => mem_namesIn.mp hname
    rw [hlist, ← locate_eq_ok hp]
    show RemovedFiles d t ((Files.removeListed p _ : StateM FileTree _).run t)
    generalize (Files.removeListed p _ : StateM FileTree _).run t = out at hrun ⊢
    cases hrun with
    | stopped taken => exact .stopped taken
    | done taken gone =>
      refine .done taken fun l hl => ?_
      obtain ⟨name, rfl⟩ := isDirectlyIn_iff.mp hl
      cases hfile : t.fileAt (d ++ [name]) with
      | none => exact taken.fileAt_eq_none hfile
      | some bytes => exact gone name (mem_namesIn.mpr ⟨_, get?_of_fileAt hfile⟩)

end Intercept.FileTree
