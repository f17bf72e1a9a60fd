import Intercept.Files.Tree
import Intercept.Proofs.Text.Parts
import Intercept.Proofs.Text.Pieces
import Mathlib.Data.List.TakeWhile

/-!
# Intercept.Proofs.Files.Locate -- where a path leads

Resolving a path needs the directories on its way, but where it leads does not depend on them: it is
what is left of the path when the pieces that say nothing are dropped and every `..` takes back the
name in front of it. Which paths lead anywhere depends on the directories alone and on no file.
-/

namespace Intercept

open Intercept.Text (splitOn splitOn_append splitOn_of_not_mem)

namespace Path

/-! ## Paths relative to others -/

/-- The location to which a piece of a path leads from another one. -/
def stepFrom (l : Location) (piece : List Char) : Location :=
  if isIdle piece then l
  else if piece = ['.', '.'] then l.dropLast
  else l ++ [String.ofList piece]

/-- The location to which a path leads, with `.` and `..` resolved. -/
def resolve (home : Location) (p : Path) : Location :=
  p.pieces.foldl stepFrom (if p.isAbsolute then [] else home)

theorem isAbsolute_eq (p : Path) : p.isAbsolute = (p.text.toList.head? == some '/') := by
  rw [isAbsolute]
  cases p.text.toList with
  | nil => rfl
  | cons c cs =>
    by_cases hc : c = '/'
    · simp [Text.startsWith, Text.after?, hc]
    · simp [Text.startsWith, Text.after?, hc, Ne.symm hc]

/-- The text of a path that goes on behind another. -/
theorem text_join {p q : Path} (hp : p.text ≠ "") (hq : q.isAbsolute = false) :
    (p.join q).text = p.text ++ q.text ∨ (p.join q).text = p.text ++ "/" ++ q.text := by
  rw [join, hq, Bool.false_or, if_neg (by simp [hp])]
  split
  · exact Or.inl rfl
  · exact Or.inr rfl

/-- A relative path goes on with its pieces where the other one ends, save for the last piece if
that says nothing. -/
theorem pieces_join {p q : Path} (hp : p.text ≠ "") (hq : q.isAbsolute = false) :
    ∃ front, (p.pieces = front ∨ p.pieces = front ++ [[]]) ∧ (p.join q).pieces = front ++ q.pieces
      ∧ (p.join q).isAbsolute = p.isAbsolute := by
  -- The joined text begins as the first path does, so it leads from the root if that one does.
  have hhead : ∀ cs, (p.text.toList ++ cs).head? = p.text.toList.head? := by
    intro cs
    cases h : p.text.toList with
    | nil => exact absurd (String.toList_inj.mp (by simpa using h)) hp
    | cons c r => rfl
  have habs : ∀ text : String, (∃ cs, text.toList = p.text.toList ++ cs) →
      isAbsolute { text } = p.isAbsolute := by
    rintro text ⟨cs, htext⟩
    rw [isAbsolute_eq, isAbsolute_eq, htext, hhead]
  rw [join, hq, Bool.false_or, if_neg (by simp [hp])]
  by_cases hend : Text.endsWith ['/'] p.text.toList = true
  · obtain ⟨front, hfront⟩ := Option.isSome_iff_exists.mp hend
    rw [Text.before?_eq_some] at hfront
    have hp' : p.pieces = splitOn '/' front ++ [[]] := by
      rw [pieces, hfront, splitOn_append]
      rfl
    have hjoin : pieces { text := p.text ++ q.text } = splitOn '/' front ++ q.pieces := by
      rw [pieces, String.toList_append, hfront, List.append_assoc, List.singleton_append,
        splitOn_append, pieces]
    rw [if_pos hend]
    exact ⟨_, Or.inr hp', hjoin, habs _ ⟨q.text.toList, String.toList_append⟩⟩
  · have hjoin : pieces { text := p.text ++ "/" ++ q.text } = p.pieces ++ q.pieces := by
      have htext : (p.text ++ "/" ++ q.text).toList
          = p.text.toList ++ '/' :: q.text.toList := by simp
      rw [pieces, htext, splitOn_append, pieces, pieces]
    rw [if_neg hend]
    exact ⟨_, Or.inl rfl, hjoin, habs _ ⟨'/' :: q.text.toList, by simp⟩⟩

theorem join_of_text_eq_empty {p : Path} (hp : p.text = "") (q : Path) : p.join q = q := by
  rw [join, if_pos (by simp [hp])]

/-- The empty path leads nowhere. -/
theorem resolve_of_text_eq_empty {p : Path} (hp : p.text = "") (home : Location) :
    resolve home p = home := by
  have hpieces : p.pieces = [[]] := by simp [pieces, hp, splitOn]
  have habs : p.isAbsolute = false := by simp [isAbsolute_eq, hp]
  rw [resolve, habs, hpieces]
  rfl

/-- What a relative path leads to from a place is what the joined path leads to. -/
theorem resolve_join (home : Location) (p : Path) {q : Path} (hq : q.isAbsolute = false) :
    resolve home (p.join q) = q.pieces.foldl stepFrom (resolve home p) := by
  by_cases hp : p.text = ""
  · rw [join_of_text_eq_empty hp, resolve_of_text_eq_empty hp, resolve, hq]
    rfl
  · obtain ⟨front, hfront, hjoin, habs⟩ := pieces_join hp hq
    rw [resolve, resolve, hjoin, habs, List.foldl_append]
    -- An empty piece at the end of the first path leads no further.
    rcases hfront with heq | heq
    · rw [heq]
    · rw [heq, List.foldl_append]
      rfl

theorem isAbsolute_of_no_slash {name : String} (hslash : '/' ∉ name.toList) :
    isAbsolute { text := name } = false := by
  rw [isAbsolute_eq, beq_eq_false_iff_ne]
  exact fun h => hslash (List.mem_of_mem_head? h)

/-- A name without a slash that does not point back leads right into the directory. -/
theorem resolve_div (home : Location) (p : Path) {name : String} (hslash : '/' ∉ name.toList)
    (hname : name ≠ "" ∧ name ≠ "." ∧ name ≠ "..") :
    resolve home (p / name) = resolve home p ++ [name] := by
  have hne : ∀ s : String, name ≠ s → name.toList ≠ s.toList :=
    fun s hs h => hs (String.toList_inj.mp h)
  have hpieces : pieces { text := name } = [name.toList] := splitOn_of_not_mem hslash
  have hidle : isIdle name.toList = false := by
    simp only [isIdle, Bool.or_eq_false_iff, beq_eq_false_iff_ne]
    exact ⟨hne "" hname.1, hne "." hname.2.1⟩
  have hback : name.toList ≠ ['.', '.'] := hne ".." hname.2.2
  show resolve home (p.join { text := name }) = _
  rw [resolve_join home p (isAbsolute_of_no_slash hslash), hpieces, List.foldl_cons, List.foldl_nil,
    stepFrom, hidle, if_neg (by simp), if_neg hback, String.ofList_toList]

/-- A slash at its end leads a path no further, unless it is the root. -/
theorem resolve_concat_slash (home : Location) {cs : List Char} (hne : cs ≠ []) :
    resolve home { text := String.ofList (cs ++ ['/']) } =
      resolve home { text := String.ofList cs } := by
  obtain ⟨c, rest, rfl⟩ := List.exists_cons_of_ne_nil hne
  have hpieces : pieces { text := String.ofList (c :: rest ++ ['/']) } =
      pieces { text := String.ofList (c :: rest) } ++ [[]] := by
    rw [pieces, pieces, String.toList_ofList, String.toList_ofList, splitOn_append]
    rfl
  have habs : isAbsolute { text := String.ofList (c :: rest ++ ['/']) } =
      isAbsolute { text := String.ofList (c :: rest) } := by
    rw [isAbsolute_eq, isAbsolute_eq, String.toList_ofList, String.toList_ofList]
    rfl
  rw [resolve, resolve, hpieces, habs, List.foldl_append]
  rfl

theorem resolve_append_slashes (home : Location) {slashes : List Char}
    (hslashes : ∀ c ∈ slashes, c = '/') {cs : List Char} (hne : cs ≠ []) :
    resolve home { text := String.ofList (cs ++ slashes) } =
      resolve home { text := String.ofList cs } := by
  induction slashes generalizing cs with
  | nil => rw [List.append_nil]
  | cons c slashes ih =>
    rw [List.forall_mem_cons] at hslashes
    rw [hslashes.1, List.append_cons, ih hslashes.2 (by simp), resolve_concat_slash home hne]

end Path

namespace FileTree

theorem resolve_withoutEndSlashes (home : Location) (p : Path) :
    (withoutEndSlashes p).resolve home = p.resolve home := by
  rw [withoutEndSlashes]
  split
  · rfl
  · next hne =>
    have hslashes : ∀ c ∈ (p.text.toList.reverse.takeWhile (· == '/')).reverse, c = '/' := by
      intro c hc
      simpa using List.mem_takeWhile_imp (List.mem_reverse.mp hc)
    have hcut : (p.text.toList.reverse.dropWhile (· == '/')).reverse ++
        (p.text.toList.reverse.takeWhile (· == '/')).reverse = p.text.toList := by
      rw [← List.reverse_append, List.takeWhile_append_dropWhile, List.reverse_reverse]
    rw [← Path.resolve_append_slashes home hslashes hne, hcut, String.ofList_toList]

/-! ## Resolving against directories -/

theorem follow_eq_ok {t : FileTree} {l l' : Location} {piece : List Char}
    (h : t.follow l piece = .ok l') : l' = Path.stepFrom l piece := by
  rw [follow] at h
  rw [Path.stepFrom]
  split at h
  · cases h
  · cases h
  · split at h
    · cases h
      simp_all
    · split at h
      · cases h
        simp_all
      · split at h
        · cases h
        · cases h
          simp_all

theorem foldlM_follow_eq_ok {t : FileTree} {pieces : List (List Char)} {l l' : Location}
    (h : pieces.foldlM t.follow l = .ok l') : l' = pieces.foldl Path.stepFrom l := by
  induction pieces generalizing l with
  | nil =>
    cases h
    rfl
  | cons piece pieces ih =>
    rw [List.foldlM_cons] at h
    cases hf : t.follow l piece with
    | error fault =>
      rw [hf] at h
      cases h
    | ok m =>
      rw [hf] at h
      rw [List.foldl_cons, ← follow_eq_ok hf]
      exact ih h

/-- Where a path leads is told by the path. -/
theorem locate_eq_ok {t : FileTree} {p : Path} {l : Location} (h : t.locate p = .ok l) :
    l = p.resolve t.home := by
  rw [locate] at h
  split at h
  · cases h
  · split at h
    · cases h
    · split at h
      · cases h
      · exact foldlM_follow_eq_ok h

/-! ## Names on the way -/

/-- A location at which something can be: below the root, with names on the way that can be given. -/
structure Nameable (l : Location) : Prop where
  ne_root : l ≠ []
  names : l.all isName = true

theorem names_of_get? {t : FileTree} {l : Location} {e : Entry} (h : t.get? l = some e) :
    l.all isName = true := by
  rw [get?] at h
  split at h
  · next hroot => rw [hroot, List.all_nil]
  · split at h
    · next hnames => exact hnames
    · cases h

/-- A piece of a path that leads anywhere leads to where something can be. -/
theorem names_of_follow {t : FileTree} {l l' : Location} {piece : List Char}
    (h : t.follow l piece = .ok l') (hslash : '/' ∉ piece) (hnull : '\x00' ∉ piece) :
    l'.all isName = true := by
  rw [follow] at h
  split at h
  · cases h
  · cases h
  next hget =>
    have hnames := names_of_get? hget
    split at h
    · cases h
      exact hnames
    · split at h
      · cases h
        rw [List.all_eq_true] at hnames ⊢
        exact fun name hname => hnames name ((List.dropLast_sublist l).subset hname)
      · split at h
        · cases h
        · next hidle hback hlong =>
          cases h
          rw [List.all_append, hnames, Bool.true_and, List.all_cons, List.all_nil, Bool.and_true]
          simp [isName, hidle, hback, hslash, hnull, Nat.le_of_not_lt hlong]

theorem names_of_foldlM {t : FileTree} {pieces : List (List Char)} {l l' : Location}
    (hpieces : ∀ piece ∈ pieces, '/' ∉ piece ∧ '\x00' ∉ piece) (hl : l.all isName = true)
    (h : pieces.foldlM t.follow l = .ok l') : l'.all isName = true := by
  induction pieces generalizing l with
  | nil =>
    cases h
    exact hl
  | cons piece pieces ih =>
    rw [List.foldlM_cons] at h
    rw [List.forall_mem_cons] at hpieces
    cases hf : t.follow l piece with
    | error fault =>
      rw [hf] at h
      cases h
    | ok m =>
      rw [hf] at h
      exact ih hpieces.2 (names_of_follow hf hpieces.1.1 hpieces.1.2) h

/-- What is known of a path that leads anywhere. -/
theorem locate_eq_ok_iff {t : FileTree} {p : Path} {l : Location} : t.locate p = .ok l ↔
    '\x00' ∉ p.text.toList ∧ p.text ≠ "" ∧ p.text.utf8ByteSize ≤ longestPath ∧
      p.pieces.foldlM t.follow (if p.isAbsolute then [] else t.home) = .ok l := by
  rw [locate]
  split
  · next h => simp_all
  · split
    · next h => simp_all
    · split
      · next h => exact iff_of_false (by simp) fun hc => absurd hc.2.2.1 (Nat.not_le_of_lt h)
      · next hnull hne hlong => simp_all

/-- A path that leads anywhere leads to where something can be. -/
theorem names_of_locate {t : FileTree} {p : Path} {l : Location} (h : t.locate p = .ok l) :
    l.all isName = true := by
  obtain ⟨hnull, -, -, h⟩ := locate_eq_ok_iff.mp h
  have hpieces : ∀ piece ∈ p.pieces, '/' ∉ piece ∧ '\x00' ∉ piece := fun piece hpiece =>
    ⟨Text.not_mem_of_mem_splitOn hpiece, fun hc => hnull (Text.subset_of_mem_splitOn hpiece hc)⟩
  -- The first piece is followed from a directory that is there, wherever relative paths begin.
  obtain ⟨first, rest, hcut⟩ := List.exists_cons_of_ne_nil (Text.splitOn_ne_nil '/' p.text.toList)
  rw [← Path.pieces] at hcut
  rw [hcut, List.foldlM_cons] at h
  rw [hcut, List.forall_mem_cons] at hpieces
  cases hf : t.follow (if p.isAbsolute then [] else t.home) first with
  | error fault =>
    rw [hf] at h
    cases h
  | ok m =>
    rw [hf] at h
    exact names_of_foldlM hpieces.2 (names_of_follow hf hpieces.1.1 hpieces.1.2) h

/-- From a directory a path goes on to any name, unless it gets too long by that. -/
theorem locate_div {t : FileTree} {p : Path} {d : Location} {name : String}
    (hp : t.locate p = .ok d) (hd : t.get? d = some .directory) (hname : isName name = true) :
    t.locate (p / name) = .ok (d ++ [name]) ∨ t.locate (p / name) = .error .nameTooLong := by
  obtain ⟨hnull, hne, -, hway⟩ := locate_eq_ok_iff.mp hp
  simp only [isName, Bool.and_eq_true, Bool.not_eq_true', bne_iff_ne, decide_eq_true_eq,
    List.contains_eq_mem, decide_eq_false_iff_not] at hname
  obtain ⟨⟨⟨⟨hidle, hback⟩, hslash⟩, hnull'⟩, hlong⟩ := hname
  have hrelative := Path.isAbsolute_of_no_slash hslash
  obtain ⟨behind, htext, hbehind⟩ : ∃ behind, (p / name).text = p.text ++ behind ∧
      '\x00' ∉ behind.toList := by
    obtain htext | htext := Path.text_join hne hrelative
    · exact ⟨name, htext, hnull'⟩
    · exact ⟨"/" ++ name, htext.trans String.append_assoc, by simpa using hnull'⟩
  have hnull'' : '\x00' ∉ (p / name).text.toList := by
    rw [htext, String.toList_append, List.mem_append, not_or]
    exact ⟨hnull, hbehind⟩
  have hne' : (p / name).text ≠ "" := by
    rw [htext]
    simp [hne]
  by_cases hsize : (p / name).text.utf8ByteSize ≤ longestPath
  · left
    have hlast : t.follow d name.toList = .ok (d ++ [name]) := by
      simp [follow, hd, hidle, hback, Nat.not_lt_of_le hlong]
    have hpieces : Path.pieces { text := name } = [name.toList] := splitOn_of_not_mem hslash
    obtain ⟨front, hfront, hjoin, habs⟩ := Path.pieces_join hne hrelative
    -- An empty piece at the end of the directory's path leads no further.
    have hdirectory : front.foldlM t.follow (if p.isAbsolute then [] else t.home) = .ok d := by
      obtain heq | heq := hfront
      · rw [← heq, hway]
      · rw [heq, List.foldlM_append] at hway
        cases hf : front.foldlM t.follow (if p.isAbsolute then [] else t.home) with
        | error fault =>
          rw [hf] at hway
          cases hway
        | ok m =>
          rw [hf] at hway
          have hm : t.follow m [] = .ok d := (bind_pure (t.follow m [])).symm.trans hway
          exact congrArg Except.ok (follow_eq_ok hm).symm
    refine locate_eq_ok_iff.mpr ⟨hnull'', hne', hsize, ?_⟩
    show (p.join { text := name }).pieces.foldlM t.follow
      (if (p.join { text := name }).isAbsolute then [] else t.home) = _
    rw [hjoin, habs, hpieces, List.foldlM_append, hdirectory]
    exact (bind_pure (t.follow d name.toList)).trans hlast
  · right
    rw [locate, if_neg (by simpa using hnull''), if_neg (by simpa using hne'),
      if_pos (Nat.lt_of_not_le hsize)]

/-- Two trees with the same directories. -/
structure SameDirectories (t t' : FileTree) : Prop where
  home : t'.home = t.home
  directories : ∀ l, t'.get? l = some .directory ↔ t.get? l = some .directory

theorem SameDirectories.refl (t : FileTree) : SameDirectories t t := ⟨rfl, fun _ => Iff.rfl⟩

theorem SameDirectories.trans {t t' t'' : FileTree} (h : SameDirectories t t')
    (h' : SameDirectories t' t'') : SameDirectories t t'' :=
  ⟨h'.home.trans h.home, fun l => (h'.directories l).trans (h.directories l)⟩

theorem follow_toOption {t t' : FileTree} (h : SameDirectories t t') (l : Location)
    (piece : List Char) : (t'.follow l piece).toOption = (t.follow l piece).toOption := by
  -- A piece is followed from a directory only, and there nothing else is looked at.
  by_cases hl : t.get? l = some .directory
  · rw [follow, follow, (h.directories l).mpr hl, hl]
  · have hnone : ∀ u : FileTree, u.get? l ≠ some .directory → (u.follow l piece).toOption = none := by
      intro u hu
      rw [follow]
      split
      · rfl
      · rfl
      · contradiction
    rw [hnone t hl, hnone t' fun hl' => hl ((h.directories l).mp hl')]

theorem foldlM_follow_toOption {t t' : FileTree} (h : SameDirectories t t')
    (pieces : List (List Char)) (l : Location) :
    (pieces.foldlM t'.follow l).toOption = (pieces.foldlM t.follow l).toOption := by
  induction pieces generalizing l with
  | nil => rfl
  | cons piece pieces ih =>
    have hstep := follow_toOption h l piece
    rw [List.foldlM_cons, List.foldlM_cons]
    cases hf : t.follow l piece <;> cases hf' : t'.follow l piece <;> rw [hf, hf'] at hstep
    · rfl
    · cases hstep
    · cases hstep
    · cases hstep
      exact ih _

/-- Which paths lead anywhere, and where to, depends on the directories. -/
theorem locate_toOption {t t' : FileTree} (h : SameDirectories t t') (p : Path) :
    (t'.locate p).toOption = (t.locate p).toOption := by
  rw [locate, locate, h.home]
  split
  · rfl
  · split
    · rfl
    · split
      · rfl
      · exact foldlM_follow_toOption h _ _

theorem locate_of_sameDirectories {t t' : FileTree} (h : SameDirectories t t') {p : Path}
    {l : Location} (hl : t.locate p = .ok l) : t'.locate p = .ok l := by
  have hboth := locate_toOption h p
  rw [hl] at hboth
  cases hl' : t'.locate p with
  | error fault =>
    rw [hl'] at hboth
    cases hboth
  | ok l' =>
    rw [hl'] at hboth
    cases hboth
    rfl

end FileTree

end Intercept
