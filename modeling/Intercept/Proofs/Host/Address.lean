import Intercept.Host.Address
import Intercept.Proofs.Text.Words
import Mathlib.Algebra.Group.Nat.Defs

/-!
# Intercept.Proofs.Host.Address -- addresses as numbers

The parts of an address are the digits of a number, so comparing addresses part by part is comparing
numbers, as long as no part is too large for a digit. Strict spellings have no such parts. Lenient
ones include the four bytes in decimal as which an address is written.
-/

namespace Intercept.Host

/-! ## Digits -/

/-- The number whose digits are listed, the most significant first. -/
def numeral (base : Nat) (digits : List Nat) : Nat :=
  digits.foldl (fun acc d => acc * base + d) 0

variable {base : Nat} {digits xs ys : List Nat}

theorem foldl_digits (digits : List Nat) (acc : Nat) :
    digits.foldl (fun acc d => acc * base + d) acc
      = acc * base ^ digits.length + numeral base digits := by
  induction digits generalizing acc with
  | nil => simp [numeral]
  | cons d digits ih =>
    rw [numeral, List.foldl_cons, List.foldl_cons, ih, ih, List.length_cons, Nat.pow_succ',
      Nat.zero_mul, Nat.zero_add, Nat.add_mul, Nat.mul_assoc, Nat.add_assoc]

theorem numeral_cons (d : Nat) (digits : List Nat) :
    numeral base (d :: digits) = d * base ^ digits.length + numeral base digits := by
  rw [numeral, List.foldl_cons, foldl_digits, Nat.zero_mul, Nat.zero_add]

theorem numeral_lt (h : ∀ d ∈ digits, d < base) : numeral base digits < base ^ digits.length := by
  induction digits with
  | nil => exact Nat.one_pos
  | cons d digits ih =>
    have hd : d + 1 ≤ base := h d List.mem_cons_self
    have hrest := ih fun d' hd' => h d' (List.mem_cons_of_mem d hd')
    rw [numeral_cons, List.length_cons, Nat.pow_succ']
    calc d * base ^ digits.length + numeral base digits
        < d * base ^ digits.length + base ^ digits.length := Nat.add_lt_add_left hrest _
      _ = (d + 1) * base ^ digits.length := (Nat.succ_mul _ _).symm
      _ ≤ base * base ^ digits.length := Nat.mul_le_mul_right _ hd

/-- A number is less than another one with as many digits if its first digit is. -/
theorem numeral_cons_lt {x y : Nat} (hxs : ∀ d ∈ xs, d < base) (hlength : xs.length = ys.length)
    (hxy : x < y) : numeral base (x :: xs) < numeral base (y :: ys) := by
  rw [numeral_cons, numeral_cons, hlength]
  calc x * base ^ ys.length + numeral base xs
      < x * base ^ ys.length + base ^ ys.length :=
        Nat.add_lt_add_left (hlength ▸ numeral_lt hxs) _
    _ = (x + 1) * base ^ ys.length := (Nat.succ_mul _ _).symm
    _ ≤ y * base ^ ys.length := Nat.mul_le_mul_right _ hxy
    _ ≤ y * base ^ ys.length + numeral base ys := Nat.le_add_right _ _

/-- Numbers with as many digits compare as their digits do, one after the other. -/
theorem compare_digits (hxs : ∀ d ∈ xs, d < base) (hys : ∀ d ∈ ys, d < base)
    (hlength : xs.length = ys.length) :
    compare xs ys = compare (numeral base xs) (numeral base ys) := by
  induction xs generalizing ys with
  | nil =>
    rw [List.length_nil, eq_comm, List.length_eq_zero_iff] at hlength
    rw [hlength]
    rfl
  | cons x xs ih =>
    cases ys with
    | nil => cases hlength
    | cons y ys =>
      have hrest : xs.length = ys.length := Nat.succ.inj hlength
      have hxs' := fun d hd => hxs d (List.mem_cons_of_mem x hd)
      have hys' := fun d hd => hys d (List.mem_cons_of_mem y hd)
      have hstep : compare (x :: xs) (y :: ys) = (compare x y).then (compare xs ys) :=
        List.compareLex_cons_cons
      rw [hstep]
      rcases Nat.lt_trichotomy x y with hlt | rfl | hgt
      · rw [Nat.compare_eq_lt.mpr hlt, Nat.compare_eq_lt.mpr (numeral_cons_lt hxs' hrest hlt)]
        rfl
      · rw [Nat.compare_eq_eq.mpr rfl, numeral_cons, numeral_cons, hrest, ih hxs' hys' hrest]
        simp only [Nat.compare_eq_ite_lt, Nat.add_lt_add_iff_left]
        rfl
      · rw [Nat.compare_eq_gt.mpr hgt,
          Nat.compare_eq_gt.mpr (numeral_cons_lt hys' hrest.symm hgt)]
        rfl

/-! ## Addresses -/

/-- The number that an address is. -/
def Address.number : Address → Nat
  | .v4 bytes => numeral 256 bytes
  | .v6 groups => numeral 65536 groups

/-- An address with as many parts as there have to be, none of which is too large. -/
def Address.Sound : Address → Prop
  | .v4 bytes => bytes.length = 4 ∧ ∀ b ∈ bytes, b < 256
  | .v6 groups => groups.length = 8 ∧ ∀ g ∈ groups, g < 65536

/-- Each group is two bytes. -/
theorem numeral_bytes (groups : List Nat) :
    numeral 256 (groups.flatMap fun g => [g / 256, g % 256]) = numeral 65536 groups := by
  have hfrom : ∀ acc, (groups.flatMap fun g => [g / 256, g % 256]).foldl
        (fun acc d => acc * 256 + d) acc
      = groups.foldl (fun acc d => acc * 65536 + d) acc := by
    induction groups with
    | nil =>
      intro acc
      rw [List.flatMap_nil, List.foldl_nil, List.foldl_nil]
    | cons g groups ih =>
      intro acc
      have hstep : (acc * 256 + g / 256) * 256 + g % 256 = acc * 65536 + g := by omega
      rw [List.flatMap_cons, List.foldl_append, List.foldl_cons, List.foldl_cons, List.foldl_cons,
        List.foldl_nil, hstep, ih]
  exact hfrom 0

theorem length_bytes_groups (groups : List Nat) :
    (groups.flatMap fun g => [g / 256, g % 256]).length = groups.length * 2 := by
  induction groups with
  | nil => rfl
  | cons g groups ih =>
    rw [List.flatMap_cons, List.length_append, ih, List.length_cons, List.length_cons,
      List.length_cons, List.length_nil]
    omega

/-- Addresses of one kind compare by their bytes as their numbers do. -/
theorem compare_bytes {bytes bytes' : List Nat} (h : (Address.v4 bytes).Sound)
    (h' : (Address.v4 bytes').Sound) : compare bytes bytes'
      = compare (Address.v4 bytes).number (Address.v4 bytes').number :=
  compare_digits h.2 h'.2 (h.1.trans h'.1.symm)

theorem compare_groups {groups groups' : List Nat} (h : (Address.v6 groups).Sound)
    (h' : (Address.v6 groups').Sound) :
    compare (Address.v6 groups).bytes (Address.v6 groups').bytes
      = compare (Address.v6 groups).number (Address.v6 groups').number := by
  have hbytes : ∀ {gs : List Nat}, (∀ g ∈ gs, g < 65536) →
      ∀ b ∈ gs.flatMap fun g => [g / 256, g % 256], b < 256 := by
    intro gs hgs b hb
    obtain ⟨g, hg, hb⟩ := List.mem_flatMap.mp hb
    have hlt := hgs g hg
    simp only [List.mem_cons, List.not_mem_nil, or_false] at hb
    omega
  rw [Address.number, Address.number, ← numeral_bytes, ← numeral_bytes]
  refine compare_digits (hbytes h.2) (hbytes h'.2) ?_
  rw [Address.bytes, Address.bytes, length_bytes_groups, length_bytes_groups, h.1, h'.1]

/-! ## Strict spelling -/

section Strict

variable {cs rest : List Char}

theorem strictByte?_lt {n : Nat} (h : strictByte? cs = some (n, rest)) : n < 256 := by
  rw [strictByte?] at h
  split at h
  · next count m rest' _ =>
    split at h
    · cases h
    · next hcond =>
      cases h
      omega

theorem strictV4?_sound {bytes : List Nat} (h : strictV4? cs = some (bytes, rest)) :
    (Address.v4 bytes).Sound := by
  simp only [strictV4?, Option.bind_eq_bind, Option.bind_eq_some_iff, Option.pure_def,
    Option.some.injEq, Prod.mk.injEq] at h
  obtain ⟨⟨a, ca⟩, ha, da, -, ⟨b, cb⟩, hb, db, -, ⟨c, cc⟩, hc, dc, -, ⟨d, cd⟩, hd, rfl, -⟩ := h
  refine ⟨rfl, ?_⟩
  simp only [List.forall_mem_cons, List.not_mem_nil, false_imp_iff, implies_true, and_true]
  exact ⟨strictByte?_lt ha, strictByte?_lt hb, strictByte?_lt hc, strictByte?_lt hd⟩

theorem digitBelow?_lt {radix d : Nat} {c : Char} (h : digitBelow? radix c = some d) :
    d < radix := by
  rw [digitBelow?, Option.filter_eq_some_iff] at h
  exact of_decide_eq_true h.2

/-- A number is below the power of the radix with as many digits. -/
theorem leadingNumber_lt {radix count acc : Nat} (h : acc < radix ^ count) (cs : List Char) :
    (leadingNumber radix count acc cs).2.1 < radix ^ (leadingNumber radix count acc cs).1 := by
  fun_induction leadingNumber radix count acc cs with
  | case1 => exact h
  | case2 count acc c rest d hd ih =>
    refine ih ?_
    have hdigit := digitBelow?_lt hd
    calc acc * radix + d < acc * radix + radix := Nat.add_lt_add_left hdigit _
      _ = (acc + 1) * radix := (Nat.succ_mul _ _).symm
      _ ≤ radix ^ count * radix := Nat.mul_le_mul_right _ h
  | case3 => exact h

theorem strictGroup?_lt {n : Nat} (h : strictGroup? cs = some (n, rest)) : n < 65536 := by
  rw [strictGroup?] at h
  have hlt : (leadingNumber 16 0 0 cs).2.1 < 16 ^ (leadingNumber 16 0 0 cs).1 :=
    leadingNumber_lt (by decide) cs
  split at h
  · next count m rest' heq =>
    rw [heq] at hlt
    split at h
    · cases h
    · next hcond =>
      cases h
      have hcount : count ≤ 4 := by omega
      exact Nat.lt_of_lt_of_le hlt (Nat.pow_le_pow_right (by decide) hcount)

theorem afterColon?_eq_some {α : Type} {first : Bool} {read : List Char → Option α} {a : α}
    (h : afterColon? first read cs = some a) : ∃ cs', read cs' = some a := by
  rw [afterColon?] at h
  split at h
  · exact ⟨cs, h⟩
  · obtain ⟨cs', -, hread⟩ := Option.bind_eq_some_iff.mp h
    exact ⟨cs', hread⟩

/-- Groups that fit into the room that there was for them, none of which is too large. -/
def GroupsIn (room : Nat) (groups : List Nat) : Prop :=
  groups.length ≤ room ∧ ∀ g ∈ groups, g < 65536

theorem strictGroups_groupsIn (first : Bool) (room : Nat) (cs : List Char) :
    GroupsIn room (strictGroups first room cs).1 := by
  fun_induction strictGroups first room cs with
  | case1 => exact ⟨Nat.le_refl 0, nofun⟩
  | case2 first room cs v4 a b c d rest hv4 =>
    have hroom : room ≠ 0 := fun hzero => by simp [v4, hzero] at hv4
    obtain ⟨cs', hread⟩ := afterColon?_eq_some ((if_neg hroom).symm.trans hv4)
    have hbytes := (strictV4?_sound hread).2
    simp only [List.forall_mem_cons] at hbytes
    refine ⟨Nat.succ_le_succ (Nat.pos_of_ne_zero hroom), ?_⟩
    simp only [List.forall_mem_cons]
    exact ⟨by omega, by omega, nofun⟩
  | case3 first room cs v4 g rest hg gs inV4 rest' hgs _ ih =>
    obtain ⟨cs', hread⟩ := afterColon?_eq_some hg
    rw [hgs] at ih
    exact ⟨Nat.succ_le_succ ih.1, List.forall_mem_cons.mpr ⟨strictGroup?_lt hread, ih.2⟩⟩
  | case4 => exact ⟨Nat.zero_le _, nofun⟩

theorem strictV6?_sound {groups : List Nat} (h : strictV6? cs = some (groups, rest)) :
    (Address.v6 groups).Sound := by
  rw [strictV6?] at h
  have hfront := strictGroups_groupsIn true 8 cs
  split at h
  next front inV4 more hread =>
    rw [hread] at hfront
    split at h
    · next hlength =>
      cases h
      exact ⟨hlength, hfront.2⟩
    · next hlength =>
      split at h
      · cases h
      · split at h
        · cases h
        · next behind _ =>
          have hback := strictGroups_groupsIn true (7 - front.length) behind
          split at h
          next back _ rest' hread' =>
            rw [hread'] at hback
            cases h
            have hfrontLength : front.length ≤ 8 := hfront.1
            have hbackLength : back.length ≤ 7 - front.length := hback.1
            constructor
            · simp only [List.length_append, List.length_replicate]
              omega
            · intro g hg
              rcases List.mem_append.mp hg with hg | hg
              · rcases List.mem_append.mp hg with hg | hg
                · exact hfront.2 g hg
                · exact (List.mem_replicate.mp hg).2 ▸ Nat.zero_lt_succ _
              · exact hback.2 g hg

/-- Where a text spells an address strictly, the address is sound. -/
theorem sound_of_parse? {a : Address} (h : Address.parse? cs = some a) : a.Sound := by
  rw [Address.parse?] at h
  split at h
  · next bytes rest hv4 =>
    split at h
    · cases h
      exact strictV4?_sound hv4
    · cases h
  · split at h
    · next groups rest hv6 =>
      split at h
      · cases h
        exact strictV6?_sound hv6
      · cases h
    · cases h

end Strict

/-! ## Lenient spelling -/

section Lenient

variable {c : Char} {cs : List Char}

theorem lenientPart?_decimal {b : Nat} (hb : b < 256) :
    lenientPart? (Text.decimal b) = some (some b) := by
  have hall : ∀ b < 256, lenientPart? (Text.decimal b) = some (some b) := by decide +kernel
  exact hall b hb

theorem isDigit_of_mem_decimal {b : Nat} (hc : c ∈ Text.decimal b) : c.isDigit = true :=
  Nat.isDigit_of_mem_toDigits (by decide) (by decide) hc

theorem mem_write_v4 {bytes : List Nat} (hc : c ∈ (Address.v4 bytes).write) :
    c = '.' ∨ c.isDigit = true := by
  rcases Text.of_mem_join hc with hdot | ⟨part, hpart, hc⟩
  · exact .inl (List.mem_singleton.mp hdot)
  · obtain ⟨b, -, rfl⟩ := List.mem_map.mp hpart
    exact .inr (isDigit_of_mem_decimal hc)

/-- Four bytes that are written in decimal are read as themselves. -/
theorem lenientV4?_write {bytes : List Nat} (h : (Address.v4 bytes).Sound) :
    lenientV4? (Address.v4 bytes).write = some bytes := by
  obtain ⟨hlength, hbytes⟩ := h
  obtain ⟨a, b, c, d, rfl⟩ : ∃ a b c d, bytes = [a, b, c, d] := by
    match bytes, hlength with
    | [a, b, c, d], _ => exact ⟨a, b, c, d, rfl⟩
  simp only [List.forall_mem_cons] at hbytes
  obtain ⟨ha, hb, hc, hd, -⟩ := hbytes
  have hsplit : Text.splitOn '.' (Address.v4 [a, b, c, d]).write
      = [a, b, c, d].map Text.decimal := by
    refine Text.splitOn_join (List.cons_ne_nil _ _) fun part hpart hdot => ?_
    obtain ⟨b, -, rfl⟩ := List.mem_map.mp hpart
    exact absurd (isDigit_of_mem_decimal hdot) (by decide)
  have hparts : hostParts (Address.v4 [a, b, c, d]).write = [a, b, c, d].map Text.decimal := by
    rw [hostParts, hsplit]
    refine if_neg fun hlast => ?_
    have hnil : Text.decimal d = [] := by simpa using hlast.1
    exact Nat.toDigits_ne_nil hnil
  have hnumbers : ([a, b, c, d].map Text.decimal).mapM (fun p => (lenientPart? p).join)
      = some [a, b, c, d] := by
    simp [lenientPart?_decimal, ha, hb, hc, hd]
  have hfits : ¬ (Nat.pow 256 (4 - [a, b, c].length) ≤ d
      ∨ [a, b, c].any (fun n => decide (255 < n)) = true) := by
    simp
    omega
  have hdigits : bytesOfNumber ((((0 * 256 + a) * 256 + b) * 256 + c) * 256 + d)
      = [a, b, c, d] := by
    simp only [bytesOfNumber, List.cons.injEq, and_true]
    omega
  rw [lenientV4?, hparts]
  dsimp only
  rw [if_neg (by simp), hnumbers]
  exact (if_neg hfits).trans (congrArg some hdigits)

theorem lenientV4?_sound {bytes : List Nat} (h : lenientV4? cs = some bytes) :
    (Address.v4 bytes).Sound := by
  rw [lenientV4?] at h
  dsimp only at h
  split at h
  · cases h
  · obtain ⟨numbers, -, h⟩ := Option.bind_eq_some_iff.mp h
    obtain ⟨last, -, h⟩ := Option.bind_eq_some_iff.mp h
    split at h
    · cases h
    · cases h
      refine ⟨rfl, ?_⟩
      simp only [bytesOfNumber, List.forall_mem_cons]
      refine ⟨?_, ?_, ?_, ?_, nofun⟩
      all_goals exact Nat.mod_lt _ (by decide)

theorem lenientGroups?_nil {seen : List Nat} (h : seen.length ≠ 8) (fuel : Nat) :
    lenientGroups? fuel seen none [] = none := by
  cases fuel with
  | zero => rfl
  | succ fuel => exact if_neg h

theorem length_of_trailingV4? {two : List Nat} (h : trailingV4? cs = some two) :
    two.length = 2 := by
  rw [trailingV4?] at h
  split at h
  · cases h
    rfl
  · cases h

/-- Without a colon there is one group, or two that are spelt as four bytes, and never eight. -/
theorem lenientGroups?_eq_none (h : ':' ∉ cs) (fuel : Nat) :
    lenientGroups? fuel [] none cs = none := by
  cases fuel with
  | zero => rfl
  | succ fuel =>
    cases cs with
    | nil => rfl
    | cons c rest =>
      have hc : c ≠ ':' := fun heq => h (heq ▸ List.mem_cons_self)
      rw [lenientGroups?]
      dsimp only
      rw [if_neg (by decide), if_neg hc]
      simp only [Option.isSome_none, Bool.false_eq_true, if_false]
      split
      · exact lenientGroups?_nil (by simp) fuel
      · split
        · rfl
        · split
          · next htwo => exact lenientGroups?_nil (by simp [length_of_trailingV4? htwo]) fuel
          · rfl
      · next hdrop =>
        exact absurd (List.mem_of_mem_drop (hdrop ▸ List.mem_cons_self)) h
      · rfl

theorem lenientV6?_eq_none (h : ':' ∉ cs) : lenientV6? cs = none := by
  rw [lenientV6?.eq_def]
  split
  · rfl
  · rfl
  · exact absurd List.mem_cons_self h
  · rfl
  · exact lenientGroups?_eq_none h _

end Lenient

end Intercept.Host
