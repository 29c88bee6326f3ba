import Mathlib.Algebra.Group.Nat.Defs
import PageLint.Number.Decimal

/-!
# Integers in groups of three digits

Sums are printed as integers with a comma between groups of three digits. An integer of up to 53 bits
is a count of units with few significant bits (`Binary64.Representable`), so it is not rounded when it
is made into a number, nor when it is printed. What is printed is its sign and its digits with commas
(`Binary64.IsInt.grouped_eq`).

The commas are put in from the left, each by the number of digits that are still ahead. That the groups
come out counted from the right is shown along the digits: one more digit in front either fills up the
first group or, when that has three, begins a new one.

## Main results

* `Binary64.isInt_ofInt`: integers of up to 53 bits are held exactly.
* `Binary64.exists_isGrouping`: the commas stand between groups of three digits, behind a first group
  of one to three.
* `Binary64.betweenDigits_of_withCommas`: a comma stands between two digits.
* `Binary64.grouped_faithful`: **integers are printed faithfully**.
-/

namespace PageLint.Binary64

/-! ### Numbers that are not rounded -/

/-- A count of units that 53 significant bits are enough for. -/
def Representable (units : Nat) : Prop := ∃ m e, m < 2 ^ 53 ∧ units = m * 2 ^ e

/-- The distance between neighbours near a representable number divides it. -/
theorem Representable.spacing_dvd {units : Nat} (h : Representable units) :
    spacing units ∣ units := by
  obtain ⟨m, e, hm, rfl⟩ := h
  by_cases hzero : m * 2 ^ e = 0
  · rw [hzero]
    exact Nat.dvd_zero _
  · have hlt : m * 2 ^ e < 2 ^ (53 + e) := by
      rw [Nat.pow_add]
      exact Nat.mul_lt_mul_of_pos_right hm (Nat.two_pow_pos e)
    have hlog : Nat.log2 (m * 2 ^ e) < 53 + e := (Nat.log2_lt hzero).mpr hlt
    exact Nat.dvd_mul_left_of_dvd (Nat.pow_dvd_pow 2 (by omega)) m

/-- A multiple is divided without rounding. -/
theorem roundDiv_mul {den : Nat} (hden : 0 < den) (q : Nat) : roundDiv (q * den) den = q := by
  rw [roundDiv, Nat.mul_div_cancel q hden, Nat.mul_mod_left]
  exact if_pos (.inl hden)

/-- The number nearest to a representable one is that one. -/
theorem Representable.ofUnits_one {units : Nat} (h : Representable units) (hlimit : units < limit)
    (negative : Bool) : ofUnits negative units 1 = finite negative units := by
  have hround : roundDiv units (1 * spacing units) * spacing units = units := by
    obtain ⟨q, hq⟩ := h.spacing_dvd
    rw [Nat.mul_comm] at hq
    have hpos : 0 < spacing units := Nat.two_pow_pos _
    generalize spacing units = step at hq hpos
    rw [Nat.one_mul, hq, roundDiv_mul hpos]
  rw [ofUnits, Nat.div_one]
  simp only [hround, if_pos hlimit]

/-! ### Integers -/

/-- Is the number the integer `n`? Zero is, with a minus and without. -/
inductive IsInt : Binary64 → Int → Prop where
  /-- It has as many units as `n` ones have. -/
  | finite {negative : Bool} {units : Nat} {n : Int} : signed negative units = n * one →
      IsInt (finite negative units) n

/-- One is some units. -/
theorem one_pos : 0 < one := by decide +kernel

/-- One is a power of two, counted in units. -/
theorem exists_one_eq : ∃ e, one = 2 ^ e := ⟨1074, by decide +kernel⟩

/-- Natural numbers of at most 53 bits are representable, and so is the next one, a power of two. -/
theorem representable_mul_one {k : Nat} (h : k ≤ 2 ^ 53) : Representable (k * one) := by
  obtain ⟨e, he⟩ := exists_one_eq
  rw [he]
  rcases Nat.lt_or_eq_of_le h with hlt | rfl
  · exact ⟨k, e, hlt, rfl⟩
  · exact ⟨1, 53 + e, by decide, by rw [Nat.one_mul, Nat.pow_add]⟩

/-- Integers of up to 53 bits are below the limit of finite numbers. -/
theorem mul_one_lt_limit {k : Nat} (h : k ≤ 2 ^ 53) : k * one < limit :=
  Nat.lt_of_le_of_lt (Nat.mul_le_mul_right one h) (by decide +kernel)

/-- An integer of up to 53 bits is the number with its sign and its magnitude in units. -/
theorem ofInt_eq {n : Int} (h : n.natAbs ≤ 2 ^ 53) :
    ofInt n = finite (n < 0) (n.natAbs * one) := by
  rw [ofInt, ofDecimal]
  by_cases hzero : n.natAbs = 0
  · rw [if_pos (.inl hzero), hzero, Nat.zero_mul]
  · have hsize : (Nat.toDigits 10 n.natAbs).length ≤ 400 :=
      (Nat.length_toDigits_le_iff (by decide) (by decide)).mpr
        (Nat.lt_of_le_of_lt h (by decide +kernel))
    rw [if_neg (by omega), if_neg (by omega), if_pos (Int.le_refl 0), ofRatio, Int.toNat_zero,
      Nat.pow_eq, Nat.pow_zero, Nat.mul_one]
    exact (representable_mul_one h).ofUnits_one (mul_one_lt_limit h) _

/-- **Integers of up to 53 bits are held exactly.** -/
theorem isInt_ofInt {n : Int} (h : n.natAbs ≤ 2 ^ 53) : IsInt (ofInt n) n := by
  rw [ofInt_eq h]
  refine .finite ?_
  by_cases hneg : n < 0
  · have habs : (n.natAbs : Int) = -n := Int.ofNat_natAbs_of_nonpos (Int.le_of_lt hneg)
    rw [signed, if_pos (decide_eq_true hneg), Int.natCast_mul, habs, Int.neg_mul, Int.neg_neg]
  · have habs : (n.natAbs : Int) = n := Int.natAbs_of_nonneg (Int.not_lt.mp hneg)
    rw [signed, if_neg (by simpa using hneg), Int.natCast_mul, habs]

/-- A sign does not change the magnitude. -/
theorem natAbs_signed (negative : Bool) (units : Nat) : (signed negative units).natAbs = units := by
  cases negative <;> simp [signed]

/-- The magnitude of an integer is in the units, and it is below zero as a number if it is as an
integer. -/
theorem IsInt.exists_eq {x : Binary64} {n : Int} (h : IsInt x n) :
    ∃ negative, x = Binary64.finite negative (n.natAbs * one) ∧ (x.isNegative = true ↔ n < 0) := by
  cases h with
  | @finite negative units _ hsigned =>
      have hunits : units = n.natAbs * one := by
        rw [← natAbs_signed negative units, hsigned, Int.natAbs_mul, Int.natAbs_natCast]
      have hneg : n < 0 ↔ signed negative units < 0 := by
        rw [hsigned]
        refine ⟨fun h => Int.mul_neg_of_neg_of_pos h (Int.natCast_pos.mpr one_pos), fun h => ?_⟩
        refine Int.not_le.mp fun hnonneg => Int.not_le.mpr h ?_
        exact Int.mul_nonneg hnonneg (Int.natCast_nonneg one)
      refine ⟨negative, by rw [hunits], ?_⟩
      rw [hneg, isNegative, signed]
      cases negative with
      | false => simp
      | true => simp [Nat.pos_iff_ne_zero]

/-! ### Groups -/

/-- The digits cut into groups: three in each, and one to three in the first. -/
structure IsGrouping (digits first : Text) (rest : List Text) : Prop where
  /-- The groups are the digits, in order. -/
  flatten : first ++ rest.flatten = digits
  /-- The first group is not empty. -/
  length_pos : 0 < first.length
  /-- The first group has no more digits than the others. -/
  length_le : first.length ≤ 3
  /-- The others have three. -/
  length_eq : ∀ group ∈ rest, group.length = 3

/-- Groups of three digits have together a multiple of three. -/
theorem length_flatten_mod {groups : List Text} (h : ∀ group ∈ groups, group.length = 3) :
    groups.flatten.length % 3 = 0 := by
  induction groups with
  | nil => rfl
  | cons group groups ih =>
      obtain ⟨hgroup, hgroups⟩ := List.forall_mem_cons.mp h
      rw [List.flatten_cons, List.length_append, hgroup, Nat.add_mod_left, ih hgroups]

/-- The groups behind the first make no difference to the number of digits modulo three. -/
theorem IsGrouping.length_mod {digits first : Text} {rest : List Text}
    (h : IsGrouping digits first rest) : digits.length % 3 = first.length % 3 := by
  have hrest := length_flatten_mod h.length_eq
  rw [← h.flatten, List.length_append]
  omega

/-- **The commas stand between groups.** A digit begins a group of its own when those behind it are
whole groups, and goes to the first of these groups otherwise. -/
theorem exists_isGrouping {digits : Text} (hne : digits ≠ []) :
    ∃ first rest, IsGrouping digits first rest ∧
      withCommas digits = Text.join [','] (first :: rest) := by
  induction digits with
  | nil => exact absurd rfl hne
  | cons c t ih =>
      by_cases ht : t = []
      · subst ht
        exact ⟨[c], [], ⟨rfl, by simp, by simp, by simp⟩, rfl⟩
      · obtain ⟨first, rest, hgroups, hcommas⟩ := ih ht
        have hmod := hgroups.length_mod
        have hpos := hgroups.length_pos
        have hle := hgroups.length_le
        by_cases hthree : t.length % 3 = 0
        · have hfirst : first.length = 3 := by omega
          refine ⟨[c], first :: rest, ⟨?_, Nat.one_pos, Nat.le_add_left 1 2, ?_⟩, ?_⟩
          · rw [List.flatten_cons, hgroups.flatten, List.singleton_append]
          · exact List.forall_mem_cons.mpr ⟨hfirst, hgroups.length_eq⟩
          · rw [withCommas, if_pos ⟨hthree, ht⟩, hcommas]
            rfl
        · refine ⟨c :: first, rest, ⟨?_, Nat.succ_pos _, ?_, hgroups.length_eq⟩, ?_⟩
          · rw [List.cons_append, hgroups.flatten]
          · rw [List.length_cons]
            omega
          · rw [withCommas, if_neg fun h => hthree h.1, hcommas]
            cases rest <;> rfl

/-! ### Commas -/

/-- Without the commas the digits are what they were. -/
theorem filter_withCommas {digits : Text} (h : ∀ c ∈ digits, c.isDigit = true) :
    (withCommas digits).filter (· ≠ ',') = digits := by
  have hcomma : ∀ {c : Char}, c.isDigit = true → c ≠ ',' := by
    rintro c hc rfl
    exact absurd hc (by decide)
  fun_induction withCommas digits with
  | case1 => rfl
  | case2 c t _ ih =>
      obtain ⟨hc, ht⟩ := List.forall_mem_cons.mp h
      rw [List.filter_cons_of_pos (by simpa using hcomma hc), List.filter_cons_of_neg (by simp), ih ht]
  | case3 c t _ ih =>
      obtain ⟨hc, ht⟩ := List.forall_mem_cons.mp h
      rw [List.filter_cons_of_pos (by simpa using hcomma hc), ih ht]

/-- The first digit stays in front. -/
theorem head?_withCommas (digits : Text) : (withCommas digits).head? = digits.head? := by
  fun_cases withCommas digits <;> rfl

/-- A place between two digits. -/
structure BetweenDigits (before after : Text) : Prop where
  /-- A digit is in front of it. -/
  left : ∃ c, before.getLast? = some c ∧ c.isDigit = true
  /-- A digit is behind it. -/
  right : ∃ c, after.head? = some c ∧ c.isDigit = true

/-- A place between two digits stays one behind a further character. -/
theorem BetweenDigits.cons {before after : Text} (h : BetweenDigits before after) (c : Char) :
    BetweenDigits (c :: before) after := by
  obtain ⟨d, hd, hdigit⟩ := h.left
  exact ⟨⟨d, by rw [List.getLast?_cons, hd, Option.getD_some], hdigit⟩, h.right⟩

/-- **A comma stands between two digits.** -/
theorem betweenDigits_of_withCommas {digits before after : Text}
    (h : ∀ c ∈ digits, c.isDigit = true) (hsplit : withCommas digits = before ++ ',' :: after) :
    BetweenDigits before after := by
  have hcomma : ¬Char.isDigit ',' = true := by decide
  fun_induction withCommas digits generalizing before with
  | case1 => simp at hsplit
  | case2 c t hthree ih =>
      obtain ⟨hc, ht⟩ := List.forall_mem_cons.mp h
      rcases List.cons_eq_append_iff.mp hsplit with ⟨-, heq⟩ | ⟨front, rfl, hcommas⟩
      · exact absurd ((List.cons.inj heq).1 ▸ hc) hcomma
      rcases List.cons_eq_append_iff.mp hcommas with ⟨rfl, heq⟩ | ⟨middle, rfl, hrest⟩
      · obtain ⟨d, s, hcons⟩ := List.exists_cons_of_ne_nil hthree.2
        refine ⟨⟨c, rfl, hc⟩, d, ?_, ht d (hcons ▸ List.mem_cons_self)⟩
        rw [(List.cons.inj heq).2, head?_withCommas, hcons, List.head?_cons]
      · exact ((ih ht hrest).cons ',').cons c
  | case3 c t _ ih =>
      obtain ⟨hc, ht⟩ := List.forall_mem_cons.mp h
      rcases List.cons_eq_append_iff.mp hsplit with ⟨-, heq⟩ | ⟨front, rfl, hrest⟩
      · exact absurd ((List.cons.inj heq).1 ▸ hc) hcomma
      · exact (ih ht hrest).cons c

/-! ### Decimal form -/

/-- What is in front of the digits of an integer. -/
def sign (n : Int) : Text := if n < 0 then ['-'] else []

/-- The decimal form of an integer is its sign and the digits of its magnitude. -/
theorem toList_toString (n : Int) : (toString n).toList = sign n ++ Nat.toDigits 10 n.natAbs := by
  have hnat : ∀ m : Nat, (toString m).toList = Nat.toDigits 10 m := fun m => by
    rw [Nat.toString_eq_ofList_toDigits, String.toList_ofList]
  cases n with
  | ofNat m =>
      have hnonneg : ¬Int.ofNat m < 0 := Int.not_lt.mpr (Int.natCast_nonneg m)
      rw [sign, if_neg hnonneg]
      exact hnat m
  | negSucc m =>
      have htext : toString (Int.negSucc m) = "-" ++ toString (m + 1) := rfl
      rw [sign, if_pos (Int.negSucc_lt_zero m), htext, String.toList_append, hnat]
      rfl

/-- A decimal form has nothing but digits. -/
theorem isDigit_of_mem_toDigits {n : Nat} : ∀ c ∈ Nat.toDigits 10 n, c.isDigit = true :=
  fun _ h => Nat.isDigit_of_mem_toDigits (by decide) (by decide) h

namespace IsInt

variable {x : Binary64} {n : Int} (h : IsInt x n)

include h

/-- An integer is printed as its sign and its digits with commas. -/
theorem grouped_eq : x.grouped = sign n ++ withCommas (Nat.toDigits 10 n.natAbs) := by
  obtain ⟨negative, rfl, hneg⟩ := h.exists_eq
  have hzero : n < 0 → Nat.toDigits 10 n.natAbs ≠ ['0'] := by
    intro hlt hdigits
    have hvalue := Nat.ofDigitChars_ten_toDigits (n := n.natAbs)
    rw [hdigits] at hvalue
    exact Int.natAbs_ne_zero.mpr (Int.ne_of_lt hlt) hvalue.symm
  rw [grouped]
  simp only [roundDiv_mul one_pos, hneg]
  by_cases hlt : n < 0
  · rw [if_pos ⟨hlt, hzero hlt⟩, sign, if_pos hlt, List.singleton_append]
  · rw [if_neg fun h => hlt h.1, sign, if_neg hlt, List.nil_append]

/-- Without its commas, the form of an integer is its decimal form. -/
theorem filter_grouped : x.grouped.filter (· ≠ ',') = (toString n).toList := by
  have hsign : (sign n).filter (· ≠ ',') = sign n := by
    rw [sign]
    split <;> rfl
  rw [h.grouped_eq, List.filter_append, hsign, filter_withCommas isDigit_of_mem_toDigits,
    toList_toString]

/-- Every comma in the form of an integer stands between two digits. -/
theorem betweenDigits {before after : Text} (hsplit : x.grouped = before ++ ',' :: after) :
    BetweenDigits before after := by
  rw [h.grouped_eq, sign] at hsplit
  split at hsplit
  · rcases List.cons_eq_append_iff.mp hsplit with ⟨-, heq⟩ | ⟨front, rfl, hrest⟩
    · exact absurd (List.cons.inj heq).1 (by decide)
    · exact (betweenDigits_of_withCommas isDigit_of_mem_toDigits hrest).cons '-'
  · exact betweenDigits_of_withCommas isDigit_of_mem_toDigits hsplit

end IsInt

/-- **Integers are printed faithfully.** Each integer `n` of up to 53 bits is a number, and any number
that is an integer `n` is printed so that without the commas it is the decimal form of `n`; the commas
part the digits into a first group of one to three and further groups of three, behind a minus if `n`
is negative and behind nothing if not; and each comma has a digit on both sides. -/
theorem grouped_faithful (n : Int) :
    (n.natAbs ≤ 2 ^ 53 → IsInt (ofInt n) n) ∧ ∀ x : Binary64, IsInt x n →
      x.grouped.filter (· ≠ ',') = (toString n).toList ∧
      (∃ first rest, IsGrouping (Nat.toDigits 10 n.natAbs) first rest ∧
        x.grouped = (if n < 0 then ['-'] else []) ++ Text.join [','] (first :: rest)) ∧
      ∀ before after, x.grouped = before ++ ',' :: after → BetweenDigits before after := by
  refine ⟨isInt_ofInt, fun x hx => ⟨hx.filter_grouped, ?_, fun _ _ => hx.betweenDigits⟩⟩
  obtain ⟨first, rest, hgroups, hcommas⟩ := exists_isGrouping (Nat.toDigits_ne_nil (n := n.natAbs))
  refine ⟨first, rest, hgroups, ?_⟩
  rw [← hcommas]
  exact hx.grouped_eq

/-- The negative end of the range, in six groups. -/
theorem grouped_faithful_least :
    let n : Int := -9007199254740992
    n.natAbs ≤ 2 ^ 53 ∧ IsInt (ofInt n) n ∧
      (ofInt n).grouped.filter (· ≠ ',') = "-9007199254740992".toList ∧
      (ofInt n).grouped = "-9,007,199,254,740,992".toList := by
  intro n
  have hn : n.natAbs ≤ 2 ^ 53 := by decide
  obtain ⟨hexact, hprinted⟩ := grouped_faithful n
  exact ⟨hn, hexact hn, (hprinted _ (hexact hn)).1, by decide +kernel⟩

/-- Zero has no minus when it is printed. -/
example : IsInt (finite true 0) 0 ∧ (finite true 0).grouped = "0".toList :=
  ⟨.finite (by decide +kernel), by decide +kernel⟩

end PageLint.Binary64
