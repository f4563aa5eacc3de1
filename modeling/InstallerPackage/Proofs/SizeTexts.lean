import Mathlib.Algebra.Order.Field.Rat
import Mathlib.Algebra.Order.AbsoluteValue.Basic
import Mathlib.Data.List.TakeWhile
import Mathlib.Tactic.IntervalCases
import Mathlib.Tactic.LinearCombination
import Mathlib.Tactic.Linarith
import Mathlib.Tactic.Ring
import InstallerPackage.Proofs.Numerals
import InstallerPackage.Text.Size

/-!
# Sizes are written exactly, and in order

`Size.render_exact_and_mono` says what the text of a size stands for. A number passes two roundings
on its way into a text: to fifty-three bits, and to hundredths of a unit.

* Below `2 ^ 53` the first one changes nothing, and the second one is the only loss: `IsNearest`
  says which number of hundredths is meant.
* Both roundings keep the order (`roundDiv_mono`, `significant_mono`). Where two numbers are written
  in different units, one of the greater unit stands between them (`shown_le`, `le_shown`), also
  where 1024.00 of one unit are followed by 1.00 of the next one.
* `Size.scale` divides by 1024 again and again, with a rounding for each division. A quotient by
  1024 has the bits of the number that is divided, and so these roundings do nothing
  (`exists_scale_eq`).

`quantity?` reads a text back, and `exists_render` says that it reads `shown`, the quantity in
hundredths of a byte for which the order is proved.
-/

namespace InstallerPackage

variable {n m d q : Nat}

/-! ### Rounding a quotient -/

theorem div_le_roundDiv (n d : Nat) : n / d ≤ roundDiv n d := by
  unfold roundDiv
  dsimp only
  split
  · exact Nat.le_succ _
  · exact Nat.le_refl _

theorem roundDiv_le_succ (n d : Nat) : roundDiv n d ≤ n / d + 1 := by
  unfold roundDiv
  dsimp only
  split
  · exact Nat.le_refl _
  · exact Nat.le_succ _

/-- A quotient without a remainder is not changed. -/
theorem roundDiv_mul (q : Nat) (hd : 0 < d) : roundDiv (q * d) d = q := by
  have hdown : ¬ (d < 2 * 0 ∨ (d = 2 * 0 ∧ q % 2 = 1)) := by omega
  rw [roundDiv, Nat.mul_div_cancel q hd, Nat.mul_mod_left]
  exact if_neg hdown

theorem roundDiv_mono (h : n ≤ m) (d : Nat) : roundDiv n d ≤ roundDiv m d := by
  -- the quotients differ by one at least, which rounding cannot make up for, or they are the same
  rcases Nat.lt_or_eq_of_le (Nat.div_le_div_right (c := d) h) with hlt | heq
  · calc roundDiv n d ≤ n / d + 1 := roundDiv_le_succ n d
      _ ≤ m / d := hlt
      _ ≤ roundDiv m d := div_le_roundDiv m d
  · -- with one quotient for both the remainders decide
    have hrem : n % d ≤ m % d := by
      have hn := Nat.div_add_mod n d
      have hm := Nat.div_add_mod m d
      rw [heq] at hn
      omega
    unfold roundDiv
    dsimp only
    rw [heq]
    split
    · next hup =>
      rw [if_pos (by omega)]
    · split
      · exact Nat.le_succ _
      · exact Nat.le_refl _

theorem roundDiv_le_of_le_mul (hd : 0 < d) (h : n ≤ q * d) : roundDiv n d ≤ q :=
  calc roundDiv n d ≤ roundDiv (q * d) d := roundDiv_mono h d
    _ = q := roundDiv_mul q hd

theorem le_roundDiv_of_mul_le (hd : 0 < d) (h : q * d ≤ n) : q ≤ roundDiv n d :=
  calc q = roundDiv (q * d) d := (roundDiv_mul q hd).symm
    _ ≤ roundDiv n d := roundDiv_mono h d

/-- `q` is a nearest number to `x`, and the even one of two nearest ones. -/
structure IsNearest (x : ℚ) (q : Nat) : Prop where
  near : |x - q| ≤ 1 / 2
  tie : |x - q| = 1 / 2 → Even q

theorem even_roundDiv (hd : 0 < d)
    (h : 2 * n = 2 * (roundDiv n d * d) + d ∨ 2 * n + d = 2 * (roundDiv n d * d)) :
    Even (roundDiv n d) := by
  have hn := Nat.div_add_mod' n d
  have hmod := Nat.mod_lt n hd
  rw [Nat.even_iff]
  unfold roundDiv at h ⊢
  dsimp only at h ⊢
  -- a tie is rounded up only from an odd quotient, and down only from an even one
  split at h
  · next hup =>
    rw [Nat.add_mul] at h
    rw [if_pos hup]
    omega
  · next hdown =>
    rw [if_neg hdown]
    omega

theorem isNearest_roundDiv (n : Nat) (hd : 0 < d) : IsNearest ((n : ℚ) / d) (roundDiv n d) := by
  have hdq : (0 : ℚ) < d := by exact_mod_cast hd
  have hup : 2 * ((roundDiv n d : ℚ) * d) ≤ 2 * n + d := by
    exact_mod_cast roundDiv_mul_le n hd
  have hdown : 2 * (n : ℚ) ≤ 2 * (roundDiv n d * d) + d := by
    exact_mod_cast le_roundDiv_mul n hd
  -- all bounds are taken to multiples of `d`, where they are about whole numbers
  have hx : (n : ℚ) = n / d * d := (div_mul_cancel₀ _ hdq.ne').symm
  constructor
  · have hlow : (roundDiv n d : ℚ) - 1 / 2 ≤ n / d := (le_div_iff₀ hdq).mpr (by linarith)
    have hhigh : (n : ℚ) / d ≤ roundDiv n d + 1 / 2 := (div_le_iff₀ hdq).mpr (by linarith)
    rw [abs_le]
    constructor <;> linarith
  · intro h
    apply even_roundDiv hd
    -- a distance of one half is a tie on one of the two sides
    rcases eq_or_eq_neg_of_abs_eq h with h | h
    · left
      have : 2 * (n : ℚ) = 2 * (roundDiv n d * d) + d := by
        linear_combination 2 * hx + 2 * d * h
      exact_mod_cast this
    · right
      have : 2 * (n : ℚ) + d = 2 * (roundDiv n d * d) := by
        linear_combination 2 * hx + 2 * d * h
      exact_mod_cast this

namespace Size

open Integer (toList_toString isDigit_of_mem_toDigits)

/-! ### Fifty-three bits -/

theorem bound_eq : bound = 2 ^ 1024 - 2 ^ 970 := by
  have hshift : ∀ a b : Nat, (1 <<< a) - (1 <<< b) = 2 ^ a - 2 ^ b := fun a b => by
    rw [Nat.one_shiftLeft, Nat.one_shiftLeft]
  exact hshift 1024 970

theorem significant_eq (h : n < 2 ^ 53) : significant n = n := by
  -- all bits of the number count
  have hlog : n.log2 + 1 - precision = 0 := by
    rcases Nat.eq_zero_or_pos n with rfl | hpos
    · rfl
    · have := (Nat.log2_lt hpos.ne').mpr h
      rw [precision]
      omega
  have hround := roundDiv_mul n Nat.one_pos
  rw [Nat.mul_one] at hround
  rw [significant, hlog]
  show roundDiv n 1 * 1 = n
  rw [Nat.mul_one, hround]

theorem significant_eq_mul (n : Nat) :
    significant n = roundDiv n (2 ^ (n.log2 + 1 - precision)) * 2 ^ (n.log2 + 1 - precision) := by
  rw [significant, Nat.one_shiftLeft]

/-- Rounding does not lead beyond the powers of two on both sides. -/
theorem significant_le (n : Nat) : significant n ≤ 2 ^ (n.log2 + 1) := by
  -- a power of two is a multiple of what the last bit stands for
  have hsplit := Nat.pow_sub_mul_pow 2 (Nat.sub_le (n.log2 + 1) precision)
  calc significant n
      = roundDiv n (2 ^ (n.log2 + 1 - precision)) * 2 ^ (n.log2 + 1 - precision) :=
        significant_eq_mul n
    _ ≤ 2 ^ (n.log2 + 1 - (n.log2 + 1 - precision)) * 2 ^ (n.log2 + 1 - precision) := by
        refine Nat.mul_le_mul_right _ (roundDiv_le_of_le_mul (Nat.two_pow_pos _) ?_)
        rw [hsplit]
        exact Nat.lt_log2_self.le
    _ = 2 ^ (n.log2 + 1) := hsplit

theorem le_significant (hn : n ≠ 0) : 2 ^ n.log2 ≤ significant n := by
  -- the last bit stands for a power of two that divides the lower bound
  have hle : n.log2 + 1 - precision ≤ n.log2 := by
    rw [precision]
    omega
  have hsplit := Nat.pow_sub_mul_pow 2 hle
  calc 2 ^ n.log2
      = 2 ^ (n.log2 - (n.log2 + 1 - precision)) * 2 ^ (n.log2 + 1 - precision) := hsplit.symm
    _ ≤ roundDiv n (2 ^ (n.log2 + 1 - precision)) * 2 ^ (n.log2 + 1 - precision) := by
        refine Nat.mul_le_mul_right _ (le_roundDiv_of_mul_le (Nat.two_pow_pos _) ?_)
        rw [hsplit]
        exact Nat.log2_self_le hn
    _ = significant n := (significant_eq_mul n).symm

theorem significant_mono (h : n ≤ m) : significant n ≤ significant m := by
  rcases Nat.eq_zero_or_pos n with rfl | hpos
  · exact Nat.zero_le _
  have hlog : n.log2 ≤ m.log2 :=
    (Nat.le_log2 (by omega)).mpr ((Nat.log2_self_le hpos.ne').trans h)
  rcases Nat.lt_or_eq_of_le hlog with hlt | heq
  · -- a power of two stands between them
    calc significant n ≤ 2 ^ (n.log2 + 1) := significant_le n
      _ ≤ 2 ^ m.log2 := Nat.pow_le_pow_right Nat.two_pos hlt
      _ ≤ significant m := le_significant (by omega)
  · rw [significant_eq_mul, significant_eq_mul, heq]
    exact Nat.mul_le_mul_right _ (roundDiv_mono h _)

/-! ### Units -/

/-- The names of the units, the byte first. -/
def unitName (k : Nat) : String := ("Bytes" :: units).getD k ""

theorem unit_pos (k : Nat) : 0 < 1024 ^ k := Nat.pow_pos (by decide)

theorem unit_mono {j k : Nat} (h : j ≤ k) : 1024 ^ j ≤ 1024 ^ k :=
  Nat.pow_le_pow_right (by decide) h

/-- The greatest unit is known by what it is reached by, and the next one is not. -/
theorem isGreatest_of_reached {k : Nat} (hone : 1 ≤ k) (hfour : k ≤ 4) (hle : 1024 ^ k ≤ n)
    (hnext : k < 4 → n < 1024 ^ (k + 1)) : IsGreatest {k | 1 ≤ k ∧ k ≤ 4 ∧ 1024 ^ k ≤ n} k := by
  refine ⟨⟨hone, hfour, hle⟩, fun j hj => ?_⟩
  by_contra hlt
  have hkj : k + 1 ≤ j := Nat.lt_of_not_le hlt
  have hreached : 1024 ^ (k + 1) ≤ n :=
    calc 1024 ^ (k + 1) ≤ 1024 ^ j := unit_mono hkj
      _ ≤ n := hj.2.2
  exact absurd (hnext (Nat.lt_of_lt_of_le hkj hj.2.1)) (Nat.not_lt.mpr hreached)

/-- A number is shown in the greatest unit above the byte that it is not smaller than. -/
theorem isGreatest_unitIndex (h : 1024 ≤ n) :
    IsGreatest {k | 1 ≤ k ∧ k ≤ 4 ∧ 1024 ^ k ≤ n} (unitIndex n) := by
  have hmega : 1 <<< 20 = 1024 ^ 2 := rfl
  have hgiga : 1 <<< 30 = 1024 ^ 3 := rfl
  have htera : 1 <<< 40 = 1024 ^ 4 := rfl
  unfold unitIndex
  rw [hmega, hgiga, htera]
  -- one comparison for each unit; what was not less has reached the unit before
  split
  · next hlt => exact isGreatest_of_reached (by decide) (by decide) h fun _ => hlt
  next hge =>
  split
  · next hlt =>
    exact isGreatest_of_reached (by decide) (by decide) (Nat.not_lt.mp hge) fun _ => hlt
  next hge =>
  split
  · next hlt =>
    exact isGreatest_of_reached (by decide) (by decide) (Nat.not_lt.mp hge) fun _ => hlt
  next hge =>
  -- there is no unit above the last one
  exact isGreatest_of_reached (by decide) (Nat.le_refl 4) (Nat.not_lt.mp hge)
    fun h => absurd h (Nat.lt_irrefl 4)

theorem unitIndex_mono (hn : 1024 ≤ n) (h : n ≤ m) : unitIndex n ≤ unitIndex m := by
  obtain ⟨hone, hfour, hle⟩ := (isGreatest_unitIndex hn).1
  exact (isGreatest_unitIndex (hn.trans h)).2 ⟨hone, hfour, hle.trans h⟩

/-! ### What is shown -/

/-- What is shown of a number, in hundredths of a byte. -/
def shown (n : Nat) : Nat :=
  if n < 1024 then 100 * n
  else
    let k := unitIndex (significant n)
    roundDiv (100 * significant n) (1024 ^ k) * 1024 ^ k

theorem shown_of_lt (h : n < 1024) : shown n = 100 * n := by rw [shown, if_pos h]

theorem shown_of_le (h : 1024 ≤ n) :
    shown n = roundDiv (100 * significant n) (1024 ^ unitIndex (significant n)) *
      1024 ^ unitIndex (significant n) := by
  rw [shown, if_neg (Nat.not_lt.mpr h)]

theorem thousand_le_significant (h : 1024 ≤ n) : 1024 ≤ significant n :=
  calc 1024 = significant 1024 := (significant_eq (by decide)).symm
    _ ≤ significant n := significant_mono h

theorem thousand_le_of_le_significant (h : 1024 ≤ significant n) : 1024 ≤ n := by
  by_contra hlt
  have hn : n < 2 ^ 53 := (Nat.lt_of_not_le hlt).trans (by decide)
  rw [significant_eq hn] at h
  exact hlt h

/-- At least one is shown of the unit. -/
theorem le_shown (h : 1024 ≤ n) : 100 * 1024 ^ unitIndex (significant n) ≤ shown n := by
  have hle := (isGreatest_unitIndex (thousand_le_significant h)).1.2.2
  rw [shown_of_le h]
  exact Nat.mul_le_mul_right _
    (le_roundDiv_of_mul_le (unit_pos _) (Nat.mul_le_mul_left 100 hle))

/-- Where there is a greater unit, at most one of that is shown. -/
theorem shown_le (h : 1024 ≤ n) (hk : unitIndex (significant n) < 4) :
    shown n ≤ 100 * 1024 ^ (unitIndex (significant n) + 1) := by
  have hgreatest := isGreatest_unitIndex (thousand_le_significant h)
  have hlt : significant n < 1024 ^ (unitIndex (significant n) + 1) := by
    -- the next unit would have been taken otherwise
    by_contra hge
    have := hgreatest.2 ⟨Nat.le_add_left _ _, hk, Nat.not_lt.mp hge⟩
    omega
  rw [shown_of_le h, Nat.pow_succ', ← Nat.mul_assoc]
  refine Nat.mul_le_mul_right _ (roundDiv_le_of_le_mul (unit_pos _) ?_)
  rw [Nat.mul_assoc, ← Nat.pow_succ']
  exact Nat.mul_le_mul_left 100 hlt.le

/-- A greater number never shows less. -/
theorem shown_mono (h : n ≤ m) : shown n ≤ shown m := by
  -- three cases: no unit on either side, a unit on the greater side only, units on both
  rcases Nat.lt_or_ge m 1024 with hm | hm
  · rw [shown_of_lt hm, shown_of_lt (Nat.lt_of_le_of_lt h hm)]
    exact Nat.mul_le_mul_left 100 h
  rcases Nat.lt_or_ge n 1024 with hn | hn
  · calc shown n = 100 * n := shown_of_lt hn
      _ ≤ 100 * 1024 ^ 1 := Nat.mul_le_mul_left 100 hn.le
      _ ≤ 100 * 1024 ^ unitIndex (significant m) := by
        have hone := (isGreatest_unitIndex (thousand_le_significant hm)).1.1
        exact Nat.mul_le_mul_left 100 (unit_mono hone)
      _ ≤ shown m := le_shown hm
  have hs := significant_mono h
  rcases Nat.lt_or_eq_of_le (unitIndex_mono (thousand_le_significant hn) hs) with hlt | heq
  · -- at most one of the next unit against at least one of a unit that is not smaller
    have hfour := (isGreatest_unitIndex (thousand_le_significant hm)).1.2.1
    calc shown n ≤ 100 * 1024 ^ (unitIndex (significant n) + 1) :=
          shown_le hn (Nat.lt_of_lt_of_le hlt hfour)
      _ ≤ 100 * 1024 ^ unitIndex (significant m) :=
          Nat.mul_le_mul_left 100 (unit_mono hlt)
      _ ≤ shown m := le_shown hm
  · rw [shown_of_le hn, shown_of_le hm, heq]
    exact Nat.mul_le_mul_right _ (roundDiv_mono (Nat.mul_le_mul_left 100 hs) _)

/-! ### Reading a text -/

/-- The number that digits stand for, with or without a point among them. -/
def decimal? (text : List Char) : Option ℚ :=
  let whole := text.takeWhile Char.isDigit
  match text.dropWhile Char.isDigit with
  | [] => some (Nat.ofDigitChars 10 whole 0)
  | '.' :: places =>
    if places.all Char.isDigit then
      some (Nat.ofDigitChars 10 (whole ++ places) 0 / 10 ^ places.length)
    else none
  | _ => none

/-- The number of bytes that a text stands for: a number, a space, and the name of a unit. -/
def quantity? (text : String) : Option ℚ :=
  let unit := String.ofList ((text.toList.dropWhile (· ≠ ' ')).drop 1)
  (("Bytes" :: units).idxOf? unit).bind fun k =>
    (decimal? (text.toList.takeWhile (· ≠ ' '))).map (· * 1024 ^ k)

theorem quantity?_append {number unit : String} {k : Nat} {x : ℚ} (hspace : ' ' ∉ number.toList)
    (hunit : ("Bytes" :: units).idxOf? unit = some k) (hnumber : decimal? number.toList = some x) :
    quantity? (number ++ " " ++ unit) = some (x * 1024 ^ k) := by
  have htext : (number ++ " " ++ unit).toList = number.toList ++ ' ' :: unit.toList := by
    rw [String.toList_append, String.toList_append, List.append_assoc]
    rfl
  -- the number ends at the first space, as there is none in it
  have hne : ∀ c ∈ number.toList, decide (c ≠ ' ') = true := fun c hc =>
    decide_eq_true fun h => hspace (h ▸ hc)
  have htake : (number.toList ++ ' ' :: unit.toList).takeWhile (· ≠ ' ') = number.toList := by
    rw [List.takeWhile_append_of_pos hne]
    exact List.append_nil _
  have hdrop : (number.toList ++ ' ' :: unit.toList).dropWhile (· ≠ ' ') = ' ' :: unit.toList := by
    rw [List.dropWhile_append_of_pos hne]
    rfl
  rw [quantity?, htext, htake, hdrop, List.drop_succ_cons, List.drop_zero, String.ofList_toList,
    hunit, hnumber]
  rfl

/-- Digits with a point among them. -/
theorem decimal?_append_point {whole places : List Char} (hwhole : ∀ c ∈ whole, c.isDigit = true)
    (hplaces : ∀ c ∈ places, c.isDigit = true) :
    decimal? (whole ++ '.' :: places) =
      some ((Nat.ofDigitChars 10 (whole ++ places) 0 : ℚ) / 10 ^ places.length) := by
  have htake : (whole ++ '.' :: places).takeWhile Char.isDigit = whole := by
    rw [List.takeWhile_append_of_pos hwhole]
    exact List.append_nil _
  have hdrop : (whole ++ '.' :: places).dropWhile Char.isDigit = '.' :: places := by
    rw [List.dropWhile_append_of_pos hwhole]
    rfl
  rw [decimal?, htake, hdrop]
  exact if_pos (List.all_eq_true.mpr hplaces)

theorem decimal?_toString (n : Nat) : decimal? (toString n).toList = some (n : ℚ) := by
  have hdigit : ∀ c ∈ Nat.toDigits 10 n, c.isDigit = true := fun c => isDigit_of_mem_toDigits
  rw [toList_toString, decimal?, List.takeWhile_eq_self_iff.mpr hdigit,
    List.dropWhile_eq_nil_iff.mpr hdigit, Nat.ofDigitChars_ten_toDigits]

/-- The digits in front of the point, and the two behind it. -/
theorem toList_hundredths (n : Nat) :
    (hundredths n).toList = Nat.toDigits 10 (n / 100) ++
      '.' :: (Nat.toDigits 10 (n % 100 / 10) ++ Nat.toDigits 10 (n % 10)) := by
  rw [hundredths, String.toList_append, String.toList_append, String.toList_append,
    toList_toString, toList_toString, toList_toString, List.append_assoc, List.append_assoc]
  rfl

theorem decimal?_hundredths (n : Nat) : decimal? (hundredths n).toList = some ((n : ℚ) / 100) := by
  -- two digits behind the point, each of them less than ten
  have htens : n % 100 / 10 < 10 := Nat.div_lt_of_lt_mul (Nat.mod_lt n (by decide))
  have hones : n % 10 < 10 := Nat.mod_lt n (by decide)
  have hplaces : ∀ c ∈ Nat.toDigits 10 (n % 100 / 10) ++ Nat.toDigits 10 (n % 10),
      c.isDigit = true := fun c hc =>
    (List.mem_append.mp hc).elim isDigit_of_mem_toDigits isDigit_of_mem_toDigits
  rw [toList_hundredths, decimal?_append_point (fun c => isDigit_of_mem_toDigits) hplaces,
    Nat.toDigits_of_lt_base htens, Nat.toDigits_of_lt_base hones]
  -- read as digits, the whole part and the places make up the number again
  have hvalue : Nat.ofDigitChars 10 (Nat.toDigits 10 (n / 100) ++
      ([Nat.digitChar (n % 100 / 10)] ++ [Nat.digitChar (n % 10)])) 0 = n := by
    rw [Nat.ofDigitChars_append, Nat.ofDigitChars_ten_toDigits, List.singleton_append,
      Nat.ofDigitChars_cons_digitChar_of_lt_ten htens,
      Nat.ofDigitChars_cons_digitChar_of_lt_ten hones, Nat.ofDigitChars_nil]
    omega
  have hlength : ([Nat.digitChar (n % 100 / 10)] ++ [Nat.digitChar (n % 10)]).length = 2 := rfl
  rw [hvalue, hlength]
  norm_num

theorem space_not_mem_toDigits (n : Nat) : ' ' ∉ Nat.toDigits 10 n := fun h =>
  absurd (isDigit_of_mem_toDigits h) (by decide)

theorem space_not_mem_hundredths (n : Nat) : ' ' ∉ (hundredths n).toList := by
  rw [toList_hundredths, List.mem_append, List.mem_cons, List.mem_append]
  rintro (h | h | h | h)
  · exact space_not_mem_toDigits _ h
  · exact absurd h (by decide)
  · exact space_not_mem_toDigits _ h
  · exact space_not_mem_toDigits _ h

/-! ### Texts -/

theorem not_bound_le (hn : n < bound) : ¬ bound ≤ (n : Int).natAbs := by
  rw [Int.natAbs_natCast]
  exact Nat.not_le.mpr hn

theorem render_of_lt (h : n < 1024) : render n = .ok (toString n ++ " Bytes") := by
  have hn : n < bound := h.trans_le (by decide)
  rw [render, if_neg (not_bound_le hn), if_pos (by exact_mod_cast h)]
  rfl

theorem render_of_le (h : 1024 ≤ n) (hn : n < bound) :
    render n = .ok
      (hundredths (roundDiv (100 * significant n) (1024 ^ unitIndex (significant n))) ++ " " ++
        unitName (unitIndex (significant n))) := by
  have hsmall : ¬ (n : Int) < 1024 := by exact_mod_cast Nat.not_lt.mpr h
  have hshift : 1 <<< (10 * unitIndex (significant n)) = 1024 ^ unitIndex (significant n) := by
    rw [Nat.one_shiftLeft, Nat.pow_mul]
  have hname : units.getD (unitIndex (significant n) - 1) "" =
      unitName (unitIndex (significant n)) := by
    have hone := (isGreatest_unitIndex (thousand_le_significant h)).1.1
    obtain ⟨k, hk⟩ := Nat.exists_eq_add_of_le' hone
    rw [hk]
    rfl
  rw [render, if_neg (not_bound_le hn), if_neg hsmall, Int.toNat_natCast]
  dsimp only
  rw [hshift, hname]

theorem idxOf?_unitName {k : Nat} (h : k ≤ 4) :
    ("Bytes" :: units).idxOf? (unitName k) = some k := by
  interval_cases k <;> rfl

/-- The text of a number is read as the quantity that is shown of it. -/
theorem exists_render (hn : n < bound) :
    ∃ text, render n = .ok text ∧ quantity? text = some ((shown n : ℚ) / 100) := by
  rcases Nat.lt_or_ge n 1024 with h | h
  · -- below 1024: bytes, with no places
    refine ⟨_, render_of_lt h, ?_⟩
    have hspace : ' ' ∉ (toString n).toList := by
      rw [toList_toString]
      exact space_not_mem_toDigits n
    have htext : toString n ++ " Bytes" = toString n ++ " " ++ unitName 0 := by
      rw [String.append_assoc]
      rfl
    rw [htext, quantity?_append hspace (idxOf?_unitName (Nat.zero_le 4)) (decimal?_toString n),
      shown_of_lt h]
    congr 1
    push_cast
    ring
  · -- a unit above the byte, with two places
    refine ⟨_, render_of_le h hn, ?_⟩
    have hfour := (isGreatest_unitIndex (thousand_le_significant h)).1.2.1
    rw [quantity?_append (space_not_mem_hundredths _) (idxOf?_unitName hfour)
      (decimal?_hundredths _), shown_of_le h]
    congr 1
    push_cast
    ring

/-! ### Dividing again and again -/

/-- The numbers that fifty-three bits and an exponent can hold. -/
def IsShort (x : ℚ) : Prop := ∃ (bits : Nat) (e : Int), bits ≤ 2 ^ 53 ∧ x = bits * 2 ^ e

theorem isShort_significant (n : Nat) : IsShort (significant n) := by
  refine ⟨roundDiv n (2 ^ (n.log2 + 1 - precision)), ((n.log2 + 1 - precision : Nat) : Int), ?_, ?_⟩
  · -- the quotient needs no more bits than the number is allowed
    refine roundDiv_le_of_le_mul (Nat.two_pow_pos _) ?_
    rw [← Nat.pow_add]
    calc n ≤ 2 ^ (n.log2 + 1) := Nat.lt_log2_self.le
      _ ≤ 2 ^ (53 + (n.log2 + 1 - precision)) := Nat.pow_le_pow_right Nat.two_pos (by
        rw [precision]
        omega)
  · rw [significant_eq_mul, zpow_natCast]
    push_cast
    rfl

/-- A quotient by 1024 has the same bits. -/
theorem IsShort.div {x : ℚ} (h : IsShort x) : IsShort (x / 1024) := by
  obtain ⟨bits, e, hbits, rfl⟩ := h
  refine ⟨bits, e - 10, hbits, ?_⟩
  rw [zpow_sub₀ two_ne_zero, mul_div_assoc]
  norm_num

/-- A number is not rounded up to a power of two that it is less than by more than half of the last
one of fifty-three bits. -/
theorem significant_lt {top half : Nat} (htop : half + 54 = top) (hn : n < 2 ^ top - 2 ^ half) :
    (significant n : ℚ) < 2 ^ top := by
  suffices h : significant n < 2 ^ top by exact_mod_cast h
  have hlog : n.log2 + 1 ≤ top := by
    rcases Nat.eq_zero_or_pos n with rfl | hpos
    · exact htop ▸ Nat.le_add_left 1 (half + 53)
    · exact (Nat.log2_lt hpos.ne').mpr (hn.trans_le (Nat.sub_le _ _))
  -- with fewer bits the power of two above the number is small enough
  rcases Nat.lt_or_eq_of_le hlog with hlt | heq
  · calc significant n ≤ 2 ^ (n.log2 + 1) := significant_le n
      _ < 2 ^ top := Nat.pow_lt_pow_right Nat.one_lt_two hlt
  · -- with all bits the last of them is worth twice `half`, so rounding adds `half` at most
    have hunit : 2 ^ (n.log2 + 1 - precision) = 2 * 2 ^ half := by
      rw [heq, precision, ← Nat.pow_succ', ← htop]
      rfl
    have hround := roundDiv_mul_le n (Nat.two_pow_pos (n.log2 + 1 - precision))
    rw [← significant_eq_mul, hunit] at hround
    omega

/-- Divides by 1024 as long as there is at least 1024 of a unit and a greater one, and counts the
divisions. Every quotient is rounded by `fl`. -/
def scale (fl : ℚ → ℚ) : (greater : Nat) → ℚ → Nat × ℚ
  | 0, x => (0, x)
  | greater + 1, x =>
    if 1024 ≤ x then
      let (k, y) := scale fl greater (fl (x / 1024))
      (k + 1, y)
    else (0, x)

/-- The divisions are exact, and end at the greatest unit that the number reaches. -/
theorem exists_scale_eq {fl : ℚ → ℚ} {top : ℚ}
    (hfl : ∀ x, IsShort x → 1 ≤ x → x < top → fl x = x) (greater : Nat) {x : ℚ} (hx : IsShort x)
    (htop : x < top) :
    ∃ k, scale fl greater x = (k, x / 1024 ^ k) ∧ k ≤ greater ∧ (k = 0 ∨ 1024 ^ k ≤ x) ∧
      (k < greater → x < 1024 ^ (k + 1)) := by
  -- on the number of units that are left; a quotient of a short number is short, so nothing is rounded
  induction greater generalizing x with
  | zero =>
    refine ⟨0, ?_, Nat.le_refl 0, .inl rfl, fun h => absurd h (Nat.not_lt_zero 0)⟩
    rw [scale, pow_zero, div_one]
  | succ greater ih =>
    rw [scale]
    by_cases h : 1024 ≤ x
    · have hone : 1 ≤ x / 1024 := by linarith
      have hless : x / 1024 < top := by linarith
      rw [if_pos h, hfl _ hx.div hone hless]
      obtain ⟨k, hscale, hk, hreached, hnext⟩ := ih hx.div hless
      refine ⟨k + 1, ?_, Nat.succ_le_succ hk, .inr ?_, fun hlt => ?_⟩
      · rw [hscale, pow_succ', div_div]
      · rcases hreached with rfl | hle
        · simpa using h
        · rw [pow_succ]
          linarith
      · have := hnext (Nat.lt_of_succ_lt_succ hlt)
        rw [pow_succ]
        linarith
    · -- less than one unit: the divisions end here
      rw [if_neg h]
      refine ⟨0, by rw [pow_zero, div_one], Nat.zero_le _, .inl rfl, fun _ => ?_⟩
      rw [zero_add, pow_one]
      exact not_le.mp h

/-- The number of divisions tells the unit. -/
theorem eq_unitIndex {k : Nat} (h : 1024 ≤ n) (hk : k ≤ 4)
    (hreached : k = 0 ∨ (1024 : ℚ) ^ k ≤ n) (hnext : k < 4 → (n : ℚ) < 1024 ^ (k + 1)) :
    k = unitIndex n := by
  -- at least one division was made, since the number is large enough for one
  have hpos : 1 ≤ k := by
    by_contra hzero
    obtain rfl : k = 0 := by omega
    have hlt : n < 1024 := by exact_mod_cast hnext (by decide)
    omega
  have hle : 1024 ^ k ≤ n := by
    have := hreached.resolve_left (Nat.ne_of_gt hpos)
    exact_mod_cast this
  have hgreatest : IsGreatest {k | 1 ≤ k ∧ k ≤ 4 ∧ 1024 ^ k ≤ n} k :=
    isGreatest_of_reached hpos hk hle fun hlt => by exact_mod_cast hnext hlt
  exact hgreatest.unique (isGreatest_unitIndex h)

/-- What is written of a number of at least 1024. -/
theorem exists_isNearest (h : 1024 ≤ n) (hn : n < bound) :
    ∃ q, IsNearest ((significant n : ℚ) / 1024 ^ unitIndex (significant n) * 100) q ∧
      render n = .ok (hundredths q ++ " " ++ unitName (unitIndex (significant n))) := by
  refine ⟨_, ?_, render_of_le h hn⟩
  have hnearest := isNearest_roundDiv (100 * significant n) (unit_pos (unitIndex (significant n)))
  push_cast at hnearest
  rwa [mul_div_assoc, mul_comm] at hnearest

/-- **Sizes are written exactly, and in order.**

* Below `2 ^ 53` a number of less than 1024 is written as it is. Of any other one the text shows the
  quotient by the greatest power of 1024 that it reaches, at most the fourth one, rounded to
  hundredths with ties to even, and the unit that belongs to this power.
* Of two numbers that can be written, the greater one does not read as the smaller quantity.
* The quotient is found by dividing again and again. Whatever rounding the divisions do, if it
  leaves the numbers of fifty-three bits alone, they are exact, and a text shows what they end
  with. -/
theorem render_exact_and_mono :
    (∀ v : Nat, v < 2 ^ 53 →
      (v < 1024 → render v = .ok (toString v ++ " Bytes")) ∧
      (1024 ≤ v → ∃ k q, IsGreatest {k | 1 ≤ k ∧ k ≤ 4 ∧ 1024 ^ k ≤ v} k ∧
        IsNearest ((v : ℚ) / 1024 ^ k * 100) q ∧
        render v = .ok (hundredths q ++ " " ++ unitName k))) ∧
    (∀ v w : Nat, v ≤ w → w < 2 ^ 1024 - 2 ^ 970 →
      ∃ text text' quantity quantity', render v = .ok text ∧ render w = .ok text' ∧
        quantity? text = some quantity ∧ quantity? text' = some quantity' ∧
        quantity ≤ quantity') ∧
    ∀ fl : ℚ → ℚ, (∀ x, IsShort x → 1 ≤ x → x < 2 ^ 1024 → fl x = x) →
      ∀ v : Nat, v < 2 ^ 1024 - 2 ^ 970 → ∃ k y, scale fl 4 (significant v) = (k, y) ∧
        (k = 0 → render v = .ok (toString v ++ " Bytes")) ∧
        (0 < k → ∃ q, IsNearest (y * 100) q ∧
          render v = .ok (hundredths q ++ " " ++ unitName k)) := by
  refine ⟨fun v hv => ⟨render_of_lt, fun h => ?_⟩, fun v w hvw hw => ?_, fun fl hfl v hv => ?_⟩
  · -- below `2 ^ 53` all bits count, so nothing is lost before the division
    obtain ⟨q, hnearest, hrender⟩ := exists_isNearest h (hv.trans_le (by decide))
    rw [significant_eq hv] at hnearest hrender
    exact ⟨unitIndex v, q, isGreatest_unitIndex h, hnearest, hrender⟩
  · rw [← bound_eq] at hw
    obtain ⟨text, htext, hquantity⟩ := exists_render (hvw.trans_lt hw)
    obtain ⟨text', htext', hquantity'⟩ := exists_render hw
    refine ⟨text, text', _, _, htext, htext', hquantity, hquantity', ?_⟩
    have hmono : (shown v : ℚ) ≤ shown w := by exact_mod_cast shown_mono hvw
    linarith
  · -- the loop of divisions comes to the unit that the comparisons pick
    obtain ⟨k, hscale, hk, hreached, hnext⟩ :=
      exists_scale_eq hfl 4 (isShort_significant v) (significant_lt rfl hv)
    rw [← bound_eq] at hv
    refine ⟨k, _, hscale, fun hzero => ?_, fun hpos => ?_⟩
    · refine render_of_lt (Nat.lt_of_not_le fun h => ?_)
      have hunit := eq_unitIndex (thousand_le_significant h) hk hreached hnext
      have hone := (isGreatest_unitIndex (thousand_le_significant h)).1.1
      omega
    · have hle : 1024 ^ k ≤ significant v := by
        exact_mod_cast hreached.resolve_left (Nat.ne_of_gt hpos)
      have h : 1024 ≤ v := thousand_le_of_le_significant <|
        calc 1024 ≤ 1024 ^ k := Nat.le_self_pow (Nat.ne_of_gt hpos) 1024
          _ ≤ significant v := hle
      rw [eq_unitIndex (thousand_le_significant h) hk hreached hnext]
      exact exists_isNearest h hv

/-- Halfway between two texts the even one is taken, both below and above. And where the unit
changes, 1024 of one unit are followed by one of the next. -/
theorem render_exact_and_mono_edges :
    (1152 < 2 ^ 53 ∧ 1024 ≤ 1152 ∧ 1408 < 2 ^ 53 ∧ 1024 ≤ 1408) ∧
    render 1152 = .ok "1.12 KB" ∧ render 1408 = .ok "1.38 KB" ∧
    (∃ k q, IsGreatest {k | 1 ≤ k ∧ k ≤ 4 ∧ 1024 ^ k ≤ 1152} k ∧
      IsNearest (((1152 : Nat) : ℚ) / 1024 ^ k * 100) q ∧
      hundredths q ++ " " ++ unitName k = "1.12 KB") ∧
    (∃ quantity quantity', quantity? "1024.00 KB" = some quantity ∧
      quantity? "1.00 MB" = some quantity' ∧ quantity ≤ quantity') ∧
    ∃ k y, scale id 4 (significant 1048575) = (k, y) ∧ (0 < k → ∃ q, IsNearest (y * 100) q ∧
      hundredths q ++ " " ++ unitName k = "1024.00 KB") := by
  have hdown : render 1152 = .ok "1.12 KB" := by decide
  have hup : render 1408 = .ok "1.38 KB" := by decide
  have hlast : render 1048575 = .ok "1024.00 KB" := by decide
  have hfirst : render 1048576 = .ok "1.00 MB" := by decide
  obtain ⟨hexact, hmono, hscale⟩ := render_exact_and_mono
  have hle : 1048576 < 2 ^ 1024 - 2 ^ 970 := bound_eq ▸ (by decide : 1048576 < bound)
  refine ⟨by decide, hdown, hup, ?_, ?_, ?_⟩
  · obtain ⟨k, q, hk, hq, htext⟩ := (hexact 1152 (by decide)).2 (by decide)
    exact ⟨k, q, hk, hq, (Except.ok.inj (hdown.symm.trans htext)).symm⟩
  · obtain ⟨text, text', a, b, htext, htext', ha, hb, hab⟩ := hmono 1048575 1048576 (by decide) hle
    obtain rfl := Except.ok.inj (hlast.symm.trans htext)
    obtain rfl := Except.ok.inj (hfirst.symm.trans htext')
    exact ⟨a, b, ha, hb, hab⟩
  · obtain ⟨k, y, hky, -, hpos⟩ :=
      hscale id (fun _ _ _ _ => rfl) 1048575 ((Nat.lt_succ_self _).trans hle)
    refine ⟨k, y, hky, fun hk => ?_⟩
    obtain ⟨q, hq, htext⟩ := hpos hk
    exact ⟨q, hq, (Except.ok.inj (hlast.symm.trans htext)).symm⟩

end Size

end InstallerPackage
