import Mathlib.Data.String.Basic
import InstallerPackage.Text.Integer

/-!
# Numerals

The decimal numeral of a number, as a cell of a table shows it, is read as that number:
`Integer.parse?_toString`.
-/

namespace InstallerPackage.Integer

variable {c : Char} {text : List Char}

theorem toList_toString (n : Nat) : (toString n).toList = Nat.toDigits 10 n := Nat.toList_repr

theorem isDigit_of_mem_toDigits {n : Nat} (h : c ∈ Nat.toDigits 10 n) : c.isDigit = true :=
  Nat.isDigit_of_mem_toDigits (by decide) (by decide) h

/-- The value of an ASCII digit. -/
def valueOf (c : Char) : Nat := c.toNat - '0'.toNat

theorem toNat_of_isDigit (h : c.isDigit = true) : 48 ≤ c.toNat ∧ c.toNat ≤ 57 := by
  rw [Char.isDigit, Bool.and_eq_true, decide_eq_true_eq, decide_eq_true_eq] at h
  exact ⟨UInt32.le_iff_toNat_le.mp h.1, UInt32.le_iff_toNat_le.mp h.2⟩

theorem digit?_of_isDigit (h : c.isDigit = true) : digit? c = some (valueOf c) := by
  have hc := toNat_of_isDigit h
  rw [digit?, zeros, List.find?_cons_of_pos]
  · rfl
  · rw [Bool.and_eq_true, decide_eq_true_eq, decide_eq_true_eq]
    omega

theorem not_isBlank_of_isDigit (h : c.isDigit = true) : isBlank c = false := by
  have hc := toNat_of_isDigit h
  unfold isBlank
  simp only [Bool.or_eq_false_iff, Bool.and_eq_false_iff, decide_eq_false_iff_not,
    beq_eq_false_iff_ne]
  omega

theorem ne_of_isDigit {d : Char} (h : c.isDigit = true) (hd : d.isDigit = false) : c ≠ d := by
  rintro rfl
  rw [h] at hd
  cases hd

/-- Digits without anything between them are each read as what they are. -/
theorem digits?_of_isDigit (hne : text ≠ []) (h : ∀ c ∈ text, c.isDigit = true) :
    digits? text = some (text.map valueOf) := by
  -- on the digits; an underscore would be skipped, but there is none between them
  induction text with
  | nil => exact absurd rfl hne
  | cons c rest ih =>
    have hc := digit?_of_isDigit (h c (List.mem_cons_self ..))
    cases rest with
    | nil => rw [digits?, hc, Option.map_some, List.map_singleton]
    | cons c' rest =>
      have hrest : ∀ c ∈ c' :: rest, c.isDigit = true := fun c hc => h c (List.mem_cons_of_mem _ hc)
      have hunderscore : c' ≠ '_' := ne_of_isDigit (hrest c' (List.mem_cons_self ..)) (by decide)
      rw [digits?]
      · rw [hc, ih (List.cons_ne_nil _ _) hrest]
        rfl
      · simp
      · rintro rest' h
        exact hunderscore (List.cons.inj h).1

theorem dropWhile_isBlank_of_isDigit (h : ∀ c ∈ text, c.isDigit = true) :
    text.dropWhile isBlank = text := by
  cases text with
  | nil => rfl
  | cons c rest =>
    have hblank := not_isBlank_of_isDigit (h c (List.mem_cons_self ..))
    exact List.dropWhile_cons_of_neg (by rw [hblank]; exact Bool.false_ne_true)

theorem strip_of_isDigit (h : ∀ c ∈ text, c.isDigit = true) : strip text = text := by
  have hreverse : ∀ c ∈ text.reverse, c.isDigit = true := fun c hc => h c (List.mem_reverse.mp hc)
  rw [strip, dropWhile_isBlank_of_isDigit h, dropWhile_isBlank_of_isDigit hreverse,
    List.reverse_reverse]

theorem ofDigits_map_valueOf (text : List Char) :
    ofDigits (text.map valueOf) = Nat.ofDigitChars 10 text 0 := by
  rw [ofDigits, List.foldl_map, Nat.ofDigitChars]
  rfl

/-- A numeral is read as the number it stands for, unless it is longer than any number may be. -/
theorem parse?_toString {n : Nat} (h : n < 10 ^ digitLimit) :
    parse? (toString n) = some (n : Int) := by
  -- the numeral is a list of digits, not empty and not too long
  have hdigits : ∀ c ∈ Nat.toDigits 10 n, c.isDigit = true := fun _ => isDigit_of_mem_toDigits
  have hne : Nat.toDigits 10 n ≠ [] := Nat.toDigits_ne_nil
  have hlength : (Nat.toDigits 10 n).length ≤ digitLimit :=
    (Nat.length_toDigits_le_iff (by decide) (by decide)).mpr h
  have hmagnitude : magnitude? (Nat.toDigits 10 n) = some n := by
    rw [magnitude?, digits?_of_isDigit hne hdigits, Option.bind_some, List.length_map, if_pos hlength,
      ofDigits_map_valueOf, Nat.ofDigitChars_toDigits (by decide) (by decide)]
  -- a numeral does not begin with a sign
  rw [parse?, toList_toString, strip_of_isDigit hdigits]
  split
  · next rest heq =>
    exact absurd (hdigits '-' (heq ▸ List.mem_cons_self ..)) (by decide)
  · next rest heq =>
    exact absurd (hdigits '+' (heq ▸ List.mem_cons_self ..)) (by decide)
  · rw [hmagnitude]
    rfl

end InstallerPackage.Integer
