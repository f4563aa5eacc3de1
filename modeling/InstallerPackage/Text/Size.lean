/-!
# Sizes for people

`Size.render` writes a number of bytes with a unit: below 1024 as it is, above as a multiple of the
largest power of 1024 that fits, with two decimals. Both roundings on the way go to nearest, and exact
ties go to even:

* the number is first reduced to 53 significant bits (`Size.significant`), which changes nothing below
  `2 ^ 53`;
* the quotient by the unit is then rounded to hundredths (`roundDiv`).

Numbers that round to `2 ^ 1024` or more are refused.
-/

namespace InstallerPackage

/-- The quotient rounded to the nearest number; of two nearest ones the even one. -/
def roundDiv (n d : Nat) : Nat :=
  let q := n / d
  let r := n % d
  if d < 2 * r ∨ (d = 2 * r ∧ q % 2 = 1) then q + 1 else q

/-- Rounding up adds at most half a unit. -/
theorem roundDiv_mul_le (n : Nat) {d : Nat} (h : 0 < d) :
    2 * (roundDiv n d * d) ≤ 2 * n + d := by
  have := Nat.div_add_mod' n d
  have := Nat.mod_lt n h
  unfold roundDiv
  dsimp only
  split
  · rw [Nat.add_mul]
    omega
  · omega

/-- Rounding down takes away at most half a unit. -/
theorem le_roundDiv_mul (n : Nat) {d : Nat} (h : 0 < d) :
    2 * n ≤ 2 * (roundDiv n d * d) + d := by
  have := Nat.div_add_mod' n d
  have := Nat.mod_lt n h
  unfold roundDiv
  dsimp only
  split
  · rw [Nat.add_mul]
    omega
  · omega

namespace Size

/-- Why a size cannot be written. -/
inductive Failure where
  /-- The number is beyond all numbers with 53 significant bits and an exponent below 1024. -/
  | tooLarge
  deriving DecidableEq, Repr

/-- The wording of a failure. -/
def Failure.message : Failure → String
  | tooLarge => "int too large to convert to float"

/-- The bits of a number that count. -/
def precision : Nat := 53

/-- The least number that rounds to `2 ^ 1024`. -/
def bound : Nat := (1 <<< 1024) - (1 <<< 970)

/-- A number rounded to 53 significant bits. -/
def significant (n : Nat) : Nat :=
  let unit := 1 <<< (n.log2 + 1 - precision)
  roundDiv n unit * unit

/-- The units above the byte. -/
def units : List String := ["KB", "MB", "GB", "TB"]

/-- The power of 1024 that a number of at least 1024 is a multiple of, at most the fourth one. -/
def unitIndex (n : Nat) : Nat :=
  if n < 1 <<< 20 then 1 else if n < 1 <<< 30 then 2 else if n < 1 <<< 40 then 3 else 4

/-- A number of hundredths with a point. -/
def hundredths (n : Nat) : String :=
  toString (n / 100) ++ "." ++ toString (n % 100 / 10) ++ toString (n % 10)

/-- The text for a number of bytes. -/
def render (size : Int) : Except Failure String :=
  if bound ≤ size.natAbs then .error .tooLarge
  else if size < 1024 then .ok (toString size ++ " Bytes")
  else
    let n := significant size.toNat
    let k := unitIndex n
    .ok (hundredths (roundDiv (100 * n) (1 <<< (10 * k))) ++ " " ++ units.getD (k - 1) "")

end Size

end InstallerPackage
