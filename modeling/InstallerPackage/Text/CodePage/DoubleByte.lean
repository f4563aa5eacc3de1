import InstallerPackage.Text.Utf8
import Std.Data.TreeSet

/-!
# Characters of one or two bytes

The pages for Chinese, Japanese and Korean have far more characters than there are bytes. A byte stands
for a character by itself, or it *leads*, and stands for one together with the byte behind it.

* `DoubleByte` is such a page, and `DoubleByte.decode` reads bytes in it.
* `Grid` is a table of characters by row and column. The pages have their characters from one or two of
  these tables. `position?` numbers the bytes that a page uses in first or in second place, which are not
  always next to each other; rows and columns are found from these numbers.
-/

namespace InstallerPackage

/-- A page in which a character has one or two bytes. -/
structure DoubleByte where
  /-- The character of a byte that does not lead. -/
  single : Nat → Option Char
  /-- The character of a byte that leads and the byte behind it. -/
  pair : Nat → Nat → Option Char

namespace DoubleByte

/-- Goes on with the characters that bytes stand for. A byte that stands for none, be it alone or with
the one behind it, is replaced. The byte behind it is read anew then. -/
def decodeFrom (page : DoubleByte) (found : Array Char) : List Nat → List Char
  | [] => found.toList
  | b :: rest =>
    match page.single b with
    | some c => decodeFrom page (found.push c) rest
    | none =>
      match rest with
      | [] => (found.push Utf8.replacement).toList
      | trail :: behind =>
        match page.pair b trail with
        | some c => decodeFrom page (found.push c) behind
        | none => decodeFrom page (found.push Utf8.replacement) (trail :: behind)

/-- The characters that bytes stand for. -/
def decode (page : DoubleByte) (bytes : List Nat) : List Char := page.decodeFrom #[] bytes

/-- The bytes of ASCII stand for themselves. -/
def ascii (b : Nat) : Option Char := if b < 0x80 then some (Char.ofNat b) else none

/-- The number of a byte among the bytes of some ranges, one range after the other. -/
def position? : (ranges : List (Nat × Nat)) → (b : Nat) → Option Nat
  | [], _ => none
  | (low, high) :: rest, b =>
    if low ≤ b ∧ b ≤ high then some (b - low)
    else (position? rest b).map (· + (high + 1 - low))

end DoubleByte

/-- Characters by row and column. U+FFFD fills the cells that have none. -/
abbrev Grid := Array (Array Char)

namespace Grid

/-- The grid with some rows, by number. -/
def ofRows (rows : List (Nat × String)) : Grid :=
  Array.ofFn fun i : Fin 128 => ((rows.lookup i.val).getD "").toList.toArray

/-- The character of a cell. -/
def cell? (g : Grid) (row column : Nat) : Option Char := do
  let cells ← g[row]?
  let c ← cells[column]?
  if c = Utf8.replacement then none else some c

/-- The characters from one code point to another that are not in the grid. -/
def others (g : Grid) (low high : Nat) : Array Char :=
  let known := g.foldl (fun known cells =>
    cells.foldl (fun known c => known.insert c.toNat) known) (∅ : Std.TreeSet Nat)
  (((List.range' low (high + 1 - low)).filter (! known.contains ·)).map Char.ofNat).toArray

end Grid

end InstallerPackage
