import InstallerPackage.Notice
import InstallerPackage.Text.CodePage

/-!
# The string pool

A database stores every text once. One stream is the concatenation of all texts; the other one, the
*pool*, has a record of two 16-bit words for each of them, one of which is the length of the text. Which
word that is differs between writers:

* `StringPool.lengthWord` finds it out: the lengths have to add up to the size of the texts. In doubt it
  is the high word.
* `StringPool.cut` cuts the texts. Text 0 is always empty; its record holds the code page instead.

Tables refer to texts by position; a position without a text stands for the empty text.
-/

namespace InstallerPackage

/-- The half of a pool record that holds the length of a text. -/
inductive LengthWord where
  | low
  | high
  deriving DecidableEq, Repr

/-- The texts of a database. -/
structure StringPool where
  codePage : CodePage
  strings : Array String

namespace StringPool

/-- A database without texts. -/
def empty : StringPool := ⟨.latin1, #[]⟩

/-- The text at a position. -/
def get (strings : Array String) (i : Nat) : String := strings[i]?.getD ""

/-- Stands for a text that is not there. -/
def missing : String := "<Error>"

/-- The place of a word in its record, in bytes. -/
def wordOffset : LengthWord → Nat
  | .low => 0
  | .high => 2

/-- A word of a record. -/
def word (pool : ByteArray) (w : LengthWord) (i : Nat) : Nat :=
  Bytes.number pool (4 * i + wordOffset w) 2

/-- The given words of all records but the first. -/
def lengths (pool : ByteArray) (w : LengthWord) : List Nat :=
  (List.range (pool.size / 4 - 1)).map fun i => word pool w (i + 1)

@[simp] theorem length_lengths (pool : ByteArray) (w : LengthWord) :
    (lengths pool w).length = pool.size / 4 - 1 := by
  simp [lengths]

/-- Do some lengths, added to a total, make up `textSize`? Nothing is added to a total that is too
large already. -/
def addsUp (textSize : Nat) : (total : Nat) → (lengths : List Nat) → Bool
  | total, [] => total == textSize
  | total, length :: rest =>
    if textSize < total + length then false else addsUp textSize (total + length) rest

/-- Can these words be the lengths of texts that have `textSize` bytes together? -/
def fits (pool : ByteArray) (textSize : Nat) (w : LengthWord) : Bool :=
  addsUp textSize 0 (lengths pool w)

/-- The word that holds the lengths: the low one only if it fits and the high one does not. -/
def lengthWord (pool : ByteArray) (textSize : Nat) : LengthWord :=
  if fits pool textSize .low && ! fits pool textSize .high then .low else .high

/-- The code page of the texts. The top bit of its number belongs to something else. -/
def codePageOf (pool : ByteArray) : CodePage := .ofNumber (Bytes.number pool 0 4 % 0x80000000)

/-- Cuts texts of the given lengths, of which `index` have been cut up to `offset`. After the first one
that overruns there are no more. -/
def cutFrom (page : CodePage) (text : ByteArray) :
    (offset index : Nat) → (lengths : List Nat) → (found : Array String) → Noted (Array String)
  | _, _, [], found => pure found
  | offset, index, length :: rest, found =>
    -- where the pool and the texts do not fit, nothing that follows can be trusted
    if text.size < offset + length then
      ⟨found.push missing, [.stringOverrun index offset length text.size]⟩
    else
      cutFrom page text (offset + length) (index + 1) rest
        (found.push (page.decodeTrimmed (Bytes.slice text offset length)))

/-- The texts of a pool, zeros at their ends left out. -/
def cut (pool text : ByteArray) (w : LengthWord) (page : CodePage) : Noted (Array String) :=
  -- a pool without a first record has no texts at all, not even the empty one
  if pool.size < 4 then pure #[] else cutFrom page text 0 1 (lengths pool w) #[""]

/-- Reads the two streams, unless the pool has not even a code page. -/
def read? (pool text : ByteArray) : Noted (Option StringPool) :=
  if pool.size < 4 then pure none
  else do
    let page := codePageOf pool
    let strings ← cut pool text (lengthWord pool text.size) page
    pure (some ⟨page, strings⟩)

end StringPool

end InstallerPackage
