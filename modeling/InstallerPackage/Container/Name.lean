/-!
# Names in the directory

A directory stores a name as 16-bit units, and nothing says that they pair up: a surrogate may
stand alone. A `Name` is therefore the list of its code points as stored, and not a `String`.

Installer databases squeeze their stream names. Sixty-four characters are allowed (digits, letters,
`.` and `_`), and a code point above `0x3800` stands for two of them, for one of them, or for the
`!` that marks the stream of a table:

* `Name.decode` expands a stored name, one code point at a time and without state;
* `Name.encode` squeezes a name, two allowed characters at a time from the left.

Names are put together to paths with slashes (`Name.join`), which `Name.steps` takes apart again.
-/

namespace InstallerPackage

/-- The code points of a name, in the order in which they are stored. -/
abbrev Name := List Nat

namespace Name

/-- The code points of a text. -/
def ofString (s : String) : Name := s.toList.map Char.toNat

/-- The slash between the steps of a path. -/
def slash : Nat := 0x2F

/-! ### Compression -/

/-- The character with number `digit` among the sixty-four that can be squeezed. -/
def squeezable (digit : Nat) : Nat :=
  if digit < 10 then 0x30 + digit
  else if digit < 36 then 0x41 + (digit - 10)
  else if digit < 62 then 0x61 + (digit - 36)
  else if digit = 62 then 0x2E
  else 0x5F

/-- The number of a character among the sixty-four, if it is one of them. -/
def digit? (c : Nat) : Option Nat :=
  if 0x30 ≤ c ∧ c ≤ 0x39 then some (c - 0x30)
  else if 0x41 ≤ c ∧ c ≤ 0x5A then some (c - 0x41 + 10)
  else if 0x61 ≤ c ∧ c ≤ 0x7A then some (c - 0x61 + 36)
  else if c = 0x2E then some 62
  else if c = 0x5F then some 63
  else none

/-- The first code point that stands for two characters. -/
def pairBase : Nat := 0x3800

/-- The first code point that stands for one squeezed character. -/
def singleBase : Nat := 0x4800

/-- The code point that marks the stream of a table. -/
def tableMark : Nat := 0x4840

/-- What one stored code point stands for: the low six bits of a pair come first. -/
def expand (c : Nat) : Name :=
  if pairBase ≤ c ∧ c < singleBase then
    [squeezable ((c - pairBase) % 64), squeezable ((c - pairBase) / 64)]
  else if singleBase ≤ c ∧ c < tableMark then [squeezable (c - singleBase)]
  else if c = tableMark then [0x21]
  else [c]

/-- The readable form of a stored name. -/
def decode (stored : Name) : Name := stored.flatMap expand

/-- Squeezes neighbours from the left; characters outside the sixty-four stay as they are. -/
def squeeze : Name → Name
  | [] => []
  | [c] =>
    match digit? c with
    | some x => [singleBase + x]
    | none => [c]
  | c :: d :: rest =>
    match digit? c, digit? d with
    | some x, some y => (pairBase + x + 64 * y) :: squeeze rest
    | some x, none => (singleBase + x) :: squeeze (d :: rest)
    | none, _ => c :: squeeze (d :: rest)

/-- The stored form of a name: a `!` in front becomes the table mark, the rest is squeezed. -/
def encode : Name → Name
  | 0x21 :: rest => tableMark :: squeeze rest
  | name => squeeze name

@[simp] theorem decode_nil : decode [] = [] := rfl

@[simp] theorem decode_cons (c : Nat) (rest : Name) :
    decode (c :: rest) = expand c ++ decode rest := by
  simp [decode]

/-! ### Paths -/

/-- The name at the end of a path, appended to the path that leads there. A path that is still empty
takes no slash. -/
def join (path name : Name) : Name :=
  if path = [] then name else path ++ slash :: name

/-- The parts of a path between its slashes, empty ones included. -/
def parts : Name → List Name
  | [] => [[]]
  | c :: rest =>
    if c = slash then [] :: parts rest
    else match parts rest with
      | [] => [[c]]
      | part :: more => (c :: part) :: more

/-- The steps of a path: its parts, empty ones left out. -/
def steps (path : Name) : List Name := path.parts.filter (· ≠ [])

/-- Does `fragment` occur in the name, without a gap? -/
def contains (name fragment : Name) : Bool :=
  fragment.isPrefixOf name ||
    match name with
    | [] => false
    | _ :: rest => contains rest fragment

theorem contains_iff {name fragment : Name} :
    contains name fragment = true ↔ fragment <:+: name := by
  induction name with
  | nil => simp [contains]
  | cons c rest ih => simp [contains, ih, List.infix_cons_iff]

theorem parts_ne_nil (path : Name) : path.parts ≠ [] := by
  cases path with
  | nil => simp [parts]
  | cons c rest =>
    unfold parts
    split
    · simp
    · split <;> simp

/-- There is no slash in a part of a path. -/
theorem slash_not_mem_of_mem_parts {path part : Name} (h : part ∈ path.parts) : slash ∉ part := by
  induction path generalizing part with
  | nil => simp_all [parts]
  | cons c rest ih =>
    unfold parts at h
    split at h
    · rcases List.mem_cons.mp h with rfl | h
      · simp
      · exact ih h
    · next hc =>
      -- the first part grows by a character that is no slash, the others stay
      have hne : ¬ slash = c := fun he => hc he.symm
      split at h
      · simp_all
      · next part' more heq =>
        rcases List.mem_cons.mp h with rfl | h
        · have := @ih part' (by simp [heq])
          simp [this, hne]
        · exact ih (by simp [heq, h])

/-! ### Order -/

/-- The capital form of an ASCII letter. -/
def upper (c : Nat) : Nat := if 0x61 ≤ c ∧ c ≤ 0x7A then c - 0x20 else c

/-- The order of siblings: shorter names first, and those of one length by their capital letters. -/
def before (a b : Name) : Bool :=
  a.length < b.length || (a.length == b.length && ! (b.map upper).lex (a.map upper))

end Name

end InstallerPackage
