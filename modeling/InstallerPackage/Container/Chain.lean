/-!
# Chains of sectors

A table links every sector to the next one of its chain; the chain of a stream begins at the
sector that its record names and ends at a sentinel. The links are taken as they are: they may lead
out of the table, run in a circle, or go on for longer than the stream is.

`Chain.walk` follows a chain and says which sectors it met and why it stopped. It takes at most as
many steps as it is given, so it ends on every table, and what it collects does not depend on how
the sectors are read: only the number of bytes that each of them supplies matters.
-/

namespace InstallerPackage

/-- The link at the end of a chain. -/
def endOfChain : Nat := 0xFFFFFFFE

/-- The link of a sector that is not in use. As a link between directory records it means that there
is none. -/
def freeSector : Nat := 0xFFFFFFFF

/-- Sector numbers of a well-formed file are below this one. -/
def firstReserved : Nat := 0xFFFFFFFA

/-- Does a link end its chain? -/
def isSentinel (link : Nat) : Bool := link == endOfChain || link == freeSector

namespace Chain

/-- Why a walk stopped. -/
inductive Stop where
  /-- It met a sentinel. -/
  | sentinel
  /-- The link leads to a sector that the table does not know. -/
  | outside (link : Nat)
  /-- All steps were used and the chain goes on. -/
  | cut
  /-- The sectors supply as many bytes as were asked for. -/
  | enough
  deriving DecidableEq, Repr

/-- The sectors that a walk met, in order, and why it stopped. -/
structure Walk where
  sectors : Array Nat
  stop : Stop
  deriving DecidableEq, Repr

/-- Goes on from `link` with `met` behind it and `gathered` bytes supplied by them. A `demand` of
zero asks for the whole chain. -/
def walkFrom (table : Array Nat) (supply : Nat → Nat) (demand : Nat) :
    (steps : Nat) → (link gathered : Nat) → (met : Array Nat) → Walk
  | steps, link, gathered, met =>
    if isSentinel link then ⟨met, .sentinel⟩
    else match table[link]?, steps with
      | none, _ => ⟨met, .outside link⟩
      | some _, 0 => ⟨met, .cut⟩
      | some next, steps + 1 =>
        let gathered := gathered + supply link
        -- without a demand there is never enough
        if 0 < demand ∧ demand ≤ gathered then ⟨met.push link, .enough⟩
        else walkFrom table supply demand steps next gathered (met.push link)

/-- Follows the chain that begins at `start` for at most `steps` sectors, until they supply `demand`
bytes. -/
def walk (table : Array Nat) (supply : Nat → Nat) (demand steps start : Nat) : Walk :=
  walkFrom table supply demand steps start 0 #[]

/-! ### One step of a walk -/

variable {table : Array Nat} {supply : Nat → Nat} {demand steps link gathered : Nat}

/-- What a walk has met already does not influence where it goes. -/
theorem walkFrom_met (met : Array Nat) :
    walkFrom table supply demand steps link gathered met =
      ⟨met ++ (walkFrom table supply demand steps link gathered #[]).sectors,
        (walkFrom table supply demand steps link gathered #[]).stop⟩ := by
  induction steps generalizing link gathered met with
  | zero =>
    unfold walkFrom
    split
    · simp
    · split <;> simp_all
  | succ steps ih =>
    unfold walkFrom
    split
    · simp
    · cases table[link]? with
      | none => simp
      | some next =>
        simp only
        split
        · simp
        · -- the rest of the walk puts its sectors behind those met, and `link` is one more of them
          rw [ih (met.push link), ih (#[].push link)]
          simp

/-- A walk takes no more steps than it is given. -/
theorem size_sectors_walkFrom_le :
    (walkFrom table supply demand steps link gathered #[]).sectors.size ≤ steps := by
  induction steps generalizing link gathered with
  | zero =>
    unfold walkFrom
    split
    · simp
    · cases table[link]? <;> simp
  | succ steps ih =>
    unfold walkFrom
    split
    · simp
    · cases table[link]? with
      | none => simp
      | some next =>
        simp only
        split
        · simp
        · rw [walkFrom_met]
          have := @ih next (gathered + supply link)
          simp
          omega

end Chain

end InstallerPackage
