import InstallerPackage.Proofs.Opening
import InstallerPackage.Report
import Std.Data.TreeMap

/-!
# Operations that can fail

The library's operations have a value for all arguments: where a position lies outside of an array a
look-up gives nothing or a default, a quotient by zero is zero, and a recursion whose steps are used up
returns what it has. A reader who trusts such a value may be misled without noticing.

`Strict` is for reading once more without such values. A strict operation ends in a `Fault` where its
arguments make no sense: `item` outside of an array, `entry` without the key, `quotient` by zero, `cut`
beyond the end of the bytes. That a strict reading agrees with the plain one therefore means that the
plain one never relies on a value that only fills a gap.

`Attempt.strict` is an attempt seen as a strict reading: its errors are the only faults it can have.
-/

namespace InstallerPackage

/-- Why a strict reading has no result. -/
inductive Fault where
  /-- The file cannot be read at all. -/
  | structural (e : LoadError)
  /-- There is nothing at a position. -/
  | position (i size : Nat)
  /-- There is no entry for a key. -/
  | key (key : String)
  /-- There is nothing at the end of a path. -/
  | path (path : Name)
  /-- There is no report. -/
  | report (e : ReportError)
  /-- A number was divided by zero. -/
  | division
  /-- There are fewer bytes than a record needs. -/
  | shortBytes (found needed : Nat)
  /-- A loop has not ended within its steps. -/
  | endless

/-- A reading that ends in a fault where an operation makes no sense. -/
abbrev Strict := Except Fault

namespace Strict

variable {α β : Type}

/-- The item at a position. -/
def item (a : Array α) (i : Nat) : Strict α :=
  match a[i]? with
  | some x => pure x
  | none => throw (.position i a.size)

/-- The value of a key. -/
def entry (m : Std.TreeMap String α) (key : String) : Strict α :=
  match m[key]? with
  | some x => pure x
  | none => throw (.key key)

/-- The whole part of a quotient. -/
def quotient (n d : Nat) : Strict Nat := if d = 0 then throw .division else pure (n / d)

/-- Exactly `length` bytes from `offset` on. -/
def cut (b : ByteArray) (offset length : Nat) : Strict ByteArray :=
  if offset + length ≤ b.size then pure (Bytes.slice b offset length)
  else throw (.shortBytes (b.size - offset) length)

theorem item_eq {a : Array α} {i : Nat} {x : α} (h : a[i]? = some x) : item a i = pure x := by
  rw [item, h]

theorem item_of_lt {a : Array α} {i : Nat} (h : i < a.size) : item a i = pure a[i] :=
  item_eq (Array.getElem?_eq_getElem h)

theorem entry_eq {m : Std.TreeMap String α} {key : String} {x : α} (h : m[key]? = some x) :
    entry m key = pure x := by
  rw [entry, h]

theorem quotient_eq {d : Nat} (n : Nat) (h : 0 < d) : quotient n d = pure (n / d) := by
  rw [quotient, if_neg (Nat.ne_of_gt h)]

theorem cut_eq {b : ByteArray} {offset length : Nat} (h : offset + length ≤ b.size) :
    cut b offset length = pure (Bytes.slice b offset length) := by
  rw [cut, if_pos h]

/-! ### Lists -/

theorem mapM_eq {l : List α} {f : α → Strict β} {g : α → β} (h : ∀ a ∈ l, f a = pure (g a)) :
    l.mapM f = pure (l.map g) := by
  induction l with
  | nil => rfl
  | cons a l ih =>
    rw [List.mapM_cons, h a (List.mem_cons_self ..), pure_bind,
      ih fun b hb => h b (List.mem_cons_of_mem a hb), pure_bind, List.map_cons]

theorem foldlM_eq {l : List α} {f : β → α → Strict β} {g : β → α → β}
    (h : ∀ s, ∀ a ∈ l, f s a = pure (g s a)) (s : β) : l.foldlM f s = pure (l.foldl g s) := by
  induction l generalizing s with
  | nil => rfl
  | cons a l ih =>
    rw [List.foldlM_cons, h s a (List.mem_cons_self ..), pure_bind,
      ih (fun s b hb => h s b (List.mem_cons_of_mem a hb)) (g s a), List.foldl_cons]

/-! ### Sequences -/

/-- Two sequences agree if they begin in the same way and go on in the same way from what that
gives. -/
theorem bind_congr_of_eq {x y : Strict α} {f g : α → Strict β} (hxy : x = y)
    (h : ∀ a, y = pure a → f a = g a) : x >>= f = y >>= g := by
  subst hxy
  cases x with
  | error e => rfl
  | ok a => exact h a rfl

end Strict

namespace Attempt

variable {α β : Type}

/-- An attempt as a strict reading. -/
def strict (x : Attempt α) : Strict α := x.outcome.value.mapError .structural

@[simp] theorem strict_pure (a : α) : (pure a : Attempt α).strict = pure a := rfl

@[simp] theorem strict_fail (e : LoadError) : (fail e : Attempt α).strict = throw (.structural e) := rfl

@[simp] theorem strict_ofNoted (x : Noted α) : (ofNoted x).strict = pure x.value := by
  rw [strict, outcome_ofNoted]
  rfl

theorem strict_bind (x : Attempt α) (f : α → Attempt β) :
    (x >>= f).strict = x.strict >>= fun a => (f a).strict := by
  simp only [strict]
  cases hx : x.outcome.value with
  | error e =>
    rw [outcome_bind_of_error hx]
    rfl
  | ok a =>
    rw [outcome_bind_of_ok hx]
    rfl

/-- What is only read with notices has no fault. -/
theorem strict_ofNoted_bind (x : Noted α) (f : α → Attempt β) :
    (ofNoted x >>= f).strict = (f x.value).strict := by
  rw [strict_bind, strict_ofNoted, pure_bind]

theorem strict_eq_ok {x : Attempt α} {a : α} : x.strict = pure a ↔ x.outcome.value = .ok a := by
  rw [strict]
  cases x.outcome.value with
  | error e => exact ⟨(nomatch ·), (nomatch ·)⟩
  | ok b => exact ⟨fun h => congrArg _ (Except.ok.inj h), fun h => congrArg _ (Except.ok.inj h)⟩

end Attempt

end InstallerPackage
