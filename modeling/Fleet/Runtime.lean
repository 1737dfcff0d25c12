import Fleet.Text.Decimal

/-!
# What the control plane runs on

Two things that the control plane is given and does not choose: the ids that new records get, and how
tasks share out the turns. Nothing is known of the ids but that none is empty and none comes twice, and
of the turns but that one has room for more than one thing.

Whoever calls may name an id before it is given out. Where ids cannot be guessed nobody does, so the runs
that a program can have are some of those that are considered here.
-/

namespace Fleet

namespace Registry

/-- The id numbered `n`. -/
def idOfNumber (n : Nat) : String := "$" ++ Text.writeNat n

/-- Different numbers have different ids. -/
theorem idOfNumber_inj {m n : Nat} (h : idOfNumber m = idOfNumber n) : m = n := by
  unfold idOfNumber at h
  exact Text.writeNat_inj (String.append_right_inj _ |>.1 h)

theorem idOfNumber_ne_empty (n : Nat) : idOfNumber n ≠ "" := by
  unfold idOfNumber
  simp

end Registry

/-- Where the ids of new records come from. -/
structure IdSource where
  /-- The ids in the order in which they are given out. -/
  idOf : Nat → String
  idOf_inj : ∀ {m n : Nat}, idOf m = idOf n → m = n
  idOf_ne_empty : ∀ n, idOf n ≠ ""

/-- The ids that are numbered in the order in which they are given out. -/
def IdSource.numbered : IdSource where
  idOf := Registry.idOfNumber
  idOf_inj := Registry.idOfNumber_inj
  idOf_ne_empty := Registry.idOfNumber_ne_empty

/-- How tasks share out the turns. -/
structure Pace where
  /-- How many turns a round has, unless nobody has a turn before. -/
  roundLength : Nat
  /-- How much a task does in one turn. -/
  turnLength : Nat
  one_lt_turnLength : 1 < turnLength

/-- How tasks share them out unless something else is said. -/
def Pace.usual : Pace :=
  ⟨61, 128, Nat.le_of_ble_eq_true rfl⟩

/-- What the control plane runs on. -/
structure Runtime where
  ids : IdSource := .numbered
  pace : Pace := .usual

instance : Inhabited Runtime := ⟨{}⟩

end Fleet
