import Fleet.Subsystem

/-!
# The tally

What is counted about the registry since the last time the counts were read.
-/

namespace Fleet

/-- What an announcement came to. -/
inductive Outcome where
  /-- A record was made for the cluster. -/
  | created
  /-- The cluster was known, and nothing had to change. -/
  | adopted
  /-- The declared configuration was taken over. -/
  | updated
  /-- The declared configuration was the one already taken over. -/
  | unchanged
  /-- The cluster is not managed by a declaration any more. -/
  | cleared
  /-- The announcement was refused, or could not be dealt with. -/
  | rejected
deriving DecidableEq, Repr

namespace Outcome

/-- Every outcome. -/
def all : List Outcome := [.created, .adopted, .updated, .unchanged, .cleared, .rejected]

/-- The label of an outcome. -/
def label : Outcome → String
  | created => "created"
  | adopted => "adopted"
  | updated => "updated"
  | unchanged => "unchanged"
  | cleared => "cleared"
  | rejected => "rejected"

end Outcome

/-- The counts. -/
structure Tally where
  /-- The number of registered clusters that was noted last. -/
  registered : Option Nat := none
  /-- One entry for each announcement. -/
  outcomes : List Outcome := []
  /-- How many cascades have run. -/
  cascades : Nat := 0
  /-- One entry for each step of a cascade that failed. -/
  cascadeFailures : List Subsystem := []
deriving DecidableEq, Inhabited

namespace Tally

/-- Note how many clusters are registered. -/
def noteRegistered (tally : Tally) (count : Nat) : Tally :=
  { tally with registered := some count }

/-- Count an announcement. -/
def countOutcome (tally : Tally) (outcome : Outcome) : Tally :=
  { tally with outcomes := tally.outcomes ++ [outcome] }

/-- Count a cascade and the steps of it that failed. -/
def countCascade (tally : Tally) (failures : List Subsystem) : Tally :=
  { tally with
    cascades := tally.cascades + 1
    cascadeFailures := tally.cascadeFailures ++ failures }

end Tally

end Fleet
