/-!
# Resident parameters

A chip keeps the parameters of up to two packages, as long as these share one caching token. Loading
parameters under another token evicts everything, and so does loading a third package's. Running a
package that caches no parameters takes back the token, so that the next package that caches some
loads them anew, unless its own token is 0.

Reference: `edgetpu-driver`, `manager`; SPEC_FULL 4.6.

* `plan_eq_none_iff`: parameters are loaded unless they are resident under their token.
* `contains_load`: a package whose parameters have been loaded is resident.
-/

namespace TensorLink

/-- The identity of a registered package. -/
structure PackageId where
  number : Nat
  deriving DecidableEq, Repr

/-- One of the two places for a package's parameters. -/
inductive Slot where
  | first
  | second
  deriving DecidableEq, Repr

/-- Whose parameters are taken to be on the chip (`Execution`). -/
structure Residency where
  /-- The token under which they were loaded, or 0. -/
  token : UInt64 := 0
  first : Option PackageId := none
  second : Option PackageId := none
  deriving DecidableEq, Repr

namespace Residency

/-- The packages by slot. -/
def slots (residency : Residency) : List (Option PackageId) := [residency.first, residency.second]

/-- Whether a package has a slot. -/
def contains (residency : Residency) (id : PackageId) : Bool :=
  residency.first == some id || residency.second == some id

/-- Empties both slots. -/
def evict (residency : Residency) : Residency := { residency with first := none, second := none }

/-- What has to be done before a package is run whose parameters have the given token: nothing, or
to load its parameters into a slot, after the evictions that make room for it. -/
def plan (residency : Residency) (id : PackageId) (token : UInt64) : Option (Slot × Residency) :=
  if token ≠ residency.token then some (.first, residency.evict)
  else if residency.contains id then none
  else if residency.first = none then some (.first, residency)
  else if residency.second = none then some (.second, residency)
  else some (.first, residency.evict)

/-- Records that a package's parameters have been loaded. -/
def load (residency : Residency) (slot : Slot) (id : PackageId) (token : UInt64) : Residency :=
  match slot with
  | .first => { residency with token, first := some id }
  | .second => { residency with token, second := some id }

/-- Records that a package without cached parameters is run. -/
def forgetToken (residency : Residency) : Residency := { residency with token := 0 }

/-- Nothing has to be loaded exactly if the token is that of the last load and the package has a
slot. -/
theorem plan_eq_none_iff (residency : Residency) (id : PackageId) (token : UInt64) :
    residency.plan id token = none ↔ token = residency.token ∧ residency.contains id = true := by
  unfold plan
  by_cases other : token = residency.token
  · by_cases resident : residency.contains id = true
    · simp [other, resident]
    · simp only [other, resident, ne_eq, not_true_eq_false, if_false, Bool.false_eq_true, and_false]
      split
      · simp
      · split <;> simp
  · simp [other]

/-- A package whose parameters have been loaded has a slot. -/
theorem contains_load (residency : Residency) (slot : Slot) (id : PackageId) (token : UInt64) :
    (residency.load slot id token).contains id = true := by
  cases slot <;> simp [load, contains]

end Residency

end TensorLink
