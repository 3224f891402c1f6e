import Mathlib.Data.List.Induction
import TensorLink.Proofs.Recording

/-!
# Custody of class drivers

A task opens the class drivers that it needs and has to close them again. What it does about them
can be read off its calls: the successful openings and the closings, in order.

The tasks remember that a class driver is in use, but not which one. They close the interface that
was attached last. Whatever a message makes of the custody is one of a few trades.

Results:
* `Orderly.openings_eq`, `Orderly.of_prefix`: dealings with one class driver after the other.
* `Trade.sound`, `Trade.broken`: without a mishap the custody stays sound, and a mishap leaves an
  opening without its closing.
* `forall_prefix_iff`: so a run is in order exactly if it has no mishap.
-/

namespace TensorLink

/-! ## Dealings -/

/-- Something that is done about a class driver. -/
inductive Dealing where
  | opened (interface : Interface)
  | closed (interface : Interface)
  deriving DecidableEq, Repr

namespace Dealing

/-- The interface whose class driver was opened. -/
def opened? : Dealing → Option Interface
  | opened interface => some interface
  | closed _ => none

/-- The interface whose class driver was closed. -/
def closed? : Dealing → Option Interface
  | opened _ => none
  | closed interface => some interface

/-- What a call does about a class driver; one that does not open does not count. -/
def ofCall? {κ : Type} : HostCall κ → Option Dealing
  | .openClass interface (.ok _) => some (opened interface)
  | .closeClass interface => some (closed interface)
  | _ => none

end Dealing

/-- What calls do about class drivers. -/
def dealings {κ : Type} (calls : List (HostCall κ)) : List Dealing :=
  calls.filterMap Dealing.ofCall?

/-- The interfaces whose class drivers were opened. -/
def openings (dealings : List Dealing) : List Interface := dealings.filterMap Dealing.opened?

/-- The interfaces whose class drivers were closed. -/
def closings (dealings : List Dealing) : List Interface := dealings.filterMap Dealing.closed?

section

variable {κ : Type} (calls calls' : List (HostCall κ)) (before after : List Dealing)
  (interface : Interface)

@[simp]
theorem dealings_append : dealings (calls ++ calls') = dealings calls ++ dealings calls' :=
  List.filterMap_append

@[simp]
theorem openings_append : openings (before ++ after) = openings before ++ openings after :=
  List.filterMap_append

@[simp]
theorem closings_append : closings (before ++ after) = closings before ++ closings after :=
  List.filterMap_append

@[simp]
theorem openings_opened : openings (.opened interface :: after) = interface :: openings after := rfl

@[simp]
theorem openings_closed : openings (.closed interface :: after) = openings after := rfl

@[simp]
theorem closings_opened : closings (.opened interface :: after) = closings after := rfl

@[simp]
theorem closings_closed : closings (.closed interface :: after) = interface :: closings after := rfl

@[simp]
theorem openings_nil : openings [] = [] := rfl

@[simp]
theorem closings_nil : closings [] = [] := rfl

theorem dealings_eq_nil {calls : List (HostCall κ)}
    (h : ∀ call ∈ calls, Dealing.ofCall? call = none) : dealings calls = [] :=
  List.filterMap_eq_nil_iff.mpr h

end

/-- One class driver after the other is opened and closed; the last one may still be open. -/
inductive Orderly : List Dealing → Option Interface → Prop where
  | nil : Orderly [] none
  | opened {dealings : List Dealing} (orderly : Orderly dealings none) (interface : Interface) :
    Orderly (dealings ++ [.opened interface]) (some interface)
  | closed {dealings : List Dealing} {interface : Interface}
      (orderly : Orderly dealings (some interface)) :
    Orderly (dealings ++ [.closed interface]) none

section

variable {dealings earlier : List Dealing} {held : Option Interface}

theorem Orderly.openings_eq (orderly : Orderly dealings held) :
    openings dealings = closings dealings ++ held.toList := by
  induction orderly with
  | nil => rfl
  | opened orderly interface ih => simpa using ih
  | closed orderly ih => simpa using ih

/-- What was done until some time was orderly, too. -/
theorem Orderly.of_prefix (orderly : Orderly dealings held) (hearlier : earlier <+: dealings) :
    ∃ held, Orderly earlier held := by
  induction orderly with
  | nil => exact ⟨none, by rw [List.prefix_nil.mp hearlier]; exact .nil⟩
  | opened orderly interface ih =>
    obtain rfl | h := List.prefix_concat_iff.mp hearlier
    · exact ⟨_, orderly.opened interface⟩
    · exact ih h
  | closed orderly ih =>
    obtain rfl | h := List.prefix_concat_iff.mp hearlier
    · exact ⟨_, orderly.closed⟩
    · exact ih h

/-- At no time is more than one class driver open. -/
theorem Orderly.length_openings_le (orderly : Orderly dealings held)
    (hearlier : earlier <+: dealings) :
    (openings earlier).length ≤ (closings earlier).length + 1 := by
  obtain ⟨held, horderly⟩ := orderly.of_prefix hearlier
  rw [horderly.openings_eq, List.length_append]
  cases held <;> simp

end

/-! ## Custody -/

/-- Where a task stands with its class drivers. -/
structure Custody where
  dealings : List Dealing
  /-- The interface that was attached last. -/
  interface : Option Interface
  /-- Whether the task uses a class driver. -/
  inUse : Bool
  /-- Whether the task is in a state in which no class driver may be open. -/
  idle : Bool

/-- Whether a message has a class driver opened, and whether the task can use it then. -/
inductive Supply where
  | nothing
  | usable
  | unusable
  deriving DecidableEq, Repr

namespace Custody

variable {before after custody : Custody} {faulty : Prop}

/-- The interface whose class driver was opened last. -/
def opened? (custody : Custody) : Option Interface := (openings custody.dealings).getLast?

/-- What a task does to give up the class driver that it uses. -/
def returning (custody : Custody) : List Dealing :=
  if custody.inUse then custody.interface.toList.map .closed else []

/-- After a task has given up its class driver for good. -/
def surrendered (custody : Custody) : Custody :=
  ⟨custody.dealings ++ custody.returning, custody.interface, false, true⟩

/-- The class driver in use is the only one that is open. -/
structure Sound (custody : Custody) : Prop where
  orderly : ∃ held, Orderly custody.dealings held ∧ held.isSome = custody.inUse
  idle : custody.idle = true → custody.inUse = false

/-- Two class drivers are open, or the task is idle and has not closed what it has opened. -/
def Broken (custody : Custody) : Prop :=
  (closings custody.dealings).length + 2 ≤ (openings custody.dealings).length ∨
    custody.idle = true ∧ ¬(openings custody.dealings).Perm (closings custody.dealings)

theorem Sound.of_not_inUse (sound : Sound custody) (hfree : custody.inUse = false) :
    Orderly custody.dealings none := by
  obtain ⟨held, horderly, hheld⟩ := sound.orderly
  rw [hfree, Option.isSome_eq_false_iff, Option.isNone_iff_eq_none] at hheld
  exact hheld ▸ horderly

theorem Sound.of_inUse (sound : Sound custody) (huse : custody.inUse = true) :
    ∃ interface, custody.opened? = some interface ∧ Orderly custody.dealings (some interface) := by
  obtain ⟨held, horderly, hheld⟩ := sound.orderly
  rw [huse] at hheld
  obtain ⟨interface, rfl⟩ := Option.isSome_iff_exists.mp hheld
  refine ⟨interface, ?_, horderly⟩
  rw [opened?, horderly.openings_eq, Option.toList_some, List.getLast?_concat]

theorem returning_of_not_inUse (hfree : custody.inUse = false) : custody.returning = [] := by
  simp [returning, hfree]

theorem returning_of_inUse (huse : custody.inUse = true) :
    custody.returning = custody.interface.toList.map .closed := by
  simp [returning, huse]

/-- Giving up closes what is attached, and opens nothing. -/
theorem openings_returning (custody : Custody) : openings custody.returning = [] := by
  unfold returning
  split
  · cases custody.interface <;> rfl
  · rfl

/-- Giving up closes no more than is in use. -/
theorem length_closings_returning_le {held : Option Interface}
    (hheld : held.isSome = custody.inUse) :
    (closings custody.returning).length ≤ held.toList.length := by
  cases held with
  | none => simp [returning_of_not_inUse hheld.symm]
  | some interface =>
    rw [returning_of_inUse hheld.symm]
    cases custody.interface <;> simp

/-- What a message makes of the custody. -/
inductive Trade (before after : Custody) : Supply → Prop where
  /-- Nothing is opened or closed. -/
  | kept (hdealings : after.dealings = before.dealings) (huse : after.inUse = before.inUse)
      (hidle : after.idle = true → before.idle = true) : Trade before after .nothing
  /-- The task gives up its class driver; with no interface at hand it may keep it instead. -/
  | givenUp (hdealings : after.dealings = before.dealings ++ before.returning)
      (huse : after.inUse = true → before.inUse = true ∧ before.interface = none)
      (hidle : after.idle = true) : Trade before after .nothing
  /-- A class driver is opened and used from now on. -/
  | taken (interface : Interface)
      (hdealings : after.dealings = before.dealings ++ [.opened interface])
      (huse : after.inUse = true) (hidle : after.idle = false) : Trade before after .usable
  /-- A class driver is opened and closed at once. -/
  | returned (interface : Interface)
      (hdealings : after.dealings = before.dealings ++ [.opened interface, .closed interface])
      (huse : after.inUse = false) (hidle : after.idle = true) : Trade before after .usable
  /-- A class driver is opened and forgotten; the task gives up the one that it has used so far. -/
  | forgotten (interface : Interface)
      (hdealings : after.dealings = before.dealings ++ .opened interface :: before.returning)
      (hidle : after.idle = true) : Trade before after .unusable

/-- What may go wrong with the custody. -/
inductive Mishap (before after : Custody) (supply : Supply) : Prop where
  /-- A class driver is opened while another one is in use. -/
  | reopened (hsupply : supply ≠ .nothing) (huse : before.inUse = true)
  /-- A class driver is opened that the task cannot use. -/
  | unusable (hsupply : supply = .unusable)
  /-- The class driver in use is given up while another interface is attached than the one that it
      was opened for, or none. -/
  | mistaken (huse : before.inUse = true) (hidle : after.idle = true)
      (hother : before.interface ≠ before.opened?)

/-- A class driver that is taken without a mishap is the only one. -/
theorem Mishap.free_of_not {supply : Supply} (hsupply : supply ≠ .nothing)
    (hright : ¬Mishap before after supply) : before.inUse = false :=
  Bool.eq_false_iff.mpr fun huse => hright (.reopened hsupply huse)

/-- Without a mishap the custody stays sound. -/
theorem Trade.sound {supply : Supply} (sound : Sound before) (trade : Trade before after supply)
    (hright : ¬Mishap before after supply) : Sound after := by
  cases trade with
  | kept hdealings huse hidle =>
    refine ⟨?_, fun h => ?_⟩
    · rw [hdealings, huse]
      exact sound.orderly
    · rw [huse]
      exact sound.idle (hidle h)
  | givenUp hdealings huse hidle =>
    -- What is closed is what was opened, so there is an interface to close.
    have hsame (hinUse : before.inUse = true) : before.interface = before.opened? := by
      by_contra hother
      exact hright (.mistaken hinUse hidle hother)
    have hfree : after.inUse = false := by
      rw [Bool.eq_false_iff]
      intro h
      obtain ⟨hinUse, hnone⟩ := huse h
      obtain ⟨interface, hopened, -⟩ := sound.of_inUse hinUse
      rw [← hsame hinUse, hnone] at hopened
      cases hopened
    refine ⟨⟨none, ?_, hfree.symm⟩, fun _ => hfree⟩
    rw [hdealings]
    cases hinUse : before.inUse with
    | false =>
      rw [returning_of_not_inUse hinUse, List.append_nil]
      exact sound.of_not_inUse hinUse
    | true =>
      obtain ⟨interface, hopened, horderly⟩ := sound.of_inUse hinUse
      rw [returning_of_inUse hinUse, hsame hinUse, hopened]
      exact horderly.closed
  | taken interface hdealings huse hidle =>
    have hfree := Mishap.free_of_not (by simp) hright
    refine ⟨⟨some interface, ?_, huse.symm⟩, fun h => ?_⟩
    · rw [hdealings]
      exact (sound.of_not_inUse hfree).opened interface
    · rw [hidle] at h
      cases h
  | returned interface hdealings huse hidle =>
    have hfree := Mishap.free_of_not (by simp) hright
    have hreturned := ((sound.of_not_inUse hfree).opened interface).closed
    refine ⟨⟨none, ?_, huse.symm⟩, fun _ => huse⟩
    rw [hdealings]
    simpa using hreturned
  | forgotten => exact absurd (.unusable rfl) hright

/-- An idle task that has closed fewer class drivers than it has opened. -/
theorem Broken.of_length_lt (hidle : custody.idle = true)
    (hlength : (closings custody.dealings).length < (openings custody.dealings).length) :
    Broken custody :=
  .inr ⟨hidle, fun hperm => absurd hperm.length_eq (Nat.ne_of_gt hlength)⟩

/-- The class driver in use is not closed if another interface is, or none. -/
theorem Sound.broken_of_mistaken (sound : Sound before)
    (hdealings : after.dealings = before.dealings ++ before.returning)
    (huse : before.inUse = true) (hidle : after.idle = true)
    (hother : before.interface ≠ before.opened?) : Broken after := by
  obtain ⟨interface, hopened, horderly⟩ := sound.of_inUse huse
  refine .inr ⟨hidle, fun hperm => ?_⟩
  rw [hdealings, openings_append, closings_append, openings_returning, List.append_nil,
    horderly.openings_eq, List.perm_append_left_iff, returning_of_inUse huse] at hperm
  cases hinterface : before.interface with
  | none =>
    rw [hinterface] at hperm
    exact absurd hperm.length_eq (by simp)
  | some attached =>
    rw [hinterface] at hperm
    have hsame : interface = attached := by simpa using hperm
    exact hother (by rw [hinterface, hopened, hsame])

/-- A mishap leaves an opening without its closing. -/
theorem Trade.broken {supply : Supply} (sound : Sound before) (trade : Trade before after supply)
    (mishap : Mishap before after supply) : Broken after := by
  cases trade with
  | kept hdealings huse hidle =>
    obtain ⟨hsupply, -⟩ | hsupply | ⟨hinUse, hidle', -⟩ := mishap
    · exact absurd rfl hsupply
    · cases hsupply
    · exact absurd hinUse (by simp [sound.idle (hidle hidle')])
  | givenUp hdealings huse hidle =>
    obtain ⟨hsupply, -⟩ | hsupply | ⟨hinUse, -, hother⟩ := mishap
    · exact absurd rfl hsupply
    · cases hsupply
    · exact sound.broken_of_mistaken hdealings hinUse hidle hother
  | taken interface hdealings huse hidle =>
    obtain ⟨-, hinUse⟩ | hsupply | ⟨hinUse, hidle', -⟩ := mishap
    · obtain ⟨first, -, horderly⟩ := sound.of_inUse hinUse
      left
      simp [hdealings, horderly.openings_eq]
    · cases hsupply
    · exact absurd hidle' (by simp [hidle])
  | returned interface hdealings huse hidle =>
    have hinUse : before.inUse = true := by
      obtain ⟨-, hinUse⟩ | hsupply | ⟨hinUse, -, -⟩ := mishap
      · exact hinUse
      · cases hsupply
      · exact hinUse
    obtain ⟨first, -, horderly⟩ := sound.of_inUse hinUse
    refine .of_length_lt hidle ?_
    simp [hdealings, horderly.openings_eq]
  | forgotten interface hdealings hidle =>
    obtain ⟨held, horderly, hheld⟩ := sound.orderly
    have hreturning := length_closings_returning_le hheld
    refine .of_length_lt hidle ?_
    simp only [hdealings, openings_append, closings_append, openings_opened, closings_opened,
      openings_returning, horderly.openings_eq, List.length_append, List.length_singleton]
    omega

/-! ## Runs -/

section

variable {σ μ : Type} {step : σ → μ → σ} {start : σ} {custodyOf : σ → Custody}
  {supplyOf : σ → μ → Supply} {good : σ → Prop}

/-- What goes wrong when a move is made. -/
def MishapOf (step : σ → μ → σ) (custodyOf : σ → Custody) (supplyOf : σ → μ → Supply) (state : σ)
    (move : μ) : Prop :=
  Mishap (custodyOf state) (custodyOf (step state move)) (supplyOf state move)

/-- As long as nothing goes wrong with a sound custody, it stays sound. -/
theorem sound_foldl (hstart : Sound (custodyOf start))
    (htrade : ∀ state move,
      Trade (custodyOf state) (custodyOf (step state move)) (supplyOf state move))
    (moves : List μ) (hright : ∀ earlier move, earlier ++ [move] <+: moves →
      Sound (custodyOf (earlier.foldl step start)) →
        ¬MishapOf step custodyOf supplyOf (earlier.foldl step start) move) :
    Sound (custodyOf (moves.foldl step start)) := by
  -- The induction is on the last move, as a mishap depends on the state that the others lead to.
  induction moves using List.reverseRecOn with
  | nil => exact hstart
  | append_singleton earlier move ih =>
    have hsound := ih fun first move hmoves =>
      hright first move (hmoves.trans (List.prefix_append earlier [_]))
    rw [List.foldl_append]
    exact (htrade _ move).sound hsound (hright earlier move (List.prefix_refl _) hsound)

/-- **Run.** What holds with a sound custody and fails with a broken one holds throughout a run
    exactly if nothing goes wrong. -/
theorem forall_prefix_iff (hstart : Sound (custodyOf start))
    (htrade : ∀ state move,
      Trade (custodyOf state) (custodyOf (step state move)) (supplyOf state move))
    (hgood : ∀ state, Sound (custodyOf state) → good state)
    (hbroken : ∀ state, Broken (custodyOf state) → ¬good state) (moves : List μ) :
    (∀ earlier, earlier <+: moves → good (earlier.foldl step start)) ↔
      ∀ earlier move, earlier ++ [move] <+: moves →
        ¬MishapOf step custodyOf supplyOf (earlier.foldl step start) move := by
  constructor
  · intro hall
    have hright : ∀ earlier move, earlier ++ [move] <+: moves →
        Sound (custodyOf (earlier.foldl step start)) →
          ¬MishapOf step custodyOf supplyOf (earlier.foldl step start) move := by
      intro earlier move hmoves hsound mishap
      have hafter := hall (earlier ++ [move]) hmoves
      rw [List.foldl_append] at hafter
      exact hbroken _ ((htrade _ move).broken hsound mishap) hafter
    intro earlier move hmoves
    refine hright earlier move hmoves (sound_foldl hstart htrade earlier fun first other h => ?_)
    exact hright first other (h.trans ((List.prefix_append earlier [move]).trans hmoves))
  · intro hright earlier hmoves
    exact hgood _ (sound_foldl hstart htrade earlier fun first move h _ =>
      hright first move (h.trans hmoves))

end

end Custody

end TensorLink
