import TensorLink.Proofs.Recording
import TensorLink.Task.Power

/-!
# When the power switch is driven

Power is counted. The switch has to be driven when the count leaves zero and when it comes back to
zero, and at no other time.

The task looks at the count after a request only. Where a user gives up power that nobody holds, the
count stays at zero, and the switch is driven off once more.

Results:
* `calls_setPower`: how one request drives the switch.
* `driven_eq_edge_iff`: which requests drive it as the count changes.
* `onEdge_cons`, `matched_cons`: both properties of a course, from its first move.
* `onEdge_iff_matched`: the switch is driven on edges exactly if power is given up by holders only.
-/

namespace TensorLink

variable {σ : Type}

/-- The switch that keeps the positions that it has been driven to. -/
def PowerSwitch.recorded (power : PowerSwitch σ) : PowerSwitch (Recorded σ Bool) :=
  ⟨fun on => Recorded.watch (fun _ => on) (power.drive on)⟩

namespace AttachTask

/-! ## Specification -/

/-- What may happen to a task, as far as its power is concerned. -/
inductive PowerMove (σ : Type) where
  | request (enable : Bool)
  /-- Anything else: the task and its world change, but nobody asks for power or gives it up. -/
  | other (task : AttachTask σ)

/-- The request of a move, if it is one. -/
def PowerMove.request? : PowerMove σ → Option Bool
  | request enable => some enable
  | other _ => none

/-- The requests for power, `true` where one asks for it and `false` where one gives it up. -/
def requests (moves : List (PowerMove σ)) : List Bool := moves.filterMap PowerMove.request?

/-- Makes a move. -/
def turn (power : PowerSwitch σ) (task : AttachTask (Recorded σ Bool)) :
    PowerMove σ → AttachTask (Recorded σ Bool)
  | .request enable => (task.setPower power.recorded enable).2
  | .other task' =>
    { world := { task.world with inner := task'.world }
      state := task'.state
      interface := task'.interface
      handle := task'.handle
      pipes := task'.pipes
      inbox := task'.inbox
      entered := task'.entered
      users := task.users }

/-- Makes one move after the other. -/
def turns (power : PowerSwitch σ) (moves : List (PowerMove σ))
    (task : AttachTask (Recorded σ Bool)) : AttachTask (Recorded σ Bool) :=
  moves.foldl (turn power) task

/-- The number of users after requests. Giving up what nobody holds leaves it at zero. -/
def usersSince (users : Nat) (requests : List Bool) : Nat :=
  requests.foldl (fun users enable => usersAfter enable users) users

/-- How a switch has to be driven when the number of users changes. -/
def edge : Nat → Nat → List Bool
  | 0, _ + 1 => [true]
  | _ + 1, 0 => [false]
  | _, _ => []

/-- How a switch has to be driven over requests. -/
def edges : Nat → List Bool → List Bool
  | _, [] => []
  | users, enable :: rest =>
    let users' := usersAfter enable users
    edge users users' ++ edges users' rest

/-- At every moment the switch has been driven where the number of users has changed between zero
    and more, and nowhere else. -/
def OnEdge (power : PowerSwitch σ) (moves : List (PowerMove σ))
    (task : AttachTask (Recorded σ Bool)) : Prop :=
  ∀ earlier, earlier <+: moves →
    (turns power earlier task).world.calls = task.world.calls ++ edges task.users (requests earlier)

/-- At no moment has power been given up more often than it was held or asked for. -/
def Matched (users : Nat) (requests : List Bool) : Prop :=
  ∀ earlier, earlier <+: requests → earlier.count false ≤ users + earlier.count true

/-! ## One request -/

theorem world_postAll {κ : Type} (events : List HostEvent) (task : AttachTask (Recorded σ κ)) :
    (task.postAll events).2.world = task.world := by
  induction events generalizing task with
  | nil => rfl
  | cons event rest ih =>
    unfold postAll post
    by_cases hfailed : task.state = .error
    · simp [hfailed]
    · simp [hfailed, ih]

/-- How a request drives the switch. -/
def driven (enable : Bool) (users : Nat) : List Bool :=
  if drives enable (usersAfter enable users) then [enable] else []

/-- Whatever comes of driving the switch, it has been driven. -/
theorem calls_setPower (power : PowerSwitch σ) (enable : Bool)
    (task : AttachTask (Recorded σ Bool)) :
    (task.setPower power.recorded enable).2.world.calls =
      task.world.calls ++ driven enable task.users := by
  unfold driven
  split
  · rename_i hdrives
    unfold setPower
    simp only [hdrives, if_true, PowerSwitch.recorded, Recorded.watch]
    cases (power.drive enable task.world.inner).1 with
    | error error => rfl
    | ok events =>
      refine (congrArg Recorded.calls (world_postAll events _)).trans ?_
      rfl
  · rename_i hdrives
    rw [setPower_held power.recorded enable task (by simpa using hdrives), List.append_nil]

/-- Only giving up what nobody holds drives the switch otherwise than the number of users says. -/
theorem driven_eq_edge_iff (enable : Bool) (users : Nat) :
    driven enable users = edge users (usersAfter enable users) ↔ enable = true ∨ 0 < users := by
  cases enable with
  | true => cases users <;> simp [driven, drives, usersAfter, edge]
  | false =>
    rcases users with _ | _ | users
    · simp [driven, drives, usersAfter, edge]
    · simp [driven, drives, usersAfter, edge]
    · simp [driven, drives, usersAfter, edge]

/-! ## Courses -/

section

variable (power : PowerSwitch σ)

theorem requests_cons (move : PowerMove σ) (moves : List (PowerMove σ)) :
    requests (move :: moves) = requests [move] ++ requests moves :=
  List.filterMap_append (l := [move])

theorem usersSince_append (users : Nat) (earlier later : List Bool) :
    usersSince users (earlier ++ later) = usersSince (usersSince users earlier) later :=
  List.foldl_append

theorem edges_append (users : Nat) (earlier later : List Bool) :
    edges users (earlier ++ later) =
      edges users earlier ++ edges (usersSince users earlier) later := by
  induction earlier generalizing users with
  | nil => rfl
  | cons enable earlier ih =>
    show edge _ _ ++ edges _ (earlier ++ later) = _
    rw [ih, ← List.append_assoc]
    rfl

theorem users_turn (task : AttachTask (Recorded σ Bool)) (move : PowerMove σ) :
    (turn power task move).users = usersSince task.users (requests [move]) := by
  cases move with
  | request enable => exact users_setPower power.recorded enable task
  | other => rfl

theorem users_turns (moves : List (PowerMove σ)) (task : AttachTask (Recorded σ Bool)) :
    (turns power moves task).users = usersSince task.users (requests moves) := by
  induction moves generalizing task with
  | nil => rfl
  | cons move moves ih =>
    rw [requests_cons, usersSince_append, ← users_turn power task move]
    exact ih (turn power task move)

/-- A course drives the switch on edges if its first move does, and the rest of it. -/
theorem onEdge_cons (move : PowerMove σ) (moves : List (PowerMove σ))
    (task : AttachTask (Recorded σ Bool)) :
    OnEdge power (move :: moves) task ↔
      (turn power task move).world.calls = task.world.calls ++ edges task.users (requests [move]) ∧
        OnEdge power moves (turn power task move) := by
  -- After the first move, what is missing of the edges is what is missing after it.
  have hrest : ∀ earlier, edges task.users (requests (move :: earlier)) =
      edges task.users (requests [move]) ++
        edges (turn power task move).users (requests earlier) := fun earlier => by
    rw [requests_cons, edges_append, users_turn]
  constructor
  · intro h
    have hfirst := h [move] ((List.prefix_cons_inj move).mpr List.nil_prefix)
    refine ⟨hfirst, fun earlier hearlier => ?_⟩
    have hmore := h (move :: earlier) ((List.prefix_cons_inj move).mpr hearlier)
    rw [hrest, ← List.append_assoc, ← hfirst] at hmore
    exact hmore
  · rintro ⟨hfirst, h⟩ earlier hearlier
    rcases List.prefix_cons_iff.mp hearlier with rfl | ⟨later, rfl, hlater⟩
    · exact (List.append_nil _).symm
    · rw [hrest, ← List.append_assoc, ← hfirst]
      exact h later hlater

theorem matched_nil (users : Nat) : Matched users [] := by
  intro earlier hearlier
  rw [List.prefix_nil.mp hearlier]
  exact Nat.zero_le _

/-- Power is given up by holders only if the first request is one of a holder, if it gives up power,
    and so are the others. -/
theorem matched_cons (users : Nat) (enable : Bool) (rest : List Bool) :
    Matched users (enable :: rest) ↔
      (enable = true ∨ 0 < users) ∧ Matched (usersAfter enable users) rest := by
  constructor
  · intro h
    have hfirst := h [enable] ((List.prefix_cons_inj enable).mpr List.nil_prefix)
    refine ⟨?_, fun earlier hearlier => ?_⟩
    · cases enable with
      | true => exact .inl rfl
      | false => exact .inr hfirst
    · have hmore := h (enable :: earlier) ((List.prefix_cons_inj enable).mpr hearlier)
      cases enable <;> simp [usersAfter] at hmore hfirst ⊢ <;> omega
  · rintro ⟨hfirst, h⟩ earlier hearlier
    rcases List.prefix_cons_iff.mp hearlier with rfl | ⟨later, rfl, hlater⟩
    · exact Nat.zero_le _
    · have hmore := h later hlater
      cases enable <;> simp [usersAfter] at hmore hfirst ⊢ <;> omega

/-! ## Main theorem -/

/-- **Edges.** Over every course of a task, from any number of users on and for every switch: at
    every moment the switch has been driven on where the number of users has left zero, off where it
    has come back to zero, and at no other time, exactly if nobody has given up power that nobody
    held. Whoever asks is told that there is power exactly if the number of users is positive. -/
theorem onEdge_iff_matched (moves : List (PowerMove σ)) (task : AttachTask (Recorded σ Bool)) :
    (OnEdge power moves task ↔ Matched task.users (requests moves)) ∧
      ((turns power moves task).powered = true ↔ 0 < usersSince task.users (requests moves)) := by
  constructor
  · induction moves generalizing task with
    | nil =>
      refine iff_of_true (fun earlier hearlier => ?_) (matched_nil task.users)
      rw [List.prefix_nil.mp hearlier]
      exact (List.append_nil _).symm
    | cons move moves ih =>
      rw [onEdge_cons, ih]
      cases move with
      | request enable =>
        show (task.setPower power.recorded enable).2.world.calls = _ ++ (edge _ _ ++ []) ∧ _ ↔
          Matched task.users (enable :: requests moves)
        rw [matched_cons, calls_setPower, users_turn, List.append_nil, List.append_cancel_left_eq,
          driven_eq_edge_iff]
        rfl
      | other => exact and_iff_right (List.append_nil _).symm
  · rw [← users_turns]
    exact decide_eq_true_iff

end

/-- Two users ask for power and give it up, a third one comes later. -/
theorem onEdge_threeUsers :
    let task : AttachTask (Recorded Unit Bool) := { world := { inner := () } }
    let moves : List (PowerMove Unit) := [true, true, false, false, true].map .request
    Matched 0 (requests moves) ∧ OnEdge (.plug Unit Interface.application) moves task ∧
      (turns (.plug Unit Interface.application) moves task).world.calls = [true, false, true] := by
  intro task moves
  have hmatched : Matched 0 (requests moves) := by
    show Matched 0 [true, true, false, false, true]
    simp [matched_cons, matched_nil, usersAfter]
  exact ⟨hmatched, (onEdge_iff_matched _ moves task).1.mpr hmatched, rfl⟩

/-- Power is asked for once and given up twice: the second time nobody holds it, and the switch is
    driven off although it is off. -/
theorem not_onEdge_of_unmatched :
    ¬∀ (σ : Type) (power : PowerSwitch σ) (world : σ) (moves : List (PowerMove σ)),
      let task : AttachTask (Recorded σ Bool) := { world := { inner := world } }
      OnEdge power moves task ∧
        ((turns power moves task).powered = true ↔ 0 < usersSince 0 (requests moves)) := by
  intro h
  have hcalls := (h Unit (.alwaysOn Unit) () [.request true, .request false, .request false]).1 _
    (List.prefix_refl _)
  exact absurd hcalls (by decide)

end AttachTask

end TensorLink
