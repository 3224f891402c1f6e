import Mathlib.Data.List.Infix
import TensorLink.Proofs.ClassDrivers
import TensorLink.Proofs.Download.Verification

/-!
# The class drivers of a download

A download opens the class driver of the loader once it has been enumerated, and closes it when the
device goes away, when the download is complete and when it fails. As with an attached accelerator,
the interface that is closed is the one that was attached last; but a download uses a class driver
as soon as it is open.

Results:
* `keeps_standing_onEntry`, `trade_enter_unattached`, `trade_enter_complete`, `custody_fail`: what
  is done about class drivers on entry to a state, and by a task that fails.
* `trade_receive`: what a message makes of the custody.
* `matched_iff_no_mishap`: openings and closings match throughout, exactly if no class driver is
  opened while one is in use, and none is given up while another interface is attached.
-/

namespace TensorLink

/-- Whether no class driver may be open in a state. -/
def DownloadState.isIdle : DownloadState → Bool
  | unattached | complete | error => true
  | _ => false

namespace DownloadTask

open Sequencing

variable {σ : Type}

/-- Where a download stands with its class drivers. -/
def custody (task : Observed σ) : Custody :=
  ⟨dealings task.world.calls, task.interface, task.handle.isSome, task.state.isIdle⟩

/-- The custody and the state. -/
def standing (task : Observed σ) : Custody × DownloadState := (custody task, task.state)

/-- At no time is more than one class driver open, and while the task is idle each one that was
    opened has been closed exactly once, under the same interface. -/
structure Matched (task : Observed σ) : Prop where
  atMostOne : ∀ earlier, earlier <+: (custody task).dealings →
    (openings earlier).length ≤ (closings earlier).length + 1
  idle : task.state.isIdle = true →
    (openings (custody task).dealings).Perm (closings (custody task).dealings)

section

variable (host : Host DownloadState σ) (listener : Listener σ)

/-- Whether a message opens a class driver. -/
def supply (task : Observed σ) : DownloadMessage → Supply
  | .host .enumerationDone =>
    match task.interface with
    | none => .nothing
    | some interface =>
      match host.recorded.openClass interface task.world with
      | .error _ _ => .nothing
      | .ok _ _ => .usable
  | _ => .nothing

/-- Whether a move opens a class driver. -/
def supplyOf (task : Observed σ) : Move σ → Supply
  | .message message => supply host task message
  | .outside .. => .nothing

/-! ## Entering states -/

/-- A call that neither opens nor closes a class driver. -/
def Unconcerned (call : HostCall DownloadState) : Prop := Dealing.ofCall? call = none

/-- What opens and closes nothing and keeps the class driver keeps the custody. -/
theorem keeps_standing {α : Type} {m : DeviceM (Observed σ) α} (hmakes : Makes Unconcerned m)
    (hkept : Keeps (fun task => (task.interface, task.handle, task.state)) m) :
    Keeps standing m := by
  intro task
  obtain ⟨more, hcalls, hmore⟩ := hmakes task
  obtain ⟨hinterface, hrest⟩ := Prod.mk.inj (hkept task)
  obtain ⟨hhandle, hstate⟩ := Prod.mk.inj hrest
  unfold standing custody
  rw [hcalls, dealings_append, dealings_eq_nil hmore, List.append_nil, hinterface, hhandle, hstate]

theorem keeps_standing_submit (request : DownloadState) (setup : UInt16 → SetupPacket)
    (data : Bytes) : Keeps standing (submit host.recorded request setup data) :=
  keeps_standing (makes_submit host request setup data fun _ _ _ => rfl)
    (keeps_submit host.recorded request setup data fun _ _ _ => rfl)

theorem keeps_standing_focus {α : Type} {entry : Except DriverError α → HostCall DownloadState}
    (operation : DeviceM σ α) (hentry : ∀ outcome, Unconcerned (entry outcome)) :
    Keeps standing (around.focus (Recorded.observe entry operation) : DeviceM (Observed σ) α) :=
  keeps_standing (makes_focus operation hentry) (keeps_focus _ fun _ _ => rfl)

/-- Entry to a state in which a request is made leaves the custody alone. -/
theorem keeps_standing_onEntry {state : DownloadState}
    (hstate : state ≠ .unattached ∧ state ≠ .attached ∧ state ≠ .complete) :
    Keeps standing (onEntry host.recorded state) := by
  obtain ⟨hunattached, hattached, hcomplete⟩ := hstate
  cases state with
  | unattached => exact absurd rfl hunattached
  | attached => exact absurd rfl hattached
  | complete => exact absurd rfl hcomplete
  | error => exact Keeps.pure ()
  | transfer =>
    exact fun task => keeps_standing_submit host _ _ _ { task with pending := task.nextUnit }
  | zeroLengthTransfer => exact fun task => keeps_standing_submit host _ _ _ task
  | readBack =>
    exact fun task => keeps_standing_submit host _ _ _
      { task with pending := task.nextUnit, readback := some (task.readback.getD []) }
  | _ => exact keeps_standing_submit host _ _ _

theorem standing_close (task : Observed σ) :
    standing (task.close host.recorded) =
      ({ (custody task).surrendered with idle := task.state.isIdle }, task.state) := by
  obtain ⟨world, image, state, interface, handle⟩ := task
  cases handle with
  | none => simp [close, standing, custody, Custody.surrendered, Custody.returning]
  | some handle =>
    cases interface with
    | none => simp [close, standing, custody, Custody.surrendered, Custody.returning]
    | some interface =>
      have hcalls : dealings (world.calls ++ [.closeClass interface]) =
          dealings world.calls ++ [.closed interface] := dealings_append ..
      exact Prod.ext (congrArg (Custody.mk · (some interface) false state.isIdle) hcalls) rfl

theorem custody_close (task : Observed σ) :
    custody (task.close host.recorded) =
      { (custody task).surrendered with idle := task.state.isIdle } :=
  congrArg Prod.fst (standing_close host task)

theorem custody_releaseReadback (task : Observed σ) :
    custody task.releaseReadback = custody task := by
  unfold releaseReadback
  split <;> rfl

theorem custody_failed (task : Observed σ) :
    custody (task.act listener.recorded.failed) = custody task := by
  have hcalls : dealings (task.world.calls ++ [.failed]) = dealings task.world.calls :=
    (dealings_append ..).trans (List.append_nil _)
  exact congrArg (Custody.mk · task.interface task.handle.isSome task.state.isIdle) hcalls

/-- A task that fails gives up its class driver. -/
theorem custody_fail (error : DriverError) {task : Observed σ} (hstate : task.state ≠ .error) :
    custody (task.fail host.recorded listener.recorded error) = (custody task).surrendered := by
  unfold fail
  rw [if_neg hstate]
  unfold enterError
  generalize hgone : ({ task with failure := some error }.goto .error).releaseReadback = gone
  have hcustody : custody gone = { custody task with idle := true } := by
    rw [← hgone, custody_releaseReadback]
    rfl
  have hidle : gone.state.isIdle = true := congrArg Custody.idle hcustody
  rw [custody_failed, custody_close, hcustody, hidle]
  rfl

/-- A task that fails in a state that it has just entered. -/
theorem trade_fail {task mid : Observed σ} {state : DownloadState}
    (hmid : standing mid = standing (task.goto state)) (hstate : state ≠ .error)
    (error : DriverError) :
    Custody.Trade (custody task)
      (custody (mid.fail host.recorded listener.recorded error)) .nothing := by
  obtain ⟨hcustody, hsame⟩ := Prod.mk.inj hmid
  have hne : mid.state ≠ .error := fun herror => hstate (hsame.symm.trans herror)
  rw [custody_fail host listener error hne, hcustody]
  exact .givenUp rfl (fun h => by cases h) rfl

/-- A task that enters a state in which a request is made keeps its class driver or fails. -/
theorem trade_enter_request {state : DownloadState} (hidle : state.isIdle = false)
    (hattached : state ≠ .attached) (task : Observed σ) :
    Custody.Trade (custody task)
      (custody (task.enter host.recorded listener.recorded state)) .nothing := by
  have hstate (other : DownloadState) (hother : other.isIdle = true) : state ≠ other := by
    rintro rfl
    rw [hidle] at hother
    cases hother
  have hkept := keeps_standing_onEntry host
    ⟨hstate .unattached rfl, hattached, hstate .complete rfl⟩ (task.goto state)
  unfold enter
  cases hentry : onEntry host.recorded state (task.goto state) with
  | ok _ mid =>
    rw [hentry] at hkept
    have hmid : custody mid = { custody task with idle := state.isIdle } :=
      (Prod.mk.inj hkept).1
    rw [hmid]
    exact .kept rfl rfl fun h => by rw [hidle] at h; cases h
  | error error mid =>
    rw [hentry] at hkept
    exact trade_fail host listener hkept (hstate .error rfl) error

theorem trade_enter_unattached (task : Observed σ) :
    Custody.Trade (custody task)
      (custody (task.enter host.recorded listener.recorded .unattached)) .nothing := by
  have hentered : task.enter host.recorded listener.recorded .unattached =
      (task.goto .unattached).close host.recorded := rfl
  rw [hentered, custody_close]
  exact .givenUp rfl (fun h => by cases h) rfl

/-- A task without a class driver has nothing to give up. -/
theorem surrendered_surrendered (custody : Custody) :
    custody.surrendered.surrendered = custody.surrendered :=
  congrArg (Custody.mk · custody.interface false true) (List.append_nil _)

/-- A download that ends gives up its class driver, whether its end succeeds or fails. -/
theorem trade_enter_complete (task : Observed σ) :
    Custody.Trade (custody task)
      (custody (task.enter host.recorded listener.recorded .complete)) .nothing := by
  have hreset : Keeps standing (around.focus host.recorded.resetBus : DeviceM (Observed σ) Unit) :=
    keeps_standing_focus host.resetBus fun _ => rfl
  have hrequest : Keeps standing
      (around.focus host.recorded.requestReenumeration : DeviceM (Observed σ) Unit) :=
    keeps_standing_focus host.requestReenumeration fun _ => rfl
  unfold enter
  rw [show onEntry host.recorded .complete = finish host.recorded from rfl, finish]
  cases hended : around.focus host.recorded.resetBus (task.goto .complete) with
  | error error mid =>
    rw [bind_of_error hended]
    exact trade_fail host listener (hreset.of_error hended) (by simp) error
  | ok _ mid =>
    obtain ⟨hmid, hstate⟩ := Prod.mk.inj (hreset.of_ok hended)
    have hclosed : standing (mid.close host.recorded) =
        ((custody task).surrendered, .complete) := by
      rw [standing_close, hmid, hstate]
      rfl
    have hclose : (modify (close host.recorded) : DeviceM (Observed σ) Unit) mid =
        .ok () (mid.close host.recorded) := rfl
    rw [bind_of_ok hended, bind_of_ok hclose]
    -- Nothing is left to give up if the host refuses from here on.
    cases hasked : around.focus host.recorded.requestReenumeration (mid.close host.recorded) with
    | error error last =>
      obtain ⟨hlast, hcomplete⟩ := Prod.mk.inj ((hrequest.of_error hasked).trans hclosed)
      have hne : last.state ≠ .error := by
        rw [hcomplete]
        simp
      dsimp only
      rw [custody_fail host listener error hne, hlast, surrendered_surrendered]
      exact .givenUp rfl (fun h => by cases h) rfl
    | ok _ last =>
      obtain ⟨hlast, -⟩ := Prod.mk.inj ((hrequest.of_ok hasked).trans hclosed)
      dsimp only
      rw [hlast]
      exact .givenUp rfl (fun h => by cases h) rfl

/-- A class driver that has just been opened is used, or closed if the interface is refused. -/
theorem trade_enter_setInterface {task mid : Observed σ} {interface : Interface}
    (hmid : custody mid =
      ⟨(custody task).dealings ++ [.opened interface], some interface, true, false⟩) :
    Custody.Trade (custody task)
      (custody (mid.enter host.recorded listener.recorded .setInterface)) .usable := by
  have hkept := keeps_standing_onEntry host (show DownloadState.setInterface ≠ .unattached ∧
    DownloadState.setInterface ≠ .attached ∧ DownloadState.setInterface ≠ .complete by simp)
    (mid.goto .setInterface)
  have hentered : custody (mid.goto .setInterface) = custody mid := by
    rw [hmid, show custody (mid.goto .setInterface) = { custody mid with idle := false } from rfl,
      hmid]
  unfold enter
  cases hentry : onEntry host.recorded .setInterface (mid.goto .setInterface) with
  | ok _ last =>
    rw [hentry] at hkept
    have hlast : custody last = custody mid := (Prod.mk.inj hkept).1.trans hentered
    dsimp only
    rw [hlast, hmid]
    exact .taken interface rfl rfl rfl
  | error error last =>
    rw [hentry] at hkept
    obtain ⟨hlast, hstate⟩ := Prod.mk.inj hkept
    have hne : last.state ≠ .error := by
      rw [show last.state = .setInterface from hstate]
      simp
    dsimp only
    rw [custody_fail host listener error hne, show custody last = custody mid from
      hlast.trans hentered, hmid]
    exact .returned interface (List.append_assoc ..) rfl rfl

/-- The class driver of an enumerated device is taken, or returned at once, if it opens. -/
theorem trade_enterAttached {task : Observed σ} {interface : Interface}
    (hinterface : task.interface = some interface) :
    Custody.Trade (custody task)
      (custody (task.enterAttached host.recorded listener.recorded))
      (supply host task (.host .enumerationDone)) := by
  have hattached : (task.goto .attached).interface = some interface := hinterface
  unfold enterAttached
  rw [show onEntry host.recorded .attached = openClass host.recorded from rfl,
    openClass_some host.recorded hattached]
  cases hclass : host.recorded.openClass interface task.world with
  | error error world =>
    have hsupply : supply host task (.host .enumerationDone) = .nothing := by
      simp only [supply, hinterface, hclass]
    have hdealings : dealings world.calls = dealings task.world.calls := by
      rw [Recorded.calls_of_observe_error hclass, dealings_append]
      exact List.append_nil _
    have hmid : standing (around.replace world (task.goto .attached)) =
        standing (task.goto .attached) :=
      Prod.ext (congrArg (Custody.mk · task.interface task.handle.isSome false) hdealings) rfl
    rw [hsupply, bind_of_error (Part.focus_of_error around (task.goto .attached) hclass)]
    exact trade_fail host listener hmid (by simp) error
  | ok handle world =>
    have hsupply : supply host task (.host .enumerationDone) = .usable := by
      simp only [supply, hinterface, hclass]
    have hdealings : dealings world.calls = dealings task.world.calls ++ [.opened interface] := by
      rw [Recorded.calls_of_observe_ok hclass, dealings_append]
      rfl
    rw [hsupply, bind_of_ok (Part.focus_of_ok around (task.goto .attached) hclass)]
    have hmid : custody ({ around.replace world (task.goto .attached) with
        handle := some handle } : Observed σ) =
          ⟨(custody task).dealings ++ [.opened interface], some interface, true, false⟩ := by
      rw [show (custody task).dealings = dealings task.world.calls from rfl, ← hdealings,
        ← hinterface]
      rfl
    exact trade_enter_setInterface host listener hmid

/-! ## Messages -/

/-- A reply to a request leads to another request or to the end of the download. -/
theorem Answered.isIdle_eq {reply : Bytes} {request next : DownloadState}
    {task mid : DownloadTask σ} (h : Answered reply task request (some next) mid) :
    next ≠ .attached ∧ (next.isIdle = false ∨ next = .complete) := by
  cases h with
  | getStatus => split <;> simp [DownloadState.isIdle]
  | _ => simp [DownloadState.isIdle]

/-- A completion opens no class driver. -/
theorem trade_receiveCompletion (request : DownloadState) (result : Except DriverError Bytes)
    (task : Observed σ) :
    Custody.Trade (custody task)
      (custody (task.receive host.recorded listener.recorded (.completed request result)))
      .nothing := by
  have hcase := received_receive host.recorded listener.recorded (.completed request result) task
  generalize task.receive host.recorded listener.recorded (.completed request result) = final
    at hcase
  cases hcase with
  | ignored => exact .kept rfl rfl id
  | attached hmessage => cases hmessage
  | enumerated hmessage => cases hmessage
  | detached hmessage => cases hmessage
  | @failed mid error hstate hmid =>
    have hsame : standing mid = standing task :=
      show standing (core mid) = standing (core task) from congrArg standing hmid
    have hne : mid.state ≠ .error := fun h => hstate ((congrArg Prod.snd hsame).symm.trans h)
    rw [custody_fail host listener error hne, show custody mid = custody task from
      congrArg Prod.fst hsame]
    exact .givenUp rfl (fun h => by cases h) rfl
  | @advanced reply next mid hmessage hcompleted =>
    have hcore : core mid = core task := (keeps_completed task.state reply).of_ok hcompleted
    have hsame : custody mid = custody task :=
      show custody (core mid) = custody (core task) from congrArg custody hcore
    obtain ⟨hattached, hidle | rfl⟩ := (answered_of_completed hcompleted).isIdle_eq
    · rw [← hsame]
      exact trade_enter_request host listener hidle hattached mid
    · rw [← hsame]
      exact trade_enter_complete host listener mid

/-- **Message.** Whatever a message does about class drivers is a trade. -/
theorem trade_receive (message : DownloadMessage) (task : Observed σ) :
    Custody.Trade (custody task)
      (custody (task.receive host.recorded listener.recorded message))
      (supply host task message) := by
  cases message with
  | completed request result => exact trade_receiveCompletion host listener request result task
  | host event =>
    cases event with
    | attach interfaces => exact .kept rfl rfl id
    | detach => exact trade_enter_unattached host listener task
    | transferFailed reason =>
      change Custody.Trade _ (custody (task.fail host.recorded listener.recorded _)) _
      by_cases hstate : task.state = .error
      · rw [fail_error host.recorded listener.recorded _ hstate]
        exact .kept rfl rfl id
      · rw [custody_fail host listener _ hstate]
        exact .givenUp rfl (fun h => by cases h) rfl
    | enumerationDone =>
      change Custody.Trade _ (custody (if task.interface.isSome then _ else _)) _
      cases hinterface : task.interface with
      | none =>
        have hsupply : supply host task (.host .enumerationDone) = .nothing := by
          simp only [supply, hinterface]
        rw [hsupply]
        exact .kept rfl rfl id
      | some interface => exact trade_enterAttached host listener hinterface

/-- **Step.** So is whatever a move does about them. -/
theorem trade_step (task : Observed σ) (move : Move σ) :
    Custody.Trade (custody task) (custody (step host listener move task))
      (supplyOf host task move) := by
  cases move with
  | message message => exact trade_receive host listener message task
  | outside => exact .kept rfl rfl id

end

/-! ## Runs -/

theorem matched_of_sound {task : Observed σ} (sound : (custody task).Sound) : Matched task := by
  obtain ⟨held, horderly, -⟩ := sound.orderly
  refine ⟨fun earlier hearlier => horderly.length_openings_le hearlier, fun hidle => ?_⟩
  have hfree : Orderly (custody task).dealings none := sound.of_not_inUse (sound.idle hidle)
  rw [hfree.openings_eq, Option.toList_none, List.append_nil]

theorem not_matched_of_broken {task : Observed σ} (broken : (custody task).Broken) :
    ¬Matched task := by
  intro matched
  obtain htwo | ⟨hidle, hperm⟩ := broken
  · have hone := matched.atMostOne _ (List.prefix_refl _)
    omega
  · exact hperm (matched.idle hidle)

/-- **Class drivers.** Whatever happens to a download, in any order: no more than one class driver
    is ever open, and while the task is idle each one that was opened has been closed exactly once,
    exactly if there is no mishap: none is opened while another one is in use, and the one in use is
    given up only while the interface is attached that it was opened for. -/
theorem matched_iff_no_mishap (host : Host DownloadState σ) (listener : Listener σ) (world : σ)
    (image : Bytes) (moves : List (Move σ)) :
    let start : Observed σ := { world := { inner := world }, image }
    (∀ earlier, earlier <+: moves → Matched (play host listener earlier start)) ↔
      ∀ earlier move, earlier ++ [move] <+: moves →
        ¬Custody.Mishap (custody (play host listener earlier start))
          (custody (step host listener move (play host listener earlier start)))
          (supplyOf host (play host listener earlier start) move) := by
  intro start
  refine Custody.forall_prefix_iff ?_ (trade_step host listener) (fun task => matched_of_sound)
    (fun task => not_matched_of_broken) moves
  exact ⟨⟨none, .nil, rfl⟩, fun _ => rfl⟩

instance (task : Observed σ) : Decidable (Matched task) :=
  decidable_of_iff
    ((∀ earlier ∈ (custody task).dealings.inits,
        (openings earlier).length ≤ (closings earlier).length + 1) ∧
      (task.state.isIdle = true →
        (openings (custody task).dealings).Perm (closings (custody task).dealings)))
    ⟨fun ⟨atMostOne, idle⟩ =>
        ⟨fun earlier h => atMostOne earlier ((List.mem_inits earlier _).mpr h), idle⟩,
      fun ⟨atMostOne, idle⟩ =>
        ⟨fun earlier h => atMostOne earlier ((List.mem_inits earlier _).mp h), idle⟩⟩

/-- A loader comes, is asked for its status, and goes away. -/
def loaderVisit : List (Move Unit) :=
  [.message (.host (.attach Interface.download)), .message (.host .enumerationDone),
    .message (.completed .setInterface (.ok [])), .message (.host .detach)]

/-- Nothing goes wrong with one device at a time, even if it goes away in the middle. -/
theorem no_mishap_loaderVisit :
    let start : Observed Unit := { world := { inner := () }, image := [7] }
    let after (moves : List (Move Unit)) := play patientHost (.silent Unit) moves start
    (∀ earlier ∈ loaderVisit.inits, Matched (after earlier)) ∧
      ∀ earlier move, earlier ++ [move] <+: loaderVisit →
        ¬Custody.Mishap (custody (after earlier))
          (custody (step patientHost (.silent Unit) move (after earlier)))
          (supplyOf patientHost (after earlier) move) := by
  intro start after
  have hall : ∀ earlier ∈ loaderVisit.inits, Matched (after earlier) := by decide
  exact ⟨hall, (matched_iff_no_mishap patientHost (.silent Unit) () [7] loaderVisit).mp
    fun earlier h => hall earlier ((List.mem_inits earlier loaderVisit).mpr h)⟩

/-- A device without a loader is attached before the loader goes away. -/
def overlapMoves : List (Move Unit) :=
  [.message (.host (.attach Interface.download)), .message (.host .enumerationDone),
    .message (.host (.attach Interface.application)), .message (.host .detach)]

/-- The class driver of the loader stays open. -/
theorem not_matched_of_overlap :
    ¬∀ (σ : Type) (host : Host DownloadState σ) (listener : Listener σ) (world : σ) (image : Bytes)
      (moves : List (Move σ)),
      Matched (play host listener moves { world := { inner := world }, image }) := by
  intro h
  have hoverlap := (h Unit patientHost (.silent Unit) () [7] overlapMoves).idle rfl
  cases hoverlap.length_eq

end DownloadTask

end TensorLink
