import Mathlib.Data.List.Induction
import TensorLink.Proofs.Download.Calls

/-!
# Firmware is verified before it is started

A device is told to detach, which starts the firmware that it holds, only on the reply after which
the task has compared all that it has read back with the image. The bus is reset, and devices are
enumerated again, only two states later, and no device has been attached or detached in between.

Results:
* `readback_play`: the readback is what the accepted uploads have returned since it was begun.
* `detach_of_verified`: the calls that start firmware are made only after a comparison without a
  difference.
-/

namespace TensorLink.DownloadTask

open Sequencing

variable {σ : Type}

/-! ## Specification -/

/-- A request to detach. -/
def isDetach : HostCall DownloadState → Bool
  | .control _ _ setup _ _ => setup.request == DfuRequest.detach
  | _ => false

/-- A call that ends a download. -/
def isFinish : HostCall DownloadState → Bool
  | .resetBus _ | .requestReenumeration _ => true
  | _ => false

/-- What a move adds to the readback. -/
def added (task : Observed σ) : Move σ → Bytes
  | .message message => task.accepted message
  | .outside .. => []

section

variable (host : Host DownloadState σ) (listener : Listener σ)

/-- What the accepted uploads of a play have returned since the readback was begun, after `octets`
    of it. -/
def collectFrom (octets : Bytes) : List (Move σ) → Observed σ → Bytes
  | [], _ => octets
  | move :: moves, task =>
    let next := step host listener move task
    match next.readback with
    | none => collectFrom [] moves next
    | some _ => collectFrom (octets ++ added task move) moves next

/-- After a play, a move brings the reply on which all that has been read back is compared with the
    image, and found equal in length and in every octet. -/
structure Verifies (start : Observed σ) (moves : List (Move σ)) (move : Move σ) : Prop where
  state_eq : (play host listener moves start).state = .getStatusRead
  reply : ∃ reply, move = .message (.completed .getStatusRead (.ok reply)) ∧
    checkStatus reply = .ok ()
  readback_eq : (play host listener moves start).readback = some start.image
  collected_eq : collectFrom host listener [] moves start = start.image

/-- A play has come to such a comparison, and the task has entered the given states since, the
    latest first, and no others. -/
def SinceVerified (start : Observed σ) (moves : List (Move σ)) (entered : List DownloadState) :
    Prop :=
  ∃ earlier compare later, moves = earlier ++ compare :: later ∧
    Verifies host listener start earlier compare ∧
    (play host listener moves start).history =
      entered ++ (play host listener earlier start).history

/-- After a play, a move brings the reply on which a download ends. -/
structure Finishes (start : Observed σ) (moves : List (Move σ)) (move : Move σ) : Prop where
  state_eq : (play host listener moves start).state = .checkStatus
  reply : ∃ reply, move = .message (.completed .checkStatus (.ok reply)) ∧
    checkStatus reply = .ok ()
  entered : Entered .complete (play host listener moves start)
      (play host listener (moves ++ [move]) start) ∨
    Failed [.complete] (play host listener moves start)
      (play host listener (moves ++ [move]) start)
  verified : SinceVerified host listener start moves [.checkStatus, .detach]

/-! ## The readback -/

theorem step_readback (move : Move σ) (task : Observed σ) :
    Extends (added task move) task.readback (step host listener move task).readback := by
  cases move with
  | message message => exact receive_readback host.recorded listener.recorded message task
  | outside => exact Extends.refl _

/-- The readback is what the accepted uploads have returned since it was begun. -/
theorem readback_play (moves : List (Move σ)) (task : Observed σ) :
    (play host listener moves task).readback.getD [] =
      collectFrom host listener (task.readback.getD []) moves task := by
  induction moves generalizing task with
  | nil => rfl
  | cons move moves ih =>
    have hplay : play host listener (move :: moves) task =
        play host listener moves (step host listener move task) := rfl
    rw [hplay, ih, collectFrom]
    obtain h | h := step_readback host listener move task
    · simp only [h]
      rfl
    · simp only [h]
      rfl

/-! ## The way to the end of a download -/

theorem image_step (move : Move σ) (task : Observed σ) :
    (step host listener move task).image = task.image := by
  cases move with
  | outside => rfl
  | message message =>
    obtain h | h | ⟨_, _, _, _, _, h⟩ := receive_state host.recorded listener.recorded message task
    · exact (Prod.mk.inj h).1
    · exact h.1
    · exact (Prod.mk.inj h).1

theorem image_play (moves : List (Move σ)) (task : Observed σ) :
    (play host listener moves task).image = task.image := by
  induction moves generalizing task with
  | nil => rfl
  | cons move moves ih => exact (ih _).trans (image_step host listener move task)

section Start

variable {start : Observed σ} (hfresh : start.readback = none) (himage : start.image ≠ [])

include hfresh himage in
/-- A reply that leads to `detach` is one on which the comparison finds no difference. -/
theorem verifies_of_completed {moves : List (Move σ)} {message : DownloadMessage} {reply : Bytes}
    {mid : Observed σ}
    (hmessage : message = .completed (play host listener moves start).state (.ok reply))
    (h : completed (play host listener moves start).state reply (play host listener moves start) =
      .ok (some .detach) mid) : Verifies host listener start moves (.message message) := by
  have hcollected := readback_play host listener moves start
  rw [hfresh, Option.getD_none] at hcollected
  obtain ⟨hstate, hstatus, -, hverify⟩ := (answered_of_completed h).of_detach
  have hequal := (verify_eq_ok_iff.mp hverify).1
  rw [image_play] at hequal
  refine ⟨hstate, ⟨reply, by rw [hmessage, hstate], hstatus⟩, ?_, by rw [← hcollected, hequal]⟩
  cases hreadback : (play host listener moves start).readback with
  | none => rw [hreadback] at hequal; exact absurd hequal.symm himage
  | some buffer => rw [hreadback] at hequal; exact congrArg some hequal

include hfresh himage in
/-- In `detach` and in `checkStatus` no other states have been entered since a comparison. -/
theorem sinceVerified_play (hstate : start.state = .unattached) (moves : List (Move σ)) :
    ((play host listener moves start).state = .detach →
        SinceVerified host listener start moves [.detach]) ∧
      ((play host listener moves start).state = .checkStatus →
        SinceVerified host listener start moves [.checkStatus, .detach]) := by
  induction moves using List.reverseRec with
  | nil =>
    exact ⟨fun h => absurd (hstate.symm.trans h) (by simp),
      fun h => absurd (hstate.symm.trans h) (by simp)⟩
  | append_singleton moves move ih =>
    -- What the move enters comes on top of what has been entered since the comparison.
    have hmove : ∀ more entered,
        (step host listener move (play host listener moves start)).history =
          more ++ (play host listener moves start).history →
        SinceVerified host listener start moves entered →
        SinceVerified host listener start (moves ++ [move]) (more ++ entered) := by
      rintro more entered hhistory ⟨earlier, compare, later, hmoves, hverifies, hentered⟩
      refine ⟨earlier, compare, later ++ [move], ?_, hverifies, ?_⟩
      · rw [hmoves, List.append_assoc, List.cons_append]
      · rw [play_concat, hhistory, hentered, List.append_assoc]
    rw [play_concat]
    cases move with
    | outside => exact ⟨fun h => hmove [] _ rfl (ih.1 h), fun h => hmove [] _ rfl (ih.2 h)⟩
    | message message =>
      rw [step]
      obtain h | ⟨-, h⟩ | ⟨reply, next, mid, hmessage, hcompleted, h⟩ :=
        receive_state host.recorded listener.recorded message (play host listener moves start)
      · obtain ⟨-, hpair⟩ := Prod.mk.inj h
        obtain ⟨hsame, hhistory⟩ := Prod.mk.inj hpair
        rw [hsame]
        exact ⟨fun h => hmove [] _ hhistory (ih.1 h), fun h => hmove [] _ hhistory (ih.2 h)⟩
      · constructor <;> intro h' <;> rw [h'] at h <;> simp at h
      · obtain ⟨-, hpair⟩ := Prod.mk.inj h
        obtain ⟨hnext, hhistory⟩ := Prod.mk.inj hpair
        rw [hnext]
        constructor
        · rintro rfl
          refine ⟨moves, .message message, [], rfl, ?_, by rw [play_concat]; exact hhistory⟩
          exact verifies_of_completed host listener hfresh himage hmessage hcompleted
        · rintro rfl
          obtain ⟨hdetach, -⟩ := (answered_of_completed hcompleted).of_checkStatus
          exact hmove [.checkStatus] _ hhistory (ih.1 hdetach)

include hfresh himage in
/-- A reply that leads to `complete` ends a download that has been verified. -/
theorem finishes_of_completed (hstate : start.state = .unattached) {moves : List (Move σ)}
    {message : DownloadMessage} {reply : Bytes} {mid : Observed σ}
    (hmessage : message = .completed (play host listener moves start).state (.ok reply))
    (h : completed (play host listener moves start).state reply (play host listener moves start) =
      .ok (some .complete) mid) :
    Finishes host listener start moves (.message message) := by
  have henter := receive_eq_enter host.recorded listener.recorded hmessage h
  obtain ⟨hcheck, hstatus, rfl⟩ := (answered_of_completed h).of_complete
  refine ⟨hcheck, ⟨reply, by rw [hmessage, hcheck], hstatus⟩, ?_,
    (sinceVerified_play host listener hfresh himage hstate moves).2 hcheck⟩
  rw [play_concat, step, henter]
  exact enter_cases host.recorded listener.recorded (by simp) _

end Start

/-! ## Main theorem -/

theorem proper_isDetach : Proper isDetach .detach := by
  have honly (state : DownloadState) (hother : state ≠ .detach) :
      requestCode state ≠ some DfuRequest.detach := by
    cases state <;> first | exact absurd rfl hother | decide
  exact proper_isRequest honly (by simp)

theorem proper_isFinish : Proper isFinish .complete where
  other state' hne call hcall := by
    cases hcall with
    | resetBus => exact absurd rfl hne
    | requestReenumeration => exact absurd rfl hne
    | _ => rfl
  close _ := rfl
  failed := rfl
  ne := by simp

/-- **Verified firmware only.** For every image that is taken, every host and listener, and every
    play: a move makes a request to detach only if it brings the reply after which the comparison
    finds no difference, and it makes a call that ends a download, or ends in `complete`, only if it
    brings the reply to the status request that follows on such a comparison and on detaching. -/
theorem detach_of_verified (world : Recorded σ (HostCall DownloadState)) (image : Bytes)
    {start : Observed σ} (hnew : new world image = .ok start) (moves : List (Move σ))
    (move : Move σ) :
    let before := play host listener moves start
    let after := step host listener move before
    (callsWhere isDetach after = callsWhere isDetach before ∨
        Verifies host listener start moves move) ∧
      (callsWhere isFinish after = callsWhere isFinish before ∧
          (after.state = .complete → before.state = .complete) ∨
        Finishes host listener start moves move) := by
  intro before after
  obtain ⟨⟨hpos, -⟩, rfl⟩ := (new_eq_ok_iff world image start).mp hnew
  have himage : image ≠ [] := List.length_pos_iff.mp hpos
  cases move with
  | outside => exact ⟨.inl rfl, .inl ⟨rfl, id⟩⟩
  | message message =>
    constructor
    · obtain h | ⟨reply, mid, hmessage, hcompleted⟩ :=
        calls_receive host listener proper_isDetach message before
      · exact .inl h
      · exact .inr (verifies_of_completed host listener rfl himage hmessage hcompleted)
    · obtain hcalls | ⟨reply, mid, hmessage, hcompleted⟩ :=
        calls_receive host listener proper_isFinish message before
      · obtain h | ⟨-, h⟩ | ⟨reply, next, mid, hmessage, hcompleted, h⟩ :=
          receive_state host.recorded listener.recorded message before
        · have hstate := (Prod.mk.inj (Prod.mk.inj h).2).1
          exact .inl ⟨hcalls, fun hcomplete => hstate.symm.trans hcomplete⟩
        · refine .inl ⟨hcalls, fun hcomplete => ?_⟩
          change after.state = _ ∨ after.state = _ ∨ after.state = _ at h
          rw [hcomplete] at h
          simp at h
        · have hnext := (Prod.mk.inj (Prod.mk.inj h).2).1
          by_cases hcomplete : next = .complete
          · subst hcomplete
            exact .inr (finishes_of_completed host listener rfl himage rfl hmessage hcompleted)
          · exact .inl ⟨hcalls, fun h' => absurd (hnext.symm.trans h') hcomplete⟩
      · exact .inr (finishes_of_completed host listener rfl himage rfl hmessage hcompleted)

end

/-- A host that takes every request and completes none at once. -/
def patientHost : Host DownloadState Unit where
  openClass _ := pure ⟨0⟩
  closeClass _ := id
  resetBus := pure ()
  requestReenumeration := pure ()
  transport _ :=
    { openPipe := fun _ => pure ()
      control := fun _ _ _ state => (.pending, state)
      bulkOut := fun _ _ _ state => (.pending, state)
      bulkIn := fun _ _ _ state => (.pending, state) }

/-- The replies to every request that writes one octet and reads it back. -/
def octetReplies : List (Move Unit) :=
  let ready := DfuStatus.encode ⟨0, 0, 2, 0⟩
  [.message (.host (.attach Interface.download)), .message (.host .enumerationDone),
    .message (.completed .setInterface (.ok [])), .message (.completed .getStatus (.ok ready)),
    .message (.completed .transfer (.ok [])), .message (.completed .getStatus (.ok ready)),
    .message (.completed .zeroLengthTransfer (.ok [])), .message (.completed .readBack (.ok [7]))]

/-- A device that returns the octet that was written to it is told to detach. -/
theorem verifies_octet :
    let start : Observed Unit := { world := { inner := () }, image := [7] }
    let reply := Move.message (.completed .getStatusRead (.ok (DfuStatus.encode ⟨0, 0, 2, 0⟩)))
    let listener := Listener.silent Unit
    Verifies patientHost listener start octetReplies reply ∧
      (callsWhere isDetach (step patientHost listener reply
        (play patientHost listener octetReplies start))).length = 1 := by
  refine ⟨?_, rfl⟩
  refine ((detach_of_verified patientHost (Listener.silent Unit) { inner := () } [7] rfl
    octetReplies _).1).resolve_left fun h => ?_
  exact absurd (congrArg List.length h) (by decide)

end TensorLink.DownloadTask
