import TensorLink.Proofs.Download.Delivery
import TensorLink.Proofs.Download.Verification

/-!
# Downloading to a device that is attached again

A device may be detached at any moment of a download, and attached again. The task then starts over
with selecting the interface, but neither the number of the next block nor the position is set back,
nor is the readback given up. The session downloads the image from its first block if they happen to
be as in a new task, and only then.

Results:
* `aligned_play`: as long as nothing has been read back, the position is that of the next block.
* `course_play`: what a session downloads first, if the task is as a new one.
* `restarts_iff_unstarted`: a session starts from the beginning exactly if the task is as a new one.
-/

namespace TensorLink.DownloadTask

open Sequencing

variable {σ τ : Type}

/-! ## Specification -/

/-- The task does not end in the course of a play. -/
def Live (host : Host DownloadState σ) (listener : Listener σ) :
    List (Move σ) → Observed σ → Prop
  | [], task => Running task
  | move :: moves, task => Running task ∧ Live host listener moves (step host listener move task)

instance decidableLive (host : Host DownloadState σ) (listener : Listener σ) :
    (moves : List (Move σ)) → (task : Observed σ) → Decidable (Live host listener moves task)
  | [], task => inferInstanceAs (Decidable (Running task))
  | move :: moves, task =>
    have := decidableLive host listener moves (step host listener move task)
    inferInstanceAs (Decidable (_ ∧ _))

/-- A request to download. -/
def isDownload : HostCall DownloadState → Bool
  | .control _ _ setup _ _ => setup.request == DfuRequest.download
  | _ => false

/-- The request that downloads the first block of an image. -/
inductive FirstBlock (image : Bytes) (interface : Interface) : HostCall DownloadState → Prop where
  | control (handle : ClassHandle) (submission : Submission Bytes) :
    FirstBlock image interface (.control handle .transfer
      (DfuRequest.output DfuRequest.download 0 interface.number.toUInt16
        (UInt16.ofNat (min 256 image.length))) (image.take 256) submission)

/-- A device is attached and enumerated, and replies come in. -/
def session (interfaces : List Interface) (replies : List (Move τ)) : List (Move τ) :=
  [.message (.host (.attach interfaces)), .message (.host .enumerationDone)] ++ replies

/-- No event of the host comes in. -/
def Quiet (moves : List (Move τ)) : Prop := ∀ move ∈ moves, ∀ event, move ≠ .message (.host event)

/-- The task at another host, before it has made any calls. -/
def handed (inner : τ) (task : DownloadTask σ) : Observed τ := { task with world := { inner } }

/-- A session starts from the beginning: what is downloaded first is the first block, and what has
    been read back has been read back in this session. -/
structure StartsOver (host : Host DownloadState τ) (listener : Listener τ) (interface : Interface)
    (moves : List (Move τ)) (task : Observed τ) : Prop where
  first : ∀ call ∈ (callsWhere isDownload (play host listener moves task)).head?,
    FirstBlock task.image interface call
  readback_eq : (play host listener moves task).readback.getD [] =
    collectFrom host listener [] moves task

/-- Whatever device is attached, the session starts from the beginning, and a fresh loader gets the
    image. -/
structure Restarts (task : DownloadTask σ) : Prop where
  startsOver : ∀ {τ : Type} (host : Host DownloadState τ) (listener : Listener τ) (inner : τ)
    {interfaces : List Interface} {interface : Interface} {replies : List (Move τ)},
    Interface.findDownload? interfaces = some interface → Quiet replies →
      StartsOver host listener interface (session interfaces replies) (task.handed inner)
  delivers : ∀ {interfaces : List Interface} {interface : Interface} (idle : Nat),
    Interface.findDownload? interfaces = some interface →
      Delivers task.image task.history.reverse (task.releases + 1)
        ((task.reattached none interfaces).run loaderHost loaderListener idle)

section

variable (host : Host DownloadState σ) (listener : Listener σ)

/-! ## How far a download has come -/

/-- What entering a state does not change. -/
def progress (task : DownloadTask σ) : Bytes × Option Interface × UInt16 × Nat :=
  (task.image, task.interface, task.block, task.position)

/-- A task that fails keeps how far its transfers have come. -/
theorem keeps_fail {γ : Type} {f : DownloadTask σ → γ}
    (hf : ∀ (task : DownloadTask σ) (world : σ) (state : DownloadState)
      (handle : Option ClassHandle) (readback : Option Bytes) (releases : Nat)
      (history : List DownloadState) (failure : Option DriverError),
      f { task with world, state, handle, readback, releases, history, failure } = f task)
    (error : DriverError) (task : DownloadTask σ) : f (task.fail host listener error) = f task := by
  have hact : ∀ (task : DownloadTask σ) (world : σ) (handle : Option ClassHandle),
      f { task with world, handle } = f task := fun task world handle =>
    hf task world task.state handle task.readback task.releases task.history task.failure
  have hclose : ∀ task, f (close host task) = f task := by
    intro task
    unfold close
    split <;> exact hact task _ none
  have hrelease : ∀ task : DownloadTask σ, f task.releaseReadback = f task := by
    intro task
    unfold releaseReadback
    split
    · rfl
    · exact hf task task.world task.state task.handle _ _ task.history task.failure
  unfold fail
  split
  · rfl
  · refine (hact _ _ _).trans ((hclose _).trans ((hrelease _).trans ?_))
    exact hf task task.world _ task.handle task.readback task.releases _ _

theorem progress_enter (state : DownloadState) (task : DownloadTask σ) :
    progress (task.enter host listener state) = progress task := by
  have h : progress (left (onEntry host state (task.goto state))) = progress (task.goto state) :=
    keeps_onEntry host state (fun _ _ _ _ _ => rfl) (fun _ _ _ => rfl) (task.goto state)
  unfold enter
  cases hentry : onEntry host state (task.goto state) with
  | ok _ mid =>
    rw [hentry] at h
    exact h
  | error error mid =>
    rw [hentry] at h
    exact (keeps_fail host listener (fun _ _ _ _ _ _ _ _ => rfl) error mid).trans h

theorem progress_enterAttached (task : DownloadTask σ) :
    progress (task.enterAttached host listener) = progress task := by
  have h : progress (left (onEntry host .attached (task.goto .attached))) =
      progress (task.goto .attached) :=
    keeps_onEntry host .attached (fun _ _ _ _ _ => rfl) (fun _ _ _ => rfl) (task.goto .attached)
  unfold enterAttached
  cases hentry : onEntry host .attached (task.goto .attached) with
  | ok _ mid =>
    rw [hentry] at h
    exact (progress_enter host listener .setInterface mid).trans h
  | error error mid =>
    rw [hentry] at h
    exact (keeps_fail host listener (fun _ _ _ _ _ _ _ _ => rfl) error mid).trans h

/-- Downloading or uploading a block sets how many octets are on their way. -/
theorem pending_enter {state : DownloadState} (hstate : state = .transfer ∨ state = .readBack)
    (task : DownloadTask σ) : (task.enter host listener state).pending = task.nextUnit := by
  have h : (left (onEntry host state (task.goto state))).pending = task.nextUnit := by
    obtain rfl | rfl := hstate
    · exact keeps_submit host .transfer _ _ (fun _ _ _ => rfl)
        { task.goto .transfer with pending := task.nextUnit }
    · exact keeps_submit host .readBack _ _ (fun _ _ _ => rfl)
        { task.goto .readBack with
          pending := task.nextUnit, readback := some (task.readback.getD []) }
  unfold enter
  cases hentry : onEntry host state (task.goto state) with
  | ok _ mid =>
    rw [hentry] at h
    exact h
  | error error mid =>
    rw [hentry] at h
    exact (keeps_fail host listener (fun _ _ _ _ _ _ _ _ => rfl) error mid).trans h

/-- As long as nothing has been read back, the position is that of the next block. -/
def OnBlock (task : DownloadTask σ) : Prop :=
  task.readback.getD [] = [] → task.position = min (256 * task.block.toNat) task.image.length

/-- The position fits the block number, and the octets on their way fit the position. -/
structure Aligned (task : DownloadTask σ) : Prop where
  onBlock : OnBlock task
  transfer : task.state = .transfer →
    task.position < task.image.length ∧ task.pending = task.nextUnit

theorem Entered.getD_readback {state : DownloadState} {task task' : DownloadTask σ}
    (h : Entered state task task') : task'.readback.getD [] = task.readback.getD [] := by
  rw [h.readback_eq]
  split <;> rfl

theorem OnBlock.congr {task task' : DownloadTask σ} (h : OnBlock task)
    (hprogress : progress task' = progress task)
    (hreadback : task'.readback.getD [] = task.readback.getD []) : OnBlock task' := by
  obtain ⟨himage, hpair⟩ := Prod.mk.inj hprogress
  obtain ⟨-, hpair⟩ := Prod.mk.inj hpair
  obtain ⟨hblock, hposition⟩ := Prod.mk.inj hpair
  intro hempty
  rw [hposition, hblock, himage]
  exact h (hreadback.symm.trans hempty)

theorem aligned_enter {state : DownloadState} {task : DownloadTask σ} (h : OnBlock task)
    (hstate : state ≠ .error) (htransfer : state = .transfer → task.position < task.image.length)
    (hrunning : (task.enter host listener state).state ≠ .error) :
    Aligned (task.enter host listener state) := by
  obtain hentered | hfailed := enter_cases host listener hstate task
  · have hprogress := progress_enter host listener state task
    refine ⟨h.congr hprogress hentered.getD_readback, fun htransferring => ?_⟩
    obtain rfl : state = .transfer := hentered.state_eq.symm.trans htransferring
    obtain ⟨himage, hpair⟩ := Prod.mk.inj hprogress
    have hposition := (Prod.mk.inj (Prod.mk.inj hpair).2).2
    rw [pending_enter host listener (.inl rfl), nextUnit, nextUnit, himage, hposition]
    exact ⟨htransfer rfl, rfl⟩
  · exact absurd hfailed.state_eq hrunning

theorem aligned_enterAttached {task : DownloadTask σ} (h : OnBlock task)
    (hrunning : (task.enterAttached host listener).state ≠ .error) :
    Aligned (task.enterAttached host listener) := by
  obtain ⟨mid, hentered, hentered'⟩ | ⟨entered, hfailed⟩ := enterAttached_cases host listener task
  · refine ⟨h.congr (progress_enterAttached host listener task)
      (hentered'.getD_readback.trans hentered.getD_readback), fun htransfer => ?_⟩
    exact absurd (hentered'.state_eq.symm.trans htransfer) (by simp)
  · exact absurd hfailed.state_eq hrunning

/-- What a reply does to the position it does to the number of the next block. -/
theorem Answered.onBlock {reply : Bytes} {request next : DownloadState} {task mid : DownloadTask σ}
    (hanswer : Answered reply task request (some next) mid) (hstate : task.state = request)
    (h : Aligned task) (hsize : task.image.length ≤ maxImageSize) :
    OnBlock mid ∧ (next = .transfer → mid.position < mid.image.length) := by
  have hmax : maxImageSize = 65535 * 256 := rfl
  cases hanswer with
  | getStatus hstatus =>
    refine ⟨h.onBlock, fun hnext => ?_⟩
    by_contra hposition
    rw [if_neg hposition] at hnext
    cases hnext
  | transfer =>
    refine ⟨fun hempty => ?_, by simp⟩
    obtain ⟨hposition, hpending⟩ := h.transfer hstate
    have hblock := h.onBlock hempty
    have hsucc : (task.block + 1).toNat = task.block.toNat + 1 := by
      rw [UInt16.toNat_add, show (1 : UInt16).toNat = 1 from rfl]
      omega
    change task.position + task.pending = min (256 * (task.block + 1).toNat) task.image.length
    rw [hsucc, hpending, nextUnit, show DfuRequest.blockSize = 256 from rfl]
    omega
  | zeroLengthTransfer => exact ⟨fun _ => (Nat.zero_min _).symm, by simp⟩
  | readBack htake =>
    obtain ⟨⟨hreply, -⟩, buffer, -, rfl⟩ := takeUpload_eq_ok_iff.mp htake
    refine ⟨fun hempty => absurd ?_ hreply, by simp⟩
    have hparts : buffer = [] ∧ reply = [] := List.append_eq_nil_iff.mp hempty
    rw [hparts.2]
    rfl
  | verified hstatus hposition hverify =>
    obtain ⟨-, rfl⟩ := verify_eq_ok_iff.mp hverify
    exact ⟨fun _ => (Nat.zero_min _).symm, by simp⟩
  | _ => exact ⟨h.onBlock, by simp⟩

theorem aligned_receive (message : DownloadMessage) {task : DownloadTask σ} (h : Aligned task)
    (hsize : task.image.length ≤ maxImageSize)
    (hrunning : (task.receive host listener message).state ≠ .error) :
    Aligned (task.receive host listener message) := by
  have hcase := received_receive host listener message task
  generalize task.receive host listener message = final at hcase hrunning
  cases hcase with
  | ignored => exact h
  | attached => exact ⟨h.onBlock, h.transfer⟩
  | enumerated => exact aligned_enterAttached host listener h.onBlock hrunning
  | detached => exact aligned_enter host listener h.onBlock (by simp) (by simp) hrunning
  | @failed mid error hstate hmid =>
    exact absurd (failed_of_core host listener hmid hstate error).state_eq hrunning
  | @advanced reply next mid hmessage hcompleted =>
    have hanswer := answered_of_completed hcompleted
    obtain ⟨honBlock, htransfer⟩ := hanswer.onBlock rfl h hsize
    exact aligned_enter host listener honBlock hanswer.ne_error htransfer hrunning

theorem Live.head {moves : List (Move σ)} {task : Observed σ} (h : Live host listener moves task) :
    Running task := by
  cases moves with
  | nil => exact h
  | cons move moves => exact h.1

theorem Live.last {moves : List (Move σ)} {task : Observed σ} (h : Live host listener moves task) :
    Running (play host listener moves task) := by
  induction moves generalizing task with
  | nil => exact h
  | cons move moves ih => exact ih h.2

/-- As long as nothing has been read back, the position is that of the next block. -/
theorem aligned_play {moves : List (Move σ)} {task : Observed σ} (h : Aligned task)
    (hsize : task.image.length ≤ maxImageSize) (hlive : Live host listener moves task) :
    Aligned (play host listener moves task) := by
  induction moves generalizing task with
  | nil => exact h
  | cons move moves ih =>
    refine ih ?_ (by rwa [image_step]) hlive.2
    have hrunning := (Live.head host listener hlive.2).2
    cases move with
    | message message =>
      exact aligned_receive host.recorded listener.recorded message h hsize hrunning
    | outside => exact ⟨h.onBlock, h.transfer⟩

end

/-! ## The first download of a session -/

section

variable (host : Host DownloadState τ) (listener : Listener τ)

/-- Nothing is downloaded on entry to other states. -/
theorem downloads_enter {state : DownloadState}
    (hcode : requestCode state ≠ some DfuRequest.download) (task : Observed τ) :
    callsWhere isDownload (task.enter host.recorded listener.recorded state) =
      callsWhere isDownload task :=
  (made_enter host listener state task).callsWhere_eq fun _ hcall =>
    hcall.elim (isRequest_of_madeBy · hcode) isRequest_of_madeByFailure

/-- A block is downloaded, unless there is no class driver to do it. -/
theorem downloads_enter_transfer {task : Observed τ} {number : UInt16}
    (hnumber : task.interfaceNumber = .ok number) :
    let task' := task.enter host.recorded listener.recorded .transfer
    (task'.state = .error ∧ callsWhere isDownload task' = callsWhere isDownload task) ∨
      ∃ handle submission, callsWhere isDownload task' = callsWhere isDownload task ++
        [.control handle .transfer (DfuRequest.output DfuRequest.download task.block number
          (UInt16.ofNat task.nextUnit)) ((task.image.drop task.position).take task.nextUnit)
          submission] := by
  intro task'
  let ready := { task.goto .transfer with pending := task.nextUnit }
  obtain h | ⟨number', handle, submission, hnumber', hcalls⟩ :=
    callsWhere_enter_submit host listener (by simp)
      (fun _ => isRequest_of_madeByFailure) (show ready.state = .transfer from rfl)
      (show ready.world.calls = task.world.calls from rfl) rfl
  · exact .inl h
  · rw [show ready.interfaceNumber = .ok number from hnumber] at hnumber'
    cases hnumber'
    exact .inr ⟨handle, submission, hcalls⟩

/-- How far a session has come with its first download. -/
inductive Course (image : Bytes) (interface : Interface) (task : Observed τ) : Prop where
  | opening (hstate : task.state = .setInterface ∨ task.state = .getStatus)
      (hprogress : progress task = (image, some interface, 0, 0))
      (hcalls : callsWhere isDownload task = [])
  | failed (hstate : task.state = .error) (hcalls : callsWhere isDownload task = [])
  | downloading {call : HostCall DownloadState} {rest : List (HostCall DownloadState)}
      (hcalls : callsWhere isDownload task = call :: rest)
      (hfirst : FirstBlock image interface call)

variable {image : Bytes} {interface : Interface} {task : Observed τ}

/-- What is downloaded at the start of a session is the first block. -/
theorem firstBlock_of_progress (hprogress : progress task = (image, some interface, 0, 0))
    (handle : ClassHandle) (submission : Submission Bytes) :
    FirstBlock image interface (.control handle .transfer
      (DfuRequest.output DfuRequest.download task.block interface.number.toUInt16
        (UInt16.ofNat task.nextUnit)) ((task.image.drop task.position).take task.nextUnit)
      submission) := by
  obtain ⟨himage, hpair⟩ := Prod.mk.inj hprogress
  obtain ⟨-, hpair⟩ := Prod.mk.inj hpair
  obtain ⟨hblock, hposition⟩ := Prod.mk.inj hpair
  have hunit : task.nextUnit = min 256 image.length := by
    rw [nextUnit, hposition, himage, Nat.sub_zero, Nat.min_comm]
    rfl
  rw [hunit, hposition, himage, hblock, List.drop_zero, ← List.take_eq_take_min]
  exact .control handle submission

/-- A session that starts over goes on to its first download. -/
theorem course_enter {next : DownloadState} (hnext : next = .getStatus ∨ next = .transfer)
    (hprogress : progress task = (image, some interface, 0, 0))
    (hcalls : callsWhere isDownload task = []) :
    Course image interface (task.enter host.recorded listener.recorded next) := by
  obtain rfl | rfl := hnext
  · have hdownloads := (downloads_enter host listener
      (show requestCode .getStatus ≠ some DfuRequest.download by decide) task).trans hcalls
    obtain h | h := enter_cases host.recorded listener.recorded
      (show DownloadState.getStatus ≠ .error by simp) task
    · have hkept := progress_enter host.recorded listener.recorded .getStatus task
      exact .opening (.inr h.state_eq) (hkept.trans hprogress) hdownloads
    · exact .failed h.state_eq hdownloads
  · have hinterface : task.interface = some interface :=
      (Prod.mk.inj (Prod.mk.inj hprogress).2).1
    have hnumber : task.interfaceNumber = .ok interface.number.toUInt16 := by
      rw [interfaceNumber, hinterface]
    obtain ⟨hstate, hdownloads⟩ | ⟨handle, submission, hdownloads⟩ :=
      downloads_enter_transfer host listener hnumber
    · exact .failed hstate (hdownloads.trans hcalls)
    · rw [hcalls, List.nil_append] at hdownloads
      exact .downloading hdownloads (firstBlock_of_progress hprogress handle submission)

theorem course_receive (hpos : 0 < image.length) (request : DownloadState)
    (result : Except DriverError Bytes) (h : Course image interface task) :
    Course image interface
      (task.receive host.recorded listener.recorded (.completed request result)) := by
  have hcase := received_receive host.recorded listener.recorded (.completed request result) task
  have hprefix : callsWhere isDownload task <+: callsWhere isDownload _ :=
    (made_receive host listener (.completed request result) task).callsWhere_grows
  generalize task.receive host.recorded listener.recorded (.completed request result) = final
    at hcase hprefix
  cases h with
  | downloading hcalls hfirst =>
    obtain ⟨more, hmore⟩ := hprefix
    rw [hcalls, List.cons_append] at hmore
    exact .downloading hmore.symm hfirst
  | failed hstate hcalls =>
    cases hcase with
    | ignored => exact .failed hstate hcalls
    | attached hmessage => cases hmessage
    | enumerated hmessage => cases hmessage
    | detached hmessage => cases hmessage
    | failed error hlive hmid => exact absurd hstate hlive
    | advanced hmessage hcompleted =>
      have hanswer := answered_of_completed hcompleted
      rw [hstate] at hanswer
      cases hanswer
  | opening hstate hprogress hcalls =>
    cases hcase with
    | ignored => exact .opening hstate hprogress hcalls
    | attached hmessage => cases hmessage
    | enumerated hmessage => cases hmessage
    | detached hmessage => cases hmessage
    | @failed mid error hlive hmid =>
      refine .failed (failed_of_core host.recorded listener.recorded hmid hlive error).state_eq ?_
      have hsame : callsWhere isDownload (mid.fail host.recorded listener.recorded error) =
          callsWhere isDownload mid :=
        (made_fail host listener error mid).callsWhere_eq fun _ => isRequest_of_madeByFailure
      rw [hsame, callsWhere, calls_eq_of_core hmid]
      exact hcalls
    | advanced hmessage hcompleted =>
      have hanswer := answered_of_completed hcompleted
      obtain hstate | hstate := hstate
      · rw [hstate] at hanswer
        cases hanswer
        exact course_enter host listener (.inl rfl) hprogress hcalls
      · rw [hstate] at hanswer
        cases hanswer with
        | getStatus hstatus =>
          obtain ⟨himage, hpair⟩ := Prod.mk.inj hprogress
          have hposition := (Prod.mk.inj (Prod.mk.inj hpair).2).2
          rw [if_pos (by rw [hposition, himage]; exact hpos)]
          exact course_enter host listener (.inr rfl) hprogress hcalls

/-- What a session downloads first is the first block, if the task is as a new one. -/
theorem course_play {start : DownloadTask σ} (hunstarted : Unstarted start)
    (hpos : 0 < start.image.length) (inner : τ) {interfaces : List Interface}
    (hfound : Interface.findDownload? interfaces = some interface) {replies : List (Move τ)}
    (hquiet : Quiet replies) :
    Course start.image interface
      (play host listener (session interfaces replies) (start.handed inner)) := by
  induction replies using List.reverseRec with
  | nil =>
    let found : Observed τ :=
      { start.handed inner with interface := Interface.findDownload? interfaces }
    have hplay : play host listener (session interfaces []) (start.handed inner) =
        found.enterAttached host.recorded listener.recorded := by
      change (if (Interface.findDownload? interfaces).isSome then _ else _) = _
      rw [if_pos (by rw [hfound]; rfl)]
      rfl
    have hdownloads : callsWhere isDownload (found.enterAttached host.recorded listener.recorded) =
        [] :=
      (made_enterAttached host listener found).callsWhere_eq fun call hcall =>
        hcall.elim (isRequest_of_madeBy · (by decide)) fun hcall =>
          hcall.elim (isRequest_of_madeBy · (by decide)) isRequest_of_madeByFailure
    have hprogress : progress found = (start.image, some interface, 0, 0) := by
      rw [← hfound, ← hunstarted.block_eq, ← hunstarted.position_eq]
      rfl
    rw [hplay]
    obtain ⟨mid, -, h⟩ | ⟨entered, h⟩ :=
      enterAttached_cases host.recorded listener.recorded found
    · have hkept := progress_enterAttached host.recorded listener.recorded found
      exact .opening (.inl h.state_eq) (hkept.trans hprogress) hdownloads
    · exact .failed h.state_eq hdownloads
  | append_singleton replies move ih =>
    have h := ih fun move hmove => hquiet move (List.mem_append_left _ hmove)
    have hmove := hquiet move (List.mem_append_right _ (List.mem_singleton_self _))
    rw [show session interfaces (replies ++ [move]) = session interfaces replies ++ [move] by
      simp [session], play_concat]
    cases move with
    | outside inner inbox retired failure =>
      cases h with
      | opening hstate hprogress hcalls => exact .opening hstate hprogress hcalls
      | failed hstate hcalls => exact .failed hstate hcalls
      | downloading hcalls hfirst => exact .downloading hcalls hfirst
    | message message =>
      cases message with
      | host event => exact absurd rfl (hmove event)
      | completed request result => exact course_receive host listener hpos request result h

end

/-! ## Main theorem -/

section

variable {task : DownloadTask σ}

theorem restarts_of_unstarted (hunstarted : Unstarted task) (hrunning : Running task)
    (hpos : 0 < task.image.length) (hsize : task.image.length ≤ maxImageSize) : Restarts task where
  startsOver host listener inner _ _ _ hfound hquiet := by
    refine ⟨fun call hcall => ?_, ?_⟩
    · have h := course_play host listener hunstarted hpos inner hfound hquiet
      cases h with
      | opening hstate hprogress hcalls => rw [hcalls] at hcall; cases hcall
      | failed hstate hcalls => rw [hcalls] at hcall; cases hcall
      | downloading hcalls hfirst =>
        rw [hcalls] at hcall
        cases hcall
        exact hfirst
    · rw [readback_play]
      exact congrArg (collectFrom host listener · _ _) hunstarted.readback_eq
  delivers idle hfound := delivers_of_shown none hrunning hunstarted hpos hsize hfound rfl idle

theorem FirstBlock.of_control {image : Bytes} {interface : Interface} {handle : ClassHandle}
    {request : DownloadState} {setup : SetupPacket} {data : Bytes} {submission : Submission Bytes}
    (h : FirstBlock image interface (.control handle request setup data submission)) :
    request = .transfer ∧ setup.value = 0 := by
  cases h
  exact ⟨rfl, rfl⟩

/-- A session in which all goes well shows the number of the next block. -/
theorem Restarts.block_eq (h : Restarts task) : task.block = 0 := by
  let listener := Listener.silent Unit
  let status := DfuStatus.encode ⟨0, 0, 2, 0⟩
  let opening : List (Move Unit) := [.message (.completed .setInterface (.ok []))]
  let asked := play patientHost listener (session Interface.download opening) (task.handed ())
  have hstate : asked.state = .getStatus := rfl
  have hcompleted : completed asked.state status asked = .ok (some
      (if task.position < task.image.length then .transfer else .zeroLengthTransfer)) asked := by
    rw [hstate, completed_getStatus rfl]
    rfl
  let ready : Move Unit := .message (.completed asked.state (.ok status))
  have hplay : play patientHost listener (session Interface.download (opening ++ [ready]))
      (task.handed ()) = asked.enter patientHost.recorded listener.recorded
        (if task.position < task.image.length then .transfer else .zeroLengthTransfer) :=
    (play_concat patientHost listener (session Interface.download opening) ready _).trans
      (receive_eq_enter patientHost.recorded listener.recorded rfl hcompleted)
  have hfound : Interface.findDownload? Interface.download = some _ := rfl
  have hquiet : Quiet (opening ++ [ready]) := by simp [Quiet, opening, ready]
  have hfirst := (h.startsOver patientHost listener () hfound hquiet).first
  rw [hplay] at hfirst
  split at hfirst
  · exact (hfirst _ rfl).of_control.2
  · exact absurd (hfirst _ rfl).of_control.1 (by simp)

theorem Restarts.readback_eq (h : Restarts task) : task.readback.getD [] = [] := by
  let listener := Listener.silent Unit
  have hfound : Interface.findDownload? Interface.download = some _ := rfl
  have hquiet : Quiet ([] : List (Move Unit)) := by simp [Quiet]
  have hcollected : collectFrom patientHost listener [] (session Interface.download [])
      (task.handed ()) = [] := by
    obtain ⟨world, image, state, interface, handle, block, position, pending, readback⟩ := task
    cases readback <;> rfl
  exact (h.startsOver patientHost listener () hfound hquiet).readback_eq.trans hcollected

end

/-- **Starting over.** For every image that is taken, every host and listener, and every play in
    which the task does not end, with or without a device being detached in it: a session at a
    device that is attached then starts from the beginning exactly if the task is as a new one. -/
theorem restarts_iff_unstarted (host : Host DownloadState σ) (listener : Listener σ)
    (world : Recorded σ (HostCall DownloadState)) (image : Bytes) {start : Observed σ}
    (hnew : new world image = .ok start) {moves : List (Move σ)}
    (hlive : Live host listener moves start) :
    Restarts (play host listener moves start) ↔ Unstarted (play host listener moves start) := by
  obtain ⟨⟨hpos, hsize⟩, rfl⟩ := (new_eq_ok_iff world image start).mp hnew
  have himage := image_play host listener moves { world, image }
  have haligned : Aligned (play host listener moves { world, image }) :=
    aligned_play host listener ⟨fun _ => (Nat.zero_min _).symm, by simp⟩ hsize hlive
  constructor
  · intro h
    refine ⟨h.block_eq, ?_, h.readback_eq⟩
    rw [haligned.onBlock h.readback_eq, h.block_eq]
    exact Nat.zero_min _
  · intro h
    exact restarts_of_unstarted h (Live.last host listener hlive) (by rwa [himage])
      (by rwa [himage])

/-- A device that is detached before the first block has been acknowledged gets it again. -/
theorem restarts_of_unacknowledged :
    let start : Observed Unit := { world := { inner := () }, image := [7] }
    let moves := octetReplies.take 4 ++ [.message (.host .detach)]
    Restarts (play patientHost (Listener.silent Unit) moves start) :=
  (restarts_iff_unstarted patientHost (Listener.silent Unit) { inner := () } [7] rfl
    (by decide)).mpr ⟨rfl, rfl, rfl⟩

set_option maxRecDepth 4000 in
/-- A device that is detached after the first block has been acknowledged goes on with the second
    one, and a fresh loader is left with a hole. -/
theorem not_restarts_of_acknowledged :
    let start : Observed Unit := { world := { inner := () }, image := List.replicate 300 7 }
    let moves := octetReplies.take 5 ++ [.message (.host .detach)]
    let task := play patientHost (Listener.silent Unit) moves start
    Live patientHost (Listener.silent Unit) moves start ∧ ¬Restarts task ∧
      ((task.reattached none Interface.download).run loaderHost loaderListener 1000).1 =
        .error (.firmwareMismatch 0) :=
  ⟨by decide, fun h => absurd h.block_eq (by decide), rfl⟩

end TensorLink.DownloadTask
