import TensorLink.Proofs.Download.Reattach

/-!
# What is read back

The image is read back block by block. A device may answer an upload with fewer octets than were
asked for. The task counts the octets that it has been given, but it goes on with the next block
after every reply: what is missing of a block is never asked for.

So the readback is what the device holds as long as every reply but the last is a whole block, and
only then is each block asked for that holds the next unread octet.

Results:
* `uploads_enter_readBack`: the block that is asked for is the one that the task counts.
* `known_receive`, `known_play`: how far a session has come, by what it has asked for and what it
  has been given.
* `flatten_isPrefix`: whole blocks, one after the other, are the start of the flash.
* `covers_iff_whole`: a session covers the flash exactly if every reply is a whole block that
  another upload follows.
-/

namespace TensorLink.DownloadTask

open Sequencing

variable {σ : Type}

/-! ## Specification -/

/-- A request to upload. -/
def isUpload : HostCall DownloadState → Bool
  | .control _ _ setup _ _ => setup.request == DfuRequest.upload
  | _ => false

/-- The number of the block that a request is about. -/
def blockOf : HostCall DownloadState → Nat
  | .control _ _ setup _ _ => setup.value.toNat
  | _ => 0

/-- The reply to an upload, if a move brings one that the task takes in. -/
def taken (task : Observed σ) (move : Move σ) : List Bytes :=
  match added task move with
  | [] => []
  | reply => [reply]

section

variable (host : Host DownloadState σ) (listener : Listener σ)

/-- The replies to uploads that the task takes in, in order. -/
def uploaded : List (Move σ) → Observed σ → List Bytes
  | [], _ => []
  | move :: moves, task => taken task move ++ uploaded moves (step host listener move task)

/-- Every upload that the task takes in is answered with what the flash holds from the start of the
    block on that was asked for. -/
def Serves (flash : Bytes) : List (Move σ) → Observed σ → Prop
  | [], _ => True
  | move :: moves, task =>
    (∀ reply ∈ taken task move, ∀ call ∈ (callsWhere isUpload task).getLast?,
      reply <+: flash.drop (256 * blockOf call)) ∧
    Serves flash moves (step host listener move task)

instance decidableServes (flash : Bytes) :
    (moves : List (Move σ)) → (task : Observed σ) →
      Decidable (Serves host listener flash moves task)
  | [], _ => inferInstanceAs (Decidable True)
  | move :: moves, task =>
    have := decidableServes flash moves (step host listener move task)
    inferInstanceAs (Decidable (_ ∧ _))

/-- A play covers the flash: a download that is complete has left the image at its start, each block
    is asked for that holds the next unread octet, and the block number can always be increased. -/
structure Covers (flash : Bytes) (moves : List (Move σ)) (start : Observed σ) : Prop where
  complete : (play host listener moves start).state = .complete →
    flash.take start.image.length = start.image
  nextUnread : ∀ (index : Nat) (call : HostCall DownloadState),
    (callsWhere isUpload (play host listener moves start))[index]? = some call →
      blockOf call = ((uploaded host listener moves start).take index).flatten.length / 256
  counter : (play host listener moves start).state = .transfer ∨
      (play host listener moves start).state = .readBack →
    (play host listener moves start).block.toNat < 65535

end

/-! ## Requests and replies -/

section

variable (host : Host DownloadState σ) (listener : Listener σ)

theorem uploaded_append (moves moves' : List (Move σ)) (task : Observed σ) :
    uploaded host listener (moves ++ moves') task =
      uploaded host listener moves task ++
        uploaded host listener moves' (play host listener moves task) := by
  induction moves generalizing task with
  | nil => rfl
  | cons move moves ih =>
    show taken task move ++ uploaded host listener (moves ++ moves') _ = _
    rw [ih, ← List.append_assoc]
    rfl

theorem serves_append {flash : Bytes} {moves moves' : List (Move σ)} {task : Observed σ}
    (h : Serves host listener flash (moves ++ moves') task) :
    Serves host listener flash moves task ∧
      Serves host listener flash moves' (play host listener moves task) := by
  induction moves generalizing task with
  | nil => exact ⟨trivial, h⟩
  | cons move moves ih => exact ⟨⟨h.1, (ih h.2).1⟩, (ih h.2).2⟩

theorem proper_isUpload : Proper isUpload .readBack := by
  have honly (state : DownloadState) (hother : state ≠ .readBack) :
      requestCode state ≠ some DfuRequest.upload := by
    cases state <;> first | exact absurd rfl hother | decide
  exact proper_isRequest honly (by simp)

/-- Only a task that waits for an upload takes a reply in. -/
theorem taken_eq_nil {task : Observed σ} (hstate : task.state ≠ .readBack)
    (message : DownloadMessage) : taken task (.message message) = [] := by
  have hadded : added task (.message message) = [] := by
    unfold added accepted
    dsimp only
    split
    · exact if_neg hstate
    · rfl
  unfold taken
  rw [hadded]

theorem taken_of_takeUpload {task mid : Observed σ} {reply : Bytes}
    (hstate : task.state = .readBack) (htake : takeUpload reply task = .ok () mid) :
    taken task (.message (.completed .readBack (.ok reply))) = [reply] := by
  obtain ⟨⟨hne, -⟩, -⟩ := takeUpload_eq_ok_iff.mp htake
  have hadded : added task (.message (.completed .readBack (.ok reply))) = reply :=
    accepted_of_takeUpload hstate htake
  unfold taken
  rw [hadded]
  cases reply with
  | nil => exact absurd rfl hne
  | cons octet rest => rfl

/-- The next block is asked for, unless the task fails. -/
theorem uploads_enter_readBack (task : Observed σ) :
    let task' := task.enter host.recorded listener.recorded .readBack
    (task'.state = .error ∧ callsWhere isUpload task' = callsWhere isUpload task) ∨
      ∃ call, callsWhere isUpload task' = callsWhere isUpload task ++ [call] ∧
        blockOf call = task.block.toNat := by
  intro task'
  let ready := { task.goto .readBack with
    pending := task.nextUnit, readback := some (task.readback.getD []) }
  obtain h | ⟨number, handle, submission, -, hcalls⟩ :=
    callsWhere_enter_submit host listener (by simp) proper_isUpload.failure
      (show ready.state = .readBack from rfl)
      (show ready.world.calls = task.world.calls from rfl) rfl
  · exact .inl h
  · exact .inr ⟨_, hcalls, rfl⟩

end

/-! ## How far a session has come -/

/-- What is known of the uploads and of their replies: blocks are asked for in order, as long as
    something is unread, and a reply is what the flash holds from the start of its block on. The
    number of a block is a number of 16 bits. -/
structure Log (size : Nat) (flash : Bytes) (uploads : List (HostCall DownloadState))
    (replies : List Bytes) : Prop where
  block : ∀ (index : Nat) (call : HostCall DownloadState), uploads[index]? = some call →
    blockOf call = index % 65536
  unread : ∀ index < uploads.length, (replies.take index).flatten.length < size
  reply : ∀ (index : Nat) (reply : Bytes), replies[index]? = some reply →
    reply.length ≤ 256 ∧ reply <+: flash.drop (256 * (index % 65536))

/-- How far a session has come. -/
inductive Reading (task : Observed σ) (uploads : List (HostCall DownloadState))
    (replies : List Bytes) : Prop where
  /-- The image is downloaded. -/
  | writing (hstate : task.state = .setInterface ∨ task.state = .getStatus ∨
        task.state = .transfer ∨ task.state = .zeroLengthTransfer)
      (haligned : Aligned task) (hreadback : task.readback = none) (huploads : uploads = [])
      (hreplies : replies = [])
  /-- A block has been asked for. -/
  | asking (hstate : task.state = .readBack) (hlength : uploads.length = replies.length + 1)
      (hblock : task.block.toNat = replies.length % 65536)
      (hposition : task.position = replies.flatten.length) (hpending : task.pending ≤ 256)
      (hreadback : task.readback = some replies.flatten)
  /-- A reply has been taken in. -/
  | noting (hstate : task.state = .getStatusRead) (hlength : uploads.length = replies.length)
      (hblock : task.block.toNat = replies.length % 65536)
      (hposition : task.position = replies.flatten.length)
      (hreadback : task.readback = some replies.flatten)
  /-- All that has been read back is the image. -/
  | verified (hstate : task.state = .detach ∨ task.state = .checkStatus ∨ task.state = .complete)
      (hlength : uploads.length = replies.length) (himage : replies.flatten = task.image)
  | failed (hstate : task.state = .error) (hle : replies.length ≤ uploads.length)
      (hle' : uploads.length ≤ replies.length + 1)

/-- What is known of a session. -/
structure Known (flash : Bytes) (task : Observed σ) (replies : List Bytes) : Prop where
  log : Log task.image.length flash (callsWhere isUpload task) replies
  reading : Reading task (callsWhere isUpload task) replies

section

variable {size : Nat} {flash : Bytes} {uploads : List (HostCall DownloadState)}
  {replies : List Bytes} {call : HostCall DownloadState} {reply : Bytes} {task mid : Observed σ}

theorem Log.nil : Log size flash [] [] := ⟨by simp, by simp, by simp⟩

theorem getElem?_concat_cases {α : Type} {l : List α} {a b : α} {index : Nat}
    (h : (l ++ [a])[index]? = some b) : l[index]? = some b ∨ index = l.length ∧ b = a := by
  rw [List.getElem?_append] at h
  split at h
  · exact .inl h
  · rw [List.getElem?_singleton] at h
    split at h
    · exact .inr ⟨by omega, (Option.some.inj h).symm⟩
    · cases h

/-- The block that was asked for last, if it has not been answered yet. -/
theorem Log.last_of_length (h : Log size flash uploads replies)
    (hlength : uploads.length = replies.length + 1) :
    ∃ call ∈ uploads.getLast?, blockOf call = replies.length % 65536 := by
  have hlt : replies.length < uploads.length := by omega
  refine ⟨uploads[replies.length], ?_, h.block _ _ (List.getElem?_eq_getElem hlt)⟩
  rw [List.getLast?_eq_getElem?, hlength, Nat.add_sub_cancel, List.getElem?_eq_getElem hlt]
  rfl

/-- Another block is asked for. -/
theorem Log.ask (h : Log size flash uploads replies) (hlength : uploads.length = replies.length)
    (hblock : blockOf call = replies.length % 65536) (hunread : replies.flatten.length < size) :
    Log size flash (uploads ++ [call]) replies := by
  refine ⟨fun index other hother => ?_, fun index hindex => ?_, h.reply⟩
  · obtain hearlier | ⟨rfl, rfl⟩ := getElem?_concat_cases hother
    · exact h.block index other hearlier
    · rw [hblock, hlength]
  · rw [List.length_append, List.length_singleton] at hindex
    by_cases hlast : index < uploads.length
    · exact h.unread index hlast
    · rw [List.take_of_length_le (by omega)]
      exact hunread

/-- Another reply is taken in. -/
theorem Log.answer (h : Log size flash uploads replies)
    (hlength : uploads.length = replies.length + 1) (hreply : reply.length ≤ 256)
    (hflash : reply <+: flash.drop (256 * (replies.length % 65536))) :
    Log size flash uploads (replies ++ [reply]) := by
  refine ⟨h.block, fun index hindex => ?_, fun index other hother => ?_⟩
  · rw [List.take_append_of_le_length (by omega)]
    exact h.unread index hindex
  · obtain hearlier | ⟨rfl, rfl⟩ := getElem?_concat_cases hother
    · exact h.reply index other hearlier
    · exact ⟨hreply, hflash⟩

theorem Reading.length_le (h : Reading task uploads replies) :
    replies.length ≤ uploads.length ∧ uploads.length ≤ replies.length + 1 := by
  cases h with
  | writing hstate haligned hreadback huploads hreplies =>
    subst huploads hreplies
    simp
  | failed hstate hle hle' => exact ⟨hle, hle'⟩
  | _ => omega

/-! ## Entering states -/

section

variable (host : Host DownloadState σ) (listener : Listener σ)

/-- A task that fails has no more to do with the uploads that were made. -/
theorem known_failed {after : Observed σ} (himage : after.image = mid.image)
    (hstate : after.state = .error) (hcalls : callsWhere isUpload after = uploads)
    (hlog : Log mid.image.length flash uploads replies) (hle : replies.length ≤ uploads.length)
    (hle' : uploads.length ≤ replies.length + 1) : Known flash after replies := by
  subst hcalls
  exact ⟨by rwa [himage], .failed hstate hle hle'⟩

/-- The image is downloaded further. -/
theorem known_enter_write {next : DownloadState}
    (hnext : next = .getStatus ∨ next = .transfer ∨ next = .zeroLengthTransfer)
    (honBlock : OnBlock mid) (htransfer : next = .transfer → mid.position < mid.image.length)
    (hreadback : mid.readback = none) (hcalls : callsWhere isUpload mid = []) :
    Known flash (mid.enter host.recorded listener.recorded next) [] := by
  have hne : next ≠ .error ∧ next ≠ .readBack := by
    obtain rfl | rfl | rfl := hnext <;> simp
  have hsame := calls_enter host listener proper_isUpload hne.2 mid
  obtain hentered | hfailed := enter_cases host.recorded listener.recorded hne.1 mid
  · have haligned := aligned_enter host.recorded listener.recorded honBlock hne.1 htransfer
      (by rw [hentered.state_eq]; exact hne.1)
    refine ⟨?_, .writing ?_ haligned ?_ (hsame.trans hcalls) rfl⟩
    · rw [hsame, hcalls]
      exact .nil
    · rw [hentered.state_eq]
      exact .inr hnext
    · rw [hentered.readback_eq, if_neg hne.2, hreadback]
  · exact known_failed hfailed.image_eq hfailed.state_eq (hsame.trans hcalls) .nil (by simp)
      (by simp)

/-- The next block is asked for. -/
theorem known_enter_readBack
    (hlog : Log mid.image.length flash (callsWhere isUpload mid) replies)
    (hlength : (callsWhere isUpload mid).length = replies.length)
    (hblock : mid.block.toNat = replies.length % 65536)
    (hposition : mid.position = replies.flatten.length) (hunread : mid.position < mid.image.length)
    (hreadback : mid.readback.getD [] = replies.flatten) :
    Known flash (mid.enter host.recorded listener.recorded .readBack) replies := by
  obtain ⟨himage, hpair⟩ :=
    Prod.mk.inj (progress_enter host.recorded listener.recorded .readBack mid)
  obtain ⟨hblock', hposition'⟩ := Prod.mk.inj (Prod.mk.inj hpair).2
  have hpending := pending_enter host.recorded listener.recorded (.inr rfl) mid
  obtain ⟨hstate, hcalls⟩ | ⟨call, hcalls, hcall⟩ := uploads_enter_readBack host listener mid
  · exact known_failed himage hstate hcalls hlog (by omega) (by omega)
  · have hlog' := hlog.ask hlength (hcall.trans hblock) (hposition ▸ hunread)
    obtain hentered | hfailed := enter_cases host.recorded listener.recorded
      (show DownloadState.readBack ≠ .error by simp) mid
    · refine ⟨?_, .asking hentered.state_eq ?_ ?_ ?_ ?_ ?_⟩
      · rwa [himage, hcalls]
      · rw [hcalls, List.length_append, hlength, List.length_singleton]
      · rw [hblock', hblock]
      · rw [hposition', hposition]
      · rw [hpending]
        exact Nat.min_le_right _ _
      · rw [hentered.readback_eq, if_pos rfl, hreadback]
    · have hsucc : (callsWhere isUpload mid ++ [call]).length = replies.length + 1 := by
        rw [List.length_append, hlength, List.length_singleton]
      exact known_failed himage hfailed.state_eq hcalls hlog' (by omega) (by omega)

/-- A reply has been taken in, and the status is asked for. -/
theorem known_enter_getStatusRead
    (hlog : Log mid.image.length flash (callsWhere isUpload mid) replies)
    (hlength : (callsWhere isUpload mid).length = replies.length)
    (hblock : mid.block.toNat = replies.length % 65536)
    (hposition : mid.position = replies.flatten.length)
    (hreadback : mid.readback = some replies.flatten) :
    Known flash (mid.enter host.recorded listener.recorded .getStatusRead) replies := by
  obtain ⟨himage, hpair⟩ :=
    Prod.mk.inj (progress_enter host.recorded listener.recorded .getStatusRead mid)
  obtain ⟨hblock', hposition'⟩ := Prod.mk.inj (Prod.mk.inj hpair).2
  have hsame := calls_enter host listener proper_isUpload
    (show DownloadState.getStatusRead ≠ .readBack by simp) mid
  obtain hentered | hfailed := enter_cases host.recorded listener.recorded
    (show DownloadState.getStatusRead ≠ .error by simp) mid
  · refine ⟨?_, .noting hentered.state_eq ?_ ?_ ?_ ?_⟩
    · rwa [himage, hsame]
    · rwa [hsame]
    · rwa [hblock']
    · rwa [hposition']
    · rw [hentered.readback_eq, if_neg (by simp), hreadback]
  · exact known_failed himage hfailed.state_eq hsame hlog (by omega) (by omega)

/-- What has been read back is the image, and the download goes on to its end. -/
theorem known_enter_end {next : DownloadState}
    (hnext : next = .detach ∨ next = .checkStatus ∨ next = .complete)
    (hlog : Log mid.image.length flash (callsWhere isUpload mid) replies)
    (hlength : (callsWhere isUpload mid).length = replies.length)
    (hverified : replies.flatten = mid.image) :
    Known flash (mid.enter host.recorded listener.recorded next) replies := by
  have hne : next ≠ .error ∧ next ≠ .readBack := by
    obtain rfl | rfl | rfl := hnext <;> simp
  have hsame := calls_enter host listener proper_isUpload hne.2 mid
  obtain hentered | hfailed := enter_cases host.recorded listener.recorded hne.1 mid
  · refine ⟨?_, .verified ?_ ?_ ?_⟩
    · rwa [hentered.image_eq, hsame]
    · rwa [hentered.state_eq]
    · rwa [hsame]
    · rwa [hentered.image_eq]
  · exact known_failed hfailed.image_eq hfailed.state_eq hsame hlog (by omega) (by omega)

/-! ## Messages -/

/-- What completes does not change the image, nor the blocks that have been asked for. -/
theorem kept_of_completed {next : Option DownloadState}
    (hcompleted : completed task.state reply task = .ok next mid) :
    mid.image = task.image ∧ callsWhere isUpload mid = callsWhere isUpload task := by
  have hcore : core mid = core task := (keeps_completed task.state reply).of_ok hcompleted
  exact ⟨show (core mid).image = (core task).image from congrArg (·.image) hcore,
    congrArg (List.filter isUpload) (calls_eq_of_core hcore)⟩

/-- A task that waits for something else takes no reply in. -/
theorem append_taken_of_ne (hstate : task.state ≠ .readBack) (message : DownloadMessage) :
    replies ++ taken task (.message message) = replies := by
  rw [taken_eq_nil hstate, List.append_nil]

variable (hsize : task.image.length ≤ maxImageSize) (hpos : 0 < task.image.length)
  {next : DownloadState}

include hsize hpos in
/-- While the image is downloaded, the next block is written, or the first one asked for. -/
theorem known_of_writing
    (hstate : task.state = .setInterface ∨ task.state = .getStatus ∨ task.state = .transfer ∨
      task.state = .zeroLengthTransfer)
    (haligned : Aligned task) (hreadback : task.readback = none)
    (hanswer : Answered reply task task.state (some next) mid)
    (hcalls : callsWhere isUpload mid = []) :
    Known flash (mid.enter host.recorded listener.recorded next) [] := by
  obtain ⟨honBlock, htransfer⟩ := hanswer.onBlock rfl haligned hsize
  obtain hstate | hstate | hstate | hstate := hstate <;> rw [hstate] at hanswer <;> cases hanswer
  case setInterface =>
    exact known_enter_write host listener (.inl rfl) honBlock htransfer hreadback hcalls
  case getStatus =>
    refine known_enter_write host listener ?_ honBlock htransfer hreadback hcalls
    split <;> simp
  case transfer =>
    exact known_enter_write host listener (.inl rfl) honBlock htransfer hreadback hcalls
  case zeroLengthTransfer =>
    refine known_enter_readBack host listener ?_ (by rw [hcalls]; rfl) rfl rfl hpos ?_
    · rw [hcalls]
      exact .nil
    · show task.readback.getD [] = _
      rw [hreadback]
      rfl

/-- The reply to an upload is taken in. -/
theorem known_of_asking (htake : takeUpload reply task = .ok () mid)
    (hlog : Log mid.image.length flash (callsWhere isUpload mid) replies)
    (hlength : (callsWhere isUpload mid).length = replies.length + 1)
    (hblock : task.block.toNat = replies.length % 65536)
    (hposition : task.position = replies.flatten.length) (hpending : task.pending ≤ 256)
    (hreadback : task.readback = some replies.flatten)
    (hserves : ∀ call ∈ (callsWhere isUpload mid).getLast?,
      reply <+: flash.drop (256 * blockOf call)) :
    Known flash (mid.enter host.recorded listener.recorded .getStatusRead)
      (replies ++ [reply]) := by
  obtain ⟨⟨-, hshort⟩, buffer, hbuffer, rfl⟩ := takeUpload_eq_ok_iff.mp htake
  obtain rfl : replies.flatten = buffer := Option.some.inj (hreadback.symm.trans hbuffer)
  have hflash : reply <+: flash.drop (256 * (replies.length % 65536)) := by
    obtain ⟨call, hlast, hcall⟩ := hlog.last_of_length hlength
    rw [← hcall]
    exact hserves call hlast
  -- The task counts octets and blocks on its own; both counts agree with the replies.
  have hflatten : (replies ++ [reply]).flatten = replies.flatten ++ reply := by simp
  have hlog' := hlog.answer hlength (Nat.le_trans hshort hpending) hflash
  refine known_enter_getStatusRead host listener hlog' ?_ ?_ ?_ ?_
  · rw [hlength, List.length_append, List.length_singleton]
  · show (task.block + 1).toNat = _
    rw [UInt16.toNat_add, hblock, List.length_append, List.length_singleton]
    exact Nat.mod_add_mod ..
  · rw [hflatten, List.length_append, ← hposition]
  · rw [hflatten]

/-- After a reply, the next block is asked for, or what has been read back is verified. -/
theorem known_of_noting (hanswer : Answered reply task .getStatusRead (some next) mid)
    (hlog : Log mid.image.length flash (callsWhere isUpload mid) replies)
    (hlength : (callsWhere isUpload mid).length = replies.length)
    (hblock : task.block.toNat = replies.length % 65536)
    (hposition : task.position = replies.flatten.length)
    (hreadback : task.readback = some replies.flatten) :
    Known flash (mid.enter host.recorded listener.recorded next) replies := by
  cases hanswer with
  | readOn hstatus hunread =>
    refine known_enter_readBack host listener hlog hlength hblock hposition hunread ?_
    rw [hreadback]
    rfl
  | verified hstatus hread hverify =>
    obtain ⟨hsame, rfl⟩ := verify_eq_ok_iff.mp hverify
    rw [hreadback] at hsame
    exact known_enter_end host listener (.inl rfl) hlog hlength hsame

/-- After the verification, the download goes on to its end. -/
theorem known_of_verified
    (hstate : task.state = .detach ∨ task.state = .checkStatus ∨ task.state = .complete)
    (hanswer : Answered reply task task.state (some next) mid)
    (hlog : Log mid.image.length flash (callsWhere isUpload mid) replies)
    (hlength : (callsWhere isUpload mid).length = replies.length)
    (hverified : replies.flatten = task.image) :
    Known flash (mid.enter host.recorded listener.recorded next) replies := by
  obtain hstate | hstate | hstate := hstate <;> rw [hstate] at hanswer <;> cases hanswer
  case detach => exact known_enter_end host listener (.inr (.inl rfl)) hlog hlength hverified
  case checkStatus => exact known_enter_end host listener (.inr (.inr rfl)) hlog hlength hverified

include hsize hpos in
/-- A reply that the task goes on with. -/
theorem known_advanced (h : Known flash task replies)
    (hcompleted : completed task.state reply task = .ok (some next) mid)
    (hserves : ∀ reply' ∈ taken task (.message (.completed task.state (.ok reply))),
      ∀ call ∈ (callsWhere isUpload task).getLast?, reply' <+: flash.drop (256 * blockOf call)) :
    Known flash (mid.enter host.recorded listener.recorded next)
      (replies ++ taken task (.message (.completed task.state (.ok reply)))) := by
  have hanswer := answered_of_completed hcompleted
  obtain ⟨himage, hcalls⟩ := kept_of_completed hcompleted
  have hlog := h.log
  have hreading := h.reading
  rw [← himage, ← hcalls] at hlog
  rw [← hcalls] at hreading hserves
  cases hreading with
  | failed hstate =>
    rw [hstate] at hanswer
    cases hanswer
  | writing hstate haligned hreadback huploads hreplies =>
    rw [append_taken_of_ne (by obtain h | h | h | h := hstate <;> simp [h]), hreplies]
    exact known_of_writing host listener hsize hpos hstate haligned hreadback hanswer huploads
  | asking hstate hlength hblock hposition hpending hreadback =>
    rw [hstate] at hanswer hserves ⊢
    cases hanswer with
    | readBack htake =>
      rw [taken_of_takeUpload hstate htake] at hserves ⊢
      exact known_of_asking host listener htake hlog hlength hblock hposition hpending hreadback
        (hserves reply (List.mem_singleton_self _))
  | noting hstate hlength hblock hposition hreadback =>
    rw [append_taken_of_ne (by simp [hstate])]
    rw [hstate] at hanswer
    exact known_of_noting host listener hanswer hlog hlength hblock hposition hreadback
  | verified hstate hlength hverified =>
    rw [append_taken_of_ne (by obtain h | h | h := hstate <;> simp [h])]
    exact known_of_verified host listener hstate hanswer hlog hlength hverified

include hsize hpos in
/-- **Message.** Whatever completes, what is known of the session goes on to hold. -/
theorem known_receive (h : Known flash task replies) (request : DownloadState)
    (result : Except DriverError Bytes)
    (hserves : ∀ reply ∈ taken task (.message (.completed request result)),
      ∀ call ∈ (callsWhere isUpload task).getLast?, reply <+: flash.drop (256 * blockOf call)) :
    Known flash (task.receive host.recorded listener.recorded (.completed request result))
      (replies ++ taken task (.message (.completed request result))) := by
  -- Unless the task goes on with the reply, it takes nothing in and asks for nothing.
  by_cases hquiet : ∀ (reply : Bytes) (next : DownloadState) (mid : Observed σ),
      DownloadMessage.completed request result = .completed task.state (.ok reply) →
        completed task.state reply task ≠ .ok (some next) mid
  · have htaken : taken task (.message (.completed request result)) = [] := by
      have hadded : added task (.message (.completed request result)) = [] :=
        accepted_eq_nil hquiet
      unfold taken
      rw [hadded]
    rw [htaken, List.append_nil]
    have hcase := received_receive host.recorded listener.recorded (.completed request result) task
    generalize task.receive host.recorded listener.recorded (.completed request result) = final
      at hcase
    cases hcase with
    | ignored => exact h
    | attached hmessage => cases hmessage
    | enumerated hmessage => cases hmessage
    | detached hmessage => cases hmessage
    | advanced hmessage hcompleted => exact absurd hcompleted (hquiet _ _ _ hmessage)
    | @failed mid error hstate hmid =>
      have hfailed := failed_of_core host.recorded listener.recorded hmid hstate error
      have hcalls := (made_fail host listener error mid).callsWhere_eq proper_isUpload.failure
      obtain ⟨hle, hle'⟩ := h.reading.length_le
      refine known_failed hfailed.image_eq hfailed.state_eq (hcalls.trans ?_) h.log hle hle'
      exact congrArg (List.filter isUpload) (calls_eq_of_core hmid)
  · push Not at hquiet
    obtain ⟨reply, next, mid, hmessage, hcompleted⟩ := hquiet
    rw [receive_eq_enter host.recorded listener.recorded hmessage hcompleted]
    cases hmessage
    exact known_advanced host listener hsize hpos h hcompleted hserves

end

end

/-! ## Sessions -/

section

variable (host : Host DownloadState σ) (listener : Listener σ) {flash : Bytes}

/-- What surrounds a task does not matter to what is known of it. -/
theorem known_outside {task : Observed σ} {replies : List Bytes} (h : Known flash task replies)
    (inner : σ) (inbox : List DownloadMessage) (retired : Bool) (failure : Option DriverError) :
    Known flash (step host listener (.outside inner inbox retired failure) task) replies := by
  refine ⟨h.log, ?_⟩
  cases h.reading with
  | writing hstate haligned hreadback huploads hreplies =>
    exact .writing hstate ⟨haligned.onBlock, haligned.transfer⟩ hreadback huploads hreplies
  | asking hstate hlength hblock hposition hpending hreadback =>
    exact .asking hstate hlength hblock hposition hpending hreadback
  | noting hstate hlength hblock hposition hreadback =>
    exact .noting hstate hlength hblock hposition hreadback
  | verified hstate hlength himage => exact .verified hstate hlength himage
  | failed hstate hle hle' => exact .failed hstate hle hle'

/-- A session begins with a device that is enumerated. -/
theorem known_enterAttached {task : Observed σ} (honBlock : OnBlock task)
    (hreadback : task.readback = none) (hcalls : callsWhere isUpload task = []) :
    Known flash (task.enterAttached host.recorded listener.recorded) [] := by
  have hsame := calls_enterAttached host listener proper_isUpload task
  obtain ⟨mid, hentered, hentered'⟩ | ⟨entered, hfailed⟩ :=
    enterAttached_cases host.recorded listener.recorded task
  · have haligned := aligned_enterAttached host.recorded listener.recorded honBlock
      (by rw [hentered'.state_eq]; simp)
    refine ⟨?_, .writing (.inl hentered'.state_eq) haligned ?_ (hsame.trans hcalls) rfl⟩
    · rw [hsame, hcalls]
      exact .nil
    · rw [hentered'.readback_eq, if_neg (by simp), hentered.readback_eq, if_neg (by simp),
        hreadback]
  · exact known_failed hfailed.image_eq hfailed.state_eq (hsame.trans hcalls) .nil (by simp)
      (by simp)

/-- **Run.** What is known of every session of a new task. -/
theorem known_play (world : σ) {image : Bytes} (hpos : 0 < image.length)
    (hsize : image.length ≤ maxImageSize) {interfaces : List Interface} {interface : Interface}
    (hfound : Interface.findDownload? interfaces = some interface) {moves : List (Move σ)}
    (hquiet : Quiet moves) (hserves : Serves host listener flash (session interfaces moves)
      { world := { inner := world }, image }) :
    Known flash
      (play host listener (session interfaces moves) { world := { inner := world }, image })
      (uploaded host listener (session interfaces moves)
        { world := { inner := world }, image }) := by
  induction moves using List.reverseRec with
  | nil =>
    let found : Observed σ :=
      { world := { inner := world }, image, interface := Interface.findDownload? interfaces }
    have hplay : play host listener (session interfaces [])
        { world := { inner := world }, image } =
          found.enterAttached host.recorded listener.recorded := by
      change (if (Interface.findDownload? interfaces).isSome then _ else _) = _
      rw [if_pos (by rw [hfound]; rfl)]
      rfl
    rw [hplay]
    exact known_enterAttached host listener (fun _ => (Nat.zero_min _).symm) rfl rfl
  | append_singleton moves move ih =>
    have hmove := hquiet move (List.mem_append_right _ (List.mem_singleton_self _))
    rw [show session interfaces (moves ++ [move]) = session interfaces moves ++ [move] by
      simp [session]] at hserves ⊢
    obtain ⟨hearlier, hlast, -⟩ := serves_append host listener hserves
    have h := ih (fun move hmove => hquiet move (List.mem_append_left _ hmove)) hearlier
    have himage := image_play host listener (session interfaces moves)
      { world := { inner := world }, image }
    rw [play_concat, uploaded_append]
    generalize play host listener (session interfaces moves)
      { world := { inner := world }, image } = task at h hlast himage ⊢
    have himage' : task.image = image := himage
    cases move with
    | outside inner inbox retired failure =>
      have hnone : uploaded host listener [.outside inner inbox retired failure] task = [] := rfl
      rw [hnone, List.append_nil]
      exact known_outside host listener h inner inbox retired failure
    | message message =>
      cases message with
      | host event => exact absurd rfl (hmove event)
      | completed request result =>
        have hone : uploaded host listener [.message (.completed request result)] task =
            taken task (.message (.completed request result)) := List.append_nil _
        rw [hone]
        exact known_receive host listener (by rwa [himage']) (by rwa [himage']) h request result
          hlast

end

/-! ## Whole blocks -/

section

variable {size : Nat} {flash : Bytes} {uploads : List (HostCall DownloadState)}
  {replies : List Bytes}

/-- So many octets are in replies that are all whole blocks. -/
theorem length_flatten_of_whole (hwhole : ∀ reply ∈ replies, reply.length = 256) :
    replies.flatten.length = 256 * replies.length := by
  induction replies with
  | nil => rfl
  | cons reply replies ih =>
    rw [List.flatten_cons, List.length_append, hwhole reply List.mem_cons_self,
      ih fun other hother => hwhole other (List.mem_cons_of_mem _ hother), List.length_cons]
    omega

/-- Whole blocks, one after the other, and the start of another one are the start of the flash. -/
theorem flatten_isPrefix
    (hflash : ∀ (index : Nat) (reply : Bytes), replies[index]? = some reply →
      reply <+: flash.drop (256 * index))
    (hwhole : ∀ reply ∈ replies.dropLast, reply.length = 256) : replies.flatten <+: flash := by
  induction replies using List.reverseRec with
  | nil => exact List.nil_prefix
  | append_singleton replies last ih =>
    rw [List.dropLast_concat] at hwhole
    obtain ⟨rest, hrest⟩ := ih
      (fun index reply h => hflash index reply (by
        rw [List.getElem?_append_left (List.getElem?_eq_some_iff.mp h).1]
        exact h))
      fun reply hreply => hwhole reply (List.dropLast_subset _ hreply)
    have hlast := hflash replies.length last List.getElem?_concat_length
    rw [← hrest, ← length_flatten_of_whole hwhole, List.drop_left] at hlast
    rw [← hrest, List.flatten_append, List.flatten_singleton]
    exact (List.prefix_append_right_inj _).mpr hlast

/-- Before a block is asked for, whole blocks have been read. -/
structure Whole (uploads : List (HostCall DownloadState)) (replies : List Bytes) : Prop where
  length_eq : ∀ index < uploads.length, (replies.take index).flatten.length = 256 * index
  lt : ∀ index < uploads.length, index < 65535

theorem Log.whole (h : Log size flash uploads replies) (hsize : size ≤ maxImageSize)
    (hle : uploads.length ≤ replies.length + 1)
    (hwhole : ∀ reply ∈ replies.take (uploads.length - 1), reply.length = 256) :
    Whole uploads replies := by
  have hmax : maxImageSize = 65535 * 256 := rfl
  have hlength (index : Nat) (hindex : index < uploads.length) :
      (replies.take index).flatten.length = 256 * index := by
    have htake : (replies.take index).length = index :=
      List.length_take_of_le (by omega)
    rw [length_flatten_of_whole, htake]
    intro reply hreply
    exact hwhole reply ((List.take_subset_take_left _ (by omega)) hreply)
  refine ⟨hlength, fun index hindex => ?_⟩
  have hunread := h.unread index hindex
  rw [hlength index hindex] at hunread
  omega

/-- If every reply but the last is a whole block, all of them are the start of the flash. -/
theorem Log.flatten_isPrefix (h : Log size flash uploads replies) (whole : Whole uploads replies)
    (hlength : uploads.length = replies.length)
    (hwhole : ∀ reply ∈ replies.take (uploads.length - 1), reply.length = 256) :
    replies.flatten <+: flash := by
  refine DownloadTask.flatten_isPrefix (fun index reply hreply => ?_) ?_
  · have hlt := (List.getElem?_eq_some_iff.mp hreply).1
    have hsmall := whole.lt index (hlength ▸ hlt)
    have hflash := (h.reply index reply hreply).2
    rwa [Nat.mod_eq_of_lt (by omega)] at hflash
  · rwa [List.dropLast_eq_take, ← hlength]

/-- The number of a block that is downloaded can be increased. -/
theorem Aligned.block_lt {task : DownloadTask σ} (h : Aligned task)
    (hsize : task.image.length ≤ maxImageSize) (hreadback : task.readback = none)
    (hstate : task.state = .transfer) : task.block.toNat < 65535 := by
  have hmax : maxImageSize = 65535 * 256 := rfl
  have hposition := h.onBlock (by rw [hreadback]; rfl)
  have hunread := (h.transfer hstate).1
  omega

/-- If every block is asked for that holds the next unread octet, then all before are whole. -/
theorem Log.whole_of_nextUnread (h : Log size flash uploads replies)
    (hle : uploads.length ≤ replies.length + 1)
    (hnext : ∀ (index : Nat) (call : HostCall DownloadState), uploads[index]? = some call →
      blockOf call = (replies.take index).flatten.length / 256)
    (count : Nat) (hcount : count < uploads.length) :
    ∀ reply ∈ replies.take count, reply.length = 256 := by
  -- A short reply leaves the next unread octet in the same block, but the task asks for the next.
  induction count with
  | zero => simp
  | succ count ih =>
    have hearlier := ih (by omega)
    have hlt : count < replies.length := by omega
    have htake : replies.take (count + 1) = replies.take count ++ [replies[count]] := by simp
    have hlength : (replies.take (count + 1)).flatten.length =
        256 * count + replies[count].length := by
      rw [htake, List.flatten_append, List.length_append, length_flatten_of_whole hearlier,
        List.length_take_of_le (by omega)]
      simp
    have hcall := List.getElem?_eq_getElem hcount
    have hblock := (h.block _ _ hcall).symm.trans (hnext _ _ hcall)
    have hshort := (h.reply count _ (List.getElem?_eq_getElem hlt)).1
    have hfull : replies[count].length = 256 := by omega
    intro reply hreply
    rw [htake] at hreply
    obtain hreply | hreply := List.mem_append.mp hreply
    · exact hearlier reply hreply
    · rw [List.mem_singleton.mp hreply]
      exact hfull

end

/-! ## Main theorem -/

/-- **Readback.** For every image that is taken, every host and listener, and every session at a
    device that answers each upload with the start of what its flash holds from the block on that
    was asked for: the session covers the flash exactly if every reply is a whole block that another
    upload follows. -/
theorem covers_iff_whole (host : Host DownloadState σ) (listener : Listener σ) (world : σ)
    (image : Bytes) {start : Observed σ} (hnew : new { inner := world } image = .ok start)
    {interfaces : List Interface} {interface : Interface}
    (hfound : Interface.findDownload? interfaces = some interface) {replies : List (Move σ)}
    (hquiet : Quiet replies) {flash : Bytes}
    (hserves : Serves host listener flash (session interfaces replies) start) :
    Covers host listener flash (session interfaces replies) start ↔
      ∀ reply ∈ (uploaded host listener (session interfaces replies) start).take
          ((callsWhere isUpload
            (play host listener (session interfaces replies) start)).length - 1),
        reply.length = 256 := by
  obtain ⟨⟨hpos, hsize⟩, rfl⟩ := (new_eq_ok_iff _ image start).mp hnew
  have hknown := known_play host listener world hpos hsize hfound hquiet hserves
  have himage := image_play host listener (session interfaces replies)
    { world := { inner := world }, image }
  obtain ⟨hle', hle⟩ := hknown.reading.length_le
  have hlog := hknown.log
  rw [himage] at hlog
  constructor
  · intro covers
    by_cases hnone : (callsWhere isUpload (play host listener (session interfaces replies)
        { world := { inner := world }, image })).length = 0
    · simp [hnone]
    · exact hlog.whole_of_nextUnread hle covers.nextUnread _ (by omega)
  · intro hwhole
    have whole := hlog.whole hsize hle hwhole
    refine ⟨fun hcomplete => ?_, fun index call hcall => ?_, fun hrequested => ?_⟩
    · cases hknown.reading with
      | verified hstate hlength hverified =>
        have hstart := hlog.flatten_isPrefix whole hlength hwhole
        rw [hverified, himage] at hstart
        exact (List.prefix_iff_eq_take.mp hstart).symm
      | writing hstate => simp [hcomplete] at hstate
      | asking hstate => simp [hcomplete] at hstate
      | noting hstate => simp [hcomplete] at hstate
      | failed hstate => simp [hcomplete] at hstate
    · have hlt := (List.getElem?_eq_some_iff.mp hcall).1
      have hsmall := whole.lt index hlt
      rw [hlog.block index call hcall, whole.length_eq index hlt]
      omega
    · cases hknown.reading with
      | writing hstate haligned hreadback =>
        obtain htransfer | hread := hrequested
        · exact haligned.block_lt (by rwa [himage]) hreadback htransfer
        · simp [hread] at hstate
      | asking hstate hlength hblock =>
        have hsmall := whole.lt _ (Nat.lt_of_succ_le (Nat.le_of_eq hlength.symm))
        omega
      | verified hstate => obtain h | h := hrequested <;> simp [h] at hstate
      | noting hstate => obtain h | h := hrequested <;> simp [h] at hstate
      | failed hstate => obtain h | h := hrequested <;> simp [h] at hstate

/-- The replies to every request, from the selection of the interface to the end of the download, if
    each of so many blocks is written and the given replies are read back. -/
def completeReplies (blocks : Nat) (readback : List Bytes) : List (Move Unit) :=
  let ready := DfuStatus.encode ⟨0, 0, 2, 0⟩
  let completed (request : DownloadState) (reply : Bytes) : Move Unit :=
    .message (.completed request (.ok reply))
  [completed .setInterface [], completed .getStatus ready] ++
    (List.replicate blocks [completed .transfer [], completed .getStatus ready]).flatten ++
    [completed .zeroLengthTransfer []] ++
    (readback.map fun reply =>
      [completed .readBack reply, completed .getStatusRead ready]).flatten ++
    [completed .detach [], completed .checkStatus ready]

/-- No event of the host is among the replies. -/
theorem quiet_completeReplies (blocks : Nat) (readback : List Bytes) :
    Quiet (completeReplies blocks readback) := by
  intro move hmove event h
  subst h
  simp [completeReplies] at hmove

/-- A device that returns a whole block and then the last octet is covered. -/
theorem covers_twoBlocks :
    let image : Bytes := List.replicate 257 7
    let start : Observed Unit := { world := { inner := () }, image }
    let moves := session Interface.download (completeReplies 2 [List.replicate 256 7, [7]])
    (play patientHost (.silent Unit) moves start).state = .complete ∧
      Covers patientHost (.silent Unit) (image ++ [8]) moves start := by
  intro image start moves
  have hnew : new ({ inner := () } : Recorded Unit (HostCall DownloadState)) image = .ok start :=
    (new_eq_ok_iff _ image start).mpr ⟨⟨by decide +kernel, by decide +kernel⟩, rfl⟩
  have hserves : Serves patientHost (.silent Unit) (image ++ [8]) moves start := by decide +kernel
  refine ⟨by decide +kernel, (covers_iff_whole patientHost (.silent Unit) () image hnew rfl
    (quiet_completeReplies 2 _) hserves).mpr ?_⟩
  decide +kernel

/-- An octet of the image that is never read back. -/
theorem not_covers_of_shortReply :
    ¬∀ (host : Host DownloadState Unit) (listener : Listener Unit) (image : Bytes)
      (start : Observed Unit), new { inner := () } image = .ok start →
      ∀ (replies : List (Move Unit)), Quiet replies → ∀ (flash : Bytes),
      Serves host listener flash (session Interface.download replies) start →
      Covers host listener flash (session Interface.download replies) start := by
  intro h
  let image : Bytes := [7, 9]
  let start : Observed Unit := { world := { inner := () }, image }
  let flash : Bytes := [7] ++ List.replicate 255 0 ++ [9]
  let replies := completeReplies 1 [[7], [9]]
  have hserves : Serves patientHost (.silent Unit) flash (session Interface.download replies)
      start := by decide +kernel
  have hcomplete : (play patientHost (.silent Unit) (session Interface.download replies)
      start).state = .complete := by decide +kernel
  have hcovers := (h patientHost (.silent Unit) image start rfl replies
    (quiet_completeReplies 1 _) flash hserves).complete hcomplete
  cases hcovers

end TensorLink.DownloadTask
