import TensorLink.Proofs.Download.Session

/-!
# Firmware is delivered

A download writes the blocks of the image in order, ends it with an empty block, and reads the
blocks back in order. `Downloaded` and `ReadBack` say how far it has come after so many blocks.

Results:
* `Downloaded.blocks`, `ReadBack.blocks`: the blocks are downloaded, and read back, one by one.
* `delivers_of_shown`, `refuses_of_shown`: how a run ends at a loader that has just been attached.
* `run_freshLoader`: a new task delivers every image, or finds the octet that came back wrong.
-/

namespace TensorLink.DownloadTask

open Sequencing Simulation

/-! ## Specification -/

/-- The number of blocks of an image. -/
def blockCount (image : Bytes) : Nat := (image.length + 255) / 256

/-- A block of an image, with its number. -/
def numberedBlock (image : Bytes) (k : Nat) : Nat × Bytes :=
  (k, (image.drop (256 * k)).take 256)

/-- The states entered from attaching a loader to comparing, if an image has so many blocks. -/
def sessionStates (blocks : Nat) : List DownloadState :=
  [.attached, .setInterface] ++ (List.replicate blocks [.getStatus, .transfer]).flatten ++
    [.getStatus, .zeroLengthTransfer] ++
    (List.replicate blocks [.readBack, .getStatusRead]).flatten

/-- How a run ended: its outcome, and the task that it left. -/
abbrev Ran := Except DriverError DownloadReport × DownloadTask LoaderWorld

/-- A run that has entered the states `earlier` before has delivered the image. -/
structure Delivers (image : Bytes) (earlier : List DownloadState) (releases : Nat) (run : Ran) :
    Prop where
  outcome_eq : run.1 = .ok ⟨image.length,
    earlier ++ sessionStates (blockCount image) ++ [.detach, .checkStatus, .complete], releases⟩
  state_eq : run.2.state = .complete
  flash_eq : ∃ loader, run.2.world.transport.device = .loader loader ∧ loader.flash = image
  downloads_eq : requestsOf DfuRequest.download run.2.world.transport.calls =
    (List.range (blockCount image)).map (numberedBlock image) ++
      [(blockCount image, [])]
  finished : run.2.world.resets = 1 ∧ run.2.world.reenumerations = 1

/-- A run has found an octet that came back wrong, and has not started the firmware. -/
structure Refuses (offset : Nat) (run : Ran) : Prop where
  outcome_eq : run.1 = .error (.firmwareMismatch offset)
  state_eq : run.2.state = .error
  detach_eq : requestsOf DfuRequest.detach run.2.world.transport.calls = []
  unfinished : ∀ call ∈ run.2.world.calls,
    call ≠ .resetBus ∧ call ≠ .requestReenumeration

/-- What a loader that holds an image shows of it. -/
def shown (image : Bytes) (corrupt : Option Nat) : Bytes :=
  Loader.shown { flash := image, corrupt }

/-! ## Requests and blocks -/

theorem requestsOf_cons (setup : SetupPacket) (data : Bytes) (calls : List TransportCall) :
    requestsOf setup.request (.control setup data :: calls) =
      requestsOf setup.request calls ++ [(setup.value.toNat, data)] := by
  unfold requestsOf
  rw [List.reverse_cons, List.filterMap_append]
  simp

theorem requestsOf_cons_of_ne {code : UInt8} {setup : SetupPacket} (h : setup.request ≠ code)
    (data : Bytes) (calls : List TransportCall) :
    requestsOf code (.control setup data :: calls) = requestsOf code calls := by
  unfold requestsOf
  rw [List.reverse_cons, List.filterMap_append]
  simp [h]

theorem flatten_replicate_succ {α : Type} (k : Nat) (part : List α) :
    (List.replicate (k + 1) part).flatten = (List.replicate k part).flatten ++ part := by
  rw [List.replicate_succ', List.flatten_append, List.flatten_singleton]

theorem take_drop_eq_block (image : Bytes) (position : Nat) :
    (image.drop position).take (min (image.length - position) 256) =
      (image.drop position).take 256 := by
  rw [← List.length_drop, Nat.min_comm, ← List.take_eq_take_min]

/-- The number of a block, and that of the empty one at the end, fits the request. -/
theorem toNat_blockNumber {image : Bytes} (hsize : image.length ≤ maxImageSize) {k : Nat}
    (hk : k ≤ blockCount image) : (UInt16.ofNat k).toNat = k := by
  have hmax : maxImageSize = 65535 * 256 := rfl
  rw [blockCount] at hk
  exact UInt16.toNat_ofNat_of_lt' (show k < 65536 by omega)

/-- A block that starts within the image is one of its blocks. -/
theorem le_blockCount {image : Bytes} {k : Nat} (hk : 256 * k < image.length) :
    k ≤ blockCount image := by
  rw [blockCount]
  omega

section

variable (image : Bytes) (corrupt : Option Nat) (entered : List DownloadState) (releases : Nat)

/-! ## Downloading -/

/-- The first `k` blocks have been downloaded, and the status has been asked for. -/
structure Downloaded (k : Nat) (m : Moment) : Prop where
  state_eq : m.state = .getStatus
  status : checkStatus m.reply = .ok ()
  block_eq : m.block = UInt16.ofNat k
  position_eq : m.position = min (256 * k) image.length
  readback_eq : m.readback.getD [] = []
  releases_eq : m.releases = releases
  flash_eq : m.loader.flash = image.take (256 * k)
  corrupt_eq : m.loader.corrupt = corrupt
  history_eq : m.history.reverse =
    entered ++ (List.replicate k [.getStatus, .transfer]).flatten ++ [.getStatus]
  downloads_eq : requestsOf DfuRequest.download m.calls = (List.range k).map (numberedBlock image)
  detach_eq : requestsOf DfuRequest.detach m.calls = []

variable {image corrupt entered releases} {interface : Interface} {failure : Option DriverError}

theorem Downloaded.leads {k : Nat} {m : Moment} (h : Downloaded image corrupt entered releases k m)
    (hk : 256 * k < image.length) :
    Leads image interface failure 2 m
      ((m.transferred image interface).acknowledged interface) := by
  have hposition : m.position = 256 * k := by rw [h.position_eq]; omega
  exact (leads_transfer h.state_eq h.status (by omega)).trans (leads_acknowledge rfl)

theorem Downloaded.succ {k : Nat} {m : Moment} (h : Downloaded image corrupt entered releases k m)
    (hsize : image.length ≤ maxImageSize) (hk : 256 * k < image.length) :
    Downloaded image corrupt entered releases (k + 1)
      ((m.transferred image interface).acknowledged interface) := by
  have hposition : m.position = 256 * k := by rw [h.position_eq]; omega
  have hblock : m.block.toNat = k := by
    rw [h.block_eq, toNat_blockNumber hsize (le_blockCount hk)]
  have hdata := take_drop_eq_block image m.position
  have hflash : m.loader.program m.block ((image.drop m.position).take
      (min (image.length - m.position) 256)) = image.take (256 * (k + 1)) := by
    have hlength : m.loader.flash.length = m.block.toNat * DfuRequest.blockSize := by
      rw [h.flash_eq, List.length_take, hblock, show DfuRequest.blockSize = 256 from rfl]
      omega
    rw [Loader.program_append _ hlength, h.flash_eq, hdata, hposition, Nat.mul_succ, List.take_add]
  refine ⟨rfl, rfl, ?_, ?_, h.readback_eq, h.releases_eq, hflash, h.corrupt_eq, ?_, ?_, ?_⟩
  · change m.block + 1 = _
    rw [h.block_eq, UInt16.ofNat_add]
    rfl
  · change m.position + min (image.length - m.position) 256 = _
    omega
  · change (DownloadState.getStatus :: .transfer :: m.history).reverse = _
    rw [List.reverse_cons, List.reverse_cons, h.history_eq, flatten_replicate_succ]
    simp
  · refine (requestsOf_cons_of_ne (show DfuRequest.getStatus ≠ _ by decide) _ _).trans ?_
    refine (requestsOf_cons (DfuRequest.output DfuRequest.download ..) _ m.calls).trans ?_
    change requestsOf DfuRequest.download m.calls ++
      [(m.block.toNat, (image.drop m.position).take (min (image.length - m.position) 256))] = _
    rw [h.downloads_eq, List.range_succ, List.map_append, hdata, hblock, hposition]
    rfl
  · refine (requestsOf_cons_of_ne (show DfuRequest.getStatus ≠ _ by decide) _ _).trans ?_
    exact (requestsOf_cons_of_ne (show DfuRequest.download ≠ _ by decide) _ _).trans h.detach_eq

/-- The blocks are downloaded one after the other. -/
theorem Downloaded.blocks {m : Moment} (h : Downloaded image corrupt entered releases 0 m)
    (hsize : image.length ≤ maxImageSize) {k : Nat} (hk : k ≤ blockCount image) :
    ∃ m', Leads image interface failure (2 * k) m m' ∧
      Downloaded image corrupt entered releases k m' := by
  induction k with
  | zero => exact ⟨m, fun _ _ => rfl, h⟩
  | succ k ih =>
    obtain ⟨mid, hleads, hmid⟩ := ih (by omega)
    rw [blockCount] at hk
    refine ⟨(mid.transferred image interface).acknowledged interface, ?_,
      hmid.succ hsize (by omega)⟩
    rw [show 2 * (k + 1) = 2 + 2 * k by omega]
    exact hleads.trans (hmid.leads (by omega))

/-! ## Reading back -/

variable (image corrupt entered releases) in
/-- The first `k` blocks have been read back. -/
structure ReadBack (k : Nat) (m : Moment) : Prop where
  block_eq : m.block = UInt16.ofNat k
  position_eq : m.position = min (256 * k) image.length
  readback_eq : m.readback.getD [] = (shown image corrupt).take (256 * k)
  releases_eq : m.releases = releases
  flash_eq : m.loader.flash = image
  corrupt_eq : m.loader.corrupt = corrupt
  history_eq : m.history.reverse =
    entered ++ (List.replicate k [.readBack, .getStatusRead]).flatten
  downloads_eq : requestsOf DfuRequest.download m.calls =
    (List.range (blockCount image)).map (numberedBlock image) ++
      [(blockCount image, [])]
  detach_eq : requestsOf DfuRequest.detach m.calls = []

theorem shown_eq {loader : Loader} (hflash : loader.flash = image)
    (hcorrupt : loader.corrupt = corrupt) : loader.shown = shown image corrupt := by
  subst hflash hcorrupt
  rfl

theorem length_shown (image : Bytes) (corrupt : Option Nat) :
    (shown image corrupt).length = image.length := Loader.length_shown _

/-- What an upload returns. -/
theorem ReadBack.reply_eq {k : Nat} {m : Moment} (h : ReadBack image corrupt entered releases k m)
    (hsize : image.length ≤ maxImageSize) (hk : 256 * k < image.length) :
    (m.uploaded image interface).reply = ((shown image corrupt).drop (256 * k)).take 256 := by
  have hposition : m.position = 256 * k := by rw [h.position_eq]; omega
  have hblock : m.block.toNat = k := by
    rw [h.block_eq, toNat_blockNumber hsize (le_blockCount hk)]
  have hpending : (UInt16.ofNat (min (image.length - m.position) 256)).toNat =
      min (image.length - m.position) 256 :=
    UInt16.toNat_ofNat_of_lt' (show _ < 65536 by omega)
  change m.loader.upload m.block
    (UInt16.ofNat (min (image.length - m.position) 256)).toNat = _
  rw [Loader.upload_eq, shown_eq h.flash_eq h.corrupt_eq, hpending, hblock,
    show DfuRequest.blockSize = 256 from rfl, hposition, Nat.mul_comm k,
    ← length_shown image corrupt, take_drop_eq_block]

theorem ReadBack.length_reply {k : Nat} {m : Moment}
    (h : ReadBack image corrupt entered releases k m) (hsize : image.length ≤ maxImageSize)
    (hk : 256 * k < image.length) :
    (m.uploaded image interface).reply.length = min 256 (image.length - 256 * k) := by
  rw [h.reply_eq hsize hk, List.length_take, List.length_drop, length_shown]

theorem ReadBack.leads_take {k : Nat} {m : Moment}
    (h : ReadBack image corrupt entered releases k m) (hsize : image.length ≤ maxImageSize)
    (hk : 256 * k < image.length) :
    Leads image interface failure 1 (m.uploaded image interface)
      ((m.uploaded image interface).taken interface) := by
  have hposition : m.position = 256 * k := by rw [h.position_eq]; omega
  have hlength : (m.uploaded image interface).reply.length = _ := h.length_reply hsize hk
  have hpending : (m.uploaded image interface).pending = min (image.length - m.position) 256 := rfl
  exact DownloadTask.leads_take rfl rfl (by omega) (by omega)

theorem ReadBack.succ {k : Nat} {m : Moment} (h : ReadBack image corrupt entered releases k m)
    (hsize : image.length ≤ maxImageSize) (hk : 256 * k < image.length) :
    ReadBack image corrupt entered releases (k + 1)
      ((m.uploaded image interface).taken interface) := by
  have hposition : m.position = 256 * k := by rw [h.position_eq]; omega
  have hreply : (m.uploaded image interface).reply = _ := h.reply_eq hsize hk
  have hlength : (m.uploaded image interface).reply.length = _ := h.length_reply hsize hk
  refine ⟨?_, ?_, ?_, h.releases_eq, h.flash_eq, h.corrupt_eq, ?_, ?_, ?_⟩
  · change m.block + 1 = _
    rw [h.block_eq, UInt16.ofNat_add]
    rfl
  · change m.position + (m.uploaded image interface).reply.length = _
    omega
  · change m.readback.getD [] ++ (m.uploaded image interface).reply = _
    rw [h.readback_eq, hreply, Nat.mul_succ, List.take_add]
  · change (DownloadState.getStatusRead :: .readBack :: m.history).reverse = _
    rw [List.reverse_cons, List.reverse_cons, h.history_eq, flatten_replicate_succ]
    simp
  · refine (requestsOf_cons_of_ne (show DfuRequest.getStatus ≠ _ by decide) _ _).trans ?_
    exact (requestsOf_cons_of_ne (show DfuRequest.upload ≠ _ by decide) _ _).trans h.downloads_eq
  · refine (requestsOf_cons_of_ne (show DfuRequest.getStatus ≠ _ by decide) _ _).trans ?_
    exact (requestsOf_cons_of_ne (show DfuRequest.upload ≠ _ by decide) _ _).trans h.detach_eq

/-- The blocks are read back one after the other. -/
theorem ReadBack.blocks {m : Moment} (h : ReadBack image corrupt entered releases 0 m)
    (hsize : image.length ≤ maxImageSize) {k : Nat} (hk : k < blockCount image) :
    ∃ m' : Moment, Leads image interface failure (2 * k + 1) (m.uploaded image interface)
        ((m'.uploaded image interface).taken interface) ∧
      ReadBack image corrupt entered releases (k + 1)
        ((m'.uploaded image interface).taken interface) := by
  rw [blockCount] at hk
  induction k with
  | zero => exact ⟨m, h.leads_take hsize (by omega), h.succ hsize (by omega)⟩
  | succ k ih =>
    obtain ⟨m', hleads, hmid⟩ := ih (by omega)
    have hposition := hmid.position_eq
    refine ⟨(m'.uploaded image interface).taken interface, ?_, hmid.succ hsize (by omega)⟩
    rw [show 2 * (k + 1) + 1 = 1 + (1 + (2 * k + 1)) by omega]
    exact (hleads.trans (leads_readOn rfl rfl (by omega))).trans
      (hmid.leads_take hsize (by omega))

/-! ## A whole session -/

/-- The task would start a download from the beginning. -/
structure Unstarted {σ : Type} (task : DownloadTask σ) : Prop where
  block_eq : task.block = 0
  position_eq : task.position = 0
  readback_eq : task.readback.getD [] = []

/-- From attaching a fresh loader to comparing. -/
theorem leads_comparison {task : DownloadTask LoaderWorld} (hunstarted : Unstarted task)
    (hpos : 0 < task.image.length) (hsize : task.image.length ≤ maxImageSize) :
    ∃ m : Moment, Leads task.image interface failure (4 * blockCount task.image + 2)
        (Moment.attached corrupt interface task) m ∧
      m.state = .getStatusRead ∧ checkStatus m.reply = .ok () ∧
      ReadBack task.image corrupt (task.history.reverse ++ [.attached, .setInterface] ++
        (List.replicate (blockCount task.image) [.getStatus, .transfer]).flatten ++
        [.getStatus, .zeroLengthTransfer]) task.releases (blockCount task.image) m := by
  have hcount : blockCount task.image = (task.image.length + 255) / 256 := rfl
  let asked := (Moment.attached corrupt interface task).asked interface .getStatus
  have hasked : Downloaded task.image corrupt (task.history.reverse ++ [.attached, .setInterface])
      task.releases 0 asked := by
    refine ⟨rfl, rfl, hunstarted.block_eq, ?_, hunstarted.readback_eq, rfl, rfl, rfl, ?_, rfl, rfl⟩
    · change task.position = _
      rw [hunstarted.position_eq, Nat.mul_zero, Nat.zero_min]
    · change (DownloadState.getStatus :: .setInterface :: .attached :: task.history).reverse = _
      simp
  obtain ⟨m, hblocks, hdownloaded⟩ : ∃ m, Leads task.image interface failure
      (2 * blockCount task.image) asked m ∧ Downloaded task.image corrupt _ _ _ m :=
    hasked.blocks hsize (Nat.le_refl _)
  have hposition := hdownloaded.position_eq
  have hended : ReadBack task.image corrupt (task.history.reverse ++ [.attached, .setInterface] ++
      (List.replicate (blockCount task.image) [.getStatus, .transfer]).flatten ++
      [.getStatus, .zeroLengthTransfer]) task.releases 0
      { m.ended interface with block := 0, position := 0 } := by
    refine ⟨rfl, ?_, hdownloaded.readback_eq, hdownloaded.releases_eq, ?_, hdownloaded.corrupt_eq,
      ?_, ?_, ?_⟩
    · rw [Nat.mul_zero, Nat.zero_min]
    · change m.loader.flash = _
      rw [hdownloaded.flash_eq, List.take_of_length_le (by omega)]
    · change (DownloadState.zeroLengthTransfer :: m.history).reverse = _
      rw [List.reverse_cons, hdownloaded.history_eq]
      simp
    · refine (requestsOf_cons (DfuRequest.output DfuRequest.download ..) _ m.calls).trans ?_
      change requestsOf DfuRequest.download m.calls ++ [(m.block.toNat, [])] = _
      rw [hdownloaded.downloads_eq, hdownloaded.block_eq, toNat_blockNumber hsize (Nat.le_refl _)]
    · exact (requestsOf_cons_of_ne (show DfuRequest.download ≠ _ by decide) _ _).trans
        hdownloaded.detach_eq
  obtain ⟨m', huploads, hread⟩ : ∃ m' : Moment, Leads task.image interface failure
      (2 * (blockCount task.image - 1) + 1) _ ((m'.uploaded task.image interface).taken interface) ∧
      ReadBack task.image corrupt _ _ (blockCount task.image - 1 + 1) _ :=
    hended.blocks hsize (by omega)
  refine ⟨(m'.uploaded task.image interface).taken interface, ?_, rfl, rfl, ?_⟩
  · have hend : Leads task.image interface failure 1 m (m.ended interface) :=
      leads_end hdownloaded.state_eq hdownloaded.status (by omega)
    have hall := ((((leads_setInterface rfl).trans hblocks).trans hend).trans
      (leads_readBack rfl)).trans huploads
    rw [show 4 * blockCount task.image + 2 = 2 * (blockCount task.image - 1) + 1 +
      (1 + (1 + (2 * blockCount task.image + 1))) by omega]
    exact hall
  · rwa [Nat.sub_add_cancel (by omega)] at hread

end

/-! ## Runs -/

/-- The task at a host with a fresh loader, which is being attached. -/
def reattached {σ : Type} (corrupt : Option Nat) (interfaces : List Interface)
    (task : DownloadTask σ) : DownloadTask LoaderWorld :=
  { task with
    world := freshWorld corrupt
    inbox := [.host (.attach interfaces), .host .enumerationDone]
    retired := false }

section

variable {σ : Type} {task : DownloadTask σ} (corrupt : Option Nat) {interfaces : List Interface}
  {interface : Interface} (hrunning : Running task)
  (hunstarted : Unstarted task) (hpos : 0 < task.image.length)
  (hsize : task.image.length ≤ maxImageSize)
  (hfound : Interface.findDownload? interfaces = some interface)

include hrunning hunstarted hpos hsize hfound

/-- A run comes to the comparison with so many messages left to handle. -/
theorem run_reattached (idle : Nat) : ∃ (budget : Nat) (m : Moment),
    (task.reattached corrupt interfaces).run loaderHost loaderListener idle =
      (waiting task.image interface task.failure m).runWithin loaderHost loaderListener idle
        (budget + 4) ∧
      m.state = .getStatusRead ∧ checkStatus m.reply = .ok () ∧
      ReadBack task.image corrupt (task.history.reverse ++ [.attached, .setInterface] ++
        (List.replicate (blockCount task.image) [.getStatus, .transfer]).flatten ++
        [.getStatus, .zeroLengthTransfer]) task.releases (blockCount task.image) m := by
  have hcount : blockCount task.image = (task.image.length + 255) / 256 := rfl
  let ready := task.reattached corrupt interfaces
  have hready : Unstarted ready := ⟨hunstarted.block_eq, hunstarted.position_eq,
    hunstarted.readback_eq⟩
  obtain ⟨m, hleads, hstate, hstatus, hread⟩ : ∃ m, Leads task.image interface task.failure
      (4 * blockCount task.image + 2) (Moment.attached corrupt interface ready) m ∧ _ :=
    leads_comparison hready hpos hsize
  obtain ⟨budget, hbudget⟩ : ∃ budget, ready.messageBudget =
      budget + 4 + (4 * blockCount task.image + 2) + 2 := by
    refine ⟨ready.messageBudget - (4 * blockCount task.image + 8), ?_⟩
    have hall : ready.messageBudget = 3 * (4 * task.image.length + 16) := rfl
    omega
  refine ⟨budget, m, ?_, hstate, hstatus, hread⟩
  change ready.runWithin loaderHost loaderListener idle ready.messageBudget = _
  rw [hbudget, runWithin_attach idle _ hrunning rfl hfound rfl rfl]
  exact hleads idle (budget + 4)

/-- What comes back whole is delivered. -/
theorem delivers_of_shown (hshown : shown task.image corrupt = task.image) (idle : Nat) :
    Delivers task.image task.history.reverse (task.releases + 1)
      ((task.reattached corrupt interfaces).run loaderHost loaderListener idle) := by
  obtain ⟨budget, m, hrun, hstate, hstatus, hread⟩ :=
    run_reattached corrupt hrunning hunstarted hpos hsize hfound idle
  have hcount : blockCount task.image = (task.image.length + 255) / 256 := rfl
  have hposition := hread.position_eq
  have hequal : m.readback.getD [] = task.image := by
    rw [hread.readback_eq, hshown, List.take_of_length_le (by omega)]
  have hend : Leads task.image interface task.failure 2 m
      ((m.compared.detached interface).asked interface .checkStatus) :=
    (leads_detach hstate hstatus (by omega) hequal).trans (leads_checkStatus rfl)
  rw [hrun, show budget + 4 = budget + 2 + 2 by omega, hend idle (budget + 2),
    runWithin_finish idle budget rfl rfl]
  refine ⟨?_, rfl, ⟨_, rfl, hread.flash_eq⟩, ?_, rfl, rfl⟩
  · change Except.ok (DownloadReport.mk task.image.length
      (DownloadState.complete :: .checkStatus :: .detach :: m.history).reverse
      (m.releases + 1)) = _
    rw [hread.releases_eq, List.reverse_cons, List.reverse_cons, List.reverse_cons,
      hread.history_eq]
    simp [sessionStates]
  · refine (requestsOf_cons_of_ne (show DfuRequest.getStatus ≠ _ by decide) _ _).trans ?_
    exact (requestsOf_cons_of_ne (show DfuRequest.detach ≠ _ by decide) _ _).trans
      hread.downloads_eq

/-- An octet that comes back wrong is found before the firmware is started. -/
theorem refuses_of_shown {offset : Nat}
    (hshown : firstDifference task.image (shown task.image corrupt) = some offset) (idle : Nat) :
    Refuses offset ((task.reattached corrupt interfaces).run loaderHost loaderListener idle) := by
  obtain ⟨budget, m, hrun, hstate, hstatus, hread⟩ :=
    run_reattached corrupt hrunning hunstarted hpos hsize hfound idle
  have hcount : blockCount task.image = (task.image.length + 255) / 256 := rfl
  have hlength := length_shown task.image corrupt
  have hposition := hread.position_eq
  have hreadback : m.readback.getD [] = shown task.image corrupt := by
    rw [hread.readback_eq, List.take_of_length_le (by omega)]
  rw [hrun, runWithin_mismatch idle (budget + 2) hstate hstatus (by omega)
    ((congrArg (firstDifference task.image) hreadback).trans hshown)]
  exact ⟨rfl, rfl, hread.detach_eq, by simp [failed]⟩

end

theorem shown_of_outside {image : Bytes} {corrupt : Option Nat}
    (h : ∀ offset ∈ corrupt, image.length ≤ offset) : shown image corrupt = image := by
  cases corrupt with
  | none => rfl
  | some offset => exact List.modify_eq_self (h offset rfl)

/-- **End to end.** For every image that is taken, a run of the task at a host to which a fresh
    loader is attached delivers the image; if an octet of the image comes back inverted, it refuses
    at this octet. -/
theorem run_freshLoader (corrupt : Option Nat) (image : Bytes) (idle : Nat)
    (hpos : 0 < image.length) (hsize : image.length ≤ maxImageSize) :
    ∃ task attached enumerated, new (freshWorld corrupt) image = .ok task ∧
      task.post (.attach Interface.download) = (.ok (), attached) ∧
      attached.post .enumerationDone = (.ok (), enumerated) ∧
      ((∀ offset ∈ corrupt, image.length ≤ offset) →
        Delivers image [] 1 (enumerated.run loaderHost loaderListener idle)) ∧
      ∀ offset ∈ corrupt, offset < image.length →
        Refuses offset (enumerated.run loaderHost loaderListener idle) := by
  let task : DownloadTask LoaderWorld := { world := freshWorld corrupt, image }
  have hrunning : Running task := by simp [Running, task]
  have hunstarted : Unstarted task := ⟨rfl, rfl, rfl⟩
  refine ⟨task, _, task.reattached corrupt Interface.download,
    (new_eq_ok_iff _ image task).mpr ⟨⟨hpos, hsize⟩, rfl⟩, rfl, rfl, fun houtside => ?_,
    fun offset hcorrupt hinside => ?_⟩
  · exact delivers_of_shown corrupt hrunning hunstarted hpos hsize rfl (shown_of_outside houtside)
      idle
  · obtain rfl := Option.mem_def.mp hcorrupt
    have hshown : firstDifference task.image (shown task.image (some offset)) = some offset :=
      firstDifference_modify hinside
    exact refuses_of_shown (some offset) hrunning hunstarted hpos hsize rfl hshown idle

/-- Three octets are delivered, and refused if the second one comes back inverted. -/
theorem run_freshLoader_octets :
    let task : DownloadTask LoaderWorld := { world := freshWorld none, image := [1, 2, 3] }
    Delivers [1, 2, 3] [] 1
        ((task.reattached none Interface.download).run loaderHost loaderListener 1000) ∧
      Refuses 1
        ((task.reattached (some 1) Interface.download).run loaderHost loaderListener 1000) := by
  obtain ⟨task, attached, enumerated, hnew, hattach, henumerate, hdelivers, -⟩ :=
    run_freshLoader none [1, 2, 3] 1000 (by decide) (by decide)
  obtain ⟨task', attached', enumerated', hnew', hattach', henumerate', -, hrefuses⟩ :=
    run_freshLoader (some 1) [1, 2, 3] 1000 (by decide) (by decide)
  obtain ⟨-, rfl⟩ := (new_eq_ok_iff ..).mp hnew
  obtain ⟨-, rfl⟩ := (new_eq_ok_iff ..).mp hnew'
  cases hattach
  cases hattach'
  cases henumerate
  cases henumerate'
  exact ⟨hdelivers (by simp), hrefuses 1 rfl (by decide)⟩

end TensorLink.DownloadTask
