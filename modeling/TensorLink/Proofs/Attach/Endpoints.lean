import TensorLink.Proofs.Attach.Custody
import TensorLink.Proofs.Attach.Ending

/-!
# Whether the pipes carry traffic

Streaming takes three endpoints: the one that every payload is sent to, its twin that returns the
outputs, and that of the events. They are part of the six endpoints of an accelerator: three that
the host sends bulk data to, two that send bulk data, and one that interrupts.

Opening the pipes counts the endpoints that a device reports, and looks neither at their kinds nor
at their numbers. So the pipes of any six endpoints open, and pass the check before `connected`.

Results:
* `opens_of_open`: what the pipes are that have been opened.
* `Opens.status_eq`, `Opens.usable_iff`: they pass the check, and are usable exactly if the
  endpoints are complete.
* `equipped_receive`: the pipes of a task are those of the class driver that was opened last.
* `usable_iff_complete`: when pipes are usable, and a connected task can stream.
-/

namespace TensorLink

/-! ## Specification -/

/-- The kinds of the endpoints of an accelerator. -/
structure FitKinds (kinds : List EndpointKind) : Prop where
  outputs : kinds.count .bulkOut = 3
  inputs : kinds.count .bulkIn = 2
  interrupts : kinds.count .interruptIn = 1

namespace Endpoint

/-- Some endpoint is of a kind and has a number. -/
def Has (endpoints : List Endpoint) (kind : EndpointKind) (number : UInt8) : Prop :=
  ∃ endpoint ∈ endpoints, endpoint.kind = kind ∧ endpoint.number = number

/-- The endpoints are of the kinds of those of an accelerator, and streaming finds its three among
    them. -/
structure Complete (endpoints : List Endpoint) : Prop where
  kinds : FitKinds (endpoints.map kind)
  sends : Has endpoints .bulkOut streaming
  returns : Has endpoints .bulkIn streaming
  tells : Has endpoints .bulkIn events

end Endpoint

namespace PipeSet

/-- The pipe that traffic of a kind takes for an endpoint number is there and connected. -/
def Carries (set : PipeSet) (kind : EndpointKind) (number : UInt8) : Prop :=
  ∃ pipe, set.find? kind number = some pipe ∧ pipe.connected = true

/-- The pipes are those of an accelerator, and the three of streaming are connected. -/
structure Usable (set : PipeSet) : Prop where
  kinds : FitKinds (set.pipes.map (·.endpoint.kind))
  sends : set.Carries .bulkOut Endpoint.streaming
  returns : set.Carries .bulkIn Endpoint.streaming
  tells : set.Carries .bulkIn Endpoint.events

/-! ## Opening pipes -/

open Sequencing

variable {σ : Type}

/-- The pipes are those of the endpoints, and only interrupt pipes may not be connected. -/
structure Opens (endpoints : List Endpoint) (pipes : List Pipe) : Prop where
  endpoints_eq : pipes.map Pipe.endpoint = endpoints.map adjust
  connected : ∀ pipe ∈ pipes, pipe.endpoint.kind ≠ .interruptIn → pipe.connected = true

@[simp]
theorem kind_adjust (endpoint : Endpoint) : (adjust endpoint).kind = endpoint.kind := by
  unfold adjust
  split <;> simp [*]

@[simp]
theorem number_adjust (endpoint : Endpoint) : (adjust endpoint).number = endpoint.number := by
  unfold adjust
  split <;> rfl

theorem openPipe_eq_ok {opener : Endpoint → DeviceM σ Unit} {endpoint : Endpoint} {pipe : Pipe}
    {before after : σ} (h : openPipe opener endpoint before = .ok pipe after) :
    pipe.endpoint = adjust endpoint ∧ (endpoint.kind ≠ .interruptIn → pipe.connected = true) := by
  unfold openPipe at h
  split at h
  · cases h
    exact ⟨rfl, fun _ => rfl⟩
  · split at h
    · rename_i hkind
      cases h
      exact ⟨rfl, fun hother => absurd hkind hother⟩
    · cases h

/-- Pipes are opened one for each endpoint. -/
theorem opens_of_openAll {opener : Endpoint → DeviceM σ Unit} {endpoints : List Endpoint}
    {pipes : List Pipe} {before after : σ}
    (h : openAll opener endpoints before = .ok pipes after) : Opens endpoints pipes := by
  induction endpoints generalizing pipes before with
  | nil =>
    cases h
    exact ⟨rfl, fun _ hpipe => absurd hpipe List.not_mem_nil⟩
  | cons endpoint rest ih =>
    obtain ⟨pipe, mid, hpipe, h⟩ := bind_eq_ok_iff.mp h
    obtain ⟨pipes', _, hrest, h⟩ := bind_eq_ok_iff.mp h
    cases h
    obtain ⟨hendpoint, hconnected⟩ := openPipe_eq_ok hpipe
    have hopens := ih hrest
    refine ⟨?_, ?_⟩
    · rw [List.map_cons, List.map_cons, hendpoint, hopens.endpoints_eq]
    · intro other hother hkind
      rcases List.mem_cons.mp hother with rfl | hother
      · rw [hendpoint, kind_adjust] at hkind
        exact hconnected hkind
      · exact hopens.connected other hother hkind

/-- Six endpoints are all that is asked for. -/
theorem opens_of_open {opener : Endpoint → DeviceM σ Unit} {endpoints : List Endpoint}
    {set : PipeSet} {before after : σ}
    (h : PipeSet.open opener endpoints before = .ok set after) : Opens endpoints set.pipes := by
  unfold PipeSet.open at h
  split at h
  · cases h
  · obtain ⟨pipes, _, hpipes, h⟩ := bind_eq_ok_iff.mp h
    cases h
    exact opens_of_openAll hpipes

section Opens

variable {endpoints : List Endpoint} {set : PipeSet}

/-- Pipes that have been opened pass the check. -/
theorem Opens.status_eq (opens : Opens endpoints set.pipes) : set.status = .ok () := by
  have hnone : set.pipes.find? (fun pipe =>
      !pipe.connected && pipe.endpoint.kind != .interruptIn) = none := by
    refine List.find?_eq_none.mpr fun pipe hpipe => ?_
    by_cases hkind : pipe.endpoint.kind = .interruptIn
    · simp [hkind]
    · simp [opens.connected pipe hpipe hkind]
  unfold status
  rw [hnone]

/-- The kinds of the pipes are those of the endpoints. -/
theorem Opens.kinds_eq (opens : Opens endpoints set.pipes) :
    set.pipes.map (·.endpoint.kind) = endpoints.map Endpoint.kind := by
  calc set.pipes.map (·.endpoint.kind)
      = (set.pipes.map Pipe.endpoint).map Endpoint.kind := (List.map_map ..).symm
    _ = (endpoints.map adjust).map Endpoint.kind := by rw [opens.endpoints_eq]
    _ = endpoints.map Endpoint.kind := by simp [Function.comp_def]

/-- Bulk traffic for an endpoint number finds a connected pipe exactly if there is such an
    endpoint. -/
theorem Opens.carries_iff (opens : Opens endpoints set.pipes) {kind : EndpointKind}
    (hkind : kind ≠ .interruptIn) (number : UInt8) :
    set.Carries kind number ↔ Endpoint.Has endpoints kind number := by
  constructor
  · rintro ⟨pipe, hfind, -⟩
    have hfits := List.find?_some hfind
    have hmem : pipe.endpoint ∈ endpoints.map adjust := by
      rw [← opens.endpoints_eq]
      exact List.mem_map_of_mem (List.mem_of_find?_eq_some hfind)
    obtain ⟨endpoint, hendpoint, hadjust⟩ := List.mem_map.mp hmem
    refine ⟨endpoint, hendpoint, ?_⟩
    rw [← hadjust] at hfits
    simpa using hfits
  · rintro ⟨endpoint, hendpoint, hfits⟩
    have hmem : adjust endpoint ∈ set.pipes.map Pipe.endpoint := by
      rw [opens.endpoints_eq]
      exact List.mem_map_of_mem hendpoint
    obtain ⟨pipe, hpipe, hadjust⟩ := List.mem_map.mp hmem
    have hsome : (set.find? kind number).isSome := by
      unfold find?
      rw [List.find?_isSome]
      refine ⟨pipe, hpipe, ?_⟩
      rw [hadjust]
      simpa using hfits
    obtain ⟨found, hfind⟩ := Option.isSome_iff_exists.mp hsome
    have hfound : found.endpoint.kind = kind := by
      have hpredicate := List.find?_some hfind
      simp at hpredicate
      exact hpredicate.1
    exact ⟨found, hfind,
      opens.connected found (List.mem_of_find?_eq_some hfind) (hfound.trans_ne hkind)⟩

/-- The pipes are usable exactly if the endpoints are complete. -/
theorem Opens.usable_iff (opens : Opens endpoints set.pipes) :
    set.Usable ↔ Endpoint.Complete endpoints := by
  have hsends := opens.carries_iff (show EndpointKind.bulkOut ≠ .interruptIn by simp)
  have hreturns := opens.carries_iff (show EndpointKind.bulkIn ≠ .interruptIn by simp)
  constructor
  · intro h
    refine ⟨?_, (hsends _).mp h.sends, (hreturns _).mp h.returns, (hreturns _).mp h.tells⟩
    rw [← opens.kinds_eq]
    exact h.kinds
  · intro h
    refine ⟨?_, (hsends _).mpr h.sends, (hreturns _).mpr h.returns, (hreturns _).mpr h.tells⟩
    rw [opens.kinds_eq]
    exact h.kinds

end Opens

end PipeSet

namespace AttachTask

open Sequencing

variable {σ : Type}

/-! ## The pipes of a task -/

/-- The class driver that was opened last, by its interface. -/
def lastOpened? (task : Observed σ) : Option Interface :=
  (openings (dealings task.world.calls)).getLast?

/-- The pipes of a task are those of the class driver that was opened last, and a connected task has
    pipes. -/
structure Equipped (task : Observed σ) : Prop where
  pipes : ∀ set, task.pipes = some set →
    ∃ interface, lastOpened? task = some interface ∧
      PipeSet.Opens interface.endpoints set.pipes
  connected : task.state = .connected → ∃ set, task.pipes = some set

theorem Equipped.of_none {task : Observed σ} (hpipes : task.pipes = none)
    (hstate : task.state ≠ .connected) : Equipped task :=
  ⟨fun set hset => (by rw [hpipes] at hset; cases hset), fun h => absurd h hstate⟩

/-- A task that keeps its pipes, and opens no class driver, stays equipped. -/
theorem Equipped.of_eq {task after : Observed σ} (h : Equipped task)
    (hpipes : after.pipes = task.pipes) (hopened : lastOpened? after = lastOpened? task)
    (hstate : after.state = .connected → ∃ set, task.pipes = some set) : Equipped after := by
  constructor
  · intro set hset
    rw [hopened]
    exact h.pipes set (hpipes.symm.trans hset)
  · intro hconnected
    rw [hpipes]
    exact hstate hconnected

section

variable (host : Host AttachState σ) (listener : Listener σ)

theorem pipes_close (task : Observed σ) : (task.close host.recorded).pipes = none := by
  unfold close
  split <;> rfl

theorem equipped_enterError (task : Observed σ) :
    Equipped (task.enterError host.recorded listener.recorded) := by
  refine .of_none (pipes_close host (task.goto .error)) ?_
  have hstate := (turned_enterError host listener task).outline_eq
  rw [show (task.enterError host.recorded listener.recorded).state = .error from
    congrArg Outline.state hstate]
  simp

theorem equipped_enterUnattached (task : Observed σ) :
    Equipped (task.enterUnattached host.recorded listener.recorded) := by
  refine .of_none (pipes_close host (task.goto .unattached)) ?_
  have hstate := (turned_enterUnattached host listener task).outline_eq
  rw [show (task.enterUnattached host.recorded listener.recorded).state = .unattached from
    congrArg Outline.state hstate]
  simp

/-- Selecting the interface leaves the pipes as they are. -/
theorem pipes_selectInterface : Keeps pipes (selectInterface host listener) := by
  intro task
  have hdeliver : ∀ (result : Except DriverError Unit) (task : AttachTask σ),
      (task.deliver .setInterface result).pipes = task.pipes := fun result task => by
    unfold deliver
    split <;> rfl
  unfold selectInterface
  split
  · rename_i interface handle _ _
    cases hmade : (host.transport handle).control .setInterface
      (.setInterface interface.number.toUInt16 0) [] task.world with
    | mk submission world =>
      cases submission with
      | refused error => simp only [hmade, left]
      | pending => simp only [hmade, left]; rfl
      | completed result =>
        simp only [hmade, left]
        exact hdeliver _ { task with world }
  · rfl

theorem lastOpened?_of_nil {task after : Observed σ} {calls : List (HostCall AttachState)}
    (hcalls : after.world.calls = task.world.calls ++ calls) (hnone : dealings calls = []) :
    lastOpened? after = lastOpened? task := by
  unfold lastOpened?
  rw [hcalls, dealings_append, hnone, List.append_nil]

/-- A device with open pipes stays equipped while its interface is selected. -/
theorem equipped_enterSetInterface {task : Observed σ} {interface : Interface}
    {handle : ClassHandle} (h : Equipped task) (hinterface : task.interface = some interface)
    (hhandle : task.handle = some handle) :
    Equipped (task.enterSetInterface host.recorded listener.recorded) := by
  have hpipes := pipes_selectInterface host.recorded listener.recorded (task.goto .setInterface)
  have hselection : Selection (task.goto .setInterface) interface handle
      (selectInterface host.recorded listener.recorded (task.goto .setInterface)) :=
    selection_selectInterface host listener hinterface hhandle
  unfold enterSetInterface attempt
  cases hselect : selectInterface host.recorded listener.recorded (task.goto .setInterface) with
  | error error after => exact equipped_enterError host listener after
  | ok _ after =>
    rw [hselect] at hpipes hselection
    obtain ⟨-, turned⟩ | ⟨⟩ := hselection
    have hopened : lastOpened? after = lastOpened? (task.goto .setInterface) :=
      lastOpened?_of_nil turned.calls_eq rfl
    have hselected : after.state = .setInterface := congrArg Outline.state turned.outline_eq
    show Equipped after
    refine h.of_eq hpipes hopened fun hstate => ?_
    rw [hselected] at hstate
    cases hstate

/-- A class driver whose pipes have been opened is the one that was opened last. -/
theorem lastOpened?_of_openClass {task mid : Observed σ} {interface : Interface}
    {handle : ClassHandle} {pipes : List (HostCall AttachState)}
    (hpipes : ∀ call ∈ pipes, PipeOf handle call)
    (hcalls : mid.world.calls = task.world.calls ++ .openClass interface (.ok handle) :: pipes) :
    lastOpened? mid = some interface := by
  have hdealings : dealings (.openClass interface (.ok handle) :: pipes) = [.opened interface] :=
    congrArg (Dealing.opened interface :: ·) (dealings_of_pipes hpipes)
  unfold lastOpened?
  rw [hcalls, dealings_append, hdealings, openings_append, openings_opened, openings_nil,
    List.getLast?_concat]

/-- Opening a device leaves the task equipped with the pipes of this device. -/
theorem equipped_enterAttached {task : Observed σ} {interface : Interface}
    (hinterface : task.interface = some interface) :
    Equipped (task.enterAttached host.recorded listener.recorded) := by
  unfold enterAttached attempt
  rw [openDevice_eq host.recorded
    (show (task.goto .attached).interface = some interface from hinterface)]
  cases hclass : host.recorded.openClass interface (task.goto .attached).world with
  | error error world => exact equipped_enterError host listener _
  | ok handle world =>
    obtain ⟨calls, hcalls, hmade⟩ := calls_of_openClass host hclass
    dsimp only
    cases hopen : PipeSet.open (host.recorded.transport handle).openPipe interface.endpoints
        world with
    | error error final => exact equipped_enterError host listener _
    | ok set final =>
      rw [hopen] at hmade
      refine equipped_enterSetInterface host listener ⟨fun set' hset' => ?_, ?_⟩ hinterface rfl
      · cases hset'
        exact ⟨interface, lastOpened?_of_openClass hcalls hmade, PipeSet.opens_of_open hopen⟩
      · exact fun _ => ⟨set, rfl⟩

/-- Checking the pipes leads to `connected` only if there are pipes. -/
theorem equipped_enterGetStatus {task : Observed σ} (h : Equipped task) :
    Equipped (task.enterGetStatus host.recorded listener.recorded) := by
  have hkept := keeps_checkPipes (task.goto .getStatus)
  unfold enterGetStatus attempt
  cases hcheck : checkPipes (task.goto .getStatus) with
  | error error after => exact equipped_enterError host listener after
  | ok _ after =>
    rw [hcheck] at hkept
    obtain rfl : after = task.goto .getStatus := hkept
    refine h.of_eq rfl rfl fun _ => ?_
    unfold checkPipes at hcheck
    rw [get_bind] at hcheck
    cases hpipes : task.pipes with
    | none =>
      rw [show (task.goto .getStatus).pipes = none from hpipes] at hcheck
      cases hcheck
    | some set => exact ⟨set, rfl⟩

/-- **Step.** A message leaves a task equipped. -/
theorem equipped_receive (message : AttachMessage) {task : Observed σ} (h : Equipped task) :
    Equipped (task.receive host.recorded listener.recorded message) := by
  cases message with
  | host event =>
    cases event with
    | attach interfaces => exact h.of_eq rfl rfl h.connected
    | enumerationDone =>
      show Equipped (if task.interface.isSome then _ else _)
      cases hinterface : task.interface with
      | none => exact h.of_eq rfl rfl fun hstate => by cases hstate
      | some interface => exact equipped_enterAttached host listener hinterface
    | detach => exact equipped_enterUnattached host listener task
    | transferFailed reason => exact equipped_enterError host listener task
  | completed request result =>
    show Equipped (if request ≠ task.state then _ else _)
    split
    · exact h
    · cases result with
      | error error => exact equipped_enterError host listener task
      | ok _ =>
        dsimp only
        split
        · exact equipped_enterGetStatus host listener h
        · exact h

theorem equipped_occur {task : Observed σ} (h : Equipped task) (occurrence : Occurrence σ) :
    Equipped (occur host task occurrence) := by
  cases occurrence with
  | post event =>
    show Equipped (task.post event).2
    unfold post
    split
    · exact h
    · exact h.of_eq rfl rfl h.connected
  | complete request result =>
    show Equipped (task.deliver request result)
    unfold deliver
    split
    · exact h
    · exact h.of_eq rfl rfl h.connected
  | outside inner => exact h.of_eq rfl rfl h.connected
  | handle listener =>
    show Equipped (task.step host.recorded listener.recorded)
    by_cases hstate : task.state = .error
    · rw [step_error host.recorded listener.recorded hstate]
      exact h
    · cases hinbox : task.inbox with
      | nil =>
        unfold step
        rw [if_neg hstate, hinbox]
        exact h
      | cons message rest =>
        rw [step_of_inbox host.recorded listener.recorded hstate hinbox]
        exact equipped_receive host listener message (h.of_eq rfl rfl h.connected)

/-- **Run.** Whatever happens to a task, it stays equipped. -/
theorem equipped_chronicle (world : σ) (occurrences : List (Occurrence σ)) :
    Equipped (chronicle host { world := { inner := world } } occurrences) := by
  have hstart : Equipped ({ world := { inner := world } } : Observed σ) :=
    .of_none rfl (by simp)
  exact List.foldlRecOn occurrences (occur host) hstart fun _ h occurrence _ =>
    equipped_occur host h occurrence

end

end AttachTask

/-! ## Main theorem -/

/-- **Usable pipes.** Whatever endpoints are reported and however their pipes open: pipes that have
    been opened pass the check, and are those of an accelerator, with the three that streaming takes
    connected, exactly if the endpoints are. The same holds of the pipes of a connected task, which
    are those of the interface that was opened last, whatever has happened to the task. -/
theorem usable_iff_complete {σ τ : Type} (opener : Endpoint → DeviceM σ Unit)
    (endpoints : List Endpoint) (before : σ) (host : Host AttachState τ) (world : τ)
    (occurrences : List (AttachTask.Occurrence τ)) :
    (∀ (set : PipeSet) (after : σ), PipeSet.open opener endpoints before = .ok set after →
        set.status = .ok () ∧ (set.Usable ↔ Endpoint.Complete endpoints)) ∧
      let task := AttachTask.chronicle host { world := { inner := world } } occurrences
      task.state = .connected →
        ∃ interface set, AttachTask.lastOpened? task = some interface ∧ task.pipes = some set ∧
          set.status = .ok () ∧ (set.Usable ↔ Endpoint.Complete interface.endpoints) := by
  constructor
  · intro set after hopen
    have hopens := PipeSet.opens_of_open hopen
    exact ⟨hopens.status_eq, hopens.usable_iff⟩
  · intro task hstate
    have hequipped := AttachTask.equipped_chronicle host world occurrences
    obtain ⟨set, hset⟩ := hequipped.connected hstate
    obtain ⟨interface, hopened, hopens⟩ := hequipped.pipes set hset
    exact ⟨interface, set, hopened, hset, hopens.status_eq, hopens.usable_iff⟩

/-- A device with the given interfaces is attached and enumerated, and selects its interface. -/
def pluggedIn (interfaces : List Interface) : List (AttachTask.Occurrence Unit) :=
  let handle := AttachTask.Occurrence.handle (Listener.silent Unit)
  [.post (.attach interfaces), .post .enumerationDone, handle, handle,
    .complete .setInterface (.ok ()), handle]

/-- The endpoints of an accelerator. -/
theorem complete_application : Endpoint.Complete Endpoint.application where
  kinds := ⟨rfl, rfl, rfl⟩
  sends := ⟨⟨Endpoint.outputAddress 1, .bulkOut, Endpoint.outputPacket⟩, by decide, rfl, rfl⟩
  returns := ⟨⟨Endpoint.inputAddress 1, .bulkIn, Endpoint.inputPacket⟩, by decide, rfl, rfl⟩
  tells := ⟨⟨Endpoint.inputAddress 2, .bulkIn, Endpoint.inputPacket⟩, by decide, rfl, rfl⟩

/-- The pipes of an accelerator are usable, also if its interrupt pipe does not open, and a task
    that it is plugged in to can stream. -/
theorem usable_application :
    let opener (endpoint : Endpoint) : DeviceM Unit Unit :=
      if endpoint.kind = .interruptIn then throw .notConnected else pure ()
    let task := AttachTask.chronicle AttachTask.patientHost { world := { inner := () } }
      (pluggedIn Interface.application)
    (∃ set, PipeSet.open opener Endpoint.application () = .ok set () ∧ set.status = .ok () ∧
        set.Usable) ∧
      task.state = .connected ∧
      ∃ set, task.pipes = some set ∧ set.status = .ok () ∧ set.Usable := by
  intro opener task
  obtain ⟨hopen, hconnected⟩ := usable_iff_complete opener Endpoint.application ()
    AttachTask.patientHost () (pluggedIn Interface.application)
  constructor
  · obtain ⟨hstatus, husable⟩ := hopen _ () (by rfl)
    exact ⟨_, rfl, hstatus, husable.mpr complete_application⟩
  · have hstate : task.state = .connected := by decide
    obtain ⟨interface, set, hopened, hset, hstatus, husable⟩ := hconnected hstate
    have hlast : AttachTask.lastOpened? task =
        some ⟨0x18D1, 0x9302, 0, 0xFF, 0xFF, Endpoint.application⟩ := by decide
    rw [hlast] at hopened
    obtain rfl := Option.some.inj hopened
    exact ⟨hstate, set, hset, hstatus, husable.mpr complete_application⟩

/-- Six endpoints of a device that interrupts twice, and sends no events as bulk data. -/
def eventless : List Endpoint :=
  [⟨Endpoint.outputAddress 1, .bulkOut, Endpoint.outputPacket⟩,
    ⟨Endpoint.outputAddress 2, .bulkOut, Endpoint.outputPacket⟩,
    ⟨Endpoint.outputAddress 3, .bulkOut, Endpoint.outputPacket⟩,
    ⟨Endpoint.inputAddress 1, .bulkIn, Endpoint.inputPacket⟩,
    ⟨Endpoint.inputAddress 2, .interruptIn, 64⟩, ⟨Endpoint.inputAddress 3, .interruptIn, 64⟩]

/-- The pipes of such a device open and pass the check without a pipe for events, and a task that it
    is plugged in to is connected. -/
theorem not_usable_of_eventless :
    (¬∀ (opener : Endpoint → DeviceM Unit Unit) (endpoints : List Endpoint) (set : PipeSet),
      PipeSet.open opener endpoints () = .ok set () → set.status = .ok () → set.Usable) ∧
    ¬∀ (host : Host AttachState Unit) (occurrences : List (AttachTask.Occurrence Unit)),
      let task := AttachTask.chronicle host { world := { inner := () } } occurrences
      task.state = .connected → ∃ set, task.pipes = some set ∧ set.Usable := by
  constructor
  · intro h
    have husable := h (fun _ => pure ()) eventless _ (by rfl) (by rfl)
    exact absurd husable.kinds.inputs (by decide)
  · intro h
    obtain ⟨set, hset, husable⟩ := h AttachTask.patientHost
      (pluggedIn [⟨0x18D1, 0x9302, 0, 0xFF, 0xFF, eventless⟩]) (by decide)
    obtain rfl := Option.some.inj hset
    exact absurd husable.kinds.inputs (by decide)

end TensorLink
