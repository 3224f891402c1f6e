import TensorLink.Proofs.Accelerator.Registered
import TensorLink.Proofs.Accelerator.Reopening

/-!
# Parameters within one session

While a context is open, a package that caches parameters may be run without loading them again, as
long as they are still on the chip: they have been loaded on this context, and since then no slots
have been emptied, no parameters have been loaded under another token, and no package without
parameters of its own has been run. The token in use tells all this, with one gap. Running a package
without parameters is noted by taking back the token, that is by setting it to 0; to a package whose
own token is 0 nothing has happened then.

Results:
* `kept_of_ran`, `kept_of_effect`: what the token in use tells stays true in a run of a package, and
  in every action.
* `known_after`: so it does in every course of actions.
* `before_inferred`: a package that caches parameters is run right after these have been loaded, or
  while it is resident under the token in use.
* `fresh_iff_noticed`: a package that caches parameters is run with its parameters on the chip,
  exactly if they were not carried over from an earlier context, and no package without parameters
  has come after a load under the token 0.
-/

namespace TensorLink

namespace Residency

/-- Parameters are loaded beside others only under the token in use. -/
theorem token_of_plan {residency room : Residency} {id : PackageId} {token : UInt64} {slot : Slot}
    (hplan : residency.plan id token = some (slot, room)) :
    room = residency ∧ token = residency.token ∨ room = residency.evict := by
  rcases plan_cases hplan with ⟨-, hroom⟩ | ⟨htoken, -, hroom, -⟩
  · exact .inr hroom
  · exact .inl ⟨hroom, htoken⟩

@[simp]
theorem token_load (room : Residency) (slot : Slot) (id : PackageId) (token : UInt64) :
    (room.load slot id token).token = token := by
  cases slot <;> rfl

end Residency

namespace Accelerator

/-! ## What has happened since a load -/

/-- The parameters of a package were last loaded on a context under a token, and what has happened
    since. -/
structure LastLoad (past : List Event) (number : Nat) (id : PackageId) (token : UInt64)
    (since : List Event) : Prop where
  split : ∃ earlier, past = earlier ++ ⟨number, .loaded id token⟩ :: since
  last : ∀ other, ⟨number, .loaded id other⟩ ∉ since

/-- Nothing has happened on a context that costs parameters their place on the chip. -/
structure Undisturbed (number : Nat) (token : UInt64) (since : List Event) : Prop where
  evicted : ⟨number, .evicted⟩ ∉ since
  loading : ∀ id other, ⟨number, .loading id other⟩ ∈ since → other = token
  plain : ∀ id, ⟨number, .inferred id false⟩ ∉ since

/-- The parameters of a package have been loaded on a context and have kept their place since. -/
def Fresh (past : List Event) (number : Nat) (id : PackageId) : Prop :=
  ∃ token since, LastLoad past number id token since ∧ Undisturbed number token since

/-- The parameters of a package were last loaded under the token 0, and a package without parameters
    has been run since. -/
def Overlooked (past : List Event) (number : Nat) (id : PackageId) : Prop :=
  ∃ since, LastLoad past number id 0 since ∧ ∃ other, ⟨number, .inferred other false⟩ ∈ since

section LastLoad

variable {past since since' : List Event} {number : Nat} {id : PackageId} {token token' : UInt64}

theorem LastLoad.loaded (h : LastLoad past number id token since) : Loaded past number id := by
  obtain ⟨earlier, rfl⟩ := h.split
  exact ⟨token, List.mem_append_right _ List.mem_cons_self⟩

/-- Among what has happened since the last load of a package there is no other load of it. -/
theorem eq_of_last {between : List Event} (hlast : ∀ other, ⟨number, .loaded id other⟩ ∉ since)
    (h : ⟨number, .loaded id token⟩ :: since = between ++ ⟨number, .loaded id token'⟩ :: since') :
    token = token' ∧ since = since' := by
  obtain ⟨-, h⟩ | ⟨between, -, rfl⟩ := List.cons_eq_append_iff.mp h
  · simpa using h.symm
  · exact absurd (List.mem_append_right _ List.mem_cons_self) (hlast token')

/-- There is only one last load. -/
theorem LastLoad.unique (h : LastLoad past number id token since)
    (h' : LastLoad past number id token' since') : token = token' ∧ since = since' := by
  obtain ⟨earlier, rfl⟩ := h.split
  obtain ⟨earlier', hsplit⟩ := h'.split
  obtain ⟨between, -, hbetween⟩ | ⟨between, -, hbetween⟩ := List.append_eq_append_iff.mp hsplit
  · exact eq_of_last h.last hbetween
  · obtain ⟨htoken, hsince⟩ := eq_of_last h'.last hbetween
    exact ⟨htoken.symm, hsince.symm⟩

theorem LastLoad.append (h : LastLoad past number id token since) {happenings : List Happening}
    (hnew : ∀ other, .loaded id other ∉ happenings) :
    LastLoad (past ++ happenings.map (⟨number, ·⟩)) number id token
      (since ++ happenings.map (⟨number, ·⟩)) := by
  obtain ⟨earlier, rfl⟩ := h.split
  refine ⟨⟨earlier, by simp⟩, fun other hother => ?_⟩
  obtain hsince | hadded := List.mem_append.mp hother
  · exact h.last other hsince
  · obtain ⟨_, hmem, heq⟩ := List.mem_map.mp hadded
    cases heq
    exact hnew other hmem

end LastLoad

/-! ## What the token in use says -/

/-- How the token in use tells what has happened since a load. -/
structure Tells (current : UInt64) (number : Nat) (token : UInt64) (since : List Event) : Prop where
  evicted : ⟨number, .evicted⟩ ∉ since
  /-- The token of the load is in use still, or it has been taken back. -/
  inUse : current = token ∨ current = 0
  loading : current = token → ∀ id other, ⟨number, .loading id other⟩ ∈ since → other = token
  /-- Taking back the token changes nothing if it was 0 before. -/
  plain : current = token → ∀ id, ⟨number, .inferred id false⟩ ∈ since → token = 0

/-- Every package in a slot that has been loaded on a context has been loaded there last before
    something that the token in use tells. -/
def Kept (past : List Event) (number : Nat) (residency : Residency) : Prop :=
  ∀ id, residency.contains id = true → Loaded past number id →
    ∃ token since, LastLoad past number id token since ∧ Tells residency.token number token since

section Tells

variable {current token : UInt64} {number : Nat} {since : List Event}

/-- Loads under the token in use, and runs of packages with parameters, leave it as telling as it
    was. -/
theorem Tells.append (tells : Tells current number token since) {happenings : List Happening}
    (hevicted : .evicted ∉ happenings)
    (hloading : ∀ id other, .loading id other ∈ happenings → other = current)
    (hplain : ∀ id, .inferred id false ∉ happenings) :
    Tells current number token (since ++ happenings.map (⟨number, ·⟩)) := by
  have hnew (happening : Happening) :
      ⟨number, happening⟩ ∈ since ++ happenings.map (⟨number, ·⟩) ↔
        ⟨number, happening⟩ ∈ since ∨ happening ∈ happenings := by
    simp
  refine ⟨fun h => ?_, tells.inUse, fun htoken id other h => ?_, fun htoken id h => ?_⟩
  · exact ((hnew _).mp h).elim tells.evicted hevicted
  · obtain hsince | hadded := (hnew _).mp h
    · exact tells.loading htoken id other hsince
    · rw [hloading id other hadded, htoken]
  · obtain hsince | hadded := (hnew _).mp h
    · exact tells.plain htoken id hsince
    · exact absurd hadded (hplain id)

/-- Taking back the token tells that a package without parameters has been run, unless the load was
    under the token 0. -/
theorem Tells.takeBack (tells : Tells current number token since) (id : PackageId) :
    Tells 0 number token (since ++ [Happening.inferred id false].map (⟨number, ·⟩)) := by
  have hcurrent (htoken : 0 = token) : current = token :=
    tells.inUse.elim (fun h => h) (fun h => h.trans htoken)
  refine ⟨fun h => ?_, .inr rfl, fun htoken other token' h => ?_, fun htoken _ _ => htoken.symm⟩
  · exact tells.evicted (by simpa using h)
  · exact tells.loading (hcurrent htoken) other token' (by simpa using h)

end Tells

section Ran

variable {past : List Event} {number : Nat} {registry : Registry} {id : PackageId}
  {happenings : List Happening} {residency : Residency}

theorem evictions_self (residency : Residency) : Registry.evictions residency residency = [] :=
  if_pos rfl

/-- Happenings that leave the slots of a package alone leave what is known of it. -/
theorem Kept.append (kept : Kept past number residency)
    (hevicted : .evicted ∉ happenings)
    (hloading : ∀ id other, .loading id other ∈ happenings → other = residency.token)
    (hplain : ∀ id, .inferred id false ∉ happenings) (hcontains : residency.contains id = true)
    (hloaded : ∀ other, Happening.loaded id other ∉ happenings)
    (h : Loaded (past ++ happenings.map (⟨number, ·⟩)) number id) :
    ∃ token since, LastLoad (past ++ happenings.map (⟨number, ·⟩)) number id token since ∧
      Tells residency.token number token since := by
  rw [loaded_append] at h
  obtain ⟨token, since, hlast, htells⟩ :=
    kept id hcontains (h.resolve_right fun ⟨token, hmem⟩ => hloaded token hmem)
  exact ⟨token, _, hlast.append hloaded, htells.append hevicted hloading hplain⟩

/-- The parameters that have just been loaded. -/
theorem kept_loaded (before : List Happening) (id : PackageId) (token : UInt64) :
    ∃ since, LastLoad
        (past ++ (before ++ [Happening.loaded id token, .inferred id true]).map (⟨number, ·⟩))
        number id token since ∧ Tells token number token since := by
  refine ⟨[⟨number, .inferred id true⟩], ⟨⟨past ++ before.map (⟨number, ·⟩), by simp⟩, ?_⟩, ?_⟩
  · simp
  · exact ⟨by simp, .inl rfl, by simp, by simp⟩

/-- **Run of a package.** What the token in use says stays true. -/
theorem kept_of_ran (kept : Kept past number registry.residency)
    (run : registry.Ran id happenings residency) :
    Kept (past ++ happenings.map (⟨number, ·⟩)) number residency := by
  intro other hcontains hloaded
  cases run with
  | unknown hpackage => exact kept.append (by simp) (by simp) (by simp) hcontains (by simp) hloaded
  | plain hpackage hcaching =>
    rw [loaded_append] at hloaded
    obtain ⟨token, since, hlast, htells⟩ := kept other hcontains (hloaded.resolve_right (by simp))
    exact ⟨token, _, hlast.append (by simp), htells.takeBack id⟩
  | resident hpackage hcaching hplan =>
    exact kept.append (by simp) (by simp) (by simp) hcontains (by simp) hloaded
  | refused hpackage hcaching hplan =>
    obtain ⟨rfl, htoken⟩ | rfl := Residency.token_of_plan hplan
    · rw [evictions_self, List.nil_append] at hloaded ⊢
      exact kept.append (by simp) (by simp [htoken]) (by simp) hcontains (by simp) hloaded
    · rw [Residency.contains_evict] at hcontains
      cases hcontains
  | @loaded package caching slot room hpackage hcaching hplan =>
    rw [Residency.token_load]
    by_cases hid : other = id
    · subst hid
      rw [List.append_cons]
      exact ⟨_, kept_loaded ..⟩
    · -- A package that was in a slot before: the slots have not been emptied to make room.
      have hfree := (Residency.plan_eq_some hplan).2
      have hroom := ((Residency.contains_load_iff id _ other hfree).mp hcontains).resolve_left
        (Ne.symm hid)
      obtain ⟨rfl, htoken⟩ | rfl := Residency.token_of_plan hplan
      · rw [evictions_self, List.nil_append] at hloaded ⊢
        rw [htoken]
        exact kept.append (by simp) (by simp) (by simp) hroom (by simp [hid]) (htoken ▸ hloaded)
      · rw [Residency.contains_evict] at hroom
        cases hroom

end Ran

/-- **Action.** What the token in use says stays true on the context in use. -/
theorem kept_of_effect {past events : List Event} {before after : Standing}
    (consistent : Consistent past before)
    (kept : ∀ number, before.device = some number → Kept past number before.residency)
    (effect : Effect before events after) :
    ∀ number, after.device = some number → Kept (past ++ events) number after.residency := by
  intro number hdevice
  cases effect with
  | unseen => simpa using kept number hdevice
  | closed device contexts residency => cases hdevice
  | opened count residency =>
    -- Nothing has been loaded yet on a context that has just been opened.
    obtain rfl : count = number := Option.some.inj hdevice
    intro id _ hloaded
    obtain ⟨token, hmem⟩ := hloaded
    have hpast : ⟨count, .loaded id token⟩ ∈ past := by simpa using hmem
    exact absurd (consistent.earlier _ hpast) (Nat.lt_irrefl count)
  | ran current count run =>
    obtain rfl : current = number := Option.some.inj hdevice
    exact kept_of_ran (kept current rfl) run

/-! ## Runs of the whole accelerator -/

/-- What is known of the past of an accelerator. -/
structure Known {σ : Type} (past : List Event) (accelerator : Accelerator σ) : Prop where
  consistent : Consistent past accelerator.standing
  settled : Settled past accelerator.registry
  kept : ∀ number, accelerator.standing.device = some number →
    Kept past number accelerator.registry.residency

section

variable {registry : Registry} {id other : PackageId} {happenings earlier later : List Happening}
  {residency : Residency}

theorem eq_of_append_singleton {front : List Happening} {last : Happening}
    (hsplit : front ++ [last] = earlier ++ .inferred id true :: later)
    (hfront : .inferred id true ∉ front) : earlier = front ∧ last = .inferred id true := by
  obtain ⟨mid, rfl, hmid⟩ | ⟨mid, rfl, hmid⟩ := List.append_eq_append_iff.mp hsplit
  · obtain ⟨rfl, hlast⟩ | ⟨_, -, hnil⟩ := List.cons_eq_append_iff.mp hmid
    · rw [List.append_nil]
      exact ⟨rfl, (List.cons.inj hlast).1.symm⟩
    · simp at hnil
  · obtain ⟨rfl, hlast⟩ | ⟨_, rfl, -⟩ := List.cons_eq_append_iff.mp hmid
    · rw [List.append_nil]
      exact ⟨rfl, (List.cons.inj hlast).1⟩
    · exact absurd (List.mem_append_right _ List.mem_cons_self) hfront

/-- A package that caches parameters is run right after these have been loaded, or it was resident
    under the token in use. -/
theorem before_inferred (run : registry.Ran other happenings residency)
    (hsplit : happenings = earlier ++ .inferred id true :: later) :
    earlier = [] ∧ registry.token? id = some registry.residency.token ∧
        registry.residency.contains id = true ∨
      ∃ front token, earlier = front ++ [.loaded id token] := by
  cases run with
  | unknown => simp at hsplit
  | plain =>
    have hsplit : [] ++ [.inferred other false] = earlier ++ .inferred id true :: later := hsplit
    simpa using (eq_of_append_singleton hsplit (by simp)).2
  | resident hpackage hcaching hplan =>
    have hsplit : [] ++ [.inferred other true] = earlier ++ .inferred id true :: later := hsplit
    obtain ⟨rfl, hlast⟩ := eq_of_append_singleton hsplit (by simp)
    obtain rfl : other = id := by simpa using hlast
    obtain ⟨htoken, hcontains⟩ := (Residency.plan_eq_none_iff _ _ _).mp hplan
    refine .inl ⟨rfl, ?_, hcontains⟩
    rw [Registry.token?_of_caching hpackage hcaching, htoken]
  | refused =>
    have hquiet := inferred_notMem_evictions registry.residency residency id
    cases (eq_of_append_singleton hsplit hquiet).2
  | @loaded package caching slot room hpackage hcaching hplan =>
    have hquiet := inferred_notMem_evictions registry.residency room id
    have hsplit : (Registry.evictions registry.residency room ++
        [.loading other caching.executable.cachingToken,
          .loaded other caching.executable.cachingToken]) ++ [.inferred other true] =
        earlier ++ .inferred id true :: later := by
      rw [← hsplit, List.append_assoc]
      rfl
    obtain ⟨rfl, hlast⟩ := eq_of_append_singleton hsplit (by simp [hquiet])
    obtain rfl : other = id := by simpa using hlast
    exact .inr ⟨_, _, List.append_cons ..⟩

end

section

variable {σ : Type} (host : Host Waiter σ) (power : PowerSwitch σ)

/-- **Step.** What is known stays true when a user acts. -/
theorem known_perform {past : List Event} {accelerator : Accelerator σ}
    (known : Known past accelerator) (action : Action σ) :
    Known (past ++ accelerator.events host power action)
      (accelerator.perform host power action) := by
  have heffect := effect_perform host power accelerator action
  exact ⟨(consistent_of_effect known.consistent heffect).1,
    settled_perform host power known.settled action,
    kept_of_effect known.consistent known.kept heffect⟩

/-- **Run.** What is known stays true in every course of actions. -/
theorem known_after {past : List Event} {accelerator : Accelerator σ}
    (known : Known past accelerator) (actions : List (Action σ)) :
    Known (past ++ accelerator.history host power actions)
      (accelerator.after host power actions) := by
  induction actions generalizing past accelerator with
  | nil =>
    rw [history, List.append_nil]
    exact known
  | cons action actions ih =>
    rw [history, ← List.append_assoc]
    exact ih (known_perform host power known action)

theorem known_of_closed {start : Accelerator σ} (hdevice : start.device = none) :
    Known [] start := by
  have hstanding : start.standing.device = none := by rw [standing, hdevice, Option.map_none]
  exact ⟨consistent_nil hstanding, fun _ _ _ h => absurd h List.not_mem_nil,
    fun _ h => by simp [hstanding] at h⟩

/-- The parameters of a package that is resident under the token in use are on the chip, if they
    have been loaded on this context and nothing was overlooked. -/
theorem fresh_of_known {past : List Event} {accelerator : Accelerator σ} {number : Nat}
    {id : PackageId} (known : Known past accelerator)
    (hdevice : accelerator.standing.device = some number)
    (htoken : accelerator.registry.token? id = some accelerator.registry.residency.token)
    (hcontains : accelerator.registry.residency.contains id = true)
    (hloaded : Loaded past number id) (hnoticed : ¬Overlooked past number id) :
    Fresh past number id := by
  obtain ⟨token, since, hlast, htells⟩ := known.kept number hdevice id hcontains hloaded
  obtain ⟨earlier, hsplit⟩ := hlast.split
  have htoken' : accelerator.registry.token? id = some token :=
    known.settled number id token (by simp [hsplit])
  have hcurrent : accelerator.registry.residency.token = token :=
    Option.some.inj (htoken.symm.trans htoken')
  refine ⟨token, since, hlast, htells.evicted, htells.loading hcurrent, fun other hplain => ?_⟩
  have hzero : token = 0 := htells.plain hcurrent other hplain
  subst hzero
  exact hnoticed ⟨since, hlast, other, hplain⟩

theorem Fresh.loaded {past : List Event} {number : Nat} {id : PackageId}
    (fresh : Fresh past number id) : Loaded past number id := by
  obtain ⟨_, _, hlast, -⟩ := fresh
  exact hlast.loaded

theorem Fresh.noticed {past : List Event} {number : Nat} {id : PackageId}
    (fresh : Fresh past number id) : ¬Overlooked past number id := by
  obtain ⟨token, since, hlast, hundisturbed⟩ := fresh
  rintro ⟨since', hlast', other, hplain⟩
  obtain ⟨rfl, rfl⟩ := hlast.unique hlast'
  exact hundisturbed.plain other hplain

/-- **Parameters are on the chip.** Whatever users do with an accelerator that nobody had opened,
    and whatever the world around it does: a package that caches parameters is run after these have
    been loaded on the context in use, with nothing since then that costs them their place, exactly
    if they were not carried over from an earlier context, and no package without parameters has
    been run since they were loaded under the token 0. -/
theorem fresh_iff_noticed {start : Accelerator σ} (hdevice : start.device = none)
    (actions : List (Action σ)) {before rest : List Event} {number : Nat} {id : PackageId}
    (hhistory : start.history host power actions =
      before ++ ⟨number, .inferred id true⟩ :: rest) :
    Fresh before number id ↔ ¬Carried before number id ∧ ¬Overlooked before number id := by
  have hknown := known_of_closed hdevice
  have hjustified := justified_history host power hknown.consistent actions
  rw [hhistory] at hjustified
  have hreached : Loaded before number id ↔ ¬Carried before number id :=
    hjustified.reached.loaded_iff
  refine ⟨fun fresh => ⟨hreached.mp fresh.loaded, fresh.noticed⟩, fun ⟨hcarried, hnoticed⟩ => ?_⟩
  have hloaded := hreached.mpr hcarried
  obtain ⟨front, action, back, earlier, later, -, rfl, hevents⟩ :=
    exists_action_of_history host power hhistory
  have hfront := known_after host power hknown front
  rw [List.nil_append] at hfront
  obtain ⟨hdevice, other, happenings, residency, run, hhappenings⟩ :=
    ran_of_mem_events host power (by rw [hevents]; exact List.mem_append_right _ List.mem_cons_self)
      (by simp)
  rw [hhappenings] at hevents
  obtain ⟨earlier, tail, rfl, rfl, htail⟩ := List.map_eq_append_iff.mp hevents
  obtain ⟨happening, later, rfl, hhappening, rfl⟩ := List.map_eq_cons_iff.mp htail
  obtain rfl : happening = .inferred id true := by simpa using hhappening
  obtain ⟨rfl, htoken, hcontains⟩ | ⟨middle, token, rfl⟩ := before_inferred run rfl
  · rw [List.map_nil, List.append_nil] at hloaded hnoticed ⊢
    exact fresh_of_known hfront hdevice htoken hcontains hloaded hnoticed
  · refine ⟨token, [], ⟨⟨start.history host power front ++ middle.map (⟨number, ·⟩), by simp⟩,
      by simp⟩, ?_⟩
    exact ⟨by simp, by simp, by simp⟩

end

/-- A package without parameters, with one octet of instructions. -/
def plainPackage : Bytes :=
  Package.encode [{ bitstreams := [[8]], hints := [.instruction 0] }]

/-- After the first run of a package, one without parameters is run, and then it is run again. -/
def interruptedRun : List (Action Unit) :=
  firstRun ++ [.register ⟨1⟩ plainPackage, .invoke ⟨1⟩ [] [], .invoke ⟨0⟩ [] []]

/-- What comes before the second inference of the package. -/
def interruptedPast : List Event :=
  firstPast ++ [⟨0, .inferred ⟨0⟩ true⟩, ⟨0, .inferred ⟨1⟩ false⟩, ⟨0, .evicted⟩,
    ⟨0, .loading ⟨0⟩ 7⟩, ⟨0, .loaded ⟨0⟩ 7⟩]

/-- The token 7 is taken back, so the parameters are loaded again. -/
theorem fresh_interruptedRun :
    unused.history readyHost plugged interruptedRun =
        interruptedPast ++ ⟨0, .inferred ⟨0⟩ true⟩ :: [] ∧
      Fresh interruptedPast 0 ⟨0⟩ := by
  have hhistory : unused.history readyHost plugged interruptedRun =
      interruptedPast ++ ⟨0, .inferred ⟨0⟩ true⟩ :: [] := by decide +kernel
  refine ⟨hhistory, (fresh_iff_noticed readyHost plugged rfl interruptedRun hhistory).mpr
    ⟨fun hcarried => ?_, ?_⟩⟩
  · exact hcarried.2 (by decide)
  · rintro ⟨since, ⟨⟨earlier, hsplit⟩, -⟩, -⟩
    have hzero : ⟨0, .loaded ⟨0⟩ 0⟩ ∈ interruptedPast := by simp [hsplit]
    exact absurd hzero (by decide)

/-- A package with one octet of parameters under the token 0. -/
def zeroPackage : Bytes :=
  Package.encode
    [{ parameters := [1], hints := [.range .parameter "" 0 1], purpose := .parameterCaching },
     { bitstreams := [[9]], hints := [.instruction 0], purpose := .executionOnly }]

/-- As `interruptedRun`, with a package under the token 0. -/
def overlookedRun : List (Action Unit) :=
  [.register ⟨0⟩ zeroPackage, .openDevice .max, .invoke ⟨0⟩ [] [], .register ⟨1⟩ plainPackage,
    .invoke ⟨1⟩ [] [], .invoke ⟨0⟩ [] []]

/-- What comes before the second inference of the package. -/
def overlookedPast : List Event :=
  [⟨0, .opened {}⟩, ⟨0, .loading ⟨0⟩ 0⟩, ⟨0, .loaded ⟨0⟩ 0⟩, ⟨0, .inferred ⟨0⟩ true⟩,
    ⟨0, .inferred ⟨1⟩ false⟩]

/-- Under the token 0 a package is run without its parameters being loaded again, on a device that
    has been opened once. -/
theorem not_fresh_of_zeroToken :
    ¬∀ (σ : Type) (host : Host Waiter σ) (power : PowerSwitch σ) (world : σ)
      (config : DriverConfig) (start : Accelerator σ) (actions : List (Action σ))
      (before rest : List Event) (number : Nat) (id : PackageId),
      new world config = .ok start →
      start.history host power actions = before ++ ⟨number, .inferred id true⟩ :: rest →
      ¬Carried before number id → Fresh before number id := by
  intro h
  have hhistory : unused.history readyHost plugged overlookedRun =
      overlookedPast ++ ⟨0, .inferred ⟨0⟩ true⟩ :: [] := by decide +kernel
  have hcarried : ¬Carried overlookedPast 0 ⟨0⟩ := by
    rintro ⟨⟨residency, hopened, hcontains⟩, -⟩
    obtain rfl : residency = {} := by simpa [overlookedPast] using hopened
    cases hcontains
  have hoverlooked : Overlooked overlookedPast 0 ⟨0⟩ :=
    ⟨[⟨0, .inferred ⟨0⟩ true⟩, ⟨0, .inferred ⟨1⟩ false⟩],
      ⟨⟨[⟨0, .opened {}⟩, ⟨0, .loading ⟨0⟩ 0⟩], rfl⟩, by simp⟩, ⟨1⟩, by simp⟩
  have hfresh := h Unit readyHost plugged () {} unused overlookedRun overlookedPast [] 0 ⟨0⟩ rfl
    hhistory hcarried
  exact hfresh.noticed hoverlooked

end Accelerator

end TensorLink
