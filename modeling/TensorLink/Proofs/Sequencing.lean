import Mathlib.Data.List.Forall2
import TensorLink.Error

/-!
# Sequenced operations

Operations on a state end with a value or an error. The lemmas here open an operation that is built
from smaller ones: `m >>= f` ends well exactly if `m` does and `f` does on what `m` leaves.

* `bind_eq_ok_iff`: how a sequence ends well.
* `forM_append_eq_ok_iff`: how a sequence over a list ends, cut anywhere.
* `exists_mapM_forall₂`: a sequence of outcomes ends well if each of them does.
* `Keeps.bind`, `Keeps.forM`: what each operation of a sequence keeps, the sequence keeps.
* `Relates.bind`, `Relates.forM`: what each operation of a sequence relates, the sequence relates.
* `Projects.bind`, `Projects.forM`: a sequence on a larger state does on a part of it what the
  sequence of the projections does.
-/

namespace TensorLink.Sequencing

variable {ε σ σ' α β γ : Type} {s s' : σ}

/-! ## How a sequence ends -/

theorem bind_eq_ok_iff {m : EStateM ε σ α} {f : α → EStateM ε σ β} {b : β} :
    (m >>= f) s = .ok b s' ↔ ∃ a mid, m s = .ok a mid ∧ f a mid = .ok b s' := by
  change (match m s with | .ok a mid => f a mid | .error e mid => .error e mid) = _ ↔ _
  cases m s with
  | ok a mid => exact ⟨fun h => ⟨a, mid, rfl, h⟩, by rintro ⟨_, _, ⟨⟩, h⟩; exact h⟩
  | error e mid => simp

theorem bind_of_ok {m : EStateM ε σ α} {f : α → EStateM ε σ β} {a : α} (h : m s = .ok a s') :
    (m >>= f) s = f a s' := by
  change (match m s with | .ok a mid => f a mid | .error e mid => .error e mid) = _
  rw [h]

theorem bind_of_error {m : EStateM ε σ α} {f : α → EStateM ε σ β} {e : ε}
    (h : m s = .error e s') : (m >>= f) s = .error e s' := by
  change (match m s with | .ok a mid => f a mid | .error e mid => .error e mid) = _
  rw [h]

theorem outcome_bind_of_ok {m : DeviceM σ α} {f : α → DeviceM σ β} {a : α} (h : m s = .ok a s') :
    (m >>= f).outcome s = (f a).outcome s' := by
  unfold DeviceM.outcome
  rw [bind_of_ok h]

theorem outcome_bind_of_error {m : DeviceM σ α} {f : α → DeviceM σ β} {error : DriverError}
    (h : m s = .error error s') : (m >>= f).outcome s = (.error error, s') := by
  unfold DeviceM.outcome
  rw [bind_of_error h]

theorem pure_eq_ok_iff {a b : α} : (pure a : EStateM ε σ α) s = .ok b s' ↔ a = b ∧ s = s' := by
  change EStateM.Result.ok a s = _ ↔ _
  simp

theorem throw_ne_ok {e : ε} {b : α} : (throw e : EStateM ε σ α) s ≠ .ok b s' := by
  change EStateM.Result.error e s ≠ _
  simp

theorem get_bind {f : σ → EStateM ε σ β} : ((get : EStateM ε σ σ) >>= f) s = f s s := rfl

theorem set_eq_ok_iff {t : σ} {u : Unit} : (set t : EStateM ε σ Unit) s = .ok u s' ↔ t = s' := by
  change EStateM.Result.ok () t = _ ↔ _
  simp

theorem forM_cons_eq_ok_iff {f : α → EStateM ε σ Unit} {a : α} {l : List α} :
    (a :: l).forM f s = .ok () s' ↔ ∃ mid, f a s = .ok () mid ∧ l.forM f mid = .ok () s' := by
  rw [List.forM_eq_forM, List.forM_cons, bind_eq_ok_iff]
  exact ⟨fun ⟨_, mid, h⟩ => ⟨mid, h⟩, fun ⟨mid, h⟩ => ⟨(), mid, h⟩⟩

theorem forM_append_eq_ok_iff {f : α → EStateM ε σ Unit} {l l' : List α} :
    (l ++ l').forM f s = .ok () s' ↔
      ∃ mid, l.forM f s = .ok () mid ∧ l'.forM f mid = .ok () s' := by
  rw [List.forM_eq_forM, List.forM_append, bind_eq_ok_iff]
  exact ⟨fun ⟨_, mid, h⟩ => ⟨mid, h⟩, fun ⟨mid, h⟩ => ⟨(), mid, h⟩⟩

/-- A loop over `0, …, n` ends well exactly if that over `0, …, n − 1` does and its last turn
    does. -/
theorem forM_range_succ_eq_ok_iff {f : Nat → EStateM ε σ Unit} {n : Nat} :
    (List.range (n + 1)).forM f s = .ok () s' ↔
      ∃ mid, (List.range n).forM f s = .ok () mid ∧ f n mid = .ok () s' := by
  rw [List.range_succ, forM_append_eq_ok_iff]
  have h : ∀ mid, [n].forM f mid = .ok () s' ↔ f n mid = .ok () s' := by
    intro mid
    rw [forM_cons_eq_ok_iff]
    exact ⟨fun ⟨_, h, h'⟩ => by cases h'; exact h, fun h => ⟨s', h, rfl⟩⟩
  simp only [h]

theorem ofExcept_eq_ok_iff {e : Except DriverError α} {a : α} :
    DeviceM.ofExcept e s = .ok a s' ↔ e = .ok a ∧ s = s' := by
  cases e with
  | ok b => rw [DeviceM.ofExcept, pure_eq_ok_iff, Except.ok.injEq]
  | error error => simp [DeviceM.ofExcept, throw_ne_ok]

/-- A sequence of outcomes over a list ends well only if that of each element does. -/
theorem getElem?_of_mapM {f : α → Except ε β} {l : List α} {l' : List β}
    (h : l.mapM f = .ok l') :
    l'.length = l.length ∧
      ∀ (i : Nat) (a : α), l[i]? = some a → ∃ b, l'[i]? = some b ∧ f a = .ok b := by
  induction l generalizing l' with
  | nil => cases h; exact ⟨rfl, fun i a ha => by simp at ha⟩
  | cons first rest ih =>
    rw [List.mapM_cons] at h
    cases hfirst : f first with
    | error e => rw [hfirst] at h; cases h
    | ok b =>
      cases hrest : rest.mapM f with
      | error e => rw [hfirst, hrest] at h; cases h
      | ok bs =>
        rw [hfirst, hrest] at h
        cases h
        obtain ⟨hlen, hget⟩ := ih hrest
        refine ⟨by rw [List.length_cons, List.length_cons, hlen], fun i a ha => ?_⟩
        cases i with
        | zero => cases ha; exact ⟨b, rfl, hfirst⟩
        | succ i => exact hget i a ha

theorem ok_bind {a : α} {f : α → Except ε β} : (Except.ok a >>= f) = f a := rfl

/-- How a sequence of outcomes ends well. -/
theorem bind_ok_iff {e : Except ε α} {f : α → Except ε β} {b : β} :
    (e >>= f) = .ok b ↔ ∃ a, e = .ok a ∧ f a = .ok b := by
  cases e with
  | ok a => exact ⟨fun h => ⟨a, rfl, h⟩, by rintro ⟨_, ⟨⟩, h⟩; exact h⟩
  | error error => exact ⟨fun h => (by cases h), by rintro ⟨_, h, _⟩; cases h⟩

/-- A check that throws ends well exactly if it does not apply and what follows ends well. -/
theorem check_eq_ok_iff {p : Prop} [Decidable p] {e : ε} {m m' : Except ε β} {b : β} :
    (if p then (throw e : Except ε Unit) >>= fun _ => m' else m) = .ok b ↔ ¬p ∧ m = .ok b := by
  split_ifs with h
  · exact iff_of_false nofun fun h' => h'.1 h
  · exact ⟨fun hm => ⟨h, hm⟩, And.right⟩

/-- What holds of the outcome of each element holds of every element of a sequence. -/
theorem forall_of_mapM {f : α → Except ε β} {p : β → Prop} (hf : ∀ a b, f a = .ok b → p b)
    {l : List α} {l' : List β} (h : l.mapM f = .ok l') : ∀ b ∈ l', p b := by
  obtain ⟨hlen, hget⟩ := getElem?_of_mapM h
  intro b hb
  obtain ⟨i, hi, rfl⟩ := List.mem_iff_getElem.mp hb
  obtain ⟨b', hb', hf'⟩ := hget i l[i] (List.getElem?_eq_getElem (by omega))
  rw [List.getElem?_eq_getElem hi] at hb'
  exact hf _ _ (hf'.trans (by rw [Option.some.inj hb']))

theorem mapM_ok (f : α → β) (l : List α) :
    l.mapM (fun a => (.ok (f a) : Except ε β)) = .ok (l.map f) := List.mapM_pure

/-- Outcomes over two lists that agree pairwise agree as sequences. -/
theorem mapM_congr_forall₂ {f : α → Except ε β} {g : γ → Except ε β} {l : List α} {l' : List γ}
    (h : List.Forall₂ (fun a c => f a = g c) l l') : l.mapM f = l'.mapM g := by
  induction h with
  | nil => rfl
  | cons hfirst _ ih => rw [List.mapM_cons, List.mapM_cons, hfirst, ih]

/-- Outcomes over a list that are the elements of another list are, as a sequence, this list. -/
theorem mapM_eq_ok_of_forall₂ {f : α → Except ε β} {l : List α} {l' : List β}
    (h : List.Forall₂ (fun a b => f a = .ok b) l l') : l.mapM f = .ok l' := by
  rw [mapM_congr_forall₂ h]
  exact (mapM_ok id l').trans (congrArg _ (List.map_id l'))

/-- A sequence of outcomes over a list ends well if that of each element does. -/
theorem exists_mapM_forall₂ {f : α → Except ε β} {r : γ → β → Prop} {l : List α} {l' : List γ}
    (h : List.Forall₂ (fun a c => ∃ b, f a = .ok b ∧ r c b) l l') :
    ∃ bs, l.mapM f = .ok bs ∧ List.Forall₂ r l' bs := by
  induction h with
  | nil => exact ⟨[], rfl, .nil⟩
  | cons hfirst _ ih =>
    obtain ⟨b, hb, hr⟩ := hfirst
    obtain ⟨bs, hbs, hrest⟩ := ih
    refine ⟨b :: bs, ?_, .cons hr hrest⟩
    rw [List.mapM_cons, hb, hbs]
    rfl

/-- A sequence of outcomes over a list is this list if that of each element is this element. -/
theorem mapM_eq_ok_self_iff {f : α → Except ε α} {l : List α} :
    l.mapM f = .ok l ↔ ∀ a ∈ l, f a = .ok a := by
  constructor
  · intro h a ha
    obtain ⟨i, hi⟩ := List.mem_iff_getElem?.mp ha
    obtain ⟨b, hb, hf⟩ := (getElem?_of_mapM h).2 i a hi
    rwa [Option.some.inj (hi.symm.trans hb)] at hf ⊢
  · intro h
    induction l with
    | nil => rfl
    | cons first rest ih =>
      rw [List.mapM_cons, h first List.mem_cons_self,
        ih fun a ha => h a (List.mem_cons_of_mem _ ha)]
      rfl

/-! ## What a sequence keeps -/

/-- The state that an operation leaves, whatever it ends with. -/
def left : EStateM.Result ε σ α → σ
  | .ok _ s => s
  | .error _ s => s

/-- Whatever `m` ends with, it leaves the view `f` of the state as it is. -/
def Keeps (f : σ → γ) (m : EStateM ε σ α) : Prop := ∀ s, f (left (m s)) = f s

section Keeps

variable {f : σ → γ}

theorem Keeps.pure (a : α) : Keeps f (Pure.pure a : EStateM ε σ α) := fun _ => rfl

theorem Keeps.throw (e : ε) : Keeps f (MonadExcept.throw e : EStateM ε σ α) := fun _ => rfl

theorem Keeps.bind {m : EStateM ε σ α} {k : α → EStateM ε σ β} (hm : Keeps f m)
    (hk : ∀ a, Keeps f (k a)) : Keeps f (m >>= k) := by
  intro s
  have h := hm s
  change f (left (match m s with | .ok a mid => k a mid | .error e mid => .error e mid)) = f s
  cases hs : m s with
  | ok a mid =>
    rw [hs] at h
    exact (hk a mid).trans h
  | error e mid =>
    rw [hs] at h
    exact h

theorem Keeps.forM {k : α → EStateM ε σ Unit} (hk : ∀ a, Keeps f (k a)) (l : List α) :
    Keeps f (l.forM k) := by
  induction l with
  | nil => exact Keeps.pure ()
  | cons a l ih => exact (hk a).bind fun _ => ih

theorem left_ofExcept (e : Except DriverError α) (s : σ) : left (DeviceM.ofExcept e s) = s := by
  cases e <;> rfl

theorem left_ofOutcome (run : σ → Except DriverError α × σ) (s : σ) :
    left (DeviceM.ofOutcome run s) = (run s).2 := by
  unfold DeviceM.ofOutcome
  obtain ⟨outcome, after⟩ := run s
  cases outcome <;> rfl

theorem Keeps.ofExcept {f : σ → γ} (e : Except DriverError α) : Keeps f (DeviceM.ofExcept e) :=
  fun s => congrArg f (left_ofExcept e s)

theorem Keeps.of_ok {m : EStateM ε σ α} (hm : Keeps f m) {a : α} (h : m s = .ok a s') :
    f s' = f s := by
  have := hm s
  rw [h] at this
  exact this

theorem Keeps.of_error {m : EStateM ε σ α} (hm : Keeps f m) {e : ε} (h : m s = .error e s') :
    f s' = f s := by
  have := hm s
  rw [h] at this
  exact this

end Keeps

/-! ## How a sequence relates states -/

/-- Whatever `m` ends with, `r` relates the state that it leaves to the one before. -/
def Relates (r : σ → σ → Prop) (m : EStateM ε σ α) : Prop := ∀ s, r s (left (m s))

section Relates

variable {r : σ → σ → Prop}

/-- What keeps enough of the state leads to a related one. -/
theorem Keeps.relates {f : σ → γ} {m : EStateM ε σ α} (hm : Keeps f m)
    (hr : ∀ s s', f s' = f s → r s s') : Relates r m := fun s => hr s _ (hm s)

theorem Relates.bind (htrans : ∀ s s' s'', r s s' → r s' s'' → r s s'') {m : EStateM ε σ α}
    {k : α → EStateM ε σ β} (hm : Relates r m) (hk : ∀ a, Relates r (k a)) :
    Relates r (m >>= k) := by
  intro s
  have h := hm s
  change r s (left (match m s with | .ok a mid => k a mid | .error e mid => .error e mid))
  cases hs : m s with
  | ok a mid =>
    rw [hs] at h
    exact htrans _ _ _ h (hk a mid)
  | error e mid =>
    rw [hs] at h
    exact h

/-- The state after a loop is related to the one before, if each turn leads to a related one. -/
theorem Relates.forM (hrefl : ∀ s, r s s) (htrans : ∀ s s' s'', r s s' → r s' s'' → r s s'')
    {k : α → EStateM ε σ Unit} {l : List α} (hk : ∀ a ∈ l, Relates r (k a)) :
    Relates r (l.forM k) := by
  induction l with
  | nil => exact hrefl
  | cons a l ih =>
    exact Relates.bind htrans (hk a List.mem_cons_self) fun _ =>
      ih fun a' ha' => hk a' (List.mem_cons_of_mem _ ha')

end Relates

/-! ## Sequences on a larger state -/

/-- An ending, seen through a projection of the state. -/
def project (f : σ' → σ) : EStateM.Result ε σ' α → EStateM.Result ε σ α
  | .ok a s => .ok a (f s)
  | .error e s => .error e (f s)

/-- Seen through `f`, `m'` does what `m` does. -/
def Projects (f : σ' → σ) (m' : EStateM ε σ' α) (m : EStateM ε σ α) : Prop :=
  ∀ s, m (f s) = project f (m' s)

section Projects

variable {f : σ' → σ}

theorem Projects.pure (a : α) :
    Projects f (Pure.pure a : EStateM ε σ' α) (Pure.pure a : EStateM ε σ α) := fun _ => rfl

theorem Projects.throw (e : ε) :
    Projects f (MonadExcept.throw e : EStateM ε σ' α) (MonadExcept.throw e : EStateM ε σ α) :=
  fun _ => rfl

theorem Projects.bind {m' : EStateM ε σ' α} {m : EStateM ε σ α} {k' : α → EStateM ε σ' β}
    {k : α → EStateM ε σ β} (hm : Projects f m' m) (hk : ∀ a, Projects f (k' a) (k a)) :
    Projects f (m' >>= k') (m >>= k) := by
  intro s
  change (match m (f s) with | .ok a mid => k a mid | .error e mid => .error e mid) =
    project f (match m' s with | .ok a mid => k' a mid | .error e mid => .error e mid)
  rw [hm s]
  cases m' s with
  | ok a mid => exact hk a mid
  | error e mid => rfl

theorem Projects.forM {k' : α → EStateM ε σ' Unit} {k : α → EStateM ε σ Unit}
    (hk : ∀ a, Projects f (k' a) (k a)) (l : List α) : Projects f (l.forM k') (l.forM k) := by
  induction l with
  | nil => exact Projects.pure ()
  | cons a l ih => exact (hk a).bind fun _ => ih

/-- What ends on the larger state ends alike on the part of it. -/
theorem Projects.outcome {m' : DeviceM σ' α} {m : DeviceM σ α} (h : Projects f m' m) (s : σ') :
    m.outcome (f s) = ((m'.outcome s).1, f (m'.outcome s).2) := by
  unfold DeviceM.outcome
  rw [h s]
  cases m' s <;> rfl

theorem Projects.ofExcept {f : σ' → σ} (e : Except DriverError α) :
    Projects f (DeviceM.ofExcept e) (DeviceM.ofExcept e) := by
  cases e with
  | ok a => exact Projects.pure a
  | error error => exact Projects.throw error

end Projects

end TensorLink.Sequencing
