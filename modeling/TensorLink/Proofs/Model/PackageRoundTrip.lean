import TensorLink.Model.Package
import TensorLink.Proofs.Model.RoundTrip

/-!
# Packages are read back

A package nests three buffers: the encodings of the executables are strings of a table, whose buffer
is the string of another table. Each buffer is read from its own start, so that it suffices that the
inner buffers are taken out as they were put in. Which executable has which role is then decided by
their order alone.

Results:
* `lastIndex?_eq_some`, `lastIndex?_eq_none`: the last match of a list.
* `Package.decode_encode`: a package is read back as that of its executables.
* `Package.decode_encode_roles`: the executables are read back in their order, and of each role the
  last one counts.
-/

namespace TensorLink

/-! ## The last of a role -/

theorem lastIndex?_eq_none {α : Type} {p : α → Bool} {l : List α} (h : lastIndex? p l = none) :
    l.filter p = [] := by
  induction l with
  | nil => rfl
  | cons a rest ih =>
    rw [lastIndex?] at h
    split at h
    · cases h
    · rename_i hrest
      split at h
      · cases h
      · rename_i ha
        rw [List.filter_cons_of_neg ha, ih hrest]

theorem lastIndex?_eq_some {α : Type} {p : α → Bool} {l : List α} {index : Nat}
    (h : lastIndex? p l = some index) :
    ∃ a, l[index]? = some a ∧ (l.filter p).getLast? = some a := by
  induction l generalizing index with
  | nil => cases h
  | cons a rest ih =>
    rw [lastIndex?] at h
    split at h
    · rename_i i hrest
      cases h
      obtain ⟨b, hb, hlast⟩ := ih hrest
      refine ⟨b, hb, ?_⟩
      by_cases ha : p a = true
      · rw [List.filter_cons_of_pos ha, List.getLast?_cons, hlast]
        rfl
      · rw [List.filter_cons_of_neg ha, hlast]
    · rename_i hrest
      split at h
      · rename_i ha
        cases h
        exact ⟨a, rfl, by rw [List.filter_cons_of_pos ha, lastIndex?_eq_none hrest]; rfl⟩
      · cases h

theorem Purpose.isInference_eq (purpose : Purpose) :
    purpose.isInference = decide (purpose = .standAlone ∨ purpose = .executionOnly) := by
  cases purpose <;> rfl

theorem Purpose.not_isInference_eq (purpose : Purpose) :
    (!purpose.isInference) = decide (purpose = .parameterCaching) := by
  cases purpose <;> rfl

namespace Package

variable {size : Nat} {executables : List Executable}

theorem ofExecutables_eq_error
    (h : (executables.filter (·.purpose.isInference)).getLast? = none) :
    ofExecutables size executables = .error .noInferenceExecutable := by
  unfold ofExecutables
  dsimp only
  cases hinference : lastIndex? (fun executable => executable.purpose.isInference) executables with
  | none => rfl
  | some index =>
    obtain ⟨_, -, hlast⟩ := lastIndex?_eq_some hinference
    rw [h] at hlast
    cases hlast

theorem ofExecutables_eq_ok (size : Nat) {inference : Executable}
    (h : (executables.filter (·.purpose.isInference)).getLast? = some inference) :
    ∃ package, ofExecutables size executables = .ok package ∧ package.executables = executables ∧
      executables[package.inferenceIndex]? = some inference ∧ package.inference = inference ∧
      package.caching = (executables.filter (!·.purpose.isInference)).getLast? := by
  have hcaching : (lastIndex? (fun executable => !executable.purpose.isInference) executables).bind
      (executables[·]?) = (executables.filter (!·.purpose.isInference)).getLast? := by
    cases hlast : lastIndex? (fun executable => !executable.purpose.isInference) executables with
    | none => rw [lastIndex?_eq_none hlast]; rfl
    | some index =>
      obtain ⟨a, ha, hfilter⟩ := lastIndex?_eq_some hlast
      rw [hfilter]
      exact ha
  unfold ofExecutables
  dsimp only
  cases hinference : lastIndex? (fun executable => executable.purpose.isInference) executables with
  | none =>
    rw [lastIndex?_eq_none hinference] at h
    cases h
  | some index =>
    obtain ⟨a, ha, hlast⟩ := lastIndex?_eq_some hinference
    obtain rfl : a = inference := Option.some.inj (hlast.symm.trans h)
    dsimp only
    rw [ha]
    exact ⟨_, rfl, rfl, ha, rfl, hcaching⟩

/-! ## Nested buffers -/

theorem length_le_of_bytes? {buffer value : Bytes} {view : TableView} {slot : Nat}
    (h : view.bytes? buffer slot = .ok (some value)) : value.length ≤ buffer.length := by
  unfold TableView.bytes? at h
  obtain ⟨position, -, h⟩ := Sequencing.bind_ok_iff.mp h
  cases position with
  | none => cases h
  | some position =>
    obtain ⟨target, -, h⟩ := Sequencing.bind_ok_iff.mp h
    obtain ⟨octets, hoctets, h⟩ := Sequencing.bind_ok_iff.mp h
    cases h
    obtain ⟨⟨start, count⟩, -, hoctets⟩ := Sequencing.bind_ok_iff.mp hoctets
    cases hoctets
    rw [List.length_take, List.length_drop]
    omega

/-- Executables that are read back from their encodings are read back from the buffer of a
    package. -/
theorem decode_encode (hread : ∀ executable ∈ executables,
      Executable.decode executable.encode = .ok executable)
    (hsmall : (encode executables).length < 2 ^ 32) :
    decode (encode executables) = ofExecutables (encode executables).length executables := by
  let inner : Tree := [(0, .byteStrings (executables.map Executable.encode))]
  let outer : Tree := [(1, .bytes (inner.encode []))]
  have hinnerFits : inner.Fits := Tree.fits_of_small (by simp [inner]) (by simp [inner])
  have houterFits : outer.Fits := Tree.fits_of_small (by simp [outer]) (by simp [outer])
  obtain ⟨root, hroot, hshows⟩ : ∃ root, TableView.root (encode executables) = .ok root ∧
      Shows (encode executables) outer root := root_encode houterFits hsmall
  have hbytes : root.bytes? (encode executables) 1 = .ok (some (inner.encode [])) :=
    hshows.bytes hsmall rfl
  have hinnerSmall : (inner.encode []).length < 2 ^ 32 :=
    Nat.lt_of_le_of_lt (length_le_of_bytes? hbytes) hsmall
  obtain ⟨list, hlist, hshows⟩ := root_encode hinnerFits hinnerSmall
  have hstrings : list.byteStrings (inner.encode []) 0 =
      .ok (executables.map Executable.encode) := hshows.byteStrings hinnerSmall rfl
  have hexecutables : (executables.map Executable.encode).mapM Executable.decode =
      .ok executables := by
    rw [List.mapM_map, Sequencing.mapM_eq_ok_self_iff]
    exact hread
  unfold decode
  rw [hroot, Sequencing.ok_bind, hbytes, Sequencing.ok_bind]
  cases hinner : inner.encode [] with
  | nil =>
    rw [hinner] at hlist
    cases hlist
  | cons octet rest =>
    rw [hinner] at hlist hstrings
    simp only [hlist, hstrings, hexecutables, Sequencing.ok_bind]

/-! ## Main theorem -/

/-- **Packages are read back.** The package of executables that are read back from their encodings
    is refused if none of them runs inference; otherwise it is read back with its executables in
    their order, and the last one of each role. -/
theorem decode_encode_roles (executables : List Executable)
    (hread : ∀ executable ∈ executables, Executable.decode executable.encode = .ok executable)
    (hsmall : (encode executables).length < 2 ^ 32) :
    let infers := fun executable : Executable =>
      executable.purpose = .standAlone ∨ executable.purpose = .executionOnly
    ((¬∃ executable ∈ executables, infers executable) →
      decode (encode executables) = .error .noInferenceExecutable) ∧
    ((∃ executable ∈ executables, infers executable) →
      ∃ package, decode (encode executables) = .ok package ∧ package.executables = executables ∧
        executables[package.inferenceIndex]? = some package.inference ∧
        (executables.filter (infers ·)).getLast? = some package.inference ∧
        (executables.filter (·.purpose = .parameterCaching)).getLast? = package.caching) := by
  intro infers
  have hinfers : ∀ executable : Executable,
      executable.purpose.isInference = decide (infers executable) :=
    fun executable => executable.purpose.isInference_eq
  rw [decode_encode hread hsmall]
  constructor
  · intro hnone
    apply ofExecutables_eq_error
    rw [List.getLast?_eq_none_iff, List.filter_eq_nil_iff]
    intro executable hmem
    rw [hinfers, decide_eq_true_eq]
    exact fun h => hnone ⟨executable, hmem, h⟩
  · rintro ⟨executable, hmem, hexecutable⟩
    have hmem' : executable ∈ executables.filter (·.purpose.isInference) :=
      List.mem_filter.mpr ⟨hmem, by rw [hinfers]; exact decide_eq_true hexecutable⟩
    obtain ⟨inference, hlast⟩ := Option.ne_none_iff_exists'.mp
      (List.getLast?_eq_none_iff.not.mpr (List.ne_nil_of_mem hmem'))
    obtain ⟨package, hpackage, hexecutables, hindex, hinference, hcaching⟩ :=
      ofExecutables_eq_ok (encode executables).length hlast
    simp only [hinfers] at hlast
    simp only [Purpose.not_isInference_eq] at hcaching
    subst hinference
    exact ⟨package, hpackage, hexecutables, hindex, hlast, hcaching.symm⟩

/-- Two executables of each role: the later ones count. -/
theorem decode_encode_twoOfEach :
    let caching : Executable := { parameters := [7], purpose := .parameterCaching }
    let execution : Executable := { bitstreams := [[0x09]], purpose := .executionOnly }
    let alone : Executable := { purpose := .standAlone, cachingToken := 5 }
    let later : Executable := { parameters := [8, 9], purpose := .parameterCaching }
    let executables := [caching, execution, alone, later]
    (∀ executable ∈ executables, Executable.decode executable.encode = .ok executable) ∧
      (encode executables).length < 2 ^ 32 ∧
      ∃ package, decode (encode executables) = .ok package ∧ package.executables = executables ∧
        package.inference = alone ∧ package.caching = some later := by
  intro caching execution alone later executables
  have hread : ∀ executable ∈ executables,
      Executable.decode executable.encode = .ok executable := by decide +kernel
  have hsmall : (encode executables).length < 2 ^ 32 := by decide +kernel
  obtain ⟨package, hpackage, hexecutables, -, hinference, hcaching⟩ :=
    (decode_encode_roles executables hread hsmall).2 ⟨alone, by simp [executables], .inl rfl⟩
  exact ⟨hread, hsmall, package, hpackage, hexecutables, (Option.some.inj hinference).symm,
    hcaching.symm⟩

end Package

end TensorLink
