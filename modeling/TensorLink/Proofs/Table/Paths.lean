import TensorLink.Proofs.Table.Reading

/-!
# Trees are read back

Tables refer to tables, to any depth. A path leads from a tree to one of its tables, and in the same
way from a table of a buffer to another one. Where the root table shows a tree, every path leads to
a table that shows the tree at the end of the path.

Results:
* `Shows.returns`: what each reader returns of a table that shows a tree.
* `Shows.path`: along a path, a table that shows a tree leads to one that shows its table.
* `readsBack_encode`: an encoded tree is read back, at every table that a path leads to.
-/

namespace TensorLink

open Bytes

/-! ## Specification -/

/-- A step from a table to one that it refers to: the table in a slot, or one of the tables in a
    slot. -/
inductive TableStep where
  | table (slot : Nat)
  | element (slot index : Nat)

namespace Tree

/-- The table of a tree that a step leads to. -/
def step? (tree : Tree) : TableStep → Option Tree
  | .table slot =>
    match tree.value? slot with
    | some (.table child) => some child
    | _ => none
  | .element slot index =>
    match tree.value? slot with
    | some (.tables children) => children[index]?
    | _ => none

/-- The table of a tree that a path leads to. -/
def path? (tree : Tree) : List TableStep → Option Tree
  | [] => some tree
  | step :: path =>
    match tree.step? step with
    | none => none
    | some child => child.path? path

/-- `sub` is the tree itself, or a table in one of its fields, at any depth. -/
inductive Within (sub : Tree) : Tree → Prop
  | self : Within sub sub
  | table {tree : Tree} {slot : Nat} {child : Tree} (hfield : (slot, .table child) ∈ tree)
      (h : Within sub child) : Within sub tree
  | tables {tree : Tree} {slot : Nat} {children : List Tree} {child : Tree}
      (hfield : (slot, .tables children) ∈ tree) (hchild : child ∈ children)
      (h : Within sub child) : Within sub tree

end Tree

namespace TableView

/-- The table of a buffer that a step leads to, if the step leads anywhere. -/
def step? (buffer : Bytes) (view : TableView) : TableStep → Except ModelError (Option TableView)
  | .table slot => view.table? buffer slot
  | .element slot index => do return (← view.tables buffer slot)[index]?

/-- The table of a buffer that a path leads to, if the path leads anywhere. -/
def path? (buffer : Bytes) (view : TableView) :
    List TableStep → Except ModelError (Option TableView)
  | [] => .ok (some view)
  | step :: path => do
    match ← view.step? buffer step with
    | none => return none
    | some inner => inner.path? buffer path

/-- Every reader takes a slot for one that no field has. -/
structure ReturnsAbsent (buffer : Bytes) (view : TableView) (slot : Nat) : Prop where
  u8 : ∀ absent, view.u8 buffer slot absent = .ok absent
  i16 : ∀ absent, view.i16 buffer slot absent = .ok absent
  i32 : ∀ absent, view.i32 buffer slot absent = .ok absent
  u64 : ∀ absent, view.u64 buffer slot absent = .ok absent
  bytes : view.bytes? buffer slot = .ok none
  text : view.text? buffer slot = .ok none
  i32s : view.i32s buffer slot = .ok []
  byteStrings : view.byteStrings buffer slot = .ok []
  table : view.table? buffer slot = .ok none
  tables : view.tables buffer slot = .ok []

/-- The reader of the kind of `value` returns it for a slot; every reader takes the slot for absent
    if there is no value. Of tables it is said here only that they are found, and how many. -/
def Returns (buffer : Bytes) (view : TableView) (slot : Nat) : Option FieldValue → Prop
  | none => ReturnsAbsent buffer view slot
  | some (.u8 value) => ∀ absent, view.u8 buffer slot absent = .ok value
  | some (.i16 value) => ∀ absent, view.i16 buffer slot absent = .ok value
  | some (.i32 value) => ∀ absent, view.i32 buffer slot absent = .ok value
  | some (.u64 value) => ∀ absent, view.u64 buffer slot absent = .ok value
  | some (.bytes value) => view.bytes? buffer slot = .ok (some value)
  | some (.text value) => view.text? buffer slot = .ok (some value)
  | some (.i32s values) => view.i32s buffer slot = .ok values
  | some (.byteStrings values) => view.byteStrings buffer slot = .ok values
  | some (.table _) => ∃ inner, view.table? buffer slot = .ok (some inner)
  | some (.tables children) =>
    ∃ views, view.tables buffer slot = .ok views ∧ views.length = children.length

end TableView

/-! ## Slots -/

variable {buffer : Bytes} {tree child : Tree} {view : TableView}

theorem TableView.returnsAbsent_of_field? {slot : Nat}
    (h : view.field? buffer slot = .ok none) : view.ReturnsAbsent buffer slot := by
  have hscalar : ∀ width, view.scalar? buffer slot width = .ok none := by
    intro width
    rw [scalar?, h]
    rfl
  have hbytes : view.bytes? buffer slot = .ok none := by
    rw [bytes?, h]
    rfl
  have htargets : view.targets buffer slot = .ok [] := by
    rw [targets, h]
    rfl
  refine ⟨fun absent => ?_, fun absent => ?_, fun absent => ?_, fun absent => ?_, hbytes, ?_, ?_,
    ?_, ?_, ?_⟩
  · rw [u8, hscalar]; rfl
  · rw [i16, hscalar]; rfl
  · rw [i32, hscalar]; rfl
  · rw [u64, hscalar]; rfl
  · rw [text?, hbytes]; rfl
  · rw [i32s, h]; rfl
  · rw [byteStrings, htargets]; rfl
  · rw [table?, h]; rfl
  · rw [tables, htargets]; rfl

namespace Tree

theorem mem_of_value? {slot : Nat} {value : FieldValue} (h : tree.value? slot = some value) :
    (slot, value) ∈ tree := by
  obtain ⟨i, hfield, -⟩ := slotOffset_of_value h
  exact List.mem_of_getElem? hfield

/-- What is within a table that a step leads to is within the tree. -/
theorem Within.of_step {step : TableStep} (hstep : tree.step? step = some child) {sub : Tree}
    (h : Within sub child) : Within sub tree := by
  cases step with
  | table slot =>
    rw [step?] at hstep
    split at hstep
    · rename_i hvalue
      cases hstep
      exact .table (mem_of_value? hvalue) h
    · cases hstep
  | element slot index =>
    rw [step?] at hstep
    split at hstep
    · rename_i hvalue
      exact .tables (mem_of_value? hvalue) (List.mem_of_getElem? hstep) h
    · cases hstep

end Tree

section

variable (hsmall : buffer.length < 2 ^ 32) (hfits : ∀ sub, Tree.Within sub tree → sub.Fits)

include hsmall hfits

/-- The readers return what a table shows. -/
theorem Shows.returns (h : Shows buffer tree view) (slot : Nat) :
    view.Returns buffer slot (tree.value? slot) := by
  cases hvalue : tree.value? slot with
  | none => exact TableView.returnsAbsent_of_field? (h.absent slot hvalue)
  | some value =>
    cases value with
    | u8 value => exact h.u8 hvalue
    | i16 value => exact h.i16 hvalue
    | i32 value => exact h.i32 hvalue
    | u64 value => exact h.u64 hvalue
    | bytes value => exact h.bytes hsmall hvalue
    | text value => exact h.text hsmall hvalue
    | i32s values => exact h.i32s hsmall hvalue
    | byteStrings values => exact h.byteStrings hsmall hvalue
    | table child =>
      have hchild := hfits child (.table (Tree.mem_of_value? hvalue) .self)
      obtain ⟨inner, hinner, -⟩ := h.table hsmall slot hchild hvalue
      exact ⟨inner, hinner⟩
    | tables children =>
      obtain ⟨views, hviews, hshows⟩ := h.tables hsmall slot children
        (fun child hmem => hfits child (.tables (Tree.mem_of_value? hvalue) hmem .self)) hvalue
      exact ⟨views, hviews, hshows.length_eq.symm⟩

/-- A step leads to a table that shows the table of the tree. -/
theorem Shows.step (h : Shows buffer tree view) {step : TableStep}
    (hstep : tree.step? step = some child) :
    ∃ inner, view.step? buffer step = .ok (some inner) ∧ Shows buffer child inner := by
  cases step with
  | table slot =>
    rw [Tree.step?] at hstep
    split at hstep
    · rename_i hvalue
      cases hstep
      exact h.table hsmall slot (hfits child (.table (Tree.mem_of_value? hvalue) .self)) hvalue
    · cases hstep
  | element slot index =>
    rw [Tree.step?] at hstep
    split at hstep
    · rename_i children hvalue
      obtain ⟨views, hviews, hshows⟩ := h.tables hsmall slot children
        (fun child hmem => hfits child (.tables (Tree.mem_of_value? hvalue) hmem .self)) hvalue
      obtain ⟨hindex, rfl⟩ := List.getElem?_eq_some_iff.mp hstep
      have hindex' : index < views.length := by rw [← hshows.length_eq]; exact hindex
      refine ⟨views[index], ?_, hshows.get hindex hindex'⟩
      simp [TableView.step?, hviews, bind, Except.bind, pure, Except.pure, hindex']
    · cases hstep

/-- A path leads to a table that shows the table of the tree, and that fits. -/
theorem Shows.path (h : Shows buffer tree view) {path : List TableStep} {sub : Tree}
    (hpath : tree.path? path = some sub) :
    ∃ inner, view.path? buffer path = .ok (some inner) ∧ Shows buffer sub inner ∧
      ∀ below, Tree.Within below sub → below.Fits := by
  induction path generalizing tree view with
  | nil =>
    cases hpath
    exact ⟨view, rfl, h, hfits⟩
  | cons step path ih =>
    rw [Tree.path?] at hpath
    split at hpath
    · cases hpath
    · rename_i child hstep
      obtain ⟨next, hnext, hshows⟩ := h.step hsmall hfits hstep
      obtain ⟨inner, hinner, hend⟩ := ih (fun below hbelow => hfits below (hbelow.of_step hstep))
        hshows hpath
      refine ⟨inner, ?_, hend⟩
      rw [TableView.path?, hnext]
      exact hinner

end

/-! ## Main theorem -/

/-- **Reading back.** The root table of an encoded tree is found, and every path of the tree leads
    to a table of the buffer whose readers return the value of the last field in each slot, and what
    is absent in a slot that no field has. The identifier follows the distance to the root table. -/
theorem readsBack_encode (tree : Tree) (identifier : Bytes)
    (hslots : ∀ sub, Tree.Within sub tree → ∀ field ∈ sub, field.1 ≤ 32764)
    (hinline : ∀ sub, Tree.Within sub tree → Tree.fieldsEnd sub ≤ 65535)
    (hsmall : (tree.encode identifier).length < 2 ^ 32) :
    let buffer := tree.encode identifier
    (identifier.length = 4 → buffer.slice? 4 4 = some identifier) ∧
      ∃ root, TableView.root buffer = .ok root ∧
        ∀ path sub, tree.path? path = some sub →
          ∃ view, root.path? buffer path = .ok (some view) ∧
            ∀ slot, view.Returns buffer slot (sub.value? slot) := by
  intro buffer
  have hfits : ∀ sub, Tree.Within sub tree → sub.Fits := by
    intro sub hsub
    have hcount := Tree.slotCount_le fun field hmem =>
      Nat.lt_succ_of_le (hslots sub hsub field hmem)
    exact ⟨by omega, hinline sub hsub⟩
  obtain ⟨root, hroot, hshows⟩ := root_encode (hfits tree .self) hsmall
  refine ⟨fun hfour => ?_, root, hroot, fun path sub hpath => ?_⟩
  · have hlength : 8 ≤ buffer.length := by
      simp only [buffer, Tree.encode, List.length_append, Tree.length_u32, List.length_take,
        length_zeros]
      omega
    rw [slice?, if_pos hlength]
    exact congrArg some (Tree.encode_identifier tree identifier hfour)
  · obtain ⟨view, hview, hshows, hbelow⟩ := hshows.path hsmall hfits hpath
    exact ⟨view, hview, hshows.returns hsmall hbelow⟩

/-- A tree with a slot that two fields have, and a table two levels below the root. -/
theorem readsBack_twoLevels :
    let inner : Tree := [(0, .text "ab")]
    let second : Tree := [(0, .i32 9), (3, .table inner)]
    let tree : Tree := [(0, .u8 7), (2, .tables [[(1, .i16 (-5))], second]), (0, .text "conv")]
    let buffer := tree.encode [0x54, 0x45, 0x53, 0x54]
    (∀ sub, Tree.Within sub tree → ∀ field ∈ sub, field.1 ≤ 32764) ∧
      (∀ sub, Tree.Within sub tree → Tree.fieldsEnd sub ≤ 65535) ∧ buffer.length < 2 ^ 32 ∧
      buffer.slice? 4 4 = some [0x54, 0x45, 0x53, 0x54] ∧
      ∃ root view, TableView.root buffer = .ok root ∧
        root.text? buffer 0 = .ok (some "conv") ∧ root.i16 buffer 1 6 = .ok 6 ∧
        root.path? buffer [.element 2 1, .table 3] = .ok (some view) ∧
        view.text? buffer 0 = .ok (some "ab") := by
  intro inner second tree buffer
  have hinner : ∀ sub, Tree.Within sub inner → sub = inner := by
    rintro sub (_ | ⟨hfield, h⟩ | ⟨hfield, hchild, h⟩)
    · rfl
    · simp [inner] at hfield
    · simp [inner] at hfield
  have hsecond : ∀ sub, Tree.Within sub second → sub ∈ [second, inner] := by
    rintro sub (_ | ⟨hfield, h⟩ | ⟨hfield, hchild, h⟩)
    · exact List.mem_cons_self
    · obtain ⟨-, rfl⟩ : _ ∧ _ = inner := by simpa [second] using hfield
      rw [hinner sub h]
      exact List.mem_cons_of_mem _ List.mem_cons_self
    · simp [second] at hfield
  have htree : ∀ sub, Tree.Within sub tree → sub ∈ [tree, [(1, .i16 (-5))], second, inner] := by
    rintro sub (_ | ⟨hfield, h⟩ | ⟨hfield, hchild, h⟩)
    · exact List.mem_cons_self
    · simp [tree] at hfield
    · obtain ⟨-, rfl⟩ : _ ∧ _ = [[(1, .i16 (-5))], second] := by simpa [tree] using hfield
      obtain rfl | rfl : _ = [(1, FieldValue.i16 (-5))] ∨ _ = second := by simpa using hchild
      · rcases h with _ | ⟨hfield, h⟩ | ⟨hfield, hchild, h⟩
        · exact List.mem_cons_of_mem _ List.mem_cons_self
        · simp at hfield
        · simp at hfield
      · exact List.mem_cons_of_mem _ (List.mem_cons_of_mem _ (hsecond sub h))
  have hslots : ∀ sub, Tree.Within sub tree → ∀ field ∈ sub, field.1 ≤ 32764 :=
    fun sub h => (by decide : ∀ sub ∈ [tree, [(1, .i16 (-5))], second, inner],
      ∀ field ∈ sub, field.1 ≤ 32764) sub (htree sub h)
  have hinline : ∀ sub, Tree.Within sub tree → Tree.fieldsEnd sub ≤ 65535 :=
    fun sub h => (by decide : ∀ sub ∈ [tree, [(1, .i16 (-5))], second, inner],
      Tree.fieldsEnd sub ≤ 65535) sub (htree sub h)
  have hsmall : buffer.length < 2 ^ 32 := by decide +kernel
  obtain ⟨hidentifier, root, hroot, hread⟩ :=
    readsBack_encode tree [0x54, 0x45, 0x53, 0x54] hslots hinline hsmall
  obtain ⟨_, hself, hreturns⟩ := hread [] tree rfl
  cases hself
  obtain ⟨view, hview, hbelow⟩ := hread [.element 2 1, .table 3] inner rfl
  exact ⟨hslots, hinline, hsmall, hidentifier rfl, root, view, hroot, hreturns 0,
    (hreturns 1).i16 6, hview, hbelow 0⟩

end TensorLink
