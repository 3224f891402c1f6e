import TensorLink.Proofs.Inference.Staging

/-!
# Cutting a transfer in two

The input is sent range by range, as the hints say. If one of the ranges is cut in two, the same
octets of the staged input are sent in their place; but the elements of a signed layer are counted
from the start of each range, so that an element across the cut is biased in one case and not in the
other.

Results:
* `sentInput_of_ok`: an invocation that ends well sends the ranges of the staged input.
* `elements_cut`: a cut between elements asks for the same elements to be biased.
* `exists_crosses_iff`: which cuts go through an element.
* `Cut.Crosses.isBiased`, `Cut.Crosses.not_isBiased`: an element across the cut is biased as long as
  it is not cut.
* `sentInput_cut_iff`: when cutting a range changes what is sent.
-/

namespace TensorLink.Session

open Simulation

/-! ## Specification -/

/-- The octets of the input that calls send, one call after the other. -/
def sentInput (calls : List StreamCall) : Bytes :=
  calls.flatMap fun call =>
    match call with
    | .send .inputActivations data _ => data
    | _ => []

/-- The hint that asks for a range of the input. -/
def InputRange.hint (range : InputRange) : Hint :=
  .range .inputActivation range.name range.offset range.size

/-- The octets of a range. -/
def InputRange.octets (staged : Bytes) (range : InputRange) : Bytes :=
  (staged.drop range.offset).take range.size

/-- An input hint among other hints, and a place to cut it. -/
structure Cut where
  front : List Hint
  name : String
  offset : Nat
  size : Nat
  back : List Hint
  /-- The number of octets before the cut. -/
  split : Nat
  split_le : split ≤ size

namespace Cut

/-- The range of the hint. -/
def range (cut : Cut) : InputRange := ⟨cut.name, cut.offset, cut.size⟩

/-- The range before the cut. -/
def first (cut : Cut) : InputRange := ⟨cut.name, cut.offset, cut.split⟩

/-- The range after the cut. -/
def second (cut : Cut) : InputRange := ⟨cut.name, cut.offset + cut.split, cut.size - cut.split⟩

/-- The hints, the range in one piece. -/
def whole (cut : Cut) : List Hint := cut.front ++ cut.range.hint :: cut.back

/-- The hints, the range in two pieces. -/
def parts (cut : Cut) : List Hint := cut.front ++ cut.first.hint :: cut.second.hint :: cut.back

/-- An element of the range lies across the cut. -/
structure Crosses (cut : Cut) (session : Session) (element : Element) : Prop where
  mem : element ∈ session.signedElements cut.range
  before : element.start < cut.offset + cut.split
  after : cut.offset + cut.split < element.start + element.size

/-- A session without the hint. -/
def without (cut : Cut) (session : Session) : Session :=
  { session with executable := { session.executable with hints := cut.front ++ cut.back } }

/-- No other hint for a layer of a signed type shares an octet with an element. -/
def Alone (cut : Cut) (session : Session) (element : Element) : Prop :=
  ∀ layer offset size, SignedHint (cut.without session).executable layer offset size →
    offset + size ≤ element.start ∨ element.start + element.size ≤ offset

end Cut

/-- A hint asks for an octet of the input. -/
def Sends (session : Session) (position : Nat) : Prop :=
  ∃ range ∈ session.inputRanges, range.offset ≤ position ∧ position < range.offset + range.size

/-! ## What is sent -/

section

variable {outputs outputs' : List OutputBuffer} {requests : List Request} {calls : List StreamCall}
  {result : Except DriverError EventRecord} {event : EventRecord}

/-- The octets of the input that a request sends. -/
def Request.input : Request → Bytes
  | .send .inputActivations data => data
  | _ => []

/-- A program that ends well has sent all of its input. -/
theorem Performed.sentInput_eq (h : Performed outputs requests calls outputs' result)
    (hok : result = .ok event) : sentInput calls = requests.flatMap Request.input := by
  induction h with
  | sent tag data _ ih =>
    rw [sentInput, List.flatMap_cons, List.flatMap_cons, ← ih hok]
    cases tag <;> rfl
  | sendFailed => cases hok
  | received hi hsize hreceived _ ih => exact ih hok
  | receiveFailed => cases hok
  | event => rfl
  | refused => cases hok

/-- A program that ends well has read an event. -/
theorem Performed.readEvent_mem (h : Performed outputs requests calls outputs' result)
    (hok : result = .ok event) : .readEvent ∈ requests := by
  induction h with
  | sent tag data _ ih => exact List.mem_cons_of_mem _ (ih hok)
  | sendFailed => cases hok
  | received hi hsize hreceived _ ih => exact List.mem_cons_of_mem _ (ih hok)
  | receiveFailed => cases hok
  | event => exact List.mem_cons_self
  | refused => cases hok

end

section

variable {σ : Type} {stream : DataStream σ} {session : Session} {input : Bytes}
  {outputs : List Bytes} {state : σ} {event : EventRecord}

/-- Of what the hints ask for, the input is what the input hints ask for. -/
theorem flatMap_input_requests (session : Session) (staged : Bytes) :
    (session.executable.hints.filterMap
        (request? session.executable (scratchSizes session.outputs) staged)).flatMap
          Request.input = session.inputRanges.flatMap (·.octets staged) := by
  unfold inputRanges
  induction session.executable.hints with
  | nil => rfl
  | cons hint rest ih =>
    rw [List.filterMap_cons, List.filterMap_cons]
    cases hint with
    | range role name offset size =>
      cases role with
      | parameter => exact ih
      | inputActivation => exact congrArg ((staged.drop offset).take size ++ ·) ih
      | outputActivation =>
        simp only [request?]
        cases (scratchSizes session.outputs).findIdx? (·.name == name) <;> exact ih
      | scratchpad => exact ih
    | instruction chunk =>
      simp only [request?]
      cases session.executable.bitstreams[chunk]? <;> exact ih
    | other => exact ih

/-- An invocation that ends well sends the ranges of the staged input. -/
theorem sentInput_of_ok (hkeeps : stream.KeepsSize)
    (hok : (session.invoke stream input outputs state).outcome = .ok event) :
    ∃ staged, session.stageInput input = .ok staged ∧
      sentInput (session.calls stream input outputs state) =
        session.inputRanges.flatMap (·.octets staged) := by
  obtain ⟨hfits, staged, -, -, hstaged, -⟩ := execute_of_invoke hok
  obtain ⟨result, hperformed, houtcome⟩ := performed_invoke hkeeps hfits hstaged state
  refine ⟨staged, hstaged, ?_⟩
  cases result with
  | error error => cases hok.symm.trans houtcome
  | ok event' =>
    rw [hperformed.sentInput_eq rfl, hintProgram, program_of_addressed, List.flatMap_append,
      flatMap_input_requests]
    · exact List.append_nil _
    · by_contra haddressed
      exact readEvent_notMem_program haddressed (hperformed.readEvent_mem rfl)

end

/-! ## The ranges before and after the cut -/

/-- The ranges of the input that hints ask for. -/
def rangesOf (hints : List Hint) : List InputRange := Session.inputRanges ⟨{ hints }, []⟩

section

variable {cut : Cut} {session session' : Session} {staged staged' : Bytes}
  {ranges : List InputRange} {range : InputRange}

theorem inputRanges_whole (hwhole : session.executable.hints = cut.whole) :
    session.inputRanges = rangesOf cut.front ++ cut.range :: rangesOf cut.back := by
  unfold inputRanges
  rw [hwhole, Cut.whole, List.filterMap_append]
  rfl

theorem inputRanges_parts (hparts : session.executable.hints = cut.parts) :
    session.inputRanges =
      rangesOf cut.front ++ cut.first :: cut.second :: rangesOf cut.back := by
  unfold inputRanges
  rw [hparts, Cut.parts, List.filterMap_append]
  rfl

/-- The octets of the range are those of its two parts. -/
theorem octets_cut (cut : Cut) (staged : Bytes) :
    cut.first.octets staged ++ cut.second.octets staged = cut.range.octets staged := by
  unfold InputRange.octets Cut.first Cut.second Cut.range
  dsimp only
  rw [← List.drop_drop, ← List.take_add, Nat.add_sub_cancel' cut.split_le]

theorem octets_eq_iff :
    range.octets staged' = range.octets staged ↔ ∀ position, range.offset ≤ position →
      position < range.offset + range.size → staged'[position]? = staged[position]? := by
  unfold InputRange.octets
  constructor
  · intro h position hle hlt
    have hposition : _ = _ := congrArg (·[position - range.offset]?) h
    rwa [List.getElem?_take_of_lt (by omega), List.getElem?_take_of_lt (by omega),
      List.getElem?_drop, List.getElem?_drop, Nat.add_sub_cancel' hle] at hposition
  · intro h
    apply List.ext_getElem?
    intro i
    rw [List.getElem?_take, List.getElem?_take]
    split
    · next hi =>
      rw [List.getElem?_drop, List.getElem?_drop]
      exact h _ (by omega) (by omega)
    · rfl

/-- Two inputs of one size are sent alike if they agree in every octet that is sent. -/
theorem flatMap_octets_eq_iff (hlength : staged'.length = staged.length) :
    ranges.flatMap (·.octets staged') = ranges.flatMap (·.octets staged) ↔
      ∀ range ∈ ranges, ∀ position, range.offset ≤ position →
        position < range.offset + range.size → staged'[position]? = staged[position]? := by
  induction ranges with
  | nil => simp
  | cons range rest ih =>
    have hsame : (range.octets staged').length = (range.octets staged).length := by
      simp [InputRange.octets, hlength]
    rw [List.flatMap_cons, List.flatMap_cons, List.forall_mem_cons, ← ih, ← octets_eq_iff]
    exact ⟨fun h => List.append_inj h hsame, fun h => by rw [h.1, h.2]⟩

/-- Cutting a range does not change which octets are sent. -/
theorem flatMap_octets_cut (hwhole : session.executable.hints = cut.whole)
    (hparts : session'.executable.hints = cut.parts) (staged : Bytes) :
    session'.inputRanges.flatMap (·.octets staged) =
      session.inputRanges.flatMap (·.octets staged) := by
  rw [inputRanges_whole hwhole, inputRanges_parts hparts]
  simp only [List.flatMap_append, List.flatMap_cons]
  rw [← octets_cut, List.append_assoc]

/-- Octets that are sent are in the input. -/
theorem Sends.lt_length {input : Bytes} {position : Nat} (h : session.Sends position)
    (hstaged : session.stageInput input = .ok staged) : position < input.length := by
  obtain ⟨range, hmem, -, hlt⟩ := h
  have hcovered := inputSize_le_iff.mp (stageInput_eq_ok_iff.mp hstaged).1
  exact Nat.lt_of_lt_of_le hlt (hcovered _ _ _ (mem_inputRanges.mp hmem))

end

/-! ## The elements before and after the cut -/

section

variable {cut : Cut} {session session' : Session} {element : Element}

/-- If no element lies across the cut, the elements of the range are those of its two parts. -/
theorem elementStarts_cut {width : Nat} (hwidth : 0 < width)
    (hnone : ∀ index, index * width < cut.split → cut.split < index * width + width →
      cut.size < index * width + width) :
    elementStarts cut.first width ++ elementStarts cut.second width =
      elementStarts cut.range width := by
  have hle := cut.split_le
  unfold elementStarts Cut.first Cut.second Cut.range
  dsimp only
  by_cases hdvd : width ∣ cut.split
  · obtain ⟨count, hcount⟩ := hdvd
    have hsize : cut.size / width = count + (cut.size - cut.split) / width := by
      rw [← Nat.mul_add_div hwidth, ← hcount, Nat.add_sub_cancel' hle]
    rw [hcount, Nat.mul_div_cancel_left _ hwidth, ← hcount, hsize, List.range_add,
      List.map_append, List.map_map]
    congr 2
    funext index
    rw [Function.comp_apply, Nat.add_mul, hcount, Nat.mul_comm width count, Nat.add_assoc]
  · -- The element that holds the cut is not whole, and nothing follows it.
    have hlt : cut.split / width * width < cut.split :=
      Nat.lt_of_le_of_ne (Nat.div_mul_le_self _ _) fun h => hdvd (Dvd.intro_left _ h)
    have hend := Nat.lt_div_mul_add (a := cut.split) hwidth
    have hsize := hnone (cut.split / width) hlt hend
    have hwhole : cut.size / width = cut.split / width :=
      Nat.div_eq_of_lt_le (by omega) (by rw [Nat.succ_mul]; omega)
    have hrest : (cut.size - cut.split) / width = 0 := Nat.div_eq_of_lt (by omega)
    rw [hwhole, hrest, List.range_zero, List.map_nil, List.append_nil]

/-- So are the elements to be biased. -/
theorem signedElements_cut (hnone : ∀ element, ¬cut.Crosses session element) :
    session.signedElements cut.first ++ session.signedElements cut.second =
      session.signedElements cut.range := by
  unfold signedElements
  have hname : cut.first.name = cut.range.name ∧ cut.second.name = cut.range.name := ⟨rfl, rfl⟩
  rw [hname.1, hname.2]
  cases hlayer : session.executable.input? cut.range.name with
  | none => rfl
  | some layer =>
    dsimp only
    split
    · next hsigned =>
      rw [← List.map_append, elementStarts_cut layer.type.size_pos]
      intro index hbefore hafter
      by_contra hinside
      refine hnone ⟨cut.offset + index * layer.type.size, layer.type.size⟩
        ⟨mem_signedElements_iff.mpr ⟨layer, hlayer, hsigned, rfl, ?_⟩, ?_, ?_⟩
      · exact (mem_elementStarts_iff layer.type.size_pos).mpr
          ⟨index, rfl, Nat.le_of_not_lt hinside⟩
      · exact Nat.add_lt_add_left hbefore _
      · change _ < cut.offset + index * layer.type.size + layer.type.size
        omega
    · rfl

theorem signedElements_congr (hinputs : session'.executable.inputs = session.executable.inputs) :
    session'.signedElements = session.signedElements := by
  unfold signedElements Executable.input?
  rw [hinputs]

theorem elements_whole (hwhole : session.executable.hints = cut.whole) :
    session.elements = (rangesOf cut.front).flatMap session.signedElements ++
      (session.signedElements cut.range ++ (rangesOf cut.back).flatMap session.signedElements) := by
  rw [elements, inputRanges_whole hwhole, List.flatMap_append, List.flatMap_cons]

theorem elements_parts
    (hparts : session'.executable = { session.executable with hints := cut.parts }) :
    session'.elements = (rangesOf cut.front).flatMap session.signedElements ++
      (session.signedElements cut.first ++ (session.signedElements cut.second ++
        (rangesOf cut.back).flatMap session.signedElements)) := by
  have hinputs : session'.executable.inputs = session.executable.inputs := by rw [hparts]
  have hhints : session'.executable.hints = cut.parts := by rw [hparts]
  rw [elements, inputRanges_parts hhints, signedElements_congr hinputs, List.flatMap_append,
    List.flatMap_cons, List.flatMap_cons]

theorem elements_without (cut : Cut) (session : Session) :
    (cut.without session).elements = (rangesOf cut.front).flatMap session.signedElements ++
      (rangesOf cut.back).flatMap session.signedElements := by
  have hranges : (cut.without session).inputRanges = rangesOf cut.front ++ rangesOf cut.back :=
    List.filterMap_append
  rw [elements, hranges, List.flatMap_append]
  rfl

/-- Cutting between elements does not change which elements are to be biased. -/
theorem elements_cut (hwhole : session.executable.hints = cut.whole)
    (hparts : session'.executable = { session.executable with hints := cut.parts })
    (hnone : ∀ element, ¬cut.Crosses session element) : session'.elements = session.elements := by
  rw [elements_whole hwhole, elements_parts hparts, ← signedElements_cut hnone, List.append_assoc]

theorem mem_elements_whole_iff (hwhole : session.executable.hints = cut.whole) :
    element ∈ session.elements ↔
      element ∈ (cut.without session).elements ∨ element ∈ session.signedElements cut.range := by
  rw [elements_whole hwhole, elements_without]
  simp only [List.mem_append]
  tauto

theorem mem_elements_parts_iff
    (hparts : session'.executable = { session.executable with hints := cut.parts }) :
    element ∈ session'.elements ↔ element ∈ (cut.without session).elements ∨
      element ∈ session.signedElements cut.first ∨
        element ∈ session.signedElements cut.second := by
  rw [elements_parts hparts, elements_without]
  simp only [List.mem_append]
  tauto

/-- An element of another hint lies apart from one that is alone. -/
theorem Cut.Alone.apart {element' : Element} (halone : cut.Alone session element)
    (hmem : element' ∈ (cut.without session).elements) :
    element'.start + element'.size ≤ element.start ∨
      element.start + element.size ≤ element'.start := by
  obtain ⟨layer, offset, size, hhint, -, index, hstart, hle⟩ := mem_elements_iff.mp hmem
  have := halone layer offset size hhint
  omega

theorem within_of_mem_signedElements {range : InputRange}
    (hmem : element ∈ session.signedElements range) :
    range.offset ≤ element.start ∧ element.start + element.size ≤ range.offset + range.size ∧
      0 < element.size := by
  obtain ⟨layer, -, -, hsize, hstart⟩ := mem_signedElements_iff.mp hmem
  have hpos : 0 < element.size := hsize ▸ layer.type.size_pos
  obtain ⟨index, hstart, hle⟩ := (mem_elementStarts_iff hpos).mp hstart
  omega

/-- The elements of a layer have one size. -/
theorem size_eq_of_mem_signedElements {element' : Element} {range range' : InputRange}
    (hmem : element ∈ session.signedElements range)
    (hmem' : element' ∈ session.signedElements range') (hname : range'.name = range.name) :
    element'.size = element.size := by
  obtain ⟨layer, hlayer, -, hsize, -⟩ := mem_signedElements_iff.mp hmem
  obtain ⟨layer', hlayer', -, hsize', -⟩ := mem_signedElements_iff.mp hmem'
  rw [hname, hlayer] at hlayer'
  cases hlayer'
  rw [hsize, hsize']

/-- A cut goes through an element of a signed layer exactly if it is not a whole number of elements
    after the start of the range, and not at its end. -/
theorem exists_crosses_iff :
    (∃ element, cut.Crosses session element) ↔ ∃ layer,
      session.executable.input? cut.name = some layer ∧ layer.type.isSigned = true ∧
        ¬layer.type.size ∣ cut.split ∧ cut.split < cut.size := by
  constructor
  · rintro ⟨element, hmem, hbefore, hafter⟩
    obtain ⟨-, hend, -⟩ := within_of_mem_signedElements hmem
    obtain ⟨layer, hlayer, hsigned, hsize, hstart⟩ := mem_signedElements_iff.mp hmem
    have hpos : 0 < element.size := hsize ▸ layer.type.size_pos
    obtain ⟨index, hstart, -⟩ := (mem_elementStarts_iff hpos).mp hstart
    change element.start = cut.offset + index * element.size at hstart
    change element.start + element.size ≤ cut.offset + cut.size at hend
    refine ⟨layer, hlayer, hsigned, ?_, by omega⟩
    rw [← hsize]
    refine Nat.not_dvd_of_lt_of_lt_mul_succ (k := index) ?_ ?_
    · rw [Nat.mul_comm]
      omega
    · rw [Nat.mul_succ, Nat.mul_comm]
      omega
  · rintro ⟨layer, hlayer, hsigned, hdvd, hlt⟩
    -- An element of a signed layer takes one octet or two.
    have hsize : layer.type.size = 2 := by
      revert hsigned hdvd
      cases layer.type <;> simp [DataType.isSigned, DataType.size]
    rw [hsize] at hdvd
    have hmem : ⟨cut.offset + cut.split / 2 * 2, 2⟩ ∈ session.signedElements cut.range :=
      mem_signedElements_iff.mpr ⟨layer, hlayer, hsigned, hsize.symm,
        (mem_elementStarts_iff Nat.two_pos).mpr ⟨cut.split / 2, rfl, by
          change cut.split / 2 * 2 + 2 ≤ cut.size
          omega⟩⟩
    exact ⟨_, hmem, by dsimp only; omega, by dsimp only; omega⟩

/-- An element is biased as long as it is not cut. -/
theorem Cut.Crosses.isBiased (hcrosses : cut.Crosses session element)
    (halone : cut.Alone session element) (hwhole : session.executable.hints = cut.whole) :
    session.IsBiased element.last := by
  have hpos := (within_of_mem_signedElements hcrosses.mem).2.2
  refine isBiased_last_of_unique ((mem_elements_whole_iff hwhole).mpr (.inr hcrosses.mem))
    fun element' hmem' hsame => ?_
  have hpos' := size_pos_of_mem_elements hmem'
  unfold Element.last at hsame
  obtain hother | hrange := (mem_elements_whole_iff hwhole).mp hmem'
  · have := halone.apart hother
    omega
  · have hsize := size_eq_of_mem_signedElements hcrosses.mem hrange rfl
    exact Element.ext (by omega) hsize

/-- Once it is cut it is not. -/
theorem Cut.Crosses.not_isBiased (hcrosses : cut.Crosses session element)
    (halone : cut.Alone session element)
    (hparts : session'.executable = { session.executable with hints := cut.parts }) :
    ¬session'.IsBiased element.last := by
  have hpos := (within_of_mem_signedElements hcrosses.mem).2.2
  have hbefore := hcrosses.before
  have hafter := hcrosses.after
  refine not_isBiased_of_forall_ne fun element' hmem' hlast => ?_
  have hpos' := size_pos_of_mem_elements hmem'
  unfold Element.last at hlast
  obtain hother | hfirst | hsecond := (mem_elements_parts_iff hparts).mp hmem'
  · have := halone.apart hother
    omega
  · have hsize := size_eq_of_mem_signedElements hcrosses.mem hfirst rfl
    obtain ⟨-, hend, -⟩ := within_of_mem_signedElements hfirst
    change element'.start + element'.size ≤ cut.offset + cut.split at hend
    omega
  · have hsize := size_eq_of_mem_signedElements hcrosses.mem hsecond rfl
    obtain ⟨hstart, -, -⟩ := within_of_mem_signedElements hsecond
    change cut.offset + cut.split ≤ element'.start at hstart
    omega

end

/-! ## Main theorem -/

section

variable {σ σ' : Type} {stream : DataStream σ} {stream' : DataStream σ'} {cut : Cut}
  {session session' : Session} {input : Bytes} {outputs outputs' : List Bytes} {state : σ}
  {state' : σ'} {event event' : EventRecord}

/-- What is sent is the same if the same of its octets are biased. -/
theorem sentInput_eq_iff (hkeeps : stream.KeepsSize) (hkeeps' : stream'.KeepsSize)
    (hwhole : session.executable.hints = cut.whole)
    (hparts : session'.executable.hints = cut.parts)
    (hok : (session.invoke stream input outputs state).outcome = .ok event)
    (hok' : (session'.invoke stream' input outputs' state').outcome = .ok event') :
    sentInput (session'.calls stream' input outputs' state') =
        sentInput (session.calls stream input outputs state) ↔
      ∀ position, session.Sends position →
        (session'.IsBiased position ↔ session.IsBiased position) := by
  obtain ⟨staged, hstaged, hsent⟩ := sentInput_of_ok hkeeps hok
  obtain ⟨staged', hstaged', hsent'⟩ := sentInput_of_ok hkeeps' hok'
  have hlength : staged'.length = staged.length :=
    (length_stageInput hstaged').trans (length_stageInput hstaged).symm
  rw [hsent, hsent', flatMap_octets_cut hwhole hparts, flatMap_octets_eq_iff hlength]
  have hsame {position : Nat} (hsends : session.Sends position) :=
    getElem?_stageInput_eq_iff hstaged hstaged' (hsends.lt_length hstaged)
  constructor
  · rintro h position ⟨range, hmem, hle, hlt⟩
    exact (hsame ⟨range, hmem, hle, hlt⟩).mp (h range hmem position hle hlt)
  · intro h range hmem position hle hlt
    exact (hsame ⟨range, hmem, hle, hlt⟩).mpr (h position ⟨range, hmem, hle, hlt⟩)

/-- **Cutting a transfer.** Take an executable and the one in which one of its input hints is
    replaced by two, for the octets before a cut and for those after it. If both are invoked on the
    same input and end well, they send the same octets exactly if the same of them are biased. So it
    is if no element of the hint, counted from its start, lies across the cut; it is not so if one
    does whose octets no other hint for a signed layer shares. -/
theorem sentInput_cut_iff (hkeeps : stream.KeepsSize) (hkeeps' : stream'.KeepsSize)
    (hwhole : session.executable.hints = cut.whole)
    (hparts : session'.executable = { session.executable with hints := cut.parts })
    (hok : (session.invoke stream input outputs state).outcome = .ok event)
    (hok' : (session'.invoke stream' input outputs' state').outcome = .ok event') :
    let sent := sentInput (session.calls stream input outputs state)
    let sent' := sentInput (session'.calls stream' input outputs' state')
    (sent' = sent ↔ ∀ position, session.Sends position →
        (session'.IsBiased position ↔ session.IsBiased position)) ∧
      ((∀ element, ¬cut.Crosses session element) → sent' = sent) ∧
      ∀ element, cut.Crosses session element → cut.Alone session element → sent' ≠ sent := by
  intro sent sent'
  have hiff := sentInput_eq_iff hkeeps hkeeps' hwhole (by rw [hparts]) hok hok'
  refine ⟨hiff, fun hnone => ?_, fun element hcrosses halone hsame => ?_⟩
  · have helements := elements_cut hwhole hparts hnone
    rw [hiff]
    intro position _
    rw [IsBiased, IsBiased, helements]
  · obtain ⟨hstart, hend, hpos⟩ := within_of_mem_signedElements hcrosses.mem
    have hrange : cut.range ∈ session.inputRanges := by
      rw [inputRanges_whole hwhole]
      exact List.mem_append_right _ List.mem_cons_self
    have hsends : session.Sends element.last :=
      ⟨cut.range, hrange, by unfold Element.last; omega, by unfold Element.last; omega⟩
    exact hcrosses.not_isBiased halone hparts
      ((hiff.mp hsame element.last hsends).mpr (hcrosses.isBiased halone hwhole))

/-- A cut between two elements. -/
theorem sentInput_cut_between :
    let cut : Cut :=
      { front := [], name := "in", offset := 0, size := 4, back := [.instruction 0], split := 2
        split_le := by decide }
    let executable : Executable :=
      { bitstreams := [[7]], inputs := [.dense "in" .signedFixedPoint16 1 1 2]
        hints := cut.whole }
    let session : Session := ⟨executable, []⟩
    let session' : Session := ⟨{ executable with hints := cut.parts }, []⟩
    let input : Bytes := [0, 0, 0, 0]
    (session.invoke ReplyStream.stream input [] {}).outcome = .ok ReplyStream.event ∧
      (session'.invoke ReplyStream.stream input [] {}).outcome = .ok ReplyStream.event ∧
      sentInput (session.calls ReplyStream.stream input [] {}) = [0, 0x80, 0, 0x80] ∧
      sentInput (session'.calls ReplyStream.stream input [] {}) =
        sentInput (session.calls ReplyStream.stream input [] {}) := by
  intro cut executable session session' input
  have hok : (session.invoke ReplyStream.stream input [] {}).outcome = .ok ReplyStream.event := by
    decide
  have hok' : (session'.invoke ReplyStream.stream input [] {}).outcome = .ok ReplyStream.event := by
    decide
  have hnone : ∀ element, ¬cut.Crosses session element := by
    rw [← not_exists, exists_crosses_iff]
    rintro ⟨layer, hlayer, -, hdvd, -⟩
    cases hlayer
    exact hdvd (by decide)
  exact ⟨hok, hok', by decide, (sentInput_cut_iff keepsSize_replyStream keepsSize_replyStream rfl
    rfl hok hok').2.1 hnone⟩

/-- A cut inside an element: the first octet of the second part is then taken for the first octet of
    an element. -/
theorem not_sentInput_eq_of_crossed :
    ¬∀ (cut : Cut) (session session' : Session) (input : Bytes) (event event' : EventRecord),
      session.executable.hints = cut.whole →
      session'.executable = { session.executable with hints := cut.parts } →
      (session.invoke ReplyStream.stream input [] {}).outcome = .ok event →
      (session'.invoke ReplyStream.stream input [] {}).outcome = .ok event' →
        sentInput (session'.calls ReplyStream.stream input [] {}) =
          sentInput (session.calls ReplyStream.stream input [] {}) := by
  intro h
  let cut : Cut :=
    { front := [], name := "in", offset := 0, size := 4, back := [], split := 1
      split_le := by decide }
  let executable : Executable :=
    { inputs := [.dense "in" .signedFixedPoint16 1 1 2], hints := cut.whole }
  have hsame := h cut ⟨executable, []⟩ ⟨{ executable with hints := cut.parts }, []⟩ [0, 0, 0, 0]
    ReplyStream.event ReplyStream.event rfl rfl (by decide) (by decide)
  revert hsame
  decide

end

end TensorLink.Session
