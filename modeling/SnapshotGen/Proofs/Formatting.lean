import SnapshotGen.Formatter
import SnapshotGen.Proofs.Filter.Exchange

/-!
Formatting a text with a program that copies: what comes back, and which texts never do.
-/

namespace SnapshotGen

namespace Filter

theorem toList_loop (bytes : ByteArray) (place : Nat) (done : Bytes) :
    ByteArray.toList.loop bytes place done = done.reverse ++ bytes.data.toList.drop place := by
  fun_induction ByteArray.toList.loop bytes place done with
  | case1 place done inside ih =>
    have inside : place < bytes.data.toList.length := inside
    rw [ih, List.drop_eq_getElem_cons inside]
    simp [ByteArray.get!, getElem!_pos bytes.data place inside]
  | case2 place done outside =>
    have outside : bytes.data.toList.length ≤ place := Nat.le_of_not_lt outside
    rw [List.drop_eq_nil_of_le outside, List.append_nil]

theorem ofText_eq (text : String) : ofText text = text.toByteArray.data.toList := by
  simp [ofText, String.toUTF8, ByteArray.toList, toList_loop]

theorem ofText_ofList (cs : List Char) :
    ofText (String.ofList cs) = cs.flatMap String.utf8EncodeChar := by
  rw [ofText_eq, String.toByteArray_ofList, List.utf8Encode, List.toList_data_toByteArray]

theorem length_ofText (text : String) : (ofText text).length = text.utf8ByteSize := by
  rw [ofText_eq]
  rfl

theorem fromUTF8?_ofText (text : String) :
    String.fromUTF8? ⟨(ofText text).toArray⟩ = some text := by
  rw [ofText_eq]
  exact dif_pos text.isValidUTF8

end Filter

namespace Formatter

open SnapshotGen.Filter Exchange

theorem apply_of_copies {formatter : Formatter} {programs : String → Option Process}
    {sizes : Sizes} {filter : Filter} {text path : String}
    (found : programs formatter.command = some (.copying sizes filter))
    (copies : filter (formatter.argsFor path) (ofText text) = .done (ofText text)) :
    formatter.apply programs text path =
      if sizes.total < (ofText text).length then none else some (.ok text) := by
  by_cases long : sizes.total < (ofText text).length
  · simp [apply, found, Process.copying, copies, Outcome.done, long]
  · simp [apply, found, Process.copying, copies, Outcome.done, long, result, Ending.isSuccess,
      fromUTF8?_ofText]

/-- With a filter that copies, formatting returns just if the exchange can, and what it gives then
is what the caller has received. -/
theorem apply_returns_iff {formatter : Formatter} {programs : String → Option Process}
    {sizes : Sizes} {filter : Filter} {text path : String}
    (found : programs formatter.command = some (.copying sizes filter))
    (copies : filter (formatter.argsFor path) (ofText text) = .done (ofText text)) :
    ((formatter.apply programs text path).isSome ↔
        ∃ state, Reachable sizes (ofText text) state ∧ state.caller = .returned) ∧
      ∀ formatted, formatter.apply programs text path = some (.ok formatted) →
        ∀ state, Reachable sizes (ofText text) state → state.caller = .returned →
          state.received = ofText formatted := by
  rw [apply_of_copies found copies, exists_returned_iff]
  by_cases long : sizes.total < (ofText text).length
  · simp [long, Nat.not_le.mpr long]
  · simp only [if_neg long, Option.isSome_some, true_iff, Option.some.injEq, Except.ok.injEq]
    refine ⟨Nat.le_of_not_lt long, ?_⟩
    rintro _ rfl state reachable returned
    exact received_of_returned reachable.sound returned

/-- Whatever is done first, the exchange goes on until the caller returns exactly where the text
fits into the two pipes and the buffer. With all other texts it comes to a jam and never returns. -/
theorem exchange_goes_on_iff (sizes : Sizes) (text : String) :
    ((∀ state, Reachable sizes (ofText text) state → state.caller ≠ .returned →
        ∃ next, Step sizes state next) ↔ text.utf8ByteSize ≤ sizes.total) ∧
      ((∃ state, Reachable sizes (ofText text) state ∧ Jammed sizes state) ↔
        sizes.total < text.utf8ByteSize) ∧
      ((∃ state, Reachable sizes (ofText text) state ∧ state.caller = .returned) ↔
        text.utf8ByteSize ≤ sizes.total) := by
  rw [← length_ofText]
  exact ⟨forall_exists_step_iff, exists_jammed_iff, exists_returned_iff⟩

/-- A long text is stuck between a caller and a filter on a Linux system. -/
theorem long_text_gets_stuck :
    ∃ state, Reachable Sizes.usual (ofText (String.ofList (List.replicate 300000 'x'))) state ∧
      state.caller ≠ .returned ∧ Jammed Sizes.usual state ∧
      ¬ ∃ next, Step Sizes.usual state next := by
  have size : (ofText (String.ofList (List.replicate 300000 'x'))).length = 300000 := by
    rw [ofText_ofList, List.length_flatMap, List.map_replicate, List.sum_replicate_nat]
    rfl
  have long : Sizes.usual.total < (ofText (String.ofList (List.replicate 300000 'x'))).length := by
    rw [size]
    decide
  obtain ⟨state, reachable, jammed⟩ := exists_jammed_iff.2 long
  exact ⟨state, reachable, jammed.caller_ne, jammed, fun ⟨_, step⟩ => jammed.not_step step⟩

end Formatter

end SnapshotGen
