import Mathlib.Logic.Relation
import SnapshotGen.Filter.Exchange

/-!
An exchange loses no byte, comes to an end, and is stuck only where both pipes and the buffer are
full.
-/

namespace SnapshotGen.Filter.Exchange

variable {sizes : Sizes} {source : Bytes} {state next : State}

structure Sound (sizes : Sizes) (source : Bytes) (state : State) : Prop where
  bytes : state.received ++ state.pipeOut ++ state.held ++ state.pipeIn ++ state.caller.unsent =
    source
  pipeIn_le : state.pipeIn.length ≤ sizes.pipeIn
  held_le : state.held.length ≤ sizes.buffer
  pipeOut_le : state.pipeOut.length ≤ sizes.pipeOut
  unread : state.caller.isWriting = true → state.received = []
  passed : state.caller.isWriting = false → source.length ≤ sizes.total
  ended : state.hasEnded = true →
    state.caller.isWriting = false ∧ state.pipeIn = [] ∧ state.held = []
  emptied : state.caller = .returned → state.hasEnded = true ∧ state.pipeOut = []

theorem sound_start : Sound sizes source (start source) where
  bytes := rfl
  pipeIn_le := Nat.zero_le _
  held_le := Nat.zero_le _
  pipeOut_le := Nat.zero_le _
  unread _ := rfl
  passed reading := nomatch reading
  ended isOver := nomatch isOver
  emptied returned := nomatch returned

/-- What is sent when the caller has written everything stands in the pipes and the buffer. -/
theorem Sound.length_le (sound : Sound sizes source state) (written : state.caller = .writing []) :
    source.length ≤ sizes.total := by
  have unread : state.received = [] := sound.unread (by rw [written]; rfl)
  have bytes := congrArg List.length sound.bytes
  simp only [unread, written, Caller.unsent, List.length_append, List.length_nil] at bytes
  have := sound.pipeIn_le
  have := sound.held_le
  have := sound.pipeOut_le
  simp only [Sizes.total]
  omega

theorem Sound.step (sound : Sound sizes source state) (step : Step sizes state next) :
    Sound sizes source next := by
  cases step with
  | write isPiece writing room =>
    have isWriting : state.caller.isWriting = true := by rw [writing]; rfl
    exact
      { sound with
        bytes := by simpa [writing, Caller.unsent] using sound.bytes
        pipeIn_le := room
        unread := fun _ => sound.unread isWriting
        passed := fun reading => nomatch reading
        ended := fun isOver => by simpa [isWriting] using sound.ended isOver
        emptied := fun returned => nomatch returned }
  | close written =>
    exact
      { sound with
        bytes := by simpa [written, Caller.unsent] using sound.bytes
        unread := fun writing => nomatch writing
        passed := fun _ => sound.length_le written
        ended := fun isOver => ⟨rfl, (sound.ended isOver).2⟩
        emptied := fun returned => nomatch returned }
  | @take piece left isPiece sent room =>
    have bytes := sound.bytes
    have pipeIn_le := sound.pipeIn_le
    rw [sent] at bytes pipeIn_le
    exact
      { sound with
        bytes := by simpa using bytes
        pipeIn_le := Nat.le_trans (List.sublist_append_right piece left).length_le pipeIn_le
        held_le := room
        ended := fun isOver => by simpa [sent, isPiece] using (sound.ended isOver).2.1 }
  | @put piece left isPiece held room =>
    have bytes := sound.bytes
    have held_le := sound.held_le
    rw [held] at bytes held_le
    exact
      { sound with
        bytes := by simpa using bytes
        held_le := Nat.le_trans (List.sublist_append_right piece left).length_le held_le
        pipeOut_le := room
        ended := fun isOver => by simpa [held, isPiece] using (sound.ended isOver).2.2
        emptied := fun returned => by
          simpa [held, isPiece] using (sound.ended (sound.emptied returned).1).2.2 }
  | finish _ closed noneSent noneHeld =>
    exact
      { sound with
        ended := fun _ => ⟨closed, noneSent, noneHeld⟩
        emptied := fun returned => ⟨rfl, (sound.emptied returned).2⟩ }
  | @read piece left isPiece reading written =>
    have bytes := sound.bytes
    have pipeOut_le := sound.pipeOut_le
    rw [written] at bytes pipeOut_le
    exact
      { sound with
        bytes := by simpa using bytes
        pipeOut_le := Nat.le_trans (List.sublist_append_right piece left).length_le pipeOut_le
        unread := fun writing => by simp [reading, Caller.isWriting] at writing
        emptied := fun returned => by simp [reading] at returned }
  | leave reading isOver empty =>
    exact
      { sound with
        bytes := by simpa [reading, Caller.unsent] using sound.bytes
        unread := fun writing => nomatch writing
        passed := fun _ => sound.passed (by rw [reading]; rfl)
        ended := fun isOver => ⟨rfl, (sound.ended isOver).2⟩
        emptied := fun _ => ⟨isOver, empty⟩ }

def Reachable (sizes : Sizes) (source : Bytes) : State → Prop :=
  Relation.ReflTransGen (Step sizes) (start source)

theorem Sound.run {final : State} (sound : Sound sizes source state)
    (run : Relation.ReflTransGen (Step sizes) state final) : Sound sizes source final := by
  induction run with
  | refl => exact sound
  | tail _ step sound => exact sound.step step

theorem Reachable.sound (reachable : Reachable sizes source state) : Sound sizes source state :=
  sound_start.run reachable

/-- The caller waits for room in the pipe to the filter, and the filter for room in the pipe
back. -/
structure Jammed (sizes : Sizes) (state : State) : Prop where
  writing : ∃ unsent, state.caller = .writing unsent ∧ unsent ≠ []
  pipeIn_full : state.pipeIn.length = sizes.pipeIn
  held_full : state.held.length = sizes.buffer
  pipeOut_full : state.pipeOut.length = sizes.pipeOut

theorem no_room_of_full {bytes piece : Bytes} {size : Nat} (full : bytes.length = size)
    (isPiece : piece ≠ []) : ¬ (bytes ++ piece).length ≤ size := by
  have := List.length_pos_iff.2 isPiece
  rw [List.length_append]
  omega

theorem Jammed.not_step (jammed : Jammed sizes state) : ¬ Step sizes state next := by
  obtain ⟨⟨unsent, writing, nonempty⟩, pipeIn_full, held_full, pipeOut_full⟩ := jammed
  intro step
  cases step with
  | write isPiece _ room => exact no_room_of_full pipeIn_full isPiece room
  | close written => exact nonempty (Caller.writing.inj (writing.symm.trans written))
  | take isPiece _ room => exact no_room_of_full held_full isPiece room
  | put isPiece _ room => exact no_room_of_full pipeOut_full isPiece room
  | finish _ closed => simp [writing, Caller.isWriting] at closed
  | read _ reading => simp [writing] at reading
  | leave reading => simp [writing] at reading

theorem Jammed.caller_ne (jammed : Jammed sizes state) : state.caller ≠ .returned := by
  obtain ⟨unsent, writing, -⟩ := jammed.writing
  simp [writing]

theorem length_le_of_room {bytes : Bytes} {byte : UInt8} {size : Nat} (room : bytes.length < size) :
    (bytes ++ [byte]).length ≤ size := by
  rw [List.length_append]
  exact room

theorem Sound.step_or_jammed_of_writing (sound : Sound sizes source state) {unsent : Bytes}
    (writing : state.caller = .writing unsent) :
    (∃ next, Step sizes state next) ∨ Jammed sizes state := by
  -- The first place on the way of the bytes that has room gives the step.
  by_cases written : unsent = []
  · exact .inl ⟨_, .close (written ▸ writing)⟩
  by_cases pipeIn_room : state.pipeIn.length < sizes.pipeIn
  · obtain ⟨byte, rest, rfl⟩ := List.exists_cons_of_ne_nil written
    exact .inl ⟨_, .write (List.cons_ne_nil byte []) writing (length_le_of_room pipeIn_room)⟩
  by_cases held_room : state.held.length < sizes.buffer
  · have nonempty : state.pipeIn ≠ [] := by
      have := sizes.pipeIn_pos
      exact List.length_pos_iff.1 (by omega)
    obtain ⟨byte, rest, sent⟩ := List.exists_cons_of_ne_nil nonempty
    exact .inl ⟨_, .take (List.cons_ne_nil byte []) sent (length_le_of_room held_room)⟩
  by_cases pipeOut_room : state.pipeOut.length < sizes.pipeOut
  · have nonempty : state.held ≠ [] := by
      have := sizes.buffer_pos
      exact List.length_pos_iff.1 (by omega)
    obtain ⟨byte, rest, held⟩ := List.exists_cons_of_ne_nil nonempty
    exact .inl ⟨_, .put (List.cons_ne_nil byte []) held (length_le_of_room pipeOut_room)⟩
  exact .inr
    { writing := ⟨unsent, writing, written⟩
      pipeIn_full := Nat.le_antisymm sound.pipeIn_le (Nat.le_of_not_lt pipeIn_room)
      held_full := Nat.le_antisymm sound.held_le (Nat.le_of_not_lt held_room)
      pipeOut_full := Nat.le_antisymm sound.pipeOut_le (Nat.le_of_not_lt pipeOut_room) }

theorem exists_step_of_reading (reading : state.caller = .reading) :
    ∃ next, Step sizes state next := by
  -- Here the bytes nearest to the caller give the step.
  by_cases written : state.pipeOut = []
  case neg => exact ⟨_, .read written reading (List.append_nil _).symm⟩
  cases isOver : state.hasEnded with
  | true => exact ⟨_, .leave reading isOver written⟩
  | false =>
    by_cases held : state.held = []
    case neg =>
      obtain ⟨byte, rest, held⟩ := List.exists_cons_of_ne_nil held
      exact ⟨_, .put (List.cons_ne_nil byte []) held (by rw [written]; exact sizes.pipeOut_pos)⟩
    by_cases sent : state.pipeIn = []
    case neg =>
      obtain ⟨byte, rest, sent⟩ := List.exists_cons_of_ne_nil sent
      exact ⟨_, .take (List.cons_ne_nil byte []) sent (by rw [held]; exact sizes.buffer_pos)⟩
    exact ⟨_, .finish isOver (by rw [reading]; rfl) sent held⟩

theorem Sound.step_or_jammed (sound : Sound sizes source state)
    (running : state.caller ≠ .returned) :
    (∃ next, Step sizes state next) ∨ Jammed sizes state := by
  cases caller : state.caller with
  | writing unsent => exact sound.step_or_jammed_of_writing caller
  | reading => exact .inl (exists_step_of_reading caller)
  | returned => exact absurd caller running

def Caller.work : Caller → Nat
  | .writing unsent => 4 * unsent.length + 2
  | .reading => 1
  | .returned => 0

def State.work (state : State) : Nat :=
  state.caller.work + 3 * state.pipeIn.length + 2 * state.held.length + state.pipeOut.length +
    if state.hasEnded then 0 else 1

theorem work_lt (step : Step sizes state next) : next.work < state.work := by
  cases step with
  | write isPiece writing _ =>
    have := List.length_pos_iff.2 isPiece
    simp only [State.work, Caller.work, writing, List.length_append]
    omega
  | close written => simp only [State.work, Caller.work, written, List.length_nil]; omega
  | take isPiece sent _ =>
    have := List.length_pos_iff.2 isPiece
    simp only [State.work, sent, List.length_append]
    omega
  | put isPiece held _ =>
    have := List.length_pos_iff.2 isPiece
    simp only [State.work, held, List.length_append]
    omega
  | finish running _ _ _ =>
    simp only [State.work, running, if_true, Bool.false_eq_true, if_false]
    omega
  | read isPiece _ written =>
    have := List.length_pos_iff.2 isPiece
    simp only [State.work, written, List.length_append]
    omega
  | leave reading _ _ => simp only [State.work, Caller.work, reading]; omega

/-- From everywhere an exchange goes on to its end or to a jam. -/
theorem Sound.exists_final (sound : Sound sizes source state) :
    ∃ final, Relation.ReflTransGen (Step sizes) state final ∧
      (final.caller = .returned ∨ Jammed sizes final) := by
  induction work : state.work using Nat.strongRecOn generalizing state with
  | ind n ih =>
    by_cases returned : state.caller = .returned
    · exact ⟨state, .refl, .inl returned⟩
    rcases sound.step_or_jammed returned with ⟨next, step⟩ | jammed
    · obtain ⟨final, run, ends⟩ := ih next.work (work ▸ work_lt step) (sound.step step) rfl
      exact ⟨final, run.head step, ends⟩
    · exact ⟨state, .refl, .inr jammed⟩

theorem Sound.length_gt (sound : Sound sizes source state) (jammed : Jammed sizes state) :
    sizes.total < source.length := by
  obtain ⟨⟨unsent, writing, nonempty⟩, pipeIn_full, held_full, pipeOut_full⟩ := jammed
  have unread : state.received = [] := sound.unread (by rw [writing]; rfl)
  have bytes := congrArg List.length sound.bytes
  simp only [unread, writing, Caller.unsent, List.length_append, List.length_nil] at bytes
  have := List.length_pos_iff.2 nonempty
  simp only [Sizes.total]
  omega

/-- The caller never comes to read a text that is too long. -/
theorem Sound.isWriting (sound : Sound sizes source state) (long : sizes.total < source.length) :
    state.caller.isWriting = true := by
  cases writing : state.caller.isWriting with
  | true => rfl
  | false => exact absurd (sound.passed writing) (Nat.not_le_of_lt long)

theorem received_of_returned (sound : Sound sizes source state)
    (returned : state.caller = .returned) : state.received = source := by
  obtain ⟨isOver, noneWritten⟩ := sound.emptied returned
  obtain ⟨-, noneSent, noneHeld⟩ := sound.ended isOver
  simpa [noneWritten, noneSent, noneHeld, returned, Caller.unsent] using sound.bytes

/-- A text that fits comes back whole, whatever has been done so far. -/
theorem Reachable.exists_returned (reachable : Reachable sizes source state)
    (fits : source.length ≤ sizes.total) :
    ∃ final, Relation.ReflTransGen (Step sizes) state final ∧ final.caller = .returned ∧
      final.received = source := by
  obtain ⟨final, run, ends⟩ := reachable.sound.exists_final
  have sound := reachable.sound.run run
  rcases ends with returned | jammed
  · exact ⟨final, run, returned, received_of_returned sound returned⟩
  · exact absurd (sound.length_gt jammed) (Nat.not_lt_of_le fits)

/-- A text that is too long comes to a jam, whatever has been done so far. -/
theorem Reachable.exists_jammed (reachable : Reachable sizes source state)
    (long : sizes.total < source.length) :
    ∃ final, Relation.ReflTransGen (Step sizes) state final ∧ Jammed sizes final := by
  obtain ⟨final, run, ends⟩ := reachable.sound.exists_final
  rcases ends with returned | jammed
  · have writing := (reachable.sound.run run).isWriting long
    simp [returned, Caller.isWriting] at writing
  · exact ⟨final, run, jammed⟩

theorem exists_returned_iff :
    (∃ state, Reachable sizes source state ∧ state.caller = .returned) ↔
      source.length ≤ sizes.total := by
  constructor
  · rintro ⟨state, reachable, returned⟩
    exact reachable.sound.passed (by rw [returned]; rfl)
  · intro fits
    obtain ⟨final, run, returned, -⟩ := Reachable.exists_returned .refl fits
    exact ⟨final, run, returned⟩

theorem exists_jammed_iff :
    (∃ state, Reachable sizes source state ∧ Jammed sizes state) ↔
      sizes.total < source.length := by
  constructor
  · rintro ⟨state, reachable, jammed⟩
    exact reachable.sound.length_gt jammed
  · exact Reachable.exists_jammed .refl

theorem forall_exists_step_iff :
    (∀ state, Reachable sizes source state → state.caller ≠ .returned →
      ∃ next, Step sizes state next) ↔ source.length ≤ sizes.total := by
  constructor
  · intro goesOn
    refine Nat.le_of_not_lt fun long => ?_
    obtain ⟨state, reachable, jammed⟩ := exists_jammed_iff.2 long
    obtain ⟨next, step⟩ := goesOn state reachable jammed.caller_ne
    exact jammed.not_step step
  · intro fits state reachable running
    refine (reachable.sound.step_or_jammed running).resolve_right fun jammed => ?_
    exact absurd (reachable.sound.length_gt jammed) (Nat.not_lt_of_le fits)

end SnapshotGen.Filter.Exchange
