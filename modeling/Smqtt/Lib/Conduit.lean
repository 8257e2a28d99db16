import Smqtt.Lib.Duet

/-!
# Messages in a stream

The two channels of a conversation, carried by streams of smaller units. A message that can be told
from whatever stands behind it is taken off the stream as it was put there, and so the conversation
over streams makes the same moves as the one over messages.
-/

namespace Duet

/-- How a message is written, and how one is taken off a stream, if it is there. -/
structure Codec (μ υ : Type) where
  encode : μ → List υ
  decode : List υ → Option (μ × List υ)
  decode_nil : decode [] = none

namespace Codec

variable {μ υ : Type} (codec : Codec μ υ)

/-- The message ends where it ends, whatever stands behind it. -/
def Delimits (message : μ) : Prop :=
  ∀ behind, codec.decode (codec.encode message ++ behind) = some (message, behind)

def stream (messages : List μ) : List υ := messages.flatMap codec.encode

variable {codec}

@[simp]
theorem stream_nil : codec.stream [] = [] := rfl

@[simp]
theorem stream_cons (message : μ) (messages : List μ) :
    codec.stream (message :: messages) = codec.encode message ++ codec.stream messages := rfl

@[simp]
theorem stream_append (left right : List μ) :
    codec.stream (left ++ right) = codec.stream left ++ codec.stream right :=
  List.flatMap_append

theorem decode_stream_cons {message : μ} (hmessage : codec.Delimits message) (messages : List μ) :
    codec.decode (codec.stream (message :: messages)) = some (message, codec.stream messages) :=
  hmessage (codec.stream messages)

end Codec

variable {E : Type} {R : E → Type} {μ υ α β : Type} (port : (e : E) → Port μ (R e))
  (codec : Codec μ υ)

/-- One move of a party over a stream. -/
def streamAct (incoming : List υ) :
    Interaction E R α → Option (Interaction E R α × List υ × List υ)
  | .done _ => none
  | .call e next =>
      match port e with
      | .send message answer => some (next answer, incoming, codec.encode message)
      | .receive answer =>
          (codec.decode incoming).map fun (message, rest) => (next (answer message), rest, [])
      | .closed => none

def streamStep (state : State E R υ α β) : Side → Option (State E R υ α β)
  | .left =>
      (streamAct port codec state.toLeft state.left).map fun (left, toLeft, sent) =>
        { state with left, toLeft, toRight := state.toRight ++ sent }
  | .right =>
      (streamAct port codec state.toRight state.right).map fun (right, toRight, sent) =>
        { state with right, toRight, toLeft := state.toLeft ++ sent }

/-- The same parties, with their messages in streams. -/
def State.streamed (state : State E R μ α β) : State E R υ α β where
  left := state.left
  right := state.right
  toLeft := codec.stream state.toLeft
  toRight := codec.stream state.toRight

/-- What the call sends can be told from what stands behind it. -/
def SendsDelimited (e : E) : Prop :=
  ∀ message answer, port e = .send message answer → codec.Delimits message

/-- All messages that are on their way, or can still be sent, can be told apart. -/
structure State.Delimited (state : State E R μ α β) : Prop where
  left : state.left.Every (SendsDelimited port codec)
  right : state.right.Every (SendsDelimited port codec)
  toLeft : ∀ message ∈ state.toLeft, codec.Delimits message
  toRight : ∀ message ∈ state.toRight, codec.Delimits message

variable {port codec} {state next : State E R μ α β}

theorem streamAct_stream {incoming : List μ} {tree : Interaction E R α}
    (hincoming : ∀ message ∈ incoming, codec.Delimits message) :
    streamAct port codec (codec.stream incoming) tree
      = (act port incoming tree).map fun (tree', rest, sent) =>
          (tree', codec.stream rest, codec.stream sent) := by
  cases tree with
  | done value => rfl
  | call e next =>
      cases hport : port e with
      | send message answer => simp [streamAct, act, hport]
      | receive answer =>
          cases incoming with
          | nil => simp [streamAct, act, hport, codec.decode_nil]
          | cons message incoming =>
              have hread := Codec.decode_stream_cons (List.forall_mem_cons.mp hincoming).1 incoming
              simp [streamAct, act, hport, hread, -Codec.stream_cons]
      | closed => simp [streamAct, act, hport]

/-- What a party takes off its channel, and what it hands over. -/
theorem act_delimited {incoming rest sent : List μ} {tree tree' : Interaction E R α}
    (htree : tree.Every (SendsDelimited port codec))
    (hincoming : ∀ message ∈ incoming, codec.Delimits message)
    (hact : act port incoming tree = some (tree', rest, sent)) :
    (∀ message ∈ rest, codec.Delimits message) ∧ ∀ message ∈ sent, codec.Delimits message := by
  cases tree with
  | done value => simp [act] at hact
  | call e next =>
      cases hport : port e with
      | send message answer =>
          simp only [act, hport, Option.some.injEq, Prod.mk.injEq] at hact
          obtain ⟨-, rfl, rfl⟩ := hact
          exact ⟨hincoming, List.forall_mem_singleton.mpr (htree.1 message answer hport)⟩
      | receive answer =>
          cases incoming with
          | nil => simp [act, hport] at hact
          | cons message incoming =>
              simp only [act, hport, Option.some.injEq, Prod.mk.injEq] at hact
              obtain ⟨-, rfl, rfl⟩ := hact
              exact ⟨(List.forall_mem_cons.mp hincoming).2, by simp⟩
      | closed => simp [act, hport] at hact

theorem State.Delimited.step {side : Side} (hstate : state.Delimited port codec)
    (hstep : step port state side = some next) : next.Delimited port codec := by
  cases side with
  | left =>
      obtain ⟨left, toLeft, sent, hact, rfl⟩ := step_left_eq_some.mp hstep
      obtain ⟨hrest, hsent⟩ := act_delimited hstate.left hstate.toLeft hact
      exact ⟨act_every hstate.left hact, hstate.right, hrest,
        List.forall_mem_append.mpr ⟨hstate.toRight, hsent⟩⟩
  | right =>
      obtain ⟨right, toRight, sent, hact, rfl⟩ := step_right_eq_some.mp hstep
      obtain ⟨hrest, hsent⟩ := act_delimited hstate.right hstate.toRight hact
      exact ⟨hstate.left, act_every hstate.right hact,
        List.forall_mem_append.mpr ⟨hstate.toLeft, hsent⟩, hrest⟩

theorem streamStep_streamed (side : Side) (hstate : state.Delimited port codec) :
    streamStep port codec (state.streamed codec) side
      = (Duet.step port state side).map (State.streamed codec) := by
  cases side with
  | left =>
      change (streamAct port codec (codec.stream state.toLeft) state.left).map _ = _
      rw [streamAct_stream hstate.toLeft, Option.map_map, Duet.step, Option.map_map]
      congr 1
      funext moved
      obtain ⟨left, toLeft, sent⟩ := moved
      simp [State.streamed]
  | right =>
      change (streamAct port codec (codec.stream state.toRight) state.right).map _ = _
      rw [streamAct_stream hstate.toRight, Option.map_map, Duet.step, Option.map_map]
      congr 1
      funext moved
      obtain ⟨right, toRight, sent⟩ := moved
      simp [State.streamed]

/-- **Streams carry conversations.** If all messages can be told apart, the runs over streams are the
runs over messages. -/
theorem exec_streamed {schedule : List Side} (hstate : state.Delimited port codec) :
    Run.exec (streamStep port codec) (state.streamed codec) schedule
      = (Run.exec (step port) state schedule).map (State.streamed codec) := by
  induction schedule generalizing state with
  | nil => rfl
  | cons side schedule ih =>
      rw [Run.exec, Run.exec, streamStep_streamed side hstate]
      cases hstep : step port state side with
      | none => rfl
      | some next => exact ih (hstate.step hstep)

/-- What holds of every schedule of the messages holds of every schedule over streams. -/
theorem every_schedule_finishes_streamed (hstate : state.Delimited port codec)
    {schedule : List Side} {final : State E R μ α β} {left : α} {right : β}
    (hrun : Run.exec (step port) state schedule = some final) (hfinished : final.Finished left right)
    {begun : List Side} {middle : State E R υ α β}
    (hbegun : Run.exec (streamStep port codec) (state.streamed codec) begun = some middle) :
    ∃ rest, Run.exec (streamStep port codec) middle rest = some (final.streamed codec) ∧
      begun.length + rest.length = schedule.length := by
  have hmessages := @exec_streamed _ _ _ _ _ _ port codec state begun hstate
  rw [hbegun] at hmessages
  obtain ⟨middle', hmiddle, -⟩ := Option.map_eq_some_iff.mp hmessages.symm
  obtain ⟨rest, hrest, hlength⟩ := every_schedule_finishes hrun hfinished hmiddle
  have hwhole : Run.exec (step port) state (begun ++ rest) = some final :=
    Run.exec_append_eq_some.mpr ⟨middle', hmiddle, hrest⟩
  have hstreams := @exec_streamed _ _ _ _ _ _ port codec state (begun ++ rest) hstate
  rw [hwhole, Option.map_some, Run.exec_append_eq_some] at hstreams
  obtain ⟨other, hother, hfinish⟩ := hstreams
  obtain rfl := Option.some.inj (hbegun.symm.trans hother)
  exact ⟨rest, hfinish, hlength⟩

end Duet
