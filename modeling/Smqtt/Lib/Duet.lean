import Smqtt.Lib.Interaction
import Smqtt.Lib.Run

/-!
# Two computations that talk to each other

Two interaction trees are joined by a pair of channels, one in each direction, that deliver every
message once and in order. Either party can move whenever its next call can be answered. Moves of
different parties commute, so that every schedule leads to the same end.
-/

namespace Duet

/-- How a call uses the channels: it hands over a message, or takes the next one. -/
inductive Port (μ ρ : Type) where
  | send (message : μ) (answer : ρ)
  | receive (answer : μ → ρ)
  | closed

inductive Side where
  | left
  | right
  deriving DecidableEq

structure State (E : Type) (R : E → Type) (μ α β : Type) where
  left : Interaction E R α
  right : Interaction E R β
  toLeft : List μ
  toRight : List μ

variable {E : Type} {R : E → Type} {μ α β : Type} (port : (e : E) → Port μ (R e))

/-- One move of a party: what it goes on with, what is left for it, and what it hands over. -/
def act (incoming : List μ) : Interaction E R α → Option (Interaction E R α × List μ × List μ)
  | .done _ => none
  | .call e next =>
      match port e, incoming with
      | .send message answer, _ => some (next answer, incoming, [message])
      | .receive answer, message :: rest => some (next (answer message), rest, [])
      | .receive _, [] => none
      | .closed, _ => none

def step (state : State E R μ α β) : Side → Option (State E R μ α β)
  | .left =>
      (act port state.toLeft state.left).map fun (left, toLeft, sent) =>
        { state with left, toLeft, toRight := state.toRight ++ sent }
  | .right =>
      (act port state.toRight state.right).map fun (right, toRight, sent) =>
        { state with right, toRight, toLeft := state.toLeft ++ sent }

variable {port} {state next other : State E R μ α β}

theorem step_left_eq_some : step port state .left = some next ↔ ∃ left toLeft sent,
    act port state.toLeft state.left = some (left, toLeft, sent) ∧
      next = { state with left, toLeft, toRight := state.toRight ++ sent } := by
  simp [step, eq_comm]

theorem step_right_eq_some : step port state .right = some next ↔ ∃ right toRight sent,
    act port state.toRight state.right = some (right, toRight, sent) ∧
      next = { state with right, toRight, toLeft := state.toLeft ++ sent } := by
  simp [step, eq_comm]

/-- Messages that arrive later do not change a move. -/
theorem act_append {incoming rest sent : List μ} {tree tree' : Interaction E R α}
    (hact : act port incoming tree = some (tree', rest, sent)) (more : List μ) :
    act port (incoming ++ more) tree = some (tree', rest ++ more, sent) := by
  cases tree with
  | done value => simp [act] at hact
  | call e next =>
      cases hport : port e with
      | send message answer =>
          simp only [act, hport, Option.some.injEq, Prod.mk.injEq] at hact ⊢
          obtain ⟨rfl, rfl, rfl⟩ := hact
          exact ⟨rfl, rfl, rfl⟩
      | receive answer =>
          cases incoming with
          | nil => simp [act, hport] at hact
          | cons message incoming =>
              simp only [act, hport, Option.some.injEq, Prod.mk.injEq, List.cons_append] at hact ⊢
              obtain ⟨rfl, rfl, rfl⟩ := hact
              exact ⟨rfl, rfl, rfl⟩
      | closed => simp [act, hport] at hact

theorem step_left_right (hleft : step port state .left = some next)
    (hright : step port state .right = some other) :
    ∃ last, step port next .right = some last ∧ step port other .left = some last := by
  obtain ⟨left, toLeft, sentLeft, hactLeft, rfl⟩ := step_left_eq_some.mp hleft
  obtain ⟨right, toRight, sentRight, hactRight, rfl⟩ := step_right_eq_some.mp hright
  refine ⟨⟨left, right, toLeft ++ sentRight, toRight ++ sentLeft⟩, ?_, ?_⟩
  · exact step_right_eq_some.mpr ⟨right, _, sentRight, act_append hactRight sentLeft, rfl⟩
  · exact step_left_eq_some.mpr ⟨left, _, sentLeft, act_append hactLeft sentRight, rfl⟩

/-- Moves of different parties commute. -/
theorem step_commute {a b : Side} (hne : a ≠ b) (ha : step port state a = some next)
    (hb : step port state b = some other) :
    ∃ last, step port next b = some last ∧ step port other a = some last := by
  cases a with
  | left =>
      cases b with
      | left => exact absurd rfl hne
      | right => exact step_left_right ha hb
  | right =>
      cases b with
      | left =>
          obtain ⟨last, hleft, hright⟩ := step_left_right hb ha
          exact ⟨last, hright, hleft⟩
      | right => exact absurd rfl hne

/-- Both parties have finished. -/
def State.Finished (state : State E R μ α β) (left : α) (right : β) : Prop :=
  state.left = .done left ∧ state.right = .done right

theorem State.Finished.step_eq_none {left : α} {right : β} (hfinished : state.Finished left right)
    (side : Side) : step port state side = none := by
  cases side with
  | left => simp [step, hfinished.1, act]
  | right => simp [step, hfinished.2, act]

/-- If some schedule finishes, then every schedule can be continued to the same end, and none is
longer than that one. -/
theorem every_schedule_finishes {schedule : List Side} {final : State E R μ α β} {left : α}
    {right : β} (hrun : Run.exec (step port) state schedule = some final)
    (hfinished : final.Finished left right) {begun : List Side} {middle : State E R μ α β}
    (hbegun : Run.exec (step port) state begun = some middle) :
    ∃ rest, Run.exec (step port) middle rest = some final ∧
      begun.length + rest.length = schedule.length :=
  Run.complete_of_commute (fun _ _ _ _ _ hne ha hb => step_commute hne ha hb) hrun
    hfinished.step_eq_none hbegun

/-! ### What the parties can still do -/

section Future

variable {incoming rest sent : List μ} {tree tree' : Interaction E R α}

theorem act_every {p : E → Prop} (htree : tree.Every p)
    (hact : act port incoming tree = some (tree', rest, sent)) : tree'.Every p := by
  cases tree with
  | done value => simp [act] at hact
  | call e next =>
      cases hport : port e with
      | send message answer =>
          simp only [act, hport, Option.some.injEq, Prod.mk.injEq] at hact
          exact hact.1 ▸ htree.2 answer
      | receive answer =>
          cases incoming with
          | nil => simp [act, hport] at hact
          | cons message incoming =>
              simp only [act, hport, Option.some.injEq, Prod.mk.injEq] at hact
              exact hact.1 ▸ htree.2 (answer message)
      | closed => simp [act, hport] at hact

theorem act_ends {p : α → Prop} (htree : tree.Ends p)
    (hact : act port incoming tree = some (tree', rest, sent)) : tree'.Ends p := by
  cases tree with
  | done value => simp [act] at hact
  | call e next =>
      cases hport : port e with
      | send message answer =>
          simp only [act, hport, Option.some.injEq, Prod.mk.injEq] at hact
          exact hact.1 ▸ htree answer
      | receive answer =>
          cases incoming with
          | nil => simp [act, hport] at hact
          | cons message incoming =>
              simp only [act, hport, Option.some.injEq, Prod.mk.injEq] at hact
              exact hact.1 ▸ htree (answer message)
      | closed => simp [act, hport] at hact

/-- Whatever the left party can end with, it ends with in a conversation. -/
theorem left_ends {p : α → Prop} {schedule : List Side} {final : State E R μ α β}
    (hstart : state.left.Ends p) (hrun : Run.exec (step port) state schedule = some final) :
    final.left.Ends p := by
  refine Run.invariant (fun state : State E R μ α β => state.left.Ends p) ?_ hstart hrun
  intro state side next hinv hstep
  cases side with
  | left =>
      obtain ⟨left, toLeft, sent, hact, rfl⟩ := step_left_eq_some.mp hstep
      exact act_ends hinv hact
  | right =>
      obtain ⟨right, toRight, sent, -, rfl⟩ := step_right_eq_some.mp hstep
      exact hinv

end Future

/-! ### One conversation behind another -/

section AndThen

variable {γ δ : Type} (f : α → Interaction E R γ) (g : β → Interaction E R δ)

/-- Each party goes on with what its computation has come to. -/
def State.andThen (state : State E R μ α β) : State E R μ γ δ where
  left := state.left >>= f
  right := state.right >>= g
  toLeft := state.toLeft
  toRight := state.toRight

theorem act_bind {incoming rest sent : List μ} {tree tree' : Interaction E R α}
    (hact : act port incoming tree = some (tree', rest, sent)) :
    act port incoming (tree >>= f) = some (tree' >>= f, rest, sent) := by
  cases tree with
  | done value => simp [act] at hact
  | call e next =>
      change act port incoming (.call e fun answer => next answer >>= f) = _
      cases hport : port e with
      | send message answer =>
          simp only [act, hport, Option.some.injEq, Prod.mk.injEq] at hact ⊢
          obtain ⟨rfl, hrest, hsent⟩ := hact
          exact ⟨rfl, hrest, hsent⟩
      | receive answer =>
          cases incoming with
          | nil => simp [act, hport] at hact
          | cons message incoming =>
              simp only [act, hport, Option.some.injEq, Prod.mk.injEq] at hact ⊢
              obtain ⟨rfl, hrest, hsent⟩ := hact
              exact ⟨rfl, hrest, hsent⟩
      | closed => simp [act, hport] at hact

theorem step_andThen {side : Side} (hstep : step port state side = some next) :
    step port (state.andThen f g) side = some (next.andThen f g) := by
  cases side with
  | left =>
      obtain ⟨left, toLeft, sent, hact, rfl⟩ := step_left_eq_some.mp hstep
      exact step_left_eq_some.mpr ⟨_, _, _, act_bind f hact, rfl⟩
  | right =>
      obtain ⟨right, toRight, sent, hact, rfl⟩ := step_right_eq_some.mp hstep
      exact step_right_eq_some.mpr ⟨_, _, _, act_bind g hact, rfl⟩

theorem exec_andThen {schedule : List Side} {final : State E R μ α β}
    (hrun : Run.exec (step port) state schedule = some final) :
    Run.exec (step port) (state.andThen f g) schedule = some (final.andThen f g) := by
  induction schedule generalizing state with
  | nil =>
      obtain rfl : state = final := by simpa using hrun
      rfl
  | cons side schedule ih =>
      obtain ⟨next, hstep, hrest⟩ := Run.exec_cons_eq_some.mp hrun
      exact Run.exec_cons_eq_some.mpr ⟨_, step_andThen f g hstep, ih hrest⟩

end AndThen

end Duet
