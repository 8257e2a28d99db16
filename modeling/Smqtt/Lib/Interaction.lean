import Mathlib

/-!
# Interaction trees

A computation that consults its environment is a finite tree: it has either finished with a value,
or it makes a call and continues with whatever the environment answers. The same tree is read in
several ways: against a fixed table of answers, against an environment with a state of its own, or
only for the calls it makes on the way.
-/

/-- A computation that makes calls `e : E`, each answered by an element of `R e`. -/
inductive Interaction (E : Type) (R : E → Type) (α : Type) where
  | done (value : α)
  | call (e : E) (next : R e → Interaction E R α)

namespace Interaction

variable {E : Type} {R : E → Type} {α β σ : Type}

def bind : Interaction E R α → (α → Interaction E R β) → Interaction E R β
  | done value, f => f value
  | call e next, f => call e fun answer => (next answer).bind f

instance : Monad (Interaction E R) where
  pure := done
  bind := bind

/-- One call, whose answer is the result. -/
def ask (e : E) : Interaction E R (R e) := call e done

/-! ### A fixed table of answers -/

def eval (answer : (e : E) → R e) : Interaction E R α → α
  | done value => value
  | call e next => (next (answer e)).eval answer

/-- The calls made on the way, in order. -/
def calls (answer : (e : E) → R e) : Interaction E R α → List E
  | done _ => []
  | call e next => e :: (next (answer e)).calls answer

section Eval

variable (answer : (e : E) → R e)

@[simp]
theorem eval_pure (value : α) : (pure value : Interaction E R α).eval answer = value := rfl

@[simp]
theorem eval_ask (e : E) : (ask e : Interaction E R (R e)).eval answer = answer e := rfl

@[simp]
theorem eval_bind (tree : Interaction E R α) (f : α → Interaction E R β) :
    (tree >>= f).eval answer = (f (tree.eval answer)).eval answer := by
  change (tree.bind f).eval answer = _
  induction tree with
  | done value => rfl
  | call e next ih => exact ih (answer e)

@[simp]
theorem eval_map (tree : Interaction E R α) (f : α → β) :
    (f <$> tree).eval answer = f (tree.eval answer) :=
  eval_bind answer tree fun value => pure (f value)

@[simp]
theorem eval_ite (condition : Prop) [Decidable condition] (left right : Interaction E R α) :
    (if condition then left else right).eval answer
      = if condition then left.eval answer else right.eval answer :=
  apply_ite (eval answer) condition left right

@[simp]
theorem calls_pure (value : α) : (pure value : Interaction E R α).calls answer = [] := rfl

@[simp]
theorem calls_ask (e : E) : (ask e : Interaction E R (R e)).calls answer = [e] := rfl

@[simp]
theorem calls_bind (tree : Interaction E R α) (f : α → Interaction E R β) :
    (tree >>= f).calls answer = tree.calls answer ++ (f (tree.eval answer)).calls answer := by
  change (tree.bind f).calls answer = _
  induction tree with
  | done value => rfl
  | call e next ih => exact congrArg (e :: ·) (ih (answer e))

@[simp]
theorem calls_ite (condition : Prop) [Decidable condition] (left right : Interaction E R α) :
    (if condition then left else right).calls answer
      = if condition then left.calls answer else right.calls answer :=
  apply_ite (calls answer) condition left right

end Eval

/-- Against the table the computation makes these calls and ends with this value. -/
structure Takes (answer : (e : E) → R e) (tree : Interaction E R α) (calls : List E) (value : α) :
    Prop where
  calls : tree.calls answer = calls
  eval : tree.eval answer = value

section Takes

variable {answer : (e : E) → R e} {tree : Interaction E R α} {calls : List E}

theorem takes_pure (value : α) : Takes answer (pure value : Interaction E R α) [] value := ⟨rfl, rfl⟩

theorem takes_ask_bind {e : E} {f : R e → Interaction E R α} {value : α}
    (hnext : Takes answer (f (answer e)) calls value) :
    Takes answer (ask e >>= f) (e :: calls) value :=
  ⟨congrArg (e :: ·) hnext.calls, hnext.eval⟩

theorem Takes.bind {f : α → Interaction E R β} {value : α} {more : List E} {last : β}
    (htree : Takes answer tree calls value) (hnext : Takes answer (f value) more last) :
    Takes answer (tree >>= f) (calls ++ more) last := by
  refine ⟨?_, ?_⟩
  · rw [calls_bind, htree.calls, htree.eval, hnext.calls]
  · rw [eval_bind, htree.eval, hnext.eval]

theorem takes_if_pos {condition : Prop} [Decidable condition] {other : Interaction E R α} {value : α}
    (hcondition : condition) (htree : Takes answer tree calls value) :
    Takes answer (if condition then tree else other) calls value := by
  rwa [if_pos hcondition]

theorem takes_if_neg {condition : Prop} [Decidable condition] {other : Interaction E R α} {value : α}
    (hcondition : ¬ condition) (htree : Takes answer tree calls value) :
    Takes answer (if condition then other else tree) calls value := by
  rwa [if_neg hcondition]

end Takes

/-! ### An environment with a state -/

def run (handler : σ → (e : E) → R e × σ) : Interaction E R α → σ → α × σ
  | done value, state => (value, state)
  | call e next, state => (next (handler state e).1).run handler (handler state e).2

section Run

variable (handler : σ → (e : E) → R e × σ)

@[simp]
theorem run_pure (value : α) (state : σ) :
    (pure value : Interaction E R α).run handler state = (value, state) := rfl

@[simp]
theorem run_ask (e : E) (state : σ) :
    (ask e : Interaction E R (R e)).run handler state = handler state e := rfl

@[simp]
theorem run_bind (tree : Interaction E R α) (f : α → Interaction E R β) (state : σ) :
    (tree >>= f).run handler state
      = (f (tree.run handler state).1).run handler (tree.run handler state).2 := by
  change (tree.bind f).run handler state = _
  induction tree generalizing state with
  | done value => rfl
  | call e next ih => exact ih (handler state e).1 (handler state e).2

@[simp]
theorem run_ite (condition : Prop) [Decidable condition] (left right : Interaction E R α)
    (state : σ) :
    (if condition then left else right).run handler state
      = if condition then left.run handler state else right.run handler state := by
  split <;> rfl

end Run

/-- An environment that answers by the calls made before, which it remembers. -/
def respond (answer : List E → (e : E) → R e) (history : List E) (e : E) : R e × List E :=
  (answer history e, history ++ [e])

theorem prefix_run_respond (answer : List E → (e : E) → R e) (tree : Interaction E R α)
    (history : List E) : history <+: (tree.run (respond answer) history).2 := by
  induction tree generalizing history with
  | done value => exact List.prefix_rfl
  | call e next ih =>
      exact (List.prefix_append history [e]).trans (ih (answer history e) (history ++ [e]))

/-- A table of answers is an environment that takes no notice of what was called before. -/
theorem run_respond_table (answer : (e : E) → R e) (tree : Interaction E R α) (history : List E) :
    tree.run (respond fun _ => answer) history
      = (tree.eval answer, history ++ tree.calls answer) := by
  induction tree generalizing history with
  | done value => simp [run, eval, calls]
  | call e next ih =>
      rw [run, eval, calls, List.append_cons]
      exact ih (answer e) (history ++ [e])

/-! ### Every call -/

/-- Every call that can be made, whatever the ones before it are answered. -/
def Every (p : E → Prop) : Interaction E R α → Prop
  | done _ => True
  | call e next => p e ∧ ∀ answer, (next answer).Every p

section Every

variable {p : E → Prop}

theorem every_pure (value : α) : (pure value : Interaction E R α).Every p := trivial

theorem every_ask_bind {e : E} {f : R e → Interaction E R α} (hcall : p e)
    (hnext : ∀ answer, (f answer).Every p) : (ask e >>= f).Every p :=
  ⟨hcall, hnext⟩

theorem Every.run {tree : Interaction E R α} (htree : tree.Every p)
    (answer : List E → (e : E) → R e) (history : List E) :
    ∀ e ∈ (tree.run (respond answer) history).2, e ∈ history ∨ p e := by
  induction tree generalizing history with
  | done value => exact fun e hmem => .inl hmem
  | call first next ih =>
      intro e hmem
      obtain hbefore | hcall := ih (answer history first) (htree.2 _) (history ++ [first]) e hmem
      · obtain hold | hfirst := List.mem_append.mp hbefore
        · exact .inl hold
        · exact .inr (List.mem_singleton.mp hfirst ▸ htree.1)
      · exact .inr hcall

theorem Every.mono {q : E → Prop} {tree : Interaction E R α} (htree : tree.Every p)
    (himplies : ∀ e, p e → q e) : tree.Every q := by
  induction tree with
  | done value => exact trivial
  | call e next ih => exact ⟨himplies e htree.1, fun answer => ih answer (htree.2 answer)⟩

theorem Every.bind {tree : Interaction E R α} {f : α → Interaction E R β} (htree : tree.Every p)
    (hnext : ∀ value, (f value).Every p) : (tree >>= f).Every p := by
  change (tree.bind f).Every p
  induction tree with
  | done value => exact hnext value
  | call e next ih => exact ⟨htree.1, fun answer => ih answer (htree.2 answer)⟩

end Every

/-! ### Every outcome -/

/-- Every value that the computation can end with, whatever it is answered. -/
def Ends (p : α → Prop) : Interaction E R α → Prop
  | done value => p value
  | call _ next => ∀ answer, (next answer).Ends p

theorem ends_ask_bind {p : α → Prop} {e : E} {f : R e → Interaction E R α}
    (hnext : ∀ answer, (f answer).Ends p) : (ask e >>= f).Ends p :=
  hnext

/-! ### Every trace -/

/-- Every value that the computation can end with, and the calls and answers that lead to it. -/
def Leads (p : List (Σ e, R e) → α → Prop) : Interaction E R α → Prop
  | done value => p [] value
  | call e next => ∀ answer, (next answer).Leads fun trace value => p (⟨e, answer⟩ :: trace) value

section Leads

variable {p : List (Σ e, R e) → α → Prop} {tree : Interaction E R α}

theorem leads_pure {value : α} (hvalue : p [] value) :
    (pure value : Interaction E R α).Leads p :=
  hvalue

theorem leads_ask_bind {e : E} {f : R e → Interaction E R α}
    (hnext : ∀ answer, (f answer).Leads fun trace value => p (⟨e, answer⟩ :: trace) value) :
    (ask e >>= f).Leads p :=
  hnext

theorem Leads.mono {q : List (Σ e, R e) → α → Prop} (htree : tree.Leads p)
    (himplies : ∀ trace value, p trace value → q trace value) : tree.Leads q := by
  induction tree generalizing p q with
  | done value => exact himplies [] value htree
  | call e next ih => exact fun answer => ih answer (htree answer) fun _ _ => himplies _ _

theorem Leads.and {q : List (Σ e, R e) → α → Prop} (hp : tree.Leads p) (hq : tree.Leads q) :
    tree.Leads fun trace value => p trace value ∧ q trace value := by
  induction tree generalizing p q with
  | done value => exact ⟨hp, hq⟩
  | call e next ih => exact fun answer => ih answer (hp answer) (hq answer)

theorem Leads.bind {q : List (Σ e, R e) → β → Prop} {f : α → Interaction E R β}
    (htree : tree.Leads p)
    (hnext : ∀ trace value, p trace value → (f value).Leads fun more last => q (trace ++ more) last) :
    (tree >>= f).Leads q := by
  change (tree.bind f).Leads q
  induction tree generalizing p q with
  | done value => exact hnext [] value htree
  | call e next ih => exact fun answer => ih answer (htree answer) fun _ _ => hnext _ _

/-- What every trace leads to, an environment that answers by the calls before is led to. -/
theorem Leads.run (htree : tree.Leads p) (answer : List E → (e : E) → R e) (history : List E) :
    ∃ trace, (tree.run (respond answer) history).2 = history ++ trace.map Sigma.fst ∧
      p trace (tree.run (respond answer) history).1 := by
  induction tree generalizing p history with
  | done value => exact ⟨[], (List.append_nil history).symm, htree⟩
  | call e next ih =>
      obtain ⟨trace, hcalls, hvalue⟩ := ih _ (htree (answer history e)) (history ++ [e])
      exact ⟨⟨e, answer history e⟩ :: trace, hcalls.trans (List.append_assoc ..), hvalue⟩

end Leads

/-! ### Two computations in step -/

/-- The same calls, whatever is answered, and related values in the end. -/
inductive Related (rel : α → β → Prop) : Interaction E R α → Interaction E R β → Prop
  | done {left : α} {right : β} (hrel : rel left right) : Related rel (done left) (done right)
  | call (e : E) {left : R e → Interaction E R α} {right : R e → Interaction E R β}
      (hnext : ∀ answer, Related rel (left answer) (right answer)) :
      Related rel (call e left) (call e right)

section Related

variable {γ δ : Type} {rel : α → β → Prop} {left : Interaction E R α} {right : Interaction E R β}

theorem related_pure {left : α} {right : β} (hrel : rel left right) :
    Related rel (pure left : Interaction E R α) (pure right) :=
  .done hrel

theorem related_ask_bind {e : E} {left : R e → Interaction E R α} {right : R e → Interaction E R β}
    (hnext : ∀ answer, Related rel (left answer) (right answer)) :
    Related rel (ask e >>= left) (ask e >>= right) :=
  .call e hnext

theorem Related.bind {rel' : γ → δ → Prop} {f : α → Interaction E R γ} {g : β → Interaction E R δ}
    (hrelated : Related rel left right)
    (hnext : ∀ value other, rel value other → Related rel' (f value) (g other)) :
    Related rel' (left >>= f) (right >>= g) := by
  change Related rel' (left.bind f) (right.bind g)
  induction hrelated with
  | done hrel => exact hnext _ _ hrel
  | call e _ ih => exact .call e ih

theorem Related.run (hrelated : Related rel left right) (handler : σ → (e : E) → R e × σ)
    (state : σ) :
    rel (left.run handler state).1 (right.run handler state).1 ∧
      (left.run handler state).2 = (right.run handler state).2 := by
  induction hrelated generalizing state with
  | done hrel => exact ⟨hrel, rfl⟩
  | call e _ ih => exact ih _ _

theorem Related.eval (hrelated : Related rel left right) (answer : (e : E) → R e) :
    rel (left.eval answer) (right.eval answer) := by
  induction hrelated with
  | done hrel => exact hrel
  | call e _ ih => exact ih _

theorem Related.calls (hrelated : Related rel left right) (answer : (e : E) → R e) :
    left.calls answer = right.calls answer := by
  induction hrelated with
  | done _ => rfl
  | call e _ ih => exact congrArg (e :: ·) (ih _)

end Related

/-! ### An environment that can fail -/

/-- A handler without an answer ends the computation there. -/
def execute (handler : σ → (e : E) → Option (R e × σ)) : Interaction E R α → σ → Option (α × σ)
  | done value, state => some (value, state)
  | call e next, state =>
      (handler state e).bind fun answered => (next answered.1).execute handler answered.2

section Execute

variable {handler : σ → (e : E) → Option (R e × σ)}

@[simp]
theorem execute_pure (value : α) (state : σ) :
    (pure value : Interaction E R α).execute handler state = some (value, state) := rfl

theorem execute_pure_bind (value : α) (f : α → Interaction E R β) (state : σ) :
    (pure value >>= f).execute handler state = (f value).execute handler state := rfl

theorem execute_ask_bind (e : E) (f : R e → Interaction E R α) (state : σ) :
    (ask e >>= f).execute handler state
      = (handler state e).bind fun answered => (f answered.1).execute handler answered.2 := rfl

theorem execute_bind (tree : Interaction E R α) (f : α → Interaction E R β) (state : σ) :
    (tree >>= f).execute handler state
      = (tree.execute handler state).bind fun result => (f result.1).execute handler result.2 := by
  change (tree.bind f).execute handler state = _
  induction tree generalizing state with
  | done value => rfl
  | call e next ih =>
      change (handler state e).bind _ = ((handler state e).bind _).bind _
      rw [Option.bind_assoc]
      exact congrArg _ (funext fun answered => ih answered.1 answered.2)

/-- A computation that only returns something else afterwards fails where the first one does. -/
theorem execute_bind_pure_eq_none (tree : Interaction E R α) (f : α → β) (state : σ) :
    (tree >>= fun value => pure (f value)).execute handler state = none ↔
      tree.execute handler state = none := by
  rw [execute_bind]
  cases tree.execute handler state with
  | none => simp
  | some result => simp

/-- The trace is what the handler answers from one state to another. -/
def Played (handler : σ → (e : E) → Option (R e × σ)) : σ → List (Σ e, R e) → σ → Prop
  | state, [], last => state = last
  | state, ⟨e, answer⟩ :: trace, last =>
      ∃ next, handler state e = some (answer, next) ∧ Played handler next trace last

variable {p : List (Σ e, R e) → α → Prop} {tree : Interaction E R α} {state : σ}

theorem Leads.exists_trace [hnonempty : ∀ e, Nonempty (R e)] (htree : tree.Leads p) :
    ∃ trace value, p trace value := by
  induction tree generalizing p with
  | done value => exact ⟨[], value, htree⟩
  | call e next ih =>
      obtain ⟨answer⟩ := hnonempty e
      obtain ⟨trace, value, hvalue⟩ := ih answer (htree answer)
      exact ⟨⟨e, answer⟩ :: trace, value, hvalue⟩

/-- **Progress and preservation.** If the handler answers every call of every trace that it has
answered up to there, then the computation ends, at the end of one of the traces. -/
theorem Leads.exists_execute [hnonempty : ∀ e, Nonempty (R e)] (htree : tree.Leads p)
    (hanswers : ∀ trace value, p trace value → ∀ left e answer right,
      trace = left ++ ⟨e, answer⟩ :: right → ∀ middle, Played handler state left middle →
        (handler middle e).isSome) :
    ∃ trace value last, tree.execute handler state = some (value, last) ∧ p trace value ∧
      Played handler state trace last := by
  induction tree generalizing p state with
  | done value => exact ⟨[], value, state, rfl, htree, rfl⟩
  | call e next ih =>
      obtain ⟨answer⟩ := hnonempty e
      obtain ⟨trace, value, hvalue⟩ := (htree answer).exists_trace
      obtain ⟨⟨answer, middle⟩, hanswer⟩ :=
        Option.isSome_iff_exists.mp (hanswers _ value hvalue [] e _ trace rfl state rfl)
      obtain ⟨trace, value, last, hexecute, hvalue, hplayed⟩ := ih answer (htree answer)
        fun trace value hvalue left e' answer' right heq last hplayed =>
          hanswers _ value hvalue (⟨e, answer⟩ :: left) e' answer' right (congrArg (_ :: ·) heq) last
            ⟨middle, hanswer, hplayed⟩
      refine ⟨⟨e, answer⟩ :: trace, value, last, ?_, hvalue, middle, hanswer, hplayed⟩
      change (handler state e).bind _ = _
      rw [hanswer]
      exact hexecute

end Execute

end Interaction
