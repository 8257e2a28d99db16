import Mathlib

/-!
# Runs of a labelled step function

A system is a partial step function: a label names the step and supplies what the environment
chooses, and a label that is not enabled gives no successor. A run is a list of labels.
-/

namespace Run

variable {σ ℓ : Type*} (step : σ → ℓ → Option σ)

def exec : σ → List ℓ → Option σ
  | state, [] => some state
  | state, label :: labels => (step state label).bind fun next => exec next labels

/-- Every step of the run meets a condition on the state before it and its label. -/
def Along (allowed : σ → ℓ → Prop) : σ → List ℓ → Prop
  | _, [] => True
  | state, label :: labels =>
      allowed state label ∧
        match step state label with
        | none => True
        | some next => Along allowed next labels

instance decidableAlong {allowed : σ → ℓ → Prop}
    [hdecide : ∀ state label, Decidable (allowed state label)] :
    ∀ state labels, Decidable (Along step allowed state labels)
  | _, [] => .isTrue trivial
  | state, label :: labels =>
      have : Decidable (match step state label with
          | none => True
          | some next => Along step allowed next labels) :=
        match step state label with
        | none => .isTrue trivial
        | some next => decidableAlong next labels
      inferInstanceAs (Decidable (allowed state label ∧
        match step state label with
        | none => True
        | some next => Along step allowed next labels))

variable {step}

theorem Along.tail {allowed : σ → ℓ → Prop} {state next : σ} {label : ℓ} {labels : List ℓ}
    (halong : Along step allowed state (label :: labels)) (hstep : step state label = some next) :
    Along step allowed next labels := by
  have hrest := halong.2
  rwa [hstep] at hrest

theorem along_of_forall {allowed : ℓ → Prop} {labels : List ℓ}
    (hallowed : ∀ label ∈ labels, allowed label) (state : σ) :
    Along step (fun _ label => allowed label) state labels := by
  induction labels generalizing state with
  | nil => trivial
  | cons label labels ih =>
      obtain ⟨hlabel, hrest⟩ := List.forall_mem_cons.mp hallowed
      refine ⟨hlabel, ?_⟩
      cases hstep : step state label with
      | none => trivial
      | some next => exact ih hrest next

@[simp]
theorem exec_nil (state : σ) : exec step state [] = some state := rfl

theorem exec_cons_eq_some {state final : σ} {label : ℓ} {labels : List ℓ} :
    exec step state (label :: labels) = some final ↔
      ∃ next, step state label = some next ∧ exec step next labels = some final := by
  simp [exec, Option.bind_eq_some_iff]

theorem exec_append_eq_some {state final : σ} {left right : List ℓ} :
    exec step state (left ++ right) = some final ↔
      ∃ middle, exec step state left = some middle ∧ exec step middle right = some final := by
  induction left generalizing state with
  | nil => simp
  | cons label left ih =>
      simp only [List.cons_append, exec_cons_eq_some, ih]
      constructor
      · rintro ⟨next, hstep, middle, hleft, hright⟩
        exact ⟨middle, ⟨next, hstep, hleft⟩, hright⟩
      · rintro ⟨middle, ⟨next, hstep, hleft⟩, hright⟩
        exact ⟨next, hstep, middle, hleft, hright⟩

theorem exec_singleton {state : σ} {label : ℓ} : exec step state [label] = step state label := by
  simp [exec]

/-- **Invariant rule.** What holds at the start and survives every step holds in every state a run
reaches. -/
theorem invariant (Inv : σ → Prop)
    (hpreserve : ∀ state label next, Inv state → step state label = some next → Inv next)
    {state final : σ} {labels : List ℓ} (hstart : Inv state)
    (hrun : exec step state labels = some final) : Inv final := by
  induction labels generalizing state with
  | nil =>
      obtain rfl : state = final := by simpa using hrun
      exact hstart
  | cons label labels ih =>
      obtain ⟨next, hstep, hrest⟩ := exec_cons_eq_some.mp hrun
      exact ih (hpreserve state label next hstart hstep) hrest

/-- The invariant rule for runs whose steps all meet a condition. -/
theorem invariant_along {allowed : σ → ℓ → Prop} (Inv : σ → Prop)
    (hpreserve : ∀ state label next, Inv state → allowed state label →
      step state label = some next → Inv next)
    {state final : σ} {labels : List ℓ} (hstart : Inv state)
    (halong : Along step allowed state labels)
    (hrun : exec step state labels = some final) : Inv final := by
  induction labels generalizing state with
  | nil =>
      obtain rfl : state = final := by simpa using hrun
      exact hstart
  | cons label labels ih =>
      obtain ⟨next, hstep, hrest⟩ := exec_cons_eq_some.mp hrun
      exact ih (hpreserve state label next hstart halong.1 hstep) (halong.tail hstep) hrest

/-- Where a step out of a good state is good exactly if it is allowed, and nothing becomes good again,
a run ends well exactly if it begins well and all its steps are allowed. -/
theorem good_iff_along {allowed : σ → ℓ → Prop} {Inv Good : σ → Prop} {labels : List ℓ}
    (hpreserve : ∀ state label next, Inv state → step state label = some next → Inv next)
    (hgood : ∀ state, ∀ label ∈ labels, ∀ next, Inv state → step state label = some next →
      (Good next ↔ Good state ∧ allowed state label))
    {state final : σ} (hstart : Inv state) (hrun : exec step state labels = some final) :
    Good final ↔ Good state ∧ Along step allowed state labels := by
  induction labels generalizing state with
  | nil =>
      obtain rfl : state = final := by simpa using hrun
      simp [Along]
  | cons label labels ih =>
      obtain ⟨next, hstep, hrest⟩ := exec_cons_eq_some.mp hrun
      have hhead := hgood state label List.mem_cons_self next hstart hstep
      have htail := ih (fun state label hmem => hgood state label (List.mem_cons_of_mem _ hmem))
        (hpreserve state label next hstart hstep) hrest
      rw [htail, hhead, and_assoc]
      simp only [Along, hstep]

/-- Where a fair step out of a good state goes through, and goes wrong exactly if it is not allowed,
all states on the way are good exactly if all steps are allowed. -/
theorem prefixes_good_iff_along {possible allowed : σ → ℓ → Prop} {Inv Good : σ → Prop}
    (hgood : ∀ state, Inv state → Good state)
    (hkeep : ∀ state label, Inv state → possible state label → allowed state label →
      ∃ next, step state label = some next ∧ Inv next)
    (hlose : ∀ state label next, Inv state → ¬ allowed state label →
      step state label = some next → ¬ Good next)
    {start : σ} {labels : List ℓ} (hstart : Inv start)
    (hpossible : Along step possible start labels) :
    (∀ done, done <+: labels → ∃ state, exec step start done = some state ∧ Good state) ↔
      Along step allowed start labels := by
  induction labels generalizing start with
  | nil =>
      refine ⟨fun _ => trivial, fun _ done hdone => ?_⟩
      obtain rfl := List.prefix_nil.mp hdone
      exact ⟨start, rfl, hgood start hstart⟩
  | cons label labels ih =>
      by_cases hallowed : allowed start label
      · obtain ⟨next, hstep, hnext⟩ := hkeep start label hstart hpossible.1 hallowed
        have halong :
            Along step allowed start (label :: labels) ↔ Along step allowed next labels := by
          simp [Along, hallowed, hstep]
        rw [halong, ← ih hnext (hpossible.tail hstep)]
        constructor
        · intro hall done hdone
          obtain ⟨state, hrun, hstate⟩ :=
            hall (label :: done) (List.cons_prefix_cons.mpr ⟨rfl, hdone⟩)
          obtain ⟨next', hstep', hdone'⟩ := exec_cons_eq_some.mp hrun
          obtain rfl := Option.some.inj (hstep.symm.trans hstep')
          exact ⟨state, hdone', hstate⟩
        · intro hall done hdone
          cases done with
          | nil => exact ⟨start, rfl, hgood start hstart⟩
          | cons first done =>
              obtain ⟨rfl, hrest⟩ := List.cons_prefix_cons.mp hdone
              obtain ⟨state, hrun, hstate⟩ := hall done hrest
              exact ⟨state, exec_cons_eq_some.mpr ⟨next, hstep, hrun⟩, hstate⟩
      · refine iff_of_false (fun hall => ?_) fun halong => hallowed halong.1
        obtain ⟨state, hrun, hstate⟩ :=
          hall [label] (List.cons_prefix_cons.mpr ⟨rfl, List.nil_prefix⟩)
        exact hlose start label state hstart hallowed (exec_singleton.symm.trans hrun) hstate

/-- What is allowed in a run is allowed in its rest. -/
theorem Along.drop {allowed : σ → ℓ → Prop} {state middle : σ} {left right : List ℓ}
    (halong : Along step allowed state (left ++ right))
    (hleft : exec step state left = some middle) : Along step allowed middle right := by
  induction left generalizing state with
  | nil =>
      obtain rfl : state = middle := by simpa using hleft
      exact halong
  | cons label left ih =>
      obtain ⟨next, hstep, hrest⟩ := exec_cons_eq_some.mp hleft
      exact ih (halong.tail hstep) hrest

/-- Two conditions that come to the same wherever the run has met one of them so far. -/
theorem along_congr {left right : σ → ℓ → Prop} (Inv : σ → Prop)
    (hiff : ∀ state label, Inv state → (left state label ↔ right state label))
    (hpreserve : ∀ state label next, Inv state → right state label →
      step state label = some next → Inv next)
    {state : σ} {labels : List ℓ} (hstart : Inv state) :
    Along step left state labels ↔ Along step right state labels := by
  induction labels generalizing state with
  | nil => exact Iff.rfl
  | cons label labels ih =>
      simp only [Along, hiff state label hstart]
      refine and_congr_right fun hallowed => ?_
      cases hstep : step state label with
      | none => exact Iff.rfl
      | some next => exact ih (hpreserve state label next hstart hallowed hstep)

/-- **Projection rule.** If a part of the state makes a step of its own, or none, with every step of
the whole, a run of the whole is a run of the part. -/
theorem exec_project {τ κ : Type*} {whole : τ → κ → Option τ} (part : τ → σ)
    (hpart : ∀ state label next, whole state label = some next →
      part next = part state ∨ ∃ action, step (part state) action = some (part next))
    {state final : τ} {labels : List κ} (hrun : exec whole state labels = some final) :
    ∃ actions, exec step (part state) actions = some (part final) := by
  induction labels generalizing state with
  | nil =>
      obtain rfl : state = final := by simpa using hrun
      exact ⟨[], rfl⟩
  | cons label labels ih =>
      obtain ⟨next, hstep, hrest⟩ := exec_cons_eq_some.mp hrun
      obtain ⟨actions, hactions⟩ := ih hrest
      obtain hsame | ⟨action, haction⟩ := hpart state label next hstep
      · exact ⟨actions, hsame ▸ hactions⟩
      · exact ⟨action :: actions, exec_cons_eq_some.mpr ⟨part next, haction, hactions⟩⟩

/-! ### Runs with their past -/

/-- Of every step of a run that is taken or tried: what was done before it, the state it starts in
and its label. -/
def Throughout (step : σ → ℓ → Option σ) (property : List ℓ → σ → ℓ → Prop) (start : σ)
    (labels : List ℓ) : Prop :=
  ∀ before label after state, labels = before ++ label :: after →
    exec step start before = some state → property before state label

/-- What is seen of a run, step by step. -/
def observe {ω : Type*} (step : σ → ℓ → Option σ) (see : σ → ℓ → σ → List ω) : σ → List ℓ → List ω
  | _, [] => []
  | state, label :: labels =>
      match step state label with
      | none => []
      | some next => see state label next ++ observe step see next labels

theorem observe_append_singleton {ω : Type*} {see : σ → ℓ → σ → List ω} {start state next : σ}
    {labels : List ℓ} {label : ℓ} (hrun : exec step start labels = some state)
    (hstep : step state label = some next) :
    observe step see start (labels ++ [label])
      = observe step see start labels ++ see state label next := by
  induction labels generalizing start with
  | nil =>
      obtain rfl : start = state := by simpa using hrun
      simp [observe, hstep]
  | cons first labels ih =>
      obtain ⟨middle, hfirst, hrest⟩ := exec_cons_eq_some.mp hrun
      simp only [List.cons_append, observe, hfirst, List.append_assoc]
      rw [ih hrest]

/-- What is seen of a run whose steps all meet a condition, as long as an invariant holds. -/
theorem forall_mem_observe {ω : Type*} {see : σ → ℓ → σ → List ω} {allowed : σ → ℓ → Prop}
    {good : ω → Prop} (Inv : σ → Prop)
    (hpreserve : ∀ state label next, Inv state → allowed state label →
      step state label = some next → Inv next)
    (hgood : ∀ state label next, Inv state → ∀ seen ∈ see state label next, good seen)
    {state : σ} {labels : List ℓ} (hstart : Inv state) (halong : Along step allowed state labels) :
    ∀ seen ∈ observe step see state labels, good seen := by
  induction labels generalizing state with
  | nil => simp [observe]
  | cons label labels ih =>
      cases hstep : step state label with
      | none => simp [observe, hstep]
      | some next =>
          intro seen hmem
          simp only [observe, hstep, List.mem_append] at hmem
          obtain hhere | hlater := hmem
          · exact hgood state label next hstart seen hhere
          · have hnext := hpreserve state label next hstart halong.1 hstep
            exact ih hnext (halong.tail hstep) seen hlater

/-- The invariant rule for what relates a state to its past and to what was seen of it. -/
theorem invariant_observed {ω : Type*} {see : σ → ℓ → σ → List ω} (Inv : List ℓ → List ω → σ → Prop)
    {start : σ} (hstart : Inv [] [] start)
    (hpreserve : ∀ before seen state label next, Inv before seen state →
      step state label = some next → Inv (before ++ [label]) (seen ++ see state label next) next)
    {labels : List ℓ} {final : σ} (hrun : exec step start labels = some final) :
    Inv labels (observe step see start labels) final := by
  induction labels using List.reverseRecOn generalizing final with
  | nil =>
      obtain rfl : start = final := by simpa using hrun
      exact hstart
  | append_singleton labels label ih =>
      obtain ⟨state, hbefore, hlast⟩ := exec_append_eq_some.mp hrun
      rw [exec_singleton] at hlast
      rw [observe_append_singleton hbefore hlast]
      exact hpreserve labels _ state label final (ih hbefore) hlast

/-- The invariant rule for what relates a state to the labels that led to it. -/
theorem invariant_past (Inv : List ℓ → σ → Prop) {start : σ} (hstart : Inv [] start)
    (hpreserve : ∀ before state label next, Inv before state → step state label = some next →
      Inv (before ++ [label]) next)
    {labels : List ℓ} {final : σ} (hrun : exec step start labels = some final) :
    Inv labels final :=
  @invariant_observed _ _ step Unit (fun _ _ _ => []) (fun before _ state => Inv before state) _
    hstart (fun before _ => hpreserve before) _ _ hrun

/-- Properties that come to the same in every state a run reaches. -/
theorem throughout_congr (Inv : List ℓ → σ → Prop) {left right : List ℓ → σ → ℓ → Prop} {start : σ}
    (hinv : ∀ before state, exec step start before = some state → Inv before state)
    (hiff : ∀ before state label, Inv before state →
      (left before state label ↔ right before state label)) (labels : List ℓ) :
    Throughout step left start labels ↔ Throughout step right start labels := by
  constructor
  · intro hleft before label after state heq hexec
    exact (hiff before state label (hinv before state hexec)).mp
      (hleft before label after state heq hexec)
  · intro hright before label after state heq hexec
    exact (hiff before state label (hinv before state hexec)).mpr
      (hright before label after state heq hexec)

/-! ### Progress -/

section Progress

variable {own : ℓ → Bool} {rank : σ → Nat} {Inv Goal : σ → Prop}

/-- A measure that falls with every step of a kind, and never rises, bounds how many of them a run can
have. -/
theorem rank_add_count_le
    (hpreserve : ∀ state label next, Inv state → step state label = some next → Inv next)
    (hrank : ∀ state label next, Inv state → step state label = some next →
      rank next + (own label).toNat ≤ rank state)
    {state final : σ} {labels : List ℓ} (hstart : Inv state)
    (hrun : exec step state labels = some final) :
    rank final + labels.countP own ≤ rank state := by
  induction labels generalizing state with
  | nil =>
      obtain rfl : state = final := by simpa using hrun
      simp
  | cons label labels ih =>
      obtain ⟨next, hstep, hrest⟩ := exec_cons_eq_some.mp hrun
      have hfirst := hrank state label next hstart hstep
      have hlater := ih (hpreserve state label next hstart hstep) hrest
      rw [List.countP_cons]
      cases hown : own label <;> simp only [hown, Bool.toNat_true, Bool.toNat_false] at hfirst <;>
        simp <;> omega

/-- **Ranking rule.** If short of the goal every step of a kind lowers the measure and no other step
raises it, the goal is reached when as many of them have been taken as the measure says. -/
theorem goal_of_rank_le
    (hpreserve : ∀ state label next, Inv state → step state label = some next → Inv next)
    (hkeep : ∀ state label next, Inv state → Goal state → step state label = some next → Goal next)
    (hzero : ∀ state, Inv state → rank state = 0 → Goal state)
    (hrank : ∀ state label next, Inv state → step state label = some next →
      Goal next ∨ rank next + (own label).toNat ≤ rank state)
    {state final : σ} {labels : List ℓ} (hstart : Inv state)
    (hrun : exec step state labels = some final) (henough : rank state ≤ labels.countP own) :
    Goal final := by
  have hstays : ∀ labels state, Inv state → Goal state → exec step state labels = some final →
      Goal final := by
    intro labels state hinv hgoal hrun
    refine (invariant (fun state => Inv state ∧ Goal state) ?_ ⟨hinv, hgoal⟩ hrun).2
    intro state label next hboth hstep
    exact ⟨hpreserve state label next hboth.1 hstep, hkeep state label next hboth.1 hboth.2 hstep⟩
  induction labels generalizing state with
  | nil =>
      obtain rfl : state = final := by simpa using hrun
      exact hzero state hstart (by simpa using henough)
  | cons label labels ih =>
      obtain ⟨next, hstep, hrest⟩ := exec_cons_eq_some.mp hrun
      have hnext := hpreserve state label next hstart hstep
      obtain hgoal | hfalls := hrank state label next hstart hstep
      · exact hstays labels next hnext hgoal hrest
      · apply ih hnext hrest
        rw [List.countP_cons] at henough
        cases hown : own label <;> simp only [hown, Bool.toNat_true, Bool.toNat_false] at hfalls <;>
          simp [hown] at henough <;> omega

end Progress

/-! ### Labels that commute -/

section Commute

variable (hcommute : ∀ state left right next other, left ≠ right →
  step state left = some next → step state right = some other →
    ∃ last, step next right = some last ∧ step other left = some last)

include hcommute

/-- A run to a state without successors survives a step out of turn. -/
theorem exec_of_step {state next final : σ} {label : ℓ} {labels : List ℓ}
    (hrun : exec step state labels = some final) (hfinal : ∀ label, step final label = none)
    (hstep : step state label = some next) :
    ∃ rest, exec step next rest = some final ∧ rest.length + 1 = labels.length := by
  induction labels generalizing state next with
  | nil =>
      obtain rfl : state = final := by simpa using hrun
      simp [hfinal label] at hstep
  | cons first labels ih =>
      obtain ⟨middle, hfirst, hrest⟩ := exec_cons_eq_some.mp hrun
      by_cases heq : first = label
      · subst heq
        obtain rfl : middle = next := Option.some.inj (hfirst.symm.trans hstep)
        exact ⟨labels, hrest, rfl⟩
      · obtain ⟨last, hmiddle, hnext⟩ := hcommute _ _ _ _ _ heq hfirst hstep
        obtain ⟨rest, hrun, hlength⟩ := ih hrest hmiddle
        exact ⟨first :: rest, exec_cons_eq_some.mpr ⟨last, hnext, hrun⟩, by simp [hlength]⟩

/-- If one run ends in a state without successors, every run can be continued to that state. -/
theorem complete_of_commute {state middle final : σ} {labels begun : List ℓ}
    (hrun : exec step state labels = some final) (hfinal : ∀ label, step final label = none)
    (hbegun : exec step state begun = some middle) :
    ∃ rest, exec step middle rest = some final ∧ begun.length + rest.length = labels.length := by
  induction begun generalizing state labels with
  | nil =>
      obtain rfl : state = middle := by simpa using hbegun
      exact ⟨labels, hrun, by simp⟩
  | cons label begun ih =>
      obtain ⟨next, hstep, hrest⟩ := exec_cons_eq_some.mp hbegun
      obtain ⟨others, hothers, hcount⟩ := exec_of_step hcommute hrun hfinal hstep
      obtain ⟨rest, hfinish, hlength⟩ := ih hothers hrest
      refine ⟨rest, hfinish, ?_⟩
      rw [List.length_cons]
      omega

end Commute

end Run
