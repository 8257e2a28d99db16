import Mathlib

/-!
# A desk that matches answers with tickets

Every request leaves a ticket: a serial number and the answer it waits for. A peer owes an answer
for each request that has been sent to it. An answer that arrives is matched with the first ticket
that waits for it. Some answers finish their ticket; others renew it, so that it waits for a second
answer, which the peer owes from then on.
-/

namespace Desk

variable {ρ : Type}

/-- What the desk is doing with an answer. -/
inductive Turn (ρ : Type) where
  | idle
  | arrived (answer : ρ)
  | holding (serial : Nat) (answer next : ρ)
  | returning (serial : Nat) (next : ρ)

/-- `issued` and `received` are all tickets and answers there have been, and `served` the matches. -/
structure State (ρ : Type) where
  issued : List (Nat × ρ)
  waiting : List (Nat × ρ)
  unsent : List ρ
  owed : List ρ
  turn : Turn ρ
  received : List ρ
  served : List (Nat × ρ)

inductive Step [DecidableEq ρ] (renew : ρ → Option ρ) : State ρ → State ρ → Prop
  | stay (desk : State ρ) : Step renew desk desk
  | issue {desk : State ρ} {serial : Nat} {answer : ρ}
      (hfresh : serial ∉ desk.issued.map Prod.fst) :
      Step renew desk
        { desk with
          issued := desk.issued ++ [(serial, answer)]
          waiting := desk.waiting ++ [(serial, answer)]
          unsent := desk.unsent ++ [answer] }
  | send {desk : State ρ} {answer : ρ} {rest : List ρ} (hunsent : desk.unsent = answer :: rest) :
      Step renew desk { desk with unsent := rest, owed := desk.owed ++ [answer] }
  | receive {desk : State ρ} {answer : ρ} (hturn : desk.turn = .idle) (howed : answer ∈ desk.owed) :
      Step renew desk
        { desk with
          owed := desk.owed.erase answer
          turn := .arrived answer
          received := desk.received ++ [answer] }
  | finish {desk : State ρ} {serial : Nat} {answer : ρ} {left right : List (Nat × ρ)}
      (hturn : desk.turn = .arrived answer)
      (hwaiting : desk.waiting = left ++ (serial, answer) :: right)
      (hfirst : ∀ ticket ∈ left, ticket.2 ≠ answer) (hrenew : renew answer = none) :
      Step renew desk
        { desk with
          waiting := left ++ right
          turn := .idle
          served := desk.served ++ [(serial, answer)] }
  | hold {desk : State ρ} {serial : Nat} {answer next : ρ} {left right : List (Nat × ρ)}
      (hturn : desk.turn = .arrived answer)
      (hwaiting : desk.waiting = left ++ (serial, answer) :: right)
      (hfirst : ∀ ticket ∈ left, ticket.2 ≠ answer) (hrenew : renew answer = some next) :
      Step renew desk
        { desk with waiting := left ++ right, turn := .holding serial answer next }
  | miss {desk : State ρ} {answer : ρ} (hturn : desk.turn = .arrived answer)
      (hwaiting : ∀ ticket ∈ desk.waiting, ticket.2 ≠ answer) :
      Step renew desk { desk with turn := .idle }
  | release {desk : State ρ} {serial : Nat} {answer next : ρ}
      (hturn : desk.turn = .holding serial answer next) :
      Step renew desk
        { desk with
          owed := desk.owed ++ [next]
          turn := .returning serial next
          served := desk.served ++ [(serial, answer)] }
  | return {desk : State ρ} {serial : Nat} {next : ρ} (hturn : desk.turn = .returning serial next) :
      Step renew desk
        { desk with waiting := desk.waiting ++ [(serial, next)], turn := .idle }

def State.empty : State ρ := ⟨[], [], [], [], .idle, [], []⟩

/-! ### Every answer has a ticket -/

/-- The answer that has come in and is not matched yet. -/
def Turn.pending : Turn ρ → List ρ
  | arrived answer => [answer]
  | _ => []

/-- The answer that a ticket away from the queue will wait for. -/
def Turn.renewed : Turn ρ → List ρ
  | returning _ next => [next]
  | _ => []

/-- The tickets wait for the answers that are not asked for yet, are owed, or have come in. -/
def State.Balanced (desk : State ρ) : Prop :=
  (desk.waiting.map Prod.snd ++ desk.turn.renewed).Perm
    (desk.unsent ++ desk.owed ++ desk.turn.pending)

variable [DecidableEq ρ] {renew : ρ → Option ρ} {desk next : State ρ}

omit [DecidableEq ρ] in
theorem State.balanced_empty : (State.empty : State ρ).Balanced := .refl _

omit [DecidableEq ρ] in
theorem State.Balanced.exists_ticket {answer : ρ} (hbalanced : desk.Balanced)
    (hturn : desk.turn = .arrived answer) : ∃ serial, (serial, answer) ∈ desk.waiting := by
  have hmem : answer ∈ desk.waiting.map Prod.snd ++ desk.turn.renewed := by
    apply hbalanced.symm.subset
    simp [hturn, Turn.pending]
  simp only [hturn, Turn.renewed, List.append_nil] at hmem
  obtain ⟨⟨serial, _⟩, hticket, rfl⟩ := List.mem_map.mp hmem
  exact ⟨serial, hticket⟩

theorem Step.balanced (hstep : Step renew desk next) (hbalanced : desk.Balanced) :
    next.Balanced := by
  refine List.perm_iff_count.mpr fun other => ?_
  have hcount := List.perm_iff_count.mp hbalanced other
  cases hstep with
  | stay => exact hcount
  | issue hfresh =>
      simp only [List.map_append, List.map_cons, List.map_nil, List.count_append] at hcount ⊢
      omega
  | send hunsent =>
      simp only [hunsent, List.count_append, List.count_cons, List.count_nil] at hcount ⊢
      omega
  | @receive answer hturn howed =>
      have hpos := List.count_pos_iff.mpr howed
      simp only [hturn, Turn.renewed, Turn.pending, List.count_append, List.count_nil,
        List.count_erase, List.count_singleton, beq_iff_eq] at hcount ⊢
      by_cases heq : answer = other
      · subst heq
        simp only [if_true]
        omega
      · simp only [if_neg heq]
        omega
  | finish hturn hwaiting hfirst hrenew =>
      simp only [hturn, hwaiting, Turn.renewed, Turn.pending, List.map_append, List.map_cons,
        List.count_append, List.count_cons, List.count_nil] at hcount ⊢
      omega
  | hold hturn hwaiting hfirst hrenew =>
      simp only [hturn, hwaiting, Turn.renewed, Turn.pending, List.map_append, List.map_cons,
        List.count_append, List.count_cons, List.count_nil] at hcount ⊢
      omega
  | miss hturn hwaiting =>
      obtain ⟨serial, hticket⟩ := hbalanced.exists_ticket hturn
      exact absurd rfl (hwaiting _ hticket)
  | release hturn =>
      simp only [hturn, Turn.renewed, Turn.pending, List.count_append, List.count_nil] at hcount ⊢
      omega
  | «return» hturn =>
      simp only [hturn, Turn.renewed, Turn.pending, List.map_append, List.map_cons, List.map_nil,
        List.count_append, List.count_nil] at hcount ⊢
      omega

/-! ### Every ticket is in one place -/

/-- The ticket that the desk has in hand. -/
def Turn.serial : Turn ρ → List Nat
  | holding serial _ _ => [serial]
  | returning serial _ => [serial]
  | _ => []

def finished (renew : ρ → Option ρ) (served : List (Nat × ρ)) : List Nat :=
  (served.filter fun ticket => (renew ticket.2).isNone).map Prod.fst

/-- A ticket waits, is in hand or is finished. -/
structure State.Numbered (renew : ρ → Option ρ) (desk : State ρ) : Prop where
  places : (desk.waiting.map Prod.fst ++ desk.turn.serial ++ finished renew desk.served).Perm
    (desk.issued.map Prod.fst)
  distinct : (desk.issued.map Prod.fst).Nodup
  held : ∀ serial answer next, desk.turn = .holding serial answer next → renew answer = some next

omit [DecidableEq ρ] in
theorem State.numbered_empty : (State.empty : State ρ).Numbered renew :=
  ⟨.refl _, List.nodup_nil, by simp [empty]⟩

theorem Step.numbered (hstep : Step renew desk next) (hbalanced : desk.Balanced)
    (hnumbered : desk.Numbered renew) : next.Numbered renew := by
  cases hstep with
  | stay => exact hnumbered
  | miss hturn hwaiting =>
      obtain ⟨serial, hticket⟩ := hbalanced.exists_ticket hturn
      exact absurd rfl (hwaiting _ hticket)
  | @issue serial answer hfresh =>
      refine ⟨?_, ?_, hnumbered.held⟩
      · refine List.perm_iff_count.mpr fun other => ?_
        have hcount := List.perm_iff_count.mp hnumbered.places other
        simp only [List.map_append, List.count_append] at hcount ⊢
        omega
      · rw [List.map_append, List.nodup_append']
        exact ⟨hnumbered.distinct, by simp, by simpa using hfresh⟩
  | send hunsent => exact ⟨hnumbered.places, hnumbered.distinct, hnumbered.held⟩
  | receive hturn howed =>
      refine ⟨?_, hnumbered.distinct, by simp⟩
      have hplaces := hnumbered.places
      rwa [hturn] at hplaces
  | finish hturn hwaiting hfirst hrenew =>
      refine ⟨?_, hnumbered.distinct, by simp⟩
      refine List.perm_iff_count.mpr fun other => ?_
      have hcount := List.perm_iff_count.mp hnumbered.places other
      simp [hturn, hwaiting, finished, hrenew, Turn.serial, List.count_cons] at hcount ⊢
      omega
  | hold hturn hwaiting hfirst hrenew =>
      refine ⟨?_, hnumbered.distinct, ?_⟩
      · refine List.perm_iff_count.mpr fun other => ?_
        have hcount := List.perm_iff_count.mp hnumbered.places other
        simp [hturn, hwaiting, Turn.serial, List.count_cons] at hcount ⊢
        omega
      · rintro _ _ _ ⟨⟩
        exact hrenew
  | @release serial answer next hturn =>
      refine ⟨?_, hnumbered.distinct, by simp⟩
      have hrenew := hnumbered.held serial answer next hturn
      have hplaces := hnumbered.places
      simpa [hturn, finished, hrenew, Turn.serial] using hplaces
  | «return» hturn =>
      refine ⟨?_, hnumbered.distinct, by simp⟩
      have hplaces := hnumbered.places
      simpa [hturn, Turn.serial] using hplaces

omit [DecidableEq ρ] in
theorem State.Numbered.finished_nodup (hnumbered : desk.Numbered renew) :
    (finished renew desk.served).Nodup := by
  have hnodup := hnumbered.places.nodup_iff.mpr hnumbered.distinct
  exact (List.nodup_append'.mp hnodup).2.1

/-! ### Every match is with the right ticket -/

/-- A ticket that waits has been issued, or renewed by the answer it was issued for. -/
def State.Origin (renew : ρ → Option ρ) (desk : State ρ) (serial : Nat) (answer : ρ) : Prop :=
  (serial, answer) ∈ desk.issued ∨
    ∃ first, (serial, first) ∈ desk.issued ∧ renew first = some answer ∧
      (serial, first) ∈ desk.served

/-- The ticket whose answer has come in but is not counted as served. -/
def Turn.held : Turn ρ → List (Nat × ρ)
  | holding serial answer _ => [(serial, answer)]
  | _ => []

/-- A match is with the answer that the ticket was issued for, or with the second one behind it; and
the tickets that are issued for one answer are served in their order. -/
structure State.Traced (renew : ρ → Option ρ) (desk : State ρ) : Prop where
  waiting : ∀ serial answer, (serial, answer) ∈ desk.waiting → desk.Origin renew serial answer
  held : ∀ serial answer next, desk.turn = .holding serial answer next →
    (serial, answer) ∈ desk.issued ∧ renew answer = some next
  returning : ∀ serial next, desk.turn = .returning serial next → ∃ first,
    (serial, first) ∈ desk.issued ∧ renew first = some next ∧ (serial, first) ∈ desk.served
  served : ∀ serial answer, (serial, answer) ∈ desk.served →
    (serial, answer) ∈ desk.issued ∨ ∃ first, (serial, first) ∈ desk.issued ∧
      renew first = some answer ∧ [(serial, first), (serial, answer)].Sublist desk.served
  received : desk.received = desk.served.map Prod.snd ++ desk.turn.pending
    ++ desk.turn.held.map Prod.snd
  order : ∀ answer, (∀ first, renew first ≠ some answer) →
    desk.issued.filter (·.2 = answer) = (desk.served ++ desk.turn.held).filter (·.2 = answer)
      ++ desk.waiting.filter (·.2 = answer)

theorem State.traced_empty : (State.empty : State ρ).Traced renew := by
  refine ⟨?_, ?_, ?_, ?_, rfl, fun _ _ => rfl⟩ <;> simp [empty]

omit [DecidableEq ρ] in
theorem State.Origin.mono {serial : Nat} {answer : ρ} (horigin : desk.Origin renew serial answer)
    (hissued : desk.issued ⊆ next.issued) (hserved : desk.served ⊆ next.served) :
    next.Origin renew serial answer := by
  obtain hissue | ⟨first, hissue, hrenew, hserve⟩ := horigin
  · exact .inl (hissued hissue)
  · exact .inr ⟨first, hissued hissue, hrenew, hserved hserve⟩

omit [DecidableEq ρ] in
theorem mem_around {left right : List (Nat × ρ)} {ticket other : Nat × ρ}
    (hmem : other ∈ left ++ right) : other ∈ left ++ ticket :: right :=
  ((List.sublist_cons_self ticket right).append_left left).subset hmem

theorem filter_first {left right : List (Nat × ρ)} {serial : Nat} {answer other : ρ}
    (hfirst : ∀ ticket ∈ left, ticket.2 ≠ answer) :
    (left ++ (serial, answer) :: right).filter (·.2 = other)
      = [(serial, answer)].filter (·.2 = other) ++ (left ++ right).filter (·.2 = other) := by
  by_cases heq : answer = other
  · subst heq
    have hleft : left.filter (·.2 = answer) = [] :=
      List.filter_eq_nil_iff.mpr fun ticket hmem => by simpa using hfirst ticket hmem
    simp [List.filter_append, hleft]
  · simp [List.filter_append, heq]

/-- What was said of the matches made stays true when tickets and matches are added. -/
theorem State.Traced.served_mono {issued served : List (Nat × ρ)} (htraced : desk.Traced renew)
    (hissued : desk.issued ⊆ issued) (hserved : desk.served.Sublist served) {serial : Nat}
    {answer : ρ} (hmem : (serial, answer) ∈ desk.served) :
    (serial, answer) ∈ issued ∨ ∃ first, (serial, first) ∈ issued ∧ renew first = some answer ∧
      [(serial, first), (serial, answer)].Sublist served := by
  obtain hissue | ⟨first, hissue, hrenew, hsublist⟩ := htraced.served serial answer hmem
  · exact .inl (hissued hissue)
  · exact .inr ⟨first, hissued hissue, hrenew, hsublist.trans hserved⟩

/-- A match with a ticket that may wait is with the right one. -/
theorem State.Traced.served_append {serial : Nat} {answer : ρ} (htraced : desk.Traced renew)
    (horigin : desk.Origin renew serial answer) : ∀ other otherAnswer,
    (other, otherAnswer) ∈ desk.served ++ [(serial, answer)] →
      (other, otherAnswer) ∈ desk.issued ∨ ∃ first, (other, first) ∈ desk.issued ∧
        renew first = some otherAnswer ∧
          [(other, first), (other, otherAnswer)].Sublist (desk.served ++ [(serial, answer)]) := by
  intro other otherAnswer hmem
  rw [List.mem_append, List.mem_singleton] at hmem
  obtain hmem | heq := hmem
  · exact htraced.served_mono (List.Subset.refl _) (List.sublist_append_left _ _) hmem
  · obtain ⟨rfl, rfl⟩ := Prod.mk.inj heq
    obtain hissue | ⟨first, hissue, hrenewed, hserve⟩ := horigin
    · exact .inl hissue
    · exact .inr ⟨first, hissue, hrenewed,
        (List.singleton_sublist.mpr hserve).append (List.Sublist.refl _)⟩

/-- The order is kept when the first ticket that waits for an answer goes behind the matches. -/
theorem State.Traced.order_first {left right : List (Nat × ρ)} {serial : Nat} {answer : ρ}
    (htraced : desk.Traced renew) (hturn : desk.turn = .arrived answer)
    (hwaiting : desk.waiting = left ++ (serial, answer) :: right)
    (hfirst : ∀ ticket ∈ left, ticket.2 ≠ answer) {other : ρ}
    (hother : ∀ first, renew first ≠ some other) :
    desk.issued.filter (·.2 = other) = (desk.served ++ [(serial, answer)]).filter (·.2 = other)
      ++ (left ++ right).filter (·.2 = other) := by
  have horder := htraced.order other hother
  simp only [hturn, Turn.held, List.append_nil] at horder
  calc desk.issued.filter (·.2 = other)
      = desk.served.filter (·.2 = other) ++ desk.waiting.filter (·.2 = other) := horder
    _ = desk.served.filter (·.2 = other) ++ ([(serial, answer)].filter (·.2 = other)
          ++ (left ++ right).filter (·.2 = other)) := by rw [hwaiting, filter_first hfirst]
    _ = (desk.served ++ [(serial, answer)]).filter (·.2 = other)
          ++ (left ++ right).filter (·.2 = other) := by
        rw [← List.append_assoc, ← List.filter_append]

theorem Step.traced (hsecond : ∀ first answer, renew first = some answer → renew answer = none)
    (hstep : Step renew desk next) (hbalanced : desk.Balanced) (htraced : desk.Traced renew) :
    next.Traced renew := by
  cases hstep with
  | stay => exact htraced
  | @issue serial answer hfresh =>
      have hsubset : desk.issued ⊆ desk.issued ++ [(serial, answer)] := List.subset_append_left _ _
      refine ⟨?_, ?_, ?_, ?_, htraced.received, ?_⟩
      · intro other otherAnswer hmem
        rw [List.mem_append, List.mem_singleton] at hmem
        obtain hmem | heq := hmem
        · exact (htraced.waiting _ _ hmem).mono hsubset (List.Subset.refl _)
        · exact .inl (heq ▸ List.mem_append_right _ List.mem_cons_self)
      · intro other otherAnswer next hturn
        obtain ⟨hissue, hrenew⟩ := htraced.held _ _ _ hturn
        exact ⟨hsubset hissue, hrenew⟩
      · intro other next hturn
        obtain ⟨first, hissue, hrenew, hserve⟩ := htraced.returning _ _ hturn
        exact ⟨first, hsubset hissue, hrenew, hserve⟩
      · intro other otherAnswer hmem
        exact htraced.served_mono hsubset (List.Sublist.refl _) hmem
      · intro other hother
        simp only [List.filter_append, htraced.order other hother, List.append_assoc]
  | send hunsent => exact ⟨htraced.waiting, htraced.held, htraced.returning, htraced.served,
      htraced.received, htraced.order⟩
  | receive hturn howed =>
      refine ⟨htraced.waiting, by simp, by simp, htraced.served, ?_, ?_⟩
      · have hreceived := htraced.received
        simp only [hturn, Turn.pending, Turn.held, List.map_nil, List.append_nil] at hreceived ⊢
        rw [hreceived]
      · have horder := htraced.order
        rwa [hturn] at horder
  | @finish serial answer left right hturn hwaiting hfirst hrenew =>
      have hticket := htraced.waiting serial answer (by simp [hwaiting])
      refine ⟨?_, by simp, by simp, htraced.served_append hticket, ?_, ?_⟩
      · intro other otherAnswer hmem
        have hwaits := htraced.waiting other otherAnswer (hwaiting ▸ mem_around hmem)
        exact hwaits.mono (List.Subset.refl _) (List.subset_append_left _ _)
      · have hreceived := htraced.received
        simp only [hturn, Turn.pending, Turn.held, List.map_nil, List.append_nil] at hreceived ⊢
        rw [hreceived, List.map_append]
        rfl
      · intro other hother
        have horder := htraced.order_first hturn hwaiting hfirst hother
        simpa [Turn.held] using horder
  | @hold serial answer next left right hturn hwaiting hfirst hrenew =>
      have hticket := htraced.waiting serial answer (by simp [hwaiting])
      refine ⟨?_, ?_, by simp, htraced.served, ?_, ?_⟩
      · intro other otherAnswer hmem
        exact htraced.waiting other otherAnswer (hwaiting ▸ mem_around hmem)
      · rintro _ _ _ ⟨⟩
        obtain hissue | ⟨first, -, hrenewed, -⟩ := hticket
        · exact ⟨hissue, hrenew⟩
        · simp [hsecond first answer hrenewed] at hrenew
      · have hreceived := htraced.received
        simpa [hturn, Turn.pending, Turn.held] using hreceived
      · intro other hother
        exact htraced.order_first hturn hwaiting hfirst hother
  | miss hturn hwaiting =>
      obtain ⟨serial, hticket⟩ := hbalanced.exists_ticket hturn
      exact absurd rfl (hwaiting _ hticket)
  | @release serial answer next hturn =>
      obtain ⟨hissue, hrenew⟩ := htraced.held serial answer next hturn
      refine ⟨?_, by simp, ?_, htraced.served_append (.inl hissue), ?_, ?_⟩
      · intro other otherAnswer hmem
        exact (htraced.waiting _ _ hmem).mono (List.Subset.refl _) (List.subset_append_left _ _)
      · rintro _ _ ⟨⟩
        exact ⟨answer, hissue, hrenew, List.mem_append_right _ List.mem_cons_self⟩
      · have hreceived := htraced.received
        simpa [hturn, Turn.pending, Turn.held] using hreceived
      · intro other hother
        have horder := htraced.order other hother
        simpa [hturn, Turn.held] using horder
  | @«return» serial next hturn =>
      obtain ⟨first, hissue, hrenew, hserve⟩ := htraced.returning serial next hturn
      refine ⟨?_, by simp, by simp, htraced.served, ?_, ?_⟩
      · intro other otherAnswer hmem
        rw [List.mem_append, List.mem_singleton] at hmem
        obtain hmem | heq := hmem
        · exact htraced.waiting _ _ hmem
        · obtain ⟨rfl, rfl⟩ := Prod.mk.inj heq
          exact .inr ⟨first, hissue, hrenew, hserve⟩
      · have hreceived := htraced.received
        simpa [hturn, Turn.pending, Turn.held] using hreceived
      · intro other hother
        have hne : next ≠ other := by
          rintro rfl
          exact hother first hrenew
        have horder := htraced.order other hother
        simpa [hturn, Turn.held, hne] using horder

/-- While a request is not sent, the ticket last issued for its answer has not been served. -/
theorem State.Traced.notMem_served {serial : Nat} {answer : ρ} {before : List (Nat × ρ)}
    (htraced : desk.Traced renew) (hnumbered : desk.Numbered renew) (hbalanced : desk.Balanced)
    (hissued : desk.issued = before ++ [(serial, answer)]) (hunsent : answer ∈ desk.unsent)
    (hfirst : ∀ first, renew first ≠ some answer) : (serial, answer) ∉ desk.served := by
  have hwaits : ∃ other, (other, answer) ∈ desk.waiting := by
    have hmem : answer ∈ desk.waiting.map Prod.snd ++ desk.turn.renewed := by
      apply hbalanced.symm.subset
      simp [hunsent]
    obtain hmem | hmem := List.mem_append.mp hmem
    · obtain ⟨⟨other, _⟩, hticket, rfl⟩ := List.mem_map.mp hmem
      exact ⟨other, hticket⟩
    · cases hturn : desk.turn with
      | returning other next =>
          obtain ⟨first, -, hrenew, -⟩ := htraced.returning other next hturn
          obtain rfl : answer = next := by simpa [hturn, Turn.renewed] using hmem
          exact absurd hrenew (hfirst first)
      | _ => simp [hturn, Turn.renewed] at hmem
  have horder := htraced.order answer hfirst
  have hlast : (serial, answer) ∈ desk.waiting.filter (·.2 = answer) := by
    obtain ⟨other, hother⟩ := hwaits
    have hne : desk.waiting.filter (·.2 = answer) ≠ [] :=
      List.ne_nil_of_mem (List.mem_filter.mpr ⟨hother, by simp⟩)
    have hget := congrArg List.getLast? horder
    rw [hissued, List.filter_append, List.filter_cons_of_pos (by simp), List.filter_nil,
      List.getLast?_concat, List.getLast?_append_of_ne_nil _ hne] at hget
    exact List.mem_of_getLast? hget.symm
  intro hserved
  have hnodup : (desk.issued.filter (·.2 = answer)).Nodup :=
    (hnumbered.distinct.of_map _).filter _
  rw [horder] at hnodup
  refine (List.nodup_append'.mp hnodup).2.2 ?_ hlast
  exact List.mem_filter.mpr ⟨List.mem_append_left _ hserved, by simp⟩

end Desk
