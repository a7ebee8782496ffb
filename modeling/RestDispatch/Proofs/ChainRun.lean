import RestDispatch.Dispatch.Chain

/-!
# Running a chain

A chain runs its actions one at a time. Each step enters the action at the
cursor (state `running` at the cursor, its name recorded when tracing), hands
the action a view of the chain, takes back the response and the entries it
recorded, and then continues with the cursor one further, or ends: completed
when the action stopped, failed when it failed.

`Chain.pass` is one step of an action that continued and `Chain.reach` the
chain after a prefix of such steps. From the step equation of `runFrom`, the
first run of a fresh chain is described action by action, and every later run,
from inside an action or after the chain ended, changes nothing.
-/

namespace RestDispatch

set_option autoImplicit false

namespace Chain

/-- The chain as an action finds it: running at the cursor, with the action's
name recorded. -/
def enter (c : Chain) (b : Binding) : Chain :=
  ({ c with state := .running c.cursor }).record [⟨"Action", b.name⟩]

/-- What an action does when the chain hands it to its handler. -/
def effectOf (c : Chain) (b : Binding) : Effect :=
  b.handler (c.enter b).view

/-- The chain with an action's response and records taken back. -/
def absorb (c : Chain) (effect : Effect) : Chain :=
  ({ c with response := effect.response }).record effect.records

/-- The chain after an action that continued: its effect taken back and the
cursor on the next action. -/
def pass (c : Chain) (b : Binding) : Chain :=
  let after := (c.enter b).absorb (c.effectOf b)
  { after with cursor := after.cursor + 1 }

/-- The chain as the action at index `i` finds it when every earlier action
continued. -/
def reach (c : Chain) (i : Nat) : Chain :=
  (c.actions.take i).foldl pass c

/-- How the action at index `i` ends when every earlier action continued. -/
def outcomeAt (c : Chain) (i : Nat) : Option (Except ActionError Flow) :=
  c.actions[i]?.map fun b => ((c.reach i).effectOf b).outcome

section Steps

variable (c : Chain) (b : Binding)

@[simp] theorem record_actions (entries : List TraceEntry) : (c.record entries).actions = c.actions := by
  unfold record; split <;> rfl

@[simp] theorem record_cursor (entries : List TraceEntry) : (c.record entries).cursor = c.cursor := by
  unfold record; split <;> rfl

@[simp] theorem record_state (entries : List TraceEntry) : (c.record entries).state = c.state := by
  unfold record; split <;> rfl

@[simp] theorem record_tracing (entries : List TraceEntry) : (c.record entries).tracing = c.tracing := by
  unfold record; split <;> rfl

@[simp] theorem record_request (entries : List TraceEntry) : (c.record entries).request = c.request := by
  unfold record; split <;> rfl

theorem record_trace (entries : List TraceEntry) :
    (c.record entries).trace = c.trace ++ if c.tracing then entries else [] := by
  unfold record; split <;> simp_all

@[simp] theorem enter_actions : (c.enter b).actions = c.actions := by simp [enter]

@[simp] theorem enter_cursor : (c.enter b).cursor = c.cursor := by simp [enter]

@[simp] theorem enter_state : (c.enter b).state = .running c.cursor := by simp [enter]

@[simp] theorem enter_tracing : (c.enter b).tracing = c.tracing := by simp [enter]

@[simp] theorem enter_request : (c.enter b).request = c.request := by simp [enter]

@[simp] theorem absorb_actions (effect : Effect) : (c.absorb effect).actions = c.actions := by
  simp [absorb]

@[simp] theorem absorb_cursor (effect : Effect) : (c.absorb effect).cursor = c.cursor := by
  simp [absorb]

@[simp] theorem absorb_state (effect : Effect) : (c.absorb effect).state = c.state := by
  simp [absorb]

@[simp] theorem absorb_request (effect : Effect) : (c.absorb effect).request = c.request := by
  simp [absorb]

@[simp] theorem pass_actions : (c.pass b).actions = c.actions := by simp [pass]

@[simp] theorem pass_cursor : (c.pass b).cursor = c.cursor + 1 := by simp [pass]

@[simp] theorem pass_tracing : (c.pass b).tracing = c.tracing := by simp [pass, absorb]

@[simp] theorem pass_request : (c.pass b).request = c.request := by simp [pass]

theorem runFrom_cons (rest : List Binding) :
    runFrom (b :: rest) c =
      match (c.effectOf b).outcome with
      | .ok .continue => runFrom rest (c.pass b)
      | .ok .stop => ({ (c.enter b).absorb (c.effectOf b) with state := .completed }, .ok ())
      | .error e =>
          ({ (c.enter b).absorb (c.effectOf b) with state := .failed }, .error (.actionFailed b.name e)) :=
  rfl

end Steps

theorem run_of_not_pending {c : Chain} (started : c.state ≠ .pending) : c.run = (c, .ok ()) := by
  simp [run, started]

theorem runFrom_ended (actions : List Binding) (c : Chain) :
    (runFrom actions c).1.state = .completed ∨ (runFrom actions c).1.state = .failed := by
  induction actions generalizing c with
  | nil => exact .inl rfl
  | cons b rest induction =>
      rw [runFrom_cons]
      rcases outcome : (c.effectOf b).outcome with failure | flow
      · exact .inr rfl
      · cases flow with
        | «continue» => exact induction (c.pass b)
        | stop => exact .inl rfl

theorem run_run (c : Chain) : c.run.1.run = (c.run.1, .ok ()) := by
  by_cases pending : c.state = .pending
  · apply run_of_not_pending
    simp only [run, pending, if_true]
    rcases runFrom_ended (c.actions.drop c.cursor) c with ended | ended <;> simp [ended]
  · rw [run_of_not_pending pending]
    exact run_of_not_pending pending

section Reach

variable (c : Chain)

theorem foldl_pass_actions (bindings : List Binding) :
    (bindings.foldl pass c).actions = c.actions := by
  induction bindings generalizing c with
  | nil => rfl
  | cons b rest induction => simp [induction]

theorem foldl_pass_cursor (bindings : List Binding) :
    (bindings.foldl pass c).cursor = c.cursor + bindings.length := by
  induction bindings generalizing c with
  | nil => rfl
  | cons b rest induction =>
      simp only [List.foldl_cons, induction, pass_cursor, List.length_cons]
      omega

theorem foldl_pass_tracing (bindings : List Binding) :
    (bindings.foldl pass c).tracing = c.tracing := by
  induction bindings generalizing c with
  | nil => rfl
  | cons b rest induction => simp [induction]

@[simp] theorem reach_zero : c.reach 0 = c := by simp [reach]

@[simp] theorem reach_actions (i : Nat) : (c.reach i).actions = c.actions :=
  foldl_pass_actions c _

@[simp] theorem reach_tracing (i : Nat) : (c.reach i).tracing = c.tracing :=
  foldl_pass_tracing c _

theorem reach_cursor {i : Nat} (within : i ≤ c.actions.length) : (c.reach i).cursor = c.cursor + i := by
  rw [reach, foldl_pass_cursor, List.length_take, Nat.min_eq_left within]

theorem reach_succ {i : Nat} {b : Binding} (listed : c.actions[i]? = some b) :
    c.reach (i + 1) = (c.reach i).pass b := by
  rw [reach, List.take_add_one, listed, List.foldl_append]
  rfl

theorem effectOf_outcome_of_outcomeAt {i : Nat} {b : Binding} {outcome : Except ActionError Flow}
    (listed : c.actions[i]? = some b) (ended : c.outcomeAt i = some outcome) :
    ((c.reach i).effectOf b).outcome = outcome := by
  simpa [outcomeAt, listed] using ended

theorem runFrom_reach {k : Nat} (within : k ≤ c.actions.length)
    (continued : ∀ j < k, c.outcomeAt j = some (.ok .continue)) :
    runFrom c.actions c = runFrom (c.actions.drop k) (c.reach k) := by
  induction k with
  | zero => simp
  | succ k induction =>
      have inside : k < c.actions.length := by omega
      have listed : c.actions[k]? = some c.actions[k] := List.getElem?_eq_getElem inside
      have continues := c.effectOf_outcome_of_outcomeAt listed (continued k (by omega))
      rw [induction (by omega) fun j before => continued j (by omega),
        List.drop_eq_getElem_cons inside, runFrom_cons, continues, reach_succ c listed]

/-- A pending chain with its cursor on the first action runs from the chain
reached once the actions before `k` continued. -/
theorem run_eq_runFrom_reach (pending : c.state = .pending) (start : c.cursor = 0) {k : Nat}
    (within : k ≤ c.actions.length) (continued : ∀ j < k, c.outcomeAt j = some (.ok .continue)) :
    c.run = runFrom (c.actions.drop k) (c.reach k) := by
  simp only [run, pending, if_true, start, List.drop_zero]
  exact c.runFrom_reach within continued

end Reach

/-- What the first run of a chain does, action by action. -/
structure RunsInOrder (c : Chain) : Prop where
  /-- Each action the run reaches finds the chain running at its index, with
  the cursor on it, itself as the running action and its name recorded when
  tracing; a run started from inside it changes nothing. -/
  entered : ∀ i b, c.actions[i]? = some b → (∀ j < i, c.outcomeAt j = some (.ok .continue)) →
    ((c.reach i).enter b).state = .running i ∧ ((c.reach i).enter b).cursor = i ∧
      ((c.reach i).enter b).actionName? = some b.name ∧
      ((c.reach i).enter b).trace =
        (c.reach i).trace ++ (if c.tracing then [⟨"Action", b.name⟩] else []) ∧
      ((c.reach i).enter b).run = ((c.reach i).enter b, .ok ())
  /-- When every action continues, the run completes with the cursor past the last. -/
  completed : (∀ j < c.actions.length, c.outcomeAt j = some (.ok .continue)) →
    c.run = ({ c.reach c.actions.length with state := .completed }, .ok ()) ∧
      c.run.1.cursor = c.actions.length
  /-- The first action that stops completes the run, with the cursor left on it. -/
  stopped : ∀ k b, c.actions[k]? = some b → (∀ j < k, c.outcomeAt j = some (.ok .continue)) →
    c.outcomeAt k = some (.ok .stop) →
    c.run = ({ ((c.reach k).enter b).absorb ((c.reach k).effectOf b) with state := .completed },
      .ok ()) ∧ c.run.1.cursor = k
  /-- The first action that fails fails the run under its name, with the
  cursor left on it. -/
  failed : ∀ k b e, c.actions[k]? = some b → (∀ j < k, c.outcomeAt j = some (.ok .continue)) →
    c.outcomeAt k = some (.error e) →
    c.run = ({ ((c.reach k).enter b).absorb ((c.reach k).effectOf b) with state := .failed },
      .error (.actionFailed b.name e)) ∧ c.run.1.cursor = k
  once : c.run.1.run = (c.run.1, .ok ())

theorem runsInOrder_of_pending (c : Chain) (pending : c.state = .pending) (start : c.cursor = 0) :
    RunsInOrder c where
  entered i b listed continued := by
    have inside : i < c.actions.length := (List.getElem?_eq_some_iff.1 listed).1
    have cursorAt : (c.reach i).cursor = i := by rw [c.reach_cursor (by omega), start, Nat.zero_add]
    refine ⟨by simp [cursorAt], by simp [cursorAt], ?_, by simp [enter, record_trace], ?_⟩
    · simp [actionName?, view, ChainView.actionName?, ChainView.current?, cursorAt, listed]
    · exact run_of_not_pending (by simp)
  completed continued := by
    have ran : c.run = ({ c.reach c.actions.length with state := .completed }, .ok ()) := by
      rw [c.run_eq_runFrom_reach pending start (Nat.le_refl _) continued, List.drop_length]
      rfl
    refine ⟨ran, ?_⟩
    rw [ran]
    simp [c.reach_cursor (Nat.le_refl _), start]
  stopped k b listed continued stops := by
    obtain ⟨inside, atK⟩ := List.getElem?_eq_some_iff.1 listed
    have outcome := c.effectOf_outcome_of_outcomeAt listed stops
    have ran : c.run = ({ ((c.reach k).enter b).absorb ((c.reach k).effectOf b) with
        state := .completed }, .ok ()) := by
      rw [c.run_eq_runFrom_reach pending start (Nat.le_of_lt inside) continued,
        List.drop_eq_getElem_cons inside, atK, runFrom_cons, outcome]
    refine ⟨ran, ?_⟩
    rw [ran]
    simp [c.reach_cursor (Nat.le_of_lt inside), start]
  failed k b e listed continued fails := by
    obtain ⟨inside, atK⟩ := List.getElem?_eq_some_iff.1 listed
    have outcome := c.effectOf_outcome_of_outcomeAt listed fails
    have ran : c.run = ({ ((c.reach k).enter b).absorb ((c.reach k).effectOf b) with
        state := .failed }, .error (.actionFailed b.name e)) := by
      rw [c.run_eq_runFrom_reach pending start (Nat.le_of_lt inside) continued,
        List.drop_eq_getElem_cons inside, atK, runFrom_cons, outcome]
    refine ⟨ran, ?_⟩
    rw [ran]
    simp [c.reach_cursor (Nat.le_of_lt inside), start]
  once := c.run_run

end Chain

/-- The first run of a fresh chain, whatever its actions do, runs them in
order up to the first that stops or fails, and any later run, from inside an
action or after the end, changes nothing. -/
theorem fresh_chain_runs_in_order (request : Request) (endpoint : Endpoint)
    (actions : List Binding) (tracing : Bool) :
    Chain.RunsInOrder ((Chain.new request endpoint actions).withTrace tracing) :=
  Chain.runsInOrder_of_pending _ rfl rfl

end RestDispatch
