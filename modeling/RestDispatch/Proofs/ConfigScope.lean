import RestDispatch.Proofs.ChainRun

/-!
# Settings seen by the running action

While an action runs, the chain answers a setting from the action's own rule
first and from the endpoint's rule second; when no action runs (before the
run, after it ended or failed) only the endpoint's rule answers. The settings
of the other actions of the chain are never read, so changing them changes
nothing that an action looks up.

The run is what makes this hold: it enters each action with the chain in
state `running i` and the cursor on the action, and it never changes the
endpoint's rule. `chain_config_scoped` states the three rules for a fresh
chain.
-/

namespace RestDispatch

set_option autoImplicit false

namespace ChainView

variable (v : ChainView) (key : String)

theorem config?_of_current {name : String} {rule : Rule} (running : v.current? = some (name, rule)) :
    v.config? key = (rule.setting? key).or (v.endpointRule.setting? key) := by
  unfold config?
  rw [running, Option.bind_some]
  cases rule.setting? key <;> rfl

theorem config?_of_idle (idle : v.current? = none) : v.config? key = v.endpointRule.setting? key := by
  unfold config?
  rw [idle]
  rfl

theorem current?_of_not_running (idle : ∀ i, v.state ≠ .running i) : v.current? = none := by
  unfold current?
  split
  · next i running => exact absurd running (idle i)
  · rfl

end ChainView

namespace Binding

/-- The binding with its rule's settings replaced. -/
def withSettings (b : Binding) (settings : Settings) : Binding :=
  { b with rule := { b.rule with settings := settings } }

end Binding

/-- The actions with the settings of every action other than the `i`-th
replaced, the `j`-th by `settings j`. -/
def resettleOthers (actions : List Binding) (i : Nat) (settings : Nat → Settings) : List Binding :=
  actions.mapIdx fun j b => if j = i then b else b.withSettings (settings j)

theorem resettleOthers_getElem? (actions : List Binding) (i : Nat) (settings : Nat → Settings) :
    (resettleOthers actions i settings)[i]? = actions[i]? := by
  simp only [resettleOthers, List.getElem?_mapIdx, if_true]
  cases actions[i]? <;> rfl

namespace Chain

section EndpointRule

variable (c : Chain) (b : Binding)

@[simp] theorem record_endpointRule (entries : List TraceEntry) :
    (c.record entries).endpointRule = c.endpointRule := by
  unfold record; split <;> rfl

@[simp] theorem enter_endpointRule : (c.enter b).endpointRule = c.endpointRule := by simp [enter]

@[simp] theorem absorb_endpointRule (effect : Effect) : (c.absorb effect).endpointRule = c.endpointRule := by
  simp [absorb]

@[simp] theorem pass_endpointRule : (c.pass b).endpointRule = c.endpointRule := by simp [pass]

theorem reach_endpointRule (i : Nat) : (c.reach i).endpointRule = c.endpointRule := by
  unfold reach
  generalize c.actions.take i = passed
  induction passed generalizing c with
  | nil => rfl
  | cons a rest induction =>
      rw [List.foldl_cons, induction (c.pass a), pass_endpointRule]

theorem runFrom_endpointRule (actions : List Binding) :
    (runFrom actions c).1.endpointRule = c.endpointRule := by
  induction actions generalizing c with
  | nil => rfl
  | cons a rest induction =>
      rw [runFrom_cons]
      rcases (c.effectOf a).outcome with failure | flow
      · simp
      · cases flow with
        | «continue» => simp [induction]
        | stop => simp

end EndpointRule

theorem configOr_eq (c : Chain) (key fallback : String) :
    c.configOr key fallback = (c.config? key).getD fallback := rfl

section Lookup

variable {c : Chain} {b : Binding} (key : String)

theorem enter_config? (listed : c.actions[c.cursor]? = some b) :
    (c.enter b).config? key = (b.rule.setting? key).or (c.endpointRule.setting? key) := by
  have running : (c.enter b).view.current? = some (b.name, b.rule) := by
    simp [view, ChainView.current?, listed]
  rw [config?, ChainView.config?_of_current _ key running]
  simp [view]

theorem config?_of_not_running (idle : ∀ i, c.state ≠ .running i) :
    c.config? key = c.endpointRule.setting? key :=
  ChainView.config?_of_idle c.view key (ChainView.current?_of_not_running c.view idle)

theorem run_config? (c : Chain) (idle : ∀ i, c.state ≠ .running i) :
    c.run.1.config? key = c.endpointRule.setting? key := by
  unfold run
  split
  · -- the run from a pending chain ends completed or failed
    have ended : ∀ i, (runFrom (c.actions.drop c.cursor) c).1.state ≠ .running i := by
      intro i
      rcases runFrom_ended (c.actions.drop c.cursor) c with done | done <;> simp [done]
    rw [config?_of_not_running key ended, runFrom_endpointRule]
  · exact config?_of_not_running key idle

end Lookup

/-- The action at index `i` of a chain started at its first action, as it
finds the chain, answers from its own rule first and the endpoint's second. -/
theorem reach_enter_config? {c : Chain} (start : c.cursor = 0) {i : Nat} {b : Binding}
    (listed : c.actions[i]? = some b) (key : String) :
    ((c.reach i).enter b).config? key = (b.rule.setting? key).or (c.endpointRule.setting? key) := by
  have inside : i < c.actions.length := (List.getElem?_eq_some_iff.1 listed).1
  have cursorAt : (c.reach i).cursor = i := by rw [c.reach_cursor (by omega), start, Nat.zero_add]
  have atCursor : (c.reach i).actions[(c.reach i).cursor]? = some b := by
    rw [cursorAt, reach_actions]
    exact listed
  rw [enter_config? key atCursor, reach_endpointRule]

theorem reach_enter_config?_resettled {c : Chain} (start : c.cursor = 0) {i : Nat} {b : Binding}
    (listed : c.actions[i]? = some b) (settings : Nat → Settings) (key : String) :
    ((({ c with actions := resettleOthers c.actions i settings } : Chain).reach i).enter b).config? key =
      ((c.reach i).enter b).config? key := by
  have same : (resettleOthers c.actions i settings)[i]? = some b := by
    rw [resettleOthers_getElem?]
    exact listed
  rw [reach_enter_config? (c := { c with actions := resettleOthers c.actions i settings }) start same key,
    reach_enter_config? start listed key]

end Chain

/-- The settings a fresh chain `c` over the endpoint `E` lets its actions see. -/
structure ConfigScoped (E : Endpoint) (c : Chain) : Prop where
  /-- While the run hands the chain to the `i`-th action, a setting is that
  action's own, else the endpoint's; a default stands in only for a missing
  setting. -/
  running : ∀ i b, c.actions[i]? = some b → ∀ key,
    ((c.reach i).enter b).config? key = (b.rule.setting? key).or (E.rule.setting? key) ∧
      ∀ fallback, ((c.reach i).enter b).configOr key fallback =
        ((b.rule.setting? key).or (E.rule.setting? key)).getD fallback
  /-- Before the run and after it, only the endpoint's settings are seen. -/
  idle : ∀ key, c.config? key = E.rule.setting? key ∧ c.run.1.config? key = E.rule.setting? key
  /-- Replacing the settings of every other action changes none of the
  settings the `i`-th action sees. -/
  siblings : ∀ i b, c.actions[i]? = some b → ∀ (settings : Nat → Settings) key,
    ((({ c with actions := resettleOthers c.actions i settings } : Chain).reach i).enter b).config? key =
      ((c.reach i).enter b).config? key ∧
    ∀ fallback,
      ((({ c with actions := resettleOthers c.actions i settings } : Chain).reach i).enter b).configOr
          key fallback = ((c.reach i).enter b).configOr key fallback

/-- A running action sees its own settings over the endpoint's and never
those of the other actions; when no action runs, the endpoint's settings are
all there is. -/
theorem chain_config_scoped (request : Request) (E : Endpoint) (actions : List Binding)
    (tracing : Bool) : ConfigScoped E ((Chain.new request E actions).withTrace tracing) where
  running i b listed key := by
    have seen := Chain.reach_enter_config? rfl listed key
    -- a fresh chain keeps the endpoint's rule
    exact ⟨seen, fun fallback => by rw [Chain.configOr_eq, seen]; rfl⟩
  idle key := by
    have pending : ∀ i, ((Chain.new request E actions).withTrace tracing).state ≠ .running i := by
      intro i
      simp [Chain.new, Chain.withTrace]
    exact ⟨Chain.config?_of_not_running key pending, Chain.run_config? key _ pending⟩
  siblings i b listed settings key := by
    have same := Chain.reach_enter_config?_resettled rfl listed settings key
    exact ⟨same, fun fallback => by rw [Chain.configOr_eq, Chain.configOr_eq, same]⟩

end RestDispatch
