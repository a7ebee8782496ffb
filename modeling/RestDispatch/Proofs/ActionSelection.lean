import RestDispatch.Proofs.RoutedPath

/-!
# Which actions join a chain

A resolved request runs the candidates of its endpoint, the endpoint's own
actions or, when it has none, the Api's shared ones, keeping those whose rules
accept the method and the subpath, ordered by their rules' order with ties in
candidate order.

`SortedSelection` says this without a sort: tag each candidate with its index,
keep the accepted ones, and order them strictly by rule order and then by
index. Only one list is so ordered (`SortedSelection.unique`), so the actions
of a resolution depend on the candidates, the method and the subpath alone.
The resolver sorts by rule order only; that ties keep their index order is the
stability of the merge sort, `mergeSort_ranked`.
-/

namespace RestDispatch

set_option autoImplicit false

/-- A candidate tagged with its index comes before another: its rule order is
lower, or the same and its index smaller. -/
def RanksBefore (a b : Binding × Nat) : Prop :=
  a.1.rule.order < b.1.rule.order ∨ (a.1.rule.order = b.1.rule.order ∧ a.2 < b.2)

/-- `selected` lists the candidates that `keep` accepts, each once, ordered by
rule order and then by their index among the candidates. -/
def SortedSelection (candidates : List Binding) (keep : Binding → Bool) (selected : List Binding) :
    Prop :=
  ∃ tagged : List (Binding × Nat), selected = tagged.map Prod.fst ∧
    tagged.Perm (candidates.zipIdx.filter fun p => keep p.1) ∧ tagged.Pairwise RanksBefore

/-- Compare tagged candidates by rule order alone, as the resolver does. -/
def orderLE (a b : Binding × Nat) : Bool :=
  decide (a.1.rule.order ≤ b.1.rule.order)

theorem orderLE_trans (a b c : Binding × Nat) (ab : orderLE a b) (bc : orderLE b c) : orderLE a c := by
  simp only [orderLE, decide_eq_true_eq] at ab bc ⊢
  omega

theorem orderLE_total (a b : Binding × Nat) : orderLE a b || orderLE b a := by
  simp only [orderLE, Bool.or_eq_true, decide_eq_true_eq]
  omega

theorem zipIdx_index_increasing {α : Type} (l : List α) :
    l.zipIdx.Pairwise fun a b => a.2 < b.2 := by
  have increasing : (List.range' 0 l.length).Pairwise (· < ·) := List.pairwise_lt_range'
  rw [← List.zipIdx_map_snd, List.pairwise_map] at increasing
  exact increasing

section Stability

variable (tagged : List (Binding × Nat))

theorem mergeSort_filter_order (k : Int) :
    (tagged.mergeSort orderLE).filter (fun p => p.1.rule.order == k) =
      tagged.filter fun p => p.1.rule.order == k := by
  -- the candidates of order `k` are already sorted, so they stay a sublist
  have tied : (tagged.filter fun p => p.1.rule.order == k).Pairwise fun a b => orderLE a b := by
    apply List.pairwise_of_forall_mem_list
    intro a inA b inB
    simp only [List.mem_filter, beq_iff_eq] at inA inB
    simp [orderLE, inA.2, inB.2]
  have kept := List.sublist_mergeSort orderLE_trans orderLE_total tied List.filter_sublist
  have inClass := kept.filter fun p => p.1.rule.order == k
  simp only [List.filter_filter, Bool.and_self] at inClass
  have sameLength := ((List.mergeSort_perm tagged orderLE).filter fun p => p.1.rule.order == k).length_eq
  exact (inClass.eq_of_length sameLength.symm).symm

theorem mergeSort_ranked (increasing : tagged.Pairwise fun a b => a.2 < b.2) :
    (tagged.mergeSort orderLE).Pairwise RanksBefore := by
  have ordered := List.pairwise_mergeSort orderLE_trans orderLE_total tagged
  rw [List.pairwise_iff_forall_sublist]
  intro a b pair
  have le : a.1.rule.order ≤ b.1.rule.order := by
    simpa [orderLE] using List.pairwise_pair.1 (ordered.sublist pair)
  rcases Int.lt_or_eq_of_le le with lower | same
  · exact .inl lower
  · -- a tie: both are in the class of their order, which keeps index order
    have inClass : List.Sublist [a, b] (tagged.filter fun p => p.1.rule.order == a.1.rule.order) := by
      rw [← mergeSort_filter_order]
      simpa [same] using pair.filter fun p => p.1.rule.order == a.1.rule.order
    have indexOrder := List.pairwise_pair.1 ((increasing.filter _).sublist inClass)
    exact .inr ⟨same, indexOrder⟩

end Stability

theorem sortedSelection_mergeSort (candidates : List Binding) (keep : Binding → Bool) :
    SortedSelection candidates keep
      ((candidates.filter keep).mergeSort fun a b => a.rule.order ≤ b.rule.order) := by
  refine ⟨(candidates.zipIdx.filter fun p => keep p.1).mergeSort orderLE, ?_,
    List.mergeSort_perm _ _, mergeSort_ranked _ ((zipIdx_index_increasing candidates).filter _)⟩
  -- dropping the indices commutes with filtering and with the sort
  have untagged : (candidates.zipIdx.filter fun p => keep p.1).map Prod.fst =
      candidates.filter keep := by
    calc (candidates.zipIdx.filter fun p => keep p.1).map Prod.fst
        _ = (candidates.zipIdx.map Prod.fst).filter keep := List.filter_map.symm
        _ = candidates.filter keep := by rw [List.zipIdx_map_fst]
  have commute : ((candidates.zipIdx.filter fun p => keep p.1).mergeSort orderLE).map Prod.fst =
      ((candidates.zipIdx.filter fun p => keep p.1).map Prod.fst).mergeSort
        fun a b => a.rule.order ≤ b.rule.order :=
    List.map_mergeSort fun _ _ _ _ => rfl
  rw [commute, untagged]

/-- Only one list is a sorted selection: the ordering is strict and total on
distinct indices. -/
theorem SortedSelection.unique {candidates : List Binding} {keep : Binding → Bool}
    {s t : List Binding} (hs : SortedSelection candidates keep s)
    (ht : SortedSelection candidates keep t) : s = t := by
  obtain ⟨tagged, rfl, perm, ranked⟩ := hs
  obtain ⟨tagged', rfl, perm', ranked'⟩ := ht
  have same : tagged = tagged' := by
    refine List.Perm.eq_of_pairwise (fun a b _ _ ab ba => ?_) ranked ranked' (perm.trans perm'.symm)
    unfold RanksBefore at ab ba
    omega
  rw [same]

/-- The actions the resolver selects for an endpoint are the sorted selection
of its candidates. -/
theorem selectActions_sortedSelection (api : Api) (endpoint : Endpoint) (method : Method)
    (subpath : Path) :
    SortedSelection (if endpoint.actions = [] then api.actions else endpoint.actions)
      (fun b => b.rule.accepts method subpath) (selectActions api endpoint method subpath) := by
  have candidates : (if endpoint.actions.isEmpty then api.actions else endpoint.actions) =
      if endpoint.actions = [] then api.actions else endpoint.actions := by
    simp only [List.isEmpty_iff]
  rw [selectActions, candidates]
  exact sortedSelection_mergeSort _ _

namespace Resolver

theorem resolve_actions {r : Resolver} {method : Method} {x : Path} {res : Resolution}
    (resolved : r.resolve method x = .ok res) :
    res.actions = selectActions res.api res.endpoint method res.route.subpath := by
  have rules := Resolves.of_resolve resolved
  generalize answer : (Except.ok res : Except DispatchError Resolution) = outcome at rules
  cases rules with
  | unmapped => cases answer
  | unclaimed => cases answer
  | chosen before later api outcome read listed passed claimed routes =>
      cases outcome with
      | error failure => cases answer
      | ok chosen =>
          obtain ⟨endpoint, found⟩ := chosen
          simp only [Except.map, Except.ok.injEq] at answer
          subst answer
          rfl

end Resolver

/-- The actions of a resolution are exactly the sorted selection of its
endpoint's candidates, the endpoint's own actions or, when it has none, its
Api's: those whose rules accept the method and the subpath, each once, by rule
order and then by candidate index. -/
theorem resolve_actions_sorted (r : Resolver) (method : Method) (x : Path) (res : Resolution)
    (resolved : r.resolve method x = .ok res) (selected : List Binding) :
    res.actions = selected ↔
      SortedSelection (if res.endpoint.actions = [] then res.api.actions else res.endpoint.actions)
        (fun b => b.rule.accepts method res.route.subpath) selected := by
  have chosen := selectActions_sortedSelection res.api res.endpoint method res.route.subpath
  rw [← Resolver.resolve_actions resolved] at chosen
  constructor
  · rintro rfl
    exact chosen
  · intro other
    exact chosen.unique other

/-- The endpoint `items` of the Api `shop` has four actions: `audit` and
`check` at order 5, `log` at order 1, and `stock` for `POST` only. -/
def shopItems : Endpoint :=
  ⟨"items", ⟨":kind/*", [.variable "kind" none, .wildcard]⟩, Rule.default,
    [⟨"audit", default, { Rule.default with order := 5 }⟩, ⟨"log", default, { Rule.default with order := 1 }⟩,
      ⟨"stock", default, { Rule.default with methods := ⟨[⟨"POST"⟩]⟩ }⟩,
      ⟨"check", default, { Rule.default with order := 5 }⟩]⟩

/-- The Api `shop`, whose only endpoint is `items`. -/
def shopApi : Api := ⟨some "shop", none, false, [shopItems], []⟩

/-- A `GET` of `shop/items/7` reaches `items`, and its actions are the sorted
selection of the endpoint's four: `stock` is left out, `log` comes first, and
`audit` keeps its place before `check`. -/
theorem resolve_actions_sorted_shop :
    (Resolver.new [shopApi]).resolve Method.get ⟨["shop", "items", "7"]⟩ =
      .ok ⟨0, shopApi, shopItems, selectActions shopApi shopItems Method.get ⟨["7"]⟩,
        ⟨⟨["shop"]⟩, none, ⟨["items"]⟩, ⟨["7"]⟩, ⟨[("kind", "items")]⟩⟩⟩ ∧
    SortedSelection (if shopItems.actions = [] then shopApi.actions else shopItems.actions)
      (fun b => b.rule.accepts Method.get ⟨["7"]⟩) (selectActions shopApi shopItems Method.get ⟨["7"]⟩) :=
  ⟨rfl, (resolve_actions_sorted (Resolver.new [shopApi]) Method.get ⟨["shop", "items", "7"]⟩
    ⟨0, shopApi, shopItems, selectActions shopApi shopItems Method.get ⟨["7"]⟩,
      ⟨⟨["shop"]⟩, none, ⟨["items"]⟩, ⟨["7"]⟩, ⟨[("kind", "items")]⟩⟩⟩ rfl _).1 rfl⟩

end RestDispatch
