import RestDispatch.Dispatch.Request
import Mathlib.Data.List.TakeDrop
import Mathlib.Data.List.TakeWhile
import Mathlib.Data.List.Find
import Mathlib.Data.List.Induction

/-!
# Reading a request target

A request reads the same path and query from every form of its URL. A target
`path[?query][#fragment]` whose path is empty or starts with `/` is always
read; an absolute URL `scheme://authority` followed by such a target is read
whenever it is well formed, and gives the same path and query. The path is the
text as written, split at `/`; the query is the form pairs of the query text,
each key at the place of its first pair and with the value of its last.

Reading fails exactly when the text before the fragment and the query has the
form `scheme://…` with a well-formed scheme name and the whole URL is not a
well-formed absolute URL (`ReadsEveryForm.fails`).
-/

namespace RestDispatch

open RestDispatch.Web RestDispatch.Text

set_option autoImplicit false

namespace Settings

theorem keys_insert (s : Settings) (key value : String) :
    (s.insert key value).entries.map Prod.fst =
      if key ∈ s.entries.map Prod.fst then s.entries.map Prod.fst else s.entries.map Prod.fst ++ [key] := by
  unfold insert
  split
  · rename_i present
    have member : key ∈ s.entries.map Prod.fst := by
      simpa using present
    rw [if_pos member, List.map_map]
    -- an entry that is replaced keeps its key
    apply List.map_congr_left
    intro kv _
    by_cases same : kv.1 = key <;> simp [same]
  · rename_i absent
    have notMember : key ∉ s.entries.map Prod.fst := by
      simpa using absent
    rw [if_neg notMember, List.map_append]
    rfl

theorem get?_insert (s : Settings) (key value look : String) :
    (s.insert key value).get? look = if key = look then some value else s.get? look := by
  unfold insert get?
  split
  · rename_i present
    rw [List.find?_map]
    -- replacing values keeps which entry is the first with a key
    have sameFirst : s.entries.find? ((fun kv => kv.1 == look) ∘ fun kv =>
        if kv.1 == key then (key, value) else kv) = s.entries.find? fun kv => kv.1 == look := by
      apply List.find?_congr
      intro kv _
      by_cases same : kv.1 = key <;> simp [same]
    rw [sameFirst]
    split
    · rename_i keyIsLook
      subst keyIsLook
      obtain ⟨kv, member, holds⟩ := List.any_eq_true.1 present
      have someFirst : (s.entries.find? fun kv => kv.1 == key).isSome :=
        List.find?_isSome.2 ⟨kv, member, holds⟩
      obtain ⟨first, found⟩ := Option.isSome_iff_exists.1 someFirst
      have firstKey : first.1 = key := by simpa using List.find?_some found
      simp [found, firstKey]
    · rename_i other
      cases found : s.entries.find? fun kv => kv.1 == look with
      | none => rfl
      | some kv =>
        have firstKey : kv.1 = look := by simpa using List.find?_some found
        have notKey : kv.1 ≠ key := fun same => other (same ▸ firstKey)
        simp [notKey]
  · rename_i absent
    dsimp only
    rw [List.find?_append]
    split
    · rename_i keyIsLook
      subst keyIsLook
      have none : s.entries.find? (fun kv => kv.1 == key) = none :=
        List.find?_eq_none.2 fun kv member holds => absent (List.any_eq_true.2 ⟨kv, member, holds⟩)
      simp [none]
    · rename_i other
      have skipped : [(key, value)].find? (fun kv => kv.1 == look) = none := by
        simp [other]
      rw [skipped, Option.or_none]

theorem ofPairs_append_singleton (init : List (String × String)) (pair : String × String) :
    ofPairs (init ++ [pair]) = (ofPairs init).insert pair.1 pair.2 := by
  simp only [ofPairs, insertAll, List.foldl_append, List.foldl_cons, List.foldl_nil]

theorem ofPairs_keys (pairs : List (String × String)) :
    (ofPairs pairs).entries.map Prod.fst = (pairs.map Prod.fst).eraseDups := by
  induction pairs using List.reverseRecOn with
  | nil => rfl
  | append_singleton init pair induction =>
    rw [ofPairs_append_singleton, keys_insert, induction, List.map_append, List.eraseDups_append, List.map_singleton]
    by_cases seen : pair.1 ∈ init.map Prod.fst
    · rw [if_pos (List.mem_eraseDups.2 seen)]
      simp [List.removeAll, seen]
    · rw [if_neg (fun member => seen (List.mem_eraseDups.1 member))]
      simp [List.removeAll, seen, List.eraseDups_cons]

theorem get?_ofPairs (pairs : List (String × String)) (key : String) :
    (ofPairs pairs).get? key = pairs.reverse.lookup key := by
  induction pairs using List.reverseRecOn with
  | nil => rfl
  | append_singleton init pair induction =>
    rw [ofPairs_append_singleton, get?_insert, induction, List.reverse_append, List.reverse_singleton, List.singleton_append,
      List.lookup_cons]
    by_cases same : pair.1 = key
    · simp [same]
    · have differ : (key == pair.1) = false := by
        simpa using fun h => same h.symm
      simp [same, differ]

end Settings

section Cutting

theorem splitAtFirst_of_absent {c : Char} {cs : List Char} (absent : c ∉ cs) :
    splitAtFirst c cs = (cs, none) := by
  have kept : ∀ d ∈ cs, (d != c) = true := fun d member => by
    simpa using fun same : d = c => absent (same ▸ member)
  unfold splitAtFirst
  rw [List.span_eq_takeWhile_dropWhile, List.takeWhile_eq_self_iff.2 kept,
    List.dropWhile_eq_nil_iff.2 kept]

theorem splitAtFirst_of_split {c : Char} {before after : List Char} (absent : c ∉ before) :
    splitAtFirst c (before ++ c :: after) = (before, some after) := by
  have kept : ∀ d ∈ before, (d != c) = true := fun d member => by
    simpa using fun same : d = c => absent (same ▸ member)
  unfold splitAtFirst
  rw [List.span_eq_takeWhile_dropWhile, List.takeWhile_append_of_pos kept,
    List.dropWhile_append_of_pos kept, List.takeWhile_cons_of_neg (by simp),
    List.dropWhile_cons_of_neg (by simp), List.append_nil]

theorem splitAtFirst_fst (c : Char) (cs : List Char) :
    (splitAtFirst c cs).1 = cs.takeWhile (· != c) := by
  unfold splitAtFirst
  rw [List.span_eq_takeWhile_dropWhile]
  cases cs.dropWhile (· != c) <;> rfl

/-- The text `path[?query][#fragment]`. -/
def targetText (path : String) (query fragment : Option String) : String :=
  path ++ (query.map ("?" ++ ·)).getD "" ++ (fragment.map ("#" ++ ·)).getD ""

theorem targetText_toList (path : String) (query fragment : Option String) :
    (targetText path query fragment).toList =
      path.toList ++ (query.map fun q => '?' :: q.toList).getD [] ++
        (fragment.map fun f => '#' :: f.toList).getD [] := by
  cases query <;> cases fragment <;> simp [targetText, String.toList_append]

/-- A path and a query that read back apart from the text of a target: the
path is empty or starts with `/` and holds no `?` or `#`, and the query holds
no `#`. -/
def TargetParts (path : String) (query : Option String) : Prop :=
  (path.toList = [] ∨ path.toList.head? = some '/') ∧ '?' ∉ path.toList ∧ '#' ∉ path.toList ∧
    ∀ q ∈ query, '#' ∉ q.toList

theorem cut_targetText {pre : List Char} (preHash : '#' ∉ pre) (preQuery : '?' ∉ pre)
    {path : String} {query : Option String} (parts : TargetParts path query) (fragment : Option String) :
    splitAtFirst '?' (splitAtFirst '#' (pre ++ (targetText path query fragment).toList)).1 =
      (pre ++ path.toList, query.map String.toList) := by
  obtain ⟨-, pathQuery, pathHash, queryHash⟩ := parts
  have noHash : '#' ∉ pre ++ path.toList ++ (query.map fun q => '?' :: q.toList).getD [] := by
    cases query with
    | none => simp [preHash, pathHash]
    | some q => simp [preHash, pathHash, queryHash q rfl]
  -- the fragment starts at the first `#`
  have beforeFragment : (splitAtFirst '#' (pre ++ (targetText path query fragment).toList)).1 =
      pre ++ path.toList ++ (query.map fun q => '?' :: q.toList).getD [] := by
    rw [targetText_toList, ← List.append_assoc, ← List.append_assoc]
    cases fragment with
    | none => rw [Option.map_none, Option.getD_none, List.append_nil, splitAtFirst_of_absent noHash]
    | some f => rw [Option.map_some, Option.getD_some, splitAtFirst_of_split noHash]
  have noQuery : '?' ∉ pre ++ path.toList := by
    simp [preQuery, pathQuery]
  rw [beforeFragment]
  cases query with
  | none => rw [Option.map_none, Option.getD_none, List.append_nil, splitAtFirst_of_absent noQuery, Option.map_none]
  | some q => rw [Option.map_some, Option.getD_some, splitAtFirst_of_split noQuery, Option.map_some]

end Cutting

section Scheme

theorem splitScheme?_go_sound {before cs scheme rest : List Char}
    (split : splitScheme?.go before cs = some (scheme, rest)) :
    before.reverse ++ cs = scheme ++ ':' :: '/' :: '/' :: rest := by
  fun_induction splitScheme?.go before cs with
  | case1 before after =>
    simp only [Option.some.injEq, Prod.mk.injEq] at split
    obtain ⟨rfl, rfl⟩ := split
    rfl
  | case2 before c after _ induction =>
    rw [← induction split, List.reverse_cons, List.append_assoc, List.singleton_append]
  | case3 => cases split

/-- A scheme is read up to the first `://`. -/
theorem splitScheme?_sound {target scheme rest : List Char}
    (split : splitScheme? target = some (scheme, rest)) : target = scheme ++ ':' :: '/' :: '/' :: rest :=
  splitScheme?_go_sound split

theorem splitScheme?_go_of_colonFree (before : List Char) {scheme : List Char} (rest : List Char)
    (colonFree : ':' ∉ scheme) :
    splitScheme?.go before (scheme ++ ':' :: '/' :: '/' :: rest) = some (before.reverse ++ scheme, rest) := by
  induction scheme generalizing before with
  | nil => simp [splitScheme?.go]
  | cons c scheme induction =>
    have notColon : c ≠ ':' := fun same => colonFree (same ▸ List.mem_cons_self)
    rw [List.cons_append, splitScheme?.go]
    · rw [induction (c :: before) fun member => colonFree (List.mem_cons_of_mem c member)]
      simp
    · intro _ same
      exact absurd same notColon

theorem splitScheme?_of_colonFree {scheme : List Char} (rest : List Char) (colonFree : ':' ∉ scheme) :
    splitScheme? (scheme ++ ':' :: '/' :: '/' :: rest) = some (scheme, rest) :=
  splitScheme?_go_of_colonFree [] rest colonFree

theorem isSchemeName_chars {s : String} (named : isSchemeName s = true) :
    ∀ c ∈ s.toList, c ≠ ':' ∧ c ≠ '#' ∧ c ≠ '?' ∧ c ≠ '/' := by
  unfold isSchemeName at named
  split at named
  · rename_i first rest spelled
    simp only [Bool.and_eq_true, List.all_eq_true] at named
    obtain ⟨letter, others⟩ := named
    intro c member
    rw [spelled] at member
    rcases List.mem_cons.1 member with rfl | inRest
    · refine ⟨?_, ?_, ?_, ?_⟩ <;> rintro rfl <;> revert letter <;> decide
    · have allowed := others c inRest
      refine ⟨?_, ?_, ?_, ?_⟩ <;> rintro rfl <;> revert allowed <;> decide
  · cases named

theorem not_isSchemeName_of_head {s : String} (head : s.toList = [] ∨ s.toList.head? = some '/') :
    isSchemeName s = false := by
  unfold isSchemeName
  split
  · rename_i first rest spelled
    rcases head with empty | slash
    · rw [spelled] at empty
      cases empty
    · rw [spelled] at slash
      simp only [List.head?_cons, Option.some.injEq] at slash
      subst slash
      have notLetter : '/'.isAlpha = false := by decide
      simp [notLetter]
  · rfl

end Scheme

section Reading

theorem targetPath_of_unnamed (url : String) {target : List Char}
    (unnamed : ∀ scheme rest, splitScheme? target = some (scheme, rest) →
      isSchemeName (String.ofList scheme) = false) :
    targetPath url target = .ok (String.ofList target) := by
  unfold targetPath
  split
  · rename_i scheme rest split
    rw [if_neg (by simp [unnamed scheme rest split])]
  · rfl

theorem targetPath_of_named {url : String} {target scheme rest : List Char}
    (split : splitScheme? target = some (scheme, rest)) (named : isSchemeName (String.ofList scheme) = true)
    (wellFormed : checkUrl url = .ok ()) :
    targetPath url target = .ok (String.ofList (rest.dropWhile (· != '/'))) := by
  simp [targetPath, split, named, wellFormed]

theorem targetPath_eq_error_iff (url : String) (target : List Char) (e : UrlError) :
    targetPath url target = .error e ↔
      (∃ scheme rest, splitScheme? target = some (scheme, rest) ∧ isSchemeName (String.ofList scheme) = true) ∧
        checkUrl url = .error e := by
  unfold targetPath
  cases split : splitScheme? target with
  | none => simp
  | some parts =>
    obtain ⟨scheme, rest⟩ := parts
    by_cases named : isSchemeName (String.ofList scheme) = true
    · cases checkUrl url <;> simp [named]
    · simp [named]

theorem parse_eq_ok {id : RequestId} {method : Method} {url : String} {target : List Char}
    {query : Option (List Char)} {raw : String}
    (cut : splitAtFirst '?' (splitAtFirst '#' url.toList).1 = (target, query))
    (read : targetPath url target = .ok raw) :
    Request.parse id method url = .ok ⟨id, method, url, Path.ofString raw,
      Settings.ofPairs ((query.map fun q => formPairs (String.ofList q)).getD []), .empty, none, none⟩ := by
  unfold Request.parse
  simp only [cut, read]
  cases query <;> rfl

theorem parse_eq_error_iff (id : RequestId) (method : Method) (url : String) (e : UrlError) :
    Request.parse id method url = .error e ↔
      targetPath url (splitAtFirst '?' (splitAtFirst '#' url.toList).1).1 = .error e := by
  rcases parts : splitAtFirst '?' (splitAtFirst '#' url.toList).1 with ⟨target, query⟩
  simp only [Request.parse, parts]
  cases targetPath url target <;> simp

end Reading

/-- The form pairs of a query; none without one. -/
def queryPairs (query : Option String) : List (String × String) :=
  (query.map formPairs).getD []

/-- A request read from a target with this path and query: its path is the
path split as written, and its query holds the keys of the query's form pairs,
each at the place of its first pair, with the value of its last. -/
structure Request.Reads (r : Request) (path : String) (query : Option String) : Prop where
  path : r.path = Path.ofString path
  queryKeys : r.query.entries.map Prod.fst = ((queryPairs query).map Prod.fst).eraseDups
  queryValues : ∀ key, r.query.get? key = (queryPairs query).reverse.lookup key

theorem reads_of_parse {id : RequestId} {method : Method} {url path : String}
    {target : List Char} {query : Option String}
    (cut : splitAtFirst '?' (splitAtFirst '#' url.toList).1 = (target, query.map String.toList))
    (read : targetPath url target = .ok path) :
    ∃ r, Request.parse id method url = .ok r ∧ r.Reads path query := by
  refine ⟨_, parse_eq_ok cut read, ?_⟩
  have pairs : ((query.map String.toList).map fun q => formPairs (String.ofList q)).getD [] =
      queryPairs query := by
    cases query <;> simp [queryPairs]
  refine ⟨rfl, ?_, fun key => ?_⟩
  · rw [pairs]
    exact Settings.ofPairs_keys _
  · rw [pairs]
    exact Settings.get?_ofPairs _ key

/-- An authority: text without `/`, `?` or `#`. -/
def AuthorityText (authority : String) : Prop :=
  '/' ∉ authority.toList ∧ '?' ∉ authority.toList ∧ '#' ∉ authority.toList

/-- How a request reads its URL. -/
structure ReadsEveryForm (id : RequestId) (method : Method) : Prop where
  /-- A target `path[?query][#fragment]` is always read. -/
  relative : ∀ path query fragment, TargetParts path query →
    ∃ r, Request.parse id method (targetText path query fragment) = .ok r ∧ r.Reads path query
  /-- A well-formed absolute URL with such a target reads the same path and query. -/
  absolute : ∀ scheme authority path query fragment, isSchemeName scheme = true →
    AuthorityText authority → TargetParts path query →
    checkUrl (scheme ++ "://" ++ authority ++ targetText path query fragment) = .ok () →
    ∃ r, Request.parse id method (scheme ++ "://" ++ authority ++ targetText path query fragment) = .ok r ∧
      r.Reads path query
  /-- Reading fails exactly when the text before the fragment and the query is
  `scheme://…` with a scheme name and the URL is not well formed. -/
  fails : ∀ url e, Request.parse id method url = .error e ↔
    (∃ scheme rest, (url.toList.takeWhile (· != '#')).takeWhile (· != '?') =
        scheme.toList ++ "://".toList ++ rest ∧ isSchemeName scheme = true) ∧
      checkUrl url = .error e

section Forms

variable (id : RequestId) (method : Method)

theorem unnamed_of_targetParts {path : String} {query : Option String} (parts : TargetParts path query) :
    ∀ scheme rest, splitScheme? path.toList = some (scheme, rest) →
      isSchemeName (String.ofList scheme) = false := by
  intro scheme rest split
  have whole := splitScheme?_sound split
  apply not_isSchemeName_of_head
  rw [String.toList_ofList]
  rcases parts.1 with empty | slash
  · rw [empty] at whole
    cases scheme <;> cases whole
  · rw [whole] at slash
    cases scheme with
    | nil => cases slash
    | cons c _ => exact .inr slash

theorem parse_target_reads (path : String) (query fragment : Option String) (parts : TargetParts path query) :
    ∃ r, Request.parse id method (targetText path query fragment) = .ok r ∧ r.Reads path query := by
  have cut := cut_targetText List.not_mem_nil List.not_mem_nil parts fragment
  rw [List.nil_append, List.nil_append] at cut
  have read := targetPath_of_unnamed (targetText path query fragment) (unnamed_of_targetParts parts)
  rw [String.ofList_toList] at read
  exact reads_of_parse cut read

theorem dropWhile_authority {authority path : String} {query : Option String} (noSlash : '/' ∉ authority.toList)
    (parts : TargetParts path query) :
    (authority.toList ++ path.toList).dropWhile (· != '/') = path.toList := by
  -- the authority holds no `/`, so all of it is dropped
  rw [List.dropWhile_append_of_pos fun c member => by
    simpa using fun same : c = '/' => noSlash (same ▸ member)]
  rcases parts.1 with empty | slash
  · rw [empty]
    rfl
  · obtain ⟨rest, spelled⟩ := List.head?_eq_some_iff.1 slash
    rw [spelled, List.dropWhile_cons_of_neg (by simp)]

theorem parse_absolute_reads (scheme authority path : String) (query fragment : Option String)
    (named : isSchemeName scheme = true) (authorityText : AuthorityText authority)
    (parts : TargetParts path query)
    (wellFormed : checkUrl (scheme ++ "://" ++ authority ++ targetText path query fragment) = .ok ()) :
    ∃ r, Request.parse id method (scheme ++ "://" ++ authority ++ targetText path query fragment) = .ok r ∧
      r.Reads path query := by
  obtain ⟨noSlash, noQuery, noHash⟩ := authorityText
  have schemeChars := isSchemeName_chars named
  have pre : (scheme ++ "://" ++ authority ++ targetText path query fragment).toList =
      (scheme.toList ++ ':' :: '/' :: '/' :: authority.toList) ++
        (targetText path query fragment).toList := by
    simp [String.toList_append]
  -- neither the scheme nor the authority holds a `#` or a `?`, so the target is cut as alone
  have preHash : '#' ∉ scheme.toList ++ ':' :: '/' :: '/' :: authority.toList := by
    simpa using ⟨fun member => (schemeChars _ member).2.1 rfl, noHash⟩
  have preQuery : '?' ∉ scheme.toList ++ ':' :: '/' :: '/' :: authority.toList := by
    simpa using ⟨fun member => (schemeChars _ member).2.2.1 rfl, noQuery⟩
  have cut := cut_targetText preHash preQuery parts fragment
  rw [← pre, List.append_assoc, List.cons_append, List.cons_append, List.cons_append] at cut
  have split := splitScheme?_of_colonFree (authority.toList ++ path.toList)
    fun member => (schemeChars _ member).1 rfl
  have read := targetPath_of_named split (by rw [String.ofList_toList]; exact named) wellFormed
  rw [dropWhile_authority noSlash parts, String.ofList_toList] at read
  exact reads_of_parse cut read

theorem parse_eq_error_iff_named (url : String) (e : UrlError) :
    Request.parse id method url = .error e ↔
      (∃ scheme rest, (url.toList.takeWhile (· != '#')).takeWhile (· != '?') =
          scheme.toList ++ "://".toList ++ rest ∧ isSchemeName scheme = true) ∧
        checkUrl url = .error e := by
  rw [parse_eq_error_iff, targetPath_eq_error_iff, splitAtFirst_fst, splitAtFirst_fst]
  have separator : "://".toList = [':', '/', '/'] := by simp
  apply and_congr_left'
  constructor
  · rintro ⟨scheme, rest, split, named⟩
    refine ⟨String.ofList scheme, rest, ?_, named⟩
    rw [String.toList_ofList, splitScheme?_sound split, separator, List.append_assoc]
    rfl
  · rintro ⟨scheme, rest, spelled, named⟩
    have colonFree : ':' ∉ scheme.toList := fun member => (isSchemeName_chars named _ member).1 rfl
    refine ⟨scheme.toList, rest, ?_, by rwa [String.ofList_toList]⟩
    rw [spelled, separator, List.append_assoc]
    exact splitScheme?_of_colonFree rest colonFree

end Forms

/-- A request reads the same path and query from a target and from a
well-formed absolute URL that ends with it, and fails only on an ill-formed
absolute URL. -/
theorem parse_reads_every_form (id : RequestId) (method : Method) : ReadsEveryForm id method where
  relative := parse_target_reads id method
  absolute := parse_absolute_reads id method
  fails := parse_eq_error_iff_named id method

end RestDispatch
