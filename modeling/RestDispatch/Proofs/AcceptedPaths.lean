import RestDispatch.Proofs.PathMatching

/-!
# The paths a pattern accepts

Whole-path matching reads the segments of a pattern one path segment each. A
wildcard accepts the rest of the path; once an optional segment has been
reached, the path may end at that segment or at any later one, optional or
not. So the paths a pattern accepts are closed under two rules:

* cutting an accepted path anywhere at or after the fixed prefix (the segments
  before the first wildcard or optional one) leaves an accepted path, whose
  captures are a prefix of the longer path's;
* an accepted path that reaches the first wildcard stays accepted, with the
  same captures, whatever follows it.

A pattern without a wildcard accepts no path shorter than its fixed prefix and
none longer than itself. `matchPath_closed` collects the four facts.
-/

namespace RestDispatch

set_option autoImplicit false

namespace Cursor

theorem next_eq_some_iff {x : Path} {o : Nat} {value : String} {c' : Cursor} :
    (⟨x, o⟩ : Cursor).next = some (value, c') ↔ x.segments[o]? = some value ∧ c' = ⟨x, o + 1⟩ := by
  simp only [next, peek, Path.get?, Option.map_eq_some_iff, Prod.mk.injEq]
  constructor
  · rintro ⟨segment, found, rfl, rfl⟩
    exact ⟨found, rfl⟩
  · rintro ⟨found, rfl⟩
    exact ⟨value, found, rfl, rfl⟩

end Cursor

namespace PathPattern

/-- The number of leading segments that are neither wildcards nor optional. -/
def fixedLength (segments : List Segment) : Nat :=
  (segments.takeWhile fun s => !(s.isWildcard || s.isOptional)).length

@[simp] theorem fixedLength_nil : fixedLength [] = 0 := rfl

theorem fixedLength_cons (s : Segment) (rest : List Segment) :
    fixedLength (s :: rest) = if (s.isWildcard || s.isOptional) = true then 0 else fixedLength rest + 1 := by
  unfold fixedLength
  rw [List.takeWhile_cons]
  by_cases stops : (s.isWildcard || s.isOptional) = true <;> simp [stops]

theorem fixedPrefix_length (p : PathPattern) : p.fixedPrefix.length = fixedLength p.segments := rfl

section Steps

variable {path x : Path} {s : Segment} {rest : List Segment} {o : Nat} {optional : Bool}
  {params : Params}

theorem matchSegments_cons_read {value : String} (notWildcard : s.isWildcard = false)
    (read : x.segments[o]? = some value) :
    matchSegments path (s :: rest) ⟨x, o⟩ optional params =
      match s.check value o with
      | .accepted => matchSegments path rest ⟨x, o + 1⟩ (optional || s.isOptional) params
      | .captured v =>
          matchSegments path rest ⟨x, o + 1⟩ (optional || s.isOptional) (params.push s.captureName v)
      | .mismatch => .noMatch
      | .violation v => .violation v := by
  have next : (⟨x, o⟩ : Cursor).next = some (value, ⟨x, o + 1⟩) :=
    Cursor.next_eq_some_iff.2 ⟨read, rfl⟩
  cases checked : s.check value o <;>
    simp only [matchSegments, notWildcard, Bool.false_eq_true, if_false, next, checked]

theorem matchSegments_cons_end (notWildcard : s.isWildcard = false) (ended : x.length ≤ o) :
    matchSegments path (s :: rest) ⟨x, o⟩ optional params =
      if (optional || s.isOptional) = true then .matched ⟨params, path⟩ else .noMatch := by
  have next : (⟨x, o⟩ : Cursor).next = none := (Cursor.next_eq_none_iff _).2 ended
  simp only [matchSegments, notWildcard, Bool.false_eq_true, if_false, next]

theorem matchSegments_cons_continue {value : String} {e : Extraction}
    (notWildcard : s.isWildcard = false) (read : x.segments[o]? = some value)
    (matched : matchSegments path (s :: rest) ⟨x, o⟩ optional params = .matched e) :
    ∃ params', matchSegments path rest ⟨x, o + 1⟩ (optional || s.isOptional) params' = .matched e ∧
      ∀ path' x' : Path, x'.segments[o]? = some value →
        matchSegments path' (s :: rest) ⟨x', o⟩ optional params =
          matchSegments path' rest ⟨x', o + 1⟩ (optional || s.isOptional) params' := by
  rw [matchSegments_cons_read notWildcard read] at matched
  -- what the segment captures depends on the value alone, so a path with the
  -- same value there goes on alike
  cases checked : s.check value o with
  | accepted =>
      rw [checked] at matched
      exact ⟨params, matched, fun path' x' read' => by rw [matchSegments_cons_read notWildcard read', checked]⟩
  | captured v =>
      rw [checked] at matched
      exact ⟨params.push s.captureName v, matched,
        fun path' x' read' => by rw [matchSegments_cons_read notWildcard read', checked]⟩
  | mismatch => simp [checked] at matched
  | violation v => simp [checked] at matched

theorem matchSegments_matched_path {segments : List Segment} {cur : Cursor} {e : Extraction}
    (matched : matchSegments path segments cur optional params = .matched e) : e.matched = path := by
  induction segments generalizing cur optional params with
  | nil =>
      simp only [matchSegments] at matched
      split at matched
      · simp only [PathMatch.matched.injEq] at matched
        rw [← matched]
      · simp at matched
  | cons s rest induction =>
      simp only [matchSegments] at matched
      split at matched
      · simp only [PathMatch.matched.injEq] at matched
        rw [← matched]
      · split at matched
        · split at matched
          · simp only [PathMatch.matched.injEq] at matched
            rw [← matched]
          · simp at matched
        · split at matched
          · exact induction matched
          · exact induction matched
          · simp at matched
          · simp at matched

end Steps

section Prefixes

variable {x x' : Path}

/-- Matching a prefix `x'` of a path `x` that `x` matched: while both have
segments the two runs read the same values and check them alike, and `x'`
ends no earlier than the fixed prefix, where an optional segment or a wildcard
lets it end. -/
theorem matchSegments_of_prefix (isPrefix : x'.segments <+: x.segments) {segments : List Segment}
    {o : Nat} {optional : Bool} {params : Params} {e : Extraction}
    (reach : optional = true ∨ o + fixedLength segments ≤ x'.length)
    (matched : matchSegments x segments ⟨x, o⟩ optional params = .matched e) :
    ∃ e', matchSegments x' segments ⟨x', o⟩ optional params = .matched e' ∧
      e'.params.pairs <+: e.params.pairs := by
  induction segments generalizing o optional params with
  | nil =>
      -- `x` was read to its end, so its prefix `x'` was too
      have whole : x.length ≤ o := by
        simp only [matchSegments] at matched
        split at matched
        next ended => simpa [Cursor.isEmpty] using ended
        next => simp at matched
      have shorter : x'.length ≤ x.length := isPrefix.length_le
      have ended : (⟨x', o⟩ : Cursor).isEmpty = true := by
        simp only [Cursor.isEmpty, decide_eq_true_eq]
        omega
      exact ⟨⟨params, x'⟩, by simp [matchSegments, ended], params_prefix_of_matchSegments matched⟩
  | cons s rest induction =>
      cases wildcard : s.isWildcard with
      | true =>
          refine ⟨⟨params, x'⟩, by simp [matchSegments, wildcard], ?_⟩
          exact params_prefix_of_matchSegments matched
      | false =>
          by_cases inside : o < x'.length
          · obtain ⟨value, readShort⟩ : ∃ value, x'.segments[o]? = some value :=
              ⟨x'.segments[o], List.getElem?_eq_getElem inside⟩
            have readLong : x.segments[o]? = some value := by
              obtain ⟨tail, whole⟩ := isPrefix
              rw [← whole, List.getElem?_append_left inside]
              exact readShort
            -- past this segment the fixed prefix is one shorter, unless an
            -- optional segment was reached
            have reachRest : (optional || s.isOptional) = true ∨ o + 1 + fixedLength rest ≤ x'.length := by
              cases optionalHere : s.isOptional with
              | true => exact .inl (Bool.or_true optional)
              | false =>
                  rw [fixedLength_cons, wildcard, optionalHere] at reach
                  rcases reach with reached | within
                  · exact .inl (by simp [reached])
                  · exact .inr (by simp at within; omega)
            obtain ⟨params', continued, same⟩ := matchSegments_cons_continue wildcard readLong matched
            rw [same x' x' readShort]
            exact induction reachRest continued
          · -- `x'` ends here, which the fixed prefix allows only at an
            -- optional segment or once one was reached
            have optional' : (optional || s.isOptional) = true := by
              cases optionalHere : s.isOptional with
              | true => exact Bool.or_true optional
              | false =>
                  rw [fixedLength_cons, wildcard, optionalHere] at reach
                  rcases reach with reached | within
                  · simp [reached]
                  · simp at within
                    omega
            refine ⟨⟨params, x'⟩, ?_, params_prefix_of_matchSegments matched⟩
            rw [matchSegments_cons_end wildcard (by omega), if_pos optional']

end Prefixes

section Extensions

variable {x : Path} (y : Path)

theorem matchSegments_join_of_wildcard {segments : List Segment} {o : Nat} {optional : Bool}
    {params : Params} {e : Extraction}
    (present : segments.findIdx Segment.isWildcard < segments.length)
    (reach : o + segments.findIdx Segment.isWildcard ≤ x.length)
    (matched : matchSegments x segments ⟨x, o⟩ optional params = .matched e) :
    matchSegments (x.join y) segments ⟨x.join y, o⟩ optional params = .matched ⟨e.params, x.join y⟩ := by
  induction segments generalizing o optional params with
  | nil => simp at present
  | cons s rest induction =>
      cases wildcard : s.isWildcard with
      | true =>
          -- the run stops at the wildcard, having read nothing after it
          have same : e = ⟨params, x⟩ := by
            simpa [matchSegments, wildcard, eq_comm] using matched
          simp [matchSegments, wildcard, same]
      | false =>
          simp only [List.findIdx_cons, wildcard, cond_false, List.length_cons] at present reach
          have inside : o < x.segments.length := by
            simp only [Path.length] at reach
            omega
          have readShort : x.segments[o]? = some x.segments[o] := List.getElem?_eq_getElem inside
          have readLong : (x.join y).segments[o]? = some x.segments[o] := by
            simp only [Path.join]
            rw [List.getElem?_append_left inside]
            exact readShort
          obtain ⟨params', continued, same⟩ := matchSegments_cons_continue wildcard readShort matched
          rw [same (x.join y) (x.join y) readLong]
          exact induction (by omega) (by omega) continued

end Extensions

theorem length_le_of_matchSegments {path x : Path} {segments : List Segment} {o : Nat}
    {optional : Bool} {params : Params} {e : Extraction}
    (noWildcard : ∀ s ∈ segments, s.isWildcard = false)
    (matched : matchSegments path segments ⟨x, o⟩ optional params = .matched e) :
    x.length ≤ o + segments.length := by
  induction segments generalizing o optional params with
  | nil =>
      simp only [matchSegments] at matched
      split at matched
      next ended => simpa [Cursor.isEmpty] using ended
      next => simp at matched
  | cons s rest induction =>
      -- without a wildcard each segment reads one path segment or ends the match
      have wildcard := noWildcard s (List.mem_cons_self ..)
      have restNoWildcard : ∀ t ∈ rest, t.isWildcard = false :=
        fun t member => noWildcard t (List.mem_cons_of_mem s member)
      simp only [List.length_cons]
      by_cases inside : o < x.segments.length
      · have read : x.segments[o]? = some x.segments[o] := List.getElem?_eq_getElem inside
        obtain ⟨params', continued, -⟩ := matchSegments_cons_continue wildcard read matched
        have further := induction restNoWildcard continued
        omega
      · simp only [Path.length]
        omega

/-- What a pattern `p` accepting a path `x` with captures `e` says about
other paths. `f` is the length of the fixed prefix, the segments before the
first wildcard or optional one, and `w` the index of the first wildcard. -/
structure MatchClosed (p : PathPattern) (x : Path) (e : Extraction) : Prop where
  /-- The match covers the whole path. -/
  whole : e.matched = x
  /-- A prefix of `x` no shorter than `f` is accepted, with a prefix of the captures. -/
  prefixes : ∀ x' : Path, x'.segments <+: x.segments → p.fixedPrefix.length ≤ x'.length →
    ∃ e', p.matchPath x' = .matched e' ∧ e'.params.pairs <+: e.params.pairs
  /-- When `p` has a wildcard and `x` reaches it, anything may follow `x`. -/
  extensions : (∃ s ∈ p.segments, s.isWildcard = true) →
    p.segments.findIdx Segment.isWildcard ≤ x.length →
    ∀ y, p.matchPath (x.join y) = .matched ⟨e.params, x.join y⟩
  /-- Without a wildcard, `x` has between `f` and all of `p`'s segments. -/
  bounded : (∀ s ∈ p.segments, s.isWildcard = false) →
    p.fixedPrefix.length ≤ x.length ∧ x.length ≤ p.length

/-- The paths a pattern accepts are closed under its optional and wildcard
rules, and without a wildcard their length lies between the fixed prefix and
the whole pattern. -/
theorem matchPath_closed (p : PathPattern) (x : Path) (e : Extraction)
    (matched : p.matchPath x = .matched e) : MatchClosed p x e where
  whole := matchSegments_matched_path matched
  prefixes x' isPrefix long := by
    have reach : false = true ∨ 0 + fixedLength p.segments ≤ x'.length := by
      rw [← fixedPrefix_length]
      omega
    exact matchSegments_of_prefix isPrefix reach matched
  extensions present reach y := by
    have found : p.segments.findIdx Segment.isWildcard < p.segments.length :=
      List.findIdx_lt_length.2 present
    exact matchSegments_join_of_wildcard y found (by omega) matched
  bounded noWildcard := by
    -- the fixed prefix is read as extraction reads it
    obtain ⟨e', c', extracted, -⟩ := p.extract_of_matchPath_matched x matched
    obtain ⟨within, -⟩ := p.extract_matched (Nat.zero_le _) extracted
    have atMost := length_le_of_matchSegments noWildcard matched
    simp only [Cursor.start] at within
    exact ⟨by omega, by simpa [PathPattern.length] using atMost⟩

/-- `:collection/[:entity]/*` accepts `books/42`, capturing both segments. -/
theorem matchPath_closed_books_entity :
    (⟨":collection/[:entity]/*", [.variable "collection" none, .optional (.variable "entity" none),
        .wildcard]⟩ : PathPattern).matchPath ⟨["books", "42"]⟩ =
      .matched ⟨⟨[("collection", "books"), ("entity", "42")]⟩, ⟨["books", "42"]⟩⟩ ∧
    MatchClosed ⟨":collection/[:entity]/*", [.variable "collection" none,
        .optional (.variable "entity" none), .wildcard]⟩ ⟨["books", "42"]⟩
      ⟨⟨[("collection", "books"), ("entity", "42")]⟩, ⟨["books", "42"]⟩⟩ :=
  ⟨by decide, matchPath_closed _ _ _ (by decide)⟩

end PathPattern

end RestDispatch
