import RestDispatch.Route.Rule
import Mathlib.Data.List.Induction

/-!
# Pattern lists

A rule takes its include and exclude patterns from comma-separated lists. A
comma splits the list only at the top level of brace nesting, so the commas of
a constraint such as `{id:[0-9]{1,8}}` stay in their pattern; each piece is
trimmed and blank pieces are dropped. A pattern is added only when no pattern
with the same normalised text is already in the list.

`splitPatternList_intercalate` reads pieces joined by commas back when their
commas are nested, `foldl_pushUnique` says which patterns the builders add (the
fresh ones, `freshPatterns`), and `patternLists_add_fresh` puts the two
together: no sequence of builder calls leaves two patterns with one text.
-/

namespace RestDispatch

set_option autoImplicit false

open RestDispatch.Text

/-- The depth of brace nesting after one more character: one deeper at `{`,
one shallower at `}` but never below the top level. -/
def braceStep (depth : Nat) (c : Char) : Nat :=
  if c = '\x7b' then depth + 1 else if c = '\x7d' then depth - 1 else depth

/-- Read from `depth`, every comma of `cs` lies inside braces. -/
def CommasNestedFrom (depth : Nat) (cs : List Char) : Prop :=
  ∀ i (h : i < cs.length), cs[i] = ',' → (cs.take i).foldl braceStep depth ≠ 0

instance (depth : Nat) (cs : List Char) : Decidable (CommasNestedFrom depth cs) :=
  inferInstanceAs (Decidable (∀ i (h : i < cs.length), cs[i] = ',' → (cs.take i).foldl braceStep depth ≠ 0))

theorem CommasNestedFrom.head_ne {depth : Nat} {c : Char} {cs : List Char}
    (nested : CommasNestedFrom depth (c :: cs)) : ¬ (c = ',' ∧ depth = 0) := by
  rintro ⟨rfl, rfl⟩
  exact nested 0 (by simp) rfl rfl

theorem CommasNestedFrom.tail {depth : Nat} {c : Char} {cs : List Char}
    (nested : CommasNestedFrom depth (c :: cs)) : CommasNestedFrom (braceStep depth c) cs := by
  intro i inside comma
  simpa using nested (i + 1) (by simpa using inside) (by simpa using comma)

theorem splitPatternChars_cons {c : Char} {depth : Nat} (kept : ¬ (c = ',' ∧ depth = 0))
    (rest piece : List Char) :
    splitPatternChars (c :: rest) depth piece = splitPatternChars rest (braceStep depth c) (c :: piece) := by
  by_cases opening : c = '\x7b'
  · simp [splitPatternChars, braceStep, opening]
  · by_cases closing : c = '\x7d'
    · simp [splitPatternChars, braceStep, closing]
    · simp [splitPatternChars, braceStep, opening, closing, kept]

theorem splitPatternChars_append {depth : Nat} {cs : List Char} (nested : CommasNestedFrom depth cs)
    (rest piece : List Char) :
    splitPatternChars (cs ++ rest) depth piece =
      splitPatternChars rest (cs.foldl braceStep depth) (cs.reverse ++ piece) := by
  induction cs generalizing depth piece with
  | nil => rfl
  | cons c cs induction =>
      rw [List.cons_append, splitPatternChars_cons nested.head_ne, induction nested.tail]
      simp

theorem splitPatternChars_comma (rest piece : List Char) :
    splitPatternChars (',' :: rest) 0 piece = String.ofList piece.reverse :: splitPatternChars rest 0 [] := by
  simp [splitPatternChars]

/-- Pieces joined by commas are split back into those pieces when each piece
nests its commas and every piece but the last closes its braces. -/
theorem splitPatternChars_intercalate {qs : List String} (present : qs ≠ [])
    (nested : ∀ q ∈ qs, CommasNestedFrom 0 q.toList)
    (closed : ∀ q ∈ qs.dropLast, q.toList.foldl braceStep 0 = 0) :
    splitPatternChars ([','].intercalate (qs.map String.toList)) 0 [] = qs := by
  induction qs with
  | nil => exact absurd rfl present
  | cons q rest induction =>
      cases rest with
      | nil =>
          have whole := splitPatternChars_append (nested q (by simp)) [] []
          simpa [splitPatternChars] using whole
      | cons q' more =>
          have first := splitPatternChars_append (nested q (by simp))
            (',' :: [','].intercalate ((q' :: more).map String.toList)) []
          have closes : q.toList.foldl braceStep 0 = 0 := closed q (by simp)
          rw [closes, splitPatternChars_comma] at first
          rw [List.map_cons, List.intercalate_cons_of_ne_nil (by simp), List.append_assoc,
            List.singleton_append, first,
            induction (by simp) (fun p member => nested p (by simp_all))
              (fun p member => closed p (by simp_all))]
          simp

theorem splitPatternList_intercalate (qs : List String)
    (nested : ∀ q ∈ qs, CommasNestedFrom 0 q.toList)
    (closed : ∀ q ∈ qs.dropLast, q.toList.foldl braceStep 0 = 0) :
    splitPatternList (",".intercalate qs) = (qs.map trimBlank).filter (· != "") := by
  cases qs with
  | nil => simp [splitPatternList, splitPatternChars, trimBlank]
  | cons q rest =>
      have split := splitPatternChars_intercalate (List.cons_ne_nil q rest) nested closed
      simp only [splitPatternList, String.toList_intercalate]
      rw [show ",".toList = [','] from rfl, split]

/-- The patterns of `ps` whose normalised text occurs neither among `seen` nor
at an earlier pattern of `ps`, in their order. -/
def freshPatterns (seen ps : List PathPattern) : List PathPattern :=
  (ps.zipIdx.filter fun entry =>
    entry.1.raw ∉ seen.map PathPattern.raw ∧ entry.1.raw ∉ (ps.take entry.2).map PathPattern.raw).map Prod.fst

@[simp] theorem freshPatterns_nil (seen : List PathPattern) : freshPatterns seen [] = [] := rfl

theorem freshPatterns_concat (seen ps : List PathPattern) (p : PathPattern) :
    freshPatterns seen (ps ++ [p]) = freshPatterns seen ps ++
      if p.raw ∉ seen.map PathPattern.raw ∧ p.raw ∉ ps.map PathPattern.raw then [p] else [] := by
  unfold freshPatterns
  rw [List.zipIdx_append, List.filter_append, List.map_append]
  congr 1
  · -- an earlier pattern looks back only at patterns before it
    congr 1
    apply List.filter_congr
    intro entry member
    have before : entry.2 < ps.length := (List.mem_zipIdx' member).1
    rw [List.take_append_of_le_length (by omega)]
  · -- the last pattern looks back at all of `ps`
    have upto : (ps ++ [p]).take ps.length = ps := by simp
    simp only [Nat.zero_add, List.zipIdx_cons, List.zipIdx_nil, List.filter_cons, List.filter_nil, upto]
    by_cases fresh : p.raw ∉ seen.map PathPattern.raw ∧ p.raw ∉ ps.map PathPattern.raw <;>
      simp only [fresh, decide_eq_true_eq, not_false_eq_true, and_self, ↓reduceIte, List.map_cons,
        List.map_nil]

theorem mem_raws_append_freshPatterns (seen ps : List PathPattern) (t : String) :
    t ∈ (seen ++ freshPatterns seen ps).map PathPattern.raw ↔
      t ∈ seen.map PathPattern.raw ∨ t ∈ ps.map PathPattern.raw := by
  induction ps using List.reverseRecOn with
  | nil => simp
  | append_singleton ps p induction =>
      rw [freshPatterns_concat]
      by_cases fresh : p.raw ∉ seen.map PathPattern.raw ∧ p.raw ∉ ps.map PathPattern.raw
      · simp only [fresh, not_false_eq_true, and_self, if_true, ← List.append_assoc, List.map_append,
          List.mem_append] at induction ⊢
        rw [induction]
        simp [or_assoc]
      · -- a pattern that is not fresh brings a text already present
        have present : p.raw ∈ seen.map PathPattern.raw ∨ p.raw ∈ ps.map PathPattern.raw := by
          simpa only [not_and_or, not_not] using fresh
        rw [if_neg fresh, List.append_nil, induction]
        simp only [List.map_append, List.mem_append, List.map_cons, List.map_nil, List.mem_singleton]
        constructor
        · rintro (seenT | earlier)
          · exact .inl seenT
          · exact .inr (.inl earlier)
        · rintro (seenT | earlier | rfl)
          · exact .inl seenT
          · exact .inr earlier
          · exact present

theorem any_raw_eq_iff (l : List PathPattern) (p : PathPattern) :
    l.any (fun q => q.raw == p.raw) = true ↔ p.raw ∈ l.map PathPattern.raw := by
  simp

theorem foldl_pushUnique (seen ps : List PathPattern) :
    ps.foldl pushUnique seen = seen ++ freshPatterns seen ps := by
  induction ps using List.reverseRecOn with
  | nil => simp
  | append_singleton ps p induction =>
      rw [List.foldl_append, induction, freshPatterns_concat, List.foldl_cons, List.foldl_nil, pushUnique]
      by_cases fresh : p.raw ∉ seen.map PathPattern.raw ∧ p.raw ∉ ps.map PathPattern.raw
      · have absent : (seen ++ freshPatterns seen ps).any (fun q => q.raw == p.raw) = false := by
          rw [← Bool.not_eq_true, any_raw_eq_iff, mem_raws_append_freshPatterns]
          simpa only [not_or] using fresh
        rw [absent, if_pos fresh]
        simp
      · have present : (seen ++ freshPatterns seen ps).any (fun q => q.raw == p.raw) = true := by
          rw [any_raw_eq_iff, mem_raws_append_freshPatterns]
          simpa only [not_and_or, not_not] using fresh
        rw [present, if_neg fresh]
        simp

theorem nodup_pushUnique {l : List PathPattern} (distinct : (l.map PathPattern.raw).Nodup)
    (p : PathPattern) : ((pushUnique l p).map PathPattern.raw).Nodup := by
  unfold pushUnique
  split
  · exact distinct
  · rename_i present
    have absent : p.raw ∉ l.map PathPattern.raw := by
      rwa [← any_raw_eq_iff]
    simpa [List.nodup_append, distinct] using absent

theorem nodup_foldl_pushUnique (ps : List PathPattern) {l : List PathPattern}
    (distinct : (l.map PathPattern.raw).Nodup) : ((ps.foldl pushUnique l).map PathPattern.raw).Nodup := by
  induction ps generalizing l with
  | nil => exact distinct
  | cons p ps induction => exact induction (nodup_pushUnique distinct p)

namespace Rule

variable (r : Rule)

theorem patterns_setPatterns (list : PatternList) (ps : List PathPattern) :
    (r.setPatterns list ps).patterns list = ps := by
  cases list <;> rfl

theorem setPatterns_setPatterns (list : PatternList) (ps qs : List PathPattern) :
    (r.setPatterns list ps).setPatterns list qs = r.setPatterns list qs := by
  cases list <;> rfl

theorem foldl_withPath (list : PatternList) (ts : List String) :
    ts.foldl (fun acc t => acc.withPath list (PathPattern.ofString t)) r =
      r.setPatterns list ((ts.map PathPattern.ofString).foldl pushUnique (r.patterns list)) := by
  induction ts generalizing r with
  | nil => cases list <;> rfl
  | cons t ts induction =>
      rw [List.foldl_cons, induction, withPath, patterns_setPatterns, setPatterns_setPatterns]
      rfl

/-- A comma-separated text adds to a list those of its patterns whose texts are
new, and changes nothing else. -/
theorem withPaths_eq (list : PatternList) (text : String) :
    r.withPaths list text =
      r.setPatterns list
        (r.patterns list ++ freshPatterns (r.patterns list) ((splitPatternList text).map PathPattern.ofString)) := by
  rw [withPaths, foldl_withPath, foldl_pushUnique]

theorem withPath_eq (list : PatternList) (p : PathPattern) :
    r.withPath list p = r.setPatterns list (r.patterns list ++ freshPatterns (r.patterns list) [p]) := by
  rw [withPath, ← foldl_pushUnique]
  rfl

theorem patterns_withPaths (list : PatternList) (text : String) :
    (r.withPaths list text).patterns list =
      r.patterns list ++ freshPatterns (r.patterns list) ((splitPatternList text).map PathPattern.ofString) := by
  rw [withPaths_eq, patterns_setPatterns]

theorem patterns_withPath (list : PatternList) (p : PathPattern) :
    (r.withPath list p).patterns list = r.patterns list ++ freshPatterns (r.patterns list) [p] := by
  rw [withPath_eq, patterns_setPatterns]

/-- Neither the include nor the exclude patterns of a rule hold two patterns
with the same normalised text. -/
def DistinctPatterns : Prop :=
  (r.includes.map PathPattern.raw).Nodup ∧ (r.excludes.map PathPattern.raw).Nodup

theorem distinctPatterns_default : Rule.default.DistinctPatterns := by
  simp [DistinctPatterns, Rule.default]

variable {r}

theorem DistinctPatterns.nodup (distinct : r.DistinctPatterns) (list : PatternList) :
    ((r.patterns list).map PathPattern.raw).Nodup := by
  cases list
  · exact distinct.1
  · exact distinct.2

theorem DistinctPatterns.setPatterns (distinct : r.DistinctPatterns) (list : PatternList)
    {ps : List PathPattern} (fresh : (ps.map PathPattern.raw).Nodup) : (r.setPatterns list ps).DistinctPatterns := by
  cases list
  · exact ⟨fresh, distinct.2⟩
  · exact ⟨distinct.1, fresh⟩

theorem DistinctPatterns.withPath (distinct : r.DistinctPatterns) (list : PatternList) (p : PathPattern) :
    (r.withPath list p).DistinctPatterns :=
  distinct.setPatterns list (nodup_pushUnique (distinct.nodup list) p)

theorem DistinctPatterns.withPaths (distinct : r.DistinctPatterns) (list : PatternList) (text : String) :
    (r.withPaths list text).DistinctPatterns := by
  rw [Rule.withPaths, foldl_withPath]
  exact distinct.setPatterns list (nodup_foldl_pushUnique _ (distinct.nodup list))

end Rule

/-- A call of one of the builders that add path patterns to a rule. -/
inductive PatternEdit where
  | includePaths (list : String)
  | includePath (pattern : PathPattern)
  | excludePaths (list : String)
  | excludePath (pattern : PathPattern)

/-- Make the call on a rule. -/
def PatternEdit.apply (r : Rule) : PatternEdit → Rule
  | .includePaths list => r.withIncludePaths list
  | .includePath p => r.withIncludePath p
  | .excludePaths list => r.withExcludePaths list
  | .excludePath p => r.withExcludePath p

namespace Rule

variable {r : Rule}

theorem DistinctPatterns.apply (distinct : r.DistinctPatterns) (edit : PatternEdit) :
    (edit.apply r).DistinctPatterns := by
  cases edit with
  | includePaths text => exact distinct.withPaths .includes text
  | includePath p => exact distinct.withPath .includes p
  | excludePaths text => exact distinct.withPaths .excludes text
  | excludePath p => exact distinct.withPath .excludes p

theorem DistinctPatterns.foldl_apply (distinct : r.DistinctPatterns) (edits : List PatternEdit) :
    (edits.foldl PatternEdit.apply r).DistinctPatterns := by
  induction edits generalizing r with
  | nil => exact distinct
  | cons edit edits induction => exact induction (distinct.apply edit)

end Rule

/-- Pattern lists split only at top-level commas, and builders add a pattern
only when its normalised text is new: a list `q₁,…,qₖ` whose commas all lie
inside braces, and whose pieces but the last close their braces, adds the
fresh ones among its trimmed, non-blank pieces, in order, to the include or
exclude patterns; a single pattern is added the same way; so no sequence of
builder calls leaves two patterns with the same text. -/
theorem patternLists_add_fresh (r : Rule) (qs : List String) (p : PathPattern)
    (edits : List PatternEdit) (nested : ∀ q ∈ qs, CommasNestedFrom 0 q.toList)
    (closed : ∀ q ∈ qs.dropLast, q.toList.foldl braceStep 0 = 0) :
    let added := ((qs.map trimBlank).filter (· != "")).map PathPattern.ofString
    (r.withIncludePaths (",".intercalate qs)).includes = r.includes ++ freshPatterns r.includes added ∧
      (r.withExcludePaths (",".intercalate qs)).excludes = r.excludes ++ freshPatterns r.excludes added ∧
      (r.withIncludePath p).includes = r.includes ++ freshPatterns r.includes [p] ∧
      (r.withExcludePath p).excludes = r.excludes ++ freshPatterns r.excludes [p] ∧
      (edits.foldl PatternEdit.apply Rule.default).DistinctPatterns ∧
      (r.DistinctPatterns → (edits.foldl PatternEdit.apply r).DistinctPatterns) := by
  intro added
  have split := splitPatternList_intercalate qs nested closed
  refine ⟨?_, ?_, ?_, ?_, Rule.distinctPatterns_default.foldl_apply edits, fun distinct => distinct.foldl_apply edits⟩
  · have includes := r.patterns_withPaths .includes (",".intercalate qs)
    rw [split] at includes
    exact includes
  · have excludes := r.patterns_withPaths .excludes (",".intercalate qs)
    rw [split] at excludes
    exact excludes
  · exact r.patterns_withPath .includes p
  · exact r.patterns_withPath .excludes p

/-- A list whose first pattern has a constraint with a comma inside braces,
whose second is padded with a blank, and which ends in two blank pieces; then
the second pattern once more on its own. -/
theorem patternLists_add_fresh_regex_commas :
    let qs := ["a/\x7bid:[0-9]\x7b1,8\x7d\x7d", " b/*", "", ""]
    let p := PathPattern.ofString "b/*"
    let edits := [PatternEdit.includePaths (",".intercalate qs), .includePath p]
    (∀ q ∈ qs, CommasNestedFrom 0 q.toList) ∧ (∀ q ∈ qs.dropLast, q.toList.foldl braceStep 0 = 0) ∧
      let added := ((qs.map trimBlank).filter (· != "")).map PathPattern.ofString
      (Rule.default.withIncludePaths (",".intercalate qs)).includes =
          Rule.default.includes ++ freshPatterns Rule.default.includes added ∧
        (Rule.default.withExcludePaths (",".intercalate qs)).excludes =
          Rule.default.excludes ++ freshPatterns Rule.default.excludes added ∧
        (Rule.default.withIncludePath p).includes = Rule.default.includes ++ freshPatterns Rule.default.includes [p] ∧
        (Rule.default.withExcludePath p).excludes = Rule.default.excludes ++ freshPatterns Rule.default.excludes [p] ∧
        (edits.foldl PatternEdit.apply Rule.default).DistinctPatterns ∧
        (Rule.default.DistinctPatterns → (edits.foldl PatternEdit.apply Rule.default).DistinctPatterns) := by
  intro qs p edits
  have nested : ∀ q ∈ qs, CommasNestedFrom 0 q.toList := by decide
  have closed : ∀ q ∈ qs.dropLast, q.toList.foldl braceStep 0 = 0 := by decide
  exact ⟨nested, closed, patternLists_add_fresh Rule.default qs p edits nested closed⟩

end RestDispatch
