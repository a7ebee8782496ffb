import RestDispatch.Route.Pattern
import Mathlib.Data.List.TakeWhile

/-!
# Writing patterns out and reading them back

`Segment.render` writes every variable in braces, whatever syntax it was read
from, and wraps an optional segment in brackets once. Read again, that text
gives the same segment: a literal is written as the token it was read from, a
variable read from braces has a name without a colon, and an optional inside
brackets is not wrapped twice. The one exception is a `:name` variable whose
name has a colon: written as `{a:b}`, the colon starts a constraint, and `:a:b`
comes back as the variable `a` constrained by `b`.

Writing adds no character but brackets and braces, and no token is written as
the empty text, so the segments of a pattern joined by `/` split back into the
written tokens. `rendered_segments_reparse` puts the two together for whole
patterns.
-/

namespace RestDispatch

set_option autoImplicit false

namespace Segment

theorem toList_render_variable (name : String) :
    (Segment.variable name none).render.toList = '\x7b' :: name.toList ++ ['\x7d'] := by
  simp [render]

theorem toList_render_constrained (name src : String) :
    (Segment.variable name (some src)).render.toList =
      '\x7b' :: (name.toList ++ ':' :: src.toList) ++ ['\x7d'] := by
  simp [render]

theorem toList_render_optional (inner : Segment) :
    (Segment.optional inner).render.toList = '[' :: inner.render.toList ++ [']'] := by
  simp [render]

@[simp] theorem captureName_optional (inner : Segment) :
    (Segment.optional inner).captureName = inner.captureName := by
  simp [captureName, required]

theorem eq_optional_of_isOptional {s : Segment} (optional : s.isOptional = true) :
    ∃ inner, s = .optional inner := by
  cases s with
  | optional inner => exact ⟨inner, rfl⟩
  | _ => simp [isOptional] at optional

theorem mem_enclosed {o e c : Char} {xs : List Char} : c ∈ o :: xs ++ [e] ↔ c = o ∨ c ∈ xs ∨ c = e := by
  simp

/-! ## Reading tokens of each form -/

theorem bracketed_chars (inner : List Char) :
    2 ≤ ('[' :: inner ++ [']']).length ∧ ('[' :: inner ++ [']']).head? = some '[' ∧
      ('[' :: inner ++ [']']).getLast? = some ']' := by
  refine ⟨by simp, rfl, ?_⟩
  rw [List.getLast?_concat]

theorem eq_enclosed {o c : Char} {cs : List Char}
    (enclosed : 2 ≤ cs.length ∧ cs.head? = some o ∧ cs.getLast? = some c) :
    cs = o :: (cs.drop 1).dropLast ++ [c] := by
  obtain ⟨long, first, last⟩ := enclosed
  cases cs with
  | nil => simp at long
  | cons x rest =>
      have present : rest ≠ [] := by
        intro empty
        simp [empty] at long
      simp only [List.head?_cons, Option.some.injEq] at first
      rw [List.getLast?_cons, List.getLast?_eq_some_getLast present, Option.getD_some] at last
      simp only [List.drop_one, List.tail_cons, first, List.cons_append, List.cons.injEq, true_and]
      rw [← Option.some.inj last]
      exact (List.dropLast_concat_getLast present).symm

theorem ofChars_bracketed_optional {inner : List Char} (optional : (ofChars inner).isOptional = true) :
    ofChars ('[' :: inner ++ [']']) = ofChars inner := by
  obtain ⟨i, wrapped⟩ := eq_optional_of_isOptional optional
  have inside : (('[' :: inner ++ [']']).drop 1).dropLast = inner := by simp
  rw [ofChars.eq_def, if_pos (bracketed_chars inner), inside, wrapped]

theorem ofChars_bracketed_plain {inner : List Char} (plain : (ofChars inner).isOptional = false) :
    ofChars ('[' :: inner ++ [']']) = .optional (ofChars inner) := by
  have inside : (('[' :: inner ++ [']']).drop 1).dropLast = inner := by simp
  rw [ofChars.eq_def, if_pos (bracketed_chars inner), inside]
  split
  · simp_all [isOptional]
  · rfl

theorem ofChars_star : ofChars ['*'] = .wildcard := by
  rw [ofChars.eq_def, if_neg (by simp), if_pos (by decide)]

theorem ofChars_colon {name : List Char} (named : name ≠ []) :
    ofChars (':' :: name) = .variable (String.ofList name) none := by
  rw [ofChars.eq_def, if_neg (by simp), if_neg (by simp)]
  simp [named]

theorem colon_not_mem_takeWhile (body : List Char) : ':' ∉ body.takeWhile (· != ':') :=
  fun member => by simpa using List.mem_takeWhile_imp member

theorem notColon_of_not_mem {name : List Char} (noColon : ':' ∉ name) : ∀ c ∈ name, (c != ':') = true := by
  intro c member
  have different : c ≠ ':' := fun same => noColon (same ▸ member)
  simpa using different

theorem braceVariable?_name {name : List Char} (named : name ≠ []) (noColon : ':' ∉ name) :
    braceVariable? name = some (.variable (String.ofList name) none) := by
  have whole : name.takeWhile (· != ':') = name := by
    have appended : (name ++ []).takeWhile (· != ':') = name ++ ([] : List Char).takeWhile (· != ':') :=
      List.takeWhile_append_of_pos (notColon_of_not_mem noColon)
    simpa using appended
  have rest : name.dropWhile (· != ':') = [] := by
    have appended : (name ++ []).dropWhile (· != ':') = ([] : List Char).dropWhile (· != ':') :=
      List.dropWhile_append_of_pos (notColon_of_not_mem noColon)
    simpa using appended
  simp [braceVariable?, whole, rest, named]

theorem braceVariable?_constrained {name src : List Char} (named : name ≠ []) (noColon : ':' ∉ name)
    (compiles : ∃ r, constraintRegex (String.ofList src) = .ok r) :
    braceVariable? (name ++ ':' :: src) = some (.variable (String.ofList name) (some (String.ofList src))) := by
  obtain ⟨r, compiled⟩ := compiles
  have upto : (name ++ ':' :: src).takeWhile (· != ':') = name := by
    simp [List.takeWhile_append_of_pos (notColon_of_not_mem noColon)]
  have rest : (name ++ ':' :: src).dropWhile (· != ':') = ':' :: src := by
    simp [List.dropWhile_append_of_pos (notColon_of_not_mem noColon)]
  simp [braceVariable?, upto, rest, named, compiled]

theorem ofChars_braced {body : List Char} {v : Segment} (read : braceVariable? body = some v) :
    ofChars ('\x7b' :: body ++ ['\x7d']) = v := by
  have closed : ('\x7b' :: (body ++ ['\x7d'])).getLast? = some '\x7d' := by
    rw [← List.cons_append, List.getLast?_concat]
  rw [ofChars.eq_def, if_neg (by simp), if_neg (by simp)]
  simp [enclosedBy, read, closed]

theorem braceVariable?_eq_some {body : List Char} {v : Segment} (read : braceVariable? body = some v) :
    body.takeWhile (· != ':') ≠ [] ∧
      (v = .variable (String.ofList (body.takeWhile (· != ':'))) none ∨
        ∃ src, body.dropWhile (· != ':') = ':' :: src ∧ (∃ r, constraintRegex (String.ofList src) = .ok r) ∧
          v = .variable (String.ofList (body.takeWhile (· != ':'))) (some (String.ofList src))) := by
  unfold braceVariable? at read
  simp only at read
  by_cases unnamed : (body.takeWhile (· != ':')).isEmpty = true
  · simp [unnamed] at read
  · rw [if_neg unnamed] at read
    refine ⟨by simpa using unnamed, ?_⟩
    rcases rest : body.dropWhile (· != ':') with _ | ⟨c, src⟩
    · rw [rest] at read
      simp only [Option.some.injEq] at read
      exact .inl read.symm
    · -- what follows the name starts with its colon
      have colon : c = ':' := by
        have stops := List.head?_dropWhile_not (· != ':') body
        rw [rest] at stops
        simpa using stops
      subst colon
      rw [rest] at read
      simp only at read
      split at read
      · rename_i r compiled
        simp only [Option.some.injEq] at read
        exact .inr ⟨src, rfl, ⟨r, compiled⟩, read.symm⟩
      · cases read

theorem colon_not_mem_captureName_of_braceVariable? {body : List Char} {v : Segment}
    (read : braceVariable? body = some v) : ':' ∉ v.captureName.toList := by
  obtain ⟨-, plain | ⟨src, -, -, rfl⟩⟩ := braceVariable?_eq_some read
  · subst plain
    simpa [captureName, required] using colon_not_mem_takeWhile body
  · simpa [captureName, required] using colon_not_mem_takeWhile body

/-- What a token that is not in brackets reads as: the wildcard `*`; a literal
of its own text; a variable `:name` with a non-empty name; or the variable read
from the inside of braces, which are characters of the token. -/
theorem ofChars_cases {cs : List Char} (plain : ¬ (2 ≤ cs.length ∧ cs.head? = some '[' ∧ cs.getLast? = some ']')) :
    (cs = ['*'] ∧ ofChars cs = .wildcard) ∨
      ofChars cs = .literal (String.ofList cs) ∨
      (∃ name, cs = ':' :: name ∧ name ≠ [] ∧ ofChars cs = .variable (String.ofList name) none) ∨
      ∃ body, (∀ c ∈ body, c ∈ cs) ∧ braceVariable? body = some (ofChars cs) := by
  rw [ofChars.eq_def, if_neg plain]
  split
  · rename_i star
    exact .inl ⟨by simpa using star, rfl⟩
  · split
    · rename_i name _
      split
      · exact .inr (.inl rfl)
      · rename_i named
        exact .inr (.inr (.inl ⟨name, rfl, by simpa using named, rfl⟩))
    · -- with or without a leading `$`, braces that hold a variable read as it,
      -- and every other token as a literal of itself
      simp only
      split <;> split
      all_goals first
        | exact .inr (.inl rfl)
        | split
          · rename_i read
            refine .inr (.inr (.inr ⟨_, fun c member => ?_, read⟩))
            simp [List.mem_of_mem_drop (List.dropLast_subset _ member)]
          · exact .inr (.inl rfl)

/-! ## Reading back what was written -/

theorem braceVariable?_render {body : List Char} {v : Segment} (read : braceVariable? body = some v) :
    ofChars v.render.toList = v := by
  obtain ⟨named, plain | ⟨src, -, compiles, rfl⟩⟩ := braceVariable?_eq_some read
  · subst plain
    rw [toList_render_variable, String.toList_ofList]
    exact ofChars_braced (braceVariable?_name named (colon_not_mem_takeWhile body))
  · rw [toList_render_constrained, String.toList_ofList, String.toList_ofList]
    exact ofChars_braced (braceVariable?_constrained named (colon_not_mem_takeWhile body) compiles)

/-- Reading a token, writing the segment out and reading that again gives the
same segment, unless it captures under a name with a colon. -/
theorem ofChars_render_ofChars (cs : List Char) (colonFree : ':' ∉ (ofChars cs).captureName.toList) :
    ofChars (ofChars cs).render.toList = ofChars cs := by
  by_cases bracketed : 2 ≤ cs.length ∧ cs.head? = some '[' ∧ cs.getLast? = some ']'
  · -- the brackets wrap the inside, which is shorter, unless it is already optional
    obtain ⟨inner, rfl⟩ : ∃ inner, cs = '[' :: inner ++ [']'] := ⟨_, eq_enclosed bracketed⟩
    cases optional : (ofChars inner).isOptional
    · rw [ofChars_bracketed_plain optional] at colonFree ⊢
      have again := ofChars_render_ofChars inner (by simpa using colonFree)
      rw [toList_render_optional, ofChars_bracketed_plain (by rwa [again]), again]
    · rw [ofChars_bracketed_optional optional] at colonFree ⊢
      exact ofChars_render_ofChars inner colonFree
  · rcases ofChars_cases bracketed with ⟨-, star⟩ | literal | ⟨name, -, named, colon⟩ | ⟨body, -, read⟩
    · rw [star]
      exact ofChars_star
    · rw [literal]
      simpa [render] using literal
    · rw [colon] at colonFree ⊢
      rw [toList_render_variable, String.toList_ofList]
      exact ofChars_braced (braceVariable?_name named (by simpa [captureName, required] using colonFree))
    · exact braceVariable?_render read
termination_by cs.length
decreasing_by all_goals subst_vars; simp only [List.cons_append, List.length_cons, List.length_append, List.length_nil]; omega

/-! ## The characters of what is written -/

theorem mem_render_braceVariable? {body : List Char} {v : Segment} (read : braceVariable? body = some v)
    {c : Char} (member : c ∈ v.render.toList) : c ∈ body ∨ c = '\x7b' ∨ c = '\x7d' := by
  obtain ⟨-, plain | ⟨src, rest, -, rfl⟩⟩ := braceVariable?_eq_some read
  · subst plain
    rw [toList_render_variable, String.toList_ofList] at member
    rcases mem_enclosed.1 member with rfl | named | rfl
    · simp
    · exact .inl (List.takeWhile_subset _ named)
    · simp
  · have fromRest : ∀ d ∈ ':' :: src, d ∈ body := fun d member => List.dropWhile_subset _ (rest ▸ member)
    rw [toList_render_constrained, String.toList_ofList, String.toList_ofList] at member
    rcases mem_enclosed.1 member with rfl | inside | rfl
    · simp
    · rcases List.mem_append.1 inside with named | afterName
      · exact .inl (List.takeWhile_subset _ named)
      · exact .inl (fromRest c afterName)
    · simp

theorem mem_render_ofChars (cs : List Char) {c : Char} (member : c ∈ (ofChars cs).render.toList) :
    c ∈ cs ∨ c = '[' ∨ c = ']' ∨ c = '\x7b' ∨ c = '\x7d' := by
  by_cases bracketed : 2 ≤ cs.length ∧ cs.head? = some '[' ∧ cs.getLast? = some ']'
  · obtain ⟨inner, rfl⟩ : ∃ inner, cs = '[' :: inner ++ [']'] := ⟨_, eq_enclosed bracketed⟩
    have widen : c ∈ inner ∨ c = '[' ∨ c = ']' ∨ c = '\x7b' ∨ c = '\x7d' →
        c ∈ '[' :: inner ++ [']'] ∨ c = '[' ∨ c = ']' ∨ c = '\x7b' ∨ c = '\x7d' := by
      rintro (inside | added)
      · exact .inl (by simp [inside])
      · exact .inr added
    cases optional : (ofChars inner).isOptional
    · rw [ofChars_bracketed_plain optional, toList_render_optional] at member
      rcases mem_enclosed.1 member with rfl | member | rfl
      · simp
      · exact widen (mem_render_ofChars inner member)
      · simp
    · rw [ofChars_bracketed_optional optional] at member
      exact widen (mem_render_ofChars inner member)
  · rcases ofChars_cases bracketed with ⟨rfl, star⟩ | literal | ⟨name, rfl, -, colon⟩ | ⟨body, sub, read⟩
    · rw [star] at member
      exact .inl (by simpa [render] using member)
    · rw [literal] at member
      exact .inl (by simpa [render] using member)
    · rw [colon, toList_render_variable, String.toList_ofList] at member
      rcases mem_enclosed.1 member with rfl | named | rfl
      · simp
      · exact .inl (List.mem_cons_of_mem _ named)
      · simp
    · rcases mem_render_braceVariable? read member with inBody | braces
      · exact .inl (sub c inBody)
      · exact .inr (.inr (.inr braces))
termination_by cs.length
decreasing_by all_goals subst_vars; simp only [List.cons_append, List.length_cons, List.length_append, List.length_nil]; omega

theorem render_ofChars_ne_empty {cs : List Char} (present : cs ≠ []) : (ofChars cs).render ≠ "" := by
  by_cases bracketed : 2 ≤ cs.length ∧ cs.head? = some '[' ∧ cs.getLast? = some ']'
  · -- a token in brackets is optional
    obtain ⟨inner, rfl⟩ : ∃ inner, cs = '[' :: inner ++ [']'] := ⟨_, eq_enclosed bracketed⟩
    cases optional : (ofChars inner).isOptional
    · rw [ofChars_bracketed_plain optional]
      simp [render]
    · obtain ⟨i, inside⟩ := eq_optional_of_isOptional optional
      rw [ofChars_bracketed_optional optional, inside]
      simp [render]
  · rcases ofChars_cases bracketed with ⟨-, star⟩ | literal | ⟨name, -, -, colon⟩ | ⟨body, -, read⟩
    · simp [star, render]
    · simpa [literal, render] using present
    · simp [colon, render]
    · obtain ⟨-, plain | ⟨src, -, -, constrained⟩⟩ := braceVariable?_eq_some read
      · simp [plain, render]
      · simp [constrained, render]

end Segment

namespace Path

theorem not_mem_of_mem_splitOn {a : Char} : ∀ {xs piece : List Char}, piece ∈ xs.splitOn a → a ∉ piece
  | [], piece, member => by
    rw [List.splitOn_nil, List.mem_singleton] at member
    simp [member]
  | x :: xs, piece, member => by
    rw [List.splitOn_cons_eq_if_modifyHead] at member
    split at member
    · rcases List.mem_cons.1 member with rfl | member
      · simp
      · exact not_mem_of_mem_splitOn member
    · -- `x` starts the first piece of the rest
      rename_i kept
      obtain ⟨first, rest, split⟩ := List.exists_cons_of_ne_nil (List.splitOn_ne_nil a xs)
      rw [split, List.modifyHead_cons] at member
      rcases List.mem_cons.1 member with rfl | member
      · intro inPiece
        rcases List.mem_cons.1 inPiece with same | inFirst
        · simp [same] at kept
        · exact not_mem_of_mem_splitOn (split ▸ List.mem_cons_self ..) inFirst
      · exact not_mem_of_mem_splitOn (split ▸ List.mem_cons_of_mem _ member)

theorem mem_splitSegments {raw t : String} (member : t ∈ splitSegments raw) : t ≠ "" ∧ '/' ∉ t.toList := by
  simp only [splitSegments, List.mem_filter, List.mem_map, bne_iff_ne, ne_eq] at member
  obtain ⟨⟨piece, split, rfl⟩, present⟩ := member
  exact ⟨present, by simpa using not_mem_of_mem_splitOn split⟩

theorem splitSegments_intercalate {ts : List String} (present : ∀ t ∈ ts, t ≠ "")
    (noSlash : ∀ t ∈ ts, '/' ∉ t.toList) : splitSegments ("/".intercalate ts) = ts := by
  cases ts with
  | nil => rfl
  | cons t ts =>
      have pieces : ("/".intercalate (t :: ts)).toList.splitOn '/' = (t :: ts).map String.toList := by
        rw [String.toList_intercalate]
        exact List.splitOn_intercalate '/' (by simpa using noSlash) (by simp)
      unfold splitSegments
      rw [pieces, List.map_map]
      simp only [Function.comp_def, String.ofList_toList, List.map_id']
      exact List.filter_eq_self.2 fun u member => by simpa using present u member

end Path

namespace PathPattern

@[simp] theorem segments_ofString (s : String) :
    (ofString s).segments = (Path.splitSegments s).map Segment.parse := rfl

/-- Writing out the segments of a pattern, joining them by `/` and reading the
text again gives the same segments, as long as no segment captures under a
name with a colon. -/
theorem rendered_segments_reparse (s : String)
    (colonFree : ∀ seg ∈ (ofString s).segments, ':' ∉ seg.captureName.toList) :
    (ofString ("/".intercalate ((ofString s).segments.map Segment.render))).segments = (ofString s).segments := by
  simp only [segments_ofString, List.map_map, List.mem_map] at colonFree ⊢
  -- the written tokens are split apart again
  have split : Path.splitSegments ("/".intercalate ((Path.splitSegments s).map (Segment.render ∘ Segment.parse))) =
      (Path.splitSegments s).map (Segment.render ∘ Segment.parse) := by
    apply Path.splitSegments_intercalate
    · simp only [List.mem_map, Function.comp_apply]
      rintro _ ⟨token, member, rfl⟩
      exact Segment.render_ofChars_ne_empty (by simpa using (Path.mem_splitSegments member).1)
    · simp only [List.mem_map, Function.comp_apply]
      rintro _ ⟨token, member, rfl⟩ slash
      rcases Segment.mem_render_ofChars _ slash with inToken | added
      · exact (Path.mem_splitSegments member).2 inToken
      · simp at added
  rw [split, List.map_map]
  apply List.map_congr_left
  intro token member
  exact Segment.ofChars_render_ofChars token.toList (colonFree _ ⟨token, member, rfl⟩)

/-- `:id/*/[:name]` is a variable, a wildcard and an optional variable, none
named with a colon, and it reads back from `{id}/*/[{name}]`. -/
theorem rendered_segments_reparse_variables :
    (∀ seg ∈ (ofString ":id/*/[:name]").segments, ':' ∉ seg.captureName.toList) ∧
      (ofString ("/".intercalate ((ofString ":id/*/[:name]").segments.map Segment.render))).segments =
        (ofString ":id/*/[:name]").segments := by
  have tokens : Path.splitSegments ":id/*/[:name]" = [":id", "*", "[:name]"] := by decide
  have named : Segment.ofChars [':', 'n', 'a', 'm', 'e'] = .variable "name" none := by
    rw [Segment.ofChars_colon (by simp)]
  have segments : (ofString ":id/*/[:name]").segments =
      [.variable "id" none, .wildcard, .optional (.variable "name" none)] := by
    rw [segments_ofString, tokens]
    simp only [List.map_cons, List.map_nil, Segment.parse]
    rw [show ":id".toList = ':' :: ['i', 'd'] by simp, Segment.ofChars_colon (by simp),
      show "*".toList = ['*'] by simp, Segment.ofChars_star,
      show "[:name]".toList = '[' :: [':', 'n', 'a', 'm', 'e'] ++ [']'] by simp,
      Segment.ofChars_bracketed_plain (by rw [named]; rfl), named]
  have colonFree : ∀ seg ∈ (ofString ":id/*/[:name]").segments, ':' ∉ seg.captureName.toList := by
    rw [segments]
    decide
  exact ⟨colonFree, rendered_segments_reparse ":id/*/[:name]" colonFree⟩

/-- `:a:b` is the variable `a:b`; written out it is `{a:b}`, which reads as the
variable `a` constrained by `b`, or as a literal when `b` is not an expression. -/
theorem rendered_segments_reparse_colon_name :
    (ofString ("/".intercalate ((ofString ":a:b").segments.map Segment.render))).segments ≠
      (ofString ":a:b").segments := by
  have tokens : Path.splitSegments ":a:b" = [":a:b"] := by decide
  have read : Segment.parse ":a:b" = .variable "a:b" none := by
    rw [Segment.parse, show ":a:b".toList = ':' :: ['a', ':', 'b'] by simp, Segment.ofChars_colon (by simp)]
  have written : "/".intercalate [(Segment.variable "a:b" none).render] = "\x7ba:b\x7d" := by decide
  have rendered : Path.splitSegments "\x7ba:b\x7d" = ["\x7ba:b\x7d"] := by decide
  simp only [segments_ofString, tokens, List.map_cons, List.map_nil, read, written, rendered, ne_eq,
    List.cons.injEq, and_true]
  intro same
  rw [Segment.parse] at same
  have unbracketed : ¬ (2 ≤ "\x7ba:b\x7d".toList.length ∧ "\x7ba:b\x7d".toList.head? = some '[' ∧
      "\x7ba:b\x7d".toList.getLast? = some ']') := by decide
  rcases Segment.ofChars_cases unbracketed with ⟨star, -⟩ | literal | ⟨name, colon, -, -⟩ | ⟨body, -, braced⟩
  · simp at star
  · rw [literal] at same
    cases same
  · simp at colon
  · rw [same] at braced
    exact Segment.colon_not_mem_captureName_of_braceVariable? braced (by decide)

end PathPattern

end RestDispatch
