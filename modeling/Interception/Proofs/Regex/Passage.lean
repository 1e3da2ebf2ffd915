import Interception.Proofs.Regex.Calm
import Interception.Proofs.Regex.Scope

/-!
# Reading through calm text

A reader of a group that comes upon calm text goes through it. What it reads there is put behind
what it has read before, or repeats the last part of that; it begins no alternative and switches no
flag.
At the end of the text it stops, and so a group that is open when a calm text begins is not closed
in it.
-/

namespace Interception.Regex

variable {verbose : Bool} {name text text' tail rest ahead : List Char} {c : Char}
variable {s s' last : OpenGroup} {sign : Sign} {kind : GroupKind}

/-! ## One sign of a reading -/

/-- Blanks before a text make no difference. -/
theorem Reads.congr_skip (h : Reads s text last rest)
    (same : skip s.verbose text' = skip s.verbose text) : Reads s text' last rest := by
  cases h with
  | stop own => exact .stop (same ▸ own)
  | step own made later => exact .step (same ▸ own) made later
  | group own new within later => exact .group (same ▸ own) new within later

/-- Some sign comes next. -/
theorem Reads.exists_sign (h : Reads s text last rest) :
    ∃ sign ahead, readSign? s.verbose (skip s.verbose text) = some (sign, ahead) := by
  cases h with
  | stop own => exact ⟨_, _, own⟩
  | step own => exact ⟨_, _, own⟩
  | group own => exact ⟨_, _, own⟩

theorem Reads.of_stop (h : Reads s text last rest)
    (own : readSign? s.verbose (skip s.verbose text) = some (.stop, ahead)) :
    last = s ∧ rest = ahead := by
  cases h with
  | stop own' => grind
  | @step _ s' _ sign _ _ _ own' made later =>
      rw [own] at own'
      obtain ⟨rfl, rfl⟩ := Prod.mk.inj (Option.some.inj own')
      cases made
  | group own' => grind

theorem Reads.of_step (h : Reads s text last rest)
    (own : readSign? s.verbose (skip s.verbose text) = some (sign, ahead))
    (noStop : sign ≠ .stop) (noGroup : ∀ kind, sign ≠ .opens kind) :
    ∃ s', s.step? sign = some s' ∧ Reads s' ahead last rest := by
  cases h with
  | stop own' => grind
  | step own' made later =>
      rw [own] at own'
      obtain ⟨rfl, rfl⟩ := Prod.mk.inj (Option.some.inj own')
      exact ⟨_, made, later⟩
  | group own' => grind

theorem Reads.of_group (h : Reads s text last rest)
    (own : readSign? s.verbose (skip s.verbose text) = some (.opens kind, ahead)) :
    ∃ inner after, Reads (s.opened kind) ahead inner (')' :: after) ∧
      Reads (s.close kind inner) after last rest := by
  cases h with
  | stop own' => grind
  | step own' made later =>
      rw [own] at own'
      obtain ⟨rfl, rfl⟩ := Prod.mk.inj (Option.some.inj own')
      cases made
  | group own' new within later =>
      rw [own] at own'
      obtain ⟨same, rfl⟩ := Prod.mk.inj (Option.some.inj own')
      obtain rfl := Sign.opens.inj same
      exact ⟨_, _, within, later⟩

/-! ## What is read of calm text -/

/-- The group after parts of calm text were read into it. -/
structure Continues (s s' : OpenGroup) : Prop where
  verbose : s'.verbose = s.verbose
  branches : s'.branches = s.branches
  parts : Grows s.parts s'.parts

theorem Continues.refl (s : OpenGroup) : Continues s s := ⟨rfl, rfl, .refl⟩

theorem Continues.trans {s'' : OpenGroup} (h : Continues s s') (h' : Continues s' s'') :
    Continues s s'' :=
  ⟨h'.verbose.trans h.verbose, h'.branches.trans h.branches, h.parts.trans h'.parts⟩

theorem Continues.push {e : Expr} (steady : e.IsSteady) : Continues s (s.push e) :=
  ⟨rfl, rfl, .push steady .refl⟩

theorem Continues.again {least : Nat} {most : Option Nat} {greedy : Bool}
    (h : s.repeatLast? least most greedy = some s') : Continues s s' := by
  obtain ⟨part, parts, whole, rfl⟩ := OpenGroup.exists_of_repeatLast? h
  refine ⟨rfl, rfl, ?_⟩
  rw [whole]
  exact .again .refl

theorem Continues.close (kind : GroupKind) (inner : OpenGroup) :
    Continues s (s.close kind inner) :=
  ⟨rfl, rfl, .push (Expr.isSteady_group kind inner.body) .refl⟩

/-! ## The signs of calm text -/

theorem skip_plain (own : isMeta c = false) (verbose : Bool) (rest : List Char) :
    skip verbose (c :: rest) = c :: rest ∨ skip verbose (c :: rest) = skip verbose rest := by
  cases verbose with
  | false => exact .inl rfl
  | true =>
      have noMark : c ≠ '#' := by
        rintro rfl
        exact absurd own (by decide)
      show skipBlanks false (c :: rest) = _ ∨ skipBlanks false (c :: rest) = _
      rw [skipBlanks, if_neg Bool.false_ne_true]
      split
      · exact .inr rfl
      · exact .inl rfl

theorem readSign?_plain (own : isMeta c = false) (rest : List Char) :
    readSign? verbose (c :: rest) = some (.part (.literal ⟨c, false⟩), rest) := by
  have notMem {signs : List Char} (all : ∀ d ∈ signs, isMeta d = true) : c ∉ signs := by
    intro mem
    rw [all c mem] at own
    cases own
  have noAtom : c ∉ ['\\', '.', '^', '$'] := notMem (List.all_iff_forall_prop.mp (by decide))
  rw [readSign?_of_notMem (notMem (List.all_iff_forall_prop.mp (by decide))), readAtom?]
  · rfl
  all_goals
    rintro rfl
    exact noAtom (by decide)

theorem readSign?_escaped (own : isMeta c = true) (rest : List Char) :
    readSign? verbose ('\\' :: c :: rest) = some (.part (.literal ⟨c, false⟩), rest) := by
  show (readEscape? verbose (c :: rest)).map _ = _
  rw [readEscape?_of_isMeta own]
  rfl

theorem exists_readSign?_escaped (own : isEscape c = true) (verbose : Bool) (rest : List Char) :
    ∃ e, readSign? verbose ('\\' :: c :: rest) = some (.part e, rest) ∧ e.IsSteady := by
  obtain ⟨a, reads, kind⟩ := exists_readEscape? own verbose rest
  refine ⟨a.toExpr, ?_, ?_⟩
  · show (readEscape? verbose (c :: rest)).map _ = _
    rw [reads]
    rfl
  · obtain rfl | ⟨kind, negated, rfl⟩ := kind
    · exact Expr.isSteady_literal _
    · exact Expr.isSteady_charClass _

theorem repeats_of_head (least : Nat) (most : Option Nat) (h : text.head? ≠ some '?') :
    repeats least most text = (.again least most true, text) := by
  rw [repeats, readGreed]
  rintro rest rfl
  exact h rfl

theorem readSign?_star (noMark : text.head? ≠ some '?') :
    readSign? verbose ('*' :: text) = some (.again 0 none true, text) := by
  rw [readSign?, repeats_of_head 0 none noMark]

theorem readName?_plain (h : IsPlainName name) (rest : List Char) :
    readName? (name ++ '>' :: rest) = some (String.ofList name, rest) := by
  have noAngle : ∀ c ∈ name, (c != '>') = true := by
    intro c mem
    refine bne_iff_ne.mpr ?_
    rintro rfl
    exact absurd (h.chars '>' mem) (by decide)
  have nameChars : ∀ first, ∀ c ∈ name, (first = true → c.isAlpha = true) →
      isNameChar first c = true := by
    intro first c mem head
    have alphanum := h.chars c mem
    rw [isNameChar, if_pos (lt_of_isAlphanum alphanum)]
    cases first with
    | true => simp [head rfl]
    | false =>
        obtain letter | digit := Bool.or_eq_true_iff.mp alphanum
        · simp [letter]
        · simp [digit]
  obtain ⟨c, more, rfl, letter⟩ := h.head
  unfold readName?
  rw [List.takeWhile_append_of_pos noAngle, List.dropWhile_append_of_pos noAngle,
    List.takeWhile_cons_of_neg (by simp), List.dropWhile_cons_of_neg (by simp), List.append_nil]
  refine if_pos (Bool.and_eq_true_iff.mpr ⟨?_, List.all_eq_true.mpr fun d mem => ?_⟩)
  · exact nameChars true c List.mem_cons_self fun _ => letter
  · exact nameChars false d (List.mem_cons_of_mem c mem) nofun

theorem readSign?_named (h : IsPlainName name) (rest : List Char) :
    readSign? verbose ("(?P<".toList ++ name ++ '>' :: rest) =
      some (.opens (.named (String.ofList name)), rest) := by
  have begins : "(?P<".toList ++ name ++ '>' :: rest =
      '(' :: '?' :: 'P' :: '<' :: (name ++ '>' :: rest) := by simp
  have solid : isSolid '?' = true := isSolid_of_isMeta rfl (by decide)
  rw [begins, readSign?, readGroupOpening?, skip_cons solid]
  simp only [readName?_plain h]
  rfl

/-! ## Through calm text -/

theorem CalmSign.head?_ne {sign : List Char} (h : CalmSign sign) (rest : List Char) :
    (sign ++ rest).head? ≠ some '?' := by
  cases h with
  | plain own =>
      rintro ⟨⟩
      exact absurd own (by decide)
  | escaped own => exact nofun
  | operator own =>
      rintro ⟨⟩
      exact absurd own (by decide)

theorem CalmTo.head?_ne (h : CalmTo tail text) (noMark : tail.head? ≠ some '?') :
    text.head? ≠ some '?' := by
  cases h with
  | done => exact noMark
  | sign own later => exact own.head?_ne _
  | group own later => exact nofun

theorem Reads.of_solid (h : Reads s (c :: text) last rest) (solid : isSolid c = true)
    (own : readSign? s.verbose (c :: text) = some (sign, ahead)) (noStop : sign ≠ .stop)
    (noGroup : ∀ kind, sign ≠ .opens kind) :
    ∃ s', s.step? sign = some s' ∧ Reads s' ahead last rest :=
  h.of_step ((skip_cons solid s.verbose text).symm ▸ own) noStop noGroup

/-- What a repetition repeats was read before it. -/
theorem Reads.of_repetition {least : Nat} {most : Option Nat} (h : Reads s (c :: text) last rest)
    (solid : isSolid c = true)
    (own : readSign? s.verbose (c :: text) = some (repeats least most text))
    (noMark : text.head? ≠ some '?') : ∃ s', Reads s' text last rest ∧ Continues s s' := by
  rw [repeats_of_head least most noMark] at own
  obtain ⟨s', made, later⟩ := h.of_solid solid own nofun nofun
  exact ⟨s', later, .again made⟩

/-- A sign that is a part of what is repeated or put one behind the other. -/
theorem Reads.of_part {e : Expr} (h : Reads s text' last rest)
    (own : readSign? s.verbose (skip s.verbose text') = some (.part e, text)) (steady : e.IsSteady) :
    ∃ s', Reads s' text last rest ∧ Continues s s' := by
  obtain ⟨s', made, later⟩ := h.of_step own nofun nofun
  obtain rfl := Option.some.inj made
  exact ⟨_, later, .push steady⟩

/-- Reading goes through a calm sign. -/
theorem Reads.through_sign {signText : List Char} (h : Reads s (signText ++ text) last rest)
    (own : CalmSign signText) (noMark : text.head? ≠ some '?') :
    ∃ s', Reads s' text last rest ∧ Continues s s' := by
  cases own with
  | @plain c own =>
      obtain kept | skipped := skip_plain own s.verbose text
      · exact h.of_part (e := .literal ⟨c, false⟩) (kept.symm ▸ readSign?_plain own text)
          (Expr.isSteady_literal _)
      · exact ⟨s, h.congr_skip skipped.symm, .refl s⟩
  | @escaped c own =>
      obtain ⟨e, reads, steady⟩ := exists_readSign?_escaped own s.verbose text
      have kept := skip_cons (isSolid_of_isMeta rfl (by decide) : isSolid '\\' = true) s.verbose
        (c :: text)
      exact h.of_part (kept.symm ▸ reads) steady
  | @operator c own =>
      have solid := (mem_calmOperators own).2.1
      have kept := skip_cons solid s.verbose text
      simp only [calmOperators, List.mem_cons, List.not_mem_nil, or_false] at own
      obtain rfl | rfl | rfl | rfl := own
      · exact h.of_part (e := .dot) (kept.symm ▸ rfl) Expr.isSteady_dot
      · exact h.of_repetition solid rfl noMark
      · exact h.of_repetition solid rfl noMark
      · exact h.of_part (e := .assertion .lineEnd) (kept.symm ▸ rfl) (Expr.isSteady_assertion _)

/-- Reading goes through a quiet text. -/
theorem Reads.through_quiet {body : List Char} (h : Reads s (body ++ text) last rest)
    (quiet : isQuiet body = true) (noMark : text.head? ≠ some '?') :
    ∃ s', Reads s' text last rest ∧ Continues s s' := by
  refine (isQuiet_induction quiet
    (P := fun more => more.head? ≠ some '?' ∧ ∀ s, Reads s more last rest →
      ∃ s', Reads s' text last rest ∧ Continues s s') ?_ ?_).2 s h
  · exact ⟨noMark, fun s h => ⟨s, h, .refl s⟩⟩
  · rintro sign more own - ⟨head, later⟩
    refine ⟨own.head?_ne more, fun s h => ?_⟩
    obtain ⟨s', further, continues⟩ := h.through_sign own head
    obtain ⟨s'', reads, continues'⟩ := later s' further
    exact ⟨s'', reads, continues.trans continues'⟩

/-- A group with a quiet text is closed where the text ends. -/
theorem Reads.of_namedGroup {body : List Char} (h : Reads s (namedGroup name body ++ text) last rest)
    (own : IsPlainName name) (quiet : isQuiet body = true) :
    ∃ kind inner, Reads (s.close kind inner) text last rest := by
  have whole : namedGroup name body ++ text =
      "(?P<".toList ++ name ++ '>' :: (body ++ ')' :: text) := by simp [namedGroup]
  have sign : readSign? s.verbose (skip s.verbose (namedGroup name body ++ text)) =
      some (.opens (.named (String.ofList name)), body ++ ')' :: text) := by
    obtain ⟨c, more, begins, solid⟩ := namedGroup_head name body
    rw [begins, List.cons_append, skip_cons solid, ← List.cons_append, ← begins, whole]
    exact readSign?_named own _
  obtain ⟨inner, after, within, later⟩ := h.of_group sign
  obtain ⟨s', closing, -⟩ := within.through_quiet quiet (by simp)
  have stops : readSign? s'.verbose (skip s'.verbose (')' :: text)) = some (.stop, ')' :: text) := by
    rw [skip_cons (isSolid_of_isMeta rfl (by decide))]
    rfl
  obtain ⟨-, same⟩ := closing.of_stop stops
  obtain ⟨-, rfl⟩ := List.cons.inj same
  exact ⟨_, inner, later⟩

/-- Reading goes through calm text to its tail. -/
theorem Reads.through (h : Reads s text last rest) (calm : CalmTo tail text)
    (noMark : tail.head? ≠ some '?') : ∃ s', Reads s' tail last rest ∧ Continues s s' := by
  induction calm generalizing s with
  | done => exact ⟨s, h, .refl s⟩
  | sign own later ih =>
      obtain ⟨s', further, continues⟩ := h.through_sign own (later.head?_ne noMark)
      obtain ⟨s'', reads, continues'⟩ := ih further
      exact ⟨s'', reads, continues.trans continues'⟩
  | group own quiet later ih =>
      obtain ⟨kind, inner, further⟩ := h.of_namedGroup own quiet
      obtain ⟨s'', reads, continues⟩ := ih further
      exact ⟨s'', reads, (Continues.close kind inner).trans continues⟩

/-- No parenthesis closes a group that is open when a calm text begins. -/
theorem Reads.rest_of_calm (h : Reads s text last rest) (calm : Calm text) : rest = [] := by
  obtain ⟨s', reads, -⟩ := h.through calm nofun
  have stops : readSign? s'.verbose (skip s'.verbose []) = some (.stop, []) := by
    cases s'.verbose <;> rfl
  exact (reads.of_stop stops).2

theorem Reads.rest_of_skip (h : Reads s text last rest) (calm : Calm (skip s.verbose text)) :
    rest = [] :=
  (h.congr_skip (skip_skip s.verbose text)).rest_of_calm calm

/-! ## Names -/

/-- Where fewer names are taken before, the same is read. -/
theorem Reads.fewer_names (h : Reads s text last rest) {names : List String}
    (fewer : names ⊆ s.names) :
    ∃ names' ⊆ last.names, Reads { s with names } text { last with names := names' } rest := by
  induction h generalizing names with
  | stop own => exact ⟨names, fewer, .stop own⟩
  | @step s s' text sign ahead last rest own made later ih =>
      have made' : ({ s with names } : OpenGroup).step? sign = some { s' with names } ∧
          names ⊆ s'.names := by
        cases sign with
        | stop => cases made
        | opens => cases made
        | again =>
            obtain ⟨⟨part, parts⟩, repeated, rfl⟩ := Option.map_eq_some_iff.mp made
            exact ⟨Option.map_eq_some_iff.mpr ⟨_, repeated, rfl⟩, fewer⟩
        | bar | part | flags =>
            obtain rfl := Option.some.inj made
            exact ⟨rfl, fewer⟩
      obtain ⟨names', fewer', reads⟩ := ih made'.2
      exact ⟨names', fewer', .step own made'.1 reads⟩
  | @group s text kind first inner ahead last rest own new within later ihWithin ih =>
      have taken : kind.name?.toList ++ names ⊆ (s.opened kind).names :=
        List.append_subset.mpr ⟨List.subset_append_left _ _,
          fun name mem => List.mem_append_right _ (fewer mem)⟩
      obtain ⟨inside, fewerInside, reads⟩ := ihWithin taken
      obtain ⟨names', fewer', reads'⟩ :=
        ih (show inside ⊆ (s.close kind inner).names from fewerInside)
      refine ⟨names', fewer', .group own ?_ reads reads'⟩
      cases name : kind.name? with
      | none => rfl
      | some name' =>
          rw [name] at new
          exact Bool.eq_false_iff.mpr fun mem => Bool.eq_false_iff.mp new
            (List.contains_iff_mem.mpr (fewer (List.contains_iff_mem.mp mem)))

end Interception.Regex
