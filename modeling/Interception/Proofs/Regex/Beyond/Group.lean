import Interception.Proofs.Regex.Beyond.Set

/-!
# Groups read beyond a text

What the reader of a group takes from a text with a parenthesis and calm text behind it. It is what
the reader takes from the text alone, up to where that stops, unless it goes on to the end of all
the text or has no meaning.
-/

namespace Interception.Regex

variable {verbose : Bool} {n m : Nat} {text back rest left : List Char}

/-! ## Counts -/

theorem readCount?_beyond (calm : Calm back) {count : Nat}
    (own : readCount? verbose (text ++ ')' :: back) = some (count, rest)) :
    IsOwn (readCount? verbose text) back count rest ∨ Shielded rest := by
  have notBlank : isBlank ')' = false := isBlank_of_isMeta rfl
  have shorter := length_dropWhile_le isBlank text
  have enough : (text.dropWhile isBlank ++ ')' :: back).length ≤ (text ++ ')' :: back).length := by
    simp only [List.length_append]
    omega
  obtain ⟨digits, left, alone⟩ : ∃ digits left,
      gather verbose Char.isDigit text.length (text.dropWhile isBlank) = (digits, left) :=
    ⟨_, _, rfl⟩
  obtain ⟨same, -⟩ | ⟨k, more, isCalm, -, same⟩ :=
    gather_beyond calm verbose Char.isDigit enough shorter
  · rw [alone] at same
    unfold readCount? at own ⊢
    rw [dropWhile_beyond notBlank, same] at own
    rw [alone]
    cases digits with
    | nil => cases own
    | cons d digits =>
        simp only at own ⊢
        split at own
        · next small =>
          obtain ⟨rfl, rfl⟩ := Prod.mk.inj (Option.some.inj own)
          rw [if_pos small]
          obtain ⟨same, -⟩ | ⟨k, more, isCalm, -, same⟩ :=
            gather_beyond calm verbose isBlank (Nat.le_refl (left ++ ')' :: back).length)
              (Nat.le_refl left.length)
          · exact .inl ⟨_, by rw [same], rfl⟩
          · exact .inr (same ▸ isCalm.shielded.gather (isBlank_of_isMeta rfl) verbose k)
        · cases own
  · obtain rfl := readCount?_eq_some own
    refine .inr ?_
    rw [afterCount, dropWhile_beyond notBlank, same]
    exact (isCalm.shielded.gather (by decide) verbose k).gather (isBlank_of_isMeta rfl) verbose _

/-- The end of a count is read of the text alone. -/
theorem EndsBounds.beyond (calm : Calm back) {least : Nat} {most : Option Nat}
    (h : EndsBounds verbose least (text ++ ')' :: back) most rest) :
    ∃ left, rest = left ++ ')' :: back ∧ EndsBounds verbose least text most left := by
  have brace {x more : List Char} (eq : x ++ ')' :: back = '\x7d' :: more) :
      ∃ left, x = '\x7d' :: left ∧ more = left ++ ')' :: back := by
    cases x <;> grind
  generalize eq : text ++ ')' :: back = whole at h
  cases h with
  | exactly after =>
      obtain ⟨left, rfl, rfl⟩ := brace eq
      exact ⟨left, rfl, .exactly left⟩
  | @atLeast after _ ahead =>
      cases text with
      | nil => cases eq
      | cons c text =>
          rw [List.cons_append] at eq
          obtain ⟨rfl, rfl⟩ := List.cons.inj eq
          obtain within | ⟨-, beyond⟩ := skip_beyond calm verbose text
          · rw [within] at ahead
            obtain ⟨left, alone, rfl⟩ := brace ahead
            exact ⟨left, rfl, .atLeast alone⟩
          · rw [ahead] at beyond
            exact (beyond.ne_brace (by decide) (by decide)).elim
  | @upTo after _ _ noBrace further le =>
      cases text with
      | nil => cases eq
      | cons c text =>
          rw [List.cons_append] at eq
          obtain ⟨rfl, rfl⟩ := List.cons.inj eq
          obtain within | ⟨-, beyond⟩ := skip_beyond calm verbose text
          · rw [within] at further noBrace
            obtain ⟨last, same, alone⟩ | shielded := readCount?_beyond calm further
            · obtain ⟨left, rfl, rfl⟩ := brace same.symm
              refine ⟨left, rfl, .upTo (fun more eq => ?_) alone le⟩
              exact noBrace (more ++ ')' :: back) (by rw [eq]; rfl)
            · exact absurd shielded not_shielded_brace
          · exact absurd (beyond.shielded.readCount? further) not_shielded_brace

theorem readBounds?_beyond (calm : Calm back) {least : Nat} {most : Option Nat}
    (own : readBounds? verbose (text ++ ')' :: back) = some (least, most, rest)) :
    ∃ left, rest = left ++ ')' :: back ∧ readBounds? verbose text = some (least, most, left) := by
  obtain ⟨left, count, ends⟩ := readBounds?_eq_some_iff.mp own
  obtain within | ⟨-, beyond⟩ := skip_beyond calm verbose text
  · rw [within] at count
    obtain ⟨left, rfl, alone⟩ | shielded := readCount?_beyond calm count
    · obtain ⟨last, rfl, endsAlone⟩ := ends.beyond calm
      exact ⟨last, rfl, readBounds?_eq_some_iff.mpr ⟨left, alone, endsAlone⟩⟩
    · exact absurd ends (not_endsBounds_of_shielded shielded)
  · exact absurd ends (not_endsBounds_of_shielded (beyond.shielded.readCount? count))

/-! ## Openings -/

theorem readName?_beyond {name : String}
    (own : readName? (text ++ ')' :: back) = some (name, rest)) :
    IsOwn (readName? text) back name rest := by
  have noName (first : Bool) : isNameChar first ')' = false := by
    cases first <;> decide
  unfold readName? at own ⊢
  obtain ⟨taken, d, more, stops, left⟩ | ⟨-, mem⟩ :=
    span_beyond (p := (· != '>')) (by decide) text back
  · rw [taken, left] at own
    rw [stops]
    cases named : text.takeWhile (· != '>') with
    | nil =>
        rw [named] at own
        cases own
    | cons c others =>
        rw [named] at own
        simp only at own ⊢
        split at own
        · next valid =>
          obtain ⟨rfl, rfl⟩ := Prod.mk.inj (Option.some.inj own)
          exact ⟨more, rfl, if_pos valid⟩
        · cases own
  · split at own
    · next c others d left taken stops =>
      split at own
      · next valid =>
        obtain ⟨first, others⟩ := Bool.and_eq_true_iff.mp valid
        rw [taken] at mem
        obtain rfl | mem := List.mem_cons.mp mem
        · cases (noName true).symm.trans first
        · cases (noName false).symm.trans (List.all_eq_true.mp others ')' mem)
      · cases own
    · cases own

theorem readFlags?_beyond {before items : List FlagItem}
    (own : readFlags? before (text ++ ')' :: back) = some (items, rest)) :
    IsOwn (readFlags? before text) back items rest ∨ rest = ')' :: back := by
  induction text generalizing before with
  | nil =>
      rw [List.nil_append, readFlags?, if_pos (.inr rfl)] at own
      split at own
      · cases own
      · obtain ⟨-, rfl⟩ := Prod.mk.inj (Option.some.inj own)
        exact .inr rfl
  | cons c text ih =>
      rw [List.cons_append, readFlags?] at own
      rw [readFlags?]
      split at own
      · next mark =>
        rw [if_pos mark]
        split at own
        · cases own
        · next proper =>
          obtain ⟨rfl, rfl⟩ := Prod.mk.inj (Option.some.inj own)
          exact .inl ⟨c :: text, rfl, if_neg proper⟩
      · next noMark =>
        rw [if_neg noMark]
        split at own
        · cases own
        · next item isItem =>
          split at own
          · cases own
          · next new =>
            simp only [if_neg new]
            exact ih own

/-- The beginning of a group is read of the text alone, or its flags end at the parenthesis. -/
theorem BeginsGroup.beyond (calm : Calm back) {opening : Opening}
    (h : BeginsGroup (text ++ ')' :: back) opening rest) :
    (∃ left, rest = left ++ ')' :: back ∧ BeginsGroup text opening left) ∨ Calm rest := by
  have mark {x more : List Char} {c : Char} (ne : c ≠ ')') (eq : x ++ ')' :: back = c :: more) :
      ∃ left, x = c :: left ∧ left ++ ')' :: back = more := by
    cases x <;> grind
  generalize eq : text ++ ')' :: back = whole at h
  cases h with
  | named own =>
      obtain ⟨text, rfl, eq'⟩ := mark (by decide) eq
      obtain ⟨text, rfl, eq''⟩ := mark (by decide) eq'
      obtain ⟨text, rfl, rfl⟩ := mark (by decide) eq''
      obtain ⟨left, rfl, alone⟩ := readName?_beyond own
      exact .inl ⟨left, rfl, .named alone⟩
  | angled own =>
      obtain ⟨text, rfl, eq'⟩ := mark (by decide) eq
      obtain ⟨text, rfl, rfl⟩ := mark (by decide) eq'
      obtain ⟨left, rfl, alone⟩ := readName?_beyond own
      exact .inl ⟨left, rfl, .angled alone⟩
  | flags own ne =>
      obtain ⟨text, rfl, rfl⟩ := mark (by decide) eq
      obtain ⟨_ | ⟨d, left⟩, same, alone⟩ | same := readFlags?_beyond own
      · obtain ⟨-, rfl⟩ := List.cons.inj same
        exact .inr calm
      · rw [List.cons_append] at same
        obtain ⟨rfl, rfl⟩ := List.cons.inj same
        exact .inl ⟨left, rfl, .flags alone ne⟩
      · obtain ⟨-, rfl⟩ := List.cons.inj same
        exact .inr calm
  | flagged own ne =>
      obtain ⟨text, rfl, rfl⟩ := mark (by decide) eq
      obtain ⟨_ | ⟨d, left⟩, same, alone⟩ | same := readFlags?_beyond own
      · exact absurd (List.cons.inj same).1 ne
      · rw [List.cons_append] at same
        obtain ⟨rfl, rfl⟩ := List.cons.inj same
        exact .inl ⟨left, rfl, .flagged alone ne⟩
      · exact absurd (List.cons.inj same).1 ne
  | numbered noMark =>
      subst eq
      refine .inl ⟨text, rfl, .numbered fun inside same => ?_⟩
      exact noMark (inside ++ ')' :: back) (by rw [same]; rfl)

theorem readGroupOpening?_beyond (calm : Calm back) {opening : Opening}
    (own : readGroupOpening? verbose (text ++ ')' :: back) = some (opening, rest)) :
    IsOwn (readGroupOpening? verbose text) back opening rest ∨ Calm rest := by
  have begins := readGroupOpening?_eq_some_iff.mp own
  obtain within | ⟨-, beyond⟩ := skip_beyond calm verbose text
  · rw [within] at begins
    obtain ⟨left, rfl, alone⟩ | later := begins.beyond calm
    · exact .inl ⟨left, rfl, readGroupOpening?_eq_some_iff.mpr alone⟩
    · exact .inr later
  · have noMark := CalmTo.head?_ne beyond nofun
    generalize skip verbose (text ++ ')' :: back) = ahead at begins beyond noMark
    cases begins with
    | numbered => exact .inr beyond
    | named | angled | flags | flagged => exact absurd rfl noMark

/-! ## Signs -/

theorem repeats_beyond (least : Nat) (most : Option Nat) (text back : List Char) :
    repeats least most (text ++ ')' :: back) =
      ((repeats least most text).1, (repeats least most text).2 ++ ')' :: back) := by
  cases text with
  | nil => rfl
  | cons c text =>
      by_cases mark : c = '?'
      · subst mark
        rfl
      · have noMark {more : List Char} : (c :: more).head? ≠ some '?' := by simp [mark]
        rw [List.cons_append, repeats_of_head least most noMark, repeats_of_head least most noMark]
        rfl

/-- What a sign may be that takes in the parenthesis behind a text, with what is left of it. -/
inductive OverrunsSign (verbose : Bool) (back : List Char) : Sign → List Char → Prop where
  | calm {sign rest} (own : Calm rest) (noStop : sign ≠ .stop) :
      OverrunsSign verbose back sign rest
  | hopeless {e rest} (own : e.IsHopeless) : OverrunsSign verbose back (.part e) rest
  | boundary {inside} (own : skip verbose inside = []) :
      OverrunsSign verbose back (.part (.assertion .wordBoundary))
        ('\x7b' :: (inside ++ ')' :: back))

theorem Overruns.sign {a : Atom} (h : Overruns verbose back a rest) :
    OverrunsSign verbose back (.part a.toExpr) rest := by
  cases h with
  | calm own => exact .calm own nofun
  | parenthesis => exact .hopeless (Expr.isHopeless_parenthesis _)
  | boundary own => exact .boundary own

variable {sign : Sign}

theorem exists_of_repeats_beyond {least : Nat} {most : Option Nat}
    (own : repeats least most (text ++ ')' :: back) = (sign, rest)) :
    ∃ left, rest = left ++ ')' :: back ∧ repeats least most text = (sign, left) := by
  rw [repeats_beyond] at own
  obtain ⟨rfl, rfl⟩ := Prod.mk.inj own
  exact ⟨_, rfl, rfl⟩

theorem readSign?_brace_beyond (calm : Calm back)
    (own : readSign? verbose ('\x7b' :: (text ++ ')' :: back)) = some (sign, rest)) :
    IsOwn (readSign? verbose ('\x7b' :: text)) back sign rest ∨
      OverrunsSign verbose back sign rest := by
  rw [readSign?] at own
  obtain ⟨⟨least, most, more⟩, bounds, same⟩ := Option.map_eq_some_iff.mp own
  obtain ⟨more, rfl, alone⟩ := readBounds?_beyond calm bounds
  obtain within | ⟨-, beyond⟩ := skip_beyond calm verbose more
  · simp only [within] at same
    obtain ⟨left, rfl, repeatsAlone⟩ := exists_of_repeats_beyond same
    refine .inl ⟨left, rfl, ?_⟩
    rw [readSign?, alone]
    exact congrArg some repeatsAlone
  · simp only [repeats_of_head least most (CalmTo.head?_ne beyond (by simp))] at same
    obtain ⟨rfl, rfl⟩ := Prod.mk.inj same
    exact .inr (.calm beyond (by simp))

theorem readSign?_bracket_beyond (calm : Calm back)
    (own : readSign? verbose ('[' :: (text ++ ')' :: back)) = some (sign, rest)) :
    IsOwn (readSign? verbose ('[' :: text)) back sign rest := by
  rw [readSign?] at own
  obtain ⟨⟨set, more⟩, reads, same⟩ := Option.map_eq_some_iff.mp own
  obtain ⟨rfl, rfl⟩ := Prod.mk.inj same
  obtain ⟨more, rfl, alone⟩ := ((readClass?_eq_some_iff (Nat.le_refl _)).mp reads).beyond calm
  refine ⟨more, rfl, ?_⟩
  rw [readSign?, (readClass?_eq_some_iff (Nat.le_refl _)).mpr alone]
  rfl

theorem readSign?_open_beyond (calm : Calm back)
    (own : readSign? verbose ('(' :: (text ++ ')' :: back)) = some (sign, rest)) :
    IsOwn (readSign? verbose ('(' :: text)) back sign rest ∨
      OverrunsSign verbose back sign rest := by
  rw [readSign?] at own
  obtain ⟨⟨opening, more⟩, opens, same⟩ := Option.map_eq_some_iff.mp own
  obtain ⟨more, rfl, alone⟩ | later := readGroupOpening?_beyond calm opens
  · refine .inl ⟨more, ?_⟩
    rw [readSign?, alone]
    cases opening with
    | group | flags =>
        obtain ⟨rfl, rfl⟩ := Prod.mk.inj same
        exact ⟨rfl, rfl⟩
  · cases opening with
    | group | flags =>
        obtain ⟨rfl, rfl⟩ := Prod.mk.inj same
        exact .inr (.calm later (by simp))

theorem readSign?_beyond (calm : Calm back) (ne : text ≠ [])
    (own : readSign? verbose (text ++ ')' :: back) = some (sign, rest)) :
    IsOwn (readSign? verbose text) back sign rest ∨ OverrunsSign verbose back sign rest := by
  have repeated {least : Nat} {most : Option Nat} {left : List Char}
      (own : some (repeats least most (left ++ ')' :: back)) = some (sign, rest)) :
      IsOwn (some (repeats least most left)) back sign rest := by
    obtain ⟨left', rfl, alone⟩ := exists_of_repeats_beyond (Option.some.inj own)
    exact ⟨left', rfl, congrArg some alone⟩
  obtain ⟨c, left, rfl⟩ := List.exists_cons_of_ne_nil ne
  by_cases special : c ∈ groupSigns
  · rw [List.cons_append] at own
    simp only [groupSigns, List.mem_cons, List.not_mem_nil, or_false] at special
    obtain rfl | rfl | rfl | rfl | rfl | rfl | rfl | rfl := special
    · obtain ⟨rfl, rfl⟩ := Prod.mk.inj (Option.some.inj own)
      exact .inl ⟨')' :: left, rfl, rfl⟩
    · obtain ⟨rfl, rfl⟩ := Prod.mk.inj (Option.some.inj own)
      exact .inl ⟨left, rfl, rfl⟩
    · exact .inl (repeated own)
    · exact .inl (repeated own)
    · exact .inl (repeated own)
    · exact readSign?_brace_beyond calm own
    · exact .inl (readSign?_bracket_beyond calm own)
    · exact readSign?_open_beyond calm own
  · rw [List.cons_append, readSign?_of_notMem special, ← List.cons_append] at own
    obtain ⟨⟨a, more⟩, reads, same⟩ := Option.map_eq_some_iff.mp own
    obtain ⟨rfl, rfl⟩ := Prod.mk.inj same
    obtain ⟨more, rfl, alone⟩ | overruns := readAtom?_beyond calm ne reads
    · refine .inl ⟨more, rfl, ?_⟩
      rw [readSign?_of_notMem special, alone]
      rfl
    · exact .inr overruns.sign

/-! ## Groups -/

variable {s s' last : OpenGroup}

/-- What has no meaning in a group is kept in it. -/
theorem OpenGroup.IsHopeless.step? (h : s.IsHopeless)
    (made : s.step? sign = some s') :
    s'.IsHopeless := by
  cases sign with
  | stop => cases made
  | opens => cases made
  | bar =>
      obtain rfl := Option.some.inj made
      exact h.branch
  | again => exact h.repeatLast? made
  | part =>
      obtain rfl := Option.some.inj made
      exact h.push _
  | flags =>
      obtain rfl := Option.some.inj made
      exact h.push _

theorem Reads.isHopeless (h : Reads s text last rest) (own : s.IsHopeless) : last.IsHopeless := by
  induction h with
  | stop => exact own
  | step _ made _ ih => exact ih (own.step? made)
  | group _ _ _ _ _ ih => exact ih (own.push _)

/-- Braces that are open where the text ends count nothing. -/
theorem readSign?_brace_eq_none (calm : Calm back) {inside : List Char}
    (own : skip verbose inside = []) :
    readSign? verbose ('\x7b' :: (inside ++ ')' :: back)) = none := by
  rw [readSign?]
  have noBounds : readBounds? verbose (inside ++ ')' :: back) = none := by
    refine Option.eq_none_iff_forall_ne_some.mpr ?_
    rintro ⟨least, most, rest⟩ bounds
    obtain ⟨left, rfl, alone⟩ := readBounds?_beyond calm bounds
    obtain ⟨left, count, -⟩ := readBounds?_eq_some_iff.mp alone
    rw [own] at count
    cases count
  rw [noBounds]
  rfl

/-- The next sign behind blanks is read of the text, or it takes in the parenthesis, or a comment
does. -/
theorem readSign?_skip_beyond (calm : Calm back)
    (own : readSign? verbose (skip verbose (text ++ ')' :: back)) = some (sign, rest)) :
    IsOwn (readSign? verbose (skip verbose text)) back sign rest ∨
      OverrunsSign verbose back sign rest ∨ Calm (skip verbose (text ++ ')' :: back)) := by
  obtain within | ⟨-, beyond⟩ := skip_beyond calm verbose text
  · by_cases none : skip verbose text = []
    · rw [within, none] at own
      obtain ⟨rfl, rfl⟩ := Prod.mk.inj (Option.some.inj own)
      exact .inl ⟨[], rfl, by rw [none]; rfl⟩
    · rw [within] at own
      exact (readSign?_beyond calm none own).imp_right .inl
  · exact .inr (.inr beyond)

/-- How a group is read with a parenthesis and calm text behind its text: as it is read without
them, or else to the end of all the text, or it has no meaning. -/
theorem Reads.beyond (calm : Calm back) (h : Reads s (text ++ ')' :: back) last rest) :
    (∃ left, rest = left ++ ')' :: back ∧ Reads s text last left) ∨ rest = [] ∨
      last.IsHopeless := by
  generalize eq : text ++ ')' :: back = whole at h
  induction h generalizing text with
  | @stop s whole rest own =>
      subst eq
      obtain ⟨left, rfl, alone⟩ | overruns | later := readSign?_skip_beyond calm own
      · exact .inl ⟨left, rfl, .stop alone⟩
      · cases overruns with
        | calm _ noStop => exact absurd rfl noStop
      · exact .inr (.inl ((Reads.stop own).rest_of_skip later))
  | @step s s' whole sign ahead last rest own made later ih =>
      subst eq
      obtain ⟨left, rfl, alone⟩ | overruns | calmAhead := readSign?_skip_beyond calm own
      · exact (ih rfl).imp_left fun ⟨left', same, reads⟩ => ⟨left', same, .step alone made reads⟩
      · cases overruns with
        | calm isCalm => exact .inr (.inl (later.rest_of_calm isCalm))
        | hopeless hopeless =>
            obtain rfl := Option.some.inj made
            exact .inr (.inr (later.isHopeless (OpenGroup.isHopeless_push hopeless s)))
        | boundary blank =>
            obtain rfl := Option.some.inj made
            obtain ⟨sign, ahead, next⟩ := later.exists_sign
            rw [skip_cons (isSolid_of_isMeta rfl (by decide))] at next
            cases (readSign?_brace_eq_none calm blank).symm.trans next
      · exact .inr (.inl ((Reads.step own made later).rest_of_skip calmAhead))
  | @group s whole kind first inner ahead last rest own new within later ihWithin ih =>
      subst eq
      obtain ⟨left, rfl, alone⟩ | overruns | calmAhead := readSign?_skip_beyond calm own
      · obtain ⟨_ | ⟨d, left'⟩, same, inside⟩ | same | hopeless := ihWithin rfl
        · obtain ⟨-, rfl⟩ := List.cons.inj same
          exact .inr (.inl (later.rest_of_calm calm))
        · rw [List.cons_append] at same
          obtain ⟨rfl, rfl⟩ := List.cons.inj same
          exact (ih rfl).imp_left fun ⟨left'', same, reads⟩ =>
            ⟨left'', same, .group alone new inside reads⟩
        · cases same
        · have group := OpenGroup.isHopeless_push (hopeless.body.group kind) s
          exact .inr (.inr (later.isHopeless group))
      · cases overruns with
        | calm isCalm => cases within.rest_of_calm isCalm
      · exact .inr (.inl ((Reads.group own new within later).rest_of_skip calmAhead))

end Interception.Regex