import Interception.Proofs.Regex.Beyond.Escape

/-!
# Sets read beyond a text

What the readers of sets take from a text with a parenthesis and calm text behind it. No bracket
closes a set in calm text, so a set that is read is a set of the text alone.
-/

namespace Interception.Regex

variable {verbose : Bool} {n m : Nat} {text back rest left : List Char}

theorem Shielded.parenthesis (h : Shielded back) : Shielded (')' :: back) :=
  .bare (by decide) h

/-! ## Ranges -/

theorem dropWhile_beyond {p : Char → Bool} (own : p ')' = false) (text back : List Char) :
    (text ++ ')' :: back).dropWhile p = text.dropWhile p ++ ')' :: back := by
  induction text with
  | nil => exact List.dropWhile_cons_of_neg (by simp [own])
  | cons c text ih =>
      rw [List.cons_append, List.dropWhile_cons, List.dropWhile_cons]
      split
      · exact ih
      · rfl

/-- The text behind blanks and the number sign of a comment. -/
def behindMark (text : List Char) : List Char :=
  match text.dropWhile isBlank with
  | '#' :: rest => rest.dropWhile isBlank
  | rest => rest

theorem signAhead?_verbose (text : List Char) :
    signAhead? true text = ((behindMark text).head? <|> text.head?) := rfl

theorem behindMark_beyond (text back : List Char) :
    behindMark (text ++ ')' :: back) = behindMark text ++ ')' :: back := by
  have notBlank : isBlank ')' = false := isBlank_of_isMeta rfl
  unfold behindMark
  rw [dropWhile_beyond notBlank]
  cases text.dropWhile isBlank with
  | nil => rfl
  | cons c text =>
      by_cases mark : c = '#'
      · subst mark
        exact dropWhile_beyond notBlank text back
      · split <;> grind

theorem isLastMinus_beyond (verbose : Bool) (text back : List Char) :
    IsLastMinus verbose (text ++ ')' :: back) ↔ IsLastMinus verbose text := by
  cases verbose with
  | false => cases text <;> simp [IsLastMinus, signAhead?]
  | true =>
      unfold IsLastMinus
      rw [signAhead?_verbose, signAhead?_verbose, behindMark_beyond]
      cases ahead : behindMark text with
      | cons c more => rfl
      | nil =>
          -- Neither sign is blank, so none of them comes first where nothing stands behind blanks.
          have noSign {c : Char} (own : isBlank c = false) (ne : c ≠ '#') :
              text.head? ≠ some c := by
            intro head
            obtain ⟨more, rfl⟩ := List.head?_eq_some_iff.mp head
            rw [behindMark, List.dropWhile_cons_of_neg (by simp [own])] at ahead
            grind
          have noBracket := noSign (c := ']') (isBlank_of_isMeta rfl) (by decide)
          have noMinus := noSign (c := '-') (isBlank_of_isMeta rfl) (by decide)
          simp [noBracket, noMinus]

theorem Overruns.shielded {a : Atom} (h : Overruns verbose back a rest)
    (noAssertion : ∀ b, a ≠ .assertion b) : Shielded rest := by
  cases h with
  | calm own => exact own.shielded
  | parenthesis own => exact own
  | boundary => exact absurd rfl (noAssertion _)

theorem EndsRange.ne_assertion {low : Atom} {c : ClassExpr} (h : EndsRange verbose low left c rest)
    (b : Assertion) : low ≠ .assertion b := by
  rintro rfl
  cases h with
  | minus _ _ item => cases item
  | range _ _ _ isLow => cases isLow
  | single _ _ _ item => cases item

/-- The end of a range is read of the text alone, or it is the last sign that is read of it. -/
theorem EndsRange.beyond (calm : Calm back) {low : Atom} {c : ClassExpr}
    (h : EndsRange verbose low (text ++ ')' :: back) c rest) :
    (∃ left, rest = left ++ ')' :: back ∧ EndsRange verbose low text c left) ∨ Shielded rest := by
  obtain within | ⟨-, beyond⟩ := skip_beyond calm verbose text
  · cases ahead : skip verbose text with
    | nil =>
        rw [ahead, List.nil_append] at within
        cases h with
        | minus whole => cases within.symm.trans whole
        | range whole => cases within.symm.trans whole
        | single whole =>
            obtain rfl := within.symm.trans whole
            exact .inr calm.shielded.parenthesis
    | cons d more =>
        rw [ahead, List.cons_append] at within
        cases h with
        | minus whole own item =>
            obtain ⟨rfl, rfl⟩ := List.cons.inj (within.symm.trans whole)
            exact .inl ⟨'-' :: more, rfl, .minus ahead ((isLastMinus_beyond ..).mp own) item⟩
        | @range _ high _ _ _ whole own further isLow isHigh le =>
            obtain ⟨rfl, rfl⟩ := List.cons.inj (within.symm.trans whole)
            have noAssertion : ∀ b, high ≠ .assertion b := by
              rintro b rfl
              cases isHigh
            have own := mt (isLastMinus_beyond verbose more back).mpr own
            obtain inside | ⟨-, outside⟩ := skip_beyond calm verbose more
            · rw [inside] at further
              by_cases none : skip verbose more = []
              · rw [none] at further
                exact .inr (calm.shielded.parenthesis.readItem? further)
              · obtain ⟨last, rfl, alone⟩ | overruns := readItem?_beyond calm none further
                · exact .inl ⟨last, rfl, .range ahead own alone isLow isHigh le⟩
                · exact .inr (overruns.shielded noAssertion)
            · exact .inr (outside.shielded.readItem? further)
        | single whole ne noMinus item =>
            obtain rfl := within.symm.trans whole
            refine .inl ⟨d :: more, rfl, .single ahead nofun ?_ item⟩
            rintro after same
            obtain ⟨rfl, -⟩ := List.cons.inj same
            exact noMinus _ rfl
  · cases h with
    | minus whole => exact absurd (whole ▸ beyond) fun h => h.ne_brace (by decide) (by decide)
    | range whole => exact absurd (whole ▸ beyond) fun h => h.ne_brace (by decide) (by decide)
    | single whole => exact .inr (whole ▸ beyond.shielded)

theorem readRange?_beyond (calm : Calm back) (ne : text ≠ []) {c : ClassExpr}
    (own : readRange? verbose (text ++ ')' :: back) = some (c, rest)) :
    IsOwn (readRange? verbose text) back c rest ∨ Shielded rest := by
  obtain ⟨low, left, first, ends⟩ := readRange?_eq_some_iff.mp own
  obtain ⟨left, rfl, alone⟩ | overruns := readItem?_beyond calm ne first
  · obtain ⟨last, rfl, endsAlone⟩ | shielded := ends.beyond calm
    · exact .inl ⟨last, rfl, readRange?_eq_some_iff.mpr ⟨low, left, alone, endsAlone⟩⟩
    · exact .inr shielded
  · exact .inr ((overruns.shielded ends.ne_assertion).endsRange ends)

/-! ## Named classes -/

theorem notMem_of_posixNamed? {name : List Char} {kind : PosixClass}
    (h : posixNamed? name = some kind) : ')' ∉ name := by
  have of_ofList {word : String} (same : String.ofList name = word) (own : ')' ∉ word.toList) :
      ')' ∉ name := by
    rwa [← same, String.toList_ofList] at own
  unfold posixNamed? at h
  split at h
  all_goals first | exact of_ofList ‹String.ofList name = _› (by decide) | cases h

/-- What comes before a sign that the text holds is the same with more text behind it, and otherwise
it goes on to the parenthesis. -/
theorem span_beyond {p : Char → Bool} (own : p ')' = true) (text back : List Char) :
    ((text ++ ')' :: back).takeWhile p = text.takeWhile p ∧
      ∃ d more, text.dropWhile p = d :: more ∧
        (text ++ ')' :: back).dropWhile p = d :: (more ++ ')' :: back)) ∨
    (text.dropWhile p = [] ∧ ')' ∈ (text ++ ')' :: back).takeWhile p) := by
  induction text with
  | nil =>
      refine .inr ⟨rfl, ?_⟩
      rw [List.nil_append, List.takeWhile_cons_of_pos own]
      exact List.mem_cons_self
  | cons c text ih =>
      rw [List.cons_append, List.takeWhile_cons, List.takeWhile_cons, List.dropWhile_cons,
        List.dropWhile_cons]
      split
      · obtain ⟨same, stops⟩ | ⟨none, mem⟩ := ih
        · exact .inl ⟨by rw [same], stops⟩
        · exact .inr ⟨none, List.mem_cons_of_mem c mem⟩
      · exact .inl ⟨rfl, c, text, rfl, rfl⟩

/-- A named class, behind its colon and its circumflex. -/
def readPosixName? (negated : Bool) (text : List Char) : Option (ClassExpr × List Char) := do
  let ':' :: ']' :: rest := text.dropWhile (· != ':') | none
  let kind ← posixNamed? (text.takeWhile (· != ':'))
  return (.posix kind negated, rest)

theorem readPosix?_caret (text : List Char) :
    readPosix? (':' :: '^' :: text) = readPosixName? true text := rfl

theorem readPosix?_colon (noCaret : ∀ rest, text ≠ '^' :: rest) :
    readPosix? (':' :: text) = readPosixName? false text := by
  unfold readPosix? readPosixName?
  cases text <;> grind

theorem readPosixName?_beyond (negated : Bool) (text back : List Char) :
    readPosixName? negated (text ++ ')' :: back) =
      (readPosixName? negated text).map fun (c, rest) => (c, rest ++ ')' :: back) := by
  unfold readPosixName?
  obtain ⟨taken, d, more, own, left⟩ | ⟨unended, mem⟩ :=
    span_beyond (p := (· != ':')) (by decide) text back
  · rw [taken, left, own]
    by_cases closes : ∃ rest, d :: more = ':' :: ']' :: rest
    · obtain ⟨rest, same⟩ := closes
      obtain ⟨rfl, rfl⟩ := List.cons.inj same
      cases posixNamed? (text.takeWhile (· != ':')) <;> rfl
    · cases more <;> grind
  · -- No colon ends the name in the text, so the parenthesis would be part of it.
    have noName : posixNamed? ((text ++ ')' :: back).takeWhile (· != ':')) = none :=
      Option.eq_none_iff_forall_ne_some.mpr fun _ named => notMem_of_posixNamed? named mem
    rw [noName, unended]
    split <;> rfl

theorem readPosix?_beyond (text back : List Char) :
    readPosix? (text ++ ')' :: back) =
      (readPosix? text).map fun (c, rest) => (c, rest ++ ')' :: back) := by
  by_cases colon : ∃ name, text = ':' :: name
  · obtain ⟨name, rfl⟩ := colon
    rw [List.cons_append]
    by_cases caret : ∃ rest, name = '^' :: rest
    · obtain ⟨rest, rfl⟩ := caret
      rw [List.cons_append, readPosix?_caret, readPosix?_caret]
      exact readPosixName?_beyond true rest back
    · have noCaret := not_exists.mp caret
      have noCaret' := ne_cons_beyond (by decide) noCaret back
      rw [readPosix?_colon noCaret, readPosix?_colon noCaret']
      exact readPosixName?_beyond false name back
  · unfold readPosix?
    cases text <;> grind

/-! ## Items -/

/-- Where two signs begin a text with a parenthesis behind it, they begin the text itself. -/
theorem exists_of_append_eq {c : Char} (ne : c ≠ ')')
    (h : text ++ ')' :: back = c :: c :: rest) :
    ∃ left, text = c :: c :: left ∧ rest = left ++ ')' :: back := by
  rcases text with _ | ⟨d, _ | ⟨e, left⟩⟩ <;> grind

variable {sign : ItemSign}

theorem readItemSign?_bracket_beyond
    (own : readItemSign? verbose ('[' :: (text ++ ')' :: back)) = some (sign, rest)) :
    IsOwn (readItemSign? verbose ('[' :: text)) back sign rest := by
  rw [readItemSign?, readPosix?_beyond] at own
  unfold IsOwn
  rw [readItemSign?]
  generalize readPosix? text = posix at own ⊢
  cases posix with
  | none =>
      obtain ⟨rfl, rfl⟩ := Prod.mk.inj (Option.some.inj own)
      exact ⟨text, rfl, rfl⟩
  | some found =>
      obtain ⟨rfl, rfl⟩ := Prod.mk.inj (Option.some.inj own)
      exact ⟨found.2, rfl, rfl⟩

theorem readItemSign?_beyond (calm : Calm back) (ne : text ≠ [])
    (own : readItemSign? verbose (text ++ ')' :: back) = some (sign, rest)) :
    IsOwn (readItemSign? verbose text) back sign rest ∨
      ((∃ c, sign = .item c) ∧ Shielded rest) := by
  generalize eq : text ++ ')' :: back = whole at own
  unfold readItemSign? at own
  split at own
  · cases own
  · next inside =>
    obtain ⟨c, left, rfl⟩ := List.exists_cons_of_ne_nil ne
    rw [List.cons_append] at eq
    obtain ⟨rfl, rfl⟩ := List.cons.inj eq
    exact .inl (readItemSign?_bracket_beyond own)
  · obtain ⟨c, left, rfl⟩ := List.exists_cons_of_ne_nil ne
    rw [List.cons_append] at eq
    obtain ⟨rfl, rfl⟩ := List.cons.inj eq
    obtain ⟨rfl, rfl⟩ := Prod.mk.inj (Option.some.inj own)
    exact .inl ⟨left, rfl, rfl⟩
  · obtain ⟨left, rfl, rfl⟩ := exists_of_append_eq (by decide) eq
    obtain ⟨rfl, rfl⟩ := Prod.mk.inj (Option.some.inj own)
    exact .inl ⟨left, rfl, rfl⟩
  · obtain ⟨left, rfl, rfl⟩ := exists_of_append_eq (by decide) eq
    obtain ⟨rfl, rfl⟩ := Prod.mk.inj (Option.some.inj own)
    exact .inl ⟨left, rfl, rfl⟩
  · obtain ⟨left, rfl, rfl⟩ := exists_of_append_eq (by decide) eq
    obtain ⟨rfl, rfl⟩ := Prod.mk.inj (Option.some.inj own)
    exact .inl ⟨left, rfl, rfl⟩
  · next notNil notOpen notClose notInter notDiff notSymmDiff =>
    subst eq
    obtain ⟨⟨c, left⟩, range, same⟩ := Option.map_eq_some_iff.mp own
    obtain ⟨rfl, rfl⟩ := Prod.mk.inj same
    obtain ⟨last, rfl, alone⟩ | shielded := readRange?_beyond calm ne range
    · refine .inl ⟨last, rfl, ?_⟩
      rw [readItemSign?, alone]
      · rfl
      · exact ne
      all_goals
        rintro more rfl
        first
        | exact notOpen _ rfl
        | exact notClose _ rfl
        | exact notInter _ rfl
        | exact notDiff _ rfl
        | exact notSymmDiff _ rfl
    · exact .inr ⟨⟨c, rfl⟩, shielded⟩

/-! ## Whole sets -/

theorem readCaret_beyond (calm : Calm back) (verbose : Bool) (text : List Char) :
    readCaret verbose (text ++ ')' :: back) =
        ((readCaret verbose text).1, (readCaret verbose text).2 ++ ')' :: back) ∨
      Shielded (readCaret verbose (text ++ ')' :: back)).2 := by
  obtain within | ⟨-, beyond⟩ := skip_beyond calm verbose text
  · unfold readCaret
    rw [within]
    cases ahead : skip verbose text with
    | nil => exact .inl rfl
    | cons c more =>
        by_cases caret : c = '^'
        · subst caret
          obtain inside | ⟨-, outside⟩ := skip_beyond calm verbose more
          · exact .inl (Prod.ext rfl inside)
          · exact .inr outside.shielded
        · refine .inl ?_
          rw [List.cons_append]
          split <;> grind
  · exact .inr beyond.shielded.readCaret

theorem openingMinuses_beyond (calm : Calm back) (verbose : Bool)
    (enough : (text ++ ')' :: back).length ≤ n)
    (enough' : text.length ≤ m) :
    openingMinuses verbose n (text ++ ')' :: back) =
        ((openingMinuses verbose m text).1, (openingMinuses verbose m text).2 ++ ')' :: back) ∨
      Shielded (openingMinuses verbose n (text ++ ')' :: back)).2 := by
  induction m using Nat.strongRecOn generalizing text n with
  | ind m ih =>
      rw [List.length_append, List.length_cons] at enough
      by_cases minus : ∃ more, text = '-' :: more
      · obtain ⟨more, rfl⟩ := minus
        rw [List.length_cons] at enough enough'
        obtain ⟨n, rfl⟩ := Nat.exists_eq_add_of_le' (show 1 ≤ n by omega)
        obtain ⟨m, rfl⟩ := Nat.exists_eq_add_of_le' (show 1 ≤ m by omega)
        have shorter := length_skip_le verbose more
        rw [List.cons_append, openingMinuses, openingMinuses]
        obtain within | ⟨-, beyond⟩ := skip_beyond calm verbose more
        · rw [within]
          have enough : (skip verbose more ++ ')' :: back).length ≤ n := by
            rw [List.length_append, List.length_cons]
            omega
          obtain same | shielded := ih m (Nat.lt_succ_self m) enough (by omega)
          · exact .inl (by rw [same])
          · exact .inr shielded
        · rw [beyond.shielded.openingMinuses]
          exact .inr beyond.shielded
      · have noMinus := not_exists.mp minus
        have noMinus' := ne_cons_beyond (by decide) noMinus back
        refine .inl ?_
        rw [openingMinuses_of_ne noMinus, openingMinuses_of_ne noMinus']

theorem readOpening?_beyond (calm : Calm back) {negated : Bool} {start : OpenClass}
    (own : readOpening? verbose (text ++ ')' :: back) = some (negated, start, rest)) :
    (∃ left, rest = left ++ ')' :: back ∧
      readOpening? verbose text = some (negated, start, left)) ∨ Shielded rest := by
  obtain ⟨n, left, minuses, rfl, further⟩ := readOpening?_eq_some_iff.mp own
  have closes (shielded : Shielded left) : Shielded rest := by
    obtain ⟨more, -, rfl, -⟩ | ⟨-, -, rfl, -⟩ := further
    · obtain ⟨bare, -⟩ | ⟨⟨⟩⟩ := shielded.notMem_or_eq
      exact absurd (by decide) bare
    · exact shielded
  obtain caret | shielded := readCaret_beyond calm verbose text
  · rw [caret] at minuses ⊢
    obtain same | shielded := openingMinuses_beyond calm verbose
      (Nat.le_refl ((readCaret verbose text).2 ++ ')' :: back).length) (Nat.le_refl _)
    · obtain ⟨k, left', alone⟩ : ∃ k left', openingMinuses verbose (readCaret verbose text).2.length
          (readCaret verbose text).2 = (k, left') := ⟨_, _, rfl⟩
      rw [minuses, alone] at same
      simp only [Prod.mk.injEq] at same
      obtain ⟨rfl, rfl⟩ := same
      obtain ⟨more, rfl, bracket, ne, rfl, rfl⟩ | ⟨-, noBracket, rfl, rfl⟩ := further
      · cases left' with
        | nil => cases bracket
        | cons d left' =>
            rw [List.cons_append] at bracket
            obtain ⟨rfl, rfl⟩ := List.cons.inj bracket
            obtain within | ⟨-, beyond⟩ := skip_beyond calm verbose left'
            · by_cases blank : skip verbose left' = []
              · rw [within, blank]
                exact .inr calm.shielded.parenthesis
              · exact .inl ⟨_, within, readOpening?_eq_some_iff.mpr ⟨0, _, alone, rfl,
                  .inl ⟨left', rfl, rfl, blank, rfl, rfl⟩⟩⟩
            · exact .inr beyond.shielded
      · by_cases blank : left' = []
        · rw [blank]
          exact .inr calm.shielded.parenthesis
        · refine .inl ⟨left', rfl, readOpening?_eq_some_iff.mpr ⟨n, left', alone, rfl,
            .inr ⟨blank, fun zero more eq => ?_, rfl, rfl⟩⟩⟩
          exact noBracket zero (more ++ ')' :: back) (by rw [eq]; rfl)
    · rw [minuses] at shielded
      exact .inr (closes shielded)
  · rw [shielded.openingMinuses] at minuses
    obtain ⟨-, rfl⟩ := Prod.mk.inj minuses
    exact .inr (closes shielded)

variable {o : OpenClass} {c : ClassExpr}

theorem ReadsItems.skip (h : ReadsItems verbose o text c rest) :
    ReadsItems verbose o (Regex.skip verbose text) c rest := by
  cases h with
  | close own => exact .close (by rwa [skip_skip])
  | step own made later => exact .step (by rwa [skip_skip]) made later
  | nested own opening inner later => exact .nested (by rwa [skip_skip]) opening inner later

/-- The signs between brackets stand in the text, as no closing bracket stands behind it. -/
theorem ReadsItems.skip_eq (calm : Calm back)
    (h : ReadsItems verbose o (text ++ ')' :: back) c rest) :
    Regex.skip verbose (text ++ ')' :: back) = Regex.skip verbose text ++ ')' :: back ∧
      Regex.skip verbose text ≠ [] := by
  obtain within | ⟨-, beyond⟩ := skip_beyond calm verbose text
  · refine ⟨within, fun none => ?_⟩
    rw [none] at within
    exact not_readsItems_of_shielded calm.shielded.parenthesis (within ▸ h.skip)
  · exact absurd h.skip (not_readsItems_of_shielded beyond.shielded)

/-- A set that is open when the text ends is not closed behind it. -/
theorem ReadsItems.beyond (calm : Calm back)
    (h : ReadsItems verbose o (text ++ ')' :: back) c rest) :
    ∃ left, rest = left ++ ')' :: back ∧ ReadsItems verbose o text c left := by
  generalize eq : text ++ ')' :: back = whole at h
  induction h generalizing text with
  | @close o _ _ own =>
      subst eq
      obtain ⟨within, ne⟩ := (ReadsItems.close (o := o) own).skip_eq calm
      rw [within] at own
      obtain ⟨left, rfl, alone⟩ | ⟨⟨item, ⟨⟩⟩, -⟩ := readItemSign?_beyond calm ne own
      exact ⟨left, rfl, .close alone⟩
  | step own made later ih =>
      subst eq
      obtain ⟨within, ne⟩ := (ReadsItems.step own made later).skip_eq calm
      rw [within] at own
      obtain ⟨left, rfl, alone⟩ | ⟨-, shielded⟩ := readItemSign?_beyond calm ne own
      · obtain ⟨last, rfl, reads⟩ := ih rfl
        exact ⟨last, rfl, .step alone made reads⟩
      · exact absurd later (not_readsItems_of_shielded shielded)
  | nested own opening inner later ihInner ih =>
      subst eq
      obtain ⟨within, ne⟩ := (ReadsItems.nested own opening inner later).skip_eq calm
      rw [within] at own
      obtain ⟨left, rfl, alone⟩ | ⟨⟨item, ⟨⟩⟩, -⟩ := readItemSign?_beyond calm ne own
      obtain ⟨inside, rfl, opens⟩ | shielded := readOpening?_beyond calm opening
      · obtain ⟨ahead, rfl, body⟩ := ihInner rfl
        obtain ⟨last, rfl, reads⟩ := ih rfl
        exact ⟨last, rfl, .nested alone opens body reads⟩
      · exact absurd inner (not_readsItems_of_shielded shielded)

/-- A set that is read is a set of the text. -/
theorem ReadsClass.beyond (calm : Calm back)
    (h : ReadsClass verbose (text ++ ')' :: back) c rest) :
    ∃ left, rest = left ++ ')' :: back ∧ ReadsClass verbose text c left := by
  obtain ⟨negated, start, inside, body, opening, items, rfl⟩ := h
  obtain ⟨inside, rfl, opens⟩ | shielded := readOpening?_beyond calm opening
  · obtain ⟨left, rfl, reads⟩ := items.beyond calm
    exact ⟨left, rfl, negated, start, inside, body, opens, reads, rfl⟩
  · exact absurd items (not_readsItems_of_shielded shielded)

end Interception.Regex
