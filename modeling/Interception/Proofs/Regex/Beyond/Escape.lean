import Interception.Proofs.Regex.Passage

/-!
# Signs read beyond a text

What the reader of a sign takes from a text with a parenthesis and calm text behind it. As a rule it
is what the reader takes from the text alone. Otherwise a comment, or an escape that the text does
not finish, takes the parenthesis as well, and reading goes on in the calm text.
-/

namespace Interception.Regex

variable {α : Type} {verbose : Bool} {n m : Nat} {p : Char → Bool}
variable {text back rest : List Char}

/-- What is read of a text with a parenthesis and further text behind it is read of the text alone,
and something or nothing of it is left. -/
def IsOwn (alone : Option (α × List Char)) (back : List Char) (a : α) (rest : List Char) : Prop :=
  ∃ left, rest = left ++ ')' :: back ∧ alone = some (a, left)

/-! ## Blanks and rows of signs -/

theorem ne_cons_beyond {c : Char} (ne : c ≠ ')') (h : ∀ more, text ≠ c :: more)
    (back more : List Char) : text ++ ')' :: back ≠ c :: more := by
  intro eq
  cases text with
  | nil => exact ne (List.cons.inj eq).1.symm
  | cons d text =>
      obtain ⟨rfl, -⟩ := List.cons.inj eq
      exact h text rfl

theorem skipBlanks_beyond (calm : Calm back) (inComment : Bool) (text : List Char) :
    skipBlanks inComment (text ++ ')' :: back) = skipBlanks inComment text ++ ')' :: back ∨
      (skipBlanks inComment text = [] ∧ Calm (skipBlanks inComment (text ++ ')' :: back))) := by
  have solid : isSolid ')' = true := isSolid_of_isMeta rfl (by decide)
  induction text generalizing inComment with
  | nil =>
      cases inComment with
      | true => exact .inr ⟨rfl, calm.skipBlanks true⟩
      | false => exact .inl (skip_cons solid true back)
  | cons c text ih =>
      rw [List.cons_append, skipBlanks, skipBlanks]
      split
      · exact ih _
      · split
        · exact ih _
        · split
          · exact ih _
          · exact .inl rfl

/-- Blanks end within the text, or else a comment goes on behind it. -/
theorem skip_beyond (calm : Calm back) (verbose : Bool) (text : List Char) :
    skip verbose (text ++ ')' :: back) = skip verbose text ++ ')' :: back ∨
      (skip verbose text = [] ∧ Calm (skip verbose (text ++ ')' :: back))) := by
  cases verbose with
  | false => exact .inl rfl
  | true => exact skipBlanks_beyond calm false text

theorem gather_nil (verbose : Bool) (p : Char → Bool) (n : Nat) :
    gather verbose p n [] = ([], []) := by
  cases n <;> rfl

theorem gather_cons_neg {c : Char} (own : p c = false) (verbose : Bool) (n : Nat)
    (text : List Char) : gather verbose p n (c :: text) = ([], c :: text) := by
  cases n with
  | zero => rfl
  | succ n => exact if_neg (Bool.eq_false_iff.mp own)

theorem gather_cons_pos {c : Char} (own : p c = true) (verbose : Bool) (n : Nat)
    (text : List Char) :
    gather verbose p (n + 1) (c :: text) =
      (c :: (gather verbose p n (skip verbose text)).1,
        (gather verbose p n (skip verbose text)).2) :=
  if_pos own

/-- Signs are gathered from the text alone, or they are gathered from a calm text as well. -/
theorem gather_beyond (calm : Calm back) (verbose : Bool) (p : Char → Bool)
    (enough : (text ++ ')' :: back).length ≤ n)
    (enough' : text.length ≤ m) :
    (gather verbose p n (text ++ ')' :: back) =
        ((gather verbose p m text).1, (gather verbose p m text).2 ++ ')' :: back) ∧
      ((gather verbose p m text).2 = [] → p ')' = false)) ∨
    ∃ k more, Calm more ∧ more.length ≤ k ∧
      (gather verbose p n (text ++ ')' :: back)).2 = (gather verbose p k more).2 := by
  induction m using Nat.strongRecOn generalizing text n with
  | ind m ih =>
      cases text with
      | nil =>
          rw [List.nil_append, List.length_cons] at enough
          rw [gather_nil, List.nil_append]
          cases own : p ')' with
          | false => exact .inl ⟨gather_cons_neg own verbose n back, fun _ => rfl⟩
          | true =>
              obtain ⟨k, rfl⟩ := Nat.exists_eq_add_of_le' (show 1 ≤ n by omega)
              have shorter := length_skip_le verbose back
              refine .inr ⟨k, skip verbose back, Calm.skip calm verbose, by omega, ?_⟩
              rw [gather_cons_pos own]
      | cons c text =>
          rw [List.cons_append, List.length_cons] at enough
          rw [List.length_cons] at enough'
          cases own : p c with
          | false =>
              rw [List.cons_append, gather_cons_neg own, gather_cons_neg own]
              exact .inl ⟨rfl, nofun⟩
          | true =>
              obtain ⟨n, rfl⟩ := Nat.exists_eq_add_of_le' (show 1 ≤ n by omega)
              obtain ⟨m, rfl⟩ := Nat.exists_eq_add_of_le' (show 1 ≤ m by omega)
              have shorter := length_skip_le verbose text
              have shorter' := length_skip_le verbose (text ++ ')' :: back)
              rw [List.cons_append, gather_cons_pos own, gather_cons_pos own]
              obtain within | ⟨none, beyond⟩ := skip_beyond calm verbose text
              · rw [within] at shorter' ⊢
                have enough : (skip verbose text ++ ')' :: back).length ≤ n := by omega
                obtain ⟨same, last⟩ | ⟨k, more, isCalm, le, same⟩ :=
                  ih m (Nat.lt_succ_self m) enough (by omega)
                · exact .inl ⟨by rw [same], last⟩
                · exact .inr ⟨k, more, isCalm, le, same⟩
              · exact .inr ⟨n, _, beyond, by omega, rfl⟩

/-! ## Escapes -/

/-- Hexadecimal digits are taken from the text alone, or the last ones from a calm text. -/
theorem takeExactly_beyond (calm : Calm back) {digits : List Char}
    (own : takeExactly verbose n (text ++ ')' :: back) = some (digits, rest))
    (hex : ∀ c ∈ digits, (hexValue? c).isSome = true) :
    IsOwn (takeExactly verbose n text) back digits rest ∨ Calm rest := by
  induction n generalizing text digits with
  | zero =>
      obtain ⟨rfl, rfl⟩ := Prod.mk.inj (Option.some.inj own)
      exact .inl ⟨text, rfl, rfl⟩
  | succ n ih =>
      cases text with
      | nil =>
          obtain ⟨⟨others, left⟩, -, same⟩ := Option.bind_eq_some_iff.mp own
          obtain ⟨rfl, rfl⟩ := Prod.mk.inj (Option.some.inj same)
          exact absurd (hex ')' List.mem_cons_self) (by decide)
      | cons c text =>
          rw [List.cons_append] at own
          obtain ⟨⟨others, left⟩, further, same⟩ := Option.bind_eq_some_iff.mp own
          obtain ⟨rfl, rfl⟩ := Prod.mk.inj (Option.some.inj same)
          have hex := (List.forall_mem_cons.mp hex).2
          obtain within | ⟨-, beyond⟩ := skip_beyond calm verbose text
          · rw [within] at further
            obtain ⟨last, rfl, alone⟩ | calm := ih further hex
            · refine .inl ⟨last, rfl, ?_⟩
              rw [takeExactly, alone]
              rfl
            · exact .inr calm
          · exact .inr (beyond.takeExactly further hex)

theorem Calm.ne_brace {c : Char} {more : List Char} (h : Calm (c :: more)) (mem : c ∈ guardedSigns)
    (ne : c ≠ '\\') : False := by
  obtain ⟨bare, -⟩ | eq := h.shielded.notMem_or_eq
  · exact bare mem
  · exact ne eq

theorem Calm.of_gather {more taken : List Char} {mark : Char} (h : Calm more)
    (enough : more.length ≤ n)
    (own : Regex.gather verbose (· != '\x7d') n more = (taken, mark :: rest)) : Calm rest := by
  obtain none | ⟨after, some, later⟩ := Calm.stopsAtBrace h verbose enough
  · rw [own] at none
    cases none
  · rw [own] at some
    obtain ⟨-, rfl⟩ := List.cons.inj some
    exact later

/-- What stands between braces stands there in the text alone, with the brace that closes it, or
reading goes on in a calm text behind it. -/
theorem gather_brace_beyond (calm : Calm back) {taken : List Char} {mark : Char}
    (own : gather verbose (· != '\x7d') (text ++ ')' :: back).length
      (skip verbose (text ++ ')' :: back)) = (taken, mark :: rest)) :
    (∃ left, rest = left ++ ')' :: back ∧
      gather verbose (· != '\x7d') text.length (skip verbose text) = (taken, mark :: left)) ∨
    Calm rest := by
  have enough := length_skip_le verbose (text ++ ')' :: back)
  obtain within | ⟨-, beyond⟩ := skip_beyond calm verbose text
  · rw [within] at own enough
    obtain ⟨same, last⟩ | ⟨k, more, isCalm, le, same⟩ :=
      gather_beyond calm verbose (· != '\x7d') enough (length_skip_le verbose text)
    · refine .inl ?_
      rw [own] at same
      obtain ⟨rfl, marked⟩ := Prod.mk.inj same
      cases left : (gather verbose (· != '\x7d') text.length (skip verbose text)).2 with
      | nil => exact absurd (last left) (by decide)
      | cons d left' =>
          rw [left, List.cons_append] at marked
          obtain ⟨rfl, rfl⟩ := List.cons.inj marked
          exact ⟨left', rfl, Prod.ext rfl left⟩
    · rw [own] at same
      have stops : gather verbose (· != '\x7d') k more =
          ((gather verbose (· != '\x7d') k more).1, mark :: rest) := Prod.ext rfl same.symm
      exact .inr (isCalm.of_gather le stops)
  · exact .inr (beyond.of_gather enough own)

/-- Behind a sign blanks end within the text, or else a comment goes on behind it. -/
theorem skip_own_beyond (calm : Calm back) (verbose : Bool) (text : List Char) :
    (∃ left, skip verbose (text ++ ')' :: back) = left ++ ')' :: back ∧ skip verbose text = left) ∨
      Calm (skip verbose (text ++ ')' :: back)) := by
  obtain within | ⟨-, beyond⟩ := skip_beyond calm verbose text
  · exact .inl ⟨_, within, rfl⟩
  · exact .inr beyond

theorem readHex?_braced_beyond (calm : Calm back) {l : Literal} {inside : List Char}
    (ahead : skip verbose text = '\x7b' :: inside)
    (within : skip verbose (text ++ ')' :: back) = '\x7b' :: (inside ++ ')' :: back))
    (own : readHex? verbose n (text ++ ')' :: back) = some (l, rest)) :
    IsOwn (readHex? verbose n text) back l rest ∨ Calm rest := by
  rw [readHex?_braced within] at own
  split at own
  · next d digits mark left gathered =>
    obtain ⟨c, isChar, same⟩ := Option.map_eq_some_iff.mp own
    obtain ⟨rfl, rfl⟩ := Prod.mk.inj same
    obtain ⟨left', rfl, alone⟩ | later := gather_brace_beyond calm gathered
    · obtain ⟨last, split, rfl⟩ | later := skip_own_beyond calm verbose left'
      · refine .inl ⟨_, split, ?_⟩
        rw [readHex?_braced ahead, alone]
        simp only [isChar, Option.map_some]
      · exact .inr later
    · exact .inr (Calm.skip later verbose)
  · cases own

/-- What digits that stand for themselves write. -/
theorem exists_of_readHex? {l : Literal} (noBrace : ∀ inside, skip verbose text ≠ '\x7b' :: inside)
    (own : readHex? verbose n text = some (l, rest)) :
    ∃ digits c, hexChar? digits = some c ∧ l = ⟨c, n == 2⟩ ∧
      takeExactly verbose n (skip verbose text) = some (digits, rest) ∧
      ∀ c ∈ digits, (hexValue? c).isSome = true := by
  rw [readHex?_digits noBrace] at own
  obtain ⟨⟨digits, left⟩, taken, own⟩ := Option.bind_eq_some_iff.mp own
  obtain ⟨c, isChar, same⟩ := Option.map_eq_some_iff.mp own
  obtain ⟨rfl, rfl⟩ := Prod.mk.inj same
  exact ⟨digits, c, isChar, rfl, taken, isSome_hexValue? (isChar ▸ rfl)⟩

theorem readHex?_beyond (calm : Calm back) {l : Literal}
    (own : readHex? verbose n (text ++ ')' :: back) = some (l, rest)) :
    IsOwn (readHex? verbose n text) back l rest ∨ Calm rest := by
  obtain within | ⟨-, beyond⟩ := skip_beyond calm verbose text
  · by_cases braced : ∃ inside, skip verbose text = '\x7b' :: inside
    · obtain ⟨inside, ahead⟩ := braced
      rw [ahead] at within
      exact readHex?_braced_beyond calm ahead within own
    · have noBrace := not_exists.mp braced
      have noBrace' := ne_cons_beyond (by decide) noBrace back
      rw [← within] at noBrace'
      obtain ⟨digits, c, isChar, rfl, taken, hex⟩ := exists_of_readHex? noBrace' own
      rw [within] at taken
      obtain ⟨left, rfl, alone⟩ | later := takeExactly_beyond calm taken hex
      · refine .inl ⟨left, rfl, ?_⟩
        rw [readHex?_digits noBrace, alone]
        simp only [Option.bind_some, isChar, Option.map_some]
      · exact .inr later
  · have noBrace : ∀ inside, skip verbose (text ++ ')' :: back) ≠ '\x7b' :: inside := by
      intro inside eq
      rw [eq] at beyond
      exact beyond.ne_brace (by decide) (by decide)
    obtain ⟨digits, c, -, -, taken, hex⟩ := exists_of_readHex? noBrace own
    exact .inr (beyond.takeExactly taken hex)

theorem readProperty?_beyond (calm : Calm back) {q : PropertyQuery}
    (own : readProperty? verbose (text ++ ')' :: back) = some (q, rest)) :
    IsOwn (readProperty? verbose text) back q rest ∨ Calm rest ∨
      (q = .named ['('] ∧ Shielded rest) := by
  obtain within | ⟨none, beyond⟩ := skip_beyond calm verbose text
  · cases ahead : skip verbose text with
    | nil =>
        rw [ahead, List.nil_append] at within
        rw [readProperty?_letter within (by decide)] at own
        obtain ⟨-, rfl⟩ := Prod.mk.inj (Option.some.inj own)
        exact .inr (.inl (Calm.skip calm verbose))
    | cons c inside =>
        rw [ahead, List.cons_append] at within
        by_cases brace : c = '\x7b'
        · subst brace
          rw [readProperty?_braced within] at own
          split at own
          · cases own
          · next name mark left gathered =>
            obtain ⟨rfl, rfl⟩ := Prod.mk.inj (Option.some.inj own)
            obtain ⟨left', rfl, alone⟩ | later := gather_brace_beyond calm gathered
            · exact .inl ⟨left', rfl, by rw [readProperty?_braced ahead, alone]⟩
            · exact .inr (.inl later)
        · rw [readProperty?_letter within brace] at own
          split at own
          · cases own
          · next noBackslash =>
            obtain ⟨rfl, rfl⟩ := Prod.mk.inj (Option.some.inj own)
            obtain ⟨left, split, rfl⟩ | later := skip_own_beyond calm verbose inside
            · refine .inl ⟨_, split, ?_⟩
              rw [readProperty?_letter ahead brace, if_neg noBackslash]
            · exact .inr (.inl later)
  · have same : readProperty? verbose (text ++ ')' :: back) =
        readProperty? verbose (skip verbose (text ++ ')' :: back)) := by
      unfold readProperty?
      rw [skip_skip]
    rw [same] at own
    exact .inr (beyond.readProperty? own)

theorem Shielded.gather_ne {c : Char} {taken : List Char} (h : Shielded text)
    (own : p '\\' = false) (mem : c ∈ guardedSigns) (ne : c ≠ '\\') :
    Regex.gather verbose p n text ≠ (taken, c :: rest) := by
  intro eq
  have shielded := h.gather own verbose n
  rw [eq] at shielded
  obtain ⟨bare, -⟩ | same := shielded.notMem_or_eq
  · exact bare mem
  · exact ne same

/-- Where no backslash is gathered, a guarded sign that stops the gathering stands in the text
itself. -/
theorem gather_guarded_beyond (calm : Calm back) (enough : (text ++ ')' :: back).length ≤ n)
    (enough' : text.length ≤ m) {c : Char} {taken : List Char} (backslash : p '\\' = false)
    (mem : c ∈ guardedSigns) (ne : c ≠ '\\')
    (own : gather verbose p n (text ++ ')' :: back) = (taken, c :: rest)) :
    ∃ left, rest = left ++ ')' :: back ∧ gather verbose p m text = (taken, c :: left) := by
  obtain ⟨same, -⟩ | ⟨k, more, isCalm, -, same⟩ :=
    gather_beyond calm verbose p enough enough'
  · rw [own] at same
    obtain ⟨rfl, stopped⟩ := Prod.mk.inj same
    cases left : (gather verbose p m text).2 with
    | nil =>
        rw [left] at stopped
        obtain ⟨rfl, -⟩ := List.cons.inj stopped
        exact absurd mem (by decide)
    | cons d left' =>
        rw [left, List.cons_append] at stopped
        obtain ⟨rfl, rfl⟩ := List.cons.inj stopped
        exact ⟨left', rfl, Prod.ext rfl left⟩
  · rw [own] at same
    have stops : gather verbose p k more = ((gather verbose p k more).1, c :: rest) :=
      Prod.ext rfl same.symm
    exact absurd stops (isCalm.shielded.gather_ne backslash mem ne)

/-- The name of a boundary stands between braces of the text. -/
theorem gather_boundary_beyond (calm : Calm back) {inside name more : List Char} {c : Char}
    (isSign : isBoundarySign c = true) (whole : skip verbose (inside ++ ')' :: back) = c :: more)
    (own : gather verbose isBoundarySign ((inside ++ ')' :: back).length + 1) (c :: more) =
      (name, '\x7d' :: rest)) :
    ∃ left, rest = left ++ ')' :: back ∧ ∃ inner, skip verbose inside = c :: inner ∧
      gather verbose isBoundarySign (inside.length + 1) (c :: inner) = (name, '\x7d' :: left) := by
  obtain within | ⟨-, beyond⟩ := skip_beyond calm verbose inside
  · rw [within] at whole
    have shorter := length_skip_le verbose inside
    cases ahead : skip verbose inside with
    | nil =>
        rw [ahead] at whole
        obtain ⟨rfl, -⟩ := List.cons.inj whole
        exact absurd isSign (by decide)
    | cons d inner =>
        rw [ahead] at shorter whole
        rw [← whole] at own
        rw [List.cons_append] at whole
        obtain ⟨rfl, rfl⟩ := List.cons.inj whole
        have enough : (d :: inner ++ ')' :: back).length ≤ (inside ++ ')' :: back).length + 1 := by
          simp only [List.length_append]
          omega
        obtain ⟨left, rfl, alone⟩ := gather_guarded_beyond calm enough
          (Nat.le_succ_of_le shorter) (by decide) (by decide) (by decide) own
        exact ⟨left, rfl, inner, rfl, alone⟩
  · rw [whole] at beyond
    exact absurd own (beyond.shielded.gather_ne (by decide) (by decide) (by decide))

/-- Braces that a text leaves open behind `\b` are left for a count. -/
theorem readBoundary?_brace_beyond (calm : Calm back) {a : Assertion} {inside : List Char}
    (own : readBoundary? verbose ('\x7b' :: (inside ++ ')' :: back)) = some (a, rest)) :
    IsOwn (readBoundary? verbose ('\x7b' :: inside)) back a rest ∨
      (a = .wordBoundary ∧ skip verbose inside = [] ∧
        rest = '\x7b' :: (inside ++ ')' :: back)) := by
  cases whole : skip verbose (inside ++ ')' :: back) with
  | nil =>
      rw [readBoundary?_open whole] at own
      cases own
  | cons c more =>
      rw [readBoundary?_braced whole] at own
      by_cases isSign : isBoundarySign c = true
      · rw [if_pos isSign] at own
        split at own
        · next name after gathered =>
          obtain ⟨left, rfl, inner, ahead, alone⟩ :=
            gather_boundary_beyond calm isSign whole gathered
          obtain ⟨named, isNamed, same⟩ := Option.map_eq_some_iff.mp own
          obtain ⟨rfl, rfl⟩ := Prod.mk.inj same
          refine .inl ⟨left, rfl, ?_⟩
          rw [readBoundary?_braced ahead, if_pos isSign, alone]
          simp only [isNamed, Option.map_some]
        · cases own
      · rw [if_neg isSign] at own
        obtain ⟨rfl, rfl⟩ := Prod.mk.inj (Option.some.inj own)
        cases ahead : skip verbose inside with
        | nil => exact .inr ⟨rfl, rfl, rfl⟩
        | cons d inner =>
            obtain within | ⟨none, -⟩ := skip_beyond calm verbose inside
            · rw [within, ahead] at whole
              obtain ⟨rfl, -⟩ := List.cons.inj whole
              refine .inl ⟨'\x7b' :: inside, rfl, ?_⟩
              rw [readBoundary?_braced ahead, if_neg isSign]
            · rw [ahead] at none
              cases none

theorem readBoundary?_beyond (calm : Calm back) {a : Assertion}
    (own : readBoundary? verbose (text ++ ')' :: back) = some (a, rest)) :
    IsOwn (readBoundary? verbose text) back a rest ∨
      (a = .wordBoundary ∧ ∃ inside, skip verbose inside = [] ∧
        rest = '\x7b' :: (inside ++ ')' :: back)) := by
  by_cases braced : ∃ inside, text = '\x7b' :: inside
  · obtain ⟨inside, rfl⟩ := braced
    rw [List.cons_append] at own
    obtain alone | ⟨rfl, blank, rfl⟩ := readBoundary?_brace_beyond calm own
    · exact .inl alone
    · exact .inr ⟨rfl, inside, blank, rfl⟩
  · have noBrace := not_exists.mp braced
    rw [readBoundary?] at own
    · obtain ⟨rfl, rfl⟩ := Prod.mk.inj (Option.some.inj own)
      refine .inl ⟨text, rfl, ?_⟩
      rw [readBoundary?]
      exact noBrace
    · exact ne_cons_beyond (by decide) noBrace back

/-- What an escape may be that takes in the parenthesis behind a text, with what is left of it. -/
inductive Overruns (verbose : Bool) (back : List Char) : Atom → List Char → Prop where
  | calm {a rest} (own : Calm rest) : Overruns verbose back a rest
  | parenthesis {negated rest} (own : Shielded rest) :
      Overruns verbose back (.charClass (.property (.named ['(']) negated)) rest
  | boundary {inside} (own : skip verbose inside = []) :
      Overruns verbose back (.assertion .wordBoundary) ('\x7b' :: (inside ++ ')' :: back))

theorem readEscape?_beyond (calm : Calm back) {a : Atom}
    (own : readEscape? verbose (text ++ ')' :: back) = some (a, rest)) :
    IsOwn (readEscape? verbose text) back a rest ∨ Overruns verbose back a rest := by
  cases text with
  | nil =>
      rw [List.nil_append, readEscape?_of_isMeta (by decide)] at own
      obtain ⟨-, rfl⟩ := Prod.mk.inj (Option.some.inj own)
      exact .inr (.calm calm)
  | cons c text =>
      rw [List.cons_append, readEscape?_cons] at own
      obtain ⟨kind, isKind, own⟩ := Option.bind_eq_some_iff.mp own
      have alone : readEscape? verbose (c :: text) = _ := readEscape?_cons verbose c text
      rw [isKind, Option.bind_some] at alone
      cases kind with
      | atom a =>
          obtain ⟨rfl, rfl⟩ := Prod.mk.inj (Option.some.inj own)
          exact .inl ⟨text, rfl, alone⟩
      | hex width =>
          obtain ⟨⟨l, left⟩, hex, same⟩ := Option.map_eq_some_iff.mp own
          obtain ⟨rfl, rfl⟩ := Prod.mk.inj same
          obtain ⟨last, rfl, hexAlone⟩ | later := readHex?_beyond calm hex
          · exact .inl ⟨last, rfl, by simp only [alone, hexAlone, Option.map_some]⟩
          · exact .inr (.calm later)
      | property negated =>
          obtain ⟨⟨q, left⟩, property, same⟩ := Option.map_eq_some_iff.mp own
          obtain ⟨rfl, rfl⟩ := Prod.mk.inj same
          obtain ⟨last, rfl, propertyAlone⟩ | later | ⟨rfl, later⟩ :=
            readProperty?_beyond calm property
          · exact .inl ⟨last, rfl, by simp only [alone, propertyAlone, Option.map_some]⟩
          · exact .inr (.calm later)
          · exact .inr (.parenthesis later)
      | boundary =>
          obtain ⟨⟨b, left⟩, boundary, same⟩ := Option.map_eq_some_iff.mp own
          obtain ⟨rfl, rfl⟩ := Prod.mk.inj same
          obtain ⟨last, rfl, boundaryAlone⟩ | ⟨rfl, inside, blank, rfl⟩ :=
            readBoundary?_beyond calm boundary
          · exact .inl ⟨last, rfl, by simp only [alone, boundaryAlone, Option.map_some]⟩
          · exact .inr (.boundary blank)

theorem readAtom?_beyond (calm : Calm back) (ne : text ≠ []) {a : Atom}
    (own : readAtom? verbose (text ++ ')' :: back) = some (a, rest)) :
    IsOwn (readAtom? verbose text) back a rest ∨ Overruns verbose back a rest := by
  obtain ⟨c, text, rfl⟩ := List.exists_cons_of_ne_nil ne
  rw [List.cons_append] at own
  by_cases escape : c = '\\'
  · subst escape
    exact readEscape?_beyond calm own
  · refine .inl ⟨text, ?_⟩
    unfold readAtom? at own ⊢
    grind

theorem readItem?_beyond (calm : Calm back) (ne : text ≠ []) {a : Atom}
    (own : readItem? verbose (text ++ ')' :: back) = some (a, rest)) :
    IsOwn (readItem? verbose text) back a rest ∨ Overruns verbose back a rest := by
  obtain ⟨c, text, rfl⟩ := List.exists_cons_of_ne_nil ne
  rw [List.cons_append] at own
  by_cases escape : c = '\\'
  · subst escape
    exact readEscape?_beyond calm own
  · refine .inl ⟨text, ?_⟩
    unfold readItem? at own ⊢
    grind

end Interception.Regex
