import Interception.Proofs.Regex.Beyond.Group

/-!
# Text between the parentheses of a group

A text that is put between the parentheses of a named group, with calm text around it, is read there
as it is read alone, unless it closes the group itself. So the whole is no regular expression unless
the text is one.
-/

namespace Interception.Regex

variable {ignoreCase : Bool} {text before back name rest : List Char} {s last : OpenGroup}

/-- Whether a text writes no expression, or one without a meaning. -/
def IsMalformed (ignoreCase : Bool) (text : List Char) : Prop :=
  ∀ e, Expr.parse? text = some e → e.meaning? ⟨.initial ignoreCase, 0⟩ = none

/-- What has been read of a regular expression when reading starts. -/
def OpenGroup.start : OpenGroup := ⟨[], [], [], false⟩

/-- Whether the reader of a text comes upon a parenthesis that closes no group of the text. -/
def ClosesGroup (text : List Char) : Prop :=
  ∃ o rest, readGroup? (text.length + 1) .start text = some (o, ')' :: rest)

theorem exists_reads_of_parse? {e : Expr} (h : Expr.parse? text = some e) :
    ∃ last, Reads .start text last [] ∧ e = last.body ∧ last.body.depth ≤ nestingLimit := by
  unfold Expr.parse? at h
  split at h
  · next whole reads =>
    split at h
    · next shallow => exact ⟨whole, reads_of_readGroup? reads, (Option.some.inj h).symm, shallow⟩
    · cases h
  · cases h

theorem Reads.parse?_eq (h : Reads .start text last []) (shallow : last.body.depth ≤ nestingLimit) :
    Expr.parse? text = some last.body := by
  have reads : readGroup? (text.length + 1) ⟨[], [], [], false⟩ text = some (last, []) :=
    h.readGroup?_eq (Nat.lt_succ_self _)
  rw [Expr.parse?, reads]
  exact if_pos shallow

/-- Behind parts that switch no flags, and with others like these behind it, a part is no deeper
nested than the whole, and it has a meaning if the whole has one. -/
theorem exists_modeAfter?_of_grows {parts : List Expr} {e : Expr} {mode : Mode} {scope : Scope}
    (steady : Grows [] parts) (h : Grows (e :: parts) last.parts) (whole : last.branches = [])
    (means : last.body.modeAfter? scope = some mode) :
    e.depth ≤ last.body.depth ∧ ∃ groups, (e.modeAfter? ⟨scope.mode, groups⟩).isSome = true := by
  have body : last.body = Expr.ofParts last.parts.reverse := by
    rw [OpenGroup.body, OpenGroup.branch, whole]
    rfl
  constructor
  · calc e.depth ≤ Expr.depths (e :: parts) := Nat.le_max_left _ _
      _ ≤ Expr.depths last.parts := h.depths_le
      _ = Expr.depths last.parts.reverse := (Expr.depths_reverse _).symm
      _ ≤ last.body.depth := body ▸ Expr.depths_le_ofParts _
  · rw [body, Expr.modeAfter?_ofParts] at means
    have behind := h.modesAfter?_eq means
    rw [List.reverse_cons, modesAfter?_concat] at behind
    obtain ⟨r, front, own⟩ := Option.bind_eq_some_iff.mp behind
    have same : modesAfter? scope parts.reverse = some r.2.mode := by
      rw [modesAfter?, front]
      rfl
    have mode : scope.mode = r.2.mode := Option.some.inj (steady.modesAfter?_eq same)
    exact ⟨r.2.groups, by rw [mode, own]; rfl⟩

/-- What is read behind the name of a group is read where reading starts. -/
theorem Reads.of_opened {n : String} (h : Reads (s.opened (.named n)) text last rest)
    (own : s.verbose = false) : ∃ names, Reads .start text { last with names } rest := by
  obtain ⟨names, -, reads⟩ := h.fewer_names (List.nil_subset _)
  have begins : ({ s.opened (.named n) with names := [] } : OpenGroup) = .start := by
    show (⟨[], [], [], s.verbose⟩ : OpenGroup) = .start
    rw [own]
    rfl
  exact ⟨names, begins ▸ reads⟩

/-- A text that has no meaning has none in a group with calm text around it. -/
theorem compile?_enclosed (named : IsPlainName name) (calm : Calm back)
    (around : CalmTo ("(?P<".toList ++ name ++ '>' :: (text ++ ')' :: back)) before)
    (malformed : IsMalformed ignoreCase text) (keeps : ¬ ClosesGroup text) :
    compile? ignoreCase ('^' :: before) = none := by
  refine Option.eq_none_iff_forall_ne_some.mpr fun r compiled => ?_
  obtain ⟨e, parsed, compiled⟩ := Option.bind_eq_some_iff.mp compiled
  obtain ⟨⟨r', scope⟩, means, -⟩ := Option.bind_eq_some_iff.mp compiled
  obtain ⟨last, reads, rfl, shallow⟩ := exists_reads_of_parse? parsed
  have means : last.body.modeAfter? ⟨.initial ignoreCase, 0⟩ = some scope.mode := by
    rw [Expr.modeAfter?, means]
    rfl
  -- The reader goes through the text before the group and comes upon the name of the group.
  obtain ⟨s', made, reads⟩ := reads.of_solid (isSolid_of_isMeta rfl (by decide)) rfl nofun nofun
  obtain rfl := Option.some.inj made
  obtain ⟨s, reads, front⟩ := reads.through around (by simp)
  have front := (Continues.push (Expr.isSteady_assertion .lineStart)).trans front
  have sign : readSign? s.verbose (skip s.verbose
      ("(?P<".toList ++ name ++ '>' :: (text ++ ')' :: back))) =
      some (.opens (.named (String.ofList name)), text ++ ')' :: back) := by
    have solid : isSolid '(' = true := isSolid_of_isMeta rfl (by decide)
    exact (skip_cons solid s.verbose _).symm ▸ readSign?_named named _
  obtain ⟨inner, after, within, later⟩ := reads.of_group sign
  obtain ⟨_ | ⟨d, left⟩, same, alone⟩ | same | hopeless := within.beyond calm
  · -- The group holds the text alone, and so the text has the meaning that it has in the group.
    obtain ⟨-, rfl⟩ := List.cons.inj same
    obtain ⟨names, start⟩ := alone.of_opened front.verbose
    obtain ⟨s', atEnd, behind⟩ := later.through calm nofun
    have stops : readSign? s'.verbose (skip s'.verbose []) = some (.stop, []) := by
      cases s'.verbose <;> rfl
    obtain ⟨rfl, -⟩ := atEnd.of_stop stops
    obtain ⟨le, groups, some⟩ :=
      exists_modeAfter?_of_grows front.parts behind.parts (behind.branches.trans front.branches)
        means
    have parsed := start.parse?_eq (Nat.le_trans (Nat.le_trans (Nat.le_succ _) le) shallow)
    have none : inner.body.modeAfter? ⟨.initial ignoreCase, 0⟩ = none :=
      Option.map_eq_none_iff.mpr (malformed _ parsed)
    have mode : (GroupKind.scopeIn ⟨.initial ignoreCase, groups⟩
        (.named (String.ofList name))).mode = (⟨.initial ignoreCase, 0⟩ : Scope).mode := rfl
    have same := Expr.modeAfter?_congr mode inner.body
    rw [Expr.modeAfter?_group, Option.isSome_map, same, none] at some
    cases some
  · obtain ⟨rfl, -⟩ := List.cons.inj same
    obtain ⟨names, start⟩ := alone.of_opened front.verbose
    exact keeps ⟨_, left, start.readGroup?_eq (Nat.lt_succ_self _)⟩
  · cases same
  · have none := (later.isHopeless (OpenGroup.isHopeless_push (hopeless.body.group _) s)).body
    cases (none _).symm.trans means

end Interception.Regex
