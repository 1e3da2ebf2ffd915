import Interception.Proofs.Regex.Reading

/-!
# What an expression means, by where it stands

Whether an expression has a meaning depends on the mode where it stands and not on how many groups
begin before it. A part of a group has its meaning in the scope behind the parts before it, and
without one the group has none.
-/

namespace Interception.Regex

/-! ## The number of groups -/

/-- The mode behind an expression, if that has a meaning. -/
def Expr.modeAfter? (scope : Scope) (e : Expr) : Option Mode := (e.meaning? scope).map (·.2.mode)

/-- The mode behind a row of expressions, if they have a meaning. -/
def modesAfter? (scope : Scope) (es : List Expr) : Option Mode :=
  (meanings? scope es).map (·.2.mode)

variable {scope scope' : Scope} {e : Expr} {es : List Expr}

theorem Expr.modeAfter?_repetition (least : Nat) (most : Option Nat) (greedy : Bool) :
    (Expr.repetition e least most greedy).modeAfter? scope = e.modeAfter? scope := by
  rw [modeAfter?, modeAfter?, meaning?]
  cases e.meaning? scope <;> rfl

theorem Expr.modeAfter?_concat : (Expr.concat es).modeAfter? scope = modesAfter? scope es := by
  rw [modeAfter?, modesAfter?, meaning?]
  cases meanings? scope es <;> rfl

theorem Expr.modeAfter?_alt : (Expr.alt es).modeAfter? scope = modesAfter? scope es := by
  rw [modeAfter?, modesAfter?, meaning?]
  cases meanings? scope es <;> rfl

/-- The scope in a group of some kind. -/
def GroupKind.scopeIn (scope : Scope) : GroupKind → Scope
  | .flagged items => { scope with mode := scope.mode.set items }
  | _ => { scope with groups := scope.groups + 1 }

/-- Behind a group the mode is what it is before it. -/
theorem Expr.modeAfter?_group (kind : GroupKind) :
    (Expr.group kind e).modeAfter? scope =
      (e.modeAfter? (kind.scopeIn scope)).map fun _ => scope.mode := by
  rw [modeAfter?, modeAfter?]
  cases kind with
  | flagged items =>
      rw [meaning?]
      simp only [GroupKind.scopeIn]
      cases e.meaning? { scope with mode := scope.mode.set items } <;> rfl
  | named name =>
      rw [meaning?]
      simp only [GroupKind.scopeIn]
      cases e.meaning? { scope with groups := scope.groups + 1 } <;> rfl
  | numbered =>
      rw [meaning?]
      · simp only [GroupKind.scopeIn]
        cases e.meaning? { scope with groups := scope.groups + 1 } <;> rfl
      all_goals nofun

theorem modesAfter?_cons :
    modesAfter? scope (e :: es) = (e.meaning? scope).bind fun r => modesAfter? r.2 es := by
  rw [modesAfter?, meanings?]
  cases e.meaning? scope with
  | none => rfl
  | some r =>
      simp only [bind, Option.bind_some, modesAfter?]
      cases meanings? r.2 es <;> rfl

mutual

/-- The number of groups before an expression makes no difference. -/
theorem Expr.modeAfter?_congr {scope scope' : Scope} (same : scope.mode = scope'.mode) :
    ∀ e : Expr, e.modeAfter? scope = e.modeAfter? scope'
  | .empty => congrArg some same
  | .literal l => by
      simp only [Expr.modeAfter?, Expr.meaning?, same, Option.map_map, Function.comp_def]
  | .dot => by
      simp only [Expr.modeAfter?, Expr.meaning?, same, Option.map_map, Function.comp_def]
  | .assertion a => congrArg some same
  | .charClass c => by
      simp only [Expr.modeAfter?, Expr.meaning?, same, Option.map_map, Function.comp_def]
  | .flags items => congrArg (fun mode => some (Mode.set mode items)) same
  | .repetition e least most greedy => by
      rw [Expr.modeAfter?_repetition, Expr.modeAfter?_repetition]
      exact Expr.modeAfter?_congr same e
  | .group kind e => by
      have within : (kind.scopeIn scope).mode = (kind.scopeIn scope').mode := by
        cases kind <;> simp only [GroupKind.scopeIn, same]
      rw [Expr.modeAfter?_group, Expr.modeAfter?_group, Expr.modeAfter?_congr within e, same]
  | .concat parts => by
      rw [Expr.modeAfter?_concat, Expr.modeAfter?_concat]
      exact modesAfter?_congr same parts
  | .alt branches => by
      rw [Expr.modeAfter?_alt, Expr.modeAfter?_alt]
      exact modesAfter?_congr same branches

theorem modesAfter?_congr {scope scope' : Scope} (same : scope.mode = scope'.mode) :
    ∀ es : List Expr, modesAfter? scope es = modesAfter? scope' es
  | [] => congrArg some same
  | e :: es => by
      have first := Expr.modeAfter?_congr same e
      rw [Expr.modeAfter?, Expr.modeAfter?] at first
      rw [modesAfter?_cons, modesAfter?_cons]
      cases own : e.meaning? scope with
      | none =>
          rw [own] at first
          rw [Option.map_eq_none_iff.mp first.symm]
      | some r =>
          rw [own] at first
          obtain ⟨r', own', same'⟩ := Option.map_eq_some_iff.mp first.symm
          rw [own']
          exact modesAfter?_congr same'.symm es

end

/-! ## Rows -/

theorem modesAfter?_concat :
    modesAfter? scope (es ++ [e]) = (meanings? scope es).bind fun r => e.modeAfter? r.2 := by
  induction es generalizing scope with
  | nil =>
      rw [List.nil_append, modesAfter?_cons]
      show _ = (e.meaning? scope).map _
      cases e.meaning? scope <;> rfl
  | cons first es ih =>
      rw [List.cons_append, modesAfter?_cons, meanings?]
      cases first.meaning? scope with
      | none => rfl
      | some r =>
          simp only [bind, Option.bind_some, ih]
          cases meanings? r.2 es <;> rfl

theorem Expr.modeAfter?_ofParts : (Expr.ofParts es).modeAfter? scope = modesAfter? scope es := by
  rcases es with _ | ⟨e, _ | ⟨e', es⟩⟩
  · rfl
  · rw [modesAfter?_cons, ofParts, modeAfter?]
    cases e.meaning? scope <;> rfl
  · exact modeAfter?_concat

theorem Expr.modeAfter?_ofBranches :
    (Expr.ofBranches es).modeAfter? scope = modesAfter? scope es := by
  rcases es with _ | ⟨e, _ | ⟨e', es⟩⟩
  · rfl
  · rw [modesAfter?_cons, ofBranches, modeAfter?]
    cases e.meaning? scope <;> rfl
  · exact modeAfter?_alt

namespace Expr

theorem depths_append (es es' : List Expr) : depths (es ++ es') = max (depths es) (depths es') := by
  induction es with
  | nil => exact (Nat.zero_max _).symm
  | cons e es ih => rw [List.cons_append, depths, depths, ih, Nat.max_assoc]

theorem depths_reverse (es : List Expr) : depths es.reverse = depths es := by
  induction es with
  | nil => rfl
  | cons e es ih =>
      rw [List.reverse_cons, depths_append, ih, depths, depths, depths, Nat.max_zero, Nat.max_comm]

theorem depths_le_ofParts (es : List Expr) : depths es ≤ (ofParts es).depth := by
  rcases es with _ | ⟨e, _ | ⟨e', es⟩⟩
  · exact Nat.le_refl _
  · exact Nat.le_of_eq (Nat.max_zero _)
  · exact Nat.le_succ _

/-! ## Expressions that switch no flags -/

/-- Whether the mode behind an expression is the mode before it. -/
def IsSteady (e : Expr) : Prop :=
  ∀ {scope mode}, e.modeAfter? scope = some mode → mode = scope.mode

theorem isSteady_literal (l : Literal) : (literal l).IsSteady := by
  intro scope mode h
  obtain ⟨r, own, rfl⟩ := Option.map_eq_some_iff.mp h
  obtain ⟨_, -, rfl⟩ := Option.map_eq_some_iff.mp own
  rfl

theorem isSteady_charClass (e : ClassExpr) : (charClass e).IsSteady := by
  intro scope mode h
  obtain ⟨r, own, rfl⟩ := Option.map_eq_some_iff.mp h
  obtain ⟨_, -, rfl⟩ := Option.map_eq_some_iff.mp own
  rfl

theorem isSteady_dot : dot.IsSteady := by
  intro scope mode h
  obtain ⟨r, own, rfl⟩ := Option.map_eq_some_iff.mp h
  obtain ⟨_, -, rfl⟩ := Option.map_eq_some_iff.mp own
  rfl

theorem isSteady_assertion (a : Assertion) : (assertion a).IsSteady := by
  rintro scope _ ⟨⟩
  rfl

theorem isSteady_group (kind : GroupKind) (e : Expr) : (group kind e).IsSteady := by
  intro scope mode h
  rw [modeAfter?_group] at h
  obtain ⟨_, -, same⟩ := Option.map_eq_some_iff.mp h
  exact same.symm

end Expr

/-- The parts that have been read, the last one first, after further ones that switch no flags, and
repetitions. -/
inductive Grows (parts : List Expr) : List Expr → Prop where
  | refl : Grows parts parts
  | push {e later} (steady : e.IsSteady) (h : Grows parts later) : Grows parts (e :: later)
  | again {e later least most greedy} (h : Grows parts (e :: later)) :
      Grows parts (.repetition e least most greedy :: later)

namespace Grows

variable {parts later latest : List Expr} {mode : Mode}

theorem trans (h : Grows parts later) (h' : Grows later latest) : Grows parts latest := by
  induction h' with
  | refl => exact h
  | push steady h' ih => exact .push steady ih
  | again h' ih => exact .again ih

/-- The mode behind the parts is the mode behind what they have grown to. -/
theorem modesAfter?_eq (h : Grows parts later)
    (own : modesAfter? scope later.reverse = some mode) :
    modesAfter? scope parts.reverse = some mode := by
  induction h generalizing mode with
  | refl => exact own
  | @push e later steady h ih =>
      rw [List.reverse_cons, modesAfter?_concat] at own
      obtain ⟨r, means, own⟩ := Option.bind_eq_some_iff.mp own
      obtain rfl := steady own
      exact ih (by rw [modesAfter?, means]; rfl)
  | again h ih =>
      refine ih ?_
      rw [List.reverse_cons, modesAfter?_concat] at own ⊢
      simpa only [Expr.modeAfter?_repetition] using own

theorem depths_le (h : Grows parts later) : Expr.depths parts ≤ Expr.depths later := by
  induction h with
  | refl => exact Nat.le_refl _
  | push steady h ih => exact Nat.le_trans ih (Nat.le_max_right _ _)
  | @again e later least most greedy h ih =>
      rw [Expr.depths] at ih
      rw [Expr.depths, Expr.depth]
      omega

end Grows

/-! ## Expressions without a meaning -/

/-- Whether an expression has no meaning anywhere. -/
def Expr.IsHopeless (e : Expr) : Prop := ∀ scope, e.modeAfter? scope = none

/-- A row has no meaning if one of its expressions has none. -/
theorem Expr.IsHopeless.modesAfter? (h : e.IsHopeless) (mem : e ∈ es) (scope : Scope) :
    modesAfter? scope es = none := by
  induction es generalizing scope with
  | nil => cases mem
  | cons first es ih =>
      rw [modesAfter?_cons]
      obtain rfl | mem := List.mem_cons.mp mem
      · rw [Option.map_eq_none_iff.mp (h scope)]
        rfl
      · cases first.meaning? scope with
        | none => rfl
        | some r => exact ih mem r.2

theorem Expr.IsHopeless.group (h : e.IsHopeless) (kind : GroupKind) :
    (group kind e).IsHopeless := by
  intro scope
  rw [modeAfter?_group, h]
  rfl

theorem Expr.isHopeless_parenthesis (negated : Bool) :
    (Expr.charClass (.property (.named ['(']) negated)).IsHopeless := by
  intro scope
  have noProperty : PropertyQuery.toSet? (.named ['(']) = none := by decide +kernel
  have noClass : scope.mode.charClass? (.property (.named ['(']) negated) = none := by
    unfold Mode.charClass?
    split
    · rw [ClassExpr.toSet?, noProperty]
      rfl
    · rw [ClassExpr.toBytes?]
      rfl
  rw [modeAfter?, meaning?, noClass]
  rfl

namespace OpenGroup

/-- Whether something that has been read has no meaning. -/
def IsHopeless (o : OpenGroup) : Prop := ∃ e ∈ o.parts ++ o.branches, e.IsHopeless

variable {o o' : OpenGroup}

theorem IsHopeless.push (h : o.IsHopeless) (part : Expr) : (o.push part).IsHopeless := by
  obtain ⟨e, mem, hopeless⟩ := h
  exact ⟨e, List.mem_cons_of_mem part mem, hopeless⟩

theorem isHopeless_push (h : e.IsHopeless) (o : OpenGroup) : (o.push e).IsHopeless :=
  ⟨e, List.mem_cons_self, h⟩

theorem IsHopeless.branch (h : o.IsHopeless) : o.branch.IsHopeless := by
  obtain ⟨e, mem, hopeless⟩ := h
  obtain mem | mem := List.mem_append.mp mem
  · refine ⟨_, List.mem_cons_self, fun scope => ?_⟩
    rw [Expr.modeAfter?_ofParts]
    exact hopeless.modesAfter? (List.mem_reverse.mpr mem) scope
  · exact ⟨e, List.mem_cons_of_mem _ mem, hopeless⟩

theorem IsHopeless.repeatLast? {least : Nat} {most : Option Nat} {greedy : Bool} (h : o.IsHopeless)
    (own : o.repeatLast? least most greedy = some o') : o'.IsHopeless := by
  obtain ⟨part, parts, whole, rfl⟩ := exists_of_repeatLast? own
  obtain ⟨e, mem, hopeless⟩ := h
  rw [whole, List.cons_append] at mem
  obtain rfl | mem := List.mem_cons.mp mem
  · refine ⟨_, List.mem_cons_self, fun scope => ?_⟩
    rw [Expr.modeAfter?_repetition]
    exact hopeless scope
  · exact ⟨e, List.mem_cons_of_mem _ mem, hopeless⟩

theorem IsHopeless.body (h : o.IsHopeless) : o.body.IsHopeless := by
  obtain ⟨e, mem, hopeless⟩ := h.branch
  intro scope
  rw [OpenGroup.body, Expr.modeAfter?_ofBranches]
  exact hopeless.modesAfter? (List.mem_reverse.mpr mem) scope

end OpenGroup

end Interception.Regex
