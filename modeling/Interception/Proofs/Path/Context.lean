import Interception.Proofs.Path.Canonical

/-!
# Taking the context off

A context is cut off a lookup path as text, where it must end at a slash or with the path, and what
is left is normalized once more. On segments this removes a prefix: the segments of the context go
if the path begins with them, once, and the others stay as they are.
-/

namespace Interception

open Text

namespace Path

/-- The text with a slash in front, added if there is none. -/
def rooted (text : List Char) : List Char :=
  if startsWith '/' text then text else '/' :: text

variable {context path rest : List Char} {front back segments : List (List Char)} {slash : Bool}

theorem stripContext?_eq_some_iff : stripContext? context path = some rest ↔
    path = context ++ rest ∧ (rest = [] ∨ startsWith '/' rest = true) := by
  rw [stripContext?, ← after?_eq_some_iff]
  cases after? context path with
  | none => exact iff_of_false nofun fun both => nomatch both.1
  | some found =>
      simp only [Bool.or_eq_true, List.isEmpty_iff]
      split_ifs with ends
      · exact ⟨fun same => ⟨same, Option.some.inj same ▸ ends⟩, fun both => both.1⟩
      · exact iff_of_false nofun fun both => ends (Option.some.inj both.1 ▸ both.2)

/-- A context that is taken off is a prefix of the segments: it cannot end inside of one. -/
theorem prefix_of_stripContext? (hf : ∀ segment ∈ front, IsSegment segment)
    (hs : ∀ segment ∈ segments, IsSegment segment)
    (h : stripContext? ('/' :: joined '/' front) (render segments slash) = some rest) :
    front <+: segments := by
  obtain ⟨split, ends⟩ := stripContext?_eq_some_iff.mp h
  have found := standing_render (fun segment mem => (hs segment mem).stands) slash
  rw [split, List.cons_append, standing_slash_cons] at found
  have own : standing (joined '/' front) = front :=
    standing_joined fun segment mem => (hf segment mem).stands
  rcases ends with rfl | starts
  · rw [List.append_nil, own] at found
    exact found ▸ List.prefix_rfl
  · obtain ⟨behind, rfl⟩ := List.head?_eq_some_iff.mp (eq_of_beq starts)
    rw [standing_append_slash, own] at found
    exact ⟨standing behind, found⟩

/-- A context whose segments the path begins with is taken off, and the second normalization leaves
the path of the other segments. -/
theorem stripContext?_render (slash : Bool) (ne : front ≠ [])
    (hb : ∀ segment ∈ back, IsSegment segment) :
    ∃ rest, stripContext? ('/' :: joined '/' front) (render (front ++ back) slash) = some rest ∧
      normalize rest = render back slash := by
  simp only [stripContext?_eq_some_iff]
  cases back with
  | nil =>
      obtain ⟨segment, others, rfl⟩ := List.exists_cons_of_ne_nil ne
      rw [List.append_nil]
      cases slash with
      | false => exact ⟨[], ⟨rfl, .inl rfl⟩, rfl⟩
      | true => exact ⟨['/'], ⟨rfl, .inr rfl⟩, rfl⟩
  | cons segment others =>
      refine ⟨render (segment :: others) slash, ⟨?_, .inr rfl⟩, normalize_render hb⟩
      have both : (front ++ segment :: others).isEmpty = false :=
        List.isEmpty_eq_false_iff.mpr (List.append_ne_nil_of_right_ne_nil _ (List.cons_ne_nil _ _))
      rw [render, render, both, joined_append ne (List.cons_ne_nil _ _)]
      simp only [List.isEmpty_cons, List.cons_append, List.append_assoc]

end Path

namespace Lookup

open Interception.Path

/-- The same settings, and no context. -/
def withoutContext (l : Lookup) : Lookup := { l with context := none }

variable {context : String} {front : List (List Char)}

/-- Without a context, a lookup path is in normal form. -/
theorem lookupPath_withoutContext (l : Lookup) (raw : List Char) : ∃ segments slash,
    l.withoutContext.lookupPath raw = render segments slash ∧
      ∀ segment ∈ segments, IsSegment segment :=
  ⟨_, endsWith '/' (l.plainPath raw), rfl, fun _ => isSegment_of_mem_segments⟩

theorem lookupPath_of_context {l : Lookup} {own : List Char} (h : l.context = some own)
    (raw : List Char) :
    l.lookupPath raw =
      ((stripContext? own (l.withoutContext.lookupPath raw)).map normalize).getD
        (l.withoutContext.lookupPath raw) := by
  have whole : l.withoutContext.lookupPath raw = l.fullPath raw := rfl
  rw [whole, lookupPath, h, Option.bind_some]
  cases stripContext? own (l.fullPath raw) <;> rfl

theorem context_withContext (l : Lookup) (ne : front ≠ [])
    (hf : ∀ segment ∈ front, IsSegment segment)
    (h : rooted (dropEndWhile (· == '/') context.toList) = '/' :: joined '/' front) :
    (l.withContext context).context = some ('/' :: joined '/' front) := by
  have some_left : (dropEndWhile (· == '/') context.toList).isEmpty = false := by
    rw [List.isEmpty_eq_false_iff]
    intro none_left
    rw [none_left] at h
    exact joined_ne_nil hf ne (List.cons.inj h).2.symm
  rw [withContext, ← h, rooted]
  simp only [some_left, Bool.false_eq_true, if_false]
  split_ifs <;> rfl

/-- A context takes its segments off the front of the lookup path, once, and keeps the final slash
if a segment is left. A path that does not begin with all of them is not changed. -/
theorem lookupPath_withContext (l : Lookup) (ne : front ≠ [])
    (hf : ∀ segment ∈ front, IsSegment segment)
    (h : rooted (dropEndWhile (· == '/') context.toList) = '/' :: joined '/' front)
    (raw : List Char) :
    let whole := l.withoutContext.lookupPath raw
    (∀ rest, standing whole = front ++ rest →
      (l.withContext context).lookupPath raw =
        '/' :: joined '/' rest ++
          if rest ≠ [] ∧ endsWith '/' whole = true then ['/'] else []) ∧
    (¬ front <+: standing whole → (l.withContext context).lookupPath raw = whole) := by
  intro whole
  have result : (l.withContext context).lookupPath raw =
      ((stripContext? ('/' :: joined '/' front) whole).map normalize).getD whole :=
    lookupPath_of_context (context_withContext l ne hf h) raw
  obtain ⟨segments, slash, own, valid⟩ :
      ∃ segments slash, whole = render segments slash ∧ ∀ segment ∈ segments, IsSegment segment :=
    l.lookupPath_withoutContext raw
  rw [result, own, standing_render fun segment mem => (valid segment mem).stands]
  constructor
  · rintro rest rfl
    obtain ⟨cut, taken, normal⟩ :=
      stripContext?_render slash ne (List.forall_mem_append.mp valid).2
    have ends : endsWith '/' (render (front ++ rest) slash) = slash := by
      rw [endsWith_render valid,
        List.isEmpty_eq_false_iff.mpr (List.append_ne_nil_of_left_ne_nil ne rest), Bool.false_or]
    rw [taken, ends]
    exact normal.trans (render_eq rest slash)
  · intro other
    have kept : stripContext? ('/' :: joined '/' front) (render segments slash) = none := by
      rw [Option.eq_none_iff_forall_ne_some]
      exact fun cut taken => other (prefix_of_stripContext? hf valid taken)
    rw [kept]
    rfl

/-- A context that stands twice in front of a path is taken off once, and one that ends inside of a
segment is not taken off. -/
theorem lookupPath_withContext_app_shop :
    (default.withContext "app/shop//").lookupPath "/app/shop/app/./shop;v=1/?q".toList =
        "/app/shop/".toList ∧
      (default.withContext "app/shop//").lookupPath "/app/shopping".toList =
        "/app/shopping".toList := by
  have valid : ∀ segment ∈ ["app".toList, "shop".toList], IsSegment segment := by
    simp only [List.forall_mem_cons, List.not_mem_nil, false_imp_iff, implies_true, and_true]
    exact ⟨⟨by decide, by decide, by decide, by decide⟩,
      ⟨by decide, by decide, by decide, by decide⟩⟩
  have same : rooted (dropEndWhile (· == '/') "app/shop//".toList) =
      '/' :: joined '/' ["app".toList, "shop".toList] := by decide +kernel
  have both := lookupPath_withContext default (List.cons_ne_nil _ _) valid same
  exact ⟨((both _).1 ["app".toList, "shop".toList] (by decide +kernel)).trans (by decide +kernel),
    (both _).2 (by decide +kernel)⟩

end Lookup

end Interception
