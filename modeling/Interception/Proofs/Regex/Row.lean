import Interception.Proofs.CharSet
import Interception.Proofs.Regex.Backtracking
import Interception.Regex.Meaning

/-!
# Rows of simple expressions

What backtracking finds with the automaton for a row of letters, sets, runs, anchors and groups. Each
of these is built in front of an automaton for what comes behind it, so what it finds is told by what
is found from there on: one character further on, after a run that is as long as possible, at a place
that an anchor holds of, or with the marks of a group around it.
-/

namespace Interception.Regex

section Places

variable {β γ : Type}

/-- What is found after one character of which `p` holds. -/
def afterOne (p : Char → Bool) (k : Cursor → Option β) (c : Cursor) : Option β :=
  c.next?.bind fun (x, later) => if p x then k later else none

/-- What is found after a run of characters of which `p` holds, the longest one after which anything
is found. -/
def afterRun (p : Char → Bool) (k : Cursor → Option β) (c : Cursor) : Option β :=
  match _ : c.next? with
  | some (x, later) => if p x then (afterRun p k later).or (k c) else k c
  | none => k c
  termination_by c.left
  decreasing_by
    have left := Cursor.left_of_next? ‹c.next? = _›
    omega

variable {p : Char → Bool} {k : Cursor → Option β} {c later : Cursor} {x : Char}

theorem afterOne_of_next? (ahead : c.next? = some (x, later)) :
    afterOne p k c = if p x then k later else none := by
  rw [afterOne, ahead, Option.bind_some]

theorem afterOne_of_atEnd (atEnd : c.next? = none) : afterOne p k c = none := by
  rw [afterOne, atEnd, Option.bind_none]

/-- A run goes on for one more character, if there is one and anything is found then. -/
theorem afterRun_eq (p : Char → Bool) (k : Cursor → Option β) (c : Cursor) :
    afterRun p k c = (afterOne p (afterRun p k) c).or (k c) := by
  rw [afterRun]
  split
  · next x later ahead =>
    rw [afterOne_of_next? ahead]
    split_ifs
    · rfl
    · rw [Option.none_or]
  · next atEnd => rw [afterOne_of_atEnd atEnd, Option.none_or]

theorem map_afterOne (f : β → γ) (c : Cursor) :
    (afterOne p k c).map f = afterOne p (fun later => (k later).map f) c := by
  rw [afterOne, afterOne, Option.map_bind]
  congr 1
  funext ⟨x, later⟩
  simp only [Function.comp_apply, apply_ite (Option.map f), Option.map_none]

theorem map_afterRun (f : β → γ) (c : Cursor) :
    (afterRun p k c).map f = afterRun p (fun later => (k later).map f) c := by
  induction left : c.left using Nat.strongRecOn generalizing c with
  | _ n ih =>
      have or_map (a b : Option β) : (a.or b).map f = (a.map f).or (b.map f) := by
        cases a <;> rfl
      rw [afterRun_eq, afterRun_eq, or_map, map_afterOne]
      congr 1
      cases ahead : c.next? with
      | none => rw [afterOne_of_atEnd ahead, afterOne_of_atEnd ahead]
      | some next =>
          obtain ⟨x, later⟩ := next
          have less := Cursor.left_of_next? ahead
          rw [afterOne_of_next? ahead, afterOne_of_next? ahead, ih later.left (by omega) later rfl]

end Places

/-! ## Building in front -/

variable {nodes nodes' : Array Node} {c : Cursor} {n : Nat} {r : Option (List Mark)}

/-- What leads from a node on before a character is taken goes to an earlier node or to one that
reads a character. -/
def Forward (nodes : Array Node) : Prop :=
  ∀ (n : Nat) (node : Node), nodes[n]? = some node → ∀ c t ts, node.ways? c t = some ts →
    ∀ way ∈ ts, way.node < n ∨ ∃ next, nodes[way.node]? = some next ∧ next.isReader = true

/-- The height of a node, with those that read a character at the bottom. -/
def height (nodes : Array Node) (n : Nat) : Nat :=
  if nodes[n]?.any Node.isReader then 0 else n + 1

theorem Forward.descends (h : Forward nodes) : Descends (height nodes) nodes := by
  intro n node own c t ts ways way mem
  have waits : node.isReader = false := by
    cases node <;> first | rfl | cases ways
  have high : height nodes n = n + 1 := by
    rw [height, own, Option.any_some, waits, if_neg Bool.false_ne_true]
  rw [high, height]
  obtain less | ⟨next, own', reads⟩ := h n node own c t ts ways way mem
  · split_ifs <;> omega
  · rw [own', Option.any_some, reads, if_pos rfl]
    omega

/-- The nodes are among the others, in their places. -/
def Extends (nodes nodes' : Array Node) : Prop :=
  ∀ (n : Nat) (node : Node), nodes[n]? = some node → nodes'[n]? = some node

theorem extends_push (nodes : Array Node) (node : Node) : Extends nodes (nodes.push node) := by
  intro n own found
  obtain ⟨inside, rfl⟩ := Array.getElem?_eq_some_iff.mp found
  exact Array.getElem?_push_lt inside

theorem Extends.trans {nodes'' : Array Node} (h : Extends nodes nodes')
    (h' : Extends nodes' nodes'') : Extends nodes nodes'' :=
  fun n node own => h' n node (h n node own)

theorem Answers.mono (more : Extends nodes nodes') (h : Answers nodes n c r) :
    Answers nodes' n c r := by
  induction h with
  | accept own => exact .accept (more _ _ own)
  | takes own ahead after _ ih => exact .takes (more _ _ own) ahead after ih
  | refuses own reads refuses => exact .refuses (more _ _ own) reads refuses
  | holds own holds _ ih => exact .holds (more _ _ own) holds ih
  | fails own fails => exact .fails (more _ _ own) fails
  | mark own _ ih => exact .mark (more _ _ own) ih
  | first own _ ih => exact .first (more _ _ own) ih
  | second own _ _ ih ih' => exact .second (more _ _ own) ih ih'

namespace Automaton

/-- From the start of the automaton, backtracking finds at each place what `k` tells. -/
structure Finds (a : Automaton) (k : Cursor → Option (List Mark)) : Prop where
  inside : a.start < a.nodes.size
  forward : Forward a.nodes
  answers : ∀ c, Answers a.nodes a.start c (k c)

variable {a : Automaton} {k k' : Cursor → Option (List Mark)} {node : Node}

theorem finds_accept : Finds ⟨#[.accept], 0⟩ fun _ => some [] where
  inside := Nat.zero_lt_one
  forward n node own c t ts ways := by
    obtain rfl : node = .accept := by
      obtain ⟨inside, rfl⟩ := Array.getElem?_eq_some_iff.mp own
      obtain rfl : n = 0 := Nat.lt_one_iff.mp inside
      rfl
    cases ways
  answers _ := .accept rfl

theorem forward_push (h : Forward nodes)
    (own : ∀ c t ts, node.ways? c t = some ts → ∀ way ∈ ts, way.node < nodes.size) :
    Forward (nodes.push node) := by
  intro n node' found c t ts ways way mem
  rw [Array.getElem?_push] at found
  split_ifs at found with last
  · obtain rfl := Option.some.inj found
    exact .inl (last ▸ own c t ts ways way mem)
  · obtain less | ⟨next, own', reads⟩ := h n node' found c t ts ways way mem
    · exact .inl less
    · exact .inr ⟨next, extends_push nodes node _ _ own', reads⟩

theorem pushTo_eq (f : Nat → Node) (a : Automaton) :
    a.pushTo f = ⟨a.nodes.push (f a.start), a.nodes.size⟩ := rfl

/-- A node in front goes on at the start. -/
theorem Finds.pushTo (h : a.Finds k) {f : Nat → Node}
    (ways : ∀ c t ts, (f a.start).ways? c t = some ts → ∀ way ∈ ts, way.node = a.start)
    (answers : ∀ nodes : Array Node, (∀ c, Answers nodes a.start c (k c)) →
      nodes[a.nodes.size]? = some (f a.start) → ∀ c, Answers nodes a.nodes.size c (k' c)) :
    (a.pushTo f).Finds k' where
  inside := by
    rw [pushTo_eq, Array.size_push]
    exact Nat.lt_succ_self _
  forward := forward_push h.forward fun c t ts own way mem => by
    rw [ways c t ts own way mem]
    exact h.inside
  answers := answers _ (fun c => (h.answers c).mono (extends_push _ _)) Array.getElem?_push_size

/-- A node that reads takes the next character or refuses it. -/
theorem answers_reader {p : Char → Bool} {next : Nat} (own : nodes[n]? = some node)
    (reads : node.isReader = true)
    (after : ∀ x, node.after? x = if p x then some next else none)
    (rest : ∀ x later, c.next? = some (x, later) → Answers nodes next later (k later)) :
    Answers nodes n c (afterOne p k c) := by
  cases ahead : c.next? with
  | none =>
      rw [afterOne_of_atEnd ahead]
      exact .refuses own reads fun x later some => nomatch ahead.symm.trans some
  | some place =>
      obtain ⟨x, later⟩ := place
      rw [afterOne_of_next? ahead]
      split_ifs with pass
      · exact .takes own ahead (by rw [after, if_pos pass]) (rest x later ahead)
      · refine .refuses own reads fun y later' ahead' => ?_
        obtain ⟨rfl, rfl⟩ := Prod.mk.inj (Option.some.inj (ahead.symm.trans ahead'))
        rw [after, if_neg pass]

theorem Finds.pushChar (h : a.Finds k) (y : Char) :
    (a.pushTo (.char y)).Finds (afterOne (y == ·) k) :=
  h.pushTo nofun fun _ rest own _ =>
    answers_reader own rfl (by simp [Node.after?]) fun _ later _ => rest later

theorem Finds.pushSet (h : a.Finds k) (s : CharSet) :
    (a.pushTo (.set s)).Finds (afterOne s.contains k) :=
  h.pushTo nofun fun _ rest own _ =>
    answers_reader own rfl (fun _ => rfl) fun _ later _ => rest later

theorem Finds.pushTest (h : a.Finds k) (condition : Anchor) :
    (a.pushTo (.test condition)).Finds fun c => if condition.holds c then k c else none := by
  refine h.pushTo (fun c t ts ways way mem => ?_) fun _ rest own c => ?_
  · obtain rfl := Option.some.inj ways
    split_ifs at mem
    · obtain rfl := List.mem_singleton.mp mem
      rfl
    · cases mem
  · split_ifs with holds
    · exact .holds own holds (rest c)
    · exact .fails own (Bool.eq_false_iff.mpr holds)

theorem Finds.pushMark (h : a.Finds k) (slot : Slot) :
    (a.pushTo (.mark slot)).Finds fun c => (k c).map (· ++ [⟨slot, c⟩]) := by
  refine h.pushTo (fun c t ts ways way mem => ?_) fun _ rest own c => .mark own (rest c)
  obtain rfl := Option.some.inj ways
  obtain rfl := List.mem_singleton.mp mem
  rfl

/-- A node that goes on to a set or out, and that the set leads back to, takes a run of the set and
then goes out. -/
theorem answers_run {nodes : Array Node} {start round out : Nat} {s : CharSet}
    (fork : nodes[start]? = some (.fork round out)) (set : nodes[round]? = some (.set s start))
    (exit : ∀ c, Answers nodes out c (k c)) (c : Cursor) :
    Answers nodes start c (afterRun s.contains k c) := by
  induction left : c.left using Nat.strongRecOn generalizing c with
  | _ left ih =>
      have once : Answers nodes round c (afterOne s.contains (afterRun s.contains k) c) :=
        answers_reader set rfl (fun _ => rfl) fun x later ahead => by
          have less := Cursor.left_of_next? ahead
          exact ih later.left (by omega) later rfl
      rw [afterRun_eq]
      cases found : afterOne s.contains (afterRun s.contains k) c with
      | some own =>
          rw [found] at once
          exact .first fork once
      | none =>
          rw [found] at once
          exact .second fork once (exit c)

/-- The automaton for a run: a fork between one more character, after which it comes back, and the
way out. -/
def pushRun (s : CharSet) (a : Automaton) : Automaton :=
  ⟨(a.nodes.push (.fork (a.nodes.size + 1) a.start)).push (.set s a.nodes.size), a.nodes.size⟩

theorem Finds.pushRun (h : a.Finds k) (s : CharSet) : (a.pushRun s).Finds (afterRun s.contains k) := by
  have fork : (a.pushRun s).nodes[a.nodes.size]? = some (.fork (a.nodes.size + 1) a.start) :=
    extends_push _ _ _ _ Array.getElem?_push_size
  have set : (a.pushRun s).nodes[a.nodes.size + 1]? = some (.set s a.nodes.size) := by
    rw [← Array.size_push]
    exact Array.getElem?_push_size
  have exit (c : Cursor) : Answers (a.pushRun s).nodes a.start c (k c) :=
    (h.answers c).mono ((extends_push _ _).trans (extends_push _ _))
  refine ⟨?_, ?_, fun c => ?_⟩
  · simp only [Automaton.pushRun, Array.size_push]
    omega
  · intro n node own c t ts ways way mem
    rw [Automaton.pushRun, Array.getElem?_push] at own
    split_ifs at own with last
    · obtain rfl := Option.some.inj own
      cases ways
    · rw [Array.getElem?_push] at own
      split_ifs at own with isFork
      · -- The way in leads to the set, which reads, and the way out to what was there before.
        obtain rfl := Option.some.inj own
        obtain rfl := Option.some.inj ways
        simp only [List.mem_cons, List.not_mem_nil, or_false] at mem
        obtain rfl | rfl := mem
        · exact .inr ⟨_, set, rfl⟩
        · exact .inl (isFork ▸ h.inside)
      · obtain less | ⟨next, own', reads⟩ := h.forward n node own c t ts ways way mem
        · exact .inl less
        · exact .inr ⟨next, (extends_push _ _).trans (extends_push _ _) _ _ own', reads⟩
  · exact answers_run fork set exit c

/-! ## What is built for a row -/

theorem build_run {s : CharSet} (inhabited : s.isEmpty = false) (a : Automaton) :
    (repetition (.set s) 0 none true).build a = a.pushRun s := by
  have takesText : (Regex.set s).takesText = true := by
    simp [takesText, minLength?, inhabited]
  simp only [repetition, takesNothing, Bool.false_eq_true, if_false, build, pushRepetition,
    takesText, if_true, pushLoop, pushTo_eq, pushRun, fork, Array.size_push]
  congr 1
  apply Array.ext'
  simp

theorem build_ofParts (rs : List Regex) (a : Automaton) :
    (ofParts rs).build a = rs.foldr build a := by
  induction rs with
  | nil => rfl
  | cons r rs ih =>
      cases rs with
      | nil => rfl
      | cons s rs => exact congrArg r.build ih

theorem build_literal_append (text more : List Char) (a : Automaton) :
    (literal (text ++ more)).build a = (literal text).build ((literal more).build a) := by
  rw [build, build, build, List.reverse_append, pushLiteral, pushLiteral, pushLiteral,
    List.foldl_append]

theorem foldr_build_parts (r : Regex) (a : Automaton) : r.parts.foldr build a = r.build a := by
  induction r generalizing a with
  | empty => rfl
  | seq r s ihr ihs => rw [parts, List.foldr_append, ihs, ihr, build]
  | _ => rfl

/-- What is built for a row is built for its expressions one behind the other. -/
theorem build_concat (rs : List Regex) (a : Automaton) :
    (concat rs).build a = rs.foldr build a := by
  rw [concat, build_ofParts, foldr_joinLiterals build_literal_append]
  induction rs with
  | nil => rfl
  | cons r rs ih =>
      rw [List.flatMap_cons, List.foldr_append, foldr_build_parts, ih, List.foldr_cons]

end Automaton

/-- Whether a character stands for another one: itself or, where case does not count, one that
differs only in case. -/
def standsFor (ignoreCase : Bool) (c x : Char) : Bool :=
  c == x || ignoreCase && (Unicode.orbit c).contains x

theorem standsFor_false (c x : Char) : standsFor false c x = (c == x) := by simp [standsFor]

theorem contains_ofChars_orbit (c : Char) :
    (CharSet.ofChars (c :: Unicode.orbit c)).contains = standsFor true c := by
  funext x
  rw [CharSet.contains_ofChars, List.contains_cons, standsFor, Bool.true_and, Bool.beq_comm]

namespace Automaton

variable {a : Automaton} {k : Cursor → Option (List Mark)}

theorem Finds.build_ofSet (h : a.Finds k) {s : CharSet} {c : Char} (mem : s.contains c = true) :
    ((ofSet s).build a).Finds (afterOne s.contains k) := by
  rw [ofSet]
  split
  · next single =>
    obtain ⟨rfl, rfl⟩ := CharSet.eq_only_of_single? single mem
    rw [funext (CharSet.contains_only _)]
    exact h.pushChar _
  · exact h.pushSet s

theorem Finds.build_letter (h : a.Finds k) (ignoreCase : Bool) (c : Char) :
    ((letter ignoreCase c).build a).Finds (afterOne (standsFor ignoreCase c) k) := by
  cases ignoreCase with
  | true =>
      rw [← contains_ofChars_orbit]
      refine h.build_ofSet (c := c) ?_
      simp [contains_ofChars_orbit, standsFor]
  | false =>
      rw [funext (standsFor_false c)]
      exact h.pushChar c

theorem Finds.build_run (h : a.Finds k) {s : CharSet} (inhabited : s.isEmpty = false) :
    ((repetition (.set s) 0 none true).build a).Finds (afterRun s.contains k) := by
  rw [Automaton.build_run inhabited]
  exact h.pushRun s

/-! ## Searches from the beginning -/

theorem leftmost_none (nothing : ∀ c, c.before ≠ none → Answers a.nodes a.start c none) {c : Cursor}
    (inside : c.before ≠ none) : Leftmost a c none := by
  induction left : c.left using Nat.strongRecOn generalizing c with
  | _ n ih =>
      cases ahead : c.next? with
      | none => exact .done ahead (nothing c inside)
      | some next =>
          obtain ⟨x, later⟩ := next
          have less := Cursor.left_of_next? ahead
          have inside' : later.before ≠ none := by
            rw [Cursor.before_of_next? ahead]
            nofun
          exact .later (nothing c inside) ahead (ih later.left (by omega) inside' rfl)

/-- A search for what begins with the text finds what is found at its beginning. -/
theorem Finds.search?_eq (h : a.Finds fun c => if Anchor.textStart.holds c then k c else none)
    (text : List Char) : a.search? text = k (.start text) := by
  have nothing (c : Cursor) (inside : c.before ≠ none) : Answers a.nodes a.start c none := by
    have fails : ¬ Anchor.textStart.holds c = true := by
      simpa [Anchor.holds] using inside
    simpa [fails] using h.answers c
  have start : Answers a.nodes a.start (.start text) (k (.start text)) := h.answers _
  refine Automaton.search?_eq h.forward.descends ?_
  cases found : k (.start text) with
  | some marks =>
      rw [found] at start
      exact .here start
  | none =>
      rw [found] at start
      cases ahead : (Cursor.start text).next? with
      | none => exact .done ahead start
      | some next =>
          obtain ⟨x, later⟩ := next
          refine .later start ahead (leftmost_none nothing ?_)
          rw [Cursor.before_of_next? ahead]
          nofun

end Automaton

end Interception.Regex
