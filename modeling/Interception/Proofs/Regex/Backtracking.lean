import Interception.Regex.Search
import Mathlib.Tactic.SplitIfs

/-!
# Searching as backtracking

A search reads a text once and follows all threads at the same time. What it finds is what
backtracking would find: from a node on, a fork tries its first way and, if nothing is found there,
its second one, and the whole is tried at each place of the text in turn until something is found.

Two things have to be seen. A thread that comes to a node where one before it has been is dropped:
that one has found whatever is to be found from there, unless it is still on its way, and it is not,
because what leads from node to node before a character is taken never comes back. And a thread that
accepts cuts off those behind it, while one in front of it may still accept later.
-/

namespace Interception.Regex

/-! ## Backtracking -/

/-- Whether a thread waits at the node for a character. -/
def Node.isReader : Node → Bool
  | .char _ _ | .set _ _ => true
  | _ => false

/-- What backtracking finds from a node on: the marks that are made on the way to the end of a
match, the last one first. -/
inductive Answers (nodes : Array Node) : Nat → Cursor → Option (List Mark) → Prop where
  | accept {n c} (own : nodes[n]? = some .accept) : Answers nodes n c (some [])
  | takes {n c node x later next r} (own : nodes[n]? = some node)
      (ahead : c.next? = some (x, later)) (after : node.after? x = some next)
      (rest : Answers nodes next later r) : Answers nodes n c r
  | refuses {n c node} (own : nodes[n]? = some node) (reads : node.isReader = true)
      (refuses : ∀ x later, c.next? = some (x, later) → node.after? x = none) :
      Answers nodes n c none
  | holds {n c condition next r} (own : nodes[n]? = some (.test condition next))
      (holds : condition.holds c = true) (rest : Answers nodes next c r) : Answers nodes n c r
  | fails {n c condition next} (own : nodes[n]? = some (.test condition next))
      (fails : condition.holds c = false) : Answers nodes n c none
  | mark {n c slot next r} (own : nodes[n]? = some (.mark slot next))
      (rest : Answers nodes next c r) : Answers nodes n c (r.map (· ++ [⟨slot, c⟩]))
  | first {n c first second own'} (own : nodes[n]? = some (.fork first second))
      (found : Answers nodes first c (some own')) : Answers nodes n c (some own')
  | second {n c first second r} (own : nodes[n]? = some (.fork first second))
      (nothing : Answers nodes first c none) (rest : Answers nodes second c r) : Answers nodes n c r

/-- What is found first of all that is found from the threads, one after the other. -/
inductive Prefers (nodes : Array Node) (c : Cursor) : List Thread → Option (List Mark) → Prop where
  | nil : Prefers nodes c [] none
  | here {t ts own} (found : Answers nodes t.node c (some own)) :
      Prefers nodes c (t :: ts) (some (own ++ t.marks))
  | later {t ts r} (nothing : Answers nodes t.node c none) (rest : Prefers nodes c ts r) :
      Prefers nodes c (t :: ts) r

/-- What is found at the first place, from a given one on, at which anything is found. -/
inductive Leftmost (a : Automaton) : Cursor → Option (List Mark) → Prop where
  | here {c own} (found : Answers a.nodes a.start c (some own)) : Leftmost a c (some own)
  | later {c x later r} (nothing : Answers a.nodes a.start c none)
      (ahead : c.next? = some (x, later)) (rest : Leftmost a later r) : Leftmost a c r
  | done {c} (atEnd : c.next? = none) (nothing : Answers a.nodes a.start c none) :
      Leftmost a c none

variable {nodes : Array Node} {rank : Nat → Nat} {c later : Cursor} {n : Nat} {x : Char}
variable {r r' : Option (List Mark)} {t : Thread} {ts us : List Thread} {node : Node}

theorem Answers.unique (h : Answers nodes n c r) (h' : Answers nodes n c r') : r = r' := by
  induction h generalizing r' <;> cases h' <;> grind [Node.after?, Node.isReader]

/-- Whether something is found from a node on. -/
def Succeeds (nodes : Array Node) (c : Cursor) (n : Nat) : Prop :=
  ∃ own, Answers nodes n c (some own)

theorem Succeeds.not_none (h : Succeeds nodes c n) : ¬ Answers nodes n c none := by
  obtain ⟨own, found⟩ := h
  exact fun none => nomatch found.unique none

/-! ## Rows of threads -/

theorem Prefers.succeeds {own : List Mark} (h : Prefers nodes c ts (some own)) :
    ∃ t ∈ ts, Succeeds nodes c t.node := by
  generalize found : some own = r at h
  induction h with
  | nil => cases found
  | here own' => exact ⟨_, List.mem_cons_self, _, own'⟩
  | later _ _ ih =>
      obtain ⟨t, mem, succeeds⟩ := ih found
      exact ⟨t, List.mem_cons_of_mem _ mem, succeeds⟩

theorem Prefers.of_none (h : Prefers nodes c ts none) : ∀ t ∈ ts, ¬ Succeeds nodes c t.node := by
  generalize nothing : none = r at h
  induction h with
  | nil => simp
  | here => cases nothing
  | later none _ ih =>
      exact List.forall_mem_cons.mpr ⟨fun found => found.not_none none, ih nothing⟩

/-- Of two rows of threads the second one counts if nothing is found from the first. -/
theorem prefers_append_iff : Prefers nodes c (ts ++ us) r ↔
    (∃ own, r = some own ∧ Prefers nodes c ts (some own)) ∨
      (Prefers nodes c ts none ∧ Prefers nodes c us r) := by
  constructor
  · intro h
    induction ts with
    | nil => exact .inr ⟨.nil, h⟩
    | cons t ts ih =>
        cases h with
        | here found => exact .inl ⟨_, rfl, .here found⟩
        | later none rest =>
            obtain ⟨own, rfl, found⟩ | ⟨nothing, others⟩ := ih rest
            · exact .inl ⟨own, rfl, .later none found⟩
            · exact .inr ⟨.later none nothing, others⟩
  · rintro (⟨own, rfl, found⟩ | ⟨nothing, others⟩)
    · induction ts with
      | nil => cases found
      | cons t ts ih =>
          cases found with
          | here found => exact .here found
          | later none rest => exact .later none (ih rest)
    · induction ts with
      | nil => exact others
      | cons t ts ih =>
          cases nothing with
          | later none rest => exact .later none (ih rest)

/-- A thread finds what it finds on its ways. -/
theorem Answers.prefers_ways (h : Answers nodes t.node c r) (own : nodes[t.node]? = some node)
    (ways : node.ways? c t = some ts) : Prefers nodes c ts (r.map (· ++ t.marks)) := by
  cases h with
  | accept own' =>
      obtain rfl := Option.some.inj (own'.symm.trans own)
      cases ways
  | takes own' _ after _ =>
      obtain rfl := Option.some.inj (own.symm.trans own')
      cases node <;> simp_all [Node.after?, Node.ways?]
  | refuses own' reads _ =>
      obtain rfl := Option.some.inj (own.symm.trans own')
      cases node <;> simp_all [Node.isReader, Node.ways?]
  | holds own' holds rest =>
      obtain rfl := Option.some.inj (own.symm.trans own')
      rw [Node.ways?, holds] at ways
      obtain rfl := Option.some.inj ways
      cases r with
      | none => exact .later rest .nil
      | some own => exact Prefers.here (t := { t with node := _ }) rest
  | fails own' fails =>
      obtain rfl := Option.some.inj (own.symm.trans own')
      rw [Node.ways?, fails] at ways
      obtain rfl := Option.some.inj ways
      exact .nil
  | @mark _ _ slot next r own' rest =>
      obtain rfl := Option.some.inj (own.symm.trans own')
      obtain rfl := Option.some.inj ways
      cases r with
      | none => exact .later rest .nil
      | some marks =>
          have found : Prefers nodes c [⟨next, ⟨slot, c⟩ :: t.marks⟩]
              (some (marks ++ ⟨slot, c⟩ :: t.marks)) := .here rest
          simpa using found
  | first own' found =>
      obtain rfl := Option.some.inj (own.symm.trans own')
      obtain rfl := Option.some.inj ways
      exact Prefers.here (t := { t with node := _ }) found
  | second own' none rest =>
      obtain rfl := Option.some.inj (own.symm.trans own')
      obtain rfl := Option.some.inj ways
      refine .later none ?_
      cases r with
      | none => exact .later rest .nil
      | some own => exact Prefers.here (t := { t with node := _ }) rest

/-! ## Following threads -/

/-- What leads from node to node before a character is taken goes down in rank, so that it never
comes back to a node. -/
def Descends (rank : Nat → Nat) (nodes : Array Node) : Prop :=
  ∀ n node, nodes[n]? = some node → ∀ c t ts, node.ways? c t = some ts →
    ∀ way ∈ ts, rank way.node < rank n

/-- The threads are at nodes that accept or read a character. -/
def Waits (nodes : Array Node) (ts : List Thread) : Prop :=
  ∀ t ∈ ts, ∃ node, nodes[t.node]? = some node ∧ (node = .accept ∨ node.isReader = true)

/-- Whatever is found from the node is found from a thread that was found before, or is about to be
found by what stands first among the threads to follow and has been reached from the node. -/
def Covered (nodes : Array Node) (rank : Nat → Nat) (c : Cursor) (found todo : List Thread)
    (n : Nat) : Prop :=
  Succeeds nodes c n → (∃ t ∈ found, Succeeds nodes c t.node) ∨
    ∃ front back, todo = front ++ back ∧ (∀ t ∈ front, rank t.node < rank n) ∧
      ∃ t ∈ front, Succeeds nodes c t.node

/-- How many nodes have not been come to at a place. -/
def unseen (c : Cursor) (seen : Array Nat) : Nat := seen.countP (· != c.left + 1)

theorem unseen_setIfInBounds {seen : Array Nat} (inside : n < seen.size)
    (new : seen.getD n 0 ≠ c.left + 1) :
    unseen c (seen.setIfInBounds n (c.left + 1)) + 1 = unseen c seen := by
  have inside' : n < seen.toList.length := inside
  have other : (seen.toList[n] != c.left + 1) = true := by
    rw [Array.getElem_toList]
    simpa [Array.getD, inside] using new
  have some : 0 < seen.toList.countP (· != c.left + 1) :=
    List.countP_pos_iff.mpr ⟨_, List.getElem_mem inside', other⟩
  rw [unseen, unseen, ← Array.countP_toList, ← Array.countP_toList, Array.toList_setIfInBounds,
    List.countP_set inside', other]
  simp only [if_true, bne_self_eq_false, Bool.false_eq_true, if_false]
  omega

/-- What is known of threads that were found at a place, and of those that are still to be
followed: found threads wait, what was come to is covered, and no place further on was come to. -/
structure Threads.Sound (nodes : Array Node) (rank : Nat → Nat) (c : Cursor) (threads : Threads)
    (todo : List Thread) : Prop where
  size : threads.seen.size = nodes.size
  past : ∀ n, threads.seen.getD n 0 = 0 ∨ c.left < threads.seen.getD n 0
  waits : Waits nodes threads.found
  covered : ∀ n, threads.seen.getD n 0 = c.left + 1 → Covered nodes rank c threads.found todo n

theorem getD_setIfInBounds (seen : Array Nat) (i value n : Nat) :
    (seen.setIfInBounds i value).getD n 0 =
      if i = n ∧ i < seen.size then value else seen.getD n 0 := by
  simp only [Array.getD_eq_getD_getElem?, Array.getElem?_setIfInBounds]
  by_cases same : i = n
  · subst same
    by_cases inside : i < seen.size <;> simp [inside]
  · simp [same]

theorem Succeeds.exists_node (h : Succeeds nodes c n) : ∃ node, nodes[n]? = some node := by
  obtain ⟨own, found⟩ := h
  generalize some own = r at found
  cases found <;> exact ⟨_, by assumption⟩

theorem ways?_eq_none_iff : node.ways? c t = none ↔ node = .accept ∨ node.isReader = true := by
  cases node <;> simp [Node.ways?, Node.isReader]

namespace Threads.Sound

variable {threads : Threads} {todo rest : List Thread}

/-- What is to be found from a node that was come to is found from a thread that waits, if the thread
to follow next has come to this node. -/
theorem exists_found (h : threads.Sound nodes rank c (t :: todo))
    (old : threads.seen.getD t.node 0 = c.left + 1) (own : Succeeds nodes c t.node) :
    ∃ t ∈ threads.found, Succeeds nodes c t.node := by
  obtain found | ⟨front, back, split, lower, some⟩ := h.covered t.node old own
  · exact found
  · obtain _ | ⟨first, front⟩ := front
    · simp at some
    · -- The thread itself would be of lower rank than its node.
      obtain ⟨rfl, -⟩ := List.cons.inj split
      exact absurd (lower t List.mem_cons_self) (Nat.lt_irrefl _)

/-- What was come to before stays covered when the next thread is replaced by threads that go on
from its node, and by one that waits there. -/
theorem covered_replace (h : threads.Sound nodes rank c (t :: todo)) {found' : List Thread}
    (ways : List Thread) (keeps : ∀ t ∈ threads.found, t ∈ found')
    (lower : ∀ way ∈ ways, rank way.node < rank t.node)
    (own : Succeeds nodes c t.node → (∃ t ∈ found', Succeeds nodes c t.node) ∨
      ∃ way ∈ ways, Succeeds nodes c way.node)
    (seen : threads.seen.getD n 0 = c.left + 1) :
    Covered nodes rank c found' (ways ++ todo) n := by
  intro succeeds
  obtain ⟨t', mem, found⟩ | ⟨front, back, split, less, t', mem, found⟩ := h.covered n seen succeeds
  · exact .inl ⟨t', keeps t' mem, found⟩
  · obtain _ | ⟨first, front⟩ := front
    · cases mem
    · obtain ⟨rfl, rfl⟩ := List.cons.inj split
      obtain ⟨next, others⟩ := List.forall_mem_cons.mp less
      have all : ∀ way ∈ ways ++ front, rank way.node < rank n :=
        List.forall_mem_append.mpr
          ⟨fun way mem => Nat.lt_trans (lower way mem) next, others⟩
      have cut : ways ++ (front ++ back) = (ways ++ front) ++ back :=
        (List.append_assoc _ _ _).symm
      obtain rfl | mem := List.mem_cons.mp mem
      · obtain found | ⟨way, mem, found⟩ := own found
        · exact .inl found
        · exact .inr ⟨_, back, cut, all, way, List.mem_append_left _ mem, found⟩
      · exact .inr ⟨_, back, cut, all, t', List.mem_append_right _ mem, found⟩

/-- A thread that has nothing new to find is dropped. -/
theorem tail (h : threads.Sound nodes rank c (t :: todo))
    (own : Succeeds nodes c t.node → ∃ t ∈ threads.found, Succeeds nodes c t.node) :
    threads.Sound nodes rank c todo :=
  { h with
    covered := fun _ seen => h.covered_replace [] (fun _ mem => mem) nofun
      (fun found => .inl (own found)) seen }

/-- Coming to a node leaves everything but the node as it was. -/
theorem come (h : threads.Sound nodes rank c todo) {found' todo' : List Thread} (n : Nat)
    (waits : Waits nodes found')
    (own : n < nodes.size → Covered nodes rank c found' todo' n)
    (others : ∀ m, threads.seen.getD m 0 = c.left + 1 → Covered nodes rank c found' todo' m) :
    Sound nodes rank c ⟨found', threads.seen.setIfInBounds n (c.left + 1)⟩ todo' where
  size := by rw [Array.size_setIfInBounds, h.size]
  past m := by
    rw [getD_setIfInBounds]
    split_ifs
    · exact .inr (Nat.lt_succ_self _)
    · exact h.past m
  waits := waits
  covered m seen := by
    rw [getD_setIfInBounds] at seen
    split_ifs at seen with come
    · obtain ⟨rfl, inside⟩ := come
      exact own (h.size ▸ inside)
    · exact others m seen

/-- A thread that goes on from its node is replaced by what it goes on as. -/
theorem goOn (h : threads.Sound nodes rank c (t :: todo)) (descends : Descends rank nodes)
    (own : nodes[t.node]? = some node) (ways : node.ways? c t = some ts) :
    Sound nodes rank c ⟨threads.found, threads.seen.setIfInBounds t.node (c.left + 1)⟩
      (ts ++ todo) := by
  have lower := descends t.node node own c t ts ways
  have onWays : Succeeds nodes c t.node → ∃ way ∈ ts, Succeeds nodes c way.node := by
    rintro ⟨marks, found⟩
    exact (found.prefers_ways own ways).succeeds
  refine h.come t.node h.waits (fun _ found => ?_) fun m seen => ?_
  · exact .inr ⟨ts, todo, rfl, lower, onWays found⟩
  · exact h.covered_replace ts (fun _ mem => mem) lower (fun found => .inr (onWays found)) seen

/-- A thread that waits at its node is found. -/
theorem wait (h : threads.Sound nodes rank c (t :: todo)) (own : nodes[t.node]? = some node)
    (waits : node = .accept ∨ node.isReader = true) :
    Sound nodes rank c ⟨t :: threads.found, threads.seen.setIfInBounds t.node (c.left + 1)⟩
      todo := by
  have self : Succeeds nodes c t.node → ∃ t' ∈ t :: threads.found, Succeeds nodes c t'.node :=
    fun found => ⟨t, List.mem_cons_self, found⟩
  refine h.come t.node ?_ (fun _ found => .inl (self found)) fun m seen => ?_
  · exact List.forall_mem_cons.mpr ⟨⟨node, own, waits⟩, h.waits⟩
  · exact h.covered_replace [] (fun _ mem => List.mem_cons_of_mem t mem) nofun
      (fun found => .inl (self found)) seen

theorem waits_reverse (h : threads.Sound nodes rank c todo) : Waits nodes threads.found.reverse :=
  fun t mem => h.waits t (List.mem_reverse.mp mem)

/-- Where there is nothing to follow, there may be anything to follow next. -/
theorem of_nil (h : threads.Sound nodes rank c []) (todo : List Thread) :
    threads.Sound nodes rank c todo :=
  { h with
    covered := fun n seen own => by
      obtain found | ⟨front, back, split, _, t, mem, _⟩ := h.covered n seen own
      · exact .inl found
      · obtain ⟨rfl, -⟩ := List.append_eq_nil_iff.mp split.symm
        cases mem }

end Threads.Sound

namespace Automaton

variable {a : Automaton} {todo rest : List Thread} {threads : Threads}

section Follow

variable {fuel : Nat}

theorem follow_old (old : threads.seen.getD t.node 0 = c.left + 1) :
    a.follow c (fuel + 1) (t :: todo) threads = a.follow c fuel todo threads := by
  rw [follow, if_pos old]

theorem follow_ways (new : threads.seen.getD t.node 0 ≠ c.left + 1)
    (own : a.nodes[t.node]? = some node) (ways : node.ways? c t = some ts) :
    a.follow c (fuel + 1) (t :: todo) threads = a.follow c fuel (ts ++ todo)
      ⟨threads.found, threads.seen.setIfInBounds t.node (c.left + 1)⟩ := by
  rw [follow, if_neg new]
  simp only [own, ways]

theorem follow_waits (new : threads.seen.getD t.node 0 ≠ c.left + 1)
    (own : a.nodes[t.node]? = some node) (waits : node.ways? c t = none) :
    a.follow c (fuel + 1) (t :: todo) threads = a.follow c fuel todo
      ⟨t :: threads.found, threads.seen.setIfInBounds t.node (c.left + 1)⟩ := by
  rw [follow, if_neg new]
  simp only [own, waits]

theorem follow_missing (own : a.nodes[t.node]? = none)
    (outside : threads.seen.size ≤ t.node) :
    a.follow c (fuel + 1) (t :: todo) threads = a.follow c fuel todo threads := by
  rw [follow]
  simp only [own, Array.setIfInBounds_eq_of_size_le outside, ite_self]

end Follow

/-- A thread that has nothing new to find may be left out. -/
theorem prefers_drop {found us : List Thread}
    (own : Succeeds nodes c t.node → ∃ t ∈ found, Succeeds nodes c t.node)
    (h : Prefers nodes c (found.reverse ++ t :: us) r) :
    Prefers nodes c (found.reverse ++ us) r := by
  obtain found | ⟨nothing, others⟩ := prefers_append_iff.mp h
  · exact prefers_append_iff.mpr (.inl found)
  · refine prefers_append_iff.mpr (.inr ⟨nothing, ?_⟩)
    cases others with
    | here marks =>
        obtain ⟨t', mem, succeeds⟩ := own ⟨_, marks⟩
        exact absurd succeeds (nothing.of_none t' (List.mem_reverse.mpr mem))
    | later _ others => exact others

/-- A thread may be replaced by those that it goes on as. -/
theorem prefers_ways {front us : List Thread} (own : nodes[t.node]? = some node)
    (ways : node.ways? c t = some ts) (h : Prefers nodes c (front ++ t :: us) r) :
    Prefers nodes c (front ++ (ts ++ us)) r := by
  obtain found | ⟨nothing, others⟩ := prefers_append_iff.mp h
  · exact prefers_append_iff.mpr (.inl found)
  · refine prefers_append_iff.mpr (.inr ⟨nothing, prefers_append_iff.mpr ?_⟩)
    cases others with
    | here found => exact .inl ⟨_, rfl, found.prefers_ways own ways⟩
    | later none others => exact .inr ⟨none.prefers_ways own ways, others⟩

theorem length_ways?_le (ways : node.ways? c t = some ts) : ts.length ≤ 2 := by
  cases node with
  | fork first second => cases ways; exact Nat.le_refl 2
  | test condition next =>
      obtain rfl := Option.some.inj ways
      split_ifs <;> simp
  | mark slot next => cases ways; exact Nat.le_succ 1
  | _ => cases ways

/-- Following threads changes nothing about what is found first, and leaves no thread to follow. -/
theorem follow_spec (descends : Descends rank a.nodes) {fuel : Nat}
    (sound : threads.Sound a.nodes rank c todo)
    (enough : todo.length + 2 * unseen c threads.seen ≤ fuel)
    (h : Prefers a.nodes c (threads.found.reverse ++ (todo ++ rest)) r) :
    (a.follow c fuel todo threads).Sound a.nodes rank c [] ∧
      Prefers a.nodes c ((a.follow c fuel todo threads).found.reverse ++ rest) r := by
  induction fuel generalizing todo threads with
  | zero =>
      obtain rfl : todo = [] := List.length_eq_zero_iff.mp (by omega)
      exact ⟨sound, h⟩
  | succ fuel ih =>
      obtain _ | ⟨t, todo⟩ := todo
      · exact ⟨sound, h⟩
      rw [List.length_cons] at enough
      by_cases old : threads.seen.getD t.node 0 = c.left + 1
      · rw [follow_old old]
        have own := sound.exists_found old
        exact ih (sound.tail own) (by omega) (prefers_drop own h)
      cases own : a.nodes[t.node]? with
      | none =>
          have outside : threads.seen.size ≤ t.node :=
            sound.size ▸ Array.getElem?_eq_none_iff.mp own
          have nothing : Succeeds a.nodes c t.node →
              ∃ t ∈ threads.found, Succeeds a.nodes c t.node := by
            intro found
            obtain ⟨node, some⟩ := found.exists_node
            cases own.symm.trans some
          rw [follow_missing own outside]
          exact ih (sound.tail nothing) (by omega) (prefers_drop nothing h)
      | some node =>
          have inside : t.node < threads.seen.size :=
            sound.size ▸ (Array.getElem?_eq_some_iff.mp own).1
          have fewer := unseen_setIfInBounds inside old
          cases ways : node.ways? c t with
          | some ts =>
              have few := length_ways?_le ways
              rw [follow_ways old own ways]
              refine ih (sound.goOn descends own ways) ?_ ?_
              · simp only [List.length_append]
                omega
              · rw [List.append_assoc]
                exact prefers_ways own ways h
          | none =>
              rw [follow_waits old own ways]
              refine ih (sound.wait own (ways?_eq_none_iff.mp ways)) (by simp only; omega) ?_
              simpa using h

/-- A thread that enters behind those that were found is searched from behind them. -/
theorem enter_spec (descends : Descends rank a.nodes) (sound : threads.Sound a.nodes rank c [])
    (t : Thread) (h : Prefers a.nodes c (threads.found.reverse ++ t :: rest) r) :
    (a.enter c t threads).Sound a.nodes rank c [] ∧
      Prefers a.nodes c ((a.enter c t threads).found.reverse ++ rest) r := by
  refine follow_spec descends (sound.of_nil [t]) ?_ h
  have le : unseen c threads.seen ≤ threads.seen.size := Array.countP_le_size
  rw [sound.size] at le
  rw [List.length_singleton, followFuel]
  omega

theorem foldl_enter_spec (descends : Descends rank a.nodes)
    (sound : threads.Sound a.nodes rank c [])
    (h : Prefers a.nodes c (threads.found.reverse ++ ts) r) :
    (ts.foldl (fun threads t => a.enter c t threads) threads).Sound a.nodes rank c [] ∧
      Prefers a.nodes c
        (ts.foldl (fun threads t => a.enter c t threads) threads).found.reverse r := by
  induction ts generalizing threads with
  | nil => exact ⟨sound, by simpa using h⟩
  | cons t ts ih =>
      obtain ⟨sound, h⟩ := enter_spec descends sound t h
      exact ih sound h

end Automaton

/-! ## Reading a character -/

/-- The threads are at nodes that read a character. -/
def Readers (nodes : Array Node) (ts : List Thread) : Prop :=
  ∀ t ∈ ts, ∃ node, nodes[t.node]? = some node ∧ node.isReader = true

theorem Answers.of_reader (h : Answers nodes n c r) (own : nodes[n]? = some node)
    (reads : node.isReader = true) (ahead : c.next? = some (x, later)) :
    (∃ next, node.after? x = some next ∧ Answers nodes next later r) ∨
      (node.after? x = none ∧ r = none) := by
  cases h <;> grind [Node.isReader]

theorem Answers.of_atEnd (h : Answers nodes n c r) (own : nodes[n]? = some node)
    (reads : node.isReader = true) (atEnd : c.next? = none) : r = none := by
  cases h <;> grind [Node.isReader]

theorem Prefers.of_atEnd (h : Prefers nodes c ts r) (readers : Readers nodes ts)
    (atEnd : c.next? = none) : r = none := by
  induction ts with
  | nil =>
      cases h
      rfl
  | cons t ts ih =>
      obtain ⟨⟨node, own, reads⟩, others⟩ := List.forall_mem_cons.mp readers
      cases h with
      | here found => cases found.of_atEnd own reads atEnd
      | later _ rest => exact ih rest others

/-- What is found from threads that read is found from where they stand after the next character. -/
theorem prefers_move {a : Automaton} (readers : Readers a.nodes ts)
    (ahead : c.next? = some (x, later)) (h : Prefers a.nodes c ts r) :
    Prefers a.nodes later (ts.filterMap (a.move? x)) r := by
  induction ts with
  | nil =>
      cases h
      exact .nil
  | cons t ts ih =>
      obtain ⟨⟨node, own, reads⟩, others⟩ := List.forall_mem_cons.mp readers
      have moved : a.move? x t = (node.after? x).map fun node => { t with node } := by
        rw [Automaton.move?, own]
        rfl
      rw [List.filterMap_cons, moved]
      cases h with
      | here found =>
          obtain ⟨next, after, found⟩ | ⟨_, none⟩ := found.of_reader own reads ahead
          · rw [after]
            exact Prefers.here (t := { t with node := next }) found
          · cases none
      | later nothing rest =>
          obtain ⟨next, after, nothing⟩ | ⟨none, _⟩ := nothing.of_reader own reads ahead
          · rw [after]
            exact .later nothing (ih others rest)
          · rw [none]
            exact ih others rest

section UntilAccept

variable {a : Automaton}

theorem untilAccept_cons_of_accept (own : a.nodes[t.node]? = some .accept) :
    a.untilAccept (t :: ts) = ([], some t) := by
  simp only [Automaton.untilAccept, own]

theorem untilAccept_cons_of_reader (own : a.nodes[t.node]? = some node)
    (reads : node.isReader = true) :
    a.untilAccept (t :: ts) = (t :: (a.untilAccept ts).1, (a.untilAccept ts).2) := by
  rw [Automaton.untilAccept, own]
  cases node <;> first | rfl | cases reads

/-- The threads in front of the first one that accepts read. -/
theorem readers_untilAccept (waits : Waits a.nodes ts) : Readers a.nodes (a.untilAccept ts).1 := by
  induction ts with
  | nil => nofun
  | cons t ts ih =>
      obtain ⟨⟨node, own, rfl | reads⟩, others⟩ := List.forall_mem_cons.mp waits
      · rw [untilAccept_cons_of_accept own]
        nofun
      · rw [untilAccept_cons_of_reader own reads]
        exact List.forall_mem_cons.mpr ⟨⟨node, own, reads⟩, ih others⟩

/-- What is found from threads that wait is found from those in front of the first one that accepts,
or else it is what that one has marked. -/
theorem untilAccept_spec (waits : Waits a.nodes ts) (h : Prefers a.nodes c ts r) :
    ∃ r', Prefers a.nodes c (a.untilAccept ts).1 r' ∧
      r = r'.or ((a.untilAccept ts).2.map Thread.marks) := by
  induction ts generalizing r with
  | nil =>
      cases h
      exact ⟨none, .nil, rfl⟩
  | cons t ts ih =>
      obtain ⟨⟨node, own, rfl | reads⟩, others⟩ := List.forall_mem_cons.mp waits
      · rw [untilAccept_cons_of_accept own]
        refine ⟨none, .nil, ?_⟩
        cases h with
        | here found =>
            obtain rfl := Option.some.inj (found.unique (.accept own))
            rfl
        | later none _ => cases none.unique (.accept own)
      · rw [untilAccept_cons_of_reader own reads]
        cases h with
        | here found => exact ⟨_, .here found, rfl⟩
        | later none rest =>
            obtain ⟨r', own', rfl⟩ := ih others rest
            exact ⟨r', .later none own', rfl⟩

end UntilAccept

/-! ## Runs -/

namespace Automaton

variable {a : Automaton} {threads : Threads} {best r₁ r₂ : Option (List Mark)}

/-- A new thread at the start is searched last. It is what makes the next place the first one to be
tried, if nothing is found from it. -/
theorem exists_prefers_start (descends : Descends rank a.nodes)
    (sound : threads.Sound a.nodes rank c []) (first : Prefers a.nodes c threads.found.reverse r₁)
    (onward : r₁ = none → Leftmost a c r₂) :
    (a.enter c ⟨a.start, []⟩ threads).Sound a.nodes rank c [] ∧
    ∃ r, Prefers a.nodes c (a.enter c ⟨a.start, []⟩ threads).found.reverse r ∧
      r₁.or r₂ = r.or r₂ ∧
      (r = none → (c.next? = none → r₂ = none) ∧
        ∀ x later, c.next? = some (x, later) → Leftmost a later r₂) := by
  have entered {r : Option (List Mark)}
      (h : Prefers a.nodes c (threads.found.reverse ++ [⟨a.start, []⟩]) r) :
      (a.enter c ⟨a.start, []⟩ threads).Sound a.nodes rank c [] ∧
        Prefers a.nodes c (a.enter c ⟨a.start, []⟩ threads).found.reverse r := by
    obtain ⟨sound, own⟩ := enter_spec descends sound ⟨a.start, []⟩ h
    exact ⟨sound, by simpa using own⟩
  cases r₁ with
  | some own =>
      obtain ⟨sound, own'⟩ := entered (prefers_append_iff.mpr (.inl ⟨own, rfl, first⟩))
      exact ⟨sound, _, own', rfl, nofun⟩
  | none =>
      have behind {r : Option (List Mark)} (h : Prefers a.nodes c [⟨a.start, []⟩] r) :=
        entered (prefers_append_iff.mpr (.inr ⟨first, h⟩))
      cases onward rfl with
      | @here _ own found =>
          obtain ⟨sound, own'⟩ := behind (Prefers.here (t := ⟨a.start, []⟩) found)
          exact ⟨sound, _, own', by simp, nofun⟩
      | later nothing ahead rest =>
          obtain ⟨sound, own'⟩ := behind (.later nothing .nil)
          refine ⟨sound, _, own', rfl, fun _ => ⟨fun atEnd => ?_, fun y later' ahead' => ?_⟩⟩
          · cases atEnd.symm.trans ahead
          · obtain ⟨rfl, rfl⟩ := Prod.mk.inj (Option.some.inj (ahead.symm.trans ahead'))
            exact rest
      | done atEnd nothing =>
          obtain ⟨sound, own'⟩ := behind (.later nothing .nil)
          refine ⟨sound, _, own', rfl, fun _ => ⟨fun _ => rfl, fun y later' ahead' => ?_⟩⟩
          cases atEnd.symm.trans ahead'

/-- What was found at a place says nothing against the places after it. -/
theorem sound_later (sound : threads.Sound nodes rank c []) (ahead : c.next? = some (x, later)) :
    Threads.Sound nodes rank later ⟨[], threads.seen⟩ [] where
  size := sound.size
  past n := by
    have left := Cursor.left_of_next? ahead
    exact (sound.past n).imp_right fun less => Nat.lt_of_le_of_lt (by omega) less
  waits := nofun
  covered n seen := by
    have left := Cursor.left_of_next? ahead
    have past := sound.past n
    simp only at seen
    omega

/-- The threads at a place, together with the one that starts there as long as nothing was found. -/
def atPlace (a : Automaton) (place : Cursor) (best : Option (List Mark)) (threads : Threads) :
    Threads :=
  if best.isNone then a.enter place ⟨a.start, []⟩ threads else threads

theorem atPlace_spec (descends : Descends rank a.nodes) (sound : threads.Sound a.nodes rank c [])
    (first : Prefers a.nodes c threads.found.reverse r₁)
    (onward : r₁ = none → best = none → Leftmost a c r₂) :
    (a.atPlace c best threads).Sound a.nodes rank c [] ∧
    ∃ r, Prefers a.nodes c (a.atPlace c best threads).found.reverse r ∧
      r₁.or (best.or r₂) = r.or (best.or r₂) ∧
      (r = none → best = none → (c.next? = none → r₂ = none) ∧
        ∀ x later, c.next? = some (x, later) → Leftmost a later r₂) := by
  cases best with
  | some own => exact ⟨sound, r₁, first, rfl, nofun⟩
  | none =>
      obtain ⟨sound, r, own, same, further⟩ :=
        exists_prefers_start descends sound first fun nothing => onward nothing rfl
      exact ⟨sound, r, own, same, fun nothing _ => further nothing⟩

/-- The threads at a place that go on. -/
def going (a : Automaton) (place : Cursor) (best : Option (List Mark)) (threads : Threads) :
    List Thread :=
  (a.untilAccept (a.atPlace place best threads).found.reverse).1

/-- The marks of the thread that accepts at a place, or else those that were found before. -/
def bestAt (a : Automaton) (place : Cursor) (best : Option (List Mark)) (threads : Threads) :
    Option (List Mark) :=
  ((a.untilAccept (a.atPlace place best threads).found.reverse).2.map Thread.marks).or best

/-- What is to be found is found from the threads that go on, or else it has been found, or else it
is found from a new start at the next place. -/
theorem going_spec (descends : Descends rank a.nodes) (sound : threads.Sound a.nodes rank c [])
    (first : Prefers a.nodes c threads.found.reverse r₁)
    (onward : r₁ = none → best = none → Leftmost a c r₂) :
    Readers a.nodes (a.going c best threads) ∧
    ∃ r, Prefers a.nodes c (a.going c best threads) r ∧
      r₁.or (best.or r₂) = r.or ((a.bestAt c best threads).or r₂) ∧
      (r = none → a.bestAt c best threads = none → (c.next? = none → r₂ = none) ∧
        ∀ x later, c.next? = some (x, later) → Leftmost a later r₂) := by
  obtain ⟨sound, _, own, same, further⟩ := atPlace_spec descends sound first onward
  obtain ⟨r, going, rfl⟩ := untilAccept_spec sound.waits_reverse own
  refine ⟨readers_untilAccept sound.waits_reverse, r, going, ?_, fun nothing noBest => ?_⟩
  · rw [same, bestAt, Option.or_assoc, Option.or_assoc]
  · obtain ⟨noAccepting, noBest⟩ := Option.or_eq_none_iff.mp noBest
    exact further (by rw [nothing, noAccepting]; rfl) noBest

theorem run_nil {before : Option Char} {left : Nat} {h : left = ([] : List Char).length} :
    a.run before [] left h best threads = a.bestAt ⟨before, [], left, h⟩ best threads := by
  rw [run]
  rfl

theorem run_cons {before : Option Char} {rest : List Char} {left : Nat}
    {h : left = (x :: rest).length} :
    a.run before (x :: rest) left h best threads =
      let place : Cursor := ⟨before, x :: rest, left, h⟩
      let going := a.going place best threads
      if going.isEmpty && (a.bestAt place best threads).isSome then a.bestAt place best threads
      else
        let later : Cursor := ⟨some x, rest, left - 1, Cursor.left_of_cons h⟩
        a.run (some x) rest (left - 1) later.left_eq (a.bestAt place best threads)
          ((going.filterMap (a.move? x)).foldl (fun threads t => a.enter later t threads)
            ⟨[], (a.atPlace place best threads).seen⟩) := by
  rw [run]
  rfl

/-- A run finds what is to be found from the threads that it starts with, or else what was found
before, or else what is found first from a new start. -/
theorem run_eq (descends : Descends rank a.nodes) {before : Option Char} {rest : List Char}
    {left : Nat} {h : left = rest.length}
    (sound : threads.Sound a.nodes rank ⟨before, rest, left, h⟩ [])
    (first : Prefers a.nodes ⟨before, rest, left, h⟩ threads.found.reverse r₁)
    (onward : r₁ = none → best = none → Leftmost a ⟨before, rest, left, h⟩ r₂) :
    a.run before rest left h best threads = r₁.or (best.or r₂) := by
  induction rest generalizing before left threads best r₁ r₂ with
  | nil =>
      obtain ⟨readers, r, going, same, further⟩ := going_spec descends sound first onward
      obtain rfl := going.of_atEnd readers rfl
      rw [same, run_nil, Option.none_or]
      cases found : a.bestAt ⟨before, [], left, h⟩ best threads with
      | some own => rfl
      | none => exact ((further rfl found).1 rfl).symm
  | cons x rest ih =>
      have atPlace := (atPlace_spec descends sound first onward).1
      obtain ⟨readers, r, going, same, further⟩ := going_spec descends sound first onward
      have ahead : (⟨before, x :: rest, left, h⟩ : Cursor).next? =
          some (x, ⟨some x, rest, left - 1, Cursor.left_of_cons h⟩) := rfl
      rw [same, run_cons]
      simp only
      split_ifs with stop
      · obtain ⟨noThread, found⟩ := Bool.and_eq_true_iff.mp stop
        rw [List.isEmpty_iff.mp noThread] at going
        cases going
        obtain ⟨own, found⟩ := Option.isSome_iff_exists.mp found
        rw [found]
        rfl
      · have moved := prefers_move readers ahead going
        obtain ⟨entered, later⟩ := foldl_enter_spec descends (sound_later atPlace ahead) moved
        exact ih entered later fun nothing noBest => (further nothing noBest).2 x _ ahead

/-- A search finds what backtracking finds at the first place at which it finds anything. -/
theorem search?_eq (descends : Descends rank a.nodes) {text : List Char}
    (found : Leftmost a (.start text) r) : a.search? text = r := by
  have unseen (n : Nat) : (Array.replicate a.nodes.size 0).getD n 0 = 0 := by
    simp [Array.getD]
  have fresh : Threads.Sound a.nodes rank (.start text)
      ⟨[], Array.replicate a.nodes.size 0⟩ [] := by
    refine ⟨Array.size_replicate, fun n => .inl (unseen n), nofun, fun n seen => ?_⟩
    cases (unseen n).symm.trans seen
  exact run_eq descends fresh .nil fun _ _ => found

end Automaton

end Interception.Regex
