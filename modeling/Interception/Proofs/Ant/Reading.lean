import Interception.Proofs.Ant.Elements
import Mathlib.Data.List.Basic

/-!
# Reading tokens

What a token of a pattern says, without a reader: its elements are written one behind the other, a
character and a wildcard as themselves, and a variable in braces. Braces within the braces are
balanced, and a name goes on to the first colon. A token is written by one row of elements at most,
the row that is read from it.
-/

namespace Interception.Ant

/-- Whether braces are balanced in a text in front of which so many are open: none is closed that is
not open, and all are closed in the end. -/
def balancedFrom : Nat → List Char → Bool
  | depth, [] => depth == 0
  | depth, c :: rest =>
    if c = '\x7b' then balancedFrom (depth + 1) rest
    else if c = '\x7d' then 0 < depth && balancedFrom (depth - 1) rest
    else balancedFrom depth rest

namespace Element

/-- The text between the braces of a variable. -/
def body (name : List Char) : Option (List Char) → List Char
  | none => name
  | some constraint => name ++ ':' :: constraint

/-- The text that writes the element in a token. -/
def writing : Element → List Char
  | text c => [c]
  | anyChar => ['?']
  | anyRun => ['*']
  | placeholder name constraint => '\x7b' :: (body name constraint ++ ['\x7d'])

/-- Whether the text that writes the element is read as this element: a character is no sign, a name
has no colon in it, and the braces of a variable are balanced. -/
def IsWritable : Element → Prop
  | text c => c ≠ '\x7b' ∧ c ≠ '*' ∧ c ≠ '?'
  | anyChar => True
  | anyRun => True
  | placeholder name constraint => balancedFrom 0 (body name constraint) = true ∧ ':' ∉ name

instance : DecidablePred IsWritable
  | text c => inferInstanceAs (Decidable (c ≠ '\x7b' ∧ c ≠ '*' ∧ c ≠ '?'))
  | anyChar => inferInstanceAs (Decidable True)
  | anyRun => inferInstanceAs (Decidable True)
  | placeholder name constraint =>
    inferInstanceAs (Decidable (balancedFrom 0 (body name constraint) = true ∧ ':' ∉ name))

end Element

/-- The elements write the token. -/
structure Writes (elements : List Element) (token : List Char) : Prop where
  writable : ∀ element ∈ elements, element.IsWritable
  written : elements.flatMap Element.writing = token

variable {element : Element} {elements : List Element} {token : List Char}

theorem Writes.nil : Writes [] [] := ⟨by simp, rfl⟩

theorem Writes.cons (own : element.IsWritable) (rest : Writes elements token) :
    Writes (element :: elements) (element.writing ++ token) where
  writable := List.forall_mem_cons.mpr ⟨own, rest.writable⟩
  written := by rw [List.flatMap_cons, rest.written]

/-! ## Variables -/

theorem body_cons (c : Char) (name : List Char) (constraint : Option (List Char)) :
    Element.body (c :: name) constraint = c :: Element.body name constraint := by
  cases constraint <;> rfl

theorem splitColon_body {name : List Char} (h : ':' ∉ name) (constraint : Option (List Char)) :
    splitColon (Element.body name constraint) = (name, constraint) := by
  induction name with
  | nil => cases constraint <;> rfl
  | cons c name ih =>
      obtain ⟨ne, others⟩ := not_or.mp (List.mem_cons.not.mp h)
      rw [body_cons, splitColon, if_neg (Ne.symm ne), ih others]

theorem body_splitColon (text : List Char) :
    ':' ∉ (splitColon text).1 ∧ Element.body (splitColon text).1 (splitColon text).2 = text := by
  induction text with
  | nil => exact ⟨List.not_mem_nil, rfl⟩
  | cons c text ih =>
      rw [splitColon]
      split_ifs with colon
      · exact ⟨List.not_mem_nil, colon ▸ rfl⟩
      · obtain ⟨others, own⟩ := ih
        refine ⟨List.not_mem_cons_of_ne_of_not_mem (Ne.symm colon) others, ?_⟩
        rw [body_cons, own]

theorem ofBody_body {name : List Char} (h : ':' ∉ name) (constraint : Option (List Char)) :
    Element.ofBody (Element.body name constraint) = .placeholder name constraint := by
  rw [Element.ofBody, splitColon_body h]

/-- Any balanced text between braces writes a variable. -/
theorem writing_ofBody {text : List Char} (h : balancedFrom 0 text = true) :
    (Element.ofBody text).IsWritable ∧
      (Element.ofBody text).writing = '\x7b' :: (text ++ ['\x7d']) := by
  obtain ⟨noColon, own⟩ := body_splitColon text
  rw [Element.ofBody, Element.IsWritable, Element.writing, own]
  exact ⟨⟨h, noColon⟩, rfl⟩

/-- A reader that is inside of a variable goes on to the brace that closes it. -/
theorem readElements_inside {name : List Char} {depth : Nat} (h : balancedFrom depth name = true)
    (body rest : List Char) :
    readElements (.inside depth body) (name ++ '\x7d' :: rest) =
      (readElements .outside rest).map (Element.ofBody (body.reverse ++ name) :: ·) := by
  induction name generalizing depth body with
  | nil =>
      obtain rfl : depth = 0 := by simpa [balancedFrom] using h
      rw [List.nil_append, List.append_nil, readElements]
  | cons c name ih =>
      have shift : body.reverse ++ c :: name = (c :: body).reverse ++ name := by simp
      rw [shift, List.cons_append]
      rw [balancedFrom] at h
      split_ifs at h with opens closes
      · rw [opens, readElements]
        exact ih h _
      · obtain ⟨isOpen, h⟩ := Bool.and_eq_true_iff.mp h
        obtain ⟨depth, rfl⟩ := Nat.exists_eq_add_one.mpr (of_decide_eq_true isOpen)
        rw [closes, readElements]
        exact ih h _
      · rw [readElements]
        · exact ih h _
        · exact opens
        · exact fun eq => absurd eq closes
        · exact fun _ eq => absurd eq closes

/-! ## Whole tokens -/

/-- Reading a token gives back the elements that wrote it. -/
theorem readElements_of_writes (h : Writes elements token) :
    readElements .outside token = .ok elements := by
  obtain ⟨writable, rfl⟩ := h
  induction elements with
  | nil => rfl
  | cons element elements ih =>
      obtain ⟨own, others⟩ := List.forall_mem_cons.mp writable
      have rest := ih others
      rw [List.flatMap_cons]
      cases element with
      | text c =>
          obtain ⟨brace, star, mark⟩ := own
          rw [Element.writing, List.singleton_append, readElements, rest]
          · rfl
          · exact mark
          · exact star
          · exact brace
      | anyChar =>
          rw [Element.writing, List.singleton_append, readElements, rest]
          rfl
      | anyRun =>
          rw [Element.writing, List.singleton_append, readElements, rest]
          rfl
      | placeholder name constraint =>
          obtain ⟨balanced, noColon⟩ := own
          rw [Element.writing, List.cons_append, List.append_assoc, List.singleton_append,
            readElements, readElements_inside balanced, rest, List.reverse_nil, List.nil_append,
            ofBody_body noColon]
          rfl

/-- What is read from a place in a token: outside of braces the elements that write it, and inside a
variable, up to where its braces are balanced, and then such elements. -/
def ReadsFrom : Place → List Element → List Char → Prop
  | .outside, elements, token => Writes elements token
  | .inside depth read, elements, token =>
    ∃ text rest others, token = text ++ '\x7d' :: rest ∧ balancedFrom depth text = true ∧
      Writes others rest ∧ elements = Element.ofBody (read.reverse ++ text) :: others

/-- Inside of a variable, one more character is read into its text. -/
theorem ReadsFrom.inside_cons {depth depth' : Nat} {read : List Char} {c : Char}
    (h : ReadsFrom (.inside depth' (c :: read)) elements token)
    (balanced : ∀ text, balancedFrom depth (c :: text) = balancedFrom depth' text) :
    ReadsFrom (.inside depth read) elements (c :: token) := by
  obtain ⟨text, rest, others, rfl, own, writes, rfl⟩ := h
  refine ⟨c :: text, rest, others, rfl, (balanced text).trans own, writes, ?_⟩
  rw [List.reverse_cons, List.append_assoc, List.singleton_append]

theorem exists_of_map_eq_ok {rest : Except Fault (List Element)}
    (h : rest.map (element :: ·) = .ok elements) :
    ∃ others, rest = .ok others ∧ elements = element :: others := by
  cases rest with
  | error fault => cases h
  | ok others => exact ⟨others, rfl, (Except.ok.inj h).symm⟩

theorem readsFrom_of_readElements {place : Place} (h : readElements place token = .ok elements) :
    ReadsFrom place elements token := by
  fun_induction readElements place token generalizing elements with
  | case1 =>
      obtain rfl := Except.ok.inj h
      exact .nil
  | case2 => cases h
  | case3 rest ih =>
      obtain ⟨others, own, rfl⟩ := exists_of_map_eq_ok h
      exact .cons trivial (ih own)
  | case4 rest ih =>
      obtain ⟨others, own, rfl⟩ := exists_of_map_eq_ok h
      exact .cons trivial (ih own)
  | case5 rest ih =>
      obtain ⟨text, rest, others, rfl, balanced, writes, rfl⟩ := ih h
      obtain ⟨writable, written⟩ := writing_ofBody balanced
      have both := Writes.cons writable writes
      rwa [written, List.cons_append, List.append_assoc, List.singleton_append] at both
  | case6 rest c mark star brace ih =>
      obtain ⟨others, own, rfl⟩ := exists_of_map_eq_ok h
      exact Writes.cons ⟨brace, star, mark⟩ (ih own)
  | case7 read rest depth ih => exact (ih h).inside_cons fun text => rfl
  | case8 read rest ih =>
      obtain ⟨others, own, rfl⟩ := exists_of_map_eq_ok h
      exact ⟨[], rest, others, rfl, rfl, ih own, by rw [List.append_nil]⟩
  | case9 read rest depth ih => exact (ih h).inside_cons fun text => rfl
  | case10 read rest c depth opens closes closes' ih =>
      have brace : c ≠ '\x7d' := by
        intro eq
        cases depth with
        | zero => exact closes eq rfl
        | succ depth => exact closes' depth eq rfl
      exact (ih h).inside_cons fun text => by rw [balancedFrom, if_neg opens, if_neg brace]

/-- The elements that are read from a token are those that write it. -/
theorem readElements_eq_ok_iff :
    readElements .outside token = .ok elements ↔ Writes elements token :=
  ⟨readsFrom_of_readElements, readElements_of_writes⟩

/-- A token is written by one row of elements at most. -/
theorem Writes.unique {others : List Element} (h : Writes elements token)
    (h' : Writes others token) : others = elements :=
  Except.ok.inj ((readElements_of_writes h').symm.trans (readElements_of_writes h))

end Interception.Ant
