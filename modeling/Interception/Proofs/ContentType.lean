import Interception.Proofs.Path.Percent
import Interception.Response

/-!
# Content types of responses

A content type may be set if it is a legal header value. It stays until another one is set, whatever
else is written to the response, and one that is refused changes nothing.

What has been set is reported only if it is of ASCII. A legal header value may hold other characters
as well: a response with such a content type keeps it and reports none.
-/

namespace Interception

/-! ## Header values -/

namespace Header

/-- The byte may stand in a header value: it is a tab, or no control character. -/
def IsLegalByte (byte : UInt8) : Prop := byte.toNat = 9 ∨ 32 ≤ byte.toNat ∧ byte.toNat ≠ 127

/-- A legal header value, by the bytes that are sent for it. -/
def IsLegal (text : String) : Prop := ∀ byte ∈ Percent.utf8 text.toList, IsLegalByte byte

/-- Bytes of characters beyond ASCII are all legal. -/
theorem forall_isLegalByte_iff (c : Char) :
    (∀ byte ∈ String.utf8EncodeChar c, IsLegalByte byte) ↔
      c.toNat = 9 ∨ 32 ≤ c.toNat ∧ c.toNat ≠ 127 := by
  by_cases ascii : c.toNat < 128
  · have value : (UInt8.ofNat c.toNat).toNat = c.toNat := by
      rw [UInt8.toNat_ofNat']
      omega
    simp only [Percent.utf8EncodeChar_of_lt ascii, List.mem_singleton, forall_eq, IsLegalByte,
      value]
  · refine iff_of_true (fun byte mem => ?_) (by omega)
    have large := Percent.le_of_mem_utf8EncodeChar (Nat.le_of_not_lt ascii) mem
    exact .inr (by omega)

theorem eq_tab_iff (c : Char) : c = '\t' ↔ c.toNat = 9 :=
  ⟨fun h => h ▸ rfl, fun h => Char.toNat_inj.mp h⟩

theorem isValue_iff {text : String} : isValue text = true ↔ IsLegal text := by
  simp only [isValue, IsLegal, Percent.utf8, List.all_eq_true, List.forall_mem_flatMap,
    forall_isLegalByte_iff, Bool.or_eq_true, Bool.and_eq_true, beq_iff_eq, bne_iff_ne,
    decide_eq_true_eq, eq_tab_iff]

/-- Of the legal values those of ASCII read back. -/
theorem isReadable_iff {value : String} :
    isReadable value = true ↔ IsLegal value ∧ ∀ c ∈ value.toList, c.toNat < 128 := by
  have printable (c : Char) :
      c.toNat = 9 ∨ 32 ≤ c.toNat ∧ c.toNat < 127 ↔
        (c.toNat = 9 ∨ 32 ≤ c.toNat ∧ c.toNat ≠ 127) ∧ c.toNat < 128 := by
    omega
  rw [← isValue_iff]
  simp only [isReadable, isValue, List.all_eq_true, Bool.or_eq_true, Bool.and_eq_true, beq_iff_eq,
    bne_iff_ne, decide_eq_true_eq, eq_tab_iff, printable, forall_and]

end Header

/-! ## Calls that write -/

namespace Response

theorem setContentType_of_legal {text : String} (legal : Header.IsLegal text) (r : Response) :
    r.setContentType text = (.ok (), { r with contentTypeHeader := some text }) :=
  if_pos (Header.isValue_iff.mpr legal)

theorem setContentType_of_illegal {text : String} (illegal : ¬ Header.IsLegal text)
    (r : Response) : r.setContentType text = (.error illegalHeader, r) :=
  if_neg (Header.isValue_iff.not.mpr illegal)

/-- A call that writes to a response. -/
inductive Write where
  | status (status : Status)
  | contentType (text : String)
  | body (chunk : ByteArray)

/-- What a call returns, and the response after it. -/
def Write.run : Write → Response → Except Failure Unit × Response
  | status code, r => (.ok (), r.setStatus code)
  | contentType text, r => r.setContentType text
  | body chunk, r => (.ok (), r.write chunk)

/-- The response after some calls. One that fails does not keep the next from being made. -/
def after (r : Response) : List Write → Response
  | [] => r
  | w :: writes => (w.run r).2.after writes

/-- Some calls, each with what it returns when they are made one after the other. -/
def returns (r : Response) : List Write → List (Write × Except Failure Unit)
  | [] => []
  | w :: writes => (w, (w.run r).1) :: (w.run r).2.returns writes

/-- The content type that is set by a call with what it returned. -/
def Write.accepted? : Write × Except Failure Unit → Option String
  | (contentType text, .ok ()) => some text
  | _ => none

theorem contentTypeHeader_run (w : Write) (r : Response) :
    (w.run r).2.contentTypeHeader =
      (Write.accepted? (w, (w.run r).1)).or r.contentTypeHeader := by
  cases w with
  | status code => rfl
  | body chunk => rfl
  | contentType text =>
      by_cases legal : Header.IsLegal text
      · rw [Write.run, setContentType_of_legal legal]
        rfl
      · rw [Write.run, setContentType_of_illegal legal]
        rfl

/-- The content type of a response is the last one that was set. -/
theorem contentTypeHeader_after (r : Response) (writes : List Write) :
    (r.after writes).contentTypeHeader =
      ((r.returns writes).filterMap Write.accepted?).getLast?.or r.contentTypeHeader := by
  induction writes generalizing r with
  | nil => rfl
  | cons w writes ih =>
      rw [after, ih, contentTypeHeader_run, returns, List.filterMap_cons, ← Option.or_assoc]
      cases Write.accepted? (w, (w.run r).1) with
      | none => simp
      | some text => simp [List.getLast?_cons]

/-- A content type stays through calls none of which sets another one. -/
theorem contentTypeHeader_after_of_forall {r : Response} {writes : List Write}
    (kept : ∀ other, (.contentType other, .ok ()) ∉ r.returns writes) :
    (r.after writes).contentTypeHeader = r.contentTypeHeader := by
  have unset : (r.returns writes).filterMap Write.accepted? = [] := by
    refine List.filterMap_eq_nil_iff.mpr ?_
    rintro ⟨w, result⟩ made
    match w, result, made with
    | .contentType text, .ok (), made => exact absurd made (kept text)
    | .contentType _, .error _, _ => rfl
    | .status _, _, _ => rfl
    | .body _, _, _ => rfl
  rw [contentTypeHeader_after, unset]
  rfl

/-- A legal content type is reported if it is of ASCII, and if it is not, none is. -/
theorem contentType?_of_header {r : Response} {text : String} (legal : Header.IsLegal text)
    (header : r.contentTypeHeader = some text) :
    ((∀ c ∈ text.toList, c.toNat < 128) → r.contentType? = some text) ∧
      ((∃ c ∈ text.toList, 128 ≤ c.toNat) → r.contentType? = none) := by
  rw [contentType?, header]
  constructor
  · intro ascii
    exact Option.filter_some_pos (Header.isReadable_iff.mpr ⟨legal, ascii⟩)
  · rintro ⟨c, mem, beyond⟩
    refine Option.filter_some_neg (Bool.eq_false_iff.mpr fun readable => ?_)
    exact absurd ((Header.isReadable_iff.mp readable).2 c mem) (Nat.not_lt.mpr beyond)

/-- A content type is set exactly if it is a legal header value. Until another one is set, whatever
else is written, the response then reports it if it is of ASCII, and reports none if it is not. One
that is refused leaves the response as it was. -/
theorem setContentType_roundTrip (r : Response) (text : String) :
    let outcome := r.setContentType text
    (outcome.1 = .ok () ↔ Header.IsLegal text) ∧
      (outcome.1 = .ok () → ∀ writes : List Write,
        (∀ other, (.contentType other, .ok ()) ∉ outcome.2.returns writes) →
          ((∀ c ∈ text.toList, c.toNat < 128) →
            (outcome.2.after writes).contentType? = some text) ∧
          ((∃ c ∈ text.toList, 128 ≤ c.toNat) →
            (outcome.2.after writes).contentType? = none)) ∧
      ∀ e, outcome.1 = .error e → outcome.2 = r := by
  intro outcome
  by_cases legal : Header.IsLegal text
  · have accepted : outcome = (.ok (), { r with contentTypeHeader := some text }) :=
      setContentType_of_legal legal r
    refine ⟨iff_of_true (congrArg Prod.fst accepted) legal, fun _ writes kept => ?_, ?_⟩
    · refine contentType?_of_header legal ?_
      rw [contentTypeHeader_after_of_forall kept, accepted]
    · intro e refused
      rw [accepted] at refused
      cases refused
  · have refused : outcome = (.error illegalHeader, r) := setContentType_of_illegal legal r
    have failed : outcome.1 ≠ .ok () := by
      rw [refused]
      exact nofun
    exact ⟨iff_of_false failed legal, fun ok => absurd ok failed,
      fun _ _ => congrArg Prod.snd refused⟩

theorem setContentType_roundTrip_charset :
    let r := fresh.after [.status ⟨201, by decide⟩, .body "hello ".toUTF8]
    let typed := (r.setContentType "text/plain; charset=utf-8").2
    let later := typed.after [.contentType "text/html\n", .body "world".toUTF8]
    (r.setContentType "text/plain; charset=utf-8").1 = .ok () ∧
      later.contentType? = some "text/plain; charset=utf-8" ∧ later.bytes = "hello world".toUTF8 ∧
      (typed.setContentType "text/html\n").2 = typed := by
  intro r typed later
  have accepted : (r.setContentType "text/plain; charset=utf-8").1 = .ok () := rfl
  obtain ⟨-, reported, -⟩ := setContentType_roundTrip r "text/plain; charset=utf-8"
  obtain ⟨-, -, unchanged⟩ := setContentType_roundTrip typed "text/html\n"
  have others (other : String) :
      (.contentType other, .ok ()) ∉
        typed.returns [.contentType "text/html\n", .body "world".toUTF8] := by
    rintro (_ | ⟨_, _ | ⟨_, ⟨⟩⟩⟩)
  have ascii : ∀ c ∈ "text/plain; charset=utf-8".toList, c.toNat < 128 := by simp
  exact ⟨accepted, (reported accepted _ others).1 ascii, rfl, unchanged illegalHeader rfl⟩

/-- A content type with a character beyond ASCII is set and then not reported. -/
theorem setContentType_accented :
    let outcome := fresh.setContentType "text/plain; title=é"
    outcome.1 = .ok () ∧ outcome.2.contentTypeHeader = some "text/plain; title=é" ∧
      outcome.2.contentType? = none :=
  ⟨rfl, rfl, rfl⟩

end Response

end Interception
