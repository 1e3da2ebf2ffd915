/-!
# Status codes
-/

namespace Interception

/-- A status code has three digits. -/
structure Status where
  code : Nat
  three_digits : 100 ≤ code ∧ code ≤ 999
  deriving DecidableEq, Repr

namespace Status

/-- The status with a given code, if it is one. -/
def ofNat? (code : Nat) : Option Status :=
  if h : 100 ≤ code ∧ code ≤ 999 then some ⟨code, h⟩ else none

def ok : Status := ⟨200, by decide⟩

theorem ofNat?_eq_none_iff {code : Nat} : ofNat? code = none ↔ ¬(100 ≤ code ∧ code ≤ 999) := by
  simp [ofNat?]

@[simp] theorem ofNat?_code (s : Status) : ofNat? s.code = some s := by
  simp [ofNat?, s.three_digits]

end Status

end Interception
