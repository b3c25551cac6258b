import SearchKit.Value.Basic

/-!
# Keys that are the same

Being the same key is symmetric and transitive over all values, numbers of any type, tuples and
times included.  It is not reflexive: `nan` is the same key as nothing, and a map is no key at all.

* `Value.sameKey_of_numeral` : the keys that are the same as a number.
* `Value.sameKey_symm`, `Value.sameKey_trans` : **the two laws**, which are all that reading a map
  after a writing needs.
* `Value.sameKey_self_iff` : the keys that are the same as themselves.
-/

namespace SearchKit

/-! ### Numbers and times -/

theorem Binary64.same_iff {x y : Binary64} :
    x.same y = true ↔ x = y ∧ x ≠ .nan ∨ x.isZero = true ∧ y.isZero = true := by
  cases x <;> cases y <;> simp [same, isZero]

theorem Timestamp.same_iff {s t : Timestamp} :
    s.same t = true ↔ s = t ∨ ∃ m, s.instant? = some m ∧ t.instant? = some m := by
  unfold same
  cases hs : s.instant? <;> cases ht : t.instant? <;> grind

theorem Timestamp.same_symm {s t : Timestamp} (h : s.same t = true) : t.same s = true := by
  grind [Timestamp.same_iff]

theorem Timestamp.same_trans {s t u : Timestamp} (hst : s.same t = true)
    (htu : t.same u = true) : s.same u = true := by
  grind [Timestamp.same_iff]

namespace Value

theorem sameNumeral_iff {x y : Int ⊕ Binary64} : sameNumeral x y = true ↔
    (∃ n, x = .inl n ∧ y = .inl n) ∨ ∃ a b, x = .inr a ∧ y = .inr b ∧ a.same b = true := by
  cases x <;> cases y <;> grind [sameNumeral]

theorem sameNumeral_symm {x y : Int ⊕ Binary64} (h : sameNumeral x y = true) :
    sameNumeral y x = true := by
  grind [sameNumeral_iff, Binary64.same_iff]

theorem sameNumeral_trans {x y z : Int ⊕ Binary64} (hxy : sameNumeral x y = true)
    (hyz : sameNumeral y z = true) : sameNumeral x z = true := by
  grind [sameNumeral_iff, Binary64.same_iff]

/-! ### Keys -/

/-- A number is the same key as what is the same number. -/
theorem sameKey_of_numeral {a b : Value} {x : Int ⊕ Binary64} (h : a.numeral? = some x) :
    a.sameKey b = true ↔ ∃ y, b.numeral? = some y ∧ sameNumeral x y = true := by
  have hsplit : a.sameKey b = b.numeral?.elim false (sameNumeral x) := by
    cases a <;> cases h <;> rw [sameKey] <;> cases b.numeral? <;> rfl
  rw [hsplit]
  cases b.numeral? <;> simp

mutual

/-- Which of two keys comes first does not matter. -/
theorem sameKey_symm {a b : Value} (h : a.sameKey b = true) : b.sameKey a = true := by
  rcases ha : a.numeral? with _ | x
  · cases a with
    | bool | int | float => cases ha
    | tuple xs =>
      cases b with
      | tuple ys => rw [sameKey] at h ⊢; exact sameKeys_symm h
      | _ => simp [sameKey] at h
    | timestamp s =>
      cases b with
      | timestamp t => rw [sameKey] at h ⊢; exact Timestamp.same_symm h
      | _ => simp [sameKey] at h
    | _ => cases b <;> simp_all [sameKey]
  · obtain ⟨y, hy, hsame⟩ := (sameKey_of_numeral ha).1 h
    exact (sameKey_of_numeral hy).2 ⟨x, ha, sameNumeral_symm hsame⟩

theorem sameKeys_symm {xs ys : List Value} (h : sameKeys xs ys = true) :
    sameKeys ys xs = true := by
  match xs, ys with
  | [], [] => rfl
  | x :: xs, y :: ys =>
    rw [sameKeys, Bool.and_eq_true] at h ⊢
    exact ⟨sameKey_symm h.1, sameKeys_symm h.2⟩
  | [], _ :: _ | _ :: _, [] => simp [sameKeys] at h

end

mutual

/-- Keys that are the same as one key are the same as each other. -/
theorem sameKey_trans {a b c : Value} (hab : a.sameKey b = true) (hbc : b.sameKey c = true) :
    a.sameKey c = true := by
  rcases ha : a.numeral? with _ | x
  · cases a with
    | bool | int | float => cases ha
    | null =>
      cases b with
      | null => exact hbc
      | _ => simp [sameKey] at hab
    | tuple xs =>
      cases b with
      | tuple ys =>
        cases c with
        | tuple zs => rw [sameKey] at hab hbc ⊢; exact sameKeys_trans hab hbc
        | _ => simp [sameKey] at hbc
      | _ => simp [sameKey] at hab
    | timestamp s =>
      cases b with
      | timestamp t =>
        cases c with
        | timestamp u => rw [sameKey] at hab hbc ⊢; exact Timestamp.same_trans hab hbc
        | _ => simp [sameKey] at hbc
      | _ => simp [sameKey] at hab
    | record m =>
      cases b with
      | record n => cases c <;> simp_all [sameKey]
      | _ => simp [sameKey] at hab
    | keyed m =>
      cases b with
      | keyed n => cases c <;> simp_all [sameKey]
      | _ => simp [sameKey] at hab
    | list | collection | dict | model => cases b <;> simp [sameKey] at hab
    | str | source | callback | iterator =>
      -- these are the same key only as themselves
      cases b <;> simp only [sameKey, Bool.false_eq_true, beq_iff_eq] at hab
      subst hab
      exact hbc
  · obtain ⟨y, hy, hxy⟩ := (sameKey_of_numeral ha).1 hab
    obtain ⟨z, hz, hyz⟩ := (sameKey_of_numeral hy).1 hbc
    exact (sameKey_of_numeral ha).2 ⟨z, hz, sameNumeral_trans hxy hyz⟩

theorem sameKeys_trans {xs ys zs : List Value} (hxy : sameKeys xs ys = true)
    (hyz : sameKeys ys zs = true) : sameKeys xs zs = true := by
  match xs, ys, zs with
  | [], [], [] => rfl
  | x :: xs, y :: ys, z :: zs =>
    rw [sameKeys, Bool.and_eq_true] at hxy hyz ⊢
    exact ⟨sameKey_trans hxy.1 hyz.1, sameKeys_trans hxy.2 hyz.2⟩
  | [], _ :: _, _ | _ :: _, [], _ => simp [sameKeys] at hxy
  | _, [], _ :: _ | _, _ :: _, [] => simp [sameKeys] at hyz

end

mutual

/-- The value is `nan`, or a tuple that contains it. -/
def hasNan : Value → Bool
  | .float .nan => true
  | .tuple xs => anyNan xs
  | _ => false

/-- One of the values is `nan` or contains it. -/
def anyNan : List Value → Bool
  | [] => false
  | x :: xs => hasNan x || anyNan xs

end

mutual

/-- Whatever can be a key is the same key as itself, except for `nan`. -/
theorem sameKey_self_iff {k : Value} :
    k.sameKey k = true ↔ k.hashable = true ∧ k.hasNan = false := by
  cases k with
  | tuple xs => rw [sameKey, hashable, hasNan, sameKeys_self_iff]
  | timestamp t => simp [sameKey, hashable, hasNan, Timestamp.same_iff]
  | float x =>
    cases x with
    | nan => simp [sameKey, hashable, hasNan, numeral?, sameNumeral, Binary64.toInt?, Binary64.same]
    | infinite negative =>
      simp [sameKey, hashable, hasNan, numeral?, sameNumeral, Binary64.toInt?, Binary64.same]
    | finite negative m e =>
      cases h : (Binary64.finite negative m e).toInt? <;>
        simp [sameKey, hashable, hasNan, numeral?, sameNumeral, h, Binary64.same]
  | _ => simp [sameKey, hashable, hasNan, numeral?, sameNumeral]

theorem sameKeys_self_iff {xs : List Value} :
    sameKeys xs xs = true ↔ allHashable xs = true ∧ anyNan xs = false := by
  match xs with
  | [] => simp [sameKeys, allHashable, anyNan]
  | x :: xs =>
    rw [sameKeys, allHashable, anyNan, Bool.and_eq_true, Bool.and_eq_true, Bool.or_eq_false_iff,
      sameKey_self_iff, sameKeys_self_iff, and_and_and_comm]

end

theorem sameKey_congr {a b : Value} (h : a.sameKey b = true) (c : Value) :
    a.sameKey c = b.sameKey c :=
  Bool.eq_iff_iff.2 ⟨sameKey_trans (sameKey_symm h), sameKey_trans h⟩

end Value

end SearchKit
