import SearchKit.Proofs.Call.Typing
import SearchKit.Proofs.Number.Range

/-!
# Conversion between scalar types

A value that does not convert to a scalar type is meant to pass through as it is.  Three kinds of
values do not: an infinity where an integer is declared, an integer beyond the binary64 range where
a number is, and a text with too deeply nested JSON where a map is.  These are refused.  And where a
map is declared, a text that holds JSON of another kind becomes a value of that kind, which is
neither the text nor a map.

Conversion goes position by position, so that it goes well exactly if it does at each scalar
position, and the rest is about scalar conversions alone.

* `TypeExpr.AllScalars`, `TypeExpr.Positionwise` : what holds at every scalar position of a value,
  and of a value and its result.
* `TypeExpr.positionwise_and_iff`, `TypeExpr.exists_positionwise_iff` : positions one by one.
* `convertIn_eq_lift`, `convert_eq_ok_iff` : conversion is scalar conversion at each position.
* `OutOfReach`, `Mistaken`, `Coerced` : the three things that a scalar conversion can come to, with
  `convertScalar_outcome`.
* **`convertIn_scalars`** : when a conversion goes well, and when it keeps or coerces.
-/

namespace SearchKit

open Act

variable {t u : TypeExpr} {v w : Value} {R : TypeExpr → Value → Value → Prop}

/-! ### Scalar positions -/

/-- The types that values are converted between. -/
inductive TypeExpr.IsScalar : TypeExpr → Prop where
  | int : IsScalar .int
  | float : IsScalar .float
  | str : IsScalar .str
  | bool : IsScalar .bool
  | dict : IsScalar .dict

/-- A scalar type, also made optional or as the type of the items of a list or the values of a
map. -/
inductive TypeExpr.OfScalars : TypeExpr → Prop where
  | scalar {u : TypeExpr} (hu : u.IsScalar) : OfScalars u
  | optional {t : TypeExpr} (h : OfScalars t) : OfScalars (.optional t)
  | listOf {t : TypeExpr} (h : OfScalars t) : OfScalars (.listOf t)
  | dictOf (k : TypeExpr) {t : TypeExpr} (h : OfScalars t) : OfScalars (.dictOf k t)

/-- What is said of a scalar type and a value holds at every scalar position. -/
def TypeExpr.AllScalars (P : TypeExpr → Value → Prop) : TypeExpr → Value → Prop
  | .optional t, v => AllScalars P t v
  | .listOf t, v => ∀ xs, v.asList? = some xs → ∀ x ∈ xs, AllScalars P t x
  | .dictOf _ t, v => ∀ es, v = .dict es → ∀ e ∈ es, AllScalars P t e.2
  | u, v => P u v

/-- A value and its result have the same items and keys, and what is said of a scalar type, a value
and its result holds at every scalar position. -/
def TypeExpr.Positionwise (R : TypeExpr → Value → Value → Prop) : TypeExpr → Value → Value → Prop
  | .optional t, v, w => Positionwise R t v w
  | .listOf t, v, w => match v.asList? with
    | some xs => ∃ ys, w = .list ys ∧ List.Forall₂ (Positionwise R t) xs ys
    | Option.none => w = v
  | .dictOf _ t, v, w => match v with
    | .dict es => ∃ fs, w = .dict fs ∧
        List.Forall₂ (fun e f => f.1 = e.1 ∧ Positionwise R t e.2 f.2) es fs
    | v => w = v
  | u, v, w => R u v w

namespace TypeExpr

theorem IsScalar.settleType_eq (hu : u.IsScalar) (v : Value) : settleType u v = pure v := by
  cases hu <;> rfl

theorem IsScalar.convert_eq (hu : u.IsScalar) (v : Value) : convert u v = convertScalar u v := by
  cases hu <;> rfl

theorem IsScalar.allScalars_iff {P : TypeExpr → Value → Prop} (hu : u.IsScalar) :
    u.AllScalars P v ↔ P u v := by
  cases hu <;> rfl

theorem IsScalar.positionwise_iff (hu : u.IsScalar) : u.Positionwise R v w ↔ R u v w := by
  cases hu <;> rfl

section

variable {S : TypeExpr → Value → Value → Prop} {P Q : TypeExpr → Value → Prop} (ht : t.OfScalars)
include ht

theorem allScalars_congr (h : ∀ u, u.IsScalar → ∀ x, P u x ↔ Q u x) :
    t.AllScalars P v ↔ t.AllScalars Q v := by
  induction ht generalizing v with
  | scalar hu => rw [hu.allScalars_iff, hu.allScalars_iff, h _ hu]
  | optional _ ih => exact ih
  | listOf _ ih => simp only [AllScalars, ih]
  | dictOf k _ ih => simp only [AllScalars, ih]

/-- Two relations hold position by position when they hold together. -/
theorem positionwise_and_iff :
    t.Positionwise (fun u x y => R u x y ∧ S u x y) v w ↔
      t.Positionwise R v w ∧ t.Positionwise S v w := by
  induction ht generalizing v w with
  | scalar hu => simp only [hu.positionwise_iff]
  | optional _ ih => exact ih
  | listOf _ ih =>
    simp only [Positionwise]
    rcases hv : v.asList? with _ | xs
    · exact (and_self_iff).symm
    · constructor
      · rintro ⟨ys, rfl, h⟩
        obtain ⟨hr, hs⟩ := forall₂_and_iff.1 (h.imp fun _ _ => ih.1)
        exact ⟨⟨ys, rfl, hr⟩, ys, rfl, hs⟩
      · rintro ⟨⟨ys, rfl, hr⟩, _, ⟨⟩, hs⟩
        exact ⟨ys, rfl, (forall₂_and_iff.2 ⟨hr, hs⟩).imp fun _ _ => ih.2⟩
  | dictOf k _ ih =>
    simp only [Positionwise]
    cases v with
    | dict es =>
      simp only [ih]
      constructor
      · rintro ⟨fs, rfl, h⟩
        exact ⟨⟨fs, rfl, h.imp fun _ _ h => ⟨h.1, h.2.1⟩⟩, fs, rfl,
          h.imp fun _ _ h => ⟨h.1, h.2.2⟩⟩
      · rintro ⟨⟨fs, rfl, hr⟩, _, ⟨⟩, hs⟩
        exact ⟨fs, rfl, (forall₂_and_iff.2 ⟨hr, hs⟩).imp fun _ _ h => ⟨h.1.1, h.1.2, h.2.2⟩⟩
    | _ => exact (and_self_iff).symm

/-- There is a result when there is one for each scalar position. -/
theorem exists_positionwise_iff :
    (∃ w, t.Positionwise R v w) ↔ t.AllScalars (fun u x => ∃ y, R u x y) v := by
  induction ht generalizing v with
  | scalar hu => simp only [hu.allScalars_iff, hu.positionwise_iff]
  | optional _ ih => exact ih
  | @listOf t _ ih =>
    simp only [Positionwise, AllScalars, ← ih]
    rcases hv : v.asList? with _ | xs
    · simp
    · simp only [Option.some_inj, forall_eq', ← exists_forall₂_iff]
      exact ⟨fun ⟨_, ys, _, h⟩ => ⟨ys, h⟩, fun ⟨ys, h⟩ => ⟨.list ys, ys, rfl, h⟩⟩
  | @dictOf k t _ ih =>
    simp only [Positionwise, AllScalars, ← ih]
    cases v with
    | dict es =>
      simp only [Value.dict.injEq, forall_eq']
      rw [← exists_forall₂_values_iff (R := t.Positionwise R)]
      exact ⟨fun ⟨_, fs, _, h⟩ => ⟨fs, h⟩, fun ⟨fs, h⟩ => ⟨.dict fs, fs, rfl, h⟩⟩
    | _ => simp

end

end TypeExpr

/-! ### Conversion position by position -/

/-- Settling has no part in the conversion to a type of scalars: it makes lists plain and reads
nothing. -/
theorem TypeExpr.OfScalars.exists_settled (ht : t.OfScalars) (v : Value) :
    ∃ x, settleType t v = pure x ∧ convert t x = convert t v := by
  induction ht generalizing v with
  | scalar hu => exact ⟨v, hu.settleType_eq v, rfl⟩
  | optional _ ih => exact ih v
  | listOf _ ih =>
    rcases hv : v.asList? with _ | xs
    · exact ⟨v, by rw [settleType, hv], rfl⟩
    · obtain ⟨ys, hys⟩ := exists_forall₂_iff.2 fun x (_ : x ∈ xs) => ih x
      refine ⟨.list ys, ?_, ?_⟩
      · exact settleType_listOf hv (hys.imp fun _ _ h => h.1)
      · rw [convert, convert, convertItems_of_some rfl, convertItems_of_some hv,
          mapM_congr_of_forall₂ (hys.imp fun _ _ h => h.2.symm)]
  | @dictOf k t _ ih =>
    cases v with
    | dict es =>
      obtain ⟨fs, hfs⟩ := (exists_forall₂_values_iff
        (R := fun v x => settleType t v = pure x ∧ convert t x = convert t v)).2
        fun e (_ : e ∈ es) => ih e.2
      refine ⟨.dict fs, settleType_dictOf (hfs.imp fun _ _ h => ⟨h.1, h.2.1⟩), ?_⟩
      have hvalues : List.Forall₂ (fun e f => (do return (e.1, ← convert t e.2)) =
          (do return (f.1, ← convert t f.2) : Except Fault (Value × Value))) es fs :=
        hfs.imp fun e f h => by rw [h.1, h.2.2]
      rw [convert, convert, convertValues_dict, convertValues_dict, ← mapM_congr_of_forall₂ hvalues]
    | _ => exact ⟨_, rfl, rfl⟩

theorem convertIn_eq_lift (ht : t.OfScalars) (v : Value) : convertIn t v = liftM (convert t v) := by
  obtain ⟨x, hx, hconvert⟩ := ht.exists_settled v
  rw [convertIn, hx, pure_bind, hconvert]

/-- The conversion to a type of scalars is the scalar conversion at each scalar position. -/
theorem convert_eq_ok_iff (ht : t.OfScalars) :
    convert t v = .ok w ↔ t.Positionwise (fun u x y => convertScalar u x = .ok y) v w := by
  induction ht generalizing v w with
  | scalar hu => rw [hu.convert_eq, hu.positionwise_iff]
  | optional _ ih => exact ih
  | listOf _ ih =>
    rw [convert, TypeExpr.Positionwise]
    rcases hv : v.asList? with _ | xs
    · rw [convertItems_of_none hv, Except.ok.injEq, eq_comm]
    · simp only [convertItems_eq_ok_iff hv, ih, and_comm]
  | dictOf k _ ih =>
    cases v with
    | dict es =>
      simp only [convert, TypeExpr.Positionwise, convertValues_dict_eq_ok_iff, ih, and_comm]
    | _ =>
      simp only [convert, TypeExpr.Positionwise, convertValues, Except.ok.injEq]
      exact eq_comm

/-! ### Scalar conversions -/

/-- No value of the type can be made, and the value is not handed on either: an infinity as an
integer, an integer beyond the range as a number, a text with too deeply nested JSON as a map. -/
def OutOfReach : TypeExpr → Value → Prop
  | .int, .float (.infinite _) => True
  | .float, .int n => Binary64.rangeBound ≤ n.natAbs
  | .dict, .str s => Json.read s (some maxDigits) = .error .tooDeep
  | _, _ => False

/-- A value of another type is made: from a text in the place of a map, what it holds as JSON. -/
def Mistaken : TypeExpr → Value → Prop
  | .dict, .str s => ∃ x, Json.read s (some maxDigits) = .ok x ∧ x ≠ .str s ∧ x.isDict = false
  | _, _ => False

/-- The value itself, or a value of the type. -/
def Coerced (u : TypeExpr) (v w : Value) : Prop := w = v ∨ HasType u w

/-- What a scalar conversion can come to, and when. -/
inductive ScalarOutcome (u : TypeExpr) (v : Value) : Except Fault Value → Prop where
  | refused (hreach : OutOfReach u v) (fault : Fault) : ScalarOutcome u v (.error fault)
  | mistaken {w : Value} (hreach : ¬ OutOfReach u v) (hmistaken : Mistaken u v)
      (hw : ¬ Coerced u v w) : ScalarOutcome u v (.ok w)
  | coerced {w : Value} (hreach : ¬ OutOfReach u v) (hmistaken : ¬ Mistaken u v)
      (hw : Coerced u v w) : ScalarOutcome u v (.ok w)

theorem convertToInt_outcome (v : Value) : ScalarOutcome .int v (convertToInt v) := by
  cases v with
  | str s =>
    rw [convertToInt]
    cases readInteger s with
    | ok n => exact .coerced id id (.inr (.int n))
    | error _ => exact .coerced id id (.inl rfl)
  | float x =>
    cases x with
    | infinite negative =>
      have hreach : OutOfReach .int (.float (.infinite negative)) := trivial
      exact .refused hreach _
    | nan => exact .coerced id id (.inl rfl)
    | finite _ _ _ => exact .coerced id id (.inr (.int _))
  | _ => exact .coerced id id (.inl rfl)

theorem convertToFloat_outcome (v : Value) : ScalarOutcome .float v (convertToFloat v) := by
  cases v with
  | str s =>
    rw [convertToFloat]
    cases readDecimal? s with
    | some x => exact .coerced id id (.inr (.float x))
    | none => exact .coerced id id (.inl rfl)
  | int n =>
    rw [convertToFloat]
    cases hn : Binary64.ofInt? n with
    | some x =>
      have hreach : ¬ OutOfReach .float (.int n) := fun h => by
        rw [Binary64.ofInt?_eq_none_iff.2 h] at hn
        cases hn
      exact .coerced hreach id (.inr (.float x))
    | none =>
      have hreach : OutOfReach .float (.int n) := Binary64.ofInt?_eq_none_iff.1 hn
      exact .refused hreach _
  | bool b => exact .coerced id id (.inr (.float _))
  | _ => exact .coerced id id (.inl rfl)

theorem convertToStr_coerced (v : Value) : Coerced .str v (convertToStr v) := by
  cases v with
  | int n =>
    rw [convertToStr]
    split
    · exact .inr (.str _)
    · exact .inl rfl
  | float x => exact .inr (.str _)
  | bool b => exact .inr (.str _)
  | _ => exact .inl rfl

theorem convertToDict_outcome (s : String) : ScalarOutcome .dict (.str s) (convertToDict s) := by
  rw [convertToDict]
  cases hread : Json.read s (some maxDigits) with
  | ok x =>
    have hreach : ¬ OutOfReach .dict (.str s) := by simp [OutOfReach, hread]
    by_cases hx : x = .str s
    · exact .coerced hreach (by simp [Mistaken, hread, hx]) (.inl hx)
    cases hdict : x.isDict with
    | true =>
      cases x with
      | dict es => exact .coerced hreach (by simp [Mistaken, hread, hdict]) (.inr (.dict es))
      | _ => cases hdict
    | false =>
      refine .mistaken hreach ⟨x, hread, hx, hdict⟩ ?_
      rintro (hsame | hdict')
      · exact hx hsame
      · cases hdict'
        cases hdict
  | error fault =>
    cases fault with
    | tooDeep =>
      have hreach : OutOfReach .dict (.str s) := hread
      exact .refused hreach _
    | _ => exact .coerced (by simp [OutOfReach, hread]) (by simp [Mistaken, hread]) (.inl rfl)

theorem convertScalar_outcome (hu : u.IsScalar) (v : Value) :
    ScalarOutcome u v (convertScalar u v) := by
  cases hu with
  | int => exact convertToInt_outcome v
  | float => exact convertToFloat_outcome v
  | str => exact .coerced (by simp [OutOfReach]) id (convertToStr_coerced v)
  | bool =>
    cases v with
    | str s => exact .coerced id id (.inr (.bool _))
    | _ => exact .coerced id id (.inl rfl)
  | dict =>
    cases v with
    | str s => exact convertToDict_outcome s
    | _ => exact .coerced id id (.inl rfl)

theorem exists_convertScalar_iff (hu : u.IsScalar) :
    (∃ w, convertScalar u v = .ok w) ↔ ¬ OutOfReach u v := by
  have h := convertScalar_outcome hu v
  generalize convertScalar u v = result at h ⊢
  cases h with
  | refused hreach fault => simp [hreach]
  | mistaken hreach => simp [hreach]
  | coerced hreach => simp [hreach]

theorem exists_convertScalar_coerced_iff (hu : u.IsScalar) :
    (∃ w, convertScalar u v = .ok w ∧ Coerced u v w) ↔ ¬ OutOfReach u v ∧ ¬ Mistaken u v := by
  have h := convertScalar_outcome hu v
  generalize convertScalar u v = result at h ⊢
  cases h with
  | refused hreach fault => simp [hreach]
  | mistaken hreach hmistaken hw => simp [hreach, hmistaken, hw]
  | coerced hreach hmistaken hw => simp [hreach, hmistaken, hw]

/-! ### The conversion -/

/-- **Conversion to a type of scalars.**  It leaves the session alone.  It goes well exactly if no
scalar position is out of reach, and then it keeps each value or makes one of the type exactly if no
text in the place of a map holds another kind of JSON. -/
theorem convertIn_scalars (ht : t.OfScalars) (v : Value) (s : Session) :
    ((convertIn t v).outcome s).2 = s ∧
      ((∃ w, (convertIn t v).outcome s = (.ok w, s)) ↔
        t.AllScalars (fun u x => ¬ OutOfReach u x) v) ∧
      ((∃ w, (convertIn t v).outcome s = (.ok w, s) ∧ t.Positionwise Coerced v w) ↔
        t.AllScalars (fun u x => ¬ OutOfReach u x ∧ ¬ Mistaken u x) v) := by
  have hrun : ∀ w, (convertIn t v).outcome s = (.ok w, s) ↔
      t.Positionwise (fun u x y => convertScalar u x = .ok y) v w := fun w => by
    rw [convertIn_eq_lift ht, outcome_lift, Prod.mk.injEq, and_iff_left rfl, convert_eq_ok_iff ht]
  refine ⟨by rw [convertIn_eq_lift ht, outcome_lift], ?_, ?_⟩
  · simp only [hrun]
    rw [TypeExpr.exists_positionwise_iff ht]
    exact TypeExpr.allScalars_congr ht fun u hu x => exists_convertScalar_iff hu
  · simp only [hrun, ← TypeExpr.positionwise_and_iff ht]
    rw [TypeExpr.exists_positionwise_iff ht]
    exact TypeExpr.allScalars_congr ht fun u hu x => exists_convertScalar_coerced_iff hu

/-- Counts given as text, as `nan`, as nothing and as a word: the first is converted, the others
stay as they are. -/
theorem convertIn_scalars_counts :
    countsType.OfScalars ∧
      ∃ w, (convertIn countsType
          (.dict [(.str "a", .list [.str "12", .float .nan, .null, .str "x"])])).outcome {} =
            (.ok w, {}) ∧
        countsType.Positionwise Coerced
          (.dict [(.str "a", .list [.str "12", .float .nan, .null, .str "x"])]) w := by
  have hcounts : countsType.OfScalars := .dictOf _ (.listOf (.optional (.scalar .int)))
  refine ⟨hcounts, (convertIn_scalars hcounts _ _).2.2.2 ?_⟩
  simp [countsType, TypeExpr.AllScalars, Value.asList?, OutOfReach, Mistaken]

/-- An infinity in the place of an integer is refused, and a text in the place of a map becomes the
list that it holds. -/
theorem convertIn_infinity_and_brackets :
    (convertIn .int (.float (.infinite false))).outcome {} =
        (.error (.misuse .outOfRange), {}) ∧
      (convertIn .dict (.str "[]")).outcome {} = (.ok (.list []), {}) ∧
      ¬ Coerced .dict (.str "[]") (.list []) := by
  refine ⟨rfl, rfl, ?_⟩
  rintro (h | h) <;> cases h

end SearchKit
