import SearchKit.Proofs.Value.Parts
import SearchKit.Schema.Model

/-!
# Data that passes its check

For each shape, what passes and how it is stored.  Values of the declared form are stored as they
are, and where a text or a map of any values is declared nothing else passes.

* `Shape.check_str_iff`, `Shape.check_optional_iff`, `Shape.check_listOf_iff`,
  `Shape.check_dictOf_iff`, `Shape.check_object_iff`, `Shape.check_either_iff` : one shape each.
* `Shape.checkFields_cons_iff` : declared fields, one in front, with `Shape.checkFields_present_iff`,
  `Shape.checkFields_required_iff` and `Shape.checkFields_fallback_iff` for one that is there, one
  that has to be there and one with a default.
* `Shape.check_dictOf_any_iff` : a map with text keys.
* `ModelKind.ofValue_eq_ok_iff`, `ModelKind.ofValue_ok` : structured data, and such from a map.
-/

namespace SearchKit

/-- The value is a map with text keys. -/
def Value.IsObject (v : Value) : Prop := ∃ es, v = .dict es ∧ ∀ e ∈ es, ∃ name, e.1 = .str name

namespace Shape

variable {s : Shape} {v w : Value} {es : Entries} {name : String} {fallback : Option Value}
  {rest : List (String × Shape × Option Value)} {fields : Fields}

/-! ### Parts -/

theorem within_eq_ok_iff {α : Type} {step : Step} {c : Checked α} {a : α} :
    within step c = .ok a ↔ c = .ok a := by
  cases c <;> simp [within]

theorem checkItems_eq_ok_iff {check : Value → Checked Value} {xs ys : List Value} :
    checkItems check xs = .ok ys ↔ List.Forall₂ (fun x y => check x = .ok y) xs ys := by
  rw [checkItems, gather_eq_ok_iff]
  generalize 0 = start
  induction xs generalizing ys start with
  | nil => cases ys <;> simp
  | cons x xs ih =>
    cases ys with
    | nil => simp
    | cons y ys => simp [List.zipIdx_cons, within_eq_ok_iff, ih]

theorem checkEntry_eq_ok_iff {check : Value → Checked Value} {e f : Value × Value} :
    checkEntry check e = .ok f ↔
      (∃ name, e.1 = .str name) ∧ f.1 = e.1 ∧ check e.2 = .ok f.2 := by
  obtain ⟨key, value⟩ := e
  cases hvalue : check value <;> cases key <;>
    simp [checkEntry, within, hvalue, Prod.ext_iff, eq_comm]

theorem gather_checkEntry_eq_ok_iff {check : Value → Checked Value} {es fs : Entries} :
    gather (es.map (checkEntry check)) = .ok fs ↔ List.Forall₂
      (fun e f => (∃ name, e.1 = .str name) ∧ f.1 = e.1 ∧ check e.2 = .ok f.2) es fs := by
  simp only [← checkEntry_eq_ok_iff]
  rw [gather_eq_ok_iff]
  induction es generalizing fs with
  | nil => cases fs <;> simp
  | cons e es ih => cases fs <;> simp [ih]

/-! ### Shapes -/

/-- Only a text passes as a text. -/
theorem check_str_iff : str.check v = .ok w ↔ ∃ name, v = .str name ∧ w = v := by
  cases v with
  | str name => simp [check, eq_comm]
  | _ => simp [check, misfit]

/-- Null passes where a value is optional, and what passes without that. -/
theorem check_optional_iff :
    (optional s).check v = .ok w ↔ v = .null ∧ w = .null ∨ v ≠ .null ∧ s.check v = .ok w := by
  cases v with
  | null => simp [check, eq_comm]
  | _ => simp [check]

theorem check_optional_str_iff :
    (optional str).check v = .ok w ↔
      w = v ∧ ∃ name? : Option String, v = (name?.map Value.str).getD .null := by
  rw [check_optional_iff, check_str_iff]
  cases v <;> simp [Option.exists]

/-- A list passes when its items do. -/
theorem check_listOf_iff {xs : List Value} :
    (listOf s).check (.list xs) = .ok w ↔
      ∃ ys, List.Forall₂ (fun x y => s.check x = .ok y) xs ys ∧ w = .list ys := by
  have hcheck : (listOf s).check (.list xs) = (checkItems s.check xs).map .list := by
    rw [check]
    · exact fun _ => Value.noConfusion
    · rfl
  simp only [hcheck, map_eq_ok_iff, checkItems_eq_ok_iff]

theorem check_listOf {xs : List Value} (h : ∀ x ∈ xs, s.check x = .ok x) :
    (listOf s).check (.list xs) = .ok (.list xs) :=
  check_listOf_iff.2 ⟨xs, List.forall₂_same.2 h, rfl⟩

/-- A map passes when its keys are texts and its values pass. -/
theorem check_dictOf_iff :
    (dictOf s).check v = .ok w ↔ ∃ es fs, v = .dict es ∧ w = .dict fs ∧ List.Forall₂
      (fun e f => (∃ name, e.1 = .str name) ∧ f.1 = e.1 ∧ s.check e.2 = .ok f.2) es fs := by
  cases v with
  | dict es => simp [check, map_eq_ok_iff, gather_checkEntry_eq_ok_iff, and_comm]
  | _ => simp [check, misfit]

theorem check_dictOf (htext : ∀ e ∈ es, ∃ name, e.1 = .str name)
    (hs : ∀ e ∈ es, s.check e.2 = .ok e.2) : (dictOf s).check (.dict es) = .ok (.dict es) :=
  check_dictOf_iff.2 ⟨es, es, rfl, rfl, List.forall₂_same.2 fun e he => ⟨htext e he, rfl, hs e he⟩⟩

/-- As a map with any values passes what is a map with text keys, and it stays as it is. -/
theorem check_dictOf_any_iff : (dictOf .any).check v = .ok w ↔ v.IsObject ∧ w = v := by
  rw [check_dictOf_iff]
  constructor
  · rintro ⟨es, fs, rfl, rfl, h⟩
    obtain ⟨htext, hsame⟩ := (List.forall₂_and_left es fs).1 h
    have heq : es = fs := by
      rw [← List.forall₂_eq_eq_eq]
      refine hsame.imp fun e f hef => ?_
      rw [check_any, Except.ok.injEq] at hef
      exact Prod.ext hef.1.symm hef.2
    exact ⟨⟨es, rfl, htext⟩, by rw [heq]⟩
  · rintro ⟨⟨es, rfl, htext⟩, rfl⟩
    exact check_dictOf_iff.1 (check_dictOf htext fun e _ => check_any e.2)

theorem check_dictOf_any (h : ∀ e ∈ es, ∃ name, e.1 = .str name) :
    (dictOf .any).check (.dict es) = .ok (.dict es) :=
  check_dictOf h fun e _ => check_any e.2

/-- Data with declared fields passes when its fields pass. -/
theorem check_object_iff {kind : ModelKind} {declared : List (String × Shape × Option Value)} :
    (object kind declared).check (.dict es) = .ok w ↔
      ∃ fields, checkFields declared es = .ok fields ∧ w = .model kind fields := by
  rw [check, map_eq_ok_iff]

/-- What passes as one of two shapes passes as the first, or as the second where it does not pass as
the first. -/
theorem check_either_iff {first second : Shape} :
    (either first second).check v = .ok w ↔
      first.check v = .ok w ∨ (∀ u, first.check v ≠ .ok u) ∧ second.check v = .ok w := by
  rw [check]
  cases first.check v <;> cases second.check v <;> simp

/-! ### Declared fields -/

@[simp] theorem checkFields_nil_iff : checkFields [] es = .ok fields ↔ fields = [] := by
  rw [checkFields, Except.ok.injEq, eq_comm]

/-- Fields pass when the first one passes, or is absent and has a default, and the further ones
pass. -/
theorem checkFields_cons_iff :
    checkFields ((name, s, fallback) :: rest) es = .ok fields ↔
      ∃ w more, (match es.field? name, fallback with
          | some v, _ => s.check v = .ok w
          | none, some v => v = w
          | none, none => False) ∧
        checkFields rest es = .ok more ∧ fields = (name, w) :: more := by
  -- each of the two parts has to pass, or the whole is a misfit
  cases hv : es.field? name with
  | none =>
    cases fallback <;> cases hrest : checkFields rest es <;>
      simp [checkFields, hv, hrest, eq_comm]
  | some v =>
    cases hs : s.check v <;> cases hrest : checkFields rest es <;>
      simp [checkFields, hv, hs, hrest, within, eq_comm]

/-- A field that is there has to pass its check. -/
theorem checkFields_present_iff (hv : es.field? name = some v) :
    checkFields ((name, s, fallback) :: rest) es = .ok fields ↔
      ∃ w more, s.check v = .ok w ∧ checkFields rest es = .ok more ∧
        fields = (name, w) :: more := by
  rw [checkFields_cons_iff, hv]

theorem checkFields_present (hv : es.field? name = some v) (hs : s.check v = .ok w)
    (hrest : checkFields rest es = .ok fields) :
    checkFields ((name, s, fallback) :: rest) es = .ok ((name, w) :: fields) :=
  (checkFields_present_iff hv).2 ⟨w, fields, hs, hrest, rfl⟩

/-- A required field has to be there and to pass its check. -/
theorem checkFields_required_iff :
    checkFields (requiredField name s :: rest) es = .ok fields ↔
      ∃ v w more, es.field? name = some v ∧ s.check v = .ok w ∧
        checkFields rest es = .ok more ∧ fields = (name, w) :: more := by
  rw [requiredField, checkFields_cons_iff]
  cases es.field? name <;> simp

/-- A field with a default that passes its own check passes as what is there or, where nothing is, as
its default. -/
theorem checkFields_fallback_iff {fallback : Value} (h : s.check fallback = .ok fallback) :
    checkFields ((name, s, some fallback) :: rest) es = .ok fields ↔
      ∃ w more, s.check ((es.field? name).getD fallback) = .ok w ∧
        checkFields rest es = .ok more ∧ fields = (name, w) :: more := by
  rw [checkFields_cons_iff]
  cases es.field? name <;> simp [h]

end Shape

namespace ModelKind

variable {kind : ModelKind} {v w : Value}

/-- Structured data is what passes the check of its kind. -/
theorem ofValue_eq_ok_iff : kind.ofValue v = .ok w ↔ kind.shape.check v = .ok w := by
  rw [ofValue]
  cases kind.shape.check v <;> simp [Except.mapError]

/-- Structured data from a map consists of its fields, all of which have passed. -/
theorem ofValue_ok {own : ModelKind} {declared : List (String × Shape × Option Value)}
    (hshape : kind.shape = .object own declared) {es : Entries} (h : kind.ofValue (.dict es) = .ok v) :
    ∃ fields, Shape.checkFields declared es = .ok fields ∧ v = .model own fields := by
  rw [ofValue_eq_ok_iff, hshape] at h
  exact Shape.check_object_iff.1 h

end ModelKind

end SearchKit
