import SearchKit.Proofs.Schema.Checking
import SearchKit.Proofs.Value.Entries
import SearchKit.Session.Data

/-!
# Structured data without sequences

Where structured data declares a list, a sequence may stand for it and is read.  Data that has lists
in these places is settled: nothing is read, and only the check of its shape decides what it gives.

* `settleShape_dictOf_any`, `settleShape_listOf`, `settleShape_object` : settled values of a shape,
  from settled parts.
* `model_of_settled` : structured data from settled data.
-/

namespace SearchKit

open Act

variable {s : Shape} {es : Entries}

theorem Act.mapM_eq_pure {α β : Type} {xs : List α} {ys : List β} {step : α → Act β}
    (h : List.Forall₂ (fun x y => step x = pure y) xs ys) : xs.mapM step = pure ys := by
  induction h with
  | nil => rfl
  | cons hxy _ ih => rw [List.mapM_cons, hxy, ih, pure_bind, pure_bind]

theorem Act.mapM_of_pure {α : Type} {xs : List α} {step : α → Act α}
    (h : ∀ x ∈ xs, step x = pure x) : xs.mapM step = pure xs :=
  mapM_eq_pure (List.forall₂_same.2 h)

/-- A list with settled items is settled. -/
theorem settleShape_listOf {xs : List Value} (h : ∀ x ∈ xs, settleShape s x = pure x) :
    settleShape (.listOf s) (.list xs) = pure (.list xs) := by
  have hlist : settleList (.list xs) = pure (.list xs) := rfl
  rw [settleShape, hlist, pure_bind]
  dsimp only
  rw [mapM_of_pure h, pure_bind]

theorem settleShape_dictOf (h : ∀ e ∈ es, settleShape s e.2 = pure e.2) :
    settleShape (.dictOf s) (.dict es) = pure (.dict es) := by
  have hentries : mapEntries (settleShape s) es = pure es :=
    mapM_of_pure fun e he => by rw [h e he, pure_bind]
  rw [settleShape, hentries, pure_bind]

theorem settleShape_optional (s : Shape) (v : Value) :
    settleShape (.optional s) v = settleShape s v := by
  rw [settleShape]

theorem settleShape_any (v : Value) : settleShape .any v = pure v := by
  rw [settleShape] <;> simp

theorem settleShape_str (v : Value) : settleShape .str v = pure v := by
  rw [settleShape] <;> simp

theorem settleShape_int (v : Value) : settleShape .int v = pure v := by
  rw [settleShape] <;> simp

theorem settleShape_either (first second : Shape) (v : Value) :
    settleShape (.either first second) v = pure v := by
  rw [settleShape] <;> simp

/-- A map with any values is settled. -/
theorem settleShape_dictOf_any (es : Entries) :
    settleShape (.dictOf .any) (.dict es) = pure (.dict es) :=
  settleShape_dictOf fun e _ => settleShape_any e.2

/-- Data is settled when each declared field that is there is. -/
theorem settleShape_object {kind : ModelKind} {declared : List (String × Shape × Option Value)}
    (h : ∀ f ∈ declared, ∀ v, es.field? f.1 = some v → settleShape f.2.1 v = pure v) :
    settleShape (.object kind declared) (.dict es) = pure (.dict es) := by
  have hfields : settleFields declared es = pure es := by
    induction declared with
    | nil => rfl
    | cons f declared ih =>
      have hrest := ih fun g hg => h g (List.mem_cons_of_mem _ hg)
      rw [settleFields]
      cases hv : es.field? f.1 with
      | none => exact hrest
      | some v =>
        dsimp only
        rw [h f List.mem_cons_self v hv, pure_bind, Assoc.set_of_get? hv, pure_bind, hrest]
  rw [settleShape, hfields, pure_bind]

/-- Settled data gives structured data if it passes its check, and nothing is read. -/
theorem model_of_settled {kind : ModelKind} {v : Value} (h : settleShape kind.shape v = pure v) :
    model kind v = liftM (kind.ofValue v) := by
  rw [model, h, pure_bind]

end SearchKit
