import SearchKit.Session.Sequence

/-!
# Outcomes of calls

A call is taken apart step by step: what each of its steps gives, and the session it leaves.

* `Act.outcome_bind`, `Act.outcome_bind_ok` : a step and the rest of the call.
* `Act.outcome_tryCatch` : a call and what handles its fault.
* `Act.eq_ok_of_bind`, `exists_ok_of_bind` : what goes well does so step by step.
* `Act.outcome_mapM_of_reads` : a step taken on every item of a list.
-/

namespace SearchKit

/-- A chain of steps without effects that goes well does so step by step. -/
theorem exists_ok_of_bind {α β : Type} {x : Except Fault α} {next : α → Except Fault β} {b : β}
    (h : x >>= next = .ok b) : ∃ a, x = .ok a ∧ next a = .ok b := by
  cases x with
  | error fault => cases h
  | ok a => exact ⟨a, rfl, h⟩

namespace Act

variable {α β : Type} {s s' : Session}

@[simp] theorem outcome_pure (a : α) (s : Session) : (pure a : Act α).outcome s = (.ok a, s) := rfl

@[simp] theorem outcome_throw (fault : Fault) (s : Session) :
    (throw fault : Act α).outcome s = (.error fault, s) := rfl

@[simp] theorem outcome_get (s : Session) : (get : Act Session).outcome s = (.ok s, s) := rfl

@[simp] theorem outcome_set (s s' : Session) :
    (set s' : Act PUnit).outcome s = (.ok ⟨⟩, s') := rfl

@[simp] theorem outcome_modify (f : Session → Session) (s : Session) :
    (modify f : Act PUnit).outcome s = (.ok ⟨⟩, f s) := rfl

@[simp] theorem lift_ok (a : α) : (liftM (.ok a : Except Fault α) : Act α) = pure a := rfl

@[simp] theorem outcome_lift (e : Except Fault α) (s : Session) :
    (liftM e : Act α).outcome s = (e, s) := rfl

@[simp] theorem outcome_caught (act : Act α) (s : Session) :
    (caught act).outcome s = (.ok (act.outcome s).1, (act.outcome s).2) := rfl

/-- A handler goes on from where the fault left the session. -/
theorem outcome_tryCatch (act : Act α) (handler : Fault → Act α) (s : Session) :
    (tryCatch act handler).outcome s = match act.outcome s with
      | (.ok a, s') => (.ok a, s')
      | (.error fault, s') => (handler fault).outcome s' := by
  simp only [outcome, tryCatch, tryCatchThe, MonadExceptOf.tryCatch, ExceptT.tryCatch,
    ExceptT.run, ExceptT.mk, bind, StateT.bind]
  rcases act s with ⟨fault | a, s'⟩ <;> rfl

theorem outcome_bind (act : Act α) (next : α → Act β) (s : Session) :
    (act >>= next).outcome s = match act.outcome s with
      | (.ok a, s') => (next a).outcome s'
      | (.error fault, s') => (.error fault, s') := by
  simp only [outcome, bind, ExceptT.bind, ExceptT.run, ExceptT.mk, StateT.bind, ExceptT.bindCont]
  rcases act s with ⟨fault | a, s'⟩ <;> rfl

theorem outcome_bind_ok {act : Act α} {a : α} (h : act.outcome s = (.ok a, s'))
    (next : α → Act β) : (act >>= next).outcome s = (next a).outcome s' := by
  rw [outcome_bind, h]

theorem outcome_bind_error {act : Act α} {fault : Fault} (h : act.outcome s = (.error fault, s'))
    (next : α → Act β) : (act >>= next).outcome s = (.error fault, s') := by
  rw [outcome_bind, h]

theorem outcome_bind_left {act act' : Act α} (h : act.outcome s = act'.outcome s)
    (next : α → Act β) : (act >>= next).outcome s = (act' >>= next).outcome s := by
  rw [outcome_bind, outcome_bind, h]

/-- After the same step, what comes next needs to agree only from where that step ends. -/
theorem outcome_bind_congr {act : Act α} {next next' : α → Act β}
    (h : ∀ a s', act.outcome s = (.ok a, s') → (next a).outcome s' = (next' a).outcome s') :
    (act >>= next).outcome s = (act >>= next').outcome s := by
  rw [outcome_bind, outcome_bind]
  rcases hact : act.outcome s with ⟨fault | a, s'⟩
  · rfl
  · exact h a s' hact

/-- A call that goes well does so step by step. -/
theorem eq_ok_of_bind {act : Act α} {next : α → Act β} {b : β}
    (h : (act >>= next).outcome s = (.ok b, s')) :
    ∃ a s₁, act.outcome s = (.ok a, s₁) ∧ (next a).outcome s₁ = (.ok b, s') := by
  rw [outcome_bind] at h
  rcases hact : act.outcome s with ⟨fault | a, s₁⟩
  · rw [hact] at h; cases h
  · rw [hact] at h; exact ⟨a, s₁, rfl, h⟩

/-- A step that reads the session and leaves it alone ends on a list as it ends item by item. -/
theorem outcome_mapM_of_reads {xs : List α} {step : α → Act β} {f : α → Except Fault β}
    (h : ∀ x, (step x).outcome s = (f x, s)) : (xs.mapM step).outcome s = (xs.mapM f, s) := by
  induction xs with
  | nil => rfl
  | cons x xs ih =>
    rw [List.mapM_cons, List.mapM_cons, outcome_bind, h x]
    cases f x with
    | error fault => rfl
    | ok y =>
      dsimp only
      rw [outcome_bind, ih]
      cases xs.mapM f <;> rfl

end Act

end SearchKit
