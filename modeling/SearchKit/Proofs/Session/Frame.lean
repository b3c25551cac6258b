import SearchKit.Engine.Method
import SearchKit.Proofs.Session.Outcome

/-!
# What a call leaves alone

A call keeps a part of the session when that part is the same after it, whether it goes well or
not (`Act.Keeps`).  Keeping is passed on by sequencing and by runs of steps, so it has to be
looked at only where a session is changed.

* `keeps_provider`, `keeps_requireOwn`, `keeps_keyOf` : reading the objects of a session changes
  nothing.
* `ApartFromReading` : a part of the session that reading sequences leaves alone, and so do
  `keeps_foldItems`, `keeps_writtenOver` and `keeps_model`.
-/

namespace SearchKit

/-- A part of the session is the same after the call. -/
def Act.Keeps {α γ : Type} (view : Session → γ) (act : Act α) : Prop :=
  ∀ s, view (act.outcome s).2 = view s

namespace Act.Keeps

variable {α β γ σ : Type} {view : Session → γ}

theorem after {act : Act α} (h : Keeps view act) {s s' : Session} {ends : Except Fault α}
    (hact : act.outcome s = (ends, s')) : view s' = view s := by
  have hs := h s
  rwa [hact] at hs

theorem pure (a : α) : Keeps view (pure a : Act α) := fun _ => rfl

theorem throw (fault : Fault) : Keeps view (throw fault : Act α) := fun _ => rfl

theorem lift (e : Except Fault α) : Keeps view (liftM e : Act α) := fun _ => rfl

theorem get : Keeps view (get : Act Session) := fun _ => rfl

theorem modify {f : Session → Session} (h : ∀ s, view (f s) = view s) :
    Keeps view (modify f : Act PUnit) := h

theorem bind {act : Act α} {next : α → Act β} (hact : Keeps view act)
    (hnext : ∀ a, Keeps view (next a)) : Keeps view (act >>= next) := by
  intro s
  have hs := hact s
  rw [outcome_bind]
  rcases h : act.outcome s with ⟨fault | a, s₁⟩
  · rw [h] at hs; exact hs
  · rw [h] at hs; exact (hnext a s₁).trans hs

theorem caught {act : Act α} (h : Keeps view act) : Keeps view (caught act) := h

theorem mapM {f : α → Act β} (h : ∀ a, Keeps view (f a)) (xs : List α) :
    Keeps view (xs.mapM f) := by
  induction xs with
  | nil => exact pure []
  | cons x xs ih =>
    rw [List.mapM_cons]
    exact bind (h x) fun y => bind ih fun ys => pure (y :: ys)

theorem foldlM {step : σ → α → Act σ} (h : ∀ acc a, Keeps view (step acc a)) (xs : List α)
    (acc : σ) : Keeps view (xs.foldlM step acc) := by
  induction xs generalizing acc with
  | nil => exact pure acc
  | cons x xs ih =>
    rw [List.foldlM_cons]
    exact bind (h acc x) ih

end Act.Keeps

open Act

/-! ### Objects of the application -/

section

variable {γ : Type} {view : Session → γ}

theorem keeps_theSource (v : Value) : Keeps view (theSource v) := by
  refine .bind .get fun s => ?_
  split
  · exact .pure _
  · exact .throw _

theorem keeps_keyOf (v : Value) : Keeps view (keyOf v) := by
  unfold keyOf
  split
  · exact .pure _
  · refine .bind .get fun s => ?_
    split
    · exact .pure _
    · exact .throw _

theorem keeps_provider (id : Nat) : Keeps view (provider id) := by
  refine .bind .get fun s => ?_
  split
  · exact .pure _
  · exact .throw _

theorem keeps_requireOwn (id : Nat) (name : String) : Keeps view (requireOwn id name) := by
  refine .bind (keeps_provider id) fun p => ?_
  split
  · exact .throw _
  · exact .pure _

theorem keeps_rankRecords (ids : List String) (records : List Value) :
    Keeps view (rankRecords ids records) :=
  .bind (.mapM (fun r => .bind (keeps_keyOf r) fun _ => .bind (.lift _) fun _ => .pure _) records)
    fun _ => .pure _

theorem keeps_emit {e : Event} (h : ∀ s, view { s with trace := s.trace ++ [e] } = view s) :
    Keeps view (emit e) := .modify h

theorem keeps_fetch (hfetch : ∀ s name streamed ids,
    view { s with trace := s.trace ++ [.fetch name streamed ids] } = view s)
    (source : Value) (streamed : Bool) (ids : List String) :
    Keeps view (fetch source streamed ids) := by
  refine .bind (keeps_theSource source) fun ⟨name, found⟩ =>
    .bind (keeps_emit fun s => hfetch s name streamed ids) fun _ => ?_
  split
  · exact .throw _
  · exact .pure _

end

/-! ### Sequences -/

/-- Reading sequences leaves a part of the session alone: it does not tell of the sequences, nor of
the fetches that they are read by. -/
structure ApartFromReading {γ : Type} (view : Session → γ) : Prop where
  /-- It does not tell of fetches. -/
  fetch : ∀ s name streamed ids,
    view { s with trace := s.trace ++ [.fetch name streamed ids] } = view s
  /-- It does not tell of the sequences. -/
  sequences : ∀ s q, view { s with sequences := q } = view s

theorem apart_providers : ApartFromReading Session.providers := ⟨fun _ _ _ _ => rfl, fun _ _ => rfl⟩

theorem apart_components : ApartFromReading Session.components :=
  ⟨fun _ _ _ _ => rfl, fun _ _ => rfl⟩

section

variable {γ σ : Type} {view : Session → γ} (h : ApartFromReading view)
include h

theorem keeps_setSequence (id : Nat) (rest : List Value) : Keeps view (setSequence id rest) :=
  .modify fun s => h.sequences s _

theorem keeps_remaining (id : Nat) : Keeps view (remaining id) := by
  refine .bind .get fun s => ?_
  split
  · exact .pure _
  · exact .pure _
  · exact .bind (keeps_setSequence h _ _) fun _ => .bind (keeps_fetch h.fetch _ _ _) fun _ =>
      .bind (keeps_rankRecords _ _) fun _ => .bind (keeps_setSequence h _ _) fun _ => .pure _

theorem keeps_pull? (id : Nat) : Keeps view (pull? id) := by
  refine .bind (keeps_remaining h id) fun items => ?_
  split
  · exact .pure _
  · exact .bind (keeps_setSequence h _ _) fun _ => .pure _

theorem keeps_settle (v : Value) : Keeps view (settle v) := by
  unfold settle
  split
  · exact .bind (keeps_remaining h _) fun _ => .bind (keeps_setSequence h _ _) fun _ => .pure _
  · exact .pure _

variable {step : σ → Value → Act σ}

omit h in
theorem keeps_scanList (hstep : ∀ acc x, Keeps view (step acc x)) (xs : List Value) (acc : σ) :
    Keeps view (scanList step xs acc) := by
  induction xs generalizing acc with
  | nil => exact .pure _
  | cons x xs ih =>
    refine .bind (.caught (hstep acc x)) fun r => ?_
    split
    · exact ih _
    · exact .pure _

theorem keeps_scanSequence (hstep : ∀ acc x, Keeps view (step acc x)) (id count : Nat) (acc : σ) :
    Keeps view (scanSequence id step count acc) := by
  induction count generalizing acc with
  | zero => exact .pure _
  | succ count ih =>
    refine .bind (keeps_pull? h id) fun x => ?_
    split
    · exact .pure _
    · refine .bind (.caught (hstep acc _)) fun r => ?_
      split
      · exact ih _
      · exact .pure _

theorem keeps_scanItems (hstep : ∀ acc x, Keeps view (step acc x)) (v : Value) (start : σ) :
    Keeps view (scanItems v start step) := by
  unfold scanItems
  split
  · refine .bind (.caught (keeps_remaining h _)) fun r => ?_
    split
    · exact keeps_scanSequence h hstep _ _ _
    · exact .pure _
  · split
    · exact keeps_scanList hstep _ _
    · exact .pure _

theorem keeps_foldItems (hstep : ∀ acc x, Keeps view (step acc x)) (v : Value) (start : σ) :
    Keeps view (foldItems v start step) := by
  refine .bind (keeps_scanItems h hstep v start) fun r => ?_
  split
  · exact .pure _
  · exact .throw _

theorem keeps_mapItems {β : Type} {f : Value → Act β} (hf : ∀ x, Keeps view (f x)) (v : Value) :
    Keeps view (mapItems v f) :=
  .bind (keeps_foldItems h (fun _ x => .bind (hf x) fun _ => .pure _) v []) fun _ => .pure _

theorem keeps_writeEntry (es : Entries) (v : Value) : Keeps view (writeEntry es v) :=
  .bind (.bind (keeps_settle h v) fun _ => .lift _) fun _ => .pure _

theorem keeps_writtenOver (es : Entries) (v : Value) : Keeps view (writtenOver es v) := by
  unfold writtenOver
  split
  · exact .pure _
  · exact keeps_foldItems h (keeps_writeEntry h) _ _

theorem keeps_entriesIn (v : Value) : Keeps view (entriesIn v) := by
  unfold entriesIn
  split
  · exact .pure _
  · exact keeps_foldItems h (keeps_writeEntry h) _ _

/-! ### Structured data -/

theorem keeps_settleList (v : Value) : Keeps view (settleList v) := by
  refine .bind (.caught (keeps_settle h v)) fun r => ?_
  split
  · exact .pure _
  · exact .pure _

end

section

variable {γ : Type} {view : Session → γ}

mutual

theorem keeps_settleShape (h : ApartFromReading view) (shape : Shape) (v : Value) :
    Keeps view (settleShape shape v) := by
  cases shape with
  | optional s => rw [settleShape]; exact keeps_settleShape h s v
  | listOf s =>
    rw [settleShape]
    refine .bind (keeps_settleList h v) fun w => ?_
    split
    · exact .bind (.mapM (keeps_settleShape h s) _) fun _ => .pure _
    · exact .pure _
  | dictOf s =>
    cases v with
    | dict es =>
      have hentry : ∀ e : Value × Value,
          Keeps view (do return (e.1, ← settleShape s e.2) : Act (Value × Value)) :=
        fun e => .bind (keeps_settleShape h s e.2) fun _ => .pure _
      rw [settleShape]
      exact .bind (.mapM hentry es) fun _ => .pure _
    | _ => simp only [settleShape]; exact .pure _
  | object kind fields =>
    cases v with
    | dict es =>
      rw [settleShape]
      exact .bind (keeps_settleFields h fields es) fun _ => .pure _
    | _ => simp only [settleShape]; exact .pure _
  | _ => simp only [settleShape]; exact .pure _

theorem keeps_settleFields (h : ApartFromReading view)
    (fields : List (String × Shape × Option Value)) (es : Entries) :
    Keeps view (settleFields fields es) := by
  match fields with
  | [] => rw [settleFields]; exact .pure _
  | (name, s, _) :: rest =>
    rw [settleFields]
    split
    · exact .bind (keeps_settleShape h s _) fun _ => keeps_settleFields h rest _
    · exact keeps_settleFields h rest es

end

theorem keeps_model (h : ApartFromReading view) (kind : ModelKind) (v : Value) :
    Keeps view (model kind v) :=
  .bind (keeps_settleShape h kind.shape v) fun _ => .lift _

end

end SearchKit
