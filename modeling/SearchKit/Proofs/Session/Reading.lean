import SearchKit.Proofs.Session.Frame
import SearchKit.Proofs.Value.Parts
import Mathlib.Data.List.Basic

/-!
# Reading a value item by item

A step that needs nothing of the session can be run on the items of a value one by one or on the
list of them; the results are the same.  For a sequence this holds although its items are taken
from the session one at a time, each just before its step.  At the first fault the steps end, and
the items behind it are still to come.

* `itemsOf_eq`, `foldItems_of_items`, `mapItems_of_items` : the items of a value that is no
  sequence.
* `Follows`, `scanned` : steps that need nothing of the session, along a list up to the first fault.
* `scanItems_outcome`, `foldItems_outcome`, `mapItems_outcome` : such steps run on the items of a
  value, with `scanItems_of_unreadable` where there are none to be had.
* `mapItems_eq_ok_iff` : **what it takes for all of them to go well**.
-/

namespace SearchKit

open Act

variable {s s₁ : Session}

/-! ### Values that are no sequences -/

section

variable {σ : Type} {v : Value} {xs : List Value}

theorem itemsOf_of_not_sequence (h : ∀ id, v ≠ .iterator id) : itemsOf v = liftM v.items := by
  have hsettle : settle v = pure v := by
    unfold settle
    split
    · exact absurd rfl (h _)
    · rfl
  rw [itemsOf, hsettle, pure_bind]

theorem scanItems_of_not_sequence (h : ∀ id, v ≠ .iterator id) (start : σ)
    (step : σ → Value → Act σ) : scanItems v start step =
      match v.items with
      | .ok xs => scanList step xs start
      | .error fault => return (start, some fault) := by
  unfold scanItems
  split
  · exact absurd rfl (h _)
  · rfl

theorem not_sequence_of_items (h : v.items? = some xs) : ∀ id, v ≠ .iterator id := by
  rintro id rfl
  cases h

/-- A value that has items of its own is read without touching the session. -/
theorem itemsOf_eq (h : v.items? = some xs) : itemsOf v = pure xs := by
  rw [itemsOf_of_not_sequence (not_sequence_of_items h), Value.items, h]
  rfl

/-- Steps run on the items of such a value one by one are the run of the steps. -/
theorem foldItems_of_items (h : v.items? = some xs) (start : σ) (step : σ → Value → Act σ) :
    foldItems v start step = xs.foldlM step start := by
  rw [foldItems, scanItems_of_not_sequence (not_sequence_of_items h), Value.items, h]
  exact scanList_raised step xs start

/-- What a step gives for each item of such a value is the run of the step along them. -/
theorem mapItems_of_items {β : Type} (h : v.items? = some xs) (step : Value → Act β) :
    mapItems v step = xs.mapM step := by
  rw [mapItems, foldItems_of_items h, List.mapM_eq_reverse_foldlM_cons]
  exact (map_eq_pure_bind _ _).symm

end

/-! ### Sequences -/

/-- The session with the items still to come of a sequence. -/
def Session.withItems (s : Session) (id : Nat) (xs : List Value) : Session :=
  { s with sequences := s.sequences.set id (.items xs) }

theorem withItems_withItems (s : Session) (id : Nat) (xs ys : List Value) :
    (s.withItems id xs).withItems id ys = s.withItems id ys := by
  simp [Session.withItems, List.set_set]

theorem withItems_of_items {id : Nat} {xs : List Value}
    (h : s.sequences[id]? = some (.items xs)) : s.withItems id xs = s := by
  obtain ⟨hid, hxs⟩ := List.getElem?_eq_some_iff.1 h
  have : s.sequences.set id (.items xs) = s.sequences := by
    rw [← hxs, List.set_getElem_self]
  rw [Session.withItems, this]

theorem withItems_of_none {id : Nat} (h : s.sequences[id]? = none) (xs : List Value) :
    s.withItems id xs = s := by
  have : s.sequences.set id (.items xs) = s.sequences :=
    List.set_eq_of_length_le (List.getElem?_eq_none_iff.1 h)
  rw [Session.withItems, this]

theorem outcome_setSequence (s : Session) (id : Nat) (xs : List Value) :
    (setSequence id xs).outcome s = (.ok ⟨⟩, s.withItems id xs) := rfl

theorem remaining_of_items {id : Nat} {xs : List Value}
    (h : s.sequences[id]? = some (.items xs)) : (remaining id).outcome s = (.ok xs, s) := by
  rw [remaining, outcome_bind_ok (outcome_get s), h]
  rfl

theorem pull?_cons {id : Nat} {x : Value} {xs : List Value}
    (h : s.sequences[id]? = some (.items (x :: xs))) :
    (pull? id).outcome s = (.ok (some x), s.withItems id xs) := by
  rw [pull?, outcome_bind_ok (remaining_of_items h)]
  exact outcome_bind_ok (outcome_setSequence s id xs) _

/-- Whatever stands behind a sequence, its items are what the session holds of it after they have
been asked for. -/
theorem items_after_remaining {id : Nat} {xs : List Value}
    (h : (remaining id).outcome s = (.ok xs, s₁)) :
    s₁.sequences[id]? = some (.items xs) ∨ xs = [] ∧ s₁.sequences[id]? = none := by
  rw [remaining, outcome_bind_ok (outcome_get s)] at h
  rcases hq : s.sequences[id]? with _ | ⟨rest | ⟨source, ids⟩⟩
  · rw [hq] at h
    cases h
    exact .inr ⟨rfl, hq⟩
  · rw [hq] at h
    cases h
    exact .inl hq
  · rw [hq] at h
    rw [outcome_bind_ok (outcome_setSequence s id [])] at h
    obtain ⟨fetched, s₂, hfetch, h⟩ := eq_ok_of_bind h
    obtain ⟨records, s₃, hrank, h⟩ := eq_ok_of_bind h
    rw [outcome_bind_ok (outcome_setSequence s₃ id records)] at h
    cases h
    -- fetching and ranking leave the sequences as they are, so the place is still there
    have hlength : s₃.sequences.length = s.sequences.length := by
      have hfetched : Keeps Session.sequences (fetch source true ids) :=
        keeps_fetch (fun _ _ _ _ => rfl) source true ids
      have hranked : Keeps Session.sequences (rankRecords ids fetched) :=
        keeps_rankRecords ids fetched
      have h₂ := hfetched (s.withItems id [])
      have h₃ := hranked s₂
      rw [hfetch] at h₂
      rw [hrank] at h₃
      rw [h₃, h₂, Session.withItems, List.length_set]
    obtain ⟨hid, -⟩ := List.getElem?_eq_some_iff.1 hq
    left
    simp [Session.withItems, hlength, hid]

theorem outcome_itemsOf_sequence (s : Session) (id : Nat) :
    (itemsOf (.iterator id)).outcome s = match (remaining id).outcome s with
      | (.ok xs, s') => (.ok xs, s'.withItems id [])
      | (.error fault, s') => (.error fault, s') := by
  rw [itemsOf, settle, bind_assoc, outcome_bind]
  rcases (remaining id).outcome s with ⟨fault | xs, s'⟩ <;> rfl

/-! ### Steps -/

section

variable {σ : Type} {step : σ → Value → Act σ} {f : σ → Value → Except Fault σ}

/-- A step that ends as a function of what it is given, whatever the session, and leaves that
alone. -/
def Follows (step : σ → Value → Act σ) (f : σ → Value → Except Fault σ) : Prop :=
  ∀ acc x s, (step acc x).outcome s = (f acc x, s)

/-- Steps along a list up to the first fault: the result of the steps before it, the fault, and the
items behind it, which are left unread. -/
def scanned (f : σ → Value → Except Fault σ) : List Value → σ → (σ × Option Fault) × List Value
  | [], acc => ((acc, none), [])
  | x :: xs, acc => match f acc x with
    | .ok acc => scanned f xs acc
    | .error fault => ((acc, some fault), xs)

/-- How steps end whose fault is raised. -/
def raised : σ × Option Fault → Except Fault σ
  | (acc, none) => .ok acc
  | (_, some fault) => .error fault

theorem raised_scanned (f : σ → Value → Except Fault σ) (xs : List Value) (acc : σ) :
    raised (scanned f xs acc).1 = xs.foldlM f acc := by
  induction xs generalizing acc with
  | nil => rfl
  | cons x xs ih =>
    rw [scanned, List.foldlM_cons]
    cases f acc x with
    | error fault => rfl
    | ok acc => exact ih acc

theorem unread_of_foldlM {xs : List Value} {acc a : σ} (h : xs.foldlM f acc = .ok a) :
    (scanned f xs acc).2 = [] := by
  induction xs generalizing acc with
  | nil => rfl
  | cons x xs ih =>
    rw [List.foldlM_cons] at h
    obtain ⟨next, hx, hxs⟩ := exists_ok_of_bind h
    rw [scanned, hx]
    exact ih hxs

theorem scanList_outcome (h : Follows step f) (xs : List Value) (acc : σ) (s : Session) :
    (scanList step xs acc).outcome s = (.ok (scanned f xs acc).1, s) := by
  induction xs generalizing acc with
  | nil => rfl
  | cons x xs ih =>
    have hx : (caught (step acc x)).outcome s = (.ok (f acc x), s) := by
      rw [outcome_caught, h acc x s]
    rw [scanList, outcome_bind_ok hx, scanned]
    cases f acc x with
    | error fault => rfl
    | ok acc => exact ih acc

theorem scanSequence_outcome {id : Nat} {xs : List Value} (h : Follows step f) (acc : σ)
    (hs : s.sequences[id]? = some (.items xs)) :
    (scanSequence id step xs.length acc).outcome s =
      (.ok (scanned f xs acc).1, s.withItems id (scanned f xs acc).2) := by
  induction xs generalizing acc s with
  | nil =>
    rw [scanned, withItems_of_items hs]
    rfl
  | cons x xs ih =>
    have hx : (caught (step acc x)).outcome (s.withItems id xs) =
        (.ok (f acc x), s.withItems id xs) := by
      rw [outcome_caught, h acc x (s.withItems id xs)]
    obtain ⟨hid, -⟩ := List.getElem?_eq_some_iff.1 hs
    have hrest : (s.withItems id xs).sequences[id]? = some (.items xs) := by
      simp [Session.withItems, hid]
    -- the item is taken before its step, so the step is run where the rest is left
    rw [List.length_cons, scanSequence, outcome_bind_ok (pull?_cons hs)]
    dsimp only
    rw [outcome_bind_ok hx, scanned]
    cases f acc x with
    | error fault => rfl
    | ok acc =>
      dsimp only
      rw [ih acc hrest, withItems_withItems]

/-- Scanning the items of a value one by one is running the steps along the list of the items.  What
reaches the outside does so before the first item is there.  If no item is left unread, the value is
read to its end. -/
theorem scanItems_outcome {v : Value} {xs : List Value} (h : Follows step f)
    (hv : (itemsOf v).outcome s = (.ok xs, s₁)) (start : σ) :
    ∃ s₂, (scanItems v start step).outcome s = (.ok (scanned f xs start).1, s₂) ∧
      s₂.trace = s₁.trace ∧ ((scanned f xs start).2 = [] → s₂ = s₁) := by
  by_cases hsequence : ∃ id, v = .iterator id
  · obtain ⟨id, rfl⟩ := hsequence
    rw [outcome_itemsOf_sequence] at hv
    rcases hremaining : (remaining id).outcome s with ⟨fault | ys, s'⟩
    · rw [hremaining] at hv
      cases hv
    · rw [hremaining] at hv
      cases hv
      have hcaught : (caught (remaining id)).outcome s = (.ok (.ok xs), s') := by
        rw [outcome_caught, hremaining]
      refine ⟨s'.withItems id (scanned f xs start).2, ?_, rfl, fun hread => by rw [hread]⟩
      rw [scanItems, outcome_bind_ok hcaught]
      rcases items_after_remaining hremaining with hs | ⟨rfl, hs⟩
      · exact scanSequence_outcome h start hs
      · rw [withItems_of_none hs]
        rfl
  · push Not at hsequence
    rw [itemsOf_of_not_sequence hsequence, outcome_lift] at hv
    obtain ⟨hitems, rfl⟩ := Prod.mk.inj hv
    refine ⟨s, ?_, rfl, fun _ => rfl⟩
    rw [scanItems_of_not_sequence hsequence, hitems]
    exact scanList_outcome h xs start s

/-- The fault of a value that cannot be read comes before any step. -/
theorem scanItems_of_unreadable {v : Value} {fault : Fault}
    (hv : (itemsOf v).outcome s = (.error fault, s₁)) (start : σ) :
    (scanItems v start step).outcome s = (.ok (start, some fault), s₁) := by
  by_cases hsequence : ∃ id, v = .iterator id
  · obtain ⟨id, rfl⟩ := hsequence
    rw [outcome_itemsOf_sequence] at hv
    rw [scanItems, outcome_bind, outcome_caught]
    rcases hremaining : (remaining id).outcome s with ⟨fault | ys, s'⟩
    · rw [hremaining] at hv
      cases hv
      rfl
    · rw [hremaining] at hv
      cases hv
  · push Not at hsequence
    rw [itemsOf_of_not_sequence hsequence, outcome_lift] at hv
    obtain ⟨hitems, rfl⟩ := Prod.mk.inj hv
    rw [scanItems_of_not_sequence hsequence, hitems]
    rfl

theorem outcome_foldItems {v : Value} {start : σ} {ends : σ × Option Fault}
    (h : (scanItems v start step).outcome s = (.ok ends, s₁)) :
    (foldItems v start step).outcome s = (raised ends, s₁) := by
  rw [foldItems, outcome_bind_ok h]
  rcases ends with ⟨acc, _ | fault⟩ <;> rfl

/-- Steps run on the items of a value one by one are the steps run along the list of the items. -/
theorem foldItems_outcome {v : Value} {xs : List Value} (h : Follows step f)
    (hv : (itemsOf v).outcome s = (.ok xs, s₁)) (start : σ) :
    ∃ s₂, (foldItems v start step).outcome s = (xs.foldlM f start, s₂) ∧ s₂.trace = s₁.trace ∧
      ∀ a, xs.foldlM f start = .ok a → s₂ = s₁ := by
  obtain ⟨s₂, hscan, htrace, hread⟩ := scanItems_outcome h hv start
  refine ⟨s₂, ?_, htrace, fun a ha => hread (unread_of_foldlM ha)⟩
  rw [outcome_foldItems hscan, raised_scanned]

end

section

variable {β : Type} {v : Value} {xs : List Value} {step : Value → Act β}
  {f : Value → Except Fault β}

/-- What a step gives for each item of a value is what it gives along the list of the items.  If it
goes well on all of them, the value is read to its end. -/
theorem mapItems_outcome (h : ∀ x s, (step x).outcome s = (f x, s))
    (hv : (itemsOf v).outcome s = (.ok xs, s₁)) :
    ∃ s₂, (mapItems v step).outcome s = (xs.mapM f, s₂) ∧ s₂.trace = s₁.trace ∧
      ∀ ys, xs.mapM f = .ok ys → s₂ = s₁ := by
  have hsteps : Follows (fun acc x => do return (← step x) :: acc)
      (fun acc x => (f x).map (· :: acc)) := by
    intro acc x s
    rw [outcome_bind, h x s]
    dsimp only
    cases f x <;> rfl
  have hmapM : xs.mapM f = (xs.foldlM (fun acc x => (f x).map (· :: acc)) []).map List.reverse :=
    List.mapM_eq_reverse_foldlM_cons
  obtain ⟨s₂, hfold, htrace, hread⟩ := foldItems_outcome hsteps hv []
  refine ⟨s₂, ?_, htrace, fun ys hys => ?_⟩
  · rw [mapItems, outcome_bind, hfold, hmapM]
    cases xs.foldlM (fun acc x => (f x).map (· :: acc)) [] <;> rfl
  · rw [hmapM] at hys
    obtain ⟨a, ha, -⟩ := map_eq_ok_iff.1 hys
    exact hread a ha

theorem mapItems_of_unreadable {fault : Fault} (hv : (itemsOf v).outcome s = (.error fault, s₁)) :
    (mapItems v step).outcome s = (.error fault, s₁) := by
  rw [mapItems, outcome_bind_error (outcome_foldItems (scanItems_of_unreadable hv []))]

/-- What a step gives for each item of a value goes well exactly if the items can be read and the
step goes well on all of them. -/
theorem mapItems_eq_ok_iff (h : ∀ x s, (step x).outcome s = (f x, s)) {ys : List β} :
    (mapItems v step).outcome s = (.ok ys, s₁) ↔
      ∃ xs, (itemsOf v).outcome s = (.ok xs, s₁) ∧ xs.mapM f = .ok ys := by
  rcases hv : (itemsOf v).outcome s with ⟨fault | xs, s'⟩
  · rw [mapItems_of_unreadable hv]
    simp
  · obtain ⟨s₂, hmap, -, hread⟩ := mapItems_outcome h hv
    rw [hmap]
    constructor
    · intro hends
      obtain ⟨hys, rfl⟩ := Prod.mk.inj hends
      obtain rfl := hread ys hys
      exact ⟨xs, rfl, hys⟩
    · rintro ⟨zs, hzs, hys⟩
      obtain ⟨rfl, rfl⟩ : xs = zs ∧ s' = s₁ := by simpa using hzs
      rw [hys, hread ys hys]

end

end SearchKit
