import SearchKit.Engine.Method
import SearchKit.Proofs.Session.Outcome
import Mathlib.Data.List.Basic

/-!
# Objects in a session

Records, sources, providers and components are known to a session by their place or name; what a
call reads of them is decided by the session alone.

* `recordOf?_withRecord` : the records after one of them is changed.
* `outcome_keyOf`, `outcome_rankRecords` : the key that a value answers for, and the order that the
  texts of keys give.
* `outcome_fetch`, `outcome_fetch_rankRecords` : the records of a source, and what is seen of the
  fetch outside.
* `provider_outcome`, `component_outcome` : the provider and the component at a place.
-/

namespace SearchKit

open Act

variable {s : Session}

/-! ### Records -/

theorem recordOf?_eq_some_iff {v : Value} {n : Nat} {r : Record} :
    recordOf? s v = some (n, r) ↔ (∃ label, v = .record n label) ∧ s.records[n]? = some r := by
  cases v with
  | record id label =>
    simp only [recordOf?, Option.map_eq_some_iff, Prod.mk.injEq, Value.record.injEq,
      exists_and_left, exists_eq', and_true]
    constructor
    · rintro ⟨r', hr', rfl, rfl⟩
      exact ⟨rfl, hr'⟩
    · rintro ⟨rfl, hr⟩
      exact ⟨r, hr, rfl, rfl⟩
  | _ => simp [recordOf?]

/-- The session with a record in a place. -/
def Session.withRecord (s : Session) (n : Nat) (r : Record) : Session :=
  { s with records := s.records.set n r }

/-- After a record is changed, all others are what they were. -/
theorem recordOf?_withRecord {n : Nat} {r : Record} (hn : s.records[n]? = some r) (r' : Record)
    (w : Value) : recordOf? (s.withRecord n r') w =
      (recordOf? s w).map fun found => if found.1 = n then (n, r') else found := by
  obtain ⟨hlt, -⟩ := List.getElem?_eq_some_iff.1 hn
  cases w with
  | record m label =>
    simp only [recordOf?, Session.withRecord, Option.map_map]
    by_cases hm : m = n
    · subst hm
      simp [hlt]
    · rw [List.getElem?_set_ne (Ne.symm hm)]
      exact Option.map_congr fun found _ => by simp [hm]
  | _ => rfl

theorem recordOf?_congr {s' : Session} (h : s.records = s'.records) :
    recordOf? s = recordOf? s' := by
  funext v
  cases v <;> simp [recordOf?, h]

/-! ### Keys -/

/-- The key that a value answers for. -/
def Session.key? (s : Session) : Value → Option Value
  | .keyed _ key => some key
  | v => (recordOf? s v).map fun found => found.2.key

/-- The text of the key that a value answers for. -/
def Session.keyText (s : Session) (v : Value) : String := ((s.key? v).getD .null).text

/-- Asking a value for its key reads the records alone. -/
theorem outcome_keyOf (v : Value) : (keyOf v).outcome s =
    (match s.key? v with
      | some key => .ok key
      | none => .error .noPart, s) := by
  cases v with
  | keyed id key => rfl
  | record id label =>
    rw [keyOf, outcome_bind_ok (outcome_get s), Session.key?]
    · cases recordOf? s (.record id label) <;> rfl
    -- a record is not a bare key
    all_goals simp
  | _ => rfl

/-- A value under the text of its key, or why it has none: it answers for no key, or the key is too
long to be written. -/
def Session.keyed (s : Session) (v : Value) : Except Fault (String × Value) :=
  match s.key? v with
  | some key => do return (← key.spell, v)
  | none => .error .noPart

/-- The key that a value answers for can be written. -/
def Session.HasKeyText (s : Session) (v : Value) : Prop :=
  ∃ key, s.key? v = some key ∧ key.hasText = true

theorem keyed_of_hasKeyText {v : Value} (h : s.HasKeyText v) :
    s.keyed v = .ok (s.keyText v, v) := by
  obtain ⟨key, hkey, htext⟩ := h
  rw [Session.keyed, Session.keyText, hkey]
  dsimp only
  rw [Value.spell_of_hasText htext]
  rfl

theorem keyed_of_not_hasKeyText {v : Value} (hkey : (s.key? v).isSome = true)
    (h : ¬ s.HasKeyText v) : s.keyed v = .error (.misuse .badValue) := by
  obtain ⟨key, hkey⟩ := Option.isSome_iff_exists.1 hkey
  have htext : key.hasText = false := Bool.eq_false_iff.2 fun htext => h ⟨key, hkey, htext⟩
  rw [Session.keyed, hkey]
  dsimp only
  rw [Value.spell_of_not_hasText htext]
  rfl

theorem keyed_congr {s' : Session} (h : s.records = s'.records) : s.keyed = s'.keyed := by
  funext v
  unfold Session.keyed Session.key?
  rw [recordOf?_congr h]

/-- Ranking reads the keys of the records and leaves the session alone. -/
theorem outcome_rankRecords (ids : List String) (records : List Value) :
    (rankRecords ids records).outcome s = ((records.mapM s.keyed).map (ranked ids), s) := by
  have hkeyed : ∀ v, (do return (← (← keyOf v).spell, v) : Act (String × Value)).outcome s =
      (s.keyed v, s) := by
    intro v
    rw [outcome_bind, outcome_keyOf, Session.keyed]
    cases s.key? v with
    | none => rfl
    | some key =>
      dsimp only
      rw [outcome_bind, outcome_lift]
      cases key.spell <;> rfl
  rw [rankRecords, outcome_bind, outcome_mapM_of_reads hkeyed]
  cases records.mapM s.keyed <;> rfl

/-! ### Sources -/

/-- The session with a further entry of its trace. -/
def Session.withEvent (s : Session) (e : Event) : Session := { s with trace := s.trace ++ [e] }

theorem outcome_emit (e : Event) (s : Session) : (emit e).outcome s = (.ok (), s.withEvent e) := rfl

theorem theSource_outcome {source : Value} {found : String × Source}
    (h : sourceOf? s source = some found) : (theSource source).outcome s = (.ok found, s) := by
  rw [theSource, outcome_bind_ok (outcome_get s), h]
  rfl

/-- What a source answers a fetch with. -/
def Source.answer (src : Source) : Except Fault (List Value) :=
  match src.failure with
  | some f => .error f.fault
  | none => .ok src.records

theorem outcome_fetch {source : Value} {name : String} {src : Source} {streamed : Bool}
    {ids : List String} (hsource : sourceOf? s source = some (name, src)) :
    (fetch source streamed ids).outcome s =
      (src.answer, s.withEvent (.fetch name streamed ids)) := by
  rw [fetch, outcome_bind_ok (theSource_outcome hsource)]
  dsimp only
  rw [outcome_bind_ok (outcome_emit _ s), Source.answer]
  cases src.failure <;> rfl

/-- The records that a source gives for identifiers, in the order of these, or why there are
none. -/
def Session.fetched (s : Session) (src : Source) (ids : List String) :
    Except Fault (List Value) := do
  let records ← src.answer
  return ranked ids (← records.mapM s.keyed)

theorem fetched_congr {s' : Session} (h : s.records = s'.records) : s.fetched = s'.fetched := by
  funext src ids
  rw [Session.fetched, Session.fetched, keyed_congr h]

/-- Fetching and ranking is one fetch, seen outside, whatever comes of it. -/
theorem outcome_fetch_rankRecords {source : Value} {name : String} {src : Source} {streamed : Bool}
    {ids : List String} (hsource : sourceOf? s source = some (name, src)) :
    (fetch source streamed ids >>= rankRecords ids).outcome s =
      (s.fetched src ids, s.withEvent (.fetch name streamed ids)) := by
  rw [outcome_bind, outcome_fetch hsource, Session.fetched]
  cases src.answer with
  | error fault => rfl
  | ok records =>
    dsimp only
    rw [outcome_rankRecords, keyed_congr (s := s) rfl]
    rfl

/-! ### Providers and components -/

theorem provider_outcome {id : Nat} {p : Provider} (h : s.providers[id]? = some p) :
    (provider id).outcome s = (.ok p, s) := by
  rw [provider, outcome_bind_ok (outcome_get s), h]
  rfl

theorem requireOwn_outcome {id : Nat} {p : Provider} {name : String}
    (h : s.providers[id]? = some p) (hown : p.settings.get? name = none) :
    (requireOwn id name).outcome s = (.ok (), s) := by
  rw [requireOwn, outcome_bind_ok (provider_outcome h), hown]
  rfl

theorem component_outcome {id : Nat} {c : Component} (h : s.components[id]? = some c) :
    (component id).outcome s = (.ok c, s) := by
  rw [component, outcome_bind_ok (outcome_get s), h]
  rfl

end SearchKit
