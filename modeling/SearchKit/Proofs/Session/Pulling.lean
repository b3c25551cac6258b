import SearchKit.Proofs.Session.Objects
import SearchKit.Proofs.Session.Reading

/-!
# Pulling from a sequence

A sequence that is handed out is pulled from whenever its reader likes, with calls of others in
between.  Where it stands decides what every further pull gives: a sequence whose items are known
gives them one by one and then its end, and one whose records are still to be fetched fetches them
at the first pull, once, and stands at its end when that fails.

* `pullsAmong` : pulls with other calls before each of them, and what is seen of every pull.
* `Act.Spares` : a call that leaves a sequence alone, and what the sequence is to be read from.
* `pull?_of_items`, `pull?_of_deferred` : one pull, from where the sequence stands.
* `pullsAmong_of_items`, `pullsAmong_of_deferred` : any number of pulls, by induction on them.
-/

namespace SearchKit

open Act

variable {s : Session}

/-! ### What is seen of a call -/

/-- What is seen of a call. -/
structure Seen (α : Type) where
  /-- How the call ends. -/
  ends : Except Fault α
  /-- What reaches the outside during the call. -/
  events : List Event

/-- A call with what is seen of it. -/
def Act.seen {α : Type} (act : Act α) : Act (Seen α) := do
  let before ← get
  let ends ← caught act
  let after ← get
  return { ends, events := after.trace.drop before.trace.length }

theorem Act.outcome_seen {α : Type} (act : Act α) (s : Session) :
    act.seen.outcome s =
      (.ok ⟨(act.outcome s).1, (act.outcome s).2.trace.drop s.trace.length⟩, (act.outcome s).2) :=
  rfl

/-- Pulls from a sequence, each of them after a call of somebody else. -/
def pullsAmong (id : Nat) : List (Act Unit) → Act (List (Seen (Option Value)))
  | [] => return []
  | other :: others => do
    let _ ← caught other
    let pulled ← (pull? id).seen
    return pulled :: (← pullsAmong id others)

/-- The call leaves a sequence alone, and the sources and records that it is to be read from. -/
def Act.Spares (id : Nat) (other : Act Unit) : Prop :=
  Keeps (fun s => (s.sequences[id]?, s.sources, s.records)) other

theorem Act.Spares.keeps {id : Nat} {other : Act Unit} (h : other.Spares id) (s : Session) :
    (other.outcome s).2.sequences[id]? = s.sequences[id]? ∧
      (other.outcome s).2.sources = s.sources ∧ (other.outcome s).2.records = s.records := by
  have hview := h s
  simp only [Prod.mk.injEq] at hview
  exact hview

theorem outcome_pullsAmong_cons {id : Nat} {other : Act Unit} {others : List (Act Unit)}
    {pulled : Except Fault (Option Value)} {s₁ s₂ : Session}
    (hother : (other.outcome s).2 = s₁) (hpull : (pull? id).outcome s₁ = (pulled, s₂))
    {further : List (Seen (Option Value))}
    (hfurther : ((pullsAmong id others).outcome s₂).1 = .ok further) :
    ((pullsAmong id (other :: others)).outcome s).1 =
      .ok (⟨pulled, s₂.trace.drop s₁.trace.length⟩ :: further) := by
  have hseen : (pull? id).seen.outcome s₁ = (.ok ⟨pulled, s₂.trace.drop s₁.trace.length⟩, s₂) := by
    rw [outcome_seen, hpull]
  rw [pullsAmong, outcome_bind_ok (outcome_caught other s), hother, outcome_bind_ok hseen,
    outcome_bind]
  rcases h : (pullsAmong id others).outcome s₂ with ⟨fault | rest, s₃⟩
  · rw [h] at hfurther
    cases hfurther
  · rw [h] at hfurther
    cases hfurther
    rfl

/-- The session with a further sequence. -/
def Session.withSequence (s : Session) (q : Sequence) : Session :=
  { s with sequences := s.sequences ++ [q] }

theorem outcome_openSequence (q : Sequence) (s : Session) :
    (openSequence q).outcome s = (.ok (.iterator s.sequences.length), s.withSequence q) := rfl

theorem sequences_withSequence (s : Session) (q : Sequence) :
    (s.withSequence q).sequences[s.sequences.length]? = some q := by
  simp [Session.withSequence]

/-! ### A sequence of known items -/

theorem sequences_withItems {id : Nat} {q : Sequence} (h : s.sequences[id]? = some q)
    (xs : List Value) : (s.withItems id xs).sequences[id]? = some (.items xs) := by
  obtain ⟨hid, -⟩ := List.getElem?_eq_some_iff.1 h
  simp [Session.withItems, hid]

/-- A pull takes the first of the items, and at the end there is none. -/
theorem pull?_of_items {id : Nat} {rest : List Value}
    (h : s.sequences[id]? = some (.items rest)) :
    (pull? id).outcome s = (.ok rest.head?, s.withItems id rest.tail) := by
  cases rest with
  | nil =>
    rw [pull?, outcome_bind_ok (remaining_of_items h), List.tail_nil, withItems_of_items h]
    rfl
  | cons x xs => exact pull?_cons h

/-- Pulled from again and again, a sequence of known items gives them in order and then its end,
and nothing reaches the outside. -/
theorem pullsAmong_of_items {id : Nat} {others : List (Act Unit)}
    (hothers : ∀ other ∈ others, other.Spares id) {rest : List Value}
    (h : s.sequences[id]? = some (.items rest)) :
    ((pullsAmong id others).outcome s).1 =
      .ok ((List.range others.length).map fun k => ⟨.ok rest[k]?, []⟩) := by
  induction others generalizing s rest with
  | nil => rfl
  | cons other others ih =>
    obtain ⟨hstands, -, -⟩ := (hothers other List.mem_cons_self).keeps s
    have hitems := hstands.trans h
    have hfurther := ih (fun o ho => hothers o (List.mem_cons_of_mem _ ho))
      (sequences_withItems hitems rest.tail)
    rw [outcome_pullsAmong_cons rfl (pull?_of_items hitems) hfurther, List.length_cons,
      List.range_succ_eq_map, List.map_cons, List.map_map]
    -- the pull leaves the trace as it is, and what is left is counted from the next item
    have htrace : ((other.outcome s).2.withItems id rest.tail).trace = (other.outcome s).2.trace :=
      rfl
    have hhead : rest.head? = rest[0]? := List.head?_eq_getElem?
    have htail : ∀ k, rest.tail[k]? = rest[k + 1]? := fun k => List.getElem?_tail
    rw [htrace, List.drop_length, hhead]
    simp only [htail]
    rfl

/-! ### A sequence of deferred records -/

/-- The pull of a number, counted from 0, of deferred records: the record in that place and none
behind the last one, or the fault at the first pull alone. -/
def pulledAt (contents : Except Fault (List Value)) (k : Nat) : Except Fault (Option Value) :=
  match contents with
  | .ok walk => .ok walk[k]?
  | .error fault => if k = 0 then .error fault else .ok none

theorem pulledAt_zero (contents : Except Fault (List Value)) :
    pulledAt contents 0 = contents.map List.head? := by
  cases contents with
  | error fault => rfl
  | ok walk => exact congrArg Except.ok List.head?_eq_getElem?.symm

theorem pulledAt_succ (contents : Except Fault (List Value)) (k : Nat) :
    pulledAt contents (k + 1) = .ok (contents.toOption.getD []).tail[k]? := by
  cases contents with
  | error fault => rfl
  | ok walk => exact congrArg Except.ok List.getElem?_tail.symm

variable {id : Nat} {source : Value} {name : String} {src : Source} {ids : List String}

/-- Asked for, deferred records are fetched, seen outside; without an answer the sequence is at its
end. -/
theorem remaining_of_deferred (h : s.sequences[id]? = some (.deferred source ids))
    (hsource : sourceOf? s source = some (name, src)) :
    (remaining id).outcome s = (s.fetched src ids,
      (s.withEvent (.fetch name true ids)).withItems id
        ((s.fetched src ids).toOption.getD [])) := by
  have hfetch : (fetch source true ids >>= rankRecords ids).outcome (s.withItems id []) =
      (s.fetched src ids, (s.withEvent (.fetch name true ids)).withItems id []) := by
    have hsame : (s.withItems id []).fetched = s.fetched := fetched_congr rfl
    rw [outcome_fetch_rankRecords (s := s.withItems id []) hsource, hsame]
    rfl
  have hremaining : (remaining id).outcome s = ((fetch source true ids >>= rankRecords ids) >>=
      fun records => do setSequence id records; return records).outcome (s.withItems id []) := by
    rw [remaining, outcome_bind_ok (outcome_get s), h, bind_assoc]
    exact outcome_bind_ok (outcome_setSequence s id []) _
  rw [hremaining, outcome_bind, hfetch]
  cases s.fetched src ids with
  | error fault => rfl
  | ok walk =>
    dsimp only
    rw [outcome_bind_ok (outcome_setSequence _ id walk), withItems_withItems]
    rfl

/-- The first pull of deferred records fetches them and takes the first one. -/
theorem pull?_of_deferred (h : s.sequences[id]? = some (.deferred source ids))
    (hsource : sourceOf? s source = some (name, src)) :
    (pull? id).outcome s = ((s.fetched src ids).map List.head?,
      (s.withEvent (.fetch name true ids)).withItems id
        ((s.fetched src ids).toOption.getD []).tail) := by
  rw [pull?, outcome_bind, remaining_of_deferred h hsource]
  rcases s.fetched src ids with fault | _ | ⟨x, xs⟩
  · rfl
  · rfl
  · dsimp only
    rw [outcome_bind_ok (outcome_setSequence _ id xs)]
    exact congrArg (Prod.mk _) (withItems_withItems _ id _ xs)

/-- Pulled from again and again, deferred records are fetched at the first pull and at no other:
what the fetch gives comes out in order and then the end, and its fault is the end. -/
theorem pullsAmong_of_deferred {others : List (Act Unit)}
    (hothers : ∀ other ∈ others, other.Spares id)
    (h : s.sequences[id]? = some (.deferred source ids))
    (hsource : sourceOf? s source = some (name, src)) :
    ((pullsAmong id others).outcome s).1 = .ok ((List.range others.length).map fun k =>
      ⟨pulledAt (s.fetched src ids) k, if k = 0 then [.fetch name true ids] else []⟩) := by
  cases others with
  | nil => rfl
  | cons other others =>
    obtain ⟨hstands, hsources, hrecords⟩ := (hothers other List.mem_cons_self).keeps s
    -- the sequence is asked for its records in the session that the other call leaves
    have hdeferred := hstands.trans h
    have hfound : sourceOf? (other.outcome s).2 source = some (name, src) := by
      rw [← hsource]
      cases source <;> simp [sourceOf?, hsources]
    have hfetched : (other.outcome s).2.fetched = s.fetched := fetched_congr hrecords
    have hpull := pull?_of_deferred hdeferred hfound
    rw [hfetched] at hpull
    have hfurther := pullsAmong_of_items (fun o ho => hothers o (List.mem_cons_of_mem _ ho))
      (sequences_withItems (s := (other.outcome s).2.withEvent (.fetch name true ids)) hdeferred
        ((s.fetched src ids).toOption.getD []).tail)
    have hevents : (((other.outcome s).2.withEvent (.fetch name true ids)).withItems id
        ((s.fetched src ids).toOption.getD []).tail).trace.drop (other.outcome s).2.trace.length =
          [.fetch name true ids] := List.drop_left
    rw [outcome_pullsAmong_cons rfl hpull hfurther, hevents, List.length_cons,
      List.range_succ_eq_map, List.map_cons, List.map_map, pulledAt_zero]
    simp [pulledAt_succ, Function.comp_def]

end SearchKit
