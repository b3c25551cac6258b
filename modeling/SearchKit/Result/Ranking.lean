/-!
# Rank order

Records come back from a store in any order, some missing and some too many.  Ranking keeps those
whose key is among the identifiers of the hits and puts them in the order of the hits; an
identifier that occurs twice counts where it occurs last, and records of one key keep their order.

* `rankOf?`: the rank of a key, the place of its last occurrence.
* `ranked`: the records in rank order.
* `rankOf?_isSome_iff`: a key has a rank exactly when it is among the identifiers.
-/

namespace SearchKit

/-- The place of the last occurrence of a key, counted from `start`. -/
def rankFrom? (key : String) (start : Nat) : List String → Option Nat
  | [] => none
  | id :: rest => match rankFrom? key (start + 1) rest with
    | some rank => some rank
    | none => if id = key then some start else none

/-- The rank of a key: the place of its last occurrence among the identifiers. -/
def rankOf? (ids : List String) (key : String) : Option Nat := rankFrom? key 0 ids

/-- Keyed records in rank order, those without a rank left out. -/
def ranked {α : Type} (ids : List String) (records : List (String × α)) : List α :=
  let matched := records.filterMap fun r => (rankOf? ids r.1).map fun rank => (rank, r.2)
  (matched.mergeSort fun a b => decide (a.1 ≤ b.1)).map (·.2)

theorem rankFrom?_isSome_iff {key : String} {start : Nat} {ids : List String} :
    (rankFrom? key start ids).isSome ↔ key ∈ ids := by
  induction ids generalizing start with
  | nil => simp [rankFrom?]
  | cons id rest ih =>
    rw [rankFrom?]
    cases h : rankFrom? key (start + 1) rest with
    | some rank =>
      have := ih.1 (by rw [h]; rfl : (rankFrom? key (start + 1) rest).isSome)
      simp [this]
    | none =>
      have hk : key ∉ rest := fun m => by
        have := (@ih (start + 1)).2 m
        simp [h] at this
      by_cases e : id = key
      · simp [e]
      · simp [e, hk, Ne.symm e]

theorem rankOf?_isSome_iff {ids : List String} {key : String} :
    (rankOf? ids key).isSome ↔ key ∈ ids := rankFrom?_isSome_iff

end SearchKit
