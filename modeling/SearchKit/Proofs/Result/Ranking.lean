import SearchKit.Result.Ranking
import Mathlib.Data.List.Dedup

/-!
# Ranked records as a walk along the identifiers

Ranking looks up a rank for every record and sorts by it.  What comes out is a walk: along the
identifiers, each taken where it occurs last, all records of that key in the order in which they
came.

* `filter_mergeSort` : sorting by a number is stable: the items of one number keep their order.
* `mergeSort_eq_flatMap` : so the sorted list is the lists of the items of each number, one after
  the other.
* `ranked_eq_flatMap_dedup` : **ranking is the walk**, by induction on the identifiers.
* `ranked_perm` : it leaves out the records without a rank and nothing else.
* `ranked_map_eq_flatMap_dedup`, `flatMap_dedup_perm` : the same for items that are ranked by a text
  of theirs.
-/

namespace SearchKit

variable {α : Type}

/-! ### Sorting by a number -/

/-- The order that items are sorted in by their number. -/
abbrev numberLe (a b : ℕ × α) : Bool := decide (a.1 ≤ b.1)

theorem numberLe_trans (a b c : ℕ × α) (hab : numberLe a b = true) (hbc : numberLe b c = true) :
    numberLe a c = true := by
  simp only [numberLe, decide_eq_true_eq] at *
  omega

theorem numberLe_total (a b : ℕ × α) : (numberLe a b || numberLe b a) = true := by
  simp only [numberLe, Bool.or_eq_true, decide_eq_true_eq]
  omega

/-- Sorting is stable: the items of one number stay in their order. -/
theorem filter_mergeSort (xs : List (ℕ × α)) (k : ℕ) :
    (xs.mergeSort numberLe).filter (fun x => x.1 = k) = xs.filter fun x => x.1 = k := by
  have hsame : (xs.filter fun x => x.1 = k).Pairwise fun a b => numberLe a b = true := by
    refine List.pairwise_of_forall_mem_list fun a ha b hb => ?_
    have ha' := (List.mem_filter.1 ha).2
    have hb' := (List.mem_filter.1 hb).2
    simp only [decide_eq_true_eq] at ha' hb'
    simp [numberLe, ha', hb']
  have hsub : (xs.filter fun x => x.1 = k).Sublist (xs.mergeSort numberLe) :=
    List.sublist_mergeSort numberLe_trans numberLe_total hsame List.filter_sublist
  -- the items of the number are a part of those in the sorted list, and as many
  have hfilter := hsub.filter fun x => x.1 = k
  rw [List.filter_filter] at hfilter
  simp only [Bool.and_self] at hfilter
  refine (hfilter.eq_of_length ?_).symm
  exact ((List.mergeSort_perm xs numberLe).filter _).length_eq.symm

theorem filter_append_filter_of_pairwise {xs : List (ℕ × α)} {start : ℕ}
    (hsorted : xs.Pairwise fun a b => a.1 ≤ b.1) (hlow : ∀ x ∈ xs, start ≤ x.1) :
    xs = (xs.filter fun x => x.1 = start) ++ xs.filter fun x => start < x.1 := by
  induction xs with
  | nil => rfl
  | cons x xs ih =>
    obtain ⟨hx, hxs⟩ := List.pairwise_cons.1 hsorted
    rcases Nat.eq_or_lt_of_le (hlow x List.mem_cons_self) with heq | hlt
    · have := ih hxs fun y hy => hlow y (List.mem_cons_of_mem _ hy)
      rw [List.filter_cons_of_pos (by simp [heq]), List.filter_cons_of_neg (by simp [heq]),
        List.cons_append, ← this]
    · -- everything from here on is above the least number
      have habove : ∀ y ∈ x :: xs, start < y.1 := List.forall_mem_cons.2
        ⟨hlt, fun y hy => Nat.lt_of_lt_of_le hlt (hx y hy)⟩
      have hnone : (x :: xs).filter (fun y => y.1 = start) = [] :=
        List.filter_eq_nil_iff.2 fun y hy => by simpa using Nat.ne_of_gt (habove y hy)
      have hall : (x :: xs).filter (fun y => start < y.1) = x :: xs :=
        List.filter_eq_self.2 fun y hy => by simpa using habove y hy
      rw [hnone, hall, List.nil_append]

theorem eq_flatMap_of_pairwise {xs : List (ℕ × α)} {start n : ℕ}
    (hsorted : xs.Pairwise fun a b => a.1 ≤ b.1) (hlow : ∀ x ∈ xs, start ≤ x.1)
    (hhigh : ∀ x ∈ xs, x.1 < start + n) :
    xs = (List.range' start n).flatMap fun k => xs.filter fun x => x.1 = k := by
  induction n generalizing xs start with
  | zero =>
    have : xs = [] := List.eq_nil_iff_forall_not_mem.2 fun x hx => by
      have := hlow x hx
      have := hhigh x hx
      omega
    simp [this]
  | succ n ih =>
    -- the items above the least number are sorted too, with one number less to go through
    have hrest : (xs.filter fun x => start < x.1) = (List.range' (start + 1) n).flatMap fun k =>
        (xs.filter fun x => start < x.1).filter fun x => x.1 = k := by
      refine ih (hsorted.filter _) (fun x hx => of_decide_eq_true (List.mem_filter.1 hx).2) ?_
      intro x hx
      have := hhigh x (List.mem_filter.1 hx).1
      omega
    have hbuckets : (List.range' (start + 1) n).flatMap (fun k =>
          (xs.filter fun x => start < x.1).filter fun x => x.1 = k) =
        (List.range' (start + 1) n).flatMap fun k => xs.filter fun x => x.1 = k := by
      refine List.flatMap_congr fun k hk => ?_
      have hstart : start < k := by
        have := (List.mem_range'_1.1 hk).1
        omega
      rw [List.filter_filter]
      refine List.filter_congr fun x _ => ?_
      by_cases hx : x.1 = k <;> simp [hx, hstart]
    calc xs = (xs.filter fun x => x.1 = start) ++ xs.filter fun x => start < x.1 :=
          filter_append_filter_of_pairwise hsorted hlow
      _ = (xs.filter fun x => x.1 = start) ++
            (List.range' (start + 1) n).flatMap fun k => xs.filter fun x => x.1 = k := by
          rw [← hbuckets, ← hrest]
      _ = (List.range' start (n + 1)).flatMap fun k => xs.filter fun x => x.1 = k := by
          rw [List.range'_succ, List.flatMap_cons]

/-- Sorting by numbers below `n` puts the lists of the items of each number one after the other. -/
theorem mergeSort_eq_flatMap {xs : List (ℕ × α)} {n : ℕ} (hhigh : ∀ x ∈ xs, x.1 < n) :
    xs.mergeSort numberLe =
      (List.range' 0 n).flatMap fun k => xs.filter fun x => x.1 = k := by
  have hsorted : (xs.mergeSort numberLe).Pairwise fun a b => a.1 ≤ b.1 :=
    (List.pairwise_mergeSort numberLe_trans numberLe_total xs).imp fun h => of_decide_eq_true h
  have hbound : ∀ x ∈ xs.mergeSort numberLe, x.1 < 0 + n := fun x hx => by
    rw [Nat.zero_add]
    exact hhigh x (List.mem_mergeSort.1 hx)
  rw [eq_flatMap_of_pairwise hsorted (fun _ _ => Nat.zero_le _) hbound]
  exact List.flatMap_congr fun k _ => filter_mergeSort xs k

/-! ### Ranks -/

theorem rankFrom?_bounds {key : String} {start rank : ℕ} {ids : List String}
    (h : rankFrom? key start ids = some rank) : start ≤ rank ∧ rank < start + ids.length := by
  induction ids generalizing start with
  | nil => cases h
  | cons id ids ih =>
    rw [rankFrom?] at h
    rw [List.length_cons]
    split at h
    · rename_i hrest
      cases h
      have := ih hrest
      omega
    · split at h
      · cases h
        omega
      · cases h

theorem rankFrom?_cons (key id : String) (start : ℕ) (ids : List String) :
    rankFrom? key start (id :: ids) =
      if key ∈ ids then rankFrom? key (start + 1) ids
      else if id = key then some start else none := by
  have hmem : (rankFrom? key (start + 1) ids).isSome ↔ key ∈ ids := rankFrom?_isSome_iff
  rw [rankFrom?]
  cases hrest : rankFrom? key (start + 1) ids with
  | none => rw [if_neg (mt hmem.2 (by simp [hrest]))]
  | some rank => rw [if_pos (hmem.1 (by simp [hrest]))]

theorem rankFrom?_cons_eq_start_iff {key id : String} {start : ℕ} {ids : List String} :
    rankFrom? key start (id :: ids) = some start ↔ key = id ∧ id ∉ ids := by
  rw [rankFrom?_cons]
  by_cases hkey : key ∈ ids
  · rw [if_pos hkey]
    constructor
    · intro h
      have := (rankFrom?_bounds h).1
      omega
    · rintro ⟨rfl, hid⟩
      exact absurd hkey hid
  · rw [if_neg hkey]
    by_cases hid : id = key
    · simp [hid, hkey]
    · simp [hid, Ne.symm hid]

theorem rankFrom?_cons_eq_iff {key id : String} {start rank : ℕ} {ids : List String}
    (h : start < rank) : rankFrom? key start (id :: ids) = some rank ↔
      rankFrom? key (start + 1) ids = some rank := by
  rw [rankFrom?_cons]
  by_cases hkey : key ∈ ids
  · rw [if_pos hkey]
  · have hnone : rankFrom? key (start + 1) ids = none :=
      Option.not_isSome_iff_eq_none.1 (mt rankFrom?_isSome_iff.1 hkey)
    rw [if_neg hkey, hnone]
    by_cases hid : id = key
    · simp [hid, Nat.ne_of_lt h]
    · simp [hid]

/-- Along the places, the records of the rank of each one; along the identifiers, each where it
occurs last, the records of that key. -/
theorem flatMap_rankFrom?_eq (ids : List String) (records : List (String × α)) (start : ℕ) :
    ((List.range' start ids.length).flatMap fun k =>
        records.filter fun r => rankFrom? r.1 start ids = some k) =
      ids.dedup.flatMap fun id => records.filter fun r => r.1 = id := by
  induction ids generalizing start with
  | nil => rfl
  | cons id ids ih =>
    have hfurther : ((List.range' (start + 1) ids.length).flatMap fun k =>
          records.filter fun r => rankFrom? r.1 start (id :: ids) = some k) =
        ids.dedup.flatMap fun id => records.filter fun r => r.1 = id := by
      rw [← ih (start + 1)]
      refine List.flatMap_congr fun k hk => List.filter_congr fun r _ => ?_
      have hstart : start < k := by
        have := (List.mem_range'_1.1 hk).1
        omega
      rw [decide_eq_decide]
      exact rankFrom?_cons_eq_iff hstart
    rw [List.length_cons, List.range'_succ, List.flatMap_cons, hfurther]
    simp only [rankFrom?_cons_eq_start_iff]
    by_cases hid : id ∈ ids
    · -- the identifier occurs again, so no record has its rank here
      simp [List.dedup_cons_of_mem hid, hid]
    · simp [List.dedup_cons_of_notMem hid, hid]

/-! ### Ranking -/

/-- The records with a rank, numbered by it. -/
def numbered (ids : List String) (records : List (String × α)) : List (ℕ × α) :=
  records.filterMap fun r => (rankOf? ids r.1).map fun rank => (rank, r.2)

theorem numbered_cons (ids : List String) (r : String × α) (records : List (String × α)) :
    numbered ids (r :: records) =
      ((rankOf? ids r.1).map fun rank => (rank, r.2)).toList ++ numbered ids records := by
  rw [numbered, List.filterMap_cons]
  cases rankOf? ids r.1 <;> rfl

theorem map_filter_numbered (ids : List String) (records : List (String × α)) (k : ℕ) :
    ((numbered ids records).filter fun x => x.1 = k).map (·.2) =
      (records.filter fun r => rankOf? ids r.1 = some k).map (·.2) := by
  induction records with
  | nil => rfl
  | cons r records ih =>
    rw [numbered_cons, List.filter_append, List.map_append, ih, List.filter_cons]
    cases hrank : rankOf? ids r.1 with
    | none => simp
    | some rank => by_cases hk : rank = k <;> simp [hk]

theorem map_numbered (ids : List String) (records : List (String × α)) :
    (numbered ids records).map (·.2) = (records.filter fun r => r.1 ∈ ids).map (·.2) := by
  induction records with
  | nil => rfl
  | cons r records ih =>
    rw [numbered_cons, List.map_append, ih, List.filter_cons]
    have hmem : (rankOf? ids r.1).isSome ↔ r.1 ∈ ids := rankOf?_isSome_iff
    cases hrank : rankOf? ids r.1 with
    | none => simp [mt hmem.2 (by simp [hrank])]
    | some rank => simp [hmem.1 (by simp [hrank])]

/-- **Ranking is a walk along the identifiers**: each is taken where it occurs last, and gives all
records of that key in the order in which they came. -/
theorem ranked_eq_flatMap_dedup (ids : List String) (records : List (String × α)) :
    ranked ids records =
      ids.dedup.flatMap fun id => (records.filter fun r => r.1 = id).map (·.2) := by
  have hhigh : ∀ x ∈ numbered ids records, x.1 < ids.length := by
    intro x hx
    obtain ⟨r, -, hr⟩ := List.mem_filterMap.1 hx
    obtain ⟨rank, hrank, rfl⟩ := Option.map_eq_some_iff.1 hr
    have := (rankFrom?_bounds hrank).2
    omega
  calc ranked ids records
      = ((numbered ids records).mergeSort numberLe).map (·.2) := rfl
    _ = (List.range' 0 ids.length).flatMap fun k =>
          ((numbered ids records).filter fun x => x.1 = k).map (·.2) := by
        rw [mergeSort_eq_flatMap hhigh, List.map_flatMap]
    _ = ((List.range' 0 ids.length).flatMap fun k =>
          records.filter fun r => rankOf? ids r.1 = some k).map (·.2) := by
        rw [List.map_flatMap]
        exact List.flatMap_congr fun k _ => map_filter_numbered ids records k
    _ = ids.dedup.flatMap fun id => (records.filter fun r => r.1 = id).map (·.2) := by
        rw [show (fun k => records.filter fun r => rankOf? ids r.1 = some k) =
          fun k => records.filter fun r => rankFrom? r.1 0 ids = some k from rfl,
          flatMap_rankFrom?_eq, List.map_flatMap]

/-- Ranking keeps the records with a key among the identifiers, none of them twice. -/
theorem ranked_perm (ids : List String) (records : List (String × α)) :
    (ranked ids records).Perm ((records.filter fun r => r.1 ∈ ids).map (·.2)) := by
  rw [← map_numbered]
  exact (List.mergeSort_perm (numbered ids records) numberLe).map _

/-- Items ranked by a text of theirs. -/
theorem ranked_map_eq_flatMap_dedup (ids : List String) (xs : List α) (f : α → String) :
    ranked ids (xs.map fun x => (f x, x)) =
      ids.dedup.flatMap fun id => xs.filter fun x => f x = id := by
  rw [ranked_eq_flatMap_dedup]
  refine List.flatMap_congr fun id _ => ?_
  rw [List.filter_map, List.map_map]
  exact List.map_id _

/-- The walk along the identifiers meets every item with a text among them as often as it is
there. -/
theorem flatMap_dedup_perm (ids : List String) (xs : List α) (f : α → String) :
    (ids.dedup.flatMap fun id => xs.filter fun x => f x = id).Perm
      (xs.filter fun x => f x ∈ ids) := by
  have hperm := ranked_perm ids (xs.map fun x => (f x, x))
  rw [ranked_map_eq_flatMap_dedup, List.filter_map, List.map_map] at hperm
  exact hperm.trans (.of_eq (List.map_id _))

end SearchKit
