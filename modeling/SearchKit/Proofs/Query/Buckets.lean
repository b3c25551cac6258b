import SearchKit.Proofs.Index.Layering
import SearchKit.Proofs.Session.Reading
import SearchKit.Proofs.Value.Parts
import SearchKit.Query.Distinct

/-!
# Reading the distinct values of a field

The buckets of a field stand in a response at the path `aggregations`, field, `buckets`.  Each step
of the path may be missing, or lead to something that is no map, and then there are no buckets and
so no distinct values.  Two places are read with less care.  What stands under `aggregations` has to
be a map if it is there, so a null there is no missing entry, but a fault; and so is what stands
under `buckets` if it has no items, a null again.  Everything else comes out as it should: the key of
each bucket in order, null for a bucket without one.

* `buckets_of_no_map`, `buckets_of_aggregations` : the first fault, and the value at the path.
* `bucketKeys_of_items`, `bucketKeys_of_no_map`, `bucketKeys_of_no_items` : what the buckets give.
* `bucketKeys_of_response` : **the distinct values in any response**, with
  `bucketKeys_of_nulls` for the two places.
-/

namespace SearchKit

open Act

variable {s : Session} {response v : Value} {field : String} {xs : List Value}

/-! ### The path to the buckets -/

/-- The path to the buckets of a field. -/
def bucketPath (field : String) : List Value :=
  [.str "aggregations", .str field, .str "buckets"]

theorem at?_bucketPath (response : Value) (field : String) :
    response.at? (bucketPath field) = (response.at? [.str "aggregations"]).bind
      (Value.at? [.str field, .str "buckets"]) := by
  cases response with
  | dict es =>
    rw [bucketPath, Value.at?_dict_cons, Value.at?_dict_cons]
    cases Assoc.get? (.str "aggregations") es <;> rfl
  | _ => rfl

theorem isDict_of_at?_bucketPath (h : response.at? (bucketPath field) = some v) :
    ∀ w, response.at? [.str "aggregations"] = some w → w.isDict = true := by
  intro w hw
  by_contra hno
  rw [at?_bucketPath, hw, Option.bind_some,
    Value.at?_cons_of_not_dict (Bool.eq_false_iff.2 hno)] at h
  cases h

/-- Aggregations that are no map are not read any further. -/
theorem buckets_of_no_map (h : response.at? [.str "aggregations"] = some v)
    (hv : v.isDict = false) (field : Value) : buckets response field = .error .noPart := by
  cases response with
  | dict es =>
    obtain ⟨w, hw, hsame⟩ := Option.bind_eq_some_iff.1 h
    obtain rfl : w = v := Option.some.inj hsame
    unfold buckets
    dsimp only
    rw [Assoc.field?, hw]
    cases w with
    | dict aggregations => cases hv
    | _ => rfl
  | _ => cases h

/-- Aggregations that are a map, no entries standing for missing ones, are read up to the buckets of
the field. -/
theorem buckets_dict {es aggregations : Entries}
    (h : (Assoc.field? "aggregations" es).getD (.dict []) = .dict aggregations) (field : String) :
    buckets (.dict es) (.str field) =
      .ok (((Value.dict aggregations).at? [.str field, .str "buckets"]).getD (.list [])) := by
  have hhashable : (Value.str field).hashable = true := by simp [Value.hashable]
  unfold buckets
  dsimp only
  rw [h, Value.at?_dict_cons]
  dsimp only
  rw [if_pos hhashable]
  rcases Assoc.get? (.str field) aggregations with _ | aggregation
  · rfl
  · rw [Option.bind_some]
    cases aggregation with
    | dict entries =>
      dsimp only
      rw [Value.at?_dict_cons, Assoc.field?]
      cases Assoc.get? (.str "buckets") entries <;> rfl
    | _ => rfl

/-- Aggregations that are a map, or missing, are read up to the buckets.  Where the path breaks off,
there are none. -/
theorem buckets_of_aggregations
    (h : ∀ v, response.at? [.str "aggregations"] = some v → v.isDict = true) (field : String) :
    buckets response (.str field) =
      .ok ((response.at? (bucketPath field)).getD (.list [])) := by
  cases response with
  | dict es =>
    rw [bucketPath, Value.at?_dict_cons]
    rcases haggregations : Assoc.get? (.str "aggregations") es with _ | v
    · have hmissing : (Assoc.field? "aggregations" es).getD (.dict []) = .dict [] := by
        rw [Assoc.field?, haggregations, Option.getD_none]
      rw [buckets_dict hmissing]
      rfl
    · have hdict : v.isDict = true := h v (by rw [Value.at?_dict_cons, haggregations]; rfl)
      cases v with
      | dict aggregations =>
        have hthere : (Assoc.field? "aggregations" es).getD (.dict []) = .dict aggregations := by
          rw [Assoc.field?, haggregations, Option.getD_some]
        rw [buckets_dict hthere, Option.bind_some]
      | _ => cases hdict
  | _ => rfl

/-! ### The keys of the buckets -/

theorem bucketKey_of_dict (h : v.isDict = true) :
    bucketKey v = .ok ((v.at? [.str "key"]).getD .null) := by
  cases v with
  | dict entries =>
    rw [bucketKey, Value.at?_dict_cons, Assoc.field?]
    cases Assoc.get? (.str "key") entries <;> rfl
  | _ => cases h

theorem bucketKey_of_no_dict (h : v.isDict = false) : bucketKey v = .error .noPart := by
  cases v with
  | dict entries => cases h
  | _ => rfl

theorem fault_of_bucketKey {fault : Fault} (h : bucketKey v = .error fault) : fault = .noPart := by
  cases hv : v.isDict with
  | true => cases (bucketKey_of_dict hv).symm.trans h
  | false => cases (bucketKey_of_no_dict hv).symm.trans h; rfl

section

variable (h : buckets response (.str field) = .ok v)
include h

theorem outcome_bucketKeys (hxs : v.items? = some xs) (s : Session) :
    (bucketKeys response (.str field)).outcome s = (xs.mapM bucketKey, s) := by
  rw [bucketKeys, h, lift_ok, pure_bind, mapItems_of_items hxs]
  exact outcome_mapM_of_reads fun _ => rfl

/-- Buckets that are maps give their keys in order. -/
theorem bucketKeys_of_items (hxs : v.items? = some xs) (hmaps : ∀ x ∈ xs, x.isDict = true)
    (s : Session) : (bucketKeys response (.str field)).outcome s =
      (.ok (xs.map fun x => (x.at? [.str "key"]).getD .null), s) := by
  have hkeys : xs.mapM bucketKey = .ok (xs.map fun x => (x.at? [.str "key"]).getD .null) := by
    rw [mapM_eq_ok_iff, List.forall₂_map_right_iff, List.forall₂_same]
    exact fun x hx => bucketKey_of_dict (hmaps x hx)
  rw [outcome_bucketKeys h hxs, hkeys]

/-- A bucket that is no map is a fault, whatever comes before it. -/
theorem bucketKeys_of_no_map (hxs : v.items? = some xs) (hno : ∃ x ∈ xs, x.isDict = false)
    (s : Session) : (bucketKeys response (.str field)).outcome s = (.error .noPart, s) := by
  obtain ⟨x, hx, hfault⟩ := hno
  rw [outcome_bucketKeys h hxs, mapM_eq_error ⟨x, hx, bucketKey_of_no_dict hfault⟩
    fun _ _ _ => fault_of_bucketKey]

/-- Buckets without items, which are no sequence either, are a fault. -/
theorem bucketKeys_of_no_items (hnone : v.items? = none) (hread : ∀ id, v ≠ .iterator id)
    (s : Session) : (bucketKeys response (.str field)).outcome s = (.error .wrongType, s) := by
  rw [bucketKeys, h, lift_ok, pure_bind, mapItems, foldItems]
  cases v with
  | iterator id => exact absurd rfl (hread id)
  | _ => first | rfl | cases hnone

end

/-- **The distinct values in any response.**  The path to the buckets of a field may break off at
any of its steps, where an entry is missing or something is no map: then there are no distinct
values, except that it is a fault if what stands under `aggregations` is no map, be it a null.  If
the path leads to a list of maps, or to another value whose items are all maps, these give one value
each, in order: its key, or null if it has none.  An item that is no map is a fault, and so is a
value without items, be it a null.  The session is left as it is. -/
theorem bucketKeys_of_response (response : Value) (field : String) (s : Session) :
    let keys := (bucketKeys response (.str field)).outcome s
    let found := response.at? (bucketPath field)
    (found = none → (∀ v, response.at? [.str "aggregations"] = some v → v.isDict = true) →
      keys = (.ok [], s)) ∧
    (∀ v, response.at? [.str "aggregations"] = some v → v.isDict = false →
      found = none ∧ keys = (.error .noPart, s)) ∧
    (∀ b xs, found = some b → b.items? = some xs →
      ((∀ x ∈ xs, x.isDict = true) →
        keys = (.ok (xs.map fun x => (x.at? [.str "key"]).getD .null), s)) ∧
      ((∃ x ∈ xs, x.isDict = false) → keys = (.error .noPart, s))) ∧
    ∀ b, found = some b → b.items? = none → (∀ id, b ≠ .iterator id) →
      keys = (.error .wrongType, s) := by
  intro keys found
  have hbuckets : ∀ b, found = some b → buckets response (.str field) = .ok b := by
    intro b hb
    have hfound : response.at? (bucketPath field) = some b := hb
    rw [buckets_of_aggregations (isDict_of_at?_bucketPath hfound), hfound, Option.getD_some]
  refine ⟨fun hnone hmap => ?_, fun v hv hno => ⟨?_, ?_⟩, fun b xs hb hxs => ⟨?_, ?_⟩,
    fun b hb hnone hread => bucketKeys_of_no_items (hbuckets b hb) hnone hread s⟩
  · have hfound : response.at? (bucketPath field) = none := hnone
    have hempty := buckets_of_aggregations hmap field
    rw [hfound, Option.getD_none] at hempty
    exact bucketKeys_of_items hempty rfl (by simp) s
  · have hbroken : found = _ := at?_bucketPath response field
    rw [hbroken, hv, Option.bind_some, Value.at?_cons_of_not_dict hno]
  · have hfault : (bucketKeys response (.str field)).outcome s = (.error .noPart, s) := by
      rw [bucketKeys, buckets_of_no_map hv hno]
      rfl
    exact hfault
  · exact fun hmaps => bucketKeys_of_items (hbuckets b hb) hxs hmaps s
  · exact fun hno => bucketKeys_of_no_map (hbuckets b hb) hxs hno s

/-- A response with the buckets of a field. -/
def bucketResponse (field : String) (found : Value) : Value :=
  single "aggregations" (single field (single "buckets" found))

/-- The keys of two buckets, of which one has none. -/
theorem bucketKeys_of_two_buckets :
    let found := Value.list [single "key" (.str "x"), .dict []]
    (bucketResponse "foo" found).at? (bucketPath "foo") = some found ∧
      (bucketKeys (bucketResponse "foo" found) (.str "foo")).outcome {} =
        (.ok [.str "x", .null], {}) := by
  intro found
  have hfound : (bucketResponse "foo" found).at? (bucketPath "foo") = some found := rfl
  obtain ⟨-, -, hitems, -⟩ := bucketKeys_of_response (bucketResponse "foo" found) "foo" {}
  obtain ⟨hkeys, -⟩ := hitems found _ hfound rfl
  exact ⟨hfound, hkeys (by simp [single, Value.isDict, Value.asDict?])⟩

/-- Nulls in two places of the path are faults: under `aggregations`, where the path breaks off, and
under `buckets`. -/
theorem bucketKeys_of_nulls :
    let broken := single "aggregations" .null
    let found := bucketResponse "foo" .null
    broken.at? (bucketPath "foo") = none ∧
      (bucketKeys broken (.str "foo")).outcome {} = (.error .noPart, {}) ∧
      found.at? (bucketPath "foo") = some .null ∧
      (bucketKeys found (.str "foo")).outcome {} = (.error .wrongType, {}) :=
  ⟨rfl, rfl, rfl, rfl⟩

end SearchKit
