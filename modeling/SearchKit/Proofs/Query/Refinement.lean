import SearchKit.Proofs.Value.Entries
import SearchKit.Query.Predicates

/-!
# Predicate sets that are refined step by step

A refinement reads and checks all that it is given before it writes; so one that fails has written
nothing.  Only further options are different: they are written as far as they could be read.  What a
refinement says of a field that goes well is one entry, written into the entries of its kind.

* `Refinement.equality?`, `Refinement.members?`, `Refinement.exclusions?`, `Refinement.bounds?`,
  `Refinement.order?` : what a refinement says.
* `PredicateSet.refine_cases` : **what a refinement does**, whether it goes well or not.
* `PredicateSet.Extended` : a predicate set after refinements that have gone well, closed under
  further ones.
-/

namespace SearchKit

/-! ### What a refinement says -/

namespace Refinement

/-- The equality filter that a refinement states. -/
def equality? : Refinement → Option (Value × Value)
  | .filter field value => some (field, value)
  | _ => none

/-- The set filter that a refinement states. -/
def members? : Refinement → Option (Value × List Value)
  | .oneOf field values => values.items?.map (field, ·)
  | _ => none

/-- The exclusion filter that a refinement states. -/
def exclusions? : Refinement → Option (Value × List Value)
  | .noneOf field values => values.items?.map (field, ·)
  | _ => none

/-- The range that a refinement states, by a pair of bounds or by one or two of them. -/
def bounds? : Refinement → Option (Value × RangeBound)
  | .between field values => match values.items? with
    | some [gte, lte] => some (field, ⟨gte, lte⟩)
    | _ => none
  | .range field gte lte => some (field, ⟨gte, lte⟩)
  | _ => none

/-- The sort order that a refinement states. -/
def order? : Refinement → Option SortOrder
  | .orderBy (.str field) (.str direction) => (SortDirection.ofName? direction).map (⟨field, ·⟩)
  | _ => none

end Refinement

/-! ### What a refinement does -/

namespace PredicateSet

variable {p q p' : PredicateSet} {r : Refinement} {rs rs' : List Refinement}

/-- A predicate set after refinements that have gone well: what they say has been written into it,
in their order. -/
structure Extended (p : PredicateSet) (rs : List Refinement) (q : PredicateSet) : Prop where
  /-- The free text is no matter of refinements. -/
  query : q.query = p.query
  wheres : q.wheres = p.wheres.update (rs.filterMap Refinement.equality?)
  whereIns : q.whereIns = p.whereIns.update (rs.filterMap Refinement.members?)
  whereNotIns : q.whereNotIns = p.whereNotIns.update (rs.filterMap Refinement.exclusions?)
  ranges : q.ranges = p.ranges.update (rs.filterMap Refinement.bounds?)
  orders : q.orders = p.orders ++ rs.filterMap Refinement.order?

namespace Extended

theorem of_options (options : Entries) : p.Extended [] { p with options } :=
  ⟨rfl, rfl, rfl, rfl, rfl, (List.append_nil _).symm⟩

theorem trans (h : p.Extended rs q) (h' : q.Extended rs' p') : p.Extended (rs ++ rs') p' where
  query := h'.query.trans h.query
  wheres := by rw [h'.wheres, h.wheres, List.filterMap_append, Assoc.update_append]
  whereIns := by rw [h'.whereIns, h.whereIns, List.filterMap_append, Assoc.update_append]
  whereNotIns := by
    rw [h'.whereNotIns, h.whereNotIns, List.filterMap_append, Assoc.update_append]
  ranges := by rw [h'.ranges, h.ranges, List.filterMap_append, Assoc.update_append]
  orders := by rw [h'.orders, h.orders, List.filterMap_append, List.append_assoc]

end Extended

/-- How a refinement of a set can end. -/
inductive Refined (p : PredicateSet) (r : Refinement) : PredicateSet × Option Fault → Prop
  /-- It goes well, and what it says has been written. -/
  | written {q : PredicateSet} (h : p.Extended [r] q) : Refined p r (q, none)
  /-- It fails, and nothing has been written. -/
  | refused (fault : Fault) : Refined p r (p, some fault)
  /-- Further options have been written as far as they could be read. -/
  | cut {options : Entries} {fault : Fault} (h : r = .withOptions options (some fault)) :
    Refined p r ({ p with options := p.options.update options }, some fault)

theorem Refined.check {α : Type} {e : Except Fault α} {next : α → Writing}
    (h : ∀ a, e = .ok a → p.Refined r (p.after (next a))) :
    p.Refined r (p.after (liftM e >>= next)) := by
  cases e with
  | error fault => exact .refused fault
  | ok a => exact h a rfl

theorem exists_ok_of_check {α : Type} {e : Except Fault α} {next : α → Writing}
    (h : p.after (liftM e >>= next) = (q, none)) : ∃ a, e = .ok a ∧ p.after (next a) = (q, none) := by
  cases e with
  | error fault => cases h
  | ok a => exact ⟨a, rfl, h⟩

theorem putField_ok {α : Type} {field : Value} {a : α} {es es' : Assoc α}
    (h : putField field a es = .ok es') : es' = es.update [(field, a)] := by
  unfold putField at h
  split at h
  · exact (Except.ok.inj h).symm
  · cases h

theorem items_ok {v : Value} {xs : List Value} (h : v.items = .ok xs) : v.items? = some xs := by
  unfold Value.items at h
  split at h
  · rename_i hxs
    rw [hxs, Except.ok.inj h]
  · cases h

theorem order_ok {field direction : Value} {o : SortOrder}
    (h : SortOrder.make field direction = .ok o) :
    Refinement.order? (.orderBy field direction) = some o := by
  unfold SortOrder.make at h
  split at h
  · split at h
    · cases h
    · rename_i hd
      split at h
      · rw [Refinement.order?, hd, ← Except.ok.inj h]
        rfl
      · cases h
  · cases h

theorem Refined.range {field : Value} {bound : RangeBound} (h : r.bounds? = some (field, bound))
    (hother : r.equality? = none ∧ r.members? = none ∧ r.exclusions? = none ∧ r.order? = none) :
    p.Refined r (p.after (writeRange field bound)) := by
  obtain ⟨hequality, hmembers, hexclusions, horder⟩ := hother
  refine .check (e := putField field bound p.ranges) fun ranges hranges => ?_
  rw [putField_ok hranges]
  constructor
  constructor <;> simp [*, Assoc.update]

/-- **What a refinement does.**  It says something of its kind, which is written when nothing is
left to be checked; or it fails, and nothing is written.  Only further options are written before
the rest of them has been read. -/
theorem refine_cases (p : PredicateSet) (r : Refinement) : p.Refined r (p.refine r) := by
  cases r with
  | filter field value =>
    refine .check (e := putField field value p.wheres) fun wheres h => ?_
    rw [putField_ok h]
    exact .written ⟨rfl, rfl, rfl, rfl, rfl, (List.append_nil _).symm⟩
  | oneOf field values =>
    refine .check (e := values.items) fun xs hxs =>
      .check (e := putField field xs p.whereIns) fun whereIns h => ?_
    rw [putField_ok h]
    refine .written ⟨rfl, rfl, ?_, rfl, rfl, (List.append_nil _).symm⟩
    simp [Refinement.members?, items_ok hxs]
  | noneOf field values =>
    refine .check (e := values.items) fun xs hxs =>
      .check (e := putField field xs p.whereNotIns) fun whereNotIns h => ?_
    rw [putField_ok h]
    refine .written ⟨rfl, rfl, rfl, ?_, rfl, (List.append_nil _).symm⟩
    simp [Refinement.exclusions?, items_ok hxs]
  | between field values =>
    refine .check (e := values.items) fun xs hxs => ?_
    split
    · rename_i gte lte
      refine .range ?_ ⟨rfl, rfl, rfl, rfl⟩
      rw [Refinement.bounds?, items_ok hxs]
    · exact .check (e := xs.mapM Value.spell) fun _ _ => .refused _
  | range field gte lte =>
    simp only [refine, Refinement.writing]
    split
    · exact .check (e := field.spell) fun _ _ => .refused _
    · exact .range rfl ⟨rfl, rfl, rfl, rfl⟩
  | orderBy field direction =>
    refine .check (e := SortOrder.make field direction) fun order h => .written ?_
    refine ⟨rfl, rfl, rfl, rfl, rfl, ?_⟩
    rw [List.filterMap_cons, order_ok h]
    rfl
  | withOptions options cut =>
    cases cut with
    | none => exact .written ⟨rfl, rfl, rfl, rfl, rfl, (List.append_nil _).symm⟩
    | some fault => exact .cut rfl
  | take | skip | within | distinctBy | callback =>
    exact .written ⟨rfl, rfl, rfl, rfl, rfl, (List.append_nil _).symm⟩

end PredicateSet

end SearchKit
