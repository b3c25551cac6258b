import SearchKit.Proofs.Value.Entries

/-!
# Named fields

Arguments and keywords are fields: values under names in their order.  As entries of a map the
fields keep their names, so what is read from the entries and written into them is read from the
fields and written into them.

* `Fields.Distinct` : each name is held once; then a field is read as it stands
  (`Fields.get?_of_mem`).
* `Entries.toFields?_ofFields`, `Entries.field?_ofFields`, `Entries.set_ofFields`,
  `Entries.update_ofFields` : fields as entries, there and back.
* `Fields.get?_replaced` : the fields after some of their values are replaced.
-/

namespace SearchKit

namespace Fields

variable {fields more : Fields} {name : String}

/-- Each name is held once. -/
def Distinct (fields : Fields) : Prop := (fields.map Prod.fst).Nodup

/-! ### Reading -/

theorem get?_cons (f : String × Value) (fields : Fields) (name : String) :
    get? name (f :: fields) = if f.1 = name then some f.2 else get? name fields := by
  rw [get?, List.lookup_cons]
  by_cases h : f.1 = name
  · simp [h]
  · have hsame : (name == f.1) = false := beq_false_of_ne (Ne.symm h)
    rw [hsame, if_neg h]
    rfl

theorem get?_append (fields more : Fields) (name : String) :
    get? name (fields ++ more) = (get? name fields).or (get? name more) := List.lookup_append

theorem get?_eq_none_iff : get? name fields = none ↔ ∀ f ∈ fields, f.1 ≠ name := by
  rw [get?, List.lookup_eq_none_iff]
  exact forall₂_congr fun f _ => by simpa using ne_comm

theorem mem_of_get? {v : Value} (h : get? name fields = some v) : (name, v) ∈ fields := by
  obtain ⟨before, after, rfl, -⟩ := List.lookup_eq_some_iff.1 h
  simp

theorem get?_of_mem (hdistinct : fields.Distinct) {f : String × Value} (hf : f ∈ fields) :
    get? f.1 fields = some f.2 := by
  induction fields with
  | nil => cases hf
  | cons g fields ih =>
    obtain ⟨hg, hfields⟩ := List.nodup_cons.1 hdistinct
    rw [get?_cons]
    rcases List.mem_cons.1 hf with rfl | hf
    · exact if_pos rfl
    · rw [if_neg fun h : g.1 = f.1 => hg (h ▸ List.mem_map_of_mem hf), ih hfields hf]

theorem get?_erase {other : String} (h : name ≠ other) (fields : Fields) :
    get? name (fields.erase other) = get? name fields := by
  induction fields with
  | nil => rfl
  | cons f fields ih =>
    rw [erase] at ih
    rw [erase, List.filter_cons, get?_cons]
    by_cases hother : f.1 = other
    · have hname : f.1 ≠ name := fun hname => h (hname.symm.trans hother)
      rw [if_neg (by simp [hother]), ih, if_neg hname]
    · rw [if_pos (by simp [hother]), get?_cons, ih]

theorem get?_filter (hdistinct : fields.Distinct) (test : String × Value → Bool) (name : String) :
    get? name (fields.filter test) =
      (get? name fields).bind fun v => if test (name, v) then some v else none := by
  induction fields with
  | nil => rfl
  | cons f fields ih =>
    obtain ⟨hf, hfields⟩ := List.nodup_cons.1 hdistinct
    rw [get?_cons, List.filter_cons]
    by_cases hname : f.1 = name
    · -- no further field has the name
      have habsent : get? name fields = none := get?_eq_none_iff.2 fun g hg hgn =>
        hf (List.mem_map.2 ⟨g, hg, hgn.trans hname.symm⟩)
      subst hname
      by_cases htest : test f = true
      · rw [if_pos htest, get?_cons, if_pos rfl, if_pos rfl]
        simp [htest]
      · rw [if_neg htest, ih hfields, habsent, if_pos rfl]
        simp [htest]
    · rw [if_neg hname, ← ih hfields]
      split
      · rw [get?_cons, if_neg hname]
      · rfl

/-! ### Replacing -/

/-- The fields with the values that others have under their names. -/
def replaced (fields others : Fields) : Fields :=
  fields.map fun f => (f.1, (others.get? f.1).getD f.2)

theorem replaced_cons (f : String × Value) (fields others : Fields) :
    replaced (f :: fields) others = (f.1, (others.get? f.1).getD f.2) :: replaced fields others :=
  rfl

theorem get?_replaced (fields others : Fields) (name : String) :
    get? name (fields.replaced others) =
      (get? name fields).map fun v => (get? name others).getD v := by
  induction fields with
  | nil => rfl
  | cons f fields ih =>
    rw [replaced_cons, get?_cons, get?_cons, ih]
    split
    · rename_i h
      rw [← h]
      rfl
    · rfl

theorem names_replaced (fields others : Fields) :
    (fields.replaced others).map Prod.fst = fields.map Prod.fst := by
  rw [replaced, List.map_map]
  rfl

theorem replaced_nil (fields : Fields) : fields.replaced [] = fields := by
  simp [replaced, get?]

theorem set_replaced {others : Fields} (hdistinct : fields.Distinct) {v w : Value}
    (hname : get? name fields = some v) (hothers : get? name others = none) :
    (fields.replaced others).set name w = fields.replaced (others ++ [(name, w)]) := by
  have hread : ∀ n, get? n (others ++ [(name, w)]) =
      (get? n others).or (if name = n then some w else none) := fun n => by
    rw [get?_append, get?_cons]
    rfl
  induction fields with
  | nil => cases hname
  | cons f fields ih =>
    obtain ⟨hf, hfields⟩ := List.nodup_cons.1 hdistinct
    rw [get?_cons] at hname
    rw [replaced_cons, replaced_cons, set, hread]
    by_cases hfn : f.1 = name
    · -- the further fields have other names and stay as they are
      subst hfn
      rw [if_pos rfl, hothers, if_pos rfl, replaced, replaced]
      refine congrArg (List.cons _) (List.map_congr_left fun g hg => ?_)
      have hg : f.1 ≠ g.1 := fun h => hf (List.mem_map.2 ⟨g, hg, h.symm⟩)
      rw [hread, if_neg hg, Option.or_none]
    · rw [if_neg hfn] at hname
      rw [if_neg hfn, if_neg (Ne.symm hfn), Option.or_none, ih hfields hname]

end Fields

/-! ### Fields as entries -/

namespace Entries

variable {fields more : Fields} {name : String}

theorem toFields?_ofFields (fields : Fields) : (ofFields fields).toFields? = some fields := by
  induction fields with
  | nil => rfl
  | cons f fields ih =>
    rw [toFields?, ofFields, List.map_cons, List.mapM_cons]
    rw [toFields?, ofFields] at ih
    rw [ih]
    rfl

theorem field?_ofFields (fields : Fields) (name : String) :
    (ofFields fields).field? name = fields.get? name := by
  induction fields with
  | nil => rfl
  | cons f fields ih =>
    rw [Fields.get?_cons, ← ih]
    simp [ofFields, Assoc.get?_cons]

theorem set_ofFields (fields : Fields) (name : String) (v : Value) :
    Assoc.set (.str name) v (ofFields fields) = ofFields (fields.set name v) := by
  induction fields with
  | nil => rfl
  | cons f fields ih =>
    rw [ofFields] at ih
    rw [ofFields, List.map_cons, Assoc.set_cons, ih, Fields.set]
    by_cases h : f.1 = name <;> simp [h, ofFields]

theorem distinct_ofFields : (ofFields fields).Distinct ↔ fields.Distinct := by
  rw [Assoc.Distinct, Fields.Distinct, List.Nodup, ofFields, List.pairwise_map, List.pairwise_map]
  simp

theorem ofFields_append (fields more : Fields) :
    ofFields (fields ++ more) = ofFields fields ++ ofFields more := List.map_append

/-- Further fields are written behind the present ones. -/
theorem update_ofFields (h : Fields.Distinct (fields ++ more)) :
    Assoc.update (ofFields fields) (ofFields more) = ofFields (fields ++ more) := by
  rw [ofFields_append]
  exact Assoc.update_of_distinct (by rwa [← ofFields_append, distinct_ofFields])

theorem text_of_mem_ofFields {e : Value × Value} (he : e ∈ ofFields fields) :
    ∃ name, e.1 = .str name := by
  obtain ⟨f, -, rfl⟩ := List.mem_map.1 he
  exact ⟨f.1, rfl⟩

end Entries

end SearchKit
