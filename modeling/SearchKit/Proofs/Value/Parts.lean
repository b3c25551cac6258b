import SearchKit.Value.Sequence
import Mathlib.Data.List.Forall2

/-!
# The parts of a value

A value is taken apart into the items of its lists and the values of its maps, which is all that
merging, converting and resolving look into.  What they give back is made anew: a list of a source's
collection type comes back as a plain list with the same items.  The two are equal, so equality is
that of what values hold.

* `Value.induction_on_parts` : induction along items and values of entries.
* `Value.content`, `Value.Equal` : what a value holds, whatever the types of its lists, and
  equality of that, with `Value.equal_of_items` and `Value.equal_of_entries` from parts.
* `mapM_eq_ok_iff`, `mapM_values_eq_ok_iff` : a step that goes well on all items of a list, or on
  all values of a map.
* `exists_error_of_mapM`, `exists_error_of_mapM_values` : a step that fails on one of them.
* `Value.mapM_spell_eq_ok_iff`, `Value.mapM_spell_of_not_hasText` : the texts of all values of a list.
* `mapM_congr_of_forall₂` : steps that agree on two lists.
* `exists_forall₂_iff`, `exists_forall₂_values_iff`, `forall₂_and_iff` : relations between lists,
  and between maps with the same keys, item by item.
-/

namespace SearchKit

namespace Value

variable {v : Value} {xs ys : List Value} {es fs : Entries}

theorem asList?_eq_some_iff : v.asList? = some xs ↔ v = .list xs ∨ v = .collection xs := by
  cases v <;> simp [asList?]

/-- What holds of a value whenever it holds of its parts holds of every value. -/
@[elab_as_elim]
theorem induction_on_parts {motive : Value → Prop} (v : Value)
    (items : ∀ v xs, v.asList? = some xs → (∀ x ∈ xs, motive x) → motive v)
    (entries : ∀ es : Entries, (∀ e ∈ es, motive e.2) → motive (.dict es))
    (other : ∀ v, v.asList? = none → v.isDict = false → motive v) : motive v := by
  cases v with
  | list xs => exact items _ xs rfl fun x _ => induction_on_parts x items entries other
  | collection xs => exact items _ xs rfl fun x _ => induction_on_parts x items entries other
  | dict es => exact entries es fun e _ => induction_on_parts e.2 items entries other
  | _ => exact other _ rfl rfl
termination_by sizeOf v
decreasing_by
  · exact Nat.lt_trans (List.sizeOf_lt_of_mem ‹_›) (by simp)
  · exact Nat.lt_trans (List.sizeOf_lt_of_mem ‹_›) (by simp)
  · have hvalue : sizeOf e.2 < sizeOf e := by
      rw [Prod.mk.sizeOf_spec]
      omega
    exact Nat.lt_trans hvalue (Nat.lt_trans (List.sizeOf_lt_of_mem ‹_›) (by simp))

/-! ### Content -/

mutual

/-- What a value holds: the value with every list in it of the plain type. -/
def content : Value → Value
  | .list xs | .collection xs => .list (contents xs)
  | .dict es => .dict (contentsByKey es)
  | v => v

/-- What each of some items holds. -/
def contents : List Value → List Value
  | [] => []
  | x :: xs => x.content :: contents xs

/-- What the value of each of some entries holds. -/
def contentsByKey : List (Value × Value) → List (Value × Value)
  | [] => []
  | (k, v) :: es => (k, v.content) :: contentsByKey es

end

theorem contents_eq_map (xs : List Value) : contents xs = xs.map content := by
  induction xs with
  | nil => rfl
  | cons x xs ih => rw [contents, ih, List.map_cons]

theorem contentsByKey_eq_map (es : Entries) :
    contentsByKey es = es.map fun e => (e.1, e.2.content) := by
  induction es with
  | nil => rfl
  | cons e es ih => rw [contentsByKey, ih, List.map_cons]

/-- Two values are equal: they hold the same. -/
def Equal (v w : Value) : Prop := v.content = w.content

@[refl] theorem Equal.refl (v : Value) : v.Equal v := rfl

/-- A list is equal to every list with equal items, whatever their types. -/
theorem equal_of_items (hv : v.asList? = some xs)
    (h : List.Forall₂ (fun x y => y.Equal x) xs ys) : (Value.list ys).Equal v := by
  have hcontents : ys.map content = xs.map content := by
    rw [← List.forall₂_eq_eq_eq, List.forall₂_map_left_iff, List.forall₂_map_right_iff]
    exact h.flip
  rcases asList?_eq_some_iff.1 hv with rfl | rfl <;>
    rw [Equal, content, content, contents_eq_map, contents_eq_map, hcontents]

/-- Maps with equal values under the same keys are equal. -/
theorem equal_of_entries (h : List.Forall₂ (fun e f => f.1 = e.1 ∧ f.2.Equal e.2) es fs) :
    (Value.dict fs).Equal (.dict es) := by
  have hcontents : fs.map (fun e => (e.1, e.2.content)) = es.map fun e => (e.1, e.2.content) := by
    rw [← List.forall₂_eq_eq_eq, List.forall₂_map_left_iff, List.forall₂_map_right_iff]
    exact h.flip.imp fun f e hef => Prod.ext hef.1 hef.2
  rw [Equal, content, content, contentsByKey_eq_map, contentsByKey_eq_map, hcontents]

end Value

/-! ### Steps on parts -/

section

theorem exists_mem_of_forall₂_left {α β : Type} {R : α → β → Prop} {xs : List α} {ys : List β}
    (h : List.Forall₂ R xs ys) {x : α} (hx : x ∈ xs) : ∃ y ∈ ys, R x y := by
  induction h with
  | nil => cases hx
  | cons hxy _ ih =>
    rcases List.mem_cons.1 hx with rfl | hx
    · exact ⟨_, List.mem_cons_self, hxy⟩
    · obtain ⟨y, hy, hr⟩ := ih hx
      exact ⟨y, List.mem_cons_of_mem _ hy, hr⟩

theorem exists_mem_of_forall₂_right {α β : Type} {R : α → β → Prop} {xs : List α} {ys : List β}
    (h : List.Forall₂ R xs ys) {y : β} (hy : y ∈ ys) : ∃ x ∈ xs, R x y :=
  exists_mem_of_forall₂_left (R := flip R) h.flip hy

/-- Each item of a list has a partner exactly if all of them together have. -/
theorem exists_forall₂_iff {α β : Type} {R : α → β → Prop} {xs : List α} :
    (∃ ys, List.Forall₂ R xs ys) ↔ ∀ x ∈ xs, ∃ y, R x y := by
  refine ⟨fun ⟨ys, h⟩ x hx => ?_, fun h => ?_⟩
  · obtain ⟨y, -, hxy⟩ := exists_mem_of_forall₂_left h hx
    exact ⟨y, hxy⟩
  · induction xs with
    | nil => exact ⟨[], .nil⟩
    | cons x xs ih =>
      obtain ⟨y, hy⟩ := h x List.mem_cons_self
      obtain ⟨ys, hys⟩ := ih fun z hz => h z (List.mem_cons_of_mem _ hz)
      exact ⟨y :: ys, .cons hy hys⟩

/-- Each value of a map has a partner exactly if there is a map of partners under the same keys. -/
theorem exists_forall₂_values_iff {R : Value → Value → Prop} {es : Entries} :
    (∃ fs : Entries, List.Forall₂ (fun e f => f.1 = e.1 ∧ R e.2 f.2) es fs) ↔
      ∀ e ∈ es, ∃ y, R e.2 y := by
  rw [exists_forall₂_iff]
  exact forall₂_congr fun e _ => ⟨fun ⟨f, _, hf⟩ => ⟨f.2, hf⟩, fun ⟨y, hy⟩ => ⟨(e.1, y), rfl, hy⟩⟩

/-- What is related in two ways is so item by item. -/
theorem forall₂_and_iff {α β : Type} {R S : α → β → Prop} {xs : List α} {ys : List β} :
    List.Forall₂ (fun x y => R x y ∧ S x y) xs ys ↔ List.Forall₂ R xs ys ∧ List.Forall₂ S xs ys :=
  ⟨fun h => ⟨h.imp fun _ _ => And.left, h.imp fun _ _ => And.right⟩,
    fun h => h.1.mp (fun _ _ hr hs => ⟨hr, hs⟩) h.2⟩

variable {ε α β : Type} {f : α → Except ε β} {fault : ε}

theorem map_eq_ok_iff {x : Except ε α} {g : α → β} {b : β} :
    x.map g = .ok b ↔ ∃ a, x = .ok a ∧ b = g a := by
  cases x <;> simp [Except.map, eq_comm]

theorem map_eq_error_iff {x : Except ε α} {g : α → β} :
    x.map g = .error fault ↔ x = .error fault := by
  cases x <;> simp [Except.map]

/-- A step goes well on all items of a list when it goes well on each. -/
theorem mapM_eq_ok_iff {xs : List α} {ys : List β} :
    xs.mapM f = .ok ys ↔ List.Forall₂ (fun x y => f x = .ok y) xs ys := by
  induction xs generalizing ys with
  | nil => cases ys <;> simp [pure, Except.pure]
  | cons x xs ih =>
    rw [List.mapM_cons, List.forall₂_cons_left_iff]
    simp only [← ih]
    cases f x <;> cases xs.mapM f <;> simp [bind, Except.bind, pure, Except.pure, eq_comm]

/-- A step goes well on all values of a map when it goes well on each. -/
theorem mapM_values_eq_ok_iff {es : List (Value × α)} {fs : List (Value × β)} :
    (es.mapM fun e => do return (e.1, ← f e.2)) = .ok fs ↔
      List.Forall₂ (fun e g => g.1 = e.1 ∧ f e.2 = .ok g.2) es fs := by
  have hentry : ∀ (e : Value × α) (g : Value × β),
      (do return (e.1, ← f e.2)) = (.ok g : Except ε (Value × β)) ↔
        g.1 = e.1 ∧ f e.2 = .ok g.2 := by
    intro e g
    cases f e.2 <;> simp [bind, Except.bind, pure, Except.pure, Prod.ext_iff, eq_comm]
  rw [mapM_eq_ok_iff]
  simp only [hentry]

/-- A step that fails on a list fails on one of its items. -/
theorem exists_error_of_mapM {xs : List α} (h : xs.mapM f = .error fault) :
    ∃ x ∈ xs, f x = .error fault := by
  induction xs with
  | nil => cases h
  | cons x xs ih =>
    rw [List.mapM_cons] at h
    cases hx : f x with
    | error fault' =>
      rw [hx] at h
      cases h
      exact ⟨x, List.mem_cons_self, hx⟩
    | ok y =>
      cases hxs : xs.mapM f with
      | error fault' =>
        rw [hx, hxs] at h
        cases h
        obtain ⟨z, hz, hfz⟩ := ih hxs
        exact ⟨z, List.mem_cons_of_mem _ hz, hfz⟩
      | ok ys =>
        rw [hx, hxs] at h
        cases h

/-- A step that fails on an item, and with one fault only, fails with it on the list. -/
theorem mapM_eq_error {xs : List α} (hone : ∃ x ∈ xs, f x = .error fault)
    (hall : ∀ x ∈ xs, ∀ fault', f x = .error fault' → fault' = fault) :
    xs.mapM f = .error fault := by
  cases h : xs.mapM f with
  | error fault' =>
    obtain ⟨x, hx, hfault⟩ := exists_error_of_mapM h
    rw [hall x hx fault' hfault]
  | ok ys =>
    obtain ⟨x, hx, hfault⟩ := hone
    obtain ⟨y, -, hy⟩ := exists_mem_of_forall₂_left (mapM_eq_ok_iff.1 h) hx
    rw [hfault] at hy
    cases hy

/-- A step that fails on the values of a map fails on one of them. -/
theorem exists_error_of_mapM_values {es : List (Value × α)}
    (h : (es.mapM fun e => do return (e.1, ← f e.2)) = .error fault) :
    ∃ e ∈ es, f e.2 = .error fault := by
  obtain ⟨e, he, hfault⟩ := exists_error_of_mapM h
  refine ⟨e, he, ?_⟩
  cases hvalue : f e.2 with
  | error fault' => rw [hvalue] at hfault; cases hfault; rfl
  | ok y => rw [hvalue] at hfault; cases hfault

/-- Steps that agree item by item agree on the lists. -/
theorem mapM_congr_of_forall₂ {γ : Type} {g : γ → Except ε β} {xs : List α} {ys : List γ}
    (h : List.Forall₂ (fun x y => f x = g y) xs ys) : xs.mapM f = ys.mapM g := by
  induction h with
  | nil => rfl
  | cons hxy _ ih => rw [List.mapM_cons, List.mapM_cons, hxy, ih]

theorem mapM_congr_of_mem {g : α → Except ε β} {xs : List α} (h : ∀ x ∈ xs, f x = g x) :
    xs.mapM f = xs.mapM g :=
  mapM_congr_of_forall₂ (List.forall₂_same.2 h)

theorem mapM_of_forall_ok {g : α → β} {xs : List α} (h : ∀ x ∈ xs, f x = .ok (g x)) :
    xs.mapM f = .ok (xs.map g) :=
  mapM_eq_ok_iff.2 (List.forall₂_map_right_iff.2 (List.forall₂_same.2 h))

end

namespace Value

theorem mapM_spell_eq_ok_iff {vs : List Value} {texts : List String} :
    vs.mapM spell = .ok texts ↔ (∀ v ∈ vs, v.hasText = true) ∧ texts = vs.map text := by
  constructor
  · intro h
    have hall : ∀ v ∈ vs, v.hasText = true := fun v hv => by
      obtain ⟨t, -, ht⟩ := exists_mem_of_forall₂_left (mapM_eq_ok_iff.1 h) hv
      exact (spell_eq_ok_iff.1 ht).1
    rw [mapM_of_forall_ok fun v hv => spell_of_hasText (hall v hv)] at h
    exact ⟨hall, (Except.ok.inj h).symm⟩
  · rintro ⟨hall, rfl⟩
    exact mapM_of_forall_ok fun v hv => spell_of_hasText (hall v hv)

theorem mapM_spell_of_not_hasText {vs : List Value} (h : ∃ v ∈ vs, v.hasText = false) :
    vs.mapM spell = .error (.misuse .badValue) := by
  obtain ⟨v, hv, htext⟩ := h
  refine mapM_eq_error ⟨v, hv, spell_of_not_hasText htext⟩ fun w _ fault hfault => ?_
  cases hw : w.hasText with
  | true => rw [spell_of_hasText hw] at hfault; cases hfault
  | false => rw [spell_of_not_hasText hw] at hfault; exact (Except.error.inj hfault).symm

end Value

end SearchKit
