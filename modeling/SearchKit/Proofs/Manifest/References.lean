import SearchKit.Manifest.Reference
import SearchKit.Proofs.Value.Entries
import SearchKit.Proofs.Value.Parts
import Mathlib.Data.Finset.Card
import Mathlib.Logic.Relation

/-!
# Resolving the references of a manifest

A reference leads from a text to the value of a variable, which may be larger than the value that it
stands in, so resolving is no recursion along a value.  It ends because of the graph of the
variables: one points to another when its value contains a reference to it.  If no variable leads
back to itself, each has a rank, the number of variables that it leads to, which falls along every
reference and is less than the number of all variables.  `Manifest.follow` takes that number as its
bound, and the bound is never met.

The induction is in two layers.  Along a value, resolving depends on what its references stand for
and on nothing else; along the bound, what a reference stands for depends on the references in the
value of one variable.

* `Value.Contains`, `Value.Refers` : the texts in a value and the names that it refers to.
* `resolveWith_congr`, `exists_refers_of_resolveWith_error`, `exists_ok_of_refers`,
  `contains_of_resolveWith`, `equal_of_resolveWith` : a value resolved with given references.
* `Manifest.PointsTo`, `Manifest.Acyclic`, `Manifest.Leads`, `Manifest.Reaches` : the graph.
* `Manifest.rank_lt_of_pointsTo` : the rank falls along a reference.
* `Manifest.followWithin_eq_error`, `Manifest.followWithin_eq_ok` : what following one reference
  can come to.
* `Manifest.followWithin_of_le`, `Manifest.leads_of_followWithin_error`,
  `Manifest.not_leads_of_followWithin_ok`, `Manifest.contains_of_followWithin` : a reference
  followed as far as it leads.
* `Manifest.resolve_of_acyclic` : **resolving on an acyclic manifest**, with `Manifest.chained` as a
  manifest of two variables.
-/

namespace SearchKit

variable {v w : Value} {xs : List Value} {es : Entries} {s body : String}
  {follow : String → Except Fault Value}

/-! ### Texts that refer to a name -/

/-- The text that refers to a name. -/
def referenceTo (name : String) : String := "$\x7b" ++ name ++ "\x7d"

theorem referenceBody?_referenceTo {name : String} (hempty : name ≠ "")
    (hline : '\n' ∉ name.toList) : referenceBody? (referenceTo name) = some name := by
  have hchars : (referenceTo name).toList = '$' :: '\x7b' :: (name.toList ++ ['\x7d']) := by
    simp [referenceTo]
  have hkept : dropLineEnd ('$' :: '\x7b' :: (name.toList ++ ['\x7d'])) =
      '$' :: '\x7b' :: (name.toList ++ ['\x7d']) := by
    simp [dropLineEnd, List.getLast?_cons]
  rw [referenceBody?, hchars, hkept]
  simp [hempty, hline]

theorem afterStart?_append (start name : String) :
    afterStart? start (start ++ name) = some name := by
  simp [afterStart?]

theorem Reference.ofBody_env (name : String) :
    Reference.ofBody ("env." ++ name) = .environment name := by
  rw [Reference.ofBody, afterStart?_append]

theorem Reference.ofBody_variables (name : String) :
    Reference.ofBody ("variables." ++ name) = .variable name := by
  have henv : afterStart? "env." ("variables." ++ name) = none := by
    simp [afterStart?]
  rw [Reference.ofBody, afterStart?_append, henv]

/-! ### Texts and references in a value -/

namespace Value

/-- A text that the value contains, in the items of lists and the values of maps at any depth. -/
inductive Contains : Value → String → Prop where
  | text (s : String) : Contains (.str s) s
  | item {v x : Value} {xs : List Value} {s : String} (hv : v.asList? = some xs) (hx : x ∈ xs)
      (h : Contains x s) : Contains v s
  | entry {es : Entries} {e : Value × Value} {s : String} (he : e ∈ es) (h : Contains e.2 s) :
      Contains (.dict es) s

/-- The value contains a reference to what a name stands for. -/
def Refers (v : Value) (body : String) : Prop := ∃ s, v.Contains s ∧ referenceBody? s = some body

theorem contains_str_iff {t : String} : (Value.str t).Contains s ↔ s = t := by
  constructor
  · rintro (_ | ⟨hv, -, -⟩)
    · rfl
    · cases hv
  · rintro rfl
    exact .text _

theorem not_contains_null : ¬ Value.null.Contains s := by
  rintro (_ | ⟨hv, -, -⟩)
  cases hv

theorem contains_items_iff (hv : v.asList? = some xs) :
    v.Contains s ↔ ∃ x ∈ xs, x.Contains s := by
  constructor
  · rintro (_ | ⟨hv', hx, h⟩ | _)
    · cases hv
    · cases hv.symm.trans hv'
      exact ⟨_, hx, h⟩
    · cases hv
  · rintro ⟨x, hx, h⟩
    exact .item hv hx h

theorem contains_dict_iff : (Value.dict es).Contains s ↔ ∃ e ∈ es, e.2.Contains s := by
  constructor
  · rintro (_ | ⟨hv, -, -⟩ | ⟨he, h⟩)
    · cases hv
    · exact ⟨_, he, h⟩
  · rintro ⟨e, he, h⟩
    exact .entry he h

theorem refers_str_iff {t : String} : (Value.str t).Refers body ↔ referenceBody? t = some body := by
  simp [Refers, contains_str_iff]

theorem refers_items_iff (hv : v.asList? = some xs) :
    v.Refers body ↔ ∃ x ∈ xs, x.Refers body := by
  simp only [Refers, contains_items_iff hv]
  exact ⟨fun ⟨s, ⟨x, hx, hs⟩, h⟩ => ⟨x, hx, s, hs, h⟩, fun ⟨x, hx, s, hs, h⟩ => ⟨s, ⟨x, hx, hs⟩, h⟩⟩

theorem refers_dict_iff : (Value.dict es).Refers body ↔ ∃ e ∈ es, e.2.Refers body := by
  simp only [Refers, contains_dict_iff]
  exact ⟨fun ⟨s, ⟨e, he, hs⟩, h⟩ => ⟨e, he, s, hs, h⟩, fun ⟨e, he, s, hs, h⟩ => ⟨s, ⟨e, he, hs⟩, h⟩⟩

theorem eq_str_of_refers (hlist : v.asList? = none) (hdict : v.isDict = false)
    (h : v.Refers body) : ∃ t, v = .str t ∧ referenceBody? t = some body := by
  obtain ⟨s, ⟨_⟩ | ⟨hv, -, -⟩ | ⟨-, -⟩, hbody⟩ := h
  · exact ⟨s, rfl, hbody⟩
  · rw [hlist] at hv; cases hv
  · cases hdict

theorem refers_referenceTo_iff {name : String} (hempty : name ≠ "") (hline : '\n' ∉ name.toList) :
    (Value.str (referenceTo name)).Refers body ↔ body = name := by
  rw [refers_str_iff, referenceBody?_referenceTo hempty hline, Option.some_inj, eq_comm]

/-- Induction along resolving: a value is a list, a map, a reference or a value that stands for
itself. -/
@[elab_as_elim]
theorem induction_on_references {motive : Value → Prop} (v : Value)
    (items : ∀ v xs, v.asList? = some xs → (∀ x ∈ xs, motive x) → motive v)
    (entries : ∀ es : Entries, (∀ e ∈ es, motive e.2) → motive (.dict es))
    (reference : ∀ t body, referenceBody? t = some body → motive (.str t))
    (plain : ∀ v, v.asList? = none → v.isDict = false → (∀ body, ¬ v.Refers body) → motive v) :
    motive v := by
  induction v using induction_on_parts with
  | items v xs hv ih => exact items v xs hv ih
  | entries es ih => exact entries es ih
  | other v hlist hdict =>
    by_cases hrefers : ∃ body, v.Refers body
    · obtain ⟨body, hbody⟩ := hrefers
      obtain ⟨t, rfl, ht⟩ := eq_str_of_refers hlist hdict hbody
      exact reference t body ht
    · exact plain v hlist hdict (not_exists.1 hrefers)

end Value

/-! ### Resolving with given references -/

theorem resolveItems_eq_mapM (follow : String → Except Fault Value) (xs : List Value) :
    resolveItems follow xs = xs.mapM (resolveWith follow) := by
  induction xs with
  | nil => rfl
  | cons x xs ih => rw [resolveItems, ih, List.mapM_cons]

theorem resolveEntries_eq_mapM (follow : String → Except Fault Value) (es : Entries) :
    resolveEntries follow es =
      es.mapM fun e : Value × Value => do return (e.1, ← resolveWith follow e.2) := by
  induction es with
  | nil => rfl
  | cons e es ih => rw [resolveEntries, ih, List.mapM_cons, bind_assoc]; simp only [pure_bind]

theorem resolveWith_items (hv : v.asList? = some xs) :
    resolveWith follow v = (xs.mapM (resolveWith follow)).map .list := by
  rcases Value.asList?_eq_some_iff.1 hv with rfl | rfl <;> rw [resolveWith, resolveItems_eq_mapM]

theorem resolveWith_dict :
    resolveWith follow (.dict es) =
      (es.mapM fun e : Value × Value => do return (e.1, ← resolveWith follow e.2)).map .dict := by
  rw [resolveWith, resolveEntries_eq_mapM]

theorem resolveWith_plain (hlist : v.asList? = none) (hdict : v.isDict = false)
    (h : ∀ body, ¬ v.Refers body) : resolveWith follow v = .ok v := by
  cases v with
  | str t =>
    have hbody : referenceBody? t = none :=
      Option.eq_none_iff_forall_ne_some.2 fun body => mt Value.refers_str_iff.2 (h body)
    rw [resolveWith, hbody]
  | dict es => cases hdict
  | list xs => cases hlist
  | collection xs => cases hlist
  | _ => rfl

theorem resolveWith_reference {t : String} (h : referenceBody? t = some body) :
    resolveWith follow (.str t) = follow body := by
  rw [resolveWith, h]

theorem resolveWith_items_eq_ok_iff (hv : v.asList? = some xs) :
    resolveWith follow v = .ok w ↔
      ∃ ys, List.Forall₂ (fun x y => resolveWith follow x = .ok y) xs ys ∧ w = .list ys := by
  rw [resolveWith_items hv, map_eq_ok_iff]
  simp only [mapM_eq_ok_iff]

theorem resolveWith_dict_eq_ok_iff :
    resolveWith follow (.dict es) = .ok w ↔
      ∃ fs, List.Forall₂ (fun e g => g.1 = e.1 ∧ resolveWith follow e.2 = .ok g.2) es fs ∧
        w = .dict fs := by
  rw [resolveWith_dict, map_eq_ok_iff]
  simp only [mapM_values_eq_ok_iff]

/-- What is resolved depends on what the references in it stand for and on nothing else. -/
theorem resolveWith_congr {follow' : String → Except Fault Value}
    (h : ∀ body, v.Refers body → follow body = follow' body) :
    resolveWith follow v = resolveWith follow' v := by
  induction v using Value.induction_on_references with
  | items v xs hv ih =>
    rw [resolveWith_items hv, resolveWith_items hv, mapM_congr_of_mem fun x hx =>
      ih x hx fun body hbody => h body ((Value.refers_items_iff hv).2 ⟨x, hx, hbody⟩)]
  | entries es ih =>
    rw [resolveWith_dict, resolveWith_dict, mapM_congr_of_mem fun e he => by
      rw [ih e he fun body hbody => h body (Value.refers_dict_iff.2 ⟨e, he, hbody⟩)]]
  | reference t body ht =>
    rw [resolveWith_reference ht, resolveWith_reference ht]
    exact h body (Value.refers_str_iff.2 ht)
  | plain v hlist hdict hnone =>
    rw [resolveWith_plain hlist hdict hnone, resolveWith_plain hlist hdict hnone]

/-- A value that cannot be resolved contains a reference that stands for nothing. -/
theorem exists_refers_of_resolveWith_error {fault : Fault}
    (h : resolveWith follow v = .error fault) :
    ∃ body, v.Refers body ∧ follow body = .error fault := by
  induction v using Value.induction_on_references with
  | items v xs hv ih =>
    rw [resolveWith_items hv, map_eq_error_iff] at h
    obtain ⟨x, hx, hfault⟩ := exists_error_of_mapM h
    obtain ⟨body, hbody, hfollow⟩ := ih x hx hfault
    exact ⟨body, (Value.refers_items_iff hv).2 ⟨x, hx, hbody⟩, hfollow⟩
  | entries es ih =>
    rw [resolveWith_dict, map_eq_error_iff] at h
    obtain ⟨e, he, hfault⟩ := exists_error_of_mapM_values h
    obtain ⟨body, hbody, hfollow⟩ := ih e he hfault
    exact ⟨body, Value.refers_dict_iff.2 ⟨e, he, hbody⟩, hfollow⟩
  | reference t body ht =>
    rw [resolveWith_reference ht] at h
    exact ⟨body, Value.refers_str_iff.2 ht, h⟩
  | plain v hlist hdict hnone =>
    rw [resolveWith_plain hlist hdict hnone] at h
    cases h

/-- In a value that is resolved, every reference stands for something. -/
theorem exists_ok_of_refers (h : resolveWith follow v = .ok w) (hbody : v.Refers body) :
    ∃ x, follow body = .ok x := by
  induction v using Value.induction_on_references generalizing w with
  | items v xs hv ih =>
    obtain ⟨ys, hys, -⟩ := (resolveWith_items_eq_ok_iff hv).1 h
    obtain ⟨x, hx, hbody⟩ := (Value.refers_items_iff hv).1 hbody
    obtain ⟨y, -, hy⟩ := exists_mem_of_forall₂_left hys hx
    exact ih x hx hy hbody
  | entries es ih =>
    obtain ⟨fs, hfs, -⟩ := resolveWith_dict_eq_ok_iff.1 h
    obtain ⟨e, he, hbody⟩ := Value.refers_dict_iff.1 hbody
    obtain ⟨g, -, -, hg⟩ := exists_mem_of_forall₂_left hfs he
    exact ih e he hg hbody
  | reference t body' ht =>
    cases ht.symm.trans (Value.refers_str_iff.1 hbody)
    exact ⟨w, (resolveWith_reference ht).symm.trans h⟩
  | plain v hlist hdict hnone => exact absurd hbody (hnone body)

/-- A text in what a value resolves to is a text of the value that is no reference, or a text of
what a reference in it stands for. -/
theorem contains_of_resolveWith (h : resolveWith follow v = .ok w) (hs : w.Contains s) :
    referenceBody? s = none ∨ ∃ body x, v.Refers body ∧ follow body = .ok x ∧ x.Contains s := by
  induction v using Value.induction_on_references generalizing w with
  | items v xs hv ih =>
    obtain ⟨ys, hys, rfl⟩ := (resolveWith_items_eq_ok_iff hv).1 h
    obtain ⟨y, hy, hs⟩ := (Value.contains_items_iff rfl).1 hs
    obtain ⟨x, hx, hres⟩ := exists_mem_of_forall₂_right hys hy
    refine (ih x hx hres hs).imp_right ?_
    rintro ⟨body, z, hbody, hz⟩
    exact ⟨body, z, (Value.refers_items_iff hv).2 ⟨x, hx, hbody⟩, hz⟩
  | entries es ih =>
    obtain ⟨fs, hfs, rfl⟩ := resolveWith_dict_eq_ok_iff.1 h
    obtain ⟨g, hg, hs⟩ := Value.contains_dict_iff.1 hs
    obtain ⟨e, he, -, hres⟩ := exists_mem_of_forall₂_right hfs hg
    refine (ih e he hres hs).imp_right ?_
    rintro ⟨body, z, hbody, hz⟩
    exact ⟨body, z, Value.refers_dict_iff.2 ⟨e, he, hbody⟩, hz⟩
  | reference t body ht =>
    rw [resolveWith_reference ht] at h
    exact .inr ⟨body, w, Value.refers_str_iff.2 ht, h, hs⟩
  | plain v hlist hdict hnone =>
    rw [resolveWith_plain hlist hdict hnone] at h
    cases h
    exact .inl (Option.eq_none_iff_forall_ne_some.2 fun body hbody => hnone body ⟨s, hs, hbody⟩)

/-- A value without references is resolved to an equal one. -/
theorem equal_of_resolveWith (h : resolveWith follow v = .ok w) (hnone : ∀ body, ¬ v.Refers body) :
    w.Equal v := by
  induction v using Value.induction_on_references generalizing w with
  | items v xs hv ih =>
    obtain ⟨ys, hys, rfl⟩ := (resolveWith_items_eq_ok_iff hv).1 h
    have hitems : ∀ x ∈ xs, ∀ body, ¬ x.Refers body := fun x hx body hbody =>
      hnone body ((Value.refers_items_iff hv).2 ⟨x, hx, hbody⟩)
    have hequal : ∀ x ∈ xs, ∀ y, resolveWith follow x = .ok y → y.Equal x := fun x hx y hy =>
      ih x hx hy (hitems x hx)
    exact Value.equal_of_items hv
      (((List.forall₂_and_left _ _).2 ⟨hequal, hys⟩).imp fun x y hxy => hxy.1 y hxy.2)
  | entries es ih =>
    obtain ⟨fs, hfs, rfl⟩ := resolveWith_dict_eq_ok_iff.1 h
    have hvalues : ∀ e ∈ es, ∀ body, ¬ e.2.Refers body := fun e he body hbody =>
      hnone body (Value.refers_dict_iff.2 ⟨e, he, hbody⟩)
    have hequal : ∀ e ∈ es, ∀ y, resolveWith follow e.2 = .ok y → y.Equal e.2 := fun e he y hy =>
      ih e he hy (hvalues e he)
    exact Value.equal_of_entries
      (((List.forall₂_and_left _ _).2 ⟨hequal, hfs⟩).imp fun e g heg => ⟨heg.2.1, heg.1 _ heg.2.2⟩)
  | reference t body ht => exact absurd (Value.refers_str_iff.2 ht) (hnone body)
  | plain v hlist hdict =>
    rw [resolveWith_plain hlist hdict hnone] at h
    cases h
    rfl

namespace Manifest

variable {m : Manifest} {env : Environment} {a b name bad : String} {r : Reference} {fuel n : Nat}

/-! ### The graph of the variables -/

/-- A variable points to another one: its value contains a reference to it. -/
def PointsTo (m : Manifest) (a b : String) : Prop :=
  ∃ v body, m.values.field? a = some v ∧ v.Refers body ∧ Reference.ofBody body = .variable b

/-- No variable leads back to itself. -/
def Acyclic (m : Manifest) : Prop := ∀ a, ¬ Relation.TransGen m.PointsTo a a

/-- A reference leads to another one through the values of variables. -/
inductive Leads (m : Manifest) : Reference → Reference → Prop where
  | here (r : Reference) : Leads m r r
  | through {name : String} {v : Value} {body : String} {r : Reference}
      (hv : m.values.field? name = some v) (hbody : v.Refers body)
      (h : Leads m (.ofBody body) r) : Leads m (.variable name) r

/-- A reference is reachable from a value: a reference in the value leads to it. -/
def Reaches (m : Manifest) (v : Value) (r : Reference) : Prop :=
  ∃ body, v.Refers body ∧ m.Leads (.ofBody body) r

/-- The names of the variables that have a value. -/
def names (m : Manifest) : Finset String := (m.values.filterMap fun e => e.1.asStr?).toFinset

theorem mem_names (h : m.values.field? a = some v) : a ∈ m.names := by
  obtain ⟨e, he, hkey, -⟩ := Assoc.exists_of_get? h
  refine List.mem_toFinset.2 (List.mem_filterMap.2 ⟨e, he, ?_⟩)
  rw [Value.sameKey_str_right.1 hkey]
  rfl

theorem card_names_le : m.names.card ≤ m.values.length :=
  (List.toFinset_card_le _).trans (List.length_filterMap_le _ _)

open Classical in
/-- The number of variables that a variable leads to. -/
noncomputable def rank (m : Manifest) (a : String) : Nat :=
  (m.names.filter (Relation.TransGen m.PointsTo a)).card

theorem rank_lt_card_names (hm : m.Acyclic) (h : m.values.field? a = some v) :
    m.rank a < m.names.card := by
  classical
  exact Finset.card_lt_card (Finset.filter_ssubset.2 ⟨a, mem_names h, hm a⟩)

/-- A variable leads to fewer variables than one that points to it. -/
theorem rank_lt_of_pointsTo (hm : m.Acyclic) (hab : m.PointsTo a b)
    (hb : m.values.field? b = some v) : m.rank b < m.rank a := by
  classical
  refine Finset.card_lt_card ⟨fun c hc => ?_, fun hsub => ?_⟩
  · obtain ⟨hname, hlead⟩ := Finset.mem_filter.1 hc
    exact Finset.mem_filter.2 ⟨hname, .head hab hlead⟩
  · have hself := hsub (Finset.mem_filter.2 ⟨mem_names hb, .single hab⟩)
    exact hm b (Finset.mem_filter.1 hself).2

/-! ### Following a reference -/

theorem followWithin_environment (h : Reference.ofBody body = .environment name) :
    m.followWithin env fuel body = .ok (((env.lookup name).map Value.str).getD .null) := by
  cases fuel <;> rw [followWithin, h]

theorem followWithin_unknown (h : Reference.ofBody body = .unknown bad) :
    m.followWithin env fuel body = .error (.load (.badReference bad)) := by
  cases fuel <;> rw [followWithin, h]

theorem followWithin_absent (h : Reference.ofBody body = .variable name)
    (hv : m.values.field? name = none) : m.followWithin env fuel body = .ok .null := by
  cases fuel <;> rw [followWithin, h] <;> simp only [hv]

theorem followWithin_succ (h : Reference.ofBody body = .variable name)
    (hv : m.values.field? name = some v) :
    m.followWithin env (fuel + 1) body = resolveWith (m.followWithin env fuel) v := by
  rw [followWithin, h]
  simp only [hv]

/-- A reference that stands for nothing is not known, or following the variable that it names comes
to nothing. -/
theorem followWithin_eq_error {fault : Fault} (h : m.followWithin env fuel body = .error fault) :
    (∃ bad, Reference.ofBody body = .unknown bad ∧ fault = .load (.badReference bad)) ∨
      ∃ name v, Reference.ofBody body = .variable name ∧ m.values.field? name = some v ∧
        (fuel = 0 ∨ ∃ k, fuel = k + 1 ∧ resolveWith (m.followWithin env k) v = .error fault) := by
  rcases hr : Reference.ofBody body with name | name | bad
  · rw [followWithin_environment hr] at h
    cases h
  · rcases hv : m.values.field? name with _ | v
    · rw [followWithin_absent hr hv] at h
      cases h
    · refine .inr ⟨name, v, rfl, hv, ?_⟩
      cases fuel with
      | zero => exact .inl rfl
      | succ k => exact .inr ⟨k, rfl, (followWithin_succ hr hv).symm.trans h⟩
  · rw [followWithin_unknown hr] at h
    cases h
    exact .inl ⟨bad, rfl, rfl⟩

/-- A reference stands for a variable of the environment, for null, or for what the value of the
variable that it names resolves to. -/
theorem followWithin_eq_ok (h : m.followWithin env fuel body = .ok w) :
    (∃ name, Reference.ofBody body = .environment name ∧
        w = ((env.lookup name).map Value.str).getD .null) ∨
      (∃ name, Reference.ofBody body = .variable name ∧ m.values.field? name = none ∧ w = .null) ∨
      ∃ name v k, Reference.ofBody body = .variable name ∧ m.values.field? name = some v ∧
        fuel = k + 1 ∧ resolveWith (m.followWithin env k) v = .ok w := by
  rcases hr : Reference.ofBody body with name | name | bad
  · rw [followWithin_environment hr] at h
    cases h
    exact .inl ⟨name, rfl, rfl⟩
  · rcases hv : m.values.field? name with _ | v
    · rw [followWithin_absent hr hv] at h
      cases h
      exact .inr (.inl ⟨name, rfl, hv, rfl⟩)
    · cases fuel with
      | zero =>
        rw [followWithin, hr] at h
        simp only [hv] at h
        cases h
      | succ k =>
        exact .inr (.inr ⟨name, v, k, rfl, hv, rfl, (followWithin_succ hr hv).symm.trans h⟩)
  · rw [followWithin_unknown hr] at h
    cases h

/-- The bound suffices for a reference: the variable that it names, if any, has a smaller rank. -/
def Within (m : Manifest) (fuel : Nat) (body : String) : Prop :=
  ∀ a v, Reference.ofBody body = .variable a → m.values.field? a = some v → m.rank a < fuel

theorem within_length (hm : m.Acyclic) (body : String) : m.Within m.values.length body :=
  fun _ _ _ hv => (rank_lt_card_names hm hv).trans_le card_names_le

theorem Within.of_refers (hm : m.Acyclic) (h : m.Within (fuel + 1) body)
    (hname : Reference.ofBody body = .variable name) (hv : m.values.field? name = some v)
    {next : String} (hnext : v.Refers next) : m.Within fuel next := by
  intro b x hb hx
  have hless : m.rank b < m.rank name := rank_lt_of_pointsTo hm ⟨v, next, hv, hnext, hb⟩ hx
  exact Nat.lt_of_lt_of_le hless (Nat.le_of_lt_succ (h name v hname hv))

theorem Within.exists_succ (h : m.Within fuel body) (hname : Reference.ofBody body = .variable name)
    (hv : m.values.field? name = some v) : ∃ k, fuel = k + 1 :=
  Nat.exists_eq_succ_of_ne_zero (Nat.ne_zero_of_lt (h name v hname hv))

/-- A higher bound changes nothing where the bound suffices. -/
theorem followWithin_of_le (hm : m.Acyclic) (h : m.Within fuel body) (hn : fuel ≤ n) :
    m.followWithin env n body = m.followWithin env fuel body := by
  induction n generalizing body fuel with
  | zero => rw [Nat.le_zero.1 hn]
  | succ n ih =>
    rcases hr : Reference.ofBody body with name | name | bad
    · rw [followWithin_environment hr, followWithin_environment hr]
    · rcases hv : m.values.field? name with _ | v
      · rw [followWithin_absent hr hv, followWithin_absent hr hv]
      · obtain ⟨k, rfl⟩ := h.exists_succ hr hv
        rw [followWithin_succ hr hv, followWithin_succ hr hv]
        exact resolveWith_congr fun next hnext =>
          ih (h.of_refers hm hr hv hnext) (Nat.le_of_succ_le_succ hn)
    · rw [followWithin_unknown hr, followWithin_unknown hr]

/-- Where the bound suffices, a reference stands for nothing only because it leads to one that is
not known. -/
theorem leads_of_followWithin_error (hm : m.Acyclic) (h : m.Within fuel body) {fault : Fault}
    (herror : m.followWithin env fuel body = .error fault) :
    ∃ bad, fault = .load (.badReference bad) ∧ m.Leads (.ofBody body) (.unknown bad) := by
  induction fuel using Nat.strong_induction_on generalizing body with
  | _ fuel ih =>
    rcases followWithin_eq_error herror with ⟨bad, hr, rfl⟩ | ⟨name, v, hr, hv, hfuel⟩
    · exact ⟨bad, rfl, hr ▸ .here _⟩
    · rcases hfuel with rfl | ⟨k, rfl, hres⟩
      · exact absurd (h name v hr hv) (Nat.not_lt_zero _)
      · obtain ⟨next, hnext, hfollow⟩ := exists_refers_of_resolveWith_error hres
        obtain ⟨bad, rfl, hlead⟩ :=
          ih k (Nat.lt_succ_self k) (h.of_refers hm hr hv hnext) hfollow
        exact ⟨bad, rfl, hr ▸ .through hv hnext hlead⟩

/-- A reference that stands for something leads to none that is not known. -/
theorem not_leads_of_followWithin_ok (h : m.followWithin env fuel body = .ok w) :
    ¬ m.Leads (.ofBody body) (.unknown bad) := by
  induction fuel using Nat.strong_induction_on generalizing body w with
  | _ fuel ih =>
    rcases followWithin_eq_ok h with
      ⟨name, hr, -⟩ | ⟨name, hr, hv, -⟩ | ⟨name, v, k, hr, hv, rfl, hres⟩
    · rw [hr]
      rintro ⟨⟩
    · rw [hr]
      rintro (_ | ⟨hv', -, -⟩)
      cases hv.symm.trans hv'
    · rw [hr]
      rintro (_ | ⟨hv', hnext, hlead⟩)
      cases hv.symm.trans hv'
      obtain ⟨x, hx⟩ := exists_ok_of_refers hres hnext
      exact ih k (Nat.lt_succ_self k) hx hlead

/-- A reference in what a reference stands for comes from the environment. -/
theorem contains_of_followWithin (h : m.followWithin env fuel body = .ok w) (hs : w.Contains s) :
    referenceBody? s = none ∨
      ∃ name, m.Leads (.ofBody body) (.environment name) ∧ env.lookup name = some s := by
  induction fuel using Nat.strong_induction_on generalizing body w with
  | _ fuel ih =>
    rcases followWithin_eq_ok h with
      ⟨name, hr, rfl⟩ | ⟨name, hr, -, rfl⟩ | ⟨name, v, k, hr, hv, rfl, hres⟩
    · refine .inr ⟨name, hr ▸ .here _, ?_⟩
      rcases hlookup : env.lookup name with _ | t
      · rw [hlookup] at hs
        exact absurd hs Value.not_contains_null
      · rw [hlookup] at hs
        rw [Value.contains_str_iff.1 hs]
    · exact absurd hs Value.not_contains_null
    · rcases contains_of_resolveWith hres hs with hnone | ⟨next, x, hnext, hx, hs⟩
      · exact .inl hnone
      · refine (ih k (Nat.lt_succ_self k) hx hs).imp_right ?_
        rintro ⟨name', hlead, hlookup⟩
        exact ⟨name', hr ▸ .through hv hnext hlead, hlookup⟩

/-! ### Resolving a value -/

theorem resolve_of_le (hm : m.Acyclic) (hn : m.values.length ≤ n) :
    resolveWith (m.followWithin env n) v = m.resolve env v :=
  resolveWith_congr fun body _ => followWithin_of_le hm (within_length hm body) hn

theorem reaches_of_resolve_error (hm : m.Acyclic) {fault : Fault}
    (h : m.resolve env v = .error fault) :
    ∃ bad, fault = .load (.badReference bad) ∧ m.Reaches v (.unknown bad) := by
  obtain ⟨body, hbody, hfollow⟩ := exists_refers_of_resolveWith_error h
  obtain ⟨bad, hbad, hlead⟩ := leads_of_followWithin_error hm (within_length hm body) hfollow
  exact ⟨bad, hbad, body, hbody, hlead⟩

theorem not_reaches_of_resolve_ok (h : m.resolve env v = .ok w) : ¬ m.Reaches v (.unknown bad) := by
  rintro ⟨body, hbody, hlead⟩
  obtain ⟨x, hx⟩ := exists_ok_of_refers h hbody
  exact not_leads_of_followWithin_ok hx hlead

theorem exists_resolve_ok (hm : m.Acyclic) (env : Environment)
    (h : ∀ bad, ¬ m.Reaches v (.unknown bad)) : ∃ w, m.resolve env v = .ok w := by
  cases hres : m.resolve env v with
  | ok w => exact ⟨w, rfl⟩
  | error fault =>
    obtain ⟨bad, -, hreach⟩ := reaches_of_resolve_error hm hres
    exact absurd hreach (h bad)

theorem contains_of_resolve (h : m.resolve env v = .ok w) (hs : w.Contains s) :
    referenceBody? s = none ∨
      ∃ name, m.Reaches v (.environment name) ∧ env.lookup name = some s := by
  rcases contains_of_resolveWith h hs with hplain | ⟨body, x, hbody, hx, hs⟩
  · exact .inl hplain
  · refine (contains_of_followWithin hx hs).imp_right ?_
    rintro ⟨name, hlead, hlookup⟩
    exact ⟨name, ⟨body, hbody, hlead⟩, hlookup⟩

/-- **Resolving on an acyclic manifest.**  A higher bound than the number of the variables changes
nothing, so the bound is never met.  Resolving refuses a value exactly if a reference that is not
known is reachable from it, and names such a reference.  Else it ends in a value whose texts are no
references, but for those that the environment holds as they are.  A value from which no reference
is reachable comes back equal. -/
theorem resolve_of_acyclic (hm : m.Acyclic) (env : Environment) (v : Value) :
    (∀ n, m.values.length ≤ n → resolveWith (m.followWithin env n) v = m.resolve env v) ∧
      ((∃ cause, m.resolve env v = .error (.load cause)) ↔ ∃ bad, m.Reaches v (.unknown bad)) ∧
      (∀ fault, m.resolve env v = .error fault →
        ∃ bad, fault = .load (.badReference bad) ∧ m.Reaches v (.unknown bad)) ∧
      ((∀ bad, ¬ m.Reaches v (.unknown bad)) → ∃ w, m.resolve env v = .ok w ∧
        ∀ s, w.Contains s → referenceBody? s = none ∨
          ∃ name, m.Reaches v (.environment name) ∧ env.lookup name = some s) ∧
      ((∀ r, ¬ m.Reaches v r) → ∃ w, m.resolve env v = .ok w ∧ w.Equal v) := by
  refine ⟨fun n hn => resolve_of_le hm hn, ⟨?_, ?_⟩, fun fault => reaches_of_resolve_error hm,
    fun hnone => ?_, fun hnone => ?_⟩
  · rintro ⟨cause, h⟩
    obtain ⟨bad, -, hreach⟩ := reaches_of_resolve_error hm h
    exact ⟨bad, hreach⟩
  · rintro ⟨bad, hreach⟩
    cases hres : m.resolve env v with
    | ok w => exact absurd hreach (not_reaches_of_resolve_ok hres)
    | error fault =>
      obtain ⟨other, rfl, -⟩ := reaches_of_resolve_error hm hres
      exact ⟨_, rfl⟩
  · obtain ⟨w, hw⟩ := exists_resolve_ok hm env hnone
    exact ⟨w, hw, fun s => contains_of_resolve hw⟩
  · obtain ⟨w, hw⟩ := exists_resolve_ok hm env fun bad => hnone _
    exact ⟨w, hw, equal_of_resolveWith hw fun body hbody => hnone _ ⟨body, hbody, .here _⟩⟩

theorem acyclic_of_lt (f : String → Nat) (h : ∀ a b, m.PointsTo a b → f b < f a) : m.Acyclic := by
  have hfall : ∀ a b, Relation.TransGen m.PointsTo a b → f b < f a := by
    intro a b hab
    induction hab with
    | single hab => exact h _ _ hab
    | tail _ hbc ih => exact (h _ _ hbc).trans ih
  exact fun a haa => Nat.lt_irrefl _ (hfall a a haa)

/-- Two variables, of which the first refers to the second and the second to the environment. -/
def chained : Manifest where
  values := [(.str "primary", .dict [(.str "nodes", .str (referenceTo ("variables." ++ "nodes")))]),
    (.str "nodes", .list [.str (referenceTo ("env." ++ "NODE")), .int 2])]
  components := []
  bindings := []

theorem chained_acyclic : chained.Acyclic := by
  refine acyclic_of_lt (fun a => if a = "primary" then 1 else 0) ?_
  rintro a b ⟨v, body, hv, hbody, hb⟩
  by_cases hprimary : a = "primary"
  · subst hprimary
    cases hv
    obtain ⟨e, he, hbody⟩ := Value.refers_dict_iff.1 hbody
    obtain rfl := List.mem_singleton.1 he
    obtain rfl := (Value.refers_referenceTo_iff (by decide) (by decide)).1 hbody
    rw [Reference.ofBody_variables] at hb
    cases hb
    decide
  by_cases hnodes : a = "nodes"
  · subst hnodes
    cases hv
    obtain ⟨x, hx, hbody⟩ := (Value.refers_items_iff rfl).1 hbody
    rcases List.mem_pair.1 hx with rfl | rfl
    · obtain rfl := (Value.refers_referenceTo_iff (by decide) (by decide)).1 hbody
      rw [Reference.ofBody_env] at hb
      cases hb
    · obtain ⟨t, ht, -⟩ := Value.eq_str_of_refers rfl rfl hbody
      cases ht
  · have habsent : chained.values.field? a = none :=
      Assoc.get?_str_eq_none_iff.2 (by simp [chained, Ne.symm hprimary, Ne.symm hnodes])
    cases habsent.symm.trans hv

/-- The reference of a variable of a variable is replaced by the text of the environment, which is
not looked into. -/
theorem resolve_chained :
    chained.Acyclic ∧
      (∀ n, 2 ≤ n →
        resolveWith (chained.followWithin [("NODE", referenceTo "name")] n)
            (.str (referenceTo ("variables." ++ "primary"))) =
          .ok (.dict [(.str "nodes", .list [.str (referenceTo "name"), .int 2])])) := by
  have h := resolve_of_acyclic chained_acyclic [("NODE", referenceTo "name")]
    (.str (referenceTo ("variables." ++ "primary")))
  refine ⟨chained_acyclic, fun n hn => (h.1 n hn).trans ?_⟩
  -- The values of the variables in the order in which the references lead to them.
  rw [resolve, resolveWith_reference (referenceBody?_referenceTo (by decide) (by decide)), follow,
    show chained.values.length = 2 from rfl, followWithin_succ (Reference.ofBody_variables _) rfl]
  rw [resolveWith, resolveEntries,
    resolveWith_reference (referenceBody?_referenceTo (by decide) (by decide)),
    followWithin_succ (Reference.ofBody_variables _) rfl]
  rw [resolveWith, resolveItems,
    resolveWith_reference (referenceBody?_referenceTo (by decide) (by decide)),
    followWithin_environment (Reference.ofBody_env _)]
  rfl

end Manifest

end SearchKit
