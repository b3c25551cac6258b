import SearchKit.Proofs.Value.Keys
import Mathlib.Data.List.Basic

/-!
# Maps with their keys held once

Reading and writing of entries.  The keys of a map are told apart by `Value.sameKey`, of which
reading after writing needs the laws of `SearchKit.Proofs.Value.Keys` and nothing else; on a text
key it is plain equality.

* `Assoc.Distinct` : each key is held once, which every writing keeps (`Assoc.Distinct.set`,
  `Assoc.Distinct.update`).
* `Assoc.get?_set`, `Assoc.get?_update`, `Assoc.get?_erase` : the entries after writing, the last
  writing counting, and after one of them is taken out.
* `Assoc.update_single`, `Assoc.mem_update_single_iff` : entries written over a single named one.
* `Entries.TextKeyed` : a map with text keys.
-/

namespace SearchKit

theorem Value.isNull_iff {v : Value} : v.isNull = true ↔ v = .null := by
  cases v <;> simp [isNull]

theorem Value.sameKey_str_right {k : Value} {name : String} :
    k.sameKey (.str name) = true ↔ k = .str name := by
  cases k <;> simp [Value.sameKey, Value.numeral?]

theorem Value.sameKey_str_left {k : Value} {name : String} :
    Value.sameKey (.str name) k = true ↔ k = .str name := by
  cases k with
  | str s => simpa using eq_comm
  | _ => simp [Value.sameKey]

namespace Assoc

variable {α : Type}

/-- Each key is held once. -/
def Distinct (es : Assoc α) : Prop := es.Pairwise fun e f => e.1.sameKey f.1 = false

/-! ### Reading -/

theorem get?_cons (e : Value × α) (es : Assoc α) (key : Value) :
    get? key (e :: es) = if e.1.sameKey key then some e.2 else get? key es := rfl

theorem get?_append (es fs : Assoc α) (key : Value) :
    get? key (es ++ fs) = (get? key es).or (get? key fs) := by
  induction es with
  | nil => simp
  | cons e es ih =>
    rw [List.cons_append, get?_cons, get?_cons, ih]
    split <;> rfl

theorem get?_eq_none_iff {es : Assoc α} {key : Value} :
    get? key es = none ↔ ∀ e ∈ es, e.1.sameKey key = false := by
  induction es with
  | nil => simp
  | cons e es ih =>
    rw [get?_cons, List.forall_mem_cons, ← ih]
    cases e.1.sameKey key <;> simp

theorem get?_str_eq_none_iff {es : Assoc α} {name : String} :
    get? (.str name) es = none ↔ ∀ e ∈ es, e.1 ≠ .str name := by
  rw [get?_eq_none_iff]
  refine forall₂_congr fun e _ => ?_
  rw [Bool.eq_false_iff, ne_eq, ne_eq, Value.sameKey_str_right]

theorem exists_of_get? {es : Assoc α} {key : Value} {a : α} (h : get? key es = some a) :
    ∃ e ∈ es, e.1.sameKey key = true ∧ e.2 = a := by
  induction es with
  | nil => cases h
  | cons e es ih =>
    rw [get?_cons] at h
    split at h
    · rename_i hkey
      exact ⟨e, List.mem_cons_self, hkey, Option.some.inj h⟩
    · obtain ⟨f, hf, hfa⟩ := ih h
      exact ⟨f, List.mem_cons_of_mem _ hf, hfa⟩

theorem get?_congr {key other : Value} (h : key.sameKey other = true) (es : Assoc α) :
    get? key es = get? other es := by
  induction es with
  | nil => rfl
  | cons e es ih =>
    have hsame : e.1.sameKey key = e.1.sameKey other := Bool.eq_iff_iff.2
      ⟨fun he => Value.sameKey_trans he h,
        fun he => Value.sameKey_trans he (Value.sameKey_symm h)⟩
    rw [get?_cons, get?_cons, hsame, ih]

/-! ### Writing -/

theorem set_cons (e : Value × α) (es : Assoc α) (key : Value) (a : α) :
    set key a (e :: es) = if e.1.sameKey key then (e.1, a) :: es else e :: set key a es := rfl

theorem set_of_absent {es : Assoc α} {key : Value} (h : ∀ e ∈ es, e.1.sameKey key = false)
    (a : α) : es.set key a = es ++ [(key, a)] := by
  induction es with
  | nil => rfl
  | cons e es ih =>
    rw [set_cons, h e List.mem_cons_self, ih fun f hf => h f (List.mem_cons_of_mem _ hf)]
    rfl

theorem key_of_mem_set {es : Assoc α} {key : Value} {a : α} {e : Value × α}
    (h : e ∈ es.set key a) : e.1 = key ∨ ∃ f ∈ es, f.1 = e.1 := by
  induction es with
  | nil => exact .inl (by simp_all [set])
  | cons f es ih =>
    rw [set_cons] at h
    split at h
    · rcases List.mem_cons.1 h with rfl | h
      · exact .inr ⟨f, List.mem_cons_self, rfl⟩
      · exact .inr ⟨e, List.mem_cons_of_mem _ h, rfl⟩
    · rcases List.mem_cons.1 h with rfl | h
      · exact .inr ⟨e, List.mem_cons_self, rfl⟩
      · rcases ih h with h | ⟨f', hf', he⟩
        · exact .inl h
        · exact .inr ⟨f', List.mem_cons_of_mem _ hf', he⟩

theorem key_text_of_set {es : Assoc α} {key : Value} {a : α}
    (h : ∀ e ∈ es.set key a, ∃ name, e.1 = .str name) : ∃ name, key = .str name := by
  induction es with
  | nil => exact h (key, a) List.mem_cons_self
  | cons e es ih =>
    rw [set_cons] at h
    split at h
    · -- the text that stands there already is the same key
      rename_i hsame
      obtain ⟨name, hname : e.1 = .str name⟩ := h (e.1, a) List.mem_cons_self
      rw [hname] at hsame
      exact ⟨name, Value.sameKey_str_left.1 hsame⟩
    · exact ih fun f hf => h f (List.mem_cons_of_mem _ hf)

theorem Distinct.set {es : Assoc α} (h : es.Distinct) (key : Value) (a : α) :
    (es.set key a).Distinct := by
  induction es with
  | nil => exact List.pairwise_singleton _ _
  | cons e es ih =>
    obtain ⟨he, hes⟩ := List.pairwise_cons.1 h
    rw [set_cons]
    split
    · exact List.pairwise_cons.2 ⟨he, hes⟩
    · rename_i hk
      refine List.pairwise_cons.2 ⟨fun f hf => ?_, ih hes⟩
      rcases key_of_mem_set hf with hf | ⟨f', hf', hf⟩
      · rw [hf]; exact Bool.not_eq_true _ ▸ hk
      · rw [← hf]; exact he f' hf'

theorem Distinct.update {es : Assoc α} (h : es.Distinct) (other : Assoc α) :
    (es.update other).Distinct := by
  induction other generalizing es with
  | nil => exact h
  | cons e other ih => exact ih (h.set e.1 e.2)

theorem update_append (es other more : Assoc α) :
    es.update (other ++ more) = (es.update other).update more := List.foldl_append

theorem of_mem_set {es : Assoc α} {key : Value} {a : α} {e : Value × α} (h : e ∈ es.set key a) :
    e ∈ es ∨ e.2 = a ∧ (e.1 = key ∨ e.1.sameKey key = true) := by
  induction es with
  | nil =>
    obtain rfl := List.mem_singleton.1 h
    exact .inr ⟨rfl, .inl rfl⟩
  | cons f es ih =>
    rw [set_cons] at h
    split at h
    · rename_i hsame
      rcases List.mem_cons.1 h with rfl | h
      · exact .inr ⟨rfl, .inr hsame⟩
      · exact .inl (List.mem_cons_of_mem _ h)
    · rcases List.mem_cons.1 h with rfl | h
      · exact .inl List.mem_cons_self
      · exact (ih h).imp_left (List.mem_cons_of_mem _)

theorem of_mem_update {es other : Assoc α} {e : Value × α} (h : e ∈ es.update other) :
    e ∈ es ∨ ∃ f ∈ other, e.2 = f.2 ∧ (e.1 = f.1 ∨ e.1.sameKey f.1 = true) := by
  induction other generalizing es with
  | nil => exact .inl h
  | cons g other ih =>
    rcases ih h with h | ⟨f, hf, hef⟩
    · exact (of_mem_set h).imp_right fun he => ⟨g, List.mem_cons_self, he⟩
    · exact .inr ⟨f, List.mem_cons_of_mem _ hf, hef⟩

theorem set_set (es : Assoc α) (name : String) (a b : α) :
    set (.str name) b (set (.str name) a es) = set (.str name) b es := by
  induction es with
  | nil => simp [set]
  | cons e es ih =>
    rw [set_cons, set_cons]
    split
    · rename_i hk
      rw [set_cons, if_pos hk]
    · rename_i hk
      rw [set_cons, if_neg hk, ih]

theorem set_of_get? {es : Assoc α} {key : Value} {a : α} (h : get? key es = some a) :
    set key a es = es := by
  induction es with
  | nil => cases h
  | cons e es ih =>
    rw [get?_cons] at h
    rw [set_cons]
    by_cases hk : e.1.sameKey key = true
    · rw [if_pos hk] at h ⊢
      cases h
      rfl
    · rw [if_neg hk] at h ⊢
      rw [ih h]

/-- An entry after a writing. -/
theorem get?_set (es : Assoc α) (key : Value) (a : α) (other : Value) :
    get? other (es.set key a) = if key.sameKey other then some a else get? other es := by
  induction es with
  | nil => rfl
  | cons e es ih =>
    rw [set_cons, get?_cons]
    by_cases hk : e.1.sameKey key = true
    · rw [if_pos hk, get?_cons, ← Value.sameKey_congr hk other]
      split <;> rfl
    · rw [if_neg hk, get?_cons, ih]
      by_cases ho : e.1.sameKey other = true
      · have hkey : ¬ key.sameKey other = true := fun h =>
          hk (Value.sameKey_trans ho (Value.sameKey_symm h))
        rw [if_pos ho, if_neg hkey, if_pos ho]
      · rw [if_neg ho, if_neg ho]

theorem get?_of_distinct_cons {e : Value × α} {es : Assoc α} (h : Distinct (e :: es))
    {key : Value} (hkey : e.1.sameKey key = true) : get? key es = none := by
  refine get?_eq_none_iff.2 fun f hf => Bool.eq_false_iff.2 fun hfk => ?_
  have hef : e.1.sameKey f.1 = true := Value.sameKey_trans hkey (Value.sameKey_symm hfk)
  rw [(List.pairwise_cons.1 h).1 f hf] at hef
  cases hef

theorem absent_of_distinct_cons {e : Value × α} {es : Assoc α} (h : Distinct (e :: es)) :
    ∀ f ∈ es, f.1.sameKey e.1 = false := by
  intro f hf
  rw [← (List.pairwise_cons.1 h).1 f hf]
  exact Bool.eq_iff_iff.2 ⟨Value.sameKey_symm, Value.sameKey_symm⟩

theorem get?_of_mem {es : Assoc α} (h : es.Distinct) {e : Value × α} (he : e ∈ es) {key : Value}
    (hkey : e.1.sameKey key = true) : es.get? key = some e.2 := by
  induction es with
  | nil => cases he
  | cons f es ih =>
    obtain ⟨hf, hes⟩ := List.pairwise_cons.1 h
    rw [get?_cons]
    rcases List.mem_cons.1 he with rfl | he
    · rw [if_pos hkey]
    · have hother : ¬ f.1.sameKey key = true := fun hfk => by
        have hfe := Value.sameKey_trans hfk (Value.sameKey_symm hkey)
        rw [hf e he] at hfe
        cases hfe
      rw [if_neg hother, ih hes he]

/-- An entry after a map is written over entries: the map's own one if it has one. -/
theorem get?_update (es : Assoc α) {other : Assoc α} (h : other.Distinct) (key : Value) :
    get? key (es.update other) = (get? key other).or (get? key es) := by
  induction other generalizing es with
  | nil => rfl
  | cons e other ih =>
    rw [update_cons, ih (es.set e.1 e.2) (List.pairwise_cons.1 h).2, get?_set, get?_cons]
    by_cases hkey : e.1.sameKey key = true
    · -- no further entry has the key, so what is written last under it is this one
      rw [get?_of_distinct_cons h hkey, if_pos hkey, if_pos hkey]
      rfl
    · rw [if_neg hkey, if_neg hkey]

theorem get?_update_of_absent {other : Assoc α} {key : Value} (h : get? key other = none)
    (es : Assoc α) : get? key (es.update other) = get? key es := by
  induction other generalizing es with
  | nil => rfl
  | cons e other ih =>
    rw [get?_cons] at h
    split at h
    · cases h
    · rename_i hkey
      rw [update_cons, ih h, get?_set, if_neg hkey]

theorem erase_cons (e : Value × α) (es : Assoc α) (key : Value) :
    erase key (e :: es) = if e.1.sameKey key then erase key es else e :: erase key es := by
  rw [erase, List.filter_cons]
  cases e.1.sameKey key <;> rfl

theorem Distinct.erase {es : Assoc α} (h : es.Distinct) (key : Value) :
    Distinct (Assoc.erase key es) := List.Pairwise.filter _ h

/-- An entry after one has been taken out. -/
theorem get?_erase (es : Assoc α) (key other : Value) :
    get? other (es.erase key) = if key.sameKey other then none else get? other es := by
  induction es with
  | nil => simp [erase]
  | cons e es ih =>
    rw [erase_cons, get?_cons]
    by_cases hk : e.1.sameKey key = true
    · rw [if_pos hk, ih, ← Value.sameKey_congr hk other]
      split <;> rfl
    · rw [if_neg hk, get?_cons, ih]
      by_cases ho : e.1.sameKey other = true
      · have hkey : ¬ key.sameKey other = true := fun h =>
          hk (Value.sameKey_trans ho (Value.sameKey_symm h))
        rw [if_pos ho, if_neg hkey, if_pos ho]
      · rw [if_neg ho, if_neg ho]

theorem key_of_mem_update {es other : Assoc α} {key : Value} (h : key ∈ keys (es.update other)) :
    key ∈ keys other ∨ key ∈ keys es := by
  induction other generalizing es with
  | nil => exact .inr h
  | cons f other ih =>
    rcases ih h with h | h
    · exact .inl (List.mem_cons_of_mem _ h)
    · obtain ⟨e, he, rfl⟩ := List.mem_map.1 h
      rcases key_of_mem_set he with hkey | ⟨g, hg, hkey⟩
      · exact .inl (hkey ▸ List.mem_cons_self)
      · exact .inr (hkey ▸ List.mem_map_of_mem hg)

theorem update_of_distinct {es other : Assoc α} (h : (es ++ other).Distinct) :
    es.update other = es ++ other := by
  induction other generalizing es with
  | nil => exact (List.append_nil es).symm
  | cons e other ih =>
    have hset : es.set e.1 e.2 = es ++ [e] :=
      set_of_absent (fun f hf => (List.pairwise_append.1 h).2.2 f hf e List.mem_cons_self) e.2
    rw [update_cons, hset, ih (by rwa [List.append_assoc]), List.append_assoc]
    rfl

theorem distinct_cons_str {name : String} {a : α} {es : Assoc α} (h : es.Distinct)
    (hn : ∀ e ∈ es, e.1 ≠ .str name) : Distinct ((.str name, a) :: es) :=
  List.pairwise_cons.2 ⟨fun e he => Bool.not_eq_true _ ▸ mt Value.sameKey_str_left.1 (hn e he), h⟩

theorem update_single_of_absent {name : String} {es : Assoc α} (h : es.Distinct)
    (hn : ∀ e ∈ es, e.1 ≠ .str name) (a : α) :
    update [(.str name, a)] es = (.str name, a) :: es :=
  update_of_distinct (distinct_cons_str h hn)

theorem ne_of_distinct {name : String} {before after : Assoc α} {b : α}
    (h : Distinct (before ++ (.str name, b) :: after)) :
    ∀ e ∈ before ++ after, e.1 ≠ .str name := by
  intro e he hname
  have hsame : e.1.sameKey (.str name) = false := by
    obtain ⟨-, hrest, hacross⟩ := List.pairwise_append.1 h
    rcases List.mem_append.1 he with he | he
    · exact hacross e he _ List.mem_cons_self
    · rw [hname]
      exact hname ▸ (List.pairwise_cons.1 hrest).1 e he
  rw [hname, Value.sameKey_str_left.2 rfl] at hsame
  cases hsame

theorem erase_of_absent {name : String} {es : Assoc α} (h : ∀ e ∈ es, e.1 ≠ .str name) :
    es.erase (.str name) = es :=
  List.filter_eq_self.2 fun e he => by
    rw [Bool.not_eq_true', ← Bool.not_eq_true, Value.sameKey_str_right]
    exact h e he

theorem update_single_of_mem {name : String} {before after : Assoc α} {b : α}
    (h : Distinct (before ++ (.str name, b) :: after)) (a : α) :
    update [(.str name, a)] (before ++ (.str name, b) :: after) =
      (.str name, b) :: (before ++ after) := by
  obtain ⟨hbefore, hrest, hacross⟩ := List.pairwise_append.1 h
  obtain ⟨hname, hafter⟩ := List.pairwise_cons.1 hrest
  have habsent : ∀ e ∈ before, e.1 ≠ .str name := fun e he =>
    ne_of_distinct h e (List.mem_append_left _ he)
  have hdistinct : Distinct (((.str name, b) :: before) ++ after) :=
    List.pairwise_append.2 ⟨distinct_cons_str hbefore habsent, hafter, fun e he f hf => by
      rcases List.mem_cons.1 he with rfl | he
      · exact hname f hf
      · exact hacross e he f (List.mem_cons_of_mem _ hf)⟩
  calc update [(.str name, a)] (before ++ (.str name, b) :: after)
      = update (update [(.str name, a)] before) ((.str name, b) :: after) :=
        List.foldl_append
    _ = update ((.str name, b) :: before) after := by
        rw [update_single_of_absent hbefore habsent, update_cons, set_cons,
          if_pos (Value.sameKey_str_left.2 rfl)]
    _ = (.str name, b) :: (before ++ after) := update_of_distinct hdistinct

/-- Entries written over a single named one: it comes first, with its own entry if there is one, and
the others come behind it as they are. -/
theorem update_single {name : String} {es : Assoc α} (h : es.Distinct) (a : α) :
    update [(.str name, a)] es =
      (.str name, (get? (.str name) es).getD a) :: es.erase (.str name) := by
  by_cases hn : ∀ e ∈ es, e.1 ≠ .str name
  · rw [update_single_of_absent h hn, get?_str_eq_none_iff.2 hn, erase_of_absent hn]
    rfl
  · push Not at hn
    obtain ⟨⟨key, b⟩, hmem, rfl : key = .str name⟩ := hn
    obtain ⟨before, after, rfl⟩ := List.append_of_mem hmem
    have hothers := ne_of_distinct h
    have hfound : get? (.str name) (before ++ (.str name, b) :: after) = some b := by
      rw [get?_append, get?_str_eq_none_iff.2 fun e he => hothers e (by simp [he]), get?_cons,
        if_pos (Value.sameKey_str_left.2 rfl)]
      rfl
    have herased : erase (.str name) (before ++ (.str name, b) :: after) = before ++ after := by
      rw [erase, List.filter_append, List.filter_cons_of_neg (by simp), ← List.filter_append]
      exact erase_of_absent hothers
    rw [update_single_of_mem h, hfound, herased]
    rfl

/-- Entries written over a single named one: all of them, and that one where they do not name
it. -/
theorem mem_update_single_iff {name : String} {a : α} {es : Assoc α} (h : es.Distinct)
    {e : Value × α} :
    e ∈ update [(.str name, a)] es ↔
      e ∈ es ∨ e = (.str name, a) ∧ ∀ f ∈ es, f.1 ≠ .str name := by
  by_cases hn : ∀ f ∈ es, f.1 ≠ .str name
  · rw [update_single_of_absent h hn, List.mem_cons]
    exact ⟨fun he => he.elim (fun he => .inr ⟨he, hn⟩) .inl,
      fun he => he.elim .inr fun he => .inl he.1⟩
  · push Not at hn
    obtain ⟨⟨k, b⟩, hf, rfl⟩ := hn
    obtain ⟨before, after, rfl⟩ := List.append_of_mem hf
    rw [update_single_of_mem h]
    simp only [List.mem_append, List.mem_cons]
    refine ⟨fun he => by tauto, fun he => ?_⟩
    rcases he with he | ⟨-, hno⟩
    · tauto
    · exact absurd rfl (hno (.str name, b) (.inr (.inl rfl)))

end Assoc

/-! ### Maps with text keys -/

/-- A map with text keys. -/
structure Entries.TextKeyed (es : Entries) : Prop where
  /-- Each key is held once. -/
  distinct : Assoc.Distinct es
  /-- Every key is a text. -/
  text : ∀ e ∈ es, ∃ name, e.1 = .str name

theorem Entries.TextKeyed.set {es : Entries} (h : es.TextKeyed) (name : String) (a : Value) :
    Entries.TextKeyed (Assoc.set (.str name) a es) := by
  refine ⟨h.distinct.set _ a, fun e he => ?_⟩
  rcases Assoc.key_of_mem_set he with he | ⟨f, hf, hfe⟩
  · exact ⟨name, he⟩
  · rw [← hfe]
    exact h.text f hf

theorem Entries.TextKeyed.update {es other : Entries} (h : es.TextKeyed)
    (hother : other.TextKeyed) : Entries.TextKeyed (Assoc.update es other) := by
  -- the writing needs only the keys, and these of every tail
  have htext := hother.text
  clear hother
  induction other generalizing es with
  | nil => exact h
  | cons e other ih =>
    obtain ⟨name, he⟩ := htext e List.mem_cons_self
    rw [Assoc.update_cons, he]
    exact ih (h.set name e.2) fun f hf => htext f (List.mem_cons_of_mem _ hf)

end SearchKit
