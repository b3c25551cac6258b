import SearchKit.Proofs.Value.Entries
import Mathlib.Data.List.Induction

/-!
# The last word on a name

Entries that are written one after the other under names hold each name in the place where it was
first written, with the value that was written last.  This is said without the writing, of the list
of what is written: the names in the order of their first mention (`firstNamed`), and for each of
them what comes last in the list (`lastWord?`).

* `Assoc.eq_of_keys` : entries with each key once are known by their keys and the values of these.
* `Assoc.ofList_named` : **entries written one after the other** hold the last words
  (`lastWords`).
-/

namespace SearchKit

variable {α : Type}

/-! ### Words on names -/

/-- The names in the order in which they are first mentioned. -/
def firstNamed (said : List (String × α)) : List String := (said.map Prod.fst).eraseDups

/-- What is said last of a name. -/
def lastWord? (name : String) (said : List (String × α)) : Option α := said.reverse.lookup name

/-- Each name once, in the order of their first mention, with what is said last of it. -/
def lastWords (said : List (String × α)) : List (String × α) :=
  (firstNamed said).filterMap fun name => (lastWord? name said).map fun a => (name, a)

theorem firstNamed_concat (said : List (String × α)) (e : String × α) :
    firstNamed (said ++ [e]) =
      if e.1 ∈ firstNamed said then firstNamed said else firstNamed said ++ [e.1] := by
  have hmem : e.1 ∈ firstNamed said ↔ e.1 ∈ said.map Prod.fst := List.mem_eraseDups
  rw [firstNamed, List.map_append, List.eraseDups_append]
  by_cases h : e.1 ∈ said.map Prod.fst
  · have hremoved : List.removeAll [e.1] (said.map Prod.fst) = [] := by
      simpa [List.removeAll] using h
    rw [if_pos (hmem.2 h), List.map_singleton, hremoved, List.eraseDups_nil, List.append_nil]
    rfl
  · have hremoved : List.removeAll [e.1] (said.map Prod.fst) = [e.1] := by
      simpa [List.removeAll] using h
    rw [if_neg (mt hmem.1 h), List.map_singleton, hremoved, List.eraseDups_cons]
    rfl

theorem lastWord?_concat (name : String) (said : List (String × α)) (e : String × α) :
    lastWord? name (said ++ [e]) = if e.1 = name then some e.2 else lastWord? name said := by
  rw [lastWord?, List.reverse_append, List.reverse_singleton, List.singleton_append,
    List.lookup_cons]
  by_cases h : e.1 = name
  · simp [h]
  · have hne : (name == e.1) = false := by simpa using Ne.symm h
    rw [hne, if_neg h]
    rfl

/-! ### Words as entries -/

namespace Assoc

/-- Named values as entries. -/
def named (said : List (String × α)) : Assoc α := said.map fun e => (.str e.1, e.2)

/-- The named values of entries. -/
def names (es : Assoc α) : List (String × α) := es.filterMap fun e => e.1.asStr?.map (·, e.2)

theorem named_names {es : Assoc α} (h : ∀ e ∈ es, ∃ name, e.1 = .str name) :
    named es.names = es := by
  induction es with
  | nil => rfl
  | cons e es ih =>
    obtain ⟨⟨name, hname⟩, hes⟩ := List.forall_mem_cons.1 h
    obtain ⟨key, a⟩ := e
    obtain rfl : key = .str name := hname
    rw [names, List.filterMap_cons]
    exact congrArg (List.cons _) (ih hes)

theorem keys_set_of_mem {es : Assoc α} {name : String} (h : .str name ∈ keys es) (a : α) :
    keys (es.set (.str name) a) = keys es := by
  induction es with
  | nil => cases h
  | cons e es ih =>
    rw [set_cons]
    by_cases hname : e.1 = .str name
    · rw [if_pos (Value.sameKey_str_right.2 hname)]
      rfl
    · rw [if_neg (mt Value.sameKey_str_right.1 hname)]
      rcases List.mem_cons.1 h with h | h
      · exact absurd h.symm hname
      · exact congrArg (List.cons e.1) (ih h)

theorem keys_set_of_not_mem {es : Assoc α} {name : String} (h : .str name ∉ keys es) (a : α) :
    keys (es.set (.str name) a) = keys es ++ [.str name] := by
  have habsent : ∀ e ∈ es, e.1.sameKey (.str name) = false := fun e he => by
    rw [Bool.eq_false_iff, ne_eq, Value.sameKey_str_right]
    exact fun hname => h (List.mem_map.2 ⟨e, he, hname⟩)
  rw [set_of_absent habsent a]
  exact List.map_append

/-- Entries that hold each key once, all of them names, are their keys with the values of these. -/
theorem eq_of_keys {es : Assoc α} {ns : List String} (h : es.Distinct)
    (hkeys : keys es = ns.map Value.str) :
    es = named (ns.filterMap fun n => (get? (.str n) es).map (n, ·)) := by
  induction es generalizing ns with
  | nil =>
    obtain rfl : ns = [] := List.map_eq_nil_iff.1 hkeys.symm
    rfl
  | cons e es ih =>
    obtain ⟨he, hes⟩ := List.pairwise_cons.1 h
    obtain ⟨n, ns, rfl, hn, hns⟩ := List.map_eq_cons_iff.1 hkeys.symm
    have hfirst : get? (.str n) (e :: es) = some e.2 := by
      rw [get?_cons, if_pos (Value.sameKey_str_right.2 hn.symm)]
    -- the rest is read as without the first entry, whose key it does not hold
    have hrest : ∀ m ∈ ns, get? (.str m) (e :: es) = get? (.str m) es := by
      intro m hm
      obtain ⟨f, hf, hfm⟩ : ∃ f ∈ es, f.1 = .str m := by
        rw [← List.mem_map, ← hns]
        exact List.mem_map_of_mem hm
      rw [get?_cons, ← hfm, he f hf]
      rfl
    rw [List.filterMap_cons, hfirst, List.filterMap_congr fun m hm => by rw [hrest m hm]]
    change e :: es = (.str n, e.2) :: named _
    rw [hn, ← ih hes hns.symm]

end Assoc

/-! ### Written words -/

namespace Assoc

theorem ofList_concat (es : Assoc α) (e : Value × α) :
    ofList (es ++ [e]) = (ofList es).set e.1 e.2 := update_append [] es [e]

theorem distinct_ofList (es : Assoc α) : (ofList es).Distinct := Distinct.update .nil es

theorem keys_ofList_named (said : List (String × α)) :
    keys (ofList (named said)) = (firstNamed said).map Value.str := by
  induction said using List.reverseRecOn with
  | nil => rfl
  | append_singleton said e ih =>
    have hmem : Value.str e.1 ∈ (firstNamed said).map Value.str ↔ e.1 ∈ firstNamed said := by simp
    have hconcat : named (said ++ [e]) = named said ++ [(.str e.1, e.2)] := List.map_append
    rw [← ih] at hmem
    rw [hconcat, ofList_concat, firstNamed_concat]
    by_cases h : e.1 ∈ firstNamed said
    · rw [if_pos h, keys_set_of_mem (hmem.2 h), ih]
    · rw [if_neg h, keys_set_of_not_mem (mt hmem.1 h), ih, List.map_append]
      rfl

theorem get?_ofList_named (name : String) (said : List (String × α)) :
    get? (.str name) (ofList (named said)) = lastWord? name said := by
  induction said using List.reverseRecOn with
  | nil => rfl
  | append_singleton said e ih =>
    have hconcat : named (said ++ [e]) = named said ++ [(.str e.1, e.2)] := List.map_append
    rw [hconcat, ofList_concat, get?_set, ih, lastWord?_concat]
    simp [Value.sameKey_str]

/-- **Entries written one after the other** hold each name in the place of its first mention, with
the last word on it. -/
theorem ofList_named (said : List (String × α)) :
    ofList (named said) = named (lastWords said) := by
  rw [eq_of_keys (distinct_ofList _) (keys_ofList_named said), lastWords]
  simp only [get?_ofList_named]

theorem length_ofList_named (said : List (String × α)) :
    (ofList (named said)).length = (firstNamed said).length := by
  have := congrArg List.length (keys_ofList_named said)
  rwa [keys, List.length_map, List.length_map] at this

theorem isEmpty_ofList_named (said : List (String × α)) :
    (ofList (named said)).isEmpty = said.isEmpty := by
  have hlength := length_ofList_named said
  cases said with
  | nil => rfl
  | cons e said =>
    have hsome : 0 < (firstNamed (e :: said)).length := by
      rw [firstNamed, List.map_cons, List.eraseDups_cons]
      exact Nat.succ_pos _
    rw [List.isEmpty_cons, Bool.eq_false_iff, ne_eq, List.isEmpty_iff, ← List.length_eq_zero_iff,
      hlength]
    exact Nat.ne_of_gt hsome

/-- Words that are written over a single name: it comes first, with the last word on it if there is
one, and the other names come behind it. -/
theorem update_single_named (said : List (String × α)) (name : String) (a : α) :
    update [(.str name, a)] (ofList (named said)) =
      named ((name, (lastWord? name said).getD a) ::
        (lastWords said).filter fun e => e.1 ≠ name) := by
  have herased : erase (.str name) (named (lastWords said)) =
      named ((lastWords said).filter fun e => e.1 ≠ name) := by
    rw [erase, named, named, List.filter_map]
    refine congrArg _ (List.filter_congr fun e _ => ?_)
    simp [beq_eq_decide]
  rw [update_single (distinct_ofList _), get?_ofList_named, ofList_named, herased]
  rfl

end Assoc

end SearchKit
