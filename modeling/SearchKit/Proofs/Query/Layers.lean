import SearchKit.Proofs.Query.Meaning

/-!
# The layers of a request

The body of a request is laid over in layers: the defaults of the operation and the sort clauses, or
in their place the aggregation of distinct values; the options of the predicate set; and the
compiled query.  Any two of them may name the same key, and then the upper one counts.

* `PredicateSet.layer` : the entry of a key in the topmost layer that has it.
* `PredicateSet.LaysOut` : a body that consists of the layers.
* `PredicateSet.distinctRequest_eq_ok_iff` : the entries of the aggregation.
* `PredicateSet.requestBody_laysOut` : **the body of a request** does, whatever its options.
-/

namespace SearchKit

namespace PredicateSet

variable {p : PredicateSet} {defaults options : Entries} {query : CompiledQuery}

/-! ### The layers -/

/-- The entry of a key beneath the options: of the aggregation if distinct values are wanted, and
else of the sort clauses, if there are any, and the defaults. -/
def baseLayer (p : PredicateSet) (defaults : Entries) (key : Value) : Option Value :=
  if p.distinctField.truthy then
    match distinctRequest p.distinctField with
    | .ok aggregation => aggregation.get? key
    | .error _ => none
  else if Value.sameKey (.str "sort") key && !p.orders.isEmpty then some (.list p.sortClauses)
  else defaults.get? key

/-- The entry of a key in the topmost layer that has it: the compiled query if it has any clause,
then the options of the predicate set, then what is beneath them. -/
def layer (p : PredicateSet) (defaults : Entries) (query : CompiledQuery) (key : Value) :
    Option Value :=
  if Value.sameKey (.str "query") key && !query.isEmpty then some query.native
  else (p.options.get? key).or (p.baseLayer defaults key)

/-- A body consists of the layers of a request. -/
structure LaysOut (p : PredicateSet) (defaults : Entries) (query : CompiledQuery)
    (body : Entries) : Prop where
  /-- Under each key it has the entry of the topmost layer that has one. -/
  entry : ∀ key, body.get? key = p.layer defaults query key
  /-- It has no key that is in none of the layers. -/
  keys : ∀ key ∈ Assoc.keys body,
    key ∈ Assoc.keys p.options ∨ (p.layer defaults query key).isSome = true
  /-- It has each key once. -/
  distinct : Assoc.Distinct body

/-! ### The body of a request -/

theorem get?_sorted (defaults : Entries) (key : Value) :
    Assoc.get? key (if p.sortClauses.isEmpty then defaults
        else Assoc.set (.str "sort") (.list p.sortClauses) defaults) =
      if Value.sameKey (.str "sort") key && !p.orders.isEmpty then some (.list p.sortClauses)
      else defaults.get? key := by
  have hnone : p.sortClauses.isEmpty = p.orders.isEmpty := List.isEmpty_map
  rw [hnone]
  cases p.orders.isEmpty with
  | true => simp
  | false => simp [Assoc.get?_set]

/-- The request for distinct values names the field, and under its own name asks for its terms. -/
theorem distinctRequest_eq_ok_iff {field : Value} {es : Entries} :
    distinctRequest field = .ok es ↔ field.hasText = true ∧ field.hashable = true ∧ es = [
      (.str "stored_fields", field),
      (.str "aggregations", .dict [(field, .dict [(.str "terms", .dict [
        (.str "field", .str (field.text ++ "." ++ "raw")), (.str "size", .int 200),
        (.str "min_doc_count", .int 1), (.str "shard_min_doc_count", .int 1),
        (.str "show_term_doc_count_error", .bool false),
        (.str "order", .dict [(.str "_count", .str "desc"), (.str "_key", .str "asc")])])])])] := by
  unfold distinctRequest
  cases htext : field.hasText with
  | false =>
    rw [Value.spell_of_not_hasText htext]
    simp [bind, Except.bind]
  | true =>
    rw [Value.spell_of_hasText htext]
    cases hhash : field.hashable with
    | false => simp [bind, Except.bind, throw, throwThe, MonadExceptOf.throw]
    | true => simp [bind, Except.bind, pure, Except.pure, Entries.ofFields, Fields.toValue, single,
        exactForm, distinctLimit, eq_comm]

theorem textKeyed_distinctRequest {field : Value} {es : Entries}
    (h : distinctRequest field = .ok es) : es.TextKeyed := by
  obtain ⟨-, -, rfl⟩ := distinctRequest_eq_ok_iff.1 h
  exact ⟨by simp [Assoc.Distinct], by simp⟩

theorem requestOptions_eq (hdefaults : defaults.TextKeyed)
    (hfield : p.distinctField.truthy = true →
      p.distinctField.hasText = true ∧ p.distinctField.hashable = true) :
    ∃ base : Entries, base.TextKeyed ∧ (∀ key, base.get? key = p.baseLayer defaults key) ∧
      p.requestOptions (.dict defaults) = pure (base.update p.options) := by
  unfold requestOptions baseLayer
  by_cases hdistinct : p.distinctField.truthy = true
  · obtain ⟨htext, hhash⟩ := hfield hdistinct
    obtain ⟨aggregation, hrequest⟩ : ∃ es, distinctRequest p.distinctField = .ok es :=
      ⟨_, distinctRequest_eq_ok_iff.2 ⟨htext, hhash, rfl⟩⟩
    refine ⟨aggregation, textKeyed_distinctRequest hrequest, fun key => ?_, ?_⟩
    · rw [if_pos hdistinct, hrequest]
    · rw [if_pos hdistinct, hrequest, Act.lift_ok, pure_bind]
  · refine ⟨if p.sortClauses.isEmpty then defaults
      else Assoc.set (.str "sort") (.list p.sortClauses) defaults, ?_, fun key => ?_, ?_⟩
    · split
      · exact hdefaults
      · exact hdefaults.set _ _
    · rw [if_neg hdistinct, get?_sorted]
    · rw [if_neg hdistinct]
      rfl

theorem get?_requestBody (query : CompiledQuery) (options : Entries) (key : Value) :
    Assoc.get? key (requestBody query options) =
      if Value.sameKey (.str "query") key && !query.isEmpty then some query.native
      else options.get? key := by
  unfold requestBody
  cases query.isEmpty with
  | true => simp
  | false => simp [Assoc.get?_set]

theorem distinct_requestBody (query : CompiledQuery) (h : options.Distinct) :
    Assoc.Distinct (requestBody query options) := by
  unfold requestBody
  split
  · exact h
  · exact h.set _ _

theorem key_of_mem_requestBody {key : Value} (h : key ∈ Assoc.keys (requestBody query options)) :
    key = .str "query" ∨ key ∈ Assoc.keys options := by
  unfold requestBody at h
  split at h
  · exact .inr h
  · obtain ⟨e, he, rfl⟩ := List.mem_map.1 h
    rcases Assoc.key_of_mem_set he with hkey | ⟨f, hf, hkey⟩
    · exact .inl hkey
    · exact .inr (hkey ▸ List.mem_map_of_mem hf)

/-- **The body of a request** consists of its layers.  The options may have any keys, each of them
once. -/
theorem requestBody_laysOut (hdefaults : defaults.TextKeyed) (hoptions : p.options.Distinct)
    (hfield : p.distinctField.truthy = true →
      p.distinctField.hasText = true ∧ p.distinctField.hashable = true)
    (query : CompiledQuery) :
    ∃ options, p.requestOptions (.dict defaults) = pure options ∧
      p.LaysOut defaults query (requestBody query options) := by
  obtain ⟨base, htext, hbase, hrequest⟩ := requestOptions_eq hdefaults hfield
  have hdistinct : Assoc.Distinct (requestBody query (base.update p.options)) :=
    distinct_requestBody query (htext.distinct.update _)
  have hentry : ∀ key, Assoc.get? key (requestBody query (base.update p.options)) =
      p.layer defaults query key := fun key => by
    rw [get?_requestBody, Assoc.get?_update _ hoptions, hbase]
    rfl
  refine ⟨_, hrequest, hentry, fun key hkey => ?_, hdistinct⟩
  have hnamed : (∃ name, key = .str name) → (p.layer defaults query key).isSome = true := by
    rintro ⟨name, rfl⟩
    rw [← hentry, Option.isSome_iff_ne_none, ne_eq, Assoc.get?_str_eq_none_iff]
    push Not
    exact List.mem_map.1 hkey
  rcases key_of_mem_requestBody hkey with hquery | hkey
  · exact .inr (hnamed ⟨_, hquery⟩)
  · rcases Assoc.key_of_mem_update hkey with hoption | hbeneath
    · exact .inl hoption
    · obtain ⟨e, he, rfl⟩ := List.mem_map.1 hbeneath
      exact .inr (hnamed (htext.text e he))

end PredicateSet

end SearchKit
