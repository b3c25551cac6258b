import SearchKit.Proofs.Query.Calls
import SearchKit.Proofs.Query.Meaning
import SearchKit.Proofs.Value.LastWord

/-!
# What refinements say

The compiled query of an empty set that is refined by calls is known from what the refinements say
that went well, without the set: of each kind the fields in the order of their first mention, each
with the last word on it.  In front of the filters stands the mark of soft deletion, with the last
word on it if there is one.

* `CompiledQuery.ofRefinements` : the query that refinements on text fields ask for.
* `PredicateSet.Extended.compileWith` : it is the compiled query of a set that they extend.
* `PredicateSet.compile_afterCalls` : **the compiled query after calls**, whichever of them fail.
-/

namespace SearchKit

variable {q : PredicateSet} {r : Refinement} {rs : List Refinement}

/-! ### The query of refinements -/

namespace Refinement

/-- The equality filters that refinements state, in their order. -/
def wheres (rs : List Refinement) : List (String × Value) := Assoc.names (rs.filterMap equality?)

/-- The set filters that refinements state, in their order. -/
def whereIns (rs : List Refinement) : List (String × List Value) :=
  Assoc.names (rs.filterMap members?)

/-- The exclusion filters that refinements state, in their order. -/
def whereNotIns (rs : List Refinement) : List (String × List Value) :=
  Assoc.names (rs.filterMap exclusions?)

/-- The ranges that refinements state, in their order. -/
def ranges (rs : List Refinement) : List (String × RangeBound) := Assoc.names (rs.filterMap bounds?)

theorem field?_of_said {field : Value} :
    (∀ v, r.equality? = some (field, v) → r.field? = some field) ∧
      (∀ vs, r.members? = some (field, vs) → r.field? = some field) ∧
      (∀ vs, r.exclusions? = some (field, vs) → r.field? = some field) ∧
      ∀ b, r.bounds? = some (field, b) → r.field? = some field := by
  cases r with
  | between given values =>
    refine ⟨by simp [equality?], by simp [members?], by simp [exclusions?], fun b h => ?_⟩
    rw [bounds?] at h
    split at h <;> cases h
    rfl
  | _ => simp [equality?, members?, exclusions?, bounds?, field?]

/-- A refinement on a field says something of it: a filter, a range or a sort order. -/
def Says (r : Refinement) : Prop :=
  r.field?.isSome → r.equality?.isSome ∨ r.members?.isSome ∨ r.exclusions?.isSome ∨
    r.bounds?.isSome ∨ r.order?.isSome

theorem says_of_refined {p : PredicateSet} (h : p.refine r = (q, none)) : r.Says := by
  intro _
  cases r with
  | filter field value => exact .inl rfl
  | oneOf field values =>
    obtain ⟨xs, hxs, -⟩ := PredicateSet.exists_ok_of_check h
    simp [members?, PredicateSet.items_ok hxs]
  | noneOf field values =>
    obtain ⟨xs, hxs, -⟩ := PredicateSet.exists_ok_of_check h
    simp [exclusions?, PredicateSet.items_ok hxs]
  | between field values =>
    obtain ⟨xs, hxs, h⟩ := PredicateSet.exists_ok_of_check h
    split at h
    · simp [bounds?, PredicateSet.items_ok hxs]
    · obtain ⟨texts, -, h⟩ := PredicateSet.exists_ok_of_check h
      cases h
  | range field gte lte => simp [bounds?]
  | orderBy field direction =>
    obtain ⟨order, horder, -⟩ := PredicateSet.exists_ok_of_check h
    simp [PredicateSet.order_ok horder]
  | _ => contradiction

/-- The refinements that filter or sort do so on texts as their fields. -/
def OnTextFields (rs : List Refinement) : Prop :=
  ∀ r ∈ rs, ∀ field, r.field? = some field → ∃ name, field = .str name

theorem ofList_said {α : Type} {said? : Refinement → Option (Value × α)}
    (hsaid : ∀ r field a, said? r = some (field, a) → r.field? = some field)
    (h : OnTextFields rs) :
    Assoc.ofList (rs.filterMap said?) =
      Assoc.ofList (Assoc.named (Assoc.names (rs.filterMap said?))) := by
  have hnamed : ∀ e ∈ rs.filterMap said?, ∃ name, e.1 = .str name := fun e he => by
    obtain ⟨r, hr, hre⟩ := List.mem_filterMap.1 he
    exact h r hr e.1 (hsaid r e.1 e.2 hre)
  rw [Assoc.named_names hnamed]

end Refinement

/-- The query that refinements on text fields ask for.  Without an equality filter and a range there
are no filters. -/
def CompiledQuery.ofRefinements (rs : List Refinement) : CompiledQuery where
  filter :=
    if (Refinement.wheres rs).isEmpty && (Refinement.ranges rs).isEmpty then []
    else
      termClause (.str softDeletedField)
          ((lastWord? softDeletedField (Refinement.wheres rs)).getD (.int 0)) ::
        ((lastWords (Refinement.wheres rs)).filter (fun e => e.1 ≠ softDeletedField)).map
          (fun e => termClause (.str e.1) e.2) ++
        (lastWords (Refinement.ranges rs)).map fun e => rangeClause (.str e.1) e.2
  should := (lastWords (Refinement.whereIns rs)).flatMap fun e => e.2.map (termClause (.str e.1))
  mustNot := (lastWords (Refinement.whereNotIns rs)).map fun e => termsClause (.str e.1) e.2
  minimumShouldMatch :=
    if (Refinement.whereIns rs).isEmpty then none
    else some (firstNamed (Refinement.whereIns rs)).length

/-! ### The compiled query -/

namespace PredicateSet

theorem map_named {α β : Type} (said : List (String × α)) (clause : Value → α → β) :
    (Assoc.named said).map (fun e => clause e.1 e.2) =
      said.map fun e => clause (.str e.1) e.2 := List.map_map

/-- **The compiled query of an empty set that refinements extend** is the one they ask for. -/
theorem Extended.compileWith (h : Extended {} rs q) (htext : Refinement.OnTextFields rs) :
    q.compileWith [] = CompiledQuery.ofRefinements rs := by
  have hwheres : q.wheres = Assoc.ofList (Assoc.named (Refinement.wheres rs)) :=
    h.wheres.trans (Refinement.ofList_said (fun r _ => Refinement.field?_of_said.1) htext)
  have hwhereIns : q.whereIns = Assoc.ofList (Assoc.named (Refinement.whereIns rs)) :=
    h.whereIns.trans (Refinement.ofList_said (fun r _ => Refinement.field?_of_said.2.1) htext)
  have hwhereNotIns : q.whereNotIns = Assoc.ofList (Assoc.named (Refinement.whereNotIns rs)) :=
    h.whereNotIns.trans
      (Refinement.ofList_said (fun r _ => Refinement.field?_of_said.2.2.1) htext)
  have hranges : q.ranges = Assoc.ofList (Assoc.named (Refinement.ranges rs)) :=
    h.ranges.trans (Refinement.ofList_said (fun r _ => Refinement.field?_of_said.2.2.2) htext)
  have hfilter : q.filterClauses = (CompiledQuery.ofRefinements rs).filter := by
    rw [filterClauses, markedWheres, hwheres, hranges, Assoc.isEmpty_ofList_named,
      Assoc.isEmpty_ofList_named, Assoc.update_single_named, Assoc.ofList_named, map_named,
      map_named]
    rfl
  have hshould : q.shouldClauses = (CompiledQuery.ofRefinements rs).should := by
    rw [shouldClauses, hwhereIns, Assoc.ofList_named, Assoc.named, List.flatMap_map]
    rfl
  have hmustNot : (q.whereNotIns.map fun e => termsClause e.1 e.2) =
      (CompiledQuery.ofRefinements rs).mustNot := by
    rw [hwhereNotIns, Assoc.ofList_named, map_named]
    rfl
  have hleast : (if q.whereIns.isEmpty then none else some (q.whereIns.length : Int)) =
      (CompiledQuery.ofRefinements rs).minimumShouldMatch := by
    rw [hwhereIns, Assoc.isEmpty_ofList_named, Assoc.length_ofList_named]
    rfl
  have hquery : q.query = "" := h.query
  rw [PredicateSet.compileWith, hfilter, hshould, hmustNot, hleast, if_pos hquery]
  rfl

/-- **The compiled query after calls.**  Any calls on an empty set come to an end, some of them
failing.  Each of those that went well asked for the refinement of its name, and this says something
of its field if it is on one.  With text fields, the compiled query is the one that these
refinements ask for, whatever names of text fields it is compiled with; and there is one sort clause
for each of their sort orders, in the order of the calls. -/
theorem compile_afterCalls {calls : List RefiningCall} (h : ∀ c ∈ calls, c.OnTextField)
    (s : Session) (fields : Value) :
    ∃ (q : PredicateSet) (well : List (RefiningCall × Refinement)) (s' : Session),
      (afterCalls {} calls).outcome s = (.ok (q, well.map Prod.snd), s') ∧
      (well.map Prod.fst).Sublist calls ∧
      (∀ call ∈ well, (∃ s₁ s₂, call.1.Asks s₁ call.2 s₂) ∧ call.2.Says) ∧
      q.compile fields = pure (CompiledQuery.ofRefinements (well.map Prod.snd)) ∧
      q.sortClauses = ((well.map Prod.snd).filterMap Refinement.order?).map fun o =>
        single o.field (single "order" (.str o.direction.name)) := by
  obtain ⟨q, well, s', hrun, hsublist, hdone, hextended⟩ := afterCalls_extended {} calls s
  have htext : Refinement.OnTextFields (well.map Prod.snd) := by
    refine List.forall_mem_map.2 fun call hcall field hfield => ?_
    obtain ⟨⟨s₁, s₂, hasked⟩, -⟩ := hdone call hcall
    exact h call.1 (hsublist.mem (List.mem_map_of_mem hcall)) call.2 s₁ s₂ field hasked hfield
  refine ⟨q, well, s', hrun, hsublist, fun call hcall => ?_, ?_, ?_⟩
  · obtain ⟨hasked, p, p', hwell⟩ := hdone call hcall
    exact ⟨hasked, Refinement.says_of_refined hwell⟩
  · have hquery : q.query = "" := hextended.query
    rw [compile_of_query_empty hquery, hextended.compileWith htext]
  · rw [sortClauses, hextended.orders]
    rfl

/-- Calls that name some fields again and the mark of soft deletion once; two of them fail. -/
def repeatedCalls : List RefiningCall := [
  ⟨"where", [.str "status", .str "draft"], []⟩,
  ⟨"where_between", [.str "size", .list [.int 1]], []⟩,
  ⟨"where", [.str softDeletedField, .int 1], []⟩,
  ⟨"where_in", [.str "tier", .list [.int 1]], []⟩,
  ⟨"where_in", [.str "region", .tuple [.str "eu", .str "us"]], []⟩,
  ⟨"where", [.str "status", .str "live"], []⟩,
  ⟨"where_range", [], [("gte", .int 3), ("field", .str "size")]⟩,
  ⟨"where_in", [.str "tier", .list [.int 2]], []⟩,
  ⟨"order_by", [.str "size", .str "up"], []⟩,
  ⟨"order_by_desc", [], [("field", .str "size")]⟩,
  ⟨"where_not_in", [.str "tag", .list [.str "old"]], []⟩,
  ⟨"order_by", [.str "size"], [("direction", .str "ASC")]⟩]

/-- The mark stands in front with its own value, and each field where it was named first, with its
last value. -/
theorem compile_repeatedCalls :
    ∃ q done s', (afterCalls {} repeatedCalls).outcome {} = (.ok (q, done), s') ∧
      q.compile .null = pure {
        filter := [
          termClause (.str softDeletedField) (.int 1), termClause (.str "status") (.str "live"),
          rangeClause (.str "size") ⟨.int 3, .null⟩]
        should := [
          termClause (.str "tier") (.int 2), termClause (.str "region") (.str "eu"),
          termClause (.str "region") (.str "us")]
        mustNot := [termsClause (.str "tag") [.str "old"]]
        minimumShouldMatch := some 2 } ∧
      q.sortClauses = [single "size" (single "order" (.str "desc")),
        single "size" (single "order" (.str "asc"))] := by
  have hnamed : ∀ c ∈ repeatedCalls, ∃ name, c.argument? 0 "field" = some (.str name) := by
    simp [repeatedCalls, RefiningCall.argument?, Fields.get?_cons]
  obtain ⟨q, well, s', hrun, -, -, hquery, hsort⟩ :=
    compile_afterCalls (fun c hc => (hnamed c hc).elim fun _ => RefiningCall.onTextField) {} .null
  have hdone : well.map Prod.snd = [
      .filter (.str "status") (.str "draft"), .filter (.str softDeletedField) (.int 1),
      .oneOf (.str "tier") (.list [.int 1]), .oneOf (.str "region") (.tuple [.str "eu", .str "us"]),
      .filter (.str "status") (.str "live"), .range (.str "size") (.int 3) .null,
      .oneOf (.str "tier") (.list [.int 2]), .orderBy (.str "size") (.str "desc"),
      .noneOf (.str "tag") (.list [.str "old"]), .orderBy (.str "size") (.str "ASC")] := by
    have hok := Except.ok.inj (Prod.mk.inj hrun).1
    exact (Prod.mk.inj hok).2.symm
  rw [hdone] at hrun hquery hsort
  exact ⟨q, _, s', hrun, hquery, hsort⟩

end PredicateSet

end SearchKit
