import SearchKit.Proofs.Call.Arguments
import SearchKit.Proofs.Query.Refinement
import SearchKit.Proofs.Session.Outcome
import SearchKit.Query.Builder

/-!
# Calls on predicate sets

A call binds its arguments, reads them and only then refines the set.  So a call that fails has
written nothing, whatever it was given; the only exception are further options that are no map and
break off while their entries are read.

* `RefiningCall.Asks` : the refinement that goes with each name, of the arguments that are given, and
  `RefiningCall.refinement_eq_ok_iff` : **the calls by name**.
* `PredicateSet.afterCall_cases` : how a call ends.
* `PredicateSet.afterCall_fails` : **what a call that fails has left**.
* `PredicateSet.afterCalls` : calls one after the other, going on after faults, with the refinements
  that went well; what these say has been written (`PredicateSet.afterCalls_extended`).
-/

namespace SearchKit

variable {p : PredicateSet} {c : RefiningCall} {r : Refinement} {s s' : Session}

/-! ### What a call asks for -/

/-- The field of a refinement that filters or sorts on one. -/
def Refinement.field? : Refinement → Option Value
  | .filter field _ | .oneOf field _ | .noneOf field _ | .between field _ | .range field _ _
  | .orderBy field _ => some field
  | _ => none

namespace RefiningCall

/-- The argument that a call gives a parameter: the one in its place, else the one of its name. -/
def argument? (c : RefiningCall) (place : Nat) (name : String) : Option Value :=
  c.positional[place]?.or (c.keywords.get? name)

/-- What a call asks for, by its name and the arguments that it gives.  Values that are given as a
sequence are settled first, and options are read entry by entry. -/
inductive Asks (c : RefiningCall) (s : Session) : Refinement → Session → Prop
  | filter {field value : Value} (hname : c.name = "where")
      (hfield : c.argument? 0 "field" = some field) (hvalue : c.argument? 1 "value" = some value) :
      Asks c s (.filter field value) s
  | oneOf {field given values : Value} {s' : Session} (hname : c.name = "where_in")
      (hfield : c.argument? 0 "field" = some field) (hgiven : c.argument? 1 "values" = some given)
      (hsettled : (settle given).outcome s = (.ok values, s')) : Asks c s (.oneOf field values) s'
  | noneOf {field given values : Value} {s' : Session} (hname : c.name = "where_not_in")
      (hfield : c.argument? 0 "field" = some field) (hgiven : c.argument? 1 "values" = some given)
      (hsettled : (settle given).outcome s = (.ok values, s')) : Asks c s (.noneOf field values) s'
  | between {field given values : Value} {s' : Session} (hname : c.name = "where_between")
      (hfield : c.argument? 0 "field" = some field) (hgiven : c.argument? 1 "values" = some given)
      (hsettled : (settle given).outcome s = (.ok values, s')) : Asks c s (.between field values) s'
  | range {field : Value} (hname : c.name = "where_range")
      (hfield : c.argument? 0 "field" = some field) :
      Asks c s (.range field ((c.argument? 1 "gte").getD .null) ((c.argument? 2 "lte").getD .null)) s
  | orderBy {field : Value} (hname : c.name = "order_by")
      (hfield : c.argument? 0 "field" = some field) :
      Asks c s (.orderBy field ((c.argument? 1 "direction").getD (.str "asc"))) s
  | orderByDesc {field : Value} (hname : c.name = "order_by_desc")
      (hfield : c.argument? 0 "field" = some field) : Asks c s (.orderBy field (.str "desc")) s
  | take {limit : Value} (hname : c.name = "take") (hlimit : c.argument? 0 "limit" = some limit) :
      Asks c s (.take limit) s
  | skip {offset : Value} (hname : c.name = "skip")
      (hoffset : c.argument? 0 "offset" = some offset) : Asks c s (.skip offset) s
  | within {index : Value} (hname : c.name = "within")
      (hindex : c.argument? 0 "index" = some index) : Asks c s (.within index) s
  | distinctBy {field : Value} (hname : c.name = "distinct_by")
      (hfield : c.argument? 0 "field" = some field) : Asks c s (.distinctBy field) s
  | withOptions {given : Value} {options : Entries} {cut : Option Fault} {s' : Session}
      (hname : c.name = "with_options") (hgiven : c.argument? 0 "options" = some given)
      (hread : (gatherEntries [] given).outcome s = (.ok (options, cut), s')) :
      Asks c s (.withOptions options cut) s'
  | callback {given : Value} (hname : c.name = "using")
      (hgiven : c.argument? 0 "callback" = some given) : Asks c s (.callback given) s

theorem Asks.argument?_of_field (h : c.Asks s r s') {field : Value} (hfield : r.field? = some field) :
    c.argument? 0 "field" = some field := by
  cases h with
  | filter _ hgiven _ | oneOf _ hgiven _ _ | noneOf _ hgiven _ _ | between _ hgiven _ _
  | range _ hgiven | orderBy _ hgiven | orderByDesc _ hgiven =>
    cases hfield
    exact hgiven
  | _ => cases hfield

/-- What the call asks for is on a text as its field, if it is on a field. -/
def OnTextField (c : RefiningCall) : Prop :=
  ∀ r s s' field, c.Asks s r s' → r.field? = some field → ∃ name, field = .str name

theorem onTextField {name : String} (h : c.argument? 0 "field" = some (.str name)) :
    c.OnTextField := by
  intro r s s' field hasked hfield
  exact ⟨name, Option.some.inj ((hasked.argument?_of_field hfield).symm.trans h)⟩

/-! ### The calls by name -/

/-- The arguments of the call meet the parameters that go with its name. -/
def Fits (c : RefiningCall) (b : Builder) (a : Arguments) : Prop :=
  Builder.all.lookup c.name = some b ∧ b.signature.bind c.positional c.keywords = .ok a

variable {b : Builder} {a : Arguments}

theorem distinct_parameters :
    ∀ e ∈ Builder.all, (e.2.signature.parameters.map Parameter.name).Nodup := by
  decide

theorem Fits.mem (h : c.Fits b a) : (c.name, b) ∈ Builder.all := by
  obtain ⟨before, after, hall, -⟩ := List.lookup_eq_some_iff.1 h.1
  simp [hall]

theorem Fits.eq_of_lookup (h : c.Fits b a) {name : String} (hname : c.name = name) {b' : Builder}
    (hb : Builder.all.lookup name = some b') : b = b' := by
  rw [← hname, h.1] at hb
  exact Option.some.inj hb

theorem Fits.get_eq (h : c.Fits b a) {place : Nat} {p : Parameter}
    (hp : b.signature.parameters[place]? = some p) :
    (c.argument? place p.name).or p.fallback = some (a.get p.name) :=
  Signature.get_of_bind (distinct_parameters _ h.mem) h.2 hp

theorem Fits.outcome_refinement (h : c.Fits b a) (s : Session) :
    c.refinement.outcome s = (b.refinement a).outcome s := by
  rw [refinement, h.1]
  dsimp only
  rw [h.2]
  rfl

theorem Fits.argument?_of_needed (h : c.Fits b a) {place : Nat} {name : String}
    (hp : b.signature.parameters[place]? = some (neededParameter name)) :
    c.argument? place name = some (a.get name) := by
  simpa [neededParameter] using h.get_eq hp

theorem Fits.get_of_needed (h : c.Fits b a) {place : Nat} {name : String} {v : Value}
    (hp : b.signature.parameters[place]? = some (neededParameter name))
    (hv : c.argument? place name = some v) : a.get name = v :=
  Option.some.inj ((h.argument?_of_needed hp).symm.trans hv)

theorem Fits.get_of_fallback (h : c.Fits b a) (place : Nat) (name : String) {type : TypeExpr}
    {v : Value} (hp : b.signature.parameters[place]? = some ⟨name, type, some v⟩) :
    a.get name = (c.argument? place name).getD v := by
  have hget := h.get_eq hp
  cases hgiven : c.argument? place name <;> simpa [hgiven] using hget.symm

theorem outcome_ofValues {make : Value → Value → Refinement} :
    ((Builder.ofValues make).refinement a).outcome s = (.ok r, s') ↔
      ∃ values, (settle (a.get "values")).outcome s = (.ok values, s') ∧
        r = make (a.get "field") values := by
  constructor
  · intro h
    obtain ⟨values, s₁, hsettled, h⟩ := Act.eq_ok_of_bind h
    cases h
    exact ⟨values, hsettled, rfl⟩
  · rintro ⟨values, hsettled, rfl⟩
    exact Act.outcome_bind_ok hsettled _

theorem Fits.asks (h : c.Fits b a) (hmade : (b.refinement a).outcome s = (.ok r, s')) :
    c.Asks s r s' := by
  have hmem := h.mem
  -- one case for each of the names, in the order of the table
  simp only [Builder.all, List.mem_cons, List.not_mem_nil, or_false, Prod.mk.injEq] at hmem
  rcases hmem with ⟨hname, rfl⟩ | ⟨hname, rfl⟩ | ⟨hname, rfl⟩ | ⟨hname, rfl⟩ | ⟨hname, rfl⟩ |
    ⟨hname, rfl⟩ | ⟨hname, rfl⟩ | ⟨hname, rfl⟩ | ⟨hname, rfl⟩ | ⟨hname, rfl⟩ | ⟨hname, rfl⟩ |
    ⟨hname, rfl⟩ | ⟨hname, rfl⟩
  · cases hmade
    exact .filter hname (h.argument?_of_needed rfl) (h.argument?_of_needed rfl)
  · obtain ⟨values, hsettled, rfl⟩ := outcome_ofValues.1 hmade
    exact .oneOf hname (h.argument?_of_needed rfl) (h.argument?_of_needed rfl) hsettled
  · obtain ⟨values, hsettled, rfl⟩ := outcome_ofValues.1 hmade
    exact .noneOf hname (h.argument?_of_needed rfl) (h.argument?_of_needed rfl) hsettled
  · obtain ⟨values, hsettled, rfl⟩ := outcome_ofValues.1 hmade
    exact .between hname (h.argument?_of_needed rfl) (h.argument?_of_needed rfl) hsettled
  · cases hmade
    rw [h.get_of_fallback 1 "gte" rfl, h.get_of_fallback 2 "lte" rfl]
    exact .range hname (h.argument?_of_needed rfl)
  · cases hmade
    rw [h.get_of_fallback 1 "direction" rfl]
    exact .orderBy hname (h.argument?_of_needed rfl)
  · cases hmade
    exact .orderByDesc hname (h.argument?_of_needed rfl)
  · cases hmade
    exact .take hname (h.argument?_of_needed rfl)
  · cases hmade
    exact .skip hname (h.argument?_of_needed rfl)
  · cases hmade
    exact .within hname (h.argument?_of_needed rfl)
  · cases hmade
    exact .distinctBy hname (h.argument?_of_needed rfl)
  · obtain ⟨⟨options, cut⟩, s₁, hread, hmade⟩ := Act.eq_ok_of_bind hmade
    cases hmade
    exact .withOptions hname (h.argument?_of_needed rfl) hread
  · cases hmade
    exact .callback hname (h.argument?_of_needed rfl)

theorem Asks.outcome (hasked : c.Asks s r s') (h : c.Fits b a) :
    (b.refinement a).outcome s = (.ok r, s') := by
  cases hasked with
  | filter hname hfield hvalue =>
    obtain rfl := h.eq_of_lookup hname rfl
    rw [← h.get_of_needed rfl hfield, ← h.get_of_needed rfl hvalue]
    rfl
  | oneOf hname hfield hgiven hsettled | noneOf hname hfield hgiven hsettled
  | between hname hfield hgiven hsettled =>
    obtain rfl := h.eq_of_lookup hname rfl
    rw [← h.get_of_needed rfl hgiven] at hsettled
    rw [← h.get_of_needed rfl hfield]
    exact outcome_ofValues.2 ⟨_, hsettled, rfl⟩
  | range hname hfield =>
    obtain rfl := h.eq_of_lookup hname rfl
    rw [← h.get_of_needed rfl hfield, ← h.get_of_fallback 1 "gte" rfl,
      ← h.get_of_fallback 2 "lte" rfl]
    rfl
  | orderBy hname hfield =>
    obtain rfl := h.eq_of_lookup hname rfl
    have hdirection : a.get "direction" = (c.argument? 1 "direction").getD (.str "asc") :=
      h.get_of_fallback 1 "direction" rfl
    rw [← h.get_of_needed rfl hfield, ← hdirection]
    rfl
  | orderByDesc hname hgiven | take hname hgiven | skip hname hgiven | within hname hgiven
  | distinctBy hname hgiven | callback hname hgiven =>
    obtain rfl := h.eq_of_lookup hname rfl
    rw [← h.get_of_needed rfl hgiven]
    rfl
  | withOptions hname hgiven hread =>
    obtain rfl := h.eq_of_lookup hname rfl
    rw [← h.get_of_needed rfl hgiven] at hread
    exact Act.outcome_bind_ok hread _

theorem Asks.options {options : Entries} {cut : Option Fault}
    (hasked : c.Asks s (.withOptions options cut) s') (h : c.Fits b a) :
    c.name = "with_options" ∧
      (gatherEntries [] (a.get "options")).outcome s = (.ok (options, cut), s') := by
  cases hasked with
  | withOptions hname hgiven hread =>
    obtain rfl := h.eq_of_lookup hname rfl
    rw [h.get_of_needed rfl hgiven]
    exact ⟨hname, hread⟩

/-- **The calls by name.**  A call goes on to refine a set exactly if its name is one of those of
the refinements and its arguments fit; and then it asks for the refinement of its name. -/
theorem refinement_eq_ok_iff :
    c.refinement.outcome s = (.ok r, s') ↔ (∃ b a, c.Fits b a) ∧ c.Asks s r s' := by
  constructor
  · intro h
    cases hb : Builder.all.lookup c.name with
    | none => rw [refinement, hb] at h; cases h
    | some b =>
      cases ha : b.signature.bind c.positional c.keywords with
      | error fault => rw [refinement, hb] at h; dsimp only at h; rw [ha] at h; cases h
      | ok a =>
        have hfits : c.Fits b a := ⟨hb, ha⟩
        exact ⟨⟨b, a, hfits⟩, hfits.asks (hfits.outcome_refinement s ▸ h)⟩
  · rintro ⟨⟨b, a, hfits⟩, hasked⟩
    rw [hfits.outcome_refinement, hasked.outcome hfits]

end RefiningCall

/-! ### One call -/

namespace PredicateSet

/-- **How a call on a predicate set ends.**  It fails and leaves the set; or it asks for a
refinement, and what this says has been written; or it asks for further options that break off. -/
theorem afterCall_cases (p : PredicateSet) (c : RefiningCall) (s : Session) :
    ∃ q ended s', (p.afterCall c).outcome s = (.ok (q, ended), s') ∧
      ((∃ fault, ended = .error fault ∧ q = p) ∨
        (∃ r, ended = .ok r ∧ c.refinement.outcome s = (.ok r, s') ∧ p.refine r = (q, none) ∧
          p.Extended [r] q) ∨
        ∃ options fault, ended = .error fault ∧
          c.refinement.outcome s = (.ok (.withOptions options (some fault)), s') ∧
          q = { p with options := p.options.update options }) := by
  unfold afterCall
  rw [Act.outcome_bind_ok (Act.outcome_caught _ _)]
  rcases hasked : c.refinement.outcome s with ⟨fault | r, s'⟩
  · exact ⟨p, .error fault, s', rfl, .inl ⟨fault, rfl, rfl⟩⟩
  · have hrefined := p.refine_cases r
    dsimp only
    generalize hended : p.refine r = ended at hrefined
    cases hrefined with
    | written h => exact ⟨_, _, s', rfl, .inr (.inl ⟨r, rfl, rfl, hended, h⟩)⟩
    | refused fault => exact ⟨_, _, s', rfl, .inl ⟨fault, rfl, rfl⟩⟩
    | cut hr =>
      subst hr
      exact ⟨_, _, s', rfl, .inr (.inr ⟨_, _, rfl, rfl, rfl⟩)⟩

theorem not_isDict_of_cut {v : Value} {options : Entries} {fault : Fault}
    (h : (gatherEntries [] v).outcome s = (.ok (options, some fault), s')) : v.isDict = false := by
  cases v with
  | dict es => cases h
  | _ => rfl

/-- **What a call that fails has left.**  The set is what it was before the call, whatever it was
and whatever the call was given.  Only options that are no map and break off have been written as
far as they could be read, and nothing else has. -/
theorem afterCall_fails (p : PredicateSet) (c : RefiningCall) (s : Session) :
    ∃ q ended s', (p.afterCall c).outcome s = (.ok (q, ended), s') ∧
      ∀ fault, ended = .error fault → q = p ∨
        c.name = "with_options" ∧ ∃ b a options, (c.name, b) ∈ Builder.all ∧
          b.signature.bind c.positional c.keywords = .ok a ∧
          (a.get "options").isDict = false ∧
          (gatherEntries [] (a.get "options")).outcome s = (.ok (options, some fault), s') ∧
          q = { p with options := p.options.update options } := by
  obtain ⟨q, ended, s', houtcome, hcases⟩ := p.afterCall_cases c s
  refine ⟨q, ended, s', houtcome, fun fault hfault => ?_⟩
  rcases hcases with ⟨_, -, hq⟩ | ⟨r, hok, -⟩ | ⟨options, cut, hcut, hasked, hq⟩
  · exact .inl hq
  · rw [hok] at hfault; cases hfault
  · obtain rfl : cut = fault := Except.error.inj (hcut.symm.trans hfault)
    obtain ⟨⟨b, a, hfits⟩, hasked⟩ := RefiningCall.refinement_eq_ok_iff.1 hasked
    obtain ⟨hname, hgathered⟩ := hasked.options hfits
    exact .inr ⟨hname, b, a, options, hfits.mem, hfits.2, not_isDict_of_cut hgathered, hgathered, hq⟩

/-- Options that are given as pairs are written up to the first item that is no pair. -/
theorem afterCall_options_break_off :
    ∃ q fault, ((afterCall {} ⟨"with_options", [.list [.list [.str "size", .int 5], .int 7]],
        []⟩).outcome {}).1 = .ok (q, .error fault) ∧
      q.options = [(.str "size", .int 5)] ∧ q ≠ {} :=
  ⟨_, .wrongType, rfl, rfl, fun h => by cases congrArg PredicateSet.options h⟩

/-! ### Calls one after the other -/

/-- A set after calls, with the refinements that went well, in their order.  The caller goes on
after the calls that fail. -/
def afterCalls (p : PredicateSet) : List RefiningCall → Act (PredicateSet × List Refinement)
  | [] => return (p, [])
  | c :: calls => do
    match ← p.afterCall c with
    | (q, .ok r) => do
      let (q, done) ← q.afterCalls calls
      return (q, r :: done)
    | (q, .error _) => q.afterCalls calls

/-- A call that goes well on some set, and the refinement that it asks for. -/
def Done (call : RefiningCall × Refinement) : Prop :=
  (∃ s s', call.1.Asks s call.2 s') ∧ ∃ p q : PredicateSet, p.refine call.2 = (q, none)

/-- **Calls one after the other** come to an end, and what the refinements say that went well has
been written. -/
theorem afterCalls_extended (p : PredicateSet) (calls : List RefiningCall) (s : Session) :
    ∃ (q : PredicateSet) (well : List (RefiningCall × Refinement)) (s' : Session),
      (p.afterCalls calls).outcome s = (.ok (q, well.map Prod.snd), s') ∧
        (well.map Prod.fst).Sublist calls ∧ (∀ call ∈ well, Done call) ∧
          p.Extended (well.map Prod.snd) q := by
  induction calls generalizing p s with
  | nil => exact ⟨p, [], s, rfl, List.Sublist.refl _, by simp, .of_options p.options⟩
  | cons c calls ih =>
    obtain ⟨q₁, ended, s₁, hcall, hcases⟩ := p.afterCall_cases c s
    obtain ⟨q, well, s', hrun, hsublist, hdone, hextended⟩ := ih q₁ s₁
    rw [afterCalls, Act.outcome_bind_ok hcall]
    rcases hcases with ⟨fault, rfl, rfl⟩ | ⟨r, rfl, hasked, hwell, hone⟩ |
      ⟨options, fault, rfl, -, rfl⟩
    · exact ⟨q, well, s', hrun, hsublist.cons c, hdone, hextended⟩
    · refine ⟨q, (c, r) :: well, s', ?_, hsublist.cons_cons c, ?_, hone.trans hextended⟩
      · rw [Act.outcome_bind_ok hrun]
        rfl
      · have hasks : c.Asks s r s₁ := (RefiningCall.refinement_eq_ok_iff.1 hasked).2
        exact List.forall_mem_cons.2 ⟨⟨⟨s, s₁, hasks⟩, p, q₁, hwell⟩, hdone⟩
    · -- the options that were cut off are no part of what refinements say
      exact ⟨q, well, s', hrun, hsublist.cons c, hdone, (Extended.of_options _).trans hextended⟩

end PredicateSet

end SearchKit
