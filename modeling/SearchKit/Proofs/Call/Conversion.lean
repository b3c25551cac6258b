import SearchKit.Engine.Method
import SearchKit.Proofs.Call.Arguments
import SearchKit.Proofs.Session.Outcome
import Mathlib.Data.List.Forall2

/-!
# Arguments received by name

A method that is called with arguments by name converts those that its parameters take, in the order
of the parameters, and leaves the others as they are; what is not given takes its default.  So the
call is decided by what each parameter receives, and not by the order in which arguments are given.

* `Parameter.received`, `Signature.received` : what a parameter receives, and all of them.
* `Signature.convertNamed_ofFields` : converting arguments replaces them by what is received.
* `Signature.passes_of_received` : every name is passed once, with the value that its parameter
  receives or else unchanged.
* `Method.callConverted_ofFields` : a call that gives what is needed, by what is received.
-/

namespace SearchKit

open Act

variable {s s' : Session} {sig : Signature} {fields named : Fields}

/-! ### What is received -/

/-- What a parameter receives: the argument under its name, converted to its declared type, else its
default. -/
def Parameter.received (p : Parameter) (fields : Fields) : Act Value :=
  match fields.get? p.name with
  | some v => convertIn p.type v
  | none => return p.fallback.getD .null

/-- What the parameters receive, in their order. -/
def Signature.received (sig : Signature) (fields : Fields) : Act Fields :=
  sig.parameters.mapM fun p => do return (p.name, ← p.received fields)

/-- A value received under the name of a parameter: a conversion, or the default. -/
def Parameter.Receives (p : Parameter) (fields : Fields) (f : String × Value) : Prop :=
  f.1 = p.name ∧ match fields.get? p.name with
    | some v => ∃ s s', (convertIn p.type v).outcome s = (.ok f.2, s')
    | none => f.2 = p.fallback.getD .null

theorem receives_of_mapM {ps : List Parameter}
    (h : (ps.mapM fun p => do return (p.name, ← p.received fields) : Act Fields).outcome s =
      (.ok named, s')) : List.Forall₂ (fun p f => p.Receives fields f) ps named := by
  induction ps generalizing s named with
  | nil => cases h; exact .nil
  | cons p ps ih =>
    rw [List.mapM_cons] at h
    obtain ⟨f, s₁, hf, h⟩ := eq_ok_of_bind h
    obtain ⟨rest, s₂, hrest, h⟩ := eq_ok_of_bind h
    cases h
    obtain ⟨v, s₃, hv, hf⟩ := eq_ok_of_bind hf
    cases hf
    refine .cons ⟨rfl, ?_⟩ (ih hrest)
    unfold Parameter.received at hv
    split at hv
    · exact ⟨s, _, hv⟩
    · cases hv; rfl

theorem Signature.receives_of_received (h : (sig.received fields).outcome s = (.ok named, s')) :
    List.Forall₂ (fun p f => p.Receives fields f) sig.parameters named := receives_of_mapM h

theorem names_of_receives {ps : List Parameter}
    (h : List.Forall₂ (fun p f => Parameter.Receives p fields f) ps named) :
    named.map Prod.fst = ps.map Parameter.name := by
  induction h with
  | nil => rfl
  | cons hf _ ih => rw [List.map_cons, List.map_cons, hf.1, ih]

section

variable (h : (sig.received fields).outcome s = (.ok named, s'))
include h

theorem Signature.distinct_received (hsig : (sig.parameters.map Parameter.name).Nodup) :
    named.Distinct := by
  rw [Fields.Distinct, names_of_receives (receives_of_received h)]
  exact hsig

theorem Signature.get?_received_eq_none {name : String}
    (hother : ∀ p ∈ sig.parameters, p.name ≠ name) : named.get? name = none := by
  refine Fields.get?_eq_none_iff.2 fun g hg hgname => ?_
  have hnames := names_of_receives (receives_of_received h)
  obtain ⟨p, hp, hpname⟩ := List.mem_map.1 (hnames ▸ List.mem_map_of_mem hg)
  exact hother p hp (hpname.trans hgname)

end

/-! ### Converting -/

theorem Fields.replaced_append_absent {done : Fields} {name : String}
    (habsent : fields.get? name = none) (v : Value) :
    fields.replaced (done ++ [(name, v)]) = fields.replaced done := by
  refine List.map_congr_left fun f hf => ?_
  have hother : name ≠ f.1 := fun h => Fields.get?_eq_none_iff.1 habsent f hf h.symm
  rw [Fields.get?_append, Fields.get?_cons, if_neg hother]
  simp [Fields.get?]

theorem foldlM_convert (hfields : fields.Distinct) {ps : List Parameter} {done : Fields}
    (hnames : (done.map Prod.fst ++ ps.map Parameter.name).Nodup) :
    ps.foldlM (fun acc p => match (Entries.ofFields fields).field? p.name with
      | some v => do return acc.set (.str p.name) (← convertIn p.type v)
      | none => return acc) (Entries.ofFields (fields.replaced done)) =
      (do
        let named ← ps.mapM fun p => do return (p.name, ← p.received fields)
        return Entries.ofFields (fields.replaced (done ++ named)) : Act Entries) := by
  induction ps generalizing done with
  | nil => simp
  | cons p ps ih =>
    have hrest : ∀ v, ((done ++ [(p.name, v)]).map Prod.fst ++ ps.map Parameter.name).Nodup := by
      intro v
      simpa using hnames
    have hdone : done.get? p.name = none := Fields.get?_eq_none_iff.2 fun f hf hname =>
      (List.nodup_append.1 hnames).2.2 f.1 (List.mem_map_of_mem hf) p.name
        (List.mem_map_of_mem List.mem_cons_self) hname
    rw [List.foldlM_cons, List.mapM_cons, Entries.field?_ofFields, Parameter.received]
    cases hgiven : fields.get? p.name with
    | some v =>
      simp only [bind_assoc, pure_bind]
      refine bind_congr fun w => ?_
      rw [Entries.set_ofFields, Fields.set_replaced hfields hgiven hdone, ih (hrest w)]
      simp
    | none =>
      simp only [bind_assoc, pure_bind]
      rw [← Fields.replaced_append_absent hgiven (p.fallback.getD .null), ih (hrest _)]
      simp

/-- Arguments by name are converted by replacing them by what the parameters receive. -/
theorem Signature.convertNamed_ofFields (hsig : (sig.parameters.map Parameter.name).Nodup)
    (hfields : fields.Distinct) :
    sig.convertNamed (Entries.ofFields fields) =
      (do return Entries.ofFields (fields.replaced (← sig.received fields)) : Act Entries) := by
  have h := @foldlM_convert fields hfields sig.parameters [] (by simpa using hsig)
  rw [Fields.replaced_nil] at h
  exact h

/-- What a method is passed for a value that is given under a name: where it has a parameter of that
name a conversion to the declared type, else the value itself. -/
def Signature.Passes (sig : Signature) (given passed : String × Value) : Prop :=
  passed.1 = given.1 ∧
    (∀ p ∈ sig.parameters, p.name = given.1 →
      ∃ s s', (convertIn p.type given.2).outcome s = (.ok passed.2, s')) ∧
    ((∀ p ∈ sig.parameters, p.name ≠ given.1) → passed.2 = given.2)

/-- Every name that is given is passed, in the same order, and nothing else is. -/
theorem Signature.passes_of_received (hsig : (sig.parameters.map Parameter.name).Nodup)
    (hfields : fields.Distinct) (h : (sig.received fields).outcome s = (.ok named, s')) :
    List.Forall₂ sig.Passes fields (fields.replaced named) := by
  have hreceives := receives_of_received h
  have hnamed := distinct_received h hsig
  rw [Fields.replaced, List.forall₂_map_right_iff, List.forall₂_same]
  refine fun f hf => ⟨rfl, fun p hp hname => ?_, fun hother => ?_⟩
  · obtain ⟨g, hg, hgname, hvalue⟩ : ∃ g ∈ named, p.Receives fields g := by
      obtain ⟨n, hn, rfl⟩ := List.getElem_of_mem hp
      obtain ⟨hlength, hall⟩ := List.forall₂_iff_get.1 hreceives
      exact ⟨named[n], List.getElem_mem _, hall n hn (hlength ▸ hn)⟩
    rw [hname, Fields.get?_of_mem hfields hf] at hvalue
    have hget : named.get? f.1 = some g.2 := by
      rw [← hname, ← hgname]
      exact Fields.get?_of_mem hnamed hg
    rw [hget]
    exact hvalue
  · rw [get?_received_eq_none h hother]
    rfl

/-! ### The call -/

theorem bindNamed_of_forall₂ {keywords : Fields} {ps : List Parameter}
    (h : List.Forall₂ (fun (p : Parameter) f => f.1 = p.name ∧ (keywords.get? p.name = some f.2 ∨
      keywords.get? p.name = none ∧ p.fallback = some f.2)) ps named) :
    Signature.bindNamed keywords ps [] = .ok named := by
  induction h with
  | nil => rfl
  | @cons p f ps named hf _ ih =>
    obtain ⟨name, v⟩ := f
    obtain ⟨rfl, hgiven | ⟨hnone, hfallback⟩⟩ := hf
    · rw [Signature.bindNamed, hgiven, ih]
      rfl
    · rw [Signature.bindNamed, hnone, hfallback, ih]
      rfl

/-- The fields give what the signature needs: an argument for every parameter without a default, and
none to the receiver. -/
structure Signature.Needs (sig : Signature) (fields : Fields) : Prop where
  /-- A parameter without an argument has a default. -/
  complete : ∀ p ∈ sig.parameters, fields.get? p.name = none → p.fallback.isSome
  /-- The receiver is not given. -/
  receiver : fields.get? receiverName = none

/-- **A call by name.**  A method that takes further keywords, given what it needs, is run on what
its parameters receive and on the keywords that none of them takes. -/
theorem Method.callConverted_ofFields {m : Method}
    (hsig : (m.signature.parameters.map Parameter.name).Nodup)
    (hfurther : m.signature.further = true) (hfields : fields.Distinct)
    (hneeds : m.signature.Needs fields) (id : Nat) :
    m.callConverted id (Entries.ofFields fields) =
      (do
        let named ← m.signature.received fields
        m.body id { named, further := m.signature.furtherKeywords fields } : Act Value) := by
  rw [Method.callConverted, Signature.convertNamed_ofFields hsig hfields, bind_assoc]
  funext s
  refine outcome_bind_congr fun named s' hnamed => ?_
  have hreceives := Signature.receives_of_received hnamed
  have hdistinct := Signature.distinct_received hnamed hsig
  rw [pure_bind, Signature.bindEntries, Entries.toFields?_ofFields]
  -- each parameter finds under its name what it has received
  have hbound :
      Signature.bindNamed (fields.replaced named) m.signature.parameters [] = .ok named := by
    refine bindNamed_of_forall₂ (List.forall₂_iff_get.2 ⟨hreceives.length_eq, fun n hp hn => ?_⟩)
    obtain ⟨hname, hvalue⟩ := (List.forall₂_iff_get.1 hreceives).2 n hp hn
    have hget : named.get? (m.signature.parameters.get ⟨n, hp⟩).name =
        some (named.get ⟨n, hn⟩).2 := by
      rw [← hname]
      exact Fields.get?_of_mem hdistinct (List.get_mem _ _)
    refine ⟨hname, ?_⟩
    rw [Fields.get?_replaced]
    cases hgiven : fields.get? (m.signature.parameters.get ⟨n, hp⟩).name with
    | some v => exact .inl (by rw [Option.map_some, hget]; rfl)
    | none =>
      obtain ⟨d, hd⟩ := Option.isSome_iff_exists.1
        (hneeds.complete _ (List.get_mem _ _) hgiven)
      rw [hgiven, hd] at hvalue
      exact .inr ⟨rfl, by rw [hd, hvalue]; rfl⟩
  have hrest : m.signature.furtherKeywords (fields.replaced named) =
      m.signature.furtherKeywords fields := by
    rw [Signature.furtherKeywords, Fields.replaced, List.filter_map]
    refine (List.map_congr_left fun f hf => ?_).trans (List.map_id _)
    have hother : ∀ p ∈ m.signature.parameters, p.name ≠ f.1 := by
      simpa using (List.mem_filter.1 hf).2
    rw [Signature.get?_received_eq_none hnamed hother]
    rfl
  have hreceiver : (fields.replaced named).get? receiverName = none := by
    rw [Fields.get?_replaced, hneeds.receiver]
    rfl
  have hbind : m.signature.bind [] (fields.replaced named) =
      .ok { named, further := m.signature.furtherKeywords fields } := by
    rw [Signature.bind, hreceiver, hbound, hrest, hfurther]
    rfl
  dsimp only
  rw [hbind, lift_ok, pure_bind]

end SearchKit
