import SearchKit.Call.Operation
import SearchKit.Call.Signature
import SearchKit.Proofs.Schema.Checking
import SearchKit.Proofs.Value.Fields

/-!
# What a call sends

Arguments that meet a signature are sent as an operation under one set of names: those of the
parameters, without the null ones, and behind them the further keywords as they are.  The further
keywords travel in a bundle under a name of its own; as no parameter has that name, the bundle is
the only thing that is taken apart, and a further keyword of the same name is not.

* `Signature.WellNamed` : what the names of parameters have to keep apart.
* `Signature.bindNamed_cons` : where the argument of a parameter comes from.
* `Signature.names_of_bind`, `Signature.mem_further_iff` : arguments that meet a signature.
* `Arguments.sent` : the names and values that are sent, each name once
  (`Signature.distinct_sent`).
* `Signature.ofCall_spread` : the operation of a call holds these, and making it has no effect.
-/

namespace SearchKit

variable {sig : Signature} {positional : List Value} {keywords : Fields} {a : Arguments}

/-! ### Meeting a signature -/

namespace Signature

/-- The names of the parameters differ from each other, from that of the receiver and from that of
the bundle of further keywords. -/
structure WellNamed (sig : Signature) : Prop where
  /-- The names of the parameters differ from each other. -/
  distinct : (sig.parameters.map Parameter.name).Nodup
  /-- No parameter has the name of the receiver. -/
  receiver : ∀ p ∈ sig.parameters, p.name ≠ receiverName
  /-- No parameter has the name of the bundle. -/
  further : ∀ p ∈ sig.parameters, p.name ≠ furtherName

/-- The first parameter has the next argument by place; after the last of them, its keyword, else
its default. -/
theorem bindNamed_cons {p : Parameter} {ps : List Parameter} {named : Fields}
    (h : bindNamed keywords (p :: ps) positional = .ok named) :
    ∃ v rest more, named = (p.name, v) :: more ∧ bindNamed keywords ps rest = .ok more ∧
      (positional = v :: rest ∨ positional = [] ∧ rest = [] ∧
        (keywords.get? p.name = some v ∨ keywords.get? p.name = none ∧ p.fallback = some v)) := by
  have hfront : ∀ {rest : List Value} {v : Value},
      (bindNamed keywords ps rest).map ((p.name, v) :: ·) = .ok named →
        ∃ more, named = (p.name, v) :: more ∧ bindNamed keywords ps rest = .ok more := by
    intro rest v hmap
    cases hmore : bindNamed keywords ps rest with
    | error fault => rw [hmore] at hmap; cases hmap
    | ok more => rw [hmore] at hmap; exact ⟨more, (Except.ok.inj hmap).symm, rfl⟩
  cases positional with
  | cons v rest =>
    rw [bindNamed] at h
    split at h
    · cases h
    · obtain ⟨more, hnamed, hmore⟩ := hfront h
      exact ⟨v, rest, more, hnamed, hmore, .inl rfl⟩
  | nil =>
    rw [bindNamed] at h
    cases hgiven : keywords.get? p.name with
    | some v =>
      rw [hgiven] at h
      obtain ⟨more, hnamed, hmore⟩ := hfront h
      exact ⟨v, [], more, hnamed, hmore, .inr ⟨rfl, rfl, .inl rfl⟩⟩
    | none =>
      cases hfallback : p.fallback with
      | some v =>
        rw [hgiven, hfallback] at h
        obtain ⟨more, hnamed, hmore⟩ := hfront h
        exact ⟨v, [], more, hnamed, hmore, .inr ⟨rfl, rfl, .inr ⟨rfl, rfl⟩⟩⟩
      | none => rw [hgiven, hfallback] at h; cases h

theorem names_of_bindNamed {ps : List Parameter} {named : Fields}
    (h : bindNamed keywords ps positional = .ok named) :
    named.map Prod.fst = ps.map Parameter.name := by
  induction ps generalizing positional named with
  | nil =>
    cases positional <;> cases h
    rfl
  | cons p ps ih =>
    obtain ⟨v, rest, more, rfl, hmore, -⟩ := bindNamed_cons h
    rw [List.map_cons, List.map_cons, ih hmore]

theorem get?_bindNamed {ps : List Parameter} {named : Fields}
    (hdistinct : (ps.map Parameter.name).Nodup)
    (h : bindNamed keywords ps positional = .ok named) {place : Nat} {p : Parameter}
    (hp : ps[place]? = some p) :
    named.get? p.name = (positional[place]?.or (keywords.get? p.name)).or p.fallback := by
  induction ps generalizing positional named place with
  | nil => cases hp
  | cons q ps ih =>
    obtain ⟨v, rest, more, rfl, hmore, hgiven⟩ := bindNamed_cons h
    rw [List.map_cons, List.nodup_cons] at hdistinct
    rw [Fields.get?_cons]
    cases place with
    | zero =>
      obtain rfl := Option.some.inj hp
      rw [if_pos rfl]
      rcases hgiven with rfl | ⟨rfl, rfl, hkey | ⟨hnone, hfallback⟩⟩
      · rfl
      · simp [hkey]
      · simp [hnone, hfallback]
    | succ place =>
      have hother : q.name ≠ p.name := fun hname =>
        hdistinct.1 (hname ▸ List.mem_map_of_mem (List.mem_of_getElem? hp))
      rw [if_neg hother, ih hdistinct.2 hmore hp]
      rcases hgiven with rfl | ⟨rfl, rfl, -⟩ <;> simp

theorem given_of_bindNamed {ps : List Parameter} {named : Fields}
    (h : bindNamed keywords ps [] = .ok named) {p : Parameter} (hp : p ∈ ps) :
    ∃ v, (p.name, v) ∈ named ∧
      (keywords.get? p.name = some v ∨ keywords.get? p.name = none ∧ p.fallback = some v) := by
  induction ps generalizing named with
  | nil => cases hp
  | cons q ps ih =>
    obtain ⟨v, rest, more, rfl, hmore, hplace | ⟨-, rfl, hv⟩⟩ := bindNamed_cons h
    · cases hplace
    rcases List.mem_cons.1 hp with rfl | hp
    · exact ⟨v, List.mem_cons_self, hv⟩
    · obtain ⟨w, hw, hgiven⟩ := ih hmore hp
      exact ⟨w, List.mem_cons_of_mem _ hw, hgiven⟩

theorem bind_eq_ok (h : sig.bind positional keywords = .ok a) :
    keywords.get? receiverName = none ∧ a.further = sig.furtherKeywords keywords ∧
      (sig.further = false → a.further = []) ∧
      bindNamed keywords sig.parameters positional = .ok a.named := by
  unfold bind at h
  dsimp only at h
  split at h
  · cases h
  rename_i hreceiver
  split at h
  · cases hnamed : bindNamed keywords sig.parameters positional with
    | error fault => rw [hnamed] at h; cases h
    | ok named =>
      rename_i hfurther
      rw [hnamed] at h
      cases h
      refine ⟨by simpa using hreceiver, rfl, fun hnone => ?_, rfl⟩
      simpa [hnone] using hfurther
  · cases h

theorem get_of_bind (hdistinct : (sig.parameters.map Parameter.name).Nodup)
    (h : sig.bind positional keywords = .ok a) {place : Nat} {p : Parameter}
    (hp : sig.parameters[place]? = some p) :
    (positional[place]?.or (keywords.get? p.name)).or p.fallback = some (a.get p.name) := by
  have hnamed := (bind_eq_ok h).2.2.2
  have hget := get?_bindNamed hdistinct hnamed hp
  obtain ⟨f, hf, hname⟩ : ∃ f ∈ a.named, f.1 = p.name := by
    have hmem : p.name ∈ a.named.map Prod.fst :=
      names_of_bindNamed hnamed ▸ List.mem_map_of_mem (List.mem_of_getElem? hp)
    exact List.mem_map.1 hmem
  rcases hfound : a.named.get? p.name with _ | v
  · exact absurd hname (Fields.get?_eq_none_iff.1 hfound f hf)
  · rw [← hget, hfound, Arguments.get, Fields.getD, hfound]
    rfl

/-- The arguments of the parameters have the names of the parameters. -/
theorem names_of_bind (h : sig.bind positional keywords = .ok a) :
    a.named.map Prod.fst = sig.parameters.map Parameter.name :=
  names_of_bindNamed (bind_eq_ok h).2.2.2

theorem parameter_of_named (h : sig.bind positional keywords = .ok a) {f : String × Value}
    (hf : f ∈ a.named) : ∃ p ∈ sig.parameters, p.name = f.1 :=
  List.mem_map.1 (names_of_bind h ▸ List.mem_map_of_mem hf)

theorem distinct_named (hsig : sig.WellNamed) (h : sig.bind positional keywords = .ok a) :
    a.named.Distinct := by
  rw [Fields.Distinct, names_of_bind h]
  exact hsig.distinct

/-- A further keyword is a keyword that names no parameter. -/
theorem mem_further_iff (h : sig.bind positional keywords = .ok a) {f : String × Value} :
    f ∈ a.further ↔ f ∈ keywords ∧ ∀ p ∈ sig.parameters, p.name ≠ f.1 := by
  rw [(bind_eq_ok h).2.1, furtherKeywords, List.mem_filter]
  simp

end Signature

/-! ### The names that are sent -/

/-- What a call sends: the arguments of the parameters that are not null, and the further
keywords. -/
def Arguments.sent (a : Arguments) : Fields := (a.named.filter fun f => !f.2.isNull) ++ a.further

namespace Signature

theorem distinct_named_further (hsig : sig.WellNamed) (hkeywords : keywords.Distinct)
    (h : sig.bind positional keywords = .ok a) : Fields.Distinct (a.named ++ a.further) := by
  have hfurther : a.further.Distinct := by
    rw [(bind_eq_ok h).2.1]
    exact hkeywords.sublist (List.filter_sublist.map _)
  rw [Fields.Distinct, List.map_append]
  refine List.nodup_append.2 ⟨distinct_named hsig h, hfurther, fun name hn other hf heq => ?_⟩
  obtain ⟨g, hg, rfl⟩ := List.mem_map.1 hn
  obtain ⟨f, hmem, rfl⟩ := List.mem_map.1 hf
  obtain ⟨p, hp, hname⟩ := parameter_of_named h hg
  exact ((mem_further_iff h).1 hmem).2 p hp (hname.trans heq)

/-- Each name is sent once. -/
theorem distinct_sent (hsig : sig.WellNamed) (hkeywords : keywords.Distinct)
    (h : sig.bind positional keywords = .ok a) : a.sent.Distinct :=
  (distinct_named_further hsig hkeywords h).sublist
    ((List.filter_sublist.append (List.Sublist.refl _)).map _)

theorem get?_receiver_sent (hsig : sig.WellNamed) (h : sig.bind positional keywords = .ok a) :
    a.sent.get? receiverName = none := by
  rw [Fields.get?_eq_none_iff]
  intro f hf
  rcases List.mem_append.1 hf with hf | hf
  · obtain ⟨p, hp, hname⟩ := parameter_of_named h (List.mem_filter.1 hf).1
    exact hname ▸ hsig.receiver p hp
  · exact Fields.get?_eq_none_iff.1 (bind_eq_ok h).1 f ((mem_further_iff h).1 hf).1

end Signature

/-! ### The operation -/

namespace Operation

theorem sentArguments_ofFields {named done : Fields} {rest : Entries}
    (hnames : ∀ f ∈ named, f.1 ≠ furtherName) (hdistinct : Fields.Distinct (done ++ named)) :
    sentArguments (Entries.ofFields done) (Entries.ofFields named ++ rest) =
      sentArguments (Entries.ofFields (done ++ named.filter fun f => !f.2.isNull)) rest := by
  induction named generalizing done with
  | nil => simp [Entries.ofFields]
  | cons f named ih =>
    have hplain : Value.sameKey (.str f.1) (.str "kwargs") = false := by
      rw [Value.sameKey_str]
      exact beq_false_of_ne (hnames f List.mem_cons_self)
    have hrest : ∀ g ∈ named, g.1 ≠ furtherName := fun g hg => hnames g (List.mem_cons_of_mem _ hg)
    have hcons : Entries.ofFields (f :: named) ++ rest =
        (.str f.1, f.2) :: (Entries.ofFields named ++ rest) := rfl
    rw [hcons, sentArguments, if_neg (by simp [hplain]), List.filter_cons]
    by_cases hnull : f.2.isNull = true
    · -- a null argument leaves no trace
      rw [if_pos hnull, if_neg (by simp [hnull])]
      refine ih hrest (hdistinct.sublist (List.Sublist.map _ ?_))
      exact (List.Sublist.refl done).append (List.sublist_cons_self f named)
    · rw [if_neg hnull, if_pos (by simp [hnull])]
      have hmoved : done ++ f :: named = (done ++ [f]) ++ named := by simp
      rw [hmoved] at hdistinct
      have hset : Assoc.set (.str f.1) f.2 (Entries.ofFields done) =
          Entries.ofFields (done ++ [f]) :=
        @Entries.update_ofFields done [f] (hdistinct.sublist
          ((List.sublist_append_left _ named).map _))
      rw [hset, ih hrest hdistinct, List.append_assoc]
      rfl

theorem ofValue_operation (name : String) {es : Entries} (h : ∀ e ∈ es, ∃ name, e.1 = .str name) :
    ModelKind.operation.ofValue (Fields.toValue [("name", .str name), ("args", .dict es)]) =
      .ok (toValue ⟨some name, some es⟩) := by
  let given := Entries.ofFields [("name", .str name), ("args", .dict es)]
  have hname : (Shape.optional .str).check (.str name) = .ok (.str name) :=
    Shape.check_optional_str_iff.2 ⟨rfl, some name, rfl⟩
  have hargs : (Shape.optional (.dictOf .any)).check (.dict es) = .ok (.dict es) :=
    Shape.check_optional_iff.2 (.inr ⟨Value.noConfusion, Shape.check_dictOf_any h⟩)
  have hnone : Shape.checkFields [] given = .ok [] := Shape.checkFields_nil_iff.2 rfl
  have hcheck : operationShape.check (.dict given) = .ok (toValue ⟨some name, some es⟩) :=
    Shape.check_object_iff.2 ⟨_, Shape.checkFields_present rfl hname
      (Shape.checkFields_present rfl hargs hnone), rfl⟩
  exact ModelKind.ofValue_eq_ok_iff.2 hcheck

end Operation

/-- The operation of a call: it holds what is sent, and making it has no effect. -/
theorem Signature.ofCall_spread (hsig : sig.WellNamed) (hkeywords : keywords.Distinct)
    (h : sig.bind positional keywords = .ok a) (name : String) :
    Operation.ofCall (.str name) (.dict (sig.spread a)) =
      pure ⟨some name, some (Entries.ofFields a.sent)⟩ := by
  have hdistinct := distinct_named_further hsig hkeywords h
  have hkept : Operation.withoutReceiver (sig.spread a) = sig.spread a := by
    refine List.filter_eq_self.2 fun e he => ?_
    have hkey : ∃ name, e.1 = .str name ∧ name ≠ receiverName := by
      unfold spread at he
      dsimp only at he
      split at he
      · rcases List.mem_append.1 he with he | he
        · obtain ⟨f, hf, rfl⟩ := List.mem_map.1 he
          obtain ⟨p, hp, hname⟩ := parameter_of_named h hf
          exact ⟨f.1, rfl, hname ▸ hsig.receiver p hp⟩
        · obtain rfl := List.mem_singleton.1 he
          exact ⟨furtherName, rfl, by decide⟩
      · obtain ⟨f, hf, rfl⟩ := List.mem_map.1 he
        obtain ⟨p, hp, hname⟩ := parameter_of_named h hf
        exact ⟨f.1, rfl, hname ▸ hsig.receiver p hp⟩
    obtain ⟨name, hname, hother⟩ := hkey
    rw [hname, Value.sameKey_str]
    simpa [receiverName] using hother
  -- a named argument is sent under its own name, and only the bundle is opened
  have hfurther : ∀ f ∈ a.named, f.1 ≠ furtherName := fun f hf => by
    obtain ⟨p, hp, hname⟩ := parameter_of_named h hf
    exact hname ▸ hsig.further p hp
  have hsent : Operation.sentArguments [] (sig.spread a) = pure (Entries.ofFields a.sent) := by
    have hnamed : ∀ rest, Operation.sentArguments [] (Entries.ofFields a.named ++ rest) =
        Operation.sentArguments (Entries.ofFields (a.named.filter fun f => !f.2.isNull)) rest :=
      fun rest => @Operation.sentArguments_ofFields a.named [] rest hfurther
        (hdistinct.sublist ((List.sublist_append_left _ _).map _))
    unfold spread
    dsimp only
    split
    · -- the bundle is the last of what is sent, and its keywords have names of their own
      have hbundle : Value.sameKey (.str furtherName) (.str "kwargs") = true :=
        (Value.sameKey_str _ _).trans (beq_self_eq_true _)
      have hmore : Fields.Distinct ((a.named.filter fun f => !f.2.isNull) ++ a.further) :=
        distinct_sent hsig hkeywords h
      rw [hnamed, Operation.sentArguments, if_pos hbundle, Fields.toValue, writtenOver_dict,
        pure_bind, Operation.sentArguments, Entries.update_ofFields hmore]
      rfl
    · rename_i hnone
      have hnil : a.further = [] := (bind_eq_ok h).2.2.1 (by simpa using hnone)
      rw [← List.append_nil (Entries.ofFields a.named), hnamed, Arguments.sent, hnil,
        List.append_nil, Operation.sentArguments]
  have htext : ∀ e ∈ Entries.ofFields a.sent, ∃ name, e.1 = .str name := fun e he =>
    Entries.text_of_mem_ofFields he
  unfold Operation.ofCall
  dsimp only
  rw [hkept, hsent, pure_bind, pure_bind, Operation.ofValue_operation name htext]
  rfl

end SearchKit
