import SearchKit.Proofs.Index.Layering
import SearchKit.Proofs.Value.Parts

/-!
# The algebra of merging

Documents are laid over each other with the empty document as unit, and a document that is laid over
another one twice changes nothing the second time, since each of its values then meets what it has
brought itself.  Merging is associative with one exception: where the middle document has something
that is no map between maps of the two others.  From the left the lower map is hidden before the
upper one comes; from the right the upper map has taken the place of what would have hidden the
lower one, and the two are merged.

All of this holds with the order of the keys, which is that of the lower document and then of the
keys that the upper one brings.

* `mergeEntries_eq` : the entries of a merged map, in their order.
* `mergeEntries_mergeEntries` : the same entries laid over once more.
* `mergeEntries_assoc` : associativity, wherever no value intervenes (`Value.Intervenes`).
* `mergeInto_laws` : **the algebra of documents**; `Value.Compatible` is what associativity asks of
  each two of them.
-/

namespace SearchKit

/-! ### The entries of a merged map -/

namespace Assoc

variable {α : Type}

/-- The entries of a map under keys that another one does not have. -/
def beyond (base top : Assoc α) : Assoc α := top.filter fun e => (base.get? e.1).isNone

theorem beyond_append (base top more : Assoc α) :
    beyond base (top ++ more) = beyond base top ++ beyond base more := List.filter_append _ _

end Assoc

variable {base top a b c : Entries}

@[simp] theorem overlay_none (v : Value) : overlay none v = v := by
  cases v <;> simp [overlay]

/-- An entry with what a document has under its key laid over it. -/
def coverEntry (top : Entries) (e : Value × Value) : Value × Value :=
  (e.1, (top.get? e.1).elim e.2 (overlay (some e.2)))

theorem coverEntry_of_absent {e : Value × Value} (h : top.get? e.1 = none) :
    coverEntry top e = e := by
  rw [coverEntry, h]
  rfl

theorem coverEntry_cons (e f : Value × Value) (top : Entries) :
    coverEntry (f :: top) e =
      if f.1.sameKey e.1 then (e.1, overlay (some e.2) f.2) else coverEntry top e := by
  rw [coverEntry, Assoc.get?_cons]
  split <;> rfl

theorem mergeEntries_cons (e : Value × Value) (base : Entries) (htop : top.Distinct) :
    mergeEntries (e :: base) top =
      coverEntry top e :: mergeEntries base (Assoc.erase e.1 top) := by
  induction top generalizing e base with
  | nil => rfl
  | cons f top ih =>
    have hrest := (List.pairwise_cons.1 htop).2
    rw [mergeEntries, Assoc.set_cons, Assoc.get?_cons, coverEntry_cons, Assoc.erase_cons]
    by_cases hkey : e.1.sameKey f.1 = true
    · -- no further entry goes to the same place
      have hsame := Value.sameKey_symm hkey
      have hcover : coverEntry top (e.1, overlay (some e.2) f.2) = (e.1, overlay (some e.2) f.2) :=
        coverEntry_of_absent (Assoc.get?_of_distinct_cons htop hsame)
      rw [if_pos hkey, if_pos hkey, if_pos hsame, if_pos hsame, ih _ _ hrest, hcover]
    · have hother : ¬ f.1.sameKey e.1 = true := fun h => hkey (Value.sameKey_symm h)
      rw [if_neg hkey, if_neg hkey, if_neg hother, if_neg hother, ih _ _ hrest, mergeEntries]

theorem mergeEntries_nil_left (htop : top.Distinct) : mergeEntries [] top = top := by
  induction top with
  | nil => rfl
  | cons f top ih =>
    have hrest := (List.pairwise_cons.1 htop).2
    have habsent := Assoc.absent_of_distinct_cons htop
    have herase : Assoc.erase f.1 top = top :=
      List.filter_eq_self.2 fun g hg => by rw [habsent g hg]; rfl
    rw [mergeEntries, Assoc.get?_nil, overlay_none, Assoc.set, mergeEntries_cons _ _ hrest,
      coverEntry_of_absent (Assoc.get?_eq_none_iff.2 habsent), herase, ih hrest]

/-- **The entries of a merged map**: those of the lower one in their order, each with what the upper
one has under its key laid over it, and then the others of the upper one in theirs. -/
theorem mergeEntries_eq (hbase : base.Distinct) (htop : top.Distinct) :
    mergeEntries base top = base.map (coverEntry top) ++ Assoc.beyond base top := by
  induction base generalizing top with
  | nil => simp [mergeEntries_nil_left htop, Assoc.beyond]
  | cons e base ih =>
    obtain ⟨he, hrest⟩ := List.pairwise_cons.1 hbase
    have hcover : base.map (coverEntry (Assoc.erase e.1 top)) = base.map (coverEntry top) := by
      refine List.map_congr_left fun f hf => ?_
      rw [coverEntry, Assoc.get?_erase, if_neg (by rw [he f hf]; exact Bool.false_ne_true)]
      rfl
    have hbeyond : Assoc.beyond base (Assoc.erase e.1 top) = Assoc.beyond (e :: base) top := by
      rw [Assoc.beyond, Assoc.beyond, Assoc.erase, List.filter_filter]
      refine List.filter_congr fun f _ => ?_
      have hsame : e.1.sameKey f.1 = f.1.sameKey e.1 :=
        Bool.eq_iff_iff.2 ⟨Value.sameKey_symm, Value.sameKey_symm⟩
      rw [Assoc.get?_cons, hsame]
      cases f.1.sameKey e.1 <;> simp
    rw [mergeEntries_cons e base htop, ih hrest (htop.erase e.1), hcover, hbeyond]
    rfl

theorem distinct_mergeEntries (hbase : base.Distinct) (top : Entries) :
    Assoc.Distinct (mergeEntries base top) := by
  induction top generalizing base with
  | nil => exact hbase
  | cons f top ih => exact ih (hbase.set _ _)

theorem beyond_map_coverEntry (a b c : Entries) :
    (Assoc.beyond a b).map (coverEntry c) = Assoc.beyond a (b.map (coverEntry c)) := by
  rw [Assoc.beyond, Assoc.beyond, List.filter_map]
  rfl

theorem beyond_mergeEntries (base : Entries) (htop : top.Distinct) (c : Entries) :
    Assoc.beyond (mergeEntries base top) c = Assoc.beyond base (Assoc.beyond top c) := by
  rw [Assoc.beyond, Assoc.beyond, Assoc.beyond, List.filter_filter]
  refine List.filter_congr fun e _ => ?_
  rw [Value.get?_mergeEntries base htop]
  cases top.get? e.1 <;> simp

/-- An entry covered by one document and then by another one is covered by the merged one, if that
holds of the three values where there are three. -/
theorem coverEntry_coverEntry {e : Value × Value} (hc : c.Distinct)
    (h : ∀ y z, b.get? e.1 = some y → c.get? e.1 = some z →
      overlay (some (overlay (some e.2) y)) z = overlay (some e.2) (overlay (some y) z)) :
    coverEntry c (coverEntry b e) = coverEntry (mergeEntries b c) e := by
  have hmerged := Value.get?_mergeEntries b hc e.1
  rw [coverEntry, coverEntry, coverEntry, hmerged]
  dsimp only
  cases hy : b.get? e.1 with
  | none => cases c.get? e.1 <;> simp
  | some y =>
    cases hz : c.get? e.1 with
    | none => rfl
    | some z => exact congrArg (Prod.mk e.1) (h y z hy hz)

/-! ### Laid over once more -/

theorem mergeEntries_eq_self
    (h : ∀ e ∈ top, ∃ w, base.get? e.1 = some w ∧ overlay (some w) e.2 = w) :
    mergeEntries base top = base := by
  induction top with
  | nil => rfl
  | cons e top ih =>
    obtain ⟨w, hw, hkeep⟩ := h e List.mem_cons_self
    rw [mergeEntries, hw, hkeep, Assoc.set_of_get? hw]
    exact ih fun f hf => h f (List.mem_cons_of_mem _ hf)

namespace Value

variable {v w x y z : Value}

/-- Every key along the paths of the value is found again, being the same key as itself. -/
def KeysFound (v : Value) : Prop :=
  ∀ path (es : Entries), v.at? path = some (.dict es) → ∀ e ∈ es, e.1.sameKey e.1 = true

theorem KeysFound.of_get? {es : Entries} {key : Value} (h : (Value.dict es).KeysFound)
    (hv : es.get? key = some v) : v.KeysFound := by
  intro path fs hfs
  exact h (key :: path) fs (by rwa [at?_dict_cons, hv])

theorem keysFound_iff : v.KeysFound ↔ ∀ path (es : Entries), v.at? path = some (.dict es) →
    ∀ e ∈ es, e.1.hashable = true ∧ e.1.hasNan = false := by
  simp only [KeysFound, sameKey_self_iff]

theorem keysFound_of_not_dict (h : v.isDict = false) : v.KeysFound := by
  intro path es hes
  cases path with
  | nil => cases hes; cases h
  | cons key path => rw [at?_cons_of_not_dict h] at hes; cases hes

theorem keysFound_dict {es : Entries} (h : ∀ e ∈ es, e.1.sameKey e.1 = true ∧ e.2.KeysFound) :
    (Value.dict es).KeysFound := by
  intro path fs hfs
  cases path with
  | nil => cases hfs; exact fun e he => (h e he).1
  | cons key path =>
    obtain ⟨v, hv, hvfs⟩ := Option.bind_eq_some_iff.1 hfs
    obtain ⟨e, he, -, rfl⟩ := Assoc.exists_of_get? hv
    exact (h e he).2 path fs hvfs

@[elab_as_elim]
theorem induction_on_maps {motive : Value → Prop} (v : Value)
    (dict : ∀ es : Entries, (∀ key w, es.get? key = some w → motive w) → motive (.dict es))
    (other : ∀ v, v.isDict = false → motive v) : motive v := by
  induction v using induction_on_parts with
  | items v xs hv _ => exact other v (by rcases asList?_eq_some_iff.1 hv with rfl | rfl <;> rfl)
  | entries es ih =>
    refine dict es fun key w hw => ?_
    obtain ⟨e, he, -, rfl⟩ := Assoc.exists_of_get? hw
    exact ih e he
  | other v _ hv => exact other v hv

/-- **A value laid over the same place once more** changes nothing. -/
theorem overlay_overlay (hv : v.KeysOnce) (hfound : v.KeysFound) (below : Option Value) :
    overlay (some (overlay below v)) v = overlay below v := by
  induction v using induction_on_maps generalizing below with
  | other v hdict => rw [overlay_of_not_dict hdict, overlay_of_not_dict hdict]
  | dict top ih =>
    have hagain : ∀ base : Entries,
        mergeEntries (mergeEntries base top) top = mergeEntries base top := by
      intro base
      refine mergeEntries_eq_self fun e he => ?_
      have hget : top.get? e.1 = some e.2 :=
        Assoc.get?_of_mem hv.distinct he (hfound [] top rfl e he)
      refine ⟨overlay (base.get? e.1) e.2, by rw [get?_mergeEntries base hv.distinct, hget], ?_⟩
      exact ih e.1 e.2 hget (hv.of_get? hget) (hfound.of_get? hget) _
    by_cases hbelow : ∃ es, below = some (.dict es)
    · obtain ⟨es, rfl⟩ := hbelow
      rw [overlay_dict_dict, overlay_dict_dict, hagain]
    · -- the value has come there whole and meets itself
      push Not at hbelow
      have hself := hagain []
      rw [mergeEntries_nil_left hv.distinct] at hself
      rw [overlay_dict_of_ne hbelow, overlay_dict_dict, hself]

end Value

/-- **A document laid over another one once more** changes nothing. -/
theorem mergeEntries_mergeEntries (htop : (Value.dict top).KeysOnce)
    (hfound : (Value.dict top).KeysFound) (base : Entries) :
    mergeEntries (mergeEntries base top) top = mergeEntries base top := by
  have h := Value.overlay_overlay htop hfound (some (.dict base))
  rw [Value.overlay_dict_dict, Value.overlay_dict_dict, Value.dict.injEq] at h
  exact h

/-! ### From the left and from the right -/

namespace Value

variable {v x y z : Value}

/-- At some path the second value has something that is no map, between maps of the first and of the
third. -/
def Intervenes (x y z : Value) : Prop :=
  ∃ path lower v upper, x.at? path = some (.dict lower) ∧ y.at? path = some v ∧
    v.isDict = false ∧ z.at? path = some (.dict upper)

theorem intervenes_of_get? {es fs gs : Entries} {key : Value} (hx : es.get? key = some x)
    (hy : fs.get? key = some y) (hz : gs.get? key = some z) (h : Intervenes x y z) :
    Intervenes (.dict es) (.dict fs) (.dict gs) := by
  obtain ⟨path, lower, v, upper, hlower, hv, hdict, hupper⟩ := h
  refine ⟨key :: path, lower, v, upper, ?_, ?_, hdict, ?_⟩
  · rwa [at?_dict_cons, hx]
  · rwa [at?_dict_cons, hy]
  · rwa [at?_dict_cons, hz]

theorem overlay_over_not_dict (hx : x.isDict = false) (v : Value) : overlay (some x) v = v := by
  cases v with
  | dict top =>
    refine overlay_dict_of_ne (fun es hes => ?_) top
    cases hes
    cases hx
  | _ => rw [overlay_of_not_dict rfl]

theorem overlay_assoc_of_maps
    (hmaps : ∀ es fs gs, x = .dict es → y = .dict fs → z = .dict gs →
      mergeEntries (mergeEntries es fs) gs = mergeEntries es (mergeEntries fs gs))
    (h : ¬ Intervenes x y z) :
    overlay (some (overlay (some x) y)) z = overlay (some x) (overlay (some y) z) := by
  by_cases hz : z.isDict = true
  · obtain ⟨gs, rfl⟩ := exists_of_isDict hz
    by_cases hx : x.isDict = true
    · obtain ⟨es, rfl⟩ := exists_of_isDict hx
      have hy : y.isDict = true := by
        by_contra hother
        exact h ⟨[], es, y, gs, rfl, rfl, Bool.not_eq_true _ ▸ hother, rfl⟩
      obtain ⟨fs, rfl⟩ := exists_of_isDict hy
      simp only [overlay_dict_dict, hmaps es fs gs rfl rfl rfl]
    · -- what is no map gives way to the two above it
      have hlowest : ∀ v, overlay (some x) v = v :=
        overlay_over_not_dict (Bool.not_eq_true _ ▸ hx)
      rw [hlowest, hlowest]
  · simp only [overlay_of_not_dict (Bool.not_eq_true _ ▸ hz)]

/-- **Merging from the left and from the right** is the same where no value intervenes. -/
theorem mergeEntries_assoc (ha : (Value.dict a).KeysOnce) (hb : (Value.dict b).KeysOnce)
    (hc : (Value.dict c).KeysOnce) (h : ¬ Intervenes (.dict a) (.dict b) (.dict c)) :
    mergeEntries (mergeEntries a b) c = mergeEntries a (mergeEntries b c) := by
  generalize hv : Value.dict a = v at ha h
  induction v using induction_on_maps generalizing a b c with
  | other v hdict => cases hv; cases hdict
  | dict a ih =>
    cases hv
    have hab : Assoc.Distinct (mergeEntries a b) := distinct_mergeEntries ha.distinct b
    have hbc : Assoc.Distinct (mergeEntries b c) := distinct_mergeEntries hb.distinct c
    have hcover : a.map (coverEntry c ∘ coverEntry b) = a.map (coverEntry (mergeEntries b c)) := by
      refine List.map_congr_left fun e he => coverEntry_coverEntry hc.distinct fun y z hy hz => ?_
      obtain ⟨f, -, hkey, -⟩ := Assoc.exists_of_get? hy
      have hx : a.get? e.1 = some e.2 := Assoc.get?_of_mem ha.distinct he
        (Value.sameKey_trans (Value.sameKey_symm hkey) hkey)
      have hno : ¬ Intervenes e.2 y z := fun hno => h (intervenes_of_get? hx hy hz hno)
      refine overlay_assoc_of_maps ?_ hno
      rintro es fs gs hes rfl rfl
      exact ih e.1 e.2 hx (hb.of_get? hy) (hc.of_get? hz) hes.symm (ha.of_get? hx) hno
    calc mergeEntries (mergeEntries a b) c
        = (mergeEntries a b).map (coverEntry c) ++ Assoc.beyond (mergeEntries a b) c :=
          mergeEntries_eq hab hc.distinct
      _ = a.map (coverEntry c ∘ coverEntry b) ++
            (Assoc.beyond a (b.map (coverEntry c)) ++ Assoc.beyond a (Assoc.beyond b c)) := by
          rw [beyond_mergeEntries a hb.distinct c, mergeEntries_eq ha.distinct hb.distinct,
            List.map_append, List.map_map, beyond_map_coverEntry, List.append_assoc]
      _ = a.map (coverEntry (mergeEntries b c)) ++ Assoc.beyond a (mergeEntries b c) := by
          rw [hcover, mergeEntries_eq hb.distinct hc.distinct, Assoc.beyond_append]
      _ = mergeEntries a (mergeEntries b c) := (mergeEntries_eq ha.distinct hbc).symm

/-! ### Documents -/

/-- No path leads to a map in one of two values and to something else in the other. -/
def Compatible (v w : Value) : Prop :=
  ∀ path x y, v.at? path = some x → w.at? path = some y → x.isDict = y.isDict

theorem compatible_of_not_dict (h : x.isDict = false) (h' : y.isDict = false) :
    Compatible x y := by
  intro path v w hv hw
  cases path with
  | nil => cases hv; cases hw; rw [h, h']
  | cons key path => rw [at?_cons_of_not_dict h] at hv; cases hv

theorem compatible_dict {es fs : Entries}
    (h : ∀ e ∈ es, ∀ f ∈ fs, e.1.sameKey f.1 = true → e.2.Compatible f.2) :
    Compatible (.dict es) (.dict fs) := by
  intro path v w hv hw
  cases path with
  | nil => cases hv; cases hw; rfl
  | cons key path =>
    obtain ⟨x, hx, hv⟩ := Option.bind_eq_some_iff.1 hv
    obtain ⟨y, hy, hw⟩ := Option.bind_eq_some_iff.1 hw
    obtain ⟨e, he, hekey, rfl⟩ := Assoc.exists_of_get? hx
    obtain ⟨f, hf, hfkey, rfl⟩ := Assoc.exists_of_get? hy
    exact h e he f hf (sameKey_trans hekey (sameKey_symm hfkey)) path v w hv hw

theorem Compatible.not_intervenes (h : Compatible x y) (z : Value) : ¬ Intervenes x y z := by
  rintro ⟨path, lower, v, upper, hlower, hv, hdict, -⟩
  have hsame := h path _ _ hlower hv
  rw [hdict] at hsame
  cases hsame

end Value

open Value

theorem mergeInto_dict (a b : Entries) :
    mergeInto (.dict a) (.dict b) = .ok (.dict (mergeEntries a b)) := rfl

/-- **The algebra of documents.**  The empty document is the unit of merging, a document laid over
another one once more changes nothing, and between documents that are compatible it does not matter
which two are merged first; the order of the keys included.  Laying a document over once more asks
that its keys are found again. -/
theorem mergeInto_laws {a b c : Value} (ha : a.IsDocument) (hb : b.IsDocument)
    (hc : c.IsDocument) :
    mergeInto a (.dict []) = .ok a ∧ mergeInto (.dict []) a = .ok a ∧
      (b.KeysFound → ∃ ab, mergeInto a b = .ok ab ∧ mergeInto ab b = .ok ab) ∧
      (a.Compatible b → b.Compatible c → a.Compatible c →
        ∃ ab bc abc, mergeInto a b = .ok ab ∧ mergeInto b c = .ok bc ∧
          mergeInto ab c = .ok abc ∧ mergeInto a bc = .ok abc) := by
  obtain ⟨a, rfl, haOnce⟩ := ha.exists_entries
  obtain ⟨b, rfl, hbOnce⟩ := hb.exists_entries
  obtain ⟨c, rfl, hcOnce⟩ := hc.exists_entries
  refine ⟨rfl, ?_, fun hfound => ⟨_, mergeInto_dict a b, ?_⟩, fun hab _ _ =>
    ⟨_, _, _, mergeInto_dict a b, mergeInto_dict b c, mergeInto_dict _ c, ?_⟩⟩
  · rw [mergeInto_dict, mergeEntries_nil_left haOnce.distinct]
  · rw [mergeInto_dict, mergeEntries_mergeEntries hbOnce hfound]
  · rw [mergeInto_dict, mergeEntries_assoc haOnce hbOnce hcOnce (hab.not_intervenes _)]

/-- A filter and a language of the analysis come from different documents, and the last document
changes the filter. -/
theorem mergeInto_laws_of_analysis :
    let a : Value := .dict [(.str "analysis", .dict [(.str "filter", .str "stop")]),
      (.str "shards", .int 1)]
    let b : Value := .dict [(.str "replicas", .int 2),
      (.str "analysis", .dict [(.str "language", .str "de")])]
    let c : Value := .dict [(.str "analysis", .dict [(.str "filter", .str "none")])]
    let ab : Value := .dict [
      (.str "analysis", .dict [(.str "filter", .str "stop"), (.str "language", .str "de")]),
      (.str "shards", .int 1), (.str "replicas", .int 2)]
    let abc : Value := .dict [
      (.str "analysis", .dict [(.str "filter", .str "none"), (.str "language", .str "de")]),
      (.str "shards", .int 1), (.str "replicas", .int 2)]
    mergeInto a (.dict []) = .ok a ∧ mergeInto (.dict []) a = .ok a ∧
      mergeInto a b = .ok ab ∧ mergeInto ab b = .ok ab ∧
      mergeInto ab c = .ok abc ∧ ∃ bc, mergeInto b c = .ok bc ∧ mergeInto a bc = .ok abc := by
  intro a b c ab abc
  have hstr : ∀ s, (Value.str s).KeysOnce := fun s => keysOnce_of_not_dict rfl
  have hint : ∀ n, (Value.int n).KeysOnce := fun n => keysOnce_of_not_dict rfl
  have hsingle : ∀ name s, (Value.dict [(.str name, .str s)]).KeysOnce := fun name s =>
    keysOnce_dict (List.pairwise_singleton _ _) (by simp [hstr])
  have ha : a.IsDocument :=
    ⟨rfl, keysOnce_dict (by simp [Assoc.Distinct]) (by simp [hsingle, hint])⟩
  have hb : b.IsDocument :=
    ⟨rfl, keysOnce_dict (by simp [Assoc.Distinct]) (by simp [hsingle, hint])⟩
  have hc : c.IsDocument := ⟨rfl, keysOnce_dict (List.pairwise_singleton _ _) (by simp [hsingle])⟩
  have hfound : b.KeysFound := by
    have hreplicas : (Value.int 2).KeysFound := keysFound_of_not_dict rfl
    have hlanguage : (Value.str "de").KeysFound := keysFound_of_not_dict rfl
    exact keysFound_dict (by simp [hreplicas, keysFound_dict, hlanguage])
  have hfilter : ∀ name name' s s', Compatible (.dict [(.str name, .str s)])
      (.dict [(.str name', .str s')]) := by
    intro name name' s s'
    have hleaf : Compatible (.str s) (.str s') := compatible_of_not_dict rfl rfl
    exact compatible_dict (by simp [hleaf])
  have hab : a.Compatible b := compatible_dict (by simp [hfilter])
  have hbc : b.Compatible c := compatible_dict (by simp [hfilter])
  have hac : a.Compatible c := compatible_dict (by simp [hfilter])
  obtain ⟨hright, hleft, hagain, hassoc⟩ := mergeInto_laws ha hb hc
  obtain ⟨m, hm, hmb⟩ := hagain hfound
  obtain rfl : m = ab := Except.ok.inj (hm.symm.trans rfl)
  obtain ⟨m', bc, m'', hm', hmbc, habc, hright'⟩ := hassoc hab hbc hac
  obtain rfl : m' = ab := Except.ok.inj (hm'.symm.trans rfl)
  obtain rfl : m'' = abc := Except.ok.inj (habc.symm.trans rfl)
  exact ⟨hright, hleft, hm, hmb, habc, bc, hmbc, hright'⟩

/-- A number between two maps hides the lower one from the left, and gives way to the upper one from
the right. -/
example :
    let a : Value := .dict [(.str "analysis", .dict [(.str "filter", .str "stop")])]
    let b : Value := .dict [(.str "analysis", .int 5)]
    let c : Value := .dict [(.str "analysis", .dict [(.str "language", .str "de")])]
    (mergeInto a b >>= fun ab => mergeInto ab c) = .ok c ∧
      (mergeInto b c >>= fun bc => mergeInto a bc) = .ok (.dict [(.str "analysis",
        .dict [(.str "filter", .str "stop"), (.str "language", .str "de")])]) := ⟨rfl, rfl⟩

end SearchKit
