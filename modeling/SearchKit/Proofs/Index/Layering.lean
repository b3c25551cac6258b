import SearchKit.Index.Settings
import SearchKit.Proofs.Schema.Checking
import SearchKit.Proofs.Session.Outcome
import SearchKit.Proofs.Value.Entries
import Mathlib.Data.List.Induction

/-!
# Layers of settings

The settings of an index are maps laid over each other: where a key holds a map in both, the maps
are merged, and anything else takes the place of what is beneath it.  For a path of keys that leads
through maps this amounts to one rule.  A layer is relevant to the path when it has a value there,
or when it has something that is no map on the way; and the last layer that is relevant decides.  A
layer with something else than a map on the way hides all below it, and a map that is laid over it
later opens the way again without what has been hidden.

* `Value.at?` : the value at a path, and `Value.Relevant` for the layers that are relevant to it.
* `Value.at?_mergeEntries_of_relevant`, `Value.at?_mergeEntries_of_not_relevant` : two layers.
* `Value.LastRelevant`, `Value.at?_foldl_mergeEntries` : any number of them, by induction on the
  layers.
* `Value.Layered`, `Value.layered_foldl_mergeEntries` : the rule.
* `IndexSettings.body_layered` : **the settings of an index** follow the rule, with the configured
  default, the entry of the index and the options of the call as their layers.
-/

namespace SearchKit

namespace Value

variable {v w : Value} {es base top : Entries} {key : Value} {path : List Value}

theorem exists_of_isDict (h : v.isDict = true) : ∃ es, v = .dict es := by
  cases v with
  | dict es => exact ⟨es, rfl⟩
  | _ => cases h

/-! ### Paths -/

/-- The value at a path of keys, which leads through maps. -/
def at? : List Value → Value → Option Value
  | [], v => some v
  | key :: path, .dict es => (Assoc.get? key es).bind (at? path)
  | _ :: _, _ => none

@[simp] theorem at?_nil (v : Value) : v.at? [] = some v := rfl

@[simp] theorem at?_dict_cons (es : Entries) (key : Value) (path : List Value) :
    (Value.dict es).at? (key :: path) = (es.get? key).bind (at? path) := rfl

theorem at?_cons_of_not_dict (h : v.isDict = false) (key : Value) (path : List Value) :
    v.at? (key :: path) = none := by
  cases v with
  | dict es => cases h
  | _ => rfl

/-- The value has a value at the path, or something that is no map on the way there. -/
def Relevant (v : Value) (path : List Value) : Prop :=
  (v.at? path).isSome = true ∨
    ∃ before w, before <+: path ∧ before ≠ path ∧ v.at? before = some w ∧ w.isDict = false

theorem relevant_nil (v : Value) : v.Relevant [] := .inl rfl

theorem relevant_of_not_dict (h : v.isDict = false) (path : List Value) : v.Relevant path := by
  cases path with
  | nil => exact relevant_nil v
  | cons key path => exact .inr ⟨[], v, List.nil_prefix, (List.cons_ne_nil _ _).symm, rfl, h⟩

theorem relevant_dict_cons :
    (Value.dict es).Relevant (key :: path) ↔ ∃ v, es.get? key = some v ∧ v.Relevant path := by
  constructor
  · rintro (h | ⟨before, w, hbefore, hne, hw, hdict⟩)
    · obtain ⟨w, hw⟩ := Option.isSome_iff_exists.1 h
      obtain ⟨v, hv, hvw⟩ := Option.bind_eq_some_iff.1 hw
      exact ⟨v, hv, .inl (Option.isSome_iff_exists.2 ⟨w, hvw⟩)⟩
    · cases before with
      | nil => cases hw; cases hdict
      | cons first before =>
        obtain ⟨rfl, hrest⟩ := List.cons_prefix_cons.1 hbefore
        obtain ⟨v, hv, hvw⟩ := Option.bind_eq_some_iff.1 hw
        exact ⟨v, hv, .inr ⟨before, w, hrest, fun h => hne (h ▸ rfl), hvw, hdict⟩⟩
  · rintro ⟨v, hv, h | ⟨before, w, hbefore, hne, hw, hdict⟩⟩
    · exact .inl (by rwa [at?_dict_cons, hv])
    · refine .inr ⟨key :: before, w, List.cons_prefix_cons.2 ⟨rfl, hbefore⟩, ?_, ?_, hdict⟩
      · exact fun h => hne (List.cons.inj h).2
      · rwa [at?_dict_cons, hv]

theorem at?_of_not_relevant (h : ¬ v.Relevant path) : v.at? path = none := by
  rw [← Option.not_isSome_iff_eq_none]
  exact fun hsome => h (.inl hsome)

/-! ### Maps that hold their keys once -/

/-- Every map along the paths of a value holds each key once. -/
def KeysOnce (v : Value) : Prop :=
  ∀ path (es : Entries), v.at? path = some (.dict es) → es.Distinct

theorem keysOnce_of_not_dict (h : v.isDict = false) : v.KeysOnce := by
  intro path es hes
  cases path with
  | nil => cases hes; cases h
  | cons key path => rw [at?_cons_of_not_dict h] at hes; cases hes

theorem keysOnce_dict (h : es.Distinct) (hes : ∀ e ∈ es, e.2.KeysOnce) :
    (Value.dict es).KeysOnce := by
  intro path fs hfs
  cases path with
  | nil => cases hfs; exact h
  | cons key path =>
    obtain ⟨v, hv, hvfs⟩ := Option.bind_eq_some_iff.1 hfs
    obtain ⟨e, he, -, rfl⟩ := Assoc.exists_of_get? hv
    exact hes e he path fs hvfs

theorem KeysOnce.distinct (h : (Value.dict es).KeysOnce) : es.Distinct := h [] es rfl

theorem KeysOnce.of_get? (h : (Value.dict es).KeysOnce) (hv : es.get? key = some v) :
    v.KeysOnce := by
  intro path fs hfs
  exact h (key :: path) fs (by rwa [at?_dict_cons, hv])

/-! ### Two layers -/

/-- A value that forgets what a map holds. -/
def outline : Value → Value
  | .dict _ => .dict []
  | v => v

theorem outline_eq_iff (v w : Value) :
    v.outline = w.outline ↔ if w.isDict then v.isDict = true else v = w := by
  cases v <;> cases w <;> simp [outline, isDict, asDict?]

theorem get?_mergeEntries (base : Entries) (h : top.Distinct) (key : Value) :
    Assoc.get? key (mergeEntries base top) = match top.get? key with
      | some v => some (overlay (base.get? key) v)
      | none => base.get? key := by
  induction top generalizing base with
  | nil => rfl
  | cons e top ih =>
    rw [mergeEntries, ih _ (List.pairwise_cons.1 h).2, Assoc.get?_set, Assoc.get?_cons]
    by_cases hkey : e.1.sameKey key = true
    · -- no further entry has the key
      rw [Assoc.get?_of_distinct_cons h hkey, if_pos hkey, if_pos hkey, Assoc.get?_congr hkey]
    · rw [if_neg hkey, if_neg hkey]

theorem overlay_dict_dict (es top : Entries) :
    overlay (some (.dict es)) (.dict top) = .dict (mergeEntries es top) := by
  rw [overlay]

theorem overlay_dict_of_ne {below : Option Value} (h : ∀ es, below ≠ some (.dict es))
    (top : Entries) : overlay below (.dict top) = .dict top := by
  rw [overlay]
  exact h

theorem overlay_of_not_dict (h : v.isDict = false) (below : Option Value) :
    overlay below v = v := by
  cases v with
  | dict es => cases h
  | _ => simp [overlay]

/-- Where the upper layer is relevant, the merged map has its value, up to the entries of a map. -/
theorem at?_mergeEntries_of_relevant (base : Entries) (htop : (Value.dict top).KeysOnce)
    (h : (Value.dict top).Relevant path) :
    ((Value.dict (mergeEntries base top)).at? path).map outline =
      ((Value.dict top).at? path).map outline := by
  -- at each key two maps are merged again, and anything else is that of the upper layer
  induction path generalizing base top with
  | nil => rfl
  | cons key path ih =>
    obtain ⟨v, hv, hrelevant⟩ := relevant_dict_cons.1 h
    rw [at?_dict_cons, at?_dict_cons, get?_mergeEntries base htop.distinct, hv]
    simp only [Option.bind_some]
    by_cases hdict : v.isDict = true
    · obtain ⟨upper, rfl⟩ := exists_of_isDict hdict
      by_cases hbelow : ∃ es, base.get? key = some (.dict es)
      · obtain ⟨es, hes⟩ := hbelow
        rw [hes, overlay_dict_dict]
        exact ih es (htop.of_get? hv) hrelevant
      · push Not at hbelow
        rw [overlay_dict_of_ne hbelow]
    · rw [overlay_of_not_dict (Bool.not_eq_true _ ▸ hdict)]

/-- Where the upper layer is not relevant, the merged map has what is beneath it. -/
theorem at?_mergeEntries_of_not_relevant (base : Entries) (htop : (Value.dict top).KeysOnce)
    (h : ¬ (Value.dict top).Relevant path) :
    (Value.dict (mergeEntries base top)).at? path = (Value.dict base).at? path := by
  -- what the upper layer has on the way are maps, or it would be relevant
  induction path generalizing base top with
  | nil => exact absurd (relevant_nil _) h
  | cons key path ih =>
    rw [at?_dict_cons, at?_dict_cons, get?_mergeEntries base htop.distinct]
    rcases hv : top.get? key with _ | v
    · rfl
    · have hno : ¬ v.Relevant path := fun hrelevant => h (relevant_dict_cons.2 ⟨v, hv, hrelevant⟩)
      have hdict : v.isDict = true := by
        by_contra hother
        exact hno (relevant_of_not_dict (Bool.not_eq_true _ ▸ hother) path)
      obtain ⟨upper, rfl⟩ := exists_of_isDict hdict
      simp only [Option.bind_some]
      by_cases hbelow : ∃ es, base.get? key = some (.dict es)
      · obtain ⟨es, hes⟩ := hbelow
        rw [hes, overlay_dict_dict]
        exact ih es (htop.of_get? hv) hno
      · -- the map takes the place of something that does not lead on
        push Not at hbelow
        rw [overlay_dict_of_ne hbelow, at?_of_not_relevant hno]
        rcases hbase : base.get? key with _ | below
        · rfl
        · obtain ⟨next, rest, rfl⟩ : ∃ next rest, path = next :: rest :=
            List.exists_cons_of_ne_nil fun hnil => hno (hnil ▸ relevant_nil _)
          refine (at?_cons_of_not_dict ?_ next rest).symm
          by_contra hlead
          obtain ⟨es, rfl⟩ := exists_of_isDict (Bool.not_eq_false _ ▸ hlead)
          exact hbelow es hbase

/-! ### Any number of layers -/

/-- The last of the layers that are relevant to a path. -/
def LastRelevant (layers : List Value) (path : List Value) (l : Value) : Prop :=
  ∃ before after, layers = before ++ l :: after ∧ l.Relevant path ∧
    ∀ w ∈ after, ¬ w.Relevant path

theorem lastRelevant_concat_of_relevant {layers : List Value} (h : w.Relevant path) :
    LastRelevant (layers ++ [w]) path v ↔ v = w := by
  constructor
  · rintro ⟨before, after, heq, -, hafter⟩
    rcases List.eq_nil_or_concat' after with rfl | ⟨after, last, rfl⟩
    · exact (List.singleton_inj.1 (List.append_inj' heq rfl).2).symm
    · rw [← List.cons_append, ← List.append_assoc] at heq
      obtain rfl := List.singleton_inj.1 (List.append_inj' heq rfl).2
      exact absurd h (hafter _ (by simp))
  · rintro rfl
    exact ⟨layers, [], rfl, h, by simp⟩

theorem lastRelevant_concat_of_not_relevant {layers : List Value} (h : ¬ w.Relevant path) :
    LastRelevant (layers ++ [w]) path v ↔ LastRelevant layers path v := by
  constructor
  · rintro ⟨before, after, heq, hv, hafter⟩
    rcases List.eq_nil_or_concat' after with rfl | ⟨after, last, rfl⟩
    · obtain rfl := List.singleton_inj.1 (List.append_inj' heq rfl).2
      exact absurd hv h
    · rw [← List.cons_append, ← List.append_assoc] at heq
      refine ⟨before, after, (List.append_inj' heq rfl).1, hv, fun u hu => hafter u ?_⟩
      exact List.mem_append_left _ hu
  · rintro ⟨before, after, rfl, hv, hafter⟩
    refine ⟨before, after ++ [w], by simp, hv, fun u hu => ?_⟩
    rcases List.mem_append.1 hu with hu | hu
    · exact hafter u hu
    · rwa [List.mem_singleton.1 hu]

theorem not_lastRelevant_nil : ¬ LastRelevant [] path v := by
  rintro ⟨before, after, heq, -⟩
  cases before <;> cases heq

theorem exists_lastRelevant {layers : List Value} (h : ∃ l ∈ layers, l.Relevant path) :
    ∃ l, LastRelevant layers path l := by
  induction layers using List.reverseRecOn with
  | nil => obtain ⟨l, hl, -⟩ := h; cases hl
  | append_singleton layers top ih =>
    by_cases htop : top.Relevant path
    · exact ⟨top, (lastRelevant_concat_of_relevant htop).2 rfl⟩
    · obtain ⟨l, hl, hrelevant⟩ := h
      have hl : l ∈ layers := by
        rcases List.mem_append.1 hl with hl | hl
        · exact hl
        · exact absurd (List.mem_singleton.1 hl ▸ hrelevant) htop
      obtain ⟨last, hlast⟩ := ih ⟨l, hl, hrelevant⟩
      exact ⟨last, (lastRelevant_concat_of_not_relevant htop).2 hlast⟩

theorem LastRelevant.unique {layers : List Value} (hv : LastRelevant layers path v)
    (hw : LastRelevant layers path w) : v = w := by
  induction layers using List.reverseRecOn with
  | nil => exact absurd hv not_lastRelevant_nil
  | append_singleton layers top ih =>
    by_cases htop : top.Relevant path
    · rw [lastRelevant_concat_of_relevant htop] at hv hw
      rw [hv, hw]
    · rw [lastRelevant_concat_of_not_relevant htop] at hv hw
      exact ih hv hw

/-- What maps laid over each other have at a path: what the last relevant one has, up to the entries
of a map, and nothing where none is relevant. -/
theorem at?_foldl_mergeEntries {tops : List Entries}
    (h : ∀ top ∈ tops, (Value.dict top).KeysOnce) (base : Entries) (path : List Value) :
    (∀ l, LastRelevant ((base :: tops).map .dict) path l →
        ((Value.dict (tops.foldl mergeEntries base)).at? path).map outline =
          (l.at? path).map outline) ∧
      ((∀ l ∈ (base :: tops).map Value.dict, ¬ l.Relevant path) →
        (Value.dict (tops.foldl mergeEntries base)).at? path = none) := by
  induction tops using List.reverseRecOn with
  | nil =>
    refine ⟨fun l hl => ?_, fun hno => at?_of_not_relevant (hno _ List.mem_cons_self)⟩
    obtain ⟨before, after, heq, -⟩ := hl
    have hmem : l ∈ [Value.dict base] := by rw [← List.map_singleton, heq]; simp
    rw [List.mem_singleton.1 hmem]
    rfl
  | append_singleton tops top ih =>
    obtain ⟨hlast, hnone⟩ := ih fun t ht => h t (List.mem_append_left _ ht)
    have htop : (Value.dict top).KeysOnce := h top (by simp)
    rw [← List.cons_append, List.map_append, List.foldl_append]
    by_cases hrelevant : (Value.dict top).Relevant path
    · refine ⟨fun l hl => ?_, fun hno => absurd hrelevant (hno _ (by simp))⟩
      rw [(lastRelevant_concat_of_relevant hrelevant).1 hl]
      exact at?_mergeEntries_of_relevant _ htop hrelevant
    · -- the layer changes nothing at the path
      have hkeep := at?_mergeEntries_of_not_relevant (tops.foldl mergeEntries base) htop hrelevant
      refine ⟨fun l hl => ?_, fun hno => ?_⟩
      · exact (congrArg _ hkeep).trans
          (hlast l ((lastRelevant_concat_of_not_relevant hrelevant).1 hl))
      · exact hkeep.trans (hnone fun l hl => hno l (List.mem_append_left _ hl))

/-- A value is layered: at each path the last relevant of its layers decides. -/
structure Layered (layers : List Value) (v : Value) : Prop where
  /-- There is a value at a path if the last layer that is relevant to it has one there. -/
  isSome_iff : ∀ path, (v.at? path).isSome = true ↔
    ∃ l, LastRelevant layers path l ∧ (l.at? path).isSome = true
  /-- What is no map is the value of the last relevant layer. -/
  eq_of_not_dict : ∀ path l w, LastRelevant layers path l → l.at? path = some w →
    w.isDict = false → v.at? path = some w
  /-- Where the last relevant layer has a map, there is a map. -/
  dict_of_dict : ∀ path l w, LastRelevant layers path l → l.at? path = some w →
    w.isDict = true → ∃ es, v.at? path = some (.dict es)

/-- **Maps laid over each other are layered.** -/
theorem layered_foldl_mergeEntries {tops : List Entries}
    (h : ∀ top ∈ tops, (Value.dict top).KeysOnce) (base : Entries) :
    Layered ((base :: tops).map .dict) (.dict (tops.foldl mergeEntries base)) := by
  have hfound := at?_foldl_mergeEntries h base
  generalize (base :: tops).map Value.dict = layers at hfound
  generalize Value.dict (tops.foldl mergeEntries base) = v at hfound
  -- a value of the last relevant layer is there up to the entries of a map
  have hvalue : ∀ path l w, LastRelevant layers path l → l.at? path = some w →
      ∃ u, v.at? path = some u ∧ if w.isDict then u.isDict = true else u = w := by
    intro path l w hl hw
    have hmap := (hfound path).1 l hl
    rw [hw, Option.map_some, Option.map_eq_some_iff] at hmap
    obtain ⟨u, hu, hout⟩ := hmap
    exact ⟨u, hu, (outline_eq_iff u w).1 hout⟩
  refine ⟨fun path => ⟨fun hsome => ?_, ?_⟩, ?_, ?_⟩
  · have hrelevant : ∃ l ∈ layers, l.Relevant path := by
      by_contra hno
      push Not at hno
      rw [(hfound path).2 hno] at hsome
      cases hsome
    obtain ⟨l, hl⟩ := exists_lastRelevant hrelevant
    refine ⟨l, hl, ?_⟩
    rw [← Option.isSome_map (f := outline), ← (hfound path).1 l hl, Option.isSome_map]
    exact hsome
  · rintro ⟨l, hl, hsome⟩
    obtain ⟨w, hw⟩ := Option.isSome_iff_exists.1 hsome
    obtain ⟨u, hu, -⟩ := hvalue path l w hl hw
    rw [hu]
    rfl
  · intro path l w hl hw hdict
    obtain ⟨u, hu, heq⟩ := hvalue path l w hl hw
    rw [hdict, if_neg (Bool.false_ne_true)] at heq
    rw [hu, heq]
  · intro path l w hl hw hdict
    obtain ⟨u, hu, heq⟩ := hvalue path l w hl hw
    rw [if_pos hdict] at heq
    obtain ⟨es, rfl⟩ := exists_of_isDict heq
    exact ⟨es, hu⟩

/-! ### The settings of an index -/

/-- A value, an empty map in the place of an empty one. -/
def orEmpty (v : Value) : Value := if v.truthy then v else .dict []

@[simp] theorem orEmpty_dict (es : Entries) : (Value.dict es).orEmpty = .dict es := by
  cases es <;> rfl

/-- The value is a document: a map, and every map in it holds its keys once. -/
def IsDocument (v : Value) : Prop := v.isDict = true ∧ v.KeysOnce

theorem IsDocument.exists_entries (h : v.IsDocument) :
    ∃ es, v = .dict es ∧ (Value.dict es).KeysOnce := by
  obtain ⟨es, rfl⟩ := exists_of_isDict h.1
  exact ⟨es, rfl, h.2⟩

end Value

open Value

/-- The value is a document of settings: at its top the keys are texts. -/
def Value.IsSettings (v : Value) : Prop := v.IsObject ∧ v.KeysOnce

theorem Value.isSettings_dict {es : Entries} (h : (Value.dict es).KeysOnce)
    (htext : ∀ e ∈ es, ∃ name, e.1 = .str name) : (Value.dict es).IsSettings :=
  ⟨⟨es, rfl, htext⟩, h⟩

/-- The entries of a configuration: settings under text keys.  There may be nothing instead of the
default. -/
structure Entries.Configures (es : Entries) : Prop where
  /-- The default for every index. -/
  default : ((es.field? "default").getD .null).orEmpty.IsSettings
  /-- The settings of single indices. -/
  named : ∀ e ∈ es.erase (.str "default"), (∃ name, e.1 = .str name) ∧ e.2.IsSettings

/-- The layers of the settings of an index: the configured default, the entry of the index, which
`default` has none of, and the options of the call. -/
def settingsLayers (config : Entries) (name : String) (options : Value) : List Value := [
  ((config.field? "default").getD .null).orEmpty,
  if name = "default" then .dict [] else (config.field? name).getD (.dict []),
  options.orEmpty]

namespace IndexSettings

variable {config : Entries}

theorem ofEntries_of_configures (h : config.Configures) :
    ∃ default, ((config.field? "default").getD .null).orEmpty = .dict default ∧
      ofEntries config = .ok ⟨default, config.erase (.str "default")⟩ := by
  obtain ⟨⟨default, hdefault, htext⟩, -⟩ := h.default
  refine ⟨default, hdefault, ?_⟩
  have hcheck : (Shape.dictOf .any).check (.dict default) = .ok (.dict default) :=
    Shape.check_dictOf_any htext
  have hnamed : (Shape.dictOf (.dictOf .any)).check (.dict (config.erase (.str "default"))) =
      .ok (.dict (config.erase (.str "default"))) := by
    refine Shape.check_dictOf (fun e he => (h.named e he).1) fun e he => ?_
    exact Shape.check_dictOf_any_iff.2 ⟨(h.named e he).2.1, rfl⟩
  let given := Entries.ofFields [
    ("default", .dict default), ("indices", .dict (config.erase (.str "default")))]
  have hgiven : indexSettingsShape.check (.dict given) =
      .ok (IndexSettings.toValue ⟨default, config.erase (.str "default")⟩) :=
    Shape.check_object_iff.2 ⟨_, Shape.checkFields_present rfl hcheck
      (Shape.checkFields_present rfl hnamed (Shape.checkFields_nil_iff.2 rfl)), rfl⟩
  have hvalue : ModelKind.indexSettings.ofValue (.dict given) =
      .ok (IndexSettings.toValue ⟨default, config.erase (.str "default")⟩) :=
    ModelKind.ofValue_eq_ok_iff.2 hgiven
  rw [ofEntries, ← Value.orEmpty, hdefault]
  exact congrArg (· >>= _) hvalue

theorem own_of_configures (h : config.Configures) (name : String) :
    ∃ own, (if name = "default" then .dict [] else (config.field? name).getD (.dict [])) =
        Value.dict own ∧ (Value.dict own).KeysOnce ∧
      ((Assoc.get? (.str name) (config.erase (.str "default"))).getD .null).orEmpty =
        .dict own := by
  have hempty : (Value.dict []).KeysOnce := keysOnce_dict List.Pairwise.nil (by simp)
  rcases hget : Assoc.get? (.str name) (config.erase (.str "default")) with _ | v
  · refine ⟨[], ?_, hempty, rfl⟩
    rw [Assoc.get?_erase] at hget
    by_cases hname : name = "default"
    · rw [if_pos hname]
    · rw [if_neg (by simpa using Ne.symm hname)] at hget
      rw [if_neg hname, Assoc.field?, hget]
      rfl
  · obtain ⟨e, he, -, rfl⟩ := Assoc.exists_of_get? hget
    obtain ⟨⟨own, hown, -⟩, honce⟩ := (h.named e he).2
    rw [hown] at honce
    rw [Assoc.get?_erase] at hget
    have hname : name ≠ "default" := by
      rintro rfl
      simp at hget
    rw [if_neg (by simpa using Ne.symm hname)] at hget
    refine ⟨own, ?_, honce, ?_⟩
    · rw [if_neg hname, Assoc.field?, hget, ← hown]
      rfl
    · rw [Option.getD_some, hown, orEmpty_dict]

theorem ofConfig_eq {config : Value} {es : Entries} (h : config.orEmpty = .dict es) :
    ofConfig config = liftM (ofEntries es) := by
  rw [orEmpty] at h
  rw [ofConfig]
  by_cases htruthy : config.truthy = true
  · rw [if_pos htruthy] at h ⊢
    rw [h, entriesIn_dict, pure_bind]
  · rw [if_neg htruthy] at h ⊢
    cases h
    rw [pure_bind]

theorem body_eq (settings : IndexSettings) (name : String) (options : Value) :
    settings.body (.str name) options =
      (mergeInto (.dict settings.default)
          ((settings.indices.get? (.str name)).getD .null).orEmpty >>= fun base =>
        mergeInto base options.orEmpty) := rfl

/-- **The settings of an index are layered**: at every path the last relevant one of the configured
default, the entry of the index and the options of the call decides. -/
theorem body_layered {config options : Value} {es : Entries} (hconfig : config.orEmpty = .dict es)
    (h : es.Configures) (hoptions : options.orEmpty.IsDocument) (name : String) (s : Session) :
    ∃ settings body, (ofConfig config).outcome s = (.ok settings, s) ∧
      settings.body (.str name) options = .ok body ∧
      Layered (settingsLayers es name options) body := by
  obtain ⟨default, hdefault, hsettings⟩ := ofEntries_of_configures h
  obtain ⟨own, hown, hownOnce, hread⟩ := own_of_configures h name
  obtain ⟨upper, hover, hoverOnce⟩ := hoptions.exists_entries
  refine ⟨⟨default, es.erase (.str "default")⟩, .dict ([own, upper].foldl mergeEntries default),
    ?_, ?_, ?_⟩
  · rw [ofConfig_eq hconfig, hsettings]
    rfl
  · rw [body_eq, hread, hover]
    rfl
  · rw [settingsLayers, hdefault, hown, hover]
    have honce : ∀ top ∈ [own, upper], (Value.dict top).KeysOnce := by
      simp [hownOnce, hoverOnce]
    exact layered_foldl_mergeEntries honce default

/-- An entry of the index that is no map hides what the default has under its key, and the options
open the way again, without what has been hidden. -/
theorem body_layered_reopened :
    let common : Value := .dict [(.str "shards", .int 1),
      (.str "analysis", .dict [(.str "filter", .str "stop")])]
    let posts : Value := .dict [(.str "analysis", .int 5)]
    let options : Value := .dict [(.str "analysis", .dict [(.str "language", .str "de")])]
    ∃ settings body,
      (ofConfig (.dict [(.str "default", common), (.str "posts", posts)])).outcome {} =
        (.ok settings, {}) ∧
      settings.body (.str "posts") options = .ok body ∧
      body.at? [.str "shards"] = some (.int 1) ∧
      body.at? [.str "analysis", .str "filter"] = none ∧
      body.at? [.str "analysis", .str "language"] = some (.str "de") := by
  intro common posts options
  have honce : ∀ {name : String} {v : Value}, v.KeysOnce →
      (Value.dict [(.str name, v)]).KeysOnce := by
    intro name v hv
    exact keysOnce_dict (List.pairwise_singleton _ _) (by simpa using hv)
  have hcommon : common.IsSettings := by
    have hanalysis : (Value.dict [(.str "filter", .str "stop")]).KeysOnce :=
      honce (keysOnce_of_not_dict rfl)
    have hshards : (Value.int 1).KeysOnce := keysOnce_of_not_dict rfl
    exact isSettings_dict (keysOnce_dict (by simp [Assoc.Distinct]) (by simp [hanalysis, hshards]))
      (by simp)
  have hposts : posts.IsSettings := isSettings_dict (honce (keysOnce_of_not_dict rfl)) (by simp)
  have hconfig : Entries.Configures [(.str "default", common), (.str "posts", posts)] :=
    ⟨hcommon, by simpa [Assoc.erase] using hposts⟩
  have hoptions : options.orEmpty.IsDocument :=
    ⟨rfl, honce (honce (keysOnce_of_not_dict rfl))⟩
  obtain ⟨settings, body, hsettings, hbody, hlayered⟩ :=
    body_layered (orEmpty_dict _) hconfig hoptions "posts" {}
  have hlayers : settingsLayers [(.str "default", common), (.str "posts", posts)] "posts" options =
      [common, posts, options] := by
    simp [settingsLayers, Assoc.get?, common, posts, options]
  rw [hlayers] at hlayered
  have hshards : LastRelevant [common, posts, options] [.str "shards"] common :=
    ⟨[], [posts, options], rfl, .inl rfl,
      by simp [posts, options, relevant_dict_cons, Assoc.get?]⟩
  have hfilter : LastRelevant [common, posts, options] [.str "analysis", .str "filter"] posts :=
    ⟨[common], [options], rfl, relevant_dict_cons.2 ⟨.int 5, rfl, relevant_of_not_dict rfl _⟩,
      by simp [options, relevant_dict_cons, Assoc.get?]⟩
  have hlanguage :
      LastRelevant [common, posts, options] [.str "analysis", .str "language"] options :=
    ⟨[common, posts], [], rfl, .inl rfl, by simp⟩
  refine ⟨settings, body, hsettings, hbody, ?_, ?_, ?_⟩
  · exact hlayered.eq_of_not_dict _ common _ hshards rfl rfl
  · rw [← Option.not_isSome_iff_eq_none, hlayered.isSome_iff]
    rintro ⟨l, hl, hsome⟩
    rw [hl.unique hfilter] at hsome
    cases hsome
  · exact hlayered.eq_of_not_dict _ options _ hlanguage rfl rfl

end IndexSettings

end SearchKit
