import SearchKit.Manifest.Instance
import SearchKit.Proofs.Engine.Sharing
import SearchKit.Proofs.Manifest.References

/-!
# Loading a component

Loading looks at the configuration of the component, at the bindings of the tag, and at the
variables that the parameters lead to.  Everything else in a manifest may be different: what a
reference stands for is decided by the variables that it leads to, and which provider is taken by
the configuration and the tag.

* `Manifest.followWithin_congr`, `Manifest.resolve_congr` : **two manifests with the same reachable
  variables**, first for a common bound, and for acyclic manifests without one.
* `Manifest.boundHandle?` : the provider that a tag binds a component to, and
  `Manifest.outcome_providerHandle` for the provider that is taken.
* `Manifest.AgreesOn` : two manifests agree on what loading a component looks at.
* `Manifest.instantiate_bound` : the component that is loaded is bound to the provider that is
  taken.
* `Manifest.instantiate_of_agreesOn` : **loading a component depends on its own part of the
  manifest**.
* `Manifest.providerHandle_of_empty_tag` : what is bound under the empty tag has no effect.
-/

namespace SearchKit

open Act

variable {s s' : Session}

/-! ### Handles of what is built -/

theorem Built.label_provider_ok {n : Nat} {handle : Value} {type : String}
    (h : ((Built.provider n).label handle type).outcome s = (.ok (), s')) :
    ∃ P, s.providers[n]? = some P ∧
      s' = { s with providers := s.providers.set n { P with handle, type := .str type } } := by
  obtain ⟨P, s₁, hP, hput⟩ := eq_ok_of_bind h
  obtain ⟨rfl, hp⟩ := eq_of_provider_ok hP
  cases hput
  exact ⟨P, hp, rfl⟩

theorem Built.label_component_ok {id : Nat} {handle : Value} {type : String}
    (h : ((Built.component id).label handle type).outcome s = (.ok (), s')) :
    ∃ c, s.components[id]? = some c ∧
      s' = { s with components := s.components.set id { c with handle, type := .str type } } := by
  obtain ⟨c, s₁, hc, hput⟩ := eq_ok_of_bind h
  obtain ⟨rfl, hc⟩ := eq_of_component_ok hc
  cases hput
  exact ⟨c, hc, rfl⟩

theorem providerAt_ok {path : String} {kind : ProviderKind} {parameters : Value} {built : Built}
    (hclass : findEntry path .provider = .ok (.provider kind))
    (h : (providerAt (some path) parameters).outcome s = (.ok built, s')) :
    ∃ n, built = .provider n := by
  rw [providerAt, hclass, lift_ok, pure_bind, bindingFuel, buildWithin] at h
  obtain ⟨keywords, s₁, -, h⟩ := eq_ok_of_bind h
  obtain ⟨n, s₂, -, h⟩ := eq_ok_of_bind h
  cases h
  exact ⟨n, rfl⟩

theorem keeps_convertedKeywords {γ : Type} {view : Session → γ} (h : ApartFromReading view)
    (sig : Signature) (parameters : Value) : Keeps view (convertedKeywords sig parameters) := by
  unfold convertedKeywords
  split
  · refine .bind (keeps_convertNamed h sig _) fun es => ?_
    split
    · exact .pure _
    · exact .throw _
  · exact .throw _

theorem componentAt_ok {path : String} {kind : ComponentKind} {parameters : Value} {n : Nat}
    {built : Built} (hclass : findEntry path .component = .ok (.component kind))
    (h : (componentAt path parameters (some (.provider n))).outcome s = (.ok built, s')) :
    ∃ id c P P', built = .component id ∧ s'.components[id]? = some c ∧ c.provider = some n ∧
      s.providers[n]? = some P ∧ s'.providers[n]? = some P' ∧ P'.handle = P.handle := by
  rw [componentAt, hclass, lift_ok, pure_bind] at h
  obtain ⟨keywords, s₁, hkeywords, h⟩ := eq_ok_of_bind h
  obtain ⟨⟨id, given⟩, s₂, hadded, h⟩ := eq_ok_of_bind h
  obtain ⟨⟨⟩, s₃, hbound, h⟩ := eq_ok_of_bind h
  cases h
  have hconverted : s₁.providers = s.providers :=
    (keeps_convertedKeywords apart_providers _ _).after hkeywords
  have hunbound : s₂.providers = s₁.providers := by
    obtain ⟨a, s₄, ha, hadded⟩ := eq_ok_of_bind hadded
    obtain ⟨-, rfl⟩ := Prod.mk.inj ha
    cases hadded
    rfl
  rw [bindingFuel, bindBuilt] at hbound
  obtain ⟨P, c, hp, hc, rfl⟩ := bindTo_ok hbound
  obtain ⟨hn, -⟩ := List.getElem?_eq_some_iff.1 hp
  obtain ⟨hid, -⟩ := List.getElem?_eq_some_iff.1 hc
  refine ⟨id, _, P, _, rfl, List.getElem?_set_self hid, rfl, ?_, List.getElem?_set_self hn, rfl⟩
  rw [← hconverted, ← hunbound, hp]

namespace Manifest

variable {m m' : Manifest} {env : Environment} {v : Value} {body handle : String}
  {tag : Option String} {config : ComponentConfig}

/-! ### The variables that are reachable -/

/-- What a reference stands for depends on the variables that it leads to, and on the bound. -/
theorem followWithin_congr {fuel : Nat}
    (h : ∀ name, m.Leads (.ofBody body) (.variable name) →
      m.values.field? name = m'.values.field? name) :
    m.followWithin env fuel body = m'.followWithin env fuel body := by
  induction fuel using Nat.strong_induction_on generalizing body with
  | _ fuel ih =>
    rcases hr : Reference.ofBody body with name | name | bad
    · rw [followWithin_environment hr, followWithin_environment hr]
    · have hsame : m.values.field? name = m'.values.field? name := h name (hr ▸ .here _)
      rcases hv : m.values.field? name with _ | v
      · rw [followWithin_absent hr hv, followWithin_absent hr (hsame ▸ hv)]
      · cases fuel with
        | zero =>
          rw [followWithin, followWithin, hr]
          simp only [hv, ← hsame]
        | succ fuel =>
          rw [followWithin_succ hr hv, followWithin_succ hr (hsame ▸ hv)]
          refine resolveWith_congr fun next hnext => ih fuel (Nat.lt_succ_self fuel) ?_
          intro other hother
          exact h other (hr ▸ .through hv hnext hother)
    · rw [followWithin_unknown hr, followWithin_unknown hr]

/-- What a value resolves to depends on the variables that are reachable from it.  The manifests may
have different numbers of variables, so a bound for both is taken. -/
theorem resolve_congr (hm : m.Acyclic) (hm' : m'.Acyclic)
    (h : ∀ name, m.Reaches v (.variable name) →
      m.values.field? name = m'.values.field? name) :
    m.resolve env v = m'.resolve env v := by
  let n := max m.values.length m'.values.length
  calc m.resolve env v
      = resolveWith (m.followWithin env n) v := (resolve_of_le hm (le_max_left _ _)).symm
    _ = resolveWith (m'.followWithin env n) v := resolveWith_congr fun body hbody =>
        followWithin_congr fun name hname => h name ⟨body, hbody, hname⟩
    _ = m'.resolve env v := resolve_of_le hm' (le_max_right _ _)

/-! ### The provider that is taken -/

theorem lookupKey_str (name : String) : lookupKey (.str name) = .ok (.str name) := by
  rw [lookupKey, if_pos (by simp [Value.hashable])]

/-- The bindings of a tag.  An empty tag counts as none. -/
def bindingsOf? (m : Manifest) (tag : Option String) : Option (Assoc String) :=
  match tag with
  | none => none
  | some name => if name = "" then none else m.bindings.field? name

/-- The handle of the provider that a tag binds a component to. -/
def boundHandle? (m : Manifest) (handle : String) (tag : Option String) : Option String :=
  (m.bindingsOf? tag).bind fun bindings => bindings.field? handle

/-- The handle of the provider that is looked for: the bound one, else the first one. -/
def wantedHandle? (m : Manifest) (handle : String) (tag : Option String)
    (config : ComponentConfig) : Option Value :=
  match m.boundHandle? handle tag with
  | some bound => some (.str bound)
  | none => config.providers.head?.map Prod.fst

/-- The session after the choice of a provider: a tag without bindings is warned of. -/
def warned (m : Manifest) (tag : Option String) (s : Session) : Session :=
  match tag with
  | none => s
  | some name =>
    if name = "" ∨ (m.bindingsOf? (some name)).isSome then s
    else s.withEvent (.log .warning logRoot
      ("No bindings for tag " ++ name ++ ", using first provider"))

/-- Which provider is taken. -/
theorem outcome_providerHandle (hconfig : m.components.field? handle = some config)
    (tag : Option String) (s : Session) :
    (m.providerHandle (.str handle) (optionalText tag)).outcome s =
      match m.boundHandle? handle tag with
      | some bound =>
        (if (config.providers.field? bound).isSome then .ok (.str bound)
          else .error (.load (.noProvider bound handle)), s)
      | none => (firstProvider config, m.warned tag s) := by
  have hfound : m.components.get? (.str handle) = some config := hconfig
  rw [providerHandle, lookupKey_str, lift_ok, pure_bind, hfound]
  dsimp only
  cases tag with
  | none => rfl
  | some name =>
    rw [boundHandle?, warned, bindingsOf?]
    by_cases hempty : name = ""
    · -- the empty tag is not looked up
      subst hempty
      rfl
    · have htruthy : (optionalText (some name)).truthy = true := by
        simp [optionalText, Value.truthy, hempty]
      have hvalue : optionalText (some name) = .str name := rfl
      rw [htruthy, hvalue, lookupKey_str, lift_ok, if_neg hempty, Bool.not_true,
        if_neg Bool.false_ne_true, pure_bind]
      simp only [Value.spell_str, Assoc.field?, hempty, false_or]
      rcases m.bindings.get? (.str name) with _ | bindings
      · rfl
      · dsimp only [Option.bind_some]
        rcases bindings.get? (.str handle) with _ | bound
        · rfl
        · dsimp only
          split <;> rfl

theorem wanted_of_providerHandle (hconfig : m.components.field? handle = some config)
    {chosen : Value}
    (h : (m.providerHandle (.str handle) (optionalText tag)).outcome s = (.ok chosen, s')) :
    m.wantedHandle? handle tag config = some chosen ∧ chosen ∈ Assoc.keys config.providers := by
  rw [outcome_providerHandle hconfig] at h
  rw [wantedHandle?]
  rcases hhandle : m.boundHandle? handle tag with _ | bound
  · rw [hhandle] at h
    obtain ⟨hfirst, -⟩ := Prod.mk.inj h
    rw [firstProvider] at hfirst
    rcases hproviders : config.providers with _ | ⟨⟨first, provider⟩, rest⟩
    · rw [hproviders] at hfirst
      cases hfirst
    · rw [hproviders] at hfirst
      cases hfirst
      exact ⟨rfl, List.mem_cons_self⟩
  · rw [hhandle] at h
    obtain ⟨hbound, -⟩ := Prod.mk.inj h
    split at hbound
    · rename_i hthere
      cases hbound
      obtain ⟨provider, hprovider⟩ := Option.isSome_iff_exists.1 hthere
      obtain ⟨e, he, hkey, -⟩ := Assoc.exists_of_get? hprovider
      exact ⟨rfl, Value.sameKey_str_right.1 hkey ▸ List.mem_map_of_mem he⟩
    · cases hbound

/-! ### What loading looks at -/

/-- A value that is resolved when a component is loaded under a tag: its own parameters, and those
of the provider that is looked for. -/
inductive Resolves (m : Manifest) (handle : String) (tag : Option String) : Value → Prop
  | component {config : ComponentConfig} (hconfig : m.components.field? handle = some config) :
      Resolves m handle tag (.dict config.parameters)
  | provider {config : ComponentConfig} {wanted : Value} {provider : ProviderConfig}
      (hconfig : m.components.field? handle = some config)
      (hwanted : m.wantedHandle? handle tag config = some wanted)
      (hprovider : config.providers.get? wanted = some provider) :
      Resolves m handle tag (.dict provider.parameters)

/-- Two manifests agree on what loading a component under a tag looks at. -/
structure AgreesOn (m m' : Manifest) (handle : String) (tag : Option String) : Prop where
  /-- The component is configured alike. -/
  component : m.components.field? handle = m'.components.field? handle
  /-- The tag has bindings in both of them or in none. -/
  tagged : (m.bindingsOf? tag).isSome = (m'.bindingsOf? tag).isSome
  /-- It binds the component alike. -/
  bound : m.boundHandle? handle tag = m'.boundHandle? handle tag
  /-- The variables are alike that are reachable from what is resolved. -/
  reachable : ∀ v, m.Resolves handle tag v → ∀ name, m.Reaches v (.variable name) →
    m.values.field? name = m'.values.field? name

namespace AgreesOn

theorem warned (h : m.AgreesOn m' handle tag) : m.warned tag = m'.warned tag := by
  funext s
  cases tag with
  | none => rfl
  | some name => rw [Manifest.warned, Manifest.warned, h.tagged]

/-- The same provider is taken, with the same warning. -/
theorem outcome_providerHandle (h : m.AgreesOn m' handle tag)
    (hconfig : m.components.field? handle = some config) (s : Session) :
    (m.providerHandle (.str handle) (optionalText tag)).outcome s =
      (m'.providerHandle (.str handle) (optionalText tag)).outcome s := by
  rw [Manifest.outcome_providerHandle hconfig,
    Manifest.outcome_providerHandle (h.component ▸ hconfig), h.bound, h.warned]

section

variable (hm : m.Acyclic) (hm' : m'.Acyclic) (h : m.AgreesOn m' handle tag)
include hm hm' h

theorem resolve (env : Environment) (hv : m.Resolves handle tag v) :
    m.resolve env v = m'.resolve env v :=
  resolve_congr hm hm' (h.reachable v hv)

theorem outcome_instantiateProvider (env : Environment)
    (hconfig : m.components.field? handle = some config) (s : Session) :
    (m.instantiateProvider env (.str handle) (optionalText tag) config).outcome s =
      (m'.instantiateProvider env (.str handle) (optionalText tag) config).outcome s := by
  unfold instantiateProvider
  split
  · rfl
  · rw [outcome_bind, outcome_bind, ← h.outcome_providerHandle hconfig]
    rcases hchosen : (m.providerHandle (.str handle) (optionalText tag)).outcome s with
      ⟨fault | chosen, s₁⟩
    · rfl
    · dsimp only
      obtain ⟨hwanted, -⟩ := wanted_of_providerHandle hconfig hchosen
      rcases hprovider : config.providers.get? chosen with _ | provider
      · rfl
      · dsimp only
        rw [h.resolve hm hm' env (.provider hconfig hwanted hprovider)]

theorem outcome_instantiate (env : Environment) (s : Session) :
    (m.instantiate env (.str handle) (optionalText tag)).outcome s =
      (m'.instantiate env (.str handle) (optionalText tag)).outcome s := by
  have hsame : m.components.get? (.str handle) = m'.components.get? (.str handle) := h.component
  rw [instantiate, instantiate, lookupKey_str, lift_ok, pure_bind, pure_bind, ← hsame]
  rcases hconfig : m.components.get? (.str handle) with _ | config
  · rfl
  · dsimp only
    rw [h.resolve hm hm' env (.component hconfig)]
    refine outcome_bind_congr fun parameters s₁ _ => ?_
    rw [outcome_bind, outcome_bind, h.outcome_instantiateProvider hm hm' env hconfig]

end

end AgreesOn

/-! ### The component that is loaded -/

theorem instantiateProvider_ok {wanted : Value} {provider : ProviderConfig} {kind : ProviderKind}
    {given : Option Built} (hconfig : m.components.field? handle = some config)
    (hwanted : m.wantedHandle? handle tag config = some wanted)
    (hprovider : config.providers.get? wanted = some provider)
    (hclass : findEntry (providerPath config.type provider.type) .provider =
      .ok (.provider kind))
    (h : (m.instantiateProvider env (.str handle) (optionalText tag) config).outcome s =
      (.ok given, s')) :
    ∃ n P, given = some (.provider n) ∧ s'.providers[n]? = some P ∧ P.handle = wanted := by
  have hsome : ¬ config.providers.isEmpty = true := by
    intro hnone
    rw [List.isEmpty_iff.1 hnone] at hprovider
    cases hprovider
  rw [instantiateProvider, if_neg hsome] at h
  obtain ⟨chosen, s₁, hchosen, h⟩ := eq_ok_of_bind h
  obtain ⟨hchosen, -⟩ := wanted_of_providerHandle hconfig hchosen
  obtain rfl : wanted = chosen := Option.some.inj (hwanted.symm.trans hchosen)
  rw [hprovider] at h
  obtain ⟨parameters, s₂, -, h⟩ := eq_ok_of_bind h
  obtain ⟨built, s₃, hbuilt, h⟩ := eq_ok_of_bind h
  obtain ⟨n, rfl⟩ := providerAt_ok hclass hbuilt
  obtain ⟨⟨⟩, s₄, hlabel, h⟩ := eq_ok_of_bind h
  obtain ⟨P, hp, rfl⟩ := Built.label_provider_ok hlabel
  cases h
  obtain ⟨hn, -⟩ := List.getElem?_eq_some_iff.1 hp
  exact ⟨n, _, rfl, List.getElem?_set_self hn, rfl⟩

/-- A component that is loaded with a provider is bound to one of the handle that was looked for. -/
theorem instantiate_bound {wanted : Value} {provider : ProviderConfig} {kind : ProviderKind}
    {componentKind : ComponentKind} {built : Built}
    (hconfig : m.components.field? handle = some config)
    (hwanted : m.wantedHandle? handle tag config = some wanted)
    (hprovider : config.providers.get? wanted = some provider)
    (hclass : findEntry (providerPath config.type provider.type) .provider =
      .ok (.provider kind))
    (hcomponent : findEntry (componentPath config.type) .component =
      .ok (.component componentKind))
    (h : (m.instantiate env (.str handle) (optionalText tag)).outcome s = (.ok built, s')) :
    ∃ id c n P, built = .component id ∧ s'.components[id]? = some c ∧ c.handle = .str handle ∧
      c.provider = some n ∧ s'.providers[n]? = some P ∧ P.handle = wanted := by
  have hfound : m.components.get? (.str handle) = some config := hconfig
  rw [instantiate, lookupKey_str, lift_ok, pure_bind, hfound] at h
  obtain ⟨parameters, s₁, -, h⟩ := eq_ok_of_bind h
  obtain ⟨given, s₂, hgiven, h⟩ := eq_ok_of_bind h
  obtain ⟨n, P, rfl, hp, rfl⟩ :=
    instantiateProvider_ok hconfig hwanted hprovider hclass hgiven
  obtain ⟨built, s₃, hbuilt, h⟩ := eq_ok_of_bind h
  obtain ⟨id, c, P₁, P₂, rfl, hc, hbound, hp₁, hp₂, hhandle⟩ := componentAt_ok hcomponent hbuilt
  obtain rfl : P = P₁ := Option.some.inj (hp.symm.trans hp₁)
  obtain ⟨⟨⟩, s₄, hlabel, h⟩ := eq_ok_of_bind h
  obtain ⟨c₁, hc₁, rfl⟩ := Built.label_component_ok hlabel
  obtain rfl : c = c₁ := Option.some.inj (hc.symm.trans hc₁)
  cases h
  obtain ⟨hid, -⟩ := List.getElem?_eq_some_iff.1 hc
  exact ⟨id, _, n, P₂, rfl, List.getElem?_set_self hid, rfl, hbound, hp₂, hhandle⟩

/-- **Loading a component depends on its own part of the manifest.**  Two acyclic manifests agree
on the configuration of a component, on whether a tag has bindings and on what it binds the
component to, and on the variables that are reachable from what is resolved.  Then loading the
component under the tag is the same in both, with its warnings and its fault or what it leaves in
the session; the provider is the same that is taken, and so are the parameters that come out.  The
provider is always one of those of the component: the bound one if the tag, unless it is empty,
binds the component, and else the first one.  A bound one that is not configured is refused.  The
component that is loaded is bound to the provider that is taken. -/
theorem instantiate_of_agreesOn (hm : m.Acyclic) (hm' : m'.Acyclic)
    (h : m.AgreesOn m' handle tag) (env : Environment) (s : Session) :
    let chosen := fun m : Manifest => (m.providerHandle (.str handle) (optionalText tag)).outcome s
    let loaded := fun m : Manifest =>
      (m.instantiate env (.str handle) (optionalText tag)).outcome s
    loaded m = loaded m' ∧
    (∀ v, m.Resolves handle tag v → m.resolve env v = m'.resolve env v) ∧
    ∀ config, m.components.field? handle = some config →
      chosen m = chosen m' ∧
      (∀ bound, m.boundHandle? handle tag = some bound →
        chosen m = (if (config.providers.field? bound).isSome then .ok (.str bound)
          else .error (.load (.noProvider bound handle)), s)) ∧
      (m.boundHandle? handle tag = none → ∀ first provider rest,
        config.providers = (first, provider) :: rest → chosen m = (.ok first, m.warned tag s)) ∧
      (∀ taken s', chosen m = (.ok taken, s') → taken ∈ Assoc.keys config.providers) ∧
      ∀ taken s' provider kind componentKind built s₁, chosen m = (.ok taken, s') →
        config.providers.get? taken = some provider →
        findEntry (providerPath config.type provider.type) .provider = .ok (.provider kind) →
        findEntry (componentPath config.type) .component = .ok (.component componentKind) →
        loaded m = (.ok built, s₁) →
        ∃ id c n P, built = .component id ∧ s₁.components[id]? = some c ∧
          c.handle = .str handle ∧ c.provider = some n ∧ s₁.providers[n]? = some P ∧
          P.handle = taken := by
  intro chosen loaded
  refine ⟨h.outcome_instantiate hm hm' env s, fun v hv => h.resolve hm hm' env hv,
    fun config hconfig => ?_⟩
  have hchosen := outcome_providerHandle hconfig tag s
  refine ⟨h.outcome_providerHandle hconfig s, fun bound hbound => ?_,
    fun hnone first provider rest hproviders => ?_,
    fun taken s' htaken => (wanted_of_providerHandle hconfig htaken).2,
    fun taken s' provider kind componentKind built s₁ htaken hprovider hclass hcomponent hloaded =>
      ?_⟩
  · rw [hbound] at hchosen
    exact hchosen
  · rw [hnone] at hchosen
    refine hchosen.trans ?_
    rw [firstProvider, hproviders]
  · exact instantiate_bound hconfig (wanted_of_providerHandle hconfig htaken).1 hprovider hclass
      hcomponent hloaded

/-- A search engine with two providers, of which one is bound under a tag and refers to a variable;
the manifest may have further variables, components and bindings. -/
def ofSearch (tag : String) (values : Entries) (components : Assoc ComponentConfig)
    (bindings : Assoc (Assoc String)) : Manifest where
  values := values ++ [(.str "index", .str "posts")]
  components := (.str "search", {
    type := "searchbridge.engine"
    parameters := []
    providers := [
      (.str "local", { type := "elasticsearch", parameters := [] }),
      (.str "cloud", {
        type := "elasticsearch"
        parameters := [(.str "index", .str (referenceTo ("variables." ++ "index")))] })] }) ::
    components
  bindings := (.str tag, [(.str "search", "cloud")]) :: bindings

theorem not_refers_posts : ¬ (Value.str "posts").Refers body := by
  rw [Value.refers_str_iff]
  have hplain : referenceBody? "posts" = none := by decide
  rw [hplain]
  nofun

/-- A variable that refers to another one of the manifest. -/
def spare : Value × Value := (.str "spare", .str (referenceTo ("variables." ++ "index")))

theorem ofSearch_acyclic {values : Entries} (hvalues : ∀ e ∈ values, e = spare) (tag : String)
    (components : Assoc ComponentConfig) (bindings : Assoc (Assoc String)) :
    (ofSearch tag values components bindings).Acyclic := by
  refine acyclic_of_lt (fun a => if a = "spare" then 1 else 0) ?_
  rintro a b ⟨v, body, hv, hbody, hb⟩
  obtain ⟨e, he, hkey, rfl⟩ := Assoc.exists_of_get? hv
  rw [Value.sameKey_str_right] at hkey
  rcases List.mem_append.1 he with he | he
  · obtain rfl := hvalues e he
    obtain rfl : "spare" = a := Value.str.inj hkey
    obtain rfl := (Value.refers_referenceTo_iff (by decide) (by decide)).1 hbody
    rw [Reference.ofBody_variables] at hb
    cases hb
    decide
  · obtain rfl := List.mem_singleton.1 he
    exact absurd hbody not_refers_posts

/-- Another component, another tag and a variable that refers to one of the component's own do not
show in what is loaded. -/
theorem instantiate_ofSearch :
    let m := ofSearch "prod" [] [] []
    let m' := ofSearch "prod" [spare]
      [(.str "mail", { type := "searchbridge.mail", parameters := [], providers := [] })]
      [(.str "test", [(.str "search", "local")])]
    m.Acyclic ∧ m'.Acyclic ∧ m.AgreesOn m' "search" (some "prod") ∧
      (m.instantiate [] (.str "search") (.str "prod")).outcome {} =
        (m'.instantiate [] (.str "search") (.str "prod")).outcome {} ∧
      (m.providerHandle (.str "search") (.str "prod")).outcome {} = (.ok (.str "cloud"), {}) := by
  intro m m'
  have hm : m.Acyclic := ofSearch_acyclic (by simp) _ _ _
  have hm' : m'.Acyclic := ofSearch_acyclic (fun _ he => List.mem_singleton.1 he) _ _ _
  have hagree : m.AgreesOn m' "search" (some "prod") := by
    refine ⟨rfl, rfl, rfl, fun v hv name => ?_⟩
    rintro ⟨body, hbody, hlead⟩
    obtain ⟨hconfig⟩ | ⟨hconfig, hwanted, hprovider⟩ := hv
    · -- the engine itself has no parameters
      cases hconfig
      obtain ⟨e, he, -⟩ := Value.refers_dict_iff.1 hbody
      cases he
    · cases hconfig
      cases hwanted
      cases hprovider
      obtain ⟨e, he, hbody⟩ := Value.refers_dict_iff.1 hbody
      obtain rfl := List.mem_singleton.1 he
      obtain rfl := (Value.refers_referenceTo_iff (by decide) (by decide)).1 hbody
      rw [Reference.ofBody_variables] at hlead
      obtain _ | ⟨hvalue, hnext, -⟩ := hlead
      · rfl
      · cases hvalue
        exact absurd hnext not_refers_posts
  obtain ⟨hloaded, -, hchoice⟩ := instantiate_of_agreesOn hm hm' hagree [] {}
  obtain ⟨-, hbound, -⟩ := hchoice _ rfl
  exact ⟨hm, hm', hagree, hloaded, hbound "cloud" rfl⟩

/-- The empty tag binds nothing: what a manifest has under it is not looked at. -/
theorem providerHandle_of_empty_tag :
    let m := ofSearch "" [] [] []
    m.Acyclic ∧ (m.bindings.field? "").bind (Assoc.field? "search") = some "cloud" ∧
      (m.providerHandle (.str "search") (.str "")).outcome {} = (.ok (.str "local"), {}) :=
  ⟨ofSearch_acyclic (by simp) _ _ _, rfl, rfl⟩

end Manifest

end SearchKit
