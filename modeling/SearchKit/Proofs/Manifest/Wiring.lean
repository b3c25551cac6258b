import SearchKit.Manifest.Instance
import SearchKit.Proofs.Session.Outcome
import SearchKit.Proofs.Value.Entries
import Mathlib.Data.List.Infix

/-!
# Providers wired by a manifest and by the program

A component can be given its provider by a type in two ways.  A manifest names the type of the
component, the package of its module or the class itself, and the loader completes the type of the
provider with it.  A program gives the type of the provider to a component that is there, and it is
completed with the package of the module that the component's class is defined in.

The package that is read back from the module is the one that the manifest names, so these two ways
agree on every type.  A manifest that names the class agrees with them where the type of the
provider is a path by itself.  Where it is not, the loader puts it behind the name of the class,
and a class has no parts with such names: nothing is loaded.

* `occursIn_iff`, `splitAtFirst?_append` : texts within texts, and texts split.
* `packageOf_append` : the package of a module within a package.
* `ExplicitProvider` : the types of providers that are paths by themselves.
* `ModuleEntry.find?_eq_none_of_point` : no module knows a name with a point in it.
* `findEntry_behind_class_type` : the path that a manifest makes for a class leads nowhere, so
  `Manifest.instantiate_behind_class_ne_ok` : the component cannot be loaded.
* `outcome_bindComponent` : a component bound to the provider that a type stands for.
* `providerPath_of_wirings` : **which ways of wiring agree**, with
  `findEntry_of_class_type` for a manifest that names the class.
-/

namespace SearchKit

open Act

variable {s : Session} {package name type : String}

/-! ### Texts -/

theorem occursIn_iff {part cs : List Char} : occursIn part cs = true ↔ part <:+: cs := by
  induction cs with
  | nil => rw [occursIn, List.isEmpty_iff, List.infix_nil]
  | cons c cs ih =>
    rw [occursIn, Bool.or_eq_true, List.isPrefixOf_iff_prefix, ih, List.infix_cons_iff]

theorem occursIn_char_iff {c : Char} {cs : List Char} : occursIn [c] cs = true ↔ c ∈ cs := by
  rw [occursIn_iff, List.singleton_infix_iff]

/-- A text is split at a character that does not occur before. -/
theorem splitAtFirst?_append {c : Char} {before after : List Char} (h : c ∉ before) :
    splitAtFirst? c (before ++ c :: after) = some (before, after) := by
  have hbefore : ∀ d ∈ before, (d != c) = true := fun d hd =>
    bne_iff_ne.2 fun hsame => h (hsame ▸ hd)
  rw [splitAtFirst?, if_pos (by simp), List.takeWhile_append_of_pos hbefore,
    List.dropWhile_append_of_pos hbefore]
  simp

/-- The package of a module that stands right within it. -/
theorem packageOf_append {last : String} (h : '.' ∉ last.toList) :
    packageOf (package ++ "." ++ last) = package := by
  have hlast : ∀ c ∈ last.toList.reverse, (c != '.') = true := fun c hc =>
    bne_iff_ne.2 fun hpoint => h (hpoint ▸ List.mem_reverse.1 hc)
  have hchars : (package ++ "." ++ last).toList = package.toList ++ '.' :: last.toList := by
    simp
  have hreversed : (package.toList ++ '.' :: last.toList).reverse =
      last.toList.reverse ++ '.' :: package.toList.reverse := by
    simp
  rw [packageOf, hchars, if_pos (by simp), hreversed, List.dropWhile_append_of_pos hlast]
  simp

/-! ### Types and paths -/

/-- A type of providers that is a path by itself: it names a class, or a module of providers. -/
def ExplicitProvider (type : String) : Prop :=
  ':' ∈ type.toList ∨ ".providers.".toList <:+: type.toList

/-- The type of a component that names its class in the module of components of a package. -/
def classType (package name : String) : String := package ++ ".component" ++ ":" ++ name

theorem explicitProvider_iff :
    (occursIn [':'] type.toList || occursIn ".providers.".toList type.toList) = true ↔
      ExplicitProvider type := by
  rw [Bool.or_eq_true, occursIn_char_iff, occursIn_iff, ExplicitProvider]

theorem providerPath_of_explicit (h : ExplicitProvider type) (componentType : String) :
    providerPath componentType type = type :=
  if_pos (explicitProvider_iff.2 h)

theorem providerPath_of_not_explicit (h : ¬ ExplicitProvider type) (componentType : String) :
    providerPath componentType type = componentType ++ ".providers." ++ type :=
  if_neg (mt explicitProvider_iff.1 h)

/-- A type that is no path by itself is completed with the type of the component, so it leads to
the same path for two components only if these have the same type. -/
theorem providerPath_eq_iff {componentType componentType' : String} :
    providerPath componentType type = providerPath componentType' type ↔
      ExplicitProvider type ∨ componentType = componentType' := by
  by_cases h : ExplicitProvider type
  · rw [providerPath_of_explicit h, providerPath_of_explicit h]
    exact iff_of_true rfl (.inl h)
  · rw [providerPath_of_not_explicit h, providerPath_of_not_explicit h, or_iff_right h]
    simp only [← String.toList_inj, String.toList_append, List.append_left_inj]

theorem providerPathOf_str (componentType type : String) :
    providerPathOf (.str componentType) (.str type) =
      .ok (.str (providerPath componentType type)) := by
  have hclass : hasMark ":" (.str type) = .ok (occursIn [':'] type.toList) := rfl
  have hmodule : hasMark ".providers." (.str type) =
      .ok (occursIn ".providers.".toList type.toList) := rfl
  rw [providerPathOf, providerPath, hclass, hmodule, Value.spell_str, Value.spell_str]
  rcases occursIn [':'] type.toList with _ | _
  · rcases occursIn ".providers.".toList type.toList with _ | _
    · rfl
    · rfl
  · rfl

/-! ### What a module knows -/

/-- The names that a module knows, beside those that every module knows. -/
def ModuleEntry.names (m : ModuleEntry) : List String :=
  (m.defined ++ m.imported).filterMap Entry.name? ++ m.aliased.map Prod.fst

theorem not_mem_point_names : ∀ m ∈ modules, ∀ name ∈ m.names, '.' ∉ name.toList := by
  decide +kernel

theorem not_mem_point_ofEveryModule :
    ∀ name ∈ Catalog.ofEveryModule.map Prod.fst, '.' ∉ name.toList := by
  decide +kernel

theorem ModuleEntry.find?_eq_none {m : ModuleEntry} (hown : name ∉ m.names)
    (hevery : name ∉ Catalog.ofEveryModule.map Prod.fst) : m.find? name = none := by
  rw [names, List.mem_append, not_or] at hown
  obtain ⟨hown, haliased⟩ := hown
  have hentry : (m.defined ++ m.imported).find? (fun e => e.name? == some name) = none := by
    rw [List.find?_eq_none]
    intro e he hname
    exact hown (List.mem_filterMap.2 ⟨e, he, beq_iff_eq.1 hname⟩)
  have halias : (m.aliased ++ Catalog.ofEveryModule).lookup name = none := by
    rw [List.lookup_eq_none_iff]
    intro known hknown
    refine bne_iff_ne.2 fun hsame => ?_
    rcases List.mem_append.1 hknown with hknown | hknown
    · exact haliased (hsame ▸ List.mem_map_of_mem hknown)
    · exact hevery (hsame ▸ List.mem_map_of_mem hknown)
  rw [find?, hentry, halias]
  rfl

/-- No module knows a name with a point in it. -/
theorem ModuleEntry.find?_eq_none_of_point {m : ModuleEntry} (hm : m ∈ modules)
    (h : '.' ∈ name.toList) : m.find? name = none :=
  find?_eq_none (fun hmem => not_mem_point_names m hm name hmem h)
    fun hmem => not_mem_point_ofEveryModule name hmem h

theorem mem_modules_of_findModule {m : ModuleEntry} (h : findModule name = .ok m) :
    m ∈ modules := by
  rw [findModule] at h
  split at h
  · cases h
  · split at h
    · cases h
    · split at h
      · rename_i m' hfound
        cases h
        exact List.mem_of_find?_eq_some hfound
      · cases h

/-- A class has no parts with a point in their names, so a path behind a class leads nowhere. -/
theorem findEntry_of_behind_class {moduleName behind : String} (hmodule : ':' ∉ moduleName.toList)
    (hbehind : '.' ∈ behind.toList) (base : BaseClass) :
    findEntry (moduleName ++ ":" ++ behind) base =
      (findModule moduleName >>= fun _ => .error .noPart) := by
  have hchars : (moduleName ++ ":" ++ behind).toList =
      moduleName.toList ++ ':' :: behind.toList := by
    simp
  rw [findEntry, hchars, splitAtFirst?_append hmodule]
  dsimp only
  rw [String.ofList_toList, String.ofList_toList]
  rcases hfound : findModule moduleName with fault | m
  · rfl
  · have hnone : m.find? behind = none :=
      ModuleEntry.find?_eq_none_of_point (mem_modules_of_findModule hfound) hbehind
    simp only [bind, Except.bind, hnone]
    rfl

theorem findEntry_of_single {path : String} {base : BaseClass} {m : ModuleEntry} {e : Entry}
    (hpath : ':' ∉ path.toList) (hmodule : findModule path = .ok m)
    (hclass : (m.defined.filter fun e => e.derivesFrom base) = [e]) :
    findEntry path base = .ok e := by
  have hsplit : splitAtFirst? ':' path.toList = none := by
    rw [splitAtFirst?, if_neg]
    simpa using hpath
  rw [findEntry, hsplit, hmodule]
  change m.findClass base = .ok e
  rw [ModuleEntry.findClass, hclass, List.mergeSort_singleton]

/-! ### Providers of a type -/

/-- A provider of a class, made of a configuration. -/
def ProviderKind.configured (kind : ProviderKind) (parameters : Value) : Act Nat := do
  newProvider kind (← convertedKeywords kind.signature parameters)

theorem buildWithin_provider (fuel : Nat) (kind : ProviderKind) (parameters : Value) :
    buildWithin (fuel + 1) (.provider kind) parameters =
      (do return .provider (← kind.configured parameters)) := by
  rw [buildWithin, ProviderKind.configured, bind_assoc]
  rfl

theorem providerAt_of_class {path : String} {kind : ProviderKind}
    (h : findEntry path .provider = .ok (.provider kind)) (parameters : Value) :
    providerAt (some path) parameters =
      (do return .provider (← kind.configured parameters)) := by
  rw [providerAt, h, lift_ok, pure_bind, bindingFuel, buildWithin_provider]

section

variable {id : Nat} {c : Component} {given parameters : Value}
  (hc : s.components[id]? = some c)
  (hgiven : providerTypeOf given = .ok (.str type, parameters))
include hc hgiven

/-- The type of a provider that a component is given is completed with the package of the module of
the component. -/
theorem outcome_bindComponent :
    (bindComponent id given).outcome s = (do
      let e ← findEntry (providerPath (packageOf c.kind.moduleName) type) .provider
      bindBuilt (4 * given.weight + 7) id
        (← buildWithin (4 * given.weight + 7) e parameters) : Act Unit).outcome s := by
  have hsome : ¬ given.isNull = true := by
    intro hnull
    cases given <;> cases hnull
    cases hgiven
  have hcomponent : (component id).outcome s = (.ok c, s) := by
    rw [component, outcome_bind_ok (outcome_get s), hc]
    rfl
  rw [bindComponent, bindingFuel, bindWithin, if_neg hsome, hgiven, lift_ok, pure_bind]
  dsimp only
  have hsettled : settle (.str type) = pure (.str type) := rfl
  rw [outcome_bind_ok hcomponent, hsettled, pure_bind, providerPathOf_str, lift_ok, pure_bind]
  rfl

theorem outcome_bindComponent_of_class {kind : ProviderKind}
    (h : findEntry (providerPath (packageOf c.kind.moduleName) type) .provider =
      .ok (.provider kind)) :
    (bindComponent id given).outcome s =
      (do bindTo id (← kind.configured parameters)).outcome s := by
  rw [outcome_bindComponent hc hgiven, h, lift_ok, pure_bind, buildWithin_provider, bind_assoc]
  refine outcome_bind_congr fun n s' _ => ?_
  rw [pure_bind, bindBuilt]

theorem outcome_bindComponent_of_error {fault : Fault}
    (h : findEntry (providerPath (packageOf c.kind.moduleName) type) .provider = .error fault) :
    (bindComponent id given).outcome s = (.error fault, s) := by
  rw [outcome_bindComponent hc hgiven, h]
  rfl

end

/-! ### Ways of wiring -/

theorem providerPath_of_class_type (h : ¬ ExplicitProvider type) :
    providerPath (classType package name) type =
      package ++ ".component" ++ ":" ++ (name ++ ".providers." ++ type) := by
  rw [providerPath_of_not_explicit h, classType]
  simp only [String.append_assoc]

/-- Behind a class there is no provider to be loaded. -/
theorem findEntry_behind_class_type (hpackage : ':' ∉ package.toList)
    (h : ¬ ExplicitProvider type) (base : BaseClass) :
    findEntry (providerPath (classType package name) type) base =
      (findModule (package ++ ".component") >>= fun _ => .error .noPart) := by
  rw [providerPath_of_class_type h]
  exact findEntry_of_behind_class (by simp [hpackage]) (by simp) base

theorem findEntry_behind_class_type_ne_ok (hpackage : ':' ∉ package.toList)
    (h : ¬ ExplicitProvider type) (base : BaseClass) (e : Entry) :
    findEntry (providerPath (classType package name) type) base ≠ .ok e := by
  rw [findEntry_behind_class_type hpackage h]
  rcases findModule (package ++ ".component") with fault | m
  · nofun
  · nofun

/-- A component that a manifest names by its class cannot be loaded with providers whose types are
no paths by themselves. -/
theorem Manifest.instantiate_behind_class_ne_ok {m : Manifest} {handle : Value}
    {config : ComponentConfig} (hpackage : ':' ∉ package.toList)
    (hconfig : m.components.get? handle = some config)
    (hnamed : config.type = classType package name) (hsome : config.providers ≠ [])
    (htypes : ∀ e ∈ config.providers, ¬ ExplicitProvider e.2.type) (env : Environment) (tag : Value)
    (built : Built) (s' : Session) : (m.instantiate env handle tag).outcome s ≠ (.ok built, s') := by
  intro h
  obtain ⟨key, s₁, hkey, h⟩ := eq_ok_of_bind h
  obtain rfl : key = handle := by
    rw [lookupKey] at hkey
    split at hkey
    · exact (Except.ok.inj (Prod.mk.inj hkey).1).symm
    · cases hkey
  rw [hconfig] at h
  obtain ⟨parameters, s₂, -, h⟩ := eq_ok_of_bind h
  obtain ⟨given, s₃, hgiven, -⟩ := eq_ok_of_bind h
  rw [instantiateProvider, if_neg (by simpa using hsome)] at hgiven
  obtain ⟨chosen, s₄, -, hgiven⟩ := eq_ok_of_bind hgiven
  rcases hprovider : config.providers.get? chosen with _ | provider
  · rw [hprovider] at hgiven
    cases hgiven
  · rw [hprovider] at hgiven
    obtain ⟨values, s₅, -, hgiven⟩ := eq_ok_of_bind hgiven
    obtain ⟨made, s₆, hmade, -⟩ := eq_ok_of_bind hgiven
    obtain ⟨e, s₇, hentry, -⟩ := eq_ok_of_bind hmade
    obtain ⟨stored, hstored, -, rfl⟩ := Assoc.exists_of_get? hprovider
    rw [hnamed] at hentry
    exact findEntry_behind_class_type_ne_ok hpackage (htypes stored hstored) .provider e
      (Prod.mk.inj hentry).1

/-- **Which ways of wiring agree.**  The package that is read back from the module of a component is
the package that a manifest names, so a component that is given the type of its provider is bound
to a provider of the very class that the manifest loads, and fails where the manifest does.  A
manifest that names the class of the component leads to the same provider exactly for the types
that are paths by themselves; for the others it leads behind the class, where nothing can be
loaded. -/
theorem providerPath_of_wirings (hpackage : ':' ∉ package.toList) (name type : String) :
    let path := providerPath package type
    providerPath (packageOf (package ++ ".component")) type = path ∧
    (providerPath (classType package name) type = path ↔ ExplicitProvider type) ∧
    (¬ ExplicitProvider type → ∀ base,
      findEntry (providerPath (classType package name) type) base =
        (findModule (package ++ ".component") >>= fun _ => .error .noPart)) ∧
    ∀ (s : Session) (id : Nat) (c : Component) (given parameters : Value),
      s.components[id]? = some c → c.kind.moduleName = package ++ ".component" →
      providerTypeOf given = .ok (.str type, parameters) →
      (∀ kind, findEntry path .provider = .ok (.provider kind) →
        providerAt (some path) parameters =
          (do return .provider (← kind.configured parameters)) ∧
        (bindComponent id given).outcome s =
          (do bindTo id (← kind.configured parameters)).outcome s) ∧
      ∀ fault, findEntry path .provider = .error fault →
        (providerAt (some path) parameters).outcome s = (.error fault, s) ∧
        (bindComponent id given).outcome s = (.error fault, s) := by
  intro path
  have hback : packageOf (package ++ ".component") = package := by
    have hmodule : package ++ ".component" = package ++ "." ++ "component" := by
      rw [String.append_assoc]
      rfl
    rw [hmodule]
    exact packageOf_append (by decide)
  refine ⟨by rw [hback], ?_, fun h => findEntry_behind_class_type hpackage h,
    fun s id c given parameters hc hmodule hgiven => ⟨fun kind hclass => ?_, fun fault herror => ?_⟩⟩
  · rw [providerPath_eq_iff, or_iff_left]
    -- the type that names the class has a colon, the package has none
    intro hsame
    apply hpackage
    rw [← hsame, classType]
    simp
  · refine ⟨providerAt_of_class hclass parameters, ?_⟩
    refine outcome_bindComponent_of_class hc hgiven ?_
    rw [hmodule, hback]
    exact hclass
  · refine ⟨by rw [providerAt, herror]; rfl, ?_⟩
    refine outcome_bindComponent_of_error hc hgiven ?_
    rw [hmodule, hback]
    exact herror

theorem findEntry_elasticsearch :
    findEntry (providerPath "searchbridge.engine" "elasticsearch") .provider =
      .ok (.provider .elasticsearch) :=
  findEntry_of_single (by decide) rfl rfl

/-- A search engine given the type `elasticsearch` is bound to the provider that a manifest loads
for its package. -/
theorem bindComponent_elasticsearch :
    let package := "searchbridge.engine"
    let s : Session := { components := [{ kind := .searchEngine }] }
    ':' ∉ package.toList ∧
    providerPath (packageOf (package ++ ".component")) "elasticsearch" =
      providerPath package "elasticsearch" ∧
    (bindComponent 0 (.str "elasticsearch")).outcome s =
      (do bindTo 0 (← ProviderKind.elasticsearch.configured (.dict []))).outcome s := by
  intro package s
  have hpackage : ':' ∉ package.toList := by decide
  obtain ⟨hback, -, -, hwired⟩ :=
    providerPath_of_wirings hpackage "SearchEngine" "elasticsearch"
  obtain ⟨hclass, -⟩ := hwired s 0 _ (.str "elasticsearch") (.dict []) rfl rfl rfl
  obtain ⟨-, hbound⟩ := hclass .elasticsearch findEntry_elasticsearch
  exact ⟨hpackage, hback, hbound⟩

/-- The type `elasticsearch` stands for the provider of the package, and for nothing where a
manifest names the class of the search engine, though that class is found. -/
theorem findEntry_of_class_type :
    let package := "searchbridge.engine"
    let named := classType package "SearchEngine"
    findEntry (componentPath package) .component = .ok (.component .searchEngine) ∧
    findEntry (componentPath named) .component = .ok (.component .searchEngine) ∧
    findEntry (providerPath package "elasticsearch") .provider =
      .ok (.provider .elasticsearch) ∧
    providerPath named "elasticsearch" =
      "searchbridge.engine.component:SearchEngine.providers.elasticsearch" ∧
    findEntry (providerPath named "elasticsearch") .provider = .error .noPart :=
  ⟨findEntry_of_single (by decide) rfl rfl, rfl, findEntry_elasticsearch, rfl, rfl⟩

end SearchKit
