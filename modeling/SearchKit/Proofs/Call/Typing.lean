import SearchKit.Call.Signature
import SearchKit.Proofs.Session.Outcome
import SearchKit.Proofs.Session.Settling

/-!
# Conversion of typed values

Conversion brings loosely typed arguments to their declared types.  It does no harm to arguments
that have them: a value that has the type at every depth comes back equal, a list of a source's
collection type as a plain list.  And one pass is enough: what conversion gives is converted again
to itself, since no scalar conversion gives a value that it would convert further.  The exception is
the bare map type.  A text in its place is read as JSON, and what is read may be a text that is JSON
again.

* `HasType`, `TypeExpr.Occurs` : values of a type, and the types in a type.
* `TypeExpr.Fixes` : a value that conversion leaves as it is, with `TypeExpr.fixes_listOf` and
  `TypeExpr.fixes_dictOf` from parts.
* `HasType.exists_fixes` : a value of a type, by induction on its typing.
* `convertScalar_of_eq_ok`, `fixes_of_convert` : what conversion gives, by induction on the type.
* `Signature.exists_convertNamed_eq` : arguments by name that have their declared types.
* **`convertIn_laws`** : the two laws, for values and for arguments by name.
-/

namespace SearchKit

open Act

variable {t : TypeExpr} {v w : Value} {xs : List Value} {es : Entries} {kind : ModelKind}

/-! ### Values of a type -/

/-- The value is an object of the application. -/
def Value.isHandle : Value → Bool
  | .record .. | .keyed .. | .source _ | .callback _ => true
  | _ => false

/-- The value has the type, at every depth. -/
inductive HasType : TypeExpr → Value → Prop where
  | any (v : Value) : HasType .any v
  | none : HasType .none .null
  | int (n : Int) : HasType .int (.int n)
  /-- A truth value is an integer. -/
  | intOfBool (b : Bool) : HasType .int (.bool b)
  | float (x : Binary64) : HasType .float (.float x)
  | str (s : String) : HasType .str (.str s)
  | bool (b : Bool) : HasType .bool (.bool b)
  | dict (es : Entries) : HasType .dict (.dict es)
  | list {v : Value} {xs : List Value} (hv : v.asList? = some xs) : HasType .list v
  | tuple (xs : List Value) : HasType .tuple (.tuple xs)
  | absent (t : TypeExpr) : HasType (.optional t) .null
  | present {t : TypeExpr} {v : Value} (h : HasType t v) : HasType (.optional t) v
  | alternative {ts : List TypeExpr} {t : TypeExpr} {v : Value} (ht : t ∈ ts) (h : HasType t v) :
      HasType (.alternatives ts) v
  | listOf {t : TypeExpr} {v : Value} {xs : List Value} (hv : v.asList? = some xs)
      (h : ∀ x ∈ xs, HasType t x) : HasType (.listOf t) v
  | tupleOf {t : TypeExpr} {xs : List Value} (h : ∀ x ∈ xs, HasType t x) :
      HasType (.tupleOf t) (.tuple xs)
  | dictOf {k t : TypeExpr} {es : Entries} (hkeys : ∀ e ∈ es, HasType k e.1)
      (h : ∀ e ∈ es, HasType t e.2) : HasType (.dictOf k t) (.dict es)
  | model (kind : ModelKind) (fields : Fields) : HasType (.model kind) (.model kind fields)
  | direction {s : String} (h : s = "asc" ∨ s = "desc") : HasType .direction (.str s)
  /-- Any object of the application, whatever its interface. -/
  | handle (name : String) {v : Value} (h : v.isHandle = true) : HasType (.handle name) v

/-- A type expression occurs in another one. -/
inductive TypeExpr.Occurs (u : TypeExpr) : TypeExpr → Prop where
  | here : Occurs u u
  | optional {t : TypeExpr} (h : Occurs u t) : Occurs u (.optional t)
  | alternatives {ts : List TypeExpr} {t : TypeExpr} (ht : t ∈ ts) (h : Occurs u t) :
      Occurs u (.alternatives ts)
  | listOf {t : TypeExpr} (h : Occurs u t) : Occurs u (.listOf t)
  | tupleOf {t : TypeExpr} (h : Occurs u t) : Occurs u (.tupleOf t)
  | keys {k t : TypeExpr} (h : Occurs u k) : Occurs u (.dictOf k t)
  | values {k t : TypeExpr} (h : Occurs u t) : Occurs u (.dictOf k t)

/-- Induction along conversion, which goes into optional types and into the types of items and
values and treats the rest as scalar. -/
@[elab_as_elim]
theorem TypeExpr.induction_on_parts {motive : TypeExpr → Prop} (t : TypeExpr)
    (optional : ∀ t, motive t → motive (.optional t))
    (listOf : ∀ t, motive t → motive (.listOf t))
    (tupleOf : ∀ t, motive t → motive (.tupleOf t))
    (dictOf : ∀ k t, motive t → motive (.dictOf k t))
    (model : ∀ kind, motive (.model kind))
    (scalar : ∀ t, (∀ v, settleType t v = pure v) → (∀ v, convert t v = convertScalar t v) →
      motive t) : motive t :=
  match t with
  | .optional t => optional t (induction_on_parts t optional listOf tupleOf dictOf model scalar)
  | .listOf t => listOf t (induction_on_parts t optional listOf tupleOf dictOf model scalar)
  | .tupleOf t => tupleOf t (induction_on_parts t optional listOf tupleOf dictOf model scalar)
  | .dictOf k t => dictOf k t (induction_on_parts t optional listOf tupleOf dictOf model scalar)
  | .model kind => model kind
  | .any | .none | .int | .float | .str | .bool | .dict | .list | .tuple | .alternatives _
  | .direction | .handle _ => scalar _ (fun _ => rfl) fun _ => rfl

/-! ### Items and values -/

section

variable {f : Value → Except Fault Value}

theorem convertItems_of_none (hv : v.asList? = none) : convertItems f v = .ok v := by
  rw [convertItems, hv]

theorem convertItems_of_some (hv : v.asList? = some xs) :
    convertItems f v = (xs.mapM f).map .list := by
  rw [convertItems, hv]
  rfl

theorem convertValues_dict :
    convertValues f (.dict es) =
      (es.mapM fun e : Value × Value => do return (e.1, ← f e.2)).map .dict := rfl

theorem convertItems_eq_ok_iff (hv : v.asList? = some xs) :
    convertItems f v = .ok w ↔
      ∃ ys, List.Forall₂ (fun x y => f x = .ok y) xs ys ∧ w = .list ys := by
  rw [convertItems_of_some hv, map_eq_ok_iff]
  simp only [mapM_eq_ok_iff]

theorem convertValues_dict_eq_ok_iff :
    convertValues f (.dict es) = .ok w ↔
      ∃ fs, List.Forall₂ (fun e g => g.1 = e.1 ∧ f e.2 = .ok g.2) es fs ∧ w = .dict fs := by
  rw [convertValues_dict, map_eq_ok_iff]
  simp only [mapM_values_eq_ok_iff]

end

theorem settleType_listOf {ys : List Value} (hv : v.asList? = some xs)
    (h : List.Forall₂ (fun x y => settleType t x = pure y) xs ys) :
    settleType (.listOf t) v = pure (.list ys) := by
  rw [settleType, hv]
  dsimp only
  rw [mapM_eq_pure h, pure_bind]

theorem settleType_dictOf {k : TypeExpr} {fs : Entries}
    (h : List.Forall₂ (fun e f => f.1 = e.1 ∧ settleType t e.2 = pure f.2) es fs) :
    settleType (.dictOf k t) (.dict es) = pure (.dict fs) := by
  have hstep : mapEntries (settleType t) es = pure fs :=
    mapM_eq_pure (h.imp fun e f hef => by rw [hef.2, pure_bind, ← hef.1])
  rw [settleType, hstep, pure_bind]

/-! ### Values that conversion leaves as they are -/

/-- Conversion to the type leaves the value as it is and reads no sequence in it. -/
structure TypeExpr.Fixes (t : TypeExpr) (v : Value) : Prop where
  settled : settleType t v = pure v
  converted : convert t v = .ok v

namespace TypeExpr

theorem Fixes.convertIn_eq (h : t.Fixes v) : convertIn t v = pure v := by
  rw [convertIn, h.settled, pure_bind, h.converted]
  rfl

theorem Fixes.optional (h : t.Fixes v) : (TypeExpr.optional t).Fixes v :=
  ⟨h.settled, h.converted⟩

theorem fixes_listOf (h : ∀ x ∈ xs, t.Fixes x) : (listOf t).Fixes (.list xs) := by
  constructor
  · exact settleType_listOf rfl (List.forall₂_same.2 fun x hx => (h x hx).settled)
  · exact (convertItems_eq_ok_iff rfl).2
      ⟨xs, List.forall₂_same.2 fun x hx => (h x hx).converted, rfl⟩

theorem fixes_listOf_other (h : v.asList? = Option.none) : (listOf t).Fixes v := by
  constructor
  · rw [settleType, h]
  · exact convertItems_of_none h

theorem fixes_dictOf {k : TypeExpr} (h : ∀ e ∈ es, t.Fixes e.2) :
    (dictOf k t).Fixes (.dict es) := by
  constructor
  · exact settleType_dictOf (List.forall₂_same.2 fun e he => ⟨rfl, (h e he).settled⟩)
  · exact convertValues_dict_eq_ok_iff.2
      ⟨es, List.forall₂_same.2 fun e he => ⟨rfl, (h e he).converted⟩, rfl⟩

theorem fixes_null : ∀ t : TypeExpr, t.Fixes .null
  | .optional t => (fixes_null t).optional
  | .any | .none | .int | .float | .str | .bool | .dict | .list | .tuple | .alternatives _
  | .listOf _ | .tupleOf _ | .dictOf _ _ | .model _ | .direction | .handle _ => ⟨rfl, rfl⟩

theorem fixes_dictOf_other {k : TypeExpr} (h : v.isDict = false) : (dictOf k t).Fixes v := by
  cases v with
  | dict es => cases h
  | _ => exact ⟨rfl, rfl⟩

theorem Fixes.tupleOf (h : (listOf t).Fixes v) : (TypeExpr.tupleOf t).Fixes v :=
  ⟨(by rw [settleType, settleType] : settleType (.tupleOf t) v = settleType (.listOf t) v).trans
    h.settled, h.converted⟩

end TypeExpr

/-! ### Typed values -/

/-- Settling a value of a type reads nothing: every sequence is where no list is declared.  Lists
become plain lists, and conversion leaves what comes of it as it is. -/
theorem HasType.exists_fixes (h : HasType t v) :
    ∃ x, settleType t v = pure x ∧ t.Fixes x ∧ x.Equal v := by
  induction h with
  | @listOf t v xs hv _ ih =>
    obtain ⟨ys, hys⟩ := exists_forall₂_iff.2 ih
    refine ⟨.list ys, ?_, ?_, ?_⟩
    · exact settleType_listOf hv (hys.imp fun _ _ h => h.1)
    · refine TypeExpr.fixes_listOf fun y hy => ?_
      obtain ⟨x, -, -, hfixes, -⟩ := exists_mem_of_forall₂_right hys hy
      exact hfixes
    · exact Value.equal_of_items hv (hys.imp fun _ _ h => h.2.2)
  | @dictOf k t es _ _ _ ih =>
    obtain ⟨fs, hfs⟩ := (exists_forall₂_values_iff
      (R := fun v x => settleType t v = pure x ∧ t.Fixes x ∧ x.Equal v)).2 ih
    refine ⟨.dict fs, ?_, ?_, ?_⟩
    · exact settleType_dictOf (hfs.imp fun _ _ h => ⟨h.1, h.2.1⟩)
    · refine TypeExpr.fixes_dictOf fun f hf => ?_
      obtain ⟨e, -, -, -, hfixes, -⟩ := exists_mem_of_forall₂_right hfs hf
      exact hfixes
    · exact Value.equal_of_entries (hfs.imp fun _ _ h => ⟨h.1, h.2.2.2⟩)
  | @present t v _ ih =>
    obtain ⟨x, hsettle, hfixes, hequal⟩ := ih
    exact ⟨x, hsettle, hfixes.optional, hequal⟩
  | absent t =>
    have hnull := TypeExpr.fixes_null (.optional t)
    exact ⟨.null, hnull.settled, hnull, .refl _⟩
  | _ => exact ⟨_, rfl, ⟨rfl, rfl⟩, .refl _⟩

theorem HasType.exists_convertIn_eq (h : HasType t v) :
    ∃ w, convertIn t v = pure w ∧ w.Equal v := by
  obtain ⟨x, hsettle, hfixes, hequal⟩ := h.exists_fixes
  refine ⟨x, ?_, hequal⟩
  rw [convertIn, hsettle, pure_bind, hfixes.converted]
  rfl

/-! ### Results of conversion -/

theorem ModelKind.exists_shape_eq (kind : ModelKind) :
    ∃ declared, kind.shape = .object kind declared := by
  cases kind <;> exact ⟨_, rfl⟩

theorem ModelKind.exists_eq_model (h : kind.ofValue v = .ok w) :
    ∃ fields, w = .model kind fields := by
  obtain ⟨declared, hshape⟩ := kind.exists_shape_eq
  rw [ofValue_eq_ok_iff, hshape] at h
  cases v with
  | dict es =>
    obtain ⟨fields, -, rfl⟩ := Shape.check_object_iff.1 h
    exact ⟨fields, rfl⟩
  | model own fields =>
    simp only [Shape.check] at h
    split at h
    · next hown =>
      cases h
      exact ⟨fields, by rw [hown]⟩
    · cases h
  | _ => simp [Shape.check, Shape.misfit] at h

theorem convertToInt_of_eq_ok (h : convertToInt v = .ok w) : convertToInt w = .ok w := by
  cases v with
  | str s =>
    simp only [convertToInt] at h
    split at h
    · cases h; rfl
    · next fault hread => cases h; simp only [convertToInt, hread]
  | float x =>
    simp only [convertToInt] at h
    split at h
    · cases h; rfl
    · split at h
      · cases h; rfl
      · cases h
  | _ => cases h; rfl

theorem convertToFloat_of_eq_ok (h : convertToFloat v = .ok w) : convertToFloat w = .ok w := by
  cases v with
  | str s =>
    simp only [convertToFloat] at h
    split at h
    · cases h; rfl
    · next hread => cases h; simp only [convertToFloat, hread]
  | int n =>
    simp only [convertToFloat] at h
    split at h
    · cases h; rfl
    · cases h
  | _ => cases h; rfl

theorem convertToStr_convertToStr (v : Value) : convertToStr (convertToStr v) = convertToStr v := by
  cases v with
  | int n =>
    by_cases hshort : hasNumeral n = true
    · simp only [convertToStr, if_pos hshort]
    · simp only [convertToStr, if_neg hshort]
  | _ => rfl

/-- What a scalar conversion gives converts to itself, unless it is a map, which a text may hold
again. -/
theorem convertScalar_of_eq_ok (ht : t ≠ .dict) (h : convertScalar t v = .ok w) :
    convertScalar t w = .ok w := by
  cases t with
  | int => exact convertToInt_of_eq_ok h
  | float => exact convertToFloat_of_eq_ok h
  | str => cases h; rw [convertScalar, convertToStr_convertToStr]
  | bool => cases v <;> cases h <;> rfl
  | dict => exact absurd rfl ht
  | _ => rfl

theorem fixes_of_convertToModel (h : convertToModel kind v = .ok w) :
    (TypeExpr.model kind).Fixes w := by
  cases v with
  | dict es =>
    obtain ⟨fields, rfl⟩ := ModelKind.exists_eq_model h
    exact ⟨rfl, rfl⟩
  | str s =>
    simp only [convertToModel] at h
    split at h
    · obtain ⟨fields, rfl⟩ := ModelKind.exists_eq_model h
      exact ⟨rfl, rfl⟩
    · cases h
  | _ => cases h; exact ⟨rfl, rfl⟩

theorem fixes_of_convertItems (ih : ∀ v w, convert t v = .ok w → t.Fixes w)
    (h : convertItems (convert t) v = .ok w) : (TypeExpr.listOf t).Fixes w := by
  rcases hv : v.asList? with _ | xs
  · rw [convertItems_of_none hv] at h
    cases h
    exact TypeExpr.fixes_listOf_other hv
  · obtain ⟨ys, hys, rfl⟩ := (convertItems_eq_ok_iff hv).1 h
    refine TypeExpr.fixes_listOf fun y hy => ?_
    obtain ⟨x, -, hxy⟩ := exists_mem_of_forall₂_right hys hy
    exact ih x y hxy

theorem fixes_of_convertValues {k : TypeExpr} (ih : ∀ v w, convert t v = .ok w → t.Fixes w)
    (h : convertValues (convert t) v = .ok w) : (TypeExpr.dictOf k t).Fixes w := by
  cases v with
  | dict es =>
    obtain ⟨fs, hfs, rfl⟩ := convertValues_dict_eq_ok_iff.1 h
    refine TypeExpr.fixes_dictOf fun f hf => ?_
    obtain ⟨e, -, -, hef⟩ := exists_mem_of_forall₂_right hfs hf
    exact ih e.2 f.2 hef
  | _ => cases h; exact TypeExpr.fixes_dictOf_other rfl

/-- One pass settles: what conversion gives, converting again leaves as it is, for every type in
which the bare map type does not occur. -/
theorem fixes_of_convert (ht : ¬ TypeExpr.Occurs .dict t) (h : convert t v = .ok w) :
    t.Fixes w := by
  induction t using TypeExpr.induction_on_parts generalizing v w with
  | optional t ih => exact (ih (mt .optional ht) h).optional
  | listOf t ih => exact fixes_of_convertItems (fun _ _ => ih (mt .listOf ht)) h
  | tupleOf t ih => exact (fixes_of_convertItems (fun _ _ => ih (mt .tupleOf ht)) h).tupleOf
  | dictOf k t ih => exact fixes_of_convertValues (fun _ _ => ih (mt .values ht)) h
  | model kind => exact fixes_of_convertToModel h
  | scalar t hsettle hconvert =>
    rw [hconvert] at h
    have hother : t ≠ .dict := fun he => ht (he ▸ .here)
    exact ⟨hsettle w, (hconvert w).trans (convertScalar_of_eq_ok hother h)⟩

/-! ### Arguments by name -/

theorem equal_set {es fs : Entries} {key : Value}
    (h : List.Forall₂ (fun e f => f.1 = e.1 ∧ f.2.Equal e.2) es fs) (hv : es.get? key = some v)
    (hw : w.Equal v) :
    List.Forall₂ (fun e f => f.1 = e.1 ∧ f.2.Equal e.2) es (Assoc.set key w fs) := by
  induction h with
  | nil => cases hv
  | @cons e f es fs hef hrest ih =>
    rw [Assoc.get?_cons] at hv
    rw [Assoc.set_cons, hef.1]
    by_cases hkey : e.1.sameKey key = true
    · rw [if_pos hkey] at hv ⊢
      cases hv
      exact .cons ⟨rfl, hw⟩ hrest
    · rw [if_neg hkey] at hv ⊢
      exact .cons hef (ih hv)

/-- Every argument that a parameter takes has its declared type. -/
def Signature.Fits (sig : Signature) (args : Entries) : Prop :=
  ∀ p ∈ sig.parameters, ∀ v, args.field? p.name = some v → HasType p.type v

theorem exists_foldlM_convert_eq {args done : Entries} {ps : List Parameter}
    (h : ∀ p ∈ ps, ∀ v, args.field? p.name = some v → HasType p.type v)
    (hdone : List.Forall₂ (fun e f => f.1 = e.1 ∧ f.2.Equal e.2) args done) :
    ∃ converted : Entries,
      ps.foldlM (fun acc p => match args.field? p.name with
        | some v => do return acc.set (.str p.name) (← convertIn p.type v)
        | none => return acc) done = (pure converted : Act Entries) ∧
      List.Forall₂ (fun e f => f.1 = e.1 ∧ f.2.Equal e.2) args converted := by
  induction ps generalizing done with
  | nil => exact ⟨done, rfl, hdone⟩
  | cons p ps ih =>
    have hrest := fun q hq => h q (List.mem_cons_of_mem p hq)
    rw [List.foldlM_cons]
    cases hgiven : args.field? p.name with
    | none =>
      rw [pure_bind]
      exact ih hrest hdone
    | some v =>
      obtain ⟨w, hw, hequal⟩ := (h p List.mem_cons_self v hgiven).exists_convertIn_eq
      dsimp only
      rw [hw, pure_bind, pure_bind]
      exact ih hrest (equal_set hdone hgiven hequal)

/-- Arguments that fit are converted to equal ones. -/
theorem Signature.exists_convertNamed_eq {sig : Signature} {args : Entries} (h : sig.Fits args) :
    ∃ converted, sig.convertNamed args = pure converted ∧
      (Value.dict converted).Equal (.dict args) := by
  obtain ⟨converted, hfold, hequal⟩ :=
    exists_foldlM_convert_eq h (List.forall₂_same.2 fun e _ => ⟨rfl, .refl e.2⟩)
  exact ⟨converted, hfold, Value.equal_of_entries hequal⟩

/-- **Conversion and types.**  Conversion leaves a value of the type equal, so a call by name leaves
arguments that fit equal.  For a type in which the bare map type does not occur, what conversion
gives in whatever session is converted again to itself.  Nothing is read from a sequence in either
case. -/
theorem convertIn_laws :
    (∀ t v, HasType t v → ∃ w, convertIn t v = pure w ∧ w.Equal v) ∧
      (∀ (sig : Signature) (args : Entries), sig.Fits args →
        ∃ converted, sig.convertNamed args = pure converted ∧
          (Value.dict converted).Equal (.dict args)) ∧
      ∀ t, ¬ TypeExpr.Occurs .dict t → ∀ v w s s',
        (convertIn t v).outcome s = (.ok w, s') → convertIn t w = pure w := by
  refine ⟨fun t v h => h.exists_convertIn_eq, fun _ _ => Signature.exists_convertNamed_eq,
    fun t ht v w s s' h => ?_⟩
  obtain ⟨x, s₁, -, h⟩ := eq_ok_of_bind h
  exact (fixes_of_convert ht (congrArg Prod.fst h)).convertIn_eq

/-- Lists of counts by name, a count being an integer or missing. -/
def countsType : TypeExpr := .dictOf .str (.listOf (.optional .int))

/-- Counts of the type come back equal, also as the argument of a parameter.  A count given as text
is converted, and then stays. -/
theorem convertIn_laws_counts :
    (∃ w, convertIn countsType (.dict [(.str "a", .list [.int 12, .null])]) = pure w ∧
        w.Equal (.dict [(.str "a", .list [.int 12, .null])])) ∧
      (∃ converted, (Signature.mk [⟨"counts", countsType, none⟩] false).convertNamed
          [(.str "counts", .dict [])] = pure converted ∧
        (Value.dict converted).Equal (.dict [(.str "counts", .dict [])])) ∧
      (∀ s, (convertIn countsType (.dict [(.str "a", .list [.str "12", .null])])).outcome s =
        (.ok (.dict [(.str "a", .list [.int 12, .null])]), s)) ∧
      convertIn countsType (.dict [(.str "a", .list [.int 12, .null])]) =
        pure (.dict [(.str "a", .list [.int 12, .null])]) := by
  have htyped : HasType countsType (.dict [(.str "a", .list [.int 12, .null])]) := by
    refine .dictOf (by simpa using .str "a") ?_
    simpa using HasType.listOf rfl (by simpa using ⟨.present (.int 12), .absent .int⟩)
  have hother : ¬ TypeExpr.Occurs .dict countsType := by
    rintro (_ | _ | _ | _ | _ | h | (_ | _ | _ | h | _))
    · cases h
    · rcases h with _ | h
      cases h
  have hrun : ∀ s, (convertIn countsType (.dict [(.str "a", .list [.str "12", .null])])).outcome s =
      (.ok (.dict [(.str "a", .list [.int 12, .null])]), s) := by
    have hread : convertToInt (.str "12") = .ok (.int 12) := by
      rw [convertToInt, show readInteger "12" = .ok 12 by decide +kernel]
    have hconvert : convert countsType (.dict [(.str "a", .list [.str "12", .null])]) =
        .ok (.dict [(.str "a", .list [.int 12, .null])]) := by
      simp only [countsType, convert, convertValues, convertItems, Value.asList?, convertScalar,
        List.mapM_cons, hread]
      rfl
    have hsettle : settleType countsType (.dict [(.str "a", .list [.str "12", .null])]) =
        pure (.dict [(.str "a", .list [.str "12", .null])]) := rfl
    intro s
    rw [convertIn, hsettle, pure_bind, hconvert]
    rfl
  have hfits : (Signature.mk [⟨"counts", countsType, none⟩] false).Fits
      [(.str "counts", .dict [])] := by
    intro p hp v hv
    obtain rfl := List.mem_singleton.1 hp
    obtain rfl : Value.dict [] = v := by simpa [Assoc.get?_cons] using hv
    exact .dictOf (by simp) (by simp)
  exact ⟨convertIn_laws.1 _ _ htyped, convertIn_laws.2.1 _ _ hfits, hrun,
    convertIn_laws.2.2 _ hother _ _ default _ (hrun _)⟩

end SearchKit
