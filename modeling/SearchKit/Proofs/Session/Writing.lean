import SearchKit.Call.Operation
import SearchKit.Proofs.Session.Frame

/-!
# Writing the values of a session as JSON

A text is written of a value by reading the sequences in it, so writing keeps whatever reading
keeps.  Plain data has no sequences and no handles: it is written in the session as it stands.

* `keeps_jsonOf` : writing keeps what reading keeps.
* `fault_of_jsonOf` : a value without a text is told as such, whatever stands in the way.
* `Value.plainWithin` : plain data, and `Operation.json_of_plain` : an operation on plain data has a
  text.
-/

namespace SearchKit

open Act

/-! ### What writing keeps -/

section

variable {γ : Type} {view : Session → γ}

theorem keeps_mapMembers {step : Value → Act Value} (hstep : ∀ v, Keeps view (step v))
    (es : Entries) : Keeps view (mapMembers step es) := by
  refine .mapM (fun e => ?_) es
  dsimp only
  split
  · exact .bind (hstep e.2) fun _ => .pure _
  · exact .bind (.throw _) fun _ => .bind (hstep e.2) fun _ => .pure _

mutual

theorem keeps_settleDeclared {free : Value → Act Value} (hfree : ∀ v, Keeps view (free v))
    (shape : Shape) (v : Value) : Keeps view (settleDeclared free shape v) := by
  cases shape with
  | any => rw [settleDeclared]; exact hfree v
  | optional s =>
    rw [settleDeclared]
    split
    · exact .pure _
    · exact keeps_settleDeclared hfree s v
  | listOf s =>
    cases v with
    | list xs =>
      rw [settleDeclared]
      exact .bind (.mapM (keeps_settleDeclared hfree s) xs) fun _ => .pure _
    | _ => simp only [settleDeclared]; exact hfree _
  | dictOf s =>
    cases v with
    | dict es =>
      rw [settleDeclared]
      exact .bind (keeps_mapMembers (keeps_settleDeclared hfree s) es) fun _ => .pure _
    | _ => simp only [settleDeclared]; exact hfree _
  | object kind fields =>
    cases v with
    | model own values =>
      rw [settleDeclared]
      split
      · exact .bind (keeps_settleValues hfree fields values) fun _ => .pure _
      · exact hfree _
    | _ => simp only [settleDeclared]; exact hfree _
  | either first second =>
    cases v with
    | model own values =>
      rw [settleDeclared]
      split
      · exact keeps_settleDeclared hfree first _
      · exact keeps_settleDeclared hfree second _
    | _ => simp only [settleDeclared]; exact hfree _
  | _ =>
    simp only [settleDeclared]
    split <;> first | exact .pure _ | exact hfree _

theorem keeps_settleValues {free : Value → Act Value} (hfree : ∀ v, Keeps view (free v))
    (shapes : List (String × Shape × Option Value)) (values : Fields) :
    Keeps view (settleValues free shapes values) := by
  match shapes, values with
  | [], values => rw [settleValues]; exact .pure _; simp
  | _ :: _, [] => rw [settleValues]; exact .pure _; simp
  | (_, s, _) :: shapes, (name, v) :: values =>
    rw [settleValues]
    exact .bind (keeps_settleDeclared hfree s v) fun _ =>
      .bind (keeps_settleValues hfree shapes values) fun _ => .pure _

end

variable (h : ApartFromReading view)
include h

theorem keeps_settleFree (depth : Nat) (v : Value) : Keeps view (settleFree depth v) := by
  induction depth generalizing v with
  | zero => exact .throw _
  | succ depth ih =>
    cases v with
    | list xs => exact .bind (.mapM ih xs) fun _ => .pure _
    | tuple xs => exact .bind (.mapM ih xs) fun _ => .pure _
    | collection xs => exact .bind (.mapM ih xs) fun _ => .pure _
    | iterator id => exact .bind (keeps_mapItems h ih _) fun _ => .pure _
    | dict es => exact .bind (keeps_mapMembers ih es) fun _ => .pure _
    | model kind fields => exact keeps_settleDeclared ih _ _
    | _ => first | exact .pure _ | exact .throw _

/-- Writing a value keeps what reading keeps. -/
theorem keeps_jsonOf (layout : Json.Layout) (v : Value) : Keeps view (jsonOf layout v) := by
  refine .bind (.bind (.caught ?_) fun r => ?_) fun settled => ?_
  · split
    · exact keeps_settleDeclared (keeps_settleFree h _) _ _
    · exact keeps_settleFree h _ _
  · split
    · exact .pure _
    · exact .throw _
  · split
    · exact .pure _
    · exact .throw _

end

/-- A value that is not written is told as such, whatever stands in the way. -/
theorem fault_of_jsonOf {s s' : Session} {layout : Json.Layout} {v : Value} {fault : Fault}
    (h : (jsonOf layout v).outcome s = (.error fault, s')) : fault = .misuse .notWritable := by
  unfold jsonOf asUnwritten at h
  rw [bind_assoc, outcome_bind_ok (outcome_caught _ s)] at h
  split at h
  · rw [pure_bind] at h
    split at h <;> cases h
    rfl
  · cases h
    rfl

/-! ### Plain data -/

/-- The value is plain data within a depth: it has no handles and no sequences, and its keys are
names. -/
def Value.plainWithin : Nat → Value → Bool
  | 0, _ => false
  | depth + 1, v => match v with
    | .null | .bool _ | .int _ | .float _ | .str _ => true
    | .list xs | .tuple xs | .collection xs => xs.all (plainWithin depth)
    | .dict es => es.all fun e => (Json.memberName? e.1).isSome && plainWithin depth e.2
    | _ => false

/-- The call gives a value that is written, and has no effect. -/
def Act.GivesWritten (act : Act Value) : Prop :=
  ∃ w, act = pure w ∧ ∀ layout depth, (Json.writeAt? layout depth w).isSome

theorem mapM_of_givesWritten {step : Value → Act Value} {xs : List Value}
    (h : ∀ x ∈ xs, (step x).GivesWritten) :
    ∃ ws, xs.mapM step = pure ws ∧ ∀ layout depth, (Json.writeItems? layout depth ws).isSome := by
  induction xs with
  | nil => exact ⟨[], rfl, fun _ _ => by simp [Json.writeItems?]⟩
  | cons x xs ih =>
    obtain ⟨w, hw, hwritten⟩ := h x List.mem_cons_self
    obtain ⟨ws, hws, hall⟩ := ih fun y hy => h y (List.mem_cons_of_mem _ hy)
    refine ⟨w :: ws, by rw [List.mapM_cons, hw, hws]; rfl, fun layout depth => ?_⟩
    obtain ⟨head, hhead⟩ := Option.isSome_iff_exists.1 (hwritten layout depth)
    obtain ⟨tail, htail⟩ := Option.isSome_iff_exists.1 (hall layout depth)
    rw [Json.writeItems?, hhead, htail]
    rfl

theorem mapMembers_of_givesWritten {step : Value → Act Value} {es : Entries}
    (h : ∀ e ∈ es, (Json.memberName? e.1).isSome ∧ (step e.2).GivesWritten) :
    ∃ ws, mapMembers step es = pure ws ∧
      ∀ layout depth, (Json.writeEntries? layout depth ws).isSome := by
  induction es with
  | nil => exact ⟨[], rfl, fun _ _ => by simp [Json.writeEntries?]⟩
  | cons e es ih =>
    obtain ⟨hname, w, hw, hwritten⟩ := h e List.mem_cons_self
    obtain ⟨ws, hws, hall⟩ := ih fun f hf => h f (List.mem_cons_of_mem _ hf)
    refine ⟨(e.1, w) :: ws, ?_, fun layout depth => ?_⟩
    · rw [mapMembers] at hws
      rw [mapMembers, List.mapM_cons, hws, hw, if_pos hname]
      rfl
    · obtain ⟨name, hname⟩ := Option.isSome_iff_exists.1 hname
      obtain ⟨value, hvalue⟩ := Option.isSome_iff_exists.1 (hwritten layout depth)
      obtain ⟨tail, htail⟩ := Option.isSome_iff_exists.1 (hall layout depth)
      rw [Json.writeEntries?, hname, hvalue, htail]
      rfl

theorem settleFree_of_plain {depth : Nat} {v : Value} (h : v.plainWithin depth = true) :
    (settleFree depth v).GivesWritten := by
  induction depth generalizing v with
  | zero => cases h
  | succ depth ih =>
    have hitems : ∀ xs : List Value, xs.all (Value.plainWithin depth) = true →
        (do return .list (← xs.mapM (settleFree depth)) : Act Value).GivesWritten := by
      intro xs hxs
      obtain ⟨ws, hws, hall⟩ := mapM_of_givesWritten fun x hx => ih (List.all_eq_true.1 hxs x hx)
      refine ⟨.list ws, by rw [hws, pure_bind], fun layout depth => ?_⟩
      rw [Json.writeAt?, Option.isSome_map]
      exact hall layout (depth + 1)
    cases v with
    | list xs => exact hitems xs h
    | tuple xs => exact hitems xs h
    | collection xs => exact hitems xs h
    | dict es =>
      obtain ⟨ws, hws, hall⟩ := @mapMembers_of_givesWritten (settleFree depth) es
        fun e he => by
          have hplain := List.all_eq_true.1 h e he
          rw [Bool.and_eq_true] at hplain
          exact ⟨hplain.1, ih hplain.2⟩
      refine ⟨.dict ws, by rw [settleFree, hws, pure_bind], fun layout depth => ?_⟩
      rw [Json.writeAt?, Option.isSome_map]
      exact hall layout (depth + 1)
    | null => exact ⟨_, rfl, fun _ _ => by simp [Json.writeAt?]⟩
    | bool b => exact ⟨_, rfl, fun _ _ => by simp [Json.writeAt?]⟩
    | int n => exact ⟨_, rfl, fun _ _ => by simp [Json.writeAt?]⟩
    | float x => exact ⟨_, rfl, fun _ _ => by simp [Json.writeAt?]⟩
    | str text => exact ⟨_, rfl, fun _ _ => by simp [Json.writeAt?]⟩
    | _ => cases h

/-- An operation on plain data has a text, and writing it has no effect. -/
theorem Operation.json_of_plain (name : String) {fields : Fields}
    (h : ∀ f ∈ fields, f.2.plainWithin freeDepth = true) :
    ∃ text, json ⟨some name, some (Entries.ofFields fields)⟩ = pure text := by
  have hmembers : ∀ e ∈ Entries.ofFields fields,
      (Json.memberName? e.1).isSome ∧ (settleFree freeDepth e.2).GivesWritten := by
    intro e he
    obtain ⟨f, hf, rfl⟩ := List.mem_map.1 he
    exact ⟨by simp [Json.memberName?], settleFree_of_plain (h f hf)⟩
  obtain ⟨ws, hws, hall⟩ := mapMembers_of_givesWritten hmembers
  have hsettled : settleDeclared (settleFree freeDepth) operationShape
      (toValue ⟨some name, some (Entries.ofFields fields)⟩) =
      pure (.model .operation [("name", .str name), ("args", .dict ws)]) := by
    simp only [operationShape, toValue, settleDeclared, settleValues, optionalField, Value.isNull,
      Option.map_some, Option.getD_some, if_true, Bool.false_eq_true, if_false, pure_bind]
    rw [hws]
    rfl
  have hwritten : (Json.write? .compact
      (.model .operation [("name", .str name), ("args", .dict ws)])).isSome := by
    obtain ⟨texts, htexts⟩ := Option.isSome_iff_exists.1 (hall .compact 2)
    simp [Json.write?, Json.writeAt?, Json.writeFields?, htexts]
  obtain ⟨text, htext⟩ := Option.isSome_iff_exists.1 hwritten
  refine ⟨text, ?_⟩
  have hsettles : asUnwritten (settleDeclared (settleFree freeDepth) operationShape
      (toValue ⟨some name, some (Entries.ofFields fields)⟩)) =
      pure (.model .operation [("name", .str name), ("args", .dict ws)]) := by
    rw [hsettled]
    rfl
  unfold json jsonOf
  exact (congrArg (· >>= _) hsettles).trans (by rw [pure_bind, htext])

end SearchKit
