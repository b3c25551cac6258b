import SearchKit.Session.Effects
import SearchKit.Value.Sequence

/-!
# Sequences of a session

A sequence gives each of its items once.  Whoever reads it takes the items one by one, so what a
fault leaves unread is still there for the next reader.

* `openSequence`, `pull?`: a new sequence, and the next item of one.
* `scanItems`, `foldItems`, `mapItems`: a step run on every item of a value.
* `settle`, `itemsOf`: a sequence read to its end.
* `entriesIn`, `writtenOver`, `gatherEntries`: a value read as the entries of a map.
* `foldItems_list`: on a list the steps are those of the list.
-/

namespace SearchKit

/-- A new sequence. -/
def openSequence (q : Sequence) : Act Value := do
  let s ← get
  set { s with sequences := s.sequences ++ [q] }
  return .iterator s.sequences.length

/-- What is left of a sequence. -/
def setSequence (id : Nat) (rest : List Value) : Act Unit :=
  modify fun s => { s with sequences := s.sequences.set id (.items rest) }

/-- The items of a sequence still to come.  Deferred records are fetched now; a fault on the way
ends the sequence. -/
def remaining (id : Nat) : Act (List Value) := do
  match (← get).sequences[id]? with
  | none => return []
  | some (.items rest) => return rest
  | some (.deferred source ids) => do
    setSequence id []
    let records ← rankRecords ids (← fetch source true ids)
    setSequence id records
    return records

/-- The next item of a sequence, none at its end. -/
def pull? (id : Nat) : Act (Option Value) := do
  match ← remaining id with
  | [] => return none
  | x :: rest => setSequence id rest; return some x

/-! ### Item by item -/

section

variable {σ β : Type}

/-- A call whose fault is an outcome like any other. -/
def caught {α : Type} (act : Act α) : Act (Except Fault α) := fun s =>
  let (r, s) := act s
  (.ok r, s)

/-- A step run on the items of a list: the result of the steps before the first fault, and that
fault. -/
def scanList (step : σ → Value → Act σ) : List Value → σ → Act (σ × Option Fault)
  | [], acc => return (acc, none)
  | x :: xs, acc => do
    match ← caught (step acc x) with
    | .ok acc => scanList step xs acc
    | .error fault => return (acc, some fault)

/-- A step run on at most a number of items of a sequence, each taken just before its step. -/
def scanSequence (id : Nat) (step : σ → Value → Act σ) : Nat → σ → Act (σ × Option Fault)
  | 0, acc => return (acc, none)
  | count + 1, acc => do
    match ← pull? id with
    | none => return (acc, none)
    | some x => match ← caught (step acc x) with
      | .ok acc => scanSequence id step count acc
      | .error fault => return (acc, some fault)

/-- A step run on the items of a value, one by one: the result of the steps before the first fault,
and that fault. -/
def scanItems (v : Value) (start : σ) (step : σ → Value → Act σ) : Act (σ × Option Fault) := do
  match v with
  | .iterator id => do
    match ← caught (remaining id) with
    | .ok items => scanSequence id step items.length start
    | .error fault => return (start, some fault)
  | v => match v.items with
    | .ok xs => scanList step xs start
    | .error fault => return (start, some fault)

/-- A step run on the items of a value, one by one. -/
def foldItems (v : Value) (start : σ) (step : σ → Value → Act σ) : Act σ := do
  match ← scanItems v start step with
  | (acc, none) => return acc
  | (_, some fault) => throw fault

/-- What a step gives for each item of a value, the items taken one by one. -/
def mapItems (v : Value) (step : Value → Act β) : Act (List β) := do
  return (← foldItems v [] fun acc x => do return (← step x) :: acc).reverse

/-- A scan of a list whose fault is raised at the end is the run of the steps. -/
theorem scanList_raised (step : σ → Value → Act σ) (xs : List Value) (start : σ) :
    (do match ← scanList step xs start with
      | (acc, none) => return acc
      | (_, some fault) => throw fault) = xs.foldlM step start := by
  induction xs generalizing start with
  | nil => rfl
  | cons x xs ih =>
    funext s
    rw [List.foldlM_cons]
    simp only [scanList, caught, bind, ExceptT.bind, ExceptT.mk, StateT.bind, ExceptT.bindCont]
    rcases h : step start x s with ⟨_ | acc, s'⟩
    · rfl
    · simpa [h, bind, ExceptT.bind, ExceptT.mk, StateT.bind, ExceptT.bindCont] using
        congrFun (ih acc) s'

/-- On a list the steps are those of the list. -/
@[simp] theorem foldItems_list (xs : List Value) (start : σ) (step : σ → Value → Act σ) :
    foldItems (.list xs) start step = xs.foldlM step start := scanList_raised step xs start

end

/-- A value, with a sequence read to its end into a list. -/
def settle : Value → Act Value
  | .iterator id => do
    let xs ← remaining id
    setSequence id []
    return .list xs
  | v => return v

/-- The items of a value, with a sequence read to its end. -/
def itemsOf (v : Value) : Act (List Value) := do return ← (← settle v).items

/-! ### Entries -/

/-- An item read as an entry of a map; an item that is a sequence itself is read to its end. -/
def entryIn (v : Value) : Act (Value × Value) := do return ← (← settle v).entryOf

/-- Entries with an item written into them that is read as an entry. -/
def writeEntry (es : Entries) (v : Value) : Act Entries := do
  let e ← entryIn v
  return es.set e.1 e.2

/-- Entries with those of a value written into them, up to the first item of the value that is
none, and why it is none. -/
def gatherEntries (es : Entries) : Value → Act (Entries × Option Fault)
  | .dict other => return (es.update other, none)
  | v => scanItems v es writeEntry

/-- Entries with all those of a value written into them. -/
def writtenOver (es : Entries) : Value → Act Entries
  | .dict other => return es.update other
  | v => foldItems v es writeEntry

/-- The entries of a value, each key once. -/
def entriesIn : Value → Act Entries
  | .dict es => return es
  | v => foldItems v [] writeEntry

@[simp] theorem entriesIn_dict (es : Entries) : entriesIn (.dict es) = pure es := rfl

@[simp] theorem writtenOver_dict (es other : Entries) :
    writtenOver es (.dict other) = pure (es.update other) := rfl

end SearchKit
