import SearchKit.Proofs.Session.Reading
import SearchKit.Result.Hits

/-!
# The identifiers of hits

The hits of a result are named in two ways.  An application is handed their identifiers as they
are, null where one is missing; a source of records is asked for the texts of the identifiers, and
then every hit has to have one.  Whoever puts the records beside the identifiers relies on both
naming the same hits.

They are read apart from each other, and each asks in its own way whether there are hits at all and
what a hit is.  They still agree: a result that is no map, and an entry of hits that is missing,
null or empty, name nothing in both; and a hit that is no map is a fault in both, though not the
same one.  Two hits set them apart: a map without an identifier is null among the identifiers and a
fault among the texts, and so is an identifier that is too long to be written.  A sequence of hits
can be read once only, so of two readings one after the other the second meets no hits.

* `identifier`, `Identified` : the identifier of a hit, and a hit that has one.
* `hitKey_of_identified`, `identified_of_hitKey` : one hit.
* `mapM_hitKey_eq_ok_iff` : a list of hits, from `mapM_hitKey_of_identified`.
* `hitIds_eq_ok_iff`, `hitKeys_eq_ok_iff` : the hits of a result, with `hitKeys_outcome` where each
  of them has an identifier.
* `hitKeys_iff_hitIds` : **both name the same hits**, whatever the result, as far as they can be
  written.
-/

namespace SearchKit

open Act

variable {s s₁ : Session} {results hit id : Value} {hits ids : List Value} {keys : List String}

/-! ### One hit -/

/-- The identifier of a hit, null where it has none. -/
def identifier : Value → Value
  | .dict es => (Assoc.field? "_id" es).getD .null
  | _ => .null

/-- A hit with an identifier. -/
def Identified (hit : Value) : Prop := ∃ es id, hit = .dict es ∧ Assoc.field? "_id" es = some id

theorem hitId_eq_ok_iff : hitId hit = .ok id ↔
    ∃ es, hit = .dict es ∧ id = (Assoc.field? "_id" es).getD .null := by
  cases hit <;> simp [hitId, eq_comm]

theorem hitId_of_identified (h : Identified hit) : hitId hit = .ok (identifier hit) := by
  obtain ⟨es, id, rfl, -⟩ := h
  rfl

theorem hitKey_of_identified (h : Identified hit) : hitKey hit = (identifier hit).spell := by
  obtain ⟨es, id, rfl, hid⟩ := h
  simp [hitKey, identifier, hid]

/-- Only a hit with an identifier has a text of it. -/
theorem identified_of_hitKey {key : String} (h : hitKey hit = .ok key) : Identified hit := by
  unfold hitKey at h
  split at h
  · rename_i es
    cases hid : Assoc.field? "_id" es with
    | none => rw [hid] at h; cases h
    | some id => exact ⟨es, id, rfl, hid⟩
  · cases h

/-! ### The hits of a result -/

theorem mapM_hitKey_of_identified (h : ∀ hit ∈ hits, Identified hit) :
    hits.mapM hitKey = (hits.map identifier).mapM Value.spell := by
  refine mapM_congr_of_forall₂ (List.forall₂_map_right_iff.2 (List.forall₂_same.2 fun hit hhit => ?_))
  exact hitKey_of_identified (h hit hhit)

/-- There are texts for some hits exactly if all of these have identifiers that can be written. -/
theorem mapM_hitKey_eq_ok_iff : hits.mapM hitKey = .ok keys ↔
    (∀ hit ∈ hits, Identified hit) ∧ ∃ ids, hits.mapM hitId = .ok ids ∧
      (∀ id ∈ ids, id.hasText = true) ∧ keys = ids.map Value.text := by
  have hids : (∀ hit ∈ hits, Identified hit) → hits.mapM hitId = .ok (hits.map identifier) :=
    fun hall => mapM_of_forall_ok fun hit hhit => hitId_of_identified (hall hit hhit)
  constructor
  · intro hkeys
    have hall : ∀ hit ∈ hits, Identified hit := fun hit hhit => by
      obtain ⟨key, -, hkey⟩ := exists_mem_of_forall₂_left (mapM_eq_ok_iff.1 hkeys) hhit
      exact identified_of_hitKey hkey
    rw [mapM_hitKey_of_identified hall] at hkeys
    exact ⟨hall, _, hids hall, Value.mapM_spell_eq_ok_iff.1 hkeys⟩
  · rintro ⟨hall, ids, hnamed, htexts⟩
    obtain rfl : hits.map identifier = ids := Except.ok.inj ((hids hall).symm.trans hnamed)
    rw [mapM_hitKey_of_identified hall]
    exact Value.mapM_spell_eq_ok_iff.2 htexts

theorem hitIds_eq_ok_iff : (hitIds results).outcome s = (.ok ids, s₁) ↔
    ∃ hits, (itemsOf (listedHits results)).outcome s = (.ok hits, s₁) ∧
      hits.mapM hitId = .ok ids :=
  mapItems_eq_ok_iff fun _ _ => rfl

theorem hitKeys_eq_ok_iff : (hitKeys results).outcome s = (.ok keys, s₁) ↔
    ∃ hits, (itemsOf (listedHits results)).outcome s = (.ok hits, s₁) ∧
      hits.mapM hitKey = .ok keys := by
  rw [hitKeys_eq_mapItems]
  exact mapItems_eq_ok_iff fun _ _ => rfl

/-- The texts for hits that all have identifiers.  Where one of these cannot be written, hits after
it may be left unread. -/
theorem hitKeys_outcome (hhits : (itemsOf (listedHits results)).outcome s = (.ok hits, s₁))
    (hids : ∀ hit ∈ hits, Identified hit) :
    ∃ s₂, (hitKeys results).outcome s = ((hits.map identifier).mapM Value.spell, s₂) ∧
      s₂.trace = s₁.trace ∧ ((∀ id ∈ hits.map identifier, id.hasText = true) → s₂ = s₁) := by
  have hstep : ∀ hit s, Act.outcome (do return ← hitKey hit) s = (hitKey hit, s) :=
    fun _ _ => rfl
  obtain ⟨s₂, hkeys, htrace, hread⟩ := mapItems_outcome hstep hhits
  rw [mapM_hitKey_of_identified hids] at hkeys hread
  rw [hitKeys_eq_mapItems]
  exact ⟨s₂, hkeys, htrace, fun hall => hread _ (Value.mapM_spell_eq_ok_iff.2 ⟨hall, rfl⟩)⟩

/-- **The texts name the same hits as the identifiers.**  Whatever a result is and whatever it lists
as hits, it has identifiers exactly if its hits can be read and each is a map: one for each hit, in
order, null where the hit has none.  Read in its place, it has texts exactly if it has identifiers,
no hit is without one and none of them is too long to be written: one text for each identifier, in
the same order, the text of that.  So the texts are none exactly where the identifiers are none. -/
theorem hitKeys_iff_hitIds (results : Value) (s : Session) :
    let read := (itemsOf (listedHits results)).outcome s
    let named := (hitIds results).outcome s
    let texts := (hitKeys results).outcome s
    (∀ ids s₁, named = (.ok ids, s₁) ↔ ∃ hits, read = (.ok hits, s₁) ∧
      List.Forall₂ (fun hit id => ∃ es, hit = .dict es ∧ id = (Assoc.field? "_id" es).getD .null)
        hits ids) ∧
    (∀ keys s₁, texts = (.ok keys, s₁) ↔ ∃ hits ids, read = (.ok hits, s₁) ∧
      named = (.ok ids, s₁) ∧ (∀ hit ∈ hits, Identified hit) ∧ (∀ id ∈ ids, id.hasText = true) ∧
      keys = ids.map Value.text) ∧
    ∀ s₁, texts = (.ok [], s₁) ↔ named = (.ok [], s₁) := by
  intro read named texts
  refine ⟨fun ids s₁ => ?_, fun keys s₁ => ⟨fun hkeys => ?_, ?_⟩, fun s₁ => ?_⟩
  · have hnamed : named = (.ok ids, s₁) ↔ _ := hitIds_eq_ok_iff
    simp only [hnamed, mapM_eq_ok_iff, hitId_eq_ok_iff, read]
  · obtain ⟨hits, hhits, hmapM⟩ := hitKeys_eq_ok_iff.1 hkeys
    obtain ⟨hidentified, ids, hids, htexts⟩ := mapM_hitKey_eq_ok_iff.1 hmapM
    exact ⟨hits, ids, hhits, hitIds_eq_ok_iff.2 ⟨hits, hhits, hids⟩, hidentified, htexts⟩
  · rintro ⟨hits, ids, hhits, hnamed, hidentified, htexts⟩
    -- both readings meet the same hits
    obtain ⟨hits', hhits', hids⟩ := hitIds_eq_ok_iff.1 hnamed
    obtain rfl : hits = hits' := by
      have hsame : read = (.ok hits', s₁) := hhits'
      rw [hhits] at hsame
      simpa using hsame
    exact hitKeys_eq_ok_iff.2
      ⟨hits, hhits, mapM_hitKey_eq_ok_iff.2 ⟨hidentified, ids, hids, htexts⟩⟩
  · have htexts : texts = (.ok [], s₁) ↔ _ := hitKeys_eq_ok_iff
    have hnamed : named = (.ok [], s₁) ↔ _ := hitIds_eq_ok_iff
    simp only [htexts, hnamed, mapM_eq_ok_iff, List.forall₂_nil_right_iff]

/-- A hit whose identifier has a digit too many to be written. -/
def longHit : Value := single "_id" (.int (.ofNat (Nat.pow 10 4300)))

/-- A session with a sequence of the hits `1` and `b`. -/
def Session.ofTwoHits : Session where
  sequences := [.items [single "_id" (.int 1), single "_id" (.str "b")]]

theorem hasText_longHit : (identifier longHit).hasText = false := by
  have hid : identifier longHit = .int (.ofNat (Nat.pow 10 4300)) := rfl
  rw [hid, Value.hasText_int]
  exact hasNumeral_of_pow_le (Nat.le_refl _)

/-- A hit whose identifier is too long to be written is named by the one reading and fails the
other; and a sequence of hits that the one reading has used up names nothing in the other. -/
theorem hitKeys_fails_on_named_hit :
    (hitIds (single "hits" (.list [longHit]))).outcome {} = (.ok [.int (.ofNat (Nat.pow 10 4300))], {}) ∧
    Identified longHit ∧
    (∃ s', (hitKeys (single "hits" (.list [longHit]))).outcome {} =
      (.error (.misuse .badValue), s')) ∧
    ∃ s', (hitIds (single "hits" (.iterator 0))).outcome .ofTwoHits =
        (.ok [.int 1, .str "b"], s') ∧
      (hitKeys (single "hits" (.iterator 0))).outcome s' = (.ok [], s') := by
  have hidentified : Identified longHit := ⟨_, _, rfl, rfl⟩
  refine ⟨rfl, hidentified, ?_, _, rfl, rfl⟩
  have hhits : (itemsOf (listedHits (single "hits" (.list [longHit])))).outcome {} =
      (.ok [longHit], {}) := rfl
  obtain ⟨s', hkeys, -, -⟩ := hitKeys_outcome hhits (List.forall_mem_singleton.2 hidentified)
  rw [List.map_singleton, Value.mapM_spell_of_not_hasText
    ⟨_, List.mem_singleton_self _, hasText_longHit⟩] at hkeys
  exact ⟨s', hkeys⟩

/-- A hit without an identifier. -/
example :
    let results := single "hits" (.list [single "_id" (.int 1), .dict []])
    (hitIds results).outcome {} = (.ok [.int 1, .null], {}) ∧
      (hitKeys results).outcome {} = (.error (.misuse .noKey), {}) :=
  ⟨rfl, rfl⟩

end SearchKit
