import RuleCap.Json.Listing
import RuleCap.Json.Settings
import RuleCap.Proofs.InstantText
import RuleCap.Proofs.RecordFields
import RuleCap.Proofs.WrittenLimits

/-!
# Records in JSON

What every kind of record keeps to (`RoundTrips`): what is written is read back, writing what was read changes nothing,
and the fields in order are read as the object of these fields. The last comes from the slots of a record alone, the
first from the round trips of its values: limits, instants, texts and counts.

Main statement: `records_read_back`.
-/

namespace RuleCap

open Json (Slot Slotted RecordFormat readTexts readCount readInstant)

/-! ## Values of fields -/

namespace Json

theorem readTexts_ofTexts (ts : List Text) : readTexts (ofTexts ts) = .ok ts := by
  rw [ofTexts, readTexts]
  induction ts with
  | nil => rfl
  | cons t ts ih =>
    rw [List.map_cons, List.mapM_cons, ih]
    rfl

theorem readInstant_write (i : Instant) : readInstant (.string (Rfc3339.write i)) = .ok i := by
  rw [readInstant, Rfc3339.read?_write]
  rfl

end Json

theorem Limit.ofJson_toJson (l : Limit) : Limit.ofJson l.toJson = .ok l := by
  have hread : Numeral.ofJson l.toJson = .ok (.ofInt l.value) :=
    Numeral.ofJson_toJson (Numeral.canonical_ofInt l.value)
  rw [Limit.ofJson, hread]
  exact congrArg (fun v => Except.ok (Limit.mk v)) (Numeral.value_ofInt l.value)

/-! ## Records -/

/-- **What a kind of record keeps to**: its fields, how many of them an array has to have, its writer and its reader. -/
structure RoundTrips {α : Type} (fields : List Text) (least : Nat) (write : α → Json)
    (read : Json → Except DecodeFault α) : Prop where
  /-- What is written is read back. -/
  read_write : ∀ a, read (write a) = .ok a
  /-- Writing what was read, and reading that, changes nothing. -/
  read_write_read : ∀ v, (read v >>= fun a => read (write a)) = read v
  /-- An array of the first fields is read as any object that has these fields and no others of the record. -/
  array_iff_object : ∀ (items : List Json) (entries : List (Text × Json)) (a : α), least ≤ items.length →
    items.length ≤ fields.length → (entries.filter (·.1 ∈ fields)).Perm (fields.zip items) →
    (read (.array items) = .ok a ↔ read (.object entries) = .ok a)

/-- A record that is read by slots keeps to that if it is read back. -/
theorem RoundTrips.of_slotted {δ α : Type} {f : RecordFormat δ α} {slots : List (Slot δ)} (h : Slotted f slots)
    {least : Nat} (hleast : f.optional = true ∨ least = f.fields.length) {write : α → Json}
    (hwrite : ∀ a, f.read (write a) = .ok a) : RoundTrips f.fields least write f.read where
  read_write := hwrite
  read_write_read v := by
    cases hread : f.read v with
    | error fault => rfl
    | ok a => exact hwrite a
  array_iff_object items entries a hlow hhigh hp :=
    h.read_array_iff_object hhigh (hleast.imp_right fun he => by omega) hp

namespace Settings

/-- The fields of settings. -/
def slots : List (Slot Draft) :=
  [⟨limitField, Limit, Limit.ofJson, fun l d => { d with limit := some l }⟩,
    ⟨prefixesField, Prefixes, readTexts, fun ps d => { d with prefixes := some ps }⟩]

theorem slotted : Slotted format slots where
  put_eq := rfl
  fields_eq := rfl
  nodup := by decide
  apart := by simp [slots, Slot.Apart]

theorem ofJson_toJson (s : Settings) : ofJson s.toJson = .ok s := by
  refine bind_eq_ok_iff.mpr ⟨⟨some s.limit, some s.prefixes⟩, ?_, rfl⟩
  exact (slotted.foldlM_cons (.tail _ (.head _)) (Json.readTexts_ofTexts s.prefixes) _ _).trans
    (slotted.foldlM_cons (.head _) s.limit.ofJson_toJson _ _)

/-- What an object does not set has its default. -/
theorem default_of_absent {entries : List (Text × Json)} {s : Settings} (h : ofJson (.object entries) = .ok s) :
    (limitField ∉ entries.map (·.1) → s.limit = Limit.default) ∧
      (prefixesField ∉ entries.map (·.1) → s.prefixes = defaultPrefixes) := by
  obtain ⟨draft, hfill, hfinish⟩ := bind_eq_ok_iff.mp h
  cases hfinish
  constructor
  · intro habsent
    have hlimit : draft.limit = none := slotted.get_of_absent Draft.limit (by simp [slots]) habsent hfill
    rw [Draft.toSettings, hlimit]
    rfl
  · intro habsent
    have hprefixes : draft.prefixes = none := slotted.get_of_absent Draft.prefixes (by simp [slots]) habsent hfill
    rw [Draft.toSettings, hprefixes]
    rfl

end Settings

namespace Marker

/-- The fields of a marker. -/
def slots : List (Slot Draft) :=
  [⟨limitField, Limit, Limit.ofJson, fun l d => { d with limit := some l }⟩,
    ⟨trimmedAtField, Instant, readInstant, fun i d => { d with trimmedAt := some i }⟩]

theorem slotted : Slotted format slots where
  put_eq := rfl
  fields_eq := rfl
  nodup := by decide
  apart := by simp [slots, Slot.Apart]

theorem ofJson_toJson (m : Marker) : ofJson m.toJson = .ok m := by
  refine bind_eq_ok_iff.mpr ⟨⟨some m.limit, some m.trimmedAt⟩, ?_, rfl⟩
  exact (slotted.foldlM_cons (.head _) m.limit.ofJson_toJson _ _).trans
    (slotted.foldlM_cons (.tail _ (.head _)) (Json.readInstant_write m.trimmedAt) _ _)

end Marker

namespace Tally

/-- The fields of a tally. -/
def slots : List (Slot Draft) :=
  [⟨headerLinesField, Nat, readCount, fun n d => { d with headerLines := some n }⟩,
    ⟨rulesFoundField, Nat, readCount, fun n d => { d with rulesFound := some n }⟩,
    ⟨rulesKeptField, Nat, readCount, fun n d => { d with rulesKept := some n }⟩,
    ⟨rulesDiscardedField, Nat, readCount, fun n d => { d with rulesDiscarded := some n }⟩,
    ⟨bodyLinesDroppedField, Nat, readCount, fun n d => { d with bodyLinesDropped := some n }⟩]

theorem slotted : Slotted format slots where
  put_eq := rfl
  fields_eq := rfl
  nodup := by decide
  apart := by simp [slots, Slot.Apart]

theorem ofJson_toJson (t : Tally) : ofJson t.toJson = .ok t := rfl

end Tally

namespace Listing

/-- The fields of a listing. -/
def slots : List (Slot Draft) :=
  [⟨headerField, List Text, readTexts, fun ts d => { d with header := some ts }⟩,
    ⟨bodyField, List Text, readTexts, fun ts d => { d with body := some ts }⟩]

theorem slotted : Slotted format slots where
  put_eq := rfl
  fields_eq := rfl
  nodup := by decide
  apart := by simp [slots, Slot.Apart]

theorem ofJson_toJson (l : Listing) : ofJson l.toJson = .ok l := by
  refine bind_eq_ok_iff.mpr ⟨⟨some l.header, some l.body⟩, ?_, rfl⟩
  exact (slotted.foldlM_cons (.tail _ (.head _)) (Json.readTexts_ofTexts l.body) _ _).trans
    (slotted.foldlM_cons (.head _) (Json.readTexts_ofTexts l.header) _ _)

end Listing

namespace Trimmed

/-- The fields of a trimmed list. -/
def slots : List (Slot Draft) :=
  [⟨headerField, List Text, readTexts, fun ts d => { d with header := some ts }⟩,
    ⟨markerField, Marker, Marker.ofJson, fun m d => { d with marker := some m }⟩,
    ⟨rulesField, List Text, readTexts, fun ts d => { d with rules := some ts }⟩]

theorem slotted : Slotted format slots where
  put_eq := rfl
  fields_eq := rfl
  nodup := by decide
  apart := by simp [slots, Slot.Apart]

theorem ofJson_toJson (t : Trimmed) : ofJson t.toJson = .ok t := by
  refine bind_eq_ok_iff.mpr ⟨⟨some t.header, some t.marker, some t.rules⟩, ?_, rfl⟩
  exact ((slotted.foldlM_cons (.head _) (Json.readTexts_ofTexts t.header) _ _).trans
    (slotted.foldlM_cons (.tail _ (.head _)) t.marker.ofJson_toJson _ _)).trans
    (slotted.foldlM_cons (.tail _ (.tail _ (.head _))) (Json.readTexts_ofTexts t.rules) _ _)

end Trimmed

/-- **Records of every kind are read back.** What is written is read again, for all limits, all instants, all texts and
all counts; writing what was read changes nothing; and an array of the fields in order is read as any object with these
fields, in any order and with unknown keys beside them. Settings may lack fields, an array the last ones and an object
any: these have their defaults. -/
theorem records_read_back :
    RoundTrips Settings.format.fields 0 Settings.toJson Settings.ofJson ∧
      RoundTrips Marker.format.fields 2 Marker.toJson Marker.ofJson ∧
      RoundTrips Tally.format.fields 5 Tally.toJson Tally.ofJson ∧
      RoundTrips Listing.format.fields 2 Listing.toJson Listing.ofJson ∧
      RoundTrips Trimmed.format.fields 3 Trimmed.toJson Trimmed.ofJson ∧
      ∀ (entries : List (Text × Json)) (s : Settings), Settings.ofJson (.object entries) = .ok s →
        (Settings.limitField ∉ entries.map (·.1) → s.limit = Limit.default) ∧
          (Settings.prefixesField ∉ entries.map (·.1) → s.prefixes = Settings.defaultPrefixes) :=
  ⟨.of_slotted Settings.slotted (Or.inl rfl) Settings.ofJson_toJson,
    .of_slotted Marker.slotted (Or.inr rfl) Marker.ofJson_toJson,
    .of_slotted Tally.slotted (Or.inr rfl) Tally.ofJson_toJson,
    .of_slotted Listing.slotted (Or.inr rfl) Listing.ofJson_toJson,
    .of_slotted Trimmed.slotted (Or.inr rfl) Trimmed.ofJson_toJson,
    fun _ _ => Settings.default_of_absent⟩

/-- A limit alone, as an array of one and beside an unknown key: the prefixes have their default. -/
theorem settings_of_limit_read_back :
    let entries : List (Text × Json) := [("comment".toList, .null), (Settings.limitField, .int 5)]
    let settings : Settings := ⟨⟨5⟩, Settings.defaultPrefixes⟩
    (entries.filter (·.1 ∈ Settings.format.fields)).Perm (Settings.format.fields.zip [.int 5]) ∧
      Settings.ofJson (.object entries) = .ok settings ∧ Settings.ofJson (.array [.int 5]) = .ok settings ∧
      Settings.prefixesField ∉ entries.map (·.1) ∧ settings.prefixes = Settings.defaultPrefixes := by
  intro entries settings
  have hfields : (entries.filter (·.1 ∈ Settings.format.fields)).Perm (Settings.format.fields.zip [.int 5]) :=
    List.Perm.of_eq rfl
  have hobject : Settings.ofJson (.object entries) = .ok settings := rfl
  have habsent : Settings.prefixesField ∉ entries.map (·.1) := by decide
  obtain ⟨hsettings, -, -, -, -, hdefault⟩ := records_read_back
  have harray := (hsettings.array_iff_object [.int 5] entries settings (Nat.zero_le _) (by decide) hfields).mpr hobject
  exact ⟨hfields, hobject, harray, habsent, (hdefault entries settings hobject).2 habsent⟩

end RuleCap
