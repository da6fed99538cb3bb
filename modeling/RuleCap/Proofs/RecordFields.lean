import Mathlib.Data.List.Pairwise
import Mathlib.Data.List.Perm.Basic
import RuleCap.Json.Record
import RuleCap.Proofs.Fallible

/-!
# Records by their fields

A record is read by one slot for each of its fields (`Slot`): the name, what reads the value, and where the draft keeps
it. Slots of different fields do not get in each other's way (`Slotted.put_comm`), and a name without a slot changes
nothing (`Slotted.put_of_not_mem`). So entries of other names may be left out (`Slotted.foldlM_filter`), and the
entries of an object may stand in any order (`Slotted.fill_eq_ok_iff`); an array of the fields in order is read as an
object with these fields (`Slotted.read_array_iff_object`).
-/

namespace RuleCap.Json

/-- The name of a field, what reads its value, and where a draft keeps the value. -/
structure Slot (δ : Type) where
  name : Text
  Value : Type
  read : Json → Except DecodeFault Value
  set : Value → δ → δ

variable {δ α : Type}

/-- Reads a named value into the slot of its name, if there is one. -/
def putSlot : List (Slot δ) → Text → Json → δ → Except DecodeFault δ
  | [], _, _, d => .ok d
  | s :: slots, name, v, d =>
    if name = s.name then s.read v >>= fun a => .ok (s.set a d) else putSlot slots name v d

/-- Whether it makes no difference which of two slots is set first. -/
def Slot.Apart (s t : Slot δ) : Prop := ∀ a b d, s.set a (t.set b d) = t.set b (s.set a d)

instance : Std.Symm (@Slot.Apart δ) := ⟨fun _ _ h a b d => (h b a d).symm⟩

/-- A format that reads a record by slots, one for each field and apart from each other. -/
structure Slotted (f : RecordFormat δ α) (slots : List (Slot δ)) : Prop where
  put_eq : f.put = putSlot slots
  fields_eq : f.fields = slots.map (·.name)
  nodup : f.fields.Nodup
  apart : slots.Pairwise Slot.Apart

/-! ## One slot -/

section Slots

variable {slots : List (Slot δ)} {name : Text} {v : Json} {d : δ}

theorem putSlot_of_not_mem (h : name ∉ slots.map (·.name)) (v : Json) (d : δ) : putSlot slots name v d = .ok d := by
  induction slots with
  | nil => rfl
  | cons s slots ih =>
    rw [List.map_cons, List.mem_cons, not_or] at h
    rw [putSlot, if_neg h.1, ih h.2]

theorem putSlot_of_mem {s : Slot δ} (hs : s ∈ slots) (hnodup : (slots.map (·.name)).Nodup) (v : Json) (d : δ) :
    putSlot slots s.name v d = s.read v >>= fun a => .ok (s.set a d) := by
  induction slots with
  | nil => cases hs
  | cons t slots ih =>
    rw [List.map_cons, List.nodup_cons] at hnodup
    rcases List.mem_cons.mp hs with rfl | hs
    · rw [putSlot, if_pos rfl]
    · have hne : s.name ≠ t.name := fun he => hnodup.1 (he ▸ List.mem_map_of_mem hs)
      rw [putSlot, if_neg hne, ih hs hnodup.2]

end Slots

namespace Slotted

variable {f : RecordFormat δ α} {slots : List (Slot δ)} (h : Slotted f slots)

include h

/-- A name that the record does not know leaves the draft alone. -/
theorem put_of_not_mem {name : Text} (hname : name ∉ f.fields) (v : Json) (d : δ) : f.put name v d = .ok d := by
  rw [h.put_eq]
  exact putSlot_of_not_mem (h.fields_eq ▸ hname) v d

/-- A field that can be read goes into its slot. -/
theorem put_eq_ok_iff {s : Slot δ} (hs : s ∈ slots) {v : Json} {d d' : δ} :
    f.put s.name v d = .ok d' ↔ ∃ a, s.read v = .ok a ∧ d' = s.set a d := by
  rw [h.put_eq, putSlot_of_mem hs (h.fields_eq ▸ h.nodup), bind_eq_ok_iff]
  simp [eq_comm]

theorem exists_slot {name : Text} (hname : name ∈ f.fields) : ∃ s ∈ slots, s.name = name := by
  rw [h.fields_eq] at hname
  exact List.mem_map.mp hname

/-- Two entries with different names may change places. -/
theorem put_comm {e e' : Text × Json} (hne : e.1 ≠ e'.1) {d d' : δ}
    (hput : (f.put e.1 e.2 d >>= f.put e'.1 e'.2) = .ok d') : (f.put e'.1 e'.2 d >>= f.put e.1 e.2) = .ok d' := by
  by_cases he : e.1 ∈ f.fields
  · by_cases he' : e'.1 ∈ f.fields
    · obtain ⟨s, hs, hname⟩ := h.exists_slot he
      obtain ⟨t, ht, hname'⟩ := h.exists_slot he'
      have hapart : s.Apart t := by
        refine h.apart.forall hs ht ?_
        rintro rfl
        exact hne (hname.symm.trans hname')
      obtain ⟨d₁, hd₁, hd'⟩ := bind_eq_ok_iff.mp hput
      rw [← hname, h.put_eq_ok_iff hs] at hd₁
      rw [← hname', h.put_eq_ok_iff ht] at hd'
      obtain ⟨a, ha, rfl⟩ := hd₁
      obtain ⟨b, hb, rfl⟩ := hd'
      refine bind_eq_ok_iff.mpr ⟨t.set b d, ?_, ?_⟩
      · rw [← hname', h.put_eq_ok_iff ht]
        exact ⟨b, hb, rfl⟩
      · rw [← hname, h.put_eq_ok_iff hs]
        exact ⟨a, ha, (hapart a b d).symm⟩
    · obtain ⟨d₁, hd₁, hd'⟩ := bind_eq_ok_iff.mp hput
      rw [h.put_of_not_mem he', Except.ok.injEq] at hd'
      exact bind_eq_ok_iff.mpr ⟨d, h.put_of_not_mem he' _ _, hd' ▸ hd₁⟩
  · obtain ⟨d₁, hd₁, hd'⟩ := bind_eq_ok_iff.mp hput
    rw [h.put_of_not_mem he, Except.ok.injEq] at hd₁
    subst hd₁
    exact bind_eq_ok_iff.mpr ⟨d', hd', h.put_of_not_mem he _ _⟩

/-! ## All entries -/

/-- The draft with the values of some entries, each read by the slot of its name. -/
theorem foldlM_cons {s : Slot δ} (hs : s ∈ slots) {v : Json} {a : s.Value} (hread : s.read v = .ok a)
    (entries : List (Text × Json)) (d : δ) :
    ((s.name, v) :: entries).foldlM (fun d e => f.put e.1 e.2 d) d =
      entries.foldlM (fun d e => f.put e.1 e.2 d) (s.set a d) := by
  rw [List.foldlM_cons, (h.put_eq_ok_iff hs).mpr ⟨a, hread, rfl⟩]
  rfl

/-- Entries of other names do not count. -/
theorem foldlM_filter (entries : List (Text × Json)) (d : δ) :
    (entries.filter (·.1 ∈ f.fields)).foldlM (fun d e => f.put e.1 e.2 d) d =
      entries.foldlM (fun d e => f.put e.1 e.2 d) d := by
  induction entries generalizing d with
  | nil => rfl
  | cons e entries ih =>
    by_cases he : e.1 ∈ f.fields
    · rw [List.filter_cons_of_pos (by simpa using he), List.foldlM_cons, List.foldlM_cons]
      exact congrArg _ (funext ih)
    · rw [List.filter_cons_of_neg (by simpa using he), List.foldlM_cons, h.put_of_not_mem he, ih]
      rfl

/-- The order of entries with different names does not count. -/
theorem foldlM_perm {entries entries' : List (Text × Json)} (hp : entries.Perm entries')
    (hnodup : (entries.map (·.1)).Nodup) {d d' : δ}
    (hfill : entries.foldlM (fun d e => f.put e.1 e.2 d) d = .ok d') :
    entries'.foldlM (fun d e => f.put e.1 e.2 d) d = .ok d' := by
  induction hp generalizing d with
  | nil => exact hfill
  | cons e hp ih =>
    rw [List.foldlM_cons, bind_eq_ok_iff] at hfill ⊢
    obtain ⟨d₁, hd₁, hfill⟩ := hfill
    exact ⟨d₁, hd₁, ih (List.nodup_cons.mp hnodup).2 hfill⟩
  | swap e e' rest =>
    have hne : e'.1 ≠ e.1 := by
      have hfirst := (List.nodup_cons.mp hnodup).1
      exact fun he => hfirst (List.mem_cons.mpr (Or.inl he))
    rw [List.foldlM_cons, bind_eq_ok_iff] at hfill
    obtain ⟨d₁, hd₁, hfill⟩ := hfill
    rw [List.foldlM_cons, bind_eq_ok_iff] at hfill
    obtain ⟨d₂, hd₂, hfill⟩ := hfill
    obtain ⟨d₃, hd₃, hd₄⟩ := bind_eq_ok_iff.mp (h.put_comm hne (bind_eq_ok_iff.mpr ⟨d₁, hd₁, hd₂⟩))
    rw [List.foldlM_cons, bind_eq_ok_iff]
    refine ⟨d₃, hd₃, ?_⟩
    rw [List.foldlM_cons, bind_eq_ok_iff]
    exact ⟨d₂, hd₄, hfill⟩
  | trans hp hp' ih ih' =>
    exact ih' ((hp.map _).nodup_iff.mp hnodup) (ih hnodup hfill)

/-- What only one slot sets stays as it is without an entry of its name. -/
theorem get_of_absent {β : Type} (get : δ → β) {name : Text}
    (hkeeps : ∀ s ∈ slots, s.name ≠ name → ∀ a d, get (s.set a d) = get d) {entries : List (Text × Json)}
    (habsent : name ∉ entries.map (·.1)) {d d' : δ}
    (hfill : entries.foldlM (fun d e => f.put e.1 e.2 d) d = .ok d') : get d' = get d := by
  induction entries generalizing d with
  | nil =>
    cases hfill
    rfl
  | cons e entries ih =>
    rw [List.map_cons, List.mem_cons, not_or] at habsent
    rw [List.foldlM_cons, bind_eq_ok_iff] at hfill
    obtain ⟨d₁, hd₁, hfill⟩ := hfill
    rw [ih habsent.2 hfill]
    by_cases he : e.1 ∈ f.fields
    · obtain ⟨s, hs, hname⟩ := h.exists_slot he
      rw [← hname, h.put_eq_ok_iff hs] at hd₁
      obtain ⟨a, -, rfl⟩ := hd₁
      exact hkeeps s hs (fun heq => habsent.1 (heq.symm.trans hname)) a d
    · rw [h.put_of_not_mem he, Except.ok.injEq] at hd₁
      rw [hd₁]

/-- What an object of some fields fills in, and of others. -/
theorem fill_eq_ok_iff {entries fields : List (Text × Json)} (hnodup : (fields.map (·.1)).Nodup)
    (hp : (entries.filter (·.1 ∈ f.fields)).Perm fields) {d : δ} : f.fill entries = .ok d ↔ f.fill fields = .ok d := by
  unfold RecordFormat.fill
  rw [← h.foldlM_filter entries]
  exact ⟨h.foldlM_perm hp ((hp.map _).nodup_iff.mpr hnodup), h.foldlM_perm hp.symm hnodup⟩

omit h in
/-- The names of the fields that an array has values for. -/
theorem map_fst_zip_sublist (names : List Text) (items : List Json) :
    ((names.zip items).map (·.1)).Sublist names := by
  induction names generalizing items with
  | nil => exact List.nil_sublist _
  | cons name names ih =>
    cases items with
    | nil => exact List.nil_sublist _
    | cons v items => exact (ih items).cons_cons name

/-- **An array of fields is read as an object of these fields**, whatever their order there and whatever else it
holds. -/
theorem read_array_iff_object {items : List Json} {entries : List (Text × Json)} {a : α}
    (hlen : items.length ≤ f.fields.length) (hall : f.optional = true ∨ items.length = f.fields.length)
    (hp : (entries.filter (·.1 ∈ f.fields)).Perm (f.fields.zip items)) :
    f.read (.array items) = .ok a ↔ f.read (.object entries) = .ok a := by
  have hnames : ((f.fields.zip items).map (·.1)).Nodup := (map_fst_zip_sublist f.fields items).nodup h.nodup
  have hcomplete : ¬(items.length < f.fields.length ∧ ¬f.optional = true) := by
    rintro ⟨hshort, hneeded⟩
    exact hall.elim hneeded (by omega)
  have harray : f.read (.array items) = f.fill (f.fields.zip items) >>= f.finish := by
    unfold RecordFormat.read RecordFormat.readArray
    simp only [if_neg (Nat.not_lt.mpr hlen), if_neg hcomplete]
  have hobject : f.read (.object entries) = f.fill entries >>= f.finish := rfl
  rw [harray, hobject, bind_eq_ok_iff, bind_eq_ok_iff]
  simp only [h.fill_eq_ok_iff hnames hp]

end Slotted

end RuleCap.Json
