import RecordStore.Proofs.Record.Reading

/-! Encoding and decoding of whole records: what was encoded under an id decodes to the record
under that id, but for the signs of floating point zeros. -/
namespace RecordStore

open Buffer

namespace Record

variable {types : List FieldType}

/-- The record as it is read back: floating point zeros lose their sign. -/
def normalized (r : Record types) : Record types where
  values := r.values.map Value.normalized
  typed := by
    rw [List.map_map, show Value.type ∘ Value.normalized = Value.type from
      funext Value.type_normalized]
    exact r.typed

@[simp] theorem values_normalized (r : Record types) :
    r.normalized.values = r.values.map Value.normalized := rfl

theorem ext {r r' : Record types} (h : r.values = r'.values) : r = r' := by
  cases r
  cases r'
  cases h
  rfl

@[simp] theorem normalized_normalized (r : Record types) :
    r.normalized.normalized = r.normalized := by
  apply ext
  simp

theorem read_eq {table : Table} {fields : List BoundField}
    {r : Record (fields.map BoundField.type)}
    (h : fields.map (fun f => f.type.read table f.property.directoryOffset) = r.values.map .ok) :
    Record.read table fields = .ok r := by
  induction fields with
  | nil =>
    have hr : r.values = [] := by simpa using h.symm
    rw [Record.read]
    exact congrArg Except.ok (Record.ext hr.symm)
  | cons f fields ih =>
    obtain ⟨values, typed⟩ := r
    cases values with
    | nil => simp at h
    | cons v values =>
      simp only [List.map_cons, List.cons.injEq] at h typed
      have hrest := @ih ⟨values, typed.2⟩ h.2
      rw [Record.read]
      split
      · next e he =>
        rw [h.1] at he
        cases he
      · next w hw =>
        have hv : v = w := by
          rw [h.1] at hw
          exact Except.ok.inj hw
        rw [hrest]
        exact congrArg Except.ok (Record.ext (by simp [Record.cons, hv]))

/-- The values of a record that was read are what its fields read. -/
theorem of_read {table : Table} {fields : List BoundField}
    {r : Record (fields.map BoundField.type)} (h : Record.read table fields = .ok r) :
    fields.map (fun f => f.type.read table f.property.directoryOffset) = r.values.map .ok := by
  induction fields with
  | nil =>
    cases h
    rfl
  | cons f fields ih =>
    rw [Record.read] at h
    split at h
    · cases h
    · next v hv =>
      obtain ⟨rest, hrest, rfl⟩ := map_eq_ok.mp h
      rw [List.map_cons, ih hrest]
      exact congrArg (· :: rest.values.map .ok) hv

end Record

namespace Property

variable {p : Property} {i : Nat}

/-- Slots are places, as far as the directory of a table reaches. -/
theorem toNat_slot (hs : p.slot = UInt16.ofNat (min i 65535))
    (hi : directoryHeaderSize + 2 * i < UInt16.size) : p.slot.toNat = i := by
  simp only [directoryHeaderSize, UInt16.size] at hi
  rw [hs, show min i 65535 = i by omega]
  exact UInt16.toNat_ofNat_of_lt' (by simp only [UInt16.size]; omega)

theorem toNat_directoryOffset (hs : p.slot = UInt16.ofNat (min i 65535))
    (hi : directoryHeaderSize + 2 * i < UInt16.size) :
    p.directoryOffset.toNat = directoryHeaderSize + 2 * i := by
  have hslot := toNat_slot hs hi
  simp only [directoryHeaderSize, UInt16.size] at hi
  rw [directoryOffset, hslot, show min (4 + min (2 * i) 65535) 65535 = 4 + 2 * i by omega]
  exact UInt16.toNat_ofNat_of_lt' (by simp only [UInt16.size]; omega)

end Property

/-- Every field has the slot of its place, there is a slot for each of them, and one field is the
identifier. -/
structure Binding.WellFormed (b : Binding) : Prop where
  slot_eq : ∀ {i f}, b.fields[i]? = some f → f.property.slot = UInt16.ofNat (min i 65535)
  length_le : b.fields.length ≤ b.entity.slotCount.toNat
  identifier_type : ∀ {f}, f ∈ b.fields → f.property.isIdentifier = true → f.type = .u64
  isIdentifier_iff : ∀ {i f}, b.fields[i]? = some f →
    (f.property.isIdentifier = true ↔ i = b.identifierIndex)
  identifierIndex_lt : b.identifierIndex < b.fields.length

namespace Binding

variable {b : Binding} {r : Record b.types} {id : UInt64}

theorem length_values (r : Record b.types) : r.values.length = b.fields.length := by
  rw [r.length_values, types, List.length_map]

theorem type_value {i : Nat} {f : BoundField} {v : Value} (hf : b.fields[i]? = some f)
    (hv : r.values[i]? = some v) : v.type = f.type := by
  have ht := congrArg (fun types : List FieldType => types[i]?) r.typed
  simpa [types, hf, hv] using ht

theorem payload?_stored (h : b.WellFormed) {i : Nat} {f : BoundField} {v : Value}
    (hf : b.fields[i]? = some f) (hv : r.values[i]? = some v) :
    (stored id f v).payload? = v.payload? := by
  by_cases he : f.property.isIdentifier
  · have ht := type_value hf hv
    rw [h.identifier_type (List.mem_of_getElem? hf) he] at ht
    rw [stored, if_pos he]
    cases v with
    | u64 _ => rfl
    | _ => cases ht
  · rw [stored, if_neg he]

theorem values_setId (h : b.WellFormed) (r : Record b.types) (id : UInt64) :
    (b.setId r id).values = List.zipWith (stored id) b.fields r.values := by
  apply List.ext_getElem?
  intro i
  rw [setId, Record.set, List.getElem?_modify, List.getElem?_zipWith]
  cases hf : b.fields[i]? with
  | none =>
    have hv : r.values[i]? = none := by
      rw [List.getElem?_eq_none_iff, length_values]
      exact List.getElem?_eq_none_iff.mp hf
    simp [hv]
  | some f =>
    cases hv : r.values[i]? with
    | none => rfl
    | some v =>
      have hi := h.isIdentifier_iff hf
      by_cases he : f.property.isIdentifier
      · have ht : v.type = .u64 := by
          rw [type_value hf hv]
          exact h.identifier_type (List.mem_of_getElem? hf) he
        have hu : (Value.u64 id).replaceBy v = .u64 id := if_pos ht
        simp [stored, he, (hi.mp he).symm, hu]
      · have hne : ¬ b.identifierIndex = i := fun e => he (hi.mpr e.symm)
        simp [stored, he, hne]

/-- A record takes an id and keeps its other values. -/
theorem value_setId (h : b.WellFormed) {i : Nat} {f : BoundField} {v : Value}
    (hf : b.fields[i]? = some f) (hv : r.values[i]? = some v) :
    (b.setId r id).values[i]? = some (stored id f v) := by
  rw [values_setId h, List.getElem?_zipWith, hf, hv]

theorem value_identifierIndex (h : b.WellFormed) (r : Record b.types) :
    ∃ id, r.values[b.identifierIndex]? = some (.u64 id) := by
  have hlt : b.identifierIndex < r.values.length := by
    rw [length_values]
    exact h.identifierIndex_lt
  have hf := List.getElem?_eq_getElem h.identifierIndex_lt
  obtain ⟨v, hv⟩ : ∃ v, r.values[b.identifierIndex]? = some v := ⟨_, List.getElem?_eq_getElem hlt⟩
  have ht := type_value hf hv
  rw [h.identifier_type (List.getElem_mem _) ((h.isIdentifier_iff hf).mpr rfl)] at ht
  cases v with
  | u64 id => exact ⟨id, hv⟩
  | _ => cases ht

theorem value_identifierIndex_setId (h : b.WellFormed) (r : Record b.types) (id : UInt64) :
    (b.setId r id).values[b.identifierIndex]? = some (.u64 id) := by
  obtain ⟨old, hv⟩ := value_identifierIndex h r
  have hf := List.getElem?_eq_getElem h.identifierIndex_lt
  rw [value_setId h hf hv, stored, if_pos ((h.isIdentifier_iff hf).mpr rfl)]

theorem id_setId (h : b.WellFormed) (r : Record b.types) (id : UInt64) :
    b.id (b.setId r id) = id := by
  rw [Binding.id, value_identifierIndex_setId h]

theorem id_normalized (h : b.WellFormed) (r : Record b.types) : b.id r.normalized = b.id r := by
  obtain ⟨id, hv⟩ := value_identifierIndex h r
  rw [Binding.id, Binding.id, Record.values_normalized, List.getElem?_map, hv]
  rfl

/-- The fields of a record with their values and the children of these. -/
def entries (b : Binding) (r : Record b.types) (children : List (Option Offset)) : List Entry :=
  b.fields.zip (r.values.zip children)

/-- The buffer of a record when its table is full but not closed. -/
def filled (b : Binding) (r : Record b.types) (id : UInt64) (children : List (Option Offset)) :
    Builder where
  bytes := Builder.new.bytes ++ Value.outside r.values
  table := some (fill id ⟨b.entity.slotCount.toUInt16, #[]⟩ (b.entries r children))
  lastTable := none

section

variable {children : List (Option Offset)}

theorem slots_entries (hl : children.length = r.values.length) :
    (b.entries r children).map slotOf = b.fields.map (·.property.slot) := by
  have hz : (r.values.zip children).length = b.fields.length := by
    rw [List.length_zip, hl, Nat.min_self, length_values]
  have hs : (b.entries r children).map slotOf =
      ((b.entries r children).map Prod.fst).map (·.property.slot) := by
    rw [List.map_map]
    rfl
  rw [hs, entries, List.map_fst_zip (by omega)]

theorem length_le_of_slots (h : b.WellFormed) (hm : b.entity.slotCount.toNat ≤ maxSlots) :
    b.fields.length ≤ 32766 := by
  have := h.length_le
  simp only [maxSlots] at hm
  omega

/-- The slot of a field is its place among the fields. -/
theorem toNat_slot (h : b.WellFormed) (hm : b.entity.slotCount.toNat ≤ maxSlots) {i : Nat}
    {f : BoundField} (hf : b.fields[i]? = some f) : f.property.slot.toNat = i := by
  have hlt := (List.getElem?_eq_some_iff.mp hf).1
  have := length_le_of_slots h hm
  refine Property.toNat_slot (h.slot_eq hf) ?_
  simp only [directoryHeaderSize, UInt16.size]
  omega

theorem toNat_directoryOffset (h : b.WellFormed) (hl : b.fields.length ≤ 32766) {i : Nat}
    {f : BoundField} (hf : b.fields[i]? = some f) :
    f.property.directoryOffset.toNat = directoryHeaderSize + 2 * i := by
  have hlt := (List.getElem?_eq_some_iff.mp hf).1
  refine Property.toNat_directoryOffset (h.slot_eq hf) ?_
  simp only [directoryHeaderSize, UInt16.size]
  omega

theorem nodup_slots (h : b.WellFormed) (hm : b.entity.slotCount.toNat ≤ maxSlots) :
    (b.fields.map (·.property.slot)).Nodup := by
  rw [List.nodup_iff_getElem?_ne_getElem?]
  intro i j hij hj he
  rw [List.length_map] at hj
  have hfi := List.getElem?_eq_getElem (l := b.fields) (i := i) (by omega)
  have hfj := List.getElem?_eq_getElem hj
  rw [List.getElem?_map, List.getElem?_map, hfi, hfj, Option.map_some, Option.map_some,
    Option.some.injEq] at he
  have := toNat_slot h hm hfi
  have := toNat_slot h hm hfj
  rw [he] at *
  omega

theorem slot_lt (h : b.WellFormed) (hm : b.entity.slotCount.toNat ≤ maxSlots) {entry : Entry}
    (he : entry ∈ b.entries r children) :
    slotOf entry < b.entity.slotCount.toUInt16 := by
  have hmem : entry.1 ∈ b.fields := (List.of_mem_zip he).1
  obtain ⟨i, hi⟩ := List.mem_iff_getElem?.mp hmem
  have hlt := (List.getElem?_eq_some_iff.mp hi).1
  have := h.length_le
  simp only [maxSlots] at hm
  rw [UInt16.lt_iff_toNat_lt, slotOf, toNat_slot h hm hi, UInt32.toNat_toUInt16]
  omega

theorem nodup_slots_entries (h : b.WellFormed) (hm : b.entity.slotCount.toNat ≤ maxSlots)
    (hl : children.length = r.values.length) : ((b.entries r children).map slotOf).Nodup := by
  rw [slots_entries hl]
  exact nodup_slots h hm

theorem wellFormed_filled (h : b.WellFormed) (hm : b.entity.slotCount.toNat ≤ maxSlots)
    (hl : children.length = r.values.length) :
    (fill id ⟨b.entity.slotCount.toUInt16, #[]⟩ (b.entries r children)).WellFormed := by
  refine wellFormed_fill ?_ (fun entry he => slot_lt h hm he) (nodup_slots_entries h hm hl)
  rw [UInt32.toNat_toUInt16]
  exact Nat.le_trans (Nat.mod_le _ _) hm

/-- Behind the children of a record a table is opened, if there are not too many slots. -/
theorem startTable_written (bytes : ByteArray) (slotCount : UInt32) :
    ({ Builder.new with bytes := bytes } : Builder).startTable slotCount =
      if maxSlots < slotCount.toNat then .error (.tooManySlots slotCount)
      else .ok ⟨bytes, some ⟨slotCount.toUInt16, #[]⟩, none⟩ := rfl

/-- What filling the table of a record comes to: the number of slots and then the widths of the
values decide. -/
theorem flatten_eq (h : b.WellFormed)
    (hw : writeChildren r.values .new =
      .ok (children, { Builder.new with bytes := Builder.new.bytes ++ Value.outside r.values })) :
    b.flatten r id .new =
      if maxSlots < b.entity.slotCount.toNat then .error (.tooManySlots b.entity.slotCount)
      else
        match (b.entries r children).find? fun entry => !(valueOf id entry).fits with
        | some entry => .error (.slotOverflow (slotOf entry))
        | none => .ok (b.filled r id children) := by
  obtain ⟨-, hl, hlodged⟩ := of_writeChildren rfl (by decide) hw
  rw [flatten, hw, ok_bind]
  simp only [startTable_written]
  by_cases hm : maxSlots < b.entity.slotCount.toNat
  · rw [if_pos hm, if_pos hm, error_bind]
  · have hle : b.entity.slotCount.toNat ≤ maxSlots := Nat.le_of_not_lt hm
    rw [if_neg hm, if_neg hm, ok_bind]
    refine foldlM_writeField rfl (fun entry he => slot_lt h hle he) ?_ ?_
    · have hslots := nodup_slots h hle
      rw [← slots_entries hl] at hslots
      exact hslots
    · intro entry he offset ho
      have hrel := hlodged entry.2 (List.of_mem_zip he).2
      rw [Option.mem_def.mp ho] at hrel
      cases hp : entry.2.1.payload? with
      | none =>
        rw [hp] at hrel
        cases hrel
      | some data =>
        rw [hp] at hrel
        cases hrel with
        | some hlodged => exact hlodged.couldHold

/-- What a record that was encoded went through. -/
theorem of_encode (h : b.WellFormed) {bytes : ByteArray} (he : b.encode r id = .ok bytes) :
    ∃ children, children.length = r.values.length ∧ b.entity.slotCount.toNat ≤ maxSlots ∧
      (∀ entry ∈ r.values.zip children,
        Option.Rel (Lodged (b.filled r id children).bytes.size (b.filled r id children).bytes)
          entry.1.payload? entry.2) ∧
      (∀ entry ∈ b.entries r children, (valueOf id entry).fits = true) ∧
      (b.filled r id children).finish.1 = .ok bytes := by
  obtain ⟨builder, hf, hfinish⟩ := bind_eq_ok.mp he
  obtain ⟨⟨children, written⟩, hw, -⟩ := bind_eq_ok.mp hf
  obtain ⟨rfl, hl, hlodged⟩ := of_writeChildren rfl (by decide) hw
  rw [flatten_eq h hw] at hf
  obtain ⟨hm, hf⟩ := ite_error_eq_ok.mp hf
  cases hfind : (b.entries r children).find? fun entry => !(valueOf id entry).fits with
  | some entry =>
    rw [hfind] at hf
    cases hf
  | none =>
    rw [hfind] at hf
    cases hf
    refine ⟨children, hl, Nat.le_of_not_lt hm, hlodged, ?_, hfinish⟩
    intro entry hentry
    simpa using List.find?_eq_none.mp hfind entry hentry

end

/-- What readers find in the buffer of a record: its values in the slots of its fields, and nothing
but zeros behind them, whatever they take these to be. -/
theorem exists_root_of_encode (h : b.WellFormed) {bytes : ByteArray}
    (he : b.encode r id = .ok bytes) :
    ∃ table, Table.root bytes = .ok table ∧
      ∀ (i : Nat) (offset : UInt16), offset.toNat = directoryHeaderSize + 2 * i →
        (∀ v, (b.setId r id).values[i]? = some v → v.type.read table offset = .ok v.normalized) ∧
        ((b.setId r id).values[i]? = none →
          ∀ t : FieldType, t.read table offset = .ok (.zero t)) := by
  obtain ⟨children, hl, hm, hlodged, hfits, hfinish⟩ := of_encode h he
  have hnodup := nodup_slots_entries h hm hl
  have hwf := @wellFormed_filled b r id children h hm hl
  obtain ⟨position, hstand, hroot, hsize, -, hmoved⟩ :=
    Builder.root_of_finish rfl hwf (by simp [filled, Builder.new]) hfinish
  refine ⟨_, hroot, ?_⟩
  intro i offset ho
  have hlen := length_values r
  rw [values_setId h, List.getElem?_zipWith]
  cases hf : b.fields[i]? with
  | none =>
    have hslot : (UInt16.ofNat i).toNat = i :=
      UInt16.toNat_ofNat_of_lt' (by have := offset.toNat_lt; simp only [UInt16.size]; omega)
    have hempty : UInt16.ofNat i ∉ (b.entries r children).map slotOf := by
      rw [slots_entries hl, List.mem_map]
      rintro ⟨f, hmem, hs⟩
      obtain ⟨j, hj⟩ := List.mem_iff_getElem?.mp hmem
      have hji := toNat_slot h hm hj
      rw [hs, hslot] at hji
      rw [hji, hj] at hf
      cases hf
    have ho' : offset.toNat = directoryHeaderSize + 2 * (UInt16.ofNat i).toNat := by rw [hslot, ho]
    have hfield := hstand.field?_of_empty ho' (holds_fill_none hempty)
    exact ⟨fun v hv => by simp at hv, fun _ t => FieldType.read_of_empty hfield t⟩
  | some f =>
    have hlt := (List.getElem?_eq_some_iff.mp hf).1
    have hv := List.getElem?_eq_getElem (l := r.values) (i := i) (by omega)
    have hc := List.getElem?_eq_getElem (l := children) (i := i) (by omega)
    have hpair : (r.values.zip children)[i]? = some (r.values[i], children[i]) :=
      List.getElem?_zip_eq_some.mpr ⟨hv, hc⟩
    have hentry : (f, r.values[i], children[i]) ∈ b.entries r children :=
      List.mem_of_getElem? (List.getElem?_zip_eq_some.mpr ⟨hf, hpair⟩)
    have hrel := Lodged.move_all (hlodged _ (List.mem_of_getElem? hpair)) hsize hmoved
    rw [← @payload?_stored b r id h i f _ hf hv] at hrel
    have ho' : offset.toNat = directoryHeaderSize + 2 * f.property.slot.toNat := by
      rw [ho, toNat_slot h hm hf]
    have hread := (valueOf id (f, r.values[i], children[i])).read_eq hstand ho'
      (holds_fill hnodup hentry) hrel (hfits _ hentry)
    rw [hv]
    refine ⟨?_, fun hn => by simp at hn⟩
    rintro v hv
    cases hv
    exact hread

/-- A record that agrees with what was written, and is zero where nothing was, is decoded. -/
theorem decode_eq_of_encode {reader : Binding} (h : b.WellFormed) (hreader : reader.WellFormed)
    (hl : reader.fields.length ≤ 32766) {bytes : ByteArray} (he : b.encode r id = .ok bytes)
    {r' : Record reader.types}
    (hv : ∀ {i : Nat} {v : Value}, r'.values[i]? = some v →
      v = ((b.setId r id).normalized.values[i]?).getD (.zero v.type)) :
    reader.decode bytes = .ok r' := by
  obtain ⟨table, hroot, hread⟩ := exists_root_of_encode h he
  rw [decode, hroot, ok_bind]
  apply Record.read_eq
  apply List.ext_getElem?
  intro i
  rw [List.getElem?_map, List.getElem?_map]
  cases hf : reader.fields[i]? with
  | none =>
    rw [List.getElem?_eq_none_iff, ← length_values r', ← List.getElem?_eq_none_iff] at hf
    rw [hf]
    rfl
  | some f =>
    obtain ⟨v, hrv⟩ : ∃ v, r'.values[i]? = some v := by
      have hlt := (List.getElem?_eq_some_iff.mp hf).1
      rw [← length_values r'] at hlt
      exact ⟨_, List.getElem?_eq_getElem hlt⟩
    obtain ⟨hwritten, hzero⟩ := hread i _ (toNat_directoryOffset hreader hl hf)
    have hv := hv hrv
    rw [hrv, Option.map_some, Option.map_some, ← type_value hf hrv]
    rw [Record.values_normalized, List.getElem?_map] at hv
    cases hw : (b.setId r id).values[i]? with
    | none =>
      rw [hw] at hv
      rw [hzero hw, hv]
      simp
    | some w =>
      rw [hw, Option.map_some, Option.getD_some] at hv
      have hr := hwritten w hw
      rw [hv, Value.type_normalized, hr]

/-- A record that was encoded under an id decodes to the record under that id, with the signs of
floating point zeros lost. -/
theorem decode_of_encode (h : b.WellFormed) {bytes : ByteArray}
    (he : b.encode r id = .ok bytes) :
    b.decode bytes = .ok (b.setId r id).normalized := by
  obtain ⟨-, -, hm, -⟩ := of_encode h he
  refine decode_eq_of_encode h h (length_le_of_slots h hm) he ?_
  intro i v hv
  rw [hv, Option.getD_some]

end Binding

end RecordStore
