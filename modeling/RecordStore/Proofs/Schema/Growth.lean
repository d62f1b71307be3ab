import RecordStore.Proofs.Schema.RoundTrip

/-! Entities that grow: buffers from before are read with zeros for what was added, and buffers from
after are read without it. -/
namespace RecordStore

/-- What the records of an entity show of a property. -/
def Property.recordShape (p : Property) : SemanticType × Bool := (p.type, p.isIdentifier)

/-- An entity grows by properties behind its own, which keep their types and the identifier. Names,
ids, and how many slots there are, are free to change. -/
def Entity.GrowsTo (e e' : Entity) : Prop :=
  e.properties.toList.map Property.recordShape <+: e'.properties.toList.map Property.recordShape

namespace Binding

variable {b b' : Binding} {more : List FieldType} {id : UInt64} {bytes : ByteArray}

/-- A binding grows by fields behind its own. -/
structure GrowsTo (b b' : Binding) (more : List FieldType) : Prop where
  types_eq : b'.types = b.types ++ more
  identifierIndex_eq : b'.identifierIndex = b.identifierIndex

theorem id_of_value {r : Record b.types} (h : r.values[b.identifierIndex]? = some (.u64 id)) :
    b.id r = id := by
  rw [Binding.id, h]

theorem value_identifierIndex_written (h : b.WellFormed) (r : Record b.types) (id : UInt64) :
    (b.setId r id).normalized.values[b.identifierIndex]? = some (.u64 id) := by
  rw [Record.values_normalized, List.getElem?_map, value_identifierIndex_setId h]
  rfl

/-- What was written before is read with zeros for the fields that were added. -/
theorem GrowsTo.decode_old (hg : b.GrowsTo b' more) (h : b.WellFormed) (h' : b'.WellFormed)
    (hl : b'.fields.length ≤ 32766) {r : Record b.types} (he : b.encode r id = .ok bytes) :
    ∃ r', b'.decode bytes = .ok r' ∧ b'.id r' = id ∧
      r'.values = (b.setId r id).normalized.values ++ more.map Value.zero := by
  have htyped : ((b.setId r id).normalized.values ++ more.map Value.zero).map Value.type =
      b'.types := by
    rw [List.map_append, (b.setId r id).normalized.typed, hg.types_eq, List.map_map]
    simp [Function.comp_def]
  have hwritten := value_identifierIndex_written h r id
  refine ⟨⟨_, htyped⟩, decode_eq_of_encode h h' hl he ?_, id_of_value ?_, rfl⟩
  · intro i v hv
    simp only [List.getElem?_append] at hv
    by_cases hi : i < (b.setId r id).normalized.values.length
    · rw [if_pos hi] at hv
      rw [hv, Option.getD_some]
    · rw [if_neg hi, List.getElem?_map] at hv
      obtain ⟨t, -, rfl⟩ := Option.map_eq_some_iff.mp hv
      rw [List.getElem?_eq_none (Nat.le_of_not_lt hi), Option.getD_none, Value.type_zero]
  · rw [hg.identifierIndex_eq, List.getElem?_append_left (List.getElem?_eq_some_iff.mp hwritten).1]
    exact hwritten

/-- What was written after is read without the fields that were added. -/
theorem GrowsTo.decode_new (hg : b.GrowsTo b' more) (h : b.WellFormed) (h' : b'.WellFormed)
    (hl : b.fields.length ≤ 32766) {r : Record b'.types} (he : b'.encode r id = .ok bytes) :
    ∃ r', b.decode bytes = .ok r' ∧ b.id r' = id ∧
      r'.values = (b'.setId r id).normalized.values.take b.types.length := by
  have htyped : ((b'.setId r id).normalized.values.take b.types.length).map Value.type =
      b.types := by
    rw [List.map_take, (b'.setId r id).normalized.typed, hg.types_eq, List.take_left]
  have hwritten := value_identifierIndex_written h' r id
  refine ⟨⟨_, htyped⟩, decode_eq_of_encode h' h hl he ?_, id_of_value ?_, rfl⟩
  · intro i v hv
    rw [List.getElem?_take] at hv
    obtain ⟨-, hv⟩ := Option.ite_none_right_eq_some.mp hv
    rw [hv, Option.getD_some]
  · rw [← hg.identifierIndex_eq, List.getElem?_take_of_lt]
    · exact hwritten
    · rw [hg.identifierIndex_eq, types, List.length_map]
      exact h.identifierIndex_lt

theorem types_of_ofEntity {e : Entity} (h : ofEntity e = .ok b) :
    b.types.map SemanticType.field = e.properties.toList.map Property.type := by
  obtain ⟨-, hfields, htypes⟩ := of_ofEntity h
  rw [← hfields, types, List.map_map, List.map_map]
  exact List.map_congr_left fun f hf => (BoundField.encodingOf_eq_ok.mp (htypes f hf)).1.symm

theorem identifierIndex_of_ofEntity {e : Entity} (h : ofEntity e = .ok b) :
    b.identifierIndex = (e.properties.toList.map Property.recordShape).findIdx (·.2) := by
  obtain ⟨-, hfields, -⟩ := of_ofEntity h
  rw [← hfields, List.map_map, List.findIdx_map]
  rfl

/-- The bindings of an entity that grew grow with it. -/
theorem growsTo_of_ofEntity {e e' : Entity} (hg : e.GrowsTo e') (hb : ofEntity e = .ok b)
    (hb' : ofEntity e' = .ok b') (h : b.WellFormed) : ∃ more, b.GrowsTo b' more := by
  obtain ⟨added, hadded⟩ := hg
  have hindex := identifierIndex_of_ofEntity hb
  have hlt := h.identifierIndex_lt
  have htypes : b'.types.map SemanticType.field =
      b.types.map SemanticType.field ++ added.map (·.1) := by
    have hfst := congrArg (List.map (·.1)) hadded
    rw [List.map_append, List.map_map, List.map_map] at hfst
    rw [types_of_ofEntity hb, types_of_ofEntity hb']
    exact hfst.symm
  obtain ⟨old, more, hsplit, hold, -⟩ := List.map_eq_append_iff.mp htypes
  have hinj : Function.Injective SemanticType.field := fun _ _ => SemanticType.field.inj
  refine ⟨more, ⟨?_, ?_⟩⟩
  · rw [hsplit, List.map_injective_iff.mpr hinj hold]
  · have hlen : (e.properties.toList.map Property.recordShape).length = b.fields.length := by
      obtain ⟨-, hfields, -⟩ := of_ofEntity hb
      rw [List.length_map, ← hfields, List.length_map]
    rw [identifierIndex_of_ofEntity hb', ← hadded, List.findIdx_append, if_pos, hindex]
    rw [← hindex, hlen]
    exact hlt

end Binding

namespace Schema

/-- The fields of a binding have room in the directory of a table. -/
theorem length_fields_le {s : Schema} {config : Config} {source : GeneratedSource}
    (h : s.generate config = .ok source) {e : Entity} (he : e ∈ s.entities) {b : Binding}
    (hb : Binding.ofEntity e = .ok b) : b.fields.length ≤ 32766 := by
  obtain ⟨-, hfields, -⟩ := Binding.of_ofEntity hb
  obtain ⟨-, hcount, -⟩ :=
    Entity.of_issues_eq_nil ((validate_eq_ok.mp (of_generate h).1).1 e he)
  rw [← Array.length_toList, ← hfields, List.length_map] at hcount
  exact hcount

/-- Growing keeps buffers readable, both ways, if the slots of the properties are their places in
the old entity and in the new one: what the old binding wrote is read by the new one with zeros
behind it, and what the new one wrote is read by the old one as far as its fields go. -/
theorem buffers_outlive_growth {s s' : Schema} {config config' : Config}
    {source source' : GeneratedSource} (h : s.generate config = .ok source)
    (h' : s'.generate config' = .ok source') {e e' : Entity} (he : e ∈ s.entities)
    (he' : e' ∈ s'.entities) (ha : e.Assembled) (ha' : e'.Assembled) (hg : e.GrowsTo e') :
    ∃ b b' more, Binding.ofEntity e = .ok b ∧ Binding.ofEntity e' = .ok b' ∧
      b'.types = b.types ++ more ∧
      (∀ (r : Record b.types) (id : UInt64) (bytes : ByteArray), b.encode r id = .ok bytes →
        ∃ r', b'.decode bytes = .ok r' ∧ b'.id r' = id ∧
          r'.values = (b.setId r id).normalized.values ++ more.map Value.zero) ∧
      ∀ (r : Record b'.types) (id : UInt64) (bytes : ByteArray), b'.encode r id = .ok bytes →
        ∃ r', b.decode bytes = .ok r' ∧ b.id r' = id ∧
          r'.values = (b'.setId r id).normalized.values.take b.types.length := by
  obtain ⟨b, hb, hwf⟩ := exists_binding h he ha
  obtain ⟨b', hb', hwf'⟩ := exists_binding h' he' ha'
  obtain ⟨more, hgrows⟩ := Binding.growsTo_of_ofEntity hg hb hb' hwf
  refine ⟨b, b', more, hb, hb', hgrows.types_eq, ?_, ?_⟩
  · intro r id bytes hencode
    exact hgrows.decode_old hwf hwf' (length_fields_le h' he' hb') hencode
  · intro r id bytes hencode
    exact hgrows.decode_new hwf hwf' (length_fields_le h he hb) hencode

/-- A tag reads as a note without text, and a note reads as a tag. -/
theorem buffers_outlive_growth_tag :
    ∃ b b', Binding.ofEntity tag = .ok b ∧ Binding.ofEntity note = .ok b' ∧
      (∃ r : Record b.types, r.values = [.u64 0] ∧ ∃ bytes r', b.encode r 7 = .ok bytes ∧
        b'.decode bytes = .ok r' ∧ r'.values = [.u64 7, .text "", .f64 ⟨0⟩]) ∧
      ∃ r : Record b'.types, r.values = faint ∧ ∃ bytes r', b'.encode r 7 = .ok bytes ∧
        b.decode bytes = .ok r' ∧ r'.values = [.u64 7] := by
  obtain ⟨source, hgen⟩ := exists_generate_noteSchema
  have hassembled := built_noteSchema.assembled
  have hmem : tag ∈ noteSchema.entities := by simp [noteSchema]
  have hmem' : note ∈ noteSchema.entities := by simp [noteSchema]
  have hgrows : tag.GrowsTo note :=
    ⟨[(.field .text, false), (.field .f64, false)], by decide +kernel⟩
  obtain ⟨b, b', more, hb, hb', htypes, hold, hnew⟩ :=
    buffers_outlive_growth hgen hgen hmem hmem' (hassembled tag hmem) (hassembled note hmem') hgrows
  have htag : (Binding.ofEntity tag).toOption.all (fun b =>
      b.types = [.u64] ∧ ∀ ht : [Value.u64 0].map Value.type = b.types,
        (b.encode ⟨[.u64 0], ht⟩ 7).toOption.isSome ∧
          (b.setId ⟨[.u64 0], ht⟩ 7).normalized.values = [.u64 7]) = true := by
    decide +kernel
  have hnote : (Binding.ofEntity note).toOption.all (fun b =>
      b.types = [.u64, .text, .f64] ∧ ∀ ht : faint.map Value.type = b.types,
        (b.encode ⟨faint, ht⟩ 7).toOption.isSome ∧
          (b.setId ⟨faint, ht⟩ 7).normalized.values.take 1 = [.u64 7]) = true := by
    decide +kernel
  rw [hb] at htag
  rw [hb'] at hnote
  obtain ⟨ht, htag⟩ := of_decide_eq_true htag
  obtain ⟨ht', hnote⟩ := of_decide_eq_true hnote
  obtain ⟨hsome, hvalues⟩ := htag ht.symm
  obtain ⟨hsome', hvalues'⟩ := hnote ht'.symm
  obtain ⟨bytes, he⟩ := exists_ok hsome
  obtain ⟨bytes', he'⟩ := exists_ok hsome'
  obtain ⟨r, hd, -, hr⟩ := hold _ 7 bytes he
  obtain ⟨r', hd', -, hr'⟩ := hnew _ 7 bytes' he'
  rw [ht, ht'] at htypes
  have hmore : [.text, .f64] = more := (List.cons.inj htypes).2
  rw [hvalues, ← hmore] at hr
  rw [show b.types.length = 1 by rw [ht]; rfl] at hr'
  exact ⟨b, b', hb, hb', ⟨_, rfl, bytes, r, he, hd, hr⟩,
    ⟨_, rfl, bytes', r', he', hd', hr'.trans hvalues'⟩⟩

/-- Invoices whose properties were pushed. -/
def pushedInvoice : Entity := Samples.entity 1 1000 "Invoice" ⟨2, 1002⟩
  [Samples.property 1 1001 "id" .u64, Samples.property 2 1002 "amount" .u32]

def numberedBytes : ByteArray :=
  ⟨#[12, 0, 0, 0, 8, 0, 16, 0, 4, 0, 12, 0, 8, 0, 0, 0, 1, 0, 0, 0, 0, 0, 0, 0, 77, 0, 0, 0]⟩

/-- Where invoices with pushed properties have their amount, invoices with the same properties in
the first slot read the id. -/
theorem growth_misread_invoice :
    (∃ source, generate ⟨#[pushedInvoice], ⟨1, 1000⟩⟩ {} = .ok source) ∧
      (∃ source, invoiceSchema.generate {} = .ok source) ∧ pushedInvoice.GrowsTo invoice ∧
      (∃ b, Binding.ofEntity pushedInvoice = .ok b ∧ ∃ typed : numbered.map Value.type = b.types,
        b.encode ⟨numbered, typed⟩ 1 = .ok numberedBytes) ∧
      ∃ b', Binding.ofEntity invoice = .ok b' ∧
        ∃ typed : [Value.u64 1, .u32 1].map Value.type = b'.types,
          b'.decode numberedBytes = .ok ⟨[.u64 1, .u32 1], typed⟩ := by
  refine ⟨exists_ok ?_, exists_generate_invoiceSchema, ⟨[], ?_⟩, exists_ok_and ?_, exists_ok_and ?_⟩
  · decide +kernel
  · decide +kernel
  · decide +kernel
  · decide +kernel

end Schema

end RecordStore
