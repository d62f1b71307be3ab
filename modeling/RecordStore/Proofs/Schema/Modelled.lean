import RecordStore.Proofs.Model.Offsets
import RecordStore.Proofs.Schema.RoundTrip
import RecordStore.Proofs.Source.Registration

/-! The model that generated source builds: it mirrors the schema, and a store that works by it
finds every field where records have it, if the slots of the properties are their places. -/
namespace RecordStore

open Buffer Source

/-- A property as the store should know it. -/
def Property.toModel (p : Property) : ModelProperty :=
  ⟨p.id, p.uid, p.storeName, p.storeType, p.flags⟩

@[simp] theorem Property.id_toModel (p : Property) : p.toModel.id = p.id := rfl

/-- An entity as the store should know it. -/
def Entity.toModel (e : Entity) : ModelEntity :=
  ⟨e.id, e.uid, e.name, e.properties.map Property.toModel, some e.lastPropertyId⟩

/-- A schema as the store should know it. -/
def Schema.toModel (s : Schema) : Model :=
  ⟨s.entities.map Entity.toModel, some s.lastEntityId⟩

namespace Entity

variable {e : Entity}

theorem Valid.directory_lt (hv : e.Valid) {i : Nat} {p : Property}
    (hp : e.properties[i]? = some p) : directoryHeaderSize + 2 * i < UInt16.size := by
  obtain ⟨hi, -⟩ := Array.getElem?_eq_some_iff.mp hp
  have := hv.count_le
  simp only [directoryHeaderSize, UInt16.size]
  omega

/-- The store looks a slot up by the id of its property, and finds the one of its place. -/
theorem slotOffset?_toModel (hv : e.Valid) {i : Nat} {p : Property} {offset : UInt16}
    (hp : e.properties[i]? = some p) (ho : offset.toNat = directoryHeaderSize + 2 * i) :
    e.toModel.slotOffset? p.id = .ok (some offset) := by
  have hlt := hv.directory_lt hp
  have hids : (e.toModel.properties.toList.map ModelProperty.id).Nodup := by
    simpa [toModel, Property.toModel, Function.comp_def] using hv.nodup_ids
  have hmodel : e.toModel.properties[i]? = some p.toModel := by simp [toModel, hp]
  have hi16 : i < UInt16.size := by omega
  rw [← Property.id_toModel, ModelEntity.slotOffset?_id hids hmodel, if_pos hi16,
    slotOffset_eq_ok.mpr, Except.map]
  rw [ho, UInt16.toNat_ofNat_of_lt' hi16]

theorem check_toModel (hv : e.Valid)
    (hlong : ∀ p ∈ e.properties, p.type = .field .u64 → p.storeType = .long) :
    e.toModel.check = .ok () := by
  have hone := hv.identifier
  rw [List.countP_eq_length_filter, List.length_eq_one_iff] at hone
  obtain ⟨p, hp⟩ := hone
  obtain ⟨hmem, hid⟩ := List.mem_filter.mp (hp ▸ List.mem_singleton_self p)
  rw [Array.mem_toList_iff] at hmem
  refine ModelEntity.check_eq_ok (p := p.toModel) rfl ?_ ?_ ?_
  · intro q hq
    obtain ⟨p', hp', rfl⟩ := Array.mem_map.mp hq
    exact (hv.labels p' hp').id_le_last
  · have hfilter : e.toModel.properties.toList.filter ModelProperty.isIdentifier =
        (e.properties.toList.filter Property.isIdentifier).map Property.toModel := by
      rw [toModel, Array.toList_map, List.filter_map]
      rfl
    rw [hfilter, hp]
    rfl
  · exact hlong p hmem (hv.identifier_type p hmem hid)

end Entity

namespace Binding

variable {e : Entity} {b : Binding}

theorem modelEntity_of_ofEntity (h : ofEntity e = .ok b) : b.modelEntity = e.toModel := by
  obtain ⟨rfl, hfields, -⟩ := of_ofEntity h
  have hproperties : (b.fields.map BoundField.modelProperty).toArray =
      b.entity.properties.map Property.toModel := by
    rw [← Array.toList_inj, Array.toList_map, ← hfields, List.map_map]
    rfl
  rw [modelEntity, Entity.toModel, hproperties]

theorem storeType_of_ofEntity (h : ofEntity e = .ok b) {p : Property} (hp : p ∈ e.properties) :
    p.storeType = p.type.storeType := by
  obtain ⟨-, hfields, htypes⟩ := of_ofEntity h
  rw [← Array.mem_toList_iff, ← hfields] at hp
  obtain ⟨f, hf, rfl⟩ := List.mem_map.mp hp
  exact (BoundField.encodingOf_eq_ok.mp (htypes f hf)).2.2

theorem registrable_of_ofEntity {last : UInt32} (h : ofEntity e = .ok b) (hv : e.Valid)
    (hl : ValidLabel last e.idUid e.name) : b.Registrable := by
  obtain ⟨rfl, hfields, -⟩ := of_ofEntity h
  refine ⟨hl.id_ne_zero, hl.uid_ne_zero, ?_, ?_⟩
  · intro f hf
    have hmem : f.property ∈ b.entity.properties := by
      rw [← Array.mem_toList_iff, ← hfields]
      exact List.mem_map_of_mem hf
    exact ⟨(hv.labels _ hmem).id_ne_zero, (hv.labels _ hmem).uid_ne_zero⟩
  · have hids := hv.nodup_ids
    rw [← hfields, List.map_map] at hids
    exact hids

end Binding

namespace Schema

variable {s : Schema} {bindings : List Binding}

theorem entities_of_bindings (hb : s.bindings = .ok bindings) :
    bindings.map Binding.entity = s.entities.toList := by
  rw [map_of_mapM (g := fun e => e) hb fun e b ho => (Binding.of_ofEntity ho).1, List.map_id']

/-- The calls of a valid schema succeed, and make its model unless there is no entity. -/
theorem exists_builder (hv : s.Valid) (hb : s.bindings = .ok bindings) :
    ∃ builder, ModelBuilder.empty.applyAll (s.modelCalls bindings) = (.ok (), builder) ∧
      builder.build = if s.entities = #[] then .error .noEntities else .ok s.toModel := by
  have hregistrable : ∀ b ∈ bindings, b.Registrable := by
    intro b hmem
    obtain ⟨e, he, ho⟩ := mem_of_mapM hb hmem
    rw [Array.mem_toList_iff] at he
    exact Binding.registrable_of_ofEntity ho (hv.entities e he) (hv.labels e he)
  have hnodup : (bindings.map (·.entity.id)).Nodup := by
    have hids := hv.nodup_ids
    rw [← entities_of_bindings hb, List.map_map] at hids
    exact hids
  have hmodels : bindings.map Binding.modelEntity = s.entities.toList.map Entity.toModel :=
    map_of_mapM hb fun e b ho => Binding.modelEntity_of_ofEntity ho
  have hchecks : ∀ e ∈ s.entities.toList.map Entity.toModel,
      e.check = .ok () ∧ e.id ≤ s.lastEntityId.id := by
    rw [List.forall_mem_map]
    intro e he
    obtain ⟨b, -, ho⟩ := exists_of_mapM hb he
    rw [Array.mem_toList_iff] at he
    refine ⟨Entity.check_toModel (hv.entities e he) ?_, (hv.labels e he).id_le_last⟩
    intro p hp ht
    rw [Binding.storeType_of_ofEntity ho hp, ht]
    rfl
  refine ⟨_, ModelBuilder.applyAll_modelCallsOf hregistrable hnodup, ?_⟩
  rw [hmodels, ModelBuilder.build_eq hchecks]
  by_cases he : s.entities = #[]
  · rw [if_pos he, if_pos (by simp [he])]
  · rw [if_neg he, if_neg (by simpa using he), toModel, ← List.map_toArray, Array.toArray_toList]

/-- A schema with generated source is modelled as it is. The source registers its entities by calls
that succeed, and these make the model of the schema, unless there is no entity. The store then
looks up the slot of a field by the place of its property. That is where the source reads the field,
and where it writes it, if the slots of the properties are their places. -/
theorem model_mirrors_schema {config : Config} {source : GeneratedSource}
    (h : s.generate config = .ok source) :
    ∃ bindings, s.bindings = .ok bindings ∧
      bindings.map Binding.entity = s.entities.toList ∧
      (∀ b ∈ bindings, b.fields.map BoundField.property = b.entity.properties.toList ∧
        ∀ path, b.addToModelCode path = Binding.addToModelHead path ++
          Code.brace (b.statements.flatMap (Statement.code path) ++ Code.success)) ∧
      (∃ calls, (bindings.flatMap Binding.statements).mapM Statement.call? = some calls ∧
        ∃ builder, ModelBuilder.empty.applyAll (calls ++ [.lastEntityId s.lastEntityId]) =
            (.ok (), builder) ∧
          builder.build = if s.entities = #[] then .error .noEntities else .ok s.toModel) ∧
      ∀ e ∈ s.entities, ∀ (i : Nat) (p : Property), e.properties[i]? = some p →
        (∃ offset, e.toModel.slotOffset? p.id = .ok (some offset) ∧ offset.toNat = 4 + 2 * i) ∧
          (e.Assembled → e.toModel.slotOffset? p.id = .ok (some p.directoryOffset) ∧
            p.directoryOffset.toNat = 4 + 2 * p.slot.toNat ∧ p.slot.toNat = i) := by
  obtain ⟨hvalidate, bindings, hb⟩ := of_generate h
  have hv := issues_eq_nil_iff_valid.mp (validate_eq_ok.mp hvalidate)
  refine ⟨bindings, hb, entities_of_bindings hb, ?_, ?_, ?_⟩
  · intro b hmem
    obtain ⟨e, -, ho⟩ := mem_of_mapM hb hmem
    obtain ⟨rfl, hfields, -⟩ := Binding.of_ofEntity ho
    exact ⟨hfields, fun path => b.addToModelCode_eq path⟩
  · exact ⟨_, mapM_flatMap Binding.calls_statements bindings, exists_builder hv hb⟩
  · intro e he i p hp
    have hlt := (hv.entities e he).directory_lt hp
    constructor
    · have hplace : (UInt16.ofNat (4 + 2 * i)).toNat = 4 + 2 * i := UInt16.toNat_ofNat_of_lt' hlt
      exact ⟨_, Entity.slotOffset?_toModel (hv.entities e he) hp hplace, hplace⟩
    · intro ha
      have hslot := Property.toNat_slot (ha i p hp) hlt
      have hoffset := Property.toNat_directoryOffset (ha i p hp) hlt
      refine ⟨Entity.slotOffset?_toModel (hv.entities e he) hp hoffset, ?_, hslot⟩
      rw [hoffset, hslot]
      rfl

/-- The statements for notes and tags build their model, which describes the text of a note at 6. -/
theorem model_mirrors_schema_note :
    ∃ bindings calls, noteSchema.bindings = .ok bindings ∧
      (bindings.flatMap Binding.statements).mapM Statement.call? = some calls ∧
      ∃ builder, ModelBuilder.empty.applyAll (calls ++ [.lastEntityId ⟨2, 2000⟩]) =
          (.ok (), builder) ∧
        builder.build = .ok noteSchema.toModel ∧ note.toModel.slotOffset? 2 = .ok (some 6) := by
  obtain ⟨source, hg⟩ := exists_generate_noteSchema
  obtain ⟨bindings, hb, -, -, ⟨calls, hcalls, builder, ha, hbuild⟩, hslots⟩ :=
    model_mirrors_schema hg
  have hsome : note.properties[1]?.map (fun p => (p.id, p.directoryOffset)) = some (2, 6) := by
    decide +kernel
  obtain ⟨p, hp, he⟩ := Option.map_eq_some_iff.mp hsome
  rw [Prod.mk.injEq] at he
  have hmem : note ∈ noteSchema.entities := by simp [noteSchema]
  have hslot := ((hslots note hmem 1 p hp).2 (built_noteSchema.assembled note hmem)).1
  rw [he.1, he.2] at hslot
  refine ⟨bindings, calls, hb, hcalls, builder, ha, ?_, hslot⟩
  rw [hbuild, if_neg (by simp [noteSchema])]

/-- The store looks up the amount of an invoice in the second slot of the model that was built, and
the source reads and writes it in the first. -/
theorem slots_disagree_invoice :
    (∃ source, invoiceSchema.generate {} = .ok source) ∧
      (∃ bindings, invoiceSchema.bindings = .ok bindings ∧
        (ModelBuilder.empty.applyAll (Binding.modelCallsOf bindings (some ⟨1, 1000⟩))).2.build =
          .ok invoiceSchema.toModel) ∧
      ∃ e p, invoiceSchema.toModel.entity? 1 = some e ∧ invoice.properties[1]? = some p ∧
        e.slotOffset? p.id = .ok (some 6) ∧ p.directoryOffset = 4 ∧ p.slot = 0 := by
  refine ⟨exists_generate_invoiceSchema, exists_ok_and ?_, invoice.toModel,
    invoice.properties[1], ?_⟩
  · decide +kernel
  · decide +kernel

end Schema

end RecordStore
