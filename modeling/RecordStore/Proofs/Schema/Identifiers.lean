import RecordStore.Proofs.Schema.Modelled

/-! Entities built property by property: which slot each property gets, and which of them becomes
the identifier. Three searches for it agree: the entity keeps its index, source is generated for
the first flagged property, and so the store looks for one. -/
namespace RecordStore

/-- The property in the slot of a place, as far as 16 bits can say. -/
def Property.inSlot (i : Nat) (p : Property) : Property :=
  { p with slot := UInt16.ofNat (min i 65535) }

theorem Property.isIdentifier_withFlags (p : Property) :
    (p.withFlags .identifier).isIdentifier = true :=
  (PropertyFlags.contains_identifier_union _ _).mpr (.inr (by decide))

/-- Where a search finds something does not change if the elements change to no account. -/
theorem findIdx?_mapIdx {α β : Type} {f : Nat → α → β} {p : α → Bool} {q : β → Bool}
    (h : ∀ i a, q (f i a) = p a) (xs : List α) : (xs.mapIdx f).findIdx? q = xs.findIdx? p := by
  have hmap : (xs.mapIdx f).map q = xs.map p := by
    apply List.ext_getElem?
    intro i
    simp [List.getElem?_mapIdx, Function.comp_def, h]
  have hsearch := congrArg (List.findIdx? id) hmap
  simpa [List.findIdx?_map] using hsearch

namespace Entity

/-- The index of the property that becomes the identifier for its name, as none is flagged. -/
def promoted? (resolved : Bool) (ps : List Property) : Option Nat :=
  if resolved && !ps.any Property.isIdentifier then ps.findIdx? (·.name == "id") else none

@[simp] theorem promoted?_false (ps : List Property) : promoted? false ps = none := rfl

/-- What an entity shows of the properties that it took. -/
structure Shows (ps : List Property) (resolved : Bool) (e : Entity) : Prop where
  getElem?_properties : ∀ i, e.properties[i]? = ps[i]?.map fun (p : Property) =>
    (if promoted? resolved ps = some i then p.withFlags .identifier else p).inSlot i
  identifier_eq : e.identifier = (ps.findIdx? Property.isIdentifier).or (promoted? resolved ps)

namespace Shows

variable {e : Entity} {ps : List Property}

theorem ofName (id : IdUid) (name : String) (last : IdUid) :
    Shows [] false (ofName id name last) where
  getElem?_properties := by simp [Entity.ofName]
  identifier_eq := rfl

theorem toList_properties (h : Shows ps false e) :
    e.properties.toList = ps.mapIdx Property.inSlot := by
  apply List.ext_getElem?
  intro i
  simp [h.getElem?_properties i, List.getElem?_mapIdx]

theorem size_properties (h : Shows ps false e) : e.properties.size = ps.length := by
  rw [← Array.length_toList, h.toList_properties, List.length_mapIdx]

theorem push (h : Shows ps false e) (p : Property) : Shows (ps ++ [p]) false (e.push p) where
  getElem?_properties := by
    intro i
    rw [Entity.push, Array.getElem?_push, h.size_properties, h.getElem?_properties i]
    by_cases hi : i = ps.length
    · subst hi
      simp [Property.inSlot]
    · rw [if_neg hi, List.getElem?_append, List.getElem?_singleton]
      by_cases hlt : i < ps.length
      · simp [hlt]
      · have hbeyond : i - ps.length ≠ 0 := by omega
        simp [hlt, hbeyond]
  identifier_eq := by
    rw [Entity.push, List.findIdx?_append, h.identifier_eq, h.size_properties]
    by_cases hp : p.isIdentifier <;> cases ps.findIdx? Property.isIdentifier <;> simp [hp]

/-- A search that the slots do not matter to finds what it finds among the properties taken. -/
theorem findIdx?_properties (h : Shows ps false e) {q : Property → Bool}
    (hq : ∀ i p, q (p.inSlot i) = q p) : e.properties.findIdx? q = ps.findIdx? q := by
  calc e.properties.findIdx? q
      = e.properties.toList.findIdx? q := List.findIdx?_toArray q _
    _ = ps.findIdx? q := by rw [h.toList_properties, findIdx?_mapIdx hq]

theorem keep (h : Shows ps false e) (hnone : promoted? true ps = none) : Shows ps true e where
  getElem?_properties := by simpa [hnone] using h.getElem?_properties
  identifier_eq := by simpa [hnone] using h.identifier_eq

theorem promote (h : Shows ps false e) (hflagged : ps.findIdx? Property.isIdentifier = none)
    {j : Nat} (hj : promoted? true ps = some j) :
    Shows ps true { e with
      properties := e.properties.modify j (·.withFlags .identifier), identifier := some j } where
  getElem?_properties := by
    intro i
    rw [Array.getElem?_modify, h.getElem?_properties i, hj, promoted?_false]
    by_cases hi : j = i
    · subst hi
      cases ps[j]? <;> simp [Property.inSlot, Property.withFlags]
    · simp [hi]
  identifier_eq := by rw [hflagged, hj, Option.none_or]

theorem resolveIdentifier (h : Shows ps false e) : Shows ps true e.resolveIdentifier := by
  have hflagged : e.identifier = ps.findIdx? Property.isIdentifier := by
    rw [h.identifier_eq, promoted?_false, Option.or_none]
  have hnamed : e.properties.findIdx? (·.name == "id") = ps.findIdx? (·.name == "id") :=
    h.findIdx?_properties fun _ _ => rfl
  rw [Entity.resolveIdentifier, hflagged, hnamed, List.findIdx?_isSome]
  by_cases hany : ps.any Property.isIdentifier = true
  · rw [if_pos hany]
    exact h.keep (by simp [promoted?, hany])
  · rw [if_neg hany]
    have hpromoted : promoted? true ps = ps.findIdx? (·.name == "id") := by
      simp [promoted?, hany]
    have hnone : ps.findIdx? Property.isIdentifier = none := by
      rwa [← List.findIdx?_isSome, Option.not_isSome_iff_eq_none] at hany
    cases hfind : ps.findIdx? (·.name == "id") with
    | none => exact h.keep (hpromoted.trans hfind)
    | some j => exact h.promote hnone (hpromoted.trans hfind)

end Shows

/-- The entity knows the first of its properties that is flagged. -/
def Marks (e : Entity) : Prop := e.identifier = e.properties.findIdx? Property.isIdentifier

namespace Marks

variable {e : Entity}

theorem ofName (id : IdUid) (name : String) (last : IdUid) :
    (Entity.ofName id name last).Marks := by
  simp [Marks, Entity.ofName]

theorem push (h : e.Marks) (p : Property) : (e.push p).Marks := by
  have hflag : Property.isIdentifier { p with slot := UInt16.ofNat (min e.properties.size 65535) } =
      p.isIdentifier := rfl
  rw [Marks, Entity.push, Array.findIdx?_push, hflag, ← h]
  cases e.identifier <;> simp

theorem resolveIdentifier (h : e.Marks) : e.resolveIdentifier.Marks := by
  rw [Entity.resolveIdentifier]
  by_cases hsome : e.identifier.isSome = true
  · rwa [if_pos hsome]
  · rw [if_neg hsome]
    cases hfind : e.properties.findIdx? (·.name == "id") with
    | none => exact h
    | some j =>
      rw [Option.not_isSome_iff_eq_none, h, Array.findIdx?_eq_none_iff] at hsome
      obtain ⟨hj, -⟩ := Array.findIdx?_eq_some_iff_getElem.mp hfind
      have hsize : j < (e.properties.modify j (·.withFlags .identifier)).size := by
        rwa [Array.size_modify]
      refine (Array.findIdx?_eq_some_iff_getElem.mpr ⟨hsize, ?_, ?_⟩).symm
      · rw [Array.getElem_modify_self]
        exact Property.isIdentifier_withFlags _
      · intro i hi
        rw [Array.getElem_modify_of_ne (Nat.ne_of_gt hi), hsome _ (Array.getElem_mem _)]
        exact Bool.false_ne_true

/-- The identifier is the first property flagged. -/
theorem identifierProperty?_eq (h : e.Marks) :
    e.identifierProperty? = e.properties.find? Property.isIdentifier := by
  rw [Array.find?_eq_bind_findIdx?_getElem?, ← h]
  rfl

end Marks

namespace Took

variable {e : Entity} {ps : List Property} {resolved : Bool}

theorem shows (h : e.Took ps resolved) : e.Shows ps resolved := by
  induction h with
  | nothing id name last => exact .ofName id name last
  | push p _ ih => exact ih.push p
  | resolve _ ih => exact ih.resolveIdentifier

theorem marks (h : e.Took ps resolved) : e.Marks := by
  induction h with
  | nothing id name last => exact .ofName id name last
  | push p _ ih => exact ih.push p
  | resolve _ ih => exact ih.resolveIdentifier

end Took

end Entity

namespace Binding

variable {e : Entity} {b : Binding} {fields : List BoundField}

/-- The search among the fields finds what a search among the properties finds. -/
theorem find?_fields (h : e.properties.toList.mapM (BoundField.ofProperty e) = .ok fields) :
    (fields.find? (·.property.isIdentifier)).map BoundField.property =
      e.properties.find? Property.isIdentifier := by
  have hproperties : fields.map BoundField.property = e.properties.toList := by
    rw [map_of_mapM (g := fun p => p) h fun p f ho => (BoundField.of_ofProperty ho).1,
      List.map_id']
  rw [← Array.find?_toList, ← hproperties, List.find?_map]
  rfl

theorem find?_of_ofEntity (h : ofEntity e = .ok b) :
    b.fields.find? (·.property.isIdentifier) = some b.identifier := by
  obtain ⟨fields, -, h⟩ := bind_eq_ok.mp h
  cases hi : fields.find? (·.property.isIdentifier) with
  | none =>
    rw [hi] at h
    cases h
  | some identifier =>
    rw [hi] at h
    obtain ⟨record, -, h⟩ := bind_eq_ok.mp h
    obtain ⟨boxFunction, -, he⟩ := bind_eq_ok.mp h
    cases he
    exact hi

end Binding

theorem Entity.identifier?_toModel (e : Entity) :
    e.toModel.identifier? = (e.properties.find? Property.isIdentifier).map Property.toModel := by
  rw [ModelEntity.identifier?, toModel, Array.find?_map]
  rfl

namespace Entity

variable {e : Entity}

/-- A valid entity has a property that is flagged. -/
theorem Valid.exists_find? (hv : e.Valid) :
    ∃ p, e.properties.find? Property.isIdentifier = some p := by
  have hpos : 0 < e.properties.toList.countP Property.isIdentifier := by
    rw [hv.identifier]
    decide
  obtain ⟨p, hp, hid⟩ := List.countP_pos_iff.mp hpos
  rw [← Option.isSome_iff_exists, Array.find?_isSome]
  exact ⟨p, Array.mem_toList_iff.mp hp, hid⟩

theorem Assembled.toNat_slot (ha : e.Assembled) {i : Nat} {p : Property}
    (hp : e.properties[i]? = some p) : p.slot.toNat = min i 65535 := by
  rw [ha i p hp, UInt16.toNat_ofNat_of_lt']
  simp only [UInt16.size]
  omega

theorem Valid.toNat_directoryOffset (hv : e.Valid) (ha : e.Assembled) {i : Nat} {p : Property}
    (hp : e.properties[i]? = some p) : p.directoryOffset.toNat = 4 + 2 * i :=
  Property.toNat_directoryOffset (ha i p hp) (hv.directory_lt hp)

theorem Valid.nodup_directoryOffsets (hv : e.Valid) (ha : e.Assembled) :
    (e.properties.toList.map Property.directoryOffset).Nodup := by
  rw [List.nodup_iff_getElem?_ne_getElem?]
  intro i j hij hj hsame
  rw [List.length_map, Array.length_toList] at hj
  have hi := Array.getElem?_eq_getElem (Nat.lt_trans hij hj)
  have hj := Array.getElem?_eq_getElem hj
  rw [List.getElem?_map, List.getElem?_map, Array.getElem?_toList, Array.getElem?_toList, hi, hj,
    Option.map_some, Option.map_some, Option.some.injEq, ← UInt16.toNat_inj,
    hv.toNat_directoryOffset ha hi, hv.toNat_directoryOffset ha hj] at hsame
  omega

end Entity

namespace Schema

/-- The model that is registered for a valid schema looks for the identifier of an entity where the
entity has it. -/
theorem exists_identifier? {s : Schema} (hv : s.Valid) {e : Entity} (he : e ∈ s.entities)
    {bindings : List Binding} (hb : s.bindings = .ok bindings) :
    ∃ builder model entity,
      ModelBuilder.empty.applyAll (s.modelCalls bindings) = (.ok (), builder) ∧
        builder.build = .ok model ∧ model.entity? e.id = some entity ∧
        entity.identifier? = (e.properties.find? Property.isIdentifier).map Property.toModel := by
  obtain ⟨builder, hcalls, hbuild⟩ := exists_builder hv hb
  have hne : s.entities ≠ #[] := by
    intro hempty
    simp [hempty] at he
  rw [if_neg hne] at hbuild
  obtain ⟨b, hmem, ho⟩ := exists_of_mapM hb (Array.mem_toList_iff.mpr he)
  have hbuilds : Binding.Builds bindings (some s.lastEntityId) s.toModel :=
    ⟨builder, hcalls, hbuild⟩
  have hentity := hbuilds.entity?_eq hmem
  rw [(Binding.of_ofEntity ho).1, Binding.modelEntity_of_ofEntity ho] at hentity
  exact ⟨builder, _, _, hcalls, hbuild, hentity, e.identifier?_toModel⟩

end Schema

/-- Every entity that was read took its properties one after the other and had its identifier
resolved. However an entity took its properties, the slot of each is its place, as far as 16 bits
can say, and the identifier is the first property that is flagged, or else, once it is resolved,
the first one named `id`, which alone is flagged for it. In a valid schema each property of the
entity has a place of its own in the directory, the one that its index says, and the property that
the entity has for its identifier is the one that source is generated with and that the store
registers. -/
theorem slots_and_identifiers_agree :
    (∀ text s, Schema.parse text = .ok s → ∀ e ∈ s.entities, ∃ ps, e.Took ps true) ∧
      ∀ (e : Entity) (ps : List Property) (resolved : Bool), e.Took ps resolved →
        (∀ i, e.properties[i]? = ps[i]?.map fun (p : Property) =>
          (if Entity.promoted? resolved ps = some i then p.withFlags .identifier
            else p).inSlot i) ∧
        (∀ (i : Nat) (p : Property), e.properties[i]? = some p → p.slot.toNat = min i 65535) ∧
        e.identifier =
          (ps.findIdx? Property.isIdentifier).or (Entity.promoted? resolved ps) ∧
        ∀ s : Schema, e ∈ s.entities → s.validate = .ok () →
          (∀ (i : Nat) (p : Property), e.properties[i]? = some p →
            p.directoryOffset.toNat = 4 + 2 * i) ∧
          (e.properties.toList.map Property.directoryOffset).Nodup ∧
          ∃ i p, e.identifier = some i ∧ e.properties[i]? = some p ∧
            e.identifierProperty? = some p ∧
            (∀ fields, e.properties.toList.mapM (BoundField.ofProperty e) = .ok fields →
              ∃ f, fields.find? (·.property.isIdentifier) = some f ∧ f.property = p) ∧
            (∀ b, Binding.ofEntity e = .ok b → b.identifier.property = p) ∧
            ∀ bindings, s.bindings = .ok bindings → ∃ builder model entity,
              ModelBuilder.empty.applyAll (s.modelCalls bindings) = (.ok (), builder) ∧
                builder.build = .ok model ∧ model.entity? e.id = some entity ∧
                entity.identifier? = some p.toModel := by
  refine ⟨fun text s hp => Schema.of_parse (fun d => ⟨_, d.took_finish⟩) hp, ?_⟩
  intro e ps resolved h
  refine ⟨h.shows.getElem?_properties, fun i p => h.assembled.toNat_slot, h.shows.identifier_eq, ?_⟩
  intro s he hs
  have hv := Schema.issues_eq_nil_iff_valid.mp (Schema.validate_eq_ok.mp hs)
  have hve := hv.entities e he
  obtain ⟨p, hfind⟩ := hve.exists_find?
  have hproperty := h.marks.identifierProperty?_eq.trans hfind
  obtain ⟨i, hi, hp⟩ := Option.bind_eq_some_iff.mp hproperty
  refine ⟨fun i p => hve.toNat_directoryOffset h.assembled,
    hve.nodup_directoryOffsets h.assembled, i, p, hi, hp, hproperty, ?_, ?_, ?_⟩
  · intro fields hf
    exact Option.map_eq_some_iff.mp ((Binding.find?_fields hf).trans hfind)
  · intro b hb
    have hfields := Binding.find?_fields (Binding.mapM_of_ofEntity hb).2
    rw [Binding.find?_of_ofEntity hb, hfind] at hfields
    exact Option.some.inj hfields
  · intro bindings hb
    have hmodel := Schema.exists_identifier? hv he hb
    rwa [hfind] at hmodel

theorem slots_and_identifiers_agree_blobs :
    Samples.blobs.identifier = some 3 ∧
      ∃ p, Samples.blobs.identifierProperty? = some p ∧ p.name = "id" ∧
        p.directoryOffset.toNat = 10 ∧
        ∃ bindings builder model entity,
          (⟨#[Samples.blobs], ⟨40, 4000⟩⟩ : Schema).bindings = .ok bindings ∧
          ModelBuilder.empty.applyAll
            ((⟨#[Samples.blobs], ⟨40, 4000⟩⟩ : Schema).modelCalls bindings) = (.ok (), builder) ∧
          builder.build = .ok model ∧ model.entity? Samples.blobs.id = some entity ∧
          entity.identifier? = some p.toModel := by
  have htook : Samples.blobs.Took [Samples.property 1 4001 "a" .bytes,
      Samples.property 2 4002 "b" .bytes, Samples.property 3 4003 "c" .text,
      Samples.property 4 4004 "id" .u64] true :=
    Entity.Took.foldl_resolve ⟨40, 4000⟩ "Blobs" ⟨4, 4004⟩ _
  obtain ⟨-, -, hidentifier, hvalid⟩ := slots_and_identifiers_agree.2 _ _ _ htook
  have hthree : Samples.blobs.identifier = some 3 := hidentifier.trans (by decide +kernel)
  obtain ⟨hoffsets, -, i, p, hi, hp, hproperty, -, -, hmodel⟩ :=
    hvalid ⟨#[Samples.blobs], ⟨40, 4000⟩⟩ (by simp) (of_toOption (by decide +kernel))
  obtain rfl : 3 = i := Option.some.inj (hthree.symm.trans hi)
  obtain ⟨bindings, hb⟩ : ∃ bindings,
      (⟨#[Samples.blobs], ⟨40, 4000⟩⟩ : Schema).bindings = .ok bindings :=
    exists_ok (by decide +kernel)
  have hname : Samples.blobs.properties[3]?.map Property.name = some "id" := by decide +kernel
  rw [hp, Option.map_some, Option.some.injEq] at hname
  obtain ⟨builder, model, entity, hmodel⟩ := hmodel bindings hb
  exact ⟨hthree, p, hproperty, hname, hoffsets 3 p hp, bindings, builder, model, entity, hb, hmodel⟩

end RecordStore
