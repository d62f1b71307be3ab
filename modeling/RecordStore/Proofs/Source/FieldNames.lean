import RecordStore.Proofs.Schema.RoundTrip
import RecordStore.Proofs.Source.Flattening
import RecordStore.Proofs.Text.Identifiers

/-! Identifiers that generated source derives from the names of properties: when the handles, the
fields and the variables of an entity are told apart. -/
namespace RecordStore

open Source Text

/-- The name of a property as an identifier, without the mark of raw ones. -/
def Property.word? (p : Property) : Option String :=
  (Identifier.parse? p.name).map Identifier.name

/-- The words that the identifiers for the properties of an entity are derived from. -/
def Entity.words (e : Entity) : List String := e.properties.toList.filterMap Property.word?

/-- The words in constant case. -/
def Entity.constants (e : Entity) : List String := e.words.map Words.constant

theorem of_identifierFor {name : String} {i : Identifier} (h : identifierFor name = .ok i) :
    Identifier.parse? name = some i := by
  rw [identifierFor] at h
  cases hp : Identifier.parse? name with
  | none =>
    rw [hp] at h
    cases h
  | some j =>
    rw [hp] at h
    cases h
    rfl

/-- What is derived from a word is neither raw nor more than the text says. -/
theorem BoundField.names_of_ofProperty {e : Entity} {p : Property} {f : BoundField}
    (h : ofProperty e p = .ok f) :
    p.word? = some f.name.name ∧ f.child = ⟨false, "offset_" ++ f.name.name⟩ ∧
      f.handle = ⟨false, Words.constant f.name.name⟩ := by
  obtain ⟨type, -, h⟩ := bind_eq_ok.mp h
  obtain ⟨name, hname, h⟩ := bind_eq_ok.mp h
  obtain ⟨child, hchild, h⟩ := bind_eq_ok.mp h
  obtain ⟨handle, hhandle, he⟩ := bind_eq_ok.mp h
  cases he
  have hword := of_identifierFor hname
  have hplain := Identifier.plain_of_parse? hword
  refine ⟨by rw [Property.word?, hword, Option.map_some], ?_, ?_⟩
  · refine Identifier.eq_of_parse?_of_plain ?_ (of_identifierFor hchild)
    rw [String.toList_append]
    have hmark : ∀ c ∈ "offset_".toList, Identifier.continues c = true :=
      List.all_eq_true.mp (by decide)
    exact List.forall_mem_append.mpr ⟨Identifier.plain_of_continues hmark, hplain⟩
  · exact Identifier.eq_of_parse?_of_plain (Words.plain_constant hplain) (of_identifierFor hhandle)

namespace Binding

variable {e : Entity} {b : Binding}

theorem names_of_ofEntity (h : ofEntity e = .ok b) :
    b.fields.map (·.name.name) = e.words ∧
      b.fields.map (·.child.name) = e.words.map ("offset_" ++ ·) ∧
      b.fields.map (·.handle.name) = e.constants := by
  obtain ⟨-, hf⟩ := mapM_of_ofEntity h
  have hwords : b.fields.map (fun f => some f.name.name) = e.properties.toList.map Property.word? :=
    map_of_mapM hf fun p f ho => (BoundField.names_of_ofProperty ho).1.symm
  have hw : b.fields.map (·.name.name) = e.words := by
    have hsome := congrArg (List.filterMap fun word => word) hwords
    simpa [List.filterMap_map, Entity.words] using hsome
  have hfield : ∀ f ∈ b.fields, f.child = ⟨false, "offset_" ++ f.name.name⟩ ∧
      f.handle = ⟨false, Words.constant f.name.name⟩ := by
    intro f hmem
    obtain ⟨p, -, ho⟩ := mem_of_mapM hf hmem
    exact (BoundField.names_of_ofProperty ho).2
  refine ⟨hw, ?_, ?_⟩
  · rw [← hw, List.map_map]
    exact List.map_congr_left fun f hmem => by rw [(hfield f hmem).1]; rfl
  · rw [Entity.constants, ← hw, List.map_map]
    exact List.map_congr_left fun f hmem => by rw [(hfield f hmem).2]; rfl

/-- Words that differ in constant case keep all that is derived from them apart, and only they. -/
theorem nodup_constants_iff (h : ofEntity e = .ok b) :
    e.constants.Nodup ↔ (b.fields.map (·.handle.name)).Nodup ∧
      (b.fields.map (·.name.name)).Nodup ∧ (b.fields.map (·.child.name)).Nodup := by
  obtain ⟨hw, hc, hh⟩ := names_of_ofEntity h
  rw [hw, hc, hh]
  refine ⟨fun hn => ⟨hn, hn.of_map, (hn.of_map).map ?_⟩, fun hn => hn.1⟩
  intro v w hvw
  have hlist := congrArg String.toList hvw
  simp only [String.toList_append, List.append_cancel_left_eq] at hlist
  exact String.toList_injective hlist

end Binding

namespace Entity

/-- Words in snake case stay apart in constant case if names spell them as they have to be spelt:
without blanks and comments, and raw if they are reserved but only then. -/
theorem nodup_constants_of_snake {e : Entity} (hn : (e.properties.toList.map Property.name).Nodup)
    (h : ∀ p ∈ e.properties, ∃ i ∈ Identifier.parse? p.name, p.name = i.render ∧
      i.raw = Identifier.reserved.contains i.name ∧ Words.snake (Words.constant i.name) = i.name) :
    e.constants.Nodup := by
  have hnames : e.words.map (fun w => Identifier.render ⟨Identifier.reserved.contains w, w⟩) =
      e.properties.toList.map Property.name := by
    rw [words, List.map_filterMap, ← List.filterMap_eq_map]
    refine List.filterMap_congr fun p hp => ?_
    obtain ⟨i, hi, hname, hraw, -⟩ := h p (Array.mem_toList_iff.mp hp)
    simp only [Property.word?, Option.mem_def.mp hi, Option.map_some, ← hraw, ← hname,
      Function.comp_apply]
  have hwords : e.constants.map Words.snake = e.words := by
    rw [constants, List.map_map]
    refine (List.map_congr_left fun w hw => ?_).trans (List.map_id _)
    obtain ⟨p, hp, hword⟩ := List.mem_filterMap.mp hw
    obtain ⟨i, hi, -, -, hsnake⟩ := h p (Array.mem_toList_iff.mp hp)
    rw [Property.word?, Option.mem_def.mp hi, Option.map_some, Option.some.injEq] at hword
    exact hword ▸ hsnake
  exact List.Nodup.of_map Words.snake (hwords ▸ List.Nodup.of_map _ (hnames ▸ hn))

end Entity

namespace Schema

variable {s : Schema} {config : Config} {source : GeneratedSource}

/-- In the unit of an entity the handles of its properties, the fields and the variables of children
are pairwise distinct exactly if the words of the properties differ in constant case. Then every slot
of a child refers to the child of its own field. -/
theorem derived_names_keep_apart (h : s.generate config = .ok source) {e : Entity}
    (he : e ∈ s.entities) :
    ∃ b path, Binding.ofEntity e = .ok b ∧ b.unit path config.fileSuffix ∈ source.units ∧
      b.fields.map BoundField.property = e.properties.toList ∧
      (e.constants.Nodup ↔ (b.fields.map (·.handle.name)).Nodup ∧
        (b.fields.map (·.name.name)).Nodup ∧ (b.fields.map (·.child.name)).Nodup) ∧
      b.flattenCode path = b.flattenHead path ++
        Code.brace (b.flattenStatements.flatMap (FlattenStatement.code path) ++ Code.success) ∧
      (e.constants.Nodup → FlattenStatement.references [] b.flattenStatements =
        (b.fields.filter BoundField.refers).map fun f => (f.property.slot, some f)) := by
  obtain ⟨-, path, bindings, function, hb, rfl⟩ := source_of_generate h
  obtain ⟨b, hmem, ho⟩ := exists_of_mapM hb (Array.mem_toList_iff.mpr he)
  have hiff := Binding.nodup_constants_iff ho
  refine ⟨b, path, ho, ?_, (Binding.of_ofEntity ho).2.1, hiff, b.flattenCode_eq path, fun hn => ?_⟩
  · exact List.mem_append_left _ (List.mem_map_of_mem hmem)
  · exact FlattenStatement.references_of_nodup (hiff.mp hn).2.2

theorem derived_names_keep_apart_note : ∃ source b, noteSchema.generate {} = .ok source ∧
    Binding.ofEntity note = .ok b ∧ (b.fields.map (·.handle.name)).Nodup ∧
    (b.fields.map (·.name.name)).Nodup ∧ (b.fields.map (·.child.name)).Nodup ∧
    FlattenStatement.references [] b.flattenStatements =
      (b.fields.filter BoundField.refers).map fun f => (f.property.slot, some f) := by
  obtain ⟨source, hgen⟩ := exists_generate_noteSchema
  obtain ⟨b, path, hb, -, -, hiff, -, hslots⟩ := derived_names_keep_apart hgen
    (show note ∈ noteSchema.entities by simp [noteSchema])
  have hconstants : note.constants.Nodup :=
    note.nodup_constants_of_snake (by decide +kernel) (by decide +kernel)
  obtain ⟨hhandles, hnames, hchildren⟩ := hiff.mp hconstants
  exact ⟨source, b, hgen, hb, hhandles, hnames, hchildren, hslots hconstants⟩

/-- An entity with a field that has no need to be raw, beside one of the same word. -/
def draft : Entity := Samples.entity 1 1000 "Draft" ⟨3, 1003⟩ [
  Samples.property 1 1001 "id" .u64, Samples.property 2 1002 "text" .text,
  Samples.property 3 1003 "r#text" .text]

/-- Source is generated for the entity, with two handles, two fields and two variables of one name;
the slots of both texts refer to the child of the second. -/
theorem derived_names_clash_draft :
    (∃ source, generate ⟨#[draft], ⟨1, 1000⟩⟩ {} = .ok source) ∧
      ∃ b, Binding.ofEntity draft = .ok b ∧
        b.fields.map (·.handle.render) = ["ID", "TEXT", "TEXT"] ∧
        b.fields.map (·.name.render) = ["id", "text", "r#text"] ∧
        b.fields.map (·.child.render) = ["offset_id", "offset_text", "offset_text"] ∧
        ¬ (b.fields.map (·.handle.name)).Nodup ∧ ¬ (b.fields.map (·.name.name)).Nodup ∧
        ¬ (b.fields.map (·.child.name)).Nodup ∧
        (FlattenStatement.references [] b.flattenStatements).map
            (fun reference => (reference.1, reference.2.map (·.name.render))) =
          [(1, some "r#text"), (2, some "r#text")] :=
  ⟨exists_ok (by decide +kernel), exists_ok_and (by decide +kernel)⟩

end Schema

end RecordStore
