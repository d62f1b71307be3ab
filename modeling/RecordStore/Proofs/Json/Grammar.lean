import RecordStore.Json.Reader
import RecordStore.Proofs.Json.Numerals
import RecordStore.Proofs.Json.Strings

/-! The texts of values, as the format defines them. -/
namespace RecordStore.Json

/-- Nothing but blanks. -/
def Blank (s : List Char) : Prop := ∀ c ∈ s, isSpace c = true

mutual

/-- The text is the value, with no blanks around it. -/
inductive Value.Written : Value → List Char → Prop
  | null : Value.Written .null ['n', 'u', 'l', 'l']
  | yes : Value.Written (.boolean true) ['t', 'r', 'u', 'e']
  | no : Value.Written (.boolean false) ['f', 'a', 'l', 's', 'e']
  | positive {n : Numeral} {s : List Char} : n.negative = false → n.Written s →
      Value.Written (.number n) s
  | negative {n : Numeral} {s : List Char} : n.negative = true → n.Written s →
      Value.Written (.number n) ('-' :: s)
  | string {text : Except Error String} {s : List Char} : StringWritten text s →
      Value.Written (.string text) s
  | emptyArray {b : List Char} : Blank b → Value.Written (.array [] none) ('[' :: (b ++ [']']))
  | array {items : List Value} {s : List Char} : ItemsWritten items s →
      Value.Written (.array items none) ('[' :: (s ++ [']']))
  | emptyObject {b : List Char} : Blank b → Value.Written (.object [] none) ('{' :: (b ++ ['}']))
  | object {members : List Member} {s : List Char} : MembersWritten members s →
      Value.Written (.object members none) ('{' :: (s ++ ['}']))

/-- The text is the value and any blanks around it. -/
inductive Value.Padded : Value → List Char → Prop
  | blanks {v : Value} {b s b' : List Char} : Blank b → v.Written s → Blank b' →
      Value.Padded v (b ++ (s ++ b'))

/-- The text is one or more items. -/
inductive ItemsWritten : List Value → List Char → Prop
  | last {v : Value} {s : List Char} : v.Padded s → ItemsWritten [v] s
  | more {v : Value} {items : List Value} {s t : List Char} : v.Padded s →
      ItemsWritten items t → ItemsWritten (v :: items) (s ++ ',' :: t)

/-- The text is a key and a value. -/
inductive MemberWritten : Member → List Char → Prop
  | pair {key : Except Error String} {v : Value} {b k b' s : List Char} : Blank b →
      StringWritten key k → Blank b' → v.Padded s →
      MemberWritten (.pair key v) (b ++ (k ++ (b' ++ ':' :: s)))

/-- The text is one or more members. -/
inductive MembersWritten : List Member → List Char → Prop
  | last {m : Member} {s : List Char} : MemberWritten m s → MembersWritten [m] s
  | more {m : Member} {members : List Member} {s t : List Char} : MemberWritten m s →
      MembersWritten members t → MembersWritten (m :: members) (s ++ ',' :: t)

end

mutual

/-- A reader passes over what is written. -/
theorem Value.Written.skip : ∀ {v : Value} {s : List Char}, v.Written s → v.skip = .ok ()
  | _, _, .null | _, _, .yes | _, _, .no => rfl
  | _, _, .positive .. | _, _, .negative .. | _, _, .string _ => rfl
  | _, _, .emptyArray _ | _, _, .emptyObject _ => rfl
  | _, _, .array h => by
    rw [Value.skip, h.skip]
    rfl
  | _, _, .object h => by
    rw [Value.skip, h.skip]
    rfl

theorem Value.Padded.skip : ∀ {v : Value} {s : List Char}, v.Padded s → v.skip = .ok ()
  | _, _, .blanks _ h _ => h.skip

theorem ItemsWritten.skip : ∀ {items : List Value} {s : List Char}, ItemsWritten items s →
    Value.skipItems items = .ok ()
  | _, _, .last h => by
    rw [Value.skipItems, h.skip]
    rfl
  | _, _, .more h hmore => by
    rw [Value.skipItems, h.skip]
    exact hmore.skip

theorem MemberWritten.skip : ∀ {m : Member} {s : List Char}, MemberWritten m s →
    ∀ rest, Value.skipMembers (m :: rest) = Value.skipMembers rest
  | _, _, .pair _ _ _ h => fun rest => by
    rw [Value.skipMembers, h.skip]
    rfl

theorem MembersWritten.skip : ∀ {members : List Member} {s : List Char},
    MembersWritten members s → Value.skipMembers members = .ok ()
  | _, _, .last h => h.skip []
  | _, _, .more h hmore => (h.skip _).trans hmore.skip

end

/-- There is a text of the value. -/
def Value.Writable (v : Value) : Prop := ∃ s, v.Written s

theorem blank_nil : Blank [] := fun _ h => by cases h

theorem Value.Writable.padded {v : Value} (h : v.Writable) : ∃ s, v.Padded s :=
  h.imp fun s hs => by simpa using Value.Padded.blanks blank_nil hs blank_nil

theorem Value.Padded.writable {v : Value} {s : List Char} (h : v.Padded s) : v.Writable := by
  obtain ⟨-, h, -⟩ := h
  exact ⟨_, h⟩

theorem ItemsWritten.writable : ∀ {items : List Value} {s : List Char}, ItemsWritten items s →
    ∀ v ∈ items, v.Writable
  | _, _, .last (.blanks _ h _) => List.forall_mem_singleton.mpr ⟨_, h⟩
  | _, _, .more (.blanks _ h _) hmore => List.forall_mem_cons.mpr ⟨⟨_, h⟩, hmore.writable⟩

theorem MembersWritten.written : ∀ {members : List Member} {s : List Char},
    MembersWritten members s → ∀ m ∈ members, ∃ s, MemberWritten m s
  | _, _, .last h => List.forall_mem_singleton.mpr ⟨_, h⟩
  | _, _, .more h hmore => List.forall_mem_cons.mpr ⟨⟨_, h⟩, hmore.written⟩

theorem Value.writable_array {items : List Value} :
    (array items none).Writable ↔ ∀ v ∈ items, v.Writable := by
  constructor
  · rintro ⟨s, h⟩
    cases h with
    | emptyArray => simp
    | array h => exact h.writable
  · intro h
    have hitems : items = [] ∨ ∃ s, ItemsWritten items s := by
      induction items with
      | nil => exact .inl rfl
      | cons v items ih =>
        rw [List.forall_mem_cons] at h
        obtain ⟨s, hs⟩ := h.1.padded
        rcases ih h.2 with rfl | ⟨t, ht⟩
        · exact .inr ⟨s, .last hs⟩
        · exact .inr ⟨_, .more hs ht⟩
    rcases hitems with rfl | ⟨s, hs⟩
    · exact ⟨_, .emptyArray blank_nil⟩
    · exact ⟨_, .array hs⟩

theorem Value.writable_object {members : List Member} :
    (object members none).Writable ↔ ∀ m ∈ members, ∃ s, MemberWritten m s := by
  constructor
  · rintro ⟨s, h⟩
    cases h with
    | emptyObject => simp
    | object h => exact h.written
  · intro h
    have hmembers : members = [] ∨ ∃ s, MembersWritten members s := by
      induction members with
      | nil => exact .inl rfl
      | cons m members ih =>
        rw [List.forall_mem_cons] at h
        obtain ⟨s, hs⟩ := h.1
        rcases ih h.2 with rfl | ⟨t, ht⟩
        · exact .inr ⟨s, .last hs⟩
        · exact .inr ⟨_, .more hs ht⟩
    rcases hmembers with rfl | ⟨s, hs⟩
    · exact ⟨_, .emptyObject blank_nil⟩
    · exact ⟨_, .object hs⟩

theorem exists_memberWritten_iff {key : Except Error String} {v : Value} :
    (∃ s, MemberWritten (.pair key v) s) ↔ (∃ k, StringWritten key k) ∧ v.Writable := by
  constructor
  · rintro ⟨s, h⟩
    cases h with
    | pair _ hk _ h =>
      cases h with
      | blanks _ h _ => exact ⟨⟨_, hk⟩, _, h⟩
  · rintro ⟨⟨k, hk⟩, h⟩
    obtain ⟨s, hs⟩ := h.padded
    exact ⟨_, .pair blank_nil hk blank_nil hs⟩

end RecordStore.Json
