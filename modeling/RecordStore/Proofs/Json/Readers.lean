import RecordStore.Json.Reader
import RecordStore.Proofs.Json.Soundness

/-! What typed readers ask of the values that they accept: a form without faults, and of the members
of a record no order. -/
namespace RecordStore.Json

variable {α δ : Type}

/-- Only values without faults are accepted. -/
def Careful (read : Value → Outcome α) : Prop :=
  ∀ ⦃v a⦄, read v = .ok a → v.skip = .ok ()

namespace Value

variable {v : Value}

theorem mismatch_ne_ok {wanted : String} {a : α} : v.mismatch wanted ≠ .ok a := by
  intro h
  obtain ⟨_, -, he⟩ := bind_eq_ok.mp h
  cases he

theorem text_eq_ok {t : String} : v.text = .ok t ↔ v = string (.ok t) := by
  constructor
  · intro h
    cases v with
    | string text => rw [show text = .ok t from h]
    | _ => exact absurd h mismatch_ne_ok
  · rintro rfl
    rfl

theorem careful_text : Careful text := by
  intro v t h
  rw [text_eq_ok.mp h]
  rfl

theorem careful_parsedText (parse : String → Except String α) : Careful (parsedText parse) := by
  intro v a h
  obtain ⟨t, ht, -⟩ := bind_eq_ok.mp h
  rw [text_eq_ok.mp ht]
  rfl

theorem exists_number_of_word32 {n : UInt32} (h : v.word32 = .ok n) : ∃ m, v = number m := by
  obtain ⟨f, hf, h⟩ := bind_eq_ok.mp h
  cases v with
  | number m => exact ⟨m, rfl⟩
  | string text =>
    obtain ⟨t, -, rfl⟩ := map_eq_ok.mp hf
    cases h
  | broken => cases hf
  | _ =>
    cases hf
    cases h

theorem careful_word32 : Careful word32 := by
  intro v n h
  obtain ⟨m, rfl⟩ := exists_number_of_word32 h
  rfl

/-- A choice is written as a name, or as an object of one member, whose value is null. -/
theorem choice_cases {choices : List (String × α)} {a : α} (h : choice choices v = .ok a) :
    (∃ text, v = string text) ∨ ∃ key, v = object [.pair key null] none := by
  cases v with
  | string text => exact .inl ⟨text, rfl⟩
  | object members ending =>
    cases members with
    | nil => cases h
    | cons m rest =>
      cases m with
      | pair key w =>
        obtain ⟨name, -, h⟩ := bind_eq_ok.mp h
        obtain ⟨found, -, h⟩ := bind_eq_ok.mp h
        cases w with
        | null =>
          cases rest with
          | nil =>
            obtain ⟨⟨⟩, hending, -⟩ := bind_eq_ok.mp h
            exact .inr ⟨key, by rw [endingOutcome_eq_ok.mp hending]⟩
          | cons => cases h
        | _ =>
          obtain ⟨_, hunit, -⟩ := bind_eq_ok.mp h
          exact absurd hunit mismatch_ne_ok
      | brokenKey => cases h
      | stray => exact absurd h mismatch_ne_ok
  | _ => cases h

theorem list_eq_ok {read : Value → Outcome α} {xs : List α} :
    list read v = .ok xs ↔ ∃ items, v = array items none ∧ items.mapM read = .ok xs := by
  constructor
  · intro h
    cases v with
    | array items ending =>
      obtain ⟨ys, hm, h⟩ := bind_eq_ok.mp h
      obtain ⟨⟨⟩, hending, he⟩ := bind_eq_ok.mp h
      cases he
      exact ⟨items, by rw [endingOutcome_eq_ok.mp hending], hm⟩
    | _ => exact absurd h mismatch_ne_ok
  · rintro ⟨items, rfl, hm⟩
    simp [list, hm, endingOutcome]

theorem skipItems_eq_ok {items : List Value} :
    skipItems items = .ok () ↔ ∀ v ∈ items, v.skip = .ok () := by
  induction items with
  | nil => simp [skipItems]
  | cons v rest ih =>
    rw [skipItems, bind_eq_ok, List.forall_mem_cons, ← ih]
    exact ⟨fun ⟨⟨⟩, h⟩ => h, fun h => ⟨(), h⟩⟩

/-- A member is passed over if it has a key and a value without faults. -/
theorem skipMembers_eq_ok {members : List Member} :
    skipMembers members = .ok () ↔ ∀ m ∈ members, ∃ key v, m = .pair key v ∧ v.skip = .ok () := by
  induction members with
  | nil => simp [skipMembers]
  | cons m rest ih =>
    rw [List.forall_mem_cons, ← ih]
    cases m with
    | pair key v =>
      rw [skipMembers, bind_eq_ok]
      constructor
      · rintro ⟨⟨⟩, hv, hrest⟩
        exact ⟨⟨key, v, rfl, hv⟩, hrest⟩
      · rintro ⟨⟨_, _, he, hv⟩, hrest⟩
        cases he
        exact ⟨(), hv, hrest⟩
    | brokenKey => simp [skipMembers]
    | stray => simp [skipMembers]

theorem careful_optional {read : Value → Outcome α} (h : Careful read) :
    Careful (optional read) := by
  intro v a ha
  cases v with
  | null => rfl
  | _ =>
    obtain ⟨x, hx, -⟩ := bind_eq_ok.mp ha
    exact h hx

theorem careful_list {read : Value → Outcome α} (h : Careful read) : Careful (list read) := by
  intro v xs hxs
  obtain ⟨items, rfl, hm⟩ := list_eq_ok.mp hxs
  rw [skip_array, skipItems_eq_ok]
  refine ⟨fun v hv => ?_, rfl⟩
  obtain ⟨x, -, hx⟩ := exists_of_mapM hm hv
  exact h hx

theorem careful_choice (choices : List (String × α)) : Careful (choice choices) := by
  intro v a h
  rcases choice_cases h with ⟨text, rfl⟩ | ⟨key, rfl⟩ <;> rfl

end Value

/-- Reading a field takes only values without faults, and fills it. -/
structure Field.Fills (f : Field δ) : Prop where
  careful : ∀ {v d d'}, f.read v d = .ok d' → v.skip = .ok ()
  present : ∀ {v d d'}, f.read v d = .ok d' → f.present d' = true

/-- Reading one of two fields leaves the other as it is. -/
structure Field.Separate (f g : Field δ) : Prop where
  keeps : ∀ {v d d'}, f.read v d = .ok d' → g.present d' = g.present d
  commutes : ∀ {v w d d₁ d₂}, f.read v d = .ok d₁ → g.read w d₁ = .ok d₂ →
    ∃ d₁', g.read w d = .ok d₁' ∧ f.read v d₁' = .ok d₂

/-- No two fields of a shape have to do with each other. -/
structure Shape.Orderless (shape : Shape δ) : Prop where
  fills : ∀ f ∈ shape.fields, f.Fills
  separate : ∀ f ∈ shape.fields, ∀ g ∈ shape.fields, f ≠ g → f.Separate g

namespace Shape

variable {shape : Shape δ} {start d d' d₁ d₂ : δ} {m : Member} {members : List Member}

/-- A member that is read is a known field that was missing, or has an unknown name. -/
theorem readMember_eq_ok :
    shape.readMember d m = .ok d' ↔ ∃ name v, m = .pair (.ok name) v ∧
      ((shape.fields.find? (·.name == name) = none ∧ v.skip = .ok () ∧ d' = d) ∨
        ∃ f, shape.fields.find? (·.name == name) = some f ∧ f.present d = false ∧
          f.read v d = .ok d') := by
  constructor
  · intro h
    cases m with
    | pair key v =>
      obtain ⟨name, hkey, hread⟩ := bind_eq_ok.mp h
      subst hkey
      refine ⟨name, v, rfl, ?_⟩
      cases hfind : shape.fields.find? (·.name == name) with
      | none =>
        rw [hfind] at hread
        obtain ⟨⟨⟩, hskip, he⟩ := bind_eq_ok.mp hread
        cases he
        exact .inl ⟨rfl, hskip, rfl⟩
      | some f =>
        rw [hfind] at hread
        obtain ⟨hp, hread⟩ := ite_error_eq_ok.mp hread
        exact .inr ⟨f, rfl, Bool.eq_false_iff.mpr hp, hread⟩
    | brokenKey => cases h
    | stray => cases h
  · rintro ⟨name, v, rfl, ⟨hfind, hskip, rfl⟩ | ⟨f, hfind, hp, h⟩⟩
    · simp [readMember, hfind, hskip]
    · simp [readMember, hfind, hp, h]

theorem Orderless.readMember_comm (hs : shape.Orderless) {m' : Member}
    (h₁ : shape.readMember d m = .ok d₁) (h₂ : shape.readMember d₁ m' = .ok d₂) :
    ∃ d₁', shape.readMember d m' = .ok d₁' ∧ shape.readMember d₁' m = .ok d₂ := by
  have h₁' := h₁
  have h₂' := h₂
  rw [readMember_eq_ok] at h₁' h₂'
  obtain ⟨name, v, rfl, ⟨hfind, hskip, rfl⟩ | ⟨f, hfind, hmissing, hread⟩⟩ := h₁'
  · exact ⟨d₂, h₂, readMember_eq_ok.mpr ⟨name, v, rfl, .inl ⟨hfind, hskip, rfl⟩⟩⟩
  obtain ⟨name', w, rfl, ⟨hfind', hskip, rfl⟩ | ⟨g, hfind', hmissing', hread'⟩⟩ := h₂'
  · exact ⟨d, readMember_eq_ok.mpr ⟨name', w, rfl, .inl ⟨hfind', hskip, rfl⟩⟩, h₁⟩
  have hf := List.mem_of_find?_eq_some hfind
  have hg := List.mem_of_find?_eq_some hfind'
  have hne : f ≠ g := by
    rintro rfl
    rw [(hs.fills f hf).present hread] at hmissing'
    cases hmissing'
  obtain ⟨d₁', hg', hf'⟩ := (hs.separate f hf g hg hne).commutes hread hread'
  rw [(hs.separate f hf g hg hne).keeps hread] at hmissing'
  rw [← (hs.separate g hg f hf hne.symm).keeps hg'] at hmissing
  exact ⟨d₁', readMember_eq_ok.mpr ⟨name', w, rfl, .inr ⟨g, hfind', hmissing', hg'⟩⟩,
    readMember_eq_ok.mpr ⟨name, v, rfl, .inr ⟨f, hfind, hmissing, hf'⟩⟩⟩

/-- The order of the members does not count. -/
theorem Orderless.foldlM_perm (hs : shape.Orderless) {members' : List Member}
    (hp : members.Perm members') (h : members.foldlM shape.readMember d = .ok d') :
    members'.foldlM shape.readMember d = .ok d' := by
  induction hp generalizing d d' with
  | nil => exact h
  | cons m _ ih =>
    obtain ⟨d₁, hm, h⟩ := bind_eq_ok.mp h
    exact bind_eq_ok.mpr ⟨d₁, hm, ih h⟩
  | swap m' m rest =>
    obtain ⟨d₁, hm, h⟩ := bind_eq_ok.mp h
    obtain ⟨d₂, hm', h⟩ := bind_eq_ok.mp h
    obtain ⟨d₁', hm', hm⟩ := hs.readMember_comm hm hm'
    exact bind_eq_ok.mpr ⟨d₁', hm', bind_eq_ok.mpr ⟨d₂, hm, h⟩⟩
  | trans _ _ ih₁ ih₂ => exact ih₂ (ih₁ h)

/-- A field that no member has stays missing. -/
theorem Orderless.foldlM_missing (hs : shape.Orderless) {f : Field δ} {name : String}
    (hfind : shape.fields.find? (·.name == name) = some f)
    (hm : ∀ v, Member.pair (.ok name) v ∉ members)
    (h : members.foldlM shape.readMember d = .ok d') : f.present d' = f.present d := by
  induction members generalizing d with
  | nil =>
    cases h
    rfl
  | cons m rest ih =>
    obtain ⟨d₁, hm₁, h⟩ := bind_eq_ok.mp h
    rw [ih (fun v hv => hm v (List.mem_cons_of_mem _ hv)) h]
    obtain ⟨name', v, rfl, ⟨-, -, rfl⟩ | ⟨g, hfind', -, hread⟩⟩ := readMember_eq_ok.mp hm₁
    · rfl
    · refine (hs.separate g (List.mem_of_find?_eq_some hfind') f
        (List.mem_of_find?_eq_some hfind) ?_).keeps hread
      rintro rfl
      have hname : g.name = name := by simpa using List.find?_some hfind
      have hname' : g.name = name' := by simpa using List.find?_some hfind'
      exact hm v (by rw [← hname, hname']; exact List.mem_cons_self)

theorem complete_eq_ok :
    shape.complete d = .ok d' ↔
      (∀ f ∈ shape.fields, f.required = true → f.present d = true) ∧ d' = d := by
  rw [complete]
  cases hfind : shape.fields.find? fun f => f.required && !f.present d with
  | none =>
    have hall := List.find?_eq_none.mp hfind
    simp only [Bool.and_eq_true, Bool.not_eq_true', not_and, Bool.not_eq_false] at hall
    exact ⟨fun h => ⟨hall, by cases h; rfl⟩, fun h => by rw [h.2]⟩
  | some f =>
    have hf := List.find?_some hfind
    simp only [Bool.and_eq_true, Bool.not_eq_true'] at hf
    refine iff_of_false (by simp) ?_
    rintro ⟨hall, -⟩
    rw [hall f (List.mem_of_find?_eq_some hfind) hf.1] at hf
    cases hf.2

theorem read_object_eq_ok :
    shape.read start (.object members none) = .ok d ↔
      members.foldlM shape.readMember start = .ok d ∧
        ∀ f ∈ shape.fields, f.required = true → f.present d = true := by
  rw [read, bind_eq_ok]
  constructor
  · rintro ⟨d', hd, h⟩
    obtain ⟨hall, rfl⟩ := complete_eq_ok.mp h
    exact ⟨hd, hall⟩
  · rintro ⟨hd, hall⟩
    exact ⟨d, hd, complete_eq_ok.mpr ⟨hall, rfl⟩⟩

/-- Where fields are read by place, each item goes into the field of its place. -/
theorem of_readPlaces_ok {fields : List (Field δ)} {index : Nat} {ending : Option Error}
    {items : List Value} (h : shape.readPlaces index ending fields items start = .ok d) :
    ending = none ∧ items.length ≤ fields.length := by
  induction fields generalizing index items start with
  | nil =>
    cases items with
    | nil =>
      obtain ⟨⟨⟩, hending, -⟩ := bind_eq_ok.mp h
      exact ⟨Value.endingOutcome_eq_ok.mp hending, Nat.le_refl _⟩
    | cons => cases h
  | cons f fields ih =>
    cases items with
    | nil =>
      obtain ⟨⟨⟩, hending, -⟩ := bind_eq_ok.mp h
      exact ⟨Value.endingOutcome_eq_ok.mp hending, Nat.zero_le _⟩
    | cons v items =>
      obtain ⟨d', -, h⟩ := bind_eq_ok.mp h
      exact ⟨(ih h).1, Nat.succ_le_succ (ih h).2⟩

/-- A record is an object or an array, and its end is not missing. -/
theorem read_cases {v : Value} (h : shape.read start v = .ok d) :
    (∃ members, v = .object members none) ∨ ∃ items, v = .array items none := by
  cases v with
  | object members ending =>
    obtain ⟨d', -, h⟩ := bind_eq_ok.mp h
    obtain ⟨⟨⟩, hending, -⟩ := bind_eq_ok.mp h
    exact .inl ⟨members, by rw [Value.endingOutcome_eq_ok.mp hending]⟩
  | array items ending => exact .inr ⟨items, by rw [(of_readPlaces_ok h).1]⟩
  | _ => exact absurd h Value.mismatch_ne_ok

theorem careful_readPlaces {fields : List (Field δ)} (hf : ∀ f ∈ fields, f.Fills) {index : Nat}
    {ending : Option Error} {items : List Value}
    (h : shape.readPlaces index ending fields items start = .ok d) :
    ∀ v ∈ items, v.skip = .ok () := by
  induction fields generalizing index items start with
  | nil =>
    cases items with
    | nil => simp
    | cons => cases h
  | cons f fields ih =>
    rw [List.forall_mem_cons] at hf
    cases items with
    | nil => simp
    | cons v items =>
      obtain ⟨d', hread, h⟩ := bind_eq_ok.mp h
      exact List.forall_mem_cons.mpr ⟨hf.1.careful hread, ih hf.2 h⟩

theorem Orderless.careful_foldlM (hs : shape.Orderless)
    (h : members.foldlM shape.readMember start = .ok d) :
    Value.skipMembers members = .ok () := by
  rw [Value.skipMembers_eq_ok]
  induction members generalizing start with
  | nil => simp
  | cons m rest ih =>
    obtain ⟨d', hm, h⟩ := bind_eq_ok.mp h
    refine List.forall_mem_cons.mpr ⟨?_, ih h⟩
    obtain ⟨name, v, rfl, ⟨-, hskip, -⟩ | ⟨f, hfind, -, hread⟩⟩ := readMember_eq_ok.mp hm
    · exact ⟨_, v, rfl, hskip⟩
    · exact ⟨_, v, rfl, (hs.fills f (List.mem_of_find?_eq_some hfind)).careful hread⟩

theorem Orderless.careful (hs : shape.Orderless) : Careful (shape.read start) := by
  intro v d h
  rcases read_cases h with ⟨members, rfl⟩ | ⟨items, rfl⟩
  · rw [read_object_eq_ok] at h
    exact Value.skip_object.mpr ⟨hs.careful_foldlM h.1, rfl⟩
  · exact Value.skip_array.mpr
      ⟨Value.skipItems_eq_ok.mpr (careful_readPlaces hs.fills h), rfl⟩

section

variable {v w : Value} {xs ys : List Member}

/-- Another value that its field takes the same way can stand in the place of one. -/
theorem read_replace_member {key : Except Error String}
    (h : ∀ {d d'}, shape.readMember d (.pair key v) = .ok d' →
      shape.readMember d (.pair key w) = .ok d')
    (hread : shape.read start (.object (xs ++ .pair key v :: ys) none) = .ok d) :
    shape.read start (.object (xs ++ .pair key w :: ys) none) = .ok d := by
  rw [read_object_eq_ok] at hread ⊢
  obtain ⟨hfold, hall⟩ := hread
  refine ⟨?_, hall⟩
  rw [List.foldlM_append] at hfold ⊢
  obtain ⟨d₁, hxs, hrest⟩ := bind_eq_ok.mp hfold
  obtain ⟨d₂, hv, hys⟩ := bind_eq_ok.mp hrest
  exact bind_eq_ok.mpr ⟨d₁, hxs, bind_eq_ok.mpr ⟨d₂, h hv, hys⟩⟩

theorem readPlaces_replace {fields : List (Field δ)} {index : Nat} {ending : Option Error}
    {xs ys : List Value}
    (h : ∀ f, fields[xs.length]? = some f → ∀ {d d'}, f.read v d = .ok d' → f.read w d = .ok d')
    (hread : shape.readPlaces index ending fields (xs ++ v :: ys) start = .ok d) :
    shape.readPlaces index ending fields (xs ++ w :: ys) start = .ok d := by
  induction fields generalizing index xs start with
  | nil => cases xs <;> cases hread
  | cons f fields ih =>
    cases xs with
    | nil =>
      obtain ⟨d', hv, hread⟩ := bind_eq_ok.mp hread
      exact bind_eq_ok.mpr ⟨d', h f rfl hv, hread⟩
    | cons x xs =>
      obtain ⟨d', hx, hread⟩ := bind_eq_ok.mp hread
      exact bind_eq_ok.mpr ⟨d', hx, ih (fun g hg => h g hg) hread⟩

end

/-- A member more, of a name that no field has. -/
theorem read_insert_unknown {name : String} {v : Value}
    (hfind : shape.fields.find? (·.name == name) = none) (hskip : v.skip = .ok ())
    (h : shape.read start (.object members none) = .ok d) :
    shape.read start (.object (.pair (.ok name) v :: members) none) = .ok d := by
  rw [read_object_eq_ok] at h ⊢
  refine ⟨bind_eq_ok.mpr ⟨start, ?_, h.1⟩, h.2⟩
  exact readMember_eq_ok.mpr ⟨name, v, rfl, .inl ⟨hfind, hskip, rfl⟩⟩

theorem Orderless.read_perm (hs : shape.Orderless) {members' : List Member}
    (hp : members.Perm members') (h : shape.read start (.object members none) = .ok d) :
    shape.read start (.object members' none) = .ok d := by
  rw [read_object_eq_ok] at h ⊢
  exact ⟨hs.foldlM_perm hp h.1, h.2⟩

/-- A field that no member has is missing in the end. -/
theorem Orderless.read_missing (hs : shape.Orderless) {f : Field δ} {name : String}
    (hfind : shape.fields.find? (·.name == name) = some f)
    (hm : ∀ v, Member.pair (.ok name) v ∉ members) (hstart : f.present start = false)
    (h : shape.read start (.object members none) = .ok d) : f.present d = false := by
  rw [read_object_eq_ok] at h
  rw [hs.foldlM_missing hfind hm h.1, hstart]

/-- A member more, of a field that is missing, could as well be read in the end. -/
theorem Orderless.read_insert_missing (hs : shape.Orderless) {f : Field δ} {name : String}
    (hfind : shape.fields.find? (·.name == name) = some f) (hmissing : f.present d = false)
    {v : Value} (hread : f.read v d = .ok d')
    (h : shape.read start (.object members none) = .ok d) :
    shape.read start (.object (.pair (.ok name) v :: members) none) = .ok d' := by
  rw [read_object_eq_ok] at h
  have hlast : (members ++ [Member.pair (.ok name) v]).Perm (.pair (.ok name) v :: members) :=
    List.perm_append_comm
  refine hs.read_perm hlast ?_
  rw [read_object_eq_ok, List.foldlM_append]
  constructor
  · refine bind_eq_ok.mpr ⟨d, h.1, bind_eq_ok.mpr ⟨d', ?_, rfl⟩⟩
    exact readMember_eq_ok.mpr ⟨name, v, rfl, .inr ⟨f, hfind, hmissing, hread⟩⟩
  · intro g hg hrequired
    have hf := List.mem_of_find?_eq_some hfind
    by_cases hgf : f = g
    · rw [← hgf]
      exact (hs.fills f hf).present hread
    · rw [(hs.separate f hf g hg hgf).keeps hread]
      exact h.2 g hg hrequired

end Shape

end RecordStore.Json
