import RecordStore.Proofs.Json.Reading

/-! What the reader of trees finds without a fault is a text of the value that it gives. -/
namespace RecordStore.Json

variable {s t b rest : List Char} {c : Char} {v : Value} {fuel : Nat}

theorem of_word {w : List Char} (h : word w s = .ok rest) : s = w ++ rest := by
  induction w generalizing s with
  | nil =>
    cases h
    rfl
  | cons c w ih =>
    cases s with
    | nil => cases h
    | cons d s =>
      by_cases hc : c = d
      · rw [word, if_pos hc] at h
        rw [hc, ih h, List.cons_append]
      · rw [word, if_neg hc] at h
        cases h

namespace Value

theorem endingOutcome_eq_ok {ending : Option Error} :
    endingOutcome ending = .ok () ↔ ending = none := by
  cases ending <;> simp [endingOutcome]

theorem skip_array {items : List Value} {ending : Option Error} :
    (array items ending).skip = .ok () ↔ skipItems items = .ok () ∧ ending = none := by
  rw [skip, bind_eq_ok, ← endingOutcome_eq_ok]
  exact ⟨fun ⟨⟨⟩, h⟩ => h, fun h => ⟨(), h⟩⟩

theorem skip_object {members : List Member} {ending : Option Error} :
    (object members ending).skip = .ok () ↔ skipMembers members = .ok () ∧ ending = none := by
  rw [skip, bind_eq_ok, ← endingOutcome_eq_ok]
  exact ⟨fun ⟨⟨⟩, h⟩ => h, fun h => ⟨(), h⟩⟩

variable {r : Option (List Char)}

theorem of_ofWord {w : Value} {letters : List Char} (h : ofWord w letters s = (v, r))
    (hskip : v.skip = .ok ()) : v = w ∧ ∃ rest, r = some rest ∧ s = letters ++ rest := by
  unfold ofWord at h
  split at h
  case h_1 hword =>
    cases h
    exact ⟨rfl, _, rfl, of_word hword⟩
  case h_2 =>
    cases h
    cases hskip

theorem of_ofNumeral {negative : Bool} (h : ofNumeral negative s = (v, r))
    (hskip : v.skip = .ok ()) : ∃ n t rest, v = number n ∧ n.negative = negative ∧
      r = some rest ∧ n.Written t ∧ s = t ++ rest := by
  unfold ofNumeral at h
  split at h
  case h_1 n rest hn =>
    cases h
    obtain ⟨hneg, t, ht, hs⟩ := Numeral.written_of_numeral hn
    exact ⟨n, t, rest, rfl, hneg, rfl, ht, hs⟩
  case h_2 =>
    split at h
    case h_1 n rest hn =>
      cases h
      obtain ⟨hneg, t, ht, hs⟩ := Numeral.written_of_numeral hn
      exact ⟨n, t, rest, rfl, hneg, rfl, ht, hs⟩
    case h_2 =>
      cases h
      cases hskip

theorem of_ofString (h : ofString s = (v, r)) (hskip : v.skip = .ok ()) :
    ∃ text t rest, v = string text ∧ r = some rest ∧ StringWritten text ('"' :: t) ∧
      s = t ++ rest := by
  unfold ofString at h
  split at h
  case h_1 text rest htoken =>
    cases h
    obtain ⟨t, hs, ht⟩ := stringWritten_of_stringToken htoken
    exact ⟨text, t, rest, rfl, rfl, ht, hs⟩
  case h_2 =>
    cases h
    cases hskip

/-- What is read of a text without faults is written there. -/
structure Sound (fuel : Nat) : Prop where
  value : ∀ {s : List Char} {v : Value} {r : Option (List Char)}, read fuel s = (v, r) →
    v.skip = .ok () →
      ∃ b t rest, r = some rest ∧ Blank b ∧ v.Written t ∧ s = b ++ (t ++ rest)
  items : ∀ {s : List Char} {items : List Value} {r : Option (List Char)},
    readItems fuel s = (items, none, r) → skipItems items = .ok () →
      ∃ t rest, r = some rest ∧ ItemsWritten items t ∧ s = t ++ ']' :: rest
  members : ∀ {s : List Char} {members : List Member} {r : Option (List Char)},
    readMembers fuel s = (members, none, r) → skipMembers members = .ok () →
      ∃ t rest, r = some rest ∧ MembersWritten members t ∧ s = t ++ '}' :: rest

/-- A value that is read, up to what comes behind the blanks after it. -/
theorem Sound.padded (h : Sound fuel) (hread : read fuel s = (v, some t))
    (hskip : v.skip = .ok ()) : ∃ p, v.Padded p ∧ s = p ++ skipSpace t := by
  obtain ⟨b, u, rest, hr, hb, hu, rfl⟩ := h.value hread hskip
  cases hr
  obtain ⟨b', hb', ht⟩ := exists_skipSpace t
  refine ⟨_, .blanks hb hu hb', ?_⟩
  rw [List.append_assoc, List.append_assoc, ← ht]

theorem Sound.readItems_succ (h : Sound fuel) {items : List Value}
    (hread : readItems (fuel + 1) s = (items, none, r)) (hskip : skipItems items = .ok ()) :
    ∃ t rest, r = some rest ∧ ItemsWritten items t ∧ s = t ++ ']' :: rest := by
  simp only [readItems] at hread
  split at hread
  case h_1 v hv =>
    cases hread
    obtain ⟨⟨⟩, hfirst, -⟩ := bind_eq_ok.mp hskip
    obtain ⟨b, t, rest, hr, -⟩ := h.value hv hfirst
    cases hr
  case h_2 v left hv =>
    split at hread
    case h_1 rest hend =>
      cases hread
      obtain ⟨⟨⟩, hfirst, -⟩ := bind_eq_ok.mp hskip
      obtain ⟨p, hp, hs⟩ := h.padded hv hfirst
      exact ⟨p, rest, rfl, .last hp, by rw [hs, hend]⟩
    case h_2 more hcomma =>
      simp only [Prod.mk.injEq] at hread
      obtain ⟨rfl, hending, rfl⟩ := hread
      obtain ⟨⟨⟩, hfirst, hskip⟩ := bind_eq_ok.mp hskip
      obtain ⟨p, hp, hs⟩ := h.padded hv hfirst
      obtain ⟨t, rest, hr, ht, hmore⟩ := h.items (Prod.ext rfl (Prod.ext hending rfl)) hskip
      exact ⟨p ++ ',' :: t, rest, hr, .more hp ht, by rw [hs, hcomma, hmore]; simp⟩
    case h_3 => cases hread
    case h_4 => cases hread

theorem Sound.readMembers_succ (h : Sound fuel) {members : List Member}
    (hread : readMembers (fuel + 1) s = (members, none, r))
    (hskip : skipMembers members = .ok ()) :
    ∃ t rest, r = some rest ∧ MembersWritten members t ∧ s = t ++ '}' :: rest := by
  simp only [readMembers] at hread
  split at hread
  case h_1 more hquote =>
    split at hread
    case h_1 =>
      cases hread
      cases hskip
    case h_2 key left htoken =>
      split at hread
      case h_1 behind hcolon =>
        obtain ⟨k, hk, hkey⟩ := stringWritten_of_stringToken htoken
        obtain ⟨b, hb, hs⟩ := exists_skipSpace s
        obtain ⟨b', hb', hleft⟩ := exists_skipSpace left
        have hmember {v : Value} {p : List Char} (hp : v.Padded p) :
            MemberWritten (.pair key v) (b ++ ('"' :: k ++ (b' ++ ':' :: p))) :=
          .pair hb hkey hb' hp
        have hs : s = b ++ ('"' :: k ++ (b' ++ ':' :: behind)) := by
          rw [hs, hquote, hk, hleft, hcolon]
          simp
        split at hread
        case h_1 v hv =>
          cases hread
          obtain ⟨⟨⟩, hfirst, -⟩ := bind_eq_ok.mp hskip
          obtain ⟨b, t, rest, hr, -⟩ := h.value hv hfirst
          cases hr
        case h_2 v after hv =>
          split at hread
          case h_1 rest hend =>
            cases hread
            obtain ⟨⟨⟩, hfirst, -⟩ := bind_eq_ok.mp hskip
            obtain ⟨p, hp, hbehind⟩ := h.padded hv hfirst
            exact ⟨_, rest, rfl, .last (hmember hp), by rw [hs, hbehind, hend]; simp⟩
          case h_2 more hcomma =>
            simp only [Prod.mk.injEq] at hread
            obtain ⟨rfl, hending, rfl⟩ := hread
            obtain ⟨⟨⟩, hfirst, hskip⟩ := bind_eq_ok.mp hskip
            obtain ⟨p, hp, hbehind⟩ := h.padded hv hfirst
            obtain ⟨t, rest, hr, ht, hmore⟩ :=
              h.members (Prod.ext rfl (Prod.ext hending rfl)) hskip
            exact ⟨_, rest, hr, .more (hmember hp) ht, by
              rw [hs, hbehind, hcomma, hmore]; simp⟩
          case h_3 => cases hread
          case h_4 => cases hread
      case h_2 =>
        cases hread
        cases hskip
      case h_3 =>
        cases hread
        cases hskip
  case h_2 =>
    cases hread
    cases hskip
  case h_3 =>
    cases hread
    cases hskip

theorem Sound.read_succ (h : Sound fuel) (hread : read (fuel + 1) s = (v, r))
    (hskip : v.skip = .ok ()) :
    ∃ b t rest, r = some rest ∧ Blank b ∧ v.Written t ∧ s = b ++ (t ++ rest) := by
  obtain ⟨b, hb, hs⟩ := exists_skipSpace s
  suffices hafter : ∃ t rest, r = some rest ∧ v.Written t ∧ skipSpace s = t ++ rest by
    obtain ⟨t, rest, hr, ht, hafter⟩ := hafter
    exact ⟨b, t, rest, hr, hb, ht, by rw [hs, hafter]⟩
  simp only [read] at hread
  split at hread
  case h_1 =>
    cases hread
    cases hskip
  case h_2 more hhead =>
    obtain ⟨rfl, rest, hr, rfl⟩ := of_ofWord hread hskip
    exact ⟨_, rest, hr, .null, hhead⟩
  case h_3 more hhead =>
    obtain ⟨rfl, rest, hr, rfl⟩ := of_ofWord hread hskip
    exact ⟨_, rest, hr, .yes, hhead⟩
  case h_4 more hhead =>
    obtain ⟨rfl, rest, hr, rfl⟩ := of_ofWord hread hskip
    exact ⟨_, rest, hr, .no, hhead⟩
  case h_5 more hhead =>
    obtain ⟨text, t, rest, rfl, hr, ht, rfl⟩ := of_ofString hread hskip
    exact ⟨_, rest, hr, .string ht, hhead⟩
  case h_6 more hhead =>
    obtain ⟨n, t, rest, rfl, hn, hr, ht, rfl⟩ := of_ofNumeral hread hskip
    exact ⟨_, rest, hr, .negative hn ht, hhead⟩
  case h_7 more hhead =>
    obtain ⟨b', hb', hmore⟩ := exists_skipSpace more
    split at hread
    case h_1 =>
      cases hread
      cases hskip
    case h_2 rest hend =>
      cases hread
      exact ⟨_, rest, rfl, .emptyArray hb', by rw [hhead, hmore, hend]; simp⟩
    case h_3 =>
      rw [readItems_skipSpace, Prod.mk.injEq] at hread
      obtain ⟨rfl, rfl⟩ := hread
      obtain ⟨hitems, hending⟩ := skip_array.mp hskip
      obtain ⟨t, rest, hr, ht, rfl⟩ := h.items (Prod.ext rfl (Prod.ext hending rfl)) hitems
      rw [hending]
      exact ⟨_, rest, hr, .array ht, by rw [hhead]; simp⟩
  case h_8 more hhead =>
    obtain ⟨b', hb', hmore⟩ := exists_skipSpace more
    split at hread
    case h_1 =>
      cases hread
      cases hskip
    case h_2 rest hend =>
      cases hread
      exact ⟨_, rest, rfl, .emptyObject hb', by rw [hhead, hmore, hend]; simp⟩
    case h_3 =>
      rw [readMembers_skipSpace, Prod.mk.injEq] at hread
      obtain ⟨rfl, rfl⟩ := hread
      obtain ⟨hmembers, hending⟩ := skip_object.mp hskip
      obtain ⟨t, rest, hr, ht, rfl⟩ := h.members (Prod.ext rfl (Prod.ext hending rfl)) hmembers
      rw [hending]
      exact ⟨_, rest, hr, .object ht, by rw [hhead]; simp⟩
  case h_9 c more _ _ _ _ _ _ _ hhead =>
    by_cases hc : c.isDigit = true
    · rw [if_pos hc] at hread
      obtain ⟨n, t, rest, rfl, hn, hr, ht, hs⟩ := of_ofNumeral hread hskip
      exact ⟨t, rest, hr, .positive hn ht, by rw [hhead, hs]⟩
    · rw [if_neg hc] at hread
      cases hread
      cases hskip

theorem sound (fuel : Nat) : Sound fuel := by
  induction fuel with
  | zero =>
    refine ⟨?_, ?_, ?_⟩
    · intro s v r hread hskip
      cases hread
      cases hskip
    · intro s items r hread
      cases hread
    · intro s members r hread
      cases hread
  | succ fuel ih => exact ⟨ih.read_succ, ih.readItems_succ, ih.readMembers_succ⟩

theorem padded_of_read (h : read fuel s = (v, some t)) (hend : skipSpace t = [])
    (hskip : v.skip = .ok ()) : v.Padded s := by
  obtain ⟨p, hp, rfl⟩ := (sound fuel).padded h hskip
  rwa [hend, List.append_nil]

end Value

/-- The whole text is the value, with blanks around it. -/
def Value.IsText (v : Value) (text : String) : Prop := v.Padded text.toList

theorem Value.Padded.isText (h : v.Padded s) : v.IsText (String.ofList s) := by
  rwa [Value.IsText, String.toList_ofList]

/-- The text of a value is read as that value, and nothing is left over. -/
theorem Value.IsText.document {text : String} (h : v.IsText text) :
    Document.ofText text = ⟨v, false⟩ := by
  have hclose : Closes [] := fun c hc => by cases hc
  obtain ⟨b, hread, hb⟩ := h.read hclose (Nat.le_add_right (2 * text.toList.length) 2)
  rw [List.append_nil, List.append_nil] at hread
  have hend : skipSpace b = [] := by
    rw [← List.append_nil b, skipSpace_append hb]
    rfl
  simp only [Document.ofText, hread, Option.all_some, hend]
  rfl

/-- A text that is read without a fault, and with nothing left over, is a text of what is read. -/
theorem Value.isText_of_document {text : String} (h : Document.ofText text = ⟨v, false⟩)
    (hskip : v.skip = .ok ()) : v.IsText text := by
  cases hread : read (2 * text.toList.length + 2) text.toList with
  | mk root rest =>
    simp only [Document.ofText, hread, Document.mk.injEq, Bool.not_eq_false'] at h
    obtain ⟨rfl, hend⟩ := h
    obtain ⟨b, t, left, rfl, -⟩ := (sound _).value hread hskip
    rw [Option.all_some, List.isEmpty_iff] at hend
    exact padded_of_read hread hend hskip

end RecordStore.Json
