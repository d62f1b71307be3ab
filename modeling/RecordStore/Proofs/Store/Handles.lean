import RecordStore.Proofs.Store.Client

/-! The engine keeps the queries that are open, each under the handle issued for it, and no others
until an overflow hits the queries. -/
namespace RecordStore

theorem Held.isOpen_some (handle : UInt64) (q : Query) :
    (Held.mk handle (some q)).isOpen = q.handle.isSome := by
  cases h : q.handle <;> simp [isOpen, Query.isClosed, h]

/-- The held queries after one of them was replaced: it and those under other handles. -/
theorem mem_set_held {held : List Held} (hn : (held.map (·.handle)).Nodup) {place : Nat}
    {old new : Held} (hp : held[place]? = some old) {x : Held} :
    x ∈ held.set place new ↔ x = new ∨ x ∈ held ∧ x.handle ≠ old.handle := by
  induction held generalizing place with
  | nil => cases hp
  | cons h held ih =>
    rw [List.map_cons, List.nodup_cons] at hn
    cases place with
    | zero =>
      cases hp
      have hother : x ∈ held → x.handle ≠ old.handle := by
        rintro hx he
        exact hn.1 (List.mem_map.mpr ⟨x, hx, he⟩)
      rw [List.set_cons_zero, List.mem_cons, List.mem_cons]
      constructor
      · rintro (he | hx)
        · exact .inl he
        · exact .inr ⟨.inr hx, hother hx⟩
      · rintro (he | ⟨rfl | hx, hne⟩)
        · exact .inl he
        · exact absurd rfl hne
        · exact .inr hx
    | succ place =>
      have hold : old ∈ held := List.mem_of_getElem? hp
      have hne : h.handle ≠ old.handle := fun he =>
        hn.1 (List.mem_map.mpr ⟨old, hold, he.symm⟩)
      rw [List.set_cons_succ, List.mem_cons, ih hn.2 hp, List.mem_cons]
      constructor
      · rintro (rfl | he | ⟨hx, ho⟩)
        · exact .inr ⟨.inl rfl, hne⟩
        · exact .inl he
        · exact .inr ⟨.inr hx, ho⟩
      · rintro (he | ⟨rfl | hx, ho⟩)
        · exact .inr (.inl he)
        · exact .inl rfl
        · exact .inr (.inr ⟨hx, ho⟩)

theorem map_handle_set {held : List Held} {place : Nat} {old new : Held}
    (hp : held[place]? = some old) (hh : new.handle = old.handle) :
    (held.set place new).map (·.handle) = held.map (·.handle) := by
  induction held generalizing place with
  | nil => rfl
  | cons h held ih =>
    cases place with
    | zero =>
      cases hp
      rw [List.set_cons_zero, List.map_cons, List.map_cons, hh]
    | succ place => rw [List.set_cons_succ, List.map_cons, List.map_cons, ih hp]

namespace Client

/-- Which queries the engine keeps, told by those that are held. -/
structure Tracks (c : Client) : Prop where
  nodup : (c.held.map (·.handle)).Nodup
  le_issued : ∀ h ∈ c.held, h.handle ≤ c.engine.queries.issued
  handle_eq : ∀ h ∈ c.held, ∀ q, h.query = some q → ∀ n, q.handle = some n → n = h.handle
  mem_opened : ∀ h ∈ c.held, h.isOpen = true → h.handle ∈ c.engine.queries.opened
  exists_held : c.engine.queries.poisoned = false →
    ∀ n ∈ c.engine.queries.opened, ∃ h ∈ c.held, h.handle = n ∧ h.isOpen = true

/-- A store on which no query has been opened. -/
theorem tracks_start {m : MemoryEngine} (hq : m.queries = .empty) : Tracks ⟨m, []⟩ := by
  refine ⟨List.nodup_nil, by simp, by simp, by simp, ?_⟩
  simp [hq, QueryTable.empty]

namespace Tracks

variable {c : Client} {m : MemoryEngine}

theorem of_runs (h : c.Tracks) {P : UInt64 → ByteArray → Prop} {id : UInt32}
    (hr : c.engine.Runs P id m) : Tracks { c with engine := m } := by
  refine ⟨h.nodup, ?_, h.handle_eq, ?_, ?_⟩
  all_goals simp only [hr.queries_eq]
  · exact h.le_issued
  · exact h.mem_opened
  · exact h.exists_held

/-- A query is replaced by what became of it, and with it goes what the engine keeps. -/
theorem set (h : c.Tracks) {place : Nat} {handle : UInt64} {old new : Option Query}
    (hp : c.held[place]? = some ⟨handle, old⟩)
    (hnew : ∀ q, new = some q → ∀ n, q.handle = some n → n = handle)
    (hi : m.queries.issued = c.engine.queries.issued)
    (hs : m.queries.poisoned = c.engine.queries.poisoned)
    (hq : ∀ n, n ≠ handle → (n ∈ m.queries.opened ↔ n ∈ c.engine.queries.opened))
    (ho : (Held.mk handle new).isOpen = true → handle ∈ m.queries.opened)
    (hc : m.queries.poisoned = false → handle ∈ m.queries.opened →
      (Held.mk handle new).isOpen = true) :
    Tracks ⟨m, c.held.set place ⟨handle, new⟩⟩ := by
  have hmem {x : Held} : x ∈ c.held.set place ⟨handle, new⟩ ↔
      x = ⟨handle, new⟩ ∨ x ∈ c.held ∧ x.handle ≠ handle := mem_set_held h.nodup hp
  refine ⟨?_, ?_, ?_, ?_, ?_⟩
  · have hmap : (c.held.set place ⟨handle, new⟩).map (·.handle) = c.held.map (·.handle) :=
      map_handle_set hp rfl
    simp only [hmap]
    exact h.nodup
  · intro x hx
    simp only [hi]
    rcases hmem.mp hx with rfl | ⟨hx, -⟩
    · have hle := h.le_issued _ (List.mem_of_getElem? hp)
      exact hle
    · exact h.le_issued x hx
  · intro x hx
    rcases hmem.mp hx with rfl | ⟨hx, -⟩
    · exact hnew
    · exact h.handle_eq x hx
  · intro x hx hopen
    rcases hmem.mp hx with rfl | ⟨hx, hne⟩
    · exact ho hopen
    · exact (hq _ hne).mpr (h.mem_opened x hx hopen)
  · intro hsound n hn
    by_cases hne : n = handle
    · subst hne
      exact ⟨_, hmem.mpr (.inl rfl), rfl, hc hsound hn⟩
    · obtain ⟨x, hx, rfl, hopen⟩ := h.exists_held (hs ▸ hsound) n ((hq n hne).mp hn)
      exact ⟨x, hmem.mpr (.inr ⟨hx, hne⟩), rfl, hopen⟩

/-- A held query is open if the engine keeps one under its handle. -/
theorem isSome_of_mem (h : c.Tracks) {place : Nat} {handle : UInt64} {q : Query}
    (hp : c.held[place]? = some ⟨handle, some q⟩) (hs : c.engine.queries.poisoned = false)
    (hm : handle ∈ c.engine.queries.opened) : q.handle.isSome = true := by
  obtain ⟨x, hx, hh, ho⟩ := h.exists_held hs handle hm
  have hsame : x = ⟨handle, some q⟩ :=
    List.inj_on_of_nodup_map h.nodup hx (List.mem_of_getElem? hp) hh
  rwa [hsame, Held.isOpen_some] at ho

/-- A query that is closed leaves the engine, whatever is held in its place. -/
theorem close (h : c.Tracks) {place : Nat} {handle : UInt64} {q : Query}
    (hp : c.held[place]? = some ⟨handle, some q⟩) {new : Option Query}
    (hnew : ∀ q', new = some q' → q'.handle = none) :
    Tracks ⟨(q.close MemoryEngine.storage c.engine).2, c.held.set place ⟨handle, new⟩⟩ := by
  have hclosed : ¬ (Held.mk handle new).isOpen = true := by
    cases new with
    | none => exact Bool.false_ne_true
    | some q' =>
      rw [Held.isOpen_some, hnew q' rfl]
      exact Bool.false_ne_true
  have hnone : ∀ q', new = some q' → ∀ n, q'.handle = some n → n = handle := by
    intro q' hq' n hn
    rw [hnew q' hq'] at hn
    cases hn
  cases hq : q.handle with
  | none =>
    have hsame : (q.close MemoryEngine.storage c.engine).2 = c.engine := by
      rw [Query.close, hq]
    rw [hsame]
    refine h.set hp hnone rfl rfl (fun _ _ => Iff.rfl) (fun ho => absurd ho hclosed) ?_
    intro hs hm
    have hsome := h.isSome_of_mem hp hs hm
    rw [hq] at hsome
    cases hsome
  | some n =>
    have hn := h.handle_eq _ (List.mem_of_getElem? hp) q rfl n hq
    subst hn
    rw [Query.snd_close hq]
    by_cases hs : c.engine.queries.poisoned = true
    · simp only [if_pos hs]
      exact h.set hp hnone rfl rfl (fun _ _ => Iff.rfl) (fun ho => absurd ho hclosed)
        fun hs' => absurd (hs.symm.trans hs') (by decide)
    · simp only [if_neg hs]
      refine h.set hp hnone rfl rfl (fun k hk => ?_) (fun ho => absurd ho hclosed) ?_
      · simp only [QueryTable.opened_erase, Std.ExtTreeMap.mem_iff_isSome_getElem?,
          Keyed.getElem?_erase_of_ne hk]
      · intro _ hm
        simp [QueryTable.opened_erase] at hm

/-- What any other call makes of a query and its engine. -/
theorem perform (h : c.Tracks) {place : Nat} {handle : UInt64} {q : Query}
    (hp : c.held[place]? = some ⟨handle, some q⟩) {call : QueryCall} (hc : call ≠ .close) :
    Tracks ⟨(q.perform MemoryEngine.storage c.engine call).2,
      c.held.set place ⟨handle, some (q.perform MemoryEngine.storage c.engine call).1.2⟩⟩ := by
  obtain ⟨hhandle, -, hengine⟩ := q.perform_cases (fun _ _ => True) hc c.engine
  obtain ⟨hissued, hpoisoned, hopened⟩ :
      (q.perform MemoryEngine.storage c.engine call).2.queries.issued = c.engine.queries.issued ∧
      (q.perform MemoryEngine.storage c.engine call).2.queries.poisoned =
        c.engine.queries.poisoned ∧
      ∀ n, n ∈ (q.perform MemoryEngine.storage c.engine call).2.queries.opened ↔
        n ∈ c.engine.queries.opened := by
    rcases hengine with hr | ⟨n, compiled, key, value, conditions, -, hm, -, he⟩
    · rw [hr.queries_eq]
      exact ⟨rfl, rfl, fun _ => Iff.rfl⟩
    · rw [he]
      refine ⟨rfl, rfl, fun k => ?_⟩
      have hn : n ∈ c.engine.queries.opened := by
        rw [Std.ExtTreeMap.mem_iff_isSome_getElem?, (QueryTable.compiled_eq_ok.mp hm).2]
        rfl
      rw [QueryTable.opened_replace, Std.ExtTreeMap.mem_insert]
      constructor
      · rintro (he | hk)
        · rwa [← Std.LawfulEqCmp.eq_of_compare he]
        · exact hk
      · exact .inr
  refine h.set hp ?_ hissued hpoisoned (fun n _ => hopened n) ?_ ?_
  · rintro _ ⟨⟩ n hn
    rw [hhandle] at hn
    exact h.handle_eq _ (List.mem_of_getElem? hp) q rfl n hn
  · rw [Held.isOpen_some, hhandle, ← Held.isOpen_some handle q, hopened]
    exact h.mem_opened _ (List.mem_of_getElem? hp)
  · rw [hpoisoned, hopened, Held.isOpen_some, hhandle]
    exact h.isSome_of_mem hp

theorem query (h : c.Tracks) (store : Store) (b : Binding) (conditions : List Condition) :
    (c.step store (.query b conditions)).Tracks := by
  rw [step]
  rcases Box.query_cases store b conditions c.engine with
    ⟨e, hq⟩ | ⟨-, hq⟩ | ⟨e, -, -, -, hs, hi, hq⟩
  all_goals rw [hq]
  · exact h
  · refine ⟨h.nodup, h.le_issued, h.handle_eq, h.mem_opened, ?_⟩
    intro hs
    cases hs
  · have hlt : ∀ x ∈ c.held, x.handle < c.engine.queries.issued + 1 := fun x hx =>
      lt_add_one_of_le hi (h.le_issued x hx)
    have hmem {x : Held} : x ∈ c.held ++ [⟨c.engine.queries.issued + 1,
        some (.ofHandle b (c.engine.queries.issued + 1))⟩] ↔
        x ∈ c.held ∨ x = ⟨c.engine.queries.issued + 1,
          some (.ofHandle b (c.engine.queries.issued + 1))⟩ := by
      rw [List.mem_append, List.mem_singleton]
    refine ⟨?_, ?_, ?_, ?_, ?_⟩
    · simp only [Query.ofHandle, Option.map_some, Option.toList_some, List.map_append,
        List.map_cons, List.map_nil, List.nodup_append]
      refine ⟨h.nodup, by simp, ?_⟩
      rintro _ ha _ hb rfl
      obtain ⟨x, hx, hxa⟩ := List.mem_map.mp ha
      rw [List.mem_singleton] at hb
      exact UInt64.ne_of_lt (hlt x hx) (hxa.trans hb)
    · intro x hx
      rcases hmem.mp hx with hx | rfl
      · exact UInt64.le_of_lt (hlt x hx)
      · exact UInt64.le_refl _
    · intro x hx
      rcases hmem.mp hx with hx | rfl
      · exact h.handle_eq x hx
      · rintro _ ⟨⟩ n ⟨⟩
        rfl
    · intro x hx ho
      rw [QueryTable.opened_keep, Std.ExtTreeMap.mem_insert]
      rcases hmem.mp hx with hx | rfl
      · exact .inr (h.mem_opened x hx ho)
      · exact .inl Std.ReflCmp.compare_self
    · intro _ n hn
      rw [QueryTable.opened_keep, Std.ExtTreeMap.mem_insert,
        Std.LawfulEqCmp.compare_eq_iff_eq] at hn
      rcases hn with rfl | hn
      · exact ⟨_, hmem.mpr (.inr rfl), rfl, rfl⟩
      · obtain ⟨x, hx, hh, ho⟩ := h.exists_held hs n hn
        exact ⟨x, hmem.mpr (.inl hx), hh, ho⟩

theorem step (h : c.Tracks) (store : Store) (call : ClientCall) : (c.step store call).Tracks := by
  cases call with
  | box call =>
    exact h.of_runs (MemoryEngine.runs_perform (P := fun _ _ => True) store
      (by intros; trivial) c.engine)
  | putAll b rs =>
    exact h.of_runs (MemoryEngine.runs_putAll (P := fun _ _ => True) store
      (by intros; trivial) rs c.engine)
  | query b conditions => exact h.query store b conditions
  | use place call =>
    rw [Client.step, onQuery]
    rcases hp : c.held[place]? with - | ⟨handle, - | q⟩
    · exact h
    · exact h
    · by_cases hc : call = .close
      · subst hc
        refine h.close hp ?_
        rintro _ ⟨⟩
        exact q.handle_close MemoryEngine.storage c.engine
      · exact h.perform hp hc
  | drop place =>
    rw [Client.step, onQuery]
    rcases hp : c.held[place]? with - | ⟨handle, - | q⟩
    · exact h
    · exact h
    · exact h.close hp (by simp)

theorem run (h : c.Tracks) (store : Store) (calls : List ClientCall) :
    (c.run store calls).Tracks := by
  induction calls generalizing c with
  | nil => exact h
  | cons call calls ih => exact ih (h.step store call)

end Tracks

end Client

end RecordStore
