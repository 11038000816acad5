import TrackedSettings.Proofs.Lookup
import TrackedSettings.Proofs.Service
import TrackedSettings.Proofs.Terms
import TrackedSettings.Store.Flaky

/-! # What a store shows of its settings

An authoritative store, asked directly or through a front, moves by the changes that the call makes,
and what it brings was right when it was asked. A front may fail, keep grants to itself, or put a key
again, but it never shows what is not there.
-/

namespace TrackedSettings

/-- The copy agrees with a table. The empty name is not looked at. -/
def Copy.Holds (e : Entries) : Copy → Prop
  | value key v => e.value key = v
  | listing stem all => ∀ name, name ≠ emptyName → all[name]? = e[stem ++ name]?

/-- Whether a copy is right depends on what its topic covers only. -/
theorem Copy.Holds.congr {copy : Copy} {e e' : Entries} (holds : copy.Holds e)
    (same : ∀ key, copy.topic.covers key = true → e'[key]? = e[key]?) : copy.Holds e' := by
  cases copy with
  | value key v =>
      have here := same key (beq_self_eq_true key)
      rw [Holds, Entries.value, here]
      exact holds
  | listing stem all =>
      intro name real
      rw [same (stem ++ name) (beginsWith_append stem name)]
      exact holds name real

/-- What is under a stem, by name and with an entry for the empty name, as a cache keeps it. -/
theorem Copy.holds_scan (e : Entries) (stem : String) :
    (Copy.listing stem (((e.scan stem).strip stem).insert emptyName none)).Holds e := by
  intro name real
  have differs : ¬ compare emptyName name = .eq :=
    fun same => real (Std.LawfulEqOrd.eq_of_compare same).symm
  rw [Std.ExtTreeMap.getElem?_insert, if_neg differs, Entries.getElem?_strip,
    Entries.getElem?_scan, if_pos (beginsWith_append stem name)]

/-- A store was asked and went from one state to another, and replied. -/
structure Authority.Serves (a : Authority) (m : Slots) (keys : List String) (answer : Answer)
    (a' : Authority) (m' : Slots) : Prop where
  moved : a.Moved m keys a' m'
  holds : ∀ copy grant, answer.brings = some (copy, grant) → copy.Holds a.entries
  grants : ∀ copy g, answer.brings = some (copy, some g) → a'.Grants m copy.topic g

/-- A reply that brings no copy shows nothing wrong. -/
theorem Authority.Moved.serves {a a' : Authority} {m m' : Slots} {keys : List String}
    {answer : Answer} (moved : a.Moved m keys a' m') (nothing : answer.brings = none) :
    a.Serves m keys answer a' m' where
  moved := moved
  holds copy grant brings := by
    rw [nothing] at brings
    cases brings
  grants copy g brings := by
    rw [nothing] at brings
    cases brings

theorem Authority.answer_serves {a : Authority} {s : Shared} (sound : a.registry.Sound s.slots)
    (store : StoreId) (call : StoreCall) :
    a.Serves s.slots ((a.changes call).map Change.key) ⟨.store store call, (a.answer call s).1⟩
      (a.answer call s).2.1 (a.answer call s).2.2.slots := by
  refine ⟨answer_moved sound call, ?_, ?_⟩
  · intro copy grant brings
    cases call with
    | get | query =>
        cases brings
        rfl
    | list stem request =>
        cases brings
        exact Copy.holds_scan a.entries stem
    | canList | put | putAll | delete | reset => cases brings
  · intro copy g brings
    cases call with
    | get key request =>
        have granted := (track_moved sound (.key key) request).2.2 g
        injection brings with both
        injection both with same given
        subst same
        exact granted given
    | list stem request =>
        have granted := (track_moved sound (.under stem) request).2.2 g
        injection brings with both
        injection both with same given
        subst same
        exact granted given
    | query | canList | put | putAll | delete | reset => cases brings

namespace Flaky

/-- Putting a key again is a change to the value that it has. -/
def touchChanges (f : Flaky) (key : String) (v : Value) : List Change :=
  if f.switches.touches then [{ key, entry := some v }] else []

/-- The changes that a front makes when it is called. -/
def changes (f : Flaky) (a : Authority) : StoreCall → List Change
  | .get key _ =>
      match f.switches.fastPath with
      | .enabled => f.touchChanges key (a.value key)
      | .unsupported | .failing => []
  | .query key _ => if f.switches.queryFails then [] else f.touchChanges key (a.value key)
  | .canList | .list .. => []
  | .put key value user => a.changes (.put key value user)
  | .putAll stem values user => a.changes (.putAll stem values user)
  | .delete key user => a.changes (.delete key user)
  | .reset stem user => a.changes (.reset stem user)

theorem touch_eq_write (f : Flaky) (key : String) (a : Authority) (s : Shared) :
    f.touch key a s = a.write (f.touchChanges key (a.value key)) s := by
  unfold touch touchChanges
  split <;> rfl

theorem switches_countRequest (f : Flaky) (request : ReadRequest) :
    (f.countRequest request).switches = f.switches := by
  unfold countRequest
  split <;> rfl

theorem handedOut_countRequest (f : Flaky) (request : ReadRequest) :
    (f.countRequest request).handedOut = f.handedOut := by
  unfold countRequest
  split <;> rfl

/-- A grant that comes through is the store's, and its view is the only new one handed out. -/
theorem pass_grant (f : Flaky) (grant : Option Grant) :
    (∀ g, (f.pass grant).1 = some g → grant = some g) ∧
      ∀ v ∈ (f.pass grant).2.handedOut, v ∈ f.handedOut ∨ ∃ g, grant = some g ∧ g.handle.view = v := by
  unfold pass
  cases grant with
  | none => exact ⟨fun _ impossible => impossible, fun _ old => Or.inl old⟩
  | some g =>
      cases tracking : f.switches.tracking with
      | true =>
          simp only [↓reduceIte]
          refine ⟨fun _ same => same, ?_⟩
          intro v member
          rcases List.mem_cons.mp member with same | old
          · exact Or.inr ⟨g, rfl, same.symm⟩
          · exact Or.inl old
      | false => exact ⟨fun _ impossible => (nomatch impossible), fun _ old => Or.inl old⟩

/-- A read by the front, of whatever kind: the store is asked for a grant, and a key is perhaps put
again. -/
theorem track_write_moved {a : Authority} {s : Shared} (sound : a.registry.Sound s.slots)
    (topic : Topic) (request : ReadRequest) (changes : List Change) :
    let (grant, a', s') := a.track topic request s
    a.Moved s.slots (changes.map Change.key) (a'.write changes s').1 (a'.write changes s').2.slots ∧
      a'.entries = a.entries ∧
      ∀ g, grant = some g → (a'.write changes s').1.Grants s.slots topic g := by
  have tracked := a.track_moved sound topic request
  generalize a.track topic request s = result at tracked ⊢
  obtain ⟨grant, a', s'⟩ := result
  obtain ⟨moved, entries, grants⟩ := tracked
  exact ⟨moved.trans_of_nil (Authority.write_moved moved.sound changes), entries, grants⟩

theorem get_serves {a : Authority} {s : Shared} (sound : a.registry.Sound s.slots) (f : Flaky)
    (store : StoreId) (key : String) (request : ReadRequest) :
    let (reply, f', a', s') := f.get key request a s
    a.Serves s.slots ((f.changes a (.get key request)).map Change.key)
        ⟨.store store (.get key request), reply⟩ a' s'.slots ∧
      ∀ v ∈ f'.handedOut, v ∈ f.handedOut ∨
        ∃ topic g, a'.Grants s.slots topic g ∧ g.handle.view = v := by
  have still : a.Moved s.slots [] a s.slots := Authority.moved_refl sound
  have handed := ({ f with gets := f.gets + 1 } : Flaky).handedOut_countRequest request
  have switches := ({ f with gets := f.gets + 1 } : Flaky).switches_countRequest request
  unfold get changes
  generalize ({ f with gets := f.gets + 1 } : Flaky).countRequest request = counted
    at handed switches ⊢
  simp only at switches handed
  simp only [switches]
  cases f.switches.fastPath with
  | unsupported | failing =>
      refine ⟨still.serves rfl, fun v member => Or.inl ?_⟩
      rwa [handed] at member
  | enabled =>
      have read := track_write_moved sound (.key key) request (f.touchChanges key (a.value key))
      have sameChanges : ∀ v, counted.touchChanges key v = f.touchChanges key v := by
        intro v
        rw [touchChanges, switches, touchChanges]
      simp only [Authority.get, touch_eq_write, sameChanges]
      generalize a.track (.key key) request s = tracked at read ⊢
      obtain ⟨grant, a', s'⟩ := tracked
      obtain ⟨moved, entries, grants⟩ := read
      have value : a'.value key = a.value key := by rw [Authority.value, entries, Authority.value]
      have passed := counted.pass_grant grant
      simp only [value]
      generalize counted.pass grant = through at passed ⊢
      refine ⟨⟨moved, ?_, ?_⟩, ?_⟩
      · intro copy grant' brings
        cases brings
        rfl
      · intro copy g brings
        injection brings with both
        injection both with same given
        subst same
        exact grants g (passed.1 g given)
      · intro v member
        rcases passed.2 v member with old | ⟨g, given, view⟩
        · rw [handed] at old
          exact Or.inl old
        · exact Or.inr ⟨.key key, g, grants g given, view⟩

theorem list_serves {a : Authority} {s : Shared} (sound : a.registry.Sound s.slots) (f : Flaky)
    (store : StoreId) (stem : String) (request : ReadRequest) :
    let (reply, f', a', s') := f.list stem request a s
    a.Serves s.slots [] ⟨.store store (.list stem request), reply⟩ a' s'.slots ∧
      ∀ v ∈ f'.handedOut, v ∈ f.handedOut ∨
        ∃ topic g, a'.Grants s.slots topic g ∧ g.handle.view = v := by
  have still : a.Moved s.slots [] a s.slots := Authority.moved_refl sound
  have handed := ({ f with lists := f.lists + 1 } : Flaky).handedOut_countRequest request
  have switches := ({ f with lists := f.lists + 1 } : Flaky).switches_countRequest request
  unfold list
  generalize ({ f with lists := f.lists + 1 } : Flaky).countRequest request = counted
    at handed switches ⊢
  simp only at switches handed
  have refused : ∀ v ∈ counted.handedOut, v ∈ f.handedOut ∨
      ∃ topic g, a.Grants s.slots topic g ∧ g.handle.view = v := by
    intro v member
    rw [handed] at member
    exact Or.inl member
  cases canList : counted.switches.canList with
  | false =>
      simp only [canList, Bool.not_false, ↓reduceIte]
      exact ⟨still.serves rfl, refused⟩
  | true =>
      simp only [canList, Bool.not_true, Bool.false_eq_true, ↓reduceIte]
      cases fails : counted.switches.listFails with
      | true =>
          simp only [↓reduceIte]
          exact ⟨still.serves rfl, refused⟩
      | false =>
          have read := a.track_moved sound (.under stem) request
          simp only [Bool.false_eq_true, ↓reduceIte, Authority.list]
          generalize a.track (.under stem) request s = tracked at read ⊢
          obtain ⟨grant, a', s'⟩ := tracked
          obtain ⟨moved, -, grants⟩ := read
          have passed := counted.pass_grant grant
          generalize counted.pass grant = through at passed ⊢
          refine ⟨⟨moved, ?_, ?_⟩, ?_⟩
          · intro copy grant' brings
            cases brings
            exact Copy.holds_scan a.entries stem
          · intro copy g brings
            injection brings with both
            injection both with same given
            subst same
            exact grants g (passed.1 g given)
          · intro v member
            rcases passed.2 v member with old | ⟨g, given, view⟩
            · rw [handed] at old
              exact Or.inl old
            · exact Or.inr ⟨.under stem, g, grants g given, view⟩

/-- Whatever a front is asked, it moves the store behind it by its changes, and shows what is there.
The views that it hands out are those of the store's grants. -/
theorem answer_serves {a : Authority} {s : Shared} (sound : a.registry.Sound s.slots) (f : Flaky)
    (store : StoreId) (call : StoreCall) :
    let (reply, f', a', s') := f.answer call a s
    a.Serves s.slots ((f.changes a call).map Change.key) ⟨.store store call, reply⟩ a' s'.slots ∧
      ∀ v ∈ f'.handedOut, v ∈ f.handedOut ∨
        ∃ topic g, a'.Grants s.slots topic g ∧ g.handle.view = v := by
  have still : a.Moved s.slots [] a s.slots := Authority.moved_refl sound
  cases call with
  | get key request => exact f.get_serves sound store key request
  | list stem request => exact f.list_serves sound store stem request
  | query key request =>
      cases fails : f.switches.queryFails with
      | true =>
          simp only [answer, query, changes, fails, ↓reduceIte]
          exact ⟨still.serves rfl, fun _ old => Or.inl old⟩
      | false =>
          simp only [answer, query, changes, fails, Bool.false_eq_true, ↓reduceIte, touch_eq_write]
          refine ⟨⟨Authority.write_moved sound _, ?_, ?_⟩, fun _ old => Or.inl old⟩
          · intro copy grant brings
            cases brings
            rfl
          · intro copy g brings
            cases brings
  | canList => exact ⟨still.serves rfl, fun _ old => Or.inl old⟩
  | put key v user =>
      exact ⟨Authority.answer_serves sound store (.put key v user), fun _ old => Or.inl old⟩
  | putAll stem values user =>
      exact ⟨Authority.answer_serves sound store (.putAll stem values user), fun _ old => Or.inl old⟩
  | delete key user =>
      exact ⟨Authority.answer_serves sound store (.delete key user), fun _ old => Or.inl old⟩
  | reset stem user =>
      exact ⟨Authority.answer_serves sound store (.reset stem user), fun _ old => Or.inl old⟩

end Flaky

end TrackedSettings
