import TrackedSettings.Proofs.Bumps

/-! # What a call does to the authoritative store

Whatever a store is asked, it goes from one state to another in one way: some keys change, the slots
of the topics that cover them move on, and topics may be given slots after those that are taken.
`Authority.Moved` says this once for all calls. Grants are for the slot of their topic and for what
was in it.
-/

namespace TrackedSettings

/-! ## Registries -/

/-- The store writes to its own board, each of whose slots is for at most one topic. -/
structure Registry.Sound (r : Registry) (m : Slots) : Prop where
  owner : r.backing.owner = true
  distinct : r.topics.Nodup
  room : r.topics.length ≤ m.length r.backing
  issued : r.backing.serial < m.issued

/-- The handle is of the kind that the store hands out, and on the store's board. A duplicate is a
view of its own. -/
def Handle.Lent (transfer : Transfer) (backing : View) : Handle → Prop
  | .owned v => transfer = .duplicate ∧ v.board = backing.board ∧ v.serial ≠ backing.serial
  | .borrowed v => transfer = .reference ∧ v = backing

theorem Handle.Lent.board {transfer : Transfer} {backing : View} {h : Handle}
    (lent : h.Lent transfer backing) : h.view.board = backing.board := by
  cases h with
  | owned v => exact lent.2.1
  | borrowed v => rw [Handle.view, lent.2]

namespace Registry

theorem topic_of_index? {r : Registry} {topic : Topic} {index : Nat}
    (slot : r.index? topic = some index) : r.topics[index]? = some topic := by
  obtain ⟨inside, same, -⟩ := List.idxOf?_eq_some_iff.mp slot
  rw [List.getElem?_eq_getElem inside, same]

theorem index?_of_prefix {r r' : Registry} (longer : r.topics <+: r'.topics) {topic : Topic}
    {index : Nat} (slot : r.index? topic = some index) : r'.index? topic = some index := by
  obtain ⟨rest, same⟩ := longer
  obtain ⟨inside, found, first⟩ := List.idxOf?_eq_some_iff.mp slot
  rw [index?, ← same, List.idxOf?_eq_some_iff]
  refine ⟨by rw [List.length_append]; omega, ?_, ?_⟩
  · rw [List.getElem_append_left inside, found]
  · intro j before
    rw [List.getElem_append_left (by omega)]
    exact first j before

/-- What it means to have asked for a topic's slot. -/
structure Tracked (r : Registry) (m : Slots) (topic : Topic) (transfer : Transfer)
    (grant : Option Grant) (r' : Registry) (m' : Slots) : Prop where
  backing : r'.backing = r.backing
  topics : r.topics <+: r'.topics
  sound : r'.Sound m'
  boards : m'.boards = m.boards
  isClosed : ∀ u, m'.isClosed u = m.isClosed u
  issued : m.issued ≤ m'.issued
  granted : ∀ g, grant = some g → r'.index? topic = some g.index ∧
    m.read r.backing g.index = .ok g.generation ∧ g.handle.Lent transfer r.backing

theorem allot_sound {r : Registry} {s : Shared} (sound : r.Sound s.slots) (topic : Topic) :
    let (index, r', s') := r.allot topic s
    r'.backing = r.backing ∧ r.topics <+: r'.topics ∧ r'.Sound s.slots ∧ s'.slots = s.slots ∧
      ∀ i, index = some i → r'.index? topic = some i := by
  unfold allot
  cases slot : r.index? topic with
  | some index =>
      refine ⟨rfl, List.prefix_refl _, sound, rfl, ?_⟩
      intro i same
      rw [← same]
      exact slot
  | none =>
      have fresh : topic ∉ r.topics := List.idxOf?_eq_none_iff.mp slot
      by_cases room : r.tracked < r.capacity s.slots
      · simp only [room, ↓reduceIte]
        refine ⟨trivial, List.prefix_append _ _, ⟨sound.owner, ?_, ?_, sound.issued⟩, trivial, ?_⟩
        · exact List.nodup_append.mpr ⟨sound.distinct, by simp, by
            intro other member other' same
            rw [List.mem_singleton.mp same]
            rintro rfl
            exact fresh member⟩
        · rw [List.length_append, List.length_singleton]
          exact room
        · rintro i ⟨⟩
          rw [index?, List.idxOf?_eq_some_iff]
          refine ⟨by simp [tracked], by simp [tracked], ?_⟩
          intro j before same
          rw [List.getElem_append_left before] at same
          exact fresh (same ▸ List.getElem_mem before)
      · simp only [room, ↓reduceIte]
        exact ⟨trivial, List.prefix_refl _, sound, rfl, by simp⟩

theorem track_tracked {r : Registry} {s : Shared} (sound : r.Sound s.slots) (topic : Topic)
    (transfer : Transfer) :
    let (grant, r', s') := r.track topic transfer s
    r.Tracked s.slots topic transfer grant r' s'.slots := by
  have allotted := allot_sound sound topic
  unfold track
  cases allot : r.allot topic s with
  | mk index rest =>
      obtain ⟨r', s'⟩ := rest
      rw [allot] at allotted
      obtain ⟨backing, topics, sound', slots, slot⟩ := allotted
      cases index with
      | none =>
          simp only
          exact ⟨backing, topics, slots ▸ sound', by rw [slots], fun u => by rw [slots],
            Nat.le_of_eq (by rw [slots]), by simp⟩
      | some index =>
          simp only [grant]
          cases read : s'.slots.read r'.backing index with
          | error e =>
              simp only
              exact ⟨backing, topics, slots ▸ sound', by rw [slots], fun u => by rw [slots],
                Nat.le_of_eq (by rw [slots]), by simp⟩
          | ok generation =>
              rw [slots, backing] at read
              cases transfer with
              | duplicate =>
                  simp only [Slots.duplicate]
                  refine ⟨backing, topics, ?_, by rw [slots], fun u => by rw [slots]; rfl,
                    by rw [slots]; exact Nat.le_succ _, ?_⟩
                  · exact ⟨sound'.owner, sound'.distinct, by rw [slots]; exact sound'.room,
                      by rw [slots]; exact Nat.lt_succ_of_lt sound'.issued⟩
                  · rintro g ⟨⟩
                    refine ⟨slot index rfl, read, rfl, by rw [backing], ?_⟩
                    rw [slots]
                    exact (Nat.ne_of_lt sound.issued).symm
              | reference =>
                  simp only
                  refine ⟨backing, topics, slots ▸ sound', by rw [slots], fun u => by rw [slots],
                    Nat.le_of_eq (by rw [slots]), ?_⟩
                  rintro g ⟨⟩
                  exact ⟨slot index rfl, read, rfl, backing⟩

end Registry

/-! ## Changes -/

theorem Change.getElem?_apply (c : Change) (t : Entries) {key : String} (other : key ≠ c.key) :
    (c.apply t)[key]? = t[key]? := by
  have differs : ¬ compare c.key key = .eq :=
    fun same => other (Std.LawfulEqOrd.eq_of_compare same).symm
  unfold apply
  cases c.entry with
  | none => simp only [Std.ExtTreeMap.getElem?_erase, differs, ↓reduceIte]
  | some value => simp only [Std.ExtTreeMap.getElem?_insert, differs, ↓reduceIte]

theorem getElem?_foldl_apply (changes : List Change) (t : Entries) {key : String}
    (other : key ∉ changes.map Change.key) :
    (changes.foldl (fun t c => c.apply t) t)[key]? = t[key]? := by
  induction changes generalizing t with
  | nil => rfl
  | cons change rest ih =>
      rw [List.map_cons, List.mem_cons, not_or] at other
      rw [List.foldl_cons, ih _ other.2, change.getElem?_apply t other.1]

namespace Authority

/-- The store went from one state to another when it changed `keys`, each as often as it is named. -/
structure Moved (a : Authority) (m : Slots) (keys : List String) (a' : Authority) (m' : Slots) :
    Prop where
  backing : a'.registry.backing = a.registry.backing
  transfer : a'.transfer = a.transfer
  topics : a.registry.topics <+: a'.registry.topics
  sound : a'.registry.Sound m'
  turned : ∀ i, (m'.row a.registry.backing)[i]? = (m.row a.registry.backing)[i]?.map
    (· + Int64.ofNat (a'.registry.turns m i keys))
  isClosed : ∀ u, m'.isClosed u = m.isClosed u
  issued : m.issued ≤ m'.issued
  untouched : ∀ key, key ∉ keys → a'.entries[key]? = a.entries[key]?

namespace Moved

variable {a a' a'' : Authority} {m m' m'' : Slots} {keys : List String}

/-- First nothing changes, and then `keys` do. -/
theorem trans_of_nil (first : Moved a m [] a' m') (second : Moved a' m' keys a'' m'') :
    Moved a m keys a'' m'' where
  backing := second.backing.trans first.backing
  transfer := second.transfer.trans first.transfer
  topics := first.topics.trans second.topics
  sound := second.sound
  turned i := by
    have later := second.turned i
    have same : a''.registry.turns m' i keys = a''.registry.turns m i keys := by
      simp [Registry.turns, first.isClosed]
    rw [first.backing, first.turned, Registry.turns_nil, same] at later
    simpa using later
  isClosed u := (second.isClosed u).trans (first.isClosed u)
  issued := Nat.le_trans first.issued second.issued
  untouched key other := by
    rw [second.untouched key other, first.untouched key List.not_mem_nil]

/-- What a topic covers is as before if its slot did not move. -/
theorem untouched_of_turns_eq_zero (moved : Moved a m keys a' m') {topic : Topic} {index : Nat}
    (slot : a'.registry.index? topic = some index) (isOpen : m.isClosed a.registry.backing = false)
    (still : a'.registry.turns m index keys = 0) {key : String} (covers : topic.covers key = true) :
    a'.entries[key]? = a.entries[key]? := by
  apply moved.untouched
  intro member
  have found := Registry.topic_of_index? slot
  rw [Registry.turns, moved.backing, isOpen, if_neg (by simp), List.countP_eq_zero] at still
  exact still key member (by rw [found]; exact covers)

end Moved

theorem write_moved {a : Authority} {s : Shared} (sound : a.registry.Sound s.slots)
    (changes : List Change) :
    a.Moved s.slots (changes.map Change.key) (a.write changes s).1 (a.write changes s).2.slots := by
  have turned := Registry.bumps_turned sound.owner changes s
  exact
    { backing := rfl
      transfer := rfl
      topics := List.prefix_refl _
      sound := ⟨sound.owner, sound.distinct, by
        rw [Slots.length, write, turned.size]; exact sound.room,
        by rw [write, turned.issued]; exact sound.issued⟩
      turned := turned.row
      isClosed := turned.isClosed
      issued := Nat.le_of_eq turned.issued.symm
      untouched := fun key other => getElem?_foldl_apply changes a.entries other }

theorem moved_refl {a : Authority} {m : Slots} (sound : a.registry.Sound m) : a.Moved m [] a m where
  backing := rfl
  transfer := rfl
  topics := List.prefix_refl _
  sound := sound
  turned i := by simp [Registry.turns_nil]
  isClosed _ := rfl
  issued := Nat.le_refl _
  untouched _ _ := rfl

/-- A grant for `topic` that tells what was in the slot. -/
def Grants (a : Authority) (m : Slots) (topic : Topic) (g : Grant) : Prop :=
  a.registry.index? topic = some g.index ∧
    m.read a.registry.backing g.index = .ok g.generation ∧
      g.handle.Lent a.transfer a.registry.backing

/-- Asking for a grant changes no key, and brings a grant for what is in the slot. -/
theorem track_moved {a : Authority} {s : Shared} (sound : a.registry.Sound s.slots) (topic : Topic)
    (request : ReadRequest) :
    let (grant, a', s') := a.track topic request s
    a.Moved s.slots [] a' s'.slots ∧ a'.entries = a.entries ∧
      ∀ g, grant = some g → a'.Grants s.slots topic g := by
  unfold track
  by_cases wanted : request.tracked = true
  · have tracked := Registry.track_tracked sound topic a.transfer
    cases result : a.registry.track topic a.transfer s with
    | mk grant rest =>
        obtain ⟨registry, s'⟩ := rest
        rw [result] at tracked
        simp only [wanted, ↓reduceIte]
        refine ⟨?_, trivial, ?_⟩
        · exact
            { backing := tracked.backing
              transfer := rfl
              topics := tracked.topics
              sound := tracked.sound
              turned := fun i => by simp [Registry.turns_nil, Slots.row, tracked.boards]
              isClosed := tracked.isClosed
              issued := tracked.issued
              untouched := fun _ _ => rfl }
        · intro g same
          rw [Grants, tracked.backing]
          exact tracked.granted g same
  · simp only [wanted, Bool.false_eq_true, ↓reduceIte]
    exact ⟨moved_refl sound, trivial, by simp⟩

def changes (a : Authority) : StoreCall → List Change
  | .put key value _ => [{ key, entry := some value }]
  | .putAll stem values _ => putAllChanges stem values
  | .delete key _ => a.deleteChanges key
  | .reset stem _ => a.resetChanges (stem.getD "")
  | .get .. | .query .. | .canList | .list .. => []

/-- Whatever the store is asked, it moves by the changes that the call makes. -/
theorem answer_moved {a : Authority} {s : Shared} (sound : a.registry.Sound s.slots)
    (call : StoreCall) :
    a.Moved s.slots ((a.changes call).map Change.key) (a.answer call s).2.1
      (a.answer call s).2.2.slots := by
  cases call with
  | get key request => exact (track_moved sound (.key key) request).1
  | query key request => exact moved_refl sound
  | canList => exact moved_refl sound
  | list stem request => exact (track_moved sound (.under stem) request).1
  | put key value user => exact write_moved sound _
  | putAll stem values user => exact write_moved sound _
  | delete key user => exact write_moved sound _
  | reset stem user => exact write_moved sound _

/-- After a call the table is what its changes make of it. -/
theorem answer_entries (a : Authority) (call : StoreCall) (s : Shared) :
    (a.answer call s).2.1.entries = (a.changes call).foldl (fun t c => c.apply t) a.entries := by
  cases call with
  | get key request => simp only [answer, get, track]; split <;> rfl
  | list stem request => simp only [answer, list, track]; split <;> rfl
  | query | canList | put | putAll | delete | reset => rfl

end Authority

end TrackedSettings
