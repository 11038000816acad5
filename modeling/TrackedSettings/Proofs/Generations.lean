import Mathlib.Data.Int.ModEq
import TrackedSettings.Proofs.Service

/-! # Generations count changes

Over any stretch of a store's life in which its board stays open, the generation of a tracked topic
moves on by the number of changes to keys that the topic covers, up to the wrap of the counter. So
an unmoved generation means unmoved settings, as long as the counter has not gone all the way round.
-/

namespace TrackedSettings

/-! ## Counters -/

/-- Counters below the wrap tell numbers apart. -/
theorem eq_of_ofNat_eq_ofNat {n k : Nat} (below : n < 2 ^ 64) (below' : k < 2 ^ 64)
    (same : Int64.ofNat n = Int64.ofNat k) : n = k := by
  have same : n % 2 ^ 64 = k % 2 ^ 64 := by
    simpa using congrArg (fun g => g.toUInt64.toNat) same
  omega

/-- Words stand for numbers up to the wrap. -/
theorem bmod_modEq (x : Int) : x.bmod (2 ^ 64) ≡ x [ZMOD 2 ^ 64] := by
  have same : x.bmod (2 ^ 64) % ((2 ^ 64 : Nat) : Int) = x % ((2 ^ 64 : Nat) : Int) := Int.bmod_emod
  exact same

theorem toInt_add_ofNat_modEq (generation : Int64) (n : Nat) :
    (generation + Int64.ofNat n).toInt - generation.toInt ≡ n [ZMOD 2 ^ 64] := by
  have size : Int64.size = 2 ^ 64 := rfl
  have moved : (generation + Int64.ofNat n).toInt ≡ generation.toInt + n [ZMOD 2 ^ 64] := by
    rw [Int64.toInt_add, Int64.toInt_ofNat', size]
    exact (bmod_modEq _).trans ((bmod_modEq n).add_left _)
  simpa using moved.sub_right generation.toInt

/-! ## Which keys a call changes -/

/-- The keys under which two tables differ. -/
def Entries.differing (t u : Entries) : List String :=
  (t.keys ++ u.keys.filter (!t.contains ·)).filter fun key => t[key]? ≠ u[key]?

/-- The keys that a call changes in a store, when it leaves `after` behind, each named as often as
it is changed. What is put is changed, whatever was there. -/
def Authority.mutated (a : Authority) (call : StoreCall) (after : Entries) : List String :=
  match call with
  | .put key _ _ => [key]
  | .putAll stem values _ => values.keys.map (stem ++ ·)
  | .delete key _ => if a.entries.contains key then [key] else []
  | .reset _ _ => a.entries.differing after
  | .get .. | .query .. | .canList | .list .. => []

theorem Entries.mem_differing_iff {t u : Entries} {key : String} :
    key ∈ t.differing u ↔ t[key]? ≠ u[key]? := by
  unfold differing
  rw [List.mem_filter, decide_eq_true_eq, and_iff_right_iff_imp]
  intro differs
  rw [List.mem_append, List.mem_filter, Std.ExtTreeMap.mem_keys, Std.ExtTreeMap.mem_keys]
  by_cases inside : key ∈ t
  · exact Or.inl inside
  · have lacks : t.contains key = false :=
      Bool.eq_false_iff.mpr fun has => inside (Std.ExtTreeMap.mem_iff_contains.mpr has)
    refine Or.inr ⟨?_, by rw [lacks]; rfl⟩
    by_cases inside' : key ∈ u
    · exact inside'
    · rw [Std.ExtTreeMap.getElem?_eq_none inside, Std.ExtTreeMap.getElem?_eq_none inside'] at differs
      exact absurd rfl differs

theorem Entries.nodup_differing (t u : Entries) : (t.differing u).Nodup := by
  apply List.Pairwise.filter
  refine List.nodup_append.mpr ⟨t.nodup_keys, List.Pairwise.filter _ u.nodup_keys, ?_⟩
  intro key member other member' same
  subst same
  have outside := (List.mem_filter.mp member').2
  rw [Std.ExtTreeMap.mem_keys, Std.ExtTreeMap.mem_iff_contains] at member
  rw [member] at outside
  cases outside

/-- Where no key is changed twice, a changed key has the entry that the change gives it. -/
theorem getElem?_foldl_apply_of_mem {changes : List Change} (once : (changes.map Change.key).Nodup)
    (t : Entries) {c : Change} (member : c ∈ changes) :
    (changes.foldl (fun t c => c.apply t) t)[c.key]? = c.entry := by
  induction changes generalizing t with
  | nil => simp at member
  | cons change rest ih =>
      rw [List.map_cons, List.nodup_cons] at once
      rw [List.foldl_cons]
      rcases List.mem_cons.mp member with rfl | later
      · rw [getElem?_foldl_apply _ _ once.1]
        unfold Change.apply
        cases c.entry <;> simp
      · exact ih once.2 _ later

namespace Authority

theorem nodup_resetChanges (a : Authority) (stem : String) :
    ((a.resetChanges stem).map Change.key).Nodup := by
  unfold resetChanges
  simp only [List.map_append, List.map_map, Function.comp_def, List.map_id']
  refine List.nodup_append.mpr ⟨List.Pairwise.filter _ a.entries.nodup_keys, ?_, ?_⟩
  · have sub : ((a.defaults.toList.filter fun e =>
        beginsWith stem e.1 && a.value e.1 != some e.2).map Prod.fst).Sublist a.defaults.keys := by
      rw [← Std.ExtTreeMap.map_fst_toList_eq_keys]
      exact List.filter_sublist.map _
    exact a.defaults.nodup_keys.sublist sub
  · intro key stale other missing same
    subst same
    obtain ⟨e, member, rfl⟩ := List.mem_map.mp missing
    have isDefault : e.1 ∈ a.defaults := by
      rw [← Std.ExtTreeMap.mem_keys, ← Std.ExtTreeMap.map_fst_toList_eq_keys]
      exact List.mem_map_of_mem (List.mem_filter.mp member).1
    have notDefault := (List.mem_filter.mp stale).2
    rw [Std.ExtTreeMap.mem_iff_contains.mp isDefault, Bool.not_true, Bool.and_false] at notDefault
    cases notDefault

/-- A reset gives every key that it changes another entry than it had. -/
theorem entry_ne_of_mem_resetChanges {a : Authority} {stem : String} {c : Change}
    (member : c ∈ a.resetChanges stem) : a.entries[c.key]? ≠ c.entry := by
  unfold resetChanges at member
  rcases List.mem_append.mp member with stale | missing
  · obtain ⟨key, inside, rfl⟩ := List.mem_map.mp stale
    have known : key ∈ a.entries := Std.ExtTreeMap.mem_keys.mp (List.mem_filter.mp inside).1
    intro gone
    have gone : a.entries[key]? = none := gone
    rw [Std.ExtTreeMap.mem_iff_isSome_getElem?, gone] at known
    simp at known
  · obtain ⟨e, inside, rfl⟩ := List.mem_map.mp missing
    have other := (List.mem_filter.mp inside).2
    intro same
    have same : a.entries[e.1]? = some (some e.2) := same
    simp [value, Entries.value, same] at other

/-- The changes that a call makes are to the keys that it changes, one for each time. -/
theorem changes_perm_mutated (a : Authority) (call : StoreCall) (s : Shared) :
    ((a.changes call).map Change.key).Perm (a.mutated call (a.answer call s).2.1.entries) := by
  cases call with
  | get | query | canList | list | put => exact List.Perm.refl _
  | putAll stem values user =>
      simp only [changes, mutated, putAllChanges, List.map_map]
      rw [← Std.ExtTreeMap.map_fst_toList_eq_keys, List.map_map]
      exact List.Perm.refl _
  | delete key user =>
      simp only [changes, mutated, deleteChanges]
      split <;> exact List.Perm.refl _
  | reset stem user =>
      rw [answer_entries]
      simp only [changes, mutated]
      rw [List.perm_ext_iff_of_nodup (a.nodup_resetChanges _) (a.entries.nodup_differing _)]
      intro key
      rw [Entries.mem_differing_iff]
      constructor
      · intro member
        obtain ⟨c, inside, rfl⟩ := List.mem_map.mp member
        rw [getElem?_foldl_apply_of_mem (a.nodup_resetChanges _) _ inside]
        exact entry_ne_of_mem_resetChanges inside
      · intro differs
        by_contra outside
        exact differs (getElem?_foldl_apply _ _ outside).symm

/-! ## A store at work -/

/-- A store answers calls, and `keys` are changed on the way. Between the calls others may do what
they like with the boards, but they can neither close the store's view nor write to its board. -/
inductive Run (a : Authority) (s : Shared) : List String → Authority → Shared → Prop where
  | rest : Run a s [] a s
  | call {keys : List String} {a' : Authority} {s' : Shared} (run : Run a s keys a' s')
      (call : StoreCall) :
      Run a s (keys ++ a'.mutated call (a'.answer call s').2.1.entries) (a'.answer call s').2.1
        (a'.answer call s').2.2
  | aside {keys : List String} {a' : Authority} {s' : Shared} (run : Run a s keys a' s')
      (t : Shared) (isOpen : t.slots.isClosed a'.registry.backing = false)
      (row : t.slots.row a'.registry.backing = s'.slots.row a'.registry.backing)
      (issued : s'.slots.issued ≤ t.slots.issued) : Run a s keys a' t

/-- The store can be written to, and each of its slots is for one topic. -/
structure Working (a : Authority) (s : Shared) : Prop where
  registry : a.registry.Sound s.slots
  isOpen : s.slots.isClosed a.registry.backing = false

theorem create_sound (capacity : Nat) (transfer : Transfer)
    (defaults : Std.ExtTreeMap String String) (s : Shared) :
    (create capacity transfer defaults s).1.registry.Sound
      (create capacity transfer defaults s).2.slots where
  owner := rfl
  distinct := List.nodup_nil
  room := Nat.zero_le _
  issued := Nat.lt_succ_self _

theorem Run.working {a a' : Authority} {s s' : Shared} {keys : List String}
    (run : Run a s keys a' s') (working : a.Working s) : a'.Working s' := by
  induction run with
  | rest => exact working
  | call run call ih =>
      have before := ih
      have moved := answer_moved before.registry call
      exact ⟨moved.sound, by rw [moved.backing, moved.isClosed]; exact before.isOpen⟩
  | aside run t isOpen row issued ih =>
      have before := ih.registry
      exact ⟨⟨before.owner, before.distinct, by rw [Slots.length, row]; exact before.room,
        Nat.lt_of_lt_of_le before.issued issued⟩, isOpen⟩

/-- The slot of a topic stays, and moves on by the number of changes to what the topic covers. -/
theorem Run.slot {a a' : Authority} {s s' : Shared} {keys : List String}
    (run : Run a s keys a' s') (working : a.Working s) {topic : Topic} {index : Nat}
    (slot : a.registry.index? topic = some index) :
    a'.registry.index? topic = some index ∧
      (s'.slots.row a'.registry.backing)[index]? = (s.slots.row a.registry.backing)[index]?.map
        (· + Int64.ofNat (keys.countP topic.covers)) := by
  induction run with
  | rest => exact ⟨slot, by simp⟩
  | @call keys a' s' run call ih =>
      obtain ⟨slot', row⟩ := ih
      have before := run.working working
      have moved := answer_moved before.registry call
      have slot'' := Registry.index?_of_prefix moved.topics slot'
      have turns : (a'.answer call s').2.1.registry.turns s'.slots index
          ((a'.changes call).map Change.key) =
            (a'.mutated call (a'.answer call s').2.1.entries).countP topic.covers := by
        rw [Registry.turns, moved.backing, before.isOpen, if_neg (by simp),
          Registry.topic_of_index? slot'', (changes_perm_mutated a' call s').countP_eq]
        rfl
      refine ⟨slot'', ?_⟩
      rw [moved.backing, moved.turned, turns, row, Option.map_map, List.countP_append]
      congr 1
      funext generation
      simp [Int64.add_assoc]
  | aside run t isOpen row issued ih => exact ⟨ih.1, by rw [row]; exact ih.2⟩

theorem Run.untouched {a a' : Authority} {s s' : Shared} {keys : List String}
    (run : Run a s keys a' s') (working : a.Working s) {key : String} (other : key ∉ keys) :
    a'.entries[key]? = a.entries[key]? := by
  induction run with
  | rest => rfl
  | @call keys a' s' run call ih =>
      rw [List.mem_append, not_or] at other
      have moved := answer_moved (run.working working).registry call
      rw [moved.untouched key, ih other.1]
      rw [(changes_perm_mutated a' call s').mem_iff]
      exact other.2
  | aside run t isOpen row issued ih => exact ih other

/-- From the moment when a topic is tracked, its generation counts the changes to what it covers, up
to the wrap. If it is the same at two moments, and fewer changes came between than the counter can
tell apart, the settings that the topic covers are the same. -/
theorem generation_counts_changes {capacity : Nat} {transfer : Transfer}
    {defaults : Std.ExtTreeMap String String} {start : Shared} {a a' : Authority} {s s' : Shared}
    {earlier keys : List String} {topic : Topic}
    (isOpen : (create capacity transfer defaults start).2.slots.isClosed
      (create capacity transfer defaults start).1.registry.backing = false)
    (past : Run (create capacity transfer defaults start).1
      (create capacity transfer defaults start).2 earlier a s)
    (tracked : (a.registry.index? topic).isSome) (run : Run a s keys a' s') :
    ∃ g g', a.generation? s.slots topic = some g ∧ a'.generation? s'.slots topic = some g' ∧
      g'.toInt - g.toInt ≡ keys.countP topic.covers [ZMOD 2 ^ 64] ∧
      (keys.countP topic.covers < 2 ^ 64 → g' = g →
        ∀ key, topic.covers key = true → a'.entries[key]? = a.entries[key]?) := by
  have working : a.Working s := past.working ⟨create_sound .., isOpen⟩
  have working' := run.working working
  obtain ⟨index, slot⟩ := Option.isSome_iff_exists.mp tracked
  obtain ⟨slot', row⟩ := run.slot working slot
  have inside : index < (s.slots.row a.registry.backing).size := by
    have taken := (List.getElem?_eq_some_iff.mp (Registry.topic_of_index? slot)).1
    exact Nat.lt_of_lt_of_le taken working.registry.room
  obtain ⟨g, held⟩ : ∃ g, (s.slots.row a.registry.backing)[index]? = some g :=
    ⟨_, Array.getElem?_eq_getElem inside⟩
  rw [held, Option.map_some] at row
  have read := Slots.read_eq_ok_iff.mpr ⟨working.isOpen, held⟩
  have read' := Slots.read_eq_ok_iff.mpr ⟨working'.isOpen, row⟩
  refine ⟨g, g + Int64.ofNat (keys.countP topic.covers), ?_, ?_, toInt_add_ofNat_modEq _ _, ?_⟩
  · simp [generation?, Registry.generation?, slot, read, Except.toOption]
  · simp [generation?, Registry.generation?, slot', read', Except.toOption]
  · intro few same key covers
    apply run.untouched working
    intro member
    have none : keys.countP topic.covers = 0 := by
      have step := toInt_add_ofNat_modEq g (keys.countP topic.covers)
      rw [same, sub_self] at step
      have divides := Int.modEq_zero_iff_dvd.mp step.symm
      omega
    exact List.countP_eq_zero.mp none key member covers

/-- A put and the reset that takes it back are two changes. -/
theorem generation_counts_put_and_reset :
    let volume : Topic := .key "volume"
    let start := create 2 .duplicate (.ofList [("volume", "7")]) {}
    ∃ (earlier keys : List String) (a a' : Authority) (s s' : Shared),
      start.2.slots.isClosed start.1.registry.backing = false ∧
      Run start.1 start.2 earlier a s ∧ (a.registry.index? volume).isSome ∧ Run a s keys a' s' ∧
      keys.countP volume.covers = 2 ∧
      ∃ g g', a.generation? s.slots volume = some g ∧ a'.generation? s'.slots volume = some g' ∧
        g'.toInt - g.toInt ≡ keys.countP volume.covers [ZMOD 2 ^ 64] ∧
        (keys.countP volume.covers < 2 ^ 64 → g' = g →
          ∀ key, volume.covers key = true → a'.entries[key]? = a.entries[key]?) := by
  intro volume start
  have isOpen : start.2.slots.isClosed start.1.registry.backing = false := by decide +kernel
  let asked := start.1.answer (.get "volume" { user := 0, tracked := true }) start.2
  have past : Run start.1 start.2 _ asked.2.1 asked.2.2 := .call .rest _
  have tracked : (asked.2.1.registry.index? volume).isSome := by decide +kernel
  have run : Run asked.2.1 asked.2.2 _ _ _ := .call (.call .rest (.put "volume" (some "8") 0))
    (.reset none 0)
  exact ⟨_, _, _, _, _, _, isOpen, past, tracked, run, by decide +kernel,
    generation_counts_changes isOpen past tracked run⟩

end Authority

end TrackedSettings
