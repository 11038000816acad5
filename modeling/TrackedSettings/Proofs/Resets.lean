import TrackedSettings.Proofs.Lifetimes

/-! # Resets

A reset gives each key under its stem the entry that it has by default, or none, and changes nothing
else. It changes exactly the keys whose entry is another one before, each once. So a reset that comes
again changes nothing, and of two resets either may come first: each key that differs from its default
is changed once, by the first of them that it concerns.
-/

namespace TrackedSettings

namespace Authority

variable {a : Authority} {stem : String}

/-! ## The changes of a reset -/

/-- The entry that a key has by default. -/
def defaultEntry (a : Authority) (key : String) : Option Value :=
  a.defaults[key]?.map some

/-- A reset changes the keys under the stem that do not have their default entry. -/
theorem mem_resetChanges_iff {c : Change} :
    c ∈ a.resetChanges stem ↔ beginsWith stem c.key = true ∧ c.entry = a.defaultEntry c.key ∧
      a.entries[c.key]? ≠ c.entry := by
  obtain ⟨key, entry⟩ := c
  have differs : ∀ text, a.entries[key]?.join ≠ some text ↔ a.entries[key]? ≠ some (some text) := by
    intro text
    cases a.entries[key]? <;> simp
  unfold resetChanges defaultEntry
  simp only [List.mem_append, List.mem_map, List.mem_filter, Std.ExtTreeMap.mem_keys, Prod.exists,
    Bool.and_eq_true, bne_iff_ne, Std.ExtTreeMap.mem_toList_iff_getElem?_eq_some, value,
    Entries.value, Change.mk.injEq]
  -- The first pass makes the changes of keys without a default, the second those of the others.
  cases default : a.defaults[key]? <;> grind

/-- After a reset the keys under the stem have their default entries, and the others what they had. -/
theorem getElem?_reset (a : Authority) (stem key : String) :
    ((a.resetChanges stem).foldl (fun t c => c.apply t) a.entries)[key]? =
      if beginsWith stem key then a.defaultEntry key else a.entries[key]? := by
  by_cases changed : key ∈ (a.resetChanges stem).map Change.key
  · obtain ⟨c, member, rfl⟩ := List.mem_map.mp changed
    obtain ⟨begins, entry, -⟩ := mem_resetChanges_iff.mp member
    rw [getElem?_foldl_apply_of_mem (a.nodup_resetChanges stem) _ member, if_pos begins, entry]
  · rw [getElem?_foldl_apply _ _ changed]
    split
    · next begins =>
      by_contra differs
      exact changed (List.mem_map_of_mem (mem_resetChanges_iff (c := ⟨key, a.defaultEntry key⟩).mpr
        ⟨begins, rfl, differs⟩))
    · rfl

/-! ## One reset -/

/-- What is there after a reset of the keys under `stem`. -/
def reset (a : Authority) (stem : String) (s : Shared) : Authority × Shared :=
  a.write (a.resetChanges stem) s

theorem answer_reset (a : Authority) (stem : Option String) (user : UserId) (s : Shared) :
    a.answer (.reset stem user) s = (.ok (), a.reset (stem.getD "") s) := rfl

@[simp] theorem defaultEntry_reset (a : Authority) (stem : String) (s : Shared) (key : String) :
    (a.reset stem s).1.defaultEntry key = a.defaultEntry key := rfl

theorem entries_reset (a : Authority) (stem : String) (s : Shared) (key : String) :
    (a.reset stem s).1.entries[key]? =
      if beginsWith stem key then a.defaultEntry key else a.entries[key]? :=
  a.getElem?_reset stem key

/-- A reset leaves nothing to change for the same reset. -/
theorem resetChanges_reset (a : Authority) (stem : String) (s : Shared) :
    (a.reset stem s).1.resetChanges stem = [] := by
  rw [List.eq_nil_iff_forall_not_mem]
  intro c member
  obtain ⟨begins, entry, differs⟩ := mem_resetChanges_iff.mp member
  rw [entries_reset, if_pos begins, entry] at differs
  exact differs rfl

theorem resetChanges_perm (a : Authority) (stem : String) (s : Shared) :
    ((a.resetChanges stem).map Change.key).Perm
      (a.entries.differing (a.reset stem s).1.entries) :=
  a.changes_perm_mutated (.reset (some stem) 0) s

/-- A reset moves the generation of a topic on by the number of keys whose entry it changes. -/
theorem generation?_reset (owner : a.registry.backing.owner = true) (stem : String) (s : Shared)
    (topic : Topic) :
    (a.reset stem s).1.generation? (a.reset stem s).2.slots topic =
      (a.generation? s.slots topic).map
        (· + Int64.ofNat ((a.entries.differing (a.reset stem s).1.entries).countP topic.covers)) := by
  rw [reset, generation?_write owner, (a.resetChanges_perm stem s).countP_eq]
  rfl

/-! ## Two resets -/

/-- If no key is changed twice, then the keys changed are those that differ in the end. -/
theorem differing_append_perm {t u v : Entries}
    (settled : ∀ key : String, t[key]? ≠ u[key]? → v[key]? = u[key]?) :
    (t.differing u ++ u.differing v).Perm (t.differing v) := by
  have once : (t.differing u ++ u.differing v).Nodup := by
    refine List.nodup_append.mpr ⟨t.nodup_differing u, u.nodup_differing v, ?_⟩
    intro key first other second same
    subst same
    rw [Entries.mem_differing_iff] at first second
    exact second (settled key first).symm
  rw [List.perm_ext_iff_of_nodup once (t.nodup_differing v)]
  intro key
  rw [List.mem_append, Entries.mem_differing_iff, Entries.mem_differing_iff,
    Entries.mem_differing_iff]
  have := settled key
  grind

/-- A key that the first of two resets has changed has its default entry, which the second leaves. -/
theorem settled_reset (a : Authority) (stem other : String) (s s' : Shared) (key : String)
    (changed : a.entries[key]? ≠ (a.reset stem s).1.entries[key]?) :
    ((a.reset stem s).1.reset other s').1.entries[key]? = (a.reset stem s).1.entries[key]? := by
  simp only [entries_reset, defaultEntry_reset] at changed ⊢
  grind

/-- Of two resets either may come first. -/
theorem reset_reset_comm (a : Authority) (stem other : String) (s s' t t' : Shared) :
    ((a.reset stem s).1.reset other s').1 = ((a.reset other t).1.reset stem t').1 := by
  have entries : ((a.reset stem s).1.reset other s').1.entries =
      ((a.reset other t).1.reset stem t').1.entries := by
    apply Std.ExtTreeMap.ext_getElem?
    intro key
    simp only [entries_reset, defaultEntry_reset]
    grind
  change { a with entries := ((a.reset stem s).1.reset other s').1.entries } =
    { a with entries := ((a.reset other t).1.reset stem t').1.entries }
  rw [entries]

/-- Two resets move the generation of a topic on by the number of keys that have another entry in the
end. -/
theorem generation?_reset_reset (owner : a.registry.backing.owner = true) (stem other : String)
    (s : Shared) (topic : Topic) :
    let x := a.reset stem s
    let y := x.1.reset other x.2
    y.1.generation? y.2.slots topic = (a.generation? s.slots topic).map
      (· + Int64.ofNat ((a.entries.differing y.1.entries).countP topic.covers)) := by
  intro x y
  have moved := generation?_reset (a := x.1) owner other x.2 topic
  rw [generation?_reset owner, Option.map_map] at moved
  rw [← (differing_append_perm (a.settled_reset stem other s x.2)).countP_eq, List.countP_append,
    moved]
  congr 1
  funext generation
  simp [x, Int64.add_assoc]

/-! ## Defaults are restored -/

/-- What a reset of the keys under `stem` has made of a store. -/
structure Restored (a : Authority) (s : Shared) (stem : String) (a' : Authority) (s' : Shared) :
    Prop where
  under : ∀ key, beginsWith stem key = true → a'.entries[key]? = a.defaults[key]?.map some
  elsewhere : ∀ key, beginsWith stem key = false → a'.entries[key]? = a.entries[key]?
  /-- The generations count the keys that have got another entry. -/
  advanced : a.Advanced s (a.entries.differing a'.entries) a' s'

/-- A reset restores the defaults under its stem and nothing else, and it moves the generation of each
topic on by the number of keys whose entry has become another one. The same reset again leaves store
and boards as they are, and of two resets either may come first. -/
theorem reset_restores_defaults {s : Shared} (reached : a.Reached s) (stem : Option String)
    (user : UserId) :
    let x := a.answer (.reset stem user) s
    x.1 = .ok () ∧ a.Restored s (stem.getD "") x.2.1 x.2.2 ∧
      (∀ user' t, x.2.1.answer (.reset stem user') t = (.ok (), x.2.1, t)) ∧
      ∀ other user',
        let y := (a.answer (.reset other user') s).2
        Alike (x.2.1.answer (.reset other user') x.2.2).2 (y.1.answer (.reset stem user) y.2).2 := by
  simp only [answer_reset]
  refine ⟨trivial, ?_, ?_, ?_⟩
  · exact
      { under := fun key begins => by rw [entries_reset, if_pos begins]; rfl
        elsewhere := fun key outside => by simp [entries_reset, outside]
        advanced := reached.write_advanced (a.resetChanges_perm _ s) }
  · intro _ t
    rw [reset, resetChanges_reset]
    rfl
  · intro other _
    have owner := reached.sound.owner
    have same := a.reset_reset_comm (stem.getD "") (other.getD "") s
      (a.reset (stem.getD "") s).2 s (a.reset (other.getD "") s).2
    refine ⟨same, fun topic => ?_⟩
    rw [generation?_reset_reset owner, generation?_reset_reset owner, same]

/-- A store with three settings, two of them under one stem, after one was cleared, one deleted and
one added there. -/
def disturbed : Authority × Shared :=
  let x := create 4 .duplicate (.ofList [("a/x", "1"), ("a/y", "2"), ("b", "3")]) {}
  let x := (x.1.answer (.list "a/" { user := 0, tracked := true }) x.2).2
  let x := (x.1.answer (.put "a/x" none 0) x.2).2
  let x := (x.1.answer (.delete "a/y" 0) x.2).2
  (x.1.answer (.put "a/z" (some "9") 0) x.2).2

theorem reached_disturbed : disturbed.1.Reached disturbed.2 :=
  .answered (.answered (.answered (.answered (.created ..) _) _) _) _

/-- Three changes have come before the reset, and the reset makes three. -/
theorem reset_restores_disturbed :
    let x := disturbed.1.answer (.reset (some "a/") 0) disturbed.2
    disturbed.1.Reached disturbed.2 ∧
      disturbed.1.generation? disturbed.2.slots (.under "a/") = some 3 ∧
      x.2.1.generation? x.2.2.slots (.under "a/") = some 6 ∧
      disturbed.1.Restored disturbed.2 "a/" x.2.1 x.2.2 ∧
      (x.2.1.answer (.reset none 0) x.2.2).2.1 =
        ((disturbed.1.answer (.reset none 0) disturbed.2).2.1.answer (.reset (some "a/") 0)
          (disturbed.1.answer (.reset none 0) disturbed.2).2.2).2.1 := by
  intro x
  obtain ⟨-, restored, -, comm⟩ := reset_restores_defaults reached_disturbed (some "a/") 0
  exact ⟨reached_disturbed, by decide +kernel, by decide +kernel, restored, (comm none 0).1⟩

end Authority

end TrackedSettings
