import TrackedSettings.Proofs.Lifetimes

/-! # Batches

A batch gives names under one stem their values. Its entries come in no order of their own, and each
put visits the slots in no order of its own either. None of these orders shows: different names under
a stem are different keys, and every slot counts the changes that concern its topic. So a batch put at
once, a batch walked in any order, and one put after the other all come to the same.
-/

namespace TrackedSettings

namespace Registry

variable {r : Registry}

/-- Bump, with the slots visited in the order of `places`. -/
def bumpAlong (r : Registry) (places : List (Topic × Nat)) (key : String) (s : Shared) : Shared :=
  places.foldl (fun s place => if place.1.covers key then r.advance s place.1 place.2 else s) s

theorem bump_eq_bumpAlong (r : Registry) (key : String) (s : Shared) :
    r.bump key s = r.bumpAlong r.topics.zipIdx key s := rfl

theorem bumpAlong_turned (owner : r.backing.owner = true) {places : List (Topic × Nat)}
    (order : places.Perm r.topics.zipIdx) (key : String) (s : Shared) :
    Slots.Turned r.backing (fun i => r.turns s.slots i [key]) s.slots
      (r.bumpAlong places key s).slots := by
  apply (fold_turned owner key places s).congr
  intro i
  rw [order.countP_eq]
  exact r.turns_singleton s.slots i key

end Registry

namespace Authority

variable {a : Authority} {stem : String} {values : Entries}

/-! ## Walking a batch -/

/-- One entry of a batch, and the order in which its put visits the slots. -/
structure Placement where
  name : String
  value : Value
  places : List (Topic × Nat)

def Placement.change (stem : String) (p : Placement) : Change where
  key := stem ++ p.name
  entry := some p.value

/-- Put one entry of a batch. -/
def place (stem : String) (x : Authority × Shared) (p : Placement) : Authority × Shared :=
  ({ x.1 with entries := (p.change stem).apply x.1.entries },
    x.1.registry.bumpAlong p.places (stem ++ p.name) x.2)

/-- Put the entries of a batch, one after the other. -/
def placeAll (a : Authority) (stem : String) (walk : List Placement) (s : Shared) :
    Authority × Shared :=
  walk.foldl (place stem) (a, s)

/-- Every entry of the batch comes once, and its put visits every slot once. -/
structure Walks (a : Authority) (values : Entries) (walk : List Placement) : Prop where
  entries : (walk.map fun p => (p.name, p.value)).Perm values.toList
  places : ∀ p ∈ walk, p.places.Perm a.registry.topics.zipIdx

/-- However the slots are visited, the changes made are those of the entries. -/
theorem placeAll_turned (stem : String) (owner : a.registry.backing.owner = true)
    {walk : List Placement}
    (places : ∀ p ∈ walk, p.places.Perm a.registry.topics.zipIdx) (s : Shared) :
    let changes := walk.map (·.change stem)
    (a.placeAll stem walk s).1 =
        { a with entries := changes.foldl (fun t c => c.apply t) a.entries } ∧
      Slots.Turned a.registry.backing
        (fun i => a.registry.turns s.slots i (changes.map Change.key)) s.slots
        (a.placeAll stem walk s).2.slots := by
  induction walk generalizing a s with
  | nil => exact ⟨rfl, (Slots.Turned.refl _ s.slots).congr fun _ => (Registry.turns_nil ..).symm⟩
  | cons p rest ih =>
      let x := place stem (a, s) p
      have first := Registry.bumpAlong_turned owner (places p List.mem_cons_self) (stem ++ p.name) s
      obtain ⟨same, later⟩ :=
        ih (a := x.1) owner (fun p member => places p (List.mem_cons_of_mem _ member)) x.2
      refine ⟨same, (first.trans later).congr fun i => ?_⟩
      have still : x.1.registry.turns x.2.slots i ((rest.map (·.change stem)).map Change.key) =
          a.registry.turns s.slots i ((rest.map (·.change stem)).map Change.key) := by
        simp only [Registry.turns, x, place, first.isClosed]
      rw [still, ← Registry.turns_append]
      rfl

/-! ## What a batch changes -/

theorem map_key_putAllChanges (stem : String) (values : Entries) :
    (putAllChanges stem values).map Change.key = values.keys.map (stem ++ ·) := by
  rw [← Std.ExtTreeMap.map_fst_toList_eq_keys, putAllChanges, List.map_map, List.map_map]
  rfl

/-- Different names under a stem are different keys. -/
theorem nodup_putAllChanges (stem : String) (values : Entries) :
    ((putAllChanges stem values).map Change.key).Nodup := by
  rw [map_key_putAllChanges]
  exact List.pairwise_map.mpr (values.nodup_keys.imp fun {name other} differs same =>
    differs ((String.append_right_inj stem).mp same))

theorem mem_putAllChanges_iff {c : Change} :
    c ∈ putAllChanges stem values ↔
      ∃ name v, values[name]? = some v ∧ c = { key := stem ++ name, entry := some v } := by
  simp only [putAllChanges, List.mem_map, Prod.exists,
    Std.ExtTreeMap.mem_toList_iff_getElem?_eq_some]
  grind

/-- In whatever order the entries of a batch are put, each name of the batch has its value in the end,
and all other keys have what they had. -/
theorem getElem?_putAll {changes : List Change} (order : changes.Perm (putAllChanges stem values))
    (t : Entries) (key : String) :
    (changes.foldl (fun t c => c.apply t) t)[key]? =
      ((nameUnder? stem key).bind (values[·]?)).or t[key]? := by
  have once : (changes.map Change.key).Nodup :=
    (order.map Change.key).nodup_iff.mpr (nodup_putAllChanges stem values)
  by_cases changed : key ∈ changes.map Change.key
  · obtain ⟨c, member, rfl⟩ := List.mem_map.mp changed
    obtain ⟨name, v, held, rfl⟩ := mem_putAllChanges_iff.mp (order.mem_iff.mp member)
    rw [getElem?_foldl_apply_of_mem once t member, nameUnder?_eq_some_iff.mpr rfl]
    simp [held]
  · have absent : (nameUnder? stem key).bind (values[·]?) = none := by
      rw [Option.bind_eq_none_iff]
      intro name under
      by_contra held
      obtain ⟨v, held⟩ := Option.ne_none_iff_exists'.mp held
      have member : { key, entry := some v } ∈ changes := order.mem_iff.mpr
        (mem_putAllChanges_iff.mpr ⟨name, v, held, by rw [nameUnder?_eq_some_iff.mp under]⟩)
      exact changed (List.mem_map_of_mem member)
    rw [getElem?_foldl_apply _ _ changed, absent, Option.none_or]

/-! ## Any order -/

/-- What is there after a batch was put at once. -/
def putAll (a : Authority) (stem : String) (values : Entries) (s : Shared) : Authority × Shared :=
  a.write (putAllChanges stem values) s

theorem answer_putAll (a : Authority) (stem : String) (values : Entries) (user : UserId)
    (s : Shared) :
    a.answer (.putAll stem values user) s = (.ok (), a.putAll stem values s) := rfl

theorem getElem?_putAll_stem (a : Authority) (stem : String) (values : Entries) (s : Shared)
    (name : String) :
    (a.putAll stem values s).1.entries[stem ++ name]? = values[name]?.or a.entries[stem ++ name]? := by
  simp [putAll, write, getElem?_putAll (.refl _), nameUnder?_eq_some_iff.mpr]

theorem Walks.changes {walk : List Placement} (walks : a.Walks values walk) (stem : String) :
    (walk.map (·.change stem)).Perm (putAllChanges stem values) := by
  have listed := walks.entries.map fun e => Change.mk (stem ++ e.1) (some e.2)
  rwa [List.map_map] at listed

/-- A batch that is walked in some order comes to the same as one that is put at once. -/
theorem Walks.alike {walk : List Placement} (walks : a.Walks values walk)
    (owner : a.registry.backing.owner = true) (stem : String) (s : Shared) :
    Alike (a.placeAll stem walk s) (a.putAll stem values s) := by
  let y := a.placeAll stem walk s
  let x := a.putAll stem values s
  obtain ⟨made, turned⟩ := placeAll_turned stem owner walks.places s
  have same : y.1 = x.1 := by
    have entries : (walk.map (·.change stem)).foldl (fun t c => c.apply t) a.entries =
        x.1.entries := by
      apply Std.ExtTreeMap.ext_getElem?
      intro key
      rw [getElem?_putAll (walks.changes stem)]
      exact (getElem?_putAll (.refl _) a.entries key).symm
    simp only [y, made, entries]
    rfl
  refine ⟨same, fun topic => ?_⟩
  have counted := ((walks.changes stem).map Change.key).countP_eq topic.covers
  change y.1.generation? y.2.slots topic = x.1.generation? x.2.slots topic
  rw [same, generation?, generation?]
  exact (Registry.generation?_turned turned topic).trans (counted ▸
    (generation?_write owner (putAllChanges stem values) s topic).symm)

/-- A put visits the slots in their own order. -/
theorem answer_put_eq_place (a : Authority) (stem name : String) (value : Value) (user : UserId)
    (s : Shared) :
    a.answer (.put (stem ++ name) value user) s =
      (.ok (), place stem (a, s) { name, value, places := a.registry.topics.zipIdx }) := by
  rw [place, ← Registry.bump_eq_bumpAlong]
  rfl

/-- One put after the other is a walk that visits the slots in their own order. -/
theorem putEach_eq_placeAll (a : Authority) (stem : String) (order : List (String × Value))
    (user : UserId) (s : Shared) :
    putEach (fun key value x => x.1.answer (.put key value user) x.2) stem order (a, s) =
      (.ok (), a.placeAll stem
        (order.map fun e => { name := e.1, value := e.2, places := a.registry.topics.zipIdx }) s) := by
  induction order generalizing a s with
  | nil => rfl
  | cons e rest ih =>
      simp only [putEach, answer_put_eq_place]
      exact ih _ _

theorem walks_map_of_perm (a : Authority) {order : List (String × Value)}
    (perm : order.Perm values.toList) :
    a.Walks values
      (order.map fun e => { name := e.1, value := e.2, places := a.registry.topics.zipIdx }) where
  entries := by simpa [List.map_map, Function.comp_def] using perm
  places p member := by
    obtain ⟨e, -, rfl⟩ := List.mem_map.mp member
    exact .refl _

/-! ## Batches -/

/-- What a batch of values under `stem` has made of a store. -/
structure Filled (a : Authority) (s : Shared) (stem : String) (values : Entries) (a' : Authority)
    (s' : Shared) : Prop where
  named : ∀ name value, values[name]? = some value → a'.entries[stem ++ name]? = some value
  others : ∀ key, (∀ name ∈ values, key ≠ stem ++ name) → a'.entries[key]? = a.entries[key]?
  /-- The generations count the names, each by its whole key. -/
  advanced : a.Advanced s (values.keys.map (stem ++ ·)) a' s'

/-- A batch gives each of its names its value and changes nothing else, and it moves the generation of
each topic on by the number of its names whose keys the topic covers. It comes to the same in whatever
order its entries are walked and the slots are visited, and to the same as one put after the other. -/
theorem batch_in_any_order {s : Shared} (reached : a.Reached s) (stem : String) (values : Entries)
    (user : UserId) :
    let x := a.answer (.putAll stem values user) s
    x.1 = .ok () ∧ a.Filled s stem values x.2.1 x.2.2 ∧
      (∀ walk, a.Walks values walk → Alike (a.placeAll stem walk s) x.2) ∧
      ∀ order : List (String × Value), order.Perm values.toList →
        let y := putEach (fun key value x => x.1.answer (.put key value user) x.2) stem order (a, s)
        y.1 = .ok () ∧ Alike y.2 x.2 := by
  have owner := reached.sound.owner
  simp only [answer_putAll, putEach_eq_placeAll]
  refine ⟨trivial, ?_, ?_, ?_⟩
  · exact
      { named := fun name value held => by rw [getElem?_putAll_stem, held, Option.some_or]
        others := fun key other => getElem?_foldl_apply _ _ fun changed => by
          rw [map_key_putAllChanges] at changed
          obtain ⟨name, member, same⟩ := List.mem_map.mp changed
          exact other name (Std.ExtTreeMap.mem_keys.mp member) same.symm
        advanced := reached.write_advanced (by rw [map_key_putAllChanges]) }
  · exact fun walk walks => walks.alike owner stem s
  · exact fun order perm => ⟨trivial, (a.walks_map_of_perm perm).alike owner stem s⟩

/-- A store with two settings, where a key and its stem are tracked. -/
def watched : Authority × Shared :=
  let x := create 4 .duplicate (.ofList [("a/x", "1"), ("b", "2")]) {}
  let x := (x.1.answer (.get "a/x" { user := 0, tracked := true }) x.2).2
  (x.1.answer (.list "a/" { user := 0, tracked := true }) x.2).2

/-- Two entries, the later one first, and the slots from either end. -/
def backwards : List Placement :=
  [{ name := "y", value := some "3", places := [(.under "a/", 1), (.key "a/x", 0)] },
    { name := "x", value := none, places := [(.key "a/x", 0), (.under "a/", 1)] }]

theorem batch_in_any_order_backwards :
    let values : Entries := .ofList [("x", none), ("y", some "3")]
    let x := watched.1.answer (.putAll "a/" values 0) watched.2
    watched.1.Reached watched.2 ∧ watched.1.Walks values backwards ∧
      watched.1.Filled watched.2 "a/" values x.2.1 x.2.2 ∧
      Alike (watched.1.placeAll "a/" backwards watched.2) x.2 ∧
      x.2.1.generation? x.2.2.slots (.key "a/x") = some 1 ∧
      x.2.1.generation? x.2.2.slots (.under "a/") = some 2 := by
  intro values x
  have reached : watched.1.Reached watched.2 := .answered (.answered (.created ..) _) _
  have walks : watched.1.Walks values backwards :=
    { entries := by decide +kernel
      places := by decide +kernel }
  obtain ⟨-, filled, walked, -⟩ := batch_in_any_order reached "a/" values 0
  exact ⟨reached, walks, filled, walked backwards walks, by decide +kernel, by decide +kernel⟩

end Authority

end TrackedSettings
