import TrackedSettings.Session.Script
import TrackedSettings.Proofs.Allotment
import TrackedSettings.Proofs.Fronts

/-! # What reads leave behind

A front that plays at races puts each key again after it was read, with the value that the key has.
No value is ever changed by this, only generations move. But a value does not tell a key that is
there without a value from one that is not there: what was not there is there afterwards. So a read of
a missing key shows in listings, and in the answer when the key is deleted.
-/

namespace TrackedSettings

/-! ## Keys put again -/

namespace Authority

variable {a a' a'' : Authority} {s s' s'' : Shared} {keys keys' : List String}

/-- The keys were put again, each with the value that it had. Otherwise only slots were given away and
generations moved on. -/
structure Touched (a : Authority) (s : Shared) (keys : List String) (a' : Authority) (s' : Shared) :
    Prop where
  rest : ∃ more, a' =
    { a with entries := a'.entries, registry := { a.registry with topics := a.registry.topics ++ more } }
  sound : a'.registry.Sound s'.slots
  entry : ∀ key, a'.entries[key]? = if key ∈ keys then some (a.value key) else a.entries[key]?
  generation : ∀ topic, (a.registry.index? topic).isSome →
    a'.generation? s'.slots topic =
      (a.generation? s.slots topic).map (· + Int64.ofNat (keys.countP topic.covers))
  isClosed : ∀ v, s'.slots.isClosed v = s.slots.isClosed v

namespace Touched

theorem refl (sound : a.registry.Sound s.slots) : a.Touched s [] a s where
  rest := ⟨[], by simp⟩
  sound := sound
  entry := by simp
  generation := by simp
  isClosed _ := rfl

/-- Putting keys again changes no value. -/
theorem value (touched : a.Touched s keys a' s') (key : String) : a'.value key = a.value key := by
  have entry := touched.entry key
  simp only [Authority.value, Entries.value] at entry ⊢
  rw [entry]
  split <;> rfl

theorem isSome_index? (touched : a.Touched s keys a' s') {topic : Topic}
    (tracked : (a.registry.index? topic).isSome) : (a'.registry.index? topic).isSome := by
  obtain ⟨more, same⟩ := touched.rest
  obtain ⟨index, slot⟩ := Option.isSome_iff_exists.mp tracked
  have longer : a.registry.topics <+: a'.registry.topics := by
    rw [same]
    exact List.prefix_append _ _
  have slot' := Registry.index?_of_prefix longer slot
  simp [slot']

theorem trans (first : a.Touched s keys a' s') (second : a'.Touched s' keys' a'' s'') :
    a.Touched s (keys' ++ keys) a'' s'' where
  rest := by
    obtain ⟨more, same⟩ := first.rest
    obtain ⟨more', same'⟩ := second.rest
    refine ⟨more ++ more', ?_⟩
    rw [same', same]
    simp
  sound := second.sound
  entry key := by
    rw [second.entry, first.entry, first.value]
    grind
  generation topic tracked := by
    rw [second.generation topic (first.isSome_index? tracked), first.generation topic tracked,
      Option.map_map, List.countP_append]
    congr 1
    funext generation
    simp [Int64.ofNat_add, Int64.add_assoc, Int64.add_comm]
  isClosed v := (second.isClosed v).trans (first.isClosed v)

end Touched

theorem some_value {key : String} (there : key ∈ a.entries) :
    some (a.value key) = a.entries[key]? := by
  rw [Std.ExtTreeMap.mem_iff_isSome_getElem?] at there
  obtain ⟨v, found⟩ := Option.isSome_iff_exists.mp there
  simp [Authority.value, Entries.value, found]

/-- Asking for a grant puts nothing again. -/
theorem touched_track (sound : a.registry.Sound s.slots) (topic : Topic) (request : ReadRequest) :
    a.Touched s [] (a.track topic request s).2.1 (a.track topic request s).2.2 := by
  unfold track
  by_cases wanted : request.tracked = true
  · rw [if_pos wanted]
    have tracked := Registry.track_tracked sound topic a.transfer
    have registry := Registry.registry_of_track (r := a.registry) (s := s) topic a.transfer
    refine ⟨?_, tracked.sound, by simp, ?_, tracked.isClosed⟩
    · dsimp only
      rw [registry]
      split
      · exact ⟨[topic], rfl⟩
      · exact ⟨[], by simp⟩
    · intro other old
      have same := Registry.generation?_of_track sound topic (Or.inr old) a.transfer
      simpa [generation?] using same
  · rw [if_neg wanted]
    exact .refl sound

/-- Putting a key again is one change. -/
theorem touched_put (sound : a.registry.Sound s.slots) (key : String) :
    a.Touched s [key] (a.put key (a.value key) s).1 (a.put key (a.value key) s).2 := by
  have moved := write_moved sound [{ key, entry := some (a.value key) }]
  refine ⟨⟨[], by simp [put, write]⟩, moved.sound, ?_, ?_, moved.isClosed⟩
  · intro other
    by_cases same : other = key
    · subst same
      simp [put, write, Change.apply]
    · have still := moved.untouched other (by simpa using same)
      rw [put, still]
      simp [same]
  · intro topic _
    exact generation?_write sound.owner _ s topic

end Authority

/-! ## Reads through a front -/

/-- A front, the store behind it, and what they share with others. -/
structure Front where
  flaky : Flaky
  authority : Authority
  shared : Shared

/-- A read through a front, or a change to its switches. -/
inductive FrontStep where
  | switch (change : SwitchChange)
  | get (key : String) (request : ReadRequest)
  | query (key : String) (request : ReadRequest)
  | list (stem : String) (request : ReadRequest)
deriving DecidableEq, Repr, Inhabited

/-- What was done with a front, the latest first. -/
abbrev FrontPast := List FrontStep

namespace FrontStep

def switches (s : Switches) : FrontStep → Switches
  | switch change => change.apply s
  | get .. | query .. | list .. => s

/-- The key that is put again, if the read gets that far. -/
def touches (s : Switches) : FrontStep → List String
  | get key _ => if s.fastPath = .enabled ∧ s.touches = true then [key] else []
  | query key _ => if s.queryFails = false ∧ s.touches = true then [key] else []
  | switch _ | list .. => []

end FrontStep

namespace FrontPast

def switches (start : Switches) : FrontPast → Switches
  | [] => start
  | step :: past => step.switches (switches start past)

/-- The keys that reads have put again. -/
def touched (start : Switches) : FrontPast → List String
  | [] => []
  | step :: past => step.touches (switches start past) ++ touched start past

end FrontPast

namespace Front

/-- What is there after a call. -/
def called (x : Front) (call : StoreCall) : Front :=
  let (_, flaky, authority, shared) := x.flaky.answer call x.authority x.shared
  { flaky, authority, shared }

def step (x : Front) : FrontStep → Front
  | .switch change => { x with flaky.switches := change.apply x.flaky.switches }
  | .get key request => x.called (.get key request)
  | .query key request => x.called (.query key request)
  | .list stem request => x.called (.list stem request)

/-- What is there after `past`. -/
def after (start : Front) : FrontPast → Front
  | [] => start
  | step :: past => (after start past).step step

/-- What a call that deletes a key is told. -/
def deletes (x : Front) (key : String) (user : UserId) : Except StoreError Bool :=
  (x.flaky.answer (.delete key user) x.authority x.shared).1

variable {x start : Front} {past : FrontPast}

theorem switches_pass (f : Flaky) (grant : Option Grant) :
    (f.pass grant).2.switches = f.switches := by
  unfold Flaky.pass
  grind

theorem switches_step (x : Front) (step : FrontStep) :
    (x.step step).flaky.switches = step.switches x.flaky.switches := by
  cases step with
  | switch change => rfl
  | query key request =>
      simp only [Front.step, called, Flaky.answer, Flaky.query, FrontStep.switches]
      split <;> rfl
  | get key request =>
      simp only [Front.step, called, Flaky.answer, Flaky.get, FrontStep.switches]
      split <;> simp [switches_pass, Flaky.switches_countRequest]
  | list stem request =>
      simp only [Front.step, called, Flaky.answer, Flaky.list, FrontStep.switches]
      split
      · simp [Flaky.switches_countRequest]
      · split <;> simp [switches_pass, Flaky.switches_countRequest]

theorem touched_touch {a : Authority} {s : Shared} (sound : a.registry.Sound s.slots) (f : Flaky)
    (key : String) :
    a.Touched s (if f.switches.touches = true then [key] else []) (f.touch key a s).1
      (f.touch key a s).2 := by
  unfold Flaky.touch
  split
  · exact Authority.touched_put sound key
  · exact .refl sound

theorem touched_step (sound : x.authority.registry.Sound x.shared.slots) (step : FrontStep) :
    x.authority.Touched x.shared (step.touches x.flaky.switches) (x.step step).authority
      (x.step step).shared := by
  cases step with
  | switch change => exact .refl sound
  | query key request =>
      simp only [Front.step, called, Flaky.answer, Flaky.query, FrontStep.touches]
      cases x.flaky.switches.queryFails with
      | true => exact .refl sound
      | false => simpa using touched_touch sound { x.flaky with queries := x.flaky.queries + 1 } key
  | get key request =>
      have counted := ({ x.flaky with gets := x.flaky.gets + 1 } : Flaky).switches_countRequest request
      simp only [Front.step, called, Flaky.answer, Flaky.get, FrontStep.touches]
      generalize ({ x.flaky with gets := x.flaky.gets + 1 } : Flaky).countRequest request = f
        at counted ⊢
      have same : f.switches = x.flaky.switches := counted
      rw [same]
      cases x.flaky.switches.fastPath with
      | unsupported | failing => exact .refl sound
      | enabled =>
          have asked := Authority.touched_track sound (.key key) request
          simpa [same, Authority.get] using asked.trans (touched_touch asked.sound f key)
  | list stem request =>
      simp only [Front.step, called, Flaky.answer, Flaky.list, FrontStep.touches]
      split
      · exact .refl sound
      · split
        · exact .refl sound
        · exact Authority.touched_track sound (.under stem) request

theorem switches_after (start : Front) (past : FrontPast) :
    (start.after past).flaky.switches = past.switches start.flaky.switches := by
  induction past with
  | nil => rfl
  | cons step past ih => rw [after, switches_step, ih, FrontPast.switches]

theorem touched_after (sound : start.authority.registry.Sound start.shared.slots)
    (past : FrontPast) :
    start.authority.Touched start.shared (past.touched start.flaky.switches)
      (start.after past).authority (start.after past).shared := by
  induction past with
  | nil => exact .refl sound
  | cons step past ih =>
      have next := touched_step ih.sound step
      rw [switches_after] at next
      exact ih.trans next

/-- What reads through a front leave behind. -/
structure Reads (start : Front) (past : FrontPast) : Prop where
  /-- The keys that were put again have their values, and the others are as they were. -/
  entry : ∀ key, (start.after past).authority.entries[key]? =
    if key ∈ past.touched start.flaky.switches then some (start.authority.value key)
    else start.authority.entries[key]?
  value : ∀ key, (start.after past).authority.value key = start.authority.value key
  /-- Nothing is added where all that was put again was there. -/
  entries : (∀ key ∈ past.touched start.flaky.switches, key ∈ start.authority.entries) →
    (start.after past).authority.entries = start.authority.entries
  listing : ∀ stem, (∀ key ∈ past.touched start.flaky.switches, beginsWith stem key = true →
      key ∈ start.authority.entries) →
    (start.after past).authority.entries.scan stem = start.authority.entries.scan stem
  /-- Only a key that was not there is told apart when it is deleted. -/
  deletes : ∀ key user, (start.after past).deletes key user =
    if key ∈ past.touched start.flaky.switches then .ok true else start.deletes key user
  rest : ∃ more, (start.after past).authority =
    { start.authority with
      entries := (start.after past).authority.entries
      registry := { start.authority.registry with
        topics := start.authority.registry.topics ++ more } }
  generation : ∀ topic, (start.authority.registry.index? topic).isSome →
    (start.after past).authority.generation? (start.after past).shared.slots topic =
      (start.authority.generation? start.shared.slots topic).map
        (· + Int64.ofNat ((past.touched start.flaky.switches).countP topic.covers))
  isClosed : ∀ v, (start.after past).shared.slots.isClosed v = start.shared.slots.isClosed v

/-- Whatever the switches of a front are set to meanwhile, reads through it change no value. They add
an entry without a value for each missing key that is put again after a read, and nothing else. -/
theorem reads_add_nulls_only (reached : start.authority.Reached start.shared) (past : FrontPast) :
    Reads start past := by
  have touched := touched_after reached.sound past
  have entry := touched.entry
  refine ⟨entry, touched.value, ?_, ?_, ?_, touched.rest, touched.generation, touched.isClosed⟩
  · intro there
    apply Std.ExtTreeMap.ext_getElem?
    intro key
    rw [entry]
    split
    · next again => exact Authority.some_value (there key again)
    · rfl
  · intro stem there
    apply Std.ExtTreeMap.ext_getElem?
    intro key
    rw [Entries.getElem?_scan, Entries.getElem?_scan, entry]
    split
    · next begins =>
      split
      · next again => exact Authority.some_value (there key again begins)
      · rfl
    · rfl
  · intro key user
    simp only [deletes, Flaky.answer, Authority.answer, Std.ExtTreeMap.contains_eq_isSome_getElem?,
      entry]
    split <;> rfl

/-- One setting behind a front that plays at races. -/
def racing : Front :=
  let (authority, shared) := Authority.create 2 .duplicate (.ofList [("volume", "7")]) {}
  { flaky := { switches := { touches := true } }, authority, shared }

/-- The volume is there, so reading it leaves the settings as they are. -/
theorem reads_add_nothing_to_volume :
    let past : FrontPast := [.list "" { user := 0 }, .get "volume" { user := 0 }]
    racing.authority.Reached racing.shared ∧ past.touched racing.flaky.switches = ["volume"] ∧
      (racing.after past).authority.entries = racing.authority.entries := by
  intro past
  have reached : racing.authority.Reached racing.shared := .created ..
  have touched : past.touched racing.flaky.switches = ["volume"] := rfl
  refine ⟨reached, touched, (reads_add_nulls_only reached past).entries ?_⟩
  rw [touched]
  decide +kernel

/-- A key that is not there is there once it was read: a listing shows it, and deleting it finds it. -/
theorem read_adds_missing_key :
    let read := racing.after [.get "ghost" { user := 0 }]
    racing.authority.Reached racing.shared ∧
      racing.authority.entries["ghost"]? = none ∧ read.authority.entries["ghost"]? = some none ∧
      (racing.authority.entries.scan "").keys = ["volume"] ∧
      (read.authority.entries.scan "").keys = ["ghost", "volume"] ∧
      racing.deletes "ghost" 0 = .ok false ∧ read.deletes "ghost" 0 = .ok true := by
  refine ⟨.created .., ?_⟩
  decide +kernel

end Front

end TrackedSettings
