import TrackedSettings.Proofs.Hits
import TrackedSettings.Proofs.Runs

/-! # Reads are fresh

Whatever caches and others do, and however their operations overtake one another, a read ends with
what the store held at one moment between the beginning of the read and its end. So a read that
begins when a write is over never shows what was there before.
-/

namespace TrackedSettings

/-! ## Errands and operations -/

namespace Errand

/-- The errand is what can become of the operation `p` in progress. -/
def Continues (e : Errand) (p : Progress Outcome) : Prop :=
  match e.stage with
  | .asking call resume | .answered call _ resume => ∃ w, p.Leads e.heard (.waiting call w resume)
  | .done outcome => ∃ w, p.Leads e.heard (.finished outcome w)

theorem continues_stage {i : Nat} {act : CacheAct} {heard : List Answer} {p q : Progress Outcome}
    (leads : p.Leads heard q) :
    Continues { seat := i, act, heard, stage := q.stage } p := by
  cases q with
  | finished outcome w => exact ⟨w, leads⟩
  | waiting call w resume => exact ⟨w, leads⟩

theorem Continues.goes {e e' : Errand} {p : Progress Outcome} (continues : e.Continues p)
    (goes : e.Goes e') : e'.Continues p := by
  cases goes with
  | rests => exact continues
  | answered reply => exact continues
  | @resumed _ _ _ _ reply _ w' =>
      obtain ⟨w, leads⟩ := continues
      exact continues_stage (leads.heard reply w')

end Errand

namespace System

variable {start : System} {moves : Nat → Move} {begun i t : Nat}

/-- An errand carries out what its cache set out to do. -/
theorem errand_continues {act : CacheAct} (begins : moves begun = .start i act) (later : begun < t)
    {e : Errand}
    (known : (start.after moves t).errands[(start.after moves begun).errands.length]? = some e) :
    e.Continues ((start.after moves begun).deployment.begin i act) := by
  induction later generalizing e with
  | refl =>
      simp only [after, begins, step] at known
      rw [List.getElem?_concat_length] at known
      cases known
      exact Errand.continues_stage .here
  | @step t later ih =>
      have later : begun + 1 ≤ t := later
      have inside : (start.after moves begun).errands.length <
          (start.after moves t).errands.length := by
        have one := length_errands_succ start begins
        have mono := length_errands_mono start moves later
        omega
      obtain ⟨e', known', goes⟩ := errand_goes (List.getElem?_eq_getElem inside)
      rw [known] at known'
      cases known'
      exact (ih (List.getElem?_eq_getElem inside)).goes goes

/-! ## What a read ends with -/

/-- What was seen of a course since an errand began held at some moment since then. -/
theorem holds_of_seen {copy : Copy} {now : Nat}
    (seen : (start.course moves begun).Seen copy (start.course moves now)) :
    ∃ t, begun ≤ t ∧ t ≤ now ∧ copy.Holds (start.entries moves t) := by
  obtain ⟨t, e, recent, was, holds⟩ := seen
  simp only [course, List.length_map, List.length_range] at recent
  simp only [course, List.getElem?_map, Option.map_eq_some_iff] at was
  obtain ⟨t', at_moment, same⟩ := was
  obtain ⟨inside, rfl⟩ := List.getElem?_eq_some_iff.mp at_moment
  rw [List.length_range] at inside
  rw [List.getElem_range] at same
  subst same
  exact ⟨t, by omega, by omega, holds⟩

/-- A current tracker vouches that the copy of its topic is right at that very moment. -/
theorem holds_of_current (sound : (start.course moves t).Sound) {seat : Seat}
    (seated : (start.after moves t).deployment.seats[i]? = some seat) {tracker : Tracker}
    {copy : Copy} (current :
      ((start.after moves t).deployment.workspace i).Current copy.topic tracker)
    (found :
      ((start.after moves t).deployment.workspace i).copies.find? copy.topic = some copy) :
    copy.Holds (start.entries moves t) := by
  have inside : i < (start.course moves t).deployment.seats.size :=
    (Array.getElem?_eq_some_iff.mp seated).1
  obtain ⟨g, -, granted, vouches, read⟩ :=
    Terms.grant_of_current (r := Course.terms i) (s := start.course moves t) ⟨sound, inside⟩ current
  change ((start.course moves t).deployment.workspace i).shared.slots.read _ _ = _ at read
  rw [Deployment.shared_workspace] at read
  obtain ⟨present, isOpen⟩ := sound.present_of_read granted read
  exact vouches copy found present isOpen

variable {capacity : Nat} {transfer : Transfer} {defaults : Std.ExtTreeMap String String}
  {now : Nat} {e : Errand}

/-- A read of a key that ends with a value ends with what the store held at a moment since the read
began, unless nobody could be asked for the value. If a copy answered it, the store held the value
when the copy was looked at, in the first step of the read. -/
theorem value_was_current (new : start.deployment.New capacity transfer defaults)
    (idle : start.errands = []) (few : ∀ index, start.turns moves now index < 2 ^ 64)
    {key : String} {user : UserId} {v : Value} (begins : moves begun = .start i (.value key user))
    (known : (start.after moves now).errands[(start.after moves begun).errands.length]? = some e)
    (returned : e.stage = .done (.read (.ok v))) (asked : ¬ (v = none ∧ Failed e.heard)) :
    (∃ t, begun ≤ t ∧ t ≤ now ∧ (start.after moves t).deployment.sole.value key = v) ∧
      ((∃ a ∈ e.heard, a.call.tellsHit = true) →
        (start.after moves begun).deployment.sole.value key = v) := by
  obtain ⟨later, same, good⟩ := errand_good new idle few begins known
  unfold Errand.Good at good
  rw [returned, same] at good
  constructor
  · rcases good with seen | failed
    · exact holds_of_seen seen
    · exact absurd failed asked
  · intro hit
    have continues := errand_continues begins later known
    unfold Errand.Continues Deployment.begin at continues
    rw [returned] at continues
    obtain ⟨w, leads⟩ := continues
    cases seated : (start.after moves begun).deployment.seats[i]? with
    | none =>
        rw [seated] at leads
        cases leads.of_finished
    | some seat =>
        rw [seated] at leads
        obtain ⟨result, same, leads⟩ := Operation.finished_of_map leads
        obtain ⟨v', tracker, rfl, current, found⟩ := seat.cache.value_of_hit leads hit
        cases same
        have earlier : ∀ index, start.turns moves begun index < 2 ^ 64 := fun index =>
          Nat.lt_of_le_of_lt (turns_mono start moves index (Nat.le_of_lt later)) (few index)
        have sound := (orderly new idle earlier).sound
        have copy : ((start.after moves begun).deployment.workspace i).copies.find? (.key key) =
            some (.value key v) := by
          rw [Copies.find?, found]
          rfl
        have holds : (Copy.value key v).Holds (start.entries moves begun) :=
          holds_of_current sound seated current copy
        exact holds

def mixer : Std.ExtTreeMap String String :=
  .ofList [("mixer.mute", "off"), ("mixer.volume", "7")]

def lone : System :=
  let (authority, shared) := Authority.create 8 .duplicate mixer {}
  { deployment :=
      { shared, authorities := #[authority], stores := #[.plain 0]
        seats := #[{ cache := { uri := "settings:main" }, resolver := .fixed 0 }] } }

theorem lone_new : lone.deployment.New 8 .duplicate mixer where
  authority := rfl
  shared := rfl
  stores := by
    intro id held known
    cases id with
    | zero =>
        cases known
        exact Or.inl rfl
    | succ => cases known
  seats := by
    intro i seat known
    cases i with
    | zero =>
        cases known
        exact ⟨rfl, rfl⟩
    | succ => cases known

/-- A key is read twice, and it is put again while the observer hears of the hit. -/
def readTwice (t : Nat) : Move :=
  let read : Move := .start 0 (.value "mixer.volume" 0)
  let put : Move := .call 0 (.put "mixer.volume" (some "8") 0)
  [read, .answer 0, .resume 0, .answer 0, .resume 0, .answer 0, .resume 0, read, put,
    .answer 1].getD t (.resume 1)

/-- A copy answers a read, and a put that is over before the read is comes too late for it. -/
theorem value_was_current_before_put :
    ∃ e, (lone.after readTwice 11).errands[1]? = some e ∧
      e.stage = .done (.read (.ok (some "7"))) ∧
      (lone.after readTwice 11).deployment.sole.value "mixer.volume" = some "8" ∧
      (∃ t, 7 ≤ t ∧ t ≤ 11 ∧
        (lone.after readTwice t).deployment.sole.value "mixer.volume" = some "7") ∧
      (lone.after readTwice 7).deployment.sole.value "mixer.volume" = some "7" := by
  have few : ∀ index, lone.turns readTwice 11 index < 2 ^ 64 := by
    intro index
    have one : lone.changes readTwice 11 = 1 := by decide +kernel
    have most := lone.turns_le readTwice 11 index
    omega
  have ends : ∃ e, (lone.after readTwice 11).errands[1]? = some e ∧
      e.stage = .done (.read (.ok (some "7"))) ∧ e.heard.any (·.call.tellsHit) = true :=
    ⟨_, rfl, rfl, by decide +kernel⟩
  obtain ⟨e, known, returned, hit⟩ := ends
  have number : (lone.after readTwice 7).errands.length = 1 := rfl
  have begins : readTwice 7 = .start 0 (.value "mixer.volume" 0) := rfl
  have current := value_was_current lone_new rfl few begins (number ▸ known) returned
    fun failed => nomatch failed.1
  exact ⟨e, known, returned, by decide +kernel, current.1, current.2 (List.any_eq_true.mp hit)⟩

/-- A read under a stem that is answered, by a copy or by a listing, shows the entries that stood
together under the stem at one moment since the read began. -/
theorem listing_was_current (new : start.deployment.New capacity transfer defaults)
    (idle : start.errands = []) (few : ∀ index, start.turns moves now index < 2 ^ 64)
    {stem : String} {names : List String} {result : Entries}
    (begins : moves begun = .start i (.listing stem names))
    (known : (start.after moves now).errands[(start.after moves begun).errands.length]? = some e)
    (returned : e.stage = .done (.entries result)) (served : ¬ Failed e.heard) :
    ∃ t, begun ≤ t ∧ t ≤ now ∧ ∀ name, name ≠ "" →
      result[name]? = if names = [] ∨ name ∈ names then (start.entries moves t)[stem ++ name]?
        else none := by
  obtain ⟨-, same, good⟩ := errand_good new idle few begins known
  unfold Errand.Good at good
  rw [returned, same] at good
  rcases good with ⟨all, seen, answers⟩ | failed
  · obtain ⟨t, before, after, holds⟩ := holds_of_seen seen
    refine ⟨t, before, after, ?_⟩
    intro name real
    rw [answers name real, holds name real]
  · exact absurd failed served

/-- All entries under a stem are put again while the listing is on its way. -/
def listOnce (t : Nat) : Move :=
  let putAll : Move :=
    .call 0 (.putAll "mixer." (.ofList [("mute", some "on"), ("volume", some "8")]) 0)
  [.start 0 (.listing "mixer." []), .answer 0, .resume 0, .answer 0, .resume 0, .answer 0,
    .resume 0, .answer 0, putAll].getD t (.resume 0)

/-- A batch that is put before a read is over comes too late for the read, as a whole. -/
theorem listing_was_current_before_batch :
    ∃ e result, (lone.after listOnce 10).errands[0]? = some e ∧
      e.stage = .done (.entries result) ∧
      result.toList = [("mute", some "off"), ("volume", some "7")] ∧
      (lone.after listOnce 10).deployment.sole.value "mixer.mute" = some "on" ∧
      ∃ t, t ≤ 10 ∧ ∀ name, name ≠ "" →
        result[name]? = (lone.entries listOnce t)["mixer." ++ name]? := by
  have few : ∀ index, lone.turns listOnce 10 index < 2 ^ 64 := by
    intro index
    have two : lone.changes listOnce 10 = 2 := by decide +kernel
    have most := lone.turns_le listOnce 10 index
    omega
  have ends : ∃ e result, (lone.after listOnce 10).errands[0]? = some e ∧
      e.stage = .done (.entries result) ∧
      result.toList = [("mute", some "off"), ("volume", some "7")] ∧
      e.heard.any Answer.failed = false :=
    ⟨_, _, rfl, rfl, by decide +kernel, by decide +kernel⟩
  obtain ⟨e, result, known, returned, shown, served⟩ := ends
  have begins : listOnce 0 = .start 0 (.listing "mixer." []) := rfl
  have current := listing_was_current lone_new rfl few begins known returned ?_
  · obtain ⟨t, -, before, shows⟩ := current
    refine ⟨e, result, known, returned, shown, by decide +kernel, t, before, ?_⟩
    intro name real
    rw [shows name real, if_pos (Or.inl rfl)]
  · intro fails
    obtain ⟨a, member, failed⟩ := fails
    exact List.any_eq_false.mp served a member failed

end System

end TrackedSettings
