import TrackedSettings.Slots.Tracker
import TrackedSettings.Proofs.Generations
import TrackedSettings.Proofs.Views

/-! # Watching one slot

A tracker looks at its slot from time to time, while the owner of the board increments slots. It
compares for equality only, so it tells of a change unless the slot has come all the way round since
it looked last. It can be destroyed and dropped in any order, and closes the view in its handle once,
or never if that is not its duty.
-/

namespace TrackedSettings

/-- A counter is back where it was if it went all the way round. -/
theorem add_ofNat_eq_self_iff (generation : Int64) (n : Nat) :
    generation + Int64.ofNat n = generation ↔ 2 ^ 64 ∣ n := by
  rw [Int64.add_eq_left]
  constructor
  · intro zero
    have round : n % 2 ^ 64 = (0 : Int64).toUInt64.toNat := by
      simpa using congrArg (fun g => g.toUInt64.toNat) zero
    exact Nat.dvd_of_mod_eq_zero round
  · rintro ⟨k, rfl⟩
    have zero : Int64.ofNat (2 ^ 64) = 0 := by decide
    rw [Int64.ofNat_mul, zero, Int64.zero_mul]

/-- What happens to a tracker and to the views around it. -/
inductive WatchStep where
  /-- The owner of the board increments a slot. -/
  | increment (index : Nat)
  | check
  | destroy
  /-- The tracker is dropped, which destroys it. -/
  | drop
  /-- Somebody closes a view, be it the one in the tracker's handle. -/
  | close (view : View)
deriving DecidableEq, Repr, Inhabited

namespace WatchStep

def ends : WatchStep → Bool
  | destroy | drop => true
  | increment _ | check | close _ => false

def closes (v : View) : WatchStep → Bool
  | close view => view.serial == v.serial
  | increment _ | check | destroy | drop => false

end WatchStep

/-- What happened to a tracker, the latest first. -/
abbrev WatchPast := List WatchStep

/-- A tracker, and everything else. -/
structure Watch where
  tracker : Tracker
  shared : Shared
deriving DecidableEq, Repr, Inhabited

namespace Watch

/-- The view that the tracker looks through. -/
abbrev view (w : Watch) : View :=
  w.tracker.handle.view

/-- What a check answers. -/
def answer (w : Watch) : Except SlotError Bool :=
  (w.tracker.check w.shared).1

def step (owner : View) (w : Watch) : WatchStep → Watch
  | .increment index => { w with shared := ((ViewAct.increment index).perform owner w.shared).2 }
  | .check =>
      let (_, tracker, shared) := w.tracker.check w.shared
      { tracker, shared }
  | .destroy | .drop =>
      let (tracker, shared) := w.tracker.destroy w.shared
      { tracker, shared }
  | .close v => { w with shared := w.shared.close v }

/-- What is there after `past`. -/
def after (owner : View) (start : Watch) : WatchPast → Watch
  | [] => start
  | step :: past => (after owner start past).step owner step

/-! ## What the steps tell -/

variable (start : Watch)

/-- Whether `v` is closed: from the start, by somebody, or by the tracker if that is its duty. -/
def shut (v : View) (past : WatchPast) : Bool :=
  start.shared.slots.isClosed v || past.any (·.closes v) ||
    start.tracker.handle.isOwned && start.view.serial == v.serial && past.any (·.ends)

/-- How often the slot was incremented since the tracker checked last, or since it was handed out. An
owner whose view is closed increments nothing. -/
def unseen (owner : View) : WatchPast → Nat
  | [] | .check :: _ => 0
  | .increment index :: past =>
      if index = start.tracker.index ∧ start.shut owner past = false then unseen owner past + 1
      else unseen owner past
  | .destroy :: past | .drop :: past | .close _ :: past => unseen owner past

/-- The tracker can still look at its slot. -/
def Looks (past : WatchPast) : Prop :=
  past.any (·.ends) = false ∧ start.shut start.view past = false

/-- A tracker was handed out on a slot that it can read, with the generation that is in it. The board
has an owner. -/
structure HandedOut (owner : View) : Prop where
  owns : owner.owner = true
  board : start.view.board = owner.board
  fresh : start.tracker.destroyed = false
  reads : start.shared.slots.read start.view start.tracker.index = .ok start.tracker.generation

variable {start} {owner : View} {past : WatchPast}

theorem Looks.of_cons {step : WatchStep} (looks : start.Looks (step :: past)) :
    start.Looks past := by
  unfold Looks shut at *
  simp only [List.any_cons, Bool.or_eq_false_iff, Bool.and_eq_false_iff] at looks ⊢
  grind

/-! ## The state is as the steps tell -/

/-- What is there is what the steps tell. While the tracker can look, its slot has moved on from the
generation that it saw last by what it has not seen. -/
structure Mirrors (owner : View) (start : Watch) (past : WatchPast) (w : Watch) : Prop where
  handle : w.tracker.handle = start.tracker.handle
  index : w.tracker.index = start.tracker.index
  destroyed : w.tracker.destroyed = past.any (·.ends)
  isClosed : ∀ v, w.shared.slots.isClosed v = start.shut v past
  once : w.shared.slots.closed.count start.view.serial ≤ 1
  slot : start.Looks past → (w.shared.slots.row start.view)[start.tracker.index]? =
    some (w.tracker.generation + Int64.ofNat (start.unseen owner past))

/-! ## What one step does -/

theorem step_check_of_error (owner : View) {w : Watch} {e : SlotError}
    (looked : w.tracker.look w.shared.slots = .error e) :
    w.answer = .error e ∧ w.step owner .check = w := by
  simp [answer, step, Tracker.check, looked]

theorem step_check_of_ok (owner : View) {w : Watch} {generation : Int64}
    (looked : w.tracker.look w.shared.slots = .ok generation) :
    w.answer = .ok (decide (generation ≠ w.tracker.generation)) ∧
      (w.step owner .check).tracker = { w.tracker with generation } ∧
      (w.step owner .check).shared.slots = w.shared.slots := by
  simp only [answer, step, Tracker.check, looked]
  split
  · next same => simp [same]
  · next moved => simp [moved]

theorem tracker_step_ending (owner : View) (w : Watch) {last : WatchStep} (ends : last.ends = true) :
    (w.step owner last).tracker = { w.tracker with destroyed := true } := by
  cases last with
  | increment | check | close => simp [WatchStep.ends] at ends
  | destroy | drop =>
      simp only [step, Tracker.destroy]
      split
      · next gone => simp [← gone]
      · rfl

/-- Only a tracker that is not destroyed yet and owns its view closes it. -/
theorem slots_step_ending (owner : View) (w : Watch) {last : WatchStep} (ends : last.ends = true) :
    (w.step owner last).shared.slots =
      if w.tracker.destroyed = false ∧ w.tracker.handle.isOwned = true then
        w.shared.slots.close w.view
      else w.shared.slots := by
  cases last with
  | increment | check | close => simp [WatchStep.ends] at ends
  | destroy | drop =>
      simp only [step, Tracker.destroy, view]
      cases w.tracker.destroyed <;> cases w.tracker.handle <;> rfl

theorem step_ending_again {w : Watch} {last : WatchStep} (ends : last.ends = true)
    (gone : w.tracker.destroyed = true) : w.step owner last = w := by
  cases last with
  | increment | check | close => simp [WatchStep.ends] at ends
  | destroy | drop => simp [step, Tracker.destroy, gone]

/-- A view is closed once at most. -/
theorem count_close_le (m : Slots) (v : View) {serial : Nat} (once : m.closed.count serial ≤ 1) :
    (m.close v).closed.count serial ≤ 1 := by
  unfold Slots.close Slots.isClosed
  split
  · exact once
  · next unclosed =>
    rw [List.contains_iff_mem, ← List.count_pos_iff] at unclosed
    rw [List.count_cons]
    grind

namespace Mirrors

variable {w : Watch}

theorem look_of_looks (mirrors : Mirrors owner start past w) (looks : start.Looks past) :
    w.tracker.look w.shared.slots =
      .ok (w.tracker.generation + Int64.ofNat (start.unseen owner past)) := by
  rw [Tracker.look, mirrors.destroyed, looks.1, if_neg Bool.false_ne_true, Slots.read_eq_ok_iff,
    mirrors.isClosed, mirrors.handle, mirrors.index]
  exact ⟨looks.2, mirrors.slot looks⟩

/-- A tracker that cannot look any more finds its slot closed. -/
theorem look_of_not_looks (mirrors : Mirrors owner start past w) (blind : ¬start.Looks past) :
    w.tracker.look w.shared.slots = .error .closed := by
  unfold Tracker.look Slots.read
  rw [mirrors.destroyed, mirrors.isClosed, mirrors.handle]
  simp only [Looks, not_and, Bool.not_eq_false] at blind
  split
  · rfl
  · next going => simp [blind (Bool.eq_false_iff.mpr going)]

theorem increment (mirrors : Mirrors owner start past w) (handed : start.HandedOut owner)
    (index : Nat) : Mirrors owner start (.increment index :: past) (w.step owner (.increment index))
    where
  handle := mirrors.handle
  index := mirrors.index
  destroyed := mirrors.destroyed
  isClosed v := by
    have closed := (ViewAct.increment index).isClosed_perform owner v w.shared
    simp [step, closed, mirrors.isClosed, shut, WatchStep.closes, WatchStep.ends]
  once := by simpa [step, ViewAct.slots_increment, Slots.attempted_keeps] using mirrors.once
  slot looks := by
    have row := (ViewAct.increment index).row_perform owner start.view w.shared start.tracker.index
    rw [mirrors.slot looks.of_cons, mirrors.isClosed] at row
    refine row.trans ?_
    simp only [handed.board, handed.owns, true_and, ViewAct.writes, unseen, Option.map_some]
    by_cases here : index = start.tracker.index <;> cases start.shut owner past <;>
      simp [here, step, Int64.ofNat_add, Int64.add_assoc]

theorem check (mirrors : Mirrors owner start past w) :
    Mirrors owner start (.check :: past) (w.step owner .check) := by
  have told : ∀ v, start.shut v (.check :: past) = start.shut v past := by
    simp [shut, WatchStep.closes, WatchStep.ends]
  by_cases looks : start.Looks past
  · obtain ⟨-, tracker, slots⟩ := step_check_of_ok owner (mirrors.look_of_looks looks)
    refine ⟨?_, ?_, ?_, ?_, ?_, fun _ => ?_⟩
    · rw [tracker]; exact mirrors.handle
    · rw [tracker]; exact mirrors.index
    · rw [tracker]; exact mirrors.destroyed
    · intro v; rw [slots, told]; exact mirrors.isClosed v
    · rw [slots]; exact mirrors.once
    · rw [slots, tracker, mirrors.slot looks]; simp [unseen]
  · obtain ⟨-, still⟩ := step_check_of_error owner (mirrors.look_of_not_looks looks)
    rw [still]
    refine ⟨mirrors.handle, mirrors.index, mirrors.destroyed, ?_, mirrors.once, ?_⟩
    · intro v; rw [told]; exact mirrors.isClosed v
    · intro looks'; exact absurd looks'.of_cons looks

theorem close (mirrors : Mirrors owner start past w) (v : View) :
    Mirrors owner start (.close v :: past) (w.step owner (.close v)) where
  handle := mirrors.handle
  index := mirrors.index
  destroyed := mirrors.destroyed
  isClosed u := by
    have closed : (w.shared.slots.close v).isClosed u = _ := Slots.isClosed_close ..
    refine closed.trans ?_
    rw [mirrors.isClosed]
    simp only [shut, List.any_cons, WatchStep.closes, WatchStep.ends]
    grind
  once := count_close_le _ _ mirrors.once
  slot looks := by
    simpa [step, Shared.close, unseen] using mirrors.slot looks.of_cons

/-- Destroyed by hand or dropped, it is all the same. -/
theorem ended (mirrors : Mirrors owner start past w) {last : WatchStep} (ends : last.ends = true) :
    Mirrors owner start (last :: past) (w.step owner last) := by
  have tracker := tracker_step_ending owner w ends
  have slots := slots_step_ending owner w ends
  have closesNone : ∀ v, last.closes v = false := by
    intro v
    cases last <;> simp_all [WatchStep.ends, WatchStep.closes]
  refine ⟨?_, ?_, ?_, ?_, ?_, ?_⟩
  · rw [tracker]; exact mirrors.handle
  · rw [tracker]; exact mirrors.index
  · rw [tracker]; simp [ends]
  · intro v
    have shut : start.shut v (last :: past) =
        (start.tracker.handle.isOwned && start.view.serial == v.serial || start.shut v past) := by
      simp only [shut, List.any_cons, ends, closesNone]
      grind
    rw [slots, shut, mirrors.destroyed, mirrors.handle, view, mirrors.handle]
    split
    · next first =>
      rw [Slots.isClosed_close, mirrors.isClosed, first.2]
      grind
    · next idle =>
      rw [mirrors.isClosed]
      unfold Watch.shut
      grind
  · rw [slots]
    split
    · exact count_close_le _ _ mirrors.once
    · exact mirrors.once
  · rintro ⟨going, -⟩
    simp [ends] at going

end Mirrors

theorem mirrors_after (handed : start.HandedOut owner) (past : WatchPast) :
    Mirrors owner start past (after owner start past) := by
  induction past with
  | nil =>
      have reads := Slots.read_eq_ok_iff.mp handed.reads
      refine ⟨rfl, rfl, handed.fresh, ?_, ?_, ?_⟩
      · simp [after, shut]
      · have absent : start.view.serial ∉ start.shared.slots.closed := by
          simpa [Slots.isClosed] using reads.1
        simp [after, List.count_eq_zero.mpr absent]
      · intro looks; simp [after, unseen, reads.2]
  | cons step past ih =>
      cases step with
      | increment index => exact ih.increment handed index
      | check => exact ih.check
      | destroy | drop => exact ih.ended rfl
      | close v => exact ih.close v

/-- What a tracker does after `past`. -/
structure Notices (owner : View) (start : Watch) (past : WatchPast) : Prop where
  /-- A check tells of a change unless the slot has come all the way round. -/
  answer : start.Looks past →
    (after owner start past).answer = .ok (decide ¬2 ^ 64 ∣ start.unseen owner past)
  missesNone : start.Looks past → 0 < start.unseen owner past →
    start.unseen owner past < 2 ^ 64 → (after owner start past).answer = .ok true
  caughtUp : start.Looks past →
    (after owner start (.check :: past)).shared.slots.read start.view start.tracker.index =
      .ok (after owner start (.check :: past)).tracker.generation
  quiet : start.Looks past → (after owner start (.check :: past)).answer = .ok false
  refused : ¬start.Looks past → (after owner start past).answer = .error .closed ∧
    after owner start (.check :: past) = after owner start past
  /-- What a destroyed tracker has seen stays as it is, whatever becomes of the boards. -/
  destroyed : past.any (·.ends) = true → ∀ s, (after owner start past).tracker.check s =
    (.error .closed, (after owner start past).tracker, s)
  /-- So does what the tracker of a slot has seen that cannot be read, for whatever reason. -/
  unreadable : past.any (·.ends) = false → ∀ s e,
    s.slots.read start.view start.tracker.index = .error e →
      (after owner start past).tracker.check s = (.error e, (after owner start past).tracker, s)
  isClosed : ∀ v, (after owner start past).shared.slots.isClosed v = start.shut v past
  once : (after owner start past).shared.slots.closed.count start.view.serial =
    if start.shut start.view past then 1 else 0
  again : past.any (·.ends) = true → ∀ last, last.ends = true →
    after owner start (last :: past) = after owner start past
  borrowed : start.tracker.handle.isOwned = false → ∀ last, last.ends = true →
    (after owner start (last :: past)).shared.slots = (after owner start past).shared.slots

/-- However a tracker, increments by the owner of the board, and closings alternate: a check tells of
a change exactly when the slot was incremented since the check before it, up to a whole round of the
counter, and the tracker has then seen what is in the slot. A check that fails leaves the tracker as
it was. The tracker closes its view once, and one that it does not own never. -/
theorem notices_every_change (handed : start.HandedOut owner) (past : WatchPast) :
    Notices owner start past := by
  have mirrors := mirrors_after handed past
  have checked := mirrors_after handed (.check :: past)
  have answer : ∀ past, start.Looks past →
      (after owner start past).answer = .ok (decide ¬2 ^ 64 ∣ start.unseen owner past) := by
    intro past looks
    have looked := (mirrors_after handed past).look_of_looks looks
    have answer := (step_check_of_ok owner looked).1
    simpa only [ne_eq, add_ofNat_eq_self_iff] using answer
  have looks_check : start.Looks past → start.Looks (.check :: past) := fun looks => by
    simpa [Looks, shut, WatchStep.ends, WatchStep.closes] using looks
  refine ⟨answer past, ?_, ?_, ?_, ?_, ?_, ?_, mirrors.isClosed, ?_, ?_, ?_⟩
  · intro looks moved within
    have short : ¬2 ^ 64 ∣ start.unseen owner past := Nat.not_dvd_of_pos_of_lt moved within
    rw [answer past looks, decide_eq_true short]
  · intro looks
    rw [Slots.read_eq_ok_iff, checked.isClosed, checked.slot (looks_check looks)]
    exact ⟨(looks_check looks).2, by simp [unseen]⟩
  · intro looks
    rw [answer _ (looks_check looks)]
    simp [unseen]
  · intro blind
    exact step_check_of_error owner (mirrors.look_of_not_looks blind)
  · intro ended s
    simp [Tracker.check, Tracker.look, mirrors.destroyed, ended]
  · intro going s e unread
    simp [Tracker.check, Tracker.look, mirrors.destroyed, going, mirrors.handle, mirrors.index, unread]
  · rw [← mirrors.isClosed, Slots.isClosed]
    have once := mirrors.once
    grind
  · intro ended last ends
    exact step_ending_again ends (mirrors.destroyed.trans ended)
  · intro borrowed last ends
    rw [after, slots_step_ending owner _ ends, mirrors.handle, borrowed]
    simp

/-- A tracker of a slot that is about to go over the top. -/
def atTheTop : Watch where
  tracker := .ofGrant (.key "volume")
    { handle := .owned { serial := 1, board := 0, owner := false }
      index := 0, generation := Int64.maxValue }
  shared := (Workbench.after [.duplicate 0, .act 0 (.set 0 Int64.maxValue), .create 1]).shared

theorem notices_every_change_over_the_top :
    let owner : View := { serial := 0, board := 0, owner := true }
    atTheTop.HandedOut owner ∧ atTheTop.Looks [.increment 0] ∧
      (after owner atTheTop [.increment 0]).answer = .ok true ∧
      (after owner atTheTop [.check, .increment 0]).tracker.generation = Int64.minValue := by
  have handed : atTheTop.HandedOut { serial := 0, board := 0, owner := true } :=
    ⟨rfl, rfl, rfl, rfl⟩
  have looks : atTheTop.Looks [.increment 0] := ⟨rfl, rfl⟩
  have unseen : atTheTop.unseen { serial := 0, board := 0, owner := true } [.increment 0] = 1 := rfl
  have notices := notices_every_change handed [.increment 0]
  refine ⟨handed, looks, notices.missesNone looks ?_ ?_, rfl⟩ <;> rw [unseen] <;> decide

/-- The tracker closes its view when it is dropped, and not once more when it was destroyed before. -/
example :
    let owner : View := { serial := 0, board := 0, owner := true }
    (after owner atTheTop [.drop, .destroy, .increment 0]).shared.slots.closed = [1] ∧
      (after owner atTheTop [.drop, .destroy, .increment 0]).answer = .error .closed :=
  ⟨rfl, rfl⟩

end Watch

end TrackedSettings
