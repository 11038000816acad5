import Mathlib.Data.List.Pairwise
import TrackedSettings.Proofs.Discipline

/-! # Custody of views

A store that lends readers views of their own leaves it to them to close these views. Here a cache
stands among strangers, as before, but no view that is to be its own is handed out a second time.
Then each such view is in the one tracker that its grant is for, or it is closed; and the cache has
closed no view that one of its trackers still reads, and none that was only shown to it.
-/

namespace TrackedSettings

/-- The serial numbers of the views that were closed from one moment to another. -/
def Slots.closedSince (m m' : Slots) : List Nat :=
  m'.closed.filter fun n => !m.closed.contains n

theorem Slots.mem_closedSince {m m' : Slots} {n : Nat} :
    n ∈ m.closedSince m' ↔ n ∈ m'.closed ∧ n ∉ m.closed := by
  simp [closedSince]

/-- If the view in one of the grants is for the reader to keep, it is not in the other. -/
def Grant.Apart (g g' : Grant) : Prop :=
  g.handle.isOwned = true ∨ g'.handle.isOwned = true → g.handle.view.serial ≠ g'.handle.view.serial

instance (g g' : Grant) : Decidable (g.Apart g') :=
  inferInstanceAs (Decidable (_ → _))

instance : Std.Symm Grant.Apart :=
  ⟨fun _ _ apart owned => (apart owned.symm).symm⟩

theorem Grant.not_apart_self {g : Grant} {v : View} (owned : g.handle = .owned v) : ¬ g.Apart g :=
  fun apart => apart (Or.inl (by rw [owned]; rfl)) rfl

theorem Tracker.ofGrant_inj {topic : Topic} {g g' : Grant} (same : ofGrant topic g = ofGrant topic g') :
    g = g' := by
  cases g
  cases g'
  cases same
  rfl

theorem pairwise_receiptsOf (last : Option Answer) :
    (receiptsOf last).Pairwise fun e e' => e.2.Apart e'.2 := by
  cases last with
  | none => exact .nil
  | some a =>
      simp only [receiptsOf, Option.elim_some, Answer.receipts]
      split
      · exact List.pairwise_singleton _ _
      · exact .nil
      · exact .nil

/-! ## The books of a cache -/

/-- What a cache has received and closed, against what it holds. -/
structure Workspace.Balanced (w : Workspace) (received : List (Topic × Grant)) (closings : List Nat) :
    Prop where
  apart : received.Pairwise fun e e' => e.2.Apart e'.2
  granted : ∀ topic t, w.copies.trackers[topic]? = some t →
    ∃ g, (topic, g) ∈ received ∧ t = .ofGrant topic g
  settled : ∀ topic g v, (topic, g) ∈ received → g.handle = .owned v →
    w.copies.trackers[topic]? = some (.ofGrant topic g) ∨ w.shared.slots.isClosed v = true
  accounted : ∀ n ∈ closings, ∃ topic g v, (topic, g) ∈ received ∧ g.handle = .owned v ∧
    v.serial = n ∧ w.copies.trackers[topic]? ≠ some (.ofGrant topic g)

namespace Workspace.Balanced

variable {w w' : Workspace} {received : List (Topic × Grant)} {closings : List Nat} {r : Remit}
  {last : Option Answer}

/-- A view that came with an old grant does not come with a new one. -/
theorem not_again (fresh : ∀ new ∈ receiptsOf last, ∀ old ∈ received, new.2.Apart old.2)
    {topic : Topic} {g : Grant} {v : View} (owned : g.handle = .owned v)
    (old : (topic, g) ∈ received) : ¬ Delivered last topic (.ofGrant topic g) := by
  intro delivered
  obtain ⟨g', new, same⟩ := delivered
  cases Tracker.ofGrant_inj same
  exact Grant.not_apart_self owned (fresh _ new _ old)

/-- The books stay balanced over every stretch of an operation. -/
theorem stretch (balanced : w.Balanced received closings) (conduct : w.Conduct r last w')
    (fresh : ∀ new ∈ receiptsOf last, ∀ old ∈ received, new.2.Apart old.2) :
    w'.Balanced (received ++ receiptsOf last)
      (closings ++ w.shared.slots.closedSince w'.shared.slots) := by
  have granted : ∀ topic t, w.InCharge last topic t →
      ∃ g, (topic, g) ∈ received ++ receiptsOf last ∧ t = .ofGrant topic g := by
    rintro topic t (held | delivered)
    · obtain ⟨g, member, same⟩ := balanced.granted topic t held
      exact ⟨g, List.mem_append_left _ member, same⟩
    · obtain ⟨g, member, same⟩ := delivered
      exact ⟨g, List.mem_append_right _ member, same⟩
  refine
    { apart := List.pairwise_append.mpr ⟨balanced.apart, pairwise_receiptsOf last, ?_⟩
      granted := fun topic t found => granted topic t (conduct.installed topic t found)
      settled := ?_
      accounted := ?_ }
  · exact fun old member new member' => Std.Symm.symm _ _ (fresh new member' old member)
  · intro topic g v member owned
    have charge : w.InCharge last topic (.ofGrant topic g) ∨
        w.shared.slots.isClosed v = true := by
      rcases List.mem_append.mp member with old | new
      · exact (balanced.settled topic g v old owned).imp_left Or.inl
      · exact Or.inl (Or.inr ⟨g, new, rfl⟩)
    rcases charge with charge | closed
    · exact conduct.disposed topic _ v charge rfl owned
    · exact Or.inr (conduct.closes.stays v closed)
  · intro n closing
    rcases List.mem_append.mp closing with earlier | now
    · obtain ⟨topic, g, v, member, owned, serial, gone⟩ := balanced.accounted n earlier
      refine ⟨topic, g, v, List.mem_append_left _ member, owned, serial, fun found => ?_⟩
      rcases conduct.installed topic _ found with held | delivered
      · exact gone held
      · exact not_again fresh owned member delivered
    · obtain ⟨closed, wasOpen⟩ := Slots.mem_closedSince.mp now
      let v : View := { serial := n, board := 0, owner := false }
      have closed : w'.shared.slots.isClosed v = true := List.contains_iff_mem.mpr closed
      rcases conduct.closes.mine v closed with before | ⟨u, givenUp, serial⟩
      · exact absurd (List.contains_iff_mem.mp before) wasOpen
      · obtain ⟨topic, t, charge, owned, replaced⟩ := givenUp
        obtain ⟨g, member, rfl⟩ := granted topic t charge
        refine ⟨topic, g, u, member, owned, serial, fun found => ?_⟩
        obtain ⟨held, delivered⟩ := replaced found
        obtain ⟨g', old, same⟩ := balanced.granted topic _ held
        cases Tracker.ofGrant_inj same
        exact not_again fresh owned old delivered

/-- Others can close views, but they cannot open any. -/
theorem aside (balanced : w.Balanced received closings) (shared : Shared)
    (closed : ∀ v, w.shared.slots.isClosed v = true → shared.slots.isClosed v = true) :
    Workspace.Balanced { w with shared } received closings where
  apart := balanced.apart
  granted := balanced.granted
  settled topic g v member owned := (balanced.settled topic g v member owned).imp_right (closed v)
  accounted := balanced.accounted

/-- Whose view a tracker has is known from the view. -/
theorem eq_of_serial (balanced : w.Balanced received closings) {topic topic' : Topic} {g g' : Grant}
    {v : View} (member : (topic, g) ∈ received) (member' : (topic', g') ∈ received)
    (owned : g.handle = .owned v) (serial : g'.handle.view.serial = v.serial) :
    (topic', g') = (topic, g) := by
  have symmetric : Std.Symm fun e e' : Topic × Grant => e.2.Apart e'.2 :=
    ⟨fun e e' apart => Std.Symm.symm e.2 e'.2 apart⟩
  by_contra differs
  have apart := balanced.apart.forall member' member differs
  refine apart (Or.inr (by rw [owned]; rfl)) ?_
  rw [serial, owned]
  rfl

end Workspace.Balanced

/-! ## At a desk -/

namespace Desk

/-- What can become of a new cache if no view that is to be its own is handed out twice, and the
serial numbers of the views that the cache has closed. -/
inductive Entrusted (c : Cache) : Desk → List Nat → Prop where
  | opened (shared : Shared) : Entrusted c { workspace := { shared } } []
  | act {d : Desk} {closings : List Nat} (before : Entrusted c d closings) (act : CacheAct) :
      Entrusted c (d.begun c act) (closings ++
        d.workspace.shared.slots.closedSince (d.begun c act).workspace.shared.slots)
  | reply {d : Desk} {closings : List Nat} (before : Entrusted c d closings) {n : Nat}
      {s : Suspension} (waits : d.suspended[n]? = some s) (reply : s.call.Reply)
      (fresh : ∀ new ∈ Answer.receipts ⟨s.call, reply⟩, ∀ old ∈ d.received, new.2.Apart old.2) :
      Entrusted c (d.replied n s reply) (closings ++
        d.workspace.shared.slots.closedSince (d.replied n s reply).workspace.shared.slots)
  | others {d : Desk} {closings : List Nat} (before : Entrusted c d closings) (shared : Shared)
      (closed : ∀ v, d.workspace.shared.slots.isClosed v = true → shared.slots.isClosed v = true) :
      Entrusted c { d with workspace := { d.workspace with shared } } closings

theorem Entrusted.balanced {c : Cache} {d : Desk} {closings : List Nat}
    (entrusted : Entrusted c d closings) :
    (∀ s ∈ d.suspended, Orderly s) ∧ d.workspace.Balanced d.received closings := by
  induction entrusted with
  | opened shared =>
      exact ⟨by simp, { apart := .nil, granted := by simp, settled := by simp, accounted := by simp }⟩
  | @act d closings before act ih =>
      obtain ⟨orderly, conduct, received⟩ := begun_conducts (c := c) ih.1 act
      have stretched := ih.2.stretch conduct fun _ impossible => nomatch impossible
      rw [receiptsOf, Option.elim_none, List.append_nil] at stretched
      exact ⟨orderly, received ▸ stretched⟩
  | @reply d closings before n s waits reply fresh ih =>
      obtain ⟨orderly, ⟨r, conduct⟩, received⟩ := replied_conducts ih.1 waits reply
      exact ⟨orderly, received ▸ ih.2.stretch conduct fresh⟩
  | others before shared closed ih => exact ⟨ih.1, ih.2.aside shared closed⟩

/-- Where the views are that a cache has received. -/
structure Custody (d : Desk) (closings : List Nat) : Prop where
  /-- A view of the cache's own is in the tracker that its grant is for, and in no other, or it is
  closed. -/
  held_or_closed : ∀ topic g v, (topic, g) ∈ d.received → g.handle = .owned v →
    (∃ t, d.workspace.copies.trackers[topic]? = some t ∧ t.handle = .owned v ∧
      ∀ (other : Topic) (t' : Tracker), d.workspace.copies.trackers[other]? = some t' →
        t'.handle.view.serial = v.serial → other = topic) ∨
    d.workspace.shared.slots.isClosed v = true
  /-- The cache has closed no view that a tracker of its reads. -/
  held_not_closed : ∀ (topic : Topic) (t : Tracker), d.workspace.copies.trackers[topic]? = some t →
    t.handle.view.serial ∉ closings
  /-- What the cache has closed had come to it as its own. -/
  closed_owned : ∀ n ∈ closings, ∃ topic g v, (topic, g) ∈ d.received ∧ g.handle = .owned v ∧
    v.serial = n
  borrowed_not_closed : ∀ topic g v, (topic, g) ∈ d.received → g.handle = .borrowed v →
    v.serial ∉ closings

/-- However operations of a cache overlap, no view of its own is lost or closed too early. -/
theorem views_in_custody {c : Cache} {d : Desk} {closings : List Nat}
    (entrusted : Entrusted c d closings) : d.Custody closings := by
  obtain ⟨-, balanced⟩ := entrusted.balanced
  refine
    { held_or_closed := ?_
      held_not_closed := ?_
      closed_owned := ?_
      borrowed_not_closed := ?_ }
  · intro topic g v member owned
    refine (balanced.settled topic g v member owned).imp_left fun held => ?_
    refine ⟨_, held, owned, ?_⟩
    intro other t' found serial
    obtain ⟨g', member', rfl⟩ := balanced.granted other t' found
    cases balanced.eq_of_serial member member' owned serial
    rfl
  · intro topic t found closing
    obtain ⟨g, member, rfl⟩ := balanced.granted topic t found
    obtain ⟨topic', g', v, member', owned, serial, gone⟩ := balanced.accounted _ closing
    cases balanced.eq_of_serial member' member owned serial.symm
    exact gone found
  · intro n closing
    obtain ⟨topic, g, v, member, owned, serial, -⟩ := balanced.accounted n closing
    exact ⟨topic, g, v, member, owned, serial⟩
  · intro topic g v member borrowed closing
    obtain ⟨topic', g', v', member', owned, serial, -⟩ := balanced.accounted _ closing
    have same : g.handle.view.serial = v'.serial := by rw [serial, borrowed]; rfl
    cases balanced.eq_of_serial member' member owned same
    rw [owned] at borrowed
    cases borrowed

/-- A key is read, and then the cache drops all that it has. -/
theorem views_in_custody_after_clear :
    let c : Cache := { uri := "settings:main" }
    ∃ d closings, Entrusted c d closings ∧ closings = [1] ∧
      d.received.map (·.2.handle.view.serial) = [1] ∧ d.Custody closings := by
  intro c
  let reading : Reading :=
    { value := some "7"
      grant := some
        { handle := .owned { serial := 1, board := 0, owner := false }, index := 0, generation := 0 } }
  have opened : Entrusted c _ [] := .opened { slots := { boards := #[#[0]], issued := 2 } }
  have begun := opened.act (.value "volume" 0)
  have found := begun.reply (n := 0) rfl (Except.ok 0) (by decide +kernel)
  have told := found.reply (n := 0) rfl () (by decide +kernel)
  have read := told.reply (n := 0) rfl (Except.ok (some reading)) (by decide +kernel)
  have cleared := read.act .clear
  exact ⟨_, _, cleared, by decide +kernel, by decide +kernel, views_in_custody cleared⟩

end Desk

end TrackedSettings
