import TrackedSettings.Proofs.Steps

/-! # What a read costs

A cache that is not next to its store asks the store for a topic once, and then again only after a
change to what the topic covers. So it is with every topic that has a slot. A topic without one, since
the board was full when it was first read, is asked for by every read, and the cache keeps nothing of
it.
-/

namespace TrackedSettings

/-! ## A cache by itself -/

/-- Of a tally, the cache in seat `i` sees no more than this if it knows its store, which is `st`. -/
structure Solo.Sees (i size : Nat) (st : StoreId) (t : Tally) (x : Solo) : Prop where
  workspace : x.workspace = t.deployment.workspace i
  authority : x.authority = t.deployment.sole
  calls : x.calls = t.calls
  only : t.deployment.authorities = #[t.deployment.sole]
  stores : ∀ (id : Nat) (store : Store), t.deployment.stores[id]? = some store → store = .plain 0
  size : t.deployment.stores.size = size
  inside : i < t.deployment.seats.size
  fixed : t.deployment.Fixed i st

namespace Solo

variable {i size : Nat} {st : StoreId} {t : Tally} {x : Solo}

theorem Sees.putBack (sees : Sees i size st t x) (w : Workspace) :
    Sees i size st ((Tally.host i).putBack w t) ((host size st).putBack w x) := by
  obtain ⟨-, authority, calls, only, stores, size, inside, fixed⟩ := sees
  have here := Deployment.workspace_putBack inside w
  have seats := (t.deployment.putBack_sameParties i w).size
  exact ⟨here.symm, authority, calls, only, stores, size, Nat.lt_of_lt_of_eq inside seats.symm,
    Deployment.fixed_putBack.mpr fixed⟩

theorem Sees.answer (sees : Sees i size st t x) (call : Outcall) :
    ((Tally.host i).answer call t).1 = ((host size st).answer call x).1 ∧
      Sees i size st ((Tally.host i).answer call t).2 ((host size st).answer call x).2 := by
  obtain ⟨workspace, authority, calls, only, stores, size, inside, fixed⟩ := sees
  cases call with
  | notify event =>
      exact ⟨rfl, workspace, authority, calls.trans (List.append_nil _).symm, only, stores, size,
        inside, fixed⟩
  | resolve uri caller =>
      obtain ⟨seat, seated, resolver⟩ := fixed
      have resolved : t.deployment.resolve i = (.ok st, t.deployment) := by
        have same : t.deployment.seats.setIfInBounds i { seat with resolver := .fixed st } =
            t.deployment.seats := by
          apply Array.ext_getElem?
          intro j
          rw [Array.getElem?_setIfInBounds, ← resolver]
          split
          · next here =>
            subst here
            exact seated.symm
          · rfl
        simp only [Deployment.resolve, seated, resolver, Resolver.resolve, same]
      simp only [Tally.host, Deployment.reply, resolved]
      exact ⟨rfl, workspace, authority, calls.trans (List.append_nil _).symm, only, stores, size,
        inside, seat, seated, resolver⟩
  | store id call =>
      have shared : x.workspace.shared = t.deployment.shared := by
        rw [workspace, Deployment.shared_workspace]
      subst size
      by_cases there : id < t.deployment.stores.size
      · have answered := Deployment.callStore_inside only stores there call
        simp only [Tally.host, Deployment.reply, answered, host, if_pos there, authority, shared]
        refine ⟨trivial, ?_, rfl, by rw [calls], rfl, stores, rfl, inside, fixed⟩
        rw [Deployment.workspace_answering, workspace]
        rfl
      · have answered := Deployment.callStore_outside there call
        simp only [Tally.host, Deployment.reply, answered, host, if_neg there]
        exact ⟨trivial, workspace, authority, by rw [calls], only, stores, rfl, inside, fixed⟩

/-- An operation that runs in a deployment does for the cache what it does for the cache by itself. -/
theorem Sees.run {α : Type} {p : Progress α} (sees : Sees i size st t x) :
    Sees i size st (p.run (Tally.host i) t).2 (p.run (host size st) x).2 := by
  induction p generalizing t x with
  | finished a w => exact sees.putBack w
  | waiting call w resume ih =>
      obtain ⟨reply, sees'⟩ := (sees.putBack w).answer call
      have here : ((host size st).answer call ((host size st).putBack w x)).2.workspace =
          ((Tally.host i).answer call ((Tally.host i).putBack w t)).2.deployment.workspace i :=
        sees'.workspace
      unfold Progress.run
      generalize (Tally.host i).answer call ((Tally.host i).putBack w t) = a at reply sees' here
      generalize (host size st).answer call ((host size st).putBack w x) = b at reply sees' here
      obtain ⟨given, t'⟩ := a
      obtain ⟨given', x'⟩ := b
      obtain rfl : given = given' := reply
      have here : x'.workspace = t'.deployment.workspace i := here
      change Sees i size st ((resume given (t'.deployment.workspace i)).run (Tally.host i) t').2
        ((resume given x'.workspace).run (host size st) x').2
      rw [here]
      exact ih given _ sees'

end Solo

/-! ## Steps between reads -/

/-- The step is a read of the topic by the cache in seat `i`, which is `c`, for its own user. -/
def Instruction.isReadBy (i : Nat) (c : Cache) (topic : Topic) : Instruction → Bool
  | .onCache j act => j == i && act.isReadOf c topic
  | .onStore .. | .handles | .onHandle .. | .hook .. => false

/-- The step takes nothing away from what the cache in seat `i` keeps, closes no view behind the
caches' backs, and puts no steps aside. -/
def Instruction.Spares (i : Nat) : Instruction → Prop
  | .hook .. | .onHandle _ .close | .onHandle _ .release => False
  | .onCache j .clear | .onCache j (.forget _) => j ≠ i
  | .onCache .. | .onStore .. | .handles | .onHandle .. => True

namespace Session

/-- How often a step changes what the topic covers. So often its slot is bumped, if it has one. -/
def bumps (topic : Topic) (s : Session) (step : Instruction) : Nat :=
  (s.deployment.sole.mutatedBy (s.answered step)).countP topic.covers

/-- All is in order, and the cache in seat `i`, which is `c`, knows its store `st`. -/
structure Served (i : Nat) (c : Cache) (st : StoreId) (s : Session) : Prop where
  order : s.deployment.InOrder
  cache : s.deployment.seats[i]?.map (·.cache) = some c
  fixed : s.deployment.Fixed i st
  inside : st < s.deployment.stores.size

/-- What the cache in seat `i` has of a topic that it has read so many bumps ago, if it ever has. -/
inductive Stands (i : Nat) (topic : Topic) (s : Session) : Option Nat → Prop where
  | unread (gone : (s.deployment.workspace i).Gone topic) : Stands i topic s none
  | settled {n : Nat} {t : Tracker}
      (settled : (s.deployment.workspace i).Settled s.deployment.sole topic n t) :
      Stands i topic s (some n)
  /-- There was no slot for the topic, and there will be none. -/
  | untracked {n : Nat} (gone : (s.deployment.workspace i).Gone topic)
      (untracked : s.deployment.sole.registry.index? topic = none)
      (full : s.deployment.sole.registry.topics.length =
        s.deployment.shared.slots.length s.deployment.sole.registry.backing) :
      Stands i topic s (some n)

variable {i : Nat} {c : Cache} {st : StoreId} {s : Session} {step : Instruction} {topic : Topic}
  {since : Option Nat}

theorem Stands.of_untracked (stands : s.Stands i topic since) (read : since.isSome)
    (untracked : s.deployment.sole.registry.index? topic = none) :
    (s.deployment.workspace i).Gone topic ∧ s.deployment.sole.registry.topics.length =
      s.deployment.shared.slots.length s.deployment.sole.registry.backing := by
  cases stands with
  | unread => cases read
  | untracked gone _ full => exact ⟨gone, full⟩
  | settled settled =>
      have slot := settled.slot
      rw [untracked] at slot
      cases slot

theorem Served.goesOn (served : s.Served i c st) (spares : step.Spares i) :
    s.deployment.Passes (s.Touches step) (s.answered step) (s.play 0 [step]).deployment ∧
      (s.play 0 [step]).Served i c st := by
  have mild : step.Mild := by
    cases step with
    | onHandle number act => cases act <;> exact spares
    | hook => exact spares
    | onCache | onStore | handles => trivial
  have passes := step_passes served.order mild
  refine ⟨passes, passes.order, ?_, passes.fixed i st served.fixed, ?_⟩
  · rw [← Array.getElem?_map, passes.parties.caches, Array.getElem?_map]
    exact served.cache
  · rw [passes.parties.stores]
    exact served.inside

/-- A step that is no read of the topic leaves the cache what it has of the topic. -/
theorem Served.not_touches (served : s.Served i c st) (client : c.caller.atStore = false)
    (spares : step.Spares i) (other : step.isReadBy i c topic = false) :
    ¬ s.Touches step i topic := by
  rintro ⟨act, seat, rfl, seated, touches⟩
  have cache := served.cache
  rw [seated] at cache
  cases cache
  simp only [Instruction.isReadBy, beq_self_eq_true, Bool.true_and] at other
  cases act <;> simp_all [CacheAct.remit, CacheAct.isReadOf, Cache.keepsFor, Instruction.Spares]

theorem Stands.goesOn (stands : s.Stands i topic since) (served : s.Served i c st)
    (client : c.caller.atStore = false) (spares : step.Spares i)
    (other : step.isReadBy i c topic = false) :
    (s.play 0 [step]).Stands i topic (since.map (· + s.bumps topic step)) := by
  obtain ⟨passes, -⟩ := served.goesOn spares
  obtain ⟨tracker, copy⟩ := passes.untouched i topic (served.not_touches client spares other)
  cases stands with
  | unread gone => exact .unread ⟨tracker.trans gone.1, copy.trans gone.2⟩
  | untracked gone untracked full =>
      obtain ⟨untracked', full'⟩ := passes.run.full served.order.working untracked full
      exact .untracked ⟨tracker.trans gone.1, copy.trans gone.2⟩ untracked' full'
  | @settled n t settled =>
      have held := tracker.trans settled.tracker
      have watches := passes.order.watches i topic t held
      obtain ⟨slot, row⟩ := passes.run.slot served.order.working settled.slot
      refine .settled (t := t) ⟨held, by rw [copy]; exact settled.copy, watches.alive, slot,
        watches.lent.board, ?_, ?_⟩
      · rw [Deployment.shared_workspace]
        exact watches.isOpen
      · have generation := settled.generation
        rw [Deployment.shared_workspace] at generation ⊢
        rw [row, generation, Option.map_some, Int64.add_assoc, ← Int64.ofNat_add]
        rfl

/-! ## A read -/

/-- What the cache in seat `i` sees of a session in which it knows its store. -/
def solo (i : Nat) (s : Session) : Solo where
  workspace := s.deployment.workspace i
  authority := s.deployment.sole
  calls := s.tally.calls

theorem Served.fresh (served : s.Served i c st) : s.fresh.Served i c st :=
  ⟨fresh_inOrder served.order, served.cache, served.fixed, served.inside⟩

theorem Stands.fresh (stands : s.Stands i topic since) : s.fresh.Stands i topic since := by
  have copies : (s.fresh.deployment.workspace i).copies = (s.deployment.workspace i).copies := by
    rw [workspace_fresh]
  have slots : (s.fresh.deployment.workspace i).shared.slots =
      (s.deployment.workspace i).shared.slots := by
    rw [Deployment.shared_workspace, Deployment.shared_workspace]
    rfl
  cases stands with
  | unread gone => exact .unread (by rw [Workspace.Gone, copies]; exact gone)
  | untracked gone untracked full =>
      exact .untracked (by rw [Workspace.Gone, copies]; exact gone) untracked full
  | settled settled =>
      obtain ⟨tracker, copy, alive, slot, board, isOpen, generation⟩ := settled
      rw [← copies] at tracker copy
      rw [← slots] at isOpen generation
      exact .settled ⟨tracker, copy, alive, slot, board, isOpen, generation⟩

theorem Served.solo_perform (served : s.Served i c st) {act : CacheAct} (own : act ≠ .heard) :
    (s.perform (fire 0) (.onCache i act)).2.solo i =
      ((act.operation c).run (Solo.host s.deployment.stores.size st) (s.solo i)).2 := by
  obtain ⟨seat, seated, cache⟩ := Option.map_eq_some_iff.mp served.cache
  obtain ⟨-, tally⟩ := s.perform_tally i act seated own
  have sees : Solo.Sees i s.deployment.stores.size st s.tally (s.solo i) :=
    ⟨rfl, rfl, rfl, served.order.sole, served.order.stores, rfl,
      (Array.getElem?_eq_some_iff.mp seated).1, served.fixed⟩
  have after := sees.run (p := act.operation c (s.deployment.workspace i))
  rw [cache] at tally
  have deployment := congrArg Tally.deployment tally
  ext1
  · exact (congrArg (·.workspace i) deployment).trans after.workspace.symm
  · exact (congrArg Deployment.sole deployment).trans after.authority.symm
  · exact (congrArg Tally.calls tally).trans after.calls.symm

theorem Served.ready (served : s.Served i c st) (topic : Topic) : (s.solo i).Ready st topic := by
  have order := served.order
  have slots : (s.solo i).workspace.shared.slots = s.deployment.shared.slots :=
    congrArg Shared.slots (s.deployment.shared_workspace i)
  refine ⟨?_, ?_, ?_, ?_, order.known i st served.fixed⟩
  · rw [slots]
    exact order.working.registry
  · rw [slots]
    exact order.working.isOpen
  · rw [slots]
    exact order.closed
  · intro t v held owned
    have watches := order.watches i topic t held
    have lent := watches.lent
    rw [owned] at lent
    rw [slots]
    exact ⟨lent.2.2, watches.issued v owned⟩

/-- A read makes the one call, unless there is a slot that has not moved since the last read. -/
theorem Stands.read (stands : s.Stands i topic since) (served : s.Served i c st)
    (client : c.caller.atStore = false) (allowed : c.mayRead topic = true) {act : CacheAct}
    (reads : act.isReadOf c topic = true) (watched : List Topic) :
    (s.report 0 watched (.onCache i act)).calls =
        (if s.deployment.sole.registry.index? topic ≠ none ∧ since.map Int64.ofNat = some 0 then []
        else [c.request topic]) ∧
      (s.play 0 [.onCache i act]).Stands i topic (some 0) := by
  have served' := served.fresh
  have own : act ≠ .heard := by
    rintro rfl
    cases reads
  have performed := served'.solo_perform own
  -- A read that is due pays, and then there is a copy if there can be one.
  have pays : (s.fresh.solo i).Due topic →
      (s.report 0 watched (.onCache i act)).calls = [c.request topic] ∧
        (s.play 0 [.onCache i act]).Stands i topic (some 0) := by
    intro due
    have paid := Solo.read_paid c served'.inside client reads allowed (served'.ready topic) due
    rw [← performed] at paid
    refine ⟨paid.calls, ?_⟩
    cases slot : (s.play 0 [.onCache i act]).deployment.sole.registry.index? topic with
    | some index =>
        obtain ⟨t, settled⟩ := paid.kept fun untracked => by
          have untracked := slot.symm.trans untracked
          cases untracked
        exact .settled settled
    | none =>
        obtain ⟨gone, full⟩ := paid.full slot
        refine .untracked gone slot (full.trans ?_)
        exact congrArg (fun shared : Shared => shared.slots.length _)
          (Deployment.shared_workspace _ i)
  cases stands.fresh with
  | unread gone =>
      rw [if_neg fun impossible => nomatch impossible.2]
      exact pays (Or.inl gone)
  | untracked gone untracked full =>
      rw [if_neg fun impossible => impossible.1 untracked]
      exact pays (Or.inl gone)
  | @settled n t settled =>
      have slot : s.deployment.sole.registry.index? topic = some t.index := settled.slot
      by_cases same : Int64.ofNat n = 0
      · have settled : (s.fresh.solo i).workspace.Settled (s.fresh.solo i).authority topic 0 t := by
          obtain ⟨tracker, copy, alive, slot, board, isOpen, generation⟩ := settled
          rw [same] at generation
          exact ⟨tracker, copy, alive, slot, board, isOpen, generation⟩
        have quiet : (s.fresh.solo i).Quiet st
            ((s.fresh.perform (fire 0) (.onCache i act)).2.solo i) := by
          rw [performed]
          exact Solo.read_free c client reads settled
        rw [if_pos ⟨by rw [slot]; exact Option.some_ne_none _, congrArg some same⟩]
        exact ⟨quiet.calls, .settled (quiet.settled settled)⟩
      · rw [if_neg fun impossible => same (Option.some.inj impossible.2)]
        exact pays (Or.inr ⟨n, t, settled, same⟩)

/-! ## Scripts -/

/-- The session when `k` steps of a script have been carried out. -/
def after (s : Session) (script : Script) (k : Nat) : Session :=
  s.play 0 (script.take k)

/-- How often what the topic covers was changed since the cache in seat `i` last read it, when `k` steps
have been carried out. There is nothing to say before the first read. -/
def sinceRead (i : Nat) (c : Cache) (topic : Topic) (s : Session) (script : Script) : Nat → Option Nat
  | 0 => none
  | k + 1 =>
      let since := sinceRead i c topic s script k
      match script[k]? with
      | some step =>
          if step.isReadBy i c topic then some 0
          else since.map (· + (s.after script k).bumps topic step)
      | none => since

variable {script : Script} {k m n : Nat}

theorem after_succ (s : Session) (known : script[k]? = some step) :
    s.after script (k + 1) = (s.after script k).play 0 [step] :=
  play_take_succ 0 s known

theorem after_succ_of_none (s : Session) (ended : script[k]? = none) :
    s.after script (k + 1) = s.after script k := by
  have short := List.getElem?_eq_none_iff.mp ended
  rw [after, after, List.take_of_length_le short, List.take_of_length_le (Nat.le_succ_of_le short)]

theorem act_of_isReadBy (read : step.isReadBy i c topic = true) :
    ∃ act, step = .onCache i act ∧ act.isReadOf c topic = true := by
  cases step with
  | onCache j act =>
      rw [Instruction.isReadBy, Bool.and_eq_true, beq_iff_eq] at read
      exact ⟨act, by rw [read.1], read.2⟩
  | onStore | handles | onHandle | hook => cases read

/-- The cache in seat `i` reads the topic now and then, for the first time in step `m`. -/
structure Reading (i : Nat) (c : Cache) (st : StoreId) (topic : Topic) (s : Session) (script : Script)
    (m : Nat) : Prop where
  served : s.Served i c st
  client : c.caller.atStore = false
  allowed : c.mayRead topic = true
  gone : (s.deployment.workspace i).Gone topic
  spares : ∀ step ∈ script, step.Spares i
  first : script.findIdx? (Instruction.isReadBy i c topic) = some m

namespace Reading

/-- Whatever caches and stores do, the cache has of the topic what it should have. -/
theorem stands (reading : Reading i c st topic s script m) (k : Nat) :
    (s.after script k).Served i c st ∧
      (s.after script k).Stands i topic (s.sinceRead i c topic script k) := by
  induction k with
  | zero => exact ⟨reading.served, .unread reading.gone⟩
  | succ k ih =>
      obtain ⟨served, stands⟩ := ih
      cases known : script[k]? with
      | none =>
          rw [after_succ_of_none s known]
          simp only [sinceRead, known]
          exact ⟨served, stands⟩
      | some step =>
          have spares := reading.spares step (List.mem_of_getElem? known)
          rw [after_succ s known]
          refine ⟨(served.goesOn spares).2, ?_⟩
          cases read : step.isReadBy i c topic with
          | false =>
              simp only [sinceRead, known, read]
              exact stands.goesOn served reading.client spares read
          | true =>
              simp only [sinceRead, known, read, ↓reduceIte]
              obtain ⟨act, rfl, reads⟩ := act_of_isReadBy read
              exact (stands.read served reading.client reading.allowed reads []).2

theorem sinceRead_eq_none (reading : Reading i c st topic s script m) (before : k ≤ m) :
    s.sinceRead i c topic script k = none := by
  obtain ⟨inside, -, earliest⟩ := List.findIdx?_eq_some_iff_getElem.mp reading.first
  induction k with
  | zero => rfl
  | succ k ih =>
      have unread := Bool.eq_false_iff.mpr (earliest k before)
      have known : script[k]? = some script[k] := List.getElem?_eq_getElem (by omega)
      simp [sinceRead, known, unread, ih (by omega)]

theorem isSome_sinceRead (reading : Reading i c st topic s script m) (later : m < k) :
    (s.sinceRead i c topic script k).isSome := by
  obtain ⟨inside, read, -⟩ := List.findIdx?_eq_some_iff_getElem.mp reading.first
  induction k, later using Nat.le_induction with
  | base => simp [sinceRead, List.getElem?_eq_getElem inside, read]
  | succ k _ ih =>
      cases known : script[k]? with
      | none => simpa only [sinceRead, known] using ih
      | some step =>
          simp only [sinceRead, known]
          split
          · rfl
          · rwa [Option.isSome_map]

/-- The store goes on after the first read, whatever is called. -/
theorem run (reading : Reading i c st topic s script m) (later : m < k) :
    ∃ keys, (s.after script (m + 1)).deployment.sole.Run (s.after script (m + 1)).deployment.shared keys
      (s.after script k).deployment.sole (s.after script k).deployment.shared := by
  induction k, later using Nat.le_induction with
  | base => exact ⟨[], .rest⟩
  | succ k _ ih =>
      obtain ⟨keys, run⟩ := ih
      cases known : script[k]? with
      | none =>
          rw [after_succ_of_none s known]
          exact ⟨keys, run⟩
      | some step =>
          have spares := reading.spares step (List.mem_of_getElem? known)
          rw [after_succ s known]
          exact ⟨_, run.trans ((reading.stands k).1.goesOn spares).1.run⟩

/-- A read is reported on with the calls that it makes as things stand. -/
theorem report (reading : Reading i c st topic s script m) (watched : List Topic)
    (known : script[n]? = some step) (read : step.isReadBy i c topic = true) :
    ∃ r : Report, (s.run script watched)[n]? = some r ∧ r.calls =
      if (s.after script n).deployment.sole.registry.index? topic ≠ none ∧
          (s.sinceRead i c topic script n).map Int64.ofNat = some 0 then []
      else [c.request topic] := by
  have hookless : script.Plain := by
    rintro step member moment steps rfl
    exact reading.spares _ member
  obtain ⟨act, rfl, reads⟩ := act_of_isReadBy read
  obtain ⟨served, stands⟩ := reading.stands n
  refine ⟨_, ?_, (stands.read served reading.client reading.allowed reads watched).1⟩
  rw [getElem?_run, hookless.hookCount, known, Option.map_some]
  rfl

/-- A topic that has a slot is asked for by the first read, and by those that come after a change. -/
theorem report_of_slot (reading : Reading i c st topic s script m) (watched : List Topic)
    (slot : (s.after script (m + 1)).deployment.sole.registry.index? topic ≠ none)
    (known : script[n]? = some step) (read : step.isReadBy i c topic = true)
    (few : ∀ bumps, s.sinceRead i c topic script n = some bumps → bumps < 2 ^ 64) :
    ∃ r : Report, (s.run script watched)[n]? = some r ∧
      r.calls = if s.sinceRead i c topic script n = some 0 then [] else [c.request topic] := by
  obtain ⟨r, reported, calls⟩ := reading.report watched known read
  refine ⟨r, reported, calls.trans ?_⟩
  rcases Nat.lt_or_ge m n with later | before
  · obtain ⟨keys, run⟩ := reading.run later
    obtain ⟨index, slot⟩ := Option.ne_none_iff_exists'.mp slot
    have slot' := (run.slot (reading.stands (m + 1)).1.order.working slot).1
    obtain ⟨bumps, since⟩ := Option.isSome_iff_exists.mp (reading.isSome_sinceRead later)
    -- The slot holds what it held then only if it was not bumped at all.
    have zero : Int64.ofNat bumps = 0 ↔ bumps = 0 := by
      refine ⟨fun same => eq_of_ofNat_eq_ofNat (few bumps since) (Nat.two_pow_pos 64) same, ?_⟩
      rintro rfl
      rfl
    simp [slot', since, zero]
  · simp [reading.sinceRead_eq_none before]

section Untracked

variable (reading : Reading i c st topic s script m)
  (untracked : (s.after script (m + 1)).deployment.sole.registry.index? topic = none)

include reading untracked

/-- If the first read has found no slot for the topic, there never is one. -/
theorem index?_eq_none (later : m < k) :
    (s.after script k).deployment.sole.registry.index? topic = none := by
  obtain ⟨served, stands⟩ := reading.stands (m + 1)
  obtain ⟨-, full⟩ := stands.of_untracked (reading.isSome_sinceRead (Nat.lt_succ_self m)) untracked
  obtain ⟨keys, run⟩ := reading.run later
  exact (run.full served.order.working untracked full).1

/-- A topic without a slot is asked for by every read. -/
theorem report_of_untracked (watched : List Topic) (known : script[n]? = some step)
    (read : step.isReadBy i c topic = true) :
    ∃ r : Report, (s.run script watched)[n]? = some r ∧ r.calls = [c.request topic] := by
  obtain ⟨r, reported, calls⟩ := reading.report watched known read
  refine ⟨r, reported, calls.trans ?_⟩
  rcases Nat.lt_or_ge m n with later | before
  · simp [reading.index?_eq_none untracked later]
  · simp [reading.sinceRead_eq_none before]

/-- The cache never has anything of a topic without a slot. -/
theorem gone_of_untracked (k : Nat) : ((s.after script k).deployment.workspace i).Gone topic := by
  have stands := (reading.stands k).2
  rcases Nat.lt_or_ge m k with later | before
  · exact (stands.of_untracked (reading.isSome_sinceRead later)
      (reading.index?_eq_none untracked later)).1
  · rw [reading.sinceRead_eq_none before] at stands
    cases stands with
    | unread gone => exact gone

end Untracked

end Reading

section New

variable {dep : Deployment} {capacity : Nat} {transfer : Transfer}
  {defaults : Std.ExtTreeMap String String}

theorem workspace_of_new (new : dep.New capacity transfer defaults) (i : Nat) :
    (dep.workspace i).copies = {} ∧ (dep.workspace i).store = none := by
  unfold Deployment.workspace
  cases known : dep.seats[i]? with
  | none => exact ⟨rfl, rfl⟩
  | some seat => exact new.seats i seat known

theorem gone_of_new (new : dep.New capacity transfer defaults) (i : Nat) (topic : Topic) :
    (dep.workspace i).Gone topic := by
  rw [Workspace.Gone, (workspace_of_new new i).1]
  cases topic <;> simp [Copies.find?]

/-- Where nothing has been done yet, all is in order. -/
theorem inOrder_of_new (new : dep.New capacity transfer defaults) (plain : dep.Plain) :
    dep.InOrder := by
  have sole : dep.sole = (Authority.create capacity transfer defaults {}).1 :=
    Course.sole_of_authorities new.authority
  have nothing : ∀ i topic t, ¬ dep.Holds i topic t := by
    intro i topic t holds
    rw [Deployment.Holds, (gone_of_new new i topic).1] at holds
    cases holds
  refine
    { sole := by rw [sole]; exact new.authority
      stores := ?_
      working := by
        rw [sole, new.shared]
        exact ⟨Authority.create_sound .., rfl⟩
      closed := ?_
      watches := fun i topic t holds => absurd holds (nothing i topic t)
      apart := fun i topic t _ _ _ _ _ holds => absurd holds (nothing i topic t)
      known := fun i _ _ => Or.inl (workspace_of_new new i).2 }
  · intro id store known
    rcases new.stores id store known with same | ⟨switches, rfl⟩
    · exact same
    · obtain ⟨a, impossible⟩ := plain id _ known
      cases impossible
  · intro v shut
    rw [new.shared] at shut
    cases shut

end New

/-- A cache that knows its store asks for a topic that has a slot by its first read, and then again by
each read that comes after a change to what the topic covers. A topic for which the first read has found
no slot is asked for by every read, and the cache never has anything of it. -/
theorem asked_for_when_due {start : Session} {capacity : Nat} {transfer : Transfer}
    {defaults : Std.ExtTreeMap String String}
    (new : start.deployment.New capacity transfer defaults) (plain : start.deployment.Plain)
    {seat : Seat} (seated : start.deployment.seats[i]? = some seat)
    (knows : seat.resolver = .fixed st) (inside : st < start.deployment.stores.size)
    (client : seat.cache.caller.atStore = false) (allowed : seat.cache.mayRead topic = true)
    (spares : ∀ step ∈ script, step.Spares i) (watched : List Topic)
    (first : script.findIdx? (Instruction.isReadBy i seat.cache topic) = some m) :
    let since := start.sinceRead i seat.cache topic script
    ((start.after script (m + 1)).deployment.sole.registry.index? topic ≠ none →
      ∀ (n : Nat) (step : Instruction), script[n]? = some step →
        step.isReadBy i seat.cache topic = true →
        (∀ bumps, since n = some bumps → bumps < 2 ^ 64) →
          ∃ r : Report, (start.run script watched)[n]? = some r ∧
            r.calls = if since n = some 0 then [] else [seat.cache.request topic]) ∧
    ((start.after script (m + 1)).deployment.sole.registry.index? topic = none →
      (∀ (n : Nat) (step : Instruction), script[n]? = some step →
        step.isReadBy i seat.cache topic = true →
          ∃ r : Report, (start.run script watched)[n]? = some r ∧
            r.calls = [seat.cache.request topic]) ∧
      ∀ k, ((start.after script k).deployment.workspace i).Gone topic) := by
  have served : start.Served i seat.cache st :=
    ⟨inOrder_of_new new plain, by rw [seated]; rfl, ⟨seat, seated, knows⟩, inside⟩
  have reading : Reading i seat.cache st topic start script m :=
    ⟨served, client, allowed, gone_of_new new i topic, spares, first⟩
  refine ⟨?_, ?_⟩
  · intro slot n step known read few
    exact reading.report_of_slot watched slot known read few
  · intro untracked
    exact ⟨fun n step known read => reading.report_of_untracked untracked watched known read,
      reading.gone_of_untracked untracked⟩

end Session

/-- A store that has one slot to give away, and one cache that knows it. -/
def oneSlot : Session where
  deployment :=
    { shared := (Authority.create 1 .duplicate {} {}).2
      authorities := #[(Authority.create 1 .duplicate {} {}).1]
      stores := #[.plain 0]
      seats := #[{ cache := { uri := "settings:main" }, resolver := .fixed 0 }] }
  observers := #[.silent]

theorem oneSlot_new : oneSlot.deployment.New 1 .duplicate {} where
  authority := rfl
  shared := rfl
  stores := by
    intro id store known
    cases id with
    | zero => exact Or.inl (Option.some.inj known).symm
    | succ => cases known
  seats := by
    intro i seat known
    cases i with
    | zero =>
        cases known
        exact ⟨rfl, rfl⟩
    | succ => cases known

theorem oneSlot_plain : oneSlot.deployment.Plain := by
  intro id store known
  cases id with
  | zero => exact ⟨0, (Option.some.inj known).symm⟩
  | succ => cases known

/-- The one slot is for the volume. Nothing is left for a listing. -/
def readsAroundPut : Script :=
  [.onCache 0 (.value "volume" 0), .onCache 0 (.value "volume" 0),
    .onStore 0 (.call (.put "volume" (some "8") 0)), .onCache 0 (.value "volume" 0),
    .onCache 0 (.listing "" []), .onCache 0 (.listing "" [])]

/-- The volume is asked for at first and after the put, and not in between; the listing always is. -/
theorem asked_for_when_due_around_put :
    let c : Cache := { uri := "settings:main" }
    (∃ r r' r'', (oneSlot.run readsAroundPut [])[0]? = some r ∧ r.calls = [c.request (.key "volume")] ∧
      (oneSlot.run readsAroundPut [])[1]? = some r' ∧ r'.calls = [] ∧
      (oneSlot.run readsAroundPut [])[3]? = some r'' ∧ r''.calls = [c.request (.key "volume")]) ∧
    ∃ r, (oneSlot.run readsAroundPut [])[5]? = some r ∧ r.calls = [c.request (.under "")] := by
  intro c
  have spares : ∀ step ∈ readsAroundPut, step.Spares 0 := by
    simp [readsAroundPut, Instruction.Spares]
  have volumeFirst : readsAroundPut.findIdx? (Instruction.isReadBy 0 c (.key "volume")) = some 0 := rfl
  have listedFirst : readsAroundPut.findIdx? (Instruction.isReadBy 0 c (.under "")) = some 4 := rfl
  have volume := (Session.asked_for_when_due oneSlot_new oneSlot_plain rfl rfl (by decide) rfl
    (by decide +kernel) spares [] volumeFirst).1 (by decide +kernel)
  have listing := (Session.asked_for_when_due oneSlot_new oneSlot_plain rfl rfl (by decide) rfl
    rfl spares [] listedFirst).2 (by decide +kernel)
  have unmoved : oneSlot.sinceRead 0 c (.key "volume") readsAroundPut 1 = some 0 := by decide +kernel
  have moved : oneSlot.sinceRead 0 c (.key "volume") readsAroundPut 3 = some 1 := by decide +kernel
  obtain ⟨r, reported, calls⟩ := volume 0 _ rfl rfl fun bumps impossible => nomatch impossible
  obtain ⟨r', reported', calls'⟩ := volume 1 _ rfl rfl fun bumps few => by
    obtain rfl := Option.some.inj (unmoved.symm.trans few)
    decide
  obtain ⟨r'', reported'', calls''⟩ := volume 3 _ rfl rfl fun bumps few => by
    obtain rfl := Option.some.inj (moved.symm.trans few)
    decide
  refine ⟨⟨r, r', r'', reported, ?_, reported', ?_, reported'', ?_⟩, listing.1 5 _ rfl rfl⟩
  · exact calls
  · exact calls'.trans (if_pos unmoved)
  · exact calls''.trans (if_neg fun same => absurd (moved.symm.trans same) (by decide))

end TrackedSettings
