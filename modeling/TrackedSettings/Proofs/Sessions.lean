import TrackedSettings.Proofs.System

/-! # Sessions are runs of a system

A session carries out one operation inside another: what a hook does happens while the operation
around it waits. A system can do all of that by its moves, so what holds of every run holds of
every session. Only steps on handles and on replaying stores are left out; they close and set what no
cache and no reader of the one store would.
-/

namespace TrackedSettings

/-- The instruction tells caches, or stores that can be in front of an authoritative one, to act. -/
inductive Instruction.Ordinary : Instruction → Prop where
  | onCache (cache : Nat) (act : CacheAct) : Ordinary (.onCache cache act)
  | onStore (store : StoreId) (act : StoreAct) (own : ∀ replay, act ≠ .replay replay) :
      Ordinary (.onStore store act)
  | handles : Ordinary .handles
  | hook (moment : Moment) (steps : Script) (all : ∀ step ∈ steps, Ordinary step) :
      Ordinary (.hook moment steps)

/-- All hooks that wait are ordinary. -/
def Session.Ordinary (s : Session) : Prop :=
  ∀ hook ∈ s.hooks, ∀ step ∈ hook.steps, step.Ordinary

/-! ## Moves in a row -/

namespace System

/-- The system after some moves. -/
def follow (sys : System) (moves : List Move) : System :=
  moves.foldl step sys

theorem follow_cons (sys : System) (move : Move) (moves : List Move) :
    sys.follow (move :: moves) = (sys.step move).follow moves := rfl

theorem follow_append (sys : System) (moves more : List Move) :
    sys.follow (moves ++ more) = (sys.follow moves).follow more :=
  List.foldl_append

/-- Moves in a row, and nothing but a look at the notes after them. -/
def schedule (moves : List Move) (t : Nat) : Move :=
  moves.getD t .collect

theorem after_schedule (sys : System) {moves : List Move} {t : Nat} (inside : t ≤ moves.length) :
    sys.after (schedule moves) t = sys.follow (moves.take t) := by
  induction t with
  | zero => rfl
  | succ t ih =>
      have here : t < moves.length := inside
      rw [after, ih (Nat.le_of_lt here), List.take_succ_eq_append_getElem here, follow_append,
        schedule, List.getD_eq_getElem?_getD, List.getElem?_eq_getElem here]
      rfl

/-- All errands of the one system are errands of the other. -/
def Keeps (sys sys' : System) : Prop :=
  ∀ (n : Nat) (e : Errand), sys.errands[n]? = some e → sys'.errands[n]? = some e

theorem Keeps.trans {sys sys' sys'' : System} (first : sys.Keeps sys') (second : sys'.Keeps sys'') :
    sys.Keeps sys'' :=
  fun n e known => second n e (first n e known)

end System

/-! ## What a system can do as well -/

namespace Session

/-- The second session comes of the first, and a system can do the same while its errands rest. -/
structure Matched (s s' : Session) : Prop where
  ordinary : s'.Ordinary
  moves : ∀ sys : System, sys.deployment = s.deployment →
    ∃ moves, (sys.follow moves).deployment = s'.deployment ∧ sys.Keeps (sys.follow moves)

variable {s s' s'' : Session} {fire : Moment → Session → Session}

theorem Matched.of_same (ordinary : s'.Ordinary) (same : s'.deployment = s.deployment) :
    s.Matched s' where
  ordinary := ordinary
  moves _ here := ⟨[], here.trans same.symm, fun _ _ known => known⟩

theorem Matched.of_move (ordinary : s'.Ordinary) (move : Move)
    (moved : ∀ sys : System, sys.deployment = s.deployment →
      (sys.step move).deployment = s'.deployment ∧ (sys.step move).errands = sys.errands) :
    s.Matched s' where
  ordinary := ordinary
  moves sys here := by
    obtain ⟨deployment, errands⟩ := moved sys here
    refine ⟨[move], deployment, ?_⟩
    intro n e known
    rw [System.follow_cons, System.follow, List.foldl_nil, errands]
    exact known

theorem Matched.trans (first : s.Matched s') (second : s'.Matched s'') : s.Matched s'' where
  ordinary := second.ordinary
  moves sys here := by
    obtain ⟨moves, there, keeps⟩ := first.moves sys here
    obtain ⟨more, beyond, keeps'⟩ := second.moves (sys.follow moves) there
    refine ⟨moves ++ more, ?_, ?_⟩
    · rw [System.follow_append]
      exact beyond
    · rw [System.follow_append]
      exact keeps.trans keeps'

/-- Whatever is done when a moment comes up is matched. -/
def Matches (fire : Moment → Session → Session) : Prop :=
  ∀ (moment : Moment) (s : Session), s.Ordinary → s.Matched (fire moment s)

/-! ## Answers -/

theorem notify_matched (fires : Matches fire) (i : Nat) (event : Event) (ordinary : s.Ordinary) :
    s.Matched (notify fire i event s) := by
  unfold notify
  cases s.observers[i]? with
  | none => exact .of_same ordinary rfl
  | some observer =>
      cases observer with
      | tracing =>
          have marked : ∀ m, s.Matched (s.mark m) := fun m => .of_same ordinary rfl
          exact (marked _).trans (fires event.moment _ ordinary)
      | recording | silent => exact .of_same ordinary rfl

theorem resolve_matched (i : Nat) (uri : String) (caller : Caller) (ordinary : s.Ordinary) :
    (resolve i uri caller s).1 = (s.deployment.resolve i).1 ∧
      (resolve i uri caller s).2.Ordinary ∧
      (resolve i uri caller s).2.deployment = (s.deployment.resolve i).2 := by
  unfold resolve
  cases s.deployment.seats[i]?.map (·.resolver) with
  | none => exact ⟨rfl, ordinary, rfl⟩
  | some resolver => cases resolver <;> exact ⟨rfl, ordinary, rfl⟩

theorem callStore_matched (fires : Matches fire) (store : StoreId) (call : StoreCall)
    (ordinary : s.Ordinary) :
    (callStore fire store call s).1 = (s.deployment.callStore store call).1 ∧
      ∃ asked : Session, asked.deployment = (s.deployment.callStore store call).2 ∧
        asked.Matched (callStore fire store call s).2 := by
  have marked : (s.markCall store call).deployment = s.deployment ∧
      (s.markCall store call).Ordinary := by
    unfold markCall
    cases call <;> exact ⟨rfl, ordinary⟩
  have numbered : ({ s.markCall store call with
      deployment := (s.deployment.callStore store call).2 }.number call
        (s.deployment.callStore store call).1).Ordinary := marked.2
  unfold callStore
  simp only [marked.1]
  cases call.moment? with
  | none => exact ⟨rfl, _, rfl, .of_same numbered rfl⟩
  | some moment => exact ⟨rfl, _, rfl, fires moment _ numbered⟩

/-- The reply to a call is the deployment's, and all else that happens is matched. -/
theorem answer_matched (fires : Matches fire) (i : Nat) (call : Outcall) (ordinary : s.Ordinary) :
    ((host fire i).answer call s).1 = (s.deployment.reply i call).1 ∧
      ∃ asked : Session, asked.deployment = (s.deployment.reply i call).2 ∧
        asked.Matched ((host fire i).answer call s).2 := by
  cases call with
  | notify event => exact ⟨rfl, s, rfl, notify_matched fires i event ordinary⟩
  | store store call => exact callStore_matched fires store call ordinary
  | resolve uri caller =>
      obtain ⟨same, ordinary', deployment⟩ := resolve_matched i uri caller ordinary
      exact ⟨same, _, deployment, .of_same ordinary' rfl⟩

/-! ## Operations -/

/-- An operation that a session runs is an errand of a system. -/
theorem run_matched (fires : Matches fire) {i : Nat}
    {act : CacheAct} {p : Progress Outcome} {heard : List Answer} {sys : System} {n : Nat}
    (ordinary : s.Ordinary) (here : sys.deployment = s.deployment.putBack i p.handover)
    (known : sys.errands[n]? = some { seat := i, act, heard, stage := p.stage }) :
    (p.run (host fire i) s).2.Ordinary ∧
      ∃ moves heard', (sys.follow moves).deployment = (p.run (host fire i) s).2.deployment ∧
        (sys.follow moves).errands[n]? = some
          { seat := i, act, heard := heard', stage := .done (p.run (host fire i) s).1 } ∧
        ∀ m e, m ≠ n → sys.errands[m]? = some e → (sys.follow moves).errands[m]? = some e := by
  induction p generalizing s heard sys with
  | finished outcome w => exact ⟨ordinary, [], heard, here, known, fun _ _ _ old => old⟩
  | waiting call w resume ih =>
      let asking := (host fire i).putBack w s
      have answered := answer_matched fires i call (s := asking) ordinary
      have goesOn : (Progress.waiting call w resume).run (host fire i) s =
          (resume ((host fire i).answer call asking).1
            (((host fire i).answer call asking).2.deployment.workspace i)).run (host fire i)
              ((host fire i).answer call asking).2 := rfl
      rw [goesOn]
      generalize (host fire i).answer call asking = answer at answered ⊢
      obtain ⟨reply, s'⟩ := answer
      obtain ⟨same, asked, there, matched⟩ := answered
      simp only at same matched ⊢
      subst same
      -- The call is answered, others go on, and then the errand goes on.
      have inside := (List.getElem?_eq_some_iff.mp known).1
      have stepped := System.step_answer known
      rw [here] at stepped
      have others : ∀ m e, m ≠ n → sys.errands[m]? = some e →
          (sys.step (.answer n)).errands[m]? = some e := by
        intro m e other old
        rw [stepped, List.getElem?_set_ne (Ne.symm other)]
        exact old
      obtain ⟨moves, deployment, keeps⟩ := matched.moves (sys.step (.answer n)) (by
        rw [stepped, there]
        rfl)
      have waits := keeps n _ (by rw [stepped]; exact List.getElem?_set_self inside)
      have resumed := System.step_resume waits
      rw [deployment] at resumed
      have begun := (List.getElem?_eq_some_iff.mp waits).1
      have next : (((sys.step (.answer n)).follow moves).step (.resume n)).deployment =
          s'.deployment.putBack i
            (resume (asking.deployment.reply i call).1 (s'.deployment.workspace i)).handover := by
        rw [resumed]
        rfl
      obtain ⟨ordinary', more, heard', ends, done, rest⟩ := ih
        (asking.deployment.reply i call).1 (s'.deployment.workspace i) matched.ordinary next
        (by rw [resumed]; exact List.getElem?_set_self begun)
      refine ⟨ordinary', .answer n :: (moves ++ .resume n :: more), heard', ?_⟩
      rw [System.follow_cons, System.follow_append, System.follow_cons]
      refine ⟨ends, done, ?_⟩
      intro m e other old
      apply rest m e other
      rw [resumed, List.getElem?_set_ne (Ne.symm other)]
      exact keeps m e (others m e other old)

/-- When a session tells a cache to act, that is an errand, and its outcome is the errand's. -/
theorem act_matched (fires : Matches fire) (ordinary : s.Ordinary) (i : Nat) {act : CacheAct}
    (own : act ≠ .heard) {sys : System} (here : sys.deployment = s.deployment) :
    (s.perform fire (.onCache i act)).2.Ordinary ∧
      ∃ moves heard, (sys.follow (.start i act :: moves)).deployment =
          (s.perform fire (.onCache i act)).2.deployment ∧
        (sys.follow (.start i act :: moves)).errands[sys.errands.length]? = some
          { seat := i, act, heard, stage := .done (s.perform fire (.onCache i act)).1 } ∧
        sys.Keeps (sys.follow (.start i act :: moves)) := by
  let p := s.deployment.begin i act
  have performed : s.perform fire (.onCache i act) = p.run (host fire i) s := by
    simp only [perform, p, Deployment.begin]
    cases s.deployment.seats[i]? with
    | none =>
        change (Outcome.inapplicable, s) = (Outcome.inapplicable,
          { s with deployment := s.deployment.putBack i (s.deployment.workspace i) })
        rw [Deployment.putBack_workspace]
    | some seat => exact actOnCache_eq_run fire i seat.cache act own s
  have started : sys.step (.start i act) =
      { deployment := s.deployment.putBack i p.handover
        errands := sys.errands ++ [{ seat := i, act, stage := p.stage }] } := by
    simp only [System.step, here, p]
  have known : (sys.step (.start i act)).errands[sys.errands.length]? =
      some { seat := i, act, stage := p.stage } := by
    rw [started]
    exact List.getElem?_concat_length
  obtain ⟨ordinary', moves, heard, ends, done, rest⟩ :=
    run_matched fires ordinary (by rw [started]) known
  rw [performed]
  refine ⟨ordinary', moves, heard, ends, done, ?_⟩
  intro m e old
  have inside := (List.getElem?_eq_some_iff.mp old).1
  apply rest m e (by omega)
  rw [started, List.getElem?_append_left inside]
  exact old

/-! ## Instructions -/

theorem actOnAuthority_matched (ordinary : s.Ordinary) {store : StoreId} {a : Nat}
    (behind : s.deployment.authority? store = some a) (act : AuthorityAct) :
    s.Matched (actOnAuthority a act s).2 := by
  have same : s.Matched s := .of_same ordinary rfl
  unfold actOnAuthority
  cases s.deployment.authorities[a]? with
  | none => cases act <;> exact same
  | some authority =>
      cases act with
      | value | generation | setup => exact same
      | call call =>
          refine .of_move ordinary (.behind store call) ?_
          intro sys here
          simp only [System.step, here, behind, replied, number, and_true]

theorem actOnFlaky_matched (ordinary : s.Ordinary) {store : StoreId} {front : Flaky} {a : Nat}
    (known : s.deployment.stores[store]? = some (.flaky front a)) (act : FlakyAct) :
    s.Matched (actOnFlaky store front a act s).2 := by
  cases act with
  | counts => exact .of_same ordinary rfl
  | switch change =>
      refine .of_move ordinary (.switch store change) ?_
      intro sys here
      simp only [System.step, here, known, actOnFlaky, and_true]
  | breakHandedOut =>
      refine .of_move ordinary (.breakHandedOut store) ?_
      intro sys here
      simp only [System.step, here, known, actOnFlaky, and_true]

theorem actOnStore_matched (ordinary : s.Ordinary) (store : StoreId) {act : StoreAct}
    (own : ∀ replay, act ≠ .replay replay) : s.Matched (actOnStore store act s).2 := by
  have same : s.Matched s := .of_same ordinary rfl
  cases known : s.deployment.stores[store]? with
  | none =>
      simp only [actOnStore, known]
      cases act <;> exact same
  | some st =>
      cases act with
      | replay act => exact absurd rfl (own act)
      | call call =>
          simp only [actOnStore, known]
          refine .of_move ordinary (.call store call) ?_
          intro sys here
          simp only [System.step, here, replied, number, and_true]
      | behind act =>
          simp only [actOnStore, known]
          cases st with
          | plain a =>
              exact actOnAuthority_matched ordinary (by rw [Deployment.authority?, known]) act
          | flaky front a =>
              exact actOnAuthority_matched ordinary (by rw [Deployment.authority?, known]) act
          | replay r => exact same
      | flaky act =>
          simp only [actOnStore, known]
          cases st with
          | flaky front a => exact actOnFlaky_matched ordinary known act
          | plain | replay => exact same

theorem perform_matched (fires : Matches fire) (ordinary : s.Ordinary) {step : Instruction}
    (plain : step.Ordinary) : s.Matched (s.perform fire step).2 := by
  cases plain with
  | handles => exact .of_same ordinary rfl
  | onStore store act own => exact actOnStore_matched ordinary store own
  | hook moment steps all =>
      refine .of_same ?_ rfl
      intro hook member
      rcases List.mem_append.mp member with old | new
      · exact ordinary hook old
      · rw [List.mem_singleton.mp new]
        exact all
  | onCache i act =>
      by_cases own : act = .heard
      · subst own
        simp only [perform, actOnCache]
        cases s.deployment.seats[i]? with
        | none => exact .of_same ordinary rfl
        | some seat =>
            cases s.observers[i]? with
            | none => exact .of_same ordinary rfl
            | some observer => cases observer <;> exact .of_same ordinary rfl
      · have alone : ({ deployment := s.deployment } : System).deployment = s.deployment := rfl
        refine ⟨(act_matched fires ordinary i own alone).1, ?_⟩
        intro sys here
        obtain ⟨-, moves, _, ends, -, keeps⟩ := act_matched fires ordinary i own here
        exact ⟨_, ends, keeps⟩

/-- A hook that waited is ordinary, and so are those that still wait. -/
theorem takeHook_ordinary (ordinary : s.Ordinary) {moment : Moment} {steps : Script}
    (taken : s.takeHook moment = some (steps, s')) :
    (∀ step ∈ steps, step.Ordinary) ∧ s'.Ordinary ∧ s'.deployment = s.deployment := by
  unfold takeHook at taken
  cases found : s.hooks.find? (·.moment = moment) with
  | none =>
      rw [found] at taken
      cases taken
  | some hook =>
      rw [found] at taken
      cases taken
      refine ⟨ordinary hook (List.mem_of_find?_eq_some found), ?_, rfl⟩
      intro hook member
      exact ordinary hook (List.mem_of_mem_eraseP member)

/-- Steps one after another. -/
theorem foldl_matched {next : Session → Instruction → Session}
    (nexts : ∀ (s : Session) (step : Instruction), s.Ordinary → step.Ordinary →
      s.Matched (next s step)) {script : Script} (plain : ∀ step ∈ script, step.Ordinary)
    (ordinary : s.Ordinary) : s.Matched (script.foldl next s) := by
  induction script generalizing s with
  | nil => exact .of_same ordinary rfl
  | cons step rest ih =>
      have first := nexts s step ordinary (plain step List.mem_cons_self)
      exact first.trans (ih (fun step member => plain step (List.mem_cons_of_mem _ member))
        first.ordinary)

theorem matches_fire (depth : Nat) : Matches (Session.fire depth) := by
  induction depth with
  | zero => exact fun _ _ ordinary => .of_same ordinary rfl
  | succ depth ih =>
      intro moment s ordinary
      unfold Session.fire
      cases taken : s.takeHook moment with
      | none => exact .of_same ordinary rfl
      | some found =>
          obtain ⟨steps, s'⟩ := found
          obtain ⟨plain, ordinary', same⟩ := takeHook_ordinary ordinary taken
          refine (Matched.of_same ordinary' same).trans (foldl_matched ?_ plain ordinary')
          intro s step ordinary plain
          have performed := perform_matched ih ordinary plain
          exact performed.trans (.of_same performed.ordinary rfl)

/-! ## Sessions -/

theorem fresh_matched (ordinary : s.Ordinary) : s.Matched s.fresh := by
  refine .of_move ordinary .collect ?_
  intro sys here
  simp only [System.step, here, fresh, and_true]

/-- Carry out the steps of a script, each with no notes and no marks at its beginning. -/
def play (depth : Nat) (script : Script) (s : Session) : Session :=
  script.foldl (fun s step => (s.fresh.perform (Session.fire depth) step).2) s

/-- What a script of caches and stores does, a system can do by its moves. -/
theorem play_matched (depth : Nat) {script : Script} (plain : ∀ step ∈ script, step.Ordinary)
    (ordinary : s.Ordinary) : s.Matched (s.play depth script) := by
  refine foldl_matched ?_ plain ordinary
  intro s step ordinary plain
  have freshened := fresh_matched ordinary
  exact freshened.trans (perform_matched (matches_fire depth) freshened.ordinary plain)

/-- A step that tells a cache to act, after any script, is an errand in a run of a system that begins
with the same caches and stores. -/
theorem step_is_errand (depth : Nat) {script : Script} (plain : ∀ step ∈ script, step.Ordinary)
    (ordinary : s.Ordinary) (i : Nat) {act : CacheAct} (own : act ≠ .heard) :
    let start : System := { deployment := s.deployment }
    let before := (s.play depth script).fresh
    let (outcome, after) := before.perform (Session.fire depth) (.onCache i act)
    ∃ moves begun now e, moves begun = .start i act ∧ begun < now ∧
      (start.after moves begun).deployment = before.deployment ∧
      (start.after moves now).deployment = after.deployment ∧
      (start.after moves now).errands[(start.after moves begun).errands.length]? = some e ∧
      e.stage = .done outcome := by
  intro start before
  have played := (play_matched depth plain ordinary)
  have matched := played.trans (fresh_matched played.ordinary)
  obtain ⟨earlier, there, -⟩ := matched.moves start rfl
  obtain ⟨-, later, heard, ends, done, -⟩ :=
    act_matched (matches_fire depth) matched.ordinary i own there
  generalize before.perform (Session.fire depth) (.onCache i act) = performed at ends done ⊢
  obtain ⟨outcome, after⟩ := performed
  let moves := earlier ++ .start i act :: later
  have atStart : start.after (System.schedule moves) earlier.length = start.follow earlier := by
    rw [System.after_schedule _ (by simp [moves]), List.take_left]
  have atEnd : start.after (System.schedule moves) moves.length =
      (start.follow earlier).follow (.start i act :: later) := by
    rw [System.after_schedule _ (Nat.le_refl _), List.take_length, System.follow_append]
  refine ⟨System.schedule moves, earlier.length, moves.length,
    { seat := i, act, heard, stage := .done outcome }, ?_, ?_, ?_, ?_, ?_, rfl⟩
  · simp [System.schedule, moves]
  · simp [moves]
  · rw [atStart]
    exact there
  · rw [atEnd]
    exact ends
  · rw [atStart, atEnd]
    exact done

end Session

end TrackedSettings
