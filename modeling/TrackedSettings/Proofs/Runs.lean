import TrackedSettings.Proofs.System

/-! # Every run is in order

From moment to moment a system stays sound, and every errand is in order with the course as it was
when the errand began.
-/

namespace TrackedSettings

open Course (terms)

/-! ## Errands -/

namespace Errand

/-- Whatever answer is known to be right, the errand goes on in order. -/
def Waits (e : Errand) (begun asked : Course) (call : Outcall)
    (resume : call.Reply → Workspace → Progress Outcome) : Prop :=
  ∀ reply x, (terms e.seat).Follows asked x → (terms e.seat).Told asked ⟨call, reply⟩ x →
    (resume reply (x.deployment.workspace e.seat)).Upholds (terms e.seat)
      (e.act.Ends (terms e.seat) begun) (e.heard ++ [⟨call, reply⟩]) x

/-- An errand is in order. -/
def Good (e : Errand) (begun x : Course) : Prop :=
  match e.stage with
  | .asking call resume =>
      ∃ asked, (terms e.seat).Follows asked x ∧ e.Waits begun asked call resume
  | .answered call reply resume =>
      ∃ asked, (terms e.seat).Follows asked x ∧ e.Waits begun asked call resume ∧
        ∀ copy grant, Answer.brings ⟨call, reply⟩ = some (copy, grant) →
          asked.Fetched copy grant x
  | .done outcome => e.act.Ends (terms e.seat) begun outcome e.heard x

variable {e : Errand} {begun asked x x' : Course}

theorem follows_later {i : Nat} (follows : (terms i).Follows asked x) (sound : x'.Sound)
    (later : x.Later x') : (terms i).Follows asked x' := by
  have inside : i < x.deployment.seats.size := follows.1.2
  exact ⟨⟨sound, by rw [later.seats]; exact inside⟩, Course.Later.trans follows.2 later⟩

theorem Good.later (good : e.Good begun x) (sound : x'.Sound) (later : x.Later x') :
    e.Good begun x' := by
  unfold Good at good ⊢
  cases stage : e.stage with
  | asking call resume =>
      rw [stage] at good
      obtain ⟨asked, follows, waits⟩ := good
      exact ⟨asked, follows_later follows sound later, waits⟩
  | answered call reply resume =>
      rw [stage] at good
      obtain ⟨asked, follows, waits, fetched⟩ := good
      refine ⟨asked, follows_later follows sound later, waits, ?_⟩
      intro copy grant brings
      exact (fetched copy grant brings).later follows.2 later sound.few
  | done outcome =>
      rw [stage] at good
      exact CacheAct.Ends.mono good fun copy seen => Course.Seen.later seen later

/-- An operation has gone on in its seat, and a moment has passed. -/
theorem good_of_upholds {i : Nat} {act : CacheAct} {heard : List Answer} {p : Progress Outcome}
    (upholds : p.Upholds (terms i) (act.Ends (terms i) begun) heard x) :
    let x' := x.next (x.deployment.putBack i p.handover) fun _ => 0
    x'.Sound ∧ x.Later x' ∧ Good { seat := i, act, heard, stage := p.stage } begun x' := by
  intro x'
  let y : Course := { x with deployment := x.deployment.putBack i p.handover }
  have ticks : (terms i).Follows x y → (terms i).Follows y x' := by
    intro follows
    have moves := follows.1.1.moves_refl
    have sound : x'.Sound := moves.sound follows.1.1 follows.1.1.few
    exact ⟨⟨sound, follows.1.2⟩, moves.later⟩
  cases p with
  | finished outcome w =>
      obtain ⟨follows, ends⟩ := upholds
      have tick := ticks follows
      refine ⟨tick.1.1, Course.Later.trans follows.2 tick.2, ?_⟩
      exact CacheAct.Ends.mono ends fun copy seen => Course.Seen.later seen tick.2
  | waiting call w resume =>
      obtain ⟨follows, -, goesOn⟩ := upholds
      have tick := ticks follows
      exact ⟨tick.1.1, Course.Later.trans follows.2 tick.2, y, tick, goesOn⟩

end Errand

/-- An answer is found in the deployment. -/
theorem Course.Sound.reply {x : Course} (sound : x.Sound) (i : Nat) (call : Outcall) :
    let (reply, dep) := x.deployment.reply i call
    let x' := x.next dep fun index => x.deployment.replyTurns index call
    (∀ index, x'.turns index < 2 ^ 64) → x'.Sound ∧ x.Later x' ∧
      ∀ copy grant, Answer.brings ⟨call, reply⟩ = some (copy, grant) → x.Fetched copy grant x' := by
  cases call with
  | notify event =>
      intro few
      have moves := sound.moves_refl
      exact ⟨moves.sound sound few, moves.later, fun _ _ brings => nomatch brings⟩
  | resolve uri caller =>
      intro few
      have moves := sound.moves_resolve i
      exact ⟨moves.sound sound few, moves.later, fun _ _ brings => nomatch brings⟩
  | store store call =>
      intro few
      obtain ⟨serves, sole, seats, stores⟩ := sound.callStore_serves store call
      have moves := sound.moves_of_serves serves sole seats stores
      exact ⟨moves.sound sound few, moves.later, fun copy grant brings =>
        sound.fetched_of_serves serves moves few brings⟩

/-! ## Moments of a run -/

namespace System

/-- A run up to the moment after `t` moves. -/
def course (start : System) (moves : Nat → Move) (t : Nat) : Course where
  deployment := (start.after moves t).deployment
  turns := start.turns moves t
  past := (List.range (t + 1)).map (start.entries moves)

theorem course_succ (start : System) (moves : Nat → Move) (t : Nat) :
    start.course moves (t + 1) =
      (start.course moves t).next (start.after moves (t + 1)).deployment
        fun index => (start.after moves t).turnsOf index (moves t) := by
  unfold course Course.next
  rw [List.range_succ, List.map_append]
  rfl

theorem turns_mono (start : System) (moves : Nat → Move) (index : Nat) {t t' : Nat}
    (before : t ≤ t') : start.turns moves t index ≤ start.turns moves t' index := by
  induction before with
  | refl => exact Nat.le_refl _
  | step _ ih => exact Nat.le_trans ih (Nat.le_add_right _ _)

/-- At moment `t` the course is sound, and every errand is in order with its beginning. -/
structure Orderly (start : System) (moves : Nat → Move) (t : Nat) : Prop where
  sound : (start.course moves t).Sound
  errands : ∀ (n : Nat) (e : Errand), (start.after moves t).errands[n]? = some e →
    ∃ begun, begun < t ∧ moves begun = .start e.seat e.act ∧
      (start.after moves begun).errands.length = n ∧
        e.Good (start.course moves begun) (start.course moves t)

variable {start : System} {moves : Nat → Move} {t : Nat}

/-- A move is in order if the course is, and if every errand that it touches is. -/
theorem Orderly.next (orderly : Orderly start moves t)
    (sound : (start.course moves (t + 1)).Sound)
    (later : (start.course moves t).Later (start.course moves (t + 1)))
    (touched : ∀ (n : Nat) (e : Errand), (start.after moves (t + 1)).errands[n]? = some e →
      (start.after moves t).errands[n]? = some e ∨
      ∃ begun, begun < t + 1 ∧ moves begun = .start e.seat e.act ∧
        (start.after moves begun).errands.length = n ∧
          e.Good (start.course moves begun) (start.course moves (t + 1))) :
    Orderly start moves (t + 1) where
  sound := sound
  errands n e known := by
    rcases touched n e known with old | new
    · obtain ⟨begun, before, started, number, good⟩ := orderly.errands n e old
      exact ⟨begun, Nat.lt_succ_of_lt before, started, number, good.later sound later⟩
    · exact new

/-- What others do touches no errand. -/
theorem Orderly.outside (orderly : Orderly start moves t)
    (few : ∀ index, start.turns moves (t + 1) index < 2 ^ 64)
    (same : (start.after moves (t + 1)).errands = (start.after moves t).errands)
    (passes : (start.course moves t).Moves (start.after moves (t + 1)).deployment
      fun index => (start.after moves t).turnsOf index (moves t)) :
    Orderly start moves (t + 1) := by
  have next := course_succ start moves t
  have bounded : ∀ index, (start.course moves (t + 1)).turns index < 2 ^ 64 := few
  rw [next] at bounded
  apply orderly.next
  · rw [next]
    exact passes.sound orderly.sound bounded
  · rw [next]
    exact passes.later
  · intro n e known
    rw [same] at known
    exact Or.inl known

/-- A move that does nothing. -/
theorem Orderly.idle (orderly : Orderly start moves t)
    (few : ∀ index, start.turns moves (t + 1) index < 2 ^ 64)
    (same : start.after moves (t + 1) = start.after moves t)
    (still : ∀ index, (start.after moves t).turnsOf index (moves t) = 0) :
    Orderly start moves (t + 1) := by
  apply orderly.outside few
  · rw [same]
  · rw [same, funext still]
    exact orderly.sound.moves_refl

/-! ### Each kind of move -/

theorem getElem?_snoc {α : Type} {l : List α} {a e : α} {n : Nat}
    (found : (l ++ [a])[n]? = some e) : l[n]? = some e ∨ n = l.length ∧ e = a := by
  by_cases inside : n < l.length
  · rw [List.getElem?_append_left inside] at found
    exact Or.inl found
  · rw [List.getElem?_append_right (by omega), List.getElem?_singleton] at found
    split at found
    · next last =>
      cases found
      exact Or.inr ⟨by omega, rfl⟩
    · cases found

theorem getElem?_replaced {α : Type} {l : List α} {a e : α} {n m : Nat}
    (found : (l.set n a)[m]? = some e) : l[m]? = some e ∨ m = n ∧ e = a := by
  rw [List.getElem?_set] at found
  split at found
  · next here =>
    split at found
    · cases found
      exact Or.inr ⟨here.symm, rfl⟩
    · cases found
  · exact Or.inl found

/-- A cache is told to act. -/
theorem Orderly.begin (orderly : Orderly start moves t) {i : Nat} {act : CacheAct}
    (move : moves t = .start i act) : Orderly start moves (t + 1) := by
  have sound := orderly.sound
  let p := (start.after moves t).deployment.begin i act
  have stepped : start.after moves (t + 1) =
      { deployment := (start.after moves t).deployment.putBack i p.handover
        errands := (start.after moves t).errands ++ [{ seat := i, act, stage := p.stage }] } := by
    simp only [after, move, step, p]
  have next : start.course moves (t + 1) = (start.course moves t).next
      ((start.course moves t).deployment.putBack i p.handover) fun _ => 0 := by
    rw [course_succ, stepped, move]
    rfl
  have begins : (start.course moves (t + 1)).Sound ∧
      (start.course moves t).Later (start.course moves (t + 1)) ∧
      Errand.Good { seat := i, act, stage := p.stage } (start.course moves t)
        (start.course moves (t + 1)) := by
    rw [next]
    cases known : (start.after moves t).deployment.seats[i]? with
    | none =>
        have nothing : p = .finished .inapplicable
            ((start.course moves t).deployment.workspace i) := by
          simp only [p, Deployment.begin, known]
          rfl
        have passes := sound.moves_refl
        rw [nothing, Progress.handover, Deployment.putBack_workspace]
        refine ⟨passes.sound sound sound.few, passes.later, ?_⟩
        cases act <;> trivial
    | some seat =>
        have operation : p = act.operation seat.cache
            ((start.after moves t).deployment.workspace i) := by
          simp only [p, Deployment.begin, known]
        have inside : i < (start.course moves t).deployment.seats.size :=
          (Array.getElem?_eq_some_iff.mp known).1
        have upholds := act.operation_meets (c := seat.cache) (r := terms i) (start.course moves t) []
          (start.course moves t) ⟨sound, inside⟩ ⟨Course.Later.refl _, fun _ _ => id⟩
        rw [operation]
        exact Errand.good_of_upholds upholds
  obtain ⟨sound', later, good⟩ := begins
  apply orderly.next sound' later
  intro n e found
  rw [stepped] at found
  rcases getElem?_snoc found with old | ⟨rfl, rfl⟩
  · exact Or.inl old
  · exact Or.inr ⟨t, Nat.lt_succ_self t, move, rfl, good⟩

/-- An errand's call is answered. -/
theorem Orderly.answer (orderly : Orderly start moves t)
    (few : ∀ index, start.turns moves (t + 1) index < 2 ^ 64) {n i : Nat} {act : CacheAct}
    {heard : List Answer} {call : Outcall} {resume : call.Reply → Workspace → Progress Outcome}
    (move : moves t = .answer n)
    (known : (start.after moves t).errands[n]? =
      some { seat := i, act, heard, stage := .asking call resume }) :
    Orderly start moves (t + 1) := by
  have sound := orderly.sound
  have stepped : start.after moves (t + 1) =
      { deployment := ((start.after moves t).deployment.reply i call).2
        errands := (start.after moves t).errands.set n
          { seat := i, act, heard
            stage := .answered call ((start.after moves t).deployment.reply i call).1 resume } } := by
    rw [after, move, step_answer known]
  have next : start.course moves (t + 1) = (start.course moves t).next
      ((start.course moves t).deployment.reply i call).2
      fun index => (start.course moves t).deployment.replyTurns index call := by
    rw [course_succ, stepped, move]
    simp only [turnsOf, known]
    rfl
  have bounded : ∀ index, (start.course moves (t + 1)).turns index < 2 ^ 64 := few
  rw [next] at bounded
  obtain ⟨sound', later, fetched⟩ := sound.reply i call bounded
  apply orderly.next
  · rw [next]
    exact sound'
  · rw [next]
    exact later
  · intro m e found
    rw [stepped] at found
    rcases getElem?_replaced found with old | ⟨rfl, rfl⟩
    · exact Or.inl old
    · obtain ⟨begun, before, started, number, asked, follows, waits⟩ := orderly.errands _ _ known
      refine Or.inr ⟨begun, Nat.lt_succ_of_lt before, started, number, ?_⟩
      rw [next]
      refine ⟨asked, Errand.follows_later follows sound' later, waits, ?_⟩
      intro copy grant brings
      exact (fetched copy grant brings).earlier follows.2 later

/-- An errand goes on with its answer. -/
theorem Orderly.resume (orderly : Orderly start moves t) {n i : Nat} {act : CacheAct}
    {heard : List Answer} {call : Outcall} {reply : call.Reply}
    {resume : call.Reply → Workspace → Progress Outcome} (move : moves t = .resume n)
    (known : (start.after moves t).errands[n]? =
      some { seat := i, act, heard, stage := .answered call reply resume }) :
    Orderly start moves (t + 1) := by
  let p := resume reply ((start.after moves t).deployment.workspace i)
  have stepped : start.after moves (t + 1) =
      { deployment := (start.after moves t).deployment.putBack i p.handover
        errands := (start.after moves t).errands.set n
          { seat := i, act, heard := heard ++ [⟨call, reply⟩], stage := p.stage } } := by
    rw [after, move, step_resume known]
  have next : start.course moves (t + 1) = (start.course moves t).next
      ((start.course moves t).deployment.putBack i p.handover) fun _ => 0 := by
    rw [course_succ, stepped, move]
    rfl
  obtain ⟨begun, before, started, number, asked, follows, waits, fetched⟩ :=
    orderly.errands n _ known
  have told : (terms i).Told asked ⟨call, reply⟩ (start.course moves t) := by
    intro copy grant brings
    exact (fetched copy grant brings).brought follows.2 orderly.sound.few i
  have upholds := waits reply (start.course moves t) follows told
  obtain ⟨sound', later, good⟩ := Errand.good_of_upholds upholds
  apply orderly.next
  · rw [next]
    exact sound'
  · rw [next]
    exact later
  · intro m e found
    rw [stepped] at found
    rcases getElem?_replaced found with old | ⟨rfl, rfl⟩
    · exact Or.inl old
    · refine Or.inr ⟨begun, Nat.lt_succ_of_lt before, started, number, ?_⟩
      rw [next]
      exact good

theorem Orderly.onAnswer (orderly : Orderly start moves t)
    (few : ∀ index, start.turns moves (t + 1) index < 2 ^ 64) {n : Nat}
    (move : moves t = .answer n) : Orderly start moves (t + 1) := by
  cases known : (start.after moves t).errands[n]? with
  | none =>
      apply orderly.idle few
      · simp only [after, move, step, known]
      · simp only [move, turnsOf, known, implies_true]
  | some e =>
      obtain ⟨i, act, heard, stage⟩ := e
      cases stage with
      | asking call resume => exact orderly.answer few move known
      | answered | done =>
          apply orderly.idle few
          · simp only [after, move, step, known]
          · simp only [move, turnsOf, known, implies_true]

theorem Orderly.onResume (orderly : Orderly start moves t)
    (few : ∀ index, start.turns moves (t + 1) index < 2 ^ 64) {n : Nat}
    (move : moves t = .resume n) : Orderly start moves (t + 1) := by
  have still : ∀ index, (start.after moves t).turnsOf index (moves t) = 0 := by
    simp only [move, turnsOf, implies_true]
  cases known : (start.after moves t).errands[n]? with
  | none =>
      apply orderly.idle few ?_ still
      simp only [after, move, step, known]
  | some e =>
      obtain ⟨i, act, heard, stage⟩ := e
      cases stage with
      | answered call reply resume => exact orderly.resume move known
      | asking | done =>
          apply orderly.idle few ?_ still
          simp only [after, move, step, known]

theorem Orderly.onBehind (orderly : Orderly start moves t)
    (few : ∀ index, start.turns moves (t + 1) index < 2 ^ 64) {store : StoreId} {call : StoreCall}
    (move : moves t = .behind store call) : Orderly start moves (t + 1) := by
  have sound := orderly.sound
  cases known : (start.after moves t).deployment.authority? store with
  | none =>
      apply orderly.idle few
      · simp only [after, move, step, known]
      · simp only [move, turnsOf, Deployment.behindTurns, known, implies_true]
  | some a =>
      have only : a = 0 := sound.authority_eq_zero known
      subst only
      obtain ⟨serves, sole, seats, stores⟩ := sound.callAuthority_serves store call
      have passes := sound.moves_of_serves serves sole seats stores
      apply orderly.outside few
      · simp only [after, move, step, known]
      · simp only [after, move, step, turnsOf, Deployment.behindTurns, known]
        exact passes

/-- A move on a front does nothing to a store of another kind. -/
theorem Orderly.onFront (orderly : Orderly start moves t)
    (few : ∀ index, start.turns moves (t + 1) index < 2 ^ 64) {store : StoreId} {move : Move}
    (moved : moves t = move)
    (front : (∃ change, move = .switch store change) ∨ move = .breakHandedOut store) :
    Orderly start moves (t + 1) := by
  have sound := orderly.sound
  have still : ∀ index, (start.after moves t).turnsOf index (moves t) = 0 := by
    intro index
    rcases front with ⟨change, rfl⟩ | rfl <;> rw [moved] <;> rfl
  cases known : (start.after moves t).deployment.stores[store]? with
  | none =>
      apply orderly.idle few ?_ still
      rcases front with ⟨change, rfl⟩ | rfl <;> simp only [after, moved, step, known]
  | some st =>
      cases st with
      | plain | replay =>
          apply orderly.idle few ?_ still
          rcases front with ⟨change, rfl⟩ | rfl <;> simp only [after, moved, step, known]
      | flaky front' a =>
          rcases front with ⟨change, rfl⟩ | rfl
          · apply orderly.outside few
            · simp only [after, moved, step, known]
            · simp only [after, moved, step, known, turnsOf]
              exact sound.moves_switch known _
          · apply orderly.outside few
            · simp only [after, moved, step, known]
            · simp only [after, moved, step, known, turnsOf]
              exact sound.moves_break known

/-- Every move keeps the run in order. -/
theorem Orderly.step (orderly : Orderly start moves t)
    (few : ∀ index, start.turns moves (t + 1) index < 2 ^ 64) : Orderly start moves (t + 1) := by
  have sound := orderly.sound
  cases move : moves t with
  | start i act => exact orderly.begin move
  | answer n => exact orderly.onAnswer few move
  | resume n => exact orderly.onResume few move
  | behind store call => exact orderly.onBehind few move
  | switch store change => exact orderly.onFront few move (Or.inl ⟨change, rfl⟩)
  | breakHandedOut store => exact orderly.onFront few move (Or.inr rfl)
  | call store call =>
      obtain ⟨serves, sole, seats, stores⟩ := sound.callStore_serves store call
      have passes := sound.moves_of_serves serves sole seats stores
      apply orderly.outside few
      · simp only [after, move, System.step]
      · simp only [after, move, System.step, turnsOf]
        exact passes
  | collect =>
      apply orderly.outside few
      · simp only [after, move, System.step]
      · simp only [after, move, System.step, turnsOf]
        exact sound.moves_collect

/-! ### From the beginning -/

variable {capacity : Nat} {transfer : Transfer} {defaults : Std.ExtTreeMap String String}

theorem sound_of_new (new : start.deployment.New capacity transfer defaults)
    (moves : Nat → Move) : (start.course moves 0).Sound := by
  have sole : (start.course moves 0).authority =
      (Authority.create capacity transfer defaults {}).1 :=
    Course.sole_of_authorities new.authority
  have slots : (start.course moves 0).slots =
      (Authority.create capacity transfer defaults {}).2.slots := congrArg Shared.slots new.shared
  have backing : (start.course moves 0).backing =
      (Authority.create capacity transfer defaults {}).1.registry.backing := by
    rw [Course.backing, sole]
  refine
    { sole := by rw [sole]; exact new.authority
      registry := by rw [sole, slots]; exact Authority.create_sound _ _ _ _
      isOpen := fun _ => by rw [slots, backing]; rfl
      counted := ?_
      few := fun _ => Nat.two_pow_pos 64
      stores := ?_
      kept := ?_
      now := rfl }
  · intro i generation held
    rw [slots, backing] at held
    change (Array.replicate capacity (0 : Int64))[i]? = some generation at held
    rw [Array.getElem?_replicate] at held
    split at held
    · cases held
      rfl
    · cases held
  · intro id store held
    rcases new.stores id store held with rfl | ⟨switches, rfl⟩
    · rfl
    · exact ⟨rfl, fun _ v member => nomatch member⟩
  · intro i
    have empty : ((start.course moves 0).deployment.workspace i).copies = {} := by
      unfold Deployment.workspace
      cases known : (start.course moves 0).deployment.seats[i]? with
      | none => rfl
      | some seat => exact (new.seats i seat known).1
    rw [empty]
    exact .empty

/-- As long as no counter has come round, a run is in order. -/
theorem orderly (new : start.deployment.New capacity transfer defaults)
    (idle : start.errands = []) (few : ∀ index, start.turns moves t index < 2 ^ 64) :
    Orderly start moves t := by
  induction t with
  | zero =>
      refine ⟨sound_of_new new moves, ?_⟩
      intro n e known
      have none : (start.after moves 0).errands = [] := idle
      rw [none] at known
      cases known
  | succ t ih =>
      have earlier : ∀ index, start.turns moves t index < 2 ^ 64 := by
        intro index
        exact Nat.lt_of_le_of_lt (turns_mono start moves index (Nat.le_succ t)) (few index)
      exact (ih earlier).step few

end System

/-! ## Errands over a run -/

/-- What a move can make of an errand. -/
inductive Errand.Goes : Errand → Errand → Prop where
  | rests (e : Errand) : Goes e e
  | answered {i : Nat} {act : CacheAct} {heard : List Answer} {call : Outcall}
      {resume : call.Reply → Workspace → Progress Outcome} (reply : call.Reply) :
      Goes { seat := i, act, heard, stage := .asking call resume }
        { seat := i, act, heard, stage := .answered call reply resume }
  | resumed {i : Nat} {act : CacheAct} {heard : List Answer} {call : Outcall} {reply : call.Reply}
      {resume : call.Reply → Workspace → Progress Outcome} (w : Workspace) :
      Goes { seat := i, act, heard, stage := .answered call reply resume }
        { seat := i, act, heard := heard ++ [⟨call, reply⟩], stage := (resume reply w).stage }

namespace System

variable {start : System} {moves : Nat → Move} {t : Nat}

theorem errand_replaced {errands : List Errand} {e e' known : Errand} {n m : Nat}
    (here : errands[m]? = some e) (goes : e.Goes e') (old : errands[n]? = some known) :
    ∃ e'', (errands.set m e')[n]? = some e'' ∧ known.Goes e'' := by
  by_cases same : m = n
  · subst same
    rw [here] at old
    cases old
    have inside := (List.getElem?_eq_some_iff.mp here).1
    exact ⟨e', by rw [List.getElem?_set_self inside], goes⟩
  · exact ⟨known, by rw [List.getElem?_set_ne same]; exact old, .rests known⟩

/-- Errands keep their numbers. -/
theorem errand_goes {n : Nat} {e : Errand} (known : (start.after moves t).errands[n]? = some e) :
    ∃ e', (start.after moves (t + 1)).errands[n]? = some e' ∧ e.Goes e' := by
  have appended : ∀ added, ((start.after moves t).errands ++ [added])[n]? = some e := by
    intro added
    rw [List.getElem?_append_left (List.getElem?_eq_some_iff.mp known).1]
    exact known
  unfold after System.step
  split
  · exact ⟨e, appended _, .rests e⟩
  · split
    · next here => exact errand_replaced here (.answered _) known
    · exact ⟨e, known, .rests e⟩
  · split
    · next here => exact errand_replaced here (.resumed _) known
    · exact ⟨e, known, .rests e⟩
  · exact ⟨e, known, .rests e⟩
  · split
    · exact ⟨e, known, .rests e⟩
    · exact ⟨e, known, .rests e⟩
  · split
    · exact ⟨e, known, .rests e⟩
    · exact ⟨e, known, .rests e⟩
  · split
    · exact ⟨e, known, .rests e⟩
    · exact ⟨e, known, .rests e⟩
  · exact ⟨e, known, .rests e⟩

theorem length_errands_mono (start : System) (moves : Nat → Move) {t t' : Nat} (before : t ≤ t') :
    (start.after moves t).errands.length ≤ (start.after moves t').errands.length := by
  induction before with
  | refl => exact Nat.le_refl _
  | @step t' _ ih =>
      apply Nat.le_trans ih
      apply Nat.le_of_not_lt
      intro fewer
      obtain ⟨e', known, -⟩ := errand_goes (List.getElem?_eq_getElem fewer)
      exact absurd (List.getElem?_eq_some_iff.mp known).1 (Nat.lt_irrefl _)

theorem length_errands_succ (start : System) {i : Nat} {act : CacheAct}
    (move : moves t = .start i act) :
    (start.after moves (t + 1)).errands.length = (start.after moves t).errands.length + 1 := by
  simp only [after, move, System.step]
  exact List.length_append

/-- An errand has begun at one moment only. -/
theorem begun_unique {t' i i' : Nat} {act act' : CacheAct} (move : moves t = .start i act)
    (move' : moves t' = .start i' act')
    (same : (start.after moves t).errands.length = (start.after moves t').errands.length) :
    t = t' := by
  have later := length_errands_succ start move
  have later' := length_errands_succ start move'
  rcases Nat.lt_trichotomy t t' with less | equal | more
  · have before : t + 1 ≤ t' := less
    have mono := length_errands_mono start moves before
    omega
  · exact equal
  · have before : t' + 1 ≤ t := more
    have mono := length_errands_mono start moves before
    omega

/-- What is known of an errand at any moment. -/
theorem errand_good {capacity : Nat} {transfer : Transfer}
    {defaults : Std.ExtTreeMap String String}
    (new : start.deployment.New capacity transfer defaults) (idle : start.errands = [])
    (few : ∀ index, start.turns moves t index < 2 ^ 64) {begun i : Nat} {act : CacheAct}
    (begins : moves begun = .start i act) {e : Errand}
    (known : (start.after moves t).errands[(start.after moves begun).errands.length]? = some e) :
    begun < t ∧ e.act = act ∧ e.Good (start.course moves begun) (start.course moves t) := by
  obtain ⟨begun', before, begins', number, good⟩ := (orderly new idle few).errands _ e known
  have same := begun_unique begins' begins number
  subst same
  rw [begins] at begins'
  cases begins'
  exact ⟨before, rfl, good⟩

end System

end TrackedSettings
