import TrackedSettings.Proofs.Acts

/-! # Hits

A read tells its observer of a hit only after its very first step has found a copy under a current
tracker, and then it answers with that copy. All that it does after a look at the store is hitless.
-/

namespace TrackedSettings

open Operation

/-! ## Operations on their way -/

/-- The operation `p` in progress can have heard these answers, and then `q` is left of it. -/
inductive Progress.Leads {α : Type} (p : Progress α) : List Answer → Progress α → Prop where
  | here : p.Leads [] p
  | heard {heard : List Answer} {call : Outcall} {w : Workspace}
      {resume : call.Reply → Workspace → Progress α}
      (before : p.Leads heard (.waiting call w resume)) (reply : call.Reply) (w' : Workspace) :
      p.Leads (heard ++ [⟨call, reply⟩]) (resume reply w')

theorem Progress.Leads.of_finished {α : Type} {a : α} {w : Workspace} {heard : List Answer}
    {q : Progress α} (leads : (Progress.finished a w).Leads heard q) : q = .finished a w := by
  induction leads with
  | here => rfl
  | heard _ _ _ ih => cases ih

/-- Whatever a mapped operation comes to, the operation itself comes to. -/
theorem Progress.Leads.of_map {α β : Type} {f : α → β} {p : Progress α} {heard : List Answer}
    {q : Progress β} (leads : (p.andThen fun a w => .finished (f a) w).Leads heard q) :
    ∃ q', p.Leads heard q' ∧ q = q'.andThen fun a w => .finished (f a) w := by
  induction leads with
  | here => exact ⟨p, .here, rfl⟩
  | heard _ reply w' ih =>
      obtain ⟨q', leads, same⟩ := ih
      cases q' with
      | finished a w => cases same
      | waiting call w resume =>
          cases same
          exact ⟨_, leads.heard reply w', rfl⟩

theorem Operation.finished_of_map {α β : Type} {f : α → β} {op : Operation α} {w w' : Workspace}
    {heard : List Answer} {b : β} (leads : ((f <$> op) w).Leads heard (.finished b w')) :
    ∃ a, f a = b ∧ (op w).Leads heard (.finished a w') := by
  obtain ⟨q, leads, same⟩ := Progress.Leads.of_map leads
  cases q with
  | finished a w =>
      cases same
      exact ⟨a, rfl, leads⟩
  | waiting call w resume => cases same

/-- After the reply to its only call an operation is over. -/
theorem Progress.Leads.once {α : Type} {call : Outcall} {w : Workspace} {a : α}
    {resume : call.Reply → Workspace → Progress α} {heard : List Answer} {q : Progress α}
    (ends : ∀ reply w, resume reply w = .finished a w)
    (leads : (Progress.waiting call w resume).Leads heard q) :
    q = .waiting call w resume ∨ ∃ w, q = .finished a w := by
  induction leads with
  | here => exact Or.inl rfl
  | heard _ reply w' ih =>
      rcases ih with same | ⟨w, same⟩
      · cases same
        exact Or.inr ⟨w', ends reply w'⟩
      · cases same

/-! ## Without a hit -/

/-- The observer is told of a hit. -/
def Outcall.tellsHit : Outcall → Bool
  | .notify (.hit _) => true
  | _ => false

/-- No hit is told from here on, and the operation ends as `ends` says. -/
def Progress.Hitless {α : Type} (ends : α → Prop) : Progress α → Prop
  | finished a _ => ends a
  | waiting call _ resume => call.tellsHit = false ∧ ∀ reply w, (resume reply w).Hitless ends

/-- The operation never tells of a hit. -/
def Operation.Hitless {α : Type} (op : Operation α) : Prop :=
  ∀ w, (op w).Hitless fun _ => True

namespace Progress.Hitless

variable {α β : Type} {ends : α → Prop} {p q : Progress α}

theorem leads {heard : List Answer} (hitless : p.Hitless ends) (leads : p.Leads heard q) :
    q.Hitless ends ∧ ∀ a ∈ heard, a.call.tellsHit = false := by
  induction leads with
  | here => exact ⟨hitless, fun _ none => nomatch none⟩
  | heard _ reply w' ih =>
      obtain ⟨⟨other, goesOn⟩, before⟩ := ih
      refine ⟨goesOn reply w', ?_⟩
      intro a member
      rcases List.mem_append.mp member with old | new
      · exact before a old
      · rw [List.mem_singleton.mp new]
        exact other

theorem andThen {ends' : β → Prop} {next : α → Operation β} (first : p.Hitless ends)
    (second : ∀ a, ends a → ∀ w, (next a w).Hitless ends') : (p.andThen next).Hitless ends' := by
  induction p with
  | finished a w => exact second a first w
  | waiting call w resume ih => exact ⟨first.1, fun reply w' => ih reply w' (first.2 reply w')⟩

end Progress.Hitless

namespace Operation

variable {α β : Type}

theorem Hitless.bind {op : Operation α} {next : α → Operation β} (first : op.Hitless)
    (second : ∀ a, (next a).Hitless) : (op >>= next).Hitless :=
  fun w => (first w).andThen fun a _ => second a

theorem hitless_pure (a : α) : (pure a : Operation α).Hitless :=
  fun _ => trivial

theorem hitless_locked (step : Workspace → α × Workspace) : (locked step).Hitless :=
  fun _ => trivial

theorem hitless_change (step : Workspace → Workspace) : (change step).Hitless :=
  fun _ => trivial

theorem hitless_ask {call : Outcall} (other : call.tellsHit = false) : (ask call).Hitless :=
  fun _ => ⟨other, fun _ _ => trivial⟩

end Operation

namespace Cache

variable (c : Cache)

theorem hitless_note (level : Level) (text : String) : (c.note level text).Hitless :=
  hitless_change _

theorem hitless_remoteError (topic : Topic) (fault : Fault) : (c.remoteError topic fault).Hitless :=
  (c.hitless_note _ _).bind fun _ => hitless_ask rfl

theorem hitless_report (topic : Topic) (verdict : Verdict) : (c.report topic verdict).Hitless := by
  cases verdict with
  | moved => exact (c.hitless_note _ _).bind fun _ => hitless_ask rfl
  | broken e => exact hitless_ask rfl
  | current | absent => exact hitless_pure _

theorem hitless_provider (caller : Caller) : (c.provider caller).Hitless := by
  refine (hitless_locked _).bind fun known => ?_
  cases known with
  | some store => exact hitless_pure _
  | none =>
      refine (hitless_change _).bind fun _ => (hitless_ask rfl).bind fun reply => ?_
      cases reply with
      | ok store => exact (hitless_change _).bind fun _ => hitless_pure _
      | error e => exact hitless_pure _

theorem hitless_saveGranted (topic : Topic) (g : Grant) (save : Workspace → Workspace) :
    (c.saveGranted topic g save).Hitless := by
  refine (hitless_locked _).bind fun verdict => ?_
  cases verdict with
  | moved => exact c.hitless_note _ _
  | broken e => exact hitless_ask rfl
  | current | absent => exact hitless_pure _

theorem hitless_saveVouched (topic : Topic) (generation : Int64) (save : Workspace → Workspace) :
    (c.saveVouched topic generation save).Hitless :=
  (hitless_locked _).bind fun verdict => c.hitless_report topic verdict

theorem hitless_receive (topic : Topic) (footing : Footing) (grant : Option Grant)
    (save : Workspace → Workspace) : (c.receive topic footing grant save).Hitless := by
  cases grant with
  | none =>
      cases footing with
      | vouched generation => exact c.hitless_saveVouched topic generation save
      | untracked | outside => exact hitless_pure _
  | some g =>
      cases footing with
      | vouched | untracked => exact c.hitless_saveGranted topic g save
      | outside => exact hitless_change _

theorem hitless_queryValue (store : StoreId) (key : String) (user : UserId) (footing : Footing) :
    (c.queryValue store key user footing).Hitless := by
  refine (hitless_ask rfl).bind fun reply => ?_
  cases reply with
  | ok v =>
      cases footing with
      | vouched generation =>
          exact (c.hitless_saveVouched _ generation _).bind fun _ => hitless_pure _
      | untracked | outside => exact (hitless_pure _).bind fun _ => hitless_pure _
  | error e => exact (c.hitless_remoteError _ _).bind fun _ => hitless_pure _

theorem hitless_fetchValue (key : String) (user : UserId) (footing : Footing) :
    (c.fetchValue key user footing).Hitless := by
  refine (c.hitless_provider _).bind fun found => ?_
  cases found with
  | error fault => exact (c.hitless_remoteError _ _).bind fun _ => hitless_pure _
  | ok store =>
      refine (hitless_ask rfl).bind fun _ => (hitless_ask rfl).bind fun reply => ?_
      cases reply with
      | error e =>
          exact (c.hitless_remoteError _ _).bind fun _ =>
            c.hitless_queryValue store key user footing
      | ok found =>
          cases found with
          | none =>
              exact (c.hitless_note _ _).bind fun _ => c.hitless_queryValue store key user footing
          | some reading =>
              exact (c.hitless_receive _ footing reading.grant _).bind fun _ => hitless_pure _

/-! ## With a hit -/

/-- Either a copy answers a read at once, or the store has to be asked. -/
theorem standing_cases {α : Type} (keeps : Bool) (topic : Topic) (look : Copies → Option α)
    (w : Workspace) :
    (∃ data t, w.Current topic t ∧ look w.copies = some data ∧
      c.standing keeps topic look w = .finished (.answered data) w) ∨
    (c.standing keeps topic look w).Hitless fun standing =>
      ∃ footing, standing = .pending footing := by
  cases keeps with
  | false => exact Or.inr ⟨.outside, rfl⟩
  | true =>
      have consulted := w.consult_looked topic look
      unfold standing
      simp only [↓reduceIte, bind_apply, locked_apply]
      generalize w.consult topic look = result at consulted ⊢
      obtain ⟨⟨verdict, data⟩, w'⟩ := result
      obtain ⟨looked, same⟩ := consulted
      cases verdict with
      | current generation =>
          cases data with
          | some data =>
              cases looked with
              | current current => exact Or.inl ⟨data, _, current, same.symm, rfl⟩
          | none => exact Or.inr ⟨_, rfl⟩
      | absent => exact Or.inr ⟨_, rfl⟩
      | moved | broken e =>
          exact Or.inr ((c.hitless_report topic _ w').andThen fun _ _ _ => ⟨_, rfl⟩)

/-- A read of a key that tells of a hit answers with the copy that it found under a current tracker
when it began. -/
theorem value_of_hit {key : String} {user : UserId} {w w' : Workspace} {heard : List Answer}
    {result : Except Fault Value}
    (leads : (c.value key user w).Leads heard (.finished result w'))
    (hit : ∃ a ∈ heard, a.call.tellsHit = true) :
    ∃ v t, result = .ok v ∧ w.Current (.key key) t ∧ w.copies.values[key]? = some v := by
  let noted := c.jot .debug s!"GET({key})" w
  rcases c.standing_cases (c.keepsFor user) (.key key) (·.values[key]?) noted with
    ⟨v, t, current, found, same⟩ | pending
  · unfold value at leads
    change Progress.Leads (Progress.andThen _ (c.standing (c.keepsFor user) (.key key)
      (·.values[key]?) noted)) _ _ at leads
    rw [same] at leads
    rcases Progress.Leads.once (fun _ _ => rfl) leads with impossible | ⟨_, ended⟩
    · cases impossible
    · cases ended
      exact ⟨v, t, rfl, current, found⟩
  · have hitless : (c.value key user w).Hitless fun _ => True := by
      unfold value
      change (Progress.andThen _ (c.standing (c.keepsFor user) (.key key)
        (·.values[key]?) noted)).Hitless _
      apply pending.andThen
      intro _ asks
      obtain ⟨footing, rfl⟩ := asks
      cases readable : c.access.readable key c.caller with
      | true =>
          simp only [↓reduceIte]
          rw [map_eq_pure_bind]
          exact (c.hitless_fetchValue key user footing).bind fun _ => hitless_pure _
      | false => exact hitless_pure _
    obtain ⟨a, member, told⟩ := hit
    have none := (hitless.leads leads).2 a member
    rw [told] at none
    cases none

end Cache

end TrackedSettings
