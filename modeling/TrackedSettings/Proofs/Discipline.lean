import TrackedSettings.Proofs.Conduct

/-! # Every operation conducts itself

An operation is a row of stretches, each of which begins with the answer to a call and with whatever
workspace there is by then. All stretches of all that a cache can be told to do are in keeping with
`Workspace.Conduct`, and a read keeps what came without a grant only if the generation that it found
current in its first stretch is current still.
-/

namespace TrackedSettings

/-- Every stretch of the operation conducts itself, and it ends as `ends` says. -/
def Progress.Conducts {α : Type} (r : Remit) (ends : α → Prop) :
    Progress α → Option Answer → Workspace → Prop
  | finished a w', last, w => w.Conduct r last w' ∧ ends a
  | waiting call w' resume, last, w => w.Conduct r last w' ∧
      ∀ reply w'', (resume reply w'').Conducts r ends (some ⟨call, reply⟩) w''

/-- Whatever workspace the operation is given after the answer `last`, it conducts itself. -/
def Operation.Conducts {α : Type} (r : Remit) (last : Option Answer) (op : Operation α)
    (ends : α → Prop) : Prop :=
  ∀ w, (op w).Conducts r ends last w

namespace Progress.Conducts

variable {α β : Type} {r : Remit} {last : Option Answer} {w w' : Workspace} {ends : α → Prop}
  {p : Progress α}

theorem rebase (first : w.Conduct r last w') (conducts : p.Conducts r ends none w') :
    p.Conducts r ends last w := by
  cases p with
  | finished a w'' => exact ⟨first.trans conducts.1, conducts.2⟩
  | waiting call w'' resume => exact ⟨first.trans conducts.1, conducts.2⟩

theorem andThen {ends' : β → Prop} {next : α → Operation β} (first : p.Conducts r ends last w)
    (second : ∀ a, ends a → (next a).Conducts r none ends') :
    (p.andThen next).Conducts r ends' last w := by
  induction p generalizing last w with
  | finished a w' => exact rebase first.1 (second a first.2 w')
  | waiting call w' resume ih =>
      exact ⟨first.1, fun reply w'' => ih reply w'' (first.2 reply w'')⟩

end Progress.Conducts

namespace Operation

variable {α β : Type} {r : Remit} {last : Option Answer} {ends : α → Prop} {op : Operation α}

theorem Conducts.bind {ends' : β → Prop} {next : α → Operation β}
    (first : op.Conducts r last ends) (second : ∀ a, ends a → (next a).Conducts r none ends') :
    (op >>= next).Conducts r last ends' :=
  fun w => (first w).andThen second

/-- After an answer without a grant an operation goes on as after none. -/
theorem Conducts.spent (conducts : op.Conducts r none ends) (spent : Spent last) :
    op.Conducts r last ends :=
  fun w => .rebase (Workspace.conduct_of_same spent rfl rfl (Or.inl rfl)) (conducts w)

theorem conducts_pure {a : α} (holds : ends a) : (pure a : Operation α).Conducts r none ends :=
  fun w => ⟨w.conduct_refl r, holds⟩

theorem conducts_change {step : Workspace → Workspace}
    (holds : ∀ w : Workspace, w.Conduct r last (step w)) :
    (change step).Conducts r last fun _ => True :=
  fun w => ⟨holds w, trivial⟩

theorem conducts_locked {step : Workspace → α × Workspace}
    (holds : ∀ w : Workspace, w.Conduct r last (step w).2) : (locked step).Conducts r last fun _ => True :=
  fun w => ⟨holds w, trivial⟩

theorem conducts_ask_bind {call : Outcall} {next : call.Reply → Operation α}
    (goesOn : ∀ reply, (next reply).Conducts r (some ⟨call, reply⟩) ends) :
    (ask call >>= next).Conducts r none ends :=
  fun w => ⟨w.conduct_refl r, goesOn⟩

theorem conducts_notify (event : Event) : (notify event).Conducts r none fun _ => True :=
  fun w => ⟨w.conduct_refl r, fun _ w' =>
    ⟨(w'.conduct_refl r).spent rfl, trivial⟩⟩

theorem map_conducts {f : α → β} {w : Workspace} (conducts : (op w).Conducts r ends last w) :
    ((f <$> op) w).Conducts r (fun _ => True) last w := by
  rw [map_eq_pure_bind]
  exact conducts.andThen fun _ _ => conducts_pure trivial

end Operation

/-- What the footing of a read says is true of the read. -/
def Footing.Within (r : Remit) (topic : Topic) : Footing → Prop
  | .vouched generation => r.touches topic ∧ r.saw topic generation
  | .untracked => r.touches topic
  | .outside => True

namespace Cache

open Operation

variable {r : Remit} {w : Workspace} {c : Cache} {topic : Topic}

/-! ## Parts of operations -/

theorem note_conducts (level : Level) (text : String) :
    (c.note level text).Conducts r none fun _ => True :=
  conducts_change fun w => w.note_conduct r level _

theorem remoteError_conducts (topic : Topic) (fault : Fault) :
    (c.remoteError topic fault).Conducts r none fun _ => True :=
  (note_conducts _ _).bind fun _ _ => conducts_notify _

theorem report_conducts (topic : Topic) (verdict : Verdict) :
    (c.report topic verdict).Conducts r none fun _ => True := by
  cases verdict with
  | moved => exact (note_conducts _ _).bind fun _ _ => conducts_notify _
  | broken e => exact conducts_notify _
  | current | absent => exact conducts_pure trivial

theorem provider_conducts (caller : Caller) :
    (c.provider caller).Conducts r none fun _ => True := by
  refine (conducts_locked fun w => w.conduct_refl r).bind fun known _ => ?_
  cases known with
  | some store => exact conducts_pure trivial
  | none =>
      refine (conducts_change fun w => w.note_conduct r .debug _).bind fun _ _ => ?_
      refine conducts_ask_bind fun reply => ?_
      have spent : Spent (some ⟨.resolve c.uri caller, reply⟩) := rfl
      cases reply with
      | error e => exact (conducts_pure trivial).spent spent
      | ok store =>
          refine (conducts_change fun w => ?_).bind fun _ _ => conducts_pure trivial
          exact Workspace.conduct_of_same spent rfl rfl (Or.inr (Or.inr ⟨_, _, _, rfl, rfl⟩))

theorem standing_conducts {α : Type} {keeps : Bool} (touches : keeps = true → r.touches topic)
    (saw : ∀ t, w.Current topic t → r.saw topic t.generation) (look : Copies → Option α) :
    (c.standing keeps topic look w).Conducts r
      (fun standing => ∀ footing, standing = .pending footing → footing.Within r topic)
      none w := by
  unfold standing
  cases keeps with
  | false =>
      refine ⟨w.conduct_refl r, ?_⟩
      rintro _ ⟨⟩
      trivial
  | true =>
      have touches := touches rfl
      have consulted := w.consult_looked topic look
      have conduct : w.Conduct r none _ := Workspace.consult_conduct touches look
      simp only [↓reduceIte, bind_apply, locked_apply]
      generalize w.consult topic look = result at consulted conduct ⊢
      obtain ⟨⟨verdict, data⟩, w'⟩ := result
      obtain ⟨looked, -⟩ := consulted
      refine .rebase conduct (((report_conducts topic verdict).bind fun _ _ => ?_) w')
      cases looked with
      | @current t current =>
          cases data with
          | some data => exact conducts_pure fun _ impossible => nomatch impossible
          | none =>
              apply conducts_pure
              rintro _ ⟨⟩
              exact ⟨touches, saw t current⟩
      | absent | moved | broken =>
          cases data <;>
          · apply conducts_pure
            rintro _ ⟨⟩
            exact touches

variable {a : Answer} {copy : Copy} {grant : Option Grant} {save : Workspace → Workspace}

theorem saveGranted_conducts {g : Grant} (brings : a.brings = some (copy, some g))
    (touches : r.touches copy.topic) (files : Workspace.Files save copy) :
    (c.saveGranted copy.topic g save).Conducts r (some a) fun _ => True := by
  refine (conducts_locked fun _ => Workspace.saveUnder_conduct brings touches files).bind
    fun verdict _ => ?_
  cases verdict with
  | moved => exact note_conducts _ _
  | broken e => exact conducts_notify _
  | current | absent => exact conducts_pure trivial

theorem saveVouched_conducts {generation : Int64} (brings : a.brings = some (copy, none))
    (touches : r.touches copy.topic) (saw : r.saw copy.topic generation)
    (files : Workspace.Files save copy) :
    (c.saveVouched copy.topic generation save).Conducts r (some a) fun _ => True :=
  (conducts_locked fun _ => Workspace.saveAt_conduct brings touches files saw).bind
    fun verdict _ => report_conducts _ verdict

theorem receive_conducts {footing : Footing} (brings : a.brings = some (copy, grant))
    (within : footing.Within r copy.topic) (files : Workspace.Files save copy) :
    (c.receive copy.topic footing grant save).Conducts r (some a) fun _ => True := by
  cases grant with
  | none =>
      have spent := Workspace.spent_of_brings brings
      cases footing with
      | vouched generation => exact saveVouched_conducts brings within.1 within.2 files
      | untracked | outside => exact (conducts_pure trivial).spent spent
  | some g =>
      cases footing with
      | vouched generation => exact saveGranted_conducts brings within.1 files
      | untracked => exact saveGranted_conducts brings within files
      | outside => exact conducts_change fun _ => Workspace.release_conduct brings

/-! ## Reads -/

theorem keepValue_files (key suffix : String) (v : Value) :
    Workspace.Files (c.keepValue key suffix v) (.value key v) :=
  ⟨c.keepValue_saves key suffix v, fun _ => rfl⟩

theorem keepListing_files (stem : String) (all : Entries) :
    Workspace.Files (c.keepListing stem all) (.listing stem (all.insert emptyName none)) :=
  ⟨c.keepListing_saves stem all, fun _ => rfl⟩

theorem queryValue_conducts (store : StoreId) {key : String} (user : UserId) {footing : Footing}
    (within : footing.Within r (.key key)) :
    (c.queryValue store key user footing).Conducts r none fun _ => True := by
  refine conducts_ask_bind fun reply => ?_
  cases reply with
  | error e =>
      exact ((remoteError_conducts _ _).bind fun _ _ => conducts_pure trivial).spent rfl
  | ok v =>
      have brings : Answer.brings ⟨.store store (.query key { user }), .ok v⟩ =
          some (.value key v, none) := rfl
      cases footing with
      | vouched generation =>
          exact (saveVouched_conducts brings within.1 within.2 (keepValue_files _ _ _)).bind
            fun _ _ => conducts_pure trivial
      | untracked | outside =>
          have nothing : (pure () : Operation Unit).Conducts r none fun _ => True :=
            conducts_pure trivial
          exact (nothing.bind fun _ _ => conducts_pure trivial).spent
            (Workspace.spent_of_brings brings)

theorem fetchValue_conducts {key : String} (user : UserId) {footing : Footing}
    (within : footing.Within r (.key key)) :
    (c.fetchValue key user footing).Conducts r none fun _ => True := by
  refine (provider_conducts _).bind fun found _ => ?_
  cases found with
  | error fault => exact (remoteError_conducts _ _).bind fun _ _ => conducts_pure trivial
  | ok store =>
      refine (conducts_notify _).bind fun _ _ => conducts_ask_bind fun reply => ?_
      match reply with
      | .error e =>
          exact ((remoteError_conducts _ _).bind fun _ _ =>
            queryValue_conducts store user within).spent rfl
      | .ok none =>
          exact ((note_conducts _ _).bind fun _ _ =>
            queryValue_conducts store user within).spent rfl
      | .ok (some reading) =>
          exact (receive_conducts rfl within (keepValue_files _ _ _)).bind
            fun _ _ => conducts_pure trivial

/-- The operation is concerned with the topic if copies are kept, and with no other. -/
theorem value_conducts {key : String} {user : UserId}
    (touches : c.keepsFor user = true → r.touches (.key key))
    (saw : ∀ t, w.Current (.key key) t → r.saw (.key key) t.generation) :
    (c.value key user w).Conducts r (fun _ => True) none w := by
  have stands := standing_conducts (c := c) (w := c.jot .debug s!"GET({key})" w) touches saw
    (·.values[key]?)
  refine .rebase (w.note_conduct r .debug _) (stands.andThen fun standing within => ?_)
  cases standing with
  | answered v =>
      exact (note_conducts _ _).bind fun _ _ => (conducts_notify _).bind fun _ _ =>
        conducts_pure trivial
  | pending footing =>
      simp only
      split
      · exact fun w' => map_conducts (fetchValue_conducts user (within footing rfl) w')
      · exact conducts_pure trivial

theorem fetchListing_conducts (store : StoreId) {stem : String} (names : List String)
    {footing : Footing} (within : footing.Within r (.under stem)) :
    (c.fetchListing store stem names footing).Conducts r none fun _ => True := by
  refine (conducts_notify _).bind fun _ _ => conducts_ask_bind fun reply => ?_
  match reply with
  | .error e =>
      exact ((remoteError_conducts _ _).bind fun _ _ => conducts_pure trivial).spent rfl
  | .ok none =>
      exact ((note_conducts _ _).bind fun _ _ => conducts_pure trivial).spent rfl
  | .ok (some listing) =>
      exact (receive_conducts rfl within (keepListing_files _ _)).bind
        fun _ _ => conducts_pure trivial

theorem listing_conducts {stem : String} (names : List String)
    (touches : c.caller.atStore = false → r.touches (.under stem))
    (saw : ∀ t, w.Current (.under stem) t → r.saw (.under stem) t.generation) :
    (c.listing stem names w).Conducts r (fun _ => True) none w := by
  have touches : (!c.caller.atStore) = true → r.touches (.under stem) := by
    rwa [Bool.not_eq_true']
  have stands := standing_conducts (c := c)
    (w := c.jot .debug s!"GET_PREFIX({stem}); names={names.length}" w) touches saw
    (fun copies => copies.listings[stem]?.map (·.choose names))
  refine .rebase (w.note_conduct r .debug _) (stands.andThen fun standing within => ?_)
  cases standing with
  | answered entries =>
      exact (note_conducts _ _).bind fun _ _ => (conducts_notify _).bind fun _ _ =>
        conducts_pure trivial
  | pending footing =>
      refine (provider_conducts _).bind fun found _ => ?_
      cases found with
      | error fault => exact (remoteError_conducts _ _).bind fun _ _ => conducts_pure trivial
      | ok store =>
          refine conducts_ask_bind fun lists => .spent ?_ rfl
          split
          · exact fetchListing_conducts store names (within footing rfl)
          · exact (note_conducts _ _).bind fun _ _ => conducts_pure trivial

/-! ## Writes -/

theorem submit_conducts {α : Type} (call : StoreCall)
    (result : call.Reply → Except StoreError α) (writes : call.moment? = none) :
    (c.submit call result).Conducts r none fun _ => True := by
  refine (provider_conducts _).bind fun found _ => ?_
  cases found with
  | error fault => exact conducts_pure trivial
  | ok store =>
      refine conducts_ask_bind fun reply => (conducts_pure trivial).spent ?_
      cases call with
      | get | query | list => cases writes
      | canList | put | putAll | delete | reset => rfl

end Cache

/-! ## Acts -/

open Operation

/-- What an act that finds a workspace `w` is concerned with. -/
def CacheAct.remit (c : Cache) (act : CacheAct) (w : Workspace) : Remit where
  touches topic :=
    match act with
    | .value key user => topic = .key key ∧ c.keepsFor user = true
    | .listing stem _ | .named stem _ => topic = .under stem ∧ c.caller.atStore = false
    | .forget other => topic = other
    | .clear => True
    | _ => False
  saw topic generation := ∃ t, w.Current topic t ∧ t.generation = generation

theorem Cache.write_conducts {α : Type} {r : Remit} {c : Cache} {w : Workspace} {call : StoreCall}
    (writes : call.moment? = none) (level : Level) (text : String)
    (result : call.Reply → Except StoreError α) (outcome : Except Fault α → Outcome) :
    ((outcome <$> (c.note level text >>= fun _ => c.submit call result)) w).Conducts r
      (fun _ => True) none w :=
  map_conducts (((note_conducts level text).bind fun _ _ => submit_conducts call result writes) w)

/-- Whatever a cache is told to do, every stretch of it is in keeping with what it is for. -/
theorem CacheAct.operation_conducts (c : Cache) (act : CacheAct) (w : Workspace) :
    (act.operation c w).Conducts (act.remit c w) (fun _ => True) none w := by
  have saw : ∀ topic t, w.Current topic t → (act.remit c w).saw topic t.generation :=
    fun topic t current => ⟨t, current, rfl⟩
  cases act with
  | value key user =>
      exact map_conducts (Cache.value_conducts (fun keeps => ⟨rfl, keeps⟩) (saw _))
  | listing stem names =>
      exact map_conducts (Cache.listing_conducts names (fun client => ⟨rfl, client⟩) (saw _))
  | named stem name =>
      have listed := Cache.listing_conducts (c := c) (r := (named stem name).remit c w) [name]
        (fun client => ⟨rfl, client⟩) (saw (.under stem))
      have read : (c.named stem name w).Conducts ((named stem name).remit c w) (fun _ => True)
          none w := listed.andThen fun _ _ => conducts_pure trivial
      exact map_conducts read
  | put | putAll | delete | reset => exact Cache.write_conducts rfl _ _ _ _
  | copy | isTracked | profile => exact ⟨w.conduct_refl _, trivial⟩
  | readable | heard => exact ⟨w.conduct_refl _, trivial⟩
  | clear => exact ⟨Workspace.clear_conduct fun _ => trivial, trivial⟩
  | forget topic => exact ⟨Workspace.dropCopy_conduct rfl, trivial⟩
  | provider caller => exact map_conducts (Cache.provider_conducts _ w)
  | unresolve => exact ⟨Workspace.conduct_of_same spent_none rfl rfl (Or.inr (Or.inl rfl)), trivial⟩

/-! ## At a desk -/

namespace Desk

/-- The cache is told to act. -/
def begun (c : Cache) (d : Desk) (act : CacheAct) : Desk :=
  { d with forgetful := d.forgetful || act.forgets }.goOn (act.operation c d.workspace)

/-- An operation that waits gets its reply. -/
def replied (d : Desk) (n : Nat) (s : Suspension) (reply : s.call.Reply) : Desk :=
  { d with
    suspended := d.suspended.eraseIdx n
    received := d.received ++ Answer.receipts ⟨s.call, reply⟩ }.goOn (s.resume reply d.workspace)

/-- Whatever the reply is and whenever it comes, the operation will go on and conduct itself. -/
def Orderly (s : Suspension) : Prop :=
  ∃ r, ∀ reply w, (s.resume reply w).Conducts r (fun _ => True) (some ⟨s.call, reply⟩) w

theorem goOn_conduct {d : Desk} {p : Progress Outcome} {r : Remit} {ends : Outcome → Prop}
    {last : Option Answer} {w : Workspace} (conducts : p.Conducts r ends last w) :
    w.Conduct r last (d.goOn p).workspace := by
  cases p with
  | finished | waiting => exact conducts.1

theorem goOn_conducts {d : Desk} {p : Progress Outcome} {r : Remit} {last : Option Answer}
    {w : Workspace} (orderly : ∀ s ∈ d.suspended, Orderly s)
    (conducts : p.Conducts r (fun _ => True) last w) :
    (∀ s ∈ (d.goOn p).suspended, Orderly s) ∧ w.Conduct r last (d.goOn p).workspace ∧
      (d.goOn p).received = d.received := by
  have conduct := goOn_conduct (d := d) conducts
  cases p with
  | finished a w' => exact ⟨orderly, conduct, rfl⟩
  | waiting call w' resume =>
      refine ⟨?_, conduct, rfl⟩
      intro s member
      rcases List.mem_append.mp member with old | new
      · exact orderly s old
      · rw [List.mem_singleton.mp new]
        exact ⟨r, conducts.2⟩

variable {c : Cache} {d d' : Desk}

theorem begun_conducts (orderly : ∀ s ∈ d.suspended, Orderly s) (act : CacheAct) :
    (∀ s ∈ (d.begun c act).suspended, Orderly s) ∧
      d.workspace.Conduct (act.remit c d.workspace) none (d.begun c act).workspace ∧
      (d.begun c act).received = d.received :=
  goOn_conducts (d := { d with forgetful := d.forgetful || act.forgets }) orderly
    (act.operation_conducts c d.workspace)

theorem replied_conducts (orderly : ∀ s ∈ d.suspended, Orderly s) {n : Nat} {s : Suspension}
    (waits : d.suspended[n]? = some s) (reply : s.call.Reply) :
    (∀ other ∈ (d.replied n s reply).suspended, Orderly other) ∧
      (∃ r, d.workspace.Conduct r (some ⟨s.call, reply⟩) (d.replied n s reply).workspace) ∧
      (d.replied n s reply).received = d.received ++ Answer.receipts ⟨s.call, reply⟩ := by
  obtain ⟨r, goesOn⟩ := orderly s (List.mem_of_getElem? waits)
  let freed : Desk :=
    { d with
      suspended := d.suspended.eraseIdx n
      received := d.received ++ Answer.receipts ⟨s.call, reply⟩ }
  have others : ∀ s ∈ freed.suspended, Orderly s :=
    fun s member => orderly s (List.mem_of_mem_eraseIdx member)
  obtain ⟨orderly', conduct, received⟩ := goOn_conducts others (goesOn reply d.workspace)
  exact ⟨orderly', ⟨r, conduct⟩, received⟩

/-- Whatever has happened at a desk, all that waits there will conduct itself. -/
theorem Reachable.orderly (reachable : Reachable c d) : ∀ s ∈ d.suspended, Orderly s := by
  induction reachable with
  | opened shared => exact fun s member => nomatch member
  | step _ step ih =>
      cases step with
      | act act => exact (begun_conducts ih act).1
      | reply waits reply => exact (replied_conducts ih waits reply).1
      | others shared => exact ih

end Desk

end TrackedSettings
