import TrackedSettings.Draft
import TrackedSettings.Proofs.Reports
import TrackedSettings.Proofs.Veil

/-! # What a caller without the grant learns

Caches and stores are seen through the veil as well, and go on through it as without. So if two
sessions differ in the value of one key only, and no cache that reads may read this key, then they are
told apart by nothing but the value that a listing has at the key's own name.
-/

namespace TrackedSettings

/-! ## Reads -/

namespace CacheAct

/-- The act reads, and does nothing else to a store or a cache. -/
def Reads : CacheAct → Prop
  | .value .. | .listing .. | .named .. | .copy _ => True
  | .put .. | .putAll .. | .delete .. | .reset .. | .isTracked _ | .clear | .forget _ | .profile
  | .readable _ | .provider _ | .unresolve | .heard => False

/-- What an act answers, without what a listing has at the name of `key`. -/
def veil (key : String) : CacheAct → Outcome → Outcome
  | .listing stem _, .entries t => .entries (t.veil stem key)
  | .named stem name, .value v => .value (if stem ++ name = key then none else v)
  | _, outcome => outcome

theorem operation_veiled {c : Cache} {key : String} (barred : c.access.readable key c.caller = false)
    {act : CacheAct} (reads : act.Reads) :
    (act.operation c).Veiled key (act.veil key) (act.operation c) := by
  cases act with
  | value other user => exact (Cache.value_veiled barred other user).map fun _ => rfl
  | listing stem names => exact (Cache.listing_veiled stem names).map fun _ => rfl
  | named stem name => exact (Cache.named_veiled stem name).map fun _ => rfl
  | copy other => exact Operation.veiled_locked fun _ => rfl
  | put | putAll | delete | reset | isTracked | clear | forget | profile | readable | provider
  | unresolve | heard => exact reads.elim

end CacheAct

/-! ## Stores -/

namespace Authority

/-- The store without the value of `key`. Its defaults do not show in what is read. -/
def veil (key : String) (a : Authority) : Authority :=
  { a with defaults := ∅, entries := a.entries.veil "" key }

theorem track_veil (a : Authority) (key : String) (topic : Topic) (request : ReadRequest)
    (s : Shared) : (a.veil key).track topic request s =
      ((a.track topic request s).1, (a.track topic request s).2.1.veil key,
        (a.track topic request s).2.2) := by
  unfold track
  cases request.tracked <;> rfl

theorem answer_veil (a : Authority) {key : String} {call : StoreCall} (spares : call.Spares key)
    (s : Shared) : (a.veil key).answer call s =
      (call.veil key (a.answer call s).1, (a.answer call s).2.1.veil key, (a.answer call s).2.2) := by
  have value : ∀ other, other ≠ key → (a.veil key).value other = a.value other := by
    intro other differs
    rw [Authority.value, veil, Entries.value_veil, String.empty_append, if_neg differs]
    rfl
  cases call with
  | get other request =>
      simp only [answer, get, track_veil, value other spares]
      rfl
  | query other request =>
      simp only [answer, value other spares]
      rfl
  | canList => rfl
  | list stem request =>
      have entries : (a.veil key).entries.scan stem = (a.entries.scan stem).veil "" key :=
        a.entries.scan_veil stem key
      simp only [answer, list, track_veil, entries]
      rfl
  | put | putAll | delete | reset => exact spares.elim

end Authority

namespace Deployment

/-- All stores are authoritative ones. -/
def Plain (dep : Deployment) : Prop :=
  ∀ (id : Nat) (store : Store), dep.stores[id]? = some store → ∃ a, store = .plain a

def veil (key : String) (dep : Deployment) : Deployment :=
  { dep with
    authorities := dep.authorities.map (·.veil key)
    seats := dep.seats.map fun seat => { seat with copies := seat.copies.veil key } }

variable (dep : Deployment) (key : String) (i : Nat)

theorem workspace_veil : (dep.veil key).workspace i = (dep.workspace i).veil key := by
  unfold workspace veil
  rw [Array.getElem?_map]
  cases dep.seats[i]? with
  | none => simp only [Option.map_none, Workspace.veil, Copies.veil_empty]
  | some seat => rfl

theorem putBack_veil (w : Workspace) :
    (dep.veil key).putBack i (w.veil key) = (dep.putBack i w).veil key := by
  have seats : ((dep.veil key).putBack i (w.veil key)).seats = ((dep.putBack i w).veil key).seats := by
    apply Array.ext_getElem?
    intro j
    simp only [putBack, veil, Array.getElem?_modify, Array.getElem?_map]
    split
    · rw [Option.map_map, Option.map_map]
      rfl
    · rfl
  simp only [putBack, veil] at seats ⊢
  rw [seats]
  rfl

theorem resolve_veil :
    (dep.veil key).resolve i = ((dep.resolve i).1, (dep.resolve i).2.veil key) := by
  have seats : (dep.veil key).seats[i]? =
      dep.seats[i]?.map fun seat => { seat with copies := seat.copies.veil key } :=
    Array.getElem?_map
  unfold resolve
  rw [seats]
  cases dep.seats[i]? with
  | none => rfl
  | some seat =>
      simp only [Option.map_some, veil, Array.map_setIfInBounds]

theorem callAuthority_veil (a : Nat) {call : StoreCall} (spares : call.Spares key) :
    (dep.veil key).callAuthority a call =
      (call.veil key (dep.callAuthority a call).1, (dep.callAuthority a call).2.veil key) := by
  have authorities : (dep.veil key).authorities[a]? = dep.authorities[a]?.map (·.veil key) :=
    Array.getElem?_map
  unfold callAuthority
  rw [authorities]
  cases dep.authorities[a]? with
  | none => cases call <;> rfl
  | some authority =>
      simp only [Option.map_some, authority.answer_veil spares, veil, Array.map_setIfInBounds]

theorem callStore_veil {dep : Deployment} (plain : dep.Plain) {key : String} {call : StoreCall}
    (spares : call.Spares key) (store : StoreId) :
    (dep.veil key).callStore store call =
      (call.veil key (dep.callStore store call).1, (dep.callStore store call).2.veil key) := by
  have stores : (dep.veil key).stores[store]? = dep.stores[store]? := rfl
  unfold callStore
  rw [stores]
  cases known : dep.stores[store]? with
  | none => cases call <;> rfl
  | some st =>
      obtain ⟨a, rfl⟩ := plain store st known
      exact dep.callAuthority_veil key a spares

/-- The caches stay who they are, and the stores stay what they are. -/
structure SameParties (dep dep' : Deployment) : Prop where
  stores : dep'.stores = dep.stores
  caches : dep'.seats.map (·.cache) = dep.seats.map (·.cache)

variable {dep} {dep' dep'' : Deployment}

theorem SameParties.trans (first : dep.SameParties dep') (second : dep'.SameParties dep'') :
    dep.SameParties dep'' :=
  ⟨second.stores.trans first.stores, second.caches.trans first.caches⟩

theorem SameParties.plain (same : dep.SameParties dep') (plain : dep.Plain) : dep'.Plain := by
  intro id store known
  rw [same.stores] at known
  exact plain id store known

theorem putBack_sameParties (w : Workspace) : dep.SameParties (dep.putBack i w) := by
  refine ⟨rfl, ?_⟩
  apply Array.ext_getElem?
  intro j
  simp only [putBack, Array.getElem?_map, Array.getElem?_modify]
  split
  · rw [Option.map_map]
    rfl
  · rfl

theorem resolve_sameParties : dep.SameParties (dep.resolve i).2 := by
  unfold resolve
  cases known : dep.seats[i]? with
  | none => exact ⟨rfl, rfl⟩
  | some seat =>
      obtain ⟨inside, rfl⟩ := Array.getElem?_eq_some_iff.mp known
      refine ⟨rfl, ?_⟩
      apply Array.ext_getElem?
      intro j
      simp only [Array.map_setIfInBounds, Array.getElem?_setIfInBounds, Array.getElem?_map]
      split
      · next same =>
        subst same
        simp [inside]
      · rfl

theorem callStore_sameParties (plain : dep.Plain) (store : StoreId) (call : StoreCall) :
    dep.SameParties (dep.callStore store call).2 := by
  unfold callStore
  cases known : dep.stores[store]? with
  | none => exact ⟨rfl, rfl⟩
  | some st =>
      obtain ⟨a, rfl⟩ := plain store st known
      simp only [callAuthority]
      cases dep.authorities[a]? with
      | none => exact ⟨rfl, rfl⟩
      | some authority => exact ⟨rfl, rfl⟩

theorem reply_veil (plain : dep.Plain) {call : Outcall} (spares : call.Spares key) :
    (dep.veil key).reply i call =
        (call.veil key (dep.reply i call).1, (dep.reply i call).2.veil key) ∧
      dep.SameParties (dep.reply i call).2 := by
  cases call with
  | notify event => exact ⟨rfl, rfl, rfl⟩
  | resolve uri caller => exact ⟨dep.resolve_veil key i, dep.resolve_sameParties i⟩
  | store store call =>
      exact ⟨callStore_veil plain spares store, callStore_sameParties plain store call⟩

end Deployment

/-! ## Operations -/

namespace Tally

def veil (key : String) (t : Tally) : Tally :=
  { t with deployment := t.deployment.veil key }

/-- Through the veil a cache does what it does without, and makes the same calls. -/
theorem run_veil {α : Type} {key : String} {seen : α → α} {p q : Progress α}
    (veiled : p.Veiled key seen q) (i : Nat) (t : Tally) (plain : t.deployment.Plain) :
    q.run (host i) (t.veil key) = (seen (p.run (host i) t).1, (p.run (host i) t).2.veil key) ∧
      t.deployment.SameParties (p.run (host i) t).2.deployment := by
  induction p generalizing q t with
  | finished a w =>
      have same : q = .finished (seen a) (w.veil key) := veiled
      rw [same]
      have back := t.deployment.putBack_veil key i w
      exact ⟨congrArg (fun dep => (seen a, { t with deployment := dep })) back,
        t.deployment.putBack_sameParties i w⟩
  | waiting call w resume ih =>
      obtain ⟨spares, resume', rfl, goesOn⟩ := veiled
      have kept := t.deployment.putBack_sameParties i w
      obtain ⟨same, asked⟩ :=
        (t.deployment.putBack i w).reply_veil key i (kept.plain plain) spares
      rw [← t.deployment.putBack_veil key i w] at same
      have parties := kept.trans asked
      obtain ⟨ends, rest⟩ := ih ((t.deployment.putBack i w).reply i call).1
        (((t.deployment.putBack i w).reply i call).2.workspace i)
        (goesOn _ _) { deployment := ((t.deployment.putBack i w).reply i call).2
                       calls := t.calls ++ call.counted } (parties.plain plain)
      refine ⟨?_, parties.trans rest⟩
      rw [← Deployment.workspace_veil] at ends
      refine Eq.trans ?_ ends
      simp only [Progress.run, host, veil, same]

/-- Two tallies that look the same through the veil still do after a read, and so do its answers. -/
theorem run_alike {key : String} {c : Cache} (barred : c.access.readable key c.caller = false)
    {act : CacheAct} (reads : act.Reads) (i : Nat) {t t' : Tally} (alike : t'.veil key = t.veil key)
    (plain : t.deployment.Plain) (plain' : t'.deployment.Plain) :
    act.veil key ((act.operation c).run (host i) t').1 =
        act.veil key ((act.operation c).run (host i) t).1 ∧
      ((act.operation c).run (host i) t').2.veil key =
        ((act.operation c).run (host i) t).2.veil key ∧
      t.deployment.SameParties ((act.operation c).run (host i) t).2.deployment := by
  have veiled := CacheAct.operation_veiled barred reads
  obtain ⟨ends, parties⟩ := run_veil (veiled (t.deployment.workspace i)) i t plain
  obtain ⟨ends', -⟩ := run_veil (veiled (t'.deployment.workspace i)) i t' plain'
  have workspace : (t'.deployment.workspace i).veil key = (t.deployment.workspace i).veil key := by
    rw [← Deployment.workspace_veil, ← Deployment.workspace_veil]
    exact congrArg (·.deployment.workspace i) alike
  rw [alike, workspace, ends] at ends'
  exact ⟨(congrArg Prod.fst ends').symm, (congrArg Prod.snd ends').symm, parties⟩

end Tally

/-! ## Sessions -/

/-- A read by a cache that may not read the key. -/
def Deployment.Barred (dep : Deployment) (key : String) : Instruction → Prop
  | .onCache i act => act.Reads ∧ ∀ seat, dep.seats[i]? = some seat →
      seat.cache.access.readable key seat.cache.caller = false
  | .onStore .. | .handles | .onHandle .. | .hook .. => False

theorem Deployment.SameParties.seat {dep dep' : Deployment} (same : dep.SameParties dep') {i : Nat}
    {seat' : Seat} (seated : dep'.seats[i]? = some seat') :
    ∃ seat, dep.seats[i]? = some seat ∧ seat.cache = seat'.cache := by
  have caches : (dep'.seats.map (·.cache))[i]? = (dep.seats.map (·.cache))[i]? := by
    rw [same.caches]
  rw [Array.getElem?_map, Array.getElem?_map, seated] at caches
  obtain ⟨seat, seated, cache⟩ := Option.map_eq_some_iff.mp caches.symm
  exact ⟨seat, seated, cache⟩

theorem Deployment.Barred.same {dep dep' : Deployment} {key : String} {step : Instruction}
    (barred : dep.Barred key step) (same : dep.SameParties dep') : dep'.Barred key step := by
  cases step with
  | onCache i act =>
      refine ⟨barred.1, fun seat' seated => ?_⟩
      obtain ⟨seat, seated, cache⟩ := same.seat seated
      rw [← cache]
      exact barred.2 seat seated
  | onStore | handles | onHandle | hook => exact barred

namespace Session

/-- Two sessions look the same through the veil. -/
structure Alike (key : String) (s s' : Session) : Prop where
  same : s'.deployment.veil key = s.deployment.veil key
  plain : s.deployment.Plain

variable {key : String} {s s' : Session}

theorem Alike.plain' (alike : s.Alike key s') : s'.deployment.Plain := by
  have stores : (s'.deployment.veil key).stores = (s.deployment.veil key).stores := by
    rw [alike.same]
  intro id store known
  have known : (s'.deployment.veil key).stores[id]? = some store := known
  rw [stores] at known
  exact alike.plain id store known

theorem Alike.seat (alike : s.Alike key s') (i : Nat) :
    s'.deployment.seats[i]?.map (·.cache) = s.deployment.seats[i]?.map (·.cache) := by
  have seats : (s'.deployment.veil key).seats[i]?.map (·.cache) =
      (s.deployment.veil key).seats[i]?.map (·.cache) := by
    rw [alike.same]
  simp only [Deployment.veil, Array.getElem?_map, Option.map_map] at seats
  exact seats

/-- A read answers the same in both, and they go on alike. -/
theorem report_alike (alike : s.Alike key s') (watched : List Topic) {i : Nat} {act : CacheAct}
    (barred : s.deployment.Barred key (.onCache i act)) :
    let r := s.report 0 watched (.onCache i act)
    let r' := s'.report 0 watched (.onCache i act)
    (act.veil key r'.outcome = act.veil key r.outcome ∧ r'.calls = r.calls ∧
        r'.journal = r.journal) ∧
      Alike key (s.play 0 [.onCache i act]) (s'.play 0 [.onCache i act]) ∧
        s.deployment.SameParties (s.play 0 [.onCache i act]).deployment := by
  have fresh : s'.fresh.tally.veil key = s.fresh.tally.veil key :=
    congrArg (fun dep : Deployment => ({ deployment :=
      { dep with shared := { dep.shared with journal := #[] } } } : Tally)) alike.same
  suffices goesOn :
      act.veil key (s'.fresh.perform (fire 0) (.onCache i act)).1 =
          act.veil key (s.fresh.perform (fire 0) (.onCache i act)).1 ∧
        (s'.fresh.perform (fire 0) (.onCache i act)).2.tally.veil key =
          (s.fresh.perform (fire 0) (.onCache i act)).2.tally.veil key ∧
        s.deployment.SameParties (s.fresh.perform (fire 0) (.onCache i act)).2.deployment by
    obtain ⟨outcome, tallies, parties⟩ := goesOn
    have deployment := congrArg Tally.deployment tallies
    exact ⟨⟨outcome, congrArg Tally.calls tallies, congrArg (·.shared.journal) deployment⟩,
      ⟨deployment, parties.plain alike.plain⟩, parties⟩
  have seats := alike.seat i
  cases seated : s.deployment.seats[i]? with
  | none =>
      rw [seated, Option.map_none, Option.map_eq_none_iff] at seats
      have idle : s.fresh.perform (fire 0) (.onCache i act) = (.inapplicable, s.fresh) := by
        have here : s.fresh.deployment.seats[i]? = none := seated
        simp only [perform, here]
      have idle' : s'.fresh.perform (fire 0) (.onCache i act) = (.inapplicable, s'.fresh) := by
        have here : s'.fresh.deployment.seats[i]? = none := seats
        simp only [perform, here]
      rw [idle, idle']
      exact ⟨rfl, fresh, rfl, rfl⟩
  | some seat =>
      obtain ⟨seat', seated', same⟩ := Option.map_eq_some_iff.mp (seats.trans (by rw [seated]; rfl))
      have own : act ≠ .heard := by
        rintro rfl
        exact barred.1
      obtain ⟨outcome, tally⟩ := s.fresh.perform_tally i act seated own
      obtain ⟨outcome', tally'⟩ := s'.fresh.perform_tally i act seated' own
      have runs := Tally.run_alike (barred.2 seat seated) barred.1 i fresh alike.plain alike.plain'
      rw [same] at outcome' tally'
      rw [outcome, outcome', tally, tally']
      refine ⟨runs.1, runs.2.1, ?_⟩
      have parties := runs.2.2
      rw [← tally] at parties
      exact ⟨parties.stores, parties.caches⟩

/-- Sessions that look the same through the veil give answers that do. -/
theorem reports_alike {script : Script} (alike : s.Alike key s') (watched : List Topic)
    (barred : ∀ step ∈ script, s.deployment.Barred key step) {n i : Nat} {act : CacheAct}
    (known : script[n]? = some (.onCache i act)) :
    let r := (s.play 0 (script.take n)).report 0 watched (.onCache i act)
    let r' := (s'.play 0 (script.take n)).report 0 watched (.onCache i act)
    act.veil key r'.outcome = act.veil key r.outcome ∧ r'.calls = r.calls ∧
      r'.journal = r.journal := by
  induction script generalizing s s' n with
  | nil => cases known
  | cons step rest ih =>
      cases n with
      | zero =>
          cases known
          exact (report_alike alike watched (barred _ List.mem_cons_self)).1
      | succ n =>
          obtain ⟨j, other, rfl⟩ : ∃ j other, step = .onCache j other := by
            have first := barred step List.mem_cons_self
            cases step with
            | onCache j other => exact ⟨j, other, rfl⟩
            | onStore | handles | onHandle | hook => exact first.elim
          obtain ⟨-, next, parties⟩ := report_alike alike watched (barred _ List.mem_cons_self)
          exact ih next (fun step member => (barred step (List.mem_cons_of_mem _ member)).same parties)
            known

end Session

/-- Two authoritative stores that are the same, but for their defaults and the value of `key`. -/
structure Authority.DifferAt (key : String) (a a' : Authority) : Prop where
  same : a' = { a with defaults := a'.defaults, entries := a'.entries }
  others : ∀ other, other ≠ key → a'.entries[other]? = a.entries[other]?
  present : a'.entries.contains key = a.entries.contains key

/-- Two sessions that are the same, but for what their authoritative stores have for `key`. -/
structure Session.DifferAt (key : String) (s s' : Session) : Prop where
  same : s' = { s with deployment.authorities := s'.deployment.authorities }
  size : s'.deployment.authorities.size = s.deployment.authorities.size
  stores : ∀ (n : Nat) (a a' : Authority), s.deployment.authorities[n]? = some a →
    s'.deployment.authorities[n]? = some a' → a.DifferAt key a'

theorem Authority.DifferAt.veil {key : String} {a a' : Authority} (differ : a.DifferAt key a') :
    a'.veil key = a.veil key := by
  have entries : a'.entries.veil "" key = a.entries.veil "" key := by
    apply Std.ExtTreeMap.ext_getElem?
    intro other
    rw [Entries.getElem?_veil, Entries.getElem?_veil]
    by_cases hidden : other = key
    · have present := differ.present
      rw [Std.ExtTreeMap.contains_eq_isSome_getElem?, Std.ExtTreeMap.contains_eq_isSome_getElem?]
        at present
      subst hidden
      cases held : a.entries[other]? <;> cases held' : a'.entries[other]? <;>
        simp_all [String.empty_append]
    · rw [differ.others other hidden]
  rw [differ.same, Authority.veil, Authority.veil, entries]

theorem Session.DifferAt.alike {key : String} {s s' : Session} (differ : s.DifferAt key s')
    (plain : s.deployment.Plain) : s.Alike key s' := by
  refine ⟨?_, plain⟩
  have authorities : s'.deployment.authorities.map (·.veil key) =
      s.deployment.authorities.map (·.veil key) := by
    apply Array.ext_getElem?
    intro n
    rw [Array.getElem?_map, Array.getElem?_map]
    cases held : s.deployment.authorities[n]? with
    | none =>
        rw [Array.getElem?_eq_none_iff, ← differ.size, ← Array.getElem?_eq_none_iff] at held
        rw [held]
    | some a =>
        have inside := (Array.getElem?_eq_some_iff.mp held).1
        rw [← differ.size] at inside
        have held' := Array.getElem?_eq_getElem inside
        rw [held', Option.map_some, Option.map_some, (differ.stores n a _ held held').veil]
  rw [differ.same]
  simp only [Deployment.veil, authorities]

/-- Whoever may not read a key cannot tell from the answers to any reads which value it has, but for
the value that a listing has at its name. Neither the calls that are made nor the notes tell. -/
theorem Session.secret_shows_by_its_name_only {key : String} {start start' : Session}
    (differ : start.DifferAt key start') (plain : start.deployment.Plain) {script : Script}
    (barred : ∀ step ∈ script, start.deployment.Barred key step) (watched : List Topic)
    {n i : Nat} {act : CacheAct} (known : script[n]? = some (.onCache i act)) :
    ∃ r r', (start.run script watched)[n]? = some r ∧ (start'.run script watched)[n]? = some r' ∧
      act.veil key r'.outcome = act.veil key r.outcome ∧ r'.calls = r.calls ∧
        r'.journal = r.journal := by
  have hookless : script.Plain := by
    rintro step member moment steps rfl
    exact barred _ member
  have shown := reports_alike (differ.alike plain) watched barred known
  refine ⟨_, _, ?_, ?_, shown⟩
  · rw [getElem?_run, hookless.hookCount, known, Option.map_some]
  · rw [getElem?_run, hookless.hookCount, known, Option.map_some]

def barredCache : Cache :=
  { uri := "settings:main", access := .restricting ["secret"] }

def withSecret (text : String) : Std.ExtTreeMap String String :=
  Std.ExtTreeMap.insert {} "secret" text

/-- A store that has a secret, and a cache that may not read it. -/
def oneSecret (text : String) : Session where
  deployment :=
    { shared := (Authority.create 2 .duplicate (withSecret text) {}).2
      authorities := #[(Authority.create 2 .duplicate (withSecret text) {}).1]
      stores := #[.plain 0]
      seats := #[{ cache := barredCache, resolver := .fixed 0 }] }
  observers := #[.tracing]

theorem differAt_oneSecret (text text' : String) :
    (oneSecret text).DifferAt "secret" (oneSecret text') where
  same := rfl
  size := rfl
  stores n a a' known known' := by
    cases n with
    | succ n => cases known
    | zero =>
        have first : a = (Authority.create 2 .duplicate (withSecret text) {}).1 :=
          (Option.some.inj known).symm
        have second : a' = (Authority.create 2 .duplicate (withSecret text') {}).1 :=
          (Option.some.inj known').symm
        subst first second
        refine ⟨rfl, ?_, ?_⟩
        · intro other differs
          simp [Authority.create, withSecret, Ne.symm differs]
        · simp [Authority.create, withSecret]

theorem barred_oneSecret (text : String) {act : CacheAct} (reads : act.Reads) :
    (oneSecret text).deployment.Barred "secret" (.onCache 0 act) := by
  refine ⟨reads, ?_⟩
  rintro seat ⟨⟩
  have barred : barredCache.access.readable "secret" barredCache.caller = false := by decide +kernel
  exact barred

theorem plain_oneSecret (text : String) : (oneSecret text).deployment.Plain := by
  intro id store known
  cases id with
  | zero => exact ⟨0, (Option.some.inj known).symm⟩
  | succ id => cases known

/-- Everything is listed, whatever the secret is, and all that differs is what stands at its name. -/
theorem secret_shows_by_its_name_only_in_listing :
    let read : CacheAct := .listing "" []
    ∃ r r', ((oneSecret "a").run [.onCache 0 (.value "secret" 0), .onCache 0 read] [])[1]? = some r ∧
      ((oneSecret "b").run [.onCache 0 (.value "secret" 0), .onCache 0 read] [])[1]? = some r' ∧
        read.veil "secret" r'.outcome = read.veil "secret" r.outcome ∧ r'.calls = r.calls ∧
          r'.journal = r.journal := by
  apply Session.secret_shows_by_its_name_only (differAt_oneSecret "a" "b") (plain_oneSecret "a")
  · intro step member
    rw [List.mem_cons, List.mem_singleton] at member
    rcases member with rfl | rfl <;> exact barred_oneSecret "a" trivial
  · rfl

/-- What a cache that may not read the secret finds under its name. -/
def secretFound (s : Session) : List Value :=
  (s.run [.onCache 0 (.named "sec" "ret")] []).map fun r =>
    match r.outcome with
    | .value v => v
    | _ => none

/-- A listing shows a secret to a cache that may not read it. -/
theorem secret_shows_in_listing :
    (oneSecret "a").DifferAt "secret" (oneSecret "b") ∧
      (oneSecret "a").deployment.Barred "secret" (.onCache 0 (.named "sec" "ret")) ∧
      secretFound (oneSecret "a") = [some "a"] ∧ secretFound (oneSecret "b") = [some "b"] := by
  refine ⟨differAt_oneSecret "a" "b", barred_oneSecret "a" trivial, ?_, ?_⟩ <;> decide +kernel

end TrackedSettings
