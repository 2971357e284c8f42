import ShutterGateway.Proofs.Processor.Handshake

/-!
The rules by which a connection is made, kept and made again. An outage is known by two numbers:
whether there was a connection before, and how many attempts have failed since. They say which state
is published and how long the next attempt is put off. A success ends the outage, so that the next
one starts afresh. The end can be asked for at any time, and then nothing follows.
-/

namespace ShutterGateway.Processor

/-! ## Outages -/

/-- A counter of 32 bits, which stays at its largest number. -/
def saturated (n : Nat) : Nat := min n 4294967295

theorem countUp_saturated (n : Nat) : countUp (saturated n) = saturated (n + 1) := by
  unfold countUp saturated
  omega

theorem saturated_eq_zero {n : Nat} : saturated n = 0 ↔ n = 0 := by
  unfold saturated
  omega

/-- What is published in an outage in which `f` attempts have failed. The number `c` is one if there
was a connection before, and zero otherwise. -/
def outageState (config : Config) (c f : Nat) : ConnectionState :=
  if f = 0 then if c = 0 then .connecting else .reconnecting 1
  else if config.backoff.unavailableAfter ≤ saturated f then .unavailable
  else .reconnecting (saturated (f + c))

/-- How long the next attempt is put off in an outage. The very first attempt is not. -/
def outageWait (config : Config) (c f : Nat) : Nat :=
  if f + c = 0 then 0 else (config.backoff.delay (saturated (f + c))).nanos

theorem outageState_ne_connected (config : Config) (c f : Nat) :
    outageState config c f ≠ .connected := by
  unfold outageState
  split
  · split <;> exact nofun
  · split <;> exact nofun

theorem outageState_ne_disconnected (config : Config) (c f : Nat) :
    outageState config c f ≠ .disconnected := by
  unfold outageState
  split
  · split <;> exact nofun
  · split <;> exact nofun

/-- A threshold of zero is passed with the first failure, and not with the loss of a connection. -/
example :
    let config : Config :=
      { hostname := "gateway", password := "secret", backoff := { unavailableAfter := 0 } }
    outageState config 1 0 = .reconnecting 1 ∧ outageState config 1 1 = .unavailable := by
  decide

/-! ## Rules -/

/-- The connection that was asked for has been made. -/
def State.HasConnected (state : State) : Prop :=
  ∃ outage deadline, state.mode = .offline outage (.connecting deadline (some true))

/-- The connection is lost: no more frames arrive on it, it takes none, or the time for the answers
to a request is up. -/
def State.LosesLink (state : State) : Prop :=
  ∃ link, state.mode.link? = some link
    ∧ (link.ended?.isSome ∨ link.refusing
      ∨ ∃ attempt, state.attempt? = some attempt ∧ attempt.deadline ≤ state.now)

/-- An entry with the state of the processor in which it was noted. -/
structure Note where
  before : State
  entry : Entry

/-- How far the making of a connection has come. The numbers are those of the outage. -/
inductive Standing where
  /-- The outage stands so, and that is to be published. -/
  | announcing (c f : Nat)
  /-- The next attempt is put off. -/
  | waiting (c f : Nat) (resume : Instant)
  /-- A connection has been asked for. -/
  | seeking (c f : Nat)
  /-- The password has been written. -/
  | asking (c f : Nat)
  /-- The attempt was given up, and is to be counted as failed. -/
  | failing (c f : Nat)
  /-- The password was accepted, and that is to be published. -/
  | granted
  | linked
  /-- All was given up since the end had been asked for. -/
  | stopping
  | halted

namespace Standing

/-- The processor can come to rest here. -/
def Rests : Standing → Prop
  | waiting _ _ _ | seeking _ _ | asking _ _ | linked => True
  | _ => False

theorem rests_linked : linked.Rests := trivial

/-- The rules: what can be noted next, and where that leads. -/
inductive Leads (config : Config) : Standing → Note → Standing → Prop where
  /-- What is published says how the outage stands. Then the next attempt is put off. -/
  | announce {before : State} {c f : Nat} :
    Leads config (announcing c f) ⟨before, .published (outageState config c f)⟩
      (waiting c f (before.now + outageWait config c f))
  /-- No attempt is made before its time. -/
  | attempt {before : State} {c f : Nat} {resume : Instant} (running : ¬ before.terminating)
    (due : resume ≤ before.now) :
    Leads config (waiting c f resume) ⟨before, .connect⟩ (seeking c f)
  | ask {before : State} {c f : Nat} {frame : Frame} (running : ¬ before.terminating)
    (connected : before.HasConnected) :
    Leads config (seeking c f) ⟨before, .wrote frame⟩ (asking c f)
  | pass {before : State} {c f : Nat} {frame : Frame} {time : UnixTime}
    (running : ¬ before.terminating) (other : ¬ frame.Grants) :
    Leads config (asking c f) ⟨before, .heard frame time⟩ (asking c f)
  | grant {before : State} {c f : Nat} {frame : Frame} {time : UnixTime}
    (running : ¬ before.terminating) (grants : frame.Grants) :
    Leads config (asking c f) ⟨before, .heard frame time⟩ granted
  /-- An attempt can fail before and after the password was written. -/
  | giveUp {before : State} {c f : Nat} {standing : Standing} (running : ¬ before.terminating)
    (trying : standing = seeking c f ∨ standing = asking c f) :
    Leads config standing ⟨before, .hungUp⟩ (failing c f)
  /-- One more attempt has failed. -/
  | fail {before : State} {c f : Nat} {error : LinkError} :
    Leads config (failing c f) ⟨before, .failed error⟩ (announcing c (f + 1))
  /-- Nothing but an accepted password leads to a connection, and it always does. -/
  | connect {before : State} : Leads config granted ⟨before, .published .connected⟩ linked
  | take {before : State} {job : Job} : Leads config linked ⟨before, .took job⟩ linked
  | write {before : State} {frame : Frame} : Leads config linked ⟨before, .wrote frame⟩ linked
  | finish {before : State} {command : Command} :
    Leads config linked ⟨before, .ended command⟩ linked
  /-- With the loss of a connection an outage begins in which nothing has failed yet. -/
  | lose {before : State} (running : ¬ before.terminating) (lost : before.LosesLink) :
    Leads config linked ⟨before, .hungUp⟩ (announcing 1 0)
  /-- The end can come wherever the processor rests. -/
  | stop {before : State} {standing : Standing} (terminating : before.terminating)
    (rests : standing.Rests) : Leads config standing ⟨before, .hungUp⟩ stopping
  | disconnect {before : State} : Leads config stopping ⟨before, .published .disconnected⟩ halted

/-- Several notes, one after another. -/
inductive Follows (config : Config) : Standing → List Note → Standing → Prop where
  | refl {standing : Standing} : Follows config standing [] standing
  | step {first second third : Standing} {note : Note} {rest : List Note}
    (leads : Leads config first note second) (follows : Follows config second rest third) :
    Follows config first (note :: rest) third

section

variable {config : Config} {first second last : Standing} {note : Note} {log more : List Note}

theorem Follows.trans (h : Follows config first log second)
    (h' : Follows config second more last) : Follows config first (log ++ more) last := by
  induction h with
  | refl => exact h'
  | step leads _ ih => exact .step leads (ih h')

/-- Notes that follow one another can be cut anywhere. -/
theorem Follows.split (h : Follows config first (log ++ more) last) :
    ∃ second, Follows config first log second ∧ Follows config second more last := by
  induction log generalizing first with
  | nil => exact ⟨first, .refl, h⟩
  | cons entry rest ih =>
    cases h with
    | step leads follows =>
      obtain ⟨second, hfirst, hsecond⟩ := ih follows
      exact ⟨second, .step leads hfirst, hsecond⟩

/-- What the rules keep with every note is kept by many. -/
theorem Follows.induction {Holds : List Note → Standing → Prop}
    (next : ∀ log first note second, Leads config first note second → Holds log first →
      Holds (log ++ [note]) second)
    (h : Follows config first more last) (before : Holds log first) :
    Holds (log ++ more) last := by
  induction h generalizing log with
  | refl => rwa [List.append_nil]
  | @step first second last note rest leads _ ih =>
    have hlast := ih (next log first note second leads before)
    rwa [List.append_assoc] at hlast

end

end Standing

/-! ## What the numbers count -/

namespace Entry

/-- A connection is published. -/
def isConnected : Entry → Bool
  | published .connected => true
  | _ => false

/-- A failed attempt is counted. -/
def isFailed : Entry → Bool
  | failed _ => true
  | _ => false

end Entry

/-- Whether there has been a connection, as a number. -/
def connections (log : List Note) : Nat :=
  if log.any (·.entry.isConnected) then 1 else 0

/-- How many attempts have failed since the last connection. -/
def failures (log : List Note) : Nat :=
  (log.rtakeWhile fun note => ! note.entry.isConnected).countP (·.entry.isFailed)

section

variable {config : Config} {first second last : Standing} {note : Note} {log : List Note}

theorem connections_concat_connected (h : note.entry.isConnected) :
    connections (log ++ [note]) = 1 := by
  simp [connections, h]

theorem failures_concat_connected (h : note.entry.isConnected) : failures (log ++ [note]) = 0 := by
  rw [failures, List.rtakeWhile_concat_neg _ _ _ (by simp [h])]
  rfl

theorem connections_concat (h : ¬ note.entry.isConnected) :
    connections (log ++ [note]) = connections log := by
  simp [connections, h]

theorem failures_concat (h : ¬ note.entry.isConnected) :
    failures (log ++ [note]) = failures log + if note.entry.isFailed then 1 else 0 := by
  rw [failures, List.rtakeWhile_concat_pos _ _ _ (by simp [h]), List.countP_append,
    List.countP_singleton]
  rfl

namespace Standing

/-- The numbers of an outage count connections and failures. -/
def Counts (log : List Note) : Standing → Prop
  | announcing c f | waiting c f _ | seeking c f | asking c f | failing c f =>
    connections log = c ∧ failures log = f
  | linked => connections log = 1 ∧ failures log = 0
  | granted | stopping | halted => True

/-- A note that neither publishes a connection nor counts a failure. -/
theorem counts_concat {c f : Nat} (unconnected : ¬ note.entry.isConnected)
    (unfailed : ¬ note.entry.isFailed) (h : connections log = c ∧ failures log = f) :
    connections (log ++ [note]) = c ∧ failures (log ++ [note]) = f := by
  rw [connections_concat unconnected, failures_concat unconnected, if_neg unfailed]
  exact h

theorem Leads.counts (h : Leads config first note second) (before : first.Counts log) :
    second.Counts (log ++ [note]) := by
  cases h with
  | @announce _ c f =>
    refine counts_concat ?_ nofun before
    have hother := outageState_ne_connected config c f
    cases hstate : outageState config c f with
    | connected => exact absurd hstate hother
    | _ => exact nofun
  | attempt | ask | pass => exact counts_concat nofun nofun before
  | giveUp running trying =>
    rcases trying with rfl | rfl
    · exact counts_concat nofun nofun before
    · exact counts_concat nofun nofun before
  | fail =>
    obtain ⟨hconnections, hfailures⟩ := before
    refine ⟨?_, ?_⟩
    · rw [connections_concat]
      · exact hconnections
      · exact nofun
    · rw [failures_concat, hfailures]
      · rfl
      · exact nofun
  | connect => exact ⟨connections_concat_connected rfl, failures_concat_connected rfl⟩
  | take | write | finish | lose => exact counts_concat nofun nofun before
  | grant | stop | disconnect => trivial

/-- The numbers of an outage count what has been noted. -/
theorem Follows.counts (h : Follows config (announcing 0 0) log last) : last.Counts log := by
  have start : (announcing 0 0).Counts [] := ⟨rfl, rfl⟩
  exact h.induction (fun _ _ _ _ leads before => leads.counts before) start

/-! ## What the rules say about the last note -/

theorem Follows.last_cases (h : Follows config first log last) :
    (log = [] ∧ last = first)
      ∨ ∃ earlier note second, log = earlier ++ [note] ∧ Leads config second note last := by
  refine @Follows.induction config first last [] log (fun log last => (log = [] ∧ last = first)
    ∨ ∃ earlier note second, log = earlier ++ [note] ∧ Leads config second note last) ?_ h ?_
  · intro log first note second leads _
    exact .inr ⟨log, note, first, rfl, leads⟩
  · exact .inl ⟨rfl, rfl⟩

/-- The password was accepted exactly if the last frame that was taken accepts it. -/
theorem Follows.granted_iff {c f : Nat} (h : Follows config (announcing c f) log last) :
    last = granted ↔ ∃ before frame time,
      log.getLast? = some ⟨before, .heard frame time⟩ ∧ frame.Grants := by
  rcases h.last_cases with ⟨rfl, rfl⟩ | ⟨earlier, note, second, rfl, leads⟩
  · exact ⟨nofun, fun ⟨_, _, _, hlast, _⟩ => nomatch hlast⟩
  rw [List.getLast?_concat]
  constructor
  · rintro rfl
    cases leads with
    | grant running grants => exact ⟨_, _, _, rfl, grants⟩
  · rintro ⟨before, frame, time, hlast, grants⟩
    obtain rfl := Option.some.inj hlast
    cases leads with
    | grant => rfl
    | pass running other => exact absurd grants other

/-- The processor gives everything up only when the end has been asked for. -/
theorem Follows.of_stopping {c f : Nat} (h : Follows config (announcing c f) log stopping) :
    ∃ before, log.getLast? = some ⟨before, .hungUp⟩ ∧ before.terminating := by
  rcases h.last_cases with ⟨-, hsame⟩ | ⟨earlier, note, second, rfl, leads⟩
  · cases hsame
  rw [List.getLast?_concat]
  cases leads with
  | stop terminating => exact ⟨_, rfl, terminating⟩

/-- A connection is published exactly after the password was accepted. -/
theorem Leads.connected_iff (h : Leads config first note second) :
    note.entry = .published .connected ↔ first = granted := by
  cases h with
  | connect => exact ⟨fun _ => rfl, fun _ => rfl⟩
  | @announce before c f =>
    have hother := outageState_ne_connected config c f
    exact ⟨fun h => absurd (Entry.published.inj h) hother, nofun⟩
  | giveUp running trying => exact ⟨nofun, by rintro rfl; rcases trying with h | h <;> cases h⟩
  | stop terminating rests => exact ⟨nofun, by rintro rfl; cases rests⟩
  | _ => exact ⟨nofun, nofun⟩

/-- That there will be no more connections is published when all was given up, and is the end. -/
theorem Leads.disconnected (h : Leads config first note second)
    (published : note.entry = .published .disconnected) : first = stopping ∧ second = halted := by
  cases h with
  | disconnect => exact ⟨rfl, rfl⟩
  | @announce before c f =>
    exact absurd (Entry.published.inj published) (outageState_ne_disconnected config c f)
  | _ => cases published

theorem Leads.of_linked (h : Leads config linked note second)
    (running : ¬ note.before.terminating) (kept : ¬ note.before.LosesLink) : second = linked := by
  cases h with
  | take | write | finish => rfl
  | lose _ lost => exact absurd lost kept
  | stop terminating => exact absurd terminating running
  | giveUp _ trying => rcases trying with h | h <;> cases h

/-- A connection is kept as long as it is not lost and the end has not been asked for. -/
theorem Follows.of_linked (h : Follows config linked log last)
    (kept : ∀ note ∈ log, ¬ note.before.terminating ∧ ¬ note.before.LosesLink) : last = linked := by
  induction log with
  | nil =>
    cases h
    rfl
  | cons note rest ih =>
    obtain ⟨⟨running, keeps⟩, others⟩ := List.forall_mem_cons.mp kept
    cases h with
    | step leads follows =>
      obtain rfl := leads.of_linked running keeps
      exact ih follows others

theorem Follows.of_halted (h : Follows config halted log last) : log = [] := by
  cases h with
  | refl => rfl
  | step leads =>
    cases leads with
    | giveUp running trying => rcases trying with h | h <;> cases h
    | stop terminating rests => cases rests

end Standing

end

end ShutterGateway.Processor
