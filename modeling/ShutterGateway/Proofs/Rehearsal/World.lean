import ShutterGateway.Proofs.CommandLine.Conversation
import ShutterGateway.Proofs.Processor.Offline
import ShutterGateway.Rehearsal.CommandLine

/-!
What happens in a rehearsal is a run of the processor. Everything that a world does is made of steps
of its processor and of changes around it, and the handles of callers get exactly the answers that
the processor gives in these steps. The world keeps them. So whatever holds of every run holds of
every rehearsal.
-/

namespace ShutterGateway

open Processor CommandLine

namespace Rehearsal

/-- A handle and its ticket after some answers. -/
def served (given : List Answer) (entry : Nat × Completion) : Nat × Completion :=
  (entry.1, (given.filter (·.ticket = entry.1)).foldl
    (fun completion answer => answer.deliver completion) entry.2)

theorem served_nil (entry : Nat × Completion) : served [] entry = entry := rfl

theorem map_served_nil (entries : List (Nat × Completion)) : entries.map (served []) = entries :=
  List.map_id'' served_nil entries

theorem served_append (first second : List Answer) (entry : Nat × Completion) :
    served (first ++ second) entry = served second (served first entry) := by
  rw [served, List.filter_append, List.foldl_append]
  rfl

theorem served_singleton (answer : Answer) (entry : Nat × Completion) :
    served [answer] entry
      = if entry.1 = answer.ticket then (entry.1, answer.deliver entry.2) else entry := by
  unfold served
  by_cases h : entry.1 = answer.ticket
  · rw [List.filter_cons_of_pos (by simpa using h.symm), if_pos h]
    rfl
  · rw [List.filter_cons_of_neg (by simpa using Ne.symm h), if_neg h]
    rfl

namespace World

/-- A world after some steps of its processor, which it keeps. The handles have got the answers of
these steps, and no commands have been submitted in between but those of the steps. -/
structure Passes (world : World) (steps : List Step) (later : World) : Prop where
  config : later.config = world.config
  nextTicket : later.nextTicket = world.nextTicket
  processor : later.processor = (run world.config steps world.processor).1
  traced : later.steps = world.steps ++ steps
  completions : later.completions
    = world.completions.map (served (answers (run world.config steps world.processor).2))

/-- A world after some quiet steps of its processor. -/
def Evolves (world later : World) : Prop :=
  ∃ steps : List Step, (∀ step ∈ steps, step.IsQuiet) ∧ world.Passes steps later

section

variable {world later last : World} {steps more : List Step}

/-- What changes around the processor and the handles is no step. -/
theorem Passes.beside (config : later.config = world.config)
    (nextTicket : later.nextTicket = world.nextTicket)
    (processor : later.processor = world.processor) (steps : later.steps = world.steps)
    (completions : later.completions = world.completions) : world.Passes [] later := by
  refine ⟨config, nextTicket, processor, steps.trans (List.append_nil _).symm, ?_⟩
  rw [completions]
  exact (map_served_nil _).symm

theorem Passes.trans (first : world.Passes steps later) (second : later.Passes more last) :
    world.Passes (steps ++ more) last := by
  refine ⟨second.config.trans first.config, second.nextTicket.trans first.nextTicket, ?_, ?_, ?_⟩
  · rw [second.processor, first.config, first.processor, state_run_append]
  · rw [second.traced, first.traced, List.append_assoc]
  · rw [second.completions, first.completions, first.config, first.processor, List.map_map,
      answers_run_append]
    exact List.map_congr_left fun entry _ => (served_append _ _ entry).symm

theorem Evolves.beside (config : later.config = world.config)
    (nextTicket : later.nextTicket = world.nextTicket)
    (processor : later.processor = world.processor) (steps : later.steps = world.steps)
    (completions : later.completions = world.completions) : world.Evolves later :=
  ⟨[], List.forall_mem_nil _, .beside config nextTicket processor steps completions⟩

theorem Evolves.refl (world : World) : world.Evolves world :=
  .beside rfl rfl rfl rfl rfl

theorem Evolves.trans (first : world.Evolves later) (second : later.Evolves last) :
    world.Evolves last := by
  obtain ⟨steps, quiet, passes⟩ := first
  obtain ⟨more, quiet', passes'⟩ := second
  exact ⟨steps ++ more, List.forall_mem_append.mpr ⟨quiet, quiet'⟩, passes.trans passes'⟩

/-! ## Effects -/

/-- The steps by which the result of an attempt to connect reaches a processor. -/
def Connects (steps : List Step) : Prop :=
  ∀ step ∈ steps, ∃ success, step = .event (.connected success)

theorem Connects.answers_eq (config : Config) (h : Connects steps) (state : State) :
    answers (run config steps state).2 = [] := by
  induction steps generalizing state with
  | nil => rfl
  | cons step rest ih =>
    obtain ⟨⟨success, rfl⟩, others⟩ := List.forall_mem_cons.mp h
    rw [effects_run_cons, answers_append, ih others, List.append_nil]
    have silent : ∀ ticket command, Event.connected success ≠ .submit ticket command :=
      fun _ _ => nofun
    exact (answers_occur state silent).1

theorem Connects.quiet (h : Connects steps) : ∀ step ∈ steps, step.IsQuiet := by
  intro step member
  obtain ⟨success, rfl⟩ := h step member
  trivial

/-- A world that some answers of its processor have reached, and perhaps the result of an attempt to
connect has reached the processor. -/
structure Absorbs (world : World) (given : List Answer) (later : World) : Prop where
  config : later.config = world.config
  nextTicket : later.nextTicket = world.nextTicket
  processor : ∃ steps, Connects steps
    ∧ later.processor = (run world.config steps world.processor).1
    ∧ later.steps = world.steps ++ steps
  completions : later.completions = world.completions.map (served given)

theorem Absorbs.refl (world : World) : world.Absorbs [] world :=
  ⟨rfl, rfl, ⟨[], List.forall_mem_nil _, rfl, (List.append_nil _).symm⟩, (map_served_nil _).symm⟩

theorem Absorbs.trans {first second : List Answer} (h : world.Absorbs first later)
    (h' : later.Absorbs second last) : world.Absorbs (first ++ second) last := by
  refine ⟨h'.config.trans h.config, h'.nextTicket.trans h.nextTicket, ?_, ?_⟩
  · obtain ⟨steps, connects, processor, hsteps⟩ := h.processor
    obtain ⟨more, connects', processor', hsteps'⟩ := h'.processor
    refine ⟨steps ++ more, List.forall_mem_append.mpr ⟨connects, connects'⟩, ?_, ?_⟩
    · rw [processor', h.config, processor, state_run_append]
    · rw [hsteps', hsteps, List.append_assoc]
  · rw [h'.completions, h.completions, List.map_map]
    exact List.map_congr_left fun entry _ => (served_append first second entry).symm

/-- The result of an attempt to connect reaches the processor. -/
theorem absorbs_tellConnected (success : Bool) (world : World) :
    world.Absorbs [] (world.tellConnected success) := by
  refine ⟨rfl, rfl, ⟨[.event (.connected success)], ?_, rfl, List.reverse_cons⟩, ?_⟩
  · exact List.forall_mem_singleton.mpr ⟨success, rfl⟩
  · exact (map_served_nil _).symm

theorem absorbs_beside (config : later.config = world.config)
    (nextTicket : later.nextTicket = world.nextTicket)
    (processor : later.processor = world.processor) (steps : later.steps = world.steps)
    (completions : later.completions = world.completions) : world.Absorbs [] later := by
  refine ⟨config, nextTicket, ⟨[], List.forall_mem_nil _, processor, ?_⟩, ?_⟩
  · exact steps.trans (List.append_nil _).symm
  · rw [completions]
    exact (map_served_nil _).symm

theorem absorbs_accept (rules : List Rule) (world : World) :
    world.Absorbs [] (world.accept rules) := by
  have made : world.Absorbs [] { world with
      made := world.made + 1
      peer? := some { number := world.made + 1, rules := rules } } :=
    absorbs_beside rfl rfl rfl rfl rfl
  exact made.trans (absorbs_tellConnected true _)

theorem absorbs_connect (world : World) : world.Absorbs [] world.connect := by
  have tried (connects : List (Nat × String)) (scripts : List Script) :
      world.Absorbs [] { world with
        record := { world.record with connects := connects }
        scripts := scripts } :=
    absorbs_beside rfl rfl rfl rfl rfl
  unfold connect
  dsimp only
  cases world.scripts with
  | nil => exact (tried _ _).trans (absorbs_tellConnected false _)
  | cons script rest =>
    cases script with
    | refuse => exact (tried _ rest).trans (absorbs_tellConnected false _)
    | hang => exact tried _ rest
    | serve rules delay =>
      dsimp only
      split
      · exact (tried _ rest).trans (absorbs_accept rules _)
      · exact absorbs_beside rfl rfl rfl rfl rfl

theorem absorbs_receive (frame : Frame) (world : World) :
    world.Absorbs [] (world.receive frame) := by
  unfold receive
  split
  · exact .refl world
  · split
    · exact absorbs_beside rfl rfl rfl rfl rfl
    · exact .refl world

theorem absorbs_mapCompletion (answer : Answer) (world : World) :
    world.Absorbs [answer] (world.mapCompletion answer.ticket answer.deliver) := by
  refine ⟨rfl, rfl, ⟨[], List.forall_mem_nil _, rfl, (List.append_nil _).symm⟩, ?_⟩
  exact List.map_congr_left fun entry _ => (served_singleton answer entry).symm

theorem absorbs_absorb (effect : Effect) (world : World) :
    world.Absorbs effect.answer?.toList (world.absorb effect) := by
  cases effect with
  | connect => exact absorbs_connect world
  | send frame => exact absorbs_receive frame world
  | hangUp => exact absorbs_beside rfl rfl rfl rfl rfl
  | attemptFailed error => exact .refl world
  | answer ticket command => exact absorbs_mapCompletion ⟨ticket, some command⟩ world
  | abandon ticket => exact absorbs_mapCompletion ⟨ticket, none⟩ world
  | notify event => exact absorbs_beside rfl rfl rfl rfl rfl
  | publish published =>
    cases published with
    | connected => exact absorbs_beside rfl rfl rfl rfl rfl
    | _ => exact .refl world

theorem absorbs_absorbAll (effects : List Effect) (world : World) :
    world.Absorbs (answers effects) (world.absorbAll effects) := by
  induction effects generalizing world with
  | nil => exact .refl world
  | cons effect rest ih =>
    have both := (absorbs_absorb effect world).trans (ih (world.absorb effect))
    have hanswers : answers (effect :: rest) = effect.answer?.toList ++ answers rest := by
      cases h : effect.answer? with
      | none => exact List.filterMap_cons_none h
      | some answer => exact List.filterMap_cons_some h
    rw [hanswers]
    exact both

/-- The processor takes a step, and with it perhaps gets the result of an attempt to connect. -/
theorem passes_take (step : Step) (world : World) :
    ∃ more, Connects more ∧ world.Passes (step :: more) (world.take step) := by
  have absorbs := absorbs_absorbAll (step.take world.config world.processor).2
    { world with
      processor := (step.take world.config world.processor).1
      trace := step :: world.trace }
  obtain ⟨more, connects, processor, steps⟩ := absorbs.processor
  refine ⟨more, connects, absorbs.config, absorbs.nextTicket, ?_, ?_, ?_⟩
  · rw [state_run_cons]
    exact processor
  · have hstep : (step :: world.trace).reverse = world.steps ++ [step] := List.reverse_cons
    rw [List.append_cons, ← hstep]
    exact steps
  · rw [effects_run_cons, answers_append, connects.answers_eq, List.append_nil]
    exact absorbs.completions

/-! ## Events -/

theorem passes_occur (event : Event) (world : World) :
    ∃ more, Connects more ∧ world.Passes (.event event :: more) (world.occur event) :=
  passes_take (.event event) world

theorem evolves_occur (event : Event) (quiet : (Step.event event).IsQuiet) (world : World) :
    world.Evolves (world.occur event) := by
  obtain ⟨more, connects, passes⟩ := passes_occur event world
  exact ⟨_, List.forall_mem_cons.mpr ⟨quiet, connects.quiet⟩, passes⟩

theorem Absorbs.evolves (h : world.Absorbs [] later) : world.Evolves later := by
  obtain ⟨steps, connects, processor, hsteps⟩ := h.processor
  refine ⟨steps, connects.quiet, h.config, h.nextTicket, processor, hsteps, ?_⟩
  rw [connects.answers_eq]
  exact h.completions

theorem evolves_endReading (error : LinkError) (world : World) :
    world.Evolves (world.endReading error) :=
  ((evolves_occur (.dry error) trivial world).trans (evolves_occur .choke trivial _)).trans
    (.beside rfl rfl rfl rfl rfl)

theorem evolves_read? (h : world.read? = some later) : world.Evolves later := by
  unfold read? at h
  split at h
  · cases h
  rename_i peer _
  have fetched (left : Bytes) :
      world.Evolves { world with peer? := some { peer with buffer := left } } :=
    .beside rfl rfl rfl rfl rfl
  split at h
  · split at h
    · cases h
      exact evolves_endReading _ world
    · split at h
      · cases h
        exact (fetched _).trans (evolves_occur (.arrive _) trivial _)
      · cases h
    · split at h
      · split at h
        · cases h
        · cases h
          exact fetched _
      · split at h
        · cases h
          exact evolves_endReading _ world
        · cases h
          exact evolves_endReading _ world
  · cases h

theorem evolves_readOn (count : Nat) (world : World) : world.Evolves (world.readOn count) := by
  induction count generalizing world with
  | zero => exact .refl world
  | succ count ih =>
    rw [readOn]
    split
    · rename_i read hread
      exact (evolves_read? hread).trans (ih read)
    · exact .refl world

/-! ## Turns -/

/-- A world after some quiet steps of its processor, a turn among them. -/
def EvolvesByTurn (world later : World) : Prop :=
  ∃ steps : List Step, .turn ∈ steps ∧ (∀ step ∈ steps, step.IsQuiet) ∧ world.Passes steps later

theorem Evolves.length_le (h : world.Evolves later) :
    world.steps.length ≤ later.steps.length := by
  obtain ⟨steps, -, passes⟩ := h
  rw [passes.traced, List.length_append]
  exact Nat.le_add_right ..

theorem EvolvesByTurn.evolves (h : world.EvolvesByTurn later) : world.Evolves later := by
  obtain ⟨steps, -, quiet, passes⟩ := h
  exact ⟨steps, quiet, passes⟩

theorem Evolves.byTurn (first : world.Evolves later) (second : later.EvolvesByTurn last) :
    world.EvolvesByTurn last := by
  obtain ⟨steps, quiet, passes⟩ := first
  obtain ⟨more, turn, quiet', passes'⟩ := second
  exact ⟨steps ++ more, List.mem_append_right _ turn, List.forall_mem_append.mpr ⟨quiet, quiet'⟩,
    passes.trans passes'⟩

theorem EvolvesByTurn.trans (first : world.EvolvesByTurn later) (second : later.Evolves last) :
    world.EvolvesByTurn last := by
  obtain ⟨steps, turn, quiet, passes⟩ := first
  obtain ⟨more, quiet', passes'⟩ := second
  exact ⟨steps ++ more, List.mem_append_left _ turn, List.forall_mem_append.mpr ⟨quiet, quiet'⟩,
    passes.trans passes'⟩

theorem evolvesByTurn_take (world : World) : world.EvolvesByTurn (world.take .turn) := by
  obtain ⟨more, connects, passes⟩ := passes_take .turn world
  exact ⟨_, List.mem_cons_self, List.forall_mem_cons.mpr ⟨trivial, connects.quiet⟩, passes⟩

/-- Work begins with a turn. -/
theorem evolvesByTurn_work {count : Nat} (rest : ∀ world : World, world.Evolves (world.work count))
    (world : World) : world.EvolvesByTurn (world.work (count + 1)) := by
  rw [work]
  split
  · exact (evolvesByTurn_take world).trans (rest _)
  · exact evolvesByTurn_take world

theorem evolves_work (count : Nat) (world : World) : world.Evolves (world.work count) := by
  induction count generalizing world with
  | zero => exact .refl world
  | succ count ih => exact (evolvesByTurn_work ih world).evolves

theorem evolvesByTurn_stretch (world : World) : world.EvolvesByTurn (world.work stretch) :=
  evolvesByTurn_work (evolves_work _) world

theorem evolvesByTurn_settle {fuel : Nat}
    (rest : ∀ world : World, world.Evolves (world.settle fuel)) (world : World) :
    world.EvolvesByTurn (world.settle (fuel + 1)) := by
  refine (evolvesByTurn_stretch world).trans ?_
  rw [settle]
  split
  · rename_i read hread
    refine (evolves_read? hread).trans ((?_ : read.Evolves _).trans (rest _))
    split
    · exact .refl read
    · exact evolves_readOn _ read
  · split
    · exact rest _
    · exact .refl _

theorem evolves_settle (fuel : Nat) (world : World) : world.Evolves (world.settle fuel) := by
  induction fuel generalizing world with
  | zero => exact .refl world
  | succ fuel ih => exact (evolvesByTurn_settle ih world).evolves

theorem evolvesByTurn_patience (world : World) : world.EvolvesByTurn (world.settle patience) :=
  evolvesByTurn_settle (evolves_settle _) world

theorem evolves_noteState (world : World) : world.Evolves world.noteState := by
  unfold noteState
  dsimp only
  split
  · exact .refl world
  · exact .beside rfl rfl rfl rfl rfl

theorem evolves_happen (pending : Pending) (world : World) :
    world.Evolves (world.happen pending) := by
  cases pending with
  | connected rules => exact (absorbs_accept rules world).evolves
  | reply bytes =>
    unfold happen
    dsimp only
    split
    · split
      · exact .beside rfl rfl rfl rfl rfl
      · exact .refl world
    · exact .refl world

theorem evolves_foldl {α : Type} {act : World → α → World} (items : List α)
    (evolves : ∀ world item, World.Evolves world (act world item)) (world : World) :
    world.Evolves (items.foldl act world) := by
  induction items generalizing world with
  | nil => exact .refl world
  | cons item rest ih => exact (evolves world item).trans (ih _)

theorem evolves_recur (world : World) : world.Evolves world.recur := by
  have advanced : world.Evolves { world with tickers := world.tickers.map world.advanceTicker } :=
    .beside rfl rfl rfl rfl rfl
  exact advanced.trans (evolves_foldl _ (fun world (entry : Periodic × Instant × Duration) =>
    evolves_occur (.recur entry.1) trivial world) _)

theorem evolvesByTurn_catchUp (world : World) : world.EvolvesByTurn world.catchUp := by
  unfold catchUp
  generalize world.pending.partition _ = parts
  obtain ⟨due, rest⟩ := parts
  have parted : world.Evolves { world with pending := rest } := .beside rfl rfl rfl rfl rfl
  have happened := @evolves_foldl _ (fun (world : World) entry => world.happen entry.2) due
    (fun world entry => evolves_happen entry.2 world) { world with pending := rest }
  exact ((parted.trans happened).trans (evolves_recur _)).byTurn (evolvesByTurn_patience _)

theorem evolves_moveTo (time : Nat) (world : World) : world.Evolves (world.moveTo time) := by
  have moved : world.noteState.Evolves { world.noteState with now := time } :=
    .beside rfl rfl rfl rfl rfl
  exact ((evolves_noteState world).trans moved).trans (evolves_occur (.elapse _) trivial _)

theorem evolves_advanceUntil (holds : World → Bool) (fuel : Nat) (world : World) :
    world.Evolves (world.advanceUntil holds fuel) := by
  induction fuel generalizing world with
  | zero => exact .refl world
  | succ fuel ih =>
    have caught := (evolvesByTurn_catchUp world).evolves
    rw [advanceUntil]
    split
    · exact .refl world
    · dsimp only
      split
      · exact caught
      · split
        · exact (caught.trans (evolves_moveTo _ _)).trans (ih _)
        · exact caught

/-- The processor has taken as many steps as a rehearsal has patience for. -/
def Exhausted (world : World) : Prop :=
  patience ≤ world.steps.length

end

/-! ## Worlds and runs -/

/-- A world in which some commands have come back one after another, and nobody waits. -/
structure Hosts (config : Config) (log : List Execution) (world : World) : Prop where
  converses : Converses config 0 world.steps log
  configured : world.config = config
  processor : world.processor = reached config 0 world.steps
  nextTicket : world.nextTicket = log.length
  completions : world.completions = []

section

variable {config : Config} {world later : World} {log : List Execution}

/-- What a world does by itself is a part of the run. -/
theorem Hosts.evolves (h : Hosts config log world) (evolves : world.Evolves later) :
    Hosts config log later := by
  obtain ⟨converses, rfl, processor, nextTicket, completions⟩ := h
  obtain ⟨more, quiet, passes⟩ := evolves
  refine ⟨?_, passes.config, ?_, passes.nextTicket.trans nextTicket, ?_⟩
  · rw [passes.traced]
    exact converses.quietly quiet
  · rw [passes.processor, processor, passes.traced, reached, reached, state_run_append]
  · rw [passes.completions, completions]
    rfl

/-- A command is submitted, and what the world does until it has come back, or the waiting is broken
off, are quiet steps. Only this command is waited for meanwhile. -/
theorem Hosts.submitted (h : Hosts config log world) (command : Command)
    (holds : World → Bool) :
    let later := (world.submit command).2.advanceUntil holds patience
    later.config = config ∧ later.nextTicket = log.length + 1
      ∧ later.processor = reached config 0 later.steps
      ∧ (∃ more : List Step, (∀ step ∈ more, step.IsQuiet)
        ∧ later.steps = world.steps ++ .event (.submit log.length command) :: more)
      ∧ ∃ completion : Completion, later.completions = [(log.length, completion)]
        ∧ completion.wait = awaited config 0 later.steps log.length command := by
  obtain ⟨converses, rfl, processor, nextTicket, completions⟩ := h
  let submission : Step := .event (.submit world.nextTicket command)
  let entered : World :=
    { world with
      nextTicket := world.nextTicket + 1
      completions := world.completions ++ [(world.nextTicket, { submitted := command })] }
  obtain ⟨connected, connects, first⟩ := passes_occur (.submit world.nextTicket command) entered
  obtain ⟨more, quiet, second⟩ := (evolvesByTurn_catchUp _).evolves.trans
    (evolves_advanceUntil holds patience (entered.occur (.submit world.nextTicket command)).catchUp)
  have passes : entered.Passes (submission :: (connected ++ more))
      ((world.submit command).2.advanceUntil holds patience) := first.trans second
  have fresh := converses.awaited_next (submission :: (connected ++ more)) command
  have traced : ((world.submit command).2.advanceUntil holds patience).steps
      = world.steps ++ submission :: (connected ++ more) := passes.traced
  rw [← nextTicket] at fresh ⊢
  refine ⟨passes.config, passes.nextTicket, ?_, ⟨connected ++ more,
    List.forall_mem_append.mpr ⟨connects.quiet, quiet⟩, traced⟩, _, ?_, (traced ▸ fresh).symm⟩
  · rw [traced, reached, state_run_append, ← reached, ← processor]
    exact passes.processor
  · have hentered : entered.completions = [(world.nextTicket, { submitted := command })] := by
      show world.completions ++ _ = _
      rw [completions]
      rfl
    rw [← processor]
    exact passes.completions.trans (congrArg _ hentered)

/-- When the end is asked for the processor ends. -/
theorem Hosts.terminate (h : Hosts config log world) :
    (∃ more : List Step, (∀ step ∈ more, step.IsQuiet)
      ∧ world.terminate.steps = world.steps ++ .event .terminate :: more)
      ∧ world.terminate.processor = reached config 0 world.terminate.steps
      ∧ world.terminate.processor.mode = .stopped
      ∧ world.terminate.processor.published = .disconnected := by
  obtain ⟨-, rfl, processor, -, -⟩ := h
  obtain ⟨connected, connects, first⟩ := passes_occur .terminate world
  obtain ⟨later, turn, quiet, second⟩ := evolvesByTurn_catchUp (world.occur .terminate)
  have traced : world.terminate.steps
      = world.steps ++ .event .terminate :: (connected ++ later) := (first.trans second).traced
  have reaches : world.terminate.processor = reached world.config 0 world.terminate.steps := by
    rw [traced, reached, state_run_append, ← reached, ← processor]
    exact (first.trans second).processor
  have stopped : world.terminate.processor.mode = .stopped := by
    rw [reaches, traced, List.append_cons, reached, state_run_append]
    have asks : Event.terminate.AsksForEnd := trivial
    exact (run_turn world.config (List.mem_append_right _ turn)
      (ending_reached world.config 0 world.steps asks)).1
  refine ⟨⟨_, List.forall_mem_append.mpr ⟨connects.quiet, quiet⟩, traced⟩, reaches, stopped, ?_⟩
  have fit := (fit_reached world.config 0 world.terminate.steps).mode
  rw [← reaches, stopped] at fit
  exact fit

end

end World

end Rehearsal

end ShutterGateway
