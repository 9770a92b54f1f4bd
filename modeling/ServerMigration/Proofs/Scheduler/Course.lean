import ServerMigration.Proofs.Migration.Crew
import ServerMigration.Proofs.Scheduler.Admission
import ServerMigration.Proofs.Store.Documents

/-!
# The course of a pass

A pass, its tasks and the store take turns: the pass asks something, starts a task or is told that
one has ended; a task under way asks something, and the store answers it.  In which order that
happens, and what the other surroundings answer, is open, and a task may be aborted at any time.

Whatever the order, every task asks what it would ask on its own, none is lost, and the store keeps
of each source what the task of that source has saved last.

## Main definitions

* `RunStore.Gives`, `RunStore.after` : what a store answers, and what becomes of it.
* `Scheduler.Drive`, `Scheduler.Running`, `Scheduler.Past` : a task so far, under way and over.
* `Scheduler.Scene`, `Scheduler.Turn`, `Scheduler.Course` : a moment of a pass, what may happen
  next, and what may come of it.
* `Scheduler.Scene.Sound` : what holds at every moment while the tasks of a pass are under way.

## Main results

* `Scheduler.Scene.Sound.turn` : a turn keeps a scene sound.
* `Scheduler.Scene.Sound.concluded` : what has come of a pass that has ended.
-/

namespace ServerMigration

open Program

namespace RunStore

variable (store : RunStore)

/-- A store accepts every document, and says what it keeps.  What the other surroundings answer is
open. -/
def Gives (state : store.State) : (question : Site.Ask) → Site.Answer question → Prop
  | .store (.saveSource _), answer => answer = .ok ()
  | .store (.loadSource id), answer => answer = store.load id state
  | .store (.sourcesOfRun runId), answer => answer = store.list runId state
  | _, _ => True

/-- What a store keeps of sources when a question has been answered. -/
def after (state : store.State) : Site.Ask → store.State
  | .store (.saveSource source) => store.save source state
  | _ => state

/-- `Serves before trace after` says that the answers of `trace` are what the store gives, and that
it leads from `before` to `after`. -/
inductive Serves : store.State → SiteTrace → store.State → Prop
  | nil (state : store.State) : Serves state [] state
  | ask {state state' : store.State} {question : Site.Ask} {answer : Site.Answer question}
      {trace : SiteTrace} (gives : store.Gives state question answer)
      (onward : Serves (store.after state question) trace state') :
      Serves state (⟨question, answer⟩ :: trace) state'

variable {store} {state : store.State}

theorem load_after (exchange : Exchange Site.Ask Site.Answer) (id : Uuid) :
    store.load id (store.after state exchange.1) =
      match documentOf? exchange with
      | some document => if document.id = id then .ok document else store.load id state
      | none => store.load id state := by
  match exchange with
  | ⟨.store (.saveSource source), _⟩ => exact store.load_save source id state
  | ⟨.store (.loadSource _), _⟩ | ⟨.store (.sourcesOfRun _), _⟩ | ⟨.store (.saveRun _), _⟩
  | ⟨.store (.loadRun _), _⟩ | ⟨.clock, _⟩ | ⟨.elapsed, _⟩ | ⟨.sleep _, _⟩ | ⟨.freshId, _⟩
  | ⟨.remote .., _⟩ | ⟨.datacenter _, _⟩ => rfl

theorem acceptsSaves_of_gives {question : Site.Ask} {answer : Site.Answer question}
    (gives : store.Gives state question answer) : AcceptsSaves [⟨question, answer⟩] := by
  intro source answer' hmem
  cases List.mem_singleton.mp hmem
  exact gives

end RunStore

namespace Scheduler

/-! ### Scenes and turns -/

/-- A task, and what it has asked so far. -/
structure Drive where
  /-- The task. -/
  task : HostTask
  /-- What it has asked, with the answers. -/
  asked : SiteTrace

/-- The document that the task has left in the store: the one that it has saved last, or the one
that the pass has found. -/
def Drive.left (drive : Drive) : Source :=
  (documentsSaved drive.asked).getLast?.getD drive.task.source

/-- A task under way. -/
structure Running extends Drive where
  /-- How it goes on. -/
  rest : Action HostReport

/-- A task that is over. -/
structure Past extends Drive where
  /-- How it has ended. -/
  ended : TaskEnd

/-- A task under way may end: with its report when nothing is left to ask, and by being aborted at
any time. -/
inductive Running.Ends : Running → TaskEnd → Prop
  /-- It reports. -/
  | finished (drive : Drive) (report : HostReport) :
      Ends ⟨drive, .done report⟩ (.finished report)
  /-- It is aborted. -/
  | aborted (running : Running) (reason : String) : Ends running (.aborted running.task reason)

/-- A moment of a pass. -/
structure Scene (State α : Type) where
  /-- How the pass goes on. -/
  schedule : Schedule α
  /-- The tasks under way. -/
  running : List Running := []
  /-- The tasks that are over, in the order in which they have ended. -/
  past : List Past := []
  /-- What the store keeps. -/
  state : State

namespace Scene

variable {State α : Type}

/-- All tasks that have been started, each with what it has asked. -/
def drives (scene : Scene State α) : List Drive :=
  scene.past.map Past.toDrive ++ scene.running.map Running.toDrive

theorem mem_drives_of_past {scene : Scene State α} {past : Past} (hmem : past ∈ scene.past) :
    past.toDrive ∈ scene.drives :=
  List.mem_append_left _ (List.mem_map_of_mem hmem)

/-- Any of the tasks under way may be taken for the first. -/
theorem drives_perm (schedule : Schedule α) (earlier later : List Running) (drive : Drive)
    (rest : Action HostReport) (past : List Past) (state : State) :
    (drives ⟨schedule, earlier ++ ⟨drive, rest⟩ :: later, past, state⟩).Perm
      (drive :: drives ⟨schedule, earlier ++ later, past, state⟩) := by
  simp only [drives, List.map_append, List.map_cons]
  exact (List.perm_middle.append_left _).trans List.perm_middle

/-- A task that is started is the last one. -/
theorem drives_launch (schedule schedule' : Schedule α) (running : List Running) (task : HostTask)
    (rest : Action HostReport) (past : List Past) (state : State) :
    drives ⟨schedule', running ++ [⟨⟨task, []⟩, rest⟩], past, state⟩
      = drives ⟨schedule, running, past, state⟩ ++ [⟨task, []⟩] := by
  simp [drives]

/-- A task that has ended is still there. -/
theorem drives_land (schedule schedule' : Schedule α) (earlier later : List Running)
    (running : Running) (ended : TaskEnd) (past : List Past) (state : State) :
    (drives ⟨schedule', earlier ++ later, past ++ [⟨running.toDrive, ended⟩], state⟩).Perm
      (drives ⟨schedule, earlier ++ running :: later, past, state⟩) := by
  refine .trans ?_ (drives_perm schedule earlier later running.toDrive running.rest past state).symm
  simp [drives]

end Scene

/-- `Turn store work before after` says that `after` may be the next moment. -/
inductive Turn (store : RunStore) (work : HostTask → Action HostReport) {α : Type} :
    Scene store.State α → Scene store.State α → Prop
  /-- The pass asks something of the surroundings of a migration. -/
  | site {question : Site.Ask} {answer : Site.Answer question} {next : Answer (.site question) →
      Schedule α} {running : List Running} {past : List Past} {state : store.State}
      (gives : store.Gives state question answer) :
      Turn store work ⟨.ask (.site question) next, running, past, state⟩
        ⟨next answer, running, past, store.after state question⟩
  /-- The pass starts a task. -/
  | start {task : HostTask} {next : Unit → Schedule α} {running : List Running} {past : List Past}
      {state : store.State} :
      Turn store work ⟨.ask (.start task) next, running, past, state⟩
        ⟨next (), running ++ [⟨⟨task, []⟩, work task⟩], past, state⟩
  /-- A task under way asks something. -/
  | act (earlier later : List Running) {schedule : Schedule α} {task : HostTask} {asked : SiteTrace}
      {question : Site.Ask} {answer : Site.Answer question} {next : Site.Answer question →
      Action HostReport} {past : List Past} {state : store.State}
      (gives : store.Gives state question answer) :
      Turn store work
        ⟨schedule, earlier ++ ⟨⟨task, asked⟩, .ask question next⟩ :: later, past, state⟩
        ⟨schedule, earlier ++ ⟨⟨task, asked ++ [⟨question, answer⟩]⟩, next answer⟩ :: later, past,
          store.after state question⟩
  /-- The pass is told that a task has ended. -/
  | land (earlier later : List Running) {next : TaskEnd → Schedule α} {running : Running}
      {ended : TaskEnd} {past : List Past} {state : store.State} (ends : running.Ends ended) :
      Turn store work ⟨.ask .await next, earlier ++ running :: later, past, state⟩
        ⟨next ended, earlier ++ later, past ++ [⟨running.toDrive, ended⟩], state⟩

/-- `Course store work before after` says that `after` may come of `before` in some turns. -/
inductive Course (store : RunStore) (work : HostTask → Action HostReport) {α : Type}
    (before : Scene store.State α) : Scene store.State α → Prop
  | here : Course store work before before
  | onward {middle after : Scene store.State α} (course : Course store work before middle)
      (turn : Turn store work middle after) : Course store work before after

variable {store : RunStore} {work : HostTask → Action HostReport}

/-- A task may go through a run of its own without a turn of another. -/
theorem Course.run {α : Type} {before : Scene store.State α} (earlier later : List Running)
    {schedule : Schedule α} {task : HostTask} {asked trace : SiteTrace}
    {current rest : Action HostReport} {past : List Past} {state state' : store.State}
    (course : Course store work before
      ⟨schedule, earlier ++ ⟨⟨task, asked⟩, current⟩ :: later, past, state⟩)
    (reaches : current.Reaches trace rest) (serves : store.Serves state trace state') :
    Course store work before
      ⟨schedule, earlier ++ ⟨⟨task, asked ++ trace⟩, rest⟩ :: later, past, state'⟩ := by
  induction reaches generalizing asked state with
  | here current =>
    cases serves
    rwa [List.append_nil]
  | @ask question next trace rest answer _ ih =>
    cases serves with
    | ask gives serves =>
      have happend : asked ++ ⟨question, answer⟩ :: trace
          = asked ++ [⟨question, answer⟩] ++ trace := by simp
      rw [happend]
      exact ih (course.onward (.act earlier later gives)) serves

/-! ### What a store keeps of the sources -/

/-- The store keeps what each task has left, and of the sources without a task what it has kept
before. -/
structure Filed (store : RunStore) (start : store.State) (drives : List Drive)
    (state : store.State) : Prop where
  left : ∀ drive ∈ drives, store.load drive.task.source.id state = .ok drive.left
  others : ∀ id, id ∉ drives.map (·.task.source.id) → store.load id state = store.load id start

namespace Filed

variable {start state : store.State} {drives : List Drive}

theorem perm {others : List Drive} (filed : Filed store start drives state)
    (same : drives.Perm others) : Filed store start others state where
  left drive hmem := filed.left drive (same.mem_iff.mpr hmem)
  others id hid := filed.others id fun hmem => hid ((same.map _).mem_iff.mp hmem)

/-- A task that is started has left what the pass has found. -/
theorem launch {task : HostTask} (filed : Filed store start drives state)
    (held : store.load task.source.id start = .ok task.source)
    (new : task.source.id ∉ drives.map (·.task.source.id)) :
    Filed store start (⟨task, []⟩ :: drives) state where
  left drive hmem := by
    rcases List.mem_cons.mp hmem with rfl | hmem
    · exact (filed.others _ new).trans held
    · exact filed.left drive hmem
  others id hid := filed.others id fun hmem => hid (List.mem_cons_of_mem _ hmem)

/-- A task that saves its own documents only leaves those of the others alone. -/
theorem act {task : HostTask} {asked : SiteTrace} (exchange : Exchange Site.Ask Site.Answer)
    (filed : Filed store start (⟨task, asked⟩ :: drives) state)
    (alone : task.source.id ∉ drives.map (·.task.source.id))
    (own : ∀ document, documentOf? exchange = some document → document.id = task.source.id) :
    Filed store start (⟨task, asked ++ [exchange]⟩ :: drives) (store.after state exchange.1) := by
  have hleft := filed.left ⟨task, asked⟩ List.mem_cons_self
  -- If the task has saved a document it is one of its own source.
  have hothers (id : Uuid) (hid : id ≠ task.source.id) :
      store.load id (store.after state exchange.1) = store.load id state := by
    rw [RunStore.load_after]
    cases hdocument : documentOf? exchange with
    | none => rfl
    | some document => exact if_neg fun h => hid (h.symm.trans (own document hdocument))
  constructor
  · intro drive hmem
    rcases List.mem_cons.mp hmem with rfl | hmem
    · rw [RunStore.load_after, Drive.left, documentsSaved_append]
      cases hdocument : documentOf? exchange with
      | none =>
        have hnone : documentsSaved [exchange] = [] := by simp [documentsSaved, hdocument]
        rw [hnone, List.append_nil]
        exact hleft
      | some document =>
        have hsome : documentsSaved [exchange] = [document] := by simp [documentsSaved, hdocument]
        rw [hsome, List.getLast?_concat]
        exact if_pos (own document hdocument)
    · have hne : drive.task.source.id ≠ task.source.id := fun h =>
        alone (List.mem_map.mpr ⟨drive, hmem, h⟩)
      rw [hothers _ hne]
      exact filed.left drive (List.mem_cons_of_mem _ hmem)
  · intro id hid
    rw [List.map_cons, List.mem_cons, not_or] at hid
    rw [hothers id hid.1]
    exact filed.others id (by simpa using hid)

end Filed

/-! ### What holds at every moment -/

/-- No task saves a document of another source. -/
def SavesOwn (work : HostTask → Action HostReport) : Prop :=
  ∀ task trace report, (work task).Yields trace report →
    ∀ document ∈ documentsSaved trace, document.id = task.source.id

/-- The tasks of a pass can be told apart, each has been given the document that the store keeps,
and none saves a document of another source. -/
structure Ready (store : RunStore) (work : HostTask → Action HostReport) (start : store.State)
    (tasks : List HostTask) : Prop where
  distinct : (tasks.map (·.source.id)).Nodup
  held : ∀ task ∈ tasks, store.load task.source.id start = .ok task.source
  own : SavesOwn work

/-- A run that is under way saves no document of another source either. -/
theorem Ready.own_of_reaches {start : store.State} {tasks : List HostTask}
    (ready : Ready store work start tasks) {task : HostTask} {trace : SiteTrace}
    {rest : Action HostReport} (reaches : (work task).Reaches trace rest) :
    ∀ document ∈ documentsSaved trace, document.id = task.source.id := by
  obtain ⟨more, report, hyields, -⟩ := reaches.exists_yields_allowed Site.exists_accepting
  intro document hmem
  refine ready.own task _ report hyields document ?_
  rw [documentsSaved_append]
  exact List.mem_append_left _ hmem

namespace Scene

/-- The scene is that moment of a pass over `tasks`. -/
structure Shows {State α : Type} (scene : Scene State α) (tasks : List HostTask) (stage : Stage) :
    Prop where
  flight : (scene.running.map (·.task)).Perm stage.flight
  ended : scene.past.map (·.ended.report) = stage.ended
  conserved : (scene.drives.map (·.task) ++ stage.waiting).Perm tasks

namespace Shows

variable {State α : Type} {schedule schedule' : Schedule α} {earlier later running : List Running}
  {past : List Past} {state state' : State} {tasks waiting : List HostTask} {stage : Stage}

/-- What the tasks ask does not matter. -/
theorem act {task : HostTask} {asked asked' : SiteTrace} {rest rest' : Action HostReport}
    (shows : Shows ⟨schedule, earlier ++ ⟨⟨task, asked⟩, rest⟩ :: later, past, state⟩ tasks stage) :
    Shows ⟨schedule', earlier ++ ⟨⟨task, asked'⟩, rest'⟩ :: later, past, state'⟩ tasks stage where
  flight := by simpa using shows.flight
  ended := shows.ended
  conserved := by simpa [drives] using shows.conserved

theorem launch {task : HostTask} {rest : Action HostReport} {peak : Nat}
    (shows : Shows ⟨schedule, running, past, state⟩ tasks stage)
    (first : stage.waiting = task :: waiting) :
    Shows ⟨schedule', running ++ [⟨⟨task, []⟩, rest⟩], past, state⟩ tasks
      ⟨waiting, stage.flight ++ [task], stage.ended, peak⟩ where
  flight := by
    rw [List.map_append]
    exact shows.flight.append_right _
  ended := shows.ended
  conserved := by
    have hconserved := shows.conserved
    rw [first] at hconserved
    rw [drives_launch schedule]
    simpa using hconserved

/-- A task under way is one of the stage. -/
theorem among {running : Running}
    (shows : Shows ⟨schedule, earlier ++ running :: later, past, state⟩ tasks stage) :
    stage.flight.Perm (running.task :: (earlier ++ later).map (·.task)) := by
  refine shows.flight.symm.trans ?_
  simp only [List.map_append, List.map_cons]
  exact List.perm_middle

theorem land {running : Running} {ended : TaskEnd} {peak : Nat}
    (shows : Shows ⟨schedule, earlier ++ running :: later, past, state⟩ tasks stage) :
    Shows ⟨schedule', earlier ++ later, past ++ [⟨running.toDrive, ended⟩], state⟩ tasks
      ⟨stage.waiting, (earlier ++ later).map (·.task), stage.ended ++ [ended.report],
        peak⟩ where
  flight := .refl _
  ended := by
    rw [← shows.ended, List.map_append]
    rfl
  conserved :=
    (((drives_land schedule schedule' ..).map (·.task)).append_right _).trans shows.conserved

/-- A task that waits is one of the pass, and none of its source has been started. -/
theorem waits {scene : Scene State α} {task : HostTask} (shows : scene.Shows tasks stage)
    (distinct : (tasks.map (·.source.id)).Nodup) (first : stage.waiting = task :: waiting) :
    task ∈ tasks ∧ task.source.id ∉ scene.drives.map (·.task.source.id) := by
  have hconserved := shows.conserved
  rw [first] at hconserved
  have hids := (hconserved.map (·.source.id)).nodup_iff.mpr distinct
  rw [List.map_append, List.map_map, List.map_cons] at hids
  refine ⟨hconserved.mem_iff.mp (by simp), fun hmem => ?_⟩
  exact (List.nodup_append.mp hids).2.2 _ hmem _ List.mem_cons_self rfl

end Shows

/-- What holds at every moment while the tasks of a pass are under way. -/
structure Sound (store : RunStore) (work : HostTask → Action HostReport) (start : store.State)
    (limit : Nat) (tasks : List HostTask) (scene : Scene store.State (Except RunError PassReport)) :
    Prop where
  /-- The pass does what it has to. -/
  conducted : ∃ schedule stage, scene.schedule = Except.ok <$> schedule
    ∧ Follows limit stage schedule ∧ scene.Shows tasks stage
  /-- The tasks under way have asked what they would ask on their own. -/
  reached : ∀ running ∈ scene.running, (work running.task).Reaches running.asked running.rest
  /-- So have those that are over, and they have ended as they may. -/
  ended : ∀ past ∈ scene.past, ∃ rest, (work past.task).Reaches past.asked rest
    ∧ Running.Ends ⟨past.toDrive, rest⟩ past.ended
  /-- All their documents have been accepted. -/
  accepted : ∀ drive ∈ scene.drives, AcceptsSaves drive.asked
  /-- The store keeps what the tasks have left. -/
  filed : Filed store start scene.drives scene.state

variable {start : store.State} {limit : Nat} {tasks : List HostTask}
  {scene after : Scene store.State (Except RunError PassReport)}

theorem sound_init {schedule : Schedule PassReport}
    (follows : Follows limit ⟨tasks, [], [], 0⟩ schedule) :
    Sound store work start limit tasks ⟨Except.ok <$> schedule, [], [], start⟩ where
  conducted := ⟨schedule, _, rfl, follows, .nil, rfl, .refl _⟩
  reached := by simp
  ended := by simp
  accepted := by simp [drives]
  filed := ⟨by simp [drives], fun _ _ => rfl⟩

/-- No source has two tasks. -/
theorem Sound.nodup (sound : scene.Sound store work start limit tasks)
    (ready : Ready store work start tasks) : (scene.drives.map (·.task.source.id)).Nodup := by
  obtain ⟨schedule, stage, -, -, shows⟩ := sound.conducted
  have hids := (shows.conserved.map (·.source.id)).nodup_iff.mpr ready.distinct
  rw [List.map_append, List.map_map] at hids
  exact (List.nodup_append.mp hids).1

variable {schedule : Schedule (Except RunError PassReport)} {earlier later : List Running}
  {past : List Past} {state : store.State}

/-- A task asks something. -/
theorem Sound.act {task : HostTask} {asked : SiteTrace} {question : Site.Ask}
    {answer : Site.Answer question} {next : Site.Answer question → Action HostReport}
    (sound : Sound store work start limit tasks
      ⟨schedule, earlier ++ ⟨⟨task, asked⟩, .ask question next⟩ :: later, past, state⟩)
    (ready : Ready store work start tasks) (gives : store.Gives state question answer) :
    Sound store work start limit tasks
      ⟨schedule, earlier ++ ⟨⟨task, asked ++ [⟨question, answer⟩]⟩, next answer⟩ :: later, past,
        store.after state question⟩ := by
  have hreached := (sound.reached ⟨⟨task, asked⟩, .ask question next⟩ (by simp)).snoc answer
  have before := drives_perm schedule earlier later ⟨task, asked⟩ (.ask question next) past state
  have behind := drives_perm schedule earlier later ⟨task, asked ++ [⟨question, answer⟩]⟩
    (next answer) past (store.after state question)
  constructor
  case conducted =>
    obtain ⟨p, stage, hschedule, follows, shows⟩ := sound.conducted
    exact ⟨p, stage, hschedule, follows, shows.act⟩
  case reached =>
    intro running hmem
    rcases List.mem_append.mp hmem with hmem | hmem
    · exact sound.reached running (List.mem_append_left _ hmem)
    rcases List.mem_cons.mp hmem with rfl | hmem
    · exact hreached
    · exact sound.reached running (by simp [hmem])
  case ended => exact sound.ended
  case accepted =>
    intro drive hmem
    rcases List.mem_cons.mp (behind.mem_iff.mp hmem) with rfl | hmem
    · refine (sound.accepted ⟨task, asked⟩ (before.mem_iff.mpr List.mem_cons_self)).append ?_
      exact RunStore.acceptsSaves_of_gives gives
    · exact sound.accepted drive (before.mem_iff.mpr (List.mem_cons_of_mem _ hmem))
  case filed =>
    -- No other task is one of this source, so what they have left is still there.
    have alone := ((before.map (·.task.source.id)).nodup_iff).mp (sound.nodup ready)
    refine Filed.perm ?_ behind.symm
    refine (sound.filed.perm before).act ⟨question, answer⟩ (List.nodup_cons.mp alone).1 ?_
    intro document hdocument
    refine ready.own_of_reaches hreached document ?_
    rw [documentsSaved_append]
    simp [documentsSaved, hdocument]

/-- A task is started. -/
theorem Sound.launch {task : HostTask} {next : Unit → Schedule (Except RunError PassReport)}
    {running : List Running}
    (sound : Sound store work start limit tasks ⟨.ask (.start task) next, running, past, state⟩)
    (ready : Ready store work start tasks) :
    Sound store work start limit tasks
      ⟨next (), running ++ [⟨⟨task, []⟩, work task⟩], past, state⟩ := by
  have hdrives := drives_launch (Program.ask (Ask.start task) next) (next ()) running task
    (work task) past state
  obtain ⟨conducted, reached, ended, accepted, filed⟩ := sound
  obtain ⟨p, stage, hschedule, follows, shows⟩ := conducted
  obtain ⟨next', rfl, rfl⟩ := map_eq_ask_iff.mp hschedule.symm
  obtain ⟨-, waiting, hwaiting, hnext⟩ := follows
  constructor
  case conducted => exact ⟨_, _, rfl, hnext, shows.launch hwaiting⟩
  case reached =>
    intro one hmem
    rcases List.mem_append.mp hmem with hmem | hmem
    · exact reached one hmem
    · cases List.mem_singleton.mp hmem
      exact .here _
  case ended => exact ended
  case accepted =>
    intro drive hmem
    rw [hdrives] at hmem
    rcases List.mem_append.mp hmem with hmem | hmem
    · exact accepted drive hmem
    · cases List.mem_singleton.mp hmem
      exact fun _ _ h => absurd h List.not_mem_nil
  case filed =>
    obtain ⟨hmem, new⟩ := shows.waits ready.distinct hwaiting
    rw [hdrives]
    refine Filed.perm ?_ (List.perm_append_singleton _ _).symm
    exact filed.launch (ready.held task hmem) new

/-- The pass is told that a task has ended. -/
theorem Sound.land {next : TaskEnd → Schedule (Except RunError PassReport)} {running : Running}
    {ended : TaskEnd}
    (sound : Sound store work start limit tasks
      ⟨.ask .await next, earlier ++ running :: later, past, state⟩)
    (ends : running.Ends ended) :
    Sound store work start limit tasks
      ⟨next ended, earlier ++ later, past ++ [⟨running.toDrive, ended⟩], state⟩ := by
  have hdrives := drives_land (Program.ask Ask.await next) (next ended) earlier later running ended
    past state
  obtain ⟨conducted, reached, past_ended, accepted, filed⟩ := sound
  obtain ⟨p, stage, hschedule, follows, shows⟩ := conducted
  obtain ⟨next', rfl, rfl⟩ := map_eq_ask_iff.mp hschedule.symm
  obtain ⟨-, -, hnext⟩ := follows
  constructor
  case conducted => exact ⟨_, _, rfl, hnext running.task _ ended shows.among, shows.land⟩
  case reached =>
    intro one hmem
    exact reached one (by grind)
  case ended =>
    intro one hmem
    rcases List.mem_append.mp hmem with hmem | hmem
    · exact past_ended one hmem
    · cases List.mem_singleton.mp hmem
      exact ⟨running.rest, reached running (by simp), ends⟩
  case accepted => exact fun drive hmem => accepted drive (hdrives.mem_iff.mp hmem)
  case filed => exact filed.perm hdrives.symm

/-- **A turn keeps a scene sound.** -/
theorem Sound.turn (sound : scene.Sound store work start limit tasks)
    (ready : Ready store work start tasks) (turn : Turn store work scene after) :
    after.Sound store work start limit tasks := by
  cases turn with
  | site gives =>
    -- While its tasks are under way a pass asks nothing of the surroundings.
    obtain ⟨p, stage, hschedule, follows, -⟩ := sound.conducted
    obtain ⟨next', rfl, -⟩ := map_eq_ask_iff.mp hschedule.symm
    exact follows.elim
  | start => exact sound.launch ready
  | act earlier later gives => exact sound.act ready gives
  | land earlier later ends => exact sound.land ends

/-- When the pass has ended all its tasks are over, and it reports on each of them. -/
theorem Sound.concluded {result : Except RunError PassReport}
    (sound : scene.Sound store work start limit tasks) (ended : scene.schedule = .done result) :
    ∃ report, result = .ok report ∧ scene.running = []
      ∧ (scene.past.map (·.task)).Perm tasks
      ∧ report.hosts.Perm (scene.past.map (·.ended.report)) := by
  obtain ⟨p, stage, hschedule, follows, shows⟩ := sound.conducted
  obtain ⟨report, rfl, rfl⟩ := map_eq_done_iff.mp (hschedule.symm.trans ended)
  obtain ⟨hwaiting, hflight, hreport⟩ := follows
  have hrunning : scene.running = [] := by
    have hperm := shows.flight
    rw [hflight] at hperm
    exact List.map_eq_nil_iff.mp hperm.eq_nil
  refine ⟨report, rfl, hrunning, ?_, ?_⟩
  · have hconserved := shows.conserved
    rw [hwaiting, List.append_nil, drives, hrunning, List.map_nil, List.append_nil,
      List.map_map] at hconserved
    exact hconserved
  · rw [hreport, shows.ended]
    exact stableSort_perm _ _

end Scene

end Scheduler

end ServerMigration
