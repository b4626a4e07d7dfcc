import Mathlib.Data.Nat.Notation
import Mathlib.Logic.Function.Basic
import Mathlib.Logic.Relation

/-! The local launcher and the processes that it owns. Launchers keep a record of what they have started
in memory and in the active state file; a cleanup, of the same launcher or of a later teardown, signals
what it finds recorded. Process IDs are given out again once a process is gone. -/
namespace DogeOperator.ProcessOwnership

/-- A process ID with the start time that the kernel gives for it. -/
@[ext] structure Identity where
  pid : ℕ
  startTicks : String
  deriving DecidableEq

structure ProcessRecord where
  role : String
  pid : ℕ
  startTicks : String
  deriving DecidableEq

def ProcessRecord.identity (record : ProcessRecord) : Identity := ⟨record.pid, record.startTicks⟩

structure ContainerRecord where
  role : String
  id : String
  name : String
  deriving DecidableEq

structure ActiveState where
  runId : String
  processes : List ProcessRecord
  containers : List ContainerRecord
  deriving DecidableEq

inductive Signal
  | sigterm
  | sigkill
  deriving DecidableEq

/-- `start` looks for a state before the preflight, and writes its own one after it; the other commands
start processes at once, and a teardown starts none. -/
inductive Stage
  | checking
  | admitted
  | running
  | teardown
  deriving DecidableEq

inductive CleanupPhase
  | terminating
  | waiting
  | killing
  deriving DecidableEq

/-- The records that a cleanup has read, and those that its present loop has still before it. Where it
has found the first of them running and has not sent the signal yet, the processes are kept that there
had been then. -/
structure Cleanup where
  records : List ProcessRecord
  remaining : List ProcessRecord
  phase : CleanupPhase
  looked : Option (List Identity)
  deriving DecidableEq

structure Launcher where
  stage : Stage
  state : ActiveState
  cleanup : Option Cleanup
  deriving DecidableEq

namespace Launcher

def new (stage : Stage) (runId : String) : Launcher where
  stage
  state := { runId, processes := [], containers := [] }
  cleanup := none

def shuttingDown (launcher : Launcher) : Bool := launcher.cleanup.isSome

/-- Between two turns of the event loop; the loops over the records are one turn each, though other
processes go on meanwhile. -/
def Awaits (launcher : Launcher) : Prop := ∀ cleanup, launcher.cleanup = some cleanup →
  cleanup.phase = .waiting

end Launcher

/-- A child whose start time has not been read yet. -/
structure Awaited where
  launcher : ℕ
  role : String
  pid : ℕ
  deriving DecidableEq

/-- A signal goes to a process ID: for whom it was meant, who had it then, and the processes that there
had been when the launcher looked. -/
structure Sent where
  launcher : ℕ
  record : ProcessRecord
  target : Identity
  signal : Signal
  known : List Identity
  deriving DecidableEq

/-- The process table, the state file and the launchers. What there has been so far is kept beside:
processes, children of launchers, those of them that were recorded, containers and signals. -/
structure World where
  running : ℕ → Option String
  activeState : Option ActiveState
  launchers : ℕ → Option Launcher
  awaited : List Awaited
  seen : List Identity
  children : List Identity
  recorded : List Identity
  containers : List String
  removed : List String
  signals : List Sent

namespace World

def Alive (w : World) (identity : Identity) : Prop := w.running identity.pid = some identity.startTicks

instance (w : World) (identity : Identity) : Decidable (w.Alive identity) :=
  inferInstanceAs (Decidable (_ = _))

/-- No two processes have one ID and one start time, and an ID is not given out again while a launcher
waits for its child to register. -/
structure Free (w : World) (identity : Identity) : Prop where
  idle : w.running identity.pid = none
  unseen : identity ∉ w.seen
  unawaited : ∀ awaited ∈ w.awaited, awaited.pid ≠ identity.pid

def start (w : World) (identity : Identity) : World :=
  { w with
    running := Function.update w.running identity.pid (some identity.startTicks)
    seen := identity :: w.seen }

def exit (w : World) (pid : ℕ) : World := { w with running := Function.update w.running pid none }

def put (w : World) (id : ℕ) (launcher : Launcher) : World :=
  { w with launchers := Function.update w.launchers id (some launcher) }

/-- The process of a launcher ends; nobody waits for its children any more. -/
def drop (w : World) (id : ℕ) : World :=
  { w with
    launchers := Function.update w.launchers id none
    awaited := w.awaited.filter fun awaited => awaited.launcher ≠ id }

def saveActiveState (w : World) (state : ActiveState) : World := { w with activeState := some state }

def removeActiveState (w : World) : World := { w with activeState := none }

/-- `spawn`, up to the start of the child. -/
def spawn (w : World) (id : ℕ) (role : String) (child : Identity) : World :=
  { w.start child with
    awaited := ⟨id, role, child.pid⟩ :: w.awaited
    children := child :: w.children }

/-- `spawn`, with the start time of the child: its record is kept and written. -/
def register (w : World) (id : ℕ) (launcher : Launcher) (record : ProcessRecord) : World :=
  let state := { launcher.state with processes := launcher.state.processes ++ [record] }
  { (w.put id { launcher with state }).saveActiveState state with
    awaited := w.awaited.filter fun awaited => awaited.pid ≠ record.pid
    recorded := record.identity :: w.recorded }

def giveUp (w : World) (id pid : ℕ) : World :=
  { w with awaited := w.awaited.filter fun awaited => ¬ (awaited.launcher = id ∧ awaited.pid = pid) }

def startContainer (w : World) (id : ℕ) (launcher : Launcher) (container : ContainerRecord) : World :=
  let state := { launcher.state with containers := launcher.state.containers ++ [container] }
  { (w.put id { launcher with state }).saveActiveState state with
    containers := container.id :: w.containers }

/-- Nothing is written once the launcher is shutting down. -/
def removeProcess (w : World) (id : ℕ) (launcher : Launcher) (pid : ℕ) : World :=
  let state :=
    { launcher.state with processes := launcher.state.processes.filter fun record => record.pid ≠ pid }
  let w := w.put id { launcher with state }
  if launcher.shuttingDown then w
  else if state.processes = [] ∧ state.containers = [] then w.removeActiveState
  else w.saveActiveState state

/-- `cleanup`, up to its first loop: the state file comes before the memory. -/
def enterCleanup (w : World) (id : ℕ) (launcher : Launcher) : World :=
  let state := w.activeState.getD launcher.state
  let records := state.processes.reverse
  { w.put id { launcher with cleanup := some ⟨records, records, .terminating, none⟩ } with
    removed := (state.containers.reverse.map (·.id)) ++ w.removed }

/-- `process.kill` of whoever has the ID now; nobody, if it is free. -/
def kill (w : World) (id : ℕ) (record : ProcessRecord) (signal : Signal) (known : List Identity) :
    World :=
  match w.running record.pid with
  | some startTicks =>
    { w with signals := ⟨id, record, ⟨record.pid, startTicks⟩, signal, known⟩ :: w.signals }
  | none => w

/-- `processMatches` for the first record, which is skipped or not; and then the signal. -/
def advanceLoop (w : World) (id : ℕ) (launcher : Launcher) (cleanup : Cleanup)
    (record : ProcessRecord) (remaining : List ProcessRecord) (signal : Signal) : World :=
  match cleanup.looked with
  | none =>
    if w.Alive record.identity then
      w.put id { launcher with cleanup := some { cleanup with looked := some w.seen } }
    else w.put id { launcher with cleanup := some { cleanup with remaining } }
  | some known =>
    (w.kill id record signal known).put id
      { launcher with cleanup := some { cleanup with remaining, looked := none } }

/-- `cleanup`, one record after the other. The wait may end at any time: the processes are gone, or the
time is over. -/
def advanceCleanup (w : World) (id : ℕ) (launcher : Launcher) (cleanup : Cleanup) : World :=
  match cleanup.phase, cleanup.remaining with
  | .terminating, record :: remaining => w.advanceLoop id launcher cleanup record remaining .sigterm
  | .terminating, [] => w.put id { launcher with cleanup := some ⟨cleanup.records, [], .waiting, none⟩ }
  | .waiting, _ =>
    w.put id { launcher with cleanup := some ⟨cleanup.records, cleanup.records, .killing, none⟩ }
  | .killing, record :: remaining => w.advanceLoop id launcher cleanup record remaining .sigkill
  | .killing, [] => w.removeActiveState.drop id

/-- `start` returns where there is nothing that the launcher owns; a cleanup that has begun goes on. -/
def release (w : World) (id : ℕ) (launcher : Launcher) : World :=
  if launcher.shuttingDown then w.removeActiveState else w.removeActiveState.drop id

variable {w : World} {id other : ℕ} {launcher launcher' : Launcher}

theorem put_eq_some (h : (w.put id launcher).launchers other = some launcher') :
    (other = id ∧ launcher' = launcher) ∨ (other ≠ id ∧ w.launchers other = some launcher') := by
  by_cases hsame : other = id
  · subst hsame
    cases (Function.update_self other _ w.launchers).symm.trans h
    exact .inl ⟨rfl, rfl⟩
  · exact .inr ⟨hsame, (Function.update_of_ne hsame _ w.launchers).symm.trans h⟩

theorem drop_eq_some (h : (w.drop id).launchers other = some launcher') :
    other ≠ id ∧ w.launchers other = some launcher' := by
  by_cases hsame : other = id
  · subst hsame
    cases (Function.update_self other _ w.launchers).symm.trans h
  · exact ⟨hsame, (Function.update_of_ne hsame _ w.launchers).symm.trans h⟩

theorem put_self (w : World) (id : ℕ) (launcher : Launcher) :
    (w.put id launcher).launchers id = some launcher := Function.update_self _ _ _

theorem put_put (w : World) (id : ℕ) (launcher launcher' : Launcher) (signals : List Sent) :
    { w.put id launcher with signals }.put id launcher' = { w with signals }.put id launcher' := by
  simp [put]

theorem put_of_ne (h : other ≠ id) : (w.put id launcher).launchers other = w.launchers other :=
  Function.update_of_ne h _ _

theorem drop_of_ne (h : other ≠ id) : (w.drop id).launchers other = w.launchers other :=
  Function.update_of_ne h _ _

/-- What becomes of the file depends; the launcher forgets the process. -/
theorem removeProcess_eq (w : World) (id : ℕ) (launcher : Launcher) (pid : ℕ) :
    ∃ activeState, w.removeProcess id launcher pid = { w.put id { launcher with
      state.processes := launcher.state.processes.filter fun record => record.pid ≠ pid } with
      activeState } := by
  unfold removeProcess
  dsimp only
  split
  · exact ⟨w.activeState, rfl⟩
  · split
    · exact ⟨none, rfl⟩
    · exact ⟨_, rfl⟩

/-- A signal is all that changes. -/
theorem kill_eq (w : World) (id : ℕ) (record : ProcessRecord) (signal : Signal) (known : List Identity) :
    ∃ signals, w.kill id record signal known = { w with signals } ∧ w.signals ⊆ signals := by
  unfold kill
  split
  · exact ⟨_, rfl, List.subset_cons_self _ _⟩
  · exact ⟨_, rfl, List.Subset.refl _⟩

/-- One turn of a cleanup: its records stay as they are, or it is over. -/
theorem advanceCleanup_cases (w : World) (id : ℕ) (launcher : Launcher) (cleanup : Cleanup) :
    (∃ signals remaining phase looked, w.signals ⊆ signals ∧
      w.advanceCleanup id launcher cleanup = { w with signals }.put id
        { launcher with cleanup := some ⟨cleanup.records, remaining, phase, looked⟩ }) ∨
    (cleanup.phase = .killing ∧ cleanup.remaining = [] ∧
      w.advanceCleanup id launcher cleanup = w.removeActiveState.drop id) := by
  have hloop : ∀ record remaining signal, ∃ signals remaining' phase looked, w.signals ⊆ signals ∧
      w.advanceLoop id launcher cleanup record remaining signal = { w with signals }.put id
        { launcher with cleanup := some ⟨cleanup.records, remaining', phase, looked⟩ } := by
    intro record remaining signal
    unfold advanceLoop
    split
    · split
      · exact ⟨w.signals, _, _, _, List.Subset.refl _, rfl⟩
      · exact ⟨w.signals, _, _, _, List.Subset.refl _, rfl⟩
    · next known hlooked =>
      rcases w.kill_eq id record signal known with ⟨signals, heq, hsignals⟩
      exact ⟨signals, remaining, cleanup.phase, none, hsignals, by rw [heq]⟩
  unfold advanceCleanup
  split
  · exact .inl (hloop _ _ _)
  · exact .inl ⟨w.signals, _, _, _, List.Subset.refl _, rfl⟩
  · exact .inl ⟨w.signals, _, _, _, List.Subset.refl _, rfl⟩
  · exact .inl (hloop _ _ _)
  · next hphase hremaining => exact .inr ⟨hphase, hremaining, rfl⟩

/-- A process ID is given to a process, or taken from one. -/
theorem update_eq_some {pid pid' : ℕ} {startTicks : Option String} {startTicks' : String}
    (h : Function.update w.running pid startTicks pid' = some startTicks') :
    (pid' = pid ∧ startTicks = some startTicks') ∨ (pid' ≠ pid ∧ w.running pid' = some startTicks') := by
  by_cases hsame : pid' = pid
  · subst hsame
    exact .inl ⟨rfl, (Function.update_self pid' _ w.running).symm.trans h⟩
  · exact .inr ⟨hsame, (Function.update_of_ne hsame _ w.running).symm.trans h⟩

end World

inductive Event
  /-- Any process that is not a child of a launcher. -/
  | processStarts (identity : Identity)
  | processExits (pid : ℕ)
  /-- A launcher that calls `start`. -/
  | launch (id : ℕ) (runId : String)
  /-- A launcher for a deposit, a withdrawal or a deployment. -/
  | command (id : ℕ) (runId : String)
  | teardown (id : ℕ)
  /-- `start` has found no state. -/
  | accept (id : ℕ)
  /-- `start` has done its preflight. -/
  | persist (id : ℕ)
  | spawn (id : ℕ) (role : String) (child : Identity)
  | register (id : ℕ) (role : String) (child : Identity)
  /-- The start time of a child could not be read in time. -/
  | giveUp (id : ℕ) (pid : ℕ)
  | startContainer (id : ℕ) (container : ContainerRecord)
  /-- A child has been heard to have exited, before its ID went to another one. -/
  | exited (id : ℕ) (pid : ℕ)
  /-- On a signal, when a daemon fails, or when the start fails. -/
  | cleanup (id : ℕ)
  | advance (id : ℕ)
  /-- `start` owns nothing. -/
  | release (id : ℕ)
  /-- A launcher returns, or is killed itself. -/
  | stop (id : ℕ)

/-- What the launchers, and every other process, can do next. -/
inductive Step : World → Event → World → Prop
  | processStarts {w : World} {identity : Identity} (hfree : w.Free identity) :
    Step w (.processStarts identity) (w.start identity)
  | processExits {w : World} {pid : ℕ} : Step w (.processExits pid) (w.exit pid)
  | launch {w : World} {id : ℕ} {runId : String} (hnew : w.launchers id = none) :
    Step w (.launch id runId) (w.put id (.new .checking runId))
  | command {w : World} {id : ℕ} {runId : String} (hnew : w.launchers id = none) :
    Step w (.command id runId) (w.put id (.new .running runId))
  | teardown {w : World} {id : ℕ} {state : ActiveState} (hnew : w.launchers id = none)
    (hfound : w.activeState = some state) : Step w (.teardown id) (w.put id ⟨.teardown, state, none⟩)
  | accept {w : World} {id : ℕ} {launcher : Launcher} (hid : w.launchers id = some launcher)
    (hawaits : launcher.Awaits) (hstage : launcher.stage = .checking) (hnone : w.activeState = none) :
    Step w (.accept id) (w.put id { launcher with stage := .admitted })
  | persist {w : World} {id : ℕ} {launcher : Launcher} (hid : w.launchers id = some launcher)
    (hawaits : launcher.Awaits) (hstage : launcher.stage = .admitted) :
    Step w (.persist id)
      ((w.put id { launcher with stage := .running }).saveActiveState launcher.state)
  | spawn {w : World} {id : ℕ} {launcher : Launcher} {role : String} {child : Identity}
    (hid : w.launchers id = some launcher) (hawaits : launcher.Awaits)
    (hstage : launcher.stage = .running) (hfree : w.Free child) :
    Step w (.spawn id role child) (w.spawn id role child)
  | register {w : World} {id : ℕ} {launcher : Launcher} {role : String} {child : Identity}
    (hid : w.launchers id = some launcher) (hawaits : launcher.Awaits)
    (hstage : launcher.stage = .running) (hawaited : ⟨id, role, child.pid⟩ ∈ w.awaited)
    (halive : w.Alive child) :
    Step w (.register id role child) (w.register id launcher ⟨role, child.pid, child.startTicks⟩)
  | giveUp {w : World} {id pid : ℕ} {launcher : Launcher} (hid : w.launchers id = some launcher)
    (hawaits : launcher.Awaits) : Step w (.giveUp id pid) (w.giveUp id pid)
  | startContainer {w : World} {id : ℕ} {launcher : Launcher} {container : ContainerRecord}
    (hid : w.launchers id = some launcher) (hawaits : launcher.Awaits)
    (hstage : launcher.stage = .running) :
    Step w (.startContainer id container) (w.startContainer id launcher container)
  | exited {w : World} {id pid : ℕ} {launcher : Launcher} (hid : w.launchers id = some launcher)
    (hawaits : launcher.Awaits) (hstage : launcher.stage = .running)
    (hgone : ∀ record ∈ launcher.state.processes, record.pid = pid → ¬ w.Alive record.identity) :
    Step w (.exited id pid) (w.removeProcess id launcher pid)
  | cleanup {w : World} {id : ℕ} {launcher : Launcher} (hid : w.launchers id = some launcher)
    (hfirst : launcher.cleanup = none) : Step w (.cleanup id) (w.enterCleanup id launcher)
  | advance {w : World} {id : ℕ} {launcher : Launcher} {cleanup : Cleanup}
    (hid : w.launchers id = some launcher) (hcleanup : launcher.cleanup = some cleanup) :
    Step w (.advance id) (w.advanceCleanup id launcher cleanup)
  | release {w : World} {id : ℕ} {launcher : Launcher} (hid : w.launchers id = some launcher)
    (hawaits : launcher.Awaits) (hstage : launcher.stage = .running)
    (hprocesses : launcher.state.processes = []) (hcontainers : launcher.state.containers = []) :
    Step w (.release id) (w.release id launcher)
  | stop {w : World} {id : ℕ} {launcher : Launcher} (hid : w.launchers id = some launcher) :
    Step w (.stop id) (w.drop id)

/-- One step after another, of launchers and of anyone else. -/
def Reaches (w w' : World) : Prop := Relation.ReflTransGen (fun v v' => ∃ e, Step v e v') w w'

/-- No launcher has run yet; other processes are there. -/
def initial (running : ℕ → Option String) (seen : List Identity) : World where
  running
  activeState := none
  launchers _ := none
  awaited := []
  seen
  children := []
  recorded := []
  containers := []
  removed := []
  signals := []

/-! A launcher with one component, which has to be killed in the end. -/

def localRecord : ProcessRecord := ⟨"dogecoind", 100, "7"⟩

def localLauncher (stage : Stage) (processes : List ProcessRecord) : Launcher :=
  ⟨stage, ⟨"run", processes, []⟩, none⟩

def localInitial : World := initial (fun _ => none) []

def localLaunched : World := localInitial.put 1 (.new .checking "run")

def localAdmitted : World := localLaunched.put 1 (localLauncher .admitted [])

def localPersisted : World :=
  (localAdmitted.put 1 (localLauncher .running [])).saveActiveState ⟨"run", [], []⟩

def localSpawned : World := localPersisted.spawn 1 "dogecoind" localRecord.identity

def localStarted : World := localSpawned.register 1 (localLauncher .running []) localRecord

theorem awaits_localLauncher (stage : Stage) (processes : List ProcessRecord) :
    (localLauncher stage processes).Awaits := by
  intro _ hcleanup
  cases hcleanup

theorem local_launches : Step localInitial (.launch 1 "run") localLaunched := .launch rfl

theorem local_accepts : Step localLaunched (.accept 1) localAdmitted :=
  .accept (World.put_self _ _ _) (awaits_localLauncher .checking []) rfl rfl

theorem local_persists : Step localAdmitted (.persist 1) localPersisted :=
  .persist (World.put_self _ _ _) (awaits_localLauncher .admitted []) rfl

theorem localRecord_free : localPersisted.Free localRecord.identity where
  idle := rfl
  unseen := List.not_mem_nil
  unawaited := by
    intro _ hawaited
    cases hawaited

theorem local_spawns : Step localPersisted (.spawn 1 "dogecoind" localRecord.identity) localSpawned :=
  .spawn (World.put_self localAdmitted 1 _) (awaits_localLauncher .running []) rfl localRecord_free

theorem local_registers :
    Step localSpawned (.register 1 "dogecoind" localRecord.identity) localStarted :=
  .register (World.put_self localAdmitted 1 _) (awaits_localLauncher .running []) rfl
    List.mem_cons_self (by decide)

theorem local_reaches : Reaches localInitial localStarted :=
  .head ⟨_, local_launches⟩ (.head ⟨_, local_accepts⟩ (.head ⟨_, local_persists⟩
    (.head ⟨_, local_spawns⟩ (.single ⟨_, local_registers⟩))))

def localCleanup (remaining : List ProcessRecord) (phase : CleanupPhase)
    (looked : Option (List Identity)) : Cleanup := ⟨[localRecord], remaining, phase, looked⟩

def localCleaning (remaining : List ProcessRecord) (phase : CleanupPhase)
    (looked : Option (List Identity)) : Launcher :=
  { localLauncher .running [localRecord] with cleanup := some (localCleanup remaining phase looked) }

/-- The local launcher in its cleanup, after some signals. -/
def localWorld (remaining : List ProcessRecord) (phase : CleanupPhase)
    (looked : Option (List Identity)) (signals : List Sent) : World :=
  { localStarted with signals }.put 1 (localCleaning remaining phase looked)

def localSent (signal : Signal) : Sent :=
  ⟨1, localRecord, localRecord.identity, signal, [localRecord.identity]⟩

def localTerminating : World := localWorld [localRecord] .terminating none []

def localTerminated : World := localWorld [] .terminating none [localSent .sigterm]

def localKilled : World := localWorld [] .killing none [localSent .sigkill, localSent .sigterm]

def localCleaned : World := localKilled.removeActiveState.drop 1

theorem localStarted_launcher :
    localStarted.launchers 1 = some (localLauncher .running [localRecord]) :=
  World.put_self localSpawned 1 _

theorem local_enters : Step localStarted (.cleanup 1) localTerminating :=
  .cleanup localStarted_launcher rfl

section
variable {remaining : List ProcessRecord} {phase : CleanupPhase} {looked : Option (List Identity)}
  {signals : List Sent}

theorem local_advances {w : World} (h : (localWorld remaining phase looked signals).advanceCleanup 1
    (localCleaning remaining phase looked) (localCleanup remaining phase looked) = w) :
    Step (localWorld remaining phase looked signals) (.advance 1) w :=
  h ▸ .advance (World.put_self _ _ _) rfl

/-- The process is there. -/
theorem local_looks (signal : Signal) : (localWorld [localRecord] phase none signals).advanceLoop 1
    (localCleaning [localRecord] phase none) (localCleanup [localRecord] phase none) localRecord []
    signal = localWorld [localRecord] phase (some [localRecord.identity]) signals :=
  World.put_put { localStarted with signals } 1 _ _ signals

/-- And it is still there. -/
theorem local_hits (signal : Signal) :
    (localWorld [localRecord] phase (some [localRecord.identity]) signals).advanceLoop 1
      (localCleaning [localRecord] phase (some [localRecord.identity]))
      (localCleanup [localRecord] phase (some [localRecord.identity])) localRecord [] signal =
    localWorld [] phase none (localSent signal :: signals) :=
  World.put_put localStarted 1 _ _ (localSent signal :: signals)

theorem local_terminates : Relation.ReflTransGen (fun w w' => Step w (.advance 1) w')
    localTerminating localTerminated :=
  .head (local_advances (local_looks .sigterm)) (.single (local_advances (local_hits .sigterm)))

theorem local_kills : Relation.ReflTransGen (fun w w' => Step w (.advance 1) w')
    localTerminated localCleaned :=
  .head (local_advances (World.put_put { localStarted with signals := [localSent .sigterm] } 1 _ _ _))
    (.head (local_advances (World.put_put { localStarted with signals := [localSent .sigterm] } 1 _ _ _))
      (.head (local_advances (local_looks .sigkill)) (.head (local_advances (local_hits .sigkill))
        (.single (local_advances rfl)))))

end

end DogeOperator.ProcessOwnership
