import DogeOperator.ProcessOwnership

/-! What is recorded was started by a launcher, and a signal is only ever meant for what is recorded. It
reaches that process, or one that was given its ID after the launcher had looked. -/
namespace DogeOperator.OwnedProcesses
open ProcessOwnership

variable {w w' : World} {e : Event} {id : ℕ} {launcher launcher' : Launcher} {state : ActiveState}
  {identity : Identity} {record : ProcessRecord}
  {recorded recorded' : List Identity} {containers containers' : List String}

/-- No process starts or exits, and no signal is forgotten. -/
structure Keeps (w w' : World) : Prop where
  running : w'.running = w.running
  seen : w'.seen = w.seen
  signals : w.signals ⊆ w'.signals

theorem keeps_removeProcess (w : World) (id : ℕ) (launcher : Launcher) (pid : ℕ) :
    Keeps w (w.removeProcess id launcher pid) := by
  rcases w.removeProcess_eq id launcher pid with ⟨activeState, heq⟩
  rw [heq]
  exact ⟨rfl, rfl, List.Subset.refl _⟩

theorem keeps_advanceCleanup (w : World) (id : ℕ) (launcher : Launcher) (cleanup : Cleanup) :
    Keeps w (w.advanceCleanup id launcher cleanup) := by
  rcases w.advanceCleanup_cases id launcher cleanup with
    ⟨signals, remaining, phase, looked, hsignals, heq⟩ | ⟨-, -, heq⟩
  · rw [heq]
    exact ⟨rfl, rfl, hsignals⟩
  · rw [heq]
    exact ⟨rfl, rfl, List.Subset.refl _⟩

theorem keeps_release (w : World) (id : ℕ) (launcher : Launcher) :
    Keeps w (w.release id launcher) := by
  unfold World.release
  split
  · exact ⟨rfl, rfl, List.Subset.refl _⟩
  · exact ⟨rfl, rfl, List.Subset.refl _⟩

/-- The process table changes where a process starts that has never been there, or where one exits. -/
structure Elapses (w w' : World) : Prop where
  seen : w.seen ⊆ w'.seen
  signals : w.signals ⊆ w'.signals
  alive : ∀ identity ∈ w.seen, w'.Alive identity → w.Alive identity

theorem Keeps.elapses (h : Keeps w w') : Elapses w w' where
  seen := h.seen ▸ List.Subset.refl _
  signals := h.signals
  alive identity _ halive := by rwa [World.Alive, ← h.running]

theorem Elapses.trans {w'' : World} (h : Elapses w w') (h' : Elapses w' w'') : Elapses w w'' where
  seen := List.Subset.trans h.seen h'.seen
  signals := List.Subset.trans h.signals h'.signals
  alive identity hseen halive := h.alive identity hseen (h'.alive identity (h.seen hseen) halive)

theorem elapses_start (hfree : w.Free identity) : Elapses w (w.start identity) where
  seen := List.subset_cons_self _ _
  signals := List.Subset.refl _
  alive other hseen halive := by
    rcases World.update_eq_some halive with ⟨hpid, hticks⟩ | ⟨-, halive⟩
    · have hsame : other = identity := Identity.ext hpid (Option.some.inj hticks).symm
      exact absurd (hsame ▸ hseen) hfree.unseen
    · exact halive

theorem elapses_exit (w : World) (pid : ℕ) : Elapses w (w.exit pid) where
  seen := List.Subset.refl _
  signals := List.Subset.refl _
  alive other _ halive := by
    rcases World.update_eq_some halive with ⟨-, hnone⟩ | ⟨-, halive⟩
    · cases hnone
    · exact halive

theorem step_elapses (hstep : Step w e w') : Elapses w w' := by
  cases hstep with
  | processStarts hfree => exact elapses_start hfree
  | processExits => exact elapses_exit _ _
  | spawn hid hawaits hstage hfree =>
    have h := elapses_start hfree
    exact ⟨h.seen, h.signals, h.alive⟩
  | exited hid hawaits hstage hgone => exact (keeps_removeProcess _ _ _ _).elapses
  | advance hid hcleanup => exact (keeps_advanceCleanup _ _ _ _).elapses
  | release hid hawaits hstage hprocesses hcontainers => exact (keeps_release _ _ _).elapses
  | launch | command | teardown | accept | persist | register | giveUp | startContainer | cleanup | stop =>
    exact Keeps.elapses ⟨rfl, rfl, List.Subset.refl _⟩

/-! What launchers keep. -/

/-- Only what is in the lists: processes, containers. -/
structure OwnedState (recorded : List Identity) (containers : List String) (state : ActiveState) :
    Prop where
  processes : ∀ record ∈ state.processes, record.identity ∈ recorded
  containers : ∀ container ∈ state.containers, container.id ∈ containers

structure OwnedLauncher (recorded : List Identity) (containers : List String) (launcher : Launcher) :
    Prop where
  state : OwnedState recorded containers launcher.state
  records : ∀ cleanup, launcher.cleanup = some cleanup →
    ∀ record ∈ cleanup.records, record.identity ∈ recorded
  remaining : ∀ cleanup, launcher.cleanup = some cleanup → cleanup.remaining ⊆ cleanup.records

theorem OwnedState.mono (h : OwnedState recorded containers state) (hrecorded : recorded ⊆ recorded')
    (hcontainers : containers ⊆ containers') : OwnedState recorded' containers' state where
  processes record hrecord := hrecorded (h.processes record hrecord)
  containers container hcontainer := hcontainers (h.containers container hcontainer)

theorem OwnedLauncher.mono (h : OwnedLauncher recorded containers launcher)
    (hrecorded : recorded ⊆ recorded') (hcontainers : containers ⊆ containers') :
    OwnedLauncher recorded' containers' launcher where
  state := h.state.mono hrecorded hcontainers
  records cleanup hcleanup record hrecord := hrecorded (h.records cleanup hcleanup record hrecord)
  remaining := h.remaining

theorem OwnedState.empty (runId : String) : OwnedState recorded containers ⟨runId, [], []⟩ where
  processes := by simp
  containers := by simp

theorem OwnedLauncher.idle (h : OwnedState recorded containers state) (stage : Stage) :
    OwnedLauncher recorded containers ⟨stage, state, none⟩ where
  state := h
  records _ hcleanup := by cases hcleanup
  remaining _ hcleanup := by cases hcleanup

theorem OwnedLauncher.withStage (h : OwnedLauncher recorded containers launcher) (stage : Stage) :
    OwnedLauncher recorded containers { launcher with stage } :=
  { h with }

theorem OwnedLauncher.withState (h : OwnedLauncher recorded containers launcher)
    (hstate : OwnedState recorded containers state) :
    OwnedLauncher recorded containers { launcher with state } :=
  { h with state := hstate }

theorem OwnedLauncher.withCleanup {cleanup : Cleanup} (h : OwnedLauncher recorded containers launcher)
    (hrecords : ∀ record ∈ cleanup.records, record.identity ∈ recorded)
    (hremaining : cleanup.remaining ⊆ cleanup.records) :
    OwnedLauncher recorded containers { launcher with cleanup := some cleanup } where
  state := h.state
  records := by
    rintro _ ⟨⟩
    exact hrecords
  remaining := by
    rintro _ ⟨⟩
    exact hremaining

/-- Everything that launchers keep, have signalled or have removed is their own. -/
structure Owned (w : World) : Prop where
  alive : ∀ identity, w.Alive identity → identity ∈ w.seen
  children : w.children ⊆ w.seen
  recorded : w.recorded ⊆ w.children
  awaited : ∀ awaited ∈ w.awaited, ∀ startTicks, w.running awaited.pid = some startTicks →
    ⟨awaited.pid, startTicks⟩ ∈ w.children
  file : ∀ state, w.activeState = some state → OwnedState w.recorded w.containers state
  launchers : ∀ id launcher, w.launchers id = some launcher →
    OwnedLauncher w.recorded w.containers launcher
  signals : ∀ sent ∈ w.signals, sent.record.identity ∈ w.recorded
  removed : w.removed ⊆ w.containers

namespace Owned

theorem recorded_seen (h : Owned w) : w.recorded ⊆ w.seen := List.Subset.trans h.recorded h.children

theorem put (h : Owned w) (id : ℕ) (hlauncher : OwnedLauncher w.recorded w.containers launcher) :
    Owned (w.put id launcher) :=
  { h with
    launchers := by
      intro other launcher' hother
      rcases World.put_eq_some hother with ⟨-, rfl⟩ | ⟨-, hother⟩
      · exact hlauncher
      · exact h.launchers other launcher' hother }

theorem drop (h : Owned w) : Owned (w.drop id) :=
  { h with
    awaited := fun awaited hawaited => h.awaited awaited (List.mem_filter.mp hawaited).1
    launchers := fun other launcher' hother =>
      h.launchers other launcher' (World.drop_eq_some hother).2 }

theorem saveActiveState (h : Owned w) (hstate : OwnedState w.recorded w.containers state) :
    Owned (w.saveActiveState state) :=
  { h with
    file := by
      rintro _ ⟨⟩
      exact hstate }

theorem removeActiveState (h : Owned w) : Owned w.removeActiveState :=
  { h with file := fun _ hfile => by cases hfile }

theorem kill (h : Owned w) (signal : Signal) (known : List Identity)
    (hrecord : record.identity ∈ w.recorded) : Owned (w.kill id record signal known) := by
  unfold World.kill
  split
  · exact { h with
      signals := fun sent hsent => by
        rcases List.mem_cons.mp hsent with rfl | hsent
        · exact hrecord
        · exact h.signals sent hsent }
  · exact h

theorem start (h : Owned w) (hfree : w.Free identity) :
    Owned (w.start identity) :=
  { h with
    alive := by
      intro other hother
      rcases World.update_eq_some hother with ⟨hpid, hticks⟩ | ⟨-, hother⟩
      · have hsame : other = identity := Identity.ext hpid (Option.some.inj hticks).symm
        rw [hsame]
        exact List.mem_cons_self
      · exact List.mem_cons_of_mem _ (h.alive other hother)
    children := fun child hchild => List.mem_cons_of_mem _ (h.children hchild)
    awaited := by
      intro awaited hawaited startTicks hrunning
      rcases World.update_eq_some hrunning with ⟨hpid, -⟩ | ⟨-, hrunning⟩
      · exact absurd hpid (hfree.unawaited awaited hawaited)
      · exact h.awaited awaited hawaited startTicks hrunning }

theorem exit {pid : ℕ} (h : Owned w) : Owned (w.exit pid) :=
  { h with
    alive := by
      intro other hother
      rcases World.update_eq_some hother with ⟨-, hnone⟩ | ⟨-, hother⟩
      · cases hnone
      · exact h.alive other hother
    awaited := by
      intro awaited hawaited startTicks hrunning
      rcases World.update_eq_some hrunning with ⟨-, hnone⟩ | ⟨-, hrunning⟩
      · cases hnone
      · exact h.awaited awaited hawaited startTicks hrunning }

theorem spawn {role : String} {child : Identity} (h : Owned w) (hfree : w.Free child) :
    Owned (w.spawn id role child) := by
  have hstarted := h.start hfree
  exact { hstarted with
    children := fun other hother => by
      rcases List.mem_cons.mp hother with rfl | hother
      · exact List.mem_cons_self
      · exact hstarted.children hother
    recorded := fun other hother => List.mem_cons_of_mem _ (h.recorded hother)
    awaited := fun awaited hawaited startTicks hrunning => by
      rcases World.update_eq_some hrunning with ⟨hpid, hticks⟩ | ⟨hother, hrunning⟩
      · cases hticks
        rw [hpid]
        exact List.mem_cons_self
      · rcases List.mem_cons.mp hawaited with rfl | hawaited
        · exact absurd rfl hother
        · exact List.mem_cons_of_mem _ (h.awaited awaited hawaited startTicks hrunning) }

theorem register {role : String} {child : Identity} (h : Owned w)
    (hid : w.launchers id = some launcher) (hchild : child ∈ w.children) :
    Owned (w.register id launcher ⟨role, child.pid, child.startTicks⟩) := by
  have hgrows : w.recorded ⊆ child :: w.recorded := List.subset_cons_self _ _
  have hlauncher := (h.launchers id launcher hid).mono hgrows (List.Subset.refl _)
  have hstate : OwnedState (child :: w.recorded) w.containers
      { launcher.state with
        processes := launcher.state.processes ++ [⟨role, child.pid, child.startTicks⟩] } := by
    refine ⟨fun record hrecord => ?_, hlauncher.state.containers⟩
    rcases List.mem_append.mp hrecord with hrecord | hrecord
    · exact hlauncher.state.processes record hrecord
    · rw [List.mem_singleton.mp hrecord]
      exact List.mem_cons_self
  have hgrown : Owned { w with
      awaited := w.awaited.filter fun awaited => awaited.pid ≠ child.pid
      recorded := child :: w.recorded } :=
    { h with
      recorded := fun other hother => by
        rcases List.mem_cons.mp hother with rfl | hother
        · exact hchild
        · exact h.recorded hother
      awaited := fun awaited hawaited => h.awaited awaited (List.mem_filter.mp hawaited).1
      file := fun state hstate => (h.file state hstate).mono hgrows (List.Subset.refl _)
      launchers := fun other launcher hother =>
        (h.launchers other launcher hother).mono hgrows (List.Subset.refl _)
      signals := fun sent hsent => hgrows (h.signals sent hsent) }
  exact (hgrown.put id (hlauncher.withState hstate)).saveActiveState hstate

theorem giveUp {pid : ℕ} (h : Owned w) : Owned (w.giveUp id pid) :=
  { h with awaited := fun awaited hawaited => h.awaited awaited (List.mem_filter.mp hawaited).1 }

theorem startContainer {container : ContainerRecord} (h : Owned w)
    (hid : w.launchers id = some launcher) : Owned (w.startContainer id launcher container) := by
  have hgrows : w.containers ⊆ container.id :: w.containers := List.subset_cons_self _ _
  have hlauncher := (h.launchers id launcher hid).mono (List.Subset.refl _) hgrows
  have hstate : OwnedState w.recorded (container.id :: w.containers)
      { launcher.state with containers := launcher.state.containers ++ [container] } := by
    refine ⟨hlauncher.state.processes, fun other hother => ?_⟩
    rcases List.mem_append.mp hother with hother | hother
    · exact hlauncher.state.containers other hother
    · rw [List.mem_singleton.mp hother]
      exact List.mem_cons_self
  have hgrown : Owned { w with containers := container.id :: w.containers } :=
    { h with
      file := fun state hstate => (h.file state hstate).mono (List.Subset.refl _) hgrows
      launchers := fun other launcher hother =>
        (h.launchers other launcher hother).mono (List.Subset.refl _) hgrows
      removed := fun other hother => hgrows (h.removed hother) }
  exact (hgrown.put id (hlauncher.withState hstate)).saveActiveState hstate

theorem removeProcess {pid : ℕ} (h : Owned w) (hid : w.launchers id = some launcher) :
    Owned (w.removeProcess id launcher pid) := by
  have hlauncher := h.launchers id launcher hid
  have hstate : OwnedState w.recorded w.containers
      { launcher.state with
        processes := launcher.state.processes.filter fun record => record.pid ≠ pid } :=
    ⟨fun record hrecord => hlauncher.state.processes record (List.mem_filter.mp hrecord).1,
      hlauncher.state.containers⟩
  have hput := h.put id (hlauncher.withState hstate)
  unfold World.removeProcess
  dsimp only
  split
  · exact hput
  · split
    · exact hput.removeActiveState
    · exact hput.saveActiveState hstate

/-- The state that a cleanup reads. -/
theorem readState (h : Owned w) (hid : w.launchers id = some launcher) :
    OwnedState w.recorded w.containers (w.activeState.getD launcher.state) := by
  cases hfile : w.activeState with
  | none => exact (h.launchers id launcher hid).state
  | some state => exact h.file state hfile

theorem enterCleanup (h : Owned w) (hid : w.launchers id = some launcher) :
    Owned (w.enterCleanup id launcher) := by
  have hlauncher := h.launchers id launcher hid
  have hstate := h.readState hid
  have hrecords : ∀ record ∈ (w.activeState.getD launcher.state).processes.reverse,
      record.identity ∈ w.recorded :=
    fun record hrecord => hstate.processes record (List.mem_reverse.mp hrecord)
  have hcleanup : OwnedLauncher w.recorded w.containers
      { launcher with cleanup := some ⟨_, _, .terminating, none⟩ } :=
    hlauncher.withCleanup hrecords (List.Subset.refl _)
  exact { h.put id hcleanup with
    removed := fun container hcontainer => by
      rcases List.mem_append.mp hcontainer with hcontainer | hcontainer
      · rcases List.mem_map.mp hcontainer with ⟨record, hrecord, rfl⟩
        exact hstate.containers record (List.mem_reverse.mp hrecord)
      · exact h.removed hcontainer }

theorem advanceCleanup {cleanup : Cleanup} (h : Owned w) (hid : w.launchers id = some launcher)
    (hcleanup : launcher.cleanup = some cleanup) : Owned (w.advanceCleanup id launcher cleanup) := by
  have hlauncher := h.launchers id launcher hid
  have hrecords := hlauncher.records cleanup hcleanup
  have hremaining := hlauncher.remaining cleanup hcleanup
  have hnext : ∀ {phase remaining looked}, remaining ⊆ cleanup.records →
      Owned (w.put id { launcher with cleanup := some ⟨cleanup.records, remaining, phase, looked⟩ }) :=
    fun hsubset => h.put id (hlauncher.withCleanup hrecords hsubset)
  have hloop : ∀ {record remaining signal}, cleanup.remaining = record :: remaining →
      Owned (w.advanceLoop id launcher cleanup record remaining signal) := by
    intro record remaining signal heq
    have hrest : remaining ⊆ cleanup.records := fun other hother =>
      hremaining (by simp [heq, hother])
    unfold World.advanceLoop
    split
    · split
      · exact hnext hremaining
      · exact hnext hrest
    · next known hlooked =>
      have hrecord : record ∈ cleanup.records := hremaining (by simp [heq])
      have howned : Owned (w.kill id record signal known) := h.kill signal known (hrecords record hrecord)
      rcases w.kill_eq id record signal known with ⟨signals, heq', -⟩
      rw [heq'] at howned ⊢
      exact howned.put id (hlauncher.withCleanup hrecords hrest)
  unfold World.advanceCleanup
  split
  · next hphase hleft => exact hloop hleft
  · exact hnext (List.nil_subset _)
  · exact hnext (List.Subset.refl _)
  · next hphase hleft => exact hloop hleft
  · exact h.removeActiveState.drop

theorem release (h : Owned w) : Owned (w.release id launcher) := by
  unfold World.release
  split
  · exact h.removeActiveState
  · exact h.removeActiveState.drop

theorem step (h : Owned w) (hstep : Step w e w') : Owned w' := by
  cases hstep with
  | processStarts hfree => exact h.start hfree
  | processExits => exact h.exit
  | launch hnew => exact h.put _ (.idle (.empty _) _)
  | command hnew => exact h.put _ (.idle (.empty _) _)
  | teardown hnew hfound => exact h.put _ (.idle (h.file _ hfound) _)
  | accept hid hawaits hstage hnone => exact h.put _ ((h.launchers _ _ hid).withStage _)
  | persist hid hawaits hstage =>
    have hlauncher := h.launchers _ _ hid
    exact (h.put _ (hlauncher.withStage _)).saveActiveState hlauncher.state
  | spawn hid hawaits hstage hfree => exact h.spawn hfree
  | register hid hawaits hstage hawaited halive => exact h.register hid (h.awaited _ hawaited _ halive)
  | giveUp hid hawaits => exact h.giveUp
  | startContainer hid hawaits hstage => exact h.startContainer hid
  | exited hid hawaits hstage hgone => exact h.removeProcess hid
  | cleanup hid hfirst => exact h.enterCleanup hid
  | advance hid hcleanup => exact h.advanceCleanup hid hcleanup
  | release hid hawaits hstage hprocesses hcontainers => exact h.release
  | stop hid => exact h.drop

theorem initially {running : ℕ → Option String} {seen : List Identity}
    (hseen : ∀ pid startTicks, running pid = some startTicks → ⟨pid, startTicks⟩ ∈ seen) :
    Owned (initial running seen) where
  alive identity halive := hseen _ _ halive
  children := by simp [initial]
  recorded := by simp [initial]
  awaited := by simp [initial]
  file _ hfile := by cases hfile
  launchers _ _ hid := by cases hid
  signals := by simp [initial]
  removed := by simp [initial]

end Owned

theorem Owned.run (h : Owned w) (hrun : Reaches w w') : Owned w' := by
  induction hrun with
  | refl => exact h
  | tail _ hstep ih =>
    rcases hstep with ⟨e, hstep⟩
    exact ih.step hstep

/-! Who gets a signal. -/

/-- Of the processes that there had been when a launcher looked, no other can have the ID now. -/
def Aims (w : World) (cleanup : Cleanup) : Prop := ∀ known, cleanup.looked = some known →
  known ⊆ w.seen ∧ ∀ record remaining, cleanup.remaining = record :: remaining →
    ∀ identity ∈ known, identity.pid = record.pid → w.Alive identity → identity = record.identity

/-- A signal reaches the process it is meant for, or one that has been given its ID since. -/
def Hits (sent : Sent) : Prop :=
  sent.target.pid = sent.record.pid ∧
    (sent.target = sent.record.identity ∨ sent.target ∉ sent.known)

structure Aimed (w : World) : Prop where
  cleanups : ∀ id launcher cleanup, w.launchers id = some launcher →
    launcher.cleanup = some cleanup → Aims w cleanup
  signals : ∀ sent ∈ w.signals, Hits sent

theorem Aims.elapse {cleanup : Cleanup} (h : Aims w cleanup) (helapses : Elapses w w') :
    Aims w' cleanup := by
  intro known hlooked
  rcases h known hlooked with ⟨hseen, haims⟩
  refine ⟨List.Subset.trans hseen helapses.seen, fun record remaining heq identity hknown hpid halive => ?_⟩
  exact haims record remaining heq identity hknown hpid
    (helapses.alive identity (hseen hknown) halive)

theorem Aims.unlooked {cleanup : Cleanup} (h : cleanup.looked = none) : Aims w cleanup := by
  intro known hlooked
  cases h.symm.trans hlooked

/-- A launcher has found a process running. -/
theorem Aims.look {cleanup : Cleanup} {remaining : List ProcessRecord} (halive : w.Alive record.identity)
    (heq : cleanup.remaining = record :: remaining) :
    Aims w { cleanup with looked := some w.seen } := by
  rintro _ ⟨⟩
  refine ⟨List.Subset.refl _, fun other rest heq' identity hknown hpid hother => ?_⟩
  cases heq.symm.trans heq'
  have hticks : some identity.startTicks = some record.startTicks := by
    rw [← hother, hpid]
    exact halive
  exact Identity.ext hpid (Option.some.inj hticks)

namespace Aimed

theorem elapse (h : Aimed w) (helapses : Elapses w w') (hlaunchers : w'.launchers = w.launchers)
    (hsignals : w'.signals = w.signals) : Aimed w' where
  cleanups id launcher cleanup hid hcleanup := by
    rw [hlaunchers] at hid
    exact (h.cleanups id launcher cleanup hid hcleanup).elapse helapses
  signals := by
    rw [hsignals]
    exact h.signals

theorem put (h : Aimed w) (id : ℕ) (haims : ∀ cleanup, launcher.cleanup = some cleanup → Aims w cleanup) :
    Aimed (w.put id launcher) where
  cleanups other launcher' cleanup hother hcleanup := by
    rcases World.put_eq_some hother with ⟨-, rfl⟩ | ⟨-, hother⟩
    · exact haims cleanup hcleanup
    · exact h.cleanups other launcher' cleanup hother hcleanup
  signals := h.signals

theorem putIdle (h : Aimed w) (id : ℕ) (hidle : launcher.cleanup = none) :
    Aimed (w.put id launcher) :=
  h.put id fun _ hcleanup => by cases hidle.symm.trans hcleanup

/-- A launcher changes, but not its cleanup. -/
theorem same (h : Aimed w) (hid : w.launchers id = some launcher)
    (hlaunchers : w'.launchers = (w.put id launcher').launchers)
    (hsame : launcher'.cleanup = launcher.cleanup) (helapses : Elapses w w')
    (hsignals : w'.signals = w.signals) : Aimed w' := by
  have hput : Aimed (w.put id launcher') := h.put id fun cleanup hcleanup =>
    h.cleanups id launcher cleanup hid (hsame.symm.trans hcleanup)
  exact hput.elapse ⟨helapses.seen, helapses.signals, helapses.alive⟩ hlaunchers hsignals

theorem drop (h : Aimed w) : Aimed (w.drop id) where
  cleanups other launcher cleanup hother hcleanup :=
    h.cleanups other launcher cleanup (World.drop_eq_some hother).2 hcleanup
  signals := h.signals

theorem release (h : Aimed w) : Aimed (w.release id launcher) := by
  have hremoved : Aimed w.removeActiveState := { h with }
  unfold World.release
  split
  · exact hremoved
  · exact hremoved.drop

/-- Whoever has the ID gets the signal. -/
theorem kill {cleanup : Cleanup} {known : List Identity} {remaining : List ProcessRecord} (h : Aimed w)
    (haims : Aims w cleanup) (hlooked : cleanup.looked = some known)
    (heq : cleanup.remaining = record :: remaining) (signal : Signal) :
    Aimed (w.kill id record signal known) := by
  unfold World.kill
  split
  · next startTicks hrunning =>
    refine ⟨h.cleanups, fun sent hsent => ?_⟩
    rcases List.mem_cons.mp hsent with rfl | hsent
    · refine ⟨rfl, ?_⟩
      by_cases hknown : (⟨record.pid, startTicks⟩ : Identity) ∈ known
      · exact .inl ((haims known hlooked).2 record remaining heq _ hknown rfl hrunning)
      · exact .inr hknown
    · exact h.signals sent hsent
  · exact h

theorem advanceCleanup {cleanup : Cleanup} (h : Aimed w) (hid : w.launchers id = some launcher)
    (hcleanup : launcher.cleanup = some cleanup) : Aimed (w.advanceCleanup id launcher cleanup) := by
  have haims := h.cleanups id launcher cleanup hid hcleanup
  have hput : ∀ cleanup', Aims w cleanup' →
      Aimed (w.put id { launcher with cleanup := some cleanup' }) := by
    intro cleanup' haims'
    refine h.put id ?_
    rintro _ ⟨⟩
    exact haims'
  have hloop : ∀ {record remaining signal}, cleanup.remaining = record :: remaining →
      Aimed (w.advanceLoop id launcher cleanup record remaining signal) := by
    intro record remaining signal heq
    unfold World.advanceLoop
    split
    · next hlooked =>
      split
      · next halive => exact hput _ (.look halive heq)
      · exact hput _ (.unlooked hlooked)
    · next known hlooked =>
      have hkilled : Aimed (w.kill id record signal known) := h.kill haims hlooked heq signal
      refine hkilled.put id ?_
      rintro _ ⟨⟩
      exact .unlooked rfl
  unfold World.advanceCleanup
  split
  · next hphase hleft => exact hloop hleft
  · exact hput _ (.unlooked rfl)
  · exact hput _ (.unlooked rfl)
  · next hphase hleft => exact hloop hleft
  · exact drop { h with }

theorem step (h : Aimed w) (hstep : Step w e w') : Aimed w' := by
  have helapses := step_elapses hstep
  cases hstep with
  | processStarts | processExits | spawn | giveUp => exact h.elapse helapses rfl rfl
  | launch hnew | command hnew | teardown hnew hfound => exact h.putIdle _ rfl
  | accept hid hawaits | persist hid hawaits | register hid hawaits | startContainer hid hawaits =>
    exact h.same hid rfl rfl helapses rfl
  | @exited id pid launcher hid hawaits hstage hgone =>
    rcases World.removeProcess_eq w id launcher pid with ⟨activeState, heq⟩
    rw [heq] at helapses ⊢
    exact h.same hid rfl rfl helapses rfl
  | cleanup hid hfirst =>
    refine { h.put _ ?_ with }
    rintro _ ⟨⟩
    exact .unlooked rfl
  | advance hid hcleanup => exact h.advanceCleanup hid hcleanup
  | release hid hawaits hstage hprocesses hcontainers => exact h.release
  | stop hid => exact h.drop

theorem initially (running : ℕ → Option String) (seen : List Identity) :
    Aimed (initial running seen) where
  cleanups _ _ _ hid := by cases hid
  signals := by simp [initial]

theorem run (h : Aimed w) (hrun : Reaches w w') : Aimed w' := by
  induction hrun with
  | refl => exact h
  | tail _ hstep ih =>
    rcases hstep with ⟨e, hstep⟩
    exact ih.step hstep

end Aimed

theorem local_terminates_reaches : Reaches localInitial localTerminated :=
  (local_reaches.tail ⟨_, local_enters⟩).trans
    (Relation.ReflTransGen.mono (fun _ _ hstep => ⟨_, hstep⟩) _ _ local_terminates)

end DogeOperator.OwnedProcesses
