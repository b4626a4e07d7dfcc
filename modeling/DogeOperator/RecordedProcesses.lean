import DogeOperator.CleanupRuns

/-! Where launchers run one at a time, and a command only where no state has been left, the state file
leads to every recorded process, across crashes too. -/
namespace DogeOperator.RecordedProcesses
open ProcessOwnership OwnedProcesses CleanupRuns

variable {w w' : World} {e : Event} {id : ℕ} {launcher : Launcher}
  {processes processes' : List ProcessRecord}

/-- Launchers one after the other, those for a command only where there is no state file; and a launcher
that shuts down starts and records nothing more. -/
def Orderly (w : World) : Event → Prop
  | .launch _ _ => ∀ id, w.launchers id = none
  | .teardown _ => ∀ id, w.launchers id = none
  | .command _ _ => (∀ id, w.launchers id = none) ∧ w.activeState = none
  | .spawn id _ _ => ∀ launcher, w.launchers id = some launcher → launcher.cleanup = none
  | .register id _ _ => ∀ launcher, w.launchers id = some launcher → launcher.cleanup = none
  | .startContainer id _ => ∀ launcher, w.launchers id = some launcher → launcher.cleanup = none
  | _ => True

/-- Every process that has been recorded is among these, or it is settled. -/
def Covers (w : World) (processes : List ProcessRecord) : Prop :=
  ∀ identity ∈ w.recorded, Settled Set.univ w identity ∨ ∃ record ∈ processes, record.identity = identity

def fileProcesses (w : World) : List ProcessRecord :=
  (w.activeState.map ActiveState.processes).getD []

theorem Covers.mono (h : Covers w processes) (hsubset : processes ⊆ processes') :
    Covers w processes' := by
  intro identity hrecorded
  refine (h identity hrecorded).imp_right ?_
  rintro ⟨record, hrecord, heq⟩
  exact ⟨record, hsubset hrecord, heq⟩

theorem Covers.elapse (h : Covers w processes) (hseen : w.recorded ⊆ w.seen)
    (helapses : Elapses w w') (hrecorded : w'.recorded = w.recorded) : Covers w' processes := by
  intro identity hidentity
  rw [hrecorded] at hidentity
  exact (h identity hidentity).imp_left fun hsettled => hsettled.elapse (hseen hidentity) helapses

/-- A launcher that has started components keeps them all in memory, and one that cleans up has all of
them before it. -/
structure TracksLauncher (w : World) (launcher : Launcher) : Prop where
  admitted : launcher.stage = .admitted → w.activeState = none
  memory : launcher.stage = .running → Covers w launcher.state.processes
  records : ∀ cleanup, launcher.cleanup = some cleanup → Covers w cleanup.records
  killing : ∀ cleanup, launcher.cleanup = some cleanup → cleanup.phase = .killing →
    ∀ record ∈ cleanup.records, record ∈ cleanup.remaining ∨ Settled Set.univ w record.identity

structure Tracked (w : World) : Prop where
  alone : ∀ id id' launcher launcher', w.launchers id = some launcher →
    w.launchers id' = some launcher' → id = id'
  file : Covers w (fileProcesses w)
  launchers : ∀ id launcher, w.launchers id = some launcher → TracksLauncher w launcher

theorem TracksLauncher.elapse (h : TracksLauncher w launcher) (hseen : w.recorded ⊆ w.seen)
    (helapses : Elapses w w') (hrecorded : w'.recorded = w.recorded)
    (hfile : w'.activeState = w.activeState) (hrecords : ∀ cleanup, launcher.cleanup = some cleanup →
      ∀ record ∈ cleanup.records, record.identity ∈ w.seen) : TracksLauncher w' launcher where
  admitted hstage := hfile.trans (h.admitted hstage)
  memory hstage := (h.memory hstage).elapse hseen helapses hrecorded
  records cleanup hcleanup := (h.records cleanup hcleanup).elapse hseen helapses hrecorded
  killing cleanup hcleanup hphase record hrecord :=
    (h.killing cleanup hcleanup hphase record hrecord).imp_right fun hsettled =>
      hsettled.elapse (hrecords cleanup hcleanup record hrecord) helapses

namespace Tracked

theorem others (h : Tracked w) (hid : w.launchers id = some launcher) {other : ℕ} (hother : other ≠ id) :
    w.launchers other = none := by
  cases hlauncher : w.launchers other with
  | none => rfl
  | some launcher' => exact absurd (h.alone _ _ _ _ hlauncher hid) hother

/-- Nothing but time has passed. -/
theorem elapse (h : Tracked w) (howned : Owned w) (helapses : Elapses w w')
    (hlaunchers : w'.launchers = w.launchers) (hfile : w'.activeState = w.activeState)
    (hrecorded : w'.recorded = w.recorded) : Tracked w' where
  alone := by
    rw [hlaunchers]
    exact h.alone
  file := by
    rw [fileProcesses, hfile]
    exact h.file.elapse howned.recorded_seen helapses hrecorded
  launchers id launcher hid := by
    rw [hlaunchers] at hid
    exact (h.launchers id launcher hid).elapse howned.recorded_seen helapses hrecorded hfile
      fun cleanup hcleanup record hrecord => howned.recorded_seen
        ((howned.launchers id launcher hid).records cleanup hcleanup record hrecord)

/-- The one launcher there is. -/
theorem sole (hlaunchers : ∀ other launcher', w.launchers other = some launcher' →
      other = id ∧ launcher' = launcher)
    (hfile : Covers w (fileProcesses w)) (hlauncher : TracksLauncher w launcher) : Tracked w where
  alone _ _ _ _ hid hid' := (hlaunchers _ _ hid).1.trans (hlaunchers _ _ hid').1.symm
  file := hfile
  launchers other launcher' hother := by
    rw [(hlaunchers other launcher' hother).2]
    exact hlauncher

theorem put_sole (hothers : ∀ other, other ≠ id → w.launchers other = none) (other : ℕ)
    (launcher' : Launcher) (hother : (w.put id launcher).launchers other = some launcher') :
    other = id ∧ launcher' = launcher := by
  rcases World.put_eq_some hother with hsame | ⟨hne, hother⟩
  · exact hsame
  · cases (hothers other hne).symm.trans hother

theorem put_others (h : Tracked w) (hid : w.launchers id = some launcher) (launcher' : Launcher)
    (other : ℕ) (launcher'' : Launcher)
    (hother : (w.put id launcher').launchers other = some launcher'') :
    other = id ∧ launcher'' = launcher' :=
  put_sole (fun _ hne => h.others hid hne) other launcher'' hother

theorem drop (h : Tracked w) : Tracked (w.drop id) where
  alone _ _ _ _ hid hid' :=
    h.alone _ _ _ _ (World.drop_eq_some hid).2 (World.drop_eq_some hid').2
  file := h.file
  launchers other launcher hother :=
    { h.launchers other launcher (World.drop_eq_some hother).2 with }

/-- Without a state file nothing is left to settle. -/
theorem covered (h : Tracked w) (hnone : w.activeState = none) : Covers w [] := by
  have hcovers := h.file
  rwa [fileProcesses, hnone] at hcovers

/-- A launcher that has neither started nor recorded anything. -/
theorem launch {stage : Stage} {state : ActiveState} (h : Tracked w)
    (halone : ∀ id, w.launchers id = none) (hadmitted : stage ≠ .admitted)
    (hrunning : stage = .running → w.activeState = none) : Tracked (w.put id ⟨stage, state, none⟩) := by
  have hlauncher : TracksLauncher w ⟨stage, state, none⟩ := {
    admitted := fun hstage => absurd hstage hadmitted
    memory := fun hstage => (h.covered (hrunning hstage)).mono (List.nil_subset _)
    records := fun _ hcleanup => by cases hcleanup
    killing := fun _ hcleanup => by cases hcleanup }
  exact sole (put_sole fun other _ => halone other) h.file { hlauncher with }

theorem accept (h : Tracked w) (hid : w.launchers id = some launcher) (hnone : w.activeState = none) :
    Tracked (w.put id { launcher with stage := .admitted }) := by
  have hlauncher := h.launchers id launcher hid
  refine sole (h.put_others hid _) h.file ?_
  exact { hlauncher with
    admitted := fun _ => hnone
    memory := fun hstage => by cases hstage }

/-- The state is written where there has been none. -/
theorem persist (h : Tracked w) (hid : w.launchers id = some launcher)
    (hstage : launcher.stage = .admitted) :
    Tracked ((w.put id { launcher with stage := .running }).saveActiveState launcher.state) := by
  have hlauncher := h.launchers id launcher hid
  have hcovers : Covers w launcher.state.processes :=
    (h.covered (hlauncher.admitted hstage)).mono (List.nil_subset _)
  refine sole (h.put_others hid _) hcovers ?_
  exact { hlauncher with
    admitted := fun hstage => by cases hstage
    memory := fun _ => hcovers }

/-- A launcher that does not clean up writes what it has in memory. -/
theorem save {state : ActiveState} (h : Tracked w) (hid : w.launchers id = some launcher)
    (hstage : launcher.stage = .running) (hidle : launcher.cleanup = none)
    (hlaunchers : w'.launchers = (w.put id { launcher with state }).launchers)
    (hmemory : Covers w' state.processes)
    (hfile : w'.activeState = some state ∨ (w'.activeState = none ∧ state.processes = [])) :
    Tracked w' := by
  refine @sole w' id { launcher with state } ?_ ?_ ?_
  · rw [hlaunchers]
    exact h.put_others hid _
  · rcases hfile with hsaved | ⟨hnone, hempty⟩
    · rwa [fileProcesses, hsaved]
    · rw [fileProcesses, hnone]
      rwa [hempty] at hmemory
  · exact {
      admitted := fun hadmitted => by cases hadmitted.symm.trans hstage
      memory := fun _ => hmemory
      records := fun _ hcleanup => by cases hidle.symm.trans hcleanup
      killing := fun _ hcleanup => by cases hidle.symm.trans hcleanup }

theorem register {record : ProcessRecord} (h : Tracked w) (hid : w.launchers id = some launcher)
    (hstage : launcher.stage = .running) (hidle : launcher.cleanup = none) :
    Tracked (w.register id launcher record) := by
  refine h.save hid hstage hidle rfl ?_ (.inl rfl)
  intro identity hidentity
  rcases List.mem_cons.mp hidentity with rfl | hidentity
  · exact .inr ⟨record, by simp, rfl⟩
  · exact ((h.launchers id launcher hid).memory hstage).mono (List.subset_append_left _ _)
      identity hidentity

theorem startContainer {container : ContainerRecord} (h : Tracked w)
    (hid : w.launchers id = some launcher) (hstage : launcher.stage = .running)
    (hidle : launcher.cleanup = none) : Tracked (w.startContainer id launcher container) :=
  h.save hid hstage hidle rfl ((h.launchers id launcher hid).memory hstage) (.inl rfl)

/-- Only processes that are gone are removed from the records. -/
theorem removeProcess {pid : ℕ} (h : Tracked w) (hid : w.launchers id = some launcher)
    (hstage : launcher.stage = .running)
    (hgone : ∀ record ∈ launcher.state.processes, record.pid = pid → ¬ w.Alive record.identity) :
    Tracked (w.removeProcess id launcher pid) := by
  have hlauncher := h.launchers id launcher hid
  have hmemory : Covers w
      (launcher.state.processes.filter fun record => record.pid ≠ pid) := by
    intro identity hidentity
    rcases hlauncher.memory hstage identity hidentity with hsettled | ⟨record, hrecord, rfl⟩
    · exact .inl hsettled
    · by_cases hpid : record.pid = pid
      · exact .inl (.inl (hgone record hrecord hpid))
      · exact .inr ⟨record, List.mem_filter.mpr ⟨hrecord, by simp [hpid]⟩, rfl⟩
  unfold World.removeProcess
  dsimp only
  split
  · refine sole (h.put_others hid _) h.file ?_
    exact { hlauncher with memory := fun _ => hmemory }
  · next hrunning =>
    have hidle : launcher.cleanup = none := by simpa [Launcher.shuttingDown] using hrunning
    split
    · next hempty => exact h.save hid hstage hidle rfl hmemory (.inr ⟨rfl, hempty.1⟩)
    · exact h.save hid hstage hidle rfl hmemory (.inl rfl)

theorem enterCleanup (h : Tracked w) (hid : w.launchers id = some launcher) :
    Tracked (w.enterCleanup id launcher) := by
  have hlauncher := h.launchers id launcher hid
  have hcovers : Covers w (w.activeState.getD launcher.state).processes.reverse := by
    have hfile := h.file
    rw [fileProcesses] at hfile
    cases hactive : w.activeState with
    | none =>
      rw [hactive] at hfile
      exact hfile.mono (List.nil_subset _)
    | some state =>
      rw [hactive] at hfile
      exact hfile.mono (List.subset_reverse.mpr (List.Subset.refl _))
  refine sole (h.put_others hid _) h.file ?_
  exact { hlauncher with
    records := by
      rintro _ ⟨⟩
      exact hcovers
    killing := by
      rintro _ ⟨⟩ hphase
      cases hphase }

/-- The file is removed where all records are settled. -/
theorem removeActiveState (h : Tracked w) (hsettled : Covers w []) : Tracked w.removeActiveState where
  alone := h.alone
  file := hsettled
  launchers id launcher hid := { h.launchers id launcher hid with admitted := fun _ => rfl }

theorem advanceCleanup {cleanup : Cleanup} (h : Tracked w) (howned : Owned w)
    (hid : w.launchers id = some launcher) (hcleanup : launcher.cleanup = some cleanup) :
    Tracked (w.advanceCleanup id launcher cleanup) := by
  have hlauncher := h.launchers id launcher hid
  have hcovers := hlauncher.records cleanup hcleanup
  have hkilling := hlauncher.killing cleanup hcleanup
  have hseen : ∀ record ∈ cleanup.records, record.identity ∈ w.seen := fun record hrecord =>
    howned.recorded_seen ((howned.launchers id launcher hid).records cleanup hcleanup record hrecord)
  have hprogress : Progress Set.univ cleanup.records id (w.advanceCleanup id launcher cleanup) :=
    progress_advance (Set.mem_univ id) hkilling hseen
  have helapses := (keeps_advanceCleanup w id launcher cleanup).elapses
  rcases w.advanceCleanup_cases id launcher cleanup with
    ⟨signals, remaining, phase, looked, -, heq⟩ | ⟨hphase, hremaining, heq⟩
  · rw [heq] at hprogress helapses ⊢
    refine sole (put_sole fun other => h.others hid)
      (h.file.elapse howned.recorded_seen helapses rfl) ?_
    exact {
      admitted := hlauncher.admitted
      memory := fun hstage => (hlauncher.memory hstage).elapse howned.recorded_seen helapses rfl
      records := by
        rintro _ ⟨⟩
        exact hcovers.elapse howned.recorded_seen helapses rfl
      killing := by
        rintro _ ⟨⟩ hphase record hrecord
        rcases hprogress with ⟨cleanup', ⟨launcher', hid', hcleanup'⟩, -, hkilling'⟩ | hsettled
        · cases (World.put_self _ _ _).symm.trans hid'
          cases hcleanup'
          exact hkilling' hphase record hrecord
        · exact .inr (hsettled record hrecord) }
  · rw [heq]
    have hsettled : Covers w [] := by
      intro identity hidentity
      rcases hcovers identity hidentity with hsettled | ⟨record, hrecord, rfl⟩
      · exact .inl hsettled
      · refine .inl ((hkilling hphase record hrecord).resolve_left ?_)
        rw [hremaining]
        exact List.not_mem_nil
    exact (h.removeActiveState hsettled).drop

theorem release (h : Tracked w) (hid : w.launchers id = some launcher)
    (hstage : launcher.stage = .running) (hprocesses : launcher.state.processes = []) :
    Tracked (w.release id launcher) := by
  have hsettled : Covers w [] := by
    rw [← hprocesses]
    exact (h.launchers id launcher hid).memory hstage
  unfold World.release
  split
  · exact h.removeActiveState hsettled
  · exact (h.removeActiveState hsettled).drop

theorem step (h : Tracked w) (howned : Owned w) (hstep : Step w e w') (horderly : Orderly w e) :
    Tracked w' := by
  have helapses := step_elapses hstep
  cases hstep with
  | processStarts | processExits | spawn | giveUp => exact h.elapse howned helapses rfl rfl rfl
  | launch hnew => exact h.launch horderly (by decide) fun hstage => by cases hstage
  | command hnew => exact h.launch horderly.1 (by decide) fun _ => horderly.2
  | teardown hnew hfound => exact h.launch horderly (by decide) fun hstage => by cases hstage
  | accept hid hawaits hstage hnone => exact h.accept hid hnone
  | persist hid hawaits hstage => exact h.persist hid hstage
  | register hid hawaits hstage hawaited halive =>
    exact h.register hid hstage (horderly _ hid)
  | startContainer hid hawaits hstage => exact h.startContainer hid hstage (horderly _ hid)
  | exited hid hawaits hstage hgone => exact h.removeProcess hid hstage hgone
  | cleanup hid hfirst => exact h.enterCleanup hid
  | advance hid hcleanup => exact h.advanceCleanup howned hid hcleanup
  | release hid hawaits hstage hprocesses hcontainers => exact h.release hid hstage hprocesses
  | stop hid => exact h.drop

theorem initially (running : ℕ → Option String) (seen : List Identity) :
    Tracked (initial running seen) where
  alone _ _ _ _ hid := by cases hid
  file _ hidentity := by cases hidentity
  launchers _ _ hid := by cases hid

end Tracked

def OrderlyRun : World → World → Prop :=
  Relation.ReflTransGen fun w w' => ∃ e, Orderly w e ∧ Step w e w'

theorem OrderlyRun.tracked (howned : Owned w) (h : Tracked w) (hrun : OrderlyRun w w') :
    Owned w' ∧ Tracked w' := by
  induction hrun with
  | refl => exact ⟨howned, h⟩
  | tail _ hstep ih =>
    rcases hstep with ⟨e, horderly, hstep⟩
    exact ⟨ih.1.step hstep, ih.2.step ih.1 hstep horderly⟩

/-- After an orderly history, with launchers that may have been killed at any point, a cleanup that is not
interrupted leaves none of the processes that were ever recorded, unless a cleanup has killed them. -/
theorem orderly_cleanup_settles {running : ℕ → Option String} {seen : List Identity} {w'' : World}
    (hseen : ∀ pid startTicks, running pid = some startTicks → ⟨pid, startTicks⟩ ∈ seen)
    (hrun : OrderlyRun (initial running seen) w) (hcleanup : Step w (.cleanup id) w')
    (hrest : Uninterrupted id w' w'') (hgone : w''.launchers id = none) :
    ∀ identity ∈ w.recorded, Settled Set.univ w'' identity := by
  rcases hrun.tracked (.initially hseen) (.initially running seen) with ⟨howned, htracked⟩
  have helapses := (step_elapses hcleanup).trans hrest.elapses
  cases hcleanup with
  | @cleanup _ launcher hid hfirst =>
    intro identity hidentity
    rcases htracked.file identity hidentity with hsettled | ⟨record, hrecord, rfl⟩
    · exact hsettled.elapse (howned.recorded_seen hidentity) helapses
    · have hread : record ∈ (w.activeState.getD launcher.state).processes := by
        cases hactive : w.activeState with
        | none =>
          rw [fileProcesses, hactive] at hrecord
          cases hrecord
        | some state =>
          rw [fileProcesses, hactive] at hrecord
          exact hrecord
      exact (settled_after howned hid hrest hgone record hread).mono (Set.subset_univ _)

theorem local_orderly : OrderlyRun localInitial localStarted := by
  have hlaunched : Orderly localInitial (.launch 1 "run") := fun _ => rfl
  have hidle : ∀ launcher, localPersisted.launchers 1 = some launcher → launcher.cleanup = none := by
    intro launcher hid
    cases (World.put_self localAdmitted 1 _).symm.trans hid
    rfl
  exact .head ⟨.launch 1 "run", hlaunched, local_launches⟩
    (.head ⟨.accept 1, trivial, local_accepts⟩ (.head ⟨.persist 1, trivial, local_persists⟩
      (.head ⟨.spawn 1 "dogecoind" localRecord.identity, hidle, local_spawns⟩
        (.single ⟨.register 1 "dogecoind" localRecord.identity, hidle, local_registers⟩))))

theorem orderly_cleanup_settles_local : Settled Set.univ localCleaned localRecord.identity :=
  orderly_cleanup_settles (fun _ _ hrunning => by cases hrunning) local_orderly local_enters
    local_uninterrupted (by decide) _ List.mem_cons_self

end DogeOperator.RecordedProcesses
