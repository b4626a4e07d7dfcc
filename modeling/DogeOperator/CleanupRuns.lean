import Mathlib.Data.Set.Insert
import DogeOperator.OwnedProcesses

/-! A cleanup that comes to its end leaves none of the recorded processes behind without having killed
it. -/
namespace DogeOperator.CleanupRuns
open ProcessOwnership OwnedProcesses

variable {w w' : World} {e : Event} {id other : ℕ} {launcher launcher' : Launcher}
  {cleanup cleanup' : Cleanup} {identity : Identity} {killers : Set ℕ}

/-- The process is gone, or one of these launchers has killed it. -/
def Settled (killers : Set ℕ) (w : World) (identity : Identity) : Prop :=
  ¬ w.Alive identity ∨ ∃ sent ∈ w.signals, sent.launcher ∈ killers ∧ sent.target = identity ∧
    sent.signal = .sigkill

/-- A process that is settled stays so: an ID is given out again, but not with the same start time. -/
theorem Settled.elapse (h : Settled killers w identity) (hseen : identity ∈ w.seen)
    (helapses : Elapses w w') : Settled killers w' identity := by
  refine h.imp (fun hgone hback => hgone (helapses.alive identity hseen hback)) ?_
  rintro ⟨sent, hsent, hkilled⟩
  exact ⟨sent, helapses.signals hsent, hkilled⟩

theorem Settled.mono {killers' : Set ℕ} (h : Settled killers w identity)
    (hkillers : killers ⊆ killers') : Settled killers' w identity := by
  refine h.imp_right ?_
  rintro ⟨sent, hsent, hkiller, hkilled⟩
  exact ⟨sent, hsent, hkillers hkiller, hkilled⟩

/-! One cleanup, from its start on. -/

/-- A launcher that cleans up goes on with it, whatever else it does. -/
def Cleans (w : World) (id : ℕ) (cleanup : Cleanup) : Prop :=
  ∃ launcher, w.launchers id = some launcher ∧ launcher.cleanup = some cleanup

theorem Cleans.put_other (h : Cleans w id cleanup) (hother : id ≠ other) :
    Cleans (w.put other launcher) id cleanup := by
  rcases h with ⟨l, hid, hcleanup⟩
  exact ⟨l, (World.put_of_ne hother).trans hid, hcleanup⟩

theorem Cleans.put (h : Cleans w id cleanup) (hother : w.launchers other = some launcher)
    (hsame : launcher'.cleanup = launcher.cleanup) : Cleans (w.put other launcher') id cleanup := by
  by_cases hne : id = other
  · subst hne
    rcases h with ⟨l, hid, hcleanup⟩
    cases hother.symm.trans hid
    exact ⟨launcher', World.put_self _ _ _, hsame.trans hcleanup⟩
  · exact h.put_other hne

theorem Cleans.new (h : Cleans w id cleanup) (hnew : w.launchers other = none) : id ≠ other := by
  rintro rfl
  rcases h with ⟨l, hid, -⟩
  cases hnew.symm.trans hid

theorem Cleans.drop_other (h : Cleans w id cleanup) (hother : id ≠ other) :
    Cleans (w.drop other) id cleanup := by
  rcases h with ⟨l, hid, hcleanup⟩
  exact ⟨l, (World.drop_of_ne hother).trans hid, hcleanup⟩

theorem Cleans.removeProcess {pid : ℕ} (h : Cleans w id cleanup)
    (hother : w.launchers other = some launcher) :
    Cleans (w.removeProcess other launcher pid) id cleanup := by
  rcases w.removeProcess_eq other launcher pid with ⟨activeState, heq⟩
  rw [heq]
  exact h.put hother rfl

theorem Cleans.advance_other (h : Cleans w id cleanup) (hother : id ≠ other) :
    Cleans (w.advanceCleanup other launcher cleanup') id cleanup := by
  rcases w.advanceCleanup_cases other launcher cleanup' with
    ⟨signals, remaining, phase, looked, -, heq⟩ | ⟨-, -, heq⟩
  · rw [heq]
    exact h.put_other hother
  · rw [heq]
    exact h.drop_other hother

theorem Cleans.idle (h : Cleans w id cleanup) (hother : w.launchers other = some launcher)
    (hidle : launcher.cleanup = none) : id ≠ other := by
  rintro rfl
  rcases h with ⟨l, hid, hcleanup⟩
  cases hother.symm.trans hid
  cases hidle.symm.trans hcleanup

theorem Cleans.release (h : Cleans w id cleanup) (hother : w.launchers other = some launcher) :
    Cleans (w.release other launcher) id cleanup := by
  unfold World.release
  split
  · exact h
  · next hrunning =>
    have hidle : launcher.cleanup = none := by
      simpa [Launcher.shuttingDown] using hrunning
    exact h.drop_other (h.idle hother hidle)

theorem Cleans.step (h : Cleans w id cleanup) (hstep : Step w e w') (hstop : e ≠ .stop id)
    (hadvance : e ≠ .advance id) : Cleans w' id cleanup := by
  cases hstep with
  | processStarts | processExits | spawn | giveUp => exact h
  | launch hnew | command hnew | teardown hnew hfound => exact h.put_other (h.new hnew)
  | accept hother hawaits | persist hother hawaits | register hother hawaits | startContainer hother hawaits =>
    exact h.put hother rfl
  | exited hother hawaits hstage hgone => exact h.removeProcess hother
  | cleanup hother hfirst => exact h.put_other (h.idle hother hfirst)
  | advance hother hcleanup => exact h.advance_other fun hsame => hadvance (by rw [hsame])
  | release hother hawaits hstage hprocesses hcontainers => exact h.release hother
  | stop hother => exact h.drop_other fun hsame => hstop (by rw [hsame])

/-- A cleanup of these records is under way, and in its last loop it has settled those that it has
behind it; or it is over, and all are settled. -/
def Progress (killers : Set ℕ) (records : List ProcessRecord) (id : ℕ) (w : World) : Prop :=
  (∃ cleanup, Cleans w id cleanup ∧ cleanup.records = records ∧
    (cleanup.phase = .killing → ∀ record ∈ records, record ∈ cleanup.remaining ∨
      Settled killers w record.identity)) ∨
  ∀ record ∈ records, Settled killers w record.identity

section
variable {records : List ProcessRecord}

/-- Whoever has the ID is killed; that is the recorded process, if it is still there. -/
theorem settled_kill (hid : id ∈ killers) (w : World) (record : ProcessRecord)
    (known : List Identity) :
    Settled killers (w.kill id record .sigkill known) record.identity := by
  unfold World.kill
  split
  · next startTicks hrunning =>
    by_cases hsame : startTicks = record.startTicks
    · exact .inr ⟨_, List.mem_cons_self, hid, Identity.ext rfl hsame, rfl⟩
    · refine .inl fun halive => hsame ?_
      exact Option.some.inj (hrunning.symm.trans halive)
  · next hnone =>
    refine .inl fun halive => ?_
    cases hnone.symm.trans halive

/-- One turn of a loop: the first record stays, or it is left behind. -/
theorem advanceLoop_cleans {record : ProcessRecord} {remaining : List ProcessRecord}
    (hid : id ∈ killers) (w : World) (launcher : Launcher) (cleanup : Cleanup) (signal : Signal) :
    ∃ cleanup', Cleans (w.advanceLoop id launcher cleanup record remaining signal) id cleanup' ∧
      cleanup'.records = cleanup.records ∧ cleanup'.phase = cleanup.phase ∧
      (cleanup'.remaining = cleanup.remaining ∨ (cleanup'.remaining = remaining ∧
        (signal = .sigkill → Settled killers
          (w.advanceLoop id launcher cleanup record remaining signal) record.identity))) := by
  unfold World.advanceLoop
  split
  · split
    · exact ⟨_, ⟨_, World.put_self _ _ _, rfl⟩, rfl, rfl, .inl rfl⟩
    · next hgone => exact ⟨_, ⟨_, World.put_self _ _ _, rfl⟩, rfl, rfl, .inr ⟨rfl, fun _ => .inl hgone⟩⟩
  · next known hlooked =>
    refine ⟨_, ⟨_, World.put_self _ _ _, rfl⟩, rfl, rfl, .inr ⟨rfl, ?_⟩⟩
    rintro rfl
    exact settled_kill hid w record known

/-- One step of the cleanup itself. -/
theorem progress_advance (hid : id ∈ killers)
    (hkilling : cleanup.phase = .killing → ∀ record ∈ cleanup.records,
      record ∈ cleanup.remaining ∨ Settled killers w record.identity)
    (hseen : ∀ record ∈ cleanup.records, record.identity ∈ w.seen) :
    Progress killers cleanup.records id (w.advanceCleanup id launcher cleanup) := by
  have helapses := (keeps_advanceCleanup w id launcher cleanup).elapses
  unfold World.advanceCleanup at helapses ⊢
  split at helapses
  · next record remaining hphase hremaining =>
    rcases advanceLoop_cleans hid w launcher cleanup .sigterm with ⟨cleanup', hcleans, hrecords, hsame, -⟩
    refine .inl ⟨cleanup', hcleans, hrecords, fun hlast => ?_⟩
    cases (hsame.trans hphase).symm.trans hlast
  · exact .inl ⟨_, ⟨_, World.put_self _ _ _, rfl⟩, rfl, fun hlast => by cases hlast⟩
  · exact .inl ⟨_, ⟨_, World.put_self _ _ _, rfl⟩, rfl, fun _ _ hrecord => .inl hrecord⟩
  · next killed remaining hphase hremaining =>
    rcases advanceLoop_cleans hid w launcher cleanup .sigkill with
      ⟨cleanup', hcleans, hrecords, -, hleft⟩
    refine .inl ⟨cleanup', hcleans, hrecords, fun _ record hrecord => ?_⟩
    rcases hkilling hphase record hrecord with hmem | hsettled
    · rcases hleft with hall | ⟨hrest, hkilled⟩
      · exact .inl (hall ▸ hmem)
      · rw [hremaining] at hmem
        rcases List.mem_cons.mp hmem with rfl | hmem
        · exact .inr (hkilled rfl)
        · exact .inl (hrest ▸ hmem)
    · exact .inr (hsettled.elapse (hseen record hrecord) helapses)
  · next hphase hremaining =>
    refine .inr fun record hrecord => ?_
    rcases hkilling hphase record hrecord with hleft | hsettled
    · rw [hremaining] at hleft
      cases hleft
    · exact hsettled.elapse (hseen record hrecord) helapses

/-- Until the launcher is killed itself. -/
theorem Progress.step (hid : id ∈ killers) (h : Progress killers records id w) (hstep : Step w e w')
    (hstop : e ≠ .stop id) (hseen : ∀ record ∈ records, record.identity ∈ w.seen) :
    Progress killers records id w' := by
  have helapses := step_elapses hstep
  rcases h with ⟨cleanup, hcleans, rfl, hkilling⟩ | hsettled
  · by_cases hadvance : e = .advance id
    · subst hadvance
      cases hstep with
      | advance hlauncher hcleanup =>
        rcases hcleans with ⟨launcher, hlauncher', hcleanup'⟩
        cases hlauncher.symm.trans hlauncher'
        cases hcleanup.symm.trans hcleanup'
        exact progress_advance hid hkilling hseen
    · exact .inl ⟨cleanup, hcleans.step hstep hstop hadvance, rfl, fun hphase record hrecord =>
        (hkilling hphase record hrecord).imp_right fun hsettled =>
          hsettled.elapse (hseen record hrecord) helapses⟩
  · exact .inr fun record hrecord => (hsettled record hrecord).elapse (hseen record hrecord) helapses

/-- What can happen until the launcher itself is killed. -/
def Uninterrupted (id : ℕ) : World → World → Prop :=
  Relation.ReflTransGen fun v v' => ∃ e, e ≠ .stop id ∧ Step v e v'

theorem Uninterrupted.elapses (hrun : Uninterrupted id w w') : Elapses w w' := by
  induction hrun with
  | refl => exact Keeps.elapses ⟨rfl, rfl, List.Subset.refl _⟩
  | tail _ hstep ih =>
    rcases hstep with ⟨e, -, hstep⟩
    exact ih.trans (step_elapses hstep)

theorem Progress.run (hid : id ∈ killers) (h : Progress killers records id w)
    (hrun : Uninterrupted id w w') (hseen : ∀ record ∈ records, record.identity ∈ w.seen) :
    Progress killers records id w' := by
  have hboth : Progress killers records id w' ∧ ∀ record ∈ records, record.identity ∈ w'.seen := by
    induction hrun with
    | refl => exact ⟨h, hseen⟩
    | tail _ hstep ih =>
      rcases hstep with ⟨e, hstop, hstep⟩
      exact ⟨ih.1.step hid hstep hstop ih.2, fun record hrecord =>
        (step_elapses hstep).seen (ih.2 record hrecord)⟩
  exact hboth.1

theorem progress_enter (w : World) (id : ℕ) (launcher : Launcher) :
    Progress killers (w.activeState.getD launcher.state).processes.reverse id
      (w.enterCleanup id launcher) :=
  .inl ⟨_, ⟨_, World.put_self _ _ _, rfl⟩, rfl, fun hphase => by cases hphase⟩

/-- Once it is gone, all its records are settled. -/
theorem Progress.settled (h : Progress killers records id w) (hgone : w.launchers id = none) :
    ∀ record ∈ records, Settled killers w record.identity := by
  rcases h with ⟨cleanup, ⟨launcher, hid, -⟩, -⟩ | hsettled
  · cases hgone.symm.trans hid
  · exact hsettled

theorem settled_after (howned : Owned w) (hid : w.launchers id = some launcher)
    (hrun : Uninterrupted id (w.enterCleanup id launcher) w') (hgone : w'.launchers id = none) :
    ∀ record ∈ (w.activeState.getD launcher.state).processes,
      Settled {id} w' record.identity := by
  have hstate := howned.readState hid
  have hseen : ∀ record ∈ (w.activeState.getD launcher.state).processes.reverse,
      record.identity ∈ (w.enterCleanup id launcher).seen := fun record hrecord =>
    howned.recorded_seen (hstate.processes record (List.mem_reverse.mp hrecord))
  intro record hrecord
  exact ((progress_enter w id launcher).run (Set.mem_singleton id) hrun hseen).settled hgone record
    (List.mem_reverse.mpr hrecord)

theorem local_uninterrupted : Uninterrupted 1 localTerminating localCleaned :=
  Relation.ReflTransGen.mono (fun _ _ hstep => ⟨.advance 1, by simp, hstep⟩) _ _
    (local_terminates.trans local_kills)

end

end DogeOperator.CleanupRuns
