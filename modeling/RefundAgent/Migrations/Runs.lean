import RefundAgent.Migrations.Apply

/-!
# Concurrent migration runs

Any number of runs against one database.  A run waits for the advisory lock, reads
the history, applies its migrations one transaction at a time, and releases the
lock; every step of it may be interleaved with steps of other runs.  Each run does
what it would have done alone, from the state that it has read.
-/

namespace RefundAgent

open Foundation

/-- The migrations that a run has discovered, and the ones whose execution fails. -/
structure MigrationJob where
  migrations : List Migration
  fails : Migration -> Bool

/-- A run, by the point it has reached. -/
inductive MigrationRun (σ : Type) where
  | idle
  | refused (error : MigrationError)
  | waiting (job : MigrationJob)
  | locked (job : MigrationJob)
  | applying (job : MigrationJob) (old : MigrationDatabase σ)
      (applied : Dict String (String × String)) (rest : List Migration)
      (appliedNow : List String)
  | unlocking (job : MigrationJob) (old : MigrationDatabase σ)
      (result : Except MigrationError (List String))
  | ended (job : MigrationJob) (old new : MigrationDatabase σ)
      (result : Except MigrationError (List String))

inductive MigrationEvent where
  | start (run : Nat) (directory : List (String × List UInt8)) (fails : Migration -> Bool)
  | lock (run : Nat)
  | read (run : Nat)
  | next (run : Nat)
  | unlock (run : Nat)

structure MigrationWorld (σ : Type) where
  db : MigrationDatabase σ
  advisoryLock : Option Nat
  runs : Nat -> MigrationRun σ

namespace MigrationWorld

variable {σ : Type}

def start (db : MigrationDatabase σ) : MigrationWorld σ :=
  { db := db
    advisoryLock := none
    runs := fun _ => MigrationRun.idle }

def put (w : MigrationWorld σ) (i : Nat) (run : MigrationRun σ) : MigrationWorld σ :=
  { w with runs := fun j => if j = i then run else w.runs j }

theorem put_runs (w : MigrationWorld σ) (i : Nat) (run : MigrationRun σ) (j : Nat) :
    (w.put i run).runs j = if j = i then run else w.runs j := rfl

section Step

variable (lib : MigrationLibrary) (execute : String -> σ -> Option σ)

/-- One iteration of the loop, or what follows the last one. -/
def iterate (w : MigrationWorld σ) (i : Nat) (job : MigrationJob)
    (old : MigrationDatabase σ) (applied : Dict String (String × String))
    (appliedNow : List String) : List Migration -> MigrationWorld σ
  | [] => w.put i (MigrationRun.unlocking job old (Except.ok appliedNow))
  | m :: rest =>
      match applyMigration execute job.fails applied m appliedNow w.db with
      | Except.error e => w.put i (MigrationRun.unlocking job old (Except.error e))
      | Except.ok (appliedNow', db') =>
          { w with db := db' }.put i (MigrationRun.applying job old applied rest appliedNow')

/-- What one event does; nothing stands for an event that cannot happen. -/
def step (w : MigrationWorld σ) : MigrationEvent -> Option (MigrationWorld σ)
  | MigrationEvent.start i directory fails =>
      match w.runs i with
      | MigrationRun.idle =>
          match discoverMigrations lib directory with
          | Except.error e => some (w.put i (MigrationRun.refused e))
          | Except.ok migrations => some (w.put i (MigrationRun.waiting ⟨migrations, fails⟩))
      | _ => none
  | MigrationEvent.lock i =>
      match w.runs i, w.advisoryLock with
      | MigrationRun.waiting job, none =>
          some ({ w with advisoryLock := some i }.put i (MigrationRun.locked job))
      | _, _ => none
  | MigrationEvent.read i =>
      match w.runs i with
      | MigrationRun.locked job =>
          some ({ w with db := w.db.bootstrap }.put i
            (MigrationRun.applying job w.db
              (w.db.history.getD MigrationHistory.empty).applied job.migrations []))
      | _ => none
  | MigrationEvent.next i =>
      match w.runs i with
      | MigrationRun.applying job old applied rest appliedNow =>
          some (w.iterate execute i job old applied appliedNow rest)
      | _ => none
  | MigrationEvent.unlock i =>
      match w.runs i with
      | MigrationRun.unlocking job old result =>
          some ({ w with advisoryLock := none }.put i
            (MigrationRun.ended job old w.db result))
      | _ => none

def run (w : MigrationWorld σ) (events : List MigrationEvent) : Option (MigrationWorld σ) :=
  events.foldlM (step lib execute) w

end Step

/-!
## Every run is a run alone
-/

section Faithful

variable {lib : MigrationLibrary} {execute : String -> σ -> Option σ}
  {w w' : MigrationWorld σ} {i j : Nat}

/-- The run alone, from the state that the run has read. -/
abbrev alone (execute : String -> σ -> Option σ) (job : MigrationJob)
    (old : MigrationDatabase σ) :=
  applyMigrations execute job.fails job.migrations old

/-- A run at its point: the lock it holds, and what it will have done or has done. -/
def Standing (execute : String -> σ -> Option σ) (db : MigrationDatabase σ)
    (advisoryLock : Option Nat) (i : Nat) : MigrationRun σ -> Prop
  | MigrationRun.waiting job => MigrationsOrdered job.migrations
  | MigrationRun.locked job => advisoryLock = some i ∧ MigrationsOrdered job.migrations
  | MigrationRun.applying job old applied rest appliedNow =>
      advisoryLock = some i ∧ MigrationsOrdered job.migrations ∧
        applyLoop execute job.fails applied rest appliedNow db = alone execute job old
  | MigrationRun.unlocking job old result =>
      advisoryLock = some i ∧ MigrationsOrdered job.migrations ∧
        (result, db) = alone execute job old
  | MigrationRun.ended job old new result =>
      MigrationsOrdered job.migrations ∧ (result, new) = alone execute job old
  | _ => True

/-- The point of a run at which it holds the lock. -/
def Holds : MigrationRun σ -> Prop
  | MigrationRun.locked _ => True
  | MigrationRun.applying _ _ _ _ _ => True
  | MigrationRun.unlocking _ _ _ => True
  | _ => False

/-- Every run does what it would do alone. -/
def Faithful (execute : String -> σ -> Option σ) (w : MigrationWorld σ) : Prop :=
  forall i, Standing execute w.db w.advisoryLock i (w.runs i)

theorem Standing.holds {db : MigrationDatabase σ} {advisoryLock : Option Nat}
    {run : MigrationRun σ} (h : Standing execute db advisoryLock i run) (hholds : Holds run) :
    advisoryLock = some i := by
  cases run with
  | locked job => exact h.left
  | applying job old applied rest appliedNow => exact h.left
  | unlocking job old result => exact h.left
  | _ => cases hholds

/-- A run without the lock does not notice what happens to the database. -/
theorem Standing.frame {db db' : MigrationDatabase σ} {advisoryLock advisoryLock' : Option Nat}
    {run : MigrationRun σ} (h : Standing execute db advisoryLock i run)
    (hholds : ¬Holds run) : Standing execute db' advisoryLock' i run := by
  cases run with
  | locked job => exact absurd trivial hholds
  | applying job old applied rest appliedNow => exact absurd trivial hholds
  | unlocking job old result => exact absurd trivial hholds
  | waiting job => exact h
  | ended job old new result => exact h
  | _ => trivial

theorem Faithful.holder (h : Faithful execute w) (hlock : w.advisoryLock = some i)
    {db : MigrationDatabase σ} {advisoryLock : Option Nat} {run : MigrationRun σ}
    (hrun : Standing execute db advisoryLock i run) :
    Faithful execute
      ({ w with db := db, advisoryLock := advisoryLock }.put i run) := by
  intro j
  rw [put_runs]
  by_cases hj : j = i
  · rw [if_pos hj, hj]
    exact hrun
  · rw [if_neg hj]
    apply (h j).frame
    intro hholds
    have hother := (h j).holds hholds
    rw [hlock] at hother
    exact hj (Option.some.inj hother).symm

/-- A run without the lock takes a step that changes nothing but itself. -/
theorem Faithful.waiter (h : Faithful execute w) {run : MigrationRun σ}
    (hrun : Standing execute w.db w.advisoryLock i run) :
    Faithful execute (w.put i run) := by
  intro j
  rw [put_runs]
  by_cases hj : j = i
  · rw [if_pos hj, hj]
    exact hrun
  · rw [if_neg hj]
    exact h j

theorem Faithful.iterate (h : Faithful execute w) {job : MigrationJob}
    {old : MigrationDatabase σ} {applied : Dict String (String × String)}
    {rest : List Migration} {appliedNow : List String}
    (hrun : w.runs i = MigrationRun.applying job old applied rest appliedNow) :
    Faithful execute (w.iterate execute i job old applied appliedNow rest) := by
  have hstanding := h i
  rw [hrun] at hstanding
  rcases hstanding with ⟨hlock, hordered, halone⟩
  cases rest with
  | nil =>
      apply h.waiter
      exact ⟨hlock, hordered, halone⟩
  | cons m rest =>
      unfold applyLoop at halone
      cases hm : applyMigration execute job.fails applied m appliedNow w.db with
      | error e =>
          rw [hm] at halone
          simp only [MigrationWorld.iterate, hm]
          apply h.waiter
          exact ⟨hlock, hordered, halone⟩
      | ok pair =>
          rcases pair with ⟨appliedNow', db'⟩
          rw [hm] at halone
          simp only [MigrationWorld.iterate, hm]
          have hrun' : Standing execute db' w.advisoryLock i
              (MigrationRun.applying job old applied rest appliedNow') :=
            ⟨hlock, hordered, halone⟩
          exact h.holder hlock hrun'

theorem Faithful.step (h : Faithful execute w) {e : MigrationEvent}
    (hstep : w.step lib execute e = some w') : Faithful execute w' := by
  cases e with
  | start i directory fails =>
      simp only [MigrationWorld.step] at hstep
      split at hstep
      · split at hstep
        · cases hstep
          exact h.waiter trivial
        · next hdiscovered =>
            cases hstep
            exact h.waiter (discoverMigrations_ordered hdiscovered)
      · cases hstep
  | lock i =>
      simp only [MigrationWorld.step] at hstep
      split at hstep
      · next hrun hfree =>
          cases hstep
          have hstanding := h i
          rw [hrun] at hstanding
          intro j
          rw [put_runs]
          by_cases hj : j = i
          · rw [if_pos hj, hj]
            exact ⟨rfl, hstanding⟩
          · rw [if_neg hj]
            apply (h j).frame
            intro hholds
            have hother := (h j).holds hholds
            rw [hfree] at hother
            cases hother
      · cases hstep
  | read i =>
      simp only [MigrationWorld.step] at hstep
      split at hstep
      · next hrun =>
          cases hstep
          have hstanding := h i
          rw [hrun] at hstanding
          exact h.holder hstanding.left ⟨hstanding.left, hstanding.right, rfl⟩
      · cases hstep
  | next i =>
      simp only [MigrationWorld.step] at hstep
      split at hstep
      · next hrun =>
          cases hstep
          exact h.iterate hrun
      · cases hstep
  | unlock i =>
      simp only [MigrationWorld.step] at hstep
      split at hstep
      · next hrun =>
          cases hstep
          have hstanding := h i
          rw [hrun] at hstanding
          exact h.holder hstanding.left ⟨hstanding.right.left, hstanding.right.right⟩
      · cases hstep

theorem Faithful.start (db : MigrationDatabase σ) :
    Faithful execute (MigrationWorld.start db) :=
  fun _ => trivial

theorem run_preserves {I : MigrationWorld σ -> Prop}
    (hstep : forall w e w', step lib execute w e = some w' -> I w -> I w') :
    forall {events : List MigrationEvent} {w w' : MigrationWorld σ},
      w.run lib execute events = some w' -> I w -> I w' := by
  intro events
  induction events with
  | nil =>
      intro w w' h hw
      cases h
      exact hw
  | cons e rest ih =>
      intro w w' h hw
      unfold MigrationWorld.run at h
      rw [List.foldlM_cons, Option.bind_eq_bind, Option.bind_eq_some_iff] at h
      rcases h with ⟨u, hu, hrest⟩
      exact ih hrest (hstep w e u hu hw)

theorem Faithful.run (h : Faithful execute w) {events : List MigrationEvent}
    (hrun : w.run lib execute events = some w') : Faithful execute w' :=
  run_preserves (fun _ _ _ hstep hw => hw.step hstep) hrun h

/-!
## What is recorded stays recorded
-/

/-- The table is there, and has the rows of the migrations. -/
structure Recorded (migrations : List Migration) (w : MigrationWorld σ) : Prop where
  table : w.db.history.isSome = true
  rows : forall m, m ∈ migrations -> m.row ∈ w.db.recorded

theorem Recorded.put {migrations : List Migration} (h : Recorded migrations w)
    {db : MigrationDatabase σ} {advisoryLock : Option Nat} {run : MigrationRun σ}
    (htable : db.history.isSome = true)
    (hrows : forall row, row ∈ w.db.recorded -> row ∈ db.recorded) :
    Recorded migrations ({ w with db := db, advisoryLock := advisoryLock }.put i run) :=
  ⟨htable, fun m hm => hrows _ (h.rows m hm)⟩

theorem applyMigration_grows {fails : Migration -> Bool}
    {applied : Dict String (String × String)} {m : Migration}
    {appliedNow appliedNow' : List String} {db db' : MigrationDatabase σ}
    (h : applyMigration execute fails applied m appliedNow db = Except.ok (appliedNow', db'))
    (htable : db.history.isSome = true) :
    db'.history.isSome = true ∧ forall row, row ∈ db.recorded -> row ∈ db'.recorded := by
  unfold applyMigration at h
  split at h
  · split at h
    · cases h
    · cases h
      exact ⟨htable, fun _ hrow => hrow⟩
  · split at h
    · cases h
    · next hmigrate =>
        cases h
        rcases migrate_eq_some hmigrate with ⟨_, hrows, htable'⟩
        refine ⟨htable', ?_⟩
        intro row hrow
        rw [hrows]
        exact List.mem_append_left _ hrow

theorem Recorded.step {migrations : List Migration} (h : Recorded migrations w)
    {e : MigrationEvent} (hstep : w.step lib execute e = some w') :
    Recorded migrations w' := by
  have hkeep : forall {advisoryLock : Option Nat} {i : Nat} {run : MigrationRun σ},
      Recorded migrations ({ w with advisoryLock := advisoryLock }.put i run) :=
    h.put h.table fun _ hrow => hrow
  cases e with
  | start i directory fails =>
      simp only [MigrationWorld.step] at hstep
      split at hstep
      · split at hstep
        · cases hstep
          exact hkeep
        · cases hstep
          exact hkeep
      · cases hstep
  | lock i =>
      simp only [MigrationWorld.step] at hstep
      split at hstep
      · cases hstep
        exact hkeep
      · cases hstep
  | read i =>
      simp only [MigrationWorld.step] at hstep
      split at hstep
      · cases hstep
        exact h.put rfl fun _ hrow => hrow
      · cases hstep
  | next i =>
      simp only [MigrationWorld.step] at hstep
      split at hstep
      · next job old applied rest appliedNow hrun =>
          cases hstep
          cases rest with
          | nil => exact hkeep
          | cons m rest =>
              cases hm : applyMigration execute job.fails applied m appliedNow w.db with
              | error e =>
                  simp only [MigrationWorld.iterate, hm]
                  exact hkeep
              | ok pair =>
                  rcases pair with ⟨appliedNow', db'⟩
                  simp only [MigrationWorld.iterate, hm]
                  rcases applyMigration_grows hm h.table with ⟨htable, hrows⟩
                  exact h.put htable hrows
      · cases hstep
  | unlock i =>
      simp only [MigrationWorld.step] at hstep
      split at hstep
      · cases hstep
        exact hkeep
      · cases hstep

/-!
## A second run
-/

/-- The database that a run has read. -/
def oldOf : MigrationRun σ -> Option (MigrationDatabase σ)
  | MigrationRun.applying _ old _ _ _ => some old
  | MigrationRun.unlocking _ old _ => some old
  | MigrationRun.ended _ old _ _ => some old
  | _ => none

theorem step_oldOf {e : MigrationEvent} (hstep : w.step lib execute e = some w')
    {old : MigrationDatabase σ} (h : oldOf (w'.runs j) = some old) :
    oldOf (w.runs j) = some old ∨ old = w.db := by
  have hother : forall {i : Nat} {run : MigrationRun σ}, ¬j = i ->
      oldOf (if j = i then run else w.runs j) = some old ->
      oldOf (w.runs j) = some old := by
    intro i run hj hold
    rwa [if_neg hj] at hold
  cases e with
  | start i directory fails =>
      simp only [MigrationWorld.step] at hstep
      split at hstep
      · split at hstep <;>
        · cases hstep
          rw [put_runs] at h
          by_cases hj : j = i
          · rw [if_pos hj] at h
            cases h
          · exact Or.inl (hother hj h)
      · cases hstep
  | lock i =>
      simp only [MigrationWorld.step] at hstep
      split at hstep
      · cases hstep
        rw [put_runs] at h
        by_cases hj : j = i
        · rw [if_pos hj] at h
          cases h
        · exact Or.inl (hother hj h)
      · cases hstep
  | read i =>
      simp only [MigrationWorld.step] at hstep
      split at hstep
      · cases hstep
        rw [put_runs] at h
        by_cases hj : j = i
        · rw [if_pos hj] at h
          exact Or.inr (Option.some.inj h).symm
        · exact Or.inl (hother hj h)
      · cases hstep
  | next i =>
      simp only [MigrationWorld.step] at hstep
      split at hstep
      · next job kept applied rest appliedNow hrun =>
          cases hstep
          by_cases hj : j = i
          · rw [hj, hrun]
            have hkept : oldOf ((w.iterate execute i job kept applied appliedNow rest).runs i) =
                some kept := by
              unfold MigrationWorld.iterate
              split
              · rw [put_runs, if_pos rfl]
                rfl
              · split <;>
                · rw [put_runs, if_pos rfl]
                  rfl
            rw [hj, hkept] at h
            exact Or.inl h
          · have hkept : (w.iterate execute i job kept applied appliedNow rest).runs j =
                w.runs j := by
              unfold MigrationWorld.iterate
              split
              · rw [put_runs, if_neg hj]
              · split
                · rw [put_runs, if_neg hj]
                · rw [put_runs, if_neg hj]
            rw [hkept] at h
            exact Or.inl h
      · cases hstep
  | unlock i =>
      simp only [MigrationWorld.step] at hstep
      split at hstep
      · next hrun =>
          cases hstep
          rw [put_runs] at h
          by_cases hj : j = i
          · rw [if_pos hj] at h
            rw [hj, hrun]
            exact Or.inl h
          · exact Or.inl (hother hj h)
      · cases hstep

/-- What a run has read after the migrations were recorded has their rows. -/
structure ReadsRecorded (migrations : List Migration) (j : Nat) (w : MigrationWorld σ) :
    Prop where
  recorded : Recorded migrations w
  read : forall old, oldOf (w.runs j) = some old -> old.history.isSome = true ∧
    forall m, m ∈ migrations -> m.row ∈ old.recorded

theorem ReadsRecorded.step {migrations : List Migration} (h : ReadsRecorded migrations j w)
    {e : MigrationEvent} (hstep : w.step lib execute e = some w') :
    ReadsRecorded migrations j w' := by
  refine ⟨h.recorded.step hstep, ?_⟩
  intro old hold
  rcases step_oldOf hstep hold with hbefore | rfl
  · exact h.read old hbefore
  · exact ⟨h.recorded.table, h.recorded.rows⟩

/-- The migrations of every run that has returned are on record. -/
def ReturnedRecorded (w : MigrationWorld σ) : Prop :=
  forall i job old new versions,
    w.runs i = MigrationRun.ended job old new (Except.ok versions) ->
    Recorded job.migrations w

theorem ended_origin {e : MigrationEvent} (hstep : w.step lib execute e = some w')
    {job : MigrationJob} {old new : MigrationDatabase σ}
    {result : Except MigrationError (List String)}
    (h : w'.runs i = MigrationRun.ended job old new result) :
    w.runs i = MigrationRun.ended job old new result ∨
      (w.runs i = MigrationRun.unlocking job old result ∧ new = w.db) := by
  have hother : forall {k : Nat} {run : MigrationRun σ},
      (forall job old new result, run ≠ MigrationRun.ended job old new result) ->
      (if i = k then run else w.runs i) = MigrationRun.ended job old new result ->
      w.runs i = MigrationRun.ended job old new result := by
    intro k run hrun hended
    split at hended
    · exact absurd hended (hrun _ _ _ _)
    · exact hended
  cases e with
  | start k directory fails =>
      simp only [MigrationWorld.step] at hstep
      split at hstep
      · split at hstep <;>
        · cases hstep
          exact Or.inl (hother (fun _ _ _ _ h => (by cases h)) h)
      · cases hstep
  | lock k =>
      simp only [MigrationWorld.step] at hstep
      split at hstep
      · cases hstep
        exact Or.inl (hother (fun _ _ _ _ h => (by cases h)) h)
      · cases hstep
  | read k =>
      simp only [MigrationWorld.step] at hstep
      split at hstep
      · cases hstep
        exact Or.inl (hother (fun _ _ _ _ h => (by cases h)) h)
      · cases hstep
  | next k =>
      simp only [MigrationWorld.step] at hstep
      split at hstep
      · cases hstep
        unfold MigrationWorld.iterate at h
        split at h
        · exact Or.inl (hother (fun _ _ _ _ h => (by cases h)) h)
        · split at h
          · exact Or.inl (hother (fun _ _ _ _ h => (by cases h)) h)
          · exact Or.inl (hother (fun _ _ _ _ h => (by cases h)) h)
      · cases hstep
  | unlock k =>
      simp only [MigrationWorld.step] at hstep
      split at hstep
      · next hrun =>
          cases hstep
          rw [put_runs] at h
          by_cases hi : i = k
          · rw [if_pos hi] at h
            cases h
            rw [hi]
            exact Or.inr ⟨hrun, rfl⟩
          · rw [if_neg hi] at h
            exact Or.inl h
      · cases hstep

theorem ReturnedRecorded.step (h : ReturnedRecorded w) (hfaithful : Faithful execute w)
    {e : MigrationEvent} (hstep : w.step lib execute e = some w') : ReturnedRecorded w' := by
  intro i job old new versions hended
  rcases ended_origin hstep hended with hbefore | ⟨hunlocking, rfl⟩
  · exact (h i job old new versions hbefore).step hstep
  · have hstanding := hfaithful i
    rw [hunlocking] at hstanding
    have houtcome := applyMigrations_outcome hstanding.right.left hstanding.right.right
    have hprogress := (houtcome.returned versions rfl).left
    have hrecorded : Recorded job.migrations w :=
      ⟨hprogress.table, fun m hm => hprogress.recorded_row hm⟩
    exact hrecorded.step hstep

end Faithful

end MigrationWorld

/--
Migration runs are all-or-prefix and idempotent.  Any number of runs start from any
recorded history, with any directories that are accepted and any migrations whose
execution fails.  A run that returns has recorded each of its migrations once, and
applied exactly the missing ones, in order; a run that raises has applied the missing
ones before the one it stopped at, and nothing else; a row that differs from its file
makes the run raise before any later migration.  Once a run has returned, a later
run over the same migrations returns nothing and changes nothing.
-/
theorem migrations_all_or_prefix {σ : Type} {lib : MigrationLibrary}
    {execute : String -> σ -> Option σ} {db : MigrationDatabase σ}
    {events : List MigrationEvent} {w : MigrationWorld σ}
    (h : (MigrationWorld.start db).run lib execute events = some w) :
    (forall i job old new result, w.runs i = MigrationRun.ended job old new result ->
      RunOutcome execute job.fails job.migrations old new result) ∧
    forall i job old new versions,
      w.runs i = MigrationRun.ended job old new (Except.ok versions) ->
      forall j more w' job' old' new' result', w.runs j = MigrationRun.idle ->
        w.run lib execute more = some w' ->
        w'.runs j = MigrationRun.ended job' old' new' result' ->
        job'.migrations = job.migrations -> result' = Except.ok [] ∧ new' = old' := by
  have hstart : MigrationWorld.Faithful execute (MigrationWorld.start db) :=
    MigrationWorld.Faithful.start db
  have hfaithful := hstart.run h
  constructor
  · intro i job old new result hended
    have hstanding := hfaithful i
    rw [hended] at hstanding
    exact applyMigrations_outcome hstanding.left hstanding.right
  · intro i job old new versions hended j more w' job' old' new' result' hidle hmore hended' hsame
    have hboth := MigrationWorld.run_preserves
      (I := fun w => MigrationWorld.Faithful execute w ∧ MigrationWorld.ReturnedRecorded w)
      (fun _ _ _ hstep hw => ⟨hw.left.step hstep, hw.right.step hw.left hstep⟩) h
      ⟨hstart, fun _ _ _ _ _ hended => (by cases hended)⟩
    have hrecorded := hboth.right i job old new versions hended
    have hreads : MigrationWorld.ReadsRecorded job.migrations j w := by
      refine ⟨hrecorded, ?_⟩
      intro old₁ hold₁
      rw [hidle] at hold₁
      cases hold₁
    have hlater := MigrationWorld.run_preserves
      (I := MigrationWorld.ReadsRecorded job.migrations j)
      (fun _ _ _ hstep hw => hw.step hstep) hmore hreads
    have hstanding := hfaithful.run hmore j
    rw [hended'] at hstanding
    rcases hlater.read old' (by rw [hended']; rfl) with ⟨htable, hrows⟩
    have halone := hstanding.right
    unfold MigrationWorld.alone at halone
    rw [hsame, applyMigrations_recorded execute job'.fails htable hrows] at halone
    exact Prod.mk.inj halone

/-!
A directory of two migrations, the second one listed first, and two runs that meet:
the second waits until the first has released the lock.
-/

def sampleMigrationLibrary : MigrationLibrary :=
  { isDecimal := Char.isDigit
    sha256 := fun bytes => toString bytes.length }

def sampleDirectory : List (String × List UInt8) :=
  [("0002_b.sql", [66]), ("0001_a.sql", [65, 65])]

def sampleMigrationEvents : List MigrationEvent :=
  [MigrationEvent.start 0 sampleDirectory fun _ => false,
    MigrationEvent.start 1 sampleDirectory fun _ => true,
    MigrationEvent.lock 0, MigrationEvent.read 0, MigrationEvent.next 0,
    MigrationEvent.next 0, MigrationEvent.next 0, MigrationEvent.unlock 0,
    MigrationEvent.lock 1, MigrationEvent.read 1, MigrationEvent.next 1,
    MigrationEvent.next 1, MigrationEvent.next 1, MigrationEvent.unlock 1]

def sampleMigrationWorld : Option (MigrationWorld (List String)) :=
  (MigrationWorld.start ⟨none, []⟩).run sampleMigrationLibrary
    (fun sql schema => some (schema ++ [sql])) sampleMigrationEvents

/-- The versions that a run has returned. -/
def returnedVersions {σ : Type} : MigrationRun σ -> Option (List String)
  | MigrationRun.ended _ _ _ (Except.ok versions) => some versions
  | _ => none

theorem exists_ended_of_returned {σ : Type} {run : MigrationRun σ} {versions : List String}
    (h : returnedVersions run = some versions) :
    exists job old new, run = MigrationRun.ended job old new (Except.ok versions) := by
  unfold returnedVersions at h
  split at h
  · cases h
    exact ⟨_, _, _, rfl⟩
  · cases h

theorem migrations_all_or_prefix_sample : exists w job old new,
    sampleMigrationWorld = some w ∧
    w.runs 0 = MigrationRun.ended job old new (Except.ok ["0001", "0002"]) ∧
    returnedVersions (w.runs 1) = some [] ∧ w.db.schema = ["AA", "B"] ∧
    forall m, m ∈ job.migrations ->
      (new.recorded.filter fun row => decide (row.version = m.version)) = [m.row] := by
  have hevaluated : sampleMigrationWorld.map (fun w =>
      (returnedVersions (w.runs 0), returnedVersions (w.runs 1), w.db.schema)) =
      some (some ["0001", "0002"], some [], ["AA", "B"]) := by decide +kernel
  rcases Option.map_eq_some_iff.mp hevaluated with ⟨w, hrun, hvalues⟩
  rcases Prod.mk.inj hvalues with ⟨hfirst, hrest⟩
  rcases Prod.mk.inj hrest with ⟨hsecond, hschema⟩
  rcases exists_ended_of_returned hfirst with ⟨job, old, new, hended⟩
  have houtcome := ( migrations_all_or_prefix hrun).left 0 job old new _ hended
  exact ⟨w, job, old, new, hrun, hended, hsecond, hschema,
    (houtcome.returned _ rfl).right.right.right⟩

end RefundAgent
