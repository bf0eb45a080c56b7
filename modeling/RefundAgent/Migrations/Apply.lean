import RefundAgent.Foundation.Dict
import Mathlib.Data.String.Basic
import Mathlib.Tactic

/-!
# Migrations

`migrations.py`: the migrations of a directory, and one run of `apply_migrations`
against a database.  What the SQL of a migration does to the schema is a parameter,
as are the decimal digits of Unicode and the digest.  The history of the applied
migrations is not part of that schema.
-/

namespace RefundAgent

open Foundation

/-!
## Discovery
-/

structure Migration where
  version : String
  filename : String
  checksum : String
  sql : String
deriving DecidableEq, Repr

inductive MigrationError where
  | invalidFilename (name : String)
  | duplicateVersion (version : String)
  | undecodable (name : String)
  | noMigrations
  | doesNotMatch (filename : String)
  | failed (filename : String)
deriving DecidableEq, Repr

structure MigrationLibrary where
  isDecimal : Char -> Bool
  sha256 : List UInt8 -> String

/-- The characters `[a-z0-9_]`. -/
def migrationNameChar (c : Char) : Bool :=
  c.isLower || c.isDigit || c == '_'

/-- `MIGRATION_NAME_PATTERN.fullmatch`, which gives the version. -/
def migrationVersion? (lib : MigrationLibrary) (name : String) : Option String :=
  let version := name.toList.take 4
  match name.toList.drop 4 with
  | '_' :: rest =>
      match rest.reverse with
      | 'l' :: 'q' :: 's' :: '.' :: body =>
          if version.all lib.isDecimal ∧ body ≠ [] ∧ body.all migrationNameChar then
            some (String.ofList version)
          else
            none
      | _ => none
  | _ => none

/-- The body of the loop of `discover_migrations`. -/
def readMigration (lib : MigrationLibrary) (found : List Migration)
    (file : String × List UInt8) : Except MigrationError (List Migration) :=
  match migrationVersion? lib file.1 with
  | none => Except.error (MigrationError.invalidFilename file.1)
  | some version =>
      if version ∈ found.map Migration.version then
        Except.error (MigrationError.duplicateVersion version)
      else
        match String.fromUTF8? ⟨file.2.toArray⟩ with
        | none => Except.error (MigrationError.undecodable file.1)
        | some sql =>
            Except.ok (found ++
              [{ version := version
                 filename := file.1
                 checksum := lib.sha256 file.2
                 sql := sql }])

/-- The `*.sql` files of a directory, sorted by their names. -/
def migrationFiles (directory : List (String × List UInt8)) : List (String × List UInt8) :=
  (directory.filter fun file => decide (".sql".toList <:+ file.1.toList)).insertionSort
    fun a b => a.1 ≤ b.1

/-- `discover_migrations`. -/
def discoverMigrations (lib : MigrationLibrary) (directory : List (String × List UInt8)) :
    Except MigrationError (List Migration) :=
  match (migrationFiles directory).foldlM (readMigration lib) [] with
  | Except.error e => Except.error e
  | Except.ok [] => Except.error MigrationError.noMigrations
  | Except.ok found => Except.ok found

/-!
## The history
-/

structure MigrationRow where
  version : String
  filename : String
  checksum : String
deriving DecidableEq, Repr

def Migration.row (m : Migration) : MigrationRow :=
  { version := m.version
    filename := m.filename
    checksum := m.checksum }

/-- The rows of `schema_migrations`, with its primary key and its unique column. -/
structure MigrationHistory where
  rows : List MigrationRow
  versions : (rows.map MigrationRow.version).Nodup
  filenames : (rows.map MigrationRow.filename).Nodup

namespace MigrationHistory

def empty : MigrationHistory :=
  { rows := []
    versions := List.nodup_nil
    filenames := List.nodup_nil }

/-- The insert; nothing stands for a violated constraint. -/
def insert? (history : MigrationHistory) (row : MigrationRow) : Option MigrationHistory :=
  if h : row.version ∉ history.rows.map MigrationRow.version ∧
      row.filename ∉ history.rows.map MigrationRow.filename then
    some
      { rows := history.rows ++ [row]
        versions := by
          rw [List.map_append, List.map_singleton]
          exact List.nodup_append.mpr ⟨history.versions, List.nodup_singleton _,
            fun a ha b hb hab => h.left (by rw [← List.mem_singleton.mp hb, ← hab]; exact ha)⟩
        filenames := by
          rw [List.map_append, List.map_singleton]
          exact List.nodup_append.mpr ⟨history.filenames, List.nodup_singleton _,
            fun a ha b hb hab => h.right (by rw [← List.mem_singleton.mp hb, ← hab]; exact ha)⟩ }
  else
    none

/-- The dictionary `applied`. -/
def applied (history : MigrationHistory) : Dict String (String × String) :=
  history.rows.foldl (fun d row => d.set row.version (row.filename, row.checksum)) []

end MigrationHistory

/-!
## A run
-/

/-- The database: the history, once its table exists, and everything else. -/
structure MigrationDatabase (σ : Type) where
  history : Option MigrationHistory
  schema : σ

namespace MigrationDatabase

variable {σ : Type}

/-- The recorded rows. -/
def recorded (db : MigrationDatabase σ) : List MigrationRow :=
  (db.history.getD MigrationHistory.empty).rows

/-- `_BOOTSTRAP_SQL`. -/
def bootstrap (db : MigrationDatabase σ) : MigrationDatabase σ :=
  { db with history := some (db.history.getD MigrationHistory.empty) }

end MigrationDatabase

section Run

variable {σ : Type} (execute : String -> σ -> Option σ) (fails : Migration -> Bool)

/-- The transaction of one migration; nothing stands for an exception. -/
def migrate (m : Migration) (db : MigrationDatabase σ) : Option (MigrationDatabase σ) :=
  if fails m then
    none
  else
    match execute m.sql db.schema with
    | none => none
    | some schema =>
        match (db.history.getD MigrationHistory.empty).insert? m.row with
        | none => none
        | some history =>
            some
              { history := some history
                schema := schema }

/-- The body of the loop of `apply_migrations`. -/
def applyMigration (applied : Dict String (String × String)) (m : Migration)
    (appliedNow : List String) (db : MigrationDatabase σ) :
    Except MigrationError (List String × MigrationDatabase σ) :=
  match applied.get m.version with
  | some previous =>
      if previous ≠ (m.filename, m.checksum) then
        Except.error (MigrationError.doesNotMatch m.filename)
      else
        Except.ok (appliedNow, db)
  | none =>
      match migrate execute fails m db with
      | none => Except.error (MigrationError.failed m.filename)
      | some db' => Except.ok (appliedNow ++ [m.version], db')

/-- The loop, with the database that each migration leaves behind. -/
def applyLoop (applied : Dict String (String × String)) :
    List Migration -> List String -> MigrationDatabase σ ->
      Except MigrationError (List String) × MigrationDatabase σ
  | [], appliedNow, db => (Except.ok appliedNow, db)
  | m :: rest, appliedNow, db =>
      match applyMigration execute fails applied m appliedNow db with
      | Except.error e => (Except.error e, db)
      | Except.ok (appliedNow', db') => applyLoop applied rest appliedNow' db'

/-- `apply_migrations` with the lock held, after the discovery. -/
def applyMigrations (migrations : List Migration) (db : MigrationDatabase σ) :
    Except MigrationError (List String) × MigrationDatabase σ :=
  applyLoop execute fails (db.history.getD MigrationHistory.empty).applied migrations []
    db.bootstrap

end Run

/-!
## Versions in order
-/

theorem lt_of_take_lt_take {xs ys : List Char} {n : Nat} (h : xs.take n < ys.take n) :
    xs < ys := by
  induction n generalizing xs ys with
  | zero => exact absurd h (lt_irrefl _)
  | succ n ih =>
      cases xs with
      | nil =>
          cases ys with
          | nil => exact absurd h (lt_irrefl _)
          | cons y ys => exact List.Lex.nil
      | cons x xs =>
          cases ys with
          | nil => cases h
          | cons y ys =>
              cases h with
              | rel hlt => exact List.Lex.rel hlt
              | cons hrest => exact List.Lex.cons (ih hrest)

theorem take_le_take {xs ys : List Char} (h : xs ≤ ys) (n : Nat) : xs.take n ≤ ys.take n :=
  not_lt.mp fun hlt => absurd (lt_of_take_lt_take hlt) (not_lt.mpr h)

theorem migrationVersion?_eq_some {lib : MigrationLibrary} {name version : String}
    (h : migrationVersion? lib name = some version) :
    version = String.ofList (name.toList.take 4) := by
  unfold migrationVersion? at h
  dsimp only at h
  split at h
  · split at h
    · split at h
      · exact (Option.some.inj h).symm
      · cases h
    · cases h
  · cases h

/-- Migrations in the order of their versions, which start their filenames. -/
structure MigrationsOrdered (migrations : List Migration) : Prop where
  versions : migrations.Pairwise fun m m' => m.version < m'.version
  prefixes : forall m, m ∈ migrations -> m.version = String.ofList (m.filename.toList.take 4)

theorem readMigration_eq_ok {lib : MigrationLibrary} {found found' : List Migration}
    {file : String × List UInt8} (h : readMigration lib found file = Except.ok found') :
    exists m : Migration, found' = found ++ [m] ∧ m.filename = file.1 ∧
      m.version = String.ofList (file.1.toList.take 4) ∧
      m.version ∉ found.map Migration.version := by
  unfold readMigration at h
  split at h
  · cases h
  · next hversion =>
      split at h
      · cases h
      · next hnew =>
          split at h
          · cases h
          · cases h
            exact ⟨_, rfl, rfl, migrationVersion?_eq_some hversion, hnew⟩

theorem MigrationsOrdered.read {lib : MigrationLibrary} {found found' : List Migration}
    {file : String × List UInt8} (h : MigrationsOrdered found)
    (hread : readMigration lib found file = Except.ok found')
    (hlast : forall m, m ∈ found -> m.filename ≤ file.1) : MigrationsOrdered found' := by
  rcases readMigration_eq_ok hread with ⟨m, rfl, hname, hversion, hnew⟩
  constructor
  · apply List.pairwise_append.mpr
    refine ⟨h.versions, List.pairwise_singleton _ m, ?_⟩
    intro a ha b hb
    rw [List.mem_singleton.mp hb]
    have hle : a.version ≤ m.version := by
      rw [h.prefixes a ha, hversion, String.le_iff_toList_le, String.toList_ofList,
        String.toList_ofList]
      exact take_le_take (String.le_iff_toList_le.mp (hlast a ha)) 4
    apply lt_of_le_of_ne hle
    intro hsame
    exact hnew (hsame ▸ List.mem_map_of_mem ha)
  · intro a ha
    rcases List.mem_append.mp ha with ha | ha
    · exact h.prefixes a ha
    · rw [List.mem_singleton.mp ha, hversion, hname]

theorem foldlM_readMigration {lib : MigrationLibrary} {files : List (String × List UInt8)}
    (hfiles : files.Pairwise fun a b => a.1 ≤ b.1) :
    forall {found found' : List Migration}, MigrationsOrdered found ->
      (forall m, m ∈ found -> forall file, file ∈ files -> m.filename ≤ file.1) ->
      files.foldlM (readMigration lib) found = Except.ok found' -> MigrationsOrdered found' := by
  induction files with
  | nil =>
      intro found found' h _ hfold
      cases hfold
      exact h
  | cons file rest ih =>
      intro found found' h hlast hfold
      rcases List.pairwise_cons.mp hfiles with ⟨hfirst, hrest⟩
      rw [List.foldlM_cons] at hfold
      cases hread : readMigration lib found file with
      | error e =>
          rw [hread] at hfold
          cases hfold
      | ok found₁ =>
          rw [hread] at hfold
          apply ih hrest (h.read hread fun m hm => hlast m hm file List.mem_cons_self) _ hfold
          rcases readMigration_eq_ok hread with ⟨m, rfl, hname, _, _⟩
          intro a ha other hother
          rcases List.mem_append.mp ha with ha | ha
          · exact hlast a ha other (List.mem_cons_of_mem _ hother)
          · rw [List.mem_singleton.mp ha, hname]
            exact hfirst other hother

theorem discoverMigrations_ordered {lib : MigrationLibrary}
    {directory : List (String × List UInt8)} {migrations : List Migration}
    (h : discoverMigrations lib directory = Except.ok migrations) :
    MigrationsOrdered migrations := by
  have hsorted : (migrationFiles directory).Pairwise fun a b => a.1 ≤ b.1 := by
    have : Std.Total fun a b : String × List UInt8 => a.1 ≤ b.1 :=
      ⟨fun a b => le_total a.1 b.1⟩
    have : IsTrans (String × List UInt8) fun a b => a.1 ≤ b.1 :=
      ⟨fun _ _ _ hab hbc => le_trans hab hbc⟩
    exact List.pairwise_insertionSort _ _
  have hempty : MigrationsOrdered [] := ⟨List.Pairwise.nil, fun m hm => (by cases hm)⟩
  unfold discoverMigrations at h
  split at h
  · cases h
  · cases h
  · next hfold =>
      cases h
      exact foldlM_readMigration hsorted hempty (fun m hm => (by cases hm)) hfold

/-!
## The history as a dictionary
-/

namespace MigrationHistory

theorem get_foldl {rows : List MigrationRow}
    (hrows : (rows.map MigrationRow.version).Nodup) (version : String) :
    forall d : Dict String (String × String),
      (rows.foldl (fun d row => d.set row.version (row.filename, row.checksum)) d).get version =
        match rows.find? fun row => decide (row.version = version) with
        | some row => some (row.filename, row.checksum)
        | none => d.get version := by
  induction rows with
  | nil => exact fun d => rfl
  | cons row rest ih =>
      intro d
      rw [List.map_cons, List.nodup_cons] at hrows
      rw [List.foldl_cons, ih hrows.right]
      by_cases hversion : row.version = version
      · have hnone : rest.find? (fun r => decide (r.version = version)) = none := by
          rw [List.find?_eq_none]
          intro r hr
          rw [decide_eq_true_eq]
          intro hsame
          exact hrows.left (List.mem_map.mpr ⟨r, hr, hsame.trans hversion.symm⟩)
        rw [hnone, List.find?_cons_of_pos (by simpa using hversion), Dict.get_set,
          if_pos hversion.symm]
      · rw [List.find?_cons_of_neg (by simpa using hversion)]
        cases rest.find? fun r => decide (r.version = version) with
        | some r => rfl
        | none => exact (Dict.get_set _ _ _ _).trans (if_neg fun h => hversion h.symm)

theorem applied_none {history : MigrationHistory} {version : String}
    (h : history.applied.get version = none) :
    version ∉ history.rows.map MigrationRow.version := by
  unfold applied at h
  rw [get_foldl history.versions] at h
  split at h
  · cases h
  · next hfind =>
      intro hmem
      rcases List.mem_map.mp hmem with ⟨row, hrow, hversion⟩
      exact absurd (decide_eq_true hversion) (List.find?_eq_none.mp hfind row hrow)

theorem applied_some {history : MigrationHistory} {version : String}
    {previous : String × String} (h : history.applied.get version = some previous) :
    exists row, row ∈ history.rows ∧ row.version = version ∧
      previous = (row.filename, row.checksum) := by
  unfold applied at h
  rw [get_foldl history.versions] at h
  split at h
  · next row hfind =>
      have hversion := List.find?_some hfind
      rw [decide_eq_true_eq] at hversion
      exact ⟨row, List.mem_of_find?_eq_some hfind, hversion, (Option.some.inj h).symm⟩
  · cases h

theorem insert?_eq_some {history history' : MigrationHistory} {row : MigrationRow}
    (h : history.insert? row = some history') : history'.rows = history.rows ++ [row] := by
  unfold insert? at h
  split at h
  · rw [← Option.some.inj h]
  · cases h

theorem eq_of_version {history : MigrationHistory} {row row' : MigrationRow}
    (hrow : row ∈ history.rows) (hrow' : row' ∈ history.rows)
    (h : row.version = row'.version) : row = row' :=
  List.inj_on_of_nodup_map history.versions hrow hrow' h

end MigrationHistory

/-!
## What a run leaves behind
-/

/-- The migrations that the rows do not name. -/
def missing (rows : List MigrationRow) (migrations : List Migration) : List Migration :=
  migrations.filter fun m => decide (m.version ∉ rows.map MigrationRow.version)

/-- The schema after the SQL of several migrations. -/
def replay {σ : Type} (execute : String -> σ -> Option σ) (migrations : List Migration)
    (schema : σ) : Option σ :=
  migrations.foldlM (fun s m => execute m.sql s) schema

/-- The rows agree with the files of the migrations. -/
def Agrees (rows : List MigrationRow) (migrations : List Migration) : Prop :=
  forall m, m ∈ migrations -> forall row, row ∈ rows -> row.version = m.version -> row = m.row

section Outcome

variable {σ : Type}

/-- Exactly the missing ones of some migrations have been applied. -/
structure Progress (execute : String -> σ -> Option σ) (migrations : List Migration)
    (old new : MigrationDatabase σ) : Prop where
  agrees : Agrees old.recorded migrations
  recorded : new.recorded =
    old.recorded ++ (missing old.recorded migrations).map Migration.row
  schema : replay execute (missing old.recorded migrations) old.schema = some new.schema
  table : new.history.isSome = true

/-- The run has stopped at one of its migrations, which is recorded differently or fails. -/
def Stopped (execute : String -> σ -> Option σ) (fails : Migration -> Bool)
    (migrations : List Migration) (old new : MigrationDatabase σ) : Prop :=
  exists done m rest, migrations = done ++ m :: rest ∧ Progress execute done old new ∧
    ((exists row, row ∈ old.recorded ∧ row.version = m.version ∧ row ≠ m.row) ∨
      (m.version ∉ old.recorded.map MigrationRow.version ∧
        migrate execute fails m new = none))

variable {execute : String -> σ -> Option σ} {fails : Migration -> Bool}
  {old new db db' : MigrationDatabase σ} {done rest migrations : List Migration}
  {m : Migration} {versions appliedNow : List String}

theorem missing_concat (rows : List MigrationRow) (done : List Migration) (m : Migration) :
    missing rows (done ++ [m]) =
      missing rows done ++
        if m.version ∈ rows.map MigrationRow.version then [] else [m] := by
  unfold missing
  rw [List.filter_append, List.filter_singleton]
  by_cases h : m.version ∈ rows.map MigrationRow.version
  · rw [if_pos h, decide_eq_false (not_not.mpr h)]
    rfl
  · rw [if_neg h, decide_eq_true h]
    rfl

theorem Agrees.concat (h : Agrees old.recorded done)
    (hm : forall row, row ∈ old.recorded -> row.version = m.version -> row = m.row) :
    Agrees old.recorded (done ++ [m]) := by
  intro m' hm'
  rcases List.mem_append.mp hm' with hm' | hm'
  · exact h m' hm'
  · rw [List.mem_singleton.mp hm']
    exact hm

theorem Progress.skip (h : Progress execute done old db) {row : MigrationRow}
    (hrow : row ∈ old.recorded) (hversion : row.version = m.version) (hsame : row = m.row)
    (hunique : forall r, r ∈ old.recorded -> r.version = row.version -> r = row) :
    Progress execute (done ++ [m]) old db := by
  have hmem : m.version ∈ old.recorded.map MigrationRow.version :=
    List.mem_map.mpr ⟨row, hrow, hversion⟩
  have hmissing : missing old.recorded (done ++ [m]) = missing old.recorded done := by
    rw [missing_concat, if_pos hmem, List.append_nil]
  constructor
  · apply h.agrees.concat
    intro r hr hr'
    rw [← hsame]
    exact hunique r hr (hr'.trans hversion.symm)
  · rw [hmissing]
    exact h.recorded
  · rw [hmissing]
    exact h.schema
  · exact h.table

theorem migrate_eq_some (h : migrate execute fails m db = some db') :
    execute m.sql db.schema = some db'.schema ∧ db'.recorded = db.recorded ++ [m.row] ∧
      db'.history.isSome = true := by
  unfold migrate at h
  split at h
  · cases h
  · split at h
    · cases h
    · next hexecute =>
        split at h
        · cases h
        · next hinsert =>
            cases h
            exact ⟨hexecute, MigrationHistory.insert?_eq_some hinsert, rfl⟩

theorem Progress.migrate (h : Progress execute done old db)
    (hmissing : m.version ∉ old.recorded.map MigrationRow.version)
    (hm : migrate execute fails m db = some db') :
    Progress execute (done ++ [m]) old db' := by
  rcases migrate_eq_some hm with ⟨hexecute, hrows, htable⟩
  have hmore : missing old.recorded (done ++ [m]) = missing old.recorded done ++ [m] := by
    rw [missing_concat, if_neg hmissing]
  constructor
  · apply h.agrees.concat
    intro row hrow hversion
    exact absurd (List.mem_map.mpr ⟨row, hrow, hversion⟩) hmissing
  · rw [hmore, List.map_append, hrows, h.recorded, List.append_assoc]
    rfl
  · rw [hmore]
    unfold replay
    rw [List.foldlM_append]
    have hbefore := h.schema
    unfold replay at hbefore
    rw [hbefore]
    show (List.foldlM (fun s m => execute m.sql s) db.schema [m]) = some db'.schema
    rw [List.foldlM_cons, hexecute]
    rfl
  · exact htable

theorem applyLoop_spec :
    forall {rest done : List Migration} {appliedNow : List String}
      {db : MigrationDatabase σ} {r : Except MigrationError (List String)}
      {new : MigrationDatabase σ},
      Progress execute done old db ->
      appliedNow = (missing old.recorded done).map Migration.version ->
      applyLoop execute fails (old.history.getD MigrationHistory.empty).applied rest
        appliedNow db = (r, new) ->
      (forall versions, r = Except.ok versions ->
        Progress execute (done ++ rest) old new ∧
          versions = (missing old.recorded (done ++ rest)).map Migration.version) ∧
      (forall e, r = Except.error e -> Stopped execute fails (done ++ rest) old new) := by
  intro rest
  induction rest with
  | nil =>
      intro done appliedNow db r new hprogress happlied hloop
      cases hloop
      rw [List.append_nil]
      constructor
      · intro versions hversions
        cases hversions
        exact ⟨hprogress, happlied⟩
      · intro e he
        cases he
  | cons m rest ih =>
      intro done appliedNow db r new hprogress happlied hloop
      unfold applyLoop applyMigration at hloop
      cases hget : (old.history.getD MigrationHistory.empty).applied.get m.version with
      | some previous =>
          rcases MigrationHistory.applied_some hget with ⟨row, hrow, hversion, hprevious⟩
          rw [hget] at hloop
          dsimp only at hloop
          by_cases hdiffers : previous ≠ (m.filename, m.checksum)
          · rw [if_pos hdiffers] at hloop
            cases hloop
            refine ⟨fun _ h => (by cases h), fun _ _ => ⟨done, m, rest, rfl, hprogress, ?_⟩⟩
            refine Or.inl ⟨row, hrow, hversion, ?_⟩
            intro hsame
            rw [hsame] at hprevious
            exact hdiffers hprevious
          · rw [if_neg hdiffers] at hloop
            have hpair := hprevious.symm.trans (not_not.mp hdiffers)
            have hfile : row = m.row := by
              cases row
              cases m
              cases hversion
              cases hpair
              rfl
            have hskip := hprogress.skip hrow hversion hfile fun r hr hr' =>
              MigrationHistory.eq_of_version hr hrow hr'
            have hmem : m.version ∈ old.recorded.map MigrationRow.version :=
              List.mem_map.mpr ⟨row, hrow, hversion⟩
            have hmissing : missing old.recorded (done ++ [m]) =
                missing old.recorded done := by
              rw [missing_concat, if_pos hmem, List.append_nil]
            have hrest := ih hskip (by rw [hmissing]; exact happlied) hloop
            rwa [List.append_assoc, List.singleton_append] at hrest
      | none =>
          have hmissing : m.version ∉ old.recorded.map MigrationRow.version :=
            MigrationHistory.applied_none hget
          rw [hget] at hloop
          cases hmigrate : migrate execute fails m db with
          | none =>
              simp only [hmigrate] at hloop
              cases hloop
              exact ⟨fun _ h => (by cases h), fun _ _ =>
                ⟨done, m, rest, rfl, hprogress, Or.inr ⟨hmissing, hmigrate⟩⟩⟩
          | some db' =>
              simp only [hmigrate] at hloop
              have hmore := hprogress.migrate hmissing hmigrate
              have hrest := ih hmore (by
                rw [missing_concat, if_neg hmissing, List.map_append, happlied]
                rfl) hloop
              rwa [List.append_assoc, List.singleton_append] at hrest

theorem Progress.start (db : MigrationDatabase σ) : Progress execute [] db db.bootstrap where
  agrees := fun m hm => (by cases hm)
  recorded := (List.append_nil _).symm
  schema := rfl
  table := rfl

theorem applyMigrations_spec {r : Except MigrationError (List String)}
    (h : applyMigrations execute fails migrations old = (r, new)) :
    (forall versions, r = Except.ok versions -> Progress execute migrations old new ∧
      versions = (missing old.recorded migrations).map Migration.version) ∧
    (forall e, r = Except.error e -> Stopped execute fails migrations old new) :=
  applyLoop_spec (Progress.start old) rfl h

theorem applyMigrations_recorded (execute : String -> σ -> Option σ)
    (fails : Migration -> Bool) (htable : db.history.isSome = true)
    (h : forall m, m ∈ migrations -> m.row ∈ db.recorded) :
    applyMigrations execute fails migrations db = (Except.ok [], db) := by
  have hbootstrap : db.bootstrap = db := by
    rcases Option.isSome_iff_exists.mp htable with ⟨history, hhistory⟩
    cases db
    cases hhistory
    rfl
  unfold applyMigrations
  rw [hbootstrap]
  induction migrations with
  | nil => rfl
  | cons m rest ih =>
      have hrow := h m List.mem_cons_self
      have hrest := ih fun m' hm' => h m' (List.mem_cons_of_mem m hm')
      unfold applyLoop applyMigration
      cases hget : (db.history.getD MigrationHistory.empty).applied.get m.version with
      | some previous =>
          rcases MigrationHistory.applied_some hget with ⟨row, hmem, hversion, hprevious⟩
          have hsame : row = m.row := MigrationHistory.eq_of_version hmem hrow hversion
          have hfile : previous = (m.filename, m.checksum) := by
            rw [hprevious, hsame]
            rfl
          dsimp only
          rw [if_neg (not_not.mpr hfile)]
          exact hrest
      | none =>
          exact absurd (List.mem_map.mpr ⟨m.row, hrow, rfl⟩) (MigrationHistory.applied_none hget)

/-- What a run promises of its result and of the database it leaves behind. -/
structure RunOutcome (execute : String -> σ -> Option σ) (fails : Migration -> Bool)
    (migrations : List Migration) (old new : MigrationDatabase σ)
    (result : Except MigrationError (List String)) : Prop where
  returned : forall versions, result = Except.ok versions ->
    Progress execute migrations old new ∧
      versions = (missing old.recorded migrations).map Migration.version ∧
      (versions.Pairwise fun v v' => v < v') ∧
      forall m, m ∈ migrations ->
        (new.recorded.filter fun row => decide (row.version = m.version)) = [m.row]
  raised : forall e, result = Except.error e -> Stopped execute fails migrations old new
  mismatch : forall m, m ∈ migrations -> forall row, row ∈ old.recorded ->
    row.version = m.version -> row ≠ m.row ->
    (exists e, result = Except.error e) ∧
      forall row', row' ∈ new.recorded -> row' ∈ old.recorded ∨ row'.version < m.version

theorem Progress.recorded_row (h : Progress execute migrations old new)
    (hm : m ∈ migrations) : m.row ∈ new.recorded := by
  rw [h.recorded]
  by_cases hmissing : m.version ∈ old.recorded.map MigrationRow.version
  · rcases List.mem_map.mp hmissing with ⟨row, hrow, hversion⟩
    rw [← h.agrees m hm row hrow hversion]
    exact List.mem_append_left _ hrow
  · apply List.mem_append_right
    exact List.mem_map_of_mem (List.mem_filter.mpr ⟨hm, decide_eq_true hmissing⟩)

theorem filter_version (db : MigrationDatabase σ) {row : MigrationRow}
    (h : row ∈ db.recorded) :
    (db.recorded.filter fun r => decide (r.version = row.version)) = [row] := by
  have hnodup := (db.history.getD MigrationHistory.empty).versions
  have hsub : (db.recorded.filter fun r => decide (r.version = row.version)).Nodup :=
    List.Nodup.filter _ (List.Nodup.of_map _ hnodup)
  have hall : forall r, r ∈ db.recorded.filter (fun r => decide (r.version = row.version)) ->
      r = row := by
    intro r hr
    rcases List.mem_filter.mp hr with ⟨hr, hversion⟩
    exact MigrationHistory.eq_of_version hr h (of_decide_eq_true hversion)
  have hmem : row ∈ db.recorded.filter fun r => decide (r.version = row.version) :=
    List.mem_filter.mpr ⟨h, decide_eq_true rfl⟩
  generalize db.recorded.filter (fun r => decide (r.version = row.version)) = rows
    at hsub hall hmem
  cases rows with
  | nil => cases hmem
  | cons r rest =>
      rw [hall r List.mem_cons_self] at hsub ⊢
      cases rest with
      | nil => rfl
      | cons r' rest =>
          rw [hall r' (List.mem_cons_of_mem _ List.mem_cons_self)] at hsub
          exact absurd List.mem_cons_self (List.nodup_cons.mp hsub).left

theorem Stopped.row_before (h : Stopped execute fails migrations old new)
    (hordered : MigrationsOrdered migrations) (hm : m ∈ migrations) {row row' : MigrationRow}
    (hrow : row ∈ old.recorded) (hversion : row.version = m.version) (hdiffers : row ≠ m.row)
    (hrow' : row' ∈ new.recorded) : row' ∈ old.recorded ∨ row'.version < m.version := by
  rcases h with ⟨done, failing, rest, rfl, hprogress, _⟩
  rw [hprogress.recorded] at hrow'
  rcases List.mem_append.mp hrow' with hold | hnew
  · exact Or.inl hold
  · rcases List.mem_map.mp hnew with ⟨m', hm', rfl⟩
    have hdone := (List.mem_filter.mp hm').left
    rcases List.mem_append.mp hm with hearly | hlate
    · exact absurd (hprogress.agrees m hearly row hrow hversion) hdiffers
    · have hpairs := (List.pairwise_append.mp hordered.versions).right.right
      exact Or.inr (hpairs m' hdone m hlate)

theorem applyMigrations_outcome {result : Except MigrationError (List String)}
    (hordered : MigrationsOrdered migrations)
    (h : (result, new) = applyMigrations execute fails migrations old) :
    RunOutcome execute fails migrations old new result := by
  rcases applyMigrations_spec h.symm with ⟨hok, herror⟩
  constructor
  · intro versions hversions
    rcases hok versions hversions with ⟨hprogress, hlisted⟩
    refine ⟨hprogress, hlisted, ?_, ?_⟩
    · rw [hlisted]
      exact List.pairwise_map.mpr (List.Pairwise.filter _ hordered.versions)
    · intro m hm
      exact filter_version new (hprogress.recorded_row hm)
  · exact herror
  · intro m hm row hrow hversion hdiffers
    cases result with
    | ok versions =>
        have hagrees := (hok versions rfl).left.agrees
        exact absurd (hagrees m hm row hrow hversion) hdiffers
    | error e =>
        exact ⟨⟨e, rfl⟩, fun row' hrow' =>
          (herror e rfl).row_before hordered hm hrow hversion hdiffers hrow'⟩

end Outcome

end RefundAgent
