import Mathlib.Data.List.Infix
import Mathlib.Data.List.Sort
import Sastt.Domain.Errors
import Sastt.Lib.Contracts

/-!
# Migrations

`deploy/migrate.py` brings the schema of the database up to the files of its
directory. Each file is executed in one transaction with the row that records
it, so that a file has been executed exactly if it is recorded. Several
deployments may be at work at once, each with the directory of its own release,
and each may be killed at any point.

A deployment reads what is recorded once, and goes by that. Another may have
gone on since, but then the row of the next file is there and the transaction is
rolled back. So no file is executed twice, and a deployment that ends well has
each of its files in the database with the digest it has in the directory
(`migrations_once`). If each release only appends to the files of the one before,
the database is always that of a first part of the newest (`migrations_in_order`).
-/

namespace Sastt

variable {B σ : Type}

/-! ## The database -/

/-- A file of the directory of migrations. -/
structure MigrationFile (B : Type) where
  name : String
  bytes : B
deriving DecidableEq, Repr

/-- **What the script stands on**: the digest, the reading of a file as text, and
what the server makes of a schema when it executes one. -/
structure MigrationTools (B σ : Type) where
  /-- `hashlib.sha256(…).hexdigest()`. -/
  sha256 : B → String
  /-- `read_text(encoding="utf-8")`. -/
  readText : B → Except PyError String
  executeSql : String → σ → Except PyError σ

/-- What is printed, and how the process ends. -/
abbrev MigrateOutcome : Type := List String × Except PyError ℕ

/-- A call of the script: the directory it finds, and whether it is asked for
the status only. -/
structure MigrateCall (B : Type) where
  directory : List (MigrationFile B)
  status : Bool := false

/-- A row of `schema_migrations`. -/
structure AppliedMigration where
  filename : String
  sha256 : String
  /-- The text that was executed. It is not in the table, and nothing reads it. -/
  sql : String
deriving DecidableEq, Repr

/-- What the table has of a row. -/
def AppliedMigration.row (a : AppliedMigration) : String × String := (a.filename, a.sha256)

/-- **The database**: the schema, what has been applied, and of each process that
has ended how it did. -/
structure MigratedDatabase (B σ : Type) where
  schema : σ
  applied : List AppliedMigration := []
  exits : List (MigrateCall B × MigrateOutcome) := []

/-- What a deployment asks of the server. A file and its record are one
transaction. -/
inductive MigrateCommand (B : Type)
  /-- `BOOTSTRAP`, and what is recorded. -/
  | bootstrap
  | migrate (filename sha256 sql : String)
  /-- The process ends. -/
  | exit (call : MigrateCall B) (outcome : MigrateOutcome)

/-- What the server replies. -/
def MigrateReply : MigrateCommand B → Type
  | .bootstrap => Except PyError (List (String × String))
  | .migrate _ _ _ => Except PyError Unit
  | .exit _ _ => Unit

namespace MigratedDatabase

/-- `SELECT filename, sha256 FROM schema_migrations`. -/
def rows (db : MigratedDatabase B σ) : List (String × String) :=
  db.applied.map AppliedMigration.row

variable (tools : MigrationTools B σ)

/-- A migration and its record. The file name is the key of the table. -/
def transact (db : MigratedDatabase B σ) (filename sha256 sql : String) :
    Except PyError (MigratedDatabase B σ) := do
  let schema ← tools.executeSql sql db.schema
  if filename ∈ db.applied.map AppliedMigration.filename then .error (.other "UniqueViolation")
  else return { db with schema, applied := db.applied ++ [⟨filename, sha256, sql⟩] }

/-- **The server executes a command.** It may fail, before the transaction is
committed or after, when the reply is lost. -/
def execute (fault : Option (Bool × PyError)) (_client : ℕ) (db : MigratedDatabase B σ) :
    (c : MigrateCommand B) → MigratedDatabase B σ × MigrateReply c
  | .bootstrap =>
    match fault with
    | some (_, e) => (db, Except.error e)
    | none => (db, Except.ok db.rows)
  | .migrate filename sha256 sql =>
    match db.transact tools filename sha256 sql, fault with
    | .error e, _ => (db, Except.error e)
    | .ok _, some (false, e) => (db, Except.error e)
    | .ok db', some (true, e) => (db', Except.error e)
    | .ok db', none => (db', Except.ok ())
  | .exit call outcome => ({ db with exits := db.exits ++ [(call, outcome)] }, ())

end MigratedDatabase

/-! ## The script -/

/-- `migration_files`. -/
def migrationFiles (directory : List (MigrationFile B)) : List (MigrationFile B) :=
  (directory.filter fun f => ".sql".toList <:+ f.name.toList).insertionSort
    (fun f g => f.name ≤ g.name)

/-- A program of deployments. -/
abbrev MigrateProgram (B : Type) : Type → Type := Program (MigrateCommand B) MigrateReply

/-- The first transaction: what is recorded. -/
def readMigrations : MigrateProgram B (Except PyError (List (String × String))) :=
  Program.issue MigrateCommand.bootstrap

/-- The transaction of one file. -/
def migrate (filename sha256 sql : String) : MigrateProgram B (Except PyError Unit) :=
  Program.issue (MigrateCommand.migrate filename sha256 sql)

namespace MigrationTools

variable (tools : MigrationTools B σ)

/-- The row that records a file. -/
def record (f : MigrationFile B) : String × String := (f.name, tools.sha256 f.bytes)

/-- The first loop of `main`: what it prints, and the files that are pending. A
file that is recorded with another digest ends it. -/
def checkFiles (applied : List (String × String)) (status : Bool) :
    List (MigrationFile B) → List String × Option (List (MigrationFile B))
  | [] => ([], some [])
  | f :: rest =>
    match applied.lookup f.name with
    | none =>
      let (lines, pending) := checkFiles applied status rest
      (if status then ("pending  " ++ f.name) :: lines else lines, pending.map (f :: ·))
    | some recorded =>
      if recorded ≠ tools.sha256 f.bytes then
        (["[FAIL] " ++ f.name ++ ": already applied with a different checksum"], none)
      else
        let (lines, pending) := checkFiles applied status rest
        (if status then ("applied  " ++ f.name) :: lines else lines, pending)

/-- The second loop of `main`. -/
def applyFiles (total : ℕ) :
    List (MigrationFile B) → List String → MigrateProgram B MigrateOutcome
  | [], lines => return (lines ++ ["applied " ++ toString total ++ " migration(s)"], .ok 0)
  | f :: rest, lines =>
    let lines := lines ++ ["[apply] " ++ f.name]
    match tools.readText f.bytes with
    | .error e => return (lines, .error e)
    | .ok sql => do
      match ← migrate f.name (tools.sha256 f.bytes) sql with
      | .error e => return (lines, .error e)
      | .ok () => applyFiles total rest lines

/-- **`main`.** -/
def main (call : MigrateCall B) : MigrateProgram B MigrateOutcome := do
  match ← readMigrations with
  | .error e => return ([], .error e)
  | .ok applied =>
    match tools.checkFiles applied call.status (migrationFiles call.directory) with
    | (lines, none) => return (lines, .ok 1)
    | (lines, some pending) =>
      if call.status then return (lines, .ok 0)
      else if pending = [] then return (lines ++ ["nothing to apply"], .ok 0)
      else tools.applyFiles pending.length pending lines

/-- The process: `main`, and how it ends. -/
def process (call : MigrateCall B) : MigrateProgram B Unit := do
  let outcome ← tools.main call
  Program.issue (MigrateCommand.exit call outcome)

end MigrationTools

/-! ## What is checked -/

section Checked

variable {tools : MigrationTools B σ} {applied : List (String × String)} {status : Bool}
  {files pending : List (MigrationFile B)}

theorem mem_of_lookup {name sha256 : String} (h : applied.lookup name = some sha256) :
    (name, sha256) ∈ applied := by
  obtain ⟨before, after, rfl, -⟩ := List.lookup_eq_some_iff.mp h
  exact List.mem_append_right _ List.mem_cons_self

/-- The files that are pending are those that are not recorded, and the others are
recorded as they are. -/
theorem checkFiles_eq_some
    (h : (tools.checkFiles applied status files).2 = some pending) :
    pending = files.filter (fun f => (applied.lookup f.name).isNone)
      ∧ ∀ f ∈ files, f ∈ pending ∨ tools.record f ∈ applied := by
  induction files generalizing pending with
  | nil =>
    cases h
    exact ⟨rfl, fun f hf => absurd hf List.not_mem_nil⟩
  | cons f rest ih =>
    unfold MigrationTools.checkFiles at h
    cases hf : applied.lookup f.name with
    | none =>
      rw [hf] at h
      obtain ⟨pending', hpending', rfl⟩ := Option.map_eq_some_iff.mp h
      obtain ⟨rfl, hrest⟩ := ih hpending'
      refine ⟨by rw [List.filter_cons_of_pos (by rw [hf]; rfl)], ?_⟩
      rintro g (_ | ⟨_, hg⟩)
      · exact Or.inl List.mem_cons_self
      · exact (hrest g hg).imp_left (List.mem_cons_of_mem f)
    | some recorded =>
      rw [hf] at h
      dsimp only at h
      split at h
      · cases h
      · next hsame =>
        rw [not_not] at hsame
        obtain ⟨rfl, hrest⟩ := ih h
        refine ⟨by rw [List.filter_cons_of_neg (by rw [hf]; exact Bool.false_ne_true)], ?_⟩
        rintro g (_ | ⟨_, hg⟩)
        · exact Or.inr (mem_of_lookup (by rw [hf, hsame]))
        · exact hrest g hg

/-- A deployment is refused for a file that is recorded with another digest. -/
theorem checkFiles_eq_none (h : (tools.checkFiles applied status files).2 = none) :
    ∃ f ∈ files, ∃ recorded, (f.name, recorded) ∈ applied ∧ recorded ≠ tools.sha256 f.bytes := by
  induction files with
  | nil => cases h
  | cons f rest ih =>
    unfold MigrationTools.checkFiles at h
    cases hf : applied.lookup f.name with
    | none =>
      rw [hf] at h
      obtain ⟨g, hg, hdiffers⟩ := ih (Option.map_eq_none_iff.mp h)
      exact ⟨g, List.mem_cons_of_mem f hg, hdiffers⟩
    | some recorded =>
      rw [hf] at h
      dsimp only at h
      split at h
      · next hdiffers => exact ⟨f, List.mem_cons_self, recorded, mem_of_lookup hf, hdiffers⟩
      · obtain ⟨g, hg, hdiffers⟩ := ih h
        exact ⟨g, List.mem_cons_of_mem f hg, hdiffers⟩

end Checked

/-! ## What deployments keep to -/

/-- **How a process ends.** If it ends well, and was not asked for the status only,
each of its files is recorded as it is; it is refused for a file that is recorded
with another digest. -/
structure EndsWell (tools : MigrationTools B σ) (rows : List (String × String))
    (call : MigrateCall B) (outcome : MigrateOutcome) : Prop where
  done : outcome.2 = .ok 0 → call.status = false →
    ∀ f ∈ migrationFiles call.directory, tools.record f ∈ rows
  refused : outcome.2 = .ok 1 → ∃ f ∈ migrationFiles call.directory, ∃ recorded,
    (f.name, recorded) ∈ rows ∧ recorded ≠ tools.sha256 f.bytes

theorem EndsWell.of_subset {tools : MigrationTools B σ} {rows rows' : List (String × String)}
    {call : MigrateCall B} {outcome : MigrateOutcome} (h : EndsWell tools rows call outcome)
    (hsub : rows ⊆ rows') : EndsWell tools rows' call outcome where
  done hok hstatus f hf := hsub (h.done hok hstatus f hf)
  refused hfail := by
    obtain ⟨f, hf, recorded, hmem, hdiffers⟩ := h.refused hfail
    exact ⟨f, hf, recorded, hsub hmem, hdiffers⟩

/-- What is applied when a file is. -/
def MigrationTools.appliedOf (tools : MigrationTools B σ) (f : MigrationFile B) :
    Except PyError AppliedMigration :=
  (tools.readText f.bytes).map fun sql => ⟨f.name, tools.sha256 f.bytes, sql⟩

theorem MigrationTools.row_of_appliedOf {tools : MigrationTools B σ} {f : MigrationFile B}
    {a : AppliedMigration} (h : tools.appliedOf f = .ok a) : a.row = tools.record f := by
  unfold MigrationTools.appliedOf at h
  cases hsql : tools.readText f.bytes with
  | error e =>
    rw [hsql] at h
    cases h
  | ok sql =>
    rw [hsql] at h
    cases h
    rfl

/-- **A rule deployments keep to**: which calls there are, which file one may apply,
knowing what rows are there, how what it knows is related to the rows there are,
and what is then true of all that has been applied. -/
structure DeployRule (tools : MigrationTools B σ) where
  called : MigrateCall B → Prop
  applies : List (String × String) → MigrationFile B → Prop
  known : List (String × String) → List (String × String) → Prop
  kept : List AppliedMigration → Prop
  known_nil : ∀ rows, known [] rows
  known_self : ∀ rows, known rows rows
  known_append : ∀ rows rows' row, known rows rows' → known rows (rows' ++ [row])
  subset : ∀ rows rows', known rows rows' → rows ⊆ rows'
  kept_nil : kept []
  next : ∀ {applied rows f a}, kept applied → known rows (applied.map AppliedMigration.row) →
    applies rows f → tools.appliedOf f = .ok a →
    a.filename ∉ applied.map AppliedMigration.filename →
      kept (applied ++ [a]) ∧ known (rows ++ [a.row]) (applied.map AppliedMigration.row ++ [a.row])

namespace DeployRule

variable {tools : MigrationTools B σ} (rule : DeployRule tools)

/-- **The contract of a deployment**, which knows what rows are there. -/
def contract : Contract (MigrateCommand B) MigrateReply (List (String × String)) where
  allows known
    | .bootstrap => True
    | .migrate filename sha256 sql => ∃ f, rule.applies known f
        ∧ tools.appliedOf f = .ok ⟨filename, sha256, sql⟩
    | .exit call outcome => rule.called call ∧ EndsWell tools known call outcome
  learn known
    | .bootstrap => fun r : Except PyError (List (String × String)) =>
      match r with
      | .ok rows => rows
      | .error _ => known
    | .migrate filename sha256 _ => fun r : Except PyError Unit =>
      match r with
      | .ok () => known ++ [(filename, sha256)]
      | .error _ => known
    | .exit _ _ => fun _ => known
  expects _
    | .bootstrap => fun r : Except PyError (List (String × String)) =>
      ∀ rows, r = .ok rows → ∃ applied, rule.kept applied ∧ rows = applied.map AppliedMigration.row
    | .migrate _ _ _ => fun _ => True
    | .exit _ _ => fun _ => True

/-- The files may be applied one after the other. -/
def Applicable : List (String × String) → List (MigrationFile B) → Prop
  | _, [] => True
  | known, f :: rest => rule.applies known f ∧ Applicable (known ++ [tools.record f]) rest

/-- The rule lets a directory be deployed: whatever is recorded, the files that are
not may be applied one after the other. -/
def Lets (directory : List (MigrationFile B)) : Prop :=
  ∀ applied, rule.kept applied → rule.Applicable (applied.map AppliedMigration.row)
    ((migrationFiles directory).filter fun f =>
      ((applied.map AppliedMigration.row).lookup f.name).isNone)

variable {rule}

theorem keeps_readMigrations
    {Q : List (String × String) → Except PyError (List (String × String)) → Prop}
    {known : List (String × String)} (herror : ∀ e, Q known (.error e))
    (hok : ∀ applied, rule.kept applied → Q (applied.map AppliedMigration.row)
      (.ok (applied.map AppliedMigration.row))) :
    (readMigrations : MigrateProgram B _).Keeps rule.contract Q known := by
  refine Program.keeps_issue (c := MigrateCommand.bootstrap) True.intro ?_
  rintro (e | rows) hexpects
  · exact herror e
  · obtain ⟨applied, hkept, rfl⟩ := hexpects rows rfl
    exact hok applied hkept

theorem keeps_migrate {f : MigrationFile B} {sql : String}
    {Q : List (String × String) → Except PyError Unit → Prop} {known : List (String × String)}
    (hf : rule.applies known f) (hsql : tools.readText f.bytes = .ok sql)
    (herror : ∀ e, Q known (.error e)) (hok : Q (known ++ [tools.record f]) (.ok ())) :
    (migrate f.name (tools.sha256 f.bytes) sql : MigrateProgram B _).Keeps rule.contract Q
      known := by
  refine Program.keeps_issue (c := MigrateCommand.migrate _ _ _) ⟨f, hf, ?_⟩ ?_
  · unfold MigrationTools.appliedOf
    rw [hsql]
    rfl
  · rintro (e | ⟨⟩) -
    · exact herror e
    · exact hok

/-- **The files are applied** one after the other, or the process raises. -/
theorem keeps_applyFiles {total : ℕ} {pending : List (MigrationFile B)} {lines : List String}
    {known : List (String × String)} (h : rule.Applicable known pending) :
    (tools.applyFiles total pending lines).Keeps rule.contract
      (fun known' outcome => outcome.2 ≠ .ok 1
        ∧ (outcome.2 = .ok 0 → known' = known ++ pending.map tools.record)) known := by
  induction pending generalizing known lines with
  | nil => exact Program.keeps_pure ⟨nofun, fun _ => (List.append_nil _).symm⟩
  | cons f rest ih =>
    unfold MigrationTools.applyFiles
    dsimp only
    cases hsql : tools.readText f.bytes with
    | error e => exact Program.keeps_pure ⟨nofun, nofun⟩
    | ok sql =>
      refine Program.keeps_bind (keeps_migrate h.1 hsql (fun e => ?_) ?_)
      · exact Program.keeps_pure ⟨nofun, nofun⟩
      · refine (ih h.2).mono (fun known' outcome ho => ⟨ho.1, fun hok => ?_⟩)
        rw [ho.2 hok, List.append_assoc]
        rfl

/-- **The script keeps the contract**, and ends well. -/
theorem keeps_main {call : MigrateCall B} (h : rule.Lets call.directory) :
    (tools.main call).Keeps rule.contract (fun known outcome => EndsWell tools known call outcome)
      [] := by
  refine Program.keeps_bind (keeps_readMigrations (fun e => ?_) (fun applied hkept => ?_))
  · exact Program.keeps_pure ⟨nofun, nofun⟩
  · dsimp only
    rcases hcheck : tools.checkFiles (applied.map AppliedMigration.row) call.status
      (migrationFiles call.directory) with ⟨lines, _ | pending⟩
    · exact Program.keeps_pure ⟨nofun, fun _ => checkFiles_eq_none (congrArg Prod.snd hcheck)⟩
    · obtain ⟨rfl, hfiles⟩ := checkFiles_eq_some (congrArg Prod.snd hcheck)
      dsimp only
      split
      · next hstatus =>
        exact Program.keeps_pure ⟨fun _ hnot => absurd (hstatus.symm.trans hnot) nofun, nofun⟩
      · split
        · next hnothing =>
          refine Program.keeps_pure ⟨fun _ _ f hf => ?_, nofun⟩
          refine (hfiles f hf).resolve_left (fun hpending => ?_)
          rw [hnothing] at hpending
          cases hpending
        · refine (keeps_applyFiles (h applied hkept)).mono (fun known outcome ho => ?_)
          refine ⟨fun hok _ f hf => ?_, fun hfail => absurd hfail ho.1⟩
          rw [ho.2 hok]
          exact (hfiles f hf).elim (fun hpending => List.mem_append_right _
            (List.mem_map_of_mem hpending)) (List.mem_append_left _)

theorem keeps_process {call : MigrateCall B} (hcalled : rule.called call)
    (h : rule.Lets call.directory) :
    (tools.process call).Keeps rule.contract (fun _ _ => True) [] :=
  Program.keeps_bind ((keeps_main h).mono (fun _ _ ho =>
    Program.keeps_issue (c := MigrateCommand.exit _ _) ⟨hcalled, ho⟩ (fun _ _ => trivial)))

end DeployRule

/-! ## Runs -/

/-- The database and the deployments that are at work. -/
abbrev MigrateSystem (B σ : Type) : Type :=
  SharedStore (MigrateCommand B) MigrateReply (MigratedDatabase B σ)

/-- What can happen. -/
abbrev MigrateEvent (B : Type) : Type := ClientEvent (MigrateCall B) (Option (Bool × PyError))

/-- One event. -/
def MigrateSystem.step (tools : MigrationTools B σ) (s : MigrateSystem B σ)
    (e : MigrateEvent B) : MigrateSystem B σ :=
  SharedStore.step (MigratedDatabase.execute tools) tools.process s e

/-- A database nothing has been applied to. -/
def MigrateSystem.fresh (schema : σ) : MigrateSystem B σ where
  store := { schema }

/-- The schema after what has been applied. -/
def MigrationTools.replay (tools : MigrationTools B σ) (schema : σ)
    (applied : List AppliedMigration) : Except PyError σ :=
  applied.foldlM (fun schema a => tools.executeSql a.sql schema) schema

section Runs

variable {tools : MigrationTools B σ} {rule : DeployRule tools} {schema₀ : σ}
  {db : MigratedDatabase B σ} {fault : Option (Bool × PyError)} {client : ℕ}

theorem replay_concat {applied : List AppliedMigration} {a : AppliedMigration} {schema schema' : σ}
    (h : tools.replay schema₀ applied = .ok schema)
    (ha : tools.executeSql a.sql schema = .ok schema') :
    tools.replay schema₀ (applied ++ [a]) = .ok schema' := by
  unfold MigrationTools.replay at h ⊢
  rw [List.foldlM_append, h]
  show (tools.executeSql a.sql schema >>= fun schema => pure schema) = _
  rw [ha]
  rfl

/-- A transaction is rolled back, or it executes the text and records it, if the
file was not recorded. -/
theorem transact_cases (tools : MigrationTools B σ) (db : MigratedDatabase B σ)
    (filename sha256 sql : String) :
    (∃ e, db.transact tools filename sha256 sql = .error e)
      ∨ ∃ schema, tools.executeSql sql db.schema = .ok schema
        ∧ filename ∉ db.applied.map AppliedMigration.filename
        ∧ db.transact tools filename sha256 sql
          = .ok { db with schema, applied := db.applied ++ [⟨filename, sha256, sql⟩] } := by
  unfold MigratedDatabase.transact
  cases tools.executeSql sql db.schema with
  | error e => exact Or.inl ⟨e, rfl⟩
  | ok schema =>
    by_cases hmem : filename ∈ db.applied.map AppliedMigration.filename
    · exact Or.inl ⟨_, if_pos hmem⟩
    · exact Or.inr ⟨schema, rfl, hmem, if_neg hmem⟩

/-- **The transaction of a file** leaves everything as it is, and says why, or it is
committed. -/
theorem execute_migrate (tools : MigrationTools B σ) (db : MigratedDatabase B σ)
    (fault : Option (Bool × PyError)) (client : ℕ) (filename sha256 sql : String) :
    (∃ e : PyError, db.execute tools fault client (.migrate filename sha256 sql)
        = (db, (Except.error e : Except PyError Unit)))
      ∨ ∃ schema reply, tools.executeSql sql db.schema = .ok schema
        ∧ filename ∉ db.applied.map AppliedMigration.filename
        ∧ db.execute tools fault client (.migrate filename sha256 sql)
          = ({ db with schema, applied := db.applied ++ [⟨filename, sha256, sql⟩] }, reply) := by
  unfold MigratedDatabase.execute
  dsimp only
  rcases transact_cases tools db filename sha256 sql with
    ⟨e, he⟩ | ⟨schema, hsql, hfresh, hok⟩
  · rw [he]
    exact Or.inl ⟨e, rfl⟩
  · rw [hok]
    rcases fault with _ | ⟨_ | _, e⟩
    · exact Or.inr ⟨schema, _, hsql, hfresh, rfl⟩
    · exact Or.inl ⟨e, rfl⟩
    · exact Or.inr ⟨schema, _, hsql, hfresh, rfl⟩

/-- **What holds of the database** in a run that started with a schema. -/
structure DeployRule.Holds (rule : DeployRule tools) (schema₀ : σ) (db : MigratedDatabase B σ) :
    Prop where
  kept : rule.kept db.applied
  replayed : tools.replay schema₀ db.applied = .ok db.schema
  ended : ∀ e ∈ db.exits, rule.called e.1 ∧ EndsWell tools db.rows e.1 e.2

/-- Rows are only added. -/
theorem known_execute {rows : List (String × String)} (h : rule.known rows db.rows)
    (c : MigrateCommand B) : rule.known rows (db.execute tools fault client c).1.rows := by
  cases c with
  | bootstrap =>
    unfold MigratedDatabase.execute
    dsimp only
    split <;> exact h
  | exit call outcome => exact h
  | migrate filename sha256 sql =>
    rcases execute_migrate tools db fault client filename sha256 sql with
      ⟨e, he⟩ | ⟨schema, reply, -, -, hr⟩
    · rw [he]
      exact h
    · rw [hr]
      show rule.known rows (List.map AppliedMigration.row (db.applied ++ [_]))
      rw [List.map_append]
      exact rule.known_append _ _ _ h

/-- **One command** of a deployment that keeps the contract: the reply is an
expected one, and what holds of the database and what the deployment knows still
does. -/
theorem DeployRule.Holds.execute (h : rule.Holds schema₀ db) {rows : List (String × String)}
    (hknown : rule.known rows db.rows) {c : MigrateCommand B}
    (hallows : rule.contract.allows rows c) :
    rule.Holds schema₀ (db.execute tools fault client c).1
      ∧ rule.contract.expects rows c (db.execute tools fault client c).2
      ∧ rule.known (rule.contract.learn rows c (db.execute tools fault client c).2)
        (db.execute tools fault client c).1.rows := by
  cases c with
  | bootstrap =>
    rcases fault with _ | ⟨_, e⟩
    · refine ⟨h, ?_, rule.known_self _⟩
      rintro _ ⟨⟩
      exact ⟨db.applied, h.kept, rfl⟩
    · exact ⟨h, nofun, hknown⟩
  | exit call outcome =>
    refine ⟨⟨h.kept, h.replayed, fun e he => ?_⟩, trivial, hknown⟩
    rcases List.mem_append.mp he with he | he
    · exact h.ended e he
    · cases List.mem_singleton.mp he
      exact ⟨hallows.1, hallows.2.of_subset (rule.subset _ _ hknown)⟩
  | migrate filename sha256 sql =>
    obtain ⟨f, hf, ha⟩ := hallows
    rcases execute_migrate tools db fault client filename sha256 sql with
      ⟨e, he⟩ | ⟨schema, reply, hsql, hfresh, hr⟩
    · rw [he]
      exact ⟨h, trivial, hknown⟩
    · obtain ⟨hkept, hnext⟩ := rule.next h.kept hknown hf ha hfresh
      have hrows : List.map AppliedMigration.row (db.applied ++ [⟨filename, sha256, sql⟩])
          = db.rows ++ [(filename, sha256)] := List.map_append
      rw [hr]
      refine ⟨⟨hkept, replay_concat h.replayed hsql, fun e he => ?_⟩, trivial, ?_⟩
      · refine (h.ended e he).imp_right (fun hends => hends.of_subset ?_)
        show db.rows ⊆ List.map AppliedMigration.row (db.applied ++ [_])
        rw [hrows]
        exact List.subset_append_left _ _
      · show rule.known _ (List.map AppliedMigration.row (db.applied ++ [_]))
        rw [hrows]
        rcases (reply : Except PyError Unit) with e | ⟨⟩
        · exact rule.known_append _ _ _ hknown
        · exact hnext

/-- What holds of the database, and what the deployments know. -/
structure DeployRule.Kept (rule : DeployRule tools) (schema₀ : σ) (s : MigrateSystem B σ) :
    Prop where
  holds : rule.Holds schema₀ s.store
  ensures : s.Ensures (fun _ => rule.contract) (fun db _ rows => rule.known rows db.rows)
    (fun _ _ => True)

theorem DeployRule.kept_fresh (schema₀ : σ) : rule.Kept schema₀ (MigrateSystem.fresh schema₀) where
  holds := ⟨rule.kept_nil, rfl, fun _ he => absurd he List.not_mem_nil⟩
  ensures := nofun

/-- **One event.** -/
theorem DeployRule.Kept.step {s : MigrateSystem B σ} (h : rule.Kept schema₀ s) {e : MigrateEvent B}
    (hlets : ∀ client call, e = .start client call →
      rule.called call ∧ rule.Lets call.directory) :
    rule.Kept schema₀ (s.step tools e) := by
  refine ⟨?_, ?_⟩
  · rcases SharedStore.store_step (MigratedDatabase.execute tools) tools.process s e with
      ⟨-, hstore⟩ | ⟨client, fault, c, hissued, hstore⟩
    · unfold MigrateSystem.step
      rw [hstore]
      exact h.holds
    · obtain ⟨rows, hknown, hallows⟩ := h.ensures.issued hissued
      unfold MigrateSystem.step
      rw [hstore]
      exact (h.holds.execute hknown hallows).1
  · cases e with
    | start client call =>
      obtain ⟨hcalled, hdirectory⟩ := hlets client call rfl
      exact h.ensures.start ⟨[], rule.known_nil _, keeps_process hcalled hdirectory⟩
    | crash client => exact h.ensures.crash client
    | command client fault =>
      exact h.ensures.command
        (fun c k rows hc hknown hallows => (h.holds.execute hknown hallows).2)
        (fun c k client' rows _ _ hknown => known_execute hknown c)

/-- **A run.** -/
theorem DeployRule.kept_run {events : List (MigrateEvent B)}
    (hlets : ∀ client call, .start client call ∈ events →
      rule.called call ∧ rule.Lets call.directory) :
    rule.Kept schema₀ (events.foldl (MigrateSystem.step tools) (MigrateSystem.fresh schema₀)) := by
  suffices hrun : ∀ s, rule.Kept schema₀ s →
      rule.Kept schema₀ (events.foldl (MigrateSystem.step tools) s) by
    exact hrun _ (rule.kept_fresh schema₀)
  induction events with
  | nil => exact fun s hs => hs
  | cons e events ih =>
    intro s hs
    refine ih (fun client call hmem => hlets client call (List.mem_cons_of_mem e hmem)) _ ?_
    exact hs.step (fun client call he => hlets client call (he ▸ List.mem_cons_self))

end Runs

/-! ## Each file once -/

/-- **Files are applied that are there to be deployed**, each once. -/
def DeployRule.once (tools : MigrationTools B σ) (called : MigrateCall B → Prop) :
    DeployRule tools where
  called := called
  applies _ f := ∃ call, called call ∧ f ∈ migrationFiles call.directory
  known rows rows' := rows ⊆ rows'
  kept applied := (applied.map AppliedMigration.filename).Nodup
    ∧ ∀ a ∈ applied, ∃ call, called call
      ∧ ∃ f ∈ migrationFiles call.directory, tools.appliedOf f = .ok a
  known_nil := List.nil_subset
  known_self := List.Subset.refl
  known_append _ _ _ h := List.subset_append_of_subset_left _ h
  subset _ _ h := h
  kept_nil := ⟨List.nodup_nil, fun _ h => absurd h List.not_mem_nil⟩
  next := by
    rintro applied rows f a ⟨hnodup, hfiles⟩ hknown ⟨call, hcalled, hf⟩ ha hfresh
    refine ⟨⟨?_, fun a' ha' => ?_⟩, ?_⟩
    · rw [List.map_append]
      exact hnodup.append (List.nodup_singleton _) (List.disjoint_singleton.mpr hfresh)
    · rcases List.mem_append.mp ha' with ha' | ha'
      · exact hfiles a' ha'
      · cases List.mem_singleton.mp ha'
        exact ⟨call, hcalled, f, hf, ha⟩
    · exact List.append_subset.mpr ⟨List.subset_append_of_subset_left _ hknown,
        List.subset_append_right _ _⟩

theorem DeployRule.applicable_once {tools : MigrationTools B σ} {called : MigrateCall B → Prop}
    {files : List (MigrationFile B)}
    (h : ∀ f ∈ files, ∃ call, called call ∧ f ∈ migrationFiles call.directory)
    (known : List (String × String)) : (DeployRule.once tools called).Applicable known files := by
  induction files generalizing known with
  | nil => exact trivial
  | cons f rest ih =>
    exact ⟨h f List.mem_cons_self, ih (fun g hg => h g (List.mem_cons_of_mem f hg)) _⟩

/-- **No file is executed twice**, whatever deployments are at work at once, with
whatever directories, and wherever they are killed or lose the connection. What
has been executed is what is recorded, and makes up the schema; a deployment that
ends well has each of its files in the database, as it is in its directory, and
one is refused only for a file that is recorded with another digest. -/
theorem migrations_once (tools : MigrationTools B σ) (schema₀ : σ)
    (events : List (MigrateEvent B)) :
    let s := events.foldl (MigrateSystem.step tools) (MigrateSystem.fresh schema₀)
    (s.store.applied.map AppliedMigration.filename).Nodup
      ∧ (∀ a ∈ s.store.applied, ∃ client call, .start client call ∈ events
        ∧ ∃ f ∈ migrationFiles call.directory, tools.appliedOf f = .ok a)
      ∧ tools.replay schema₀ s.store.applied = .ok s.store.schema
      ∧ ∀ e ∈ s.store.exits, EndsWell tools s.store.rows e.1 e.2 := by
  intro s
  obtain ⟨⟨⟨hnodup, hfiles⟩, hreplayed, hended⟩, -⟩ : (DeployRule.once tools fun call =>
      ∃ client, ClientEvent.start client call ∈ events).Kept schema₀ s := by
    refine DeployRule.kept_run (fun client call hstart => ⟨⟨client, hstart⟩, fun applied _ => ?_⟩)
    exact DeployRule.applicable_once
      (fun f hf => ⟨call, ⟨client, hstart⟩, (List.mem_filter.mp hf).1⟩) _
  refine ⟨hnodup, fun a ha => ?_, hreplayed, fun e he => (hended e he).2⟩
  obtain ⟨call, ⟨client, hstart⟩, hf⟩ := hfiles a ha
  exact ⟨client, call, hstart, hf⟩

/-! ## In the order of the releases -/

section InOrder

variable {tools : MigrationTools B σ} {released : List (MigrationFile B)}
  {applied : List AppliedMigration} {k : ℕ}

/-- The files have been applied, one after the other, and nothing else. -/
def Deployed (tools : MigrationTools B σ) (files : List (MigrationFile B))
    (applied : List AppliedMigration) : Prop :=
  List.Forall₂ (fun f a => tools.appliedOf f = .ok a) files applied

theorem Deployed.rows {files : List (MigrationFile B)} (h : Deployed tools files applied) :
    applied.map AppliedMigration.row = files.map tools.record := by
  induction h with
  | nil => rfl
  | cons hone _ ih => rw [List.map_cons, List.map_cons, ih, MigrationTools.row_of_appliedOf hone]

theorem Deployed.filenames {files : List (MigrationFile B)} (h : Deployed tools files applied) :
    applied.map AppliedMigration.filename = files.map MigrationFile.name := by
  have hrows := congrArg (List.map Prod.fst) h.rows
  rwa [List.map_map, List.map_map] at hrows

/-- What files make of a schema, executed one after the other. -/
def MigrationTools.executeFiles (tools : MigrationTools B σ) (schema : σ)
    (files : List (MigrationFile B)) : Except PyError σ :=
  files.foldlM (fun schema f => tools.readText f.bytes >>= fun sql => tools.executeSql sql schema)
    schema

/-- The schema is what the files make of it. -/
theorem Deployed.replay {files : List (MigrationFile B)} (h : Deployed tools files applied)
    (schema₀ : σ) : tools.replay schema₀ applied = tools.executeFiles schema₀ files := by
  unfold MigrationTools.replay MigrationTools.executeFiles
  induction h generalizing schema₀ with
  | nil => rfl
  | @cons f a _ _ hone _ ih =>
    rw [List.foldlM_cons, List.foldlM_cons]
    unfold MigrationTools.appliedOf at hone
    cases hsql : tools.readText f.bytes with
    | error e =>
      rw [hsql] at hone
      cases hone
    | ok sql =>
      rw [hsql] at hone
      cases hone
      exact bind_congr ih

/-- A file comes after the first ones exactly if its name does not occur among
theirs. -/
theorem name_notMem_take (hnames : (released.map MigrationFile.name).Nodup) {n : ℕ}
    {f : MigrationFile B} (hf : released[n]? = some f) :
    f.name ∉ (released.take k).map MigrationFile.name ↔ k ≤ n := by
  obtain ⟨hn, rfl⟩ := List.getElem?_eq_some_iff.mp hf
  constructor
  · intro hnot
    by_contra hlt
    rw [not_le] at hlt
    exact hnot (List.mem_map_of_mem (List.mem_take_iff_getElem.mpr
      ⟨n, lt_min hlt hn, rfl⟩))
  · intro hle hmem
    obtain ⟨g, hg, hname⟩ := List.mem_map.mp hmem
    obtain ⟨i, hi, rfl⟩ := List.mem_take_iff_getElem.mp hg
    obtain ⟨hik, hin⟩ := Nat.lt_min.mp hi
    rw [← List.length_map (f := MigrationFile.name)] at hin hn
    have hsame : (released.map MigrationFile.name)[i] = (released.map MigrationFile.name)[n] := by
      simpa only [List.getElem_map] using hname
    rw [hnames.getElem_inj_iff] at hsame
    omega

/-- **Files are applied in the order they are released**: the next one is the one
after those that are known to be there. -/
def DeployRule.inOrder (tools : MigrationTools B σ)
    (hnames : (released.map MigrationFile.name).Nodup) : DeployRule tools where
  called call := migrationFiles call.directory <+: released
  applies rows f := released[rows.length]? = some f
  known rows rows' := rows <+: rows'
  kept applied := ∃ k, Deployed tools (released.take k) applied
  known_nil _ := List.nil_prefix
  known_self := List.prefix_refl
  known_append _ _ _ h := h.trans (List.prefix_append _ _)
  subset _ _ h := h.subset
  kept_nil := ⟨0, .nil⟩
  next := by
    rintro applied rows f a ⟨k, hk⟩ hknown hf ha hfresh
    have hname : a.filename = f.name :=
      congrArg Prod.fst (MigrationTools.row_of_appliedOf ha)
    -- the name is not recorded, so all that is recorded is known
    have hle : k ≤ rows.length := by
      rw [hname, hk.filenames] at hfresh
      exact (name_notMem_take hnames hf).mp hfresh
    have hall : rows = applied.map AppliedMigration.row := by
      refine hknown.eq_of_length_le ?_
      rw [hk.rows, List.length_map]
      exact (List.length_take_le k released).trans hle
    have hlength : rows.length = (released.take k).length := by
      rw [hall, hk.rows, List.length_map]
    have htake : released.take rows.length = released.take k := by
      rw [hlength, List.length_take, ← List.take_take, List.take_length]
    refine ⟨⟨rows.length + 1, ?_⟩, ?_⟩
    · rw [List.take_add_one, hf, htake]
      exact List.rel_append hk (.cons ha .nil)
    · rw [← hall]

/-- The files after the first ones may be applied one after the other. -/
theorem DeployRule.applicable_inOrder (hnames : (released.map MigrationFile.name).Nodup)
    {rows : List (String × String)} {files : List (MigrationFile B)}
    (h : files <+: released.drop rows.length) :
    (DeployRule.inOrder tools hnames).Applicable rows files := by
  induction files generalizing rows with
  | nil => exact trivial
  | cons f rest ih =>
    obtain ⟨after, hafter⟩ := h
    have hdrop : released.drop rows.length = f :: (rest ++ after) := hafter.symm
    refine ⟨?_, ih ⟨after, ?_⟩⟩
    · show released[rows.length]? = some f
      rw [← List.head?_drop, hdrop, List.head?_cons]
    · rw [List.length_append, List.length_singleton, ← List.tail_drop, hdrop, List.tail_cons]

/-- A name is not among the rows. -/
theorem lookup_isNone_iff {rows : List (String × String)} {name : String} :
    (rows.lookup name).isNone = true ↔ name ∉ rows.map Prod.fst := by
  rw [Option.isNone_iff_eq_none, List.lookup_eq_none_iff]
  constructor
  · intro h hmem
    obtain ⟨row, hrow, hname⟩ := List.mem_map.mp hmem
    have hne := h row hrow
    rw [hname] at hne
    simp at hne
  · intro h row hrow
    rw [bne_iff_ne]
    intro hname
    exact h (hname ▸ List.mem_map_of_mem hrow)

/-- What is pending is the directory without the first files. -/
theorem Deployed.pending (hnames : (released.map MigrationFile.name).Nodup)
    (h : Deployed tools (released.take k) applied) {files : List (MigrationFile B)}
    (hfiles : files <+: released) :
    files.filter (fun f => ((applied.map AppliedMigration.row).lookup f.name).isNone)
      = files.drop k := by
  have hnone : ∀ {i : ℕ} {f : MigrationFile B}, files[i]? = some f →
      (((applied.map AppliedMigration.row).lookup f.name).isNone = true ↔ k ≤ i) := by
    intro i f hf
    obtain ⟨after, rfl⟩ := hfiles
    have hi : i < files.length := (List.getElem?_eq_some_iff.mp hf).1
    rw [lookup_isNone_iff, h.rows, List.map_map, ← name_notMem_take hnames (f := f)
      ((List.getElem?_append_left hi).trans hf)]
    rfl
  conv_lhs => rw [← List.take_append_drop k files]
  rw [List.filter_append, List.filter_eq_nil_iff.mpr, List.filter_eq_self.mpr, List.nil_append]
  · intro f hf
    obtain ⟨i, hi, rfl⟩ := List.mem_drop_iff_getElem.mp hf
    rw [Nat.add_comm] at hi
    exact (hnone (i := k + i) (List.getElem?_eq_getElem hi)).mpr (Nat.le_add_right k i)
  · intro f hf hnot
    obtain ⟨i, hi, rfl⟩ := List.mem_take_iff_getElem.mp hf
    obtain ⟨hik, hin⟩ := Nat.lt_min.mp hi
    exact absurd ((hnone (List.getElem?_eq_getElem hin)).mp hnot) (not_le.mpr hik)

/-- **A release can be deployed** after one that it only appends to. -/
theorem DeployRule.lets_inOrder (hnames : (released.map MigrationFile.name).Nodup)
    {directory : List (MigrationFile B)} (h : migrationFiles directory <+: released) :
    (DeployRule.inOrder tools hnames).Lets directory := by
  rintro applied ⟨k, hk⟩
  refine DeployRule.applicable_inOrder hnames ?_
  rw [hk.pending hnames h, hk.rows, List.length_map, List.length_take]
  rcases le_total k released.length with hle | hle
  · rw [min_eq_left hle]
    exact List.IsPrefix.drop h k
  · rw [List.drop_eq_nil_of_le (h.length_le.trans hle)]
    exact List.nil_prefix

end InOrder

/-- **The files are executed in the order they are released.** If each release
only appends to the files of the one before, then in every run of any number of
deployments of any releases, wherever they are killed, the schema is what the
first files of the newest release make of it, none is refused, and one that ends
well has at least the files of its own release in the database. -/
theorem migrations_in_order (tools : MigrationTools B σ) (schema₀ : σ)
    {released : List (MigrationFile B)} (hnames : (released.map MigrationFile.name).Nodup)
    {events : List (MigrateEvent B)}
    (hreleases : ∀ client call, .start client call ∈ events →
      migrationFiles call.directory <+: released) :
    let s := events.foldl (MigrateSystem.step tools) (MigrateSystem.fresh schema₀)
    ∃ k, Deployed tools (released.take k) s.store.applied
      ∧ tools.executeFiles schema₀ (released.take k) = .ok s.store.schema
      ∧ ∀ e ∈ s.store.exits, e.2.2 ≠ .ok 1
        ∧ (e.2.2 = .ok 0 → e.1.status = false → (migrationFiles e.1.directory).length ≤ k) := by
  intro s
  obtain ⟨⟨⟨k, hk⟩, hreplayed, hended⟩, -⟩ : (DeployRule.inOrder tools hnames).Kept schema₀ s :=
    DeployRule.kept_run (fun client call hstart =>
      ⟨hreleases client call hstart, DeployRule.lets_inOrder hnames (hreleases client call hstart)⟩)
  refine ⟨k, hk, (hk.replay schema₀).symm.trans hreplayed, fun e he => ⟨fun hfail => ?_, ?_⟩⟩
  · obtain ⟨hstarted, hends⟩ := hended e he
    obtain ⟨f, hf, recorded, hmem, hdiffers⟩ := hends.refused hfail
    -- the file that is recorded under this name is the file itself
    rw [MigratedDatabase.rows, hk.rows] at hmem
    obtain ⟨g, hg, hrecord⟩ := List.mem_map.mp hmem
    have hsame : g = f := List.inj_on_of_nodup_map hnames (List.mem_of_mem_take hg)
      (hstarted.subset hf) (congrArg Prod.fst hrecord)
    exact hdiffers (hsame ▸ (congrArg Prod.snd hrecord).symm)
  · intro hok hstatus
    obtain ⟨⟨after, hafter⟩, hends⟩ := hended e he
    by_contra hlt
    rw [not_le] at hlt
    have hrow := hends.done hok hstatus _ (List.getElem_mem hlt)
    rw [MigratedDatabase.rows, hk.rows] at hrow
    obtain ⟨g, hg, hrecord⟩ := List.mem_map.mp hrow
    have hreleased : released[k]? = some (migrationFiles e.1.directory)[k] := by
      rw [← hafter, List.getElem?_append_left hlt, List.getElem?_eq_getElem hlt]
    exact (name_notMem_take hnames hreleased).mpr le_rfl
      (List.mem_map.mpr ⟨g, hg, congrArg Prod.fst hrecord⟩)

/-! ## Two releases at once -/

section Example

/-- A schema is the list of what has been executed. -/
def plainTools : MigrationTools String (List String) where
  sha256 text := "sha256:" ++ text
  readText text := .ok text
  executeSql sql schema := .ok (schema ++ [sql])

/-- The first release has one file and the second has two. -/
def twoReleases : List (MigrationFile String) :=
  [⟨"0001_initial.sql", "CREATE TABLE jobs ()"⟩, ⟨"0002_more.sql", "CREATE TABLE more ()"⟩]

/-- Both are deployed at once, and both find nothing recorded; the second is killed
after its first file, and deployed again. -/
def deployments : List (MigrateEvent String) := [
  .start 0 { directory := twoReleases.take 1 },
  .start 1 { directory := twoReleases },
  .command 0 none, .command 1 none, .command 1 none, .command 0 none, .command 0 none,
  .crash 1,
  .start 1 { directory := twoReleases },
  .command 1 none, .command 1 none, .command 1 none]

theorem migrations_in_order_deployments :
    let s := deployments.foldl (MigrateSystem.step plainTools) (MigrateSystem.fresh [])
    ∃ k, Deployed plainTools (twoReleases.take k) s.store.applied
      ∧ plainTools.executeFiles [] (twoReleases.take k) = .ok s.store.schema
      ∧ ∀ e ∈ s.store.exits, e.2.2 ≠ .ok 1
        ∧ (e.2.2 = .ok 0 → e.1.status = false → (migrationFiles e.1.directory).length ≤ k) := by
  refine migrations_in_order plainTools [] (by decide) (fun client call hstart => ?_)
  have hdirectory : call.directory = twoReleases.take 1 ∨ call.directory = twoReleases := by
    simp only [deployments, List.mem_cons, ClientEvent.start.injEq, List.not_mem_nil, or_false,
      reduceCtorEq, false_or] at hstart
    rcases hstart with ⟨-, rfl⟩ | ⟨-, rfl⟩ | ⟨-, rfl⟩
    · exact Or.inl rfl
    · exact Or.inr rfl
    · exact Or.inr rfl
  rcases hdirectory with h | h
  · rw [h]
    decide
  · rw [h]
    decide

/-- The second deployment brings the database up to its release. -/
example : (deployments.foldl (MigrateSystem.step plainTools) (MigrateSystem.fresh [])).store.schema
    = ["CREATE TABLE jobs ()", "CREATE TABLE more ()"] := by decide

end Example

end Sastt
