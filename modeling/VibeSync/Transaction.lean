import Mathlib.Logic.Relation
import Mathlib.Logic.Function.Basic

/-! Transactions as programs of statements over a store of rows, run alone or
interleaved under READ COMMITTED. A statement sees the latest committed rows
under the transaction's own writes; a row with an uncommitted write is locked. -/

namespace Transaction

structure Database where
  Key : Type
  Row : Key → Type
  Error : Type
  Statement : Type
  Reply : Statement → Type
  /-- Runs one statement on the rows it sees. A reply comes with the rows
  written: `some none` deletes a row and `none` leaves it alone. -/
  execute : (statement : Statement) → ((key : Key) → Option (Row key)) →
    Except Error (Reply statement × ((key : Key) → Option (Option (Row key))))

abbrev Store (db : Database) : Type := (key : db.Key) → Option (db.Row key)

abbrev Writes (db : Database) : Type := (key : db.Key) → Option (Option (db.Row key))

variable {db : Database}

namespace Writes

def empty : Writes db := fun _ => none

def andThen (first second : Writes db) : Writes db := fun key => (second key).or (first key)

/-- No row is written by both. Row locks keep open transactions apart. -/
def Apart (first second : Writes db) : Prop := ∀ key, first key = none ∨ second key = none

@[simp] theorem empty_apply (key : db.Key) : (empty : Writes db) key = none := rfl

@[simp] theorem andThen_empty (writes : Writes db) : writes.andThen empty = writes := rfl

@[simp] theorem empty_andThen (writes : Writes db) : empty.andThen writes = writes := by
  funext key
  simp [andThen]

theorem empty_apart (writes : Writes db) : Apart empty writes := fun _ => Or.inl rfl

theorem Apart.symm {first second : Writes db} (apart : Apart first second) : Apart second first :=
  fun key => (apart key).symm

theorem Apart.andThen {first second other : Writes db} (left : Apart first other)
    (right : Apart second other) : Apart (first.andThen second) other := by
  intro key
  rcases left key with absent | absent
  · rcases right key with missing | missing
    · exact Or.inl (by simp [Writes.andThen, absent, missing])
    · exact Or.inr missing
  · exact Or.inr absent

end Writes

/-- A key that nothing is written to. -/
theorem unwritten {α : Type} {row : α} {p : Prop} (wrote : (none : Option α) = some row) : p := by
  cases wrote

namespace Store

def write (store : Store db) (writes : Writes db) : Store db :=
  fun key => (writes key).getD (store key)

@[simp] theorem write_empty (store : Store db) : store.write Writes.empty = store := rfl

theorem write_of_none {writes : Writes db} {key : db.Key} (absent : writes key = none) (store : Store db) :
    store.write writes key = store key := by
  simp [write, absent]

theorem write_of_some {writes : Writes db} {key : db.Key} {row : Option (db.Row key)}
    (written : writes key = some row) (store : Store db) : store.write writes key = row := by
  simp [write, written]

theorem write_andThen (store : Store db) (first second : Writes db) :
    store.write (first.andThen second) = (store.write first).write second := by
  funext key
  simp only [write, Writes.andThen]
  cases second key <;> rfl

/-- A commit that is apart from `own` leaves the rows of `own` as they were. -/
theorem write_locked {own other : Writes db} {key : db.Key} {row : Option (db.Row key)}
    (apart : Writes.Apart own other) (written : own key = some row) (store : Store db) :
    store.write other key = store key := by
  rcases apart key with absent | absent
  · rw [written] at absent
    cases absent
  · exact write_of_none absent store

end Store

/-- What every statement that succeeds keeps. -/
def Database.Keeps (db : Database) (invariant : Store db → Prop) : Prop :=
  ∀ (store : Store db) (sql : db.Statement) (reply : db.Reply sql) (written : Writes db),
    db.execute sql store = .ok (reply, written) → invariant store → invariant (store.write written)

inductive Program (db : Database) (ε α : Type) where
  | statement (sql : db.Statement) (failed : db.Error → ε) (next : db.Reply sql → Program db ε α)
  | done (result : Except ε α)

namespace Program
variable {ε α β : Type}

def bind (program : Program db ε α) (next : α → Program db ε β) : Program db ε β :=
  match program with
  | .statement sql failed rest => .statement sql failed (fun reply => (rest reply).bind next)
  | .done (.ok value) => next value
  | .done (.error problem) => .done (.error problem)

instance : Monad (Program db ε) where
  pure value := .done (.ok value)
  bind := bind

def fail (problem : ε) : Program db ε α := .done (.error problem)

theorem bind_pure (program : Program db ε α) : program >>= pure = program := by
  induction program with
  | done result => cases result <;> rfl
  | statement sql failed next ih => exact congrArg (Program.statement sql failed) (funext ih)

theorem bind_assoc {γ : Type} (program : Program db ε α) (next : α → Program db ε β) (last : β → Program db ε γ) :
    program >>= next >>= last = program >>= fun value => next value >>= last := by
  induction program with
  | done result => cases result <;> rfl
  | statement sql failed continue_ ih => exact congrArg (Program.statement sql failed) (funext ih)

/-- One statement whose errors are reported through `failed`. -/
def query (sql : db.Statement) (failed : db.Error → ε) : Program db ε (db.Reply sql) :=
  .statement sql failed (fun reply => .done (.ok reply))

def discard (program : Program db ε α) : Program db ε Unit := program.bind fun _ => .done (.ok ())

/-- Runs the statements one after another on a store that nobody else changes. -/
def run (store : Store db) : Program db ε α → Writes db → Except ε α × Writes db
  | .done result, writes => (result, writes)
  | .statement sql failed next, writes =>
    match db.execute sql (store.write writes) with
    | .error problem => (.error (failed problem), writes)
    | .ok (reply, written) => (next reply).run store (writes.andThen written)

/-- The sequential run with each statement applied to the store at once. -/
def exec : Program db ε α → Store db → Except ε α × Store db
  | .done result, store => (result, store)
  | .statement sql failed next, store =>
    match db.execute sql store with
    | .error problem => (.error (failed problem), store)
    | .ok (reply, written) => (next reply).exec (store.write written)

/-- Every statement of the sequential run is one that `allowed` admits. -/
def Permitted (allowed : Store db → db.Statement → Prop) (store : Store db) : Program db ε α → Writes db → Prop
  | .done _, _ => True
  | .statement sql _ next, writes => allowed store sql ∧
    match db.execute sql (store.write writes) with
    | .error _ => True
    | .ok (reply, written) => (next reply).Permitted allowed store (writes.andThen written)

/-- Commits on a result and rolls back on an error. -/
def withTx (program : Program db ε α) (store : Store db) : Except ε α × Store db :=
  match program.run store Writes.empty with
  | (.ok value, writes) => (.ok value, store.write writes)
  | (.error problem, _) => (.error problem, store)

theorem withTx_error {program : Program db ε α} {store : Store db} {problem : ε}
    (failed : (program.run store Writes.empty).1 = .error problem) :
    program.withTx store = (.error problem, store) := by
  unfold withTx
  cases seen : program.run store Writes.empty with
  | mk result writes =>
    rw [seen] at failed
    subst failed
    rfl

theorem value_of_isOk {result : Except ε α} (succeeded : result.isOk = true) : ∃ value, result = .ok value := by
  cases result with
  | error problem => cases succeeded
  | ok value => exact ⟨value, rfl⟩

theorem outcome_of_isOk {β : Type} {outcome : Except ε Unit × β} (succeeded : outcome.1.isOk = true) :
    outcome = (.ok (), outcome.2) := by
  obtain ⟨result, state⟩ := outcome
  cases result with
  | error problem => cases succeeded
  | ok value => rfl

theorem exec_write (program : Program db ε α) (store : Store db) (writes : Writes db) :
    program.exec (store.write writes) = ((program.run store writes).1, store.write (program.run store writes).2) := by
  induction program generalizing writes with
  | done result => rfl
  | statement sql failed next ih =>
    simp only [exec, run]
    cases db.execute sql (store.write writes) with
    | error problem => rfl
    | ok outcome =>
      obtain ⟨reply, written⟩ := outcome
      simp only
      rw [← Store.write_andThen]
      exact ih reply (writes.andThen written)

theorem withTx_exec (program : Program db ε α) (store : Store db) :
    program.withTx store = match program.exec store with
      | (.ok value, after) => (.ok value, after)
      | (.error problem, _) => (.error problem, store) := by
  have same := exec_write program store Writes.empty
  rw [Store.write_empty] at same
  rw [same]
  unfold withTx
  cases program.run store Writes.empty with
  | mk result writes => cases result <;> rfl

/-- A transaction leaves the store alone or takes it through its statements. -/
theorem withTx_cases (program : Program db ε α) (store : Store db) :
    (∃ problem, program.withTx store = (.error problem, store)) ∨
      ∃ value after, program.withTx store = (.ok value, after) ∧ program.exec store = (.ok value, after) := by
  rw [withTx_exec]
  cases executed : program.exec store with
  | mk result after =>
    cases result with
    | error problem => exact Or.inl ⟨problem, rfl⟩
    | ok value => exact Or.inr ⟨value, after, rfl, rfl⟩

section Invariant
variable {invariant : Store db → Prop} (keeps : db.Keeps invariant)
include keeps

theorem exec_invariant (program : Program db ε α) {store : Store db} (holds : invariant store) :
    invariant (program.exec store).2 := by
  induction program generalizing store with
  | done result => exact holds
  | statement sql failed next ih =>
    simp only [exec]
    cases seen : db.execute sql store with
    | error problem => exact holds
    | ok outcome => exact ih outcome.1 (keeps store sql outcome.1 outcome.2 seen holds)

theorem withTx_invariant (program : Program db ε α) {store : Store db} (holds : invariant store) :
    invariant (program.withTx store).2 := by
  rcases withTx_cases program store with ⟨problem, failed⟩ | ⟨value, after, committed, executed⟩
  · rw [failed]
    exact holds
  · have kept := exec_invariant keeps program holds
    rw [executed] at kept
    rw [committed]
    exact kept

end Invariant

theorem exec_bind_ok {program : Program db ε β} {next : β → Program db ε α} {store after : Store db} {value : α}
    (executed : (program >>= next).exec store = (.ok value, after)) :
    ∃ first middle, program.exec store = (.ok first, middle) ∧ (next first).exec middle = (.ok value, after) := by
  induction program generalizing store with
  | done result =>
    cases result with
    | error problem => cases executed
    | ok first => exact ⟨first, store, rfl, executed⟩
  | statement sql failed rest ih =>
    change (Program.statement sql failed fun reply => (rest reply).bind next).exec store = _ at executed
    simp only [exec] at executed ⊢
    cases seen : db.execute sql store with
    | error problem =>
      rw [seen] at executed
      cases executed
    | ok outcome =>
      rw [seen] at executed
      exact ih outcome.1 executed

theorem exec_query_ok {sql : db.Statement} {failed : db.Error → ε} {store after : Store db} {reply : db.Reply sql}
    (executed : (query sql failed).exec store = (.ok reply, after)) :
    ∃ written, db.execute sql store = .ok (reply, written) ∧ after = store.write written := by
  simp only [query, exec] at executed
  cases seen : db.execute sql store with
  | error problem =>
    rw [seen] at executed
    cases executed
  | ok outcome =>
    rw [seen] at executed
    cases executed
    exact ⟨outcome.2, rfl, rfl⟩

/-- A first statement that went through, with what the rest saw. -/
theorem exec_statement_ok {sql : db.Statement} {failed : db.Error → ε} {next : db.Reply sql → Program db ε α}
    {store after : Store db} {value : α} (executed : (query sql failed >>= next).exec store = (.ok value, after)) :
    ∃ reply written, db.execute sql store = .ok (reply, written) ∧
      (next reply).exec (store.write written) = (.ok value, after) := by
  obtain ⟨reply, _, first, rest⟩ := exec_bind_ok executed
  obtain ⟨written, seen, rfl⟩ := exec_query_ok first
  exact ⟨reply, written, seen, rest⟩

theorem exec_pure_ok {result : Except ε β} {next : β → Program db ε α} {store after : Store db} {value : α}
    (executed : (Program.done result >>= next).exec store = (.ok value, after)) :
    ∃ first, result = .ok first ∧ (next first).exec store = (.ok value, after) := by
  cases result with
  | error problem => cases executed
  | ok first => exact ⟨first, rfl, executed⟩

theorem exec_query {sql : db.Statement} {failed : db.Error → ε} {next : db.Reply sql → Program db ε α} {store : Store db}
    {written : Writes db} {reply : db.Reply sql} (executed : db.execute sql store = .ok (reply, written)) :
    (query sql failed >>= next).exec store = (next reply).exec (store.write written) := by
  change (Program.statement sql failed next).exec store = _
  simp only [exec, executed]

theorem run_query {sql : db.Statement} {failed : db.Error → ε} {next : db.Reply sql → Program db ε α} {store : Store db}
    {writes written : Writes db} {reply : db.Reply sql}
    (executed : db.execute sql (store.write writes) = .ok (reply, written)) :
    (query sql failed >>= next).run store writes = (next reply).run store (writes.andThen written) := by
  change (Program.statement sql failed next).run store writes = _
  simp only [run, executed]

theorem run_query_error {sql : db.Statement} {failed : db.Error → ε} {next : db.Reply sql → Program db ε α} {store : Store db}
    {writes : Writes db} {problem : db.Error} (executed : db.execute sql (store.write writes) = .error problem) :
    (query sql failed >>= next).run store writes = (.error (failed problem), writes) := by
  change (Program.statement sql failed next).run store writes = _
  simp only [run, executed]

theorem exec_bind {program : Program db ε β} {next : β → Program db ε α} {store middle : Store db} {first : β}
    (executed : program.exec store = (.ok first, middle)) : (program >>= next).exec store = (next first).exec middle := by
  induction program generalizing store with
  | done result =>
    cases executed
    rfl
  | statement sql failed rest ih =>
    change (Program.statement sql failed fun reply => (rest reply).bind next).exec store = _
    simp only [exec] at executed ⊢
    cases seen : db.execute sql store with
    | error problem =>
      rw [seen] at executed
      cases executed
    | ok outcome =>
      rw [seen] at executed
      exact ih outcome.1 executed

theorem exec_bind_error {program : Program db ε β} {next : β → Program db ε α} {store middle : Store db} {problem : ε}
    (executed : program.exec store = (.error problem, middle)) : (program >>= next).exec store = (.error problem, middle) := by
  induction program generalizing store with
  | done result =>
    cases executed
    rfl
  | statement sql failed rest ih =>
    change (Program.statement sql failed fun reply => (rest reply).bind next).exec store = _
    simp only [exec] at executed ⊢
    cases seen : db.execute sql store with
    | error fault =>
      rw [seen] at executed
      cases executed
      rfl
    | ok outcome =>
      rw [seen] at executed
      exact ih outcome.1 executed

theorem exec_query_error {sql : db.Statement} {failed : db.Error → ε} {store : Store db} {problem : db.Error}
    (executed : db.execute sql store = .error problem) : (query sql failed).exec store = (.error (failed problem), store) := by
  simp only [query, exec, executed]

theorem withTx_of_ok {program : Program db ε α} {store after : Store db} {value : α}
    (executed : program.exec store = (.ok value, after)) : program.withTx store = (.ok value, after) := by
  rw [withTx_exec, executed]

theorem withTx_of_error {program : Program db ε α} {store after : Store db} {problem : ε}
    (executed : program.exec store = (.error problem, after)) : program.withTx store = (.error problem, store) := by
  rw [withTx_exec, executed]

theorem run_discard {program : Program db ε α} {store : Store db} {writes final : Writes db} {value : α}
    (ran : program.run store writes = (.ok value, final)) : program.discard.run store writes = (.ok (), final) := by
  induction program generalizing writes with
  | done result =>
    cases ran
    rfl
  | statement sql failed next ih =>
    simp only [discard, bind, run] at ran ih ⊢
    cases executed : db.execute sql (store.write writes) with
    | error problem =>
      rw [executed] at ran
      cases ran
    | ok outcome =>
      rw [executed] at ran
      exact ih outcome.1 ran

theorem permitted_of_always {allowed : Store db → db.Statement → Prop} (always : ∀ store sql, allowed store sql)
    (store : Store db) (program : Program db ε α) (writes : Writes db) : program.Permitted allowed store writes := by
  induction program generalizing writes with
  | done result => trivial
  | statement sql failed next ih =>
    simp only [Permitted]
    refine ⟨always store sql, ?_⟩
    cases db.execute sql (store.write writes) with
    | error problem => trivial
    | ok outcome => exact ih outcome.1 _

theorem permitted_query {allowed : Store db → db.Statement → Prop} {store : Store db} {writes : Writes db}
    {sql : db.Statement} {failed : db.Error → ε} {next : db.Reply sql → Program db ε α} (first : allowed store sql)
    (rest : ∀ reply written, db.execute sql (store.write writes) = .ok (reply, written) →
      (next reply).Permitted allowed store (writes.andThen written)) :
    (query sql failed >>= next).Permitted allowed store writes := by
  change (Program.statement sql failed next).Permitted allowed store writes
  simp only [Permitted]
  refine ⟨first, ?_⟩
  cases executed : db.execute sql (store.write writes) with
  | error problem => trivial
  | ok outcome => exact rest outcome.1 outcome.2 executed

theorem permitted_pure {allowed : Store db → db.Statement → Prop} {store : Store db} {writes : Writes db}
    {result : Except ε β} {next : β → Program db ε α}
    (rest : ∀ value, result = .ok value → (next value).Permitted allowed store writes) :
    (Program.done result >>= next).Permitted allowed store writes := by
  cases result with
  | error problem => trivial
  | ok value => exact rest value rfl

/-- For the runs of concrete calls. -/
instance decidePermitted {allowed : Store db → db.Statement → Prop} [∀ store sql, Decidable (allowed store sql)]
    (store : Store db) : (program : Program db ε α) → (writes : Writes db) →
      Decidable (program.Permitted allowed store writes)
  | .done _, _ => isTrue trivial
  | .statement sql _ next, writes =>
    match executed : db.execute sql (store.write writes) with
    | .error _ => decidable_of_iff (allowed store sql) (by simp [Permitted, executed])
    | .ok (reply, written) =>
      have : Decidable ((next reply).Permitted allowed store (writes.andThen written)) :=
        decidePermitted store (next reply) (writes.andThen written)
      decidable_of_iff (allowed store sql ∧ (next reply).Permitted allowed store (writes.andThen written))
        (by simp [Permitted, executed])

theorem Permitted.discard {allowed : Store db → db.Statement → Prop} {store : Store db} {program : Program db ε α}
    {writes : Writes db} (permitted : program.Permitted allowed store writes) :
    program.discard.Permitted allowed store writes := by
  induction program generalizing writes with
  | done result => cases result <;> trivial
  | statement sql failed next ih =>
    simp only [Program.discard, bind, Permitted] at permitted ih ⊢
    refine ⟨permitted.1, ?_⟩
    cases executed : db.execute sql (store.write writes) with
    | error problem => trivial
    | ok outcome =>
      simp only [executed] at permitted
      exact ih outcome.1 permitted.2

end Program

/-! Interleavings. -/

structure Open (db : Database) (ε α : Type) where
  program : Program db ε α
  writes : Writes db

structure System (db : Database) (ε α : Type) where
  committed : Store db
  active : Nat → Option (Open db ε α)

namespace System
variable {ε α : Type}

def idle (store : Store db) : System db ε α := ⟨store, fun _ => none⟩

def set (system : System db ε α) (tx : Nat) (transaction : Option (Open db ε α)) : System db ε α :=
  { system with active := Function.update system.active tx transaction }

/-- None of the rows about to be written is locked by another transaction. -/
def Unlocked (system : System db ε α) (tx : Nat) (written : Writes db) : Prop :=
  ∀ other transaction, other ≠ tx → system.active other = some transaction →
    Writes.Apart written transaction.writes

@[simp] theorem set_same (system : System db ε α) (tx : Nat) (transaction : Option (Open db ε α)) :
    (system.set tx transaction).active tx = transaction := Function.update_self ..

theorem set_other (system : System db ε α) {tx other : Nat} (transaction : Option (Open db ε α))
    (different : other ≠ tx) : (system.set tx transaction).active other = system.active other :=
  Function.update_of_ne different ..

/-- What is open after a change is the one that was set, or was open before. -/
theorem set_active {system : System db ε α} {tx other : Nat} {transaction : Option (Open db ε α)} {held : Open db ε α}
    (found : (system.set tx transaction).active other = some held) :
    (other = tx ∧ transaction = some held) ∨ (other ≠ tx ∧ system.active other = some held) := by
  by_cases same : other = tx
  · subst other
    rw [set_same] at found
    exact Or.inl ⟨rfl, found⟩
  · rw [set_other system _ same] at found
    exact Or.inr ⟨same, found⟩

@[simp] theorem set_set (system : System db ε α) (tx : Nat) (first second : Option (Open db ε α)) :
    (system.set tx first).set tx second = system.set tx second := by
  simp [set]

theorem set_eq {system : System db ε α} {tx : Nat} {transaction : Option (Open db ε α)} (held : system.active tx = transaction) :
    system.set tx transaction = system := by
  rw [set, ← held, Function.update_eq_self]

theorem set_none {system : System db ε α} {tx : Nat} (free : system.active tx = none) : system.set tx none = system :=
  set_eq free

end System

/-- One step of one transaction. A statement may run when `allowed` holds of the
committed store and no row it writes is locked; any open transaction may be cut
off at any point, which rolls it back. -/
inductive Step {ε α : Type} (starts : Program db ε α → Prop) (allowed : Store db → db.Statement → Prop) :
    System db ε α → System db ε α → Prop where
  | begin {system tx program} (fresh : system.active tx = none) (started : starts program) :
      Step starts allowed system (system.set tx (some ⟨program, Writes.empty⟩))
  | execute {system tx sql failed next writes reply written}
      (found : system.active tx = some ⟨.statement sql failed next, writes⟩)
      (permitted : allowed system.committed sql)
      (executed : db.execute sql (system.committed.write writes) = .ok (reply, written))
      (unlocked : system.Unlocked tx written) :
      Step starts allowed system (system.set tx (some ⟨next reply, writes.andThen written⟩))
  | commit {system tx value writes} (found : system.active tx = some ⟨.done (.ok value), writes⟩) :
      Step starts allowed system { system.set tx none with committed := system.committed.write writes }
  | rollback {system tx transaction} (found : system.active tx = some transaction) :
      Step starts allowed system (system.set tx none)

abbrev Run {ε α : Type} (starts : Program db ε α → Prop) (allowed : Store db → db.Statement → Prop) :
    System db ε α → System db ε α → Prop :=
  Relation.ReflTransGen (Step starts allowed)

/-- One transaction commits and returns its value. -/
inductive Commits {ε α : Type} (tx : Nat) (value : α) : System db ε α → System db ε α → Prop where
  | commit {system writes} (found : system.active tx = some ⟨.done (.ok value), writes⟩) :
      Commits tx value system { system.set tx none with committed := system.committed.write writes }

theorem Commits.step {ε α : Type} {starts : Program db ε α → Prop} {allowed : Store db → db.Statement → Prop} {tx : Nat}
    {value : α} {before after : System db ε α} (commits : Commits tx value before after) : Step starts allowed before after := by
  obtain ⟨found⟩ := commits
  exact .commit found

end Transaction
