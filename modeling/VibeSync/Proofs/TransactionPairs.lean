import VibeSync.Transaction

/-! One program on two stores. A program that asks only what the stores answer
alike cannot tell which of them it runs on. -/

namespace Transaction
variable {db : Database} {ε α β : Type}

/-- Pairs of stores, with the statements on which the two agree. -/
structure Pairs (db : Database) where
  alike : Store db → Store db → Prop
  allowed : db.Statement → Prop
  /-- What a reply is known to be. -/
  answers : (sql : db.Statement) → db.Reply sql → Prop
  agree : ∀ first second sql, alike first second → allowed sql → db.execute sql first = db.execute sql second
  answered : ∀ first second sql reply written, alike first second → allowed sql →
    db.execute sql first = .ok (reply, written) → answers sql reply ∧ alike (first.write written) (second.write written)

namespace Program

/-- Every statement that the program can come to is allowed. -/
def Confined (pairs : Pairs db) : Program db ε α → Prop
  | .done _ => True
  | .statement sql _ next => pairs.allowed sql ∧ ∀ reply, pairs.answers sql reply → (next reply).Confined pairs

namespace Confined
variable {pairs : Pairs db}

theorem query {sql : db.Statement} {failed : db.Error → ε} {next : db.Reply sql → Program db ε α} (allowed : pairs.allowed sql)
    (rest : ∀ reply, pairs.answers sql reply → (next reply).Confined pairs) : (Program.query sql failed >>= next).Confined pairs :=
  ⟨allowed, rest⟩

theorem last {sql : db.Statement} {failed : db.Error → ε} (allowed : pairs.allowed sql) : (Program.query sql failed).Confined pairs :=
  ⟨allowed, fun _ _ => trivial⟩

theorem bind {program : Program db ε β} {next : β → Program db ε α} (first : program.Confined pairs)
    (rest : ∀ value, (next value).Confined pairs) : (program >>= next).Confined pairs := by
  induction program with
  | done result =>
    cases result with
    | error problem => trivial
    | ok value => exact rest value
  | statement sql failed continue_ ih => exact ⟨first.1, fun reply known => ih reply (first.2 reply known)⟩

theorem exec {program : Program db ε α} (confined : program.Confined pairs) {first second : Store db}
    (alike : pairs.alike first second) :
    (program.exec first).1 = (program.exec second).1 ∧ pairs.alike (program.exec first).2 (program.exec second).2 := by
  induction program generalizing first second with
  | done result => exact ⟨rfl, alike⟩
  | statement sql failed next ih =>
    simp only [Program.exec, ← pairs.agree first second sql alike confined.1]
    cases executed : db.execute sql first with
    | error problem => exact ⟨rfl, alike⟩
    | ok outcome =>
      obtain ⟨known, later⟩ := pairs.answered first second sql outcome.1 outcome.2 alike confined.1 executed
      exact ih outcome.1 (confined.2 outcome.1 known) later

/-- The two transactions end alike. -/
theorem withTx {program : Program db ε α} (confined : program.Confined pairs) {first second : Store db}
    (alike : pairs.alike first second) :
    (program.withTx first).1 = (program.withTx second).1 ∧ pairs.alike (program.withTx first).2 (program.withTx second).2 := by
  obtain ⟨same, later⟩ := confined.exec alike
  rw [withTx_exec, withTx_exec]
  generalize program.exec first = left at same later ⊢
  generalize program.exec second = right at same later ⊢
  obtain ⟨result, after⟩ := left
  obtain ⟨_, _⟩ := right
  cases same
  cases result with
  | error problem => exact ⟨rfl, alike⟩
  | ok value => exact ⟨rfl, later⟩

end Confined

end Program

end Transaction
