import VibeSync.Transaction

/-! Rely-guarantee rules for interleaved transactions. Each commit keeps the
invariant of the committed store and stays within the guarantee; assertions
about an open transaction survive every commit that its row locks permit. -/

namespace Transaction

structure Rules (db : Database) where
  invariant : Store db → Prop
  guarantee : Store db → Writes db → Prop
  allowed : Store db → db.Statement → Prop

/-- Rules for the runs in which the uncommitted writes of any two open
transactions are compatible. What a statement expects holds whenever it is the next one. -/
structure Discipline (db : Database) extends Rules db where
  compatible : Writes db → Writes db → Prop
  expects : Store db → Writes db → db.Statement → Prop := fun _ _ _ => True

section
variable {db : Database} {ε α β : Type}

def System.Disciplined (compatible : Writes db → Writes db → Prop) (system : System db ε α) : Prop :=
  ∀ tx other first second, tx ≠ other → system.active tx = some first → system.active other = some second →
    compatible first.writes second.writes

abbrev DisciplinedRun (starts : Program db ε α → Prop) (allowed : Store db → db.Statement → Prop)
    (compatible : Writes db → Writes db → Prop) : System db ε α → System db ε α → Prop :=
  Relation.ReflTransGen fun before after => Step starts allowed before after ∧ after.Disciplined compatible

theorem System.disciplined_idle (compatible : Writes db → Writes db → Prop) (store : Store db) :
    (System.idle store : System db ε α).Disciplined compatible :=
  fun _ _ _ _ _ impossible => by cases impossible

/-- Without a condition on open transactions every run is disciplined. -/
theorem disciplined_of_always {compatible : Writes db → Writes db → Prop} (always : ∀ first second, compatible first second)
    (system : System db ε α) : system.Disciplined compatible := fun _ _ first second _ _ _ => always first.writes second.writes

theorem Run.disciplined {starts : Program db ε α → Prop} {allowed : Store db → db.Statement → Prop}
    {compatible : Writes db → Writes db → Prop} {before after : System db ε α}
    (always : ∀ first second, compatible first second) (run : Run starts allowed before after) :
    DisciplinedRun starts allowed compatible before after :=
  Relation.ReflTransGen.mono (fun _ middle step => ⟨step, disciplined_of_always always middle⟩) _ _ run

/-- None of the program's statements writes. -/
def Program.ReadOnly : Program db ε α → Prop
  | .done _ => True
  | .statement sql _ next => (∀ store reply written, db.execute sql store = .ok (reply, written) → written = Writes.empty) ∧
      ∀ reply, (next reply).ReadOnly

/-- Whatever one of the program's statements writes is within bounds. -/
def Program.Within (bounds : Writes db → Prop) : Program db ε α → Prop
  | .done _ => True
  | .statement sql _ next => (∀ store reply written, db.execute sql store = .ok (reply, written) → bounds written) ∧
      ∀ reply, (next reply).Within bounds

theorem Program.Within.bind {bounds : Writes db → Prop} {program : Program db ε β} {next : β → Program db ε α}
    (first : program.Within bounds) (rest : ∀ value, (next value).Within bounds) : (program >>= next).Within bounds := by
  induction program with
  | done result =>
    cases result with
    | error problem => trivial
    | ok value => exact rest value
  | statement sql failed continue_ ih => exact ⟨first.1, fun reply => ih reply (first.2 reply)⟩

theorem Program.Within.pure {bounds : Writes db → Prop} {result : Except ε β} {next : β → Program db ε α}
    (rest : ∀ value, result = .ok value → (next value).Within bounds) : (Program.done result >>= next).Within bounds := by
  cases result with
  | error problem => trivial
  | ok value => exact rest value rfl

/-- Bounds that survive composition are the bounds of the whole transaction. -/
theorem Program.Within.withTx {bounds : Writes db → Prop} {program : Program db ε α} (within : program.Within bounds)
    (empty : bounds Writes.empty) (closed : ∀ first second, bounds first → bounds second → bounds (first.andThen second))
    (store : Store db) : ∃ writes, bounds writes ∧ (program.withTx store).2 = store.write writes := by
  have runs : ∀ (program : Program db ε α) writes, program.Within bounds → bounds writes →
      bounds (program.run store writes).2 := by
    intro program
    induction program with
    | done result => exact fun _ _ kept => kept
    | statement sql failed next ih =>
      intro writes within kept
      simp only [Program.run]
      cases executed : db.execute sql (store.write writes) with
      | error problem => exact kept
      | ok outcome =>
        exact ih outcome.1 _ (within.2 outcome.1) (closed _ _ kept (within.1 _ outcome.1 outcome.2 executed))
  have kept := runs program Writes.empty within empty
  unfold Program.withTx
  cases seen : program.run store Writes.empty with
  | mk result writes =>
    rw [seen] at kept
    cases result with
    | ok value => exact ⟨writes, kept, rfl⟩
    | error problem => exact ⟨Writes.empty, empty, rfl⟩

/-- What a row has been written over with, or what it was. -/
theorem Store.write_origin {store : Store db} {written : Writes db} {key : db.Key} {row : db.Row key}
    (found : store.write written key = some row) : written key = some (some row) ∨ store key = some row := by
  cases wrote : written key with
  | none => exact Or.inr ((Store.write_of_none wrote store).symm.trans found)
  | some new => exact Or.inl (congrArg some ((Store.write_of_some wrote store).symm.trans found))

/-- How the committed store moves in one step. -/
def Rules.Moves (rules : Rules db) (before after : Store db) : Prop :=
  after = before ∨ ∃ writes, rules.guarantee before writes ∧ after = before.write writes

def Rules.Untouched (_ : Store db) (own : Writes db) : Prop := own = Writes.empty

end

namespace Discipline
variable {db : Database} {ε α β : Type} (rules : Discipline db)

/-- What another transaction commits cannot touch a row that this one has
written, is compatible with its writes and must stay within the guarantee. -/
def Stable (assertion : Store db → Writes db → Prop) : Prop :=
  ∀ store own other, rules.invariant store → rules.guarantee store other → Writes.Apart own other →
    rules.compatible own other → assertion store own → assertion (store.write other) own

/-- A proof outline: every statement hands a stable assertion to the rest of
the program, and the last one justifies the commit. An error needs no
justification because it rolls back. -/
def Outline : Program db ε α → (Store db → Writes db → Prop) → Prop
  | .done (.error _), _ => True
  | .done (.ok _), assertion => ∀ store own, rules.invariant store → assertion store own →
      rules.guarantee store own ∧ rules.invariant (store.write own)
  | .statement sql _ next, assertion =>
      (∀ store own, rules.invariant store → assertion store own → rules.expects store own sql) ∧
      ∀ store own reply written, rules.invariant store → assertion store own → rules.allowed store sql →
        db.execute sql (store.write own) = .ok (reply, written) →
        ∃ after, rules.Stable after ∧ after store (own.andThen written) ∧ Outline (next reply) after

theorem untouched_stable : rules.Stable Rules.Untouched := fun _ _ _ _ _ _ _ untouched => untouched

/-- An assertion is stable if it depends on the rows that the transaction has written and no others. -/
theorem stable_of_locked {assertion : Store db → Writes db → Prop}
    (locked : ∀ store later own, (∀ key row, own key = some row → later key = store key) →
      assertion store own → assertion later own) : rules.Stable assertion :=
  fun store own _ _ _ apart _ holds => locked store _ own (fun _ _ written => Store.write_locked apart written store) holds

theorem Stable.and {first second : Store db → Writes db → Prop} (left : rules.Stable first) (right : rules.Stable second) :
    rules.Stable fun store own => first store own ∧ second store own :=
  fun store own other kept within apart compatible holds =>
    ⟨left store own other kept within apart compatible holds.1, right store own other kept within apart compatible holds.2⟩

/-- Nothing needs to be known about a program that fails. -/
theorem Outline.fail {store : Store db} {own : Writes db} (problem : ε) :
    ∃ after, rules.Stable after ∧ after store own ∧ rules.Outline (Program.fail problem : Program db ε α) after :=
  ⟨fun _ _ => True, fun _ _ _ _ _ _ _ holds => holds, trivial, trivial⟩

theorem Outline.query {sql : db.Statement} {failed : db.Error → ε} {next : db.Reply sql → Program db ε α}
    {before : Store db → Writes db → Prop}
    (expected : ∀ store own, rules.invariant store → before store own → rules.expects store own sql)
    (step : ∀ store own reply written, rules.invariant store → before store own → rules.allowed store sql →
      db.execute sql (store.write own) = .ok (reply, written) →
      ∃ after, rules.Stable after ∧ after store (own.andThen written) ∧ rules.Outline (next reply) after) :
    rules.Outline (Program.query sql failed >>= next) before := ⟨expected, step⟩

/-- Statements expect nothing. -/
def Lenient : Prop := ∀ store own sql, rules.expects store own sql

theorem Lenient.query {rules : Discipline db} (lenient : rules.Lenient) {sql : db.Statement} {failed : db.Error → ε}
    {next : db.Reply sql → Program db ε α} {before : Store db → Writes db → Prop}
    (step : ∀ store own reply written, rules.invariant store → before store own → rules.allowed store sql →
      db.execute sql (store.write own) = .ok (reply, written) →
      ∃ after, rules.Stable after ∧ after store (own.andThen written) ∧ rules.Outline (next reply) after) :
    rules.Outline (Program.query sql failed >>= next) before :=
  Outline.query rules (fun store own _ _ => lenient store own sql) step

/-- Reading passes every stable assertion on. -/
theorem Lenient.reads {rules : Discipline db} (lenient : rules.Lenient) {program : Program db ε β}
    {next : β → Program db ε α} {assertion : Store db → Writes db → Prop} (silent : program.ReadOnly)
    (stable : rules.Stable assertion) (rest : ∀ value, rules.Outline (next value) assertion) :
    rules.Outline (program >>= next) assertion := by
  induction program with
  | done result =>
    cases result with
    | error problem => trivial
    | ok value => exact rest value
  | statement sql failed continue_ ih =>
    refine ⟨fun store own _ _ => lenient store own sql, ?_⟩
    intro store own reply written _ holds _ executed
    refine ⟨assertion, stable, ?_, ih reply (silent.2 reply)⟩
    rw [silent.1 _ _ _ executed]
    exact holds

/-- The result of a program does not matter to its outline. -/
theorem Outline.discard {program : Program db ε α} {assertion : Store db → Writes db → Prop}
    (outline : rules.Outline program assertion) : rules.Outline program.discard assertion := by
  induction program generalizing assertion with
  | done result => cases result <;> exact outline
  | statement sql failed next ih =>
    refine ⟨outline.1, ?_⟩
    intro store own reply written kept holds permitted executed
    obtain ⟨after, stable, later, rest⟩ := outline.2 store own reply written kept holds permitted executed
    exact ⟨after, stable, later, ih reply rest⟩

def OpenSafe (store : Store db) (transaction : Open db ε α) : Prop :=
  ∃ assertion, rules.Stable assertion ∧ assertion store transaction.writes ∧
    rules.Outline transaction.program assertion

structure Safe (system : System db ε α) : Prop where
  store : rules.invariant system.committed
  transactions : ∀ tx transaction, system.active tx = some transaction →
    rules.OpenSafe system.committed transaction
  apart : ∀ tx other first second, tx ≠ other → system.active tx = some first →
    system.active other = some second → Writes.Apart first.writes second.writes

variable {rules}

theorem Safe.set {system : System db ε α} (safe : rules.Safe system) (tx : Nat) (transaction : Open db ε α)
    (kept : rules.OpenSafe system.committed transaction)
    (unlocked : system.Unlocked tx transaction.writes) : rules.Safe (system.set tx (some transaction)) := by
  refine ⟨safe.store, ?_, ?_⟩
  · intro other found held
    rcases System.set_active held with ⟨_, ⟨⟩⟩ | ⟨_, before⟩
    · exact kept
    · exact safe.transactions other found before
  · intro first second one two different left right
    rcases System.set_active left with ⟨rfl, ⟨⟩⟩ | ⟨foreign, before⟩
    · rw [System.set_other system _ (Ne.symm different)] at right
      exact unlocked second two (Ne.symm different) right
    · rcases System.set_active right with ⟨rfl, ⟨⟩⟩ | ⟨_, after⟩
      · exact (unlocked first one foreign before).symm
      · exact safe.apart first second one two different before after

theorem Safe.remove {system : System db ε α} (safe : rules.Safe system) (tx : Nat) :
    rules.Safe (system.set tx none) := by
  have survives : ∀ other found, (system.set tx none).active other = some found →
      system.active other = some found := by
    intro other found held
    rcases System.set_active held with ⟨_, impossible⟩ | ⟨_, before⟩
    · cases impossible
    · exact before
  exact ⟨safe.store, fun other found held => safe.transactions other found (survives other found held),
    fun first second one two different left right =>
      safe.apart first second one two different (survives _ _ left) (survives _ _ right)⟩

theorem Safe.step {starts : Program db ε α → Prop} {before after : System db ε α}
    (fresh : ∀ program, starts program → rules.Outline program Rules.Untouched)
    (step : Step starts rules.allowed before after) (safe : rules.Safe before)
    (disciplined : before.Disciplined rules.compatible) :
    rules.Moves before.committed after.committed ∧ rules.Safe after := by
  cases step with
  | @begin tx program absent started =>
    refine ⟨Or.inl rfl, safe.set tx _ ⟨Rules.Untouched, rules.untouched_stable, rfl, fresh program started⟩ ?_⟩
    exact fun _ _ _ _ => Writes.empty_apart _
  | @execute tx sql failed next writes reply written found permitted executed unlocked =>
    obtain ⟨assertion, stable, holds, outline⟩ := safe.transactions tx _ found
    obtain ⟨later, laterStable, laterHolds, rest⟩ :=
      outline.2 _ writes reply written safe.store holds permitted executed
    refine ⟨Or.inl rfl, safe.set tx _ ⟨later, laterStable, laterHolds, rest⟩ ?_⟩
    intro other transaction different held
    exact (safe.apart tx other _ transaction (Ne.symm different) found held).andThen
      (unlocked other transaction different held)
  | @commit tx value writes found =>
    obtain ⟨assertion, stable, holds, outline⟩ := safe.transactions tx _ found
    obtain ⟨within, kept⟩ := outline _ writes safe.store holds
    have rest := safe.remove tx
    refine ⟨Or.inr ⟨writes, within, rfl⟩, kept, ?_, rest.apart⟩
    intro other transaction open_
    rcases System.set_active open_ with ⟨_, impossible⟩ | ⟨different, held⟩
    · cases impossible
    obtain ⟨other, otherStable, otherHolds, otherOutline⟩ := safe.transactions _ transaction held
    exact ⟨other, otherStable, otherStable _ _ _ safe.store within
      (safe.apart _ _ _ _ different held found) (disciplined _ _ _ _ different held found) otherHolds, otherOutline⟩
  | @rollback tx transaction found => exact ⟨Or.inl rfl, safe.remove tx⟩

/-- The invariant rule for whole runs, together with any reflexive and
transitive relation that every commit within the guarantee respects. -/
theorem Safe.run {starts : Program db ε α → Prop} {before after : System db ε α}
    {grows : Store db → Store db → Prop}
    (fresh : ∀ program, starts program → rules.Outline program Rules.Untouched)
    (refl : ∀ store, grows store store)
    (trans : ∀ {a b c}, grows a b → grows b c → grows a c)
    (commits : ∀ store writes, rules.invariant store → rules.guarantee store writes → grows store (store.write writes))
    (run : DisciplinedRun starts rules.allowed rules.compatible before after) (safe : rules.Safe before)
    (disciplined : before.Disciplined rules.compatible) :
    grows before.committed after.committed ∧ rules.Safe after ∧ after.Disciplined rules.compatible := by
  induction run with
  | refl => exact ⟨refl _, safe, disciplined⟩
  | tail _ step ih =>
    obtain ⟨growth, middle, apart⟩ := ih
    obtain ⟨moves, last⟩ := middle.step fresh step.1 apart
    refine ⟨?_, last, step.2⟩
    rcases moves with same | ⟨writes, within, same⟩
    · rw [same]
      exact growth
    · rw [same]
      exact trans growth (commits _ writes middle.store within)

theorem Safe.expects {system : System db ε α} (safe : rules.Safe system) {tx : Nat} {sql : db.Statement}
    {failed : db.Error → ε} {next : db.Reply sql → Program db ε α} {writes : Writes db}
    (found : system.active tx = some ⟨.statement sql failed next, writes⟩) :
    rules.expects system.committed writes sql := by
  obtain ⟨_, _, holds, outline⟩ := safe.transactions tx _ found
  exact outline.1 _ writes safe.store holds

theorem Safe.idle {store : Store db} (kept : rules.invariant store) :
    rules.Safe (System.idle store : System db ε α) :=
  ⟨kept, fun _ _ impossible => by simp [System.idle] at impossible,
    fun _ _ _ _ _ impossible => by simp [System.idle] at impossible⟩

/-- A run from a store that keeps the invariant, with nothing open. -/
theorem safe_of_run {starts : Program db ε α → Prop} {store : Store db} {system : System db ε α}
    (fresh : ∀ program, starts program → rules.Outline program Rules.Untouched) (kept : rules.invariant store)
    (run : DisciplinedRun starts rules.allowed rules.compatible (System.idle store) system) :
    rules.Safe system ∧ system.Disciplined rules.compatible := by
  obtain ⟨_, safe⟩ := @Safe.run _ _ _ rules starts _ _ (fun _ _ => True) fresh (fun _ => trivial) (fun _ _ => trivial)
    (fun _ _ _ _ => trivial) run (Safe.idle kept) (System.disciplined_idle _ store)
  exact safe

end Discipline

namespace Rules
variable {db : Database} {ε α : Type} (rules : Rules db)

/-- What another transaction commits cannot touch a row that this one has
written, and must stay within the guarantee. -/
def Stable (assertion : Store db → Writes db → Prop) : Prop :=
  ∀ store own other, rules.invariant store → rules.guarantee store other → Writes.Apart own other →
    assertion store own → assertion (store.write other) own

/-- A proof outline: every statement hands a stable assertion to the rest of
the program, and the last one justifies the commit. An error needs no
justification because it rolls back. -/
def Outline : Program db ε α → (Store db → Writes db → Prop) → Prop
  | .done (.error _), _ => True
  | .done (.ok _), assertion => ∀ store own, rules.invariant store → assertion store own →
      rules.guarantee store own ∧ rules.invariant (store.write own)
  | .statement sql _ next, assertion => ∀ store own reply written,
      rules.invariant store → assertion store own → rules.allowed store sql →
      db.execute sql (store.write own) = .ok (reply, written) →
      ∃ after, rules.Stable after ∧ after store (own.andThen written) ∧ Outline (next reply) after

theorem untouched_stable : rules.Stable Untouched := fun _ _ _ _ _ _ untouched => untouched

theorem Outline.query {sql : db.Statement} {failed : db.Error → ε} {next : db.Reply sql → Program db ε α}
    {before : Store db → Writes db → Prop}
    (step : ∀ store own reply written, rules.invariant store → before store own → rules.allowed store sql →
      db.execute sql (store.write own) = .ok (reply, written) →
      ∃ after, rules.Stable after ∧ after store (own.andThen written) ∧ rules.Outline (next reply) after) :
    rules.Outline (Program.query sql failed >>= next) before := step

/-- A statement whose writes do not disturb a stable assertion passes it on. -/
theorem Outline.frame {sql : db.Statement} {failed : db.Error → ε} {next : db.Reply sql → Program db ε α}
    {assertion : Store db → Writes db → Prop} (stable : rules.Stable assertion)
    (undisturbed : ∀ store own reply written, assertion store own →
      db.execute sql (store.write own) = .ok (reply, written) → assertion store (own.andThen written))
    (rest : ∀ reply, rules.Outline (next reply) assertion) :
    rules.Outline (Program.query sql failed >>= next) assertion :=
  fun store own reply written _ holds _ executed =>
    ⟨assertion, stable, undisturbed store own reply written holds executed, rest reply⟩

/-- Nothing needs to be known about a program that cannot succeed. -/
theorem Outline.hopeless {sql : db.Statement} {failed : db.Error → ε} {next : db.Reply sql → Program db ε α}
    {assertion : Store db → Writes db → Prop} (fails : ∀ reply, ∃ problem, next reply = Program.fail problem) :
    rules.Outline (Program.query sql failed >>= next) assertion := by
  intro _ _ reply _ _ _ _ _
  obtain ⟨problem, same⟩ := fails reply
  refine ⟨fun _ _ => True, fun _ _ _ _ _ _ holds => holds, trivial, ?_⟩
  change rules.Outline (next reply) _
  rw [same]
  trivial

theorem Outline.weaken {program : Program db ε α} {weak strong : Store db → Writes db → Prop}
    (outline : rules.Outline program weak) (implies : ∀ store own, strong store own → weak store own) :
    rules.Outline program strong := by
  cases program with
  | done result =>
    cases result with
    | error problem => trivial
    | ok value => exact fun store own kept holds => outline store own kept (implies store own holds)
  | statement sql failed next =>
    exact fun store own reply written kept holds => outline store own reply written kept (implies store own holds)

/-- A program whose writes do not disturb a stable assertion passes it on. -/
theorem Outline.within {β : Type} {bounds : Writes db → Prop} {program : Program db ε β} {next : β → Program db ε α}
    {assertion : Store db → Writes db → Prop} (within : program.Within bounds) (stable : rules.Stable assertion)
    (undisturbed : ∀ store own written, bounds written → assertion store own → assertion store (own.andThen written))
    (rest : ∀ value, rules.Outline (next value) assertion) : rules.Outline (program >>= next) assertion := by
  induction program with
  | done result =>
    cases result with
    | error problem => trivial
    | ok value => exact rest value
  | statement sql failed continue_ ih =>
    intro store own reply written _ holds _ executed
    exact ⟨assertion, stable, undisturbed store own written (within.1 _ _ _ executed) holds, ih reply (within.2 reply)⟩

/-- A pure step hands on its value. -/
theorem Outline.pure {β : Type} {result : Except ε β} {next : β → Program db ε α}
    {assertion : Store db → Writes db → Prop}
    (rest : ∀ value, result = .ok value → rules.Outline (next value) assertion) :
    rules.Outline (Program.done result >>= next) assertion := by
  cases result with
  | error problem => trivial
  | ok value => exact rest value rfl

/-- Without a further condition on open transactions. -/
def discipline : Discipline db := { rules with compatible := fun _ _ => True }

theorem stable_discipline (assertion : Store db → Writes db → Prop) :
    rules.discipline.Stable assertion ↔ rules.Stable assertion :=
  ⟨fun holds store own other kept within apart => holds store own other kept within apart trivial,
    fun holds store own other kept within apart _ => holds store own other kept within apart⟩

theorem outline_discipline (program : Program db ε α) (assertion : Store db → Writes db → Prop) :
    rules.discipline.Outline program assertion ↔ rules.Outline program assertion := by
  induction program generalizing assertion with
  | done result => cases result <;> rfl
  | statement sql failed next ih =>
    simp only [Discipline.Outline, Outline, stable_discipline, ih]
    exact ⟨fun both => both.2, fun step => ⟨fun _ _ _ _ => trivial, step⟩⟩

/-- The result of a program does not matter to its outline. -/
theorem Outline.discard {program : Program db ε α} {assertion : Store db → Writes db → Prop}
    (outline : rules.Outline program assertion) : rules.Outline program.discard assertion := by
  rw [← outline_discipline] at outline ⊢
  exact Discipline.Outline.discard _ outline

abbrev Safe (system : System db ε α) : Prop := rules.discipline.Safe system

variable {rules}

/-- The invariant rule for whole runs, together with any reflexive and
transitive relation that every commit within the guarantee respects. -/
theorem Safe.run {starts : Program db ε α → Prop} {before after : System db ε α}
    {grows : Store db → Store db → Prop}
    (fresh : ∀ program, starts program → rules.Outline program Untouched)
    (refl : ∀ store, grows store store)
    (trans : ∀ {a b c}, grows a b → grows b c → grows a c)
    (commits : ∀ store writes, rules.invariant store → rules.guarantee store writes → grows store (store.write writes))
    (run : Run starts rules.allowed before after) (safe : rules.Safe before) :
    grows before.committed after.committed ∧ rules.Safe after := by
  have always : ∀ first second, rules.discipline.compatible first second := fun _ _ => trivial
  obtain ⟨growth, kept, _⟩ := Discipline.Safe.run
    (fun program started => (rules.outline_discipline program _).mpr (fresh program started)) refl trans commits
    (Run.disciplined always run) safe (disciplined_of_always always before)
  exact ⟨growth, kept⟩

/-- What a transaction at its end is about to commit stays within the guarantee. -/
theorem Safe.ready {system : System db ε α} (safe : rules.Safe system) {tx : Nat} {value : α} {writes : Writes db}
    (found : system.active tx = some ⟨.done (.ok value), writes⟩) : rules.guarantee system.committed writes := by
  obtain ⟨_, _, holds, outline⟩ := safe.transactions tx _ found
  exact (outline _ writes safe.store holds).1

theorem Safe.idle {store : Store db} (kept : rules.invariant store) :
    rules.Safe (System.idle store : System db ε α) := Discipline.Safe.idle kept

end Rules

/-! The sequential reading of a transaction is one of its interleavings. -/

/-- A transaction that has written nothing goes with every other. -/
def Neutral {db : Database} (compatible : Writes db → Writes db → Prop) : Prop :=
  ∀ writes, compatible Writes.empty writes ∧ compatible writes Writes.empty

section Alone
variable {db : Database} {ε α : Type} {starts : Program db ε α → Prop} {allowed : Store db → db.Statement → Prop}
  {compatible : Writes db → Writes db → Prop} {system : System db ε α} {tx : Nat} {program : Program db ε α}
  {writes final : Writes db} {value : α}

theorem DisciplinedRun.run {before after : System db ε α} (run : DisciplinedRun starts allowed compatible before after) :
    Run starts allowed before after := Relation.ReflTransGen.mono (fun _ _ step => step.1) _ _ run

/-- Only one transaction has written anything. -/
def System.Quiet (system : System db ε α) (tx : Nat) : Prop :=
  ∀ other transaction, other ≠ tx → system.active other = some transaction → transaction.writes = Writes.empty

theorem System.Quiet.set (quiet : system.Quiet tx) (transaction : Option (Open db ε α)) :
    (system.set tx transaction).Quiet tx := by
  intro other held different found
  rw [System.set_other system _ different] at found
  exact quiet other held different found

theorem System.quiet_idle (store : Store db) (transaction : Option (Open db ε α)) :
    ((System.idle store).set tx transaction).Quiet tx := System.Quiet.set (fun _ _ _ impossible => by cases impossible) _

theorem System.Quiet.disciplined (neutral : Neutral compatible) (quiet : system.Quiet tx) : system.Disciplined compatible := by
  intro first second one two different left right
  by_cases same : first = tx
  · rw [quiet second two (fun again => different (same.trans again.symm)) right]
    exact (neutral _).2
  · rw [quiet first one same left]
    exact (neutral _).1

theorem System.Quiet.unlocked (quiet : system.Quiet tx) (written : Writes db) : system.Unlocked tx written := by
  intro other transaction different held
  rw [quiet other transaction different held]
  exact (Writes.empty_apart _).symm

theorem Writes.Apart.of_andThen {first second other : Writes db} (apart : Writes.Apart (first.andThen second) other) :
    Writes.Apart first other ∧ Writes.Apart second other := by
  refine ⟨fun key => ?_, fun key => ?_⟩
  · exact (apart key).imp_left fun absent => (Option.or_eq_none_iff.mp absent).2
  · exact (apart key).imp_left fun absent => (Option.or_eq_none_iff.mp absent).1

/-- A program keeps the locks it has. -/
theorem Program.apart_of_run {store : Store db} {other : Writes db} (finished : program.run store writes = (.ok value, final))
    (apart : Writes.Apart final other) : Writes.Apart writes other := by
  induction program generalizing writes with
  | done result =>
    simp only [Program.run, Prod.mk.injEq] at finished
    rw [finished.2]
    exact apart
  | statement sql failed next ih =>
    simp only [Program.run] at finished
    split at finished
    · simp at finished
    next reply written executed => exact (ih reply finished).of_andThen.1

/-- A transaction gets to its end beside others that have locked none of the rows it writes. -/
theorem finish_beside (disciplined : ∀ transaction, (system.set tx transaction).Disciplined compatible)
    (found : system.active tx = some ⟨program, writes⟩) (unlocked : system.Unlocked tx final)
    (permitted : program.Permitted allowed system.committed writes)
    (finished : program.run system.committed writes = (.ok value, final)) :
    DisciplinedRun starts allowed compatible system (system.set tx (some ⟨.done (.ok value), final⟩)) := by
  induction program generalizing system writes with
  | done result =>
    simp only [Program.run, Prod.mk.injEq] at finished
    obtain ⟨rfl, rfl⟩ := finished
    rw [System.set_eq found]
  | statement sql failed next ih =>
    simp only [Program.Permitted] at permitted
    obtain ⟨first, rest⟩ := permitted
    simp only [Program.run] at finished
    split at finished
    · simp at finished
    next reply written executed =>
      simp only [executed] at rest
      have opened : Step starts allowed system
          (system.set tx (some ⟨next reply, writes.andThen written⟩)) :=
        .execute found first executed fun other transaction different held =>
          (Program.apart_of_run finished (unlocked other transaction different held)).of_andThen.2
      have still : (system.set tx (some ⟨next reply, writes.andThen written⟩)).Unlocked tx final := by
        intro other transaction different held
        rw [System.set_other system _ different] at held
        exact unlocked other transaction different held
      have run := ih reply (fun transaction => by rw [System.set_set]; exact disciplined transaction) (System.set_same ..) still
        rest finished
      rw [System.set_set] at run
      exact .head ⟨opened, disciplined _⟩ run

/-- Its commit is the last step. -/
theorem commit_beside (disciplined : ∀ transaction, (system.set tx transaction).Disciplined compatible)
    (found : system.active tx = some ⟨program, writes⟩) (unlocked : system.Unlocked tx final)
    (permitted : program.Permitted allowed system.committed writes)
    (finished : program.run system.committed writes = (.ok value, final)) :
    ∃ middle, DisciplinedRun starts allowed compatible system middle ∧ middle.committed = system.committed ∧
      Commits tx value middle { system.set tx none with committed := system.committed.write final } := by
  have commits : Commits tx value (system.set tx (some ⟨.done (.ok value), final⟩)) _ := .commit (System.set_same ..)
  rw [System.set_set] at commits
  exact ⟨_, finish_beside disciplined found unlocked permitted finished, rfl, commits⟩

/-- A whole call between two statements of others that have only read. -/
theorem commit_call (neutral : Neutral compatible) (free : system.active tx = none) (started : starts program)
    (quiet : (system.set tx (some ⟨program, Writes.empty⟩)).Quiet tx)
    (permitted : program.Permitted allowed system.committed Writes.empty)
    (finished : program.run system.committed Writes.empty = (.ok value, final)) :
    ∃ middle, DisciplinedRun starts allowed compatible system middle ∧
      Commits tx value middle { system with committed := system.committed.write final } := by
  have opened : Step starts allowed system (system.set tx (some ⟨program, Writes.empty⟩)) := .begin free started
  obtain ⟨middle, run, _, commits⟩ := @commit_beside _ _ _ starts allowed _ (system.set tx (some ⟨program, Writes.empty⟩)) tx _ _ _ _
    (fun transaction => (quiet.set transaction).disciplined neutral) (System.set_same ..) (quiet.unlocked final) permitted finished
  rw [System.set_set, System.set_none free] at commits
  exact ⟨middle, .head ⟨opened, quiet.disciplined neutral⟩ run, commits⟩

/-- A committed sequential call is a run of the interleaved system. -/
theorem withTx_disciplined {store after : Store db} (neutral : Neutral compatible) (started : starts program)
    (permitted : program.Permitted allowed store Writes.empty) (committed : program.withTx store = (.ok value, after)) :
    DisciplinedRun starts allowed compatible (System.idle store) (System.idle after) := by
  unfold Program.withTx at committed
  split at committed
  next result writes finished =>
    simp only [Prod.mk.injEq, Except.ok.injEq] at committed
    obtain ⟨rfl, rfl⟩ := committed
    obtain ⟨middle, run, commits⟩ := @commit_call _ _ _ starts allowed _ (System.idle store) 0 _ _ _ neutral rfl started
      (System.quiet_idle store _) permitted finished
    exact run.tail ⟨commits.step, System.disciplined_idle compatible _⟩
  next => cases committed

theorem neutral_always : Neutral fun _ _ : Writes db => True := fun _ => ⟨trivial, trivial⟩

theorem withTx_runs {store after : Store db} (started : starts program) (permitted : program.Permitted allowed store Writes.empty)
    (committed : program.withTx store = (.ok value, after)) :
    Run starts allowed (System.idle store) (System.idle after) :=
  (withTx_disciplined neutral_always started permitted committed).run

/-- The program gets to `rest` by reading from the store. -/
inductive Reads (store : Store db) : Program db ε α → Program db ε α → Prop where
  | here {reached} : Reads store reached reached
  | read {sql failed next reply rest} (seen : db.execute sql store = .ok (reply, Writes.empty))
      (later : Reads store (next reply) rest) : Reads store (.statement sql failed next) rest

theorem run_reads {rest : Program db ε α} (neutral : Neutral compatible) {store : Store db}
    (permitted : program.Permitted allowed store Writes.empty) (reads : Reads store program rest) :
    DisciplinedRun starts allowed compatible ((System.idle store).set tx (some ⟨program, Writes.empty⟩))
      ((System.idle store).set tx (some ⟨rest, Writes.empty⟩)) := by
  induction reads with
  | here => exact .refl
  | @read sql failed next reply rest seen _ ih =>
    simp only [Program.Permitted, Store.write_empty, seen] at permitted
    obtain ⟨first, later⟩ := permitted
    have step : Step starts allowed ((System.idle store).set tx (some ⟨.statement sql failed next, Writes.empty⟩))
        (((System.idle store).set tx (some ⟨.statement sql failed next, Writes.empty⟩)).set tx (some ⟨next reply, Writes.empty⟩)) := by
      refine .execute (System.set_same ..) ?_ seen fun _ _ _ _ => Writes.empty_apart _
      exact first
    rw [System.set_set] at step
    exact .head ⟨step, (System.quiet_idle store _).disciplined neutral⟩ (ih later)

/-- What one transaction has read is overtaken by a second one that runs from
beginning to end before the first goes on to its commit. -/
structure Overtaking (starts : Program db ε α → Prop) (allowed : Store db → db.Statement → Prop) (store : Store db)
    (first rest second : Program db ε α) (firstValue secondValue : α) (firstWrites secondWrites : Writes db) : Prop where
  started : starts first ∧ starts second
  reads : Reads store first rest
  readsPermitted : first.Permitted allowed store Writes.empty
  overtaken : second.run store Writes.empty = (.ok secondValue, secondWrites)
  overtakenPermitted : second.Permitted allowed store Writes.empty
  finished : rest.run (store.write secondWrites) Writes.empty = (.ok firstValue, firstWrites)
  finishedPermitted : rest.Permitted allowed (store.write secondWrites) Writes.empty

section Overtaking
variable {store : Store db} {first rest second : Program db ε α} {firstValue secondValue : α} {firstWrites secondWrites : Writes db}
  (overtaking : Overtaking starts allowed store first rest second firstValue secondValue firstWrites secondWrites)
include overtaking

theorem Overtaking.commits (neutral : Neutral compatible) :
    ∃ ready between last, DisciplinedRun starts allowed compatible (System.idle store) ready ∧
      Commits 0 secondValue ready between ∧ between.Disciplined compatible ∧
      DisciplinedRun starts allowed compatible between last ∧ last.committed = store.write secondWrites ∧
      Commits 1 firstValue last (System.idle ((store.write secondWrites).write firstWrites)) := by
  have opened : Step starts allowed (System.idle store) ((System.idle store).set 1 (some ⟨first, Writes.empty⟩)) :=
    .begin rfl overtaking.started.1
  have seen : DisciplinedRun starts allowed compatible ((System.idle store).set 1 (some ⟨first, Writes.empty⟩))
      ((System.idle store).set 1 (some ⟨rest, Writes.empty⟩)) := run_reads neutral overtaking.readsPermitted overtaking.reads
  have reading : (((System.idle store).set 1 (some ⟨rest, Writes.empty⟩)).set 0 (some ⟨second, Writes.empty⟩) : System db ε α).Quiet 0 := by
    intro other transaction different held
    rw [System.set_other _ _ different] at held
    rcases System.set_active held with ⟨_, ⟨⟩⟩ | ⟨_, impossible⟩
    · rfl
    · cases impossible
  obtain ⟨ready, called, overtakes⟩ := @commit_call _ _ _ starts allowed _ ((System.idle store).set 1 (some ⟨rest, Writes.empty⟩)) 0
    _ _ _ neutral (System.set_other _ _ (by decide)) overtaking.started.2 reading overtaking.overtakenPermitted overtaking.overtaken
  have calm := @System.quiet_idle _ _ _ 1 (store.write secondWrites) (some ⟨rest, Writes.empty⟩)
  obtain ⟨last, finished, same, commits⟩ :=
    @commit_beside _ _ _ starts allowed _ ((System.idle (store.write secondWrites)).set 1 (some ⟨rest, Writes.empty⟩)) 1 _ _ _ _
      (fun transaction => (calm.set transaction).disciplined neutral) (System.set_same ..) (calm.unlocked firstWrites)
      overtaking.finishedPermitted overtaking.finished
  rw [System.set_set, System.set_none rfl] at commits
  exact ⟨ready, _, last, .head ⟨opened, (System.quiet_idle store _).disciplined neutral⟩ (seen.trans called), overtakes,
    calm.disciplined neutral, finished, same, commits⟩

theorem Overtaking.disciplined (neutral : Neutral compatible) :
    DisciplinedRun starts allowed compatible (System.idle store)
      (System.idle ((store.write secondWrites).write firstWrites)) := by
  obtain ⟨_, _, _, early, overtakes, between, late, _, commits⟩ := overtaking.commits neutral
  exact ((early.tail ⟨overtakes.step, between⟩).trans late).tail ⟨commits.step, System.disciplined_idle compatible _⟩

/-- The second of the two commits is the last step. -/
theorem Overtaking.step :
    ∃ middle, Run starts allowed (System.idle store) middle ∧ middle.committed = store.write secondWrites ∧
      Step starts allowed middle (System.idle ((store.write secondWrites).write firstWrites)) := by
  obtain ⟨_, _, last, early, overtakes, _, late, same, commits⟩ := overtaking.commits neutral_always
  exact ⟨last, (early.run.tail overtakes.step).trans late.run, same, commits.step⟩

end Overtaking

section Both
variable {store : Store db} {first rest second : Program db ε α} {firstValue secondValue : α} {firstWrites secondWrites : Writes db}

/-- Where every statement is allowed. -/
theorem Overtaking.of_always (always : ∀ store sql, allowed store sql) (firstStarted : starts first)
    (secondStarted : starts second) (reads : Reads store first rest)
    (overtaken : second.run store Writes.empty = (.ok secondValue, secondWrites))
    (finished : rest.run (store.write secondWrites) Writes.empty = (.ok firstValue, firstWrites)) :
    Overtaking starts allowed store first rest second firstValue secondValue firstWrites secondWrites :=
  have permitted := Program.permitted_of_always always
  ⟨⟨firstStarted, secondStarted⟩, reads, permitted .., overtaken, permitted .., finished, permitted ..⟩

theorem run_overtaken (always : ∀ store sql, allowed store sql) (firstStarted : starts first)
    (secondStarted : starts second) (reads : Reads store first rest)
    (overtaken : second.run store Writes.empty = (.ok secondValue, secondWrites))
    (finished : rest.run (store.write secondWrites) Writes.empty = (.ok firstValue, firstWrites)) :
    Run starts allowed (System.idle store) (System.idle ((store.write secondWrites).write firstWrites)) :=
  ((Overtaking.of_always always firstStarted secondStarted reads overtaken finished).disciplined neutral_always).run

/-- A second transaction commits while the first has its rows locked and only its commit ahead. -/
theorem run_beside (firstStarted : starts first) (secondStarted : starts second)
    (firstPermitted : first.Permitted allowed store Writes.empty) (secondPermitted : second.Permitted allowed store Writes.empty)
    (firstDone : first.run store Writes.empty = (.ok firstValue, firstWrites))
    (secondDone : second.run store Writes.empty = (.ok secondValue, secondWrites))
    (apart : Writes.Apart secondWrites firstWrites) :
    Run starts allowed (System.idle store) (System.idle ((store.write secondWrites).write firstWrites)) := by
  have disciplined : ∀ system : System db ε α, system.Disciplined fun _ _ => True :=
    disciplined_of_always fun _ _ => trivial
  let opened : System db ε α := (System.idle store).set 1 (some ⟨first, Writes.empty⟩)
  let locking : System db ε α := (System.idle store).set 1 (some ⟨.done (.ok firstValue), firstWrites⟩)
  let beside : System db ε α := locking.set 0 (some ⟨second, Writes.empty⟩)
  have begun : Step starts allowed (System.idle store) opened := .begin rfl firstStarted
  have wrote : DisciplinedRun starts allowed (fun _ _ => True) opened (opened.set 1 _) :=
    finish_beside (fun _ => disciplined _) (System.set_same ..) ((System.quiet_idle store _).unlocked firstWrites) firstPermitted firstDone
  rw [System.set_set] at wrote
  have entered : Step starts allowed locking beside := .begin (System.set_other _ _ (by decide)) secondStarted
  have unlocked : beside.Unlocked 0 secondWrites := by
    intro other transaction different held
    rw [System.set_other locking _ different] at held
    rcases System.set_active held with ⟨_, ⟨⟩⟩ | ⟨_, impossible⟩
    · exact apart
    · cases impossible
  obtain ⟨middle, passed, _, overtakes⟩ : ∃ middle, DisciplinedRun starts allowed (fun _ _ => True) beside middle ∧
      middle.committed = store ∧
      Commits 0 secondValue middle { beside.set 0 none with committed := store.write secondWrites } :=
    commit_beside (fun _ => disciplined _) (System.set_same ..) unlocked secondPermitted secondDone
  rw [System.set_set, System.set_none (System.set_other _ _ (by decide))] at overtakes
  have commits : Commits 1 firstValue
      ((System.idle (store.write secondWrites)).set 1 (some ⟨.done (.ok firstValue), firstWrites⟩) : System db ε α) _ :=
    .commit (System.set_same ..)
  rw [System.set_set, System.set_none rfl] at commits
  exact ((((wrote.run.head begun).tail entered).trans passed.run).tail overtakes.step).tail commits.step

end Both

end Alone

end Transaction
