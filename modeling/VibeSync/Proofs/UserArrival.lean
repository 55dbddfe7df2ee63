import VibeSync.Proofs.UserPipeline

/-! Every user arrives. A delivery that marks its event is followed by the handler,
as long as no transaction of it fails and no process stops in between. -/

namespace VibeSync.Proofs.UserArrival
open VibeSync.Users Transaction Machine
open VibeSync.Outbox (Relays RelayOptions Message)
open VibeSync.Kafka (Consumer idempotencyKey)
open VibeSync.Proofs.AuthRoster VibeSync.Proofs.OutboxSafety VibeSync.Proofs.UserPipeline
open VibeSync.Proofs.KafkaConsumer (Phase.current errorOf)
open VibeSync.Proofs.KafkaIdempotency (sight_cases idempotencyKey_inj)
open Pipeline (start staged entries record log)

section Arrival
variable [Collation]

def Arrived (users : Store database) (key : String) : Prop := (Tables.user users key).isSome

/-- Where every event stands that was taken from the topic. -/
structure Prompt (setup : Setup) (relays : Relays) (users : Store database) (c : Consumer) : Prop where
  named : ∀ e ∈ events relays.table, e.id ≠ "" ∧ e.key ≠ ""
  read : ∀ partition, c.position partition ≤ (entries setup relays partition).length
  kept : ∀ partition, c.committed partition ≤ (entries setup relays partition).length
  fetched : ∀ partition offset, Phase.current c.phase = some (partition, offset) → offset < c.position partition
  covered : ∀ partition offset msg, offset < c.committed partition →
    (entries setup relays partition)[offset]? = some msg → Arrived users msg.key
  delivered : ∀ partition offset msg, offset < c.position partition → (entries setup relays partition)[offset]? = some msg →
    Arrived users msg.key ∨ Phase.current c.phase = some (partition, offset)
  returned : ∀ partition offset msg, c.phase = .returned partition offset →
    (entries setup relays partition)[offset]? = some msg → Arrived users msg.key
  stored : ∀ key ∈ c.kv, ∃ e ∈ events relays.table, key = idempotencyKey Auth.userCreated e.id ∧
    (Arrived users e.key ∨ ∃ partition offset msg, c.phase = .calling partition offset ∧
      (entries setup relays partition)[offset]? = some msg ∧ msg.key = e.key)

theorem prompt_start (setup : Setup) : Prompt setup start.relays start.users start.consumer where
  named _ impossible := nomatch impossible
  read _ := Nat.zero_le _
  kept _ := Nat.zero_le _
  fetched _ _ impossible := nomatch impossible
  covered _ _ _ impossible := absurd impossible (Nat.not_lt_zero _)
  delivered _ _ _ impossible := absurd impossible (Nat.not_lt_zero _)
  returned _ _ _ impossible := nomatch impossible
  stored _ impossible := nomatch impossible

omit [Collation] in
theorem log_get (setup : Setup) (relays : Relays) (partition offset : Nat) : (log setup relays partition)[offset]? =
    ((entries setup relays partition)[offset]?).map (record partition offset) := by
  simp only [log, List.getElem?_mapIdx]

omit [Collation] in
theorem log_length (setup : Setup) (relays : Relays) (partition : Nat) :
    (log setup relays partition).length = (entries setup relays partition).length := by
  simp only [log, List.length_mapIdx]

omit [Collation] in
theorem entries_grow (setup : Setup) {before after : Relays} (grows : Grows before after) (partition : Nat) :
    entries setup before partition <+: entries setup after partition :=
  (grows.acknowledged.map Prod.snd).filter _

omit [Collation] in
/-- An offset keeps its message. -/
theorem entries_get (setup : Setup) {before after : Relays} (grows : Grows before after) {partition offset : Nat}
    (inside : offset < (entries setup before partition).length) :
    (entries setup after partition)[offset]? = (entries setup before partition)[offset]? := by
  obtain ⟨more, same⟩ := entries_grow setup grows partition
  rw [← same, List.getElem?_append_left inside]

namespace Prompt
variable {setup : Setup} {relays : Relays} {users : Store database} {c : Consumer}

/-- The topic, the outbox and the projection grow. -/
theorem grow (prompt : Prompt setup relays users c) {later : Relays} {after : Store database} (grows : Grows relays later)
    (named : ∀ e ∈ events later.table, e.id ≠ "" ∧ e.key ≠ "") (keeps : Keeps users after) : Prompt setup later after c := by
  have back : ∀ partition offset msg, offset < (entries setup relays partition).length →
      (entries setup later partition)[offset]? = some msg → (entries setup relays partition)[offset]? = some msg := by
    intro partition offset msg inside found
    rwa [← entries_get setup grows inside]
  have longer := fun partition => (entries_grow setup grows partition).length_le
  refine ⟨named, fun partition => (prompt.read partition).trans (longer partition),
    fun partition => (prompt.kept partition).trans (longer partition), prompt.fetched, ?_, ?_, ?_, ?_⟩
  · intro partition offset msg below found
    exact keeps _ (prompt.covered partition offset msg below (back _ _ _ (below.trans_le (prompt.kept partition)) found))
  · intro partition offset msg below found
    exact (prompt.delivered partition offset msg below (back _ _ _ (below.trans_le (prompt.read partition)) found)).imp_left (keeps _)
  · intro partition offset msg phase found
    have below := prompt.fetched partition offset (by rw [phase]; rfl)
    exact keeps _ (prompt.returned partition offset msg phase (back _ _ _ (below.trans_le (prompt.read partition)) found))
  · intro key member
    obtain ⟨e, there, same, known⟩ := prompt.stored key member
    refine ⟨e, grows.rows.subset there, same, known.imp (keeps _) ?_⟩
    rintro ⟨partition, offset, msg, phase, found, own⟩
    obtain ⟨inside, _⟩ := List.getElem?_eq_some_iff.mp found
    exact ⟨partition, offset, msg, phase, (entries_get setup grows inside).trans found, own⟩

/-- Outside of a call every marked event has arrived. -/
theorem marked (prompt : Prompt setup relays users c) (quiet : ∀ partition offset, c.phase ≠ .calling partition offset)
    {key : String} (member : key ∈ c.kv) :
    ∃ e ∈ events relays.table, key = idempotencyKey Auth.userCreated e.id ∧ Arrived users e.key := by
  obtain ⟨e, there, same, arrived | ⟨partition, offset, _, phase, _⟩⟩ := prompt.stored key member
  · exact ⟨e, there, same, arrived⟩
  · exact absurd phase (quiet partition offset)

theorem fetch (prompt : Prompt setup relays users c) (idle : c.phase = .idle) (partition : Nat) :
    Prompt setup relays users (c.fetch (log setup relays) partition) := by
  have extended : ∀ other offset, offset < Function.update c.position partition (c.position partition + 1) other →
      offset < c.position other ∨ (partition, c.position partition) = (other, offset) := by
    intro other offset below
    by_cases here : other = partition
    · subst here
      rw [Function.update_self, Nat.lt_succ_iff_lt_or_eq] at below
      exact below.imp id fun last => by rw [last]
    · rw [Function.update_of_ne here] at below
      exact Or.inl below
  unfold Consumer.fetch
  rw [log_length]
  split
  next inside =>
    refine ⟨prompt.named, ?_, prompt.kept, ?_, prompt.covered, ?_, ?_, ?_⟩
    · intro other
      by_cases here : other = partition
      · subst here
        dsimp only
        rw [Function.update_self]
        exact inside
      · dsimp only
        rw [Function.update_of_ne here]
        exact prompt.read other
    · intro other offset current
      cases current
      dsimp only
      rw [Function.update_self]
      exact Nat.lt_succ_self _
    · intro other offset msg below found
      rcases extended other offset below with before | current
      · refine Or.inl ((prompt.delivered other offset msg before found).resolve_right ?_)
        rw [idle]
        intro impossible
        cases impossible
      · exact Or.inr (congrArg some current)
    · intro _ _ _ impossible
      cases impossible
    · intro key member
      have quiet : ∀ partition offset, c.phase ≠ .calling partition offset := by
        intro _ _ calling
        cases idle.symm.trans calling
      obtain ⟨e, there, same, arrived⟩ := prompt.marked quiet member
      exact ⟨e, there, same, Or.inl arrived⟩
  · exact prompt

/-- The delivery at hand moves on to its next phase. -/
theorem carry (prompt : Prompt setup relays users c) {after : Consumer} (committed : after.committed = c.committed)
    (position : after.position = c.position) (same : Phase.current after.phase = Phase.current c.phase)
    (returned : ∀ partition offset msg, after.phase = .returned partition offset →
      (entries setup relays partition)[offset]? = some msg → Arrived users msg.key)
    (stored : ∀ key ∈ after.kv, ∃ e ∈ events relays.table, key = idempotencyKey Auth.userCreated e.id ∧
      (Arrived users e.key ∨ ∃ partition offset msg, after.phase = .calling partition offset ∧
        (entries setup relays partition)[offset]? = some msg ∧ msg.key = e.key)) : Prompt setup relays users after := by
  refine ⟨prompt.named, ?_, ?_, ?_, ?_, ?_, returned, stored⟩
  · rw [position]
    exact prompt.read
  · rw [committed]
    exact prompt.kept
  · rw [position, same]
    exact prompt.fetched
  · rw [committed]
    exact prompt.covered
  · rw [position, same]
    exact prompt.delivered

theorem dedupe {lower : Char → Char} {auth : Store Auth.database} (source : Source lower auth relays)
    (prompt : Prompt setup relays users c) {partition offset : Nat} (phase : c.phase = .fetched partition offset)
    (unavailable : Option Err) : Prompt setup relays users (c.dedupe (log setup relays) partition offset unavailable) := by
  have quiet : ∀ partition offset, c.phase ≠ .calling partition offset := by
    intro _ _ calling
    cases phase.symm.trans calling
  have current : some (partition, offset) = Phase.current c.phase := by rw [phase]; rfl
  unfold Consumer.dedupe
  rw [log_get]
  cases found : (entries setup relays partition)[offset]? with
  | none => exact prompt
  | some msg =>
    obtain ⟨e, there, user, sent, rfl, tells, _⟩ := source.message found
    obtain ⟨named, _⟩ := prompt.named e there
    have key : (e.message sent).key = e.key := (tells.message_key sent).trans tells.key.symm
    have marks : idempotencyKey (record partition offset (e.message sent)).topic (Kafka.eventID (record partition offset (e.message sent))) =
        idempotencyKey Auth.userCreated e.id := by
      rw [tells.eventID named]
      exact congrArg (idempotencyKey · e.id) tells.topic
    have older : ∀ other ∈ c.kv, ∃ e ∈ events relays.table, other = idempotencyKey Auth.userCreated e.id ∧
        (Arrived users e.key ∨ ∃ partition' offset' msg, Kafka.Phase.calling partition offset = .calling partition' offset' ∧
          (entries setup relays partition')[offset']? = some msg ∧ msg.key = e.key) := by
      intro other member
      obtain ⟨e', there', same, arrived⟩ := prompt.marked quiet member
      exact ⟨e', there', same, Or.inl arrived⟩
    rw [Option.map_some]
    dsimp only
    rcases sight_cases c.kv unavailable (record partition offset (e.message sent)) with unmarked | marked | ⟨again, known⟩
    · rw [unmarked]
      exact prompt.carry rfl rfl current (fun _ _ _ impossible => by cases impossible) older
    · rw [marked]
      refine prompt.carry rfl rfl current (fun _ _ _ impossible => by cases impossible) ?_
      intro other member
      rcases List.mem_cons.mp member with rfl | before
      · exact ⟨e, there, marks, Or.inr ⟨partition, offset, _, rfl, found, key⟩⟩
      · exact older other before
    · rw [again]
      rw [marks] at known
      obtain ⟨e', there', same, arrived⟩ := prompt.marked quiet known
      have own : e'.id = e.id := (idempotencyKey_inj (by decide) (by decide) same).2.symm
      obtain rfl := source.consistent.event_eq there' there own
      refine prompt.carry rfl rfl current ?_ fun other member => ?_
      · rintro _ _ msg ⟨⟩ here
        cases found.symm.trans here
        rwa [key]
      · obtain ⟨e', there', same, arrived⟩ := prompt.marked quiet member
        exact ⟨e', there', same, Or.inl arrived⟩

/-- The handler is done with the delivery at hand. -/
theorem handle (prompt : Prompt setup relays users c) {partition offset : Nat} {msg : Message} (phase : c.phase = .calling partition offset)
    (found : (entries setup relays partition)[offset]? = some msg) {after : Store database} (keeps : Keeps users after)
    (arrived : Arrived after msg.key) : Prompt setup relays after (c.step (log setup relays) (.handle none)) := by
  have current : some (partition, offset) = Phase.current c.phase := by rw [phase]; rfl
  have grown := prompt.grow ⟨List.prefix_rfl, List.prefix_rfl⟩ prompt.named keeps
  simp only [Consumer.step, phase]
  refine grown.carry rfl rfl current ?_ fun key member => ?_
  · rintro _ _ other ⟨⟩ here
    cases found.symm.trans here
    exact arrived
  · obtain ⟨e, there, same, before | ⟨_, _, other, calling, here, own⟩⟩ := grown.stored key member
    · exact ⟨e, there, same, Or.inl before⟩
    · cases phase.symm.trans calling
      cases found.symm.trans here
      rw [own] at arrived
      exact ⟨e, there, same, Or.inl arrived⟩

/-- The loop is done with a delivery that has arrived. -/
theorem commit (prompt : Prompt setup relays users c) {partition offset : Nat} (phase : c.phase = .returned partition offset)
    (err : Option Err) : Prompt setup relays users (c.step (log setup relays) (.commit err)) := by
  have quiet : ∀ partition offset, c.phase ≠ .calling partition offset := by
    intro _ _ calling
    cases phase.symm.trans calling
  have current : Phase.current c.phase = some (partition, offset) := by rw [phase]; rfl
  have below := prompt.fetched partition offset current
  have arrived : ∀ other lower msg, lower < c.position other → (entries setup relays other)[lower]? = some msg →
      Arrived users msg.key := by
    intro other lower msg before found
    rcases prompt.delivered other lower msg before found with arrived | here
    · exact arrived
    · obtain ⟨rfl, rfl⟩ := Prod.mk.inj (Option.some.inj (current.symm.trans here))
      exact prompt.returned partition offset msg phase found
  have idled : Prompt setup relays users { c with phase := .idle } := by
    refine ⟨prompt.named, prompt.read, prompt.kept, ?_, prompt.covered, ?_, ?_, ?_⟩
    · intro _ _ impossible
      cases impossible
    · exact fun other lower msg before found => Or.inl (arrived other lower msg before found)
    · intro _ _ _ impossible
      cases impossible
    · intro key member
      obtain ⟨e, there, same, arrived⟩ := prompt.marked quiet member
      exact ⟨e, there, same, Or.inl arrived⟩
  simp only [Consumer.step, phase]
  cases err with
  | some err => exact idled
  | none =>
    have covers : ∀ other, Function.update c.committed partition (offset + 1) other ≤ c.committed other ∨
        Function.update c.committed partition (offset + 1) other ≤ c.position other := by
      intro other
      by_cases here : other = partition
      · subst here
        rw [Function.update_self]
        exact Or.inr below
      · rw [Function.update_of_ne here]
        exact Or.inl le_rfl
    refine ⟨prompt.named, prompt.read, ?_, idled.fetched, ?_, idled.delivered, idled.returned, idled.stored⟩
    · intro other
      exact (covers other).elim (·.trans (prompt.kept other)) (·.trans (prompt.read other))
    · intro other lower msg before found
      rcases covers other with old | new
      · exact prompt.covered other lower msg (before.trans_le old) found
      · exact arrived other lower msg (before.trans_le new) found

theorem restart (prompt : Prompt setup relays users c) (quiet : ∀ partition offset, c.phase ≠ .calling partition offset) :
    Prompt setup relays users (c.step (log setup relays) .restart) := by
  refine ⟨prompt.named, prompt.kept, prompt.kept, ?_, prompt.covered, ?_, ?_, ?_⟩
  · intro _ _ impossible
    cases impossible
  · exact fun partition offset msg below found => Or.inl (prompt.covered partition offset msg below found)
  · intro _ _ _ impossible
    cases impossible
  · intro key member
    obtain ⟨e, there, same, arrived⟩ := prompt.marked quiet member
    exact ⟨e, there, same, Or.inl arrived⟩

theorem expire (prompt : Prompt setup relays users c) (key : String) :
    Prompt setup relays users (c.step (log setup relays) (.expire key)) :=
  { prompt with stored := fun other member => prompt.stored other (List.mem_of_mem_filter member) }

/-- A step of the consumer's loop around the handler. -/
theorem consume {lower : Char → Char} {auth : Store Auth.database} (source : Source lower auth relays)
    (prompt : Prompt setup relays users c) {event : Consumer.Event} (around : ∀ err, event ≠ .handle err)
    (quiet : event = .restart → ∀ partition offset, c.phase ≠ .calling partition offset) :
    Prompt setup relays users (c.step (log setup relays) event) := by
  cases event with
  | fetch partition =>
    cases phase : c.phase with
    | idle =>
      simp only [Consumer.step, phase]
      exact prompt.fetch phase partition
    | _ =>
      simp only [Consumer.step, phase]
      exact prompt
  | dedupe unavailable =>
    cases phase : c.phase with
    | fetched partition offset =>
      simp only [Consumer.step, phase]
      exact prompt.dedupe source phase unavailable
    | _ =>
      simp only [Consumer.step, phase]
      exact prompt
  | handle err => exact absurd rfl (around err)
  | commit err =>
    cases phase : c.phase with
    | returned partition offset => exact prompt.commit phase err
    | _ =>
      simp only [Consumer.step, phase]
      exact prompt
  | restart => exact prompt.restart (quiet rfl)
  | expire key => exact prompt.expire key

end Prompt

/-! Runs. -/

/-- Ids are not empty, no transaction of the handler fails, and no process stops
between the mark of an event and its handler. -/
def Smooth (setup : Setup) (p : Pipeline) : Event → Prop
  | .request request => ∀ env, env? request = some env → env.lower = setup.text.lower ∧ env.idgen 0 ≠ "" ∧ env.idgen 1 ≠ ""
  | .handle _ failure => failure = none
  | .consume .restart => ∀ partition offset, p.consumer.phase ≠ .calling partition offset
  | _ => True

theorem Smooth.alike {setup : Setup} {p : Pipeline} {event : Event} (smooth : Smooth setup p event) : Alike setup.text.lower event := by
  cases event with
  | request request => exact fun env creates => (smooth env creates).1
  | _ => trivial

/-- What a request stages has an id and a key. -/
theorem staged_named {setup : Setup} {p : Pipeline} (source : Source setup.text.lower p.auth p.relays)
    (named : ∀ e ∈ events p.relays.table, e.id ≠ "" ∧ e.key ≠ "") {request : AuthIdentity.Event}
    (smooth : Smooth setup p (.request request)) : ∀ e ∈ events (p.request setup request).relays.table, e.id ≠ "" ∧ e.key ≠ "" := by
  rw [Pipeline.request]
  cases AuthRoster.step_moves p.auth request with
  | same same =>
    rw [staged_same same, stage_nothing]
    exact named
  | @enrols env provider user creates enrols =>
    obtain ⟨_, id, event⟩ := smooth env creates
    rw [staged_enrols creates enrols, source.stage setup.opts enrols]
    intro e member
    rw [events, List.map_append] at member
    rcases List.mem_append.mp member with old | new
    · exact named e old
    · rw [List.mem_singleton.mp new]
      refine ⟨event, ?_⟩
      rw [(createdEvent_tells env (env.idgen 1) provider user).key, enrols.drawn]
      exact id

structure Healthy (setup : Setup) (p : Pipeline) : Prop where
  sound : Sound setup p
  prompt : Prompt setup p.relays p.users p.consumer

theorem Healthy.step {setup : Setup} (lowers : Lowers setup.text.lower) {p : Pipeline} (healthy : Healthy setup p) {event : Event}
    (smooth : Smooth setup p event) : Healthy setup (p.step setup event) := by
  obtain ⟨sound, prompt⟩ := healthy
  refine ⟨sound.step lowers smooth.alike, ?_⟩
  cases event with
  | request request =>
    have steps := OutboxSafety.step_moves setup.opts p.relays (.stage (staged p.auth (AuthIdentity.step p.auth request) request))
    exact prompt.grow steps.grows (staged_named sound.source prompt.named smooth) (Keeps.refl _)
  | relay action =>
    rcases relay_cases setup p action with stays | ⟨acts, moves⟩
    · rwa [stays]
    · have steps := OutboxSafety.step_moves setup.opts p.relays action
      rw [moves]
      refine prompt.grow steps.grows ?_ (Keeps.refl _)
      rw [(relay_sends steps sound.source.consistent acts).1]
      exact prompt.named
  | consume event =>
    rcases consume_cases setup p event with stays | ⟨around, moves⟩
    · rwa [stays]
    · rw [moves]
      refine prompt.consume sound.source around ?_
      rintro rfl
      exact smooth
  | handle now failure =>
    obtain rfl : failure = none := smooth
    simp only [Pipeline.step]
    split
    next partition offset phase =>
      split
      next msg found =>
        obtain ⟨e, there, user, tells, key, lands⟩ := sound.lands lowers found now
        have arrived := lands.arrives (tells.key ▸ (prompt.named e there).2)
        rw [← key] at arrived
        simp only [Pipeline.handle, lands.succeeds, errorOf]
        exact prompt.handle phase found lands.keeps arrived
      · exact prompt
    · exact prompt
  | update now subject req =>
    exact prompt.grow ⟨List.prefix_rfl, List.prefix_rfl⟩ prompt.named (sound.mirrored.update now subject req).2

theorem run_healthy {setup : Setup} (lowers : Lowers setup.text.lower) {history : List Event}
    (smooth : ∀ visit ∈ trace (Pipeline.step setup) start history, Smooth setup visit.1 visit.2) :
    Healthy setup (run (Pipeline.step setup) start history) :=
  run_of_guarded (Healthy setup) (Smooth setup) (fun _ _ healthy smooth => healthy.step lowers smooth)
    ⟨sound_start setup, prompt_start setup⟩ smooth

omit [Collation] in
/-- A published event is in the topic. -/
theorem entry_of_published {setup : Setup} {relays : Relays} {e : Outbox.Event} {user : Auth.User} (tells : Tells e user)
    (published : Acknowledged relays e) :
    ∃ partition, ∃ offset : Nat, ∃ msg, (entries setup relays partition)[offset]? = some msg ∧ msg.key = user.id := by
  obtain ⟨now, sent⟩ := published
  have member : e.message now ∈ entries setup relays (setup.partition user.id) := by
    refine List.mem_filter.mpr ⟨List.mem_map.mpr ⟨_, sent, rfl⟩, ?_⟩
    exact decide_eq_true ⟨tells.topic, congrArg setup.partition (tells.message_key now)⟩
  obtain ⟨offset, found⟩ := List.mem_iff_getElem?.mp member
  exact ⟨_, offset, _, found, tells.message_key now⟩

/-- Once the outbox is drained and the group has committed the whole topic, both
services have the same users, under the same addresses and names. -/
theorem users_arrive {setup : Setup} (lowers : Lowers setup.text.lower) {history : List Event}
    (smooth : ∀ visit ∈ trace (Pipeline.step setup) start history, Smooth setup visit.1 visit.2)
    (drained : ∀ row ∈ (run (Pipeline.step setup) start history).relays.table, row.published = true)
    (committed : ∀ partition, (entries setup (run (Pipeline.step setup) start history).relays partition).length ≤
      (run (Pipeline.step setup) start history).consumer.committed partition) (id : String) :
    (Tables.user (run (Pipeline.step setup) start history).users id).map (fun row => (row.email, row.username)) =
      (Auth.Tables.user (run (Pipeline.step setup) start history).auth id).map fun user => (user.email, user.username) := by
  have healthy := run_healthy lowers smooth
  generalize run (Pipeline.step setup) start history = p at drained committed healthy ⊢
  obtain ⟨sound, prompt⟩ := healthy
  cases found : Tables.user p.users id with
  | some row =>
    obtain ⟨user, known, _, email, username, _⟩ := sound.mirrored.rows id row found
    rw [known, Option.map_some, Option.map_some, email, username]
  | none =>
    cases known : Auth.Tables.user p.auth id with
    | none => rfl
    | some user =>
      -- the event of the user was acknowledged, read and covered
      obtain ⟨e, there, tells⟩ := sound.source.told id user known
      obtain ⟨row, member, rfl⟩ := List.mem_map.mp there
      obtain ⟨partition, offset, msg, entry, key⟩ :=
        @entry_of_published setup p.relays _ _ tells (sound.source.consistent.published row member (drained row member))
      obtain ⟨inside, _⟩ := List.getElem?_eq_some_iff.mp entry
      have arrived := prompt.covered partition offset msg (inside.trans_le (committed partition)) entry
      rw [key, sound.source.indexed.keyed id user known, Arrived, found] at arrived
      cases arrived

end Arrival

local instance : Collation := .c

theorem newcomer_smooth (p : Pipeline) : ∀ event ∈ newcomer, Smooth onePartition p event := by
  refine List.forall_mem_cons.mpr ⟨?_, by simp [Smooth]⟩
  rintro env ⟨⟩
  exact ⟨rfl, by decide, by decide⟩

theorem newcomer_arrives :
    (Auth.Tables.user (run (Pipeline.step onePartition) start newcomer).auth "u1").isSome ∧
      (Tables.user (run (Pipeline.step onePartition) start newcomer).users "u1").map (fun row => (row.email, row.username)) =
        (Auth.Tables.user (run (Pipeline.step onePartition) start newcomer).auth "u1").map fun user => (user.email, user.username) := by
  refine ⟨by decide +kernel, users_arrive plain_lowers (fun visit visited => newcomer_smooth visit.1 visit.2 (trace_event visited))
    (by decide +kernel) ?_ "u1"⟩
  rintro (_ | partition)
  · decide +kernel
  · have other : entries onePartition (run (Pipeline.step onePartition) start newcomer).relays (partition + 1) = [] := by
      simp [entries, onePartition]
    rw [other]
    exact Nat.zero_le _

end VibeSync.Proofs.UserArrival
