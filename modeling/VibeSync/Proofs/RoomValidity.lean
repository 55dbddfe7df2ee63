import VibeSync.Machine
import VibeSync.Proofs.RoomSteps

/-! The rows that `CreateRoom` and `UpdateRoom` leave: valid fields, the
visibility that was asked for, and a code to join a private room with. -/

namespace VibeSync.Proofs.RoomValidity
open VibeSync.Rooms Transaction VibeSync.Proofs.RoomSteps

theorem bytes_pos {s : String} (named : s ≠ "") : 1 ≤ s.utf8ByteSize := by
  apply Nat.pos_of_ne_zero
  intro empty
  exact named (String.utf8ByteSize_eq_zero_iff.mp empty)

/-! Valid rows. -/

structure ValidRoom (row : Room) : Prop where
  trimmed : trimSpace row.name = row.name
  named : 1 ≤ row.name.utf8ByteSize
  short : row.name.utf8ByteSize ≤ 100
  roomy : 0 < row.maxMembers
  visible : row.visibility = visibilityPublic ∨ row.visibility = visibilityUnlisted ∨ row.visibility = visibilityPrivate

theorem ValidRoom.name {given : String} {row : Room} (named : trimSpace given ≠ "")
    (short : (trimSpace given).utf8ByteSize ≤ 100) (stored : row.name = trimSpace given) (roomy : 0 < row.maxMembers)
    (visible : row.visibility = visibilityPublic ∨ row.visibility = visibilityUnlisted ∨
      row.visibility = visibilityPrivate) : ValidRoom row := by
  refine ⟨?_, ?_, ?_, roomy, visible⟩
  · rw [stored, trimSpace_trimSpace]
  · rw [stored]
    exact bytes_pos named
  · rw [stored]
    exact short

theorem ValidRoom.keeps_name {old row : Room} (valid : ValidRoom old) (same : row.name = old.name) (roomy : 0 < row.maxMembers)
    (visible : row.visibility = visibilityPublic ∨ row.visibility = visibilityUnlisted ∨
      row.visibility = visibilityPrivate) : ValidRoom row := by
  have trimmed := valid.trimmed
  have named := valid.named
  have short := valid.short
  rw [← same] at trimmed named short
  exact ⟨trimmed, named, short, roomy, visible⟩

/-- A value of the enumeration. -/
def Known (visibility : Int32) : Prop := visibility = 0 ∨ visibility = 1 ∨ visibility = 2 ∨ visibility = 3

theorem Known.narrow {visibility : Int32} (known : Known visibility) : visibility.toInt8.toInt32 = visibility := by
  rcases known with rfl | rfl | rfl | rfl <;> decide

theorem Known.chosen {visibility : Int32} (known : Known visibility) (chosen : visibility ≠ 0) :
    visibility.toInt8 ≠ visibilityUnspecified := by
  intro unspecified
  apply chosen
  rw [← known.narrow]
  exact congrArg Int8.toInt32 unspecified

theorem Known.visible {visibility : Int32} (known : Known visibility) (chosen : visibility.toInt8 ≠ visibilityUnspecified) :
    visibility.toInt8 = visibilityPublic ∨ visibility.toInt8 = visibilityUnlisted ∨
      visibility.toInt8 = visibilityPrivate := by
  rcases known with rfl | rfl | rfl | rfl
  · exact absurd rfl chosen
  · exact Or.inl rfl
  · exact Or.inr (Or.inl rfl)
  · exact Or.inr (Or.inr rfl)

theorem newRoom_name {now : Time} {id ownerID : String} {random : List UInt8} {p : NewRoomParams} {room : Room}
    (made : newRoom now id ownerID random p = .ok room) :
    room.name = trimSpace p.name ∧ trimSpace p.name ≠ "" ∧ (trimSpace p.name).utf8ByteSize ≤ 100 ∧ 0 < room.maxMembers ∧
      room.visibility = if p.visibility = visibilityUnspecified then visibilityPublic else p.visibility := by
  simp only [newRoom] at made
  split at made
  · cases made
  next named =>
    split at made
    · cases made
    next short =>
      cases made
      refine ⟨rfl, named, Nat.le_of_not_lt short, ?_, rfl⟩
      dsimp only
      split
      · split
        · next positive => exact positive
        · decide
      · decide

theorem newRoom_valid {now : Time} {id ownerID : String} {random : List UInt8} {req : CreateRoomRequest} {room : Room}
    (known : Known req.visibility) (made : newRoom now id ownerID random req.params = .ok room) : ValidRoom room := by
  obtain ⟨stored, named, short, roomy, visibility⟩ := newRoom_name made
  apply ValidRoom.name named short stored roomy
  rw [visibility]
  split
  · exact Or.inl rfl
  · next chosen => exact known.visible chosen

section Update
variable (req : UpdateRoomRequest) (env : Env) (row : Room)

theorem apply_name : (req.apply env row).name =
    match req.name with
    | some given => if trimSpace given ≠ "" then trimSpace given else row.name
    | none => row.name := by
  simp only [UpdateRoomRequest.apply, Room.applyUpdate]
  cases req.name with
  | none => rfl
  | some given =>
    simp only [Room.renamed]
    split <;> rfl

theorem apply_visibility : (req.apply env row).visibility =
    match req.visibility with
    | some given => if given.toInt8 ≠ visibilityUnspecified then given.toInt8 else row.visibility
    | none => row.visibility := by
  obtain ⟨name, slug, renamed⟩ := row.renamed_fields env.slugBytes req.name
  simp only [UpdateRoomRequest.apply, Room.applyUpdate, renamed]
  cases req.visibility <;> rfl

theorem apply_roomy (roomy : 0 < row.maxMembers) : 0 < (req.apply env row).maxMembers := by
  obtain ⟨name, slug, renamed⟩ := row.renamed_fields env.slugBytes req.name
  simp only [UpdateRoomRequest.apply, Room.applyUpdate, renamed]
  split
  · next given _ =>
    split
    · next positive => exact Int.natCast_pos.mpr (UInt32.lt_iff_toNat_lt.mp positive)
    · exact roomy
  · exact roomy

end Update

theorem Keyed.step {store after : Store database} (keyed : Keyed store) {env : Env} {request : Request}
    (moves : Moves env store request after) : Keyed after := by
  intro id row found
  rcases moves.origin found with ⟨old, delta, before, same⟩ | ⟨_, _, room, _, _, _, here, same⟩ |
    ⟨_, req, old, _, effect, here, same⟩
  · rw [same]
    exact keyed id old before
  · rw [same, here]
    rfl
  · rw [same, here, apply_id]
    exact keyed _ old effect.found

structure Valid (store : Store database) : Prop where
  keyed : Keyed store
  rows : ∀ id row, Tables.room store id = some row → ValidRoom row

/-- A refusal, or the visibility that was asked for. UNSPECIFIED asks for none. -/
def Honoured (requested : Option Int32) (id : String) (store : Store database)
    (outcome : Except Err RoomMessage × Store database) : Prop :=
  (∃ err, outcome = (.error err, store)) ∨ ∃ row, Tables.room outcome.2 id = some row ∧
    ∀ visibility, requested = some visibility → visibility ≠ 0 → row.visibility.toInt32 = visibility

def Answered (store : Store database) : Env × Request → Prop
  | (env, .createRoom subject req) =>
    Honoured (some req.visibility) (env.idgen 0) store (createRoom env subject req store)
  | (env, .updateRoom subject req) => Honoured req.visibility req.id store (updateRoom env subject req store)
  | _ => True

/-- Visibilities of the enumeration, and names of an update within the limit of a new room. -/
def Sound : Env × Request → Prop
  | (_, .createRoom _ req) => Known req.visibility
  | (_, .updateRoom _ req) => (∀ visibility, req.visibility = some visibility → Known visibility) ∧
      ∀ name, req.name = some name → (trimSpace name).utf8ByteSize ≤ 100
  | _ => True

theorem ValidRoom.counted {row : Room} (valid : ValidRoom row) (delta : Int) : ValidRoom (Tables.countedRoom row delta) :=
  valid.keeps_name rfl valid.roomy valid.visible

theorem ValidRoom.apply {row : Room} (valid : ValidRoom row) {req : UpdateRoomRequest} (env : Env)
    (known : ∀ visibility, req.visibility = some visibility → Known visibility)
    (short : ∀ name, req.name = some name → (trimSpace name).utf8ByteSize ≤ 100) : ValidRoom (req.apply env row) := by
  have roomy := apply_roomy req env row valid.roomy
  have visible : (req.apply env row).visibility = visibilityPublic ∨ (req.apply env row).visibility = visibilityUnlisted ∨
      (req.apply env row).visibility = visibilityPrivate := by
    rw [apply_visibility]
    split
    · next given asked =>
      split
      · next chosen => exact (known given asked).visible chosen
      · exact valid.visible
    · exact valid.visible
  have name := apply_name req env row
  split at name
  · next given asked =>
    split at name
    · next named => exact ValidRoom.name named (short given asked) name roomy visible
    · exact valid.keeps_name name roomy visible
  · exact valid.keeps_name name roomy visible

theorem Valid.step {store : Store database} (valid : Valid store) {event : Env × Request} (sound : Sound event) :
    Valid (serve store event) := by
  obtain ⟨env, request⟩ := event
  have moves := serve_moves valid.keyed env request
  refine ⟨Keyed.step valid.keyed moves, ?_⟩
  intro id row found
  rcases moves.origin found with ⟨old, delta, before, same⟩ | ⟨_, req, room, asked, made, _, _, same⟩ |
    ⟨_, req, old, asked, effect, _, same⟩
  · rw [same]
    exact (valid.rows id old before).counted delta
  · subst asked
    rw [same]
    exact (newRoom_valid sound made).counted 1
  · subst asked
    rw [same]
    exact (valid.rows _ old effect.found).apply env sound.1 sound.2

theorem createRoom_honoured {env : Env} {subject : Subject} {req : CreateRoomRequest} (store : Store database)
    (known : Known req.visibility) :
    Honoured (some req.visibility) (env.idgen 0) store (createRoom env subject req store) := by
  rcases createRoom_cases env subject req store with ⟨err, same⟩ | ⟨room, _, after, made, same, effect⟩
  · exact Or.inl ⟨err, same⟩
  · refine Or.inr ⟨Tables.countedRoom room 1, ?_, ?_⟩
    · rw [same, ← (newRoom_fields made).1]
      exact effect.here
    · intro visibility asked chosen
      cases asked
      obtain ⟨_, _, _, _, stored⟩ := newRoom_name made
      change room.visibility.toInt32 = _
      rw [stored, if_neg]
      · exact known.narrow
      · exact known.chosen chosen

theorem updateRoom_honoured {env : Env} {subject : Subject} {req : UpdateRoomRequest} {store : Store database}
    (keyed : Keyed store) (known : ∀ visibility, req.visibility = some visibility → Known visibility) :
    Honoured req.visibility req.id store (updateRoom env subject req store) := by
  rcases updateRoom_cases keyed env subject req with ⟨err, same⟩ | ⟨row, _, after, same, effect⟩
  · exact Or.inl ⟨err, same⟩
  · refine Or.inr ⟨req.apply env row, ?_, ?_⟩
    · rw [same]
      exact effect.here
    · intro visibility asked chosen
      rw [apply_visibility, asked]
      dsimp only
      rw [if_pos ((known visibility asked).chosen chosen)]
      exact (known visibility asked).narrow

/-- In a run of sound requests every stored room is valid after every request, and
every visibility is honoured. -/
theorem rooms_valid_of_sound (events : List (Env × Request)) (sound : ∀ event ∈ events, Sound event) :
    ∀ visit ∈ Machine.trace serve (fun _ => none) events,
      (∀ id row, Tables.room (serve visit.1 visit.2) id = some row → ValidRoom row) ∧ Answered visit.1 visit.2 := by
  intro visit visited
  have guarded : ∀ visit ∈ Machine.trace serve (fun _ => none) events, Sound visit.2 :=
    fun visit visited => sound visit.2 (Machine.trace_event visited)
  have initial : Valid fun _ => none := by
    constructor
    · intro id row impossible
      cases impossible
    · intro id row impossible
      cases impossible
  have valid := Machine.trace_of_guarded Valid (fun _ event => Sound event)
    (fun store event valid sound => valid.step sound) initial guarded visit visited
  refine ⟨(valid.step (guarded visit visited)).rows, ?_⟩
  obtain ⟨store, env, request⟩ := visit
  have asked := guarded _ visited
  cases request with
  | createRoom subject req => exact createRoom_honoured store asked
  | updateRoom subject req => exact updateRoom_honoured valid.keyed asked.1
  | _ => trivial

def create (visibility : Int32) : Env × Request :=
  (draws ["r1", "e1"], .createRoom ⟨"u1", .user⟩ { name := " den ", description := none, visibility, maxMembers := some 4 })

def setVisibility (visibility : Int32) : Env × Request :=
  (draws [], .updateRoom ⟨"u1", .user⟩
    { id := "r1", name := none, description := none, visibility := some visibility, maxMembers := none })

theorem valid_public_to_private :
    ∃ row, Tables.room (Machine.run serve (fun _ => none) [create 1, setVisibility 3]) "r1" = some row ∧ ValidRoom row := by
  have sound : ∀ event ∈ [create 1, setVisibility 3], Sound event := by
    refine List.forall_mem_cons.mpr ⟨Or.inr (Or.inl rfl), List.forall_mem_cons.mpr ⟨⟨?_, ?_⟩, List.forall_mem_nil _⟩⟩
    · intro visibility asked
      cases asked
      exact Or.inr (Or.inr (Or.inr rfl))
    · intro name impossible
      cases impossible
  have present : (Tables.room (Machine.run serve (fun _ => none) [create 1, setVisibility 3]) "r1").isSome := by decide +kernel
  obtain ⟨row, found⟩ := Option.isSome_iff_exists.mp present
  have last := (rooms_valid_of_sound _ sound _ (List.mem_cons_of_mem _ List.mem_cons_self)).1
  exact ⟨row, found, last "r1" row found⟩

/-- Visibility 259 is stored as PRIVATE. -/
theorem unknown_visibility_stored :
    ¬ ∀ (events : List (Env × Request)), ∀ visit ∈ Machine.trace serve (fun _ => none) events,
        (∀ id row, Tables.room (serve visit.1 visit.2) id = some row → ValidRoom row) ∧ Answered visit.1 visit.2 := by
  intro claim
  have answered := (claim [create 259] _ List.mem_cons_self).2
  have stored : (Tables.room (serve (fun _ => none) (create 259)) "r1").map Room.visibility = some 3 := by decide +kernel
  obtain ⟨row, found, visibility⟩ := Option.map_eq_some_iff.mp stored
  rcases answered with ⟨err, refused⟩ | ⟨other, there, honoured⟩
  · have nothing : Tables.room (serve (fun _ => none) (create 259)) "r1" = none :=
      congrArg (fun outcome => Tables.room outcome.2 "r1") refused
    rw [nothing] at found
    cases found
  · cases found.symm.trans there
    have asked := honoured 259 rfl (by decide)
    rw [visibility] at asked
    exact absurd asked (by decide)

/-! Private rooms. -/

/-- Every private room has a code that `invites.Get` resolves to it at any time. -/
def Joinable (store : Store database) : Prop :=
  ∀ id row, Tables.room store id = some row → row.requiresInvite → ∃ code, ∀ now, Tables.getInvite store code now = some id

/-- A room becomes private only if it has an invite. -/
def HasInvite (store : Store database) : Env × Request → Prop
  | (_, .updateRoom _ req) => req.visibility.map Int32.toInt8 = some visibilityPrivate →
      ∃ code, Tables.invite store code = some ⟨req.id, none⟩
  | _ => True

structure Reachable (store : Store database) : Prop where
  keyed : Keyed store
  invited : ∀ id row, Tables.room store id = some row → row.requiresInvite →
    ∃ code, Tables.invite store code = some ⟨id, none⟩

theorem Reachable.joinable {store : Store database} (reachable : Reachable store) : Joinable store := by
  intro id row found locked
  obtain ⟨code, held⟩ := reachable.invited id row found locked
  refine ⟨code, fun now => ?_⟩
  rw [Tables.getInvite, held]
  rfl

theorem Reachable.step {store : Store database} (reachable : Reachable store) {event : Env × Request}
    (guarded : HasInvite store event) : Reachable (serve store event) := by
  obtain ⟨env, request⟩ := event
  have moves := serve_moves reachable.keyed env request
  refine ⟨Keyed.step reachable.keyed moves, ?_⟩
  intro id row found locked
  have survives : ∀ code, Tables.invite store code = some ⟨id, none⟩ →
      Tables.invite (serve store (env, request)) code = some ⟨id, none⟩ := by
    intro code held
    apply moves.invite held
    rw [found]
    rfl
  rcases moves.origin found with ⟨old, delta, before, same⟩ | ⟨_, _, room, _, _, effect, here, same⟩ |
    ⟨_, req, old, asked, effect, here, same⟩
  · rw [same] at locked
    obtain ⟨code, held⟩ := reachable.invited id old before locked
    exact ⟨code, survives code held⟩
  · rw [same] at locked
    refine ⟨env.inviteCode, ?_⟩
    rw [effect.invites, if_pos ⟨Or.inl locked, rfl⟩, here]
  · subst asked here
    have before : ∃ code, Tables.invite store code = some ⟨req.id, none⟩ := by
      rw [same, Room.requiresInvite, apply_visibility] at locked
      split at locked
      · next given chosen =>
        split at locked
        · apply guarded
          rw [chosen]
          exact congrArg some (by simpa using locked)
        · exact reachable.invited _ old effect.found locked
      · exact reachable.invited _ old effect.found locked
    obtain ⟨code, held⟩ := before
    exact ⟨code, survives code held⟩

/-- In a run in which only rooms with an invite are made private by an update,
every private room can be joined after every request. -/
theorem private_rooms_joinable (events : List (Env × Request))
    (guarded : ∀ visit ∈ Machine.trace serve (fun _ => none) events, HasInvite visit.1 visit.2) :
    ∀ visit ∈ Machine.trace serve (fun _ => none) events, Joinable (serve visit.1 visit.2) := by
  intro visit visited
  have initial : Reachable fun _ => none := by
    constructor
    · intro id row impossible
      cases impossible
    · intro id row impossible
      cases impossible
  have reachable := Machine.trace_of_guarded Reachable HasInvite
    (fun store event reachable guarded => reachable.step guarded) initial guarded visit visited
  exact (reachable.step (guarded visit visited)).joinable

theorem unlisted_to_private : Joinable (Machine.run serve (fun _ => none) [create 2, setVisibility 3]) := by
  have guarded : ∀ visit ∈ Machine.trace serve (fun _ => none) [create 2, setVisibility 3], HasInvite visit.1 visit.2 := by
    refine List.forall_mem_cons.mpr ⟨trivial, List.forall_mem_cons.mpr ⟨?_, List.forall_mem_nil _⟩⟩
    intro _
    exact ⟨"code", by decide +kernel⟩
  exact private_rooms_joinable _ guarded _ (List.mem_cons_of_mem _ List.mem_cons_self)

/-- A public room that is made private has no code. -/
theorem public_to_private_locked :
    ¬ ∀ (events : List (Env × Request)), ∀ visit ∈ Machine.trace serve (fun _ => none) events,
        Joinable (serve visit.1 visit.2) := by
  intro claim
  have joinable := claim [create 1, setVisibility 3] _ (List.mem_cons_of_mem _ List.mem_cons_self)
  have locked : (Tables.room (Machine.run serve (fun _ => none) [create 1, setVisibility 3]) "r1").map Room.requiresInvite =
      some true := by decide +kernel
  obtain ⟨row, found, requires⟩ := Option.map_eq_some_iff.mp locked
  obtain ⟨code, resolves⟩ := joinable "r1" row found requires
  have nothing : Tables.getInvite (Machine.run serve (fun _ => none) [create 1, setVisibility 3]) code 0 = none := rfl
  exact absurd (nothing.symm.trans (resolves 0)) (by decide)

end VibeSync.Proofs.RoomValidity
