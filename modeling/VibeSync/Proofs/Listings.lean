import VibeSync.Listings
import Mathlib.Data.List.Sort

/-! Paging through rooms, users and media items. A walk ends whatever the table holds, and
shows it all when one page does; the row that names a next page is on neither side of it. -/

namespace VibeSync.Proofs.Listings
open VibeSync.Listings
variable {ρ : Type} {id : ρ → String} {createdAt : ρ → Time} {matching : List ρ} {limit : Int}

/-- Following the cursors ends, after every matching row was listed once, latest first. -/
def VisitsOnce (createdAt : ρ → Time) (matching : List ρ) (list : String → List ρ × String) : Prop :=
  ∃ fuel pages, Keyset.walk list "" fuel "" = some pages ∧ pages.flatten.Perm matching ∧
    pages.flatten.Pairwise fun first second => createdAt second ≤ createdAt first

def Ends (list : String → List ρ × String) : Prop := ∃ fuel pages, Keyset.walk list "" fuel "" = some pages

theorem list_ends (plan : Keyset.Plan String createdAt) (id : ρ → String) (conds : ρ → Bool) (rows : List ρ) (limit : Int) :
    Ends (list plan id conds rows limit) :=
  Keyset.list_walk_ends plan id "" (pageLimit limit) (rows.filter conds)

theorem list_visits_iff (plan : Keyset.Plan String createdAt) (conds : ρ → Bool) (table : Table id) (limit : Int) :
    VisitsOnce createdAt (table.rows.filter conds) (list plan id conds table.rows limit) ↔
      (table.rows.filter conds).length ≤ pageLimit limit := by
  have unique : (table.rows.filter conds).Nodup := (List.Nodup.of_map id table.primaryKey).filter conds
  constructor
  · rintro ⟨fuel, pages, walked, visited⟩
    exact (Keyset.walk_visits_iff unique walked).mp visited
  · intro room
    obtain ⟨fuel, pages, walked⟩ := list_ends plan id conds table.rows limit
    exact ⟨fuel, pages, walked, (Keyset.walk_visits_iff unique walked).mpr room⟩

/-- Every listing can be paged to its end, and shows each matching row once, latest first, exactly when the
matching rows fit on one page. -/
theorem paging_visits_iff (lower fold : Char → Char) (limit : Int) (search : String) (visibilities : List Rooms.RoomVisibility)
    (rooms : Table Rooms.Room.id) (roomPlan : Keyset.Plan String Rooms.Room.createdAt)
    (users : Table Users.User.id) (userPlan : Keyset.Plan String Users.User.createdAt)
    (items : Table Media.MediaItem.id) (mediaPlan : Keyset.Plan String Media.MediaItem.createdAt) :
    (Ends (Rooms.RoomRepo.list roomPlan lower fold rooms.rows limit search visibilities) ∧
      (VisitsOnce Rooms.Room.createdAt (rooms.rows.filter (Rooms.RoomRepo.listConds lower fold search visibilities))
          (Rooms.RoomRepo.list roomPlan lower fold rooms.rows limit search visibilities) ↔
        (rooms.rows.filter (Rooms.RoomRepo.listConds lower fold search visibilities)).length ≤ pageLimit limit)) ∧
    (Ends (Users.UserRepo.list userPlan fold users.rows limit search) ∧
      (VisitsOnce Users.User.createdAt (users.rows.filter (Users.UserRepo.listConds fold search))
          (Users.UserRepo.list userPlan fold users.rows limit search) ↔
        (users.rows.filter (Users.UserRepo.listConds fold search)).length ≤ pageLimit limit)) ∧
    (Ends (Media.MediaRepo.list mediaPlan lower fold items.rows limit search) ∧
      (VisitsOnce Media.MediaItem.createdAt (items.rows.filter (Media.MediaRepo.listConds lower fold search))
          (Media.MediaRepo.list mediaPlan lower fold items.rows limit search) ↔
        (items.rows.filter (Media.MediaRepo.listConds lower fold search)).length ≤ pageLimit limit)) :=
  ⟨⟨list_ends roomPlan .., list_visits_iff roomPlan _ rooms limit⟩,
    ⟨list_ends userPlan .., list_visits_iff userPlan _ users limit⟩,
    ⟨list_ends mediaPlan .., list_visits_iff mediaPlan _ items limit⟩⟩

/-- Ids rise with the creation times, as those of one generator do. -/
def Rising (createdAt : ρ → Time) (table : Table id) : Prop :=
  ∀ first ∈ table.rows, ∀ second ∈ table.rows, createdAt first ≤ createdAt second → id first ≤ id second

/-- The ids on the pages of a walk fall, whatever the table holds at each of its queries. -/
def Falls (id : ρ → String) (list : List ρ → String → List ρ × String) (tables : List (Table id)) : Prop :=
  (Keyset.walkOver list "" (tables.map Table.rows) "").flatten.Pairwise fun first second => id second < id first

theorem walkOver_filter (list : List ρ → String → List ρ × String) (conds : ρ → Bool) (tables : List (List ρ)) (cursor : String) :
    Keyset.walkOver (fun rows => list (rows.filter conds)) "" tables cursor =
      Keyset.walkOver list "" (tables.map (List.filter conds)) cursor := by
  induction tables generalizing cursor with
  | nil => rfl
  | cons rows later ih => simp only [Keyset.walkOver, List.map_cons, ih]

theorem list_falls (plan : Keyset.Plan String createdAt) (conds : ρ → Bool) (limit : Int) {tables : List (Table id)}
    (rising : ∀ table ∈ tables, Rising createdAt table) : Falls id (fun rows => list plan id conds rows limit) tables := by
  have dated : ∀ rows ∈ (tables.map Table.rows).map (List.filter conds), Keyset.Dated id createdAt rows := by
    intro rows member
    obtain ⟨_, there, rfl⟩ := List.mem_map.mp member
    obtain ⟨table, here, rfl⟩ := List.mem_map.mp there
    exact ⟨table.primaryKey.sublist (List.filter_sublist.map id), fun first firstHeld second secondHeld =>
      rising table here first (List.mem_of_mem_filter firstHeld) second (List.mem_of_mem_filter secondHeld)⟩
  have falls := (Keyset.walkOver_falls plan "" (pageLimit limit) dated "").1
  rw [← walkOver_filter] at falls
  exact falls

/-- Rows of one time in the order in which they are stored. -/
def stable (createdAt : ρ → Time) : Keyset.Plan String createdAt where
  sort _ rows := rows.insertionSort fun first second => createdAt second ≤ createdAt first
  perm _ rows := List.perm_insertionSort _ rows
  latestFirst _ rows := by
    have : Std.Total fun first second : ρ => createdAt second ≤ createdAt first := ⟨fun first second => Int.le_total ..⟩
    have : IsTrans ρ fun first second : ρ => createdAt second ≤ createdAt first := ⟨fun _ _ _ upper lower => Int.le_trans lower upper⟩
    exact List.pairwise_insertionSort _ rows

def older : Rooms.Room := ⟨"01A", "older", "older", "", Rooms.visibilityPublic, "u1", 50, 1, 1, 1⟩

def newer : Rooms.Room := ⟨"01B", "newer", "newer", "", Rooms.visibilityPublic, "u1", 50, 1, 2, 2⟩

def oldest : Rooms.Room := ⟨"01", "oldest", "oldest", "", Rooms.visibilityPublic, "u1", 50, 1, 0, 0⟩

/-- With one room on a page, the older of two rooms is on no page. -/
theorem older_skipped :
    Keyset.walk (Rooms.RoomRepo.list (stable _) Char.toLower Char.toLower [older, newer] 1 "" [Rooms.visibilityPublic]) "" 2 "" =
      some [[newer], []] ∧
    ¬ VisitsOnce Rooms.Room.createdAt [older, newer]
      (Rooms.RoomRepo.list (stable _) Char.toLower Char.toLower [older, newer] 1 "" [Rooms.visibilityPublic]) := by
  constructor
  · decide
  · intro visits
    have room := (list_visits_iff (stable _) (Rooms.RoomRepo.listConds Char.toLower Char.toLower "" [Rooms.visibilityPublic])
      ⟨[older, newer], by decide⟩ 1).mp visits
    exact absurd room (by decide)

end VibeSync.Proofs.Listings
