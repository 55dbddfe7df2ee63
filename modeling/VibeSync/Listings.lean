import VibeSync.Keyset
import VibeSync.Rooms.Domain
import VibeSync.Users.Domain
import Mathlib.Data.String.Basic

/-! The listings of rooms, users and media items: what the `List` statements of the three
Postgres repositories select, the size of a page and its cursor. The order of rows created
at one time is the database's, and so are `LOWER` and the case folding of `ILIKE`. -/

namespace VibeSync.Listings
variable {ρ : Type}

/-- The relation `text LIKE pattern` with its two wildcards and its escape. -/
def like : List Char → List Char → Bool
  | [], text => text.isEmpty
  | '%' :: pattern, text => (List.range (text.length + 1)).any fun skipped => like pattern (text.drop skipped)
  | '_' :: pattern, text => !text.isEmpty && like pattern text.tail
  | '\\' :: c :: pattern, text => text.head? == some c && like pattern text.tail
  | c :: pattern, text => text.head? == some c && like pattern text.tail

def ilike (fold : Char → Char) (text pattern : String) : Bool :=
  like (pattern.toList.map fold) (text.toList.map fold)

def pageLimit (limit : Int) : Nat := if limit ≤ 0 ∨ limit > 200 then 50 else limit.toNat

/-- The rows of a table with its primary key. -/
structure Table (id : ρ → String) where
  rows : List ρ
  primaryKey : (rows.map id).Nodup

/-- The statement of a listing: the matching rows with an id below the cursor by `created_at DESC`, one more than
the page holds. -/
def list {createdAt : ρ → Time} (plan : Keyset.Plan String createdAt) (id : ρ → String) (conds : ρ → Bool) (rows : List ρ)
    (limit : Int) (cursor : String) : List ρ × String :=
  Keyset.list plan id "" (pageLimit limit) (rows.filter conds) cursor

end VibeSync.Listings

namespace VibeSync.Rooms.RoomRepo
open Listings

def listConds (lower fold : Char → Char) (search : String) (visibilities : List RoomVisibility) (r : Room) : Bool :=
  (search == "" || ilike fold (toLower fold r.name) ("%" ++ toLower lower search ++ "%")) &&
    (visibilities.isEmpty || visibilities.contains r.visibility)

def list (plan : Keyset.Plan String Room.createdAt) (lower fold : Char → Char) (rows : List Room) (limit : Int) (search : String)
    (visibilities : List RoomVisibility) (cursor : String) : List Room × String :=
  Listings.list plan Room.id (listConds lower fold search visibilities) rows limit cursor

end VibeSync.Rooms.RoomRepo

namespace VibeSync.Users.UserRepo
open Listings

def listConds (fold : Char → Char) (search : String) (u : User) : Bool :=
  search == "" || ilike fold u.username ("%" ++ search ++ "%")

def list (plan : Keyset.Plan String User.createdAt) (fold : Char → Char) (rows : List User) (limit : Int) (search cursor : String) :
    List User × String :=
  Listings.list plan User.id (listConds fold search) rows limit cursor

end VibeSync.Users.UserRepo

namespace VibeSync.Media

abbrev MediaKind : Type := Int8

abbrev MediaSource : Type := Int8

structure MediaItem where
  id : String
  kind : MediaKind
  source : MediaSource
  externalRef : String
  title : String
  artist : String
  durationMs : Int64
  coverURL : String
  createdAt : Time
  deriving DecidableEq, Repr

namespace MediaRepo
open Listings

def listConds (lower fold : Char → Char) (search : String) (m : MediaItem) : Bool :=
  search == "" || ilike fold (toLower fold m.title) ("%" ++ toLower lower search ++ "%")

def list (plan : Keyset.Plan String MediaItem.createdAt) (lower fold : Char → Char) (rows : List MediaItem) (limit : Int)
    (search cursor : String) : List MediaItem × String :=
  Listings.list plan MediaItem.id (listConds lower fold search) rows limit cursor

end MediaRepo

end VibeSync.Media
