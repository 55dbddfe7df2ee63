import VibeSync.Errors
import VibeSync.Strings

/-! The entities and rules of the Room service. Roles and visibilities are open
enumerations, so they are integers of the source's widths. -/

namespace VibeSync.Rooms

abbrev RoomVisibility : Type := Int8

def visibilityUnspecified : RoomVisibility := 0
def visibilityPublic : RoomVisibility := 1
def visibilityUnlisted : RoomVisibility := 2
def visibilityPrivate : RoomVisibility := 3

abbrev RoomRole : Type := Int32

def roleUnspecified : RoomRole := 0
def roleMember : RoomRole := 2
def roleModerator : RoomRole := 3
def roleOwner : RoomRole := 4

structure Room where
  id : String
  slug : String
  name : String
  description : String
  visibility : RoomVisibility
  ownerID : String
  maxMembers : Int
  memberCount : Int
  createdAt : Time
  updatedAt : Time
  deriving DecidableEq, Repr

structure Member where
  roomID : String
  userID : String
  role : RoomRole
  joinedAt : Time
  deriving DecidableEq, Repr

def errRoomNameEmpty : Err := .plain "room: name must not be empty"

def errRoomNameTooLong : Err := .plain "room: name exceeds 100 characters"

def defaultMaxMembers : Int := 50
def maxRoomName : Nat := 100
def maxSlugLen : Nat := 64

/-- `unicode.ToLower` as far as a slug sees it: the letters outside ASCII whose
lower case is inside it are the Kelvin sign and the dotted capital I. -/
def lower (c : Char) : Char :=
  if c.toNat = 0x212a then 'k' else if c.toNat = 0x130 then 'i' else c.toLower

def isSlugChar (c : Char) : Bool := ('a' ≤ c && c ≤ 'z') || ('0' ≤ c && c ≤ '9')

/-- Each run of other characters becomes one dash. -/
def dashRuns (inRun : Bool) : List Char → List Char
  | [] => []
  | c :: rest =>
    if isSlugChar c then c :: dashRuns false rest
    else if inRun then dashRuns true rest
    else '-' :: dashRuns true rest

def slugAlphabet : List Char := "abcdefghijklmnopqrstuvwxyz0123456789".toList

def randomSlugSuffix (bytes : List UInt8) : List Char := bytes.map fun b => slugAlphabet.getD (b.toNat % slugAlphabet.length) 'a'

/-- `random` holds the bytes drawn for the suffix. -/
def generateSlug (random : List UInt8) (name : String) : String :=
  let dashed := dashRuns false ((trimSpace name).toList.map lower)
  let trimmed := (dashed.dropWhile (· = '-')).rdropWhile (· = '-')
  let s := if trimmed.length > maxSlugLen - 8 then trimmed.take (maxSlugLen - 9) else trimmed
  if s = [] then String.ofList (randomSlugSuffix random) else String.ofList (s ++ '-' :: randomSlugSuffix random)

structure NewRoomParams where
  name : String
  description : String
  visibility : RoomVisibility
  maxMembers : Option Int

def newRoom (now : Time) (id ownerID : String) (random : List UInt8) (p : NewRoomParams) : Except Err Room :=
  let name := trimSpace p.name
  if name = "" then .error errRoomNameEmpty
  else if name.utf8ByteSize > maxRoomName then .error errRoomNameTooLong
  else .ok
    { id, slug := generateSlug random name, name, description := trimSpace p.description
      visibility := if p.visibility = visibilityUnspecified then visibilityPublic else p.visibility
      ownerID
      maxMembers := match p.maxMembers with
        | some m => if m > 0 then m else defaultMaxMembers
        | none => defaultMaxMembers
      memberCount := 0, createdAt := now, updatedAt := now }

namespace Room

def isFull (r : Room) : Bool := r.memberCount ≥ r.maxMembers

def requiresInvite (r : Room) : Bool := r.visibility = visibilityPrivate

def renamed (r : Room) (random : List UInt8) : Option String → Room
  | some given =>
    if trimSpace given ≠ "" then { r with name := trimSpace given, slug := generateSlug random (trimSpace given) } else r
  | none => r

/-- An absent field, an empty name, visibility 0 and a capacity of 0 change nothing. -/
def applyUpdate (r : Room) (now : Time) (random : List UInt8) (name description : Option String)
    (visibility : Option RoomVisibility) (maxMembers : Option UInt32) : Room :=
  let named := r.renamed random name
  { named with
    description := match description with
      | some given => trimSpace given
      | none => named.description
    visibility := match visibility with
      | some given => if given ≠ visibilityUnspecified then given else named.visibility
      | none => named.visibility
    maxMembers := match maxMembers with
      | some given => if given > 0 then given.toNat else named.maxMembers
      | none => named.maxMembers
    updatedAt := now }

theorem renamed_fields (r : Room) (random : List UInt8) (name : Option String) :
    ∃ name' slug, r.renamed random name = { r with name := name', slug } := by
  cases name with
  | none => exact ⟨r.name, r.slug, rfl⟩
  | some given =>
    rw [renamed]
    split
    · exact ⟨_, _, rfl⟩
    · exact ⟨r.name, r.slug, rfl⟩

end Room

def canKick (byRole targetRole : RoomRole) : Bool :=
  if targetRole = roleOwner then false
  else if byRole = roleOwner then true
  else if byRole = roleModerator then targetRole < roleModerator
  else false

def canPromote (byRole newRole : RoomRole) : Bool :=
  if byRole ≠ roleOwner then false
  else if newRole = roleOwner ∨ newRole = roleUnspecified then false
  else true

/-! The control grants of a member as a bitmask, and the lists of wire values they
travel in. -/

abbrev Permissions : Type := UInt16

/-- The bit of a wire value. Other values have none. -/
def permByProto (value : Int32) : Permissions :=
  if value = 1 then 1
  else if value = 2 then 2
  else if value = 3 then 4
  else if value = 4 then 8
  else if value = 5 then 16
  else 0

def permissionsFromProto (values : List Int32) : Permissions :=
  values.foldl (fun out value => out ||| permByProto value) 0

def Permissions.toProto (p : Permissions) : List Int32 :=
  ([1, 2, 3, 4, 5] : List Int32).filter fun value => p &&& permByProto value ≠ 0

end VibeSync.Rooms
