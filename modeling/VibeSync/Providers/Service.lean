import VibeSync.Errors
import VibeSync.Transaction

/-! The Provider service: the adapters of the two providers, the `resolution_cache`
table with its repository, and the use case `Resolve`. -/

namespace VibeSync.Providers
open Transaction

/-- An open enumeration, of which two values are in use. -/
inductive ProviderName where
  | spotify
  | youtube
  | other (number : Int32)
  deriving DecidableEq, Repr

structure ResolvedMedia where
  externalRef : String
  title : String
  artist : String
  coverURL : String
  playableURL : String := ""
  durationMs : Int64
  deriving DecidableEq, Repr

/-! The adapters. -/

/-- How a request to a provider came out. `decoded` is what its body parses to. -/
inductive Answer (β : Type) where
  | failed (err : Err)
  | came (status : Nat) (snippet : String) (decoded : Except Err β)

structure Track where
  id : String
  name : String
  artists : List String
  images : List String
  durationMs : Int64

structure SpotifyClient where
  getClientCredentialsToken : Except Err String
  /-- The track at a reference, asked for with a token. -/
  track : String → String → Answer Track

def artistName (artists : List String) : String := artists.headD ""

def coverURL (images : List String) : String := images.headD ""

def Track.media (t : Track) : ResolvedMedia :=
  { externalRef := t.id, title := t.name, artist := artistName t.artists, coverURL := coverURL t.images
    playableURL := "https://open.spotify.com/track/" ++ t.id, durationMs := t.durationMs }

def SpotifyClient.resolve (c : SpotifyClient) (externalRef userToken : String) : Except Err ResolvedMedia := do
  let token ← if userToken = "" then c.getClientCredentialsToken else .ok userToken
  match c.track token externalRef with
  | .failed err => .error err
  | .came status snippet decoded =>
    if status = 404 then .error (.missing "spotify track" externalRef)
    else if status ≠ 200 then .error (.plain ("spotify: track: status " ++ toString status ++ ": " ++ snippet))
    else match decoded with
      | .error err => .error (.wrapped "spotify: track decode" err)
      | .ok t =>
        if t.id = "" then .error (.missing "spotify track" externalRef) else .ok t.media

structure OembedResponse where
  title : String
  authorName : String
  thumbnailURL : String

/-- A request for the description of a video. -/
structure YoutubeClient where
  oembed : String → Answer OembedResponse

def YoutubeClient.resolve (c : YoutubeClient) (externalRef : String) : Except Err ResolvedMedia :=
  match c.oembed externalRef with
  | .failed err => .error err
  | .came status snippet decoded =>
    if status = 400 ∨ status = 401 ∨ status = 403 ∨ status = 404 then .error (.missing "youtube video" externalRef)
    else if status ≠ 200 then .error (.plain ("youtube: status " ++ toString status ++ ": " ++ snippet))
    else match decoded with
      | .error err => .error (.wrapped "youtube: decode" err)
      | .ok parsed => .ok
        { externalRef, title := parsed.title, artist := parsed.authorName, coverURL := parsed.thumbnailURL
          playableURL := "https://www.youtube.com/watch?v=" ++ externalRef, durationMs := 0 }

/-! The table. -/

structure CacheKey where
  provider : String
  externalRef : String
  deriving DecidableEq, Repr

structure CacheRow where
  title : String
  artist : String
  coverURL : String
  durationMs : Int64
  deriving DecidableEq, Repr

inductive Statement where
  | resolutionSelect (key : CacheKey)
  | resolutionUpsert (provider : String) (m : ResolvedMedia)

@[reducible] def Reply : Statement → Type
  | .resolutionSelect _ => Option CacheRow
  | .resolutionUpsert _ _ => Unit

abbrev View : Type := CacheKey → Option CacheRow

abbrev Changes : Type := CacheKey → Option (Option CacheRow)

namespace Tables

/-- The value of a column `VARCHAR(limit)`: blanks that find no room are cut off. -/
def varchar (limit : Nat) (text : String) : Except Err String :=
  if text.length ≤ limit then .ok text
  else if (text.toList.drop limit).all (· = ' ') then .ok (String.ofList (text.toList.take limit))
  else .error (.plain ("ERROR: value too long for type character varying(" ++ toString limit ++ ") (SQLSTATE 22001)"))

/-- The row that an upsert writes. -/
def stored (provider : String) (m : ResolvedMedia) : Except Err (CacheKey × CacheRow) := do
  let externalRef ← varchar 255 m.externalRef
  let title ← varchar 255 m.title
  let artist ← varchar 255 m.artist
  return (⟨provider, externalRef⟩, ⟨title, artist, m.coverURL, m.durationMs⟩)

def put (entry : CacheKey × CacheRow) : Changes := fun key => if key = entry.1 then some (some entry.2) else none

def execute : (statement : Statement) → View → Except Err (Reply statement × Changes)
  | .resolutionSelect key, view => .ok (view key, fun _ => none)
  | .resolutionUpsert provider m, _ => (stored provider m).map fun entry => ((), put entry)

end Tables

abbrev database : Database where
  Key := CacheKey
  Row := fun _ => CacheRow
  Error := Err
  Statement := Statement
  Reply := Reply
  execute := Tables.execute

abbrev Tx (α : Type) : Type := Program database Err α

/-- A row read back. The playable URL is not kept. -/
def CacheRow.media (row : CacheRow) (externalRef : String) : ResolvedMedia :=
  { externalRef, title := row.title, artist := row.artist, coverURL := row.coverURL, durationMs := row.durationMs }

namespace ResolutionCacheRepo

def sql (statement : Statement) (context : String) : Tx (Reply statement) :=
  @Program.query database Err statement (Err.wrapped context)

def get (provider externalRef : String) : Tx ResolvedMedia := do
  match ← (sql (.resolutionSelect ⟨provider, externalRef⟩) "resolution_cache_repo: get" : Tx (Option CacheRow)) with
  | some row => return row.media externalRef
  | none => Program.fail (.missing "resolution" (provider ++ ":" ++ externalRef))

def upsert (provider : String) (m : ResolvedMedia) : Tx Unit :=
  (sql (.resolutionUpsert provider m) "resolution_cache_repo: upsert" :)

end ResolutionCacheRepo

/-! The use case. -/

/-- What the handlers call. A provider that is not enabled is missing. -/
structure Service where
  spotify : Option (String → String → Except Err ResolvedMedia)
  youtube : Option (String → Except Err ResolvedMedia)
  getUserToken : String → String → Except Err String

structure ResolveRequest where
  provider : ProviderName
  externalRef : String
  /-- The header that names the caller; empty without one. -/
  userID : String
  deriving DecidableEq, Repr

structure ResolveResponse where
  title : String
  artist : String
  coverURL : String
  durationMs : UInt64
  playableURL : String
  deriving DecidableEq, Repr

def invalidProvider : Err :=
  .invalidArgumentFor "vibesync.provider" "INVALID_PROVIDER" "provider must be PROVIDER_NAME_SPOTIFY or PROVIDER_NAME_YOUTUBE"

def providerSlug : ProviderName → Except Err String
  | .spotify => .ok "spotify"
  | .youtube => .ok "youtube"
  | .other _ => .error invalidProvider

def fillPlayableURL (p : ProviderName) (m : ResolvedMedia) : ResolvedMedia :=
  if m.playableURL ≠ "" then m
  else match p with
    | .spotify => { m with playableURL := "https://open.spotify.com/track/" ++ m.externalRef }
    | .youtube => { m with playableURL := "https://www.youtube.com/watch?v=" ++ m.externalRef }
    | .other _ => m

def resolveResponse (m : ResolvedMedia) : ResolveResponse :=
  { title := m.title, artist := m.artist, coverURL := m.coverURL, durationMs := m.durationMs.toUInt64, playableURL := m.playableURL }

/-- `errors.Is` with the sentinel of the ports. -/
def isNotFound : Err → Bool
  | .missing _ _ => true
  | .wrapped _ cause => isNotFound cause
  | _ => false

def disabled (slug : String) : Err :=
  .failedPrecondition "vibesync.provider" "PROVIDER_DISABLED" (slug ++ " provider is not enabled")

def failedWith (reason : String) (err : Err) : Err := (Err.internal reason err.text).withCause (some err)

/-- The answer of the provider, with its own errors inside those of the call. -/
def Service.ask (s : Service) (req : ResolveRequest) (slug : String) : Except Err (Except Err ResolvedMedia) :=
  match req.provider with
  | .spotify =>
    match s.spotify with
    | none => .error (disabled "spotify")
    | some resolve =>
      if req.userID ≠ "" then
        match s.getUserToken req.userID slug with
        | .error err => .error (failedWith "USER_TOKEN_FETCH_FAILED" err)
        | .ok userToken => .ok (resolve req.externalRef userToken)
      else .ok (resolve req.externalRef "")
  | .youtube =>
    match s.youtube with
    | none => .error (disabled "youtube")
    | some resolve => .ok (resolve req.externalRef)
  | .other _ => .error invalidProvider

def Service.fetch (s : Service) (req : ResolveRequest) (slug : String) : Except Err ResolvedMedia :=
  match s.ask req slug with
  | .error err => .error err
  | .ok (.error err) =>
    if isNotFound err then .error (.notFound (slug ++ " media") req.externalRef) else .error (failedWith "RESOLVE_FAILED" err)
  | .ok (.ok media) => .ok media

/-- The media that `Resolve` answers with, before it is turned into the response. -/
def Service.resolveMedia (s : Service) (req : ResolveRequest) (store : Store database) : Except Err ResolvedMedia × Store database :=
  if req.externalRef = "" then
    (.error (.invalidArgumentFor "vibesync.provider" "MISSING_EXTERNAL_REF" "external_ref is required"), store)
  else match providerSlug req.provider with
    | .error err => (.error err, store)
    | .ok slug =>
      match (ResolutionCacheRepo.get slug req.externalRef).withTx store with
      | (.ok cached, store) => (.ok (fillPlayableURL req.provider cached), store)
      | (.error err, store) =>
        if ¬ isNotFound err then (.error (failedWith "RESOLVE_CACHE_READ_FAILED" err), store)
        else match s.fetch req slug with
          | .error err => (.error err, store)
          | .ok media =>
            match (ResolutionCacheRepo.upsert slug media).withTx store with
            | (.error err, store) => (.error (failedWith "RESOLVE_CACHE_WRITE_FAILED" err), store)
            | (.ok (), store) => (.ok (fillPlayableURL req.provider media), store)

def Service.resolve (s : Service) (req : ResolveRequest) (store : Store database) : Except Err ResolveResponse × Store database :=
  ((s.resolveMedia req store).1.map resolveResponse, (s.resolveMedia req store).2)

end VibeSync.Providers
