import VibeSync.Machine
import VibeSync.Providers.Service
import VibeSync.ReadThrough

/-! The resolution cache. An answer is kept under the reference that it carries and found
under the one that is asked for, so the two have to lead to the same media. -/

namespace VibeSync.Proofs.ProviderCache
open VibeSync.Providers Transaction

/-! Results. -/

theorem map_ok {ε α β : Type} {result : Except ε α} {g : α → β} {value : β} (mapped : result.map g = .ok value) :
    ∃ inner, result = .ok inner ∧ g inner = value := by
  cases result with
  | error problem => cases mapped
  | ok inner => exact ⟨inner, rfl, Except.ok.inj mapped⟩

theorem bind_ok {ε α β : Type} {first : Except ε α} {next : α → Except ε β} {value : β} (bound : first >>= next = .ok value) :
    ∃ middle, first = .ok middle ∧ next middle = .ok value := by
  cases first with
  | error problem => cases bound
  | ok middle => exact ⟨middle, rfl, bound⟩

theorem toOption_eq_some {ε α : Type} {result : Except ε α} {value : α} : result.toOption = some value ↔ result = .ok value := by
  cases result with
  | error problem => exact ⟨nofun, nofun⟩
  | ok other => exact ⟨fun same => congrArg _ (Option.some.inj same), fun same => congrArg _ (Except.ok.inj same)⟩

/-! What is asked of the cache. -/

/-- What the providers answer, once and for all; a provider may not be enabled. -/
structure Catalogue where
  spotify : Option (String → Except Err ResolvedMedia)
  youtube : Option (String → Except Err ResolvedMedia)

namespace Catalogue

def answer (f : Catalogue) (provider : ProviderName) (externalRef : String) : Except Err ResolvedMedia :=
  match provider with
  | .spotify => (f.spotify.getD fun _ => .error (disabled "spotify")) externalRef
  | .youtube => (f.youtube.getD fun _ => .error (disabled "youtube")) externalRef
  | .other _ => .error invalidProvider

/-- The media of a `Resolve` without a cache. -/
def direct (f : Catalogue) (provider : ProviderName) (externalRef : String) : Except Err ResolvedMedia :=
  (f.answer provider externalRef).map (fillPlayableURL provider)

theorem direct_ok {f : Catalogue} {provider : ProviderName} {externalRef : String} {media : ResolvedMedia}
    (resolved : f.direct provider externalRef = .ok media) :
    ∃ raw, f.answer provider externalRef = .ok raw ∧ fillPlayableURL provider raw = media :=
  map_ok resolved

end Catalogue

/-- A request, with the user token that is at hand for it. -/
structure Call extends ResolveRequest where
  token : Except Err String

def service (f : Catalogue) (call : Call) : Service where
  spotify := f.spotify.map fun answer externalRef _ => answer externalRef
  youtube := f.youtube
  getUserToken := fun _ _ => call.token

def perform (f : Catalogue) (call : Call) (store : Store database) : Except Err ResolvedMedia × Store database :=
  (service f call).resolveMedia call.toResolveRequest store

/-- The cache after a sequence of calls. -/
def after (f : Catalogue) (calls : List Call) : Store database :=
  Machine.run (fun store call => (perform f call store).2) (fun _ => none) calls

/-- After any calls, a media that is resolved looks like the one that is resolved without a cache. -/
def Transparent {ω : Type} (f : Catalogue) (see : ResolvedMedia → ω) : Prop :=
  ∀ calls call media store, perform f call (after f calls) = (.ok media, store) →
    ∃ direct, f.direct call.provider call.externalRef = .ok direct ∧ see direct = see media

/-- The same of the responses. -/
def ResponsesTransparent (f : Catalogue) : Prop :=
  ∀ calls call response store, (service f call).resolve call.toResolveRequest (after f calls) = (.ok response, store) →
    (f.direct call.provider call.externalRef).map resolveResponse = .ok response

/-- The reference under which an answer is kept leads to what the row is read back as. -/
def Coherent {ω : Type} (f : Catalogue) (see : ResolvedMedia → ω) : Prop :=
  ∀ provider slug externalRef media key row, providerSlug provider = .ok slug → externalRef ≠ "" →
    f.answer provider externalRef = .ok media → Tables.stored slug media = .ok (key, row) → key.externalRef ≠ "" →
    ∃ direct, f.direct provider key.externalRef = .ok direct ∧ see direct = see (fillPlayableURL provider (row.media key.externalRef))

/-! The two transactions. -/

section Transactions
variable {store : Store database} {slug externalRef : String}

theorem select_ok (key : CacheKey) : database.execute (.resolutionSelect key) store = .ok (store key, fun _ => none) := rfl

theorem get_hit {row : CacheRow} (kept : store ⟨slug, externalRef⟩ = some row) :
    (ResolutionCacheRepo.get slug externalRef).withTx store = (.ok (row.media externalRef), store) := by
  apply Program.withTx_of_ok
  apply (Program.exec_query (select_ok _)).trans
  rw [kept]
  rfl

theorem get_miss (missed : store ⟨slug, externalRef⟩ = none) :
    (ResolutionCacheRepo.get slug externalRef).withTx store =
      (.error (.missing "resolution" (slug ++ ":" ++ externalRef)), store) := by
  apply @Program.withTx_of_error database _ _ _ _ store
  apply (Program.exec_query (select_ok _)).trans
  rw [missed]
  rfl

theorem write_put (entry : CacheKey × CacheRow) :
    store.write (Tables.put entry) = Function.update store entry.1 (some entry.2) := by
  funext key
  by_cases same : key = entry.1
  · subst same
    rw [Function.update_self]
    exact Store.write_of_some (if_pos rfl) store
  · rw [Function.update_of_ne same]
    exact Store.write_of_none (if_neg same) store

theorem upsert_ok {media : ResolvedMedia} {entry : CacheKey × CacheRow} (fits : Tables.stored slug media = .ok entry) :
    (ResolutionCacheRepo.upsert slug media).withTx store = (.ok (), Function.update store entry.1 (some entry.2)) := by
  have executed : database.execute (.resolutionUpsert slug media) store = .ok ((), Tables.put entry) := by
    change (Tables.stored slug media).map _ = _
    rw [fits]
    rfl
  apply Program.withTx_of_ok
  rw [← write_put]
  exact Program.exec_query executed

theorem upsert_error {media : ResolvedMedia} {err : Err} (refused : Tables.stored slug media = .error err) :
    (ResolutionCacheRepo.upsert slug media).withTx store = (.error (.wrapped "resolution_cache_repo: upsert" err), store) := by
  have executed : database.execute (.resolutionUpsert slug media) store = .error err := by
    change (Tables.stored slug media).map _ = _
    rw [refused]
    rfl
  exact Program.withTx_of_error (Program.exec_query_error executed)

end Transactions

/-! What the providers are asked. -/

theorem ask_answer {f : Catalogue} {call : Call} {slug : String} {outcome : Except Err ResolvedMedia}
    (asked : (service f call).ask call.toResolveRequest slug = .ok outcome) : f.answer call.provider call.externalRef = outcome := by
  obtain ⟨⟨provider, externalRef, userID⟩, token⟩ := call
  obtain ⟨spotify, youtube⟩ := f
  unfold Service.ask at asked
  cases provider with
  | spotify =>
    cases spotify with
    | none => cases asked
    | some answer =>
      cases token with
      | error err =>
        dsimp only [service, Option.map_some] at asked
        split at asked
        · cases asked
        · exact Except.ok.inj asked
      | ok userToken =>
        dsimp only [service, Option.map_some] at asked
        split at asked <;> exact Except.ok.inj asked
  | youtube =>
    cases youtube with
    | none => cases asked
    | some answer => exact Except.ok.inj asked
  | other number => cases asked

theorem fetch_answer {f : Catalogue} {call : Call} {slug : String} {media : ResolvedMedia}
    (fetched : (service f call).fetch call.toResolveRequest slug = .ok media) :
    f.answer call.provider call.externalRef = .ok media := by
  unfold Service.fetch at fetched
  split at fetched
  · cases fetched
  · split at fetched <;> cases fetched
  next asked =>
    obtain rfl := Except.ok.inj fetched
    exact ask_answer asked

/-- A call for which no user token is needed. -/
def anonymous (provider : ProviderName) (externalRef : String) : Call := ⟨⟨provider, externalRef, ""⟩, .ok ""⟩

theorem fetch_anonymous {f : Catalogue} {provider : ProviderName} {externalRef : String} {media : ResolvedMedia}
    (answered : f.answer provider externalRef = .ok media) (slug : String) :
    (service f (anonymous provider externalRef)).fetch (anonymous provider externalRef).toResolveRequest slug = .ok media := by
  have asked : (service f (anonymous provider externalRef)).ask (anonymous provider externalRef).toResolveRequest slug = .ok (.ok media) := by
    rw [← answered]
    obtain ⟨spotify, youtube⟩ := f
    cases provider with
    | spotify =>
      cases spotify with
      | none => cases answered
      | some answer => rfl
    | youtube =>
      cases youtube with
      | none => cases answered
      | some answer => rfl
    | other number => cases answered
  unfold Service.fetch
  rw [asked]

/-! One call. -/

section Calls
variable {s : Service} {req : ResolveRequest} {slug : String} {store : Store database} (given : req.externalRef ≠ "")
  (known : providerSlug req.provider = .ok slug)
include given known

theorem resolve_hit {row : CacheRow} (kept : store ⟨slug, req.externalRef⟩ = some row) :
    s.resolveMedia req store = (.ok (fillPlayableURL req.provider (row.media req.externalRef)), store) := by
  unfold Service.resolveMedia
  simp only [if_neg given, known, get_hit kept]

section Misses
variable (missed : store ⟨slug, req.externalRef⟩ = none)
include missed

theorem resolve_failed {err : Err} (failed : s.fetch req slug = .error err) : s.resolveMedia req store = (.error err, store) := by
  unfold Service.resolveMedia
  simp only [if_neg given, known, get_miss missed, failed, isNotFound, not_true_eq_false, if_false]

theorem resolve_fetched {media : ResolvedMedia} {entry : CacheKey × CacheRow} (fetched : s.fetch req slug = .ok media)
    (fits : Tables.stored slug media = .ok entry) :
    s.resolveMedia req store = (.ok (fillPlayableURL req.provider media), Function.update store entry.1 (some entry.2)) := by
  unfold Service.resolveMedia
  simp only [if_neg given, known, get_miss missed, fetched, upsert_ok fits, isNotFound, not_true_eq_false, if_false]

theorem resolve_unkept {media : ResolvedMedia} {err : Err} (fetched : s.fetch req slug = .ok media)
    (refused : Tables.stored slug media = .error err) :
    s.resolveMedia req store = (.error (failedWith "RESOLVE_CACHE_WRITE_FAILED" (.wrapped "resolution_cache_repo: upsert" err)), store) := by
  unfold Service.resolveMedia
  simp only [if_neg given, known, get_miss missed, fetched, upsert_error refused, isNotFound, not_true_eq_false, if_false]

end Misses

end Calls

/-- A call fails and changes nothing, is answered from the cache, or is answered by the provider and kept. -/
theorem resolve_cases (s : Service) (req : ResolveRequest) (store : Store database) :
    (∃ err, s.resolveMedia req store = (.error err, store)) ∨
      ∃ slug, req.externalRef ≠ "" ∧ providerSlug req.provider = .ok slug ∧
        ((∃ row, store ⟨slug, req.externalRef⟩ = some row ∧
            s.resolveMedia req store = (.ok (fillPlayableURL req.provider (row.media req.externalRef)), store)) ∨
          ∃ media entry, store ⟨slug, req.externalRef⟩ = none ∧ s.fetch req slug = .ok media ∧ Tables.stored slug media = .ok entry ∧
            s.resolveMedia req store = (.ok (fillPlayableURL req.provider media), Function.update store entry.1 (some entry.2))) := by
  by_cases given : req.externalRef = ""
  · exact Or.inl ⟨_, if_pos given⟩
  cases known : providerSlug req.provider with
  | error err =>
    refine Or.inl ⟨err, ?_⟩
    unfold Service.resolveMedia
    rw [if_neg given, known]
  | ok slug =>
    cases kept : store ⟨slug, req.externalRef⟩ with
    | some row => exact Or.inr ⟨slug, given, rfl, Or.inl ⟨row, kept, resolve_hit given known kept⟩⟩
    | none =>
      cases fetched : s.fetch req slug with
      | error err => exact Or.inl ⟨err, resolve_failed given known kept fetched⟩
      | ok media =>
        cases fits : Tables.stored slug media with
        | error err => exact Or.inl ⟨_, resolve_unkept given known kept fetched fits⟩
        | ok entry => exact Or.inr ⟨slug, given, rfl, Or.inr ⟨media, entry, kept, fetched, fits, resolve_fetched given known kept fetched fits⟩⟩

/-! The cache as a read-through cache. -/

/-- The provider of a slug. -/
def named (slug : String) : ProviderName := if slug = "spotify" then .spotify else if slug = "youtube" then .youtube else .other 0

theorem named_slug {provider : ProviderName} {slug : String} (known : providerSlug provider = .ok slug) : named slug = provider := by
  cases provider with
  | spotify =>
    obtain rfl := Except.ok.inj known
    rfl
  | youtube =>
    obtain rfl := Except.ok.inj known
    rfl
  | other number => cases known

theorem stored_fill (slug : String) (provider : ProviderName) (media : ResolvedMedia) :
    Tables.stored slug (fillPlayableURL provider media) = Tables.stored slug media := by
  unfold fillPlayableURL
  split
  · rfl
  · cases provider <;> rfl

/-- The row of an answer, column by column. -/
theorem stored_ok {slug : String} {media : ResolvedMedia} {key : CacheKey} {row : CacheRow}
    (fits : Tables.stored slug media = .ok (key, row)) :
    key.provider = slug ∧ Tables.varchar 255 media.externalRef = .ok key.externalRef ∧ Tables.varchar 255 media.title = .ok row.title ∧
      Tables.varchar 255 media.artist = .ok row.artist ∧ row.coverURL = media.coverURL ∧ row.durationMs = media.durationMs := by
  obtain ⟨externalRef, ref_fits, rest⟩ := bind_ok fits
  obtain ⟨title, title_fits, rest⟩ := bind_ok rest
  obtain ⟨artist, artist_fits, rest⟩ := bind_ok rest
  cases rest
  exact ⟨rfl, ref_fits, title_fits, artist_fits, rfl, rfl⟩

def design (f : Catalogue) : ReadThrough.Design CacheKey CacheRow ResolvedMedia where
  asked key := (∃ provider, providerSlug provider = .ok key.provider) ∧ key.externalRef ≠ ""
  source key := (f.direct (named key.provider) key.externalRef).toOption
  keep key media := (Tables.stored key.provider media).toOption
  rebuild key row := fillPlayableURL (named key.provider) (row.media key.externalRef)

section Simulation
variable {f : Catalogue} {store : Store database}

theorem source_eq {provider : ProviderName} {slug externalRef : String} (known : providerSlug provider = .ok slug) (media : ResolvedMedia) :
    (design f).source ⟨slug, externalRef⟩ = some media ↔ f.direct provider externalRef = .ok media := by
  change (f.direct (named slug) externalRef).toOption = _ ↔ _
  rw [named_slug known, toOption_eq_some]

/-- Every answer of the service is one of the design. -/
theorem perform_answers {call : Call} {media : ResolvedMedia} {next : Store database}
    (performed : perform f call store = (.ok media, next)) :
    ∃ slug, call.externalRef ≠ "" ∧ providerSlug call.provider = .ok slug ∧
      ReadThrough.Answers (design f) store ⟨slug, call.externalRef⟩ media next := by
  rcases resolve_cases (service f call) call.toResolveRequest store with
    ⟨err, failed⟩ | ⟨slug, given, known, ⟨row, kept, hit⟩ | ⟨fetched, entry, missed, answered, fits, kept⟩⟩
  · cases failed.symm.trans performed
  · cases hit.symm.trans performed
    refine ⟨slug, given, known, ?_⟩
    rw [← named_slug known]
    exact .hit kept
  · cases kept.symm.trans performed
    refine ⟨slug, given, known, .fetched missed ?_ ?_⟩
    · rw [source_eq known, Catalogue.direct, fetch_answer answered]
      rfl
    · exact toOption_eq_some.mpr ((stored_fill slug _ fetched).trans fits)

theorem perform_error {call : Call} {err : Err} {next : Store database} (performed : perform f call store = (.error err, next)) :
    next = store := by
  rcases resolve_cases (service f call) call.toResolveRequest store with
    ⟨err, failed⟩ | ⟨slug, given, known, ⟨row, kept, hit⟩ | ⟨fetched, entry, missed, answered, fits, kept⟩⟩
  · cases failed.symm.trans performed
    rfl
  · cases hit.symm.trans performed
  · cases kept.symm.trans performed

/-- Every answer of the design is given to a call of the service. -/
theorem answers_performed {provider : ProviderName} {slug externalRef : String} {media : ResolvedMedia} {next : Store database}
    (given : externalRef ≠ "") (known : providerSlug provider = .ok slug)
    (answered : ReadThrough.Answers (design f) store ⟨slug, externalRef⟩ media next) :
    perform f (anonymous provider externalRef) store = (.ok media, next) := by
  cases answered with
  | @hit row kept =>
    change _ = (Except.ok (fillPlayableURL (named slug) (row.media externalRef)), store)
    rw [named_slug known]
    exact @resolve_hit _ (anonymous provider externalRef).toResolveRequest slug store given known row kept
  | @fetched _ entry missed found keeps =>
    obtain ⟨raw, answered, rfl⟩ := Catalogue.direct_ok ((source_eq known _).mp found)
    have fits := (stored_fill slug provider raw).symm.trans (toOption_eq_some.mp keeps)
    exact @resolve_fetched _ (anonymous provider externalRef).toResolveRequest slug store given known missed raw entry
      (fetch_anonymous answered slug) fits

/-- The states of the design are those of the table after calls. -/
theorem reachable_iff : ReadThrough.Reachable (design f) store ↔ ∃ calls, store = after f calls := by
  constructor
  · intro reachable
    induction reachable with
    | start => exact ⟨[], rfl⟩
    | @step rows next key media before asked answered ih =>
      obtain ⟨calls, rfl⟩ := ih
      obtain ⟨⟨provider, known⟩, given⟩ := asked
      have performed := answers_performed given known answered
      refine ⟨calls ++ [anonymous provider key.externalRef], ?_⟩
      rw [after, Machine.run_append]
      exact (congrArg Prod.snd performed).symm
  · rintro ⟨calls, rfl⟩
    apply Machine.run_invariant (ReadThrough.Reachable (design f)) _ .start
    intro rows call reachable
    cases performed : perform f call rows with
    | mk result next =>
      cases result with
      | error err => exact perform_error performed ▸ reachable
      | ok media =>
        obtain ⟨slug, given, known, answered⟩ := perform_answers performed
        exact reachable.step ⟨⟨call.provider, known⟩, given⟩ answered

variable {ω : Type} {see : ResolvedMedia → ω}

theorem transparent_design : ReadThrough.Transparent (design f) see ↔ Transparent f see := by
  constructor
  · intro transparent calls call media next performed
    obtain ⟨slug, given, known, answered⟩ := perform_answers performed
    obtain ⟨direct, found, same⟩ := transparent _ _ _ _ (reachable_iff.mpr ⟨calls, rfl⟩) ⟨⟨call.provider, known⟩, given⟩ answered
    exact ⟨direct, (source_eq known direct).mp found, same⟩
  · intro transparent rows key media next reachable asked answered
    obtain ⟨calls, rfl⟩ := reachable_iff.mp reachable
    obtain ⟨⟨provider, known⟩, given⟩ := asked
    obtain ⟨direct, found, same⟩ := transparent calls _ media next (answers_performed given known answered)
    exact ⟨direct, (source_eq known direct).mpr found, same⟩

theorem coherent_design : ReadThrough.Coherent (design f) see ↔ Coherent f see := by
  constructor
  · intro coherent provider slug externalRef media key row known given answered fits key_given
    obtain ⟨rfl, -⟩ := stored_ok fits
    have found : (design f).source ⟨key.provider, externalRef⟩ = some (fillPlayableURL provider media) := by
      rw [source_eq known, Catalogue.direct, answered]
      rfl
    have keeps := toOption_eq_some.mpr ((stored_fill key.provider provider media).trans fits)
    obtain ⟨direct, source, same⟩ := coherent ⟨key.provider, externalRef⟩ _ (key, row) ⟨⟨provider, known⟩, given⟩ found keeps
      ⟨⟨provider, known⟩, key_given⟩
    change see direct = see (fillPlayableURL (named key.provider) (row.media key.externalRef)) at same
    rw [named_slug known] at same
    exact ⟨direct, (source_eq known direct).mp source, same⟩
  · intro coherent key media entry asked found keeps entry_asked
    obtain ⟨⟨provider, known⟩, given⟩ := asked
    obtain ⟨raw, answered, rfl⟩ := Catalogue.direct_ok ((source_eq known _).mp found)
    have fits := (stored_fill key.provider provider raw).symm.trans (toOption_eq_some.mp keeps)
    have entry_known : providerSlug provider = .ok entry.1.provider := by rw [(stored_ok fits).1, known]
    obtain ⟨direct, source, same⟩ := coherent provider _ _ raw entry.1 entry.2 known given answered fits entry_asked.2
    refine ⟨direct, (source_eq entry_known direct).mpr source, ?_⟩
    change see direct = see (fillPlayableURL (named entry.1.provider) (entry.2.media entry.1.externalRef))
    rwa [named_slug entry_known]

end Simulation

theorem transparent_iff_coherent {ω : Type} (f : Catalogue) (see : ResolvedMedia → ω) : Transparent f see ↔ Coherent f see := by
  rw [← transparent_design, ReadThrough.transparent_iff, coherent_design]

theorem responses_transparent_iff (f : Catalogue) : ResponsesTransparent f ↔ Transparent f resolveResponse := by
  constructor
  · intro transparent calls call media store performed
    have resolved : (service f call).resolve call.toResolveRequest (after f calls) = (.ok (resolveResponse media), store) :=
      congrArg (fun outcome => (outcome.1.map resolveResponse, outcome.2)) performed
    exact map_ok (transparent calls call _ _ resolved)
  · intro transparent calls call response store resolved
    obtain ⟨media, performed, rfl⟩ := map_ok (congrArg Prod.fst resolved)
    obtain ⟨direct, found, same⟩ := transparent calls call media _ (Prod.ext performed rfl)
    rw [found, ← same]
    rfl

/-- The cache is transparent exactly if every answer is found again under the reference
that it is kept under: for the whole media, and for what the response shows of it. -/
theorem cache_transparent_iff (f : Catalogue) :
    (Transparent f id ↔ Coherent f id) ∧ (ResponsesTransparent f ↔ Coherent f resolveResponse) :=
  ⟨transparent_iff_coherent f id, (responses_transparent_iff f).trans (transparent_iff_coherent f resolveResponse)⟩

/-! A reference that leads to another track. -/

def relinking : SpotifyClient where
  getClientCredentialsToken := .ok "app"
  track := fun _ externalRef =>
    if externalRef = "old" then .came 200 "" (.ok ⟨"new", "Live", ["Band"], [], 200000⟩)
    else if externalRef = "new" then .came 200 "" (.ok ⟨"new", "Studio", ["Band"], [], 180000⟩)
    else .came 404 "" (.error (.plain "no body"))

def relinked : Catalogue := ⟨some fun externalRef => relinking.resolve externalRef "", none⟩

/-- The answer for the old reference is served for the new one. -/
theorem relinked_not_transparent : ¬ Transparent relinked id ∧ ¬ ResponsesTransparent relinked := by
  have served : perform relinked (anonymous .spotify "new") (after relinked [anonymous .spotify "old"]) =
      (.ok ⟨"new", "Live", "Band", "", "https://open.spotify.com/track/new", 200000⟩, after relinked [anonymous .spotify "old"]) := rfl
  have asked : relinked.direct .spotify "new" =
      .ok ⟨"new", "Studio", "Band", "", "https://open.spotify.com/track/new", 180000⟩ := rfl
  constructor
  · intro transparent
    obtain ⟨direct, resolved, same⟩ := transparent _ _ _ _ served
    cases asked.symm.trans resolved
    exact absurd (congrArg ResolvedMedia.title same) (by decide)
  · rw [responses_transparent_iff]
    intro transparent
    obtain ⟨direct, resolved, same⟩ := transparent _ _ _ _ served
    cases asked.symm.trans resolved
    exact absurd (congrArg ResolveResponse.title same) (by decide)

/-! Providers that answer with the reference they were asked for. -/

/-- Answers that carry the reference and its URL, and fit into their columns. -/
structure Faithful (f : Catalogue) (provider : ProviderName) : Prop where
  sameRef : ∀ externalRef media, f.answer provider externalRef = .ok media → media.externalRef = externalRef
  rebuilt : ∀ externalRef media, f.answer provider externalRef = .ok media →
    fillPlayableURL provider media = fillPlayableURL provider { media with playableURL := "" }
  fits : ∀ externalRef media, f.answer provider externalRef = .ok media →
    externalRef.length ≤ 255 ∧ media.title.length ≤ 255 ∧ media.artist.length ≤ 255

theorem coherent_of_faithful {ω : Type} {f : Catalogue} (faithful : ∀ provider, Faithful f provider) (see : ResolvedMedia → ω) :
    Coherent f see := by
  intro provider slug externalRef media key row known given answered fits key_given
  obtain ⟨sameRef, rebuilt, short⟩ := faithful provider
  obtain rfl := sameRef _ _ answered
  obtain ⟨ref_short, title_short, artist_short⟩ := short _ _ answered
  obtain ⟨-, ref_kept, title_kept, artist_kept, cover, duration⟩ := stored_ok fits
  have sameKey : media.externalRef = key.externalRef := Except.ok.inj ((if_pos ref_short).symm.trans ref_kept)
  have sameTitle : media.title = row.title := Except.ok.inj ((if_pos title_short).symm.trans title_kept)
  have sameArtist : media.artist = row.artist := Except.ok.inj ((if_pos artist_short).symm.trans artist_kept)
  refine ⟨fillPlayableURL provider media, ?_, ?_⟩
  · rw [← sameKey, Catalogue.direct, answered]
    rfl
  · rw [rebuilt _ _ answered, CacheRow.media, ← sameKey, ← sameTitle, ← sameArtist, cover, duration]

theorem youtube_answers {c : YoutubeClient} {externalRef : String} {media : ResolvedMedia} (resolved : c.resolve externalRef = .ok media) :
    media.externalRef = externalRef ∧ media.playableURL = "https://www.youtube.com/watch?v=" ++ externalRef := by
  unfold YoutubeClient.resolve at resolved
  split at resolved
  · cases resolved
  · split at resolved
    · cases resolved
    · split at resolved
      · cases resolved
      · split at resolved <;> cases resolved
        exact ⟨rfl, rfl⟩

theorem youtube_rebuilt {media : ResolvedMedia} (canonical : media.playableURL = "https://www.youtube.com/watch?v=" ++ media.externalRef) :
    fillPlayableURL .youtube media = fillPlayableURL .youtube { media with playableURL := "" } := by
  have present : media.playableURL ≠ "" := by
    rw [canonical]
    intro empty
    exact absurd (String.append_eq_empty_iff.mp empty).1 (by decide)
  unfold fillPlayableURL
  rw [if_pos present, if_neg (not_not_intro rfl)]
  dsimp only
  rw [← canonical]

/-- Behind the cache, videos look as they do without it. -/
theorem youtube_transparent (c : YoutubeClient)
    (short : ∀ externalRef media, c.resolve externalRef = .ok media →
      externalRef.length ≤ 255 ∧ media.title.length ≤ 255 ∧ media.artist.length ≤ 255) :
    Transparent ⟨none, some c.resolve⟩ id := by
  rw [transparent_iff_coherent]
  apply coherent_of_faithful
  intro provider
  cases provider with
  | spotify => exact ⟨nofun, nofun, nofun⟩
  | youtube =>
    refine ⟨fun _ _ resolved => (youtube_answers resolved).1, fun externalRef media resolved => ?_, short⟩
    obtain ⟨rfl, canonical⟩ := youtube_answers resolved
    exact youtube_rebuilt canonical
  | other number => exact ⟨nofun, nofun, nofun⟩

end VibeSync.Proofs.ProviderCache
