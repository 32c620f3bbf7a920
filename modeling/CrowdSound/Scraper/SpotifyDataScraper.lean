import CrowdSound.Service.CSServiceInterface

/-!
# The Spotify scraper

The saved tracks arrive as a chain of pages. The first fetch and the fetches of later pages are
handled by different code: the first reports its error, the later ones hand page and error on to
a method that looks at the page only. Every chain therefore ends in a single call of the final
callback, and only a failure of the first fetch reaches it as an error.
-/

namespace CrowdSound

open OneShot

structure SPTPartialArtist where
  name : NSString
  deriving DecidableEq

structure SPTSavedTrack where
  name : NSString
  artists : Option (List SPTPartialArtist)
  deriving DecidableEq

structure SPTListPage where
  items : List SPTSavedTrack
  hasNextPage : Bool
  deriving DecidableEq

structure SPTSession where
  accessToken : NSString
  deriving DecidableEq

/-- The arguments of the callback of one page fetch. -/
structure SPTReply where
  error : Option NSError
  object : Option SPTListPage
  deriving DecidableEq

/-- The replies that the successive page fetches with an access token are answered with. -/
abbrev SPTYourMusic := NSString → List SPTReply

structure FinalCall where
  error : Option NSError
  savedTracks : Option (List SPTSavedTrack)
  deriving DecidableEq

namespace SpotifyDataScraper

/-- The calls of the final callback; messages to a nil page answer nil and `NO`. -/
def didFetchListPageForSession (_error : Option NSError) (page : Option SPTListPage)
    (allItems : List SPTSavedTrack) (replies : List SPTReply) : List FinalCall :=
  let allItems := allItems ++ (page.map (·.items)).getD []
  if (page.map (·.hasNextPage)).getD false then
    match replies with
    | [] => []
    | reply :: replies => didFetchListPageForSession reply.error reply.object allItems replies
  else [{ error := none, savedTracks := some allItems }]

def fetchAllSavedTracksWithSession (music : SPTYourMusic) (session : SPTSession) :
    List FinalCall :=
  match music session.accessToken with
  | [] => []
  | reply :: replies => match reply.error with
    | some error => [{ error := some error, savedTracks := none }]
    | none => didFetchListPageForSession reply.error reply.object [] replies

def songObject (track : SPTSavedTrack) : Song where
  name := track.name
  artists := track.artists.map fun artistsArray => artistsArray.map (·.name)
  genre := none

def songObjectList (savedTracks : Option (List SPTSavedTrack)) : List Song :=
  (savedTracks.getD []).map songObject

def scrapeCallback (task : BFTaskCompletionSource (List Song)) (call : FinalCall) :
    Except NSException (BFTaskCompletionSource (List Song)) :=
  match call.error with
  | some error => task.setError error
  | none => task.setResult (songObjectList call.savedTracks)

def spotifyAuth : NSString :=
  nsstring ['S', 'p', 'o', 't', 'i', 'f', 'y', '-', 'A', 'u', 't', 'h']

def scrapeAllSpotifyFavourites (music : SPTYourMusic) (session : Option SPTSession) :
    Except NSException (BFTaskCompletionSource (List Song)) :=
  match session with
  | none => BFTaskCompletionSource.setError .empty ⟨spotifyAuth, 1⟩
  | some session =>
    EventRun.run scrapeCallback .empty (fetchAllSavedTracksWithSession music session)

/-- The first continuation of `scrapeAndSendSpotifyData`: the songs handed to `sendSongs:` when
the scrape ended, none when it ended with an error. -/
def scrapeContinuation : BFOutcome (List Song) → Option (List Song)
  | .result songs => some songs
  | .error _ => none

/-- The replies of a chain whose pages all announce a next page. -/
def fetchedPages (pages : List (List SPTSavedTrack)) : List SPTReply :=
  pages.map fun items => { error := none, object := some { items, hasNextPage := true } }

def failedFetch (error : NSError) : SPTReply := { error := some error, object := none }

def lastPage (items : List SPTSavedTrack) : SPTReply :=
  { error := none, object := some { items, hasNextPage := false } }

private theorem didFetch_last (reply : SPTReply)
    (hlast : (reply.object.map (·.hasNextPage)).getD false = false)
    (allItems : List SPTSavedTrack) (rest : List SPTReply) :
    didFetchListPageForSession reply.error reply.object allItems rest =
      [⟨none, some (allItems ++ (reply.object.map (·.items)).getD [])⟩] := by
  unfold didFetchListPageForSession
  simp [hlast]

private theorem didFetch_chain (reply : SPTReply)
    (hlast : (reply.object.map (·.hasNextPage)).getD false = false)
    (pages : List (List SPTSavedTrack)) (items allItems : List SPTSavedTrack)
    (rest : List SPTReply) :
    didFetchListPageForSession none (some ⟨items, true⟩) allItems
        (fetchedPages pages ++ reply :: rest) =
      [⟨none, some (allItems ++ items ++ pages.flatten ++
        (reply.object.map (·.items)).getD [])⟩] := by
  induction pages generalizing items allItems with
  | nil =>
      unfold didFetchListPageForSession
      have hend := didFetch_last reply hlast (allItems ++ items) rest
      simpa [fetchedPages] using hend
  | cons page pages ih =>
      unfold didFetchListPageForSession
      have hnext := ih page (allItems ++ items)
      simpa [fetchedPages] using hnext

private theorem fetchAll_chain (music : SPTYourMusic) (session : SPTSession)
    (pages : List (List SPTSavedTrack)) (reply : SPTReply) (rest : List SPTReply)
    (hlast : (reply.object.map (·.hasNextPage)).getD false = false)
    (hfirst : pages = [] → reply.error = none)
    (h : music session.accessToken = fetchedPages pages ++ reply :: rest) :
    fetchAllSavedTracksWithSession music session =
      [⟨none, some (pages.flatten ++ (reply.object.map (·.items)).getD [])⟩] := by
  unfold fetchAllSavedTracksWithSession
  rw [h]
  cases pages with
  | nil =>
      have hend := didFetch_last reply hlast [] rest
      simpa [fetchedPages, hfirst rfl] using hend
  | cons page pages =>
      have hchain := didFetch_chain reply hlast pages page [] rest
      simpa [fetchedPages] using hchain

private theorem scrape_of_call (music : SPTYourMusic) (session : SPTSession) (call : FinalCall)
    (h : fetchAllSavedTracksWithSession music session = [call]) :
    scrapeAllSpotifyFavourites music (some session) =
      scrapeCallback .empty call := by
  simp only [scrapeAllSpotifyFavourites, h, EventRun.run_singleton]

/-- The whole scrape fails: one final call, with the error; the task ends with it; and no songs
are handed to `sendSongs:`. -/
def WholeScrapeFails (music : SPTYourMusic) (session : SPTSession) (error : NSError) : Prop :=
  fetchAllSavedTracksWithSession music session = [⟨some error, none⟩] ∧
    ∃ outcome, CompletedOnceWith (scrapeAllSpotifyFavourites music (some session)) outcome ∧
      outcome = .error error ∧ scrapeContinuation outcome = none

/-- A failed page makes the whole scrape fail if and only if it is the first page. -/
theorem failedPage_failsWhole_iff (music : SPTYourMusic) (session : SPTSession)
    (pages : List (List SPTSavedTrack)) (error : NSError) (rest : List SPTReply)
    (h : music session.accessToken = fetchedPages pages ++ failedFetch error :: rest) :
    WholeScrapeFails music session error ↔ pages = [] := by
  constructor
  · intro hfails
    by_contra hpages
    have hcall := fetchAll_chain music session pages (failedFetch error) rest rfl
      (fun hnil => absurd hnil hpages) h
    have heq := hcall.symm.trans hfails.1
    simp at heq
  · intro hpages
    subst hpages
    have hcall : fetchAllSavedTracksWithSession music session = [⟨some error, none⟩] := by
      unfold fetchAllSavedTracksWithSession
      rw [h]
      rfl
    refine ⟨hcall, .error error, ?_, rfl, rfl⟩
    rw [scrape_of_call music session _ hcall]
    rfl

/-- One page, and the fetch of the second fails: the tracks of the first page are sent. -/
theorem failedPage_secondPage :
    ¬ WholeScrapeFails
      (fun _ => fetchedPages [[⟨nsstring ['a'], some [⟨nsstring ['b']⟩]⟩]] ++
        [failedFetch ⟨nsstring ['s', 'p', 't'], 9⟩]) ⟨nsstring ['t']⟩
      ⟨nsstring ['s', 'p', 't'], 9⟩ := by
  intro hfails
  exact absurd hfails.1 (by decide)

/-- The first page fails, or the one behind a page of one track. -/
theorem failedPage_failsWhole_firstOrSecondPage :
    let error : NSError := ⟨nsstring ['s', 'p', 't'], 9⟩
    let page : List SPTSavedTrack := [⟨nsstring ['a'], some [⟨nsstring ['b']⟩]⟩]
    WholeScrapeFails (fun _ => [failedFetch error]) ⟨nsstring ['t']⟩ error ∧
      ¬ WholeScrapeFails (fun _ => fetchedPages [page] ++ [failedFetch error]) ⟨nsstring ['t']⟩
        error := by
  intro error page
  have hfirst := failedPage_failsWhole_iff (fun _ => [failedFetch error]) ⟨nsstring ['t']⟩ []
    error [] rfl
  have hsecond := failedPage_failsWhole_iff (fun _ => fetchedPages [page] ++ [failedFetch error])
    ⟨nsstring ['t']⟩ [page] error [] rfl
  refine ⟨hfirst.mpr rfl, fun hfails => ?_⟩
  exact absurd (hsecond.mp hfails) (by simp)

/-- What a request says of the track it was built from. -/
def requestedTrack (request : CSPostSongRequest) : NSString × Option (List NSString) :=
  (request.name, request.artistArray)

def trackContent (track : SPTSavedTrack) : NSString × Option (List NSString) :=
  (track.name, track.artists.map fun artists => artists.map (·.name))

private theorem requestedTrack_songObject (userId : NSString) (tracks : List SPTSavedTrack) :
    ((tracks.map songObject).map (CSServiceInterface.postSongRequest userId)).map requestedTrack =
      tracks.map trackContent := by
  rw [List.map_map, List.map_map]
  rfl

/-- Over a complete chain the final callback is called once, the task ends with songs, and
`sendSongs:` writes one request for each track, in page order and then item order. -/
theorem completeChain_sendsEveryTrack {ρ : Type} (music : SPTYourMusic) (session : SPTSession)
    (pages : List (List SPTSavedTrack)) (last : List SPTSavedTrack) (rest : List SPTReply)
    (device : Device)
    (h : music session.accessToken = fetchedPages pages ++ lastPage last :: rest) :
    fetchAllSavedTracksWithSession music session = [⟨none, some (pages.flatten ++ last)⟩] ∧
      ∃ songs,
        CompletedOnceWith (scrapeAllSpotifyFavourites music (some session)) (.result songs) ∧
        scrapeContinuation (.result songs) = some songs ∧
        ((CSServiceInterface.sendSongs (ρ := ρ) songs).run device).1.requestsWriter.map
          requestedTrack = (pages.flatten ++ last).map trackContent := by
  have hcall := fetchAll_chain music session pages (lastPage last) rest rfl (fun _ => rfl) h
  refine ⟨hcall, (pages.flatten ++ last).map songObject, ?_, rfl, ?_⟩
  · rw [scrape_of_call music session _ hcall]
    rfl
  · rw [CSServiceInterface.sendSongs_requestsWriter]
    exact requestedTrack_songObject device.userId (pages.flatten ++ last)

/-- Two pages: the first with one track of two artists, the last with one of none. -/
theorem completeChain_twoPages :
    let pages : List (List SPTSavedTrack) :=
      [[⟨nsstring ['a'], some [⟨nsstring ['b']⟩, ⟨nsstring ['c']⟩]⟩]]
    let last : List SPTSavedTrack := [⟨nsstring ['d'], some []⟩]
    let music : SPTYourMusic := fun _ => fetchedPages pages ++ [lastPage last]
    fetchAllSavedTracksWithSession music ⟨nsstring ['t']⟩ = [⟨none, some (pages.flatten ++ last)⟩] ∧
      ∃ songs,
        CompletedOnceWith (scrapeAllSpotifyFavourites music (some ⟨nsstring ['t']⟩))
          (.result songs) ∧
        scrapeContinuation (.result songs) = some songs ∧
        ((CSServiceInterface.sendSongs (ρ := Unit) songs).run
          ⟨none, 0, fun _ => nsstring ['u']⟩).1.requestsWriter.map requestedTrack =
          (pages.flatten ++ last).map trackContent :=
  completeChain_sendsEveryTrack _ ⟨nsstring ['t']⟩ _ _ [] ⟨none, 0, fun _ => nsstring ['u']⟩ rfl

end SpotifyDataScraper

end CrowdSound
