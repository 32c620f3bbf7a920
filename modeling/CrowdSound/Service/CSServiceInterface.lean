import CrowdSound.Library.OneShot
import CrowdSound.Service.GRXWriteable
import CrowdSound.Service.Messages

/-!
# The service interface

Each method builds its request, hands it to the service stub together with a response handler,
and returns the task that the handler completes. A method is modelled as the call it makes: the
requests it writes and the writeable that receives the responses. The responses of the voting and
song-posting methods are passed on unread, so their type is left open.
-/

namespace CrowdSound

/-- How a task ends. -/
inductive BFOutcome (α : Type) where
  | result (value : α)
  | error (error : NSError)
  deriving DecidableEq

/-- Completing a completed task raises an exception. -/
abbrev BFTaskCompletionSource (α : Type) := OneShot.Cell (BFOutcome α)

namespace BFTaskCompletionSource

variable {α : Type}

def complete (task : BFTaskCompletionSource α) (outcome : BFOutcome α) :
    Except NSException (BFTaskCompletionSource α) :=
  OneShot.Cell.complete .internalInconsistencyException task outcome

def setResult (task : BFTaskCompletionSource α) (value : α) :
    Except NSException (BFTaskCompletionSource α) := task.complete (.result value)

def setError (task : BFTaskCompletionSource α) (error : NSError) :
    Except NSException (BFTaskCompletionSource α) := task.complete (.error error)

end BFTaskCompletionSource

/-- A call on the service stub: `captured` is the state its response handler starts from. -/
structure RPC (Request Response σ : Type) where
  requestsWriter : List Request
  responsesWriteable : GRXWriteable Response σ
  captured : σ

/-- The state after the responses and the finish of a call were delivered. -/
def RPC.respond {Request Response σ : Type} (rpc : RPC Request Response σ)
    (responses : List Response) (errorOrNil : Option NSError) : Except NSException σ :=
  rpc.responsesWriteable.receiveSequence rpc.captured responses errorOrNil

/-- A call with a single response, as the generated stub starts it. -/
def singleResponseRPC {Request Response α : Type} (requests : List Request)
    (handler : GRXSingleHandler Response (BFTaskCompletionSource α)) :
    RPC Request Response (BFTaskCompletionSource α) where
  requestsWriter := requests
  responsesWriteable := .writeableWithSingleHandler (some handler)
  captured := .empty

/-- The user defaults under the key `id`, and the UUIDs the device will generate. -/
structure Device where
  storedId : Option NSString
  generated : Nat
  uuid : Nat → NSString

def getUserId : StateM Device NSString := do
  let device ← get
  match device.storedId with
  | some uuid => return uuid
  | none =>
    let uuid := device.uuid device.generated
    set { device with storedId := some uuid, generated := device.generated + 1 }
    return uuid

def Device.userId (device : Device) : NSString :=
  device.storedId.getD (device.uuid device.generated)

/-- A device that has been asked for its id keeps it. -/
def Device.withUserId (device : Device) : Device :=
  { device with
    storedId := some device.userId
    generated := match device.storedId with
      | some _ => device.generated
      | none => device.generated + 1 }

theorem getUserId_run (device : Device) :
    getUserId.run device = (device.userId, device.withUserId) := by
  rcases device with ⟨_ | uuid, generated, uuid'⟩ <;> rfl

@[simp] theorem Device.userId_withUserId (device : Device) :
    device.withUserId.userId = device.userId := rfl

@[simp] theorem Device.withUserId_withUserId (device : Device) :
    device.withUserId.withUserId = device.withUserId := rfl

theorem stateM_run_bind {σ α β : Type} (x : StateM σ α) (f : α → StateM σ β) (s : σ) :
    (x >>= f).run s = (f (x.run s).1).run (x.run s).2 := rfl

theorem mapM_getUserId_run {α β : Type} (f : NSString → α → β) (elements : List α)
    (device : Device) :
    (elements.mapM fun element => do
      let userId ← getUserId
      return f userId element).run device =
        (elements.map (f device.userId), if elements = [] then device else device.withUserId) := by
  induction elements generalizing device with
  | nil => rfl
  | cons element elements ih =>
      have hrest := ih device.withUserId
      simp only [Device.userId_withUserId, Device.withUserId_withUserId, ite_self] at hrest
      simp only [List.mapM_cons, bind_assoc, pure_bind, stateM_run_bind, getUserId_run, hrest]
      rfl

namespace CSServiceInterface

def getSessionData : RPC CSGetSessionDataRequest CSGetSessionDataResponse
    (BFTaskCompletionSource SessionData) :=
  singleResponseRPC [{}] fun response error task => match error with
    | some error => task.setError error
    | none => task.setResult
        { numberOfUsers := (response.map (·.numUsers)).getD 0
          sessionName := response.map (·.sessionName) }

/-- The id goes into a request that is dropped; a fresh message is sent. -/
def getIsPlaying : StateM Device (RPC CSGetPlayingRequest CSGetPlayingResponse
    (BFTaskCompletionSource NowPlayingSongItem)) := do
  let userId ← getUserId
  let _request : CSGetPlayingRequest := { userId }
  return singleResponseRPC [{}] fun response error task => match error with
    | none => match response with
      | some response => task.setResult
          { song := { name := response.name, artists := some [response.artist], genre := none }
            isPlaying := false
            isBuffered := false }
      | none => .error .invalidArgumentException
    | some error => task.setError error

/-- The handler of the methods that hand the response on as the task's result. -/
def passResponse {ρ : Type} : GRXSingleHandler ρ (BFTaskCompletionSource (Option ρ)) :=
  fun response error task => match error with
    | some error => task.setError error
    | none => task.setResult response

def postSongRequest (userId : NSString) (song : Song) : CSPostSongRequest where
  name := song.name
  artistArray := song.artists
  genre := song.genre
  userId := userId

def sendSongs {ρ : Type} (songs : List Song) :
    StateM Device (RPC CSPostSongRequest ρ (BFTaskCompletionSource (Option ρ))) := do
  let postSongRequests ← songs.mapM fun song => do
    let userId ← getUserId
    return postSongRequest userId song
  return singleResponseRPC postSongRequests passResponse

theorem sendSongs_requestsWriter {ρ : Type} (songs : List Song) (device : Device) :
    ((sendSongs (ρ := ρ) songs).run device).1.requestsWriter =
      songs.map (postSongRequest device.userId) := by
  rw [sendSongs, stateM_run_bind, mapM_getUserId_run]
  rfl

def voteForSong {ρ : Type} (songName artist : NSString) (like : Bool) :
    StateM Device (RPC CSVoteSongRequest ρ (BFTaskCompletionSource (Option ρ))) := do
  let userId ← getUserId
  return singleResponseRPC [{ name := songName, artist, userId, like }] passResponse

def voteToSkip {ρ : Type} :
    StateM Device (RPC CSVoteSkipRequest ρ (BFTaskCompletionSource (Option ρ))) := do
  let userId ← getUserId
  return singleResponseRPC [{ userId }] passResponse

def voteForArtist {ρ : Type} (artist : NSString) (value : Bool) :
    StateM Device (RPC CSVoteArtistRequest ρ (BFTaskCompletionSource (Option ρ))) := do
  let userId ← getUserId
  return singleResponseRPC [{ userId, artist, like := value }] passResponse

/-- What the handler of a streaming call captures: the objects collected so far and the task. -/
structure StreamCapture (α : Type) where
  collected : List α
  task : BFTaskCompletionSource (List α)

def StreamCapture.empty {α : Type} : StreamCapture α := ⟨[], .empty⟩

def songQueueItem (response : CSGetQueueResponse) : NowPlayingSongItem where
  song := { name := response.name, artists := some [response.artist], genre := none }
  isPlaying := response.isPlaying
  isBuffered := response.isBuffered

def getSongQueueHandler : GRXEventHandler CSGetQueueResponse (StreamCapture NowPlayingSongItem) :=
  fun done response error queue =>
    if done then
      match error with
      | none => do
        let task ← queue.task.setResult queue.collected
        return { queue with task }
      | some _ => .ok queue
    else
      match error with
      | some error => do
        let task ← queue.task.setError error
        return { queue with task }
      | none => match response with
        | some response =>
          .ok { queue with collected := queue.collected ++ [songQueueItem response] }
        | none => .error .invalidArgumentException

def getSongQueue : StateM Device (RPC CSGetQueueRequest CSGetQueueResponse
    (StreamCapture NowPlayingSongItem)) := do
  let userId ← getUserId
  return {
    requestsWriter := [{ userId }]
    responsesWriteable := .writeableWithEventHandler (some getSongQueueHandler)
    captured := .empty }

def trendingArtist (response : Option CSListTrendingArtistsResponse) : TrendingArtist where
  name := response.map (·.name)
  weight := (response.map (·.score)).getD 0

def getTrendingArtistsHandler :
    GRXEventHandler CSListTrendingArtistsResponse (StreamCapture TrendingArtist) :=
  fun done response error artists =>
    if done then do
      let task ← artists.task.setResult artists.collected
      return { artists with task }
    else
      match error with
      | some error => do
        let task ← artists.task.setError error
        return { artists with task }
      | none => .ok { artists with collected := artists.collected ++ [trendingArtist response] }

def getTrendingArtists : RPC CSListTrendingArtistsRequest CSListTrendingArtistsResponse
    (StreamCapture TrendingArtist) where
  requestsWriter := [{}]
  responsesWriteable := .writeableWithEventHandler (some getTrendingArtistsHandler)
  captured := .empty

end CSServiceInterface

end CrowdSound
