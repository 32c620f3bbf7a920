import CrowdSound.Library.EventRun
import CrowdSound.Library.RequestTable
import CrowdSound.Scraper.SpotifyDataScraper

/-!
# Sending the music libraries

The view controller sends the songs of the phone and of Spotify. Pressing the button scrapes and
sends the phone library at once and opens the Spotify login; the authentication callback starts
the Spotify scrape, whose songs are sent when it ends. The two sent flags are set by blocks that
the completion of a send puts on the main queue.
-/

namespace CrowdSound

open RequestTable

structure MPMediaItem where
  title : NSString
  artist : Option NSString
  genre : Option NSString
  deriving DecidableEq

namespace NativeDataScraper

def mediaItemSong (mediaItem : MPMediaItem) : Song where
  name := mediaItem.title
  artists := mediaItem.artist.map fun artist => [artist]
  genre := mediaItem.genre

def sampleSong (name artist genre : String) : Song where
  name := nsstring name.toList
  artists := some [nsstring artist.toList]
  genre := some (nsstring genre.toList)

/-- `songsQuery` is the answer of the media library. -/
def scrapeMusicDataWithRealData (useRealData : Bool) (songsQuery : List MPMediaItem) :
    List Song :=
  if useRealData then
    songsQuery.map mediaItemSong
  else
    [sampleSong "Jumpman" "Drake" "Rap",
      sampleSong "From Time" "Drake" "Rap",
      sampleSong "Started From the Bottom" "Drake" "Rap",
      sampleSong "Take Care" "Drake" "Rap",
      sampleSong "Pour it Up" "Rihanna" "HipHop",
      sampleSong "Unfaithful" "Rihanna" "Stupid",
      sampleSong "House Party" "Meek Mill" "Rap",
      sampleSong "Jesus Walks" "Kanye West" "Rap"]

end NativeDataScraper

inductive Source where
  | phone
  | spotify
  deriving DecidableEq

/-- A `sendSongs:` call. -/
structure SongsRequest where
  source : Source
  songs : List Song
  deriving DecidableEq

/-- The blocks the completions put on the main queue. -/
inductive MessageBlock where
  | error (source : Source)
  | success (source : Source)
  deriving DecidableEq

structure SendMusicDataViewController where
  spotifyDataSent : Bool
  phoneDataSent : Bool
  deriving DecidableEq

/-- The controller, the main queue, and everything the controller has under way. -/
structure SendMusicState where
  controller : SendMusicDataViewController
  loginsOpened : Nat
  authCallbacks : Nat
  scrapes : Nat
  requests : List (Entry SongsRequest)
  mainQueue : List MessageBlock

inductive SendMusicEvent where
  | sendButton (musicAppSwitch spotifyAppSwitch : Bool) (songsQuery : List MPMediaItem)
  | openSpotifyURL (canHandleURL : Bool)
  | authCallback (error : Option NSError) (session : Option SPTSession)
  | scrapeCompleted (outcome : BFOutcome (List Song))
  | sendSongsCompleted (request : Nat) (error : Option NSError)
  | mainQueueBlock

namespace SendMusicState

/-- After `viewDidLoad`. -/
def init : SendMusicState := ⟨⟨false, false⟩, 0, 0, 0, [], []⟩

def sendSongs (s : SendMusicState) (source : Source) (songs : List Song) : SendMusicState :=
  { s with requests := issue s.requests ⟨source, songs⟩ }

def dispatchAsync (s : SendMusicState) (block : MessageBlock) : SendMusicState :=
  { s with mainQueue := s.mainQueue ++ [block] }

/-- The continuations of a send: the success block is also the one that sets the flag. -/
def sendEnded (s : SendMusicState) (source : Source) (error : Option NSError) : SendMusicState :=
  match error with
  | some _ => s.dispatchAsync (.error source)
  | none => s.dispatchAsync (.success source)

def scrapeEnded (s : SendMusicState) (outcome : BFOutcome (List Song)) : SendMusicState :=
  match SpotifyDataScraper.scrapeContinuation outcome with
  | some songs => s.sendSongs .spotify songs
  | none => s.dispatchAsync (.error .spotify)

/-- Without a session the scrape fails at once. -/
def scrapeAndSendSpotifyData (s : SendMusicState) (session : Option SPTSession) :
    SendMusicState :=
  match session with
  | none => s.scrapeEnded (.error ⟨SpotifyDataScraper.spotifyAuth, 1⟩)
  | some _ => { s with scrapes := s.scrapes + 1 }

def scrapeAndSendNativeMusicData (s : SendMusicState) (songsQuery : List MPMediaItem) :
    SendMusicState :=
  s.sendSongs .phone (NativeDataScraper.scrapeMusicDataWithRealData true songsQuery)

def authenticateWithSpotify (s : SendMusicState) : SendMusicState :=
  { s with loginsOpened := s.loginsOpened + 1 }

def sendButtonHandler (s : SendMusicState) (musicAppSwitch spotifyAppSwitch : Bool)
    (songsQuery : List MPMediaItem) : SendMusicState :=
  let s := if musicAppSwitch && !s.controller.phoneDataSent then
      s.scrapeAndSendNativeMusicData songsQuery
    else s
  if spotifyAppSwitch && !s.controller.spotifyDataSent then s.authenticateWithSpotify else s

/-- The error of the authentication is logged only. -/
def authCallback (s : SendMusicState) (_error : Option NSError) (session : Option SPTSession) :
    SendMusicState :=
  s.scrapeAndSendSpotifyData session

def runBlock (s : SendMusicState) (block : MessageBlock) : SendMusicState :=
  match block with
  | .error _ => s
  | .success .phone => { s with controller := { s.controller with phoneDataSent := true } }
  | .success .spotify => { s with controller := { s.controller with spotifyDataSent := true } }

def step (s : SendMusicState) (event : SendMusicEvent) : Except Stuck SendMusicState :=
  match event with
  | .sendButton musicAppSwitch spotifyAppSwitch songsQuery =>
    .ok (s.sendButtonHandler musicAppSwitch spotifyAppSwitch songsQuery)
  | .openSpotifyURL canHandleURL =>
    .ok (if canHandleURL then { s with authCallbacks := s.authCallbacks + 1 } else s)
  | .authCallback error session =>
    if s.authCallbacks = 0 then .error .notEnabled
    else .ok ({ s with authCallbacks := s.authCallbacks - 1 }.authCallback error session)
  | .scrapeCompleted outcome =>
    if s.scrapes = 0 then .error .notEnabled
    else .ok ({ s with scrapes := s.scrapes - 1 }.scrapeEnded outcome)
  | .sendSongsCompleted request error =>
    match settle s.requests request error.isNone with
    | none => .error .notEnabled
    | some (sent, requests) => .ok ({ s with requests }.sendEnded sent.source error)
  | .mainQueueBlock =>
    match s.mainQueue with
    | [] => .error .notEnabled
    | block :: mainQueue => .ok ({ s with mainQueue }.runBlock block)

def sent (s : SendMusicState) : Source → Bool
  | .phone => s.controller.phoneDataSent
  | .spotify => s.controller.spotifyDataSent

def starts (s : SendMusicState) : SendMusicEvent → Option Source
  | .sendButton musicAppSwitch _ _ =>
    if musicAppSwitch && !s.controller.phoneDataSent then some .phone else none
  | .scrapeCompleted (.result _) => some .spotify
  | _ => none

/-- A step starts a request, settles one, runs a block, or does none of this; then it queues no
success block. -/
inductive SendStep (s : SendMusicState) (event : SendMusicEvent) (s' : SendMusicState) : Prop where
  | sends (source : Source) (songs : List Song) (hstarts : s.starts event = some source)
      (hrequests : s'.requests = issue s.requests ⟨source, songs⟩)
      (hsent : s'.sent = s.sent) (hqueue : s'.mainQueue = s.mainQueue)
  | settles (request : SongsRequest) (i : Nat) (ok : Bool) (hstarts : s.starts event = none)
      (hrequests : settle s.requests i ok = some (request, s'.requests))
      (hsent : s'.sent = s.sent)
      (hqueue : s'.mainQueue =
        s.mainQueue ++ [if ok then .success request.source else .error request.source])
  | runs (block : MessageBlock) (hstarts : s.starts event = none)
      (hrequests : s'.requests = s.requests) (hqueue : s.mainQueue = block :: s'.mainQueue)
      (hsent : ∀ source, s'.sent source = true ↔ s.sent source = true ∨ block = .success source)
  | passes (hstarts : s.starts event = none) (hrequests : s'.requests = s.requests)
      (hsent : s'.sent = s.sent)
      (hqueue : ∀ source, .success source ∈ s'.mainQueue ↔ .success source ∈ s.mainQueue)

private theorem dispatchError_passes {s s' : SendMusicState} {event : SendMusicEvent}
    (source : Source) (hstarts : s.starts event = none) (hrequests : s'.requests = s.requests)
    (hsent : s'.sent = s.sent) (hqueue : s'.mainQueue = s.mainQueue ++ [.error source]) :
    SendStep s event s' := by
  refine .passes hstarts hrequests hsent ?_
  intro source'
  simp [hqueue]

private theorem openedLogin_fields (s : SendMusicState) (opens : Bool) :
    (if opens then s.authenticateWithSpotify else s).requests = s.requests ∧
      (if opens then s.authenticateWithSpotify else s).sent = s.sent ∧
      (if opens then s.authenticateWithSpotify else s).mainQueue = s.mainQueue := by
  cases opens <;> exact ⟨rfl, rfl, rfl⟩

private theorem sendButton_sendStep (s : SendMusicState) (musicAppSwitch spotifyAppSwitch : Bool)
    (songsQuery : List MPMediaItem) :
    SendStep s (.sendButton musicAppSwitch spotifyAppSwitch songsQuery)
      (s.sendButtonHandler musicAppSwitch spotifyAppSwitch songsQuery) := by
  unfold sendButtonHandler
  dsimp only
  by_cases hphone : (musicAppSwitch && !s.controller.phoneDataSent) = true
  · rw [if_pos hphone]
    obtain ⟨hrequests, hsent, hqueue⟩ := openedLogin_fields
      (s.scrapeAndSendNativeMusicData songsQuery)
      (spotifyAppSwitch && !(s.scrapeAndSendNativeMusicData songsQuery).controller.spotifyDataSent)
    exact .sends .phone _ (if_pos hphone) hrequests hsent hqueue
  · rw [if_neg hphone]
    obtain ⟨hrequests, hsent, hqueue⟩ := openedLogin_fields s
      (spotifyAppSwitch && !s.controller.spotifyDataSent)
    refine .passes (if_neg hphone) hrequests hsent ?_
    intro source
    rw [hqueue]

private theorem step_sendStep {s s' : SendMusicState} {event : SendMusicEvent}
    (hstep : s.step event = .ok s') : SendStep s event s' := by
  cases event with
  | sendButton musicAppSwitch spotifyAppSwitch songsQuery =>
      cases hstep
      exact sendButton_sendStep s musicAppSwitch spotifyAppSwitch songsQuery
  | openSpotifyURL canHandleURL =>
      cases hstep
      cases canHandleURL <;> exact .passes rfl rfl rfl (fun _ => Iff.rfl)
  | authCallback error session =>
      simp only [step] at hstep
      split at hstep
      · cases hstep
      · cases hstep
        cases session with
        | none => exact dispatchError_passes .spotify rfl rfl rfl rfl
        | some session => exact .passes rfl rfl rfl (fun _ => Iff.rfl)
  | scrapeCompleted outcome =>
      simp only [step] at hstep
      split at hstep
      · cases hstep
      · cases hstep
        cases outcome with
        | result songs => exact .sends .spotify songs rfl rfl rfl rfl
        | error error => exact dispatchError_passes .spotify rfl rfl rfl rfl
  | sendSongsCompleted request error =>
      simp only [step] at hstep
      split at hstep
      · cases hstep
      next sent requests hsettle =>
        cases hstep
        cases error with
        | none => exact .settles sent request true rfl hsettle rfl rfl
        | some error => exact .settles sent request false rfl hsettle rfl rfl
  | mainQueueBlock =>
      simp only [step] at hstep
      split at hstep
      · cases hstep
      next block mainQueue hqueue =>
        cases hstep
        have hsent : ∀ source, ({ s with mainQueue }.runBlock block).sent source = true ↔
            s.sent source = true ∨ block = .success source := by
          intro source
          rcases block with source' | ⟨_ | _⟩ <;> cases source <;> simp [runBlock, sent]
        refine .runs block rfl ?_ ?_ hsent
        · rcases block with source' | ⟨_ | _⟩ <;> rfl
        · rw [hqueue]
          rcases block with source' | ⟨_ | _⟩ <;> rfl

/-- A send has succeeded exactly when its flag is set or the block that will set it is queued. -/
def FlagsTrackSuccess (s : SendMusicState) : Prop :=
  ∀ source, HasStatus s.requests .succeeded (fun request => request.source = source) ↔
    s.sent source = true ∨ .success source ∈ s.mainQueue

private theorem init_flagsTrackSuccess : init.FlagsTrackSuccess := by
  intro source
  have hnone := hasStatus_nil (α := SongsRequest) .succeeded (fun request => request.source = source)
  cases source <;> simp [init, sent, hnone]

private theorem step_flagsTrackSuccess (s : SendMusicState) (event : SendMusicEvent)
    (s' : SendMusicState) (h : s.FlagsTrackSuccess) (hstep : s.step event = .ok s') :
    s'.FlagsTrackSuccess := by
  intro source
  have hs := h source
  cases step_sendStep hstep with
  | sends source' songs hstarts hrequests hsent hqueue =>
      rw [hrequests, hasStatus_issue, hsent, hqueue, ← hs]
      simp
  | settles request i ok hstarts hrequests hsent hqueue =>
      have hsucceeded := hasStatus_succeeded_settle hrequests (fun r => r.source = source)
      rw [hsucceeded, hs, hsent, hqueue]
      cases ok with
      | false => simp
      | true => simp [or_assoc, eq_comm (a := request.source)]
  | runs block hstarts hrequests hqueue hsent =>
      rw [hrequests, hs, hqueue, hsent, List.mem_cons, or_assoc, eq_comm (a := block)]
  | passes hstarts hrequests hsent hqueue => rw [hrequests, hsent, hqueue, hs]

/-- The requests a step adds to those before it. -/
def newRequests (s s' : SendMusicState) : List (Entry SongsRequest) :=
  s'.requests.drop s.requests.length

private theorem step_newRequests {s s' : SendMusicState} {event : SendMusicEvent}
    (hstep : s.step event = .ok s') :
    (newRequests s s').map (fun request => request.payload.source) =
      (s.starts event).toList := by
  unfold newRequests
  cases step_sendStep hstep with
  | sends source songs hstarts hrequests hsent hqueue =>
      rw [hrequests, hstarts, issue, List.drop_left]
      rfl
  | settles request i ok hstarts hrequests hsent hqueue =>
      have hlength : s'.requests.length = s.requests.length := by
        rw [← List.length_map Entry.payload, (settle_payloads hrequests).1, List.length_map]
      rw [hstarts, ← hlength, List.drop_length]
      rfl
  | runs block hstarts hrequests hqueue hsent =>
      rw [hrequests, hstarts, List.drop_length]
      rfl
  | passes hstarts hrequests hsent hqueue =>
      rw [hrequests, hstarts, List.drop_length]
      rfl

/-- A new request is started only after all earlier ones of its source have failed. -/
def NoResend (s : SendMusicState) (_event : SendMusicEvent) (s' : SendMusicState) : Prop :=
  ∀ new ∈ newRequests s s', ∀ old ∈ s.requests,
    old.payload.source = new.payload.source → old.status = .failed

/-- The controller has yet to learn the outcome of a send: it is unanswered, or the block that will
set the flag is waiting. -/
def OutcomePending (s : SendMusicState) (source : Source) : Prop :=
  HasStatus s.requests .inFlight (fun request => request.source = source) ∨
    .success source ∈ s.mainQueue

/-- A press with the phone switch on comes when the flag is set or no outcome is pending. The songs
of a Spotify scrape, which are sent whatever the flag says, come when it is not set and no outcome
is pending. -/
def SettledBefore (s : SendMusicState) : SendMusicEvent → SendMusicState → Prop
  | .sendButton true _ _, _ => s.sent .phone = true ∨ ¬ s.OutcomePending .phone
  | .scrapeCompleted (.result _), _ => s.sent .spotify = false ∧ ¬ s.OutcomePending .spotify
  | _, _ => True

private theorem settledBefore_iff_starts (s : SendMusicState) (event : SendMusicEvent)
    (s' : SendMusicState) :
    s.SettledBefore event s' ↔ ∀ source, s.starts event = some source →
      s.sent source = false ∧ ¬ s.OutcomePending source := by
  cases event with
  | sendButton musicAppSwitch spotifyAppSwitch songsQuery =>
      cases musicAppSwitch with
      | false => simp [SettledBefore, starts]
      | true =>
          have hflag : s.sent .phone = s.controller.phoneDataSent := rfl
          cases hsent : s.controller.phoneDataSent <;>
            simp [SettledBefore, starts, hflag, hsent]
  | scrapeCompleted outcome =>
      cases outcome with
      | result songs => simp [SettledBefore, starts]
      | error error => simp [SettledBefore, starts]
  | openSpotifyURL canHandleURL => simp [SettledBefore, starts]
  | authCallback error session => simp [SettledBefore, starts]
  | sendSongsCompleted request error => simp [SettledBefore, starts]
  | mainQueueBlock => simp [SettledBefore, starts]

private theorem noResend_iff_settledBefore (s : SendMusicState) (event : SendMusicEvent)
    (s' : SendMusicState) (h : s.FlagsTrackSuccess) (hstep : s.step event = .ok s') :
    s.NoResend event s' ↔ s.SettledBefore event s' := by
  have hnew := step_newRequests hstep
  have hsources : s.NoResend event s' ↔ ∀ source ∈ (s.starts event).toList,
      ∀ old ∈ s.requests, old.payload.source = source → old.status = .failed := by
    rw [← hnew, List.forall_mem_map]
    rfl
  rw [hsources, settledBefore_iff_starts]
  apply forall_congr'
  intro source
  rw [Option.mem_toList]
  apply imp_congr_right
  intro _
  rw [failed_iff s.requests (fun request => request.source = source), h source, not_or,
    Bool.not_eq_true, OutcomePending, not_or, and_left_comm]

/-- With every earlier send of a source failed, the phone library is sent again by the next press
and the Spotify library after the next press and login. -/
def CanRetry (s : SendMusicState) : Prop :=
  ((∀ old ∈ s.requests, old.payload.source = .phone → old.status = .failed) →
    ∀ spotifyAppSwitch songsQuery, ∃ s', s.step (.sendButton true spotifyAppSwitch songsQuery) =
      .ok s' ∧ s'.requests = issue s.requests
        ⟨.phone, NativeDataScraper.scrapeMusicDataWithRealData true songsQuery⟩) ∧
  ((∀ old ∈ s.requests, old.payload.source = .spotify → old.status = .failed) →
    ∀ songsQuery error session songs, ∃ s', EventRun.run step s
        [.sendButton false true songsQuery, .openSpotifyURL true,
          .authCallback error (some session), .scrapeCompleted (.result songs)] = .ok s' ∧
      s'.loginsOpened = s.loginsOpened + 1 ∧
        s'.requests = issue s.requests ⟨.spotify, songs⟩)

private theorem canRetry (s : SendMusicState) (h : s.FlagsTrackSuccess) : s.CanRetry := by
  have hflag : ∀ source, (∀ old ∈ s.requests, old.payload.source = source →
      old.status = .failed) → s.sent source = false := by
    intro source hfailed
    have hnone := ((failed_iff s.requests (fun request => request.source = source)).mp hfailed).2
    rw [h source, not_or, Bool.not_eq_true] at hnone
    exact hnone.1
  constructor
  · intro hfailed spotifyAppSwitch songsQuery
    have hphone : s.controller.phoneDataSent = false := hflag .phone hfailed
    refine ⟨_, rfl, ?_⟩
    rw [sendButtonHandler, (openedLogin_fields _ _).1, if_pos (by simp [hphone])]
    rfl
  · intro hfailed songsQuery error session songs
    have hspotify : s.controller.spotifyDataSent = false := hflag .spotify hfailed
    have hpress : s.step (.sendButton false true songsQuery) = .ok s.authenticateWithSpotify := by
      simp [step, sendButtonHandler, hspotify]
    simp only [EventRun.run, hpress]
    exact ⟨_, rfl, rfl, rfl⟩

/-- Along every run no library is sent again, while a send of it is in flight or after one has
succeeded, if and only if no press with the phone switch on comes before the outcome of the last
phone send has reached the flag, and no Spotify songs come after a send that did not fail; and a
library whose sends have all failed can be sent again from every state reached. -/
theorem sendMusic_noResend_iff (events : List SendMusicEvent) :
    (EventRun.EveryStep step NoResend init events ↔
      EventRun.EveryStep step SettledBefore init events) ∧
    ∀ s, EventRun.run step init events = .ok s → s.CanRetry := by
  constructor
  · exact EventRun.everyStep_congr step_flagsTrackSuccess noResend_iff_settledBefore
      init_flagsTrackSuccess events
  · intro s hrun
    apply canRetry
    exact EventRun.run_invariant (P := fun _ => True)
      (fun s event s' h _ hstep => step_flagsTrackSuccess s event s' h hstep)
      init_flagsTrackSuccess (fun _ _ => trivial) hrun

/-- Two presses in a row send the phone library twice. -/
theorem sendButton_twice :
    ¬ EventRun.EveryStep step NoResend init
      [.sendButton true false [], .sendButton true false []] := by
  intro h
  have hsecond := (h _ rfl).2 _ rfl
  have hfailed := hsecond.1 ⟨⟨.phone, []⟩, .inFlight⟩ (by decide) ⟨⟨.phone, []⟩, .inFlight⟩
    (by decide) rfl
  exact absurd hfailed (by decide)

end SendMusicState

end CrowdSound
