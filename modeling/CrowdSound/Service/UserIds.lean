import CrowdSound.Service.CSServiceInterface

/-!
# The user ids of the requests

The id of a user is generated when it is first asked for and kept in the user defaults. Every
method that identifies the user asks for it before it calls the stub; one of them then sends
another message.
-/

namespace CrowdSound

open CSServiceInterface

/-- A call of the service interface, or a restart of the application, which keeps the user
defaults. -/
inductive ServiceCall where
  | getSessionData
  | getSongQueue
  | getIsPlaying
  | sendSongs (songs : List Song)
  | voteForSong (songName artist : NSString) (like : Bool)
  | voteToSkip
  | voteForArtist (artist : NSString) (value : Bool)
  | getTrendingArtists
  | restart
  deriving DecidableEq

namespace ServiceCall

/-- Make a call; the result are the ids in the requests handed to the stub. -/
def sentUserIds : ServiceCall → StateM Device (List NSString)
  | getSongQueue => do
    let rpc ← CSServiceInterface.getSongQueue
    return rpc.requestsWriter.map (·.userId)
  | getIsPlaying => do
    let rpc ← CSServiceInterface.getIsPlaying
    return rpc.requestsWriter.map (·.userId)
  | sendSongs songs => do
    let rpc ← CSServiceInterface.sendSongs (ρ := Unit) songs
    return rpc.requestsWriter.map (·.userId)
  | voteForSong songName artist like => do
    let rpc ← CSServiceInterface.voteForSong (ρ := Unit) songName artist like
    return rpc.requestsWriter.map (·.userId)
  | voteToSkip => do
    let rpc ← CSServiceInterface.voteToSkip (ρ := Unit)
    return rpc.requestsWriter.map (·.userId)
  | voteForArtist artist value => do
    let rpc ← CSServiceInterface.voteForArtist (ρ := Unit) artist value
    return rpc.requestsWriter.map (·.userId)
  | getSessionData | getTrendingArtists | restart => return []

def session : List ServiceCall → StateM Device (List NSString)
  | [] => return []
  | call :: calls => do
    let sent ← call.sentUserIds
    let rest ← session calls
    return sent ++ rest

def identifiedRequests : ServiceCall → Nat
  | getSongQueue | getIsPlaying | voteForSong _ _ _ | voteToSkip | voteForArtist _ _ => 1
  | sendSongs songs => songs.length
  | getSessionData | getTrendingArtists | restart => 0

def carriedId (call : ServiceCall) (device : Device) : NSString :=
  if call = getIsPlaying then [] else device.userId

/-- Every request of a call carries the id of the device, but for the one of `getIsPlaying`; a
call with a request has stored the id. -/
theorem sentUserIds_run (call : ServiceCall) (device : Device) :
    call.sentUserIds.run device =
      (List.replicate call.identifiedRequests (call.carriedId device),
        if call.identifiedRequests = 0 then device else device.withUserId) := by
  cases call with
  | sendSongs songs =>
      have hids : (songs.map (postSongRequest device.userId)).map (·.userId) =
          List.replicate songs.length device.userId := by
        rw [List.map_map]
        exact List.map_const'
      rw [sentUserIds, CSServiceInterface.sendSongs, stateM_run_bind, stateM_run_bind,
        mapM_getUserId_run]
      refine Prod.ext hids ?_
      simp only [identifiedRequests, List.length_eq_zero_iff]
      rfl
  | getSessionData => rfl
  | getTrendingArtists => rfl
  | restart => rfl
  | getSongQueue =>
      rw [sentUserIds, CSServiceInterface.getSongQueue, stateM_run_bind, stateM_run_bind,
        getUserId_run]
      rfl
  | getIsPlaying =>
      rw [sentUserIds, CSServiceInterface.getIsPlaying, stateM_run_bind, stateM_run_bind,
        getUserId_run]
      rfl
  | voteForSong songName artist like =>
      rw [sentUserIds, CSServiceInterface.voteForSong, stateM_run_bind, stateM_run_bind,
        getUserId_run]
      rfl
  | voteToSkip =>
      rw [sentUserIds, CSServiceInterface.voteToSkip, stateM_run_bind, stateM_run_bind,
        getUserId_run]
      rfl
  | voteForArtist artist value =>
      rw [sentUserIds, CSServiceInterface.voteForArtist, stateM_run_bind, stateM_run_bind,
        getUserId_run]
      rfl

theorem carriedId_withUserId (call : ServiceCall) (device : Device) :
    call.carriedId device.withUserId = call.carriedId device := rfl

private theorem session_run (calls : List ServiceCall) (device : Device) :
    (session calls).run device =
      (calls.flatMap fun call => List.replicate call.identifiedRequests (call.carriedId device),
        if calls.all (fun call => call.identifiedRequests = 0) then device
          else device.withUserId) := by
  induction calls generalizing device with
  | nil => rfl
  | cons call calls ih =>
      rw [session, stateM_run_bind, sentUserIds_run]
      by_cases hzero : call.identifiedRequests = 0
      · have hrest := ih device
        simp only [hzero, if_true, List.flatMap_cons, List.all_cons, decide_true, Bool.true_and,
          List.replicate_zero, List.nil_append]
        rw [← hrest]
        rfl
      · have hrest := ih device.withUserId
        simp only [carriedId_withUserId, Device.withUserId_withUserId, ite_self] at hrest
        simp only [hzero, if_false, List.flatMap_cons, List.all_cons, decide_false,
          Bool.false_and, Bool.false_eq_true]
        rw [stateM_run_bind, hrest]
        rfl

end ServiceCall

/-- A device after the installation; an UUID is never empty. -/
def Device.installed (uuids : Nat → {uuid : NSString // uuid ≠ []}) : Device where
  storedId := none
  generated := 0
  uuid n := (uuids n).val

/-- All requests of a session carry one non-empty id, the stored one, generated at most once. -/
def OneUserId (device : Device) (calls : List ServiceCall) : Prop :=
  ∃ userId ≠ [],
    (∀ sent ∈ ((ServiceCall.session calls).run device).1, sent = userId) ∧
    (((ServiceCall.session calls).run device).1 ≠ [] →
      ((ServiceCall.session calls).run device).2.storedId = some userId) ∧
    ((ServiceCall.session calls).run device).2.generated ≤ device.generated + 1

/-- One user has one id in every session, restarts included, in which `getIsPlaying` is not
called. -/
theorem oneUserId_iff (uuids : Nat → {uuid : NSString // uuid ≠ []}) (calls : List ServiceCall) :
    OneUserId (.installed uuids) calls ↔ .getIsPlaying ∉ calls := by
  unfold OneUserId
  rw [ServiceCall.session_run]
  dsimp only
  constructor
  · intro h hplaying
    obtain ⟨userId, hne, hall, _⟩ := h
    apply hne
    symm
    apply hall
    exact List.mem_flatMap.mpr ⟨.getIsPlaying, hplaying, List.mem_singleton_self _⟩
  · intro hnot
    have hcarried : ∀ call ∈ calls,
        call.carriedId (.installed uuids) = (Device.installed uuids).userId := by
      intro call hcall
      have hne : call ≠ .getIsPlaying := by
        intro hplaying
        exact hnot (hplaying ▸ hcall)
      exact if_neg hne
    refine ⟨(Device.installed uuids).userId, (uuids 0).property, ?_, ?_, ?_⟩
    · intro sent hsent
      obtain ⟨call, hcall, hmem⟩ := List.mem_flatMap.mp hsent
      rw [List.eq_of_mem_replicate hmem, hcarried call hcall]
    · intro hsome
      split
      next hnone =>
        have hempty : calls.flatMap (fun call => List.replicate call.identifiedRequests
            (call.carriedId (.installed uuids))) = [] := by
          apply List.flatMap_eq_nil_iff.mpr
          intro call hcall
          rw [of_decide_eq_true (List.all_eq_true.mp hnone call hcall), List.replicate_zero]
        exact absurd hempty hsome
      next => rfl
    · split
      · exact Nat.le_succ _
      · exact Nat.le_refl _

/-- `getIsPlaying` sends an empty id. -/
theorem getIsPlaying_emptyId :
    ¬ OneUserId (.installed fun n => ⟨nsstring ['u', 'u', 'i', 'd'] ++ List.replicate n 0,
      by simp [nsstring]⟩) [.getSongQueue, .getIsPlaying] := by
  intro h
  obtain ⟨userId, hne, hall, _⟩ := h
  exact hne (hall [] (by decide)).symm

end CrowdSound
