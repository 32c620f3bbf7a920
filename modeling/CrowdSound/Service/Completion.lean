import CrowdSound.Service.CSServiceInterface
import CrowdSound.Service.GRXConcurrentWriteable

/-!
# Completion of the service tasks

A single handler makes one completion for every response and one for a finish with an error, so
its task is completed exactly once when there is exactly one of these. A streaming call completes
its task at the done event; whether it does so faithfully depends on the error of that event.
-/

namespace CrowdSound

open OneShot CSServiceInterface

theorem RPC.receive_sent {Request Response σ : Type} (rpc : RPC Request Response σ)
    (events : List (WrapperEvent Response)) :
    let sent := (events.foldl GRXConcurrentWriteable.step .initWithWriteable).sent
    (∃ values : List Response, sent = values.map .writeValue) ∨
      ∃ values errorOrNil, EventRun.run rpc.responsesWriteable.receive rpc.captured sent =
        rpc.respond values errorOrNil := by
  intro sent
  rcases GRXConcurrentWriteable.sent_shape events with hvalues | ⟨values, errorOrNil, hsent⟩
  · exact Or.inl hvalues
  · right
    refine ⟨values, errorOrNil, ?_⟩
    have hsequence : sent = GRXMessage.sequence values errorOrNil := hsent
    rw [hsequence]
    rfl

section Single

variable {Request Response α : Type}

/-- The completions a single handler makes for a sequence of responses and its finish. -/
def singleCompletions (outcome : Response → BFOutcome α) (responses : List Response)
    (errorOrNil : Option NSError) : List (BFOutcome α) :=
  responses.map outcome ++ errorOrNil.toList.map .error

private theorem singleResponse_respond (requests : List Request)
    (handler : GRXSingleHandler Response (BFTaskCompletionSource α))
    (outcome : Response → BFOutcome α)
    (hvalue : ∀ response task, handler (some response) none task = task.complete (outcome response))
    (herror : ∀ error task, handler none (some error) task = task.setError error)
    (responses : List Response) (errorOrNil : Option NSError) (t : BFTaskCompletionSource α) :
    (singleResponseRPC requests handler).respond responses errorOrNil = .ok t ↔
      EventRun.run BFTaskCompletionSource.complete .empty
        (singleCompletions outcome responses errorOrNil) = .ok t := by
  have hstep : (fun s response => GRXWriteable.receive
      (.writeableWithSingleHandler (some handler)) s (.writeValue response)) =
      fun task response => BFTaskCompletionSource.complete task (outcome response) := by
    funext task response
    exact hvalue response task
  rw [RPC.respond, GRXWriteable.receiveSequence_ok, singleCompletions, EventRun.run_append_ok]
  apply exists_congr
  intro m
  rw [EventRun.run_map, EventRun.run_map]
  simp only [singleResponseRPC, hstep]
  apply and_congr_right
  intro _
  cases errorOrNil with
  | none => simp [GRXWriteable.writesFinishedWithError, GRXWriteable.writeableWithSingleHandler]
  | some error =>
      have hfinish : GRXWriteable.writesFinishedWithError
          (.writeableWithSingleHandler (some handler)) (some error) m = m.setError error :=
        herror error m
      rw [hfinish, Option.toList_some, List.map_singleton]
      simp [BFTaskCompletionSource.setError]

def SingleMessage {ρ : Type} (responses : List ρ) (errorOrNil : Option NSError) : Prop :=
  responses.length + errorOrNil.toList.length = 1

private theorem singleResponse_completedOnce (requests : List Request)
    (handler : GRXSingleHandler Response (BFTaskCompletionSource α))
    (outcome : Response → BFOutcome α)
    (hvalue : ∀ response task, handler (some response) none task = task.complete (outcome response))
    (herror : ∀ error task, handler none (some error) task = task.setError error)
    (responses : List Response) (errorOrNil : Option NSError) :
    CompletedOnce ((singleResponseRPC requests handler).respond responses errorOrNil) ↔
      SingleMessage responses errorOrNil := by
  have hrun := run_completedOnce_iff NSException.internalInconsistencyException
    (singleCompletions outcome responses errorOrNil)
  rw [singleCompletions, List.length_append, List.length_map, List.length_map] at hrun
  rw [SingleMessage, ← hrun]
  apply exists_congr
  intro b
  exact singleResponse_respond requests handler outcome hvalue herror responses errorOrNil _

end Single

/-- Each of the six methods completes its task exactly once, without raising, if and only if the
handler hears of exactly one thing: a single response, or an error with no response. -/
theorem singleResponse_completedOnce_iff {ρ : Type} (device : Device) (songs : List Song)
    (songName artist : NSString) (like : Bool) :
    (∀ responses errorOrNil, CompletedOnce (getSessionData.respond responses errorOrNil) ↔
      SingleMessage responses errorOrNil) ∧
    (∀ responses errorOrNil,
      CompletedOnce ((getIsPlaying.run device).1.respond responses errorOrNil) ↔
        SingleMessage responses errorOrNil) ∧
    (∀ (responses : List ρ) errorOrNil,
      CompletedOnce (((sendSongs songs).run device).1.respond responses errorOrNil) ↔
        SingleMessage responses errorOrNil) ∧
    (∀ (responses : List ρ) errorOrNil,
      CompletedOnce (((voteForSong songName artist like).run device).1.respond
        responses errorOrNil) ↔ SingleMessage responses errorOrNil) ∧
    (∀ (responses : List ρ) errorOrNil,
      CompletedOnce ((voteToSkip.run device).1.respond responses errorOrNil) ↔
        SingleMessage responses errorOrNil) ∧
    (∀ (responses : List ρ) errorOrNil,
      CompletedOnce (((voteForArtist artist like).run device).1.respond responses errorOrNil) ↔
        SingleMessage responses errorOrNil) := by
  refine ⟨?_, ?_, ?_, ?_, ?_, ?_⟩
  · exact singleResponse_completedOnce _ _
      (fun response => .result ⟨response.numUsers, some response.sessionName⟩)
      (fun _ _ => rfl) (fun _ _ => rfl)
  · exact singleResponse_completedOnce _ _
      (fun response => .result ⟨⟨response.name, some [response.artist], none⟩, false, false⟩)
      (fun _ _ => rfl) (fun _ _ => rfl)
  all_goals
    exact singleResponse_completedOnce _ passResponse (fun response => .result (some response))
      (fun _ _ => rfl) (fun _ _ => rfl)

/-- A response followed by a status other than OK: the second completion raises. -/
theorem voteToSkip_response_then_error :
    ¬ CompletedOnce (((voteToSkip (ρ := Unit)).run ⟨none, 0, fun _ => []⟩).1.respond [()]
      (some ⟨nsstring ['i', 'o', '.', 'g', 'r', 'p', 'c'], 13⟩)) := by
  rintro ⟨b, hb⟩
  exact nomatch hb

section Stream

variable {Request Response α : Type}

/-- The outcome a stream stands for: all its items when it ended well, else its error. -/
def streamOutcome (items : List α) : Option NSError → BFOutcome (List α)
  | none => .result items
  | some error => .error error

/-- The task is untouched before the done event and completed once, with the outcome of the
stream, at the done event. -/
def CompletesFaithfully (rpc : RPC Request Response (StreamCapture α)) (item : Response → α)
    (responses : List Response) (errorOrNil : Option NSError) : Prop :=
  (∃ s, EventRun.run rpc.responsesWriteable.receive rpc.captured
      (responses.map .writeValue) = .ok s ∧ s.task = .empty) ∧
    CompletedOnceWith ((rpc.respond responses errorOrNil).map StreamCapture.task)
      (streamOutcome (responses.map item) errorOrNil)

private theorem receive_collects (w : GRXWriteable Response (StreamCapture α)) (item : Response → α)
    (hvalue : ∀ response s, w.writeValue response s =
      .ok { s with collected := s.collected ++ [item response] })
    (s : StreamCapture α) (responses : List Response) :
    EventRun.run w.receive s (responses.map .writeValue) =
      .ok { s with collected := s.collected ++ responses.map item } := by
  induction responses generalizing s with
  | nil => simp
  | cons response responses ih =>
      have hstep : w.receive s (.writeValue response) =
          .ok { s with collected := s.collected ++ [item response] } := hvalue response s
      rw [List.map_cons, EventRun.run_cons_ok]
      refine ⟨_, hstep, ?_⟩
      simpa using ih { s with collected := s.collected ++ [item response] }

theorem respond_collects (rpc : RPC Request Response (StreamCapture α)) (item : Response → α)
    (hvalue : ∀ response s, rpc.responsesWriteable.writeValue response s =
      .ok { s with collected := s.collected ++ [item response] })
    (hcaptured : rpc.captured = .empty) (responses : List Response)
    (errorOrNil : Option NSError) :
    rpc.respond responses errorOrNil =
      rpc.responsesWriteable.writesFinishedWithError errorOrNil ⟨responses.map item, .empty⟩ := by
  have hrun := receive_collects rpc.responsesWriteable item hvalue rpc.captured responses
  rw [RPC.respond, GRXWriteable.receiveSequence, GRXMessage.sequence, EventRun.run_append _ hrun,
    EventRun.run_singleton, hcaptured]
  rfl

private theorem completesFaithfully_iff (rpc : RPC Request Response (StreamCapture α))
    (item : Response → α)
    (hvalue : ∀ response s, rpc.responsesWriteable.writeValue response s =
      .ok { s with collected := s.collected ++ [item response] })
    (hcaptured : rpc.captured = .empty) (responses : List Response)
    (errorOrNil : Option NSError) :
    CompletesFaithfully rpc item responses errorOrNil ↔
      CompletedOnceWith ((rpc.responsesWriteable.writesFinishedWithError errorOrNil
        ⟨responses.map item, .empty⟩).map StreamCapture.task)
        (streamOutcome (responses.map item) errorOrNil) := by
  rw [CompletesFaithfully, respond_collects rpc item hvalue hcaptured]
  apply and_iff_right
  refine ⟨_, receive_collects rpc.responsesWriteable item hvalue rpc.captured responses, ?_⟩
  rw [hcaptured]
  rfl

end Stream

private theorem getSongQueue_finish (device : Device) (items : List NowPlayingSongItem)
    (errorOrNil : Option NSError) :
    (getSongQueue.run device).1.responsesWriteable.writesFinishedWithError errorOrNil
        ⟨items, .empty⟩ =
      .ok ⟨items, match errorOrNil with
        | none => ⟨some (.result items), 1⟩
        | some _ => .empty⟩ := by
  cases errorOrNil <;> rfl

theorem getSongQueue_error_pending (device : Device) (responses : List CSGetQueueResponse)
    (error : NSError) :
    ((getSongQueue.run device).1.respond responses (some error)).map StreamCapture.task =
      .ok .empty := by
  rw [respond_collects _ songQueueItem (fun _ _ => rfl) rfl, getSongQueue_finish]
  rfl

/-- The queue task is completed at the done event, with the items in arrival order or with the
error, if and only if the done event carries no error. -/
theorem getSongQueue_completesFaithfully_iff (device : Device)
    (responses : List CSGetQueueResponse) (errorOrNil : Option NSError) :
    CompletesFaithfully (getSongQueue.run device).1 songQueueItem responses errorOrNil ↔
      errorOrNil = none := by
  rw [completesFaithfully_iff _ _ (fun _ _ => rfl) rfl, getSongQueue_finish]
  cases errorOrNil with
  | none => simp [CompletedOnceWith, Except.map, streamOutcome]
  | some error => simp [CompletedOnceWith, Except.map, Cell.empty]

/-- An immediate failure of the stream: the task is never completed. -/
theorem getSongQueue_immediate_error :
    ¬ CompletesFaithfully (getSongQueue.run ⟨none, 0, fun _ => []⟩).1 songQueueItem []
      (some ⟨nsstring ['i', 'o', '.', 'g', 'r', 'p', 'c'], 14⟩) := by
  rintro ⟨_, h⟩
  exact nomatch h

theorem getTrendingArtists_respond (responses : List CSListTrendingArtistsResponse)
    (errorOrNil : Option NSError) :
    (getTrendingArtists.respond responses errorOrNil).map StreamCapture.task =
      .ok ⟨some (.result (responses.map fun response => trendingArtist (some response))), 1⟩ := by
  rw [respond_collects _ (fun response => trendingArtist (some response)) (fun _ _ => rfl) rfl]
  rfl

/-- The artists task is completed once, with all the artists or with the error, if and only if
the done event carries no error. -/
theorem getTrendingArtists_completesFaithfully_iff
    (responses : List CSListTrendingArtistsResponse) (errorOrNil : Option NSError) :
    CompletesFaithfully getTrendingArtists (fun response => trendingArtist (some response))
      responses errorOrNil ↔ errorOrNil = none := by
  rw [CompletesFaithfully, getTrendingArtists_respond]
  rw [and_iff_right]
  · cases errorOrNil with
    | none => simp [CompletedOnceWith, streamOutcome]
    | some error => simp [CompletedOnceWith, streamOutcome]
  · exact ⟨_, receive_collects _ _ (fun _ _ => rfl) _ responses, rfl⟩

/-- One artist, then the connection breaks: the task succeeds with the one artist. -/
theorem getTrendingArtists_broken_stream :
    ¬ CompletesFaithfully getTrendingArtists (fun response => trendingArtist (some response))
      [⟨nsstring ['d', 'r', 'a', 'k', 'e'], 7⟩]
      (some ⟨nsstring ['i', 'o', '.', 'g', 'r', 'p', 'c'], 14⟩) := by
  rintro ⟨_, h⟩
  exact nomatch h

end CrowdSound
