import CrowdSound.Playing.PlayingTables

/-!
# Votes over whole runs

The votes cache after a run is the cache before it with the vote writes of the run replayed: one
write when a vote is cast, a second one when its request has succeeded. Requests complete in any
order, so the last write for a song need not be the vote cast last; and a cast that fails has
already been written.
-/

namespace CrowdSound

open RequestTable KeyedHistory VotesCache

/-- A write to the votes cache: a vote when it is cast, or when its success is delivered. -/
inductive VoteWrite where
  | cast (vote : SongVote)
  | delivered (vote : SongVote)
  deriving DecidableEq

namespace VoteWrite

def vote : VoteWrite → SongVote
  | cast vote => vote
  | delivered vote => vote

def delivered? : VoteWrite → Option SongVote
  | cast _ => none
  | delivered vote => some vote

end VoteWrite

namespace PlayingState

def voteWrites (s : PlayingState) : PlayingEvent → List VoteWrite
  | .upVote table indexPath =>
    (s.swipedVote table true indexPath).toOption.toList.map .cast
  | .downVote table indexPath =>
    (s.swipedVote table false indexPath).toOption.toList.map .cast
  | .voteForSongCompleted call none =>
    (settle s.voteForSongCalls call true).toList.map fun settled => .delivered settled.1
  | _ => []

inductive VoteStep (s : PlayingState) (event : PlayingEvent) (s' : PlayingState) : Prop where
  | untouched (hwrites : s.voteWrites event = []) (hcache : s'.votesCache = s.votesCache)
      (hcalls : s'.voteForSongCalls = s.voteForSongCalls)
  | cast (vote : SongVote) (hwrites : s.voteWrites event = [.cast vote])
      (hcache : s'.votesCache =
        s.votesCache.cacheVote vote.voteValue vote.songName vote.artist)
      (hcalls : s'.voteForSongCalls = issue s.voteForSongCalls vote)
  | delivered (vote : SongVote) (call : Nat) (hwrites : s.voteWrites event = [.delivered vote])
      (hcache : s'.votesCache =
        s.votesCache.cacheVote vote.voteValue vote.songName vote.artist)
      (hcalls : settle s.voteForSongCalls call true = some (vote, s'.voteForSongCalls))
  | failed (vote : SongVote) (call : Nat) (hwrites : s.voteWrites event = [])
      (hcache : s'.votesCache = s.votesCache)
      (hcalls : settle s.voteForSongCalls call false = some (vote, s'.voteForSongCalls))

private theorem getIsPlayingContinuation_votes (s : PlayingState)
    (outcome : BFOutcome (Option NowPlayingSongItem)) :
    (s.getIsPlayingContinuation outcome).votesCache = s.votesCache ∧
      (s.getIsPlayingContinuation outcome).voteForSongCalls = s.voteForSongCalls := by
  rcases outcome with (_ | currentItem) | error
  · exact ⟨rfl, rfl⟩
  · rw [getIsPlayingContinuation_item]
    exact ⟨rfl, rfl⟩
  · exact ⟨rfl, rfl⟩

private theorem castVote_voteStep {s s' : PlayingState} {event : PlayingEvent}
    {table : PlayingTable} {value : Bool} {indexPath : NSIndexPath}
    (hevent : s.voteWrites event =
      (s.swipedVote table value indexPath).toOption.toList.map .cast)
    (h : voteCallback table value s indexPath = .ok s') : VoteStep s event s' := by
  obtain ⟨vote, hvote, hs'⟩ := voteCallback_ok h
  subst hs'
  have hwrites : s.voteWrites event = [.cast vote] := by
    rw [hevent, hvote]
    rfl
  exact .cast vote hwrites rfl rfl

private theorem step_voteStep {s s' : PlayingState} {event : PlayingEvent}
    (h : s.step event = .ok s') : VoteStep s event s' := by
  cases step_ok h with
  | appears => exact .untouched rfl rfl rfl
  | disappears => exact .untouched rfl rfl rfl
  | updatesQueue => exact .untouched rfl rfl rfl
  | updatesBar =>
      unfold updateSongAndArtist
      split
      · exact .untouched rfl rfl rfl
      · exact .untouched rfl rfl rfl
  | swipes table => cases table <;> exact .untouched rfl rfl rfl
  | upVotes table indexPath _ hvote => exact castVote_voteStep rfl hvote
  | downVotes table indexPath _ hvote => exact castVote_voteStep rfl hvote
  | refuses item _ _ => exact .untouched rfl rfl rfl
  | skips item _ _ => exact .untouched rfl rfl rfl
  | queueArrives call outcome getSongQueueCalls _ => exact .untouched rfl rfl rfl
  | songArrives call outcome getIsPlayingCalls _ =>
      obtain ⟨hcache, hcalls⟩ := getIsPlayingContinuation_votes
        { s with getIsPlayingCalls } outcome
      exact .untouched rfl hcache hcalls
  | voteSettles call error vote voteForSongCalls hsettle =>
      cases error with
      | none =>
          have hok : settle s.voteForSongCalls call true = some (vote, voteForSongCalls) := hsettle
          exact .delivered vote call (by simp [voteWrites, hok]) rfl hok
      | some error => exact .failed vote call rfl rfl hsettle
  | skipSettles call error songName voteToSkipCalls _ => exact .untouched rfl rfl rfl
  | reloads table mainQueue _ => cases table <;> exact .untouched rfl rfl rfl

/-- The votes cache after a run replays the writes of the run. -/
theorem run_votesCache {s s' : PlayingState} {events : List PlayingEvent}
    (h : EventRun.run step s events = .ok s') :
    s'.votesCache = s.votesCache.replayCalls
      ((EventRun.trace step voteWrites s events).map VoteWrite.vote) := by
  rw [VotesCache.replayCalls, List.foldl_map]
  refine EventRun.run_fold ?_ h
  intro s event s' hstep
  cases step_voteStep hstep with
  | untouched hwrites hcache hcalls => rw [hwrites, hcache]; rfl
  | cast vote hwrites hcache hcalls => rw [hwrites, hcache]; rfl
  | delivered vote call hwrites hcache hcalls => rw [hwrites, hcache]; rfl
  | failed vote call hwrites hcache hcalls => rw [hwrites, hcache]; rfl

/-- The entry under a key after a run: the value of the last write, else as before the run. -/
theorem run_songsWithVotes {s s' : PlayingState} {events : List PlayingEvent}
    (h : EventRun.run step s events = .ok s') (key : NSString) :
    s'.votesCache.songsWithVotes key =
      ((lastWhere (fun write => write.vote.key = key)
        (EventRun.trace step voteWrites s events)).map fun write => write.vote.voteValue).or
        (s.votesCache.songsWithVotes key) := by
  rw [run_votesCache h, replayCalls_apply, lastWhere_map, Option.map_map]
  rfl

/-- Every write is of a call in the table; and if the last call for a song has succeeded, the
last write for the song is a delivery. -/
structure WritesFollowCalls (writes : List VoteWrite) (s : PlayingState) : Prop where
  called : ∀ write ∈ writes, write.vote ∈ s.voteForSongCalls.map Entry.payload
  delivered : ∀ pair call,
    lastWhere (fun call => call.payload.pair = pair) s.voteForSongCalls = some call →
      call.status = .succeeded →
      ∃ vote, lastWhere (fun write => write.vote.pair = pair) writes = some (.delivered vote)

private theorem init_writesFollowCalls : WritesFollowCalls [] init where
  called := by simp
  delivered := by simp [init]

private theorem step_writesFollowCalls (writes : List VoteWrite) (s : PlayingState)
    (event : PlayingEvent) (s' : PlayingState) (h : WritesFollowCalls writes s)
    (hstep : s.step event = .ok s') :
    WritesFollowCalls (writes ++ s.voteWrites event) s' := by
  cases step_voteStep hstep with
  | untouched hwrites hcache hcalls =>
      rw [hwrites, List.append_nil]
      exact ⟨hcalls ▸ h.called, hcalls ▸ h.delivered⟩
  | cast vote hwrites hcache hcalls =>
      rw [hwrites]
      refine ⟨?_, ?_⟩
      · intro write hm
        rw [hcalls, issue, List.map_append, List.mem_append]
        rcases List.mem_append.mp hm with hm | hm
        · exact Or.inl (h.called write hm)
        · rw [List.mem_singleton.mp hm]
          exact Or.inr (by simp [VoteWrite.vote])
      · intro pair call hlast hsucceeded
        rw [hcalls, issue, lastWhere_snoc] at hlast
        rw [lastWhere_snoc]
        by_cases hp : vote.pair = pair
        · -- the new call is the last one, and it is in flight
          have hcall : call = ⟨vote, .inFlight⟩ := by simpa [hp, eq_comm] using hlast
          rw [hcall] at hsucceeded
          cases hsucceeded
        · have hold : lastWhere (fun call => call.payload.pair = pair) s.voteForSongCalls =
              some call := by simpa [hp] using hlast
          obtain ⟨vote', hvote'⟩ := h.delivered pair call hold hsucceeded
          exact ⟨vote', by simpa [VoteWrite.vote, hp] using hvote'⟩
  | delivered vote i hwrites hcache hcalls =>
      obtain ⟨hpayloads, hvote⟩ := settle_payloads hcalls
      rw [hwrites]
      refine ⟨?_, ?_⟩
      · intro write hm
        rw [hpayloads]
        rcases List.mem_append.mp hm with hm | hm
        · exact h.called write hm
        · rw [List.mem_singleton.mp hm]
          exact hvote
      · intro pair call hlast hsucceeded
        rw [lastWhere_snoc]
        by_cases hp : vote.pair = pair
        · exact ⟨vote, by simp [VoteWrite.vote, hp]⟩
        · have hold : lastWhere (fun call => call.payload.pair = pair) s.voteForSongCalls =
              some call := by
            rcases lastWhere_settle hcalls (fun vote => vote.pair = pair) with heq | ⟨hpair, _⟩
            · exact heq ▸ hlast
            · exact absurd (of_decide_eq_true hpair) hp
          obtain ⟨vote', hvote'⟩ := h.delivered pair call hold hsucceeded
          exact ⟨vote', by simpa [VoteWrite.vote, hp] using hvote'⟩
  | failed vote i hwrites hcache hcalls =>
      obtain ⟨hpayloads, _⟩ := settle_payloads hcalls
      rw [hwrites, List.append_nil]
      refine ⟨?_, ?_⟩
      · rw [hpayloads]
        exact h.called
      · intro pair call hlast hsucceeded
        rcases lastWhere_settle hcalls (fun vote => vote.pair = pair) with heq | ⟨_, hfailed⟩
        · exact h.delivered pair call (heq ▸ hlast) hsucceeded
        · -- the settled call is the last one, and it has failed
          have hcall := Option.some.inj (hlast.symm.trans hfailed)
          rw [hcall] at hsucceeded
          cases hsucceeded

theorem run_writesFollowCalls {s : PlayingState} {events : List PlayingEvent}
    (h : EventRun.run step init events = .ok s) :
    WritesFollowCalls (EventRun.trace step voteWrites init events) s :=
  EventRun.run_trace_invariant step_writesFollowCalls init_writesFollowCalls h

def deliveries (writes : List VoteWrite) : List SongVote :=
  writes.filterMap VoteWrite.delivered?

private theorem deliveries_last {writes : List VoteWrite} {pair : NSString × NSString}
    {vote : SongVote} (h : lastWhere (fun write => write.vote.pair = pair) writes =
      some (.delivered vote)) :
    lastWhere (fun vote => vote.pair = pair) (deliveries writes) = some vote := by
  refine lastWhere_filterMap ?_ h rfl
  intro write vote' hwrite
  cases write with
  | cast vote => exact nomatch hwrite
  | delivered vote =>
      cases hwrite
      rfl

private theorem WritesFollowCalls.lastWhere_key {writes : List VoteWrite} {s : PlayingState}
    (h : WritesFollowCalls writes s) (songName artist : NSString)
    (hkeys : ∀ call ∈ s.voteForSongCalls,
      call.payload.key = createKeyForSongsWithVotes songName artist →
        call.payload.pair = (songName, artist)) :
    lastWhere (fun write => write.vote.key = createKeyForSongsWithVotes songName artist) writes =
      lastWhere (fun write => write.vote.pair = (songName, artist)) writes := by
  apply lastWhere_congr
  intro write hm
  rw [decide_eq_decide]
  constructor
  · intro hkey
    obtain ⟨call, hcall, hpayload⟩ := List.mem_map.mp (h.called write hm)
    rw [← hpayload] at hkey ⊢
    exact hkeys call hcall hkey
  · intro hpair
    have hsong : write.vote.songName = songName ∧ write.vote.artist = artist := by
      simpa [SongVote.pair] using hpair
    rw [SongVote.key, hsong.1, hsong.2]

private theorem init_run_getVote_iff {s : PlayingState} {events : List PlayingEvent}
    (h : EventRun.run step init events = .ok s) (songName artist : NSString) (value : Bool) :
    s.votesCache.getVoteForSongName songName artist = intValue value ↔
      ∃ write, lastWhere (fun write =>
          write.vote.key = createKeyForSongsWithVotes songName artist)
        (EventRun.trace step voteWrites init events) = some write ∧
          write.vote.voteValue = value := by
  have hvalue : intValue value = report (some value) := rfl
  rw [getVote_eq_report, hvalue, report_injective.eq_iff, run_songsWithVotes h]
  simp only [init, VotesCache.init, Option.or_none, Option.map_eq_some_iff]

/-- When all requests for a song have succeeded, the cache answers with the vote cast last if and
only if the last write under the song's key carries its value. When no other song of the run
shares the key, that write is the delivery that came last, of whichever vote on the song. -/
theorem lastVoteWins_iff (events : List PlayingEvent) (s : PlayingState)
    (hrun : EventRun.run step init events = .ok s) (songName artist : NSString)
    (last : Entry SongVote)
    (hlast : lastWhere (fun call => call.payload.pair = (songName, artist))
      s.voteForSongCalls = some last)
    (hsucceeded : ∀ call ∈ s.voteForSongCalls, call.payload.pair = (songName, artist) →
      call.status = .succeeded) :
    let writes := EventRun.trace step voteWrites init events
    (s.votesCache.getVoteForSongName songName artist = intValue last.payload.voteValue ↔
      ∃ write, lastWhere (fun write => write.vote.key = createKeyForSongsWithVotes songName artist)
        writes = some write ∧ write.vote.voteValue = last.payload.voteValue) ∧
    ((∀ call ∈ s.voteForSongCalls,
        call.payload.key = createKeyForSongsWithVotes songName artist →
          call.payload.pair = (songName, artist)) →
      (s.votesCache.getVoteForSongName songName artist = intValue last.payload.voteValue ↔
        ∃ vote, lastWhere (fun vote => vote.pair = (songName, artist)) (deliveries writes) =
          some vote ∧ vote.voteValue = last.payload.voteValue)) := by
  intro writes
  have hvalue := init_run_getVote_iff hrun songName artist last.payload.voteValue
  refine ⟨hvalue, ?_⟩
  intro hkeys
  have hcalls := run_writesFollowCalls hrun
  obtain ⟨hmem, hpair⟩ := lastWhere_mem hlast
  obtain ⟨vote, hvote⟩ := hcalls.delivered (songName, artist) last hlast
    (hsucceeded last hmem (of_decide_eq_true hpair))
  rw [hvalue, hcalls.lastWhere_key songName artist hkeys, hvote, deliveries_last hvote]
  simp [VoteWrite.vote]

/-- A queue of one song, voted up and then down; both requests succeed, the second one first. -/
theorem lastVoteWins_overtaken :
    ∃ s, EventRun.run step init
        [.updateQueueData,
          .getSongQueueCompleted 0 (.result [⟨⟨nsstring ['a'], some [nsstring ['b']], none⟩, false, false⟩]),
          .upVote .queue ⟨1, 0⟩, .downVote .queue ⟨1, 0⟩,
          .voteForSongCompleted 1 none, .voteForSongCompleted 0 none] = .ok s ∧
      s.voteForSongCalls = [⟨⟨true, nsstring ['a'], nsstring ['b']⟩, .succeeded⟩,
        ⟨⟨false, nsstring ['a'], nsstring ['b']⟩, .succeeded⟩] ∧
      s.votesCache.getVoteForSongName (nsstring ['a']) (nsstring ['b']) ≠ intValue false :=
  ⟨_, rfl, by decide, by decide⟩

/-- The same votes, delivered in the order in which they were cast. -/
theorem lastVoteWins_iff_deliveredInOrder :
    let events := [.updateQueueData,
      .getSongQueueCompleted 0
        (.result [⟨⟨nsstring ['a'], some [nsstring ['b']], none⟩, false, false⟩]),
      .upVote .queue ⟨1, 0⟩, .downVote .queue ⟨1, 0⟩,
      .voteForSongCompleted 0 none, .voteForSongCompleted 1 none]
    ∃ s, EventRun.run step init events = .ok s ∧
      s.votesCache.getVoteForSongName (nsstring ['a']) (nsstring ['b']) = intValue false := by
  intro events
  refine ⟨_, rfl, ?_⟩
  have hiff := lastVoteWins_iff events _ rfl (nsstring ['a']) (nsstring ['b'])
    ⟨⟨false, nsstring ['a'], nsstring ['b']⟩, .succeeded⟩ (by decide) (by decide)
  exact (hiff.2 (by decide)).mpr ⟨⟨false, nsstring ['a'], nsstring ['b']⟩, by decide, rfl⟩

/-- The song of a failed vote answers as before the cast, and so does every other song whose key
was not written in between. -/
def LeavesNoTrace (before after : PlayingState) (vote : SongVote) (between : List VoteWrite) :
    Prop :=
  after.votesCache.getVoteForSongName vote.songName vote.artist =
      before.votesCache.getVoteForSongName vote.songName vote.artist ∧
    ∀ songName artist, (songName, artist) ≠ vote.pair →
      (∀ write ∈ between, write.vote.key ≠ createKeyForSongsWithVotes songName artist) →
      after.votesCache.getVoteForSongName songName artist =
        before.votesCache.getVoteForSongName songName artist

def valueFromCast (vote : SongVote) (between : List VoteWrite) : Bool :=
  ((lastWhere (fun write => write.vote.key = vote.key) between).map
    fun write => write.vote.voteValue).getD vote.voteValue

private theorem failed_votesCache {s s' : PlayingState} {call : Nat} {error : NSError}
    (h : s.step (.voteForSongCompleted call (some error)) = .ok s') :
    s'.votesCache = s.votesCache := by
  cases step_ok h with
  | voteSettles _ _ vote voteForSongCalls _ => rfl

private theorem cast_songsWithVotes {s s' : PlayingState} {event : PlayingEvent} {vote : SongVote}
    (hwrites : s.voteWrites event = [.cast vote]) (hcast : s.step event = .ok s')
    (key : NSString) :
    s'.votesCache.songsWithVotes key =
      if vote.key = key then some vote.voteValue else s.votesCache.songsWithVotes key := by
  have hrun := run_songsWithVotes ((EventRun.run_singleton s event).trans hcast) key
  rw [EventRun.trace_cons voteWrites [] hcast, hwrites] at hrun
  rw [hrun]
  by_cases hkey : vote.key = key
  · simp [lastWhere_singleton, VoteWrite.vote, hkey]
  · simp [lastWhere_singleton, VoteWrite.vote, hkey]

/-- A vote that fails leaves no trace if and only if the value last written under its key from
the cast on, by default its own value, is the one the cache already held. -/
theorem failedVote_leavesNoTrace_iff (before cast settling after : PlayingState)
    (event : PlayingEvent) (vote : SongVote) (events : List PlayingEvent) (error : NSError)
    (hwrites : before.voteWrites event = [.cast vote])
    (hcast : before.step event = .ok cast)
    (hrun : EventRun.run step cast events = .ok settling)
    (hfailed : settling.step
      (.voteForSongCompleted before.voteForSongCalls.length (some error)) = .ok after) :
    LeavesNoTrace before after vote (EventRun.trace step voteWrites cast events) ↔
      before.votesCache.getVoteForSongName vote.songName vote.artist =
        intValue (valueFromCast vote (EventRun.trace step voteWrites cast events)) := by
  have hcache := failed_votesCache hfailed
  have hbefore := cast_songsWithVotes hwrites hcast
  have hafter := run_songsWithVotes hrun
  have hvote : after.votesCache.songsWithVotes vote.key =
      some (valueFromCast vote (EventRun.trace step voteWrites cast events)) := by
    rw [hcache, hafter vote.key, hbefore vote.key, if_pos rfl, valueFromCast]
    cases lastWhere (fun write => write.vote.key = vote.key)
      (EventRun.trace step voteWrites cast events) <;> rfl
  have hsong : after.votesCache.getVoteForSongName vote.songName vote.artist =
      intValue (valueFromCast vote (EventRun.trace step voteWrites cast events)) :=
    (getVote_eq_iff _ _ _ _).mpr hvote
  constructor
  · intro h
    rw [← hsong, h.1]
  · intro h
    refine ⟨hsong.trans h.symm, ?_⟩
    intro songName artist _ hquiet
    have hnone : lastWhere (fun write => write.vote.key = createKeyForSongsWithVotes songName artist)
        (EventRun.trace step voteWrites cast events) = none := by
      rw [lastWhere_eq_none]
      intro write hm
      exact decide_eq_false (hquiet write hm)
    rw [getVote_eq_report, getVote_eq_report, report_injective.eq_iff]
    by_cases hkey : vote.key = createKeyForSongsWithVotes songName artist
    · -- a song with the same key answers like the song of the vote
      have hheld := (getVote_eq_iff _ _ _ _).mp h
      rw [← hkey, hvote]
      exact hheld.symm
    · rw [hcache, hafter, hnone, hbefore, if_neg hkey]
      rfl

/-- A first vote on a song whose request fails stays in the cache. -/
theorem failedVote_firstVote :
    ∃ before cast after,
      EventRun.run step init
        [.updateQueueData, .getSongQueueCompleted 0
          (.result [⟨⟨nsstring ['a'], some [nsstring ['b']], none⟩, false, false⟩])] =
        .ok before ∧
      before.step (.upVote .queue ⟨1, 0⟩) = .ok cast ∧
      cast.step (.voteForSongCompleted 0 (some ⟨nsstring ['g'], 14⟩)) = .ok after ∧
      ¬ LeavesNoTrace before after ⟨true, nsstring ['a'], nsstring ['b']⟩ [] := by
  refine ⟨_, _, _, rfl, rfl, rfl, ?_⟩
  intro h
  exact absurd h.1 (by decide)

theorem failedVote_leavesNoTrace_iff_repeated :
    ∃ before cast after,
      EventRun.run step init
        [.updateQueueData, .getSongQueueCompleted 0
          (.result [⟨⟨nsstring ['a'], some [nsstring ['b']], none⟩, false, false⟩]),
          .upVote .queue ⟨1, 0⟩, .voteForSongCompleted 0 none] = .ok before ∧
      before.step (.upVote .queue ⟨1, 0⟩) = .ok cast ∧
      cast.step (.voteForSongCompleted 1 (some ⟨nsstring ['g'], 14⟩)) = .ok after ∧
      LeavesNoTrace before after ⟨true, nsstring ['a'], nsstring ['b']⟩ [] := by
  refine ⟨_, _, _, rfl, rfl, rfl, ?_⟩
  refine (failedVote_leavesNoTrace_iff _ _ _ _ (.upVote .queue ⟨1, 0⟩)
    ⟨true, nsstring ['a'], nsstring ['b']⟩ [] ⟨nsstring ['g'], 14⟩ rfl rfl rfl rfl).mpr ?_
  decide

end PlayingState

end CrowdSound
