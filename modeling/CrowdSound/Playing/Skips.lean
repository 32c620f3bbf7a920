import CrowdSound.Playing.SwipeSteps

/-!
# Skips of the playing song

The bar remembers one title: that of the skip request that completed last, whatever came of it.
A skip is refused when the playing song has this title. A monitor beside the tables keeps the
titles of the completed requests and where the current playing began.
-/

namespace CrowdSound

open RequestTable

namespace NowPlayingSongItem

def sameSong (item item' : NowPlayingSongItem) : Bool :=
  decide (item.song.name = item'.song.name ∧ item.song.artists = item'.song.artists)

end NowPlayingSongItem

/-- `since` numbers the first skip request of the current playing, `completed` are the titles of
the completed requests. -/
structure SkipLog where
  since : Nat
  completed : List NSString

namespace SkipLog

def init : SkipLog := ⟨0, []⟩

def lastCompleted (log : SkipLog) : NSString := log.completed.getLastD []

end SkipLog

namespace PlayingState

/-- A fetched item starts a playing unless its song is already the playing one. -/
def startsPlaying (s : PlayingState) (item : NowPlayingSongItem) : Bool :=
  match s.bar.songsForTableView[0]? with
  | some shown => !shown.sameSong item
  | none => true

def logSkips (log : SkipLog) (s : PlayingState) (event : PlayingEvent) (s' : PlayingState) :
    SkipLog :=
  match event with
  | .getIsPlayingCompleted _ (.result (some item)) =>
    if s.startsPlaying item then { log with since := s'.voteToSkipCalls.length } else log
  | .voteToSkipCompleted call _ => { log with
      completed := log.completed ++ (s.voteToSkipCalls[call]?.map Entry.payload).toList }
  | _ => log

abbrev LoggedSkips := PlayingState × SkipLog

def stepLogged : LoggedSkips → PlayingEvent → Except Stuck LoggedSkips :=
  EventRun.watch step logSkips

def initLogged : LoggedSkips := (init, .init)

theorem stepLogged_run (w : LoggedSkips) (events : List PlayingEvent) :
    (EventRun.run stepLogged w events).map Prod.fst = EventRun.run step w.1 events :=
  EventRun.run_watch _ w events

end PlayingState

namespace PlayingState.LoggedSkips

def live (w : LoggedSkips) : Nat := liveSince w.1.voteToSkipCalls w.2.since

inductive SkipStep (w : LoggedSkips) (event : PlayingEvent) (w' : LoggedSkips) : Prop where
  | keeps (hskip : event ≠ .skip) (hcalls : w'.1.voteToSkipCalls = w.1.voteToSkipCalls)
      (hskipped : w'.1.bar.skippedSong = w.1.bar.skippedSong)
      (hcompleted : w'.2.completed = w.2.completed)
      (hsince : w'.2.since = w.2.since ∨ w'.2.since = w'.1.voteToSkipCalls.length)
  | refuses (item : NowPlayingSongItem) (hevent : event = .skip)
      (hitem : objectAtIndex w.1.bar.songsForTableView 0 = .ok item)
      (hname : w.1.bar.skippedSong = item.song.name)
      (hcalls : w'.1.voteToSkipCalls = w.1.voteToSkipCalls)
      (hskipped : w'.1.bar.skippedSong = w.1.bar.skippedSong) (hlog : w'.2 = w.2)
  | sends (item : NowPlayingSongItem) (hevent : event = .skip)
      (hitem : objectAtIndex w.1.bar.songsForTableView 0 = .ok item)
      (hname : w.1.bar.skippedSong ≠ item.song.name)
      (hcalls : w'.1.voteToSkipCalls = issue w.1.voteToSkipCalls item.song.name)
      (hskipped : w'.1.bar.skippedSong = w.1.bar.skippedSong) (hlog : w'.2 = w.2)
  | settles (call : Nat) (ok : Bool) (songName : NSString) (hskip : event ≠ .skip)
      (hcalls : settle w.1.voteToSkipCalls call ok = some (songName, w'.1.voteToSkipCalls))
      (hskipped : w'.1.bar.skippedSong = songName)
      (hlog : w'.2 = { w.2 with completed := w.2.completed ++ [songName] })

private theorem step_skipStep {w w' : LoggedSkips} {event : PlayingEvent}
    (h : stepLogged w event = .ok w') : SkipStep w event w' := by
  obtain ⟨hstep, hlog⟩ := EventRun.watch_ok.mp h
  have hview : ∀ view : SwipeView, w'.1.swipeView = view →
      w'.1.voteToSkipCalls = view.voteToSkipCalls ∧ w'.1.bar.skippedSong = view.skippedSong := by
    rintro view rfl
    exact ⟨rfl, rfl⟩
  cases step_swipeStep hstep with
  | keeps _ hskip hsettled heq =>
      obtain ⟨hcalls, hskipped⟩ := hview _ heq
      refine .keeps hskip hcalls hskipped ?_ ?_
      · rw [hlog]
        unfold logSkips
        split
        · split <;> rfl
        · exact absurd rfl (hsettled _ _)
        · rfl
      · rw [hlog]
        unfold logSkips
        split
        · split
          · exact Or.inr rfl
          · exact Or.inl rfl
        · exact Or.inl rfl
        · exact Or.inl rfl
  | reloads table hevent heq =>
      obtain ⟨hcalls, hskipped⟩ := hview _ heq
      subst hevent
      refine .keeps nofun ?_ ?_ (by rw [hlog]; rfl) (Or.inl (by rw [hlog]; rfl))
      · rw [hcalls]
        cases table <;> rfl
      · rw [hskipped]
        cases table <;> rfl
  | flags hevent heq =>
      obtain ⟨hcalls, hskipped⟩ := hview _ heq
      subst hevent
      exact .keeps nofun hcalls hskipped (by rw [hlog]; rfl) (Or.inl (by rw [hlog]; rfl))
  | refuses item hevent hitem hname heq =>
      obtain ⟨hcalls, hskipped⟩ := hview _ heq
      subst hevent
      exact .refuses item rfl hitem hname hcalls hskipped hlog
  | skips item hevent hitem hname heq =>
      obtain ⟨hcalls, hskipped⟩ := hview _ heq
      subst hevent
      exact .sends item rfl hitem hname hcalls hskipped hlog
  | settles call error songName hevent hsettle heq =>
      obtain ⟨hcalls, hskipped⟩ := hview _ heq
      subst hevent
      refine .settles call error.isNone songName nofun hsettle hskipped ?_
      rw [hlog]
      simp [logSkips, (settle_eq_set hsettle).1]

/-- The bar remembers the title of the request that completed last. -/
structure Remembered (w : LoggedSkips) : Prop where
  skipped : w.1.bar.skippedSong = w.2.lastCompleted
  since : w.2.since ≤ w.1.voteToSkipCalls.length

private theorem remembered_init : Remembered initLogged := ⟨rfl, Nat.le_refl 0⟩

private theorem step_remembered {w w' : LoggedSkips} {event : PlayingEvent} (hw : Remembered w)
    (h : stepLogged w event = .ok w') : Remembered w' := by
  have hsince := hw.since
  cases step_skipStep h with
  | keeps _ hcalls hskipped hcompleted hsince' =>
      constructor
      · rw [hskipped, hw.skipped, SkipLog.lastCompleted, SkipLog.lastCompleted, hcompleted]
      · rcases hsince' with heq | heq
        · rw [heq, hcalls]
          exact hsince
        · omega
  | refuses item _ _ _ hcalls hskipped hlog =>
      constructor
      · rw [hskipped, hlog, hw.skipped]
      · rw [hlog, hcalls]
        exact hsince
  | sends item _ _ _ hcalls hskipped hlog =>
      constructor
      · rw [hskipped, hlog, hw.skipped]
      · rw [hlog, hcalls, issue, List.length_append]
        omega
  | settles call ok songName _ hcalls hskipped hlog =>
      constructor
      · rw [hskipped, hlog]
        simp [SkipLog.lastCompleted]
      · have hlength := congrArg List.length (settle_eq_set hcalls).2
        rw [List.length_set] at hlength
        rw [hlog, hlength]
        exact hsince

/-- At most one request of the current playing is in flight or has succeeded. -/
def AtMostOneSkip (w : LoggedSkips) : Prop := w.live ≤ 1

/-- A skip during a playing that has a live request finds its title remembered. -/
def RepeatRemembered (w : LoggedSkips) (event : PlayingEvent) (_ : LoggedSkips) : Prop :=
  event = .skip → 0 < w.live → ∀ item, objectAtIndex w.1.bar.songsForTableView 0 = .ok item →
    item.song.name = w.2.lastCompleted

private theorem step_atMostOneSkip {w w' : LoggedSkips} {event : PlayingEvent} (hw : Remembered w)
    (hone : AtMostOneSkip w) (h : stepLogged w event = .ok w') :
    AtMostOneSkip w' ↔ RepeatRemembered w event w' := by
  have hone' : liveSince w.1.voteToSkipCalls w.2.since ≤ 1 := hone
  simp only [AtMostOneSkip, live]
  cases step_skipStep h with
  | keeps hskip hcalls _ _ hsince =>
      refine iff_of_true ?_ (fun hevent => absurd hevent hskip)
      rcases hsince with heq | heq
      · rw [heq, hcalls]
        exact hone'
      · rw [heq, liveSince_length]
        omega
  | refuses item _ hitem hname hcalls _ hlog =>
      refine iff_of_true ?_ ?_
      · rw [hlog, hcalls]
        exact hone'
      · intro _ _ item' hitem'
        have hsame : item' = item := Except.ok.inj (hitem'.symm.trans hitem)
        rw [hsame, ← hname, hw.skipped]
  | sends item hevent hitem hname hcalls _ hlog =>
      rw [hlog, hcalls, liveSince_issue _ _ hw.since]
      constructor
      · intro hle _ hlive
        have hpos : 0 < liveSince w.1.voteToSkipCalls w.2.since := hlive
        omega
      · intro hremembered
        by_contra hle
        have hlive : 0 < w.live := by
          show 0 < liveSince w.1.voteToSkipCalls w.2.since
          omega
        have heq := hremembered hevent hlive item hitem
        rw [← hw.skipped] at heq
        exact hname heq.symm
  | settles call ok songName hskip hcalls _ hlog =>
      refine iff_of_true ?_ (fun hevent => absurd hevent hskip)
      rw [hlog]
      exact (liveSince_settle_le hcalls _).trans hone'

/-- In every run, no playing gets a second live skip exactly when each repeated skip comes after
the title was remembered. -/
theorem atMostOneSkip_iff (events : List PlayingEvent) :
    EventRun.Throughout stepLogged AtMostOneSkip initLogged events ↔
      EventRun.EveryStep stepLogged RepeatRemembered initLogged events :=
  EventRun.throughout_iff_everyStep (fun _ _ _ hw h => step_remembered hw h)
    (fun _ _ _ hw hone h => step_atMostOneSkip hw hone h) remembered_init (Nat.zero_le 1) events

/-- Two swipes before the first request is answered. -/
theorem skipTwice_bothLive :
    ¬ EventRun.Throughout stepLogged AtMostOneSkip initLogged [.updateSongAndArtist,
      .getIsPlayingCompleted 0 (.result (some ⟨⟨nsstring ['a'], some [nsstring ['b']], none⟩,
        true, false⟩)), .skip, .skip] := by
  intro h
  have hlive := h.last rfl
  exact absurd hlive (by unfold AtMostOneSkip; decide)

def FirstSkipSent (w : LoggedSkips) (event : PlayingEvent) (w' : LoggedSkips) : Prop :=
  event = .skip → w.live = 0 →
    ∃ songName, w'.1.voteToSkipCalls = issue w.1.voteToSkipCalls songName

/-- A skip during a playing without a live request does not find its title remembered. -/
def FirstSkipNotRemembered (w : LoggedSkips) (event : PlayingEvent) (_ : LoggedSkips) : Prop :=
  event = .skip → w.live = 0 → ∀ item, objectAtIndex w.1.bar.songsForTableView 0 = .ok item →
    item.song.name ≠ w.2.lastCompleted

private theorem step_firstSkipSent {w w' : LoggedSkips} {event : PlayingEvent} (hw : Remembered w)
    (h : stepLogged w event = .ok w') :
    FirstSkipSent w event w' ↔ FirstSkipNotRemembered w event w' := by
  cases step_skipStep h with
  | keeps hskip _ _ _ _ =>
      exact iff_of_true (fun hevent => absurd hevent hskip) (fun hevent => absurd hevent hskip)
  | settles call ok songName hskip _ _ _ =>
      exact iff_of_true (fun hevent => absurd hevent hskip) (fun hevent => absurd hevent hskip)
  | refuses item hevent hitem hname hcalls _ _ =>
      have hsent : ¬ ∃ songName, w'.1.voteToSkipCalls = issue w.1.voteToSkipCalls songName := by
        rintro ⟨songName, hissued⟩
        exact ne_issue _ _ (hcalls.symm.trans hissued)
      have hremembered : item.song.name = w.2.lastCompleted := by
        rw [← hname, hw.skipped]
      constructor
      · intro hfirst _ hlive
        exact absurd (hfirst hevent hlive) hsent
      · intro hnot _ hlive
        exact absurd hremembered (hnot hevent hlive item hitem)
  | sends item hevent hitem hname hcalls _ _ =>
      refine iff_of_true (fun _ _ => ⟨_, hcalls⟩) ?_
      intro _ _ item' hitem' heq
      have hsame : item' = item := Except.ok.inj (hitem'.symm.trans hitem)
      rw [hsame, ← hw.skipped] at heq
      exact hname heq.symm

/-- In every run, the first skip of a playing, and each one after failed ones, is sent exactly
when the request that completed last was for another title. -/
theorem firstSkipSent_iff (events : List PlayingEvent) :
    EventRun.EveryStep stepLogged FirstSkipSent initLogged events ↔
      EventRun.EveryStep stepLogged FirstSkipNotRemembered initLogged events :=
  EventRun.everyStep_congr (fun _ _ _ hw h => step_remembered hw h)
    (fun _ _ _ hw h => step_firstSkipSent hw h) remembered_init events

/-- The skip request failed, and the next swipe is refused. -/
theorem skipAfterFailure_refused :
    ¬ EventRun.EveryStep stepLogged FirstSkipSent initLogged ([.updateSongAndArtist,
      .getIsPlayingCompleted 0 (.result (some ⟨⟨nsstring ['a'], some [nsstring ['b']], none⟩,
        true, false⟩)), .skip, .voteToSkipCompleted 0 (some ⟨nsstring [], 1⟩)] ++ [.skip]) := by
  intro h
  obtain ⟨songName, hsent⟩ := h.last rfl rfl rfl (by decide)
  exact absurd (congrArg List.length hsent) (by simp [issue])

end PlayingState.LoggedSkips

end CrowdSound
