import CrowdSound.Foundation
import CrowdSound.Library.KeyedHistory
import CrowdSound.Library.Delimited

/-!
# The votes cache

The cache keeps the user's votes in a dictionary whose keys are the song name and the artist
joined by a comma. It answers like a map keyed by the pair itself for the pairs that contain no
comma; a pair with a comma shares its entry with the other pairs that flatten to the same key.
-/

namespace CrowdSound

open KeyedHistory

structure VotesCache where
  songsWithVotes : NSString → Option Bool

/-- A vote on a song: the arguments of `cacheVote:forSongName:andArtist:`. -/
structure SongVote where
  voteValue : Bool
  songName : NSString
  artist : NSString
  deriving DecidableEq

namespace VotesCache

/-- The cache of a fresh `sharedInstance`. -/
def init : VotesCache := ⟨fun _ => none⟩

def comma : UInt16 := 44

/-- Comma is the current delimiter. -/
def createKeyForSongsWithVotes (songName artist : NSString) : NSString :=
  songName.stringByAppendingString (NSString.stringByAppendingString [comma] artist)

/-- `[[NSNumber numberWithBool:value] intValue]`. -/
def intValue (value : Bool) : Int := if value then 1 else 0

/-- Returns -1 if not in cache, 1 if vote up, 0 if vote down. -/
def getVoteForSongName (cache : VotesCache) (songName artist : NSString) : Int :=
  match cache.songsWithVotes (createKeyForSongsWithVotes songName artist) with
  | none => -1
  | some value => intValue value

def cacheVote (cache : VotesCache) (voteValue : Bool) (songName artist : NSString) : VotesCache :=
  { cache with
    songsWithVotes := Function.update cache.songsWithVotes
      (createKeyForSongsWithVotes songName artist) (some voteValue) }

def replayCalls (cache : VotesCache) (calls : List SongVote) : VotesCache :=
  calls.foldl (fun c v => c.cacheVote v.voteValue v.songName v.artist) cache

end VotesCache

namespace SongVote

open VotesCache

def key (v : SongVote) : NSString := createKeyForSongsWithVotes v.songName v.artist

def pair (v : SongVote) : NSString × NSString := (v.songName, v.artist)

end SongVote

namespace VotesCache

def report : Option Bool → Int
  | none => -1
  | some value => intValue value

theorem report_injective : Function.Injective report := by
  intro a b h
  rcases a with _ | _ | _ <;> rcases b with _ | _ | _ <;> revert h <;> decide

theorem getVote_eq_report (cache : VotesCache) (songName artist : NSString) :
    cache.getVoteForSongName songName artist =
      report (cache.songsWithVotes (createKeyForSongsWithVotes songName artist)) := by
  unfold getVoteForSongName report
  cases cache.songsWithVotes (createKeyForSongsWithVotes songName artist) <;> rfl

theorem getVote_eq_iff (cache : VotesCache) (songName artist : NSString) (value : Bool) :
    cache.getVoteForSongName songName artist = intValue value ↔
      cache.songsWithVotes (createKeyForSongsWithVotes songName artist) = some value := by
  rw [getVote_eq_report]
  exact report_injective.eq_iff (b := some value)

private theorem replayCalls_songsWithVotes (cache : VotesCache) (calls : List SongVote) :
    (cache.replayCalls calls).songsWithVotes =
      replay SongVote.key SongVote.voteValue cache.songsWithVotes calls := by
  induction calls generalizing cache with
  | nil => rfl
  | cons v calls ih => exact ih (cache.cacheVote v.voteValue v.songName v.artist)

theorem replayCalls_apply (cache : VotesCache) (calls : List SongVote) (k : NSString) :
    (cache.replayCalls calls).songsWithVotes k =
      ((lastWhere (fun v => v.key = k) calls).map SongVote.voteValue).or
        (cache.songsWithVotes k) := by
  rw [replayCalls_songsWithVotes, replay_apply]

def lastVoteForPair (calls : List SongVote) (songName artist : NSString) : Option Bool :=
  (lastWhere (fun v => v.pair = (songName, artist)) calls).map SongVote.voteValue

/-- The finite map keyed by pairs that the cache stands for. -/
def votesByPair (calls : List SongVote) : NSString × NSString → Option Bool :=
  replay SongVote.pair SongVote.voteValue (fun _ => none) calls

private theorem votesByPair_apply (calls : List SongVote) (songName artist : NSString) :
    votesByPair calls (songName, artist) = lastVoteForPair calls songName artist := by
  rw [votesByPair, replay_apply, Option.or_none]
  rfl

/-- The last vote stored under the pair's key, whichever pair it was cast for, carries the value
of the last vote cast for the pair. -/
def KeyNotShadowed (calls : List SongVote) (songName artist : NSString) : Prop :=
  ∀ v, lastWhere (fun v => v.key = createKeyForSongsWithVotes songName artist) calls = some v →
    ∃ w, lastWhere (fun v => v.pair = (songName, artist)) calls = some w ∧
      w.voteValue = v.voteValue

private theorem replay_pair_iff (calls : List SongVote) (songName artist : NSString) :
    (init.replayCalls calls).getVoteForSongName songName artist =
        report (lastVoteForPair calls songName artist) ↔
      replay SongVote.key SongVote.voteValue (fun _ => none) calls
          (Delimited.join comma (songName, artist)) =
        votesByPair calls (songName, artist) := by
  rw [getVote_eq_report, report_injective.eq_iff, replayCalls_songsWithVotes, votesByPair_apply]
  rfl

/-- The cache answers for a pair as the map keyed by pairs if and only if no later vote for a
pair with the same key shadows the pair's own; it does so after every history exactly for the
pairs that contain no comma. -/
theorem votesCache_refines_iff (calls : List SongVote) (songName artist : NSString) :
    ((init.replayCalls calls).getVoteForSongName songName artist =
        report (lastVoteForPair calls songName artist) ↔
      KeyNotShadowed calls songName artist) ∧
    ((∀ history, (init.replayCalls history).getVoteForSongName songName artist =
        report (lastVoteForPair history songName artist)) ↔
      comma ∉ songName ∧ comma ∉ artist) := by
  constructor
  · rw [replay_pair_iff]
    exact replay_code_iff (Delimited.join comma) SongVote.pair SongVote.voteValue calls
      (songName, artist)
  · have hpair : Function.Surjective SongVote.pair := fun q => ⟨⟨true, q.1, q.2⟩, rfl⟩
    have hcode := replay_code_forall_iff (Delimited.join comma) SongVote.pair
      SongVote.voteValue hpair (songName, artist)
    rw [Delimited.join_unique_iff] at hcode
    rw [← hcode]
    exact forall_congr' fun history => replay_pair_iff history songName artist

/-- A vote for the song `a,b` of `c` is also reported for the song `a` of `b,c`. -/
theorem votesCache_collision :
    (init.replayCalls [⟨true, nsstring ['a', ',', 'b'], nsstring ['c']⟩]).getVoteForSongName
        (nsstring ['a']) (nsstring ['b', ',', 'c']) ≠
      report (lastVoteForPair [⟨true, nsstring ['a', ',', 'b'], nsstring ['c']⟩]
        (nsstring ['a']) (nsstring ['b', ',', 'c'])) := by
  decide

end VotesCache

end CrowdSound
