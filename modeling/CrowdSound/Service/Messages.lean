import CrowdSound.Foundation

/-!
# Model objects and protocol messages

The objects the view controllers hold and the messages of the service. Properties that are nil
for some objects are optional. Requests list the fields the application assigns, with the empty
string of a fresh message as default; responses list the fields it reads.
-/

namespace CrowdSound

structure Song where
  name : NSString
  artists : Option (List NSString)
  genre : Option NSString
  deriving DecidableEq

structure NowPlayingSongItem where
  song : Song
  isPlaying : Bool
  isBuffered : Bool
  deriving DecidableEq

structure TrendingArtist where
  name : Option NSString
  weight : Int
  deriving DecidableEq

structure SessionData where
  numberOfUsers : Int
  sessionName : Option NSString
  deriving DecidableEq

structure CSGetSessionDataRequest where
  deriving DecidableEq

structure CSGetQueueRequest where
  userId : NSString := []
  deriving DecidableEq

structure CSGetPlayingRequest where
  userId : NSString := []
  deriving DecidableEq

structure CSPostSongRequest where
  name : NSString := []
  artistArray : Option (List NSString) := none
  genre : Option NSString := none
  userId : NSString := []
  deriving DecidableEq

structure CSVoteSongRequest where
  name : NSString := []
  artist : NSString := []
  userId : NSString := []
  like : Bool := false
  deriving DecidableEq

structure CSVoteSkipRequest where
  userId : NSString := []
  deriving DecidableEq

structure CSVoteArtistRequest where
  userId : NSString := []
  artist : NSString := []
  like : Bool := false
  deriving DecidableEq

structure CSListTrendingArtistsRequest where
  deriving DecidableEq

structure CSGetSessionDataResponse where
  numUsers : Int
  sessionName : NSString
  deriving DecidableEq

structure CSGetQueueResponse where
  name : NSString
  artist : NSString
  isPlaying : Bool
  isBuffered : Bool
  deriving DecidableEq

structure CSGetPlayingResponse where
  name : NSString
  artist : NSString
  deriving DecidableEq

structure CSListTrendingArtistsResponse where
  name : NSString
  score : Int
  deriving DecidableEq

end CrowdSound
