import CrowdSound.Bubbles.Scene
import CrowdSound.Library.KeyedHistory

/-!
# Trending artists

Each trending artist is a bubble of a scene whose delegate sends a vote for the artist when a
bubble was tapped or long-pressed: a like when it enters the tapped state, a dislike when it
enters the long-pressed state. The label of a bubble may be shortened; the vote carries the whole
name.
-/

namespace CrowdSound

open KeyedHistory

/-- What `BubbleNode` adds to a floating node: the text of its label, and the whole text when the
label is shortened. -/
structure BubbleContent where
  labelText : NSString
  cachedLabel : Option NSString
  deriving DecidableEq

namespace BubbleNode

def maxTextLength30 : Nat := 8
def maxTextLength50 : Nat := 10
def maxTextLength60 : Nat := 16

def ellipsis : NSString := nsstring ['.', '.', '.']

def shortened (text : NSString) (maxTextLength : Nat) : Except NSException BubbleContent :=
  if text.length > maxTextLength then do
    let shortenedString ← text.substringToIndex maxTextLength
    return { labelText := shortenedString.stringByAppendingString ellipsis
             cachedLabel := some text }
  else .ok { labelText := text, cachedLabel := none }

def configureNode (radius : ℚ) (text : NSString) : Except NSException BubbleContent :=
  if radius < 40 then shortened text maxTextLength30
  else if radius < 50 then shortened text maxTextLength50
  else shortened text maxTextLength60

/-- The bounding box of a circle is twice its radius wide. -/
def instantiateWithText (g : Geometry) (text : NSString) (radius : Int) :
    Except NSException (SIFloatingNode BubbleContent) := do
  let content ← configureNode radius text
  return {
    state := .normal
    previousState := .normal
    dynamic := true
    linearDamping := 1 / 10
    position := ⟨0, 0⟩
    frameSize := g.circleFrame radius
    fadesOut := true
    content }

/-- The name a bubble votes for: the cached label, else the text of the label. -/
def artist (content : BubbleContent) : NSString := content.cachedLabel.getD content.labelText

private theorem shortened_artist (text : NSString) (maxTextLength : Nat) :
    ∃ content, shortened text maxTextLength = .ok content ∧ artist content = text := by
  unfold shortened
  by_cases hlong : text.length > maxTextLength
  · have hsub : text.substringToIndex maxTextLength = .ok (text.take maxTextLength) := by
      rw [NSString.substringToIndex, if_pos (by omega)]
    rw [if_pos hlong, hsub]
    exact ⟨_, rfl, rfl⟩
  · rw [if_neg hlong]
    exact ⟨_, rfl, rfl⟩

private theorem configureNode_artist (radius : ℚ) (text : NSString) :
    ∃ content, configureNode radius text = .ok content ∧ artist content = text := by
  unfold configureNode
  split
  · exact shortened_artist text _
  · split
    · exact shortened_artist text _
    · exact shortened_artist text _

theorem instantiateWithText_ok (g : Geometry) (text : NSString) (radius : Int) :
    ∃ bubble, instantiateWithText g text radius = .ok bubble ∧ bubble.state = .normal ∧
      artist bubble.content = text := by
  obtain ⟨content, hcontent, hartist⟩ := configureNode_artist radius text
  unfold instantiateWithText
  rw [hcontent]
  exact ⟨_, rfl, rfl, hartist⟩

end BubbleNode

namespace Helper

/-- `random` is the draw between 0 and 1. -/
def randomBetweenMin (random min max : ℚ) : ℚ := random * (max - min) + min

end Helper

structure BubbleOffsets where
  bottomOffset : ℚ
  topOffset : ℚ

namespace BubbleScene

def configure (offsets : BubbleOffsets) (s : SIFloatingCollectionScene BubbleContent) :
    SIFloatingCollectionScene BubbleContent :=
  { s with
    allowMultipleSelection := true
    magneticFieldPosition :=
      ⟨s.size.width / 2, s.size.height / 2 + offsets.bottomOffset / 2 - offsets.topOffset⟩ }

/-- The three draws of `addChild:`, of which the last is used for every second node. -/
structure Draws where
  left : ℚ
  height : ℚ
  right : ℚ

def addChild (offsets : BubbleOffsets) (s : SIFloatingCollectionScene BubbleContent)
    (bubble : SIFloatingNode BubbleContent) (draws : Draws) :
    SIFloatingCollectionScene BubbleContent :=
  let width := bubble.frameSize.width
  let height := bubble.frameSize.height
  let left := Helper.randomBetweenMin draws.left (-offsets.bottomOffset) (-width)
  let y := Helper.randomBetweenMin draws.height
    (s.size.height - offsets.bottomOffset - height) (s.size.height - offsets.topOffset - height)
  let x :=
    if s.floatingNodes.length % 2 = 0 ∨ s.floatingNodes.length = 0 then
      Helper.randomBetweenMin draws.right (s.size.width + width)
        (s.size.width + offsets.bottomOffset)
    else left
  s.addChild { bubble with position := ⟨x, y⟩ }

end BubbleScene

/-- A `voteForArtist` call, with the bubble it was made for. -/
structure ArtistVote where
  node : Nat
  artist : NSString
  value : Bool
  deriving DecidableEq

abbrev TrendingState := SceneState BubbleContent (List ArtistVote)

namespace TrendingViewController

def performVoteForNodeAtIndex (value : Bool) : DelegateReport BubbleContent (List ArtistVote) :=
  fun scene index votes => do
    let node ← objectAtIndex scene.floatingNodes index
    return votes ++ [{ node, artist := BubbleNode.artist (scene.nodes node).content, value }]

/-- The delegate implements two of the optional methods. -/
def floatingDelegate : SIFloatingCollectionSceneDelegate BubbleContent (List ArtistVote) where
  didTapFloatingNodeAtIndex := some (performVoteForNodeAtIndex true)
  didLongPressFloatingNodeAtIndex := some (performVoteForNodeAtIndex false)

/-- The presented scene, before any artist has arrived. -/
def init (size : CGSize) (offsets : BubbleOffsets) (blank : SIFloatingNode BubbleContent) :
    TrendingState where
  scene := BubbleScene.configure offsets
    (SIFloatingCollectionScene.initWithSize size blank).configureScene
  delegate := []

inductive TrendingEvent where
  | addArtist (name : NSString) (radius : Int) (draws : BubbleScene.Draws)
  | scene (event : SceneEvent)

def step (g : Geometry) (offsets : BubbleOffsets) (s : TrendingState) :
    TrendingEvent → Except Stuck TrendingState
  | .addArtist name radius draws =>
    match BubbleNode.instantiateWithText g name radius with
    | .error exception => .error (.raised exception)
    | .ok bubble => .ok { s with scene := BubbleScene.addChild offsets s.scene bubble draws }
  | .scene event => SceneState.step g floatingDelegate s event

end TrendingViewController

end CrowdSound
