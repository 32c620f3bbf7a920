import CrowdSound.Bubbles.Trending
import CrowdSound.Library.ObjectArrays
import CrowdSound.Service.Completion
import Mathlib.Data.Rat.Floor

/-!
# The bubbles of the trending artists

When the artists have arrived, the highest score decides how a score becomes a radius. With a
positive highest score, a score is divided by it as an integer, and only the quotient is converted:
it is one at the top, zero down to the opposite of the highest score, and negative below that.
-/

namespace CrowdSound

open CSServiceInterface ObjectArrays

namespace TrendingViewController

def highestWeight (artists : List TrendingArtist) : Int :=
  artists.foldl (fun highestWeight artist =>
    if highestWeight < artist.weight then artist.weight else highestWeight) (-1)

def intOfDouble (x : ℚ) : Int := x.num.tdiv x.den

def bubbleRadius (highestWeight weight : Int) : Option Int :=
  if highestWeight = 0 then some (highestWeight * (60 - 30) + 30)
  else if highestWeight > 0 then
    let multFactor : ℚ := weight.tdiv highestWeight
    if multFactor < 0 then none else some (intOfDouble (multFactor * (60 - 30) + 30))
  else none

/-- A nil text raises; `draws` are the random numbers for the position of each node. -/
def addBubble (g : Geometry) (offsets : BubbleOffsets) (draws : Nat → BubbleScene.Draws)
    (highestWeight : Int) (s : TrendingState) (artist : TrendingArtist) :
    Except NSException TrendingState :=
  match bubbleRadius highestWeight artist.weight with
  | none => .ok s
  | some radius => do
    let text ← match artist.name with
      | some name => .ok name
      | none => .error .invalidArgumentException
    let node ← BubbleNode.instantiateWithText g text radius
    return { s with scene := BubbleScene.addChild offsets s.scene node (draws s.scene.created) }

def viewDidLoadContinuation (g : Geometry) (offsets : BubbleOffsets)
    (draws : Nat → BubbleScene.Draws) (s : TrendingState)
    (outcome : BFOutcome (List TrendingArtist)) : Except NSException TrendingState :=
  match outcome with
  | .error _ => .ok s
  | .result artists => artists.foldlM (addBubble g offsets draws (highestWeight artists)) s

private theorem highestWeight_spec (artists : List TrendingArtist) :
    (∀ artist ∈ artists, artist.weight ≤ highestWeight artists) ∧ -1 ≤ highestWeight artists ∧
      (highestWeight artists = -1 ∨ ∃ artist ∈ artists, artist.weight = highestWeight artists) := by
  have hfold : ∀ (artists : List TrendingArtist) (highest : Int),
      let highest' := artists.foldl (fun highestWeight artist =>
        if highestWeight < artist.weight then artist.weight else highestWeight) highest
      (∀ artist ∈ artists, artist.weight ≤ highest') ∧ highest ≤ highest' ∧
        (highest' = highest ∨ ∃ artist ∈ artists, artist.weight = highest') := by
    intro artists
    induction artists with
    | nil => simp
    | cons artist artists ih =>
        intro highest
        have hmax : (if highest < artist.weight then artist.weight else highest) =
            max highest artist.weight := by
          split <;> omega
        obtain ⟨hall, hle, hreached⟩ := ih (max highest artist.weight)
        simp only [List.foldl_cons, hmax]
        refine ⟨?_, (le_max_left _ _).trans hle, ?_⟩
        · intro other hother
          rcases List.mem_cons.mp hother with hfirst | hother
          · rw [hfirst]
            exact (le_max_right _ _).trans hle
          · exact hall other hother
        · rcases hreached with hsame | ⟨other, hother, heq⟩
          · rw [hsame]
            apply (max_choice highest artist.weight).imp_right
            exact fun hbest => ⟨artist, List.mem_cons_self, hbest.symm⟩
          · exact Or.inr ⟨other, List.mem_cons_of_mem _ hother, heq⟩
  exact hfold artists (-1)

private theorem tdiv_neg_iff {weight highest : Int} (hpos : 0 < highest) :
    weight.tdiv highest < 0 ↔ weight ≤ -highest := by
  constructor
  · intro hneg
    by_contra hnot
    rcases lt_or_ge weight 0 with hlt | hge
    · have hzero : weight.tdiv highest = 0 := by
        rw [← Int.neg_neg weight, Int.neg_tdiv, Int.tdiv_eq_zero_of_lt (by omega) (by omega)]
        rfl
      omega
    · have hnonneg := Int.tdiv_nonneg hge (Int.le_of_lt hpos)
      omega
  · intro hle
    have hflip : weight.tdiv highest = -((-weight).tdiv highest) := by
      rw [Int.neg_tdiv, Int.neg_neg]
    have hone : 1 ≤ (-weight).tdiv highest := by
      rw [Int.tdiv_eq_ediv_of_nonneg (by omega)]
      exact (Int.le_ediv_iff_mul_le hpos).mpr (by omega)
    omega

private theorem tdiv_of_le {weight highest : Int} (hpos : 0 < highest) (hnonneg : 0 ≤ weight)
    (hle : weight ≤ highest) :
    weight.tdiv highest = if weight = highest then 1 else 0 := by
  split
  next htop =>
    rw [htop]
    exact Int.tdiv_self (by omega)
  next hbelow => exact Int.tdiv_eq_zero_of_lt hnonneg (by omega)

private theorem intOfDouble_intCast (n : Int) : intOfDouble n = n := by
  simp [intOfDouble]

private theorem bubbleRadius_of_le {weight highest : Int} (hpos : 0 < highest)
    (hnonneg : 0 ≤ weight) (hle : weight ≤ highest) :
    bubbleRadius highest weight = some (if weight = highest then 60 else 30) := by
  have hne : highest ≠ 0 := by omega
  rw [bubbleRadius, if_neg hne, if_pos hpos, tdiv_of_le hpos hnonneg hle]
  dsimp only
  split
  · have hcast : ((1 : Int) : ℚ) * (60 - 30) + 30 = (60 : Int) := by norm_num
    have hpositive : ¬ ((1 : Int) : ℚ) < 0 := by norm_num
    rw [if_neg hpositive, hcast, intOfDouble_intCast]
  · have hcast : ((0 : Int) : ℚ) * (60 - 30) + 30 = (30 : Int) := by norm_num
    have hzero : ¬ ((0 : Int) : ℚ) < 0 := by norm_num
    rw [if_neg hzero, hcast, intOfDouble_intCast]

private theorem bubbleRadius_isSome {weight highest : Int} :
    (bubbleRadius highest weight).isSome = true ↔
      highest = 0 ∨ 0 < highest ∧ -highest < weight := by
  unfold bubbleRadius
  by_cases hzero : highest = 0
  · simp [hzero]
  · rw [if_neg hzero]
    by_cases hpos : 0 < highest
    · have hneg : ((weight.tdiv highest : Int) : ℚ) < 0 ↔ weight ≤ -highest := by
        rw [← tdiv_neg_iff hpos]
        exact Int.cast_lt_zero
      rw [if_pos hpos]
      by_cases hle : weight ≤ -highest
      · have hnot : ¬ -highest < weight := by omega
        simp [hneg.mpr hle, hzero, hnot]
      · have hlt : -highest < weight := by omega
        simp [mt hneg.mp hle, hpos, hlt]
    · simp [hzero, hpos]

/-- Every radius is the exact one, rounded down, and so lies between the smallest and the largest,
which the best artists get, and grows with the score. -/
structure ProportionalRadii (artists : List TrendingArtist) (highest : Int) : Prop where
  exact : ∀ artist ∈ artists, 0 ≤ artist.weight →
    bubbleRadius (highestWeight artists) artist.weight =
      some ⌊(30 + 30 * artist.weight / highest : ℚ)⌋
  bounds : ∀ artist ∈ artists, 0 ≤ artist.weight →
    ∀ radius ∈ bubbleRadius (highestWeight artists) artist.weight, 30 ≤ radius ∧ radius ≤ 60
  top : ∀ artist ∈ artists, artist.weight = highest →
    bubbleRadius (highestWeight artists) artist.weight = some 60
  monotone : ∀ artist ∈ artists, ∀ other ∈ artists, 0 ≤ artist.weight →
    artist.weight ≤ other.weight →
    ∀ radius ∈ bubbleRadius (highestWeight artists) artist.weight,
      ∀ radius' ∈ bubbleRadius (highestWeight artists) other.weight, radius ≤ radius'

private theorem highestWeight_eq {artists : List TrendingArtist} {highest : Int}
    (hmax : (artists.map (·.weight)).max? = some highest) (hpos : 0 < highest) :
    highestWeight artists = highest := by
  have hspec := List.max?_eq_some_iff.mp hmax
  have hmem : ∃ artist ∈ artists, artist.weight = highest := List.mem_map.mp hspec.1
  have hall : ∀ artist ∈ artists, artist.weight ≤ highest := by
    intro artist hartist
    exact hspec.2 artist.weight (List.mem_map_of_mem hartist)
  obtain ⟨hle, _, hreached⟩ := highestWeight_spec artists
  obtain ⟨best, hbest, heq⟩ := hmem
  have hlower := hle best hbest
  rcases hreached with hnone | ⟨artist, hartist, hweight⟩
  · omega
  · have hupper := hall artist hartist
    omega

private theorem floor_top {highest : Int} (hpos : 0 < highest) :
    ⌊(30 + 30 * highest / highest : ℚ)⌋ = 60 := by
  have hne : (highest : ℚ) ≠ 0 := by
    exact_mod_cast hpos.ne'
  have hquotient : (30 + 30 * highest / highest : ℚ) = (60 : Int) := by
    rw [mul_div_assoc, div_self hne]
    norm_num
  rw [hquotient, Int.floor_intCast]

private theorem floor_eq_iff {highest weight : Int} (hpos : 0 < highest) (hnonneg : 0 ≤ weight) :
    ⌊(30 + 30 * weight / highest : ℚ)⌋ = 30 ↔ 30 * weight < highest := by
  have hcast : (0 : ℚ) < highest := by
    exact_mod_cast hpos
  have hquotient : (0 : ℚ) ≤ 30 * weight / highest := by
    have hweight : (0 : ℚ) ≤ weight := by
      exact_mod_cast hnonneg
    positivity
  rw [Int.floor_eq_iff]
  constructor
  · intro h
    have hlt : (30 * weight / highest : ℚ) < 1 := by
      have hupper := h.2
      push_cast at hupper
      linarith
    rw [div_lt_one hcast] at hlt
    exact_mod_cast hlt
  · intro h
    have hlt : (30 * weight / highest : ℚ) < 1 := by
      rw [div_lt_one hcast]
      exact_mod_cast h
    constructor
    · push_cast
      linarith
    · push_cast
      linarith

/-- The radii are proportional exactly when no artist is in between: each has the highest score, or
less than a thirtieth of it. -/
theorem proportionalRadii_iff (artists : List TrendingArtist) (highest : Int)
    (hmax : (artists.map (·.weight)).max? = some highest) (hpos : 0 < highest) :
    ProportionalRadii artists highest ↔
      ∀ artist ∈ artists, 0 ≤ artist.weight →
        artist.weight = highest ∨ 30 * artist.weight < highest := by
  have hhighest := highestWeight_eq hmax hpos
  have hle : ∀ artist ∈ artists, artist.weight ≤ highest := by
    rw [← hhighest]
    exact (highestWeight_spec artists).1
  have hradius : ∀ artist ∈ artists, 0 ≤ artist.weight →
      bubbleRadius highest artist.weight = some (if artist.weight = highest then 60 else 30) :=
    fun artist hartist hnonneg => bubbleRadius_of_le hpos hnonneg (hle artist hartist)
  constructor
  · intro h artist hartist hnonneg
    have hexact := h.exact artist hartist hnonneg
    rw [hhighest, hradius artist hartist hnonneg] at hexact
    by_cases htop : artist.weight = highest
    · exact Or.inl htop
    · rw [if_neg htop] at hexact
      exact Or.inr ((floor_eq_iff hpos hnonneg).mp (Option.some.inj hexact).symm)
  · intro h
    constructor
    · intro artist hartist hnonneg
      rw [hhighest, hradius artist hartist hnonneg]
      rcases h artist hartist hnonneg with htop | hbelow
      · rw [if_pos htop, htop, floor_top hpos]
      · have hne : artist.weight ≠ highest := by omega
        rw [if_neg hne, (floor_eq_iff hpos hnonneg).mpr hbelow]
    · intro artist hartist hnonneg radius hmem
      rw [hhighest, hradius artist hartist hnonneg] at hmem
      have heq := Option.mem_some_iff.mp hmem
      split at heq <;> omega
    · intro artist hartist htop
      have hnonneg : 0 ≤ artist.weight := by omega
      rw [hhighest, hradius artist hartist hnonneg, if_pos htop]
    · intro artist hartist other hother hnonneg hweights radius hmem radius' hmem'
      have hnonneg' : 0 ≤ other.weight := by omega
      have hbound := hle other hother
      rw [hhighest, hradius artist hartist hnonneg] at hmem
      rw [hhighest, hradius other hother hnonneg'] at hmem'
      have heq := Option.mem_some_iff.mp hmem
      have heq' := Option.mem_some_iff.mp hmem'
      split at heq <;> split at heq' <;> omega

/-- Scores 40, 1 and 0. -/
theorem proportionalRadii_iff_spread :
    ProportionalRadii [⟨none, 40⟩, ⟨none, 1⟩, ⟨none, 0⟩] 40 ↔
      ∀ artist ∈ [(⟨none, 40⟩ : TrendingArtist), ⟨none, 1⟩, ⟨none, 0⟩], 0 ≤ artist.weight →
        artist.weight = 40 ∨ 30 * artist.weight < 40 :=
  proportionalRadii_iff _ 40 rfl (by decide)

/-- An artist with half the highest score gets the smallest radius instead of 45. -/
theorem proportionalRadii_half :
    ¬ ProportionalRadii [⟨some (nsstring ['d', 'r', 'a', 'k', 'e']), 10⟩,
      ⟨some (nsstring ['m', 'u', 's', 'e']), 5⟩] 10 := by
  intro h
  have hexact := h.exact _ (List.mem_cons_of_mem _ List.mem_cons_self) (by decide)
  have hradius : bubbleRadius (highestWeight [⟨some (nsstring ['d', 'r', 'a', 'k', 'e']), 10⟩,
      ⟨some (nsstring ['m', 'u', 's', 'e']), 5⟩]) 5 = some 30 :=
    bubbleRadius_of_le (by decide) (by decide) (by decide)
  rw [hradius] at hexact
  have hfloor := (Option.some.inj hexact).symm
  have hsmall := (floor_eq_iff (by decide) (by decide)).mp hfloor
  exact absurd hsmall (by decide)

section Shown

variable (g : Geometry) (offsets : BubbleOffsets) (draws : Nat → BubbleScene.Draws)

private theorem addBubble_ok (highestWeight : Int) (s : TrendingState) {artist : TrendingArtist}
    {name : NSString} (hname : artist.name = some name) :
    ∃ s', addBubble g offsets draws highestWeight s artist = .ok s' ∧
      if (bubbleRadius highestWeight artist.weight).isSome then
        s'.scene.floatingNodes = s.scene.floatingNodes ++ [s.scene.created] ∧
          s'.scene.created = s.scene.created + 1 ∧
          BubbleNode.artist (s'.scene.nodes s.scene.created).content = name ∧
          ∀ node < s.scene.created, s'.scene.nodes node = s.scene.nodes node
      else s' = s := by
  unfold addBubble
  cases hradius : bubbleRadius highestWeight artist.weight with
  | none => exact ⟨s, rfl, rfl⟩
  | some radius =>
      obtain ⟨bubble, hbubble, _, hartist⟩ := BubbleNode.instantiateWithText_ok g name radius
      rw [hname]
      refine ⟨⟨BubbleScene.addChild offsets s.scene bubble (draws s.scene.created), s.delegate⟩,
        ?_, rfl, rfl, ?_, ?_⟩
      · show (BubbleNode.instantiateWithText g name radius >>= _) = _
        rw [hbubble]
        rfl
      · simpa [BubbleScene.addChild, SIFloatingCollectionScene.addChild,
          SIFloatingCollectionScene.configureNode] using hartist
      · intro node hnode
        have hne : node ≠ s.scene.created := by omega
        simp [BubbleScene.addChild, SIFloatingCollectionScene.addChild, hne]

/-- The names on the bubbles that a state has after those of an earlier one. -/
def addedArtists (s s' : TrendingState) : List NSString :=
  (s'.scene.floatingNodes.drop s.scene.floatingNodes.length).map fun node =>
    BubbleNode.artist (s'.scene.nodes node).content

/-- The loop adds a bubble for each response whose score has a radius, in the order of the
responses. -/
theorem foldlM_addBubble (highestWeight : Int) (responses : List CSListTrendingArtistsResponse)
    (s : TrendingState) :
    ∃ s', (responses.map fun response => trendingArtist (some response)).foldlM
        (addBubble g offsets draws highestWeight) s = .ok s' ∧
      ∃ added, s'.scene.floatingNodes = s.scene.floatingNodes ++ added ∧
        added.map (fun node => BubbleNode.artist (s'.scene.nodes node).content) =
          (responses.filter fun response =>
            (bubbleRadius highestWeight response.score).isSome).map (·.name) ∧
        ∀ node < s.scene.created, s'.scene.nodes node = s.scene.nodes node := by
  induction responses generalizing s with
  | nil => exact ⟨s, rfl, [], by simp⟩
  | cons response responses ih =>
      have hname : (trendingArtist (some response)).name = some response.name := rfl
      obtain ⟨s₁, hfirst, heffect⟩ := addBubble_ok g offsets draws highestWeight s hname
      obtain ⟨s', hrest, added, hnodes, hnames, hold⟩ := ih s₁
      have hscore : (trendingArtist (some response)).weight = response.score := rfl
      rw [hscore] at heffect
      refine ⟨s', ?_, ?_⟩
      · rw [List.map_cons, List.foldlM_cons, hfirst]
        exact hrest
      · cases hshown : (bubbleRadius highestWeight response.score).isSome with
        | false =>
            rw [hshown] at heffect
            have hsame : s₁ = s := heffect
            rw [hsame] at hnodes hold
            refine ⟨added, hnodes, ?_, hold⟩
            rw [hnames, List.filter_cons_of_neg (by simp [hshown])]
        | true =>
            rw [hshown, if_pos rfl] at heffect
            obtain ⟨hnodes₁, hcreated, hname, hold₁⟩ := heffect
            refine ⟨s.scene.created :: added, ?_, ?_, ?_⟩
            · rw [hnodes, hnodes₁, List.append_assoc, List.singleton_append]
            · rw [List.map_cons, hnames, hold s.scene.created (by omega), hname,
                List.filter_cons, if_pos hshown, List.map_cons]
            · intro node hnode
              rw [hold node (by omega), hold₁ node hnode]

private theorem viewDidLoadContinuation_addedArtists
    (responses : List CSListTrendingArtistsResponse) (s : TrendingState) :
    let artists := responses.map fun response => trendingArtist (some response)
    ∃ s', viewDidLoadContinuation g offsets draws s (.result artists) = .ok s' ∧
      s.scene.floatingNodes <+: s'.scene.floatingNodes ∧
      addedArtists s s' = (responses.filter fun response =>
        (bubbleRadius (highestWeight artists) response.score).isSome).map (·.name) := by
  dsimp only
  obtain ⟨s', hloop, added, hnodes, hnames, _⟩ := foldlM_addBubble g offsets draws
    (highestWeight (responses.map fun response => trendingArtist (some response))) responses s
  refine ⟨s', hloop, ⟨added, hnodes.symm⟩, ?_⟩
  rw [addedArtists, hnodes, List.drop_left, hnames]

end Shown

/-- A negative score is not shown when all scores are negative, or when the highest score is
positive and not over its magnitude. -/
def NegativesHidden (responses : List CSListTrendingArtistsResponse) : Prop :=
  ∀ response ∈ responses, response.score < 0 →
    (∀ other ∈ responses, other.score < 0) ∨
      (∃ other ∈ responses, 0 < other.score) ∧
        ∀ other ∈ responses, other.score ≤ -response.score

private theorem highestWeight_scores (responses : List CSListTrendingArtistsResponse) :
    let highest := highestWeight (responses.map fun response => trendingArtist (some response))
    (∀ response ∈ responses, response.score ≤ highest) ∧ -1 ≤ highest ∧
      (highest = -1 ∨ ∃ response ∈ responses, response.score = highest) := by
  obtain ⟨hle, hlower, hreached⟩ :=
    highestWeight_spec (responses.map fun response => trendingArtist (some response))
  refine ⟨?_, hlower, ?_⟩
  · intro response hresponse
    exact hle _ (List.mem_map_of_mem hresponse)
  · apply hreached.imp_right
    intro h
    obtain ⟨_, hmem, heq⟩ := h
    obtain ⟨response, hresponse, rfl⟩ := List.mem_map.mp hmem
    exact ⟨response, hresponse, heq⟩

private theorem isSome_of_nonneg {responses : List CSListTrendingArtistsResponse}
    {response : CSListTrendingArtistsResponse} (hmem : response ∈ responses)
    (hnonneg : 0 ≤ response.score) :
    (bubbleRadius (highestWeight (responses.map fun response => trendingArtist (some response)))
      response.score).isSome = true := by
  have hle := (highestWeight_scores responses).1 response hmem
  rw [bubbleRadius_isSome]
  omega

private theorem negativesHidden_iff (responses : List CSListTrendingArtistsResponse) :
    NegativesHidden responses ↔ ∀ response ∈ responses, response.score < 0 →
      (bubbleRadius (highestWeight (responses.map fun response => trendingArtist (some response)))
        response.score).isSome = false := by
  obtain ⟨hle, hlower, hreached⟩ := highestWeight_scores responses
  apply forall₂_congr
  intro response hresponse
  apply imp_congr_right
  intro hneg
  rw [← Bool.not_eq_true, bubbleRadius_isSome]
  constructor
  · intro h hshown
    rcases h with hall | ⟨⟨other, hother, hpos⟩, hall⟩
    · rcases hreached with hnone | ⟨best, hbest, heq⟩
      · omega
      · have hlt := hall best hbest
        omega
    · have hotherLe := hle other hother
      rcases hreached with hnone | ⟨best, hbest, heq⟩
      · omega
      · have hbestLe := hall best hbest
        omega
  · intro h
    rcases hreached with hnone | ⟨best, hbest, heq⟩
    · apply Or.inl
      intro other hother
      have hotherLe := hle other hother
      omega
    · by_cases hbestNeg : best.score < 0
      · apply Or.inl
        intro other hother
        have hotherLe := hle other hother
        omega
      · refine Or.inr ⟨⟨best, hbest, by omega⟩, ?_⟩
        intro other hother
        have hotherLe := hle other hother
        omega

/-- The new bubbles are those of the artists without a negative score, in their order, if and only
if every negative score is one that is not shown. -/
theorem viewDidLoadContinuation_nonnegative_iff (g : Geometry) (offsets : BubbleOffsets)
    (draws : Nat → BubbleScene.Draws) (s : TrendingState)
    (responses : List CSListTrendingArtistsResponse) (errorOrNil : Option NSError) :
    ∃ outcome s',
      (getTrendingArtists.respond responses errorOrNil).map StreamCapture.task =
        .ok ⟨some outcome, 1⟩ ∧
      viewDidLoadContinuation g offsets draws s outcome = .ok s' ∧
      s.scene.floatingNodes <+: s'.scene.floatingNodes ∧
      (addedArtists s s' = (responses.filter fun response => 0 ≤ response.score).map (·.name) ↔
        NegativesHidden responses) := by
  obtain ⟨s', hrun, hprefix, hadded⟩ :=
    viewDidLoadContinuation_addedArtists g offsets draws responses s
  refine ⟨_, s', getTrendingArtists_respond responses errorOrNil, hrun, hprefix, ?_⟩
  rw [hadded, negativesHidden_iff, map_filter_eq_iff]
  · apply forall₂_congr
    intro response _
    rw [decide_eq_true_iff, ← Bool.not_eq_true, ← not_le]
    exact not_imp_not.symm
  · intro response hresponse hnonneg
    exact isSome_of_nonneg hresponse (of_decide_eq_true hnonneg)

/-- A score of -3 is shown next to a score of 5. -/
theorem viewDidLoadContinuation_negative :
    let drake := nsstring ['d', 'r', 'a', 'k', 'e']
    let muse := nsstring ['m', 'u', 's', 'e']
    let loading := init ⟨320, 480⟩ ⟨200, 64⟩
      ⟨.normal, .normal, true, 0, ⟨0, 0⟩, ⟨0, 0⟩, true, ⟨[], none⟩⟩
    ((viewDidLoadContinuation ⟨id, max, fun radius => ⟨2 * radius, 2 * radius⟩⟩ ⟨200, 64⟩
      (fun _ => ⟨0, 0, 0⟩) loading (.result ([⟨drake, 5⟩, ⟨muse, -3⟩].map fun response =>
        trendingArtist (some response)))).toOption.map (addedArtists loading)) ≠ some [drake] := by
  decide +kernel

end TrendingViewController

end CrowdSound
