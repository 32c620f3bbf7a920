import CrowdSound.Core.GrpcCall

/-!
# Messages on the wire

A stream carries a message as its length and flags followed by slices that add up to the length.
This module states which messages a sequence of stream operations carries, without reference to
a call, and that the framing of messages carries exactly these messages.
-/

namespace CrowdSound.Core

/-- How far the message being read has come; `flags` are those of the last message that was not
empty. -/
structure Assembly where
  algorithm : CompressionAlgorithm
  flags : UInt32
  pending : Option (UInt32 × List Bytes)
  deriving DecidableEq

namespace Assembly

def initial : Assembly := ⟨.none, 0, none⟩

def message (a : Assembly) (slices : List Bytes) : ByteBuffer :=
  ⟨if isCompressed a.flags then a.algorithm else .none, slices⟩

/-- Only the name of the compression algorithm matters. -/
def mdelem (a : Assembly) (md : Metadata) : Option Assembly :=
  if md.key = mdstr "grpc-encoding" then
    match CompressionAlgorithm.parse (md.value.takeWhile (· ≠ 0)) with
    | some algorithm => some { a with algorithm := algorithm }
    | none => none
  else some a

def mdelems (a : Assembly) : List Metadata → Option Assembly
  | [] => some a
  | md :: list => match a.mdelem md with
    | some a => a.mdelems list
    | none => none

def addSlice (a : Assembly) (length : UInt32) (slices : List Bytes) :
    Option (Assembly × List ByteBuffer) :=
  if slices.flatten.length > length.toNat then none
  else if slices.flatten.length = length.toNat then
    some ({ a with pending := none }, [a.message slices])
  else some ({ a with pending := some (length, slices) }, [])

/-- The effect of a stream operation and the messages that it completes, or nothing if the
operation is malformed. -/
def feed (maxMessageLength : UInt32) (a : Assembly) :
    StreamOp → Option (Assembly × List ByteBuffer)
  | .noOp => some (a, [])
  | .metadata batch => match a.mdelems batch.list with
    | some a => some (a, [])
    | none => none
  | .beginMessage length flags =>
    if a.pending.isSome || (isCompressed flags && a.algorithm = .none) ||
        length > maxMessageLength then none
    else if length > 0 then some ({ a with flags := flags, pending := some (length, []) }, [])
    else some (a, [a.message []])
  | .slice slice =>
    if slice = [] then some (a, [])
    else match a.pending with
      | none => none
      | some (length, slices) => a.addSlice length (slices ++ [slice])

def feedAll (maxMessageLength : UInt32) (a : Assembly) :
    List StreamOp → Option (Assembly × List ByteBuffer)
  | [] => some (a, [])
  | op :: ops => match a.feed maxMessageLength op with
    | none => none
    | some (a, out) => match a.feedAll maxMessageLength ops with
      | none => none
      | some (a, more) => some (a, out ++ more)

theorem feedAll_cons {max : UInt32} {a b : Assembly} {op : StreamOp} {ops : List StreamOp}
    {out : List ByteBuffer} : a.feedAll max (op :: ops) = some (b, out) ↔
      ∃ c first more, a.feed max op = some (c, first) ∧ c.feedAll max ops = some (b, more) ∧
        out = first ++ more := by
  rw [feedAll]
  cases h : a.feed max op with
  | none => simp
  | some r =>
      rcases r with ⟨c, first⟩
      dsimp only
      cases h' : c.feedAll max ops with
      | none =>
          simp only [reduceCtorEq, Option.some.injEq, Prod.mk.injEq, false_iff]
          rintro ⟨c', first', more, ⟨rfl, rfl⟩, hm, _⟩
          simp [h'] at hm
      | some r' =>
          rcases r' with ⟨b', more⟩
          simp only [Option.some.injEq, Prod.mk.injEq]
          constructor
          · rintro ⟨rfl, rfl⟩
            exact ⟨c, first, more, ⟨rfl, rfl⟩, h', rfl⟩
          · rintro ⟨c', first', more', ⟨rfl, rfl⟩, hm, rfl⟩
            rw [h'] at hm
            simpa using hm

/-- What is left without the no-ops and the empty slices. -/
def content (ops : List StreamOp) : List StreamOp :=
  ops.filter fun op => op ≠ .noOp ∧ op ≠ .slice []

theorem feedAll_content {max : UInt32} (a : Assembly) (ops : List StreamOp) :
    a.feedAll max (content ops) = a.feedAll max ops := by
  have hskip : ∀ (a : Assembly) (op : StreamOp) (rest : List StreamOp),
      a.feed max op = some (a, []) → a.feedAll max (op :: rest) = a.feedAll max rest := by
    intro a op rest hop
    rw [feedAll, hop]
    cases hrest : a.feedAll max rest <;> simp [hrest]
  induction ops generalizing a with
  | nil => rfl
  | cons op ops ih =>
      by_cases hop : op ≠ .noOp ∧ op ≠ .slice []
      · rw [content, List.filter_cons_of_pos (by simpa using hop), feedAll, feedAll]
        cases a.feed max op with
        | none => rfl
        | some r =>
            dsimp only
            rw [← ih r.1, content]
      · rw [content, List.filter_cons_of_neg (by simpa using hop)]
        rw [not_and_or, not_ne_iff, not_ne_iff] at hop
        rw [hskip a op ops (by rcases hop with rfl | rfl <;> simp [feed])]
        exact ih a

theorem feedAll_append {max : UInt32} {a b : Assembly} {ops ops' : List StreamOp}
    {out : List ByteBuffer} : a.feedAll max (ops ++ ops') = some (b, out) ↔
      ∃ c first more, a.feedAll max ops = some (c, first) ∧ c.feedAll max ops' = some (b, more) ∧
        out = first ++ more := by
  induction ops generalizing a out with
  | nil =>
      constructor
      · exact fun h => ⟨a, [], out, rfl, h, rfl⟩
      · rintro ⟨c, first, more, h, h', rfl⟩
        cases h
        exact h'
  | cons op ops ih =>
      simp only [List.cons_append, feedAll_cons, ih]
      constructor
      · rintro ⟨c, first, _, h, ⟨d, second, more, h', h'', rfl⟩, rfl⟩
        exact ⟨d, first ++ second, more, ⟨c, first, second, h, h', rfl⟩, h'',
          by rw [List.append_assoc]⟩
      · rintro ⟨d, _, more, ⟨c, first, second, h, h', rfl⟩, h'', rfl⟩
        exact ⟨c, first, second ++ more, h, ⟨d, second, more, h', h'', rfl⟩,
          by rw [List.append_assoc]⟩

end Assembly

/-- A message as it is sent: its flags and its bytes in slices. -/
structure WireMessage where
  flags : UInt32
  slices : List Bytes
  deriving DecidableEq

namespace WireMessage

def length (m : WireMessage) : Nat := m.slices.flatten.length

def frame (m : WireMessage) : List StreamOp :=
  .beginMessage (UInt32.ofNat m.length) m.flags :: m.slices.map .slice

/-- The receiver accepts the message: it is not too long, and compressed only if an algorithm
was agreed on. -/
def Fits (maxMessageLength : UInt32) (algorithm : CompressionAlgorithm) (m : WireMessage) : Prop :=
  m.length ≤ maxMessageLength.toNat ∧ (isCompressed m.flags = true → algorithm ≠ .none)

end WireMessage

namespace Assembly

/-- The flags that a message is received with: an empty message has those of the one before. -/
def flagsOf (a : Assembly) (m : WireMessage) : UInt32 := if m.length = 0 then a.flags else m.flags

def received (a : Assembly) : List WireMessage → List ByteBuffer
  | [] => []
  | m :: ms =>
    let b := { a with flags := a.flagsOf m }
    b.message (m.slices.filter (· ≠ [])) :: b.received ms

private theorem feedAll_empty_slices {max : UInt32} (a : Assembly) (slices : List Bytes)
    (hempty : ∀ s ∈ slices, s = []) : a.feedAll max (slices.map .slice) = some (a, []) := by
  induction slices with
  | nil => rfl
  | cons slice slices ih =>
      have hs := hempty slice (by simp)
      subst hs
      rw [List.map_cons, feedAll_cons]
      exact ⟨a, [], [], by simp [feed], ih fun s hs => hempty s (by simp [hs]), rfl⟩

theorem feedAll_slices {max : UInt32} (a : Assembly) (length : UInt32) (slices sofar : List Bytes)
    (hsofar : sofar.flatten.length < length.toNat)
    (hlength : (sofar ++ slices).flatten.length = length.toNat) :
    { a with pending := some (length, sofar) }.feedAll max (slices.map .slice) =
      some ({ a with pending := none }, [a.message (sofar ++ slices.filter (· ≠ []))]) := by
  induction slices generalizing sofar with
  | nil =>
      rw [List.append_nil] at hlength
      omega
  | cons slice slices ih =>
      rw [List.map_cons]
      by_cases hs : slice = []
      · subst hs
        have h := ih sofar hsofar (by simpa using hlength)
        rw [feedAll_cons]
        exact ⟨_, [], _, by simp [feed], h, by simp⟩
      · have hmore : (sofar ++ [slice]).flatten.length + slices.flatten.length =
            length.toNat := by
          rw [← hlength]
          simp [Nat.add_assoc]
        have hfeed : feed max { a with pending := some (length, sofar) } (.slice slice) =
            addSlice { a with pending := some (length, sofar) } length (sofar ++ [slice]) := by
          simp [feed, hs]
        by_cases hlast : (sofar ++ [slice]).flatten.length = length.toNat
        · have hrest : ∀ s ∈ slices, s = [] := by
            have hzero : slices.flatten = [] := List.eq_nil_of_length_eq_zero (by omega)
            simpa using hzero
          have hfilter : slices.filter (· ≠ []) = [] := by
            simpa using hrest
          rw [feedAll_cons]
          refine ⟨{ a with pending := none }, [a.message (sofar ++ [slice])], [], ?_,
            feedAll_empty_slices _ _ hrest, ?_⟩
          · rw [hfeed, addSlice, if_neg (by omega), if_pos hlast]
            rfl
          · rw [List.filter_cons_of_pos (by simpa using hs), hfilter]
            rfl
        · have h := ih (sofar ++ [slice]) (by omega) (by simpa using hlength)
          rw [feedAll_cons]
          refine ⟨{ a with pending := some (length, sofar ++ [slice]) }, [], _, ?_, h, ?_⟩
          · rw [hfeed, addSlice, if_neg (by omega), if_neg hlast]
          · rw [List.filter_cons_of_pos (by simpa using hs)]
            simp

theorem feedAll_frame {max : UInt32} (a : Assembly) (m : WireMessage) (hidle : a.pending = none)
    (hfits : m.Fits max a.algorithm) :
    a.feedAll max m.frame = some ({ a with flags := a.flagsOf m },
      [message { a with flags := a.flagsOf m } (m.slices.filter (· ≠ []))]) := by
  have hnat : (UInt32.ofNat m.length).toNat = m.length := by
    rw [UInt32.toNat_ofNat']
    exact Nat.mod_eq_of_lt (Nat.lt_of_le_of_lt hfits.1 max.toNat_lt)
  have hmax : ¬ UInt32.ofNat m.length > max := by
    rw [gt_iff_lt, UInt32.lt_iff_toNat_lt, hnat]
    exact Nat.not_lt.mpr hfits.1
  have hcompressed : (isCompressed m.flags && decide (a.algorithm = .none)) = false := by
    cases hc : isCompressed m.flags with
    | false => rfl
    | true => simpa using hfits.2 hc
  have hbegin : feed max a (.beginMessage (UInt32.ofNat m.length) m.flags) =
      if UInt32.ofNat m.length > 0 then
        some ({ a with flags := m.flags, pending := some (UInt32.ofNat m.length, []) }, [])
      else some (a, [a.message []]) := by
    simp [feed, hidle, hcompressed, hmax]
  have hpos : UInt32.ofNat m.length > 0 ↔ 0 < m.length := by
    rw [gt_iff_lt, UInt32.lt_iff_toNat_lt, hnat]
    rfl
  rw [WireMessage.frame, feedAll_cons]
  by_cases hlen : m.length = 0
  · have hempty : ∀ s ∈ m.slices, s = [] := by
      have hzero : m.slices.flatten = [] := List.eq_nil_of_length_eq_zero hlen
      simpa using hzero
    have hfilter : m.slices.filter (· ≠ []) = [] := by
      simpa using hempty
    have hflags : a.flagsOf m = a.flags := if_pos hlen
    rw [hflags, hfilter]
    refine ⟨a, [a.message []], [], ?_, feedAll_empty_slices a _ hempty, rfl⟩
    rw [hbegin, if_neg (by rw [hpos]; omega)]
  · have hflags : a.flagsOf m = m.flags := if_neg hlen
    have hslices := @feedAll_slices max { a with flags := m.flags } (UInt32.ofNat m.length)
      m.slices [] (by rw [hnat]; exact Nat.pos_of_ne_zero hlen)
      (by rw [hnat]; rfl)
    rw [← hidle] at hslices
    rw [hflags]
    refine ⟨_, [], _, ?_, hslices, rfl⟩
    · rw [hbegin, if_pos (by rw [hpos]; omega)]

theorem feedAll_frames {max : UInt32} (ms : List WireMessage) (a : Assembly)
    (hidle : a.pending = none) (hfits : ∀ m ∈ ms, m.Fits max a.algorithm) :
    ∃ b, a.feedAll max (ms.flatMap WireMessage.frame) = some (b, a.received ms) ∧
      b.pending = none ∧ b.algorithm = a.algorithm := by
  induction ms generalizing a with
  | nil => exact ⟨a, rfl, hidle, rfl⟩
  | cons m ms ih =>
      have hframe := feedAll_frame a m hidle (hfits m (by simp))
      obtain ⟨b, hb, hpending, halgorithm⟩ := ih { a with flags := a.flagsOf m } hidle
        fun m' hm' => hfits m' (by simp [hm'])
      refine ⟨b, ?_, hpending, halgorithm⟩
      rw [List.flatMap_cons, feedAll_append]
      exact ⟨_, _, _, hframe, hb, rfl⟩

theorem feedAll_metadata {max : UInt32} {a b : Assembly} {ops : List StreamOp}
    {out : List ByteBuffer} (hops : ∀ op ∈ ops, ∃ batch, op = .metadata batch)
    (h : a.feedAll max ops = some (b, out)) : out = [] := by
  induction ops generalizing a out with
  | nil =>
      cases h
      rfl
  | cons op ops ih =>
      obtain ⟨c, first, more, hop, hmore, rfl⟩ := feedAll_cons.mp h
      obtain ⟨batch, rfl⟩ := hops op (by simp)
      have hrest := ih (fun op' hop' => hops op' (by simp [hop'])) hmore
      cases hmd : a.mdelems batch.list with
      | none => simp [feed, hmd] at hop
      | some a' =>
          simp only [feed, hmd, Option.some.injEq, Prod.mk.injEq] at hop
          rw [← hop.2, hrest, List.append_nil]

theorem received_data (a : Assembly) (ms : List WireMessage) :
    (a.received ms).map (fun b => b.slices.flatten) = ms.map fun m => m.slices.flatten := by
  have hfilter : ∀ slices : List Bytes, (slices.filter (· ≠ [])).flatten = slices.flatten := by
    intro slices
    induction slices with
    | nil => rfl
    | cons s slices ih => by_cases hs : s = [] <;> simp_all
  induction ms generalizing a with
  | nil => rfl
  | cons m ms ih =>
      rw [received, List.map_cons, List.map_cons, ih]
      exact congrArg (· :: _) (hfilter m.slices)

end Assembly

end CrowdSound.Core
