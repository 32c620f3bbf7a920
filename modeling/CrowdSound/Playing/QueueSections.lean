import CrowdSound.Library.ObjectArrays
import CrowdSound.Playing.Fetches
import CrowdSound.Service.Completion

/-!
# The sections of the queue

A fetch of the queue creates one object for each response. The buffered ones are copied to the
array of `Up Next` and then removed from the fetched array, which is left to `Suggested`. Items
inherit the equality of `NSObject`, which compares addresses, so removing a copied object removes
that object only, however many others look the same.
-/

namespace CrowdSound

open ObjectArrays CSServiceInterface

structure QueueObjects where
  heap : List NowPlayingSongItem
  bufferedSongsArray : List Nat
  songsForTableView : List Nat

namespace QueueObjects

def isEqual (object other : Nat) : Bool := object == other

/-- The event handler of the fetch creates an item for each response. -/
def fetchQueue (heap : List NowPlayingSongItem) (responses : List CSGetQueueResponse) :
    Collection NowPlayingSongItem :=
  responses.foldl (fun queue response => queue.addNew (songQueueItem response)) ⟨heap, []⟩

def isBuffered (heap : List NowPlayingSongItem) (object : Nat) : Bool :=
  (heap[object]?.map fun item => item.isBuffered).getD false

/-- `updateQueueData` and its continuation, for a stream without an error. -/
def updateQueueData (s : QueueObjects) (responses : List CSGetQueueResponse) : QueueObjects :=
  let queueWithBuffered := fetchQueue s.heap responses
  let emptied := if s.bufferedSongsArray.length > 0 then [] else s.bufferedSongsArray
  let bufferedSongsArray := queueWithBuffered.array.foldl
    (fun bufferedSongs object => if isBuffered queueWithBuffered.heap object
      then bufferedSongs ++ [object] else bufferedSongs) emptied
  { heap := queueWithBuffered.heap
    bufferedSongsArray
    songsForTableView := removeAll isEqual queueWithBuffered.array bufferedSongsArray }

private theorem fetchQueue_eq (heap : List NowPlayingSongItem)
    (responses : List CSGetQueueResponse) :
    fetchQueue heap responses = ⟨heap ++ responses.map songQueueItem,
      List.range' heap.length responses.length⟩ := by
  have hfold : fetchQueue heap responses =
      (responses.map songQueueItem).foldl Collection.addNew ⟨heap, []⟩ := by
    rw [fetchQueue, List.foldl_map]
  have hheap := Collection.foldl_addNew_heap ⟨heap, []⟩ (responses.map songQueueItem)
  have harray := Collection.foldl_addNew_array ⟨heap, []⟩ (responses.map songQueueItem)
  rw [← hfold] at hheap harray
  rw [List.nil_append, List.length_map] at harray
  cases hqueue : fetchQueue heap responses with
  | mk heap' array' =>
      rw [hqueue] at hheap harray
      exact congrArg₂ Collection.mk hheap harray

private theorem copyLoop_eq (p : Nat → Bool) (copied array : List Nat) :
    array.foldl (fun copied object => if p object then copied ++ [object] else copied) copied =
      copied ++ array.filter p := by
  induction array generalizing copied with
  | nil => simp
  | cons object array ih =>
      rw [List.foldl_cons, ih]
      cases hp : p object <;> simp [hp]

private theorem updateQueueData_arrays (s : QueueObjects) (responses : List CSGetQueueResponse) :
    (s.updateQueueData responses).heap = s.heap ++ responses.map songQueueItem ∧
    (s.updateQueueData responses).bufferedSongsArray =
      (List.range' s.heap.length responses.length).filter
        (isBuffered (s.heap ++ responses.map songQueueItem)) ∧
    (s.updateQueueData responses).songsForTableView =
      (List.range' s.heap.length responses.length).filter fun object =>
        !isBuffered (s.heap ++ responses.map songQueueItem) object := by
  have hemptied : (if s.bufferedSongsArray.length > 0 then [] else s.bufferedSongsArray) =
      ([] : List Nat) := by
    split
    · rfl
    next hlength => exact List.eq_nil_of_length_eq_zero (by omega)
  have hcopied : (s.updateQueueData responses).bufferedSongsArray =
      (List.range' s.heap.length responses.length).filter
        (isBuffered (s.heap ++ responses.map songQueueItem)) := by
    simp only [updateQueueData, hemptied, copyLoop_eq, List.nil_append, fetchQueue_eq]
  have hdistinct : ∀ object other : Nat, isEqual object other = true ↔ object = other := by
    intro object other
    simp [isEqual]
  refine ⟨by rw [updateQueueData, fetchQueue_eq], hcopied, ?_⟩
  have hremoved : (s.updateQueueData responses).songsForTableView =
      removeAll isEqual (List.range' s.heap.length responses.length)
        (s.updateQueueData responses).bufferedSongsArray := by
    simp only [updateQueueData, fetchQueue_eq]
  rw [hremoved, hcopied]
  apply (removeAll_filter_iff (fun object => (hdistinct object object).mpr rfl) _ _).mpr
  intro object _ hnot chosen _ hchosen
  by_contra hequal
  have hsame := (hdistinct object chosen).mp (eq_true_of_ne_false hequal)
  rw [hsame, hchosen] at hnot
  cases hnot

/-- The objects in the arrays, read back, are the buffered items and the others. -/
theorem updateQueueData_read (s : QueueObjects) (responses : List CSGetQueueResponse) :
    Collection.read (s.updateQueueData responses).heap
        (s.updateQueueData responses).bufferedSongsArray =
      (responses.map songQueueItem).filter (fun item => item.isBuffered) ∧
    Collection.read (s.updateQueueData responses).heap
        (s.updateQueueData responses).songsForTableView =
      (responses.map songQueueItem).filter fun item => !item.isBuffered := by
  obtain ⟨hheap, hbuffered, hsuggested⟩ := s.updateQueueData_arrays responses
  have hread : ∀ p : NowPlayingSongItem → Bool,
      Collection.read (s.heap ++ responses.map songQueueItem)
        ((List.range' s.heap.length responses.length).filter fun object =>
          ((s.heap ++ responses.map songQueueItem)[object]?.map p).getD false) =
        (responses.map songQueueItem).filter p := by
    intro p
    have hfilter := Collection.read_filter_range' s.heap (responses.map songQueueItem) p
    rwa [List.length_map] at hfilter
  -- every address of the fetch is one of a new item
  have hnot : (List.range' s.heap.length responses.length).filter (fun object =>
      !isBuffered (s.heap ++ responses.map songQueueItem) object) =
      (List.range' s.heap.length responses.length).filter fun object =>
        ((s.heap ++ responses.map songQueueItem)[object]?.map fun item =>
          !item.isBuffered).getD false := by
    apply List.filter_congr
    intro object hobject
    obtain ⟨i, hi, rfl⟩ := List.mem_range'.mp hobject
    have hlt : s.heap.length + 1 * i < (s.heap ++ responses.map songQueueItem).length := by
      simp only [List.length_append, List.length_map]
      omega
    simp only [isBuffered, List.getElem?_eq_getElem hlt, Option.map_some, Option.getD_some]
  constructor
  · rw [hheap, hbuffered]
    exact hread fun item => item.isBuffered
  · rw [hheap, hsuggested, hnot]
    exact hread fun item => !item.isBuffered

end QueueObjects

/-- For every stream of responses without an error, the queue task ends with one item for each
response; `Up Next` then holds the buffered ones and `Suggested` the others, in order, and every
new object is in one of the two arrays once, whatever they held before. -/
theorem queueSections_partition (device : Device) (responses : List CSGetQueueResponse)
    (s : QueueObjects) (queue : NowPlayingTableViewController) :
    ((getSongQueue.run device).1.respond responses none).map StreamCapture.task =
        .ok ⟨some (.result (responses.map songQueueItem)), 1⟩ ∧
      (let upNext := (responses.filter fun response => response.isBuffered).map songQueueItem
       let suggested := (responses.filter fun response => !response.isBuffered).map songQueueItem
       let objects := s.updateQueueData responses
       let updated := queue.updateQueueContinuation (.result (responses.map songQueueItem))
       Collection.read objects.heap objects.bufferedSongsArray = upNext ∧
         Collection.read objects.heap objects.songsForTableView = suggested ∧
         (objects.bufferedSongsArray ++ objects.songsForTableView).Perm
           (List.range' s.heap.length responses.length) ∧
         updated.bufferedSongsArray = upNext ∧ updated.songsForTableView = suggested) := by
  obtain ⟨_, hbuffered, hsuggested⟩ := s.updateQueueData_arrays responses
  obtain ⟨hreadBuffered, hreadSuggested⟩ := s.updateQueueData_read responses
  obtain ⟨hupNext, hothers⟩ := queue.updateQueueContinuation_sections
    (responses.map songQueueItem)
  have hmap : ∀ p : NowPlayingSongItem → Bool, (responses.map songQueueItem).filter p =
      (responses.filter fun response => p (songQueueItem response)).map songQueueItem :=
    fun p => List.filter_map
  refine ⟨?_, ?_, ?_, ?_, ?_, ?_⟩
  · rw [respond_collects _ songQueueItem (fun _ _ => rfl) rfl]
    rfl
  · exact hreadBuffered.trans (hmap _)
  · exact hreadSuggested.trans (hmap _)
  · rw [hbuffered, hsuggested]
    exact List.filter_append_perm _ _
  · exact hupNext.trans (hmap _)
  · exact hothers.trans (hmap _)

end CrowdSound
