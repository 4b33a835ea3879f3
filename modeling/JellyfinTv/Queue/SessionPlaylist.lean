import JellyfinTv.Library.DistinctBy
import JellyfinTv.Queue.Service
import Mathlib.Data.List.ReduceOption

/-!
# The playlist of the media session

`MediaSessionPlayer` shows the neighbours of the current entry together with
it.  Entries of one media item are merged, and the index of the current one is
then taken from the entries before the merge: the current item is not where
the index points if it was merged into the previous entry and another item
follows.
-/

namespace JellyfinTv.Queue

open Library

/-- `C.INDEX_UNSET`. -/
def INDEX_UNSET : Int := -1

/-- The playlist of media ids and the index of the current one. -/
structure SessionTimeline where
  playlist : List String
  currentMediaItemIndex : Int
  deriving DecidableEq, Repr

section Session

variable {Supplier : Type} [QueueSupplier Supplier]

/-- The ids of the entries, which must not be null. -/
def requireMediaIds (mediaId : QueueEntry → Option String) :
    List QueueEntry → QueueM Supplier (List String)
  | [] => return []
  | entry :: rest =>
      match mediaId entry with
      | none => throw .illegalArgument
      | some id => do
          return id :: (← requireMediaIds mediaId rest)

/-- The part of `getState` that is about the playlist. -/
def getState (mediaId : QueueEntry → Option String) :
    QueueM Supplier SessionTimeline := do
  match (← get).entry with
  | none => return ⟨[], INDEX_UNSET⟩
  | some current =>
      let previous ← peekPrevious
      let next := (← peekNext 1 true false).head?
      let playlist ←
        requireMediaIds mediaId
          (distinctBy mediaId [previous, some current, next].reduceOption)
      return {
        playlist := playlist
        currentMediaItemIndex :=
          if previous = none ∨ playlist.length ≤ 1 then 0 else 1 }

end Session

/-- The ids are distinct and the index points at the given one. -/
structure SessionTimeline.PointsAt (timeline : SessionTimeline)
    (id : String) : Prop where
  distinct : timeline.playlist.Nodup
  inRange :
    0 ≤ timeline.currentMediaItemIndex ∧
      timeline.currentMediaItemIndex < timeline.playlist.length
  current :
    timeline.playlist[timeline.currentMediaItemIndex.toNat]? = some id

/-- If the previous entry is of the item of the current one, so is the next
entry. -/
def TellsApart (mediaId : QueueEntry → String)
    (previous : Option QueueEntry) (current : QueueEntry)
    (next : Option QueueEntry) : Prop :=
  ∀ earlier ∈ previous, mediaId earlier = mediaId current →
    ∀ later ∈ next, mediaId later = mediaId current

/-- What is shown for an entry and its neighbours. -/
def sessionTimeline (mediaId : QueueEntry → String)
    (previous : Option QueueEntry) (current : QueueEntry)
    (next : Option QueueEntry) : SessionTimeline :=
  let playlist :=
    (distinctBy mediaId
      [previous, some current, next].reduceOption).map mediaId
  { playlist := playlist
    currentMediaItemIndex :=
      if previous = none ∨ playlist.length ≤ 1 then 0 else 1 }

section Timeline

variable (mediaId : QueueEntry → String) (current : QueueEntry)

theorem sessionTimeline_distinct (previous next : Option QueueEntry) :
    (sessionTimeline mediaId previous current next).playlist.Nodup :=
  map_distinctBy_nodup mediaId _

/-- Without a previous entry the current one comes first. -/
theorem pointsAt_of_first (next : Option QueueEntry) :
    (sessionTimeline mediaId none current next).PointsAt
      (mediaId current) where
  distinct := sessionTimeline_distinct mediaId current none next
  inRange := by
    simp [sessionTimeline, List.reduceOption, distinctBy]
  current := by
    simp [sessionTimeline, List.reduceOption, distinctBy]

/-- A previous entry of another item is followed by the current one. -/
theorem pointsAt_of_different {previous : QueueEntry}
    (different : mediaId previous ≠ mediaId current)
    (next : Option QueueEntry) :
    (sessionTimeline mediaId (some previous) current next).PointsAt
      (mediaId current) where
  distinct := sessionTimeline_distinct mediaId current (some previous) next
  inRange := by
    have two :
        2 ≤ (sessionTimeline mediaId (some previous) current
          next).playlist.length := by
      simp [sessionTimeline, List.reduceOption, distinctBy, different.symm]
    have second :
        (sessionTimeline mediaId (some previous) current
          next).currentMediaItemIndex = 1 := by
      simp [sessionTimeline, List.reduceOption, distinctBy, different.symm]
    omega
  current := by
    simp [sessionTimeline, List.reduceOption, distinctBy, different.symm]

/-- The current entry is merged into the previous one; the index is right if
nothing else is left. -/
theorem pointsAt_merged_iff {previous : QueueEntry}
    (merged : mediaId previous = mediaId current)
    (next : Option QueueEntry) :
    (sessionTimeline mediaId (some previous) current next).PointsAt
        (mediaId current) ↔
      ∀ later ∈ next, mediaId later = mediaId current := by
  cases next with
  | none =>
      refine iff_of_true ?_ (by simp)
      refine ⟨sessionTimeline_distinct mediaId current _ _, ?_, ?_⟩
      · simp [sessionTimeline, List.reduceOption, distinctBy, merged]
      · simp [sessionTimeline, List.reduceOption, distinctBy, merged]
  | some later =>
      by_cases same : mediaId later = mediaId current
      · refine iff_of_true ?_ (by simpa using same)
        refine ⟨sessionTimeline_distinct mediaId current _ _, ?_, ?_⟩
        · simp [sessionTimeline, List.reduceOption, distinctBy, merged, same]
        · simp [sessionTimeline, List.reduceOption, distinctBy, merged, same]
      · refine iff_of_false ?_ (by simpa using same)
        intro points
        have shown := points.current
        simp [sessionTimeline, List.reduceOption, distinctBy, merged, same]
          at shown

theorem pointsAt_sessionTimeline_iff (previous next : Option QueueEntry) :
    (sessionTimeline mediaId previous current next).PointsAt
        (mediaId current) ↔
      TellsApart mediaId previous current next := by
  cases previous with
  | none =>
      refine iff_of_true (pointsAt_of_first mediaId current next) ?_
      simp [TellsApart]
  | some previous =>
      by_cases merged : mediaId previous = mediaId current
      · rw [pointsAt_merged_iff mediaId current merged]
        simp [TellsApart, merged]
      · refine iff_of_true
          (pointsAt_of_different mediaId current merged next) ?_
        simp [TellsApart, merged]

end Timeline

section Published

variable {Supplier : Type} [QueueSupplier Supplier]
variable (mediaId : QueueEntry → String)

omit [QueueSupplier Supplier] in
theorem requireMediaIds_run (entries : List QueueEntry)
    (queue : QueueService Supplier) :
    (requireMediaIds (fun entry => some (mediaId entry)) entries).run
        queue =
      .ok (entries.map mediaId) queue := by
  induction entries with
  | nil =>
      rfl
  | cons entry rest inductionHypothesis =>
      simp only [requireMediaIds, EStateM.run_bind, inductionHypothesis]
      rfl

theorem distinctBy_some (entries : List QueueEntry) :
    distinctBy (fun entry => some (mediaId entry)) entries =
      distinctBy mediaId entries := by
  induction entries with
  | nil =>
      rfl
  | cons entry rest inductionHypothesis =>
      simp [distinctBy, inductionHypothesis]

theorem getState_run {queue peeked final : QueueService Supplier}
    {current : QueueEntry} {previous : Option QueueEntry}
    {following : List QueueEntry}
    (playing : queue.entry = some current)
    (before : peekPrevious.run queue = .ok previous peeked)
    (behind : (peekNext 1 true false).run peeked = .ok following final) :
    (getState fun entry => some (mediaId entry)).run queue =
      .ok (sessionTimeline mediaId previous current following.head?)
        final := by
  simp only [getState, EStateM.run_bind, EStateM.run_get, playing, before,
    behind, distinctBy_some, requireMediaIds_run]
  rfl

/-- The media session points at the item of the current entry if and only if
the neighbours can be told apart from it. -/
theorem session_points_at_current_iff
    {queue peeked final : QueueService Supplier}
    {current : QueueEntry} {previous : Option QueueEntry}
    {following : List QueueEntry}
    (playing : queue.entry = some current)
    (before : peekPrevious.run queue = .ok previous peeked)
    (behind : (peekNext 1 true false).run peeked = .ok following final) :
    (∃ timeline,
      (getState fun entry => some (mediaId entry)).run queue =
          .ok timeline final ∧
        timeline.PointsAt (mediaId current)) ↔
      TellsApart mediaId previous current following.head? := by
  rw [getState_run mediaId playing before behind,
    ← pointsAt_sessionTimeline_iff]
  simp

end Published

/-- The first entries of a queue, the second of which is played. -/
def playingSecond (entries : List QueueEntry) : QueueService FixedSupplier :=
  run step (QueueService.fresh .default .none fun _ => 0)
    [.addSupplier (.ofList entries), .next true false]

theorem second_of_two_is_shown :
    ∃ timeline final,
      (getState fun entry => some (toString entry.id)).run
          (playingSecond [⟨0⟩, ⟨1⟩]) = .ok timeline final ∧
        timeline.PointsAt "1" := by
  have playing : (playingSecond [⟨0⟩, ⟨1⟩]).entry = some ⟨1⟩ := by
    decide
  have before :
      peekPrevious.run (playingSecond [⟨0⟩, ⟨1⟩]) =
        .ok (some ⟨0⟩) (playingSecond [⟨0⟩, ⟨1⟩]) := by
    rfl
  have behind :
      (peekNext 1 true false).run (playingSecond [⟨0⟩, ⟨1⟩]) =
        .ok [] (playingSecond [⟨0⟩, ⟨1⟩]) := by
    rfl
  obtain ⟨timeline, answered, points⟩ :=
    (session_points_at_current_iff (fun entry => toString entry.id)
      playing before behind).mpr (by simp [TellsApart])
  exact ⟨timeline, _, answered, points⟩

/-- The item is queued twice and another one follows: the index points at
that one. -/
theorem repeated_item_hides_current :
    (playingSecond [⟨0⟩, ⟨1⟩, ⟨2⟩]).entry = some ⟨1⟩ ∧
      ∃ final,
        (getState fun entry =>
            some (if entry.id = 2 then "b" else "a")).run
            (playingSecond [⟨0⟩, ⟨1⟩, ⟨2⟩]) =
          .ok ⟨["a", "b"], 1⟩ final ∧
        ¬(⟨["a", "b"], 1⟩ : SessionTimeline).PointsAt "a" := by
  refine ⟨by decide, _, rfl, ?_⟩
  intro points
  exact absurd points.current (by decide)

end JellyfinTv.Queue
