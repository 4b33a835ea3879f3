import Mathlib.Data.List.Basic
import JellyfinTv.Library.Runs

/-!
# The search

`SearchViewModel` launches a job for every new query that is not blank and
cancels the one before.  A job waits for its debounce, searches all groups at
the same time and shows them once each search has returned.
-/

namespace JellyfinTv.Search

open JellyfinTv.Library

/-- The titles of the groups. -/
inductive StringRes where
  | lbl_movies
  | lbl_series
  | lbl_episodes
  | lbl_videos
  | lbl_programs
  | channels
  | lbl_playlists
  | lbl_artists
  | lbl_albums
  | lbl_songs
  | photo_albums
  | photos
  | lbl_collections
  | lbl_people
  deriving DecidableEq, Repr

inductive BaseItemKind where
  | movie
  | series
  | episode
  | video
  | liveTvProgram
  | liveTvChannel
  | playlist
  | musicArtist
  | musicAlbum
  | audio
  | photoAlbum
  | photo
  | boxSet
  | person
  deriving DecidableEq, Repr

def groups : List (StringRes × List BaseItemKind) :=
  [(.lbl_movies, [.movie]),
    (.lbl_series, [.series]),
    (.lbl_episodes, [.episode]),
    (.lbl_videos, [.video]),
    (.lbl_programs, [.liveTvProgram]),
    (.channels, [.liveTvChannel]),
    (.lbl_playlists, [.playlist]),
    (.lbl_artists, [.musicArtist]),
    (.lbl_albums, [.musicAlbum]),
    (.lbl_songs, [.audio]),
    (.photo_albums, [.photoAlbum]),
    (.photos, [.photo]),
    (.lbl_collections, [.boxSet]),
    (.lbl_people, [.person])]

/-- 600 milliseconds. -/
def debounceDuration : Int :=
  600

/-- `Char.isWhitespace` of Kotlin: the separators of Unicode and the control
characters that count as such. -/
def isWhitespace (char : Char) : Bool :=
  let code := char.toNat
  (0x9 ≤ code && code ≤ 0xD) || (0x1C ≤ code && code ≤ 0x20) ||
    code == 0xA0 || code == 0x1680 || (0x2000 ≤ code && code ≤ 0x200A) ||
    code == 0x2028 || code == 0x2029 || code == 0x202F || code == 0x205F ||
    code == 0x3000

def trim (query : String) : String :=
  String.ofList
    ((query.toList.dropWhile isWhitespace).reverse.dropWhile
      isWhitespace).reverse

def isBlank (query : String) : Bool :=
  query.toList.all isWhitespace

private theorem all_dropWhile {Value : Type} (property : Value → Bool)
    (values : List Value) :
    (values.dropWhile property).all property = values.all property := by
  induction values with
  | nil =>
      rfl
  | cons value rest inductionHypothesis =>
      cases holds : property value with
      | false =>
          rw [List.dropWhile_cons_of_neg (by simp [holds])]
      | true =>
          rw [List.dropWhile_cons_of_pos holds, List.all_cons, holds,
            Bool.true_and, inductionHypothesis]

theorem isBlank_trim (query : String) :
    isBlank (trim query) = isBlank query := by
  unfold isBlank trim
  rw [String.toList_ofList, List.all_reverse, all_dropWhile,
    List.all_reverse, all_dropWhile]

variable {Item : Type}

structure SearchResultGroup (Item : Type) where
  labelRes : StringRes
  items : List Item
  deriving DecidableEq, Repr

/-- Where a job is suspended, with what the searches have returned so far,
or how it has ended. -/
inductive Phase (Item : Type) where
  | delaying
  | searching (deferreds : List (Option (SearchResultGroup Item)))
  | completed
  | cancelled
  deriving DecidableEq, Repr

structure SearchJob (Item : Type) where
  trimmed : String
  phase : Phase Item
  deriving DecidableEq, Repr

/-- What the repository answers to the search that a job makes for a query
and some kinds, none for a failure. -/
abbrev SearchRepository (Item : Type) :=
  Nat → String → List BaseItemKind → Option (List Item)

/-- `SearchViewModel`, with all jobs it has launched. -/
structure SearchViewModel (Item : Type) where
  searchJob : Option Nat
  previousQuery : Option String
  searchResults : List (SearchResultGroup Item)
  jobs : List (SearchJob Item)
  deriving DecidableEq, Repr

namespace SearchJob

def cancel (job : SearchJob Item) : SearchJob Item :=
  match job.phase with
  | .completed => job
  | _ => { job with phase := .cancelled }

/-- Neither completed nor cancelled. -/
def pending (job : SearchJob Item) : Bool :=
  match job.phase with
  | .delaying => true
  | .searching _ => true
  | .completed => false
  | .cancelled => false

end SearchJob

/-- The group that a search ends with. -/
def searchGroup (searchRepository : SearchRepository Item) (job : Nat)
    (trimmed : String) (group : StringRes × List BaseItemKind) :
    SearchResultGroup Item where
  labelRes := group.1
  items := (searchRepository job trimmed group.2).getD []

namespace SearchViewModel

def created : SearchViewModel Item where
  searchJob := none
  previousQuery := none
  searchResults := []
  jobs := []

/-- `searchJob?.cancel()`. -/
def cancelSearchJob (viewModel : SearchViewModel Item) :
    SearchViewModel Item :=
  match viewModel.searchJob with
  | none => viewModel
  | some job =>
      { viewModel with jobs := viewModel.jobs.modify job SearchJob.cancel }

/-- None of the searches has returned. -/
def searchingAll : Phase Item :=
  .searching (groups.map fun _ => none)

/-- A new job runs to its `delay`, which returns at once unless the debounce
is positive. -/
def launch (viewModel : SearchViewModel Item) (trimmed : String)
    (debounce : Int) : SearchViewModel Item :=
  let phase := if 0 < debounce then .delaying else searchingAll
  { viewModel with
    searchJob := some viewModel.jobs.length
    jobs := viewModel.jobs ++ [{ trimmed := trimmed, phase := phase }] }

/-- The result tells whether the query was accepted. -/
def searchDebounced (viewModel : SearchViewModel Item) (query : String)
    (debounce : Int := debounceDuration) : SearchViewModel Item × Bool :=
  let trimmed := trim query
  if some trimmed = viewModel.previousQuery then
    (viewModel, false)
  else
    let viewModel :=
      { viewModel with previousQuery := some trimmed }.cancelSearchJob
    if isBlank trimmed then
      ({ viewModel with searchResults := [] }, true)
    else
      (viewModel.launch trimmed debounce, true)

def searchImmediately (viewModel : SearchViewModel Item) (query : String) :
    SearchViewModel Item × Bool :=
  viewModel.searchDebounced query 0

/-- The `delay` of a job is over. -/
def delayEnds (viewModel : SearchViewModel Item) (number : Nat) :
    SearchViewModel Item :=
  match viewModel.jobs[number]? with
  | some ⟨trimmed, .delaying⟩ =>
      { viewModel with
        jobs := viewModel.jobs.set number ⟨trimmed, searchingAll⟩ }
  | _ => viewModel

/-- One of the searches of a job returns. -/
def searchReturns (viewModel : SearchViewModel Item)
    (searchRepository : SearchRepository Item) (number group : Nat) :
    SearchViewModel Item :=
  match viewModel.jobs[number]?, groups[group]? with
  | some ⟨trimmed, .searching deferreds⟩, some kinds =>
      let found := searchGroup searchRepository number trimmed kinds
      { viewModel with
        jobs :=
          viewModel.jobs.set number
            ⟨trimmed, .searching (deferreds.set group (some found))⟩ }
  | _, _ => viewModel

/-- `awaitAll` returns once all searches have. -/
def awaitEnds (viewModel : SearchViewModel Item) (number : Nat) :
    SearchViewModel Item :=
  match viewModel.jobs[number]? with
  | some ⟨trimmed, .searching deferreds⟩ =>
      if deferreds.all Option.isSome then
        { viewModel with
          searchResults := deferreds.filterMap id
          jobs := viewModel.jobs.set number ⟨trimmed, .completed⟩ }
      else
        viewModel
  | _ => viewModel

end SearchViewModel

end JellyfinTv.Search
