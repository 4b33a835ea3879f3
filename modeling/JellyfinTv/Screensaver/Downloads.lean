import Mathlib.Data.List.TakeWhile
import JellyfinTv.Library.Interleavings
import JellyfinTv.Library.Texts
import JellyfinTv.Screensaver.ImageGroups

/-!
# Downloads in several threads

Every group of images is downloaded by a thread of its own, and the threads
run at the same time.  A thread opens the file of an image, writes the
answer of the server into it piece by piece and removes the file if the
download failed.  Images with different files do not disturb each other.
-/

namespace JellyfinTv.Screensaver

open JellyfinTv.Library

abbrev Bytes := List UInt8

/-- What the file system and the server do with one image: whether its file
can be opened, the pieces the server sends, and whether it ends without an
error.  The status of the answer is not looked at. -/
structure Answer where
  is_open : Bool
  data : List Bytes
  success : Bool
  deriving DecidableEq, Repr

/-- The folder, with nothing where there is no file. -/
abbrev Directory (File : Type) := File → Option Bytes

namespace ScreensaverImageList

/-- `std::ofstream` for writing creates the file or empties it. -/
def openFile (_ : Option Bytes) : Option Bytes :=
  some []

/-- `ofs.write` at the position the stream has come to. -/
def write (position : Nat) (data : Bytes) (content : Option Bytes) :
    Option Bytes :=
  content.map fun bytes =>
    bytes.take position ++ data ++ bytes.drop (position + data.length)

/-- `std::filesystem::exists` and `std::filesystem::remove`. -/
def removeFile (_ : Option Bytes) : Option Bytes :=
  none

def writes : Nat → List Bytes → List (Option Bytes → Option Bytes)
  | _, [] => []
  | position, data :: rest =>
      write position data :: writes (position + data.length) rest

/-- The effects of one image on its file. -/
def effects (answer : Answer) : List (Option Bytes → Option Bytes) :=
  if answer.is_open then
    openFile :: writes 0 answer.data ++
      if answer.success then [] else [removeFile]
  else []

section Threads

variable {File : Type} (fullLocalFilePath : String → File)
  (answer : String → Answer)

def imageActions :
    String → List (PlaceAction File (Option Bytes)) :=
  itemActions fullLocalFilePath fun imageName => effects (answer imageName)

def threadActions (vecs : List String) :
    List (PlaceAction File (Option Bytes)) :=
  vecs.flatMap (imageActions fullLocalFilePath answer)

/-- `downloadScreensaverRemoteImageListToLocalPath` up to the start of its
threads. -/
def downloadThreads (images : List String) (hardware_concurrency : UInt32) :
    Except Fault (List (List (PlaceAction File (Option Bytes)))) :=
  (threadGroups images hardware_concurrency).map fun groups =>
    groups.map (threadActions fullLocalFilePath answer)

end Threads

/-- The text before the last dot and the text behind it. -/
def splitLast (text : Text) : Option (Text × Text) :=
  let name := text.reverse.takeWhile (· ≠ '.')
  if name.length = text.length then none
  else
    some (text.take (text.length - name.length - 1), name.reverse)

/-- `std::filesystem::path::extension`. -/
def extension (filename : Text) : Text :=
  if filename = "..".toList then []
  else
    match splitLast filename with
    | none => []
    | some ([], _) => []
    | some (_ :: _, name) => '.' :: name

/-- `std::regex_match` for `.*\.(webp|png|jpe?g)$` in any case. -/
def imageRegex (text : Text) : Bool :=
  match splitLast text with
  | none => false
  | some (front, name) =>
      front.all (fun char => char ≠ '\n' && char ≠ '\r') &&
        ["webp".toList, "png".toList, "jpg".toList, "jpeg".toList].contains
          (name.map Char.toLower)

structure Entry (File : Type) where
  path : File
  is_regular_file : Bool
  filename : Text

def getScreensaverLocalImageList {File : Type}
    (directory_iterator : List (Entry File)) : List File :=
  (directory_iterator.filter fun entry =>
    entry.is_regular_file && imageRegex (extension entry.filename)).map
      Entry.path

example :
    ["a.PNG", "b.jpeg", ".png", "c.png.part", "..", "d.jpg", "webp"].map
        (fun name => imageRegex (extension name.toList)) =
      [true, true, false, false, false, true, false] := by
  decide

/-- An image is named by its extension, with something in front of it. -/
def IsImage (filename : Text) : Prop :=
  ∃ front ext, front ≠ [] ∧ filename = front ++ '.' :: ext ∧
    ext.map Char.toLower ∈
      ["webp".toList, "png".toList, "jpg".toList, "jpeg".toList]

theorem splitLast_append {front ext : Text} (absent : '.' ∉ ext) :
    splitLast (front ++ '.' :: ext) = some (front, ext) := by
  have last :
      (front ++ '.' :: ext).reverse.takeWhile (· ≠ '.') = ext.reverse := by
    rw [List.reverse_append, List.reverse_cons, List.append_assoc,
      List.takeWhile_append_of_pos, List.singleton_append,
      List.takeWhile_cons_of_neg (by decide), List.append_nil]
    intro char member
    refine decide_eq_true fun same => absent ?_
    exact same ▸ List.mem_reverse.mp member
  have differ : ext.length ≠ (front ++ '.' :: ext).length := by
    rw [List.length_append, List.length_cons]
    omega
  have place :
      (front ++ '.' :: ext).length - ext.length - 1 = front.length := by
    rw [List.length_append, List.length_cons]
    omega
  rw [splitLast, last, List.length_reverse]
  simp only [differ, place, if_false, List.take_left, List.reverse_reverse]

theorem splitLast_of_absent {text : Text} (absent : '.' ∉ text) :
    splitLast text = none := by
  have whole : text.reverse.takeWhile (· ≠ '.') = text.reverse := by
    rw [List.takeWhile_eq_self_iff]
    intro char member
    refine decide_eq_true fun same => absent ?_
    exact same ▸ List.mem_reverse.mp member
  rw [splitLast, whole, List.length_reverse]
  exact if_pos rfl

/-- A text with a dot is split at the last one. -/
theorem exists_last {text : Text} (member : '.' ∈ text) :
    ∃ front ext, text = front ++ '.' :: ext ∧ '.' ∉ ext := by
  obtain ⟨back, rest, same, absent⟩ :=
    exists_first (List.mem_reverse.mpr member)
  refine ⟨rest.reverse, back.reverse, ?_, ?_⟩
  · rw [← List.reverse_reverse text, same, List.reverse_append,
      List.reverse_cons, List.append_assoc, List.singleton_append]
  · rwa [List.mem_reverse]

/-- The names of the extensions have no dot. -/
theorem notMem_of_lower {ext : Text}
    (named :
      ext.map Char.toLower ∈
        ["webp".toList, "png".toList, "jpg".toList, "jpeg".toList]) :
    '.' ∉ ext := by
  intro member
  have lower : '.' ∈ ext.map Char.toLower :=
    List.mem_map.mpr ⟨'.', member, by decide⟩
  simp only [List.mem_cons, List.not_mem_nil, or_false] at named
  rcases named with same | same | same | same <;>
    exact absurd (same ▸ lower) (by decide)

theorem imageRegex_extension_iff (filename : Text) :
    imageRegex (extension filename) = true ↔ IsImage filename := by
  have empty : imageRegex [] = false := by decide
  constructor
  · intro matched
    rw [extension] at matched
    split at matched
    · rw [empty] at matched
      cases matched
    · by_cases member : '.' ∈ filename
      · obtain ⟨front, ext, rfl, absent⟩ := exists_last member
        rw [splitLast_append absent] at matched
        cases front with
        | nil =>
            rw [empty] at matched
            cases matched
        | cons first front =>
            have alone : splitLast ('.' :: ext) = some ([], ext) :=
              @splitLast_append [] ext absent
            rw [imageRegex, alone] at matched
            exact
              ⟨first :: front, ext, List.cons_ne_nil _ _, rfl,
                by simpa using matched⟩
      · rw [splitLast_of_absent member, empty] at matched
        cases matched
  · rintro ⟨front, ext, nonempty, rfl, named⟩
    have absent := notMem_of_lower named
    obtain ⟨first, front, rfl⟩ := List.exists_cons_of_ne_nil nonempty
    have other : first :: front ++ '.' :: ext ≠ "..".toList := by
      intro same
      cases ext with
      | nil =>
          simp at named
      | cons char rest =>
          have length := congrArg List.length same
          rw [List.length_append, List.length_cons, List.length_cons,
            List.length_cons] at length
          change _ = 2 at length
          omega
    have alone : splitLast ('.' :: ext) = some ([], ext) :=
      @splitLast_append [] ext absent
    rw [extension, if_neg other, splitLast_append absent]
    simpa [imageRegex, alone] using named

/-- What an image leaves in its file. -/
def downloaded (answer : Answer) (before : Option Bytes) : Option Bytes :=
  if answer.is_open then
    if answer.success then some answer.data.flatten else none
  else before

/-- What a reader can find in the file of an image at any time: the former
file, a first part of the answer, or nothing after a failure. -/
def Underway (answer : Answer) (before now : Option Bytes) : Prop :=
  now = before ∨
    answer.is_open ∧
      ((∃ part, part <+: answer.data.flatten ∧ now = some part) ∨
        answer.success = false ∧ now = none)

/-- The pieces of an answer are written one behind the other. -/
theorem run_writes (front : Bytes) (data : List Bytes) :
    run (fun content effect => effect content) (some front)
        (writes front.length data) =
      some (front ++ data.flatten) := by
  induction data generalizing front with
  | nil =>
      simp [writes]
  | cons piece rest inductionHypothesis =>
      have written : write front.length piece (some front) =
          some (front ++ piece) := by
        simp [write]
      rw [writes, run_cons, written, ← List.length_append,
        inductionHypothesis, List.flatten_cons, List.append_assoc]

theorem exists_of_prefix_writes {position : Nat} {data : List Bytes}
    {early : List (Option Bytes → Option Bytes)}
    (isEarly : early <+: writes position data) :
    ∃ part, part <+: data ∧ early = writes position part := by
  induction data generalizing position early with
  | nil =>
      exact ⟨[], List.prefix_rfl, List.prefix_nil.mp isEarly⟩
  | cons piece rest inductionHypothesis =>
      rw [writes, List.prefix_cons_iff] at isEarly
      rcases isEarly with rfl | ⟨later, rfl, isLater⟩
      · exact ⟨[], List.nil_prefix, rfl⟩
      · obtain ⟨part, first, rfl⟩ := inductionHypothesis isLater
        exact ⟨piece :: part, List.cons_prefix_cons.mpr ⟨rfl, first⟩, rfl⟩

theorem run_effects (answer : Answer) (before : Option Bytes) :
    run (fun content effect => effect content) before (effects answer) =
      downloaded answer before := by
  have written := run_writes [] answer.data
  rw [List.length_nil, List.nil_append] at written
  unfold effects downloaded
  cases answer.is_open with
  | false =>
      rfl
  | true =>
      cases answer.success with
      | false =>
          simp [openFile, run_append, written, removeFile]
      | true =>
          simp [openFile, written]

theorem underway_of_prefix {answer : Answer} (before : Option Bytes)
    {early : List (Option Bytes → Option Bytes)}
    (isEarly : early <+: effects answer) :
    Underway answer before
      (run (fun content effect => effect content) before early) := by
  rw [effects] at isEarly
  cases isOpen : answer.is_open with
  | false =>
      simp only [isOpen, Bool.false_eq_true, if_false,
        List.prefix_nil] at isEarly
      subst isEarly
      exact Or.inl rfl
  | true =>
      have written := run_writes []
      simp only [List.length_nil, List.nil_append] at written
      simp only [isOpen, if_true, List.cons_append,
        List.prefix_cons_iff] at isEarly
      rcases isEarly with rfl | ⟨later, rfl, isLater⟩
      · exact Or.inl rfl
      · refine Or.inr ⟨isOpen, ?_⟩
        rw [run_cons, openFile]
        have partly :
            later <+: writes 0 answer.data →
              ∃ part, part <+: answer.data.flatten ∧
                run (fun content effect => effect content) (some []) later =
                  some part := by
          intro within
          obtain ⟨part, ⟨rest, whole⟩, rfl⟩ :=
            exists_of_prefix_writes within
          refine ⟨part.flatten, ?_, written part⟩
          rw [← whole, List.flatten_append]
          exact List.prefix_append _ _
        cases success : answer.success with
        | true =>
            rw [success, if_pos rfl, List.append_nil] at isLater
            exact Or.inl (partly isLater)
        | false =>
            rw [success, if_neg Bool.false_ne_true,
              List.prefix_concat_iff] at isLater
            rcases isLater with rfl | within
            · right
              rw [run_append, written]
              exact ⟨rfl, rfl⟩
            · exact Or.inl (partly within)

theorem emplaceBack_perm {threadNum i : Nat} {imagename : String}
    {groups emplaced : List (List String)}
    (ok : emplaceBack threadNum i imagename groups = .ok emplaced) :
    emplaced.flatten.Perm (groups.flatten ++ [imagename]) := by
  rw [emplaceBack] at ok
  split at ok
  · cases ok
  · split at ok
    · cases ok
    · rename_i group found
      have inside := (List.getElem?_eq_some_iff.mp found).1
      have dealt := flatten_modify_perm inside imagename
      rw [List.modify_eq_set_getElem?, found] at dealt
      cases ok
      exact dealt

theorem groupLoop_perm {threadNum i : Nat} {images : List String}
    {groups final : List (List String)}
    (ok : groupLoop threadNum i images groups = .ok final) :
    final.flatten.Perm (groups.flatten ++ images) := by
  induction images generalizing i groups with
  | nil =>
      cases ok
      rw [List.append_nil]
  | cons imagename rest inductionHypothesis =>
      rw [groupLoop] at ok
      cases placed : emplaceBack threadNum i imagename groups with
      | error fault =>
          rw [placed] at ok
          cases ok
      | ok emplaced =>
          rw [placed] at ok
          simp only [Except.bind, bind] at ok
          split at ok
          · cases ok
          · refine (inductionHypothesis ok).trans ?_
            rw [List.append_cons]
            exact (emplaceBack_perm placed).append_right rest

theorem threadGroups_perm {images : List String}
    {hardware_concurrency : UInt32} {groups : List (List String)}
    (ok : threadGroups images hardware_concurrency = .ok groups) :
    groups.flatten.Perm images := by
  have perm := groupLoop_perm ok
  rwa [List.flatten_replicate_nil, List.nil_append] at perm

section Threads

variable {File : Type} [DecidableEq File]

/-- The folder after all downloads. -/
def allDownloaded (fullLocalFilePath : String → File)
    (answer : String → Answer) (images : List String)
    (directory : Directory File) : Directory File := fun file =>
  match images.find? fun imageName => fullLocalFilePath imageName = file with
  | none => directory file
  | some imageName => downloaded (answer imageName) (directory file)

variable {fullLocalFilePath : String → File} {answer : String → Answer}
  {images : List String}

theorem allDownloaded_of_mem {directory : Directory File}
    {imageName : String} (distinct : (images.map fullLocalFilePath).Nodup)
    (member : imageName ∈ images) :
    allDownloaded fullLocalFilePath answer images directory
        (fullLocalFilePath imageName) =
      downloaded (answer imageName)
        (directory (fullLocalFilePath imageName)) := by
  rw [allDownloaded]
  split
  · rename_i none
    simpa using List.find?_eq_none.mp none imageName member
  · rename_i other found
    have same : fullLocalFilePath other = fullLocalFilePath imageName := by
      simpa using List.find?_some found
    have equal := List.inj_on_of_nodup_map distinct
      (List.mem_of_find?_eq_some found) member same
    rw [equal]

theorem allDownloaded_of_absent {directory : Directory File} {file : File}
    (absent : ∀ imageName ∈ images, fullLocalFilePath imageName ≠ file) :
    allDownloaded fullLocalFilePath answer images directory file =
      directory file := by
  rw [allDownloaded, List.find?_eq_none.mpr (by simpa using absent)]

/-- Any interleaving of the groups leads to the downloaded folder. -/
theorem run_groups_eq {groups : List (List String)}
    {schedule : List (PlaceAction File (Option Bytes))}
    (distinct : (images.map fullLocalFilePath).Nodup)
    (grouped : groups.flatten.Perm images)
    (interleaving :
      Interleaving (groups.map (threadActions fullLocalFilePath answer))
        schedule)
    (directory : Directory File) :
    run actOn directory schedule =
      allDownloaded fullLocalFilePath answer images directory := by
  have different := ((grouped.map fullLocalFilePath).nodup_iff).mpr distinct
  funext file
  by_cases downloads : ∃ imageName ∈ images, fullLocalFilePath imageName = file
  · obtain ⟨imageName, member, rfl⟩ := downloads
    rw [run_groups_of_mem interleaving different
        (grouped.mem_iff.mpr member),
      allDownloaded_of_mem distinct member, run_effects]
  · have absent :
        ∀ imageName ∈ images, fullLocalFilePath imageName ≠ file :=
      fun imageName member same => downloads ⟨imageName, member, same⟩
    rw [run_groups_of_absent interleaving
        (fun imageName member => absent imageName (grouped.mem_iff.mp member))
        List.prefix_rfl,
      allDownloaded_of_absent absent]

/-- The entries of a folder that has regular files only. -/
def Iterates (filename : File → Text) (directory : Directory File)
    (directory_iterator : List (Entry File)) : Prop :=
  ∀ entry, entry ∈ directory_iterator ↔
    (directory entry.path).isSome ∧ entry.is_regular_file = true ∧
      entry.filename = filename entry.path

omit [DecidableEq File] in
theorem mem_getScreensaverLocalImageList_iff {filename : File → Text}
    {directory : Directory File} {directory_iterator : List (Entry File)}
    (iterates : Iterates filename directory directory_iterator)
    (file : File) :
    file ∈ getScreensaverLocalImageList directory_iterator ↔
      IsImage (filename file) ∧ (directory file).isSome := by
  rw [getScreensaverLocalImageList, List.mem_map]
  constructor
  · rintro ⟨entry, listed, rfl⟩
    obtain ⟨member, isImage⟩ := List.mem_filter.mp listed
    obtain ⟨present, regular, name⟩ := (iterates entry).mp member
    rw [regular, Bool.true_and, name, imageRegex_extension_iff] at isImage
    exact ⟨isImage, present⟩
  · rintro ⟨isImage, present⟩
    refine ⟨⟨file, true, filename file⟩, ?_, rfl⟩
    rw [List.mem_filter, Bool.true_and, imageRegex_extension_iff]
    exact ⟨(iterates _).mpr ⟨present, rfl, rfl⟩, isImage⟩

theorem isSome_downloaded (answer : Answer) (before : Option Bytes) :
    (downloaded answer before).isSome ↔
      if answer.is_open then answer.success = true else before.isSome := by
  rw [downloaded]
  cases answer.is_open <;> cases answer.success <;> simp

/-- However the threads take turns, at any time the file of an image is the
former one, holds a first part of the answer or is gone after a failure, all
other files are as before, and in the end the folder is the one that
downloading the images one after the other leaves.  The images listed then
are those that were downloaded, or could not be opened but were there. -/
theorem download_interleaved {hardware_concurrency : UInt32}
    {threads : List (List (PlaceAction File (Option Bytes)))}
    {schedule : List (PlaceAction File (Option Bytes))}
    (distinct : (images.map fullLocalFilePath).Nodup)
    (started :
      downloadThreads fullLocalFilePath answer images hardware_concurrency =
        .ok threads)
    (interleaving : Interleaving threads schedule)
    (directory : Directory File) :
    run actOn directory schedule =
        allDownloaded fullLocalFilePath answer images directory ∧
      run actOn directory schedule =
          run actOn directory
            (images.flatMap (imageActions fullLocalFilePath answer)) ∧
        (∀ early, early <+: schedule →
          (∀ imageName ∈ images,
            Underway (answer imageName)
              (directory (fullLocalFilePath imageName))
              (run actOn directory early
                (fullLocalFilePath imageName))) ∧
            ∀ file,
              (∀ imageName ∈ images, fullLocalFilePath imageName ≠ file) →
                run actOn directory early file = directory file) ∧
          ∀ filename directory_iterator,
            Iterates filename (run actOn directory schedule)
                directory_iterator →
              ∀ imageName ∈ images,
                fullLocalFilePath imageName ∈
                    getScreensaverLocalImageList directory_iterator ↔
                  IsImage (filename (fullLocalFilePath imageName)) ∧
                    if (answer imageName).is_open then
                      (answer imageName).success = true
                    else
                      (directory (fullLocalFilePath imageName)).isSome := by
  cases grouping : threadGroups images hardware_concurrency with
  | error fault =>
      rw [downloadThreads, grouping] at started
      cases started
  | ok groups =>
      rw [downloadThreads, grouping] at started
      cases started
      have grouped := threadGroups_perm grouping
      have different :=
        ((grouped.map fullLocalFilePath).nodup_iff).mpr distinct
      have ended := run_groups_eq distinct grouped interleaving directory
      -- One thread that has all images is a schedule as well.
      have inOrder :
          Interleaving
            ([images].map (threadActions fullLocalFilePath answer))
            (images.flatMap (imageActions fullLocalFilePath answer)) := by
        have alone := Interleaving.sequential
          [threadActions fullLocalFilePath answer images]
        rwa [List.flatten_singleton] at alone
      refine ⟨ended, ?_, ?_, ?_⟩
      · rw [ended, run_groups_eq distinct
          (List.Perm.of_eq List.flatten_singleton) inOrder]
      · intro early isEarly
        constructor
        · intro imageName member
          obtain ⟨applied, first, reached⟩ :=
            exists_effects_of_mem interleaving different
              (grouped.mem_iff.mpr member) isEarly directory
          rw [reached]
          exact underway_of_prefix _ first
        · intro file absent
          exact run_groups_of_absent interleaving
            (fun imageName member =>
              absent imageName (grouped.mem_iff.mp member))
            isEarly directory
      · intro filename directory_iterator iterates imageName member
        rw [mem_getScreensaverLocalImageList_iff iterates, ended,
          allDownloaded_of_mem distinct member, isSome_downloaded]

/-- The second image cannot be opened and the third one fails. -/
def sampleAnswer (imageName : String) : Answer :=
  ⟨imageName ≠ "b", [[1], [2, 3]], imageName ≠ "c"⟩

def sampleDirectory : Directory String := fun file =>
  if file = "images/b" then some [7] else none

/-- Five images in two threads that take turns with every effect. -/
theorem five_images_interleaved :
    ∃ first second,
      downloadThreads ("images/" ++ ·) sampleAnswer
            ["a", "b", "c", "d", "e"] 2 =
          .ok [first, second] ∧
        run actOn sampleDirectory (Interleaving.alternately first second) =
          allDownloaded ("images/" ++ ·) sampleAnswer
            ["a", "b", "c", "d", "e"] sampleDirectory := by
  have started :
      downloadThreads ("images/" ++ ·) sampleAnswer
          ["a", "b", "c", "d", "e"] 2 =
        .ok
          [threadActions ("images/" ++ ·) sampleAnswer ["a", "c", "e"],
            threadActions ("images/" ++ ·) sampleAnswer ["b", "d"]] :=
    rfl
  exact
    ⟨_, _, started,
      (download_interleaved (by decide) started
        (Interleaving.alternating _ _) sampleDirectory).1⟩

end Threads

end ScreensaverImageList

end JellyfinTv.Screensaver
