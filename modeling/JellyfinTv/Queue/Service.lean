import Mathlib.Algebra.BigOperators.Group.List.Basic
import Mathlib.Algebra.Ring.Int.Defs
import Mathlib.Algebra.Ring.Nat
import JellyfinTv.Library.Effect
import JellyfinTv.Library.Runs
import JellyfinTv.Queue.Order

/-!
# The queue service

The operations of `QueueService`, in the order of the source.  An operation is
an action on the service state that may throw; a throw keeps the writes made
before it.  Work that the source launches in its coroutine scope (`setIndex(0)`
in `addSupplier`, `next` in `onMediaStreamEnd`) runs to completion here.
-/

namespace JellyfinTv.Queue

/-- The fields of `QueueService`, with the playback order and the repeat mode
of the player state and the random source. -/
structure QueueService (Supplier : Type) where
  suppliers : List Supplier
  currentSupplierIndex : Nat
  currentSupplierEntryIndex : Nat
  fetchedEntries : List QueueEntry
  removedEntries : Nat
  orderIndexProvider : OrderIndexProvider
  currentQueueIndicesPlayed : List Int
  entryIndex : Int
  entry : Option QueueEntry
  entries : List QueueEntry
  playbackOrder : PlaybackOrder
  repeatMode : RepeatMode
  random : Random

abbrev QueueM (Supplier : Type) :=
  EStateM QueueException (QueueService Supplier)

namespace QueueService

variable {Supplier : Type}

/-- A newly constructed service for the given player state. -/
def fresh (order : PlaybackOrder) (mode : RepeatMode) (random : Random) :
    QueueService Supplier where
  suppliers := []
  currentSupplierIndex := 0
  currentSupplierEntryIndex := 0
  fetchedEntries := []
  removedEntries := 0
  orderIndexProvider := .ofOrder order
  currentQueueIndicesPlayed := []
  entryIndex := INDEX_NONE
  entry := none
  entries := []
  playbackOrder := order
  repeatMode := mode
  random := random

/-- `_entries.value = fetchedEntries.toList()`. -/
def publish (service : QueueService Supplier) : QueueService Supplier :=
  { service with entries := service.fetchedEntries }

/-- The provider chosen by `usePlaybackOrder`. -/
def provider (service : QueueService Supplier) (usePlaybackOrder : Bool) :
    OrderIndexProvider :=
  if usePlaybackOrder then service.orderIndexProvider else .default

/-- The repeat mode chosen by `useRepeatMode`. -/
def effectiveRepeatMode (service : QueueService Supplier)
    (useRepeatMode : Bool) : RepeatMode :=
  if useRepeatMode then service.repeatMode else .none

/-- Store the provider that a call has left behind; the default provider has
nothing to store. -/
def storeProvider (service : QueueService Supplier)
    (usePlaybackOrder : Bool) (provider : OrderIndexProvider) :
    QueueService Supplier :=
  if usePlaybackOrder then { service with orderIndexProvider := provider }
  else service

/-- Store what a call of the chosen provider has left behind. -/
def storeSource (service : QueueService Supplier)
    (usePlaybackOrder : Bool) (source : IndexSource) :
    QueueService Supplier :=
  { service.storeProvider usePlaybackOrder
      ((service.provider usePlaybackOrder).withNextIndices
        source.nextIndices) with
    random := source.random }

/-- The branch of the loading loop after `getItem` has returned. -/
def acceptItem (service : QueueService Supplier) :
    Option QueueEntry → QueueService Supplier
  | some nextEntry =>
      { service with
        fetchedEntries := service.fetchedEntries ++ [nextEntry]
        currentSupplierEntryIndex := service.currentSupplierEntryIndex + 1 }
  | none =>
      { service with
        currentSupplierIndex := service.currentSupplierIndex + 1
        currentSupplierEntryIndex := 0 }

/-- Store the state in which `getItem` has left the current supplier. -/
def storeSupplier (service : QueueService Supplier) (supplier : Supplier) :
    QueueService Supplier :=
  { service with
    suppliers :=
      service.suppliers.set service.currentSupplierIndex supplier }

def indexOf (service : QueueService Supplier) (entry : QueueEntry) :
    Option Nat :=
  service.fetchedEntries.idxOf? entry

/-- `suppliers.add(supplier)`. -/
def withSupplier (service : QueueService Supplier) (supplier : Supplier) :
    QueueService Supplier :=
  { service with suppliers := service.suppliers ++ [supplier] }

/-- The updates of `removeEntry` before it looks at the current entry. -/
def dropEntry (service : QueueService Supplier) (index : Nat) :
    QueueService Supplier :=
  { service with
    removedEntries := service.removedEntries + 1
    fetchedEntries := service.fetchedEntries.eraseIdx index
    currentQueueIndicesPlayed :=
      shiftRemoved index service.currentQueueIndicesPlayed
    entryIndex :=
      if service.entryIndex ≥ index then service.entryIndex - 1
      else service.entryIndex
    orderIndexProvider := service.orderIndexProvider.notifyRemoved index }

/-- `clear`: the removed counter and the order provider keep their values. -/
def clear (service : QueueService Supplier) : QueueService Supplier :=
  { service with
    suppliers := []
    currentSupplierIndex := 0
    currentSupplierEntryIndex := 0
    fetchedEntries := []
    entries := []
    entry := none
    entryIndex := INDEX_NONE
    currentQueueIndicesPlayed := [] }

/-- Setting the state flow and the collector that follows a changed value. -/
def setPlaybackOrder (service : QueueService Supplier)
    (order : PlaybackOrder) : QueueService Supplier :=
  if service.playbackOrder = order then service
  else
    { service with
      playbackOrder := order
      orderIndexProvider := .ofOrder order }

def setRepeatMode (service : QueueService Supplier) (mode : RepeatMode) :
    QueueService Supplier :=
  { service with repeatMode := mode }

variable [QueueSupplier Supplier]

def estimatedSize (service : QueueService Supplier) : Int :=
  max service.fetchedEntries.length
    ((service.suppliers.map QueueSupplier.size).sum -
      service.removedEntries)

/-- Enough iterations for the loading loop: each remaining supplier answers at
most `bound` items and one `null`. -/
def supplyFuel (service : QueueService Supplier) : Nat :=
  ((service.suppliers.drop service.currentSupplierIndex).map fun supplier =>
    QueueSupplier.bound supplier + 1).sum + 1

end QueueService

open QueueService

section Operations

variable {Supplier : Type} [QueueSupplier Supplier]

/-- `supplier.getItem(currentSupplierEntryIndex)`. -/
def askSupplier (supplier : Supplier) :
    QueueM Supplier (Option QueueEntry) := fun service =>
  match (QueueSupplier.getItem service.currentSupplierEntryIndex).run
      supplier with
  | .ok item next => .ok item (service.storeSupplier next)
  | .error exception next => .error exception (service.storeSupplier next)

/-- The loop of `getOrSupplyEntry`; the result tells whether entries were
added. -/
def supplyLoop (index : Int) : Nat → Bool → QueueM Supplier Bool
  | 0, entriesChanged => return entriesChanged
  | fuel + 1, entriesChanged => do
      let service ← get
      if index < service.fetchedEntries.length then
        return entriesChanged
      else
        match service.suppliers[service.currentSupplierIndex]? with
        | none => return entriesChanged
        | some supplier =>
            let nextEntry ← askSupplier supplier
            modify fun service => service.acceptItem nextEntry
            supplyLoop index fuel (entriesChanged || nextEntry.isSome)

/-- The entry at a fetched position. -/
def entryAt (entries : List QueueEntry) (index : Int) :
    Option QueueEntry :=
  if 0 ≤ index then entries[index.toNat]? else none

def getOrSupplyEntry (index : Int) :
    QueueM Supplier (Option QueueEntry) := do
  let entriesChanged ← supplyLoop index (← get).supplyFuel false
  if entriesChanged then modify publish
  return entryAt (← get).fetchedEntries index

def provideIndices (amount : Int) (usePlaybackOrder : Bool) :
    QueueM Supplier (List Int) := fun service =>
  let provider := service.provider usePlaybackOrder
  let call :=
    provider.provideIndices amount service.estimatedSize
      service.currentQueueIndicesPlayed service.entryIndex
  match call.run ⟨provider.nextIndices, service.random⟩ with
  | .ok indices source =>
      .ok indices (service.storeSource usePlaybackOrder source)
  | .error exception source =>
      .error exception (service.storeSource usePlaybackOrder source)

def getNextIndices (amount : Int)
    (usePlaybackOrder useRepeatMode : Bool) :
    QueueM Supplier (List Int) := do
  let service ← get
  match service.effectiveRepeatMode useRepeatMode with
  | .none => provideIndices amount usePlaybackOrder
  | .repeatEntryOnce =>
      if amount < 0 then throw .illegalArgument
      else
        let indices ← provideIndices (amount - 1) usePlaybackOrder
        return (service.entryIndex :: indices).take amount.toNat
  | .repeatEntryInfinite =>
      if amount < 0 then throw .illegalArgument
      else return List.replicate amount.toNat service.entryIndex

def useNextIndex (usePlaybackOrder : Bool) : QueueM Supplier Unit :=
  fun service =>
    match (service.provider usePlaybackOrder).useNextIndex with
    | .ok provider => .ok () (service.storeProvider usePlaybackOrder provider)
    | .error exception => .error exception service

/-- Append the current index to the play history. -/
def saveCurrentIndex (saveHistory : Bool)
    (service : QueueService Supplier) : QueueService Supplier :=
  if saveHistory ∧ service.entryIndex ≠ INDEX_NONE then
    { service with
      currentQueueIndicesPlayed :=
        service.currentQueueIndicesPlayed ++ [service.entryIndex] }
  else service

/-- The assignments after the entry of `setIndex` is known. -/
def applyIndex (index : Int) (currentEntry : Option QueueEntry)
    (service : QueueService Supplier) : QueueService Supplier :=
  { service with
    entryIndex := if currentEntry = none then INDEX_NONE else index
    entry := currentEntry }

def setIndex (index : Int) (saveHistory : Bool) :
    QueueM Supplier (Option QueueEntry) := do
  if index < 0 ∧ index ≠ INDEX_NONE then return none
  else
    modify (saveCurrentIndex saveHistory)
    let currentEntry ← getOrSupplyEntry index
    modify (applyIndex index currentEntry)
    return currentEntry

def previous : QueueM Supplier (Option QueueEntry) := do
  match (← get).currentQueueIndicesPlayed.getLast? with
  | none => return none
  | some index =>
      modify fun service =>
        { service with
          currentQueueIndicesPlayed :=
            service.currentQueueIndicesPlayed.dropLast }
      setIndex index false

/-- What `next` does to the repeat mode and the provider before it jumps. -/
def consumeIndex (index : Int) (usePlaybackOrder useRepeatMode : Bool) :
    QueueM Supplier Unit := do
  let service ← get
  match service.effectiveRepeatMode useRepeatMode with
  | .none => useNextIndex usePlaybackOrder
  | .repeatEntryOnce =>
      if index = service.entryIndex then
        modify fun service => service.setRepeatMode .none
  | .repeatEntryInfinite => return ()

def next (usePlaybackOrder useRepeatMode : Bool) :
    QueueM Supplier (Option QueueEntry) := do
  match (← getNextIndices 1 usePlaybackOrder useRepeatMode).head? with
  | none => return none
  | some index =>
      consumeIndex index usePlaybackOrder useRepeatMode
      setIndex index true

def peekPrevious : QueueM Supplier (Option QueueEntry) := do
  match (← get).currentQueueIndicesPlayed.getLast? with
  | none => return none
  | some index => getOrSupplyEntry index

/-- `indices.mapNotNull { index -> getOrSupplyEntry(index) }`. -/
def supplyEntries : List Int → QueueM Supplier (List QueueEntry)
  | [] => return []
  | index :: rest => do
      let entry ← getOrSupplyEntry index
      let others ← supplyEntries rest
      return entry.toList ++ others

def peekNext (amount : Int) (usePlaybackOrder useRepeatMode : Bool) :
    QueueM Supplier (List QueueEntry) := do
  supplyEntries (← getNextIndices amount usePlaybackOrder useRepeatMode)

/-- The coroutine that `addSupplier` launches when nothing is playing. -/
def startPlaying : QueueM Supplier Unit := do
  if (← get).entryIndex = INDEX_NONE then
    let _ ← setIndex 0 false

def addSupplier (supplier : Supplier) : QueueM Supplier Unit := do
  modify fun service => service.withSupplier supplier
  startPlaying

/-- The end of `removeEntry`: leave a removed current entry, then publish. -/
def finishRemoval (entry : QueueEntry) : QueueM Supplier Unit := do
  if (← get).entry = some entry then
    let _ ← next true false
  modify publish

def removeEntry (entry : QueueEntry) : QueueM Supplier Unit := do
  match (← get).indexOf entry with
  | none => return ()
  | some index =>
      modify fun service => service.dropEntry index
      finishRemoval entry

/-- The handler of `onMediaStreamEnd`. -/
def mediaStreamEnd : QueueM Supplier Unit := do
  let nextEntry ← next true true
  if nextEntry = none ∧ (← get).entryIndex ≠ INDEX_NONE then
    let _ ← setIndex INDEX_NONE true

end Operations

/-- The calls a queue can receive. -/
inductive Operation (Supplier : Type) where
  | addSupplier (supplier : Supplier)
  | setIndex (index : Int) (saveHistory : Bool)
  | next (usePlaybackOrder useRepeatMode : Bool)
  | previous
  | peekNext (amount : Int) (usePlaybackOrder useRepeatMode : Bool)
  | peekPrevious
  | removeEntry (entry : QueueEntry)
  | clear
  | mediaStreamEnd
  | setPlaybackOrder (order : PlaybackOrder)
  | setRepeatMode (mode : RepeatMode)

/-- What the caller of an operation gets back. -/
inductive Response where
  | done
  | entry (entry : Option QueueEntry)
  | entries (entries : List QueueEntry)
  deriving DecidableEq, Repr

section Execution

variable {Supplier : Type} [QueueSupplier Supplier]

def perform : Operation Supplier → QueueM Supplier Response
  | .addSupplier supplier => do
      addSupplier supplier
      return .done
  | .setIndex index saveHistory =>
      return .entry (← setIndex index saveHistory)
  | .next usePlaybackOrder useRepeatMode =>
      return .entry (← next usePlaybackOrder useRepeatMode)
  | .previous => return .entry (← previous)
  | .peekNext amount usePlaybackOrder useRepeatMode =>
      return .entries (← peekNext amount usePlaybackOrder useRepeatMode)
  | .peekPrevious => return .entry (← peekPrevious)
  | .removeEntry entry => do
      removeEntry entry
      return .done
  | .clear => do
      modify QueueService.clear
      return .done
  | .mediaStreamEnd => do
      mediaStreamEnd
      return .done
  | .setPlaybackOrder order => do
      modify fun service => service.setPlaybackOrder order
      return .done
  | .setRepeatMode mode => do
      modify fun service => service.setRepeatMode mode
      return .done

/-- The state after an operation, whether it has returned or thrown. -/
def step (service : QueueService Supplier)
    (operation : Operation Supplier) : QueueService Supplier :=
  Library.finalState ((perform operation).run service)

/-- The return value or the exception of an operation. -/
def outcome (service : QueueService Supplier)
    (operation : Operation Supplier) : Except QueueException Response :=
  match (perform operation).run service with
  | .ok response _ => .ok response
  | .error exception _ => .error exception

/-- The operation returns in this state instead of throwing. -/
def Completes (service : QueueService Supplier)
    (operation : Operation Supplier) : Prop :=
  ∃ response next, (perform operation).run service = .ok response next

end Execution

end JellyfinTv.Queue
