import Elektrine.Drive.UploadCalls
import Elektrine.Library.Places
import Elektrine.Library.Runs

/-!
# Kept content

Along careful steps every row has its binary, every upload that returned is readable until a
later call takes it away, and a refused call has changed nothing.
-/

namespace Elektrine.Drive

open Elektrine.Library

def Stage.copies : Stage → List StoredFile
  | .putLoaded _ existing | .putPrepared _ existing | .putStored _ existing
  | .putPersisted existing => existing.toList
  | .deleteLoaded file | .deleteEmptied file => [file]
  | .folderEmptying _ remaining => remaining
  | _ => []

/-- A row, or what a call has loaded of one. -/
def State.Copy (state : State) (file : StoredFile) : Prop :=
  file ∈ state.tables.files ∨ ∃ call ∈ state.calls, file ∈ call.stage.copies

def Stage.past : Stage → Bool
  | .putPersisted _ | .finishing | .returned _ | .raised => true
  | _ => false

structure CopiesSound (storageKey : Nat → String) (state : State) : Prop where
  byKey : ∀ first second, state.Copy first → state.Copy second →
    first.storageKey = second.storageKey → first.id = second.id
  byId : ∀ first second, state.Copy first → state.Copy second →
    first.id = second.id → first.path = second.path
  bounded : ∀ file, state.Copy file → file.id < state.nextId
  known : ∀ file, state.Copy file → ∃ index call, state.calls[index]? = some call ∧
    call.stage.past = true ∧ file.storageKey = storageKey index

def Call.Untouched (call : Call) : Prop := call.emptied = [] ∧ call.removed = []

/-- The call is no upload. -/
def Call.Deletes (call : Call) : Prop := ∀ path binary, ¬ call.Puts path binary

/-- The call is to delete the row. -/
def Stage.Deletes (stage : Stage) (row : StoredFile) : Prop :=
  match stage with
  | .deleteEmptied file => row.id = file.id
  | .folderEmptying folder _ => inPattern folder row.path = true
  | _ => False

/-- The call has deleted the binary of the row and is to delete the row. -/
def Call.Covers (call : Call) (row : StoredFile) : Prop :=
  call.stage.Deletes row ∧ row.storageKey ∈ call.emptied

/-- What a call knows at its stage. -/
def Call.Sound (storageKey : Nat → String) (state : State) (index : Nat) (call : Call) : Prop :=
  match call.stage with
  | .requested => call.Untouched
  | .putLoaded path existing | .putPrepared path existing =>
      call.Untouched ∧ (∃ binary, call.Puts path binary) ∧ ∀ file ∈ existing, file.path = path
  | .putStored path existing =>
      call.Untouched ∧
        (∃ binary, call.Puts path binary ∧
          state.readStorage (storageKey index) = some binary) ∧
        ∀ file ∈ existing, file.path = path
  | .putPersisted existing =>
      ∀ old ∈ existing, ∀ row ∈ state.tables.files, row.storageKey ≠ old.storageKey
  | .putRefused => call.Untouched
  | .deleteLoaded _ | .folderFound _ => call.Untouched ∧ call.Deletes
  | .deleteEmptied _ => call.removed = [] ∧ call.Deletes
  | .folderEmptying folder remaining =>
      call.removed = [] ∧ call.Deletes ∧ ∀ file ∈ remaining, inPattern folder file.path = true
  | .returned (.error _) => call.Untouched
  | .finishing | .returned (.ok _) | .raised => True

/-- An upload at this stage has written its row, and has not raised. -/
def Stage.Uploaded (stage : Stage) : Prop :=
  match stage with
  | .putPersisted _ | .finishing | .returned (.ok _) => True
  | _ => False

structure Sound (storageKey : Nat → String) (state : State) : Prop where
  copies : CopiesSound storageKey state
  held : ∀ row ∈ state.tables.files, row.storageKey ∈ state.tables.binaries ∨
    ∃ call ∈ state.calls, call.Covers row
  calls : ∀ (index : Nat) (call : Call), state.calls[index]? = some call →
    call.Sound storageKey state index
  uploads : ∀ (index : Nat) (call : Call) (path : Path) (binary : List UInt8),
    state.calls[index]? = some call → call.stage.Uploaded → call.Puts path binary →
    state.RemovedLater storageKey index ∨ state.Readable storageKey index path binary

structure Effect (storageKey : Nat → String) (state after : State) (index : Nat)
    (call next : Call) : Prop where
  calls : after.calls = state.calls.set index next
  operation : next.operation = call.operation
  returnedBefore : next.returnedBefore = call.returnedBefore
  emptied : ∀ key ∈ call.emptied, key ∈ next.emptied
  removed : ∀ key ∈ call.removed, key ∈ next.removed
  rows : ∀ file ∈ after.tables.files, file ∈ state.tables.files ∨
    call.stage.past = false ∧ file.storageKey = storageKey index ∧
      file.storageKey ∈ after.tables.binaries
  binaries : ∀ key ∈ state.tables.binaries, key ∈ after.tables.binaries ∨
    key = storageKey index ∨ ∃ file, state.Copy file ∧ file.storageKey = key
  content : ∀ key, after.content key = state.content key ∨
    call.stage.past = false ∧ key = storageKey index
  kept : ∀ file ∈ state.tables.files, file.storageKey ∈ state.tables.binaries →
    file ∈ after.tables.files ∧ file.storageKey ∈ after.tables.binaries ∨
    (∃ other ∈ call.returnedBefore, file.storageKey = storageKey other) ∧
      (file.storageKey ∈ next.emptied ∨ file.storageKey ∈ next.removed)
  held : ∀ file ∈ after.tables.files, file ∈ state.tables.files →
    file.storageKey ∈ state.tables.binaries →
    file.storageKey ∈ after.tables.binaries ∨ next.Covers file
  covered : ∀ file ∈ after.tables.files, file ∈ state.tables.files → call.Covers file →
    next.Covers file
  uploaded : next.stage.Uploaded → call.stage.Uploaded ∨
    ∀ path binary, next.Puts path binary → after.Readable storageKey index path binary

variable {storageKey : Nat → String} {state after : State} {index : Nat} {call next : Call}

theorem CopiesSound.ne_of_not_past (sound : CopiesSound storageKey state)
    (distinct : Function.Injective storageKey) (found : state.calls[index]? = some call)
    (early : call.stage.past = false) {file : StoredFile} (copy : state.Copy file) :
    file.storageKey ≠ storageKey index := by
  intro same
  obtain ⟨other, written, at_other, past, key⟩ := sound.known file copy
  rw [distinct (key.symm.trans same), found] at at_other
  rw [← Option.some.inj at_other, early] at past
  cases past

theorem readStorage_eq_some_iff {key : String} {binary : List UInt8} :
    state.readStorage key = some binary ↔
      key ∈ state.tables.binaries ∧ state.content key = binary := by
  rw [State.readStorage]
  split
  · rename_i member
    exact ⟨fun read => ⟨member, Option.some.inj read⟩, fun both => congrArg some both.2⟩
  · rename_i absent
    exact ⟨nofun, fun both => absurd both.1 absent⟩

namespace Effect

variable (effect : Effect storageKey state after index call next)

include effect

theorem mem_calls (found : state.calls[index]? = some call) : next ∈ after.calls := by
  rw [effect.calls]
  exact mem_set_self found

theorem removedLater (found : state.calls[index]? = some call) {other : Nat}
    (removed : state.RemovedLater storageKey other) : after.RemovedLater storageKey other := by
  obtain ⟨remover, member, later, taken⟩ := removed
  rcases mem_set_or_eq found member with stays | its
  · refine ⟨remover, ?_, later, taken⟩
    rw [effect.calls]
    exact stays
  · rw [its] at later taken
    refine ⟨next, effect.mem_calls found, ?_, ?_⟩
    · rw [effect.returnedBefore]
      exact later
    · exact taken.imp (effect.emptied _) (effect.removed _)

theorem readable (sound : CopiesSound storageKey state)
    (distinct : Function.Injective storageKey) (found : state.calls[index]? = some call)
    {other : Nat} {path : Path} {binary : List UInt8}
    (readable : state.Readable storageKey other path binary) :
    after.RemovedLater storageKey other ∨ after.Readable storageKey other path binary := by
  obtain ⟨file, member, itsPath, itsKey, read⟩ := readable
  obtain ⟨stored, content⟩ := readStorage_eq_some_iff.mp read
  rw [← itsKey] at stored
  rcases effect.kept file member stored with ⟨stays, binaryStays⟩ | ⟨⟨remover, later, its⟩, taken⟩
  · right
    refine ⟨file, stays, itsPath, itsKey, ?_⟩
    rw [readStorage_eq_some_iff, ← itsKey]
    refine ⟨binaryStays, ?_⟩
    rcases effect.content file.storageKey with same | ⟨early, own⟩
    · rw [same, itsKey]
      exact content
    · exact absurd own (sound.ne_of_not_past distinct found early (Or.inl member))
  · left
    rw [itsKey] at its taken
    rw [← distinct its] at later
    refine ⟨next, effect.mem_calls found, ?_, taken⟩
    rw [effect.returnedBefore]
    exact later

theorem heldAfter (sound : Sound storageKey state) (found : state.calls[index]? = some call) :
    ∀ row ∈ after.tables.files, row.storageKey ∈ after.tables.binaries ∨
      ∃ call ∈ after.calls, call.Covers row := by
  intro row member
  rcases effect.rows row member with older | ⟨-, -, stored⟩
  · rcases sound.held row older with stored | ⟨coverer, its, covers⟩
    · rcases effect.held row member older stored with stays | covers
      · exact Or.inl stays
      · exact Or.inr ⟨next, effect.mem_calls found, covers⟩
    · right
      rcases mem_set_or_eq found its with stays | same
      · refine ⟨coverer, ?_, covers⟩
        rw [effect.calls]
        exact stays
      · rw [same] at covers
        exact ⟨next, effect.mem_calls found, effect.covered row member older covers⟩
  · exact Or.inl stored

theorem readStorage_other (sound : CopiesSound storageKey state)
    (distinct : Function.Injective storageKey) {other : Nat} {waiting : Call}
    (apart : other ≠ index) (at_other : state.calls[other]? = some waiting)
    (early : waiting.stage.past = false) {binary : List UInt8}
    (read : state.readStorage (storageKey other) = some binary) :
    after.readStorage (storageKey other) = some binary := by
  obtain ⟨stored, content⟩ := readStorage_eq_some_iff.mp read
  apply readStorage_eq_some_iff.mpr
  constructor
  · rcases effect.binaries _ stored with stays | own | ⟨file, copy, its⟩
    · exact stays
    · exact absurd (distinct own) apart
    · exact absurd its (sound.ne_of_not_past distinct at_other early copy)
  · rcases effect.content (storageKey other) with same | ⟨-, own⟩
    · rw [same]
      exact content
    · exact absurd (distinct own) apart

theorem sound_other (sound : Sound storageKey state)
    (distinct : Function.Injective storageKey) (found : state.calls[index]? = some call)
    {other : Nat} {waiting : Call} (apart : other ≠ index)
    (at_other : state.calls[other]? = some waiting) : waiting.Sound storageKey after other := by
  have before := sound.calls other waiting at_other
  unfold Call.Sound at before ⊢
  split at before
  · exact before
  · exact before
  · exact before
  · rename_i path existing stage
    obtain ⟨untouched, ⟨binary, puts, read⟩, its⟩ := before
    refine ⟨untouched, ⟨binary, puts, ?_⟩, its⟩
    apply effect.readStorage_other sound.copies distinct apart at_other _ read
    rw [stage]
    rfl
  · rename_i existing stage
    intro old loaded row member
    have copy : state.Copy old := by
      refine Or.inr ⟨waiting, List.mem_of_getElem? at_other, ?_⟩
      rw [stage]
      exact Option.mem_toList.mpr loaded
    rcases effect.rows row member with older | ⟨early, own, -⟩
    · exact before old loaded row older
    · rw [own]
      exact (sound.copies.ne_of_not_past distinct found early copy).symm
  · exact before
  · exact before
  · exact before
  · exact before
  · exact before
  · exact before
  · trivial
  · trivial
  · trivial

end Effect

theorem Sound.effect (sound : Sound storageKey state)
    (distinct : Function.Injective storageKey) (found : state.calls[index]? = some call)
    (effect : Effect storageKey state after index call next)
    (copies : CopiesSound storageKey after) (knows : next.Sound storageKey after index) :
    Sound storageKey after where
  copies := copies
  held := effect.heldAfter sound found
  calls := by
    intro other waiting at_other
    rw [effect.calls] at at_other
    rcases getElem?_set_cases at_other with ⟨same, its⟩ | ⟨apart, before⟩
    · rw [same, its]
      exact knows
    · exact effect.sound_other sound distinct found apart before
  uploads := by
    intro other uploader path binary at_other uploaded puts
    rw [effect.calls] at at_other
    have earlier : state.RemovedLater storageKey other ∨
        state.Readable storageKey other path binary →
        after.RemovedLater storageKey other ∨ after.Readable storageKey other path binary := by
      intro kept
      rcases kept with removed | readable
      · exact Or.inl (effect.removedLater found removed)
      · exact effect.readable sound.copies distinct found readable
    rcases getElem?_set_cases at_other with ⟨same, its⟩ | ⟨apart, before⟩
    · rw [same] at earlier ⊢
      rw [its] at uploaded puts
      rcases effect.uploaded uploaded with already | new
      · apply earlier
        apply sound.uploads index call path binary found already
        obtain ⟨requested, contentType, operation, normalized⟩ := puts
        exact ⟨requested, contentType, effect.operation ▸ operation, normalized⟩
      · exact Or.inr (new path binary puts)
    · exact earlier (sound.uploads other uploader path binary before uploaded puts)

theorem past_set (found : state.calls[index]? = some call)
    (calls : after.calls = state.calls.set index next)
    (past : call.stage.past = true → next.stage.past = true) {file : StoredFile}
    (known : ∃ other written, state.calls[other]? = some written ∧ written.stage.past = true ∧
      file.storageKey = storageKey other) :
    ∃ other written, after.calls[other]? = some written ∧ written.stage.past = true ∧
      file.storageKey = storageKey other := by
  obtain ⟨other, written, at_other, itsPast, key⟩ := known
  rw [calls]
  by_cases same : other = index
  · rw [same] at at_other key
    rw [found] at at_other
    cases at_other
    obtain ⟨bound, -⟩ := List.getElem?_eq_some_iff.mp found
    exact ⟨index, next, List.getElem?_set_self bound, past itsPast, key⟩
  · refine ⟨other, written, ?_, itsPast, key⟩
    rw [List.getElem?_set_ne (fun equal => same equal.symm)]
    exact at_other

theorem CopiesSound.write (sound : CopiesSound storageKey state)
    (distinct : Function.Injective storageKey) (found : state.calls[index]? = some call)
    (calls : after.calls = state.calls.set index next) (early : call.stage.past = false)
    (late : next.stage.past = true) (nextId : state.nextId ≤ after.nextId) (id : Nat)
    (path : Path) (bounded : id < after.nextId)
    (row : ∀ file, state.Copy file → file.id = id → file.path = path)
    (copies : ∀ file, after.Copy file → state.Copy file ∨
      file.storageKey = storageKey index ∧ file.id = id ∧ file.path = path) :
    CopiesSound storageKey after where
  byKey := by
    intro first second ofFirst ofSecond same
    rcases copies first ofFirst with older | ⟨key, its, -⟩
    · rcases copies second ofSecond with oldest | ⟨otherKey, -, -⟩
      · exact sound.byKey first second older oldest same
      · exact absurd (same.trans otherKey) (sound.ne_of_not_past distinct found early older)
    · rcases copies second ofSecond with oldest | ⟨-, other, -⟩
      · exact absurd (same.symm.trans key) (sound.ne_of_not_past distinct found early oldest)
      · exact its.trans other.symm
  byId := by
    intro first second ofFirst ofSecond same
    rcases copies first ofFirst with older | ⟨-, its, itsPath⟩
    · rcases copies second ofSecond with oldest | ⟨-, other, otherPath⟩
      · exact sound.byId first second older oldest same
      · rw [otherPath]
        exact row first older (same.trans other)
    · rcases copies second ofSecond with oldest | ⟨-, other, otherPath⟩
      · rw [itsPath]
        exact (row second oldest (same.symm.trans its)).symm
      · exact itsPath.trans otherPath.symm
  bounded := by
    intro file copy
    rcases copies file copy with older | ⟨-, its, -⟩
    · exact Nat.lt_of_lt_of_le (sound.bounded file older) nextId
    · rw [its]
      exact bounded
  known := by
    intro file copy
    rcases copies file copy with older | ⟨key, -, -⟩
    · exact past_set found calls (fun _ => late) (sound.known file older)
    · obtain ⟨bound, -⟩ := List.getElem?_eq_some_iff.mp found
      refine ⟨index, next, ?_, late, key⟩
      rw [calls]
      exact List.getElem?_set_self bound

theorem CopiesSound.shrink (sound : CopiesSound storageKey state)
    (found : state.calls[index]? = some call)
    (calls : after.calls = state.calls.set index next)
    (past : call.stage.past = true → next.stage.past = true)
    (nextId : after.nextId = state.nextId)
    (copies : ∀ file, after.Copy file → state.Copy file) : CopiesSound storageKey after where
  byKey := fun first second ofFirst ofSecond =>
    sound.byKey first second (copies first ofFirst) (copies second ofSecond)
  byId := fun first second ofFirst ofSecond =>
    sound.byId first second (copies first ofFirst) (copies second ofSecond)
  bounded := by
    intro file copy
    rw [nextId]
    exact sound.bounded file (copies file copy)
  known := fun file copy => past_set found calls past (sound.known file (copies file copy))

theorem copy_of_set (calls : after.calls = state.calls.set index next)
    (files : ∀ file ∈ after.tables.files, file ∈ state.tables.files)
    (loaded : ∀ file ∈ next.stage.copies, state.Copy file) {file : StoredFile}
    (copy : after.Copy file) : state.Copy file := by
  rcases copy with row | ⟨holder, member, copied⟩
  · exact Or.inl (files file row)
  · rw [calls] at member
    rcases mem_set_cases member with its | older
    · rw [its] at copied
      exact loaded file copied
    · exact Or.inr ⟨holder, older, copied⟩

theorem Sound.shrink (sound : Sound storageKey state)
    (distinct : Function.Injective storageKey) (found : state.calls[index]? = some call)
    (effect : Effect storageKey state after index call next)
    (past : call.stage.past = true → next.stage.past = true)
    (nextId : after.nextId = state.nextId)
    (files : ∀ file ∈ after.tables.files, file ∈ state.tables.files)
    (loaded : ∀ file ∈ next.stage.copies, state.Copy file)
    (knows : next.Sound storageKey after index) : Sound storageKey after := by
  apply sound.effect distinct found effect _ knows
  apply sound.copies.shrink found effect.calls past nextId
  intro file copy
  exact copy_of_set effect.calls files loaded copy

theorem Sound.stage (sound : Sound storageKey state)
    (distinct : Function.Injective storageKey) (found : state.calls[index]? = some call)
    (stage : Stage) (folders : List Path)
    (past : call.stage.past = true → stage.past = true)
    (loaded : ∀ file ∈ stage.copies, state.Copy file)
    (covered : ∀ file ∈ state.tables.files, call.Covers file → stage.Deletes file)
    (uploaded : stage.Uploaded → call.stage.Uploaded ∨ call.Deletes)
    (knows : Call.Sound storageKey state index { call with stage := stage }) :
    Sound storageKey
      { state with
        tables := { state.tables with folders := folders }
        calls := state.calls.set index { call with stage := stage } } := by
  apply sound.shrink distinct found
  case effect =>
    exact
      { calls := rfl
        operation := rfl
        returnedBefore := rfl
        emptied := fun _ => id
        removed := fun _ => id
        rows := fun _ => Or.inl
        binaries := fun _ => Or.inl
        content := fun _ => Or.inl rfl
        kept := fun _ row stored => Or.inl ⟨row, stored⟩
        held := fun _ _ _ => Or.inl
        covered := fun file row _ covers => ⟨covered file row covers, covers.2⟩
        uploaded := fun its =>
          (uploaded its).imp id fun deletes path binary puts =>
            absurd puts (deletes path binary) }
  case past => exact past
  case nextId => rfl
  case files => exact fun _ row => row
  case loaded => exact loaded
  case knows => exact knows

theorem Sound.deleteBinary (sound : Sound storageKey state)
    (distinct : Function.Injective storageKey) (found : state.calls[index]? = some call)
    (operation : next.operation = call.operation)
    (returnedBefore : next.returnedBefore = call.returnedBefore)
    (removed : next.removed = call.removed) (emptied : ∀ key ∈ call.emptied, key ∈ next.emptied)
    {key : String} (owned : key = storageKey index ∨ ∃ file, state.Copy file ∧ file.storageKey = key)
    (gone : ∀ row ∈ state.tables.files, row.storageKey = key → key ∈ state.tables.binaries →
      (∃ other ∈ call.returnedBefore, row.storageKey = storageKey other) ∧
        next.stage.Deletes row ∧ key ∈ next.emptied)
    (covered : ∀ row ∈ state.tables.files, call.Covers row → next.stage.Deletes row)
    (past : call.stage.past = true → next.stage.past = true)
    (loaded : ∀ file ∈ next.stage.copies, state.Copy file)
    (uploaded : next.stage.Uploaded → call.stage.Uploaded)
    (knows : next.Sound storageKey
      { state with
        tables := { state.tables with binaries := state.tables.binaries.filter (· != key) }
        calls := state.calls.set index next } index) :
    Sound storageKey
      { state with
        tables := { state.tables with binaries := state.tables.binaries.filter (· != key) }
        calls := state.calls.set index next } := by
  have other_stays : ∀ other ∈ state.tables.binaries, other ≠ key →
      other ∈ state.tables.binaries.filter (· != key) := by
    intro other member apart
    exact List.mem_filter.mpr ⟨member, bne_iff_ne.mpr apart⟩
  apply sound.shrink distinct found
  case effect =>
    exact
      { calls := rfl
        operation := operation
        returnedBefore := returnedBefore
        emptied := emptied
        removed := fun _ => removed ▸ id
        rows := fun _ => Or.inl
        binaries := by
          intro other member
          by_cases same : other = key
          · rw [same]
            exact Or.inr owned
          · exact Or.inl (other_stays other member same)
        content := fun _ => Or.inl rfl
        kept := by
          intro file row stored
          by_cases same : file.storageKey = key
          · obtain ⟨returned, -, logged⟩ := gone file row same (same ▸ stored)
            rw [← same] at logged
            exact Or.inr ⟨returned, Or.inl logged⟩
          · exact Or.inl ⟨row, other_stays _ stored same⟩
        held := by
          intro file row _ stored
          by_cases same : file.storageKey = key
          · obtain ⟨-, deletes, logged⟩ := gone file row same (same ▸ stored)
            rw [← same] at logged
            exact Or.inr ⟨deletes, logged⟩
          · exact Or.inl (other_stays _ stored same)
        covered := fun file row _ covers => ⟨covered file row covers, emptied _ covers.2⟩
        uploaded := fun its => Or.inl (uploaded its) }
  case past => exact past
  case nextId => rfl
  case files => exact fun _ row => row
  case loaded => exact loaded
  case knows => exact knows

theorem Sound.deleteRows (sound : Sound storageKey state)
    (distinct : Function.Injective storageKey) (found : state.calls[index]? = some call)
    (folders : List Path) {gone : StoredFile → Bool} (untouched : call.removed = [])
    (deletes : call.Deletes)
    (returned : ∀ file ∈ state.tables.files, gone file = true →
      ∃ other ∈ call.returnedBefore, file.storageKey = storageKey other)
    (covered : ∀ file ∈ state.tables.files, call.stage.Deletes file → gone file = true) :
    Sound storageKey (state.deleteRows index call folders gone) := by
  have others : ∀ file ∈ state.tables.files.filter (fun file => !gone file),
      file ∈ state.tables.files ∧ gone file = false := by
    intro file member
    obtain ⟨row, stays⟩ := List.mem_filter.mp member
    exact ⟨row, by simpa using stays⟩
  apply sound.shrink distinct found
  case effect =>
    exact
      { calls := rfl
        operation := rfl
        returnedBefore := rfl
        emptied := fun _ => id
        removed := by
          intro key member
          rw [untouched] at member
          cases member
        rows := fun file member => Or.inl (others file member).1
        binaries := fun _ => Or.inl
        content := fun _ => Or.inl rfl
        kept := by
          intro file row stored
          cases its : gone file with
          | true =>
              right
              refine ⟨returned file row its, Or.inr ?_⟩
              exact List.mem_map_of_mem (List.mem_filter.mpr ⟨row, its⟩)
          | false =>
              left
              refine ⟨List.mem_filter.mpr ⟨row, ?_⟩, stored⟩
              rw [its]
              rfl
        held := fun _ _ _ => Or.inl
        covered := by
          intro file member row covers
          have its := covered file row covers.1
          rw [(others file member).2] at its
          cases its
        uploaded := fun _ => Or.inr fun path binary puts => absurd puts (deletes path binary) }
  case past => exact fun _ => rfl
  case nextId => rfl
  case files => exact fun file member => (others file member).1
  case loaded => exact List.forall_mem_nil _
  case knows => trivial

theorem Sound.putStorageBinary {path : Path} {existing : Option StoredFile}
    (sound : Sound storageKey state) (distinct : Function.Injective storageKey)
    (found : state.calls[index]? = some call) (stage : call.stage = .putPrepared path existing) :
    Sound storageKey (state.putStorageBinary storageKey index call path existing) := by
  have knows := sound.calls index call found
  rw [Call.Sound, stage] at knows
  obtain ⟨untouched, ⟨binary, puts⟩, its⟩ := knows
  obtain ⟨requested, contentType, operation, normalized⟩ := puts
  have early : call.stage.past = false := by rw [stage]; rfl
  have loaded : ∀ file ∈ existing.toList, state.Copy file := by
    intro file member
    refine Or.inr ⟨call, List.mem_of_getElem? found, ?_⟩
    rw [stage]
    exact member
  unfold State.putStorageBinary
  rw [operation]
  apply sound.shrink distinct found
  case effect =>
    exact
      { calls := rfl
        operation := operation.symm
        returnedBefore := rfl
        emptied := fun _ => id
        removed := fun _ => id
        rows := fun _ => Or.inl
        binaries := fun key member => Or.inl (List.mem_append_left _ member)
        content := by
          intro key
          by_cases same : key = storageKey index
          · exact Or.inr ⟨early, same⟩
          · exact Or.inl (if_neg same)
        kept := fun file row stored => Or.inl ⟨row, List.mem_append_left _ stored⟩
        held := fun file _ _ stored => Or.inl (List.mem_append_left _ stored)
        covered := by
          intro file row _ covers
          rw [Call.Covers, stage] at covers
          exact absurd covers.1 id
        uploaded := fun uploaded => absurd uploaded id }
  case past =>
    intro past
    rw [early] at past
    cases past
  case nextId => rfl
  case files => exact fun _ row => row
  case loaded => exact loaded
  case knows =>
    refine ⟨untouched, ⟨binary, ⟨requested, contentType, rfl, normalized⟩, ?_⟩, its⟩
    apply readStorage_eq_some_iff.mpr
    exact ⟨List.mem_append_right _ List.mem_cons_self, if_pos rfl⟩

theorem Sound.insertFile {path : Path} {contentType : String} {size : Nat}
    (sound : Sound storageKey state) (distinct : Function.Injective storageKey)
    (found : state.calls[index]? = some call) (stage : call.stage = .putStored path none) :
    Sound storageKey
      { state with
        tables :=
          { state.tables with
            files := state.tables.files ++
              [newFile state.nextId path (storageKey index) contentType size] }
        nextId := state.nextId + 1
        calls := state.calls.set index { call with stage := .putPersisted none } } := by
  have knows := sound.calls index call found
  rw [Call.Sound, stage] at knows
  obtain ⟨untouched, ⟨binary, puts, read⟩, -⟩ := knows
  have early : call.stage.past = false := by rw [stage]; rfl
  have rows : ∀ file ∈ state.tables.files ++
      [newFile state.nextId path (storageKey index) contentType size],
      file ∈ state.tables.files ∨
        file = newFile state.nextId path (storageKey index) contentType size := by
    intro file member
    rcases List.mem_append.mp member with older | new
    · exact Or.inl older
    · exact Or.inr (List.mem_singleton.mp new)
  have stored := (readStorage_eq_some_iff.mp read).1
  apply sound.effect distinct found
  case effect =>
    exact
      { calls := rfl
        operation := rfl
        returnedBefore := rfl
        emptied := fun _ => id
        removed := fun _ => id
        rows := by
          intro file member
          rcases rows file member with older | new
          · exact Or.inl older
          · rw [new]
            exact Or.inr ⟨early, rfl, stored⟩
        binaries := fun _ => Or.inl
        content := fun _ => Or.inl rfl
        kept := fun file row stored => Or.inl ⟨List.mem_append_left _ row, stored⟩
        held := fun _ _ _ => Or.inl
        covered := by
          intro file _ _ covers
          rw [Call.Covers, stage] at covers
          exact absurd covers.1 id
        uploaded := by
          intro _
          right
          intro other content its
          obtain ⟨requested, type, operation, normalized⟩ := puts
          obtain ⟨again, otherType, same, same_path⟩ := its
          cases operation.symm.trans same
          cases normalized.symm.trans same_path
          exact ⟨_, List.mem_append_right _ List.mem_cons_self, rfl, rfl, read⟩ }
  case copies =>
    apply sound.copies.write distinct found
    case early => exact early
    case calls => rfl
    case late => rfl
    case nextId => exact Nat.le_succ _
    case id => exact state.nextId
    case path => exact path
    case bounded => exact Nat.lt_succ_self _
    case row =>
      intro file copy same
      exact absurd same (Nat.ne_of_lt (sound.copies.bounded file copy))
    case copies =>
      intro file copy
      rcases copy with row | ⟨holder, member, copied⟩
      · rcases rows file row with older | new
        · exact Or.inl (Or.inl older)
        · rw [new]
          exact Or.inr ⟨rfl, rfl, rfl⟩
      · rcases mem_set_cases member with its | older
        · rw [its] at copied
          cases copied
        · exact Or.inl (Or.inr ⟨holder, older, copied⟩)
  case knows =>
    intro old loaded
    cases loaded

theorem updateFile_storageKey {existing new row : StoredFile}
    (different : new.storageKey ≠ existing.storageKey) :
    (updateFile existing new row).storageKey = new.storageKey := by
  rw [updateFile, written_of_ne different]

def updatedRows (rows : List StoredFile) (loaded new : StoredFile) : List StoredFile :=
  rows.map fun row => if row.id = loaded.id then updateFile loaded new row else row

theorem mem_updatedRows {rows : List StoredFile} {loaded new file : StoredFile}
    (member : file ∈ updatedRows rows loaded new) :
    file ∈ rows ∧ file.id ≠ loaded.id ∨
      ∃ row ∈ rows, row.id = loaded.id ∧ file = updateFile loaded new row := by
  obtain ⟨row, older, its⟩ := List.mem_map.mp member
  split at its
  · rename_i same
    exact Or.inr ⟨row, older, same, its.symm⟩
  · rename_i different
    rw [← its]
    exact Or.inl ⟨older, different⟩

theorem updateFile_mem_updatedRows {rows : List StoredFile} {loaded new row : StoredFile}
    (member : row ∈ rows) (same : row.id = loaded.id) :
    updateFile loaded new row ∈ updatedRows rows loaded new :=
  List.mem_map.mpr ⟨row, member, if_pos same⟩

theorem mem_updatedRows_of_ne {rows : List StoredFile} {loaded new row : StoredFile}
    (member : row ∈ rows) (different : row.id ≠ loaded.id) :
    row ∈ updatedRows rows loaded new :=
  List.mem_map.mpr ⟨row, member, if_neg different⟩

theorem Sound.updateRow {path : Path} {loaded new : StoredFile}
    (sound : Sound storageKey state) (distinct : Function.Injective storageKey)
    (found : state.calls[index]? = some call)
    (stage : call.stage = .putStored path (some loaded)) (key : new.storageKey = storageKey index)
    (present : ∃ row ∈ state.tables.files, row.id = loaded.id)
    (returned : ∀ row ∈ state.tables.files, row.id = loaded.id →
      ∃ other ∈ call.returnedBefore, row.storageKey = storageKey other) :
    Sound storageKey
      { state with
        tables := { state.tables with files := updatedRows state.tables.files loaded new }
        calls := state.calls.set index
          { call with
            stage := .putPersisted (some loaded)
            removed :=
              (state.tables.files.filter (·.id == loaded.id)).map StoredFile.storageKey } } := by
  have knows := sound.calls index call found
  rw [Call.Sound, stage] at knows
  obtain ⟨untouched, ⟨binary, puts, read⟩, its⟩ := knows
  have early : call.stage.past = false := by rw [stage]; rfl
  have copied : state.Copy loaded := by
    refine Or.inr ⟨call, List.mem_of_getElem? found, ?_⟩
    rw [stage]
    exact List.mem_singleton_self loaded
  have loadedPath : loaded.path = path := its loaded rfl
  have different : new.storageKey ≠ loaded.storageKey := by
    rw [key]
    exact (sound.copies.ne_of_not_past distinct found early copied).symm
  have newKey : ∀ row, (updateFile loaded new row).storageKey = storageKey index :=
    fun row => (updateFile_storageKey different).trans key
  have rowPath : ∀ file, state.Copy file → file.id = loaded.id → file.path = path :=
    fun file copy same => (sound.copies.byId file loaded copy copied same).trans loadedPath
  have stored := (readStorage_eq_some_iff.mp read).1
  apply sound.effect distinct found
  case effect =>
    exact
      { calls := rfl
        operation := rfl
        returnedBefore := rfl
        emptied := fun _ => id
        removed := by
          intro other member
          rw [untouched.2] at member
          cases member
        rows := by
          intro file member
          rcases mem_updatedRows member with ⟨older, -⟩ | ⟨row, -, -, updated⟩
          · exact Or.inl older
          · rw [updated, newKey]
            exact Or.inr ⟨early, rfl, stored⟩
        binaries := fun _ => Or.inl
        content := fun _ => Or.inl rfl
        kept := by
          intro file row binaryStored
          by_cases same : file.id = loaded.id
          · right
            refine ⟨returned file row same, Or.inr ?_⟩
            apply List.mem_map_of_mem
            exact List.mem_filter.mpr ⟨row, beq_iff_eq.mpr same⟩
          · exact Or.inl ⟨mem_updatedRows_of_ne row same, binaryStored⟩
        held := fun _ _ _ => Or.inl
        covered := by
          intro file _ _ covers
          rw [Call.Covers, stage] at covers
          exact absurd covers.1 id
        uploaded := by
          intro _
          right
          intro other content itsToo
          obtain ⟨requested, type, operation, normalized⟩ := puts
          obtain ⟨again, otherType, same, samePath⟩ := itsToo
          cases operation.symm.trans same
          cases normalized.symm.trans samePath
          obtain ⟨row, member, sameId⟩ := present
          exact ⟨_, updateFile_mem_updatedRows member sameId,
            rowPath row (Or.inl member) sameId, newKey row, read⟩ }
  case copies =>
    apply sound.copies.write distinct found
    case early => exact early
    case calls => rfl
    case late => rfl
    case nextId => exact Nat.le_refl _
    case id => exact loaded.id
    case path => exact path
    case bounded => exact sound.copies.bounded loaded copied
    case row => exact rowPath
    case copies =>
      intro file copy
      rcases copy with row | ⟨holder, member, holds⟩
      · rcases mem_updatedRows row with ⟨older, -⟩ | ⟨row, older, same, updated⟩
        · exact Or.inl (Or.inl older)
        · rw [updated]
          exact Or.inr ⟨newKey row, same, rowPath row (Or.inl older) same⟩
      · rcases mem_set_cases member with own | older
        · rw [own] at holds
          rw [List.mem_singleton.mp holds]
          exact Or.inl copied
        · exact Or.inl (Or.inr ⟨holder, older, holds⟩)
  case knows =>
    intro old itsOld row member
    cases itsOld
    rcases mem_updatedRows member with ⟨older, apart⟩ | ⟨row, -, -, updated⟩
    · exact fun same => apart (sound.copies.byKey row loaded (Or.inl older) copied same)
    · rw [updated, newKey, ← key]
      exact different

structure Call.Fits (storageKey : Nat → String) (state : State) (index : Nat) (call : Call)
    (stage : Stage) : Prop where
  loaded : ∀ file ∈ stage.copies, state.Copy file
  uploaded : ¬ stage.Uploaded
  knows : Call.Sound storageKey state index { call with stage := stage }

theorem Sound.goOn (sound : Sound storageKey state)
    (distinct : Function.Injective storageKey) (found : state.calls[index]? = some call)
    (untouched : call.emptied = []) (early : call.stage.past = false) {stage : Stage}
    (folders : List Path) (fits : call.Fits storageKey state index stage) :
    Sound storageKey
      { state with
        tables := { state.tables with folders := folders }
        calls := state.calls.set index { call with stage := stage } } := by
  apply sound.stage distinct found
  case past =>
    intro past
    rw [early] at past
    cases past
  case loaded => exact fits.loaded
  case covered =>
    intro file _ covers
    rw [Call.Covers, untouched] at covers
    exact absurd covers.2 List.not_mem_nil
  case uploaded => exact fun its => absurd its fits.uploaded
  case knows => exact fits.knows

theorem Call.Untouched.fits_refused (untouched : call.Untouched) (reason : DriveError) :
    call.Fits storageKey state index (.returned (.error reason)) where
  loaded := List.forall_mem_nil _
  uploaded := id
  knows := untouched

theorem fits_raised (call : Call) : call.Fits storageKey state index .raised where
  loaded := List.forall_mem_nil _
  uploaded := id
  knows := trivial

theorem Call.Untouched.fits_loadExisting (untouched : call.Untouched) {path : Path}
    {binary : List UInt8} {contentType : String}
    (operation : call.operation = .putFileContent path binary contentType) :
    call.Fits storageKey state index (state.loadExisting path binary.length) := by
  unfold State.loadExisting
  split
  · exact untouched.fits_refused _
  · rename_i normalized normalizes
    split
    · exact untouched.fits_refused _
    split
    · exact untouched.fits_refused _
    constructor
    case loaded =>
      intro file member
      exact Or.inl (List.mem_of_find?_eq_some (Option.mem_toList.mp member))
    case uploaded => exact id
    case knows =>
      refine ⟨untouched, ⟨binary, path, contentType, operation, normalizes⟩, ?_⟩
      intro file existing
      simpa using List.find?_some existing

theorem Call.Untouched.fits_loadFile (untouched : call.Untouched) (deletes : call.Deletes)
    (fileId : Nat) : call.Fits storageKey state index (state.loadFile fileId) := by
  unfold State.loadFile
  split
  · exact untouched.fits_refused _
  · rename_i file present
    constructor
    case loaded =>
      intro other member
      rw [List.mem_singleton.mp member]
      exact Or.inl (List.mem_of_find?_eq_some present)
    case uploaded => exact id
    case knows => exact ⟨untouched, deletes⟩

theorem Call.Untouched.fits_checkFolder (untouched : call.Untouched) (deletes : call.Deletes)
    (folderPath : Path) : call.Fits storageKey state index (state.checkFolder folderPath) := by
  unfold State.checkFolder
  split
  · exact untouched.fits_refused _
  · split
    · exact untouched.fits_refused _
    split
    · exact ⟨List.forall_mem_nil _, id, untouched, deletes⟩
    · exact untouched.fits_refused _

theorem deletes_of_operation (other : ∀ path binary contentType,
    call.operation ≠ .putFileContent path binary contentType) : call.Deletes := by
  intro path binary puts
  obtain ⟨requested, contentType, operation, -⟩ := puts
  exact other requested binary contentType operation

theorem Call.Untouched.fits_begin (untouched : call.Untouched) :
    call.Fits storageKey state index (state.begin call.operation) := by
  cases operation : call.operation with
  | putFileContent path binary contentType => exact untouched.fits_loadExisting operation
  | deleteFile fileId =>
      apply untouched.fits_loadFile
      apply deletes_of_operation
      rw [operation]
      nofun
  | deleteFolder folderPath =>
      apply untouched.fits_checkFolder
      apply deletes_of_operation
      rw [operation]
      nofun

theorem Sound.prepareFolders (environment : Environment) {path : Path}
    {existing : Option StoredFile} (sound : Sound storageKey state)
    (distinct : Function.Injective storageKey) (found : state.calls[index]? = some call)
    (stage : call.stage = .putLoaded path existing) :
    Sound storageKey (state.prepareFolders environment index call path existing) := by
  have knows := sound.calls index call found
  rw [Call.Sound, stage] at knows
  have early : call.stage.past = false := by rw [stage]; rfl
  have untouched : call.Untouched := knows.1
  unfold State.prepareFolders
  split
  · exact sound.goOn distinct found untouched.1 early state.tables.folders (fits_raised call)
  · exact sound.goOn distinct found untouched.1 early state.tables.folders
      (untouched.fits_refused _)
  · apply sound.goOn distinct found untouched.1 early
    constructor
    case loaded =>
      intro file member
      refine Or.inr ⟨call, List.mem_of_getElem? found, ?_⟩
      rw [stage]
      exact member
    case uploaded => exact id
    case knows => exact knows

theorem Sound.persistFile (environment : Environment) {path : Path}
    {existing : Option StoredFile} (sound : Sound storageKey state)
    (distinct : Function.Injective storageKey) (found : state.calls[index]? = some call)
    (stage : call.stage = .putStored path existing)
    (careful : ∀ file ∈ state.touched call, ∃ other ∈ call.returnedBefore,
      file.storageKey = storageKey other) :
    Sound storageKey (state.persistFile environment storageKey index call path existing) := by
  have knows := sound.calls index call found
  rw [Call.Sound, stage] at knows
  obtain ⟨untouched, ⟨binary, puts, -⟩, -⟩ := knows
  obtain ⟨requested, contentType, operation, -⟩ := puts
  have early : call.stage.past = false := by rw [stage]; rfl
  unfold State.persistFile
  split
  · cases existing with
    | none =>
        dsimp only
        split
        · exact sound.insertFile distinct found stage
        · exact sound.goOn distinct found untouched.1 early state.tables.folders
            ⟨List.forall_mem_nil _, id, untouched⟩
    | some loaded =>
        dsimp only
        split
        · rename_i present
          obtain ⟨row, member, same⟩ := List.any_eq_true.mp present
          apply sound.updateRow distinct found stage rfl ⟨row, member, beq_iff_eq.mp same⟩
          intro other its sameId
          apply careful other
          rw [State.touched, stage]
          exact List.mem_filter.mpr ⟨its, beq_iff_eq.mpr sameId⟩
        · exact sound.goOn distinct found untouched.1 early state.tables.folders
            (fits_raised call)
  · exact sound

theorem mem_emptied_of_mem {key other : String} {binaries emptied : List String}
    (member : other ∈ emptied) :
    other ∈ if key ∈ binaries then key :: emptied else emptied := by
  split
  · exact List.mem_cons_of_mem _ member
  · exact member

theorem key_mem_emptied {key : String} {binaries emptied : List String}
    (stored : key ∈ binaries) : key ∈ if key ∈ binaries then key :: emptied else emptied := by
  rw [if_pos stored]
  exact List.mem_cons_self

theorem Sound.deleteReplaced {old : StoredFile} (sound : Sound storageKey state)
    (distinct : Function.Injective storageKey) (found : state.calls[index]? = some call)
    (stage : call.stage = .putPersisted (some old)) :
    Sound storageKey (state.deleteStorage index call old.storageKey .finishing) := by
  have knows := sound.calls index call found
  rw [Call.Sound, stage] at knows
  apply sound.deleteBinary distinct found
  case operation => rfl
  case returnedBefore => rfl
  case removed => rfl
  case emptied => exact fun _ => mem_emptied_of_mem
  case owned =>
    refine Or.inr ⟨old, Or.inr ⟨call, List.mem_of_getElem? found, ?_⟩, rfl⟩
    rw [stage]
    exact List.mem_singleton_self old
  case gone => exact fun row member same _ => absurd same (knows old rfl row member)
  case covered =>
    intro row _ covers
    rw [Call.Covers, stage] at covers
    exact absurd covers.1 id
  case past => exact fun _ => rfl
  case loaded => exact List.forall_mem_nil _
  case uploaded =>
    intro _
    rw [stage]
    trivial
  case knows => trivial

theorem Sound.deleteRefused (sound : Sound storageKey state)
    (distinct : Function.Injective storageKey) (found : state.calls[index]? = some call)
    (stage : call.stage = .putRefused) :
    Sound storageKey
      { state with
        tables :=
          { state.tables with
            binaries := state.tables.binaries.filter (· != storageKey index) }
        calls := state.calls.set index
          { call with stage := .returned (.error .invalidChange) } } := by
  have untouched := sound.calls index call found
  rw [Call.Sound, stage] at untouched
  have early : call.stage.past = false := by rw [stage]; rfl
  apply sound.deleteBinary distinct found
  case operation => rfl
  case returnedBefore => rfl
  case removed => rfl
  case emptied => exact fun _ => id
  case owned => exact Or.inl rfl
  case gone =>
    intro row member same _
    exact absurd same (sound.copies.ne_of_not_past distinct found early (Or.inl member))
  case covered =>
    intro row _ covers
    rw [Call.Covers, stage] at covers
    exact absurd covers.1 id
  case past => exact fun _ => rfl
  case loaded => exact List.forall_mem_nil _
  case uploaded => exact fun its => absurd its id
  case knows => exact untouched

theorem Sound.deleteLoaded {file : StoredFile} (sound : Sound storageKey state)
    (distinct : Function.Injective storageKey) (found : state.calls[index]? = some call)
    (stage : call.stage = .deleteLoaded file)
    (careful : ∀ file ∈ state.touched call, ∃ other ∈ call.returnedBefore,
      file.storageKey = storageKey other) :
    Sound storageKey (state.deleteStorage index call file.storageKey (.deleteEmptied file)) := by
  have knows := sound.calls index call found
  rw [Call.Sound, stage] at knows
  have copied : state.Copy file := by
    refine Or.inr ⟨call, List.mem_of_getElem? found, ?_⟩
    rw [stage]
    exact List.mem_singleton_self file
  apply sound.deleteBinary distinct found
  case operation => rfl
  case returnedBefore => rfl
  case removed => rfl
  case emptied => exact fun _ => mem_emptied_of_mem
  case owned => exact Or.inr ⟨file, copied, rfl⟩
  case gone =>
    intro row member same stored
    refine ⟨careful row ?_, ?_, key_mem_emptied stored⟩
    · rw [State.touched, stage]
      exact List.mem_filter.mpr ⟨member, beq_iff_eq.mpr same⟩
    · exact sound.copies.byKey row file (Or.inl member) copied same
  case covered =>
    intro row _ covers
    rw [Call.Covers, stage] at covers
    exact absurd covers.1 id
  case past =>
    rw [stage]
    nofun
  case loaded =>
    intro other member
    rw [List.mem_singleton.mp member]
    exact copied
  case uploaded => exact fun its => absurd its id
  case knows => exact ⟨knows.1.2, knows.2⟩

theorem Sound.deleteNext {folder : Path} {file : StoredFile} {remaining : List StoredFile}
    (sound : Sound storageKey state) (distinct : Function.Injective storageKey)
    (found : state.calls[index]? = some call)
    (stage : call.stage = .folderEmptying folder (file :: remaining))
    (careful : ∀ file ∈ state.touched call, ∃ other ∈ call.returnedBefore,
      file.storageKey = storageKey other) :
    Sound storageKey
      (state.deleteStorage index call file.storageKey (.folderEmptying folder remaining)) := by
  have knows := sound.calls index call found
  rw [Call.Sound, stage] at knows
  obtain ⟨untouched, deletes, inside⟩ := knows
  have copied : ∀ other ∈ file :: remaining, state.Copy other := by
    intro other member
    refine Or.inr ⟨call, List.mem_of_getElem? found, ?_⟩
    rw [stage]
    exact member
  apply sound.deleteBinary distinct found
  case operation => rfl
  case returnedBefore => rfl
  case removed => rfl
  case emptied => exact fun _ => mem_emptied_of_mem
  case owned => exact Or.inr ⟨file, copied file List.mem_cons_self, rfl⟩
  case gone =>
    intro row member same stored
    refine ⟨careful row ?_, ?_, key_mem_emptied stored⟩
    · rw [State.touched, stage]
      exact List.mem_filter.mpr ⟨member, beq_iff_eq.mpr same⟩
    · have ofFile := copied file List.mem_cons_self
      have sameId := sound.copies.byKey row file (Or.inl member) ofFile same
      have samePath := sound.copies.byId row file (Or.inl member) ofFile sameId
      change inPattern folder row.path = true
      rw [samePath]
      exact inside file List.mem_cons_self
  case covered =>
    intro row _ covers
    rw [Call.Covers, stage] at covers
    exact covers.1
  case past =>
    rw [stage]
    nofun
  case loaded => exact fun other member => copied other (List.mem_cons_of_mem _ member)
  case uploaded => exact fun its => absurd its id
  case knows =>
    exact ⟨untouched, deletes, fun other member => inside other (List.mem_cons_of_mem _ member)⟩

theorem Sound.succeed (environment : Environment) (sound : Sound storageKey state)
    (distinct : Function.Injective storageKey) (found : state.calls[index]? = some call)
    (careful : ∀ file ∈ state.touched call, ∃ other ∈ call.returnedBefore,
      file.storageKey = storageKey other) :
    Sound storageKey (state.succeed environment storageKey index call) := by
  have knows := sound.calls index call found
  unfold State.succeed
  split
  · rename_i stage
    rw [Call.Sound, stage] at knows
    have untouched : call.Untouched := knows
    apply sound.goOn distinct found untouched.1 _ state.tables.folders untouched.fits_begin
    rw [stage]
    rfl
  · rename_i path existing stage
    exact sound.prepareFolders environment distinct found stage
  · rename_i path existing stage
    exact sound.putStorageBinary distinct found stage
  · rename_i path existing stage
    exact sound.persistFile environment distinct found stage careful
  · rename_i stage
    apply sound.stage distinct found .finishing state.tables.folders
    case past => exact fun _ => rfl
    case loaded => exact List.forall_mem_nil _
    case covered =>
      intro file _ covers
      rw [Call.Covers, stage] at covers
      exact absurd covers.1 id
    case uploaded =>
      intro _
      rw [stage]
      exact Or.inl trivial
    case knows => trivial
  · rename_i old stage
    exact sound.deleteReplaced distinct found stage
  · rename_i stage
    exact sound.deleteRefused distinct found stage
  · rename_i file stage
    exact sound.deleteLoaded distinct found stage careful
  · rename_i file stage
    rw [Call.Sound, stage] at knows
    split
    · apply sound.deleteRows distinct found state.tables.folders knows.1 knows.2
      · intro other member same
        apply careful other
        rw [State.touched, stage]
        exact List.mem_filter.mpr ⟨member, same⟩
      · intro other member covers
        rw [stage] at covers
        exact beq_iff_eq.mpr covers
    · rename_i absent
      apply sound.stage distinct found .raised state.tables.folders
      case past => exact fun _ => rfl
      case loaded => exact List.forall_mem_nil _
      case covered =>
        intro other member covers
        rw [Call.Covers, stage] at covers
        have same : other.id = file.id := covers.1
        apply absurd _ absent
        exact List.any_eq_true.mpr ⟨other, member, beq_iff_eq.mpr same⟩
      case uploaded => exact fun its => absurd its id
      case knows => trivial
  · rename_i folder stage
    rw [Call.Sound, stage] at knows
    obtain ⟨untouched, deletes⟩ := knows
    apply sound.goOn distinct found untouched.1 _ state.tables.folders
    · constructor
      case loaded => exact fun file member => Or.inl (List.mem_of_mem_filter member)
      case uploaded => exact id
      case knows =>
        exact ⟨untouched.2, deletes, fun file member => (List.mem_filter.mp member).2⟩
    · rw [stage]
      rfl
  · rename_i folder file remaining stage
    exact sound.deleteNext distinct found stage careful
  · rename_i folder stage
    rw [Call.Sound, stage] at knows
    apply sound.deleteRows distinct found _ knows.1 knows.2.1
    · intro other member inside
      apply careful other
      rw [State.touched, stage]
      exact List.mem_filter.mpr ⟨member, inside⟩
    · intro other member covers
      rw [stage] at covers
      exact covers
  · rename_i stage
    apply sound.stage distinct found (.returned (.ok ())) state.tables.folders
    case past => exact fun _ => rfl
    case loaded => exact List.forall_mem_nil _
    case covered =>
      intro file _ covers
      rw [Call.Covers, stage] at covers
      exact absurd covers.1 id
    case uploaded =>
      intro _
      rw [stage]
      exact Or.inl trivial
    case knows => trivial
  · exact sound
  · exact sound

theorem Sound.raise (sound : Sound storageKey state)
    (distinct : Function.Injective storageKey) (found : state.calls[index]? = some call)
    (careful : ∀ file ∈ state.tables.files, file.storageKey ∉ call.emptied) :
    Sound storageKey (state.set index { call with stage := .raised }) := by
  apply sound.stage distinct found .raised state.tables.folders
  case past => exact fun _ => rfl
  case loaded => exact List.forall_mem_nil _
  case covered => exact fun file member covers => absurd covers.2 (careful file member)
  case uploaded => exact fun its => absurd its id
  case knows => trivial

theorem Sound.refuse (sound : Sound storageKey state)
    (distinct : Function.Injective storageKey) (found : state.calls[index]? = some call)
    (untouched : call.Untouched) (reason : DriveError) :
    Sound storageKey (state.set index { call with stage := .returned (.error reason) }) := by
  apply sound.stage distinct found _ state.tables.folders
  case past => exact fun _ => rfl
  case loaded => exact List.forall_mem_nil _
  case covered =>
    intro file _ covers
    rw [Call.Covers, untouched.1] at covers
    exact absurd covers.2 List.not_mem_nil
  case uploaded => exact fun its => absurd its id
  case knows => exact untouched

theorem Sound.finish (sound : Sound storageKey state)
    (distinct : Function.Injective storageKey) (found : state.calls[index]? = some call)
    {stage : Stage} (last : stage = .finishing ∨ stage = .returned (.ok ()))
    (uploaded : call.stage.Uploaded) :
    Sound storageKey (state.set index { call with stage := stage }) := by
  have nothing : ∀ row, ¬ call.stage.Deletes row := by
    intro row deletes
    cases its : call.stage <;> rw [its] at uploaded deletes <;>
      first | exact absurd uploaded id | exact absurd deletes id
  apply sound.stage distinct found stage state.tables.folders
  case past =>
    intro _
    rcases last with its | its <;> rw [its] <;> rfl
  case loaded =>
    rcases last with its | its <;> rw [its] <;> exact List.forall_mem_nil _
  case covered => exact fun file _ covers => absurd covers.1 (nothing file)
  case uploaded => exact fun _ => Or.inl uploaded
  case knows =>
    rcases last with its | its <;> rw [its] <;> trivial

theorem set_same (found : state.calls[index]? = some call) {stage : Stage}
    (same : call.stage = stage) : state.set index { call with stage := stage } = state := by
  rw [← same]
  have calls : state.calls.set index call = state.calls := by
    obtain ⟨bound, its⟩ := List.getElem?_eq_some_iff.mp found
    rw [← its]
    exact List.set_getElem_self bound
  change { state with calls := state.calls.set index call } = state
  rw [calls]

theorem Sound.fail (sound : Sound storageKey state)
    (distinct : Function.Injective storageKey) (found : state.calls[index]? = some call)
    (careful : call.emptied = [] ∨ call.stage.closing = true) :
    Sound storageKey (state.set index { call with stage := call.failed }) := by
  have knows := sound.calls index call found
  have raised : call.emptied = [] →
      Sound storageKey (state.set index { call with stage := .raised }) := by
    intro empty
    apply sound.raise distinct found
    rw [empty]
    exact fun _ _ => List.not_mem_nil
  have deleted : call.stage.closing = false → call.emptied = [] := by
    intro going
    rcases careful with empty | closing
    · exact empty
    · rw [going] at closing
      cases closing
  cases stage : call.stage with
  | requested =>
      rw [Call.Sound, stage] at knows
      have untouched : call.Untouched := knows
      have failed : call.failed = .returned (.error .storageLimitExceeded) ∨
          call.failed = .raised := by
        rw [Call.failed, stage]
        cases call.operation with
        | putFileContent path binary contentType => exact Or.inl rfl
        | deleteFile fileId => exact Or.inr rfl
        | deleteFolder folderPath => exact Or.inr rfl
      rcases failed with refused | raises
      · rw [refused]
        exact sound.refuse distinct found untouched _
      · rw [raises]
        exact raised untouched.1
  | putLoaded path existing =>
      rw [Call.Sound, stage] at knows
      rw [Call.failed, stage]
      exact raised knows.1.1
  | putPrepared path existing =>
      rw [Call.Sound, stage] at knows
      rw [Call.failed, stage]
      exact sound.refuse distinct found knows.1 _
  | putStored path existing =>
      rw [Call.Sound, stage] at knows
      rw [Call.failed, stage]
      obtain ⟨untouched, -, -⟩ := knows
      have fits : call.Fits storageKey state index .putRefused :=
        ⟨List.forall_mem_nil _, id, untouched⟩
      apply sound.goOn distinct found untouched.1 _ state.tables.folders fits
      rw [stage]
      rfl
  | putPersisted existing =>
      rw [Call.failed, stage]
      apply sound.finish distinct found (Or.inl rfl)
      rw [stage]
      trivial
  | putRefused =>
      rw [Call.Sound, stage] at knows
      rw [Call.failed, stage]
      exact sound.refuse distinct found knows _
  | deleteLoaded file =>
      rw [Call.Sound, stage] at knows
      rw [Call.failed, stage]
      exact sound.refuse distinct found knows.1 _
  | deleteEmptied file =>
      rw [Call.Sound, stage] at knows
      have empty := deleted (by rw [stage]; rfl)
      rw [Call.failed, stage]
      exact sound.refuse distinct found ⟨empty, knows.1⟩ _
  | folderFound folder =>
      rw [Call.Sound, stage] at knows
      rw [Call.failed, stage]
      exact raised knows.1.1
  | folderEmptying folder remaining =>
      rw [Call.Sound, stage] at knows
      have empty := deleted (by rw [stage]; rfl)
      have untouched : call.Untouched := ⟨empty, knows.1⟩
      rw [Call.failed, stage]
      cases remaining with
      | nil => exact sound.refuse distinct found untouched _
      | cons file remaining => exact sound.refuse distinct found untouched _
  | finishing =>
      rw [Call.failed, stage]
      apply sound.finish distinct found (Or.inr rfl)
      rw [stage]
      trivial
  | returned result =>
      rw [Call.failed, stage, set_same found stage]
      exact sound
  | raised =>
      rw [Call.failed, stage, set_same found stage]
      exact sound

theorem Sound.start (sound : Sound storageKey state) (operation : Operation)
    (returned : List Nat) :
    Sound storageKey
      { state with
        calls := state.calls ++ [⟨operation, returned, .requested, [], []⟩] } := by
  have copies : ∀ file, State.Copy
      { state with
        calls := state.calls ++ [⟨operation, returned, .requested, [], []⟩] } file →
      state.Copy file := by
    intro file copy
    rcases copy with row | ⟨holder, member, copied⟩
    · exact Or.inl row
    · rcases List.mem_append.mp member with older | new
      · exact Or.inr ⟨holder, older, copied⟩
      · rw [List.mem_singleton.mp new] at copied
        cases copied
  constructor
  case copies =>
    constructor
    case byKey =>
      exact fun first second ofFirst ofSecond =>
        sound.copies.byKey first second (copies first ofFirst) (copies second ofSecond)
    case byId =>
      exact fun first second ofFirst ofSecond =>
        sound.copies.byId first second (copies first ofFirst) (copies second ofSecond)
    case bounded => exact fun file copy => sound.copies.bounded file (copies file copy)
    case known =>
      intro file copy
      obtain ⟨other, written, at_other, rest⟩ := sound.copies.known file (copies file copy)
      obtain ⟨bound, -⟩ := List.getElem?_eq_some_iff.mp at_other
      exact ⟨other, written, (List.getElem?_append_left bound).trans at_other, rest⟩
  case held =>
    intro row member
    apply (sound.held row member).imp_right
    rintro ⟨holder, its, covers⟩
    exact ⟨holder, List.mem_append_left _ its, covers⟩
  case calls =>
    intro other waiting at_other
    rcases getElem?_concat_cases at_other with before | new
    · exact sound.calls other waiting before
    · rw [new]
      exact ⟨rfl, rfl⟩
  case uploads =>
    intro other uploader path binary at_other uploaded puts
    rcases getElem?_concat_cases at_other with before | new
    · apply (sound.uploads other uploader path binary before uploaded puts).imp_left
      rintro ⟨remover, member, removed⟩
      exact ⟨remover, List.mem_append_left _ member, removed⟩
    · rw [new] at uploaded
      exact absurd uploaded id

theorem sound_start (storageKey : Nat → String) : Sound storageKey start where
  copies :=
    have nothing : ∀ file, ¬ Drive.start.Copy file := by
      intro file copy
      rcases copy with row | ⟨holder, member, -⟩
      · cases row
      · cases member
    { byKey := fun first _ copy => absurd copy (nothing first)
      byId := fun first _ copy => absurd copy (nothing first)
      bounded := fun file copy => absurd copy (nothing file)
      known := fun file copy => absurd copy (nothing file) }
  held := List.forall_mem_nil _
  calls := fun _ _ found => nomatch found
  uploads := fun _ _ _ _ found => nomatch found

theorem Sound.step {environment : Environment} (sound : Sound storageKey state)
    (distinct : Function.Injective storageKey) {move : Move}
    (careful : CarefulUploads storageKey state move) :
    Sound storageKey (step environment storageKey state move) := by
  cases move with
  | start operation => exact sound.start operation _
  | advance index outcome =>
      simp only [Drive.step]
      split
      · exact sound
      · rename_i call found
        have its := careful call found
        cases outcome with
        | succeeds => exact sound.succeed environment distinct found its
        | fails => exact sound.fail distinct found its
        | raises =>
            dsimp only
            split
            · exact sound
            · exact sound.raise distinct found its

theorem Sound.contentKept (sound : Sound storageKey state) : ContentKept storageKey state where
  stored := by
    intro ended file member
    rcases sound.held file member with stored | ⟨coverer, its, covers, -⟩
    · exact stored
    · have closed := ended coverer its
      unfold Call.ended Stage.ended at closed
      split at closed
      · rename_i stage
        rw [stage] at covers
        exact absurd covers id
      · rename_i stage
        rw [stage] at covers
        exact absurd covers id
      · cases closed
  readable := by
    intro index call path binary found returned puts
    apply sound.uploads index call path binary found _ puts
    rw [returned]
    trivial
  unchanged := by
    intro call member reason refused
    obtain ⟨index, found⟩ := List.mem_iff_getElem?.mp member
    have knows := sound.calls index call found
    rw [Call.Sound, refused] at knows
    exact knows

/-- Along careful steps of calls whose keys differ, the files have their content. -/
theorem contentKept_of_careful {environment : Environment} {moves : List Move}
    (distinct : Function.Injective storageKey)
    (along : Along (step environment storageKey) (CarefulUploads storageKey) start moves) :
    ContentKept storageKey (moves.foldl (step environment storageKey) start) := by
  have sound := along.invariant
    (fun _ _ (sound : Sound storageKey _) careful => sound.step distinct careful)
    (sound_start storageKey)
  exact sound.contentKept

def anyPath : Environment := ⟨fun _ => true, fun _ => true⟩

def lengthKey (index : Nat) : String := String.ofList (List.replicate index 'k')

theorem lengthKey_injective : Function.Injective lengthKey := by
  intro first second same
  have lengths := congrArg String.length same
  simpa [lengthKey] using lengths

def uploadAndEmpty : List Move :=
  [.start (.putFileContent ['a'] [1, 2] "text/plain")] ++
    List.replicate 6 (.advance 0 .succeeds) ++
    [.start (.deleteFile 0), .advance 1 .succeeds, .advance 1 .succeeds]

def lostBinary : List Move := uploadAndEmpty ++ [.advance 1 .fails]

/-- Every call has returned, and the row has no binary. -/
theorem not_contentKept_lostBinary :
    ¬ ContentKept lengthKey (lostBinary.foldl (step anyPath lengthKey) start) := by
  intro kept
  have ended : ∀ call ∈ (lostBinary.foldl (step anyPath lengthKey) start).calls,
      call.ended = true := by decide
  have lost : ∃ file ∈ (lostBinary.foldl (step anyPath lengthKey) start).tables.files,
      file.storageKey ∉
        (lostBinary.foldl (step anyPath lengthKey) start).tables.binaries := by decide
  obtain ⟨file, member, missing⟩ := lost
  exact missing (kept.stored ended file member)

def uploadAndDelete : List Move :=
  uploadAndEmpty ++ [.advance 1 .succeeds, .advance 1 .succeeds]

theorem contentKept_uploadAndDelete :
    ContentKept lengthKey (uploadAndDelete.foldl (step anyPath lengthKey) start) :=
  contentKept_of_careful lengthKey_injective (by decide)

end Elektrine.Drive
