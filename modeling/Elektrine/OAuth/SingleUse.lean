import Elektrine.Library.Attempts
import Elektrine.OAuth.Grants

/-!
# Single use

What the locks keep: a locked code is not used, a locked token is in the table, and no two
transactions hold the same row.
-/

namespace Elektrine.OAuth

open Elektrine.Library

variable {secrets : Secrets} {state : State}

structure CodesSound (authorizations : Authorizations) (consuming : List Authorization)
    (consumed : List Nat) : Prop where
  locked : ∀ row ∈ consuming, row ∈ authorizations.rows ∧ row.used = false
  lockedOnce : (consuming.map Authorization.id).Nodup
  once : consumed.Nodup
  used : ∀ id ∈ consumed, ∃ row ∈ authorizations.rows, row.id = id ∧ row.used = true

def State.consumedCodes (state : State) : List Nat :=
  state.outcomes.filterMap Outcome.consumedCode

def State.CodesSound (state : State) : Prop :=
  OAuth.CodesSound state.authorizations state.consuming state.consumedCodes

theorem nodup_concat {α : Type} {items : List α} {last : α} (distinct : items.Nodup)
    (new : last ∉ items) : (items ++ [last]).Nodup := by
  rw [← List.concat_eq_append]
  exact distinct.concat new

theorem State.CodesSound.frame {after : State} (sound : state.CodesSound)
    (authorizations : after.authorizations = state.authorizations)
    (consuming : after.consuming = state.consuming)
    {outcomes : List Outcome} (added : after.outcomes = state.outcomes ++ outcomes)
    (none : ∀ outcome ∈ outcomes, outcome.consumedCode = none) : after.CodesSound := by
  have same : after.consumedCodes = state.consumedCodes := by
    rw [State.consumedCodes, added, List.filterMap_append, List.filterMap_eq_nil_iff.mpr none,
      List.append_nil]
    rfl
  rw [State.CodesSound, authorizations, consuming, same]
  exact sound

theorem key_ne_of_mem_eraseIdx {α : Type} {key : α → Nat} {items : List α} {index : Nat}
    {item other : α} (distinct : (items.map key).Nodup) (found : items[index]? = some item)
    (kept : other ∈ items.eraseIdx index) : key other ≠ key item := by
  intro same
  obtain ⟨place, different, its⟩ := List.mem_eraseIdx_iff_getElem?.mp kept
  have placed : (items.map key)[place]? = some (key item) := by
    rw [List.getElem?_map, its, ← same]
    rfl
  have first : (items.map key)[index]? = some (key item) := by
    rw [List.getElem?_map, found]
    rfl
  have inside := (List.getElem?_eq_some_iff.mp placed).1
  exact different ((List.getElem?_inj inside distinct).mp (placed.trans first.symm))

theorem CodesSound.authorize {authorizations : Authorizations} {consuming : List Authorization}
    {consumed : List Nat} (sound : OAuth.CodesSound authorizations consuming consumed)
    (make : Nat → Authorization) (keyed : ∀ id, (make id).id = id) :
    OAuth.CodesSound (authorizations.append make keyed) consuming consumed := by
  refine ⟨?_, sound.lockedOnce, sound.once, ?_⟩
  · intro row member
    obtain ⟨stored, unused⟩ := sound.locked row member
    exact ⟨SerialRows.mem_append.mpr (Or.inl stored), unused⟩
  · intro id member
    obtain ⟨row, stored, same, used⟩ := sound.used id member
    exact ⟨row, SerialRows.mem_append.mpr (Or.inl stored), same, used⟩

theorem State.CodesSound.lockCode (sound : state.CodesSound) (appId : Nat) (code : String)
    (now : Nat) : (state.lockCode secrets appId code now).CodesSound := by
  unfold State.lockCode
  split
  · exact sound.frame rfl rfl rfl (List.forall_mem_singleton.mpr rfl)
  · rename_i row found
    split
    · exact sound
    · rename_i unlocked
      have stored := List.mem_of_find?_eq_some found
      have matched := List.find?_some found
      have unused : row.used = false := by
        simp only [Bool.and_eq_true, Bool.not_eq_true'] at matched
        exact matched.1.2
      refine ⟨?_, ?_, sound.once, sound.used⟩
      · intro other member
        rcases List.mem_append.mp member with older | new
        · exact sound.locked other older
        · rw [List.mem_singleton.mp new]
          exact ⟨stored, unused⟩
      · rw [List.map_append]
        apply nodup_concat sound.lockedOnce
        intro member
        obtain ⟨other, locked, same⟩ := List.mem_map.mp member
        exact unlocked (List.any_eq_true.mpr ⟨other, locked, decide_eq_true same⟩)

theorem State.CodesSound.useCode (sound : state.CodesSound) {index : Nat} {row : Authorization}
    (found : state.consuming[index]? = some row) : (state.useCode index row).CodesSound := by
  have member := List.mem_of_getElem? found
  obtain ⟨stored, unused⟩ := sound.locked row member
  have fresh : row.id ∉ state.consumedCodes := by
    intro consumed
    obtain ⟨other, itsStored, same, used⟩ := sound.used row.id consumed
    rw [SerialRows.eq_of_key_eq itsStored stored same, unused] at used
    cases used
  have added : (state.useCode index row).consumedCodes = state.consumedCodes ++ [row.id] := by
    simp [State.consumedCodes, State.useCode, Outcome.consumedCode, id_useAuthorization]
  have apart : ∀ other ∈ state.consuming.eraseIdx index, other.id ≠ row.id :=
    fun _ => key_ne_of_mem_eraseIdx sound.lockedOnce found
  have kept : ∀ other ∈ state.authorizations.rows, other.id ≠ row.id →
      other ∈ (state.useCode index row).authorizations.rows := by
    intro other itsStored different
    apply List.mem_map.mpr
    exact ⟨other, itsStored, if_neg different⟩
  rw [State.CodesSound, added]
  refine ⟨?_, ?_, nodup_concat sound.once fresh, ?_⟩
  · intro other member
    obtain ⟨itsStored, itsUnused⟩ := sound.locked other (List.mem_of_mem_eraseIdx member)
    exact ⟨kept other itsStored (apart other member), itsUnused⟩
  · exact sound.lockedOnce.sublist ((List.eraseIdx_sublist _ _).map _)
  · intro id consumed
    rcases List.mem_append.mp consumed with older | new
    · obtain ⟨other, itsStored, same, used⟩ := sound.used id older
      by_cases itself : other.id = row.id
      · rw [same] at itself
        rw [itself] at older
        exact absurd older fresh
      · exact ⟨other, kept other itsStored itself, same, used⟩
    · rw [List.mem_singleton.mp new]
      refine ⟨useAuthorization row, ?_, rfl, rfl⟩
      apply List.mem_map.mpr
      exact ⟨row, stored, if_pos rfl⟩


/-- A locked token is in the table and not older than the boundary that was read; a refreshed
one is gone, and its digest is no other row's. -/
structure State.TokensSound (secrets : Secrets) (state : State) : Prop where
  digests : ∀ row ∈ state.tokens.rows,
    row.refreshToken = secrets.hashSecret (secrets.refresh row.id)
  held : ∀ transaction ∈ state.refreshing, transaction.old ∈ state.tokens.rows
  heldOnce : (state.refreshing.map fun transaction => transaction.old.id).Nodup
  once : (state.outcomes.filterMap Outcome.refreshedToken).Nodup
  gone : ∀ old token user, .refreshed old token user ∈ state.outcomes →
    old.refreshToken = secrets.hashSecret (secrets.refresh old.id) ∧
      old.id < state.tokens.next ∧ ∀ row ∈ state.tokens.rows, row.id ≠ old.id

theorem mem_refreshedTokens {outcomes : List Outcome} {id : Nat} :
    id ∈ outcomes.filterMap Outcome.refreshedToken ↔
      ∃ old token user, .refreshed old token user ∈ outcomes ∧ old.id = id := by
  rw [List.mem_filterMap]
  constructor
  · intro found
    obtain ⟨outcome, member, its⟩ := found
    cases outcome with
    | refreshed old token user =>
        cases its
        exact ⟨old, token, user, member, rfl⟩
    | _ => cases its
  · intro found
    obtain ⟨old, token, user, member, rfl⟩ := found
    exact ⟨_, member, rfl⟩

theorem State.TokensSound.frame {after : State} (sound : state.TokensSound secrets)
    {outcomes : List Outcome} (added : after.outcomes = state.outcomes ++ outcomes)
    (none : ∀ outcome ∈ outcomes, outcome.refreshedToken = none)
    (refreshing : after.refreshing = state.refreshing)
    (grows : state.tokens.next ≤ after.tokens.next)
    (kept : ∀ transaction ∈ state.refreshing, transaction.old ∈ after.tokens.rows)
    (rows : ∀ row ∈ after.tokens.rows, row ∈ state.tokens.rows ∨
      row.id = state.tokens.next ∧
        row.refreshToken = secrets.hashSecret (secrets.refresh row.id)) :
    after.TokensSound secrets := by
  have same : after.outcomes.filterMap Outcome.refreshedToken =
      state.outcomes.filterMap Outcome.refreshedToken := by
    rw [added, List.filterMap_append, List.filterMap_eq_nil_iff.mpr none, List.append_nil]
  refine ⟨?_, ?_, ?_, ?_, ?_⟩
  · intro row member
    rcases rows row member with older | ⟨-, digest⟩
    · exact sound.digests row older
    · exact digest
  · rw [refreshing]
    exact kept
  · rw [refreshing]
    exact sound.heldOnce
  · rw [same]
    exact sound.once
  · intro old token user member
    have before : .refreshed old token user ∈ state.outcomes := by
      rw [added] at member
      rcases List.mem_append.mp member with older | new
      · exact older
      · cases none _ new
    obtain ⟨digest, below, absent⟩ := sound.gone old token user before
    refine ⟨digest, Nat.lt_of_lt_of_le below grows, ?_⟩
    intro row stored
    rcases rows row stored with older | ⟨last, -⟩
    · exact absent row older
    · rw [last]
      exact (Nat.ne_of_lt below).symm

theorem State.TokensSound.finish (sound : state.TokensSound secrets) {outcome : Outcome}
    (none : outcome.refreshedToken = none) : (state.finish outcome).TokensSound secrets := by
  apply sound.frame rfl
  · exact List.forall_mem_singleton.mpr none
  · rfl
  · exact Nat.le_refl _
  · exact sound.held
  · exact fun _ => Or.inl

theorem create_ok {app : App} {user : Option User} {attrs : TokenAttrs} {now : Nat}
    {tokens tokens' : Tokens} {token : Token}
    (created : create secrets app user attrs now tokens = .ok (token, tokens')) :
    token = buildToken secrets app user attrs now tokens.next ∧
      tokens'.rows = tokens.rows ++ [token] ∧ tokens'.next = tokens.next + 1 := by
  obtain ⟨_, -, created⟩ := bind_ok_iff.mp created
  obtain ⟨_, -, inserted⟩ := bind_ok_iff.mp created
  rw [insertToken] at inserted
  split at inserted
  · cases inserted
  · cases inserted
    exact ⟨rfl, rfl, rfl⟩

theorem State.TokensSound.createToken (sound : state.TokensSound secrets) (index : Nat)
    (call : Exchanging) (now : Nat) :
    (state.createToken secrets index call now).TokensSound secrets := by
  have returned : State.TokensSound secrets
      { state with exchanging := state.exchanging.eraseIdx index } :=
    ⟨sound.digests, sound.held, sound.heldOnce, sound.once, sound.gone⟩
  unfold State.createToken
  split
  · exact returned.finish rfl
  · rename_i token tokens created
    obtain ⟨built, rows, next⟩ := create_ok created
    apply sound.frame rfl
    · exact List.forall_mem_singleton.mpr rfl
    · rfl
    · rw [next]
      exact Nat.le_succ _
    · intro transaction held
      rw [rows]
      exact List.mem_append_left _ (sound.held transaction held)
    · intro row member
      rw [rows] at member
      rcases List.mem_append.mp member with older | new
      · exact Or.inl older
      · right
        rw [List.mem_singleton.mp new, built]
        exact ⟨rfl, rfl⟩

theorem State.TokensSound.lockToken (sound : state.TokensSound secrets) (app : App)
    (refreshToken : String) (now : Nat) :
    (state.lockToken secrets app refreshToken now).TokensSound secrets := by
  unfold State.lockToken
  split
  · exact sound.finish rfl
  · rename_i old found
    split
    · exact sound
    · rename_i unlocked
      split
      · exact sound.finish rfl
      · split
        · exact sound.finish rfl
        · refine ⟨sound.digests, ?_, ?_, sound.once, sound.gone⟩
          · intro transaction member
            rcases List.mem_append.mp member with older | new
            · exact sound.held transaction older
            · rw [List.mem_singleton.mp new]
              exact List.mem_of_find?_eq_some found
          · rw [List.map_append]
            apply nodup_concat sound.heldOnce
            intro member
            obtain ⟨other, locked, same⟩ := List.mem_map.mp member
            exact unlocked (List.any_eq_true.mpr ⟨other, locked, decide_eq_true same⟩)

theorem State.TokensSound.revoke (sound : state.TokensSound secrets) (appId : Option Nat)
    (token : String) : (state.revoke secrets appId token).TokensSound secrets := by
  unfold State.revoke
  split
  · exact sound
  · rename_i unlocked
    split
    · apply sound.frame rfl
      · exact List.forall_mem_singleton.mpr rfl
      · rfl
      · exact Nat.le_refl _
      · intro transaction held
        apply List.mem_filter.mpr
        refine ⟨sound.held transaction held, ?_⟩
        rw [Bool.not_eq_true']
        apply Bool.eq_false_iff.mpr
        intro matched
        exact unlocked (List.any_eq_true.mpr ⟨transaction, held, matched⟩)
      · intro row member
        exact Or.inl (List.mem_filter.mp member).1
    · exact sound.finish rfl

theorem State.TokensSound.replaceToken (sound : state.TokensSound secrets) {index : Nat}
    {transaction : Refreshing} (found : state.refreshing[index]? = some transaction) (now : Nat) :
    (state.replaceToken secrets index transaction now).TokensSound secrets := by
  have held := sound.held transaction (List.mem_of_getElem? found)
  have ended : State.TokensSound secrets
      { state with refreshing := state.refreshing.eraseIdx index } :=
    { digests := sound.digests
      held := fun other member => sound.held other (List.mem_of_mem_eraseIdx member)
      heldOnce := sound.heldOnce.sublist ((List.eraseIdx_sublist _ _).map _)
      once := sound.once
      gone := sound.gone }
  have apart : ∀ other ∈ state.refreshing.eraseIdx index,
      other.old.id ≠ transaction.old.id := by
    intro other member
    have different := key_ne_of_mem_eraseIdx sound.heldOnce found member
    exact different
  have fresh : transaction.old.id ∉ state.outcomes.filterMap Outcome.refreshedToken := by
    intro refreshed
    obtain ⟨old, token, user, member, same⟩ := mem_refreshedTokens.mp refreshed
    exact (sound.gone old token user member).2.2 transaction.old held same.symm
  unfold State.replaceToken
  dsimp only
  split
  · split
    · exact ended.finish rfl
    · rename_i token tokens created
      obtain ⟨built, rows, next⟩ := create_ok created
      -- A row of the new table is an old one that was not deleted, or the new token.
      have origin : ∀ row ∈ tokens.rows,
          row ∈ state.tokens.rows ∧ row.id ≠ transaction.old.id ∨ row = token := by
        intro row member
        rw [rows] at member
        rcases List.mem_append.mp member with older | new
        · exact Or.inl (SerialRows.mem_delete.mp older)
        · exact Or.inr (List.mem_singleton.mp new)
      have itsId : token.id = state.tokens.next := by
        rw [built]
        rfl
      have below := state.tokens.fresh transaction.old held
      refine ⟨?_, ?_, ended.heldOnce, ?_, ?_⟩
      · intro row member
        rcases origin row member with ⟨older, -⟩ | rfl
        · exact sound.digests row older
        · rw [built]
          rfl
      · intro other member
        have stored := sound.held other (List.mem_of_mem_eraseIdx member)
        rw [rows]
        exact List.mem_append_left _ (SerialRows.mem_delete.mpr ⟨stored, apart other member⟩)
      · rw [List.filterMap_append]
        exact nodup_concat sound.once fresh
      · intro old refreshed user member
        rcases List.mem_append.mp member with older | new
        · obtain ⟨digest, under, absent⟩ := sound.gone old refreshed user older
          refine ⟨digest, ?_, ?_⟩
          · rw [next]
            exact Nat.lt_succ_of_lt under
          · intro row stored
            rcases origin row stored with ⟨earlier, -⟩ | rfl
            · exact absent row earlier
            · rw [itsId]
              exact (Nat.ne_of_lt under).symm
        · cases List.mem_singleton.mp new
          refine ⟨sound.digests _ held, ?_, ?_⟩
          · rw [next]
            exact Nat.lt_succ_of_lt below
          · intro row stored
            rcases origin row stored with ⟨-, different⟩ | rfl
            · exact different
            · rw [itsId]
              exact (Nat.ne_of_lt below).symm
  · exact ended.finish rfl

/-- A call that is to create a token has found the grant not older than the boundary, and
what was issued has kept the scopes and was not older than the boundary either. -/
structure State.IssuesSound (state : State) : Prop where
  exchanging : ∀ call ∈ state.exchanging,
    olderThanAuthBoundary call.user call.authorization.insertedAt = false
  refreshing : ∀ transaction ∈ state.refreshing,
    olderThanAuthBoundary transaction.user transaction.old.insertedAt = false
  exchanged : ∀ authorization token user, .exchanged authorization token user ∈ state.outcomes →
    token.scopes = authorization.scopes ∧
      olderThanAuthBoundary user authorization.insertedAt = false
  refreshed : ∀ old token user, .refreshed old token user ∈ state.outcomes →
    token.scopes = old.scopes ∧ olderThanAuthBoundary user old.insertedAt = false
  answered : .raised ∉ state.outcomes

def Outcome.Plain : Outcome → Prop
  | .consumed _ | .revoked | .refused _ => True
  | _ => False

theorem State.IssuesSound.frame {after : State} (sound : state.IssuesSound)
    (exchanging : ∀ call ∈ after.exchanging, call ∈ state.exchanging)
    (refreshing : ∀ transaction ∈ after.refreshing, transaction ∈ state.refreshing)
    {outcomes : List Outcome} (added : after.outcomes = state.outcomes ++ outcomes)
    (plain : ∀ outcome ∈ outcomes, outcome.Plain) : after.IssuesSound := by
  have earlier : ∀ outcome ∈ after.outcomes, ¬ outcome.Plain → outcome ∈ state.outcomes := by
    intro outcome member issues
    rw [added] at member
    rcases List.mem_append.mp member with older | new
    · exact older
    · exact absurd (plain outcome new) issues
  refine ⟨?_, ?_, ?_, ?_, ?_⟩
  · exact fun call member => sound.exchanging call (exchanging call member)
  · exact fun transaction member => sound.refreshing transaction (refreshing transaction member)
  · intro authorization token user member
    exact sound.exchanged authorization token user (earlier _ member id)
  · intro old token user member
    exact sound.refreshed old token user (earlier _ member id)
  · exact fun member => sound.answered (earlier _ member id)

theorem State.IssuesSound.refuse (sound : state.IssuesSound) (reason : Refusal) :
    (state.finish (.refused reason)).IssuesSound := by
  refine sound.frame ?_ ?_ rfl ?_
  · exact fun _ member => member
  · exact fun _ member => member
  · exact List.forall_mem_singleton.mpr trivial

theorem olderThanAuthBoundary_congr {user other : Option User} {insertedAt : Nat}
    (same : user.bind User.authValidAfter = other.bind User.authValidAfter) :
    olderThanAuthBoundary user insertedAt = olderThanAuthBoundary other insertedAt := by
  rw [olderThanAuthBoundary, same]
  rfl

theorem State.IssuesSound.readUser (sound : state.IssuesSound) (app : App)
    (authorization : Authorization) : (state.readUser app authorization).IssuesSound := by
  unfold State.readUser
  split
  · dsimp only
    split
    · exact sound.refuse _
    · rename_i recent
      refine ⟨?_, sound.refreshing, sound.exchanged, sound.refreshed, sound.answered⟩
      intro call member
      rcases List.mem_append.mp member with older | new
      · exact sound.exchanging call older
      · rw [List.mem_singleton.mp new]
        exact Bool.eq_false_iff.mpr recent
  · exact sound.refuse _

theorem State.IssuesSound.createToken (sound : state.IssuesSound) {index : Nat}
    {call : Exchanging} (found : state.exchanging[index]? = some call) {now : Nat}
    (careful : Careful secrets state (.createToken index now)) :
    (state.createToken secrets index call now).IssuesSound := by
  have returned : State.IssuesSound
      { state with exchanging := state.exchanging.eraseIdx index } :=
    { sound with
      exchanging := fun other member =>
        sound.exchanging other (List.mem_of_mem_eraseIdx member) }
  unfold State.createToken
  split
  · exact returned.refuse _
  · rename_i token tokens created
    obtain ⟨built, -, -⟩ := create_ok created
    have recent := sound.exchanging call (List.mem_of_getElem? found)
    refine ⟨returned.exchanging, sound.refreshing, ?_, ?_, ?_⟩
    · intro authorization other user member
      rcases List.mem_append.mp member with older | new
      · exact sound.exchanged authorization other user older
      · cases List.mem_singleton.mp new
        refine ⟨?_, ?_⟩
        · rw [built]
          rfl
        · rw [olderThanAuthBoundary_congr (careful call found)]
          exact recent
    · intro old other user member
      rcases List.mem_append.mp member with older | new
      · exact sound.refreshed old other user older
      · cases List.mem_singleton.mp new
    · intro member
      rcases List.mem_append.mp member with older | new
      · exact sound.answered older
      · cases List.mem_singleton.mp new

theorem State.IssuesSound.lockToken (sound : state.IssuesSound) {app : App}
    {refreshToken : String} {now : Nat}
    (careful : Careful secrets state (.lockToken app refreshToken now)) :
    (state.lockToken secrets app refreshToken now).IssuesSound := by
  unfold State.lockToken
  split
  · exact sound.refuse _
  · rename_i old found
    split
    · exact sound
    · rename_i unlocked
      split
      · exact sound.refuse _
      · rename_i active
        have free : ∀ transaction ∈ state.refreshing, transaction.old.id ≠ old.id := by
          intro transaction member same
          exact unlocked (List.any_eq_true.mpr ⟨transaction, member, decide_eq_true same⟩)
        have recent := careful old found free active
        rw [if_neg (Bool.eq_false_iff.mp recent)]
        refine ⟨sound.exchanging, ?_, sound.exchanged, sound.refreshed, sound.answered⟩
        intro transaction member
        rcases List.mem_append.mp member with older | new
        · exact sound.refreshing transaction older
        · rw [List.mem_singleton.mp new]
          exact recent

theorem State.IssuesSound.replaceToken (sound : state.IssuesSound) {index : Nat}
    {transaction : Refreshing} (found : state.refreshing[index]? = some transaction) {now : Nat}
    (careful : Careful secrets state (.replaceToken index now)) :
    (state.replaceToken secrets index transaction now).IssuesSound := by
  have ended : State.IssuesSound
      { state with refreshing := state.refreshing.eraseIdx index } :=
    { sound with
      refreshing := fun other member =>
        sound.refreshing other (List.mem_of_mem_eraseIdx member) }
  unfold State.replaceToken
  dsimp only
  split
  · split
    · exact ended.refuse _
    · rename_i token tokens created
      obtain ⟨built, -, -⟩ := create_ok created
      have recent := sound.refreshing transaction (List.mem_of_getElem? found)
      refine ⟨sound.exchanging, ended.refreshing, ?_, ?_, ?_⟩
      · intro authorization other user member
        rcases List.mem_append.mp member with older | new
        · exact sound.exchanged authorization other user older
        · cases List.mem_singleton.mp new
      · intro old other user member
        rcases List.mem_append.mp member with older | new
        · exact sound.refreshed old other user older
        · cases List.mem_singleton.mp new
          refine ⟨?_, ?_⟩
          · rw [built]
            rfl
          · rw [olderThanAuthBoundary_congr (careful transaction found)]
            exact recent
      · intro member
        rcases List.mem_append.mp member with older | new
        · exact sound.answered older
        · cases List.mem_singleton.mp new
  · exact ended.refuse _

theorem State.IssuesSound.scopes (sound : state.IssuesSound) {authorization : Authorization}
    {token : Token} (descends : Descends state.outcomes authorization token) :
    token.scopes = authorization.scopes := by
  induction descends with
  | exchanged issued => exact (sound.exchanged _ _ _ issued).1
  | refreshed _ issued ih => exact (sound.refreshed _ _ _ issued).1.trans ih

structure State.KeepsCodes (before after : State) : Prop where
  authorizations : after.authorizations = before.authorizations
  consuming : after.consuming = before.consuming
  outcomes : ∃ outcomes, after.outcomes = before.outcomes ++ outcomes ∧
    ∀ outcome ∈ outcomes, outcome.consumedCode = none

theorem State.CodesSound.keep {after : State} (sound : state.CodesSound)
    (keeps : state.KeepsCodes after) : after.CodesSound := by
  obtain ⟨outcomes, added, none⟩ := keeps.outcomes
  exact sound.frame keeps.authorizations keeps.consuming added none

theorem keepsCodes_refl (state : State) : state.KeepsCodes state :=
  ⟨rfl, rfl, [], (List.append_nil _).symm, List.forall_mem_nil _⟩

theorem keepsCodes_finish (state : State) {outcome : Outcome}
    (none : outcome.consumedCode = none) : state.KeepsCodes (state.finish outcome) :=
  ⟨rfl, rfl, [outcome], rfl, List.forall_mem_singleton.mpr none⟩

theorem keepsCodes_readUser (state : State) (app : App) (authorization : Authorization) :
    state.KeepsCodes (state.readUser app authorization) := by
  unfold State.readUser
  split
  · dsimp only
    split
    · exact keepsCodes_finish state rfl
    · exact ⟨rfl, rfl, [], (List.append_nil _).symm, List.forall_mem_nil _⟩
  · exact keepsCodes_finish state rfl

theorem keepsCodes_createToken (state : State) (index : Nat) (call : Exchanging) (now : Nat) :
    state.KeepsCodes (state.createToken secrets index call now) := by
  unfold State.createToken
  split
  · exact ⟨rfl, rfl, _, rfl, List.forall_mem_singleton.mpr rfl⟩
  · exact ⟨rfl, rfl, _, rfl, List.forall_mem_singleton.mpr rfl⟩

theorem keepsCodes_lockToken (state : State) (app : App) (refreshToken : String) (now : Nat) :
    state.KeepsCodes (state.lockToken secrets app refreshToken now) := by
  unfold State.lockToken
  split
  · exact keepsCodes_finish state rfl
  · split
    · exact keepsCodes_refl state
    · split
      · exact keepsCodes_finish state rfl
      · split
        · exact keepsCodes_finish state rfl
        · exact ⟨rfl, rfl, [], (List.append_nil _).symm, List.forall_mem_nil _⟩

theorem keepsCodes_replaceToken (state : State) (index : Nat) (transaction : Refreshing)
    (now : Nat) : state.KeepsCodes (state.replaceToken secrets index transaction now) := by
  unfold State.replaceToken
  dsimp only
  split
  · split
    · exact ⟨rfl, rfl, _, rfl, List.forall_mem_singleton.mpr rfl⟩
    · exact ⟨rfl, rfl, _, rfl, List.forall_mem_singleton.mpr rfl⟩
  · exact ⟨rfl, rfl, _, rfl, List.forall_mem_singleton.mpr rfl⟩

theorem keepsCodes_revoke (state : State) (appId : Option Nat) (token : String) :
    state.KeepsCodes (state.revoke secrets appId token) := by
  unfold State.revoke
  split
  · exact keepsCodes_refl state
  · split
    · exact ⟨rfl, rfl, _, rfl, List.forall_mem_singleton.mpr rfl⟩
    · exact keepsCodes_finish state rfl

/-- The steps about codes, and `revoke`, issue nothing. -/
structure State.KeepsIssues (before after : State) : Prop where
  exchanging : after.exchanging = before.exchanging
  refreshing : after.refreshing = before.refreshing
  outcomes : ∃ outcomes, after.outcomes = before.outcomes ++ outcomes ∧
    ∀ outcome ∈ outcomes, outcome.Plain

theorem State.IssuesSound.keep {after : State} (sound : state.IssuesSound)
    (keeps : state.KeepsIssues after) : after.IssuesSound := by
  obtain ⟨outcomes, added, plain⟩ := keeps.outcomes
  refine sound.frame ?_ ?_ added plain
  · rw [keeps.exchanging]
    exact fun _ member => member
  · rw [keeps.refreshing]
    exact fun _ member => member

theorem State.TokensSound.keep {after : State} (sound : state.TokensSound secrets)
    (keeps : state.KeepsIssues after) (tokens : after.tokens = state.tokens) :
    after.TokensSound secrets := by
  obtain ⟨outcomes, added, plain⟩ := keeps.outcomes
  apply sound.frame added
  · intro outcome member
    have its := plain outcome member
    cases outcome with
    | consumed authorization => rfl
    | revoked => rfl
    | refused reason => rfl
    | exchanged authorization token user => cases its
    | refreshed old token user => cases its
    | raised => cases its
  · exact keeps.refreshing
  · exact Nat.le_of_eq (congrArg SerialRows.next tokens.symm)
  · rw [tokens]
    exact sound.held
  · rw [tokens]
    exact fun _ => Or.inl

theorem keepsIssues_lockCode (state : State) (appId : Nat) (code : String) (now : Nat) :
    state.KeepsIssues (state.lockCode secrets appId code now) ∧
      (state.lockCode secrets appId code now).tokens = state.tokens := by
  unfold State.lockCode
  split
  · exact ⟨⟨rfl, rfl, _, rfl, List.forall_mem_singleton.mpr trivial⟩, rfl⟩
  · split
    · exact ⟨⟨rfl, rfl, [], (List.append_nil _).symm, List.forall_mem_nil _⟩, rfl⟩
    · exact ⟨⟨rfl, rfl, [], (List.append_nil _).symm, List.forall_mem_nil _⟩, rfl⟩

theorem keepsIssues_revoke (state : State) (appId : Option Nat) (token : String) :
    state.KeepsIssues (state.revoke secrets appId token) := by
  unfold State.revoke
  split
  · exact ⟨rfl, rfl, [], (List.append_nil _).symm, List.forall_mem_nil _⟩
  · split
    · exact ⟨rfl, rfl, _, rfl, List.forall_mem_singleton.mpr trivial⟩
    · exact ⟨rfl, rfl, _, rfl, List.forall_mem_singleton.mpr trivial⟩

structure State.Sound (secrets : Secrets) (state : State) : Prop where
  codes : state.CodesSound
  tokens : state.TokensSound secrets
  issues : state.IssuesSound

theorem sound_start (users : List User) : (start users).Sound secrets where
  codes := ⟨List.forall_mem_nil _, List.nodup_nil, List.nodup_nil, List.forall_mem_nil _⟩
  tokens :=
    { digests := List.forall_mem_nil _
      held := List.forall_mem_nil _
      heldOnce := List.nodup_nil
      once := List.nodup_nil
      gone := fun _ _ _ member => absurd member List.not_mem_nil }
  issues :=
    { exchanging := List.forall_mem_nil _
      refreshing := List.forall_mem_nil _
      exchanged := fun _ _ _ member => absurd member List.not_mem_nil
      refreshed := fun _ _ _ member => absurd member List.not_mem_nil
      answered := List.not_mem_nil }

theorem State.Sound.step (sound : state.Sound secrets) {move : Move}
    (careful : Careful secrets state move) : (step secrets state move).Sound secrets := by
  cases move with
  | authorize app userId scopes nonce identity now =>
      refine ⟨sound.codes.authorize _ (fun _ => rfl), ?_, ?_⟩
      · exact ⟨sound.tokens.digests, sound.tokens.held, sound.tokens.heldOnce,
          sound.tokens.once, sound.tokens.gone⟩
      · exact ⟨sound.issues.exchanging, sound.issues.refreshing, sound.issues.exchanged,
          sound.issues.refreshed, sound.issues.answered⟩
  | lockCode appId code now =>
      have kept : state.KeepsIssues (state.lockCode secrets appId code now) ∧
          (state.lockCode secrets appId code now).tokens = state.tokens :=
        keepsIssues_lockCode state appId code now
      obtain ⟨keeps, tokens⟩ := kept
      exact ⟨sound.codes.lockCode appId code now, sound.tokens.keep keeps tokens,
        sound.issues.keep keeps⟩
  | useCode index =>
      simp only [OAuth.step]
      split
      · rename_i row found
        have keeps : state.KeepsIssues (state.useCode index row) :=
          ⟨rfl, rfl, _, rfl, List.forall_mem_singleton.mpr trivial⟩
        exact ⟨sound.codes.useCode found, sound.tokens.keep keeps rfl, sound.issues.keep keeps⟩
      · exact sound
  | readUser app authorization =>
      refine ⟨sound.codes.keep (keepsCodes_readUser state app authorization), ?_,
        sound.issues.readUser app authorization⟩
      simp only [OAuth.step, State.readUser]
      split
      · split
        · exact sound.tokens.finish rfl
        · exact ⟨sound.tokens.digests, sound.tokens.held, sound.tokens.heldOnce,
            sound.tokens.once, sound.tokens.gone⟩
      · exact sound.tokens.finish rfl
  | createToken index now =>
      simp only [OAuth.step]
      split
      · rename_i call found
        exact ⟨sound.codes.keep (keepsCodes_createToken state index call now),
          sound.tokens.createToken index call now, sound.issues.createToken found careful⟩
      · exact sound
  | lockToken app refreshToken now =>
      exact ⟨sound.codes.keep (keepsCodes_lockToken state app refreshToken now),
        sound.tokens.lockToken app refreshToken now, sound.issues.lockToken careful⟩
  | replaceToken index now =>
      simp only [OAuth.step]
      split
      · rename_i transaction found
        exact ⟨sound.codes.keep (keepsCodes_replaceToken state index transaction now),
          sound.tokens.replaceToken found now, sound.issues.replaceToken found careful⟩
      · exact sound
  | revoke appId token =>
      exact ⟨sound.codes.keep (keepsCodes_revoke state appId token),
        sound.tokens.revoke appId token, sound.issues.keep (keepsIssues_revoke state appId token)⟩
  | changeUsers users =>
      refine ⟨sound.codes, ?_, ?_⟩
      · exact ⟨sound.tokens.digests, sound.tokens.held, sound.tokens.heldOnce,
          sound.tokens.once, sound.tokens.gone⟩
      · exact ⟨sound.issues.exchanging, sound.issues.refreshing, sound.issues.exchanged,
          sound.issues.refreshed, sound.issues.answered⟩

theorem State.Sound.singleUse (sound : state.Sound secrets)
    (distinct : ∀ first second,
      secrets.hashSecret (secrets.refresh first) = secrets.hashSecret (secrets.refresh second) →
      first = second) : SingleUse state where
  codes := sound.codes.once
  refreshes := sound.tokens.once
  ended := by
    intro old token user refreshed row stored same
    obtain ⟨digest, -, absent⟩ := sound.tokens.gone old token user refreshed
    rw [sound.tokens.digests row stored, digest] at same
    exact absent row stored (distinct _ _ same)
  scopes := by
    intro authorization token descends scope member
    rw [← sound.issues.scopes descends]
    exact member
  exchangedInTime := fun _ _ _ issued => (sound.issues.exchanged _ _ _ issued).2
  refreshedInTime := fun _ _ _ issued => (sound.issues.refreshed _ _ _ issued).2
  answered := sound.issues.answered

/-- Along careful steps, with refresh tokens of distinct digests, the grants are single
use. -/
theorem singleUse_of_careful {users : List User} {moves : List Move}
    (distinct : ∀ first second,
      secrets.hashSecret (secrets.refresh first) = secrets.hashSecret (secrets.refresh second) →
      first = second)
    (along : Along (step secrets) (Careful secrets) (start users) moves) :
    SingleUse (moves.foldl (step secrets) (start users)) := by
  have sound := along.invariant
    (fun _ _ (sound : State.Sound secrets _) careful => sound.step careful)
    (sound_start users)
  exact sound.singleUse distinct

def lengthSecrets : Secrets where
  hashSecret secret := secret
  code id := String.ofList ('c' :: List.replicate id 'x')
  access id := String.ofList ('a' :: List.replicate id 'x')
  refresh id := String.ofList ('r' :: List.replicate id 'x')
  authorizationLifetime := 600
  tokenLifetime := 2592000

theorem lengthSecrets_distinct (first second : Nat)
    (same : lengthSecrets.hashSecret (lengthSecrets.refresh first) =
      lengthSecrets.hashSecret (lengthSecrets.refresh second)) : first = second := by
  have lengths := congrArg String.length same
  simpa [lengthSecrets] using lengths

def client : App := ⟨1, ["read", "write"]⟩

def account (authValidAfter : Option Nat) : User :=
  ⟨7, false, false, none, authValidAfter⟩

def noIdentity : Identity := ⟨none, none, none⟩

def grantedAt (now : Nat) : Authorization :=
  { buildAuthorization lengthSecrets client (some 7) ["read"] none noIdentity now 1 with
    used := true }

def refreshedOnce : List Move :=
  [.authorize client (some 7) ["read"] none noIdentity 100, .lockCode 1 "cx" 110, .useCode 0,
    .readUser client (grantedAt 100), .createToken 0 110, .lockToken client "rx" 120,
    .replaceToken 0 120, .lockToken client "rx" 130]

theorem singleUse_refreshedOnce :
    SingleUse (refreshedOnce.foldl (step lengthSecrets) (start [account (some 50)])) := by
  apply singleUse_of_careful lengthSecrets_distinct
  refine .cons trivial (.cons trivial (.cons trivial (.cons trivial (.cons ?creates
    (.cons ?locks (.cons ?replaces (.cons ?again (.nil _ _ _))))))))
  case creates =>
    intro call found
    cases found
    rfl
  case locks =>
    intro old found _ _
    cases found
    rfl
  case replaces =>
    intro transaction found
    cases found
    rfl
  case again =>
    intro old found
    cases found

def refreshedAfterBoundary : List Move :=
  [.authorize client (some 7) ["read"] none noIdentity 100, .lockCode 1 "cx" 110, .useCode 0,
    .readUser client (grantedAt 100), .createToken 0 110, .changeUsers [account (some 200)],
    .lockToken client "rx" 210]

/-- The refresh raises. -/
theorem not_singleUse_refreshedAfterBoundary :
    ¬ SingleUse
      (refreshedAfterBoundary.foldl (step lengthSecrets) (start [account none])) := by
  intro singleUse
  have raised : .raised ∈
      (refreshedAfterBoundary.foldl (step lengthSecrets) (start [account none])).outcomes := by
    decide
  exact singleUse.answered raised

end Elektrine.OAuth
