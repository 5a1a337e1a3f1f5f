import Mathlib.Data.List.Nodup
import Elektrine.SMTP.Recipients

/-!
# Messages handed to the sender

In every run of commands a message is handed over for the user who authenticated last
and with an envelope sender that a `MAIL` command has checked for that user since.  Its
recipients are those accepted since that command, as long as every accepted argument
comes through as one recipient.
-/

namespace Elektrine.SMTP

open Elektrine.Email Elektrine.Library

structure Authorised (session : Session) (submission : Submission) : Prop where
  authenticated : ∃ state, session.state = some state ∧ state.authenticated = true ∧
    state.userId = some submission.user
  last : session.monitor.user = some submission.user
  sender : ∃ address, submission.fromAddress = some address ∧
    session.monitor.sender = some (address, submission.user)

structure Addressed (submission : Submission) : Prop where
  nonempty : parseEmailList submission.toText ≠ []
  bounded : (parseEmailList submission.toText).length ≤ smtpMaxRecipients
  distinct : ((parseEmailList submission.toText).map addressKey).Nodup

theorem Turned.handed {name : String} {args : Option String} {state : State}
    {reaction : Reaction} {submission : Submission}
    (turned : Turned name args state reaction)
    (handed : .handed submission ∈ reaction.effects) :
    state.phase = .rcpt ∧ state.recipients ≠ [] ∧
      ∃ user data, state.userId = some user ∧
        submission = state.submission user data := by
  cases turned with
  | sends replies user data given _ _ phase some_recipient known same =>
      refine ⟨phase, some_recipient, user, data, known, ?_⟩
      obtain ⟨other, member, equal⟩ := List.mem_map.mp handed
      cases equal
      exact same submission (Option.mem_toList.mp member)
  | _ => simp at handed

section

variable {session : Session} {turn : Turn} {reaction : Reaction} {submission : Submission}

theorem authorised_of_sound (sound : session.Sound)
    (reacts : session.reaction turn = some reaction)
    (handed : .handed submission ∈ reaction.effects) :
    Authorised session submission := by
  obtain ⟨state, opened, -⟩ := Option.map_eq_some_iff.mp reacts
  obtain ⟨phase, -, user, data, known, rfl⟩ :=
    (turned_reaction opened reacts).handed handed
  have follows := sound state opened
  obtain ⟨address, checkedUser, from_address, last, checked⟩ :=
    follows.checked (.inr phase)
  have same : checkedUser = user := by
    have both := last.symm.trans (follows.user.symm.trans known)
    exact Option.some.inj both
  subst same
  have authenticated : state.authenticated = true := by
    rw [follows.authenticated, last]
    rfl
  exact ⟨⟨state, opened, authenticated, known⟩, last, address, from_address, checked⟩

theorem keys_of_handed (sound : session.Sound) (tidy : session.Tidy)
    (reacts : session.reaction turn = some reaction)
    (handed : .handed submission ∈ reaction.effects) :
    ∃ state, session.state = some state ∧ state.recipients ≠ [] ∧
      state.recipients = gathered session.monitor.accepted ∧
      (parseEmailList submission.toText).map addressKey =
        (state.recipients.map addressKey).reverse := by
  obtain ⟨state, opened, -⟩ := Option.map_eq_some_iff.mp reacts
  obtain ⟨phase, some_recipient, user, data, -, rfl⟩ :=
    (turned_reaction opened reacts).handed handed
  refine ⟨state, opened, some_recipient, (sound state opened).recipients (.inr phase), ?_⟩
  exact parseEmailList_joinRecipients (tidy state opened)

theorem addressed_of_tidy (sound : session.Sound) (tidy : session.Tidy)
    (reacts : session.reaction turn = some reaction)
    (handed : .handed submission ∈ reaction.effects) : Addressed submission := by
  obtain ⟨state, opened, some_recipient, same, keys⟩ :=
    keys_of_handed sound tidy reacts handed
  have lengths := congrArg List.length keys
  simp only [List.length_map, List.length_reverse] at lengths
  have bounded := (sound state opened).bounded
  constructor
  · intro none
    rw [none] at lengths
    exact some_recipient (List.eq_nil_of_length_eq_zero lengths.symm)
  · omega
  · rw [keys, List.nodup_reverse, same]
    exact nodup_keys_gathered _

end

/-- In a run whose accepted arguments come through as one recipient each, every message
is handed over with authority and to a proper set of recipients. -/
theorem handed_authorised (secure tlsAvailable allowInsecureAuth : Bool)
    (turns : List Turn) (turn : Turn) (reaction : Reaction) (submission : Submission)
    (along : Along Session.step OneAddress
      (.accept secure tlsAvailable allowInsecureAuth) turns)
    (reacts : (turns.foldl Session.step
      (.accept secure tlsAvailable allowInsecureAuth)).reaction turn = some reaction)
    (handed : .handed submission ∈ reaction.effects) :
    Authorised (turns.foldl Session.step
        (.accept secure tlsAvailable allowInsecureAuth)) submission ∧
      Addressed submission := by
  have sound := sound_run (sound_accept secure tlsAvailable allowInsecureAuth) turns
  have tidy := tidy_run (tidy_accept secure tlsAvailable allowInsecureAuth) along
  exact ⟨authorised_of_sound sound reacts handed,
    addressed_of_tidy sound tidy reacts handed⟩

def welcoming : Surroundings where
  hostname := "mail.example.org"
  accountInactive := false
  lines := []
  rateLimit := fun _ => .ok
  authenticate := fun _ _ => some 1
  ownsAddress := fun _ _ => true
  handshake := true
  invalidBlocked := false
  receipts := [.chunk 72 [105, 13, 10, 46, 13, 10]]
  now := 0
  sendAllowed := true
  table := []
  sender := fun _ => .ok ()

def onSubmission (recipients : String) : List Turn :=
  ["AUTH PLAIN AGEAYg==", "MAIL FROM:<me@a.org>", "RCPT TO:<" ++ recipients ++ ">"].map
    fun line => ⟨welcoming, line⟩

def dataTurn : Turn :=
  ⟨welcoming, "DATA"⟩

def crowd : List String :=
  "abcdefghijklmnopqrstu".toList.map fun name => String.ofList [name, '@', 'b', '.', 'c']

theorem oneAddress_of_other {session : Session} {turn : Turn}
    (other : turn.name ≠ "RCPT") : OneAddress session turn :=
  fun _ _ named => absurd named other

theorem oneAddress_of_single {session : Session} {turn : Turn} {text address : String}
    (args : turn.args = some text) (parsed : parseRcptTo text = some address)
    (single : splitEmailHeaderList address = [address])
    (even : address.toList.count '"' % 2 = 0) : OneAddress session turn := by
  intro state _ _ text' address' given found
  rw [args] at given
  cases given
  rw [parsed] at found
  cases found
  exact .inr ⟨single, .inr even⟩

/-- The reaction to `DATA` at the end of such a run. -/
def onData (recipients : String) : Option Reaction :=
  ((onSubmission recipients).foldl Session.step (.accept true true false)).reaction
    dataTurn

theorem splitCommand_rcpt (recipients : String) :
    splitCommand (trim ("RCPT TO:<" ++ recipients ++ ">")) =
      ("RCPT", some ("TO:<" ++ recipients ++ ">")) := by
  have front : "RCPT TO:<".toList = ['R', 'C', 'P', 'T', ' ', 'T', 'O', ':', '<'] := by decide
  have inner : "TO:<".toList = ['T', 'O', ':', '<'] := by decide
  have last : Solid ">".toList := ⟨by decide, by decide, by decide⟩
  have solid : Solid ("RCPT TO:<" ++ recipients ++ ">").toList := by
    refine ⟨by simp, ?_, ?_⟩
    · rw [String.toList_append, String.toList_append, front]
      rfl
    · rw [String.toList_append, List.rdropWhile_eq_self_iff]
      intro nonempty
      rw [List.getLast_append_of_ne_nil _ last.nonempty]
      exact (List.rdropWhile_eq_self_iff.mp last.back) last.nonempty
  rw [(present_eq_some_iff.mp (present_of_solid solid)).1, splitCommand]
  have args : "TO:<" ++ recipients ++ ">" =
      String.ofList ('T' :: 'O' :: ':' :: '<' :: (recipients.toList ++ ['>'])) := by
    apply String.toList_inj.mp
    rw [String.toList_ofList, String.toList_append, String.toList_append, inner]
    rfl
  rw [args, String.toList_append, String.toList_append, front]
  rfl

theorem parseRcptTo_bracketed {recipients : String} (solid : Solid recipients.toList)
    (closed : '>' ∉ recipients.toList) :
    parseRcptTo ("TO:<" ++ recipients ++ ">") = some recipients := by
  have args : ("TO:<" ++ recipients ++ ">").toList =
      'T' :: 'O' :: ':' :: '<' :: (recipients.toList ++ ['>']) := by
    simp
  have inside : (recipients.toList ++ ['>']).takeWhile (· != '>') = recipients.toList := by
    rw [List.takeWhile_append_of_pos]
    · simp
    · intro character member
      rw [bne_iff_ne]
      intro same
      rw [same] at member
      exact closed member
  have captured : captureRecipient ('<' :: (recipients.toList ++ ['>'])) =
      some recipients.toList := by
    have path : ('<' :: (recipients.toList ++ ['>'])).dropWhile isSpace =
        '<' :: (recipients.toList ++ ['>']) := List.dropWhile_cons_of_neg (by decide)
    simp [captureRecipient, path, inside, solid.nonempty]
  have dropped : dropPrefix? "TO:".toList
      ('T' :: 'O' :: ':' :: '<' :: (recipients.toList ++ ['>'])) =
        some ('<' :: (recipients.toList ++ ['>'])) := rfl
  rw [parseRcptTo, args, findRecipient, dropped, Option.bind_some, captured]
  simp [(present_eq_some_iff.mp (present_of_solid solid)).1]

theorem onData_eq {recipients : String} (solid : Solid recipients.toList)
    (closed : '>' ∉ recipients.toList) :
    onData recipients = some (handleCommand welcoming "DATA"
      ⟨true, some 1, some "me@a.org", [recipients], .rcpt, true, true, false⟩) := by
  let mailed : Session :=
    (["AUTH PLAIN AGEAYg==", "MAIL FROM:<me@a.org>"].map (Turn.mk welcoming)).foldl
      Session.step (.accept true true false)
  have opened : mailed.state =
      some ⟨true, some 1, some "me@a.org", [], .mail, true, true, false⟩ := by
    decide
  have upper : upcase "RCPT" = "RCPT" := by decide
  have reacts : mailed.reaction ⟨welcoming, "RCPT TO:<" ++ recipients ++ ">"⟩ =
      some ⟨["250 OK"], [.accepted recipients],
        .going ⟨true, some 1, some "me@a.org", [recipients], .rcpt, true, true, false⟩⟩ := by
    rw [Session.reaction, opened, Option.map_some, handleCommand, splitCommand_rcpt]
    simp [dispatch, upper, authenticatedAccountInactive, welcoming, handleRcpt,
      parseRcptTo_bracketed solid closed, smtpMaxRecipients, addUniqueRecipient]
  have last : onData recipients =
    (mailed.step ⟨welcoming, "RCPT TO:<" ++ recipients ++ ">"⟩).reaction dataTurn := rfl
  rw [last, Session.step, reacts]
  rfl

theorem sendEmail_welcoming (submission : Submission) :
    (sendEmail welcoming.now welcoming.sendAllowed welcoming.sender welcoming.table
      submission).handed = some submission := by
  have first : isDuplicate welcoming.now welcoming.table submission.user submission.rawEmail =
      false := by
    rw [isDuplicate]
    split <;> rfl
  rw [sendEmail, first]
  rfl

theorem exists_handed_of_solid {recipients : String} (solid : Solid recipients.toList)
    (closed : '>' ∉ recipients.toList) :
    ∃ reaction submission, onData recipients = some reaction ∧
      .handed submission ∈ reaction.effects ∧ submission.toText = recipients := by
  have received : (collectData smtpMaxDataSize welcoming.receipts).1 = .ok [72, 105] := by
    decide
  let state : State :=
    ⟨true, some 1, some "me@a.org", [recipients], .rcpt, true, true, false⟩
  refine ⟨_, state.submission 1 [72, 105], onData_eq solid closed, ?_, rfl⟩
  have named : splitCommand (trim "DATA") = ("DATA", none) ∧ upcase "DATA" = "DATA" := by
    decide
  have sent := sendEmail_welcoming (state.submission 1 [72, 105])
  rw [handleCommand, named.1]
  simp only [named.2, dispatch]
  rw [if_neg (by simp [authenticatedAccountInactive, welcoming])]
  simp [handleData, received, state] at sent ⊢
  simp [sent]

theorem along_onSubmission_one :
    Along Session.step OneAddress (.accept true true false)
      (onSubmission "you@b.org") := by
  refine .cons (oneAddress_of_other ?_) (.cons (oneAddress_of_other ?_)
    (.cons (@oneAddress_of_single _ _ "TO:<you@b.org>" "you@b.org" ?_ ?_ ?_ ?_)
      (.nil _ _ _)))
  all_goals decide

theorem solid_you : Solid "you@b.org".toList :=
  ⟨by decide, by decide, by decide⟩

theorem handed_authorised_one :
    ∃ reaction submission, onData "you@b.org" = some reaction ∧
      .handed submission ∈ reaction.effects ∧
      Authorised ((onSubmission "you@b.org").foldl Session.step (.accept true true false))
        submission ∧ Addressed submission := by
  obtain ⟨reaction, submission, reacts, handed, -⟩ :=
    exists_handed_of_solid solid_you (by decide)
  exact ⟨reaction, submission, reacts, handed,
    handed_authorised true true false (onSubmission "you@b.org") dataTurn reaction
      submission along_onSubmission_one reacts handed⟩

/-- One argument brings more recipients than a message may have. -/
theorem not_handed_authorised_crowd :
    ¬ ∀ (turns : List Turn) (turn : Turn) (reaction : Reaction) (submission : Submission),
      (turns.foldl Session.step (.accept true true false)).reaction turn =
          some reaction →
        .handed submission ∈ reaction.effects →
        Authorised (turns.foldl Session.step (.accept true true false)) submission ∧
          Addressed submission := by
  intro claim
  have characters : (joinRecipients crowd).toList = [',', ' '].intercalate
      ("utsrqponmlkjihgfedcba".toList.map fun name => [name, '@', 'b', '.', 'c']) := by
    decide +kernel
  have solid : Solid (joinRecipients crowd).toList := by
    rw [characters]
    exact ⟨by decide, by decide, by decide⟩
  have closed : '>' ∉ (joinRecipients crowd).toList := by
    rw [characters]
    decide
  have crowded : smtpMaxRecipients < (parseEmailList (joinRecipients crowd)).length := by
    rw [parseEmailList, splitEmailHeaderList, characters]
    decide +kernel
  obtain ⟨reaction, submission, reacts, handed, same⟩ := exists_handed_of_solid solid closed
  have bounded :=
    (claim (onSubmission (joinRecipients crowd)) dataTurn reaction submission reacts
      handed).2.bounded
  rw [same] at bounded
  exact absurd crowded (Nat.not_lt_of_le bounded)

/-- The argument of a `RCPT` command that is looked at is there. -/
def GivesArgument (session : Session) (turn : Turn) : Prop :=
  ∀ state, session.state = some state → turn.name = "RCPT" → state.InTransaction →
    state.recipients.length < smtpMaxRecipients → turn.args ≠ none

structure Kept (session : Session) (turn : Turn) (reaction : Reaction) : Prop where
  answered : turn.name = "RCPT" → reaction.next ≠ .raised ∧ reaction.replies ≠ []
  exactly : ∀ submission, .handed submission ∈ reaction.effects →
    ∀ key, key ∈ (parseEmailList submission.toText).map addressKey ↔
      key ∈ session.monitor.accepted.map addressKey
  bounded : ∀ submission, .handed submission ∈ reaction.effects →
    (parseEmailList submission.toText).length ≤ smtpMaxRecipients
  single : turn.name = "RCPT" → ∀ state next, session.state = some state →
    reaction.next = .going next →
      (parseEmailList (joinRecipients next.recipients)).length ≤
        (parseEmailList (joinRecipients state.recipients)).length + 1

theorem length_parseEmailList {recipients : List String} (tidy : Tidy recipients) :
    (parseEmailList (joinRecipients recipients)).length = recipients.length := by
  have keys := congrArg List.length (parseEmailList_joinRecipients tidy)
  simpa using keys

theorem Turned.answered {args : Option String} {state : State} {reaction : Reaction}
    (turned : Turned "RCPT" args state reaction)
    (gives : state.InTransaction → state.recipients.length < smtpMaxRecipients →
      args ≠ none) : reaction.next ≠ .raised ∧ reaction.replies ≠ [] := by
  cases turned with
  | raises _ missing inside free => exact absurd missing (gives inside free)
  | nobody replies named _ _ => simp at named
  | sends replies user data handed _ named _ _ _ _ => simp at named
  | accepts text address _ _ _ _ _ => simp
  | mails address user _ _ => simp
  | stays replies some_reply => exact ⟨by simp, some_reply⟩
  | ends replies some_reply => exact ⟨by simp, some_reply⟩
  | greets replies some_reply => exact ⟨by simp, some_reply⟩
  | authenticates replies user some_reply => exact ⟨by simp, some_reply⟩
  | clears replies some_reply => exact ⟨by simp, some_reply⟩
  | resets replies some_reply => exact ⟨by simp, some_reply⟩
  | secures replies some_reply => exact ⟨by simp, some_reply⟩

theorem Turned.length_recipients {name : String} {args : Option String}
    {state next : State} {reaction : Reaction} (turned : Turned name args state reaction)
    (goes : reaction.next = .going next) :
    next.recipients.length ≤ state.recipients.length + 1 := by
  cases turned with
  | accepts text address _ _ _ _ _ =>
      cases goes
      exact length_addUniqueRecipient_le ..
  | stays replies _ =>
      cases goes
      exact Nat.le_succ _
  | greets replies _ =>
      cases goes
      exact Nat.le_succ _
  | authenticates replies user _ =>
      cases goes
      exact Nat.le_succ _
  | ends replies _ => cases goes
  | raises _ _ _ _ => cases goes
  | nobody replies _ _ _ => cases goes
  | _ =>
      cases goes
      exact Nat.zero_le _

theorem kept_of_tidy {session : Session} {turn : Turn} {reaction : Reaction}
    (sound : session.Sound) (tidy : session.Tidy) (after : (session.step turn).Tidy)
    (gives : GivesArgument session turn)
    (reacts : session.reaction turn = some reaction) : Kept session turn reaction := by
  obtain ⟨state, opened, -⟩ := Option.map_eq_some_iff.mp reacts
  have turned := turned_reaction opened reacts
  refine ⟨?_, ?_, ?_, ?_⟩
  · intro named
    rw [named] at turned
    exact turned.answered (gives state opened named)
  · intro submission handed key
    obtain ⟨state, -, -, same, keys⟩ := keys_of_handed sound tidy reacts handed
    rw [keys, List.mem_reverse, same]
    exact mem_keys_gathered
  · intro submission handed
    exact (addressed_of_tidy sound tidy reacts handed).bounded
  · intro _ state' next before goes
    rw [opened] at before
    cases before
    have next_tidy : Tidy next.recipients := by
      apply after next
      rw [step_of_reaction reacts, goes]
      rfl
    rw [length_parseEmailList next_tidy, length_parseEmailList (tidy state opened)]
    exact turned.length_recipients goes

/-- In a run whose `RCPT` commands have arguments that come through as one recipient
each, the recipients are kept at every turn. -/
theorem recipients_kept (secure tlsAvailable allowInsecureAuth : Bool)
    (turns : List Turn) (turn : Turn) (reaction : Reaction)
    (along : Along Session.step
      (fun session turn => OneAddress session turn ∧ GivesArgument session turn)
      (.accept secure tlsAvailable allowInsecureAuth) (turns ++ [turn]))
    (reacts : (turns.foldl Session.step
      (.accept secure tlsAvailable allowInsecureAuth)).reaction turn = some reaction) :
    Kept (turns.foldl Session.step (.accept secure tlsAvailable allowInsecureAuth))
      turn reaction := by
  have one := along.mono fun _ _ both => both.1
  have sound := sound_run (sound_accept secure tlsAvailable allowInsecureAuth) turns
  have start := tidy_accept secure tlsAvailable allowInsecureAuth
  have tidy := tidy_run start one.prefix_of
  have after := tidy_run start one
  rw [List.foldl_append] at after
  exact kept_of_tidy sound tidy after along.suffix_of.head.2 reacts

theorem givesArgument_of_args {session : Session} {turn : Turn}
    (given : turn.name = "RCPT" → turn.args.isSome) : GivesArgument session turn := by
  intro _ _ named _ _ missing
  have some_args := given named
  rw [missing] at some_args
  cases some_args

theorem along_onSubmission_data :
    Along Session.step
      (fun session turn => OneAddress session turn ∧ GivesArgument session turn)
      (.accept true true false) (onSubmission "you@b.org" ++ [dataTurn]) := by
  have one : Along Session.step OneAddress (.accept true true false)
      (onSubmission "you@b.org" ++ [dataTurn]) := by
    apply along_onSubmission_one.append
    exact .cons (oneAddress_of_other (by decide)) (.nil _ _ _)
  intro front turn back split
  refine ⟨one front turn back split, givesArgument_of_args ?_⟩
  have members : ∀ turn ∈ onSubmission "you@b.org" ++ [dataTurn],
      turn.name = "RCPT" → turn.args.isSome := by
    decide
  apply members
  rw [split]
  simp

theorem recipients_kept_one :
    ∃ reaction, onData "you@b.org" = some reaction ∧
      Kept ((onSubmission "you@b.org").foldl Session.step (.accept true true false))
        dataTurn reaction := by
  obtain ⟨reaction, -, reacts, -, -⟩ := exists_handed_of_solid solid_you (by decide)
  exact ⟨reaction, reacts, recipients_kept true true false (onSubmission "you@b.org")
    dataTurn reaction along_onSubmission_data reacts⟩

/-- A comma in an argument makes two recipients of it. -/
theorem not_recipients_kept_comma :
    ¬ ∀ (turns : List Turn) (turn : Turn) (reaction : Reaction),
      (turns.foldl Session.step (.accept true true false)).reaction turn =
          some reaction →
        Kept (turns.foldl Session.step (.accept true true false)) turn reaction := by
  intro claim
  have solid : Solid "one@b.org,two@b.org".toList :=
    ⟨by decide, by decide, by decide⟩
  obtain ⟨reaction, submission, reacts, handed, same⟩ :=
    exists_handed_of_solid solid (by decide)
  have inside : "two@b.org" ∈ (parseEmailList submission.toText).map addressKey := by
    rw [same]
    decide
  have kept := claim (onSubmission "one@b.org,two@b.org") dataTurn reaction reacts
  have accepted := (kept.exactly submission handed "two@b.org").mp inside
  exact absurd accepted (by decide)

end Elektrine.SMTP
