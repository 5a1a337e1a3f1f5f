import Elektrine.SMTP.Server

/-!
# Sessions and what they have done

A monitor keeps, from the effects of the commands alone, who authenticated last, which
sender a `MAIL` command has checked since, and which recipients were accepted.  The
state of the session follows the monitor through every run of commands.
-/

namespace Elektrine.SMTP

open Elektrine.Library

/-- The state inside of a mail transaction. -/
def State.InTransaction (state : State) : Prop :=
  state.phase = .mail ∨ state.phase = .rcpt

inductive Turned (name : String) (args : Option String) (state : State) :
    Reaction → Prop where
  | stays (replies : List String) : replies ≠ [] →
      Turned name args state ⟨replies, [], .going state⟩
  | ends (replies : List String) : replies ≠ [] →
      Turned name args state ⟨replies, [], .quit⟩
  | greets (replies : List String) : replies ≠ [] →
      Turned name args state ⟨replies, [], .going { state with phase := .ready }⟩
  | authenticates (replies : List String) (user : UserId) : replies ≠ [] →
      Turned name args state
        ⟨replies, [.authenticated user],
          .going { state with
            authenticated := true, userId := some user, phase := .authenticated }⟩
  | mails (address : String) (user : UserId) :
      state.authenticated = true → state.userId = some user →
      Turned name args state
        ⟨["250 OK"], [.verified address user],
          .going { state with
            fromAddress := some address, recipients := [], phase := .mail }⟩
  | accepts (text address : String) :
      name = "RCPT" → args = some text → parseRcptTo text = some address →
      state.InTransaction → state.recipients.length < smtpMaxRecipients →
      Turned name args state
        ⟨["250 OK"], [.accepted address],
          .going { state with
            recipients := addUniqueRecipient state.recipients address,
            phase := .rcpt }⟩
  | raises : name = "RCPT" → args = none → state.InTransaction →
      state.recipients.length < smtpMaxRecipients →
      Turned name args state ⟨[], [], .raised⟩
  | nobody (replies : List String) : name = "DATA" → state.phase = .rcpt →
      state.userId = none → Turned name args state ⟨replies, [], .raised⟩
  | sends (replies : List String) (user : UserId) (data : Bytes)
      (handed : Option Submission) : replies ≠ [] → name = "DATA" →
      state.phase = .rcpt → state.recipients ≠ [] → state.userId = some user →
      (∀ submission, handed = some submission → submission = state.submission user data) →
      Turned name args state
        ⟨replies, handed.toList.map .handed, .going state.cleared⟩
  | clears (replies : List String) : replies ≠ [] →
      Turned name args state ⟨replies, [], .going state.cleared⟩
  | resets (replies : List String) : replies ≠ [] →
      Turned name args state ⟨replies, [.reset], .going state.cleared⟩
  | secures (replies : List String) : replies ≠ [] →
      Turned name args state
        ⟨replies, [.secured], .going (resetAfterStarttls state)⟩

section

variable {around : Surroundings} {name : String} {args : Option String} {state : State}

theorem Turned.reply (text : String) : Turned name args state (state.reply text) :=
  .stays [text] (by simp)

theorem Turned.closing (text : String) : Turned name args state (closing text) :=
  .ends [text] (by simp)

inductive Authenticating (state : State) : Reaction → Prop where
  | stays (replies : List String) : replies ≠ [] →
      Authenticating state ⟨replies, [], .going state⟩
  | ends (replies : List String) : replies ≠ [] →
      Authenticating state ⟨replies, [], .quit⟩
  | authenticates (replies : List String) (user : UserId) : replies ≠ [] →
      Authenticating state
        ⟨replies, [.authenticated user],
          .going { state with
            authenticated := true, userId := some user, phase := .authenticated }⟩

theorem Authenticating.reply (text : String) :
    Authenticating state (state.reply text) :=
  .stays [text] (by simp)

theorem Authenticating.after {reaction : Reaction}
    (authenticating : Authenticating state reaction) (text : String) :
    Authenticating state (reaction.after text) := by
  cases authenticating with
  | stays replies _ => exact .stays _ (by simp)
  | ends replies _ => exact .ends _ (by simp)
  | authenticates replies user _ => exact .authenticates _ user (by simp)

theorem Authenticating.turned {reaction : Reaction}
    (authenticating : Authenticating state reaction) : Turned name args state reaction := by
  cases authenticating with
  | stays replies some_reply => exact .stays replies some_reply
  | ends replies some_reply => exact .ends replies some_reply
  | authenticates replies user some_reply => exact .authenticates replies user some_reply

theorem authenticating_user (username password : Bytes) :
    Authenticating state (authenticateUser around username password state) := by
  rw [authenticateUser]
  cases around.rateLimit username with
  | ok =>
      cases around.authenticate username password with
      | some user => exact .authenticates _ user (by simp)
      | none => exact .reply _
  | ipRateLimited => exact .ends _ (by simp)
  | ipBlocked => exact .ends _ (by simp)
  | accountRateLimited => exact .ends _ (by simp)
  | accountBlocked => exact .ends _ (by simp)

theorem authenticating_plain (credentials : String) :
    Authenticating state (authenticatePlain around credentials state) := by
  rw [authenticatePlain]
  split_ifs with cancelled
  · exact .reply _
  · cases decodeAuthPlain credentials with
    | some pair => exact authenticating_user ..
    | none => exact .reply _

theorem authenticating_password (username : Bytes) (line : Option String) :
    Authenticating state (handleAuthLoginPassword around username line state) := by
  rw [handleAuthLoginPassword]
  cases line.map decodeBase64Line with
  | none => exact .reply _
  | some credential =>
      cases credential with
      | cancelled => exact .reply _
      | decoded password => exact authenticating_user ..
      | invalid => exact .reply _

theorem authenticating_username (username : Credential) (password : Option String) :
    Authenticating state (handleAuthLoginUsername around username password state) := by
  cases username with
  | cancelled => exact .reply _
  | decoded username => exact (authenticating_password username password).after _
  | invalid => exact .reply _

theorem authenticating_auth (args : Option String) :
    Authenticating state (handleAuth around args state) := by
  rw [handleAuth]
  split_ifs with allowed
  · cases parseAuth args with
    | none => exact .reply _
    | some mechanism =>
        cases mechanism with
        | plain credentials =>
            cases credentials with
            | some credentials => exact authenticating_plain credentials
            | none =>
                simp only [handleAuthPlain]
                cases around.lines.head?.join with
                | some line => exact (authenticating_plain (trim line)).after _
                | none => exact (Authenticating.reply _).after _
        | login username =>
            cases username with
            | some username => exact authenticating_username ..
            | none =>
                simp only
                cases around.lines.head?.join with
                | some line => exact (authenticating_username ..).after _
                | none => exact (Authenticating.reply _).after _
  · exact .reply _

theorem turned_mail : Turned name args state (handleMail around args state) := by
  rw [handleMail]
  split_ifs with authenticated
  · cases parseMailFrom args with
    | ok address =>
        simp only
        cases owner : state.userId.filter fun user => around.ownsAddress address user with
        | some user =>
            obtain ⟨known, -⟩ := Option.filter_eq_some_iff.mp owner
            exact .mails address user authenticated known
        | none => exact .reply _
    | error reason =>
        cases reason with
        | invalidFormat => exact .reply _
        | unsupportedParameter => exact .reply _
        | messageTooLarge => exact .reply _
  · exact .reply _

theorem turned_rcpt : Turned "RCPT" args state (handleRcpt args state) := by
  cases args with
  | none =>
      rw [handleRcpt]
      split_ifs with phase full
      · exact .reply _
      · exact .raises rfl rfl phase (Nat.lt_of_not_le full)
      · exact .reply _
  | some text =>
      rw [handleRcpt]
      split_ifs with phase full
      · exact .reply _
      · cases parsed : parseRcptTo text with
        | some address =>
            exact .accepts text address rfl rfl parsed phase (Nat.lt_of_not_le full)
        | none => exact .reply _
      · exact .reply _

theorem handed_sendEmail {now : Nat} {allowed : Bool}
    {sender : Submission → Except SendError Unit} {table : List Remembered}
    {submission handed : Submission}
    (given : (sendEmail now allowed sender table submission).handed = some handed) :
    handed = submission := by
  rw [sendEmail] at given
  split_ifs at given
  cases outcome : sender submission with
  | ok _ =>
      rw [outcome] at given
      exact (Option.some.inj given).symm
  | error reason =>
      rw [outcome] at given
      exact (Option.some.inj given).symm

theorem turned_data : Turned "DATA" args state (handleData around state) := by
  rw [handleData]
  split_ifs with ready
  · cases (collectData smtpMaxDataSize around.receipts).1 with
    | ok data =>
        simp only
        cases known : state.userId with
        | none => exact .nobody _ rfl ready.1 known
        | some user =>
            exact .sends _ user data _ (by simp) rfl ready.1 ready.2 known
              fun _ given => handed_sendEmail given
    | error reason =>
        cases reason with
        | messageTooLarge => exact .clears _ (by simp)
        | closed => exact .stays _ (by simp)
        | timeout => exact .stays _ (by simp)
  · exact .reply _

theorem turned_starttls : Turned name args state (handleStarttls around state) := by
  rw [handleStarttls]
  split_ifs
  · exact .reply _
  · exact .reply _
  · exact .secures _ (by simp)
  · exact .closing _

theorem turned_unknown : Turned name args state (handleUnknown around name state) := by
  rw [handleUnknown]
  split_ifs
  · exact .closing _
  · exact .reply _

theorem turned_dispatch (around : Surroundings) (name : String) (args : Option String)
    (state : State) : Turned name args state (dispatch around name args state) := by
  rw [dispatch]
  by_cases inactive : authenticatedAccountInactive around state ∧ name ≠ "QUIT"
  · rw [if_pos inactive]
    exact .closing _
  rw [if_neg inactive]
  by_cases ehlo : name = "EHLO"
  · rw [if_pos ehlo]
    exact .greets _ (by simp)
  rw [if_neg ehlo]
  by_cases helo : name = "HELO"
  · rw [if_pos helo]
    exact .greets _ (by simp)
  rw [if_neg helo]
  by_cases starttls : name = "STARTTLS"
  · rw [if_pos starttls]
    exact turned_starttls
  rw [if_neg starttls]
  by_cases auth : name = "AUTH"
  · rw [if_pos auth]
    exact (authenticating_auth args).turned
  rw [if_neg auth]
  by_cases mail : name = "MAIL"
  · rw [if_pos mail]
    exact turned_mail
  rw [if_neg mail]
  by_cases rcpt : name = "RCPT"
  · rw [if_pos rcpt, rcpt]
    exact turned_rcpt
  rw [if_neg rcpt]
  by_cases data : name = "DATA"
  · rw [if_pos data, data]
    exact turned_data
  rw [if_neg data]
  by_cases rset : name = "RSET"
  · rw [if_pos rset]
    exact .resets _ (by simp)
  rw [if_neg rset]
  by_cases noop : name = "NOOP"
  · rw [if_pos noop]
    exact .reply _
  rw [if_neg noop]
  by_cases quit : name = "QUIT"
  · rw [if_pos quit]
    exact .closing _
  rw [if_neg quit]
  exact turned_unknown

end

structure Monitor where
  user : Option UserId
  /-- What the last accepted `MAIL` since then has checked. -/
  sender : Option (String × UserId)
  /-- The recipients accepted since the last `MAIL` or `RSET`, the newest first. -/
  accepted : List String
  deriving DecidableEq, Repr

def Monitor.initial : Monitor :=
  ⟨none, none, []⟩

def Monitor.observe (monitor : Monitor) : Effect → Monitor
  | .authenticated user => { monitor with user := some user, sender := none }
  | .verified address user =>
      { monitor with sender := some (address, user), accepted := [] }
  | .accepted address => { monitor with accepted := address :: monitor.accepted }
  | .reset => { monitor with accepted := [] }
  | .secured => { monitor with user := none, sender := none }
  | .handed _ => monitor

structure Session where
  state : Option State
  monitor : Monitor
  deriving DecidableEq, Repr

structure Turn where
  around : Surroundings
  line : String

def Turn.name (turn : Turn) : String :=
  upcase (splitCommand (trim turn.line)).1

def Turn.args (turn : Turn) : Option String :=
  (splitCommand (trim turn.line)).2

def Next.state : Next → Option State
  | .going state => some state
  | .quit | .raised => none

def Session.reaction (session : Session) (turn : Turn) : Option Reaction :=
  session.state.map (handleCommand turn.around turn.line)

def Session.step (session : Session) (turn : Turn) : Session :=
  match session.reaction turn with
  | some reaction =>
      ⟨reaction.next.state, reaction.effects.foldl Monitor.observe session.monitor⟩
  | none => session

def Session.accept (secure tlsAvailable allowInsecureAuth : Bool) : Session where
  state := some (.greet secure tlsAvailable allowInsecureAuth)
  monitor := .initial

def gathered (accepted : List String) : List String :=
  accepted.foldr (fun address recipients => addUniqueRecipient recipients address) []

structure Follows (state : State) (monitor : Monitor) : Prop where
  user : state.userId = monitor.user
  authenticated : state.authenticated = monitor.user.isSome
  checked : state.InTransaction → ∃ address user, state.fromAddress = some address ∧
    monitor.user = some user ∧ monitor.sender = some (address, user)
  recipients : state.InTransaction → state.recipients = gathered monitor.accepted
  bounded : state.recipients.length ≤ smtpMaxRecipients

def Session.Sound (session : Session) : Prop :=
  ∀ state, session.state = some state → Follows state session.monitor

theorem sound_accept (secure tlsAvailable allowInsecureAuth : Bool) :
    (Session.accept secure tlsAvailable allowInsecureAuth).Sound := by
  intro state opened
  cases opened
  constructor
  · rfl
  · rfl
  · intro inside
    rcases inside with inside | inside <;> cases inside
  · intro _
    rfl
  · exact Nat.zero_le _

theorem not_inTransaction_cleared (state : State) : ¬ state.cleared.InTransaction := by
  intro inside
  rcases inside with inside | inside <;> cases inside

theorem length_addUniqueRecipient_le (recipients : List String) (recipient : String) :
    (addUniqueRecipient recipients recipient).length ≤ recipients.length + 1 := by
  rw [addUniqueRecipient]
  split_ifs
  · exact Nat.le_succ _
  · simp

theorem Follows.turned {name : String} {args : Option String} {state next : State}
    {monitor : Monitor} {reaction : Reaction} (follows : Follows state monitor)
    (turned : Turned name args state reaction) (goes : reaction.next = .going next) :
    Follows next (reaction.effects.foldl Monitor.observe monitor) := by
  cases turned with
  | stays replies _ =>
      cases goes
      exact follows
  | ends replies _ => cases goes
  | greets replies _ =>
      cases goes
      refine ⟨follows.user, follows.authenticated, ?_, ?_, follows.bounded⟩
      · intro inside
        rcases inside with inside | inside <;> cases inside
      · intro inside
        rcases inside with inside | inside <;> cases inside
  | authenticates replies user _ =>
      cases goes
      refine ⟨rfl, rfl, ?_, ?_, follows.bounded⟩
      · intro inside
        rcases inside with inside | inside <;> cases inside
      · intro inside
        rcases inside with inside | inside <;> cases inside
  | mails address user authenticated known =>
      cases goes
      have same : monitor.user = some user := follows.user.symm.trans known
      refine ⟨follows.user, follows.authenticated, ?_, ?_, Nat.zero_le _⟩
      · intro _
        exact ⟨address, user, rfl, same, rfl⟩
      · intro _
        rfl
  | accepts text address named given parsed inside free =>
      cases goes
      refine ⟨follows.user, follows.authenticated, ?_, ?_, ?_⟩
      · intro _
        exact follows.checked inside
      · intro _
        have before := follows.recipients inside
        simp only [List.foldl_cons, List.foldl_nil, Monitor.observe, before]
        rfl
      · exact (length_addUniqueRecipient_le ..).trans free
  | raises _ _ _ _ => cases goes
  | nobody replies _ _ _ => cases goes
  | sends replies user data handed _ _ _ _ _ _ =>
      cases goes
      have quiet : (handed.toList.map Effect.handed).foldl Monitor.observe monitor =
          monitor := by
        cases handed <;> rfl
      rw [quiet]
      exact ⟨follows.user, follows.authenticated,
        fun inside => absurd inside (not_inTransaction_cleared state),
        fun inside => absurd inside (not_inTransaction_cleared state), Nat.zero_le _⟩
  | clears replies _ =>
      cases goes
      exact ⟨follows.user, follows.authenticated,
        fun inside => absurd inside (not_inTransaction_cleared state),
        fun inside => absurd inside (not_inTransaction_cleared state), Nat.zero_le _⟩
  | resets replies _ =>
      cases goes
      exact ⟨follows.user, follows.authenticated,
        fun inside => absurd inside (not_inTransaction_cleared state),
        fun inside => absurd inside (not_inTransaction_cleared state), Nat.zero_le _⟩
  | secures replies _ =>
      cases goes
      refine ⟨rfl, rfl, ?_, ?_, Nat.zero_le _⟩
      · intro inside
        rcases inside with inside | inside <;> cases inside
      · intro inside
        rcases inside with inside | inside <;> cases inside

theorem handleCommand_eq (turn : Turn) (state : State) :
    handleCommand turn.around turn.line state =
      dispatch turn.around turn.name turn.args state := by
  cases parts : splitCommand (trim turn.line) with
  | mk name args => simp only [handleCommand, Turn.name, Turn.args, parts]

theorem turned_reaction {session : Session} {turn : Turn} {state : State}
    {reaction : Reaction} (opened : session.state = some state)
    (reacts : session.reaction turn = some reaction) :
    Turned turn.name turn.args state reaction := by
  rw [Session.reaction, opened, Option.map_some, Option.some.injEq,
    handleCommand_eq] at reacts
  rw [← reacts]
  exact turned_dispatch ..

theorem eq_going_of_state {next : Next} {state : State}
    (goes : next.state = some state) : next = .going state := by
  cases next with
  | going after => rw [Option.some.inj goes]
  | quit => cases goes
  | raised => cases goes

theorem step_of_reaction {session : Session} {turn : Turn} {reaction : Reaction}
    (reacts : session.reaction turn = some reaction) :
    session.step turn =
      ⟨reaction.next.state, reaction.effects.foldl Monitor.observe session.monitor⟩ := by
  rw [Session.step, reacts]

theorem step_of_closed {session : Session} {turn : Turn}
    (silent : session.reaction turn = none) : session.step turn = session := by
  rw [Session.step, silent]

theorem Session.Sound.step {session : Session} (sound : session.Sound) (turn : Turn) :
    (session.step turn).Sound := by
  intro next opened
  cases reacts : session.reaction turn with
  | none =>
      rw [step_of_closed reacts] at opened ⊢
      exact sound next opened
  | some reaction =>
      obtain ⟨state, before, -⟩ := Option.map_eq_some_iff.mp reacts
      rw [step_of_reaction reacts] at opened ⊢
      exact (sound state before).turned (turned_reaction before reacts)
        (eq_going_of_state opened)

theorem sound_run {session : Session} (sound : session.Sound) (turns : List Turn) :
    (turns.foldl Session.step session).Sound := by
  induction turns generalizing session with
  | nil => exact sound
  | cons turn turns ih => exact ih (sound.step turn)

end Elektrine.SMTP
