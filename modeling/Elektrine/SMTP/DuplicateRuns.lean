import Elektrine.Email.RecipientLists
import Elektrine.Library.Interleavings
import Elektrine.Library.Runs
import Elektrine.SMTP.Submissions

/-!
# Runs of submissions

Any number of connections submit messages, each in three steps: the lookup in the shared
table, the call of the sender, and the entry into the table.  A submission that is found
in the table is answered as sent, so nothing is lost as long as submissions of one user
under one Message-ID carry one message.
-/

namespace Elektrine.SMTP

open Elektrine.Email Elektrine.Library

structure Desk where
  table : List Remembered
  handed : List Submission
  stored : List (Submission × Nat)
  answered : List Submission
  deriving DecidableEq, Repr

namespace Desk

def empty : Desk :=
  ⟨[], [], [], []⟩

end Desk

/-- A connection between the steps of `send_email`. -/
inductive Submitting where
  | idle
  | checked (submission : Submission)
  | delivered (submission : Submission)
  deriving DecidableEq, Repr

inductive SubmitAction where
  | lookup (now : Nat) (submission : Submission)
  | limit
  | fail
  | deliver
  | store (now : Nat)
  | crash
  deriving DecidableEq, Repr

def submit (desk : Desk) : SubmitAction → Submitting → Option (Desk × Submitting)
  | .lookup now submission, .idle =>
      let cleaned := { desk with table := cleanup now desk.table }
      if isDuplicate now desk.table submission.user submission.rawEmail then
        some ({ cleaned with answered := submission :: desk.answered }, .idle)
      else some (cleaned, .checked submission)
  | .limit, .checked _ => some (desk, .idle)
  | .fail, .checked _ => some (desk, .idle)
  | .deliver, .checked submission =>
      some ({ desk with handed := submission :: desk.handed }, .delivered submission)
  | .store now, .delivered submission =>
      some ({ desk with
          table := storeSubmission now desk.table submission.user submission.rawEmail,
          stored := (submission, now) :: desk.stored,
          answered := submission :: desk.answered }, .idle)
  | .crash, _ => some (desk, .idle)
  | _, _ => none

abbrev Submissions := Interleaving Desk Submitting

def submitStep (submissions : Submissions) (label : Nat × SubmitAction) : Submissions :=
  submissions.act submit label

def Submissions.start : Submissions where
  shared := .empty
  process := fun _ => .idle

def Submission.key (submission : Submission) : Option (UserId × Bytes) :=
  submissionIdempotencyKey submission.user submission.rawEmail

/-- The sender reads the same set of recipients out of both. -/
def SameEnvelope (first second : Submission) : Prop :=
  ∀ recipient, recipient ∈ parseEmailList first.toText ↔
    recipient ∈ parseEmailList second.toText

structure StandsFor (first second : Submission) : Prop where
  user : first.user = second.user
  content : first.rawEmail = second.rawEmail
  envelope : SameEnvelope first second

/-- What is answered as sent was handed over, as it is or as an earlier submission that
stands for it, and only what was handed over is remembered. -/
structure Lossless (desk : Desk) : Prop where
  answered : ∀ submission ∈ desk.answered, submission ∈ desk.handed ∨
    ∃ earlier ∈ desk.handed, StandsFor earlier submission
  remembered : ∀ row ∈ desk.table, ∃ submission ∈ desk.handed,
    submission.key = some row.key

/-- The condition on a step: a submission whose key was entered into the table within the
time to live carries the message that was entered. -/
def SameMessage (submissions : Submissions) (label : Nat × SubmitAction) : Prop :=
  ∀ now submission, label.2 = .lookup now submission →
    ∀ entry ∈ submissions.shared.stored, entry.1.key = submission.key →
      submission.key.isSome → now ≤ entry.2 + submissionIdempotencyTtlSeconds →
        entry.1.rawEmail = submission.rawEmail ∧ SameEnvelope entry.1 submission

theorem mem_cleanup {now : Nat} {table : List Remembered} {row : Remembered} :
    row ∈ cleanup now table ↔
      row ∈ table ∧ now ≤ row.insertedAt + submissionIdempotencyTtlSeconds := by
  rw [cleanup, List.mem_filter, decide_eq_true_iff]

theorem mem_storeSubmission {now : Nat} {table : List Remembered} {row : Remembered}
    {submission : Submission}
    (member : row ∈ storeSubmission now table submission.user submission.rawEmail) :
    row ∈ table ∨ (submission.key = some row.key ∧ row.insertedAt = now) := by
  rw [storeSubmission] at member
  cases key : submissionIdempotencyKey submission.user submission.rawEmail with
  | none =>
      rw [key] at member
      exact .inl (mem_cleanup.mp member).1
  | some own =>
      rw [key] at member
      rcases List.mem_cons.mp member with rfl | older
      · exact .inr ⟨key, rfl⟩
      · exact .inl (mem_cleanup.mp (List.mem_filter.mp older).1).1

theorem exists_row_of_isDuplicate {now : Nat} {table : List Remembered}
    {submission : Submission}
    (duplicate : isDuplicate now table submission.user submission.rawEmail) :
    ∃ row ∈ table, submission.key = some row.key ∧
      now ≤ row.insertedAt + submissionIdempotencyTtlSeconds := by
  rw [isDuplicate] at duplicate
  cases key : submissionIdempotencyKey submission.user submission.rawEmail with
  | none =>
      rw [key] at duplicate
      cases duplicate
  | some own =>
      rw [key] at duplicate
      obtain ⟨row, member, same⟩ := List.any_eq_true.mp duplicate
      obtain ⟨inside, young⟩ := mem_cleanup.mp member
      refine ⟨row, inside, ?_, young⟩
      rw [of_decide_eq_true same]
      exact key

theorem user_of_key {first second : Submission} (same : first.key = second.key)
    (keyed : second.key.isSome) : first.user = second.user := by
  obtain ⟨key, known⟩ := Option.isSome_iff_exists.mp keyed
  rw [known] at same
  obtain ⟨_, -, one⟩ := Option.map_eq_some_iff.mp same
  obtain ⟨_, -, other⟩ := Option.map_eq_some_iff.mp known
  have pairs := one.trans other.symm
  exact congrArg Prod.fst pairs

structure Tracked (submissions : Submissions) : Prop where
  rows : ∀ row ∈ submissions.shared.table, ∃ entry ∈ submissions.shared.stored,
    entry.1.key = some row.key ∧ entry.2 = row.insertedAt
  stored : ∀ entry ∈ submissions.shared.stored, entry.1 ∈ submissions.shared.handed
  delivered : ∀ id submission, submissions.process id = .delivered submission →
    submission ∈ submissions.shared.handed
  answered : ∀ submission ∈ submissions.shared.answered,
    submission ∈ submissions.shared.handed ∨
      ∃ earlier ∈ submissions.shared.handed, StandsFor earlier submission

theorem Tracked.start : Tracked .start where
  rows := by simp [Submissions.start, Desk.empty]
  stored := by simp [Submissions.start, Desk.empty]
  delivered := by simp [Submissions.start]
  answered := by simp [Submissions.start, Desk.empty]

theorem Tracked.move {submissions : Submissions} (tracked : Tracked submissions)
    {id : Nat} {next : Submitting}
    (taken : ∀ submission, next = .delivered submission →
      submission ∈ submissions.shared.handed) :
    Tracked (submissions.move id submissions.shared next) where
  rows := tracked.rows
  stored := tracked.stored
  delivered := by
    intro other submission after
    by_cases same : other = id
    · subst same
      rw [Interleaving.process_move_self] at after
      exact taken submission after
    · rw [Interleaving.process_move_other same] at after
      exact tracked.delivered other submission after
  answered := tracked.answered

theorem Tracked.clean {submissions : Submissions} (tracked : Tracked submissions)
    (now : Nat) :
    Tracked { submissions with
      shared := { submissions.shared with
        table := cleanup now submissions.shared.table } } where
  rows := fun row member => tracked.rows row (mem_cleanup.mp member).1
  stored := tracked.stored
  delivered := tracked.delivered
  answered := tracked.answered

theorem Tracked.answer {submissions : Submissions} (tracked : Tracked submissions)
    {submission : Submission}
    (kept : submission ∈ submissions.shared.handed ∨
      ∃ earlier ∈ submissions.shared.handed, StandsFor earlier submission) :
    Tracked { submissions with
      shared := { submissions.shared with
        answered := submission :: submissions.shared.answered } } where
  rows := tracked.rows
  stored := tracked.stored
  delivered := tracked.delivered
  answered := by
    intro other member
    rcases List.mem_cons.mp member with rfl | older
    · exact kept
    · exact tracked.answered other older

theorem Tracked.hand {submissions : Submissions} (tracked : Tracked submissions)
    (submission : Submission) :
    Tracked { submissions with
      shared := { submissions.shared with
        handed := submission :: submissions.shared.handed } } where
  rows := tracked.rows
  stored := fun entry member => List.mem_cons_of_mem _ (tracked.stored entry member)
  delivered := fun id other delivered =>
    List.mem_cons_of_mem _ (tracked.delivered id other delivered)
  answered := by
    intro other member
    rcases tracked.answered other member with handed | ⟨earlier, handed, stands⟩
    · exact .inl (List.mem_cons_of_mem _ handed)
    · exact .inr ⟨earlier, List.mem_cons_of_mem _ handed, stands⟩

theorem Tracked.enter {submissions : Submissions} (tracked : Tracked submissions)
    {submission : Submission} (handed : submission ∈ submissions.shared.handed)
    (now : Nat) :
    Tracked { submissions with
      shared := { submissions.shared with
        table := storeSubmission now submissions.shared.table submission.user
          submission.rawEmail,
        stored := (submission, now) :: submissions.shared.stored } } where
  rows := by
    intro row member
    rcases mem_storeSubmission member with older | ⟨key, time⟩
    · obtain ⟨entry, inside, same⟩ := tracked.rows row older
      exact ⟨entry, List.mem_cons_of_mem _ inside, same⟩
    · exact ⟨(submission, now), List.mem_cons_self, key, time.symm⟩
  stored := by
    intro entry member
    rcases List.mem_cons.mp member with rfl | older
    · exact handed
    · exact tracked.stored entry older
  delivered := tracked.delivered
  answered := tracked.answered

theorem exists_standsFor {submissions : Submissions} (tracked : Tracked submissions)
    {id now : Nat} {submission : Submission}
    (met : SameMessage submissions (id, .lookup now submission))
    (duplicate : isDuplicate now submissions.shared.table submission.user
      submission.rawEmail) :
    ∃ earlier ∈ submissions.shared.handed, StandsFor earlier submission := by
  obtain ⟨row, member, key, young⟩ := exists_row_of_isDuplicate duplicate
  obtain ⟨entry, stored, entered, time⟩ := tracked.rows row member
  have same : entry.1.key = submission.key := entered.trans key.symm
  have keyed : submission.key.isSome := by
    rw [key]
    rfl
  rw [← time] at young
  obtain ⟨content, envelope⟩ := met now submission rfl entry stored same keyed young
  exact ⟨entry.1, tracked.stored entry stored, user_of_key same keyed, content, envelope⟩

theorem Tracked.step {submissions : Submissions} (tracked : Tracked submissions)
    {id : Nat} {action : SubmitAction} (met : SameMessage submissions (id, action)) :
    Tracked (submitStep submissions (id, action)) := by
  rcases submissions.act_cases submit (id, action) with
    ⟨-, still⟩ | ⟨desk, next, reacts, moved⟩
  · rw [submitStep, still]
    exact tracked
  rw [submitStep, moved]
  dsimp only at reacts
  cases action with
  | lookup now submission =>
      cases before : submissions.process id with
      | idle =>
          rw [before] at reacts
          simp only [submit] at reacts
          split at reacts
          · rename_i duplicate
            cases reacts
            have stands := exists_standsFor tracked met duplicate
            exact ((tracked.clean now).answer (.inr stands)).move (by simp)
          · cases reacts
            exact (tracked.clean now).move (by simp)
      | _ =>
          rw [before] at reacts
          cases reacts
  | limit =>
      cases before : submissions.process id with
      | checked submission =>
          rw [before] at reacts
          cases reacts
          exact tracked.move (by simp)
      | _ =>
          rw [before] at reacts
          cases reacts
  | fail =>
      cases before : submissions.process id with
      | checked submission =>
          rw [before] at reacts
          cases reacts
          exact tracked.move (by simp)
      | _ =>
          rw [before] at reacts
          cases reacts
  | deliver =>
      cases before : submissions.process id with
      | checked submission =>
          rw [before] at reacts
          cases reacts
          apply (tracked.hand submission).move
          intro other same
          cases same
          exact List.mem_cons_self
      | _ =>
          rw [before] at reacts
          cases reacts
  | store now =>
      cases before : submissions.process id with
      | delivered submission =>
          rw [before] at reacts
          cases reacts
          have handed := tracked.delivered id submission before
          exact (((tracked.enter handed now).answer (.inl handed)).move (by simp))
      | _ =>
          rw [before] at reacts
          cases reacts
  | crash =>
      cases reacts
      exact tracked.move (by simp)

theorem Tracked.lossless {submissions : Submissions} (tracked : Tracked submissions) :
    Lossless submissions.shared where
  answered := tracked.answered
  remembered := by
    intro row member
    obtain ⟨entry, stored, key, -⟩ := tracked.rows row member
    exact ⟨entry.1, tracked.stored entry stored, key⟩

theorem tracked_run {labels : List (Nat × SubmitAction)}
    (along : Along submitStep SameMessage .start labels) :
    Tracked (labels.foldl submitStep .start) :=
  along.invariant (fun _ _ tracked met => tracked.step met) .start

/-- No mail is lost in a run in which submissions of one user under one Message-ID carry
one message. -/
theorem duplicates_lossless (labels : List (Nat × SubmitAction))
    (along : Along submitStep SameMessage .start labels) :
    Lossless (labels.foldl submitStep .start).shared :=
  (tracked_run along).lossless

def note (recipient : String) : Submission where
  user := 1
  fromAddress := some "me@a.org"
  toText := recipient
  rawEmail := utf8 "Message-ID: <1@a.org>\r\n\r\nHi"

def sentTwice (first second : Submission) : List (Nat × SubmitAction) :=
  [(0, .lookup 0 first), (0, .deliver), (0, .store 0), (1, .lookup 1 second)]

theorem sameMessage_of_step {submissions : Submissions} {id : Nat}
    {action : SubmitAction} (other : ∀ now submission, action ≠ .lookup now submission) :
    SameMessage submissions (id, action) :=
  fun now submission looks => absurd looks (other now submission)

theorem along_sentTwice :
    Along submitStep SameMessage .start
      (sentTwice (note "one@b.org") (note "one@b.org")) := by
  refine .cons ?_ (.cons (sameMessage_of_step (by simp))
    (.cons (sameMessage_of_step (by simp)) (.cons ?_ (.nil _ _ _))))
  · intro now submission _ entry member
    cases member
  · intro now submission looks entry member _ _ _
    cases looks
    have entries : ∀ entry ∈ ([(0, .lookup 0 (note "one@b.org")), (0, .deliver),
        (0, .store 0)].foldl submitStep .start).shared.stored,
        entry.1 = note "one@b.org" := by
      decide
    rw [entries entry member]
    exact ⟨rfl, fun _ => Iff.rfl⟩

theorem duplicates_lossless_twice :
    Lossless
      ((sentTwice (note "one@b.org") (note "one@b.org")).foldl submitStep .start).shared :=
  duplicates_lossless _ along_sentTwice

/-- The same message for somebody else is answered as sent and goes nowhere. -/
theorem not_duplicates_lossless_other :
    ¬ ∀ labels : List (Nat × SubmitAction),
      Lossless (labels.foldl submitStep .start).shared := by
  intro claim
  have lossless := claim (sentTwice (note "one@b.org") (note "two@b.org"))
  have answered : note "two@b.org" ∈
      ((sentTwice (note "one@b.org") (note "two@b.org")).foldl submitStep
        .start).shared.answered := by
    decide
  have handed : ((sentTwice (note "one@b.org") (note "two@b.org")).foldl submitStep
      .start).shared.handed = [note "one@b.org"] := by
    decide
  rcases lossless.answered _ answered with itself | ⟨earlier, member, stands⟩
  · rw [handed] at itself
    exact absurd itself (by decide)
  · rw [handed, List.mem_singleton] at member
    rw [member] at stands
    have gone := (stands.envelope "one@b.org").mp (by decide)
    exact absurd gone (by decide)

end Elektrine.SMTP
