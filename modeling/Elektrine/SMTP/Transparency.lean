import Elektrine.SMTP.Stuffing

/-!
# Transparency of message data

The text that a client sends ends at a line with a lone dot, be it the first line.  The
receive loop gives this text back, and leaves what follows it to be read, exactly when
the terminator ends a chunk that the loop comes to read, and no line disturbs the
unstuffing.
-/

namespace Elektrine.SMTP

open Elektrine.Library

def dataEnd (stream : Bytes) : Option (Bytes × Bytes) :=
  if [46, 13, 10].isPrefixOf stream then some ([], stream.drop 3)
  else stream.dropInfix? terminator

/-- What a receiver owes: the unstuffed text, or a refusal of a text that is too large,
with exactly what follows the data left to be read; without a lone dot nothing is left. -/
def Transparent (maxDataSize : Nat) (receipts : List Receipt)
    (outcome : Except DataError Bytes × List Receipt) : Prop :=
  match dataEnd (sentBytes receipts) with
  | some (text, after) =>
      (outcome.1 = .ok (destuff .lineStart text) ∨
          outcome.1 = .error .messageTooLarge ∧ maxDataSize < text.length) ∧
        sentBytes outcome.2 = after
  | none => (∃ error, outcome.1 = .error error) ∧ sentBytes outcome.2 = []

/-- The chunks of the results of `recv`. -/
def chunks (parts : List (UInt8 × Bytes)) : List Receipt :=
  parts.map fun part => .chunk part.1 part.2

/-- The first results are chunks with these bytes, and the loop reads the last of them:
those before it do not exceed the limit. -/
def ReadsChunks (maxDataSize : Nat) (receipts : List Receipt)
    (parts : List (UInt8 × Bytes)) (left : List Receipt) : Prop :=
  receipts = chunks parts ++ left ∧
    (sentBytes (chunks parts.dropLast)).length ≤ maxDataSize

/-- The text is ended by a chunk that the loop reads, its first line does not begin with
a dot and no other line with a single dot; without a lone dot, the loop reads all. -/
def Framed (maxDataSize : Nat) (receipts : List Receipt) : Prop :=
  match dataEnd (sentBytes receipts) with
  | some (text, _) =>
      (∃ parts left, ReadsChunks maxDataSize receipts parts left ∧
          sentBytes (chunks parts) = text ++ terminator) ∧
        text.head? ≠ some 46 ∧ DotsDoubled text
  | none =>
      ∃ parts left, ReadsChunks maxDataSize receipts parts left ∧ sentBytes left = []

@[simp] theorem sentBytes_nil : sentBytes [] = [] := rfl

@[simp] theorem sentBytes_cons (receipt : Receipt) (receipts : List Receipt) :
    sentBytes (receipt :: receipts) = receipt.bytes ++ sentBytes receipts :=
  List.flatMap_cons

@[simp] theorem sentBytes_append (front back : List Receipt) :
    sentBytes (front ++ back) = sentBytes front ++ sentBytes back :=
  List.flatMap_append

@[simp] theorem chunks_nil : chunks [] = [] := rfl

@[simp] theorem chunks_cons (part : UInt8 × Bytes) (parts : List (UInt8 × Bytes)) :
    chunks (part :: parts) = .chunk part.1 part.2 :: chunks parts := rfl

@[simp] theorem chunks_append (front back : List (UInt8 × Bytes)) :
    chunks (front ++ back) = chunks front ++ chunks back :=
  List.map_append

structure Collected (maxDataSize : Nat) (receipts : List Receipt)
    (parts : List (UInt8 × Bytes)) (left : List Receipt) : Prop where
  split : receipts = chunks parts ++ left
  pending : (sentBytes (chunks parts)).dropInfix? terminator = none
  read : parts ≠ [] → (sentBytes (chunks parts.dropLast)).length ≤ maxDataSize

inductive Exit (maxDataSize : Nat) (receipts : List Receipt) :
    Except DataError Bytes × List Receipt → Prop where
  | found {parts : List (UInt8 × Bytes)} {first : UInt8} {rest text after : Bytes}
      {left : List Receipt}
      (collected : Collected maxDataSize receipts parts (.chunk first rest :: left))
      (small : (sentBytes (chunks parts)).length ≤ maxDataSize)
      (ends : (sentBytes (chunks parts) ++ first :: rest).dropInfix? terminator =
        some (text, after)) :
      Exit maxDataSize receipts (.ok (cleanData text), left)
  | tooLarge {parts : List (UInt8 × Bytes)} {left : List Receipt}
      (collected : Collected maxDataSize receipts parts left)
      (large : maxDataSize < (sentBytes (chunks parts)).length) :
      Exit maxDataSize receipts (.error .messageTooLarge, left)
  | stopped {parts : List (UInt8 × Bytes)} {left : List Receipt} {error : DataError}
      (collected : Collected maxDataSize receipts parts left)
      (small : (sentBytes (chunks parts)).length ≤ maxDataSize)
      (failed : error ≠ .messageTooLarge)
      (stops : ∀ first rest more, left ≠ .chunk first rest :: more) :
      Exit maxDataSize receipts (.error error, left.tail)

theorem Collected.extend {maxDataSize : Nat} {receipts left : List Receipt}
    {parts : List (UInt8 × Bytes)} {first : UInt8} {rest : Bytes}
    (collected : Collected maxDataSize receipts parts (.chunk first rest :: left))
    (small : (sentBytes (chunks parts)).length ≤ maxDataSize)
    (pending : (sentBytes (chunks parts) ++ first :: rest).dropInfix? terminator = none) :
    Collected maxDataSize receipts (parts ++ [(first, rest)]) left where
  split := by
    rw [collected.split]
    simp
  pending := by
    simpa [Receipt.bytes] using pending
  read := by
    intro _
    simpa using small

theorem exit_collectDataBinary {maxDataSize : Nat} {receipts left : List Receipt}
    {parts : List (UInt8 × Bytes)}
    (collected : Collected maxDataSize receipts parts left) :
    Exit maxDataSize receipts
      (collectDataBinary maxDataSize (sentBytes (chunks parts))
        (sentBytes (chunks parts)).length left) := by
  induction left generalizing parts with
  | nil =>
      rw [collectDataBinary]
      by_cases large : (sentBytes (chunks parts)).length > maxDataSize
      · rw [if_pos large]
        exact .tooLarge collected large
      · rw [if_neg large]
        exact .stopped collected (Nat.le_of_not_lt large) (by simp) (by simp)
  | cons receipt left ih =>
      by_cases large : (sentBytes (chunks parts)).length > maxDataSize
      · have refused : collectDataBinary maxDataSize (sentBytes (chunks parts))
            (sentBytes (chunks parts)).length (receipt :: left) =
              (.error .messageTooLarge, receipt :: left) := by
          cases receipt <;> exact if_pos large
        rw [refused]
        exact .tooLarge collected large
      · have small := Nat.le_of_not_lt large
        cases receipt with
        | timeout =>
            rw [collectDataBinary, if_neg large]
            exact .stopped collected small (by simp) (by simp)
        | chunk first rest =>
            rw [collectDataBinary, if_neg large]
            cases search :
              (sentBytes (chunks parts) ++ first :: rest).dropInfix? terminator with
            | some cut => exact .found collected small search
            | none =>
                have more := ih (collected.extend small search)
                have bytes : sentBytes (chunks (parts ++ [(first, rest)])) =
                    sentBytes (chunks parts) ++ first :: rest := by
                  simp [Receipt.bytes]
                rw [bytes, List.length_append] at more
                exact more

theorem exit_collectData (maxDataSize : Nat) (receipts : List Receipt) :
    Exit maxDataSize receipts (collectData maxDataSize receipts) := by
  have collected : Collected maxDataSize receipts [] receipts := by
    refine ⟨rfl, ?_, fun none => absurd rfl none⟩
    rw [dropInfix?_eq_none_iff]
    simp [terminator]
  exact exit_collectDataBinary collected

theorem chunks_cases {parts parts' : List (UInt8 × Bytes)} {left left' : List Receipt}
    (same : chunks parts ++ left = chunks parts' ++ left') :
    (∃ more, parts' = parts ++ more ∧ left = chunks more ++ left') ∨
      (∃ more, more ≠ [] ∧ parts = parts' ++ more ∧ left' = chunks more ++ left) := by
  induction parts generalizing parts' with
  | nil =>
      left
      exact ⟨parts', rfl, same⟩
  | cons part parts ih =>
      cases parts' with
      | nil =>
          right
          exact ⟨part :: parts, by simp, rfl, same.symm⟩
      | cons part' parts' =>
          simp only [chunks_cons, List.cons_append, List.cons.injEq,
            Receipt.chunk.injEq] at same
          obtain ⟨⟨first, rest⟩, tail⟩ := same
          have head : part = part' := Prod.ext first rest
          subst head
          rcases ih tail with ⟨more, whole, behind⟩ | ⟨more, some_more, whole, behind⟩
          · left
            exact ⟨more, by rw [whole]; rfl, behind⟩
          · right
            exact ⟨more, some_more, by rw [whole]; rfl, behind⟩

theorem dataEnd_cases {stream text after : Bytes}
    (ended : dataEnd stream = some (text, after)) :
    (text = [] ∧ stream = [46, 13, 10] ++ after) ∨
      (¬ [46, 13, 10] <+: stream ∧
        stream.dropInfix? terminator = some (text, after)) := by
  rw [dataEnd] at ended
  by_cases lone : [46, 13, 10].isPrefixOf stream
  · rw [if_pos lone] at ended
    cases ended
    left
    refine ⟨rfl, ?_⟩
    obtain ⟨after, split⟩ := List.isPrefixOf_iff_prefix.mp lone
    rw [← split]
    rfl
  · rw [if_neg lone] at ended
    right
    rw [← List.isPrefixOf_iff_prefix]
    exact ⟨lone, ended⟩

section

variable {maxDataSize : Nat} {receipts left : List Receipt}
  {parts : List (UInt8 × Bytes)}

theorem Collected.sent (collected : Collected maxDataSize receipts parts left) :
    sentBytes receipts = sentBytes (chunks parts) ++ sentBytes left := by
  rw [collected.split, sentBytes_append]

theorem Collected.beyond (collected : Collected maxDataSize receipts parts left)
    {parts' : List (UInt8 × Bytes)} {left' : List Receipt}
    (reads : ReadsChunks maxDataSize receipts parts' left')
    (ends : terminator <:+: sentBytes (chunks parts')) :
    ∃ part more, parts' = parts ++ part :: more ∧
      left = .chunk part.1 part.2 :: (chunks more ++ left') := by
  have missing := dropInfix?_eq_none_iff.mp collected.pending
  rcases chunks_cases (collected.split.symm.trans reads.1) with
    ⟨more, whole, behind⟩ | ⟨more, -, whole, -⟩
  · cases more with
    | nil =>
        rw [List.append_nil] at whole
        rw [whole] at ends
        exact absurd ends missing
    | cons part more => exact ⟨part, more, whole, behind⟩
  · apply absurd _ missing
    rw [whole, chunks_append, sentBytes_append]
    exact ends.trans (List.prefix_append ..).isInfix

theorem ReadsChunks.isPrefix (reads : ReadsChunks maxDataSize receipts parts left) :
    sentBytes (chunks parts) <+: sentBytes receipts := by
  rw [reads.1, sentBytes_append]
  exact List.prefix_append ..

theorem not_terminator_prefix {stream : Bytes} (lone : [46, 13, 10] <+: stream) :
    ¬ terminator <+: stream := by
  intro ends
  rcases List.prefix_or_prefix_of_prefix lone ends with first | first
  · simp [terminator, List.cons_prefix_cons] at first
  · simp [terminator, List.cons_prefix_cons] at first

theorem dataEnd_of_lone {stream : Bytes} (lone : [46, 13, 10] <+: stream) :
    dataEnd stream = some ([], stream.drop 3) := by
  rw [dataEnd, if_pos (List.isPrefixOf_iff_prefix.mpr lone)]

theorem dataEnd_of_not_lone {stream : Bytes} (ordinary : ¬ [46, 13, 10] <+: stream) :
    dataEnd stream = stream.dropInfix? terminator := by
  rw [dataEnd, if_neg]
  rwa [List.isPrefixOf_iff_prefix]

theorem transparent_of_dataEnd {text after : Bytes}
    {outcome : Except DataError Bytes × List Receipt}
    (ended : dataEnd (sentBytes receipts) = some (text, after)) :
    Transparent maxDataSize receipts outcome ↔
      (outcome.1 = .ok (destuff .lineStart text) ∨
          outcome.1 = .error .messageTooLarge ∧ maxDataSize < text.length) ∧
        sentBytes outcome.2 = after := by
  rw [Transparent, ended]

theorem transparent_of_dataEnd_none {outcome : Except DataError Bytes × List Receipt}
    (open_end : dataEnd (sentBytes receipts) = none) :
    Transparent maxDataSize receipts outcome ↔
      (∃ error, outcome.1 = .error error) ∧ sentBytes outcome.2 = [] := by
  rw [Transparent, open_end]

theorem framed_of_dataEnd {text after : Bytes}
    (ended : dataEnd (sentBytes receipts) = some (text, after)) :
    Framed maxDataSize receipts ↔
      (∃ parts left, ReadsChunks maxDataSize receipts parts left ∧
          sentBytes (chunks parts) = text ++ terminator) ∧
        text.head? ≠ some 46 ∧ DotsDoubled text := by
  rw [Framed, ended]

theorem framed_of_dataEnd_none (open_end : dataEnd (sentBytes receipts) = none) :
    Framed maxDataSize receipts ↔
      ∃ parts left, ReadsChunks maxDataSize receipts parts left ∧
        sentBytes left = [] := by
  rw [Framed, open_end]

theorem not_framed_of_lone (lone : [46, 13, 10] <+: sentBytes receipts) :
    ¬ Framed maxDataSize receipts := by
  rw [framed_of_dataEnd (dataEnd_of_lone lone)]
  intro framed
  obtain ⟨⟨parts, left, reads, bytes⟩, -⟩ := framed
  have begins := reads.isPrefix
  rw [bytes] at begins
  exact not_terminator_prefix lone begins

theorem transparent_found {first : UInt8} {rest text after : Bytes}
    (collected : Collected maxDataSize receipts parts (.chunk first rest :: left))
    (small : (sentBytes (chunks parts)).length ≤ maxDataSize)
    (ends : (sentBytes (chunks parts) ++ first :: rest).dropInfix? terminator =
      some (text, after)) :
    Transparent maxDataSize receipts (.ok (cleanData text), left) ↔
      Framed maxDataSize receipts := by
  have sent : sentBytes receipts =
      sentBytes (chunks parts) ++ first :: rest ++ sentBytes left := by
    rw [collected.sent]
    simp [Receipt.bytes]
  obtain ⟨split, -⟩ := dropInfix?_eq_some_iff.mp ends
  by_cases lone : [46, 13, 10] <+: sentBytes receipts
  · apply iff_of_false _ (not_framed_of_lone lone)
    rw [transparent_of_dataEnd (dataEnd_of_lone lone)]
    intro owed
    have lengths := congrArg List.length owed.2
    rw [sent, split] at lengths
    simp only [List.length_drop, List.length_append, terminator, List.length_cons,
      List.length_nil] at lengths
    omega
  · have ended : dataEnd (sentBytes receipts) =
        some (text, after ++ sentBytes left) := by
      rw [dataEnd_of_not_lone lone, sent]
      exact dropInfix?_append ends
    have whole : (∃ parts left, ReadsChunks maxDataSize receipts parts left ∧
        sentBytes (chunks parts) = text ++ terminator) ↔ after = [] := by
      constructor
      · intro framed
        obtain ⟨parts', left', reads, bytes⟩ := framed
        have inside : terminator <:+: sentBytes (chunks parts') := by
          rw [bytes]
          exact (List.suffix_append ..).isInfix
        obtain ⟨part, more, longer, behind⟩ := collected.beyond reads inside
        obtain ⟨head, -⟩ := List.cons.inj behind
        obtain ⟨one, others⟩ := Receipt.chunk.inj head
        have lengths := congrArg List.length bytes
        have found := congrArg List.length split
        rw [longer, one, others] at *
        simp only [chunks_append, chunks_cons, sentBytes_append, sentBytes_cons,
          Receipt.bytes, List.length_append] at lengths found
        apply List.eq_nil_of_length_eq_zero
        omega
      · intro nothing
        refine ⟨parts ++ [(first, rest)], left, ⟨?_, ?_⟩, ?_⟩
        · rw [collected.split]
          simp
        · simpa using small
        · simp only [chunks_append, chunks_cons, chunks_nil, sentBytes_append,
            sentBytes_cons, sentBytes_nil, Receipt.bytes, List.append_nil]
          rw [split, nothing, List.append_nil]
    rw [transparent_of_dataEnd ended, framed_of_dataEnd ended, whole,
      ← cleanData_eq_destuff_iff]
    simp only [Except.ok.injEq, reduceCtorEq, false_and, or_false, List.self_eq_append_left]
    exact and_comm

theorem transparent_tooLarge
    (collected : Collected maxDataSize receipts parts left)
    (large : maxDataSize < (sentBytes (chunks parts)).length) :
    Transparent maxDataSize receipts (.error .messageTooLarge, left) ↔
      Framed maxDataSize receipts := by
  cases ended : dataEnd (sentBytes receipts) with
  | none =>
      rw [transparent_of_dataEnd_none ended, framed_of_dataEnd_none ended]
      constructor
      · intro owed
        have kept : parts ≠ [] := by
          intro none
          rw [none] at large
          simp at large
        exact ⟨parts, left, ⟨collected.split, collected.read kept⟩, owed.2⟩
      · intro framed
        obtain ⟨parts', left', reads, nothing⟩ := framed
        refine ⟨⟨_, rfl⟩, ?_⟩
        rcases chunks_cases (collected.split.symm.trans reads.1) with
          ⟨more, whole, behind⟩ | ⟨more, -, -, behind⟩
        · cases more with
          | nil =>
              rw [behind]
              simpa using nothing
          | cons part more =>
              -- a chunk beyond the refusal is one the loop has not read
              have limit := reads.2
              rw [whole, List.dropLast_append_of_ne_nil (by simp), chunks_append,
                sentBytes_append, List.length_append] at limit
              omega
        · rw [behind, sentBytes_append] at nothing
          exact (List.append_eq_nil_iff.mp nothing).2
  | some cut =>
      obtain ⟨text, after⟩ := cut
      have unframed : ¬ Framed maxDataSize receipts := by
        rw [framed_of_dataEnd ended]
        intro framed
        obtain ⟨⟨parts', left', reads, bytes⟩, -⟩ := framed
        have inside : terminator <:+: sentBytes (chunks parts') := by
          rw [bytes]
          exact (List.suffix_append ..).isInfix
        obtain ⟨part, more, whole, -⟩ := collected.beyond reads inside
        have limit := reads.2
        rw [whole, List.dropLast_append_of_ne_nil (by simp), chunks_append,
          sentBytes_append, List.length_append] at limit
        omega
      apply iff_of_false _ unframed
      rw [transparent_of_dataEnd ended]
      intro owed
      obtain ⟨refusal | ⟨-, long⟩, unread⟩ := owed
      · cases refusal
      · have sent := collected.sent
        rcases dataEnd_cases ended with ⟨empty, -⟩ | ⟨-, found⟩
        · rw [empty] at long
          simp at long
        · obtain ⟨split, -⟩ := dropInfix?_eq_some_iff.mp found
          rw [sent, unread] at split
          have kept : sentBytes (chunks parts) = text ++ terminator :=
            List.append_cancel_right split
          apply dropInfix?_eq_none_iff.mp collected.pending
          rw [kept]
          exact (List.suffix_append ..).isInfix

theorem transparent_stopped {error : DataError}
    (collected : Collected maxDataSize receipts parts left)
    (small : (sentBytes (chunks parts)).length ≤ maxDataSize)
    (failed : error ≠ .messageTooLarge)
    (stops : ∀ first rest more, left ≠ .chunk first rest :: more) :
    Transparent maxDataSize receipts (.error error, left.tail) ↔
      Framed maxDataSize receipts := by
  have behind : sentBytes left.tail = sentBytes left := by
    cases left with
    | nil => rfl
    | cons receipt left =>
        cases receipt with
        | timeout => rfl
        | chunk first rest => exact absurd rfl (stops first rest left)
  cases ended : dataEnd (sentBytes receipts) with
  | none =>
      rw [transparent_of_dataEnd_none ended, framed_of_dataEnd_none ended]
      constructor
      · intro owed
        refine ⟨parts, left, ⟨collected.split, ?_⟩, ?_⟩
        · have shorter : (sentBytes (chunks parts.dropLast)).length ≤
              (sentBytes (chunks parts)).length := by
            obtain ⟨last, whole⟩ := List.dropLast_prefix parts
            have lengths := congrArg (fun kept => (sentBytes (chunks kept)).length) whole
            simp only [chunks_append, sentBytes_append, List.length_append] at lengths
            omega
          omega
        · rw [← behind]
          exact owed.2
      · intro framed
        obtain ⟨parts', left', reads, nothing⟩ := framed
        refine ⟨⟨_, rfl⟩, ?_⟩
        rw [behind]
        rcases chunks_cases (collected.split.symm.trans reads.1) with
          ⟨more, whole, rest⟩ | ⟨more, -, -, rest⟩
        · cases more with
          | nil =>
              rw [rest]
              simpa using nothing
          | cons part more => exact absurd rest (stops _ _ _)
        · rw [rest, sentBytes_append] at nothing
          exact (List.append_eq_nil_iff.mp nothing).2
  | some cut =>
      obtain ⟨text, after⟩ := cut
      rw [transparent_of_dataEnd ended, framed_of_dataEnd ended]
      apply iff_of_false
      · intro owed
        rcases owed.1 with accepted | ⟨refused, -⟩
        · cases accepted
        · exact failed (Except.error.inj refused)
      · intro framed
        obtain ⟨⟨parts', left', reads, bytes⟩, -⟩ := framed
        have inside : terminator <:+: sentBytes (chunks parts') := by
          rw [bytes]
          exact (List.suffix_append ..).isInfix
        obtain ⟨part, more, -, rest⟩ := collected.beyond reads inside
        exact stops _ _ _ rest

end

/-- The data is taken as it was meant exactly when it is framed by the chunks. -/
theorem transparent_iff (maxDataSize : Nat) (receipts : List Receipt) :
    Transparent maxDataSize receipts (collectData maxDataSize receipts) ↔
      Framed maxDataSize receipts := by
  have leaves := exit_collectData maxDataSize receipts
  generalize collectData maxDataSize receipts = outcome at leaves ⊢
  cases leaves with
  | found collected small ends => exact transparent_found collected small ends
  | tooLarge collected large => exact transparent_tooLarge collected large
  | stopped collected small failed stops =>
      exact transparent_stopped collected small failed stops

/-- A command behind the terminator in the same chunk is lost. -/
theorem not_transparent_pipelined :
    ¬ Transparent smtpMaxDataSize [.chunk 72 [105, 13, 10, 46, 13, 10, 81]]
      (collectData smtpMaxDataSize [.chunk 72 [105, 13, 10, 46, 13, 10, 81]]) := by
  have ended : dataEnd (sentBytes [.chunk 72 [105, 13, 10, 46, 13, 10, 81]]) =
      some ([72, 105], [81]) := by
    decide
  rw [transparent_of_dataEnd ended]
  intro owed
  have unread : sentBytes
      (collectData smtpMaxDataSize [.chunk 72 [105, 13, 10, 46, 13, 10, 81]]).2 = [] := by
    decide
  rw [unread] at owed
  cases owed.2

end Elektrine.SMTP
