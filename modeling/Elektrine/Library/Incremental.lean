import Mathlib.Data.List.Basic
import Mathlib.Data.List.Induction

/-!
# Incremental decoding

A decoder takes one item after the other from the head of a buffer, and a handler acts on
it.  A stream that comes in as chunks is handled as if it had come in at once, unless the
decoder raises on what some of the chunks leave in the buffer.
-/

namespace Elektrine.Library

universe u

variable {Symbol Item Reason State : Type u}

inductive Decoding (Symbol Item Reason : Type u) where
  | more
  | item (item : Item) (rest : List Symbol)
  | failed (reason : Reason)
  | raised

structure Decoder (Symbol Item Reason : Type u) where
  decode : List Symbol → Decoding Symbol Item Reason
  empty : decode [] = .more
  shortens : ∀ {buffer item rest}, decode buffer = .item item rest →
    rest.length < buffer.length
  item_append : ∀ {buffer item rest}, decode buffer = .item item rest → ∀ later,
    decode (buffer ++ later) = .item item (rest ++ later)
  failed_append : ∀ {buffer reason}, decode buffer = .failed reason → ∀ later,
    decode (buffer ++ later) = .failed reason

inductive Progress (State Symbol Reason : Type u) where
  | waiting (state : State) (buffer : List Symbol)
  | failed (state : State) (reason : Reason)
  | raised (state : State)

namespace Decoder

variable (decoder : Decoder Symbol Item Reason) (handle : State → Item → Except Reason State)

def run (state : State) (buffer : List Symbol) : Progress State Symbol Reason :=
  match _found : decoder.decode buffer with
  | .more => .waiting state buffer
  | .item item rest =>
      match handle state item with
      | .ok next => run next rest
      | .error reason => .failed state reason
  | .failed reason => .failed state reason
  | .raised => .raised state
termination_by buffer.length
decreasing_by exact decoder.shortens ‹_›

def feed (progress : Progress State Symbol Reason) (chunk : List Symbol) :
    Progress State Symbol Reason :=
  match progress with
  | .waiting state buffer => decoder.run handle state (buffer ++ chunk)
  | .failed state reason => .failed state reason
  | .raised state => .raised state

def feedAll (state : State) (chunks : List (List Symbol)) : Progress State Symbol Reason :=
  chunks.foldl (decoder.feed handle) (.waiting state [])

variable {decoder handle} {state : State} {buffer rest : List Symbol} {item : Item}
  {reason : Reason}

theorem run_eq :
    decoder.run handle state buffer =
      match decoder.decode buffer with
      | .more => .waiting state buffer
      | .item item rest =>
          match handle state item with
          | .ok next => decoder.run handle next rest
          | .error reason => .failed state reason
      | .failed reason => .failed state reason
      | .raised => .raised state := by
  rw [run]
  split
  all_goals
    rename_i found
    rw [found]

theorem run_of_more (found : decoder.decode buffer = .more) :
    decoder.run handle state buffer = .waiting state buffer := by
  rw [run_eq, found]

theorem run_of_item (found : decoder.decode buffer = .item item rest) :
    decoder.run handle state buffer =
      match handle state item with
      | .ok next => decoder.run handle next rest
      | .error reason => .failed state reason := by
  rw [run_eq, found]

theorem run_of_failed (found : decoder.decode buffer = .failed reason) :
    decoder.run handle state buffer = .failed state reason := by
  rw [run_eq, found]

theorem run_of_raised (found : decoder.decode buffer = .raised) :
    decoder.run handle state buffer = .raised state := by
  rw [run_eq, found]

theorem run_nil : decoder.run handle state [] = .waiting state [] :=
  run_of_more decoder.empty

theorem feed_run (calm : ∀ raised, decoder.run handle state buffer ≠ .raised raised)
    (chunk : List Symbol) :
    decoder.feed handle (decoder.run handle state buffer) chunk =
      decoder.run handle state (buffer ++ chunk) := by
  induction size : buffer.length using Nat.strongRecOn generalizing state buffer with
  | ind bound ih =>
      cases found : decoder.decode buffer with
      | more =>
          rw [run_of_more found]
          rfl
      | failed reason =>
          rw [run_of_failed found, run_of_failed (decoder.failed_append found chunk)]
          rfl
      | raised => exact absurd (run_of_raised found) (calm state)
      | item item rest =>
          have shorter := decoder.shortens found
          rw [run_of_item found] at calm ⊢
          rw [run_of_item (decoder.item_append found chunk)]
          cases handled : handle state item with
          | error reason => rfl
          | ok next =>
              rw [handled] at calm
              exact ih rest.length (by omega) calm rfl

theorem feedAll_append (front back : List (List Symbol)) :
    decoder.feedAll handle state (front ++ back) =
      back.foldl (decoder.feed handle) (decoder.feedAll handle state front) :=
  List.foldl_append

theorem feedAll_concat (front : List (List Symbol)) (chunk : List Symbol) :
    decoder.feedAll handle state (front ++ [chunk]) =
      decoder.feed handle (decoder.feedAll handle state front) chunk :=
  feedAll_append front [chunk]

theorem foldl_feed_raised (chunks : List (List Symbol)) :
    chunks.foldl (decoder.feed handle) (.raised state) = .raised state := by
  induction chunks with
  | nil => rfl
  | cons chunk chunks ih => exact ih

theorem feedAll_eq_or_raised (chunks : List (List Symbol)) :
    decoder.feedAll handle state chunks = decoder.run handle state chunks.flatten ∨
      ∃ raised, decoder.feedAll handle state chunks = .raised raised := by
  induction chunks using List.reverseRecOn with
  | nil => exact Or.inl run_nil.symm
  | append_singleton front chunk ih =>
      rw [feedAll_concat]
      rcases ih with same | ⟨raised, ended⟩
      · rw [same]
        by_cases calm : ∀ raised, decoder.run handle state front.flatten ≠ .raised raised
        · left
          rw [feed_run calm, List.flatten_append, List.flatten_singleton]
        · right
          rw [not_forall] at calm
          obtain ⟨raised, ended⟩ := calm
          exact ⟨raised, by rw [not_not.mp ended]; rfl⟩
      · right
        exact ⟨raised, by rw [ended]; rfl⟩

theorem feedAll_of_calm {chunks : List (List Symbol)}
    (calm : ∀ front back, chunks = front ++ back → ∀ raised,
      decoder.run handle state front.flatten ≠ .raised raised) :
    decoder.feedAll handle state chunks = decoder.run handle state chunks.flatten := by
  induction chunks using List.reverseRecOn with
  | nil => exact run_nil.symm
  | append_singleton front chunk ih =>
      have before := ih fun first back split => calm first (back ++ [chunk]) (by
        rw [split, List.append_assoc])
      rw [feedAll_concat, before, feed_run (calm front [chunk] rfl), List.flatten_append,
        List.flatten_singleton]

theorem feedAll_of_raised {front back : List (List Symbol)} {raised : State}
    (ended : decoder.run handle state front.flatten = .raised raised) :
    ∃ raised, decoder.feedAll handle state (front ++ back) = .raised raised := by
  rw [feedAll_append]
  have either : decoder.feedAll handle state front = decoder.run handle state front.flatten ∨
      ∃ raised, decoder.feedAll handle state front = .raised raised :=
    feedAll_eq_or_raised front
  rcases either with same | ⟨other, early⟩
  · rw [same, ended]
    exact ⟨raised, foldl_feed_raised back⟩
  · rw [early]
    exact ⟨other, foldl_feed_raised back⟩

end Decoder

end Elektrine.Library
