/-! A reader of a byte stream that consists of frames.
The reader consumes a frame as soon as its input has the whole frame, and waits for more as
long as it has only a part of one. Then the reads that the stream arrives in make no
difference.
-/

namespace NdcOdfWeb.Foundation

/-- A reader whose state `σ` holds the input that is not consumed yet. It accepts a frame in
some states, and goes on with `apply`.
-/
structure FrameReader (σ F α : Type) where
  withInput : σ → List α → σ
  input : σ → List α
  run : σ → Option σ
  bytes : F → List α
  accepts : σ → F → Prop
  apply : σ → F → σ
  input_withInput : ∀ state bytes, input (withInput state bytes) = bytes
  withInput_withInput
    : ∀ state old new, withInput (withInput state old) new = withInput state new
  bytes_ne_nil : ∀ frame, bytes frame ≠ []
  rests : ∀ state, run (withInput state []) = some (withInput state [])
  waits
    : ∀ state frame part missing,
        accepts state frame
        → missing ≠ []
        → part ++ missing = bytes frame
        → run (withInput state part) = some (withInput state part)
  reads
    : ∀ state frame rest,
        accepts state frame
        → run (withInput state (bytes frame ++ rest)) = run (withInput (apply state frame) rest)

namespace FrameReader

variable {σ F α : Type} (reader : FrameReader σ F α)

/-- A read adds to the input. -/
def feed (state : σ) (read : List α) : Option σ :=
  reader.run (reader.withInput state (reader.input state ++ read))

/-- Every frame is accepted where its turn comes. -/
def AcceptsAll : σ → List F → Prop
  | _, [] => True
  | state, frame :: frames =>
      reader.accepts state frame ∧ AcceptsAll (reader.apply state frame) frames

variable {reader}

/-- By induction on the first frames. -/
theorem AcceptsAll.append {state : σ} {frames more : List F}
    : reader.AcceptsAll state (frames ++ more)
      ↔ reader.AcceptsAll state frames
        ∧ reader.AcceptsAll (frames.foldl reader.apply state) more := by
  induction frames generalizing state with
  | nil => exact ⟨fun accepted => ⟨trivial, accepted⟩, fun accepted => accepted.2⟩
  | cons frame frames ih =>
      simp only [List.cons_append, AcceptsAll, List.foldl_cons, ih, and_assoc]

/-- Two ways to split a list in two: one of the front parts is part of the other. -/
theorem append_eq_cases {front rest part later : List α} (same : part ++ later = front ++ rest)
    : (∃ more, part = front ++ more ∧ more ++ later = rest)
      ∨ ∃ missing, missing ≠ [] ∧ part ++ missing = front := by
  rcases List.append_eq_append_iff.mp same with ⟨missing, rfl, rfl⟩ | ⟨more, rfl, rfl⟩
  · cases missing with
    | nil => exact .inl ⟨[], by simp, rfl⟩
    | cons a missing => exact .inr ⟨a :: missing, List.cons_ne_nil _ _, rfl⟩
  · exact .inl ⟨more, rfl, rfl⟩

/-- What is there of a stream is consumed up to the last whole frame. -/
theorem run_part {state : σ} {frames : List F} {part later : List α}
    (accepted : reader.AcceptsAll state frames)
    (stream : part ++ later = frames.flatMap reader.bytes)
    : ∃ done rest left,
        frames = done ++ rest
        ∧ reader.run (reader.withInput state part)
          = some (reader.withInput (done.foldl reader.apply state) left)
        ∧ left ++ later = rest.flatMap reader.bytes
        ∧ (later = [] → rest = []) := by
  induction frames generalizing state part with
  | nil =>
      obtain ⟨rfl, rfl⟩ := List.append_eq_nil_iff.mp stream
      exact ⟨[], [], [], rfl, reader.rests state, rfl, fun _ => rfl⟩
  | cons frame frames ih =>
      obtain ⟨here, behind⟩ := accepted
      rw [List.flatMap_cons] at stream
      rcases append_eq_cases stream with ⟨more, rfl, left⟩ | ⟨missing, some', whole⟩
      · obtain ⟨done, rest, left, split, ran, remaining, last⟩ := ih behind left
        refine ⟨frame :: done, rest, left, by rw [split, List.cons_append], ?_, remaining, last⟩
        rw [reader.reads state frame more here, ran, List.foldl_cons]
      · refine ⟨[], frame :: frames, part, rfl, ?_, stream, ?_⟩
        · exact reader.waits state frame part missing here some' whole
        · rintro rfl
          rw [List.append_nil, ← whole, List.append_assoc] at stream
          have nil := List.self_eq_append_right.mp stream
          exact absurd (List.append_eq_nil_iff.mp nil).1 some'

/-- By induction on the reads: each one completes some of the frames. -/
theorem feed_all {state : σ} {frames : List F} {left : List α} {reads : List (List α)}
    (accepted : reader.AcceptsAll state frames)
    (stream : left ++ reads.flatten = frames.flatMap reader.bytes)
    (whole : reads = [] → frames = [])
    : reads.foldlM reader.feed (reader.withInput state left)
      = some (reader.withInput (frames.foldl reader.apply state) []) := by
  induction reads generalizing state frames left with
  | nil =>
      obtain rfl := whole rfl
      rw [List.flatten_nil, List.append_nil] at stream
      rw [stream]
      rfl
  | cons read reads ih =>
      rw [List.flatten_cons, ← List.append_assoc] at stream
      obtain ⟨done, rest, next, rfl, ran, remaining, last⟩ := run_part accepted stream
      have later := (AcceptsAll.append.mp accepted).2
      rw [List.foldlM_cons, feed, reader.input_withInput, reader.withInput_withInput, ran,
        List.foldl_append]
      refine ih later remaining ?_
      rintro rfl
      exact last rfl

/-- A stream leads to the same state, whatever reads it arrives in. -/
theorem feed_stream {state : σ} {frames : List F} {reads : List (List α)}
    (accepted : reader.AcceptsAll state frames)
    (stream : reads.flatten = frames.flatMap reader.bytes)
    : reads.foldlM reader.feed (reader.withInput state [])
      = some (reader.withInput (frames.foldl reader.apply state) []) := by
  refine feed_all accepted (by rwa [List.nil_append]) ?_
  rintro rfl
  cases frames with
  | nil => rfl
  | cons frame frames =>
      rw [List.flatten_nil, List.flatMap_cons] at stream
      exact absurd (List.append_eq_nil_iff.mp stream.symm).1 (reader.bytes_ne_nil frame)

end FrameReader

end NdcOdfWeb.Foundation
