import Mathlib.Data.List.Basic
import Mathlib.Tactic.Common

/-!
# Receiving frames from a stream cut into chunks

A receiver looks at the unread items of a buffer and returns how many of them it
takes; it takes none when its next frame is not complete.  A receive loop calls
it until nothing is taken, after each chunk that arrives.

If a receiver takes exactly one frame when the buffer starts with one, and
nothing from a proper prefix of a frame, then the frames it takes do not depend
on how the stream was cut.

* `Decodes.drain`: what one receive loop takes from a prefix of the stream.
* `Decodes.receive`: the same after any number of chunks.
* `Decodes.receive_all`: when the whole stream has arrived, every frame was taken
  once, in order, and the buffer is empty.
-/

namespace SakuraNetwork
namespace Lib

universe u v w x

/-- A receiver with state `σ` over items `α`: how many of the unread items it
takes, and its next state. -/
abbrev Receiver (σ : Type u) (α : Type v) := σ → List α → Nat × σ

/-- The frames taken, the state and the rest of the buffer. -/
structure Received (σ : Type u) (α : Type v) where
  taken : List (List α)
  state : σ
  buffer : List α

namespace Receiver

variable {σ : Type u} {α : Type v}

/-- Call the receiver until it takes nothing. -/
def drain (r : Receiver σ α) (s : σ) (buffer : List α) : Received σ α :=
  let n := (r s buffer).1
  if 0 < n ∧ n ≤ buffer.length then
    let later := drain r (r s buffer).2 (buffer.drop n)
    { later with taken := buffer.take n :: later.taken }
  else { taken := [], state := (r s buffer).2, buffer := buffer }
termination_by buffer.length
decreasing_by
  rw [List.length_drop]
  omega

/-- Append each chunk to the buffer and drain it. -/
def receive (r : Receiver σ α) (s : σ) (buffer : List α) : List (List α) → Received σ α
  | [] => { taken := [], state := s, buffer := buffer }
  | chunk :: chunks =>
      let now := r.drain s (buffer ++ chunk)
      let later := r.receive now.state now.buffer chunks
      { later with taken := now.taken ++ later.taken }

end Receiver

section Decoding

variable {σ : Type u} {α : Type v} {ι : Type w} {τ : Type x}

/-- A receiver takes the frames of `frame`.  The observed part `view` of its
state changes by `next` with a frame, and not at all with an incomplete one. -/
structure Decodes
    (r : Receiver σ α)
    (view : σ → τ)
    (frame : ι → List α)
    (next : τ → ι → τ) : Prop where
  nonempty : ∀ i, frame i ≠ []
  complete : ∀ s i rest,
    (r s (frame i ++ rest)).1 = (frame i).length ∧
    view (r s (frame i ++ rest)).2 = next (view s) i
  incomplete : ∀ s i rest part, part ++ rest = frame i → rest ≠ [] →
    (r s part).1 = 0 ∧ view (r s part).2 = view s
  empty : ∀ s, (r s []).1 = 0 ∧ view (r s []).2 = view s

/-- The buffer is a proper beginning of the next frame, if there is one. -/
def Incomplete (frame : ι → List α) (todo : List ι) (buffer : List α) : Prop :=
  match todo with
  | [] => buffer = []
  | i :: _ => ∃ rest, rest ≠ [] ∧ buffer ++ rest = frame i

variable {r : Receiver σ α} {view : σ → τ} {frame : ι → List α} {next : τ → ι → τ}

/-- A loop over a beginning of the stream takes the complete frames. -/
theorem Decodes.drain
    (h : Decodes r view frame next)
    (stream : List ι)
    (s : σ)
    (buffer rest : List α)
    (hstream : buffer ++ rest = (stream.map frame).flatten) :
    ∃ done todo,
      stream = done ++ todo ∧
      (r.drain s buffer).taken = done.map frame ∧
      view (r.drain s buffer).state = done.foldl next (view s) ∧
      (r.drain s buffer).buffer ++ rest = (todo.map frame).flatten ∧
      Incomplete frame todo (r.drain s buffer).buffer := by
  induction stream generalizing s buffer with
  | nil =>
      have hnil : buffer = [] := by
        have hempty : buffer ++ rest = [] := hstream
        exact (List.append_eq_nil_iff.mp hempty).1
      subst hnil
      have hstop := h.empty s
      refine ⟨[], [], rfl, ?_, ?_, ?_, ?_⟩
      · rw [Receiver.drain]
        simp [hstop.1]
      · rw [Receiver.drain]
        simp [hstop.1, hstop.2]
      · rw [Receiver.drain]
        simpa [hstop.1] using hstream
      · rw [Receiver.drain]
        simp [hstop.1, Incomplete]
  | cons i stream ih =>
      rw [List.map_cons, List.flatten_cons] at hstream
      rcases List.append_eq_append_iff.mp hstream with
        ⟨missing, hframe, hrest⟩ | ⟨more, hbuffer, hmore⟩
      · by_cases hmissing : missing = []
        · -- the buffer is exactly the frame
          subst hmissing
          rw [List.append_nil] at hframe
          have hcomplete := h.complete s i []
          rw [List.append_nil, hframe] at hcomplete
          have hpos : 0 < buffer.length := by
            rw [← hframe]
            exact List.length_pos_iff.mpr (h.nonempty i)
          obtain ⟨done, todo, hsplit, htaken, hview, hleft, hinc⟩ :=
            ih (r s buffer).2 [] (by simpa using hrest)
          have hdrain : r.drain s buffer =
              { r.drain (r s buffer).2 [] with
                taken := buffer :: (r.drain (r s buffer).2 []).taken } := by
            rw [Receiver.drain]
            simp [hcomplete.1, hpos]
          rw [hdrain]
          refine ⟨i :: done, todo, by rw [hsplit]; rfl, ?_, ?_, hleft, hinc⟩
          · simp [htaken, hframe]
          · simp [hview, hcomplete.2]
        · -- the buffer is a proper beginning of the frame
          have hstop := h.incomplete s i missing buffer hframe.symm hmissing
          have hdrain : r.drain s buffer =
              { taken := [], state := (r s buffer).2, buffer := buffer } := by
            rw [Receiver.drain]
            simp [hstop.1]
          rw [hdrain]
          refine ⟨[], i :: stream, rfl, rfl, hstop.2, ?_, missing, hmissing, hframe.symm⟩
          rw [List.map_cons, List.flatten_cons, hstream]
      · -- the frame is complete
        have hcomplete := h.complete s i more
        rw [← hbuffer] at hcomplete
        have hpos : 0 < (frame i).length := List.length_pos_iff.mpr (h.nonempty i)
        have hle : (frame i).length ≤ buffer.length := by
          rw [hbuffer, List.length_append]
          omega
        obtain ⟨done, todo, hsplit, htaken, hview, hleft, hinc⟩ :=
          ih (r s buffer).2 more hmore.symm
        have hdrain : r.drain s buffer =
            { r.drain (r s buffer).2 more with
              taken := frame i :: (r.drain (r s buffer).2 more).taken } := by
          rw [Receiver.drain]
          simp only [hcomplete.1, hpos, hle, and_self, if_true]
          rw [hbuffer, List.drop_left, List.take_left]
        rw [hdrain]
        refine ⟨i :: done, todo, by rw [hsplit]; rfl, ?_, ?_, hleft, hinc⟩
        · simp [htaken]
        · simp [hview, hcomplete.2]

/-- After any chunks that make up a beginning of the stream, the complete frames
were taken and the buffer holds the beginning of the next one. -/
theorem Decodes.receive
    (h : Decodes r view frame next)
    (chunks : List (List α))
    (stream : List ι)
    (s : σ)
    (buffer rest : List α)
    (hstream : buffer ++ chunks.flatten ++ rest = (stream.map frame).flatten)
    (hbuffer : Incomplete frame stream buffer) :
    ∃ done todo,
      stream = done ++ todo ∧
      (r.receive s buffer chunks).taken = done.map frame ∧
      view (r.receive s buffer chunks).state = done.foldl next (view s) ∧
      (r.receive s buffer chunks).buffer ++ rest = (todo.map frame).flatten ∧
      Incomplete frame todo (r.receive s buffer chunks).buffer := by
  induction chunks generalizing stream s buffer with
  | nil =>
      refine ⟨[], stream, rfl, rfl, rfl, ?_, hbuffer⟩
      simpa [Receiver.receive] using hstream
  | cons chunk chunks ih =>
      have hnow : (buffer ++ chunk) ++ (chunks.flatten ++ rest) = (stream.map frame).flatten := by
        rw [← hstream]
        simp
      obtain ⟨done, todo, hsplit, htaken, hview, hleft, hinc⟩ :=
        h.drain stream s (buffer ++ chunk) (chunks.flatten ++ rest) hnow
      obtain ⟨done', todo', hsplit', htaken', hview', hleft', hinc'⟩ :=
        ih todo (r.drain s (buffer ++ chunk)).state (r.drain s (buffer ++ chunk)).buffer
          (by rw [← hleft]; simp) hinc
      refine ⟨done ++ done', todo', ?_, ?_, ?_, hleft', hinc'⟩
      · rw [hsplit, hsplit', List.append_assoc]
      · simp [Receiver.receive, htaken, htaken']
      · simp [Receiver.receive, hview, hview']

/-- When the whole stream has arrived, every frame was taken, once and in order,
however the stream was cut. -/
theorem Decodes.receive_all
    (h : Decodes r view frame next)
    (chunks : List (List α))
    (stream : List ι)
    (s : σ)
    (hchunks : chunks.flatten = (stream.map frame).flatten) :
    (r.receive s [] chunks).taken = stream.map frame ∧
    view (r.receive s [] chunks).state = stream.foldl next (view s) ∧
    (r.receive s [] chunks).buffer = [] := by
  have hstart : Incomplete frame stream [] := by
    cases stream with
    | nil =>
        rfl
    | cons i stream =>
        exact ⟨frame i, h.nonempty i, rfl⟩
  obtain ⟨done, todo, hsplit, htaken, hview, hleft, hinc⟩ :=
    h.receive chunks stream s [] [] (by simpa using hchunks) hstart
  cases todo with
  | nil =>
      rw [List.append_nil] at hsplit
      subst hsplit
      exact ⟨htaken, hview, hinc⟩
  | cons i todo =>
      obtain ⟨rest, hrest, hpart⟩ := hinc
      have hlength := congrArg List.length hleft
      have hpartLength := congrArg List.length hpart
      have hpos : 0 < rest.length := List.length_pos_iff.mpr hrest
      simp only [List.append_nil, List.map_cons, List.flatten_cons, List.length_append] at hlength
      rw [List.length_append] at hpartLength
      omega

end Decoding

end Lib
end SakuraNetwork
