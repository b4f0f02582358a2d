import SakuraNetwork.Handshakes

/-!
# The range of the session ids

A session id is drawn from a counter of 16 bits that is only ever increased.  It is
used as the number of a session, with 0 for none; the answer to an init start message
also computes the product `serverSessionId * 0x10000`, in `int`.

* `Drawing`: a process, and the ids that were drawn for its sessions.
* `drawn_le_counter`: as long as the counter does not wrap, the ids are not above it.
* `ids_in_range_iff`: a drawn id is in range exactly if the counter does not wrap, and an
  init start message draws one below `0x8000`.
-/

namespace SakuraNetwork

open Lib

/-- A process, and the values that were drawn for each of its sessions. -/
structure Drawing where
  system : System
  drawn : SessionRef → List UInt16 := fun _ => []

namespace Drawing

/-- The value that `increaseSessionIdCounter` returns next. -/
def nextId (g : Drawing) : UInt16 :=
  (SessionHandler.increaseSessionIdCounter.run g.system.process).value

/-- The session is connected. -/
def Open (g : Drawing) (s : SessionRef) : Prop :=
  (g.system.process.session s).statemachine ≠ .notConnected

/-- The values that were drawn, after an operation. -/
def drawnAfter (g : Drawing) (a : Operation) : SessionRef → List UInt16 :=
  fun s => if a.draws = true ∧ a.session = some s then g.drawn s ++ [g.nextId] else g.drawn s

end Drawing

/-- The runs of a process from its start, with the values that are drawn. -/
def drawing (cfg : Config) : TransitionSystem Drawing Operation where
  init := fun g => (library cfg).init g.system ∧ g.system.process.sessionIdCounter = 0 ∧
    ∀ s, g.drawn s = []
  step := fun g a => ((library cfg).step g.system a).map fun st =>
    { system := st, drawn := g.drawnAfter a }

/-- The largest value of an `int`. -/
def intMax : Nat := 2 ^ 31 - 1

/-- The operation is the answer to an init start message. -/
def Operation.answersStart : Operation → Bool
  | .receive _ buf =>
      match buf.sessionFrame with
      | some (.initStart ..) => true
      | _ => false
  | _ => false

theorem Operation.answersStart_of_sessionFrame
    {buf : RingBuffer}
    {clientSessionId : UInt32}
    {sessionIdentifier : Bytes}
    (h : buf.sessionFrame = some (.initStart clientSessionId sessionIdentifier))
    (s : SessionRef) :
    (Operation.receive s buf).answersStart = true := by
  simp only [Operation.answersStart, h]

theorem Operation.draws_of_answersStart
    {a : Operation}
    (h : a.answersStart = true) :
    a.draws = true := by
  cases a with
  | receive s buf => exact h
  | _ => cases h

/-- A value that is drawn by an operation is not 0 and was not drawn for a session that
is open, and the product with `0x10000` that an answer computes is an `int`. -/
structure IdInRange (g : Drawing) (a : Operation) : Prop where
  nonzero : a.draws = true → g.nextId ≠ 0
  unused : a.draws = true → ∀ s, g.Open s → g.nextId ∉ g.drawn s
  product : a.answersStart = true → g.nextId.toNat * 0x10000 ≤ intMax

/-- An operation draws only before the counter wraps, and answers an init start message
only while the counter is below `0x7FFF`. -/
structure DrawsBelow (g : Drawing) (a : Operation) : Prop where
  draws : a.draws = true → g.system.process.sessionIdCounter.toNat < 0xFFFF
  answers : a.answersStart = true → g.system.process.sessionIdCounter.toNat < 0x7FFF

theorem Drawing.toNat_nextId
    {g : Drawing}
    (h : g.system.process.sessionIdCounter.toNat < 0xFFFF) :
    g.nextId.toNat = g.system.process.sessionIdCounter.toNat + 1 := by
  have hnext : g.nextId = g.system.process.sessionIdCounter + 1 := rfl
  have hone : (1 : UInt16).toNat = 1 := rfl
  rw [hnext, UInt16.toNat_add, hone]
  omega

theorem drawing_step_cases
    {cfg : Config}
    {g g' : Drawing}
    {a : Operation}
    (h : (drawing cfg).step g a = some g') :
    a.enabled g.system = true ∧
      g' = { system := g.system.after cfg a, drawn := g.drawnAfter a } := by
  obtain ⟨st, hst, rfl⟩ := Option.map_eq_some_iff.mp h
  obtain ⟨henabled, rfl⟩ := library_step_cases hst
  exact ⟨henabled, rfl⟩

/-- The counter after an operation. -/
theorem sessionIdCounter_after (cfg : Config) (g : Drawing) (a : Operation) :
    (g.system.after cfg a).process.sessionIdCounter =
      bif a.draws then g.nextId else g.system.process.sessionIdCounter :=
  a.sessionIdCounter_act cfg g.system.process

/-- What was drawn is between 1 and the counter, as long as the counter does not wrap. -/
def DrawnBelow (g : Drawing) : Prop :=
  ∀ s, ∀ v ∈ g.drawn s, 0 < v.toNat ∧ v.toNat ≤ g.system.process.sessionIdCounter.toNat

/-- One operation keeps the drawn values below the counter. -/
theorem drawnBelow_step
    {cfg : Config}
    {g g' : Drawing}
    {a : Operation}
    (h : DrawnBelow g)
    (hbelow : DrawsBelow g a)
    (hstep : (drawing cfg).step g a = some g') :
    DrawnBelow g' := by
  obtain ⟨_, rfl⟩ := drawing_step_cases hstep
  intro s v hv
  have hcounter := sessionIdCounter_after cfg g a
  simp only at hv ⊢
  rw [hcounter]
  cases hdraws : a.draws with
  | false =>
      have hkept : g.drawnAfter a s = g.drawn s := by
        rw [Drawing.drawnAfter, if_neg]
        rw [hdraws]
        exact fun hcond => Bool.false_ne_true hcond.1
      rw [hkept] at hv
      exact h s v hv
  | true =>
      have hnext := Drawing.toNat_nextId (hbelow.draws hdraws)
      simp only [cond_true]
      have hmem : v ∈ g.drawn s ∨ v = g.nextId := by
        rw [Drawing.drawnAfter] at hv
        split at hv
        · rcases List.mem_append.mp hv with hold | hnew
          · exact Or.inl hold
          · exact Or.inr (List.mem_singleton.mp hnew)
        · exact Or.inl hv
      rcases hmem with hold | rfl
      · obtain ⟨hpos, hle⟩ := h s v hold
        omega
      · omega

/-- In a run in which the counter does not wrap, the drawn values are not above it. -/
theorem drawn_le_counter
    {cfg : Config}
    {g : Drawing}
    (hrun : (drawing cfg).Reaches DrawsBelow g) :
    DrawnBelow g := by
  refine hrun.invariant ?_ ?_
  · rintro g ⟨_, _, hnone⟩ s v hv
    rw [hnone s] at hv
    cases hv
  · intro g a g' h hbelow hstep
    exact drawnBelow_step h hbelow hstep

/-- In every run whose operations drew ids only before the counter wraps, and answered
init start messages only while it was below `0x7FFF`, the next operation draws an id in
range exactly if this is still so. -/
theorem ids_in_range_iff
    {cfg : Config}
    {g : Drawing}
    (hrun : (drawing cfg).Reaches DrawsBelow g)
    (a : Operation) :
    IdInRange g a ↔ DrawsBelow g a := by
  have hdrawn := drawn_le_counter hrun
  have hlt := g.system.process.sessionIdCounter.toNat_lt
  have hnext : g.nextId.toNat = (g.system.process.sessionIdCounter.toNat + 1) % 2 ^ 16 := rfl
  constructor
  · intro h
    constructor
    · intro hdraws
      have hnonzero : g.nextId.toNat ≠ 0 := by
        intro hzero
        exact h.nonzero hdraws (UInt16.toNat_inj.mp hzero)
      omega
    · intro hanswers
      have hproduct := h.product hanswers
      have hnonzero : g.nextId.toNat ≠ 0 := by
        intro hzero
        exact h.nonzero (Operation.draws_of_answersStart hanswers) (UInt16.toNat_inj.mp hzero)
      rw [intMax] at hproduct
      omega
  · intro hbelow
    constructor
    · intro hdraws hzero
      have hpositive := Drawing.toNat_nextId (hbelow.draws hdraws)
      rw [hzero] at hpositive
      cases hpositive
    · intro hdraws s _ hmem
      have hle := (hdrawn s g.nextId hmem).2
      have habove := Drawing.toNat_nextId (hbelow.draws hdraws)
      omega
    · intro hanswers
      have hsmall := hbelow.answers hanswers
      rw [hnext, intMax]
      omega

/-- The process before its first operation. -/
def undrawn : Drawing where
  system := initialSystem

theorem init_undrawn (cfg : Config) : (drawing cfg).init undrawn :=
  ⟨init_initialSystem cfg, rfl, fun _ => rfl⟩

/-- The init start message of a client. -/
def initStartBuffer : RingBuffer :=
  bufferOfMessage ⟨5, 1, .sessionInitStart 5 [97]⟩

theorem answersStart_initStartBuffer (s : SessionRef) :
    (Operation.receive s initStartBuffer).answersStart = true := by
  have hsize : Body.Sendable Config.default (.sessionInitStart 5 [97]) := by
    simp [Body.Sendable]
  exact Operation.answersStart_of_sessionFrame
    (sessionFrame_bufferOfMessage (m := ⟨5, 1, .sessionInitStart 5 [97]⟩) hsize) s

/-- A process that started session 0 and accepted session 1, which then receives an init
start message. -/
theorem ids_in_range_iff_accepted :
    ∃ g, (drawing Config.default).exec undrawn [.start 0 [], .accept 1] = some g ∧
      g.drawn 0 = [1] ∧
      (IdInRange g (.receive 1 initStartBuffer) ↔ DrawsBelow g (.receive 1 initStartBuffer)) := by
  refine ⟨_, rfl, rfl, @ids_in_range_iff Config.default _ ?_ (.receive 1 initStartBuffer)⟩
  have hstart : DrawsBelow undrawn (.start 0 []) := by
    constructor
    · intro _
      decide
    · intro h
      cases h
  have haccept : ∀ g, DrawsBelow g (.accept 1) := by
    intro g
    constructor
    · intro h
      cases h
    · intro h
      cases h
  exact .step (.step (.init (init_undrawn Config.default)) hstart rfl) (haccept _) rfl

/-- One session after the other is started, as many as one likes. -/
theorem exists_reachable_counter (cfg : Config) (n : Nat) :
    ∃ g, (drawing cfg).Reachable g ∧
      g.system.process.sessionIdCounter = UInt16.ofNat n ∧
      ∀ s, n ≤ s → g.system.stage s = .fresh := by
  induction n with
  | zero =>
      exact ⟨undrawn, .init (init_undrawn cfg), rfl, fun _ _ => rfl⟩
  | succ n ih =>
      obtain ⟨g, hrun, hcounter, hfresh⟩ := ih
      have henabled : (Operation.start n []).enabled g.system = true :=
        decide_eq_true (hfresh n (Nat.le_refl n))
      have hdraws : (Operation.start n []).draws = true := rfl
      have hstep : (drawing cfg).step g (.start n []) =
          some
            { system := g.system.after cfg (.start n [])
              drawn := g.drawnAfter (.start n []) } := by
        simp only [drawing, library_step henabled, Option.map_some]
      refine ⟨_, .step hrun trivial hstep, ?_, ?_⟩
      · have hafter := sessionIdCounter_after cfg g (.start n [])
        rw [hdraws, cond_true] at hafter
        simp only [hafter]
        have hnext : g.nextId = g.system.process.sessionIdCounter + 1 := rfl
        rw [hnext, hcounter, UInt16.ofNat_add]
        rfl
      · intro s hs
        have hother : (Operation.start n []).session ≠ some s := by
          intro hsame
          have hns : n = s := Option.some.inj hsame
          omega
        simp only [System.stage_after_other cfg g.system hother]
        exact hfresh s (Nat.le_of_succ_le hs)

/-- After `0x7FFF` sessions the product that the answer to an init start message
computes is no `int`. -/
theorem not_ids_in_range :
    ¬ ∀ (cfg : Config) (g : Drawing), (drawing cfg).Reachable g →
      ∀ a, a.enabled g.system = true → IdInRange g a := by
  intro hall
  obtain ⟨g, hrun, hcounter, hfresh⟩ := exists_reachable_counter Config.default 0x7FFF
  have henabled : (Operation.accept 0x7FFF).enabled g.system = true :=
    decide_eq_true (hfresh 0x7FFF (Nat.le_refl _))
  have hstep : (drawing Config.default).step g (.accept 0x7FFF) =
      some
        { system := g.system.after Config.default (.accept 0x7FFF)
          drawn := g.drawnAfter (.accept 0x7FFF) } := by
    simp only [drawing, library_step henabled, Option.map_some]
  have hreceives : (Operation.receive 0x7FFF initStartBuffer).enabled
      (g.system.after Config.default (.accept 0x7FFF)) = true := by
    simp [Operation.enabled, System.after, Operation.session, Operation.nextStage, Stage.Exists]
  have hproduct := (hall Config.default _ (.step hrun trivial hstep)
    (.receive 0x7FFF initStartBuffer) hreceives).product (answersStart_initStartBuffer 0x7FFF)
  have hnext : Drawing.nextId
      { system := g.system.after Config.default (.accept 0x7FFF)
        drawn := g.drawnAfter (.accept 0x7FFF) } = 0x8000 := by
    have hadd : Drawing.nextId
      { system := g.system.after Config.default (.accept 0x7FFF)
        drawn := g.drawnAfter (.accept 0x7FFF) } = g.system.process.sessionIdCounter + 1 := rfl
    rw [hadd, hcounter]
    decide
  rw [hnext] at hproduct
  exact absurd hproduct (by decide)

end SakuraNetwork
