import Dpe.Proofs.Failing

/-! # Calls of the signing callback

    The callback is any program over an environment of its own.  What an
    encoder does with it is the list of the calls it makes: the buffer,
    the span, the key that is asked for, the signature buffer and the
    answer.  The environment before and after is connected by the calls,
    so that a callback which keeps a record of its calls has seen those
    and no others. -/

namespace Dpe

open Splice Prog

variable {σ α β : Type}

/-- One call of the callback. -/
structure SignCall where
  buf : ResponseBuffer
  start : Nat
  stop : Nat
  useDerived : Bool
  out : Signature
  answer : Except Stop Signature

/-- The call takes the environment from `env` to `env'`. -/
def SignCall.Made (signCb : SignCallback σ) (c : SignCall) (env env' : σ) :
    Prop :=
  match c.answer with
  | .ok sig => signCb c.buf c.start c.stop c.useDerived c.out env = .ok sig env'
  | .error e => signCb c.buf c.start c.stop c.useDerived c.out env = .error e env'

/-- The calls, one after the other, take the environment from `env` to
    `env'`. -/
def Calls (signCb : SignCallback σ) : List SignCall → σ → σ → Prop
  | [], env, env' => env' = env
  | c :: cs, env, env' => ∃ env1, c.Made signCb env env1 ∧ Calls signCb cs env1 env'

theorem Calls.append {signCb : SignCallback σ} {cs cs' : List SignCall}
    {env env' env'' : σ} (h : Calls signCb cs env env')
    (h' : Calls signCb cs' env' env'') : Calls signCb (cs ++ cs') env env'' := by
  induction cs generalizing env with
  | nil =>
      rw [show env' = env from h] at h'
      exact h'
  | cons c cs ih =>
      obtain ⟨env1, hmade, hrest⟩ := h
      exact ⟨env1, hmade, ih hrest⟩

/-- What a successful call keeps and a failing one keeps is kept. -/
theorem Calls.keeps {φ : Type} {κ : σ → φ} {signCb : SignCallback σ}
    {cs : List SignCall} {env env' : σ}
    (hcb : ∀ buf start stop useDerived out,
      Keeps κ (signCb buf start stop useDerived out))
    (h : Calls signCb cs env env') : κ env' = κ env := by
  induction cs generalizing env with
  | nil => exact congrArg κ h
  | cons c cs ih =>
      obtain ⟨env1, hmade, hrest⟩ := h
      have hkeep := hcb c.buf c.start c.stop c.useDerived c.out env
      unfold SignCall.Made at hmade
      refine (ih hrest).trans ?_
      split at hmade
      · exact hkeep.of_ok hmade
      · exact hkeep.of_error hmade

/-- The environment moves by calls that satisfy `P`. -/
def Called (signCb : SignCallback σ) (P : SignCall → Prop) (env env' : σ) :
    Prop :=
  ∃ cs, Calls signCb cs env env' ∧ ∀ c ∈ cs, P c

namespace Called

variable {signCb : SignCallback σ} {P P' : SignCall → Prop} {env env' env'' : σ}

theorem refl (env : σ) : Called signCb P env env :=
  ⟨[], rfl, fun _ hc => by cases hc⟩

theorem single {c : SignCall} (h : c.Made signCb env env') (hP : P c) :
    Called signCb P env env' := by
  refine ⟨[c], ⟨env', h, rfl⟩, ?_⟩
  intro c' hc'
  rw [List.mem_singleton.mp hc']
  exact hP

theorem trans (h : Called signCb P env env') (h' : Called signCb P env' env'') :
    Called signCb P env env'' := by
  obtain ⟨cs, hcalls, hP⟩ := h
  obtain ⟨cs', hcalls', hP'⟩ := h'
  refine ⟨cs ++ cs', hcalls.append hcalls', ?_⟩
  intro c hc
  rcases List.mem_append.mp hc with hc | hc
  · exact hP c hc
  · exact hP' c hc

theorem mono (h : Called signCb P env env') (hP : ∀ c, P c → P' c) :
    Called signCb P' env env' := by
  obtain ⟨cs, hcalls, hcs⟩ := h
  exact ⟨cs, hcalls, fun c hc => hP c (hcs c hc)⟩

/-- What every call keeps is kept. -/
theorem keeps {φ : Type} {κ : σ → φ}
    (hcb : ∀ buf start stop useDerived out,
      Keeps κ (signCb buf start stop useDerived out))
    (h : Called signCb P env env') : κ env' = κ env := by
  obtain ⟨cs, hcalls, -⟩ := h
  exact hcalls.keeps hcb

end Called

/-- A failure behind a call. -/
theorem Lost.called {signCb : SignCallback σ} {P : SignCall → Prop} {O F : Prop}
    {e : Stop} {s s' : Enc σ} {sig : Signature} {env : σ}
    (h : Lost (Called signCb P) O F e { s with sig := sig, env := env } s')
    (hcall : Called signCb P s.env env) : Lost (Called signCb P) O F e s s' :=
  ⟨h.shape, h.front, hcall.trans h.env, h.blame⟩

/-- What runs behind a call may be looked at from behind it. -/
theorem rebase {signCb : SignCallback σ} {P : SignCall → Prop} {O F : Prop}
    {m : EncM σ β} {s s1 : Enc σ} {env : σ} {ok : β → Enc σ → Prop}
    (sig : Signature) (hcall : Called signCb P s.env env)
    (hm : Post m s1 ok (fun e s' =>
      Lost (Called signCb P) O F e { s with sig := sig, env := env } s')) :
    Post m s1 ok (fun e s' => Lost (Called signCb P) O F e s s') :=
  hm.mono (fun _ _ h => h) (fun _ _ h => h.called hcall)

/-! ## What is handed over -/

/-- The call hands over the span of `bs`, `start` bytes into a buffer of
    the shape of `r`. -/
structure Handed (r : ResponseBuffer) (useDerived : Bool) (start : Nat)
    (bs : Bytes) (c : SignCall) : Prop where
  key_eq : c.useDerived = useDerived
  start_eq : c.start = start
  stop_eq : c.stop = start + bs.length
  shape : c.buf.shape = r.shape
  inside : c.stop ≤ c.buf.capacity
  reads : c.buf.readRange c.start c.stop = .ok bs

theorem Handed.congr {r r' : ResponseBuffer} {useDerived : Bool} {start : Nat}
    {bs : Bytes} {c : SignCall} (h : Handed r useDerived start bs c)
    (hr : r.shape = r'.shape) : Handed r' useDerived start bs c :=
  ⟨h.key_eq, h.start_eq, h.stop_eq, h.shape.trans hr, h.inside, h.reads⟩

/-- The callback was asked to sign a span that reads `bs`, and returned
    `sig`. -/
def SignedOver (signCb : SignCallback σ) (useDerived : Bool) (bs : Bytes)
    (sig : Signature) : Prop :=
  ∃ buf start stop out env env',
    signCb buf start stop useDerived out env = .ok sig env' ∧
    buf.readRange start stop = .ok bs

/-- Asked to sign `bs` at `start`, the callback answers with `sig`,
    whatever else is in the buffer. -/
def Answers (signCb : SignCallback σ) (useDerived : Bool) (start : Nat)
    (bs : Bytes) (out : Signature) (env : σ) (sig : Signature) (env' : σ) : Prop :=
  ∀ buf, buf.readRange start (start + bs.length) = .ok bs →
    signCb buf start (start + bs.length) useDerived out env = .ok sig env'

/-- The call that got `sig` for an answer. -/
structure Signed (signCb : SignCallback σ) (r : ResponseBuffer)
    (useDerived : Bool) (start : Nat) (bs : Bytes) (out : Signature) (env : σ)
    (sig : Signature) (env' : σ) (c : SignCall) : Prop where
  handed : Handed r useDerived start bs c
  out_eq : c.out = out
  answer_eq : c.answer = .ok sig
  made : c.Made signCb env env'

namespace Signed

variable {signCb : SignCallback σ} {r : ResponseBuffer} {useDerived : Bool}
  {start : Nat} {bs : Bytes} {out sig sig' : Signature} {env env' env'' : σ}
  {c : SignCall}

theorem run_eq
    (h : Signed signCb r useDerived start bs out env sig env' c) :
    signCb c.buf start (start + bs.length) useDerived out env = .ok sig env' := by
  have hmade := h.made
  unfold SignCall.Made at hmade
  rw [h.answer_eq, h.handed.start_eq, h.handed.stop_eq, h.handed.key_eq,
    h.out_eq] at hmade
  exact hmade

/-- The answer is the one that was to be expected. -/
theorem unique
    (h : Signed signCb r useDerived start bs out env sig env' c)
    (ha : Answers signCb useDerived start bs out env sig' env'') :
    sig = sig' ∧ env' = env'' := by
  have hreads := h.handed.reads
  rw [h.handed.start_eq, h.handed.stop_eq] at hreads
  have hrun := h.run_eq
  rw [ha c.buf hreads] at hrun
  cases hrun
  exact ⟨rfl, rfl⟩

theorem signedOver
    (h : Signed signCb r useDerived start bs out env sig env' c) :
    SignedOver signCb useDerived bs sig := by
  have hreads := h.handed.reads
  rw [h.handed.start_eq, h.handed.stop_eq] at hreads
  exact ⟨_, _, _, _, _, _, h.run_eq, hreads⟩

end Signed

/-- **SIGNING** the last `ys` that a program has appended, from `start`
    on.  Everything appended so far fits. -/
theorem Grew.sign {signCb : SignCallback σ} {P : SignCall → Prop} {O F : Prop}
    {useDerived : Bool} {f : PUnit → EncM σ β} {s s1 : Enc σ} {xs ys : Bytes}
    {gs : List (Nat × Nat)} {start stop : Nat} {ok : β → Enc σ → Prop}
    (hg : Grew s (xs ++ ys) gs s1) (sig' : Signature) (env' : σ)
    (hfits : Fits 0 s1) (hstart : start = s.writer.offset + xs.length)
    (hstop : stop = start + ys.length) (hpos : 0 < ys.length)
    (hP : ∀ c, Handed s.writer.certificate useDerived start ys c → P c)
    (hO : O → Answers signCb useDerived start ys s.sig s.env sig' env')
    (hf : ∀ c sig env s2,
      Signed signCb s.writer.certificate useDerived start ys s.sig s.env sig env c →
      Grew { s with sig := sig, env := env } (xs ++ ys) gs s2 →
      Post (f ⟨⟩) s2 ok (fun e s' =>
        Lost (Called signCb P) O F e { s with sig := sig, env := env } s')) :
    Post (EncM.sign signCb start stop useDerived >>= f) s1 ok
      (fun e s' => Lost (Called signCb P) O F e s s') := by
  have hoff := hg.opened.offset
  rw [List.length_append] at hoff
  have hcap : s1.writer.offset ≤ s.writer.certificate.capacity := by
    rw [← hg.opened.capacity]
    exact hfits
  have hinside : stop ≤ s1.writer.certificate.capacity := by
    rw [hg.opened.capacity]
    omega
  have hread : s1.writer.certificate.readRange start stop = .ok ys := by
    have hlen : s.writer.offset + xs.length + ys.length
        ≤ s.writer.certificate.bytes.length := by
      rw [ResponseBuffer.length_bytes]
      omega
    rw [ResponseBuffer.readRange_eq (by omega) (by omega) hinside,
      hg.opened.bytes hcap, hstop, hstart, Nat.add_sub_cancel_left,
      Splice.take_drop_splice_append hlen]
  have hhanded : ∀ answer, Handed s.writer.certificate useDerived start ys
      ⟨s1.writer.certificate, start, stop, useDerived, s.sig, answer⟩ :=
    fun _ => ⟨rfl, rfl, hstop, hg.opened.shape, hinside, hread⟩
  refine Post.bind_run ?_ ?_
  · intro _ s2 hrun
    unfold EncM.sign at hrun
    rw [hg.sig, hg.env] at hrun
    cases hcall : signCb s1.writer.certificate start stop useDerived s.sig s.env with
    | ok sig env =>
        rw [hcall] at hrun
        cases hrun
        exact rebase sig (.single (c := ⟨s1.writer.certificate, start, stop,
          useDerived, s.sig, .ok sig⟩) hcall (hP _ (hhanded _)))
          (hf _ sig env _ ⟨hhanded _, rfl, rfl, hcall⟩ (hg.answered sig env))
    | error e env =>
        rw [hcall] at hrun
        cases hrun
  · intro e s2 hrun
    unfold EncM.sign at hrun
    rw [hg.sig, hg.env] at hrun
    cases hcall : signCb s1.writer.certificate start stop useDerived s.sig s.env with
    | ok sig env =>
        rw [hcall] at hrun
        cases hrun
    | error e env =>
        rw [hcall] at hrun
        cases hrun
        refine ⟨hg.opened.shape, hg.opened.front, .single (c :=
          ⟨s1.writer.certificate, start, stop, useDerived, s.sig, .error _⟩) hcall
          (hP _ (hhanded _)), ?_⟩
        intro ho
        -- under `O` the callback does not fail on these bytes
        rw [hstop] at hread hcall
        rw [hO ho _ hread] at hcall
        cases hcall

end Dpe
