import ContentCode.Proofs.HasherSplit

/-!
The life of a hasher. Until it has given out a code it takes whatever comes, and refuses only to make
a code of an unsupported length; from then on it keeps that code and refuses everything that could
change it. What is refused leaves no trace.
-/

namespace ContentCode

namespace Hasher

variable {σ κ : Type} {m : Method σ κ}

/-- A method that makes codes of the supported lengths and of no others, and takes back what it did
if it makes none. -/
structure Method.Lawful (m : Method σ κ) : Prop where
  finish_of_mem : ∀ s, ∀ bits ∈ Code.supportedBits, ∃ c, (m.finish s bits).1 = .ok c
  finish_of_not_mem : ∀ s, ∀ bits ∉ Code.supportedBits,
    (m.finish s bits).1 = .error (.unsupportedBits bits)
  finish_error : ∀ s bits e, (m.finish s bits).1 = .error e → (m.finish s bits).2 = s

inductive Outcome (m : Method σ κ) :
    Hasher σ κ → Operation → Except Error (Response κ) × Hasher σ κ → Prop
  | update (s) (code?) (bytes) :
      Outcome m ⟨.active, s, code?⟩ (.update bytes) (.ok .done, ⟨.active, m.absorb s bytes, code?⟩)
  | write (s) (code?) (bytes) : Outcome m ⟨.active, s, code?⟩ (.write bytes)
      (.ok (.written bytes.length), ⟨.active, m.absorb s bytes, code?⟩)
  | flush (h) : Outcome m h .flush (.ok .done, h)
  | code (s) (code?) (bits) (c) (s') (hbits : bits ∈ Code.supportedBits) :
      Outcome m ⟨.active, s, code?⟩ (.finalize bits) (.ok (.code c), ⟨.finalized, s', some c⟩)
  | unsupported (s) (code?) (bits) (hbits : bits ∉ Code.supportedBits) :
      Outcome m ⟨.active, s, code?⟩ (.finalize bits)
        (.error (.unsupportedBits bits), ⟨.active, s, code?⟩)
  | late (s) (code?) (op) (request) (hop : op ≠ .flush) :
      Outcome m ⟨.finalized, s, code?⟩ op (.error (.finalized request), ⟨.finalized, s, code?⟩)

theorem step_outcome (hm : m.Lawful) (h : Hasher σ κ) (op : Operation) :
    Outcome m h op (h.step m op) := by
  rcases h with ⟨phase, s, code?⟩
  cases phase with
  | active =>
      cases op with
      | update bytes => exact .update s code? bytes
      | write bytes => exact .write s code? bytes
      | flush => exact .flush _
      | finalize bits =>
          rcases hfinish : m.finish s bits with ⟨result, s'⟩
          by_cases hbits : bits ∈ Code.supportedBits
          · obtain ⟨c, hc⟩ := hm.finish_of_mem s bits hbits
            obtain rfl : result = .ok c := by rw [← hc, hfinish]
            have hstep : step m ⟨.active, s, code?⟩ (.finalize bits) =
                (.ok (.code c), ⟨.finalized, s', some c⟩) := by
              simp only [step, finalize, hfinish, Except.map]
            rw [hstep]
            exact .code s code? bits c s' hbits
          · have he := hm.finish_of_not_mem s bits hbits
            have hs := hm.finish_error s bits _ he
            rw [hfinish] at he hs
            obtain rfl : result = .error (.unsupportedBits bits) := he
            obtain rfl : s' = s := hs
            have hstep : step m ⟨.active, s', code?⟩ (.finalize bits) =
                (.error (.unsupportedBits bits), ⟨.active, s', code?⟩) := by
              simp only [step, finalize, hfinish, Except.map]
            rw [hstep]
            exact .unsupported s' code? bits hbits
  | finalized =>
      cases op with
      | update bytes | write bytes => exact .late s code? _ .update (by simp)
      | flush => exact .flush _
      | finalize bits => exact .late s code? _ .finalize (by simp)

theorem step_error (hm : m.Lawful) {h : Hasher σ κ} {op : Operation} {e : Error}
    (he : (h.step m op).1 = .error e) : (h.step m op).2 = h := by
  have houtcome := step_outcome hm h op
  generalize h.step m op = r at he houtcome
  cases houtcome with
  | update | write | flush | code => cases he
  | unsupported | late => rfl

theorem step_of_finalized (hm : m.Lawful) {h : Hasher σ κ} (hphase : h.phase = .finalized)
    (op : Operation) : (h.step m op).2 = h ∧
      (op ≠ .flush → ∃ e, (h.step m op).1 = .error e ∧ e.kind = .invalidState) := by
  have houtcome := step_outcome hm h op
  generalize h.step m op = r at houtcome
  cases houtcome with
  | update | write | code | unsupported => cases hphase
  | flush => exact ⟨rfl, fun hop => absurd rfl hop⟩
  | late => exact ⟨rfl, fun _ => ⟨_, rfl, rfl⟩⟩

theorem step_of_active {h : Hasher σ κ} (hphase : h.phase = .active) (bytes : List UInt8) :
    (h.step m (.update bytes)).1 = .ok .done ∧ (h.step m (.write bytes)).1 = .ok (.written bytes.length) := by
  rcases h with ⟨phase, s, code?⟩
  subst hphase
  exact ⟨rfl, rfl⟩

theorem step_finalize_iff (hm : m.Lawful) {h : Hasher σ κ} {bits : Nat} :
    (∃ c, (h.step m (.finalize bits)).1 = .ok (.code c)) ↔
      h.phase = .active ∧ bits ∈ Code.supportedBits := by
  have houtcome := step_outcome hm h (.finalize bits)
  generalize h.step m (.finalize bits) = r at houtcome
  cases houtcome with
  | code s code? bits c s' hbits => simpa using hbits
  | unsupported s code? bits hbits => simpa using hbits
  | late => simp

theorem step_finalize_ok (hm : m.Lawful) {h : Hasher σ κ} {bits : Nat} {c : κ}
    (hc : (h.step m (.finalize bits)).1 = .ok (.code c)) :
    (h.step m (.finalize bits)).2.phase = .finalized ∧
      (h.step m (.finalize bits)).2.code? = some c := by
  have houtcome := step_outcome hm h (.finalize bits)
  generalize h.step m (.finalize bits) = r at hc houtcome
  cases houtcome with
  | code s code? bits c' s' hbits =>
      cases hc
      exact ⟨rfl, rfl⟩
  | unsupported | late => cases hc

theorem run_append (h : Hasher σ κ) (ops more : List Operation) :
    h.run m (ops ++ more) = (h.run m ops).run m more :=
  List.foldl_append

theorem run_cons (h : Hasher σ κ) (op : Operation) (ops : List Operation) :
    h.run m (op :: ops) = (h.step m op).2.run m ops :=
  rfl

theorem run_of_finalized (hm : m.Lawful) {h : Hasher σ κ} (hphase : h.phase = .finalized)
    (ops : List Operation) : h.run m ops = h := by
  induction ops with
  | nil => rfl
  | cons op ops ih => rw [run_cons, (step_of_finalized hm hphase op).1, ih]

/-- How a hasher stands after some operations: it has a code if one of them asked for a supported
length, and it is finalized exactly if it has a code. -/
structure Follows (h : Hasher σ κ) (ops : List Operation) : Prop where
  phase : h.phase = .finalized ↔ ∃ bits ∈ Code.supportedBits, .finalize bits ∈ ops
  code : h.phase = .finalized ↔ h.code?.isSome

theorem Follows.step (hm : m.Lawful) {h : Hasher σ κ} {ops : List Operation} (hh : h.Follows ops)
    (op : Operation) : (h.step m op).2.Follows (ops ++ [op]) := by
  obtain ⟨hphase, hcode⟩ := hh
  have houtcome := step_outcome hm h op
  generalize h.step m op = r at houtcome
  cases houtcome with
  | update | write | flush => exact ⟨by simpa using hphase, hcode⟩
  | code s code? bits c s' hbits => exact ⟨iff_of_true rfl ⟨bits, hbits, by simp⟩, by simp⟩
  | unsupported s code? bits hbits =>
      refine ⟨hphase.trans ⟨?_, ?_⟩, hcode⟩
      · rintro ⟨bits', hbits', hmem⟩
        exact ⟨bits', hbits', List.mem_append_left _ hmem⟩
      · rintro ⟨bits', hbits', hmem⟩
        refine ⟨bits', hbits', (List.mem_append.1 hmem).resolve_right fun hlast => hbits ?_⟩
        obtain rfl : bits' = bits := by simpa using hlast
        exact hbits'
  | late s code? op request hop =>
      obtain ⟨bits, hbits, hmem⟩ := hphase.1 rfl
      exact ⟨iff_of_true rfl ⟨bits, hbits, List.mem_append_left _ hmem⟩, hcode⟩

theorem Follows.run (hm : m.Lawful) {h : Hasher σ κ} {before : List Operation} (hh : h.Follows before)
    (ops : List Operation) : (h.run m ops).Follows (before ++ ops) := by
  induction ops generalizing h before with
  | nil => rwa [List.append_nil]
  | cons op ops ih =>
      rw [run_cons, List.append_cons]
      exact ih (hh.step hm op)

theorem follows_new : (new m).Follows [] := ⟨by simp [new], by simp [new]⟩

theorem follows_run (hm : m.Lawful) (ops : List Operation) : ((new m).run m ops).Follows ops :=
  follows_new.run hm ops

theorem Follows.active_iff {h : Hasher σ κ} {ops : List Operation} (hh : h.Follows ops) :
    h.phase = .active ↔ ∀ bits, .finalize bits ∈ ops → bits ∉ Code.supportedBits := by
  have hnot : h.phase = .active ↔ ¬ h.phase = .finalized := by cases h.phase <;> simp
  rw [hnot, hh.phase]
  exact ⟨fun hno bits hmem hbits => hno ⟨bits, hbits, hmem⟩,
    fun hops ⟨bits, hbits, hmem⟩ => hops bits hmem hbits⟩

structure LifeCycle (m : Method σ κ) : Prop where
  /-- It is finalized exactly if it keeps a code. -/
  finalized_iff : ∀ ops, ((new m).run m ops).phase = .finalized ↔ ((new m).run m ops).code?.isSome
  /-- Parts are taken as long as no code of a supported length was asked for. -/
  takes : ∀ ops, (∀ bits, .finalize bits ∈ ops → bits ∉ Code.supportedBits) → ∀ bytes,
    (((new m).run m ops).step m (.update bytes)).1 = .ok .done ∧
    (((new m).run m ops).step m (.write bytes)).1 = .ok (.written bytes.length)
  /-- The code is given out the first time that it is asked for with a supported length. -/
  code_iff : ∀ ops bits, (∃ c, (((new m).run m ops).step m (.finalize bits)).1 = .ok (.code c)) ↔
    bits ∈ Code.supportedBits ∧ ∀ bits', .finalize bits' ∈ ops → bits' ∉ Code.supportedBits
  /-- From then on it stays, and nothing but flushing succeeds, so it is not given out again. -/
  code_stays : ∀ ops bits c, (((new m).run m ops).step m (.finalize bits)).1 = .ok (.code c) →
    ∀ more, ((new m).run m (ops ++ .finalize bits :: more)).phase = .finalized ∧
      ((new m).run m (ops ++ .finalize bits :: more)).code? = some c ∧
      ∀ op ≠ .flush, ∃ e, (((new m).run m (ops ++ .finalize bits :: more)).step m op).1 = .error e ∧
        e.kind = .invalidState
  /-- What fails changes nothing. -/
  error_unchanged : ∀ ops op e, (((new m).run m ops).step m op).1 = .error e →
    (((new m).run m ops).step m op).2 = (new m).run m ops
  /-- So all goes on as if it had not been asked. -/
  error_invisible : ∀ ops op e, (((new m).run m ops).step m op).1 = .error e →
    ∀ more, (new m).run m (ops ++ op :: more) = (new m).run m (ops ++ more)

theorem Method.Lawful.lifeCycle (hm : m.Lawful) : LifeCycle m where
  finalized_iff ops := (follows_run hm ops).code
  takes ops hops bytes := step_of_active ((follows_run hm ops).active_iff.2 hops) bytes
  code_iff ops bits := by
    rw [step_finalize_iff hm, (follows_run hm ops).active_iff, and_comm]
  code_stays ops bits c hc more := by
    obtain ⟨hphase, hcode⟩ := step_finalize_ok hm hc
    have hrun : (new m).run m (ops ++ .finalize bits :: more) =
        (((new m).run m ops).step m (.finalize bits)).2 := by
      rw [run_append, run_cons, run_of_finalized hm hphase]
    rw [hrun]
    exact ⟨hphase, hcode, fun op => (step_of_finalized hm hphase op).2⟩
  error_unchanged ops op e he := step_error hm he
  error_invisible ops op e he more := by
    rw [run_append, run_cons, step_error hm he, ← run_append]

end Hasher

theorem DataState.finish_error {s : DataState} {bits : Nat} {e : Error}
    (he : (s.finish bits).1 = .error e) : (s.finish bits).2 = s := by
  have htaken : (if s.lastFeature?.isSome then (s.features ++ s.lastFeature?.toList).dropLast
      else s.features ++ s.lastFeature?.toList) = s.features := by
    cases s.lastFeature? <;> simp
  simp only [finish] at he ⊢
  split
  next => rfl
  next hbits =>
    rw [hbits] at he
    dsimp only at he ⊢
    split
    next c hc =>
      rw [hc] at he
      cases he
    next => rw [htaken]

theorem DataHasher.lawful : DataHasher.method.Lawful where
  finish_of_mem s bits hbits := by
    obtain ⟨c, hc⟩ := DataCode.exists_ofFeatures (s.features ++ s.lastFeature?.toList) hbits
    refine ⟨c, ?_⟩
    simp only [method, DataState.finish, Code.checkBits_of_mem hbits, hc]
  finish_of_not_mem s bits hbits := by
    simp only [method, s.finish_of_not_mem hbits]
  finish_error s bits e := DataState.finish_error

theorem InstanceCode.exists_ofHash {hash : List UInt8} (hsize : hash.length = 32) (filesize : Nat)
    {bits : Nat} (h : bits ∈ Code.supportedBits) : ∃ c, ofHash hash filesize bits = .ok c := by
  obtain ⟨code, hcode⟩ := Code.exists_generate (t := .inst) .plain (by decide) (by decide) h hsize
  exact ⟨_, by rw [ofHash, hcode]; rfl⟩

theorem InstanceHasher.lawful : InstanceHasher.method.Lawful where
  finish_of_mem s bits hbits :=
    InstanceCode.exists_ofHash (Hash.Blake3.length_finalize s.hash) s.filesize hbits
  finish_of_not_mem s bits hbits := by
    simp only [method, InstanceState.finish, InstanceCode.ofHash, Code.generate, Code.checkBits,
      if_neg hbits]
    rfl
  finish_error s bits e _ := rfl

/-- Data and instance hashers live the same life. -/
theorem hashers_lifeCycle :
    Hasher.LifeCycle DataHasher.method ∧ Hasher.LifeCycle InstanceHasher.method :=
  ⟨DataHasher.lawful.lifeCycle, InstanceHasher.lawful.lifeCycle⟩

end ContentCode
