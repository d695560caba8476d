import ContentCode.Generator.Data
import ContentCode.Generator.Instance

/-!
Codes of bytes that arrive in parts. A hasher takes parts until it has given out a code; from then
on it keeps that code and what it had gathered.
-/

namespace ContentCode

/-- What is known of the bytes so far: the hashes of all chunks but the last one, which may still
grow, and the bytes of that chunk. -/
structure DataState where
  features : List UInt32
  tail : List UInt8
  deriving DecidableEq, Repr

namespace DataState

def new : DataState := ⟨[], []⟩

def absorb (s : DataState) (bytes : List UInt8) : DataState :=
  if bytes.isEmpty then s
  else
    let chunks := DataCode.chunks (s.tail ++ bytes)
    ⟨s.features ++ chunks.dropLast.map Hash.XxHash32.hash, chunks.getLastD []⟩

/-- The hash of the last chunk. No bytes at all are one empty chunk; behind other chunks an empty
tail is none. -/
def lastFeature? (s : DataState) : Option UInt32 :=
  if s.tail = [] ∧ s.features ≠ [] then none else some (Hash.XxHash32.hash s.tail)

/-- The code of the bytes so far, and what remains: the last hash joins the others, and is taken
back if no code comes of them. -/
def finish (s : DataState) (bits : Nat) : Except Error DataCode × DataState :=
  match Code.checkBits bits with
  | .error e => (.error e, s)
  | .ok () =>
    let features := s.features ++ s.lastFeature?.toList
    match DataCode.ofFeatures features bits with
    | .ok c => (.ok c, ⟨features, []⟩)
    | .error e => (.error e, ⟨if s.lastFeature?.isSome then features.dropLast else features, s.tail⟩)

end DataState

structure InstanceState where
  hash : Hash.Blake3
  filesize : Nat

namespace InstanceState

def new : InstanceState := ⟨.new, 0⟩

def absorb (s : InstanceState) (bytes : List UInt8) : InstanceState :=
  ⟨s.hash.update bytes, s.filesize + bytes.length⟩

def finish (s : InstanceState) (bits : Nat) : Except Error InstanceCode × InstanceState :=
  (InstanceCode.ofHash s.hash.finalize s.filesize bits, s)

end InstanceState

inductive Hasher.Phase where
  | active
  | finalized
  deriving DecidableEq, Repr

structure Hasher (σ κ : Type) where
  phase : Hasher.Phase
  state : σ
  code? : Option κ

namespace Hasher

variable {σ κ : Type}

/-- How a kind of hasher begins, takes up bytes, and makes its code; making it may change what was
gathered. -/
structure Method (σ κ : Type) where
  start : σ
  absorb : σ → List UInt8 → σ
  finish : σ → Nat → Except Error κ × σ

/-- What can be asked of a hasher. A write is an update that tells how many bytes it took; since it
takes all of them, there is nothing to flush. -/
inductive Operation where
  | update (bytes : List UInt8)
  | write (bytes : List UInt8)
  | flush
  | finalize (bits : Nat)
  deriving DecidableEq, Repr

inductive Response (κ : Type) where
  | done
  | written (count : Nat)
  | code (c : κ)
  deriving DecidableEq, Repr

def new (m : Method σ κ) : Hasher σ κ := ⟨.active, m.start, none⟩

def isFinalized (h : Hasher σ κ) : Bool := h.phase = .finalized

def update (m : Method σ κ) (bytes : List UInt8) (h : Hasher σ κ) :
    Except Error Unit × Hasher σ κ :=
  match h.phase with
  | .active => (.ok (), { h with state := m.absorb h.state bytes })
  | .finalized => (.error (.finalized .update), h)

/-- Gives out the code. If that fails, the hasher stays active. -/
def finalize (m : Method σ κ) (bits : Nat) (h : Hasher σ κ) : Except Error κ × Hasher σ κ :=
  match h.phase with
  | .active =>
    match m.finish h.state bits with
    | (.ok c, s) => (.ok c, ⟨.finalized, s, some c⟩)
    | (.error e, s) => (.error e, { h with state := s })
  | .finalized => (.error (.finalized .finalize), h)

def step (m : Method σ κ) (h : Hasher σ κ) :
    Operation → Except Error (Response κ) × Hasher σ κ
  | .update bytes =>
    let (result, h) := h.update m bytes
    (result.map fun () => .done, h)
  | .write bytes =>
    let (result, h) := h.update m bytes
    (result.map fun () => .written bytes.length, h)
  | .flush => (.ok .done, h)
  | .finalize bits =>
    let (result, h) := h.finalize m bits
    (result.map .code, h)

end Hasher

abbrev DataHasher := Hasher DataState DataCode

def DataHasher.method : Hasher.Method DataState DataCode :=
  ⟨.new, .absorb, DataState.finish⟩

abbrev InstanceHasher := Hasher InstanceState InstanceCode

namespace InstanceHasher

def method : Hasher.Method InstanceState InstanceCode :=
  ⟨.new, .absorb, InstanceState.finish⟩

def filesize (h : InstanceHasher) : Nat := h.state.filesize

end InstanceHasher

end ContentCode
